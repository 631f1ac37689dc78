import Mathlib.Data.List.Basic

/-!
# Programs with await points

A small language for cooperative tasks. A program issues commands of a
machine, suspends at await points and loops. Between two await points a task
runs without interference; the pool semantics of the next module lets other
tasks in only where a program says `await`. Nothing here depends on what the
commands do.
-/

namespace NelomaiClient.AwaitProgram

/-- A machine: its states, its commands with the type of each answer, and what
the environment supplies to one command. A command of a thread is a function
of that input and the state; it is disabled where the function is undefined. -/
structure Machine where
  State : Type
  Cmd : Type
  Resp : Cmd → Type
  /-- What the environment chooses at one command. -/
  Input : Type
  sem : (c : Cmd) → ℕ → Input → State → Option (Resp c × State)

/-- Programs over a machine, with answer type as index because the body of a
loop answers whether it goes on. -/
inductive Prog (M : Machine) : Type → Type 1
  | ret {α : Type} (a : α) : Prog M α
  | act {α : Type} (c : M.Cmd) (k : M.Resp c → Prog M α) : Prog M α
  | await {α : Type} (k : Prog M α) : Prog M α
  | iter {α β γ : Type} (body : γ → Prog M (γ ⊕ β)) (c : γ) (k : β → Prog M α) : Prog M α

namespace Prog

variable {M : Machine} {α β γ : Type}

def bind {α β : Type} : Prog M α → (α → Prog M β) → Prog M β
  | .ret a, f => f a
  | .act c k, f => .act c fun r => (k r).bind f
  | .await k, f => .await (k.bind f)
  | .iter body c k, f => .iter body c fun b => (k b).bind f

instance : Monad (Prog M) where
  pure := Prog.ret
  bind := Prog.bind

def call (c : M.Cmd) : Prog M (M.Resp c) := .act c .ret

def pause : Prog M Unit := .await (.ret ())

def ask (c : M.Cmd) : Prog M (M.Resp c) := .await (.act c .ret)

def guarded (b : Bool) (p : Prog M α) (a : α) : Prog M α := if b then p else .ret a

def loop (body : γ → Prog M (γ ⊕ β)) (c : γ) : Prog M β := .iter body c .ret

def again (body : γ → Prog M (γ ⊕ β)) (k : β → Prog M α) : γ ⊕ β → Prog M α
  | .inl c => .iter body c k
  | .inr b => k b

def unroll (body : γ → Prog M (γ ⊕ β)) (c : γ) (k : β → Prog M α) : Prog M α :=
  (body c).bind (again body k)

def suspended {α : Type} : Prog M α → Bool
  | .ret _ => true
  | .await _ => true
  | .act _ _ => false
  | .iter _ _ _ => false

def Uses (φ : M.Cmd → Prop) : {α : Type} → Prog M α → Prop
  | _, .ret _ => True
  | _, .act c k => φ c ∧ ∀ r, Uses φ (k r)
  | _, .await k => Uses φ k
  | _, .iter body _ k => (∀ c, Uses φ (body c)) ∧ ∀ b, Uses φ (k b)

@[simp]
lemma uses_pure (a : α) : Uses φ (pure a : Prog M α) := trivial

@[simp]
lemma uses_call (c : M.Cmd) : Uses φ (call c) ↔ φ c :=
  ⟨fun h => h.1, fun h => ⟨h, fun _ => trivial⟩⟩

@[simp]
lemma uses_pause : Uses φ (pause : Prog M Unit) := trivial

@[simp]
lemma uses_ask (c : M.Cmd) : Uses φ (ask c) ↔ φ c := uses_call c

lemma uses_guarded (a : α) (hp : Uses φ p) : Uses φ (guarded b p a) := by
  cases b with
  | false => exact uses_pure a
  | true => exact hp

lemma uses_bind {f : α → Prog M β} (hp : Uses φ p) (hf : ∀ a, Uses φ (f a)) :
    Uses φ (p >>= f) := by
  induction p with
  | ret a => exact hf a
  | act c k ih => exact ⟨hp.1, fun r => ih r (hp.2 r) hf⟩
  | await k ih => exact ih hp hf
  | iter body c k ihb ihk => exact ⟨hp.1, fun b => ihk b (hp.2 b) hf⟩

lemma uses_loop {body : γ → Prog M (γ ⊕ β)} (c : γ) (hb : ∀ c, Uses φ (body c)) :
    Uses φ (loop body c) := ⟨hb, fun _ => trivial⟩

end Prog

end NelomaiClient.AwaitProgram
