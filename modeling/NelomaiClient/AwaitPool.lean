import NelomaiClient.AwaitProgram

/-!
# Pools of tasks

The interleaving semantics of programs with await points. A pool holds the
shared state, its threads in order of their start, and the thread that runs at
the moment. A move starts a task, resumes a suspended one, lets the running one
issue its next command, or kills the process and keeps what the reset keeps.
Threads switch only at suspended programs.
-/

namespace NelomaiClient.AwaitPool

open AwaitProgram

/-- A system: a machine, the operations tasks are started with, and what is
left of a state when the process dies. -/
structure System where
  machine : Machine
  Op : Type
  program : Op → Prog machine Unit
  /-- State after the process died and was started again. -/
  restart : machine.State → machine.State

structure Pool (S : System) where
  state : S.machine.State
  threads : List (Prog S.machine Unit)
  running : Option ℕ

inductive Move (S : System) where
  | start (op : S.Op)
  | resume (t : ℕ)
  | step (t : ℕ) (i : S.machine.Input)
  | crash

def segment {S : System} (t : ℕ) (inputs : List S.machine.Input) : List (Move S) :=
  .resume t :: inputs.map (.step t)

variable {S : System}

namespace Pool

def idle (s : S.machine.State) : Pool S := ⟨s, [], none⟩

def settle (P : Pool S) (t : ℕ) (p : Prog S.machine Unit) (s : S.machine.State) : Pool S :=
  ⟨s, P.threads.set t p, if p.suspended then none else some t⟩

def move (P : Pool S) : Move S → Option (Pool S)
  | .start op => some { P with threads := P.threads ++ [.await (S.program op)] }
  | .resume t =>
    if P.running = none then
      match P.threads[t]? with
      | some (.await k) => some (P.settle t k P.state)
      | _ => none
    else none
  | .step t i =>
    if P.running = some t then
      match P.threads[t]? with
      | some (.act c k) =>
        match S.machine.sem c t i P.state with
        | some (r, s) => some (P.settle t (k r) s)
        | none => none
      | some (.iter body c k) => some (P.settle t (Prog.unroll body c k) P.state)
      | _ => none
    else none
  | .crash => some (idle (S.restart P.state))

def issued (P : Pool S) : Move S → Option (ℕ × S.machine.Cmd × S.machine.Input)
  | .step t i =>
    match P.threads[t]? with
    | some (.act c _) => some (t, c, i)
    | _ => none
  | _ => none

end Pool

/-- A condition on single steps: thread, command, input and the state before. -/
abbrev StepCondition (S : System) : Type :=
  ℕ → S.machine.Cmd → S.machine.Input → S.machine.State → Prop

def Meets (cond : StepCondition S) (P : Pool S) (m : Move S) : Prop :=
  ∀ t c i, P.issued m = some (t, c, i) → cond t c i P.state

/-- Pools that runs from `P₀` reach when every step meets the condition. -/
inductive Reach (cond : StepCondition S) (P₀ : Pool S) : Pool S → Prop
  | refl : Reach cond P₀ P₀
  | tail {P P' : Pool S} {m : Move S} (h : Reach cond P₀ P) (hm : Meets cond P m)
      (hs : P.move m = some P') : Reach cond P₀ P'

variable {P P' : Pool S} {m : Move S} {t : ℕ} {c : S.machine.Cmd} {i : S.machine.Input}
  {cond : StepCondition S} {P₀ : Pool S} {I : S.machine.State → Prop}

lemma Pool.move_cases (hs : P.move m = some P') :
    (∃ t c i, P.issued m = some (t, c, i)) ∨ P'.state = P.state ∨ P'.state = S.restart P.state := by
  cases m with
  | start op =>
    cases hs
    exact .inr (.inl rfl)
  | resume t =>
    simp only [Pool.move] at hs
    split at hs
    · split at hs
      · cases hs
        exact .inr (.inl rfl)
      · cases hs
    · cases hs
  | crash =>
    cases hs
    exact .inr (.inr rfl)
  | step t i =>
    simp only [Pool.move] at hs
    split at hs
    · split at hs
      · rename_i c k ht
        exact .inl ⟨t, c, i, by simp only [Pool.issued, ht]⟩
      · cases hs
        exact .inr (.inl rfl)
      · cases hs
    · cases hs

lemma Pool.issued_thread (h : P.issued m = some (t, c, i)) :
    ∃ k, P.threads[t]? = some (.act c k) := by
  cases m with
  | step u j =>
    simp only [Pool.issued] at h
    split at h
    · rename_i k ht
      cases h
      exact ⟨k, ht⟩
    · cases h
  | _ => cases h

lemma Meets.mono (hc : ∀ t c i s, cond t c i s → cond' t c i s) (h : Meets cond P m) :
    Meets cond' P m :=
  fun t c i hi => hc t c i P.state (h t c i hi)

lemma Reach.mono (hc : ∀ t c i s, cond t c i s → cond' t c i s) (h : Reach cond P₀ P) :
    Reach cond' P₀ P := by
  induction h with
  | refl => exact .refl
  | tail _ hm hs ih => exact ih.tail (hm.mono hc) hs

lemma Reach.trans (h1 : Reach cond P₀ P1) (h2 : Reach cond P1 P2) : Reach cond P₀ P2 := by
  induction h2 with
  | refl => exact h1
  | tail _ hm hs ih => exact ih.tail hm hs

/-- What every command and a restart keep holds in every pool that is reached from a pool in
which it holds. -/
lemma Reach.preserved
    (hcm : ∀ t c i r s s', cond t c i s → I s → S.machine.sem c t i s = some (r, s') → I s')
    (hr : ∀ s, I s → I (S.restart s)) (h0 : I P₀.state) (h : Reach cond P₀ P) :
    I P.state := by
  induction h with
  | refl => exact h0
  | @tail P P' m _ hm hs ih =>
    cases m with
    | start op =>
      cases hs
      exact ih
    | resume t =>
      simp only [Pool.move] at hs
      split at hs
      · split at hs
        · cases hs
          exact ih
        · cases hs
      · cases hs
    | step t i =>
      simp only [Pool.move] at hs
      split at hs
      · split at hs
        · rename_i c k ht
          split at hs
          · rename_i r s hse
            cases hs
            have hc : cond t c i P.state := hm t c i (by simp only [Pool.issued, ht])
            exact hcm t c i r _ _ hc ih hse
          · cases hs
        · cases hs
          exact ih
        · cases hs
      · cases hs
    | crash =>
      cases hs
      exact hr _ ih

lemma Reach.invariant
    (hc : ∀ t c i r s s', cond t c i s → I s → S.machine.sem c t i s = some (r, s') → I s')
    (hr : ∀ s, I s → I (S.restart s)) {s0 : S.machine.State} (h0 : I s0)
    (h : Reach cond (Pool.idle s0) P) : I P.state := Reach.preserved hc hr h0 h

lemma Pool.move_issued (hs : P.move m = some P') (hi : P.issued m = some (t, c, i)) :
    ∃ r, S.machine.sem c t i P.state = some (r, P'.state) := by
  cases m with
  | step u j =>
    simp only [Pool.issued] at hi
    split at hi
    · rename_i c' k ht
      cases hi
      simp only [Pool.move, ht] at hs
      split at hs
      · split at hs
        · rename_i r s hse
          cases hs
          exact ⟨r, hse⟩
        · cases hs
      · cases hs
    · cases hi
  | _ => cases hi

def unconditioned (S : System) : StepCondition S := fun _ _ _ _ => True

instance (t : ℕ) (c : S.machine.Cmd) (i : S.machine.Input) (s : S.machine.State) :
    Decidable (unconditioned S t c i s) := isTrue trivial

section Executor

variable (cond : StepCondition S) [∀ t c i s, Decidable (cond t c i s)]

def meets (P : Pool S) (m : Move S) : Bool :=
  match P.issued m with
  | some (t, c, i) => decide (cond t c i P.state)
  | none => true

/-- The pool after a list of moves, if each is possible and meets the condition. -/
def moves (P : Pool S) : List (Move S) → Option (Pool S)
  | [] => some P
  | m :: rest =>
    if meets cond P m then
      match P.move m with
      | some P' => moves P' rest
      | none => none
    else none

lemma meets_iff : meets cond P m = true ↔ Meets cond P m := by
  unfold meets Meets
  cases P.issued m with
  | none => simp
  | some =>
    simp only [decide_eq_true_eq, Option.some.injEq]
    constructor
    · rintro h t c i rfl
      exact h
    · exact fun h => h _ _ _ rfl

lemma Reach.moves {P₀ P P' : Pool S} (h : Reach cond P₀ P) (ms : List (Move S))
    (hs : AwaitPool.moves cond P ms = some P') : Reach cond P₀ P' := by
  induction ms generalizing P with
  | nil =>
    simp only [AwaitPool.moves, Option.some.injEq] at hs
    exact hs ▸ h
  | cons m rest ih =>
    simp only [AwaitPool.moves] at hs
    split at hs
    · rename_i hm
      split at hs
      · rename_i Q hq
        exact ih (h.tail ((meets_iff cond).mp hm) hq) hs
      · cases hs
    · cases hs

variable {cond} in
lemma Reach.observed {β : Type} {P : Pool S} {ms : List (Move S)} {obs : Pool S → β} {b : β}
    (h : (AwaitPool.moves cond P ms).map obs = some b) : ∃ P', Reach cond P P' ∧ obs P' = b := by
  obtain ⟨P', hm, ho⟩ := Option.map_eq_some_iff.mp h
  exact ⟨P', Reach.moves cond .refl ms hm, ho⟩

/-- What the pools before and after a move show that is possible and allowed after a run. -/
def lastMove {β : Type} (P : Pool S) (ms : List (Move S)) (m : Move S) (obs : Pool S → Pool S → β) :
    Option β :=
  (moves cond P ms).bind fun P₁ => if meets cond P₁ m then (P₁.move m).map (obs P₁) else none

variable {cond} in
lemma Reach.lastMove {β : Type} {P : Pool S} {ms : List (Move S)} {m : Move S}
    {obs : Pool S → Pool S → β} {b : β} (h : AwaitPool.lastMove cond P ms m obs = some b) :
    ∃ P1 P', Reach cond P P1 ∧ Meets cond P1 m ∧ P1.move m = some P' ∧ obs P1 P' = b := by
  obtain ⟨P1, hmo, hl⟩ := Option.bind_eq_some_iff.mp h
  split at hl
  · rename_i hm
    obtain ⟨P', hP', ho⟩ := Option.map_eq_some_iff.mp hl
    exact ⟨P1, P', Reach.moves cond .refl ms hmo, (meets_iff cond).mp hm, hP', ho⟩
  · cases hl

end Executor

end NelomaiClient.AwaitPool
