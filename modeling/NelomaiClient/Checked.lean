import Mathlib.Data.Option.Basic

/-!
# Checked computations

Two ways to stop with an error, and what it means that a computation did not
stop: a required condition holds, a demanded value is there, and a sequence
went through both of its parts. A list of checks with their messages stops at
the first that fails.
-/

namespace NelomaiClient.Checked

variable {ε α β : Type}

def ensure (b : Bool) (e : ε) : Except ε Unit := if b then .ok () else .error e

def present (value : Option α) (e : ε) : Except ε α := value.elim (.error e) .ok

@[simp]
lemma ensure_eq_ok : ensure b e = .ok u ↔ b = true := by
  cases b with
  | true | false => simp [ensure]

@[simp]
lemma present_eq_ok : present value e = .ok a ↔ value = some a := by
  cases value with
  | none | some b => simp [present]

@[simp]
lemma bind_eq_ok {f : α → Except ε β} : (x >>= f) = .ok b ↔ ∃ a, x = .ok a ∧ f a = .ok b := by
  cases x with
  | error e | ok a => simp [bind, Except.bind]

@[simp]
lemma pure_eq_ok : (pure a : Except ε α) = .ok b ↔ a = b := by
  simp [pure, Except.pure]

/-- A run of steps that did not stop keeps a relation with another run over the same list. -/
lemma foldlM_ok {γ : Type} {step : β → α → Except ε β} {scan : γ → α → γ} {R : β → γ → Prop}
    (hs : ∀ b c a b', step b a = .ok b' → R b c → R b' (scan c a)) {as : List α} {b b' : β} {c : γ}
    (h : as.foldlM step b = .ok b') (hr : R b c) : R b' (as.foldl scan c) := by
  induction as generalizing b c with
  | nil => exact pure_eq_ok.mp h ▸ hr
  | cons a as ih =>
    rw [List.foldlM_cons] at h
    obtain ⟨b1, hb1, h⟩ := bind_eq_ok.mp h
    exact ih h (hs b c a b1 hb1 hr)

abbrev Check : Type := Bool × String

def whenSome (value : Option α) (checks : α → List Check) : List Check := value.elim [] checks

def passes (checks : List Check) : Bool := checks.all (·.1)

def verdict (message : String → ε) (checks : List Check) : Except ε Unit :=
  match checks.find? (fun check => !check.1) with
  | none => .ok ()
  | some check => .error (message check.2)

@[simp]
lemma passes_nil : passes [] = true := rfl

@[simp]
lemma passes_cons (check : Check) (checks : List Check) :
    passes (check :: checks) = (check.1 && passes checks) := rfl

@[simp]
lemma passes_append (left right : List Check) :
    passes (left ++ right) = (passes left && passes right) := by
  simp [passes]

@[simp]
lemma passes_whenSome_none (checks : α → List Check) : passes (whenSome none checks) = true := rfl

@[simp]
lemma passes_whenSome_some (a : α) (checks : α → List Check) :
    passes (whenSome (some a) checks) = passes (checks a) := rfl

lemma passes_flatMap (values : List α) (checks : α → List Check) :
    passes (values.flatMap checks) = values.all fun a => passes (checks a) := by
  simp [passes]

end NelomaiClient.Checked
