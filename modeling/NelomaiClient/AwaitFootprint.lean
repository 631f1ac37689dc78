import NelomaiClient.AwaitFallible

/-!
# Footprints of programs

The commands that a program may issue, as classes: the footprint of a
composition is found from its parts. A program whose commands keep an assertion
keeps it as a whole. Nothing here depends on what the commands do.
-/

namespace NelomaiClient.AwaitFootprint

open AwaitProgram AwaitRely AwaitFallible

variable {M : Machine} {ε σ τ α β γ : Type} {φ : M.Cmd → Prop}

section Classes

/-- A program that cannot fail issues commands of `φ` only. -/
class Makes (φ : M.Cmd → Prop) (p : Prog M α) : Prop where
  out : p.Uses φ

class Issues (φ : M.Cmd → Prop) (x : Fallible M ε α) : Prop where
  out : x.run.Uses φ

/-- A program with local variables issues commands of `φ` only. -/
class IssuesLocal (φ : M.Cmd → Prop) (x : Local M ε σ α) : Prop where
  /-- The footprint, whatever the variables are. -/
  out : ∀ l, (x.run.run l).Uses φ

/-- A condition that instance search settles by evaluating it. -/
class Evident (p : Prop) : Prop where
  out : p

instance : Evident True := ⟨trivial⟩

instance : Evident (¬ False) := ⟨id⟩

instance (a : α) : Makes φ (pure a) := ⟨trivial⟩

instance : Makes φ Prog.pause := ⟨trivial⟩

instance (f : α → β) (p : Prog M α) [h : Makes φ p] : Makes φ (f <$> p) :=
  ⟨Prog.uses_bind h.out fun _ => trivial⟩

variable {c : M.Cmd}

lemma makes_call (h : φ c) : Makes φ (Prog.call c) := ⟨(Prog.uses_call c).mpr h⟩

lemma makes_ask (h : φ c) : Makes φ (Prog.ask c) := ⟨(Prog.uses_ask c).mpr h⟩

instance (p : Prog M (Except ε α)) [h : Makes φ p] : Issues φ (attempt p) := ⟨h.out⟩

instance (p : Prog M α) [h : Makes φ p] : Issues φ (surely p : Fallible M ε α) := ⟨uses_lift h.out⟩

instance (a : α) : Issues φ (pure a : Fallible M ε α) := ⟨trivial⟩

instance (e : ε) : Issues φ (throw e : Fallible M ε α) := ⟨trivial⟩

instance (r : Except ε α) : Issues φ (decided r : Fallible M ε α) := ⟨trivial⟩

lemma issues_seq {f : β → Fallible M ε α} (hx : Issues φ x) (hf : ∀ b, Issues φ (f b)) :
    Issues φ (x >>= f) := ⟨uses_fallible_bind hx.out fun b => (hf b).out⟩

lemma issues_bind {f : β → Fallible M ε α} [hx : Issues φ x] (hf : ∀ b, Issues φ (f b)) :
    Issues φ (x >>= f) := issues_seq hx hf

instance (x : Fallible M ε β) (f : β → Fallible M ε α) [Issues φ x] [hf : ∀ b, Issues φ (f b)] :
    Issues φ (x >>= f) := issues_bind hf

instance (c : Prop) [Decidable c] (x y : Fallible M ε α) [hx : Issues φ x] [hy : Issues φ y] :
    Issues φ (if c then x else y) := by
  split
  · exact hx
  · exact hy

instance (b : Bool) (e : ε) : Issues φ (require b e : Fallible M ε Unit) := by
  unfold require
  infer_instance

instance (b : Bool) (x : Fallible M ε Unit) [Issues φ x] : Issues φ (whenever b x) := by
  unfold whenever
  infer_instance

lemma issues_outcome (h : Issues φ x) : Issues φ (outcome x) :=
  ⟨uses_lift h.out⟩

instance (x : Fallible M ε α) [h : Issues φ x] : Issues φ (outcome x) := issues_outcome h

instance (f : α → β) (x : Fallible M ε α) [h : Issues φ x] : Issues φ (f <$> x) :=
  ⟨uses_fallible_bind h.out fun _ => trivial⟩

instance (body : γ → Fallible M ε (γ ⊕ β)) (c : γ) [h : ∀ c, Issues φ (body c)] :
    Issues φ (Fallible.loop body c) := ⟨uses_fallible_loop c fun c => (h c).out⟩

instance (l : σ) (x : Local M ε σ α) [h : IssuesLocal φ x] : Issues φ (Local.forget l x) :=
  ⟨uses_forget l h.out⟩

instance (l : σ) (x : Local M ε σ α) [h : IssuesLocal φ x] : Issues φ (Local.observe l x) :=
  ⟨uses_observe l h.out⟩

instance (a : α) : IssuesLocal φ (pure a : Local M ε σ α) := ⟨fun _ => trivial⟩

instance (e : ε) : IssuesLocal φ (throw e : Local M ε σ α) := ⟨fun _ => trivial⟩

instance : IssuesLocal φ (get : Local M ε σ σ) := ⟨fun _ => trivial⟩

instance (l : σ) : IssuesLocal φ (set l : Local M ε σ PUnit) := ⟨fun _ => trivial⟩

lemma issuesLocal_seq {f : β → Local M ε σ α} (hx : IssuesLocal φ x)
    (hf : ∀ b, IssuesLocal φ (f b)) : IssuesLocal φ (x >>= f) :=
  ⟨fun l => uses_local_bind l hx.out fun b => (hf b).out⟩

lemma issuesLocal_bind {f : β → Local M ε σ α} [hx : IssuesLocal φ x]
    (hf : ∀ b, IssuesLocal φ (f b)) : IssuesLocal φ (x >>= f) := issuesLocal_seq hx hf

instance (x : Local M ε σ β) (f : β → Local M ε σ α) [IssuesLocal φ x]
    [hf : ∀ b, IssuesLocal φ (f b)] : IssuesLocal φ (x >>= f) := issuesLocal_bind hf

instance (f : α → β) (x : Local M ε σ α) [h : IssuesLocal φ x] : IssuesLocal φ (f <$> x) :=
  ⟨fun l => uses_local_bind l h.out fun _ _ => trivial⟩

instance (c : Prop) [Decidable c] (x y : Local M ε σ α) [hx : IssuesLocal φ x]
    [hy : IssuesLocal φ y] : IssuesLocal φ (if c then x else y) := by
  split
  · exact hx
  · exact hy

instance (x : Fallible M ε α) [h : Issues φ x] : IssuesLocal φ (Local.lift x : Local M ε σ α) :=
  ⟨fun l => uses_local_lift l h.out⟩

instance (x : Local M ε σ α) [h : IssuesLocal φ x] : IssuesLocal φ (Local.outcome x) :=
  ⟨fun l => uses_local_outcome l h.out⟩

instance (get : τ → σ) (set : σ → τ → τ) (x : Local M ε σ α) [h : IssuesLocal φ x] :
    IssuesLocal φ (Local.zoom get set x) := ⟨fun l => uses_zoom l h.out⟩

instance (body : γ → Local M ε σ (γ ⊕ β)) (c : γ) [h : ∀ c, IssuesLocal φ (body c)] :
    IssuesLocal φ (Local.loop body c) := ⟨fun l => uses_local_loop c l fun c => (h c).out⟩

end Classes

section Tolerance

variable {K : Contract M} {t : ℕ} {J : M.State → Prop}

/-- Commands of `φ` keep assertion `J` of thread `t`, and so does interference. -/
structure Tolerates (K : Contract M) (t : ℕ) (J : M.State → Prop) (φ : M.Cmd → Prop) : Prop where
  rely : ∀ s s', K.inv s' → J s → K.rely t s s' → J s'
  /-- A command keeps it, the invariant and the guarantee. -/
  step : ∀ c i r s s', φ c → K.inv s → J s → K.cond t c i s → M.sem c t i s = some (r, s') →
    K.inv s' ∧ K.guar t c i s s' ∧ J s'

lemma Tolerates.wpe (h : Tolerates K t J φ) (x : Fallible M ε α) [hx : Issues φ x] (hJ : J s) :
    wpe K t x (fun _ => J) (fun _ => J) s := by
  refine wp_mono ?_ (wp_of_uses h.rely h.step hx.out hJ)
  intro r _ hJ'
  cases r with
  | ok a | error e => exact hJ'

lemma Tolerates.wpl_lift (h : Tolerates K t J φ) (x : Fallible M ε α) [Issues φ x] (l : σ)
    (hJ : J s) :
    AwaitFallible.wpl K t (Local.lift x) l (fun _ l' s => l' = l ∧ J s)
      (fun _ l' s => l' = l ∧ J s) s := by
  rw [AwaitFallible.wpl_lift]
  exact wpe_mono (fun _ _ hJ => ⟨rfl, hJ⟩) (fun _ _ hJ => ⟨rfl, hJ⟩) (h.wpe x hJ)

end Tolerance

end NelomaiClient.AwaitFootprint
