import NelomaiClient.AwaitFallible

/-!
# Programs that finish

Total correctness of one program that nothing interferes with: whatever the
environment chooses within a condition, the program ends, and its answer meets
a postcondition. A loop is met by unrolling it as often as it runs. Each command
must be possible, so that nothing holds because the program is stuck.
-/

namespace NelomaiClient.AwaitTotal

open AwaitProgram AwaitFallible

variable {M : Machine} {ε ε' α β γ : Type}

/-- Every run of the program within `ok` ends, with an answer and a state in `Q`. -/
inductive Finishes (ok : ℕ → M.Cmd → M.Input → M.State → Prop) (t : ℕ)
    (Q : α → M.State → Prop) : Prog M α → M.State → Prop
  | ret {a : α} {s : M.State} (h : Q a s) : Finishes ok t Q (.ret a) s
  | act {c : M.Cmd} {k : M.Resp c → Prog M α} {s : M.State}
      (live : ∃ i r s', ok t c i s ∧ M.sem c t i s = some (r, s'))
      (next : ∀ i r s', ok t c i s → M.sem c t i s = some (r, s') → Finishes ok t Q (k r) s') :
      Finishes ok t Q (.act c k) s
  | await {k : Prog M α} {s : M.State} (h : Finishes ok t Q k s) : Finishes ok t Q (.await k) s
  | iter {β γ : Type} {body : γ → Prog M (γ ⊕ β)} {c : γ} {k : β → Prog M α} {s : M.State}
      (h : Finishes ok t Q (Prog.unroll body c k) s) : Finishes ok t Q (.iter body c k) s

def Succeeds (ok : ℕ → M.Cmd → M.Input → M.State → Prop) (t : ℕ) (x : Fallible M ε α)
    (Q : α → M.State → Prop) (s : M.State) : Prop :=
  Finishes ok t (fun r s => ∃ a, r = .ok a ∧ Q a s) x.run s

section Finishes

lemma Finishes.mono {Q : α → M.State → Prop} (hp : ∀ a s, P a s → Q a s)
    (h : Finishes ok t P p s) : Finishes ok t Q p s := by
  induction h with
  | ret h => exact .ret (hp _ _ h)
  | act live _ ih => exact .act live ih
  | await _ ih => exact .await ih
  | iter _ ih => exact .iter ih

lemma bind_assoc (p : Prog M α) (f : α → Prog M β) (g : β → Prog M γ) :
    (p.bind f).bind g = p.bind fun a => (f a).bind g := by
  induction p with
  | ret a => rfl
  | act c k ih =>
    simp only [Prog.bind]
    congr 1
    funext r
    exact ih r f
  | await k ih =>
    simp only [Prog.bind]
    rw [ih f]
  | iter body c k ihb ihk =>
    simp only [Prog.bind]
    congr 1
    funext b
    exact ihk b f

lemma unroll_bind {δ : Type} (body : γ → Prog M (γ ⊕ β)) (c : γ) (k : β → Prog M α)
    (f : α → Prog M δ) :
    (Prog.unroll body c k).bind f = Prog.unroll body c fun b => (k b).bind f := by
  unfold Prog.unroll
  rw [bind_assoc]
  congr 1
  funext x
  cases x with
  | inl c | inr b => rfl

lemma Finishes.bind {Q : β → M.State → Prop} {f : α → Prog M β} (h : Finishes ok t P p s)
    (hf : ∀ a s, P a s → Finishes ok t Q (f a) s) : Finishes ok t Q (p >>= f) s := by
  change Finishes ok t Q (p.bind f) s
  induction h with
  | ret h => exact hf _ _ h
  | act live _ ih => exact .act live ih
  | await _ ih => exact .await ih
  | @iter _ _ body c k s _ ih =>
    rw [unroll_bind] at ih
    exact .iter ih

lemma Finishes.map {P : β → M.State → Prop} {g : α → β}
    (h : Finishes ok t (fun a => P (g a)) p s) : Finishes ok t P (g <$> p) s := by
  have hb : Finishes ok t P (p >>= fun a => .ret (g a)) s := h.bind fun a s' ha => .ret ha
  exact hb

lemma Finishes.call {c : M.Cmd} {Q : M.Resp c → M.State → Prop}
    (live : ∃ i r s', ok t c i s ∧ M.sem c t i s = some (r, s'))
    (next : ∀ i r s', ok t c i s → M.sem c t i s = some (r, s') → Q r s') :
    Finishes ok t Q (Prog.call c) s :=
  .act live fun i r s' ho hs => .ret (next i r s' ho hs)

end Finishes

section Succeeds

lemma Succeeds.mono {P : α → M.State → Prop} (h : Succeeds ok t x P s) (hp : ∀ a s, P a s → Q a s) :
    Succeeds ok t x Q s :=
  Finishes.mono (fun _ s' hr => hr.imp fun a ha => ⟨ha.1, hp a s' ha.2⟩) h

lemma Succeeds.pure {a : α} (h : Q a s) : Succeeds ok t (pure a : Fallible M ε α) Q s :=
  .ret ⟨a, rfl, h⟩

lemma Succeeds.andThen {R : Except ε α → M.State → Prop} (h : Succeeds ok t x P s)
    (hf : ∀ b s, P b s → Finishes ok t R (f b).run s) : Finishes ok t R (x >>= f).run s := by
  refine Finishes.bind h fun r s' hr => ?_
  obtain ⟨b, rfl, hb⟩ := hr
  exact hf b s' hb

lemma Succeeds.bind (h : Succeeds ok t x P s) (hf : ∀ b s, P b s → Succeeds ok t (f b) Q s) :
    Succeeds ok t (x >>= f) Q s := h.andThen hf

lemma Succeeds.map {g : β → α} (h : Succeeds ok t x (fun b => Q (g b)) s) :
    Succeeds ok t (g <$> x) Q s := by
  have hbi : Succeeds ok t (x >>= fun b => Pure.pure (g b)) Q s := h.bind fun b s' hb => .pure hb
  exact hbi

lemma Succeeds.relabel {g : ε → ε'} (h : Succeeds ok t x Q s) :
    Succeeds ok t (relabel g x) Q s := by
  refine Finishes.map (Finishes.mono ?_ h)
  rintro r _ ⟨a, rfl, ha⟩
  exact ⟨a, rfl, ha⟩

lemma Succeeds.attempt {p : Prog M (Except ε α)}
    (h : Finishes ok t (fun r s => ∃ a, r = .ok a ∧ Q a s) p s) : Succeeds ok t (attempt p) Q s := h

lemma Succeeds.surely (h : Finishes ok t Q p s) : Succeeds ok t (surely p : Fallible M ε α) Q s :=
  Finishes.map (h.mono fun a _ ha => ⟨a, rfl, ha⟩)

lemma Succeeds.require {e : ε} {Q : Unit → M.State → Prop} (hb : b = true) (h : Q () s) :
    Succeeds ok t (require b e : Fallible M ε Unit) Q s := by
  subst hb
  exact .pure h

lemma Succeeds.whenever {Q : Unit → M.State → Prop} (hx : b = true → Succeeds ok t x Q s)
    (hq : b = false → Q () s) : Succeeds ok t (whenever b x) Q s := by
  cases b with
  | true => exact hx rfl
  | false => exact .pure (hq rfl)

lemma Succeeds.loop {body : γ → Fallible M ε (γ ⊕ α)} {c : γ}
    (h : Succeeds ok t (body c) (fun x s' => match x with
      | .inl c' => Succeeds ok t (Fallible.loop body c') Q s'
      | .inr a => Q a s') s) :
    Succeeds ok t (Fallible.loop body c) Q s := by
  let round : γ → Prog M (γ ⊕ Except ε α) := fun c => roundOf <$> (body c).run
  have hr : Finishes ok t (fun x s' => Finishes ok t (fun r s => ∃ a, r = .ok a ∧ Q a s)
      (Prog.again round .ret x) s') (round c) s := by
    refine Finishes.map (Finishes.mono ?_ h)
    rintro r _ ⟨x, rfl, hx⟩
    cases x with
    | inl c' => exact hx
    | inr a => exact .ret ⟨a, rfl, hx⟩
  exact .iter (hr.bind fun x s' hx => hx)

end Succeeds

end NelomaiClient.AwaitTotal
