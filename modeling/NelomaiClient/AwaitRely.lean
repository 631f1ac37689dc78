import NelomaiClient.AwaitPool

/-!
# Rely-guarantee reasoning for pools of tasks

A contract fixes an invariant of the shared state, the condition the steps of a
run are assumed to meet, what every step guarantees and what a thread may rely
on while it is suspended. `wp` is the weakest precondition of a program under a
contract: interference enters at await points only, and a loop is met by any
loop invariant. The soundness theorem turns `wp` of every operation into the
guarantee of every step of every run.
-/

namespace NelomaiClient.AwaitRely

open AwaitProgram AwaitPool

structure Contract (M : Machine) where
  inv : M.State → Prop
  cond : ℕ → M.Cmd → M.Input → M.State → Prop
  /-- Guarantee of each step: thread, command, input, states before and after. -/
  guar : ℕ → M.Cmd → M.Input → M.State → M.State → Prop
  rely : ℕ → M.State → M.State → Prop
  rely_refl : ∀ t s, rely t s s
  rely_trans : ∀ t s₁ s₂ s₃, rely t s₁ s₂ → rely t s₂ s₃ → rely t s₁ s₃
  /-- The steps of the other threads are within what a thread relies on. -/
  guar_rely : ∀ t u c i s s', t ≠ u → inv s → inv s' → cond t c i s → guar t c i s s' → rely u s s'

variable {M : Machine} {α β γ : Type}

def wp (K : Contract M) (t : ℕ) : {α : Type} → Prog M α → (α → M.State → Prop) → M.State → Prop
  | _, .ret a, Q, s => Q a s
  | _, .act c k, Q, s =>
    ∀ i r s', K.inv s → K.cond t c i s → M.sem c t i s = some (r, s') →
      K.inv s' ∧ K.guar t c i s s' ∧ wp K t (k r) Q s'
  | _, .await k, Q, s => ∀ s', K.inv s' → K.rely t s s' → wp K t k Q s'
  | _, .iter (γ := γ) body c k, Q, s =>
    ∃ I : γ → M.State → Prop, I c s ∧
      ∀ c s, I c s →
        wp K t (body c) (fun x s' => match x with
          | .inl c' => I c' s'
          | .inr b => wp K t (k b) Q s') s

section Rules

variable (K : Contract M) (t : ℕ)

@[simp]
lemma wp_pure (a : α) (Q : α → M.State → Prop) (s : M.State) :
    wp K t (pure a) Q s ↔ Q a s := Iff.rfl

@[simp]
lemma wp_ret (a : α) (Q : α → M.State → Prop) (s : M.State) :
    wp K t (.ret a) Q s ↔ Q a s := Iff.rfl

lemma wp_prog_bind (p : Prog M α) (f : α → Prog M β) (Q : β → M.State → Prop) (s : M.State) :
    wp K t (p.bind f) Q s ↔ wp K t p (fun a s => wp K t (f a) Q s) s := by
  induction p generalizing s with
  | ret a => simp only [Prog.bind, wp_ret]
  | act c k ih | await k ih => simp only [Prog.bind, wp, ih]
  | iter body c k ihb ihk => simp only [Prog.bind, wp, ihk]

@[simp]
lemma wp_bind (p : Prog M α) (f : α → Prog M β) (Q : β → M.State → Prop) (s : M.State) :
    wp K t (p >>= f) Q s ↔ wp K t p (fun a s => wp K t (f a) Q s) s :=
  wp_prog_bind K t p f Q s

@[simp]
lemma wp_map (p : Prog M α) (f : α → β) (Q : β → M.State → Prop) (s : M.State) :
    wp K t (f <$> p) Q s ↔ wp K t p (fun a s => Q (f a) s) s :=
  wp_prog_bind K t p (fun a => .ret (f a)) Q s

lemma wp_call (c : M.Cmd) (Q : M.Resp c → M.State → Prop) (s : M.State) :
    wp K t (Prog.call c) Q s ↔
      ∀ i r s', K.inv s → K.cond t c i s → M.sem c t i s = some (r, s') →
        K.inv s' ∧ K.guar t c i s s' ∧ Q r s' := Iff.rfl

lemma wp_pause (Q : Unit → M.State → Prop) (s : M.State) :
    wp K t Prog.pause Q s ↔ ∀ s', K.inv s' → K.rely t s s' → Q () s' := Iff.rfl

lemma wp_ask (c : M.Cmd) (Q : M.Resp c → M.State → Prop) (s : M.State) :
    wp K t (Prog.ask c) Q s ↔
      ∀ s1, K.inv s1 → K.rely t s s1 →
        ∀ i r s', K.inv s1 → K.cond t c i s1 → M.sem c t i s1 = some (r, s') →
          K.inv s' ∧ K.guar t c i s1 s' ∧ Q r s' := Iff.rfl

variable {K t}

lemma wp_mono {Q' : α → M.State → Prop} (hq : ∀ a s, Q a s → Q' a s) (h : wp K t p Q s) :
    wp K t p Q' s := by
  induction p generalizing s with
  | ret a => exact hq a s h
  | act c k ih =>
    intro i r s' hi hco hs
    obtain ⟨hi', hg, hre⟩ := h i r s' hi hco hs
    exact ⟨hi', hg, ih r hq hre⟩
  | await k ih =>
    intro s' hi hr
    exact ih hq (h s' hi hr)
  | iter body c k ihb ihk =>
    obtain ⟨I, hI, hb⟩ := h
    refine ⟨I, hI, fun c s hc => ihb c ?_ (hb c s hc)⟩
    intro x _ hx
    cases x with
    | inl c' => exact hx
    | inr b => exact ihk b hq hx

lemma wp_loop {Q : β → M.State → Prop} (I : γ → M.State → Prop) (hI : I c s)
    (hb : ∀ c s, I c s → wp K t (body c)
      (fun x s' => match x with
        | .inl c' => I c' s'
        | .inr b => Q b s') s) :
    wp K t (Prog.loop body c) Q s := ⟨I, hI, hb⟩

lemma wp_unroll {k : β → Prog M α} (h : wp K t (.iter body c k) Q s) :
    wp K t (Prog.unroll body c k) Q s := by
  obtain ⟨I, hI, hb⟩ := h
  rw [Prog.unroll, wp_prog_bind]
  refine wp_mono ?_ (hb c s hI)
  intro x _ hx
  cases x with
  | inl c' => exact ⟨I, hx, hb⟩
  | inr b => exact hx

lemma wp_rely (hp : p.suspended = true) (hr : K.rely t s s') (h : wp K t p Q s)
    (hQ : ∀ a, Q a s → Q a s') : wp K t p Q s' := by
  cases p with
  | ret a => exact hQ a h
  | await k => exact fun s'' hi'' hr' => h s'' hi'' (K.rely_trans t _ _ _ hr hr')
  | act | iter => cases hp

lemma wp_of_uses {φ : M.Cmd → Prop} {J : M.State → Prop}
    (hre : ∀ s s', K.inv s' → J s → K.rely t s s' → J s')
    (ha : ∀ c i r s s', φ c → K.inv s → J s → K.cond t c i s → M.sem c t i s = some (r, s') →
      K.inv s' ∧ K.guar t c i s s' ∧ J s') (hp : p.Uses φ) (hJ : J s) :
    wp K t p (fun _ s => J s) s := by
  induction p generalizing s with
  | ret a => exact hJ
  | act c k ih =>
    intro i r s' hi hco hs
    obtain ⟨hi', hg, hJ'⟩ := ha c i r s s' hp.1 hi hJ hco hs
    exact ⟨hi', hg, ih r (hp.2 r) hJ'⟩
  | await k ih => exact fun s' hi' hr => ih hp (hre s s' hi' hJ hr)
  | iter body c k ihb ihk =>
    refine ⟨fun _ => J, hJ, fun c s hc => wp_mono ?_ (ihb c (hp.1 c) hc)⟩
    intro x _ hx
    cases x with
    | inl c' => exact hx
    | inr b => exact ihk b (hp.2 b) hx

end Rules

section Soundness

variable {S : System} {K : Contract S.machine}

/-- Every thread is at a point where its precondition holds, and only the
running thread is not suspended. -/
def Sound (K : Contract S.machine) (P : Pool S) : Prop :=
  K.inv P.state ∧ ∀ t p, P.threads[t]? = some p →
    wp K t p (fun _ _ => True) P.state ∧ (P.running ≠ some t → p.suspended = true)

/-- Every operation meets its precondition in every state of the invariant. -/
def Covers (K : Contract S.machine) : Prop :=
  ∀ op t s, K.inv s → wp K t (S.program op) (fun _ _ => True) s

def Contract.stepCondition (K : Contract S.machine) : StepCondition S := K.cond

lemma Sound.settle (h : Sound K P) (ho : ∀ u, u ≠ t → P.running ≠ some u) (hi : K.inv s)
    (hr : ∀ u, u ≠ t → K.rely u P.state s) (hp : wp K t p (fun _ _ => True) s) :
    Sound K (P.settle t p s) := by
  refine ⟨hi, fun u q hq => ?_⟩
  by_cases hu : t = u
  · subst hu
    have hl : t < P.threads.length := by
      by_contra hge
      simp only [Pool.settle, List.getElem?_set, if_true, hge, if_false] at hq
      cases hq
    simp only [Pool.settle, List.getElem?_set, if_true, hl, Option.some.injEq] at hq
    subst hq
    refine ⟨hp, fun hru => ?_⟩
    by_contra hs
    simp only [Pool.settle, hs, if_false] at hru
    exact hru rfl
  · simp only [Pool.settle, List.getElem?_set, hu, if_false] at hq
    obtain ⟨hw, hs⟩ := h.2 u q hq
    have hn : u ≠ t := fun he => hu he.symm
    have hqs := hs (ho u hn)
    exact ⟨wp_rely hqs (hr u hn) hw fun _ _ => trivial, fun _ => hqs⟩

lemma Sound.issued (h : Sound K P) (hm : Meets K.stepCondition P m) (hs : P.move m = some P')
    {c : S.machine.Cmd} {i : S.machine.Input} (hi : P.issued m = some (t, c, i)) :
    K.guar t c i P.state P'.state := by
  obtain ⟨k, ht⟩ := Pool.issued_thread hi
  obtain ⟨r, hse⟩ := Pool.move_issued hs hi
  have hst := (h.2 t _ ht).1 i r P'.state h.1 (hm t c i hi) hse
  exact hst.2.1

lemma Sound.move (h : Sound K P) (hco : Covers K)
    (hr : ∀ s, K.inv s → K.inv (S.restart s)) (hm : Meets K.stepCondition P m)
    (hs : P.move m = some P') : Sound K P' := by
  cases m with
  | start op =>
    simp only [Pool.move, Option.some.injEq] at hs
    subst hs
    refine ⟨h.1, fun t p hp => ?_⟩
    rcases Nat.lt_or_ge t P.threads.length with hl | hge
    · rw [List.getElem?_append_left hl] at hp
      exact h.2 t p hp
    · rw [List.getElem?_append_right hge] at hp
      have hp : p = .await (S.program op) := by
        rcases hsu : t - P.threads.length with _ | n
        · simpa [hsu] using hp.symm
        · simp [hsu] at hp
      subst hp
      exact ⟨fun s' hi' _ => hco op t s' hi', fun _ => rfl⟩
  | resume t =>
    simp only [Pool.move] at hs
    split at hs
    · rename_i hru
      split at hs
      · rename_i k ht
        cases hs
        have hw := (h.2 t _ ht).1 P.state h.1 (K.rely_refl t P.state)
        refine h.settle (fun u _ => by rw [hru]; simp) h.1 (fun u _ => K.rely_refl u _) hw
      · cases hs
    · cases hs
  | step t i =>
    simp only [Pool.move] at hs
    split at hs
    · rename_i hru
      have ho : ∀ u, u ≠ t → P.running ≠ some u := by
        intro u hu he
        rw [hru] at he
        exact hu (Option.some.inj he).symm
      split at hs
      · rename_i c k ht
        split at hs
        · rename_i r s hse
          cases hs
          have hc : K.cond t c i P.state := hm t c i (by simp only [Pool.issued, ht])
          obtain ⟨hi', hg, hre⟩ := (h.2 t _ ht).1 i r s h.1 hc hse
          refine h.settle ho hi' (fun u hu => ?_) hre
          exact K.guar_rely t u c i P.state s (Ne.symm hu) h.1 hi' hc hg
        · cases hs
      · rename_i body c k ht
        cases hs
        exact h.settle ho h.1 (fun u _ => K.rely_refl u _) (wp_unroll (h.2 t _ ht).1)
      · cases hs
    · cases hs
  | crash =>
    simp only [Pool.move, Option.some.injEq] at hs
    subst hs
    refine ⟨hr _ h.1, fun t p hp => ?_⟩
    simp [Pool.idle] at hp

lemma Reach.sound (h : Reach K.stepCondition (Pool.idle s0) P) (hc : Covers K)
    (hr : ∀ s, K.inv s → K.inv (S.restart s)) (h0 : K.inv s0) : Sound K P := by
  induction h with
  | refl =>
    refine ⟨h0, fun t p hp => ?_⟩
    simp [Pool.idle] at hp
  | tail _ hm hs ih => exact ih.move hc hr hm hs

lemma Reach.guaranteed {cond D : StepCondition S} (hco : Covers K)
    (hr : ∀ s, K.inv s → K.inv (S.restart s)) (h0 : K.inv s0)
    (hc : ∀ t c i s, cond t c i s → K.cond t c i s)
    (hg : ∀ t c i s s', K.guar t c i s s' → D t c i s) (h : Reach cond (Pool.idle s0) P) :
    Reach (fun t c i s => cond t c i s ∧ D t c i s) (Pool.idle s0) P := by
  induction h with
  | refl => exact .refl
  | tail h hm hs ih =>
    have hru : Reach K.stepCondition (Pool.idle s0) _ := h.mono hc
    have hso := Reach.sound hru hco hr h0
    refine ih.tail (fun t c i hi => ⟨hm t c i hi, ?_⟩) hs
    exact hg t c i _ _ (hso.issued (hm.mono hc) hs hi)

end Soundness

section Refinement

/-- A contract over one whose guarantee is already known: each step may use that the
known contract is kept, and has to keep invariant `I` and guarantee `G` beside it. -/
def Contract.refined (K : Contract M) (I : M.State → Prop)
    (C : ℕ → M.Cmd → M.Input → M.State → Prop)
    (G : ℕ → M.Cmd → M.Input → M.State → M.State → Prop) : Contract M where
  inv s := K.inv s ∧ I s
  cond t c i s := K.cond t c i s ∧ C t c i s ∧
    ∀ r s', M.sem c t i s = some (r, s') → K.inv s' ∧ K.guar t c i s s'
  guar t c i s s' := K.guar t c i s s' ∧ G t c i s s'
  rely := K.rely
  rely_refl := K.rely_refl
  rely_trans := K.rely_trans
  guar_rely t u c i s s' hne hinv hinv' hcond hguar :=
    K.guar_rely t u c i s s' hne hinv.1 hinv'.1 hcond.1 hguar.1

variable {S : System}

lemma wp_ask_refined {K : Contract M} {I : M.State → Prop}
    {C : ℕ → M.Cmd → M.Input → M.State → Prop}
    {G : ℕ → M.Cmd → M.Input → M.State → M.State → Prop} {t : ℕ} {c : M.Cmd}
    {Q : M.Resp c → M.State → Prop} {s : M.State}
    (h : ∀ s1 i r s', K.inv s1 → I s1 → K.rely t s s1 → C t c i s1 →
      M.sem c t i s1 = some (r, s') → K.inv s' → K.guar t c i s1 s' →
      I s' ∧ G t c i s1 s' ∧ Q r s') : wp (K.refined I C G) t (Prog.ask c) Q s := by
  refine (wp_ask _ t c Q s).mpr fun s1 hi hr i r s' _ hc hs => ?_
  obtain ⟨hi', hg⟩ := hc.2.2 r s' hs
  obtain ⟨hI, hG, hQ⟩ := h s1 i r s' hi.1 hi.2 hr hc.2.1 hs hi' hg
  exact ⟨⟨hi', hI⟩, ⟨hg, hG⟩, hQ⟩

/-- A move of a sound pool that meets the further condition meets that of the refined contract. -/
lemma Meets.refined (hs : Sound K P) (hm : Meets (fun t c i s => K.cond t c i s ∧ C t c i s) P m) :
    Meets (K.refined I C G).stepCondition P m := by
  intro t c i hi
  obtain ⟨k, ht⟩ := Pool.issued_thread hi
  obtain ⟨hc, hC⟩ := hm t c i hi
  refine ⟨hc, hC, fun r s' hse => ?_⟩
  obtain ⟨hin', hg, -⟩ := (hs.2 t _ ht).1 i r s' hs.1 hc hse
  exact ⟨hin', hg⟩

/-- A run of the known contract whose steps meet the further condition is one of the refined
contract. -/
lemma Reach.refined (hc : Covers K) (hr : ∀ s, K.inv s → K.inv (S.restart s)) (h0 : K.inv s0)
    (h : Reach (fun t c i s => K.cond t c i s ∧ C t c i s) (Pool.idle s0) P) :
    Reach (K.refined I C G).stepCondition (Pool.idle s0) P := by
  induction h with
  | refl => exact .refl
  | tail h hm hs ih =>
    have hso := Reach.sound (h.mono fun _ _ _ _ hco => hco.1) hc hr h0
    exact ih.tail (Meets.refined hso hm) hs

end Refinement

/-- The contract of programs that run one after the other: nothing is relied on
and nothing is promised beside an invariant. -/
def Contract.sequential (inv : M.State → Prop) (cond : ℕ → M.Cmd → M.Input → M.State → Prop) :
    Contract M where
  inv := inv
  cond := cond
  guar _ _ _ _ _ := True
  rely _ _ _ := True
  rely_refl _ _ := trivial
  rely_trans _ _ _ _ _ _ := trivial
  guar_rely _ _ _ _ _ _ _ _ _ _ _ := trivial

lemma wp_call_sequential {inv : M.State → Prop} {cond : ℕ → M.Cmd → M.Input → M.State → Prop}
    {Q : M.Resp c → M.State → Prop}
    (h : ∀ i r s', inv s → cond t c i s → M.sem c t i s = some (r, s') → inv s' ∧ Q r s') :
    wp (Contract.sequential inv cond) t (Prog.call c) Q s := by
  intro i r s' hi hc hs
  obtain ⟨hi', hQ⟩ := h i r s' hi hc hs
  exact ⟨hi', trivial, hQ⟩

lemma Reach.sequential {S : System} {inv : S.machine.State → Prop} {cond : StepCondition S}
    {s0 : S.machine.State} {P : Pool S} (h : Reach cond (Pool.idle s0) P)
    (hc : ∀ op t s, inv s →
      wp (Contract.sequential inv cond) t (S.program op) (fun _ _ => True) s)
    (hr : ∀ s, inv s → inv (S.restart s)) (h0 : inv s0) : inv P.state := by
  have hru : Reach (Contract.sequential inv cond).stepCondition (Pool.idle s0) P := h
  exact (Reach.sound hru hc hr h0).1

end NelomaiClient.AwaitRely
