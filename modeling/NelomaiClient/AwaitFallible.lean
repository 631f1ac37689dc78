import NelomaiClient.AwaitRely

/-!
# Programs that fail

Programs with await points that may end with an error, and such programs with
local variables that survive the error. `wpe` and `wpl` are their weakest
preconditions, with one postcondition for the answer and one for the error.
Loops end at the first error. Nothing here depends on what the commands do.
-/

namespace NelomaiClient.AwaitFallible

open AwaitProgram AwaitRely

variable {M : Machine} {ε σ α β γ : Type}

abbrev Fallible (M : Machine) (ε α : Type) : Type 1 := ExceptT ε (Prog M) α

/-- Programs that answer or fail and keep their local variables either way. -/
abbrev Local (M : Machine) (ε σ α : Type) : Type 1 := ExceptT ε (StateT σ (Prog M)) α

def roundOf : Except ε (γ ⊕ β) → γ ⊕ Except ε β
  | .ok (.inl c) => .inl c
  | .ok (.inr b) => .inr (.ok b)
  | .error e => .inr (.error e)

def Fallible.loop (body : γ → Fallible M ε (γ ⊕ β)) (c : γ) : Fallible M ε β :=
  ExceptT.mk (Prog.loop (fun c => roundOf <$> (body c).run) c)

def localRoundOf : Except ε (γ ⊕ β) × σ → (γ × σ) ⊕ (Except ε β × σ)
  | (.ok (.inl c), l) => .inl (c, l)
  | (.ok (.inr b), l) => .inr (.ok b, l)
  | (.error e, l) => .inr (.error e, l)

/-- Run `body` from `c` until it answers on the right or fails, with local variables. -/
def Local.loop (body : γ → Local M ε σ (γ ⊕ β)) (c : γ) : Local M ε σ β :=
  ExceptT.mk fun l => Prog.loop (fun (c, l) => localRoundOf <$> (body c).run.run l) (c, l)

def Local.lift (x : Fallible M ε α) : Local M ε σ α :=
  ExceptT.mk fun l => (fun r => (r, l)) <$> x.run

def Local.zoom {τ : Type} (get : τ → σ) (set : σ → τ → τ) (x : Local M ε σ α) : Local M ε τ α :=
  ExceptT.mk fun l => (fun (r, l') => (r, set l' l)) <$> x.run.run (get l)

def Local.forget (l : σ) (x : Local M ε σ α) : Fallible M ε α :=
  ExceptT.mk (Prod.fst <$> x.run.run l)

def Local.observe (l : σ) (x : Local M ε σ α) : Fallible M ε (Except ε α × σ) :=
  ExceptT.lift (x.run.run l)

def Local.outcome (x : Local M ε σ α) : Local M ε σ (Except ε α) :=
  ExceptT.mk fun l => (fun (r, l') => (.ok r, l')) <$> x.run.run l

def attempt (p : Prog M (Except ε α)) : Fallible M ε α := ExceptT.mk p

def surely (p : Prog M α) : Fallible M ε α := ExceptT.lift p

def outcome (x : Fallible M ε α) : Fallible M ε (Except ε α) := ExceptT.lift x.run

def decided (r : Except ε α) : Fallible M ε α := ExceptT.mk (pure r)

def require (b : Bool) (e : ε) : Fallible M ε Unit := if b then pure () else throw e

def whenever (b : Bool) (x : Fallible M ε Unit) : Fallible M ε Unit := if b then x else pure ()

def relabel {ε' : Type} (f : ε → ε') (x : Fallible M ε α) : Fallible M ε' α :=
  ExceptT.mk (Except.mapError f <$> x.run)

def wpe (K : Contract M) (t : ℕ) (x : Fallible M ε α) (Q : α → M.State → Prop)
    (E : ε → M.State → Prop) (s : M.State) : Prop :=
  wp K t x.run (fun r s => match r with
    | .ok a => Q a s
    | .error e => E e s) s

def wpl (K : Contract M) (t : ℕ) (x : Local M ε σ α) (l : σ) (Q : α → σ → M.State → Prop)
    (E : ε → σ → M.State → Prop) (s : M.State) : Prop :=
  wp K t (x.run.run l) (fun r s => match r with
    | (.ok a, l) => Q a l s
    | (.error e, l) => E e l s) s

section Fallible

variable (K : Contract M) (t : ℕ) (Q : α → M.State → Prop) (E : ε → M.State → Prop) (s : M.State)

@[simp]
lemma wpe_bind (x : Fallible M ε β) (f : β → Fallible M ε α) :
    wpe K t (x >>= f) Q E s ↔ wpe K t x (fun b s => wpe K t (f b) Q E s) E s := by
  refine Iff.trans (wp_prog_bind K t x.run _ _ s) ?_
  constructor
  all_goals
    refine fun h => wp_mono ?_ h
    intro r _ hr
    cases r with
    | ok b | error e => exact hr

@[simp]
lemma wpe_lift (p : Prog M α) : wpe K t (ExceptT.lift p : Fallible M ε α) Q E s ↔ wp K t p Q s :=
  wp_prog_bind K t p _ _ s

@[simp]
lemma wpe_surely (p : Prog M α) : wpe K t (surely p : Fallible M ε α) Q E s ↔ wp K t p Q s :=
  wpe_lift K t Q E s p

@[simp]
lemma wpe_outcome (x : Fallible M ε α) (Q : Except ε α → M.State → Prop) :
    wpe K t (outcome x) Q E s ↔ wpe K t x (fun a => Q (.ok a)) (fun e => Q (.error e)) s := by
  refine Iff.trans (wpe_lift K t Q E s x.run) ?_
  constructor
  all_goals
    refine fun h => wp_mono ?_ h
    intro r _ hr
    cases r with
    | ok a | error e => exact hr

@[simp]
lemma wpe_map (x : Fallible M ε β) (f : β → α) :
    wpe K t (f <$> x) Q E s ↔ wpe K t x (fun b => Q (f b)) E s := by
  refine Iff.trans (wp_prog_bind K t x.run _ _ s) ?_
  constructor
  all_goals
    refine fun h => wp_mono ?_ h
    intro r _ hr
    cases r with
    | ok b | error e => exact hr

@[simp]
lemma wpe_relabel {ε' : Type} (f : ε → ε') (x : Fallible M ε α) (E' : ε' → M.State → Prop) :
    wpe K t (relabel f x) Q E' s ↔ wpe K t x Q (fun e => E' (f e)) s := by
  refine Iff.trans (wp_prog_bind K t x.run _ _ s) ?_
  constructor
  all_goals
    refine fun h => wp_mono ?_ h
    intro r _ hr
    cases r with
    | ok a | error e => exact hr

lemma wpe_mk (p : Prog M (Except ε α)) :
    wpe K t (ExceptT.mk p) Q E s ↔ wp K t p (fun r s => match r with
      | .ok a => Q a s
      | .error e => E e s) s := Iff.rfl

variable {K t Q E s}

lemma wpe_require {f : Unit → Fallible M ε α} (he : b = false → E e s)
    (hf : b = true → wpe K t (f ()) Q E s) : wpe K t (require b e >>= f) Q E s := by
  rw [wpe_bind]
  cases b with
  | true => exact hf rfl
  | false => exact he rfl

lemma wpe_whenever {Q : Unit → M.State → Prop} (hx : b = true → wpe K t x Q E s)
    (hq : b = false → Q () s) : wpe K t (whenever b x) Q E s := by
  cases b with
  | true => exact hx rfl
  | false => exact hq rfl

lemma wpe_mono {Q' : α → M.State → Prop} {E' : ε → M.State → Prop} (hq : ∀ a s, Q a s → Q' a s)
    (he : ∀ e s, E e s → E' e s) (h : wpe K t x Q E s) : wpe K t x Q' E' s := by
  refine wp_mono ?_ h
  intro r s' hr
  cases r with
  | ok a => exact hq a s' hr
  | error e => exact he e s' hr

lemma wpe_seq {x : Fallible M ε β} {f : β → Fallible M ε α} {P : β → M.State → Prop}
    {F : ε → M.State → Prop} (hx : wpe K t x P F s) (he : ∀ e s, F e s → E e s)
    (hf : ∀ b s, P b s → wpe K t (f b) Q E s) : wpe K t (x >>= f) Q E s :=
  (wpe_bind K t Q E s x f).mpr (wpe_mono hf he hx)

lemma wpe_loop {body : γ → Fallible M ε (γ ⊕ α)} {c : γ} (I : γ → M.State → Prop) (hI : I c s)
    (hb : ∀ c s, I c s → wpe K t (body c)
      (fun x s' => match x with
        | .inl c' => I c' s'
        | .inr a => Q a s') E s) :
    wpe K t (Fallible.loop body c) Q E s := by
  refine wp_loop I hI fun c s hc => ?_
  rw [wp_map]
  refine wp_mono ?_ (hb c s hc)
  intro r _ hr
  rcases r with e | _ | a
  · exact hr
  · exact hr
  · exact hr

end Fallible

section Ensures

variable {K : Contract M} {t : ℕ} {s : M.State} {ε' τ : Type} {x : Fallible M ε α}
  {Q : α → M.State → Prop}

/-- The contract is kept, and an answer meets `Q`; nothing is said about errors. -/
def Ensures (K : Contract M) (t : ℕ) (x : Fallible M ε α) (Q : α → M.State → Prop)
    (s : M.State) : Prop :=
  wpe K t x Q (fun _ _ => True) s

/-- The contract is kept wherever the program starts, and an answer leaves what `f` sees. -/
def Fixes (K : Contract M) (f : M.State → τ) (x : Fallible M ε α) : Prop :=
  ∀ t s, Ensures K t x (fun _ s' => f s' = f s) s

def Keeps (K : Contract M) (x : Fallible M ε α) : Prop := ∀ t s, Ensures K t x (fun _ _ => True) s

lemma Ensures.mono {P : α → M.State → Prop} (h : Ensures K t x P s)
    (hp : ∀ a s, P a s → Q a s) : Ensures K t x Q s := wpe_mono hp (fun _ _ h => h) h

lemma Ensures.pure {a : α} (h : Q a s) : Ensures K t (pure a : Fallible M ε α) Q s := h

lemma Ensures.throw : Ensures K t (throw e : Fallible M ε α) Q s := trivial

lemma Ensures.seq {P : β → M.State → Prop} {x : Fallible M ε β} {f : β → Fallible M ε α}
    (h : Ensures K t x P s) (hf : ∀ b s, P b s → Ensures K t (f b) Q s) :
    Ensures K t (x >>= f) Q s := wpe_seq h (fun _ _ h => h) hf

lemma Ensures.map {g : β → α} {x : Fallible M ε β} (h : Ensures K t x (fun b => Q (g b)) s) :
    Ensures K t (g <$> x) Q s := (wpe_map K t Q (fun _ _ => True) s x g).mpr h

lemma Ensures.relabel (h : Ensures K t x Q s) : Ensures K t (relabel g x) Q s :=
  (wpe_relabel K t Q s g x fun _ _ => True).mpr h

lemma Ensures.require {f : Unit → Fallible M ε α} (h : b = true → Ensures K t (f ()) Q s) :
    Ensures K t (require b e >>= f) Q s :=
  wpe_require (fun _ => trivial) h

lemma Ensures.whenever {x : Fallible M ε Unit} {Q : Unit → M.State → Prop}
    (hx : b = true → Ensures K t x Q s) (hq : b = false → Q () s) :
    Ensures K t (whenever b x) Q s := wpe_whenever hx hq

lemma Ensures.attempt {p : Prog M (Except ε α)}
    (h : wp K t p (fun r s' => ∀ a, r = .ok a → Q a s') s) : Ensures K t (attempt p) Q s := by
  refine wp_mono ?_ h
  intro r _ hr
  cases r with
  | ok a => exact hr a rfl
  | error e => trivial

lemma Ensures.surely (h : wp K t p Q s) :
    Ensures K t (surely p : Fallible M ε α) Q s := (wpe_surely K t Q (fun _ _ => True) s p).mpr h

lemma Ensures.loop {body : γ → Fallible M ε (γ ⊕ α)} (h : ∀ c, Keeps K (body c)) :
    Ensures K t (Fallible.loop body c) (fun _ _ => True) s := by
  refine wpe_loop (fun _ _ => True) trivial fun c s _ => ?_
  refine (h c t s).mono fun r _ _ => ?_
  cases r with
  | inl c' | inr a => trivial

lemma Fixes.keeps (h : Fixes K f x) : Keeps K x := fun t s => (h t s).mono fun _ _ _ => trivial

lemma Fixes.pure (a : α) : Fixes K f (pure a : Fallible M ε α) := fun _ _ => .pure rfl

lemma Fixes.throw (e : ε) : Fixes K f (throw e : Fallible M ε α) := fun _ _ => .throw

lemma Fixes.seq {g : α → Fallible M ε β} (h : Fixes K f x) (hg : ∀ a, Fixes K f (g a)) :
    Fixes K f (x >>= g) := by
  intro t s
  refine (h t s).seq fun a s1 hs1 => ?_
  exact (hg a t s1).mono fun b _ hs2 => hs2.trans hs1

lemma Fixes.map {g : α → β} (h : Fixes K f x) : Fixes K f (g <$> x) := fun t s => .map (h t s)

lemma Fixes.relabel (h : Fixes K f x) : Fixes K f (relabel g x) := fun t s => .relabel (h t s)

lemma Fixes.require (b : Bool) (e : ε) : Fixes K f (require b e : Fallible M ε Unit) := by
  cases b with
  | true => exact .pure ()
  | false => exact .throw e

lemma Fixes.whenever {x : Fallible M ε Unit} (h : Fixes K f x) : Fixes K f (whenever b x) := by
  cases b with
  | true => exact h
  | false => exact .pure ()

lemma Fixes.decided (r : Except ε α) : Fixes K f (decided r : Fallible M ε α) := by
  cases r with
  | ok a => exact .pure a
  | error e => exact .throw e

lemma Fixes.attempt {p : Prog M (Except ε α)} (h : ∀ t s, wp K t p (fun _ s' => f s' = f s) s) :
    Fixes K f (attempt p) := fun t s => .attempt (wp_mono (fun _ _ hs _ _ => hs) (h t s))

lemma Fixes.surely (h : ∀ t s, wp K t p (fun _ s' => f s' = f s) s) :
    Fixes K f (surely p : Fallible M ε α) := fun t s => .surely (h t s)

lemma Keeps.pure (a : α) : Keeps K (pure a : Fallible M ε α) := fun _ _ => .pure trivial

lemma Keeps.throw (e : ε) : Keeps K (throw e : Fallible M ε α) := fun _ _ => .throw

lemma Keeps.seq {g : α → Fallible M ε β} (h : Keeps K x) (hg : ∀ a, Keeps K (g a)) :
    Keeps K (x >>= g) := fun t s => (h t s).seq fun a s' _ => hg a t s'

lemma Keeps.map {g : α → β} (h : Keeps K x) : Keeps K (g <$> x) := fun t s => .map (h t s)

lemma Keeps.relabel (h : Keeps K x) : Keeps K (relabel g x) := fun t s => .relabel (h t s)

lemma Keeps.require {g : Unit → Fallible M ε α} (h : Keeps K (g ())) :
    Keeps K (require b e >>= g) := fun t s => .require fun _ => h t s

lemma Keeps.whenever {x : Fallible M ε Unit} (h : Keeps K x) :
    Keeps K (whenever b x) := fun t s => .whenever (fun _ => h t s) fun _ => trivial

lemma Keeps.outcome (h : Keeps K x) : Keeps K (outcome x : Fallible M ε _) :=
  fun t s => (wpe_outcome K t _ s x _).mpr (h t s)

lemma Ensures.after {x : Fallible M ε β} {g : β → Fallible M ε α} (h : Fixes K f x)
    (hg : ∀ b s', f s' = f s → Ensures K t (g b) Q s') : Ensures K t (x >>= g) Q s :=
  (h t s).seq hg

end Ensures

section Local

variable (K : Contract M) (t : ℕ) (l : σ) (Q : α → σ → M.State → Prop)
  (E : ε → σ → M.State → Prop) (s : M.State)

@[simp]
lemma wpl_throw (e : ε) : wpl K t (throw e : Local M ε σ α) l Q E s ↔ E e l s := Iff.rfl

@[simp]
lemma wpl_bind (x : Local M ε σ β) (f : β → Local M ε σ α) :
    wpl K t (x >>= f) l Q E s ↔ wpl K t x l (fun b l s => wpl K t (f b) l Q E s) E s := by
  refine Iff.trans (wp_prog_bind K t (x.run.run l) _ _ s) ?_
  constructor
  all_goals
    refine fun h => wp_mono ?_ h
    rintro ⟨r, _⟩ _ hr
    cases r with
    | ok b | error e => exact hr

@[simp]
lemma wpl_get (Q : σ → σ → M.State → Prop) :
    wpl K t (get : Local M ε σ σ) l Q E s ↔ Q l l s := Iff.rfl

@[simp]
lemma wpl_set (l' : σ) (Q : PUnit → σ → M.State → Prop) :
    wpl K t (set l' : Local M ε σ PUnit) l Q E s ↔ Q ⟨⟩ l' s := Iff.rfl

@[simp]
lemma wpl_lift (x : Fallible M ε α) :
    wpl K t (Local.lift x : Local M ε σ α) l Q E s ↔
      wpe K t x (fun a => Q a l) (fun e => E e l) s := by
  refine Iff.trans (wp_map K t x.run _ _ s) ?_
  constructor
  all_goals
    refine fun h => wp_mono ?_ h
    intro r _ hr
    cases r with
    | ok a | error e => exact hr

@[simp]
lemma wpe_observe (x : Local M ε σ α) (Q : Except ε α × σ → M.State → Prop)
    (E : ε → M.State → Prop) :
    wpe K t (Local.observe l x) Q E s ↔
      wpl K t x l (fun a l => Q (.ok a, l)) (fun e l => Q (.error e, l)) s := by
  refine Iff.trans (wpe_lift K t Q E s (x.run.run l)) ?_
  constructor
  all_goals
    refine fun h => wp_mono ?_ h
    rintro ⟨r, _⟩ _ hr
    cases r with
    | ok a | error e => exact hr

variable {K t l Q E s}

lemma wpl_mono {Q' : α → σ → M.State → Prop} {E' : ε → σ → M.State → Prop}
    (hq : ∀ a l s, Q a l s → Q' a l s) (he : ∀ e l s, E e l s → E' e l s) (h : wpl K t x l Q E s) :
    wpl K t x l Q' E' s := by
  refine wp_mono ?_ h
  rintro ⟨r, l'⟩ s' hr
  cases r with
  | ok a => exact hq a l' s' hr
  | error e => exact he e l' s' hr

lemma wpl_seq {f : β → Local M ε σ α} {P : β → σ → M.State → Prop} {F : ε → σ → M.State → Prop}
    (hx : wpl K t x l P F s) (he : ∀ e l s, F e l s → E e l s)
    (hf : ∀ b l s, P b l s → wpl K t (f b) l Q E s) : wpl K t (x >>= f) l Q E s :=
  (wpl_bind K t l Q E s x f).mpr (wpl_mono hf he hx)

end Local

section Uses

variable {φ : M.Cmd → Prop}

lemma uses_fallible_bind {x : Fallible M ε β} {f : β → Fallible M ε α} (hx : x.run.Uses φ)
    (hf : ∀ b, (f b).run.Uses φ) : (x >>= f).run.Uses φ := by
  refine Prog.uses_bind hx fun r => ?_
  cases r with
  | ok b => exact hf b
  | error e => exact trivial

lemma uses_lift {p : Prog M α} (hp : p.Uses φ) : (ExceptT.lift p : Fallible M ε α).run.Uses φ :=
  Prog.uses_bind hp fun _ => trivial

lemma uses_fallible_loop {body : γ → Fallible M ε (γ ⊕ β)} (c : γ)
    (hb : ∀ c, (body c).run.Uses φ) : (Fallible.loop body c).run.Uses φ :=
  Prog.uses_loop c fun c => Prog.uses_bind (hb c) fun _ => trivial

lemma uses_local_bind {x : Local M ε σ β} {f : β → Local M ε σ α} (l : σ)
    (hx : ∀ l, (x.run.run l).Uses φ) (hf : ∀ b l, ((f b).run.run l).Uses φ) :
    ((x >>= f).run.run l).Uses φ := by
  refine Prog.uses_bind (hx l) ?_
  rintro ⟨r, l'⟩
  cases r with
  | ok b => exact hf b l'
  | error e => exact trivial

lemma uses_local_lift {x : Fallible M ε α} (l : σ) (hx : x.run.Uses φ) :
    ((Local.lift x : Local M ε σ α).run.run l).Uses φ := Prog.uses_bind hx fun _ => trivial

lemma uses_local_loop {body : γ → Local M ε σ (γ ⊕ β)} (c : γ) (l : σ)
    (hb : ∀ c l, ((body c).run.run l).Uses φ) : ((Local.loop body c).run.run l).Uses φ :=
  Prog.uses_loop (c, l) fun (c, l) => Prog.uses_bind (hb c l) fun _ => trivial

variable {x : Local M ε σ α}

lemma uses_zoom {τ : Type} {get : τ → σ} {set : σ → τ → τ} (l : τ)
    (hx : ∀ l, (x.run.run l).Uses φ) : ((Local.zoom get set x).run.run l).Uses φ :=
  Prog.uses_bind (hx (get l)) fun _ => trivial

lemma uses_local_outcome (l : σ) (hx : ∀ l, (x.run.run l).Uses φ) :
    ((Local.outcome x).run.run l).Uses φ := Prog.uses_bind (hx l) fun _ => trivial

lemma uses_forget (l : σ) (hx : ∀ l, (x.run.run l).Uses φ) :
    (Local.forget l x).run.Uses φ := Prog.uses_bind (hx l) fun _ => trivial

lemma uses_observe (l : σ) (hx : ∀ l, (x.run.run l).Uses φ) :
    (Local.observe l x).run.Uses φ := uses_lift (hx l)

end Uses

end NelomaiClient.AwaitFallible
