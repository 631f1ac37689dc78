import NelomaiClient.CoreFootprint

/-!
# Effects of single commands

What one command of the core can do to the world, by kind: which fields it
leaves, and what it does to the journals.
-/

namespace NelomaiClient.CoreEffect

open ConnectionContract CoreContract RuntimeRecord RuntimeJournal
open CoreMachine CoreFootprint Storage

section Record

variable {α β : Type}

end Record

section Perform

def writesJournal : StoreCall → Bool
  | .journalPendingStart _ | .replacePendingStartOperation _ _ => true
  | _ => false

/-- A record function leaves everything but the record, the journal flag, the
account since the journal was written and the record held by a pin. -/
lemma perform_world (f : StoreCall) (t : ℕ) (w : CoreWorld) : ∃ since stray,
    (f.perform t outcomes fresh nowUnix w).2 =
        { w.withDisk (f.run fresh nowUnix (w.disk outcomes)).2 with
          since := since, strayLoaded := stray } ∧
      (writesJournal f = false → since = w.since) ∧
      (storeKind f ≠ .stray → stray = w.strayLoaded) := by
  unfold StoreCall.perform StoreCall.noted
  dsimp only
  split
  · split
    · exact ⟨w.since, w.strayLoaded, rfl, fun _ => rfl, fun _ => rfl⟩
    · exact ⟨[], w.strayLoaded, rfl, (nomatch ·), fun _ => rfl⟩
  · split
    · exact ⟨w.since, w.strayLoaded, rfl, fun _ => rfl, fun _ => rfl⟩
    · exact ⟨[], w.strayLoaded, rfl, (nomatch ·), fun _ => rfl⟩
  · exact ⟨w.since, _, rfl, fun _ => rfl, fun h => absurd rfl h⟩
  · exact ⟨w.since, none, rfl, fun _ => rfl, fun h => absurd rfl h⟩
  · exact ⟨w.since, w.strayLoaded, rfl, fun _ => rfl, fun _ => rfl⟩

lemma sem_store (h : sem (.store f) t i w = some (r, w')) :
    ∃ outcomes fresh nowUnix since stray, w' =
      { w.withDisk (f.run fresh nowUnix (w.disk outcomes)).2 with since := since, strayLoaded :=
      stray } ∧ r = (f.run fresh nowUnix (w.disk outcomes)).1 ∧ (writesJournal f = false → since =
      w.since) ∧ (storeKind f ≠ .stray → stray = w.strayLoaded) := by
  simp only [sem, Option.map_eq_some_iff] at h
  obtain ⟨⟨outcomes, fresh, nowUnix⟩, -, h⟩ := h
  obtain ⟨since, stray, hw, hs, hst⟩ := perform_world f t w
  have hr : (f.perform t outcomes fresh nowUnix w).1 =
      (f.run fresh nowUnix (w.disk outcomes)).1 := rfl
  rw [h] at hw hr
  exact ⟨outcomes, fresh, nowUnix, since, stray, hw, hr, hs, hst⟩

end Perform

section State

variable {w : CoreWorld}

structure Untouched (w w' : CoreWorld) : Prop where
  record : w'.record = w.record
  holder : w'.holder = w.holder
  log : w'.log = w.log
  /-- The account since the journal was written is left. -/
  since : w'.since = w.since
  strayLoaded : w'.strayLoaded = w.strayLoaded

lemma Untouched.refl (w : CoreWorld) : Untouched w w := ⟨rfl, rfl, rfl, rfl, rfl⟩

lemma fenced_untouched (epoch : UInt64) (hf : Untouched w (f w)) :
    Untouched w (w.fenced epoch f).2 := by
  unfold CoreWorld.fenced
  split
  · exact hf
  · exact .refl w

lemma run_untouched (g : StateCall) : Untouched w (g.run w).2 := by
  have hp (phase : Phase) : Untouched w (w.withPhase phase) := ⟨rfl, rfl, rfl, rfl, rfl⟩
  have hc (connection : Option Connection) : Untouched w (w.withConnection connection) :=
    ⟨rfl, rfl, rfl, rfl, rfl⟩
  cases g with
  | setStartPhase phase epoch => exact fenced_untouched epoch (hp phase)
  | writeCoreIf epoch state => exact fenced_untouched epoch ⟨rfl, rfl, rfl, rfl, rfl⟩
  | ensureStartNotCancelled epoch => exact fenced_untouched epoch (.refl w)
  | forgetConnection epoch leaseId =>
    refine fenced_untouched epoch ?_
    split
    · exact hc none
    · exact .refl w
  | setCompensationState state epoch | replaceConnection leaseId connection
  | applyBootstrapError error preserveLocal | ownerFinish stopped successPhase =>
    dsimp only [StateCall.run]
    split <;> exact ⟨rfl, rfl, rfl, rfl, rfl⟩
  | applyReconciledStalledStopTerminal leaseId status =>
    dsimp only [StateCall.run]
    split
    · split <;> exact ⟨rfl, rfl, rfl, rfl, rfl⟩
    · exact .refl w
  | _ => exact ⟨rfl, rfl, rfl, rfl, rfl⟩

lemma sem_state (h : sem (.state g) t i w = some (r, w')) : g.run w = (r, w') := Option.some.inj h

end State

section Other

lemma sem_question (h : sem (.question q) t i w = some (r, w')) : w' = w := by
  simp only [sem, Option.map_eq_some_iff] at h
  obtain ⟨_, -, h⟩ := h
  exact (Prod.mk.inj h).2.symm

lemma sem_panel (h : sem (.panel p) t i w = some (r, w')) :
    w' = w.noteAnswer (p.event r) := by
  simp only [sem, Option.map_eq_some_iff] at h
  obtain ⟨_, -, h⟩ := h
  obtain ⟨rfl, rfl⟩ := Prod.mk.inj h
  rfl

lemma sem_acquire (h : sem (.acquire gate) t i w = some (r, w')) :
    w.holder gate = none ∧ w' = { w with holder := Function.update w.holder gate (some t) } := by
  simp only [sem] at h
  split at h
  · rename_i hf
    exact ⟨hf, (Prod.mk.inj (Option.some.inj h)).2.symm⟩
  · cases h

lemma sem_release (h : sem (.release gate) t i w = some (r, w')) : w' = w.released t gate :=
  (Prod.mk.inj (Option.some.inj h)).2.symm

lemma sem_failStart (h : sem (.failStart epoch operationId error) t i w = some (r, w')) :
    ∃ record active state,
      w' = { w with record := record, pendingStartActive := active, core := state } := by
  simp only [sem, Option.map_eq_some_iff] at h
  obtain ⟨outcomes, -, h⟩ := h
  obtain rfl : _ = w' := congrArg Prod.snd h
  unfold CoreWorld.failStart
  split
  · dsimp only
    split <;> exact ⟨_, _, _, rfl⟩
  · split <;> exact ⟨_, _, _, rfl⟩

lemma sem_publishStarted
    (h : sem (.publishStarted epoch operationId connection) t i w = some (r, w')) :
    ∃ record active state,
      w' = { w with record := record, pendingStartActive := active, core := state } := by
  simp only [sem, Option.map_eq_some_iff] at h
  obtain ⟨outcomes, -, h⟩ := h
  obtain rfl : _ = w' := congrArg Prod.snd h
  unfold CoreWorld.publishStarted
  split <;> exact ⟨_, _, _, rfl⟩

lemma sem_holder (h : sem c t i w = some (r, w')) (ha : ∀ gate, c ≠ .acquire gate)
    (hr : ∀ gate, c ≠ .release gate) : w'.holder = w.holder := by
  cases c with
  | question q => rw [sem_question h]
  | store f =>
    obtain ⟨_, _, _, _, _, rfl, -⟩ := sem_store h
    rfl
  | state g =>
    have hru := (run_untouched (w := w) g).holder
    rw [sem_state h] at hru
    exact hru
  | panel p =>
    rw [sem_panel h]
    cases p.event r <;> rfl
  | acquire gate => exact absurd rfl (ha gate)
  | release gate => exact absurd rfl (hr gate)
  | failStart =>
    obtain ⟨_, _, _, rfl⟩ := sem_failStart h
    rfl
  | publishStarted =>
    obtain ⟨_, _, _, rfl⟩ := sem_publishStarted h
    rfl

lemma sem_holder_other (h : sem c t i w = some (r, w')) (hu : u ≠ t)
    (hg : w.holder gate = some u) : w'.holder gate = some u := by
  cases c with
  | acquire gate' =>
    obtain ⟨hf, rfl⟩ := sem_acquire h
    have hn : gate ≠ gate' := by
      rintro rfl
      rw [hf] at hg
      cases hg
    dsimp only
    rw [Function.update_of_ne hn]
    exact hg
  | release gate' =>
    rw [sem_release h]
    unfold CoreWorld.released
    split
    · rename_i hh
      have hn : gate ≠ gate' := by
        rintro rfl
        rw [hh] at hg
        exact hu (Option.some.inj hg).symm
      dsimp only
      rw [Function.update_of_ne hn]
      exact hg
    · exact hg
  | _ =>
    rw [sem_holder h (fun _ hc => by cases hc) fun _ hc => by cases hc]
    exact hg

lemma sem_strayLoaded (h : sem c t i w = some (r, w')) (hk : kind c ≠ .stray) :
    w'.strayLoaded = w.strayLoaded ∨ c = .release .connection ∧ w.holder .connection = some t ∧
      w'.strayLoaded = none := by
  cases c with
  | question q => rw [sem_question h]; exact Or.inl rfl
  | store f =>
    obtain ⟨_, _, _, _, _, rfl, -, -, hs⟩ := sem_store h
    exact Or.inl (hs hk)
  | state g =>
    have hr := (run_untouched (w := w) g).strayLoaded
    rw [sem_state h] at hr
    exact Or.inl hr
  | panel p =>
    rw [sem_panel h]
    cases p.event r <;> exact Or.inl rfl
  | acquire =>
    obtain ⟨-, rfl⟩ := sem_acquire h
    exact Or.inl rfl
  | release gate =>
    rw [sem_release h]
    unfold CoreWorld.released
    split
    · rename_i hh
      split
      · rename_i hg
        subst hg
        exact Or.inr ⟨rfl, hh, rfl⟩
      · exact Or.inl rfl
    · exact Or.inl rfl
  | failStart =>
    obtain ⟨_, _, _, rfl⟩ := sem_failStart h
    exact Or.inl rfl
  | publishStarted =>
    obtain ⟨_, _, _, rfl⟩ := sem_publishStarted h
    exact Or.inl rfl

lemma sem_quiet_holder (h : sem c t i w = some (r, w')) (hk : kind c = .quiet) :
    w'.holder = w.holder := by
  refine sem_holder h ?_ ?_
  · rintro gate rfl
    cases gate <;> cases hk
  · rintro gate rfl
    cases gate <;> cases hk

end Other

end NelomaiClient.CoreEffect
