import NelomaiClient.CoreEffect

/-!
# Pinning and the other writers of the record

`pin_stray` and `unpin_stray` load the record, wait for the panel and save what
they loaded. Their save leaves the journals and the compatibility as they are
stored only if nobody else wrote them in between.
-/

namespace NelomaiClient.StrayPinning

open RuntimeRecord CorePolicy
open AwaitProgram AwaitPool AwaitRely AwaitFallible AwaitFootprint
open CoreMachine CoreSession CoreSystem CoreFootprint CoreEffect Storage

/-- The fields of the record that a pin or an unpin has no business with. -/
def watched (r : RuntimeState) : Option StoredCompatibility × Option StoredPendingStart ×
    Option StoredPendingStalledStop × Option StoredPendingCompensationStop :=
  (r.compatibility, r.pendingStart, r.pendingStalledStop, r.pendingCompensationStop)

def straySave : Cmd → Bool
  | .store (.saveRuntime .stray _) => true
  | _ => false

/-- While a pin or an unpin holds a loaded record, no step but its save changes
a watched field. -/
def undisturbed (t : ℕ) (c : Cmd) (i : Input) (w : CoreWorld) : Prop :=
  w.strayLoaded.isSome → straySave c = false →
    ∀ x ∈ sem c t i w, watched x.2.record = watched w.record

instance (t : ℕ) (c : Cmd) (i : Input) (w : CoreWorld) : Decidable (undisturbed t c i w) := by
  unfold undisturbed
  infer_instance

/-- A loaded record belongs to the holder of the connection gate and agrees with the stored one. -/
def Agrees (w : CoreWorld) : Prop :=
  ∀ u v, w.strayLoaded = some (u, v) → w.holder .connection = some u ∧ watched w.record = watched v

def Gated (t : ℕ) (w : CoreWorld) : Prop := w.holder .connection = some t

def Loaded (t : ℕ) (found : RuntimeState) (w : CoreWorld) : Prop :=
  Gated t w ∧ w.strayLoaded = some (t, found)

/-- A step leaves the gate of the holder `u` and the record it has loaded. -/
def leaves (u : ℕ) (w w' : CoreWorld) : Prop :=
  Gated u w → Gated u w' ∧ w'.strayLoaded = w.strayLoaded

def pinning : Contract core where
  inv := Agrees
  cond := undisturbed
  guar t c i w w' := (∀ u, u ≠ t → leaves u w w') ∧
    (straySave c = true → watched w'.record = watched w.record)
  rely := leaves
  rely_refl _ _ h := ⟨h, rfl⟩
  rely_trans u w₁ w₂ w₃ h₁ h₂ h := by
    obtain ⟨hh, hs⟩ := h₁ h
    obtain ⟨hh', hs'⟩ := h₂ hh
    exact ⟨hh', hs'.trans hs⟩
  guar_rely t u c i w w' htu _ _ _ hg := hg.1 u (Ne.symm htu)

variable {t : ℕ} {i : Input} {w : CoreWorld}

lemma sem_leaves (h : sem c t i w = some (r, w')) (hk : kind c ≠ .stray) (hu : u ≠ t) :
    leaves u w w' := by
  intro hh
  refine ⟨sem_holder_other h hu hh, ?_⟩
  rcases sem_strayLoaded h hk with hs | ⟨-, ho, -⟩
  · exact hs
  · exact absurd (Option.some.inj (hh.symm.trans ho)) hu

lemma sem_gated (h : sem c t i w = some (r, w')) (hk : kind c ≠ .stray) (hh : Gated u w)
    (hv : w'.strayLoaded = some (u, v)) : Gated u w' := by
  by_cases hu : u = t
  · subst hu
    cases c with
    | acquire gate =>
      obtain ⟨-, rfl⟩ := sem_acquire h
      unfold Gated
      dsimp only
      by_cases hg : Gate.connection = gate
      · subst hg
        exact Function.update_self Gate.connection (some u) w.holder
      · rw [Function.update_of_ne hg]
        exact hh
    | release gate =>
      rw [sem_release h] at hv ⊢
      unfold Gated
      unfold CoreWorld.released at hv ⊢
      split
      · rename_i ho
        rw [if_pos ho] at hv
        dsimp only at hv ⊢
        split at hv
        · cases hv
        · rename_i hg
          rw [Function.update_of_ne (Ne.symm hg)]
          exact hh
      · exact hh
    | _ =>
      unfold Gated
      rw [sem_holder h (fun _ hc => by cases hc) fun _ hc => by cases hc]
      exact hh
  · exact sem_holder_other h hu hh

lemma unpinned_tolerates : Tolerates pinning t (fun _ => True) (within unpinned) where
  rely _ _ _ _ _ := trivial
  step c i r w w' hk hi _ hc h := by
    have hsa : straySave c = false := by
      cases hs : straySave c with
      | false => rfl
      | true =>
        unfold straySave at hs
        split at hs
        · exact absurd rfl hk
        · cases hs
    refine ⟨fun u v hv => ?_, ⟨fun u hu => sem_leaves h hk hu, fun hs => ?_⟩, trivial⟩
    · have hs : w.strayLoaded = some (u, v) := by
        rcases sem_strayLoaded h hk with hs | ⟨-, -, hs⟩
        · rw [← hs]
          exact hv
        · rw [hs] at hv
          cases hv
      obtain ⟨hh, ha⟩ := hi u v hs
      have hw : watched w'.record = watched w.record := hc (by rw [hs]; rfl) hsa (r, w') h
      exact ⟨sem_gated h hk hh hv, hw.trans ha⟩
    · rw [hsa] at hs
      cases hs

lemma gated_tolerates (t : ℕ) : Tolerates pinning t (Gated t) (within quietly) where
  rely _ _ _ hJ hr := (hr hJ).1
  step c i r w w' hk hi hJ hc h := by
    have hk' : unpinned (kind c) := by
      rw [show kind c = .quiet from hk]
      intro h
      cases h
    obtain ⟨hi', hg, -⟩ := (unpinned_tolerates).step c i r w w' hk' hi trivial hc h
    exact ⟨hi', hg, (congrFun (sem_quiet_holder h hk) Gate.connection).trans hJ⟩

lemma loaded_tolerates (t : ℕ) (found : RuntimeState) :
    Tolerates pinning t (Loaded t found) (within quietly) where
  rely w w' _ hJ hr := by
    obtain ⟨hh, hs⟩ := hr hJ.1
    exact ⟨hh, hs.trans hJ.2⟩
  step c i r w w' hk hi hJ hc h := by
    obtain ⟨hi', hg, hh⟩ := (gated_tolerates t).step c i r w w' hk hi hJ.1 hc h
    refine ⟨hi', hg, hh, ?_⟩
    have hk' : kind c ≠ .stray := by
      rw [show kind c = .quiet from hk]
      intro h
      cases h
    rcases sem_strayLoaded h hk' with hs | ⟨rfl, -⟩
    · exact hs.trans hJ.2
    · cases hk

lemma sem_loadForStray (h : sem (.store .loadForStray) t i w = some (r, w')) : ∃ record active,
    Adopted w.record record ∧
      ((∃ e, r = .error e ∧ w' = { w with record := record, pendingStartActive := active }) ∨
        r = .ok record ∧
          w' = { w with
            record := record, pendingStartActive := active, strayLoaded := some (t, record) }) := by
  simp only [sem, Option.map_eq_some_iff] at h
  obtain ⟨⟨outcomes, _, _⟩, -, h⟩ := h
  obtain ⟨ha, ho⟩ := loadRuntime_record (w.disk outcomes)
  dsimp only [StoreCall.perform, StoreCall.run] at h
  cases hl : Storage.loadRuntime (w.disk outcomes) with
  | mk q d =>
    rw [hl] at h ha ho
    refine ⟨d.record, d.pendingStartActive, ha, ?_⟩
    cases q with
    | error e =>
      obtain ⟨rfl, rfl⟩ := Prod.mk.inj h
      exact Or.inl ⟨e, rfl, rfl⟩
    | ok found =>
      obtain ⟨rfl, rfl⟩ := Prod.mk.inj h
      have hr : d.record = found := ho found rfl
      subst hr
      exact Or.inr ⟨rfl, rfl⟩

lemma sem_saveStray
    (h : sem (.store (.saveRuntime .stray value)) t i w = some (r, w')) : ∃ record,
    w' = { w with record := record, strayLoaded := none } ∧
      (record = w.record ∨ record = w.record.withOperational value) := by
  simp only [sem, Option.map_eq_some_iff] at h
  obtain ⟨⟨outcomes, _, _⟩, -, h⟩ := h
  have hsa := save_record value (w.disk outcomes)
  have ha := save_pendingStartActive value (w.disk outcomes)
  dsimp only [StoreCall.perform, StoreCall.run, StoreCall.noted] at h
  obtain ⟨-, rfl⟩ := Prod.mk.inj h
  refine ⟨(save value (w.disk outcomes)).2.record, ?_, ?_⟩
  · unfold CoreWorld.withDisk
    rw [ha]
    rfl
  · rcases hsa with ⟨hs, -⟩ | hs
    · exact Or.inl hs
    · exact Or.inr hs

section Programs

lemma loadForStray_spec (hh : Gated t w) :
    wpe pinning t (stored .loadForStray) (Loaded t) (fun _ _ => True) w := by
  intro i r _ hi _ h
  obtain ⟨record, _, ha, ⟨e, rfl, rfl⟩ | ⟨rfl, rfl⟩⟩ := sem_loadForStray h
  · have hw : watched record = watched w.record := by
      rcases ha with rfl | rfl <;> rfl
    refine ⟨fun u v hv => ?_, ⟨fun u _ hu => ⟨hu, rfl⟩, (nomatch ·)⟩, trivial⟩
    obtain ⟨hu, hag⟩ := hi u v hv
    exact ⟨hu, hw.trans hag⟩
  · refine ⟨?_, ⟨?_, (nomatch ·)⟩, hh, rfl⟩
    · intro u v hv
      obtain ⟨rfl, rfl⟩ := Prod.mk.inj (Option.some.inj hv)
      exact ⟨hh, rfl⟩
    · intro u hu ho
      exact absurd (Option.some.inj (hh.symm.trans ho)).symm hu

lemma saveStray_spec (hJ : Loaded t found w) (hva : watched value = watched found) :
    wpe pinning t (stored (.saveRuntime .stray value)) (fun _ _ => True) (fun _ _ => True) w := by
  intro i r _ hi _ h
  obtain ⟨record, rfl, hr⟩ := sem_saveStray h
  have hag : watched w.record = watched found := (hi t found hJ.2).2
  have hw : watched record = watched w.record := by
    rcases hr with rfl | rfl
    · rfl
    · exact hva.trans hag.symm
  have hl : ∀ u, u ≠ t → leaves u w { w with record := record, strayLoaded := none } := by
    intro u hu ho
    exact absurd (Option.some.inj (hJ.1.symm.trans ho)).symm hu
  have ha : Agrees { w with record := record, strayLoaded := none } := by
    intro u v hv
    cases hv
  refine ⟨ha, ⟨hl, fun _ => hw⟩, ?_⟩
  cases r with
  | ok _ | error _ => trivial

lemma withConnectionGate_spec
    (hx : ∀ w, Gated t w → wpe pinning t x (fun _ _ => True) (fun _ _ => True) w) :
    wpe pinning t (withGate .connection x) (fun _ _ => True) (fun _ _ => True) w := by
  have hr : ∀ w,
      wp pinning t (Prog.call (M := core) (.release .connection)) (fun _ _ => True) w :=
    fun w i r w' hi hc h =>
      (unpinned_tolerates).step (.release .connection) i r w w' (nomatch ·) hi trivial hc h
  rw [wpe_withGate]
  intro w1 _ _ i r w2 hi hc h
  obtain ⟨hi2, hg, -⟩ :=
    (unpinned_tolerates).step (.acquire .connection) i r w1 w2 (nomatch ·) hi trivial hc h
  have hh : Gated t w2 := by
    obtain ⟨-, rfl⟩ := sem_acquire (i := i) h
    exact Function.update_self Gate.connection (some t) w1.holder
  refine ⟨hi2, hg, ?_⟩
  exact wpe_mono (fun _ w _ => hr w) (fun _ w _ => hr w) (hx _ hh)

lemma save_then [Issues (within unpinned) rest] (hJ : Loaded t found w)
    (hv : watched value = watched found) :
    wpe pinning t (stored (.saveRuntime .stray value) >>= fun _ => rest) (fun _ _ => True)
      (fun _ _ => True) w :=
  wpe_seq (saveStray_spec hJ hv) (fun _ _ h => h) fun _ _ _ => (unpinned_tolerates).wpe rest trivial

lemma pinHoldingGate_spec (epoch : UInt64) (hJ : Gated t w) :
    wpe pinning t (pinHoldingGate env epoch) (fun _ _ => True) (fun _ _ => True) w := by
  refine wpe_seq ((gated_tolerates t).wpe _ hJ) (fun _ _ _ => trivial) fun state w hJ => ?_
  refine wpe_seq ((gated_tolerates t).wpe _ hJ) (fun _ _ _ => trivial) fun current w hJ => ?_
  refine wpe_seq (loadForStray_spec hJ) (fun _ _ _ => trivial) fun found w hJ => ?_
  have hl := loaded_tolerates t found
  refine wpe_seq (hl.wpe _ hJ) (fun _ _ _ => trivial) fun saved w hJ => ?_
  refine wpe_seq (hl.wpe _ hJ) (fun _ _ _ => trivial) fun answered w hJ => ?_
  refine wpe_seq (hl.wpe _ hJ) (fun _ _ _ => trivial) fun _ w hJ => ?_
  exact save_then hJ rfl

lemma unpinHoldingGate_spec (leaseId : String) (nowUnix : Int) (hJ : Gated t w) :
    wpe pinning t (unpinHoldingGate env leaseId nowUnix) (fun _ _ => True) (fun _ _ => True) w := by
  refine wpe_seq (loadForStray_spec hJ) (fun _ _ _ => trivial) fun found w hJ => ?_
  have hl := loaded_tolerates t found
  refine wpe_seq (hl.wpe _ hJ) (fun _ _ _ => trivial) fun saved w hJ => ?_
  refine wpe_seq (hl.wpe _ hJ) (fun _ _ _ => trivial) fun answered w hJ => ?_
  exact save_then hJ rfl

lemma pinStray_spec :
    wpe pinning t (CoreSession.pinStray env) (fun _ _ => True) (fun _ _ => True) w := by
  refine wpe_seq ((unpinned_tolerates).wpe _ trivial) (fun _ _ h => h) fun epoch w _ => ?_
  exact withConnectionGate_spec fun w hJ => pinHoldingGate_spec epoch hJ

lemma unpinStray_spec (leaseId : String) (nowUnix : Int) :
    wpe pinning t (CoreSession.unpinStray env leaseId nowUnix) (fun _ _ => True)
      (fun _ _ => True) w :=
  withConnectionGate_spec fun _ hJ => unpinHoldingGate_spec leaseId nowUnix hJ

end Programs

lemma pinning_covers (env : CoreParameters) : Covers (S := coreSystem env) pinning := by
  intro op t w _
  have ho {α : Type} (x : Core α) [Issues (within unpinned) x] :
      wp pinning t (task x) (fun _ _ => True) w := wp_task ((unpinned_tolerates).wpe x trivial)
  rcases op with (op | op) | op
  · cases op <;> exact ho _
  · cases op <;> exact ho _
  · cases op with
    | pinStray => exact wp_task pinStray_spec
    | unpinStray leaseId nowUnix => exact wp_task (unpinStray_spec leaseId nowUnix)
    | _ => exact ho _

/-- The save of a pin or an unpin leaves compatibility and journals as they are
stored, in every run in which nobody else writes them while it holds a loaded record. -/
theorem straySave_keeps_latest (env : CoreParameters) {w₀ : CoreWorld}
    (h₀ : w₀.strayLoaded = none) {P P' : Pool (coreSystem env)}
    (h : Reach undisturbed (Pool.idle w₀) P) {m : Move (coreSystem env)}
    (hm : Meets undisturbed P m) (hs : P.move m = some P') {t : ℕ} {value : RuntimeState}
    {i : Input} (hi : P.issued m = some (t, .store (.saveRuntime .stray value), i)) :
    watched P'.state.record = watched P.state.record := by
  have hin : Agrees w₀ := by
    intro u v hv
    rw [h₀] at hv
    cases hv
  have hr : ∀ w, Agrees w → Agrees w.restart := by
    intro w _ u v hv
    cases hv
  have hso : Sound pinning P := Reach.sound h (pinning_covers env) hr hin
  exact (hso.issued hm hs hi).2 rfl

def pinnedSample : RuntimeState :=
  { sampleRecord with
    pinnedConnection := some
      { leaseId := "lease", poolId := none, layer := .stray, ticConnectionMode := .dynamic,
        routeMode := .standalone, egressMode := .ipv4, probeUrl := none, kind := .pinned,
        configuration := "", validUntilUnix := none } }

def unpinnedSample : RuntimeState :=
  { sampleRecord with
    savedConnection := some
      { leaseId := "lease", poolId := none, layer := .stray, ticConnectionMode := .dynamic,
        routeMode := .standalone, egressMode := .ipv4, probeUrl := none, kind := .dynamicWarm,
        configuration := "", validUntilUnix := some 3600 } }

def unpinSent : List (Move (coreSystem sampleParameters)) :=
  List.flatten [[.start (.inr (.unpinStray "lease" 0))], segment 0 [],
    segment 0 [.go, storeDone, storeDone], segment 0 [.verdict (.ok ()), .text "unpin", .go, .go]]

def unpinAnswered : List (Move (coreSystem sampleParameters)) :=
  segment 0 [.connection (.ok (sampleConnection "lease" .connected))]

def updateRequired : List (Move (coreSystem sampleParameters)) :=
  List.flatten [[.start (.inr (.bootstrap 0))], segment 1 [.go, storeDone],
    segment 1 [.verdict (.ok ())],
    segment 1 [.bootstrap (.ok ⟨true, true, true, none⟩), .go, .go, storeDone]]

/-- A bootstrap between the load and the save of an unpin loses what it stored. -/
theorem straySave_reverts_compatibility :
    ¬ ∀ P P' : Pool (coreSystem sampleParameters),
      Reach (unconditioned _) (Pool.idle (CoreWorld.fresh pinnedSample)) P →
      ∀ m t value i, P.move m = some P' →
        P.issued m = some (t, Cmd.store (.saveRuntime .stray value), i) →
        watched P'.state.record = watched P.state.record := by
  intro h
  have hru : lastMove (unconditioned _) (Pool.idle (CoreWorld.fresh pinnedSample))
      (unpinSent ++ updateRequired ++ unpinAnswered) (.step 0 storeDone)
      (fun P P' => (P.issued (.step 0 storeDone), watched P.state.record, watched P'.state.record)) =
      some (some (0, Cmd.store (.saveRuntime .stray unpinnedSample), storeDone),
        (some ⟨true, 0⟩, none, none, none), (none, none, none, none)) := rfl
  obtain ⟨P, P', hr, -, hP', ho⟩ := Reach.lastMove hru
  obtain ⟨hi, hw⟩ := Prod.mk.inj ho
  obtain ⟨hb, ha⟩ := Prod.mk.inj hw
  have hs := h P P' hr _ _ _ _ hP' hi
  rw [ha, hb] at hs
  cases hs

theorem straySave_keeps_latest_alone :
    ∃ P P' : Pool (coreSystem sampleParameters),
      Reach undisturbed (Pool.idle (CoreWorld.fresh pinnedSample)) P ∧
      P.issued (.step 0 storeDone) =
        some (0, Cmd.store (.saveRuntime .stray unpinnedSample), storeDone) ∧
      P.move (.step 0 storeDone) = some P' ∧
      watched P'.state.record = watched P.state.record := by
  have hru : lastMove undisturbed
      (Pool.idle (CoreWorld.fresh pinnedSample)) (unpinSent ++ unpinAnswered) (.step 0 storeDone)
      (fun P _ => P.issued (.step 0 storeDone)) =
      some (some (0, Cmd.store (.saveRuntime .stray unpinnedSample), storeDone)) := rfl
  obtain ⟨P, P', hr, hm, hP', hi⟩ := Reach.lastMove hru
  exact ⟨P, P', hr, hi, hP', straySave_keeps_latest sampleParameters rfl hr hm hP' hi⟩

end NelomaiClient.StrayPinning
