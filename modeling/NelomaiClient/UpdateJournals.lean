import NelomaiClient.UpdateBarrier

/-!
# The two journals of an update

What `prepare` leaves on disk, wherever it stops. Either there is no update
journal and no switch under way, or the update journal stands alone or beside
the switch that stops its runtime. One state more is possible: the update
journal was written, and an older switch journal was not replaced yet. The two
journals then name different operations, and nothing repairs them.
-/

namespace NelomaiClient.UpdateJournals

open AwaitProgram AwaitPool AwaitRely AwaitFallible
open RuntimeRecord SplitRecord SwitchRecord SwitchCoordinator UpdateBarrier

section States

variable (json : Json)

structure StopOf (u : UpdateJournal) (j : SwitchJournal) : Prop where
  valid : j.valid json = true
  operation : j.operationId = u.operationId
  source : j.sourceIdentity = some u.sourceRuntime
  target : j.targetIdentity = RuntimeTarget.fromIdentity u.sourceRuntime
  active : j.activeReconcileOperationId = none
  supersede : j.supersedeOperationId = none
  retry : j.retry = none
  device : ∃ device, j.sourceDeviceId = some device
  fingerprint : j.requestFingerprint = (json.requestDigest j.reconcileRequest).value
  recorded : ∃ recorded, j.runtimeSnapshot = some recorded
  early : j.stoppedOrLater = true → j.phase = .localStopped
  /-- The update journal promises a stop only after it. -/
  stopped : u.phase.stopped = true → j.stoppedOrLater = true

structure Linked (u : UpdateJournal) (s : SwitchWorld) : Prop where
  update : s.update = some u
  valid : u.valid = true
  /-- The container is the one that is to be replaced. -/
  container : s.coordinator.manifest.containerVersion = u.sourceContainer
  /-- The container has the runtime that is stopped. -/
  target : s.coordinator.manifest.target u.previousSlot = some (RuntimeTarget.fromIdentity u.sourceRuntime)
  selection : ∃ stored, s.selection = some stored ∧
    stored.containerVersion = s.coordinator.manifest.containerVersion ∧
    (s.coordinator.manifest.selected stored.selectedSlot).isSome = true
  switch : ∀ j, s.switch = some j → StopOf json u j

def Settled (s : SwitchWorld) : Prop :=
  ∀ j, s.switch = some j → j.valid json = true ∧ j.phase = .complete

def Torn (s : SwitchWorld) : Prop :=
  (∃ u, s.update = some u ∧ u.valid = true) ∧ s.switch ≠ none ∧ Settled json s

inductive Journalled (s : SwitchWorld) : Prop where
  | idle (hupdate : s.update = none) (hswitch : Settled json s)
  | linked (u : UpdateJournal) (h : Linked json u s)
  | torn (h : Torn json s)

def journalContract : Contract (switchMachine json) :=
  .sequential (Journalled json) fun _ _ _ _ => True

abbrev Looks {ε α : Type} (x : Fallible (switchMachine json) ε α) : Prop :=
  Fixes (journalContract json) (fun s => s) x

abbrev Abides {ε α : Type} (t : ℕ) (x : Fallible (switchMachine json) ε α) :
    (α → SwitchWorld → Prop) → SwitchWorld → Prop := Ensures (journalContract json) t x

end States

section Facts

variable {json : Json} {s s' : SwitchWorld} {u : UpdateJournal}

lemma Journalled.switch_valid (h : Journalled json s) (hj : s.switch = some j) :
    j.valid json = true := by
  cases h with
  | idle _ hs => exact (hs j hj).1
  | linked u h => exact (h.switch j hj).valid
  | torn h => exact (h.2.2 j hj).1

lemma Journalled.update_valid (h : Journalled json s) (hu : s.update = some u) :
    u.valid = true := by
  cases h with
  | idle hn _ =>
    rw [hn] at hu
    cases hu
  | linked u' h =>
    obtain rfl : u = u' := Option.some.inj (hu.symm.trans h.update)
    exact h.valid
  | torn h =>
    obtain ⟨u', hu', hv⟩ := h.1
    obtain rfl : u = u' := Option.some.inj (hu.symm.trans hu')
    exact hv

lemma loadJournal_of_journalled (h : Journalled json s) : s.loadJournal json = .ok s.switch :=
  loadJournal_of_valid fun _ => h.switch_valid

lemma loadUpdate_of_journalled (h : Journalled json s) : s.loadUpdate = .ok s.update := by
  unfold SwitchWorld.loadUpdate
  split
  · rename_i hn
    rw [hn]
  · rename_i u hs
    rw [if_pos (h.update_valid hs), hs]

lemma StopOf.unpromised (h : StopOf json u j) (hr : j.stoppedOrLater = false) :
    u.phase.stopped = false := by
  cases hp : u.phase.stopped with
  | false => rfl
  | true =>
    have hs := h.stopped hp
    rw [hr] at hs
    cases hs

lemma StopOf.apply {change : JournalChange} (h : StopOf json u j) (hc : stopChange change = true)
    (hf : change.Fits j) : StopOf json u (change.apply j) := by
  have hv := SwitchJournal.valid_apply h.valid hf
  cases change with
  | cleanupHandedOff | runtimeStopping =>
    have hp := h.unpromised hf
    exact { h with
      valid := hv
      early := fun hs => Bool.noConfusion hs
      stopped := fun hs => Bool.noConfusion (hp.symm.trans hs) }
  | forceStop => exact { h with valid := hv }
  | localStopped => exact { h with valid := hv, early := fun _ => rfl, stopped := fun _ => rfl }
  | _ => cases hc

lemma Linked.setSwitch (h : Linked json u s) (hj : StopOf json u j) :
    Linked json u { s with switch := some j } := by
  refine ⟨h.update, h.valid, h.container, h.target, h.selection, fun _ hj' => ?_⟩
  cases hj'
  exact hj

end Facts

section Commands

variable {json : Json} {ε : Type} {t : ℕ} {s : SwitchWorld} {u : UpdateJournal}

lemma looks_newUuid : Looks json (command json .newUuid) :=
  Fixes.surely (looks_wp fun _ _ => rfl)

variable {α : Type}

lemma looks_demand (value : Option α) : Looks json (demand json value) := .decided _

lemma looks_snapshot :
    Abides json t (snapshot json)
      (fun current s' => current = s.switch ∧ s' = s ∧ Journalled json s) s :=
  ensures_snapshot fun _ h _ => h.switch_valid

lemma looks_loadUpdate :
    Abides json t (loadUpdate json)
      (fun current s' => current = s.update ∧ s' = s ∧ Journalled json s) s := by
  refine Ensures.relabel (.attempt (wp_exec fun i hi _ => ⟨hi, fun current hr => ?_⟩))
  have hl := (loadUpdate_of_journalled hi).symm.trans (read_ok hr)
  exact ⟨(Except.ok.inj hl).symm, rfl, hi⟩

lemma currentSelection_ok (h : s.currentSelection json = .ok selection) :
    ∃ stored, s.selection = some stored ∧ stored.containerVersion =
      s.coordinator.manifest.containerVersion ∧
      (s.coordinator.manifest.selected stored.selectedSlot).isSome = true := by
  unfold SwitchWorld.currentSelection at h
  split at h
  · cases h
  · rename_i stored hs
    split at h
    · cases h
    · rename_i hc
      simp only [not_or, ne_eq, not_not] at hc
      refine ⟨stored, hs, hc.1, ?_⟩
      exact Option.isSome_iff_ne_none.mpr hc.2.1

lemma looks_currentSelection :
    Abides json t (currentSelection json)
      (fun selection s' => s.currentSelection json = .ok selection ∧ s' = s) s := by
  refine Ensures.relabel (.attempt (wp_exec fun i hi _ => ⟨hi, fun selection hr => ?_⟩))
  exact ⟨read_ok hr, rfl⟩

lemma ensures_update {change : JournalChange} (hc : stopChange change = true)
    (hl : Linked json u s) (hs : s.switch = some j) (hf : change.Fits j) :
    Abides json t (update json change)
      (fun _ s' => Linked json u s' ∧ s'.switch = some (change.apply j)) s := by
  refine Ensures.relabel (.attempt (wp_exec fun i hi _ => ?_))
  have hlo := loadJournal_of_journalled hi
  have hst := (hl.switch j hs).apply hc hf
  have hn := hl.setSwitch hst
  rw [hs] at hlo
  simp only [SwitchWorld.exec, SwitchWorld.updateSwitch, hlo, hst.valid, if_true]
  obtain ⟨hk, hr⟩ := @write_cases _ s { s with switch := some (change.apply j) }
    (change.apply j) i.file (Journalled json) hi (.linked u hn)
  refine ⟨hk, fun a ha => ?_⟩
  rw [(hr a ha).2]
  exact ⟨hn, rfl⟩

lemma ensures_beginRequested (hj : j.valid json = true → Linked json u { s with switch := some j }) :
    Abides json t (beginRequested json j)
      (fun _ s' => Linked json u s' ∧ s'.switch = some j) s := by
  refine Ensures.relabel (.attempt (wp_exec fun i hi _ => ?_))
  simp only [SwitchWorld.exec, SwitchWorld.beginRequested]
  split
  · exact ⟨hi, fun a ha => by cases ha⟩
  · rename_i hc
    simp only [Bool.or_eq_true, Bool.not_eq_true', not_or, Bool.not_eq_false] at hc
    have hn := hj hc.1.1
    obtain ⟨hk, hr⟩ := @write_cases _ s { s with switch := some j } () i.file
      (Journalled json) hi (.linked u hn)
    have hw : ∀ a, (i.file.write s { s with switch := some j } ()).1 = .ok a →
        Linked json u (i.file.write s { s with switch := some j } ()).2 ∧
          (i.file.write s { s with switch := some j } ()).2.switch = some j := by
      intro a ha
      rw [(hr a ha).2]
      exact ⟨hn, rfl⟩
    split
    · exact ⟨hi, fun a ha => by cases ha⟩
    · exact ⟨hk, hw⟩
    · split
      · exact ⟨hi, fun a ha => by cases ha⟩
      · exact ⟨hk, hw⟩

lemma ensures_replaceUpdate (hn : u.valid = true → Journalled json { s with update := some u }) :
    Abides json t (replaceUpdate json u)
      (fun _ s' => u.valid = true ∧ s' = { s with update := some u }) s := by
  refine Ensures.relabel (.attempt (wp_exec fun i hi _ => ?_))
  simp only [SwitchWorld.exec]
  split
  · rename_i hv
    obtain ⟨hk, hr⟩ := @write_cases _ s { s with update := some u } () i.file
      (Journalled json) hi (hn hv)
    exact ⟨hk, fun a ha => ⟨hv, (hr a ha).2⟩⟩
  · exact ⟨hi, fun a ha => by cases ha⟩

lemma keeps_removeUpdate (hs : Settled json s) :
    Abides json t (removeUpdate json) (fun _ _ => True) s := by
  refine Ensures.relabel (.attempt (wp_exec fun i hi _ => ?_))
  have hn : Journalled json { s with update := none } := .idle rfl hs
  obtain ⟨hk, -⟩ := @write_cases _ s { s with update := none } () i.file (Journalled json) hi hn
  exact ⟨hk, fun _ _ => trivial⟩

end Commands

section Stopping

variable {json : Json} {t : ℕ} {s : SwitchWorld} {u : UpdateJournal}

lemma stopRules : StopRules (journalContract json) (Linked json u) :=
  stopRules_of_update (fun _ h _ => h.switch_valid) fun _ _ _ _ hc h hs hf =>
    (ensures_update hc h hs hf).mono fun _ _ hs' => ⟨hs'.2, hs'.1⟩

lemma finds_snapshot :
    Abides json t (snapshot json >>= demand json)
      (fun j s' => s.switch = some j ∧ s' = s ∧ Journalled json s) s := by
  refine looks_snapshot.seq fun current _ hs1 => ?_
  cases current with
  | none => exact Ensures.throw
  | some j => exact ⟨hs1.1.symm, hs1.2⟩

def Stopped (json : Json) (stopped : SwitchJournal) (s : SwitchWorld) : Prop :=
  s.switch = some stopped ∧ ∃ u, Linked json u s

lemma ensures_foundStop {check : SwitchJournal → Bool} (hl : Linked json u s) :
    Abides json t (do
      let stopped ← (snapshot json >>= demand json)
      require (check stopped) .recoveryRequired
      pure stopped) (Stopped json) s := by
  refine finds_snapshot.seq fun stopped _ hs1 => ?_
  obtain ⟨hsw, rfl, -⟩ := hs1
  exact Ensures.require fun _ => .pure ⟨hsw, u, hl⟩

lemma ensures_continueUpdateStop (expected : String) (hu : s.update = some u) :
    Abides json t (continueUpdateStop json expected) (Stopped json) s := by
  refine finds_snapshot.seq fun j s1 hs1 => ?_
  obtain ⟨hsw, rfl, hi⟩ := hs1
  refine Ensures.require fun _ => ?_
  cases hi with
  | idle hn _ => simp [hn] at hu
  | torn h =>
    -- The older journal is complete, so that the phase is refused.
    have hp := (h.2.2 j hsw).2
    have hst : j.stoppedOrLater = true := by simp [SwitchJournal.stoppedOrLater, hp]
    have hsk : Abides json t (whenever (!j.stoppedOrLater) do
        let recorded ← demand json j.runtimeSnapshot
        recoverStop json recorded) (fun _ _ => True) s1 :=
      Ensures.whenever (fun hr => by simp [hst] at hr) fun _ => trivial
    refine hsk.seq fun _ s2 _ => ?_
    refine Ensures.require fun hlo => ?_
    simp [hst, hp] at hlo
  | linked u' hl =>
    have hso : Abides json t (whenever (!j.stoppedOrLater) do
        let recorded ← demand json j.runtimeSnapshot
        recoverStop json recorded) (fun _ s' => Linked json u' s') s1 := by
      refine Ensures.whenever (fun hr => ?_) fun _ => hl
      refine Ensures.after (looks_demand _) fun recorded s2 hs2 => ?_
      subst hs2
      refine ((stopRules).recoverStop recorded hl fun k hk => ?_).mono fun _ _ h => h.1
      obtain rfl : k = j := Option.some.inj (hk.symm.trans hsw)
      simpa using hr
    refine hso.seq fun _ s2 hs2 => ?_
    exact Ensures.require fun _ => ensures_foundStop hs2

/-- The journal of a request, frozen from the login and the record of the runtime. -/
def Frozen (json : Json) (source : TransitionSource) (target : RuntimeTarget)
    (handoff : RuntimeCleanupSnapshot) (journal : SwitchJournal) : Prop :=
  ∃ id envelope, journal = requestedJournal id
    (json.requestDigest (requestOf id source target envelope)).value source target envelope handoff

lemma ensures_freezeRequest (source : TransitionSource) (ha : RuntimeCleanupSnapshot)
    (target : RuntimeTarget) :
    Abides json t (freezeRequest json source ha (some target))
      (fun journal s' => Frozen json source target ha journal ∧ s' = s) s := by
  refine Ensures.require fun _ => ?_
  refine Ensures.after (looks_demand _) fun envelope _ hs1 => ?_
  refine Ensures.pure (Q := fun target' s' => target' = target ∧ s' = s) ⟨rfl, hs1⟩ |>.seq
    fun target' _ hs2 => ?_
  obtain ⟨rfl, hs2⟩ := hs2
  refine Ensures.after looks_newUuid fun id _ hs3 => ?_
  have hs := hs3.trans hs2
  cases hf : FrozenReconcileRequest.new json (requestOf id.value source target' envelope) source with
  | error e => exact Ensures.throw
  | ok frozen =>
    have hr : frozen.request = requestOf id.value source target' envelope := by
      simp only [FrozenReconcileRequest.new, FrozenReconcileRequest.fromPersisted] at hf
      split at hf
      · cases hf
      · cases hf
        rfl
    exact ⟨⟨id.value, envelope, by rw [hr]⟩, hs⟩

end Stopping

section Preparing

variable {json : Json} {t : ℕ} {s : SwitchWorld} {u : UpdateJournal}

lemma Frozen.stopOf {source : TransitionSource}
    (h : Frozen json source (RuntimeTarget.fromIdentity identity) handoff j)
    (hi : source.identity = some identity) (hv : j.valid json = true) :
    StopOf json (requestedUpdate j identity target slot) j := by
  obtain ⟨_, _, rfl⟩ := h
  exact {
    valid := hv
    operation := rfl
    source := hi
    target := rfl
    active := rfl
    supersede := rfl
    retry := rfl
    device := ⟨_, rfl⟩
    fingerprint := rfl
    recorded := ⟨_, rfl⟩
    early := fun hs => Bool.noConfusion hs
    stopped := fun hs => Bool.noConfusion hs }

lemma ensures_beginUpdateStop (target : String) (hn : s.update = none) :
    Abides json t
      (beginUpdateStop json s.coordinator (persistRequested json target)) (Stopped json) s := by
  have hid : Abides json t (requireIdle json)
      (fun _ s' => s' = s ∧ Settled json s) s := by
    refine looks_snapshot.seq fun _ s1 hs1 => ?_
    obtain ⟨-, rfl, hin⟩ := hs1
    refine (Fixes.require _ _ t s1).mono fun _ s2 hs2 => ⟨hs2, ?_⟩
    cases hin with
    | idle _ hsw => exact hsw
    | linked u h => exact absurd (hn.symm.trans h.update) (by nofun)
    | torn h =>
      obtain ⟨u, hu, -⟩ := h.1
      exact absurd (hn.symm.trans hu) (by nofun)
  refine hid.seq fun _ s1 hs1 => ?_
  obtain ⟨rfl, hst⟩ := hs1
  refine looks_currentSelection.seq fun selection s2 hs2 => ?_
  obtain ⟨hse, rfl⟩ := hs2
  refine Ensures.after (looks_inquire _) fun source _ hs3 => ?_
  subst hs3
  refine ensures_demand fun identity hi => ?_
  refine ensures_demand fun _ hsl => ?_
  refine Ensures.require fun hsa => ?_
  have ht := hsl.trans (congrArg some (of_decide_eq_true hsa).symm)
  refine Ensures.after (looks_inquire _) fun ha _ hs4 => ?_
  subst hs4
  refine (ensures_freezeRequest source ha _).seq fun journal s5 hs5 => ?_
  obtain ⟨hf, rfl⟩ := hs5
  have hso : journal.sourceIdentity = some identity := by
    obtain ⟨_, _, rfl⟩ := hf
    exact hi
  -- The update journal is written first: it stands alone, or beside an older switch journal.
  have hli (s' : SwitchWorld) (hv : (requestedUpdate journal identity target
      selection.selectedSlot).valid = true) (hup : s'.update = some (requestedUpdate journal
      identity target selection.selectedSlot)) (hc : s'.coordinator = s5.coordinator)
      (hfi : s'.selection = s5.selection)
      (hsw : ∀ k, s'.switch = some k → StopOf json (requestedUpdate journal identity target
        selection.selectedSlot) k) :
      Linked json (requestedUpdate journal identity target selection.selectedSlot) s' := by
    refine ⟨hup, hv, ?_, ?_, ?_, hsw⟩
    · rw [hc]
      exact (VerifiedContainerManifest.target_fields ht).2.1.symm
    · rw [hc]
      exact ht
    · rw [hc, hfi]
      exact currentSelection_ok hse
  have hp : Abides json t
      (persistRequested json target journal selection.selectedSlot)
      (fun _ s' => (requestedUpdate journal identity target selection.selectedSlot).valid = true ∧
        s' = { s5 with update := some (requestedUpdate journal identity target selection.selectedSlot) })
      s5 := by
    refine ensures_demand fun identity' hi' => ?_
    obtain rfl : identity' = identity := Option.some.inj (hi'.symm.trans hso)
    refine Ensures.relabel (ensures_replaceUpdate fun hv => ?_)
    cases hsw : s5.switch with
    | none => exact .linked _ (hli _ hv rfl rfl rfl fun k hk => by cases hk)
    | some k =>
      have holder : Settled json { s5 with
          switch := some k
          update := some (requestedUpdate journal identity' target selection.selectedSlot) } :=
        fun k' hk' => hst k' (hsw.trans hk')
      exact .torn ⟨⟨_, rfl, hv⟩, by nofun, holder⟩
  refine hp.seq fun _ _ hs6 => ?_
  obtain ⟨hv, rfl⟩ := hs6
  have hb := @ensures_beginRequested json t { s5 with update := some (requestedUpdate journal
    identity target selection.selectedSlot) } _ journal fun hj =>
      hli _ hv rfl rfl rfl fun k hk => by
        obtain rfl : k = journal := (Option.some.inj hk).symm
        exact hf.stopOf hi hj
  refine hb.seq fun _ s7 hs7 => ?_
  obtain ⟨hl, hsw⟩ := hs7
  have hr : ∀ k, s7.switch = some k → k.stoppedOrLater = false := by
    intro k hk
    obtain rfl : k = journal := Option.some.inj (hk.symm.trans hsw)
    obtain ⟨_, _, rfl⟩ := hf
    rfl
  refine ((stopRules).stopHandoff ha hl hr).seq fun _ _ hs8 => ?_
  exact ensures_foundStop hs8.1

lemma ensures_outcome_snapshot :
    Abides json t (outcome (relabel .switch (snapshot json)) : BarrierProg json _)
      (fun r s' => s' = s ∧ ∀ current, r = .ok current → current = s.switch ∧ Journalled json s) s := by
  refine (wpe_outcome (journalContract json) t _ s _ _).mpr ?_
  refine (wpe_relabel (journalContract json) t _ s _ _ _).mpr ?_
  refine (wpe_relabel (journalContract json) t _ s _ _ _).mpr ?_
  refine wp_mono (fun r s' hr => ?_) (wp_snapshot fun _ h _ => h.switch_valid)
  cases r with
  | error e => exact ⟨hr.1, fun current hc => by cases hc⟩
  | ok current =>
    refine ⟨hr.1, fun _ hc => ?_⟩
    cases hc
    exact hr.2 current rfl

lemma ensures_abandonPrepare : Abides json t (abandonPrepare json) (fun _ _ => True) s := by
  refine ensures_outcome_snapshot.seq fun result s1 hs1 => ?_
  obtain ⟨rfl, hl⟩ := hs1
  cases result with
  | error e => exact .pure trivial
  | ok current =>
    obtain ⟨hcu, hi⟩ := hl current rfl
    refine Ensures.whenever (fun hc => Ensures.map ?_) fun _ => trivial
    have hse : Settled json s1 := by
      intro k hk
      rw [hcu, hk] at hc
      exact ⟨hi.switch_valid hk, of_decide_eq_true hc⟩
    exact (wpe_outcome (journalContract json) t _ s1 _ _).mpr (keeps_removeUpdate hse)

lemma ensures_settlePrepare (c : Coordinator) (hst : Abides json t stop (Stopped json) s) :
    Abides json t (settlePrepare json c stop) (fun _ _ => True) s := by
  have hr : Abides json t (outcome (relabel .switch stop) : BarrierProg json _)
      (fun r s' => ∀ stopped, r = .ok stopped → Stopped json stopped s') s := by
    refine (wpe_outcome (journalContract json) t _ s _ _).mpr ?_
    refine (wpe_relabel (journalContract json) t _ s _ _ _).mpr ?_
    refine wpe_mono (fun stopped s' h _ ho => ?_) (fun e s' _ stopped ho => ?_) hst
    · cases ho
      exact h
    · cases ho
  refine hr.seq fun result s1 hs1 => ?_
  cases result with
  | error => exact ensures_abandonPrepare.seq fun _ _ _ => .throw
  | ok stopped =>
    obtain ⟨hsw, u, hl⟩ := hs1 stopped rfl
    have hf : Abides json t (demandUpdate json)
        (fun u' s' => u' = u ∧ s' = s1) s1 := by
      refine looks_loadUpdate.seq fun current s2 hs2 => ?_
      obtain ⟨hc, rfl, -⟩ := hs2
      rw [hl.update] at hc
      subst hc
      exact ⟨rfl, rfl⟩
    refine hf.seq fun u' s2 hs2 => ?_
    obtain ⟨rfl, rfl⟩ := hs2
    have hli : Abides json t (validateSwitchLink json c.manifest u')
        (fun _ s' => s' = s2) s2 := by
      refine (Ensures.relabel looks_snapshot).seq fun current s3 hs3 => ?_
      cases current with
      | none => exact .pure hs3.2.1
      | some k =>
        exact (Fixes.require _ _ t s3).mono fun _ _ h => h.trans hs3.2.1
    refine hli.seq fun _ s3 hs3 => ?_
    subst hs3
    refine Ensures.require fun hch => ?_
    have hp : stopped.phase = .localStopped := by
      simp only [Bool.and_eq_true, decide_eq_true_eq] at hch
      exact hch.2
    refine (ensures_replaceUpdate fun hv => ?_).mono fun _ _ _ => trivial
    refine .linked { u' with phase := .localStopped } ⟨rfl, hv, hl.container, hl.target,
      hl.selection, fun k hk => ?_⟩
    obtain rfl : k = stopped := Option.some.inj (hk.symm.trans hsw)
    exact { hl.switch k hk with
      stopped := fun _ => by simp [SwitchJournal.stoppedOrLater, hp] }

lemma ensures_prepare (target : String) :
    Abides json t (prepare json target) (fun _ _ => True) s := by
  refine Ensures.require fun _ => ?_
  have hc : Abides json t (coordinator json)
      (fun c s' => c = s.coordinator ∧ s' = s) s :=
    Ensures.relabel (.surely (wp_exec fun _ hi _ => ⟨hi, rfl, rfl⟩))
  refine hc.seq fun c _ hs1 => ?_
  obtain ⟨rfl, rfl⟩ := hs1
  refine Ensures.require fun _ => ?_
  refine looks_loadUpdate.seq fun current s2 hs2 => ?_
  obtain ⟨hcu, rfl, -⟩ := hs2
  cases current with
  | none => exact ensures_settlePrepare _ (ensures_beginUpdateStop target hcu.symm)
  | some u =>
    refine Ensures.require fun _ => ?_
    have hl : Abides json t (validateSwitchLink json s2.coordinator.manifest u)
        (fun _ s' => s' = s2) s2 := by
      refine (Ensures.relabel looks_snapshot).seq fun current s3 hs3 => ?_
      cases current with
      | none => exact .pure hs3.2.1
      | some k =>
        exact (Fixes.require _ _ t s3).mono fun _ _ h => h.trans hs3.2.1
    refine hl.seq fun _ s3 hs3 => ?_
    subst hs3
    refine Ensures.whenever (fun _ => ?_) fun _ => trivial
    exact ensures_settlePrepare _ (ensures_continueUpdateStop _ hcu.symm)

end Preparing

section Runs

variable {json : Json}

/-- Preparations of updates, one after the other; the process may die at any command. -/
abbrev prepareSystem (json : Json) : System where
  machine := switchMachine json
  Op := String
  program target := unobserved json (prepare json target)
  restart s :=
    s.installed json s.coordinator.manifest s.selection s.coordinator.requiredInitialTarget

lemma Journalled.installed (h : Journalled json s) (required : Option RuntimeSlot) :
    Journalled json (s.installed json s.coordinator.manifest s.selection required) := by
  cases h with
  | idle hu hs => exact .idle hu hs
  | linked u h =>
    exact .linked u ⟨h.update, h.valid, h.container, h.target, h.selection, h.switch⟩
  | torn h => exact .torn h

lemma journalled_of_reach {s0 : SwitchWorld} (hu : s0.update = none)
    (hsw : Settled json s0) {P : Pool (prepareSystem json)}
    (hr : Reach (unconditioned _) (Pool.idle s0) P) : Journalled json P.state := by
  refine Reach.sequential hr (fun target t s _ => ?_)
    (fun s hs => hs.installed _) (.idle hu hsw)
  exact wp_unobserved (@ensures_prepare json t s target)

end Runs

end NelomaiClient.UpdateJournals
