import NelomaiClient.AwaitTotal
import NelomaiClient.SwitchClosure
import NelomaiClient.UpdateJournals

/-!
# The recovery of an update that was not installed

On the container that was to be replaced, `recover` cancels the stop and
restores the slot. It succeeds from every state that `prepare` can leave on disk
except one, when the files can be written and the broker and the runtime control
answer without an error.
-/

namespace NelomaiClient.UpdateRecovery

open AwaitProgram AwaitPool AwaitRely AwaitFallible AwaitTotal
open RuntimeRecord SwitchRecord SwitchCoordinator UpdateBarrier UpdateJournals
open SwitchClosure

section Obliging

/-- An answer that lets the recovery go on: the runtime is the one that was
recorded, the server has cleaned up, and a resume gives access. -/
def Serves (s : SwitchWorld) : (q : Question) → Reply q → Prop
  | .transitionSource, source => ∀ j ∈ s.switch, ∀ recorded ∈ j.runtimeSnapshot,
    source.matchesRuntimeScope recorded.authScope = true
  | .handoffCleanup _, handoff => ∀ j ∈ s.switch, ∀ recorded ∈ j.runtimeSnapshot, handoff = recorded
  | .reconcileTransition _, receipt => receipt.state = .clean
  | .supersedeTransition _ _ _, response => response.state = .clean
  | .resumeTransition _ _, receipt => receipt.currentAccess.isSome = true
  | _, _ => True

/-- Files can be read and written, and questions are answered without an error. -/
def Obliging : ℕ → SwitchCmd → SwitchInput → SwitchWorld → Prop :=
  fun _ c i s => i.file = .done ∧ ∀ q, c = .ask q → ∃ a, i.reply q = .ok a ∧ Serves s q a

def sourceOf : Option RuntimeAuthScope → TransitionSource
  | none => ⟨0, "", none, "", none, ""⟩
  | some scope => ⟨scope.authEpoch, scope.family, some scope.identity, "", none, ""⟩

lemma sourceOf_matches (scope : Option RuntimeAuthScope) :
    (sourceOf scope).matchesRuntimeScope scope = true := by
  cases scope with
  | none => rfl
  | some => simp [sourceOf, TransitionSource.matchesRuntimeScope]

variable {s : SwitchWorld}

lemma exists_serves (q : Question) : ∃ a, Serves s q a := by
  cases q with
  | transitionSource =>
    refine ⟨sourceOf ((s.switch.bind (·.runtimeSnapshot)).bind (·.authScope)), ?_⟩
    intro j hj _ hr
    rw [Option.mem_def] at hj hr
    simp only [hj, hr, Option.bind_some]
    exact sourceOf_matches _
  | handoffCleanup =>
    refine ⟨(s.switch.bind (·.runtimeSnapshot)).getD ⟨.latest, "", none, [], [], false⟩, ?_⟩
    intro j hj _ hr
    rw [Option.mem_def] at hj hr
    simp only [hj, hr, Option.bind_some, Option.getD_some]
  | reconcileTransition => exact ⟨⟨.clean, none⟩, rfl⟩
  | supersedeTransition => exact ⟨⟨.clean, "", none⟩, rfl⟩
  | resumeTransition arguments => exact ⟨⟨arguments.target.toIdentity none, some ""⟩, rfl⟩
  | restoreTransitionRequest request => exact ⟨⟨request, "", ""⟩, trivial⟩
  | prepareCompletedApplyReconcile predecessor => exact ⟨predecessor, trivial⟩
  | transitionResumeIsUndispatched => exact ⟨false, trivial⟩
  | gracefulStop | forceStop | completeCleanupAndAdmit | retireCompletedTransitions
  | finishSupersede =>
    exact ⟨(), trivial⟩

lemma exists_obliging (t : ℕ) (c : SwitchCmd) : ∃ i, Obliging t c i s := by
  choose reply hreply using exists_serves
  exact ⟨⟨.done, 0, numberedUuid 0, fun q => .ok (reply q)⟩, rfl,
    fun q _ => ⟨reply q, rfl, hreply q⟩⟩

end Obliging

section Commands

variable {json : Json} {ε : Type} {t : ℕ} {s : SwitchWorld} {j : SwitchJournal} {u : UpdateJournal}

lemma finishes_exec {Q : SwitchResp c → SwitchWorld → Prop}
    (h : ∀ i, Obliging t c i s → Q (s.exec json i c).1 (s.exec json i c).2) :
    Finishes Obliging t Q (Prog.call (M := switchMachine json) c) s := by
  refine Finishes.call ?_ fun i r s' ho hs => ?_
  · obtain ⟨i, hi⟩ := exists_obliging t c
    exact ⟨i, _, _, hi, rfl⟩
  · have hr : s.exec json i c = (r, s') := Option.some.inj hs
    have hn := h i ho
    rw [hr] at hn
    exact hn

lemma succeeds_snapshot (hl : s.loadJournal json = .ok s.switch) :
    Succeeds Obliging t (snapshot json) (fun r s' => r = s.switch ∧ s' = s) s := by
  refine Succeeds.relabel (.attempt (finishes_exec (c := .snapshot) fun i hi => ⟨s.switch, ?_, rfl, rfl⟩))
  simp only [SwitchWorld.exec, hi.1, FileOutcome.read, hl]

lemma succeeds_loadUpdate (hl : s.loadUpdate = .ok s.update) :
    Succeeds Obliging t (loadUpdate json) (fun r s' => r = s.update ∧ s' = s) s := by
  refine Succeeds.relabel (.attempt (finishes_exec (c := .loadUpdate) fun i hi => ⟨s.update, ?_, rfl, rfl⟩))
  simp only [SwitchWorld.exec, hi.1, FileOutcome.read, hl]

lemma succeeds_command_coordinator :
    Succeeds Obliging t (command json .coordinator) (fun c s' => c = s.coordinator ∧ s' = s) s :=
  Succeeds.surely (finishes_exec fun _ _ => ⟨rfl, rfl⟩)

lemma succeeds_newUuid : Succeeds Obliging t (command json .newUuid) (fun _ s' => s' = s) s :=
  Succeeds.surely (finishes_exec fun _ _ => rfl)

lemma succeeds_unixTimeMs : Succeeds Obliging t (command json .unixTimeMs) (fun _ s' => s' = s) s :=
  Succeeds.surely (finishes_exec fun _ _ => rfl)

lemma succeeds_ask :
    Succeeds Obliging t (command json (.ask q))
      (fun r s' => (∃ a, r = .ok a ∧ Serves s q a) ∧ s' = s) s :=
  Succeeds.surely (finishes_exec fun _ hi => ⟨hi.2 q rfl, rfl⟩)

lemma succeeds_inquire :
    Succeeds Obliging t (inquire json q) (fun a s' => Serves s q a ∧ s' = s) s := by
  refine Succeeds.relabel (.attempt (finishes_exec (c := .ask q) fun i hi => ?_))
  obtain ⟨a, ha, hs⟩ := hi.2 q rfl
  exact ⟨a, ha, hs, rfl⟩

lemma succeeds_demand (h : value = some a) :
    Succeeds Obliging t (demand json value) (fun a' s' => a' = a ∧ s' = s) s := by
  subst h
  exact Succeeds.pure ⟨rfl, rfl⟩

lemma succeeds_update (hs : s.switch = some j) (hv : j.valid json = true) (hf : change.Fits j) :
    Succeeds Obliging t (update json change)
      (fun _ s' => s' = { s with switch := some (change.apply j) }) s := by
  refine Succeeds.relabel (.attempt (finishes_exec (c := .update change) fun i hi => ⟨change.apply j, ?_, ?_⟩))
  all_goals
    have hn := SwitchJournal.valid_apply hv hf
    simp only [SwitchWorld.exec, SwitchWorld.updateSwitch, SwitchWorld.loadJournal, hs, hv,
      if_true, hn, hi.1, FileOutcome.write]

lemma succeeds_replaceUpdate (hv : u.valid = true) :
    Succeeds Obliging t (replaceUpdate json u) (fun _ s' => s' = { s with update := some u }) s := by
  refine Succeeds.relabel (.attempt (finishes_exec (c := .replaceUpdate u) fun i hi => ⟨(), ?_, ?_⟩))
  all_goals simp only [SwitchWorld.exec, hv, if_true, hi.1, FileOutcome.write]

lemma succeeds_removeUpdate :
    Succeeds Obliging t (removeUpdate json) (fun _ s' => s' = { s with update := none }) s := by
  refine Succeeds.relabel (.attempt (finishes_exec (c := .removeUpdate) fun i hi => ⟨(), ?_, ?_⟩))
  all_goals simp only [SwitchWorld.exec, hi.1, FileOutcome.write]

structure Selectable (slot : RuntimeSlot) (s : SwitchWorld) : Prop where
  stored : ∃ stored, s.selection = some stored ∧
    stored.containerVersion = s.coordinator.manifest.containerVersion ∧
    (s.coordinator.manifest.selected stored.selectedSlot).isSome = true
  slot : (s.coordinator.manifest.selected slot).isSome = true
  /-- The version of the container can be written. -/
  version : s.coordinator.manifest.containerVersion.isEmpty = false ∧
    s.coordinator.manifest.containerVersion.utf8ByteSize ≤ 64

def chosen (s : SwitchWorld) (slot : RuntimeSlot) : SlotSelection :=
  ⟨s.coordinator.manifest.containerVersion, slot, none⟩

variable {slot : RuntimeSlot}

lemma succeeds_finishSelection (h : Selectable slot s) :
    Succeeds Obliging t (finishSelection json slot)
      (fun _ s' => s' = { s with selection := some (chosen s slot) }) s := by
  obtain ⟨stored, hst, hc, hs⟩ := h.stored
  have hf : s.finishedSelection slot = .ok (chosen s slot) := by
    have hp : s.coordinator.manifest.selected stored.selectedSlot ≠ none :=
      Option.isSome_iff_ne_none.mp hs
    have hsl := h.slot
    have hv := h.version
    simp only [SwitchWorld.finishedSelection, hst, hc, ne_eq, not_true_eq_false, hp,
      or_self, if_false]
    simp [validBasicSelection, chosen, hv.1, hv.2, Option.isSome_iff_ne_none.mp hsl]
  refine Succeeds.relabel (.attempt (finishes_exec (c := .finishSelection slot) fun i hi => ⟨(), ?_, ?_⟩))
  all_goals simp only [SwitchWorld.exec, hf, hi.1, FileOutcome.write]

lemma Selectable.chosen (h : Selectable slot s) :
    Selectable slot { s with selection := some (chosen s slot) } :=
  ⟨⟨_, rfl, rfl, h.slot⟩, h.slot, h.version⟩

end Commands

section Rounds

variable {json : Json} {t : ℕ} {s : SwitchWorld} {j : SwitchJournal} {c : Coordinator}
  {source : RuntimeIdentity}

/-- A journal whose switch is to be cancelled, and that no supersede has touched. -/
structure Cancelling (json : Json) (c : Coordinator) (source : RuntimeIdentity) (j : SwitchJournal) :
    Prop where
  valid : j.valid json = true
  cancel : j.cancelRequested = true
  active : j.activeReconcileOperationId = none
  supersede : j.supersedeOperationId = none
  source : j.sourceIdentity = some source
  /-- The container has the runtime that was to be entered. -/
  verified : c.manifest.verifies j.targetIdentity = true
  device : ∃ device, j.sourceDeviceId = some device
  fingerprint : j.requestFingerprint = (json.requestDigest j.reconcileRequest).value
  recorded : ∃ recorded, j.runtimeSnapshot = some recorded

def plainChange : JournalChange → Bool
  | .cleanupHandedOff | .runtimeStopping | .forceStop | .localStopped _ | .serverReconciling
  | .retry _ | .resume _ _ | .complete => true
  | _ => false

lemma Cancelling.apply (h : Cancelling json c source j) (hc : plainChange change = true)
    (hf : change.Fits j) :
    Cancelling json c source (change.apply j) := by
  have hv := SwitchJournal.valid_apply h.valid hf
  cases change with
  | cleanupHandedOff | runtimeStopping | forceStop | localStopped | serverReconciling | retry | resume
  | complete => exact { h with valid := hv }
  | _ => cases hc

structure Found (json : Json) (c : Coordinator) (source : RuntimeIdentity) (j : SwitchJournal)
    (s : SwitchWorld) : Prop where
  coordinator : s.coordinator = c
  switch : s.switch = some j
  cancelling : Cancelling json c source j
  selectable : Selectable source.slot s

/-- What the recovery reaches: the switch is over, and the update journal is as before. -/
structure Over (json : Json) (source : RuntimeIdentity) (s s' : SwitchWorld) : Prop where
  coordinator : s'.coordinator = s.coordinator
  update : s'.update = s.update
  settled : Settled json s'
  selectable : Selectable source.slot s'

lemma Over.trans (h : Over json source s1 s2) (hc : s1.coordinator = s.coordinator)
    (hu : s1.update = s.update) : Over json source s s2 :=
  ⟨h.coordinator.trans hc, h.update.trans hu, h.settled, h.selectable⟩

lemma Found.update (h : Found json c source j s) (hc : plainChange change = true)
    (hf : change.Fits j) :
    Succeeds Obliging t (update json change)
      (fun _ s' => s' = { s with switch := some (change.apply j) } ∧
        Found json c source (change.apply j) s') s := by
  refine (succeeds_update h.switch h.cancelling.valid hf).mono fun _ s' hs' => ⟨hs', ?_⟩
  subst hs'
  exact ⟨h.coordinator, rfl, h.cancelling.apply hc hf, h.selectable.stored, h.selectable.slot,
    h.selectable.version⟩

lemma Found.loadJournal (h : Found json c source j s) : s.loadJournal json = .ok s.switch := by
  simp only [SwitchWorld.loadJournal, h.switch, h.cancelling.valid, if_true]

lemma Found.round (h : Found json c source j s) (hr : j.runtimeSnapshot = some recorded)
    (hp : Succeeds Obliging t (recoverPhase json c j recorded) Q s) :
    Succeeds Obliging t (recoverRound json c) Q s := by
  refine (succeeds_snapshot h.loadJournal).bind fun _ s1 hs1 => ?_
  obtain ⟨rfl, rfl⟩ := hs1
  simp only [h.switch]
  have hc : Succeeds Obliging t (checkAuthority json c j) (fun _ s' => s' = s1) s1 := by
    have hv := h.cancelling.verified
    have ha := h.cancelling.active
    refine Succeeds.bind (P := fun _ s' => s' = s1) (Succeeds.whenever ?_ fun _ => rfl) fun _ s2 hs2 => ?_
    · intro ho
      simp [hv, ha] at ho
    · subst hs2
      exact Succeeds.whenever (fun _ => (succeeds_inquire).mono fun _ _ hs => hs.2) fun _ => rfl
  refine hc.bind fun _ s2 hs2 => ?_
  subst hs2
  refine (succeeds_demand hr).bind fun _ _ hs3 => ?_
  obtain ⟨rfl, rfl⟩ := hs3
  exact hp

lemma recovers_complete (h : Found json c source j s) (hp : j.phase = .complete) :
    Succeeds Obliging t (recoverLocked json c) (fun r s' => r = .ready ∧ Over json source s s') s := by
  obtain ⟨_, hr⟩ := h.cancelling.recorded
  refine Succeeds.loop (h.round hr ?_)
  simp only [recoverPhase, hp]
  refine Succeeds.pure ⟨rfl, rfl, rfl, fun k hk => ?_, h.selectable⟩
  obtain rfl : k = j := Option.some.inj (hk.symm.trans h.switch)
  exact ⟨h.cancelling.valid, hp⟩

lemma Found.goesOn (h : Found json c source j s) (hre : j.runtimeSnapshot = some recorded)
    (hp : Succeeds Obliging t (recoverPhase json c j recorded) (fun r s' => r = .inl () ∧
      Succeeds Obliging t (recoverLocked json c) Q s') s) :
    Succeeds Obliging t (recoverLocked json c) Q s := by
  refine Succeeds.loop (h.round hre (hp.mono fun r s' hr => ?_))
  obtain ⟨rfl, hr⟩ := hr
  exact hr

lemma receipt_of_stopped (hv : j.valid json = true) (hs : j.stoppedOrLater = true) :
    ∃ receipt, j.localStopReceipt = some receipt := by
  have hr : j.validReceipt = true := (SwitchJournal.valid_iff.mp hv).2.2.2.2.2.2
  simp only [SwitchJournal.validReceipt, hs] at hr
  cases hf : j.localStopReceipt with
  | none => simp [hf] at hr
  | some receipt => exact ⟨receipt, rfl⟩

lemma recovers_resuming (h : Found json c source j s) (hp : j.phase = .authResuming)
    (hd : j.decision = some .cancel) (hrs : j.resumeOperationId = some resumeId)
    (hrt : j.retry = none) :
    Succeeds Obliging t (recoverLocked json c)
      (fun r s' => r = .ready ∧ Over json source s s') s := by
  obtain ⟨_, hre⟩ := h.cancelling.recorded
  have hst : j.stoppedOrLater = true := by simp [SwitchJournal.stoppedOrLater, hp]
  obtain ⟨receipt, hrc⟩ := receipt_of_stopped h.cancelling.valid hst
  refine h.goesOn hre ?_
  simp only [recoverPhase, hp]
  have hk : withdrawable json j = pure false := by simp [withdrawable, hd]
  have hn : waiting json j = pure none := by simp only [waiting, hrt]
  have hf : unfinishedSupersede j = none := by
    simp only [unfinishedSupersede, h.cancelling.supersede]
  have ht : resumeTarget j .cancel = some (RuntimeTarget.fromIdentity source) := by
    simp only [resumeTarget, h.cancelling.source, Option.map_some]
  refine Succeeds.bind (P := fun withdrawn s' => withdrawn = false ∧ s' = s) (by
    rw [hk]; exact .pure ⟨rfl, rfl⟩) fun withdrawn s1 hs1 => ?_
  obtain ⟨rfl, rfl⟩ := hs1
  refine Succeeds.bind (P := fun wait s' => wait = none ∧ s' = s1) (by
    rw [hn]; exact .pure ⟨rfl, rfl⟩) fun wait _ hs2 => ?_
  obtain ⟨rfl, rfl⟩ := hs2
  simp only [hf]
  refine (succeeds_demand hd).bind fun _ _ hs3 => ?_
  obtain ⟨rfl, rfl⟩ := hs3
  refine (succeeds_demand ht).bind fun _ _ hs4 => ?_
  obtain ⟨rfl, rfl⟩ := hs4
  refine (succeeds_demand hrs).bind fun resumeId _ hs5 => ?_
  obtain ⟨rfl, rfl⟩ := hs5
  refine (succeeds_inquire).bind fun _ _ hs6 => ?_
  obtain ⟨hse, rfl⟩ := hs6
  obtain ⟨access, ha⟩ := Option.isSome_iff_exists.mp hse
  refine (succeeds_demand ha).bind fun access _ hs7 => ?_
  obtain ⟨rfl, rfl⟩ := hs7
  refine (succeeds_demand hrc).bind fun receipt _ hs8 => ?_
  obtain ⟨rfl, rfl⟩ := hs8
  refine (succeeds_inquire).bind fun _ s9 hs9 => ?_
  obtain ⟨-, rfl⟩ := hs9
  refine (succeeds_finishSelection h.selectable).bind fun _ _ hs10 => ?_
  subst hs10
  have hch : Found json c source j { s9 with selection := some (chosen s9 source.slot) } :=
    ⟨h.coordinator, h.switch, h.cancelling, h.selectable.chosen⟩
  refine (@Found.update json t _ j c source .complete hch rfl ⟨hp, h.cancelling.supersede⟩).bind
    fun _ _ hs11 => ?_
  obtain ⟨rfl, hc⟩ := hs11
  refine Succeeds.pure ⟨rfl, (recovers_complete hc rfl).mono fun r s' hr => ⟨hr.1, ?_⟩⟩
  exact hr.2.trans rfl rfl

lemma succeeds_frozenRequest (h : Cancelling json c source j) :
    Succeeds Obliging t (frozenRequest json j) (fun _ s' => s' = s) s := by
  obtain ⟨device, hd⟩ := h.device
  have hr : j.validRoot json = true := (SwitchJournal.valid_iff.mp h.valid).1
  simp only [SwitchJournal.validRoot, Bool.and_eq_true, hd, Option.all_some, Bool.not_eq_true',
    decide_eq_true_eq] at hr
  have hf : FrozenReconcileRequest.fromPersisted json j.reconcileRequest device
      j.sourceScopeFingerprint (some j.requestFingerprint) =
        .ok ⟨j.reconcileRequest, device, j.sourceScopeFingerprint⟩ := by
    simp [FrozenReconcileRequest.fromPersisted, h.fingerprint, hr.1.2.1, hr.1.1.1.2]
  simp only [frozenRequest, h.active, Option.isSome_none, Bool.false_eq_true, if_false]
  refine (succeeds_demand hd).bind fun _ _ hs1 => ?_
  obtain ⟨rfl, rfl⟩ := hs1
  rw [hf]
  exact Succeeds.relabel (.pure rfl)

lemma recovers_reconciling (h : Found json c source j s) (hp : j.phase = .serverReconciling)
    (hrt : j.retry = none) :
    Succeeds Obliging t (recoverLocked json c) (fun r s' => r = .ready ∧ Over json source s s') s := by
  obtain ⟨_, hre⟩ := h.cancelling.recorded
  refine h.goesOn hre ?_
  simp only [recoverPhase, hp]
  have hn : waiting json j = pure none := by simp only [waiting, hrt]
  refine Succeeds.bind (P := fun wait s' => wait = none ∧ s' = s) (by
    rw [hn]; exact .pure ⟨rfl, rfl⟩) fun wait s1 hs1 => ?_
  obtain ⟨rfl, rfl⟩ := hs1
  have hrc : Succeeds Obliging t (recordRetry json (nextAttempt j) (retryDelay (nextAttempt j)))
      (fun _ s' => ∃ next, s' = { s1 with switch := some (JournalChange.apply j (.retry next)) } ∧
        Found json c source (JournalChange.apply j (.retry next)) s') s1 := by
    refine succeeds_unixTimeMs.bind fun now s2 hs2 => ?_
    subst hs2
    have ha := SwitchClosure.nextAttempt_bounds j
    have hd := SwitchClosure.retryDelay_bounds (nextAttempt j)
    have hb : SwitchRetry.Bounded ⟨nextAttempt j, retryDelay (nextAttempt j),
        min (now + retryDelay (nextAttempt j) * 1000) (2 ^ 64 - 1)⟩ := by
      refine ⟨ha.1, ha.2, hd.1, hd.2, ?_⟩
      simp only
      omega
    refine (@Found.update json t _ j c source (.retry _) h rfl hb).bind fun _ s3 hs3 => ?_
    exact .pure ⟨_, hs3⟩
  refine hrc.bind fun _ s2 hs2 => ?_
  obtain ⟨_, rfl, hf⟩ := hs2
  refine (succeeds_frozenRequest h.cancelling).bind fun _ s3 hs3 => ?_
  subst hs3
  refine (succeeds_ask).bind fun _ _ hs4 => ?_
  obtain ⟨⟨receipt, rfl, hc⟩, rfl⟩ := hs4
  have hst : receipt.state = .clean := hc
  simp only [hst, reconciled, h.cancelling.cancel, h.cancelling.active, Option.isNone_none,
    Bool.and_self, if_true, reduceCtorEq, if_false]
  refine succeeds_newUuid.bind fun id _ hs5 => ?_
  subst hs5
  refine (@Found.update json t _ _ c source (.resume id.value .cancel) hf rfl
    ⟨hp, id.canonical⟩).bind fun _ _ hs6 => ?_
  obtain ⟨rfl, hrs⟩ := hs6
  refine Succeeds.pure ⟨rfl, (recovers_resuming hrs rfl rfl rfl rfl).mono fun r s' hr => ?_⟩
  exact ⟨hr.1, hr.2.trans rfl rfl⟩

lemma recovers_stopped (h : Found json c source j s) (hp : j.phase = .localStopped)
    (hrt : j.retry = none) :
    Succeeds Obliging t (recoverLocked json c) (fun r s' => r = .ready ∧ Over json source s s') s := by
  obtain ⟨_, hrc⟩ := h.cancelling.recorded
  refine h.goesOn hrc ?_
  simp only [recoverPhase, hp]
  refine Succeeds.map ((@Found.update json t _ j c source .serverReconciling h rfl hp).mono
    fun _ s' hs' => ?_)
  obtain ⟨rfl, hre⟩ := hs'
  refine ⟨rfl, (recovers_reconciling hre rfl hrt).mono fun r s' hr => ?_⟩
  exact ⟨hr.1, hr.2.trans rfl rfl⟩

def Moved (json : Json) (c : Coordinator) (source : RuntimeIdentity) (s : SwitchWorld)
    (I : SwitchJournal → Prop) (s' : SwitchWorld) : Prop :=
  ∃ j', Found json c source j' s' ∧ s'.update = s.update ∧ j'.retry = none ∧ I j'

lemma Moved.update (h : Moved json c source s0 I s) (hc : stopChange change = true)
    (hfi : ∀ k, I k → change.Fits k) (hn : ∀ k, I k → I' (change.apply k)) :
    Succeeds Obliging t (update json change) (fun _ s' => Moved json c source s0 I' s') s := by
  obtain ⟨k, hf, hu, hr, hk⟩ := h
  have hp : plainChange change = true := by
    cases change with
    | cleanupHandedOff | runtimeStopping | forceStop | localStopped => rfl
    | _ => cases hc
  have hke : (change.apply k).retry = none := by
    cases change with
    | cleanupHandedOff | runtimeStopping | forceStop | localStopped => exact hr
    | _ => cases hc
  refine (hf.update hp (hfi k hk)).mono fun _ s' hs' => ?_
  obtain ⟨rfl, hf'⟩ := hs'
  exact ⟨_, hf', hu, hke, hn k hk⟩

lemma Moved.ask (q : Question) (h : Moved json c source s0 I s) :
    Succeeds Obliging t (inquire json q) (fun _ s' => Moved json c source s0 I s') s := by
  refine (succeeds_inquire).mono fun _ s' hs' => ?_
  obtain ⟨-, rfl⟩ := hs'
  exact h

lemma succeeds_stopRuntime (h : Moved json c source s0 I s) :
    Succeeds Obliging t (stopRuntime json j recorded)
      (fun _ s' => Moved json c source s0 I s') s := by
  unfold stopRuntime
  split
  · exact (h.ask _).bind fun _ s1 hs1 => .pure hs1
  · refine (succeeds_ask).bind fun _ s1 hs1 => ?_
    obtain ⟨⟨a, rfl, -⟩, rfl⟩ := hs1
    exact .pure h

lemma succeeds_stopHandoff (h : Found json c source j s)
    (hr : j.runtimeSnapshot = some recorded) (hru : j.stoppedOrLater = false)
    (hre : j.retry = none) :
    Succeeds Obliging t (stopHandoff json recorded)
      (fun _ s' => Moved json c source s (fun k => k.phase = .localStopped) s') s := by
  refine (succeeds_snapshot h.loadJournal).bind fun _ s1 hs1 => ?_
  obtain ⟨rfl, rfl⟩ := hs1
  simp only [h.switch]
  refine Succeeds.bind (P := fun _ s' => s' = s1)
    (Succeeds.require (decide_eq_true hr) rfl) fun _ s2 hs2 => ?_
  subst hs2
  let running : SwitchJournal → Prop := fun k => SameStop j k ∧ k.stoppedOrLater = false
  have hf : Moved json c source s2 running s2 := ⟨j, h, rfl, hre, ⟨rfl, rfl, rfl⟩, hru⟩
  have hh : Succeeds Obliging t (whenever (decide (j.phase = .requested))
      ((fun _ => ()) <$> update json .cleanupHandedOff))
      (fun _ s' => Moved json c source s2 running s') s2 := by
    refine Succeeds.whenever (fun _ => Succeeds.map (hf.update rfl (fun k hk => hk.2) ?_))
      fun _ => hf
    exact fun k hk => ⟨⟨hk.1.operationId, hk.1.scope, hk.1.snapshot⟩, rfl⟩
  refine hh.bind fun _ s3 hs3 => ?_
  let stopping : SwitchJournal → Prop := fun k => SameStop j k ∧ k.phase = .runtimeStopping
  have hst : Succeeds Obliging t (update json .runtimeStopping)
      (fun _ s' => Moved json c source s2 stopping s') s3 :=
    hs3.update rfl (fun k hk => hk.2)
      fun k hk => ⟨⟨hk.1.operationId, hk.1.scope, hk.1.snapshot⟩, rfl⟩
  refine hst.bind fun _ _ hs4 => ?_
  refine (succeeds_stopRuntime hs4).bind fun forced s5 hs5 => ?_
  have hd : Succeeds Obliging t (update json (.localStopped (receiptOf j recorded forced)))
      (fun _ s' => Moved json c source s2 (fun k => k.phase = .localStopped) s') s5 := by
    refine hs5.update rfl (fun k hk => ⟨hk.2, ?_⟩) fun k _ => rfl
    exact ⟨hk.1.operationId.symm, hk.1.scope.symm, recorded, hk.1.snapshot.trans hr, rfl, rfl⟩
  exact hd.bind fun _ _ hs6 => .pure hs6

lemma recovers_running (h : Found json c source j s) (hru : j.stoppedOrLater = false)
    (hrt : j.retry = none) :
    Succeeds Obliging t (recoverLocked json c) (fun r s' => r = .ready ∧ Over json source s s') s := by
  obtain ⟨recorded, hre⟩ := h.cancelling.recorded
  refine h.goesOn hre ?_
  have hst : Succeeds Obliging t (Sum.inl <$> recoverStop json recorded : SwitchProg json Round)
      (fun r s' => r = .inl () ∧ Succeeds Obliging t (recoverLocked json c)
        (fun r s' => r = .ready ∧ Over json source s s') s') s := by
    refine Succeeds.map ?_
    refine (succeeds_inquire).bind fun login _ hs1 => ?_
    obtain ⟨hl, rfl⟩ := hs1
    refine (succeeds_inquire).bind fun ha s2 hs2 => ?_
    obtain ⟨hh, rfl⟩ := hs2
    have hsc : login.matchesRuntimeScope recorded.authScope = true := hl j h.switch recorded hre
    obtain rfl : ha = recorded := hh j h.switch recorded hre
    refine Succeeds.bind (P := fun _ s' => s' = s2)
      (Succeeds.require (by simp [hsc]) rfl) fun _ _ hs3 => ?_
    subst hs3
    refine (succeeds_stopHandoff h hre hru hrt).mono fun _ s' hs' => ⟨rfl, ?_⟩
    obtain ⟨k, hf, hu, hrt', hp⟩ := hs'
    refine (recovers_stopped hf hp hrt').mono fun r _ hr => ⟨hr.1, ?_⟩
    exact hr.2.trans (hf.coordinator.trans h.coordinator.symm) hu
  unfold recoverPhase
  cases hp : j.phase with
  | requested | cleanupHandedOff | runtimeStopping => exact hst
  | localStopped | serverReconciling | authResuming | complete =>
    simp [SwitchJournal.stoppedOrLater, hp] at hru

end Rounds

section Recovery

variable {json : Json} {t : ℕ} {s : SwitchWorld} {u : UpdateJournal} {j : SwitchJournal}

lemma slot_of_valid (h : u.valid = true) : u.sourceRuntime.slot = u.previousSlot := by
  simp only [UpdateJournal.valid, Bool.and_eq_true, decide_eq_true_eq] at h
  exact h.1.1.2

lemma version_of_valid (h : u.valid = true) :
    u.sourceContainer.isEmpty = false ∧ u.sourceContainer.utf8ByteSize ≤ 64 := by
  simp only [UpdateJournal.valid, validVersion, Bool.and_eq_true, decide_eq_true_eq,
    Bool.not_eq_true'] at h
  exact h.1.1.1.1.1.1.1.1

lemma selectable_of_linked (h : Linked json u s) : Selectable u.sourceRuntime.slot s := by
  have hf := VerifiedContainerManifest.target_fields h.target
  have hv := version_of_valid h.valid
  rw [← h.container] at hv
  refine ⟨h.selection, ?_, hv⟩
  rw [slot_of_valid h.valid]
  exact hf.2.2

lemma cancelling_of_stopOf (h : StopOf json u j)
    (ht : c.manifest.target u.previousSlot = some (RuntimeTarget.fromIdentity u.sourceRuntime)) :
    Cancelling json c u.sourceRuntime (JournalChange.apply j .cancelRequested) where
  valid := SwitchJournal.valid_apply h.valid trivial
  cancel := rfl
  active := h.active
  supersede := h.supersede
  source := h.source
  verified := by
    have hf := VerifiedContainerManifest.target_fields ht
    have hs : (JournalChange.apply j .cancelRequested).targetIdentity =
        RuntimeTarget.fromIdentity u.sourceRuntime := h.target
    rw [VerifiedContainerManifest.verifies, hs, hf.1, ht, decide_eq_true_eq]
  device := h.device
  fingerprint := h.fingerprint
  recorded := h.recorded

lemma succeeds_cancelUpdateStop (h : Linked json u s) :
    Succeeds Obliging t (cancelUpdateStop json s.coordinator u.operationId)
      (fun r s' => r = .ready ∧ Over json u.sourceRuntime s s') s := by
  have hl := loadJournal_of_journalled (.linked u h)
  refine (succeeds_snapshot hl).bind fun _ s1 hs1 => ?_
  obtain ⟨rfl, rfl⟩ := hs1
  cases hsw : s1.switch with
  | none =>
    refine Succeeds.pure ⟨rfl, rfl, rfl, fun k hk => ?_, selectable_of_linked h⟩
    rw [hsw] at hk
    cases hk
  | some j =>
    have hst := h.switch j hsw
    have hp : j.phase ≠ .complete := by
      intro hc
      have he := hst.early (by simp [SwitchJournal.stoppedOrLater, hc])
      rw [hc] at he
      cases he
    simp only [hst.operation, ne_eq, not_true_eq_false, if_false, hp]
    refine (@succeeds_update json t _ j .cancelRequested hsw hst.valid trivial).bind
      fun _ _ hs2 => ?_
    subst hs2
    have hf : Found json s1.coordinator u.sourceRuntime (JournalChange.apply j .cancelRequested)
        { s1 with switch := some (JournalChange.apply j .cancelRequested) } :=
      ⟨rfl, rfl, cancelling_of_stopOf hst h.target, (selectable_of_linked h).stored,
        (selectable_of_linked h).slot, (selectable_of_linked h).version⟩
    have hre : (JournalChange.apply j .cancelRequested).retry = none := hst.retry
    cases hso : j.stoppedOrLater with
    | false =>
      exact (recovers_running hf hso hre).mono fun r s' hr => ⟨hr.1, hr.2.trans rfl rfl⟩
    | true =>
      exact (recovers_stopped hf (hst.early hso) hre).mono fun r s' hr => ⟨hr.1, hr.2.trans rfl rfl⟩

lemma currentSelection_chosen (hse : Settled json s)
    (hsl : (s.coordinator.manifest.selected slot).isSome = true)
    (hs : s.selection = some (chosen s slot)) : s.currentSelection json = .ok (chosen s slot) := by
  have hd : s.desiredSlotFromJournal json = .ok none := by
    unfold SwitchWorld.desiredSlotFromJournal SwitchWorld.loadJournal
    cases hsw : s.switch with
    | none => rfl
    | some j =>
      obtain ⟨hv, hc⟩ := hse j hsw
      simp only [hv, if_true, hc, true_or]
  simp [SwitchWorld.currentSelection, hs, chosen, Option.isSome_iff_ne_none.mp hsl, hd]

/-- What a recovery leaves: no update journal, and the slot that was selected before. -/
def Restored (json : Json) (s s' : SwitchWorld) : Prop :=
  s'.update = none ∧ ∀ u, s.update = some u → s'.currentSelection json = .ok (chosen s u.previousSlot)

lemma succeeds_installerFailed (h : Linked json u s) :
    Succeeds Obliging t (installerFailed json s.coordinator) (fun _ s' => Restored json s s') s := by
  have hl := loadUpdate_of_journalled (.linked u h)
  refine (succeeds_loadUpdate hl).bind fun _ s1 hs1 => ?_
  obtain ⟨rfl, rfl⟩ := hs1
  simp only [h.update]
  refine Succeeds.bind (P := fun _ s' => s' = s1)
    (Succeeds.require (by simp [h.container]) rfl) fun _ s2 hs2 => ?_
  subst hs2
  -- The cancel is recorded, unless an earlier recovery did so.
  have hca : Linked json { u with phase := .cancelRequested }
      { s2 with update := some { u with phase := .cancelRequested } } :=
    ⟨rfl, h.valid, h.container, h.target, h.selection, fun k hk =>
      { h.switch k hk with stopped := fun hst => Bool.noConfusion hst }⟩
  have hr : Succeeds Obliging t (whenever (decide (u.phase ≠ .cancelRequested))
      (replaceUpdate json { u with phase := .cancelRequested }))
      (fun _ s' => s' = { s2 with update := some { u with phase := .cancelRequested } }) s2 := by
    refine Succeeds.whenever (fun _ => succeeds_replaceUpdate h.valid) fun hsa => ?_
    have hp : u.phase = .cancelRequested := by simpa using hsa
    have hu : { u with phase := .cancelRequested } = u := by
      rw [← hp]
    rw [hu, ← h.update]
  refine hr.bind fun _ _ hs3 => ?_
  subst hs3
  refine (Succeeds.relabel (succeeds_cancelUpdateStop hca)).bind fun _ s4 hs4 => ?_
  obtain ⟨rfl, ho⟩ := hs4
  have hsl : u.sourceRuntime.slot = u.previousSlot := slot_of_valid h.valid
  have hse : Selectable u.previousSlot s4 := hsl ▸ ho.selectable
  refine (Succeeds.relabel (succeeds_finishSelection hse)).bind fun _ _ hs5 => ?_
  subst hs5
  refine succeeds_removeUpdate.mono fun _ _ hs6 => ?_
  subst hs6
  refine ⟨rfl, fun u' hu' => ?_⟩
  obtain rfl : u' = u := Option.some.inj (hu'.symm.trans h.update)
  have hc : s4.coordinator = s2.coordinator := ho.coordinator
  have hch : chosen s2 u'.previousSlot = chosen s4 u'.previousSlot := by
    simp only [chosen, hc]
  rw [hch]
  exact currentSelection_chosen ho.settled hse.slot rfl

lemma succeeds_recoverUpdate (h : Journalled json s) (hw : ¬ Torn json s) :
    Succeeds Obliging t (recoverUpdate json s.coordinator.manifest.containerVersion)
      (fun _ s' => Restored json s s') s := by
  have hl := loadUpdate_of_journalled h
  refine (Succeeds.relabel succeeds_command_coordinator).bind fun c _ hs1 => ?_
  obtain ⟨rfl, rfl⟩ := hs1
  refine (succeeds_loadUpdate hl).bind fun _ s2 hs2 => ?_
  obtain ⟨rfl, rfl⟩ := hs2
  cases h with
  | idle hup =>
    simp only [hup]
    exact Succeeds.pure ⟨hup, fun u hu => by simp [hup] at hu⟩
  | torn h => exact absurd h hw
  | linked u h =>
    simp only [h.update]
    refine Succeeds.bind (P := fun _ s' => s' = s2) (Succeeds.require (by simp) rfl) fun _ s3 hs3 => ?_
    subst hs3
    rw [if_pos h.container]
    exact succeeds_installerFailed h

lemma linked_of_stopOf (h : StopOf json u j) : linked manifest u j = true := by
  have hs : j.supersedeTarget = none := by
    have hg : j.validSupersede = true := (SwitchJournal.valid_iff.mp h.valid).2.2.2.1
    simp only [SwitchJournal.validSupersede, h.supersede, Option.isSome_none, Option.all_none,
      Bool.and_true, Option.isNone_none, Bool.true_or, Bool.and_eq_true] at hg
    simpa using hg.1
  have hp : (!u.phase.stopped || j.stoppedOrLater) = true := by
    cases hph : u.phase.stopped with
    | false => rfl
    | true => simp [h.stopped hph]
  simp [linked, h.operation, h.source, h.target, hs]
  simpa using hp

lemma succeeds_validateSwitchLink (h : Linked json u s) :
    Succeeds Obliging t (validateSwitchLink json manifest u) (fun _ s' => s' = s) s := by
  have hl := loadJournal_of_journalled (.linked u h)
  refine (Succeeds.relabel (succeeds_snapshot hl)).bind fun _ s1 hs1 => ?_
  obtain ⟨rfl, rfl⟩ := hs1
  cases hsw : s1.switch with
  | none => exact .pure rfl
  | some j => exact Succeeds.require (linked_of_stopOf (h.switch j hsw)) rfl

lemma succeeds_openCoordinator (h : Journalled json s) :
    Succeeds Obliging t (openCoordinator json) (fun _ s' => s' = s) s :=
  Succeeds.map ((succeeds_snapshot (loadJournal_of_journalled h)).mono fun _ _ hs => hs.2)

lemma succeeds_openBarrier (h : Journalled json s) (hw : ¬ Torn json s) :
    Succeeds Obliging t (openBarrier json) (fun _ s' => s' = s) s := by
  refine (Succeeds.relabel succeeds_command_coordinator).bind fun c _ hs1 => ?_
  obtain ⟨rfl, rfl⟩ := hs1
  refine (succeeds_loadUpdate (loadUpdate_of_journalled h)).bind fun _ _ hs2 => ?_
  obtain ⟨rfl, rfl⟩ := hs2
  cases h with
  | idle hu =>
    simp only [hu]
    exact .pure rfl
  | torn h => exact absurd h hw
  | linked u h =>
    simp only [h.update]
    exact succeeds_validateSwitchLink h

lemma succeeds_updateStartRecovery (h : Journalled json s) (hw : ¬ Torn json s) :
    Succeeds Obliging t (updateStartRecovery json s.coordinator.manifest) (fun _ s' => s' = s) s := by
  refine Succeeds.relabel ((succeeds_loadUpdate (loadUpdate_of_journalled h)).bind
    fun _ _ hs1 => ?_)
  obtain ⟨rfl, rfl⟩ := hs1
  cases h with
  | idle hu =>
    simp only [hu]
    exact .pure rfl
  | torn h => exact absurd h hw
  | linked u h =>
    simp only [h.update]
    exact (succeeds_validateSwitchLink h).bind fun _ _ hs2 => .pure hs2

lemma fails_validateSwitchLink (h : Journalled json s) (hsw : s.switch = some j)
    (ho : j.operationId ≠ u.operationId) :
    Finishes Obliging t (fun r s' => r = .error .invalid ∧ s' = s)
      (validateSwitchLink json manifest u).run s := by
  refine (Succeeds.relabel (succeeds_snapshot (loadJournal_of_journalled h))).andThen
    fun _ _ hs1 => ?_
  obtain ⟨rfl, rfl⟩ := hs1
  have hl : linked manifest u j = false := by
    simp [linked, ho]
  simp only [hsw, hl]
  exact .ret ⟨rfl, rfl⟩

lemma fails_openBarrier (h : Journalled json s) (hu : s.update = some u)
    (hsw : s.switch = some j) (ho : j.operationId ≠ u.operationId) :
    Finishes Obliging t (fun r s' => r = .error .invalid ∧ s' = s) (openBarrier json).run s := by
  refine (Succeeds.relabel succeeds_command_coordinator).andThen fun c _ hs1 => ?_
  obtain ⟨rfl, rfl⟩ := hs1
  refine (succeeds_loadUpdate (loadUpdate_of_journalled h)).andThen fun _ _ hs2 => ?_
  obtain ⟨rfl, rfl⟩ := hs2
  simp only [hu]
  exact fails_validateSwitchLink h hsw ho

lemma fails_updateStartRecovery (h : Journalled json s) (hu : s.update = some u)
    (hsw : s.switch = some j) (ho : j.operationId ≠ u.operationId) :
    Finishes Obliging t (fun r s' => r = .error (.journal .invalid) ∧ s' = s)
      (updateStartRecovery json manifest).run s := by
  refine Finishes.map ((succeeds_loadUpdate (loadUpdate_of_journalled h)).andThen fun _ _ hs1 => ?_)
  obtain ⟨rfl, rfl⟩ := hs1
  simp only [hu]
  refine Finishes.bind (fails_validateSwitchLink h hsw ho) fun r _ hr => ?_
  obtain ⟨rfl, rfl⟩ := hr
  exact .ret ⟨rfl, rfl⟩

end Recovery

/-- A preparation that is cut off anywhere is undone on the same container, unless
its journal stands beside a completed switch: both components open, the start of a
tunnel sees what to recover, and the recovery removes the journal and restores the
slot. -/
theorem interrupted_prepare_recovers {json : Json} {s₀ : SwitchWorld} (hupdate : s₀.update = none)
    (hswitch : Settled json s₀) {P : Pool (prepareSystem json)}
    (hrun : Reach (unconditioned _) (Pool.idle s₀) P) (hwhole : ¬ Torn json P.state) :
    let s := (prepareSystem json).restart P.state
    Succeeds Obliging 0 (openCoordinator json) (fun _ s' => s' = s) s ∧
      Succeeds Obliging 0 (openBarrier json) (fun _ s' => s' = s) s ∧
      Succeeds Obliging 0 (updateStartRecovery json s.coordinator.manifest) (fun _ s' => s' = s) s ∧
      Succeeds Obliging 0 (recoverUpdate json s.coordinator.manifest.containerVersion)
        (fun _ s' => Restored json s s') s := by
  intro s
  have hj : Journalled json s := (journalled_of_reach hupdate hswitch hrun).installed _
  have ha : ¬ Torn json s := hwhole
  constructor
  · exact succeeds_openCoordinator hj
  constructor
  · exact succeeds_openBarrier hj ha
  constructor
  · exact succeeds_updateStartRecovery hj ha
  · exact succeeds_recoverUpdate hj ha

def completedSwitch : SwitchJournal where
  operationId := (numberedUuid 1).value
  requestFingerprint := plainDigest.value
  sourceIdentity := some (singleRuntime "1.0.0")
  sourceDeviceId := some "device"
  sourceScopeFingerprint := plainDigest.value
  targetIdentity := RuntimeTarget.fromIdentity (singleRuntime "1.0.0")
  expectedSessionGeneration := some 1
  cleanupEnvelope := ⟨1, [], [], [], .primary, none⟩
  runtimeSnapshot := some (singleRecord "1.0.0")
  phase := .complete
  resumeOperationId := some (numberedUuid 2).value
  decision := some .apply
  localStopReceipt := some ⟨(numberedUuid 1).value, plainDigest.value, .latest, "1.0.0", false⟩

/-- A container with a selected runtime and the journal of an earlier switch. -/
def settledWorld : SwitchWorld where
  coordinator := ⟨singleContainer "1.0.0", none, none⟩
  initialTransitionSatisfied := true
  selection := some ⟨"1.0.0", .latest, none⟩
  switch := some completedSwitch
  update := none
  rejected := false

def undisturbed : SwitchInput :=
  ⟨.done, 1, numberedUuid 3, singleReplies "1.0.0" (.ok ⟨.clean, none⟩)⟩

/-- A preparation, and the end of its process after some of its commands. -/
def preparation (steps : ℕ) : List (Move (prepareSystem plainJson)) :=
  .start "1.1.0" :: segment 0 (List.replicate steps undisturbed) ++ [.crash]

lemma settled_completedSwitch : Settled plainJson settledWorld := by
  intro j hj
  obtain rfl : completedSwitch = j := Option.some.inj hj
  decide +kernel

/-- The process dies after the journal of the update was written, and before the
journal of the earlier switch was replaced. From then on neither the barrier opens
nor a tunnel starts. -/
theorem prepare_beside_completed_switch_stuck :
    settledWorld.update = none ∧ Settled plainJson settledWorld ∧
      ∃ P : Pool (prepareSystem plainJson), Reach (unconditioned _) (Pool.idle settledWorld) P ∧
        Finishes Obliging 0 (fun r s' => r = .error .invalid ∧ s' = P.state)
          (openBarrier plainJson).run P.state ∧
        Finishes Obliging 0 (fun r s' => r = .error (.journal .invalid) ∧ s' = P.state)
          (updateStartRecovery plainJson P.state.coordinator.manifest).run P.state := by
  have hru : (moves (unconditioned _) (Pool.idle settledWorld)
      (preparation 8)).map (fun P => (P.state.update.map (·.operationId), P.state.switch.map (·.operationId)))
        = some (some (numberedUuid 3).value, some (numberedUuid 1).value) := by
    decide +kernel
  obtain ⟨P, hr, hi⟩ := Reach.observed hru
  have hjo := journalled_of_reach rfl settled_completedSwitch hr
  obtain ⟨u, hu, hui⟩ := Option.map_eq_some_iff.mp (congrArg Prod.fst hi)
  obtain ⟨j, hj, hji⟩ := Option.map_eq_some_iff.mp (congrArg Prod.snd hi)
  have ho : j.operationId ≠ u.operationId := by
    rw [hui, hji]
    decide +kernel
  exact ⟨rfl, settled_completedSwitch, P, hr, fails_openBarrier hjo hu hj ho,
    fails_updateStartRecovery hjo hu hj ho⟩

/-- A preparation that has stopped the runtime, and is taken back. -/
theorem interrupted_prepare_recovers_stopped :
    ∃ P : Pool (prepareSystem plainJson), P.state.update.map (·.phase) = some .localStopped ∧
      P.state.switch.map (·.phase) = some .localStopped ∧
      Succeeds Obliging 0 (recoverUpdate plainJson P.state.coordinator.manifest.containerVersion)
        (fun _ s' => Restored plainJson ((prepareSystem plainJson).restart P.state) s')
        ((prepareSystem plainJson).restart P.state) := by
  have hru : (moves (unconditioned _) (Pool.idle settledWorld)
      (preparation 18)).map (fun P => (P.state.update.map (·.phase), P.state.switch.map (·.phase)))
        = some (some .localStopped, some .localStopped) := by
    decide +kernel
  obtain ⟨P, hre, hp⟩ := Reach.observed hru
  obtain ⟨j, hj, hph⟩ := Option.map_eq_some_iff.mp (congrArg Prod.snd hp)
  have hw : ¬ Torn plainJson P.state := by
    intro ht
    have hc := (ht.2.2 j hj).2
    rw [hph] at hc
    cases hc
  have hr := interrupted_prepare_recovers rfl settled_completedSwitch hre hw
  exact ⟨P, congrArg Prod.fst hp, congrArg Prod.snd hp, hr.2.2.2⟩

end NelomaiClient.UpdateRecovery
