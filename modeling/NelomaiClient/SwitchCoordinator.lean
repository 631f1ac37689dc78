import NelomaiClient.AwaitFallible
import NelomaiClient.SwitchRecord

/-!
# The coordinator of runtime switches

`SwitchCoordinator` with the update journal that it reads. Its calls hold the
execution lock, so that they run one after the other; the process may die
between any two commands. The broker, the runtime control, the clock and the
files answer as they like: every answer is an input of its command. One field
of the state is history: whether `update` ever made a journal that
`validate_journal` refused.
-/

namespace NelomaiClient.SwitchCoordinator

open AwaitProgram AwaitRely AwaitFallible
open RuntimeRecord SplitRecord RuntimeOwner SwitchRecord

inductive SwitchJournalError where
  | io
  | invalid
  | pending

/-- `BrokerError`; of a failed request only a transport failure is told apart. -/
inductive BrokerError where
  | cancelled
  | recoveryRequired
  | identityMismatch
  | timeout
  | refreshPending
  | refreshRejected
  | authenticationOutcomeUnknown
  | accessUnavailable
  | storage
  | transport
  | api

def BrokerError.lostAnswer : BrokerError → Bool
  | .timeout | .transport => true
  | _ => false

inductive SwitchError where
  | journal (error : SwitchJournalError)
  | broker (error : BrokerError)
  | recoveryRequired

inductive UpdateBarrierError where
  | io
  | invalid
  | pending
  | switch (error : SwitchError)

def UpdateBarrierError.ofFile : SwitchJournalError → UpdateBarrierError
  | .io => .io
  | .invalid => .invalid
  | .pending => .pending

def updateToSwitchJournalError : UpdateBarrierError → SwitchJournalError
  | .io => .io
  | _ => .invalid

structure RuntimeArtifact where
  runtimeVersion : String
  contractVersion : ℕ

/-- `VerifiedContainerManifest`; a stable slot is there when it is selectable. -/
structure VerifiedContainerManifest where
  containerVersion : String
  latest : RuntimeArtifact
  stable : Option RuntimeArtifact

namespace VerifiedContainerManifest
variable (manifest : VerifiedContainerManifest)

def selected : RuntimeSlot → Option RuntimeArtifact
  | .latest => some manifest.latest
  | .stable => manifest.stable

def identity (slot : RuntimeSlot) (generation : Option ℕ) :
    Option RuntimeIdentity :=
  ((manifest.selected slot).map fun artifact =>
    ⟨slot, artifact.runtimeVersion, artifact.contractVersion, manifest.containerVersion,
      generation⟩).filter validIdentity

def target (slot : RuntimeSlot) : Option RuntimeTarget :=
  (manifest.identity slot none).map RuntimeTarget.fromIdentity

def verifies (target : RuntimeTarget) : Bool :=
  decide (manifest.target target.runtimeSlot = some target)

lemma target_valid {manifest : VerifiedContainerManifest} {target : RuntimeTarget}
    (h : manifest.target slot = some target) : target.valid = true := by
  obtain ⟨identity, hi, rfl⟩ := Option.map_eq_some_iff.mp h
  have hv : validIdentity identity = true := (Option.filter_eq_some_iff.mp hi).2
  exact RuntimeTarget.valid_fromIdentity hv

lemma target_fields {manifest : VerifiedContainerManifest} {target : RuntimeTarget}
    (h : manifest.target slot = some target) :
    target.runtimeSlot = slot ∧ target.containerVersion = manifest.containerVersion ∧
      (manifest.selected slot).isSome = true := by
  obtain ⟨_, hi, rfl⟩ := Option.map_eq_some_iff.mp h
  obtain ⟨_, ha, rfl⟩ := Option.map_eq_some_iff.mp (Option.filter_eq_some_iff.mp hi).1
  exact ⟨rfl, rfl, by rw [ha]; rfl⟩

end VerifiedContainerManifest

structure SlotSelection where
  containerVersion : String
  selectedSlot : RuntimeSlot
  pendingSlot : Option RuntimeSlot

def validBasicSelection (state : SlotSelection) : Bool :=
  !state.containerVersion.isEmpty && decide (state.containerVersion.utf8ByteSize ≤ 64) &&
    decide (state.pendingSlot ≠ some state.selectedSlot)

inductive UpdateJournalPhase where
  | requested
  | localStopped
  | installerOpened
  | cancelRequested
  deriving DecidableEq

def UpdateJournalPhase.stopped : UpdateJournalPhase → Bool
  | .localStopped | .installerOpened => true
  | .requested | .cancelRequested => false

structure UpdateJournal where
  schemaVersion : ℕ := 1
  operationId : String
  sourceContainer : String
  sourceRuntime : RuntimeIdentity
  targetContainer : String
  previousSlot : RuntimeSlot
  phase : UpdateJournalPhase

def validVersion (version : String) : Bool :=
  !version.isEmpty && decide (version.utf8ByteSize ≤ 64) &&
    version.toList.all fun c => c.isAlphanum || c == '.' || c == '-' || c == '_'

def UpdateJournal.valid (u : UpdateJournal) : Bool :=
  validVersion u.sourceContainer && validVersion u.targetContainer && u.schemaVersion == 1 &&
    u.sourceContainer != u.targetContainer &&
    u.sourceRuntime.containerVersion == u.sourceContainer &&
    decide (u.sourceRuntime.slot = u.previousSlot) && validIdentity u.sourceRuntime &&
    canonicalUuid u.operationId

/-- The target of an interrupted install, which the manifest may not have any more. -/
def interruptedInstalledTarget (installed : String) (u : UpdateJournal) (j : SwitchJournal) :
    Bool :=
  installed != u.sourceContainer && u.phase.stopped && j.negotiating &&
    (j.targetIdentity.containerVersion == u.targetContainer || j.hasAdvancedReconcileSource)

def linked (manifest : VerifiedContainerManifest) (u : UpdateJournal) (j : SwitchJournal) : Bool :=
  let interrupted := interruptedInstalledTarget manifest.containerVersion u j
  j.operationId == u.operationId && decide (j.sourceIdentity = some u.sourceRuntime) &&
    (decide (j.targetIdentity = RuntimeTarget.fromIdentity u.sourceRuntime) ||
      manifest.verifies j.targetIdentity || interrupted) &&
    j.supersedeTarget.all (fun target => manifest.verifies target || interrupted) &&
    (!u.phase.stopped || j.stoppedOrLater)

structure TransitionSource where
  authEpoch : ℕ
  family : String
  identity : Option RuntimeIdentity
  deviceId : String
  expectedSessionGeneration : Option ℕ
  scopeFingerprint : String

def TransitionSource.matchesRuntimeScope (source : TransitionSource) :
    Option RuntimeAuthScope → Bool
  | none => source.identity.isNone
  | some scope =>
    decide (source.identity = some scope.identity) && scope.authEpoch == source.authEpoch &&
      scope.family == source.family

/-- `FrozenReconcileRequest`; its fingerprint is the digest of the request. -/
structure FrozenReconcileRequest where
  request : ReconcileRequest
  sourceDeviceId : String
  sourceScopeFingerprint : String

def FrozenReconcileRequest.fromPersisted (json : Json) (request : ReconcileRequest)
    (sourceDeviceId sourceScopeFingerprint : String) (expected : Option String) :
    Except BrokerError FrozenReconcileRequest :=
  if expected.any (· != (json.requestDigest request).value) || sourceDeviceId.isEmpty ||
      !validFingerprint sourceScopeFingerprint then .error .recoveryRequired
  else .ok ⟨request, sourceDeviceId, sourceScopeFingerprint⟩

def FrozenReconcileRequest.new (json : Json) (request : ReconcileRequest)
    (source : TransitionSource) : Except BrokerError FrozenReconcileRequest :=
  FrozenReconcileRequest.fromPersisted json request source.deviceId source.scopeFingerprint none

inductive RuntimeSwitchState where
  | clean
  | retry
  deriving DecidableEq

structure ReconcileReceipt where
  state : RuntimeSwitchState
  retryAfterSeconds : Option ℕ

structure SupersedeResponse where
  state : RuntimeSwitchState
  reconcileOperationId : String
  retryAfterSeconds : Option ℕ

structure ResumeArguments where
  operationId : String
  reconcileOperationId : String
  decision : SwitchDecision
  target : RuntimeTarget
  expectedSessionGeneration : Option ℕ

structure ResumeReceipt where
  identity : RuntimeIdentity
  currentAccess : Option String

inductive Question where
  | transitionSource
  | handoffCleanup (source : TransitionSource)
  | gracefulStop (operationId : String) (snapshot : RuntimeCleanupSnapshot)
  | forceStop (operationId : String) (snapshot : RuntimeCleanupSnapshot)
  | completeCleanupAndAdmit (snapshot : RuntimeCleanupSnapshot) (receipt : LocalStopReceipt)
      (access : String)
  | retireCompletedTransitions (operationId : String) (active : Option String)
  | restoreTransitionRequest (request : ReconcileRequest) (fingerprint : String)
  | reconcileTransition (frozen : FrozenReconcileRequest)
  | supersedeTransition (operationId : String) (predecessor : FrozenReconcileRequest)
      (target : RuntimeTarget)
  | finishSupersede (operationId reconcileOperationId : String)
  | transitionResumeIsUndispatched (reconcileOperationId : String)
  | resumeTransition (arguments : ResumeArguments) (installed : Option RuntimeTarget)
  | prepareCompletedApplyReconcile (predecessor : FrozenReconcileRequest)
      (resumeOperationId : String) (target : RuntimeTarget)
      (legacySupersede : Option (String × RuntimeTarget))

abbrev Reply : Question → Type
  | .transitionSource => TransitionSource
  | .handoffCleanup _ => RuntimeCleanupSnapshot
  | .restoreTransitionRequest _ _ | .prepareCompletedApplyReconcile _ _ _ _ => FrozenReconcileRequest
  | .reconcileTransition _ => ReconcileReceipt
  | .supersedeTransition _ _ _ => SupersedeResponse
  | .transitionResumeIsUndispatched _ => Bool
  | .resumeTransition _ _ => ResumeReceipt
  | .gracefulStop _ _ | .forceStop _ _ | .completeCleanupAndAdmit _ _ _
  | .retireCompletedTransitions _ _ | .finishSupersede _ _ => Unit

structure Coordinator where
  manifest : VerifiedContainerManifest
  /-- Target of the slot that was selected when it was opened. -/
  installedTarget : Option RuntimeTarget
  /-- Slot that the host wants before the first start. -/
  requiredInitialTarget : Option RuntimeSlot

structure SwitchWorld where
  coordinator : Coordinator
  initialTransitionSatisfied : Bool
  selection : Option SlotSelection
  switch : Option SwitchJournal
  update : Option UpdateJournal
  /-- Whether `update` ever refused the journal that it had made. -/
  rejected : Bool

inductive FileOutcome where
  | done
  | failed
  | late
  | oversized

def FileOutcome.read {α : Type} (contents : Except SwitchJournalError α) :
    FileOutcome → Except SwitchJournalError α
  | .failed => .error .io
  | .done | .late | .oversized => contents

def FileOutcome.write {α : Type} (s effect : SwitchWorld) (report : α) :
    FileOutcome → Except SwitchJournalError α × SwitchWorld
  | .done => (.ok report, effect)
  | .failed => (.error .io, s)
  | .late => (.error .io, effect)
  | .oversized => (.error .invalid, s)

structure SwitchInput where
  file : FileOutcome
  time : ℕ
  uuid : FreshUuid
  reply : (q : Question) → Except BrokerError (Reply q)

inductive SwitchCmd where
  | snapshot
  | update (change : JournalChange)
  | beginRequested (journal : SwitchJournal)
  | loadUpdate
  | replaceUpdate (journal : UpdateJournal)
  | removeUpdate
  | currentSelection
  | finishSelection (slot : RuntimeSlot)
  | coordinator
  | unixTimeMs
  | newUuid
  | initialTransitionSatisfied
  | satisfyInitialTransition
  | ask (q : Question)
  | install (manifest : VerifiedContainerManifest) (selection : Option SlotSelection)
      (requiredInitialTarget : Option RuntimeSlot)

abbrev SwitchResp : SwitchCmd → Type
  | .snapshot => Except SwitchJournalError (Option SwitchJournal)
  | .update _ => Except SwitchJournalError SwitchJournal
  | .beginRequested _ | .replaceUpdate _ | .removeUpdate | .finishSelection _ =>
    Except SwitchJournalError Unit
  | .loadUpdate => Except SwitchJournalError (Option UpdateJournal)
  | .currentSelection => Except SwitchJournalError SlotSelection
  | .coordinator => Coordinator
  | .unixTimeMs => ℕ
  | .newUuid => FreshUuid
  | .initialTransitionSatisfied => Bool
  | .ask q => Except BrokerError (Reply q)
  | .satisfyInitialTransition | .install _ _ _ => Unit

namespace SwitchWorld

variable (json : Json)
variable (s : SwitchWorld)

def loadJournal : Except SwitchJournalError (Option SwitchJournal) :=
  match s.switch with
  | none => .ok none
  | some j => if j.valid json then .ok (some j) else .error .invalid

def loadUpdate : Except SwitchJournalError (Option UpdateJournal) :=
  match s.update with
  | none => .ok none
  | some u => if u.valid then .ok (some u) else .error .invalid

def desiredSlotFromJournal : Except SwitchJournalError (Option RuntimeSlot) :=
  match s.loadJournal json with
  | .error _ => .error .io
  | .ok none => .ok none
  | .ok (some j) =>
    if j.phase = .complete ∨
        j.targetIdentity.containerVersion ≠ s.coordinator.manifest.containerVersion then .ok none
    else
      let target :=
        if j.cancelRequested then j.sourceIdentity.map RuntimeTarget.fromIdentity
        else some j.targetIdentity
      .ok ((target.filter s.coordinator.manifest.verifies).map (·.runtimeSlot))

def currentSelection : Except SwitchJournalError SlotSelection :=
  match s.selection with
  | none => .error .io
  | some stored =>
    if stored.containerVersion ≠ s.coordinator.manifest.containerVersion ∨
        s.coordinator.manifest.selected stored.selectedSlot = none ∨
        stored.pendingSlot.any (fun slot => (s.coordinator.manifest.selected slot).isNone) then
      .error .io
    else
      match s.desiredSlotFromJournal json with
      | .error e => .error e
      | .ok none => .ok stored
      | .ok (some desired) =>
        .ok { stored with
          pendingSlot := if stored.selectedSlot ≠ desired then some desired else none }

def finishedSelection (slot : RuntimeSlot) :
    Except SwitchJournalError SlotSelection :=
  match s.selection with
  | none => .error .io
  | some stored =>
    if stored.containerVersion ≠ s.coordinator.manifest.containerVersion ∨
        s.coordinator.manifest.selected stored.selectedSlot = none then .error .io
    else
      let state : SlotSelection := { stored with selectedSlot := slot, pendingSlot := none }
      if !validBasicSelection state || (s.coordinator.manifest.selected slot).isNone then .error .io
      else .ok state

def updateSwitch (change : JournalChange) (file : FileOutcome) :
    Except SwitchJournalError SwitchJournal × SwitchWorld :=
  match s.loadJournal json with
  | .error e => (.error e, s)
  | .ok none => (.error .invalid, s)
  | .ok (some j) =>
    if (change.apply j).valid json then
      file.write s { s with switch := some (change.apply j) } (change.apply j)
    else (.error .invalid, { s with rejected := true })

def frozenRequested (journal : SwitchJournal) : Bool :=
  decide (journal.phase = .requested) && journal.resumeOperationId.isNone &&
    journal.decision.isNone && journal.retry.isNone && journal.activeReconcileOperationId.isNone &&
    journal.activeSessionGeneration.isNone && journal.supersedeOperationId.isNone &&
    journal.supersedeTarget.isNone

def beginRequested (journal : SwitchJournal) (file : FileOutcome) :
    Except SwitchJournalError Unit × SwitchWorld :=
  if !journal.valid json || !s.coordinator.manifest.verifies journal.targetIdentity ||
      !frozenRequested journal then (.error .invalid, s)
  else
    match s.loadJournal json with
    | .error e => (.error e, s)
    | .ok none => file.write s { s with switch := some journal } ()
    | .ok (some current) =>
      if current.phase ≠ .complete ∨ current.resumeOperationId = none then (.error .pending, s)
      else file.write s { s with switch := some journal } ()

/-- `SwitchCoordinator::open` keeps the target of the slot that is selected. -/
def openTarget : Option RuntimeTarget :=
  match s.currentSelection json with
  | .error _ => none
  | .ok selection => s.coordinator.manifest.target selection.selectedSlot

def installed (manifest : VerifiedContainerManifest)
    (selection : Option SlotSelection) (requiredInitialTarget : Option RuntimeSlot) : SwitchWorld :=
  let s' :=
    { s with
      coordinator := ⟨manifest, none, requiredInitialTarget⟩, initialTransitionSatisfied := false
      selection := selection }
  { s' with coordinator := ⟨manifest, s'.openTarget json, requiredInitialTarget⟩ }

def exec (i : SwitchInput) (s : SwitchWorld) : (c : SwitchCmd) → SwitchResp c × SwitchWorld
  | .snapshot => (i.file.read (s.loadJournal json), s)
  | .update change => s.updateSwitch json change i.file
  | .beginRequested journal => s.beginRequested json journal i.file
  | .loadUpdate => (i.file.read s.loadUpdate, s)
  | .replaceUpdate journal =>
    if journal.valid then i.file.write s { s with update := some journal } () else (.error .invalid, s)
  | .removeUpdate => i.file.write s { s with update := none } ()
  | .currentSelection => (i.file.read (s.currentSelection json), s)
  | .finishSelection slot =>
    match s.finishedSelection slot with
    | .error e => (.error e, s)
    | .ok state => i.file.write s { s with selection := some state } ()
  | .coordinator => (s.coordinator, s)
  | .unixTimeMs => (i.time, s)
  | .newUuid => (i.uuid, s)
  | .initialTransitionSatisfied => (s.initialTransitionSatisfied, s)
  | .satisfyInitialTransition => ((), { s with initialTransitionSatisfied := true })
  | .ask q => (i.reply q, s)
  | .install manifest selection required => ((), s.installed json manifest selection required)

end SwitchWorld

abbrev switchMachine (json : Json) : Machine where
  State := SwitchWorld
  Cmd := SwitchCmd
  Resp := SwitchResp
  Input := SwitchInput
  sem c _ i s := some (SwitchWorld.exec json i s c)

lemma wp_exec {json : Json} {inv : SwitchWorld → Prop}
    {cond : ℕ → SwitchCmd → SwitchInput → SwitchWorld → Prop} {t : ℕ} {c : SwitchCmd}
    {Q : SwitchResp c → SwitchWorld → Prop} {s : SwitchWorld}
    (h : ∀ i, inv s → cond t c i s →
      inv (s.exec json i c).2 ∧ Q (s.exec json i c).1 (s.exec json i c).2) :
    wp (Contract.sequential (M := switchMachine json) inv cond) t
      (Prog.call (M := switchMachine json) c) Q s := by
  refine wp_call_sequential fun i r s' hi hc hs => ?_
  have hr : s.exec json i c = (r, s') := Option.some.inj hs
  have hn := h i hi hc
  rw [hr] at hn
  exact hn

lemma write_cases {α : Type} {s effect : SwitchWorld} {report : α} (file : FileOutcome)
    {I : SwitchWorld → Prop} (hs : I s) (he : I effect) :
    I (file.write s effect report).2 ∧
      ∀ a, (file.write s effect report).1 = .ok a → a = report ∧
        (file.write s effect report).2 = effect := by
  cases file with
  | done => exact ⟨he, fun a ha => ⟨(Except.ok.inj ha).symm, rfl⟩⟩
  | late => exact ⟨he, fun a ha => by cases ha⟩
  | failed | oversized => exact ⟨hs, fun a ha => by cases ha⟩

lemma read_ok {file : FileOutcome} (h : file.read contents = .ok a) : contents = .ok a := by
  cases file with
  | failed => cases h
  | done | late | oversized => exact h

lemma loadJournal_of_valid {json : Json} {s : SwitchWorld}
    (h : ∀ j, s.switch = some j → j.valid json = true) : s.loadJournal json = .ok s.switch := by
  unfold SwitchWorld.loadJournal
  split
  · rename_i hn
    rw [hn]
  · rename_i j hs
    rw [if_pos (h j hs), hs]

section Programs

variable (json : Json)

inductive SwitchProgress where
  | ready
  | pending (retryAfterSeconds : ℕ)

abbrev SwitchProg (α : Type) : Type 1 := Fallible (switchMachine json) SwitchError α

def command (c : SwitchCmd) : SwitchProg json (SwitchResp c) :=
  surely (Prog.call (M := switchMachine json) c)

def snapshot : SwitchProg json (Option SwitchJournal) :=
  relabel .journal (attempt (Prog.call (M := switchMachine json) .snapshot))

def update (change : JournalChange) : SwitchProg json SwitchJournal :=
  relabel .journal (attempt (Prog.call (M := switchMachine json) (.update change)))

def beginRequested (journal : SwitchJournal) : SwitchProg json Unit :=
  relabel .journal (attempt (Prog.call (M := switchMachine json) (.beginRequested journal)))

def currentSelection : SwitchProg json SlotSelection :=
  relabel .journal (attempt (Prog.call (M := switchMachine json) .currentSelection))

def finishSelection (slot : RuntimeSlot) : SwitchProg json Unit :=
  relabel .journal (attempt (Prog.call (M := switchMachine json) (.finishSelection slot)))

def inquire (q : Question) : SwitchProg json (Reply q) :=
  relabel .broker (attempt (Prog.call (M := switchMachine json) (.ask q)))

def demand {α : Type} (value : Option α) : SwitchProg json α :=
  decided (value.elim (.error .recoveryRequired) .ok)

abbrev BarrierProg (α : Type) : Type 1 := Fallible (switchMachine json) UpdateBarrierError α

def loadUpdate : BarrierProg json (Option UpdateJournal) :=
  relabel .ofFile (attempt (Prog.call (M := switchMachine json) .loadUpdate))

variable (j : SwitchJournal) (manifest : VerifiedContainerManifest)

def validateSwitchLink (u : UpdateJournal) :
    BarrierProg json Unit := do
  match ← relabel .switch (snapshot json) with
  | none => pure ()
  | some j => require (linked manifest u j) .invalid

def updateBarrierPending : SwitchProg json Bool :=
  relabel (.journal ∘ updateToSwitchJournalError) (Option.isSome <$> loadUpdate json)

inductive UpdateStartRecovery where
  | none
  | blocked
  | cancel (operationId : String) (previousSlot : RuntimeSlot)
  | installed (operationId : String)

def startRecovery (u : UpdateJournal) : UpdateStartRecovery :=
  if manifest.containerVersion ≠ u.sourceContainer then .installed u.operationId
  else if u.phase = .cancelRequested then .cancel u.operationId u.previousSlot
  else .blocked

def updateStartRecovery :
    SwitchProg json UpdateStartRecovery :=
  relabel (.journal ∘ updateToSwitchJournalError) do
    match ← loadUpdate json with
    | none => pure .none
    | some u => do
      validateSwitchLink json manifest u
      pure (startRecovery manifest u)

def validateInterruptedUpdateProvenance : SwitchProg json Unit := do
  let source ← demand json j.sourceIdentity
  let original : ReconcileRequest :=
    { j.reconcileRequest with
      operationId := j.operationId, targetIdentity := RuntimeTarget.fromIdentity source }
  let root ← inquire json (.restoreTransitionRequest original (json.requestDigest original).value)
  require (decide (root.request.sourceIdentity = some source) &&
    root.sourceDeviceId == j.sourceDeviceId.getD "" &&
    root.sourceScopeFingerprint == j.sourceScopeFingerprint) .recoveryRequired
  let active ← inquire json (.restoreTransitionRequest j.reconcileRequest j.requestFingerprint)
  require (decide (active.request.expectedSessionGeneration =
    (j.activeSessionGeneration <|> j.expectedSessionGeneration))) .recoveryRequired

variable (c : Coordinator) (j : SwitchJournal)

def checkAuthority : SwitchProg json Unit := do
  let obsolete := decide (j.phase = .authResuming) && !c.manifest.verifies j.targetIdentity
  whenever (obsolete || j.activeReconcileOperationId.isSome) do
    match ← updateStartRecovery json c.manifest with
    | .installed _ => validateInterruptedUpdateProvenance json j
    | _ => pure ()
  whenever (!obsolete) (inquire json
    (.retireCompletedTransitions j.operationId j.activeReconcileOperationId))

def stopRuntime (snapshot : RuntimeCleanupSnapshot) : SwitchProg json Bool :=
  if j.forceStopRequested then do
    inquire json (.forceStop j.operationId snapshot)
    pure true
  else do
    match ← command json (.ask (.gracefulStop j.operationId snapshot)) with
    | .ok () => pure false
    | .error _ => do
      let _ ← update json .forceStop
      inquire json (.forceStop j.operationId snapshot)
      pure true

def receiptOf (snapshot : RuntimeCleanupSnapshot) (forced : Bool) :
    LocalStopReceipt :=
  ⟨j.operationId, j.sourceScopeFingerprint, snapshot.slot, snapshot.runtimeVersion, forced⟩

def stopHandoff (handoff : RuntimeCleanupSnapshot) : SwitchProg json Unit := do
  match ← snapshot json with
  | none => throw (.journal .invalid)
  | some j => do
    require (decide (j.runtimeSnapshot = some handoff)) .recoveryRequired
    whenever (decide (j.phase = .requested)) ((fun _ => ()) <$> update json .cleanupHandedOff)
    let _ ← update json .runtimeStopping
    let forced ← stopRuntime json j handoff
    let _ ← update json (.localStopped (receiptOf j handoff forced))
    pure ()

def recoverStop (recorded : RuntimeCleanupSnapshot) : SwitchProg json Unit := do
  let source ← inquire json .transitionSource
  let handoff ← inquire json (.handoffCleanup source)
  require (source.matchesRuntimeScope recorded.authScope && decide (handoff = recorded))
    .recoveryRequired
  stopHandoff json handoff

def retryDelay (attempt : ℕ) : ℕ := min (2 ^ min (attempt - 1) 5) 30

def nextAttempt : ℕ := j.retry.elim 1 fun retry => min (retry.attempt + 1) 32

def recordRetry (attempt delay : ℕ) : SwitchProg json Unit := do
  let now ← command json .unixTimeMs
  let _ ← update json (.retry ⟨attempt, delay, min (now + delay * 1000) (2 ^ 64 - 1)⟩)
  pure ()

def waiting : SwitchProg json (Option SwitchProgress) :=
  match j.retry with
  | none => pure none
  | some retry => do
    let now ← command json .unixTimeMs
    pure (if now < retry.retryNotBeforeUnixMs then some (.pending retry.retryAfterSeconds) else none)

def frozenRequest : SwitchProg json FrozenReconcileRequest :=
  if j.activeReconcileOperationId.isSome then
    inquire json (.restoreTransitionRequest j.reconcileRequest j.requestFingerprint)
  else do
    let device ← demand json j.sourceDeviceId
    relabel .broker (decided (FrozenReconcileRequest.fromPersisted json j.reconcileRequest device
      j.sourceScopeFingerprint (some j.requestFingerprint)))

def desiredTarget : SwitchProg json RuntimeTarget := do
  let selection ← currentSelection json
  demand json (c.manifest.target (selection.pendingSlot.getD selection.selectedSlot))

/-- How a round of the recovery ends: the journal moved on, or the call returns. -/
abbrev Round : Type := Unit ⊕ SwitchProgress

def beginResume (decision : SwitchDecision) : SwitchProg json Round := do
  let id ← command json .newUuid
  let _ ← update json (.resume id.value decision)
  pure (.inl ())

def supersedeOperation (desired : RuntimeTarget) : SwitchProg json String :=
  match j.supersedeOperationId with
  | some operationId =>
    if j.supersedeTarget = some desired then pure operationId else throw .recoveryRequired
  | none => do
    let id ← command json .newUuid
    let _ ← update json (.supersede id.value desired)
    pure id.value

def follow (supersedeId successorId : String) (desired : RuntimeTarget) :
    SwitchProg json Round := do
  let source ← inquire json .transitionSource
  let request : ReconcileRequest :=
    { j.reconcileRequest with
      operationId := successorId, sourceIdentity := source.identity
      expectedSessionGeneration := source.expectedSessionGeneration, targetIdentity := desired }
  let frozen ← relabel .broker (decided (FrozenReconcileRequest.new json request source))
  let resumeId ← command json .newUuid
  let successor : Successor :=
    ⟨successorId, source.expectedSessionGeneration, desired, json.requestDigest frozen.request⟩
  let _ ← update json (.succeed successor resumeId.value)
  inquire json (.finishSupersede supersedeId successorId)
  let _ ← update json .clearSupersede
  pure (.inl ())

def postpone (attempt delay : ℕ) (asked : Option ℕ) : SwitchProg json Round := do
  let delay := max 1 (min (asked.getD delay) 30)
  recordRetry json attempt delay
  pure (.inr (.pending delay))

def unanswered (delay : ℕ) (error : BrokerError) : SwitchProg json Round :=
  if error.lostAnswer then pure (.inr (.pending delay)) else throw (.broker error)

def supersede (attempt delay : ℕ) (frozen : FrozenReconcileRequest)
    (desired : RuntimeTarget) : SwitchProg json Round := do
  let supersedeId ← supersedeOperation json j desired
  match ← command json (.ask (.supersedeTransition supersedeId frozen desired)) with
  | .error error => unanswered json delay error
  | .ok response =>
    if response.state = .retry then postpone json attempt delay response.retryAfterSeconds
    else follow json j supersedeId response.reconcileOperationId desired

def reconciled (attempt delay : ℕ)
    (frozen : FrozenReconcileRequest) : SwitchProg json Round :=
  if j.cancelRequested && j.activeReconcileOperationId.isNone then beginResume json .cancel
  else do
    let desired ← desiredTarget json c
    if desired = j.targetIdentity then beginResume json .apply
    else supersede json j attempt delay frozen desired

def recoverReconcile : SwitchProg json Round := do
  match ← waiting json j with
  | some progress => pure (.inr progress)
  | none => do
    let attempt := nextAttempt j
    let delay := retryDelay attempt
    recordRetry json attempt delay
    let frozen ← frozenRequest json j
    match ← command json (.ask (.reconcileTransition frozen)) with
    | .error error => unanswered json delay error
    | .ok receipt =>
      if receipt.state = .retry then postpone json attempt delay receipt.retryAfterSeconds
      else reconciled json c j attempt delay frozen

def withdrawable : SwitchProg json Bool :=
  if j.cancelRequested && decide (j.decision = some .apply) && j.activeReconcileOperationId.isNone then
    inquire json (.transitionResumeIsUndispatched (j.activeReconcileOperationId.getD j.operationId))
  else pure false

/-- A supersede whose successor is recorded and that is still to be finished. -/
def unfinishedSupersede : Option (String × String) :=
  match j.supersedeOperationId, j.supersedeTarget, j.activeReconcileOperationId with
  | some operationId, some target, some successorId =>
    if j.targetIdentity = target then some (operationId, successorId) else none
  | _, _, _ => none

def resumeTarget : SwitchDecision → Option RuntimeTarget
  | .apply => some j.targetIdentity
  | .cancel => j.sourceIdentity.map RuntimeTarget.fromIdentity

/-- An applied resume is not what is wanted any more: a fresh request follows. -/
def advance (resumeId : String) (desired : RuntimeTarget) :
    SwitchProg json Round := do
  let predecessor ← inquire json (.restoreTransitionRequest j.reconcileRequest j.requestFingerprint)
  let successor ← inquire json (.prepareCompletedApplyReconcile predecessor resumeId desired
    (j.supersedeOperationId.bind fun id => j.supersedeTarget.map fun target => (id, target)))
  let _ ← update json (.advance ⟨successor.request.operationId,
    successor.request.expectedSessionGeneration, successor.request.targetIdentity,
    json.requestDigest successor.request⟩)
  pure (.inl ())

def admitResumed (recorded : RuntimeCleanupSnapshot) (target : RuntimeTarget)
    (resumed : ResumeReceipt) : SwitchProg json Round := do
  let access ← demand json resumed.currentAccess
  let stopped ← demand json j.localStopReceipt
  inquire json (.completeCleanupAndAdmit recorded stopped access)
  finishSelection json target.runtimeSlot
  let _ ← update json .complete
  pure (.inl ())

def dispatchResume (recorded : RuntimeCleanupSnapshot) :
    SwitchProg json Round := do
  let decision ← demand json j.decision
  let target ← demand json (resumeTarget j decision)
  let resumeId ← demand json j.resumeOperationId
  let resumed ← inquire json (.resumeTransition
    ⟨resumeId, j.activeReconcileOperationId.getD j.operationId, decision, target,
      j.activeSessionGeneration <|> j.expectedSessionGeneration⟩ c.installedTarget)
  match decision with
  | .cancel => admitResumed json j recorded target resumed
  | .apply => do
    let desired ← desiredTarget json c
    if RuntimeTarget.fromIdentity resumed.identity = desired then admitResumed json j recorded target resumed
    else advance json j resumeId desired

def recoverResume (recorded : RuntimeCleanupSnapshot) :
    SwitchProg json Round := do
  if ← withdrawable json j then do
    let id ← command json .newUuid
    let _ ← update json (.withdraw id.value)
    pure (.inl ())
  else
    match ← waiting json j with
    | some progress => pure (.inr progress)
    | none =>
      match unfinishedSupersede j with
      | some (operationId, successorId) => do
        inquire json (.finishSupersede operationId successorId)
        let _ ← update json .clearSupersede
        pure (.inl ())
      | none => dispatchResume json c j recorded

def recoverPhase (recorded : RuntimeCleanupSnapshot) :
    SwitchProg json Round :=
  match j.phase with
  | .requested | .cleanupHandedOff | .runtimeStopping => .inl <$> recoverStop json recorded
  | .localStopped => (fun _ => .inl ()) <$> update json .serverReconciling
  | .serverReconciling => recoverReconcile json c j
  | .authResuming => recoverResume json c j recorded
  | .complete => pure (.inr .ready)

def recoverRound : SwitchProg json Round := do
  match ← snapshot json with
  | none => pure (.inr .ready)
  | some j => do
    checkAuthority json c j
    let recorded ← demand json j.runtimeSnapshot
    recoverPhase json c j recorded

def recoverLocked : SwitchProg json SwitchProgress :=
  Fallible.loop (fun _ => recoverRound json c) ()

def recover : SwitchProg json SwitchProgress := do
  let c ← command json .coordinator
  recoverLocked json c

def requestedJournal (operationId fingerprint : String) (source : TransitionSource)
    (target : RuntimeTarget) (envelope : CleanupEnvelope) (recorded : RuntimeCleanupSnapshot) :
    SwitchJournal where
  operationId := operationId
  requestFingerprint := fingerprint
  sourceIdentity := source.identity
  sourceDeviceId := some source.deviceId
  sourceScopeFingerprint := source.scopeFingerprint
  targetIdentity := target
  expectedSessionGeneration := source.expectedSessionGeneration
  cleanupEnvelope := envelope
  runtimeSnapshot := some recorded

def requestOf (operationId : String) (source : TransitionSource) (target : RuntimeTarget)
    (envelope : CleanupEnvelope) : ReconcileRequest where
  operationId := operationId
  sourceIdentity := source.identity
  targetIdentity := target
  expectedSessionGeneration := source.expectedSessionGeneration
  cleanupContractVersion := envelope.cleanupContractVersion
  leaseIds := envelope.leaseIds
  redundantSessionIds := envelope.redundantSessionIds
  clientOperationIds := envelope.operations.map (·.operationId)

def ownsHandoff (source : TransitionSource) (handoff : RuntimeCleanupSnapshot) : Bool :=
  source.matchesRuntimeScope handoff.authScope &&
    source.identity.all fun identity =>
      decide (identity.slot = handoff.slot) && identity.runtimeVersion == handoff.runtimeVersion

def freezeRequest (source : TransitionSource) (handoff : RuntimeCleanupSnapshot)
    (target : Option RuntimeTarget) : SwitchProg json SwitchJournal := do
  require (ownsHandoff source handoff) .recoveryRequired
  let envelope ← demand json (CleanupEnvelope.fromRuntimeSnapshot json handoff)
  let target ← demand json target
  let id ← command json .newUuid
  let frozen ← relabel .broker (decided
    (FrozenReconcileRequest.new json (requestOf id.value source target envelope) source))
  pure (requestedJournal id.value (json.requestDigest frozen.request).value source target envelope handoff)

def requireIdle : SwitchProg json Unit := do
  let current ← snapshot json
  require (current.all fun j => decide (j.phase = .complete)) (.journal .pending)

def requestLocked (slot : RuntimeSlot) (recoveringInstalledUpdate : Bool) :
    SwitchProg json SwitchProgress := do
  whenever (!recoveringInstalledUpdate) do
    let pending ← updateBarrierPending json
    require (!pending) .recoveryRequired
  requireIdle json
  let source ← inquire json .transitionSource
  let handoff ← inquire json (.handoffCleanup source)
  let journal ← freezeRequest json source handoff (c.manifest.target slot)
  beginRequested json journal
  stopHandoff json handoff
  recoverLocked json c

def request (slot : RuntimeSlot) : SwitchProg json SwitchProgress := do
  let c ← command json .coordinator
  requestLocked json c slot false

def cancelAndRecover : SwitchProg json SwitchProgress := do
  let _ ← update json .cancelRequested
  recoverLocked json c

def cancelPending : SwitchProg json SwitchProgress := do
  let pending ← updateBarrierPending json
  require (!pending) .recoveryRequired
  let c ← command json .coordinator
  cancelAndRecover json c

def cancelPendingFor (active : RuntimeTarget) : SwitchProg json SwitchProgress := do
  let pending ← updateBarrierPending json
  let c ← command json .coordinator
  require (!pending && c.manifest.verifies active) .recoveryRequired
  match ← snapshot json with
  | none => throw .recoveryRequired
  | some j => do
    require (decide (j.sourceIdentity.map RuntimeTarget.fromIdentity = some active)) .recoveryRequired
    if j.phase = .complete then do
      require (decide (j.decision = some .apply) &&
        decide (j.targetIdentity.runtimeSlot ≠ active.runtimeSlot)) .recoveryRequired
      requestLocked json c active.runtimeSlot false
    else cancelAndRecover json c

def cancelUpdateStop (operationId : String) : SwitchProg json SwitchProgress := do
  match ← snapshot json with
  | none => pure .ready
  | some j =>
    if j.operationId ≠ operationId then
      if j.phase = .complete then pure .ready else throw .recoveryRequired
    else if j.phase = .complete then
      if j.decision = some .cancel then pure .ready else throw .recoveryRequired
    else cancelAndRecover json c

def continueUpdateStop (expected : String) : SwitchProg json SwitchJournal := do
  let j ← (snapshot json >>= demand json)
  require (j.operationId == expected) .recoveryRequired
  whenever (!j.stoppedOrLater) do
    let recorded ← demand json j.runtimeSnapshot
    recoverStop json recorded
  require (!j.stoppedOrLater || decide (j.phase = .localStopped)) .recoveryRequired
  let stopped ← (snapshot json >>= demand json)
  require (stopped.operationId == expected && decide (stopped.phase = .localStopped)) .recoveryRequired
  pure stopped

/-- `prepare_update_stop` of a new update; `persist` writes the update journal. -/
def beginUpdateStop (persist : SwitchJournal → RuntimeSlot → SwitchProg json Unit) :
    SwitchProg json SwitchJournal := do
  requireIdle json
  let selection ← currentSelection json
  let source ← inquire json .transitionSource
  let identity ← demand json source.identity
  let selected ← demand json (c.manifest.target selection.selectedSlot)
  require (decide (RuntimeTarget.fromIdentity identity = selected)) .recoveryRequired
  let handoff ← inquire json (.handoffCleanup source)
  let journal ← freezeRequest json source handoff (some (RuntimeTarget.fromIdentity identity))
  persist journal selection.selectedSlot
  beginRequested json journal
  stopHandoff json handoff
  let stopped ← (snapshot json >>= demand json)
  require (decide (stopped.phase = .localStopped)) .recoveryRequired
  pure stopped

end Programs

section Stop

variable {json : Json} {K : Contract (switchMachine json)} {I : SwitchWorld → Prop} {t : ℕ}
  {s : SwitchWorld} {j j' : SwitchJournal}

lemma ensures_demand {α β : Type} {value : Option α} {f : α → SwitchProg json β}
    {Q : β → SwitchWorld → Prop} (h : ∀ a, value = some a → Ensures K t (f a) Q s) :
    Ensures K t (demand json value >>= f) Q s := by
  cases value with
  | none => exact Ensures.throw
  | some a => exact h a rfl

def stopChange : JournalChange → Bool
  | .cleanupHandedOff | .runtimeStopping | .forceStop | .localStopped _ => true
  | _ => false

/-- What a stop needs of a contract: its commands keep `I` and do to the switch
journal what they say. -/
structure StopRules (K : Contract (switchMachine json)) (I : SwitchWorld → Prop) : Prop where
  look : ∀ t s, I s → Ensures K t (snapshot json)
    (fun current s' => current = s.switch ∧ s'.switch = s.switch ∧ I s') s
  ask : ∀ t s q, I s → Ensures K t (command json (.ask q)) (fun _ s' => s'.switch = s.switch ∧ I s') s
  inquire : ∀ t s q, I s → Ensures K t (inquire json q) (fun _ s' => s'.switch = s.switch ∧ I s') s
  update : ∀ t s j change, stopChange change = true → I s → s.switch = some j → change.Fits j →
    Ensures K t (update json change) (fun _ s' => s'.switch = some (change.apply j) ∧ I s') s

section Looks

-- An invariant under which the switch journal is one that can be read.
variable {inv : SwitchWorld → Prop} {cond : ℕ → SwitchCmd → SwitchInput → SwitchWorld → Prop}

lemma looks_wp (h : ∀ i (s : SwitchWorld), (s.exec json i c).2 = s) (t : ℕ) (s : SwitchWorld) :
    wp (Contract.sequential (M := switchMachine json) inv cond) t
      (Prog.call (M := switchMachine json) c) (fun _ s' => s' = s) s :=
  wp_exec fun i hi _ => ⟨(h i s).symm ▸ hi, h i s⟩

lemma looks_inquire (q : Question) :
    Fixes (Contract.sequential inv cond) (fun s => s) (inquire json q) :=
  Fixes.relabel (.attempt (looks_wp fun _ _ => rfl))

lemma looks_ask (q : Question) :
    Fixes (Contract.sequential inv cond) (fun s => s) (command json (.ask q)) :=
  Fixes.surely (looks_wp fun _ _ => rfl)

lemma wp_snapshot (hv : ∀ s, inv s → ∀ j, s.switch = some j → j.valid json = true) :
    wp (Contract.sequential inv cond) t (Prog.call (M := switchMachine json) .snapshot)
      (fun r s' => s' = s ∧ ∀ current, r = .ok current → current = s.switch ∧ inv s) s := by
  refine wp_exec fun i hi _ => ⟨hi, rfl, fun current hr => ⟨?_, hi⟩⟩
  have hl := (loadJournal_of_valid (hv s hi)).symm.trans (read_ok hr)
  exact (Except.ok.inj hl).symm

lemma ensures_snapshot (hv : ∀ s, inv s → ∀ j, s.switch = some j → j.valid json = true) :
    Ensures (Contract.sequential inv cond) t (snapshot json)
      (fun current s' => current = s.switch ∧ s' = s ∧ inv s) s := by
  refine Ensures.relabel (.attempt (wp_mono (fun r s' hr current hre => ?_) (wp_snapshot hv)))
  exact ⟨(hr.2 current hre).1, hr.1, (hr.2 current hre).2⟩

/-- Only the updates of the journal are left to a contract: its other commands change nothing. -/
lemma stopRules_of_update (hv : ∀ s, inv s → ∀ j, s.switch = some j → j.valid json = true)
    (hu : ∀ t s j change, stopChange change = true → I s → s.switch = some j → change.Fits j →
      Ensures (Contract.sequential inv cond) t (update json change)
        (fun _ s' => s'.switch = some (change.apply j) ∧ I s') s) :
    StopRules (Contract.sequential (M := switchMachine json) inv cond) I where
  look t s h := by
    refine (ensures_snapshot hv).mono fun _ s' hs' => ?_
    obtain ⟨hc, rfl, -⟩ := hs'
    exact ⟨hc, rfl, h⟩
  ask t s q h := by
    refine (looks_ask q t s).mono fun _ s' hs' => ?_
    subst hs'
    exact ⟨rfl, h⟩
  inquire t s q h := by
    refine (looks_inquire q t s).mono fun _ s' hs' => ?_
    subst hs'
    exact ⟨rfl, h⟩
  update := hu

end Looks

structure SameStop (j j' : SwitchJournal) : Prop where
  operationId : j'.operationId = j.operationId
  scope : j'.sourceScopeFingerprint = j.sourceScopeFingerprint
  snapshot : j'.runtimeSnapshot = j.runtimeSnapshot

def Stopping (I : SwitchWorld → Prop) (j : SwitchJournal) (s : SwitchWorld) : Prop :=
  I s ∧ ∃ j', s.switch = some j' ∧ SameStop j j' ∧ j'.phase = .runtimeStopping

lemma StopRules.stopRuntime (h : StopRules K I) (hst : Stopping I j s) :
    Ensures K t (stopRuntime json j recorded) (fun _ s' => Stopping I j s') s := by
  obtain ⟨hI, j', hsw, hsa, hp⟩ := hst
  unfold SwitchCoordinator.stopRuntime
  split
  · refine (h.inquire t s _ hI).seq fun _ s1 hs1 => ?_
    exact .pure ⟨hs1.2, j', hs1.1.trans hsw, hsa, hp⟩
  · refine (h.ask t s _ hI).seq fun answer s1 hs1 => ?_
    have hsw1 := hs1.1.trans hsw
    cases answer with
    | ok u => exact .pure ⟨hs1.2, j', hsw1, hsa, hp⟩
    | error e =>
      refine (h.update t s1 j' .forceStop rfl hs1.2 hsw1 trivial).seq fun _ s2 hs2 => ?_
      refine (h.inquire t s2 _ hs2.2).seq fun _ _ hs3 => ?_
      exact .pure ⟨hs3.2, _, hs3.1.trans hs2.1, ⟨hsa.operationId, hsa.scope, hsa.snapshot⟩, hp⟩

lemma StopRules.stopHandoff (h : StopRules K I) (ha : RuntimeCleanupSnapshot) (hI : I s)
    (hru : ∀ j, s.switch = some j → j.stoppedOrLater = false) :
    Ensures K t (stopHandoff json ha)
      (fun _ s' => I s' ∧ ∃ j, s'.switch = some j ∧ j.phase = .localStopped) s := by
  refine (h.look t s hI).seq fun current s0 hs0 => ?_
  obtain ⟨hc, hs0, hI0⟩ := hs0
  cases current with
  | none => exact .throw
  | some j =>
    refine Ensures.require fun hr => ?_
    have hsw : s0.switch = some j := hs0.trans hc.symm
    have hf := hru j hc.symm
    have hh : Ensures K t (whenever (decide (j.phase = .requested))
        ((fun _ => ()) <$> SwitchCoordinator.update json .cleanupHandedOff))
        (fun _ s' => I s' ∧ ∃ k, s'.switch = some k ∧ SameStop j k ∧ k.stoppedOrLater = false) s0 := by
      refine Ensures.whenever (fun _ => Ensures.map ?_) fun _ => ⟨hI0, j, hsw, ⟨rfl, rfl, rfl⟩, hf⟩
      refine (h.update t s0 j .cleanupHandedOff rfl hI0 hsw hf).mono fun _ s1 hs1 => ?_
      exact ⟨hs1.2, _, hs1.1, ⟨rfl, rfl, rfl⟩, rfl⟩
    refine hh.seq fun _ s1 hs1 => ?_
    obtain ⟨hI1, k, hk, hsa, hf1⟩ := hs1
    refine (h.update t s1 k .runtimeStopping rfl hI1 hk hf1).seq fun _ s2 hs2 => ?_
    have hst : Stopping I j s2 := ⟨hs2.2, _, hs2.1, ⟨hsa.operationId, hsa.scope, hsa.snapshot⟩, rfl⟩
    refine (h.stopRuntime hst).seq fun forced s3 hs3 => ?_
    obtain ⟨hI3, k3, hk3, hsa3, hp3⟩ := hs3
    have hsn : k3.runtimeSnapshot = some ha := hsa3.snapshot.trans (of_decide_eq_true hr)
    have hco : (receiptOf j ha forced).Covers k3 :=
      ⟨hsa3.operationId.symm, hsa3.scope.symm, ha, hsn, rfl, rfl⟩
    refine (h.update t s3 k3 (.localStopped (receiptOf j ha forced)) rfl hI3 hk3
      ⟨hp3, hco⟩).seq fun _ _ hs4 => ?_
    exact .pure ⟨hs4.2, _, hs4.1, rfl⟩

lemma StopRules.recoverStop (h : StopRules K I) (recorded : RuntimeCleanupSnapshot) (hI : I s)
    (hr : ∀ j, s.switch = some j → j.stoppedOrLater = false) :
    Ensures K t (recoverStop json recorded)
      (fun _ s' => I s' ∧ ∃ j, s'.switch = some j ∧ j.phase = .localStopped) s := by
  refine (h.inquire t s _ hI).seq fun _ s1 hs1 => ?_
  refine (h.inquire t s1 _ hs1.2).seq fun ha _ hs2 => ?_
  refine Ensures.require fun _ => ?_
  refine h.stopHandoff ha hs2.2 fun j hj => ?_
  exact hr j ((hs1.1.symm.trans hs2.1.symm).trans hj)

end Stop

end NelomaiClient.SwitchCoordinator
