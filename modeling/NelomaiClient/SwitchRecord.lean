import NelomaiClient.RuntimeOwner

/-!
# The journal of a runtime switch

One file says how far a switch of the runtime has come. `validate_journal`
couples its phase with a dozen optional fields, and every write goes through it.
The coordinator changes the journal in fourteen ways; each way is a value here,
and one lemma says when the changed journal is accepted. What JSON makes of a
value, and the digests over it, are parameters.
-/

namespace NelomaiClient.SwitchRecord

open RuntimeRecord SplitRecord RuntimeOwner

def bytesOf (value : String) : List UInt8 := value.toByteArray.data.toList

def lowerHex (b : UInt8) : Bool :=
  (decide (48 ≤ b.toNat) && decide (b.toNat ≤ 57)) || (decide (97 ≤ b.toNat) && decide (b.toNat ≤ 102))

def canonicalUuid (value : String) : Bool :=
  (bytesOf value).length == 36 &&
    (bytesOf value).zipIdx.all fun (b, i) =>
      if i == 8 || i == 13 || i == 18 || i == 23 then b.toNat == 45 else lowerHex b

def validFingerprint (value : String) : Bool :=
  (bytesOf value).length == 64 && (bytesOf value).all lowerHex

structure FreshUuid where
  value : String
  canonical : canonicalUuid value = true

structure Fingerprint where
  value : String
  valid : validFingerprint value = true

def forbiddenContent : List String :=
  ["privatekey", "private_key", "access_token", "refresh_token", "install_secret",
    "authorization:", "bearer ", "[interface]"]

def containsForbiddenContent (value : String) : Bool :=
  forbiddenContent.any fun marker => decide (marker.toList <:+: value.toList.map Char.toLower)

def isControl (c : Char) : Bool :=
  decide (c.toNat < 32) || (decide (127 ≤ c.toNat) && decide (c.toNat < 160))

def validId (value : String) : Bool :=
  !value.isEmpty && decide (value.utf8ByteSize ≤ 256) && !value.toList.any isControl &&
    !containsForbiddenContent value

def validUniqueIds (values : List String) : Bool :=
  decide (values.length ≤ 1024) && values.all validId && decide values.Nodup

section Envelope

inductive CleanupEngineRole where
  | primary
  | redundant
  deriving DecidableEq

inductive CleanupOperationProvenance where
  | verified (requestFingerprint : String) (contractVersion : ℕ)
  | legacyUnknown
  deriving DecidableEq

structure CleanupOperation where
  operationId : String
  provenance : CleanupOperationProvenance
  deriving DecidableEq

structure CleanupEnvelope where
  cleanupContractVersion : ℕ
  leaseIds : List String
  redundantSessionIds : List String
  operations : List CleanupOperation
  engineRole : CleanupEngineRole
  backgroundReference : Option String
  deriving DecidableEq

structure RuntimeTarget where
  containerVersion : String
  runtimeVersion : String
  runtimeContractVersion : ℕ
  runtimeSlot : RuntimeSlot
  deriving DecidableEq

def RuntimeTarget.fromIdentity (identity : RuntimeIdentity) : RuntimeTarget :=
  ⟨identity.containerVersion, identity.runtimeVersion, identity.runtimeContractVersion, identity.slot⟩

def RuntimeTarget.toIdentity (target : RuntimeTarget) (generation : Option ℕ) : RuntimeIdentity :=
  ⟨target.runtimeSlot, target.runtimeVersion, target.runtimeContractVersion,
    target.containerVersion, generation⟩

def RuntimeTarget.valid (target : RuntimeTarget) : Bool := validIdentity (target.toIdentity none)

lemma RuntimeTarget.valid_fromIdentity (h : validIdentity identity = true) :
    (RuntimeTarget.fromIdentity identity).valid = true := by
  have hp : (validRuntimeVersion identity.runtimeVersion && validRuntimeVersion identity.containerVersion &&
      decide (identity.runtimeContractVersion ≠ 0) &&
      decide (identity.runtimeContractVersion ≤ 2 ^ 31 - 1)) = true := (Bool.and_eq_true _ _ ▸ h).1
  simp only [RuntimeTarget.valid, validIdentity, RuntimeTarget.toIdentity, RuntimeTarget.fromIdentity,
    Option.all_none, Bool.and_true]
  exact hp

structure ReconcileRequest where
  operationId : String
  sourceIdentity : Option RuntimeIdentity
  targetIdentity : RuntimeTarget
  expectedSessionGeneration : Option ℕ
  cleanupContractVersion : ℕ
  leaseIds : List String
  redundantSessionIds : List String
  clientOperationIds : List String

structure ScopeMaterial where
  authEpoch : ℕ
  family : String
  identity : Option RuntimeIdentity
  deviceId : Option String

structure Json where
  scopeDigest : ScopeMaterial → Fingerprint
  requestDigest : ReconcileRequest → Fingerprint
  /-- Whether an envelope has at most `MAX_CLEANUP_ENVELOPE_BYTES`. -/
  envelopeFits : CleanupEnvelope → Bool

variable (json : Json)

def CleanupOperation.valid (operation : CleanupOperation) : Bool :=
  validId operation.operationId &&
    match operation.provenance with
    | .verified fingerprint version =>
      validFingerprint fingerprint && decide (0 < version) && decide (version ≤ 2 ^ 31 - 1)
    | .legacyUnknown => true

def CleanupEnvelope.valid (envelope : CleanupEnvelope) : Bool :=
  envelope.cleanupContractVersion == 1 && validUniqueIds envelope.leaseIds &&
    validUniqueIds envelope.redundantSessionIds && decide (envelope.operations.length ≤ 1024) &&
    envelope.operations.all CleanupOperation.valid &&
    decide (envelope.operations.map (·.operationId)).Nodup &&
    envelope.backgroundReference.all validId && json.envelopeFits envelope

/-- What a snapshot says about an operation; one half without the other is refused. -/
def RuntimeCleanupOperation.projected (operation : RuntimeCleanupOperation) :
    Option CleanupOperation :=
  match operation.requestFingerprint, operation.contractVersion with
  | some fingerprint, some version => some ⟨operation.operationId, .verified fingerprint version⟩
  | none, none => some ⟨operation.operationId, .legacyUnknown⟩
  | _, _ => none

/-- `CleanupEnvelopeV1::from_runtime_snapshot` of a primary engine. The operations
of an accepted snapshot are distinct, so that each is pushed once. -/
def CleanupEnvelope.fromRuntimeSnapshot (snapshot : RuntimeCleanupSnapshot) :
    Option CleanupEnvelope :=
  if 1024 < snapshot.operations.length ∨ ¬ (snapshot.operations.map (·.operationId)).Nodup then none
  else
    (snapshot.operations.mapM RuntimeCleanupOperation.projected).bind fun operations =>
      let envelope : CleanupEnvelope := ⟨1, snapshot.leaseIds, [], operations, .primary, none⟩
      if envelope.valid json then some envelope else none

end Envelope

inductive SwitchPhase where
  | requested
  | cleanupHandedOff
  | runtimeStopping
  | localStopped
  | serverReconciling
  | authResuming
  | complete
  deriving DecidableEq

inductive SwitchDecision where
  | apply
  | cancel
  deriving DecidableEq

structure SwitchRetry where
  attempt : ℕ
  retryAfterSeconds : ℕ
  retryNotBeforeUnixMs : ℕ

structure LocalStopReceipt where
  operationId : String
  sourceScopeFingerprint : String
  runtimeSlot : RuntimeSlot
  runtimeVersion : String
  forced : Bool

def switchSchemaVersion : ℕ := 1

structure SwitchJournal where
  schemaVersion : ℕ := switchSchemaVersion
  operationId : String
  requestFingerprint : String
  /-- Operation of the active request, once it was superseded. -/
  activeReconcileOperationId : Option String := none
  /-- Generation of the active request, once it was superseded. -/
  activeSessionGeneration : Option ℕ := none
  sourceIdentity : Option RuntimeIdentity
  sourceDeviceId : Option String
  sourceScopeFingerprint : String
  targetIdentity : RuntimeTarget
  expectedSessionGeneration : Option ℕ
  cleanupEnvelope : CleanupEnvelope
  runtimeSnapshot : Option RuntimeCleanupSnapshot := none
  phase : SwitchPhase := .requested
  resumeOperationId : Option String := none
  decision : Option SwitchDecision := none
  retry : Option SwitchRetry := none
  supersedeOperationId : Option String := none
  supersedeTarget : Option RuntimeTarget := none
  localStopReceipt : Option LocalStopReceipt := none
  forceStopRequested : Bool := false
  cancelRequested : Bool := false

namespace SwitchJournal
variable (json : Json) (j : SwitchJournal)

def reconcileRequest : ReconcileRequest where
  operationId := j.activeReconcileOperationId.getD j.operationId
  sourceIdentity := j.sourceIdentity
  targetIdentity := j.targetIdentity
  expectedSessionGeneration := j.expectedSessionGeneration
  cleanupContractVersion := j.cleanupEnvelope.cleanupContractVersion
  leaseIds := j.cleanupEnvelope.leaseIds
  redundantSessionIds := j.cleanupEnvelope.redundantSessionIds
  clientOperationIds := j.cleanupEnvelope.operations.map (·.operationId)

/-- `has_advanced_reconcile_source`; the generations are compared as options. -/
def hasAdvancedReconcileSource : Bool :=
  j.activeReconcileOperationId.isSome &&
    match j.activeSessionGeneration, j.expectedSessionGeneration with
    | some active, some expected => decide (expected < active)
    | some _, none => true
    | none, _ => false

def stoppedOrLater : Bool :=
  match j.phase with
  | .localStopped | .serverReconciling | .authResuming | .complete => true
  | .requested | .cleanupHandedOff | .runtimeStopping => false

def resuming : Bool :=
  match j.phase with
  | .authResuming | .complete => true
  | .requested | .cleanupHandedOff | .runtimeStopping | .localStopped | .serverReconciling => false

def negotiating : Bool :=
  match j.phase with
  | .serverReconciling | .authResuming => true
  | .requested | .cleanupHandedOff | .runtimeStopping | .localStopped | .complete => false

def validRoot : Bool :=
  j.schemaVersion == switchSchemaVersion && canonicalUuid j.operationId &&
    validFingerprint j.sourceScopeFingerprint && j.cleanupEnvelope.valid json &&
    j.sourceDeviceId.all (fun value => !value.isEmpty && decide (value.utf8ByteSize ≤ 256)) &&
    match j.sourceIdentity with
    | some source =>
      validIdentity source && decide (source.sessionGeneration = j.expectedSessionGeneration) &&
        source.sessionGeneration.isSome
    | none => j.expectedSessionGeneration.isNone

def validActive : Bool :=
  validFingerprint j.requestFingerprint && j.targetIdentity.valid &&
    j.activeReconcileOperationId.all (fun value => canonicalUuid value && value != j.operationId) &&
    j.activeReconcileOperationId.isSome == j.activeSessionGeneration.isSome &&
    j.activeSessionGeneration.all validGeneration

def validResume : Bool :=
  j.resumeOperationId.all canonicalUuid && j.resumeOperationId.isSome == j.decision.isSome &&
    j.resuming == (j.resumeOperationId.isSome && j.decision.isSome)

def validSupersede : Bool :=
  j.supersedeOperationId.isSome == j.supersedeTarget.isSome &&
    j.supersedeOperationId.all canonicalUuid && j.supersedeTarget.all RuntimeTarget.valid &&
    (j.supersedeOperationId.isNone || j.negotiating)

def validRetry : Bool :=
  j.retry.all fun retry =>
    decide (1 ≤ retry.attempt) && decide (retry.attempt ≤ 32) &&
      decide (1 ≤ retry.retryAfterSeconds) && decide (retry.retryAfterSeconds ≤ 30) &&
      decide (retry.retryNotBeforeUnixMs ≠ 0)

def validSnapshot (snapshot : RuntimeCleanupSnapshot) : Bool :=
  !snapshot.runtimeVersion.isEmpty && decide (snapshot.runtimeVersion.utf8ByteSize ≤ 64) &&
    snapshot.operations.all (fun operation =>
      operation.requestFingerprint.isSome == operation.contractVersion.isSome) &&
    decide (CleanupEnvelope.fromRuntimeSnapshot json snapshot = some j.cleanupEnvelope) &&
    match j.sourceIdentity, snapshot.authScope with
    | none, none => snapshot.cleanupOnly
    | some identity, some scope =>
      !snapshot.cleanupOnly && decide (validateScope scope = .ok ()) &&
        decide (scope.identity = identity) && decide (snapshot.slot = identity.slot) &&
        snapshot.runtimeVersion == identity.runtimeVersion &&
        (json.scopeDigest ⟨scope.authEpoch, scope.family, some identity, j.sourceDeviceId⟩).value ==
          j.sourceScopeFingerprint
    | _, _ => false

def validReceipt : Bool :=
  match j.stoppedOrLater, j.localStopReceipt, j.runtimeSnapshot with
  | true, some receipt, some snapshot =>
    receipt.operationId == j.operationId &&
      receipt.sourceScopeFingerprint == j.sourceScopeFingerprint &&
      decide (receipt.runtimeSlot = snapshot.slot) &&
      receipt.runtimeVersion == snapshot.runtimeVersion
  | true, _, _ => false
  | false, receipt, _ => receipt.isNone

def valid : Bool :=
  j.validRoot json && j.validActive && j.validResume && j.validSupersede && j.validRetry &&
    j.runtimeSnapshot.all (j.validSnapshot json) && j.validReceipt

end SwitchJournal

structure Successor where
  operationId : String
  generation : Option ℕ
  target : RuntimeTarget
  fingerprint : Fingerprint

inductive JournalChange where
  | cleanupHandedOff
  | runtimeStopping
  | forceStop
  | localStopped (receipt : LocalStopReceipt)
  | serverReconciling
  | retry (retry : SwitchRetry)
  | supersede (operationId : String) (target : RuntimeTarget)
  | succeed (successor : Successor) (resumeOperationId : String)
  | clearSupersede
  | resume (resumeOperationId : String) (decision : SwitchDecision)
  | withdraw (resumeOperationId : String)
  | advance (successor : Successor)
  | complete
  | cancelRequested

def SwitchJournal.follow (j : SwitchJournal) (successor : Successor) : SwitchJournal :=
  { j with
    activeReconcileOperationId := some successor.operationId
    activeSessionGeneration := successor.generation, targetIdentity := successor.target
    requestFingerprint := successor.fingerprint.value, retry := none }

def JournalChange.apply (j : SwitchJournal) : JournalChange → SwitchJournal
  | .cleanupHandedOff => { j with phase := .cleanupHandedOff }
  | .runtimeStopping => { j with phase := .runtimeStopping }
  | .forceStop => { j with forceStopRequested := true }
  | .localStopped receipt => { j with localStopReceipt := some receipt, phase := .localStopped }
  | .serverReconciling => { j with phase := .serverReconciling }
  | .retry next => { j with retry := some next }
  | .supersede operationId target =>
    { j with supersedeOperationId := some operationId, supersedeTarget := some target }
  | .succeed successor resumeOperationId =>
    { j.follow successor with
      resumeOperationId := some resumeOperationId, decision := some .apply, phase := .authResuming }
  | .clearSupersede => { j with supersedeOperationId := none, supersedeTarget := none }
  | .resume resumeOperationId decision =>
    { j with
      retry := none, resumeOperationId := some resumeOperationId, decision := some decision
      phase := .authResuming }
  | .withdraw resumeOperationId =>
    { j with
      decision := some .cancel, resumeOperationId := some resumeOperationId, retry := none }
  | .advance successor =>
    { j.follow successor with
      resumeOperationId := none, decision := none, supersedeOperationId := none
      supersedeTarget := none, phase := .serverReconciling }
  | .complete => { j with phase := .complete }
  | .cancelRequested => { j with cancelRequested := true }

def Successor.Follows (successor : Successor) (j : SwitchJournal) : Prop :=
  canonicalUuid successor.operationId = true ∧ successor.operationId ≠ j.operationId ∧
    successor.generation.any validGeneration = true ∧ successor.target.valid = true

instance (successor : Successor) (j : SwitchJournal) : Decidable (successor.Follows j) :=
  inferInstanceAs (Decidable (_ ∧ _))

def LocalStopReceipt.Covers (receipt : LocalStopReceipt) (j : SwitchJournal) : Prop :=
  receipt.operationId = j.operationId ∧ receipt.sourceScopeFingerprint = j.sourceScopeFingerprint ∧
    ∃ snapshot, j.runtimeSnapshot = some snapshot ∧ receipt.runtimeSlot = snapshot.slot ∧
      receipt.runtimeVersion = snapshot.runtimeVersion

def SwitchRetry.Bounded (retry : SwitchRetry) : Prop :=
  1 ≤ retry.attempt ∧ retry.attempt ≤ 32 ∧ 1 ≤ retry.retryAfterSeconds ∧
    retry.retryAfterSeconds ≤ 30 ∧ retry.retryNotBeforeUnixMs ≠ 0

def JournalChange.Fits (j : SwitchJournal) : JournalChange → Prop
  | .cleanupHandedOff | .runtimeStopping => j.stoppedOrLater = false
  | .forceStop | .clearSupersede | .cancelRequested => True
  | .localStopped receipt => j.phase = .runtimeStopping ∧ receipt.Covers j
  | .serverReconciling => j.phase = .localStopped
  | .retry next => next.Bounded
  | .supersede operationId target =>
    j.phase = .serverReconciling ∧ canonicalUuid operationId = true ∧ target.valid = true
  | .succeed successor resumeOperationId =>
    j.phase = .serverReconciling ∧ successor.Follows j ∧ canonicalUuid resumeOperationId = true
  | .resume resumeOperationId _ => j.phase = .serverReconciling ∧ canonicalUuid resumeOperationId = true
  | .withdraw resumeOperationId => j.phase = .authResuming ∧ canonicalUuid resumeOperationId = true
  | .advance successor => j.phase = .authResuming ∧ successor.Follows j
  | .complete => j.phase = .authResuming ∧ j.supersedeOperationId = none

namespace JournalChange

variable {json : Json} {j : SwitchJournal}

variable {change : JournalChange}

@[simp]
lemma validRoot_apply : (change.apply j).validRoot json = j.validRoot json := by
  cases change <;> rfl

@[simp]
lemma validSnapshot_apply : (change.apply j).validSnapshot json = j.validSnapshot json := by
  cases change <;> rfl

@[simp]
lemma runtimeSnapshot_apply : (change.apply j).runtimeSnapshot = j.runtimeSnapshot := by
  cases change <;> rfl

end JournalChange

lemma SwitchJournal.valid_iff {j : SwitchJournal} :
    j.valid json = true ↔
      j.validRoot json = true ∧ j.validActive = true ∧ j.validResume = true ∧
        j.validSupersede = true ∧ j.validRetry = true ∧
        j.runtimeSnapshot.all (j.validSnapshot json) = true ∧ j.validReceipt = true := by
  simp only [SwitchJournal.valid, Bool.and_eq_true, and_assoc]

section Groups

variable {j j' : SwitchJournal} {change : JournalChange}

lemma Successor.Follows.validActive (h : successor.Follows j) :
    (j.follow successor).validActive = true := by
  obtain ⟨hc, ho, hg, ht⟩ := h
  cases hn : successor.generation with
  | none => simp [hn] at hg
  | some =>
    rw [hn, Option.any_some] at hg
    simp [SwitchJournal.validActive, SwitchJournal.follow, successor.fingerprint.valid, hc,
      ho, ht, hn, hg]

lemma SwitchJournal.resuming_of_running (h : j.stoppedOrLater = false) : j.resuming = false := by
  unfold SwitchJournal.stoppedOrLater at h
  unfold SwitchJournal.resuming
  split at h <;> simp_all

lemma SwitchJournal.negotiating_of_running (h : j.stoppedOrLater = false) :
    j.negotiating = false := by
  unfold SwitchJournal.stoppedOrLater at h
  unfold SwitchJournal.negotiating
  split at h <;> simp_all

lemma SwitchJournal.validResume_congr (h : j.validResume = true)
    (hi : j'.resumeOperationId = j.resumeOperationId) (hd : j'.decision = j.decision)
    (hp : j'.resuming = j.resuming) : j'.validResume = true := by
  rw [← h]
  simp only [SwitchJournal.validResume, hi, hd, hp]

lemma SwitchJournal.validSupersede_mono (h : j.validSupersede = true)
    (hi : j'.supersedeOperationId = j.supersedeOperationId)
    (ht : j'.supersedeTarget = j.supersedeTarget)
    (hp : j.negotiating = true → j'.negotiating = true) : j'.validSupersede = true := by
  simp only [SwitchJournal.validSupersede, Bool.and_eq_true, Bool.or_eq_true, hi, ht] at *
  exact ⟨h.1, h.2.imp_right hp⟩

lemma validActive_apply (h : j.validActive = true) (hf : change.Fits j) :
    (change.apply j).validActive = true := by
  cases change with
  | succeed => exact hf.2.1.validActive
  | advance => exact hf.2.validActive
  | _ => exact h

lemma validResume_apply (h : j.validResume = true) (hf : change.Fits j) :
    (change.apply j).validResume = true := by
  cases change with
  | cleanupHandedOff | runtimeStopping =>
    have hb := SwitchJournal.resuming_of_running hf
    exact SwitchJournal.validResume_congr h rfl rfl hb.symm
  | localStopped =>
    have hb : j.resuming = false := by simp [SwitchJournal.resuming, hf.1]
    exact SwitchJournal.validResume_congr h rfl rfl hb.symm
  | serverReconciling =>
    have hb : j.resuming = false := by simp [SwitchJournal.resuming, show j.phase = _ from hf]
    exact SwitchJournal.validResume_congr h rfl rfl hb.symm
  | complete =>
    have hb : j.resuming = true := by simp [SwitchJournal.resuming, hf.1]
    exact SwitchJournal.validResume_congr h rfl rfl hb.symm
  | succeed =>
    simp [SwitchJournal.validResume, SwitchJournal.resuming, JournalChange.apply, hf.2.2]
  | resume =>
    simp [SwitchJournal.validResume, SwitchJournal.resuming, JournalChange.apply, hf.2]
  | withdraw =>
    simp [SwitchJournal.validResume, SwitchJournal.resuming, JournalChange.apply, hf.1, hf.2]
  | advance =>
    simp [SwitchJournal.validResume, SwitchJournal.resuming, JournalChange.apply]
  | forceStop | retry | supersede | clearSupersede | cancelRequested => exact h

lemma validSupersede_apply (h : j.validSupersede = true) (hf : change.Fits j) :
    (change.apply j).validSupersede = true := by
  cases change with
  | cleanupHandedOff | runtimeStopping =>
    have hb := SwitchJournal.negotiating_of_running hf
    exact SwitchJournal.validSupersede_mono h rfl rfl fun hn => absurd hn (by simp [hb])
  | localStopped =>
    refine SwitchJournal.validSupersede_mono h rfl rfl fun hn => ?_
    simp [SwitchJournal.negotiating, hf.1] at hn
  | serverReconciling | succeed | resume =>
    exact SwitchJournal.validSupersede_mono h rfl rfl fun _ => rfl
  | complete =>
    have ht : j.supersedeTarget = none ∧ j.supersedeTarget.all RuntimeTarget.valid = true := by
      simpa [SwitchJournal.validSupersede, hf.2] using h
    simp [SwitchJournal.validSupersede, JournalChange.apply, hf.2, ht.1]
  | supersede =>
    simp [SwitchJournal.validSupersede, SwitchJournal.negotiating, JournalChange.apply, hf.1,
      hf.2.1, hf.2.2]
  | clearSupersede | advance => simp [SwitchJournal.validSupersede, JournalChange.apply]
  | forceStop | retry | withdraw | cancelRequested => exact h

lemma validRetry_apply (h : j.validRetry = true) (hfi : change.Fits j) :
    (change.apply j).validRetry = true := by
  cases change with
  | retry =>
    obtain ⟨hf, hl, hs, hlo, hz⟩ := hfi
    simp [SwitchJournal.validRetry, JournalChange.apply, hf, hl, hs, hlo, hz]
  | succeed | resume | withdraw | advance => rfl
  | _ => exact h

lemma SwitchJournal.validReceipt_congr (h : j.validReceipt = true)
    (ho : j'.operationId = j.operationId)
    (hsc : j'.sourceScopeFingerprint = j.sourceScopeFingerprint)
    (hs : j'.runtimeSnapshot = j.runtimeSnapshot)
    (hr : j'.localStopReceipt = j.localStopReceipt)
    (hp : j'.stoppedOrLater = j.stoppedOrLater) : j'.validReceipt = true := by
  rw [← h]
  simp only [SwitchJournal.validReceipt, ho, hsc, hs, hr, hp]

lemma validReceipt_apply (h : j.validReceipt = true) (hf : change.Fits j) :
    (change.apply j).validReceipt = true := by
  cases change with
  | cleanupHandedOff | runtimeStopping =>
    exact SwitchJournal.validReceipt_congr h rfl rfl rfl rfl hf.symm
  | localStopped =>
    obtain ⟨-, ho, hsc, _, hs, hsl, hv⟩ := hf
    simp [SwitchJournal.validReceipt, SwitchJournal.stoppedOrLater, JournalChange.apply, ho,
      hsc, hs, hsl, hv]
  | serverReconciling =>
    have hb : j.stoppedOrLater = true := by
      simp [SwitchJournal.stoppedOrLater, show j.phase = _ from hf]
    exact SwitchJournal.validReceipt_congr h rfl rfl rfl rfl hb.symm
  | succeed | resume | advance | complete =>
    have hb : j.stoppedOrLater = true := by simp [SwitchJournal.stoppedOrLater, hf.1]
    exact SwitchJournal.validReceipt_congr h rfl rfl rfl rfl hb.symm
  | forceStop | retry | supersede | clearSupersede | withdraw | cancelRequested => exact h

end Groups

lemma SwitchJournal.valid_apply {change : JournalChange} (hv : j.valid json = true)
    (hf : change.Fits j) : (change.apply j).valid json = true := by
  obtain ⟨hro, ha, hre, hs, hrt, hsn, hr⟩ := valid_iff.mp hv
  rw [valid_iff, JournalChange.validRoot_apply, JournalChange.validSnapshot_apply,
    JournalChange.runtimeSnapshot_apply]
  exact ⟨hro, validActive_apply ha hf, validResume_apply hre hf,
    validSupersede_apply hs hf, validRetry_apply hrt hf, hsn,
    validReceipt_apply hr hf⟩

lemma mem_pushLeases (leaseId : String) (values found : List String) :
    leaseId ∈ values.foldl (fun found id => if found.contains id then found else found ++ [id]) found ↔
      leaseId ∈ found ∨ leaseId ∈ values := by
  induction values generalizing found with
  | nil => simp
  | cons value values ih =>
    rw [List.foldl_cons, ih]
    split
    · rename_i hk
      have hv : value ∈ found := by simpa using hk
      grind
    · simp [or_assoc]

/-- Of several holders of one id the first is pushed. -/
lemma find?_pushOperation (id : String) (values found : List RuntimeCleanupOperation) :
    (values.foldl pushOperation found).find? (·.operationId == id) =
      (found ++ values).find? (·.operationId == id) := by
  induction values generalizing found with
  | nil => simp
  | cons value values ih =>
    rw [List.foldl_cons, ih, pushOperation]
    split
    · rename_i hk
      simp only [List.find?_append, List.find?_cons]
      split
      · -- A holder of this id was pushed before.
        rename_i hi
        have hs : (found.find? (·.operationId == id)).isSome = true := by
          rw [List.find?_isSome]
          grind
        obtain ⟨_, hf⟩ := Option.isSome_iff_exists.mp hs
        simp [hf]
      · rfl
    · rw [List.append_assoc, List.singleton_append]

lemma projected_id (h : RuntimeCleanupOperation.projected held = some operation) :
    operation.operationId = held.operationId := by
  unfold RuntimeCleanupOperation.projected at h
  split at h <;> cases h <;> rfl

lemma projected_verified
    (h : RuntimeCleanupOperation.projected held = some ⟨operationId, .verified fingerprint version⟩) :
    held.requestFingerprint ≠ none ∧ held.contractVersion ≠ none := by
  unfold RuntimeCleanupOperation.projected at h
  split at h <;> simp_all

lemma mem_projected {operations : List RuntimeCleanupOperation}
    (h : operations.mapM RuntimeCleanupOperation.projected = some projected)
    (hh : held ∈ operations) :
    ∃ operation ∈ projected, RuntimeCleanupOperation.projected held = some operation := by
  induction operations generalizing projected with
  | nil => cases hh
  | cons first rest ih =>
    simp only [List.mapM_cons, Option.bind_eq_bind, Option.bind_eq_some_iff, Option.pure_def,
      Option.some.injEq] at h
    obtain ⟨operation, hf, _, hr, rfl⟩ := h
    rcases List.mem_cons.mp hh with rfl | hh
    · exact ⟨operation, List.mem_cons_self, hf⟩
    · obtain ⟨found, hm, hfo⟩ := ih hr hh
      exact ⟨found, List.mem_cons_of_mem _ hm, hfo⟩

def heldLeases (state : RuntimeState) : List String :=
  (state.savedConnection.map (·.leaseId)).toList ++ (state.pinnedConnection.map (·.leaseId)).toList ++
    (state.pendingStalledStop.map (·.leaseId)).toList ++
    (state.pendingCompensationStop.map (·.leaseId)).toList

/-- The start, cancel, stalled-stop and compensation operations, as their holders know them. -/
def heldOperations (state : RuntimeState) : List RuntimeCleanupOperation :=
  state.pendingStart.toList.flatMap startOperations ++
    (state.pendingStalledStop.map stalledOperation).toList ++
    (state.pendingCompensationStop.map compensationOperation).toList

/-- The redundant sessions that are still to be stopped. -/
def heldSessions (state : RuntimeState) : List String :=
  (state.pendingCompensationStop.bind (·.redundantSessionId)).toList

/-- The first holder of an id knows its fingerprint and version if any holder does. -/
def FirstVerified (state : RuntimeState) : Prop :=
  ∀ held ∈ heldOperations state, held.requestFingerprint ≠ none → held.contractVersion ≠ none →
    ∀ first, (heldOperations state).find? (·.operationId == held.operationId) = some first →
      first.requestFingerprint ≠ none ∧ first.contractVersion ≠ none

lemma first_held (h : held ∈ heldOperations state) :
    ∃ first ∈ heldOperations state, first ∈ cleanupOperations state ∧
      first.operationId = held.operationId ∧
      (heldOperations state).find? (·.operationId == held.operationId) = some first := by
  have hs : ((heldOperations state).find? (·.operationId == held.operationId)).isSome = true :=
    List.find?_isSome.mpr ⟨held, h, by simp⟩
  obtain ⟨first, hf⟩ := Option.isSome_iff_exists.mp hs
  have hp := find?_pushOperation held.operationId (heldOperations state) []
  rw [List.nil_append, hf] at hp
  have hi := List.find?_some hf
  exact ⟨first, List.mem_of_find?_eq_some hf, List.mem_of_find?_eq_some hp, by simpa using hi, hf⟩

lemma fromRuntimeSnapshot_eq_some {snapshot : RuntimeCleanupSnapshot} {envelope : CleanupEnvelope}
    (h : CleanupEnvelope.fromRuntimeSnapshot json snapshot = some envelope) :
    snapshot.operations.mapM RuntimeCleanupOperation.projected = some envelope.operations ∧
      (envelope.operations.map (·.operationId)).Nodup ∧
      envelope.leaseIds = snapshot.leaseIds ∧ envelope.redundantSessionIds = [] := by
  simp only [CleanupEnvelope.fromRuntimeSnapshot] at h
  split at h
  · cases h
  obtain ⟨operations, ho, h⟩ := Option.bind_eq_some_iff.mp h
  split at h
  case isTrue hv =>
    cases h
    simp only [CleanupEnvelope.valid, Bool.and_eq_true, decide_eq_true_eq] at hv
    exact ⟨ho, hv.1.1.2, rfl, rfl⟩
  case isFalse => cases h

/-- The envelope that is built from a record names every lease and every operation that the record
holds, each operation once. It names every redundant session, and every operation with the
fingerprint and version of a holder that knows them, exactly when no redundant session is held and
the first holder of an id knows them. -/
theorem envelope_names_held (json : Json) {state : RuntimeState} {envelope : CleanupEnvelope}
    (hbuilt : CleanupEnvelope.fromRuntimeSnapshot json (cleanupSnapshot state) = some envelope) :
    (∀ leaseId ∈ heldLeases state, leaseId ∈ envelope.leaseIds) ∧
    (∀ held ∈ heldOperations state,
      (envelope.operations.map (·.operationId)).count held.operationId = 1) ∧
    ((∀ sessionId ∈ heldSessions state, sessionId ∈ envelope.redundantSessionIds) ↔
      heldSessions state = []) ∧
    ((∀ held ∈ heldOperations state,
      held.requestFingerprint ≠ none → held.contractVersion ≠ none →
        ∃ fingerprint version,
          ⟨held.operationId, some fingerprint, some version⟩ ∈ heldOperations state ∧
          ⟨held.operationId, .verified fingerprint version⟩ ∈ envelope.operations) ↔
      FirstVerified state) := by
  obtain ⟨ho, hd, hleases, hsessions⟩ := fromRuntimeSnapshot_eq_some hbuilt
  -- the operation of an id is what its first holder says
  have hfirst {held} (hh : held ∈ heldOperations state) : ∃ first ∈ heldOperations state,
      (heldOperations state).find? (·.operationId == held.operationId) = some first ∧
      ∃ operation ∈ envelope.operations, RuntimeCleanupOperation.projected first = some operation ∧
        operation.operationId = held.operationId ∧ first.operationId = held.operationId := by
    obtain ⟨first, hk, hpu, hi, hfd⟩ := first_held hh
    obtain ⟨operation, hm, hp⟩ := mem_projected ho hpu
    exact ⟨first, hk, hfd, operation, hm, hp, (projected_id hp).trans hi, hi⟩
  refine ⟨fun leaseId hl => hleases ▸ (mem_pushLeases leaseId _ []).mpr (.inr hl),
    fun held hh => ?_, ?_, fun hall held hh hfn hve first hfd => ?_, fun hver held hh hfn hve => ?_⟩
  · obtain ⟨-, -, -, operation, hm, -, hn, -⟩ := hfirst hh
    exact List.count_eq_one_of_mem hd (hn ▸ List.mem_map_of_mem hm)
  · simp [hsessions, List.eq_nil_iff_forall_not_mem]
  · obtain ⟨fingerprint, version, -, hmv⟩ := hall held hh hfn hve
    obtain ⟨first', -, hfd', operation, hm, hp, hn, -⟩ := hfirst hh
    obtain rfl := Option.some.inj (hfd.symm.trans hfd')
    obtain rfl := List.inj_on_of_nodup_map hd hm hmv hn
    exact projected_verified hp
  · obtain ⟨first, hk, hfd, operation, hm, hp, -, hi⟩ := hfirst hh
    obtain ⟨hf, hfi⟩ := hver held hh hfn hve first hfd
    obtain ⟨_, _, _⟩ := first
    obtain ⟨fingerprint, rfl⟩ := Option.ne_none_iff_exists'.mp hf
    obtain ⟨version, rfl⟩ := Option.ne_none_iff_exists'.mp hfi
    cases hp
    cases hi
    exact ⟨fingerprint, version, hk, hm⟩

def hexDigits : String := "0123456789abcdef0123456789abcdef0123456789abcdef0123456789abcdef"

def hexJson : Json :=
  ⟨fun _ => ⟨hexDigits, by decide +kernel⟩, fun _ => ⟨hexDigits, by decide +kernel⟩, fun _ => true⟩

def stalledRecord : RuntimeState :=
  { RuntimeState.empty .latest "1" false with pendingStalledStop := some ⟨"stop", "lease", 1, hexDigits⟩ }

/-- A start that was saved without a fingerprint under the id of the stalled stop. -/
def sharedRecord : RuntimeState :=
  { stalledRecord with
    pendingStart := some ⟨"stop", .tic, .dynamic, .standalone, .ipv4, true, [], none, none, none, none, none⟩ }

def redundantRecord : RuntimeState :=
  { RuntimeState.empty .latest "1" false with
    pendingCompensationStop := some ⟨"stop", "lease", some 2, some "session", false, none⟩ }

/-- The session of a compensation is not named, and the fingerprint of a stalled stop is lost when a
start without one has the same id. -/
theorem envelope_omits_held :
    CleanupEnvelope.fromRuntimeSnapshot hexJson (cleanupSnapshot redundantRecord) =
        some ⟨1, ["lease"], [], [⟨"stop", .legacyUnknown⟩], .primary, none⟩ ∧
      CleanupEnvelope.fromRuntimeSnapshot hexJson (cleanupSnapshot sharedRecord) =
        some ⟨1, ["lease"], [], [⟨"stop", .legacyUnknown⟩], .primary, none⟩ ∧
      heldSessions redundantRecord = ["session"] ∧
      ⟨"stop", some hexDigits, some 1⟩ ∈ heldOperations sharedRecord := by
  decide +kernel

theorem envelope_names_held_stalled :
    ∃ envelope, CleanupEnvelope.fromRuntimeSnapshot hexJson (cleanupSnapshot stalledRecord) = some envelope ∧
      "lease" ∈ envelope.leaseIds ∧ ⟨"stop", .verified hexDigits 1⟩ ∈ envelope.operations := by
  have hb : CleanupEnvelope.fromRuntimeSnapshot hexJson (cleanupSnapshot stalledRecord) =
      some ⟨1, ["lease"], [], [⟨"stop", .verified hexDigits 1⟩], .primary, none⟩ := by
    decide +kernel
  have hf : FirstVerified stalledRecord := by
    simp [FirstVerified, heldOperations, stalledRecord, RuntimeState.empty, stalledOperation]
  obtain ⟨hl, -, -, hv⟩ := envelope_names_held hexJson hb
  have hheld : ⟨"stop", some hexDigits, some 1⟩ ∈ heldOperations stalledRecord := by decide
  obtain ⟨fingerprint, version, hk, hm⟩ := hv.mpr hf _ hheld (by simp) (by simp)
  obtain ⟨rfl, rfl⟩ : fingerprint = hexDigits ∧ version = 1 := by
    simpa [heldOperations, stalledRecord, RuntimeState.empty, stalledOperation] using hk
  exact ⟨_, hb, hl "lease" (by decide), hm⟩

end NelomaiClient.SwitchRecord
