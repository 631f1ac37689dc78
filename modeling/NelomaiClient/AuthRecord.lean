import NelomaiClient.Checked
import NelomaiClient.SwitchCoordinator

/-!
# The protected record of a login

One record holds the credentials, the fence of the current login and everything
that has to survive the process: the ticket of a request under way, a native
recovery, a logout that is to be revoked, and the authorities of runtime
switches. `AuthStoreV1::validate` runs at every load and at every save; it is a
list of checks with their messages here. The metadata of the broker is always
there, because `AuthBroker::new` writes it before anything else. Texts that are
one of a few words are enumerations.
-/

namespace NelomaiClient.AuthRecord

open Checked RuntimeRecord RuntimeOwner SwitchRecord
open SwitchCoordinator (RuntimeSwitchState)

inductive LogoutState where
  | active
  | pending
  | loggedOut
  deriving DecidableEq

structure ResumeResult where
  identity : RuntimeIdentity
  accessToken : String
  deriving DecidableEq

structure PendingResume where
  operationId : String
  fingerprint : String
  targetIdentity : RuntimeIdentity
  result : Option ResumeResult
  deriving DecidableEq

inductive BrokerRequestKind where
  | refresh
  | resume
  | login
  | legacyBootstrap
  | legacyRefresh
  deriving DecidableEq

structure StoredResumeArguments where
  reconcileOperationId : String
  decision : SwitchDecision
  target : RuntimeIdentity
  expectedSessionGeneration : Option ℕ
  deriving DecidableEq

inductive RefreshMode where
  | refresh
  | recoverLegacyPending
  deriving DecidableEq

structure StoredRecoverableRefresh where
  contractVersion : ℕ
  mode : RefreshMode
  deriving DecidableEq

structure BrokerRequest where
  refresh : Option StoredRecoverableRefresh
  kind : BrokerRequestKind
  operationId : String
  attempt : ℕ
  authEpoch : ℕ
  sourceIdentity : Option RuntimeIdentity
  sourceDeviceId : Option String
  /-- Whether an earlier login may have succeeded. -/
  priorLoginOutcomeUnknown : Bool
  resume : Option StoredResumeArguments
  deriving DecidableEq

structure RecoveryTicket where
  operationId : String
  authEpoch : ℕ
  attempt : ℕ
  family : String
  identity : RuntimeIdentity
  deviceId : Option String
  deriving DecidableEq

structure CompletedResume where
  request : BrokerRequest
  identity : RuntimeIdentity
  deriving DecidableEq

structure RuntimeLogoutSource where
  authEpoch : ℕ
  family : String
  identity : Option RuntimeIdentity
  deviceId : String
  scopeFingerprint : String
  deriving DecidableEq

structure PendingLogout where
  operationId : String
  refreshProof : String
  source : Option RuntimeLogoutSource
  deriving DecidableEq

structure CompletedRuntimeLogout where
  operationId : String
  source : RuntimeLogoutSource
  code : String
  cleanupReconcileOperationId : Option String
  deriving DecidableEq

structure PendingRuntimeSupersede where
  operationId : String
  supersededReconcileOperationId : String
  expectedSessionGeneration : Option ℕ
  targetIdentity : RuntimeIdentity
  source : RuntimeLogoutSource
  refreshProof : String
  responseState : Option RuntimeSwitchState
  responseReconcileOperationId : Option String
  retryAfterSeconds : Option ℕ
  deriving DecidableEq

inductive TransitionDispatchState where
  | captured
  | dispatchIntent
  | outcomeUnknown
  | invalidAccessRejected
  | responseKnown
  deriving DecidableEq

structure TransitionReconcileReceipt where
  state : RuntimeSwitchState
  operationId : String
  retiredLeaseIds : List String
  retiredSessionIds : List String
  retiredOperationIds : List String
  retryAfterSeconds : Option ℕ
  deriving DecidableEq

structure TransitionResumeEvidence where
  operationId : String
  reconcileOperationId : String
  decision : SwitchDecision
  targetIdentity : RuntimeIdentity
  identity : RuntimeIdentity
  accessToken : String
  tokenType : String
  accessExpiresIn : ℕ
  deriving DecidableEq

structure TransitionAuthority where
  schemaVersion : ℕ := 1
  reconcileOperationId : String
  requestFingerprint : String
  sourceAuthEpoch : ℕ
  sourceFamily : String
  sourceIdentity : Option RuntimeIdentity
  sourceDeviceId : String
  sourceScopeFingerprint : String
  expectedSessionGeneration : Option ℕ
  targetIdentity : RuntimeIdentity
  cleanupContractVersion : ℕ
  cleanupAccessProof : String
  resumeRefreshProof : String
  /-- Whether the tokens of an old login were rotated. -/
  legacyRefreshCompleted : Bool
  supersededBy : Option String
  dispatchState : TransitionDispatchState
  reconcileReceipt : Option TransitionReconcileReceipt
  resumeTicket : Option BrokerRequest
  resumeEvidence : Option TransitionResumeEvidence
  deriving DecidableEq

structure BrokerMetadata where
  family : String
  nextAttempt : ℕ
  pendingRequest : Option BrokerRequest
  completedResume : Option CompletedResume
  pendingLogout : Option PendingLogout
  pendingRecovery : Option RecoveryTicket
  cancelledLogin : Option BrokerRequest
  authenticationOutcomeUnknown : Bool
  pendingLoginAccount : Option String
  confirmedDeviceId : Option String
  pendingPushCleanupEpoch : Option ℕ
  transitionAuthorities : List TransitionAuthority
  deriving DecidableEq

structure AuthStore where
  schemaVersion : ℕ := 1
  installSecret : String
  accessToken : Option String
  refreshToken : Option String
  sessionGeneration : Option ℕ
  authEpoch : ℕ
  logoutState : LogoutState
  confirmedIdentity : Option RuntimeIdentity
  pendingResume : Option PendingResume
  broker : BrokerMetadata
  completedRuntimeLogout : Option CompletedRuntimeLogout
  pendingRuntimeSupersede : Option PendingRuntimeSupersede
  deriving DecidableEq

section Validity

def maxTransitionAuthorities : ℕ := 16

def checkedSucc (n : ℕ) : Option ℕ := if n + 1 < 2 ^ 64 then some (n + 1) else none

def boundedText (limit : ℕ) (value : String) : Bool :=
  !value.isEmpty && decide (value.utf8ByteSize ≤ limit)

def validRetryAfter (seconds : ℕ) : Bool := decide (1 ≤ seconds) && decide (seconds ≤ 30)

def validIds (values : List String) : Bool :=
  decide (values.length ≤ 1024) &&
    values.all (fun value => boundedText 256 value && !value.toList.any isControl) &&
    decide values.Nodup

def validLogoutSource (source : RuntimeLogoutSource) : Bool :=
  source.identity.all (fun identity => validIdentity identity && identity.sessionGeneration.isSome) &&
    boundedText 128 source.family && boundedText 256 source.deviceId &&
    validFingerprint source.scopeFingerprint

def withoutGeneration (identity : RuntimeIdentity) : RuntimeIdentity :=
  { identity with sessionGeneration := none }

variable (auth : AuthStore) (authority : TransitionAuthority)

def TransitionAuthority.resumeTarget : SwitchDecision → Option RuntimeIdentity
  | .apply => some authority.targetIdentity
  | .cancel => authority.sourceIdentity.map withoutGeneration

def CompletedRuntimeLogout.checks (receipt : CompletedRuntimeLogout) : List Check :=
  [(validLogoutSource receipt.source, "invalid runtime logout source"),
    (canonicalUuid receipt.operationId &&
      (receipt.code == "already_inactive" || receipt.code == "session_revoked_cleanup_accepted") &&
      receipt.cleanupReconcileOperationId.all canonicalUuid, "invalid completed runtime logout")]

def PendingRuntimeSupersede.checks (ticket : PendingRuntimeSupersede) : List Check :=
  [(validLogoutSource ticket.source, "invalid runtime logout source"),
    (canonicalUuid ticket.operationId && canonicalUuid ticket.supersededReconcileOperationId &&
      validIdentity ticket.targetIdentity && ticket.targetIdentity.sessionGeneration.isNone &&
      boundedText 256 ticket.refreshProof && ticket.source.identity.isSome &&
      decide (ticket.expectedSessionGeneration = ticket.source.identity.bind (·.sessionGeneration)) &&
      ticket.responseState.isSome == ticket.responseReconcileOperationId.isSome &&
      (ticket.responseState.isSome || ticket.retryAfterSeconds.isNone),
      "invalid runtime supersede ticket"),
    (ticket.responseReconcileOperationId.all (fun responseId =>
      canonicalUuid responseId &&
        (decide (ticket.responseState ≠ some .retry) ||
          responseId == ticket.supersededReconcileOperationId) &&
        ticket.retryAfterSeconds.all validRetryAfter), "invalid runtime supersede response")]

def PendingResume.checks (pending : PendingResume) : List Check :=
  [(validIdentity pending.targetIdentity, "invalid resume target"),
    (!pending.operationId.isEmpty && validFingerprint pending.fingerprint, "invalid pending resume")] ++
  whenSome pending.result fun result =>
    [(validIdentity result.identity, "invalid resume result"),
      (result.identity.sessionGeneration.isSome && !result.accessToken.isEmpty,
        "incomplete resume result")]

def BrokerRequestKind.legacy : BrokerRequestKind → Bool
  | .legacyBootstrap | .legacyRefresh => true
  | .refresh | .resume | .login => false

def BrokerRequest.checks (request : BrokerRequest) : List Check :=
  (whenSome request.refresh fun refresh =>
    [(decide (request.kind = .refresh) && refresh.contractVersion == 1, "invalid refresh protocol")]) ++
  [(boundedText 128 request.operationId && request.attempt != 0 &&
      decide (request.attempt ≤ auth.broker.nextAttempt) && decide (request.authEpoch ≤ auth.authEpoch),
    "invalid broker request ticket")] ++
  (whenSome request.sourceIdentity fun identity =>
    [(validIdentity identity, "invalid broker source identity")]) ++
  (whenSome request.resume fun resume =>
    [(validIdentity resume.target, "invalid broker resume target"),
      (resume.target.sessionGeneration.isNone && !resume.reconcileOperationId.isEmpty &&
        resume.expectedSessionGeneration.all validGeneration, "invalid broker resume arguments")]) ++
  [(decide (request.kind = .resume) == request.resume.isSome, "invalid broker request kind"),
    (!request.kind.legacy || (canonicalUuid request.operationId && request.authEpoch == auth.authEpoch &&
      request.sourceIdentity.isNone &&
      decide (request.sourceDeviceId = auth.broker.confirmedDeviceId) &&
      !request.priorLoginOutcomeUnknown), "invalid legacy transition ticket")]

def TransitionReconcileReceipt.checks
    (receipt : TransitionReconcileReceipt) : List Check :=
  [(receipt.operationId == authority.reconcileOperationId && validIds receipt.retiredLeaseIds &&
    validIds receipt.retiredSessionIds && validIds receipt.retiredOperationIds &&
    receipt.retryAfterSeconds.all validRetryAfter, "invalid transition reconcile receipt")]

def TransitionAuthority.resumedBy (ticket : BrokerRequest) : Bool :=
  decide (ticket.kind = .resume) && ticket.authEpoch == authority.sourceAuthEpoch &&
    decide (ticket.sourceIdentity = authority.sourceIdentity) &&
    decide (ticket.sourceDeviceId = some authority.sourceDeviceId) &&
    ticket.resume.any fun resume =>
      resume.reconcileOperationId == authority.reconcileOperationId &&
        decide (some resume.target = authority.resumeTarget resume.decision) &&
        decide (resume.expectedSessionGeneration = authority.expectedSessionGeneration)

def TransitionAuthority.isClean : Bool :=
  authority.reconcileReceipt.any fun receipt => decide (receipt.state = .clean)

def TransitionAuthority.ticketChecks
    (ticket : BrokerRequest) : List Check :=
  [(authority.isClean, "transition resume requires clean reconciliation")] ++ ticket.checks auth ++
  [(ticket.resume.isSome, "invalid transition resume ticket"),
    (ticket.resume.all (fun resume => (authority.resumeTarget resume.decision).isSome),
      "legacy transition cannot be cancelled"),
    (authority.resumedBy ticket, "invalid transition resume ticket")]

def TransitionAuthority.evidenceChecks
    (evidence : TransitionResumeEvidence) : List Check :=
  [(authority.resumeTicket.isSome, "orphan transition resume evidence"),
    (authority.resumeTicket.any (fun ticket => ticket.resume.any fun resume =>
      evidence.operationId == ticket.operationId &&
        evidence.reconcileOperationId == authority.reconcileOperationId &&
        decide (evidence.decision = resume.decision) &&
        decide (some evidence.targetIdentity = authority.resumeTarget resume.decision) &&
        validIdentity evidence.identity &&
        decide (evidence.identity.sessionGeneration =
          checkedSucc (authority.expectedSessionGeneration.getD 0)) &&
        decide (some (withoutGeneration evidence.identity) = authority.resumeTarget resume.decision) &&
        boundedText 256 evidence.accessToken && evidence.tokenType == "Bearer" &&
        evidence.accessExpiresIn != 0), "invalid transition resume evidence")]

def TransitionAuthority.checks : List Check :=
  [(authority.schemaVersion == 1 && canonicalUuid authority.reconcileOperationId &&
      validFingerprint authority.requestFingerprint &&
      validFingerprint authority.sourceScopeFingerprint && boundedText 128 authority.sourceFamily &&
      (match authority.sourceIdentity with
        | some identity => validIdentity identity && identity.sessionGeneration.isSome &&
          decide (identity.sessionGeneration = authority.expectedSessionGeneration)
        | none => authority.expectedSessionGeneration.isNone) &&
      boundedText 256 authority.sourceDeviceId && validIdentity authority.targetIdentity &&
      authority.targetIdentity.sessionGeneration.isNone && authority.cleanupContractVersion == 1 &&
      boundedText 256 authority.cleanupAccessProof && boundedText 256 authority.resumeRefreshProof &&
      (authority.sourceIdentity.isNone || !authority.legacyRefreshCompleted) &&
      authority.supersededBy.all canonicalUuid &&
      decide (authority.dispatchState = .responseKnown) == authority.reconcileReceipt.isSome,
    "invalid transition authority")] ++
  whenSome authority.reconcileReceipt (TransitionReconcileReceipt.checks authority) ++
  whenSome authority.resumeTicket (authority.ticketChecks auth) ++
  whenSome authority.resumeEvidence authority.evidenceChecks

def TransitionAuthority.follows (candidate authority : TransitionAuthority) (successor : String) :
    Bool :=
  candidate.reconcileOperationId == successor &&
    candidate.sourceAuthEpoch == authority.sourceAuthEpoch &&
    candidate.sourceDeviceId == authority.sourceDeviceId &&
    ((candidate.sourceFamily == authority.sourceFamily &&
      decide (candidate.sourceIdentity = authority.sourceIdentity) &&
      candidate.sourceScopeFingerprint == authority.sourceScopeFingerprint) ||
      authority.resumeEvidence.any fun evidence =>
        decide (candidate.sourceIdentity = some evidence.identity))

def AuthStore.authorityChecks : List Check :=
  [(decide (auth.broker.transitionAuthorities.length ≤ maxTransitionAuthorities) &&
      decide (auth.broker.transitionAuthorities.map (·.reconcileOperationId)).Nodup,
    "invalid transition authority collection")] ++
  auth.broker.transitionAuthorities.flatMap fun authority =>
    authority.checks auth ++
      [(authority.supersededBy.all (fun successor =>
          auth.broker.transitionAuthorities.any (·.follows authority successor)),
        "invalid transition supersede lineage")]

def RecoveryTicket.checks (ticket : RecoveryTicket) : List Check :=
  [(validIdentity ticket.identity, "invalid recovery identity"),
    (!ticket.operationId.isEmpty && !ticket.family.isEmpty && ticket.identity.sessionGeneration.isSome &&
      ticket.attempt != 0 && decide (ticket.attempt ≤ auth.broker.nextAttempt) &&
      decide (ticket.authEpoch ≤ auth.authEpoch), "invalid recovery ticket")]

def AuthStore.brokerChecks : List Check :=
  [(boundedText 128 auth.broker.family, "invalid broker lineage"),
    (auth.broker.pendingLoginAccount.all (boundedText 64), "invalid pending login account"),
    (auth.broker.pendingPushCleanupEpoch.all (fun epoch => decide (epoch ≤ auth.authEpoch)),
      "invalid push cleanup epoch")] ++
  whenSome auth.broker.pendingRequest (BrokerRequest.checks auth) ++
  (whenSome auth.broker.cancelledLogin fun request =>
    request.checks auth ++ [(decide (request.kind = .login), "invalid cancelled login")]) ++
  (whenSome auth.broker.completedResume fun done =>
    done.request.checks auth ++
      [(validIdentity done.identity, "invalid completed resume identity"),
        (decide (done.request.kind = .resume) && done.identity.sessionGeneration.isSome,
          "invalid completed resume")]) ++
  (whenSome auth.broker.pendingLogout fun logout =>
    [(!logout.operationId.isEmpty && !logout.refreshProof.isEmpty, "invalid logout proof"),
      (logout.source.all validLogoutSource, "invalid runtime logout source")]) ++
  whenSome auth.broker.pendingRecovery (RecoveryTicket.checks auth) ++ auth.authorityChecks

def AuthStore.checks : List Check :=
  [(auth.schemaVersion == 1 && !auth.installSecret.isEmpty && auth.sessionGeneration.all validGeneration,
    "invalid auth schema or identity")] ++
  (whenSome auth.confirmedIdentity fun identity =>
    [(validIdentity identity, "invalid confirmed identity"),
      (identity.sessionGeneration.isSome && decide (identity.sessionGeneration = auth.sessionGeneration),
        "confirmed generation mismatch")]) ++
  whenSome auth.completedRuntimeLogout CompletedRuntimeLogout.checks ++
  whenSome auth.pendingRuntimeSupersede PendingRuntimeSupersede.checks ++
  whenSome auth.pendingResume PendingResume.checks ++ auth.brokerChecks

def AuthStore.validate : Except StorageError Unit := verdict .recoveryRequired auth.checks

def AuthStore.valid : Bool := passes auth.checks

end Validity

section Authorities

def AuthStore.authority (auth : AuthStore) (operationId : String) : Option TransitionAuthority :=
  auth.broker.transitionAuthorities.find? (·.reconcileOperationId == operationId)

/-- Change the authority of an operation; operations are distinct in an accepted record. -/
def AuthStore.modifyAuthority (auth : AuthStore) (operationId : String)
    (change : TransitionAuthority → TransitionAuthority) : AuthStore :=
  { auth with broker := { auth.broker with
      transitionAuthorities := auth.broker.transitionAuthorities.map fun authority =>
        if authority.reconcileOperationId = operationId then change authority else authority } }

def AuthStore.pushAuthority (auth : AuthStore) (authority : TransitionAuthority) : AuthStore :=
  { auth with broker := { auth.broker with
      transitionAuthorities := auth.broker.transitionAuthorities ++ [authority] } }

variable {auth : AuthStore} {operationId : String} {authority : TransitionAuthority}
  {change : TransitionAuthority → TransitionAuthority}

lemma AuthStore.authority_id (h : auth.authority operationId = some authority) :
    authority.reconcileOperationId = operationId := by
  simpa using List.find?_some h

lemma AuthStore.authority_mem (h : auth.authority operationId = some authority) :
    authority ∈ auth.broker.transitionAuthorities := List.mem_of_find?_eq_some h

lemma AuthStore.authority_modify_other
    (hn : ∀ authority, (change authority).reconcileOperationId = authority.reconcileOperationId)
    (h : other ≠ operationId) :
    (auth.modifyAuthority operationId change).authority other = auth.authority other := by
  unfold AuthStore.authority AuthStore.modifyAuthority
  generalize auth.broker.transitionAuthorities = authorities
  induction authorities with
  | nil => rfl
  | cons first rest ih =>
    rw [List.map_cons, List.find?_cons, List.find?_cons]
    by_cases hf : first.reconcileOperationId = operationId
    · have hs : (operationId == other) = false := by
        simpa using fun ho => h ho.symm
      simp only [hf, if_true, hn, hs]
      exact ih
    · simp only [hf, if_false]
      cases ho : first.reconcileOperationId == other with
      | true => rfl
      | false => exact ih

lemma AuthStore.authority_modify_same
    (hn : ∀ authority, (change authority).reconcileOperationId = authority.reconcileOperationId)
    (h : auth.authority operationId = some authority) :
    (auth.modifyAuthority operationId change).authority operationId = some (change authority) := by
  unfold AuthStore.authority AuthStore.modifyAuthority at *
  generalize auth.broker.transitionAuthorities = authorities at h
  induction authorities with
  | nil => cases h
  | cons first rest ih =>
    rw [List.find?_cons] at h
    rw [List.map_cons, List.find?_cons]
    by_cases hf : first.reconcileOperationId = operationId
    · have hfo : (first.reconcileOperationId == operationId) = true := by simpa using hf
      rw [hfo] at h
      cases h
      simp [hf, hn]
    · have hs : (first.reconcileOperationId == operationId) = false := by simpa using hf
      rw [hs] at h
      simp only [hf, if_false, hs]
      exact ih h

lemma AuthStore.authority_push (h : auth.authority operationId = some authority) :
    (auth.pushAuthority new).authority operationId = some authority := by
  unfold AuthStore.authority AuthStore.pushAuthority at *
  rw [List.find?_append, h]
  rfl

end Authorities

end NelomaiClient.AuthRecord
