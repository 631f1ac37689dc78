import NelomaiClient.AuthRecord

/-!
# The critical sections of the broker

Every access to the protected record happens under the `state` lock: the record
is loaded, a decision is made, and the record is saved at most once. Between two
sections the operation awaits, and anything may happen to the record. A section
is a value here, and `runSection` is its decision on an accepted record. What
the server answers is an argument of the section that uses it.
-/

namespace NelomaiClient.AuthSections

open Checked RuntimeRecord RuntimeOwner SwitchRecord AuthRecord
open SwitchCoordinator (BrokerError TransitionSource FrozenReconcileRequest RuntimeSwitchState
  SupersedeResponse ResumeArguments)

structure Platform where
  json : Json
  android : Bool
  recordFits : AuthStore → Bool

structure AccessSnapshot where
  accessToken : String
  identity : RuntimeIdentity
  authEpoch : ℕ
  family : String

def AccessSnapshot.new (accessToken : String) (identity : RuntimeIdentity) (authEpoch : ℕ)
    (family : String) : Except BrokerError AccessSnapshot := do
  ensure (validIdentity identity && identity.sessionGeneration.isSome && !accessToken.isEmpty &&
    !family.isEmpty) .api
  pure ⟨accessToken, identity, authEpoch, family⟩

structure AuthDevice where
  id : String
  containerVersion : Option String
  runtimeVersion : Option String
  runtimeContractVersion : Option ℕ
  runtimeSlot : Option RuntimeSlot
  sessionGeneration : Option ℕ
  deriving DecidableEq

def AuthDevice.confirmedIdentity (device : AuthDevice) : Option RuntimeIdentity :=
  match device.containerVersion, device.runtimeVersion, device.runtimeContractVersion,
      device.runtimeSlot, device.sessionGeneration with
  | some container, some runtime, some contract, some slot, some generation =>
    (some ⟨slot, runtime, contract, container, some generation⟩).filter validIdentity
  | _, _, _, _, _ => none

structure TokenResponse where
  tokenType : String
  accessToken : String
  accessExpiresIn : ℕ
  refreshToken : String
  refreshExpiresIn : ℕ
  device : AuthDevice
  deriving DecidableEq

def TokenResponse.bearer (response : TokenResponse) : Bool :=
  response.tokenType == "Bearer" && !response.accessToken.isEmpty && !response.refreshToken.isEmpty

structure ResumeResponse where
  identity : RuntimeIdentity
  accessToken : String
  tokenType : String
  accessExpiresIn : ℕ

structure ReconcileResponse where
  state : RuntimeSwitchState
  operationId : String
  retiredLeaseIds : List String
  retiredSessionIds : List String
  retiredOperationIds : List String
  retryAfterSeconds : Option ℕ

structure LogoutResponse where
  code : String
  cleanupReconcileOperationId : Option String

structure ScopeStamp where
  epoch : ℕ
  family : String
  identity : Option RuntimeIdentity
  deriving DecidableEq

structure LoginFence where
  epoch : ℕ
  family : String

inductive NativeOutcome where
  | granted (response : TokenResponse)
  | done
  | notIssued
  | accessUnavailable
  | temporarilyUnavailable
  | outcomeUnknown
  deriving DecidableEq

def generationLe : Option ℕ → Option ℕ → Bool
  | none, _ => true
  | some _, none => false
  | some a, some b => decide (a ≤ b)

def storedArguments (arguments : ResumeArguments) : Except BrokerError StoredResumeArguments := do
  ensure (canonicalUuid arguments.operationId && canonicalUuid arguments.reconcileOperationId)
    .recoveryRequired
  ensure arguments.target.valid .api
  pure ⟨arguments.reconcileOperationId, arguments.decision, arguments.target.toIdentity none,
    arguments.expectedSessionGeneration⟩

section Fences

variable (p : Platform) (auth : AuthStore)

def stampOf : ScopeStamp := ⟨auth.authEpoch, auth.broker.family, auth.confirmedIdentity⟩

def checkStamp (stamp : Option ScopeStamp) : Except BrokerError Unit :=
  ensure (stamp.all fun stamp => decide (stamp = stampOf auth)) .cancelled

def active : Except BrokerError Unit := do
  ensure (decide (auth.logoutState = .active)) .cancelled
  ensure (!auth.broker.authenticationOutcomeUnknown) .authenticationOutcomeUnknown

def snapshot : Except BrokerError AccessSnapshot := do
  active auth
  let access ← present auth.accessToken .recoveryRequired
  let identity ← present auth.confirmedIdentity .recoveryRequired
  AccessSnapshot.new access identity auth.authEpoch auth.broker.family

def transitionSource : Except BrokerError TransitionSource := do
  active auth
  let deviceId ← present auth.broker.confirmedDeviceId .recoveryRequired
  ensure (!deviceId.isEmpty &&
    auth.confirmedIdentity.all (fun identity =>
      decide (identity.sessionGeneration = auth.sessionGeneration)) &&
    auth.confirmedIdentity.isNone == auth.sessionGeneration.isNone) .recoveryRequired
  pure ⟨auth.authEpoch, auth.broker.family, auth.confirmedIdentity, deviceId, auth.sessionGeneration,
    (p.json.scopeDigest ⟨auth.authEpoch, auth.broker.family, auth.confirmedIdentity,
      some deviceId⟩).value⟩

def logoutSource (source : TransitionSource) : RuntimeLogoutSource :=
  ⟨source.authEpoch, source.family, source.identity, source.deviceId, source.scopeFingerprint⟩

def validLegacyDevice (device : AuthDevice) (expected : Option String) : Except BrokerError Unit :=
  ensure (boundedText 256 device.id && expected.all (· == device.id) &&
    device.runtimeVersion.isNone && device.runtimeContractVersion.isNone &&
    device.runtimeSlot.isNone && device.sessionGeneration.isNone) .identityMismatch

def ownsTicket (ticket : BrokerRequest) : Bool :=
  auth.authEpoch == ticket.authEpoch && decide (auth.logoutState = .active) &&
    decide (auth.confirmedIdentity = ticket.sourceIdentity) &&
    auth.broker.nextAttempt == ticket.attempt &&
    decide (auth.broker.confirmedDeviceId = ticket.sourceDeviceId) &&
    decide (auth.broker.pendingRequest = some ticket)

def fenced (ticket : BrokerRequest) : Except BrokerError Unit := do
  active auth
  ensure (ownsTicket auth ticket) .cancelled

def beginWithRefresh (kind : BrokerRequestKind) (operationId : String)
    (resume : Option StoredResumeArguments) (priorLoginOutcomeUnknown recoverable : Bool) :
    Except BrokerError (BrokerRequest × AuthStore) := do
  active auth
  let attempt ← present (checkedSucc auth.broker.nextAttempt) .recoveryRequired
  let request : BrokerRequest :=
    ⟨if recoverable && !p.android then some ⟨1, .refresh⟩ else none, kind, operationId, attempt,
      auth.authEpoch, auth.confirmedIdentity, auth.broker.confirmedDeviceId,
      priorLoginOutcomeUnknown, resume⟩
  pure (request, { auth with broker :=
    { auth.broker with nextAttempt := attempt, pendingRequest := some request } })

variable (authority : TransitionAuthority)

def matchTransitionAuthority (frozen : FrozenReconcileRequest) :
    Except BrokerError Unit := do
  ensure (authority.requestFingerprint == (p.json.requestDigest frozen.request).value &&
    decide (authority.sourceIdentity = frozen.request.sourceIdentity) &&
    authority.sourceDeviceId == frozen.sourceDeviceId &&
    authority.sourceScopeFingerprint == frozen.sourceScopeFingerprint &&
    decide (authority.expectedSessionGeneration = frozen.request.expectedSessionGeneration))
    .identityMismatch
  ensure frozen.request.targetIdentity.valid .api
  ensure (decide (authority.targetIdentity = frozen.request.targetIdentity.toIdentity none) &&
    authority.cleanupContractVersion == frozen.request.cleanupContractVersion) .identityMismatch

def ownsScope : Bool :=
  auth.authEpoch == authority.sourceAuthEpoch && auth.broker.family == authority.sourceFamily &&
    decide (auth.confirmedIdentity = authority.sourceIdentity) &&
    decide (auth.broker.confirmedDeviceId = some authority.sourceDeviceId) &&
    decide (auth.sessionGeneration = authority.expectedSessionGeneration)

def matchCurrentTransitionScope : Except BrokerError Unit := do
  active auth
  ensure (ownsScope auth authority) .cancelled

def matchCurrentTransitionSource : Except BrokerError Unit := do
  matchCurrentTransitionScope auth authority
  ensure (auth.broker.pendingRequest.isNone && auth.broker.pendingRecovery.isNone &&
    auth.broker.pendingLogout.isNone &&
    decide (auth.accessToken = some authority.cleanupAccessProof) &&
    decide (auth.refreshToken = some authority.resumeRefreshProof)) .cancelled

def ensureTransitionIssuanceAllowed (allowed : Option String) : Except BrokerError Unit :=
  ensure (auth.broker.transitionAuthorities.all fun authority =>
    !(authority.resumeEvidence.isNone && authority.supersededBy.isNone && ownsScope auth authority &&
      decide (allowed ≠ some authority.reconcileOperationId))) .recoveryRequired

def newAuthority (source : TransitionSource) (frozen : FrozenReconcileRequest)
    (accessProof refreshProof : String) : TransitionAuthority where
  reconcileOperationId := frozen.request.operationId
  requestFingerprint := (p.json.requestDigest frozen.request).value
  sourceAuthEpoch := source.authEpoch
  sourceFamily := source.family
  sourceIdentity := source.identity
  sourceDeviceId := source.deviceId
  sourceScopeFingerprint := source.scopeFingerprint
  expectedSessionGeneration := source.expectedSessionGeneration
  targetIdentity := frozen.request.targetIdentity.toIdentity none
  cleanupContractVersion := frozen.request.cleanupContractVersion
  cleanupAccessProof := accessProof
  resumeRefreshProof := refreshProof
  legacyRefreshCompleted := false
  supersededBy := none
  dispatchState := .captured
  reconcileReceipt := none
  resumeTicket := none
  resumeEvidence := none

def captureTransitionAuthority (frozen : FrozenReconcileRequest) :
    Except BrokerError AuthStore := do
  active auth
  ensureTransitionIssuanceAllowed auth (some frozen.request.operationId)
  ensure (auth.broker.pendingRequest.isNone && auth.broker.pendingRecovery.isNone &&
    auth.broker.pendingLogout.isNone && auth.pendingRuntimeSupersede.isNone &&
    decide (auth.broker.transitionAuthorities.length < maxTransitionAuthorities)) .recoveryRequired
  let source ← transitionSource p auth
  ensure (decide (frozen.request.sourceIdentity = source.identity) &&
    decide (frozen.request.expectedSessionGeneration = source.expectedSessionGeneration) &&
    frozen.sourceDeviceId == source.deviceId &&
    frozen.sourceScopeFingerprint == source.scopeFingerprint) .identityMismatch
  ensure frozen.request.targetIdentity.valid .api
  let access ← present auth.accessToken .recoveryRequired
  let refresh ← present auth.refreshToken .recoveryRequired
  pure (auth.pushAuthority (newAuthority p source frozen access refresh))

inductive BrokerAuthState where
  | active
  | recoveryRequired
  | logoutPending
  | loggedOut
  | authenticationOutcomeUnknown
  deriving DecidableEq

def isPristineAuth : Bool :=
  auth.authEpoch == 0 && auth.accessToken.isNone && auth.refreshToken.isNone &&
    auth.sessionGeneration.isNone && auth.confirmedIdentity.isNone && auth.pendingResume.isNone &&
    auth.completedRuntimeLogout.isNone && auth.pendingRuntimeSupersede.isNone &&
    auth.broker.nextAttempt == 0 && auth.broker.pendingRequest.isNone &&
    auth.broker.completedResume.isNone && auth.broker.pendingLogout.isNone &&
    auth.broker.pendingRecovery.isNone && auth.broker.cancelledLogin.isNone &&
    !auth.broker.authenticationOutcomeUnknown && auth.broker.pendingLoginAccount.isNone &&
    auth.broker.confirmedDeviceId.isNone && auth.broker.pendingPushCleanupEpoch.isNone &&
    auth.broker.transitionAuthorities.isEmpty

def loginPending : Bool := auth.broker.pendingRequest.any fun ticket => decide (ticket.kind = .login)

def observedState : BrokerAuthState :=
  if auth.broker.authenticationOutcomeUnknown then .authenticationOutcomeUnknown
  else
    match auth.logoutState with
    | .pending => .logoutPending
    | .loggedOut => .loggedOut
    | .active =>
      if isPristineAuth auth then .loggedOut
      else if loginPending auth then .authenticationOutcomeUnknown
      else if auth.broker.pendingRequest.isSome || auth.broker.pendingRecovery.isSome ||
          auth.confirmedIdentity.isNone || auth.accessToken.isNone then .recoveryRequired
      else .active

end Fences

section Outcomes

structure Write where
  record : AuthStore
  budgeted : Bool

abbrev Decided (α : Type) : Type := α × Option Write

variable {α : Type}

def reads (a : α) : Except BrokerError (Decided α) := .ok (a, none)

def saves (a : α) (record : AuthStore) : Except BrokerError (Decided α) :=
  .ok (a, some ⟨record, false⟩)

def savesTransition (a : α) (record : AuthStore) : Except BrokerError (Decided α) :=
  .ok (a, some ⟨record, true⟩)

/-- Whether a section saves a record. -/
def savesRecord : Except BrokerError (Decided α) → Bool
  | .ok (_, some _) => true
  | _ => false

structure Rotation where
  token : String
  ticket : BrokerRequest
  keyed : Bool

def rotated (auth : AuthStore) (response : TokenResponse) : AuthStore :=
  { auth with
    accessToken := some response.accessToken, refreshToken := some response.refreshToken
    broker := { auth.broker with pendingRequest := none } }

def settledRequest (auth : AuthStore) : AuthStore :=
  { auth with broker := { auth.broker with pendingRequest := none } }

end Outcomes

section Transitions

variable (p : Platform) (uuid : FreshUuid) (auth : AuthStore)

inductive SourceStep where
  | known (source : TransitionSource)
  | bootstrap (ticket : BrokerRequest) (access : String)
  | refresh

def sourceBegin : Except BrokerError (Decided SourceStep) := do
  active auth
  ensure (auth.broker.pendingRecovery.isNone && auth.broker.pendingLogout.isNone) .recoveryRequired
  if auth.confirmedIdentity.isSome then do
    ensure auth.broker.pendingRequest.isNone .recoveryRequired
    let source ← transitionSource p auth
    reads (.known source)
  else
    match auth.broker.pendingRequest with
    | some pending => do
      ensure (decide (pending.kind = .legacyBootstrap)) .recoveryRequired
      let access ← present auth.accessToken .recoveryRequired
      reads (.bootstrap pending access)
    | none =>
      match auth.accessToken with
      | some access => do
        let begun ← beginWithRefresh p auth .legacyBootstrap uuid.value none false false
        saves (.bootstrap begun.1 access) begun.2
      | none => reads .refresh

def bootstrapRejected (ticket : BrokerRequest) : Except BrokerError (Decided Unit) := do
  fenced auth ticket
  saves () (settledRequest auth)

def bootstrapAccepted (ticket : BrokerRequest) (device : AuthDevice) :
    Except BrokerError (Decided (Except BrokerError TransitionSource)) := do
  fenced auth ticket
  validLegacyDevice device auth.broker.confirmedDeviceId
  let record : AuthStore := { auth with broker :=
    { auth.broker with confirmedDeviceId := some device.id, pendingRequest := none } }
  saves (transitionSource p record) record

def sourceRead : Except BrokerError (Decided TransitionSource) := do
  let source ← transitionSource p auth
  reads source

def legacyBegin (allowed : Option String) : Except BrokerError (Decided Rotation) := do
  active auth
  ensureTransitionIssuanceAllowed auth allowed
  ensure (auth.broker.pendingRequest.isNone && auth.broker.pendingRecovery.isNone &&
    auth.broker.pendingLogout.isNone && auth.confirmedIdentity.isNone) .recoveryRequired
  let refresh ← present auth.refreshToken .recoveryRequired
  let begun ← beginWithRefresh p auth .legacyRefresh uuid.value none false false
  saves ⟨refresh, begun.1, false⟩ begun.2

def legacyRotated (response : TokenResponse) : AuthStore :=
  { rotated auth response with broker :=
    { auth.broker with confirmedDeviceId := some response.device.id, pendingRequest := none } }

def reproved (response : TokenResponse) (legacy : Bool) (authority : TransitionAuthority) :
    TransitionAuthority :=
  { authority with
    cleanupAccessProof := response.accessToken, resumeRefreshProof := response.refreshToken
    legacyRefreshCompleted := authority.legacyRefreshCompleted || legacy
    dispatchState := .dispatchIntent }

def legacyAccepted (ticket : BrokerRequest) (allowed : Option String) (response : TokenResponse) :
    Except BrokerError (Decided Unit) := do
  fenced auth ticket
  validLegacyDevice response.device auth.broker.confirmedDeviceId
  ensure (response.bearer && response.accessExpiresIn != 0 && response.refreshExpiresIn != 0)
    .identityMismatch
  match allowed with
  | some operationId => do
    let authority ← present (auth.authority operationId) .recoveryRequired
    ensure (decide (authority.dispatchState = .invalidAccessRejected) &&
      authority.sourceIdentity.isNone && !authority.legacyRefreshCompleted) .recoveryRequired
    matchCurrentTransitionScope auth authority
    savesTransition () ((legacyRotated auth response).modifyAuthority operationId
      (reproved response true))
  | none => saves () (legacyRotated auth response)

def boundBegin (operationId : String) : Except BrokerError (Decided Rotation) := do
  let authority ← present (auth.authority operationId) .recoveryRequired
  ensure (authority.sourceIdentity.isSome &&
    decide (authority.dispatchState = .invalidAccessRejected)) .recoveryRequired
  matchCurrentTransitionSource auth authority
  ensureTransitionIssuanceAllowed auth (some operationId)
  let begun ← beginWithRefresh p auth .refresh uuid.value none false false
  saves ⟨authority.resumeRefreshProof, begun.1, false⟩ begun.2

def boundAccepted (ticket : BrokerRequest) (operationId : String) (response : TokenResponse) :
    Except BrokerError (Decided Unit) := do
  fenced auth ticket
  let confirmed ← present response.device.confirmedIdentity .api
  ensure (decide (some confirmed = ticket.sourceIdentity) &&
    decide (ticket.sourceDeviceId = some response.device.id) && response.bearer &&
    response.accessExpiresIn != 0 && response.refreshExpiresIn != 0) .identityMismatch
  let authority ← present (auth.authority operationId) .recoveryRequired
  matchCurrentTransitionScope auth authority
  ensure (decide (authority.dispatchState = .invalidAccessRejected)) .recoveryRequired
  savesTransition () ((rotated auth response).modifyAuthority operationId (reproved response false))

def captureOrReceipt (frozen : FrozenReconcileRequest) :
    Except BrokerError (Decided (Option TransitionReconcileReceipt)) :=
  match auth.authority frozen.request.operationId with
  | some authority => do
    matchTransitionAuthority p authority frozen
    reads (authority.reconcileReceipt.filter fun receipt => decide (receipt.state = .clean))
  | none => do
    let record ← captureTransitionAuthority p auth frozen
    savesTransition none record

inductive DispatchStep where
  | refresh (bound : Bool)
  | dispatch (authority : TransitionAuthority) (mayRefresh recheckCurrent : Bool)

def dispatched (authority : TransitionAuthority) : TransitionAuthority :=
  { authority with reconcileReceipt := none, dispatchState := .dispatchIntent }

def dispatchBegin (frozen : FrozenReconcileRequest) :
    Except BrokerError (Decided DispatchStep) := do
  let authority ← present (auth.authority frozen.request.operationId) .recoveryRequired
  matchTransitionAuthority p authority frozen
  if authority.dispatchState = .invalidAccessRejected then do
    ensure (authority.sourceIdentity.isSome || !authority.legacyRefreshCompleted) .recoveryRequired
    matchCurrentTransitionScope auth authority
    ensure auth.broker.pendingRequest.isNone .recoveryRequired
    reads (.refresh authority.sourceIdentity.isSome)
  else do
    let recheck := decide (authority.dispatchState = .captured)
    if recheck then matchCurrentTransitionSource auth authority else pure ()
    ensure (authority.reconcileReceipt.all fun receipt => decide (receipt.state = .retry))
      .recoveryRequired
    savesTransition
      (.dispatch (dispatched authority)
        ((recheck || decide (authority.dispatchState = .responseKnown)) &&
          (authority.sourceIdentity.isSome || !authority.legacyRefreshCompleted)) recheck)
      (auth.modifyAuthority frozen.request.operationId dispatched)

def afterRefresh (frozen : FrozenReconcileRequest) (bound : Bool) :
    Except BrokerError (Decided TransitionAuthority) := do
  let authority ← present (auth.authority frozen.request.operationId) .recoveryRequired
  matchTransitionAuthority p authority frozen
  matchCurrentTransitionScope auth authority
  ensure ((bound || authority.legacyRefreshCompleted) &&
    decide (authority.dispatchState = .dispatchIntent)) .recoveryRequired
  reads authority

def matchSource (authority : TransitionAuthority) : Except BrokerError (Decided Unit) := do
  matchCurrentTransitionSource auth authority
  reads ()

def storedReceipt (response : ReconcileResponse) : TransitionReconcileReceipt :=
  ⟨response.state, response.operationId, response.retiredLeaseIds, response.retiredSessionIds,
    response.retiredOperationIds, response.retryAfterSeconds⟩

def answered (response : ReconcileResponse) (authority : TransitionAuthority) :
    TransitionAuthority :=
  { authority with
    dispatchState := .responseKnown, reconcileReceipt := some (storedReceipt response) }

def reconcileAnswered (frozen : FrozenReconcileRequest) (response : ReconcileResponse) :
    Except BrokerError (Decided Unit) := do
  let authority ← present (auth.authority frozen.request.operationId) .recoveryRequired
  matchTransitionAuthority p authority frozen
  savesTransition () (auth.modifyAuthority frozen.request.operationId (answered response))

def failedDispatch (state : TransitionDispatchState) (authority : TransitionAuthority) :
    TransitionAuthority := { authority with dispatchState := state }

def reconcileFailed (operationId : String) (state : TransitionDispatchState) :
    Except BrokerError (Decided Unit) := do
  let _ ← present (auth.authority operationId) .recoveryRequired
  savesTransition () (auth.modifyAuthority operationId (failedDispatch state))

def unresolved (current : TransitionSource) : List TransitionAuthority :=
  auth.broker.transitionAuthorities.filter fun entry =>
    entry.sourceAuthEpoch == current.authEpoch && entry.sourceFamily == current.family &&
      decide (entry.sourceIdentity = current.identity) && entry.sourceDeviceId == current.deviceId &&
      entry.resumeEvidence.isNone && entry.supersededBy.isNone

/-- The checks of `prepare_completed_apply_reconcile` on the supersede of an earlier version. -/
def legacySupersedeFits (predecessor : FrozenReconcileRequest) (authority : TransitionAuthority)
    (current : TransitionSource) (legacy : Option (String × RuntimeTarget)) : Except BrokerError Unit :=
  match auth.pendingRuntimeSupersede with
  | none => pure ()
  | some ticket => do
    let legacy ← present legacy .recoveryRequired
    ensure legacy.2.valid .api
    ensure (ticket.operationId == legacy.1 &&
      ticket.supersededReconcileOperationId == predecessor.request.operationId &&
      decide (ticket.targetIdentity = legacy.2.toIdentity none) &&
      decide (ticket.expectedSessionGeneration = current.expectedSessionGeneration) &&
      decide (ticket.source = logoutSource current) &&
      decide (auth.refreshToken = some ticket.refreshProof) && ticket.responseState.isNone &&
      ticket.responseReconcileOperationId.isNone && ticket.retryAfterSeconds.isNone &&
      !generationLe ticket.expectedSessionGeneration authority.expectedSessionGeneration)
      .recoveryRequired

def prepareCompletedApplyReconcile (predecessor : FrozenReconcileRequest) (resumeOperationId : String)
    (target : RuntimeTarget) (legacy : Option (String × RuntimeTarget)) :
    Except BrokerError (Decided FrozenReconcileRequest) := do
  let current ← transitionSource p auth
  let authority ← present (auth.authority predecessor.request.operationId) .recoveryRequired
  matchTransitionAuthority p authority predecessor
  let evidence ← present authority.resumeEvidence .recoveryRequired
  let done ← present auth.broker.completedResume .recoveryRequired
  ensure (evidence.operationId == resumeOperationId && decide (evidence.decision = .apply) &&
    decide (authority.resumeTicket = some done.request) && decide (done.identity = evidence.identity) &&
    decide (current.identity = some evidence.identity) &&
    current.authEpoch == authority.sourceAuthEpoch && current.family == authority.sourceFamily &&
    current.deviceId == authority.sourceDeviceId &&
    decide (auth.accessToken = some evidence.accessToken) && authority.supersededBy.isNone &&
    auth.broker.pendingRequest.isNone && auth.broker.pendingRecovery.isNone &&
    auth.broker.pendingLogout.isNone && auth.pendingResume.isNone &&
    auth.completedRuntimeLogout.isNone) .recoveryRequired
  ensure (legacy.all fun legacy => legacy.1 != resumeOperationId &&
    auth.broker.transitionAuthorities.all fun entry => entry.reconcileOperationId != legacy.1)
    .recoveryRequired
  legacySupersedeFits auth predecessor authority current legacy
  let request : ReconcileRequest :=
    { predecessor.request with
      sourceIdentity := current.identity
      expectedSessionGeneration := current.expectedSessionGeneration }
  let released : AuthStore := { auth with pendingRuntimeSupersede := none }
  match unresolved auth current with
  | [] => do
    let frozen ← FrozenReconcileRequest.new p.json
      { request with operationId := uuid.value, targetIdentity := target } current
    let record ← captureTransitionAuthority p released frozen
    savesTransition frozen record
  | [entry] => do
    ensure (decide (entry.dispatchState = .captured) && entry.reconcileReceipt.isNone &&
      entry.resumeTicket.isNone) .recoveryRequired
    let frozen ← FrozenReconcileRequest.new p.json
      { request with
        operationId := entry.reconcileOperationId
        targetIdentity := RuntimeTarget.fromIdentity entry.targetIdentity } current
    matchTransitionAuthority p entry frozen
    savesTransition frozen released
  | _ => .error .recoveryRequired

inductive SupersedeStep where
  | answered (response : SupersedeResponse)
  | send (ticket : PendingRuntimeSupersede)

def requestOnly (ticket : PendingRuntimeSupersede) : PendingRuntimeSupersede :=
  { ticket with responseState := none, responseReconcileOperationId := none, retryAfterSeconds := none }

def supersedeBegin (operationId : String) (predecessor : FrozenReconcileRequest) (target : RuntimeTarget) :
    Except BrokerError (Decided SupersedeStep) := do
  active auth
  let current ← transitionSource p auth
  ensure current.identity.isSome .recoveryRequired
  let authority ← present (auth.authority predecessor.request.operationId) .recoveryRequired
  matchTransitionAuthority p authority predecessor
  ensure (authority.isClean && (decide (authority.sourceIdentity = current.identity) ||
    decide (authority.resumeEvidence.map (·.identity) = current.identity))) .recoveryRequired
  let refresh ← present auth.refreshToken .recoveryRequired
  let expected : PendingRuntimeSupersede :=
    ⟨operationId, predecessor.request.operationId, current.identity.bind (·.sessionGeneration),
      target.toIdentity none, logoutSource current, refresh, none, none, none⟩
  match auth.pendingRuntimeSupersede with
  | none => savesTransition (.send expected) { auth with pendingRuntimeSupersede := some expected }
  | some saved => do
    ensure (decide (requestOnly saved = expected)) .recoveryRequired
    match saved.responseState, saved.responseReconcileOperationId with
    | some .clean, some reconcileOperationId =>
      reads (.answered ⟨.clean, reconcileOperationId, saved.retryAfterSeconds⟩)
    | some .retry, some _ =>
      savesTransition (.send expected) { auth with pendingRuntimeSupersede := some expected }
    | _, _ => reads (.send saved)

def successorAuthority (current : TransitionSource) (successor : FrozenReconcileRequest)
    (accessProof refreshProof : String) : TransitionAuthority :=
  { newAuthority p current successor accessProof refreshProof with
    dispatchState := .responseKnown
    reconcileReceipt := some ⟨.clean, successor.request.operationId, [], [], [], none⟩ }

def supersedeAnswered (ticket : PendingRuntimeSupersede) (predecessor : FrozenReconcileRequest)
    (target : RuntimeTarget) (response : SupersedeResponse) : Except BrokerError (Decided Unit) := do
  ensure (decide (auth.pendingRuntimeSupersede = some ticket)) .cancelled
  let current ← transitionSource p auth
  ensure (decide (logoutSource current = ticket.source)) .cancelled
  let reported : PendingRuntimeSupersede :=
    { ticket with
      responseState := some response.state
      responseReconcileOperationId := some response.reconcileOperationId
      retryAfterSeconds := response.retryAfterSeconds }
  match response.state with
  | .retry => savesTransition () { auth with pendingRuntimeSupersede := some reported }
  | .clean => do
    let successor ← FrozenReconcileRequest.new p.json
      { predecessor.request with
        operationId := response.reconcileOperationId, sourceIdentity := current.identity
        expectedSessionGeneration := current.expectedSessionGeneration
        targetIdentity := target } current
    let access ← present auth.accessToken .recoveryRequired
    ensure (decide (auth.broker.transitionAuthorities.length < maxTransitionAuthorities)) .recoveryRequired
    let _ ← present (auth.authority ticket.supersededReconcileOperationId) .recoveryRequired
    ensure target.valid .api
    savesTransition ()
      ({ auth with pendingRuntimeSupersede := some reported }.modifyAuthority
          ticket.supersededReconcileOperationId
          (fun authority => { authority with supersededBy := some response.reconcileOperationId })
        |>.pushAuthority (successorAuthority p current successor access ticket.refreshProof))

def finishSupersede (operationId reconcileOperationId : String) :
    Except BrokerError (Decided Unit) :=
  match auth.pendingRuntimeSupersede with
  | none => reads ()
  | some ticket => do
    ensure (ticket.operationId == operationId && decide (ticket.responseState = some .clean) &&
      decide (ticket.responseReconcileOperationId = some reconcileOperationId)) .recoveryRequired
    savesTransition () { auth with pendingRuntimeSupersede := none }

/-- One pass that adds what `next` names for the entries that are in the set. -/
def sweep (authorities : List TransitionAuthority)
    (next : List String → TransitionAuthority → Option String) (marked : List String) : List String :=
  authorities.foldl (fun marked entry =>
    match next marked entry with
    | some id => if id ∈ marked then marked else id :: marked
    | none => marked) marked

def closure (authorities : List TransitionAuthority)
    (next : List String → TransitionAuthority → Option String) (marked : List String) : List String :=
  (sweep authorities next)^[authorities.length] marked

def terminalAuthorities (authorities : List TransitionAuthority) : List String :=
  closure authorities
    (fun terminal entry =>
      if entry.supersededBy.any (fun successor => decide (successor ∈ terminal)) then
        some entry.reconcileOperationId else none)
    ((authorities.filter (·.resumeEvidence.isSome)).map (·.reconcileOperationId))

def retainedAuthorities (authorities : List TransitionAuthority) (roots : List String) :
    List String :=
  closure authorities
    (fun retained entry =>
      if entry.reconcileOperationId ∈ retained then entry.supersededBy else none)
    ((authorities.filter fun entry =>
      decide (entry.reconcileOperationId ∉ terminalAuthorities authorities) ||
        decide (entry.reconcileOperationId ∈ roots)).map (·.reconcileOperationId))

def retireCompletedTransitions (journalOperation : String) (activeReconcile : Option String) :
    Except BrokerError (Decided Unit) :=
  if auth.broker.pendingRequest.isSome || auth.broker.pendingRecovery.isSome ||
      auth.broker.pendingLogout.isSome || auth.pendingRuntimeSupersede.isSome ||
      auth.completedRuntimeLogout.isSome then reads ()
  else
    let authorities := auth.broker.transitionAuthorities
    let completed := (auth.broker.completedResume.bind (·.request.resume)).map (·.reconcileOperationId)
    let retained := retainedAuthorities authorities
      (journalOperation :: (activeReconcile.toList ++ completed.toList))
    if authorities.all fun entry => decide (entry.reconcileOperationId ∈ retained) then reads ()
    else
      savesTransition () { auth with broker := { auth.broker with
        transitionAuthorities :=
          authorities.filter fun entry => decide (entry.reconcileOperationId ∈ retained) } }

def restoreTransitionRequest (request : ReconcileRequest) (fingerprint : String) :
    Except BrokerError (Decided FrozenReconcileRequest) := do
  let authority ← present (auth.authority request.operationId) .recoveryRequired
  let frozen ← FrozenReconcileRequest.fromPersisted p.json
    { request with
      sourceIdentity := authority.sourceIdentity
      expectedSessionGeneration := authority.expectedSessionGeneration }
    authority.sourceDeviceId authority.sourceScopeFingerprint (some fingerprint)
  matchTransitionAuthority p authority frozen
  reads frozen

def recheckTicket (ticket : BrokerRequest) : Except BrokerError (Decided Unit) := do
  fenced auth ticket
  reads ()

end Transitions

section Logins

variable (p : Platform) (uuid : FreshUuid) (auth : AuthStore)

def captureLoginFence (stamp : Option ScopeStamp) : Except BrokerError (Decided LoginFence) := do
  checkStamp auth stamp
  reads ⟨auth.authEpoch, auth.broker.family⟩

def loginBegin (fence : LoginFence) (login : String) :
    Except BrokerError (Decided BrokerRequest) := do
  ensure (auth.authEpoch == fence.epoch && auth.broker.family == fence.family) .cancelled
  ensure auth.broker.pendingLogout.isNone .recoveryRequired
  let controlledUnknown := auth.broker.authenticationOutcomeUnknown || loginPending auth
  ensure (!controlledUnknown || decide (auth.broker.pendingLoginAccount = some login)) .recoveryRequired
  let fresh := decide (auth.logoutState = .active) && auth.accessToken.isNone &&
    auth.refreshToken.isNone && auth.confirmedIdentity.isNone
  ensure (decide (auth.logoutState = .loggedOut) || controlledUnknown || fresh) .recoveryRequired
  let epoch ← present (checkedSucc auth.authEpoch) .recoveryRequired
  let entered : AuthStore :=
    { auth with
      authEpoch := epoch, logoutState := .active
      broker :=
        { auth.broker with
          authenticationOutcomeUnknown := false, cancelledLogin := none, pendingRecovery := none
          pendingLoginAccount := some login } }
  let begun ← beginWithRefresh p entered .login uuid.value none controlledUnknown false
  saves begun.1 begun.2

variable (ticket : BrokerRequest)

def loginFailed (knownNotIssued : Bool) : Except BrokerError (Decided Unit) :=
  if ownsTicket auth ticket then
    if knownNotIssued && !ticket.priorLoginOutcomeUnknown then
      saves ()
        { auth with
          logoutState := .loggedOut
          broker :=
            { auth.broker with
              pendingRequest := none, pendingLoginAccount := none
              authenticationOutcomeUnknown := false } }
    else saves () { auth with broker := { auth.broker with authenticationOutcomeUnknown := true } }
  else reads ()

def invalidLogin (target : RuntimeTarget) (response : TokenResponse) : Bool :=
  match response.device.confirmedIdentity with
  | none => true
  | some identity =>
    decide (RuntimeTarget.fromIdentity identity ≠ target) || !response.bearer ||
      response.device.id.isEmpty || response.accessExpiresIn == 0 ||
      (decide (ticket.sourceDeviceId = some response.device.id) &&
        generationLe identity.sessionGeneration (ticket.sourceIdentity.bind (·.sessionGeneration)))

inductive LoginStep where
  | signedIn (access : Except BrokerError AccessSnapshot)
  | refused (error : BrokerError)
  | revoke (error : BrokerError)

def signedIn (response : TokenResponse) (confirmed : RuntimeIdentity) : AuthStore :=
  { auth with
    accessToken := some response.accessToken, refreshToken := some response.refreshToken
    sessionGeneration := confirmed.sessionGeneration, confirmedIdentity := some confirmed
    broker :=
      { auth.broker with
        family := uuid.value, pendingRequest := none, completedResume := none
        pendingLoginAccount := none, confirmedDeviceId := some response.device.id
        pendingPushCleanupEpoch := none } }

def unwanted (refreshProof : String) : AuthStore :=
  { auth with broker :=
    { auth.broker with
      pendingLogout := some ⟨uuid.value, refreshProof, none⟩, cancelledLogin := none
      pendingRequest := none, authenticationOutcomeUnknown := false } }

def endedSource : Bool :=
  decide (auth.logoutState = .pending) && decide (auth.confirmedIdentity = ticket.sourceIdentity) &&
    decide (auth.broker.confirmedDeviceId = ticket.sourceDeviceId)

def loginCancelled : Bool :=
  endedSource auth ticket && decide (some auth.authEpoch = checkedSucc ticket.authEpoch) &&
    decide (auth.broker.cancelledLogin = some ticket)

def loginAnswered (target : RuntimeTarget) (response : TokenResponse) :
    Except BrokerError (Decided LoginStep) := do
  ensure (!endedSource auth ticket || (checkedSucc ticket.authEpoch).isSome) .recoveryRequired
  if loginCancelled auth ticket || (ownsTicket auth ticket && invalidLogin ticket target response) then
    if !boundedText 256 response.refreshToken then
      if ownsTicket auth ticket then
        saves (.refused .identityMismatch)
          { auth with broker := { auth.broker with authenticationOutcomeUnknown := true } }
      else .error .identityMismatch
    else if ownsTicket auth ticket then do
      let epoch ← present (checkedSucc auth.authEpoch) .recoveryRequired
      saves (.revoke .identityMismatch)
        (unwanted uuid { auth with authEpoch := epoch, logoutState := .pending } response.refreshToken)
    else saves (.revoke .cancelled) (unwanted uuid auth response.refreshToken)
  else do
    fenced auth ticket
    let confirmed ← present response.device.confirmedIdentity .api
    saves (.signedIn (snapshot (signedIn uuid auth response confirmed)))
      (signedIn uuid auth response confirmed)

end Logins

section Refreshes

variable (p : Platform) (uuid : FreshUuid) (auth : AuthStore)
variable (stamp : Option ScopeStamp) (ticket : BrokerRequest)

def accessCheck : Except BrokerError (Decided Unit) := do
  checkStamp auth stamp
  active auth
  ensureTransitionIssuanceAllowed auth none
  reads ()

def stampCheck : Except BrokerError (Decided Unit) := do
  checkStamp auth stamp
  reads ()

inductive AccessStep where
  | current (access : AccessSnapshot)
  | refresh (ticket : BrokerRequest) (token : String)

def accessBegin (stale : Option AccessSnapshot) : Except BrokerError (Decided AccessStep) := do
  checkStamp auth stamp
  active auth
  ensureTransitionIssuanceAllowed auth none
  ensure (auth.broker.pendingRequest.isNone && auth.broker.pendingRecovery.isNone) .recoveryRequired
  let current ← snapshot auth
  match stale with
  | none => reads (.current current)
  | some stale => do
    ensure (decide (stale.identity = current.identity) && stale.authEpoch == current.authEpoch &&
      stale.family == current.family) .cancelled
    if stale.accessToken ≠ current.accessToken then reads (.current current)
    else do
      let refresh ← present auth.refreshToken .recoveryRequired
      let begun ← beginWithRefresh p auth .refresh uuid.value none false true
      saves (.refresh begun.1 refresh) begun.2

def refreshAccepted (response : TokenResponse) :
    Except BrokerError (Decided (Except BrokerError AccessSnapshot)) := do
  fenced auth ticket
  let confirmed ← present response.device.confirmedIdentity .api
  ensure (decide (some confirmed = ticket.sourceIdentity) &&
    decide (ticket.sourceDeviceId = some response.device.id) && response.bearer &&
    response.accessExpiresIn != 0) .identityMismatch
  saves (snapshot (rotated auth response)) (rotated auth response)

def snapshotRead : Except BrokerError (Decided AccessSnapshot) := do
  let access ← snapshot auth
  reads access

structure RecoverRequest where
  ticket : BrokerRequest
  deviceId : String
  sourceIdentity : RuntimeIdentity
  mode : RefreshMode
  refreshToken : String

def recoverRequest : Except BrokerError RecoverRequest := do
  let refresh ← present ticket.refresh .recoveryRequired
  let deviceId ← present ticket.sourceDeviceId .recoveryRequired
  let identity ← present ticket.sourceIdentity .recoveryRequired
  let token ← present auth.refreshToken .recoveryRequired
  pure ⟨ticket, deviceId, identity, refresh.mode, token⟩

def keyedTicket : BrokerRequest := { ticket with refresh := some ⟨1, .recoverLegacyPending⟩ }

def recoverBegin : Except BrokerError (Decided (Option (Except BrokerError RecoverRequest))) :=
  match auth.broker.pendingRequest with
  | none => reads none
  | some ticket =>
    if ticket.kind ≠ .refresh then reads none
    else do
      active auth
      ensureTransitionIssuanceAllowed auth none
      ensure (ownsTicket auth ticket) .cancelled
      ensure (auth.broker.pendingLogout.isNone && auth.broker.pendingRecovery.isNone) .recoveryRequired
      if ticket.refresh.isNone then
        saves (some (recoverRequest auth (keyedTicket ticket)))
          { auth with broker := { auth.broker with pendingRequest := some (keyedTicket ticket) } }
      else reads (some (recoverRequest auth ticket))

inductive RecoverStep where
  | mismatch
  | saved (done : Bool)

def recoverAccepted (request : RecoverRequest) (response : TokenResponse) :
    Except BrokerError (Decided RecoverStep) := do
  fenced auth request.ticket
  if decide (response.device.confirmedIdentity ≠ some request.sourceIdentity) ||
      response.device.id != request.deviceId || !response.bearer || response.refreshExpiresIn == 0 then
    reads .mismatch
  else if response.accessExpiresIn = 0 then do
    let begun ← beginWithRefresh p (rotated auth response) .refresh uuid.value none false true
    saves (.saved false) begun.2
  else saves (.saved true) (rotated auth response)

end Refreshes

section Resumes

variable (p : Platform) (uuid : FreshUuid) (auth : AuthStore)

inductive ResumeStep where
  | done (access : AccessSnapshot)
  | send (ticket : BrokerRequest) (refresh : String)

def resumeBegin (operationId : String) (stored : StoredResumeArguments) (transition : Option String)
    (allowNew : Bool) : Except BrokerError (Decided ResumeStep) := do
  active auth
  ensureTransitionIssuanceAllowed auth transition
  match auth.broker.completedResume.filter (·.request.operationId == operationId) with
  | some done => do
    ensure (auth.broker.pendingRequest.isNone && auth.broker.pendingRecovery.isNone) .recoveryRequired
    ensure (decide (done.request.resume = some stored) && done.request.authEpoch == auth.authEpoch &&
      decide (auth.confirmedIdentity = some done.identity)) .cancelled
    let access ← snapshot auth
    reads (.done access)
  | none => do
    ensure (decide (auth.sessionGeneration = stored.expectedSessionGeneration)) .identityMismatch
    match auth.broker.pendingRequest with
    | some pending =>
      ensure (decide (pending.kind = .resume) && pending.operationId == operationId &&
        decide (pending.resume = some stored) && pending.authEpoch == auth.authEpoch &&
        decide (pending.sourceIdentity = auth.confirmedIdentity)) .cancelled
    | none => ensure allowNew .recoveryRequired
    let refresh ← present auth.refreshToken .recoveryRequired
    let begun ← beginWithRefresh p auth .resume operationId (some stored) false false
    saves (.send begun.1 refresh) begun.2

variable (arguments : ResumeArguments)

def resumeFits (response : ResumeResponse) : Except BrokerError Unit := do
  let generation ← present (checkedSucc (arguments.expectedSessionGeneration.getD 0)) .identityMismatch
  ensure (decide (RuntimeTarget.fromIdentity response.identity = arguments.target) &&
    decide (response.identity.sessionGeneration = some generation) &&
    response.tokenType == "Bearer" && !response.accessToken.isEmpty && response.accessExpiresIn != 0)
    .identityMismatch

def evidenceOf (response : ResumeResponse) : TransitionResumeEvidence :=
  ⟨arguments.operationId, arguments.reconcileOperationId, arguments.decision,
    arguments.target.toIdentity none, response.identity, response.accessToken, response.tokenType,
    response.accessExpiresIn⟩

variable (ticket : BrokerRequest)

def resumed (response : ResumeResponse) : AuthStore :=
  { auth with
    sessionGeneration := response.identity.sessionGeneration
    confirmedIdentity := some response.identity, accessToken := some response.accessToken
    broker :=
      { auth.broker with
        pendingRecovery := none, completedResume := some ⟨ticket, response.identity⟩
        pendingRequest := none } }

def resumeAccepted (arguments : ResumeArguments) (transition : Option String)
    (response : ResumeResponse) : Except BrokerError (Decided (Except BrokerError AccessSnapshot)) := do
  fenced auth ticket
  resumeFits arguments response
  match transition with
  | none => saves (snapshot (resumed auth ticket response)) (resumed auth ticket response)
  | some operationId => do
    let _ ← present (auth.authority operationId) .recoveryRequired
    ensure arguments.target.valid .api
    savesTransition (snapshot (resumed auth ticket response))
      ((resumed auth ticket response).modifyAuthority operationId fun authority =>
        { authority with
          resumeTicket := some ticket, resumeEvidence := some (evidenceOf arguments response) })

inductive LookupStep where
  | receipt (identity : RuntimeIdentity) (access : Option AccessSnapshot)
  | historical (ticket : BrokerRequest) (refresh : String)
  | current

def transitionLookup : Except BrokerError (Decided LookupStep) := do
  let authority ← present (auth.authority arguments.reconcileOperationId) .recoveryRequired
  let expected ← present (authority.resumeTarget arguments.decision) .identityMismatch
  ensure (authority.isClean && !authority.sourceDeviceId.isEmpty &&
    decide (authority.expectedSessionGeneration = arguments.expectedSessionGeneration)) .identityMismatch
  ensure arguments.target.valid .api
  ensure (decide (expected = arguments.target.toIdentity none)) .identityMismatch
  match authority.resumeEvidence with
  | some evidence => do
    ensure (evidence.operationId == arguments.operationId &&
      evidence.reconcileOperationId == arguments.reconcileOperationId &&
      decide (evidence.decision = arguments.decision) &&
      decide (evidence.targetIdentity = expected)) .cancelled
    if auth.broker.completedResume.any (fun done =>
          done.request.operationId == arguments.operationId &&
            decide (done.identity = evidence.identity)) &&
        decide (auth.confirmedIdentity = some evidence.identity) &&
        decide (auth.accessToken = some evidence.accessToken) then do
      let access ← snapshot auth
      reads (.receipt evidence.identity (some access))
    else reads (.receipt evidence.identity none)
  | none =>
    if authority.sourceAuthEpoch == auth.authEpoch && authority.sourceFamily == auth.broker.family &&
        decide (authority.sourceIdentity = auth.confirmedIdentity) &&
        decide (auth.broker.confirmedDeviceId = some authority.sourceDeviceId) then reads .current
    else do
      let ticket ← present authority.resumeTicket .identityMismatch
      let stored ← storedArguments arguments
      ensure (ticket.operationId == arguments.operationId && decide (ticket.resume = some stored))
        .cancelled
      reads (.historical ticket authority.resumeRefreshProof)

def archivedTicket (reconcileOperationId : String) (ticket : BrokerRequest) :
    Except BrokerError Unit := do
  let authority ← present (auth.authority reconcileOperationId) .recoveryRequired
  ensure (decide (authority.resumeTicket = some ticket) && authority.resumeEvidence.isNone) .cancelled

def historicalCheck : Except BrokerError (Decided Unit) := do
  archivedTicket auth arguments.reconcileOperationId ticket
  reads ()

def historicalAccepted
    (response : ResumeResponse) : Except BrokerError (Decided Unit) := do
  archivedTicket auth arguments.reconcileOperationId ticket
  ensure arguments.target.valid .api
  savesTransition () (auth.modifyAuthority arguments.reconcileOperationId fun authority =>
    { authority with resumeEvidence := some (evidenceOf arguments response) })

def resumeIsUndispatched (operationId : String) : Except BrokerError (Decided Bool) := do
  active auth
  let authority ← present (auth.authority operationId) .recoveryRequired
  reads (auth.broker.pendingRequest.isNone && auth.broker.pendingRecovery.isNone &&
    authority.resumeTicket.isNone && authority.resumeEvidence.isNone)

end Resumes

section Logouts

variable (p : Platform) (uuid : FreshUuid) (auth : AuthStore)

def stagePushCleanup (epoch : ℕ) : Except BrokerError (Decided Unit) := do
  ensure (auth.authEpoch == epoch && (decide (auth.logoutState = .pending) ||
    (decide (auth.logoutState = .loggedOut) &&
      decide (auth.broker.pendingPushCleanupEpoch = some epoch)))) .cancelled
  saves () { auth with broker := { auth.broker with pendingPushCleanupEpoch := some epoch } }

def finishPushCleanup (epoch : ℕ) : Except BrokerError (Decided Unit) :=
  match auth.broker.pendingPushCleanupEpoch with
  | none => reads ()
  | some pending => do
    ensure (pending == epoch) .cancelled
    saves () { auth with broker := { auth.broker with pendingPushCleanupEpoch := none } }

inductive LogoutStep where
  | repeated (epoch : ℕ) (retryPush : Bool)
  | neverAuthenticated
  | revoke (epoch : ℕ) (proof : Option PendingLogout)

/-- Whether a stamp that has lapsed was overtaken by the login that is to be cancelled. -/
def overtaken (stamp : ScopeStamp) (ticket : BrokerRequest) : Bool :=
  decide (ticket.kind = .login) && ownsTicket auth ticket &&
    decide (checkedSucc stamp.epoch = some ticket.authEpoch) &&
    decide (stamp.identity = ticket.sourceIdentity) && auth.broker.family == stamp.family

def neverAuthenticated : Bool :=
  auth.confirmedIdentity.isNone && auth.accessToken.isNone && auth.refreshToken.isNone &&
    !auth.broker.authenticationOutcomeUnknown && auth.broker.pendingRequest.isNone &&
    auth.broker.cancelledLogin.isNone

def cancelLogin : AuthStore :=
  if loginPending auth then
    { auth with broker :=
      { auth.broker with
        cancelledLogin := auth.broker.pendingRequest, pendingRequest := none
        authenticationOutcomeUnknown := true } }
  else auth

def archiveResume : Except BrokerError AuthStore :=
  match auth.broker.pendingRequest.filter fun ticket => decide (ticket.kind = .resume) with
  | none => pure auth
  | some ticket => do
    let resume ← present ticket.resume .recoveryRequired
    let authority ← present (auth.authority resume.reconcileOperationId) .recoveryRequired
    ensure (authority.sourceAuthEpoch == ticket.authEpoch &&
      decide (authority.sourceIdentity = ticket.sourceIdentity) &&
      decide (ticket.sourceDeviceId = some authority.sourceDeviceId) &&
      authority.resumeTicket.all (fun saved => decide (saved = ticket))) .recoveryRequired
    pure (auth.modifyAuthority resume.reconcileOperationId fun authority =>
      { authority with resumeTicket := some ticket })

def loggingOut (epoch : ℕ) (proof : Option PendingLogout) : AuthStore :=
  { auth with
    authEpoch := epoch, logoutState := .pending
    broker :=
      { auth.broker with pendingRequest := none, pendingRecovery := none, pendingLogout := proof } }

def logoutFence (stamp : Option ScopeStamp) (pendingLogin : Option BrokerRequest) :
    Except BrokerError (Decided LogoutStep) := do
  ensure (stamp.all fun stamp =>
    decide (stamp = stampOf auth) || pendingLogin.any (overtaken auth stamp)) .cancelled
  match auth.logoutState with
  | .loggedOut => do
    let epoch ← present (checkedSucc auth.authEpoch) .recoveryRequired
    saves (.repeated epoch auth.broker.pendingPushCleanupEpoch.isSome)
      { auth with
        authEpoch := epoch, broker := { auth.broker with
          pendingPushCleanupEpoch := auth.broker.pendingPushCleanupEpoch.map fun _ => epoch } }
  | .active => do
    let epoch ← present (checkedSucc auth.authEpoch) .recoveryRequired
    if neverAuthenticated auth then
      saves .neverAuthenticated { auth with authEpoch := epoch, logoutState := .loggedOut }
    else do
      let archived ← archiveResume (cancelLogin auth)
      let proof : Option PendingLogout := auth.refreshToken.map fun refresh =>
        ⟨uuid.value, refresh, (transitionSource p auth).toOption.map logoutSource⟩
      saves (.revoke epoch proof) (loggingOut archived epoch proof)
  | .pending => reads (.revoke auth.authEpoch auth.broker.pendingLogout)

def loggedOut (proof : PendingLogout) (response : LogoutResponse) : AuthStore :=
  { auth with
    accessToken := none, refreshToken := none, pendingResume := none, logoutState := .loggedOut
    completedRuntimeLogout := proof.source.map fun source =>
      ⟨proof.operationId, source, response.code, response.cleanupReconcileOperationId⟩
    broker :=
      { auth.broker with pendingLogout := none, completedResume := none, pendingLoginAccount := none } }

def logoutFinish (epoch : ℕ) (proof : PendingLogout) (response : LogoutResponse) :
    Except BrokerError (Decided Unit) :=
  if auth.authEpoch = epoch ∧ auth.logoutState = .loggedOut then reads ()
  else do
    ensure (auth.authEpoch == epoch && decide (auth.logoutState = .pending) &&
      decide (auth.broker.pendingLogout = some proof)) .cancelled
    saves () (loggedOut auth proof response)

def logoutCleanupCheck (receipt : CompletedRuntimeLogout) : Except BrokerError (Decided Unit) := do
  ensure (decide (auth.completedRuntimeLogout = some receipt) && decide (auth.logoutState = .loggedOut))
    .cancelled
  reads ()

def finishRuntimeLogoutCleanup (receipt : CompletedRuntimeLogout) :
    Except BrokerError (Decided Unit) :=
  match auth.completedRuntimeLogout with
  | none => reads ()
  | some current => do
    ensure (decide (current = receipt)) .cancelled
    saves ()
      { auth with
        completedRuntimeLogout := none
        pendingRuntimeSupersede := auth.pendingRuntimeSupersede.filter fun ticket =>
          !(ticket.source.family == receipt.source.family &&
            ticket.source.deviceId == receipt.source.deviceId) }

end Logouts

section Recoveries

variable (uuid : FreshUuid) (auth : AuthStore)

def beginNative : Except BrokerError (RecoveryTicket × AuthStore) := do
  active auth
  ensureTransitionIssuanceAllowed auth none
  let identity ← present auth.confirmedIdentity .recoveryRequired
  ensure (auth.broker.pendingRequest.all fun ticket => decide (ticket.kind = .refresh)) .recoveryRequired
  let attempt ← present (checkedSucc auth.broker.nextAttempt) .recoveryRequired
  let deviceId ← present auth.broker.confirmedDeviceId .recoveryRequired
  let ticket : RecoveryTicket :=
    ⟨uuid.value, auth.authEpoch, attempt, auth.broker.family, identity, some deviceId⟩
  pure (ticket, { auth with broker :=
    { auth.broker with nextAttempt := attempt, pendingRecovery := some ticket } })

/-- `begin_background_recovery`, and the first section of `native_auth_until` when
there is a fence. -/
def nativeBegin (fence : Option LoginFence) (recover : Bool) :
    Except BrokerError (Decided RecoveryTicket) := do
  ensure (fence.all fun fence =>
    auth.authEpoch == fence.epoch && auth.broker.family == fence.family) .cancelled
  if fence.isSome then do
    let _ ← snapshot auth
    ensure (recover || decide (observedState auth = .active)) .recoveryRequired
  else pure ()
  let begun ← beginNative uuid auth
  saves begun.1 begun.2

def nativeCurrent (ticket : RecoveryTicket) : Bool :=
  decide (auth.broker.pendingRecovery = some ticket) && auth.authEpoch == ticket.authEpoch &&
    auth.broker.family == ticket.family && auth.broker.nextAttempt == ticket.attempt

def nativeAnswer (recover : Bool) (outcome : NativeOutcome) : Except BrokerError AccessSnapshot :=
  match outcome with
  | .accessUnavailable => .error .accessUnavailable
  | .temporarilyUnavailable => .error .timeout
  | .done => if recover then .error .recoveryRequired else snapshot auth
  | .granted _ | .notIssued | .outcomeUnknown => .error .recoveryRequired

def nativeEnded (ticket : RecoveryTicket) (recover : Bool) (outcome : NativeOutcome) :
    Except BrokerError (Decided (Except BrokerError AccessSnapshot)) := do
  active auth
  ensure (nativeCurrent auth ticket) .cancelled
  let released : AuthStore := { auth with broker := { auth.broker with pendingRecovery := none } }
  if !recover || decide (outcome = .notIssued) || decide (outcome = .accessUnavailable) then
    saves (nativeAnswer released recover outcome) released
  else reads (nativeAnswer auth recover outcome)

def acceptBackgroundRecovery (ticket : RecoveryTicket) (response : TokenResponse) :
    Except BrokerError (Decided (Except BrokerError AccessSnapshot)) := do
  active auth
  ensure (nativeCurrent auth ticket && decide (auth.confirmedIdentity = some ticket.identity) &&
    ticket.deviceId.isSome && decide (auth.broker.confirmedDeviceId = ticket.deviceId)) .cancelled
  let confirmed ← present response.device.confirmedIdentity .api
  ensure (decide (confirmed = ticket.identity) && decide (some response.device.id = ticket.deviceId) &&
    response.bearer && response.accessExpiresIn != 0) .identityMismatch
  let record : AuthStore := { rotated auth response with broker :=
    { auth.broker with pendingRequest := none, pendingRecovery := none } }
  saves (snapshot record) record

end Recoveries

inductive Section where
  | sourceBegin
  | bootstrapRejected (ticket : BrokerRequest)
  | bootstrapAccepted (ticket : BrokerRequest) (device : AuthDevice)
  | sourceRead
  | legacyBegin (allowed : Option String)
  | legacyAccepted (ticket : BrokerRequest) (allowed : Option String) (response : TokenResponse)
  | boundBegin (operationId : String)
  | boundAccepted (ticket : BrokerRequest) (operationId : String) (response : TokenResponse)
  | captureOrReceipt (frozen : FrozenReconcileRequest)
  | dispatchBegin (frozen : FrozenReconcileRequest)
  | afterRefresh (frozen : FrozenReconcileRequest) (bound : Bool)
  | matchSource (authority : TransitionAuthority)
  | reconcileAnswered (frozen : FrozenReconcileRequest) (response : ReconcileResponse)
  | reconcileFailed (operationId : String) (state : TransitionDispatchState)
  | prepareCompletedApplyReconcile (predecessor : FrozenReconcileRequest) (resumeOperationId : String)
      (target : RuntimeTarget) (legacy : Option (String × RuntimeTarget))
  | supersedeBegin (operationId : String) (predecessor : FrozenReconcileRequest) (target : RuntimeTarget)
  | supersedeAnswered (ticket : PendingRuntimeSupersede) (predecessor : FrozenReconcileRequest)
      (target : RuntimeTarget) (response : SupersedeResponse)
  | finishSupersede (operationId reconcileOperationId : String)
  | retireCompletedTransitions (journalOperation : String) (activeReconcile : Option String)
  | restoreTransitionRequest (request : ReconcileRequest) (fingerprint : String)
  | recheckTicket (ticket : BrokerRequest)
  | captureLoginFence (stamp : Option ScopeStamp)
  | loginBegin (fence : LoginFence) (login : String)
  | loginFailed (ticket : BrokerRequest) (knownNotIssued : Bool)
  | loginAnswered (ticket : BrokerRequest) (target : RuntimeTarget) (response : TokenResponse)
  | accessCheck (stamp : Option ScopeStamp)
  | stampCheck (stamp : Option ScopeStamp)
  | accessBegin (stamp : Option ScopeStamp) (stale : Option AccessSnapshot)
  | refreshAccepted (ticket : BrokerRequest) (response : TokenResponse)
  | snapshotRead
  | recoverBegin
  | recoverAccepted (request : RecoverRequest) (response : TokenResponse)
  | resumeBegin (operationId : String) (stored : StoredResumeArguments) (transition : Option String)
      (allowNew : Bool)
  | resumeAccepted (ticket : BrokerRequest) (arguments : ResumeArguments) (transition : Option String)
      (response : ResumeResponse)
  | transitionLookup (arguments : ResumeArguments)
  | historicalCheck (arguments : ResumeArguments) (ticket : BrokerRequest)
  | historicalAccepted (arguments : ResumeArguments) (ticket : BrokerRequest) (response : ResumeResponse)
  | resumeIsUndispatched (operationId : String)
  | stagePushCleanup (epoch : ℕ)
  | finishPushCleanup (epoch : ℕ)
  | logoutFence (stamp : Option ScopeStamp) (pendingLogin : Option BrokerRequest)
  | logoutFinish (epoch : ℕ) (proof : PendingLogout) (response : LogoutResponse)
  | logoutCleanupCheck (receipt : CompletedRuntimeLogout)
  | finishRuntimeLogoutCleanup (receipt : CompletedRuntimeLogout)
  | nativeBegin (fence : Option LoginFence) (recover : Bool)
  | nativeEnded (ticket : RecoveryTicket) (recover : Bool) (outcome : NativeOutcome)
  | acceptBackgroundRecovery (ticket : RecoveryTicket) (response : TokenResponse)

abbrev Section.Answer : Section → Type
  | .sourceBegin => SourceStep
  | .bootstrapAccepted _ _ => Except BrokerError TransitionSource
  | .sourceRead => TransitionSource
  | .legacyBegin _ | .boundBegin _ => Rotation
  | .captureOrReceipt _ => Option TransitionReconcileReceipt
  | .dispatchBegin _ => DispatchStep
  | .afterRefresh _ _ => TransitionAuthority
  | .prepareCompletedApplyReconcile _ _ _ _ | .restoreTransitionRequest _ _ => FrozenReconcileRequest
  | .supersedeBegin _ _ _ => SupersedeStep
  | .captureLoginFence _ => LoginFence
  | .loginBegin _ _ => BrokerRequest
  | .loginAnswered _ _ _ => LoginStep
  | .accessBegin _ _ => AccessStep
  | .refreshAccepted _ _ | .resumeAccepted _ _ _ _ | .nativeEnded _ _ _
  | .acceptBackgroundRecovery _ _ => Except BrokerError AccessSnapshot
  | .snapshotRead => AccessSnapshot
  | .recoverBegin => Option (Except BrokerError RecoverRequest)
  | .recoverAccepted _ _ => RecoverStep
  | .resumeBegin _ _ _ _ => ResumeStep
  | .transitionLookup _ => LookupStep
  | .resumeIsUndispatched _ => Bool
  | .logoutFence _ _ => LogoutStep
  | .nativeBegin _ _ => RecoveryTicket
  | .bootstrapRejected _ | .legacyAccepted _ _ _ | .boundAccepted _ _ _ | .matchSource _
  | .reconcileAnswered _ _ | .reconcileFailed _ _ | .supersedeAnswered _ _ _ _ | .finishSupersede _ _
  | .retireCompletedTransitions _ _ | .recheckTicket _ | .loginFailed _ _ | .accessCheck _
  | .stampCheck _ | .historicalCheck _ _ | .historicalAccepted _ _ _ | .stagePushCleanup _
  | .finishPushCleanup _ | .logoutFinish _ _ _ | .logoutCleanupCheck _
  | .finishRuntimeLogoutCleanup _ => Unit

def runSection (p : Platform) (uuid : FreshUuid) (auth : AuthStore) :
    (c : Section) → Except BrokerError (Decided c.Answer)
  | .sourceBegin => sourceBegin p uuid auth
  | .bootstrapRejected ticket => bootstrapRejected auth ticket
  | .bootstrapAccepted ticket device => bootstrapAccepted p auth ticket device
  | .sourceRead => sourceRead p auth
  | .legacyBegin allowed => legacyBegin p uuid auth allowed
  | .legacyAccepted ticket allowed response => legacyAccepted auth ticket allowed response
  | .boundBegin operationId => boundBegin p uuid auth operationId
  | .boundAccepted ticket operationId response => boundAccepted auth ticket operationId response
  | .captureOrReceipt frozen => captureOrReceipt p auth frozen
  | .dispatchBegin frozen => dispatchBegin p auth frozen
  | .afterRefresh frozen bound => afterRefresh p auth frozen bound
  | .matchSource authority => matchSource auth authority
  | .reconcileAnswered frozen response => reconcileAnswered p auth frozen response
  | .reconcileFailed operationId state => reconcileFailed auth operationId state
  | .prepareCompletedApplyReconcile predecessor resumeOperationId target legacy =>
    prepareCompletedApplyReconcile p uuid auth predecessor resumeOperationId target legacy
  | .supersedeBegin operationId predecessor target => supersedeBegin p auth operationId predecessor target
  | .supersedeAnswered ticket predecessor target response =>
    supersedeAnswered p auth ticket predecessor target response
  | .finishSupersede operationId reconcileOperationId =>
    finishSupersede auth operationId reconcileOperationId
  | .retireCompletedTransitions journalOperation activeReconcile =>
    retireCompletedTransitions auth journalOperation activeReconcile
  | .restoreTransitionRequest request fingerprint => restoreTransitionRequest p auth request fingerprint
  | .recheckTicket ticket => recheckTicket auth ticket
  | .captureLoginFence stamp => captureLoginFence auth stamp
  | .loginBegin fence login => loginBegin p uuid auth fence login
  | .loginFailed ticket knownNotIssued => loginFailed auth ticket knownNotIssued
  | .loginAnswered ticket target response => loginAnswered uuid auth ticket target response
  | .accessCheck stamp => accessCheck auth stamp
  | .stampCheck stamp => stampCheck auth stamp
  | .accessBegin stamp stale => accessBegin p uuid auth stamp stale
  | .refreshAccepted ticket response => refreshAccepted auth ticket response
  | .snapshotRead => snapshotRead auth
  | .recoverBegin => recoverBegin auth
  | .recoverAccepted request response => recoverAccepted p uuid auth request response
  | .resumeBegin operationId stored transition allowNew =>
    resumeBegin p auth operationId stored transition allowNew
  | .resumeAccepted ticket arguments transition response =>
    resumeAccepted auth ticket arguments transition response
  | .transitionLookup arguments => transitionLookup auth arguments
  | .historicalCheck arguments ticket => historicalCheck auth arguments ticket
  | .historicalAccepted arguments ticket response => historicalAccepted auth arguments ticket response
  | .resumeIsUndispatched operationId => resumeIsUndispatched auth operationId
  | .stagePushCleanup epoch => stagePushCleanup auth epoch
  | .finishPushCleanup epoch => finishPushCleanup auth epoch
  | .logoutFence stamp pendingLogin => logoutFence p uuid auth stamp pendingLogin
  | .logoutFinish epoch proof response => logoutFinish auth epoch proof response
  | .logoutCleanupCheck receipt => logoutCleanupCheck auth receipt
  | .finishRuntimeLogoutCleanup receipt => finishRuntimeLogoutCleanup auth receipt
  | .nativeBegin fence recover => nativeBegin uuid auth fence recover
  | .nativeEnded ticket recover outcome => nativeEnded auth ticket recover outcome
  | .acceptBackgroundRecovery ticket response => acceptBackgroundRecovery auth ticket response

end NelomaiClient.AuthSections
