import NelomaiClient.AuthSections

/-!
# The broker of credentials

`AuthBroker` as a system of concurrent calls. A call awaits the locks and the
network; at each await its future may be dropped, by its own timeout or by its
caller. The issuance lock is held by the calls that begin a ticket and by no
logout. Beside the protected record the state has a history: the tickets and
refresh tokens that were ever stored, the rotation requests that were sent, how
often the local runtime was told to stop, and what each call has in hand.
-/

namespace NelomaiClient.AuthBroker

open AwaitProgram AwaitPool AwaitFallible
open RuntimeRecord RuntimeOwner SwitchRecord AuthRecord AuthSections
open SwitchCoordinator (BrokerError TransitionSource FrozenReconcileRequest RuntimeSwitchState
  SupersedeResponse ResumeArguments)

inductive ApiError where
  | transport
  | timeout
  | api (status : ℕ) (code : String) (retryAfterSeconds : Option ℕ)
  | invalidErrorResponse (status : ℕ)
  | invalidPayload
  | payloadTooLarge
  | other

def ApiError.broker : ApiError → BrokerError
  | .transport => .transport
  | .timeout => .timeout
  | .api _ _ _ | .invalidErrorResponse _ | .invalidPayload | .payloadTooLarge | .other => .api

def ApiError.invalidAccess : ApiError → Bool
  | .api status code _ => status == 401 && code == "invalid_access_token"
  | _ => false

def ApiError.loginRejection : ApiError → Bool
  | .api status code _ =>
    (status == 401 && code == "invalid_credentials") ||
      (status == 403 && code == "app_access_unavailable") ||
      (status == 409 && code == "device_limit_reached") ||
      (status == 429 && code == "login_rate_limited") ||
      (status == 422 && code == "invalid_request")
  | _ => false

def clientError (status : ℕ) : Bool :=
  decide (400 ≤ status) && decide (status < 500) && status != 429 && status != 408

def ApiError.terminal : ApiError → Bool
  | .api status _ _ | .invalidErrorResponse status => clientError status
  | .invalidPayload | .payloadTooLarge => true
  | .transport | .timeout | .other => false

def ApiError.retryAfter : ApiError → Option ℕ
  | .api _ _ seconds => seconds
  | _ => none

/-- What is asked of the server and of the platform; a revocation is prepared by the platform
before it is sent. -/
inductive Request where
  | legacyBootstrapDevice (access : String)
  | rotate (rotation : Rotation)
  | reconcile (authority : TransitionAuthority) (request : ReconcileRequest)
  | recoverSwitch (refresh : String) (request : ReconcileRequest)
  | supersede (ticket : PendingRuntimeSupersede) (target : RuntimeTarget)
  | login (login : String) (target : RuntimeTarget)
  | resume (refresh : String) (arguments : ResumeArguments)
  | logout (proof : PendingLogout)
  | native (ticket : RecoveryTicket)
  | stopLocal
  | prepareRevocation (epoch : ℕ)

abbrev Request.Answer : Request → Type
  | .legacyBootstrapDevice _ => Except ApiError AuthDevice
  | .rotate _ | .login _ _ => Except ApiError TokenResponse
  | .reconcile _ _ | .recoverSwitch _ _ => Except ApiError ReconcileResponse
  | .supersede _ _ => Except ApiError SupersedeResponse
  | .resume _ _ => Except ApiError ResumeResponse
  | .logout _ => Except BrokerError LogoutResponse
  | .native _ => NativeOutcome
  | .stopLocal | .prepareRevocation _ => Except BrokerError Unit

structure RefreshRetry where
  operationId : String
  waitUntil : ℕ
  delay : ℕ
  terminal : Bool

structure CallState where
  /-- Epoch of the record when its last ticket was issued. -/
  epoch : Option ℕ := none
  /-- A refresh token that it is about to spend. -/
  rotation : Option Rotation := none
  /-- The authority whose request it is about to send. -/
  reconciling : Option String := none

structure BrokerWorld where
  auth : AuthStore
  issuance : Option ℕ
  retry : Option RefreshRetry
  calls : ℕ → CallState
  /-- How often the local runtime was told to stop. -/
  stops : ℕ
  spent : List Rotation
  stored : List BrokerRequest
  held : List String

inductive SaveOutcome where
  | done
  | failed
  | late
  deriving DecidableEq

structure BrokerInput where
  readable : Bool
  save : SaveOutcome
  uuid : FreshUuid
  now : ℕ
  dropped : Bool
  reply : (q : Request) → q.Answer

inductive BrokerCmd where
  | enter
  | lockIssuance
  | tryLockIssuance
  | unlockIssuance
  | locked (c : Section)
  | spend (rotation : Rotation)
  | answer (q : Request)
  | dropped
  | stopLocal
  | pace (operationId : String)
  | paceFailed (error : ApiError)
  | paceRejected
  | paceSettled

abbrev BrokerResp : BrokerCmd → Type
  | .locked c => Except BrokerError c.Answer
  | .answer q => q.Answer
  | .dropped | .tryLockIssuance | .paceFailed _ => Bool
  | .pace _ => Except BrokerError Unit
  | .enter | .lockIssuance | .unlockIssuance | .spend _ | .stopLocal | .paceRejected
  | .paceSettled => Unit

/-- Whether a section has begun a ticket, taken one up or found its scope current. -/
def Section.issues : (c : Section) → c.Answer → Bool
  | .sourceBegin, .bootstrap _ _ => true
  | .legacyBegin _, _ => true
  | .boundBegin _, _ => true
  | .dispatchBegin _, .refresh _ => true
  | .loginBegin _ _, _ => true
  | .accessBegin _ _, .refresh _ _ => true
  | .recoverBegin, some _ => true
  | .resumeBegin _ _ _ _, .send _ _ => true
  | .supersedeBegin _ _ _, .send _ => true
  | .nativeBegin _ _, _ => true
  | _, _ => false

def Section.rotation : (c : Section) → c.Answer → Option Rotation
  | .legacyBegin _, rotation => some rotation
  | .boundBegin _, rotation => some rotation
  | .accessBegin _ _, .refresh ticket token =>
    if ticket.refresh.isNone then some ⟨token, ticket, false⟩ else none
  | .recoverBegin, some (.ok request) => some ⟨request.refreshToken, request.ticket, true⟩
  | _, _ => none

def Section.reconciling : (c : Section) → c.Answer → Option String
  | .dispatchBegin frozen, .dispatch _ _ _ => some frozen.request.operationId
  | .afterRefresh frozen _, _ => some frozen.request.operationId
  | _, _ => none

/-- What a call has in hand after a section that leaves the record at `epoch`. -/
def CallState.after (call : CallState) (epoch : ℕ) (c : Section) (a : c.Answer) : CallState where
  epoch := if Section.issues c a then some epoch else call.epoch
  rotation := Section.rotation c a <|> call.rotation
  reconciling := Section.reconciling c a <|> call.reconciling

namespace BrokerWorld

def setCall (w : BrokerWorld) (t : ℕ) (call : CallState) : BrokerWorld :=
  { w with calls := fun u => if u = t then call else w.calls u }

def store (w : BrokerWorld) (record : AuthStore) : BrokerWorld :=
  { w with
    auth := record, stored := record.broker.pendingRequest.toList ++ w.stored
    held := record.refreshToken.toList ++ w.held }

variable (p : Platform)

def accepts (write : Write) : Bool :=
  (!write.budgeted || p.recordFits write.record) && write.record.valid

def locked (i : BrokerInput) (t : ℕ) (w : BrokerWorld) (c : Section) :
    Except BrokerError c.Answer × BrokerWorld :=
  if !i.readable || !w.auth.valid then (.error .storage, w)
  else
    match runSection p i.uuid w.auth c with
    | .error error => (.error error, w)
    | .ok (a, none) => (.ok a, w.setCall t ((w.calls t).after w.auth.authEpoch c a))
    | .ok (a, some write) =>
      if accepts p write then
        match i.save with
        | .done =>
          (.ok a, (w.store write.record).setCall t ((w.calls t).after write.record.authEpoch c a))
        | .failed => (.error .storage, w)
        | .late => (.error .storage, w.store write.record)
      else (.error .storage, w)

def pace (i : BrokerInput) (w : BrokerWorld) (operationId : String) :
    Except BrokerError Unit × BrokerWorld :=
  let previous := w.retry.filter (·.operationId == operationId)
  if previous.any (·.terminal) then (.error .refreshRejected, w)
  else if previous.any (fun retry => decide (i.now < retry.waitUntil)) then (.error .refreshPending, w)
  else
    let delay := previous.elim 1 fun retry => min (retry.delay * 2) 30
    (.ok (), { w with retry := some ⟨operationId, i.now + delay, delay, false⟩ })

def paceFailed (i : BrokerInput) (w : BrokerWorld) (error : ApiError) : Bool × BrokerWorld :=
  (error.terminal, { w with retry := w.retry.map fun retry =>
    { retry with
      waitUntil := i.now + error.retryAfter.getD retry.delay, terminal := error.terminal } })

/-- The meaning of the commands; a lock that is held disables its command. -/
def exec (i : BrokerInput) (t : ℕ) (w : BrokerWorld) :
    (c : BrokerCmd) → Option (BrokerResp c × BrokerWorld)
  | .enter => some ((), w.setCall t {})
  | .lockIssuance =>
    if w.issuance.isNone then some ((), { w with issuance := some t }.setCall t {}) else none
  | .tryLockIssuance =>
    some (if w.issuance.isNone then (true, { w with issuance := some t }.setCall t {})
      else (false, w))
  | .unlockIssuance => some ((), if w.issuance = some t then { w with issuance := none } else w)
  | .locked c => some (w.locked p i t c)
  | .spend rotation =>
    some ((), { w with spent := rotation :: w.spent }.setCall t { w.calls t with rotation := none })
  | .answer q => some (i.reply q, w)
  | .dropped => some (i.dropped, w)
  | .stopLocal => some ((), { w with stops := w.stops + 1 })
  | .pace operationId => some (w.pace i operationId)
  | .paceFailed error => some (w.paceFailed i error)
  | .paceRejected =>
    some ((), { w with retry := w.retry.map fun retry => { retry with terminal := true } })
  | .paceSettled => some ((), { w with retry := none })

def opened (auth : AuthStore) : BrokerWorld where
  auth := auth
  issuance := none
  retry := none
  calls := fun _ => {}
  stops := 0
  spent := []
  stored := auth.broker.pendingRequest.toList
  held := auth.refreshToken.toList

def reopened (w : BrokerWorld) : BrokerWorld :=
  { w with
    auth :=
      if loginPending w.auth then
        { w.auth with broker := { w.auth.broker with authenticationOutcomeUnknown := true } }
      else w.auth
    issuance := none, retry := none, calls := fun _ => {} }

end BrokerWorld

abbrev brokerMachine (p : Platform) : Machine where
  State := BrokerWorld
  Cmd := BrokerCmd
  Resp := BrokerResp
  Input := BrokerInput
  sem c t i w := w.exec p i t c

section Programs

variable (p : Platform)

abbrev BrokerProg (α : Type) : Type 1 := Fallible (brokerMachine p) BrokerError α

def command (c : BrokerCmd) : BrokerProg p (BrokerResp c) :=
  surely (Prog.call (M := brokerMachine p) c)

def suspend : BrokerProg p Unit := do
  surely (Prog.pause (M := brokerMachine p))
  let dropped ← command p .dropped
  require (!dropped) .timeout

def locked (c : Section) : BrokerProg p c.Answer := do
  suspend p
  attempt (Prog.call (M := brokerMachine p) (.locked c))

def ask (q : Request) : BrokerProg p q.Answer := do
  suspend p
  command p (.answer q)

def served {α : Type} (answer : Except ApiError α) : BrokerProg p α :=
  decided (answer.mapError ApiError.broker)

def spend (rotation : Rotation) : BrokerProg p (Except ApiError TokenResponse) := do
  command p (.spend rotation)
  ask p (.rotate rotation)

def releasing {α : Type} (body : BrokerProg p α) : BrokerProg p α := do
  let result ← outcome body
  command p .unlockIssuance
  decided result

def withIssuance {α : Type} (body : BrokerProg p α) : BrokerProg p α := do
  suspend p
  command p .lockIssuance
  releasing p body

def legacyRefresh (allowed : Option String) : BrokerProg p Unit := do
  let rotation ← locked p (.legacyBegin allowed)
  locked p (.recheckTicket rotation.ticket)
  let answer ← spend p rotation
  let response ← served p answer
  locked p (.legacyAccepted rotation.ticket allowed response)

def refreshBoundTransition (operationId : String) : BrokerProg p Unit := do
  let rotation ← locked p (.boundBegin operationId)
  locked p (.recheckTicket rotation.ticket)
  let answer ← spend p rotation
  let response ← served p answer
  locked p (.boundAccepted rotation.ticket operationId response)

def transitionSource : BrokerProg p TransitionSource := withIssuance p do
  match ← locked p .sourceBegin with
  | .known source => pure source
  | .refresh => do
    legacyRefresh p none
    locked p .sourceRead
  | .bootstrap ticket access => do
    locked p (.recheckTicket ticket)
    match ← ask p (.legacyBootstrapDevice access) with
    | .ok device => do
      let source ← locked p (.bootstrapAccepted ticket device)
      decided source
    | .error error =>
      if error.invalidAccess then do
        locked p (.bootstrapRejected ticket)
        legacyRefresh p none
        locked p .sourceRead
      else throw error.broker

structure Dispatch where
  authority : TransitionAuthority
  /-- Whether a refusal of the access is conclusive. -/
  mayRefresh : Bool
  recheckCurrent : Bool

def dispatchRound (frozen : FrozenReconcileRequest) : BrokerProg p Dispatch := do
  match ← locked p (.dispatchBegin frozen) with
  | .dispatch authority mayRefresh recheckCurrent => pure ⟨authority, mayRefresh, recheckCurrent⟩
  | .refresh bound => do
    if bound then refreshBoundTransition p frozen.request.operationId
    else legacyRefresh p (some frozen.request.operationId)
    let authority ← locked p (.afterRefresh frozen bound)
    pure ⟨authority, false, true⟩

def authorityAccess (authority : TransitionAuthority) : Except BrokerError Unit :=
  match authority.sourceIdentity with
  | none => .ok ()
  | some identity => do
    let _ ← AccessSnapshot.new authority.cleanupAccessProof identity authority.sourceAuthEpoch
      authority.sourceFamily
    pure ()

/-- The request of a round, and its recovery when the access was refused. -/
def dispatchRequest (frozen : FrozenReconcileRequest) (dispatch : Dispatch) :
    BrokerProg p (Except ApiError ReconcileResponse) := do
  whenever dispatch.recheckCurrent (locked p (.matchSource dispatch.authority))
  decided (authorityAccess dispatch.authority)
  match ← ask p (.reconcile dispatch.authority frozen.request) with
  | .ok response => pure (.ok response)
  | .error error =>
    if !dispatch.mayRefresh && error.invalidAccess then do
      locked p (.matchSource dispatch.authority)
      let recovered ← ask p (.recoverSwitch dispatch.authority.resumeRefreshProof frozen.request)
      locked p (.matchSource dispatch.authority)
      pure recovered
    else pure (.error error)

def reconcileRounds (frozen : FrozenReconcileRequest) : ℕ → BrokerProg p TransitionReconcileReceipt
  | 0 => throw .recoveryRequired
  | rounds + 1 => do
    let dispatch ← dispatchRound p frozen
    match ← dispatchRequest p frozen dispatch with
    | .ok response => do
      locked p (.reconcileAnswered frozen response)
      pure (storedReceipt response)
    | .error error =>
      if error.invalidAccess then
        if dispatch.mayRefresh then do
          locked p (.reconcileFailed frozen.request.operationId .invalidAccessRejected)
          reconcileRounds frozen rounds
        else do
          locked p (.reconcileFailed frozen.request.operationId .outcomeUnknown)
          throw .recoveryRequired
      else do
        locked p (.reconcileFailed frozen.request.operationId .outcomeUnknown)
        throw error.broker

def reconcileTransition (frozen : FrozenReconcileRequest) :
    BrokerProg p TransitionReconcileReceipt :=
  withIssuance p do
    match ← locked p (.captureOrReceipt frozen) with
    | some receipt => pure receipt
    | none => reconcileRounds p frozen 3

def supersedeTransition (operationId : String) (predecessor : FrozenReconcileRequest)
    (target : RuntimeTarget) : BrokerProg p SupersedeResponse := withIssuance p do
  require target.valid .api
  require (canonicalUuid operationId) .recoveryRequired
  match ← locked p (.supersedeBegin operationId predecessor target) with
  | .answered response => pure response
  | .send ticket => do
    let answer ← ask p (.supersede ticket target)
    let response ← served p answer
    require (decide (response.state = .clean) ==
      (response.reconcileOperationId != ticket.supersededReconcileOperationId)) .identityMismatch
    locked p (.supersedeAnswered ticket predecessor target response)
    pure response

def retireCompletedTransitions (journalOperation : String) (activeReconcile : Option String) :
    BrokerProg p Unit := do
  if ← command p .tryLockIssuance then
    releasing p (locked p (.retireCompletedTransitions journalOperation activeReconcile))
  else pure ()

def stopLocal : BrokerProg p (Except BrokerError Unit) := do
  command p .stopLocal
  ask p .stopLocal

def logout (stamp : Option ScopeStamp) (pendingLogin : Option BrokerRequest) :
    BrokerProg p Unit := do
  match ← locked p (.logoutFence stamp pendingLogin) with
  | .neverAuthenticated => do
    let stop ← stopLocal p
    decided stop
  | .repeated epoch retryPush => do
    let stop ← stopLocal p
    whenever retryPush do
      let handoff ← ask p (.prepareRevocation epoch)
      decided handoff
    decided stop
  | .revoke epoch none => do
    let stop ← stopLocal p
    let handoff ← ask p (.prepareRevocation epoch)
    decided stop
    decided handoff
    throw .authenticationOutcomeUnknown
  | .revoke epoch (some proof) => do
    let stop ← stopLocal p
    let answer ← ask p (.logout proof)
    let response ← decided answer
    require (response.code == "already_inactive" ||
      response.code == "session_revoked_cleanup_accepted") .recoveryRequired
    locked p (.logoutFinish epoch proof response)
    decided stop

def loginFenced (login : String) (target : RuntimeTarget) (fence : LoginFence) :
    BrokerProg p AccessSnapshot := do
  require target.valid .api
  withIssuance p do
    let ticket ← locked p (.loginBegin fence login)
    match ← stopLocal p with
    | .error error => do
      locked p (.loginFailed ticket true)
      throw error
    | .ok () => do
      match ← ask p (.login login target) with
      | .error error => do
        locked p (.loginFailed ticket error.loginRejection)
        throw error.broker
      | .ok response => do
        match ← locked p (.loginAnswered ticket target response) with
        | .signedIn access => decided access
        | .refused error => throw error
        | .revoke error => do
          logout p none none
          throw error

def login (stamp : Option ScopeStamp) (login : String) (target : RuntimeTarget) :
    BrokerProg p AccessSnapshot := do
  let fence ← locked p (.captureLoginFence stamp)
  loginFenced p login target fence

def recoverRounds : ℕ → BrokerProg p Unit
  | 0 => throw .refreshPending
  | rounds + 1 => do
    match ← locked p .recoverBegin with
    | none => pure ()
    | some request => do
      let request ← decided request
      attempt (Prog.call (M := brokerMachine p) (.pace request.ticket.operationId))
      match ← spend p ⟨request.refreshToken, request.ticket, true⟩ with
      | .error error => do
        let terminal ← command p (.paceFailed error)
        throw (if terminal then .refreshRejected else .refreshPending)
      | .ok response => do
        match ← locked p (.recoverAccepted request response) with
        | .mismatch => do
          command p .paceRejected
          throw .identityMismatch
        | .saved done => do
          command p .paceSettled
          if done then pure () else recoverRounds rounds

def recoverPendingRefresh : BrokerProg p Unit :=
  whenever (!p.android) (withIssuance p (recoverRounds p 2))

def accessToken (stamp : Option ScopeStamp) (stale : Option AccessSnapshot) :
    BrokerProg p AccessSnapshot := do
  locked p (.accessCheck stamp)
  withIssuance p do
    whenever stamp.isSome (locked p (.stampCheck stamp))
    whenever (!p.android) (recoverRounds p 2)
    match ← locked p (.accessBegin stamp stale) with
    | .current access => pure access
    | .refresh ticket token =>
      if ticket.refresh.isSome then do
        recoverRounds p 2
        locked p .snapshotRead
      else do
        let answer ← spend p ⟨token, ticket, false⟩
        let response ← served p answer
        let access ← locked p (.refreshAccepted ticket response)
        decided access

def resumeInner (arguments : ResumeArguments) (transition : Option String) (allowNew : Bool) :
    BrokerProg p AccessSnapshot := do
  let stored ← decided (storedArguments arguments)
  withIssuance p do
    match ← locked p (.resumeBegin arguments.operationId stored transition allowNew) with
    | .done access => pure access
    | .send ticket refresh => do
      locked p (.recheckTicket ticket)
      let answer ← ask p (.resume refresh arguments)
      let response ← served p answer
      let access ← locked p (.resumeAccepted ticket arguments transition response)
      decided access

def resume (arguments : ResumeArguments) : BrokerProg p AccessSnapshot :=
  resumeInner p arguments none true

def resumeHistorical (arguments : ResumeArguments) (ticket : BrokerRequest) (refresh : String) :
    BrokerProg p (RuntimeIdentity × Option AccessSnapshot) := withIssuance p do
  locked p (.historicalCheck arguments ticket)
  let answer ← ask p (.resume refresh arguments)
  let response ← served p answer
  decided (resumeFits arguments response)
  locked p (.historicalAccepted arguments ticket response)
  pure (response.identity, none)

def resumeTransition (arguments : ResumeArguments) (allowNew : Bool) :
    BrokerProg p (RuntimeIdentity × Option AccessSnapshot) := do
  match ← locked p (.transitionLookup arguments) with
  | .receipt identity access => pure (identity, access)
  | .historical ticket refresh => resumeHistorical p arguments ticket refresh
  | .current => do
    let access ← resumeInner p arguments (some arguments.reconcileOperationId) allowNew
    pure (access.identity, some access)

def acceptBackgroundRecovery (ticket : RecoveryTicket) (response : TokenResponse) :
    BrokerProg p AccessSnapshot := do
  let access ← locked p (.acceptBackgroundRecovery ticket response)
  decided access

def nativeAuth (recover : Bool) : BrokerProg p AccessSnapshot := do
  let fence ← locked p (.captureLoginFence none)
  withIssuance p do
    let ticket ← locked p (.nativeBegin (some fence) recover)
    let outcome ← ask p (.native ticket)
    match recover, outcome with
    | true, .granted response => acceptBackgroundRecovery p ticket response
    | recover, outcome => do
      let access ← locked p (.nativeEnded ticket recover outcome)
      decided access

def stopRuntimeLogoutCleanup (receipt : CompletedRuntimeLogout) : BrokerProg p Unit :=
  withIssuance p do
  locked p (.logoutCleanupCheck receipt)
  let stop ← stopLocal p
  decided stop

inductive BrokerOp where
  | login (stamp : Option ScopeStamp) (login : String) (target : RuntimeTarget)
  | accessToken (stamp : Option ScopeStamp) (stale : Option AccessSnapshot)
  | recoverPendingRefresh
  | resume (arguments : ResumeArguments)
  | resumeTransition (arguments : ResumeArguments) (allowNew : Bool)
  | reconcileTransition (frozen : FrozenReconcileRequest)
  | supersedeTransition (operationId : String) (predecessor : FrozenReconcileRequest)
      (target : RuntimeTarget)
  | finishSupersede (operationId reconcileOperationId : String)
  | prepareCompletedApplyReconcile (predecessor : FrozenReconcileRequest)
      (resumeOperationId : String) (target : RuntimeTarget) (legacy : Option (String × RuntimeTarget))
  | retireCompletedTransitions (journalOperation : String) (activeReconcile : Option String)
  | restoreTransitionRequest (request : ReconcileRequest) (fingerprint : String)
  | transitionResumeIsUndispatched (operationId : String)
  | transitionSource
  | nativeAuth (recover : Bool)
  | beginBackgroundRecovery
  | acceptBackgroundRecovery (ticket : RecoveryTicket) (response : TokenResponse)
  | logout (stamp : Option ScopeStamp) (pendingLogin : Option BrokerRequest)
  | stagePushCleanup (epoch : ℕ)
  | finishPushCleanup (epoch : ℕ)
  | stopRuntimeLogoutCleanup (receipt : CompletedRuntimeLogout)
  | finishRuntimeLogoutCleanup (receipt : CompletedRuntimeLogout)

def unobserved {α : Type} (x : BrokerProg p α) : Prog (brokerMachine p) Unit :=
  (fun _ => ()) <$> (do command p .enter; x : BrokerProg p α).run

def brokerProgram : BrokerOp → Prog (brokerMachine p) Unit
  | .login stamp account target => unobserved p (login p stamp account target)
  | .accessToken stamp stale => unobserved p (accessToken p stamp stale)
  | .recoverPendingRefresh => unobserved p (recoverPendingRefresh p)
  | .resume arguments => unobserved p (resume p arguments)
  | .resumeTransition arguments allowNew => unobserved p (resumeTransition p arguments allowNew)
  | .reconcileTransition frozen => unobserved p (reconcileTransition p frozen)
  | .supersedeTransition operationId predecessor target =>
    unobserved p (supersedeTransition p operationId predecessor target)
  | .finishSupersede operationId reconcileOperationId =>
    unobserved p (locked p (.finishSupersede operationId reconcileOperationId))
  | .prepareCompletedApplyReconcile predecessor resumeOperationId target legacy =>
    unobserved p (withIssuance p
      (locked p (.prepareCompletedApplyReconcile predecessor resumeOperationId target legacy)))
  | .retireCompletedTransitions journalOperation activeReconcile =>
    unobserved p (retireCompletedTransitions p journalOperation activeReconcile)
  | .restoreTransitionRequest request fingerprint =>
    unobserved p (locked p (.restoreTransitionRequest request fingerprint))
  | .transitionResumeIsUndispatched operationId =>
    unobserved p (withIssuance p (locked p (.resumeIsUndispatched operationId)))
  | .transitionSource => unobserved p (transitionSource p)
  | .nativeAuth recover => unobserved p (nativeAuth p recover)
  | .beginBackgroundRecovery => unobserved p (withIssuance p (locked p (.nativeBegin none true)))
  | .acceptBackgroundRecovery ticket response =>
    unobserved p (acceptBackgroundRecovery p ticket response)
  | .logout stamp pendingLogin => unobserved p (logout p stamp pendingLogin)
  | .stagePushCleanup epoch => unobserved p (locked p (.stagePushCleanup epoch))
  | .finishPushCleanup epoch => unobserved p (locked p (.finishPushCleanup epoch))
  | .stopRuntimeLogoutCleanup receipt => unobserved p (stopRuntimeLogoutCleanup p receipt)
  | .finishRuntimeLogoutCleanup receipt =>
    unobserved p (locked p (.finishRuntimeLogoutCleanup receipt))

abbrev brokerSystem : System where
  machine := brokerMachine p
  Op := BrokerOp
  program := brokerProgram p
  restart := BrokerWorld.reopened

end Programs

end NelomaiClient.AuthBroker
