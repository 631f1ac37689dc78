import NelomaiClient.CoreCancel

/-!
# Starts of the core

`start_internal` with the requests, the local tunnel start and the
compensation below it, and the public operations that run it. What the
split-tunnel module prepares and records is asked for as an answer: it belongs
to the other half of the record.
-/

namespace NelomaiClient.CoreStart

open ConnectionContract RecoveryPolicy CoreContract RuntimeRecord PanelContract CorePolicy
open RuntimeJournal AwaitProgram AwaitFallible CoreMachine CoreStop CoreCancel

section Preparation

variable (env : CoreParameters)

/-- A published connection that is not live here but may be live at the panel. -/
def staleConnection (state : CoreState) : Option Connection :=
  state.connection.filter fun connection =>
    state.phase != .connected &&
      (connection.sessionId.isSome || connection.status == .allocating ||
        connection.status == .issued || connection.status == .connected)

variable (pendingStart : Option StoredPendingStart) (connection : Connection)

/-- The journal that a stale release leaves if a start is journalled too. -/
def journalStaleRelease :
    Core (Option StoredPendingCompensationStop) :=
  if pendingStart.isSome then
    some <$> stored (.pendingCompensationStopIdentity
      ⟨connection.leaseId, storedConnectionAcceptsWarm connection, none, none⟩)
  else pure none

def clearFoundCompensation : Option StoredPendingCompensationStop → Core Unit
  | none => pure ()
  | some pending =>
    stored (.clearPendingCompensationStop .finished pending.operationId pending.leaseId)

def releaseStaleLease :
    Core Unit := do
  accessSnapshot
  let compensation ← journalStaleRelease pendingStart connection
  let operationId ← operationOrNew (compensation.map (·.operationId))
  let released ← retryOperation env .stop ⟨operationId, connection.leaseId, none⟩
  requireFinished none (storedConnectionAcceptsWarm connection) released.status
  clearFoundStart (.stoppedLease connection.leaseId) pendingStart
  clearFoundCompensation compensation
  writeCore ⟨.ready, some released⟩

def releaseStale :
    Core Unit :=
  if connection.sessionId.isSome then do
    let _ ← releaseRestoredSession env connection
    pure ()
  else releaseStaleLease env pendingStart connection

def releaseStalePanelConnectionBeforeStart :
    Core Unit := do
  let state ← readCore
  match staleConnection state with
  | none => pure ()
  | some connection =>
    if pendingStart.any (·.recoveryContractVersion == some 2) then pure ()
    else do
      let status ← attempt (tunnelError <$> inquire .tunnelStatus)
      whenever (status == .stopped || status == .failed) (releaseStale env pendingStart connection)

def prepareBindingChange : Core Unit :=
  withGate .connection do
    let stored ← stored .loadRuntime
    releaseStalePanelConnectionBeforeStart env stored.pendingStart

end Preparation

section Request

variable (env : CoreParameters)

structure RetryStartState where
  retryIndex : Nat
  refreshed : Bool
  /-- Whether a finished operation was replaced. -/
  replacedFinishedOperation : Bool
  dispatched : Bool

abbrev Starting (α : Type) : Type 1 := Local core CoreError ConnectionStartRequest α

def noLongerActive : CoreApiError → Bool
  | .rejected code _ _ => code == "connection_no_longer_active"
  | _ => false

def startDelays (allowInternalRetry : Bool) : List Nat :=
  if allowInternalRetry then env.delaysMillis else []

def presentStartError {α : Type} (epoch : UInt64) (error : CoreApiError) : Core α := do
  attempt (locked (.setStartPhase (phaseForApiError error) epoch))
  throw (.ofApi error)

/-- Give the request a fresh operation after the panel finished the old one. -/
def replaceOperation : Starting Unit := do
  let request ← get
  let replacement ← Local.lift newOperationId
  Local.lift (stored (.replacePendingStartOperation request.operationId replacement))
  set { request with operationId := replacement }

def startRequestFailed (allowInternalRetry : Bool) (epoch : UInt64) (state : RetryStartState)
    (error : CoreApiError) : Starting (RetryStartState ⊕ ConnectionStartResponse) :=
  let delays := startDelays env allowInternalRetry
  if error = .unauthorized ∧ state.refreshed = false then do
    Local.lift refreshAccessToken
    pure (.inl { state with refreshed := true })
  else if error = .retryable ∧ state.retryIndex < delays.length then do
    Local.lift (waitForStartRetry (delays.getD state.retryIndex 0) epoch)
    pure (.inl { state with retryIndex := state.retryIndex + 1 })
  else if allowInternalRetry ∧ noLongerActive error ∧ state.replacedFinishedOperation = false then do
    replaceOperation
    pure (.inl { state with replacedFinishedOperation := true, retryIndex := 0 })
  else if allowInternalRetry ∧ state.retryIndex < delays.length then
    match structuredRetryDelayMillis error with
    | none => Local.lift (presentStartError epoch error)
    | some serverDelay => do
      Local.lift (waitForStartRetry (max (delays.getD state.retryIndex 0) serverDelay) epoch)
      pure (.inl { state with retryIndex := state.retryIndex + 1 })
  else Local.lift (presentStartError epoch error)

/-- One round of `retry_start`. A journal entry written for this start is
cleared if the start is cancelled before anything was sent. -/
def retryStartRound (options : ConnectOptions) (allowInternalRetry : Bool) (epoch : UInt64)
    (clearFresh : Bool) (state : RetryStartState) :
    Starting (RetryStartState ⊕ ConnectionStartResponse) := do
  let request ← get
  let current ← Local.lift (surely (atomic .readEpoch))
  if current = epoch then do
    Local.lift (surely (take (.sendStart (.attempt options) request)))
    let result ← Local.lift (surely (receive (.startAnswer request.operationId)))
    match result with
    | .ok response => pure (.inr response)
    | .error error =>
      startRequestFailed env allowInternalRetry epoch { state with dispatched := true } error
  else do
    Local.lift (whenever (clearFresh && !state.dispatched)
      (stored (.clearPendingStart .unsent request.operationId)))
    throw .startCancelled

def retryStart (options : ConnectOptions) (allowInternalRetry : Bool) (epoch : UInt64)
    (clearFresh : Bool) : Starting ConnectionStartResponse :=
  Local.loop (retryStartRound env options allowInternalRetry epoch clearFresh)
    ⟨0, false, false, false⟩

end Request

section Handshake

inductive HandshakeWaitOutcome where
  | established
  | metricsUnsupported
  | timedOut

def handshakeOver (lastError : Option CoreError) :
    Core (Option CoreError ⊕ HandshakeWaitOutcome) :=
  match lastError with
  | some error => throw error
  | none => pure (.inr .timedOut)

variable (epoch : Option UInt64)

def handshakePause (lastError : Option CoreError) :
    Core (Option CoreError ⊕ HandshakeWaitOutcome) := do
  let passed ← surely (Prog.call (M := core) (.question .handshakeDeadlinePassed))
  if passed then handshakeOver lastError
  else do
    awaitWithStartCancellation epoch (pure ()) (pure ())
    pure (.inl lastError)

def handshakePolled : MetricsAnswer → Core (Option CoreError ⊕ HandshakeWaitOutcome)
  | .timedOut => handshakeOver (some (.tunnel "tunnel_metrics_timeout"))
  | .handshake => pure (.inr .established)
  | .noHandshake => handshakePause epoch none
  | .unsupported => pure (.inr .metricsUnsupported)
  | .failed code =>
    if code == "metrics_unavailable" || code == "metrics_not_supported" then
      pure (.inr .metricsUnsupported)
    else handshakePause epoch (some (.tunnel code))

def handshakeRound (lastError : Option CoreError) :
    Core (Option CoreError ⊕ HandshakeWaitOutcome) := do
  let passed ← surely (Prog.call (M := core) (.question .handshakeDeadlinePassed))
  if passed then handshakeOver lastError
  else do
    let metrics ← awaitWithStartCancellation epoch (pure ())
      (Prog.call (M := core) (.question .tunnelMetrics))
    handshakePolled epoch metrics

def waitForHandshake : Core HandshakeWaitOutcome := Fallible.loop (handshakeRound epoch) none

def tunnelIsRunningAfterMetricsFailure : Core Bool := do
  let status ← awaitWithStartCancellation epoch (pure ())
    (Prog.call (M := core) (.question .tunnelStatus))
  match status with
  | .ok .running => pure true
  | _ => pure false

def handshakeRebound : Core Unit := do
  let second ← waitForHandshake epoch
  match second with
  | .established | .metricsUnsupported => pure ()
  | .timedOut => throw (.tunnel "tunnel_handshake_timeout")

def handshakeRebind (initialError : Option CoreError) : Core Unit := do
  let rebound ← awaitWithStartCancellation epoch (pure ())
    (Prog.call (M := core) (.question .rebindUdp))
  match rebound with
  | .ok true => handshakeRebound epoch
  | .ok false => throw (initialError.getD (.tunnel "tunnel_handshake_timeout"))
  | .error code => throw (.tunnel code)

def ensureAwg3Handshake : Core Unit := do
  let first ← outcome (waitForHandshake epoch)
  match first with
  | .ok .established | .ok .metricsUnsupported => pure ()
  | .ok .timedOut => handshakeRebind epoch none
  | .error .startCancelled => throw .startCancelled
  | .error metricsError => do
    let running ← tunnelIsRunningAfterMetricsFailure epoch
    require running metricsError
    handshakeRebind epoch (some metricsError)

end Handshake

section Compensation

variable (env : CoreParameters)

structure FailedStartContext where
  connection : Connection
  operationId : String
  redundantSessionId : Option String
  /-- Whether the panel finishes a cancelled start by itself. -/
  asyncStopV1 : Bool
  cancelEpoch : UInt64

def isHandshakeTimeout : CoreError → Bool
  | .tunnel code => code == "tunnel_handshake_timeout"
  | _ => false

def compensationFailureCode (error : CoreError) : Option String :=
  if isHandshakeTimeout error then some "tunnel_handshake_timeout" else none

def setCompensationState (state : CoreState) (epoch : Option UInt64) : Core Unit :=
  surely (locked (.setCompensationState state epoch))

variable (context : FailedStartContext) (stage : FailedStartStage)

/-- Whether the native side owns the session of a start that got as far as the tunnel. -/
def nativeOwner : Core Bool :=
  if stage.localStartMayBeIncomplete then attempt (tunnelError <$> inquire .ownsRedundantSession)
  else pure false

def tunnelMayRun : Core Bool :=
  if stage.localStartMayBeIncomplete then do
    let status ← surely (inquire .tunnelStatus)
    match status with
    | .ok .stopped => pure false
    | _ => pure true
  else pure false

def compensateTunnel : Core (Except CoreError Unit) := do
  let mayRun ← tunnelMayRun stage
  if mayRun then outcome (attempt (tunnelError <$> inquire .tunnelStopIfUnowned))
  else pure (.ok ())

/-- Publish the end of a compensation; a tunnel that may run keeps `Stopping`. -/
def presentCompensation (presentation : Option UInt64) (phase : Phase)
    (connection : Connection) : Core Unit := do
  let mayRun ← tunnelMayRun stage
  setCompensationState ⟨if mayRun then .stopping else phase, some connection⟩ presentation

def failureOf {α : Type} : Except CoreError α → Option CoreError
  | .ok _ => none
  | .error error => some error

variable (error : CoreError)

def settleJournals
    (pending : StoredPendingCompensationStop) : Core (Option CoreError) := do
  let ground := ClearGround.stoppedLease pending.leaseId
  let settled ← outcome
    (if isHandshakeTimeout error then
      reconcileHandshakeTimeoutStorage ground context.operationId context.connection
    else stored (.clearPendingStart ground context.operationId))
  match settled with
  | .error storageError => pure (some storageError)
  | .ok () => do
    let cleared ← outcome
      (stored (.clearPendingCompensationStop .finished pending.operationId pending.leaseId))
    pure (failureOf cleared)

def compensationFailedPhase : Phase :=
  if phaseForStartError error = .serverUnavailable then .stopping else phaseForStartError error

def compensationAnswered (presentation : Option UInt64) (pending : StoredPendingCompensationStop) :
    Except CoreError Connection → Core Unit
  | .error compensationError =>
    presentCompensation stage presentation (compensationFailedPhase compensationError)
      context.connection
  | .ok answered =>
    if compensationStopConfirmsFinished pending.failureCode pending.acceptWarm answered.status then do
      let storageError ← settleJournals context error pending
      presentCompensation stage presentation (phaseForStartError error) answered
      match storageError with
      | some storageError => throw storageError
      | none => pure ()
    else do
      setCompensationState ⟨.stopping, some answered⟩ presentation
      throw compensationStopNotTerminalError

def compensateJournalled (presentation : Option UInt64) (pending : StoredPendingCompensationStop) :
    Core Unit := do
  let cleanup ← compensateTunnel stage
  match cleanup with
  | .error cleanupError => do
    let owned ← attempt (tunnelError <$> inquire .ownsRedundantSession)
    if owned then pure ()
    else do
      setCompensationState ⟨.stopping, some context.connection⟩ presentation
      throw cleanupError
  | .ok () => do
    let owned ← nativeOwner stage
    if owned then pure ()
    else do
      let result ← outcome (retryCompensationStop env pending false)
      compensationAnswered context stage error presentation pending result

def compensationUnjournalled
    (presentation : Option UInt64) (storageError : CoreError) : Core Unit := do
  presentCompensation stage presentation (phaseForStartError storageError) context.connection
  throw storageError

def failedStartIdentity : CompensationIdentity :=
  ⟨context.connection.leaseId, storedConnectionAcceptsWarm context.connection,
    compensationFailureCode error, context.redundantSessionId⟩

def compensateFailedStart : Core Unit := do
  let presentation ← surely (locked (.presentationEpoch context.cancelEpoch))
  let owned ← nativeOwner stage
  if owned then pure ()
  else do
    surely Prog.pause
    let journal ← outcome
      (stored (.pendingCompensationStopIdentity (failedStartIdentity context error)))
    match journal with
    | .error storageError => compensationUnjournalled context stage presentation storageError
    | .ok pending => compensateJournalled env context stage error presentation pending

def cancelAsync : Core Unit := do
  let stored ← stored .loadRuntime
  let found := stored.pendingStart.filter fun pending =>
    pending.operationId == context.operationId && pending.recoveryContractVersion == some 2
  match found with
  | none => throw unresolvedStartOperationError
  | some pending => do
    let epoch ← surely (atomic .readEpoch)
    let _ ← cancelOnce env pending (some epoch) (some context.connection.leaseId)
    attempt (locked (.forgetConnection epoch (some context.connection.leaseId)))

def compensateCancelledStart :
    Core CoreError := do
  let result ← outcome
    (if context.asyncStopV1 && !stage.localStartMayBeIncomplete then cancelAsync env context
    else compensateFailedStart env context stage .startCancelled)
  return (failureOf result).getD .startCancelled

def failWith {α : Type} (context : FailedStartContext) (stage : FailedStartStage)
    (error : CoreError) : Core α := do
  let result ← outcome (compensateFailedStart env context stage error)
  throw ((failureOf result).getD error)

def checkpoint : Core Unit := do
  let current ← outcome (ensureStartNotCancelled context.cancelEpoch)
  match current with
  | .ok () => pure ()
  | .error _ => do
    let error ← compensateCancelledStart env context stage
    throw error

end Compensation

section Start

variable (env : CoreParameters)

structure StartCall where
  options : ConnectOptions
  nowUnix : Int
  allowInternalRetry : Bool
  /-- Contract of a start that is not journalled yet. -/
  contract : ConnectionStartContract
  reserveEnabled : Bool
  epoch : UInt64

/-- The local part after the tunnel runs: publish the connection, unless the
start was cancelled. -/
def publishStart (context : FailedStartContext) : Core Connection := do
  surely Prog.pause
  let published ← surely (Prog.ask (M := core)
    (.publishStarted context.cancelEpoch context.operationId context.connection))
  if published then do
    surely (atomic (.clearQuarantine context.connection.leaseId))
    surely Prog.pause
    pure context.connection
  else do
    let error ← compensateCancelledStart env context .local
    throw error

def confirmHandshake (context : FailedStartContext) : Core Connection := do
  let handshake ← outcome (ensureAwg3Handshake (some context.cancelEpoch))
  checkpoint env context .local
  match handshake with
  | .ok () => publishStart env context
  | .error error => failWith env context .local error

/-- Whether a failed start keeps its own error although its compensation failed. -/
def keepsStartError (error : CoreError) (compensation : Option CoreError) : Bool :=
  (error == .tunnel "tunnel_start_timeout" || error == .tunnel "tunnel_handshake_timeout") &&
    compensation == some (.tunnel "redundant_stop_pending")

def localStartRejected (context : FailedStartContext) (error : CoreError) : Core Connection := do
  let result ← outcome (compensateFailedStart env context .local error)
  if keepsStartError error (failureOf result) then throw error
  else throw ((failureOf result).getD error)

def startLocally (context : FailedStartContext) (transport : TunnelTransport)
    (redundant : Bool) : Core Connection := do
  let result ← surely (begun (.tunnelStart .online context.connection.leaseId))
  checkpoint env context .local
  match result with
  | .error code => localStartRejected env context (.tunnel code)
  | .ok () =>
    if transport == .amneziaWg3 && !redundant then confirmHandshake env context
    else publishStart env context

/-- The connection that a start remembers; a redundant one is not cached. -/
def rememberedConnection (nowUnix : Int) (response : ConnectionStartResponse) (redundant : Bool) :
    Option StoredConnection :=
  if redundant then none
  else
    let kind := storedConnectionKind response.connection
    some
      { leaseId := response.connection.leaseId
        poolId := response.connection.poolId, layer := response.connection.layer
        ticConnectionMode := response.connection.ticConnectionMode
        routeMode := response.connection.routeMode, egressMode := response.connection.egressMode
        probeUrl := response.connection.probeUrl, kind := kind
        configuration := response.configuration
        validUntilUnix :=
          if kind == .dynamicWarm then some (saturatingAddI64 nowUnix 3600) else none }

/-- Remember the started connection, then start the tunnel. The record is
loaded again: the request may have changed it. -/
def rememberAndStart (context : FailedStartContext) (nowUnix : Int)
    (response : ConnectionStartResponse) (redundant : Bool) : Core Connection := do
  let current ← stored .loadRuntime
  let saved ← outcome (stored (.saveRuntime .started
    (withStartedConnection (rememberedConnection nowUnix response redundant) current)))
  match saved with
  | .error _ => failWith env context .storage .storage
  | .ok () => startLocally env context (env.transport response.configuration) redundant

def answersOptions (connection : Connection) (options : ConnectOptions) : Bool :=
  connection.layer == options.layer && connection.ticConnectionMode == options.ticConnectionMode &&
    connection.routeMode == options.routeMode && connection.egressMode == options.egressMode

/-- A started connection that answers the options is published as connecting. -/
def acceptStart (context : FailedStartContext) (call : StartCall) (splitPolicy : Bool)
    (request : ConnectionStartRequest) (response : ConnectionStartResponse) : Core Connection := do
  writeCore ⟨.connecting, some context.connection⟩
  whenever splitPolicy (surely Prog.pause)
  match redundantTunnelStart response request.requestFingerprint request.reserveEnabled with
  | .error error => failWith env context .preparation error
  | .ok redundant => rememberAndStart env context call.nowUnix response redundant

def withSession (response : ConnectionStartResponse) : ConnectionStartResponse :=
  if response.connection.sessionId.isNone then
    { response with
      connection :=
        { response.connection with sessionId := response.redundancy.map (·.sessionId) } }
  else response

def startContext (call : StartCall) (operationId : String) (response : ConnectionStartResponse) :
    FailedStartContext :=
  { connection := response.connection
    operationId := operationId, redundantSessionId := response.redundancy.map (·.sessionId)
    asyncStopV1 := response.redundancy.any (·.asyncStopV1), cancelEpoch := call.epoch }

def startAnswered (call : StartCall) (splitPolicy : Bool) (request : ConnectionStartRequest)
    (response : ConnectionStartResponse) : Core Connection := do
  let context := startContext call request.operationId response
  checkpoint env context .preparation
  if answersOptions response.connection call.options then
    acceptStart env context call splitPolicy request response
  else
    failWith env context .preparation
      (invalidStartResponse "Панель вернула подключение с другими параметрами.")

def startRequested (call : StartCall) (splitPolicy : Bool) :
    Except CoreError ConnectionStartResponse × ConnectionStartRequest → Core Connection
  | (.error error, request) => do
    attempt (Prog.ask (M := core) (.failStart call.epoch request.operationId error))
    throw error
  | (.ok response, request) => startAnswered env call splitPolicy request (withSession response)

/-- The request of a start. A journalled start repeats its own measurements. -/
def startRequest (options : ConnectOptions) (parts : PendingStartContractParts)
    (operationId : String) (probes : List ProbeResult) : ConnectionStartRequest :=
  { operationId := operationId
    layer := options.layer, ticConnectionMode := options.ticConnectionMode
    routeMode := options.routeMode, egressMode := options.egressMode, probes := probes
    allowAlternate := options.allowAlternate
    requireMeasuredSelection := requireMeasuredSelection parts.contract options
    recoveryContractVersion := parts.recoveryContractVersion
    redundancyContractVersion := parts.redundancyContractVersion
    reserveEnabled := parts.reserveEnabled, requestFingerprint := parts.requestFingerprint }

def startEntry (options : ConnectOptions) (parts : PendingStartContractParts)
    (operationId : String) : StoredPendingStart :=
  { operationId := operationId
    layer := options.layer, ticConnectionMode := options.ticConnectionMode
    routeMode := options.routeMode, egressMode := options.egressMode
    allowAlternate := options.allowAlternate, probes := options.probes
    recoveryContractVersion := parts.recoveryContractVersion
    redundancyContractVersion := parts.redundancyContractVersion
    reserveEnabled := parts.reserveEnabled, requestFingerprint := parts.requestFingerprint
    cancelOperationId := none }

def dispatchStart (call : StartCall) (splitPolicy : Bool) (request : ConnectionStartRequest)
    (clearFresh : Bool) : Core Connection := do
  surely (atomic (.setPendingStartActive true))
  setPhase .connecting
  let answer ← Local.observe request
    (retryStart env call.options call.allowInternalRetry call.epoch clearFresh)
  startRequested env call splitPolicy answer

/-- Operation of a new start: a warm lease of these options may lend its own. -/
def freshOperationId (call : StartCall) (stored : RuntimeState) : Core String :=
  if call.contract == .recoveryV2 then newOperationId
  else operationOrNew (reusableOperationId stored call.options call.nowUnix)

def startJournalled (call : StartCall) (found : RuntimeState) (splitPolicy : Bool) :
    Core Connection :=
  match found.pendingStart with
  | some pending => do
    let parts ← decided (pendingStartContract pending)
    dispatchStart env call splitPolicy
      (startRequest call.options parts pending.operationId pending.probes) false
  | none => do
    let parts := freshContractParts env call.contract call.options call.reserveEnabled
    let operationId ← freshOperationId call found
    stored (.journalPendingStart (startEntry call.options parts operationId))
    dispatchStart env call splitPolicy
      (startRequest call.options parts operationId call.options.probes) true

def admitPending (options : ConnectOptions) : Option StoredPendingStart → Core Unit
  | none => pure ()
  | some pending =>
    if pending.cancelOperationId.isSome then do
      setPhase .stopping
      throw unresolvedStartOperationError
    else if pendingStartMatchesOptions pending options then pure ()
    else do
      setPhase .serverUnavailable
      throw unresolvedStartOperationError

/-- What the split-tunnel half prepares for a start: whether a policy is cached. -/
def preflight : Core Bool := do
  let splitPolicy ← attempt (Prog.call (M := core) (.question .splitPolicy))
  attempt (inquire .splitOptions)
  return splitPolicy

def requireSupported (stored : RuntimeState) : Core Unit :=
  if stored.compatibility.any (·.updateRequired) then do
    setPhase .updateRequired
    throw .updateRequired
  else pure ()

def prepareStart (call : StartCall) (found : RuntimeState) : Core (RuntimeState × Bool) := do
  requireSupported found
  admitPending call.options found.pendingStart
  ensureStartNotCancelled call.epoch
  releaseStalePanelConnectionBeforeStart env found.pendingStart
  ensureStartNotCancelled call.epoch
  let found ← stored .loadRuntime
  admitPending call.options found.pendingStart
  let splitPolicy ← preflight
  ensureStartNotCancelled call.epoch
  accessSnapshot
  return (found, splitPolicy)

def startHoldingGates (call : StartCall) : Core Connection := do
  let found ← stored .loadRuntime
  let connected ← connectedConnection
  match connected with
  | some connection => pure connection
  | none => do
    let (found, splitPolicy) ← prepareStart env call found
    startJournalled env call found splitPolicy

def resumeBeforeStart (epoch : UInt64) : Option StoredPendingCompensationStop → Core Unit
  | none => pure ()
  | some pending => do
    setPhase .stopping
    resumePendingCompensationStop env pending
    ensureStartNotCancelled epoch

def startInternal (call : StartCall) : Core Connection := do
  let call := { call with options := call.options.normalizedForLayer }
  ensureStartNotCancelled call.epoch
  let found ← stored .loadRuntime
  resumeBeforeStart env call.epoch found.pendingCompensationStop
  withGate .split (withGate .connection (startHoldingGates env call))

end Start

section Public

variable (env : CoreParameters)

/-- Run a start between `begin_start_attempt` and `finish_start_attempt`. -/
def startAttempt {α : Type} (x : UInt64 → Core α) : Core α := do
  let epoch ← surely (atomic .beginStartAttempt)
  let result ← outcome (x epoch)
  surely (atomic .finishStartAttempt)
  decided result

variable (plan : StallRecoveryPlan) (options : ConnectOptions) (nowUnix : Int) (epoch : UInt64)

def startWithCancellationEpoch :
    Core Connection :=
  withGate .intent (startInternal env ⟨options, nowUnix, true, .legacy, false, epoch⟩)

def start : Core Connection := startAttempt (startWithCancellationEpoch env options nowUnix)

def startRecoveryV2WithCancellationEpoch
    (reserveEnabled : Bool) (epoch : UInt64) : Core Connection :=
  withGate .intent (startInternal env ⟨options, nowUnix, true, .recoveryV2, reserveEnabled, epoch⟩)

def startRecoveryV2 (reserveEnabled : Bool) :
    Core Connection :=
  startAttempt (startRecoveryV2WithCancellationEpoch env options nowUnix reserveEnabled)

def connectionIntentAttemptWithCancellationEpoch : Core Connection :=
  withGate .intent (startInternal env ⟨options, nowUnix, false, .recoveryV1, false, epoch⟩)

def connectionIntentAttempt : Core Connection :=
  startAttempt (connectionIntentAttemptWithCancellationEpoch env options nowUnix)

def explicitCancelFailed (retryIndex : Nat) : CoreError → Core (Nat ⊕ Unit)
  | .api (.rejected code message retryAfterSeconds) =>
    if code = "operation_in_progress" ∧ retryIndex < env.delaysMillis.length then
      match structuredRetryDelayMillis (.rejected code message retryAfterSeconds) with
      | none => throw unresolvedStartOperationError
      | some serverDelay => do
        waitForStartRetry (min (max (env.delaysMillis.getD retryIndex 0) serverDelay) 5000) epoch
        pure (.inl (retryIndex + 1))
    else throw (.api (.rejected code message retryAfterSeconds))
  | error => throw error

def explicitRound (retryIndex : Nat) : Cancelling (Nat ⊕ Unit) := do
  Local.lift (ensureStartNotCancelled epoch)
  ensureScope (some epoch)
  let result ← Local.outcome (cancelPendingStart env (some epoch) none)
  match result with
  | .ok _ => do
    Local.lift (ensureStartNotCancelled epoch)
    let stored ← Local.lift (stored .loadRuntime)
    Local.lift (require stored.pendingStart.isNone unresolvedStartOperationError)
    pure (.inr ())
  | .error error => Local.lift (explicitCancelFailed env epoch retryIndex error)

def supersede (options : ConnectOptions) : Option StoredPendingStart → Core Unit
  | none => pure ()
  | some pending =>
    if pending.cancelOperationId.isNone &&
        pendingStartMatchesOptions pending options.normalizedForLayer then pure ()
    else do
      ensurePendingCleanupScope (some (pending, epoch))
      Local.forget ⟨pending, false⟩ (Local.loop (explicitRound env epoch) 0)

def prepareExplicitStart : Core Unit :=
  withGate .intent (withGate .split (withGate .connection do
    ensureStartNotCancelled epoch
    let stored ← stored .loadRuntime
    supersede env epoch options stored.pendingStart))

def beginRecoveryEpisode (connection : Connection) (options : ConnectOptions) : Core Unit := do
  let active ← surely (locked .readEpisode)
  match active.filter (·.sessionId == connection.leaseId) with
  | some episode => surely (atomic (.setEpisode (some { episode with options := options })))
  | none => do
    let stopOperationId ← newOperationId
    surely (atomic (.setEpisode (some ⟨connection.leaseId, options, stopOperationId⟩)))

def episodeOperationId : Core String := do
  let episode ← surely (locked .readEpisode)
  match episode with
  | some episode => pure episode.stopOperationId
  | none => throw .storage

/-- The stop operation of a replacement: a live dynamic peer has a durable one. -/
def stalledOperationId (current : Connection) : Core String :=
  match plan with
  | .replaceDynamic _ _ =>
    if terminalLeaseStatus current.status then episodeOperationId
    else do
      let pending ← stored (.pendingStalledStopIdentity current.leaseId
        (stalledStopRequestFingerprintV1 env current.leaseId))
      pure pending.operationId
  | .preservePeer => episodeOperationId

def planFailureCode : StallRecoveryPlan → Option String
  | .replaceDynamic failureCode _ => some failureCode
  | .preservePeer => none

def planTerminal (status : LeaseStatus) : Bool :=
  match plan with
  | .replaceDynamic _ _ => terminalLeaseStatus status
  | .preservePeer => status == .warm || terminalLeaseStatus status

def forgetReplaced (operationId leaseId : String) : Core Unit :=
  match plan with
  | .replaceDynamic _ _ => do
    stored (.clearPendingStalledStop operationId leaseId)
    stored (.removeDynamicRecoveryCache leaseId)
    surely (atomic (.clearQuarantine leaseId))
  | .preservePeer => pure ()

def replacementOptions : ConnectOptions :=
  match plan with
  | .replaceDynamic _ allowAlternate => { options with allowAlternate := allowAlternate }
  | .preservePeer => options

def endEpisode : Core Unit := surely (locked (.setEpisode none))

def replacementCurrent : Core Unit := do
  let current ← outcome (ensureStartNotCancelled epoch)
  match current with
  | .ok () => pure ()
  | .error error => do
    endEpisode
    throw error

def replaced : Except CoreError Connection → Core Connection
  | .ok connection => do
    endEpisode
    pure connection
  | .error .startCancelled => do
    endEpisode
    throw .startCancelled
  | .error error => throw error

def startReplacement : Core Connection := do
  replacementCurrent epoch
  let replacement ← outcome (startInternal env
    ⟨replacementOptions plan options, nowUnix, false, .recoveryV1, false, epoch⟩)
  replaced replacement

def replaceStalled (current : Connection) : Core Connection := do
  let stopOperationId ← stalledOperationId env plan current
  let stopped ← stopInternal env (planFailureCode plan) false (some stopOperationId) true
  require (planTerminal plan stopped.status) connectionReleaseFailedError
  forgetReplaced plan stopOperationId current.leaseId
  startReplacement env plan options nowUnix epoch

def recoveryTransport (saved : StoredConnection) : RecoveryTransport :=
  if env.transport saved.configuration = .amneziaWg3 then .amneziaWg3 else .other

def cachedConnection (stored : RuntimeState) (leaseId : String) : Core StoredConnection :=
  match storedFor stored leaseId with
  | some saved => pure saved
  | none => throw .savedConnectionUnavailable

def replaceStalledConnectionWithCancellationEpoch : Core Connection :=
  withGate .intent do
    ensureStartNotCancelled epoch
    let options := options.normalizedForLayer
    let current ← publishedConnection
    let stored ← stored .loadRuntime
    let saved ← cachedConnection stored current.leaseId
    beginRecoveryEpisode current options
    let plan := stallRecoveryPlan options current.pinned (recoveryTransport env saved)
    replaceStalled env plan options nowUnix epoch current

def replaceStalledConnection : Core Connection :=
  startAttempt (replaceStalledConnectionWithCancellationEpoch env options nowUnix)

end Public

end NelomaiClient.CoreStart
