import NelomaiClient.CoreMachine

/-!
# Stops, cancellations and compensation of the core

The operations of `ClientCore` that end a connection: the panel requests with
their retries, the replay of a journalled compensation, the cancellation of a
start whose outcome is unknown, and the public stops above them. Log events,
the transport reset and the split-tunnel warnings have no counterpart here;
the awaits among them are kept.
-/

namespace NelomaiClient.CoreStop

open ConnectionContract CoreContract RuntimeRecord PanelContract CorePolicy RuntimeJournal
open AwaitProgram AwaitFallible CoreMachine

def readCore : Core CoreState := surely (locked .readCore)

def setPhase (phase : Phase) : Core Unit := surely (locked (.setPhase phase))

def writeCore (state : CoreState) : Core Unit := surely (locked (.writeCore state))

def ensureStartNotCancelled (epoch : UInt64) : Core Unit :=
  attempt (atomic (.ensureStartNotCancelled epoch))

def ensureEpoch : Option UInt64 → Core Unit
  | none => pure ()
  | some epoch => ensureStartNotCancelled epoch

def newOperationId : Core String := surely (Prog.call (M := core) (.question .newOperationId))

def accessSnapshot : Core Unit := do
  let _ ← stored .loadRuntime
  attempt (inquire .access)

def refreshAccessToken : Core Unit := attempt (inquire .refreshAccess)

def connectedConnection : Core (Option Connection) := do
  let state ← readCore
  return if state.phase == .connected then state.connection else none

def publishedConnection : Core Connection := do
  let state ← readCore
  match state.connection with
  | some connection => pure connection
  | none => throw .savedConnectionUnavailable

def requireCoreStopOwnership : Core Unit := do
  let owned ← attempt (tunnelError <$> inquire .ownsRedundantSession)
  require (!owned) (.tunnel "redundant_session_service_owned")

/-- Stop the tunnel unless it is known to be stopped or somebody else owns it. -/
def stopTunnelIfUnowned : Core Unit := do
  let status ← surely (inquire .tunnelStatus)
  match status with
  | .ok .stopped => pure ()
  | _ => attempt (tunnelError <$> inquire .tunnelStopIfUnowned)

abbrev Scope : Type := Option (StoredPendingStart × UInt64)

def requirePending (pending : StoredPendingStart) : Core Unit := do
  let stored ← stored .loadRuntime
  require (stored.pendingStart == some pending) unresolvedStartOperationError

def ensurePendingCleanupScope : Scope → Core Unit
  | none => pure ()
  | some (pending, epoch) => do
    ensureStartNotCancelled epoch
    requirePending pending
    let nativeStatus ← attempt (tunnelError <$> inquire .tunnelStatus)
    let nativeOwned ← attempt (tunnelError <$> inquire .ownsRedundantSession)
    let connected ← connectedConnection
    ensureStartNotCancelled epoch
    let stored ← stored .loadRuntime
    require (stored.pendingStart == some pending && connected.isNone && !nativeOwned &&
      nativeStatus == .stopped) unresolvedStartOperationError

/-- `await_with_start_cancellation` of one request: it leaves at the first poll,
and a cancelled epoch wins over its answer. -/
def awaitWithStartCancellation {α : Type} (epoch : Option UInt64) (dispatch : Prog core Unit)
    (answer : Prog core α) : Core α := do
  ensureEpoch epoch
  surely dispatch
  surely Prog.pause
  ensureEpoch epoch
  surely answer

def waitForStartRetry (delayMillis : Nat) (epoch : UInt64) : Core Unit := do
  ensureStartNotCancelled epoch
  surely (inquire (.sleep delayMillis))
  ensureStartNotCancelled epoch

section Requests

variable (env : CoreParameters)

def refreshCleanupAccess (scope : Scope) : Refreshing Unit := do
  Local.lift (ensurePendingCleanupScope scope)
  let used ← get
  Local.lift (require (!used) (.ofApi .unauthorized))
  set true
  Local.lift refreshAccessToken
  Local.lift (ensurePendingCleanupScope scope)

def askReconcile (scope : Scope) (request : OperationReconcileRequest) :
    Core (Except CoreApiError OperationReconcileResponse) := do
  let result ← awaitWithStartCancellation (scope.map (·.2)) (pure ())
    (take (.reconcileAnswer request))
  ensurePendingCleanupScope scope
  return result

def reconcileAgain (scope : Scope) (request : OperationReconcileRequest) :
    Except CoreApiError OperationReconcileResponse → Refreshing OperationReconcileResponse
  | .ok response => pure response
  | .error .unauthorized => do
    refreshCleanupAccess scope
    let result ← Local.lift (askReconcile scope request)
    Local.lift (decided (apiError result))
  | .error error => throw (.ofApi error)

def reconcileOperation (scope : Scope) (request : OperationReconcileRequest) :
    Refreshing OperationReconcileResponse := do
  Local.lift (ensurePendingCleanupScope scope)
  Local.lift accessSnapshot
  Local.lift (ensurePendingCleanupScope scope)
  let result ← Local.lift (askReconcile scope request)
  let response ← reconcileAgain scope request result
  Local.lift (ensurePendingCleanupScope scope)
  return response

def retryDelay (delayMillis : Nat) : Option UInt64 → Core Unit
  | some epoch => whenever (decide (0 < delayMillis)) (waitForStartRetry delayMillis epoch)
  | none => whenever (decide (0 < delayMillis)) (surely (inquire (.sleep delayMillis)))

def operationFailed (scope : Scope) (operation : ConnectionOperation) (presentError : Bool)
    (retryIndex : Nat) (error : CoreApiError) : Refreshing (Nat ⊕ Connection) := do
  let used ← get
  if error = .unauthorized ∧ used = false then do
    refreshCleanupAccess scope
    pure (.inl retryIndex)
  else if error = .retryable ∧ retryIndex < env.delaysMillis.length then do
    Local.lift (retryDelay (env.delaysMillis.getD retryIndex 0) (scope.map (·.2)))
    pure (.inl (retryIndex + 1))
  else do
    Local.lift (whenever (presentError && operation == .stop) (setPhase (phaseForApiError error)))
    throw (.ofApi error)

def operationRound (origin : OperationOrigin) (operation : ConnectionOperation)
    (request : ConnectionOperationRequest) (scope : Scope) (presentError : Bool)
    (retryIndex : Nat) : Refreshing (Nat ⊕ Connection) := do
  Local.lift (ensurePendingCleanupScope scope)
  let result ← Local.lift (awaitWithStartCancellation (scope.map (·.2))
    (take (.sendOperation origin operation request))
    (take (.operationAnswer operation request)))
  Local.lift (ensurePendingCleanupScope scope)
  match result with
  | .ok connection => pure (.inr connection)
  | .error error => operationFailed env scope operation presentError retryIndex error

def retryOperationScoped (origin : OperationOrigin) (operation : ConnectionOperation)
    (request : ConnectionOperationRequest) (scope : Scope) (presentError : Bool) :
    Refreshing Connection :=
  Local.loop (operationRound env origin operation request scope presentError) 0

def retryOperation (operation : ConnectionOperation) (request : ConnectionOperationRequest) :
    Core Connection :=
  Local.forget false (retryOperationScoped env .ordinary operation request none true)

def sessionStopFailed (presentError : Bool) (retryIndex : Nat) (refreshed : Bool)
    (error : CoreApiError) : Core ((Nat × Bool) ⊕ Connection) :=
  if error = .unauthorized ∧ refreshed = false then do
    refreshAccessToken
    pure (.inl (retryIndex, true))
  else if error = .retryable ∧ retryIndex < env.delaysMillis.length then do
    retryDelay (env.delaysMillis.getD retryIndex 0) none
    pure (.inl (retryIndex + 1, refreshed))
  else do
    whenever presentError (setPhase (phaseForApiError error))
    throw (.ofApi error)

/-- One round of the stop of a redundant session. A released primary does not
prove that the reserve is clean. -/
def sessionStopRound (request : RedundantStopRequest) (presentError : Bool) :
    Nat × Bool → Core ((Nat × Bool) ⊕ Connection)
  | (retryIndex, refreshed) => do
    surely (take (.sendSessionStop request))
    let result ← surely (receive (.sessionStopAnswer request))
    match result with
    | .ok connection => do
      require (connection.leaseId == request.leaseId) invalidOperationReconcileResponse
      require connection.sessionId.isNone compensationStopNotTerminalError
      pure (.inr connection)
    | .error error => sessionStopFailed env presentError retryIndex refreshed error

def retryCompensationStop (pending : StoredPendingCompensationStop) (presentError : Bool) :
    Core Connection :=
  match pendingCompensationRedundantSession pending with
  | .error error => throw error
  | .ok none =>
    Local.forget false (retryOperationScoped env .ordinary .stop
      ⟨pending.operationId, pending.leaseId, pending.failureCode⟩ none presentError)
  | .ok (some sessionId) =>
    Fallible.loop
      (sessionStopRound env ⟨pending.operationId, pending.leaseId, sessionId⟩ presentError)
      (0, false)

end Requests

section Stop

variable (env : CoreParameters)
variable (failureCode : Option String)

def requireFinished (acceptWarm : Bool) (status : LeaseStatus) :
    Core Unit :=
  decided (requireCompensationStopFinished failureCode acceptWarm status)

/-- Clear the start journal that a stop found, whatever start it belongs to. -/
def clearFoundStart (ground : ClearGround) : Option StoredPendingStart → Core Unit
  | none => pure ()
  | some pending => stored (.clearPendingStart ground pending.operationId)

def compensationFor (connection : Connection) : CompensationIdentity :=
  ⟨connection.leaseId, storedConnectionAcceptsWarm connection, none, connection.sessionId⟩

def releaseRestoredSession (connection : Connection) : Core Connection := do
  let pending ← stored (.pendingCompensationStopIdentity (compensationFor connection))
  setPhase .stopping
  accessSnapshot
  let released ← retryCompensationStop env pending true
  requireFinished none pending.acceptWarm released.status
  stored (.clearPendingCompensationStop .finished pending.operationId pending.leaseId)
  writeCore ⟨.ready, some released⟩
  return released

def stopFailedPhase : CoreError → Core Phase
  | .signedOut => pure .signedOut
  | .accessExpired => pure .accessExpired
  | .updateRequired => pure .updateRequired
  | _ => do
    let state ← readCore
    return if state.phase == .error then .error else .stopping

def stopAnswered (acceptWarm : Bool) (current : Connection)
    (pendingStart : Option StoredPendingStart) : Except CoreError Connection → Core Connection
  | .error error => do
    let phase ← stopFailedPhase error
    writeCore ⟨phase, some current⟩
    throw error
  | .ok connection =>
    if compensationStopConfirmsFinished failureCode acceptWarm connection.status then do
      clearFoundStart (.stoppedLease current.leaseId) pendingStart
      writeCore ⟨.ready, some connection⟩
      pure connection
    else do
      writeCore ⟨.stopping, some connection⟩
      pure connection

def operationOrNew : Option String → Core String
  | some operationId => pure operationId
  | none => newOperationId

def stopAtPanel (failureCode operationId : Option String) (acceptWarm : Bool)
    (current : Connection) : Core Connection := do
  let stored ← stored .loadRuntime
  accessSnapshot
  let operationId ← operationOrNew operationId
  let result ← outcome (retryOperation env .stop ⟨operationId, current.leaseId, failureCode⟩)
  stopAnswered failureCode acceptWarm current stored.pendingStart result

/-- The local half of `stop_internal`: a failed local stop leaves the phase at `Stopping`. -/
def stopLocalHalf : Core Unit := do
  let result ← outcome stopTunnelIfUnowned
  match result with
  | .ok () => surely Prog.pause
  | .error error => do
    setPhase .stopping
    throw error

/-- The part of `stop_internal` after the published connection was read. A warm
lease that is live or has a durable stop still needs the panel. -/
def stopCurrent (clearRecoveryEpisode : Bool)
    (operationId : Option String) (acceptWarm : Bool) (phase : Phase) (current : Connection) :
    Core Connection := do
  whenever clearRecoveryEpisode (surely (locked (.setEpisode none)))
  let warmRequiresStop := current.status == .warm &&
    (phase == .connected || phase == .stopping || operationId.isSome)
  let panelConnectionFinished := !warmRequiresStop &&
    compensationStopConfirmsFinished failureCode acceptWarm current.status
  setPhase .stopping
  stopLocalHalf
  if current.sessionId.isSome then releaseRestoredSession env current
  else if panelConnectionFinished then do
    writeCore ⟨.ready, some current⟩
    pure current
  else stopAtPanel env failureCode operationId acceptWarm current

def stopInternal (clearRecoveryEpisode : Bool)
    (operationId : Option String) (acceptWarm : Bool) : Core Connection :=
  withGate .split (withGate .connection do
    requireCoreStopOwnership
    let state ← readCore
    match state.connection with
    | none => throw .savedConnectionUnavailable
    | some current =>
      stopCurrent env failureCode clearRecoveryEpisode operationId acceptWarm state.phase current)

end Stop

end NelomaiClient.CoreStop
