import NelomaiClient.CoreStop

/-!
# Replays and cancellations of the core

The replay of a journalled compensation, the cancellation of a start whose
outcome is unknown, and the public operations that end a connection.
-/

namespace NelomaiClient.CoreCancel

open ConnectionContract CoreContract RuntimeRecord PanelContract CorePolicy RuntimeJournal
open AwaitProgram AwaitFallible CoreMachine CoreStop

section Compensation

variable (env : CoreParameters)

/-- `reconcile_handshake_timeout_storage`: a lease whose cache could not be
written must not be started offline. -/
def reconcileHandshakeTimeoutStorage (ground : ClearGround) (operationId : String)
    (connection : Connection) : Core Unit := do
  let result ← outcome (stored (.reconcileHandshakeTimeoutStorage ground operationId connection))
  match result with
  | .ok () => surely (atomic (.clearQuarantine connection.leaseId))
  | .error error => do
    surely (atomic (.quarantine connection.leaseId))
    throw error

/-- `reconcile_pending_handshake_timeout_storage`, for the lease whose stop finished. -/
def reconcilePendingHandshakeTimeoutStorage (leaseId : String) (connection : Connection) :
    Core Unit := do
  let stored ← stored .loadRuntime
  reconcileHandshakeTimeoutStorage (.stoppedLease leaseId)
    ((stored.pendingStart.map (·.operationId)).getD "") connection

def handshakeTimedOut (failureCode : Option String) : Bool :=
  failureCode == some "tunnel_handshake_timeout"

variable (pending : StoredPendingCompensationStop)

def replayAnswered
    (pendingStart : Option StoredPendingStart) : Except CoreError Connection → Core Unit
  | .error error => do
    let state ← readCore
    whenever (state.phase == .serverUnavailable) (setPhase .stopping)
    throw error
  | .ok connection => do
    requireFinished pending.failureCode pending.acceptWarm connection.status
    if handshakeTimedOut pending.failureCode then
      reconcilePendingHandshakeTimeoutStorage pending.leaseId connection
    else clearFoundStart (.stoppedLease pending.leaseId) pendingStart
    stored (.clearPendingCompensationStop .finished pending.operationId pending.leaseId)
    writeCore ⟨.ready, some connection⟩

def replayPendingCompensationStopWithoutConnection :
    Core Unit :=
  withGate .split (withGate .connection do
    setPhase .stopping
    stopTunnelIfUnowned
    surely Prog.pause
    let stored ← stored .loadRuntime
    require (stored.pendingCompensationStop == some pending) .storage
    accessSnapshot
    let result ← outcome (retryCompensationStop env pending true)
    replayAnswered pending stored.pendingStart result)

/-- Whether the published connection is not the one the journal is about. -/
def foreignConnection (sessionId : Option String)
    (current : Connection) : Bool :=
  (current.leaseId != pending.leaseId || current.sessionId.isSome) &&
    !(sessionId.isSome && current.sessionId == sessionId)

/-- Whether a foreign connection is a finished one that a bootstrap fell back to. -/
def inactiveConnection (sessionId : Option String) (current : Connection) : Bool :=
  sessionId.isSome && current.sessionId.isNone &&
    (terminalLeaseStatus current.status || current.status == .warm)

/-- A journal is replayed past a foreign connection only with a stopped tunnel. -/
def requireReplayAuthority (sessionId : Option String) : Option Connection → Core Unit
  | none => pure ()
  | some current =>
    if foreignConnection pending sessionId current then
      if inactiveConnection sessionId current then do
        let status ← surely (inquire .tunnelStatus)
        match status with
        | .ok .stopped => pure ()
        | _ => throw .storage
      else throw .storage
    else pure ()

/-- The part of `resume_pending_compensation_stop` that stops the published connection. -/
def resumeAtConnection : Core Unit := do
  let stopped ← stopInternal env pending.failureCode true (some pending.operationId)
    pending.acceptWarm
  requireFinished pending.failureCode pending.acceptWarm stopped.status
  whenever (handshakeTimedOut pending.failureCode)
    (reconcilePendingHandshakeTimeoutStorage pending.leaseId stopped)
  stored (.clearPendingCompensationStop .finished pending.operationId pending.leaseId)

def resumePendingCompensationStop : Core Unit := do
  requireCoreStopOwnership
  let state ← readCore
  let sessionId ← decided (pendingCompensationRedundantSession pending)
  requireReplayAuthority pending sessionId state.connection
  let pending ← stored (.migrateLegacyPendingCompensationStop pending state.connection)
  let sessionId ← decided (pendingCompensationRedundantSession pending)
  if sessionId.isSome || state.connection.isNone then
    replayPendingCompensationStopWithoutConnection env pending
  else resumeAtConnection env pending

end Compensation

section Cancel

variable (env : CoreParameters)
variable (pending : StoredPendingStart) (epoch : Option UInt64)

def legacyRequest : ConnectionStartRequest :=
  { operationId := pending.operationId
    layer := pending.layer, ticConnectionMode := pending.ticConnectionMode
    routeMode := pending.routeMode, egressMode := pending.egressMode, probes := pending.probes
    allowAlternate := pending.allowAlternate, requireMeasuredSelection := false
    recoveryContractVersion := none, redundancyContractVersion := none, reserveEnabled := none
    requestFingerprint := none }

def scopeOf : Scope := epoch.map fun epoch => (pending, epoch)

def withRefresh {α : Type} (x : Refreshing α) : Cancelling α :=
  Local.zoom CancelLocals.authRefreshUsed (fun used l => { l with authRefreshUsed := used }) x

def markCancelled (leaseId : Option String) : Cancelling String := do
  let l ← get
  let (cancelOperationId, updated) ←
    Local.lift (stored (.pendingCancelOperationId l.pending leaseId))
  set { l with pending := updated }
  return cancelOperationId

def ensureScope : Cancelling Unit := do
  let l ← get
  Local.lift (ensurePendingCleanupScope (scopeOf l.pending epoch))

def cancelled (ground : ClearGround) : Cancelling (Option Connection) := do
  let l ← get
  Local.lift (stored (.clearPendingStart ground l.pending.operationId))
  Local.lift (setPhase .ready)
  return none

def cancelAcceptsWarm (connection : Connection) : Bool :=
  connection.pinned || pending.layer != .tic || pending.ticConnectionMode != .personal

def cancelledLeaseStopped (leaseId : String) (epoch : Option UInt64) :
    Except CoreError Connection → Cancelling Connection
  | .error error => do
    ensureScope epoch
    Local.lift (setPhase .stopping)
    throw error
  | .ok connection => do
    ensureScope epoch
    Local.lift (require (connection.leaseId == leaseId) invalidOperationReconcileResponse)
    let l ← get
    Local.lift (requireFinished none (cancelAcceptsWarm l.pending connection) connection.status)
    Local.lift (stored (.clearPendingStart (.stoppedLease leaseId) l.pending.operationId))
    Local.lift (writeCore ⟨.ready, some connection⟩)
    return connection

def stopUnknownPendingLease (leaseId : String) (epoch : Option UInt64) : Cancelling Connection := do
  ensureScope epoch
  let stopOperationId ← markCancelled (some leaseId)
  ensureScope epoch
  let l ← get
  let result ← Local.outcome (withRefresh (retryOperationScoped env
    (.cancelStart l.pending.operationId) .stop ⟨stopOperationId, leaseId, none⟩
    (scopeOf l.pending epoch) true))
  cancelledLeaseStopped leaseId epoch result

def replayLegacyStart :
    Cancelling (Except CoreApiError ConnectionStartResponse) := do
  let l ← get
  let result ← Local.lift (awaitWithStartCancellation epoch
    (take (.sendStart .legacyCancel (legacyRequest l.pending)))
    (take (.startAnswer l.pending.operationId)))
  ensureScope epoch
  return result

def replayLegacyAgain :
    Except CoreApiError ConnectionStartResponse →
      Cancelling (Except CoreApiError ConnectionStartResponse)
  | .error .unauthorized => do
    let l ← get
    withRefresh (refreshCleanupAccess (scopeOf l.pending epoch))
    replayLegacyStart epoch
  | result => pure result

def legacyReplayAbsent (code : String) : Bool :=
  code == "connection_no_longer_active" || legacyReplayConfirmsOperationAbsent code

/-- What the answer to a replayed legacy start means for its cancellation. -/
def legacyReplayAnswered :
    Except CoreApiError ConnectionStartResponse → Cancelling (Option Connection)
  | .ok response => some <$> stopUnknownPendingLease env response.connection.leaseId epoch
  | .error (.rejected code message retryAfterSeconds) =>
    if legacyReplayAbsent code then cancelled .verdict
    else do
      Local.lift (setPhase .stopping)
      throw (.ofApi (.rejected code message retryAfterSeconds))
  | .error .retryable => do
    Local.lift (setPhase .stopping)
    throw (.ofApi .retryable)
  | .error error => throw (.ofApi error)

def cancelUnknownLegacyStart : Cancelling (Option Connection) := do
  ensureScope epoch
  Local.lift accessSnapshot
  ensureScope epoch
  let result ← replayLegacyStart epoch
  let result ← replayLegacyAgain epoch result
  legacyReplayAnswered env epoch result

def startOperationKind (contractVersion : Nat) : Except CoreError OperationKind :=
  if contractVersion = 1 then .ok .start
  else if contractVersion = 2 then .ok .redundantStart
  else .error .storage

def answeredField {α : Type} : Option α → Core α
  | some a => pure a
  | none => throw invalidOperationReconcileResponse

def cancelReconciled (response : OperationReconcileResponse) :
    Cancelling (Option Connection) :=
  match response.state with
  | .pending | .applying | .compensating => do
    Local.lift (require response.cancelRequested invalidOperationReconcileResponse)
    throw (unresolvedStartOperationRetryError response.retryCount)
  | .notFound => do
    Local.lift (require (response.cancelRequested && response.leaseId.isNone &&
      response.leaseStatus.isNone) invalidOperationReconcileResponse)
    cancelled .verdict
  | .applied => do
    let leaseId ← Local.lift (answeredField response.leaseId)
    let leaseStatus ← Local.lift (answeredField response.leaseStatus)
    if terminalLeaseStatus leaseStatus then cancelled .verdict
    else do
      Local.lift (require response.cancelRequested invalidOperationReconcileResponse)
      some <$> stopUnknownPendingLease env leaseId epoch
  | .terminal | .cancelled => do
    let l ← get
    Local.lift (require (reconcileConfirmsTerminalOrAbsent response.leaseId response.leaseStatus &&
      !(l.pending.recoveryContractVersion == some 2 && l.pending.cancelOperationId.isSome &&
        !response.cancelRequested)) invalidOperationReconcileResponse)
    cancelled .verdict

def cancelContractStart (contractVersion : Nat)
    (requestFingerprint : String) : Cancelling (Option Connection) := do
  let l ← get
  let kind ← Local.lift (decided (startOperationKind contractVersion))
  let response ← withRefresh (reconcileOperation (scopeOf l.pending epoch)
    ⟨l.pending.operationId, kind, contractVersion, requestFingerprint, true⟩)
  Local.lift (requirePending l.pending)
  cancelReconciled env epoch response

def markV2Cancelled (leaseId : Option String) : Cancelling Unit := do
  let l ← get
  if l.pending.recoveryContractVersion == some 2 then do
    let _ ← markCancelled leaseId
    pure ()
  else pure ()

def cancelByContract : Cancelling (Option Connection) := do
  let l ← get
  match l.pending.recoveryContractVersion, l.pending.requestFingerprint with
  | none, none => cancelUnknownLegacyStart env epoch
  | some contractVersion, some requestFingerprint =>
    if requestFingerprint == "" then throw .storage
    else cancelContractStart env epoch contractVersion requestFingerprint
  | _, _ => throw .storage

def cancelPendingStart (leaseId : Option String) :
    Cancelling (Option Connection) := do
  let l ← get
  Local.lift (requirePending l.pending)
  Local.lift (ensureEpoch epoch)
  markV2Cancelled leaseId
  ensureScope epoch
  Local.lift (setPhase .stopping)
  cancelByContract env epoch

def cancelOnce (leaseId : Option String) :
    Core (Option Connection) :=
  Local.forget ⟨pending, false⟩ (cancelPendingStart env epoch leaseId)

def cancelUnknownPendingStart : Core (Option Connection) := do
  let stored ← stored .loadRuntime
  match stored.pendingStart with
  | none => pure none
  | some pending => cancelOnce env pending none none

end Cancel

section Reconcile

variable (env : CoreParameters)

def retryReconciled (contractVersion : Nat) (response : OperationReconcileResponse) :
    Cancelling Unit :=
  match response.state with
  | .pending | .applying | .compensating =>
    throw (unresolvedStartOperationRetryError response.retryCount)
  | .notFound =>
    Local.lift (require (response.leaseId.isNone && response.leaseStatus.isNone)
      invalidOperationReconcileResponse)
  | .applied => do
    let leaseId ← Local.lift (answeredField response.leaseId)
    let leaseStatus ← Local.lift (answeredField response.leaseStatus)
    if terminalLeaseStatus leaseStatus then do
      if contractVersion = 2 then do
        let _ ← markCancelled (some leaseId)
        pure ()
      else pure ()
      let l ← get
      Local.lift (stored (.clearPendingStart .verdict l.pending.operationId))
    else if response.cancelRequested then do
      let _ ← stopUnknownPendingLease env leaseId none
      pure ()
    else pure ()
  | .terminal | .cancelled => do
    Local.lift (require (reconcileConfirmsTerminalOrAbsent response.leaseId response.leaseStatus)
      invalidOperationReconcileResponse)
    if contractVersion = 2 then do
      let _ ← markCancelled response.leaseId
      pure ()
    else pure ()
    let l ← get
    Local.lift (stored (.clearPendingStart .verdict l.pending.operationId))

def reconcileContractStart (contractVersion : Nat) (requestFingerprint : String) :
    Cancelling Unit := do
  let l ← get
  let kind ← Local.lift (decided (startOperationKind contractVersion))
  let response ← withRefresh (reconcileOperation none
    ⟨l.pending.operationId, kind, contractVersion, requestFingerprint, false⟩)
  retryReconciled env contractVersion response

def reconcilePendingStart (pending : StoredPendingStart) : Core Unit :=
  if pending.recoveryContractVersion == some 2 && pending.cancelOperationId.isSome then do
    let epoch ← surely (atomic .readEpoch)
    let _ ← cancelOnce env pending (some epoch) none
    pure ()
  else
    match pending.recoveryContractVersion, pending.requestFingerprint with
    | some contractVersion, some requestFingerprint =>
      if requestFingerprint == "" then throw .storage
      else Local.forget ⟨pending, false⟩
        (reconcileContractStart env contractVersion requestFingerprint)
    | none, none => pure ()
    | _, _ => throw .storage

def stalledReconciled (pending : StoredPendingStalledStop) (response : OperationReconcileResponse) :
    Core Unit := do
  require (!((response.leaseId.any fun leaseId => leaseId != pending.leaseId) ||
    (response.leaseId.isNone && response.leaseStatus.isSome))) invalidOperationReconcileResponse
  match response.state with
  | .pending | .applying | .compensating =>
    throw (unresolvedStartOperationRetryError response.retryCount)
  | .notFound =>
    require (response.leaseId.isNone && response.leaseStatus.isNone)
      invalidOperationReconcileResponse
  | .applied | .terminal | .cancelled =>
    match response.leaseStatus.filter terminalLeaseStatus with
    | some leaseStatus => do
      attempt (locked (.applyReconciledStalledStopTerminal pending.leaseId leaseStatus))
      stored (.clearPendingStalledStop pending.operationId pending.leaseId)
    | none => throw stalledStopNotRecyclableError

def reconcilePendingStalledStopForRetry (pending : StoredPendingStalledStop) : Core Unit := do
  require (pending.contractVersion == 1 &&
    pending.requestFingerprint == stalledStopRequestFingerprintV1 env pending.leaseId) .storage
  let response ← Local.forget false (reconcileOperation none
    ⟨pending.operationId, .stalledStop, pending.contractVersion, pending.requestFingerprint, false⟩)
  stalledReconciled pending response

def reconcileStored (stored : RuntimeState) : Core Unit :=
  match stored.pendingCompensationStop with
  | some pending => resumePendingCompensationStop env pending
  | none =>
    match stored.pendingStalledStop with
    | some pending => reconcilePendingStalledStopForRetry env pending
    | none =>
      match stored.pendingStart with
      | some pending => reconcilePendingStart env pending
      | none => pure ()

def reconcilePendingOperationForRetry : Core Unit :=
  withGate .intent do
    let stored ← stored .loadRuntime
    reconcileStored env stored

end Reconcile

section Public

variable (env : CoreParameters)

/-- What a stop without other journals does: a matching stalled stop keeps its operation. -/
def stopPublished : Core Connection := do
  let state ← readCore
  let found ← stored .peek
  let stalled := (found.bind (·.pendingStalledStop)).filter fun pending =>
    state.connection.any (·.leaseId == pending.leaseId)
  match stalled with
  | some pending => do
    let stopped ← stopInternal env (some "tunnel_data_plane_stalled") true
      (some pending.operationId) true
    stored (.clearPendingStalledStop pending.operationId pending.leaseId)
    pure stopped
  | none => stopInternal env none true none true

/-- A stop without a published connection cancels an unknown start first. -/
def stopUnjournalled : Core Connection := do
  let state ← readCore
  if state.connection.isNone then do
    let stopped ← cancelUnknownPendingStart env
    match stopped with
    | some connection => pure connection
    | none => stopPublished env
  else stopPublished env

def stopByCompensation (pending : StoredPendingCompensationStop) : Core Connection := do
  resumePendingCompensationStop env pending
  publishedConnection

def stopCancelled (pending : StoredPendingStart) (epoch : UInt64) : Core Connection := do
  let stopped ← cancelOnce env pending (some epoch) none
  attempt (locked (.forgetConnection epoch none))
  match stopped with
  | some connection => pure connection
  | none => throw .savedConnectionUnavailable

/-- A stop while another journalled start may be active compensates for its connection. -/
def stopActive : Core Connection := do
  let state ← readCore
  match state.connection with
  | some current => do
    let pending ← stored (.pendingCompensationStopIdentity (compensationFor current))
    stopByCompensation env pending
  | none => stopUnjournalled env

def stopJournalled (epoch : UInt64) : Core Connection := do
  let found ← stored .peek
  let v2 := (found.bind (·.pendingStart)).filter (·.recoveryContractVersion == some 2)
  match v2 with
  | some pending =>
    if pending.cancelOperationId.isSome then stopCancelled env pending epoch
    else throw unresolvedStartOperationError
  | none => stopActive env

def stopHoldingIntent (epoch : UInt64) : Core Connection := do
  requireCoreStopOwnership
  let found ← stored .peek
  match found.bind (·.pendingCompensationStop) with
  | some pending => stopByCompensation env pending
  | none => do
    let active ← surely (atomic .pendingStartActive)
    if active then stopJournalled env epoch else stopUnjournalled env

def stop : Core Connection := do
  let _ ← surely (atomic .signalStartCancellation)
  let epoch ← surely (atomic .readEpoch)
  withGate .intent (stopHoldingIntent env epoch)

variable (phase : Phase) (current : Connection)

def localStopNeedsJournal : Bool :=
  current.sessionId.isSome ||
    (current.status == .warm && (phase == .connected || phase == .stopping)) ||
    !compensationStopConfirmsFinished none true current.status

/-- The journal of `stop_locally`. A journal of another lease refuses the stop;
a journal that could not be written is reported after the tunnel was stopped. -/
def journalLocalStop : Except CoreError RuntimeState → Core (Except CoreError Unit)
  | .error error => pure (.error error)
  | .ok stored =>
    match stored.pendingCompensationStop with
    | some pending => do
      require (pending.leaseId == current.leaseId) .storage
      pure (.ok ())
    | none =>
      if localStopNeedsJournal phase current then do
        let result ← outcome (CoreMachine.stored (.pendingCompensationStopIdentity
          ⟨current.leaseId, true, none, current.sessionId⟩))
        pure (result.map fun _ => ())
      else pure (.ok ())

def stopTunnel : Core Unit := do
  let status ← surely (inquire .tunnelStatus)
  match status with
  | .ok .stopped => pure ()
  | _ => attempt (tunnelError <$> inquire .tunnelStop)

def stopLocallyCurrent
    (found : Except CoreError RuntimeState) : Core (Option Connection) := do
  let journalResult ← journalLocalStop phase current found
  surely (locked (.setEpisode none))
  setPhase .stopping
  stopTunnel
  decided journalResult
  surely Prog.pause
  let cleanup ← stored .hasPendingStopCleanup
  whenever (!cleanup) (setPhase .ready)
  return some current

def stalledStopJournalled : Except CoreError RuntimeState → Bool
  | .ok stored => stored.pendingStalledStop.isSome
  | .error _ => false

/-- `stop_locally` behind all gates; no answer means that the full stop is needed. -/
def stopLocallyHoldingGates : Core (Option Connection) := do
  let state ← readCore
  let found ← outcome (stored .loadRuntime)
  match state.connection with
  | none => pure none
  | some current =>
    if stalledStopJournalled found then pure none
    else stopLocallyCurrent state.phase current found

def stopLocally : Core Connection := do
  let _ ← surely (atomic .signalStartCancellation)
  let stopped ← withGate .intent (withGate .split (withGate .connection stopLocallyHoldingGates))
  match stopped with
  | some connection => pure connection
  | none => stop env

def staleStopped (pending : StoredPendingCompensationStop) : Except CoreError Connection → Core Unit
  | .ok stopped =>
    if terminalLeaseStatus stopped.status || (pending.acceptWarm && stopped.status == .warm) then
      stored (.clearPendingCompensationStop .finished pending.operationId pending.leaseId)
    else throw compensationStopNotTerminalError
  | .error .savedConnectionUnavailable =>
    stored (.clearPendingCompensationStop .connectionUnavailable pending.operationId
      pending.leaseId)
  | .error error => throw error

def compensateStaleHoldingIntent : Core Unit := do
  let state ← readCore
  match state.connection with
  | none => stored .clearPendingCompensationStopIfAbsent
  | some current => do
    let pending ← stored (.pendingCompensationStopIdentity (compensationFor current))
    let result ← outcome (stopInternal env none true (some pending.operationId) pending.acceptWarm)
    staleStopped pending result

def compensateStaleConnectionIntentResult : Core Unit := do
  let _ ← surely (atomic .signalStartCancellation)
  withGate .intent (compensateStaleHoldingIntent env)

end Public

end NelomaiClient.CoreCancel
