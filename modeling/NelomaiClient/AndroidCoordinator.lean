import NelomaiClient.AndroidRecoveryStore
import NelomaiClient.AwaitFallible

/-!
# The connection-intent coordinator of the Android service

`AndroidConnectionIntentCoordinator` over the recovery store, the panel and the
tunnel, with the dispatch of starts and cancellations in front of it. Threads may
be interrupted before every store function, request and lock; the process may
die at any of them and keeps the record. Beside the state, the world notes which
operations were sent and what the panel said about them, what the running attempt
last read or wrote, and how many cancellations were stored.
-/

namespace NelomaiClient.AndroidCoordinator

open AndroidRecovery AndroidRecoveryStore AwaitProgram AwaitPool AwaitFallible

inductive ConnectionIntentDecision where
  | retrySameOperation
  | retryNewOperation
  | reconcileThenRetry
  | retryOnce
  | retryAfter
  | localRestart
  | reconcileOnce
  | terminal
  deriving DecidableEq

def profileMismatchCodes : List String :=
  ["amneziawg_profile_mismatch", "awg3_profile_apply_failed", "awg3_profile_transform_mismatch"]

def retrySameOperationCodes : List String :=
  ["transport_error", "background_transport_unavailable", "http_5xx", "connection_unavailable",
    "candidate_unavailable", "configuration_fetch_failed", "binding_sync_failed",
    "connection_release_pending", "connection_release_failed", "connection_stop_failed",
    "probe_results_required", "server_probes_unavailable", "saved_connection_unavailable",
    "saved_stray_unavailable", "connection_stall_verification_unavailable", "endpoint_route_lost",
    "endpoint_route_unavailable", "physical_network_monitor_unavailable",
    "physical_egress_unavailable", "local_networks_unavailable"]

def retryNewOperationCodes : List String :=
  ["connection_no_longer_active", "tunnel_handshake_timeout"]

def reconcileThenRetryCodes : List String :=
  ["connection_already_active", "service_timeout", "tunnel_service_timeout", "tunnel_start_timeout",
    "service_stopping", "android_service_dispatch_unavailable"]

def retryAfterCodes : List String :=
  ["connection_stall_recycle_rate_limited", "operation_in_progress", "device_operation_busy"]

def decisions (code : String) : ConnectionIntentDecision :=
  if code ∈ retryNewOperationCodes then .retryNewOperation
  else if code ∈ retrySameOperationCodes then .retrySameOperation
  else if code ∈ reconcileThenRetryCodes then .reconcileThenRetry
  else if code = "service_unavailable" ∨ code ∈ profileMismatchCodes then .retryOnce
  else if code ∈ retryAfterCodes then .retryAfter
  else if code = "udp_rebind_failed" ∨ code = "udp_rebind_timeout" then .localRestart
  else if code = "connection_stall_not_recyclable" then .reconcileOnce
  else .terminal

def classify (code : String) (serviceRecoveryUsed profileRetryUsed reconcileOnceUsed : Bool) :
    ConnectionIntentDecision :=
  match decisions code with
  | .reconcileOnce => if reconcileOnceUsed then .terminal else .reconcileOnce
  | .retryOnce =>
    if code = "service_unavailable" && serviceRecoveryUsed then .terminal
    else if code ∈ profileMismatchCodes && profileRetryUsed then .terminal
    else .retryOnce
  | decision => decision

def retryAfterSeconds : Option Int → Int
  | none => 300
  | some seconds => if 1 ≤ seconds ∧ seconds ≤ 900 then seconds else 300

def retryDelaySeconds : Nat → Int
  | 0 => 2
  | 1 => 5
  | 2 => 15
  | 3 => 30
  | 4 => 60
  | _ => 300

/-- What a request, the tunnel or a check throws: a `BackgroundConnectionException` with its
`Retry-After`, or anything else. -/
inductive Throwable where
  | background (code : String) (retryAfter : Option Int)
  | unexpected

inductive AndroidCoordinatorStep where
  | idle
  | active
  | retry
  | cleanupRequired
  | terminal
  | busy

inductive ReconcileState where
  | notFound
  | pending
  | applying
  | applied
  | compensating
  | terminal
  | cancelled
  | other
  deriving DecidableEq

def ReconcileState.text : ReconcileState → String
  | terminal => "terminal"
  | cancelled => "cancelled"
  | notFound => "not_found"
  | pending => "pending"
  | applying => "applying"
  | applied => "applied"
  | compensating => "compensating"
  | other => ""

structure BackgroundReconcileResult where
  state : ReconcileState
  leaseId : Option String
  leaseStatus : Option String

structure BackgroundStartResult where
  leaseId : String
  redundantTransaction : Option AndroidRedundantTransaction

/-- `AndroidConnectionIntentDispatchTicket`, with the cancellations stored at its issue. -/
structure DispatchTicket where
  epoch : Nat
  expectedGeneration : Nat
  /-- Cancellations stored when the ticket was issued. -/
  cancels : ℕ

inductive QuickToggleDispatch where
  | start (ticket : DispatchTicket) (recoveryOwned : Bool)
  | stop
  | redundantStop (startOperationId : String)

/-- Who commits a new intent: `begin` without a ticket, `begin` under a ticket, or
`beginDispatched`. -/
inductive Starter where
  | plain
  | ticketed (ticket : DispatchTicket)
  | dispatched (ticket : DispatchTicket)

structure AndroidWorld where
  stored : Option AndroidRecoveryEnvelope
  operationGate : Option ℕ
  /-- Operation of the pending start request, and whether it was cancelled. -/
  pendingStartRequest : Option (String × Bool)
  epoch : Nat
  pendingStart : Bool
  sent : List String
  /-- Operations that the panel has answered for. -/
  closed : List String
  freed : List String
  cancels : ℕ

def AndroidWorld.fresh (stored : Option AndroidRecoveryEnvelope) : AndroidWorld :=
  ⟨stored, none, none, 0, false, [], [], [], 0⟩

def AndroidWorld.restart (w : AndroidWorld) : AndroidWorld :=
  { AndroidWorld.fresh w.stored with
    sent := w.sent, closed := w.closed, freed := w.freed, cancels := w.cancels }

def AndroidWorld.record (w : AndroidWorld) : AndroidRecoveryEnvelope := w.stored.getD (.empty 0)

inductive Cmd where
  | store (call : StoreCall)
  | commit (starter : Starter) (call : StoreCall)
  | takeGate
  | freeGate
  | finish (step : AndroidCoordinatorStep)
  | canStart
  | canCommit
  | selectPolicy
  | operationId
  | nowUnix
  | validateNewIntent (template : AndroidIntentTemplate)
  | reconcile (transaction : AndroidLeaseTransaction) (cancelIfAbsent : Bool)
  | start (template : AndroidIntentTemplate) (transaction : AndroidLeaseTransaction)
  | syncBindingPreferences (template : AndroidIntentTemplate)
  | stop (leaseId : String) (operationId : String) (failureCode : Option String)
  | runtimeStart (operationId : String) (isCurrent : Bool)
  | runtimeStartRedundant (operationId : String)
  | runtimeStop
  | runtimeRunning
  | publishStart (operationId : String)
  | startCancelled
  | retractStart
  | cancelPendingStart (operationId : String)
  | dispatchStart (expectedGeneration : Nat)
  | toggle (expectedGeneration : Nat) (desiredActive recoveryOwned : Bool)
      (redundantStartOperationId : Option String)
  | invalidate
  | isCurrent (ticket : DispatchTicket)
  | complete (ticket : DispatchTicket)

@[reducible]
def Cmd.Resp : Cmd → Type
  | store _ | commit _ _ => StoreResult
  | takeGate | canStart | canCommit | selectPolicy | startCancelled | isCurrent _ | complete _ => Bool
  | freeGate | finish _ | publishStart _ | retractStart | cancelPendingStart _ | invalidate => Unit
  | operationId => String
  | nowUnix => Int
  | validateNewIntent _ | syncBindingPreferences _ | stop _ _ _ | runtimeStartRedundant _ =>
    Except Throwable Unit
  | reconcile _ _ => Except Throwable BackgroundReconcileResult
  | start _ _ => Except Throwable BackgroundStartResult
  | runtimeStart _ _ | runtimeStop | runtimeRunning => Except Throwable Bool
  | dispatchStart _ => DispatchTicket
  | toggle _ _ _ _ => QuickToggleDispatch

inductive Input where
  | go
  | store (i : StoreInput)
  | flag (value : Bool)
  | text (value : String)
  | time (value : Int)
  | verdict (answer : Except Throwable Unit)
  | reconciled (answer : Except Throwable BackgroundReconcileResult)
  | started (answer : Except Throwable BackgroundStartResult)
  | ran (answer : Except Throwable Bool)

section Meaning

variable (params : AndroidParameters)

def StoreCall.cancels : StoreCall → Bool
  | .setDesiredActive _ desiredActive => !desiredActive
  | .cancelCurrentIntent | .cancelCurrentIntentForQuickToggle => true
  | _ => false

/-- The answer to a request says that the connection is no longer active. -/
def noLongerActive {α : Type} : Except Throwable α → Bool
  | .error (.background code _) => code == "connection_no_longer_active"
  | _ => false

variable (w : AndroidWorld)

def AndroidWorld.access (call : StoreCall) (i : StoreInput) : StoreResult × AndroidWorld :=
  let (result, stored) := call.run params i w.stored
  (result,
    { w with
      stored := stored
      cancels := match result with
        | .success _ => if StoreCall.cancels call then w.cancels + 1 else w.cancels
        | _ => w.cancels })

def AndroidWorld.noteReconciled (transaction : AndroidLeaseTransaction)
    (cancelIfAbsent : Bool) (answer : Except Throwable BackgroundReconcileResult) : AndroidWorld :=
  match answer with
  | .ok reconciled =>
    let stalled := transaction.cleanupFailureCode == some "tunnel_data_plane_stalled"
    { w with
      closed :=
        if !stalled && (reconciled.state == .terminal || reconciled.state == .cancelled ||
            cancelIfAbsent && reconciled.state == .notFound)
        then transaction.startOperationId :: w.closed else w.closed
      freed :=
        if stalled && (reconciled.leaseStatus == some "released" ||
            reconciled.leaseStatus == some "failed")
        then reconciled.leaseId.toList ++ w.freed else w.freed }
  | .error _ =>
    if noLongerActive answer then
      { w with
        closed := transaction.startOperationId :: w.closed
        freed := transaction.leaseId.toList ++ w.freed }
    else w

def AndroidWorld.noteStarted (transaction : AndroidLeaseTransaction)
    (answer : Except Throwable BackgroundStartResult) : AndroidWorld :=
  { w with
    sent := transaction.startOperationId :: w.sent
    closed := if noLongerActive answer then transaction.startOperationId :: w.closed else w.closed
    freed := if noLongerActive answer then transaction.leaseId.toList ++ w.freed else w.freed }

def AndroidWorld.noteStopped (leaseId : String)
    (answer : Except Throwable Unit) : AndroidWorld :=
  if answer.isOk || noLongerActive answer then { w with freed := leaseId :: w.freed } else w

def nextEpoch (epoch : Nat) : Nat := if epoch = longMax then 1 else epoch + 1

def AndroidWorld.toggle (expectedGeneration : Nat)
    (desiredActive recoveryOwned : Bool) (redundantStartOperationId : Option String) :
    QuickToggleDispatch × AndroidWorld :=
  if w.pendingStart || desiredActive || redundantStartOperationId.isSome then
    (match redundantStartOperationId with
      | some startOperationId => .redundantStop startOperationId
      | none => .stop,
      { w with epoch := nextEpoch w.epoch, pendingStart := false })
  else
    (.start ⟨nextEpoch w.epoch, expectedGeneration, w.cancels⟩ recoveryOwned,
      { w with epoch := nextEpoch w.epoch, pendingStart := true })

def AndroidWorld.isCurrent (ticket : DispatchTicket) : Bool :=
  w.pendingStart && ticket.epoch == w.epoch

def sem (c : Cmd) (t : ℕ) (i : Input) (w : AndroidWorld) : Option (c.Resp × AndroidWorld) :=
  match c, i with
  | .store call, .store i => some (w.access params call i)
  | .commit _ call, .store i => some (w.access params call i)
  | .takeGate, .go =>
    some (match w.operationGate with
      | none => (true, { w with operationGate := some t })
      | some _ => (false, w))
  | .freeGate, .go => some ((), { w with operationGate := none })
  | .finish _, .go => some ((), w)
  | .canStart, .flag value => some (value, w)
  | .canCommit, .flag value => some (value, w)
  | .selectPolicy, .flag value => some (value, w)
  | .operationId, .text value => some (value, w)
  | .nowUnix, .time value => some (value, w)
  | .validateNewIntent _, .verdict answer => some (answer, w)
  | .reconcile transaction cancelIfAbsent, .reconciled answer =>
    some (answer, w.noteReconciled transaction cancelIfAbsent answer)
  | .start _ transaction, .started answer => some (answer, w.noteStarted transaction answer)
  | .syncBindingPreferences _, .verdict answer => some (answer, w)
  | .stop leaseId _ _, .verdict answer => some (answer, w.noteStopped leaseId answer)
  | .runtimeStart _ _, .ran answer => some (answer, w)
  | .runtimeStartRedundant _, .verdict answer => some (answer, w)
  | .runtimeStop, .ran answer => some (answer, w)
  | .runtimeRunning, .ran answer => some (answer, w)
  | .publishStart operationId, .go =>
    some ((), { w with pendingStartRequest := some (operationId, false) })
  | .startCancelled, .go => some (w.pendingStartRequest.any (·.2), w)
  | .retractStart, .go => some ((), { w with pendingStartRequest := none })
  | .cancelPendingStart operationId, .go =>
    some ((),
      { w with
        pendingStartRequest := w.pendingStartRequest.map fun (pending, cancelled) =>
          (pending, cancelled || pending == operationId) })
  | .dispatchStart expectedGeneration, .go =>
    some (⟨nextEpoch w.epoch, expectedGeneration, w.cancels⟩,
      { w with epoch := nextEpoch w.epoch, pendingStart := true })
  | .toggle expectedGeneration desiredActive recoveryOwned redundantStartOperationId, .go =>
    some (w.toggle expectedGeneration desiredActive recoveryOwned redundantStartOperationId)
  | .invalidate, .go => some ((), { w with epoch := nextEpoch w.epoch, pendingStart := false })
  | .isCurrent ticket, .go => some (w.isCurrent ticket, w)
  | .complete ticket, .go =>
    some (w.isCurrent ticket, if w.isCurrent ticket then { w with pendingStart := false } else w)
  | _, _ => none

abbrev android : Machine := ⟨AndroidWorld, Cmd, Cmd.Resp, Input, sem params⟩

abbrev Coordinate (α : Type) : Type 1 := Fallible (android params) Throwable α

end Meaning

set_option synthInstance.maxSize 1024

section Calls

variable (params : AndroidParameters)

def ask (c : Cmd) : Prog (android params) c.Resp := Prog.ask (M := android params) c

def storeOutcome : StoreResult → Coordinate params (Except StoreFailure AndroidRecoveryEnvelope)
  | .success envelope => pure (.ok envelope)
  | .failure failure => pure (.error failure)
  | .thrown => throw .unexpected

def stored (call : StoreCall) :
    Coordinate params (Except StoreFailure AndroidRecoveryEnvelope) := do
  let result ← surely (ask params (.store call))
  storeOutcome params result

def orThrow : Except StoreFailure AndroidRecoveryEnvelope → Coordinate params AndroidRecoveryEnvelope
  | .ok envelope => pure envelope
  | .error failure => throw (.background failure.code.text none)

def storedOrThrow (call : StoreCall) : Coordinate params AndroidRecoveryEnvelope := do
  let result ← stored params call
  orThrow params result

def notNull {α : Type} : Option α → Coordinate params α
  | some a => pure a
  | none => throw .unexpected

end Calls

section Failures

variable (params : AndroidParameters)

def retryIf (call : StoreCall) : Coordinate params AndroidCoordinatorStep := do
  let result ← stored params call
  match result with
  | .ok _ => pure .retry
  | .error _ => pure .terminal

def directRetry (expectedGeneration : Option Nat) :
    Except StoreFailure AndroidRecoveryEnvelope → AndroidCoordinatorStep
  | .ok _ => .retry
  | .error failure =>
    if expectedGeneration.isSome && failure.code == .connectionIntentGenerationConflict then .busy
    else .terminal

variable (envelope : AndroidRecoveryEnvelope) (code : String)

def directDelay : Int :=
  if !envelope.intent.desiredActive &&
      (code == "operation_reconcile_pending" || code == "connection_cleanup_reconcile_pending")
  then 2 else retryDelaySeconds envelope.intent.retry.attempt

def recordDirectRetry (pendingAction : Option PendingAction)
    (expectedGeneration : Option Nat) : Coordinate params AndroidCoordinatorStep := do
  let read ← stored params .read
  match read with
  | .error _ => pure .terminal
  | .ok envelope =>
    if expectedGeneration.any (· != envelope.intent.generation) then pure .busy
    else do
      let delay := directDelay envelope code
      let now ← surely (ask params .nowUnix)
      let result ← stored params (.recordFailure envelope.intent.generation code
        (some (saturatingAdd now delay)) (some delay) none none none
        (pendingAction <|> envelope.intent.retry.pendingAction))
      pure (directRetry expectedGeneration result)

def recordTerminalCleanupRetry : Coordinate params AndroidCoordinatorStep := do
  let read ← stored params .read
  match read with
  | .error _ => pure .terminal
  | .ok envelope => do
    let delay := retryDelaySeconds envelope.intent.retry.attempt
    let now ← surely (ask params .nowUnix)
    retryIf params (.recordTerminalCleanupRetry envelope.intent.generation
      (saturatingAdd now delay) delay)

def stopOperation (transaction : AndroidLeaseTransaction) : Coordinate params String :=
  match transaction.stopOperationId with
  | some stopOperationId => pure stopOperationId
  | none => surely (ask params .operationId)

def terminalWithLease (transaction : AndroidLeaseTransaction)
    (leaseId code : String) : Coordinate params AndroidCoordinatorStep := do
  let stopOperationId ← stopOperation params transaction
  if envelope.intent.armedHistory then
    retryIf params (.scheduleTerminalAfterCleanup envelope.intent.generation leaseId
      stopOperationId code)
  else
    retryIf params (.scheduleInitialTerminalAfterCleanup envelope.intent.generation leaseId
      stopOperationId code)

def terminalWithoutLease : Coordinate params AndroidCoordinatorStep :=
  if envelope.intent.armedHistory then do
    let _ ← stored params (.recordFailure envelope.intent.generation code none none none none none
      none)
    pure .terminal
  else retryIf params (.scheduleInitialTerminalReconcile envelope.intent.generation code)

def recordTerminalFailure : Coordinate params AndroidCoordinatorStep := do
  let read ← stored params .read
  match read with
  | .error _ => pure .terminal
  | .ok envelope =>
    match envelope.leaseTransaction with
    | none => terminalWithoutLease params envelope code
    | some transaction =>
      match transaction.leaseId with
      | none => terminalWithoutLease params envelope code
      | some leaseId => terminalWithLease params envelope transaction leaseId code

def continueDisarmed : Coordinate params AndroidCoordinatorStep :=
  match envelope.leaseTransaction with
  | none => pure .idle
  | some transaction =>
    match transaction.leaseId with
    | none => recordDirectRetry params code none none
    | some leaseId => do
      let stopOperationId ← stopOperation params transaction
      let result ← stored params (.requireCleanup envelope.intent.generation leaseId
        stopOperationId false)
      match result with
      | .ok _ => recordDirectRetry params code none none
      | .error _ => pure .terminal

def retryProfile (retryAt delay : Int) :
    Coordinate params AndroidCoordinatorStep :=
  match envelope.leaseTransaction with
  | none => pure .terminal
  | some transaction =>
    match transaction.leaseId with
    | none => do
      let _ ← recordTerminalFailure params "connection_cleanup_lease_unavailable"
      pure .terminal
    | some leaseId => do
      let stopOperationId ← surely (ask params .operationId)
      retryIf params (.scheduleProfileRetryAfterCleanup envelope.intent.generation leaseId
        stopOperationId code retryAt delay)

def retryNewOperation (retryAt delay : Int) :
    Coordinate params AndroidCoordinatorStep :=
  match envelope.leaseTransaction with
  | none => pure .terminal
  | some transaction =>
    if transaction.phase.cleaning then do
      let _ ← stored params (.recordFailure envelope.intent.generation code (some retryAt)
        (some delay) none none none (some .newOperationAfterCleanup))
      pure .retry
    else do
      let startOperationId ← surely (ask params .operationId)
      let _ ← stored params (.replaceStartOperation envelope.intent.generation
        { transaction.replay with startOperationId := startOperationId } code retryAt delay)
      pure .retry

def decidedAction (decision : ConnectionIntentDecision) (pendingAction : Option PendingAction) :
    Option PendingAction :=
  match decision with
  | .reconcileThenRetry | .reconcileOnce => some .reconcile
  | .localRestart => some .localRestart
  | _ => pendingAction

def retryRecorded (decision : ConnectionIntentDecision)
    (code : String) (retryAt delay : Int) : Coordinate params AndroidCoordinatorStep := do
  let retry := envelope.intent.retry
  let once := decision == .retryOnce
  let _ ← stored params (.recordFailure envelope.intent.generation code (some retryAt) (some delay)
    (some (retry.serviceRecoveryUsed || (once && code == "service_unavailable")))
    (some (retry.profileRetryUsed || (once && profileMismatchCodes.contains code)))
    (some (retry.reconcileOnceUsed || decision == .reconcileOnce))
    (decidedAction decision retry.pendingAction))
  pure .retry

def decideFailure (retryAfter : Option Int) :
    Coordinate params AndroidCoordinatorStep := do
  let retry := envelope.intent.retry
  let decision := classify code retry.serviceRecoveryUsed retry.profileRetryUsed
    retry.reconcileOnceUsed
  if decision = .terminal then recordTerminalFailure params code
  else do
    let delay := if decision = .retryAfter then retryAfterSeconds retryAfter
      else retryDelaySeconds retry.attempt
    let now ← surely (ask params .nowUnix)
    let retryAt := saturatingAdd now delay
    if decision = .retryOnce ∧ code ∈ profileMismatchCodes then
      retryProfile params envelope code retryAt delay
    else if decision = .retryNewOperation then retryNewOperation params envelope code retryAt delay
    else retryRecorded params envelope decision code retryAt delay

def recordFailureDecision (retryAfter : Option Int) :
    Coordinate params AndroidCoordinatorStep := do
  let read ← stored params .read
  match read with
  | .error _ => pure .terminal
  | .ok envelope =>
    if !envelope.intent.desiredActive then continueDisarmed params envelope code
    else if code = "background_credential_provision_pending" then
      recordDirectRetry params code none none
    else decideFailure params envelope code retryAfter

end Failures

section Cleanup

variable (params : AndroidParameters)
variable (envelope : AndroidRecoveryEnvelope) (transaction : AndroidLeaseTransaction)

/-- A completion of a cleanup, whose refusal by a newer intent is left to it. -/
def completeInitial :
    Except StoreFailure AndroidRecoveryEnvelope → Coordinate params AndroidCoordinatorStep
  | .ok _ => pure .idle
  | .error failure =>
    if failure.code = .connectionIntentGenerationConflict then pure .busy
    else recordDirectRetry params failure.code.text none (some envelope.intent.generation)

def restartAfterCleanup : Coordinate params AndroidCoordinatorStep := do
  let startOperationId ← surely (ask params .operationId)
  let _ ← storedOrThrow params (.completeCleanupAndRestart envelope.intent.generation
    { transaction.replay with startOperationId := startOperationId })
  recordDirectRetry params "connection_restart_pending" none none

def endCleanup (step : AndroidCoordinatorStep) (call : StoreCall) :
    Coordinate params AndroidCoordinatorStep := do
  let _ ← storedOrThrow params call
  pure step

def completeWithoutLease : Coordinate params AndroidCoordinatorStep :=
  let action := envelope.intent.retry.pendingAction
  let generation := envelope.intent.generation
  if envelope.intent.desiredActive && action == some .newOperationAfterCleanup then
    restartAfterCleanup params envelope transaction
  else if action == some .terminalAfterCleanup then
    -- The source writes `TERMINAL` here as a statement whose value is dropped; `IDLE` follows it.
    endCleanup params .idle (.completeCleanupAsTerminal generation)
  else if action == some .initialTerminalAfterCleanup then do
    let completed ← stored params (.completeInitialTerminalCleanup generation)
    completeInitial params envelope completed
  else if transaction.phase = .startPending then
    endCleanup params .idle (.completeCancelledStart .reconciled generation)
  else endCleanup params .idle (.completeCleanup generation)

def reconciledLease (reconciled : BackgroundReconcileResult) : Coordinate params String :=
  match reconciled.leaseId with
  | some leaseId => pure leaseId
  | none => throw (.background "invalid_background_response" none)

def cleanupWithoutLease :
    Coordinate params (Unit ⊕ AndroidCoordinatorStep) := do
  let reconciled ← attempt (ask params (.reconcile transaction true))
  match reconciled.state with
  | .notFound | .terminal | .cancelled => .inr <$> completeWithoutLease params envelope transaction
  | .applied =>
    if transaction.replay.contractVersion = 2 then
      .inr <$> recordDirectRetry params "operation_reconcile_pending" none none
    else do
      let leaseId ← reconciledLease params reconciled
      let stopOperationId ← surely (ask params .operationId)
      let _ ← storedOrThrow params (.requireCleanup envelope.intent.generation leaseId
        stopOperationId false)
      pure (.inl ())
  | .pending | .applying | .compensating =>
    .inr <$> recordDirectRetry params "connection_cleanup_reconcile_pending" none none
  | .other => .inr <$> recordDirectRetry params "invalid_background_response" none none

def requireAgain (leaseId stopOperationId : String) :
    Coordinate params (AndroidRecoveryEnvelope × AndroidLeaseTransaction) := do
  let _ ← storedOrThrow params (.requireCleanup envelope.intent.generation leaseId
    stopOperationId false)
  let envelope ← storedOrThrow params .read
  let transaction ← notNull params envelope.leaseTransaction
  pure (envelope, transaction)

def withStopOperation :
    Coordinate params (AndroidRecoveryEnvelope × AndroidLeaseTransaction) :=
  if transaction.stopOperationId.isNone then do
    let leaseId ← notNull params transaction.leaseId
    let stopOperationId ← surely (ask params .operationId)
    requireAgain params envelope leaseId stopOperationId
  else pure (envelope, transaction)

def withLocalStop :
    Coordinate params (AndroidRecoveryEnvelope × AndroidLeaseTransaction) :=
  if !transaction.localStopPending then do
    let leaseId ← notNull params transaction.leaseId
    let stopOperationId ← notNull params transaction.stopOperationId
    requireAgain params envelope leaseId stopOperationId
  else pure (envelope, transaction)

def completeWithLease : Coordinate params AndroidCoordinatorStep :=
  let action := envelope.intent.retry.pendingAction
  let generation := envelope.intent.generation
  if envelope.intent.desiredActive && action == some .newOperationAfterCleanup then
    restartAfterCleanup params envelope transaction
  else if action == some .terminalAfterCleanup then
    endCleanup params .terminal (.completeCleanupAsTerminal generation)
  else if action == some .initialTerminalAfterCleanup then
    endCleanup params .idle (.completeInitialTerminalCleanup generation)
  else endCleanup params .idle (.completeCleanup generation)

def stopFailed (terminalAfterCleanup : Bool) (error : Throwable) :
    Coordinate params AndroidCoordinatorStep :=
  if terminalAfterCleanup then recordTerminalCleanupRetry params else throw error

def giveBack : Coordinate params AndroidCoordinatorStep := do
  let leaseId ← notNull params transaction.leaseId
  let stopOperationId ← notNull params transaction.stopOperationId
  let result ← outcome (attempt (ask params
    (.stop leaseId stopOperationId transaction.cleanupFailureCode)))
  match result with
  | .error error =>
    stopFailed params (envelope.intent.retry.pendingAction == some .terminalAfterCleanup) error
  | .ok _ => completeWithLease params envelope transaction

def cleanupWithLease : Coordinate params AndroidCoordinatorStep := do
  let (envelope, transaction) ← withStopOperation params envelope transaction
  let (envelope, transaction) ← withLocalStop params envelope transaction
  let stopped ← attempt (ask params .runtimeStop)
  if stopped then giveBack params envelope transaction
  else if envelope.intent.retry.pendingAction == some .terminalAfterCleanup then
    recordTerminalCleanupRetry params
  else recordDirectRetry params "connection_cleanup_local_stop_pending" none none

def cleanupRound (_ : Unit) : Coordinate params (Unit ⊕ AndroidCoordinatorStep) := do
  let envelope ← storedOrThrow params .read
  match envelope.leaseTransaction with
  | none => pure (.inr .idle)
  | some transaction =>
    if transaction.leaseId.isNone then cleanupWithoutLease params envelope transaction
    else .inr <$> cleanupWithLease params envelope transaction

def cleanup : Coordinate params AndroidCoordinatorStep := Fallible.loop (cleanupRound params) ()

end Cleanup

section Starts

variable (params : AndroidParameters)

/-- What `requestStart` makes of an answer: a cancelled request has none. -/
def startAnswer (cancelled : Bool) :
    Except Throwable BackgroundStartResult → Coordinate params (Option BackgroundStartResult)
  | .ok result => pure (if cancelled then none else some result)
  | .error error => if cancelled then pure none else throw error

/-- The part of `requestStart` that reads the intent and sends the request. -/
def sendStart (template : AndroidIntentTemplate) (transaction : AndroidLeaseTransaction) :
    Coordinate params (Option (Except Throwable BackgroundStartResult)) := do
  let current ← storedOrThrow params .read
  if !current.intent.desiredActive || current.intent.generation != transaction.generation then
    pure none
  else do
    let answer ← outcome (attempt (ask params (.start template transaction)))
    pure (some answer)

def requestEnded : Except Throwable (Option (Except Throwable BackgroundStartResult)) →
    Bool → Coordinate params (Option BackgroundStartResult)
  | .ok none, _ => pure none
  | .ok (some answer), cancelled => startAnswer params cancelled answer
  | .error error, cancelled => if cancelled then pure none else throw error

def requestStart (template : AndroidIntentTemplate) (transaction : AndroidLeaseTransaction) :
    Coordinate params (Option BackgroundStartResult) := do
  surely (ask params (.publishStart transaction.startOperationId))
  let answer ← outcome (sendStart params template transaction)
  let cancelled ← surely (ask params .startCancelled)
  surely (ask params .retractStart)
  requestEnded params answer cancelled

def stillDesired (transaction : AndroidLeaseTransaction) : Coordinate params Bool := do
  let current ← storedOrThrow params .read
  pure (current.intent.desiredActive && current.intent.generation == transaction.generation)

def closeCode (state : ReconcileState) : String := "operation_reconcile_" ++ state.text

def closeAuthoritativePendingStartAndRetry (envelope : AndroidRecoveryEnvelope)
    (transaction : AndroidLeaseTransaction) (code : String) :
    Coordinate params AndroidCoordinatorStep :=
  if !envelope.intent.desiredActive || transaction.phase != .startPending ||
      transaction.leaseId.isSome then
    if !envelope.intent.desiredActive && transaction.phase == .startPending &&
        transaction.leaseId.isNone then do
      let _ ← stored params (.completeCancelledStart .reconciled envelope.intent.generation)
      pure .idle
    else recordTerminalFailure params code
  else do
    let delay := retryDelaySeconds envelope.intent.retry.attempt
    let startOperationId ← surely (ask params .operationId)
    let now ← surely (ask params .nowUnix)
    retryIf params (.closeAuthoritativeStartAndRestart envelope.intent.generation
      { transaction.replay with startOperationId := startOperationId } code
      (saturatingAdd now delay) delay)

def promote (transaction : AndroidLeaseTransaction) (result : BackgroundStartResult) :
    Coordinate params AndroidCoordinatorStep := do
  let desired ← stillDesired params transaction
  if !desired then cleanup params
  else do
    let admitted ← surely (ask params .canStart)
    if !admitted then pure .busy
    else
      match result.redundantTransaction with
      | none => throw (.background "invalid_background_response" none)
      | some redundant => do
        let _ ← storedOrThrow params (.promotePendingRedundant transaction redundant)
        attempt (ask params (.runtimeStartRedundant redundant.startOperationId))
        pure .busy

def sendRedundantStart (template : AndroidIntentTemplate) (transaction : AndroidLeaseTransaction) :
    Coordinate params AndroidCoordinatorStep := do
  let result ← requestStart params template transaction
  match result with
  | none => pure .busy
  | some result => promote params transaction result

/-- Binding preferences are sent before a redundant session is allocated. -/
def syncRedundant (template : AndroidIntentTemplate) (transaction : AndroidLeaseTransaction) :
    Coordinate params AndroidCoordinatorStep := do
  attempt (ask params (.syncBindingPreferences template))
  let desired ← stillDesired params transaction
  if !desired then cleanup params
  else do
    let admitted ← surely (ask params .canStart)
    if !admitted then pure .busy else sendRedundantStart params template transaction

def continueRedundantStart (envelope : AndroidRecoveryEnvelope)
    (transaction : AndroidLeaseTransaction) (state : ReconcileState) :
    Coordinate params AndroidCoordinatorStep :=
  match state with
  | .applying | .compensating => recordDirectRetry params "operation_reconcile_pending" none none
  | .terminal | .cancelled =>
    closeAuthoritativePendingStartAndRetry params envelope transaction (closeCode state)
  | .notFound | .pending | .applied => do
    let template ← notNull params envelope.intent.template
    if state = .notFound && template.syncBindingPreferences then
      syncRedundant params template transaction
    else sendRedundantStart params template transaction
  | .other => recordTerminalFailure params "invalid_background_response"

def runPendingRedundantStart (envelope : AndroidRecoveryEnvelope)
    (transaction : AndroidLeaseTransaction) : Coordinate params AndroidCoordinatorStep := do
  require transaction.leaseId.isNone .unexpected
  if !envelope.intent.desiredActive then cleanup params
  else do
    let reconciled ← attempt (ask params (.reconcile transaction false))
    let desired ← stillDesired params transaction
    if !desired then cleanup params
    else do
      let admitted ← surely (ask params .canStart)
      if !admitted then pure .busy
      else continueRedundantStart params envelope transaction reconciled.state

inductive RuntimeStartFenceResult where
  | started
  | failed
  | cancelledBeforeStart
  | cancelledAfterStart

def fenceAfterStart (expectedGeneration : Nat) : Coordinate params RuntimeStartFenceResult := do
  let after ← storedOrThrow params .read
  let admitted ← surely (ask params .canStart)
  if !admitted || !after.intent.desiredActive || after.intent.generation != expectedGeneration then
    pure .cancelledAfterStart
  else pure .started

def startRuntimeWithConnectionIntentFence (expectedGeneration : Nat) (operationId : String) :
    Coordinate params RuntimeStartFenceResult := do
  let before ← storedOrThrow params .read
  let admitted ← surely (ask params .canStart)
  let dispatched := admitted && before.intent.desiredActive &&
    before.intent.generation == expectedGeneration
  let started ← attempt (ask params (.runtimeStart operationId dispatched))
  if !dispatched then pure .cancelledBeforeStart
  else if started then fenceAfterStart params expectedGeneration
  else pure .failed

def requireCurrentCleanup (transaction : AndroidLeaseTransaction) (leaseId : String) :
    Coordinate params Unit := do
  let current ← storedOrThrow params .read
  let stopOperationId ← surely (ask params .operationId)
  let admitted ← surely (ask params .canStart)
  let _ ← storedOrThrow params (.requireCleanup current.intent.generation leaseId stopOperationId
    (!admitted && current.intent.generation == transaction.generation))
  pure ()

def startCancelled (transaction : AndroidLeaseTransaction) (leaseId : String) (error : Throwable) :
    Coordinate params AndroidCoordinatorStep := do
  let acquired ← storedOrThrow params .read
  let admitted ← surely (ask params .canStart)
  let restart := !admitted && acquired.intent.generation == transaction.generation
  if !acquired.intent.desiredActive || restart then do
    let stopOperationId ← surely (ask params .operationId)
    let _ ← storedOrThrow params (.requireCleanup acquired.intent.generation leaseId
      stopOperationId restart)
    cleanup params
  else throw error

def runtimeFailed (transaction : AndroidLeaseTransaction) (leaseId : String) :
    Throwable → Coordinate params AndroidCoordinatorStep
  | .unexpected => throw .unexpected
  | .background code retryAfter =>
    if code = "tunnel_handshake_timeout" then do
      let acquired ← storedOrThrow params .read
      let stopOperationId ← surely (ask params .operationId)
      let _ ← storedOrThrow params (.requireCleanup acquired.intent.generation leaseId
        stopOperationId false)
      throw (.background code retryAfter)
    else if code = "tunnel_start_cancelled" then
      startCancelled params transaction leaseId (.background code retryAfter)
    else throw (.background code retryAfter)

def checkpointFailed (leaseId : String) (failure : StoreFailure) :
    Coordinate params AndroidCoordinatorStep := do
  let live ← storedOrThrow params .read
  if failure.code != .connectionIntentGenerationConflict || live.intent.desiredActive then
    throw (.background failure.code.text none)
  else do
    let stopOperationId ← surely (ask params .operationId)
    let _ ← storedOrThrow params (.requireCleanup live.intent.generation leaseId stopOperationId
      false)
    cleanup params

def checkpoint (transaction : AndroidLeaseTransaction) (leaseId : String) :
    Coordinate params AndroidCoordinatorStep := do
  let activated ← stored params (.activateCheckpoint transaction.generation)
  match activated with
  | .ok _ => pure .active
  | .error failure => checkpointFailed params leaseId failure

def afterRuntimeStart (transaction : AndroidLeaseTransaction) (leaseId : String) :
    RuntimeStartFenceResult → Coordinate params AndroidCoordinatorStep
  | .cancelledBeforeStart => do
    requireCurrentCleanup params transaction leaseId
    pure .cleanupRequired
  | .cancelledAfterStart => do
    requireCurrentCleanup params transaction leaseId
    cleanup params
  | .failed => throw (.background "tunnel_backend_error" none)
  | .started => checkpoint params transaction leaseId

def startTunnel (transaction : AndroidLeaseTransaction) (leaseId : String) :
    Coordinate params AndroidCoordinatorStep := do
  let result ← outcome (startRuntimeWithConnectionIntentFence params transaction.generation
    transaction.startOperationId)
  match result with
  | .error error => runtimeFailed params transaction leaseId error
  | .ok result => afterRuntimeStart params transaction leaseId result

def keepLease (transaction : AndroidLeaseTransaction) (leaseId : String)
    (leaseAlreadyStored : Bool) : Coordinate params Unit :=
  if !leaseAlreadyStored then do
    let _ ← storedOrThrow params (.recordLease transaction.generation leaseId)
    pure ()
  else require (transaction.leaseId == some leaseId) (.background "request_fingerprint_mismatch" none)

def afterStart (transaction : AndroidLeaseTransaction) (leaseId : String)
    (leaseAlreadyStored : Bool) : Coordinate params AndroidCoordinatorStep := do
  let live ← storedOrThrow params .read
  let admitted ← surely (ask params .canStart)
  if !admitted || !live.intent.desiredActive ||
      live.intent.generation != transaction.generation then do
    let stopOperationId ← surely (ask params .operationId)
    let _ ← storedOrThrow params (.requireCleanup live.intent.generation leaseId stopOperationId
      (!admitted && live.intent.generation == transaction.generation))
    pure .cleanupRequired
  else do
    keepLease params transaction leaseId leaseAlreadyStored
    startTunnel params transaction leaseId

def sendExactStart (template : AndroidIntentTemplate) (transaction : AndroidLeaseTransaction)
    (leaseAlreadyStored : Bool) : Coordinate params AndroidCoordinatorStep := do
  let admitted ← surely (ask params .canStart)
  if !admitted then pure .busy
  else do
    let result ← requestStart params template transaction
    match result with
    | none => pure .busy
    | some result => afterStart params transaction result.leaseId leaseAlreadyStored

def syncExact (template : AndroidIntentTemplate) (transaction : AndroidLeaseTransaction)
    (leaseAlreadyStored : Bool) : Coordinate params AndroidCoordinatorStep := do
  attempt (ask params (.syncBindingPreferences template))
  let ready ← storedOrThrow params .read
  if !ready.intent.desiredActive || ready.intent.generation != transaction.generation then
    if !ready.intent.desiredActive && ready.leaseTransaction.any (fun transaction =>
        transaction.phase == .startPending && transaction.leaseId.isNone) then do
      let _ ← storedOrThrow params (.completeCancelledStart .afterSync ready.intent.generation)
      pure .idle
    else pure .retry
  else do
    let admitted ← surely (ask params .canStart)
    if !admitted then pure .busy
    else sendExactStart params template transaction leaseAlreadyStored

def exactReplayAndStart (envelope : AndroidRecoveryEnvelope) (transaction : AndroidLeaseTransaction)
    (leaseAlreadyStored syncBeforeStart : Bool) : Coordinate params AndroidCoordinatorStep :=
  match envelope.intent.template with
  | none => throw (.background "connection_intent_invalid" none)
  | some template => do
    let admitted ← surely (ask params .canStart)
    if !admitted then pure .busy
    else if syncBeforeStart && template.syncBindingPreferences then
      syncExact params template transaction leaseAlreadyStored
    else sendExactStart params template transaction leaseAlreadyStored

def cleanupReconciled (generation : Nat) (reconciled : BackgroundReconcileResult)
    (stopOperationId : Coordinate params String) (restartIfDesired : Bool) :
    Coordinate params AndroidCoordinatorStep := do
  let leaseId ← reconciledLease params reconciled
  let stopOperationId ← stopOperationId
  let _ ← storedOrThrow params (.requireCleanup generation leaseId stopOperationId restartIfDesired)
  cleanup params

def cancelAfterFence (live : AndroidRecoveryEnvelope) (transaction : AndroidLeaseTransaction) :
    Coordinate params AndroidCoordinatorStep := do
  let cancelled ← attempt (ask params (.reconcile transaction true))
  match cancelled.state with
  | .notFound | .terminal | .cancelled =>
    if !live.intent.desiredActive && transaction.phase == .startPending &&
        transaction.leaseId.isNone then
      endCleanup params .idle (.completeCancelledStart .reconciled live.intent.generation)
    else recordDirectRetry params "operation_reconcile_cancel_pending" none none
  | .applied =>
    cleanupReconciled params live.intent.generation cancelled (stopOperation params transaction)
      false
  | .pending | .applying | .compensating =>
    recordDirectRetry params "operation_reconcile_pending" none none
  | .other => recordDirectRetry params "invalid_background_response" none none

def continueAfterReconcileFence (live : AndroidRecoveryEnvelope)
    (staleResult : BackgroundReconcileResult) : Coordinate params AndroidCoordinatorStep :=
  match live.leaseTransaction with
  | none => pure .idle
  | some transaction =>
    if staleResult.state = .applied then
      cleanupReconciled params live.intent.generation staleResult
        (stopOperation params transaction) false
    else cancelAfterFence params live transaction

def runCancelledStart (envelope : AndroidRecoveryEnvelope)
    (reconciled : BackgroundReconcileResult) : Coordinate params AndroidCoordinatorStep :=
  match reconciled.state with
  | .notFound | .terminal | .cancelled => do
    let completed ← stored params (.completeCancelledStart .reconciled envelope.intent.generation)
    completeInitial params envelope completed
  | .applied => do
    let leaseId ← reconciledLease params reconciled
    let current ← storedOrThrow params .read
    let stopOperationId ← surely (ask params .operationId)
    let _ ← storedOrThrow params (.requireCleanup current.intent.generation leaseId
      stopOperationId false)
    cleanup params
  | .pending | .applying | .compensating =>
    recordDirectRetry params "operation_reconcile_pending" none none
  | .other => recordDirectRetry params "invalid_background_response" none none

def runDesiredStart (envelope : AndroidRecoveryEnvelope) (transaction : AndroidLeaseTransaction)
    (reconciled : BackgroundReconcileResult) : Coordinate params AndroidCoordinatorStep :=
  match reconciled.state with
  | .notFound | .pending | .applied =>
    exactReplayAndStart params envelope transaction false (reconciled.state == .notFound)
  | .applying | .compensating => recordDirectRetry params "operation_reconcile_pending" none none
  | .terminal | .cancelled =>
    closeAuthoritativePendingStartAndRetry params envelope transaction (closeCode reconciled.state)
  | .other => recordTerminalFailure params "invalid_background_response"

def continueDesiredStart (envelope : AndroidRecoveryEnvelope)
    (transaction : AndroidLeaseTransaction) (reconciled : BackgroundReconcileResult)
    (live : AndroidRecoveryEnvelope) : Coordinate params AndroidCoordinatorStep :=
  if live.intent.generation != envelope.intent.generation || !live.intent.desiredActive then
    continueAfterReconcileFence params live reconciled
  else do
    let admitted ← surely (ask params .canStart)
    if !admitted then
      if reconciled.state = .applied then
        cleanupReconciled params live.intent.generation reconciled
          (stopOperation params transaction) true
      else pure .busy
    else runDesiredStart params envelope transaction reconciled

def runPendingDesired (envelope : AndroidRecoveryEnvelope) (transaction : AndroidLeaseTransaction) :
    Coordinate params AndroidCoordinatorStep := do
  let admitted ← surely (ask params .canStart)
  if !admitted then pure .busy
  else do
    let reconciled ← attempt (ask params (.reconcile transaction false))
    let live ← storedOrThrow params .read
    continueDesiredStart params envelope transaction reconciled live

def runPendingStart (envelope : AndroidRecoveryEnvelope) (transaction : AndroidLeaseTransaction) :
    Coordinate params AndroidCoordinatorStep :=
  if envelope.intent.desiredActive then runPendingDesired params envelope transaction
  else do
    let reconciled ← attempt (ask params (.reconcile transaction true))
    let _ ← storedOrThrow params .read
    runCancelledStart params envelope reconciled

end Starts

section Attempts

variable (params : AndroidParameters)
variable (envelope : AndroidRecoveryEnvelope) (transaction : AndroidLeaseTransaction)

def clearAction :
    Coordinate params (Option AndroidCoordinatorStep) := do
  let _ ← storedOrThrow params (.clearPendingRetryAction envelope.intent.generation)
  pure none

def recordBlockedStalledRecovery : Coordinate params AndroidCoordinatorStep := do
  let _ ← stored params (.recordFailure envelope.intent.generation
    "connection_stall_not_recyclable" none none none none none none)
  pure .terminal

def resumeStalled (expectedLeaseId : String) (reconciled : BackgroundReconcileResult) :
    Coordinate params AndroidCoordinatorStep :=
  match reconciled.state with
  | .pending | .applying | .compensating =>
    recordDirectRetry params "operation_reconcile_pending" none none
  | .notFound =>
    if reconciled.leaseId.isSome || reconciled.leaseStatus.isSome then
      recordTerminalFailure params "invalid_background_response"
    else
      recordDirectRetry params "connection_stalled_stop_replay_pending"
        (some .newOperationAfterCleanup) none
  | .applied | .terminal | .cancelled =>
    if reconciled.leaseId = some expectedLeaseId ∧
        (reconciled.leaseStatus = some "released" ∨ reconciled.leaseStatus = some "failed") then
      restartAfterCleanup params envelope transaction
    else recordBlockedStalledRecovery params envelope
  | .other => recordTerminalFailure params "invalid_background_response"

def resumeStalledStopReconcile (reconciled : BackgroundReconcileResult) :
    Coordinate params AndroidCoordinatorStep := do
  let expectedLeaseId ← notNull params transaction.leaseId
  if reconciled.leaseId.any (· != expectedLeaseId) ||
      (reconciled.leaseId.isNone && reconciled.leaseStatus.isSome) then
    recordTerminalFailure params "invalid_background_response"
  else resumeStalled params envelope transaction expectedLeaseId reconciled

def resumeReconciled (reconciled : BackgroundReconcileResult) :
    Coordinate params (Option AndroidCoordinatorStep) :=
  match reconciled.state with
  | .applying | .compensating =>
    some <$> recordDirectRetry params "operation_reconcile_pending" none none
  | .terminal | .cancelled =>
    some <$> closeAuthoritativePendingStartAndRetry params envelope transaction
      (closeCode reconciled.state)
  | .notFound | .pending | .applied =>
    if reconciled.state = .applied && transaction.leaseId.isSome && reconciled.leaseId.isSome &&
        reconciled.leaseId != transaction.leaseId then
      some <$> recordTerminalFailure params "request_fingerprint_mismatch"
    else clearAction params envelope
  | .other => some <$> recordTerminalFailure params "invalid_background_response"

def resumeReconcile :
    Coordinate params (Option AndroidCoordinatorStep) := do
  let admitted ← if envelope.intent.desiredActive then surely (ask params .canStart) else pure true
  if !admitted then pure (some .busy)
  else do
    let reconciled ← attempt (ask params (.reconcile transaction (!envelope.intent.desiredActive)))
    if transaction.cleanupFailureCode = some "tunnel_data_plane_stalled" then
      some <$> resumeStalledStopReconcile params envelope transaction reconciled
    else resumeReconciled params envelope transaction reconciled

def resumeLocalRestart :
    Coordinate params (Option AndroidCoordinatorStep) := do
  let running ← attempt (ask params .runtimeRunning)
  let stopped ← if running then attempt (ask params .runtimeStop) else pure true
  if !stopped then some <$> recordDirectRetry params "local_restart_pending" none none
  else clearAction params envelope

def resumePendingAction :
    Coordinate params (Option AndroidCoordinatorStep) :=
  let action := envelope.intent.retry.pendingAction
  if !envelope.intent.desiredActive && action != some .initialTerminalAfterCleanup &&
      action != some .terminalAfterCleanup then clearAction params envelope
  else
    match action with
    | some .validateCapability | some .redundantTotalLossRestart => clearAction params envelope
    | some .localRestart => resumeLocalRestart params envelope
    | some .reconcile => resumeReconcile params envelope transaction
    | some .newOperationAfterCleanup | some .terminalAfterCleanup
    | some .initialTerminalAfterCleanup | none => pure none
    | some .legacyRuntimeStop | some .initialTerminalReportPending =>
      some <$> recordTerminalFailure params "connection_intent_invalid"

def cleanupUnwanted : Coordinate params AndroidCoordinatorStep :=
  match transaction.leaseId with
  | none => throw (.background "connection_cleanup_lease_unavailable" none)
  | some leaseId => do
    let stopOperationId ← surely (ask params .operationId)
    let _ ← storedOrThrow params (.requireCleanup envelope.intent.generation leaseId
      stopOperationId false)
    cleanup params

def runPhase : Coordinate params AndroidCoordinatorStep :=
  match transaction.phase with
  | .startPending => runPendingStart params envelope transaction
  | .leaseAcquired =>
    if !envelope.intent.desiredActive then cleanupUnwanted params envelope transaction
    else exactReplayAndStart params envelope transaction true false
  | .activeCheckpoint =>
    if !envelope.intent.desiredActive then cleanupUnwanted params envelope transaction
    else do
      let running ← attempt (ask params .runtimeRunning)
      if running then pure .active else exactReplayAndStart params envelope transaction true false
  | .cleanupPending | .staleCleanup => cleanup params

def runTransaction : Coordinate params AndroidCoordinatorStep := do
  let read ← stored params .read
  match read with
  | .error _ => pure .terminal
  | .ok envelope =>
    match envelope.leaseTransaction with
    | none => pure .idle
    | some transaction =>
      if transaction.replay.contractVersion = 2 then
        runPendingRedundantStart params envelope transaction
      else runPhase params envelope transaction

def runOwned : Coordinate params AndroidCoordinatorStep := do
  let admitted ← if envelope.intent.desiredActive && !transaction.phase.cleaning then
      surely (ask params .canStart)
    else pure true
  if !admitted then pure .busy
  else do
    let resumed ← resumePendingAction params envelope transaction
    match resumed with
    | some step => pure step
    | none => runTransaction params

def legacyStopped (stopped : Bool) :
    Coordinate params AndroidCoordinatorStep :=
  if !stopped then
    recordDirectRetry params "legacy_runtime_stop_pending" (some .legacyRuntimeStop) none
  else do
    let result ← stored params (.completeLegacyRuntimeStop envelope.intent.generation)
    match result with
    | .ok _ => pure .idle
    | .error _ => pure .retry

def stopLegacyRuntime : Coordinate params AndroidCoordinatorStep := do
  let result ← outcome (do
    let stopped ← attempt (ask params .runtimeStop)
    legacyStopped params envelope stopped)
  match result with
  | .ok step => pure step
  | .error (.background code _) => recordDirectRetry params code (some .legacyRuntimeStop) none
  | .error .unexpected =>
    recordDirectRetry params "legacy_runtime_stop_failed" (some .legacyRuntimeStop) none

def attemptOnce : Coordinate params AndroidCoordinatorStep := do
  let read ← stored params .read
  match read with
  | .error _ => pure .terminal
  | .ok envelope =>
    if envelope.intent.retry.pendingAction = some .legacyRuntimeStop then
      stopLegacyRuntime params envelope
    else if envelope.isTerminalConnectionIntent then pure .terminal
    else if envelope.intent.retry.terminalDiagnosticPending then pure .retry
    else
      match envelope.leaseTransaction with
      | none => pure .idle
      | some transaction => runOwned params envelope transaction

def attemptFailed : Throwable → Coordinate params AndroidCoordinatorStep
  | .background code retryAfter => recordFailureDecision params code retryAfter
  | .unexpected => recordTerminalFailure params "connection_recovery_failed"

def runGated : Coordinate params AndroidCoordinatorStep := do
  let result ← outcome (attemptOnce params)
  match result with
  | .ok step => pure step
  | .error error => attemptFailed params error

def runOnce : Prog (android params) Unit := do
  let taken ← ask params .takeGate
  if taken then do
    let result ← (runGated params).run
    match result with
    | .ok step => ask params (.finish step)
    | .error _ => pure ()
    ask params .freeGate
  else pure ()

end Attempts

section Requests

variable (params : AndroidParameters)

def canCommitNewIntent : Starter → Coordinate params Bool
  | .plain | .ticketed _ => pure true
  | .dispatched ticket => do
    let current ← surely (ask params (.isCurrent ticket))
    if current then surely (ask params .canCommit) else pure false

def Starter.expectedGeneration : Starter → Option Nat
  | .plain | .ticketed _ => none
  | .dispatched ticket => some ticket.expectedGeneration

def commitNewIntent (starter : Starter) (current : AndroidRecoveryEnvelope)
    (template : AndroidIntentTemplate) : Coordinate params Unit := do
  let startOperationId ← surely (ask params .operationId)
  let replay := template.replay params startOperationId
  if current.isTerminalConnectionIntent then do
    let stopOperationId ← surely (ask params .operationId)
    let _ ← surely (ask params (.commit starter
      (.restartTerminal current.intent.generation template replay stopOperationId)))
    pure ()
  else do
    let _ ← surely (ask params (.commit starter
      (.beginStart current.intent.generation template replay)))
    pure ()

def beginValidated (starter : Starter) (current : AndroidRecoveryEnvelope)
    (template : AndroidIntentTemplate) : Coordinate params Unit := do
  let admitted ← canCommitNewIntent params starter
  whenever admitted do
    let validated ← stored params .read
    match validated with
    | .error _ => pure ()
    | .ok validatedCurrent =>
      whenever (validatedCurrent.intent.generation == current.intent.generation)
        (commitNewIntent params starter current template)

def beginInternal (starter : Starter) (template : AndroidIntentTemplate) :
    Coordinate params Unit := do
  let admitted ← canCommitNewIntent params starter
  whenever admitted do
    let read ← stored params .read
    match read with
    | .error _ => pure ()
    | .ok current =>
      let terminal := current.isTerminalConnectionIntent
      let refused := current.redundantTransaction.isSome ||
        starter.expectedGeneration.any (· != current.intent.generation) ||
        (current.intent.desiredActive && current.intent.template == some template && !terminal) ||
        (current.leaseTransaction.isSome && !terminal)
      whenever (!refused) do
        let validated ← outcome (attempt (ask params (.validateNewIntent template)))
        whenever validated.isOk (beginValidated params starter current template)

def cancelPendingStartRequest (result : Except StoreFailure AndroidRecoveryEnvelope) :
    Coordinate params Unit :=
  match result with
  | .error _ => pure ()
  | .ok envelope =>
    match envelope.leaseTransaction with
    | none => pure ()
    | some transaction =>
      whenever (!envelope.intent.desiredActive)
        (surely (ask params (.cancelPendingStart transaction.startOperationId)))

def cancelWith (call : StoreCall) : Coordinate params Unit := do
  let result ← stored params call
  cancelPendingStartRequest params result

def dataPlaneStalled (leaseId : String) : Coordinate params Unit := do
  let read ← stored params .read
  match read with
  | .error _ => pure ()
  | .ok current =>
    match current.intent.template with
    | none => pure ()
    | some template => do
      let stopOperationId ← match current.leaseTransaction with
        | some transaction => stopOperation params transaction
        | none => surely (ask params .operationId)
      let now ← surely (ask params .nowUnix)
      let _ ← stored params (.scheduleStalledRecovery current.intent.generation leaseId
        stopOperationId template.measured now)
      pure ()

def credentialProvisioningCompleted : Coordinate params Unit := do
  let read ← stored params .read
  match read with
  | .error _ => pure ()
  | .ok current => do
    let _ ← stored params (.clearCredentialProvisioningBarrier current.intent.generation)
    pure ()

def acknowledgeInitialTerminalDiagnostic (generation : Nat) (episode : Option Nat) :
    Coordinate params Unit := do
  let _ ← stored params (.acknowledgeInitialTerminalDiagnostic generation episode)
  pure ()

def executeDispatchedConnectionIntent (ticket : DispatchTicket) (starter : Starter)
    (template : AndroidIntentTemplate) : Coordinate params Unit := do
  let current ← surely (ask params (.isCurrent ticket))
  whenever current do
    beginInternal params starter template
    let _ ← surely (ask params (.complete ticket))
    pure ()

/-- An explicit start: the intent is read, a ticket is issued and the start executed. -/
def explicitStart (starter : DispatchTicket → Starter) (template : AndroidIntentTemplate) :
    Coordinate params Unit := do
  let read ← stored params .read
  match read with
  | .error _ => pure ()
  | .ok current => do
    let ticket ← surely (ask params (.dispatchStart current.intent.generation))
    executeDispatchedConnectionIntent params ticket (starter ticket) template

def cancelDispatchedConnectionIntent (call : StoreCall) : Coordinate params Unit := do
  surely (ask params .invalidate)
  cancelWith params call

def endTicket (ticket : DispatchTicket) : Coordinate params Unit := do
  let _ ← surely (ask params (.complete ticket))
  pure ()

/-- `executeDispatchedQuickStart`. The policy of a start that no transaction owns may be the legacy
one, or fail to be selected; both only end the ticket. -/
def executeDispatchedQuickStart (ticket : DispatchTicket) (recoveryOwned : Bool)
    (template : Option AndroidIntentTemplate) : Coordinate params Unit := do
  let current ← surely (ask params (.isCurrent ticket))
  whenever current do
    let recovery ← if recoveryOwned then pure true else surely (ask params .selectPolicy)
    match template with
    | some template =>
      if recovery then executeDispatchedConnectionIntent params ticket (.dispatched ticket) template
      else endTicket params ticket
    | none => endTicket params ticket

/-- `applyBackgroundToggleResult`. A redundant session has a stop of its own. -/
def applyBackgroundToggleResult (template : Option AndroidIntentTemplate) :
    QuickToggleDispatch → Coordinate params Unit
  | .start ticket recoveryOwned => do
    let admitted ← surely (ask params .canCommit)
    if admitted then executeDispatchedQuickStart params ticket recoveryOwned template
    else endTicket params ticket
  | .stop => cancelDispatchedConnectionIntent params .cancelCurrentIntentForQuickToggle
  | .redundantStop _ => surely (ask params .invalidate)

/-- `quickToggle` and its execution. The source reads the intent under the lock of the dispatch;
here others may run in between, which only adds interleavings. -/
def quickToggle (template : Option AndroidIntentTemplate) : Coordinate params Unit := do
  let read ← stored params .read
  match read with
  | .error _ => pure ()
  | .ok current => do
    let dispatch ← surely (ask params (.toggle current.intent.generation
      current.intent.desiredActive current.leaseTransaction.isSome
      (current.redundantTransaction.map (·.startOperationId))))
    applyBackgroundToggleResult params template dispatch

/-- `beginLocalRestart` and `completeLocalRestart`: the tunnel is replaced under the gate. -/
def localRestart : Prog (android params) Unit := do
  let taken ← ask params .takeGate
  if taken then ask params .freeGate else pure ()

inductive Op where
  | runOnce
  | begin (template : AndroidIntentTemplate)
  | cancel (generation : Option Nat)
  | dataPlaneStalled (leaseId : String)
  | credentialProvisioningCompleted
  | acknowledgeInitialTerminalDiagnostic (generation : Nat) (episode : Option Nat)
  | explicitStart (template : AndroidIntentTemplate)
  | ticketedBegin (template : AndroidIntentTemplate)
  | quickToggle (template : Option AndroidIntentTemplate)
  | localRestart
  | cancelDispatched (generation : Option Nat)

def cancelCall : Option Nat → StoreCall
  | none => .cancelCurrentIntent
  | some generation => .setDesiredActive generation false

def request (x : Coordinate params Unit) : Prog (android params) Unit := do
  let _ ← x.run
  return ()

def Op.program : Op → Prog (android params) Unit
  | runOnce => AndroidCoordinator.runOnce params
  | begin template => request params (beginInternal params .plain template)
  | cancel generation => request params (cancelWith params (cancelCall generation))
  | dataPlaneStalled leaseId => request params (AndroidCoordinator.dataPlaneStalled params leaseId)
  | credentialProvisioningCompleted =>
    request params (AndroidCoordinator.credentialProvisioningCompleted params)
  | acknowledgeInitialTerminalDiagnostic generation episode =>
    request params
      (AndroidCoordinator.acknowledgeInitialTerminalDiagnostic params generation episode)
  | explicitStart template =>
    request params (AndroidCoordinator.explicitStart params .dispatched template)
  | ticketedBegin template =>
    request params (AndroidCoordinator.explicitStart params .ticketed template)
  | quickToggle template => request params (AndroidCoordinator.quickToggle params template)
  | localRestart => AndroidCoordinator.localRestart params
  | cancelDispatched generation =>
    request params (cancelDispatchedConnectionIntent params (cancelCall generation))

abbrev androidSystem : System := ⟨android params, Op, Op.program params, AndroidWorld.restart⟩

end Requests

end NelomaiClient.AndroidCoordinator
