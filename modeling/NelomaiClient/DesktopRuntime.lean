import NelomaiClient.IntentCoordinator
import NelomaiClient.CoreContract

/-!
# The runtime state of the desktop intent driver

`DesktopConnectionIntent` keeps one `RuntimeState` behind a mutex that is never
held across an await. Each critical section of the driver is embedded as a
function of that state; the programs that run them are in the next module.
-/

namespace NelomaiClient.DesktopRuntime

open ConnectionContract RecoveryPolicy IntentCoordinator CoreContract

inductive ApplicationError where
  | recoveryDeferred
  | storage
  | clock
  | api (error : CoreApiError)
  | core (error : CoreError)
  deriving DecidableEq

/-- Failure of a desktop command: a text of its own, or a shown application failure. -/
inductive CommandError where
  | new (code message : String)
  | ofApplication (error : ApplicationError)

def CommandError.cancelled : CommandError :=
  .new "connection_intent_cancelled" "Подключение отменено"

inductive StartCommandResponse where
  | connected (connection : Connection)
  | recovering (nextRetryAtUnix : Option Int)

structure DiagnosticsEpisode where
  reportQueued : Bool
  notificationSent : Bool

structure DiagnosticActions where
  queueReport : Bool
  notifyUser : Bool

namespace DiagnosticsEpisode

def fresh : DiagnosticsEpisode := ⟨false, false⟩

def observeRetry (episode : DiagnosticsEpisode) (delaySeconds : Nat) :
    DiagnosticActions × DiagnosticsEpisode :=
  if delaySeconds < 300 then (⟨false, false⟩, episode)
  else (⟨!episode.reportQueued, !episode.notificationSent⟩, ⟨true, true⟩)

def observeTerminal (episode : DiagnosticsEpisode) : DiagnosticActions × DiagnosticsEpisode :=
  (⟨!episode.reportQueued, false⟩, { episode with reportQueued := true })

def reportQueueFailed (episode : DiagnosticsEpisode) : DiagnosticsEpisode :=
  { episode with reportQueued := false }

end DiagnosticsEpisode

inductive AttemptKind where
  | start
  | stallReplacement
  deriving DecidableEq

structure BindPeerRequest where
  peerId : String
  expectedBindingId : Option String
  preferredLayer : Layer
  ticConnectionMode : TicConnectionMode
  routeMode : RouteMode
  egressMode : EgressMode
  deriving DecidableEq

structure InitialDesktopPreflight where
  expectedDeviceId : Option String
  bindingRequest : Option BindPeerRequest
  /-- Set for a quick toggle, with its probe flag. -/
  quickToggleSkipProbeRefresh : Option Bool
  deriving DecidableEq

inductive InitialDesktopStartMode where
  | recovery
  | legacy

inductive StartRuntimeAction where
  | run (generation : IntentGeneration)
  | wait (nextRetryAtUnix : Option Int)
  deriving DecidableEq

structure RuntimeState where
  coordinator : ConnectionIntentCoordinator
  options : Option ConnectOptions
  policy : RecoveryPolicyContext
  /-- When the scheduler runs the next attempt. -/
  nextRetryAtUnix : Option Int
  /-- Earliest time a wake-up may advance the retry to. -/
  retryNotBeforeUnix : Option Int
  /-- Reconcile the panel before the next attempt. -/
  reconcileBeforeAttempt : Bool
  /-- Repair the tunnel service before the next attempt. -/
  repairBeforeAttempt : Bool
  /-- Refresh the recovery capability before the next attempt. -/
  refreshCapabilityBeforeAttempt : Bool
  armed : Bool
  diagnosticsEpisode : DiagnosticsEpisode
  attemptKind : AttemptKind
  retryCount : Nat
  ownedLeaseId : Option String
  initialPreflight : Option InitialDesktopPreflight

def RuntimeState.initial : RuntimeState :=
  ⟨.initial, none, .fresh, none, none, false, false, false, false, .fresh, .start, 0, none, none⟩

def apiErrorCode : CoreApiError → String
  | .unauthorized => "signed_out"
  | .accessExpired => "access_expired"
  | .retryable => "transport_error"
  | .rejected code _ _ => code

def stableErrorCode : ApplicationError → String
  | .storage => "storage_unavailable"
  | .recoveryDeferred => "recovery_power_deferred"
  | .clock => "clock_unavailable"
  | .api error => apiErrorCode error
  | .core .authenticationOutcomeUnknown => "authentication_outcome_unknown"
  | .core .authRecoveryRequired => "auth_recovery_required"
  | .core .signedOut => "signed_out"
  | .core .accessExpired => "access_expired"
  | .core .updateRequired => "update_required"
  | .core .savedConnectionUnavailable => "saved_connection_unavailable"
  | .core .startCancelled => "connection_intent_cancelled"
  | .core .storage => "storage_unavailable"
  | .core (.api error) => apiErrorCode error
  | .core (.tunnel code) => code
  | .core (.splitTunnel code) => code

def errorRetryAfterSeconds : ApplicationError → Option Nat
  | .api (.rejected _ _ retryAfterSeconds) => retryAfterSeconds
  | .core (.api (.rejected _ _ retryAfterSeconds)) => retryAfterSeconds
  | _ => none

def nextCapabilityRefreshRequirement (current : Bool) (decision : RecoveryDecision) : Bool :=
  current || decision = .retryNewOperation

def nextReconcileRequirement (current : Bool) (decision : RecoveryDecision) : Bool :=
  current || (decision = .reconcileThenRetry || decision = .reconcileOnce)

def updatePolicyContext (context : RecoveryPolicyContext) (code : String)
    (decision : RecoveryDecision) : RecoveryPolicyContext :=
  if decision = .reconcileOnce then { context with stalledReconcileAttempted := true }
  else if decision ≠ .retryOnce then context
  else if code = "service_unavailable" then { context with serviceRecoveryAttempted := true }
  else if code ∈ ["amneziawg_profile_mismatch", "awg3_profile_apply_failed",
      "awg3_profile_transform_mismatch"] then { context with profileReissueAttempted := true }
  else context

def retryAtAfterWakeup (retryNotBeforeUnix : Option Int) (nowUnix : Int) : Int :=
  max (retryNotBeforeUnix.getD nowUnix) nowUnix

def recoveringAction (previousGeneration generation : IntentGeneration)
    (nextRetryAtUnix : Option Int) : StartRuntimeAction :=
  if generation = previousGeneration then .wait nextRetryAtUnix else .run generation

def consumeImmediateRetrySlot (coordinator : ConnectionIntentCoordinator)
    (generation : IntentGeneration) (nowUnix : Int) : ConnectionIntentCoordinator :=
  (coordinator.scheduleRetry generation nowUnix).2

def connectionMatchesCoreState (core : CoreState) (connection : Connection) : Bool :=
  core.phase = .connected && (core.connection.any fun current => current.leaseId = connection.leaseId)

def canBeginStallRecovery (status : ConnectionIntentStatus) (armed : Bool) : Bool :=
  armed && status = .none

def attemptKindForStallPlan : StallRecoveryPlan → AttemptKind
  | .replaceDynamic _ _ => .stallReplacement
  | .preservePeer => .stallReplacement

def attemptReportsRecovery (attemptKind : AttemptKind) (retryCount : Nat) : Bool :=
  retryCount > 0 || attemptKind ≠ .start

def localRecoveryConnection (core : CoreState) (expectedGeneration : IntentGeneration)
    (state : RuntimeState) (leaseId : String) : Option Connection :=
  if expectedGeneration ≠ state.coordinator.generation ∨ state.armed = false ∨
      state.ownedLeaseId ≠ some leaseId ∨ core.phase ≠ .connected then none
  else core.connection.filter fun connection => connection.leaseId = leaseId

namespace RuntimeState
variable (state : RuntimeState) (generation : IntentGeneration)

def initializeEpisode (options : ConnectOptions)
    (generation : IntentGeneration) (nowUnix : Int) : RuntimeState :=
  { state with
    options := some options.normalizedForLayer, policy := .fresh, nextRetryAtUnix := none
    retryNotBeforeUnix := none, reconcileBeforeAttempt := false, repairBeforeAttempt := false
    diagnosticsEpisode := .fresh, retryCount := 0
    attemptKind := if state.armed then state.attemptKind else .start
    coordinator := consumeImmediateRetrySlot state.coordinator generation nowUnix }

def disown : RuntimeState :=
  { state with armed := false, ownedLeaseId := none, attemptKind := .start }

/-- The completed intent that a start observed is one whose connection the core
has stopped since. -/
def observedStopped (observed : Option (IntentGeneration × Connection))
    (core : CoreState) (cleanupPending : Bool) : Bool :=
  core.phase = .ready && !cleanupPending && observed.any fun (generation, connection) =>
    generation = state.coordinator.generation &&
      state.coordinator.completedConnection = some connection &&
      core.connection.all fun stopped =>
        stopped.leaseId = connection.leaseId &&
          (stopped.sessionId = none || stopped.sessionId = connection.sessionId) &&
          (stopped.status = .released || stopped.status = .failed || stopped.status = .warm)

/-- Retire the observed completed intent if the core stopped it, then start or join. -/
def startAfterCoreObservation (observed : Option (IntentGeneration × Connection)) (core : CoreState)
    (cleanupPending : Bool) (options : ConnectOptions) (nowUnix : Int) :
    Except ConnectionIntentError StartDisposition × RuntimeState :=
  let state :=
    if state.observedStopped observed core cleanupPending then
      let (cancelled, coordinator) := state.coordinator.cancelIntent state.coordinator.generation
      let state := { state with coordinator := coordinator }
      if cancelled then state.disown else state
    else state
  let (result, coordinator) := state.coordinator.startOrResume options nowUnix
  (result, { state with coordinator := coordinator })

def busy (error : ConnectionIntentError) : CommandError := .new "connection_busy" error.message

def startSection (observed : Option (IntentGeneration × Connection))
    (core : CoreState) (cleanupPending : Bool) (options : ConnectOptions) (nowUnix : Int)
    (initialPreflight : Option InitialDesktopPreflight) :
    Except CommandError (Connection ⊕ StartRuntimeAction) × RuntimeState :=
  let previousGeneration := state.coordinator.generation
  let (disposition, state) :=
    state.startAfterCoreObservation observed core cleanupPending options nowUnix
  match disposition with
  | .error error => (.error (busy error), state)
  | .ok (.connected connection) =>
    if connectionMatchesCoreState core connection then (.ok (.inl connection), state)
    else
      let (cancelled, coordinator) := state.coordinator.cancelIntent previousGeneration
      let state := { state with coordinator := coordinator }
      if cancelled = false then
        (.error (.new "connection_busy" "Предыдущее подключение ещё завершается"), state)
      else
        let state := state.disown
        let (result, coordinator) := state.coordinator.startOrResume options nowUnix
        let state := { state with coordinator := coordinator }
        match result with
        | .error error => (.error (busy error), state)
        | .ok (.connected _) =>
          (.error (.new "connection_busy" "Не удалось начать новое подключение"), state)
        | .ok (.recovering generation _) =>
          (.ok (.inr (.run generation)),
            { state.initializeEpisode options generation nowUnix with
              initialPreflight := initialPreflight })
  | .ok (.recovering generation _) =>
    let action := recoveringAction previousGeneration generation state.nextRetryAtUnix
    if action = .run generation then
      (.ok (.inr action),
        { state.initializeEpisode options generation nowUnix with
          initialPreflight := initialPreflight })
    else (.ok (.inr action), state)

def cancelSection : Bool × RuntimeState :=
  let (cancelled, coordinator) := state.coordinator.cancelIntent state.coordinator.generation
  if cancelled then
    (true,
      { state with
        coordinator := coordinator, options := none, policy := .fresh, nextRetryAtUnix := none
        retryNotBeforeUnix := none, reconcileBeforeAttempt := false, repairBeforeAttempt := false
        refreshCapabilityBeforeAttempt := false, armed := false, diagnosticsEpisode := .fresh
        attemptKind := .start, retryCount := 0, ownedLeaseId := none, initialPreflight := none })
  else (false, { state with coordinator := coordinator })

def wakeSection : Bool × RuntimeState :=
  let (woke, coordinator) := state.coordinator.wakeForNetworkChange
  (woke, { state with coordinator := coordinator })

/-- The first critical section of `handle_stall`: an early answer, or the options
and generation it goes on with. -/
def stallObserveSection (leaseId : String) :
    Except Bool (ConnectOptions × IntentGeneration) :=
  match state.options with
  | none => .error false
  | some options =>
    if canBeginStallRecovery state.coordinator.status state.armed = false then .error true
    else if state.ownedLeaseId ≠ some leaseId then .error false
    else .ok (options, state.coordinator.generation)

def stallSection (trigger : StallTrigger)
    (plan : StallRecoveryPlan) (nowUnix : Int) : Option IntentGeneration × RuntimeState :=
  match state.coordinator.handleStall generation trigger with
  | (.error _, coordinator) => (none, { state with coordinator := coordinator })
  | (.ok _, coordinator) =>
    (some coordinator.generation,
      { state with
        attemptKind := attemptKindForStallPlan plan, refreshCapabilityBeforeAttempt := true
        nextRetryAtUnix := none, retryNotBeforeUnix := none
        coordinator := consumeImmediateRetrySlot coordinator coordinator.generation nowUnix })

/-- The first critical section of `scheduler_loop`: how long to sleep. It reads the
clock for a wake-up and again for the remaining time. -/
def schedulerSleepSection (wakeUnix nowUnix : Int) :
    Option Nat × RuntimeState :=
  let (woken, coordinator) := state.coordinator.takeNetworkWakeup
  let state := { state with coordinator := coordinator }
  let state :=
    if woken then
      { state with nextRetryAtUnix := some (retryAtAfterWakeup state.retryNotBeforeUnix wakeUnix) }
    else state
  match state.coordinator.status, state.nextRetryAtUnix with
  | .recovering, some next => (some (max (saturatingAdd next (-nowUnix)) 0).toNat, state)
  | _, _ => (none, state)

/-- The second critical section of `scheduler_loop`: the generation that is due. -/
def schedulerDueSection (nowUnix : Int) : Option IntentGeneration :=
  if state.coordinator.status = .recovering ∧ (state.nextRetryAtUnix.any fun next => next ≤ nowUnix)
  then some state.coordinator.generation
  else none

structure AttemptPlan where
  options : ConnectOptions
  reconcileBeforeAttempt : Bool
  repairBeforeAttempt : Bool
  attemptKind : AttemptKind
  refreshCapabilityBeforeAttempt : Bool
  initialPreflight : Option InitialDesktopPreflight

/-- The first critical section of `run_attempt`: an early answer, or the plan of
an attempt that took the slot. -/
def beginSection : Except (Except CommandError StartCommandResponse) AttemptPlan × RuntimeState :=
  match state.options with
  | none =>
    if state.coordinator.generation ≠ generation ∨ state.coordinator.status = .none then
      (.error (.error .cancelled), state)
    else
      (.error (.error
        (.new "connection_intent_unavailable" "Параметры восстановления недоступны")), state)
  | some options =>
    let (begun, coordinator) := state.coordinator.beginAttempt generation
    if begun = false then
      (.error (.ok (.recovering state.nextRetryAtUnix)), { state with coordinator := coordinator })
    else
      (.ok ⟨options, state.reconcileBeforeAttempt, state.repairBeforeAttempt, state.attemptKind,
          state.refreshCapabilityBeforeAttempt, state.initialPreflight⟩,
        { state with
          coordinator := coordinator, nextRetryAtUnix := none, retryNotBeforeUnix := none
          reconcileBeforeAttempt := false, repairBeforeAttempt := false })

/-- Whether the attempt is still current; a stale one gives its slot back. -/
def attemptIsCurrentAfterAsyncBoundary (coordinator : ConnectionIntentCoordinator)
    (generation : IntentGeneration) : Bool × ConnectionIntentCoordinator :=
  if coordinator.generation = generation ∧ coordinator.status ≠ .none then (true, coordinator)
  else (false, (coordinator.completeCompensation generation).2)

def currentSection
    (next : RuntimeState → Bool × RuntimeState) : Bool × RuntimeState :=
  match attemptIsCurrentAfterAsyncBoundary state.coordinator generation with
  | (true, coordinator) => next { state with coordinator := coordinator }
  | (false, coordinator) => (false, { state with coordinator := coordinator })

def confirmed : Bool × RuntimeState := (true, state)

def preflightDone : Bool × RuntimeState := (true, { state with initialPreflight := none })

def refreshDone : Bool × RuntimeState :=
  (true, { state with refreshCapabilityBeforeAttempt := false })

def resolveSection (resolvedOptions : Option ConnectOptions)
    (state : RuntimeState) : Bool × RuntimeState :=
  match resolvedOptions with
  | none => (true, state)
  | some options =>
    let (replaced, coordinator) := state.coordinator.replaceActiveOptions generation options
    if replaced then (true, { state with coordinator := coordinator, options := some options })
    else (false, { state with coordinator := coordinator })

def abandonSection : Bool × RuntimeState :=
  let (cancelled, coordinator) := state.coordinator.cancelIntent generation
  if cancelled = false then (false, { state with coordinator := coordinator })
  else
    (true,
      { state with
        coordinator := (coordinator.completeCompensation generation).2, options := none
        policy := .fresh, nextRetryAtUnix := none, retryNotBeforeUnix := none
        reconcileBeforeAttempt := false, repairBeforeAttempt := false
        refreshCapabilityBeforeAttempt := false, initialPreflight := none
        diagnosticsEpisode := .fresh, attemptKind := .start, retryCount := 0
        ownedLeaseId := none })

def successSection
    (connection : Connection) : (RecoveryDecision × Bool) × RuntimeState :=
  let recovered := attemptReportsRecovery state.attemptKind state.retryCount
  let (decision, coordinator) := state.coordinator.markConnected generation connection
  let state := { state with coordinator := coordinator }
  if decision = .accept then
    ((decision, recovered),
      { state with
        nextRetryAtUnix := none, retryNotBeforeUnix := none, policy := .fresh
        refreshCapabilityBeforeAttempt := false, armed := true, diagnosticsEpisode := .fresh
        attemptKind := .start, retryCount := 0, ownedLeaseId := some connection.leaseId
        initialPreflight := none })
  else ((decision, recovered), state)

def compensatedSection : RuntimeState :=
  { state with coordinator := (state.coordinator.completeCompensation generation).2 }

def deferredSection (nowUnix : Int) :
    Option Int × RuntimeState :=
  let (decision, coordinator) := state.coordinator.acceptResult generation
  if decision ≠ .accept then
    (none, { state with coordinator := (coordinator.completeCompensation generation).2 })
  else
    let next := saturatingAdd nowUnix 1
    (some next, { state with coordinator := coordinator, nextRetryAtUnix := some next })

inductive ErrorOutcome where
  | cancelled
  | terminal (actions : DiagnosticActions)
  | retry (nextRetryAtUnix : Option Int) (actions : DiagnosticActions)

def retrySection (code : String)
    (decision : RecoveryDecision) (nowUnix : Int) : ErrorOutcome × RuntimeState :=
  let (accepted, coordinator) := state.coordinator.acceptResult generation
  if accepted = .discardAndCompensate then
    (.cancelled, { state with coordinator := (coordinator.completeCompensation generation).2 })
  else
    let (next, coordinator) :=
      match decision with
      | .retryAfter delay => (some (saturatingAdd nowUnix (secondsToI64 delay)), coordinator)
      | _ => coordinator.scheduleRetry generation nowUnix
    let delaySeconds := (next.map fun next => (max (saturatingAdd next (-nowUnix)) 0).toNat).getD 0
    let (actions, episode) := state.diagnosticsEpisode.observeRetry delaySeconds
    (.retry next actions,
      { state with
        coordinator := coordinator, policy := updatePolicyContext state.policy code decision
        reconcileBeforeAttempt := nextReconcileRequirement state.reconcileBeforeAttempt decision
        repairBeforeAttempt := decision = .retryOnce || decision = .restartLocalTunnel
        nextRetryAtUnix := next, retryNotBeforeUnix := match decision with
          | .retryAfter _ => next
          | _ => none
        retryCount := min 4294967295 (state.retryCount + 1), diagnosticsEpisode := episode })

/-- The classification at the head of `complete_error`, made before the attempt is
known to be current. -/
def noteError (error : ApplicationError) :
    RecoveryDecision × RuntimeState :=
  let policy := { state.policy with retryAfterSeconds := errorRetryAfterSeconds error }
  let decision := classifyRecovery (stableErrorCode error) policy
  (decision,
    { state with
      policy := policy
      refreshCapabilityBeforeAttempt :=
        nextCapabilityRefreshRequirement state.refreshCapabilityBeforeAttempt decision })

def errorSection
    (error : ApplicationError) (nowUnix : Int) : ErrorOutcome × RuntimeState :=
  let (decision, state) := state.noteError error
  if decision = .terminal then
    let (recorded, coordinator) := state.coordinator.markTerminal generation state.armed
    if recorded = false then
      (.cancelled, { state with coordinator := (coordinator.completeCompensation generation).2 })
    else
      let (actions, episode) := state.diagnosticsEpisode.observeTerminal
      (.terminal actions,
        { state with
          coordinator := coordinator, nextRetryAtUnix := none, retryNotBeforeUnix := none
          options := if state.armed then state.options else none
          initialPreflight := if state.armed then state.initialPreflight else none
          diagnosticsEpisode := episode })
  else state.retrySection generation (stableErrorCode error) decision nowUnix

end RuntimeState

end NelomaiClient.DesktopRuntime
