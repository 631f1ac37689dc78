import NelomaiClient.DesktopRuntime
import NelomaiClient.AwaitRely

/-!
# The desktop intent driver as a system of tasks

The async functions of `DesktopConnectionIntent` as programs over the critical
sections of the runtime state. Every lock of the state, every call into the
application and every timer is an await point. What the application, the clock
and the power monitor answer is input. The world also records which attempts
took the slot and have not returned yet.
-/

namespace NelomaiClient.DesktopIntent

open ConnectionContract RecoveryPolicy IntentCoordinator CoreContract DesktopRuntime
open AwaitProgram AwaitPool

inductive Platform where
  | windows
  | macos
  | linux
  deriving DecidableEq

structure BootstrapAnswer where
  deviceId : String
  canConnect : Bool
  bindingEgressMode : Option EgressMode
  defaultLayer : Layer
  defaultTicConnectionMode : TicConnectionMode
  defaultRouteMode : RouteMode
  /-- Egress family the user prefers for a dynamic Tic peer. -/
  dynamicTicEgressMode : EgressMode
  /-- `allows_new_connection_intent_operation` of the answered capability. -/
  recoveryAllowed : Bool

inductive UnitCall where
  | bindPeer (request : BindPeerRequest)
  | prepareTunnel
  | ensureDefenderReady
  | refreshInstalledApplications (layer : Layer) (routeMode : RouteMode)
  | reconcilePendingOperationForRetry
  | compensateStaleConnectionIntentResult
  deriving DecidableEq

inductive ConnectionCall where
  | start (options : ConnectOptions) (nowUnix : Int)
  | startWithoutProbeRefresh (options : ConnectOptions) (nowUnix : Int)
  | connectionIntentAttemptGuarded (options : ConnectOptions) (nowUnix : Int)
  | replaceStalledConnectionGuarded (options : ConnectOptions) (nowUnix : Int)
  deriving DecidableEq

inductive FlagCall where
  | powerDeferred
  | rebindUdpRebound (leaseId : String)
  | restartLocalTunnelReconnected (leaseId : String)
  | freshProbeAnswers
  | recoveryTransportIsAmneziaWg3 (leaseId : String)
  | reportQueued
  deriving DecidableEq

/-- Atomic commands of the driver: its critical sections and its questions. -/
inductive Cmd where
  | observeCompleted
  | startSection (observed : Option (IntentGeneration × Connection)) (core : CoreState)
      (options : ConnectOptions) (nowUnix : Int) (preflight : Option InitialDesktopPreflight)
  | cancelSection
  | wakeSection
  | stallObserve (leaseId : String)
  | stallSection (generation : IntentGeneration) (trigger : StallTrigger) (plan : StallRecoveryPlan)
  | localRecovery (core : CoreState) (generation : IntentGeneration) (leaseId : String)
  | schedulerSleep
  | schedulerDue
  | beginSection (generation : IntentGeneration)
  | attemptReturned (generation : IntentGeneration)
  | checkCurrent (generation : IntentGeneration)
  | resolve (generation : IntentGeneration) (options : Option ConnectOptions)
  | finishPreflight (generation : IntentGeneration)
  | finishRefresh (generation : IntentGeneration)
  | requireReconcile
  | startNextAttempt
  | abandon (generation : IntentGeneration)
  | success (generation : IntentGeneration) (connection : Connection)
  | compensated (generation : IntentGeneration)
  | deferred (generation : IntentGeneration)
  | failed (generation : IntentGeneration) (error : ApplicationError)
  | reportQueueFailed
  | notifyOne
  | notified
  | sleepOrNotified
  | coreState
  | bootstrap
  | clock
  | unit (call : UnitCall)
  | connection (call : ConnectionCall)
  | flag (call : FlagCall)
  deriving DecidableEq

@[reducible]
def Cmd.Resp : Cmd → Type
  | observeCompleted => Option (IntentGeneration × Connection)
  | startSection _ _ _ _ _ => Except CommandError (Connection ⊕ StartRuntimeAction)
  | stallObserve _ => Except Bool (ConnectOptions × IntentGeneration)
  | stallSection _ _ _ => Option IntentGeneration
  | localRecovery _ _ _ => Option Connection
  | schedulerSleep => Option Nat
  | schedulerDue => Option IntentGeneration
  | beginSection _ => Except (Except CommandError StartCommandResponse) RuntimeState.AttemptPlan
  | success _ _ => RecoveryDecision × Bool
  | deferred _ => Option Int
  | failed _ _ => RuntimeState.ErrorOutcome
  | coreState => CoreState
  | bootstrap => Except ApplicationError BootstrapAnswer
  | clock => Int
  | unit _ => Except ApplicationError Unit
  | connection _ => Except ApplicationError Connection
  | attemptReturned _ | requireReconcile | startNextAttempt | compensated _ | reportQueueFailed
  | notifyOne | notified => Unit
  | cancelSection | wakeSection | checkCurrent _ | resolve _ _ | finishPreflight _
  | finishRefresh _ | abandon _ | sleepOrNotified | flag _ => Bool

inductive Input where
  | go
  | time (nowUnix : Int)
  | times (wakeUnix nowUnix : Int)
  | flag (value : Bool)
  | core (state : CoreState)
  | unit (result : Except ApplicationError Unit)
  | connection (result : Except ApplicationError Connection)
  | bootstrap (result : Except ApplicationError BootstrapAnswer)

/-- The shared state, with the attempts that took the slot and have not returned. -/
structure DesktopWorld where
  runtime : RuntimeState
  /-- A stored permit of the scheduler's wake-up. -/
  wakePermit : Bool
  /-- Threads inside `run_attempt`, with the generation they took the slot for. -/
  inFlight : List (ℕ × IntentGeneration)

def DesktopWorld.initial : DesktopWorld := ⟨.initial, false, []⟩

def DesktopWorld.locked {α : Type} (w : DesktopWorld) (f : RuntimeState → α × RuntimeState) :
    Option (α × DesktopWorld) :=
  let (a, runtime) := f w.runtime
  some (a, { w with runtime := runtime })

def DesktopWorld.begin (w : DesktopWorld) (t : ℕ) (generation : IntentGeneration) :
    Except (Except CommandError StartCommandResponse) RuntimeState.AttemptPlan × DesktopWorld :=
  match w.runtime.beginSection generation with
  | (.ok plan, runtime) =>
    (.ok plan, { w with runtime := runtime, inFlight := (t, generation) :: w.inFlight })
  | (.error answer, runtime) => (.error answer, { w with runtime := runtime })

namespace Input

def time? : Input → Option Int
  | time nowUnix => some nowUnix
  | _ => none

def times? : Input → Option (Int × Int)
  | times wakeUnix nowUnix => some (wakeUnix, nowUnix)
  | _ => none

def flag? : Input → Option Bool
  | flag value => some value
  | _ => none

def core? : Input → Option CoreState
  | core state => some state
  | _ => none

def unit? : Input → Option (Except ApplicationError Unit)
  | unit result => some result
  | _ => none

def connection? : Input → Option (Except ApplicationError Connection)
  | connection result => some result
  | _ => none

def bootstrap? : Input → Option (Except ApplicationError BootstrapAnswer)
  | bootstrap result => some result
  | _ => none

end Input
variable (platform : Platform) (generation : IntentGeneration) (c : Cmd)

def sem (t : ℕ) (i : Input) (w : DesktopWorld) : Option (c.Resp × DesktopWorld) :=
  match c with
  | .observeCompleted =>
    some (w.runtime.coordinator.completedConnection.map
      fun connection => (w.runtime.coordinator.generation, connection), w)
  | .startSection observed core options nowUnix preflight =>
    i.flag?.bind fun cleanupPending => w.locked fun state =>
      state.startSection observed core cleanupPending options nowUnix preflight
  | .cancelSection => w.locked RuntimeState.cancelSection
  | .wakeSection => w.locked RuntimeState.wakeSection
  | .stallObserve leaseId => some (w.runtime.stallObserveSection leaseId, w)
  | .stallSection generation trigger plan =>
    i.time?.bind fun nowUnix => w.locked fun state =>
      state.stallSection generation trigger plan nowUnix
  | .localRecovery core generation leaseId =>
    some (localRecoveryConnection core generation w.runtime leaseId, w)
  | .schedulerSleep =>
    i.times?.bind fun (wakeUnix, nowUnix) => w.locked fun state =>
      state.schedulerSleepSection wakeUnix nowUnix
  | .schedulerDue => i.time?.map fun nowUnix => (w.runtime.schedulerDueSection nowUnix, w)
  | .beginSection generation => some (w.begin t generation)
  | .attemptReturned generation =>
    some ((), { w with inFlight := w.inFlight.filter fun attempt => attempt ≠ (t, generation) })
  | .checkCurrent generation =>
    w.locked fun state => state.currentSection generation RuntimeState.confirmed
  | .resolve generation options =>
    w.locked fun state =>
      state.currentSection generation (RuntimeState.resolveSection generation options)
  | .finishPreflight generation =>
    w.locked fun state => state.currentSection generation RuntimeState.preflightDone
  | .finishRefresh generation =>
    w.locked fun state => state.currentSection generation RuntimeState.refreshDone
  | .requireReconcile => w.locked fun state => ((), { state with reconcileBeforeAttempt := true })
  | .startNextAttempt => w.locked fun state => ((), { state with attemptKind := .start })
  | .abandon generation => w.locked fun state => state.abandonSection generation
  | .success generation connection =>
    w.locked fun state => state.successSection generation connection
  | .compensated generation => w.locked fun state => ((), state.compensatedSection generation)
  | .deferred generation =>
    i.time?.bind fun nowUnix => w.locked fun state => state.deferredSection generation nowUnix
  | .failed generation error =>
    i.time?.bind fun nowUnix => w.locked fun state => state.errorSection generation error nowUnix
  | .reportQueueFailed =>
    w.locked fun state =>
      ((), { state with diagnosticsEpisode := state.diagnosticsEpisode.reportQueueFailed })
  | .notifyOne => some ((), { w with wakePermit := true })
  | .notified => if w.wakePermit then some ((), { w with wakePermit := false }) else none
  | .sleepOrNotified =>
    i.flag?.bind fun elapsed =>
      if elapsed then some (true, w)
      else if w.wakePermit then some (false, { w with wakePermit := false })
      else none
  | .coreState => i.core?.map fun state => (state, w)
  | .bootstrap => i.bootstrap?.map fun result => (result, w)
  | .clock => i.time?.map fun nowUnix => (nowUnix, w)
  | .unit _ => i.unit?.map fun result => (result, w)
  | .connection _ => i.connection?.map fun result => (result, w)
  | .flag _ => i.flag?.map fun value => (value, w)

abbrev desktop : Machine := ⟨DesktopWorld, Cmd, Cmd.Resp, Input, sem⟩

abbrev Driver (α : Type) : Type 1 := Prog desktop α

/-- An await point followed by a command: a lock of the state, or an answer. -/
def await : Driver c.Resp := Prog.ask (M := desktop) c

def now : Driver c.Resp := Prog.call (M := desktop) c

def connectionEgressMode (layer : Layer) (routeMode : RouteMode)
    (connectionMode : TicConnectionMode) (dynamicTicEgressMode : EgressMode)
    (confirmedPersonalEgressMode : EgressMode) : EgressMode :=
  if layer ≠ .tic ∨ routeMode ≠ .viaTak then .ipv4
  else
    match connectionMode with
    | .personal => confirmedPersonalEgressMode
    | .dynamic => dynamicTicEgressMode

def rejected (code message : String) : ApplicationError :=
  .core (.api (.rejected code message none))

def resolveBootstrap (preflight : InitialDesktopPreflight) (bootstrap : BootstrapAnswer) :
    Except ApplicationError (InitialDesktopStartMode × Option ConnectOptions) :=
  if preflight.expectedDeviceId.any fun expected => bootstrap.deviceId ≠ expected then
    .error (rejected "device_mismatch" "Подключение запрошено для другого устройства")
  else
    let mode := if bootstrap.recoveryAllowed then .recovery else .legacy
    if preflight.quickToggleSkipProbeRefresh.isSome then
      if bootstrap.canConnect = false then .error (.core .accessExpired)
      else
        match bootstrap.bindingEgressMode with
        | none => .error (rejected "peer_binding_required" "Сначала выберите пир в приложении")
        | some bindingEgressMode =>
          .ok (mode, some
            ⟨bootstrap.defaultLayer, bootstrap.defaultTicConnectionMode, bootstrap.defaultRouteMode,
              connectionEgressMode bootstrap.defaultLayer bootstrap.defaultRouteMode
                bootstrap.defaultTicConnectionMode bootstrap.dynamicTicEgressMode
                bindingEgressMode, [], true⟩)
    else .ok (mode, none)

def resolveInitialDesktopStart (preflight : InitialDesktopPreflight) :
    Driver (Except ApplicationError (InitialDesktopStartMode × Option ConnectOptions)) := do
  let answer : Except ApplicationError BootstrapAnswer ← await .bootstrap
  return answer.bind (resolveBootstrap preflight)

def refreshRecoveryCapability : Driver (Except ApplicationError Unit) := do
  let answer : Except ApplicationError BootstrapAnswer ← await .bootstrap
  return answer.bind fun bootstrap =>
    if bootstrap.recoveryAllowed then .ok ()
    else .error (rejected "recovery_contract_unavailable"
      "Автоматическое восстановление временно недоступно")

def bindPeerFirst : Option BindPeerRequest → Driver (Except ApplicationError Unit)
  | some request => await (.unit (.bindPeer request))
  | none => return .ok ()

def runInitialDesktopPreflight (options : ConnectOptions)
    (preflight : InitialDesktopPreflight) : Driver (Except ApplicationError Unit) := do
  let bound ← bindPeerFirst preflight.bindingRequest
  match bound with
  | .error error => return .error error
  | .ok () =>
    let prepared : Except ApplicationError Unit ← await (.unit .prepareTunnel)
    match prepared with
    | .error error => return .error error
    | .ok () =>
      let defended : Except ApplicationError Unit ←
        Prog.guarded (platform = .windows && options.layer = .stray)
          (await (.unit .ensureDefenderReady)) (.ok ())
      match defended with
      | .error error => return .error error
      | .ok () => await (.unit (.refreshInstalledApplications options.layer options.routeMode))

def queueConnectionIntentReport (actions : DiagnosticActions) : Driver Unit := do
  if actions.queueReport then
    Prog.pause
    let queued : Bool ← await (.flag .reportQueued)
    if queued then return ()
    else await .reportQueueFailed
  else return ()

def completeError (error : ApplicationError) :
    Driver (Except CommandError StartCommandResponse) := do
  if error = .recoveryDeferred then
    let next : Option Int ← await (.deferred generation)
    match next with
    | none => return .error .cancelled
    | some next =>
      now .notifyOne
      return .ok (.recovering (some next))
  else
    let outcome : RuntimeState.ErrorOutcome ← await (.failed generation error)
    match outcome with
    | .cancelled => return .error .cancelled
    | .terminal actions =>
      queueConnectionIntentReport actions
      return .error (.ofApplication error)
    | .retry next actions =>
      queueConnectionIntentReport actions
      now .notifyOne
      return .ok (.recovering next)

def compensateStaleSuccess : Driver Unit :=
  Prog.loop (fun retry : Nat => do
    let result : Except ApplicationError Unit ← await (.unit .compensateStaleConnectionIntentResult)
    match result with
    | .ok () =>
      await (.compensated generation)
      return .inr ()
    | .error _ =>
      let retry := min u64Max (retry + 1)
      Prog.guarded (([0, 2, 5, 15, 30, 60, 300] : List Nat).getD (min retry 6) 300 > 0)
        Prog.pause ()
      return .inl retry) 0

def completeSuccess (connection : Connection) :
    Driver (Except CommandError StartCommandResponse) := do
  let outcome : RecoveryDecision × Bool ← await (.success generation connection)
  if outcome.1 = .accept then return .ok (.connected connection)
  else
    compensateStaleSuccess generation
    return .error .cancelled

variable (automatic : Bool) (leaseId : String) (plan : RuntimeState.AttemptPlan)

/-- `wait_for_recovery_power`; only macOS defers, and only automatic attempts. -/
def waitForRecoveryPower : Driver (Except CommandError Unit) := do
  let stillCurrent : Bool ← Prog.loop (fun _ : Unit => do
    let deferred : Bool ←
      Prog.guarded (platform = .macos && automatic) (now (.flag .powerDeferred)) false
    if deferred then
      let current : Bool ← await (.checkCurrent generation)
      if current then
        Prog.pause
        return .inl ()
      else return .inr false
    else return .inr true) ()
  if stillCurrent then
    let current : Bool ← await (.checkCurrent generation)
    return if current then .ok () else .error .cancelled
  else return .error .cancelled

def dial (kind : AttemptKind) (options : ConnectOptions) (nowUnix : Int) :
    Driver (Except ApplicationError Connection) :=
  match kind with
  | .start => await (.connection (.connectionIntentAttemptGuarded options nowUnix))
  | .stallReplacement => await (.connection (.replaceStalledConnectionGuarded options nowUnix))

/-- After a failed replacement whose old lease is gone, the next attempt is a start. -/
def noteFailedReplacement (kind : AttemptKind) : Driver Unit :=
  Prog.guarded (kind = .stallReplacement)
    (do
      let core : CoreState ← await .coreState
      Prog.guarded (core.connection.any fun connection =>
        connection.status = .released || connection.status = .failed) (await .startNextAttempt) ())
    ()

def dialAttempt (kind : AttemptKind) (options : ConnectOptions) :
    Driver (Except CommandError StartCommandResponse) := do
  let allowed : Except CommandError Unit ← waitForRecoveryPower platform generation automatic
  match allowed with
  | .error error => return .error error
  | .ok () =>
    let nowUnix : Int ← now .clock
    let result ← dial kind options nowUnix
    match result with
    | .ok connection => completeSuccess generation connection
    | .error error =>
      noteFailedReplacement kind
      completeError generation error

def repairAttempt (options : ConnectOptions) :
    Driver (Except CommandError StartCommandResponse) := do
  if plan.repairBeforeAttempt then
    let allowed : Except CommandError Unit ← waitForRecoveryPower platform generation automatic
    match allowed with
    | .error error => return .error error
    | .ok () =>
      let _prepared : Except ApplicationError Unit ← await (.unit .prepareTunnel)
      dialAttempt platform generation automatic plan.attemptKind options
  else dialAttempt platform generation automatic plan.attemptKind options

def reconcileAttempt (options : ConnectOptions) :
    Driver (Except CommandError StartCommandResponse) := do
  if plan.reconcileBeforeAttempt then
    let result : Except ApplicationError Unit ← await (.unit .reconcilePendingOperationForRetry)
    match result with
    | .error error =>
      await .requireReconcile
      completeError generation error
    | .ok () =>
      let current : Bool ← await (.checkCurrent generation)
      if current then repairAttempt platform generation automatic plan options
      else return .error .cancelled
  else repairAttempt platform generation automatic plan options

def refreshAttempt (options : ConnectOptions) :
    Driver (Except CommandError StartCommandResponse) := do
  if plan.refreshCapabilityBeforeAttempt then
    let result : Except ApplicationError Unit ← refreshRecoveryCapability
    match result with
    | .error error => completeError generation error
    | .ok () =>
      let current : Bool ← await (.finishRefresh generation)
      if current then reconcileAttempt platform generation automatic plan options
      else return .error .cancelled
  else reconcileAttempt platform generation automatic plan options

def dialLegacy (skipProbeRefresh : Bool) (options : ConnectOptions) (nowUnix : Int) :
    Driver (Except ApplicationError Connection) :=
  if skipProbeRefresh then await (.connection (.startWithoutProbeRefresh options nowUnix))
  else await (.connection (.start options nowUnix))

def legacyAttempt (preflight : InitialDesktopPreflight) (options : ConnectOptions) :
    Driver (Except CommandError StartCommandResponse) := do
  let allowed : Except CommandError Unit ← waitForRecoveryPower platform generation automatic
  match allowed with
  | .error error => return .error error
  | .ok () =>
    let abandoned : Bool ← await (.abandon generation)
    if abandoned then
      let nowUnix : Int ← now .clock
      let result ← dialLegacy (preflight.quickToggleSkipProbeRefresh.getD false) options nowUnix
      match result with
      | .ok connection => return .ok (.connected connection)
      | .error error => return .error (.ofApplication error)
    else return .error .cancelled

def preflightAttempt (preflight : InitialDesktopPreflight) :
    Driver (Except CommandError StartCommandResponse) := do
  let resolved : Except ApplicationError (InitialDesktopStartMode × Option ConnectOptions) ←
    resolveInitialDesktopStart preflight
  match resolved with
  | .error error => completeError generation error
  | .ok (startMode, resolvedOptions) =>
    let current : Bool ← await (.resolve generation resolvedOptions)
    if current then
      let options := resolvedOptions.getD plan.options
      let checked : Except ApplicationError Unit ←
        runInitialDesktopPreflight platform options preflight
      match startMode, checked with
      | _, .error error => completeError generation error
      | .recovery, .ok () =>
        let current : Bool ← await (.finishPreflight generation)
        if current then refreshAttempt platform generation automatic plan options
        else return .error .cancelled
      | .legacy, .ok () => legacyAttempt platform generation automatic preflight options
    else return .error .cancelled

def plannedAttempt : Driver (Except CommandError StartCommandResponse) :=
  match plan.initialPreflight with
  | some preflight => preflightAttempt platform generation automatic plan preflight
  | none => refreshAttempt platform generation automatic plan plan.options

/-- `run_attempt`. An attempt that took the slot is marked when it returns. -/
def runAttempt :
    Driver (Except CommandError StartCommandResponse) := do
  let begun : Except (Except CommandError StartCommandResponse) RuntimeState.AttemptPlan ←
    await (.beginSection generation)
  match begun with
  | .error answer => return answer
  | .ok plan =>
    let answer ← plannedAttempt platform generation automatic plan
    now (.attemptReturned generation)
    return answer

def startOrResumeInternal (options : ConnectOptions) (nowUnix : Int)
    (initialPreflight : Option InitialDesktopPreflight) :
    Driver (Except CommandError StartCommandResponse) := do
  let observed : Option (IntentGeneration × Connection) ← await .observeCompleted
  let core : CoreState ← await .coreState
  let action : Except CommandError (Connection ⊕ StartRuntimeAction) ←
    await (.startSection observed core options nowUnix initialPreflight)
  match action with
  | .error error => return .error error
  | .ok (.inl connection) => return .ok (.connected connection)
  | .ok (.inr (.wait nextRetryAtUnix)) => return .ok (.recovering nextRetryAtUnix)
  | .ok (.inr (.run generation)) => runAttempt platform generation false

def cancel : Driver Bool := do
  let cancelled : Bool ← await .cancelSection
  Prog.guarded cancelled (now .notifyOne) ()
  return cancelled

def wakeForNetworkChange : Driver Bool := do
  let woke : Bool ← await .wakeSection
  Prog.guarded woke (now .notifyOne) ()
  return woke

def acceptLocalRecovery :
    Driver (Option Connection) := do
  let core : CoreState ← await .coreState
  await (.localRecovery core generation leaseId)

/-- `recover_current_connection_locally`: rebind the socket, then restart the tunnel. -/
def recoverCurrentConnectionLocally :
    Driver (Option Connection) := do
  let deferred : Bool ← now (.flag .powerDeferred)
  if deferred then return none
  else
    let rebound : Bool ← await (.flag (.rebindUdpRebound leaseId))
    let answers : Bool ←
      Prog.guarded rebound (Prog.pause >>= fun _ => await (.flag .freshProbeAnswers)) false
    if answers then acceptLocalRecovery generation leaseId
    else
      let deferred : Bool ← now (.flag .powerDeferred)
      if deferred then return none
      else
        let reconnected : Bool ← await (.flag (.restartLocalTunnelReconnected leaseId))
        let answers : Bool ← Prog.guarded reconnected (await (.flag .freshProbeAnswers)) false
        if answers then acceptLocalRecovery generation leaseId else return none

def handleStall : Driver Bool := do
  let observed : Except Bool (ConnectOptions × IntentGeneration) ← await (.stallObserve leaseId)
  match observed with
  | .error answer => return answer
  | .ok (options, generation) =>
    let core : CoreState ← await .coreState
    match core.connection.filter fun connection => connection.leaseId = leaseId with
    | none => return false
    | some current =>
      let amneziaWg3 : Bool ← now (.flag (.recoveryTransportIsAmneziaWg3 leaseId))
      let transport : RecoveryTransport := if amneziaWg3 then .amneziaWg3 else .other
      let plan := stallRecoveryPlan options current.pinned transport
      let recovered ← recoverCurrentConnectionLocally generation leaseId
      if recovered.isSome then return true
      else
        let deferred : Bool ← now (.flag .powerDeferred)
        if deferred then return true
        else
          let stalled : Option IntentGeneration ←
            await (.stallSection generation ⟨options, current.pinned, transport⟩ plan)
          match stalled with
          | none => return true
          | some generation =>
            let _answer ← runAttempt platform generation true
            return true

def schedulerRound : Driver Unit := do
  let sleepSeconds : Option Nat ← await .schedulerSleep
  match sleepSeconds with
  | none => await .notified
  | some sleepSeconds =>
    let elapsed : Bool ← Prog.guarded (sleepSeconds > 0) (await .sleepOrNotified) true
    if elapsed then
      let due : Option IntentGeneration ← await .schedulerDue
      match due with
      | none => return ()
      | some generation =>
        let deferred : Bool ← Prog.guarded (platform = .macos) (now (.flag .powerDeferred)) false
        if deferred then
          let _elapsed : Bool ← await .sleepOrNotified
          return ()
        else
          let _answer ← runAttempt platform generation true
          return ()
    else return ()

def schedulerLoop : Driver Unit :=
  Prog.loop (fun _ : Unit => do
    schedulerRound platform
    return (.inl () : Unit ⊕ Unit)) ()

inductive Op where
  | startOrResume (options : ConnectOptions) (nowUnix : Int)
      (initialPreflight : Option InitialDesktopPreflight)
  | cancel
  | wakeForNetworkChange
  | handleStall (leaseId : String)
  | schedulerLoop

def Op.program : Op → Driver Unit
  | startOrResume options nowUnix preflight => do
    let _answer ← startOrResumeInternal platform options nowUnix preflight
    return ()
  | cancel => do
    let _cancelled ← DesktopIntent.cancel
    return ()
  | wakeForNetworkChange => do
    let _woke ← DesktopIntent.wakeForNetworkChange
    return ()
  | handleStall leaseId =>
    if platform = .macos then do
      let _answer ← DesktopIntent.handleStall platform leaseId
      return ()
    else return ()
  | schedulerLoop => DesktopIntent.schedulerLoop platform

abbrev desktopSystem : System := ⟨desktop, Op, Op.program platform, fun _ => DesktopWorld.initial⟩

end NelomaiClient.DesktopIntent
