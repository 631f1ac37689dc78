import NelomaiClient.RuntimeJournal
import NelomaiClient.AwaitFallible

/-!
# The machine of the client core

The state that the operations of `ClientCore` share and the commands they issue
between await points: functions of the runtime record, accesses to the
published state under its lock, the writer gates, requests to the panel, and
questions to the login owner and the local tunnel. What the panel was asked and
what it answered is recorded, once for the whole run and once since the stored
start journal was written.
-/

namespace NelomaiClient.CoreMachine

open ConnectionContract CoreContract RuntimeRecord PanelContract CorePolicy RuntimeJournal
open AwaitProgram AwaitFallible

inductive StartOrigin where
  | attempt (options : ConnectOptions)
  | legacyCancel
  | restore

/-- Which function sends a connection operation; a cancelling stop names the start it cancels. -/
inductive OperationOrigin where
  | ordinary
  | cancelStart (operationId : String)

inductive TunnelOrigin where
  | online
  | offline

inductive PanelEvent where
  | startSent (request : ConnectionStartRequest)
  | startAnswered (operationId : String) (connection : Connection)
  | startRejected (operationId code : String) (retryAfterSeconds : Option Nat)
  | operationSent (operation : ConnectionOperation) (request : ConnectionOperationRequest)
  | stopAnswered (request : ConnectionOperationRequest) (connection : Connection)
  | pinAnswered (connection : Connection)
  | sessionStopSent (request : RedundantStopRequest)
  | sessionStopAnswered (request : RedundantStopRequest) (connection : Connection)
  | reconciled (request : OperationReconcileRequest) (response : OperationReconcileResponse)
  | bootstrapped (connection : Option Connection)

inductive Gate where
  | intent
  | split
  | connection
  deriving DecidableEq

structure ActiveRecoveryEpisode where
  sessionId : String
  options : ConnectOptions
  stopOperationId : String

structure CoreWorld where
  record : RuntimeState
  core : CoreState
  epoch : UInt64
  startInProgress : Bool
  pendingStartActive : Bool
  holder : Gate → Option ℕ
  episode : Option ActiveRecoveryEpisode
  quarantine : List String
  /-- Whether an owner stop published its state. -/
  ownerStopped : Bool
  /-- Record that a pin or an unpin has loaded and not saved yet. -/
  strayLoaded : Option (ℕ × RuntimeState)
  /-- Everything that passed between core and panel. -/
  log : List PanelEvent
  /-- What passed since the stored start journal was written. -/
  since : List PanelEvent

def CoreWorld.fresh (record : RuntimeState) : CoreWorld :=
  { record := record, core := .initial, epoch := 0, startInProgress := false,
    pendingStartActive := record.pendingStart.isSome, holder := fun _ => none, episode := none,
    quarantine := [], ownerStopped := false, strayLoaded := none, log := [], since := [] }

variable (w : CoreWorld) (α : Type) (outcomes : List StoreOutcome)

def CoreWorld.restart : CoreWorld :=
  { CoreWorld.fresh w.record with log := w.log, since := w.since }

def CoreWorld.note (event : PanelEvent) : CoreWorld :=
  { w with log := event :: w.log, since := event :: w.since }

inductive MetricsAnswer where
  | timedOut
  | handshake
  | noHandshake
  | unsupported
  | failed (code : String)

inductive Question where
  | access
  | refreshAccess
  | authActive
  | splitPolicy
  | splitOptions
  | tunnelStatus
  | tunnelStop
  | tunnelStopIfUnowned
  | ownsRedundantSession
  | tunnelStart (origin : TunnelOrigin) (leaseId : String)
  | tunnelMetrics
  | rebindUdp
  | handshakeDeadlinePassed
  | sleep (delayMillis : Nat)
  | newOperationId

@[reducible]
def Question.Resp : Question → Type
  | access | refreshAccess | splitOptions => Except CoreError Unit
  | authActive | splitPolicy => Except CoreError Bool
  | tunnelStatus => Except String TunnelStatus
  | tunnelStop | tunnelStopIfUnowned | tunnelStart _ _ => Except String Unit
  | ownsRedundantSession | rebindUdp => Except String Bool
  | tunnelMetrics => MetricsAnswer
  | handshakeDeadlinePassed => Bool
  | sleep _ => Unit
  | newOperationId => String

inductive ClearGround where
  | unsent
  | verdict
  | stoppedLease (leaseId : String)
  | offlineTimeout

inductive CompensationGround where
  | finished
  | connectionUnavailable

inductive SaveOrigin where
  | started
  | stray
  | restore

inductive StoreCall where
  | loadRuntime
  | loadForStray
  | peek
  | saveRuntime (origin : SaveOrigin) (value : RuntimeState)
  | clearPendingStart (ground : ClearGround) (operationId : String)
  | pendingCancelOperationId (expected : StoredPendingStart) (leaseId : Option String)
  | pendingStalledStopIdentity (leaseId fingerprint : String)
  | pendingCompensationStopIdentity (identity : CompensationIdentity)
  | migrateLegacyPendingCompensationStop (pending : StoredPendingCompensationStop)
      (current : Option Connection)
  | clearPendingCompensationStop (ground : CompensationGround) (operationId leaseId : String)
  | clearPendingCompensationStopIfAbsent
  | clearPendingStalledStop (operationId leaseId : String)
  | removeDynamicRecoveryCache (leaseId : String)
  | reconcileHandshakeTimeoutStorage (ground : ClearGround) (operationId : String)
      (connection : Connection)
  | replacePendingStartOperation (previous replacement : String)
  | journalPendingStart (entry : StoredPendingStart)
  | saveBootstrap (response : Bootstrap) (nowUnix : Int)
  | saveUnbound
  | hasPendingStopCleanup

@[reducible]
def StoreCall.Result : StoreCall → Type
  | loadRuntime | loadForStray => RuntimeState
  | peek => Option RuntimeState
  | pendingCancelOperationId _ _ => String × StoredPendingStart
  | pendingStalledStopIdentity _ _ => StoredPendingStalledStop
  | pendingCompensationStopIdentity _ | migrateLegacyPendingCompensationStop _ _ =>
    StoredPendingCompensationStop
  | hasPendingStopCleanup => Bool
  | saveRuntime _ _ | clearPendingStart _ _ | clearPendingCompensationStop _ _ _
  | clearPendingCompensationStopIfAbsent | clearPendingStalledStop _ _
  | removeDynamicRecoveryCache _ | reconcileHandshakeTimeoutStorage _ _ _
  | replacePendingStartOperation _ _ | journalPendingStart _ | saveBootstrap _ _
  | saveUnbound => Unit

def StoreCall.run (fresh : String) (nowUnix : Int) : (f : StoreCall) → Storage f.Result
  | loadRuntime => Storage.loadRuntime
  | loadForStray => Storage.loadRuntime
  | peek => RuntimeJournal.peek
  | saveRuntime _ value => Storage.save value
  | clearPendingStart _ operationId => RuntimeJournal.clearPendingStart operationId
  | pendingCancelOperationId expected leaseId =>
    RuntimeJournal.pendingCancelOperationId expected leaseId fresh
  | pendingStalledStopIdentity leaseId fingerprint =>
    RuntimeJournal.pendingStalledStopIdentity leaseId fingerprint fresh
  | pendingCompensationStopIdentity identity =>
    RuntimeJournal.pendingCompensationStopIdentity identity fresh
  | migrateLegacyPendingCompensationStop pending current =>
    RuntimeJournal.migrateLegacyPendingCompensationStop pending current
  | clearPendingCompensationStop _ operationId leaseId =>
    RuntimeJournal.clearPendingCompensationStop operationId leaseId
  | clearPendingCompensationStopIfAbsent => RuntimeJournal.clearPendingCompensationStopIfAbsent
  | clearPendingStalledStop operationId leaseId =>
    RuntimeJournal.clearPendingStalledStop operationId leaseId
  | removeDynamicRecoveryCache leaseId => RuntimeJournal.removeDynamicRecoveryCache leaseId
  | reconcileHandshakeTimeoutStorage _ operationId connection =>
    RuntimeJournal.reconcileHandshakeTimeoutStorage operationId connection nowUnix
  | replacePendingStartOperation previous replacement =>
    RuntimeJournal.replacePendingStartOperation previous replacement
  | journalPendingStart entry => RuntimeJournal.journalPendingStart entry
  | saveBootstrap response nowUnix =>
    RuntimeJournal.saveBootstrap response.updateRequired response.connection nowUnix
  | saveUnbound => RuntimeJournal.saveUnbound
  | hasPendingStopCleanup => RuntimeJournal.hasPendingStopCleanup

/-- Accesses to the state in memory; those of the published state run under its lock. -/
inductive StateCall where
  | readCore
  | setPhase (phase : Phase)
  | writeCore (state : CoreState)
  | setStartPhase (phase : Phase) (epoch : UInt64)
  | writeCoreIf (epoch : UInt64) (state : CoreState)
  | presentationEpoch (cancelEpoch : UInt64)
  | setCompensationState (state : CoreState) (epoch : Option UInt64)
  | forgetConnection (epoch : UInt64) (leaseId : Option String)
  | applyReconciledStalledStopTerminal (leaseId : String) (status : LeaseStatus)
  | replaceConnection (leaseId : String) (connection : Connection)
  | applyBootstrapError (error : CoreApiError) (preserveLocal : Bool)
  | ensureStartNotCancelled (epoch : UInt64)
  | readEpoch
  | signalStartCancellation
  | beginStartAttempt
  | finishStartAttempt
  | pendingStartActive
  | setPendingStartActive (active : Bool)
  | readEpisode
  | setEpisode (episode : Option ActiveRecoveryEpisode)
  | quarantine (leaseId : String)
  | clearQuarantine (leaseId : String)
  | clearAllQuarantines
  | quarantined (leaseId : String)
  | ownerPublish
  | ownerFinish (stopped : Bool) (successPhase : Phase)

@[reducible]
def StateCall.Resp : StateCall → Type
  | readCore => CoreState
  | setStartPhase _ _ | writeCoreIf _ _ | forgetConnection _ _
  | applyReconciledStalledStopTerminal _ _ | ensureStartNotCancelled _ => Except CoreError Unit
  | presentationEpoch _ => Option UInt64
  | readEpoch | beginStartAttempt => UInt64
  | signalStartCancellation | pendingStartActive | quarantined _ => Bool
  | readEpisode => Option ActiveRecoveryEpisode
  | setPhase _ | writeCore _ | setCompensationState _ _ | replaceConnection _ _
  | applyBootstrapError _ _ | finishStartAttempt | setPendingStartActive _ | setEpisode _
  | quarantine _ | clearQuarantine _ | clearAllQuarantines | ownerPublish | ownerFinish _ _ => Unit

def CoreWorld.fenced (epoch : UInt64) (f : CoreWorld → CoreWorld) :
    Except CoreError Unit × CoreWorld :=
  if w.epoch = epoch then (.ok (), f w) else (.error .startCancelled, w)

def CoreWorld.withPhase (phase : Phase) : CoreWorld :=
  { w with core := { w.core with phase := phase } }

def CoreWorld.withConnection (connection : Option Connection) : CoreWorld :=
  { w with core := { w.core with connection := connection } }

/-- Whether the published connection has this lease; without a lease any will do. -/
def CoreWorld.connectionIs (leaseId : Option String) : Bool :=
  match leaseId with
  | none => true
  | some leaseId => w.core.connection.any (·.leaseId == leaseId)

def StateCall.run : (g : StateCall) → g.Resp × CoreWorld
  | readCore => (w.core, w)
  | setPhase phase => ((), w.withPhase phase)
  | writeCore state => ((), { w with core := state })
  | setStartPhase phase epoch => w.fenced epoch (·.withPhase phase)
  | writeCoreIf epoch state => w.fenced epoch fun w => { w with core := state }
  | presentationEpoch cancelEpoch =>
    (if w.epoch = cancelEpoch ∨ w.core.phase = .connecting then some w.epoch else none, w)
  | setCompensationState state epoch =>
    ((), if epoch = some w.epoch then { w with core := state } else w)
  | forgetConnection epoch leaseId =>
    w.fenced epoch fun w => if w.connectionIs leaseId then w.withConnection none else w
  | applyReconciledStalledStopTerminal leaseId status =>
    match w.core.connection with
    | some connection =>
      if connection.leaseId = leaseId then
        (.ok (), { w with core := ⟨.stopping, some { connection with status := status }⟩ })
      else (.error invalidOperationReconcileResponse, w)
    | none => (.error invalidOperationReconcileResponse, w)
  | replaceConnection leaseId connection =>
    ((), if w.connectionIs (some leaseId) then w.withConnection (some connection) else w)
  | applyBootstrapError error preserveLocal =>
    ((), if preserveLocal ∧ phaseForApiError error = .serverUnavailable ∧
        (w.core.phase = .ready ∨ w.core.phase = .connected ∨ w.core.phase = .connecting ∨
          w.core.phase = .stopping) then w
      else w.withPhase (phaseForApiError error))
  | ensureStartNotCancelled epoch => w.fenced epoch id
  | readEpoch => (w.epoch, w)
  | signalStartCancellation =>
    (w.startInProgress || w.pendingStartActive, { w with epoch := w.epoch + 1 })
  | beginStartAttempt => (w.epoch, { w with startInProgress := true })
  | finishStartAttempt => ((), { w with startInProgress := false })
  | pendingStartActive => (w.pendingStartActive, w)
  | setPendingStartActive active => ((), { w with pendingStartActive := active })
  | readEpisode => (w.episode, w)
  | setEpisode episode => ((), { w with episode := episode })
  | quarantine leaseId => ((), { w with quarantine := leaseId :: w.quarantine })
  | clearQuarantine leaseId => ((), { w with quarantine := w.quarantine.filter (· ≠ leaseId) })
  | clearAllQuarantines => ((), { w with quarantine := [] })
  | quarantined leaseId => (w.quarantine.contains leaseId, w)
  | ownerPublish =>
    ((), { w with epoch := w.epoch + 1, core := ⟨.stopping, none⟩, ownerStopped := true })
  | ownerFinish stopped successPhase =>
    ((), if stopped then { w with core := ⟨successPhase, none⟩ } else w.withPhase .error)

inductive PanelCall where
  | sendStart (origin : StartOrigin) (request : ConnectionStartRequest)
  | startAnswer (operationId : String)
  | sendOperation (origin : OperationOrigin) (operation : ConnectionOperation)
      (request : ConnectionOperationRequest)
  | operationAnswer (operation : ConnectionOperation) (request : ConnectionOperationRequest)
  | sendSessionStop (request : RedundantStopRequest)
  | sessionStopAnswer (request : RedundantStopRequest)
  | reconcileAnswer (request : OperationReconcileRequest)
  | bootstrapAnswer

@[reducible]
def PanelCall.Resp : PanelCall → Type
  | sendStart _ _ | sendOperation _ _ _ | sendSessionStop _ => Unit
  | startAnswer _ => Except CoreApiError ConnectionStartResponse
  | operationAnswer _ _ | sessionStopAnswer _ => Except CoreApiError Connection
  | reconcileAnswer _ => Except CoreApiError OperationReconcileResponse
  | bootstrapAnswer => Except CoreApiError Bootstrap

/-- What an answer says; failures other than a rejected start say nothing. -/
def PanelCall.event : (p : PanelCall) → p.Resp → Option PanelEvent
  | sendStart _ request, _ => some (.startSent request)
  | startAnswer operationId, .ok response => some (.startAnswered operationId response.connection)
  | startAnswer operationId, .error (.rejected code _ retryAfterSeconds) =>
    some (.startRejected operationId code retryAfterSeconds)
  | startAnswer _, .error _ => none
  | sendOperation _ operation request, _ => some (.operationSent operation request)
  | operationAnswer .stop request, .ok connection => some (.stopAnswered request connection)
  | operationAnswer _ _, .ok connection => some (.pinAnswered connection)
  | operationAnswer _ _, .error _ => none
  | sendSessionStop request, _ => some (.sessionStopSent request)
  | sessionStopAnswer request, .ok connection => some (.sessionStopAnswered request connection)
  | sessionStopAnswer _, .error _ => none
  | reconcileAnswer request, .ok response => some (.reconciled request response)
  | reconcileAnswer _, .error _ => none
  | bootstrapAnswer, .ok response => some (.bootstrapped response.connection)
  | bootstrapAnswer, .error _ => none

inductive Cmd where
  | question (q : Question)
  | store (f : StoreCall)
  | state (g : StateCall)
  | panel (p : PanelCall)
  | acquire (gate : Gate)
  | release (gate : Gate)
  | failStart (epoch : UInt64) (operationId : String) (error : CoreError)
  | publishStarted (epoch : UInt64) (operationId : String) (connection : Connection)

@[reducible]
def Cmd.Resp : Cmd → Type
  | question q => q.Resp
  | store f => Except CoreError f.Result
  | state g => g.Resp
  | panel p => p.Resp
  | acquire _ | release _ => Unit
  | failStart _ _ _ => Except CoreError Unit
  | publishStarted _ _ _ => Bool

inductive Input where
  | go
  | store (outcomes : List StoreOutcome) (fresh : String) (nowUnix : Int)
  | text (value : String)
  | flag (value : Bool)
  | verdict (result : Except CoreError Unit)
  | choice (result : Except CoreError Bool)
  | tunnel (result : Except String Unit)
  | tunnelFlag (result : Except String Bool)
  | status (result : Except String TunnelStatus)
  | metrics (answer : MetricsAnswer)
  | start (result : Except CoreApiError ConnectionStartResponse)
  | connection (result : Except CoreApiError Connection)
  | reconcile (result : Except CoreApiError OperationReconcileResponse)
  | bootstrap (result : Except CoreApiError Bootstrap)

def Question.answer : (q : Question) → Input → Option q.Resp
  | access, .verdict result | refreshAccess, .verdict result | splitOptions, .verdict result =>
    some result
  | authActive, .choice result | splitPolicy, .choice result => some result
  | tunnelStatus, .status result => some result
  | tunnelStop, .tunnel result | tunnelStopIfUnowned, .tunnel result
  | tunnelStart _ _, .tunnel result => some result
  | ownsRedundantSession, .tunnelFlag result | rebindUdp, .tunnelFlag result => some result
  | tunnelMetrics, .metrics answer => some answer
  | handshakeDeadlinePassed, .flag value => some value
  | sleep _, .go => some ()
  | newOperationId, .text value => some value
  | _, _ => none

def PanelCall.answer : (p : PanelCall) → Input → Option p.Resp
  | sendStart _ _, .go | sendOperation _ _ _, .go | sendSessionStop _, .go => some ()
  | startAnswer _, .start result => some result
  | operationAnswer _ _, .connection result | sessionStopAnswer _, .connection result => some result
  | reconcileAnswer _, .reconcile result => some result
  | bootstrapAnswer, .bootstrap result => some result
  | _, _ => none

def Input.store? : Input → Option (List StoreOutcome × String × Int)
  | .store outcomes fresh nowUnix => some (outcomes, fresh, nowUnix)
  | _ => none

def CoreWorld.disk : Disk := ⟨w.record, outcomes, w.pendingStartActive⟩

def CoreWorld.withDisk (d : Disk) : CoreWorld :=
  { w with record := d.record, pendingStartActive := d.pendingStartActive }

/-- What is noted about a record function: a new journal entry starts a new
account of the panel's answers, and a pin or an unpin holds the record it loaded. -/
def StoreCall.noted (t : ℕ) (w w' : CoreWorld) :
    (f : StoreCall) → Except CoreError f.Result → CoreWorld
  | journalPendingStart _, _ | replacePendingStartOperation _ _, _ =>
    if w'.record.pendingStart = w.record.pendingStart then w' else { w' with since := [] }
  | loadForStray, .ok stored => { w' with strayLoaded := some (t, stored) }
  | saveRuntime .stray _, _ => { w' with strayLoaded := none }
  | _, _ => w'

def StoreCall.perform (t : ℕ) (outcomes : List StoreOutcome) (fresh : String) (nowUnix : Int)
    (w : CoreWorld) (f : StoreCall) : Except CoreError f.Result × CoreWorld :=
  let (r, d) := f.run fresh nowUnix (w.disk outcomes)
  (r, f.noted t w (w.withDisk d) r)

def CoreWorld.released (t : ℕ) (gate : Gate) : CoreWorld :=
  if w.holder gate = some t then
    { w with
      holder := Function.update w.holder gate none
      strayLoaded := if gate = .connection then none else w.strayLoaded }
  else w

/-- The locked section after a failed start request. A cancelled start leaves
its journal to the cleanup. -/
def CoreWorld.failStart (epoch : UInt64)
    (operationId : String) (error : CoreError) : Except CoreError Unit × CoreWorld :=
  if w.epoch = epoch then
    let w :=
      if startErrorPreservesOperation error then w
      else w.withDisk (RuntimeJournal.clearPendingStart operationId (w.disk outcomes)).2
    (.ok (), w.withPhase (phaseForStartError error))
  else (.error .startCancelled, if w.core.phase = .connecting then w.withPhase .ready else w)

def CoreWorld.publishStarted (epoch : UInt64)
    (operationId : String) (connection : Connection) : Bool × CoreWorld :=
  if w.epoch = epoch then
    (true,
      { w.withDisk (RuntimeJournal.clearPendingStart operationId (w.disk outcomes)).2 with
        core := ⟨.connected, some connection⟩ })
  else (false, w)

def CoreWorld.noteAnswer : Option PanelEvent → CoreWorld
  | some event => w.note event
  | none => w

def sem (c : Cmd) (t : ℕ) (i : Input) (w : CoreWorld) : Option (c.Resp × CoreWorld) :=
  match c with
  | .question q => (q.answer i).map fun r => (r, w)
  | .store f => i.store?.map fun (outcomes, fresh, nowUnix) => f.perform t outcomes fresh nowUnix w
  | .state g => some (g.run w)
  | .panel p => (p.answer i).map fun r => (r, w.noteAnswer (p.event r))
  | .acquire gate =>
    if w.holder gate = none then
      some ((), { w with holder := Function.update w.holder gate (some t) })
    else none
  | .release gate => some ((), w.released t gate)
  | .failStart epoch operationId error =>
    i.store?.map fun (outcomes, _, _) => w.failStart outcomes epoch operationId error
  | .publishStarted epoch operationId connection =>
    i.store?.map fun (outcomes, _, _) => w.publishStarted outcomes epoch operationId connection

abbrev core : Machine := ⟨CoreWorld, Cmd, Cmd.Resp, Input, sem⟩

abbrev Core : Type 1 := Fallible core CoreError α

/-- Programs that may refresh the access token once, shared by several requests. -/
abbrev Refreshing : Type 1 := Local core CoreError Bool α

structure CancelLocals where
  pending : StoredPendingStart
  authRefreshUsed : Bool

abbrev Cancelling : Type 1 := Local core CoreError CancelLocals α

def inquire (q : Question) : Prog core q.Resp := Prog.ask (M := core) (.question q)

def begun (q : Question) : Prog core q.Resp := do
  let answer ← Prog.call (M := core) (.question q)
  Prog.pause
  return answer

def stored (f : StoreCall) : Core f.Result := ExceptT.mk (Prog.call (M := core) (.store f))

def locked (g : StateCall) : Prog core g.Resp := Prog.ask (M := core) (.state g)

def atomic (g : StateCall) : Prog core g.Resp := Prog.call (M := core) (.state g)

def receive (p : PanelCall) : Prog core p.Resp := Prog.ask (M := core) (.panel p)

/-- A request that leaves, or an answer that has arrived, without an await point. -/
def take (p : PanelCall) : Prog core p.Resp := Prog.call (M := core) (.panel p)

def tunnelError {α : Type} : Except String α → Except CoreError α
  | .ok a => .ok a
  | .error code => .error (.tunnel code)

def apiError {α : Type} : Except CoreApiError α → Except CoreError α
  | .ok a => .ok a
  | .error error => .error (.ofApi error)

def withGate {α : Type} (gate : Gate) (x : Core α) : Core α := ExceptT.mk do
  Prog.ask (M := core) (.acquire gate)
  let r ← x.run
  Prog.call (M := core) (.release gate)
  return r

end NelomaiClient.CoreMachine
