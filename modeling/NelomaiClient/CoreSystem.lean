import NelomaiClient.CoreSession

/-!
# Systems of core operations

The operations a task can be started with, in three groups: those that work
behind the intent gate, those of the local owner, and the rest. A run of a
system starts any number of them in any order, interleaves them at their await
points and may lose the process at any moment.
-/

namespace NelomaiClient.CoreSystem

open ConnectionContract CoreContract RuntimeRecord CorePolicy
open AwaitProgram AwaitPool CoreMachine CoreCancel CoreStart CoreSession

inductive IntentOp where
  | start (options : ConnectOptions) (nowUnix : Int)
  | startAt (options : ConnectOptions) (nowUnix : Int) (epoch : UInt64)
  | startRecoveryV2 (options : ConnectOptions) (nowUnix : Int) (reserveEnabled : Bool)
  | startRecoveryV2At (options : ConnectOptions) (nowUnix : Int) (reserveEnabled : Bool)
      (epoch : UInt64)
  | connectionIntentAttempt (options : ConnectOptions) (nowUnix : Int)
  | connectionIntentAttemptAt (options : ConnectOptions) (nowUnix : Int) (epoch : UInt64)
  | prepareExplicitStart (options : ConnectOptions) (epoch : UInt64)
  | replaceStalledConnection (options : ConnectOptions) (nowUnix : Int)
  | replaceStalledConnectionAt (options : ConnectOptions) (nowUnix : Int) (epoch : UInt64)
  | stop
  | stopLocally
  | reconcilePendingOperationForRetry
  | compensateStaleConnectionIntentResult

inductive OwnerOp where
  | stopLocal
  | stopLocalForTransition
  | stopLocalOnDisconnect
  | signalStartCancellation

inductive SessionOp where
  | bootstrap (nowUnix : Int)
  | bootstrapForForeground (nowUnix : Int)
  | bootstrapWithoutRefresh (nowUnix : Int)
  | restoreRunning (connection : Connection) (nowUnix : Int) (epoch : UInt64)
  | prepareBindingChange
  | pinStray
  | unpinStray (leaseId : String) (nowUnix : Int)
  | completeUnbind
  | startSavedStrayOffline (nowUnix : Int)
  | presentPhase (phase : Phase)
  | readRuntime

def task {α : Type} (x : Core α) : Prog core Unit := do
  let _ ← x.run
  return ()

section Programs

variable (env : CoreParameters)

def IntentOp.program : IntentOp → Prog core Unit
  | start options nowUnix => task (CoreStart.start env options nowUnix)
  | startAt options nowUnix epoch => task (startWithCancellationEpoch env options nowUnix epoch)
  | startRecoveryV2 options nowUnix reserveEnabled =>
    task (CoreStart.startRecoveryV2 env options nowUnix reserveEnabled)
  | startRecoveryV2At options nowUnix reserveEnabled epoch =>
    task (startRecoveryV2WithCancellationEpoch env options nowUnix reserveEnabled epoch)
  | connectionIntentAttempt options nowUnix =>
    task (CoreStart.connectionIntentAttempt env options nowUnix)
  | connectionIntentAttemptAt options nowUnix epoch =>
    task (connectionIntentAttemptWithCancellationEpoch env options nowUnix epoch)
  | prepareExplicitStart options epoch => task (CoreStart.prepareExplicitStart env options epoch)
  | replaceStalledConnection options nowUnix =>
    task (CoreStart.replaceStalledConnection env options nowUnix)
  | replaceStalledConnectionAt options nowUnix epoch =>
    task (replaceStalledConnectionWithCancellationEpoch env options nowUnix epoch)
  | stop => task (CoreCancel.stop env)
  | stopLocally => task (CoreCancel.stopLocally env)
  | reconcilePendingOperationForRetry => task (CoreCancel.reconcilePendingOperationForRetry env)
  | compensateStaleConnectionIntentResult =>
    task (CoreCancel.compensateStaleConnectionIntentResult env)

def OwnerOp.program : OwnerOp → Prog core Unit
  | stopLocal => task CoreSession.stopLocal
  | stopLocalForTransition => task CoreSession.stopLocalForTransition
  | stopLocalOnDisconnect => task CoreSession.stopLocalOnDisconnect
  | signalStartCancellation => task CoreSession.signalStartCancellation

def SessionOp.program : SessionOp → Prog core Unit
  | bootstrap nowUnix => task (CoreSession.bootstrap nowUnix)
  | bootstrapForForeground nowUnix => task (CoreSession.bootstrapForForeground nowUnix)
  | bootstrapWithoutRefresh nowUnix => task (CoreSession.bootstrapWithoutRefresh nowUnix)
  | restoreRunning connection nowUnix epoch =>
    task (CoreSession.restoreRunning connection nowUnix epoch)
  | prepareBindingChange => task (CoreStart.prepareBindingChange env)
  | pinStray => task (CoreSession.pinStray env)
  | unpinStray leaseId nowUnix => task (CoreSession.unpinStray env leaseId nowUnix)
  | completeUnbind => task CoreSession.completeUnbind
  | startSavedStrayOffline nowUnix => task (CoreSession.startSavedStrayOffline env nowUnix)
  | presentPhase phase => task (CoreSession.presentPhase phase)
  | readRuntime => task CoreSession.readRuntime

abbrev coreSystem : System where
  machine := core
  Op := (IntentOp ⊕ OwnerOp) ⊕ SessionOp
  program := Sum.elim (Sum.elim (IntentOp.program env) OwnerOp.program) (SessionOp.program env)
  restart := CoreWorld.restart

end Programs

def sampleParameters : CoreParameters := ⟨id, fun _ => .wireGuard, []⟩

def sampleRecord : RuntimeState := .empty .latest "1" false

def sampleConnection (leaseId : String) (status : LeaseStatus) : Connection :=
  { leaseId := leaseId, sessionId := none, poolId := none, layer := .stray,
    transportProtocol := .wireguard, ticConnectionMode := .dynamic, routeMode := .standalone,
    egressMode := .ipv4, probeUrl := none, status := status, pinned := false, stoppedAt := none }

def storeDone : Input := .store [] "fresh" 0

end NelomaiClient.CoreSystem
