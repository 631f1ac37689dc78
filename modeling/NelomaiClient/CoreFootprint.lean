import NelomaiClient.CoreSystem
import NelomaiClient.AwaitFootprint

/-!
# Footprints of the core's programs

Commands are sorted by what they may touch, and every program has its kinds:
`Issues (within S) x` says that `x` issues commands of the kinds `S` only.
-/

set_option synthInstance.maxSize 1024
namespace NelomaiClient.CoreFootprint

open CoreContract RuntimeJournal
open AwaitProgram AwaitRely AwaitFallible AwaitFootprint CoreMachine CoreStop CoreCancel CoreStart CoreSession
open CoreSystem

/-- What a command may touch: nothing that is journalled or published as a
connection, the journals it settles, the published state behind its epoch, the
start journal and its requests, the matters of sessions, owners and the intent
gate, or a record that a pin or an unpin keeps across await points. -/
inductive Kind where
  | quiet
  | settling
  | fenced
  | starting
  | outer
  | stray

@[reducible]
def questionKind : Question → Kind
  | .tunnelStart .offline _ => .outer
  | _ => .quiet

@[reducible]
def storeKind : StoreCall → Kind
  | .loadRuntime | .peek | .hasPendingStopCleanup => .quiet
  | .saveRuntime .started _ | .pendingCancelOperationId _ _ | .replacePendingStartOperation _ _
  | .journalPendingStart _ => .starting
  | .saveRuntime .restore _ => .outer
  | .loadForStray | .saveRuntime .stray _ => .stray
  | _ => .settling

@[reducible]
def stateKind : StateCall → Kind
  | .writeCore _ | .applyReconciledStalledStopTerminal _ _ | .replaceConnection _ _ => .settling
  | .setStartPhase _ _ | .writeCoreIf _ _ | .setCompensationState _ _ | .forgetConnection _ _ =>
    .fenced
  | .signalStartCancellation | .ownerPublish | .ownerFinish _ _ => .outer
  | _ => .quiet

@[reducible]
def panelKind : PanelCall → Kind
  | .sendStart .restore _ => .outer
  | .sendStart _ _ => .starting
  | .sendOperation (.cancelStart _) _ _ => .starting
  | _ => .quiet

def kind : Cmd → Kind
  | .question q => questionKind q
  | .store f => storeKind f
  | .state g => stateKind g
  | .panel p => panelKind p
  | .acquire gate | .release gate => if gate = .intent then .outer else .settling
  | .failStart _ _ _ | .publishStarted _ _ _ => .fenced

section Classes

variable {α : Type} {S : Kind → Prop}

def within (S : Kind → Prop) (c : core.Cmd) : Prop := S (kind c)

class Allows (S : Kind → Prop) (k : Kind) : Prop where
  out : S k

instance (x : Refreshing α) [h : IssuesLocal (within S) x] : IssuesLocal (within S) (withRefresh x) := by
  unfold withRefresh
  infer_instance

lemma issues_stored (h : S (storeKind f)) : Issues (within S) (stored f) :=
  ⟨(Prog.uses_call (M := core) (.store f)).mpr h⟩

lemma makes_question (h : S (questionKind q)) :
    Makes (within S) (Prog.call (M := core) (.question q)) := makes_call h

lemma makes_begun (h : S (questionKind q)) : Makes (within S) (begun q) :=
  ⟨Prog.uses_bind (makes_question h).out fun _ => trivial⟩

-- The answer types are computed from the commands, so they cannot be keys of these instances.
instance [h : Allows S (questionKind q)] : Makes (α := no_index _) (within S) (inquire q) :=
  makes_ask h.out

instance [h : Allows S (questionKind q)] :
    Makes (α := no_index _) (within S) (Prog.call (M := core) (.question q)) := makes_question h.out

instance [h : Allows S (stateKind g)] : Makes (α := no_index _) (within S) (locked g) :=
  makes_ask h.out

instance [h : Allows S (stateKind g)] : Makes (α := no_index _) (within S) (atomic g) :=
  makes_call h.out

instance [h : Allows S (panelKind p)] : Makes (α := no_index _) (within S) (take p) :=
  makes_call h.out

instance [h : Allows S (storeKind f)] : Issues (α := no_index _) (within S) (stored f) :=
  issues_stored h.out

lemma issues_withGate (ha : S (kind (.acquire gate)))
    (hr : S (kind (.release gate))) (hx : Issues (within S) x) :
    Issues (within S) (withGate gate x) := by
  refine ⟨Prog.uses_bind ((Prog.uses_ask (M := core) (.acquire gate)).mpr ha) fun _ => ?_⟩
  refine Prog.uses_bind hx.out fun _ => ?_
  exact Prog.uses_bind ((Prog.uses_call (M := core) (.release gate)).mpr hr) fun _ => trivial

def quietly (k : Kind) : Prop := k = .quiet

instance : Allows quietly .quiet := ⟨rfl⟩

def unpinned (k : Kind) : Prop := k ≠ .stray

instance : Allows unpinned .quiet := ⟨nofun⟩
instance : Allows unpinned .settling := ⟨nofun⟩
instance : Allows unpinned .starting := ⟨nofun⟩
instance : Allows unpinned .fenced := ⟨nofun⟩
instance : Allows unpinned .outer := ⟨nofun⟩

end Classes

section Quiet

variable [quiet : Allows S .quiet]

instance : Issues (within S) readCore := by
  unfold readCore
  infer_instance

instance : Issues (within S) (setPhase phase) := by
  unfold setPhase
  infer_instance

instance : Issues (within S) (ensureStartNotCancelled epoch) := by
  unfold ensureStartNotCancelled
  infer_instance

instance : Issues (within S) newOperationId := by
  unfold newOperationId
  infer_instance

instance : Issues (within S) accessSnapshot := by
  unfold accessSnapshot
  infer_instance

instance : Issues (within S) refreshAccessToken := by
  unfold refreshAccessToken
  infer_instance

instance : Issues (within S) (ensurePendingCleanupScope scope) := by
  unfold ensurePendingCleanupScope connectedConnection requirePending
  repeat' first | infer_instance | split

instance [Makes (within S) dispatch] [Makes (within S) answer] : Issues (within S)
    (awaitWithStartCancellation epoch dispatch answer) := by
  unfold awaitWithStartCancellation ensureEpoch
  repeat' first | infer_instance | split

instance : Issues (within S) (waitForStartRetry delayMillis epoch) := by
  unfold waitForStartRetry
  infer_instance

instance : IssuesLocal (within S) (refreshCleanupAccess scope) := by
  unfold refreshCleanupAccess
  infer_instance

instance [Makes (within S) (take (.sendOperation origin operation request))] : IssuesLocal (within
    S) (operationRound env origin operation request scope presentError retryIndex) := by
  unfold operationRound operationFailed retryDelay
  repeat' first | infer_instance | split | refine issuesLocal_seq ?_ fun _ => ?_

instance [Makes (within S) (take (.sendOperation origin operation request))] : IssuesLocal (within
    S) (retryOperationScoped env origin operation request scope presentError) := by
  unfold retryOperationScoped
  infer_instance

instance : Issues (within S) (retryOperation env operation request) := by
  unfold retryOperation
  infer_instance

instance : Issues (within S) (available value) := by
  unfold available
  repeat' first | infer_instance | split

instance : Issues (within S) (strayOperation env operation leaseId) := by
  unfold strayOperation
  infer_instance

end Quiet

lemma unpinned_question (q : Question) : unpinned (questionKind q) := by
  unfold questionKind
  split <;> nofun

lemma unpinned_panel (p : PanelCall) : unpinned (panelKind p) := by
  unfold panelKind
  split <;> nofun

lemma unpinned_gate (gate : Gate) :
    unpinned (kind (.acquire gate)) ∧ unpinned (kind (.release gate)) := by
  cases gate <;> exact ⟨nofun, nofun⟩

instance : Makes (α := no_index _) (within unpinned) (begun q) := makes_begun (unpinned_question q)

instance : Makes (α := no_index _) (within unpinned) (take p) := makes_call (unpinned_panel p)

instance : Makes (α := no_index _) (within unpinned) (receive p) := makes_ask (unpinned_panel p)

instance : Makes (within unpinned) (Prog.ask (M := core) (.failStart epoch operationId error)) :=
  makes_ask nofun

instance : Makes (within unpinned) (Prog.ask (M := core) (.publishStarted epoch operationId connection)) :=
  makes_ask nofun

/-- No command pins a stray. -/
abbrev Unpinned {α : Type} (x : Core α) : Prop := Issues (within unpinned) x

lemma issues_gate (hx : Unpinned x) : Unpinned (withGate gate x) :=
  issues_withGate (unpinned_gate gate).1 (unpinned_gate gate).2 hx

instance [hx : Unpinned x] : Unpinned (withGate gate x) := issues_gate hx

instance : Unpinned (operationOrNew operationId) := by
  unfold operationOrNew
  repeat' first | infer_instance | split

instance : Unpinned requireCoreStopOwnership := by
  unfold requireCoreStopOwnership
  infer_instance

instance : Unpinned stopTunnelIfUnowned := by
  repeat' first | infer_instance | split | refine issues_seq ?_ fun _ => ?_

instance : IssuesLocal (within unpinned) (reconcileOperation scope request) := by
  unfold reconcileOperation reconcileAgain askReconcile
  repeat' first | infer_instance | split | refine issuesLocal_seq ?_ fun _ => ?_

instance : Unpinned (sessionStopRound env request presentError state) := by
  unfold sessionStopRound sessionStopFailed retryDelay
  repeat' first | infer_instance | split | refine issues_seq ?_ fun _ => ?_

instance : Unpinned (retryCompensationStop env pending presentError) := by
  unfold retryCompensationStop
  repeat' first | infer_instance | split

instance : Unpinned (requireFinished failureCode acceptWarm status) := by
  unfold requireFinished
  infer_instance

instance : IssuesLocal (within unpinned) (ensureScope epoch) := by
  unfold ensureScope
  infer_instance

instance : Unpinned (handshakeRound epoch lastError) := by
  unfold handshakeRound handshakePolled handshakePause handshakeOver
  repeat' first | infer_instance | split | refine issues_seq ?_ fun _ => ?_

instance : Unpinned (ensureAwg3Handshake epoch) := by
  unfold ensureAwg3Handshake tunnelIsRunningAfterMetricsFailure handshakeRebind handshakeRebound
    waitForHandshake
  repeat' first | infer_instance | split | refine issues_seq ?_ fun _ => ?_

instance : Unpinned (CoreSession.presentPhase phase) := by
  unfold CoreSession.presentPhase
  infer_instance

instance : Unpinned CoreSession.readRuntime := by
  unfold CoreSession.readRuntime
  infer_instance

instance : Unpinned (writeCore state) := by
  unfold writeCore
  infer_instance

instance : Unpinned (clearFoundStart ground pending) := by
  unfold clearFoundStart
  repeat' first | infer_instance | split

instance : Unpinned (stopInternal env failureCode clearRecoveryEpisode operationId acceptWarm) := by
  unfold stopInternal stopCurrent stopAtPanel stopAnswered stopFailedPhase stopLocalHalf
    releaseRestoredSession
  repeat' first | infer_instance | split | refine issues_seq ?_ fun _ => ?_ | apply issues_gate

instance : Unpinned (CoreCancel.reconcileHandshakeTimeoutStorage ground operationId
    connection) := by
  repeat' first | infer_instance | split | refine issues_seq ?_ fun _ => ?_

instance : Unpinned (resumePendingCompensationStop env pending) := by
  unfold resumePendingCompensationStop replayPendingCompensationStopWithoutConnection replayAnswered
    requireReplayAuthority resumeAtConnection reconcilePendingHandshakeTimeoutStorage
  repeat' first | infer_instance | split | refine issues_seq ?_ fun _ => ?_ | apply issues_gate

instance : Unpinned (clearFoundCompensation found) := by
  unfold clearFoundCompensation
  repeat' first | infer_instance | split

instance : Unpinned (releaseStalePanelConnectionBeforeStart env pendingStart) := by
  unfold releaseStalePanelConnectionBeforeStart releaseStale releaseStaleLease journalStaleRelease
    releaseRestoredSession
  repeat' first | infer_instance | split | refine issues_seq ?_ fun _ => ?_

instance : Unpinned (prepareBindingChange env) := by
  unfold prepareBindingChange
  infer_instance

instance : Unpinned (presentCompensation stage presentation phase connection) := by
  unfold presentCompensation tunnelMayRun CoreStart.setCompensationState
  repeat' first | infer_instance | split | refine issues_seq ?_ fun _ => ?_

instance : Unpinned (compensateFailedStart env context stage error) := by
  unfold compensateFailedStart compensateJournalled compensateTunnel compensationAnswered
    settleJournals compensationUnjournalled nativeOwner tunnelMayRun CoreStart.setCompensationState
  repeat' first | infer_instance | split | refine issues_seq ?_ fun _ => ?_

instance : IssuesLocal (within unpinned) (markCancelled leaseId) := by
  unfold markCancelled
  infer_instance

instance : IssuesLocal (within unpinned) (stopUnknownPendingLease env leaseId epoch) := by
  unfold stopUnknownPendingLease cancelledLeaseStopped
  repeat' first | infer_instance | split | refine issuesLocal_seq ?_ fun _ => ?_

instance : IssuesLocal (within unpinned) (cancelPendingStart env epoch leaseId) := by
  unfold cancelPendingStart cancelByContract cancelContractStart cancelReconciled
    cancelUnknownLegacyStart legacyReplayAnswered replayLegacyAgain markV2Cancelled cancelled
    ensureEpoch requirePending answeredField replayLegacyStart
  repeat' first | infer_instance | split | refine issuesLocal_seq ?_ fun _ => ?_

instance : Unpinned (cancelOnce env pending epoch leaseId) := by
  unfold cancelOnce
  infer_instance

instance : IssuesLocal (within unpinned) (retryReconciled env contractVersion response) := by
  unfold retryReconciled answeredField
  repeat' first | infer_instance | split

instance : IssuesLocal (within unpinned) (explicitRound env epoch retryIndex) := by
  unfold explicitRound explicitCancelFailed
  repeat' first
    | infer_instance | split | refine issues_seq ?_ fun _ => ?_
    | refine issuesLocal_seq ?_ fun _ => ?_

instance : Unpinned (CoreCancel.stop env) := by
  unfold CoreCancel.stop stopHoldingIntent stopJournalled stopActive stopCancelled
    stopByCompensation stopUnjournalled cancelUnknownPendingStart stopPublished publishedConnection
  repeat' first
    | infer_instance | split | refine issues_seq ?_ fun _ => ?_ | apply issues_gate
    | apply issues_outcome | dsimp only

instance : Unpinned (CoreCancel.stopLocally env) := by
  unfold CoreCancel.stopLocally stopLocallyHoldingGates stopLocallyCurrent journalLocalStop
    stopTunnel
  repeat' first | infer_instance | split | refine issues_seq ?_ fun _ => ?_ | apply issues_gate

instance : Unpinned (CoreCancel.reconcilePendingOperationForRetry env) := by
  unfold CoreCancel.reconcilePendingOperationForRetry reconcileStored
    reconcilePendingStalledStopForRetry stalledReconciled reconcilePendingStart
    reconcileContractStart
  repeat' first
    | infer_instance | split | refine issues_seq ?_ fun _ => ?_
    | refine issuesLocal_seq ?_ fun _ => ?_ | apply issues_gate

instance : Unpinned (CoreCancel.compensateStaleConnectionIntentResult env) := by
  unfold CoreCancel.compensateStaleConnectionIntentResult compensateStaleHoldingIntent staleStopped
  repeat' first | infer_instance | split | refine issues_seq ?_ fun _ => ?_ | apply issues_gate

instance : IssuesLocal (within unpinned) (retryStartRound env options allowInternalRetry epoch
    clearFresh state) := by
  unfold retryStartRound startRequestFailed replaceOperation presentStartError
  repeat' first | infer_instance | split | refine issuesLocal_seq ?_ fun _ => ?_

instance : Unpinned (dispatchStart env call splitPolicy request clearFresh) := by
  unfold dispatchStart retryStart startRequested startAnswered acceptStart rememberAndStart
    startLocally confirmHandshake localStartRejected failWith checkpoint publishStart
    compensateCancelledStart cancelAsync
  repeat' first
    | infer_instance | split | refine issues_seq ?_ fun _ => ?_ | apply issues_gate
    | apply issues_outcome | dsimp only

instance : Unpinned (startInternal env call) := by
  unfold startInternal resumeBeforeStart startHoldingGates prepareStart requireSupported
    startJournalled freshOperationId admitPending connectedConnection preflight
  repeat' first | infer_instance | split | refine issues_seq ?_ fun _ => ?_ | apply issues_gate

instance [∀ epoch, Unpinned (x epoch)] : Unpinned (startAttempt x) := by
  unfold startAttempt
  infer_instance

instance : Unpinned (CoreStart.prepareExplicitStart env options epoch) := by
  unfold CoreStart.prepareExplicitStart supersede
  repeat' first | infer_instance | split | refine issues_seq ?_ fun _ => ?_ | apply issues_gate

instance : Unpinned (replaceStalledConnectionWithCancellationEpoch env options nowUnix epoch) := by
  unfold replaceStalledConnectionWithCancellationEpoch beginRecoveryEpisode cachedConnection
    replaceStalled forgetReplaced stalledOperationId startReplacement replaced replacementCurrent
    episodeOperationId endEpisode publishedConnection
  repeat' first | infer_instance | split | refine issues_seq ?_ fun _ => ?_ | apply issues_gate

instance : Unpinned (startWithCancellationEpoch env options nowUnix epoch) := by
  unfold startWithCancellationEpoch
  infer_instance

instance : Unpinned (startRecoveryV2WithCancellationEpoch env options nowUnix
    reserveEnabled epoch) := by
  unfold startRecoveryV2WithCancellationEpoch
  infer_instance

instance : Unpinned (connectionIntentAttemptWithCancellationEpoch env options nowUnix epoch) := by
  unfold connectionIntentAttemptWithCancellationEpoch
  infer_instance

instance : Unpinned (CoreStart.start env options nowUnix) := by
  unfold CoreStart.start
  infer_instance

instance : Unpinned (CoreStart.startRecoveryV2 env options nowUnix reserveEnabled) := by
  unfold CoreStart.startRecoveryV2
  infer_instance

instance : Unpinned (CoreStart.connectionIntentAttempt env options nowUnix) := by
  unfold CoreStart.connectionIntentAttempt
  infer_instance

instance : Unpinned (CoreStart.replaceStalledConnection env options nowUnix) := by
  unfold CoreStart.replaceStalledConnection
  infer_instance

instance : Unpinned (stopLocalWithSuccessPhase successPhase) := by
  repeat' first | infer_instance | split | refine issues_seq ?_ fun _ => ?_

instance : Unpinned CoreSession.stopLocal := by
  unfold CoreSession.stopLocal
  infer_instance

instance : Unpinned CoreSession.stopLocalForTransition := by
  unfold CoreSession.stopLocalForTransition
  infer_instance

instance : Unpinned CoreSession.stopLocalOnDisconnect := by
  unfold CoreSession.stopLocalOnDisconnect
  infer_instance

instance : Unpinned CoreSession.signalStartCancellation := by
  unfold CoreSession.signalStartCancellation
  infer_instance

instance : Unpinned (CoreSession.restoreRunning connection nowUnix epoch) := by
  unfold CoreSession.restoreRunning restoreRunningConnectionConfiguration restoreConfiguration
    restoreFromPanel fetchAgain rememberRestored fetchConfiguration
  repeat' first
    | infer_instance | split | refine issues_seq ?_ fun _ => ?_ | apply issues_gate
    | apply issues_outcome

instance : Unpinned (CoreSession.bootstrap nowUnix) := by
  unfold CoreSession.bootstrap bootstrapWithLocalPresentation bootstrapAgain bootstrapFailed
    askBootstrap completeBootstrap finishBootstrap tunnelStatusOrStopped
  repeat' first | infer_instance | split | refine issues_seq ?_ fun _ => ?_

instance : Unpinned (CoreSession.bootstrapForForeground nowUnix) := by
  unfold CoreSession.bootstrapForForeground bootstrapWithLocalPresentation bootstrapAgain
    bootstrapFailed askBootstrap completeBootstrap finishBootstrap tunnelStatusOrStopped
  repeat' first | infer_instance | split | refine issues_seq ?_ fun _ => ?_

instance : Unpinned (CoreSession.bootstrapWithoutRefresh nowUnix) := by
  unfold CoreSession.bootstrapWithoutRefresh askBootstrap completeBootstrap finishBootstrap
    tunnelStatusOrStopped
  repeat' first | infer_instance | split | refine issues_seq ?_ fun _ => ?_

instance : Unpinned CoreSession.completeUnbind := by
  unfold CoreSession.completeUnbind
  infer_instance

instance : Unpinned (CoreSession.startSavedStrayOffline env nowUnix) := by
  unfold CoreSession.startSavedStrayOffline offlineHoldingGates startOffline offlineStarted
    offlineHandshake offlineHandshakeFailed offlineCleanedUp offlineCleanupFailed
    ensureOfflineStartCurrent CoreSession.writeCoreIf preflight
  repeat' first | infer_instance | split | refine issues_seq ?_ fun _ => ?_ | apply issues_gate

section Tolerance

variable {α : Type}

lemma wpe_withGate (gate : Gate) (x : Core α) (Q : α → CoreWorld → Prop)
    (E : CoreError → CoreWorld → Prop) (w : CoreWorld) :
    wpe K t (withGate gate x) Q E w ↔
      wp K t (Prog.ask (M := core) (.acquire gate)) (fun _ w =>
        wpe K t x (fun a w => wp K t (Prog.call (M := core) (.release gate)) (fun _ => Q a) w)
          (fun e w => wp K t (Prog.call (M := core) (.release gate)) (fun _ => E e) w) w) w := by
  refine Iff.trans (wpe_mk K t Q E w _) (Iff.trans (wp_bind K t _ _ _ w) ?_)
  constructor
  all_goals
    refine wp_mono fun _ _ h => ?_
    first
      | rw [wp_bind] at h
      | rw [wp_bind]
    refine wp_mono ?_ h
    intro r _ hr
    cases r with
    | ok a | error e => exact hr

lemma wp_task (h : wpe K t x (fun _ _ => True) (fun _ _ => True) w) :
    wp K t (task x) (fun _ _ => True) w := by
  unfold task
  rw [wp_bind]
  exact wp_mono (fun _ _ _ => trivial) h

end Tolerance

end NelomaiClient.CoreFootprint
