import NelomaiClient.AndroidRecoveryStore

/-!
# What the store functions write

One constructor for each store function that writes: what it requires of the
record and what the record becomes. Every invariant of the record is a case
analysis of `Wrote`, and `run_keeps` carries it over whole store functions.
-/

namespace NelomaiClient.AndroidRecoverySteps

open AndroidRecovery AndroidRecoveryStore

variable {params : AndroidParameters} {current : AndroidRecoveryEnvelope}

def withBoth (current : AndroidRecoveryEnvelope) (f : AndroidRetryState → AndroidRetryState)
    (transaction : AndroidLeaseTransaction) : AndroidRecoveryEnvelope :=
  withLease (withRetry current f) transaction

/-- The functions that leave a lease to be cleaned up, with what becomes of the intent. -/
inductive Schedules (generation : Nat) (leaseId : String) :
    StoreCall → Bool → PendingAction → Prop
  | profile (stopOperationId errorCode : String) (nextRetryAtUnix scheduledDelaySeconds : Int) :
    Schedules generation leaseId (.scheduleProfileRetryAfterCleanup generation leaseId
      stopOperationId errorCode nextRetryAtUnix scheduledDelaySeconds) true
      .newOperationAfterCleanup
  | stalled (stopOperationId : String) (dynamicPoolBacked : Bool) (nowUnix : Int) :
    Schedules generation leaseId (.scheduleStalledRecovery generation leaseId stopOperationId
      dynamicPoolBacked nowUnix) true .newOperationAfterCleanup
  | terminal (stopOperationId errorCode : String) :
    Schedules generation leaseId (.scheduleTerminalAfterCleanup generation leaseId
      stopOperationId errorCode) true .terminalAfterCleanup
  | initial (stopOperationId errorCode : String) :
    Schedules generation leaseId (.scheduleInitialTerminalAfterCleanup generation leaseId
      stopOperationId errorCode) false .initialTerminalReportPending

inductive Wrote (params : AndroidParameters) (current : AndroidRecoveryEnvelope) :
    StoreCall → AndroidRecoveryEnvelope → Prop
  | beginStart {template normalized : AndroidIntentTemplate} {replay : AndroidStartReplay}
    {nextGeneration episode bootCount : Nat} (hredundant : current.redundantTransaction = none)
    (hlease : current.leaseTransaction = none)
    (hgeneration : checkedIncrement current.intent.generation = some nextGeneration)
    (htemplate : normalizeTemplate params template = some normalized) :
    Wrote params current (.beginStart current.intent.generation template replay)
      { intent :=
          { generation := nextGeneration
            diagnosticsEpisodeId := episode, bootCount := bootCount, desiredActive := true
            armedHistory := false, template := some normalized, retry := {} }
        acceptedStops := current.acceptedStops, leaseTransaction := some
          { generation := nextGeneration
            bootCount := bootCount, phase := .startPending, leaseId := none, stopOperationId := none
            replay := replay } }
  | set {call : StoreCall} {desiredActive leaseLess exhausted : Bool} {nextGeneration : Nat}
    (hcall : call = .setDesiredActive current.intent.generation desiredActive ∨
      desiredActive = false ∧
        (call = .cancelCurrentIntent ∨ call = .cancelCurrentIntentForQuickToggle))
    (hgeneration : checkedIncrement current.intent.generation = some nextGeneration ∧
        exhausted = false ∨
      checkedIncrement current.intent.generation = none ∧ desiredActive = false ∧
        nextGeneration = current.intent.generation ∧ exhausted = true)
    (hlegacy : leaseLess = true → desiredActive = false) :
    Wrote params current call
      (setDesiredActiveLocked.cancelled current desiredActive leaseLess nextGeneration exhausted)
  | completeLegacyRuntimeStop (hdesired : current.intent.desiredActive = false)
    (hlease : current.leaseTransaction = none) :
    Wrote params current (.completeLegacyRuntimeStop current.intent.generation)
      (clearDisarmedEpisode current)
  | restartTerminal {template normalized : AndroidIntentTemplate} {replay : AndroidStartReplay}
    {stopOperationId : String} {nextGeneration episode : Nat}
    {transaction : AndroidLeaseTransaction} (hredundant : current.redundantTransaction = none)
    (hdesired : current.intent.desiredActive = true)
    (hgeneration : checkedIncrement current.intent.generation = some nextGeneration)
    (htemplate : normalizeTemplate params template = some normalized)
    (htransaction : restartedLease current nextGeneration replay stopOperationId =
      some transaction) :
    Wrote params current
      (.restartTerminal current.intent.generation template replay stopOperationId)
      { current with
        intent :=
          { current.intent with
            generation := nextGeneration, diagnosticsEpisodeId := episode
            template := some normalized
            retry :=
              { pendingAction :=
                  if current.leaseTransaction.isSome then some .newOperationAfterCleanup
                  else none } }
        leaseTransaction := some transaction }
  | recordLease {transaction : AndroidLeaseTransaction} {leaseId : String}
    (hlease : current.leaseTransaction = some transaction)
    (hphase : transaction.phase = .startPending) :
    Wrote params current (.recordLease current.intent.generation leaseId)
      (withLease current { transaction with phase := .leaseAcquired, leaseId := some leaseId })
  | activateCheckpoint {transaction : AndroidLeaseTransaction} {episode : Nat}
    (hlease : current.leaseTransaction = some transaction)
    (hphase : transaction.phase = .leaseAcquired ∨ transaction.phase = .activeCheckpoint)
    (hleaseId : transaction.leaseId.isSome = true) :
    Wrote params current (.activateCheckpoint current.intent.generation)
      { current with
        intent :=
          { current.intent with
            diagnosticsEpisodeId := episode, armedHistory := true, retry := {} }
        leaseTransaction := some { transaction with phase := .activeCheckpoint } }
  | recordFailure {errorCode : String} {nextRetryAtUnix scheduledDelaySeconds : Option Int}
    {serviceRecoveryUsed profileRetryUsed reconcileOnceUsed : Option Bool}
    {pendingAction : Option PendingAction} {f : AndroidRetryState → AndroidRetryState}
    (hcode : ∀ retry, (f retry).lastErrorCode = some errorCode)
    (hretry : ∀ retry, (f retry).nextRetryAtUnix = nextRetryAtUnix)
    (haction : ∀ retry, (f retry).pendingAction = pendingAction) :
    Wrote params current (.recordFailure current.intent.generation errorCode nextRetryAtUnix
      scheduledDelaySeconds serviceRecoveryUsed profileRetryUsed reconcileOnceUsed pendingAction)
      (withRetry current f)
  | recordTerminalCleanupRetry {nextRetryAtUnix scheduledDelaySeconds : Int}
    {transaction : AndroidLeaseTransaction} {f : AndroidRetryState → AndroidRetryState}
    (hlease : current.leaseTransaction = some transaction)
    (haction : ∀ retry, (f retry).pendingAction = retry.pendingAction) :
    Wrote params current (.recordTerminalCleanupRetry current.intent.generation nextRetryAtUnix
      scheduledDelaySeconds) (withRetry current f)
  | clearPendingRetryAction {f : AndroidRetryState → AndroidRetryState}
    (haction : ∀ retry, (f retry).pendingAction = none)
    (hcode : ∀ retry, (f retry).lastErrorCode = retry.lastErrorCode)
    (hretry : ∀ retry, (f retry).nextRetryAtUnix = retry.nextRetryAtUnix) :
    Wrote params current (.clearPendingRetryAction current.intent.generation) (withRetry current f)
  | clearCredentialProvisioningBarrier {f : AndroidRetryState → AndroidRetryState}
    (hcode : current.intent.retry.lastErrorCode = some "background_credential_provision_pending")
    (haction : ∀ retry, (f retry).pendingAction = retry.pendingAction) :
    Wrote params current (.clearCredentialProvisioningBarrier current.intent.generation)
      (withRetry current f)
  | replaceStartOperation {replay : AndroidStartReplay} {errorCode : String}
    {nextRetryAtUnix scheduledDelaySeconds : Int} {transaction : AndroidLeaseTransaction}
    (hlease : current.leaseTransaction = some transaction) :
    Wrote params current (.replaceStartOperation current.intent.generation replay errorCode
      nextRetryAtUnix scheduledDelaySeconds)
      (withBoth current (newOperationRetry errorCode nextRetryAtUnix scheduledDelaySeconds)
        { transaction with
          phase := .startPending, leaseId := none, stopOperationId := none, replay := replay
          localStopPending := false })
  | closeAuthoritativeStartAndRestart {replay : AndroidStartReplay} {errorCode : String}
    {nextRetryAtUnix scheduledDelaySeconds : Int} {transaction : AndroidLeaseTransaction}
    (hlease : current.leaseTransaction = some transaction)
    (hdesired : current.intent.desiredActive = true)
    (hphase : transaction.phase = .startPending) (hleaseId : transaction.leaseId = none) :
    Wrote params current (.closeAuthoritativeStartAndRestart current.intent.generation replay
      errorCode nextRetryAtUnix scheduledDelaySeconds)
      (withBoth current (newOperationRetry errorCode nextRetryAtUnix scheduledDelaySeconds)
        { transaction with replay := replay, localStopPending := false })
  | schedule {call : StoreCall} {leaseId : String} {action : PendingAction}
    {transaction stopped : AndroidLeaseTransaction} {intent : AndroidConnectionIntent}
    (hcall : Schedules current.intent.generation leaseId call intent.desiredActive action)
    (hlease : current.leaseTransaction = some transaction)
    (hdesired : current.intent.desiredActive = true)
    (hleaseId : transaction.leaseId = some leaseId) (hstopped : stopped.leaseId = some leaseId)
    (hreplay : stopped.replay = transaction.replay) (hphase : stopped.phase = .cleanupPending)
    (hgeneration : intent.generation = current.intent.generation)
    (harmed : intent.armedHistory = current.intent.armedHistory)
    (htemplate : intent.template = current.intent.template)
    (haction : intent.retry.pendingAction = some action) :
    Wrote params current call { current with intent := intent, leaseTransaction := some stopped }
  | scheduleInitialTerminalReconcile {errorCode : String} {transaction : AndroidLeaseTransaction}
    {nextGeneration : Nat} (hlease : current.leaseTransaction = some transaction)
    (hphase : transaction.phase = .startPending) (hleaseId : transaction.leaseId = none)
    (hgeneration : checkedIncrement current.intent.generation = some nextGeneration) :
    Wrote params current (.scheduleInitialTerminalReconcile current.intent.generation errorCode)
      { initialTerminal current errorCode with
        intent := { (initialTerminal current errorCode).intent with generation := nextGeneration }
        leaseTransaction := some { transaction with generation := nextGeneration } }
  | acknowledgeInitialTerminalDiagnostic {episode : Option Nat}
    {f : AndroidRetryState → AndroidRetryState}
    (hdesired : current.intent.desiredActive = false)
    (haction : ∀ retry, (f retry).pendingAction = some .initialTerminalAfterCleanup) :
    Wrote params current (.acknowledgeInitialTerminalDiagnostic current.intent.generation episode)
      (withRetry current f)
  | requireCleanup {leaseId stopOperationId : String} {restartIfDesired : Bool}
    {transaction stopped : AndroidLeaseTransaction} {f : AndroidRetryState → AndroidRetryState}
    (hlease : current.leaseTransaction = some transaction)
    (hleaseId : transaction.leaseId = none ∨ transaction.leaseId = some leaseId)
    (hstopped : stopped.leaseId = some leaseId) (hreplay : stopped.replay = transaction.replay)
    (hphase : stopped.phase = .cleanupPending)
    (haction : ∀ retry, (f retry).pendingAction = retry.pendingAction ∨
      (f retry).pendingAction = some .newOperationAfterCleanup) :
    Wrote params current (.requireCleanup current.intent.generation leaseId stopOperationId
      restartIfDesired) (withBoth current f stopped)
  | completeCleanup {transaction : AndroidLeaseTransaction}
    (hlease : current.leaseTransaction = some transaction)
    (hphase : transaction.phase.cleaning = true) :
    Wrote params current (.completeCleanup current.intent.generation)
      (if current.intent.desiredActive then { current with leaseTransaction := none }
        else clearDisarmedEpisode current)
  | completeCleanupAsTerminal {transaction : AndroidLeaseTransaction}
    {f : AndroidRetryState → AndroidRetryState}
    (hlease : current.leaseTransaction = some transaction)
    (hterminal : terminalCleanup current transaction = true)
    (hcode : ∀ retry, (f retry).lastErrorCode = retry.lastErrorCode)
    (hretry : ∀ retry, (f retry).nextRetryAtUnix = none)
    (haction : ∀ retry, (f retry).pendingAction = none) :
    Wrote params current (.completeCleanupAsTerminal current.intent.generation)
      { withRetry current f with leaseTransaction := none }
  | completeInitialTerminalCleanup {transaction : AndroidLeaseTransaction}
    (hlease : current.leaseTransaction = some transaction)
    (hdesired : current.intent.desiredActive = false) :
    Wrote params current (.completeInitialTerminalCleanup current.intent.generation)
      (clearDisarmedEpisode current)
  | completeCleanupAndRestart {replay : AndroidStartReplay} {transaction : AndroidLeaseTransaction}
    {f : AndroidRetryState → AndroidRetryState}
    (hlease : current.leaseTransaction = some transaction)
    (hdesired : current.intent.desiredActive = true)
    (hphase : transaction.phase.cleaning = true)
    (haction : ∀ retry, (f retry).pendingAction = some .validateCapability) :
    Wrote params current (.completeCleanupAndRestart current.intent.generation replay)
      (withBoth current f
        { generation := current.intent.generation
          bootCount := current.intent.bootCount, phase := .startPending, leaseId := none
          stopOperationId := none, replay := replay })
  | completeCancelledStart {site : CancelSite} {transaction : AndroidLeaseTransaction}
    (hlease : current.leaseTransaction = some transaction)
    (hdesired : current.intent.desiredActive = false)
    (hphase : transaction.phase = .startPending) (hleaseId : transaction.leaseId = none) :
    Wrote params current (.completeCancelledStart site current.intent.generation)
      (clearDisarmedEpisode current)
  | promotePendingRedundant {pending : AndroidLeaseTransaction}
    {transaction : AndroidRedundantTransaction} {template : AndroidIntentTemplate}
    (hlease : current.leaseTransaction = some pending)
    (hredundant : current.redundantTransaction = none)
    (hoperation : transaction.startOperationId = pending.startOperationId)
    (hleaseId : pending.leaseId = none) (htemplate : current.intent.template = some template)
    (hrefreshed : refreshedTemplate template transaction.template = transaction.template) :
    Wrote params current (.promotePendingRedundant pending transaction)
      { current with
        intent := { current.intent with template := some transaction.template, retry := {} }
        leaseTransaction := none, redundantTransaction := some transaction }

section Inversion

lemma fenced_write (h : fenced current g k = .write next) :
    current.intent.generation = g ∧ k = .write next := by
  unfold fenced at h
  split at h
  · exact ⟨by assumption, h⟩
  · cases h

lemma onLease_write {k : AndroidLeaseTransaction → Change}
    (h : onLease current missing k = .write next) (hm : missing ≠ .write next) :
    ∃ lease, current.leaseTransaction = some lease ∧
      k lease = .write next := by
  unfold onLease at h
  split at h
  · exact absurd h hm
  · exact ⟨_, by assumption, h⟩

lemma unless_write [Decidable c] (h : (if c then .refuse code else k) = Change.write next) :
    ¬c ∧ k = .write next := by
  split at h
  · cases h
  · exact ⟨by assumption, h⟩

lemma fencedLease_write {k : AndroidLeaseTransaction → Change}
    (h : fenced current g (onLease current (.refuse code) k) = .write next) :
    current.intent.generation = g ∧
      ∃ lease, current.leaseTransaction = some lease ∧ k lease = .write next := by
  obtain ⟨hg, hk⟩ := fenced_write h
  exact ⟨hg, onLease_write hk (nofun)⟩

lemma mutateTransaction_write
    {mutation : AndroidLeaseTransaction → Option AndroidRecoveryEnvelope}
    (h : mutateTransaction current g mutation = .write next) :
    current.intent.generation = g ∧
      ∃ lease, current.leaseTransaction = some lease ∧
        mutation lease = some next := by
  obtain ⟨hg, lease, hl, hk⟩ := fencedLease_write h
  refine ⟨hg, lease, hl, ?_⟩
  split at hk
  · split at hk
    · cases hk
    · cases hk
      assumption
  · cases hk

lemma normalizeReplay_eq (h : normalizeReplay replay = some normalized) : normalized = replay := by
  unfold normalizeReplay at h
  split at h
  · exact (Option.some.inj h).symm
  · cases h

lemma isSome_of_notBlank {value : Option String} (h : notBlank value = true) :
    value.isSome = true := by
  cases value with
  | none => cases h
  | some => rfl

lemma stoppedLease_some {lease stopped : AndroidLeaseTransaction}
    (h : stoppedLease lease stopOperationId = some stopped) :
    stopped.leaseId = lease.leaseId ∧ stopped.replay = lease.replay ∧ stopped.phase =
      .cleanupPending := by
  unfold stoppedLease at h
  split at h
  · cases h
  · cases h
    exact ⟨rfl, rfl, rfl⟩

end Inversion

section Cases

lemma set_cases
    (hc : call = .setDesiredActive current.intent.generation desiredActive ∨
      desiredActive = false ∧
        (call = .cancelCurrentIntent ∨ call = .cancelCurrentIntentForQuickToggle))
    (hl : leaseLess = true → desiredActive = false)
    (h : setDesiredActiveLocked current desiredActive leaseLess = .write next) :
    Wrote params current call next := by
  unfold setDesiredActiveLocked at h
  split at h
  · cases h
  · obtain ⟨-, h⟩ := unless_write h
    split at h
    · rename_i hi
      obtain ⟨hd, h⟩ := unless_write h
      cases h
      exact .set hc (.inr ⟨hi, by simpa using hd, rfl, rfl⟩) hl
    · rename_i hi
      cases h
      exact .set hc (.inl ⟨hi, rfl⟩) hl

lemma beginStart_cases (h : beginStart params bootCount current g template replay = .write next) :
    Wrote params current (.beginStart g template replay) next := by
  obtain ⟨-, h⟩ := unless_write h
  obtain ⟨hr, h⟩ := unless_write h
  obtain ⟨rfl, hk⟩ := fenced_write h
  obtain ⟨hl, hk⟩ := unless_write hk
  split at hk
  · cases hk
  · rename_i hg
    split at hk
    · cases hk
    · split at hk
      · cases hk
      · split at hk
        · rename_i ht hre
          cases hk
          rw [normalizeReplay_eq hre]
          exact .beginStart (by simpa using hr) (by simpa using hl) hg ht
        · cases hk

lemma restartTerminal_cases
    (h : restartTerminal params current g template replay stopOperationId = .write next) :
    Wrote params current (.restartTerminal g template replay stopOperationId) next := by
  obtain ⟨hr, h⟩ := unless_write h
  obtain ⟨rfl, hk⟩ := fenced_write h
  obtain ⟨hgu, hk⟩ := unless_write hk
  split at hk
  · cases hk
  · rename_i hg
    split at hk
    · cases hk
    · split at hk
      · cases hk
      · rename_i hte
        split at hk
        · cases hk
        · rename_i ht
          cases hk
          simp only [Bool.or_eq_true, not_or, Bool.not_eq_true, Bool.not_eq_false'] at hgu
          exact .restartTerminal (by simpa using hr) hgu.1.1 hg hte ht

/-- Whatever a store function writes is a case of `Wrote`. -/
def Inverted (params : AndroidParameters) (current : AndroidRecoveryEnvelope) (call : StoreCall) :
    Prop :=
  ∀ {bootCount next}, call.change params bootCount current = .write next →
    Wrote params current call next

lemma completeLegacyRuntimeStop_cases : Inverted params current (.completeLegacyRuntimeStop g) := by
  intro _ _ h
  obtain ⟨rfl, hk⟩ := fenced_write h
  obtain ⟨hg, hk⟩ := unless_write hk
  cases hk
  simp only [Bool.or_eq_true, not_or, Bool.not_eq_true, Option.isSome_eq_false_iff,
    Option.isNone_iff_eq_none] at hg
  exact .completeLegacyRuntimeStop hg.1.1 hg.1.2

lemma recordLease_cases : Inverted params current (.recordLease g leaseId) := by
  intro _ _ h
  obtain ⟨rfl, _, hl, hk⟩ := mutateTransaction_write h
  split at hk
  · rename_i hg
    cases hk
    simp only [Bool.and_eq_true, decide_eq_true_eq] at hg
    exact .recordLease hl hg.1
  · cases hk

lemma activateCheckpoint_cases : Inverted params current (.activateCheckpoint g) := by
  intro _ _ h
  obtain ⟨rfl, _, hl, hk⟩ := mutateTransaction_write h
  split at hk
  · rename_i hg
    obtain ⟨_, -, rfl⟩ := Option.map_eq_some_iff.mp hk
    exact .activateCheckpoint hl hg.1 (isSome_of_notBlank hg.2)
  · cases hk

lemma recordFailure_cases :
    Inverted params current (.recordFailure g code next delay service profile once action) := by
  intro _ _ h
  obtain ⟨rfl, hk⟩ := fenced_write h
  split at hk
  · cases hk
    exact .recordFailure (fun _ => rfl) (fun _ => rfl) (fun _ => rfl)
  · cases hk

lemma recordTerminalCleanupRetry_cases :
    Inverted params current (.recordTerminalCleanupRetry g next delay) := by
  intro _ _ h
  obtain ⟨rfl, _, hl, hk⟩ := fencedLease_write h
  split at hk
  · cases hk
    exact .recordTerminalCleanupRetry hl (fun _ => rfl)
  · cases hk

lemma clearPendingRetryAction_cases : Inverted params current (.clearPendingRetryAction g) := by
  intro _ _ h
  obtain ⟨rfl, hk⟩ := fenced_write h
  cases hk
  exact .clearPendingRetryAction (fun _ => rfl) (fun _ => rfl) (fun _ => rfl)

lemma clearCredentialProvisioningBarrier_cases :
    Inverted params current (.clearCredentialProvisioningBarrier g) := by
  intro _ _ h
  obtain ⟨rfl, hk⟩ := fenced_write h
  split at hk
  · rename_i hco
    cases hk
    exact .clearCredentialProvisioningBarrier hco (fun _ => rfl)
  · cases hk

lemma replaceStartOperation_cases :
    Inverted params current (.replaceStartOperation g replay code next delay) := by
  intro _ _ h
  obtain ⟨rfl, _, hl, hk⟩ := fencedLease_write h
  split at hk
  · cases hk
  · rename_i hr
    split at hk
    · cases hk
      rw [normalizeReplay_eq hr]
      exact .replaceStartOperation hl
    · cases hk

lemma closeAuthoritativeStartAndRestart_cases :
    Inverted params current (.closeAuthoritativeStartAndRestart g replay code next delay) := by
  intro _ _ h
  obtain ⟨rfl, _, hl, hk⟩ := fencedLease_write h
  obtain ⟨hg, hk⟩ := unless_write hk
  split at hk
  · cases hk
  · rename_i hr
    split at hk
    · cases hk
      rw [normalizeReplay_eq hr]
      simp only [Bool.or_eq_true, not_or, Bool.not_eq_true, Bool.not_eq_false',
        bne_eq_false_iff_eq, Option.isSome_eq_false_iff, Option.isNone_iff_eq_none] at hg
      exact .closeAuthoritativeStartAndRestart hl hg.1.1 hg.1.2 hg.2
    · cases hk

lemma scheduleProfileRetryAfterCleanup_cases : Inverted params current
    (.scheduleProfileRetryAfterCleanup g leaseId stopOperationId code next delay) := by
  intro _ _ h
  obtain ⟨rfl, _, hl, hk⟩ := fencedLease_write h
  obtain ⟨-, hk⟩ := unless_write hk
  obtain ⟨hg, hk⟩ := unless_write hk
  split at hk
  · cases hk
    simp only [Bool.or_eq_true, not_or, Bool.not_eq_true, Bool.not_eq_false',
      bne_eq_false_iff_eq] at hg
    have hc := @Schedules.profile current.intent.generation leaseId stopOperationId code
      next delay
    rw [← hg.1.1] at hc
    exact .schedule hc hl hg.1.1 hg.1.2 hg.1.2 rfl rfl rfl rfl rfl rfl
  · cases hk

lemma scheduleStalledRecovery_cases : Inverted params current
    (.scheduleStalledRecovery g leaseId stopOperationId dynamicPoolBacked nowUnix) := by
  intro _ _ h
  obtain ⟨rfl, _, hl, hk⟩ := fencedLease_write h
  split at hk
  · cases hk
  · obtain ⟨hg, hk⟩ := unless_write hk
    obtain ⟨-, hk⟩ := unless_write hk
    split at hk
    · cases hk
    · cases hk
      simp only [Bool.or_eq_true, not_or, Bool.not_eq_true, Bool.not_eq_false',
        bne_eq_false_iff_eq] at hg
      have hc := @Schedules.stalled current.intent.generation leaseId stopOperationId dynamicPoolBacked nowUnix
      rw [← hg.1.1.1] at hc
      exact .schedule hc hl hg.1.1.1 hg.2 rfl rfl rfl rfl rfl rfl rfl

lemma scheduleTerminalAfterCleanup_cases :
    Inverted params current (.scheduleTerminalAfterCleanup g leaseId stopOperationId code) := by
  intro _ _ h
  obtain ⟨rfl, _, hl, hk⟩ := fencedLease_write h
  obtain ⟨-, hk⟩ := unless_write hk
  obtain ⟨hg, hk⟩ := unless_write hk
  split at hk
  · rename_i hs
    cases hk
    obtain ⟨hi, hr, hp⟩ := stoppedLease_some hs
    simp only [Bool.or_eq_true, not_or, Bool.not_eq_true, Bool.not_eq_false',
      bne_eq_false_iff_eq] at hg
    have hc := @Schedules.terminal current.intent.generation leaseId stopOperationId code
    rw [← hg.1.1.1] at hc
    exact .schedule hc hl hg.1.1.1 hg.1.2 (hi.trans hg.1.2) hr hp rfl rfl rfl rfl
  · cases hk

lemma scheduleInitialTerminalAfterCleanup_cases : Inverted params current
    (.scheduleInitialTerminalAfterCleanup g leaseId stopOperationId code) := by
  intro _ _ h
  obtain ⟨rfl, _, hl, hk⟩ := fencedLease_write h
  obtain ⟨-, hk⟩ := unless_write hk
  obtain ⟨hg, hk⟩ := unless_write hk
  split at hk
  · rename_i hs
    cases hk
    obtain ⟨hi, hr, hp⟩ := stoppedLease_some hs
    simp only [Bool.or_eq_true, not_or, Bool.not_eq_true, Bool.not_eq_false',
      bne_eq_false_iff_eq] at hg
    exact .schedule (.initial _ _) hl hg.1.1.1 hg.1.2 (hi.trans hg.1.2) hr hp rfl rfl rfl rfl
  · cases hk

lemma scheduleInitialTerminalReconcile_cases :
    Inverted params current (.scheduleInitialTerminalReconcile g code) := by
  intro _ _ h
  obtain ⟨rfl, _, hl, hk⟩ := fencedLease_write h
  obtain ⟨hg, hk⟩ := unless_write hk
  obtain ⟨-, hk⟩ := unless_write hk
  split at hk
  · cases hk
  · rename_i hge
    cases hk
    simp only [Bool.or_eq_true, not_or, Bool.not_eq_true, Bool.not_eq_false',
      bne_eq_false_iff_eq, Option.isSome_eq_false_iff, Option.isNone_iff_eq_none] at hg
    exact .scheduleInitialTerminalReconcile hl hg.1.2 hg.2 hge

lemma acknowledgeInitialTerminalDiagnostic_cases :
    Inverted params current (.acknowledgeInitialTerminalDiagnostic g episode) := by
  intro _ _ h
  obtain ⟨rfl, hk⟩ := fenced_write h
  obtain ⟨-, hk⟩ := unless_write hk
  obtain ⟨hg, hk⟩ := unless_write hk
  cases hk
  simp only [Bool.or_eq_true, not_or, Bool.not_eq_true] at hg
  exact .acknowledgeInitialTerminalDiagnostic hg.1.1.1.1 (fun _ => rfl)

lemma requireCleanup_cases :
    Inverted params current (.requireCleanup g leaseId stopOperationId restartIfDesired) := by
  intro _ _ h
  obtain ⟨rfl, _, hl, hk⟩ := mutateTransaction_write h
  split at hk
  · rename_i hg
    obtain ⟨_, hs, rfl⟩ := Option.map_eq_some_iff.mp hk
    obtain ⟨-, hr, hp⟩ := stoppedLease_some hs
    simp only [Bool.and_eq_true, Bool.or_eq_true, Option.isNone_iff_eq_none, beq_iff_eq] at hg
    split
    · exact .requireCleanup hl hg.2 rfl hr hp (fun _ => .inr rfl)
    · exact .requireCleanup (f := id) hl hg.2 rfl hr hp (fun _ => .inl rfl)
  · cases hk

lemma completeCleanup_cases : Inverted params current (.completeCleanup g) := by
  intro _ _ h
  obtain ⟨rfl, hk⟩ := fenced_write h
  obtain ⟨_, hl, hk⟩ := onLease_write hk (nofun)
  split at hk
  · rename_i hp
    cases hk
    exact .completeCleanup hl hp
  · cases hk

lemma completeCleanupAsTerminal_cases : Inverted params current (.completeCleanupAsTerminal g) := by
  intro _ _ h
  obtain ⟨rfl, _, hl, hk⟩ := fencedLease_write h
  split at hk
  · rename_i hte
    cases hk
    exact .completeCleanupAsTerminal hl hte (fun _ => rfl) (fun _ => rfl) (fun _ => rfl)
  · cases hk

lemma completeInitialTerminalCleanup_cases :
    Inverted params current (.completeInitialTerminalCleanup g) := by
  intro _ _ h
  obtain ⟨rfl, _, hl, hk⟩ := fencedLease_write h
  obtain ⟨hg, hk⟩ := unless_write hk
  cases hk
  simp only [Bool.or_eq_true, not_or, Bool.not_eq_true] at hg
  exact .completeInitialTerminalCleanup hl hg.1.1.1

lemma completeCleanupAndRestart_cases :
    Inverted params current (.completeCleanupAndRestart g replay) := by
  intro _ _ h
  obtain ⟨rfl, _, hl, hk⟩ := fencedLease_write h
  obtain ⟨hg, hk⟩ := unless_write hk
  split at hk
  · cases hk
  · rename_i hr
    cases hk
    rw [normalizeReplay_eq hr]
    simp only [Bool.or_eq_true, not_or, Bool.not_eq_true, Bool.not_eq_false'] at hg
    exact .completeCleanupAndRestart hl hg.1 hg.2 (fun _ => rfl)

lemma completeCancelledStart_cases : Inverted params current (.completeCancelledStart site g) := by
  intro _ _ h
  obtain ⟨rfl, hk⟩ := fenced_write h
  obtain ⟨_, hl, hk⟩ := onLease_write hk (nofun)
  obtain ⟨hg, hk⟩ := unless_write hk
  obtain ⟨hd, hk⟩ := unless_write hk
  cases hk
  simp only [Bool.or_eq_true, not_or, Bool.not_eq_true, bne_eq_false_iff_eq,
    Option.isSome_eq_false_iff, Option.isNone_iff_eq_none] at hg
  exact .completeCancelledStart hl (by simpa using hd) hg.1 hg.2

lemma promotePendingRedundant_cases :
    Inverted params current (.promotePendingRedundant pending transaction) := by
  intro _ _ h
  obtain ⟨hg, h⟩ := unless_write h
  cases h
  simp only [Bool.or_eq_true, not_or, Bool.not_eq_true, bne_eq_false_iff_eq,
    Option.isSome_eq_false_iff, Option.isNone_iff_eq_none] at hg
  obtain ⟨⟨⟨⟨⟨⟨⟨⟨⟨⟨⟨-, -⟩, hl⟩, hre⟩, -⟩, hle⟩, -⟩, -⟩, hm⟩, ho⟩, -⟩, -⟩ := hg
  obtain ⟨_, ht, hrf⟩ := Option.map_eq_some_iff.mp hm
  exact .promotePendingRedundant hl hre ho hle ht hrf

lemma change_cases (h : call.change params bootCount current = .write next) :
    Wrote params current call next := by
  cases call with
  | read => cases h
  | beginStart => exact beginStart_cases h
  | setDesiredActive =>
    obtain ⟨rfl, hk⟩ := fenced_write h
    exact set_cases (.inl rfl) (Bool.noConfusion ·) hk
  | cancelCurrentIntent => exact set_cases (.inr ⟨rfl, .inl rfl⟩) (fun _ => rfl) h
  | cancelCurrentIntentForQuickToggle =>
    exact set_cases (.inr ⟨rfl, .inr rfl⟩) (fun _ => rfl) h
  | completeLegacyRuntimeStop => exact completeLegacyRuntimeStop_cases h
  | restartTerminal => exact restartTerminal_cases h
  | recordLease => exact recordLease_cases h
  | activateCheckpoint => exact activateCheckpoint_cases h
  | recordFailure => exact recordFailure_cases h
  | recordTerminalCleanupRetry => exact recordTerminalCleanupRetry_cases h
  | clearPendingRetryAction => exact clearPendingRetryAction_cases h
  | clearCredentialProvisioningBarrier => exact clearCredentialProvisioningBarrier_cases h
  | replaceStartOperation => exact replaceStartOperation_cases h
  | closeAuthoritativeStartAndRestart => exact closeAuthoritativeStartAndRestart_cases h
  | scheduleProfileRetryAfterCleanup => exact scheduleProfileRetryAfterCleanup_cases h
  | scheduleStalledRecovery => exact scheduleStalledRecovery_cases h
  | scheduleTerminalAfterCleanup => exact scheduleTerminalAfterCleanup_cases h
  | scheduleInitialTerminalAfterCleanup => exact scheduleInitialTerminalAfterCleanup_cases h
  | scheduleInitialTerminalReconcile => exact scheduleInitialTerminalReconcile_cases h
  | acknowledgeInitialTerminalDiagnostic => exact acknowledgeInitialTerminalDiagnostic_cases h
  | requireCleanup => exact requireCleanup_cases h
  | completeCleanup => exact completeCleanup_cases h
  | completeCleanupAsTerminal => exact completeCleanupAsTerminal_cases h
  | completeInitialTerminalCleanup => exact completeInitialTerminalCleanup_cases h
  | completeCleanupAndRestart => exact completeCleanupAndRestart_cases h
  | completeCancelledStart => exact completeCancelledStart_cases h
  | promotePendingRedundant => exact promotePendingRedundant_cases h

end Cases

section Keeping

/-- What an empty record has, a stale record keeps and every allowed write keeps, holds of what a
store function leaves and answers. -/
lemma run_keeps {I : AndroidRecoveryEnvelope → Prop} (he : ∀ bootCount, I (.empty bootCount))
    (hst : ∀ current bootCount, I current → I (staleAfterBootChange current bootCount))
    (hw : ∀ current next, Reads stored current → I current → Wrote params current call next →
      validateEnvelope params next = true → I next)
    (hI : ∀ current, stored = some current → I current)
    (h : call.run params i stored = (result, stored')) :
    (∀ current, stored' = some current → I current) ∧
      ∀ current, result = .success current → I current := by
  have hra : ∀ current, Reads stored current → I current := by
    intro current hr
    cases hr with
    | empty bootCount => exact he bootCount
    | current => exact hI _ rfl
    | stale => exact hst _ _ (hI _ rfl)
  have hdr : Drifted stored stored' → ∀ current, stored' = some current → I current := by
    intro hd current hs
    cases hd with
    | refl => exact hI current hs
    | stale =>
      cases hs
      exact hst _ _ (hI _ rfl)
  cases run_cases h with
  | broken code hd | refused code hd | thrown hd =>
    refine ⟨hdr hd, ?_⟩
    intro _ hre
    cases hre
  | same bootCount hr hd =>
    refine ⟨hdr hd, ?_⟩
    rintro _ ⟨⟩
    exact hra _ hr
  | wrote bootCount hr hc hv =>
    have hn := hw _ _ hr (hra _ hr) (change_cases hc) hv
    refine ⟨?_, ?_⟩
    · rintro _ ⟨⟩
      exact hn
    · rintro _ ⟨⟩
      exact hn

end Keeping

end NelomaiClient.AndroidRecoverySteps
