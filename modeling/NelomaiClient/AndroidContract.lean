import NelomaiClient.AndroidCoordinator
import NelomaiClient.AndroidRecoverySteps
import NelomaiClient.AwaitFootprint

/-!
# What the threads of the Android service promise each other

The record keeps an invariant. A thread outside the operation gate keeps the
lease transaction and its replay, so the thread inside may rely on what it has
read; generations and stored cancellations only grow. Three switches select the
parts of the invariant that need a condition on the steps.
-/

namespace NelomaiClient.AndroidContract

open AndroidRecovery AndroidRecoveryStore AndroidRecoverySteps AndroidCoordinator
open AwaitRely

def startOf (replay : AndroidStartReplay) : Nat × String :=
  (replay.contractVersion, replay.requestFingerprint)

def templateStart (params : AndroidParameters) (template : AndroidIntentTemplate) : Nat × String :=
  startOf (template.replay params "")

def Live (e : AndroidRecoveryEnvelope) : Prop :=
  e.intent.desiredActive = true →
    e.leaseTransaction.isSome = true ∨ e.redundantTransaction.isSome = true

section Record

variable (params : AndroidParameters) (fits owner fresh : Prop)

/-- The invariant of the record: under `fits` starts match their template, under `owner` a
desired intent is not orphaned, under `fresh` a desired operation of the second contract is not
cleaned up. -/
structure Sane (e : AndroidRecoveryEnvelope) : Prop where
  matched : fits → ∀ template transaction, e.intent.template = some template →
    e.leaseTransaction = some transaction →
    startOf transaction.replay = templateStart params template
  /-- A desired intent without a session has a transaction or is terminal. -/
  owned : owner → e.intent.desiredActive = true → e.redundantTransaction = none →
    e.leaseTransaction.isSome = true ∨ e.isTerminalConnectionIntent = true
  /-- The stop of a legacy tunnel is pending only where nothing is orphaned. -/
  legacy : owner → e.intent.retry.pendingAction = some .legacyRuntimeStop → Live e
  /-- A terminal failure waits for its cleanup only after the tunnel was up. -/
  armed : e.intent.retry.pendingAction = some .terminalAfterCleanup → e.intent.armedHistory = true
  /-- An operation of the second contract has no lease of its own. -/
  second : fresh → ∀ transaction, e.leaseTransaction = some transaction →
    transaction.replay.contractVersion = 2 →
    transaction.leaseId = none ∧
    (e.intent.desiredActive = true → transaction.phase.cleaning = false)

def Permits (call : StoreCall) (e : AndroidRecoveryEnvelope) : Prop :=
  match call with
  | .beginStart _ template replay => startOf replay = templateStart params template
  | .restartTerminal _ template replay _ =>
    startOf replay = templateStart params template ∧
      ∀ transaction, e.leaseTransaction = some transaction →
        (fits → startOf transaction.replay = templateStart params template) ∧
          (fresh → transaction.replay.contractVersion ≠ 2)
  | .setDesiredActive _ desiredActive => desiredActive = false
  | .recordFailure _ _ _ _ _ _ _ _ | .clearPendingRetryAction _ => owner → Live e
  | .clearCredentialProvisioningBarrier _ =>
    owner → e.intent.retry.lastErrorCode = some "background_credential_provision_pending" → Live e
  | .replaceStartOperation _ replay _ _ _ | .closeAuthoritativeStartAndRestart _ replay _ _ _
  | .completeCleanupAndRestart _ replay =>
    ∀ transaction, e.leaseTransaction = some transaction →
      startOf replay = startOf transaction.replay
  | .recordLease _ _ | .requireCleanup _ _ _ _ =>
    fresh → ∀ transaction, e.leaseTransaction = some transaction →
      transaction.replay.contractVersion ≠ 2
  | .completeCleanup _ => owner → e.intent.desiredActive = false
  | _ => True

variable {params fits owner fresh} {e : AndroidRecoveryEnvelope} {call : StoreCall}

lemma live_of_lease (h : e.leaseTransaction = some lease) : Live e := by
  intro _
  rw [h]
  exact .inl rfl

lemma live_of_disarmed (h : e.intent.desiredActive = false) : Live e := by
  intro hd
  rw [h] at hd
  cases hd

lemma templateStart_normalized (h : normalizeTemplate params template = some normalized) :
    templateStart params normalized = templateStart params template := by
  obtain ⟨_, -, h⟩ := Option.bind_eq_some_iff.mp h
  split at h
  · cases h
    rfl
  · cases h

lemma sane_empty (bootCount : Nat) : Sane params fits owner fresh (.empty bootCount) where
  matched _ _ _ ht := nomatch ht
  owned _ hd := nomatch hd
  legacy _ ha := nomatch ha
  armed ha := nomatch ha
  second _ _ hl := nomatch hl

variable {bootCount : Nat}

lemma sane_stale (h : Sane params fits owner fresh current) :
    Sane params fits owner fresh (staleAfterBootChange current bootCount) where
  matched hm template lease ht hl := by
    obtain ⟨before, hb, rfl⟩ := Option.map_eq_some_iff.mp hl
    exact h.matched hm template before ht hb
  owned _ hd := nomatch hd
  legacy _ ha := nomatch ha
  armed ha := nomatch ha
  second hq lease hl hc := by
    obtain ⟨before, hb, rfl⟩ := Option.map_eq_some_iff.mp hl
    exact ⟨(h.second hq before hb hc).1, fun hd => nomatch hd⟩

/-- A lease of a terminal restart: the old replay, to be cleaned up, or the new one. -/
lemma restartedLease_some
    (h : restartedLease current nextGeneration replay stopOperationId = some lease) :
    (∃ before, current.leaseTransaction = some before ∧ lease.replay = before.replay ∧
      lease.leaseId = before.leaseId ∧ lease.phase.cleaning =
      true) ∨ current.leaseTransaction = none ∧ lease.replay = replay ∧ lease.leaseId = none ∧
        lease.phase = .startPending := by
  unfold restartedLease at h
  split at h
  · rename_i before hb
    dsimp only at h
    split at h
    · cases h
    · cases h
      refine .inl ⟨before, hb, rfl, rfl, ?_⟩
      cases before.leaseId <;> rfl
  · rename_i hno
    obtain ⟨_, hn, rfl⟩ := Option.map_eq_some_iff.mp h
    exact .inr ⟨hno, normalizeReplay_eq hn, rfl, rfl⟩

lemma matched_wrote (h : Sane params fits owner fresh current)
    (hp : Permits params fits owner fresh call current)
    (hw : Wrote params current call next) (hm : fits) (template : AndroidIntentTemplate)
    (lease : AndroidLeaseTransaction) (ht : next.intent.template = some template)
    (hl : next.leaseTransaction = some lease) :
    startOf lease.replay = templateStart params template := by
  have hs : ∀ before, current.intent.template = some template →
      current.leaseTransaction = some before → lease.replay = before.replay →
      startOf lease.replay = templateStart params template := by
    intro before ht hb hr
    rw [hr]
    exact h.matched hm template before ht hb
  cases hw with
  | beginStart hre hno hg hn =>
    cases ht
    cases hl
    exact hp.trans (templateStart_normalized hn).symm
  | set =>
    obtain ⟨before, hb, rfl⟩ := Option.map_eq_some_iff.mp hl
    exact hs before ht hb rfl
  | completeLegacyRuntimeStop | completeCleanupAsTerminal | completeInitialTerminalCleanup
  | completeCancelledStart | promotePendingRedundant =>
    cases hl
  | restartTerminal hre hd hg hn htr =>
    cases ht
    cases hl
    rw [templateStart_normalized hn]
    rcases restartedLease_some htr with ⟨before, hb, hr, -⟩ | ⟨-, hr, -⟩
    · rw [hr]
      exact (hp.2 before hb).1 hm
    · rw [hr]
      exact hp.1
  | recordLease hb | activateCheckpoint hb | scheduleInitialTerminalReconcile hb =>
    cases hl
    exact hs _ ht hb rfl
  | replaceStartOperation hb | closeAuthoritativeStartAndRestart hb
  | completeCleanupAndRestart hb =>
    cases hl
    exact (hp _ hb).trans (h.matched hm template _ ht hb)
  | schedule hc hb hd hle hst hr hph hg ha hk =>
    cases hl
    exact hs _ (hk.symm.trans ht) hb hr
  | requireCleanup hb hle hst hr =>
    cases hl
    exact hs _ ht hb hr
  | completeCleanup =>
    split at hl
    · cases hl
    · cases hl
  | _ => exact hs lease ht hl rfl

lemma terminal_completed
    (har : current.intent.retry.pendingAction = some .terminalAfterCleanup →
      current.intent.armedHistory = true)
    (ht : terminalCleanup current lease = true)
    (hc : ∀ retry, (f retry).lastErrorCode = retry.lastErrorCode)
    (hr : ∀ retry, (f retry).nextRetryAtUnix = none)
    (ha : ∀ retry, (f retry).pendingAction = none) :
    ({ withRetry current f with leaseTransaction := none } :
      AndroidRecoveryEnvelope).isTerminalConnectionIntent = true := by
  simp only [terminalCleanup, Bool.and_eq_true, beq_iff_eq] at ht
  obtain ⟨⟨⟨hd, he⟩, hp⟩, -⟩ := ht
  simp only [AndroidRecoveryEnvelope.isTerminalConnectionIntent, withRetry, hc, hr, ha,
    hd, har hp, he]
  rfl

lemma live_wrote (h : Sane params fits owner fresh current)
    (hp : Permits params fits owner fresh call current)
    (hw : Wrote params current call next) (hl : owner) :
    Live next ∨ next.isTerminalConnectionIntent = true ∧
      next.intent.retry.pendingAction ≠ some .legacyRuntimeStop := by
  cases hw with
  | @set _ desiredActive _ _ _ hca =>
    have hf : desiredActive = false := by
      rcases hca with rfl | ⟨hf, -⟩
      · exact hp
      · exact hf
    exact .inl (live_of_disarmed hf)
  | completeLegacyRuntimeStop | completeInitialTerminalCleanup | completeCancelledStart =>
    exact .inl (live_of_disarmed rfl)
  | recordFailure | clearPendingRetryAction => exact .inl (hp hl)
  | recordTerminalCleanupRetry hb => exact .inl (live_of_lease hb)
  | clearCredentialProvisioningBarrier hc => exact .inl (hp hl hc)
  | acknowledgeInitialTerminalDiagnostic hd =>
    exact .inl (live_of_disarmed hd)
  | completeCleanup =>
    rw [hp hl]
    exact .inl (live_of_disarmed rfl)
  | completeCleanupAsTerminal hb ht hc hr ha =>
    refine .inr ⟨terminal_completed h.armed ht hc hr ha, fun hle => ?_⟩
    exact absurd ((ha current.intent.retry).symm.trans hle) (nofun)
  | promotePendingRedundant =>
    exact .inl fun _ => .inr rfl
  | _ => exact .inl (live_of_lease rfl)

lemma second_wrote (h : Sane params fits owner fresh current)
    (hp : Permits params fits owner fresh call current)
    (hw : Wrote params current call next) (hq : fresh) (lease : AndroidLeaseTransaction)
    (hle : next.leaseTransaction = some lease)
    (hc : lease.replay.contractVersion = 2) :
    lease.leaseId = none ∧
      (next.intent.desiredActive = true → lease.phase.cleaning = false) := by
  have hs := h.second hq
  have hpe : lease.phase = .startPending → lease.phase.cleaning = false := by
    intro hph
    rw [hph]
    rfl
  cases hw with
  | beginStart | replaceStartOperation | completeCleanupAndRestart =>
    cases hle
    exact ⟨rfl, fun _ => rfl⟩
  | @set _ desiredActive _ _ _ hca =>
    obtain ⟨before, hb, rfl⟩ := Option.map_eq_some_iff.mp hle
    have hf : desiredActive = false := by
      rcases hca with rfl | ⟨hf, -⟩
      · exact hp
      · exact hf
    refine ⟨(hs before hb hc).1, fun hd => ?_⟩
    exact absurd (hd.symm.trans hf) (nofun)
  | completeLegacyRuntimeStop | completeCleanupAsTerminal | completeInitialTerminalCleanup
  | completeCancelledStart | promotePendingRedundant =>
    cases hle
  | restartTerminal hre hd hg hn ht =>
    cases hle
    rcases restartedLease_some ht with
      ⟨before, hb, hr, -⟩ | ⟨-, -, hl, hph⟩
    · rw [hr] at hc
      exact absurd hc ((hp.2 before hb).2 hq)
    · exact ⟨hl, fun _ => hpe hph⟩
  | recordLease hb =>
    cases hle
    exact (hp hq _ hb hc).elim
  | activateCheckpoint hb hph hl =>
    cases hle
    rw [(hs _ hb hc).1] at hl
    cases hl
  | closeAuthoritativeStartAndRestart hb hd hph hl =>
    cases hle
    exact ⟨hl, fun _ => hpe hph⟩
  | schedule hca hb hd hl hst hr =>
    cases hle
    rw [hr] at hc
    rw [(hs _ hb hc).1] at hl
    cases hl
  | scheduleInitialTerminalReconcile hb hph hl =>
    cases hle
    exact ⟨hl, fun hd => nomatch hd⟩
  | requireCleanup hb hl hst hr =>
    cases hle
    rw [hr] at hc
    exact absurd hc (hp hq _ hb)
  | completeCleanup =>
    split at hle
    · cases hle
    · cases hle
  | _ => exact hs lease hle hc

lemma armed_of_valid (h : validateEnvelope params e = true)
    (ha : e.intent.retry.pendingAction = some .terminalAfterCleanup) :
    e.intent.armedHistory = true := by
  have hc := (Bool.and_eq_true_iff.mp h).2
  simp only [validateAction, ha] at hc
  split at hc
  · cases hc
  · simp only [Bool.and_eq_true] at hc
    exact hc.1.1.1.1.2

lemma sane_of_valid (h : validateEnvelope params e = true) :
    Sane params False False False e where
  matched := False.elim
  owned := False.elim
  legacy := False.elim
  armed := armed_of_valid h
  second := False.elim

lemma sane_wrote (h : Sane params fits owner fresh current)
    (hp : Permits params fits owner fresh call current)
    (hw : Wrote params current call next) (hv : validateEnvelope params next = true) :
    Sane params fits owner fresh next where
  matched := matched_wrote h hp hw
  owned hl hd hr := by
    rcases live_wrote h hp hw hl with hli | ⟨ht, -⟩
    · refine (hli hd).imp_right fun hs => ?_
      rw [hr] at hs
      cases hs
    · exact .inr ht
  legacy hl ha := by
    rcases live_wrote h hp hw hl with hli | ⟨-, ho⟩
    · exact hli
    · exact absurd ha ho
  armed := armed_of_valid hv
  second := second_wrote h hp hw

lemma permits_stale (h : Permits params fits owner fresh call current) :
    Permits params fits owner fresh call (staleAfterBootChange current bootCount) := by
  have hba : ∀ lease,
      (staleAfterBootChange current bootCount).leaseTransaction = some lease →
      ∃ before, current.leaseTransaction = some before ∧ lease.replay = before.replay := by
    intro _ hl
    obtain ⟨before, hb, rfl⟩ := Option.map_eq_some_iff.mp hl
    exact ⟨before, hb, rfl⟩
  have hli : Live (staleAfterBootChange current bootCount) := live_of_disarmed rfl
  cases call with
  | restartTerminal =>
    refine ⟨h.1, fun lease hl => ?_⟩
    obtain ⟨before, hb, hr⟩ := hba lease hl
    rw [hr]
    exact h.2 before hb
  | recordFailure | clearPendingRetryAction => exact fun _ => hli
  | clearCredentialProvisioningBarrier => exact fun _ _ => hli
  | replaceStartOperation | closeAuthoritativeStartAndRestart | completeCleanupAndRestart =>
    intro lease hl
    obtain ⟨before, hb, hr⟩ := hba lease hl
    rw [hr]
    exact h before hb
  | recordLease | requireCleanup =>
    intro hq lease hl
    obtain ⟨before, hb, hr⟩ := hba lease hl
    rw [hr]
    exact h hq before hb
  | completeCleanup => exact fun _ => rfl
  | beginStart | setDesiredActive => exact h
  | _ => exact trivial

lemma permits_reads {stored : Option AndroidRecoveryEnvelope}
    (h : Permits params fits owner fresh call (stored.getD (.empty 0)))
    (hr : Reads stored current) :
    Permits params fits owner fresh call current := by
  cases hr with
  | empty => cases call <;> exact h
  | current => exact h
  | stale => exact permits_stale h

end Record

section Sharing

variable {params : AndroidParameters} {before after : AndroidRecoveryEnvelope} {call : StoreCall}
  {σ : Nat × String}

structure Kept (before after : AndroidRecoveryEnvelope) : Prop where
  /-- The lease transaction stays, with its operation and its lease. -/
  lease : ∀ transaction, before.leaseTransaction = some transaction →
    ∃ transaction', after.leaseTransaction = some transaction' ∧
      transaction'.replay = transaction.replay ∧ transaction'.leaseId = transaction.leaseId ∧
      (transaction.phase.cleaning = true → transaction'.phase.cleaning = true)
  promoted : before.leaseTransaction = none → before.redundantTransaction.isSome = true →
    after.leaseTransaction = none ∧ after.redundantTransaction.isSome = true
  live : Live before → Live after

lemma Kept.refl (e : AndroidRecoveryEnvelope) : Kept e e where
  lease transaction h := ⟨transaction, h, rfl, rfl, id⟩
  promoted hl hr := ⟨hl, hr⟩
  live := id

lemma Kept.trans (h1 : Kept before middle) (h2 : Kept middle after) : Kept before after where
  lease transaction h := by
    obtain ⟨transaction1, hl1, hre1, hle1, hp1⟩ := h1.lease transaction h
    obtain ⟨transaction2, hl2, hre2, hle2, hp2⟩ := h2.lease transaction1 hl1
    exact ⟨transaction2, hl2, hre2.trans hre1, hle2.trans hle1, fun hp => hp2 (hp1 hp)⟩
  promoted hl hr := by
    obtain ⟨hl1, hr1⟩ := h1.promoted hl hr
    exact h2.promoted hl1 hr1
  live hli := h2.live (h1.live hli)

lemma Kept.retry (f : AndroidRetryState → AndroidRetryState) : Kept current (withRetry current f)
    where
  lease transaction h := ⟨transaction, h, rfl, rfl, id⟩
  promoted hl hr := ⟨hl, hr⟩
  live := id

lemma kept_stale (bootCount : Nat) : Kept current (staleAfterBootChange current bootCount) where
  lease transaction h := by
    refine ⟨_, congrArg (Option.map _) h, rfl, rfl, fun _ => rfl⟩
  promoted hl hr := by
    refine ⟨congrArg (Option.map _) hl, ?_⟩
    show (current.redundantTransaction.map disarmed).isSome = true
    rw [Option.isSome_map]
    exact hr
  live _ := live_of_disarmed rfl

def Outside : StoreCall → Prop
  | .read | .beginStart _ _ _ | .restartTerminal _ _ _ _ | .cancelCurrentIntent
  | .cancelCurrentIntentForQuickToggle | .scheduleStalledRecovery _ _ _ _ _
  | .clearCredentialProvisioningBarrier _ | .acknowledgeInitialTerminalDiagnostic _ _ => True
  | .setDesiredActive _ desiredActive => desiredActive = false
  | _ => False

lemma kept_wrote (hc : Outside call) (hw : Wrote params current call next) :
    Kept current next := by
  cases hw with
  | beginStart hr hn =>
    refine ⟨fun lease h => ?_, fun _ hs => ?_, fun _ => live_of_lease rfl⟩
    · rw [hn] at h
      cases h
    · rw [hr] at hs
      cases hs
  | @set _ desiredActive _ _ _ hse =>
    have hf : desiredActive = false := by
      rcases hse with rfl | ⟨hf, -⟩
      · exact hc
      · exact hf
    refine ⟨fun lease h => ?_, fun hle hs => ?_, fun _ => live_of_disarmed hf⟩
    · refine ⟨_, congrArg (Option.map _) h, rfl, rfl, fun hp => ?_⟩
      show LeasePhase.cleaning (if _ then _ else _) = true
      split
      · rfl
      · exact hp
    · refine ⟨congrArg (Option.map _) hle, ?_⟩
      show (Option.map _ current.redundantTransaction).isSome = true
      rw [Option.isSome_map]
      exact hs
  | restartTerminal hr hd hg hno ht =>
    refine ⟨fun lease h => ?_, fun _ hs => ?_, fun _ => live_of_lease rfl⟩
    · rcases restartedLease_some ht with
        ⟨before, hb, hre, hl, hp⟩ | ⟨hn, -⟩
      · rw [h] at hb
        cases hb
        exact ⟨_, rfl, hre, hl, fun _ => hp⟩
      · rw [hn] at h
        cases h
    · rw [hr] at hs
      cases hs
  | schedule hse hb hd hl hst hre hp =>
    refine ⟨fun lease h => ?_, fun hn => ?_, fun _ => live_of_lease rfl⟩
    · rw [h] at hb
      cases hb
      refine ⟨_, rfl, hre, hst.trans hl.symm, fun _ => ?_⟩
      rw [hp]
      rfl
    · rw [hn] at hb
      cases hb
  | clearCredentialProvisioningBarrier | acknowledgeInitialTerminalDiagnostic => exact .retry _
  | _ => exact hc.elim

/-- The thread inside the gate owns a lease of this start, or has promoted it. -/
def Owned (σ : Nat × String) (e : AndroidRecoveryEnvelope) : Prop :=
  (∃ transaction, e.leaseTransaction = some transaction ∧ startOf transaction.replay = σ) ∨
    e.leaseTransaction = none ∧ e.redundantTransaction.isSome = true

lemma Owned.live (h : Owned σ current) : Live current := by
  rcases h with ⟨_, hl, -⟩ | ⟨-, hr⟩
  · exact live_of_lease hl
  · exact fun _ => .inr hr

lemma Owned.start (h : Owned σ current) (hl : current.leaseTransaction = some lease) :
    startOf lease.replay = σ := by
  rcases h with ⟨_, hl', hs⟩ | ⟨hn, -⟩
  · rw [hl] at hl'
    cases hl'
    exact hs
  · rw [hl] at hn
    cases hn

lemma Owned.kept (h : Owned σ before) (hk : Kept before after) : Owned σ after := by
  rcases h with ⟨lease, hl, hs⟩ | ⟨hn, hr⟩
  · obtain ⟨lease', hl', hre, -⟩ := hk.lease lease hl
    refine .inl ⟨lease', hl', ?_⟩
    rw [hre]
    exact hs
  · exact .inr (hk.promoted hn hr)

/-- Store functions after which the thread inside the gate still owns its start. -/
@[reducible]
def Inside (fresh : Prop) (σ : Nat × String) : StoreCall → Prop
  | .replaceStartOperation _ replay _ _ _ | .closeAuthoritativeStartAndRestart _ replay _ _ _
  | .completeCleanupAndRestart _ replay => startOf replay = σ
  | .recordLease _ _ | .requireCleanup _ _ _ _ => fresh → σ.1 ≠ 2
  | .read | .activateCheckpoint _ | .recordFailure _ _ _ _ _ _ _ _
  | .recordTerminalCleanupRetry _ _ _ | .clearPendingRetryAction _
  | .scheduleProfileRetryAfterCleanup _ _ _ _ _ _ | .scheduleTerminalAfterCleanup _ _ _ _
  | .scheduleInitialTerminalAfterCleanup _ _ _ _ | .scheduleInitialTerminalReconcile _ _
  | .promotePendingRedundant _ _ => True
  | _ => False

lemma Owned.wrote (h : Owned σ current) (hc : Inside fresh σ call)
    (hw : Wrote params current call next) : Owned σ next := by
  have hsame : ∀ lease lease', current.leaseTransaction = some lease →
      next.leaseTransaction = some lease' → lease'.replay = lease.replay →
      Owned σ next := by
    intro _ lease' hl hl' hr
    refine .inl ⟨lease', hl', ?_⟩
    rw [hr]
    exact h.start hl
  cases hw with
  | recordLease hb | activateCheckpoint hb | scheduleInitialTerminalReconcile hb =>
    exact hsame _ _ hb rfl rfl
  | recordFailure | recordTerminalCleanupRetry | clearPendingRetryAction => exact h.kept (.retry _)
  | replaceStartOperation | closeAuthoritativeStartAndRestart | completeCleanupAndRestart =>
    exact .inl ⟨_, rfl, hc⟩
  | schedule hse hb hdesired hle hs hr
  | requireCleanup hb hle hs hr => exact hsame _ _ hb rfl hr
  | promotePendingRedundant =>
    exact .inr ⟨rfl, rfl⟩
  | set hse => rcases hse with rfl | ⟨-, rfl | rfl⟩ <;> exact hc.elim
  | _ => exact hc.elim

lemma permits_inside (h : Owned σ current) (hca : Inside fresh σ call) :
    Permits params fits owner fresh call current := by
  cases call with
  | recordFailure | clearPendingRetryAction => exact fun _ => h.live
  | replaceStartOperation | closeAuthoritativeStartAndRestart | completeCleanupAndRestart =>
    exact fun _ hl => hca.trans (h.start hl).symm
  | recordLease | requireCleanup =>
    intro hq _ hl hc
    exact hca hq ((congrArg Prod.fst (h.start hl)).symm.trans hc)
  | beginStart | restartTerminal | setDesiredActive | clearCredentialProvisioningBarrier
  | completeCleanup => exact hca.elim
  | _ => exact trivial

end Sharing

section Growth

variable {params : AndroidParameters} {call : StoreCall}

lemma checkedIncrement_some (h : checkedIncrement value = some incremented) :
    incremented = value + 1 ∧ value ≠ longMax := by
  unfold checkedIncrement at h
  split at h
  · cases h
  · cases h
    exact ⟨rfl, by assumption⟩

lemma checkedIncrement_le (h : checkedIncrement value = some incremented) :
    value ≤ incremented := by
  have hs := (checkedIncrement_some h).1
  omega

lemma schedules_cancels (h : Schedules generation leaseId call desiredActive action) :
    StoreCall.cancels call = false := by
  cases h <;> rfl

lemma checkedIncrement_none (h : checkedIncrement value = none) : value = longMax := by
  unfold checkedIncrement at h
  split at h
  · assumption
  · cases h

lemma stale_generation (bootCount : Nat) :
    current.intent.generation ≤ (staleAfterBootChange current bootCount).intent.generation := by
  show _ ≤ (checkedIncrement current.intent.generation).getD current.intent.generation
  cases h : checkedIncrement current.intent.generation with
  | none => exact Nat.le_refl _
  | some =>
    exact checkedIncrement_le h

lemma generation_wrote (hw : Wrote params current call next) :
    current.intent.generation ≤ next.intent.generation ∧
      (StoreCall.cancels call = true → next.intent.generation = current.intent.generation →
        current.intent.generation = longMax) := by
  cases hw with
  | beginStart hr hn hg | restartTerminal hr hd hg
  | scheduleInitialTerminalReconcile hb hp hl hg =>
    exact ⟨checkedIncrement_le hg, fun hc => nomatch hc⟩
  | set hca hg =>
    rcases hg with ⟨hs, -⟩ | ⟨hn, -, rfl, -⟩
    · have hsu := (checkedIncrement_some hs).1
      refine ⟨?_, fun _ he => ?_⟩
      · show current.intent.generation ≤ _
        simp only [setDesiredActiveLocked.cancelled]
        omega
      · simp only [setDesiredActiveLocked.cancelled] at he
        omega
    · exact ⟨Nat.le_refl _, fun _ _ => checkedIncrement_none hn⟩
  | schedule hca hb hd hl hst hre hp hg =>
    refine ⟨Nat.le_of_eq hg.symm, fun hc => ?_⟩
    rw [schedules_cancels hca] at hc
    cases hc
  | completeCleanup =>
    refine ⟨?_, fun hc => nomatch hc⟩
    split
    · exact Nat.le_refl _
    · exact Nat.le_refl _
  | _ => exact ⟨Nat.le_refl _, fun hc => nomatch hc⟩

lemma cancels_not_same (hc : StoreCall.cancels call = true) :
    call.change params bootCount current ≠ .same := by
  have hs : ∀ leaseLess, setDesiredActiveLocked current false leaseLess ≠ .same := by
    intro _ h
    unfold setDesiredActiveLocked at h
    rw [Bool.and_false] at h
    simp only [Bool.false_eq_true, if_false, Bool.false_and] at h
    split at h <;> cases h
  cases call with
  | setDesiredActive g desiredActive =>
    have hf : desiredActive = false := by simpa [StoreCall.cancels] using hc
    subst hf
    intro h
    simp only [StoreCall.change, fenced] at h
    split at h
    · exact hs false h
    · cases h
  | cancelCurrentIntent => exact hs false
  | cancelCurrentIntentForQuickToggle => exact hs _
  | _ => cases hc

end Growth

section Runs

variable {params : AndroidParameters} {call : StoreCall} {i : StoreInput} {result : StoreResult}
  {stored stored' : Option AndroidRecoveryEnvelope}

abbrev recordOf (stored : Option AndroidRecoveryEnvelope) : AndroidRecoveryEnvelope :=
  stored.getD (.empty 0)

lemma kept_reads (h : Reads stored current) : Kept (recordOf stored) current := by
  cases h with
  | empty =>
    refine ⟨fun _ hl => ?_, fun _ hr => ?_, fun _ => live_of_disarmed rfl⟩
    · cases hl
    · cases hr
  | current => exact .refl _
  | stale before bootCount => exact kept_stale bootCount

lemma kept_drifted (h : Drifted stored stored') : Kept (recordOf stored) (recordOf stored') := by
  cases h with
  | refl => exact .refl _
  | stale before bootCount => exact kept_stale bootCount

lemma kept_run (hca : Outside call) (h : call.run params i stored = (result, stored')) :
    Kept (recordOf stored) (recordOf stored') := by
  cases run_cases h with
  | broken code hd | refused code hd | thrown hd | same bootCount hr hd =>
    exact kept_drifted hd
  | wrote bootCount hr hc =>
    exact (kept_reads hr).trans (kept_wrote hca (change_cases hc))

lemma owned_run (hca : Inside fresh σ call) (ho : Owned σ (recordOf stored))
    (h : call.run params i stored = (result, stored')) :
    Owned σ (recordOf stored') ∧ ∀ e, result = .success e → Owned σ e := by
  cases run_cases h with
  | broken code hd | refused code hd | thrown hd =>
    exact ⟨ho.kept (kept_drifted hd), fun _ h => nomatch h⟩
  | same bootCount hr hd =>
    refine ⟨ho.kept (kept_drifted hd), ?_⟩
    rintro e ⟨⟩
    exact ho.kept (kept_reads hr)
  | wrote bootCount hr hc =>
    have hn := (ho.kept (kept_reads hr)).wrote hca (change_cases hc)
    refine ⟨hn, ?_⟩
    rintro e ⟨⟩
    exact hn

lemma kept_failed (h : call.run params i stored = (result, stored'))
    (hf : ∀ e, result ≠ .success e) : Kept (recordOf stored) (recordOf stored') := by
  cases run_cases h with
  | broken code hd | refused code hd | thrown hd | same bootCount hr hd =>
    exact kept_drifted hd
  | wrote => exact absurd rfl (hf _)

lemma sane_run (hp : Permits params fits owner fresh call (recordOf stored))
    (hs : ∀ e, stored = some e → Sane params fits owner fresh e)
    (h : call.run params i stored = (result, stored')) :
    (∀ e, stored' = some e → Sane params fits owner fresh e) ∧
      ∀ e, result = .success e → Sane params fits owner fresh e
      :=
  run_keeps sane_empty (fun _ _ h => sane_stale h)
    (fun _ _ hr hc hw hv => sane_wrote hc (permits_reads hp hr) hw hv) hs h

lemma generation_reads (h : Reads stored current) :
    (recordOf stored).intent.generation ≤ current.intent.generation := by
  cases h with
  | empty | current => exact Nat.le_refl _
  | stale before bootCount => exact stale_generation bootCount

lemma generation_drifted (h : Drifted stored stored') :
    (recordOf stored).intent.generation ≤ (recordOf stored').intent.generation := by
  cases h with
  | refl => exact Nat.le_refl _
  | stale before bootCount => exact stale_generation bootCount

lemma generation_run (h : call.run params i stored = (result, stored')) :
    (recordOf stored).intent.generation ≤ (recordOf stored').intent.generation ∧
      ((∃ e, result = .success e) → StoreCall.cancels call = true →
        (recordOf stored).intent.generation = (recordOf stored').intent.generation →
        (recordOf stored).intent.generation = longMax) := by
  cases run_cases h with
  | broken code hd | refused code hd | thrown hd =>
    exact ⟨generation_drifted hd, fun ⟨_, h⟩ => nomatch h⟩
  | same bootCount hr hd hst hch =>
    exact ⟨generation_drifted hd, fun _ hc _ => absurd hch (cancels_not_same hc)⟩
  | @wrote current next bootCount hr hch =>
    have hre := generation_reads hr
    obtain ⟨hg, hca⟩ := generation_wrote (change_cases hch)
    refine ⟨Nat.le_trans hre hg, fun _ hc he => ?_⟩
    have hs : next.intent.generation = current.intent.generation := Nat.le_antisymm (he ▸ hre) hg
    have hf : (recordOf stored).intent.generation = current.intent.generation := he.trans hs
    exact hf.trans (hca hc hs)

end Runs

section World

variable {params : AndroidParameters} {w w' : AndroidWorld} {t : ℕ}

structure Later (w w' : AndroidWorld) : Prop where
  generation : w.record.intent.generation ≤ w'.record.intent.generation
  /-- A cancellation raises the generation unless it is the last one. -/
  cancels : w.record.intent.generation = w'.record.intent.generation →
    w.record.intent.generation ≠ longMax → w'.cancels = w.cancels
  sent : ∀ o ∈ w.sent, o ∈ w'.sent
  /-- The operations the panel has answered for. -/
  closed : ∀ o ∈ w.closed, o ∈ w'.closed
  freed : ∀ o ∈ w.freed, o ∈ w'.freed

lemma Later.refl (w : AndroidWorld) : Later w w :=
  ⟨Nat.le_refl _, fun _ _ => rfl, fun _ h => h, fun _ h => h, fun _ h => h⟩

lemma Later.trans (h1 : Later w1 w2) (h2 : Later w2 w3) : Later w1 w3 where
  generation := Nat.le_trans h1.generation h2.generation
  cancels he hl := by
    have hf : w1.record.intent.generation = w2.record.intent.generation :=
      Nat.le_antisymm h1.generation (he ▸ h2.generation)
    exact (h2.cancels (hf.symm.trans he) (hf ▸ hl)).trans (h1.cancels hf hl)
  sent o h := h2.sent o (h1.sent o h)
  closed o h := h2.closed o (h1.closed o h)
  freed o h := h2.freed o (h1.freed o h)

variable {call : StoreCall} {result : StoreResult}

lemma access_frame (h : w.access params call i = (result, w')) :
    call.run params i w.stored = (result, w'.stored) ∧ w'.operationGate = w.operationGate ∧ w'.sent
      = w.sent ∧ w'.closed = w.closed ∧ w'.freed = w.freed := by
  cases h
  exact ⟨rfl, rfl, rfl, rfl, rfl⟩

lemma access_cancels (h : w.access params call i = (result, w')) :
    w'.cancels = w.cancels ∨ (∃ e, result = .success e) ∧ StoreCall.cancels call = true := by
  unfold AndroidWorld.access at h
  dsimp only at h
  obtain ⟨rfl, rfl⟩ := Prod.mk.inj h
  split
  · rename_i e hs
    cases hc : StoreCall.cancels call with
    | true => exact .inr ⟨⟨e, hs⟩, rfl⟩
    | false => exact .inl rfl
  · exact .inl rfl

lemma later_access (h : w.access params call i = (result, w')) : Later w w' := by
  obtain ⟨hr, -, hse, hcl, hf⟩ := access_frame h
  obtain ⟨hg, hca⟩ := generation_run hr
  refine ⟨hg, fun he hl => ?_, ?_, ?_, ?_⟩
  · rcases access_cancels h with hsame | ⟨hs, hc⟩
    · exact hsame
    · exact absurd (hca hs hc he) hl
  · rw [hse]
    exact fun _ h => h
  · rw [hcl]
    exact fun _ h => h
  · rw [hf]
    exact fun _ h => h

def Plain : Cmd → Prop
  | .store _ | .commit _ _ | .takeGate | .freeGate => False
  | _ => True

structure Same (w w' : AndroidWorld) : Prop where
  stored : w'.stored = w.stored
  gate : w'.operationGate = w.operationGate
  later : Later w w'

lemma same_of_record (hs : w'.stored = w.stored) (hg : w'.operationGate = w.operationGate)
    (hc : w'.cancels = w.cancels) (hsn : ∀ o ∈ w.sent, o ∈ w'.sent)
    (hcl : ∀ o ∈ w.closed, o ∈ w'.closed) (hfreed : ∀ o ∈ w.freed, o ∈ w'.freed) : Same w w' :=
  ⟨hs, hg, ⟨by simp only [AndroidWorld.record, hs, Nat.le_refl], fun _ _ => hc, hsn, hcl, hfreed⟩⟩

lemma Same.refl (w : AndroidWorld) : Same w w := ⟨rfl, rfl, .refl w⟩

lemma same_noteReconciled (cancelIfAbsent : Bool)
    (answer : Except Throwable BackgroundReconcileResult) :
    Same w (w.noteReconciled lease cancelIfAbsent answer) := by
  unfold AndroidWorld.noteReconciled
  split
  · refine same_of_record rfl rfl rfl (fun _ h => h) ?_ ?_
    · intro o h
      dsimp only
      split
      · exact List.mem_cons_of_mem _ h
      · exact h
    · intro o h
      dsimp only
      split
      · exact List.mem_append_right _ h
      · exact h
  · split
    · exact same_of_record rfl rfl rfl (fun _ h => h)
        (fun _ h => List.mem_cons_of_mem _ h) (fun _ h => List.mem_append_right _ h)
    · exact .refl w

lemma same_noteStarted (answer : Except Throwable BackgroundStartResult) :
    Same w (w.noteStarted lease answer) := by
  refine same_of_record rfl rfl rfl (fun _ h => List.mem_cons_of_mem _ h) ?_ ?_
  · intro o h
    simp only [AndroidWorld.noteStarted]
    split
    · exact List.mem_cons_of_mem _ h
    · exact h
  · intro o h
    simp only [AndroidWorld.noteStarted]
    split
    · exact List.mem_append_right _ h
    · exact h

lemma same_noteStopped (leaseId : String) (answer : Except Throwable Unit) :
    Same w (w.noteStopped leaseId answer) := by
  unfold AndroidWorld.noteStopped
  split
  · exact same_of_record rfl rfl rfl (fun _ h => h) (fun _ h => h)
      (fun _ h => List.mem_cons_of_mem _ h)
  · exact .refl w

lemma plain_sem (hc : Plain c) (h : sem params c t i w = some (r, w')) :
    Same w w' := by
  have hk : ∀ {w' : AndroidWorld}, w'.stored = w.stored →
      w'.operationGate = w.operationGate → w'.cancels = w.cancels → w'.sent = w.sent →
      w'.closed = w.closed → w'.freed = w.freed → Same w w' := by
    intro _ hs hg hca hsn hcl hfreed
    exact same_of_record hs hg hca (hsn ▸ fun _ h => h)
      (hcl ▸ fun _ h => h) (hfreed ▸ fun _ h => h)
  cases c with
  | store | commit | takeGate | freeGate => exact hc.elim
  | reconcile =>
    cases i <;> cases h
    exact same_noteReconciled _ _
  | start =>
    cases i <;> cases h
    exact same_noteStarted _
  | stop =>
    cases i <;> cases h
    exact same_noteStopped _ _
  | toggle =>
    cases i <;> try cases h
    simp only [sem, Option.some.injEq] at h
    unfold AndroidWorld.toggle at h
    split at h
    · obtain ⟨-, rfl⟩ := Prod.mk.inj h
      exact hk rfl rfl rfl rfl rfl rfl
    · obtain ⟨-, rfl⟩ := Prod.mk.inj h
      exact hk rfl rfl rfl rfl rfl rfl
  | complete =>
    cases i <;> cases h
    split
    · exact hk rfl rfl rfl rfl rfl rfl
    · exact .refl w
  | _ =>
    cases i <;> cases h
    exact hk rfl rfl rfl rfl rfl rfl

end World

section Contract

variable (params : AndroidParameters) (fits owner fresh : Prop)

/-- A terminal restart over a transaction has a template of the same start. -/
def restartMatches (c : Cmd) (w : AndroidWorld) : Bool :=
  match c with
  | .commit _ (.restartTerminal _ template _ _) =>
    w.record.leaseTransaction.all fun transaction =>
      startOf transaction.replay == templateStart params template
  | _ => true

def restartIsFirst (c : Cmd) (w : AndroidWorld) : Bool :=
  match c with
  | .commit _ (.restartTerminal _ _ _ _) =>
    w.record.leaseTransaction.all fun transaction => transaction.replay.contractVersion != 2
  | _ => true

/-- A cleanup that leaves no operation behind finds the intent cancelled, and the barrier of the
credential is not cleared for a desired intent that owns nothing. -/
def ownerStays (c : Cmd) (w : AndroidWorld) : Bool :=
  match c with
  | .store (.completeCleanup _) => !w.record.intent.desiredActive
  | .store (.clearCredentialProvisioningBarrier _) =>
    w.record.intent.retry.lastErrorCode != some "background_credential_provision_pending" ||
      !w.record.intent.desiredActive || w.record.leaseTransaction.isSome ||
      w.record.redundantTransaction.isSome
  | _ => true

structure Guaranteed (t : ℕ) (c : Cmd) (w w' : AndroidWorld) : Prop where
  later : Later w w'
  /-- A thread outside the gate leaves what the thread inside owns. -/
  outside : w.operationGate ≠ some t → Kept w.record w'.record
  /-- Nobody takes the gate away. -/
  gate : ∀ u, u ≠ t → w.operationGate = some u → w'.operationGate = some u
  start : ∀ template transaction, c = .start template transaction →
    (fits → startOf transaction.replay = templateStart params template) ∧
      (fresh → transaction.phase.cleaning = false)
  /-- A dispatched start commits nothing after a cancellation. -/
  commit : ∀ ticket call, c = .commit (.dispatched ticket) call → ticket.cancels < w.cancels →
    w'.record.intent.desiredActive = true → w'.stored = w.stored

def Relied (t : ℕ) (w w' : AndroidWorld) : Prop :=
  Later w w' ∧ (w.operationGate = some t →
    w'.operationGate = some t ∧ Kept w.record w'.record)

def contract : Contract (android params) where
  inv w := ∀ e, w.stored = some e → Sane params fits owner fresh e
  cond _ c _ w := (fits → restartMatches params c w = true) ∧ (owner → ownerStays c w = true) ∧
    (fresh → restartIsFirst c w = true)
  guar t c _ w w' := Guaranteed params fits fresh t c w w'
  rely := Relied
  rely_refl _ w := ⟨.refl w, fun h => ⟨h, .refl _⟩⟩
  rely_trans _ w₁ w₂ w₃ h₁ h₂ := by
    refine ⟨h₁.1.trans h₂.1, fun hgate => ?_⟩
    obtain ⟨hgate₁, hkept₁⟩ := h₁.2 hgate
    obtain ⟨hgate₂, hkept₂⟩ := h₂.2 hgate₁
    exact ⟨hgate₂, hkept₁.trans hkept₂⟩
  guar_rely t u c i w w' hne _ _ _ hguar := by
    refine ⟨hguar.later, fun hgate => ?_⟩
    refine ⟨hguar.gate u (Ne.symm hne) hgate, hguar.outside ?_⟩
    rw [hgate]
    exact fun hequal => hne (Option.some.inj hequal).symm

variable {params fits owner fresh} {t : ℕ} {w w' : AndroidWorld}

variable {call : StoreCall} {result : StoreResult}

lemma guaranteed_plain (hs : Same w w') (hc : ∀ starter call, c ≠ .commit starter call)
    (hst : ∀ template lease, c = .start template lease →
      (fits → startOf lease.replay = templateStart params template) ∧
      (fresh → lease.phase.cleaning = false)) :
    Guaranteed params fits fresh t c w w' where
  later := hs.later
  outside _ := by
    simp only [AndroidWorld.record, hs.stored]
    exact .refl _
  gate _ _ hg := hs.gate.trans hg
  start := hst
  commit ticket call hcommit := absurd hcommit (hc _ _)

/-- A store function keeps the guarantee if it is one of the thread's side of the gate. -/
lemma guaranteed_access (h : w.access params call i = (result, w'))
    (hs : w.operationGate = some t ∨ Outside call) :
    Guaranteed params fits fresh t (.store call) w w' where
  later := later_access h
  outside hg := by
    rcases hs with hi | ho
    · exact absurd hi hg
    · exact kept_run ho (access_frame h).1
  gate _ _ hg := (access_frame h).2.1.trans hg
  start _ _ hc := nomatch hc
  commit _ _ hc := nomatch hc

end Contract

end NelomaiClient.AndroidContract
