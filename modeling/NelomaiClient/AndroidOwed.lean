import NelomaiClient.AndroidRequests

/-!
# What an attempt owes

The second contract of the service, over the first one: an attempt says `IDLE`
only over a record without a lease transaction and `TERMINAL` only over a broken
storage or a terminal intent, and an operation or a lease leaves the record only
once the panel has answered for it. Both need that the store and the panel answer
as the two conditions say.
-/

namespace NelomaiClient.AndroidOwed

open AndroidRecovery AndroidRecoveryStore AndroidRecoverySteps AndroidCoordinator AndroidContract
open AndroidAttempts AwaitProgram AwaitRely AwaitFallible AwaitFootprint

section Records

variable {params : AndroidParameters} {due : Prop} {e current : AndroidRecoveryEnvelope}
  {call : StoreCall}

/-- A record that may be stored; where `due` holds, an operation without a lease has no failure of
one. -/
structure Fit (params : AndroidParameters) (due : Prop) (e : AndroidRecoveryEnvelope) : Prop where
  valid : validateEnvelope params e = true
  unstalled : due → ∀ transaction, e.leaseTransaction = some transaction →
    transaction.leaseId = none → transaction.cleanupFailureCode = none

lemma validateLease_of_valid (h : validateEnvelope params e = true)
    (hl : e.leaseTransaction = some lease) :
    validateLease e.intent lease = true := by
  simp only [validateEnvelope, hl, Bool.and_eq_true] at h
  exact h.1.1.2

lemma unstalled_of_phase (h : validateEnvelope params e = true)
    (hl : e.leaseTransaction = some lease) (hp : lease.phase.cleaning = false) :
    lease.cleanupFailureCode = none := by
  have hv := validateLease_of_valid h hl
  simp only [validateLease, hp, Bool.or_false, Bool.and_eq_true] at hv
  exact Option.isNone_iff_eq_none.mp hv.1.1.2

lemma leaseless_of_pending (h : validateEnvelope params e = true)
    (hl : e.leaseTransaction = some lease) (hp : lease.phase = .startPending) :
    lease.leaseId = none := by
  have hv := validateLease_of_valid h hl
  simp only [validateLease, phaseFields, hp, Bool.and_eq_true] at hv
  exact Option.isNone_iff_eq_none.mp hv.2.1

lemma validateRedundant_disarmed (h : validateRedundant params intent lease = true) :
    validateRedundant params intent' (disarmed lease) = true := by
  simp only [validateRedundant, Bool.and_eq_true] at h ⊢
  obtain ⟨⟨⟨⟨⟨⟨⟨⟨⟨⟨⟨⟨⟨⟨⟨hs, hr⟩, ht⟩, hsafe⟩, hac⟩, -⟩, hso⟩, -⟩, -⟩, -⟩, -⟩, -⟩, -⟩, -⟩, -⟩, -⟩ := h
  simp only [List.all_cons, List.all_nil, Bool.and_eq_true, Bool.and_true] at hsafe
  obtain ⟨ha, hb, hl, hsr, hf, hst, -, hc, -⟩ := hsafe
  refine ⟨⟨⟨⟨⟨⟨⟨⟨⟨⟨⟨⟨⟨⟨⟨hs, hr⟩, ht⟩, ?_⟩, hac⟩, rfl⟩, ?_⟩, rfl⟩, rfl⟩, rfl⟩, rfl⟩,
    rfl⟩, rfl⟩, rfl⟩, rfl⟩, rfl⟩
  · simp only [List.all_cons, List.all_nil, Bool.and_eq_true, Bool.and_true]
    exact ⟨ha, hb, hl, hsr, hf, hst, rfl, hc, rfl, rfl, rfl, rfl, rfl, rfl⟩
  · simp only [disarmed, Bool.not_false, Bool.true_and, Bool.or_eq_true, Bool.and_eq_true] at hso ⊢
    rcases hso with hn | ⟨-, hbl⟩
    · exact .inl hn
    · exact .inr hbl

variable {bootCount : Nat}

lemma valid_stale (h : validateEnvelope params e = true) :
    validateEnvelope params (staleAfterBootChange e bootCount) = true := by
  have hla : ∀ lease, e.leaseTransaction = some lease →
      validateLease e.intent lease = true := fun _ => validateLease_of_valid h
  simp only [validateEnvelope, Bool.and_eq_true] at h ⊢
  obtain ⟨⟨⟨⟨⟨⟨⟨⟨hfo, hc⟩, hd⟩, hso⟩, -⟩, ht⟩, -⟩, hre⟩, -⟩ := h
  refine ⟨⟨⟨⟨⟨⟨⟨⟨hfo, hc⟩, hd⟩, hso⟩, rfl⟩, ht⟩, ?_⟩, ?_⟩, rfl⟩
  · simp only [staleAfterBootChange]
    cases hl : e.leaseTransaction with
    | none => rfl
    | some lease =>
      have hv := hla lease hl
      simp only [validateLease, Bool.and_eq_true, decide_eq_true_eq, beq_iff_eq] at hv
      obtain ⟨⟨⟨⟨⟨⟨⟨⟨⟨⟨⟨hp, hg⟩, -⟩, hst⟩, hve⟩, hf⟩, hle⟩, hs⟩, hcode⟩, -⟩, -⟩, -⟩ := hv
      have hn : 0 < (checkedIncrement e.intent.generation).getD e.intent.generation := by
        unfold checkedIncrement
        split
        · rw [← hg]
          exact hp
        · exact Nat.succ_pos _
      simpa [validateLease, hst, hf, hle, hs, phaseFields, LeasePhase.cleaning, hn, hve] using hcode
  · simp only [staleAfterBootChange]
    cases hr : e.redundantTransaction with
    | none => rfl
    | some =>
      rw [hr] at hre
      simp only [Option.map_some, Bool.and_eq_true] at hre ⊢
      refine ⟨?_, validateRedundant_disarmed hre.2⟩
      rw [Option.isNone_map]
      exact hre.1

lemma Fit.stale (h : Fit params due e) (bootCount : Nat) :
    Fit params due (staleAfterBootChange e bootCount) where
  valid := valid_stale h.valid
  unstalled ha lease hle hl := by
    obtain ⟨before, hb, rfl⟩ := Option.map_eq_some_iff.mp hle
    exact h.unstalled ha before hb hl

lemma fit_empty : Fit params due (.empty bootCount) where
  valid := rfl
  unstalled _ _ hl := nomatch hl

lemma Fit.retry (h : Fit params due current) (f : AndroidRetryState → AndroidRetryState)
    (hv : validateEnvelope params (withRetry current f) = true) :
    Fit params due (withRetry current f) := ⟨hv, h.unstalled⟩

lemma fit_wrote (h : Fit params due current) (hw : Wrote params current call next)
    (hv : validateEnvelope params next = true) : Fit params due next := by
  have hn : next.leaseTransaction = none → Fit params due next := fun hn =>
    ⟨hv, fun _ _ hl => by rw [hn] at hl; cases hl⟩
  have hp : ∀ lease, next.leaseTransaction = some lease →
      lease.phase.cleaning = false ∨ lease.leaseId.isSome = true ∨
        (∃ before, current.leaseTransaction = some before ∧ lease.leaseId = before.leaseId ∧
          (lease.cleanupFailureCode = none ∨
            lease.cleanupFailureCode = before.cleanupFailureCode)) →
      Fit params due next := by
    intro _ hl hc
    refine ⟨hv, fun ha _ hl' hle => ?_⟩
    rw [hl] at hl'
    cases hl'
    rcases hc with hp | hso | ⟨before, hb, hsame, hn | hcode⟩
    · exact unstalled_of_phase hv hl hp
    · rw [hle] at hso
      cases hso
    · exact hn
    · rw [hcode]
      exact h.unstalled ha before hb (hsame.symm.trans hle)
  cases hw with
  | @set _ desiredActive =>
    cases hl : current.leaseTransaction with
    | none => exact hn (congrArg (Option.map _) hl)
    | some lease =>
      refine hp _ (congrArg (Option.map _) hl) (.inr (.inr ⟨lease, hl, rfl, ?_⟩))
      show (if desiredActive then _ else none) = none ∨ (if desiredActive then _ else none) = _
      split
      · exact .inr rfl
      · exact .inl rfl
  | completeLegacyRuntimeStop | completeCleanupAsTerminal | completeInitialTerminalCleanup
  | completeCancelledStart | promotePendingRedundant =>
    exact hn rfl
  | @restartTerminal _ _ _ _ _ _ lease _ _ _ _ ht =>
    refine hp lease rfl ?_
    unfold restartedLease at ht
    split at ht
    · rename_i before hb
      dsimp only at ht
      split at ht
      · cases ht
      · cases ht
        exact .inr (.inr ⟨before, hb, rfl, .inr rfl⟩)
    · obtain ⟨_, -, rfl⟩ := Option.map_eq_some_iff.mp ht
      exact .inl rfl
  | recordFailure | recordTerminalCleanupRetry | clearPendingRetryAction
  | clearCredentialProvisioningBarrier | acknowledgeInitialTerminalDiagnostic =>
    exact h.retry _ hv
  | closeAuthoritativeStartAndRestart hl hd hpe =>
    refine hp _ rfl (.inl ?_)
    rw [hpe]
    rfl
  | schedule hse hl hd hle hs | requireCleanup hl hle hs =>
    refine hp _ rfl (.inr (.inl ?_))
    rw [hs]
    rfl
  | scheduleInitialTerminalReconcile hl =>
    exact hp _ rfl (.inr (.inr ⟨_, hl, rfl, .inr rfl⟩))
  | completeCleanup =>
    refine hn ?_
    split <;> rfl
  | _ => exact hp _ rfl (.inl rfl)

variable {stored stored' : Option AndroidRecoveryEnvelope} {i : StoreInput} {result : StoreResult}

lemma fit_reads (h : ∀ e, stored = some e → Fit params due e) (hr : Reads stored current) :
    Fit params due current := by
  cases hr with
  | empty => exact fit_empty
  | current => exact h current rfl
  | stale before bootCount => exact (h before rfl).stale bootCount

lemma fit_run (h : ∀ e, stored = some e → Fit params due e)
    (hrun : call.run params i stored = (result, stored')) :
    (∀ e, stored' = some e → Fit params due e) ∧ ∀ e, result = .success e → Fit params due e := by
  have hdr : Drifted stored stored' → ∀ e, stored' = some e → Fit params due e := by
    intro hd e he
    cases hd with
    | refl => exact h e he
    | stale before bootCount =>
      cases he
      exact (h before rfl).stale bootCount
  cases run_cases hrun with
  | broken code hd | refused code hd | thrown hd =>
    exact ⟨hdr hd, by rintro e ⟨⟩⟩
  | same bootCount hr hd =>
    refine ⟨hdr hd, ?_⟩
    rintro e ⟨⟩
    exact fit_reads h hr
  | wrote bootCount hr hc hv =>
    have hf := fit_wrote (fit_reads h hr) (change_cases hc) hv
    refine ⟨?_, ?_⟩
    · rintro e ⟨⟩
      exact hf
    · rintro e ⟨⟩
      exact hf

end Records

section Authority

variable {params : AndroidParameters} {due : Prop} {current : AndroidRecoveryEnvelope}
  {call : StoreCall} {w w' : AndroidWorld}

/-- The panel has answered for the operation of a transaction, or given up its lease. -/
def Cleared (w : AndroidWorld) (transaction : AndroidLeaseTransaction) : Prop :=
  match transaction.leaseId with
  | none => transaction.startOperationId ∈ w.closed
  | some leaseId => leaseId ∈ w.freed

/-- An operation may leave the record: it was never sent, or the panel has answered. -/
def Released (w : AndroidWorld) (transaction : AndroidLeaseTransaction) : Prop :=
  transaction.leaseId = none ∧ transaction.startOperationId ∉ w.sent ∨ Cleared w transaction

/-- A transaction is still in the record with its operation and its lease, or was promoted to a
redundant session. -/
def Retained (transaction : AndroidLeaseTransaction) (after : AndroidRecoveryEnvelope) : Prop :=
  (∃ transaction', after.leaseTransaction = some transaction' ∧
    transaction'.startOperationId = transaction.startOperationId ∧
    (transaction.leaseId ≠ none → transaction'.leaseId = transaction.leaseId)) ∨
  transaction.leaseId = none ∧ ∃ session, after.redundantTransaction = some session ∧
    session.startOperationId = transaction.startOperationId

def Authorised (w : AndroidWorld) (after : AndroidRecoveryEnvelope) : Prop :=
  ∀ transaction, w.record.leaseTransaction = some transaction →
    Retained transaction after ∨ Released w transaction

def Drops : StoreCall → Prop
  | .replaceStartOperation _ _ _ _ _ | .closeAuthoritativeStartAndRestart _ _ _ _ _
  | .completeCleanup _ | .completeCleanupAsTerminal _ | .completeInitialTerminalCleanup _
  | .completeCleanupAndRestart _ _ | .completeCancelledStart _ _ => True
  | _ => False

@[reducible]
def Leases : StoreCall → Prop
  | .recordLease _ _ | .requireCleanup _ _ _ _ => True
  | _ => False

/-- Store functions after which the lease transaction is another one or none. -/
@[reducible]
def Moves : StoreCall → Prop
  | .replaceStartOperation _ _ _ _ _ | .closeAuthoritativeStartAndRestart _ _ _ _ _
  | .completeCleanup _ | .completeCleanupAsTerminal _ | .completeInitialTerminalCleanup _
  | .completeCleanupAndRestart _ _ | .completeCancelledStart _ _
  | .promotePendingRedundant _ _ => True
  | _ => False

class Retains (call : StoreCall) : Prop where
  out : ¬ Moves call

lemma schedules_not_moves (h : Schedules generation leaseId call desiredActive action) :
    ¬ Moves call := by
  cases h <;> exact id

lemma moves_of_drops (h : Drops call) : Moves call := by
  cases call <;> first | exact trivial | exact h.elim

/-- The operation of a transaction is still in the record, with its lease unless `call` may have
found one. -/
def Stays (call : StoreCall) (transaction : AndroidLeaseTransaction)
    (after : AndroidRecoveryEnvelope) : Prop :=
  ∃ transaction', after.leaseTransaction = some transaction' ∧
    transaction'.startOperationId = transaction.startOperationId ∧
    (transaction.leaseId ≠ none ∨ ¬ Leases call → transaction'.leaseId = transaction.leaseId)

lemma stays_wrote [hc : Retains call] (hf : Fit params due current)
    (hw : Wrote params current call next) (h : current.leaseTransaction = some lease) :
    Stays call lease next := by
  have hs : ∀ lease', next.leaseTransaction = some lease' →
      lease'.replay = lease.replay →
      (lease.leaseId ≠ none ∨ ¬ Leases call →
        lease'.leaseId = lease.leaseId) → Stays call lease next :=
    fun lease' hl hr hle => ⟨lease', hl, congrArg (·.startOperationId) hr, hle⟩
  cases hw with
  | beginStart hre hl | completeLegacyRuntimeStop hd hl =>
    rw [h] at hl
    cases hl
  | set => exact hs _ (congrArg (Option.map _) h) rfl fun _ => rfl
  | restartTerminal hre hd hg hte ht =>
    rcases restartedLease_some ht with
      ⟨before, hbefore, hr, hle, -⟩ | ⟨hn, -⟩
    · rw [h] at hbefore
      cases hbefore
      exact hs _ rfl hr fun _ => hle
    · rw [h] at hn
      cases hn
  | recordLease hl hp =>
    rw [h] at hl
    cases hl
    refine hs _ rfl rfl ?_
    rintro (hso | hla)
    · exact absurd (leaseless_of_pending hf.valid h hp) hso
    · exact absurd trivial hla
  | activateCheckpoint hl | scheduleInitialTerminalReconcile hl =>
    rw [h] at hl
    cases hl
    exact hs _ rfl rfl fun _ => rfl
  | recordFailure | recordTerminalCleanupRetry | clearPendingRetryAction
  | clearCredentialProvisioningBarrier | acknowledgeInitialTerminalDiagnostic =>
    exact hs _ h rfl fun _ => rfl
  | schedule hse hl hd hle hst hr =>
    rw [h] at hl
    cases hl
    exact hs _ rfl hr fun _ => hst.trans hle.symm
  | requireCleanup hl hle hst hr =>
    rw [h] at hl
    cases hl
    refine hs _ rfl hr ?_
    rintro (hso | hla)
    · rcases hle with hn | hle
      · exact absurd hn hso
      · exact hst.trans hle.symm
    · exact absurd trivial hla
  | _ => exact absurd trivial hc.out

lemma retained_wrote (hc : ¬ Drops call) (hf : Fit params due current)
    (hw : Wrote params current call next) (h : current.leaseTransaction = some lease) :
    Retained lease next := by
  by_cases hm : Moves call
  · cases hw with
    | promotePendingRedundant hle hr ho hl =>
      rw [h] at hle
      cases hle
      exact .inr ⟨hl, _, rfl, ho⟩
    | set hs => rcases hs with rfl | ⟨-, rfl | rfl⟩ <;> exact hm.elim
    | schedule hs => exact absurd hm (schedules_not_moves hs)
    | _ => first | exact hm.elim | exact absurd trivial hc
  · have : Retains call := ⟨hm⟩
    obtain ⟨lease', hle, ho, hl⟩ := stays_wrote hf hw h
    exact .inl ⟨lease', hle, ho, fun hso => hl (.inl hso)⟩

lemma authorised_kept (h : Kept w.record after) :
    Authorised w after := by
  intro lease hl
  obtain ⟨lease', hl', hr, hle, -⟩ := h.lease lease hl
  exact .inl (.inl ⟨lease', hl', congrArg (·.startOperationId) hr, fun _ => hle⟩)

variable {result : StoreResult}

/-- A store function is authorised if it does not drop the operation, or the operation may leave. -/
lemma authorised_run (hf : ∀ e, w.stored = some e → Fit params due e)
    (h : Drops call → ∀ lease, w.record.leaseTransaction = some lease → Released w lease)
    (hrun : call.run params i w.stored = (result, stored')) : Authorised w (recordOf stored') := by
  cases run_cases hrun with
  | broken code hd | refused code hd | thrown hd | same bootCount hre hd =>
    exact authorised_kept (kept_drifted hd)
  | wrote bootCount hre hc =>
    intro lease hl
    by_cases hdr : Drops call
    · exact .inr (h hdr lease hl)
    · obtain ⟨before, hb, hrp, hle, -⟩ := (kept_reads hre).lease lease hl
      have hr := retained_wrote hdr (fit_reads hf hre) (change_cases hc) hb
      have ho : before.startOperationId = lease.startOperationId :=
        congrArg (·.startOperationId) hrp
      unfold Retained at hr
      rw [hle, ho] at hr
      exact .inl hr

lemma stays_run [Retains call] {stored stored' : Option AndroidRecoveryEnvelope}
    (hf : ∀ e, stored = some e → Fit params due e)
    (hrun : call.run params i stored = (result, stored'))
    (h : (recordOf stored).leaseTransaction = some lease) :
    Stays call lease (recordOf stored') := by
  have hdr : Drifted stored stored' → Stays call lease (recordOf stored') := by
    intro hd
    obtain ⟨lease', hle, hr, hl, -⟩ := (kept_drifted hd).lease lease h
    exact ⟨lease', hle, congrArg (·.startOperationId) hr, fun _ => hl⟩
  cases run_cases hrun with
  | broken code hd | refused code hd | thrown hd | same bootCount hre hd =>
    exact hdr hd
  | wrote bootCount hre hc =>
    obtain ⟨_, hb, hr, hl, -⟩ := (kept_reads hre).lease lease h
    obtain ⟨lease', hle, ho, hs⟩ := stays_wrote (fit_reads hf hre) (change_cases hc) hb
    refine ⟨lease', hle, ho.trans (congrArg (·.startOperationId) hr), ?_⟩
    rw [← hl]
    exact hs

lemma Cleared.later (h : Cleared w lease) (hl : Later w w')
    (ho : lease'.startOperationId = lease.startOperationId)
    (hle : lease'.leaseId = lease.leaseId) : Cleared w' lease' := by
  unfold Cleared at h ⊢
  rw [hle, ho]
  cases hc : lease.leaseId with
  | none =>
    rw [hc] at h
    exact hl.closed _ h
  | some =>
    rw [hc] at h
    exact hl.freed _ h

end Authority

section Conditions

def renewing : Throwable → Bool
  | .background code _ => retryNewOperationCodes.contains code
  | .unexpected => false

def replacing : Throwable → Bool
  | .background code _ => retryNewOperationCodes.contains code || profileMismatchCodes.contains code
  | .unexpected => false

lemma replacing_of_renewing (h : renewing error = true) :
    replacing error = true := by
  cases error with
  | unexpected => exact h
  | background => exact Bool.or_eq_true_iff.mpr (.inl h)

lemma replacing_store (code : StoreCode) : replacing (.background code.text none) = false := by
  cases code <;> rfl

def failureOf : Input → Option Throwable
  | .verdict (.error error) | .reconciled (.error error) | .started (.error error)
  | .ran (.error error) => some error
  | _ => none

def failsWith (codes : List String) (i : Input) : Bool :=
  match failureOf i with
  | some (.background code _) => codes.contains code
  | _ => false

/-- The panel and the tunnel ask for a new operation only where they speak for the old one, and a
start that is cancelled during the synchronisation of preferences was never sent. -/
def authoritative (c : Cmd) (i : Input) (w : AndroidWorld) : Bool :=
  match c with
  | .store (.completeCancelledStart .afterSync _) =>
    w.record.leaseTransaction.all fun transaction =>
      !w.sent.contains transaction.startOperationId ||
        w.closed.contains transaction.startOperationId
  | .reconcile _ _ | .start _ _ | .stop _ _ _ => !failsWith ["tunnel_handshake_timeout"] i
  | .syncBindingPreferences _ | .runtimeRunning | .runtimeStop =>
    !failsWith retryNewOperationCodes i
  | .runtimeStart _ _ => !failsWith ["connection_no_longer_active"] i
  | _ => true

end Conditions

section Contract

variable (params : AndroidParameters) (due : Prop)

def FitWorld (w : AndroidWorld) : Prop := ∀ e, w.stored = some e → Fit params due e

lemma FitWorld.valid (h : FitWorld params due w) : FitWorld params False w :=
  fun e he => ⟨(h e he).valid, False.elim⟩

def Demands (_ : ℕ) (c : (android params).Cmd) (i : Input) (w : AndroidWorld) : Prop :=
  due → authoritative c i w = true

def Owes (_ : ℕ) (_ : (android params).Cmd) (_ : Input) (w w' : AndroidWorld) : Prop :=
  due → Authorised w w'.record

/-- The second contract: what an attempt gives up. -/
abbrev owed : Contract (android params) :=
  (contract params False False False).refined (FitWorld params due) (Demands params due)
    (Owes params due)

def Holds (t : ℕ) (w : AndroidWorld) : Prop := Gated t w ∧ w.record.leaseTransaction.isSome = true

/-- The thread is inside the gate and the record has this operation with this lease. -/
def Owns (t : ℕ) (o : String) (lease : Option String) (w : AndroidWorld) : Prop :=
  Gated t w ∧ ∃ transaction, w.record.leaseTransaction = some transaction ∧
    transaction.startOperationId = o ∧ transaction.leaseId = lease

/-- The panel has answered for an operation, or given up its lease, where that matters. -/
def Freed (o : String) (lease : Option String) (w : AndroidWorld) : Prop :=
  due → match lease with
    | none => o ∈ w.closed
    | some leaseId => leaseId ∈ w.freed

def MayDrop (t : ℕ) (o : String) (lease : Option String) (w : AndroidWorld) : Prop :=
  Owns t o lease w ∧ Freed due o lease w

/-- The operation of the record is being cleaned up, may leave it, or was promoted. -/
def Replaceable (w : AndroidWorld) : Prop :=
  (∃ transaction, w.record.leaseTransaction = some transaction ∧
    (transaction.phase.cleaning = true ∨ Cleared w transaction)) ∨
  w.record.leaseTransaction = none ∧ w.record.redundantTransaction.isSome = true

/-- An attempt may fail with this error: what it asks to replace may be replaced. -/
def Excused (t : ℕ) (error : Throwable) (w : AndroidWorld) : Prop :=
  Gated t w ∧ (due → renewing error = true → Replaceable w)

/-- An assertion of the thread inside the gate that others keep. -/
class Stable (t : ℕ) (J : AndroidWorld → Prop) : Prop where
  gated : ∀ w, J w → Gated t w
  rely : ∀ w w', J w → Relied t w w' → J w'
  same : ∀ w w', J w → Same w w' → J w'

variable {params due} {t : ℕ} {o : String} {lease : Option String} {w w' : AndroidWorld}

lemma Owns.holds (h : Owns t o lease w) : Holds t w := by
  obtain ⟨hg, _, hl, -⟩ := h
  refine ⟨hg, ?_⟩
  rw [hl]
  rfl

lemma Owns.kept (h : Owns t o lease w) (hg : Gated t w') (hk : Kept w.record w'.record) :
    Owns t o lease w' := by
  obtain ⟨-, transaction, hle, ho, hl⟩ := h
  obtain ⟨transaction', hle', hr, hl', -⟩ := hk.lease transaction hle
  exact ⟨hg, transaction', hle', (congrArg (·.startOperationId) hr).trans ho, hl'.trans hl⟩

lemma Holds.kept (h : Holds t w) (hg : Gated t w') (hk : Kept w.record w'.record) :
    Holds t w' := by
  obtain ⟨lease, hl⟩ := Option.isSome_iff_exists.mp h.2
  obtain ⟨_, hl', -⟩ := hk.lease lease hl
  refine ⟨hg, ?_⟩
  rw [hl']
  rfl

lemma Freed.later (h : Freed due o lease w) (hl : Later w w') : Freed due o lease w' := by
  intro ha
  cases lease with
  | none => exact hl.closed _ (h ha)
  | some => exact hl.freed _ (h ha)

lemma Same.kept (h : Same w w') : Kept w.record w'.record := by
  simp only [AndroidWorld.record, h.stored]
  exact .refl _

instance : Stable t (Gated t) where
  gated _ h := h
  rely _ _ h hr := h.relied hr
  same _ _ h hs := hs.gate.trans h

instance : Stable t (Holds t) where
  gated _ h := h.1
  rely _ _ h hr := h.kept (hr.2 h.1).1 (hr.2 h.1).2
  same _ _ h hs := h.kept (hs.gate.trans h.1) (Same.kept hs)

instance : Stable t (Owns t o lease) where
  gated _ h := h.1
  rely _ _ h hr := h.kept (hr.2 h.1).1 (hr.2 h.1).2
  same _ _ h hs := h.kept (hs.gate.trans h.1) (Same.kept hs)

instance : Stable t (MayDrop due t o lease) where
  gated _ h := h.1.1
  rely w w' h hr := ⟨Stable.rely w w' h.1 hr, h.2.later hr.1⟩
  same w w' h hs := ⟨Stable.same (t := t) w w' h.1 hs, h.2.later hs.later⟩

lemma MayDrop.released (h : MayDrop due t o lease w) (ha : due)
    (transaction : AndroidLeaseTransaction) (hl : w.record.leaseTransaction = some transaction) :
    Released w transaction := by
  obtain ⟨⟨-, _, hl', ho, hle⟩, hf⟩ := h
  rw [hl] at hl'
  cases hl'
  refine .inr ?_
  unfold Cleared
  rw [hle, ho]
  exact hf ha

variable {error : Throwable}

lemma excused_mild (hg : Gated t w) (h : replacing error = false) : Excused due t error w := by
  refine ⟨hg, fun _ hre => ?_⟩
  rw [replacing_of_renewing hre] at h
  cases h

lemma MayDrop.excused (h : MayDrop due t o lease w) (error : Throwable) :
    Excused due t error w := by
  refine ⟨h.1.1, fun ha _ => ?_⟩
  obtain ⟨⟨-, transaction, hle, ho, hl⟩, hf⟩ := h
  refine .inl ⟨transaction, hle, .inr ?_⟩
  unfold Cleared
  rw [hl, ho]
  exact hf ha

lemma Replaceable.kept (h : Replaceable w) (hla : Later w w')
    (hk : Kept w.record w'.record) : Replaceable w' := by
  rcases h with ⟨lease, hl, hca⟩ | ⟨hn, hr⟩
  · obtain ⟨lease', hl', hre, hle, hp⟩ := hk.lease lease hl
    refine .inl ⟨lease', hl', hca.imp hp fun hc => ?_⟩
    exact hc.later hla (congrArg (·.startOperationId) hre) hle
  · exact .inr (hk.promoted hn hr)

lemma Excused.kept (h : Excused due t error w) (hg : Gated t w') (hl : Later w w')
    (hk : Kept w.record w'.record) : Excused due t error w' :=
  ⟨hg, fun ha hre => (h.2 ha hre).kept hl hk⟩

instance {error : Throwable} : Stable t (Excused due t error) where
  gated _ h := h.1
  rely _ _ h hr := h.kept (hr.2 h.1).1 hr.1 (hr.2 h.1).2
  same _ _ h hs := h.kept (hs.gate.trans h.1) hs.later (Same.kept hs)

lemma Holds.excused (h : Holds t w) (hr : due → renewing error = false) :
    Excused due t error w := by
  refine ⟨h.1, fun ha ht => ?_⟩
  rw [hr ha] at ht
  cases ht

end Contract

section Rules

variable {params : AndroidParameters} {due : Prop} {t : ℕ} {w : AndroidWorld}

lemma wp_plain_owed (hc : Plain c) {Q : c.Resp → AndroidWorld → Prop}
    (h : ∀ w1 i r w', Relied t w w1 → Demands params due t c i w1 →
      sem params c t i w1 = some (r, w') → Same w1 w' → Q r w') :
    wp (owed params due) t (ask params c) Q w := by
  refine wp_ask_refined fun w1 i r w' _ hfi hr hd hse _ _ => ?_
  have hs := plain_sem hc hse
  exact ⟨fun e he => hfi e (hs.stored ▸ he), fun _ => authorised_kept (Same.kept hs),
    h w1 i r w' hr hd hse hs⟩

variable {call : StoreCall}

lemma wpe_store (hg : Gated t w)
    (hau : due → Drops call → ∀ w1 i, Relied t w w1 →
      Demands params due t (.store call) (.store i) w1 →
      ∀ lease, w1.record.leaseTransaction = some lease → Released w1 lease)
    (h : ∀ w1 i result w', Relied t w w1 → FitWorld params due w1 →
      Demands params due t (.store call) (.store i) w1 →
      w1.access params call i = (result, w') → Gated t w' →
      (∀ e, result = .success e → Q (.ok e) w') ∧
      (∀ failure, result = .failure failure → Q (.error failure) w') ∧
      (result = .thrown → E .unexpected w')) :
    wpe (owed params due) t (stored params call) Q E w := by
  unfold stored
  rw [wpe_bind, wpe_surely]
  refine wp_ask_refined fun w1 i r w' _ hfi hr hd hsm _ _ => ?_
  cases i with
  | store i =>
    have hac : w1.access params call i = (r, w') := Option.some.inj hsm
    have hg1 := hg.relied hr
    obtain ⟨hrun, hga, -⟩ := access_frame hac
    obtain ⟨hs, hf, ht⟩ := h w1 i r w' hr hfi hd hac (hga.trans hg1)
    refine ⟨(fit_run hfi hrun).1, fun ha => ?_, ?_⟩
    · exact authorised_run hfi (fun hdr => hau ha hdr w1 i hr hd) hrun
    · cases r with
      | success e => exact hs e rfl
      | failure failure => exact hf failure rfl
      | thrown => exact ht rfl
  | _ => cases hsm

class Steady (params : AndroidParameters) (J : AndroidWorld → Prop) (call : StoreCall) :
    Prop where
  retains : ¬ Drops call
  access : ∀ w i result w', FitWorld params False w → J w →
    w.access params call i = (result, w') → J w'

/-- A program keeps an assertion and fails only with errors that ask for nothing. -/
class Mild {α : Type} (due : Prop) (t : ℕ) (J : AndroidWorld → Prop) (x : Coordinate params α) :
    Prop where
  out : ∀ w, J w → wpe (owed params due) t x (fun _ => J)
    (fun error w => J w ∧ replacing error = false) w

class Calm {α : Type} (due : Prop) (t : ℕ) (J : AndroidWorld → Prop)
    (p : Prog (android params) α) : Prop where
  out : ∀ w, J w → wp (owed params due) t p (fun _ => J) w

variable {J : AndroidWorld → Prop} {α β : Type}

lemma calm_ask [hJ : Stable t J] (hc : Plain c) :
    Calm due t J (ask params c) where
  out _ h := wp_plain_owed hc fun _ _ _ _ hr _ _ hs => hJ.same _ _ (hJ.rely _ _ h hr) hs

section Questions

variable [Stable t J]

instance : Calm due t J (ask params .canStart) := calm_ask trivial
instance : Calm due t J (ask params .operationId) := calm_ask trivial
instance : Calm due t J (ask params .nowUnix) := calm_ask trivial
instance : Calm due t J (ask params .startCancelled) := calm_ask trivial
instance : Calm due t J (ask params .retractStart) := calm_ask trivial
instance : Calm due t J (ask params (.publishStart operationId)) := calm_ask trivial

end Questions

instance [hp : Calm due t J p] : Mild due t J (surely p : Coordinate params α) where
  out w h := by
    rw [wpe_surely]
    exact hp.out w h

instance [hJ : Stable t J] [hc : Steady params J call] : Mild due t J (stored params call) where
  out w h := by
    refine wpe_store (hJ.gated w h) (fun _ hd => absurd hd hc.retains)
      fun w₁ i result w' hr hf _ ha _ => ?_
    have hJ' := hc.access w₁ i result w' hf.valid (hJ.rely _ _ h hr) ha
    exact ⟨fun _ _ => hJ', fun _ _ => hJ', fun _ => ⟨hJ', rfl⟩⟩

section Steadiness

variable {call : StoreCall} {o leaseId : String} {lease : Option String}

instance [h : Evident (¬ Moves call)] : Retains call := ⟨h.out⟩

instance [hc : Retains call] : Steady params (Gated t) call where
  retains := fun hd => hc.out (moves_of_drops hd)
  access _ _ _ _ _ hg ha := (access_frame ha).2.1.trans hg

instance [hc : Retains call] : Steady params (Holds t) call where
  retains := fun hd => hc.out (moves_of_drops hd)
  access w i result w' hf h ha := by
    obtain ⟨hr, hg, -⟩ := access_frame ha
    obtain ⟨_, hl⟩ := Option.isSome_iff_exists.mp h.2
    obtain ⟨_, hl', -⟩ := stays_run hf hr hl
    refine ⟨hg.trans h.1, ?_⟩
    show (recordOf w'.stored).leaseTransaction.isSome = true
    rw [hl']
    rfl

lemma steady_owns [hc : Retains call] (h : lease ≠ none ∨ ¬ Leases call) :
    Steady params (Owns t o lease) call where
  retains := fun hd => hc.out (moves_of_drops hd)
  access w i result w' hf how ha := by
    obtain ⟨hr, hga, -⟩ := access_frame ha
    obtain ⟨hg, _, hle, ho, hl⟩ := how
    obtain ⟨transaction', hle', ho', hs⟩ := stays_run hf hr hle
    exact ⟨hga.trans hg, transaction', hle', ho'.trans ho, (hs (hl ▸ h)).trans hl⟩

instance [Retains call] [he : Evident (¬ Leases call)] : Steady params (Owns t o lease) call :=
  steady_owns (.inr he.out)

instance [Retains call] : Steady params (Owns t o (some leaseId)) call := steady_owns (.inl nofun)

instance {error : Throwable} : Steady params (Excused due t error) .read where
  retains := id
  access _ _ _ _ _ h ha := by
    obtain ⟨hr, hg, -⟩ := access_frame ha
    exact h.kept (hg.trans h.1) (later_access ha) (kept_run (show Outside .read from trivial) hr)

end Steadiness

instance : Mild due t J (pure v : Coordinate params α) := ⟨fun _ h => h⟩

lemma mild_throw (h : replacing error = false) :
    Mild due t J (throw error : Coordinate params α) := ⟨fun _ hJ => ⟨hJ, h⟩⟩

lemma mild_bind [hx : Mild due t J x]
    (hf : ∀ b, Mild due t J (f b)) : Mild due t J (x >>= f) :=
  ⟨fun w h => wpe_seq (hx.out w h) (fun _ _ h => h) fun b w' h' => (hf b).out w' h'⟩

instance (f : β → Coordinate params α) [Mild due t J x] [hf : ∀ b, Mild due t J (f b)] :
    Mild due t J (x >>= f) := mild_bind hf

instance (c : Prop) [Decidable c] [hx : Mild due t J x] [hy : Mild due t J y] :
    Mild due t J (if c then x else y) := by
  split
  · exact hx
  · exact hy

instance [Mild due t J (stored params call)] : Mild due t J (storedOrThrow params call) := by
  refine mild_bind fun result => ?_
  cases result with
  | ok e => exact inferInstanceAs (Mild due t J (pure e))
  | error => exact mild_throw (replacing_store _)

instance : Mild due t J (notNull params value) := by
  cases value with
  | none => exact mild_throw rfl
  | some v => exact inferInstanceAs (Mild due t J (pure v))

instance [Stable t J] : Mild due t J (stopOperation params transaction) := by
  unfold stopOperation
  split <;> infer_instance

instance : Mild due t J (reconciledLease params reconciled) := by
  unfold reconciledLease
  split
  · infer_instance
  · exact mild_throw rfl

end Rules

section Reboots

/-- The leases, operations and stops of a record, and the retry that its session waits for. -/
def workOf (e : AndroidRecoveryEnvelope) :=
  (e.leaseTransaction.map fun lease => (lease.leaseId, lease.stopOperationId, lease.replay),
    e.redundantTransaction.map fun session => (session.sessionId, session.slotALeaseId,
      session.slotBLeaseId, session.startOperationId, session.startRequestFingerprint,
      session.stopOperationId, session.retry.stopState, session.retry.attempt,
      session.retry.nextRetryAtUnix, session.retry.lastErrorCode),
    e.acceptedStops)

/-- A record that asks for nothing to be started. -/
structure Disarmed (e : AndroidRecoveryEnvelope) : Prop where
  desired : e.intent.desiredActive = false
  retry : e.intent.retry = {}
  session : ∀ session, e.redundantTransaction = some session →
    session.desiredActive = false ∧ session.candidateLeaseId = none ∧ session.candidateSlot = none ∧
      session.retry.pendingNativeSourceLeaseId = none ∧
      session.retry.pendingNativeActiveLeaseId = none ∧
      session.retry.totalLossRestartReplay = none ∧ session.retry.sessionStalledRecorded = false

variable {e : AndroidRecoveryEnvelope} {bootCount : Nat}

lemma disarmed_stale :
    Disarmed (staleAfterBootChange e bootCount) where
  desired := rfl
  retry := rfl
  session session h := by
    obtain ⟨_, -, rfl⟩ := Option.map_eq_some_iff.mp h
    exact ⟨rfl, rfl, rfl, rfl, rfl, rfl, rfl⟩

lemma workOf_stale : workOf (staleAfterBootChange e bootCount) = workOf e := by
  simp only [workOf, staleAfterBootChange, Option.map_map]
  rfl

lemma persist_stale (written : Bool) (h : validateEnvelope params e = true) :
    persist params written (staleAfterBootChange e bootCount) =
      if written then none else some (.broken .recoveryRecordWriteFailed) := by
  rw [persist, if_pos (valid_stale h)]

/-- A read leaves a valid record as it is or makes it stale, and the stale one is never invalid. -/
lemma readLocked_cases (i : StoreInput) (h : validateEnvelope params e = true) :
    ((readLocked params i (some e)).2 = some e ∨
      ∃ bootCount, (readLocked params i (some e)).2 = some (staleAfterBootChange e bootCount)) ∧
    ∀ code, (readLocked params i (some e)).1 ≠ .error (.refused code) := by
  unfold readLocked
  cases i.read with
  | corrupt | failed => exact ⟨.inl rfl, by simp⟩
  | readable =>
    cases i.bootCount with
    | none =>
      simp only [persist_stale _ h]
      cases i.staleWritten with
      | false => exact ⟨.inl rfl, by simp⟩
      | true => exact ⟨.inr ⟨_, rfl⟩, by simp⟩
    | some =>
      simp only [persist_stale _ h]
      split
      · cases i.staleWritten with
        | false => exact ⟨.inl rfl, by simp⟩
        | true => exact ⟨.inr ⟨_, rfl⟩, by simp⟩
      · exact ⟨.inl rfl, by simp⟩

def readAll (params : AndroidParameters) (inputs : List StoreInput)
    (stored : Option AndroidRecoveryEnvelope) : Option AndroidRecoveryEnvelope :=
  inputs.foldl (fun stored i => (readLocked params i stored).2) stored

lemma readAll_keeps (inputs : List StoreInput) (hv : validateEnvelope params e = true) :
    ∃ e', readAll params inputs (some e) = some e' ∧ validateEnvelope params e' = true ∧
      workOf e' = workOf e ∧ (e' = e ∨ Disarmed e') := by
  induction inputs generalizing e with
  | nil => exact ⟨e, rfl, hv, rfl, .inl rfl⟩
  | cons i inputs ih =>
    rw [readAll, List.foldl_cons]
    rcases (readLocked_cases i hv).1 with hsame | ⟨_, hs⟩
    · rw [hsame]
      exact ih hv
    · rw [hs]
      obtain ⟨e', hr, hv', hw, hd⟩ := ih (valid_stale hv)
      refine ⟨e', hr, hv', hw.trans workOf_stale, .inr ?_⟩
      rcases hd with rfl | hd
      · exact disarmed_stale
      · exact hd

/-- However often a valid record is read and whatever the boot identity says, it stays valid and keeps
its work with the retry of a redundant session; a stale one is valid and otherwise disarmed. -/
theorem reads_keep_work (params : AndroidParameters) (first : AndroidRecoveryEnvelope)
    (hvalid : validateEnvelope params first = true) (inputs : List StoreInput) :
    ∃ e, readAll params inputs (some first) = some e ∧
      validateEnvelope params e = true ∧ workOf e = workOf first ∧ (e = first ∨ Disarmed e) ∧
      (∀ i code, (readLocked params i (some e)).1 ≠ .error (.refused code)) ∧
      ∀ bootCount, validateEnvelope params (staleAfterBootChange e bootCount) = true ∧
        Disarmed (staleAfterBootChange e bootCount) ∧
        workOf (staleAfterBootChange e bootCount) = workOf first := by
  obtain ⟨e, hr, hvalid, hw, hd⟩ := readAll_keeps inputs hvalid
  exact ⟨e, hr, hvalid, hw, hd, fun i => (readLocked_cases i hvalid).2, fun bootCount =>
    ⟨valid_stale hvalid, disarmed_stale, (workOf_stale).trans hw⟩⟩

def keptSession : AndroidRedundantTransaction where
  desiredActive := true
  template := ⟨"device", "scope", .tic, .dynamic, .standalone, .ipv4, true, false, {}, some true, none⟩
  sessionId := "session"
  slotALeaseId := some "lease"
  slotBLeaseId := none
  localActiveLeaseId := some "lease"
  standbyDesired := false
  roleGeneration := 0
  membershipGeneration := 0
  startOperationId := "start"
  startRequestFingerprint := "fingerprint"
  retry := { nextRetryAtUnix := some 5 }

def keptRecord : AndroidRecoveryEnvelope where
  intent := { AndroidConnectionIntent.empty 1 with generation := longMax, desiredActive := true }
  leaseTransaction := none
  redundantTransaction := some keptSession

def rebooted : StoreInput := ⟨.readable, some 2, none, true, true⟩

/-- The stale record of a redundant session still has its retry time. -/
theorem stale_keeps_retry :
    validateEnvelope ⟨some, id⟩ keptRecord = true ∧
      ((readLocked ⟨some, id⟩ rebooted (some keptRecord)).2.bind (·.redundantTransaction)).map
        (·.retry.nextRetryAtUnix) = some (some 5) ∧
      (readLocked ⟨some, id⟩ rebooted (some keptRecord)).2 ≠ some keptRecord := by
  decide +kernel

theorem reads_keep_work_rebooted :
    validateEnvelope ⟨some, id⟩ keptRecord = true ∧
      ∃ e, readAll ⟨some, id⟩ [rebooted, rebooted] (some keptRecord) = some e ∧
        workOf e = workOf keptRecord := by
  have hv : validateEnvelope ⟨some, id⟩ keptRecord = true := by decide +kernel
  obtain ⟨e, hr, -, hw, -⟩ := reads_keep_work ⟨some, id⟩ keptRecord hv [rebooted, rebooted]
  exact ⟨hv, e, hr, hw⟩

end Reboots

end NelomaiClient.AndroidOwed
