import NelomaiClient.AndroidOwed

/-!
# Decisions after a failure

The rules for the programs of an attempt under the second contract, and what an
attempt decides about an error: it replaces the operation only where the error
finds one that may be replaced. What the store functions that promote a session or
ask for a cleanup leave when they succeed.
-/

set_option synthInstance.maxSize 1024

namespace NelomaiClient.AndroidDecisions

open AndroidRecovery AndroidRecoveryStore AndroidRecoverySteps AndroidCoordinator AndroidContract
open AndroidAttempts AndroidRequests AndroidOwed
open AwaitFallible

section Rules

variable {params : AndroidParameters} (due : Prop) (t : ℕ)

/-- A program stays inside the gate and fails only with errors that ask for nothing. -/
def Handles (J : AndroidWorld → Prop) (x : Coordinate params AndroidCoordinatorStep) : Prop :=
  ∀ w, J w → wpe (owed params due) t x (fun _ => Gated t)
    (fun error w => Gated t w ∧ replacing error = false) w

def Yields {α : Type} (J : AndroidWorld → Prop) (x : Coordinate params α)
    (Q : α → AndroidWorld → Prop) : Prop :=
  ∀ w, J w → wpe (owed params due) t x Q (Excused due t) w

abbrev Answers (J : AndroidWorld → Prop) (x : Coordinate params AndroidCoordinatorStep) : Prop :=
  Yields due t J x fun _ => Gated t

structure Saw (params : AndroidParameters) (due : Prop) (e : AndroidRecoveryEnvelope)
    (w : AndroidWorld) : Prop where
  fit : Fit params due e
  lease : w.record.leaseTransaction = e.leaseTransaction

variable {due t} {α β : Type}

lemma Handles.answers (h : Handles due t J x) : Answers due t J x := fun w hw =>
  wpe_mono (fun _ _ h => h) (fun _ _ h => excused_mild h.1 h.2) (h w hw)

lemma Handles.from (h : Handles due t J' x) (hJ : ∀ w, J w → J' w) : Handles due t J x :=
  fun w hw => h w (hJ w hw)

lemma mild_handles [h : Mild due t (Gated t) x] : Handles due t (Gated t) x := h.out

lemma settled [hJ : Stable t J] [Mild due t (Gated t) x] : Answers due t J x :=
  (mild_handles.from hJ.gated).answers

lemma handles_bind [hJ : Stable t J] [hx : Mild due t J x]
    (hf : ∀ b, Handles due t J (f b)) : Handles due t J (x >>= f) :=
  fun w hw => wpe_seq (hx.out w hw) (fun _ w' h => ⟨hJ.gated w' h.1, h.2⟩) fun b w' h => hf b w' h

lemma handles_ite [Decidable c] (hx : c → Handles due t J x) (hy : ¬ c → Handles due t J y) :
    Handles due t J (if c then x else y) := by
  split
  · exact hx (by assumption)
  · exact hy (by assumption)

lemma Yields.from (h : Yields due t J x Q) (hJ : ∀ w, J' w → J w) :
    Yields due t J' x Q := fun w hw => h w (hJ w hw)

lemma yields_seq {R : β → AndroidWorld → Prop}
    (hx : Yields due t J x R) (hf : ∀ b, Yields due t (R b) (f b) Q) : Yields due t J (x >>= f) Q :=
  fun w hw => wpe_seq (hx w hw) (fun _ _ h => h) fun b w' h => hf b w' h

lemma yields_mild [hJ : Stable t J] [hx : Mild due t J x] :
    Yields due t J x (fun _ => J) := fun w hw =>
  wpe_mono (fun _ _ h => h) (fun _ w' h => excused_mild (hJ.gated w' h.1) h.2) (hx.out w hw)

lemma yields_bind [Stable t J] [Mild due t J x]
    (hf : ∀ b, Yields due t J (f b) Q) : Yields due t J (x >>= f) Q :=
  yields_seq yields_mild hf

lemma yields_ite [Decidable c] (hx : c → Yields due t J x Q)
    (hy : ¬ c → Yields due t J y Q) : Yields due t J (if c then x else y) Q := by
  split
  · exact hx (by assumption)
  · exact hy (by assumption)

lemma yields_throw [hJ : Stable t J] (h : replacing error = false) :
    Yields due t J (throw error : Coordinate params α) Q :=
  fun w hw => excused_mild (hJ.gated w hw) h

lemma yields_map (f : β → α)
    (hx : Yields due t J x fun b => Q (f b)) : Yields due t J (f <$> x) Q := by
  intro w hw
  rw [wpe_map]
  exact hx w hw

lemma wpe_read [hJ : Stable t J] [hre : Steady params J .read] (hw : J w) :
    wpe (owed params due) t (stored params .read)
      (fun result w => J w ∧ ∀ e, result = .ok e → Saw params due e w) (fun _ _ => False) w := by
  refine wpe_store (hJ.gated w hw) (fun _ hd => absurd hd hre.retains)
    fun w1 i result w' hrl hf _ ha _ => ?_
  have hJ' := hre.access w1 i result w' hf.valid (hJ.rely _ _ hw hrl) ha
  obtain ⟨hr, -⟩ := access_frame ha
  refine ⟨?_, ?_, fun ht => ?_⟩
  · rintro e rfl
    refine ⟨hJ', ?_⟩
    rintro _ ⟨⟩
    refine ⟨(fit_run hf hr).2 e rfl, ?_⟩
    show (recordOf w'.stored).leaseTransaction = _
    rcases read_cases hr with hs | ⟨hs, _, rfl⟩
    · rw [hs]
      rfl
    · rw [hs]
      rfl
  · exact fun _ _ => ⟨hJ', by rintro _ ⟨⟩⟩
  · refine absurd ht (run_not_thrown (fun _ _ h => ?_) hr)
    cases h

lemma yields_readOrThrow [hJ : Stable t J] [Steady params J .read] :
    Yields due t J (storedOrThrow params .read) fun e w => J w ∧ Saw params due e w := by
  intro w hw
  refine wpe_seq (wpe_read hw) (fun _ _ h => h.elim) fun result w' h => ?_
  cases result with
  | ok e => exact ⟨h.1, h.2 e rfl⟩
  | error => exact excused_mild (hJ.gated w' h.1) (replacing_store _)

/-- The thread owns the operation of a lease. -/
abbrev OwnsLease (t : ℕ) (transaction : AndroidLeaseTransaction) : AndroidWorld → Prop :=
  Owns t transaction.startOperationId transaction.leaseId

lemma Saw.owns (h : Saw params due e w) (hg : Gated t w)
    (hl : e.leaseTransaction = some transaction) :
    OwnsLease t transaction w :=
  ⟨hg, transaction, h.lease.trans hl, rfl, rfl⟩

lemma Saw.same {e : AndroidRecoveryEnvelope} {transaction : AndroidLeaseTransaction} {o : String}
    {lease : Option String} (h : Saw params due e w) (how : Owns t o lease w)
    (hl : e.leaseTransaction = some transaction) :
    transaction.startOperationId = o ∧ transaction.leaseId = lease := by
  obtain ⟨-, _, hl', ho, hle⟩ := how
  rw [h.lease, hl] at hl'
  cases hl'
  exact ⟨ho, hle⟩

end Rules

section Failures

variable {params : AndroidParameters} {due : Prop} {t : ℕ} {call : StoreCall}

lemma not_drops [h : Retains call] : ¬ Drops call := fun hd => h.out (moves_of_drops hd)

instance [Retains call] : Mild due t (Gated t) (retryIf params call) := by
  refine mild_bind fun result => ?_
  cases result <;> infer_instance

instance : Mild due t (Gated t) (recordDirectRetry params code pendingAction generation) := by
  refine mild_bind fun result => ?_
  cases result <;> infer_instance

instance : Mild due t (Gated t) (AndroidCoordinator.recordTerminalCleanupRetry params) := by
  refine mild_bind fun result => ?_
  cases result <;> infer_instance

instance : Mild due t (Gated t) (terminalWithLease params env lease leaseId code) := by
  unfold terminalWithLease
  infer_instance

instance : Mild due t (Gated t) (terminalWithoutLease params env code) := by
  unfold terminalWithoutLease
  infer_instance

instance : Mild due t (Gated t) (recordTerminalFailure params code) := by
  refine mild_bind fun result => ?_
  repeat' first | infer_instance | split

instance : Mild due t (Gated t) (continueDisarmed params env code) := by
  unfold continueDisarmed
  repeat' first | infer_instance | split | refine mild_bind fun _ => ?_

instance : Mild due t (Gated t) (retryProfile params env code retryAt delay) := by
  unfold retryProfile
  repeat' first | infer_instance | split

instance : Mild due t (Gated t) (retryRecorded params env decision code retryAt delay) := by
  unfold retryRecorded
  infer_instance

lemma answers_recordDirectRetry [Stable t J] :
    Answers due t J (recordDirectRetry params code pendingAction generation) := settled

lemma answers_recordTerminalFailure [Stable t J] :
    Answers due t J (recordTerminalFailure params code) := settled

end Failures

section Decisions

variable {params : AndroidParameters} {due : Prop} {t : ℕ} {w : AndroidWorld}
  {e : AndroidRecoveryEnvelope} {error : Throwable} {lease : Option String}

lemma wpe_drop (h : MayDrop due t o lease w) :
    wpe (owed params due) t (stored params call)
      (fun _ => Gated t) (fun error w => Gated t w ∧ replacing error = false) w := by
  refine wpe_store h.1.1 (fun ha _ w1 _ hr _ => MayDrop.released (Stable.rely w w1 h hr) ha)
    fun w1 i result _ _ _ _ _ hg' => ?_
  exact ⟨fun _ _ => hg', fun _ _ => hg', fun _ => ⟨hg', rfl⟩⟩

def Weighed (due : Prop) (t : ℕ) (error : Throwable) (e : AndroidRecoveryEnvelope)
    (w : AndroidWorld) : Prop :=
  Gated t w ∧
    ∀ transaction, e.leaseTransaction = some transaction → transaction.phase.cleaning = false →
      renewing error = true → MayDrop due t transaction.startOperationId transaction.leaseId w

instance : Stable t (Weighed due t error e) where
  gated _ h := h.1
  rely w w' h hre := ⟨h.1.relied hre, fun transaction hl hp hr =>
    Stable.rely w w' (h.2 transaction hl hp hr) hre⟩
  same w w' h hs := ⟨hs.gate.trans h.1, fun transaction hl hp hr =>
    Stable.same (t := t) w w' (h.2 transaction hl hp hr) hs⟩

lemma weighed_of_excused (h : Excused due t error w) (hsaw : Saw params due e w) :
    Weighed due t error e w := by
  refine ⟨h.1, fun transaction hl hp hre => ⟨hsaw.owns h.1 hl, fun ha => ?_⟩⟩
  rcases h.2 ha hre with ⟨_, hl', hca⟩ | ⟨hn, -⟩
  · rw [hsaw.lease, hl] at hl'
    cases hl'
    rcases hca with hc | hcl
    · rw [hp] at hc
      cases hc
    · exact hcl
  · rw [hsaw.lease, hl] at hn
    cases hn

lemma handles_retryNewOperation (hr : renewing error = true) :
    Handles due t (Weighed due t error e) (retryNewOperation params e code retryAt delay) := by
  intro w h
  unfold retryNewOperation
  split
  · exact h.1
  · rename_i lease hl
    split
    · exact Mild.out w h.1
    · rename_i hp
      have hd := h.2 lease hl (Bool.not_eq_true _ ▸ hp) hr
      refine handles_bind (fun _ _ h1 => ?_) w hd
      exact wpe_seq (wpe_drop h1) (fun _ _ h => h) fun _ _ h2 => h2

lemma renewing_of_decision (h : classify code x y z = .retryNewOperation) :
    renewing (.background code retryAfter) = true := by
  have hd : decisions code = .retryNewOperation := by
    unfold classify at h
    split at h
    · split at h <;> cases h
    · split at h
      · cases h
      · split at h <;> cases h
    · exact h
  unfold decisions at hd
  split at hd
  · exact List.contains_iff_mem.mpr (by assumption)
  · repeat' split at hd
    all_goals cases hd

lemma handles_decideFailure :
    Handles due t (Weighed due t (.background code retryAfter) e)
      (decideFailure params e code retryAfter) := by
  refine handles_ite (fun _ => mild_handles.from fun _ h => h.1) fun _ => handles_bind fun now => ?_
  refine handles_ite (fun _ => mild_handles.from fun _ h => h.1) fun _ =>
    handles_ite (fun hn => ?_) fun _ => mild_handles.from fun _ h => h.1
  exact handles_retryNewOperation (renewing_of_decision hn)

lemma handles_recordFailureDecision :
    Handles due t (Excused due t (.background code retryAfter))
      (recordFailureDecision params code retryAfter) := by
  intro w h
  unfold recordFailureDecision
  refine wpe_seq (wpe_read h) (fun _ _ h => h.elim) fun result w1 h1 => ?_
  cases result with
  | error failure => exact h1.1.1
  | ok env =>
    dsimp only
    split
    · exact Mild.out w1 h1.1.1
    · split
      · exact Mild.out w1 h1.1.1
      · exact handles_decideFailure w1 (weighed_of_excused h1.1 (h1.2 env rfl))

lemma handles_attemptFailed (error : Throwable) :
    Handles due t (Excused due t error) (attemptFailed params error) := by
  cases error with
  | background => exact handles_recordFailureDecision
  | unexpected =>
    unfold attemptFailed
    exact mild_handles.from fun _ h => h.1

end Decisions

section Successes

variable {params : AndroidParameters} {stored stored' : Option AndroidRecoveryEnvelope}
  {i : StoreInput} {e : AndroidRecoveryEnvelope}

variable {call : StoreCall}

lemma fenced_same (h : fenced current g k = .same) : k = .same := by
  unfold fenced at h
  split at h
  · exact h
  · cases h

lemma promoted_run
    (h : (StoreCall.promotePendingRedundant pending session).run params i stored = (.success e, stored')) :
    (recordOf stored').leaseTransaction = none ∧ (recordOf stored').redundantTransaction.isSome =
      true := by
  cases run_cases h with
  | same bootCount hr hd hst hc =>
    simp only [StoreCall.change, promotePendingRedundant] at hc
    split at hc <;> cases hc
  | wrote bootCount hr hc =>
    cases change_cases hc with
    | promotePendingRedundant => exact ⟨rfl, rfl⟩
    | set hs => rcases hs with h | ⟨-, h | h⟩ <;> cases h
    | schedule hs => cases hs

lemma mutateTransaction_not_same (h : mutateTransaction current g mutation = .same) : False := by
  have hs := fenced_same h
  unfold onLease at hs
  split at hs
  · cases hs
  · dsimp only at hs
    split at hs
    · split at hs <;> cases hs
    · cases hs

lemma cleaning_run
    (h : (StoreCall.requireCleanup g leaseId stopOperationId restartIfDesired).run params i stored =
      (.success e, stored')) :
    ∃ lease, (recordOf stored').leaseTransaction = some lease ∧
      lease.phase.cleaning = true := by
  cases run_cases h with
  | same bootCount hr hd hso hc => exact (mutateTransaction_not_same hc).elim
  | wrote bootCount hr hc =>
    cases change_cases hc with
    | requireCleanup hle hl hst hre hp =>
      refine ⟨_, rfl, ?_⟩
      rw [hp]
      rfl
    | set hs => rcases hs with h | ⟨-, h | h⟩ <;> cases h
    | schedule hs => cases hs

end Successes

end NelomaiClient.AndroidDecisions
