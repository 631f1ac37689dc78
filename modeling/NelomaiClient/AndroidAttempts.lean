import NelomaiClient.AndroidContract

/-!
# Attempts under the operation gate

An attempt that has read a lease transaction owns its start until it completes
the transaction. `Issues (Owner …)` covers the programs that only use what the
owner may call; `Ends` covers those that may also complete the transaction, after
which nothing follows that would need it.
-/

set_option synthInstance.maxSize 1024

namespace NelomaiClient.AndroidAttempts

open AndroidRecovery AndroidRecoveryStore AndroidCoordinator AndroidContract
open AwaitRely AwaitFallible AwaitFootprint

def Gated (t : ℕ) (w : AndroidWorld) : Prop := w.operationGate = some t

def Held (t : ℕ) (σ : Nat × String) (w : AndroidWorld) : Prop :=
  w.operationGate = some t ∧ Owned σ w.record

section Owner

variable (params : AndroidParameters) (fits owner fresh : Prop) (σ : Nat × String)

@[reducible]
def Owner : (android params).Cmd → Prop
  | .store call => Inside fresh σ call
  | .commit _ _ | .takeGate | .freeGate => False
  | .start template transaction =>
    (fits → startOf transaction.replay = templateStart params template) ∧
      (fresh → transaction.phase.cleaning = false)
  | _ => True

/-- The start is not one of the second contract, where that matters. -/
class First : Prop where
  out : fresh → σ.1 ≠ 2

class Of (transaction : AndroidLeaseTransaction) : Prop where
  out : startOf transaction.replay = σ

class Sendable (template : AndroidIntentTemplate) (transaction : AndroidLeaseTransaction) :
    Prop where
  /-- Its replay is one of the template and it is not cleaned up. -/
  out : (fits → startOf transaction.replay = templateStart params template) ∧
    (fresh → transaction.phase.cleaning = false)

variable {params fits owner fresh σ} {α β : Type}

lemma held_tolerates :
    Tolerates (contract params fits owner fresh) t (Held t σ) (Owner params fits fresh σ) where
  rely w w' _ hh hr := by
    obtain ⟨hg, hk⟩ := hr.2 hh.1
    exact ⟨hg, hh.2.kept hk⟩
  step c i r w w' hc hi hh _ hse := by
    have hpl : Plain c → (∀ template transaction, c = .start template transaction →
        (fits → startOf transaction.replay = templateStart params template) ∧
          (fresh → transaction.phase.cleaning = false)) →
        (contract params fits owner fresh).inv w' ∧ Guaranteed params fits fresh t c w w' ∧
          Held t σ w' := by
      intro hp hst
      have hs := plain_sem hp hse
      refine ⟨?_, guaranteed_plain hs ?_ hst, hs.gate.trans hh.1, ?_⟩
      · intro e he
        exact hi e (hs.stored ▸ he)
      · rintro _ _ rfl
        exact hp
      · simp only [AndroidWorld.record, hs.stored]
        exact hh.2
    cases c with
    | store =>
      cases i with
      | store i =>
        have ha := Option.some.inj hse
        obtain ⟨hrun, hg, -⟩ := access_frame ha
        exact ⟨(sane_run (permits_inside hh.2 hc) hi hrun).1,
          guaranteed_access ha (.inl hh.1), hg.trans hh.1,
          (owned_run hc hh.2 hrun).1⟩
      | _ => cases hse
    | commit | takeGate | freeGate => exact hc.elim
    | start =>
      refine hpl trivial ?_
      rintro _ _ ⟨⟩
      exact hc
    | _ => exact hpl trivial (by rintro _ _ ⟨⟩)

instance [h : Makes (Owner params fits fresh σ) (ask params (.store call))] :
    Issues (Owner params fits fresh σ) (stored params call) := by
  refine issues_bind fun result => ?_
  cases result <;> (unfold storeOutcome; infer_instance)

instance [Issues (Owner params fits fresh σ) (stored params call)] :
    Issues (Owner params fits fresh σ) (storedOrThrow params call) := by
  refine issues_bind fun result => ?_
  cases result <;> (unfold orThrow; infer_instance)

instance : Issues (Owner params fits fresh σ) (notNull params value) := by
  cases value <;> (unfold notNull; infer_instance)

instance {φ : (android params).Cmd → Prop} [h : Evident (φ c)] :
    Makes (α := no_index _) φ (ask params c) := makes_ask h.out

instance [h : First fresh σ] : Evident (fresh → σ.1 ≠ 2) := ⟨h.out⟩

instance [h : Of σ transaction] :
    Evident (startOf { transaction.replay with startOperationId := startOperationId } = σ) :=
  ⟨h.out⟩

instance [h : Sendable params fits fresh template transaction] :
    Evident ((fits → startOf transaction.replay = templateStart params template) ∧
      (fresh → transaction.phase.cleaning = false)) := ⟨h.out⟩

end Owner

section Rules

variable (params : AndroidParameters) (fits owner fresh : Prop) (t : ℕ) (σ : Nat × String)

/-- A program that the owner may run; after an error it still owns its start. -/
def Ends {α : Type} (x : Coordinate params α) : Prop :=
  ∀ w, Held t σ w → wpe (contract params fits owner fresh) t x (fun _ => Gated t)
    (fun _ => Held t σ) w

/-- A program after which the owner still owns its start and knows `P` of the answer. -/
def Keeps {α : Type} (x : Coordinate params α) (P : α → Prop) : Prop :=
  ∀ w, Held t σ w →
    wpe (contract params fits owner fresh) t x (fun a w => P a ∧ Held t σ w) (fun _ => Held t σ) w

structure Known (e : AndroidRecoveryEnvelope) : Prop where
  sane : Sane params fits owner fresh e
  owned : Owned σ e

variable {params fits owner fresh t σ} {α β : Type}

lemma ends_of_issues [Issues (Owner params fits fresh σ) x] :
    Ends params fits owner fresh t σ x := by
  intro w hh
  exact wpe_mono (fun _ _ h => h.1) (fun _ _ h => h) (held_tolerates.wpe x hh)

lemma ends_pure (a : α) : Ends params fits owner fresh t σ (pure a) := fun _ h => h.1

lemma ends_throw (e : Throwable) :
    Ends params fits owner fresh t σ (throw e : Coordinate params α) :=
  fun _ h => h

lemma ends_bind [Issues (Owner params fits fresh σ) x]
    (hf : ∀ b, Ends params fits owner fresh t σ (f b)) :
    Ends params fits owner fresh t σ (x >>= f) := by
  intro w hh
  exact wpe_seq (held_tolerates.wpe x hh) (fun _ _ h => h) (fun b w h => hf b w h)

lemma ends_seq {P : β → Prop} (hx : Keeps params fits owner fresh t σ x P)
    (hf : ∀ b, P b → Ends params fits owner fresh t σ (f b)) :
    Ends params fits owner fresh t σ (x >>= f) := by
  intro w hh
  exact wpe_seq (hx w hh) (fun _ _ h => h) (fun b w h => hf b h.1 w h.2)

lemma ends_ite [Decidable c] (hx : c → Ends params fits owner fresh t σ x)
    (hy : ¬c → Ends params fits owner fresh t σ y) :
    Ends params fits owner fresh t σ (if c then x else y) := by
  split
  · exact hx (by assumption)
  · exact hy (by assumption)

lemma Known.of (h : Known params fits owner fresh σ e)
    (hl : e.leaseTransaction = some transaction) :
    Of σ transaction := ⟨h.owned.start hl⟩

lemma Known.first (h : Known params fits owner fresh σ e) (hl : e.leaseTransaction = some lease)
    (hle : lease.leaseId ≠ none) : First fresh σ := by
  refine ⟨fun hq hc => hle (h.sane.second hq lease hl ?_).1⟩
  rw [← hc, ← h.owned.start hl]
  rfl

lemma first_of_contract [h : Of σ transaction]
    (hc : transaction.replay.contractVersion ≠ 2) : First fresh σ := by
  refine ⟨fun _ hs => hc ?_⟩
  rw [← hs, ← h.out]
  rfl

lemma wpe_stored
    (h : ∀ w1, K.inv w1 → K.rely t w w1 → ∀ i result w', K.cond t (.store call) (.store i) w1 →
      w1.access params call i = (result, w') →
      K.inv w' ∧ K.guar t (.store call) (.store i) w1 w' ∧
      (∀ e, result = .success e → Q (.ok e) w') ∧
      (∀ failure, result = .failure failure → Q (.error failure) w') ∧
      (result = .thrown → E .unexpected w')) :
    wpe K t (stored params call) Q E w := by
  unfold stored
  rw [wpe_bind, wpe_surely]
  refine (wp_ask K t _ _ _).mpr fun w1 hi hr i r w' _ hc hse => ?_
  cases i with
  | store i =>
    obtain ⟨hi', hg, hs, hf, ht⟩ := h w1 hi hr i r w' hc (Option.some.inj hse)
    refine ⟨hi', hg, ?_⟩
    cases r with
    | success e => exact hs e rfl
    | failure failure => exact hf failure rfl
    | thrown => exact ht rfl
  | _ => cases hse

lemma Gated.relied (h : Gated t w) (hr : Relied t w w1) : Gated t w1 := (hr.2 h).1

lemma Held.relied (h : Held t σ w) (hr : Relied t w w1) : Held t σ w1 := by
  obtain ⟨hg, hk⟩ := hr.2 h.1
  exact ⟨hg, h.2.kept hk⟩

lemma keeps_read :
    Keeps params fits owner fresh t σ (stored params .read) fun result => ∀ e, result = .ok e →
      Known params fits owner fresh σ e := by
  intro w hh
  refine wpe_stored fun _ hi hr i result w' _ ha => ?_
  have hh1 := hh.relied hr
  obtain ⟨hrun, hg, -⟩ := access_frame ha
  obtain ⟨hi', hsane⟩ :=
    sane_run (show Permits params fits owner fresh .read _ from trivial) hi hrun
  obtain ⟨ho', ho⟩ := owned_run (show Inside fresh σ .read from trivial) hh1.2 hrun
  have hh' : Held t σ w' := ⟨hg.trans hh1.1, ho'⟩
  refine ⟨hi', guaranteed_access ha (.inl hh1.1), ?_, ?_, fun _ => hh'⟩
  · intro e hs
    refine ⟨?_, hh'⟩
    rintro _ ⟨⟩
    exact ⟨hsane e hs, ho e hs⟩
  · intro _ _
    refine ⟨?_, hh'⟩
    rintro _ ⟨⟩

lemma keeps_readOrThrow :
    Keeps params fits owner fresh t σ (storedOrThrow params .read)
      (Known params fits owner fresh σ) := by
  intro w hh
  refine wpe_seq (keeps_read w hh) (fun _ _ h => h) fun result w' h => ?_
  cases result with
  | ok e => exact ⟨h.1 e rfl, h.2⟩
  | error => exact h.2

def Completes : StoreCall → Prop
  | .completeCleanup _ | .completeCleanupAsTerminal _ | .completeInitialTerminalCleanup _
  | .completeCancelledStart _ _ => True
  | _ => False

lemma wpe_complete (hc : Completes call) (hh : Held t σ w) :
    wpe (contract params fits owner fresh) t (stored params call)
      (fun result w => Gated t w ∧ ∀ failure, result = .error failure → Held t σ w)
      (fun _ => Held t σ) w := by
  refine wpe_stored fun w1 hi hr i result w' hcond ha => ?_
  have hh1 := hh.relied hr
  obtain ⟨hrun, hg, -⟩ := access_frame ha
  have hp : Permits params fits owner fresh call (recordOf w1.stored) := by
    cases call with
    | completeCleanup g =>
      intro hl
      have hs : (!w1.record.intent.desiredActive) = true := hcond.2.1 hl
      exact Bool.not_eq_true' _ ▸ hs
    | completeCleanupAsTerminal | completeInitialTerminalCleanup | completeCancelledStart =>
      exact trivial
    | _ => exact hc.elim
  have hf : (∀ e, result ≠ .success e) → Held t σ w' := fun hf =>
    ⟨hg.trans hh1.1, hh1.2.kept (kept_failed hrun hf)⟩
  refine ⟨(sane_run hp hi hrun).1, guaranteed_access ha (.inl hh1.1), ?_, ?_, ?_⟩
  · intro e _
    refine ⟨hg.trans hh1.1, ?_⟩
    rintro _ ⟨⟩
  · rintro _ rfl
    exact ⟨hg.trans hh1.1, fun _ _ => hf fun _ h => StoreResult.noConfusion h⟩
  · rintro rfl
    exact hf fun _ h => StoreResult.noConfusion h

lemma ends_endCleanup (hc : Completes call) (step : AndroidCoordinatorStep) :
    Ends params fits owner fresh t σ (endCleanup params step call) := by
  intro w hh
  unfold endCleanup storedOrThrow
  rw [wpe_bind, wpe_bind]
  refine wpe_mono (fun result _ h => ?_) (fun _ _ h => h) (wpe_complete hc hh)
  cases result with
  | ok e => exact h.1
  | error failure => exact h.2 failure rfl

end Rules

section Failures

variable {params : AndroidParameters} {fits fresh : Prop} {σ : Nat × String}

instance [Issues (Owner params fits fresh σ) (stored params call)] :
    Issues (Owner params fits fresh σ) (retryIf params call) := by
  refine issues_bind fun result => ?_
  cases result <;> infer_instance

instance : Issues (Owner params fits fresh σ) (stopOperation params transaction) := by
  unfold stopOperation
  split <;> infer_instance

instance :
    Issues (Owner params fits fresh σ)
      (recordDirectRetry params code pendingAction expectedGeneration) := by
  refine issues_bind fun result => ?_
  cases result <;> infer_instance

instance : Issues (Owner params fits fresh σ)
    (AndroidCoordinator.recordTerminalCleanupRetry params) := by
  refine issues_bind fun result => ?_
  cases result <;> infer_instance

instance :
    Issues (Owner params fits fresh σ)
      (terminalWithLease params envelope transaction leaseId code) := by
  unfold terminalWithLease
  infer_instance

instance : Issues (Owner params fits fresh σ) (terminalWithoutLease params envelope code) := by
  unfold terminalWithoutLease
  infer_instance

instance : Issues (Owner params fits fresh σ) (recordTerminalFailure params code) := by
  unfold recordTerminalFailure
  refine issues_bind fun result => ?_
  cases result with
  | error => infer_instance
  | ok =>
    dsimp only
    split
    · infer_instance
    · split <;> infer_instance

instance :
    Issues (Owner params fits fresh σ) (retryProfile params envelope code retryAt delay) := by
  unfold retryProfile
  split
  · infer_instance
  · split <;> infer_instance

instance :
    Issues (Owner params fits fresh σ)
      (retryRecorded params envelope decision code retryAt delay) := by
  unfold retryRecorded
  infer_instance

lemma issues_retryNewOperation (h : Known params fits owner fresh σ envelope) (code : String)
    (retryAt delay : Int) :
    Issues (Owner params fits fresh σ) (retryNewOperation params envelope code retryAt delay) := by
  unfold retryNewOperation
  split
  · infer_instance
  · rename_i transaction hl
    have := h.of hl
    infer_instance

lemma issues_continueDisarmed (h : Known params fits owner fresh σ env) (code : String) :
    Issues (Owner params fits fresh σ) (continueDisarmed params env code) := by
  unfold continueDisarmed
  split
  · infer_instance
  · rename_i lease hle
    split
    · infer_instance
    · rename_i leaseId hl
      have := h.first hle (by rw [hl]; nofun)
      refine issues_bind fun _ => issues_bind fun result => ?_
      cases result <;> infer_instance

lemma issues_decideFailure (h : Known params fits owner fresh σ env) (code : String)
    (retryAfter : Option Int) :
    Issues (Owner params fits fresh σ) (decideFailure params env code retryAfter) := by
  unfold decideFailure
  have := fun retryAt delay => issues_retryNewOperation h code retryAt delay
  infer_instance

lemma ends_recordFailureDecision (code : String) (retryAfter : Option Int) :
    Ends params fits owner fresh t σ (recordFailureDecision params code retryAfter) := by
  refine ends_seq keeps_read fun result hk => ?_
  cases result with
  | error => exact ends_pure _
  | ok env =>
    have := issues_continueDisarmed (hk env rfl) code
    have := issues_decideFailure (hk env rfl) code retryAfter
    exact ends_of_issues

end Failures

section Cleanup

variable {params : AndroidParameters} {fits owner fresh : Prop} {t : ℕ} {σ : Nat × String}
  {α : Type}

instance : Issues (Owner params fits fresh σ) (completeInitial params envelope result) := by
  cases result <;> (unfold completeInitial; infer_instance)

instance [Of σ transaction] :
    Issues (Owner params fits fresh σ) (restartAfterCleanup params envelope transaction) := by
  unfold restartAfterCleanup
  infer_instance

instance : Issues (Owner params fits fresh σ) (reconciledLease params reconciled) := by
  unfold reconciledLease
  split <;> infer_instance

lemma ends_completeInitial (hc : Completes call) (env : AndroidRecoveryEnvelope) :
    Ends params fits owner fresh t σ (stored params call >>= completeInitial params env) := by
  intro w hh
  rw [wpe_bind]
  refine wpe_mono (fun result w' h => ?_) (fun _ _ h => h) (wpe_complete hc hh)
  cases result with
  | ok e => exact h.1
  | error failure => exact ends_of_issues w' (h.2 failure rfl)

variable (envelope : AndroidRecoveryEnvelope) (transaction : AndroidLeaseTransaction)

lemma ends_completeWithoutLease [Of σ transaction] :
    Ends params fits owner fresh t σ (completeWithoutLease params envelope transaction) := by
  refine ends_ite (fun _ => ends_of_issues) fun _ => ?_
  refine ends_ite (fun _ => ends_endCleanup (by exact trivial) _) fun _ => ?_
  refine ends_ite (fun _ => ends_completeInitial (by exact trivial) _) fun _ => ?_
  exact ends_ite (fun _ => ends_endCleanup (by exact trivial) _) fun _ =>
    ends_endCleanup (by exact trivial) _

lemma ends_completeWithLease [Of σ transaction] :
    Ends params fits owner fresh t σ (completeWithLease params envelope transaction) := by
  refine ends_ite (fun _ => ends_of_issues) fun _ => ?_
  refine ends_ite (fun _ => ends_endCleanup (by exact trivial) _) fun _ => ?_
  exact ends_ite (fun _ => ends_endCleanup (by exact trivial) _) fun _ =>
    ends_endCleanup (by exact trivial) _

def Rounds (params : AndroidParameters) (fits owner fresh : Prop) (t : ℕ) (σ : Nat × String)
    (x : Coordinate params (Unit ⊕ α)) : Prop :=
  ∀ w, Held t σ w →
    wpe (contract params fits owner fresh) t x
      (fun r w => match r with
        | .inl _ => Held t σ w
        | .inr _ => Gated t w) (fun _ => Held t σ) w

lemma rounds_of_issues [Issues (Owner params fits fresh σ) x] :
    Rounds params fits owner fresh t σ x := by
  intro w hh
  refine wpe_mono (fun r _ h => ?_) (fun _ _ h => h) (held_tolerates.wpe x hh)
  cases r with
  | inl u => exact h
  | inr a => exact h.1

lemma rounds_done (hx : Ends params fits owner fresh t σ x) :
    Rounds params fits owner fresh t σ ((.inr : α → Unit ⊕ α) <$> x) := by
  intro w hh
  rw [wpe_map]
  exact hx w hh

lemma rounds_cleanupWithoutLease [Of σ transaction] :
    Rounds params fits owner fresh t σ (cleanupWithoutLease params envelope transaction) := by
  intro w hh
  unfold cleanupWithoutLease
  refine wpe_seq (held_tolerates.wpe _ hh) (fun _ _ h => h) fun reconciled w' hh' => ?_
  refine (?_ : Rounds params fits owner fresh t σ _) w' hh'
  cases reconciled.state with
  | applied =>
    dsimp only
    split
    · exact rounds_done ends_of_issues
    · rename_i hc
      have : First fresh σ := first_of_contract hc
      exact rounds_of_issues
  | pending | applying | compensating | other => exact rounds_done ends_of_issues
  | _ => exact rounds_done (ends_completeWithoutLease envelope transaction)

lemma keeps_requireAgain [First fresh σ] (env : AndroidRecoveryEnvelope)
    (leaseId stopOperationId : String) :
    Keeps params fits owner fresh t σ (requireAgain params env leaseId stopOperationId)
      fun p => Of σ p.2 := by
  intro w hh
  refine wpe_seq (held_tolerates.wpe _ hh) (fun _ _ h => h) fun _ w1 hh1 => ?_
  refine wpe_seq (keeps_readOrThrow w1 hh1) (fun _ _ h => h) fun e w2 h => ?_
  cases hl : e.leaseTransaction with
  | none => exact h.2
  | some => exact ⟨h.1.of hl, h.2⟩

lemma keeps_pure {a : α} (h : P a) : Keeps params fits owner fresh t σ (pure a) P :=
  fun _ hh => ⟨h, hh⟩

lemma keeps_bind {β : Type} {x : Coordinate params β} {f : β → Coordinate params α}
    [Issues (Owner params fits fresh σ) x] (hf : ∀ b, Keeps params fits owner fresh t σ (f b) P) :
    Keeps params fits owner fresh t σ (x >>= f) P := by
  intro w hh
  exact wpe_seq (held_tolerates.wpe x hh) (fun _ _ h => h) fun b w' h => hf b w' h

lemma keeps_withStopOperation [First fresh σ] (env : AndroidRecoveryEnvelope)
    (lease : AndroidLeaseTransaction) [h : Of σ lease] :
    Keeps params fits owner fresh t σ (withStopOperation params env lease) fun p => Of σ p.2 := by
  unfold withStopOperation
  split
  · exact keeps_bind fun leaseId => keeps_bind fun stopOperationId =>
      keeps_requireAgain env leaseId stopOperationId
  · exact keeps_pure h

lemma keeps_withLocalStop [First fresh σ] (env : AndroidRecoveryEnvelope)
    (lease : AndroidLeaseTransaction) [h : Of σ lease] :
    Keeps params fits owner fresh t σ (withLocalStop params env lease) fun p => Of σ p.2 := by
  unfold withLocalStop
  split
  · exact keeps_bind fun leaseId => keeps_bind fun stopOperationId =>
      keeps_requireAgain env leaseId stopOperationId
  · exact keeps_pure h

lemma ends_giveBack
    [Of σ transaction] :
    Ends params fits owner fresh t σ (giveBack params envelope transaction) := by
  unfold giveBack
  refine ends_bind fun _ => ends_bind fun stopOperationId => ends_bind fun result => ?_
  cases result with
  | error =>
    unfold stopFailed
    exact ends_of_issues
  | ok _ => exact ends_completeWithLease envelope transaction

lemma ends_cleanupWithLease [First fresh σ] (envelope : AndroidRecoveryEnvelope)
    (transaction : AndroidLeaseTransaction) [Of σ transaction] :
    Ends params fits owner fresh t σ (cleanupWithLease params envelope transaction) := by
  refine ends_seq (keeps_withStopOperation envelope transaction) fun p hp => ?_
  have : Of σ p.2 := hp
  refine ends_seq (keeps_withLocalStop p.1 p.2) fun p' hp' => ?_
  have : Of σ p'.2 := hp'
  refine ends_bind fun _ => ends_ite (fun _ => ends_giveBack p'.1 p'.2) fun _ => ?_
  exact ends_of_issues

lemma rounds_cleanupRound (u : Unit) :
    Rounds params fits owner fresh t σ (cleanupRound params u) := by
  intro w hh
  refine wpe_seq (keeps_readOrThrow w hh) (fun _ _ h => h) fun envelope w' h => ?_
  obtain ⟨hk, hh'⟩ := h
  cases hle : envelope.leaseTransaction with
  | none => exact hh'.1
  | some transaction =>
    have := hk.of hle
    cases hl : transaction.leaseId with
    | none =>
      simp only [hl, Option.isNone_none, if_true]
      exact rounds_cleanupWithoutLease envelope transaction w' hh'
    | some =>
      have := hk.first hle (by rw [hl]; nofun)
      simp only [hl, Option.isNone_some, Bool.false_eq_true, if_false]
      exact rounds_done (ends_cleanupWithLease envelope transaction) w' hh'

lemma ends_cleanup : Ends params fits owner fresh t σ (cleanup params) := by
  intro w hh
  refine wpe_loop (fun _ => Held t σ) hh fun u w' h => ?_
  refine wpe_mono (fun r _ hr => ?_) (fun _ _ h => h) (rounds_cleanupRound u w' h)
  cases r with
  | inl u | inr => exact hr

end Cleanup

section Starts

variable {params : AndroidParameters} {fits fresh : Prop} {σ : Nat × String}

instance [Sendable params fits fresh template transaction] :
    Issues (Owner params fits fresh σ) (requestStart params template transaction) := by
  unfold requestStart sendStart
  refine issues_bind fun _ => issues_bind fun answer => issues_bind fun cancelled =>
    issues_bind fun _ => ?_
  rcases answer with _ | _ | answer
  · unfold requestEnded
    infer_instance
  · unfold requestEnded
    infer_instance
  · unfold requestEnded
    cases answer <;> (unfold startAnswer; infer_instance)

instance : Issues (Owner params fits fresh σ) (stillDesired params transaction) := by
  unfold stillDesired
  infer_instance

lemma ends_completed (hc : Completes call) (step : AndroidCoordinatorStep) :
    Ends params fits owner fresh t σ (stored params call >>= fun _ => pure step) := by
  intro w hh
  rw [wpe_bind]
  exact wpe_mono (fun _ _ h => h.1) (fun _ _ h => h) (wpe_complete hc hh)

variable {transaction : AndroidLeaseTransaction} {leaseId : String} {leaseAlreadyStored : Bool}

lemma ends_closeAuthoritative [Of σ lease] (code : String) :
    Ends params fits owner fresh t σ
      (closeAuthoritativePendingStartAndRetry params env lease code) := by
  refine ends_ite (fun _ => ?_) fun _ => ends_of_issues
  exact ends_ite (fun _ => ends_completed (by exact trivial) _) fun _ => ends_of_issues

lemma ends_promote (result : BackgroundStartResult) :
    Ends params fits owner fresh t σ (promote params lease result) := by
  refine ends_bind fun _ => ends_ite (fun _ => ends_cleanup) fun _ => ?_
  refine ends_bind fun _ => ends_ite (fun _ => ends_pure _) fun _ => ?_
  split
  · exact ends_throw _
  · exact ends_of_issues

lemma ends_sendRedundantStart [Sendable params fits fresh template lease] :
    Ends params fits owner fresh t σ (sendRedundantStart params template lease) := by
  refine ends_bind fun result => ?_
  cases result with
  | none => exact ends_pure _
  | some result => exact ends_promote result

lemma ends_syncRedundant [Sendable params fits fresh template lease] :
    Ends params fits owner fresh t σ (syncRedundant params template lease) := by
  refine ends_bind fun _ => ends_bind fun desired => ends_ite (fun _ => ends_cleanup) fun _ => ?_
  refine ends_bind fun _ => ends_ite (fun _ => ends_pure _) fun _ => ?_
  exact ends_sendRedundantStart

lemma Known.sendable (h : Known params fits owner fresh σ envelope)
    (hl : envelope.leaseTransaction = some transaction)
    (ht : envelope.intent.template = some template)
    (hp : fresh → transaction.phase.cleaning = false) :
    Sendable params fits fresh template transaction :=
  ⟨fun hm => h.sane.matched hm template transaction ht hl, hp⟩

lemma ends_continueRedundantStart (h : Known params fits owner fresh σ envelope)
    (hl : envelope.leaseTransaction = some transaction)
    (hp : fresh → transaction.phase.cleaning = false) (state : ReconcileState) :
    Ends params fits owner fresh t σ
      (continueRedundantStart params envelope transaction state) := by
  have := h.of hl
  have hs : ∀ state : ReconcileState, Ends params fits owner fresh t σ
    (notNull params envelope.intent.template >>=
      fun template =>
        if state = .notFound && template.syncBindingPreferences then
          syncRedundant params template transaction
        else sendRedundantStart params template transaction) := by
    intro _
    cases ht : envelope.intent.template with
    | none => exact fun _ hh => hh
    | some =>
      have := h.sendable hl ht hp
      intro w hh
      rw [wpe_bind]
      exact ends_ite (fun _ => ends_syncRedundant) (fun _ => ends_sendRedundantStart) w hh
  unfold continueRedundantStart
  cases state with
  | applying | compensating | other => exact ends_of_issues
  | terminal | cancelled => exact ends_closeAuthoritative _
  | notFound => exact hs .notFound
  | pending => exact hs .pending
  | applied => exact hs .applied

lemma ends_runPendingRedundantStart (h : Known params fits owner fresh σ env)
    (hl : env.leaseTransaction = some lease)
    (hc : lease.replay.contractVersion = 2) :
    Ends params fits owner fresh t σ (runPendingRedundantStart params env lease) := by
  refine ends_bind fun _ => ends_ite (fun _ => ends_cleanup) fun hd => ?_
  refine ends_bind fun reconciled => ends_bind fun desired => ?_
  refine ends_ite (fun _ => ends_cleanup) fun _ => ?_
  refine ends_bind fun _ => ends_ite (fun _ => ends_pure _) fun _ => ?_
  refine ends_continueRedundantStart h hl (fun hq => ?_) reconciled.state
  exact (h.sane.second hq lease hl hc).2 (by simpa using hd)

instance :
    Issues (Owner params fits fresh σ)
      (startRuntimeWithConnectionIntentFence params expectedGeneration operationId) := by
  unfold startRuntimeWithConnectionIntentFence fenceAfterStart
  infer_instance

instance [First fresh σ] :
    Issues (Owner params fits fresh σ) (requireCurrentCleanup params transaction leaseId) := by
  unfold requireCurrentCleanup
  infer_instance

instance [First fresh σ] :
    Issues (Owner params fits fresh σ)
      (keepLease params transaction leaseId leaseAlreadyStored) := by
  unfold keepLease
  infer_instance

lemma ends_startCancelled [First fresh σ] :
    Ends params fits owner fresh t σ (startCancelled params lease leaseId error) := by
  refine ends_bind fun _ => ends_bind fun admitted => ends_ite (fun _ => ?_) fun _ => ?_
  · exact ends_bind fun _ => ends_bind fun _ => ends_cleanup
  · exact ends_throw _

lemma ends_runtimeFailed [First fresh σ] :
    Ends params fits owner fresh t σ (runtimeFailed params lease leaseId error) := by
  cases error with
  | unexpected => exact ends_throw _
  | background =>
    refine ends_ite (fun _ => ends_of_issues) fun _ => ?_
    exact ends_ite (fun _ => ends_startCancelled) fun _ => ends_throw _

lemma ends_checkpoint [First fresh σ] :
    Ends params fits owner fresh t σ (checkpoint params lease leaseId) := by
  refine ends_bind fun activated => ?_
  cases activated with
  | ok e => exact ends_pure _
  | error =>
    refine ends_bind fun _ => ends_ite (fun _ => ends_throw _) fun _ => ?_
    exact ends_bind fun _ => ends_bind fun _ => ends_cleanup

lemma ends_afterRuntimeStart [First fresh σ] (result : RuntimeStartFenceResult) :
    Ends params fits owner fresh t σ (afterRuntimeStart params lease leaseId result) := by
  cases result with
  | started => exact ends_checkpoint
  | failed => exact ends_throw _
  | cancelledBeforeStart =>
    unfold afterRuntimeStart
    exact ends_of_issues
  | cancelledAfterStart =>
    exact ends_bind fun _ => ends_cleanup

lemma ends_startTunnel [First fresh σ] :
    Ends params fits owner fresh t σ (startTunnel params lease leaseId) := by
  refine ends_bind fun result => ?_
  cases result with
  | error => exact ends_runtimeFailed
  | ok result => exact ends_afterRuntimeStart result

lemma ends_afterStart [First fresh σ] :
    Ends params fits owner fresh t σ (afterStart params lease leaseId leaseAlreadyStored) := by
  refine ends_bind fun _ => ends_bind fun admitted => ?_
  refine ends_ite (fun _ => ends_of_issues) fun _ => ?_
  exact ends_bind fun _ => ends_startTunnel

lemma ends_sendExactStart [First fresh σ] [Sendable params fits fresh template lease] :
    Ends params fits owner fresh t σ (sendExactStart params template lease leaseAlreadyStored) := by
  refine ends_bind fun _ => ends_ite (fun _ => ends_pure _) fun _ => ?_
  refine ends_bind fun result => ?_
  cases result with
  | none => exact ends_pure _
  | some => exact ends_afterStart

lemma ends_syncExact [First fresh σ] [Sendable params fits fresh template lease] :
    Ends params fits owner fresh t σ (syncExact params template lease leaseAlreadyStored) := by
  refine ends_bind fun _ => ends_bind fun ready => ends_ite (fun _ => ?_) fun _ => ?_
  · exact ends_ite (fun _ => ends_endCleanup (by exact trivial) _) fun _ => ends_pure _
  · refine ends_bind fun _ => ends_ite (fun _ => ends_pure _) fun _ => ?_
    exact ends_sendExactStart

lemma ends_exactReplayAndStart [First fresh σ] (h : Known params fits owner fresh σ envelope)
    (hl : envelope.leaseTransaction = some transaction)
    (hp : fresh → transaction.phase.cleaning = false) (syncBeforeStart : Bool) :
    Ends params fits owner fresh t σ
      (exactReplayAndStart params envelope transaction leaseAlreadyStored syncBeforeStart) := by
  unfold exactReplayAndStart
  split
  · exact ends_throw _
  · rename_i template ht
    have := h.sendable hl ht hp
    refine ends_bind fun _ => ends_ite (fun _ => ends_pure _) fun _ => ?_
    exact ends_ite (fun _ => ends_syncExact) fun _ => ends_sendExactStart

lemma ends_cleanupReconciled [First fresh σ] (generation : Nat)
    (stopOperationId : Coordinate params String)
    [Issues (Owner params fits fresh σ) stopOperationId]
    (restartIfDesired : Bool) :
    Ends params fits owner fresh t σ
      (cleanupReconciled params generation reconciled stopOperationId restartIfDesired) := by
  exact ends_bind fun _ => ends_bind fun _ => ends_bind fun _ => ends_cleanup

lemma ends_continueAfterReconcileFence [First fresh σ] (live : AndroidRecoveryEnvelope)
    (staleResult : BackgroundReconcileResult) :
    Ends params fits owner fresh t σ (continueAfterReconcileFence params live staleResult) := by
  unfold continueAfterReconcileFence
  split
  · exact ends_pure _
  · rename_i lease hl
    refine ends_ite (fun _ => ends_cleanupReconciled _ _ _) fun _ => ?_
    refine ends_bind fun cancelled => ?_
    have hc : Ends params fits owner fresh t σ (if !live.intent.desiredActive &&
        lease.phase == .startPending && lease.leaseId.isNone then
          endCleanup params .idle (.completeCancelledStart .reconciled live.intent.generation)
        else recordDirectRetry params "operation_reconcile_cancel_pending" none none) :=
      ends_ite (fun _ => ends_endCleanup (by exact trivial) _) fun _ => ends_of_issues
    cases cancelled.state with
    | notFound | terminal | cancelled => exact hc
    | applied => exact ends_cleanupReconciled _ _ _
    | _ => exact ends_of_issues

lemma ends_runCancelledStart [First fresh σ] :
    Ends params fits owner fresh t σ (runCancelledStart params env reconciled) := by
  unfold runCancelledStart
  cases reconciled.state with
  | applied =>
    exact ends_bind fun _ => ends_bind fun _ => ends_bind fun _ => ends_bind fun _ => ends_cleanup
  | pending | applying | compensating | other => exact ends_of_issues
  | _ => exact ends_completeInitial (by exact trivial) _

lemma ends_runDesiredStart [First fresh σ] (h : Known params fits owner fresh σ envelope)
    (hl : envelope.leaseTransaction = some transaction)
    (hp : fresh → transaction.phase.cleaning = false) :
    Ends params fits owner fresh t σ (runDesiredStart params envelope transaction reconciled) := by
  have := h.of hl
  unfold runDesiredStart
  cases reconciled.state with
  | applying | compensating | other => exact ends_of_issues
  | terminal | cancelled => exact ends_closeAuthoritative _
  | _ => exact ends_exactReplayAndStart h hl hp _

lemma ends_runPendingStart [First fresh σ] (h : Known params fits owner fresh σ env)
    (hl : env.leaseTransaction = some lease)
    (hp : fresh → lease.phase.cleaning = false) :
    Ends params fits owner fresh t σ (runPendingStart params env lease) := by
  refine ends_ite (fun _ => ?_) fun _ => ?_
  · unfold runPendingDesired
    refine ends_bind fun admitted => ends_ite (fun _ => ends_pure _) fun _ => ?_
    refine ends_bind fun reconciled => ends_bind fun live => ?_
    refine ends_ite (fun _ => ends_continueAfterReconcileFence live reconciled) fun _ => ?_
    refine ends_bind fun admitted => ends_ite (fun _ => ?_) fun _ => ?_
    · exact ends_ite (fun _ => ends_cleanupReconciled _ _ _) fun _ => ends_pure _
    · exact ends_runDesiredStart h hl hp
  · exact ends_bind fun reconciled => ends_bind fun _ => ends_runCancelledStart

end Starts

section Attempts

variable {params : AndroidParameters} {fits owner fresh : Prop} {t : ℕ} {σ : Nat × String}

instance : Issues (Owner params fits fresh σ) (clearAction params envelope) := by
  unfold clearAction
  infer_instance

instance : Issues (Owner params fits fresh σ) (recordBlockedStalledRecovery params envelope) := by
  unfold recordBlockedStalledRecovery
  infer_instance

instance [Of σ transaction] :
    Issues (Owner params fits fresh σ)
      (resumeStalledStopReconcile params envelope transaction reconciled) := by
  unfold resumeStalledStopReconcile resumeStalled
  refine issues_bind fun _ => ?_
  cases reconciled.state <;> infer_instance

def Resumes (params : AndroidParameters) (fits owner fresh : Prop) (t : ℕ) (σ : Nat × String)
    (x : Coordinate params (Option AndroidCoordinatorStep)) : Prop :=
  ∀ w, Held t σ w →
    wpe (contract params fits owner fresh) t x
      (fun resumed w => Gated t w ∧ (resumed = none → Held t σ w))
      (fun _ => Held t σ) w

lemma resumes_of_issues {x : Coordinate params (Option AndroidCoordinatorStep)}
    [Issues (Owner params fits fresh σ) x] : Resumes params fits owner fresh t σ x := by
  intro w hh
  exact wpe_mono (fun _ _ h => ⟨h.1, fun _ => h⟩) (fun _ _ h => h) (held_tolerates.wpe x hh)

lemma resumes_some (hx : Ends params fits owner fresh t σ x) :
    Resumes params fits owner fresh t σ (some <$> x) := by
  intro w hh
  rw [wpe_map]
  refine wpe_mono (fun _ _ hg => ⟨hg, ?_⟩) (fun _ _ h => h) (hx w hh)
  rintro ⟨⟩

lemma resumes_bind {β : Type} {x : Coordinate params β}
    {f : β → Coordinate params (Option AndroidCoordinatorStep)}
    [Issues (Owner params fits fresh σ) x]
    (hf : ∀ b, Resumes params fits owner fresh t σ (f b)) :
    Resumes params fits owner fresh t σ (x >>= f) := by
  intro w hh
  exact wpe_seq (held_tolerates.wpe x hh) (fun _ _ h => h) fun b w' h => hf b w' h

lemma resumes_resumeReconciled [Of σ lease] (reconciled : BackgroundReconcileResult) :
    Resumes params fits owner fresh t σ (resumeReconciled params env lease reconciled) := by
  unfold resumeReconciled
  cases reconciled.state with
  | terminal | cancelled => exact resumes_some (ends_closeAuthoritative _)
  | _ => exact resumes_of_issues

lemma resumes_ite [Decidable c] (hx : Resumes params fits owner fresh t σ x)
    (hy : Resumes params fits owner fresh t σ y) :
    Resumes params fits owner fresh t σ (if c then x else y) := by
  split
  · exact hx
  · exact hy

lemma resumes_resumeReconcile [Of σ lease] :
    Resumes params fits owner fresh t σ (resumeReconcile params env lease) := by
  -- The question whether a start is admitted is asked in one of the branches only.
  refine resumes_ite (resumes_bind fun admitted => ?_) (resumes_bind fun admitted => ?_)
  all_goals
    refine resumes_ite resumes_of_issues (resumes_bind fun reconciled => ?_)
    exact resumes_ite resumes_of_issues (resumes_resumeReconciled reconciled)

lemma resumes_resumePendingAction [Of σ lease] :
    Resumes params fits owner fresh t σ (resumePendingAction params env lease) := by
  unfold resumePendingAction
  dsimp only
  split
  · exact resumes_of_issues
  · split
    · exact resumes_of_issues
    · exact resumes_of_issues
    · unfold resumeLocalRestart
      exact resumes_of_issues
    · exact resumes_resumeReconcile
    all_goals exact resumes_of_issues

lemma ends_cleanupUnwanted [First fresh σ] :
    Ends params fits owner fresh t σ (cleanupUnwanted params env lease) := by
  unfold cleanupUnwanted
  split
  · exact ends_throw _
  · exact ends_bind fun _ => ends_bind fun _ => ends_cleanup

lemma ends_runPhase [First fresh σ] (h : Known params fits owner fresh σ env)
    (hl : env.leaseTransaction = some lease) :
    Ends params fits owner fresh t σ (runPhase params env lease) := by
  unfold runPhase
  split
  · rename_i hp
    exact ends_runPendingStart h hl fun _ => by rw [hp]; rfl
  · rename_i hp
    refine ends_ite (fun _ => ends_cleanupUnwanted) fun _ => ?_
    exact ends_exactReplayAndStart h hl (fun _ => by rw [hp]; rfl) _
  · rename_i hp
    refine ends_ite (fun _ => ends_cleanupUnwanted) fun _ => ?_
    refine ends_bind fun _ => ends_ite (fun _ => ends_pure _) fun _ => ?_
    exact ends_exactReplayAndStart h hl (fun _ => by rw [hp]; rfl) _
  · exact ends_cleanup
  · exact ends_cleanup

lemma ends_runTransaction : Ends params fits owner fresh t σ (runTransaction params) := by
  unfold runTransaction
  refine ends_seq keeps_read fun result hk => ?_
  cases result with
  | error => exact ends_pure _
  | ok envelope =>
    have hk := hk envelope rfl
    dsimp only
    split
    · exact ends_pure _
    · rename_i transaction hl
      have := hk.of hl
      refine ends_ite (ends_runPendingRedundantStart hk hl) fun hc => ?_
      have : First fresh σ := first_of_contract hc
      exact ends_runPhase hk hl

lemma ends_runOwned (env : AndroidRecoveryEnvelope) (lease : AndroidLeaseTransaction)
    [Of σ lease] : Ends params fits owner fresh t σ (runOwned params env lease) := by
  refine ends_ite (fun _ => ends_bind fun admitted => ?_) fun _ => ends_bind fun admitted => ?_
  all_goals
    refine ends_ite (fun _ => ends_pure _) fun _ => ?_
    intro w hh
    refine wpe_seq (resumes_resumePendingAction w hh) (fun _ _ h => h) fun resumed w' h => ?_
    cases resumed with
    | some => exact h.1
    | none => exact ends_runTransaction w' (h.2 rfl)

lemma ends_attemptFailed (error : Throwable) :
    Ends params fits owner fresh t σ (attemptFailed params error) := by
  cases error with
  | background code retryAfter => exact ends_recordFailureDecision code retryAfter
  | unexpected =>
    unfold attemptFailed
    exact ends_of_issues

end Attempts

end NelomaiClient.AndroidAttempts
