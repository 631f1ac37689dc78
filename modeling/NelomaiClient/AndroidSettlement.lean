import NelomaiClient.AndroidAnswers
import NelomaiClient.AndroidGuarantees

/-!
# What an attempt gives up

The attempts of the service as a whole keep the second contract, so every run
whose steps meet its condition gives up an operation or a lease only with
authority. The condition is needed: a run that loses the answer to a start drops an
operation the panel knows.
-/

set_option synthInstance.maxSize 1024

namespace NelomaiClient.AndroidSettlement

open AndroidRecovery AndroidRecoveryStore AndroidCoordinator AndroidContract
open AndroidAttempts AndroidRequests AndroidOwed AndroidDecisions AndroidAnswers AndroidGuarantees
open AwaitPool AwaitRely AwaitFallible AwaitFootprint

section Pending

variable {params : AndroidParameters} {due : Prop} {t : ℕ} {w : AndroidWorld}
  {reconciled : BackgroundReconcileResult}

lemma answers_cleanupReconciled (generation : Nat) (stopOperationId : Coordinate params String)
    [Mild due t (Holds t) stopOperationId] (restartIfDesired : Bool) :
    Answers due t (Holds t)
      (cleanupReconciled params generation reconciled stopOperationId restartIfDesired) := by
  exact yields_bind fun _ => yields_bind fun stopOperationId => yields_bind fun _ => answers_cleanup

lemma answers_cancelAfterFence (hu : Unstalled due lease) :
    Answers due t (OwnsLease t lease) (cancelAfterFence params live lease) := by
  refine yields_seq yields_reconcile fun cancelled => ?_
  have ho : (cancelled.state = .terminal ∨ cancelled.state = .cancelled ∨
      true = true ∧ cancelled.state = .notFound) →
      Answers due t (Heard due t lease true cancelled)
        (if !live.intent.desiredActive && lease.phase == .startPending &&
            lease.leaseId.isNone then
          endCleanup params .idle (.completeCancelledStart .reconciled live.intent.generation)
        else recordDirectRetry params "operation_reconcile_cancel_pending" none none) := by
    intro hs
    refine yields_ite (fun hp => ?_) fun _ => answers_recordDirectRetry
    have hl : lease.leaseId = none := by
      simp only [Bool.and_eq_true, Option.isNone_iff_eq_none] at hp
      exact hp.2
    exact (handles_endCleanup _).answers.from fun _ h => h.mayDrop hl (fun ha => hu ha hl) hs
  have hp : ∀ code, Answers due t (Heard due t lease true cancelled)
      (recordDirectRetry params code none none) := fun _ =>
    answers_recordDirectRetry
  cases hs : cancelled.state with
  | notFound => exact ho (.inr (.inr ⟨rfl, hs⟩))
  | terminal => exact ho (.inl hs)
  | cancelled => exact ho (.inr (.inl hs))
  | applied => exact (answers_cleanupReconciled _ _ _).from fun _ h => h.owns.holds
  | _ => exact hp _

lemma wpe_continueAfterReconcileFence (hg : Gated t w) (hs : Saw params due live w) :
    wpe (owed params due) t (continueAfterReconcileFence params live reconciled)
      (fun _ => Gated t) (Excused due t) w := by
  unfold continueAfterReconcileFence
  cases hl : live.leaseTransaction with
  | none => exact hg
  | some lease =>
    have ho := hs.owns hg hl
    dsimp only
    split
    · exact answers_cleanupReconciled _ _ _ w ho.holds
    · exact answers_cancelAfterFence (fun ha => hs.fit.unstalled ha lease hl) w ho

lemma answers_runCancelledStart (hl : lease.leaseId = none)
    (hf : due → lease.cleanupFailureCode = none) :
    Answers due t (Heard due t lease true reconciled)
      (runCancelledStart params env reconciled) := by
  unfold runCancelledStart
  have ho : (reconciled.state = .terminal ∨ reconciled.state = .cancelled ∨
      true = true ∧ reconciled.state = .notFound) →
      Answers due t (Heard due t lease true reconciled) (do
        let completed ← stored params
          (.completeCancelledStart .reconciled env.intent.generation)
        completeInitial params env completed) := by
    intro hs
    exact handles_completed.answers.from fun _ h => h.mayDrop hl hf hs
  have hp : ∀ code, Answers due t (Heard due t lease true reconciled)
      (recordDirectRetry params code none none) := fun _ =>
    answers_recordDirectRetry
  cases hs : reconciled.state with
  | notFound => exact ho (.inr (.inr ⟨rfl, hs⟩))
  | terminal => exact ho (.inl hs)
  | cancelled => exact ho (.inr (.inl hs))
  | applied =>
    refine Yields.from ?_ fun _ h => h.owns.holds
    exact yields_bind fun _ => yields_bind fun current => yields_bind fun stopOperationId =>
      yields_bind fun _ => answers_cleanup
  | _ => exact hp _

lemma answers_runDesiredStart (hd : env.intent.desiredActive = true)
    (hu : Unstalled due lease) :
    Answers due t (Heard due t lease false reconciled)
      (runDesiredStart params env lease reconciled) := by
  unfold runDesiredStart
  have hr : ∀ syncBeforeStart, Answers due t (Heard due t lease false reconciled)
      (exactReplayAndStart params env lease false syncBeforeStart) := fun sync =>
    (answers_exactReplayAndStart false sync).from fun _ h => h.owns
  have hc : (reconciled.state = .terminal ∨ reconciled.state = .cancelled) → ∀ code,
      Answers due t (Heard due t lease false reconciled)
        (closeAuthoritativePendingStartAndRetry params env lease code) :=
    fun h => answers_closeAuthoritative hd hu (or_assoc.mp (.inl h))
  cases hs : reconciled.state with
  | notFound | pending | applied => exact hr _
  | applying | compensating => exact answers_recordDirectRetry
  | terminal => exact hc (.inl hs) _
  | cancelled => exact hc (.inr hs) _
  | other => exact answers_recordTerminalFailure

lemma answers_continueDesiredStart (hd : env.intent.desiredActive = true)
    (hu : Unstalled due lease) :
    Answers due t (fun w => Heard due t lease false reconciled w ∧ Saw params due live w)
      (continueDesiredStart params env lease reconciled live) := by
  refine yields_ite (fun _ w h => wpe_continueAfterReconcileFence h.1.owns.1 h.2) fun _ => ?_
  refine Yields.from ?_ fun _ h => h.1
  refine yields_bind fun _ => yields_ite (fun _ => yields_ite (fun _ => ?_) fun _ => ?_) fun _ => ?_
  · exact (answers_cleanupReconciled _ _ _).from fun _ h => h.owns.holds
  · exact settled
  · exact answers_runDesiredStart hd hu

lemma answers_runPendingDesired (hd : env.intent.desiredActive = true)
    (hu : Unstalled due lease) :
    Answers due t (OwnsLease t lease) (runPendingDesired params env lease) := by
  refine yields_bind fun _ => yields_ite (fun _ => settled)
    fun _ => yields_seq yields_reconcile fun reconciled => ?_
  exact yields_seq yields_readOrThrow fun _ => answers_continueDesiredStart hd hu

lemma answers_runPendingStart (hl : lease.leaseId = none)
    (hf : due → lease.cleanupFailureCode = none) :
    Answers due t (OwnsLease t lease) (runPendingStart params env lease) := by
  refine yields_ite (fun hd => answers_runPendingDesired hd fun ha _ => hf ha) fun _ => ?_
  exact yields_seq yields_reconcile fun _ => yields_bind fun _ => answers_runCancelledStart hl hf

end Pending

section Resume

variable {params : AndroidParameters} {due : Prop} {t : ℕ} {w : AndroidWorld}
  {reconciled : BackgroundReconcileResult} {J : AndroidWorld → Prop}

lemma resumed_some (hx : Answers due t J x) :
    Yields due t J (some <$> x : Coordinate params (Option AndroidCoordinatorStep))
      (fun _ => Gated t) := yields_map _ hx

lemma resumed_clearAction :
    Yields due t (Gated t) (clearAction params env) fun _ => Gated t := by
  exact yields_bind fun _ w h => h

instance : Mild due t (Gated t) (recordBlockedStalledRecovery params env) := by
  unfold recordBlockedStalledRecovery
  infer_instance

lemma answers_resumeStalled (hl : lease.leaseId = some leaseId)
    (hs : lease.cleanupFailureCode = some "tunnel_data_plane_stalled") :
    Answers due t (Heard due t lease false reconciled)
      (resumeStalled params env lease leaseId reconciled) := by
  unfold resumeStalled
  have ho : Answers due t (Heard due t lease false reconciled)
      (if reconciled.leaseId = some leaseId ∧
          (reconciled.leaseStatus = some "released" ∨ reconciled.leaseStatus = some "failed") then
        restartAfterCleanup params env lease
      else recordBlockedStalledRecovery params env) := by
    refine yields_ite (fun hf => ?_) fun _ => settled
    exact handles_restartAfterCleanup.answers.from fun _ h => h.mayDropLease hl hs hf.2 hf.1
  have hp : Answers due t (Heard due t lease false reconciled)
      (recordDirectRetry params "operation_reconcile_pending" none none) :=
    answers_recordDirectRetry
  cases reconciled.state with
  | notFound =>
    exact yields_ite (fun _ => answers_recordTerminalFailure) fun _ =>
      answers_recordDirectRetry
  | applied | terminal | cancelled => exact ho
  | other => exact answers_recordTerminalFailure
  | _ => exact hp

lemma answers_resumeStalledStopReconcile
    (hs : lease.cleanupFailureCode = some "tunnel_data_plane_stalled") :
    Answers due t (Heard due t lease false reconciled)
      (resumeStalledStopReconcile params env lease reconciled) := by
  unfold resumeStalledStopReconcile
  cases hl : lease.leaseId with
  | none => exact yields_throw rfl
  | some =>
    exact yields_ite (fun _ => answers_recordTerminalFailure) fun _ =>
      answers_resumeStalled hl hs

lemma yields_resumeReconciled (hd : env.intent.desiredActive = true)
    (hu : Unstalled due lease) :
    Yields due t (Heard due t lease false reconciled)
      (resumeReconciled params env lease reconciled) fun _ => Gated t := by
  unfold resumeReconciled
  have hc : (reconciled.state = .terminal ∨ reconciled.state = .cancelled) → ∀ code,
      Yields due t (Heard due t lease false reconciled)
        (some <$> closeAuthoritativePendingStartAndRetry params env lease code)
        fun _ => Gated t := fun h _ =>
    resumed_some (answers_closeAuthoritative hd hu (or_assoc.mp (.inl h)) _)
  have hcl : ∀ state : ReconcileState, Yields due t (Heard due t lease false reconciled)
      (if state = .applied && lease.leaseId.isSome && reconciled.leaseId.isSome &&
          reconciled.leaseId != lease.leaseId then
        some <$> recordTerminalFailure params "request_fingerprint_mismatch"
      else clearAction params env) fun _ => Gated t := fun _ =>
    yields_ite (fun _ => resumed_some answers_recordTerminalFailure) fun _ =>
      resumed_clearAction.from fun _ h => h.owns.1
  cases hs : reconciled.state with
  | applying | compensating => exact resumed_some answers_recordDirectRetry
  | terminal => exact hc (.inl hs) _
  | cancelled => exact hc (.inr hs) _
  | notFound | pending | applied => exact hcl _
  | other => exact resumed_some answers_recordTerminalFailure

lemma yields_resumeReconcile (hd : env.intent.desiredActive = true)
    (hu : Unstalled due lease) :
    Yields due t (OwnsLease t lease)
      (resumeReconcile params env lease) fun _ => Gated t := by
  unfold resumeReconcile
  rw [hd]
  refine yields_bind fun _ => yields_ite (fun _ _ h => h.1) fun _ => ?_
  · refine yields_seq yields_reconcile fun _ => yields_ite (fun hs => ?_) fun _ => ?_
    · exact resumed_some (answers_resumeStalledStopReconcile hs)
    · exact yields_resumeReconciled hd hu

lemma yields_resumeLocalRestart :
    Yields due t (Holds t) (resumeLocalRestart params env) fun _ => Gated t := by
  refine yields_seq (yields_runtimeRunning fun _ h => h) fun running => ?_
  have hn : ∀ stopped : Bool, Yields due t (Holds t)
      (if !stopped then some <$> recordDirectRetry params "local_restart_pending" none none
      else clearAction params env) fun _ => Gated t := fun _ =>
    yields_ite (fun _ => resumed_some answers_recordDirectRetry) fun _ =>
      resumed_clearAction.from fun _ h => h.1
  exact yields_ite (fun _ => yields_seq (yields_runtimeStop fun _ h => h) hn) fun _ =>
    yields_bind hn

lemma yields_resumePendingAction (hu : Unstalled due lease) :
    Yields due t (OwnsLease t lease)
      (resumePendingAction params env lease) fun _ => Gated t := by
  have hc : Yields due t (OwnsLease t lease)
      (clearAction params env) fun _ => Gated t := resumed_clearAction.from fun _ h => h.1
  have hi : Yields due t (OwnsLease t lease)
      (some <$> recordTerminalFailure params "connection_intent_invalid") fun _ => Gated t :=
    resumed_some answers_recordTerminalFailure
  refine yields_ite (fun _ => hc) fun hk => ?_
  split
  · exact hc
  · exact hc
  · exact yields_resumeLocalRestart.from fun _ => Owns.holds
  · rename_i ha
    have hd : env.intent.desiredActive = true := by
      simpa [ha] using hk
    exact yields_resumeReconcile hd hu
  · exact fun w h => h.1
  · exact fun w h => h.1
  · exact fun w h => h.1
  · exact fun w h => h.1
  · exact hi
  · exact hi

end Resume

section Attempts

variable {params : AndroidParameters} {due : Prop} {t : ℕ} {w : AndroidWorld}

lemma answers_cleanupUnwanted :
    Answers due t (Holds t) (cleanupUnwanted params env lease) := by
  unfold cleanupUnwanted
  cases lease.leaseId with
  | none => exact yields_throw rfl
  | some =>
    exact yields_bind fun _ => yields_bind fun _ => answers_cleanup

lemma wpe_runPhase (hg : Gated t w) (hs : Saw params due env w)
    (hle : env.leaseTransaction = some lease) :
    wpe (owed params due) t (runPhase params env lease) (fun _ => Gated t)
      (Excused due t) w := by
  have ho := hs.owns hg hle
  unfold runPhase
  cases hp : lease.phase with
  | startPending =>
    have hl := leaseless_of_pending hs.fit.valid hle hp
    exact answers_runPendingStart hl (fun ha => hs.fit.unstalled ha lease hle hl) w ho
  | leaseAcquired =>
    refine yields_ite (fun _ => ?_) (fun _ => ?_) w ho
    · exact answers_cleanupUnwanted.from fun _ => Owns.holds
    · exact answers_exactReplayAndStart true false
  | activeCheckpoint =>
    refine yields_ite (fun _ => ?_) (fun _ => ?_) w ho
    · exact answers_cleanupUnwanted.from fun _ => Owns.holds
    · refine yields_seq (yields_runtimeRunning fun _ => Owns.holds) fun running =>
        yields_ite (fun _ => settled) fun _ => ?_
      exact answers_exactReplayAndStart true false
  | cleanupPending | staleCleanup => exact answers_cleanup w ho.holds

lemma answers_runTransaction : Answers due t (Gated t) (runTransaction params) := by
  intro w hg
  refine wpe_seq (wpe_read hg) (fun _ _ h => h.elim) fun result w1 h => ?_
  cases result with
  | error => exact h.1
  | ok env =>
    have hs := h.2 env rfl
    cases hl : env.leaseTransaction with
    | none =>
      simp only [hl]
      exact h.1
    | some lease =>
      simp only [hl]
      split
      · exact answers_runPendingRedundantStart (fun ha => hs.fit.unstalled ha lease hl) w1
          (hs.owns h.1 hl)
      · exact wpe_runPhase h.1 hs hl

lemma answers_runOwned (hu : Unstalled due lease) :
    Answers due t (OwnsLease t lease) (runOwned params env lease) := by
  unfold runOwned
  refine yields_ite (fun _ => yields_bind fun _ => ?_) fun _ => yields_bind fun _ => ?_
  all_goals
    refine yields_ite (fun _ => settled) fun _ =>
      yields_seq (yields_resumePendingAction hu) fun resumed => ?_
    cases resumed with
    | some => exact fun w h => h
    | none => exact answers_runTransaction

instance : Mild due t (Gated t) (legacyStopped params env stopped) := by
  unfold legacyStopped
  repeat' first | infer_instance | split | refine mild_bind fun _ => ?_

lemma settles_legacyStopFailed (error : Throwable) : Mild due t (Gated t)
    (match (Except.error error : Except Throwable AndroidCoordinatorStep) with
    | .ok step => pure step
    | .error (.background code _) => recordDirectRetry params code (some .legacyRuntimeStop) none
    | .error .unexpected =>
      recordDirectRetry params "legacy_runtime_stop_failed" (some .legacyRuntimeStop) none) := by
  cases error <;> infer_instance

lemma settles_stopLegacyRuntime : Handles due t (Gated t) (stopLegacyRuntime params env) := by
  intro w hg
  unfold stopLegacyRuntime
  rw [wpe_bind, wpe_outcome, wpe_bind]
  refine wp_plain_owed (c := .runtimeStop) trivial fun _ i r w' hr _ hse hs => ?_
  have hg' : Gated t w' := hs.gate.trans (hg.relied hr)
  cases i with
  | ran answer =>
    obtain ⟨rfl, -⟩ := Prod.mk.inj (Option.some.inj hse)
    cases answer with
    | error error => exact (settles_legacyStopFailed error).out w' hg'
    | ok stopped =>
      exact wpe_mono (fun _ _ h => h) (fun error w2 h => (settles_legacyStopFailed error).out w2 h.1)
        (mild_handles (t := t) (x := legacyStopped params env stopped) w' hg')
  | _ => cases hse

lemma answers_attemptOnce : Answers due t (Gated t) (attemptOnce params) := by
  intro w hg
  unfold attemptOnce
  refine wpe_seq (wpe_read hg) (fun _ _ h => h.elim) fun result w1 h => ?_
  cases result with
  | error => exact h.1
  | ok env =>
    have hs := h.2 env rfl
    dsimp only
    split
    · exact settles_stopLegacyRuntime.answers w1 h.1
    · split
      · exact h.1
      · split
        · exact h.1
        · split
          · exact h.1
          · rename_i lease hl
            exact answers_runOwned (fun ha => hs.fit.unstalled ha lease hl) w1
              (hs.owns h.1 hl)

lemma handles_runGated : Handles due t (Gated t) (runGated params) := by
  intro w hg
  unfold runGated
  rw [wpe_bind, wpe_outcome]
  exact wpe_mono (fun _ _ h => h) (fun error w1 h => handles_attemptFailed error w1 h)
    (answers_attemptOnce w hg)

lemma wp_gate (hc : c = .takeGate ∨ c = .freeGate) {Q : c.Resp → AndroidWorld → Prop}
    (h : ∀ w1 i r w', Relied t w w1 → sem params c t i w1 = some (r, w') → Q r w') :
    wp (owed params due) t (ask params c) Q w := by
  refine wp_ask_refined fun w1 i r w' _ hf hr _ hse _ _ => ?_
  have hs : w'.stored = w1.stored := by
    rcases hc with rfl | rfl
    · cases i with
      | go =>
        have hp := Option.some.inj hse
        split at hp
        · obtain ⟨-, rfl⟩ := Prod.mk.inj hp
          rfl
        · obtain ⟨-, rfl⟩ := Prod.mk.inj hp
          rfl
      | _ => cases hse
    · cases i with
      | go =>
        obtain ⟨-, rfl⟩ := Prod.mk.inj (Option.some.inj hse)
        rfl
      | _ => cases hse
  refine ⟨fun e he => hf e (hs ▸ he), fun _ => authorised_kept ?_, h w1 i r w' hr hse⟩
  simp only [AndroidWorld.record, hs]
  exact .refl _

lemma wp_takeGate_owed :
    wp (owed params due) t (ask params .takeGate) (fun taken w => taken = true → Gated t w) w := by
  refine wp_gate (.inl rfl) fun _ i r _ _ hs => ?_
  cases i with
  | go =>
    have hp := Option.some.inj hs
    split at hp
    · obtain ⟨-, rfl⟩ := Prod.mk.inj hp
      exact fun _ => rfl
    · obtain ⟨rfl, -⟩ := Prod.mk.inj hp
      nofun
  | _ => cases hs

lemma wp_freeGate_owed : wp (owed params due) t (ask params .freeGate) (fun _ _ => True) w :=
  wp_gate (.inr rfl) fun _ _ _ _ _ _ => trivial

lemma wp_runOnce_owed : wp (owed params due) t (runOnce params) (fun _ _ => True) w := by
  unfold runOnce
  rw [wp_bind]
  refine wp_mono (fun taken w1 ht => ?_) wp_takeGate_owed
  cases taken with
  | false => exact trivial
  | true =>
    simp only [if_true]
    rw [wp_bind]
    refine wp_mono (fun result _ h => ?_) (handles_runGated w1 (ht rfl))
    cases result with
    | error => exact wp_freeGate_owed
    | ok =>
      refine (wp_bind _ t _ _ _ _).mpr ?_
      exact wp_plain_owed (c := .finish _) trivial fun _ _ _ _ _ _ _ _ => wp_freeGate_owed

lemma wp_localRestart_owed :
    wp (owed params due) t (localRestart params) (fun _ _ => True) w := by
  unfold localRestart
  rw [wp_bind]
  refine wp_mono (fun taken _ _ => ?_) wp_takeGate_owed
  cases taken with
  | false => exact trivial
  | true => exact wp_freeGate_owed

end Attempts

section Covering

variable {params : AndroidParameters} {due : Prop} {t : ℕ} {w : AndroidWorld}

lemma outside_of_outsider (h : Outsider params ticket (.commit starter call)) :
    Outside call := by
  obtain ⟨⟨g, hc⟩, -⟩ := h
  exact outside_commits hc

lemma outsider_owed :
    Tolerates (owed params due) t (fun _ => True) (Outsider params ticket) where
  rely _ _ _ _ _ := trivial
  step c i r w w' hc hi _ hcond hs := by
    obtain ⟨hi', hg⟩ := hcond.2.2 r w' hs
    have hst : ∀ call i result, Outside call → w.access params call i = (result, w') →
        FitWorld params due w' ∧ (due → Authorised w w'.record) := by
      intro _ i _ hca ha
      obtain ⟨hr, -⟩ := access_frame ha
      exact ⟨(fit_run hi.2 hr).1, fun _ => authorised_kept (kept_run hca hr)⟩
    have hpl : Plain c → FitWorld params due w' ∧ (due → Authorised w w'.record) := by
      intro hp
      have hsame := plain_sem hp hs
      exact ⟨fun e he => hi.2 e (hsame.stored ▸ he), fun _ => authorised_kept (Same.kept hsame)⟩
    have hd : FitWorld params due w' ∧ (due → Authorised w w'.record) := by
      cases c with
      | store call =>
        cases i with
        | store i => exact hst call i r (outside_requests hc) (Option.some.inj hs)
        | _ => cases hs
      | commit starter call =>
        cases i with
        | store i => exact hst call i r (outside_of_outsider hc) (Option.some.inj hs)
        | _ => cases hs
      | takeGate | freeGate => exact hc.elim
      | _ => exact hpl trivial
    exact ⟨⟨hi', hd.1⟩, ⟨hg, hd.2⟩, trivial⟩

lemma owed_serves : Serves (owed params due) fun _ _ => True where
  untold _ := trivial
  outsider t w ticket x _ _ := outsider_owed.wpe (φ := Outsider params ticket) x trivial
  opens t w := by
    have hn : Tolerates (owed params due) t (fun _ => True) (Outsider params none) := outsider_owed
    have ha : ∀ (c : Cmd) w, Outsider params none c →
        wp (owed params due) t (ask params c) (fun _ _ => True) w :=
      fun c w hc => wp_of_uses hn.rely hn.step (makes_outsider hc).out trivial
    refine wpe_mono (fun _ w1 _ e _ => ⟨ha _ w1 trivial, fun _ _ _ => ?_⟩)
      (fun _ _ _ => trivial) (hn.wpe _ trivial)
    exact wp_mono (fun _ _ _ _ _ _ => trivial) (ha _ w1 trivial)

lemma owed_covers : Covers (S := androidSystem params) (owed params due) :=
  owed_serves.covers (fun _ _ => wp_runOnce_owed) (fun _ _ => wp_localRestart_owed)

lemma reach_owed {P P' : Pool (androidSystem params)} (h0 : FitWorld params due w0)
    (h : Reach (Demands params due) (Pool.idle w0) P) (hm : Meets (Demands params due) P m)
    (hs : P.move m = some P') (hi : P.issued m = some (t, c, i)) :
    Owes params due t c i P.state P'.state := by
  have hin : (contract params False False False).inv w0 := fun e he => sane_of_valid (h0 e he).valid
  have hb : ∀ t c i w, Demands params due t c i w →
      (contract params False False False).cond t c i w ∧ Demands params due t c i w :=
    fun t c i w hd => ⟨free_condition t c i w, hd⟩
  have hr : Reach (owed params due).stepCondition
      (Pool.idle w0) P := Reach.refined contract_covers (fun _ h => h) hin (h.mono hb)
  have hso : Sound (contract params False False False) P :=
    Reach.sound (h.mono fun t c i w _ => free_condition t c i w) contract_covers (fun _ h => h) hin
  have ho : Sound (owed params due) P := Reach.sound hr owed_covers (fun _ h => h) ⟨hin, h0⟩
  exact (ho.issued (Meets.refined hso (hm.mono hb)) hs hi).2

end Covering

section Conditions

def judged (params : AndroidParameters) (check : Cmd → Input → AndroidWorld → Bool) :
    StepCondition (androidSystem params) := fun _ c i w => check c i w = true

instance (params : AndroidParameters) (check : Cmd → Input → AndroidWorld → Bool) (t : ℕ) (c : Cmd)
    (i : Input) (w : AndroidWorld) : Decidable (judged params check t c i w) :=
  inferInstanceAs (Decidable (check c i w = true))

variable {params : AndroidParameters}

lemma authoritative_demands (t : ℕ) (c : Cmd) (i : Input) (w : AndroidWorld)
    (h : judged params authoritative t c i w) : Demands params True t c i w :=
  fun _ => h

lemma fit_none : FitWorld params due (AndroidWorld.fresh none) := by
  rintro e ⟨⟩

end Conditions

/-- An operation that was sent, or a lease, leaves the record only once the panel has
answered for it, in every run in which the panel and the tunnel ask for a new
operation only where they speak for the old one and a start is cancelled during
the synchronisation of preferences only before it was sent. -/
theorem lease_journal_dropped_with_authority (params : AndroidParameters) {w₀ : AndroidWorld}
    (h₀ : FitWorld params True w₀) {P P' : Pool (androidSystem params)}
    (h : Reach (judged params authoritative) (Pool.idle w₀) P) {m : Move (androidSystem params)}
    (hm : Meets (judged params authoritative) P m) (hs : P.move m = some P') :
    Authorised P.state P'.state.record := by
  rcases Pool.move_cases hs with ⟨t, c, i, hi⟩ | hsame | hr
  · exact reach_owed h₀ (h.mono authoritative_demands) (hm.mono authoritative_demands) hs hi trivial
  · rw [hsame]
    exact authorised_kept (.refl _)
  · rw [hr]
    exact authorised_kept (.refl _)

def losesAnswer : List (List Input) :=
  each [.go, done, yes, done, yes, found .notFound, done, yes, yes, succeeds, done, yes, yes, .go,
    done, .started (.error (.background "transport_error" none)), .go, .go, done, .time 0, done] ++
    leaves

def resynchronises : List (List Input) :=
  each [.go, done, yes, done, yes, found .notFound, done, yes, yes]

/-- The answer to a start is lost; the next attempt synchronises the preferences
again, the intent is cancelled, and the operation is dropped. -/
theorem sent_operation_is_dropped :
    ¬ ∀ (P P' : Pool sampleSystem) (m : Move sampleSystem),
      Reach (unconditioned sampleSystem) installed P → P.move m = some P' →
      Authorised P.state P'.state.record := by
  intro h
  have hrun : lastMove (unconditioned sampleSystem) installed
      (runs 0 (.begin { sampleTemplate none with syncBindingPreferences := true }) begins ++
        runs 1 .runOnce losesAnswer ++ runs 2 .runOnce resynchronises ++
        runs 3 (.cancel none) (each [done, .go]) ++
        (each [succeeds, done]).flatMap (segment 2) ++ [.resume 2]) (.step 2 done)
      (fun P P' => (P.state.record.leaseTransaction.map fun transaction =>
          (transaction.startOperationId, transaction.leaseId), P.state.sent, P.state.closed,
        P'.state.record.leaseTransaction.isNone, P'.state.record.redundantTransaction.isNone)) =
      some (some ("o", none), ["o"], [], true, true) := by decide +kernel
  obtain ⟨P, P', hr, -, hP', ho⟩ := Reach.lastMove hrun
  simp only [Prod.mk.injEq, Option.isNone_iff_eq_none] at ho
  obtain ⟨hl, hse, hc, ha⟩ := ho
  obtain ⟨transaction, hl, hs⟩ := Option.map_eq_some_iff.mp hl
  rw [Prod.mk.injEq] at hs
  rcases h P P' _ hr hP' transaction hl with
    (⟨transaction', hl', -⟩ | ⟨-, session, hsession, -⟩) | ⟨-, hnever⟩ | hcleared
  · rw [ha.1] at hl'
    cases hl'
  · rw [ha.2] at hsession
    cases hsession
  · rw [hse, hs.1] at hnever
    exact hnever List.mem_cons_self
  · unfold Cleared at hcleared
    rw [hs.2, hc] at hcleared
    cases hcleared

/-- A lease leaves the record after it was given back. -/
theorem lease_journal_dropped_with_authority_stopped :
    ∃ (P P' : Pool sampleSystem) (transaction : AndroidLeaseTransaction),
      Reach (judged sampleParameters authoritative) installed P ∧
      P.move (.step 3 done) = some P' ∧
      P.state.record.leaseTransaction = some transaction ∧ transaction.leaseId = some "l" ∧
      (P'.state.record.leaseTransaction.map (·.leaseId)) = some none ∧
      Authorised P.state P'.state.record := by
  have hrun : lastMove (judged sampleParameters authoritative) installed
      (runs 0 (.begin (sampleTemplate none)) begins ++ runs 1 .runOnce activates ++
        runs 2 (.dataPlaneStalled "l") stalls ++ runs 3 .runOnce (gives ++ each [.text "p"]) ++
        [.resume 3]) (.step 3 done)
      (fun P P' => (P.state.record.leaseTransaction.map (·.leaseId),
        P'.state.record.leaseTransaction.map (·.leaseId))) =
      some (some (some "l"), some none) := by decide +kernel
  obtain ⟨P, P', hr, hm, hP', ho⟩ := Reach.lastMove hrun
  obtain ⟨hl, ha⟩ := Prod.mk.inj ho
  obtain ⟨transaction, hl, hle⟩ := Option.map_eq_some_iff.mp hl
  exact ⟨P, P', transaction, hr, hP', hl, hle, ha,
    lease_journal_dropped_with_authority sampleParameters fit_none hr hm hP'⟩

end NelomaiClient.AndroidSettlement
