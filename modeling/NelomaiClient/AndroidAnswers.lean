import NelomaiClient.AndroidDecisions

/-!
# Attempts under the second contract

Every program of an attempt, from the gate to its answer: an operation leaves the
record only once the panel has answered for it. `Heard` is what a reconcile tells
the thread that owns the operation.
-/

set_option synthInstance.maxSize 1024

namespace NelomaiClient.AndroidAnswers

open AndroidRecovery AndroidRecoveryStore AndroidCoordinator AndroidContract
open AndroidAttempts AndroidOwed AndroidDecisions
open AwaitFallible

section Panel

variable {params : AndroidParameters} {due : Prop} {t : ℕ} {w w' : AndroidWorld}
  {lease : Option String} {transaction : AndroidLeaseTransaction} {J : AndroidWorld → Prop}

structure Heard (due : Prop) (t : ℕ) (transaction : AndroidLeaseTransaction) (cancelIfAbsent : Bool)
    (reconciled : BackgroundReconcileResult) (w : AndroidWorld) : Prop where
  owns : Owns t transaction.startOperationId transaction.leaseId w
  closed : due → transaction.cleanupFailureCode ≠ some "tunnel_data_plane_stalled" →
    (reconciled.state = .terminal ∨ reconciled.state = .cancelled ∨
      cancelIfAbsent = true ∧ reconciled.state = .notFound) →
    transaction.startOperationId ∈ w.closed
  /-- A stalled lease that is over is given up. -/
  freed : due → transaction.cleanupFailureCode = some "tunnel_data_plane_stalled" →
    (reconciled.leaseStatus = some "released" ∨ reconciled.leaseStatus = some "failed") →
    ∀ leaseId, reconciled.leaseId = some leaseId → leaseId ∈ w.freed

variable {cancelIfAbsent : Bool} {reconciled : BackgroundReconcileResult}

lemma Heard.later (h : Heard due t transaction cancelIfAbsent reconciled w)
    (ho : OwnsLease t transaction w') (hl : Later w w') :
    Heard due t transaction cancelIfAbsent reconciled w' where
  owns := ho
  closed ha hs hstate := hl.closed _ (h.closed ha hs hstate)
  freed ha hs hst leaseId hle := hl.freed _ (h.freed ha hs hst leaseId hle)

instance : Stable t (Heard due t transaction cancelIfAbsent reconciled) where
  gated _ h := h.owns.1
  rely w w' h hr := h.later (Stable.rely w w' h.owns hr) hr.1
  same w w' h hs := h.later (Stable.same (t := t) w w' h.owns hs) hs.later

instance {call : StoreCall} [h : Steady params (OwnsLease t transaction) call] :
    Steady params (Heard due t transaction cancelIfAbsent reconciled) call where
  retains := h.retains
  access w i result w' hf hh ha := hh.later (h.access w i result w' hf hh.owns ha) (later_access ha)

lemma Heard.mayDrop (h : Heard due t transaction cancelIfAbsent reconciled w)
    (hl : transaction.leaseId = none) (hf : due → transaction.cleanupFailureCode = none)
    (hs : reconciled.state = .terminal ∨ reconciled.state = .cancelled ∨
      cancelIfAbsent = true ∧ reconciled.state = .notFound) :
    MayDrop due t transaction.startOperationId none w := by
  refine ⟨hl ▸ h.owns, fun ha => h.closed ha ?_ hs⟩
  rw [hf ha]
  nofun

lemma Heard.mayDropLease (h : Heard due t transaction cancelIfAbsent reconciled w)
    (hl : transaction.leaseId = some leaseId)
    (hf : transaction.cleanupFailureCode = some "tunnel_data_plane_stalled")
    (hs : reconciled.leaseStatus = some "released" ∨ reconciled.leaseStatus = some "failed")
    (hle : reconciled.leaseId = some leaseId) :
    MayDrop due t transaction.startOperationId (some leaseId) w :=
  ⟨hl ▸ h.owns, fun ha => h.freed ha hf hs leaseId hle⟩

/-- An error that says that the connection is gone speaks for the operation; any other one does
not ask for a new operation. -/
lemma excused_answer (ho : Owns t o lease w)
    (hg : noLongerActive (.error error : Except Throwable Unit) = true → Freed due o lease w)
    (hq : due → noLongerActive (.error error : Except Throwable Unit) = false →
      renewing error = false) : Excused due t error w := by
  cases hc : noLongerActive (.error error : Except Throwable Unit) with
  | true => exact MayDrop.excused ⟨ho, hg hc⟩ error
  | false => exact ho.holds.excused fun ha => hq ha hc

lemma gone_eq {α : Type} (error : Throwable) : noLongerActive (.error error : Except Throwable α) =
    noLongerActive (.error error : Except Throwable Unit) := by
  cases error <;> rfl

lemma quiet_of_panel (h : (!failsWith ["tunnel_handshake_timeout"] i) = true)
    (hi : failureOf i = some error)
    (ha : noLongerActive (.error error : Except Throwable Unit) = false) :
    renewing error = false := by
  cases error with
  | unexpected => rfl
  | background =>
    simp only [failsWith, hi, List.contains_cons, List.contains_nil, Bool.or_false,
      Bool.not_eq_true'] at h
    simp only [noLongerActive] at ha
    simp only [renewing, retryNewOperationCodes, List.contains_cons, List.contains_nil,
      Bool.or_false, ha, h]

lemma quiet_of_device (h : (!failsWith retryNewOperationCodes i) = true)
    (hi : failureOf i = some error) : renewing error = false := by
  cases error with
  | unexpected => rfl
  | background =>
    simp only [failsWith, hi, Bool.not_eq_true'] at h
    exact h

lemma yields_reconcile :
    Yields due t (OwnsLease t transaction)
      (attempt (ask params (.reconcile transaction cancelIfAbsent)))
      (fun reconciled => Heard due t transaction cancelIfAbsent reconciled) := by
  intro w hw
  refine wp_plain_owed (c := .reconcile transaction cancelIfAbsent) trivial
    fun _ i r _ hr hd hse hsm => ?_
  have ho := Stable.same (t := t) _ _ (Stable.rely (t := t) _ _ hw hr) hsm
  cases i with
  | reconciled answer =>
    obtain ⟨rfl, rfl⟩ := Prod.mk.inj (Option.some.inj hse)
    cases answer with
    | ok reconciled =>
      refine ⟨ho, fun ha hs hstate => ?_, fun ha hs hst leaseId hl => ?_⟩
      · have hc : (!(transaction.cleanupFailureCode == some "tunnel_data_plane_stalled") &&
            (reconciled.state == .terminal || reconciled.state == .cancelled ||
              cancelIfAbsent && reconciled.state == .notFound)) = true := by
          simp only [Bool.and_eq_true, Bool.not_eq_true', beq_eq_false_iff_ne, Bool.or_eq_true,
            beq_iff_eq]
          exact ⟨hs, or_assoc.mpr hstate⟩
        simp only [AndroidWorld.noteReconciled, if_pos hc]
        exact List.mem_cons_self
      · have hf : (transaction.cleanupFailureCode == some "tunnel_data_plane_stalled" &&
            (reconciled.leaseStatus == some "released" ||
              reconciled.leaseStatus == some "failed")) = true := by
          simp only [Bool.and_eq_true, Bool.or_eq_true, beq_iff_eq]
          exact ⟨hs, hst⟩
        simp only [AndroidWorld.noteReconciled, if_pos hf, hl]
        exact List.mem_cons_self
    | error error =>
      refine excused_answer ho (fun hg ha => ?_) fun ha hac => quiet_of_panel (hd ha) rfl hac
      have hg' : noLongerActive (.error error : Except Throwable BackgroundReconcileResult) =
        true := (gone_eq error).trans hg
      cases hl : transaction.leaseId with
      | none => simp [AndroidWorld.noteReconciled, hg']
      | some => simp [AndroidWorld.noteReconciled, hg', hl]
  | _ => cases hse

lemma wpe_stop (hw : Owns t o (some leaseId) w) :
    wpe (owed params due) t
      (outcome (attempt (ask params (.stop leaseId stopOperationId failureCode))))
      (fun result w => match result with
        | .ok _ => MayDrop due t o (some leaseId) w
        | .error error => Excused due t error w)
      (fun _ _ => False) w := by
  rw [wpe_outcome]
  refine wp_plain_owed (c := .stop leaseId stopOperationId failureCode) trivial
    fun _ i r _ hr hd hse hs => ?_
  have ho := Stable.same (t := t) _ _ (Stable.rely (t := t) _ _ hw hr) hs
  cases i with
  | verdict answer =>
    obtain ⟨rfl, rfl⟩ := Prod.mk.inj (Option.some.inj hse)
    cases answer with
    | ok _ =>
      refine ⟨ho, fun ha => ?_⟩
      simp [AndroidWorld.noteStopped, Except.isOk, Except.toBool]
    | error =>
      refine excused_answer ho (fun hg ha => ?_) fun ha hac => quiet_of_panel (hd ha) rfl hac
      simp [AndroidWorld.noteStopped, hg]
  | _ => cases hse

section Device

variable [hJ : Stable t J]

lemma yields_runtimeStop (hh : ∀ w, J w → Holds t w) :
    Yields due t J (attempt (ask params .runtimeStop)) (fun _ => J) := by
  intro w hw
  refine wp_plain_owed (c := .runtimeStop) trivial fun _ i r _ hr hd hse hs => ?_
  have hJ' := hJ.same _ _ (hJ.rely _ _ hw hr) hs
  cases i with
  | ran answer =>
    obtain ⟨rfl, -⟩ := Prod.mk.inj (Option.some.inj hse)
    cases answer with
    | ok _ => exact hJ'
    | error => exact (hh _ hJ').excused fun ha => quiet_of_device (hd ha) rfl
  | _ => cases hse

lemma yields_runtimeRunning (hh : ∀ w, J w → Holds t w) :
    Yields due t J (attempt (ask params .runtimeRunning)) (fun _ => J) := by
  intro w hw
  refine wp_plain_owed (c := .runtimeRunning) trivial fun _ i r _ hr hd hse hs => ?_
  have hJ' := hJ.same _ _ (hJ.rely _ _ hw hr) hs
  cases i with
  | ran answer =>
    obtain ⟨rfl, -⟩ := Prod.mk.inj (Option.some.inj hse)
    cases answer with
    | ok _ => exact hJ'
    | error => exact (hh _ hJ').excused fun ha => quiet_of_device (hd ha) rfl
  | _ => cases hse

lemma yields_syncBindingPreferences (template : AndroidIntentTemplate)
    (hh : ∀ w, J w → Holds t w) :
    Yields due t J (attempt (ask params (.syncBindingPreferences template))) (fun _ => J) := by
  intro w hw
  refine wp_plain_owed (c := .syncBindingPreferences template) trivial
    fun _ i r _ hr hd hse hs => ?_
  have hJ' := hJ.same _ _ (hJ.rely _ _ hw hr) hs
  cases i with
  | verdict answer =>
    obtain ⟨rfl, -⟩ := Prod.mk.inj (Option.some.inj hse)
    cases answer with
    | ok _ => exact hJ'
    | error => exact (hh _ hJ').excused fun ha => quiet_of_device (hd ha) rfl
  | _ => cases hse

end Device

end Panel

section Cleanup

variable {params : AndroidParameters} {t : ℕ} {w : AndroidWorld}
  {transaction : AndroidLeaseTransaction}

variable {call : StoreCall}

lemma handles_endCleanup (step : AndroidCoordinatorStep) :
    Handles due t (MayDrop due t o lease) (endCleanup params step call) := by
  intro w h
  unfold endCleanup storedOrThrow
  rw [wpe_bind, wpe_bind]
  refine wpe_mono (fun result _ h' => ?_) (fun _ _ h => h) (wpe_drop h)
  cases result with
  | ok => exact h'
  | error => exact ⟨h', replacing_store _⟩

lemma handles_completed :
    Handles due t (MayDrop due t o lease) (do
      let completed ← stored params call
      completeInitial params env completed) := by
  intro w h
  refine wpe_seq (wpe_drop h) (fun _ _ h => h) fun result w' h' => ?_
  cases result with
  | ok => exact h'
  | error => exact handles_ite (fun _ => mild_handles) (fun _ => mild_handles) w' h'

lemma handles_restartAfterCleanup :
    Handles due t (MayDrop due t o lease) (restartAfterCleanup params env transaction) := by
  unfold restartAfterCleanup
  refine handles_bind fun _ => ?_
  intro w h
  unfold storedOrThrow
  rw [wpe_bind, wpe_bind]
  refine wpe_mono (fun result w' h' => ?_) (fun _ _ h => h) (wpe_drop h)
  cases result with
  | ok => exact Mild.out w' h'
  | error => exact ⟨h', replacing_store _⟩

lemma handles_completeWithoutLease :
    Handles due t (MayDrop due t o lease) (completeWithoutLease params env transaction) := by
  refine handles_ite (fun _ => handles_restartAfterCleanup) fun _ =>
    handles_ite (fun _ => handles_endCleanup _) fun _ =>
      handles_ite (fun _ => handles_completed) fun _ =>
        handles_ite (fun _ => handles_endCleanup _) fun _ => handles_endCleanup _

lemma handles_completeWithLease :
    Handles due t (MayDrop due t o lease) (completeWithLease params env transaction) := by
  refine handles_ite (fun _ => handles_restartAfterCleanup) fun _ =>
    handles_ite (fun _ => handles_endCleanup _) fun _ =>
      handles_ite (fun _ => handles_endCleanup _) fun _ => handles_endCleanup _

/-- A round of the cleanup ends with an answer, or goes on with the transaction. -/
def Continues (t : ℕ) (result : Unit ⊕ AndroidCoordinatorStep) (w : AndroidWorld) :
    Prop :=
  match result with
  | .inl _ => Holds t w
  | .inr _ => Gated t w

lemma continues_done (hx : Answers due t J x) :
    Yields due t J (Sum.inr <$> x : Coordinate params (Unit ⊕ AndroidCoordinatorStep))
      (Continues t) := yields_map _ hx

lemma yields_cleanupWithoutLease (hl : transaction.leaseId = none)
    (hf : due → transaction.cleanupFailureCode = none) :
    Yields due t (OwnsLease t transaction)
      (cleanupWithoutLease params envelope transaction) (Continues t) := by
  refine yields_seq yields_reconcile fun reconciled => ?_
  have ho : (reconciled.state = .terminal ∨ reconciled.state = .cancelled ∨
      true = true ∧ reconciled.state = .notFound) →
      Yields due t (Heard due t transaction true reconciled)
        (Sum.inr <$> completeWithoutLease params envelope transaction) (Continues t) :=
    fun hs => continues_done
      (handles_completeWithoutLease.answers.from fun _ h => h.mayDrop hl hf hs)
  have hp : ∀ code, Yields due t (Heard due t transaction true reconciled)
      (Sum.inr <$> recordDirectRetry params code none none) (Continues t) := fun code =>
    continues_done settled
  cases hs : reconciled.state with
  | notFound => exact ho (.inr (.inr ⟨rfl, hs⟩))
  | terminal => exact ho (.inl hs)
  | cancelled => exact ho (.inr (.inl hs))
  | applied =>
    refine yields_ite (fun _ => hp _) fun _ => ?_
    refine Yields.from ?_ fun _ h => h.owns.holds
    exact yields_bind fun _ => yields_bind fun stopOperationId => yields_bind fun _ => fun w h => h
  | _ => exact hp _

def Leased (t : ℕ) (transaction : AndroidLeaseTransaction) (w : AndroidWorld) : Prop :=
  ∃ leaseId, transaction.leaseId = some leaseId ∧
    Owns t transaction.startOperationId (some leaseId) w

instance : Stable t (Leased t transaction) where
  gated := fun _ ⟨_, _, h⟩ => h.1
  rely := fun w w' ⟨leaseId, hl, h⟩ hr => ⟨leaseId, hl, Stable.rely w w' h hr⟩
  same := fun w w' ⟨leaseId, hl, h⟩ hs => ⟨leaseId, hl, Stable.same (t := t) w w' h hs⟩

instance {call : StoreCall} [Retains call] : Steady params (Leased t transaction) call where
  retains := not_drops
  access := fun w i result w' hf ⟨leaseId, hl, h⟩ ha =>
    ⟨leaseId, hl, Steady.access w i result w' hf h ha⟩

lemma yields_requireAgain (leaseId stopOperationId : String) :
    Yields due t (Leased t transaction) (requireAgain params envelope leaseId stopOperationId)
      (fun result => Leased t result.2) := by
  refine yields_bind fun _ => yields_seq yields_readOrThrow fun e => ?_
  intro w h
  cases hl : e.leaseTransaction with
  | none => exact excused_mild (Stable.gated w h.1) rfl
  | some =>
    obtain ⟨leaseId, _, how⟩ := h.1
    obtain ⟨ho, hl'⟩ := h.2.same how hl
    exact ⟨leaseId, hl', ho.symm ▸ how⟩

lemma yields_withStopOperation :
    Yields due t (Leased t transaction) (withStopOperation params envelope transaction)
      (fun result => Leased t result.2) := by
  refine yields_ite (fun _ => ?_) fun _ w h => h
  exact yields_bind fun _ => yields_bind fun stopOperationId => yields_requireAgain _ _

lemma yields_withLocalStop :
    Yields due t (Leased t transaction) (withLocalStop params envelope transaction)
      (fun result => Leased t result.2) := by
  refine yields_ite (fun _ => ?_) fun _ w h => h
  exact yields_bind fun _ => yields_bind fun stopOperationId => yields_requireAgain _ _

lemma Leased.holds (h : Leased t transaction w) : Holds t w := by
  obtain ⟨_, _, ho⟩ := h
  exact ho.holds

lemma wpe_notNull_some {Q : β → AndroidWorld → Prop} :
    wpe (owed params due) t (notNull params (some b)) Q E w ↔ Q b w := Iff.rfl

lemma answers_giveBack :
    Answers due t (Leased t transaction) (giveBack params envelope transaction) := by
  intro w h
  obtain ⟨leaseId, hl, ho⟩ := h
  unfold giveBack
  rw [hl, wpe_bind, wpe_notNull_some]
  refine yields_bind
    (fun _ _ h1 => ?_) w ho
  refine wpe_seq (wpe_stop h1) (fun _ _ h => h.elim) fun result w2 h2 => ?_
  cases result with
  | ok _ => exact handles_completeWithLease.answers w2 h2
  | error error =>
    dsimp only [stopFailed]
    split
    · exact settled (t := t) (J := Excused due t error) w2 h2
    · exact h2

lemma answers_cleanupWithLease :
    Answers due t (Leased t transaction) (cleanupWithLease params envelope transaction) := by
  refine yields_seq yields_withStopOperation fun result => ?_
  refine yields_seq yields_withLocalStop fun result => ?_
  refine yields_seq (yields_runtimeStop fun _ => Leased.holds) fun stopped => ?_
  refine yields_ite (fun _ => answers_giveBack) fun _ => yields_ite (fun _ => ?_) fun _ => ?_
  · exact settled
  · exact settled

lemma yields_cleanupRound (u : Unit) :
    Yields due t (Holds t) (cleanupRound params u) (Continues t) := by
  unfold cleanupRound
  refine yields_seq yields_readOrThrow fun e => ?_
  rintro w ⟨hh, hs⟩
  cases hle : e.leaseTransaction with
  | none => exact hh.1
  | some transaction =>
    have ho := hs.owns hh.1 hle
    dsimp only
    cases hl : transaction.leaseId with
    | none =>
      exact yields_cleanupWithoutLease hl (fun ha =>
        hs.fit.unstalled ha transaction hle hl) w
        ho
    | some leaseId =>
      exact continues_done answers_cleanupWithLease w ⟨leaseId, hl, hl ▸ ho⟩

lemma answers_cleanup : Answers due t (Holds t) (cleanup params) := by
  intro w h
  refine wpe_loop (fun _ => Holds t) h fun u w1 h1 => ?_
  refine wpe_mono (fun result _ h2 => ?_) (fun _ _ h => h) (yields_cleanupRound u w1 h1)
  cases result with
  | inl _ | inr => exact h2

end Cleanup

section Starts

variable {params : AndroidParameters} {due : Prop} {t : ℕ} {w : AndroidWorld}
  {transaction : AndroidLeaseTransaction} {J : AndroidWorld → Prop}

/-- The thread still owns the operation of its start request, whose error is excused. -/
def Sent (due : Prop) (t : ℕ) (transaction : AndroidLeaseTransaction)
    (answer : Except Throwable (Option (Except Throwable BackgroundStartResult)))
    (w : AndroidWorld) : Prop :=
  Owns t transaction.startOperationId transaction.leaseId w ∧
    ∀ error, answer = .error error ∨ answer = .ok (some (.error error)) → Excused due t error w

instance {answer : Except Throwable (Option (Except Throwable BackgroundStartResult))} :
    Stable t (Sent due t transaction answer) where
  gated _ h := h.1.1
  rely w w' h hr := ⟨Stable.rely w w' h.1 hr, fun error he =>
    Stable.rely w w' (h.2 error he) hr⟩
  same w w' h hs := ⟨Stable.same (t := t) w w' h.1 hs, fun error he =>
    Stable.same (t := t) w w' (h.2 error he) hs⟩

lemma wpe_start (hw : OwnsLease t lease w) :
    wpe (owed params due) t (outcome (attempt (ask params (.start template lease))))
      (fun answer => Sent due t lease (.ok (some answer))) (fun _ _ => False) w := by
  rw [wpe_outcome]
  refine wp_plain_owed (c := .start template lease) trivial
    fun _ i r _ hr hd hse hs => ?_
  have ho := Stable.same (t := t) _ _ (Stable.rely (t := t) _ _ hw hr) hs
  cases i with
  | started answer =>
    obtain ⟨rfl, rfl⟩ := Prod.mk.inj (Option.some.inj hse)
    cases answer with
    | ok =>
      refine ⟨ho, ?_⟩
      rintro error (h | h) <;> cases h
    | error error =>
      refine ⟨ho, ?_⟩
      rintro _ (h | h)
      · cases h
      cases h
      refine excused_answer ho (fun hg ha => ?_) fun ha hac => quiet_of_panel (hd ha) rfl hac
      have hg' : noLongerActive (.error error : Except Throwable BackgroundStartResult) =
        true := (gone_eq error).trans hg
      cases hl : lease.leaseId with
      | none => simp [AndroidWorld.noteStarted, hg']
      | some => simp [AndroidWorld.noteStarted, hg', hl]
  | _ => cases hse

lemma wpe_sendStart (hw : OwnsLease t lease w) :
    wpe (owed params due) t (outcome (sendStart params template lease))
      (fun answer => Sent due t lease answer) (fun _ _ => False) w := by
  rw [wpe_outcome]
  refine wpe_seq (Mild.out w hw) (fun error w1 h => ?_) fun e w1 h => ?_
  · refine ⟨h.1, ?_⟩
    rintro _ (h' | h')
    · cases h'
      exact excused_mild h.1.1 h.2
    · cases h'
  · split
    · refine ⟨h, ?_⟩
      rintro error (h' | h') <;> cases h'
    · exact wpe_seq (wpe_start h) (fun _ _ h => h.elim) fun answer w2 h2 => h2

lemma yields_requestStart :
    Yields due t (OwnsLease t lease) (requestStart params template lease)
      (fun _ => OwnsLease t lease) := by
  refine yields_bind fun _ => yields_seq (fun w hw => ?_)
    (R := fun answer => Sent due t lease answer) fun answer => ?_
  · exact wpe_mono (fun _ _ h => h) (fun _ _ h => h.elim) (wpe_sendStart hw)
  · refine yields_bind fun _ => yields_bind fun _ => ?_
    intro w h
    rcases answer with error | _ | (error | _)
    · dsimp only [requestEnded]
      split
      · exact h.1
      · exact h.2 error (.inl rfl)
    · exact h.1
    · dsimp only [requestEnded, startAnswer]
      split
      · exact h.1
      · exact h.2 error (.inr rfl)
    · exact h.1

instance [Mild due t J (storedOrThrow params .read)] :
    Mild due t J (stillDesired params transaction) := by
  unfold stillDesired
  infer_instance

def Unstalled (due : Prop) (transaction : AndroidLeaseTransaction) : Prop :=
  due → transaction.leaseId = none → transaction.cleanupFailureCode = none

lemma answers_closeAuthoritative (hd : envelope.intent.desiredActive = true)
    (hu : Unstalled due transaction)
    (hs : reconciled.state = .terminal ∨ reconciled.state = .cancelled ∨
      cancelIfAbsent = true ∧ reconciled.state = .notFound)
    (code : String) :
    Answers due t (Heard due t transaction cancelIfAbsent reconciled)
      (closeAuthoritativePendingStartAndRetry params envelope transaction code) := by
  unfold closeAuthoritativePendingStartAndRetry
  rw [hd]
  simp only [Bool.not_true, Bool.false_or, Bool.false_and, Bool.false_eq_true, if_false]
  refine yields_ite (fun _ => settled) fun hp => ?_
  have hl : transaction.leaseId = none := by
    simp only [Bool.or_eq_true, not_or, Option.not_isSome_iff_eq_none] at hp
    exact hp.2
  refine Yields.from ?_
    fun _ h => h.mayDrop hl (fun ha => hu ha hl) hs
  refine yields_bind fun _ => yields_bind fun now => ?_
  refine Handles.answers fun w h => wpe_seq (wpe_drop h) (fun _ _ h => h) fun result _ h' => ?_
  cases result <;> exact h'

def Promoted (t : ℕ) (w : AndroidWorld) : Prop :=
  Gated t w ∧ w.record.leaseTransaction = none ∧ w.record.redundantTransaction.isSome = true

instance : Stable t (Promoted t) where
  gated _ h := h.1
  rely _ _ h hr := ⟨h.1.relied hr, (hr.2 h.1).2.promoted h.2.1 h.2.2⟩
  same _ _ h hs := ⟨hs.gate.trans h.1, (Same.kept hs).promoted h.2.1 h.2.2⟩

lemma yields_promotePendingRedundant [hJ : Stable t J] (session : AndroidRedundantTransaction) :
    Yields due t J (storedOrThrow params (.promotePendingRedundant lease session))
      (fun _ => Promoted t) := by
  intro w h
  unfold storedOrThrow
  rw [wpe_bind]
  refine wpe_store (hJ.gated w h) (fun _ hd => hd.elim) fun _ i _ _ _ _ _ ha hg' => ?_
  obtain ⟨hr, -⟩ := access_frame ha
  refine ⟨?_, fun _ _ => excused_mild hg' (replacing_store _), fun _ => excused_mild hg' rfl⟩
  rintro e rfl
  exact ⟨hg', promoted_run hr⟩

lemma yields_runtimeStartRedundant (operationId : String) :
    Yields due t (Promoted t) (attempt (ask params (.runtimeStartRedundant operationId)))
      (fun _ => Promoted t) := by
  intro w hw
  refine wp_plain_owed (c := .runtimeStartRedundant operationId) trivial
    fun _ i r _ hre _ hse hsame => ?_
  have hp := Stable.same (t := t) _ _ (Stable.rely (t := t) _ _ hw hre) hsame
  cases i with
  | verdict answer =>
    obtain ⟨rfl, -⟩ := Prod.mk.inj (Option.some.inj hse)
    cases answer with
    | ok _ => exact hp
    | error error =>
      exact ⟨hp.1, fun _ _ => .inr hp.2⟩
  | _ => cases hse

lemma answers_promote (result : BackgroundStartResult) :
    Answers due t (OwnsLease t lease) (promote params lease result) := by
  refine yields_bind fun _ => yields_ite (fun _ => answers_cleanup.from fun _ => Owns.holds)
    fun _ => yields_bind fun admitted => yields_ite (fun _ => settled) fun _ => ?_
  cases result.redundantTransaction with
  | none => exact yields_throw rfl
  | some session =>
    exact yields_seq (yields_promotePendingRedundant session) fun _ =>
      yields_seq (yields_runtimeStartRedundant _) fun _ => settled

lemma answers_sendRedundantStart :
    Answers due t (OwnsLease t lease) (sendRedundantStart params template lease) := by
  refine yields_seq yields_requestStart fun result => ?_
  cases result with
  | none => exact settled
  | some result => exact answers_promote result

lemma answers_syncRedundant :
    Answers due t (OwnsLease t lease) (syncRedundant params template lease) := by
  refine yields_seq (yields_syncBindingPreferences template fun _ => Owns.holds) fun _ => ?_
  refine yields_bind fun _ => yields_ite (fun _ => answers_cleanup.from fun _ => Owns.holds)
    fun _ => yields_bind fun admitted => yields_ite (fun _ => settled)
      fun _ => answers_sendRedundantStart

lemma answers_continueRedundantStart (hd : env.intent.desiredActive = true)
    (hu : Unstalled due lease) :
    Answers due t (Heard due t lease cancelIfAbsent reconciled)
      (continueRedundantStart params env lease reconciled.state) := by
  have hse : ∀ state : ReconcileState,
      Answers due t (Heard due t lease cancelIfAbsent reconciled) (do
      let template ← notNull params env.intent.template
      if state = .notFound && template.syncBindingPreferences then
        syncRedundant params template lease
      else sendRedundantStart params template lease) := by
    intro _
    refine yields_bind fun template => yields_ite (fun _ => ?_) fun _ => ?_
    · exact answers_syncRedundant.from fun _ h => h.owns
    · exact answers_sendRedundantStart.from fun _ h => h.owns
  have hc : (reconciled.state = .terminal ∨ reconciled.state = .cancelled) → ∀ code,
      Answers due t (Heard due t lease cancelIfAbsent reconciled)
        (closeAuthoritativePendingStartAndRetry params env lease code) :=
    fun h => answers_closeAuthoritative hd hu (or_assoc.mp (.inl h))
  cases hs : reconciled.state with
  | applying | compensating => exact answers_recordDirectRetry
  | terminal => exact hc (.inl hs) _
  | cancelled => exact hc (.inr hs) _
  | notFound | pending | applied => exact hse _
  | other => exact answers_recordTerminalFailure

lemma answers_runPendingRedundantStart (hu : Unstalled due lease) :
    Answers due t (OwnsLease t lease)
      (runPendingRedundantStart params env lease) := by
  intro w h
  refine wpe_require (fun _ => excused_mild h.1 rfl) fun _ => ?_
  refine yields_ite
    (fun _ => answers_cleanup.from fun _ => Owns.holds) (fun hd => ?_) w h
  refine yields_seq yields_reconcile fun _ => ?_
  refine yields_bind fun _ => yields_ite
    (fun _ => answers_cleanup.from fun _ h => h.owns.holds) fun _ =>
      yields_bind fun _ => yields_ite (fun _ => settled)
        fun _ => answers_continueRedundantStart (by simpa using hd) hu

end Starts

section Tunnel

variable {params : AndroidParameters} {due : Prop} {t : ℕ} {transaction : AndroidLeaseTransaction}
  {leaseId : String}

lemma active_of_mild (h : replacing error = false) :
    noLongerActive (.error error : Except Throwable Unit) = false := by
  cases error with
  | unexpected => rfl
  | background =>
    simp only [replacing, retryNewOperationCodes, List.contains_cons, Bool.or_eq_false_iff] at h
    exact h.1.1

lemma wpe_fence (expectedGeneration : Nat) (operationId : String) (hw : Holds t w) :
    wpe (owed params due) t
      (startRuntimeWithConnectionIntentFence params expectedGeneration operationId)
      (fun _ => Holds t)
      (fun error w => Holds t w ∧
        (due → noLongerActive (.error error : Except Throwable Unit) = false)) w := by
  have haf : Mild due t (Holds t) (fenceAfterStart params expectedGeneration) := by
    unfold fenceAfterStart
    infer_instance
  unfold startRuntimeWithConnectionIntentFence
  refine wpe_seq (Mild.out w hw) (fun _ _ h => ⟨h.1, fun _ => active_of_mild h.2⟩)
    fun _ w1 h1 => ?_
  refine wpe_seq (Mild.out w1 h1) (fun _ _ h => ⟨h.1, fun _ => active_of_mild h.2⟩)
    fun _ _ h2 => ?_
  rw [wpe_bind]
  refine wp_plain_owed (c := .runtimeStart operationId _) trivial
    fun _ i r w4 hr hd hse hs => ?_
  have h4 := Stable.same (t := t) _ _ (Stable.rely (t := t) _ _ h2 hr) hs
  cases i with
  | ran answer =>
    obtain ⟨rfl, -⟩ := Prod.mk.inj (Option.some.inj hse)
    cases answer with
    | ok =>
      dsimp only
      split
      · exact h4
      · split
        · exact wpe_mono (fun _ _ h => h) (fun _ _ h => ⟨h.1, fun _ => active_of_mild h.2⟩)
            (haf.out w4 h4)
        · exact h4
    | error error =>
      refine ⟨h4, fun ha => ?_⟩
      have hau := hd ha
      cases error with
      | unexpected => rfl
      | background =>
        simpa [authoritative, failsWith, failureOf, noLongerActive] using hau
  | _ => cases hse

variable {leaseAlreadyStored : Bool}

lemma yields_requireCleanup (stopOperationId : String) (restartIfDesired : Bool) :
    Yields due t (Holds t)
      (storedOrThrow params (.requireCleanup g leaseId stopOperationId restartIfDesired))
      (fun _ w => Holds t w ∧ Replaceable w) := by
  intro w h
  unfold storedOrThrow
  rw [wpe_bind]
  refine wpe_store h.1 (fun _ hd => hd.elim) fun w1 i result w' hr hf _ ha hg' => ?_
  have h' : Holds t w' := Steady.access w1 i result w' hf.valid (Stable.rely _ _ h hr) ha
  obtain ⟨hrun, -⟩ := access_frame ha
  refine ⟨?_, fun _ _ => excused_mild hg' (replacing_store _), fun _ => excused_mild hg' rfl⟩
  rintro e rfl
  obtain ⟨lease, hl, hp⟩ := cleaning_run hrun
  exact ⟨h', .inl ⟨lease, hl, .inl hp⟩⟩

lemma answers_startCancelled (he : replacing error = false) :
    Answers due t (Holds t) (AndroidCoordinator.startCancelled params lease leaseId error) := by
  refine yields_bind fun _ => yields_bind fun admitted => yields_ite (fun _ => ?_) fun _ =>
    yields_throw he
  exact yields_bind fun _ => yields_bind fun _ => answers_cleanup

lemma answers_runtimeFailed
    (hac : due → noLongerActive (.error error : Except Throwable Unit) = false) :
    Answers due t (Holds t) (runtimeFailed params lease leaseId error) := by
  cases error with
  | unexpected => exact yields_throw rfl
  | background =>
    refine yields_ite (fun _ => ?_) fun hh => yields_ite (fun hc => ?_) fun _ => ?_
    · refine yields_bind fun _ => yields_bind fun stopOperationId =>
        yields_seq (yields_requireCleanup _ _) fun _ w h => ?_
      exact ⟨h.1.1, fun _ _ => h.2⟩
    · exact answers_startCancelled (by rw [hc]; rfl)
    · intro w h
      refine h.excused fun ha => ?_
      have hg := hac ha
      simp only [noLongerActive] at hg
      simp only [renewing, retryNewOperationCodes, List.contains_cons, List.contains_nil, hg,
        Bool.or_false, Bool.false_or, beq_eq_false_iff_ne]
      exact hh

lemma answers_checkpointFailed (failure : StoreFailure) :
    Answers due t (Holds t) (checkpointFailed params leaseId failure) := by
  refine yields_bind fun _ => yields_ite (fun _ => yields_throw (replacing_store _)) fun _ => ?_
  exact yields_bind fun _ => yields_bind fun _ => answers_cleanup

lemma answers_checkpoint : Answers due t (Holds t) (checkpoint params lease leaseId) := by
  refine yields_bind fun activated => ?_
  cases activated with
  | ok _ => exact settled
  | error failure => exact answers_checkpointFailed failure

instance : Mild due t (Holds t) (requireCurrentCleanup params transaction leaseId) := by
  unfold requireCurrentCleanup
  infer_instance

lemma answers_afterRuntimeStart (result : RuntimeStartFenceResult) :
    Answers due t (Holds t) (afterRuntimeStart params lease leaseId result) := by
  cases result with
  | started => exact answers_checkpoint
  | failed => exact yields_throw rfl
  | cancelledBeforeStart => exact yields_bind fun _ => settled
  | cancelledAfterStart => exact yields_bind fun _ => answers_cleanup

lemma answers_startTunnel : Answers due t (Holds t) (startTunnel params lease leaseId) := by
  intro w h
  unfold startTunnel
  rw [wpe_bind, wpe_outcome]
  refine wpe_mono (fun result w1 h1 => ?_) (fun error w1 h1 => ?_) (wpe_fence _ _ h)
  · exact answers_afterRuntimeStart result w1 h1
  · exact answers_runtimeFailed h1.2 w1 h1.1

instance : Mild due t (Holds t) (keepLease params transaction leaseId leaseAlreadyStored) := by
  unfold keepLease
  split
  · infer_instance
  · unfold require
    split
    · infer_instance
    · exact mild_throw rfl

lemma answers_afterStart :
    Answers due t (Holds t) (afterStart params lease leaseId leaseAlreadyStored) := by
  refine yields_bind fun _ => yields_bind fun admitted => yields_ite (fun _ => ?_) fun _ => ?_
  · exact yields_bind fun _ => yields_bind fun _ => settled
  · exact yields_bind fun _ => answers_startTunnel

lemma answers_sendExactStart :
    Answers due t (OwnsLease t lease)
      (sendExactStart params template lease leaseAlreadyStored) := by
  refine yields_bind fun _ => yields_ite (fun _ => settled)
    fun _ => yields_seq yields_requestStart fun result => ?_
  cases result with
  | none => exact settled
  | some => exact (answers_afterStart).from fun _ => Owns.holds

lemma handles_cancelledAfterSync :
    Handles due t (Owns t o none) (do
      let _ ← storedOrThrow params (.completeCancelledStart .afterSync g)
      pure .idle) := by
  intro w h
  unfold storedOrThrow
  rw [wpe_bind, wpe_bind]
  refine wpe_store h.1 (fun ha _ w1 i hr hd _ hl => ?_) fun _ _ _ _ _ _ _ _ hg' => ?_
  · obtain ⟨-, _, hl', -, hle⟩ := Stable.rely _ _ h hr
    rw [hl] at hl'
    cases hl'
    have hau := hd ha
    simp only [authoritative, hl, Option.all_some, Bool.or_eq_true, Bool.not_eq_true',
      List.contains_eq_mem, decide_eq_true_eq, decide_eq_false_iff_not] at hau
    refine hau.imp (fun hse => ⟨hle, hse⟩) fun hc => ?_
    unfold Cleared
    rw [hle]
    exact hc
  · exact ⟨fun _ _ => hg', fun _ _ => ⟨hg', replacing_store _⟩, fun _ => ⟨hg', rfl⟩⟩

lemma answers_syncExact :
    Answers due t (OwnsLease t lease)
      (syncExact params template lease leaseAlreadyStored) := by
  refine yields_seq (yields_syncBindingPreferences template fun _ => Owns.holds) fun _ =>
    yields_seq yields_readOrThrow fun ready => ?_
  have ho : ∀ w, OwnsLease t lease w ∧ Saw params due ready w → OwnsLease t lease w :=
    fun _ h => h.1
  refine yields_ite (fun _ => yields_ite (fun hp => ?_) fun _ => ?_) fun _ => ?_
  · intro w h
    cases hl : ready.leaseTransaction with
    | none =>
      rw [hl] at hp
      simp at hp
    | some =>
      rw [hl] at hp
      simp only [Bool.and_eq_true, Option.any_some, Option.isNone_iff_eq_none] at hp
      have ho : Owns t lease.startOperationId lease.leaseId w := h.1
      rw [(h.2.same h.1 hl).2.symm.trans hp.2.2] at ho
      exact handles_cancelledAfterSync.answers w ho
  · exact Yields.from settled ho
  · refine Yields.from ?_ ho
    exact yields_bind fun _ => yields_ite (fun _ => settled) fun _ => answers_sendExactStart

lemma answers_exactReplayAndStart (leaseAlreadyStored syncBeforeStart : Bool) :
    Answers due t (OwnsLease t lease)
      (exactReplayAndStart params env lease leaseAlreadyStored syncBeforeStart) := by
  unfold exactReplayAndStart
  cases env.intent.template with
  | none => exact yields_throw rfl
  | some =>
    refine yields_bind fun _ => yields_ite (fun _ => settled)
      fun _ => yields_ite (fun _ => ?_) fun _ => ?_
    · exact answers_syncExact
    · exact answers_sendExactStart

end Tunnel

end NelomaiClient.AndroidAnswers
