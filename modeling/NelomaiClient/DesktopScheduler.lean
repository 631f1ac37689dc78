import NelomaiClient.DesktopSlotReturn

/-!
# The scheduler and the attempt in flight

The scheduler must not find a retry due while an attempt holds the slot: the
attempt would be refused and the loop would spin. Every critical section keeps
the planned retry empty while the slot is taken, except the one that takes a
network wake-up. If wake-ups are taken only with an empty slot, a due retry is
always admitted.
-/

namespace NelomaiClient.DesktopScheduler

open ConnectionContract RecoveryPolicy IntentCoordinator ConnectionIntentCoordinator
open CoreContract DesktopRuntime DesktopIntent DesktopSlot DesktopSlotReturn AwaitPool

def Undue (state : RuntimeState) : Prop :=
  state.coordinator.attemptGeneration ≠ none → state.nextRetryAtUnix = none

def wakeupCondition (_ : ℕ) (c : Cmd) (_ : Input) (w : DesktopWorld) : Prop :=
  c = .schedulerSleep → w.runtime.coordinator.networkWakeupPending = true →
    w.runtime.coordinator.attemptGeneration = none

instance (t : ℕ) (c : Cmd) (i : Input) (w : DesktopWorld) : Decidable (wakeupCondition t c i w) :=
  inferInstanceAs (Decidable (_ → _ → _))

def RetryKept (state state' : RuntimeState) : Prop :=
  state'.nextRetryAtUnix = state.nextRetryAtUnix ∨ state'.nextRetryAtUnix = none ∨
    state'.coordinator.attemptGeneration = none

lemma Undue.step (h : Undue state) (hs : SlotStep own state.coordinator state'.coordinator)
    (hr : RetryKept state state') : Undue state' := by
  intro hsl
  rcases hr with hr | hr | hr
  · rw [hr]
    apply h
    rcases hs.slot with he | ⟨he, -⟩
    · rwa [he] at hsl
    · exact absurd he hsl
  · exact hr
  · exact absurd hr hsl

section Sections

variable (state : RuntimeState) (g : IntentGeneration)

lemma startAfterCoreObservation_retry (observed : Option (IntentGeneration × Connection))
    (core : CoreState) (cleanupPending : Bool) (options : ConnectOptions) (nowUnix : Int) :
    (state.startAfterCoreObservation observed core cleanupPending options
      nowUnix).2.nextRetryAtUnix = state.nextRetryAtUnix := by
  unfold RuntimeState.startAfterCoreObservation
  dsimp only
  split
  · split <;> rfl
  · rfl

lemma startSection_retry (observed : Option (IntentGeneration × Connection))
    (core : CoreState) (cleanupPending : Bool) (options : ConnectOptions) (nowUnix : Int)
    (preflight : Option InitialDesktopPreflight) :
    RetryKept state
      (state.startSection observed core cleanupPending options nowUnix preflight).2 := by
  have ho := startAfterCoreObservation_retry state observed core cleanupPending options nowUnix
  unfold RuntimeState.startSection
  dsimp only
  split
  · exact Or.inl ho
  · split
    · exact Or.inl ho
    · split
      · exact Or.inl ho
      · dsimp only [RuntimeState.disown]
        split
        · exact Or.inl ho
        · exact Or.inl ho
        · exact Or.inr (Or.inl rfl)
  · split
    · exact Or.inr (Or.inl rfl)
    · exact Or.inl ho

lemma cancelSection_retry : RetryKept state state.cancelSection.2 := by
  unfold RuntimeState.cancelSection
  dsimp only
  split
  · exact Or.inr (Or.inl rfl)
  · exact Or.inl rfl

lemma stallSection_retry (trigger : StallTrigger) (plan : StallRecoveryPlan) :
    RetryKept state (state.stallSection g trigger plan nowUnix).2 := by
  unfold RuntimeState.stallSection
  split
  · exact Or.inl rfl
  · exact Or.inr (Or.inl rfl)

lemma schedulerSleepSection_retry (wakeUnix : Int)
    (h : state.coordinator.networkWakeupPending = true →
      state.coordinator.attemptGeneration = none) :
    RetryKept state (state.schedulerSleepSection wakeUnix nowUnix).2 := by
  have hst := takeNetworkWakeup_slotStep state.coordinator
  unfold RuntimeState.schedulerSleepSection
  dsimp only
  by_cases hp : state.coordinator.networkWakeupPending = true
  · have hs : state.coordinator.takeNetworkWakeup.2.attemptGeneration = none := by
      rcases hst.slot with he | ⟨he, -⟩
      · rw [he, h hp]
      · exact he
    split <;> split <;> exact Or.inr (Or.inr hs)
  · have hf : state.coordinator.takeNetworkWakeup.1 = false := by
      unfold takeNetworkWakeup
      rw [if_neg hp]
    rw [hf, if_neg Bool.false_ne_true]
    split <;> exact Or.inl rfl

lemma currentSection_retry (next : RuntimeState → Bool × RuntimeState)
    (hn : ∀ state : RuntimeState, (next state).2.nextRetryAtUnix = state.nextRetryAtUnix) :
    RetryKept state (state.currentSection g next).2 := by
  unfold RuntimeState.currentSection
  split
  · exact Or.inl (hn _)
  · exact Or.inl rfl

lemma resolveSection_retry (options : Option ConnectOptions) :
    (RuntimeState.resolveSection g options state).2.nextRetryAtUnix = state.nextRetryAtUnix := by
  unfold RuntimeState.resolveSection
  split
  · rfl
  · dsimp only
    split <;> rfl

lemma abandonSection_retry : RetryKept state (state.abandonSection g).2 := by
  unfold RuntimeState.abandonSection
  dsimp only
  split
  · exact Or.inl rfl
  · exact Or.inr (Or.inl rfl)

lemma successSection_retry (connection : Connection) :
    RetryKept state (state.successSection g connection).2 := by
  unfold RuntimeState.successSection
  dsimp only
  split
  · exact Or.inr (Or.inl rfl)
  · exact Or.inl rfl

lemma deferredSection_retry : RetryKept state (state.deferredSection g nowUnix).2 := by
  unfold RuntimeState.deferredSection
  dsimp only
  split
  · exact Or.inl rfl
  · rename_i ha
    exact Or.inr (Or.inr (acceptResult_frees (not_not.mp ha)))

lemma retrySection_retry (code : String) (decision : RecoveryDecision) (nowUnix : Int) :
    RetryKept state (state.retrySection g code decision nowUnix).2 := by
  by_cases ha : (state.coordinator.acceptResult g).1 = .accept
  · have hf := acceptResult_frees ha
    refine Or.inr (Or.inr ?_)
    simp only [RuntimeState.retrySection, ha, reduceCtorEq, if_false]
    split
    · exact hf
    · rcases (scheduleRetry_slotStep (state.coordinator.acceptResult g).2 g nowUnix).slot with
        he | ⟨he, -⟩
      · rw [he, hf]
      · exact he
  · simp only [RuntimeState.retrySection, acceptResult_discarded ha, if_true]
    exact Or.inl rfl

lemma errorSection_retry (error : ApplicationError) (nowUnix : Int) :
    RetryKept state (state.errorSection g error nowUnix).2 := by
  have hr := retrySection_retry (state.noteError error).2 g (stableErrorCode error)
    (state.noteError error).1 nowUnix
  unfold RuntimeState.errorSection
  dsimp only
  split
  · split
    · exact Or.inl rfl
    · exact Or.inr (Or.inl rfl)
  · exact hr

end Sections

lemma locked_runtime {α : Type} {w w' : DesktopWorld} {f : RuntimeState → α × RuntimeState}
    (h : (w.locked f).map Prod.snd = some w') : w'.runtime = (f w.runtime).2 := by
  rw [locked_snd, Option.some.injEq] at h
  exact h ▸ rfl

lemma bind_locked_runtime {α β : Type} {w w' : DesktopWorld} {input : Option β}
    {f : β → RuntimeState → α × RuntimeState}
    (h : (input.bind fun b => w.locked (f b)).map Prod.snd = some w') :
    ∃ b, w'.runtime = (f b w.runtime).2 := by
  cases input with
  | none => cases h
  | some b => exact ⟨b, locked_runtime h⟩

lemma sem_retry {c : Cmd} {t : ℕ} {i : Input} {w w' : DesktopWorld} {r : c.Resp}
    (hc : wakeupCondition t c i w) (hse : sem c t i w = some (r, w'))
    (hb : ∀ g, c ≠ .beginSection g) : RetryKept w.runtime w'.runtime := by
  have h : (sem c t i w).map Prod.snd = some w' := by rw [hse]; rfl
  have hs : w.runtime = w'.runtime → RetryKept w.runtime w'.runtime := fun he => Or.inl (he ▸ rfl)
  cases c with
  | beginSection g => exact absurd rfl (hb g)
  | observeCompleted | stallObserve _ | localRecovery | attemptReturned _ | notifyOne =>
    exact hs (Option.some.inj h ▸ rfl)
  | schedulerDue | clock | coreState | bootstrap | unit _ | connection _ | flag _ =>
    exact hs (answered_same h ▸ rfl)
  | startSection =>
    obtain ⟨b, he⟩ := bind_locked_runtime h
    rw [he]
    exact startSection_retry _ _ _ _ _ _ _
  | cancelSection =>
    simp only [sem] at h
    rw [locked_runtime h]
    exact cancelSection_retry _
  | wakeSection | requireReconcile | startNextAttempt | reportQueueFailed | compensated =>
    simp only [sem] at h
    rw [locked_runtime h]
    exact Or.inl rfl
  | stallSection g trigger plan =>
    obtain ⟨b, he⟩ := bind_locked_runtime h
    rw [he]
    exact stallSection_retry _ g trigger plan
  | schedulerSleep =>
    obtain ⟨b, he⟩ := bind_locked_runtime h
    rw [he]
    exact schedulerSleepSection_retry _ _ (hc rfl)
  | checkCurrent g | finishPreflight g | finishRefresh g =>
    simp only [sem] at h
    rw [locked_runtime h]
    exact currentSection_retry _ g _ fun _ => rfl
  | resolve g options =>
    simp only [sem] at h
    rw [locked_runtime h]
    exact currentSection_retry _ g _ fun state => resolveSection_retry state g options
  | abandon g =>
    simp only [sem] at h
    rw [locked_runtime h]
    exact abandonSection_retry _ g
  | success g connection =>
    simp only [sem] at h
    rw [locked_runtime h]
    exact successSection_retry _ g connection
  | deferred g =>
    obtain ⟨b, he⟩ := bind_locked_runtime h
    rw [he]
    exact deferredSection_retry _ g
  | failed g error =>
    obtain ⟨b, he⟩ := bind_locked_runtime h
    rw [he]
    exact errorSection_retry _ g error b
  | notified | sleepOrNotified => exact hs (waited_frame (by simp) h).1.symm

/-- Invariant of the scheduler: nothing is due beside a taken slot, and a shown
status belongs to an intent. -/
def SchedulerInv (w : DesktopWorld) : Prop := Undue w.runtime ∧ StatusBacked w.runtime.coordinator

lemma schedulerInv_step (hco : wakeupCondition t c i w) (h : SchedulerInv w)
    (hse : sem c t i w = some (r, w')) : SchedulerInv w' := by
  by_cases hb : ∃ g, c = .beginSection g
  · obtain ⟨g, rfl⟩ := hb
    have hbe : w.begin t g = (r, w') := Option.some.inj hse
    unfold DesktopWorld.begin at hbe
    split at hbe
    · rename_i plan runtime heq
      obtain ⟨-, rfl⟩ := Prod.mk.inj hbe
      have ho : (w.runtime.beginSection g).1 = .ok plan := by rw [heq]
      obtain ⟨-, -, hc⟩ := beginSection_ok ho
      rw [heq] at hc
      refine ⟨fun _ => ?_, ?_⟩
      · unfold RuntimeState.beginSection at heq
        split at heq
        · split at heq <;> cases heq
        · dsimp only at heq
          split at heq
          · cases heq
          · cases heq
            rfl
      · show StatusBacked runtime.coordinator
        rw [hc]
        exact h.2
    · rename_i answer runtime heq
      obtain ⟨-, rfl⟩ := Prod.mk.inj hbe
      have her : (w.runtime.beginSection g).1 = .error answer := by rw [heq]
      have hc := beginSection_error her
      rw [heq] at hc
      dsimp only at hc
      have hn : runtime.nextRetryAtUnix = w.runtime.nextRetryAtUnix := by
        unfold RuntimeState.beginSection at heq
        split at heq
        · split at heq <;> cases heq <;> rfl
        · dsimp only at heq
          split at heq
          · cases heq
            rfl
          · cases heq
      refine ⟨fun hsl => ?_, ?_⟩
      · exact hn.trans (h.1 (hc ▸ hsl))
      · show StatusBacked runtime.coordinator
        rw [hc]
        exact h.2
  · have hb : ∀ g, c ≠ .beginSection g := fun g hg => hb ⟨g, hg⟩
    by_cases he : ∃ g, c = .attemptReturned g
    · obtain ⟨g, rfl⟩ := he
      obtain ⟨-, rfl⟩ := Prod.mk.inj (Option.some.inj hse)
      exact h
    · obtain ⟨hs, -⟩ := sem_slotStep hse hb fun g hg => he ⟨g, hg⟩
      exact ⟨h.1.step hs (sem_retry hco hse hb), hs.backed h.2⟩

lemma SchedulerInv.due_admitted (h : SchedulerInv w)
    (hdu : w.runtime.schedulerDueSection nowUnix = some g) :
    (w.runtime.coordinator.beginAttempt g).1 = true := by
  unfold RuntimeState.schedulerDueSection at hdu
  split at hdu
  · rename_i hr
    cases hdu
    have hd : w.runtime.coordinator.desired ≠ none := h.2 (by rw [hr.1]; simp)
    have hs : w.runtime.coordinator.attemptGeneration = none := by
      by_contra hs
      rw [h.1 hs] at hr
      simp at hr
    unfold beginAttempt
    rw [if_neg]
    simp [hd, hs]
  · cases hdu

/-- In every run whose wake-ups are taken with an empty slot, no retry is planned
while an attempt is in flight, and the scheduler runs only attempts that are admitted. -/
theorem scheduler_never_due_in_flight (platform : Platform) {P : Pool (desktopSystem platform)}
    (hreach : Reach (S := desktopSystem platform) wakeupCondition
      (Pool.idle DesktopWorld.initial) P) :
    (∀ g, P.state.runtime.coordinator.attemptGeneration = some g →
      P.state.runtime.nextRetryAtUnix = none) ∧
    ∀ nowUnix g, P.state.runtime.schedulerDueSection nowUnix = some g →
      (P.state.runtime.coordinator.beginAttempt g).1 = true := by
  have hin : SchedulerInv DesktopWorld.initial := ⟨fun h => absurd rfl h, fun h => absurd rfl h⟩
  have hiv : SchedulerInv P.state :=
    Reach.invariant (fun _ _ _ _ _ _ hc hi hs => schedulerInv_step hc hi hs)
      (fun _ _ => hin) hin hreach
  refine ⟨fun g hg => hiv.1 ?_, fun nowUnix g hd => hiv.due_admitted hd⟩
  rw [hg]
  simp

def attemptInFlight : List (Move (desktopSystem .linux)) :=
  List.flatten
    [[.start (.startOrResume ⟨.tic, .dynamic, .standalone, .ipv4, [], true⟩ 0 none)],
      segment 0 [], segment 0 [.go], segment 0 [.core .initial], segment 0 [.flag false],
      segment 0 [.go, .go]]

def wakeupInFlight : List (Move (desktopSystem .linux)) :=
  List.flatten [attemptInFlight, [.start .wakeForNetworkChange, .start .schedulerLoop],
    segment 1 [], segment 1 [.go, .go], segment 2 [.go], segment 2 [.times 0 0]]

/-- Without the condition the scheduler finds a retry due while the attempt is in
flight, and its next attempt is refused. -/
theorem scheduler_due_in_flight :
    ∃ P : Pool (desktopSystem .linux),
      Reach (unconditioned (desktopSystem .linux)) (Pool.idle DesktopWorld.initial) P ∧
      P.state.runtime.coordinator.attemptGeneration = some P.state.runtime.coordinator.generation ∧
      P.state.runtime.nextRetryAtUnix = some 0 ∧
      P.state.runtime.schedulerDueSection 0 = some P.state.runtime.coordinator.generation ∧
      (P.state.runtime.coordinator.beginAttempt
        P.state.runtime.coordinator.generation).1 = false := by
  have hru : (moves (unconditioned _) (Pool.idle DesktopWorld.initial)
      wakeupInFlight).map (fun P =>
        decide (P.state.runtime.coordinator.attemptGeneration =
          some P.state.runtime.coordinator.generation) &&
        decide (P.state.runtime.nextRetryAtUnix = some 0) &&
        decide (P.state.runtime.schedulerDueSection 0 =
          some P.state.runtime.coordinator.generation) &&
        !(P.state.runtime.coordinator.beginAttempt
          P.state.runtime.coordinator.generation).1) = some true := rfl
  obtain ⟨P, hr, ho⟩ := Reach.observed hru
  simp only [Bool.and_eq_true, decide_eq_true_eq, Bool.not_eq_true'] at ho
  exact ⟨P, hr, ho.1.1.1, ho.1.1.2, ho.1.2, ho.2⟩

/-- The attempt in flight alone meets the condition. -/
theorem scheduler_never_due_first_attempt :
    ∃ P : Pool (desktopSystem .linux),
      Reach (S := desktopSystem .linux) wakeupCondition (Pool.idle DesktopWorld.initial) P ∧
      P.state.runtime.coordinator.attemptGeneration = some ⟨1, by decide⟩ ∧
      P.state.runtime.nextRetryAtUnix = none := by
  have hru : (moves wakeupCondition
      (Pool.idle DesktopWorld.initial) attemptInFlight).map
      (fun P => P.state.runtime.coordinator.attemptGeneration) = some (some ⟨1, by decide⟩) := rfl
  obtain ⟨P, hr, ho⟩ := Reach.observed hru
  exact ⟨P, hr, ho, (scheduler_never_due_in_flight .linux hr).1 _ ho⟩

end NelomaiClient.DesktopScheduler
