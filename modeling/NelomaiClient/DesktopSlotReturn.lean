import NelomaiClient.DesktopSlot

/-!
# Every attempt returns its slot

The programs of the desktop driver under the slot contract. Each stage of
`run_attempt` starts with the slot held and ends with the slot given back, so
that a run whose steps meet the condition never sees an attempt return with its
generation still in the slot. Without the condition the legacy fallback leaks
the slot when a cancellation comes between its last recheck and its own lock.
-/

namespace NelomaiClient.DesktopSlotReturn

open ConnectionContract RecoveryPolicy IntentCoordinator ConnectionIntentCoordinator
open DesktopRuntime DesktopIntent DesktopSlot AwaitProgram AwaitPool AwaitRely

lemma slotInv_step (hi : SlotInv w)
    (hs : SlotStep own w.runtime.coordinator w'.runtime.coordinator) (hf : w'.inFlight = w.inFlight) :
    SlotInv w' := by
  refine ⟨hs.backed hi.backed, fun t u g => ?_, fun t g ht => ?_⟩
  · rw [hf]
    exact hi.single t u g
  · rw [hf] at ht
    have hl := hi.bounded t g ht
    rcases hs.fence with _ | ⟨hg, -⟩
    · omega
    · rwa [hg]

lemma slotGuar_of_step (hs : SlotStep own w.runtime.coordinator w'.runtime.coordinator)
    (hf : w'.inFlight = w.inFlight) (ho : ∀ g, own = some g → (t, g) ∈ w.inFlight)
    (he : ∀ g, c ≠ .attemptReturned g) : SlotGuar t c w w' :=
  ⟨fun u g _ => by rw [hf], Or.inl ⟨own, ho, hs⟩, fun g hc => absurd hc (he g)⟩

section Attempts

variable {t : ℕ} {g : IntentGeneration}

def Holding (t : ℕ) (g : IntentGeneration) (w : DesktopWorld) : Prop :=
  (t, g) ∈ w.inFlight ∧ Held g w.runtime.coordinator

def Released (t : ℕ) (g : IntentGeneration) (w : DesktopWorld) : Prop :=
  (t, g) ∈ w.inFlight ∧ w.runtime.coordinator.attemptGeneration ≠ some g

def Kept (t : ℕ) (J : DesktopWorld → Prop) : Prop :=
  (∀ w w', SlotRely t w w' → J w → J w') ∧
    ∀ w w', SlotStep none w.runtime.coordinator w'.runtime.coordinator →
      w'.inFlight = w.inFlight → J w → J w'

lemma holding_kept : Kept t (Holding t g) := by
  refine ⟨fun w w' hr h => ⟨(hr.inFlight g).mp h.1, hr.held g h.1 h.2⟩, fun w w' hs hf h => ?_⟩
  exact ⟨hf ▸ h.1, h.2.step hs (by simp)⟩

lemma released_kept : Kept t (Released t g) := by
  refine ⟨fun w w' hr h => ⟨(hr.inFlight g).mp h.1, hr.free g h.1 h.2⟩, fun w w' hs hf h => ?_⟩
  exact ⟨hf ▸ h.1, hs.free h.2⟩

lemma true_kept : Kept t fun _ => True := ⟨fun _ _ _ _ => trivial, fun _ _ _ _ _ => trivial⟩

lemma holding_retired_kept : Kept t fun w => Holding t g w ∧ Retired g w.runtime.coordinator :=
  ⟨fun w w' hr h => ⟨holding_kept.1 w w' hr h.1, hr.retired g h.2⟩,
    fun w w' hs hf h => ⟨holding_kept.2 w w' hs hf h.1, h.2.move hs.fence⟩⟩

lemma wp_quiet {α : Type} (hJ : Kept t J) {p : Driver α} (hp : p.Uses Quiet) (h : J w) :
    wp slotContract t p (fun _ => J) w := by
  refine wp_of_uses (fun w w' _ hj hr => hJ.1 w w' hr hj) ?_ hp h
  intro c i r w w' hq hi hj _ hse
  obtain ⟨ho, hb, he⟩ := hq.spec
  obtain ⟨hs, hf⟩ := sem_slotStep hse hb he
  rw [ho] at hs
  exact ⟨slotInv_step hi hs hf, slotGuar_of_step hs hf (by simp) he, hJ.2 w w' hs hf hj⟩

lemma wp_quiet_bind {α β : Type} (hJ : Kept t J) {p : Driver α} (hp : p.Uses Quiet)
    {f : α → Driver β} {Q : β → DesktopWorld → Prop} (h : J w)
    (hf : ∀ a w', J w' → wp slotContract t (f a) Q w') : wp slotContract t (p >>= f) Q w := by
  rw [wp_bind]
  exact wp_mono (fun a w' hw' => hf a w' hw') (wp_quiet hJ hp h)

lemma wp_own {Q : c.Resp → DesktopWorld → Prop} (hJ : Kept t J)
    (hin : ∀ w, J w → (t, g) ∈ w.inFlight) (ho : ownOf c = some g) (h : J w)
    (hQ : ∀ i r w w', SlotInv w → J w → slotCondition t c i w → sem c t i w = some (r, w') →
      w'.inFlight = w.inFlight → Q r w') :
    wp slotContract t (await c) Q w := by
  have hb : ∀ g, c ≠ .beginSection g := by
    rintro g rfl
    cases ho
  have he : ∀ g, c ≠ .attemptReturned g := by
    rintro g rfl
    cases ho
  rw [await, wp_ask]
  intro w1 _ hr i r w' hi hc hse
  have hj := hJ.1 w w1 hr h
  obtain ⟨hs, hf⟩ := sem_slotStep hse hb he
  refine ⟨slotInv_step hi hs hf, slotGuar_of_step hs hf (fun _ hg' => ?_) he, hQ i r w1 w' hi hj hc hse hf⟩
  rw [ho] at hg'
  cases hg'
  exact hin w1 hj

/-- What a recheck leaves an attempt with: the slot, or its slot given back. -/
def Rechecked (t : ℕ) (g : IntentGeneration) (current : Bool) (w : DesktopWorld) : Prop :=
  (current = true → Holding t g w) ∧ (current = false → Released t g w)

lemma Holding.recheck (h : Holding t g w) (next : RuntimeState → Bool × RuntimeState)
    (hn : w.runtime.coordinator.generation = g → w.runtime.coordinator.status ≠ .none →
      (next w.runtime).1 = true ∧ SlotStep none w.runtime.coordinator (next w.runtime).2.coordinator) :
    Rechecked t g (w.runtime.currentSection g next).1
      { w with runtime := (w.runtime.currentSection g next).2 } := by
  have hs := currentSection_held h.2 hn
  exact ⟨fun ht => ⟨h.1, hs.1 ht⟩, fun hf => ⟨h.1, hs.2 hf⟩⟩

lemma wp_checkCurrent (h : Holding t g w) :
    wp slotContract t (await (.checkCurrent g)) (Rechecked t g) w := by
  refine wp_own holding_kept (fun _ h => h.1) rfl h ?_
  intro i r w _ _ hh _ hs _
  obtain ⟨rfl, rfl⟩ := Prod.mk.inj (Option.some.inj hs)
  exact hh.recheck RuntimeState.confirmed fun _ _ => ⟨rfl, .refl _ _⟩

lemma wp_finishPreflight (h : Holding t g w) :
    wp slotContract t (await (.finishPreflight g)) (Rechecked t g) w := by
  refine wp_own holding_kept (fun _ h => h.1) rfl h ?_
  intro i r w _ _ hh _ hs _
  obtain ⟨rfl, rfl⟩ := Prod.mk.inj (Option.some.inj hs)
  exact hh.recheck RuntimeState.preflightDone fun _ _ => ⟨rfl, .refl _ _⟩

lemma wp_finishRefresh (h : Holding t g w) :
    wp slotContract t (await (.finishRefresh g)) (Rechecked t g) w := by
  refine wp_own holding_kept (fun _ h => h.1) rfl h ?_
  intro i r w _ _ hh _ hs _
  obtain ⟨rfl, rfl⟩ := Prod.mk.inj (Option.some.inj hs)
  exact hh.recheck RuntimeState.refreshDone fun _ _ => ⟨rfl, .refl _ _⟩

lemma wp_resolve (h : Holding t g w) (options : Option ConnectOptions) :
    wp slotContract t (await (.resolve g options)) (Rechecked t g) w := by
  refine wp_own holding_kept (fun _ h => h.1) rfl h ?_
  intro i r w _ hi hh _ hs _
  obtain ⟨rfl, rfl⟩ := Prod.mk.inj (Option.some.inj hs)
  exact hh.recheck (RuntimeState.resolveSection g options) fun hg hst =>
    ⟨resolveSection_held hh.2 hi.backed options hg hst, resolveSection_slotStep _ g options⟩

lemma wp_abandon (h : Holding t g w) :
    wp slotContract t (await (.abandon g))
      (fun (r : Bool) w' => r = true ∧ Released t g w') w := by
  refine wp_own holding_kept (fun _ h => h.1) rfl h ?_
  intro i r w _ _ hh hc hs _
  obtain ⟨rfl, rfl⟩ := Prod.mk.inj (Option.some.inj hs)
  obtain ⟨ht, hf⟩ := abandonSection_held hc.1 hc.2
  exact ⟨ht, hh.1, hf⟩

variable {platform : Platform}

lemma wp_success (h : Holding t g w) :
    wp slotContract t (await (.success g connection))
      (fun (r : RecoveryDecision × Bool) w' => (r.1 = .accept → Released t g w') ∧
      (r.1 ≠ .accept → Holding t g w' ∧ Retired g w'.runtime.coordinator)) w := by
  refine wp_own holding_kept (fun _ h => h.1) rfl h ?_
  intro i r w _ hi hh _ hs _
  obtain ⟨rfl, rfl⟩ := Prod.mk.inj (Option.some.inj hs)
  obtain ⟨hac, hr⟩ := successSection_held hh.2 connection
  refine ⟨fun ha => ⟨hh.1, hac ha⟩, fun hn => ?_⟩
  obtain ⟨hh', hst, hsa⟩ := hr hn
  refine ⟨⟨hh.1, hh'⟩, ?_⟩
  show Retired g (w.runtime.successSection g connection).2.coordinator
  rw [hsa]
  have hl := hi.bounded t g hh.1
  by_cases hg : g = w.runtime.coordinator.generation
  · exact Or.inr ⟨hg.symm, not_not.mp fun hd => hst ⟨hg, hd⟩⟩
  · refine Or.inl (Nat.lt_of_le_of_ne hl fun he => hg ?_)
    exact IntentGeneration.ext he

lemma wp_compensated (h : Holding t g w ∧ Retired g w.runtime.coordinator) :
    wp slotContract t (await (.compensated g)) (fun _ w' => Released t g w') w := by
  refine wp_own holding_retired_kept (fun _ h => h.1.1) rfl h ?_
  intro i r w _ _ hh _ hs _
  obtain ⟨-, rfl⟩ := Prod.mk.inj (Option.some.inj hs)
  exact ⟨hh.1.1, completeCompensation_frees hh.2.stale⟩

lemma wp_deferred (h : Holding t g w) :
    wp slotContract t (await (.deferred g)) (fun _ w' => Released t g w') w := by
  refine wp_own holding_kept (fun _ h => h.1) rfl h ?_
  intro i r w _ _ hh _ hs _
  simp only [sem, Option.bind_eq_some_iff] at hs
  obtain ⟨nowUnix, -, hs⟩ := hs
  obtain ⟨-, rfl⟩ := Prod.mk.inj (Option.some.inj hs)
  exact ⟨hh.1, deferredSection_held hh.2 nowUnix⟩

lemma wp_failed (h : Holding t g w) :
    wp slotContract t (await (.failed g error)) (fun _ w' => Released t g w') w := by
  refine wp_own holding_kept (fun _ h => h.1) rfl h ?_
  intro i r w _ _ hh _ hs _
  simp only [sem, Option.bind_eq_some_iff] at hs
  obtain ⟨nowUnix, -, hs⟩ := hs
  obtain ⟨-, rfl⟩ := Prod.mk.inj (Option.some.inj hs)
  exact ⟨hh.1, errorSection_held hh.2 error nowUnix⟩

lemma quiet_await (h : Quiet c) : (await c).Uses Quiet := (Prog.uses_ask (M := desktop) c).mpr h

lemma quiet_now (h : Quiet c) : (now c).Uses Quiet := (Prog.uses_call (M := desktop) c).mpr h

lemma quiet_await_bind {α : Type} {f : c.Resp → Driver α} (h : Quiet c)
    (hf : ∀ r, (f r).Uses Quiet) : (await c >>= f).Uses Quiet :=
  Prog.uses_bind (quiet_await h) hf

lemma quiet_now_bind {α : Type} {f : c.Resp → Driver α} (h : Quiet c) (hf : ∀ r, (f r).Uses Quiet) :
    (now c >>= f).Uses Quiet :=
  Prog.uses_bind (quiet_now h) hf

lemma wp_await_bind {α : Type} {f : c.Resp → Driver α} {Q : α → DesktopWorld → Prop}
    (hJ : Kept t J) (hc : Quiet c) (h : J w) (hf : ∀ r w', J w' → wp slotContract t (f r) Q w') :
    wp slotContract t (await c >>= f) Q w :=
  wp_quiet_bind hJ (quiet_await hc) h hf

lemma wp_now_bind {α : Type} {f : c.Resp → Driver α} {Q : α → DesktopWorld → Prop} (hJ : Kept t J)
    (hc : Quiet c) (h : J w) (hf : ∀ r w', J w' → wp slotContract t (f r) Q w') :
    wp slotContract t (now c >>= f) Q w :=
  wp_quiet_bind hJ (quiet_now hc) h hf

lemma resolveInitialDesktopStart_quiet (preflight : InitialDesktopPreflight) :
    (resolveInitialDesktopStart preflight).Uses Quiet := by
  exact quiet_await_bind rfl fun _ => Prog.uses_pure _

lemma refreshRecoveryCapability_quiet : refreshRecoveryCapability.Uses Quiet := by
  exact quiet_await_bind rfl fun _ => Prog.uses_pure _

lemma runInitialDesktopPreflight_quiet (options : ConnectOptions)
    (preflight : InitialDesktopPreflight) :
    (runInitialDesktopPreflight platform options preflight).Uses Quiet := by
  refine Prog.uses_bind ?_ fun bound => ?_
  · cases preflight.bindingRequest with
    | some => exact quiet_await rfl
    | none => exact Prog.uses_pure _
  · cases bound with
    | error => exact Prog.uses_pure _
    | ok _ =>
      refine quiet_await_bind rfl fun prepared => ?_
      cases prepared with
      | error => exact Prog.uses_pure _
      | ok _ =>
        refine Prog.uses_bind (Prog.uses_guarded _ (quiet_await rfl)) fun defended => ?_
        cases defended with
        | error => exact Prog.uses_pure _
        | ok _ => exact quiet_await rfl

lemma queueConnectionIntentReport_quiet (actions : DiagnosticActions) :
    (queueConnectionIntentReport actions).Uses Quiet := by
  unfold queueConnectionIntentReport
  split
  · refine Prog.uses_bind Prog.uses_pause fun _ => ?_
    refine quiet_await_bind rfl fun queued => ?_
    cases queued with
    | true => exact Prog.uses_pure _
    | false => exact quiet_await rfl
  · exact Prog.uses_pure _

lemma completeError_released (h : Holding t g w) :
    wp slotContract t (completeError g error) (fun _ => Released t g) w := by
  unfold completeError
  split
  · rw [wp_bind]
    refine wp_mono (fun next w' hw' => ?_) (wp_deferred h)
    cases next with
    | none => exact hw'
    | some =>
      refine wp_quiet released_kept ?_ hw'
      exact quiet_now_bind rfl fun _ => Prog.uses_pure _
  · rw [wp_bind]
    refine wp_mono (fun outcome w' hw' => ?_) (wp_failed h)
    cases outcome with
    | cancelled => exact hw'
    | terminal actions =>
      exact wp_quiet released_kept (Prog.uses_bind (queueConnectionIntentReport_quiet actions)
        fun _ => Prog.uses_pure _) hw'
    | retry next actions =>
      refine wp_quiet_bind released_kept (queueConnectionIntentReport_quiet actions) hw'
        fun _ w hw => ?_
      exact wp_now_bind released_kept rfl hw fun _ w hw => hw

lemma compensateStaleSuccess_released (h : Holding t g w ∧ Retired g w.runtime.coordinator) :
    wp slotContract t (compensateStaleSuccess g) (fun _ => Released t g) w := by
  refine wp_loop (fun _ w => Holding t g w ∧ Retired g w.runtime.coordinator) h ?_
  intro _ w hw
  refine wp_await_bind holding_retired_kept rfl hw fun result w hw => ?_
  cases result with
  | ok _ =>
    rw [wp_bind]
    exact wp_mono (fun _ _ hw' => hw') (wp_compensated hw)
  | error =>
    exact wp_quiet_bind holding_retired_kept (Prog.uses_guarded _ Prog.uses_pause) hw
      fun _ w hw => hw

lemma completeSuccess_released (h : Holding t g w) :
    wp slotContract t (completeSuccess g connection) (fun _ => Released t g) w := by
  unfold completeSuccess
  rw [wp_bind]
  refine wp_mono (fun _ _ hw' => ?_) (wp_success h)
  split
  · exact hw'.1 ‹_›
  · rw [wp_bind]
    exact wp_mono (fun _ _ hr => hr) (compensateStaleSuccess_released (hw'.2 ‹_›))

lemma waitForRecoveryPower_rechecked (h : Holding t g w) (automatic : Bool) :
    wp slotContract t (waitForRecoveryPower platform g automatic)
      (fun result w' => match result with | .ok () => Holding t g w' | .error _ => Released t g w')
      w := by
  unfold waitForRecoveryPower
  rw [wp_bind]
  refine wp_mono (fun still w' hw' => ?_) (wp_loop (Q := Rechecked t g) (fun _ => Holding t g) h ?_)
  · cases still with
    | false => exact hw'.2 rfl
    | true =>
      rw [if_pos rfl, wp_bind]
      refine wp_mono (fun current w' hw' => ?_) (wp_checkCurrent (hw'.1 rfl))
      cases current with
      | true => exact hw'.1 rfl
      | false => exact hw'.2 rfl
  · intro _ w hw
    refine wp_quiet_bind holding_kept ?_ hw fun deferred w hw => ?_
    · exact Prog.uses_guarded _ (quiet_now rfl)
    · cases deferred with
      | true =>
        rw [if_pos rfl, wp_bind]
        refine wp_mono (fun current w' hw' => ?_) (wp_checkCurrent hw)
        cases current with
        | true => exact wp_quiet_bind holding_kept Prog.uses_pause (hw'.1 rfl) fun _ _ hw => hw
        | false => exact ⟨fun hf => (Bool.false_ne_true hf).elim, fun _ => hw'.2 rfl⟩
      | false => exact ⟨fun _ => hw, fun hf => (Bool.false_ne_true hf.symm).elim⟩

/-- The rest of an attempt after a recheck: it goes on with the slot, or ends without it. -/
lemma wp_rechecked (hc : wp slotContract t c (Rechecked t g) w)
    (hf : ∀ w', Holding t g w' → wp slotContract t f (fun _ => Released t g) w') :
    wp slotContract t (c >>= fun current => if current = true then f else pure a)
      (fun _ => Released t g) w := by
  rw [wp_bind]
  refine wp_mono (fun current w' hw' => ?_) hc
  cases current with
  | true => exact hf w' (hw'.1 rfl)
  | false => exact hw'.2 rfl

lemma dial_quiet (options : ConnectOptions) : (dial kind options nowUnix).Uses Quiet := by
  cases kind with
  | start | stallReplacement => exact quiet_await rfl

lemma dialLegacy_quiet (skip : Bool) (options : ConnectOptions) :
    (dialLegacy skip options nowUnix).Uses Quiet := by
  cases skip with
  | true | false => exact quiet_await rfl

lemma noteFailedReplacement_quiet : (noteFailedReplacement kind).Uses Quiet :=
  Prog.uses_guarded _ (quiet_await_bind rfl fun _ => Prog.uses_guarded _ (quiet_await rfl))

variable (platform : Platform) (automatic : Bool)

lemma dialAttempt_released (h : Holding t g w) (options : ConnectOptions) :
    wp slotContract t (dialAttempt platform g automatic kind options)
      (fun _ => Released t g) w := by
  unfold dialAttempt
  rw [wp_bind]
  refine wp_mono (fun allowed _ hw' => ?_) (waitForRecoveryPower_rechecked h automatic)
  cases allowed with
  | error => exact hw'
  | ok _ =>
    refine wp_now_bind holding_kept rfl hw' fun _ w hw => ?_
    refine wp_quiet_bind holding_kept (dial_quiet options) hw fun result w hw => ?_
    cases result with
    | ok => exact completeSuccess_released hw
    | error =>
      exact wp_quiet_bind holding_kept noteFailedReplacement_quiet hw
        fun _ w hw => completeError_released hw

lemma repairAttempt_released (h : Holding t g w) (options : ConnectOptions) :
    wp slotContract t (repairAttempt platform g automatic plan options)
      (fun _ => Released t g) w := by
  unfold repairAttempt
  split
  · rw [wp_bind]
    refine wp_mono (fun allowed _ hw' => ?_) (waitForRecoveryPower_rechecked h automatic)
    cases allowed with
    | error => exact hw'
    | ok _ =>
      exact wp_await_bind holding_kept rfl hw' fun _ w hw =>
        dialAttempt_released platform automatic hw options
  · exact dialAttempt_released platform automatic h options

lemma reconcileAttempt_released (h : Holding t g w) (options : ConnectOptions) :
    wp slotContract t (reconcileAttempt platform g automatic plan options) (fun _ => Released t g)
      w := by
  unfold reconcileAttempt
  split
  · refine wp_await_bind holding_kept rfl h fun result w hw => ?_
    cases result with
    | error =>
      exact wp_await_bind holding_kept rfl hw fun _ w hw => completeError_released hw
    | ok _ =>
      exact wp_rechecked (wp_checkCurrent hw) fun w hw =>
        repairAttempt_released platform automatic hw options
  · exact repairAttempt_released platform automatic h options

lemma refreshAttempt_released (h : Holding t g w) (options : ConnectOptions) :
    wp slotContract t (refreshAttempt platform g automatic plan options)
      (fun _ => Released t g) w := by
  unfold refreshAttempt
  split
  · refine wp_quiet_bind holding_kept refreshRecoveryCapability_quiet h fun result w hw => ?_
    cases result with
    | error => exact completeError_released hw
    | ok _ =>
      exact wp_rechecked (wp_finishRefresh hw) fun w hw =>
        reconcileAttempt_released platform automatic hw options
  · exact reconcileAttempt_released platform automatic h options

lemma legacyAttempt_released (h : Holding t g w) (preflight : InitialDesktopPreflight)
    (options : ConnectOptions) :
    wp slotContract t (legacyAttempt platform g automatic preflight options)
      (fun _ => Released t g) w := by
  unfold legacyAttempt
  rw [wp_bind]
  refine wp_mono (fun allowed w' hw' => ?_) (waitForRecoveryPower_rechecked h automatic)
  cases allowed with
  | error => exact hw'
  | ok _ =>
    rw [wp_bind]
    refine wp_mono (fun _ w' hw' => ?_) (wp_abandon hw')
    obtain ⟨rfl, hr⟩ := hw'
    refine wp_now_bind released_kept rfl hr fun _ w hw => ?_
    refine wp_quiet_bind released_kept (dialLegacy_quiet _ options) hw fun result w hw => ?_
    cases result with
    | ok | error => exact hw

lemma preflightAttempt_released (h : Holding t g w) (preflight : InitialDesktopPreflight) :
    wp slotContract t (preflightAttempt platform g automatic plan preflight)
      (fun _ => Released t g) w := by
  refine wp_quiet_bind holding_kept (resolveInitialDesktopStart_quiet preflight) h
    fun resolved w hw => ?_
  rcases resolved with error | ⟨startMode, resolvedOptions⟩
  · exact completeError_released hw
  · refine wp_rechecked (wp_resolve hw resolvedOptions) fun w hw => ?_
    refine wp_quiet_bind holding_kept
      (runInitialDesktopPreflight_quiet (resolvedOptions.getD plan.options) preflight) hw
      fun checked w hw => ?_
    rcases checked with _ | _
    · exact completeError_released hw
    · cases startMode with
      | recovery =>
        exact wp_rechecked (wp_finishPreflight hw) fun w hw =>
          refreshAttempt_released platform automatic hw (resolvedOptions.getD plan.options)
      | legacy =>
        exact legacyAttempt_released platform automatic hw preflight
          (resolvedOptions.getD plan.options)

lemma wp_beginSection :
    wp slotContract t (await (.beginSection g))
      (fun (r : Except (Except CommandError StartCommandResponse) RuntimeState.AttemptPlan) w' =>
        ∀ plan, r = .ok plan → Holding t g w') w := by
  rw [await, wp_ask]
  intro w1 _ _ i r w' hi hco hse
  have hbe : w1.begin t g = (r, w') := Option.some.inj hse
  unfold DesktopWorld.begin at hbe
  split at hbe
  · rename_i plan runtime he
    obtain ⟨rfl, rfl⟩ := Prod.mk.inj hbe
    obtain ⟨hst, hn⟩ := hco (by rw [he]; rfl)
    have hf : ∀ u, (u, g) ∉ w1.inFlight := fun u hu => hn (u, g) hu rfl
    have ho : (w1.runtime.beginSection g).1 = .ok plan := by rw [he]
    obtain ⟨hg, hfr, hc⟩ := beginSection_ok ho
    rw [he] at hc
    refine ⟨⟨?_, fun a b g' ha hb => ?_, fun a g' ha => ?_⟩, ⟨fun u g' hu => ?_, ?_, ?_⟩, ?_⟩
    · rw [hc]
      exact hi.backed
    · rcases List.mem_cons.mp ha with ha | ha
      · rcases List.mem_cons.mp hb with hb | hb
        · rw [(Prod.mk.inj ha).1, (Prod.mk.inj hb).1]
        · exact absurd hb ((Prod.mk.inj ha).2 ▸ hf b)
      · rcases List.mem_cons.mp hb with hb | hb
        · exact absurd ha ((Prod.mk.inj hb).2 ▸ hf a)
        · exact hi.single a b g' ha hb
    · rw [hc]
      rcases List.mem_cons.mp ha with ha | ha
      · rw [(Prod.mk.inj ha).2]
        exact Nat.le_of_eq (congrArg IntentGeneration.value hg.symm)
      · exact hi.bounded a g' ha
    · constructor
      · exact List.mem_cons_of_mem _
      · intro hm
        rcases List.mem_cons.mp hm with hm | hm
        · exact absurd (Prod.mk.inj hm).1 hu
        · exact hm
    · exact Or.inr ⟨g, hfr, hc, hf⟩
    · intro _ hg'
      cases hg'
    · intro _ _
      refine ⟨List.mem_cons_self, ?_, ?_⟩
      · rw [hc]
      · rw [hc]
        exact fun _ _ => hst
  · rename_i answer runtime he
    obtain ⟨rfl, rfl⟩ := Prod.mk.inj hbe
    have hc : runtime.coordinator = w1.runtime.coordinator := by
      have her : (w1.runtime.beginSection g).1 = .error answer := by rw [he]
      have := beginSection_error her
      rwa [he] at this
    have hs : SlotStep none w1.runtime.coordinator runtime.coordinator := by
      rw [hc]
      exact .refl _ _
    refine ⟨slotInv_step hi hs rfl, slotGuar_of_step hs rfl (by simp) (by simp), ?_⟩
    intro _ hp
    cases hp

lemma wp_attemptReturned (h : Released t g w) :
    wp slotContract t (now (.attemptReturned g)) (fun _ _ => True) w := by
  rw [now, wp_call]
  intro i r _ hi _ hs
  obtain ⟨-, rfl⟩ := Prod.mk.inj (Option.some.inj hs)
  refine ⟨⟨hi.backed, fun a b g' ha hb => ?_, fun a g' ha => ?_⟩, ⟨fun u g' hu => ?_, ?_, ?_⟩,
    trivial⟩
  · exact hi.single a b g' (List.mem_of_mem_filter ha) (List.mem_of_mem_filter hb)
  · exact hi.bounded a g' (List.mem_of_mem_filter ha)
  · simp [hu]
  · exact Or.inl ⟨none, by simp, .refl _ _⟩
  · intro _ hg'
    cases hg'
    exact h.2

lemma runAttempt_covered :
    wp slotContract t (runAttempt platform g automatic) (fun _ _ => True) w := by
  unfold runAttempt
  rw [wp_bind]
  refine wp_mono (fun begun w' hw' => ?_) wp_beginSection
  cases begun with
  | error => exact trivial
  | ok plan =>
    have hh : Holding t g w' := hw' plan rfl
    rw [wp_bind]
    have hp : wp slotContract t (plannedAttempt platform g automatic plan)
        (fun _ => Released t g) w' := by
      unfold plannedAttempt
      split
      · exact preflightAttempt_released platform automatic hh _
      · exact refreshAttempt_released platform automatic hh plan.options
    refine wp_mono (fun _ w' hw' => ?_) hp
    rw [wp_bind]
    exact wp_mono (fun _ _ _ => trivial) (wp_attemptReturned hw')

lemma recoverCurrentConnectionLocally_quiet :
    (recoverCurrentConnectionLocally g leaseId).Uses Quiet := by
  have ha : (acceptLocalRecovery g leaseId).Uses Quiet :=
    quiet_await_bind rfl fun _ => quiet_await rfl
  refine quiet_now_bind rfl fun deferred => ?_
  cases deferred with
  | true => exact Prog.uses_pure _
  | false =>
    refine quiet_await_bind rfl fun _ => ?_
    refine Prog.uses_bind (Prog.uses_guarded _
      (Prog.uses_bind Prog.uses_pause fun _ => by exact quiet_await rfl)) fun answers => ?_
    cases answers with
    | true => exact ha
    | false =>
      refine quiet_now_bind rfl fun deferred => ?_
      cases deferred with
      | true => exact Prog.uses_pure _
      | false =>
        refine quiet_await_bind rfl fun _ => ?_
        refine Prog.uses_bind (Prog.uses_guarded _ (quiet_await rfl)) fun answers => ?_
        cases answers with
        | true => exact ha
        | false => exact Prog.uses_pure _

lemma startOrResumeInternal_covered (options : ConnectOptions)
    (preflight : Option InitialDesktopPreflight) :
    wp slotContract t (startOrResumeInternal platform options nowUnix preflight)
      (fun _ _ => True) w := by
  refine wp_await_bind true_kept rfl trivial fun _ w _ => ?_
  refine wp_await_bind true_kept rfl trivial fun _ w _ => ?_
  refine wp_await_bind true_kept rfl trivial fun action w _ => ?_
  rcases action with _ | _ | action
  · exact trivial
  · exact trivial
  · cases action with
    | run g => exact runAttempt_covered platform false
    | wait => exact trivial

lemma handleStall_covered :
    wp slotContract t (DesktopIntent.handleStall platform leaseId) (fun _ _ => True) w := by
  refine wp_await_bind true_kept rfl trivial fun observed w _ => ?_
  rcases observed with _ | ⟨_, _⟩
  · exact trivial
  · refine wp_await_bind true_kept rfl trivial fun _ w _ => ?_
    split
    · exact trivial
    · rename_i current _
      refine wp_now_bind true_kept rfl trivial fun _ w _ => ?_
      refine wp_quiet_bind true_kept recoverCurrentConnectionLocally_quiet trivial fun _ w _ => ?_
      split
      · exact trivial
      · refine wp_now_bind true_kept rfl trivial fun deferred w _ => ?_
        cases deferred with
        | true => exact trivial
        | false =>
          refine wp_await_bind true_kept rfl trivial fun stalled w _ => ?_
          cases stalled with
          | none => exact trivial
          | some g =>
            rw [wp_bind]
            exact wp_mono (fun _ _ _ => trivial) (runAttempt_covered platform true)

lemma schedulerRound_covered :
    wp slotContract t (schedulerRound platform) (fun _ _ => True) w := by
  refine wp_await_bind true_kept rfl trivial fun sleepSeconds w _ => ?_
  cases sleepSeconds with
  | none =>
    refine wp_quiet true_kept ?_ trivial
    exact quiet_await rfl
  | some =>
    refine wp_quiet_bind true_kept ?_ trivial fun elapsed w _ => ?_
    · exact Prog.uses_guarded _ (quiet_await rfl)
    · cases elapsed with
      | false => exact trivial
      | true =>
        refine wp_await_bind true_kept rfl trivial fun due w _ => ?_
        cases due with
        | none => exact trivial
        | some g =>
          refine wp_quiet_bind true_kept ?_ trivial fun deferred w _ => ?_
          · exact Prog.uses_guarded _ (quiet_now rfl)
          · cases deferred with
            | true => exact wp_await_bind true_kept rfl trivial fun _ _ _ => trivial
            | false =>
              rw [if_neg Bool.false_ne_true, wp_bind]
              exact wp_mono (fun _ _ _ => trivial) (runAttempt_covered platform true)

lemma program_covered (op : Op) :
    wp slotContract t (op.program platform) (fun _ _ => True) w := by
  cases op with
  | startOrResume options nowUnix preflight =>
    rw [Op.program, wp_bind]
    exact wp_mono (fun _ _ _ => trivial) (startOrResumeInternal_covered platform options preflight)
  | cancel | wakeForNetworkChange =>
    refine wp_quiet_bind true_kept ?_ trivial fun _ _ _ => trivial
    refine quiet_await_bind rfl fun _ => Prog.uses_bind ?_ fun _ => Prog.uses_pure _
    exact Prog.uses_guarded _ (quiet_now rfl)
  | handleStall =>
    rw [Op.program]
    split
    · rw [wp_bind]
      exact wp_mono (fun _ _ _ => trivial) (handleStall_covered platform)
    · exact trivial
  | schedulerLoop =>
    refine wp_loop (fun _ _ => True) trivial fun _ w _ => ?_
    rw [wp_bind]
    exact wp_mono (fun _ _ _ => trivial) (schedulerRound_covered platform)

end Attempts

lemma slotContract_covers (platform : Platform) :
    Covers (S := desktopSystem platform) slotContract :=
  fun op _ _ _ => program_covered platform op

lemma slotInv_initial : SlotInv DesktopWorld.initial :=
  ⟨fun h => absurd rfl h, fun _ _ _ h => absurd h List.not_mem_nil,
    fun _ _ h => absurd h List.not_mem_nil⟩

/-- In every run whose steps meet the condition, an attempt that took the slot
returns after its generation has left the slot. -/
theorem runAttempt_returns_slot (platform : Platform) {P P' : Pool (desktopSystem platform)}
    (hreach : Reach (S := desktopSystem platform) slotCondition (Pool.idle DesktopWorld.initial) P)
    {m : Move (desktopSystem platform)}
    (hmeets : Meets (S := desktopSystem platform) slotCondition P m)
    (hmove : P.move m = some P') {t : ℕ} {g : IntentGeneration} {i : Input}
    (hissued : P.issued m = some (t, Cmd.attemptReturned g, i)) :
    P.state.runtime.coordinator.attemptGeneration ≠ some g := by
  have hsound : Sound slotContract P :=
    Reach.sound hreach
      (slotContract_covers platform) (fun _ _ => slotInv_initial) slotInv_initial
  have hguar := hsound.issued hmeets hmove hissued
  exact hguar.returned g rfl

/-- A first start whose panel has no recovery capability, up to the last recheck
before the legacy fallback. -/
def legacyFallback (platform : Platform) : List (Move (desktopSystem platform)) :=
  List.flatten
    [[.start (.startOrResume ⟨.tic, .dynamic, .standalone, .ipv4, [], true⟩ 0
        (some ⟨some "device", none, none⟩))],
      segment 0 [], segment 0 [.go], segment 0 [.core .initial], segment 0 [.flag false],
      segment 0 [.go],
      segment 0 [.bootstrap (.ok ⟨"device", true, none, .tic, .dynamic, .standalone, .ipv4, false⟩)],
      segment 0 [.go], segment 0 [.unit (.ok ())], segment 0 [.unit (.ok ()), .go],
      segment 0 [.go]]

def cancelledFallback : List (Move (desktopSystem .linux)) :=
  List.flatten [legacyFallback .linux, [.start .cancel], segment 1 [], segment 1 [.go, .go],
    segment 0 [.go]]

/-- Without the condition an attempt returns with its generation in the slot. -/
theorem runAttempt_leaks_slot :
    ¬ ∀ P P' : Pool (desktopSystem .linux),
      Reach (unconditioned (desktopSystem .linux)) (Pool.idle DesktopWorld.initial) P →
      ∀ m t g i, P.move m = some P' → P.issued m = some (t, Cmd.attemptReturned g, i) →
        P.state.runtime.coordinator.attemptGeneration ≠ some g := by
  intro h
  have hru : lastMove (unconditioned _) (Pool.idle DesktopWorld.initial)
      cancelledFallback (.step 0 Input.go) (fun P _ =>
        (P.state.runtime.coordinator.attemptGeneration, P.issued (.step 0 Input.go))) =
      some (some ⟨1, by decide⟩, some (0, Cmd.attemptReturned ⟨1, by decide⟩, Input.go)) := rfl
  obtain ⟨P, P', hr, -, hP', ho⟩ := Reach.lastMove hru
  obtain ⟨hs, hi⟩ := Prod.mk.inj ho
  exact h P P' hr _ _ _ _ hP' hi hs

/-- The same fallback without the cancellation returns its slot. -/
theorem runAttempt_returns_slot_fallback :
    ∃ P P' : Pool (desktopSystem .linux),
      Reach (S := desktopSystem .linux) slotCondition (Pool.idle DesktopWorld.initial) P ∧
      P.issued (.step 0 Input.go) = some (0, Cmd.attemptReturned ⟨1, by decide⟩, Input.go) ∧
      P.move (.step 0 Input.go) = some P' ∧
      P.state.runtime.coordinator.attemptGeneration ≠ some ⟨1, by decide⟩ := by
  have hru : lastMove slotCondition (Pool.idle DesktopWorld.initial)
      (List.flatten [legacyFallback .linux, segment 0 [.go, .time 0],
        segment 0 [.connection (.error .storage)]]) (.step 0 Input.go)
      (fun P _ => P.issued (.step 0 Input.go)) =
      some (some (0, Cmd.attemptReturned ⟨1, by decide⟩, Input.go)) := rfl
  obtain ⟨P, P', hr, hm, hP', hi⟩ := Reach.lastMove hru
  exact ⟨P, P', hr, hi, hP', runAttempt_returns_slot .linux hr hm hP' hi⟩

end NelomaiClient.DesktopSlotReturn
