import NelomaiClient.DesktopIntent

/-!
# The attempt slot of the desktop driver

An attempt that took the slot of the coordinator has to give it back before it
returns. `SlotStep` says what one critical section may do to the slot, and each
section is shown to make such a step. From these the rely-guarantee contract of
the driver follows: a thread in flight keeps the slot of its generation until
it releases it itself. The programs of the driver are checked against the
contract in the next module.
-/

namespace NelomaiClient.DesktopSlot

open ConnectionContract RecoveryPolicy IntentCoordinator ConnectionIntentCoordinator
open CoreContract DesktopRuntime DesktopIntent AwaitRely

def Unfinished (g : IntentGeneration) (c : ConnectionIntentCoordinator) : Prop :=
  c.generation = g → c.desired ≠ none → c.status ≠ .none

def StatusBacked (c : ConnectionIntentCoordinator) : Prop := c.status ≠ .none → c.desired ≠ none

/-- What a critical section of an attempt of `own`, or of no attempt, does to the
coordinator: it may empty only its own slot, and may finish only its own generation. -/
structure SlotStep (own : Option IntentGeneration) (c c' : ConnectionIntentCoordinator) : Prop where
  fence : FenceMove c c'
  slot : c'.attemptGeneration = c.attemptGeneration ∨
    c'.attemptGeneration = none ∧ c.attemptGeneration = own
  unfinished : ∀ g, own ≠ some g → Unfinished g c → Unfinished g c'
  /-- A shown status stays backed by an intent. -/
  backed : StatusBacked c → StatusBacked c'

lemma SlotStep.trans (h1 : SlotStep own c1 c2) (h2 : SlotStep own c2 c3) :
    SlotStep own c1 c3 := by
  refine ⟨h1.fence.trans h2.fence, ?_,
    fun g hg hu => h2.unfinished g hg (h1.unfinished g hg hu), fun hb => h2.backed (h1.backed hb)⟩
  rcases h1.slot with hs1 | ⟨hn1, ho1⟩
  · rcases h2.slot with hs2 | ⟨hn2, ho2⟩
    · exact Or.inl (hs2.trans hs1)
    · exact Or.inr ⟨hn2, hs1 ▸ ho2⟩
  · rcases h2.slot with hs2 | ⟨hn2, -⟩
    · exact Or.inr ⟨hs2.trans hn1, ho1⟩
    · exact Or.inr ⟨hn2, ho1⟩

lemma SlotStep.refl (own : Option IntentGeneration) (c : ConnectionIntentCoordinator) :
    SlotStep own c c :=
  ⟨.of_eq rfl rfl, Or.inl rfl, fun _ _ h => h, fun h => h⟩

lemma SlotStep.of_none (h : SlotStep none c c') (own : Option IntentGeneration) :
    SlotStep own c c' := by
  refine ⟨h.fence, ?_, fun g _ => h.unfinished g (by simp), h.backed⟩
  rcases h.slot with hs | ⟨hn, ho⟩
  · exact Or.inl hs
  · exact Or.inl (hn.trans ho.symm)

lemma startOrResume_slotStep (c : ConnectionIntentCoordinator) (options : ConnectOptions)
    (nowUnix : Int) : SlotStep none c (c.startOrResume options nowUnix).2 := by
  refine ⟨startOrResume_fence c options nowUnix, Or.inl ?_, fun g _ hu => ?_, fun hb => ?_⟩ <;>
    unfold startOrResume <;> dsimp only
  · split <;> split <;> try rfl
    all_goals split <;> (try split) <;> rfl
  · split <;> split <;> try exact hu
    all_goals split <;> (try split) <;> first | exact hu | exact fun _ _ => by simp [openEpisode]
  · split
    · rename_i current hd
      split <;> try exact hb
      split <;> split <;> first | exact hb | exact fun _ => by simp [openEpisode, hd]
    · split <;> try exact hb
      split <;> try exact hb
      split <;> first | exact hb | exact fun _ => by simp

lemma cancelIntent_slotStep (c : ConnectionIntentCoordinator) (g : IntentGeneration) :
    SlotStep none c (c.cancelIntent g).2 := by
  refine ⟨cancelIntent_fence c g, Or.inl ?_, fun _ _ hu => ?_, fun hb => ?_⟩ <;>
    unfold cancelIntent <;> dsimp only <;> split
  · rfl
  · split <;> rfl
  · exact hu
  · exact fun _ hd => absurd rfl hd
  · exact hb
  · exact fun hs => absurd rfl hs

lemma scheduleRetry_slotStep (c : ConnectionIntentCoordinator) (g : IntentGeneration)
    (nowUnix : Int) : SlotStep none c (c.scheduleRetry g nowUnix).2 := by
  unfold scheduleRetry
  split
  · exact .refl _ _
  · rename_i hc
    refine ⟨.of_eq rfl rfl, Or.inl rfl, fun _ _ _ => fun _ _ => by simp, fun _ _ => ?_⟩
    exact fun hd => hc (Or.inr hd)

lemma wakeForNetworkChange_slotStep (c : ConnectionIntentCoordinator) :
    SlotStep none c c.wakeForNetworkChange.2 := by
  unfold ConnectionIntentCoordinator.wakeForNetworkChange
  split
  · exact .refl _ _
  · exact ⟨.of_eq rfl rfl, Or.inl rfl, fun _ _ h => h, fun h => h⟩

lemma takeNetworkWakeup_slotStep (c : ConnectionIntentCoordinator) :
    SlotStep none c c.takeNetworkWakeup.2 := by
  unfold takeNetworkWakeup
  split <;> exact ⟨.of_eq rfl rfl, Or.inl rfl, fun _ _ h => h, fun h => h⟩

lemma handleStall_slotStep (c : ConnectionIntentCoordinator) (g : IntentGeneration)
    (trigger : StallTrigger) : SlotStep none c (c.handleStall g trigger).2 := by
  unfold ConnectionIntentCoordinator.handleStall
  dsimp only
  split
  · exact .refl _ _
  · rename_i hc
    refine ⟨.of_eq rfl rfl, Or.inl rfl, fun _ _ _ => fun _ _ => by simp, fun _ _ => ?_⟩
    intro hd
    have hn : c.desired = none := hd
    exact hc (Or.inr (by simp [hn]))

lemma replaceActiveOptions_slotStep (c : ConnectionIntentCoordinator) (g : IntentGeneration)
    (options : ConnectOptions) : SlotStep none c (c.replaceActiveOptions g options).2 := by
  unfold replaceActiveOptions
  split
  · exact .refl _ _
  · rename_i hc
    have hd : c.desired ≠ none := fun hd => hc (Or.inr (Or.inl hd))
    exact ⟨Or.inr ⟨rfl, fun h => absurd h hd⟩, Or.inl rfl, fun g' _ hu hg _ => hu hg hd,
      fun _ _ => by simp⟩

lemma acceptResult_slotStep (c : ConnectionIntentCoordinator) (g : IntentGeneration) :
    SlotStep (some g) c (c.acceptResult g).2 := by
  unfold acceptResult
  split
  · exact .refl _ _
  · rename_i hc
    refine ⟨.of_eq rfl rfl, Or.inr ⟨rfl, ?_⟩, fun _ _ h => h, fun h => h⟩
    exact not_not.mp fun hn => hc (Or.inr (Or.inr hn))

lemma completeCompensation_slotStep (c : ConnectionIntentCoordinator) (g : IntentGeneration) :
    SlotStep (some g) c (c.completeCompensation g).2 := by
  unfold completeCompensation
  split
  · exact .refl _ _
  · rename_i hs
    refine ⟨.of_eq rfl rfl, Or.inr ⟨rfl, ?_⟩, fun _ _ h => h, fun h => h⟩
    exact not_not.mp fun hn => hs (Or.inl hn)

lemma markConnected_slotStep (c : ConnectionIntentCoordinator) (g : IntentGeneration)
    (connection : Connection) : SlotStep (some g) c (c.markConnected g connection).2 := by
  have ha := acceptResult_slotStep c g
  obtain ⟨hg, hd⟩ := acceptResult_fence c g
  simp only [markConnected]
  split
  · rename_i hac
    obtain ⟨hc, _, -⟩ := (acceptResult_accept_iff c g).mp hac
    refine ⟨.of_eq hg hd, ha.slot, fun _ hn _ hg' _ => ?_, fun _ hs => absurd rfl hs⟩
    exact absurd (hc.trans (hg.symm.trans hg')) fun he => hn (by rw [he])
  · exact ha

lemma markTerminal_slotStep (c : ConnectionIntentCoordinator) (g : IntentGeneration)
    (armed : Bool) : SlotStep (some g) c (c.markTerminal g armed).2 := by
  have ha := acceptResult_slotStep c g
  obtain ⟨hg, hd⟩ := acceptResult_fence c g
  simp only [markTerminal]
  split
  · exact ha
  · rename_i hac
    obtain ⟨-, hde, -⟩ := (acceptResult_accept_iff c g).mp (not_not.mp hac)
    split
    · refine ⟨.of_eq hg hd, ha.slot, fun g' _ _ _ _ => by simp, fun _ _ => ?_⟩
      exact fun h => hde (hd ▸ h)
    · exact ⟨Or.inr ⟨hg, fun _ => rfl⟩, ha.slot, fun g' _ _ _ h => absurd rfl h,
        fun _ h => absurd rfl h⟩

lemma SlotStep.compensated (h : SlotStep (some g) c c') :
    SlotStep (some g) c (c'.completeCompensation g).2 :=
  h.trans (completeCompensation_slotStep c' g)

section Sections

variable (state : RuntimeState) (g : IntentGeneration)

lemma startAfterCoreObservation_slotStep (observed : Option (IntentGeneration × Connection))
    (core : CoreState) (cleanupPending : Bool) (options : ConnectOptions) (nowUnix : Int) :
    SlotStep none state.coordinator
      (state.startAfterCoreObservation observed core cleanupPending options nowUnix).2.coordinator := by
  unfold RuntimeState.startAfterCoreObservation
  dsimp only
  split
  · have hc := cancelIntent_slotStep state.coordinator state.coordinator.generation
    split <;> exact hc.trans (startOrResume_slotStep _ options nowUnix)
  · exact startOrResume_slotStep _ options nowUnix

lemma startSection_slotStep (observed : Option (IntentGeneration × Connection))
    (core : CoreState) (cleanupPending : Bool) (options : ConnectOptions) (nowUnix : Int)
    (preflight : Option InitialDesktopPreflight) :
    SlotStep none state.coordinator
      (state.startSection observed core cleanupPending options nowUnix preflight).2.coordinator := by
  have ho := startAfterCoreObservation_slotStep state observed core cleanupPending options nowUnix
  unfold RuntimeState.startSection
  dsimp only
  split
  · exact ho
  · split
    · exact ho
    · have hc := ho.trans (cancelIntent_slotStep _ state.coordinator.generation)
      split
      · exact hc
      · have hs := hc.trans (startOrResume_slotStep _ options nowUnix)
        split
        · exact hs
        · exact hs
        · exact hs.trans (scheduleRetry_slotStep _ _ nowUnix)
  · split
    · exact ho.trans (scheduleRetry_slotStep _ _ nowUnix)
    · exact ho

lemma cancelSection_slotStep :
    SlotStep none state.coordinator state.cancelSection.2.coordinator := by
  have hc := cancelIntent_slotStep state.coordinator state.coordinator.generation
  unfold RuntimeState.cancelSection
  dsimp only
  split <;> exact hc

variable {nowUnix : Int}

lemma stallSection_slotStep (trigger : StallTrigger) (plan : StallRecoveryPlan) :
    SlotStep none state.coordinator
      (state.stallSection g trigger plan nowUnix).2.coordinator := by
  have hs := handleStall_slotStep state.coordinator g trigger
  unfold RuntimeState.stallSection
  split
  · rename_i he
    rw [he] at hs
    exact hs
  · rename_i he
    rw [he] at hs
    exact hs.trans (scheduleRetry_slotStep _ _ nowUnix)

lemma schedulerSleepSection_slotStep (wakeUnix : Int) :
    SlotStep none state.coordinator
      (state.schedulerSleepSection wakeUnix nowUnix).2.coordinator := by
  have ht := takeNetworkWakeup_slotStep state.coordinator
  unfold RuntimeState.schedulerSleepSection
  dsimp only
  split <;> split <;> exact ht

lemma currentSection_slotStep (next : RuntimeState → Bool × RuntimeState)
    (hn : ∀ state : RuntimeState, SlotStep none state.coordinator (next state).2.coordinator) :
    SlotStep (some g) state.coordinator (state.currentSection g next).2.coordinator := by
  unfold RuntimeState.currentSection RuntimeState.attemptIsCurrentAfterAsyncBoundary
  split
  · rename_i he
    split at he
    · cases he
      exact (hn _).of_none _
    · cases he
  · rename_i he
    split at he
    · cases he
    · cases he
      exact completeCompensation_slotStep _ _

lemma resolveSection_slotStep (options : Option ConnectOptions) :
    SlotStep none state.coordinator (RuntimeState.resolveSection g options state).2.coordinator := by
  unfold RuntimeState.resolveSection
  split
  · exact .refl _ _
  · have hr := replaceActiveOptions_slotStep state.coordinator g
    dsimp only
    split <;> exact hr _

lemma abandonSection_slotStep :
    SlotStep (some g) state.coordinator (state.abandonSection g).2.coordinator := by
  have hc := (cancelIntent_slotStep state.coordinator g).of_none (some g)
  unfold RuntimeState.abandonSection
  dsimp only
  split
  · exact hc
  · exact hc.compensated

lemma successSection_slotStep (connection : Connection) :
    SlotStep (some g) state.coordinator (state.successSection g connection).2.coordinator := by
  have hm := markConnected_slotStep state.coordinator g connection
  unfold RuntimeState.successSection
  dsimp only
  split <;> exact hm

lemma deferredSection_slotStep :
    SlotStep (some g) state.coordinator (state.deferredSection g nowUnix).2.coordinator := by
  have ha := acceptResult_slotStep state.coordinator g
  unfold RuntimeState.deferredSection
  dsimp only
  split
  · exact ha.compensated
  · exact ha

lemma retrySection_slotStep (code : String) (decision : RecoveryDecision) :
    SlotStep (some g) state.coordinator
      (state.retrySection g code decision nowUnix).2.coordinator := by
  have ha := acceptResult_slotStep state.coordinator g
  unfold RuntimeState.retrySection
  dsimp only
  split
  · exact ha.compensated
  · dsimp only
    split
    · exact ha
    · exact ha.trans ((scheduleRetry_slotStep _ g nowUnix).of_none _)

lemma errorSection_slotStep (error : ApplicationError) :
    SlotStep (some g) state.coordinator
      (state.errorSection g error nowUnix).2.coordinator := by
  have hn : (state.noteError error).2.coordinator = state.coordinator := rfl
  unfold RuntimeState.errorSection
  dsimp only
  rw [← hn]
  split
  · have hm := markTerminal_slotStep (state.noteError error).2.coordinator g
      (state.noteError error).2.armed
    split
    · exact hm.compensated
    · exact hm
  · exact retrySection_slotStep _ g _ _

end Sections

def ownOf : Cmd → Option IntentGeneration
  | .checkCurrent g | .resolve g _ | .finishPreflight g | .finishRefresh g | .abandon g
  | .success g _ | .compensated g | .deferred g | .failed g _ => some g
  | _ => none

def Quiet : Cmd → Prop
  | .beginSection _ | .attemptReturned _ => False
  | c => ownOf c = none

lemma Quiet.spec (h : Quiet c) :
    ownOf c = none ∧ (∀ g, c ≠ .beginSection g) ∧ ∀ g, c ≠ .attemptReturned g := by
  refine ⟨?_, ?_, ?_⟩
  · cases c <;> first | exact h.elim | exact h
  · rintro g rfl
    exact h
  · rintro g rfl
    exact h

variable {α β : Type} {input : Option β} {i : Input}

lemma locked_snd (w : DesktopWorld) (f : RuntimeState → α × RuntimeState) :
    (w.locked f).map Prod.snd = some { w with runtime := (f w.runtime).2 } := rfl

lemma locked_slotStep {w w' : DesktopWorld} {f : RuntimeState → α × RuntimeState}
    (h : (w.locked f).map Prod.snd = some w')
    (hf : ∀ state, SlotStep own state.coordinator (f state).2.coordinator) :
    SlotStep own w.runtime.coordinator w'.runtime.coordinator ∧ w'.inFlight = w.inFlight := by
  rw [locked_snd, Option.some.injEq] at h
  subst h
  exact ⟨hf _, rfl⟩

lemma bind_locked_slotStep {w w' : DesktopWorld} {f : β → RuntimeState → α × RuntimeState}
    (h : (input.bind fun b => w.locked (f b)).map Prod.snd = some w')
    (hf : ∀ b state, SlotStep own state.coordinator (f b state).2.coordinator) :
    SlotStep own w.runtime.coordinator w'.runtime.coordinator ∧ w'.inFlight = w.inFlight := by
  cases input with
  | none => cases h
  | some b => exact locked_slotStep h (hf b)

lemma answered_same {f : β → α} (h : (input.map fun b => (f b, w)).map Prod.snd = some w') :
    w = w' := by
  cases input with
  | none => cases h
  | some b => exact Option.some.inj h

/-- A wait takes the permit at most. -/
lemma waited_frame (hc : c = .notified ∨ c = .sleepOrNotified)
    (h : (sem c t i w).map Prod.snd = some w') :
    w'.runtime = w.runtime ∧ w'.inFlight = w.inFlight := by
  rcases hc with rfl | rfl
  · cases hp : w.wakePermit with
    | false => simp [sem, hp] at h
    | true =>
      simp only [sem, hp, if_true, Option.map_some, Option.some.injEq] at h
      exact h ▸ ⟨rfl, rfl⟩
  · cases hi : i.flag? with
    | none => simp [sem, hi] at h
    | some elapsed =>
      cases elapsed with
      | true =>
        obtain rfl : w = w' := by simpa [sem, hi] using h
        exact ⟨rfl, rfl⟩
      | false =>
        cases hp : w.wakePermit with
        | false => simp [sem, hi, hp] at h
        | true =>
          obtain rfl : { w with wakePermit := false } = w' := by simpa [sem, hi, hp] using h
          exact ⟨rfl, rfl⟩

/-- Every command but the two that begin and end attempts makes a step of its owner
and leaves the attempts in flight as they are. -/
lemma sem_slotStep {c : Cmd} {t : ℕ} {w w' : DesktopWorld} {r : c.Resp}
    (hse : sem c t i w = some (r, w')) (hb : ∀ g, c ≠ .beginSection g)
    (he : ∀ g, c ≠ .attemptReturned g) :
    SlotStep (ownOf c) w.runtime.coordinator w'.runtime.coordinator ∧
      w'.inFlight = w.inFlight := by
  have h : (sem c t i w).map Prod.snd = some w' := by rw [hse]; rfl
  have hs : w = w' →
      SlotStep none w.runtime.coordinator w'.runtime.coordinator ∧ w'.inFlight = w.inFlight := by
    rintro rfl
    exact ⟨.refl _ _, rfl⟩
  cases c with
  | beginSection g => exact absurd rfl (hb g)
  | attemptReturned g => exact absurd rfl (he g)
  | observeCompleted | stallObserve _ | localRecovery => exact hs (Option.some.inj h)
  | schedulerDue | clock | coreState | bootstrap | unit _ | connection _ | flag _ =>
    exact hs (answered_same h)
  | startSection =>
    refine bind_locked_slotStep h fun _ state => ?_
    exact startSection_slotStep state _ _ _ _ _ _
  | cancelSection => exact locked_slotStep h cancelSection_slotStep
  | wakeSection =>
    simp only [sem] at h
    refine locked_slotStep h fun state => ?_
    exact wakeForNetworkChange_slotStep state.coordinator
  | stallSection =>
    refine bind_locked_slotStep h fun _ state => ?_
    exact stallSection_slotStep state _ _ _
  | schedulerSleep =>
    refine bind_locked_slotStep h fun _ state => ?_
    exact schedulerSleepSection_slotStep state _
  | checkCurrent g | finishPreflight g | finishRefresh g =>
    simp only [sem] at h
    refine locked_slotStep h fun state => ?_
    exact currentSection_slotStep state g _ fun _ => .refl _ _
  | resolve g options =>
    simp only [sem] at h
    refine locked_slotStep h fun state => ?_
    exact currentSection_slotStep state g _ fun state => resolveSection_slotStep state g options
  | requireReconcile | startNextAttempt | reportQueueFailed =>
    simp only [sem] at h
    refine locked_slotStep h fun _ => ?_
    exact .refl _ _
  | abandon g =>
    simp only [sem] at h
    refine locked_slotStep h fun state => ?_
    exact abandonSection_slotStep state g
  | success g connection =>
    simp only [sem] at h
    refine locked_slotStep h fun state => ?_
    exact successSection_slotStep state g connection
  | compensated g =>
    simp only [sem] at h
    refine locked_slotStep h fun state => ?_
    exact completeCompensation_slotStep state.coordinator g
  | deferred g =>
    refine bind_locked_slotStep h fun _ state => ?_
    exact deferredSection_slotStep state g
  | failed g error =>
    refine bind_locked_slotStep h fun _ state => ?_
    exact errorSection_slotStep state g error
  | notifyOne =>
    cases h
    exact ⟨.refl _ _, rfl⟩
  | notified | sleepOrNotified =>
    obtain ⟨hr, hf⟩ := waited_frame (by simp) h
    rw [hr]
    exact ⟨.refl _ _, hf⟩

/-- The slot is taken for `g`, and `g` is not finished while it is current. -/
def Held (g : IntentGeneration) (c : ConnectionIntentCoordinator) : Prop :=
  c.attemptGeneration = some g ∧ Unfinished g c

lemma Held.step (h : Held g c) (hs : SlotStep own c c') (hn : own ≠ some g) : Held g c' := by
  refine ⟨?_, hs.unfinished g hn h.2⟩
  rcases hs.slot with hsl | ⟨-, hsl⟩
  · exact hsl.trans h.1
  · exact absurd (hsl.symm.trans h.1) hn

lemma SlotStep.free (hs : SlotStep own c c') (h : c.attemptGeneration ≠ some g) :
    c'.attemptGeneration ≠ some g := by
  rcases hs.slot with hsl | ⟨hsl, -⟩
  · rwa [hsl]
  · rw [hsl]
    simp

lemma completeCompensation_frees {c : ConnectionIntentCoordinator}
    (hs : ¬ (g = c.generation ∧ c.desired ≠ none)) :
    (c.completeCompensation g).2.attemptGeneration ≠ some g := by
  unfold completeCompensation
  split
  · rename_i ho
    rcases ho with hn | ⟨hg, hd⟩
    · exact hn
    · exact absurd ⟨hg, by simpa [Option.isSome_iff_ne_none] using hd⟩ hs
  · simp

lemma stale_of_not_accept {c : ConnectionIntentCoordinator} (hs : c.attemptGeneration = some g)
    (hd : (c.acceptResult g).1 ≠ .accept) : ¬ (g = c.generation ∧ c.desired ≠ none) := fun h =>
  hd ((acceptResult_accept_iff c g).mpr ⟨h.1, h.2, hs⟩)

lemma acceptResult_frees {c : ConnectionIntentCoordinator} (hd : (c.acceptResult g).1 = .accept) :
    (c.acceptResult g).2.attemptGeneration = none := by
  obtain ⟨_, _, _⟩ := (acceptResult_accept_iff c g).mp hd
  unfold acceptResult
  rw [if_neg (by tauto)]

lemma acceptResult_discarded {c : ConnectionIntentCoordinator}
    (hd : (c.acceptResult g).1 ≠ .accept) : (c.acceptResult g).1 = .discardAndCompensate := by
  unfold acceptResult at hd ⊢
  split
  · rfl
  · rename_i hc
    rw [if_neg hc] at hd
    exact absurd rfl hd

section HeldSections

variable {state : RuntimeState} {g : IntentGeneration}

/-- The recheck of an attempt that holds the slot: it goes on with the slot, or has
given the slot back. -/
lemma currentSection_held {next : RuntimeState → Bool × RuntimeState}
    (h : Held g state.coordinator)
    (hn : state.coordinator.generation = g → state.coordinator.status ≠ .none →
      (next state).1 = true ∧ SlotStep none state.coordinator (next state).2.coordinator) :
    ((state.currentSection g next).1 = true → Held g (state.currentSection g next).2.coordinator) ∧
      ((state.currentSection g next).1 = false →
        (state.currentSection g next).2.coordinator.attemptGeneration ≠ some g) := by
  by_cases hc : state.coordinator.generation = g ∧ state.coordinator.status ≠ .none
  · have he : state.currentSection g next = next state := by
      simp only [RuntimeState.currentSection, RuntimeState.attemptIsCurrentAfterAsyncBoundary,
        if_pos hc]
    obtain ⟨ht, hs⟩ := hn hc.1 hc.2
    rw [he]
    exact ⟨fun _ => h.step hs (by simp), fun hf => by simp [ht] at hf⟩
  · have he : state.currentSection g next =
        (false, { state with
          coordinator := (state.coordinator.completeCompensation g).2 }) := by
      simp only [RuntimeState.currentSection, RuntimeState.attemptIsCurrentAfterAsyncBoundary,
        if_neg hc]
    rw [he]
    refine ⟨fun hf => by simp at hf, fun _ => completeCompensation_frees ?_⟩
    rintro ⟨hg, hd⟩
    exact hc ⟨hg.symm, h.2 hg.symm hd⟩

lemma resolveSection_held (h : Held g state.coordinator) (hb : StatusBacked state.coordinator)
    (options : Option ConnectOptions) (hg : state.coordinator.generation = g)
    (hs : state.coordinator.status ≠ .none) :
    (RuntimeState.resolveSection g options state).1 = true := by
  unfold RuntimeState.resolveSection
  cases options with
  | none => rfl
  | some =>
    have hc : ¬ (g ≠ state.coordinator.generation ∨ state.coordinator.desired = none ∨
        state.coordinator.attemptGeneration ≠ some g) := by
      rintro (hn | hd | hsl)
      · exact hn hg.symm
      · exact hb hs hd
      · exact hsl h.1
    simp only [replaceActiveOptions, if_neg hc, if_true]

lemma abandonSection_held (hg : state.coordinator.generation = g)
    (hd : state.coordinator.desired ≠ none) :
    (state.abandonSection g).1 = true ∧
      (state.abandonSection g).2.coordinator.attemptGeneration ≠ some g := by
  have hc : ¬ (g ≠ state.coordinator.generation ∨ state.coordinator.desired = none) := by
    rintro (hne | hn)
    · exact hne hg.symm
    · exact hd hn
  have ht : (state.coordinator.cancelIntent g).1 = true := by
    unfold cancelIntent
    rw [if_neg hc]
  have hgo : (state.coordinator.cancelIntent g).2.desired = none := by
    unfold cancelIntent
    rw [if_neg hc]
  unfold RuntimeState.abandonSection
  simp only [ht, Bool.true_eq_false, if_false]
  exact ⟨trivial, completeCompensation_frees fun h => h.2 hgo⟩

lemma successSection_held (h : Held g state.coordinator) (connection : Connection) :
    ((state.successSection g connection).1.1 = .accept →
      (state.successSection g connection).2.coordinator.attemptGeneration ≠ some g) ∧
    ((state.successSection g connection).1.1 ≠ .accept →
      Held g (state.successSection g connection).2.coordinator ∧
        ¬ (g = state.coordinator.generation ∧ state.coordinator.desired ≠ none) ∧
        (state.successSection g connection).2.coordinator = state.coordinator) := by
  by_cases ha : (state.coordinator.acceptResult g).1 = .accept
  · have he := acceptResult_frees ha
    simp only [RuntimeState.successSection, markConnected, ha, if_true]
    refine ⟨fun _ => by simp [he], fun hn => absurd rfl hn⟩
  · have he := acceptResult_refused ha
    simp only [RuntimeState.successSection, markConnected, ha, if_false, he]
    exact ⟨fun hf => hf.elim, fun _ => ⟨h, stale_of_not_accept h.1 ha, trivial⟩⟩

lemma deferredSection_held (h : Held g state.coordinator) (nowUnix : Int) :
    (state.deferredSection g nowUnix).2.coordinator.attemptGeneration ≠ some g := by
  by_cases ha : (state.coordinator.acceptResult g).1 = .accept
  · simp [RuntimeState.deferredSection, ha, acceptResult_frees ha]
  · simp only [RuntimeState.deferredSection, ne_eq, ha, not_false_eq_true, if_true,
      acceptResult_refused ha]
    exact completeCompensation_frees (stale_of_not_accept h.1 ha)

lemma retrySection_held (h : Held g state.coordinator) (code : String)
    (decision : RecoveryDecision) (nowUnix : Int) :
    (state.retrySection g code decision nowUnix).2.coordinator.attemptGeneration ≠ some g := by
  by_cases ha : (state.coordinator.acceptResult g).1 = .accept
  · have hf := acceptResult_frees ha
    simp only [RuntimeState.retrySection, ha, reduceCtorEq, if_false]
    split
    · simp [hf]
    · refine (scheduleRetry_slotStep _ g nowUnix).free ?_
      simp [hf]
  · simp only [RuntimeState.retrySection, acceptResult_discarded ha, if_true,
      acceptResult_refused ha]
    exact completeCompensation_frees (stale_of_not_accept h.1 ha)

lemma errorSection_held (h : Held g state.coordinator) (error : ApplicationError)
    (nowUnix : Int) :
    (state.errorSection g error nowUnix).2.coordinator.attemptGeneration ≠ some g := by
  have hn : (state.noteError error).2.coordinator = state.coordinator := rfl
  unfold RuntimeState.errorSection
  dsimp only
  split
  · by_cases ha : (state.coordinator.acceptResult g).1 = .accept
    · have ht := (markTerminal_iff state.coordinator g (state.noteError error).2.armed).mpr ha
      have hfr := acceptResult_frees ha
      simp only [hn, ht, Bool.true_eq_false, if_false]
      simp only [markTerminal, ha, ne_eq, not_true_eq_false, if_false]
      split <;> simp [hfr]
    · have hf : (state.coordinator.markTerminal g (state.noteError error).2.armed) =
          (false, state.coordinator) := by
        simp only [markTerminal, ne_eq, ha, not_false_eq_true, if_true, acceptResult_refused ha]
      simp only [hn, hf, if_true]
      exact completeCompensation_frees (stale_of_not_accept h.1 ha)
  · exact retrySection_held (hn ▸ h) _ _ nowUnix

lemma beginSection_ok (h : (state.beginSection g).1 = .ok plan) :
    state.coordinator.generation = g ∧ state.coordinator.attemptGeneration = none ∧
      (state.beginSection g).2.coordinator =
        { state.coordinator with attemptGeneration := some g } := by
  unfold RuntimeState.beginSection at h ⊢
  cases ho : state.options with
  | none =>
    simp only [ho] at h
    split at h <;> cases h
  | some =>
    simp only [ho] at h ⊢
    by_cases hb : g ≠ state.coordinator.generation ∨ state.coordinator.desired = none ∨
        state.coordinator.attemptGeneration.isSome = true
    · simp [beginAttempt, if_pos hb] at h
    · simp only [beginAttempt, if_neg hb, Bool.true_eq_false, if_false]
      refine ⟨?_, ?_, trivial⟩
      · exact (not_not.mp fun hn => hb (Or.inl hn)).symm
      · cases hs : state.coordinator.attemptGeneration with
        | none => rfl
        | some => exact absurd (Or.inr (Or.inr (by simp [hs]))) hb

lemma beginSection_error (h : (state.beginSection g).1 = .error answer) :
    (state.beginSection g).2.coordinator = state.coordinator := by
  unfold RuntimeState.beginSection at h ⊢
  cases ho : state.options with
  | none =>
    simp only
    split <;> rfl
  | some =>
    simp only [ho] at h ⊢
    by_cases hb : g ≠ state.coordinator.generation ∨ state.coordinator.desired = none ∨
        state.coordinator.attemptGeneration.isSome = true
    · simp [beginAttempt, if_pos hb]
    · simp [beginAttempt, if_neg hb] at h

end HeldSections

/-- The condition: a legacy start abandons an intent that is still its own, and an
attempt begins while its intent is unfinished and no other attempt of the same
generation is in flight. -/
def slotCondition (_ : ℕ) (c : Cmd) (_ : Input) (w : DesktopWorld) : Prop :=
  match c with
  | .abandon g => w.runtime.coordinator.generation = g ∧ w.runtime.coordinator.desired ≠ none
  | .beginSection g => (w.runtime.beginSection g).1.isOk = true →
    w.runtime.coordinator.status ≠ .none ∧ ∀ attempt ∈ w.inFlight, attempt.2 ≠ g
  | _ => True

instance (t : ℕ) (c : Cmd) (i : Input) (w : DesktopWorld) : Decidable (slotCondition t c i w) := by
  unfold slotCondition
  split <;> infer_instance

structure SlotInv (w : DesktopWorld) : Prop where
  backed : StatusBacked w.runtime.coordinator
  /-- One attempt of a generation is in flight at a time. -/
  single : ∀ t u g, (t, g) ∈ w.inFlight → (u, g) ∈ w.inFlight → t = u
  /-- Attempts in flight are not ahead of the fence. -/
  bounded : ∀ t g, (t, g) ∈ w.inFlight → g.value ≤ w.runtime.coordinator.generation.value

structure SlotGuar (t : ℕ) (c : Cmd) (w w' : DesktopWorld) : Prop where
  /-- The attempts of the other threads stay in flight. -/
  others : ∀ u g, u ≠ t → ((u, g) ∈ w.inFlight ↔ (u, g) ∈ w'.inFlight)
  /-- The thread acts for its own attempt, or begins an attempt that no other runs. -/
  step : (∃ own, (∀ g, own = some g → (t, g) ∈ w.inFlight) ∧
      SlotStep own w.runtime.coordinator w'.runtime.coordinator) ∨
    ∃ g, w.runtime.coordinator.attemptGeneration = none ∧
      w'.runtime.coordinator = { w.runtime.coordinator with attemptGeneration := some g } ∧
      ∀ u, (u, g) ∉ w.inFlight
  /-- A returning attempt has given its slot back. -/
  returned : ∀ g, c = .attemptReturned g → w.runtime.coordinator.attemptGeneration ≠ some g

structure SlotRely (u : ℕ) (w w' : DesktopWorld) : Prop where
  inFlight : ∀ g, (u, g) ∈ w.inFlight ↔ (u, g) ∈ w'.inFlight
  held : ∀ g, (u, g) ∈ w.inFlight → Held g w.runtime.coordinator → Held g w'.runtime.coordinator
  /-- The slot it gave back is not taken for its generation. -/
  free : ∀ g, (u, g) ∈ w.inFlight → w.runtime.coordinator.attemptGeneration ≠ some g →
    w'.runtime.coordinator.attemptGeneration ≠ some g
  retired : ∀ g, Retired g w.runtime.coordinator → Retired g w'.runtime.coordinator

lemma SlotGuar.rely (hn : t ≠ u) (hi : SlotInv w) (h : SlotGuar t c w w') : SlotRely u w w' := by
  have hm : ∀ g, (u, g) ∈ w.inFlight ↔ (u, g) ∈ w'.inFlight := fun g => h.others u g (Ne.symm hn)
  rcases h.step with ⟨own, how, hs⟩ | ⟨g0, hfe, hc, hfr⟩
  · have hot : ∀ g, (u, g) ∈ w.inFlight → own ≠ some g := fun g hu ho =>
      hn (hi.single t u g (how g ho) hu)
    exact ⟨hm, fun g hu hh => hh.step hs (hot g hu), fun g _ hf => hs.free hf,
      fun g hr => hr.move hs.fence⟩
  · refine ⟨hm, fun g _ hh => ?_, fun g hu _ => ?_, fun g hr => ?_⟩
    · exact absurd (hfe.symm.trans hh.1) (by simp)
    · rw [hc]
      intro he
      have hg : g0 = g := Option.some.inj he
      exact hfr u (hg ▸ hu)
    · rw [hc]
      exact hr

def slotContract : Contract desktop where
  inv := SlotInv
  cond := slotCondition
  guar t c _ w w' := SlotGuar t c w w'
  rely := SlotRely
  rely_refl _ _ := ⟨fun _ => Iff.rfl, fun _ _ h => h, fun _ _ h => h, fun _ h => h⟩
  rely_trans _ _ _ _ h₁ h₂ :=
    ⟨fun g => (h₁.inFlight g).trans (h₂.inFlight g),
      fun g hu hh => h₂.held g ((h₁.inFlight g).mp hu) (h₁.held g hu hh),
      fun g hu hf => h₂.free g ((h₁.inFlight g).mp hu) (h₁.free g hu hf),
      fun g hr => h₂.retired g (h₁.retired g hr)⟩
  guar_rely _ _ _ _ _ _ hne hinv _ _ hguar := hguar.rely hne hinv

end NelomaiClient.DesktopSlot
