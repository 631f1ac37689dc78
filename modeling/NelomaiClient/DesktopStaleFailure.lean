import NelomaiClient.DesktopIntent

/-!
# Failures of attempts that lost their intent

`complete_error` classifies a failure before it knows whether the attempt is
still current. What it wrote for a stale attempt meets the next episode, which
`initialize_episode` begins from all flags but one.
-/

namespace NelomaiClient.DesktopStaleFailure

open ConnectionContract RecoveryPolicy IntentCoordinator CoreContract DesktopRuntime DesktopIntent
open AwaitPool

structure EpisodeFlags where
  policy : RecoveryPolicyContext
  /-- Earliest time a wake-up may advance the retry to. -/
  retryNotBeforeUnix : Option Int
  /-- Reconcile the panel before the next attempt. -/
  reconcileBeforeAttempt : Bool
  /-- Repair the tunnel service before the next attempt. -/
  repairBeforeAttempt : Bool
  /-- Refresh the recovery capability before the next attempt. -/
  refreshCapabilityBeforeAttempt : Bool
  retryCount : Nat
  /-- When the scheduler runs the next attempt. -/
  nextRetryAtUnix : Option Int
  deriving DecidableEq

def episodeFlags (state : RuntimeState) : EpisodeFlags :=
  ⟨state.policy, state.retryNotBeforeUnix, state.reconcileBeforeAttempt,
    state.repairBeforeAttempt, state.refreshCapabilityBeforeAttempt, state.retryCount,
    state.nextRetryAtUnix⟩

/-- The state that `complete_error` leaves if it answers `connection_intent_cancelled`. -/
def staleFailure (state : RuntimeState) (generation : IntentGeneration) (error : ApplicationError)
    (nowUnix : Int) : Option RuntimeState :=
  if error = .recoveryDeferred then
    match state.deferredSection generation nowUnix with
    | (none, state) => some state
    | (some _, _) => none
  else
    match state.errorSection generation error nowUnix with
    | (.cancelled, state) => some state
    | _ => none

structure StartArguments where
  /-- The completed intent that the start observed. -/
  observed : Option (IntentGeneration × Connection)
  core : CoreState
  cleanupPending : Bool
  options : ConnectOptions
  nowUnix : Int
  initialPreflight : Option InitialDesktopPreflight

/-- The critical section of a start: `start_or_resume` and `initialize_episode`. -/
def begins (state : RuntimeState) (a : StartArguments) :
    Except CommandError (Connection ⊕ StartRuntimeAction) × RuntimeState :=
  state.startSection a.observed a.core a.cleanupPending a.options a.nowUnix a.initialPreflight

/-- The next start of a tunnel. -/
def newEpisode (state : RuntimeState) (a : StartArguments) :
    Option (IntentGeneration × RuntimeState) :=
  match begins state a with
  | (.ok (.inr (.run generation)), state) => some (generation, state)
  | _ => none

section Stale

variable {state state' : RuntimeState} {generation : IntentGeneration} {error : ApplicationError}
  {nowUnix : Int}

variable {c : ConnectionIntentCoordinator}

lemma markTerminal_stale (h : (c.markTerminal generation armed).1 = false) :
    (c.markTerminal generation armed).2 = c := by
  unfold ConnectionIntentCoordinator.markTerminal at h ⊢
  dsimp only at h ⊢
  split
  · rename_i hs
    exact acceptResult_refused hs
  · rename_i hc
    rw [if_neg hc] at h
    split at h <;> cases h

lemma deferredSection_stale (h : state.deferredSection generation nowUnix = (none, state')) :
    state' = state.compensatedSection generation := by
  unfold RuntimeState.deferredSection at h
  dsimp only at h
  split at h
  · rename_i hs
    rw [acceptResult_refused hs] at h
    exact (Prod.mk.inj h).2.symm
  · cases (Prod.mk.inj h).1

lemma errorSection_stale (h : state.errorSection generation error nowUnix = (.cancelled, state')) :
    state' = (state.noteError error).2.compensatedSection generation := by
  unfold RuntimeState.errorSection at h
  dsimp only at h
  split at h
  · split at h
    · rename_i hs
      rw [markTerminal_stale hs] at h
      exact (Prod.mk.inj h).2.symm
    · cases (Prod.mk.inj h).1
  · unfold RuntimeState.retrySection at h
    dsimp only at h
    split at h
    · rename_i hs
      have hn : ((state.noteError error).2.coordinator.acceptResult generation).1 ≠ .accept := by
        rw [hs]
        exact (nomatch ·)
      rw [acceptResult_refused hn] at h
      exact (Prod.mk.inj h).2.symm
    · cases (Prod.mk.inj h).1

/-- What a stale failure leaves: the slot given back, the delay it asked for and
the requirement it classified. -/
lemma staleFailure_eq (h : staleFailure state generation error nowUnix = some state') :
    ∃ policy, state' =
      { state.compensatedSection generation with
        policy := policy
        refreshCapabilityBeforeAttempt :=
          if error = .recoveryDeferred then state.refreshCapabilityBeforeAttempt
          else (state.noteError error).2.refreshCapabilityBeforeAttempt } := by
  unfold staleFailure at h
  split at h
  · rename_i hd
    split at h
    · rename_i he
      cases h
      rw [if_pos hd]
      exact ⟨state.policy, deferredSection_stale he⟩
    · cases h
  · rename_i hf
    split at h
    · rename_i he
      cases h
      rw [if_neg hf]
      exact ⟨(state.noteError error).2.policy, errorSection_stale he⟩
    · cases h

end Stale

section Start

variable {state : RuntimeState} {a : StartArguments}

/-- The observation of the core reads neither the spent recoveries nor the requirement. -/
lemma startAfterCoreObservation_frame (policy : RecoveryPolicyContext) (refresh : Bool) :
    RuntimeState.startAfterCoreObservation
        { state with policy := policy, refreshCapabilityBeforeAttempt := refresh }
        a.observed a.core a.cleanupPending a.options a.nowUnix =
      let (disposition, state') :=
        state.startAfterCoreObservation a.observed a.core a.cleanupPending a.options a.nowUnix
      (disposition,
        { state' with policy := policy, refreshCapabilityBeforeAttempt := refresh }) := by
  have hs : RuntimeState.observedStopped
      { state with policy := policy, refreshCapabilityBeforeAttempt := refresh }
      a.observed a.core a.cleanupPending =
      state.observedStopped a.observed a.core a.cleanupPending := rfl
  unfold RuntimeState.startAfterCoreObservation
  rw [hs]
  cases state.observedStopped a.observed a.core a.cleanupPending with
  | false => rfl
  | true =>
    cases hc : (state.coordinator.cancelIntent state.coordinator.generation).1 with
    | false => simp only [if_true, hc, if_false, Bool.false_eq_true]
    | true => simp only [if_true, hc, RuntimeState.disown]

lemma begins_answer (state : RuntimeState) (a : StartArguments)
    (policy : RecoveryPolicyContext) (refresh : Bool) :
    (begins { state with policy := policy, refreshCapabilityBeforeAttempt := refresh } a).1 =
      (begins state a).1 := by
  unfold begins RuntimeState.startSection
  rw [startAfterCoreObservation_frame]
  dsimp only
  cases (state.startAfterCoreObservation a.observed a.core a.cleanupPending a.options
    a.nowUnix).1 with
  | error error => rfl
  | ok disposition =>
    cases disposition with
    | connected =>
      dsimp only [RuntimeState.disown]
      split
      · rfl
      · split
        · rfl
        · split <;> rfl
    | recovering =>
      dsimp only
      split <;> rfl

lemma startAfterCoreObservation_refresh :
    (state.startAfterCoreObservation a.observed a.core a.cleanupPending a.options
      a.nowUnix).2.refreshCapabilityBeforeAttempt = state.refreshCapabilityBeforeAttempt := by
  unfold RuntimeState.startAfterCoreObservation RuntimeState.disown
  dsimp only
  split
  · split <;> rfl
  · rfl

/-- The flags of an episode that begins with this capability requirement. -/
def freshFlags (refresh : Bool) : EpisodeFlags := ⟨.fresh, none, false, false, refresh, 0, none⟩

lemma newEpisode_flags (h : newEpisode state a = some (generation, state')) :
    episodeFlags state' = freshFlags state.refreshCapabilityBeforeAttempt := by
  rw [← startAfterCoreObservation_refresh (a := a)]
  unfold newEpisode begins RuntimeState.startSection at h
  dsimp only at h
  generalize state.startAfterCoreObservation a.observed a.core a.cleanupPending a.options
    a.nowUnix = observation at h ⊢
  obtain ⟨disposition, _⟩ := observation
  cases disposition with
  | error => cases h
  | ok disposition =>
    cases disposition with
    | connected connection =>
      dsimp only at h
      split at h
      · rename_i hr
        split at hr
        · cases hr
        · split at hr
          · cases hr
          · split at hr
            · cases hr
            · cases hr
            · cases hr
              cases h
              rfl
      · cases h
    | recovering following next =>
      dsimp only at h
      split at h
      · rename_i hr
        split at hr
        · obtain ⟨-, rfl⟩ := Prod.mk.inj hr
          cases h
          rfl
        · rename_i hw
          unfold recoveringAction at hw hr
          split at hr
          · cases hr
          · rename_i hn
            rw [if_neg hn] at hw
            exact absurd rfl hw
      · cases h

lemma newEpisode_isSome (policy : RecoveryPolicyContext) (refresh : Bool)
    (h : newEpisode { state with policy := policy, refreshCapabilityBeforeAttempt := refresh } a =
      some (generation, state')) :
    ∃ state'', newEpisode state a = some (generation, state'') := by
  have ha := begins_answer state a policy refresh
  unfold newEpisode at h ⊢
  split at h
  · rename_i he
    cases h
    rw [he] at ha
    cases hb : begins state a with
    | mk answer final =>
      rw [hb] at ha
      cases ha
      exact ⟨final, rfl⟩
  · cases h

end Start

section Leak

variable {state stale : RuntimeState} {generation : IntentGeneration} {error : ApplicationError}
  {nowUnix : Int}

/-- The classification of the failure asks for no capability refresh that was not
already required. -/
def asksNothingNew (state : RuntimeState) (error : ApplicationError) : Prop :=
  error = .recoveryDeferred ∨ (state.noteError error).1 ≠ .retryNewOperation ∨
    state.refreshCapabilityBeforeAttempt = true

instance (state : RuntimeState) (error : ApplicationError) :
    Decidable (asksNothingNew state error) := by
  unfold asksNothingNew
  infer_instance

/-- The requirement is as it was exactly when the failure asks for nothing new. -/
lemma staleFailure_refresh (h : staleFailure state generation error nowUnix = some stale) :
    stale.refreshCapabilityBeforeAttempt = state.refreshCapabilityBeforeAttempt ↔
      asksNothingNew state error := by
  obtain ⟨_, rfl⟩ := staleFailure_eq h
  have hre : (state.noteError error).2.refreshCapabilityBeforeAttempt =
      nextCapabilityRefreshRequirement state.refreshCapabilityBeforeAttempt
        (state.noteError error).1 := rfl
  simp only [hre, nextCapabilityRefreshRequirement, asksNothingNew]
  by_cases hd : error = .recoveryDeferred
  · simp [hd]
  · cases hr : state.refreshCapabilityBeforeAttempt <;> simp [hd]

/-- The flags of the next episode are those of an episode without the failure exactly when the
failure asks for nothing new. -/
lemma staleFailure_flags (h : staleFailure state generation error nowUnix = some stale)
    {a : StartArguments} (hstart : newEpisode stale a = some (following, begun))
    (hu : newEpisode without a = some (other, untouched))
    (hw : without.refreshCapabilityBeforeAttempt = state.refreshCapabilityBeforeAttempt) :
    episodeFlags begun = episodeFlags untouched ↔ asksNothingNew state error := by
  rw [newEpisode_flags hstart, newEpisode_flags hu, hw, ← staleFailure_refresh h]
  exact ⟨congrArg EpisodeFlags.refreshCapabilityBeforeAttempt, congrArg freshFlags⟩

/-- A stale failure leaves no trace in the next episode exactly when it asks for nothing new: the
start that follows it succeeds alike without it, once the slot is given back, and begins from the
same flags. -/
theorem staleFailure_leaves_no_trace
    (h : staleFailure state generation error nowUnix = some stale) {a : StartArguments}
    {following : IntentGeneration} {begun : RuntimeState}
    (hstart : newEpisode stale a = some (following, begun)) :
    ((∃ untouched,
      newEpisode (state.compensatedSection generation) a = some (following, untouched) ∧
        episodeFlags begun = episodeFlags untouched) ↔ asksNothingNew state error) ∧
    ∀ other untouched, newEpisode state a = some (other, untouched) →
      (episodeFlags begun = episodeFlags untouched ↔ asksNothingNew state error) := by
  refine ⟨⟨?_, fun hnew => ?_⟩, fun other untouched hu => staleFailure_flags h hstart hu rfl⟩
  · rintro ⟨untouched, hu, hf⟩
    exact (staleFailure_flags h hstart hu rfl).mp hf
  · have hs := hstart
    obtain ⟨_, rfl⟩ := staleFailure_eq h
    obtain ⟨untouched, hu⟩ := newEpisode_isSome _ _ hs
    exact ⟨untouched, hu, (staleFailure_flags h hstart hu rfl).mpr hnew⟩

end Leak

def sampleOptions : ConnectOptions := ⟨.tic, .dynamic, .standalone, .ipv4, [], true⟩

def sampleArguments : StartArguments := ⟨none, .initial, false, sampleOptions, 0, none⟩

def firstGeneration : IntentGeneration := ⟨1, by decide⟩

/-- An attempt of the first generation is cancelled while it dials, and then fails. -/
def cancelledWhileDialling (error : ApplicationError) : List (Move (desktopSystem .linux)) :=
  List.flatten
    [[.start (.startOrResume sampleOptions 0 none)], segment 0 [], segment 0 [.go],
      segment 0 [.core .initial], segment 0 [.flag false], segment 0 [.go, .go],
      segment 0 [.go, .time 0], [.start .cancel], segment 1 [], segment 1 [.go, .go],
      segment 0 [.connection (.error error)], segment 0 []]

def endedOperation : ApplicationError := .core (.tunnel "tunnel_handshake_timeout")

def unreached : ApplicationError := .core (.api .retryable)

/-- What a run shows of its stale failure: the command that is due, the episode
that follows it, and the episode that follows without it. -/
def traces (error : ApplicationError) (P : Pool (desktopSystem .linux)) :
    Option (ℕ × Cmd) × Option (Option (IntentGeneration × EpisodeFlags)) ×
      Option (IntentGeneration × EpisodeFlags) :=
  let flags := Option.map fun x : IntentGeneration × RuntimeState => (x.1, episodeFlags x.2)
  ((P.issued (.step 0 (.time 0))).map fun x => (x.1, x.2.1),
    (staleFailure P.state.runtime firstGeneration error 0).map fun stale =>
      flags (newEpisode stale sampleArguments),
    flags (newEpisode (P.state.runtime.compensatedSection firstGeneration) sampleArguments))

/-- A stale failure that calls for a new operation makes the next episode refresh
the recovery capability. -/
theorem staleFailure_reaches_next_episode :
    ∃ (P : Pool (desktopSystem .linux)) (stale begun untouched : RuntimeState)
      (following : IntentGeneration),
      Reach (unconditioned (desktopSystem .linux)) (Pool.idle DesktopWorld.initial) P ∧
      (P.issued (.step 0 (.time 0))).map (fun x => (x.1, x.2.1)) =
        some (0, .failed firstGeneration endedOperation) ∧
      staleFailure P.state.runtime firstGeneration endedOperation 0 = some stale ∧
      newEpisode stale sampleArguments = some (following, begun) ∧
      newEpisode (P.state.runtime.compensatedSection firstGeneration) sampleArguments =
        some (following, untouched) ∧
      episodeFlags begun = freshFlags true ∧ episodeFlags untouched = freshFlags false := by
  have hru : (moves (unconditioned _) (Pool.idle DesktopWorld.initial)
      (cancelledWhileDialling endedOperation)).map (traces endedOperation) =
      some (some (0, .failed firstGeneration endedOperation),
        some (some (⟨3, by decide⟩, freshFlags true)), some (⟨3, by decide⟩, freshFlags false)) := rfl
  obtain ⟨P, hr, ho⟩ := Reach.observed hru
  simp only [traces, Prod.mk.injEq, Option.map_eq_some_iff] at ho
  obtain ⟨⟨_, hi, ht, hc⟩, ⟨stale, hs, ⟨_, begun⟩, hb, ⟨rfl, hf⟩⟩,
    ⟨_, untouched⟩, hu, ⟨rfl, hf'⟩⟩ := ho
  have hd : (P.issued (.step 0 (.time 0))).map (fun x => (x.1, x.2.1)) =
      some (0, .failed firstGeneration endedOperation) := by
    rw [hi, Option.map_some, ht, hc]
  exact ⟨P, stale, begun, untouched, _, hr, hd, hs, hb, hu, hf, hf'⟩

/-- A stale failure of the transport leaves no trace. -/
theorem staleFailure_leaves_no_trace_unreached :
    ∃ (P : Pool (desktopSystem .linux)) (stale begun untouched : RuntimeState)
      (following : IntentGeneration),
      Reach (unconditioned (desktopSystem .linux)) (Pool.idle DesktopWorld.initial) P ∧
      asksNothingNew P.state.runtime unreached ∧
      staleFailure P.state.runtime firstGeneration unreached 0 = some stale ∧
      newEpisode stale sampleArguments = some (following, begun) ∧
      newEpisode (P.state.runtime.compensatedSection firstGeneration) sampleArguments =
        some (following, untouched) ∧
      episodeFlags begun = episodeFlags untouched := by
  have hru : (moves (unconditioned _) (Pool.idle DesktopWorld.initial)
      (cancelledWhileDialling unreached)).map (fun P =>
        (decide (asksNothingNew P.state.runtime unreached), (traces unreached P).2.1)) =
      some (true, some (some (⟨3, by decide⟩, freshFlags false))) := by
    decide +kernel
  obtain ⟨P, hr, ho⟩ := Reach.observed hru
  simp only [traces, Prod.mk.injEq, Option.map_eq_some_iff, decide_eq_true_eq] at ho
  obtain ⟨hn, stale, hs, ⟨_, begun⟩, hb, -⟩ := ho
  obtain ⟨untouched, hu, hf⟩ := (staleFailure_leaves_no_trace hs hb).1.mpr hn
  exact ⟨P, stale, begun, untouched, _, hr, hn, hs, hb, hu, hf⟩

end NelomaiClient.DesktopStaleFailure
