import NelomaiClient.RecoveryPolicy

/-!
# The connection intent coordinator

`ConnectionIntentCoordinator` fences every attempt of the desktop driver by a
generation. Its twelve mutating methods are embedded one by one, and a run is
any list of calls. A generation that was cancelled, or ended by an unarmed
terminal failure, is retired: no later call admits it again, also at the last
machine generation, where a cancellation cannot advance.
-/

namespace NelomaiClient.IntentCoordinator

open ConnectionContract RecoveryPolicy

@[ext]
structure IntentGeneration where
  value : Nat
  value_le : value ≤ u64Max
  deriving DecidableEq

def IntentGeneration.initial : IntentGeneration := ⟨0, Nat.zero_le _⟩

def IntentGeneration.next (generation : IntentGeneration) : Option IntentGeneration :=
  if h : generation.value + 1 ≤ u64Max then some ⟨generation.value + 1, h⟩ else none

variable {following : IntentGeneration} {call : Call}

lemma IntentGeneration.next_value {generation : IntentGeneration}
    (h : generation.next = some following) : following.value = generation.value + 1 := by
  unfold next at h
  split at h
  · cases h
    rfl
  · cases h

inductive ConnectionIntentStatus where
  | none
  | recovering
  | blockedTerminal
  deriving DecidableEq

inductive StartDisposition where
  | connected (connection : Connection)
  | recovering (generation : IntentGeneration) (nextRetryAtUnix : Option Int)
  deriving DecidableEq

structure IntentTemplate where
  layer : Layer
  ticConnectionMode : TicConnectionMode
  routeMode : RouteMode
  egressMode : EgressMode
  allowAlternate : Bool
  deriving DecidableEq

def IntentTemplate.ofOptions (options : ConnectOptions) : IntentTemplate :=
  ⟨options.layer, options.ticConnectionMode, options.routeMode, options.egressMode,
    options.allowAlternate⟩

inductive ConnectionIntentError where
  | differentIntentActive
  | attemptStillActive
  | generationExhausted
  deriving DecidableEq

def ConnectionIntentError.message : ConnectionIntentError → String
  | differentIntentActive => "another connection intent is already active"
  | attemptStillActive => "the previous connection attempt is still completing"
  | generationExhausted => "connection intent generation is exhausted"

structure StallTrigger where
  options : ConnectOptions
  pinned : Bool
  transport : RecoveryTransport
  deriving DecidableEq

structure ConnectionIntentCoordinator where
  generation : IntentGeneration
  /-- The wanted connection, if an intent is active. -/
  desired : Option IntentTemplate
  status : ConnectionIntentStatus
  connected : Option Connection
  /-- The attempt slot: the generation of the attempt in flight. -/
  attemptGeneration : Option IntentGeneration
  retryIndex : Nat
  nextRetryAtUnix : Option Int
  /-- A network change was reported and not yet taken. -/
  networkWakeupPending : Bool
  schedule : RetrySchedule
  exhausted : Bool

namespace ConnectionIntentCoordinator

def initial : ConnectionIntentCoordinator :=
  ⟨.initial, none, .none, none, none, 0, none, false, .standard, false⟩

variable (c : ConnectionIntentCoordinator) (generation : IntentGeneration)

/-- A completed intent, never an attempt in flight or a scheduled recovery. -/
def completedConnection : Option Connection :=
  if c.status = .none ∧ c.attemptGeneration = none then c.connected else none

/-- Begin a new episode under `generation`; the template is set by the caller. -/
def openEpisode :
    ConnectionIntentCoordinator :=
  { c with
    generation := generation, status := .recovering, connected := none, retryIndex := 0,
    nextRetryAtUnix := none, networkWakeupPending := false }

def startOrResume (options : ConnectOptions) (_nowUnix : Int) :
    Except ConnectionIntentError StartDisposition × ConnectionIntentCoordinator :=
  let template := IntentTemplate.ofOptions options.normalizedForLayer
  match c.desired with
  | some current =>
    if current ≠ template then (.error .differentIntentActive, c)
    else if c.status = .blockedTerminal then
      match c.generation.next with
      | none => (.error .generationExhausted, { c with exhausted := true })
      | some nextGeneration => (.ok (.recovering nextGeneration none), c.openEpisode nextGeneration)
    else
      match c.connected with
      | some connection => (.ok (.connected connection), c)
      | none => (.ok (.recovering c.generation c.nextRetryAtUnix), c)
  | none =>
    if c.attemptGeneration.isSome then (.error .attemptStillActive, c)
    else if c.exhausted then (.error .generationExhausted, c)
    else
      match c.generation.next with
      | none => (.error .generationExhausted, c)
      | some nextGeneration =>
        (.ok (.recovering nextGeneration none),
          { c.openEpisode nextGeneration with desired := some template })

def beginAttempt :
    Bool × ConnectionIntentCoordinator :=
  if generation ≠ c.generation ∨ c.desired = none ∨ c.attemptGeneration.isSome then (false, c)
  else (true, { c with attemptGeneration := some generation })

def replaceActiveOptions
    (options : ConnectOptions) : Bool × ConnectionIntentCoordinator :=
  if generation ≠ c.generation ∨ c.desired = none ∨ c.attemptGeneration ≠ some generation then
    (false, c)
  else (true, { c with desired := some (IntentTemplate.ofOptions options.normalizedForLayer) })

def handleStall (trigger : StallTrigger) :
    Except ConnectionIntentError StallRecoveryPlan × ConnectionIntentCoordinator :=
  let options := trigger.options.normalizedForLayer
  if generation ≠ c.generation ∨ c.desired ≠ some (IntentTemplate.ofOptions options) then
    (.error .differentIntentActive, c)
  else
    (.ok (stallRecoveryPlan options trigger.pinned trigger.transport),
      { c with
        connected := none, status := .recovering, retryIndex := 0, nextRetryAtUnix := none,
        networkWakeupPending := false })

def acceptResult :
    RecoveryDecision × ConnectionIntentCoordinator :=
  if generation ≠ c.generation ∨ c.desired = none ∨ c.attemptGeneration ≠ some generation then
    (.discardAndCompensate, c)
  else (.accept, { c with attemptGeneration := none })

def completeCompensation :
    Bool × ConnectionIntentCoordinator :=
  if c.attemptGeneration ≠ some generation ∨
      (generation = c.generation ∧ c.desired.isSome) then (false, c)
  else (true, { c with attemptGeneration := none })

def markConnected
    (connection : Connection) : RecoveryDecision × ConnectionIntentCoordinator :=
  let (decision, c) := c.acceptResult generation
  if decision = .accept then
    (decision,
      { c with
        connected := some connection, status := .none, retryIndex := 0, nextRetryAtUnix := none,
        networkWakeupPending := false })
  else (decision, c)

def markTerminal
    (armed : Bool) : Bool × ConnectionIntentCoordinator :=
  let (decision, c) := c.acceptResult generation
  if decision ≠ .accept then (false, c)
  else
    let c := { c with nextRetryAtUnix := none, networkWakeupPending := false }
    if armed then (true, { c with status := .blockedTerminal })
    else (true, { c with status := .none, desired := none, connected := none })

/-- Retire the current intent; at the last generation only the flag is set. -/
def cancelIntent :
    Bool × ConnectionIntentCoordinator :=
  if generation ≠ c.generation ∨ c.desired = none then (false, c)
  else
    let c :=
      match c.generation.next with
      | some following => { c with generation := following }
      | none => { c with exhausted := true }
    (true,
      { c with
        desired := none, connected := none, status := .none, retryIndex := 0,
        nextRetryAtUnix := none, networkWakeupPending := false })

def scheduleRetry
    (nowUnix : Int) : Option Int × ConnectionIntentCoordinator :=
  if generation ≠ c.generation ∨ c.desired = none then (none, c)
  else
    let delay := secondsToI64 (c.schedule.delaySeconds c.retryIndex)
    let next := saturatingAdd nowUnix delay
    (some next,
      { c with
        retryIndex := min u64Max (c.retryIndex + 1), nextRetryAtUnix := some next,
        status := .recovering })

def wakeForNetworkChange :
    Bool × ConnectionIntentCoordinator :=
  if c.desired = none ∨ c.status ≠ .recovering ∨ c.networkWakeupPending then (false, c)
  else (true, { c with networkWakeupPending := true })

def takeNetworkWakeup : Bool × ConnectionIntentCoordinator :=
  if c.networkWakeupPending then
    (true,
      { c with
        networkWakeupPending := false, nextRetryAtUnix := none,
        retryIndex := if c.retryIndex > 0 then 1 else c.retryIndex })
  else (false, { c with networkWakeupPending := false })

end ConnectionIntentCoordinator

open ConnectionIntentCoordinator

inductive Call where
  | startOrResume (options : ConnectOptions) (nowUnix : Int)
  | beginAttempt (generation : IntentGeneration)
  | replaceActiveOptions (generation : IntentGeneration) (options : ConnectOptions)
  | handleStall (generation : IntentGeneration) (trigger : StallTrigger)
  | acceptResult (generation : IntentGeneration)
  | completeCompensation (generation : IntentGeneration)
  | markConnected (generation : IntentGeneration) (connection : Connection)
  | markTerminal (generation : IntentGeneration) (armed : Bool)
  | cancelIntent (generation : IntentGeneration)
  | scheduleRetry (generation : IntentGeneration) (nowUnix : Int)
  | wakeForNetworkChange
  | takeNetworkWakeup

inductive Answer where
  | started (result : Except ConnectionIntentError StartDisposition)
  | flag (value : Bool)
  | decision (value : RecoveryDecision)
  | plan (result : Except ConnectionIntentError StallRecoveryPlan)
  | retryAt (value : Option Int)

def perform (c : ConnectionIntentCoordinator) : Call → Answer × ConnectionIntentCoordinator
  | .startOrResume options nowUnix => (c.startOrResume options nowUnix).map .started id
  | .beginAttempt generation => (c.beginAttempt generation).map .flag id
  | .replaceActiveOptions generation options =>
    (c.replaceActiveOptions generation options).map .flag id
  | .handleStall generation trigger => (c.handleStall generation trigger).map .plan id
  | .acceptResult generation => (c.acceptResult generation).map .decision id
  | .completeCompensation generation => (c.completeCompensation generation).map .flag id
  | .markConnected generation connection => (c.markConnected generation connection).map .decision id
  | .markTerminal generation armed => (c.markTerminal generation armed).map .flag id
  | .cancelIntent generation => (c.cancelIntent generation).map .flag id
  | .scheduleRetry generation nowUnix => (c.scheduleRetry generation nowUnix).map .retryAt id
  | .wakeForNetworkChange => c.wakeForNetworkChange.map .flag id
  | .takeNetworkWakeup => c.takeNetworkWakeup.map .flag id

def performAll (c : ConnectionIntentCoordinator) (calls : List Call) :
    ConnectionIntentCoordinator :=
  calls.foldl (fun c call => (perform c call).2) c

/-- The call retired `g`: a cancellation, or an unarmed terminal failure, that
returned true. -/
def Retires (g : IntentGeneration) : Call → Answer → Prop
  | .cancelIntent generation, .flag true => generation = g
  | .markTerminal generation false, .flag true => generation = g
  | _, _ => False

instance (g : IntentGeneration) (call : Call) (answer : Answer) :
    Decidable (Retires g call answer) := by
  unfold Retires
  split <;> infer_instance

def Admits (g : IntentGeneration) : Call → Answer → Prop
  | .acceptResult generation, .decision .accept => generation = g
  | .markConnected generation _, .decision .accept => generation = g
  | .markTerminal generation _, .flag true => generation = g
  | .beginAttempt generation, .flag true => generation = g
  | _, _ => False

def Retired (g : IntentGeneration) (c : ConnectionIntentCoordinator) : Prop :=
  g.value < c.generation.value ∨ c.generation = g ∧ c.desired = none

/-- The moves a call can make on the fence: the generation stays, and an absent
intent stays absent, or the generation grows. -/
def FenceMove (c c' : ConnectionIntentCoordinator) : Prop :=
  c.generation.value < c'.generation.value ∨
    c'.generation = c.generation ∧ (c.desired = none → c'.desired = none)

lemma FenceMove.of_eq (hg : c'.generation = c.generation) (hd : c'.desired = c.desired) :
    FenceMove c c' :=
  Or.inr ⟨hg, fun h => hd.trans h⟩

lemma FenceMove.of_next {c' : ConnectionIntentCoordinator}
    (hn : c.generation.next = some following) (hg : c'.generation = following) :
    FenceMove c c' := by
  left
  rw [hg, IntentGeneration.next_value hn]
  omega

lemma FenceMove.trans (h1 : FenceMove c1 c2) (h2 : FenceMove c2 c3) : FenceMove c1 c3 := by
  rcases h1 with h1 | ⟨hg1, hd1⟩
  · rcases h2 with h2 | ⟨hg2, -⟩
    · exact Or.inl (Nat.lt_trans h1 h2)
    · exact Or.inl (by rwa [hg2])
  · rcases h2 with _ | ⟨hg2, hd2⟩
    · exact Or.inl (by rwa [← hg1])
    · exact Or.inr ⟨hg2.trans hg1, fun h => hd2 (hd1 h)⟩

lemma startOrResume_fence (c : ConnectionIntentCoordinator) (options : ConnectOptions)
    (nowUnix : Int) : FenceMove c (c.startOrResume options nowUnix).2 := by
  unfold startOrResume
  dsimp only
  split
  · split
    · exact .of_eq rfl rfl
    · split
      · split
        · exact .of_eq rfl rfl
        · exact .of_next ‹_› rfl
      · split <;> exact .of_eq rfl rfl
  · split
    · exact .of_eq rfl rfl
    · split
      · exact .of_eq rfl rfl
      · split
        · exact .of_eq rfl rfl
        · exact .of_next ‹_› rfl

/-- An attempt's outcome is accepted exactly for the current generation, with an
intent, from the attempt slot. -/
lemma acceptResult_accept_iff (c : ConnectionIntentCoordinator) (g : IntentGeneration) :
    (c.acceptResult g).1 = .accept ↔
      g = c.generation ∧ c.desired ≠ none ∧ c.attemptGeneration = some g := by
  unfold acceptResult
  split <;> simp <;> tauto

lemma acceptResult_fence (c : ConnectionIntentCoordinator) (g : IntentGeneration) :
    (c.acceptResult g).2.generation = c.generation ∧ (c.acceptResult g).2.desired = c.desired := by
  unfold acceptResult
  split <;> exact ⟨rfl, rfl⟩

variable {c : ConnectionIntentCoordinator} {g : IntentGeneration}

lemma markConnected_decision (connection : Connection)
    : (c.markConnected g connection).1 = (c.acceptResult g).1 := by
  simp only [markConnected]
  split <;> rfl

lemma acceptResult_refused {c : ConnectionIntentCoordinator} (hd : (c.acceptResult g).1 ≠ .accept) :
    (c.acceptResult g).2 = c := by
  unfold acceptResult at hd ⊢
  split
  · rfl
  · rename_i hc
    rw [if_neg hc] at hd
    exact absurd rfl hd

lemma markTerminal_iff (c : ConnectionIntentCoordinator) (g : IntentGeneration) (armed : Bool) :
    (c.markTerminal g armed).1 = true ↔ (c.acceptResult g).1 = .accept := by
  unfold markTerminal
  by_cases ha : (c.acceptResult g).1 = .accept
  · simp only [ha, ne_eq, not_true_eq_false, if_false, iff_true]
    split <;> rfl
  · simp [ha]

lemma cancelIntent_fence (c : ConnectionIntentCoordinator) (g : IntentGeneration) :
    FenceMove c (c.cancelIntent g).2 := by
  unfold cancelIntent
  split
  · exact .of_eq rfl rfl
  · dsimp only
    split
    · exact .of_next ‹_› rfl
    · exact Or.inr ⟨rfl, fun _ => rfl⟩

lemma markTerminal_fence (armed : Bool) : FenceMove c (c.markTerminal g armed).2 := by
  obtain ⟨hg, hd⟩ := acceptResult_fence c g
  unfold markTerminal
  dsimp only
  split
  · exact .of_eq hg hd
  · split
    · exact .of_eq hg hd
    · exact Or.inr ⟨hg, fun _ => rfl⟩

lemma perform_fence (call : Call) : FenceMove c (perform c call).2 := by
  cases call with
  | startOrResume options nowUnix => exact startOrResume_fence c options nowUnix
  | beginAttempt g =>
    simp only [perform, Prod.map_snd, id, beginAttempt]
    split <;> exact .of_eq rfl rfl
  | replaceActiveOptions g options =>
    simp only [perform, Prod.map_snd, id, replaceActiveOptions]
    split
    · exact .of_eq rfl rfl
    · rename_i hc
      refine Or.inr ⟨rfl, fun hn => ?_⟩
      exact absurd (Or.inr (Or.inl hn)) hc
  | handleStall =>
    simp only [perform, Prod.map_snd, id, handleStall]
    split <;> exact .of_eq rfl rfl
  | acceptResult g =>
    obtain ⟨hg, hd⟩ := acceptResult_fence c g
    exact .of_eq hg hd
  | completeCompensation g =>
    simp only [perform, Prod.map_snd, id, completeCompensation]
    split <;> exact .of_eq rfl rfl
  | markConnected g =>
    obtain ⟨hg, hd⟩ := acceptResult_fence c g
    simp only [perform, Prod.map_snd, id, markConnected]
    split <;> exact .of_eq hg hd
  | markTerminal g armed => exact markTerminal_fence armed
  | cancelIntent g => exact cancelIntent_fence c g
  | scheduleRetry =>
    simp only [perform, Prod.map_snd, id, scheduleRetry]
    split <;> exact .of_eq rfl rfl
  | wakeForNetworkChange =>
    simp only [perform, Prod.map_snd, id, wakeForNetworkChange]
    split <;> exact .of_eq rfl rfl
  | takeNetworkWakeup =>
    simp only [perform, Prod.map_snd, id, takeNetworkWakeup]
    split <;> exact .of_eq rfl rfl

lemma Retired.move (hr : Retired g c) (hm : FenceMove c c') : Retired g c' := by
  rcases hm with hl | ⟨hg, hd⟩
  · rcases hr with hr | ⟨hr, -⟩
    · exact Or.inl (Nat.lt_trans hr hl)
    · exact Or.inl (hr ▸ hl)
  · rcases hr with hr | ⟨hr, hn⟩
    · exact Or.inl (by rwa [hg])
    · exact Or.inr ⟨hg.trans hr, hd hn⟩

lemma Retired.performAll (hr : Retired g c) (calls : List Call) :
    Retired g (performAll c calls) := by
  induction calls generalizing c with
  | nil => exact hr
  | cons call calls ih => exact ih (hr.move (perform_fence call))

lemma retired_of_retires (h : Retires g call (perform c call).1) :
    Retired g (perform c call).2 := by
  cases call with
  | cancelIntent generation =>
    simp only [perform, Prod.map_snd, Prod.map_fst, id, cancelIntent] at h ⊢
    split at h
    · exact h.elim
    · rename_i hc
      have hg : generation = c.generation := by tauto
      have hs : generation = g := h
      rw [if_neg hc]
      split
      · rename_i following hn
        left
        have := IntentGeneration.next_value hn
        simp only [← hs, hg]
        omega
      · exact Or.inr ⟨hg.symm.trans hs, rfl⟩
  | markTerminal generation armed =>
    cases armed with
    | true => simp [Retires] at h
    | false =>
      have hb : (c.markTerminal generation false).1 = true := by
        cases hb : (c.markTerminal generation false).1 with
        | true => rfl
        | false => simp [perform, Retires, hb] at h
      have hs : generation = g := by simpa [perform, Retires, hb] using h
      have ha := (markTerminal_iff c generation false).mp hb
      have hg := ((acceptResult_accept_iff c generation).mp ha).1
      right
      simp only [perform, Prod.map_snd, id, markTerminal, ha, ne_eq, not_true_eq_false, if_false]
      exact ⟨(acceptResult_fence c generation).1.trans (hg.symm.trans hs), rfl⟩
  | _ => simp [Retires] at h

lemma current_of_admits (h : Admits g call (perform c call).1) :
    g = c.generation ∧ c.desired ≠ none := by
  cases call with
  | acceptResult generation =>
    cases hd : (c.acceptResult generation).1 <;> simp [perform, Admits, hd] at h
    subst h
    obtain ⟨hg, hde, -⟩ := (acceptResult_accept_iff c generation).mp hd
    exact ⟨hg, hde⟩
  | markConnected generation connection =>
    cases hd : (c.markConnected generation connection).1 <;> simp [perform, Admits, hd] at h
    subst h
    rw [markConnected_decision] at hd
    obtain ⟨hg, hde, -⟩ := (acceptResult_accept_iff c generation).mp hd
    exact ⟨hg, hde⟩
  | markTerminal generation armed =>
    cases hd : (c.markTerminal generation armed).1 <;> simp [perform, Admits, hd] at h
    subst h
    rw [markTerminal_iff] at hd
    obtain ⟨hg, hde, -⟩ := (acceptResult_accept_iff c generation).mp hd
    exact ⟨hg, hde⟩
  | beginAttempt generation =>
    simp only [perform, Prod.map_fst, beginAttempt] at h
    split at h
    · exact h.elim
    · have hs : generation = g := h
      subst hs
      tauto
  | _ => simp [Admits] at h

lemma Retired.not_admits (hr : Retired g c) (call : Call) :
    ¬ Admits g call (perform c call).1 := by
  intro ha
  obtain ⟨hg, hd⟩ := current_of_admits ha
  rcases hr with hr | ⟨-, hr⟩
  · rw [hg] at hr
    exact absurd hr (Nat.lt_irrefl _)
  · exact hd hr

lemma Retired.stale (h : Retired g c) : ¬ (g = c.generation ∧ c.desired ≠ none) := by
  rintro ⟨hg, hd⟩
  rcases h with hl | ⟨-, hn⟩
  · rw [hg] at hl
    exact absurd hl (Nat.lt_irrefl _)
  · exact hd hn

/-- In every run from the initial coordinator, no call after the one that
retired `g` admits `g`. -/
theorem performAll_retired_never_admitted (before between : List Call) (retiring later : Call)
    (g : IntentGeneration)
    (h : Retires g retiring (perform (performAll initial before) retiring).1) :
    ¬ Admits g later
      (perform (performAll (perform (performAll initial before) retiring).2 between) later).1 :=
  ((retired_of_retires h).performAll between).not_admits later

/-- A started and cancelled first generation is refused when it comes back. -/
theorem performAll_retired_first :
    ¬ Admits ⟨1, by decide⟩ (.beginAttempt ⟨1, by decide⟩)
      (perform (performAll (perform (performAll initial
        [.startOrResume ⟨.tic, .dynamic, .standalone, .ipv4, [], true⟩ 0])
          (.cancelIntent ⟨1, by decide⟩)).2 [.takeNetworkWakeup])
        (.beginAttempt ⟨1, by decide⟩)).1 :=
  performAll_retired_never_admitted _ _ (.cancelIntent ⟨1, by decide⟩) _ _ (by decide)

section Coherence

/-- No attempt begins and no retry is scheduled for the current generation while its connection is
still held. -/
def Orderly (c : ConnectionIntentCoordinator) : Call → Prop
  | .beginAttempt generation | .scheduleRetry generation _ =>
    generation = c.generation → c.connected = none
  | _ => True

def OrderlyRun : ConnectionIntentCoordinator → List Call → Prop
  | _, [] => True
  | c, call :: calls => Orderly c call ∧ OrderlyRun (perform c call).2 calls

/-- Without an intent nothing is left over; if the calls were orderly, a connection is held only
while nothing is attempted or scheduled. -/
structure Coherent (orderly : Prop) (c : ConnectionIntentCoordinator) : Prop where
  unwanted : c.desired = none → c.status = .none ∧ c.connected = none ∧ c.nextRetryAtUnix = none ∧
    c.networkWakeupPending = false
  completed : orderly → c.connected ≠ none → c.status = .none ∧ c.attemptGeneration = none

lemma Coherent.fresh (hd : c.desired ≠ none) (hf : o → c.connected = none) : Coherent o c :=
  ⟨fun hn => absurd hn hd, fun ho hh => absurd (hf ho) hh⟩

lemma Coherent.idle (hs : c.status = .none) (hf : c.connected = none)
    (hr : c.nextRetryAtUnix = none) (hw : c.networkWakeupPending = false) : Coherent o c :=
  ⟨fun _ => ⟨hs, hf, hr, hw⟩, fun _ hh => absurd hf hh⟩

lemma startOrResume_cases (c : ConnectionIntentCoordinator) (options : ConnectOptions)
    (nowUnix : Int) :
    (∃ exhausted, (c.startOrResume options nowUnix).2 = { c with exhausted }) ∨
      (c.startOrResume options nowUnix).2.desired ≠ none ∧
        (c.startOrResume options nowUnix).2.connected = none := by
  simp only [startOrResume]
  split
  · rename_i hd
    split
    · exact .inl ⟨_, rfl⟩
    · split
      · split
        · exact .inl ⟨_, rfl⟩
        · exact .inr ⟨by simp [openEpisode, hd], rfl⟩
      · split <;> exact .inl ⟨_, rfl⟩
  · split
    · exact .inl ⟨_, rfl⟩
    · split
      · exact .inl ⟨_, rfl⟩
      · split
        · exact .inl ⟨_, rfl⟩
        · exact .inr ⟨by simp, rfl⟩

lemma acceptResult_cases (c : ConnectionIntentCoordinator) (g : IntentGeneration) :
    (c.acceptResult g).1 ≠ .accept ∧ (c.acceptResult g).2 = c ∨
      (c.desired ≠ none ∧ c.attemptGeneration = some g) ∧
        c.acceptResult g = (.accept, { c with attemptGeneration := none }) := by
  unfold acceptResult
  split
  · exact .inl ⟨by simp, rfl⟩
  · rename_i hc
    exact .inr ⟨by tauto, rfl⟩

lemma Coherent.perform (h : Coherent o c) (call : Call) :
    Coherent (o ∧ Orderly c call) (perform c call).2 := by
  have hs : Coherent (o ∧ Orderly c call) c := ⟨h.unwanted, fun ho => h.completed ho.1⟩
  cases call with
  | startOrResume options nowUnix =>
    rcases startOrResume_cases c options nowUnix with ⟨_, hk⟩ | ⟨hd, hf⟩
    · simp only [IntentCoordinator.perform, Prod.map_snd, id, hk]
      exact ⟨h.unwanted, fun ho => h.completed ho.1⟩
    · exact .fresh hd fun _ => hf
  | markConnected g =>
    simp only [IntentCoordinator.perform, Prod.map_snd, id, markConnected]
    rcases acceptResult_cases c g with ⟨hr, hk⟩ | ⟨⟨hd, -⟩, ha⟩
    · simpa [hr, hk] using hs
    · rw [ha]
      exact ⟨fun hn => absurd hn hd, fun _ _ => ⟨rfl, rfl⟩⟩
  | markTerminal g armed =>
    simp only [IntentCoordinator.perform, Prod.map_snd, id, markTerminal]
    rcases acceptResult_cases c g with ⟨hr, hk⟩ | ⟨⟨hd, hsl⟩, ha⟩
    · simpa [hr, hk] using hs
    · rw [ha]
      cases armed with
      | true =>
        -- The attempt that ends was in flight, so no connection was held.
        refine .fresh hd fun ho => Classical.byContradiction fun hh => ?_
        rw [(h.completed ho.1 hh).2] at hsl
        cases hsl
      | false => exact .idle rfl rfl rfl rfl
  | acceptResult g =>
    rcases acceptResult_cases c g with ⟨-, hk⟩ | ⟨⟨hd, -⟩, ha⟩
    · simpa [IntentCoordinator.perform, hk] using hs
    · simp only [IntentCoordinator.perform, Prod.map_snd, id, ha]
      exact ⟨fun hn => absurd hn hd, fun ho hh => ⟨(h.completed ho.1 hh).1, rfl⟩⟩
  | cancelIntent g =>
    simp only [IntentCoordinator.perform, Prod.map_snd, id, cancelIntent]
    split
    · exact hs
    · exact .idle rfl rfl rfl rfl
  | takeNetworkWakeup =>
    simp only [IntentCoordinator.perform, Prod.map_snd, id, takeNetworkWakeup]
    split
    · exact ⟨fun hn => ⟨(h.unwanted hn).1, (h.unwanted hn).2.1, rfl, rfl⟩,
        fun ho => h.completed ho.1⟩
    · exact ⟨fun hn => ⟨(h.unwanted hn).1, (h.unwanted hn).2.1, (h.unwanted hn).2.2.1, rfl⟩,
        fun ho => h.completed ho.1⟩
  | completeCompensation g =>
    simp only [IntentCoordinator.perform, Prod.map_snd, id, completeCompensation]
    split
    · exact hs
    · exact ⟨h.unwanted, fun ho hh => ⟨(h.completed ho.1 hh).1, rfl⟩⟩
  | beginAttempt | scheduleRetry | handleStall =>
    simp only [IntentCoordinator.perform, Prod.map_snd, id, beginAttempt, scheduleRetry, handleStall]
    split
    · exact hs
    · rename_i hc
      refine .fresh (fun hn => hc ?_) fun ho => ?_
      · simp_all
      · simp_all [Orderly]
  | replaceActiveOptions | wakeForNetworkChange =>
    simp only [IntentCoordinator.perform, Prod.map_snd, id, replaceActiveOptions, wakeForNetworkChange]
    split
    · exact hs
    · rename_i hc
      refine ⟨fun hn => absurd ?_ hc, fun ho => h.completed ho.1⟩
      simp_all

lemma Coherent.performAll (h : Coherent o c) (calls : List Call) :
    Coherent (o ∧ OrderlyRun c calls) (performAll c calls) := by
  induction calls generalizing o c with
  | nil => exact ⟨h.unwanted, fun ho => h.completed ho.1⟩
  | cons call calls ih =>
    have hn := ih (h.perform call)
    exact ⟨hn.unwanted, fun ho => hn.completed ⟨⟨ho.1, ho.2.1⟩, ho.2.2⟩⟩

lemma startOrResume_connected
    (h : (c.startOrResume options nowUnix).1 = .ok (.connected connection)) :
    c.connected = some connection := by
  simp only [startOrResume] at h
  split at h
  · split at h
    · cases h
    · split at h
      · split at h <;> cases h
      · split at h
        · rename_i hh
          cases h
          exact hh
        · cases h
  · split at h
    · cases h
    · split at h
      · cases h
      · split at h <;> cases h

/-- Without a desired intent the coordinator is idle after every run. It answers that it is connected
only with a completed connection after every run that begins no attempt and schedules no retry while
a connection is held. -/
theorem coordinator_coherent (calls : List Call) :
    ((performAll initial calls).desired = none → (performAll initial calls).status = .none ∧
      (performAll initial calls).completedConnection = none ∧
      (performAll initial calls).nextRetryAtUnix = none ∧
      (performAll initial calls).networkWakeupPending = false) ∧
    (OrderlyRun initial calls → ∀ options nowUnix connection,
      ((performAll initial calls).startOrResume options nowUnix).1 = .ok (.connected connection) →
      (performAll initial calls).completedConnection.isSome = true) := by
  have hst : Coherent True initial := .idle rfl rfl rfl rfl
  have hru := hst.performAll calls
  constructor
  · intro hn
    obtain ⟨hs, hc, hr, hw⟩ := hru.unwanted hn
    exact ⟨hs, by simp [completedConnection, hc], hr, hw⟩
  · intro ho _ _ _ ha
    have hh := startOrResume_connected ha
    obtain ⟨hs, hsl⟩ := hru.completed ⟨trivial, ho⟩ (by simp [hh])
    simp [completedConnection, hs, hsl, hh]

def ticOptions : ConnectOptions := ⟨.tic, .dynamic, .standalone, .ipv4, [], true⟩

def ticConnection : Connection :=
  ⟨"l", none, none, .tic, .wireguard, .dynamic, .standalone, .ipv4, none, .connected, false, none⟩

lemma one_le_u64Max : 1 ≤ u64Max := by decide

def ticGeneration : IntentGeneration := ⟨1, one_le_u64Max⟩

def connects : List Call :=
  [.startOrResume ticOptions 0, .beginAttempt ticGeneration, .markConnected ticGeneration ticConnection]

/-- A retry scheduled after the connection leaves it held: a start is answered with the connection
while the recovery is scheduled. -/
theorem retry_keeps_connected :
    ((performAll initial (connects ++ [.scheduleRetry ticGeneration 0])).startOrResume ticOptions 0).1 =
        .ok (.connected ticConnection) ∧
      (performAll initial (connects ++ [.scheduleRetry ticGeneration 0])).status = .recovering ∧
      (performAll initial (connects ++ [.scheduleRetry ticGeneration 0])).completedConnection = none := by
  decide +kernel

theorem coordinator_coherent_connected :
    ((performAll initial connects).startOrResume ticOptions 0).1 = .ok (.connected ticConnection) ∧
      (performAll initial connects).completedConnection.isSome = true :=
  ⟨by decide +kernel, (coordinator_coherent connects).2
    ⟨trivial, fun _ => rfl, trivial, trivial⟩ ticOptions 0 ticConnection (by decide +kernel)⟩

end Coherence

end NelomaiClient.IntentCoordinator
