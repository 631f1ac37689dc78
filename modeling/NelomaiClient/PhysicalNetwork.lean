import Mathlib.Data.List.Induction
import NelomaiClient.RecoveryPolicy

/-!
# Changes of the physical network

The detector behind `poll_physical_network` answers that the network changed when it sees a new
fingerprint twice, or the applied one after a failed probe, and puts off a reconnect that failed.
The unix clock may go back: a deferral with an earlier time replaces a later deadline.
-/

namespace NelomaiClient.PhysicalNetworkChangeDetector

open RecoveryPolicy

def physicalNetworkRetrySeconds : Int := 5 * 60

def unknownPhysicalNetwork : String := "restore_requires_network_revalidation"

/-- What a poll of the network finds. -/
inductive PhysicalNetworkObservation where
  | baselineRecorded
  | changePending
  | retryDeferred
  | unchanged
  | confirmedChange (fingerprint : String)
  deriving DecidableEq

/-- What the detector remembers between two polls. -/
structure Detector where
  /-- The network that the tunnel was set up on. -/
  applied : Option String := none
  /-- The network last seen, if it is another one. -/
  candidate : Option String := none
  /-- A reconnect that failed is not tried again before. -/
  retryAfterUnix : Option Int := none
  /-- The last probe failed, which is reported once. -/
  probeFailed : Bool := false
  /-- The next sight of the applied network asks for a reconnect. -/
  reconnectAfterProbeFailure : Bool := false
  /-- A failed reconnect was reported. -/
  reconnectFailureReported : Bool := false

/-- The calls of the detector, with the times that they take from the clock. -/
inductive Call where
  | observe (fingerprint : String) (nowUnix : Int)
  | deferRetry (nowUnix : Int)
  | markProbeFailed (reconnectAfterRecovery : Bool)
  | markApplied (fingerprint : String)
  | requireRevalidation
  | reset

section Calls

variable (detector : Detector) (fingerprint : String) (nowUnix : Int)

/-- A poll: the fingerprint of the network at a time. -/
def observe : PhysicalNetworkObservation × Detector :=
  let reconnectAfterProbeFailure := detector.reconnectAfterProbeFailure
  let detector := { detector with probeFailed := false, reconnectAfterProbeFailure := false }
  match detector.applied with
  | none =>
    (.baselineRecorded,
      { detector with applied := some fingerprint, candidate := none, retryAfterUnix := none })
  | some applied =>
    if detector.candidate = some fingerprint then
      if detector.retryAfterUnix.any fun retryAfter => nowUnix < retryAfter then
        (.retryDeferred, detector)
      else (.confirmedChange fingerprint, { detector with retryAfterUnix := none })
    else
      let detector := { detector with retryAfterUnix := none, reconnectFailureReported := false }
      if applied = fingerprint then
        if reconnectAfterProbeFailure then
          (.confirmedChange fingerprint, { detector with candidate := some fingerprint })
        else (.unchanged, { detector with candidate := none })
      else (.changePending, { detector with candidate := some fingerprint })

/-- Puts off a reconnect that failed, and tells whether to report it. -/
def deferRetry : Bool × Detector :=
  (!detector.reconnectFailureReported,
    { detector with
      retryAfterUnix := some (saturatingAdd nowUnix physicalNetworkRetrySeconds)
      reconnectFailureReported := true })

/-- The tunnel was set up on this network. -/
def markApplied : Detector := { applied := some fingerprint }

/-- After a restore any network counts as a change. -/
def requireRevalidation : Detector := { applied := some unknownPhysicalNetwork }

/-- Notes a failed probe, and tells whether to report it. -/
def markProbeFailed (reconnectAfterRecovery : Bool) : Bool × Detector :=
  (!detector.probeFailed,
    { detector with
      probeFailed := true
      reconnectAfterProbeFailure := detector.reconnectAfterProbeFailure || reconnectAfterRecovery })

def apply : Call → Detector
  | .observe fingerprint nowUnix => (observe detector fingerprint nowUnix).2
  | .deferRetry nowUnix => (deferRetry detector nowUnix).2
  | .markProbeFailed reconnect => (markProbeFailed detector reconnect).2
  | .markApplied fingerprint => markApplied fingerprint
  | .requireRevalidation => requireRevalidation
  | .reset => {}

def run (calls : List Call) : Detector := calls.foldl apply detector

end Calls

/-- What the last `observe` saw, if the detector was not set to another network since. -/
def lastSeen (calls : List Call) : Option String :=
  calls.foldl (fun seen call => match call with
    | .observe fingerprint _ => some fingerprint
    | .deferRetry _ | .markProbeFailed _ => seen
    | .markApplied _ | .requireRevalidation | .reset => none) none

/-- A failed probe asked for a reconnect since the last `observe`. -/
def probeFailureMarked (calls : List Call) : Bool :=
  calls.foldl (fun marked call => match call with
    | .observe _ _ => false
    | .markProbeFailed reconnect => marked || reconnect
    | _ => marked) false

/-- The detector keeps looking at the fingerprint. -/
def Call.keeps (fingerprint : String) : Call → Prop
  | .observe other _ => other = fingerprint
  | .deferRetry _ | .markProbeFailed _ => True
  | .markApplied _ | .requireRevalidation | .reset => False

def Call.time : Call → Option Int
  | .observe _ nowUnix | .deferRetry nowUnix => some nowUnix
  | _ => none

variable {detector : Detector} {call : Call}

/-- The detector waits for a second sight of the fingerprint, or has had it. -/
def Watches (f : String) (detector : Detector) : Prop :=
  detector.applied ≠ none ∧ detector.candidate = some f

lemma observe_spec (detector : Detector) (f : String) (nowUnix : Int) :
    let (answer, after) := observe detector f nowUnix
    after.reconnectAfterProbeFailure = false ∧ (∀ g, after.candidate = some g → f = g) ∧
    (Watches f detector → Watches f after) ∧
    ∀ g, answer = .confirmedChange g → g = f ∧ Watches f after ∧ (detector.candidate = some f ∨
      detector.applied = some f ∧ detector.reconnectAfterProbeFailure = true) := by
  unfold observe Watches
  cases ha : detector.applied with
  | none => simp
  | some applied =>
    by_cases hc : detector.candidate = some f
    · by_cases hd : detector.retryAfterUnix.any fun retryAfter => nowUnix < retryAfter
      · simp [hc, hd]
      · simp [hc, hd, eq_comm (a := f)]
    · by_cases he : applied = f <;> cases detector.reconnectAfterProbeFailure <;>
        simp [hc, he, eq_comm]

lemma tracked (calls : List Call) :
    (∀ f, (run {} calls).candidate = some f → lastSeen calls = some f) ∧
      ((run {} calls).reconnectAfterProbeFailure = true → probeFailureMarked calls = true) := by
  induction calls using List.reverseRecOn with
  | nil => simp [run]
  | append_singleton rest call ih =>
    simp only [run, lastSeen, probeFailureMarked, List.foldl_append, List.foldl_cons,
      List.foldl_nil] at ih ⊢
    cases call with
    | observe f nowUnix =>
      obtain ⟨hr, hc, -⟩ := observe_spec (run {} rest) f nowUnix
      exact ⟨fun g hg => congrArg some (hc g hg), fun h => absurd (hr.symm.trans h) (by simp)⟩
    | deferRetry => exact ih
    | markProbeFailed reconnect =>
      refine ⟨ih.1, fun h => ?_⟩
      simp only [apply, markProbeFailed, Bool.or_eq_true] at h ⊢
      exact h.imp_left ih.2
    | markApplied | requireRevalidation | reset => simp [apply, markApplied, requireRevalidation]

lemma Watches.apply (h : Watches f detector) (hk : call.keeps f) :
    Watches f (apply detector call) := by
  cases call with
  | observe g nowUnix =>
    obtain rfl : g = f := hk
    exact (observe_spec detector g nowUnix).2.2.1 h
  | deferRetry | markProbeFailed => exact h
  | markApplied | requireRevalidation | reset => cases hk

/-- A retry for the fingerprint waits for the deadline. -/
def Deferred (f : String) (deadline : Int) (detector : Detector) : Prop :=
  Watches f detector ∧ ∃ retryAfter, detector.retryAfterUnix = some retryAfter ∧ deadline ≤ retryAfter

lemma Deferred.observe (h : Deferred f deadline detector) (hn : nowUnix < deadline) :
    observe detector f nowUnix = (.retryDeferred, { detector with
      probeFailed := false, reconnectAfterProbeFailure := false }) := by
  obtain ⟨⟨ha, hc⟩, retryAfter, hr, hd⟩ := h
  obtain ⟨applied, ha⟩ := Option.ne_none_iff_exists'.mp ha
  have hl : nowUnix < retryAfter := by omega
  simp [PhysicalNetworkChangeDetector.observe, ha, hc, hr, hl]

lemma Deferred.apply (h : Deferred f (saturatingAdd t physicalNetworkRetrySeconds) detector)
    (hk : call.keeps f) (ht : ∀ time ∈ call.time, t ≤ time ∧
      time < saturatingAdd t physicalNetworkRetrySeconds) :
    Deferred f (saturatingAdd t physicalNetworkRetrySeconds) (apply detector call) := by
  refine ⟨h.1.apply hk, ?_⟩
  cases call with
  | observe g nowUnix =>
    obtain rfl : g = f := hk
    simp only [PhysicalNetworkChangeDetector.apply, h.observe (ht nowUnix rfl).2]
    exact h.2
  | deferRetry nowUnix =>
    -- A later deferral only moves the deadline on, since its time is not before `t`.
    have hl := (ht nowUnix rfl).1
    refine ⟨_, rfl, ?_⟩
    simp only [saturatingAdd]
    omega
  | markProbeFailed => exact h.2
  | markApplied | requireRevalidation | reset => cases hk

/-- A change is confirmed for a fingerprint seen twice, or for the applied one after a failed
probe; and once a retry is deferred it is not confirmed again before the deadline, as long as the
clock does not go back and the detector keeps to the fingerprint. -/
theorem change_confirmed_and_deferred (calls : List Call) (f g : String) (nowUnix : Int)
    (h : (observe (run {} calls) f nowUnix).1 = .confirmedChange g) :
    (g = f ∧ (lastSeen calls = some f ∨
      (run {} calls).applied = some f ∧ probeFailureMarked calls = true)) ∧
    ∀ between later t laterUnix, (∀ call ∈ between ++ later, Call.keeps f call) →
      (t :: later.filterMap Call.time ++ [laterUnix]).Pairwise (· ≤ ·) →
      laterUnix < saturatingAdd t physicalNetworkRetrySeconds →
      (observe (run (deferRetry (run (observe (run {} calls) f nowUnix).2 between) t).2 later) f
        laterUnix).1 = .retryDeferred := by
  obtain ⟨hg, ha, hw⟩ := (observe_spec _ f nowUnix).2.2.2 g h
  refine ⟨⟨hg, hw.imp ((tracked calls).1 f) fun ⟨ha, hr⟩ => ⟨ha, (tracked calls).2 hr⟩⟩, ?_⟩
  intro between later t laterUnix hk hs hl
  rw [List.forall_mem_append] at hk
  have hb : Watches f (run (observe (run {} calls) f nowUnix).2 between) :=
    List.foldlRecOn between apply ha fun _ hd call hm => hd.apply (hk.1 call hm)
  have hd : Deferred f (saturatingAdd t physicalNetworkRetrySeconds)
      (deferRetry (run (observe (run {} calls) f nowUnix).2 between) t).2 :=
    ⟨hb, _, rfl, Int.le_refl _⟩
  obtain ⟨hs, -, hlast⟩ := List.pairwise_append.mp hs
  have hr : Deferred f (saturatingAdd t physicalNetworkRetrySeconds) (run _ later) :=
    List.foldlRecOn later apply hd fun _ hd call hm => hd.apply (hk.2 call hm) fun time ht => by
      have hm : time ∈ later.filterMap Call.time := List.mem_filterMap.mpr ⟨call, hm, ht⟩
      have hle := hlast time (List.mem_cons_of_mem _ hm) laterUnix List.mem_cons_self
      exact ⟨(List.pairwise_cons.mp hs).1 time hm, by omega⟩
  rw [hr.observe hl]

/-- The changed network is confirmed at its second sight, and its reconnect is put off up to the
last second before the deadline 330. -/
theorem second_sight_confirmed :
    (observe (run (deferRetry (run (observe (run {} [.observe "a" 0, .observe "b" 0]) "b" 30).2
      [.markProbeFailed true]) 30).2 [.observe "b" 60]) "b" 329).1 = .retryDeferred :=
  (change_confirmed_and_deferred [.observe "a" 0, .observe "b" 0] "b" "b" 30 rfl).2
    [.markProbeFailed true] [.observe "b" 60] 30 329 (by simp [Call.keeps]) (by decide) (by decide)

/-- A deferral with an earlier time lets the change be confirmed before the first deadline. -/
theorem earlier_deferral_confirms :
    (observe (run {} [.observe "a" 0, .observe "b" 0]) "b" 0).1 = .confirmedChange "b" ∧
    (observe (run {} [.observe "a" 0, .observe "b" 0, .observe "b" 0, .deferRetry 100,
      .deferRetry 0]) "b" 300).1 = .confirmedChange "b" ∧
    300 < saturatingAdd 100 physicalNetworkRetrySeconds := by
  decide

end NelomaiClient.PhysicalNetworkChangeDetector
