import NelomaiClient.AndroidRequests

/-!
# What the Android coordinator guarantees over its runs

Runs of the service from any record that keeps the invariant, with a panel, a
tunnel and a storage that answer as they like and deaths of the process at any
point. A desired intent keeps its owner, a start request carries the start of
its template and no operation that is being cleaned up, and a cancellation wins
over the dispatched starts before it. The first three hold where a store function
is called as its condition says; without it a run breaks each of them.
-/

namespace NelomaiClient.AndroidGuarantees

open AndroidRecovery AndroidRecoveryStore AndroidCoordinator AndroidContract AndroidRequests
open AwaitPool AwaitRely AwaitFootprint

def checked (params : AndroidParameters) (check : Cmd → AndroidWorld → Bool) :
    StepCondition (androidSystem params) :=
  fun _ c _ w => check c w = true

instance (params : AndroidParameters) (check : Cmd → AndroidWorld → Bool) (t : ℕ) (c : Cmd)
    (i : Input) (w : AndroidWorld) : Decidable (checked params check t c i w) :=
  inferInstanceAs (Decidable (check c w = true))

def sampleParameters : AndroidParameters := ⟨some, fun _ => "f"⟩

def sampleTemplate (reserveEnabled : Option Bool) : AndroidIntentTemplate where
  deviceId := "d"
  accountScope := "a"
  layer := .stray
  ticConnectionMode := .dynamic
  routeMode := .standalone
  egressMode := .ipv4
  allowAlternate := true
  reserveEnabled := reserveEnabled

abbrev sampleSystem : System := androidSystem sampleParameters

abbrev installed : Pool sampleSystem := Pool.idle (AndroidWorld.fresh none)

def done : Input := .store ⟨.readable, some 1, some 1, true, true⟩

def yes : Input := .flag true

def succeeds : Input := .verdict (.ok ())

def found (state : ReconcileState) : Input := .reconciled (.ok ⟨state, none, none⟩)

def fatal : Throwable := .background "unknown" none

def entering : List Input := [done, .go]

def each (inputs : List Input) : List (List Input) := inputs.map ([·])

def runs (t : ℕ) (op : Op) (inputs : List (List Input)) : List (Move sampleSystem) :=
  .start op :: .resume t :: inputs.flatMap (segment t)

def leaves : List (List Input) := each [.go, .go]

def begins : List (List Input) := each [done, succeeds, done, .text "o", done]

def restarts : List (List Input) := each [done, succeeds, done, .text "r", .text "s", done]

def sends : List (List Input) :=
  each [.go, done, yes, done, yes, found .notFound, done, yes, yes, yes, .go, done]

def rejects : Input := .started (.error fatal)

def acquires : List (List Input) :=
  sends ++ each [.started (.ok ⟨"l", none⟩), .go, .go, done, yes, done, done, yes]

def activates : List (List Input) := acquires ++ each [.ran (.ok true), done, yes, done] ++ leaves

def losesHandshake : List (List Input) :=
  acquires ++
    each [.ran (.error (.background "tunnel_handshake_timeout" none)), done, .text "s", done]

def gives : List (List Input) :=
  each [.go, done] ++ entering :: each [done, .ran (.ok true), succeeds]

def renews : List (List Input) := each [.text "p", done, done, .time 0, done] ++ leaves

def stalls : List (List Input) := each [done, .text "s", .time 0, done]

def refuses : List (List Input) :=
  each [.go, done, yes, done, done, yes, .reconciled (.error fatal), done, done, done] ++ leaves

def breaks : List (List Input) :=
  each [.go, done, yes, done, .ran (.error fatal), done, done, .text "s", done] ++ leaves

def refusesSecond : List (List Input) :=
  each [.go, done, yes, done, .reconciled (.error fatal), done, done, done] ++ leaves

/-- The contract-1 session with a stall that is repaired and then fails for good. -/
def failsPending : List (Move sampleSystem) :=
  runs 0 (.begin (sampleTemplate none)) begins ++ runs 1 .runOnce activates ++
    runs 2 (.dataPlaneStalled "l") stalls ++ runs 3 .runOnce (gives ++ renews) ++
    runs 4 .runOnce refuses

def renewsPending : List (List Input) :=
  each [.go, done] ++ entering :: each [done, found .notFound] ++ renews

def resends : List (List Input) :=
  each [.go, done, yes, done, done, yes, found .notFound, done, yes, yes, yes, .go, done]

/-- A session that ended for good, and a start of the second contract that did, too. -/
def failsSecond : List (Move sampleSystem) :=
  runs 0 (.begin (sampleTemplate none)) begins ++ runs 1 .runOnce activates ++
    runs 2 .runOnce breaks ++ runs 3 .runOnce (gives ++ each [done] ++ leaves) ++
    runs 4 (.begin (sampleTemplate (some true))) restarts ++ runs 5 .runOnce refusesSecond

def sendsSecond : List (List Input) := each [.go, done, done, found .notFound, done, yes, .go, done]

structure StartShown where
  reserveEnabled : Option Bool
  contractVersion : Nat
  phase : LeasePhase
  deriving DecidableEq

def startIssued (P : Pool sampleSystem) (m : Move sampleSystem) : Option StartShown :=
  match P.issued m with
  | some (_, .start template transaction, _) =>
    some ⟨template.reserveEnabled, transaction.replay.contractVersion, transaction.phase⟩
  | _ => none

lemma of_startIssued (h : startIssued P m = some shown) :
    ∃ t template lease i, P.issued m = some (t, Cmd.start template lease, i) ∧
      template.reserveEnabled = shown.reserveEnabled ∧ lease.replay.contractVersion =
      shown.contractVersion ∧ lease.phase = shown.phase := by
  unfold startIssued at h
  split at h
  · rename_i t template lease i hi
    cases h
    exact ⟨t, template, lease, i, hi, rfl, rfl, rfl⟩
  · cases h

/-- Cancellations at the issue of the ticket under which a move commits, and whether it is the
commit of `beginDispatched`. -/
def ticketIssued (P : Pool sampleSystem) (m : Move sampleSystem) : Option (ℕ × Bool) :=
  match P.issued m with
  | some (_, .commit (.ticketed ticket) _, _) => some (ticket.cancels, false)
  | some (_, .commit (.dispatched ticket) _, _) => some (ticket.cancels, true)
  | _ => none

lemma of_ticketIssued (h : ticketIssued P m = some (cancels, dispatched)) :
    ∃ t ticket call i, ticket.cancels = cancels ∧ P.issued m = some
      (t, Cmd.commit (if dispatched then .dispatched ticket else .ticketed ticket) call, i) := by
  unfold ticketIssued at h
  split at h
  · rename_i t ticket call i hi
    cases h
    exact ⟨t, ticket, call, i, rfl, hi⟩
  · rename_i t ticket call i hi
    cases h
    exact ⟨t, ticket, call, i, rfl, hi⟩
  · cases h

section Conditions

lemma matching_condition (t : ℕ) (c : Cmd) (i : Input) (w : AndroidWorld)
    (h : checked params (restartMatches params) t c i w) :
    (contract params True False False).cond t c i w :=
  ⟨fun _ => h, False.elim, False.elim⟩

lemma owning_condition (t : ℕ) (c : Cmd) (i : Input) (w : AndroidWorld)
    (h : checked params ownerStays t c i w) : (contract params False True False).cond t c i w :=
  ⟨False.elim, fun _ => h, False.elim⟩

lemma first_condition (t : ℕ) (c : Cmd) (i : Input) (w : AndroidWorld)
    (h : checked params restartIsFirst t c i w) : (contract params False False True).cond t c i w :=
  ⟨False.elim, False.elim, fun _ => h⟩

lemma free_condition (t : ℕ) (c : Cmd) (i : Input) (w : AndroidWorld) :
    (contract params False False False).cond t c i w :=
  ⟨False.elim, False.elim, False.elim⟩

lemma nothing_stored (e : AndroidRecoveryEnvelope) (he : none = some e) :
    validateEnvelope params e = true := nomatch he

lemma sane_none (e : AndroidRecoveryEnvelope) (he : none = some e) :
    Sane params fits owner fresh e :=
  nomatch he

end Conditions

/-- A stored intent that is desired and has no redundant session has a lease
transaction or is terminal, in every run in which a cleanup is completed without
a new operation only for an intent that is not desired, and the barrier of the
credential is not cleared for a desired intent that owns nothing. -/
theorem desired_intent_has_owner (params : AndroidParameters) {e₀ : Option AndroidRecoveryEnvelope}
    (h₀ : ∀ e, e₀ = some e → Sane params False True False e)
    {P : Pool (androidSystem params)}
    (h : Reach (checked params ownerStays) (Pool.idle (AndroidWorld.fresh e₀)) P)
    {e : AndroidRecoveryEnvelope} (he : P.state.stored = some e)
    (hdesired : e.intent.desiredActive = true) (hsession : e.redundantTransaction = none) :
    e.leaseTransaction.isSome = true ∨ e.isTerminalConnectionIntent = true := by
  have hs := reach_sound h₀ (h.mono owning_condition)
  exact (hs.1 e he).owned trivial hdesired hsession

/-- The lease of a tunnel without handshake is cleaned up after a death of the
process, and the desired intent is left with nothing. -/
theorem desired_intent_is_orphaned :
    ¬ ∀ (P : Pool sampleSystem) (e : AndroidRecoveryEnvelope),
      Reach (unconditioned sampleSystem) installed P → P.state.stored = some e →
      e.intent.desiredActive = true → e.redundantTransaction = none →
      e.leaseTransaction.isSome = true ∨ e.isTerminalConnectionIntent = true := by
  intro h
  have hrun : (moves (unconditioned sampleSystem) installed
      (runs 0 (.begin (sampleTemplate none)) begins ++ runs 1 .runOnce losesHandshake ++
        .crash :: runs 0 .runOnce (gives ++ each [done]))).map
      (fun P => P.state.stored.map fun e => (e.intent.desiredActive, e.redundantTransaction,
        e.leaseTransaction.isSome, e.isTerminalConnectionIntent)) =
      some (some (true, none, false, false)) := by rfl
  obtain ⟨P, hr, ho⟩ := Reach.observed hrun
  obtain ⟨e, he, hf⟩ := Option.map_eq_some_iff.mp ho
  simp only [Prod.mk.injEq] at hf
  obtain ⟨hd, hs, hl, ht⟩ := hf
  rcases h P e hr he hd hs with hso | htr
  · rw [hl] at hso
    cases hso
  · rw [ht] at htr
    cases htr

theorem desired_intent_has_owner_started :
    ∃ (P : Pool sampleSystem) (e : AndroidRecoveryEnvelope),
      Reach (checked sampleParameters ownerStays) installed P ∧ P.state.stored = some e ∧
      e.intent.desiredActive = true ∧
      (e.leaseTransaction.isSome = true ∨ e.isTerminalConnectionIntent = true) := by
  have hrun : (moves (checked sampleParameters ownerStays) installed
      (runs 0 (.begin (sampleTemplate none)) begins ++ runs 1 .runOnce activates)).map
      (fun P => P.state.stored.map fun e =>
        (e.intent.desiredActive, e.redundantTransaction)) =
      some (some (true, none)) := by rfl
  obtain ⟨P, hr, ho⟩ := Reach.observed hrun
  obtain ⟨e, he, hf⟩ := Option.map_eq_some_iff.mp ho
  simp only [Prod.mk.injEq] at hf
  exact ⟨P, e, hr, he, hf.1, desired_intent_has_owner sampleParameters sane_none hr he hf.1 hf.2⟩

/-- A start request carries the contract and the fingerprint of its template, in
every run that restarts a terminal intent over an unfinished operation only with
a template of the same start. -/
theorem start_matches_journal (params : AndroidParameters) {e₀ : Option AndroidRecoveryEnvelope}
    (h₀ : ∀ e, e₀ = some e → Sane params True False False e)
    {P P' : Pool (androidSystem params)}
    (h : Reach (checked params (restartMatches params)) (Pool.idle (AndroidWorld.fresh e₀)) P)
    {m : Move (androidSystem params)} (hm : Meets (checked params (restartMatches params)) P m)
    (hs : P.move m = some P') {t : ℕ} {template : AndroidIntentTemplate}
    {transaction : AndroidLeaseTransaction} {i : Input}
    (hi : P.issued m = some (t, .start template transaction, i)) :
    (transaction.replay.contractVersion = 2 ↔ template.reserveEnabled.isSome = true) ∧
      transaction.replay.requestFingerprint =
        androidConnectionIntentFingerprint params template template.measured
          (if transaction.replay.contractVersion = 2 then template.reserveEnabled else none) := by
  have hg := (reach_sound h₀ (h.mono matching_condition)).issued (hm.mono matching_condition) hs hi
  have hst := (hg.start template transaction rfl).1 trivial
  have hv : transaction.replay.contractVersion =
      (template.replay params "").contractVersion := congrArg Prod.fst hst
  have hf : transaction.replay.requestFingerprint =
      (template.replay params "").requestFingerprint := congrArg Prod.snd hst
  rw [hv, hf]
  unfold AndroidIntentTemplate.replay
  cases hr : template.reserveEnabled with
  | none | some => simp

/-- A terminal intent is restarted with another template while its operation is
pending; the operation that follows it has the fingerprint of the old one. -/
theorem start_carries_old_journal :
    ¬ ∀ (P : Pool sampleSystem) (m : Move sampleSystem) t template transaction i,
      Reach (unconditioned sampleSystem) installed P → (P.move m).isSome →
      P.issued m = some (t, Cmd.start template transaction, i) →
      (transaction.replay.contractVersion = 2 ↔ template.reserveEnabled.isSome = true) ∧
        transaction.replay.requestFingerprint =
          androidConnectionIntentFingerprint sampleParameters template template.measured
            (if transaction.replay.contractVersion = 2 then template.reserveEnabled else none) := by
  intro h
  have hrun : (moves (unconditioned sampleSystem) installed
      (failsPending ++ runs 5 (.begin (sampleTemplate (some true))) restarts ++
        runs 6 .runOnce renewsPending ++ runs 7 .runOnce resends ++ [.resume 7])).map
      (fun P => (startIssued P (.step 7 rejects), (P.move (.step 7 rejects)).isSome)) =
      some (some ⟨some true, 1, .startPending⟩, true) := by decide +kernel
  obtain ⟨P, hre, ho⟩ := Reach.observed hrun
  simp only [Prod.mk.injEq] at ho
  obtain ⟨t, template, transaction, i, hi, hr, hv, -⟩ := of_startIssued ho.1
  have hc := (h P _ t template transaction i hre ho.2 hi).1
  rw [hr, hv] at hc
  cases hc.mpr rfl

theorem start_matches_journal_first :
    ∃ (P P' : Pool sampleSystem) (t : ℕ) (template : AndroidIntentTemplate)
      (transaction : AndroidLeaseTransaction) (i : Input),
      Reach (checked sampleParameters (restartMatches sampleParameters)) installed P ∧
      P.move (.step 1 rejects) = some P' ∧
      P.issued (.step 1 rejects) = some (t, .start template transaction, i) ∧
      (transaction.replay.contractVersion = 2 ↔ template.reserveEnabled.isSome = true) ∧
      transaction.replay.requestFingerprint =
        androidConnectionIntentFingerprint sampleParameters template template.measured
          (if transaction.replay.contractVersion = 2 then template.reserveEnabled else none) := by
  have hrun : lastMove
      (checked sampleParameters (restartMatches sampleParameters)) installed
      (runs 0 (.begin (sampleTemplate none)) begins ++ runs 1 .runOnce sends ++ [.resume 1])
      (.step 1 rejects) (fun P _ => startIssued P (.step 1 rejects)) =
      some (some ⟨none, 1, .startPending⟩) := by decide +kernel
  obtain ⟨P, P', hr, hm, hP', hs⟩ := Reach.lastMove hrun
  obtain ⟨t, template, transaction, i, hi, -⟩ := of_startIssued hs
  exact ⟨P, P', t, template, transaction, i, hr, hP', hi,
    start_matches_journal sampleParameters sane_none hr hm hP' hi⟩

section Cleanup

variable (params : AndroidParameters)

/-- A reconcile, a stop of the tunnel or of the lease, a store function, or a question that changes
nothing. -/
@[reducible]
def Clears : (android params).Cmd → Prop
  | .reconcile _ _ | .runtimeStop | .stop _ _ _ | .store _ => True
  | .canStart | .runtimeRunning | .operationId | .nowUnix => True
  | _ => False

variable {params}

instance (call : StoreCall) : Issues (Clears params) (stored params call) := by
  unfold stored storeOutcome
  repeat' first | infer_instance | split | refine issues_seq ?_ fun _ => ?_

instance (call : StoreCall) : Issues (Clears params) (storedOrThrow params call) := by
  unfold storedOrThrow orThrow
  repeat' first | infer_instance | split | refine issues_seq ?_ fun _ => ?_

instance {α : Type} (value : Option α) : Issues (Clears params) (notNull params value) := by
  cases value <;> (unfold notNull; infer_instance)

instance : Issues (Clears params) (recordDirectRetry params code action expected) := by
  repeat' first | infer_instance | split | refine issues_seq ?_ fun _ => ?_

instance : Issues (Clears params) (completeInitial params envelope result) := by
  cases result <;> (unfold completeInitial; infer_instance)

instance : Issues (Clears params) (reconciledLease params reconciled) := by
  unfold reconciledLease
  split <;> infer_instance

instance : Issues (Clears params) (cleanupWithLease params envelope transaction) := by
  unfold cleanupWithLease giveBack stopFailed completeWithLease withLocalStop withStopOperation
    requireAgain endCleanup restartAfterCleanup AndroidCoordinator.recordTerminalCleanupRetry
    retryIf
  repeat' first | infer_instance | split | refine issues_seq ?_ fun _ => ?_

/-- A cleanup only reconciles, stops the tunnel and gives its lease back. -/
instance : Issues (Clears params) (cleanup params) := by
  have hr : ∀ u, Issues (Clears params) (cleanupRound params u) := by
    intro u
    unfold cleanupRound cleanupWithoutLease completeWithoutLease endCleanup restartAfterCleanup
    repeat' first | infer_instance | split | refine issues_seq ?_ fun _ => ?_
  unfold cleanup
  infer_instance

instance (call : StoreCall) : Issues (Clears params) (retryIf params call) := by
  unfold retryIf
  repeat' first | infer_instance | split | refine issues_seq ?_ fun _ => ?_

instance : Issues (Clears params) (stopOperation params transaction) := by
  unfold stopOperation
  split <;> infer_instance

instance : Issues (Clears params) (terminalWithoutLease params envelope code) := by
  unfold terminalWithoutLease
  infer_instance

instance : Issues (Clears params) (recordTerminalFailure params code) := by
  unfold recordTerminalFailure terminalWithLease
  repeat' first | infer_instance | split | refine issues_seq ?_ fun _ => ?_

instance : Issues (Clears params)
    (closeAuthoritativePendingStartAndRetry params envelope transaction code) := by
  unfold closeAuthoritativePendingStartAndRetry
  infer_instance

instance : Issues (Clears params) (clearAction params envelope) := by
  unfold clearAction
  infer_instance

instance : Issues (Clears params)
    (resumeStalledStopReconcile params envelope transaction reconciled) := by
  unfold resumeStalledStopReconcile resumeStalled restartAfterCleanup recordBlockedStalledRecovery
  repeat' first | infer_instance | split

instance : Issues (Clears params) (resumeReconciled params envelope transaction reconciled) := by
  unfold resumeReconciled
  split <;> infer_instance

instance : Issues (Clears params) (resumeReconcile params envelope transaction) := by
  unfold resumeReconcile
  dsimp only
  infer_instance

instance : Issues (Clears params) (resumeLocalRestart params envelope) := by
  unfold resumeLocalRestart
  dsimp only
  infer_instance

instance : Issues (Clears params) (resumePendingAction params envelope transaction) := by
  unfold resumePendingAction
  dsimp only
  repeat' first | infer_instance | split

instance : Issues (Clears params) (legacyStopped params envelope stopped) := by
  unfold legacyStopped
  repeat' first | infer_instance | split | refine issues_seq ?_ fun _ => ?_

instance : Issues (Clears params) (stopLegacyRuntime params envelope) := by
  unfold stopLegacyRuntime
  repeat' first | infer_instance | split | refine issues_seq ?_ fun _ => ?_

instance : Issues (Clears params) (recordFailureDecision params code retryAfter) := by
  unfold recordFailureDecision continueDisarmed decideFailure retryProfile retryNewOperation
    retryRecorded
  dsimp only
  repeat' first | infer_instance | split | refine issues_seq ?_ fun _ => ?_

instance (error : Throwable) : Issues (Clears params) (attemptFailed params error) := by
  cases error <;> (unfold attemptFailed; infer_instance)

/-- What an attempt does about a lease that the first or the second of its two reads has found: all
of it reconciles, stops the tunnel or gives the lease back. -/
structure OnlyClears (params : AndroidParameters) (envelope : AndroidRecoveryEnvelope)
    (transaction : AndroidLeaseTransaction) : Prop where
  /-- Instead of a second read, for the tunnel of an older version. -/
  legacy : (stopLegacyRuntime params envelope).run.Uses (Clears params)
  /-- The reads are those of `attemptOnce` and `runTransaction`. -/
  owned : runOwned params envelope transaction =
    resumePendingAction params envelope transaction >>= fun resumed =>
      resumed.elim (runTransaction params) pure
  /-- Between the two reads. -/
  resumed : (resumePendingAction params envelope transaction).run.Uses (Clears params)
  /-- After the second read, with a transaction of the second contract or of the first. -/
  second : transaction.replay.contractVersion = 2 →
    (runPendingRedundantStart params envelope transaction).run.Uses (Clears params)
  first : (runPhase params envelope transaction).run.Uses (Clears params)
  /-- After a failure of any of these. -/
  failed : ∀ error, (attemptFailed params error).run.Uses (Clears params)

lemma onlyClears (h : Sane params fits owner True envelope)
    (hl : envelope.leaseTransaction = some transaction) (hc : transaction.phase.cleaning = true) :
    OnlyClears params envelope transaction where
  legacy := Issues.out
  owned := by
    unfold runOwned
    simp only [hc, Bool.not_true, Bool.and_false, Bool.false_eq_true, if_false]
    refine bind_congr (x := resumePendingAction params envelope transaction) fun resumed => ?_
    cases resumed with
    | some | none => rfl
  resumed := Issues.out
  second hv := by
    have hd : envelope.intent.desiredActive = false := by
      by_contra hd
      have := (h.second trivial transaction hl hv).2 (by simpa using hd)
      simp [this] at hc
    have hr : Issues (Clears params) (runPendingRedundantStart params envelope transaction) := by
      unfold runPendingRedundantStart
      simp only [hd, Bool.not_false, if_true]
      infer_instance
    exact hr.out
  first := by
    have hr : runPhase params envelope transaction = cleanup params := by
      unfold runPhase
      cases hp : transaction.phase with
      | cleanupPending | staleCleanup => rfl
      | _ =>
        rw [hp] at hc
        cases hc
    rw [hr]
    exact Issues.out
  failed _ := Issues.out

/-- A start request never carries a transaction that is being cleaned up, and an attempt that reads
such a transaction, of either contract, only reconciles, stops the tunnel and gives the lease back.
This holds in every run in which a terminal intent with an operation of the second contract is not
restarted. -/
theorem start_not_from_cleanup (params : AndroidParameters) {e₀ : Option AndroidRecoveryEnvelope}
    (h₀ : ∀ e, e₀ = some e → Sane params False False True e)
    {P P' : Pool (androidSystem params)}
    (h : Reach (checked params restartIsFirst) (Pool.idle (AndroidWorld.fresh e₀)) P)
    {m : Move (androidSystem params)} (hm : Meets (checked params restartIsFirst) P m)
    (hs : P.move m = some P') :
    (∀ t template transaction i,
      P.issued m = some (t, .start template transaction, i) →
        transaction.phase = .startPending ∨ transaction.phase = .leaseAcquired ∨
          transaction.phase = .activeCheckpoint) ∧
      ∀ envelope transaction, P.state.stored = some envelope →
        envelope.leaseTransaction = some transaction → transaction.phase.cleaning = true →
          OnlyClears params envelope transaction := by
  have hsound := reach_sound h₀ (h.mono first_condition)
  refine ⟨?_, fun envelope _ he hl hc => onlyClears (hsound.1 envelope he) hl hc⟩
  intro t template transaction i hi
  have hg := hsound.issued (hm.mono first_condition) hs hi
  have hp := (hg.start template transaction rfl).2 trivial
  cases hca : transaction.phase with
  | startPending => exact .inl rfl
  | leaseAcquired => exact .inr (.inl rfl)
  | activeCheckpoint => exact .inr (.inr rfl)
  | cleanupPending | staleCleanup =>
    rw [hca] at hp
    cases hp

/-- A terminal intent with an operation of the second contract is restarted, and the
operation is sent again while it is being cleaned up. -/
theorem start_from_cleanup :
    ¬ ∀ (P : Pool sampleSystem) (m : Move sampleSystem) t template transaction i,
      Reach (unconditioned sampleSystem) installed P → (P.move m).isSome →
      P.issued m = some (t, Cmd.start template transaction, i) →
        transaction.phase = .startPending ∨ transaction.phase = .leaseAcquired ∨
          transaction.phase = .activeCheckpoint := by
  intro h
  have hrun : (moves (unconditioned sampleSystem) installed
      (failsSecond ++ runs 6 (.begin (sampleTemplate (some true))) restarts ++
        runs 7 .runOnce sendsSecond ++ [.resume 7])).map
      (fun P => (startIssued P (.step 7 rejects), (P.move (.step 7 rejects)).isSome)) =
      some (some ⟨some true, 2, .staleCleanup⟩, true) := by decide +kernel
  obtain ⟨P, hr, ho⟩ := Reach.observed hrun
  simp only [Prod.mk.injEq] at ho
  obtain ⟨t, template, transaction, i, hi, -, -, hp⟩ := of_startIssued ho.1
  have hc := h P _ t template transaction i hr ho.2 hi
  rw [hp] at hc
  rcases hc with hc | hc | hc <;> cases hc

theorem start_not_from_cleanup_first :
    ∃ (P P' : Pool sampleSystem) (t : ℕ) (template : AndroidIntentTemplate)
      (transaction : AndroidLeaseTransaction) (i : Input),
      Reach (checked sampleParameters restartIsFirst) installed P ∧
      P.move (.step 1 rejects) = some P' ∧
      P.issued (.step 1 rejects) = some (t, .start template transaction, i) ∧
      (transaction.phase = .startPending ∨ transaction.phase = .leaseAcquired ∨
        transaction.phase = .activeCheckpoint) := by
  have hrun : lastMove (checked sampleParameters restartIsFirst) installed
      (runs 0 (.begin (sampleTemplate (some true))) begins ++
        runs 1 .runOnce (each [.go, done, yes, done, found .notFound, done, yes, .go, done]) ++
        [.resume 1]) (.step 1 rejects) (fun P _ => startIssued P (.step 1 rejects)) =
      some (some ⟨some true, 2, .startPending⟩) := by decide +kernel
  obtain ⟨P, P', hr, hm, hP', hs⟩ := Reach.lastMove hrun
  obtain ⟨t, template, transaction, i, hi, -⟩ := of_startIssued hs
  exact ⟨P, P', t, template, transaction, i, hr, hP', hi,
    (start_not_from_cleanup sampleParameters sane_none hr hm hP').1 t template transaction
      i hi⟩

end Cleanup

/-- A dispatched start whose ticket was issued before a cancellation was stored
commits nothing after it that leaves the intent desired, at every generation. -/
theorem cancellation_beats_dispatched_start (params : AndroidParameters)
    {e₀ : Option AndroidRecoveryEnvelope}
    (h₀ : ∀ e, e₀ = some e → validateEnvelope params e = true)
    {P P' : Pool (androidSystem params)}
    (h : Reach (unconditioned (androidSystem params)) (Pool.idle (AndroidWorld.fresh e₀)) P)
    {m : Move (androidSystem params)} (hs : P.move m = some P') {t : ℕ} {ticket : DispatchTicket}
    {call : StoreCall} {i : Input}
    (hi : P.issued m = some (t, .commit (.dispatched ticket) call, i))
    (hcancelled : ticket.cancels < P.state.cancels)
    (hdesired : P'.state.record.intent.desiredActive = true) :
    P'.state.stored = P.state.stored := by
  have hf := fun t c i w (_ : unconditioned (androidSystem params) t c i w) =>
    @free_condition params t c i w
  have hm : Meets (unconditioned (androidSystem params)) P m := fun _ _ _ _ => trivial
  have hg := (reach_sound (fun e he => sane_of_valid (h₀ e he)) (h.mono hf)).issued
    (hm.mono hf) hs hi
  exact hg.commit ticket call rfl hcancelled hdesired

/-- A start that commits with `begin` under its ticket is not fenced: a cancellation
is stored after its ticket was found current, and the start makes the intent desired. -/
theorem ticketed_begin_overrides_cancellation :
    ¬ ∀ (P P' : Pool sampleSystem) (m : Move sampleSystem) t ticket call i,
      Reach (unconditioned sampleSystem) installed P → P.move m = some P' →
      P.issued m = some (t, Cmd.commit (.ticketed ticket) call, i) →
      ticket.cancels < P.state.cancels → P'.state.record.intent.desiredActive = true →
      P'.state.stored = P.state.stored := by
  intro h
  have hrun : lastMove (unconditioned sampleSystem) installed
      (runs 0 (.ticketedBegin (sampleTemplate none)) (each [done, .go, .go]) ++
        runs 1 (.cancelDispatched none) (each [.go, done]) ++
        (each [done, succeeds, done, .text "o"]).flatMap (segment 0) ++ [.resume 0])
      (.step 0 done) (fun P P' => (ticketIssued P (.step 0 done), P.state.cancels,
        P.state.record.intent.desiredActive, P'.state.record.intent.desiredActive)) =
      some (some (0, false), 1, false, true) := by decide +kernel
  obtain ⟨P, P', hr, -, hP', ho⟩ := Reach.lastMove hrun
  simp only [Prod.mk.injEq] at ho
  obtain ⟨his, hc, hb, ha⟩ := ho
  obtain ⟨t, ticket, call, i, ht, hi⟩ := of_ticketIssued his
  have hl : ticket.cancels < P.state.cancels := by
    rw [ht, hc]
    exact Nat.one_pos
  have hs := h P P' _ t ticket call i hr hP' hi hl ha
  simp only [AndroidWorld.record, hs] at ha
  rw [AndroidWorld.record, ha] at hb
  cases hb

/-- A dispatched start loses to a cancellation and to the start after it. -/
theorem cancellation_beats_dispatched_start_late :
    ∃ (P P' : Pool sampleSystem) (t : ℕ) (ticket : DispatchTicket) (call : StoreCall) (i : Input),
      Reach (unconditioned sampleSystem) installed P ∧ P.move (.step 0 done) = some P' ∧
      P.issued (.step 0 done) = some (t, .commit (.dispatched ticket) call, i) ∧
      ticket.cancels < P.state.cancels ∧ P'.state.record.intent.desiredActive = true ∧
      P'.state.stored = P.state.stored := by
  have hrun : lastMove (unconditioned sampleSystem) installed
      (runs 0 (.explicitStart (sampleTemplate none))
          (each [done, .go, .go, .go, yes, done, succeeds, .go, yes, done, .text "o"]) ++
        runs 1 (.cancel none) (each [done]) ++
        runs 2 (.begin (sampleTemplate none)) begins ++ [.resume 0])
      (.step 0 done) (fun P P' => (ticketIssued P (.step 0 done), P.state.cancels,
        P'.state.record.intent.desiredActive)) = some (some (0, true), 1, true) := by decide +kernel
  obtain ⟨P, P', hr, -, hP', ho⟩ := Reach.lastMove hrun
  simp only [Prod.mk.injEq] at ho
  obtain ⟨his, hc, ha⟩ := ho
  obtain ⟨t, ticket, call, i, ht, hi⟩ := of_ticketIssued his
  have hl : ticket.cancels < P.state.cancels := by
    rw [ht, hc]
    exact Nat.one_pos
  exact ⟨P, P', t, ticket, call, i, hr, hP', hi, hl, ha,
    cancellation_beats_dispatched_start sampleParameters nothing_stored hr hP' hi
      hl ha⟩

end NelomaiClient.AndroidGuarantees
