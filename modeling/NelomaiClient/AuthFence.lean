import NelomaiClient.AuthDiscipline
import NelomaiClient.SwitchClosure

/-!
# Late answers

A logout saves a higher epoch, and every operation that was under way then has a
ticket of an earlier one. Whatever such an operation does afterwards leaves the
login that has ended as it is. The argument needs one invariant: while the holder
of the issuance lock has a ticket and the login is active, the ticket is of the
current epoch, since only a login makes a record active again and a login holds
that lock without a ticket.
-/

namespace NelomaiClient.AuthFence

open AwaitPool AwaitRely
open RuntimeOwner SwitchRecord AuthRecord AuthSections AuthChanges AuthBroker
open AuthDiscipline
open SwitchClosure (plainDigest plainJson singleRuntime numberedUuid)
open SwitchCoordinator (BrokerError FrozenReconcileRequest ResumeArguments)

section Epochs

variable {p : Platform} {auth : AuthStore} {c : Section}

lemma epoch_of_change (h : Change auth c auth') :
    (auth'.authEpoch = auth.authEpoch ∧
        (auth'.logoutState = .active → auth.logoutState = .active)) ∨
      (auth'.logoutState ≠ .active ∧ auth.authEpoch ≤ auth'.authEpoch) ∨
      ∃ fence login, c = .loginBegin fence login ∧ auth'.authEpoch = auth.authEpoch + 1 := by
  cases h with
  | kept steady _ _ => exact .inl ⟨steady.epoch, fun h => steady.state ▸ h⟩
  | rotated active _ rotation => exact .inl ⟨rotation.epoch, fun _ => active⟩
  | resumed active _ _ epoch => exact .inl ⟨epoch, fun _ => active⟩
  | entered _ _ _ epoch => exact .inr (.inr ⟨_, _, rfl, epoch⟩)
  | rejected _ state _ _ epoch => exact .inr (.inl ⟨by simp [state], epoch.ge⟩)
  | @refused _ _ _ _ _ next =>
    have hn := checkedSucc_eq_some next
    exact .inr (.inl ⟨by simp [unwanted], by simp only [unwanted]; omega⟩)
  | @repeated _ _ _ state next =>
    have hn := checkedSucc_eq_some next
    exact .inr (.inl ⟨by simp [state], by dsimp only; omega⟩)
  | left _ _ next =>
    have hn := checkedSucc_eq_some next
    exact .inr (.inl ⟨by simp, by dsimp only; omega⟩)
  | revoking _ _ next =>
    have hn := checkedSucc_eq_some next
    exact .inr (.inl ⟨by simp [loggingOut], by simp only [loggingOut]; omega⟩)
  | finished _ _ => exact .inr (.inl ⟨by simp [loggedOut], le_rfl⟩)
  | _ => exact .inl ⟨rfl, fun h => h⟩

lemma epoch_le_of_change (h : Change auth c auth') : auth.authEpoch ≤ auth'.authEpoch := by
  rcases epoch_of_change h with ⟨he, _⟩ | ⟨_, hl⟩ | ⟨_, _, _, he⟩
  · exact he.ge
  · exact hl
  · omega

end Epochs

section Records

variable {p : Platform} {i : BrokerInput} {t : ℕ} {w w' : BrokerWorld}

lemma auth_of_exec (h : w.exec p i t c = some (r, w')) :
    w'.auth = w.auth ∨ ∃ s, c = .locked s ∧ Change w.auth s w'.auth := by
  cases executed h with
  | @locked s _ _ hs =>
    cases hs with
    | refused | read => exact .inl rfl
    | saved _ hr _ | late _ _ hr _ => exact .inr ⟨s, rfl, change_of_run hr⟩
  | _ => exact .inl rfl

lemma epoch_le_of_exec {c : BrokerCmd} {r : BrokerResp c} (h : w.exec p i t c = some (r, w')) :
    w.auth.authEpoch ≤ w'.auth.authEpoch := by
  rcases auth_of_exec h with hs | ⟨_, _, hc⟩
  · exact (congrArg AuthStore.authEpoch hs).ge
  · exact epoch_le_of_change hc

lemma reopened_epoch : w.reopened.auth.authEpoch = w.auth.authEpoch := by
  unfold BrokerWorld.reopened
  split
  · rfl
  · rfl

lemma epoch_le_of_reach {cond : StepCondition (brokerSystem p)} {P1 P2 : Pool (brokerSystem p)}
    (h : Reach cond P1 P2) : P1.state.auth.authEpoch ≤ P2.state.auth.authEpoch := by
  refine Reach.preserved
    (I := fun w : BrokerWorld => P1.state.auth.authEpoch ≤ w.auth.authEpoch) ?_ ?_ le_rfl h
  · intro t c i r w w' _ hl hs
    exact hl.trans (@epoch_le_of_exec p i t w w' c r hs)
  · intro w hl
    exact hl.trans (reopened_epoch).ge

end Records

section Tickets

variable {p : Platform} {i : BrokerInput} {t : ℕ} {w w' : BrokerWorld}

/-- A ticket that the holder of the lock has in an active login is of the current epoch. -/
def Fenced (w : BrokerWorld) : Prop :=
  ∀ t k, w.issuance = some t → (w.calls t).epoch = some k → w.auth.logoutState = .active →
    k = w.auth.authEpoch

lemma admitted_loginBegin {holds : Prop} {call : CallState} {fence : LoginFence} {login : String}
    (h : Admitted holds call (.loginBegin fence login)) : holds ∧ call.epoch = none := h

/-- A record that is replaced keeps the tickets of the others and of a call that has none. -/
lemma Fenced.store {c : Section} {record : AuthStore} (h : Fenced w)
    (had : Admitted (w.issuance = some t) (w.calls t) c) (hc : Change w.auth c record) :
    Fenced (w.store record) := by
  intro u k hh he ha
  have hol : w.auth.logoutState = .active → k = w.auth.authEpoch := h u k hh he
  rcases epoch_of_change hc with ⟨hs, hw⟩ | ⟨hen, _⟩ | ⟨_, _, rfl, _⟩
  · exact (hol (hw ha)).trans hs.symm
  · exact (hen ha).elim
  · obtain ⟨ho, hn⟩ := admitted_loginBegin had
    have hu : t = u := Option.some.inj (ho.symm.trans hh)
    subst hu
    rw [show (w.store record).calls t = w.calls t from rfl, hn] at he
    cases he

lemma Fenced.setCall {c : Section} {a : c.Answer} (h : Fenced w) :
    Fenced (w.setCall t ((w.calls t).after w.auth.authEpoch c a)) := by
  intro u k hh he ha
  by_cases hu : u = t
  · subst hu
    have he : (if Section.issues c a then some w.auth.authEpoch else (w.calls u).epoch) = some k := by
      simpa [BrokerWorld.setCall, CallState.after] using he
    split at he
    · exact (Option.some.inj he).symm
    · exact h u k hh he ha
  · have he : (w.calls u).epoch = some k := by simpa [BrokerWorld.setCall, hu] using he
    exact h u k hh he ha

lemma Fenced.exec {c : BrokerCmd} {r : BrokerResp c} (h : Fenced w)
    (hd : Disciplined t c w) (hex : w.exec p i t c = some (r, w')) : Fenced w' := by
  cases executed hex with
  | @locked s _ _ hs =>
    cases hs with
    | refused => exact h
    | read _ _ => exact h.setCall
    | @saved _ a write _ hr _ => exact (h.store hd (change_of_run hr)).setCall
    | late _ _ hr _ => exact h.store hd (change_of_run hr)
  | entered =>
    intro u k hh he ha
    by_cases hu : u = t
    · simp [BrokerWorld.setCall, hu] at he
    · exact h u k hh (by simpa [BrokerWorld.setCall, hu] using he) ha
  | taken _ =>
    intro u k hh he _
    have hu : t = u := Option.some.inj hh
    simp [BrokerWorld.setCall, hu] at he
  | released _ =>
    intro u k hh _ _
    cases hh
  | spent =>
    intro u k hh he ha
    by_cases hu : u = t
    · subst hu
      exact h u k hh (by simpa [BrokerWorld.setCall] using he) ha
    · exact h u k hh (by simpa [BrokerWorld.setCall, hu] using he) ha
  | silent _ _ => exact h

lemma fenced_of_reach {cond : StepCondition (brokerSystem p)} {P : Pool (brokerSystem p)}
    (h : Reach cond (Pool.idle (.opened auth)) P) : Fenced P.state := by
  refine Reach.invariant ?_ ?_ ?_ (reach_disciplined h)
  · intro t c i r w w' hc hf hs
    exact @Fenced.exec p i t w w' c r hf hc.2 hs
  · intro w _ t k hh
    cases hh
  · intro t k hh
    cases hh

end Tickets

section Late

/-- What a command of an operation that was overtaken writes, with the data that it names itself. -/
inductive LateWrite (auth : AuthStore) : BrokerCmd → AuthStore → Prop
  | nothing {c : BrokerCmd} : LateWrite auth c auth
  /-- The request of its authority is about to be sent. -/
  | dispatched {frozen : FrozenReconcileRequest} :
      LateWrite auth (.locked (.dispatchBegin frozen))
        (auth.modifyAuthority frozen.request.operationId AuthSections.dispatched)
  /-- The receipt of its authority. -/
  | answered {frozen : FrozenReconcileRequest} {response : ReconcileResponse} :
      LateWrite auth (.locked (.reconcileAnswered frozen response))
        (auth.modifyAuthority frozen.request.operationId (AuthSections.answered response))
  | failed {operationId : String} {state : TransitionDispatchState} :
      LateWrite auth (.locked (.reconcileFailed operationId state))
        (auth.modifyAuthority operationId (failedDispatch state))
  /-- The evidence of a resume whose ticket its authority has in the archive. -/
  | evidence {arguments : ResumeArguments} {ticket : BrokerRequest} {response : ResumeResponse}
      {authority : TransitionAuthority}
      (hauthority : auth.authority arguments.reconcileOperationId = some authority)
      (hticket : authority.resumeTicket = some ticket) :
      LateWrite auth (.locked (.historicalAccepted arguments ticket response))
        (auth.modifyAuthority arguments.reconcileOperationId fun authority =>
          { authority with resumeEvidence := some (evidenceOf arguments response) })
  /-- The proof to revoke the cancelled login with. -/
  | revocation {ticket : BrokerRequest} {target : RuntimeTarget} {response : TokenResponse}
      {uuid : FreshUuid} (hcancelled : loginCancelled auth ticket = true) :
      LateWrite auth (.locked (.loginAnswered ticket target response))
        (unwanted uuid auth response.refreshToken)
  /-- The logout that a cancelled login ends with, when another one was first. -/
  | repeated {stamp : Option ScopeStamp} {login : Option BrokerRequest} {epoch : ℕ}
      (hstate : auth.logoutState = .loggedOut) (hnext : checkedSucc auth.authEpoch = some epoch) :
      LateWrite auth (.locked (.logoutFence stamp login))
        { auth with
          authEpoch := epoch, broker := { auth.broker with
            pendingPushCleanupEpoch := auth.broker.pendingPushCleanupEpoch.map fun _ => epoch } }
  /-- The end of that logout. -/
  | loggedOut {epoch : ℕ} {proof : PendingLogout} {response : LogoutResponse}
      (hstate : auth.logoutState = .pending) (hown : auth.broker.pendingLogout = some proof) :
      LateWrite auth (.locked (.logoutFinish epoch proof response)) (loggedOut auth proof response)

/-- Nothing of the login that ended comes back. -/
structure Ended (auth : AuthStore) (c : BrokerCmd) (auth' : AuthStore) : Prop where
  identity : auth'.confirmedIdentity = auth.confirmedIdentity
  generation : auth'.sessionGeneration = auth.sessionGeneration
  family : auth'.broker.family = auth.broker.family
  tokens : (∀ epoch proof response, c ≠ .locked (.logoutFinish epoch proof response)) →
    auth'.accessToken = auth.accessToken ∧ auth'.refreshToken = auth.refreshToken
  state : auth'.logoutState = .active → auth.logoutState = .active

lemma LateWrite.ended (h : LateWrite auth c auth') : Ended auth c auth' := by
  cases h with
  | loggedOut =>
    exact ⟨rfl, rfl, rfl, fun h => absurd rfl (h _ _ _), fun h => LogoutState.noConfusion h⟩
  | _ => exact ⟨rfl, rfl, rfl, fun _ => ⟨rfl, rfl⟩, fun h => h⟩

/-- The epoch that a section names by itself: of its authority or of its ticket. -/
def namedEpoch (auth : AuthStore) : BrokerCmd → Option ℕ
  | .locked (.dispatchBegin frozen) | .locked (.reconcileAnswered frozen _) =>
    (auth.authority frozen.request.operationId).map (·.sourceAuthEpoch)
  | .locked (.reconcileFailed operationId _) => (auth.authority operationId).map (·.sourceAuthEpoch)
  | .locked (.historicalAccepted _ ticket _) => some ticket.authEpoch
  | .locked (.acceptBackgroundRecovery ticket _) => some ticket.authEpoch
  | _ => none

/-- A command continues an operation whose ticket, authority or archived ticket is of epoch `k`. -/
def Continues (w : BrokerWorld) (t : ℕ) (c : BrokerCmd) (k : ℕ) : Prop :=
  (w.calls t).epoch = some k ∨ namedEpoch w.auth c = some k

variable {p : Platform} {i : BrokerInput} {t : ℕ} {w w' : BrokerWorld}

end Late

def desktop : Platform := ⟨plainJson, false, fun _ => true⟩

def signedInStore : AuthStore where
  installSecret := "secret"
  accessToken := some "access"
  refreshToken := some "refresh"
  sessionGeneration := some 1
  authEpoch := 1
  logoutState := .active
  confirmedIdentity := some (singleRuntime "1.0.0")
  pendingResume := none
  broker :=
    { family := "family"
      nextAttempt := 0
      pendingRequest := none
      completedResume := none
      pendingLogout := none
      pendingRecovery := none
      cancelledLogin := none
      authenticationOutcomeUnknown := false
      pendingLoginAccount := none
      confirmedDeviceId := some "device"
      pendingPushCleanupEpoch := none
      transitionAuthorities := [] }
  completedRuntimeLogout := none
  pendingRuntimeSupersede := none

def switchRequest : FrozenReconcileRequest :=
  ⟨⟨(numberedUuid 1).value, some (singleRuntime "1.0.0"), ⟨"1.0.0", "1.1.0", 1, .latest⟩, some 1, 1,
    [], [], []⟩, "device", plainDigest.value⟩

def plainReply : (q : Request) → q.Answer
  | .reconcile _ request => .ok ⟨.clean, request.operationId, [], [], [], none⟩
  | .legacyBootstrapDevice _ | .rotate _ | .recoverSwitch _ _ | .supersede _ _ | .login _ _
  | .resume _ _ => .error .timeout
  | .logout _ => .error .timeout
  | .native _ => .outcomeUnknown
  | .stopLocal | .prepareRevocation _ => .ok ()

def calm : BrokerInput := ⟨true, .done, numberedUuid 2, 0, false, plainReply⟩

def turn (p : Platform) (t steps : ℕ) : List (Move (brokerSystem p)) :=
  segment t (List.replicate steps (calm : (brokerSystem p).machine.Input))

def overtakenReconcile : List (Move (brokerSystem desktop)) :=
  .start (.reconcileTransition switchRequest) :: turn desktop 0 1 ++ turn desktop 0 2 ++
    turn desktop 0 2 ++ turn desktop 0 2 ++ turn desktop 0 2 ++
    .start (.logout none none) :: turn desktop 1 1 ++ turn desktop 1 3

def lateAnswer : List (Move (brokerSystem desktop)) := turn desktop 0 2 ++ turn desktop 0 1

/-- What the authorities of a record say about their requests and results. -/
def receipts (auth : AuthStore) : List (Bool × Bool) :=
  auth.broker.transitionAuthorities.map fun authority =>
    (authority.reconcileReceipt.isSome, authority.resumeEvidence.isSome)

lemma overtaken_run :
    ∃ (P1 P2 P3 : Pool (brokerSystem desktop)) (t : ℕ) (c : BrokerCmd) (i : BrokerInput),
      Reach (unconditioned (brokerSystem desktop)) (Pool.idle (BrokerWorld.opened signedInStore)) P1 ∧
      Reach (unconditioned (brokerSystem desktop)) P1 P2 ∧
      P2.issued (.step 0 calm) = some (t, c, i) ∧ P2.move (.step 0 calm) = some P3 ∧
      Continues P2.state t c 1 ∧
      (P1.state.auth.authEpoch, P1.state.auth.logoutState) = (2, .pending) ∧
      P3.state.auth.broker.pendingLogout = P2.state.auth.broker.pendingLogout ∧
      receipts P2.state.auth = [(false, false)] ∧ receipts P3.state.auth = [(true, false)] := by
  have hr :
      ((moves (unconditioned (brokerSystem desktop)) (Pool.idle (BrokerWorld.opened signedInStore))
        overtakenReconcile).bind fun P1 =>
        (moves (unconditioned (brokerSystem desktop)) P1 lateAnswer).bind fun P2 =>
          (P2.issued (.step 0 calm)).bind fun issued =>
            (P2.move (.step 0 calm)).map fun P3 =>
              ((P1.state.auth.authEpoch, P1.state.auth.logoutState),
                namedEpoch P2.state.auth issued.2.1,
                decide (P3.state.auth.broker.pendingLogout = P2.state.auth.broker.pendingLogout ∧
                  receipts P2.state.auth = [(false, false)] ∧
                  receipts P3.state.auth = [(true, false)]))) =
        some ((2, .pending), some 1, true) := by
    decide +kernel
  obtain ⟨P1, hP1, hr⟩ := Option.bind_eq_some_iff.mp hr
  obtain ⟨P2, hP2, hr⟩ := Option.bind_eq_some_iff.mp hr
  obtain ⟨⟨t, c, i⟩, hi, hr⟩ := Option.bind_eq_some_iff.mp hr
  obtain ⟨P3, hP3, hr⟩ := Option.map_eq_some_iff.mp hr
  simp only [Prod.mk.injEq, decide_eq_true_eq] at hr
  obtain ⟨⟨he, hs⟩, hn, hp, hb, ha⟩ := hr
  exact ⟨P1, P2, P3, t, c, i, Reach.moves _ .refl _ hP1, Reach.moves _ .refl _ hP2, hi, hP3,
    .inr hn, Prod.ext he hs, hp, hb, ha⟩

/-- A record with tokens in which the outcome of a login is unknown. -/
def doubtfulStore : AuthStore :=
  { signedInStore with broker :=
    { signedInStore.broker with
      authenticationOutcomeUnknown := true, pendingLoginAccount := some "user" } }

/-- The server grants a login without a runtime, and revokes it. -/
def misled : BrokerInput :=
  { calm with reply := fun
    | .login _ _ =>
      .ok ⟨"Bearer", "access", 60, "granted", 600, ⟨"device", none, none, none, none, none⟩⟩
    | .logout _ => .ok ⟨"already_inactive", none⟩
    | q => plainReply q }

def misledLogin : List (Move (brokerSystem desktop)) :=
  .start (.login none "user" ⟨"1.0.0", "1.0.0", 1, .latest⟩) ::
    [1, 2, 2, 3, 2, 2, 2, 3, 2, 2, 1].flatMap fun steps =>
      segment 0 (List.replicate steps (misled : (brokerSystem desktop).machine.Input))

/-- The tokens of an accepted record are cleared by a login of epoch 2 in a record of epoch 3: the
login calls a logout, and this is its end. -/
lemma nested_logout_clears_tokens :
    ∃ P P' : Pool (brokerSystem desktop),
      Reach (unconditioned (brokerSystem desktop)) (Pool.idle (BrokerWorld.opened doubtfulStore)) P ∧
      P.move (.step 0 misled) = some P' ∧ (P.state.calls 0).epoch = some 2 ∧
      P.state.auth.authEpoch = 3 ∧ P.state.auth.refreshToken = some "refresh" ∧
      P'.state.auth.refreshToken = none := by
  have hru : lastMove (unconditioned (brokerSystem desktop))
      (Pool.idle (BrokerWorld.opened doubtfulStore)) misledLogin (.step 0 misled) (fun P P' =>
        ((P.state.calls 0).epoch, P.state.auth.authEpoch, P.state.auth.refreshToken,
          P'.state.auth.refreshToken)) = some (some 2, 3, some "refresh", none) := by
    decide +kernel
  obtain ⟨P, P', hr, -, hP', ho⟩ := Reach.lastMove hru
  simp only [Prod.mk.injEq] at ho
  exact ⟨P, P', hr, hP', ho⟩

/-- Over every run the epoch never goes back, and while the login is active the ticket of a call
that holds the issuance lock is of the current epoch. -/
theorem epoch_fences_issuance {P Q : Pool (brokerSystem p)}
    (hP : Reach (unconditioned _) (Pool.idle (BrokerWorld.opened auth)) P)
    (hQ : Reach (unconditioned _) P Q) :
    P.state.auth.authEpoch ≤ Q.state.auth.authEpoch ∧
      ∀ t k, Q.state.issuance = some t → (Q.state.calls t).epoch = some k →
        Q.state.auth.logoutState = .active → k = Q.state.auth.authEpoch :=
  ⟨epoch_le_of_reach hQ, fenced_of_reach (hP.trans hQ)⟩

/-- A refresh under way: the call holds the lock and has a ticket. -/
def refreshBegun : List (Move (brokerSystem desktop)) :=
  .start (.accessToken none (some ⟨"access", singleRuntime "1.0.0", 1, "family"⟩)) ::
    [1, 2, 2, 2, 2].flatMap (turn desktop 0)

theorem epoch_fences_issuance_overtaken :
    (∃ P Q : Pool (brokerSystem desktop),
      P.state.auth.authEpoch = 2 ∧ 2 ≤ Q.state.auth.authEpoch) ∧
    ∃ Q : Pool (brokerSystem desktop),
      Q.state.issuance = some 0 ∧ (Q.state.calls 0).epoch = some 1 ∧
        Q.state.auth.logoutState = .active ∧ 1 = Q.state.auth.authEpoch := by
  constructor
  · obtain ⟨P, Q, _, _, _, _, hP, hQ, _, _, _, hen, _⟩ := overtaken_run
    have he : P.state.auth.authEpoch = 2 := (Prod.ext_iff.mp hen).1
    exact ⟨P, Q, he, he ▸ (epoch_fences_issuance hP hQ).1⟩
  · have hr : (moves (unconditioned (brokerSystem desktop))
        (Pool.idle (BrokerWorld.opened signedInStore)) refreshBegun).map (fun Q =>
          (Q.state.issuance, (Q.state.calls 0).epoch, Q.state.auth.logoutState)) =
        some (some 0, some 1, .active) := by
      decide +kernel
    obtain ⟨Q, hQ, ho⟩ := Reach.observed hr
    simp only [Prod.mk.injEq] at ho
    obtain ⟨hi, hc, ha⟩ := ho
    exact ⟨Q, hi, hc, ha, (epoch_fences_issuance .refl hQ).2 0 1 hi hc ha⟩

end NelomaiClient.AuthFence
