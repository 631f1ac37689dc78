import NelomaiClient.AuthSections

/-!
# What a section can do to the record

Every save of the broker is one of a few changes. `Change` lists them, each with
what the section has checked before it, and `change_of_run` says that there is no
other. The invariants of the broker are proved from this list.
-/

namespace NelomaiClient.AuthChanges

open Checked RuntimeRecord SwitchRecord AuthRecord AuthSections
open SwitchCoordinator (BrokerError TransitionSource FrozenReconcileRequest RuntimeSwitchState
  SupersedeResponse ResumeArguments)

section Checks

variable {auth : AuthStore}

variable {α : Type} {record : AuthStore}

@[simp]
lemma reads_eq_ok : reads a = .ok d ↔ (a, none) = d := by
  simp [reads]

@[simp]
lemma saves_eq_ok : saves a record = .ok d ↔ (a, some ⟨record, false⟩) = d := by
  simp [saves]

@[simp]
lemma savesTransition_eq_ok :
    savesTransition a record = .ok d ↔ (a, some ⟨record, true⟩) = d := by
  simp [savesTransition]

@[simp]
lemma active_eq_ok : active auth = .ok u ↔
    auth.logoutState = .active ∧ auth.broker.authenticationOutcomeUnknown = false := by
  simp [active]

lemma ownsTicket_iff :
    ownsTicket auth ticket = true ↔
      auth.authEpoch = ticket.authEpoch ∧ auth.logoutState = .active ∧
      auth.confirmedIdentity = ticket.sourceIdentity ∧ auth.broker.nextAttempt = ticket.attempt ∧
      auth.broker.confirmedDeviceId = ticket.sourceDeviceId ∧
      auth.broker.pendingRequest = some ticket := by
  simp [ownsTicket, and_assoc]

@[simp]
lemma fenced_eq_ok :
    fenced auth ticket = .ok u ↔
      (auth.logoutState = .active ∧ auth.broker.authenticationOutcomeUnknown = false) ∧ ownsTicket
      auth ticket = true := by
  simp [fenced]

structure Begun (auth : AuthStore) (kind : BrokerRequestKind) (resume : Option StoredResumeArguments)
    (begun : BrokerRequest × AuthStore) : Prop where
  active : auth.logoutState = .active
  kind : begun.1.kind = kind
  epoch : begun.1.authEpoch = auth.authEpoch
  identity : begun.1.sourceIdentity = auth.confirmedIdentity
  device : begun.1.sourceDeviceId = auth.broker.confirmedDeviceId
  resume : begun.1.resume = resume
  record : begun.2 = { auth with broker :=
    { auth.broker with nextAttempt := begun.1.attempt, pendingRequest := some begun.1 } }

lemma begun_of_begin
    (h : beginWithRefresh p auth kind operationId resume prior recoverable = .ok begun) :
    Begun auth kind resume begun := by
  simp only [beginWithRefresh, bind_eq_ok, active_eq_ok, present_eq_ok, pure_eq_ok] at h
  obtain ⟨_, ha, _, _, rfl⟩ := h
  exact ⟨ha.1, rfl, rfl, rfl, rfl, rfl, rfl⟩

lemma active_of_transitionSource
    (h : transitionSource p auth = .ok source) : auth.logoutState = .active := by
  simp only [transitionSource, bind_eq_ok, active_eq_ok] at h
  obtain ⟨_, ha, _⟩ := h
  exact ha.1

end Checks

structure Steady (auth auth' : AuthStore) : Prop where
  access : auth'.accessToken = auth.accessToken
  refresh : auth'.refreshToken = auth.refreshToken
  generation : auth'.sessionGeneration = auth.sessionGeneration
  identity : auth'.confirmedIdentity = auth.confirmedIdentity
  family : auth'.broker.family = auth.broker.family
  epoch : auth'.authEpoch = auth.authEpoch
  state : auth'.logoutState = auth.logoutState
  pending : auth'.broker.pendingRequest = auth.broker.pendingRequest
  device : auth'.broker.confirmedDeviceId = auth.broker.confirmedDeviceId
  receipt : auth'.completedRuntimeLogout = auth.completedRuntimeLogout

/-- What an authority keeps for good: its operation and its scope, and whether it is resolved. -/
structure Kindred (authority authority' : TransitionAuthority) : Prop where
  id : authority'.reconcileOperationId = authority.reconcileOperationId
  epoch : authority'.sourceAuthEpoch = authority.sourceAuthEpoch
  family : authority'.sourceFamily = authority.sourceFamily
  identity : authority'.sourceIdentity = authority.sourceIdentity
  device : authority'.sourceDeviceId = authority.sourceDeviceId
  generation : authority'.expectedSessionGeneration = authority.expectedSessionGeneration
  evidence : authority'.resumeEvidence = none → authority.resumeEvidence = none
  superseded : authority'.supersededBy = none → authority.supersededBy = none

lemma Kindred.rfl : Kindred authority authority :=
  ⟨Eq.refl _, Eq.refl _, Eq.refl _, Eq.refl _, Eq.refl _, Eq.refl _, fun h => h, fun h => h⟩

def Descends (auth auth' : AuthStore) : Prop :=
  ∃ change : TransitionAuthority → TransitionAuthority, (∀ authority, Kindred authority (change authority)) ∧
    auth'.broker.transitionAuthorities = auth.broker.transitionAuthorities.map change

lemma Descends.same (h : auth'.broker.transitionAuthorities = auth.broker.transitionAuthorities) :
    Descends auth auth' := ⟨id, fun _ => .rfl, by rw [h, List.map_id]⟩

lemma Descends.modify {id : String} {change : TransitionAuthority → TransitionAuthority}
    (hc : ∀ authority, Kindred authority (change authority))
    (h : auth'.broker.transitionAuthorities = (auth.modifyAuthority id change).broker.transitionAuthorities) :
    Descends auth auth' := by
  refine ⟨fun authority => if authority.reconcileOperationId = id then change authority else authority,
    fun authority => ?_, h⟩
  dsimp only
  split
  · exact hc authority
  · exact .rfl

structure Owner (auth : AuthStore) (authority : TransitionAuthority) : Prop where
  scope : ownsScope auth authority = true
  evidence : authority.resumeEvidence = none
  superseded : authority.supersededBy = none

/-- New tokens of the same login; its ticket is gone, or a refresh of the new tokens. -/
structure Rotated (auth : AuthStore) (response : TokenResponse) (auth' : AuthStore) : Prop where
  bearer : response.bearer = true
  access : auth'.accessToken = some response.accessToken
  refresh : auth'.refreshToken = some response.refreshToken
  generation : auth'.sessionGeneration = auth.sessionGeneration
  identity : auth'.confirmedIdentity = auth.confirmedIdentity
  family : auth'.broker.family = auth.broker.family
  epoch : auth'.authEpoch = auth.authEpoch
  state : auth'.logoutState = auth.logoutState
  pending : ∀ ticket, auth'.broker.pendingRequest = some ticket → ticket.kind = .refresh
  device : auth'.broker.confirmedDeviceId = auth.broker.confirmedDeviceId ∨
    auth'.broker.confirmedDeviceId = some response.device.id ∧
      boundedText 256 response.device.id = true ∧
      auth.broker.confirmedDeviceId.all (· == response.device.id) = true
  receipt : auth'.completedRuntimeLogout = auth.completedRuntimeLogout
  authorities : Descends auth auth'

def upkeep : Section → Bool
  | .finishSupersede _ _ | .retireCompletedTransitions _ _ | .stagePushCleanup _
  | .finishPushCleanup _ | .finishRuntimeLogoutCleanup _ => true
  | _ => false

def granted : Section → Option TokenResponse
  | .legacyAccepted _ _ response | .boundAccepted _ _ response | .refreshAccepted _ response
  | .recoverAccepted _ response | .loginAnswered _ _ response
  | .acceptBackgroundRecovery _ response => some response
  | _ => none

def ticketed (auth : AuthStore) (ticket : BrokerRequest) : AuthStore :=
  { auth with broker :=
    { auth.broker with nextAttempt := ticket.attempt, pendingRequest := some ticket } }

def doubted (auth : AuthStore) : AuthStore :=
  { auth with broker := { auth.broker with authenticationOutcomeUnknown := true } }

inductive Change (auth : AuthStore) : Section → AuthStore → Prop
  | kept (steady : Steady auth auth')
      (authorities : auth'.broker.transitionAuthorities = auth.broker.transitionAuthorities)
      (time : auth.logoutState = .active ∨ upkeep c = true) : Change auth c auth'
  | captured (active : auth.logoutState = .active)
      (none : auth.broker.pendingRequest = none) (owner : Owner auth new)
      (allowed : ensureTransitionIssuanceAllowed auth (some new.reconcileOperationId) = .ok ()) :
      Change auth c ({ auth with pendingRuntimeSupersede := supersede }.pushAuthority new)
  | retired (none : auth.broker.pendingRequest = none) (time : upkeep c = true) :
      Change auth c { auth with broker := { auth.broker with
        transitionAuthorities := auth.broker.transitionAuthorities.filter keep } }
  | superseded {ticket : PendingRuntimeSupersede} {predecessor : FrozenReconcileRequest}
      {target : RuntimeTarget} {response : SupersedeResponse}
      (active : auth.logoutState = .active) (owner : Owner auth new) (clean : response.state = .clean) :
      Change auth (.supersedeAnswered ticket predecessor target response)
        ({ auth with pendingRuntimeSupersede := supersede }.modifyAuthority
          ticket.supersededReconcileOperationId
          (fun authority => { authority with supersededBy := some successor }) |>.pushAuthority new)
  | dispatched {frozen : FrozenReconcileRequest} {authority : TransitionAuthority}
      (found : auth.authority frozen.request.operationId = some authority)
      (unclean : authority.isClean = false) :
      Change auth (.dispatchBegin frozen)
        (auth.modifyAuthority frozen.request.operationId AuthSections.dispatched)
  | answered {frozen : FrozenReconcileRequest} {response : ReconcileResponse} :
      Change auth (.reconcileAnswered frozen response)
        (auth.modifyAuthority frozen.request.operationId (answered response))
  | failed {operationId : String} {state : TransitionDispatchState} :
      Change auth (.reconcileFailed operationId state)
        (auth.modifyAuthority operationId (failedDispatch state))
  | archived {arguments : ResumeArguments} {ticket : BrokerRequest} {response : ResumeResponse}
      {authority : TransitionAuthority}
      (found : auth.authority arguments.reconcileOperationId = some authority)
      (archive : authority.resumeTicket = some ticket) :
      Change auth (.historicalAccepted arguments ticket response)
        (auth.modifyAuthority arguments.reconcileOperationId fun authority =>
          { authority with resumeEvidence := some (evidenceOf arguments response) })
  | issued {c : Section} {ticket : BrokerRequest} (active : auth.logoutState = .active)
      (none : auth.broker.pendingRequest = none) (kind : ticket.kind ≠ .resume)
      (kind' : ticket.kind ≠ .login) :
      Change auth c (ticketed auth ticket)
  | resuming {operationId : String} {stored : StoredResumeArguments} {transition : Option String}
      {allowNew : Bool} {begun : BrokerRequest × AuthStore} (begin : Begun auth .resume (some stored) begun)
      (prior : ∀ pending, auth.broker.pendingRequest = some pending → pending.kind = .resume)
      (generation : stored.expectedSessionGeneration = auth.sessionGeneration) :
      Change auth (.resumeBegin operationId stored transition allowNew) (ticketed auth begun.1)
  | settled {c : Section} {ticket : BrokerRequest} {device : Option String}
      (active : auth.logoutState = .active) (owner : auth.broker.pendingRequest = some ticket)
      (section' : c = .bootstrapRejected ticket ∨ ∃ response, c = .bootstrapAccepted ticket response)
      (device' : device = auth.broker.confirmedDeviceId ∨
        ∃ id, device = some id ∧ boundedText 256 id = true ∧
          auth.broker.confirmedDeviceId.all (· == id) = true) :
      Change auth c { auth with broker :=
        { auth.broker with confirmedDeviceId := device, pendingRequest := none } }
  | rotated {c : Section} {response : TokenResponse} {auth' : AuthStore}
      (active : auth.logoutState = .active) (grant : granted c = some response)
      (rotation : Rotated auth response auth') : Change auth c auth'
  | keyed {ticket : BrokerRequest} (active : auth.logoutState = .active)
      (owner : auth.broker.pendingRequest = some ticket) (kind : ticket.kind = .refresh) :
      Change auth .recoverBegin
        { auth with broker := { auth.broker with pendingRequest := some (keyedTicket ticket) } }
  | resumed {ticket : BrokerRequest} {arguments : ResumeArguments} {transition : Option String}
      {response : ResumeResponse} {auth' : AuthStore} (active : auth.logoutState = .active)
      (owner : auth.broker.pendingRequest = some ticket)
      (refresh : auth'.refreshToken = auth.refreshToken) (epoch : auth'.authEpoch = auth.authEpoch)
      (state : auth'.logoutState = auth.logoutState) (pending : auth'.broker.pendingRequest = none)
      (device : auth'.broker.confirmedDeviceId = auth.broker.confirmedDeviceId)
      (family : auth'.broker.family = auth.broker.family)
      (generation : auth'.sessionGeneration = checkedSucc (arguments.expectedSessionGeneration.getD 0))
      (receipt : auth'.completedRuntimeLogout = auth.completedRuntimeLogout)
      (authorities : Descends auth auth')
      (identity : auth'.confirmedIdentity.bind (·.sessionGeneration) = auth'.sessionGeneration) :
      Change auth (.resumeAccepted ticket arguments transition response) auth'
  | entered {fence : LoginFence} {login : String} {ticket : BrokerRequest} {auth' : AuthStore}
      (kind : ticket.kind = .login) (pending : auth'.broker.pendingRequest = some ticket)
      (refresh : auth'.refreshToken = auth.refreshToken) (epoch : auth'.authEpoch = auth.authEpoch + 1)
      (device : auth'.broker.confirmedDeviceId = auth.broker.confirmedDeviceId)
      (receipt : auth'.completedRuntimeLogout = auth.completedRuntimeLogout)
      (authorities : auth'.broker.transitionAuthorities = auth.broker.transitionAuthorities) :
      Change auth (.loginBegin fence login) auth'
  | doubted (active : auth.logoutState = .active) : Change auth c (doubted auth)
  | rejected {auth' : AuthStore} (active : auth.logoutState = .active)
      (state : auth'.logoutState = .loggedOut) (pending : auth'.broker.pendingRequest = none)
      (refresh : auth'.refreshToken = auth.refreshToken) (epoch : auth'.authEpoch = auth.authEpoch)
      (device : auth'.broker.confirmedDeviceId = auth.broker.confirmedDeviceId)
      (family : auth'.broker.family = auth.broker.family)
      (generation : auth'.sessionGeneration = auth.sessionGeneration)
      (identity : auth'.confirmedIdentity = auth.confirmedIdentity)
      (receipt : auth'.completedRuntimeLogout = auth.completedRuntimeLogout)
      (authorities : auth'.broker.transitionAuthorities = auth.broker.transitionAuthorities) :
      Change auth c auth'
  | signedIn {ticket : BrokerRequest} {target : RuntimeTarget} {response : TokenResponse}
      {uuid : FreshUuid} {confirmed : RuntimeIdentity} (active : auth.logoutState = .active)
      (bearer : response.bearer = true) (owns : ownsTicket auth ticket = true)
      (sane : invalidLogin ticket target response = false)
      (confirm : response.device.confirmedIdentity = some confirmed) :
      Change auth (.loginAnswered ticket target response) (signedIn uuid auth response confirmed)
  | refused {c : Section} {uuid : FreshUuid} {proof : String} {epoch : ℕ}
      (active : auth.logoutState = .active) (next : checkedSucc auth.authEpoch = some epoch) :
      Change auth c (unwanted uuid { auth with authEpoch := epoch, logoutState := .pending } proof)
  | cancelled {ticket : BrokerRequest} {target : RuntimeTarget} {response : TokenResponse}
      {uuid : FreshUuid} (cancel : loginCancelled auth ticket = true) :
      Change auth (.loginAnswered ticket target response) (unwanted uuid auth response.refreshToken)
  | repeated {stamp : Option ScopeStamp} {login : Option BrokerRequest} {epoch : ℕ}
      (state : auth.logoutState = .loggedOut) (next : checkedSucc auth.authEpoch = some epoch) :
      Change auth (.logoutFence stamp login)
        { auth with
          authEpoch := epoch, broker := { auth.broker with
            pendingPushCleanupEpoch := auth.broker.pendingPushCleanupEpoch.map fun _ => epoch } }
  | left (active : auth.logoutState = .active)
      (never : neverAuthenticated auth = true) (next : checkedSucc auth.authEpoch = some epoch) :
      Change auth c { auth with authEpoch := epoch, logoutState := .loggedOut }
  | revoking (active : auth.logoutState = .active)
      (archived : archiveResume (cancelLogin auth) = .ok archive)
      (next : checkedSucc auth.authEpoch = some epoch) : Change auth c (loggingOut archive epoch proof)
  | finished (state : auth.logoutState = .pending) (own : auth.broker.pendingLogout = some proof) :
      Change auth (.logoutFinish epoch proof response) (loggedOut auth proof response)
  | cleaned (current : auth.completedRuntimeLogout = some receipt) :
      Change auth (.finishRuntimeLogoutCleanup receipt)
        { auth with completedRuntimeLogout := none, pendingRuntimeSupersede := supersede }

section Rules

variable {α β : Type} {Q : AuthStore → Prop} {x : Except BrokerError β}

/-- Whatever a section saves meets `Q`. -/
def Saves (Q : AuthStore → Prop) (x : Except BrokerError (Decided α)) : Prop :=
  ∀ a write, x = .ok (a, some write) → Q write.record

lemma Saves.error : Saves Q (.error e : Except BrokerError (Decided α)) := by
  intro a _ h
  cases h

lemma Saves.reads : Saves Q (reads a) := by
  intro a _ h
  cases h

lemma Saves.saves (h : Q record) : Saves Q (saves a record) := by
  rintro _ _ ⟨⟩
  exact h

lemma Saves.transition (h : Q record) : Saves Q (savesTransition a record) := by
  rintro _ _ ⟨⟩
  exact h

lemma Saves.bind (h : ∀ b, x = .ok b → Saves Q (f b)) : Saves Q (x >>= f) := by
  cases x with
  | error e => exact .error
  | ok b => exact h b rfl

lemma Saves.skip (h : ∀ b, Saves Q (f b)) : Saves Q (x >>= f) := .bind fun b _ => h b

lemma Saves.ensure (h : c = true → Saves Q (g ())) : Saves Q (Checked.ensure c e >>= g) :=
  .bind fun _ hc => h (ensure_eq_ok.mp hc)

lemma Saves.present (h : ∀ b, value = some b → Saves Q (f b)) :
    Saves Q (Checked.present value e >>= f) :=
  .bind fun b hb => h b (present_eq_ok.mp hb)

lemma Saves.active (h : auth.logoutState = .active → Saves Q (g ())) :
    Saves Q (active auth >>= g) :=
  .bind fun _ ha => h (active_eq_ok.mp ha).1

lemma Saves.fenced
    (h : auth.logoutState = .active → ownsTicket auth ticket = true → Saves Q (g ())) :
    Saves Q (fenced auth ticket >>= g) :=
  .bind fun _ hf => h (fenced_eq_ok.mp hf).1.1 (fenced_eq_ok.mp hf).2

lemma Saves.begun {f : BrokerRequest × AuthStore → Except BrokerError (Decided α)}
    (h : ∀ ticket, Begun auth kind resume (ticket, ticketed auth ticket) →
      Saves Q (f (ticket, ticketed auth ticket))) :
    Saves Q (beginWithRefresh p auth kind operationId resume prior recoverable >>= f) := by
  refine .bind fun begun hbe => ?_
  have hb := begun_of_begin hbe
  obtain ⟨ticket, record⟩ := begun
  obtain rfl : record = ticketed auth ticket := hb.record
  exact h ticket hb

lemma Begun.issued {k : BrokerRequestKind} (h : Begun auth k none (ticket, ticketed auth ticket))
    (hn : auth.broker.pendingRequest = none) (hk : k ≠ .resume ∧ k ≠ .login) :
    Change auth c (ticketed auth ticket) := by
  have hs : ticket.kind = k := h.kind
  exact .issued h.active hn (hs ▸ hk.1) (hs ▸ hk.2)

end Rules

section Transitions

lemma pending_of_owns (h : ownsTicket auth ticket = true) :
    auth.logoutState = .active ∧ auth.broker.pendingRequest = some ticket :=
  ⟨(ownsTicket_iff.mp h).2.1, (ownsTicket_iff.mp h).2.2.2.2.2⟩

lemma change_sourceBegin : Saves (Change auth .sourceBegin) (sourceBegin p uuid auth) := by
  refine .skip fun _ => .skip fun _ => ?_
  split
  · exact .skip fun _ => .skip fun _ => .reads
  · split
    · exact .skip fun _ => .skip fun _ => .reads
    · rename_i hn
      split
      · exact .begun fun _ hb => .saves (hb.issued hn (by decide))
      · exact .reads

lemma change_bootstrapRejected :
    Saves (Change auth (.bootstrapRejected ticket)) (bootstrapRejected auth ticket) :=
  .fenced fun ha ho => .saves (.settled ha (pending_of_owns ho).2 (.inl rfl) (.inl rfl))

lemma bounded_of_validLegacyDevice (h : validLegacyDevice device expected = .ok u) :
    boundedText 256 device.id = true ∧ expected.all (· == device.id) = true := by
  simp only [validLegacyDevice, ensure_eq_ok, Bool.and_eq_true] at h
  exact h.1.1.1.1

lemma change_bootstrapAccepted :
    Saves (Change auth (.bootstrapAccepted ticket device)) (bootstrapAccepted p auth ticket device) :=
  .fenced fun ha ho => .bind fun _ hd =>
    .saves (.settled ha (pending_of_owns ho).2 (.inr ⟨device, rfl⟩)
      (.inr ⟨device.id, rfl, bounded_of_validLegacyDevice hd⟩))

lemma change_legacyBegin :
    Saves (Change auth (.legacyBegin allowed)) (legacyBegin p uuid auth allowed) := by
  refine .skip fun _ => .skip fun _ => .ensure fun hn => .skip fun _ => ?_
  simp only [Bool.and_eq_true, Option.isNone_iff_eq_none] at hn
  exact .begun fun _ hb => .saves (hb.issued hn.1.1.1 (by decide))

variable {authority : TransitionAuthority}

lemma rotated_legacy (hb : response.bearer = true)
    (hd : boundedText 256 response.device.id = true ∧
      auth.broker.confirmedDeviceId.all (· == response.device.id) = true)
    (ha : Descends auth { auth with broker := { auth.broker with transitionAuthorities := authorities } }) :
    Rotated auth response
      { legacyRotated auth response with broker :=
      { (legacyRotated auth response).broker with transitionAuthorities := authorities } } where
  bearer := hb
  access := rfl
  refresh := rfl
  generation := rfl
  identity := rfl
  family := rfl
  epoch := rfl
  state := rfl
  pending _ h := by cases h
  device := .inr ⟨rfl, hd⟩
  receipt := rfl
  authorities := ha

lemma kindred_reproved (authority : TransitionAuthority) :
    Kindred authority (reproved response legacy authority) :=
  ⟨rfl, rfl, rfl, rfl, rfl, rfl, fun h => h, fun h => h⟩

lemma change_legacyAccepted :
    Saves (Change auth (.legacyAccepted ticket allowed response))
      (legacyAccepted auth ticket allowed response) := by
  refine .fenced fun hac _ => .bind fun _ hd => .ensure fun ha => ?_
  have hb := bounded_of_validLegacyDevice hd
  simp only [Bool.and_eq_true] at ha
  split
  · refine .skip fun _ => .skip fun _ => .skip fun _ => .transition (.rotated hac rfl ?_)
    exact rotated_legacy ha.1.1 hb (.modify kindred_reproved rfl)
  · exact .saves (.rotated hac rfl (rotated_legacy ha.1.1 hb (.same rfl)))

lemma change_boundBegin :
    Saves (Change auth (.boundBegin operationId)) (boundBegin p uuid auth operationId) := by
  refine .skip fun _ => .skip fun _ => .bind fun _ hs => .skip fun _ => ?_
  simp only [matchCurrentTransitionSource, bind_eq_ok, ensure_eq_ok, Bool.and_eq_true,
    Option.isNone_iff_eq_none] at hs
  obtain ⟨_, _, hn⟩ := hs
  exact .begun fun _ hb => .saves (hb.issued hn.1.1.1.1 (by decide))

lemma rotated_rotated (hb : response.bearer = true)
    (ha : Descends auth { auth with broker :=
      { auth.broker with transitionAuthorities := authorities } }) :
    Rotated auth response { rotated auth response with broker :=
      { (rotated auth response).broker with
        pendingRecovery := recovery
        transitionAuthorities := authorities } } where
  bearer := hb
  access := rfl
  refresh := rfl
  generation := rfl
  identity := rfl
  family := rfl
  epoch := rfl
  state := rfl
  pending _ h := by cases h
  device := .inl rfl
  receipt := rfl
  authorities := ha

lemma change_boundAccepted :
    Saves (Change auth (.boundAccepted ticket operationId response))
      (boundAccepted auth ticket operationId response) := by
  refine .fenced fun hac _ => .skip fun _ => .ensure fun ha => ?_
  simp only [Bool.and_eq_true] at ha
  refine .skip fun _ => .skip fun _ => .skip fun _ => .transition (.rotated hac rfl ?_)
  exact rotated_rotated ha.1.1.2 (.modify kindred_reproved rfl)

lemma scope_of_transitionSource (h : AuthSections.transitionSource p auth = .ok source)
    (he : authority.sourceAuthEpoch = source.authEpoch)
    (hf : authority.sourceFamily = source.family)
    (hi : authority.sourceIdentity = source.identity)
    (hd : authority.sourceDeviceId = source.deviceId)
    (hg : authority.expectedSessionGeneration = source.expectedSessionGeneration) :
    ownsScope auth authority = true := by
  simp only [AuthSections.transitionSource, bind_eq_ok, present_eq_ok, pure_eq_ok] at h
  obtain ⟨_, _, _, hid, _, _, rfl⟩ := h
  simp [ownsScope, he, hf, hi, hd, hg, hid]

lemma captured_of_capture (h : captureTransitionAuthority p auth frozen = .ok record) :
    auth.logoutState = .active ∧ auth.broker.pendingRequest = none ∧ ∃ new, record =
      auth.pushAuthority new ∧ Owner auth new ∧ ensureTransitionIssuanceAllowed auth
      (some new.reconcileOperationId) = .ok () := by
  simp only [captureTransitionAuthority, bind_eq_ok, active_eq_ok, ensure_eq_ok, pure_eq_ok,
    Bool.and_eq_true, Option.isNone_iff_eq_none] at h
  obtain ⟨_, hac, _, ha, _, hn, source, hs, _, _, _, _, access, _, refresh, _, rfl⟩ := h
  have hsc : ownsScope auth (newAuthority p source frozen access refresh) = true :=
    scope_of_transitionSource hs rfl rfl rfl rfl rfl
  exact ⟨hac.1, hn.1.1.1.1, _, rfl, ⟨hsc, rfl, rfl⟩, ha⟩

lemma change_captureOrReceipt :
    Saves (Change auth (.captureOrReceipt frozen)) (captureOrReceipt p auth frozen) := by
  unfold captureOrReceipt
  split
  · exact .skip fun _ => .reads
  · refine .bind fun _ hc => .transition ?_
    obtain ⟨hac, hn, _, rfl, ho, ha⟩ := captured_of_capture hc
    exact .captured hac hn ho ha

lemma unclean_of_retry
    (h : (authority.reconcileReceipt.all fun receipt => decide (receipt.state = .retry)) = true) :
    authority.isClean = false := by
  unfold TransitionAuthority.isClean
  cases hr : authority.reconcileReceipt with
  | none => rfl
  | some =>
    simp only [hr, Option.all_some, decide_eq_true_eq] at h
    simp [h]

lemma saves_dispatchBegin {Q : AuthStore → Prop}
    (h : ∀ authority, auth.authority frozen.request.operationId = some authority →
      authority.isClean = false → Q (auth.modifyAuthority frozen.request.operationId dispatched)) :
    Saves Q (dispatchBegin p auth frozen) := by
  refine .present fun authority ha => .skip fun _ => ?_
  split
  · exact .skip fun _ => .skip fun _ => .skip fun _ => .reads
  · dsimp only
    split
    · exact .skip fun _ => .ensure fun hr => .transition (h authority ha (unclean_of_retry hr))
    · exact .ensure fun hr => .transition (h authority ha (unclean_of_retry hr))

lemma saves_reconcileAnswered
    (h : Q (auth.modifyAuthority frozen.request.operationId (answered response))) :
    Saves Q (reconcileAnswered p auth frozen response) :=
  .skip fun _ => .skip fun _ => .transition h

lemma saves_reconcileFailed (h : Q (auth.modifyAuthority operationId (failedDispatch state))) :
    Saves Q (reconcileFailed auth operationId state) :=
  .skip fun _ => .transition h

lemma change_prepareCompletedApplyReconcile {legacy : Option (String × RuntimeTarget)} :
    Saves (Change auth (.prepareCompletedApplyReconcile predecessor resumeOperationId target legacy))
      (prepareCompletedApplyReconcile p uuid auth predecessor resumeOperationId target legacy) := by
  refine .bind fun _ hs => .skip fun _ => .skip fun _ => .skip fun _ => .skip fun _ => ?_
  refine .ensure fun hc => .skip fun _ => .skip fun _ => ?_
  have ha := active_of_transitionSource hs
  simp only [Bool.and_eq_true, Option.isNone_iff_eq_none] at hc
  have hn : auth.broker.pendingRequest = none := hc.1.1.1.1.2
  split
  · refine .skip fun _ => .bind fun record hca => .transition ?_
    obtain ⟨_, _, _, rfl, ho, hal⟩ := captured_of_capture hca
    exact .captured ha hn ⟨ho.scope, ho.evidence, ho.superseded⟩ hal
  · refine .skip fun _ => .skip fun _ => .skip fun _ => .transition ?_
    exact .kept ⟨rfl, rfl, rfl, rfl, rfl, rfl, rfl, rfl, rfl, rfl⟩ rfl (.inl ha)
  · exact .error

lemma change_supersedeBegin :
    Saves (Change auth (.supersedeBegin operationId predecessor target))
      (supersedeBegin p auth operationId predecessor target) := by
  refine .active fun ha => .skip fun _ => .skip fun _ => .skip fun _ => .skip fun _ => ?_
  refine .skip fun _ => .skip fun _ => ?_
  split
  · exact .transition (.kept ⟨rfl, rfl, rfl, rfl, rfl, rfl, rfl, rfl, rfl, rfl⟩ rfl (.inl ha))
  · refine .skip fun _ => ?_
    split
    · exact .reads
    · exact .transition (.kept ⟨rfl, rfl, rfl, rfl, rfl, rfl, rfl, rfl, rfl, rfl⟩ rfl (.inl ha))
    · exact .reads

lemma change_supersedeAnswered :
    Saves (Change auth (.supersedeAnswered ticket predecessor target response))
      (supersedeAnswered p auth ticket predecessor target response) := by
  refine .skip fun _ => .bind fun current hs => .skip fun _ => ?_
  have ha := active_of_transitionSource hs
  split
  · exact .transition (.kept ⟨rfl, rfl, rfl, rfl, rfl, rfl, rfl, rfl, rfl, rfl⟩ rfl (.inl ha))
  · rename_i hc
    refine .skip fun successor => .skip fun access => .skip fun _ => .skip fun _ => .skip fun _ => ?_
    have hsc :
        ownsScope auth (successorAuthority p current successor access ticket.refreshProof) = true :=
      scope_of_transitionSource hs rfl rfl rfl rfl rfl
    exact .transition (.superseded ha ⟨hsc, rfl, rfl⟩ hc)

lemma change_finishSupersede :
    Saves (Change auth (.finishSupersede operationId reconcileOperationId))
      (finishSupersede auth operationId reconcileOperationId) := by
  unfold finishSupersede
  split
  · exact .reads
  · exact .skip fun _ =>
      .transition (.kept ⟨rfl, rfl, rfl, rfl, rfl, rfl, rfl, rfl, rfl, rfl⟩ rfl (.inr rfl))

lemma change_retireCompletedTransitions :
    Saves (Change auth (.retireCompletedTransitions journalOperation activeReconcile))
      (retireCompletedTransitions auth journalOperation activeReconcile) := by
  unfold retireCompletedTransitions
  split
  · exact .reads
  · rename_i hp
    have hn : auth.broker.pendingRequest = none := by
      simp only [Bool.or_eq_true, not_or, Option.isSome_iff_ne_none, not_not] at hp
      exact hp.1.1.1.1
    dsimp only
    split
    · exact .reads
    · exact .transition (.retired hn rfl)

end Transitions

section Logins

lemma checkedSucc_eq_some (h : checkedSucc n = some m) : m = n + 1 := by
  unfold checkedSucc at h
  split at h
  · exact (Option.some.inj h).symm
  · cases h

lemma change_loginBegin :
    Saves (Change auth (.loginBegin fence login)) (loginBegin p uuid auth fence login) := by
  refine .skip fun _ => .skip fun _ => .skip fun _ => .skip fun _ => .present fun epoch he => ?_
  refine .begun fun _ hb => .saves ?_
  exact .entered hb.kind rfl rfl (checkedSucc_eq_some he) rfl rfl rfl

lemma change_loginFailed :
    Saves (Change auth (.loginFailed ticket knownNotIssued))
      (loginFailed auth ticket knownNotIssued) := by
  unfold loginFailed
  split
  · rename_i ho
    have ha := (pending_of_owns ho).1
    split
    · exact .saves (.rejected ha rfl rfl rfl rfl rfl rfl rfl rfl rfl rfl)
    · exact .saves (.doubted ha)
  · exact .reads

lemma bearer_of_valid (h : invalidLogin ticket target response = false) :
    response.bearer = true := by
  unfold invalidLogin at h
  split at h
  · cases h
  · simp only [Bool.or_eq_false_iff, Bool.not_eq_false'] at h
    exact h.1.1.1.2

lemma change_loginAnswered :
    Saves (Change auth (.loginAnswered ticket target response))
      (loginAnswered uuid auth ticket target response) := by
  refine .skip fun _ => ?_
  split
  · rename_i hu
    split
    · split
      · rename_i ho
        exact .saves (.doubted (pending_of_owns ho).1)
      · exact .error
    · split
      · rename_i ho
        exact .present fun _ he => .saves (.refused (pending_of_owns ho).1 he)
      · rename_i ho
        exact .saves (.cancelled (by simpa [ho] using hu))
  · rename_i hw
    refine .fenced fun ha ho => .present fun confirmed hc => .saves ?_
    have hv : invalidLogin ticket target response = false := by
      simp only [ho, Bool.true_and, Bool.or_eq_true, not_or, Bool.not_eq_true] at hw
      exact hw.2
    exact .signedIn ha (bearer_of_valid hv) ho hv hc

end Logins

section Refreshes

lemma change_accessBegin :
    Saves (Change auth (.accessBegin stamp stale)) (accessBegin p uuid auth stamp stale) := by
  refine .skip fun _ => .skip fun _ => .skip fun _ => .ensure fun hn => .skip fun _ => ?_
  simp only [Bool.and_eq_true, Option.isNone_iff_eq_none] at hn
  split
  · exact .reads
  · refine .skip fun _ => ?_
    split
    · exact .reads
    · exact .skip fun _ => .begun fun ticket hb => .saves (hb.issued hn.1 (by decide))

lemma change_refreshAccepted :
    Saves (Change auth (.refreshAccepted ticket response)) (refreshAccepted auth ticket response) := by
  refine .fenced fun hac _ => .skip fun _ => .ensure fun ha => ?_
  simp only [Bool.and_eq_true] at ha
  exact .saves (.rotated hac rfl (rotated_rotated ha.1.2 (.same rfl)))

lemma change_recoverBegin : Saves (Change auth .recoverBegin) (recoverBegin auth) := by
  unfold recoverBegin
  split
  · exact .reads
  · rename_i ticket hp
    split
    · exact .reads
    · rename_i hk
      refine .active fun ha => .skip fun _ => .skip fun _ => .skip fun _ => ?_
      split
      · exact .saves (.keyed ha hp (not_not.mp hk))
      · exact .reads

lemma change_recoverAccepted :
    Saves (Change auth (.recoverAccepted request response))
      (recoverAccepted p uuid auth request response) := by
  refine .fenced fun ha _ => ?_
  split
  · exact .reads
  · rename_i hf
    have hb : response.bearer = true := by
      simp only [Bool.or_eq_true, not_or, Bool.not_eq_true, Bool.not_eq_false'] at hf
      exact hf.1.2
    split
    · refine .begun fun _ hbe => .saves (.rotated ha rfl
        ⟨hb, rfl, rfl, rfl, rfl, rfl, rfl, rfl, ?_, .inl rfl, rfl, .same rfl⟩)
      rintro _ ⟨⟩
      exact hbe.kind
    · exact .saves (.rotated ha rfl (rotated_rotated hb (.same rfl)))

end Refreshes

section Resumes

lemma change_resumeBegin :
    Saves (Change auth (.resumeBegin operationId stored transition allowNew))
      (resumeBegin p auth operationId stored transition allowNew) := by
  refine .skip fun _ => .skip fun _ => ?_
  split
  · exact .skip fun _ => .skip fun _ => .skip fun _ => .reads
  · refine .ensure fun hg => ?_
    have hs := (decide_eq_true_iff.mp hg).symm
    split
    · rename_i pending hp
      refine .ensure fun hpr => .skip fun _ => .begun fun ticket hb => .saves ?_
      simp only [Bool.and_eq_true, decide_eq_true_eq] at hpr
      refine .resuming hb (fun other ho => ?_) hs
      obtain rfl : pending = other := Option.some.inj (hp.symm.trans ho)
      exact hpr.1.1.1.1
    · rename_i hn
      refine .skip fun _ => .skip fun _ => .begun fun ticket hb => .saves ?_
      refine .resuming hb (fun other ho => ?_) hs
      rw [hn] at ho
      cases ho

lemma change_resumeAccepted :
    Saves (Change auth (.resumeAccepted ticket arguments transition response))
      (resumeAccepted auth ticket arguments transition response) := by
  refine .fenced fun ha ho => .bind fun _ hf => ?_
  have hp := (pending_of_owns ho).2
  have hg : response.identity.sessionGeneration =
      checkedSucc (arguments.expectedSessionGeneration.getD 0) := by
    simp only [resumeFits, bind_eq_ok, present_eq_ok, ensure_eq_ok, Bool.and_eq_true,
      decide_eq_true_eq] at hf
    obtain ⟨_, hn, hf⟩ := hf
    exact hf.1.1.1.2.trans hn.symm
  split
  · exact .saves (.resumed ha hp rfl rfl rfl rfl rfl rfl hg rfl (.same rfl) rfl)
  · refine .skip fun _ => .skip fun _ => .transition
      (.resumed ha hp rfl rfl rfl rfl rfl rfl hg rfl (.modify ?_ rfl) rfl)
    exact fun _ => ⟨rfl, rfl, rfl, rfl, rfl, rfl, (fun h => by cases h), fun h => h⟩

lemma saves_transitionLookup : Saves Q (transitionLookup auth arguments) := by
  refine .skip fun _ => .skip fun _ => .skip fun _ => .skip fun _ => .skip fun _ => ?_
  split
  · refine .skip fun _ => ?_
    split
    · exact .skip fun _ => .reads
    · exact .reads
  · split
    · exact .reads
    · exact .skip fun _ => .skip fun _ => .skip fun _ => .reads

lemma saves_historicalAccepted
    (h : ∀ authority, auth.authority arguments.reconcileOperationId = some authority →
      authority.resumeTicket = some ticket →
      Q (auth.modifyAuthority arguments.reconcileOperationId fun authority =>
        { authority with resumeEvidence := some (evidenceOf arguments response) })) :
    Saves Q (historicalAccepted auth arguments ticket response) := by
  refine .bind fun _ ha => .skip fun _ => .transition ?_
  simp only [archivedTicket, bind_eq_ok, present_eq_ok, ensure_eq_ok, Bool.and_eq_true,
    decide_eq_true_eq] at ha
  obtain ⟨authority, hau, ht⟩ := ha
  exact h authority hau ht.1

end Resumes

section Logouts

lemma change_stagePushCleanup :
    Saves (Change auth (.stagePushCleanup epoch)) (stagePushCleanup auth epoch) :=
  .skip fun _ => .saves (.kept ⟨rfl, rfl, rfl, rfl, rfl, rfl, rfl, rfl, rfl, rfl⟩ rfl (.inr rfl))

lemma change_finishPushCleanup :
    Saves (Change auth (.finishPushCleanup epoch)) (finishPushCleanup auth epoch) := by
  unfold finishPushCleanup
  split
  · exact .reads
  · exact .skip fun _ =>
      .saves (.kept ⟨rfl, rfl, rfl, rfl, rfl, rfl, rfl, rfl, rfl, rfl⟩ rfl (.inr rfl))

lemma change_logoutFence :
    Saves (Change auth (.logoutFence stamp login)) (logoutFence p uuid auth stamp login) := by
  refine .skip fun _ => ?_
  split
  · rename_i hs
    exact .present fun epoch he => .saves (.repeated hs he)
  · rename_i hs
    refine .present fun epoch he => ?_
    split
    · rename_i hn
      exact .saves (.left hs hn he)
    · exact .bind fun _ ha => .saves (.revoking hs ha he)
  · exact .reads

lemma change_logoutFinish :
    Saves (Change auth (.logoutFinish epoch proof response))
      (logoutFinish auth epoch proof response) := by
  unfold logoutFinish
  split
  · exact .reads
  · refine .ensure fun hc => ?_
    simp only [Bool.and_eq_true, decide_eq_true_eq] at hc
    exact .saves (.finished hc.1.2 hc.2)

lemma change_finishRuntimeLogoutCleanup :
    Saves (Change auth (.finishRuntimeLogoutCleanup receipt))
      (finishRuntimeLogoutCleanup auth receipt) := by
  unfold finishRuntimeLogoutCleanup
  split
  · exact .reads
  · rename_i current hc
    exact .ensure fun hs => .saves (.cleaned (decide_eq_true_iff.mp hs ▸ hc))

end Logouts

section Recoveries

lemma change_nativeBegin :
    Saves (Change auth (.nativeBegin fence recover)) (nativeBegin uuid auth fence recover) := by
  have hb : Saves (Change auth (.nativeBegin fence recover)) (do
      let begun ← beginNative uuid auth
      saves begun.1 begun.2) := by
    refine .bind fun begun hb => .saves ?_
    simp only [beginNative, bind_eq_ok, active_eq_ok, pure_eq_ok] at hb
    obtain ⟨_, ha, _, _, _, _, _, _, _, _, _, _, rfl⟩ := hb
    exact .kept ⟨rfl, rfl, rfl, rfl, rfl, rfl, rfl, rfl, rfl, rfl⟩ rfl (.inl ha.1)
  refine .skip fun _ => ?_
  split
  · exact .skip fun _ => .skip fun _ => hb
  · exact hb

lemma change_nativeEnded :
    Saves (Change auth (.nativeEnded ticket recover outcome))
      (nativeEnded auth ticket recover outcome) := by
  refine .active fun ha => .skip fun _ => ?_
  split
  · exact .saves (.kept ⟨rfl, rfl, rfl, rfl, rfl, rfl, rfl, rfl, rfl, rfl⟩ rfl (.inl ha))
  · exact .reads

lemma change_acceptBackgroundRecovery :
    Saves (Change auth (.acceptBackgroundRecovery ticket response))
      (acceptBackgroundRecovery auth ticket response) := by
  refine .active fun hac => .skip fun _ => .skip fun _ => .ensure fun ha => ?_
  simp only [Bool.and_eq_true] at ha
  exact .saves (.rotated hac rfl (rotated_rotated ha.1.2 (.same rfl)))

end Recoveries

lemma saves_change (c : Section) : Saves (Change auth c) (runSection p uuid auth c) := by
  cases c with
  | sourceBegin => exact change_sourceBegin
  | bootstrapRejected => exact change_bootstrapRejected
  | bootstrapAccepted => exact change_bootstrapAccepted
  | legacyBegin => exact change_legacyBegin
  | legacyAccepted => exact change_legacyAccepted
  | boundBegin => exact change_boundBegin
  | boundAccepted => exact change_boundAccepted
  | captureOrReceipt => exact change_captureOrReceipt
  | dispatchBegin => exact saves_dispatchBegin fun _ hf hu => .dispatched hf hu
  | reconcileAnswered => exact saves_reconcileAnswered .answered
  | reconcileFailed => exact saves_reconcileFailed .failed
  | prepareCompletedApplyReconcile => exact change_prepareCompletedApplyReconcile
  | supersedeBegin => exact change_supersedeBegin
  | supersedeAnswered => exact change_supersedeAnswered
  | finishSupersede => exact change_finishSupersede
  | retireCompletedTransitions => exact change_retireCompletedTransitions
  | loginBegin => exact change_loginBegin
  | loginFailed => exact change_loginFailed
  | loginAnswered => exact change_loginAnswered
  | accessBegin => exact change_accessBegin
  | refreshAccepted => exact change_refreshAccepted
  | recoverBegin => exact change_recoverBegin
  | recoverAccepted => exact change_recoverAccepted
  | resumeBegin => exact change_resumeBegin
  | resumeAccepted => exact change_resumeAccepted
  | historicalAccepted => exact saves_historicalAccepted fun _ hf ha => .archived hf ha
  | stagePushCleanup => exact change_stagePushCleanup
  | finishPushCleanup => exact change_finishPushCleanup
  | logoutFence => exact change_logoutFence
  | logoutFinish => exact change_logoutFinish
  | finishRuntimeLogoutCleanup => exact change_finishRuntimeLogoutCleanup
  | nativeBegin => exact change_nativeBegin
  | nativeEnded => exact change_nativeEnded
  | acceptBackgroundRecovery => exact change_acceptBackgroundRecovery
  | transitionLookup => exact saves_transitionLookup
  | sourceRead | matchSource | recheckTicket | captureLoginFence | stampCheck | snapshotRead
    | historicalCheck | logoutCleanupCheck =>
    exact .skip fun _ => .reads
  | resumeIsUndispatched =>
    exact .skip fun _ => .skip fun _ => .reads
  | restoreTransitionRequest | accessCheck =>
    exact .skip fun _ => .skip fun _ => .skip fun _ => .reads
  | afterRefresh =>
    exact .skip fun _ => .skip fun _ => .skip fun _ => .skip fun _ => .reads

lemma change_of_run
    (h : runSection p uuid auth c = .ok (a, some write)) : Change auth c write.record :=
  saves_change c a write h

end NelomaiClient.AuthChanges
