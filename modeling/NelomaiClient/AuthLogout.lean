import NelomaiClient.AuthFence
import NelomaiClient.AwaitTotal

/-!
# Ending a login

A logout archives a resume that is under way with its authority and raises the
epoch of the record. The new record is accepted when the ticket of the resume
fits a clean authority and the proof of the login is one that can be stored.
Both are invariants of the runs in which a resume begins only with such an
authority and the server grants tokens and devices of a size that a record can
hold.
-/

namespace NelomaiClient.AuthLogout

open Checked AwaitProgram AwaitPool AwaitRely AwaitFallible AwaitTotal
open RuntimeOwner SwitchRecord AuthRecord AuthSections AuthChanges AuthBroker
open AuthDiscipline AuthFence
open SwitchClosure (plainJson plainDigest numberedUuid singleRuntime)
open SwitchCoordinator (BrokerError FrozenReconcileRequest ResumeArguments TransitionSource)

section Raising

variable {auth auth' : AuthStore} {ticket : BrokerRequest} {authority : TransitionAuthority}

structure Raised (auth auth' : AuthStore) : Prop where
  epoch : auth.authEpoch ≤ auth'.authEpoch
  attempt : auth.broker.nextAttempt ≤ auth'.broker.nextAttempt

lemma ticket_raised (hr : Raised auth auth') (hk : ticket.kind.legacy = false)
    (h : passes (ticket.checks auth) = true) : passes (ticket.checks auth') = true := by
  simp only [BrokerRequest.checks, passes_append, passes_cons, passes_nil, Bool.and_eq_true,
    Bool.and_true, decide_eq_true_eq, hk, Bool.not_false, Bool.true_or] at h ⊢
  have he := hr.epoch
  have ha := hr.attempt
  refine ⟨⟨⟨⟨h.1.1.1.1, ⟨⟨h.1.1.1.2.1.1.1, h.1.1.1.2.1.1.2⟩, ?_⟩, ?_⟩, h.1.1.2⟩, h.1.2⟩, h.2⟩
  · exact h.1.1.1.2.1.2.trans ha
  · exact h.1.1.1.2.2.trans he

/-- The checks of an authority look at the fence only for the ticket that is archived with it. -/
lemma authority_raised (hra : Raised auth auth')
    (h : passes (authority.checks auth) = true) : passes (authority.checks auth') = true := by
  simp only [TransitionAuthority.checks, passes_append, Bool.and_eq_true] at h ⊢
  refine ⟨⟨h.1.1, ?_⟩, h.2⟩
  have ht := h.1.2
  cases hs : authority.resumeTicket with
  | none => rfl
  | some ticket =>
    simp only [hs, passes_whenSome_some, TransitionAuthority.ticketChecks, passes_append,
      passes_cons, passes_nil, Bool.and_eq_true, Bool.and_true] at ht ⊢
    have hk : ticket.kind = .resume := by
      have hr := ht.2.2.2
      simp only [TransitionAuthority.resumedBy, Bool.and_eq_true, decide_eq_true_eq] at hr
      exact hr.1.1.1.1
    have hri := ticket_raised hra (by simp [hk, BrokerRequestKind.legacy]) ht.1.2
    exact ⟨⟨ht.1.1, hri⟩, ht.2⟩

lemma authority_archived (hra : Raised auth auth')
    (h : passes (authority.checks auth) = true) (hc : authority.isClean = true)
    (hn : authority.resumeTicket = none) (hf : authority.resumedBy ticket = true)
    (hti : passes (ticket.checks auth) = true) :
    passes (TransitionAuthority.checks auth' { authority with resumeTicket := some ticket }) =
      true := by
  have hr := hf
  simp only [TransitionAuthority.resumedBy, Bool.and_eq_true, decide_eq_true_eq,
    Option.any_eq_true] at hr
  obtain ⟨⟨⟨⟨hk, _⟩, _⟩, _⟩, resume, hre, ⟨_, ht⟩, _⟩ := hr
  have hri : passes (ticket.checks auth') = true :=
    ticket_raised hra (by simp [hk, BrokerRequestKind.legacy]) hti
  simp only [TransitionAuthority.checks, passes_append, Bool.and_eq_true] at h ⊢
  -- A result without a ticket was not accepted.
  have he : authority.resumeEvidence = none := by
    cases hs : authority.resumeEvidence with
    | none => rfl
    | some =>
      have ho := h.2
      simp [hs, hn, TransitionAuthority.evidenceChecks] at ho
  refine ⟨⟨h.1.1, ?_⟩, by simp [he]⟩
  simp only [passes_whenSome_some, TransitionAuthority.ticketChecks, passes_append, passes_cons,
    passes_nil, Bool.and_eq_true, Bool.and_true]
  have hs : ticket.resume.all (fun resume =>
      (authority.resumeTarget resume.decision).isSome) = true := by
    rw [hre, Option.all_some, ← ht]
    rfl
  exact ⟨⟨hc, hri⟩, by simp [hre], hs, hf⟩

end Raising

section Collections

variable {auth auth' : AuthStore}

lemma passes_authorityChecks : passes auth.authorityChecks = true ↔
    (auth.broker.transitionAuthorities.length ≤ maxTransitionAuthorities ∧
      (auth.broker.transitionAuthorities.map (·.reconcileOperationId)).Nodup) ∧
    ∀ authority ∈ auth.broker.transitionAuthorities, passes (authority.checks auth) = true ∧
      authority.supersededBy.all (fun successor =>
        auth.broker.transitionAuthorities.any (·.follows authority successor)) = true := by
  simp only [AuthStore.authorityChecks, passes_append, passes_cons, passes_nil, Bool.and_true,
    Bool.and_eq_true, decide_eq_true_eq, passes_flatMap, List.all_eq_true]

lemma authority_unique (h : passes auth.authorityChecks = true)
    (ha : auth.authority operationId = some authority)
    (hin : other ∈ auth.broker.transitionAuthorities)
    (hi : other.reconcileOperationId = operationId) : other = authority := by
  have hd := (passes_authorityChecks.mp h).1.2
  have hs : other.reconcileOperationId = authority.reconcileOperationId :=
    hi.trans (AuthStore.authority_id ha).symm
  exact List.inj_on_of_nodup_map hd hin (AuthStore.authority_mem ha) hs

/-- Only the archived tickets change; nothing that one authority says about another does. -/
lemma authorities_kept
    (hm : auth'.broker.transitionAuthorities = auth.broker.transitionAuthorities.map f)
    (hf : ∀ authority, f authority = { authority with resumeTicket := (f authority).resumeTicket })
    (hc : ∀ authority ∈ auth.broker.transitionAuthorities, passes ((f authority).checks auth') = true)
    (h : passes auth.authorityChecks = true) : passes auth'.authorityChecks = true := by
  rw [passes_authorityChecks] at h ⊢
  obtain ⟨⟨hle, hd⟩, hal⟩ := h
  have hi : (fun authority : TransitionAuthority => (f authority).reconcileOperationId) =
      (·.reconcileOperationId) := by
    funext authority
    rw [hf authority]
  have hfo : ∀ candidate authority : TransitionAuthority, ∀ successor,
      (f candidate).follows (f authority) successor = candidate.follows authority successor := by
    intro candidate authority _
    rw [hf candidate, hf authority]
    rfl
  rw [hm]
  refine ⟨⟨by simpa using hle, ?_⟩, ?_⟩
  · rw [List.map_map]
    simpa [Function.comp_def, hi] using hd
  · intro _ hin
    obtain ⟨authority, ha, rfl⟩ := List.mem_map.mp hin
    refine ⟨hc authority ha, ?_⟩
    have hs : (f authority).supersededBy = authority.supersededBy := by
      rw [hf authority]
    rw [hs]
    have hl := (hal authority ha).2
    simpa [List.any_map, Function.comp_def, hfo] using hl

lemma authorities_raised (hr : Raised auth auth')
    (hs : auth'.broker.transitionAuthorities = auth.broker.transitionAuthorities)
    (h : passes auth.authorityChecks = true) : passes auth'.authorityChecks = true := by
  refine authorities_kept (f := id) (by simpa using hs) (fun _ => rfl) ?_ h
  intro authority hi
  exact authority_raised hr ((passes_authorityChecks.mp h).2 authority hi).1

end Collections

section Records

variable {p : Platform} {uuid : FreshUuid} {auth auth' : AuthStore}

structure Left (auth auth' : AuthStore) : Prop extends Raised auth auth' where
  secret : auth'.installSecret = auth.installSecret
  schema : auth'.schemaVersion = auth.schemaVersion
  generation : auth'.sessionGeneration = auth.sessionGeneration
  identity : auth'.confirmedIdentity = auth.confirmedIdentity
  receipt : auth'.completedRuntimeLogout = auth.completedRuntimeLogout
  supersede : auth'.pendingRuntimeSupersede = auth.pendingRuntimeSupersede
  old : auth'.pendingResume = auth.pendingResume
  family : auth'.broker.family = auth.broker.family
  account : auth'.broker.pendingLoginAccount = auth.broker.pendingLoginAccount
  push : auth'.broker.pendingPushCleanupEpoch = auth.broker.pendingPushCleanupEpoch
  completed : auth'.broker.completedResume = auth.broker.completedResume

lemma valid_of_left (hl : Left auth auth') (h : auth.valid = true)
    (hp : auth'.broker.pendingRequest = none)
    (hca : ∀ request, auth'.broker.cancelledLogin = some request →
      request.kind = .login ∧ passes (request.checks auth) = true)
    (hlo : ∀ logout, auth'.broker.pendingLogout = some logout →
      logout.operationId.isEmpty = false ∧ logout.refreshProof.isEmpty = false ∧
        logout.source.all validLogoutSource = true)
    (hre : auth'.broker.pendingRecovery = none ∨
      auth'.broker.pendingRecovery = auth.broker.pendingRecovery)
    (ha : passes auth'.authorityChecks = true) : auth'.valid = true := by
  have he := hl.epoch
  have hat := hl.attempt
  simp only [AuthStore.valid, AuthStore.checks, AuthStore.brokerChecks, passes_append, passes_cons,
    passes_nil, Bool.and_true, Bool.and_eq_true] at h ⊢
  obtain ⟨⟨⟨⟨⟨hsc, hi⟩, hrc⟩, hsu⟩, ho⟩, ⟨⟨⟨⟨⟨⟨hf, hac, hpu⟩, _⟩, _⟩, hc⟩, _⟩, ht⟩, _⟩ := h
  refine ⟨⟨⟨⟨⟨?_, ?_⟩, ?_⟩, ?_⟩, ?_⟩, ⟨⟨⟨⟨⟨⟨?_, ?_, ?_⟩, ?_⟩, ?_⟩, ?_⟩, ?_⟩, ?_⟩, ha⟩
  · rw [hl.schema, hl.secret, hl.generation]
    exact hsc
  · rw [hl.identity, hl.generation]
    exact hi
  · rw [hl.receipt]
    exact hrc
  · rw [hl.supersede]
    exact hsu
  · rw [hl.old]
    exact ho
  · rw [hl.family]
    exact hf
  · rw [hl.account]
    exact hac
  · rw [hl.push]
    cases hs : auth.broker.pendingPushCleanupEpoch with
    | none => rfl
    | some =>
      rw [hs, Option.all_some, decide_eq_true_eq] at hpu
      simpa using hpu.trans he
  · rw [hp]
    rfl
  · cases hs : auth'.broker.cancelledLogin with
    | none => rfl
    | some request =>
      obtain ⟨hk, hch⟩ := hca request hs
      have hr := ticket_raised hl.toRaised (by simp [hk, BrokerRequestKind.legacy]) hch
      simp [hk, hr]
  · rw [hl.completed]
    cases hs : auth.broker.completedResume with
    | none => rfl
    | some =>
      simp only [hs, passes_whenSome_some, passes_append, passes_cons, passes_nil, Bool.and_true,
        Bool.and_eq_true, decide_eq_true_eq] at hc ⊢
      have hk := hc.2.2.1
      have hr := ticket_raised hl.toRaised (by simp [hk, BrokerRequestKind.legacy]) hc.1
      exact ⟨hr, hc.2⟩
  · cases hs : auth'.broker.pendingLogout with
    | none => rfl
    | some logout =>
      obtain ⟨hid, hpr, hso⟩ := hlo logout hs
      simp [hid, hpr, hso]
  · rcases hre with hno | hsa
    · rw [hno]
      rfl
    · rw [hsa]
      cases hs : auth.broker.pendingRecovery with
      | none => rfl
      | some =>
        simp only [hs, passes_whenSome_some, RecoveryTicket.checks, passes_cons, passes_nil,
          Bool.and_true, Bool.and_eq_true, decide_eq_true_eq] at ht ⊢
        have hn := ht.2.1.2.trans hat
        have hag := ht.2.2.trans he
        exact ⟨ht.1, ⟨ht.2.1.1, hn⟩, hag⟩

structure Accepted (auth : AuthStore) : Prop where
  pending : ∀ request, auth.broker.pendingRequest = some request →
    passes (request.checks auth) = true
  cancelled : ∀ request, auth.broker.cancelledLogin = some request →
    request.kind = .login ∧ passes (request.checks auth) = true
  logout : ∀ logout, auth.broker.pendingLogout = some logout →
    logout.operationId.isEmpty = false ∧ logout.refreshProof.isEmpty = false ∧
      logout.source.all validLogoutSource = true
  family : boundedText 128 auth.broker.family = true
  identity : auth.confirmedIdentity.all (fun identity =>
    validIdentity identity && identity.sessionGeneration.isSome) = true
  authorities : passes auth.authorityChecks = true

lemma accepted_of_valid (h : auth.valid = true) : Accepted auth := by
  simp only [AuthStore.valid, AuthStore.checks, AuthStore.brokerChecks, passes_append, passes_cons,
    passes_nil, Bool.and_true, Bool.and_eq_true] at h
  obtain ⟨⟨⟨⟨⟨_, hi⟩, _⟩, _⟩, _⟩, ⟨⟨⟨⟨⟨⟨hf, _, _⟩, hp⟩, hc⟩, _⟩, hl⟩, _⟩, ha⟩ := h
  constructor
  · intro _ hr
    rw [hr] at hp
    exact hp
  · intro _ hr
    simp only [hr, passes_whenSome_some, passes_append, passes_cons, passes_nil,
      Bool.and_true, Bool.and_eq_true, decide_eq_true_eq] at hc
    exact ⟨hc.2, hc.1⟩
  · intro _ hs
    simp only [hs, passes_whenSome_some, passes_cons, passes_nil, Bool.and_true,
      Bool.and_eq_true, Bool.not_eq_true'] at hl
    exact ⟨hl.1.1, hl.1.2, hl.2⟩
  · exact hf
  · cases hs : auth.confirmedIdentity with
    | none => rfl
    | some =>
      simp only [hs, passes_whenSome_some, passes_cons, passes_nil, Bool.and_true,
        Bool.and_eq_true] at hi
      simp [hi.1, hi.2.1]
  · exact ha

end Records

section Ready

variable {p : Platform} {uuid : FreshUuid} {auth auth' : AuthStore} {ticket : BrokerRequest}

/-- A resume that can be archived: its authority is clean and has no ticket yet. -/
def Archivable (auth : AuthStore) (ticket : BrokerRequest) : Prop :=
  ∃ resume authority, ticket.resume = some resume ∧
    auth.authority resume.reconcileOperationId = some authority ∧ authority.isClean = true ∧
    authority.resumeTicket = none ∧ authority.resumedBy ticket = true

structure Ready (auth : AuthStore) : Prop where
  valid : auth.valid = true
  device : auth.broker.confirmedDeviceId.all (fun id => decide (id.utf8ByteSize ≤ 256)) = true
  token : ∀ token, auth.refreshToken = some token → token.isEmpty = false
  resumable : ∀ ticket, auth.broker.pendingRequest = some ticket → ticket.kind = .resume →
    Archivable auth ticket

lemma Ready.source (h : Ready auth) {source : TransitionSource}
    (hs : AuthSections.transitionSource p auth = .ok source) :
    validLogoutSource (logoutSource source) = true := by
  simp only [AuthSections.transitionSource, bind_eq_ok, present_eq_ok, ensure_eq_ok, Bool.and_eq_true,
    Bool.not_eq_true', pure_eq_ok] at hs
  obtain ⟨_, _, deviceId, hd, _, ⟨⟨hn, _⟩, _⟩, rfl⟩ := hs
  have ha := accepted_of_valid h.valid
  have hb := h.device
  rw [hd, Option.all_some] at hb
  have hf := (p.json.scopeDigest ⟨auth.authEpoch, auth.broker.family,
    auth.confirmedIdentity, some deviceId⟩).valid
  have hi : boundedText 256 deviceId = true := by
    rw [boundedText, hn, hb]
    rfl
  simp only [validLogoutSource, logoutSource, ha.identity, ha.family, hf, hi, Bool.and_self]

def revocation (p : Platform) (uuid : FreshUuid) (auth : AuthStore) : Option PendingLogout :=
  auth.refreshToken.map fun refresh =>
    ⟨uuid.value, refresh, (AuthSections.transitionSource p auth).toOption.map logoutSource⟩

lemma Ready.proof (h : Ready auth) {logout : PendingLogout}
    (hl : revocation p uuid auth = some logout) :
    logout.operationId.isEmpty = false ∧ logout.refreshProof.isEmpty = false ∧
      logout.source.all validLogoutSource = true := by
  obtain ⟨refresh, hr, rfl⟩ := Option.map_eq_some_iff.mp hl
  refine ⟨?_, h.token refresh hr, ?_⟩
  · have hc := uuid.canonical
    by_contra hempty
    have hv : uuid.value = "" := by simpa using hempty
    rw [hv] at hc
    exact absurd hc (by decide)
  · cases hs : AuthSections.transitionSource p auth with
    | error => rfl
    | ok => exact h.source hs

lemma Archivable.archive (h : Archivable auth ticket)
    (ht : auth.broker.pendingRequest = some ticket) (hk : ticket.kind = .resume)
    (hv : auth.valid = true) :
    ∃ archived, archiveResume auth = .ok archived ∧
      (∃ id change, archived = auth.modifyAuthority id change) ∧
      ∀ auth', Raised auth auth' →
        auth'.broker.transitionAuthorities = archived.broker.transitionAuthorities →
        passes auth'.authorityChecks = true := by
  have ha := accepted_of_valid hv
  obtain ⟨resume, authority, hre, hau, hcl, hn, hfi⟩ := h
  have hm := hfi
  simp only [TransitionAuthority.resumedBy, Bool.and_eq_true, beq_iff_eq, decide_eq_true_eq] at hm
  obtain ⟨⟨⟨⟨_, he⟩, hi⟩, hd⟩, _⟩ := hm
  refine ⟨auth.modifyAuthority resume.reconcileOperationId fun authority =>
    { authority with resumeTicket := some ticket }, ?_, ⟨_, _, rfl⟩, ?_⟩
  · have hf : auth.broker.pendingRequest.filter (fun ticket =>
        decide (ticket.kind = .resume)) = some ticket := by
      simp [ht, hk]
    rw [archiveResume, hf]
    simp [hre, hau, hn, he, hi, hd]
    rfl
  · intro _ hr hs
    refine authorities_kept hs ?_ ?_ ha.authorities
    · intro _
      split
      · rfl
      · rfl
    · intro other ho
      have hc := ((passes_authorityChecks.mp ha.authorities).2 other ho).1
      split
      · rename_i hid
        have hs := authority_unique ha.authorities hau ho hid
        subst hs
        exact authority_archived hr hc hcl hn hfi (ha.pending ticket ht)
      · exact authority_raised hr hc

/-- A login or a resume under way is put aside, and the record of the logout is accepted. -/
lemma Ready.archive (h : Ready auth) (he : checkedSucc auth.authEpoch = some epoch)
    {proof : Option PendingLogout}
    (hpr : ∀ logout, proof = some logout → logout.operationId.isEmpty = false ∧
      logout.refreshProof.isEmpty = false ∧ logout.source.all validLogoutSource = true) :
    ∃ archived, archiveResume (cancelLogin auth) = .ok archived ∧
      (loggingOut archived epoch proof).valid = true := by
  have ha := accepted_of_valid h.valid
  have hn := checkedSucc_eq_some he
  have hr : ∀ {base : AuthStore}, base.broker.nextAttempt = auth.broker.nextAttempt →
      Raised auth (loggingOut base epoch proof) :=
    fun hat => ⟨by simp only [loggingOut]; omega, hat.ge⟩
  by_cases hl : loginPending auth = true
  · -- The ticket of a login becomes the cancelled one.
    obtain ⟨request, hre, hk⟩ := (Option.any_eq_true _ _).mp hl
    have hc : cancelLogin auth = { auth with broker :=
        { auth.broker with
          cancelledLogin := auth.broker.pendingRequest, pendingRequest := none
          authenticationOutcomeUnknown := true } } := if_pos hl
    rw [hc]
    refine ⟨_, rfl, valid_of_left
      ⟨hr rfl, rfl, rfl, rfl, rfl, rfl, rfl, rfl, rfl, rfl, rfl, rfl⟩ h.valid rfl ?_ hpr
      (.inl rfl) (authorities_raised (hr rfl) rfl ha.authorities)⟩
    intro cancelled hca
    have hs : request = cancelled := Option.some.inj (hre.symm.trans hca)
    subst hs
    exact ⟨by simpa using hk, ha.pending request hre⟩
  · have hc : cancelLogin auth = auth := if_neg hl
    rw [hc]
    cases hp : auth.broker.pendingRequest.filter (fun ticket =>
        decide (ticket.kind = .resume)) with
    | none =>
      exact ⟨auth, by rw [archiveResume, hp]; rfl, valid_of_left
        ⟨hr rfl, rfl, rfl, rfl, rfl, rfl, rfl, rfl, rfl, rfl, rfl, rfl⟩ h.valid rfl
        ha.cancelled hpr (.inl rfl)
        (authorities_raised (hr rfl) rfl ha.authorities)⟩
    | some ticket =>
      obtain ⟨ht, hk⟩ := Option.filter_eq_some_iff.mp hp
      have hk : ticket.kind = .resume := by simpa using hk
      obtain ⟨_, har, ⟨_, _, rfl⟩, hau⟩ := (h.resumable ticket ht hk).archive ht hk h.valid
      exact ⟨_, har, valid_of_left
        ⟨hr rfl, rfl, rfl, rfl, rfl, rfl, rfl, rfl, rfl, rfl, rfl, rfl⟩ h.valid rfl
        ha.cancelled hpr (.inl rfl) (hau _ (hr rfl) rfl)⟩

lemma Ready.fence (h : Ready auth) (hac : auth.logoutState = .active)
    (hb : auth.authEpoch + 1 < 2 ^ 64) :
    ∃ a record, logoutFence p uuid auth none none = .ok (a, some ⟨record, false⟩) ∧
      record.valid = true ∧ record.authEpoch = auth.authEpoch + 1 ∧
      (record.logoutState = .pending ∨ record.logoutState = .loggedOut) ∧
      record.broker.pendingRequest = none := by
  have hne : checkedSucc auth.authEpoch = some (auth.authEpoch + 1) := if_pos hb
  by_cases hn : neverAuthenticated auth = true
  · have hf : logoutFence p uuid auth none none = saves .neverAuthenticated
        { auth with authEpoch := auth.authEpoch + 1, logoutState := .loggedOut } := by
      simp only [logoutFence, hac, hne, hn]
      rfl
    have hno : auth.broker.pendingRequest = none := by
      simp only [neverAuthenticated, Bool.and_eq_true, Option.isNone_iff_eq_none] at hn
      exact hn.1.2
    have hr : Raised auth
        { auth with authEpoch := auth.authEpoch + 1, logoutState := .loggedOut } :=
      ⟨Nat.le_succ _, le_rfl⟩
    have ha := accepted_of_valid h.valid
    refine ⟨_, _, hf, ?_, rfl, .inr rfl, hno⟩
    exact valid_of_left ⟨hr, rfl, rfl, rfl, rfl, rfl, rfl, rfl, rfl, rfl, rfl, rfl⟩ h.valid hno
      ha.cancelled ha.logout (.inr rfl)
      (authorities_raised hr rfl ha.authorities)
  · obtain ⟨archived, har, hv⟩ :=
      h.archive hne fun logout (hl : revocation p uuid auth = some logout) => h.proof hl
    have hf : logoutFence p uuid auth none none =
        saves (.revoke (auth.authEpoch + 1) (revocation p uuid auth))
          (loggingOut archived (auth.authEpoch + 1) (revocation p uuid auth)) := by
      simp only [logoutFence, hac, hne, hn, har]
      rfl
    exact ⟨_, _, hf, hv, rfl, .inl rfl, rfl⟩

end Ready

section Changes

variable {auth auth' : AuthStore} {c : Section} {ticket : BrokerRequest}

/-- What a logout puts aside is neither the device or the token of the login nor a receipt. -/
lemma archive_keeps (h : archiveResume (cancelLogin auth) = .ok archived) :
    archived.broker.confirmedDeviceId = auth.broker.confirmedDeviceId ∧ archived.refreshToken =
      auth.refreshToken ∧ archived.completedRuntimeLogout = auth.completedRuntimeLogout := by
  have hc : (cancelLogin auth).broker.confirmedDeviceId = auth.broker.confirmedDeviceId ∧
      (cancelLogin auth).refreshToken = auth.refreshToken ∧
      (cancelLogin auth).completedRuntimeLogout = auth.completedRuntimeLogout := by
    unfold cancelLogin
    split
    · exact ⟨rfl, rfl, rfl⟩
    · exact ⟨rfl, rfl, rfl⟩
  unfold archiveResume at h
  split at h
  · rw [← pure_eq_ok.mp h]
    exact hc
  · simp only [bind_eq_ok, pure_eq_ok] at h
    obtain ⟨_, _, _, _, _, _, rfl⟩ := h
    exact hc

def Sized (auth : AuthStore) : Prop :=
  auth.broker.confirmedDeviceId.all (fun id => decide (id.utf8ByteSize ≤ 256)) = true

lemma Sized.same (h : Sized auth)
    (hs : auth'.broker.confirmedDeviceId = auth.broker.confirmedDeviceId) : Sized auth' := by
  unfold Sized
  rw [hs]
  exact h

variable {id : String} {authority : TransitionAuthority} {write : Option Write}

lemma sized_of_bounded (hd : auth'.broker.confirmedDeviceId = some id)
    (hi : id.utf8ByteSize ≤ 256) : Sized auth' := by
  unfold Sized
  rw [hd]
  simpa using hi

lemma size_of_boundedText (h : boundedText 256 id = true) : id.utf8ByteSize ≤ 256 := by
  simp only [boundedText, Bool.and_eq_true, decide_eq_true_eq] at h
  exact h.2

lemma Sized.change (h : Sized auth) (hc : Change auth c auth')
    (hg : ∀ response, granted c = some response → response.device.id.utf8ByteSize ≤ 256) :
    Sized auth' := by
  cases hc with
  | kept steady _ _ => exact h.same steady.device
  | @settled _ _ device _ _ _ device' =>
    rcases device' with hs | ⟨_, hso, hi⟩
    · exact h.same hs
    · exact sized_of_bounded hso (size_of_boundedText hi.1)
  | @rotated _ response _ _ _ rotation =>
    rcases rotation.device with hs | ⟨hso, hi⟩
    · exact h.same hs
    · exact sized_of_bounded hso (size_of_boundedText hi.1)
  | resumed _ _ _ _ _ _ device | entered _ _ _ _ device | rejected _ _ _ _ _ device =>
    exact h.same device
  | @signedIn _ _ response => exact sized_of_bounded rfl (hg response rfl)
  | revoking _ archived _ => exact h.same (archive_keeps archived).1
  | _ => exact h.same rfl

lemma token_of_change (h : ∀ token, auth.refreshToken = some token → token.isEmpty = false)
    (hc : Change auth c auth') :
    ∀ token, auth'.refreshToken = some token → token.isEmpty = false := by
  have hg {response : TokenResponse} (hb : response.bearer = true)
      (hre : auth'.refreshToken = some response.refreshToken) :
      ∀ token, auth'.refreshToken = some token → token.isEmpty = false := by
    intro token ht
    simp only [TokenResponse.bearer, Bool.and_eq_true, Bool.not_eq_true'] at hb
    exact Option.some.inj (hre.symm.trans ht) ▸ hb.2
  have hs : auth'.refreshToken = auth.refreshToken →
      ∀ token, auth'.refreshToken = some token → token.isEmpty = false :=
    fun hs token ht => h token (hs ▸ ht)
  cases hc with
  | kept steady _ _ => exact hs steady.refresh
  | rotated _ _ rotation => exact hg rotation.bearer rotation.refresh
  | resumed _ _ refresh | entered _ _ refresh | rejected _ _ _ refresh => exact hs refresh
  | signedIn _ bearer => exact hg bearer rfl
  | revoking _ archived _ => exact hs (archive_keeps archived).2.1
  | finished _ _ =>
    intro _ ht
    cases ht
  | _ => exact hs rfl

lemma Archivable.same (h : Archivable auth ticket)
    (hs : auth'.broker.transitionAuthorities = auth.broker.transitionAuthorities) :
    Archivable auth' ticket := by
  obtain ⟨resume, authority, hr, ha, hre⟩ := h
  refine ⟨resume, authority, hr, ?_, hre⟩
  rw [AuthStore.authority, hs]
  exact ha

lemma Archivable.modify (h : Archivable auth ticket)
    (hna : ∀ authority, (change authority).reconcileOperationId = authority.reconcileOperationId)
    (ho : ∀ resume authority, ticket.resume = some resume →
      auth.authority resume.reconcileOperationId = some authority → authority.isClean = true →
      authority.resumeTicket = none → resume.reconcileOperationId ≠ id) :
    Archivable (auth.modifyAuthority id change) ticket := by
  obtain ⟨resume, authority, hr, ha, hc, hn, hf⟩ := h
  have hne := ho resume authority hr ha hc hn
  exact ⟨resume, authority, hr, (AuthStore.authority_modify_other hna hne).trans ha, hc, hn, hf⟩

lemma Archivable.supersede (h : Archivable auth ticket) :
    Archivable ((auth.modifyAuthority id
      fun authority => { authority with supersededBy := some successor }).pushAuthority new) ticket := by
  obtain ⟨resume, authority, hr, ha, hc, hn, hf⟩ := h
  by_cases hi : resume.reconcileOperationId = id
  · subst hi
    exact ⟨resume, { authority with supersededBy := some successor }, hr,
      AuthStore.authority_push (AuthStore.authority_modify_same (fun _ => rfl) ha), hc,
      hn, hf⟩
  · refine ⟨resume, authority, hr, AuthStore.authority_push ?_, hc, hn, hf⟩
    refine (AuthStore.authority_modify_other ?_ hi).trans ha
    exact fun _ => rfl

/-- A resume begins with a clean authority of the current login that has no ticket yet. -/
def reconciled (auth : AuthStore) (stored : StoredResumeArguments) : Bool :=
  (auth.authority stored.reconcileOperationId).any fun authority =>
    authority.isClean && authority.resumeTicket.isNone &&
      authority.sourceAuthEpoch == auth.authEpoch &&
      decide (authority.sourceIdentity = auth.confirmedIdentity) &&
      decide (auth.broker.confirmedDeviceId = some authority.sourceDeviceId) &&
      decide (some stored.target = authority.resumeTarget stored.decision) &&
      decide (stored.expectedSessionGeneration = authority.expectedSessionGeneration)

lemma archivable_of_reconciled
    (h : reconciled auth stored = true) (hb : Begun auth .resume (some stored) begun) :
    Archivable (ticketed auth begun.1) begun.1 := by
  obtain ⟨authority, ha, hf⟩ := (Option.any_eq_true _ _).mp h
  simp only [Bool.and_eq_true, Option.isNone_iff_eq_none, beq_iff_eq, decide_eq_true_eq] at hf
  obtain ⟨⟨⟨⟨⟨⟨hc, hno⟩, he⟩, hi⟩, hd⟩, ht⟩, hg⟩ := hf
  refine ⟨stored, authority, hb.resume, ha, hc, hno, ?_⟩
  have hn := AuthStore.authority_id ha
  simp [TransitionAuthority.resumedBy, hb.kind, hb.epoch, hb.identity, hb.device,
    hb.resume, he, hi, hd, ht, hg, hn]

def Spares (auth : AuthStore) (id : String) : Prop :=
  ∀ pending resume, auth.broker.pendingRequest = some pending → pending.kind = .resume →
    pending.resume = some resume → resume.reconcileOperationId ≠ id

lemma archivable_of_change (hch : Change auth c auth') (ha : Admitted holds call c)
    (hb : ∀ operationId stored transition allowNew,
      c = .resumeBegin operationId stored transition allowNew → reconciled auth stored = true)
    (hap : holds → ∀ id, call.reconciling = some id → Spares auth id)
    (hol : ∀ pending, auth.broker.pendingRequest = some pending → pending.kind = .resume →
      Archivable auth pending)
    (hp : auth'.broker.pendingRequest = some ticket) (hk : ticket.kind = .resume) :
    Archivable auth' ticket := by
  cases hch with
  | kept steady authorities _ =>
    exact (hol ticket (steady.pending ▸ hp) hk).same authorities
  | captured _ none | retired none =>
    rw [show auth.broker.pendingRequest = some ticket from hp] at none
    cases none
  | superseded => exact (hol ticket hp hk).same rfl |>.supersede
  | cleaned | doubted | repeated | left | finished => exact (hol ticket hp hk).same rfl
  | @dispatched frozen authority found unclean =>
    refine (hol ticket hp hk).modify (fun _ => rfl) ?_
    rintro _ other _ ho hc _ hi
    have hs : other = authority := Option.some.inj (ho.symm.trans (hi ▸ found))
    rw [hs, unclean] at hc
    cases hc
  | answered | failed =>
    exact (hol ticket hp hk).modify (fun _ => rfl) fun resume other hre _ _ _ =>
      hap ha.1 _ ha.2 ticket resume hp hk hre
  | @archived arguments saved response authority found archive =>
    refine (hol ticket hp hk).modify (fun _ => rfl) ?_
    rintro _ other _ ho _ hn hi
    have hs : other = authority := Option.some.inj (ho.symm.trans (hi ▸ found))
    rw [hs, archive] at hn
    cases hn
  | @issued _ other _ _ kind =>
    have hs : other = ticket := Option.some.inj hp
    exact (kind (hs ▸ hk)).elim
  | @resuming operationId stored transition allowNew begun begin _ =>
    have hs : begun.1 = ticket := Option.some.inj hp
    rw [← hs]
    exact archivable_of_reconciled (hb operationId stored transition allowNew rfl) begin
  | settled | signedIn | refused | cancelled | revoking => cases hp
  | rotated _ _ rotation =>
    have hr := rotation.pending ticket hp
    rw [hr] at hk
    cases hk
  | @keyed other _ _ kind =>
    have hs : keyedTicket other = ticket := Option.some.inj hp
    rw [← hs] at hk
    rw [show (keyedTicket other).kind = other.kind from rfl, kind] at hk
    cases hk
  | resumed _ _ _ _ _ pending | rejected _ _ pending =>
    rw [pending] at hp
    cases hp
  | @entered _ _ login _ kind pending =>
    have hs : login = ticket := Option.some.inj (pending.symm.trans hp)
    rw [← hs, kind] at hk
    cases hk

lemma pending_of_change (hc : Change auth c auth')
    (hp : auth'.broker.pendingRequest = some ticket) (hk : ticket.kind = .resume) :
    auth.broker.pendingRequest = some ticket ∨ ∃ operationId stored transition allowNew,
      c = .resumeBegin operationId stored transition allowNew := by
  cases hc with
  | kept steady _ _ => exact .inl (steady.pending ▸ hp)
  | @issued _ other _ _ kind =>
    have hs : other = ticket := Option.some.inj hp
    exact (kind (hs ▸ hk)).elim
  | @resuming operationId stored transition allowNew =>
    exact .inr ⟨operationId, stored, transition, allowNew, rfl⟩
  | rotated _ _ rotation =>
    have hr := rotation.pending ticket hp
    rw [hr] at hk
    cases hk
  | @keyed other _ _ kind =>
    have hs : keyedTicket other = ticket := Option.some.inj hp
    rw [← hs, show (keyedTicket other).kind = other.kind from rfl, kind] at hk
    cases hk
  | @entered _ _ login _ kind pending =>
    have hs : login = ticket := Option.some.inj (pending.symm.trans hp)
    rw [← hs, kind] at hk
    cases hk
  | resumed _ _ _ _ _ pending | rejected _ _ pending =>
    rw [pending] at hp
    cases hp
  | settled | signedIn | refused | cancelled | revoking => cases hp
  | _ => exact .inl hp

lemma Ready.spares (h : Ready auth) (ha : auth.authority id = some authority)
    (hu : authority.isClean = false) :
    Spares auth id := by
  rintro pending resume hp hk hr rfl
  obtain ⟨other, found, ho, hf, hc, _⟩ := h.resumable pending hp hk
  have hr : other = resume := Option.some.inj (ho.symm.trans hr)
  subst hr
  have hs : found = authority := Option.some.inj (hf.symm.trans ha)
  rw [hs, hu] at hc
  cases hc

lemma saved_of_dispatch
    (h : dispatchBegin p auth frozen = .ok (.dispatch authority mayRefresh recheck, write)) :
    ∃ saved, write = some saved := by
  simp only [dispatchBegin, bind_eq_ok, present_eq_ok] at h
  obtain ⟨_, _, _, _, h⟩ := h
  split at h
  · simp at h
  · split at h
    · simp only [bind_eq_ok, savesTransition_eq_ok, Prod.mk.injEq] at h
      obtain ⟨_, _, _, _, _, rfl⟩ := h
      exact ⟨_, rfl⟩
    · simp only [bind_eq_ok, savesTransition_eq_ok, Prod.mk.injEq] at h
      obtain ⟨_, _, _, rfl⟩ := h
      exact ⟨_, rfl⟩

lemma unclean_of_intent (h : passes (authority.checks auth) = true)
    (hs : authority.dispatchState = .dispatchIntent) :
    authority.isClean = false := by
  have ha : authority.reconcileReceipt = none := by
    simp only [TransitionAuthority.checks, passes_append, passes_cons, passes_nil, Bool.and_true,
      Bool.and_eq_true, beq_iff_eq, hs, reduceCtorEq, decide_false] at h
    simpa using h.1.1.1.2.symm
  simp [TransitionAuthority.isClean, ha]

lemma Ready.reconciling (h : Ready auth) (hru : runSection p uuid auth c = .ok (a, write))
    (hi : Section.reconciling c a = some id) :
    Spares auth id := by
  cases c with
  | dispatchBegin frozen =>
    cases a with
    | refresh => cases hi
    | dispatch =>
      obtain ⟨saved, rfl⟩ := saved_of_dispatch hru
      cases hi
      exact saves_dispatchBegin (Q := fun _ => Spares auth frozen.request.operationId)
        (fun _ hf hu => h.spares hf hu) _ saved hru
  | afterRefresh frozen bound =>
    have hr : afterRefresh p auth frozen bound = .ok (a, write) := hru
    simp only [afterRefresh, bind_eq_ok, present_eq_ok, ensure_eq_ok, Bool.and_eq_true,
      decide_eq_true_eq] at hr
    obtain ⟨found, hf, _, _, _, _, _, ⟨_, hs⟩, _⟩ := hr
    have hc := (passes_authorityChecks.mp (accepted_of_valid h.valid).authorities).2 found
      (AuthStore.authority_mem hf)
    cases hi
    exact h.spares hf (unclean_of_intent hc.1 hs)
  | _ => cases hi

end Changes

section Worlds

variable {p : Platform} {i : BrokerInput} {t : ℕ} {w w' : BrokerWorld}

/-- The record can be ended, and a call that reconciles an authority leaves the resume that is
pending alone. -/
structure Orderly (w : BrokerWorld) : Prop where
  ready : Ready w.auth
  apart : ∀ t, w.issuance = some t → ∀ id, (w.calls t).reconciling = some id → Spares w.auth id

/-- A resume that saves its ticket begins with its authority, and the server names devices that a
record can hold. -/
def storable (p : Platform) : StepCondition (brokerSystem p) := fun _ c _ w =>
  match c with
  | .locked (.resumeBegin operationId stored transition allowNew) =>
    savesRecord (resumeBegin p w.auth operationId stored transition allowNew) = true →
      reconciled w.auth stored = true
  | .locked s => ∀ response ∈ granted s, response.device.id.utf8ByteSize ≤ 256
  | _ => True

lemma granted_of_storable (h : storable p t (.locked s) i w) :
    ∀ response, granted s = some response → response.device.id.utf8ByteSize ≤ 256 := by
  cases s with
  | resumeBegin =>
    intro _ hg
    cases hg
  | _ => exact fun response hg => h response hg

lemma Ready.change (h : Orderly w) (hco : storable p t (.locked s) i w)
    (ha : Admitted (w.issuance = some t) (w.calls t) s)
    (hr : runSection p uuid w.auth s = .ok (a, some write)) (hv : write.record.valid = true) :
    Ready write.record := by
  have hc := change_of_run hr
  constructor
  · exact hv
  · exact Sized.change h.ready.device hc (granted_of_storable hco)
  · exact token_of_change h.ready.token hc
  · intro _ ht hk
    refine archivable_of_change hc ha ?_ (h.apart t) h.ready.resumable ht hk
    rintro _ _ _ _ rfl
    exact hco (congrArg savesRecord hr)

lemma Orderly.store (h : Orderly w) (hco : storable p t (.locked s) i w)
    (ha : Admitted (w.issuance = some t) (w.calls t) s)
    (hru : runSection p uuid w.auth s = .ok (a, some write)) (hv : write.record.valid = true) :
    Orderly (w.store write.record) := by
  refine ⟨Ready.change h hco ha hru hv, ?_⟩
  intro u hh id hi pending resume hp hk hr
  rcases pending_of_change (change_of_run hru) hp hk with ho | ⟨_, _, _, _, rfl⟩
  · exact h.apart u hh id hi pending resume ho hk hr
  · -- Who begins a resume holds the lock and is not reconciling.
    have ha : w.issuance = some t ∧ (w.calls t).reconciling = none := ha
    have hu : u = t := Option.some.inj (hh.symm.trans ha.1)
    have hi : (w.calls u).reconciling = some id := hi
    rw [hu, ha.2] at hi
    cases hi

lemma Orderly.setCall (h : Orderly w)
    (hc : ∀ id, call.reconciling = some id →
      (w.calls t).reconciling = some id ∨ Spares w.auth id) : Orderly (w.setCall t call) := by
  refine ⟨h.ready, fun u hh id hi => ?_⟩
  by_cases hu : u = t
  · subst hu
    have hi : call.reconciling = some id := by simpa [BrokerWorld.setCall] using hi
    rcases hc id hi with ho | hs
    · exact h.apart u hh id ho
    · exact hs
  · have hi : (w.calls u).reconciling = some id := by simpa [BrokerWorld.setCall, hu] using hi
    exact h.apart u hh id hi

lemma Orderly.shrink (h : Orderly w) (ha : w'.auth = w.auth)
    (hc : ∀ u, w'.issuance = some u → ∀ id, (w'.calls u).reconciling = some id →
      w.issuance = some u ∧ (w.calls u).reconciling = some id) : Orderly w' := by
  refine ⟨ha ▸ h.ready, fun u hh id hi => ?_⟩
  obtain ⟨hh, hi⟩ := hc u hh id hi
  rw [ha]
  exact h.apart u hh id hi

lemma Orderly.locked {s : Section} {r : Except BrokerError s.Answer} (h : Orderly w)
    (hco : storable p t (.locked s) i w) (ha : Admitted (w.issuance = some t) (w.calls t) s)
    (hs : LockedStep p t w s r w') : Orderly w' := by
  have haf : ∀ {a : s.Answer} {epoch : ℕ} {id : String},
      ((w.calls t).after epoch s a).reconciling = some id →
      (w.calls t).reconciling = some id ∨ Section.reconciling s a = some id := by
    intro a _ _ hi
    cases hn : Section.reconciling s a with
    | none => exact .inl (by simpa [CallState.after, hn] using hi)
    | some new => exact .inr (by simpa [CallState.after, hn] using hi)
  cases hs with
  | refused => exact h
  | read _ hr =>
    refine h.setCall fun id hi => ?_
    rcases haf hi with ho | hn
    · exact .inl ho
    · exact .inr (h.ready.reconciling hr hn)
  | @saved uuid a write _ hr hv =>
    have hc := change_of_run hr
    refine (h.store hco ha hr hv).setCall fun id hi => ?_
    rcases haf hi with ho | hn
    · exact .inl ho
    · refine .inr fun pending resume hp hk hre => ?_
      rcases pending_of_change hc hp hk with hb | ⟨_, _, _, _, rfl⟩
      · exact h.ready.reconciling hr hn pending resume hb hk hre
      · cases hn
  | late _ _ hr hv => exact h.store hco ha hr hv

lemma Orderly.exec (h : Orderly w) (hd : Disciplined t c w)
    (hc : storable p t c i w) (he : w.exec p i t c = some (r, w')) : Orderly w' := by
  cases executed he with
  | locked hs => exact h.locked hc hd hs
  | spent =>
    refine h.shrink rfl fun u hh id hi => ⟨hh, ?_⟩
    by_cases hu : u = t
    · subst hu
      simpa [BrokerWorld.setCall] using hi
    · simpa [BrokerWorld.setCall, hu] using hi
  | entered =>
    refine h.shrink rfl fun u hh id hi => ⟨hh, ?_⟩
    by_cases hu : u = t
    · simp [BrokerWorld.setCall, hu] at hi
    · simpa [BrokerWorld.setCall, hu] using hi
  | taken =>
    refine h.shrink rfl fun u hh id hi => ?_
    have hu : t = u := Option.some.inj hh
    simp [BrokerWorld.setCall, hu] at hi
  | released _ =>
    refine h.shrink rfl fun u hh id hi => ?_
    cases hh
  | silent _ _ => exact h.shrink rfl fun u hh id hi => ⟨hh, hi⟩

lemma Ready.reopened (h : Ready w.auth) : Ready w.reopened.auth := by
  unfold BrokerWorld.reopened
  split
  · exact ⟨h.valid, h.device, h.token, fun ticket ht hk => (h.resumable ticket ht hk).same rfl⟩
  · exact h

lemma orderly_of_reach (hr : Ready auth)
    (h : Reach (storable p) (Pool.idle (BrokerWorld.opened auth)) P) : Orderly P.state := by
  refine Reach.invariant ?_ ?_ ?_ (reach_disciplined h)
  · intro t c i r w w' hc ho hs
    exact @Orderly.exec p i t w w' c r ho hc.2 hc.1 hs
  · exact fun w ho => ⟨ho.ready.reopened, fun u hh => nomatch hh⟩
  · exact ⟨hr, fun u hh => nomatch hh⟩

end Worlds

section Programs

variable {p : Platform} {α β : Type} {t : ℕ} {w : BrokerWorld} {I : BrokerWorld → Prop}

def Working : ℕ → BrokerCmd → BrokerInput → BrokerWorld → Prop := fun _ _ i _ =>
  i.readable = true ∧ i.save = .done ∧ i.dropped = false

def Ends (I : BrokerWorld → Prop) (x : BrokerProg p α) : Prop :=
  ∀ t w, I w → Finishes Working t (fun _ => I) x.run w

lemma finishes_command {Q : BrokerResp c → BrokerWorld → Prop} (hp : ∀ i, w.exec p i t c ≠ none)
    (h : ∀ i r w', Working t c i w → w.exec p i t c = some (r, w') → Q r w') :
    Finishes Working t Q (Prog.call (M := brokerMachine p) c) w := by
  refine Finishes.call ?_ h
  obtain ⟨result, hr⟩ := Option.ne_none_iff_exists'.mp (hp calm)
  exact ⟨calm, result.1, result.2, ⟨rfl, rfl, rfl⟩, hr⟩

variable {x : BrokerProg p α} {f : α → BrokerProg p β}

lemma Ends.after (hf : ∀ a, Ends I (f a)) (hx : Finishes Working t (fun _ => I) x.run w) :
    Finishes Working t (fun _ => I) (x >>= f).run w := by
  refine Finishes.bind hx fun r w' hw' => ?_
  cases r with
  | error => exact .ret hw'
  | ok a => exact hf a t w' hw'

lemma Ends.bind (hx : Ends I x) (hf : ∀ a, Ends I (f a)) : Ends I (x >>= f) :=
  fun t w hw => Ends.after hf (hx t w hw)

lemma Ends.decided (r : Except BrokerError α) : Ends I (decided r : BrokerProg p α) :=
  fun _ _ hw => .ret hw

lemma Ends.require (b : Bool) (error : BrokerError) :
    Ends I (require b error : BrokerProg p Unit) := by
  intro t w hw
  cases b with
  | true | false => exact .ret hw

lemma Ends.whenever {b : Bool} {x : BrokerProg p Unit} (hx : Ends I x) :
    Ends I (whenever b x) := by
  intro t w hw
  cases b with
  | true => exact hx t w hw
  | false => exact .ret hw

lemma succeeds_suspend : Succeeds Working t (suspend p) (fun _ w' => w' = w) w := by
  have hd : Finishes Working t (fun dropped w' => dropped = false ∧ w' = w)
      (Prog.call (M := brokerMachine p) .dropped) w := by
    refine finishes_command (c := .dropped) (fun i h => Option.some_ne_none _ h) ?_
    intro i r _ ho he
    cases he
    exact ⟨ho.2.2, rfl⟩
  have hp : Succeeds Working t
      (surely (Prog.pause) : BrokerProg p Unit) (fun _ w' => w' = w) w :=
    Succeeds.surely (.await (.ret rfl))
  refine Succeeds.bind hp fun _ w1 hw1 => ?_
  subst w1
  refine Succeeds.bind (Succeeds.surely hd) fun dropped w1 hw1 => ?_
  obtain ⟨hf, hw1⟩ := hw1
  subst w1
  exact Succeeds.require (by simp [hf]) rfl

lemma Ends.ask (q : Request) : Ends I (AuthBroker.ask p q) := by
  intro t w hw
  refine Succeeds.andThen succeeds_suspend fun _ w1 hw1 => ?_
  subst w1
  have ha : Finishes Working t (fun _ w' => w' = w)
      (Prog.call (M := brokerMachine p) (.answer q)) w := by
    refine finishes_command (c := .answer q) (fun i h => Option.some_ne_none _ h) ?_
    intro i r _ _ he
    cases he
    rfl
  have hr : Succeeds Working t (AuthBroker.command p (.answer q)) (fun _ w' => w' = w) w :=
    Succeeds.surely ha
  refine Finishes.mono (fun _ w1 hw1 => ?_) hr
  obtain ⟨_, _, hw1⟩ := hw1
  exact hw1 ▸ hw

lemma Ends.locked {s : Section}
    (hk : ∀ {t w r w'}, LockedStep p t w s r w' → I w → I w') : Ends I (AuthBroker.locked p s) := by
  intro t w hw
  refine Succeeds.andThen succeeds_suspend fun _ w1 _ => ?_
  subst w1
  refine finishes_command (c := .locked s) (fun i h => Option.some_ne_none _ h) ?_
  intro i r _ _ he
  have hs := exec_locked he
  exact hk hs hw

structure EndedSince (before w : BrokerWorld) : Prop where
  epoch : before.auth.authEpoch < w.auth.authEpoch
  state : w.auth.logoutState = .pending ∨ w.auth.logoutState = .loggedOut
  pending : w.auth.broker.pendingRequest = none

def StoppedSince (before w : BrokerWorld) : Prop := EndedSince before w ∧ before.stops < w.stops

lemma StoppedSince.finish {proof : PendingLogout} {response : LogoutResponse}
    {r : Except BrokerError (Section.Answer (.logoutFinish epoch proof response))}
    (h : StoppedSince before w) (hse : LockedStep p t w (.logoutFinish epoch proof response) r w') :
    StoppedSince before w' := by
  have hs : ∀ {uuid : FreshUuid} {a : Unit} {write : Write},
      runSection p uuid w.auth (.logoutFinish epoch proof response) = .ok (a, some write) →
      StoppedSince before (w.store write.record) := by
    intro _ a write hr
    have hr : logoutFinish w.auth epoch proof response = .ok (a, some write) := hr
    unfold logoutFinish at hr
    split at hr
    · simp at hr
    · simp only [bind_eq_ok, saves_eq_ok, Prod.mk.injEq, Option.some.injEq] at hr
      obtain ⟨_, _, _, rfl⟩ := hr
      exact ⟨⟨h.1.epoch, .inr rfl, h.1.pending⟩, h.2⟩
  cases hse with
  | refused => exact h
  | read _ _ => exact ⟨⟨h.1.epoch, h.1.state, h.1.pending⟩, h.2⟩
  | saved _ hr _ =>
    obtain ⟨he, hst⟩ := hs hr
    exact ⟨⟨he.epoch, he.state, he.pending⟩, hst⟩
  | late _ _ hr _ => exact hs hr

lemma finishes_stopLocal (h : EndedSince before w) (hs : w.stops = before.stops) :
    Finishes Working t (fun _ => StoppedSince before) (stopLocal p).run w := by
  have hst : Finishes Working t (fun _ w' => StoppedSince before w')
      (Prog.call (M := brokerMachine p) .stopLocal) w := by
    refine finishes_command (c := .stopLocal) (fun i h => Option.some_ne_none _ h) ?_
    intro i r _ _ he
    cases he
    exact ⟨⟨h.epoch, h.state, h.pending⟩, by simp only [hs]; exact Nat.lt_succ_self _⟩
  have hc : Succeeds Working t (command p .stopLocal) (fun _ => StoppedSince before) w :=
    Succeeds.surely hst
  exact hc.andThen fun _ w1 hw1 => Ends.ask .stopLocal t w1 hw1

lemma succeeds_saved {Q : s.Answer → AuthStore → Prop} (hv : w.auth.valid = true)
    (h : ∀ uuid, ∃ a record, runSection p uuid w.auth s = .ok (a, some ⟨record, false⟩) ∧
      record.valid = true ∧ Q a record) :
    Succeeds Working t (AuthBroker.locked p s)
      (fun a w' => Q a w'.auth ∧ w'.stops = w.stops) w := by
  refine Succeeds.bind succeeds_suspend fun _ w1 _ => ?_
  subst w1
  refine Succeeds.attempt (finishes_command (c := .locked s) (fun i h => Option.some_ne_none _ h) ?_)
  intro i r w' ho he
  obtain ⟨a, record, hru, hre, hq⟩ := h i.uuid
  have hl : w.locked p i t s =
      (.ok a, (w.store record).setCall t ((w.calls t).after record.authEpoch s a)) := by
    simp [BrokerWorld.locked, ho.1, hv, hru, BrokerWorld.accepts, hre, ho.2.1]
  have hr : w.locked p i t s = (r, w') := Option.some.inj he
  rw [hl] at hr
  cases hr
  exact ⟨a, rfl, hq, rfl⟩

lemma succeeds_read (hv : w.auth.valid = true)
    (h : ∀ uuid, runSection p uuid w.auth s = .ok (a, none)) :
    Succeeds Working t (AuthBroker.locked p s) (fun _ w' => w'.auth = w.auth) w := by
  refine Succeeds.bind succeeds_suspend fun _ w1 _ => ?_
  subst w1
  refine Succeeds.attempt (finishes_command (c := .locked s) (fun i h => Option.some_ne_none _ h) ?_)
  intro i r w' ho he
  have hl : w.locked p i t s =
      (.ok a, w.setCall t ((w.calls t).after w.auth.authEpoch s a)) := by
    simp [BrokerWorld.locked, ho.1, hv, h]
  have hr : w.locked p i t s = (r, w') := Option.some.inj he
  rw [hl] at hr
  cases hr
  exact ⟨a, rfl, rfl⟩

lemma succeeds_fence (hr : Ready w.auth) (ha : w.auth.logoutState = .active)
    (hb : w.auth.authEpoch + 1 < 2 ^ 64) :
    Succeeds Working t (AuthBroker.locked p (.logoutFence none none))
      (fun _ w' => EndedSince w w' ∧ w'.stops = w.stops) w := by
  have hs := succeeds_saved (p := p) (t := t) (s := .logoutFence none none)
    (Q := fun _ record => w.auth.authEpoch < record.authEpoch ∧
      (record.logoutState = .pending ∨ record.logoutState = .loggedOut) ∧
      record.broker.pendingRequest = none) hr.valid ?_
  · exact hs.mono fun _ w' hw' => ⟨⟨hw'.1.1, hw'.1.2.1, hw'.1.2.2⟩, hw'.2⟩
  · intro uuid
    obtain ⟨a, record, hru, hv, he, hst, hp⟩ := @Ready.fence p uuid w.auth hr ha hb
    have hl : w.auth.authEpoch < record.authEpoch := he ▸ Nat.lt_succ_self _
    exact ⟨a, record, hru, hv, hl, hst, hp⟩

lemma finishes_logout (hr : Ready w.auth) (hac : w.auth.logoutState = .active)
    (hb : w.auth.authEpoch + 1 < 2 ^ 64) :
    Finishes Working t (fun _ => StoppedSince w) (AuthBroker.logout p none none).run w := by
  refine (succeeds_fence hr hac hb).andThen fun step w1 hw1 => ?_
  have hs : Finishes Working t (fun _ => StoppedSince w) (stopLocal p).run w1 :=
    finishes_stopLocal hw1.1 hw1.2
  cases step with
  | neverAuthenticated => exact Ends.after (fun stop => Ends.decided stop) hs
  | repeated =>
    refine Ends.after (fun stop => ?_) hs
    exact .bind (.whenever (.bind (.ask _) fun ha => .decided ha)) fun _ => .decided stop
  | revoke epoch proof =>
    cases proof with
    | none =>
      refine Ends.after (fun stop => ?_) hs
      exact .bind (.ask _) fun ha => .bind (.decided stop) fun _ =>
        .bind (.decided ha) fun _ => .decided (.error .authenticationOutcomeUnknown)
    | some =>
      refine Ends.after (fun stop => ?_) hs
      exact .bind (.ask _) fun answer => .bind (.decided answer) fun response =>
        .bind (.require _ _) fun _ => .bind (.locked fun hst h => h.finish hst) fun _ =>
          .decided stop

end Programs

/-- When a resume begins only with a clean authority of its login and the server grants what a
record can hold, a logout ends every active login: it saves a higher epoch without a ticket and
tells the connection to stop. -/
theorem logout_takes_effect {p : Platform} {auth : AuthStore} (hready : Ready auth)
    {P : Pool (brokerSystem p)}
    (h : Reach (storable p) (Pool.idle (BrokerWorld.opened auth)) P)
    (hactive : P.state.auth.logoutState = .active) (hbound : P.state.auth.authEpoch + 1 < 2 ^ 64)
    (t : ℕ) :
    Finishes Working t (fun _ => StoppedSince P.state) (brokerProgram p (.logout none none))
      P.state := by
  have hready := (orderly_of_reach hready h).ready
  have he : Finishes Working t (fun _ w' => w' = BrokerWorld.setCall P.state t {})
      (Prog.call (M := brokerMachine p) .enter) P.state := by
    refine finishes_command (c := .enter) (fun i h => Option.some_ne_none _ h) ?_
    intro i r _ _ hex
    cases hex
    rfl
  have hc : Succeeds Working t (command p .enter)
      (fun _ w' => w' = BrokerWorld.setCall P.state t {}) P.state := Succeeds.surely he
  refine Finishes.map (hc.andThen fun _ w₁ _ => ?_)
  subst w₁
  have hl := @finishes_logout p t (BrokerWorld.setCall P.state t {}) hready hactive hbound
  refine Finishes.mono (fun _ w' hw' => ?_) hl
  exact ⟨⟨hw'.1.epoch, hw'.1.state, hw'.1.pending⟩, hw'.2⟩

instance (t : ℕ) (c : BrokerCmd) (i : BrokerInput) (w : BrokerWorld) :
    Decidable (Working t c i w) := by
  unfold Working
  infer_instance

instance (p : Platform) (t : ℕ) (c : BrokerCmd) (i : BrokerInput) (w : BrokerWorld) :
    Decidable (storable p t c i w) := by
  unfold storable
  split
  · infer_instance
  · infer_instance
  · infer_instance

def orphanResume : ResumeArguments :=
  ⟨(numberedUuid 3).value, (numberedUuid 4).value, .apply, ⟨"1.0.0", "1.1.0", 1, .latest⟩, some 1⟩

def lostResume : List (Move (brokerSystem desktop)) :=
  .start (.resume orphanResume) :: turn desktop 0 1 ++ turn desktop 0 2 ++ turn desktop 0 2 ++
    turn desktop 0 2 ++ turn desktop 0 3

def refusedLogout : List (Move (brokerSystem desktop)) :=
  .start (.logout none none) :: turn desktop 1 1 ++ turn desktop 1 2

def hasEnded (P : Pool (brokerSystem desktop)) (t : ℕ) : Bool :=
  match P.threads[t]? with
  | some (.ret _) => true
  | _ => false

/-- While a resume without an authority is pending, a logout with a working store ends without
saving anything and without telling the connection to stop. -/
theorem orphan_resume_blocks_logout :
    ∃ P P' : Pool (brokerSystem desktop),
      Reach (unconditioned (brokerSystem desktop)) (Pool.idle (BrokerWorld.opened signedInStore)) P ∧
      (P.state.auth.valid, P.state.auth.logoutState, P.state.auth.authEpoch) = (true, .active, 1) ∧
      moves Working P refusedLogout = some P' ∧ hasEnded P' 1 = true ∧
      P'.state.auth = P.state.auth ∧ P'.state.stops = 0 := by
  have hr :
      ((moves (unconditioned (brokerSystem desktop)) (Pool.idle (BrokerWorld.opened signedInStore))
        lostResume).bind fun P => (moves Working P refusedLogout).map fun P' =>
          ((P.state.auth.valid, P.state.auth.logoutState, P.state.auth.authEpoch),
            decide (hasEnded P' 1 = true ∧ P'.state.auth = P.state.auth ∧ P'.state.stops = 0))) =
        some ((true, .active, 1), true) := by
    decide +kernel
  obtain ⟨P, hP, hr⟩ := Option.bind_eq_some_iff.mp hr
  obtain ⟨P', hP', hr⟩ := Option.map_eq_some_iff.mp hr
  obtain ⟨hb, ha⟩ := Prod.mk.inj hr
  exact ⟨P, P', Reach.moves _ .refl _ hP, hb, hP', of_decide_eq_true ha⟩

lemma ready_signedInStore : Ready signedInStore where
  valid := by decide +kernel
  device := by decide
  token := by
    intro _ hto
    cases hto
    decide
  resumable := by
    intro _ ht
    cases ht

def reconciledResume : List (Move (brokerSystem desktop)) :=
  .start (.reconcileTransition switchRequest) :: [1, 2, 2, 2, 2, 2, 3].flatMap (turn desktop 0) ++
    .start (.resumeTransition ⟨(numberedUuid 3).value, (numberedUuid 1).value, .apply,
      ⟨"1.0.0", "1.1.0", 1, .latest⟩, some 1⟩ true) :: [1, 2, 2, 2, 2, 3].flatMap (turn desktop 1)

/-- A logout ends the login while that resume is pending. -/
theorem logout_takes_effect_reconciled :
    ∃ P : Pool (brokerSystem desktop),
      Reach (storable desktop) (Pool.idle (BrokerWorld.opened signedInStore)) P ∧
      P.state.auth.broker.pendingRequest.map (·.kind) = some .resume ∧
      Finishes Working 2 (fun _ => StoppedSince P.state)
        (brokerProgram desktop (.logout none none)) P.state := by
  have hru :
      (moves (storable desktop) (Pool.idle (BrokerWorld.opened signedInStore)) reconciledResume).map
        (fun P => (P.state.auth.broker.pendingRequest.map (·.kind),
          P.state.auth.logoutState, P.state.auth.authEpoch)) =
      some (some .resume, .active, 1) := by
    decide +kernel
  obtain ⟨P, hr, hru⟩ := Reach.observed hru
  simp only [Prod.mk.injEq] at hru
  obtain ⟨hp, ha, he⟩ := hru
  have hb : P.state.auth.authEpoch + 1 < 2 ^ 64 := by
    rw [he]
    decide
  exact ⟨P, hr, hp, logout_takes_effect ready_signedInStore hr ha hb 2⟩

end NelomaiClient.AuthLogout
