import Mathlib.Data.Finset.Card
import Mathlib.Order.Bounds.Defs
import NelomaiClient.AuthLogout

/-!
# Retiring completed transitions

`retire_completed_transitions` marks operations in rounds over the list of
authorities, once along and once against `superseded_by`. As many rounds as
there are authorities reach the closure for every order of the list, cycles
included, so that the authorities that stay are the least set that the record
still needs, and the record without the others is valid.
-/

namespace NelomaiClient.AuthRetirement

open Relation Checked AuthRecord AuthSections AuthFence AuthLogout
open SwitchClosure (plainDigest numberedUuid singleRuntime)

section Closure

/-- The operation that an authority adds once the first one of its edge is marked. -/
def along (edge : TransitionAuthority → Option (String × String)) (marked : List String)
    (entry : TransitionAuthority) : Option String :=
  (edge entry).bind fun ends => if ends.1 ∈ marked then some ends.2 else none

def Edge (authorities : List TransitionAuthority)
    (edge : TransitionAuthority → Option (String × String)) (a b : String) : Prop :=
  ∃ entry ∈ authorities, edge entry = some (a, b)

variable {authorities : List TransitionAuthority}
  {edge : TransitionAuthority → Option (String × String)} {marked : List String}

lemma mem_sweep_single : c ∈ sweep [entry] (along edge) marked ↔
    c ∈ marked ∨ ∃ a ∈ marked, edge entry = some (a, c) := by
  simp only [sweep, along, List.foldl_cons, List.foldl_nil]
  cases hed : edge entry with
  | none => simp
  | some ends =>
    obtain ⟨a, b⟩ := ends
    by_cases ha : a ∈ marked
    · by_cases hb : b ∈ marked
      · simp only [Option.bind_some, ha, hb, if_true, Option.some.injEq, Prod.mk.injEq]
        refine ⟨.inl, ?_⟩
        rintro (hc | ⟨_, _, _, rfl⟩)
        · exact hc
        · exact hb
      · simp [ha, hb, or_comm, eq_comm]
    · simp only [Option.bind_some, ha, if_false, Option.some.injEq, Prod.mk.injEq]
      refine ⟨.inl, ?_⟩
      rintro (hc | ⟨_, hs, rfl, _⟩)
      · exact hc
      · exact absurd hs ha

lemma subset_sweep (h : c ∈ marked) : c ∈ sweep authorities (along edge) marked := by
  induction authorities generalizing marked with
  | nil => exact h
  | cons entry rest ih => exact ih (mem_sweep_single.mpr (.inl h))

lemma mem_sweep (h : Edge authorities edge a b) (ha : a ∈ marked) :
    b ∈ sweep authorities (along edge) marked := by
  obtain ⟨entry, he, hed⟩ := h
  induction authorities generalizing marked with
  | nil => cases he
  | cons first rest ih =>
    rcases List.mem_cons.mp he with rfl | hr
    · show b ∈ sweep rest (along edge) (sweep [entry] (along edge) marked)
      exact subset_sweep (mem_sweep_single.mpr (.inr ⟨a, ha, hed⟩))
    · exact ih (mem_sweep_single.mpr (.inl ha)) hr

variable {S : String → Prop}

/-- What a round marks lies in every set that contains the end of an edge with its start. -/
lemma sweep_sound (hcl : ∀ a b, Edge authorities edge a b → S a → S b)
    (h : ∀ c ∈ marked, S c) : ∀ c ∈ sweep authorities (along edge) marked, S c := by
  induction authorities generalizing marked with
  | nil => exact h
  | cons first rest ih =>
    refine ih (fun a b ⟨entry, hen, he⟩ =>
      hcl a b ⟨entry, List.mem_cons_of_mem _ hen, he⟩) fun c hc => ?_
    rcases mem_sweep_single.mp hc with ho | ⟨a, ha, he⟩
    · exact h c ho
    · exact hcl a c ⟨first, List.mem_cons_self, he⟩ (h a ha)

lemma iterate_sound (hc : ∀ a b, Edge authorities edge a b → S a → S b)
    (h : ∀ c ∈ marked, S c) (rounds : ℕ) :
    ∀ c ∈ (sweep authorities (along edge))^[rounds] marked, S c := by
  induction rounds generalizing marked with
  | zero => exact h
  | succ rounds ih => exact ih (sweep_sound hc h)

def Closed (authorities : List TransitionAuthority)
    (edge : TransitionAuthority → Option (String × String)) (marked : List String) : Prop :=
  ∀ a b, Edge authorities edge a b → a ∈ marked → b ∈ marked

/-- A round that does not close the set marks a new operation. -/
lemma rounds_grow (marked : List String) (rounds : ℕ) :
    Closed authorities edge ((sweep authorities (along edge))^[rounds] marked) ∨
      rounds ≤ ((sweep authorities (along edge))^[rounds] marked).toFinset.card := by
  induction rounds with
  | zero => exact .inr (Nat.zero_le _)
  | succ rounds ih =>
    rw [Function.iterate_succ_apply']
    by_cases hcl : Closed authorities edge ((sweep authorities (along edge))^[rounds] marked)
    · refine .inl fun a b he ha => subset_sweep (hcl a b he ?_)
      exact sweep_sound hcl (fun _ h => h) a ha
    · have hg := ih.resolve_left hcl
      simp only [Closed, not_forall] at hcl
      obtain ⟨a, b, he, ha, hb⟩ := hcl
      refine .inr (Nat.lt_of_le_of_lt hg (Finset.card_lt_card ?_))
      refine Finset.ssubset_iff_subset_ne.mpr ⟨fun c hc => ?_, fun heq => hb ?_⟩
      · exact List.mem_toFinset.mpr (subset_sweep (List.mem_toFinset.mp hc))
      · exact List.mem_toFinset.mp (heq ▸ List.mem_toFinset.mpr (mem_sweep he ha))

variable (hedges : ∀ a b, Edge authorities edge a b → b ∈ authorities.map (·.reconcileOperationId))
  (hmarked : ∀ c ∈ marked, c ∈ authorities.map (·.reconcileOperationId))
include hedges hmarked

lemma closure_closed : Closed authorities edge (closure authorities (along edge) marked) := by
  have hr : Closed authorities edge _ ∨ _ := rounds_grow marked authorities.length
  rcases hr with hcl | hca
  · exact hcl
  · have hw := iterate_sound
      (fun a b he _ => hedges a b he) hmarked authorities.length
    have ha := Finset.eq_of_subset_of_card_le
      (fun c hc => List.mem_toFinset.mpr (hw c (List.mem_toFinset.mp hc)))
      ((List.toFinset_card_le _).trans (by simpa [AuthSections.closure] using hca))
    intro a b he _
    exact List.mem_toFinset.mp (ha ▸ List.mem_toFinset.mpr (hedges a b he))

/-- The rounds mark exactly what the edges reach. -/
lemma mem_closure : c ∈ closure authorities (along edge) marked ↔
    ∃ a ∈ marked, ReflTransGen (Edge authorities edge) a c := by
  constructor
  · refine iterate_sound (S := fun c => ∃ a ∈ marked, ReflTransGen (Edge authorities edge) a c)
      ?_ (fun a ha => ⟨a, ha, .refl⟩) authorities.length c
    exact fun b c he ⟨a, ha, hr⟩ => ⟨a, ha, hr.tail he⟩
  · rintro ⟨a, ha, hr⟩
    induction hr with
    | refl =>
      exact Function.Iterate.rec (fun marked => a ∈ marked) ha (fun _ h => subset_sweep h) _
    | tail _ he ih => exact closure_closed hedges hmarked _ _ he ih

end Closure

section Retirement

/-- From an authority to the one that supersedes it. -/
def successor (entry : TransitionAuthority) : Option (String × String) :=
  entry.supersededBy.map fun next => (entry.reconcileOperationId, next)

def predecessor (entry : TransitionAuthority) : Option (String × String) :=
  entry.supersededBy.map fun next => (next, entry.reconcileOperationId)

/-- The chain of an operation reaches an authority with a known result. -/
def Concluded (authorities : List TransitionAuthority) (operation : String) : Prop :=
  ∃ entry ∈ authorities, entry.resumeEvidence.isSome = true ∧
    ReflTransGen (Edge authorities successor) operation entry.reconcileOperationId

/-- What a record cannot do without: the authorities that are not concluded, those of the given
operations, and the successors of those it needs. -/
structure Needed (authorities : List TransitionAuthority) (roots : List String) (S : Set String) :
    Prop where
  root : ∀ entry ∈ authorities, ¬Concluded authorities entry.reconcileOperationId ∨
    entry.reconcileOperationId ∈ roots → entry.reconcileOperationId ∈ S
  next : ∀ a b, Edge authorities successor a b → a ∈ S → b ∈ S

variable {authorities : List TransitionAuthority}

lemma edge_predecessor : Edge authorities predecessor a b ↔ Edge authorities successor b a := by
  simp only [Edge, predecessor, successor, Option.map_eq_some_iff, Prod.mk.injEq]
  constructor <;> exact fun ⟨entry, he, next, hn, hf, hs⟩ => ⟨entry, he, next, hn, hs, hf⟩

lemma mem_terminalAuthorities :
    c ∈ terminalAuthorities authorities ↔ Concluded authorities c := by
  have hn : (fun (terminal : List String) (entry : TransitionAuthority) =>
      if entry.supersededBy.any (fun successor => decide (successor ∈ terminal)) then
        some entry.reconcileOperationId else none) = along predecessor := by
    funext terminal entry
    unfold along predecessor
    cases entry.supersededBy <;> simp
  have hsw : Edge authorities predecessor = Function.swap (Edge authorities successor) := by
    funext a b
    exact propext edge_predecessor
  rw [terminalAuthorities, hn, mem_closure, hsw]
  · simp only [reflTransGen_swap, List.mem_map, List.mem_filter]
    exact ⟨fun ⟨_, ⟨entry, ⟨he, hs⟩, hi⟩, hr⟩ => ⟨entry, he, hs, hi ▸ hr⟩,
      fun ⟨entry, he, hs, hr⟩ => ⟨_, ⟨entry, ⟨he, hs⟩, rfl⟩, hr⟩⟩
  · rintro a b ⟨_, he, hed⟩
    obtain ⟨_, -, heq⟩ := Option.map_eq_some_iff.mp hed
    cases heq
    exact List.mem_map_of_mem he
  · intro c hc
    obtain ⟨_, he, rfl⟩ := List.mem_map.mp hc
    exact List.mem_map_of_mem (List.mem_filter.mp he).1

variable (hlineage : ∀ a b, Edge authorities successor a b → b ∈ authorities.map (·.reconcileOperationId))
include hlineage

lemma mem_retainedAuthorities : c ∈ retainedAuthorities authorities roots ↔
    ∃ entry ∈ authorities, (¬Concluded authorities entry.reconcileOperationId ∨
      entry.reconcileOperationId ∈ roots) ∧
      ReflTransGen (Edge authorities successor) entry.reconcileOperationId c := by
  have hn : (fun (retained : List String) (entry : TransitionAuthority) =>
      if entry.reconcileOperationId ∈ retained then entry.supersededBy else none) =
      along successor := by
    funext retained entry
    unfold along successor
    cases entry.supersededBy <;> simp
  rw [retainedAuthorities, hn, mem_closure hlineage]
  · simp only [List.mem_map, List.mem_filter, Bool.or_eq_true, decide_eq_true_eq,
      mem_terminalAuthorities]
    exact ⟨fun ⟨_, ⟨entry, ⟨he, hro⟩, hi⟩, hr⟩ => ⟨entry, he, hro, hi ▸ hr⟩,
      fun ⟨entry, he, hro, hr⟩ => ⟨_, ⟨entry, ⟨he, hro⟩, rfl⟩, hr⟩⟩
  · intro c hc
    obtain ⟨_, he, rfl⟩ := List.mem_map.mp hc
    exact List.mem_map_of_mem (List.mem_filter.mp he).1

lemma isLeast_retained :
    IsLeast {S | Needed authorities roots S} {c | c ∈ retainedAuthorities authorities roots} := by
  refine ⟨⟨fun entry he hro => ?_, fun a b hed ha => ?_⟩, fun S hS c hc => ?_⟩
  · exact (mem_retainedAuthorities hlineage).mpr ⟨entry, he, hro, .refl⟩
  · obtain ⟨entry, he, hro, hr⟩ := (mem_retainedAuthorities hlineage).mp ha
    exact (mem_retainedAuthorities hlineage).mpr ⟨entry, he, hro, hr.tail hed⟩
  · obtain ⟨entry, he, hro, hr⟩ := (mem_retainedAuthorities hlineage).mp hc
    induction hr with
    | refl => exact hS.root entry he hro
    | tail hr hed ih =>
      exact hS.next _ _ hed (ih ((mem_retainedAuthorities hlineage).mpr ⟨entry, he, hro, hr⟩))

end Retirement

section Records

variable {auth : AuthStore}

/-- The record after a call: the one it saves, or the one that was there. -/
def recordAfter (auth : AuthStore) (decided : Decided α) : AuthStore :=
  (decided.2.map (·.record)).getD auth

def retainedWith (auth : AuthStore) (roots : List String) : AuthStore :=
  { auth with broker := { auth.broker with
    transitionAuthorities := auth.broker.transitionAuthorities.filter fun entry =>
      decide (entry.reconcileOperationId ∈ retainedAuthorities auth.broker.transitionAuthorities roots) } }

/-- The operations that stay whatever their chains say. -/
def rootsOf (auth : AuthStore) (journalOperation : String) (activeReconcile : Option String) :
    List String :=
  journalOperation :: (activeReconcile.toList ++
    ((auth.broker.completedResume.bind (·.request.resume)).map (·.reconcileOperationId)).toList)

structure Idle (auth : AuthStore) : Prop where
  request : auth.broker.pendingRequest = none
  recovery : auth.broker.pendingRecovery = none
  logout : auth.broker.pendingLogout = none
  supersede : auth.pendingRuntimeSupersede = none
  receipt : auth.completedRuntimeLogout = none

lemma recordAfter_retire (hi : Idle auth) :
    ∃ decided, retireCompletedTransitions auth journalOperation activeReconcile = .ok decided ∧
      recordAfter auth decided = retainedWith auth (rootsOf auth journalOperation activeReconcile) := by
  have hg : ¬(auth.broker.pendingRequest.isSome || auth.broker.pendingRecovery.isSome ||
      auth.broker.pendingLogout.isSome || auth.pendingRuntimeSupersede.isSome ||
      auth.completedRuntimeLogout.isSome) = true := by
    simp [hi.request, hi.recovery, hi.logout, hi.supersede, hi.receipt]
  rw [retireCompletedTransitions, if_neg hg]
  dsimp only
  split
  next ha =>
    refine ⟨_, rfl, ?_⟩
    rw [retainedWith, rootsOf, List.filter_eq_self.mpr (List.all_eq_true.mp ha)]
    rfl
  next => exact ⟨_, rfl, rfl⟩

/-- A valid record has the successor of each of its authorities. -/
lemma exists_follows (h : passes auth.authorityChecks = true)
    (hi : authority ∈ auth.broker.transitionAuthorities) (hn : authority.supersededBy = some next) :
    ∃ candidate ∈ auth.broker.transitionAuthorities, candidate.follows authority next = true ∧
      candidate.reconcileOperationId = next := by
  have hlineage := ((passes_authorityChecks.mp h).2 authority hi).2
  rw [hn, Option.all_some, List.any_eq_true] at hlineage
  obtain ⟨candidate, hc, hf⟩ := hlineage
  refine ⟨candidate, hc, hf, ?_⟩
  simp only [TransitionAuthority.follows, Bool.and_eq_true, beq_iff_eq] at hf
  exact hf.1.1.1

lemma mem_of_edge (h : passes auth.authorityChecks = true) (a b : String)
    (hed : Edge auth.broker.transitionAuthorities successor a b) :
    b ∈ auth.broker.transitionAuthorities.map (·.reconcileOperationId) := by
  obtain ⟨_, he, hn⟩ := hed
  obtain ⟨_, hs, heq⟩ := Option.map_eq_some_iff.mp hn
  obtain ⟨_, hc, -, hi⟩ := exists_follows h he hs
  rw [← (Prod.mk.inj heq).2, ← hi]
  exact List.mem_map_of_mem hc

lemma authorities_retained (h : passes auth.authorityChecks = true) :
    passes (retainedWith auth roots).authorityChecks = true := by
  obtain ⟨⟨hl, hd⟩, ha⟩ := passes_authorityChecks.mp h
  have hsu : (retainedWith auth roots).broker.transitionAuthorities.Sublist
      auth.broker.transitionAuthorities := List.filter_sublist
  refine passes_authorityChecks.mpr
    ⟨⟨hsu.length_le.trans hl, (hsu.map _).nodup hd⟩, fun authority hin => ?_⟩
  obtain ⟨he, hk⟩ := List.mem_filter.mp hin
  refine ⟨authority_raised ⟨le_rfl, le_rfl⟩ (ha authority he).1, ?_⟩
  cases hs : authority.supersededBy with
  | none => rfl
  | some =>
    -- the successor that validity gives is retained with its predecessor
    obtain ⟨candidate, hc, hf, hi⟩ := exists_follows h he hs
    have hed : Edge auth.broker.transitionAuthorities successor authority.reconcileOperationId
        candidate.reconcileOperationId := ⟨authority, he, by rw [successor, hs, hi]; rfl⟩
    have hn := (isLeast_retained (mem_of_edge h)).1.next _ _ hed (of_decide_eq_true hk)
    rw [Option.all_some, List.any_eq_true]
    exact ⟨candidate, List.mem_filter.mpr ⟨hc, decide_eq_true hn⟩, hf⟩

lemma valid_retainedWith (hi : Idle auth) (h : auth.valid = true) :
    (retainedWith auth roots).valid = true := by
  have ha := accepted_of_valid h
  have hl : Left auth (retainedWith auth roots) :=
    ⟨⟨le_rfl, le_rfl⟩, rfl, rfl, rfl, rfl, rfl, rfl, rfl, rfl, rfl, rfl, rfl⟩
  exact valid_of_left hl h hi.request ha.cancelled ha.logout
    (.inr rfl) (authorities_retained ha.authorities)

/-- Only the authorities change, they keep their order, and those that stay are what the record
needs. -/
structure Retired (auth after : AuthStore) (roots : List String) : Prop where
  rest : after = { auth with broker :=
    { auth.broker with transitionAuthorities := after.broker.transitionAuthorities } }
  order : after.broker.transitionAuthorities.Sublist auth.broker.transitionAuthorities
  least : IsLeast {S | Needed auth.broker.transitionAuthorities roots S}
    {c | c ∈ after.broker.transitionAuthorities.map (·.reconcileOperationId)}
  valid : after.valid = true

/-- With nothing pending, the call drops from a valid record exactly the authorities that the
record can do without, and leaves a valid record. -/
theorem retire_least (auth : AuthStore) (journalOperation : String)
    (activeReconcile : Option String) (hvalid : auth.valid = true) (hidle : Idle auth) :
    ∃ decided, retireCompletedTransitions auth journalOperation activeReconcile = .ok decided ∧
      Retired auth (recordAfter auth decided) (rootsOf auth journalOperation activeReconcile) := by
  obtain ⟨decided, hru, ha⟩ := recordAfter_retire hidle
  refine ⟨decided, hru, ha ▸ ⟨rfl, List.filter_sublist, ?_, valid_retainedWith hidle hvalid⟩⟩
  have hlineage := mem_of_edge (accepted_of_valid hvalid).authorities
  convert isLeast_retained hlineage using 1
  ext c
  simp only [retainedWith, Set.mem_ofPred_eq, List.mem_map, List.mem_filter, decide_eq_true_eq]
  refine ⟨fun ⟨_, ⟨_, hk⟩, hi⟩ => hi ▸ hk, fun hc => ?_⟩
  -- what is retained is the operation of an authority
  obtain ⟨entry, he, -, hr⟩ := (mem_retainedAuthorities hlineage).mp hc
  obtain rfl | ⟨b, -, hed⟩ := hr.cases_tail
  · exact ⟨entry, ⟨he, hc⟩, rfl⟩
  · obtain ⟨found, hf, rfl⟩ := List.mem_map.mp (hlineage _ _ hed)
    exact ⟨found, ⟨hf, hc⟩, rfl⟩

def unanswered (operation : Fin 10) (next : Option (Fin 10)) : TransitionAuthority where
  reconcileOperationId := (numberedUuid operation).value
  requestFingerprint := plainDigest.value
  sourceAuthEpoch := 1
  sourceFamily := "family"
  sourceIdentity := some (singleRuntime "1.0.0")
  sourceDeviceId := "device"
  sourceScopeFingerprint := plainDigest.value
  expectedSessionGeneration := some 1
  targetIdentity := ⟨.latest, "1.1.0", 1, "1.1.0", none⟩
  cleanupContractVersion := 1
  cleanupAccessProof := "access"
  resumeRefreshProof := "refresh"
  legacyRefreshCompleted := false
  supersededBy := next.map fun next => (numberedUuid next).value
  dispatchState := .captured
  reconcileReceipt := none
  resumeTicket := none
  resumeEvidence := none

def resumed (operation : Fin 10) : TransitionAuthority :=
  { unanswered operation none with
    dispatchState := .responseKnown
    reconcileReceipt := some ⟨.clean, (numberedUuid operation).value, [], [], [], none⟩
    resumeTicket := some ⟨none, .resume, "resume", 1, 1, some (singleRuntime "1.0.0"),
      some "device", false, some ⟨(numberedUuid operation).value, .apply,
        ⟨.latest, "1.1.0", 1, "1.1.0", none⟩, some 1⟩⟩
    resumeEvidence := some ⟨"resume", (numberedUuid operation).value, .apply,
      ⟨.latest, "1.1.0", 1, "1.1.0", none⟩, ⟨.latest, "1.1.0", 1, "1.1.0", some 2⟩, "access",
      "Bearer", 1⟩ }

/-- Two authorities in a cycle, and a chain with a known result. -/
def crowdedStore : AuthStore :=
  { signedInStore with broker := { signedInStore.broker with
    nextAttempt := 1
    transitionAuthorities := [unanswered 4 (some 3), unanswered 1 (some 2), resumed 3,
      unanswered 2 (some 1)] } }

theorem retire_least_crowded :
    ∃ decided, retireCompletedTransitions crowdedStore "journal" none = .ok decided ∧
      (recordAfter crowdedStore decided).broker.transitionAuthorities =
        [unanswered 1 (some 2), unanswered 2 (some 1)] ∧
      Retired crowdedStore (recordAfter crowdedStore decided) ["journal"] := by
  obtain ⟨decided, hru, hr⟩ :=
    retire_least crowdedStore "journal" none (by decide +kernel) ⟨rfl, rfl, rfl, rfl, rfl⟩
  have ha : (retireCompletedTransitions crowdedStore "journal" none).toOption.map
      (fun decided => (recordAfter crowdedStore decided).broker.transitionAuthorities) =
      some [unanswered 1 (some 2), unanswered 2 (some 1)] := by decide +kernel
  rw [hru] at ha
  exact ⟨decided, hru, Option.some.inj ha, hr⟩

end Records

end NelomaiClient.AuthRetirement
