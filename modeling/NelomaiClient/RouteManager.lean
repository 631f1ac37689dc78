import NelomaiClient.AwaitFallible
import NelomaiClient.EngineService

/-!
# The routes that bypass the tunnel

`RouteManager` keeps a journal of the routes it owns: the journal is written
before routes are added, after they were added, and when an addition failed.
Every command of the operating system may fail, and a command whose timeout
killed it may have taken effect. The service may die between any two commands
and then reads the journal again. Two fields of the state are history: the
installed routes that the manager added, and the routes that it removed without
having added them.
-/

namespace NelomaiClient.RouteManager

open AwaitProgram AwaitPool AwaitRely AwaitFallible EngineService

def routeStateFormat : ℕ := 1

def maxRoutes : ℕ := 16384

structure OwnedRoute where
  destination : String
  interfaceIdentifier : String
  gateway : Option String
  metric : Option ℕ
  deriving DecidableEq

inductive RouteScope where
  | unscoped
  | interfaceScoped

structure OwnedRouteState where
  formatVersion : ℕ
  policyHash : Option String
  routes : List OwnedRoute
  pendingRoutes : List OwnedRoute

def OwnedRouteState.fresh : OwnedRouteState := ⟨routeStateFormat, none, [], []⟩

def OwnedRouteState.listed (state : OwnedRouteState) : List OwnedRoute :=
  state.routes ++ state.pendingRoutes

/-- `load_state`; a file that cannot be read keeps the service from starting. -/
def loadState : Option OwnedRouteState → Except ServiceError OwnedRouteState
  | none => .ok .fresh
  | some state =>
    if state.formatVersion ≠ routeStateFormat ∨ maxRoutes < state.listed.length then
      .error (.backend "route_state_invalid")
    else .ok state

section World

/-- How a command of the operating system ends; a late failure has taken effect. -/
inductive CommandOutcome where
  | done
  | failed (error : ServiceError)
  | late (error : ServiceError)

def CommandOutcome.effective : CommandOutcome → Bool
  | .done | .late _ => true
  | .failed _ => false

def CommandOutcome.result : CommandOutcome → Except ServiceError Unit
  | .done => .ok ()
  | .failed error | .late error => .error error

inductive PresenceAnswer where
  | told (scope : OwnedRoute → RouteScope)
  | truncated (count : ℕ) (scope : OwnedRoute → RouteScope)
  | failed (error : ServiceError)

structure RouteWorld where
  table : List OwnedRoute
  file : Option OwnedRouteState
  memory : OwnedRouteState
  added : List OwnedRoute
  /-- Routes that the manager removed without having added them. -/
  lost : List OwnedRoute

namespace RouteWorld

def untouched (table : List OwnedRoute) : RouteWorld := ⟨table, none, .fresh, [], []⟩

variable (s : RouteWorld) (route : OwnedRoute)

def persisted : List OwnedRoute := s.file.elim [] (·.listed)

def presence (routes : List OwnedRoute) (scope : OwnedRoute → RouteScope) :
    List (Option RouteScope) :=
  routes.map fun route => if route ∈ s.table then some (scope route) else none

def install : RouteWorld :=
  if route ∈ s.table then s
  else { s with table := route :: s.table, added := route :: s.added }

def uninstall : RouteWorld :=
  { s with
    table := s.table.filter (· ≠ route), added := s.added.filter (· ≠ route)
    lost := if route ∈ s.table ∧ route ∉ s.added then route :: s.lost else s.lost }

def outside (present : Bool) : RouteWorld :=
  if present then { s with table := route :: s.table }
  else { s with table := s.table.filter (· ≠ route) }

end RouteWorld

inductive RouteCmd where
  | readState
  | writeState (state : OwnedRouteState)
  | discoverEgress
  | routePresence (routes : List OwnedRoute)
  | addRoute (route : OwnedRoute)
  | removeRoute (route : OwnedRoute) (scope : RouteScope)
  | persist
  | removeState
  | outside (route : OwnedRoute) (present : Bool)

variable (Egress : Type)

abbrev RouteResp : RouteCmd → Type
  | .readState => OwnedRouteState
  | .discoverEgress => Except ServiceError Egress
  | .routePresence _ => Except ServiceError (List (Option RouteScope))
  | .addRoute _ | .removeRoute _ _ | .persist | .removeState => Except ServiceError Unit
  | .writeState _ | .outside _ _ => Unit

inductive RouteInput where
  | unasked
  | egress (answer : Except ServiceError Egress)
  | presence (answer : PresenceAnswer)
  | outcome (outcome : CommandOutcome)

variable {Egress}

def RouteInput.egress? : RouteInput Egress → Option (Except ServiceError Egress)
  | .egress answer => some answer
  | _ => none

def RouteInput.presence? : RouteInput Egress → Option PresenceAnswer
  | .presence answer => some answer
  | _ => none

def RouteInput.outcome? : RouteInput Egress → Option CommandOutcome
  | .outcome o => some o
  | _ => none

def attempted (s effect : RouteWorld) (outcome : CommandOutcome) :
    Except ServiceError Unit × RouteWorld :=
  (outcome.result, if outcome.effective then effect else s)

def PresenceAnswer.answer (s : RouteWorld) (routes : List OwnedRoute) :
    PresenceAnswer → Except ServiceError (List (Option RouteScope))
  | .told scope => .ok (s.presence routes scope)
  | .truncated count scope => .ok ((s.presence routes scope).take count)
  | .failed error => .error error

def RouteWorld.exec (i : RouteInput Egress) (s : RouteWorld) :
    (c : RouteCmd) → Option (RouteResp Egress c × RouteWorld)
  | .readState => some (s.memory, s)
  | .writeState state => some ((), { s with memory := state })
  | .discoverEgress => i.egress?.map fun answer => (answer, s)
  | .routePresence routes => i.presence?.map fun answer => (answer.answer s routes, s)
  | .addRoute route => i.outcome?.map (attempted s (s.install route))
  | .removeRoute route _ => i.outcome?.map (attempted s (s.uninstall route))
  | .persist =>
    if maxRoutes < s.memory.listed.length then some (.error (.backend "route_state_too_large"), s)
    else i.outcome?.map (attempted s { s with file := some s.memory })
  | .removeState => i.outcome?.map (attempted s { s with file := none })
  | .outside route present =>
    if route ∈ s.memory.listed ∨ route ∈ s.persisted then none
    else some ((), s.outside route present)

def routeMachine (Egress : Type) : Machine where
  State := RouteWorld
  Cmd := RouteCmd
  Resp := RouteResp Egress
  Input := RouteInput Egress
  sem c _ i s := RouteWorld.exec i s c

end World

section Manager

variable {Egress Network : Type}

abbrev RouteProg (Egress α : Type) : Type 1 := Prog (routeMachine Egress) α

def command (c : RouteCmd) : RouteProg Egress (RouteResp Egress c) :=
  Prog.call (M := routeMachine Egress) c

def noteError (firstError : Option ServiceError) (error : ServiceError) : Option ServiceError :=
  some (firstError.getD error)

def removeEach : List (OwnedRoute × Option RouteScope) → List OwnedRoute → Option ServiceError →
    RouteProg Egress (List OwnedRoute × Option ServiceError)
  | [], retained, firstError => pure (retained, firstError)
  | (_, none) :: rest, retained, firstError => removeEach rest retained firstError
  | (route, some scope) :: rest, retained, firstError =>
    command (.removeRoute route scope) >>= fun
      | Except.ok () => removeEach rest retained firstError
      | Except.error error => removeEach rest (retained ++ [route]) (noteError firstError error)

def removePresentRoutes (routes : List OwnedRoute) (firstError : Option ServiceError) :
    RouteProg Egress (List OwnedRoute × Option ServiceError) :=
  if routes.isEmpty then pure ([], firstError)
  else
    command (.routePresence routes) >>= fun
      | Except.ok presence =>
        if presence.length = routes.length then removeEach (routes.zip presence) [] firstError
        else pure (routes, noteError firstError (.backend "route_table_unavailable"))
      | Except.error error => pure (routes, noteError firstError error)

def settleJournal (state : OwnedRouteState) : RouteProg Egress (Except ServiceError Unit) :=
  if state.routes.isEmpty && state.pendingRoutes.isEmpty then do
    command (.writeState { state with policyHash := none })
    command .removeState
  else command .persist

def cleanup : RouteProg Egress (Except ServiceError Unit) := do
  let state ← command .readState
  let (routes, firstError) ← removePresentRoutes state.routes none
  let state : OwnedRouteState := { state with routes := routes }
  command (.writeState state)
  let (pending, firstError) ← removePresentRoutes state.pendingRoutes firstError
  let state : OwnedRouteState := { state with pendingRoutes := pending }
  command (.writeState state)
  match ← settleJournal state with
  | .error error => pure (.error error)
  | .ok () => pure (firstError.elim (.ok ()) .error)

/-- Write the routes that were added, and no pending ones, into the memory. -/
def recordApplied (applied : List OwnedRoute) : RouteProg Egress Unit := do
  let state ← command .readState
  command (.writeState { state with routes := applied, pendingRoutes := [] })

def addRoutes : List OwnedRoute → List OwnedRoute → RouteProg Egress (Except ServiceError Unit)
  | [], applied => do
    recordApplied applied
    match ← command .persist with
    | Except.ok () => pure (.ok ())
    | Except.error error => do
      let _ ← cleanup
      pure (.error error)
  | route :: rest, applied =>
    command (.addRoute route) >>= fun
      | Except.ok () => addRoutes rest (applied ++ [route])
      | Except.error error => do
        recordApplied applied
        let _ ← command .persist
        let _ ← cleanup
        pure (.error error)

structure RoutePlan (Network : Type) where
  /-- Policy of the plan; a plan without one is not active. -/
  policyHash : Option String
  excludedNetworks : List Network

def applyRoutes (routes : List OwnedRoute) (policyHash : Option String) :
    RouteProg Egress (Except ServiceError Unit) :=
  command (.routePresence routes) >>= fun
    | Except.error error => pure (.error error)
    | Except.ok presence =>
      if presence.any (·.isSome) then pure (.error (.backend "route_conflict"))
      else do
        let state ← command .readState
        command (.writeState { state with policyHash := policyHash, pendingRoutes := routes })
        match ← command .persist with
        | Except.error error => pure (.error error)
        | Except.ok () => addRoutes routes []

def apply (ownedRoute : Egress → Network → OwnedRoute) (plan : Except String (RoutePlan Network)) :
    RouteProg Egress (Except ServiceError Unit) := do
  match ← cleanup with
  | .error error => pure (.error error)
  | .ok () =>
    match plan with
    | .error code => pure (.error (.backend code))
    | .ok plan =>
      if plan.policyHash.isNone || plan.excludedNetworks.isEmpty then pure (.ok ())
      else
        command .discoverEgress >>= fun
          | Except.error error => pure (.error error)
          | Except.ok egress =>
            applyRoutes (plan.excludedNetworks.map (ownedRoute egress)) plan.policyHash

inductive RouteOp (Network : Type) where
  | apply (plan : Except String (RoutePlan Network))
  | cleanup
  | outside (route : OwnedRoute) (present : Bool)

def routeSystem (ownedRoute : Egress → Network → OwnedRoute) : System where
  machine := routeMachine Egress
  Op := RouteOp Network
  program
    | .apply plan => (fun _ => ()) <$> apply ownedRoute plan
    | .cleanup => (fun _ => ()) <$> cleanup
    | .outside route present => command (.outside route present)
  restart s :=
    { s with
      memory := match loadState s.file with
        | .ok state => state
        | .error _ => s.memory }

end Manager

section Accounting

variable {Egress Network : Type}

structure Accounted (s : RouteWorld) : Prop where
  /-- What was added and not removed is installed. -/
  installed : ∀ route ∈ s.added, route ∈ s.table
  remembered : ∀ route ∈ s.added, route ∈ s.memory.listed
  journalled : ∀ route ∈ s.added, route ∈ s.persisted
  /-- An installed route that is listed was added by the manager. -/
  owned : ∀ route ∈ s.table, route ∈ s.memory.listed ∨ route ∈ s.persisted → route ∈ s.added
  kept : s.lost = []
  format : s.memory.formatVersion = routeStateFormat
  loadable : ∃ state, loadState s.file = .ok state

/-- No failing addition has taken effect, and no look at the table is cut short. -/
def Faithful : ℕ → RouteCmd → RouteInput Egress → RouteWorld → Prop
  | _, .addRoute _, .outcome (.late _), _ => False
  | _, .routePresence _, .presence (.truncated _ _), _ => False
  | _, _, _, _ => True

instance decidableFaithful (t : ℕ) (c : RouteCmd) (i : RouteInput Egress) (s : RouteWorld) :
    Decidable (Faithful t c i s) := by
  unfold Faithful
  split <;> infer_instance

def routeContract (Egress : Type) : Contract (routeMachine Egress) := .sequential Accounted Faithful

lemma wp_command {Q : RouteResp Egress c → RouteWorld → Prop}
    (h : ∀ i r s', Accounted s → Faithful t c i s → RouteWorld.exec i s c = some (r, s') →
      Accounted s' ∧ Q r s') :
    wp (routeContract Egress) t (command c) Q s := wp_call_sequential h

lemma wp_readState (h : Accounted s → Q s.memory s) :
    wp (routeContract Egress) t (command .readState) Q s := by
  apply wp_command
  intro i r _ hi _ hs
  cases hs
  exact ⟨hi, h hi⟩

lemma wp_writeState
    (h : Accounted s → Accounted { s with memory := state } ∧ Q () { s with memory := state }) :
    wp (routeContract Egress) t (command (.writeState state)) Q s := by
  apply wp_command
  intro i r _ hi _ hs
  cases hs
  exact h hi

variable {t : ℕ} {s : RouteWorld} {route : OwnedRoute}
  {Q : Except ServiceError Unit → RouteWorld → Prop}

lemma wp_routePresence {Q : Except ServiceError (List (Option RouteScope)) → RouteWorld → Prop}
    (hf : ∀ error, Accounted s → Q (.error error) s)
    (ht : ∀ scope, Accounted s → Q (.ok (s.presence routes scope)) s) :
    wp (routeContract Egress) t (command (.routePresence routes)) Q s := by
  apply wp_command
  intro i r _ hi hc hs
  simp only [RouteWorld.exec, Option.map_eq_some_iff] at hs
  obtain ⟨answer, ha, hr⟩ := hs
  cases hr
  refine ⟨hi, ?_⟩
  cases i with
  | presence a =>
    cases ha
    cases answer with
    | told scope => exact ht scope hi
    | failed error => exact hf error hi
    | truncated => exact hc.elim
  | unasked | egress | outcome => cases ha

lemma outcome_cases {i : RouteInput Egress}
    (h : i.outcome?.map (attempted s effect) = some (r, s')) :
    ∃ outcome, i = .outcome outcome ∧ r = outcome.result ∧
      s' = if outcome.effective then effect else s := by
  simp only [Option.map_eq_some_iff] at h
  obtain ⟨outcome, ho, hr⟩ := h
  cases i with
  | outcome o =>
    cases ho
    cases hr
    exact ⟨outcome, rfl, rfl, rfl⟩
  | unasked | egress | presence => cases ho

lemma mem_install : r ∈ (s.install route).added → r = route ∨ r ∈ s.added := by
  unfold RouteWorld.install
  split
  · exact Or.inr
  · exact List.mem_cons.mp

lemma Accounted.install (h : Accounted s) (hm : route ∈ s.memory.listed)
    (hf : route ∈ s.persisted) : Accounted (s.install route) := by
  unfold RouteWorld.install
  split
  · exact h
  · constructor
    · intro r hr
      rcases List.mem_cons.mp hr with rfl | hr
      · exact List.mem_cons_self
      · exact List.mem_cons_of_mem _ (h.installed r hr)
    · intro r hr
      rcases List.mem_cons.mp hr with rfl | hr
      · exact hm
      · exact h.remembered r hr
    · intro r hr
      rcases List.mem_cons.mp hr with rfl | hr
      · exact hf
      · exact h.journalled r hr
    · intro r hr hl
      rcases List.mem_cons.mp hr with rfl | hr
      · exact List.mem_cons_self
      · exact List.mem_cons_of_mem _ (h.owned r hr hl)
    · exact h.kept
    · exact h.format
    · exact h.loadable

lemma Accounted.uninstall (h : Accounted s) (hm : route ∈ s.memory.listed) :
    Accounted (s.uninstall route) := by
  constructor
  · intro r hr
    have hr' := List.mem_filter.mp hr
    exact List.mem_filter.mpr ⟨h.installed r hr'.1, hr'.2⟩
  · intro r hr
    exact h.remembered r (List.mem_filter.mp hr).1
  · intro r hr
    exact h.journalled r (List.mem_filter.mp hr).1
  · intro r hr hl
    have hr' := List.mem_filter.mp hr
    exact List.mem_filter.mpr ⟨h.owned r hr'.1 hl, hr'.2⟩
  · have ha : ¬ (route ∈ s.table ∧ route ∉ s.added) := by
      rintro ⟨ht, hn⟩
      exact hn (h.owned route ht (Or.inl hm))
    simp only [RouteWorld.uninstall, ha, if_false]
    exact h.kept
  · exact h.format
  · exact h.loadable

lemma wp_removeRoute (hm : route ∈ s.memory.listed)
    (hd : route ∉ (s.uninstall route).added → Q (.ok ()) (s.uninstall route))
    (hf : ∀ error s', s' = s ∨ s' = s.uninstall route → Q (.error error) s') :
    wp (routeContract Egress) t (command (.removeRoute route scope)) Q s := by
  apply wp_command
  intro i r _ hi _ hs
  obtain ⟨outcome, -, rfl, rfl⟩ := outcome_cases hs
  cases outcome with
  | done => exact ⟨hi.uninstall hm, hd (by simp [RouteWorld.uninstall])⟩
  | failed error => exact ⟨hi, hf error s (Or.inl rfl)⟩
  | late error => exact ⟨hi.uninstall hm, hf error _ (Or.inr rfl)⟩

lemma wp_addRoute (hm : route ∈ s.memory.listed) (hfi : route ∈ s.persisted)
    (hd : Q (.ok ()) (s.install route)) (hf : ∀ error, Q (.error error) s) :
    wp (routeContract Egress) t (command (.addRoute route)) Q s := by
  apply wp_command
  intro i r _ hi hc hs
  obtain ⟨outcome, rfl, rfl, rfl⟩ := outcome_cases hs
  cases outcome with
  | done => exact ⟨hi.install hm hfi, hd⟩
  | failed error => exact ⟨hi, hf error⟩
  | late => exact hc.elim

lemma Accounted.persist (h : Accounted s) (hlm : s.memory.listed.length ≤ maxRoutes) :
    Accounted { s with file := some s.memory } := by
  constructor
  · exact h.installed
  · exact h.remembered
  · exact h.remembered
  · intro route hr hli
    have hm : route ∈ s.memory.listed := by
      rcases hli with hl | hl
      · exact hl
      · exact hl
    exact h.owned route hr (Or.inl hm)
  · exact h.kept
  · exact h.format
  · refine ⟨s.memory, ?_⟩
    have hg : ¬ (s.memory.formatVersion ≠ routeStateFormat ∨ maxRoutes < s.memory.listed.length) := by
      simp only [h.format]
      omega
    simp only [loadState, hg, if_false]

lemma wp_persist (hd : Q (.ok ()) { s with file := some s.memory })
    (hf : ∀ error s', s' = s ∨ s' = { s with file := some s.memory } → Q (.error error) s') :
    wp (routeContract Egress) t (command .persist) Q s := by
  apply wp_command
  intro i r _ hi _ hs
  simp only [RouteWorld.exec] at hs
  split at hs
  · cases hs
    exact ⟨hi, hf _ s (Or.inl rfl)⟩
  · rename_i hl
    obtain ⟨outcome, -, rfl, rfl⟩ := outcome_cases hs
    have hk := hi.persist (Nat.le_of_not_lt hl)
    cases outcome with
    | done => exact ⟨hk, hd⟩
    | failed error => exact ⟨hi, hf error s (Or.inl rfl)⟩
    | late error => exact ⟨hk, hf error _ (Or.inr rfl)⟩

lemma wp_removeState (he : s.memory.listed = []) (hQ : ∀ r s', s'.memory = s.memory → Q r s') :
    wp (routeContract Egress) t (command .removeState) Q s := by
  apply wp_command
  intro i r _ hi _ hs
  obtain ⟨outcome, -, rfl, rfl⟩ := outcome_cases hs
  have ha : ∀ route, route ∉ s.added := by
    intro route hr
    have hli := hi.remembered route hr
    rw [he] at hli
    simp at hli
  have hg : Accounted { s with file := none } := by
    constructor
    · exact hi.installed
    · exact hi.remembered
    · exact fun route hr => absurd hr (ha route)
    · intro route hr hli
      rcases hli with hl | hl
      · exact hi.owned route hr (Or.inl hl)
      · simp [RouteWorld.persisted] at hl
    · exact hi.kept
    · exact hi.format
    · exact ⟨_, rfl⟩
  cases outcome with
  | done | late => exact ⟨hg, hQ _ _ rfl⟩
  | failed => exact ⟨hi, hQ _ _ rfl⟩

end Accounting

section Cleanup

variable {Egress Network : Type}

/-- What a removal of `routes` makes of the routes retained so far and of the
first error: memory is as it was, and a route that is left is retained. -/
structure Removed (s : RouteWorld) (routes before : List OwnedRoute)
    (firstError : Option ServiceError) (r : List OwnedRoute × Option ServiceError)
    (s' : RouteWorld) : Prop where
  memory : s'.memory = s.memory
  added : ∀ route ∈ s'.added, route ∈ s.added
  left : ∀ route ∈ routes, route ∈ s'.added → route ∈ r.1
  earlier : ∀ route ∈ before, route ∈ r.1
  within : ∀ route ∈ r.1, route ∈ before ∨ route ∈ routes
  /-- Without an error nothing more is retained. -/
  clean : r.2 = none → firstError = none ∧ r.1 = before

variable {routes before : List OwnedRoute}

lemma Removed.skip (h : Removed s1 routes before firstError r s')
    (hm : s1.memory = s.memory) (ha : ∀ q ∈ s1.added, q ∈ s.added)
    (hg : route ∉ s1.added) :
    Removed s (route :: routes) before firstError r s' := by
  constructor
  · exact h.memory.trans hm
  · exact fun q hq => ha q (h.added q hq)
  · intro q hq hq'
    rcases List.mem_cons.mp hq with rfl | hq
    · exact absurd (h.added _ hq') hg
    · exact h.left q hq hq'
  · exact h.earlier
  · intro q hq
    rcases h.within q hq with hq | hq
    · exact Or.inl hq
    · exact Or.inr (List.mem_cons_of_mem _ hq)
  · exact h.clean

lemma Removed.retain (h : Removed s1 routes (before ++ [route]) (noteError firstError error) r s')
    (hm : s1.memory = s.memory) (ha : ∀ q ∈ s1.added, q ∈ s.added) :
    Removed s (route :: routes) before firstError r s' := by
  constructor
  · exact h.memory.trans hm
  · exact fun q hq => ha q (h.added q hq)
  · intro q hq hq'
    rcases List.mem_cons.mp hq with rfl | hq
    · exact h.earlier _ (by simp)
    · exact h.left q hq hq'
  · exact fun q hq => h.earlier q (by simp [hq])
  · intro q hq
    rcases h.within q hq with hq | hq
    · rcases List.mem_append.mp hq with hq | hq
      · exact Or.inl hq
      · exact Or.inr (List.mem_cons.mpr (Or.inl (List.mem_singleton.mp hq)))
    · exact Or.inr (List.mem_cons_of_mem _ hq)
  · intro hno
    have hn := (h.clean hno).1
    simp [noteError] at hn

lemma wp_removeEach (t : ℕ) (pairs : List (OwnedRoute × Option RouteScope))
    (before : List OwnedRoute) (firstError : Option ServiceError) (s : RouteWorld)
    (hl : ∀ pair ∈ pairs, pair.1 ∈ s.memory.listed)
    (ha : ∀ pair ∈ pairs, pair.2 = none → pair.1 ∉ s.added) :
    wp (routeContract Egress) t (removeEach pairs before firstError)
      (Removed s (pairs.map Prod.fst) before firstError) s := by
  induction pairs generalizing before firstError s with
  | nil =>
    exact ⟨rfl, fun _ h => h, fun _ h => by simp at h, fun _ h => h, fun _ h => Or.inl h,
      fun h => ⟨h, rfl⟩⟩
  | cons pair rest ih =>
    obtain ⟨route, scope⟩ := pair
    have hro : route ∈ s.memory.listed := hl _ List.mem_cons_self
    have hr : ∀ p ∈ rest, p.1 ∈ s.memory.listed := fun p hp => hl p (List.mem_cons_of_mem _ hp)
    have hn : ∀ p ∈ rest, p.2 = none → p.1 ∉ s.added := fun p hp => ha p (List.mem_cons_of_mem _ hp)
    cases scope with
    | none =>
      have hg : route ∉ s.added := ha _ List.mem_cons_self rfl
      exact wp_mono (fun r s' h => h.skip rfl (fun _ hq => hq) hg) (ih before firstError s hr hn)
    | some =>
      have hle : ∀ q ∈ (s.uninstall route).added, q ∈ s.added :=
        fun q hq => (List.mem_filter.mp hq).1
      refine (wp_bind _ _ _ _ _ _).mpr (wp_removeRoute hro (fun hg => ?_) ?_)
      · exact wp_mono (fun r s' h => h.skip rfl hle hg)
          (ih before firstError _ hr fun p hp hp' => fun hq => hn p hp hp' (hle _ hq))
      · intro _ s1 hs1
        have hm : s1.memory = s.memory := by
          rcases hs1 with rfl | rfl <;> rfl
        have had : ∀ q ∈ s1.added, q ∈ s.added := by
          rcases hs1 with rfl | rfl
          · exact fun _ hq => hq
          · exact hle
        exact wp_mono (fun r s' h => h.retain hm had)
          (ih (before ++ [route]) _ s1 (fun p hp => hm ▸ hr p hp)
            fun p hp hp' => fun hq => hn p hp hp' (had _ hq))

variable {t : ℕ} {s : RouteWorld}

lemma wp_removePresentRoutes (routes : List OwnedRoute) (firstError : Option ServiceError)
    (hli : ∀ route ∈ routes, route ∈ s.memory.listed) :
    wp (routeContract Egress) t (removePresentRoutes routes firstError)
      (Removed s routes [] firstError) s := by
  have hal : ∀ error, Removed s routes [] firstError (routes, noteError firstError error) s := by
    intro _
    refine ⟨rfl, fun _ h => h, fun _ h _ => h, fun _ h => by simp at h, fun _ h => Or.inr h, ?_⟩
    intro hn
    simp [noteError] at hn
  unfold removePresentRoutes
  split
  · rename_i he
    have hni : routes = [] := List.isEmpty_iff.mp he
    subst hni
    exact ⟨rfl, fun _ h => h, fun _ h => by simp at h, fun _ h => h, fun _ h => Or.inl h,
      fun h => ⟨h, rfl⟩⟩
  · refine (wp_bind _ _ _ _ _ _).mpr (wp_routePresence (fun error _ => hal error) ?_)
    intro scope hi
    have hl : (s.presence routes scope).length = routes.length := by simp [RouteWorld.presence]
    simp only [hl, if_true]
    have hm : (routes.zip (s.presence routes scope)).map Prod.fst = routes :=
      List.map_fst_zip (Nat.le_of_eq hl.symm)
    have hpa : ∀ pair ∈ routes.zip (s.presence routes scope), pair.1 ∈ routes ∧
        (pair.2 = none → pair.1 ∉ s.added) := by
      intro _ hp
      simp only [RouteWorld.presence, ← List.map_prod_left_eq_zip, List.mem_map] at hp
      obtain ⟨route, hr, rfl⟩ := hp
      refine ⟨hr, fun hn ha => ?_⟩
      simp [hi.installed route ha] at hn
    have hlo := @wp_removeEach Egress t (routes.zip (s.presence routes scope)) [] firstError s
      (fun pair hp => hli _ (hpa pair hp).1)
      fun pair hp => (hpa pair hp).2
    rw [hm] at hlo
    exact hlo

lemma Accounted.forget (h : Accounted s) (hf : state.formatVersion = s.memory.formatVersion)
    (hc : ∀ route ∈ s.added, route ∈ state.listed)
    (ho : ∀ route ∈ state.listed, route ∈ s.table → route ∈ s.added) :
    Accounted { s with memory := state } := by
  constructor
  · exact h.installed
  · exact hc
  · exact h.journalled
  · intro route hr hli
    rcases hli with hl | hl
    · exact ho route hl hr
    · exact h.owned route hr (Or.inr hl)
  · exact h.kept
  · exact hf.trans h.format
  · exact h.loadable

lemma Accounted.forgetRemoved (h : Accounted s)
    (hf : state.formatVersion = s.memory.formatVersion)
    (hl : ∀ route ∈ state.listed, route ∈ s.memory.listed)
    (hc : ∀ route ∈ s.added, route ∈ s.memory.listed → route ∈ state.listed) :
    Accounted { s with memory := state } :=
  h.forget hf (fun route hr => hc route hr (h.remembered route hr))
    fun route hr ht => h.owned route ht (Or.inl (hl route hr))

lemma wp_settleJournal (state : OwnedRouteState) (hm : s.memory = state) :
    wp (routeContract Egress) t (settleJournal state)
      (fun _ s' => s'.memory.listed = state.listed) s := by
  subst hm
  unfold settleJournal
  by_cases hj : (s.memory.routes.isEmpty && s.memory.pendingRoutes.isEmpty) = true
  · rw [if_pos hj]
    have he : s.memory.routes = [] ∧ s.memory.pendingRoutes = [] := by
      simpa only [Bool.and_eq_true, List.isEmpty_iff] using hj
    have hl : s.memory.listed = [] := by simp [OwnedRouteState.listed, he.1, he.2]
    refine (wp_bind _ _ _ _ _ _).mpr (wp_writeState fun hi => ⟨?_, ?_⟩)
    · exact hi.forgetRemoved rfl (fun _ hr => hr) fun _ _ hr => hr
    · exact wp_removeState hl fun r s' hs' => by rw [hs']; rfl
  · rw [if_neg hj]
    refine wp_persist rfl fun _ s' hs' => ?_
    rcases hs' with rfl | rfl <;> rfl

lemma wp_cleanup :
    wp (routeContract Egress) t cleanup
      (fun r s' => r = .ok () → s'.memory.listed = []) s := by
  refine (wp_bind _ _ _ _ _ _).mpr (wp_readState fun _ => ?_)
  refine (wp_bind _ _ _ _ _ _).mpr (wp_mono ?_ (wp_removePresentRoutes s.memory.routes none
    fun route hro => List.mem_append_left _ hro))
  rintro ⟨_, firstError⟩ _ hf
  refine (wp_bind _ _ _ _ _ _).mpr (wp_writeState fun hi => ⟨?_, ?_⟩)
  · refine hi.forgetRemoved (by rw [hf.memory]) (fun route hro => ?_) fun route ha hro => ?_
    · rw [hf.memory]
      rcases List.mem_append.mp hro with hr | hr
      · rcases hf.within route hr with hr | hr
        · simp at hr
        · exact List.mem_append_left _ hr
      · exact List.mem_append_right _ hr
    · rw [hf.memory] at hro
      rcases List.mem_append.mp hro with hr | hr
      · exact List.mem_append_left _ (hf.left route hr ha)
      · exact List.mem_append_right _ hr
  · refine (wp_bind _ _ _ _ _ _).mpr (wp_mono ?_ (wp_removePresentRoutes s.memory.pendingRoutes
      firstError fun route hro => List.mem_append_right _ hro))
    rintro ⟨_, lastError⟩ _ hs
    refine (wp_bind _ _ _ _ _ _).mpr (wp_writeState fun hi => ⟨?_, ?_⟩)
    · refine hi.forgetRemoved (by rw [hs.memory]) (fun route hro => ?_) fun route ha hro => ?_
      · rw [hs.memory]
        rcases List.mem_append.mp hro with hr | hr
        · exact List.mem_append_left _ hr
        · rcases hs.within route hr with hr | hr
          · simp at hr
          · exact List.mem_append_right _ hr
      · rw [hs.memory] at hro
        rcases List.mem_append.mp hro with hr | hr
        · exact List.mem_append_left _ hr
        · exact List.mem_append_right _ (hs.left route hr ha)
    · refine (wp_bind _ _ _ _ _ _).mpr (wp_mono ?_ (wp_settleJournal _ rfl))
      intro r _ hl
      cases r with
      | error => simp
      | ok u =>
        intro ho
        -- success means that no error was noted, so that both lists were emptied
        cases lastError with
        | some => simp at ho
        | none =>
          obtain ⟨hn, hp⟩ := hs.clean rfl
          obtain ⟨-, hru⟩ := hf.clean hn
          rw [hl]
          simp only at hp hru
          simp [OwnedRouteState.listed, hp, hru]

end Cleanup

section Application

variable {Egress Network : Type}

lemma wp_recordApplied (ha : ∀ route ∈ s.added, route ∈ applied)
    (hl : ∀ route ∈ applied, route ∈ s.memory.listed)
    (hQ : Q () { s with memory := { s.memory with routes := applied, pendingRoutes := [] } }) :
    wp (routeContract Egress) t (recordApplied applied) Q s := by
  refine (wp_bind _ _ _ _ _ _).mpr (wp_readState fun hi => ?_)
  refine wp_writeState fun _ => ⟨?_, hQ⟩
  refine hi.forgetRemoved rfl (fun route hro => ?_) fun route hro _ => ?_
  · rcases List.mem_append.mp hro with hr | hr
    · exact hl route hr
    · simp at hr
  · exact List.mem_append_left _ (ha route hro)

variable {t : ℕ} {s : RouteWorld} {routes : List OwnedRoute}

lemma wp_cleanup_dropped (error : ServiceError) :
    wp (routeContract Egress) t (cleanup >>= fun _ => pure (Except.error error : Except ServiceError Unit))
      (fun _ _ => True) s :=
  (wp_bind _ _ _ _ _ _).mpr (wp_mono (fun _ _ _ => trivial) wp_cleanup)

/-- The loop of `apply`: what was added so far is in `applied`, and what is
still to be added stands in memory and in the journal. -/
lemma wp_addRoutes (applied : List OwnedRoute) (had : ∀ route ∈ s.added, route ∈ applied)
    (ha : ∀ route ∈ applied, route ∈ s.memory.listed)
    (hm : ∀ route ∈ routes, route ∈ s.memory.listed)
    (hf : ∀ route ∈ routes, route ∈ s.persisted) :
    wp (routeContract Egress) t (addRoutes routes applied) (fun _ _ => True) s := by
  induction routes generalizing applied s with
  | nil =>
    unfold addRoutes
    refine (wp_bind _ _ _ _ _ _).mpr (wp_recordApplied had ha ?_)
    refine (wp_bind _ _ _ _ _ _).mpr (wp_persist trivial fun error s' _ => ?_)
    exact wp_cleanup_dropped error
  | cons route rest ih =>
    unfold addRoutes
    refine (wp_bind _ _ _ _ _ _).mpr (wp_addRoute (hm _ List.mem_cons_self)
      (hf _ List.mem_cons_self) ?_ fun error => ?_)
    · have hs : (s.install route).memory = s.memory ∧ (s.install route).persisted = s.persisted := by
        unfold RouteWorld.install
        split <;> exact ⟨rfl, rfl⟩
      apply ih
      · intro r hr
        rcases mem_install hr with rfl | hr
        · simp
        · exact List.mem_append_left _ (had r hr)
      · intro r hr
        rw [hs.1]
        rcases List.mem_append.mp hr with hr | hr
        · exact ha r hr
        · rw [List.mem_singleton.mp hr]
          exact hm _ List.mem_cons_self
      · exact fun r hr => hs.1 ▸ hm r (List.mem_cons_of_mem _ hr)
      · exact fun r hr => hs.2 ▸ hf r (List.mem_cons_of_mem _ hr)
    · refine (wp_bind _ _ _ _ _ _).mpr (wp_recordApplied had ha ?_)
      refine (wp_bind _ _ _ _ _ _).mpr (wp_persist ?_ fun _ s' _ => ?_)
      · exact wp_cleanup_dropped error
      · exact wp_cleanup_dropped error

lemma wp_applyRoutes (policyHash : Option String) (he : s.memory.listed = []) :
    wp (routeContract Egress) t (applyRoutes routes policyHash) (fun _ _ => True) s := by
  unfold applyRoutes
  refine (wp_bind _ _ _ _ _ _).mpr (wp_routePresence (fun _ _ => trivial) fun scope hi => ?_)
  dsimp only
  split
  · exact trivial
  · rename_i hc
    have hab : ∀ route ∈ routes, route ∉ s.table := by
      intro route hr ht
      apply hc
      simp only [RouteWorld.presence, List.any_map, List.any_eq_true]
      exact ⟨route, hr, by simp [ht]⟩
    have hro : s.memory.routes = [] := (List.append_eq_nil_iff.mp he).1
    have ha : ∀ route, route ∉ s.added := by
      intro route hr
      have hl := hi.remembered route hr
      rw [he] at hl
      simp at hl
    refine (wp_bind _ _ _ _ _ _).mpr (wp_readState fun _ => ?_)
    refine (wp_bind _ _ _ _ _ _).mpr (wp_writeState fun _ => ⟨?_, ?_⟩)
    · refine hi.forget rfl (fun route hr => absurd hr (ha route)) ?_
      intro route hr ht
      simp only [OwnedRouteState.listed, hro, List.nil_append] at hr
      exact absurd ht (hab route hr)
    · refine (wp_bind _ _ _ _ _ _).mpr (wp_persist ?_ fun _ _ _ => trivial)
      apply wp_addRoutes
      · exact fun route hr => absurd hr (ha route)
      · exact fun route hr => by simp at hr
      · exact fun route hr => List.mem_append_right _ hr
      · exact fun route hr => List.mem_append_right _ hr

lemma wp_apply (ownedRoute : Egress → Network → OwnedRoute)
    (plan : Except String (RoutePlan Network)) :
    wp (routeContract Egress) t (apply ownedRoute plan) (fun _ _ => True) s := by
  unfold apply
  refine (wp_bind _ _ _ _ _ _).mpr (wp_mono ?_ wp_cleanup)
  intro r _ hc
  cases r with
  | error => exact trivial
  | ok u =>
    cases plan with
    | error => exact trivial
    | ok =>
      dsimp only
      split
      · exact trivial
      · refine (wp_bind _ _ _ _ _ _).mpr (wp_command fun i r _ hi _ hs => ?_)
        simp only [RouteWorld.exec, Option.map_eq_some_iff] at hs
        obtain ⟨_, -, hr⟩ := hs
        cases hr
        refine ⟨hi, ?_⟩
        cases r with
        | error => exact trivial
        | ok => exact wp_applyRoutes _ (hc rfl)

lemma Accounted.outside (h : Accounted s)
    (hu : ¬ (route ∈ s.memory.listed ∨ route ∈ s.persisted)) :
    Accounted (s.outside route present) := by
  have hf : ∀ r ∈ s.added, r ≠ route := by
    intro r hr he
    subst he
    exact hu (Or.inl (h.remembered r hr))
  unfold RouteWorld.outside
  split
  · refine ⟨fun r hr => List.mem_cons_of_mem _ (h.installed r hr), h.remembered, h.journalled,
      fun r hr hl => ?_, h.kept, h.format, h.loadable⟩
    rcases List.mem_cons.mp hr with rfl | hr
    · exact absurd hl hu
    · exact h.owned r hr hl
  · refine ⟨fun r hr => List.mem_filter.mpr ⟨h.installed r hr, by simp [hf r hr]⟩,
      h.remembered, h.journalled, fun r hr hl => h.owned r (List.mem_filter.mp hr).1 hl,
      h.kept, h.format, h.loadable⟩

variable (ownedRoute : Egress → Network → OwnedRoute)

lemma routeContract_covers : Covers (S := routeSystem ownedRoute) (routeContract Egress) := by
  intro op t s hi
  cases op with
  | apply plan => exact (wp_map _ _ _ _ _ _).mpr (wp_apply ownedRoute plan)
  | cleanup => exact (wp_map _ _ _ _ _ _).mpr (wp_mono (fun _ _ _ => trivial) wp_cleanup)
  | outside route present =>
    refine wp_command fun i r _ _ _ hs => ?_
    simp only [RouteWorld.exec] at hs
    split at hs
    · cases hs
    · rename_i hu
      cases hs
      exact ⟨hi.outside hu, trivial⟩

lemma accounted_restart (h : Accounted s) : Accounted ((routeSystem ownedRoute).restart s) := by
  obtain ⟨state, hs⟩ := h.loadable
  have hm : (routeSystem ownedRoute).restart s = { s with memory := state } := by
    simp only [routeSystem, hs]
    rfl
  rw [hm]
  have hl : state.listed = s.persisted ∧ state.formatVersion = routeStateFormat := by
    unfold loadState at hs
    split at hs
    · rename_i hf
      cases hs
      simp [RouteWorld.persisted, hf, OwnedRouteState.fresh, OwnedRouteState.listed]
    · rename_i st hf
      split at hs
      · cases hs
      · rename_i hg
        cases hs
        simp only [not_or, not_not] at hg
        exact ⟨by simp [RouteWorld.persisted, hf], hg.1⟩
  refine h.forget (hl.2.trans h.format.symm) ?_ ?_
  · exact fun route hr => hl.1 ▸ h.journalled route hr
  · exact fun route hr ht => h.owned route ht (Or.inr (hl.1 ▸ hr))

lemma accounted_untouched (table : List OwnedRoute) : Accounted (.untouched table) := by
  constructor <;> simp [RouteWorld.untouched, RouteWorld.persisted, OwnedRouteState.fresh,
    OwnedRouteState.listed, loadState]

/-- Owned routes are accounted for in every history of calls, deaths and
restarts in which no failing addition takes effect: an installed route that the
manager added stands in the journal, and no other route was removed. -/
theorem owned_routes_accounted (table : List OwnedRoute) {P : Pool (routeSystem ownedRoute)}
    (h : Reach Faithful (Pool.idle (RouteWorld.untouched table)) P) :
    (∀ route ∈ P.state.added, route ∈ P.state.table ∧ route ∈ P.state.persisted) ∧
      P.state.lost = [] := by
  have hi : Accounted P.state := Reach.sequential h
    (routeContract_covers ownedRoute) (fun _ => accounted_restart ownedRoute)
    (accounted_untouched table)
  exact ⟨fun route hr => ⟨hi.installed route hr, hi.journalled route hr⟩, hi.kept⟩

end Application

def detour : OwnedRoute := ⟨"203.0.113.0/24", "eth0", some "192.0.2.1", none⟩

abbrev detourSystem : System := routeSystem (fun (_ : Unit) (route : OwnedRoute) => route)

abbrev detourFaithful : StepCondition detourSystem := Faithful

instance (t : ℕ) (c : detourSystem.machine.Cmd) (i : detourSystem.machine.Input)
    (s : detourSystem.machine.State) : Decidable (detourFaithful t c i s) :=
  decidableFaithful t c i s

/-- One application of the detour; the end of the addition is `addition`. -/
def detourRun (addition : CommandOutcome) : List (Move detourSystem) :=
  .start (.apply (.ok ⟨some "policy", [detour]⟩)) ::
    segment (S := detourSystem) 0
      ([.unasked, .unasked, .unasked, .unasked, .outcome .done, .egress (.ok ()),
        .presence (.told fun _ => .unscoped), .unasked, .unasked, .outcome .done,
        .outcome addition, .unasked, .unasked, .outcome .done] : List (RouteInput Unit))

/-- The addition of a route times out although the route is there. The journal
is written without it, and the call ends with an installed route that no list names. -/
theorem late_addition_unaccounted :
    ∃ P : Pool detourSystem, Reach (unconditioned _) (Pool.idle (RouteWorld.untouched [])) P ∧
      detour ∈ P.state.added ∧ detour ∈ P.state.table ∧ detour ∉ P.state.persisted ∧
      detour ∉ P.state.memory.listed := by
  have hru : (moves (unconditioned _) (Pool.idle (RouteWorld.untouched []))
      (detourRun (.late (.backend "route_command_failed")))).map
        (fun P => (P.state.added, P.state.table, P.state.persisted, P.state.memory.listed)) =
      some ([detour], [detour], [], []) := by rfl
  obtain ⟨P, hr, ho⟩ := Reach.observed hru
  simp only [Prod.mk.injEq] at ho
  obtain ⟨ha, ht, hp, hm⟩ := ho
  refine ⟨P, hr, ?_⟩
  simp [ha, ht, hp, hm]

/-- The same application with an honest addition: the journal names the route. -/
theorem owned_routes_accounted_detour :
    ∃ P : Pool detourSystem, Reach Faithful (Pool.idle (RouteWorld.untouched [])) P ∧
      P.state.added = [detour] ∧ detour ∈ P.state.persisted ∧ P.state.lost = [] := by
  have hru : (moves detourFaithful (Pool.idle (RouteWorld.untouched [])) (detourRun .done)).map
      (fun P => P.state.added) = some [detour] := by rfl
  obtain ⟨P, hr, had⟩ := Reach.observed hru
  have ha := owned_routes_accounted (fun (_ : Unit) (route : OwnedRoute) => route) [] hr
  exact ⟨P, hr, had, (ha.1 detour (by simp [had])).2, ha.2⟩

end NelomaiClient.RouteManager
