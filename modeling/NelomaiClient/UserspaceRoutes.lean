import Mathlib.Data.Char
import Mathlib.Data.List.Dedup
import Mathlib.Data.List.Lex
import NelomaiClient.EngineService
import NelomaiClient.NetworkText

/-!
# Userspace routes of Linux

The routes of an AmneziaWG interface are planned from the peers, written to a
state file and added with `ip`; a restart loads the file to remove them. How
the commands and the file operations end is an argument of a call. The file is
represented by the state whose JSON text it holds.
-/

namespace NelomaiClient.UserspaceRoutes

open EngineService NetworkText

section State

def awgRouteStateFormat : ℕ := 1

def awgRouteStateMaxSize : ℕ := 64 * 1024

def amneziawgInterfaceName : Text := "nlm-awg0".toList

structure UserspaceRoute where
  family : Family
  destination : Text
  deriving DecidableEq

structure UserspaceRouteState where
  formatVersion : ℕ
  interfaceName : Text
  defaultFamilies : List Family
  routes : List UserspaceRoute

def UserspaceRouteState.active (state : UserspaceRouteState) : Bool :=
  !state.defaultFamilies.isEmpty || !state.routes.isEmpty

/-- Of a peer, the manager reads the networks. -/
structure Peer where
  allowedIps : List IpNet

def networks (peers : List Peer) : List IpNet := peers.flatMap (·.allowedIps)

def IpNet.isDefault (net : IpNet) : Bool := net.addr.number == 0 && net.prefixLen == 0

variable (ipv6 : Ipv6Text)

def routeOf (net : IpNet) : UserspaceRoute := ⟨net.addr.family, net.text ipv6⟩

/-- The sets of the source have no order of their own, and both lists are sorted. -/
def userspaceRoutePlan (interfaceName : Text) (peers : List Peer) : UserspaceRouteState :=
  let defaultFamilies := [Family.ipv4, .ipv6].filter fun family =>
    (networks peers).any fun net => IpNet.isDefault net && net.addr.family == family
  let routes := (((networks peers).filter (!IpNet.isDefault ·)).map (routeOf ipv6)).dedup
  { formatVersion := awgRouteStateFormat
    interfaceName
    defaultFamilies
    routes := (routes.filter fun route => !defaultFamilies.contains route.family).mergeSort
      fun left right => decide (left.destination ≤ right.destination) }

def Family.json : Family → Text
  | .ipv4 => "\"ipv4\"".toList
  | .ipv6 => "\"ipv6\"".toList

def UserspaceRoute.json (route : UserspaceRoute) : Text :=
  "\x7b\"family\":".toList ++ Family.json route.family ++ ",\"destination\":\"".toList ++
    route.destination ++ "\"\x7d".toList

/-- No text of a planned state needs an escape, and all its characters are single bytes. -/
def UserspaceRouteState.json (state : UserspaceRouteState) : Text :=
  "\x7b\"format_version\":".toList ++ decimal state.formatVersion ++
    ",\"interface_name\":\"".toList ++ state.interfaceName ++ "\",\"default_families\":[".toList ++
    [','].intercalate (state.defaultFamilies.map Family.json) ++ "],\"routes\":[".toList ++
    [','].intercalate (state.routes.map (·.json)) ++ "]\x7d".toList

def validateUserspaceRouteState (state : UserspaceRouteState) : Except ServiceError Unit :=
  if state.formatVersion ≠ awgRouteStateFormat ∨ state.interfaceName = [] ∨
      state.interfaceName.any isWhitespace ∨ state.defaultFamilies.length > 2 ∨
      state.routes.length > 1024 then
    .error (.backend "route_state_invalid")
  else if ¬ state.defaultFamilies.Nodup then .error (.backend "route_state_invalid")
  else if ∃ route ∈ state.routes, (parseIpNet ipv6 route.destination).all fun network =>
      network.text ipv6 ≠ route.destination ∨ network.addr.family ≠ route.family then
    .error (.backend "route_state_invalid")
  else .ok ()

def loadUserspaceRouteState :
    Option UserspaceRouteState → Except ServiceError (Option UserspaceRouteState)
  | none => .ok none
  | some state => do
    if state.json.length > awgRouteStateMaxSize then
      throw (.backend "route_state_invalid")
    validateUserspaceRouteState ipv6 state
    return some state

end State

section Manager

structure LinuxUserspaceRouteManager where
  /-- What the state file holds. -/
  file : Option UserspaceRouteState
  state : Option UserspaceRouteState

/-- How the commands of `cleanup` end, and whether it can remove the state file. -/
structure CleanupOutcome where
  commands : Except ServiceError Unit
  removed : Bool

structure ApplyOutcome where
  before : CleanupOutcome
  after : CleanupOutcome
  /-- `ensure_targets_available`. -/
  targets : Except ServiceError Unit
  temporaryRemoved : Bool
  written : Bool
  renamed : Bool
  /-- Whether `src_valid_mark` could be set. -/
  marked : Bool
  /-- `apply_state`. -/
  applied : Except ServiceError Unit

def cleanup (outcome : CleanupOutcome) (manager : LinuxUserspaceRouteManager) :
    Except ServiceError Unit × LinuxUserspaceRouteManager :=
  match manager.state, outcome.commands with
  | none, _ => (.ok (), manager)
  | some _, .error error => (.error error, manager)
  | some _, .ok () =>
    if outcome.removed then (.ok (), ⟨none, none⟩)
    else (.error (.backend "route_state_remove_failed"), manager)

def persistUserspaceRouteState (outcome : ApplyOutcome) (state : UserspaceRouteState) :
    Except ServiceError Unit := do
  if state.json.length > awgRouteStateMaxSize then throw (.backend "route_state_too_large")
  unless outcome.temporaryRemoved do throw (.backend "route_state_remove_failed")
  unless outcome.written do throw (.backend "route_state_write_failed")
  unless outcome.renamed do throw (.backend "route_state_activate_failed")

variable (ipv6 : Ipv6Text)

def applyRoutes (outcome : ApplyOutcome) (interfaceName : Text) (peers : List Peer)
    (manager : LinuxUserspaceRouteManager) :
    Except ServiceError Unit × LinuxUserspaceRouteManager :=
  match cleanup outcome.before manager with
  | (.error error, manager) => (.error error, manager)
  | (.ok (), manager) =>
    let state := userspaceRoutePlan ipv6 interfaceName peers
    if !state.active then (.ok (), manager)
    else match outcome.targets >>= fun _ => persistUserspaceRouteState outcome state with
      | .error error => (.error error, manager)
      | .ok () =>
        let manager := ⟨some state, some state⟩
        if state.defaultFamilies.contains .ipv4 && !outcome.marked then
          (.error (.backend "route_command_failed"), (cleanup outcome.after manager).2)
        else match outcome.applied with
          | .error error => (.error error, (cleanup outcome.after manager).2)
          | .ok () => (.ok (), manager)

end Manager

section Restart

variable {ipv6 : Ipv6Text} {peers : List Peer}

variable (ipv6 peers) in
/-- What the backend of the interface plans. -/
abbrev plan : UserspaceRouteState := userspaceRoutePlan ipv6 amneziawgInterfaceName peers

lemma cleanup_ok (h : cleanup outcome m = (.ok (), m')) : m'.state = none := by
  unfold cleanup at h
  split at h
  case h_1 hs => rw [← (Prod.mk.inj h).2, hs]
  case h_2 => cases h
  case h_3 =>
    split at h
    · rw [← (Prod.mk.inj h).2]
    · cases h

lemma persist_ok (h : persistUserspaceRouteState outcome state = .ok ()) :
    state.json.length ≤ awgRouteStateMaxSize := by
  by_contra hl
  rw [persistUserspaceRouteState, if_pos (Nat.lt_of_not_le hl)] at h
  cases h

/-- After a call that succeeds, a remembered state is the plan, and the file holds it. -/
lemma applyRoutes_ok (h : applyRoutes ipv6 outcome amneziawgInterfaceName peers m = (.ok (), m'))
    (hs : m'.state = some state) : state = plan ipv6 peers ∧
      m'.file = some state ∧ state.json.length ≤ awgRouteStateMaxSize := by
  unfold applyRoutes at h
  split at h
  case h_1 => cases h
  case h_2 hc =>
    simp only at h
    split at h
    · rw [← (Prod.mk.inj h).2, cleanup_ok hc] at hs
      cases hs
    · split at h
      case h_1 => cases h
      case h_2 hp =>
        have hl : (plan ipv6 peers).json.length ≤ awgRouteStateMaxSize := by
          cases ht : outcome.targets with
          | error e => simp [ht, bind, Except.bind] at hp
          | ok u => exact persist_ok (by simpa [ht, bind, Except.bind] using hp)
        split at h
        · cases h
        · split at h
          · cases h
          · obtain rfl := (Prod.mk.inj h).2
            obtain rfl := Option.some.inj hs
            exact ⟨rfl, rfl, hl⟩

lemma mem_routes_plan (h : route ∈ (plan ipv6 peers).routes) :
    ∃ net ∈ networks peers, route = routeOf ipv6 net := by
  simp only [userspaceRoutePlan, List.mem_mergeSort, List.mem_filter, List.mem_dedup,
    List.mem_map] at h
  obtain ⟨⟨net, ⟨hn, _⟩, rfl⟩, _⟩ := h
  exact ⟨net, hn, rfl⟩

/-- Every check of the reader but the one of the number of routes holds of every plan. -/
lemma validate_plan (hl : (plan ipv6 peers).routes.length ≤ 1024)
    (h6 : ∀ net ∈ networks peers, ∀ bits, net.addr = .v6 bits → ipv6.Reads bits) :
    validateUserspaceRouteState ipv6 (plan ipv6 peers) = .ok () := by
  have hsub : (plan ipv6 peers).defaultFamilies.Sublist [.ipv4, .ipv6] := List.filter_sublist
  unfold validateUserspaceRouteState
  rw [if_neg, if_neg, if_neg]
  · rintro ⟨route, hr, hf⟩
    obtain ⟨net, hn, rfl⟩ := mem_routes_plan hr
    simp [routeOf, parseIpNet_text ipv6 (h6 net hn)] at hf
  · exact not_not.mpr (hsub.nodup (by decide))
  · have h2 : (plan ipv6 peers).defaultFamilies.length ≤ 2 := hsub.length_le
    rintro (hv | hv | hv | hv | hv)
    · exact hv rfl
    · exact absurd (show amneziawgInterfaceName = [] from hv) (by decide)
    · exact absurd (show amneziawgInterfaceName.any isWhitespace = true from hv) (by decide)
    · omega
    · omega

/-- The reader refuses a state of more routes. -/
lemma validate_many {state : UserspaceRouteState} (h : 1024 < state.routes.length) :
    validateUserspaceRouteState ipv6 state = .error (.backend "route_state_invalid") :=
  if_pos (.inr (.inr (.inr (.inr h))))

/-- What an apply that succeeds remembers is in the file, and it is loaded after a restart exactly
when the plan has at most 1024 routes. The assumption about IPv6 is the round trip of the
notation, for the addresses of the peers. -/
theorem applied_state_loads {outcome : ApplyOutcome} {m m' : LinuxUserspaceRouteManager}
    {state : UserspaceRouteState}
    (h6 : ∀ net ∈ networks peers, ∀ bits, net.addr = .v6 bits → ipv6.Reads bits)
    (h : applyRoutes ipv6 outcome amneziawgInterfaceName peers m = (.ok (), m'))
    (hs : m'.state = some state) :
    m'.file = some state ∧
      (loadUserspaceRouteState ipv6 m'.file = .ok (some state) ↔
        (plan ipv6 peers).routes.length ≤ 1024) := by
  obtain ⟨rfl, hf, hsize⟩ := applyRoutes_ok h hs
  refine ⟨hf, ?_⟩
  rw [hf, loadUserspaceRouteState, if_neg (Nat.not_lt.mpr hsize)]
  by_cases hl : (plan ipv6 peers).routes.length ≤ 1024
  · simp [validate_plan hl h6, hl, bind, Except.bind, pure, Except.pure]
  · simp [validate_many (Nat.lt_of_not_le hl), hl, bind, Except.bind]

lemma length_intercalate_le (ts : List Text) (k : ℕ) (h : ∀ t ∈ ts, t.length ≤ k) :
    ([','].intercalate ts).length ≤ (k + 1) * ts.length := by
  induction ts with
  | nil => simp
  | cons t ts ih =>
    obtain ⟨ht, hts⟩ := List.forall_mem_cons.mp h
    have hl := ih hts
    cases ts with
    | nil => simpa [List.intercalate] using Nat.le_succ_of_le ht
    | cons u ts =>
      rw [List.intercalate, List.intersperse_cons_cons, List.flatten_cons, List.flatten_cons,
        ← List.intercalate]
      simp only [List.length_append, List.length_cons, List.length_nil] at hl ⊢
      rw [Nat.mul_succ]
      omega

lemma length_json_family (family : Family) : (Family.json family).length = 6 := by
  cases family <;> decide

lemma length_json_route (route : UserspaceRoute) :
    route.json.length ≤ 34 + route.destination.length := by
  unfold UserspaceRoute.json
  simp [length_json_family]
  omega

lemma length_json_le {state : UserspaceRouteState}
    (hv : state.formatVersion = awgRouteStateFormat)
    (hn : state.interfaceName = amneziawgInterfaceName) (hf : state.defaultFamilies.length ≤ 2)
    (hd : ∀ route ∈ state.routes, route.destination.length ≤ 19) :
    state.json.length ≤ 128 + 54 * state.routes.length := by
  have hfs := length_intercalate_le (state.defaultFamilies.map Family.json) 6
    (by simp [length_json_family])
  have hrs := length_intercalate_le (state.routes.map (·.json)) 53
    (List.forall_mem_map.mpr fun route hr =>
      (length_json_route route).trans (Nat.add_le_add_left (hd route hr) 34))
  rw [List.length_map] at hfs hrs
  have hd1 : (decimal awgRouteStateFormat).length = 1 := by decide
  have hn8 : amneziawgInterfaceName.length = 8 := by decide
  unfold UserspaceRouteState.json
  simp [hv, hn, hd1, hn8]
  omega

lemma length_text_v4 (h : n ≤ Family.ipv4.width) :
    ((⟨.v4 a b c d, n, h⟩ : IpNet).text ipv6).length ≤ 19 := by
  have hn := length_decimal ⟨n, by simp only [Family.width] at h; omega⟩
  have ha := length_decimal a
  have hb := length_decimal b
  have hc := length_decimal c
  have hd := length_decimal d
  simp [IpNet.text, IpAddr.text, List.intercalate, List.intersperse] at hn ⊢
  omega

/-- A notation that knows one address. -/
def zeroText : Ipv6Text where
  text _ := "::".toList
  parse t := if t = "::".toList then some 0 else none

def plainOutcome : ApplyOutcome :=
  { before := ⟨.ok (), true⟩, after := ⟨.ok (), true⟩, targets := .ok (), temporaryRemoved := true,
    written := true, renamed := true, marked := true, applied := .ok () }

lemma length_plan (hd : ∀ net ∈ networks peers, IpNet.isDefault net = false)
    (hn : ((networks peers).map (routeOf ipv6)).Nodup) :
    (plan ipv6 peers).routes.length = (networks peers).length := by
  have ha : (networks peers).filter (!IpNet.isDefault ·) = networks peers :=
    List.filter_eq_self.mpr fun net hm => by simp [hd net hm]
  have hf (family : Family) : ((networks peers).any fun net =>
      IpNet.isDefault net && net.addr.family == family) = false :=
    List.any_eq_false.mpr fun net hm => by simp [hd net hm]
  simp only [userspaceRoutePlan, List.length_mergeSort, ha, hf, hn.dedup]
  simp

/-- Networks with short texts are applied when no operation fails, up to 1025 of them. -/
lemma applyRoutes_short (hd : ∀ net ∈ networks peers, IpNet.isDefault net = false)
    (hn : ((networks peers).map (routeOf ipv6)).Nodup)
    (ht : ∀ net ∈ networks peers, (net.text ipv6).length ≤ 19)
    (h0 : 0 < (networks peers).length)
    (hl : (networks peers).length ≤ 1025) :
    applyRoutes ipv6 plainOutcome amneziawgInterfaceName peers ⟨none, none⟩ =
      (.ok (), ⟨some (plan ipv6 peers), some (plan ipv6 peers)⟩) := by
  have hlen : (plan ipv6 peers).routes.length = _ := length_plan hd hn
  have hdest : ∀ route ∈ (plan ipv6 peers).routes, route.destination.length ≤ 19 := by
    intro route hr
    obtain ⟨net, hm, rfl⟩ := mem_routes_plan hr
    exact ht net hm
  have hsize : ¬ (plan ipv6 peers).json.length > awgRouteStateMaxSize := by
    have hj := length_json_le rfl rfl List.filter_sublist.length_le hdest
    have hm : awgRouteStateMaxSize = 65536 := rfl
    omega
  have hact : (plan ipv6 peers).active := by
    have hne : (plan ipv6 peers).routes ≠ [] := List.length_pos_iff.mp (hlen ▸ h0)
    simp [UserspaceRouteState.active, hne]
  simp [applyRoutes, cleanup, plainOutcome, hact, persistUserspaceRouteState, hsize,
    bind, Except.bind, pure, Except.pure]

def splitPeer : Peer := ⟨[⟨.v4 10 0 0 0, 8, by decide⟩, ⟨.v6 0, 1, by decide⟩]⟩

lemma zeroText_reads : zeroText.Reads 0 := ⟨by decide, by decide, by decide⟩

theorem split_peer_loads : ∃ m : LinuxUserspaceRouteManager, ∃ state,
    applyRoutes zeroText plainOutcome amneziawgInterfaceName [splitPeer] ⟨none, none⟩ = (.ok (), m) ∧
      m.state = some state ∧ m.file = some state ∧
      loadUserspaceRouteState zeroText m.file = .ok (some state) := by
  have hd : ∀ net ∈ networks [splitPeer], IpNet.isDefault net = false := by decide
  have hn : ((networks [splitPeer]).map (routeOf zeroText)).Nodup := by decide
  have happ := applyRoutes_short hd hn (by decide) (by decide) (by decide)
  have h6 : ∀ net ∈ networks [splitPeer], ∀ bits, net.addr = .v6 bits → zeroText.Reads bits := by
    intro net hm bits hb
    obtain rfl | rfl : net = _ ∨ net = _ := by simpa [networks, splitPeer] using hm
    · cases hb
    · cases hb
      exact zeroText_reads
  obtain ⟨hf, hl⟩ := applied_state_loads h6 happ rfl
  exact ⟨_, _, happ, rfl, hf, hl.mpr (by rw [length_plan hd hn]; decide)⟩

def hostNet (i : ℕ) : IpNet :=
  ⟨.v4 10 0 (Fin.ofNat 256 (i / 256)) (Fin.ofNat 256 i), 32, Nat.le_refl 32⟩

lemma hostNet_injective (hi : i < 65536) (hj : j < 65536)
    (h : routeOf zeroText (hostNet i) = routeOf zeroText (hostNet j)) : i = j := by
  have hp (i : ℕ) : parseIpNet zeroText ((hostNet i).text zeroText) = some (hostNet i) :=
    parseIpNet_text zeroText fun bits hb => by cases hb
  have ht := congrArg (parseIpNet zeroText) (congrArg UserspaceRoute.destination h)
  have hij : hostNet i = hostNet j := Option.some.inj ((hp i).symm.trans (ht.trans (hp j)))
  injection hij with haddr
  injection haddr with _ _ hc hd
  have hc := Fin.val_eq_of_eq hc
  have hd := Fin.val_eq_of_eq hd
  simp only [Fin.val_ofNat] at hc hd
  omega

def manyPeer : Peer := ⟨(List.range 1025).map hostNet⟩

theorem many_routes_refused : ∃ m : LinuxUserspaceRouteManager,
    applyRoutes zeroText plainOutcome amneziawgInterfaceName [manyPeer] ⟨none, none⟩ = (.ok (), m) ∧
      loadUserspaceRouteState zeroText m.file = .error (.backend "route_state_invalid") := by
  have hnets : networks [manyPeer] = (List.range 1025).map hostNet := by
    simp [networks, manyPeer]
  have hd : ∀ net ∈ networks [manyPeer], IpNet.isDefault net = false := by
    rw [hnets]
    exact List.forall_mem_map.mpr fun i _ => by simp [hostNet, IpNet.isDefault]
  have hn : ((networks [manyPeer]).map (routeOf zeroText)).Nodup := by
    rw [hnets, List.map_map]
    refine List.nodup_range.map_on fun i hi j hj => ?_
    exact hostNet_injective (by simp at hi; omega) (by simp at hj; omega)
  have happ := applyRoutes_short hd hn (by
    rw [hnets]
    exact List.forall_mem_map.mpr fun i _ => length_text_v4 _) (by simp [hnets]) (by simp [hnets])
  have hval : validateUserspaceRouteState zeroText (plan zeroText [manyPeer]) =
      .error (.backend "route_state_invalid") :=
    validate_many (by simp [length_plan hd hn, hnets])
  refine ⟨_, happ, ?_⟩
  simp only [loadUserspaceRouteState, hval]
  split <;> rfl

end Restart

end NelomaiClient.UserspaceRoutes
