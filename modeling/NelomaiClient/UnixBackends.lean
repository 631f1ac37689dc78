import NelomaiClient.EngineService
import NelomaiClient.PanelContract

/-!
# The tunnel backends of Linux and macOS

A start acquires an interface, perhaps an engine process and, on macOS, routes
to the endpoints; a stop removes what the backend remembers. Every command ends
as the environment decides: the endings of a call are its argument. The route
managers are modelled elsewhere, so that a call of one ends here in any way and
leaves it with or without routes. What the starts of a backend acquired and no
command has removed is kept beside the backend.
-/

namespace NelomaiClient.UnixBackends

open EngineService
open PanelContract (TunnelTransport)

inductive Holding where
  | interface (name : String)
  | engine (name : String)
  | endpointRoute (endpoint : String)
  deriving DecidableEq

def Holding.belongsTo (name : String) : Holding → Bool
  | .interface n | .engine n => n == name
  | .endpointRoute _ => false

inductive Removal where
  | done
  | failed (error : ServiceError) (gone : Bool)

def Removal.error? : Removal → Option ServiceError
  | .done => none
  | .failed error _ => some error

def Removal.effective : Removal → Bool
  | .done => true
  | .failed _ gone => gone

def release (name : String) (removal : Removal) (held : List Holding) : List Holding :=
  if removal.effective then held.filter (fun x => !x.belongsTo name) else held

/-- How a call of a route manager ends, and whether it has routes afterwards. -/
structure RouteCall where
  result : Except ServiceError Unit
  hasRoutes : Bool

def firstErrorResult (firstError : Option ServiceError) : Except ServiceError Unit :=
  firstError.elim (.ok ()) .error

structure Configuration where
  transport : TunnelTransport
  /-- Whether there are parameters of AmneziaWG. -/
  awg3 : Bool
  dns : Bool
  /-- `build_backend_configuration`: the endpoints of the peers. -/
  native : Except ServiceError (List String)

def configureInterfaceAfterAwg3 (parameters : Bool) (applyAwg3 configureInterface : Except ServiceError Unit) :
    Except ServiceError Unit :=
  if parameters then
    match applyAwg3 with
    | .error error => .error error
    | .ok () => configureInterface
  else configureInterface

structure Host (Backend : Type) where
  backend : Backend
  held : List Holding

def Host.built {Backend : Type} (backend : Backend) : Host Backend := ⟨backend, []⟩

structure Platform where
  Backend : Type
  StartEndings : Type
  StopEndings : Type
  start : StartEndings → Configuration → Host Backend →
    Except ServiceError ServiceTunnelState × Host Backend
  stop : StopEndings → Host Backend → Except ServiceError ServiceTunnelState × Host Backend

inductive Call (P : Platform) where
  | start (configuration : Configuration) (endings : P.StartEndings)
  | stop (endings : P.StopEndings)

def perform {P : Platform} (h : Host P.Backend) : Call P → Host P.Backend
  | .start configuration endings => (P.start endings configuration h).2
  | .stop endings => (P.stop endings h).2

def run {P : Platform} (history : List (Call P)) (h : Host P.Backend) : Host P.Backend :=
  history.foldl perform h

lemma run_invariant {I : Host P.Backend → Prop} {allowed : Call P → Prop}
    (hs : ∀ call h, allowed call → I h → I (perform h call)) (hi : List (Call P))
    (ha : ∀ call ∈ hi, allowed call) (h : Host P.Backend) (hin : I h) :
    I (run hi h) := by
  induction hi generalizing h with
  | nil => exact hin
  | cons call rest ih =>
    have hn : I (perform h call) := hs call h (ha call (by simp)) hin
    exact ih (fun c hc => ha c (by simp [hc])) (perform h call) hn

def interfaceName : TunnelTransport → String
  | .wireGuard => "nlm-wg0"
  | .amneziaWg3 => "nlm-awg0"

structure LinuxBackend where
  /-- Transport of the tunnel that the backend knows of. -/
  activeTransport : Option TunnelTransport
  amneziawgRoutes : Bool
  routes : Bool
  state : ServiceTunnelState

structure LinuxStop where
  amneziawgCleanup : RouteCall
  removal : Removal
  routesCleanup : RouteCall

def LinuxBackend.stopInner (e : LinuxStop) (h : Host LinuxBackend) :
    Except ServiceError Unit × Host LinuxBackend :=
  let interfaceError := h.backend.activeTransport.bind fun _ => e.removal.error?
  let firstError :=
    ((failure? e.amneziawgCleanup.result).or interfaceError).or (failure? e.routesCleanup.result)
  (firstErrorResult firstError,
    { backend :=
        { h.backend with
          activeTransport := none, amneziawgRoutes := e.amneziawgCleanup.hasRoutes
          routes := e.routesCleanup.hasRoutes }
      held :=
        match h.backend.activeTransport with
        | some transport => release (interfaceName transport) e.removal h.held
        | none => h.held })

structure LinuxLaunch where
  socketExists : Bool
  status : Except ServiceError Bool
  /-- Whether the socket appeared within `START_TIMEOUT`. -/
  socketAppeared : Bool
  /-- Whether a failed launch leaves an interface. -/
  interfaceLeft : Bool
  /-- Whether a failed launch leaves an engine. -/
  engineLeft : Bool

def tunnelHoldings : TunnelTransport → List Holding
  | .wireGuard => [.interface (interfaceName .wireGuard)]
  | .amneziaWg3 => [.interface (interfaceName .amneziaWg3), .engine (interfaceName .amneziaWg3)]

def LinuxLaunch.left (e : LinuxLaunch) : List Holding :=
  (if e.interfaceLeft then [.interface (interfaceName .amneziaWg3)] else []) ++
    if e.engineLeft then [.engine (interfaceName .amneziaWg3)] else []

def launchAmneziawgGo (e : LinuxLaunch) : Except ServiceError Unit × List Holding :=
  if e.socketExists then (.error (.backend "amneziawg_interface_already_exists"), [])
  else
    match e.status with
    | .error error => (.error error, e.left)
    | .ok false => (.error (.backend "amneziawg_go_start_failed"), e.left)
    | .ok true =>
      if e.socketAppeared then (.ok (), tunnelHoldings .amneziaWg3)
      else (.error (.backend "amneziawg_go_start_timeout"), e.left)

/-- How `create_interface` ends; one that fails leaves an interface or not. -/
structure Creation where
  result : Except ServiceError Unit
  /-- Whether a failed creation leaves an interface. -/
  interfaceLeft : Bool

/-- The creation of an interface in the kernel, with what it leaves on the machine. -/
def createInterface (e : Creation) : Except ServiceError Unit × List Holding :=
  match e.result with
  | .ok () => (.ok (), tunnelHoldings .wireGuard)
  | .error error => (.error error, if e.interfaceLeft then tunnelHoldings .wireGuard else [])

structure LinuxStart where
  initial : LinuxStop
  routesApply : RouteCall
  creation : Creation
  binary : Except ServiceError Unit
  launch : LinuxLaunch
  awg3 : Except ServiceError Unit
  configured : Except ServiceError Unit
  peerRouting : Except ServiceError Unit
  amneziawgApply : RouteCall
  dns : Except ServiceError Unit
  rollback : LinuxStop
  final : LinuxStop

def LinuxStart.acquire (e : LinuxStart) : TunnelTransport → Except ServiceError Unit × List Holding
  | .wireGuard => createInterface e.creation
  | .amneziaWg3 =>
    match e.binary with
    | .error error => (.error error, [])
    | .ok () => launchAmneziawgGo e.launch

/-- `configured_routes`, with whether the routes of the engine are there. -/
def LinuxStart.configuredRoutes (e : LinuxStart) (before : Bool) :
    TunnelTransport → Except ServiceError Unit × Bool
  | .wireGuard =>
    match e.peerRouting with
    | .error error => (.error error, before)
    | .ok () => (e.dns, before)
  | .amneziaWg3 =>
    match e.amneziawgApply.result with
    | .error error => (.error error, e.amneziawgApply.hasRoutes)
    | .ok () => (e.dns, e.amneziawgApply.hasRoutes)

namespace LinuxBackend

def abandon (e : LinuxStop) (error : ServiceError) (h : Host LinuxBackend) :
    Except ServiceError Unit × Host LinuxBackend := (.error error, (stopInner e h).2)

def configure (e : LinuxStart) (configuration : Configuration) (h : Host LinuxBackend) :
    Except ServiceError Unit × Host LinuxBackend :=
  match configureInterfaceAfterAwg3 configuration.awg3 e.awg3 e.configured with
  | .error error => abandon e.rollback error h
  | .ok () =>
    let (configuredRoutes, amneziawgRoutes) :=
      e.configuredRoutes h.backend.amneziawgRoutes configuration.transport
    let h : Host LinuxBackend :=
      { h with backend := { h.backend with amneziawgRoutes := amneziawgRoutes } }
    match configuredRoutes with
    | .error error => abandon e.rollback error h
    | .ok () => (.ok (), h)

def raise (e : LinuxStart) (configuration : Configuration) (h : Host LinuxBackend) :
    Except ServiceError Unit × Host LinuxBackend :=
  match configuration.native with
  | .error error => (.error error, h)
  | .ok _ =>
    let h : Host LinuxBackend := { h with backend := { h.backend with routes := e.routesApply.hasRoutes } }
    match e.routesApply.result with
    | .error error => (.error error, h)
    | .ok () =>
      let (acquired, holdings) := e.acquire configuration.transport
      let h : Host LinuxBackend := { h with held := h.held ++ holdings }
      match acquired with
      | .error error => (.error error, h)
      | .ok () =>
        configure e configuration
          { h with backend := { h.backend with activeTransport := some configuration.transport } }

def startInner (e : LinuxStart) (configuration : Configuration) (h : Host LinuxBackend) :
    Except ServiceError Unit × Host LinuxBackend :=
  if h.backend.activeTransport.isSome || h.backend.amneziawgRoutes || h.backend.routes then
    match stopInner e.initial h with
    | (.error error, h) => (.error error, h)
    | (.ok (), h) => raise e configuration h
  else raise e configuration h

def enter (state : ServiceTunnelState) (h : Host LinuxBackend) : Host LinuxBackend :=
  { h with backend := { h.backend with state := state } }

def start (e : LinuxStart) (configuration : Configuration) (h : Host LinuxBackend) :
    Except ServiceError ServiceTunnelState × Host LinuxBackend :=
  match startInner e configuration (enter .starting h) with
  | (.ok (), h) => (.ok .running, enter .running h)
  | (.error error, h) => (.error error, enter .failed (stopInner e.final h).2)

def stop (e : LinuxStop) (h : Host LinuxBackend) :
    Except ServiceError ServiceTunnelState × Host LinuxBackend :=
  match stopInner e (enter .stopping h) with
  | (.ok (), h) => (.ok .stopped, enter .stopped h)
  | (.error error, h) => (.error error, enter .failed h)

end LinuxBackend

def linux : Platform where
  Backend := LinuxBackend
  StartEndings := LinuxStart
  StopEndings := LinuxStop
  start := LinuxBackend.start
  stop := LinuxBackend.stop

def LinuxStop.Clean (e : LinuxStop) : Prop := e.removal.effective = true

/-- A tunnel that could not be made leaves nothing, and every stop inside the
start is clean. -/
structure LinuxStart.Clean (e : LinuxStart) : Prop where
  initial : e.initial.Clean
  creation : e.creation.interfaceLeft = false
  launchInterface : e.launch.interfaceLeft = false
  launchEngine : e.launch.engineLeft = false
  rollback : e.rollback.Clean
  final : e.final.Clean

def LinuxClean : Call linux → Prop
  | .start _ endings => LinuxStart.Clean endings
  | .stop endings => LinuxStop.Clean endings

/-- What is left of the acquisitions is the tunnel that the backend remembers. -/
def LinuxRemembered (h : Host LinuxBackend) : Prop :=
  ∀ x ∈ h.held, ∃ transport, h.backend.activeTransport = some transport ∧ x ∈ tunnelHoldings transport

lemma belongsTo_of_mem_tunnelHoldings (hx : x ∈ tunnelHoldings transport) :
    x.belongsTo (interfaceName transport) = true := by
  cases transport with
  | wireGuard =>
    simp only [tunnelHoldings, List.mem_singleton] at hx
    simp [hx, Holding.belongsTo]
  | amneziaWg3 =>
    simp only [tunnelHoldings, List.mem_cons, List.not_mem_nil, or_false] at hx
    rcases hx with hx | hx <;> simp [hx, Holding.belongsTo]

lemma LinuxRemembered.held_eq_nil (hr : LinuxRemembered h)
    (hn : h.backend.activeTransport = none) : h.held = [] := by
  rw [List.eq_nil_iff_forall_not_mem]
  intro x hx
  obtain ⟨_, ht, -⟩ := hr x hx
  rw [hn] at ht
  cases ht

lemma linuxRemembered_of_nil (hn : h.held = []) : LinuxRemembered h := by
  intro x hx
  rw [hn] at hx
  cases hx

lemma linux_stopInner_held (he : e.Clean) (hr : LinuxRemembered h) :
    (LinuxBackend.stopInner e h).2.held = [] := by
  have hef : e.removal.effective = true := he
  cases ht : h.backend.activeTransport with
  | none =>
    have hh := hr.held_eq_nil ht
    simp [LinuxBackend.stopInner, ht, hh]
  | some =>
    simp only [LinuxBackend.stopInner, ht, release, hef, if_true, List.filter_eq_nil_iff]
    intro x hx
    obtain ⟨_, hf, hm⟩ := hr x hx
    rw [ht] at hf
    cases hf
    simp [belongsTo_of_mem_tunnelHoldings hm]

lemma linux_acquire_cases {e : LinuxStart} (he : e.Clean) (transport : TunnelTransport) :
    (e.acquire transport = (.ok (), tunnelHoldings transport)) ∨
      ∃ error, e.acquire transport = (.error error, []) := by
  have hl : e.launch.left = [] := by simp [LinuxLaunch.left, he.launchInterface, he.launchEngine]
  cases transport with
  | wireGuard =>
    simp only [LinuxStart.acquire, createInterface]
    cases e.creation.result with
    | ok u => exact Or.inl rfl
    | error error => exact Or.inr ⟨error, by simp [he.creation]⟩
  | amneziaWg3 =>
    simp only [LinuxStart.acquire, launchAmneziawgGo, hl]
    cases e.binary with
    | error error => exact Or.inr ⟨error, rfl⟩
    | ok u =>
      cases e.launch.socketExists with
      | true => exact Or.inr ⟨_, rfl⟩
      | false =>
        rcases e.launch.status with error | _ | _
        · exact Or.inr ⟨error, rfl⟩
        · exact Or.inr ⟨_, rfl⟩
        · cases e.launch.socketAppeared with
          | true => exact Or.inl rfl
          | false => exact Or.inr ⟨_, rfl⟩

lemma linux_configure_remembered (he : e.Clean) (hr : LinuxRemembered h) :
    LinuxRemembered (LinuxBackend.configure e configuration h).2 := by
  have ha : ∀ error h', LinuxRemembered h' →
      LinuxRemembered (LinuxBackend.abandon e.rollback error h').2 := by
    intro _ _ hr'
    exact linuxRemembered_of_nil (linux_stopInner_held he.rollback hr')
  simp only [LinuxBackend.configure]
  cases configureInterfaceAfterAwg3 configuration.awg3 e.awg3 e.configured with
  | error error => exact ha error h hr
  | ok u =>
    cases (e.configuredRoutes h.backend.amneziawgRoutes configuration.transport).1 with
    | error error => exact ha error _ hr
    | ok u => exact hr

lemma linux_raise_remembered {e : LinuxStart} {h : Host LinuxBackend} (he : e.Clean)
    (hn : h.held = []) : LinuxRemembered (LinuxBackend.raise e configuration h).2 := by
  simp only [LinuxBackend.raise]
  cases configuration.native with
  | error => exact linuxRemembered_of_nil hn
  | ok =>
    cases e.routesApply.result with
    | error => exact linuxRemembered_of_nil hn
    | ok u =>
      rcases linux_acquire_cases he configuration.transport with ha | ⟨_, ha⟩
      · simp only [ha, hn, List.nil_append]
        apply linux_configure_remembered he
        intro x hx
        exact ⟨configuration.transport, rfl, hx⟩
      · simp only [ha, hn, List.append_nil]
        exact linuxRemembered_of_nil rfl

lemma linux_startInner_remembered (he : e.Clean) (hr : LinuxRemembered h) :
    LinuxRemembered (LinuxBackend.startInner e configuration h).2 := by
  unfold LinuxBackend.startInner
  split
  · have hh := linux_stopInner_held he.initial hr
    rcases hs : LinuxBackend.stopInner e.initial h with ⟨_ | u, _⟩
    · rw [hs] at hh
      exact linuxRemembered_of_nil hh
    · rw [hs] at hh
      exact linux_raise_remembered he hh
  · rename_i hi
    simp only [Bool.or_eq_true, not_or, Bool.not_eq_true, Option.isSome_eq_false_iff,
      Option.isNone_iff_eq_none] at hi
    exact linux_raise_remembered he (hr.held_eq_nil hi.1.1)

lemma linux_perform_remembered (call : Call linux) (h : Host LinuxBackend)
    (hc : LinuxClean call) (hr : LinuxRemembered h) : LinuxRemembered (perform h call) := by
  cases call with
  | start configuration e =>
    have hs : LinuxRemembered
        (LinuxBackend.startInner e configuration (LinuxBackend.enter .starting h)).2 :=
      linux_startInner_remembered hc hr
    simp only [perform, linux, LinuxBackend.start]
    rcases hi : LinuxBackend.startInner e configuration (LinuxBackend.enter .starting h) with
      ⟨error | u, h'⟩
    · rw [hi] at hs
      exact linuxRemembered_of_nil (linux_stopInner_held hc.final hs)
    · rw [hi] at hs
      exact hs
  | stop e =>
    have hst : (LinuxBackend.stopInner e (LinuxBackend.enter .stopping h)).2.held = [] :=
      linux_stopInner_held hc hr
    simp only [perform, linux, LinuxBackend.stop]
    rcases hi : LinuxBackend.stopInner e (LinuxBackend.enter .stopping h) with ⟨_ | u, _⟩
    all_goals
      rw [hi] at hst
      exact linuxRemembered_of_nil hst

lemma linux_stop_held (e : LinuxStop) (h : Host LinuxBackend) :
    (LinuxBackend.stop e h).2.held = (LinuxBackend.stopInner e (LinuxBackend.enter .stopping h)).2.held := by
  simp only [LinuxBackend.stop]
  rcases LinuxBackend.stopInner e (LinuxBackend.enter .stopping h) with ⟨_ | u, _⟩ <;> rfl

structure MacosBackend where
  api : Option String
  activeTransport : Option TunnelTransport
  endpoints : List String
  dnsSnapshot : Bool
  routes : Bool
  state : ServiceTunnelState

structure MacosStop where
  removal : Removal
  /-- Whether `api.read_interface_data()` succeeds after a failed removal. -/
  readable : Bool
  /-- `api.remove_endpoint_routing(endpoint)`, by position. -/
  endpoint : ℕ → Removal
  dnsRestore : Except ServiceError Unit
  dnsFile : Except ServiceError Unit
  /-- Removal of the file with the name of the interface. -/
  interfaceFile : Except ServiceError Unit
  endpointsFile : Except ServiceError Unit
  routesCleanup : RouteCall

def removeEndpoints (e : ℕ → Removal) :
    ℕ → List String → Option ServiceError → List Holding → Option ServiceError × List Holding
  | _, [], firstError, held => (firstError, held)
  | n, endpoint :: rest, firstError, held =>
    removeEndpoints e (n + 1) rest (firstError.or (e n).error?)
      (if (e n).effective then held.filter (· ≠ .endpointRoute endpoint) else held)

structure MacosLaunch where
  /-- Removal of the file with the name of the interface. -/
  stateFile : Except ServiceError Unit
  status : Except ServiceError Bool
  /-- Interface whose name and socket appeared within `START_TIMEOUT`. -/
  appeared : Option String
  interfaceLeft : Option String
  /-- Interface whose engine a failed launch leaves. -/
  engineLeft : Option String

def userspaceStartError : TunnelTransport → Bool → String
  | .wireGuard, false => "wireguard_go_start_failed"
  | .wireGuard, true => "wireguard_go_start_timeout"
  | .amneziaWg3, false => "amneziawg_go_start_failed"
  | .amneziaWg3, true => "amneziawg_go_start_timeout"

def MacosLaunch.left (e : MacosLaunch) : List Holding :=
  (e.interfaceLeft.map Holding.interface).toList ++ (e.engineLeft.map Holding.engine).toList

def launchUserspaceTunnel (e : MacosLaunch) (transport : TunnelTransport) :
    Except ServiceError String × List Holding :=
  match e.stateFile with
  | .error error => (.error error, [])
  | .ok () =>
    match e.status with
    | .error error => (.error error, e.left)
    | .ok false => (.error (.backend (userspaceStartError transport false)), e.left)
    | .ok true =>
      match e.appeared with
      | some name => (.ok name, [.interface name, .engine name])
      | none => (.error (.backend (userspaceStartError transport true)), e.left)

structure MacosStart where
  initial : MacosStop
  binary : Except ServiceError Unit
  directory : Except ServiceError Unit
  routesApply : RouteCall
  dnsSnapshot : Except ServiceError Unit
  dnsSave : Except ServiceError Unit
  launch : MacosLaunch
  api : Except ServiceError Unit
  endpointsSave : Except ServiceError Unit
  awg3 : Except ServiceError Unit
  configured : Except ServiceError Unit
  peerRouting : Except ServiceError Unit
  /-- Endpoints to which `configure_peer_routing` has made a route. -/
  routed : List String
  verified : Except ServiceError Unit
  dns : Except ServiceError Unit
  rollback : MacosStop
  final : MacosStop

namespace MacosBackend

def restoreDns (e : MacosStop) (h : Host MacosBackend) :
    Except ServiceError Unit × Host MacosBackend :=
  if h.backend.dnsSnapshot then
    match e.dnsRestore with
    | .error error => (.error error, h)
    | .ok () =>
      match e.dnsFile with
      | .error error => (.error error, h)
      | .ok () => (.ok (), { h with backend := { h.backend with dnsSnapshot := false } })
  else (.ok (), h)

def stopRest (e : MacosStop) (firstError : Option ServiceError) (h : Host MacosBackend) :
    Except ServiceError Unit × Host MacosBackend :=
  let (restored, h) := restoreDns e h
  let firstError := (((firstError.or (failure? restored)).or (failure? e.interfaceFile)).or
    (failure? e.endpointsFile)).or (failure? e.routesCleanup.result)
  (firstErrorResult firstError,
    { h with backend := { h.backend with routes := e.routesCleanup.hasRoutes } })

/-- The part of `stop_inner` after the interface: the endpoints are forgotten
before it is known whether their routes could be removed. -/
def stopEndpoints (e : MacosStop) (h : Host MacosBackend) :
    Except ServiceError Unit × Host MacosBackend :=
  let (firstError, held) := removeEndpoints e.endpoint 0 h.backend.endpoints none h.held
  stopRest e firstError { backend := { h.backend with api := none, endpoints := [] }, held := held }

def stopInner (e : MacosStop) (h : Host MacosBackend) :
    Except ServiceError Unit × Host MacosBackend :=
  let h : Host MacosBackend := { h with backend := { h.backend with activeTransport := none } }
  match h.backend.api with
  | none => stopRest e none h
  | some name =>
    let h : Host MacosBackend := { h with held := release name e.removal h.held }
    match e.removal.error? with
    | none => stopEndpoints e h
    | some error => if e.readable then (.error error, h) else stopEndpoints e h

def abandon (e : MacosStop) (error : ServiceError) (h : Host MacosBackend) :
    Except ServiceError Unit × Host MacosBackend := (.error error, (stopInner e h).2)

def verify (e : MacosStart) (configuration : Configuration) (h : Host MacosBackend) :
    Except ServiceError Unit × Host MacosBackend :=
  match if configuration.transport = .amneziaWg3 then e.verified else .ok () with
  | .error error => abandon e.rollback error h
  | .ok () =>
    match if configuration.dns then e.dns else .ok () with
    | .error error => abandon e.rollback error h
    | .ok () => (.ok (), h)

def configure (e : MacosStart) (configuration : Configuration) (h : Host MacosBackend) :
    Except ServiceError Unit × Host MacosBackend :=
  match e.endpointsSave with
  | .error error => abandon e.rollback error h
  | .ok () =>
    match configureInterfaceAfterAwg3 configuration.awg3 e.awg3 e.configured with
    | .error error => abandon e.rollback error h
    | .ok () =>
      let routed := (h.backend.endpoints.filter (· ∈ e.routed)).map Holding.endpointRoute
      let h : Host MacosBackend := { h with held := h.held ++ routed }
      match e.peerRouting with
      | .error error => abandon e.rollback error h
      | .ok () => verify e configuration h

def launch (e : MacosStart) (configuration : Configuration) (endpoints : List String)
    (h : Host MacosBackend) : Except ServiceError Unit × Host MacosBackend :=
  let (launched, holdings) := launchUserspaceTunnel e.launch configuration.transport
  let h : Host MacosBackend := { h with held := h.held ++ holdings }
  match launched with
  | .error error => abandon e.rollback error h
  | .ok name =>
    let h : Host MacosBackend :=
      { h with backend := { h.backend with activeTransport := some configuration.transport } }
    match e.api with
    | .error error => abandon e.rollback error h
    | .ok () =>
      configure e configuration
        { h with backend := { h.backend with endpoints := endpoints, api := some name } }

def captureDns (e : MacosStart) (h : Host MacosBackend) :
    Except ServiceError Unit × Host MacosBackend :=
  match e.dnsSnapshot with
  | .error error => (.error error, h)
  | .ok () =>
    match e.dnsSave with
    | .error error => (.error error, h)
    | .ok () => (.ok (), { h with backend := { h.backend with dnsSnapshot := true } })

def raise (e : MacosStart) (configuration : Configuration) (h : Host MacosBackend) :
    Except ServiceError Unit × Host MacosBackend :=
  match e.binary with
  | .error error => (.error error, h)
  | .ok () =>
    match e.directory with
    | .error error => (.error error, h)
    | .ok () =>
      match configuration.native with
      | .error error => (.error error, h)
      | .ok endpoints =>
        let h : Host MacosBackend :=
          { h with backend := { h.backend with routes := e.routesApply.hasRoutes } }
        match e.routesApply.result with
        | .error error => (.error error, h)
        | .ok () =>
          match captureDns e h with
          | (.error error, h) => (.error error, h)
          | (.ok (), h) => launch e configuration endpoints h

def startInner (e : MacosStart) (configuration : Configuration) (h : Host MacosBackend) :
    Except ServiceError Unit × Host MacosBackend :=
  if h.backend.api.isSome || h.backend.dnsSnapshot || h.backend.routes then
    match stopInner e.initial h with
    | (.error error, h) => (.error error, h)
    | (.ok (), h) => raise e configuration h
  else raise e configuration h

def enter (state : ServiceTunnelState) (h : Host MacosBackend) : Host MacosBackend :=
  { h with backend := { h.backend with state := state } }

def start (e : MacosStart) (configuration : Configuration) (h : Host MacosBackend) :
    Except ServiceError ServiceTunnelState × Host MacosBackend :=
  match startInner e configuration (enter .starting h) with
  | (.ok (), h) => (.ok .running, enter .running h)
  | (.error error, h) => (.error error, enter .failed (stopInner e.final h).2)

def stop (e : MacosStop) (h : Host MacosBackend) :
    Except ServiceError ServiceTunnelState × Host MacosBackend :=
  match stopInner e (enter .stopping h) with
  | (.ok (), h) => (.ok .stopped, enter .stopped h)
  | (.error error, h) => (.error error, enter .failed h)

end MacosBackend

def macos : Platform where
  Backend := MacosBackend
  StartEndings := MacosStart
  StopEndings := MacosStop
  start := MacosBackend.start
  stop := MacosBackend.stop

/-- An interface that can no longer be read is gone, and so is the route to an
endpoint after its removal. -/
structure MacosStop.Clean (e : MacosStop) : Prop where
  /-- The interface is gone, or it can be read. -/
  interface : e.removal.effective = true ∨ e.removal.error?.isSome ∧ e.readable = true
  endpoints : ∀ n, (e.endpoint n).effective = true

/-- A tunnel that could not be launched leaves nothing, one that was launched
can be addressed, and every stop inside the start is clean. -/
structure MacosStart.Clean (e : MacosStart) : Prop where
  initial : e.initial.Clean
  launchInterface : e.launch.interfaceLeft = none
  launchEngine : e.launch.engineLeft = none
  api : e.api = .ok ()
  rollback : e.rollback.Clean
  final : e.final.Clean

def MacosClean : Call macos → Prop
  | .start _ endings => MacosStart.Clean endings
  | .stop endings => MacosStop.Clean endings

def MacosBackend.Covers (b : MacosBackend) : Holding → Prop
  | .interface name | .engine name => b.api = some name
  | .endpointRoute endpoint => b.api.isSome ∧ endpoint ∈ b.endpoints

def MacosRemembered (h : Host MacosBackend) : Prop := ∀ x ∈ h.held, h.backend.Covers x

lemma MacosRemembered.held_eq_nil (hr : MacosRemembered h) (hn : h.backend.api = none) :
    h.held = [] := by
  rw [List.eq_nil_iff_forall_not_mem]
  intro x hx
  have hc := hr x hx
  cases x <;> simp [MacosBackend.Covers, hn] at hc

lemma macosRemembered_of_nil (hn : h.held = []) : MacosRemembered h := by
  intro x hx
  rw [hn] at hx
  cases hx

lemma removeEndpoints_held (he : ∀ n, (e n).effective = true) (endpoints : List String) (n : ℕ)
    (firstError : Option ServiceError) (held : List Holding) :
    (removeEndpoints e n endpoints firstError held).2 = held.filter fun x => !decide
      (x ∈ endpoints.map Holding.endpointRoute) := by
  induction endpoints generalizing n firstError held with
  | nil => simp [removeEndpoints]
  | cons endpoint rest ih =>
    simp only [removeEndpoints, he n, if_true, ih, List.filter_filter]
    apply List.filter_congr
    intro x _
    by_cases hx : x = .endpointRoute endpoint <;> simp [hx]

lemma restoreDns_held (e : MacosStop) (h : Host MacosBackend) :
    (MacosBackend.restoreDns e h).2.held = h.held := by
  unfold MacosBackend.restoreDns
  repeat' split
  all_goals rfl

lemma stopRest_held (e : MacosStop) (firstError : Option ServiceError) (h : Host MacosBackend) :
    (MacosBackend.stopRest e firstError h).2.held = h.held := restoreDns_held e h

lemma stopEndpoints_held (he : e.Clean)
    (hr : ∀ x ∈ h.held, ∃ endpoint ∈ h.backend.endpoints, x = .endpointRoute endpoint) :
    (MacosBackend.stopEndpoints e h).2.held = [] := by
  simp only [MacosBackend.stopEndpoints, stopRest_held, removeEndpoints_held he.endpoints,
    List.filter_eq_nil_iff]
  intro x hx
  obtain ⟨_, hm, rfl⟩ := hr x hx
  simp [hm]

lemma MacosRemembered.released (hr : MacosRemembered h) (hna : h.backend.api = some name)
    (he : removal.effective = true) :
    ∀ x ∈ release name removal h.held, ∃ endpoint ∈ h.backend.endpoints, x = .endpointRoute
      endpoint := by
  intro x hx
  simp only [release, he, if_true, List.mem_filter] at hx
  have hc := hr x hx.1
  cases x with
  | interface n | engine n =>
    have hn : n = name := by
      simp only [MacosBackend.Covers, hna, Option.some.injEq] at hc
      exact hc.symm
    simp [Holding.belongsTo, hn] at hx
  | endpointRoute endpoint => exact ⟨endpoint, hc.2, rfl⟩

lemma macos_stopInner_cases (he : e.Clean) (hr : MacosRemembered h) :
    (MacosBackend.stopInner e h).2.held = [] ∨
      (∃ error, (MacosBackend.stopInner e h).1 = .error error) ∧ MacosRemembered
      (MacosBackend.stopInner e h).2 := by
  cases ha : h.backend.api with
  | none =>
    left
    have hh := hr.held_eq_nil ha
    simp only [MacosBackend.stopInner, ha, stopRest_held, hh]
  | some name =>
    have hg : e.removal.effective = true → (MacosBackend.stopEndpoints e
        ⟨{ h.backend with activeTransport := none }, release name e.removal h.held⟩).2.held = [] := by
      intro hef
      exact stopEndpoints_held he (hr.released ha hef)
    simp only [MacosBackend.stopInner, ha]
    cases her : e.removal.error? with
    | none =>
      left
      have hef : e.removal.effective = true := by
        rcases he.interface with h1 | h1
        · exact h1
        · simp [her] at h1
      exact hg hef
    | some error =>
      cases hre : e.readable with
      | true =>
        right
        refine ⟨⟨error, rfl⟩, ?_⟩
        -- The interface is remembered again, and the endpoints were never forgotten.
        intro x hx
        have hm : x ∈ h.held := by
          simp only [if_true, release] at hx
          split at hx
          · exact (List.mem_filter.mp hx).1
          · exact hx
        have hc := hr x hm
        cases x <;> simpa [MacosBackend.Covers, ha] using hc
      | false =>
        left
        have hef : e.removal.effective = true := by
          rcases he.interface with h1 | h1
          · exact h1
          · simp [hre] at h1
        exact hg hef

lemma macos_stopInner_remembered (he : e.Clean) (hr : MacosRemembered h) :
    MacosRemembered (MacosBackend.stopInner e h).2 := by
  rcases macos_stopInner_cases he hr with hh | ⟨-, hre⟩
  · exact macosRemembered_of_nil hh
  · exact hre

lemma macos_configure_remembered (he : e.Clean) (hr : MacosRemembered h)
    (hap : h.backend.api.isSome) :
    MacosRemembered (MacosBackend.configure e configuration h).2 := by
  have ha : ∀ error h', MacosRemembered h' →
      MacosRemembered (MacosBackend.abandon e.rollback error h').2 := by
    intro _ _ hr'
    exact macos_stopInner_remembered he.rollback hr'
  have hro : MacosRemembered
      { h with held := h.held ++
        (h.backend.endpoints.filter (· ∈ e.routed)).map Holding.endpointRoute } := by
    intro x hx
    rcases List.mem_append.mp hx with hx | hx
    · exact hr x hx
    · obtain ⟨_, hen, rfl⟩ := List.mem_map.mp hx
      exact ⟨hap, (List.mem_filter.mp hen).1⟩
  simp only [MacosBackend.configure, MacosBackend.verify]
  cases e.endpointsSave with
  | error error => exact ha error h hr
  | ok u =>
    cases configureInterfaceAfterAwg3 configuration.awg3 e.awg3 e.configured with
    | error error => exact ha error h hr
    | ok u =>
      cases e.peerRouting with
      | error error => exact ha error _ hro
      | ok u =>
        cases (if configuration.transport = .amneziaWg3 then e.verified else .ok ()) with
        | error error => exact ha error _ hro
        | ok u =>
          cases (if configuration.dns then e.dns else .ok ()) with
          | error error => exact ha error _ hro
          | ok u => exact hro

lemma macos_launch_cases {e : MacosStart} (he : e.Clean) (transport : TunnelTransport) :
    (∃ name, launchUserspaceTunnel e.launch transport =
        (.ok name, [.interface name, .engine name])) ∨
      ∃ error, launchUserspaceTunnel e.launch transport = (.error error, []) := by
  have hl : e.launch.left = [] := by simp [MacosLaunch.left, he.launchInterface, he.launchEngine]
  simp only [launchUserspaceTunnel, hl]
  cases e.launch.stateFile with
  | error error => exact Or.inr ⟨error, rfl⟩
  | ok u =>
    rcases e.launch.status with error | _ | _
    · exact Or.inr ⟨error, rfl⟩
    · exact Or.inr ⟨_, rfl⟩
    · cases e.launch.appeared with
      | some name => exact Or.inl ⟨name, rfl⟩
      | none => exact Or.inr ⟨_, rfl⟩

lemma macos_launch_remembered {e : MacosStart} {h : Host MacosBackend} (he : e.Clean)
    (hn : h.held = []) : MacosRemembered (MacosBackend.launch e configuration endpoints h).2 := by
  simp only [MacosBackend.launch, he.api]
  rcases macos_launch_cases he configuration.transport with ⟨_, hl⟩ | ⟨_, hl⟩
  · simp only [hl, hn, List.nil_append]
    refine macos_configure_remembered he ?_ rfl
    intro x hx
    rcases List.mem_cons.mp hx with rfl | hx
    · rfl
    · rw [List.mem_singleton.mp hx]
      rfl
  · simp only [hl, hn, List.append_nil]
    exact macos_stopInner_remembered he.rollback (macosRemembered_of_nil rfl)

lemma captureDns_held (e : MacosStart) (h : Host MacosBackend) :
    (MacosBackend.captureDns e h).2.held = h.held := by
  unfold MacosBackend.captureDns
  repeat' split
  all_goals rfl

lemma macos_raise_remembered (he : e.Clean) (hn : h.held = []) :
    MacosRemembered (MacosBackend.raise e configuration h).2 := by
  simp only [MacosBackend.raise]
  cases e.binary with
  | error => exact macosRemembered_of_nil hn
  | ok u =>
    cases e.directory with
    | error => exact macosRemembered_of_nil hn
    | ok u =>
      cases configuration.native with
      | error => exact macosRemembered_of_nil hn
      | ok =>
        cases e.routesApply.result with
        | error => exact macosRemembered_of_nil hn
        | ok u =>
          have hh := captureDns_held e
            { h with backend := { h.backend with routes := e.routesApply.hasRoutes } }
          rcases hc : MacosBackend.captureDns e
            { h with backend := { h.backend with routes := e.routesApply.hasRoutes } } with
            ⟨error | u, h'⟩
          all_goals rw [hc] at hh
          · exact macosRemembered_of_nil (hh.trans hn)
          · exact macos_launch_remembered he (hh.trans hn)

lemma macos_startInner_remembered (he : e.Clean) (hr : MacosRemembered h) :
    MacosRemembered (MacosBackend.startInner e configuration h).2 := by
  unfold MacosBackend.startInner
  split
  · have hc := macos_stopInner_cases he.initial hr
    have hre := macos_stopInner_remembered he.initial hr
    rcases hs : MacosBackend.stopInner e.initial h with ⟨error | u, _⟩
    all_goals rw [hs] at hc hre
    · exact hre
    · rcases hc with hh | ⟨⟨_, her⟩, -⟩
      · exact macos_raise_remembered he hh
      · cases her
  · rename_i hi
    simp only [Bool.or_eq_true, not_or, Bool.not_eq_true, Option.isSome_eq_false_iff,
      Option.isNone_iff_eq_none] at hi
    exact macos_raise_remembered he (hr.held_eq_nil hi.1.1)

lemma macos_perform_remembered (call : Call macos) (h : Host MacosBackend)
    (hc : MacosClean call) (hr : MacosRemembered h) : MacosRemembered (perform h call) := by
  cases call with
  | start configuration e =>
    have hs : MacosRemembered
        (MacosBackend.startInner e configuration (MacosBackend.enter .starting h)).2 :=
      macos_startInner_remembered hc hr
    simp only [perform, macos, MacosBackend.start]
    rcases hi : MacosBackend.startInner e configuration (MacosBackend.enter .starting h) with
      ⟨error | u, h'⟩
    all_goals rw [hi] at hs
    · exact macos_stopInner_remembered hc.final hs
    · exact hs
  | stop e =>
    have hst : MacosRemembered (MacosBackend.stopInner e (MacosBackend.enter .stopping h)).2 :=
      macos_stopInner_remembered hc hr
    simp only [perform, macos, MacosBackend.stop]
    rcases hi : MacosBackend.stopInner e (MacosBackend.enter .stopping h) with ⟨_ | u, _⟩
    all_goals
      rw [hi] at hst
      exact hst

lemma macos_stop_held (he : e.Clean) (hr : MacosRemembered h)
    (ho : (MacosBackend.stop e h).1 = .ok state) : (MacosBackend.stop e h).2.held = [] := by
  have hen : MacosRemembered (MacosBackend.enter .stopping h) := hr
  have hc := macos_stopInner_cases he hen
  simp only [MacosBackend.stop] at ho ⊢
  rcases hi : MacosBackend.stopInner e (MacosBackend.enter .stopping h) with ⟨error | u, _⟩
  all_goals rw [hi] at hc ho
  · cases ho
  · rcases hc with hh | ⟨⟨_, her⟩, -⟩
    · exact hh
    · cases her

/-- A stop that succeeds leaves no interface, no engine and no route to an
endpoint of an earlier start, in every history of either backend in which no
object outlives its removal unseen and no failed acquisition leaves one. -/
theorem stop_leaves_nothing (linuxBackend : LinuxBackend) (macosBackend : MacosBackend) :
    (∀ (history : List (Call linux)) (e : LinuxStop),
      (∀ call ∈ history, LinuxClean call) → e.Clean →
        ∀ state, (LinuxBackend.stop e (run history (Host.built linuxBackend))).1 = .ok state →
          (LinuxBackend.stop e (run history (Host.built linuxBackend))).2.held = []) ∧
    ∀ (history : List (Call macos)) (e : MacosStop),
      (∀ call ∈ history, MacosClean call) → e.Clean →
        ∀ state, (MacosBackend.stop e (run history (Host.built macosBackend))).1 = .ok state →
          (MacosBackend.stop e (run history (Host.built macosBackend))).2.held = [] := by
  constructor
  · intro history e hh he _ _
    have hr : LinuxRemembered (run history (Host.built linuxBackend)) :=
      run_invariant linux_perform_remembered history hh _
        (linuxRemembered_of_nil rfl)
    exact (linux_stop_held e _).trans (linux_stopInner_held he hr)
  · intro history e hh he _ ho
    have hr : MacosRemembered (run history (Host.built macosBackend)) :=
      run_invariant macos_perform_remembered history hh _
        (macosRemembered_of_nil rfl)
    exact macos_stop_held he hr ho

def idleRoutes : RouteCall := ⟨.ok (), false⟩

def linuxStop (removal : Removal) : LinuxStop := ⟨idleRoutes, removal, idleRoutes⟩

def linuxStart (launch : LinuxLaunch) : LinuxStart where
  initial := linuxStop .done
  routesApply := idleRoutes
  creation := ⟨.ok (), false⟩
  binary := .ok ()
  launch := launch
  awg3 := .ok ()
  configured := .ok ()
  peerRouting := .ok ()
  amneziawgApply := idleRoutes
  dns := .ok ()
  rollback := linuxStop .done
  final := linuxStop .done

def tunnel : Configuration := ⟨.amneziaWg3, true, false, .ok ["198.51.100.7:51820"]⟩

def linuxIdle : Host LinuxBackend := Host.built ⟨none, false, false, .stopped⟩

/-- The removal of the interface fails, and the next stop has forgotten it. -/
def forgottenInterface : List (Call linux) :=
  [.start tunnel (linuxStart ⟨false, .ok true, true, false, false⟩),
    .stop (linuxStop (.failed (.backend "remove_interface") false))]

def lateSocket : List (Call linux) :=
  [.start tunnel (linuxStart ⟨false, .ok true, false, true, true⟩)]

def macosStop (endpoint : Removal) : MacosStop :=
  ⟨.done, false, fun _ => endpoint, .ok (), .ok (), .ok (), .ok (), idleRoutes⟩

/-- A start of the backend of macOS that succeeds with a route to its endpoint. -/
def macosStart : MacosStart where
  initial := macosStop .done
  binary := .ok ()
  directory := .ok ()
  routesApply := idleRoutes
  dnsSnapshot := .ok ()
  dnsSave := .ok ()
  launch := ⟨.ok (), .ok true, some "utun7", none, none⟩
  api := .ok ()
  endpointsSave := .ok ()
  awg3 := .ok ()
  configured := .ok ()
  peerRouting := .ok ()
  routed := ["198.51.100.7:51820"]
  verified := .ok ()
  dns := .ok ()
  rollback := macosStop .done
  final := macosStop .done

def macosIdle : Host MacosBackend := Host.built ⟨none, none, [], false, false, .stopped⟩

/-- The removal of the route to the endpoint fails, and the next stop has forgotten it. -/
def forgottenEndpoint : List (Call macos) :=
  [.start tunnel macosStart, .stop (macosStop (.failed (.backend "remove_endpoint_routing") false))]

/-- A stop reports success while an interface, an engine or a route to an
endpoint is left: after a failed stop, and after a launch that timed out. -/
theorem stop_reports_success_with_holdings :
    ((LinuxBackend.stop (linuxStop .done) (run forgottenInterface linuxIdle)).1 = .ok .stopped ∧
      (LinuxBackend.stop (linuxStop .done) (run forgottenInterface linuxIdle)).2.held =
        [.interface "nlm-awg0", .engine "nlm-awg0"]) ∧
    ((LinuxBackend.stop (linuxStop .done) (run lateSocket linuxIdle)).1 = .ok .stopped ∧
      (LinuxBackend.stop (linuxStop .done) (run lateSocket linuxIdle)).2.held =
        [.interface "nlm-awg0", .engine "nlm-awg0"]) ∧
    (MacosBackend.stop (macosStop .done) (run forgottenEndpoint macosIdle)).1 = .ok .stopped ∧
      (MacosBackend.stop (macosStop .done) (run forgottenEndpoint macosIdle)).2.held =
        [.endpointRoute "198.51.100.7:51820"] := by
  refine ⟨⟨rfl, ?_⟩, ⟨rfl, ?_⟩, rfl, ?_⟩ <;> decide

/-- A start and a stop on each platform, with commands that end cleanly. -/
theorem stop_leaves_nothing_after_start :
    (LinuxBackend.stop (linuxStop .done)
        (run (P := linux) [.start tunnel (linuxStart ⟨false, .ok true, true, false, false⟩)]
          linuxIdle)).2.held = [] ∧
      (MacosBackend.stop (macosStop .done) (run (P := macos) [.start tunnel macosStart]
          macosIdle)).2.held = [] := by
  have hm : (macosStop .done).Clean := ⟨Or.inl rfl, fun _ => rfl⟩
  have hs := stop_leaves_nothing ⟨none, false, false, .stopped⟩
    ⟨none, none, [], false, false, .stopped⟩
  constructor
  · refine hs.1 _ (linuxStop .done) ?_ rfl .stopped rfl
    intro _ hc
    rw [List.mem_singleton.mp hc]
    exact ⟨rfl, rfl, rfl, rfl, rfl, rfl⟩
  · refine hs.2 _ (macosStop .done) ?_ hm .stopped rfl
    intro _ hc
    rw [List.mem_singleton.mp hc]
    exact ⟨hm, rfl, rfl, rfl, hm, hm⟩

end NelomaiClient.UnixBackends
