import NelomaiClient.AwaitFallible
import NelomaiClient.EngineService
import NelomaiClient.PanelContract

/-!
# The tunnel backend of Windows

The tunnel is a service of the system, started and stopped through the
dispatcher, and a route pins its endpoint to the physical network. Which endpoint
belongs to the service is kept in the memory of the backend and, for a restart,
in the file of the configuration. A call borrows the memory and gives it back;
the process may die at any command, and a restart builds the memory again. Every
command may fail, with or without effect. The answers of `status` are recorded
with the service they are about and the endpoint they verified.
-/

namespace NelomaiClient.WindowsBackend

open AwaitProgram AwaitPool AwaitRely EngineService
open PanelContract (TunnelTransport)

inductive IpAddr where
  | v4 (address : String)
  | v6 (address : String)

def isV4 : Option IpAddr → Bool
  | some (.v4 _) => true
  | _ => false

structure TunnelConfiguration where
  transport : TunnelTransport
  endpoint : Option IpAddr
  /-- Whether there is exactly one endpoint, and it has a port. -/
  pinnable : Bool

def pinConfigurationEndpoint (configuration : TunnelConfiguration) :
    Option IpAddr → Except ServiceError TunnelConfiguration
  | some (.v4 address) =>
    if configuration.pinnable then .ok { configuration with endpoint := some (.v4 address) }
    else .error (.backend "endpoint_route_unavailable")
  | _ => .error (.backend "endpoint_route_unavailable")

/-- The configuration that a start writes: an AmneziaWG tunnel has its endpoint pinned. -/
def writtenConfiguration (configuration : TunnelConfiguration) :
    Except ServiceError TunnelConfiguration :=
  match configuration.transport with
  | .wireGuard => .ok configuration
  | .amneziaWg3 =>
    if isV4 configuration.endpoint then
      pinConfigurationEndpoint configuration configuration.endpoint
    else .error (.backend "endpoint_route_unavailable")

def endpointRouteMetric : ℕ := 1

structure OwnedRoute where
  destination : String
  interfaceIndex : ℕ
  gateway : String
  metric : ℕ

structure RouteTable where
  routes : List OwnedRoute
  pendingRoutes : List OwnedRoute

def RouteTable.hasRoutes (table : RouteTable) : Bool :=
  !table.routes.isEmpty || !table.pendingRoutes.isEmpty

structure SelectedRoute where
  interfaceIndex : ℕ
  gateway : String

def RouteTable.expected (table : RouteTable) (address : String) : Option OwnedRoute :=
  table.routes.find? fun route =>
    route.destination == address ++ "/32" && route.metric == endpointRouteMetric

section World

/-- `ServiceState`; the states that the backend does not tell apart are `other`. -/
inductive ServiceState where
  | stopped
  | startPending
  | running
  | stopPending
  | other
  deriving DecidableEq

/-- A tunnel service: its state and the configuration it was started with. -/
structure TunnelService where
  state : ServiceState
  configuration : TunnelConfiguration

/-- `WindowsServiceBackend`, without the time of the start that only metrics read. -/
structure Memory where
  endpoint : Option IpAddr
  transport : Option TunnelTransport
  routes : RouteTable

def Memory.forget (m : Memory) : Memory := { m with endpoint := none, transport := none }

def Memory.protectedEndpoint (m : Memory) : Option IpAddr :=
  if m.transport = some .amneziaWg3 then m.endpoint else none

/-- An answer of `status`, the service it is about and the endpoint it verified. -/
structure StatusAnswer where
  result : Except ServiceError ServiceTunnelState
  /-- The service that was asked for its state. -/
  service : Option TunnelService
  verified : Option IpAddr

structure WindowsWorld where
  file : Option TunnelConfiguration
  wireguard : Option TunnelService
  amneziawg : Option TunnelService
  /-- The backend, unless no process runs or a call has it. -/
  backend : Option Memory
  answers : List StatusAnswer

namespace WindowsWorld

def untouched : WindowsWorld := ⟨none, none, none, none, []⟩

def setService (s : WindowsWorld) (service : Option TunnelService) : TunnelTransport → WindowsWorld
  | .wireGuard => { s with wireguard := service }
  | .amneziaWg3 => { s with amneziawg := service }

def service (s : WindowsWorld) : TunnelTransport → Option TunnelService
  | .wireGuard => s.wireguard
  | .amneziaWg3 => s.amneziawg

end WindowsWorld

inductive WindowsCmd where
  | vacant
  | borrow
  | giveBack (memory : Memory)
  | loadRoutes
  | queryService
  | readConfiguration
  | writeConfiguration (configuration : TunnelConfiguration)
  | removeConfiguration
  | routesApply (protectedEndpoint : Option IpAddr)
  | routesCleanup
  | bestRoute (address : String)
  | startService (transport : TunnelTransport)
  | stopServices
  | record (answer : StatusAnswer)
  | drift (transport : TunnelTransport) (state : Option ServiceState)

abbrev WindowsResp : WindowsCmd → Type
  | .borrow => Memory
  | .loadRoutes => Except ServiceError RouteTable
  | .queryService => Except ServiceError (Option TunnelService)
  | .readConfiguration => Option TunnelConfiguration
  | .routesApply _ | .routesCleanup => Except ServiceError Unit × RouteTable
  | .bestRoute _ => Except ServiceError SelectedRoute
  | .writeConfiguration _ | .removeConfiguration | .startService _ | .stopServices =>
    Except ServiceError Unit
  | .vacant | .giveBack _ | .record _ | .drift _ _ => Unit

inductive WindowsInput where
  | unasked
  | routes (result : Except ServiceError Unit) (table : RouteTable)
  | loaded (result : Except ServiceError RouteTable)
  | readable (success : Bool)
  | refused (error : ServiceError)
  | selected (result : Except ServiceError SelectedRoute)
  /-- The file changes or stays; a failing write has removed the old file or not. -/
  | file (result : Except ServiceError Unit) (gone : Bool)
  /-- The service is started; a failing start leaves a service in some state or none. -/
  | started (result : Except ServiceError Unit) (left : Option ServiceState)
  /-- The services are stopped; a failing stop leaves each of them or not. -/
  | stopped (result : Except ServiceError Unit) (wireguardLeft amneziawgLeft : Bool)

namespace WindowsInput

def routes? : WindowsInput → Option (Except ServiceError Unit × RouteTable)
  | .routes result table => some (result, table)
  | _ => none

def loaded? : WindowsInput → Option (Except ServiceError RouteTable)
  | .loaded result => some result
  | _ => none

def readable? : WindowsInput → Option Bool
  | .readable success => some success
  | _ => none

def refused? : WindowsInput → Option ServiceError
  | .refused error => some error
  | _ => none

def selected? : WindowsInput → Option (Except ServiceError SelectedRoute)
  | .selected result => some result
  | _ => none

def file? : WindowsInput → Option (Except ServiceError Unit × Bool)
  | .file result gone => some (result, gone)
  | _ => none

def started? : WindowsInput → Option (Except ServiceError Unit × Option ServiceState)
  | .started result left => some (result, left)
  | _ => none

def stopped? : WindowsInput → Option (Except ServiceError Unit × Bool × Bool)
  | .stopped result wireguardLeft amneziawgLeft => some (result, wireguardLeft, amneziawgLeft)
  | _ => none

end WindowsInput
variable (s : WindowsWorld)

def WindowsWorld.fileAfter (success : Option TunnelConfiguration) :
    Except ServiceError Unit → Bool → WindowsWorld
  | .ok (), _ => { s with file := success }
  | .error _, true => { s with file := none }
  | .error _, false => s

def WindowsWorld.serviceAfter (transport : TunnelTransport) :
    Except ServiceError Unit → Option ServiceState → WindowsWorld
  | .ok (), _ => s.setService (s.file.map (TunnelService.mk .running)) transport
  | .error _, some state => s.setService (s.file.map (TunnelService.mk state)) transport
  | .error _, none => s

def WindowsWorld.servicesAfter (wireguardLeft amneziawgLeft : Bool) :
    Except ServiceError Unit → WindowsWorld
  | .ok () => { s with wireguard := none, amneziawg := none }
  | .error _ =>
    { s with
      wireguard := if wireguardLeft then s.wireguard else none
      amneziawg := if amneziawgLeft then s.amneziawg else none }

/-- A service that runs changes its state or goes. That the service manager starts a stopped one,
as it does at boot with an automatic service, is left out. -/
def WindowsWorld.drift (transport : TunnelTransport) (state : Option ServiceState) :
    WindowsWorld :=
  match s.service transport with
  | none => s
  | some service =>
    match state with
    | none => s.setService none transport
    | some state =>
      if service.state = .stopped then s
      else s.setService (some { service with state := state }) transport

def WindowsWorld.openService : Except ServiceError (Option TunnelService) :=
  match s.wireguard, s.amneziawg with
  | some _, some _ => .error (.backend "multiple_tunnel_services_detected")
  | some service, none => .ok (some service)
  | none, service => .ok service

def WindowsWorld.exec (i : WindowsInput) (s : WindowsWorld) :
    (c : WindowsCmd) → Option (WindowsResp c × WindowsWorld)
  | .vacant => if s.backend.isNone then some ((), s) else none
  | .borrow => s.backend.map fun memory => (memory, { s with backend := none })
  | .giveBack memory => some ((), { s with backend := some memory })
  | .loadRoutes => i.loaded?.map fun result => (result, s)
  | .queryService =>
    some (match i.refused? with
      | some error => .error error
      | none => s.openService, s)
  | .readConfiguration => i.readable?.map fun success => (if success then s.file else none, s)
  | .writeConfiguration configuration =>
    i.file?.map fun (result, gone) => (result, s.fileAfter (some configuration) result gone)
  | .removeConfiguration => i.file?.map fun (result, gone) => (result, s.fileAfter none result gone)
  | .routesApply _ => i.routes?.map fun answer => (answer, s)
  | .routesCleanup => i.routes?.map fun answer => (answer, s)
  | .bestRoute _ => i.selected?.map fun result => (result, s)
  | .startService transport =>
    i.started?.map fun (result, left) => (result, s.serviceAfter transport result left)
  | .stopServices =>
    i.stopped?.map fun (result, wireguardLeft, amneziawgLeft) =>
      (result, s.servicesAfter wireguardLeft amneziawgLeft result)
  | .record answer => some ((), { s with answers := answer :: s.answers })
  | .drift transport state => some ((), s.drift transport state)

abbrev windowsMachine : Machine where
  State := WindowsWorld
  Cmd := WindowsCmd
  Resp := WindowsResp
  Input := WindowsInput
  sem c _ i s := WindowsWorld.exec i s c

end World

abbrev WindowsProg (α : Type) : Type 1 := Prog windowsMachine α

def command (c : WindowsCmd) : WindowsProg (WindowsResp c) := Prog.call (M := windowsMachine) c

def verifyProtectedEndpoint (table : RouteTable) :
    Option IpAddr → WindowsProg (Except ServiceError Unit)
  | none => pure (.ok ())
  | some (.v6 _) => pure (.error (.backend "endpoint_route_unavailable"))
  | some (.v4 address) =>
    match table.expected address with
    | none => pure (.error (.backend "endpoint_route_lost"))
    | some expected => do
      match ← command (.bestRoute address) with
      | Except.error error => pure (.error error)
      | Except.ok selected =>
        if selected.interfaceIndex ≠ expected.interfaceIndex ∨ selected.gateway ≠ expected.gateway then
          pure (.error (.backend "endpoint_route_lost"))
        else pure (.ok ())

def cleanup (m : Memory) : WindowsProg (Except ServiceError Unit × Memory) := do
  let answer ← command .routesCleanup
  pure (answer.1, { m with routes := answer.2 })

def stop (m : Memory) : WindowsProg (Except ServiceError ServiceTunnelState × Memory) := do
  let m := m.forget
  let stopped ← command .stopServices
  let removed ← command .removeConfiguration
  let (cleaned, m) ← cleanup m
  let firstError := ((failure? stopped).or (failure? removed)).or (failure? cleaned)
  pure (firstError.elim (.ok .stopped) .error, m)

/-- The part of `start` that can be undone: file, service and a first verification. -/
def launch (m : Memory) (configuration : TunnelConfiguration) :
    WindowsProg (Except ServiceError Unit) := do
  match ← command (.writeConfiguration configuration) with
  | Except.error error => pure (.error error)
  | Except.ok () =>
    match ← command (.startService configuration.transport) with
    | Except.error error => pure (.error error)
    | Except.ok () => verifyProtectedEndpoint m.routes m.protectedEndpoint

def abandon (m : Memory) (error : ServiceError) :
    WindowsProg (Except ServiceError ServiceTunnelState × Memory) := do
  let m := m.forget
  let _ ← command .stopServices
  let _ ← command .removeConfiguration
  let (_, m) ← cleanup m
  pure (.error error, m)

def raise (m : Memory) (configuration : TunnelConfiguration) :
    WindowsProg (Except ServiceError ServiceTunnelState × Memory) := do
  let m : Memory :=
    { m with endpoint := configuration.endpoint, transport := some configuration.transport }
  let applied ← command (.routesApply m.protectedEndpoint)
  let m : Memory := { m with routes := applied.2 }
  match applied.1 with
  | Except.error error => do
    let (_, m) ← cleanup m.forget
    pure (.error error, m)
  | Except.ok () =>
    match ← launch m configuration with
    | Except.error error => abandon m error
    | Except.ok () => pure (.ok .running, m)

def start (configuration : TunnelConfiguration) (m : Memory) :
    WindowsProg (Except ServiceError ServiceTunnelState × Memory) := do
  let (stopped, m) ← stop m
  match stopped with
  | Except.error error => pure (.error error, m)
  | Except.ok _ =>
    match writtenConfiguration configuration with
    | .error error => pure (.error error, m)
    | .ok configuration => raise m configuration

def tunnelState (table : RouteTable) : ServiceState → ServiceTunnelState
  | .stopped => if table.hasRoutes then .failed else .stopped
  | .startPending => .starting
  | .running => .running
  | .stopPending => .stopping
  | .other => .failed

def status (m : Memory) : WindowsProg (StatusAnswer × Memory) := do
  match ← command .queryService with
  | Except.error error => pure (⟨.error error, none, none⟩, m)
  | Except.ok none => pure (⟨.ok (if m.routes.hasRoutes then .failed else .stopped), none, none⟩, m)
  | Except.ok (some service) =>
    let state := tunnelState m.routes service.state
    if state = .running then do
      match ← verifyProtectedEndpoint m.routes m.protectedEndpoint with
      | Except.ok () => pure (⟨.ok .running, some service, m.protectedEndpoint⟩, m)
      | Except.error _ => do
        let (_, m) ← stop m
        pure (⟨.ok .failed, some service, none⟩, m)
    else pure (⟨.ok state, some service, none⟩, m)

def new : WindowsProg (Except ServiceError Memory) := do
  match ← command .loadRoutes with
  | Except.error error => pure (.error error)
  | Except.ok table =>
    match ← command .queryService with
    | Except.error error => pure (.error error)
    | Except.ok service =>
      if service.any (·.state ≠ .stopped) then do
        let endpoint ← command .readConfiguration
        let transport ← command .readConfiguration
        pure (.ok ⟨endpoint.bind (·.endpoint), transport.map (·.transport), table⟩)
      else do
        let answer ← command .routesCleanup
        match answer.1 with
        | Except.error error => pure (.error error)
        | Except.ok () => pure (.ok ⟨none, none, answer.2⟩)

def call {α : Type} (body : Memory → WindowsProg (α × Memory)) : WindowsProg α := do
  let m ← command .borrow
  let (a, m) ← body m
  command (.giveBack m)
  pure a

/-- Calls of the backend, starts of its process, and changes that are not its own. -/
inductive WindowsOp where
  | new
  | start (configuration : TunnelConfiguration)
  | stop
  | status
  | drift (transport : TunnelTransport) (state : Option ServiceState)

def boot : WindowsProg Unit := do
  command .vacant
  match ← new with
  | .error _ => pure ()
  | .ok m => command (.giveBack m)

def windowsSystem : System where
  machine := windowsMachine
  Op := WindowsOp
  program
    | .new => boot
    | .start configuration => (fun _ => ()) <$> call (start configuration)
    | .stop => (fun _ => ()) <$> call stop
    | .status => call status >>= fun answer => command (.record answer)
    | .drift transport state => command (.drift transport state)
  restart s := { s with backend := none }

section Protection

/-- A Running about an AmneziaWG service verified the endpoint of that service. -/
def StatusAnswer.Protected (answer : StatusAnswer) : Prop :=
  ∀ service, answer.service = some service → service.configuration.transport = .amneziaWg3 →
    answer.result = .ok .running →
      answer.verified = service.configuration.endpoint ∧ isV4 answer.verified = true

/-- A memory knows the endpoint of the AmneziaWG service, unless that has stopped. -/
def Knows (m : Memory) (s : WindowsWorld) : Prop :=
  ∀ service, s.amneziawg = some service → service.state ≠ .stopped →
    m.transport = some .amneziaWg3 ∧ m.endpoint = service.configuration.endpoint

structure Guarded (s : WindowsWorld) : Prop where
  filed : ∀ service, s.amneziawg = some service → s.file = some service.configuration
  /-- The service has the transport of its kind and a pinned endpoint. -/
  pinned : ∀ service, s.amneziawg = some service →
    service.configuration.transport = .amneziaWg3 ∧ isV4 service.configuration.endpoint = true
  /-- A WireGuard service has the transport of its kind. -/
  plain : ∀ service, s.wireguard = some service → service.configuration.transport = .wireGuard
  known : ∀ m, s.backend = some m → Knows m s
  /-- Every answer so far verified what it had to. -/
  answered : ∀ answer ∈ s.answers, answer.Protected

/-- No failing stop of the services leaves an AmneziaWG service, and the file of
such a service can be read. -/
def Stoppable (_ : ℕ) (c : WindowsCmd) (i : WindowsInput) (s : WindowsWorld) : Prop :=
  match c, i with
  | .stopServices, .stopped (.error _) _ true => s.amneziawg = none
  | .readConfiguration, .readable false => s.amneziawg = none
  | _, _ => True

instance decidableStoppable (t : ℕ) (c : WindowsCmd) (i : WindowsInput) (s : WindowsWorld) :
    Decidable (Stoppable t c i s) := by
  unfold Stoppable
  split <;> infer_instance

instance (t : ℕ) (c : windowsSystem.machine.Cmd) (i : windowsSystem.machine.Input)
    (s : windowsSystem.machine.State) : Decidable (Stoppable t c i s) := decidableStoppable t c i s

def windowsContract : Contract windowsMachine := .sequential Guarded Stoppable

variable {s : WindowsWorld}

lemma wp_command {Q : WindowsResp c → WindowsWorld → Prop}
    (h : ∀ i r s', Guarded s → Stoppable t c i s → WindowsWorld.exec i s c = some (r, s') →
      Guarded s' ∧ Q r s') :
    wp windowsContract t (command c) Q s := wp_call_sequential h

lemma wp_look {Q : WindowsResp c → WindowsWorld → Prop}
    (hp : ∀ i r s', WindowsWorld.exec i s c = some (r, s') → s' = s)
    (h : ∀ i r, Guarded s → Stoppable t c i s → WindowsWorld.exec i s c = some (r, s) → Q r s) :
    wp windowsContract t (command c) Q s := by
  apply wp_command
  intro i r s' hi hc hse
  have hs : s' = s := hp i r s' hse
  subst hs
  exact ⟨hi, h i r hi hc hse⟩

lemma state_of_map {α β : Type} {o : Option α} {f : α → β} {r : β} {s' : WindowsWorld}
    (h : o.map (fun a => (f a, s)) = some (r, s')) : s' = s := by
  obtain ⟨_, -, hr⟩ := Option.map_eq_some_iff.mp h
  cases hr
  rfl

lemma wp_routesCleanup (h : ∀ r, Q r s) : wp windowsContract t (command .routesCleanup) Q s := by
  apply wp_look
  · exact fun _ _ _ hs => state_of_map hs
  · exact fun _ r _ _ _ => h r

lemma wp_cleanup (h : ∀ r table, Q (r, { m with routes := table }) s) :
    wp windowsContract t (cleanup m) Q s := by
  unfold cleanup
  rw [wp_bind]
  exact wp_routesCleanup fun r => h r.1 r.2

structure Quiet (s : WindowsWorld) : Prop where
  borrowed : s.backend = none
  vacant : s.amneziawg = none

lemma Quiet.knows (h : Quiet s) (m : Memory) : Knows m s := by
  intro _ hs
  rw [h.vacant] at hs
  cases hs

lemma Guarded.quiet (h : Guarded s) (hq : Quiet s')
    (hp : ∀ service, s'.wireguard = some service → service.configuration.transport = .wireGuard)
    (ha : s'.answers = s.answers) : Guarded s' := by
  constructor
  · intro _ hs
    rw [hq.vacant] at hs
    cases hs
  · intro _ hs
    rw [hq.vacant] at hs
    cases hs
  · exact hp
  · intro m hm
    rw [hq.borrowed] at hm
    cases hm
  · rw [ha]
    exact h.answered

lemma stopped?_eq_some {i : WindowsInput}
    (h : i.stopped? = some (result, wireguardLeft, amneziawgLeft)) :
    i = .stopped result wireguardLeft amneziawgLeft := by
  cases i <;> simp_all [WindowsInput.stopped?]

lemma readable?_eq_some {i : WindowsInput} {success : Bool} (h : i.readable? = some success) :
    i = .readable success := by
  cases i <;> simp_all [WindowsInput.readable?]

lemma wp_stopServices (hb : s.backend = none) (h : ∀ r s', Quiet s' → Q r s') :
    wp windowsContract t (command .stopServices) Q s := by
  apply wp_command
  intro i r _ hin hc hse
  simp only [WindowsWorld.exec, Option.map_eq_some_iff] at hse
  obtain ⟨⟨result, wireguardLeft, amneziawgLeft⟩, hi, hr⟩ := hse
  cases hr
  have hq : Quiet (s.servicesAfter wireguardLeft amneziawgLeft result) := by
    cases result with
    | ok u => exact ⟨hb, rfl⟩
    | error =>
      cases amneziawgLeft with
      | false => exact ⟨hb, rfl⟩
      | true =>
        rw [stopped?_eq_some hi] at hc
        exact ⟨hb, hc⟩
  refine ⟨hin.quiet hq ?_ ?_, h _ _ hq⟩
  · intro service hs
    cases result with
    | ok u => cases hs
    | error =>
      cases wireguardLeft with
      | true => exact hin.plain service hs
      | false => cases hs
  · cases result <;> rfl

lemma Quiet.fileAfter (h : Quiet s) (hi : Guarded s) (success : Option TunnelConfiguration)
    (result : Except ServiceError Unit) (gone : Bool) :
    Quiet (s.fileAfter success result gone) ∧ Guarded (s.fileAfter success result gone) := by
  rcases result with _ | u
  · cases gone with
    | true =>
      have hq : Quiet { s with file := none } := ⟨h.borrowed, h.vacant⟩
      exact ⟨hq, hi.quiet hq hi.plain rfl⟩
    | false => exact ⟨h, hi⟩
  · have hq : Quiet { s with file := success } := ⟨h.borrowed, h.vacant⟩
    exact ⟨hq, hi.quiet hq hi.plain rfl⟩

lemma wp_removeConfiguration (hq : Quiet s) (h : ∀ r s', Quiet s' → Q r s') :
    wp windowsContract t (command .removeConfiguration) Q s := by
  apply wp_command
  intro i r _ hi _ hs
  simp only [WindowsWorld.exec, Option.map_eq_some_iff] at hs
  obtain ⟨⟨result, gone⟩, -, hr⟩ := hs
  cases hr
  obtain ⟨hq', hi'⟩ := hq.fileAfter hi none result gone
  exact ⟨hi', h _ _ hq'⟩

lemma wp_writeConfiguration (hq : Quiet s)
    (hd : ∀ s', Quiet s' → s'.file = some configuration → Q (.ok ()) s')
    (hf : ∀ error s', Quiet s' → Q (.error error) s') :
    wp windowsContract t (command (.writeConfiguration configuration)) Q s := by
  apply wp_command
  intro i r _ hi _ hs
  simp only [WindowsWorld.exec, Option.map_eq_some_iff] at hs
  obtain ⟨⟨result, gone⟩, -, hr⟩ := hs
  cases hr
  obtain ⟨hq', hi'⟩ := hq.fileAfter hi (some configuration) result gone
  refine ⟨hi', ?_⟩
  cases result with
  | ok u => exact hd _ hq' rfl
  | error error => exact hf error _ hq'

/-- The memory is borrowed, and an AmneziaWG service has the given configuration. -/
structure Raised (configuration : TunnelConfiguration) (s : WindowsWorld) : Prop where
  borrowed : s.backend = none
  /-- A service has the configuration and its transport. -/
  service : ∀ service, s.amneziawg = some service →
    configuration.transport = .amneziaWg3 ∧ service.configuration = configuration

lemma wp_startService (hq : Quiet s) (hf : s.file = some configuration)
    (hp : configuration.transport = .amneziaWg3 → isV4 configuration.endpoint = true)
    (h : ∀ r s', Raised configuration s' → Q r s') :
    wp windowsContract t (command (.startService configuration.transport)) Q s := by
  apply wp_command
  intro i r _ hi _ hse
  simp only [WindowsWorld.exec, Option.map_eq_some_iff] at hse
  obtain ⟨⟨result, left⟩, -, hre⟩ := hse
  cases hre
  have hr : ∀ state, Raised configuration
        (s.setService (some ⟨state, configuration⟩) configuration.transport) ∧
      Guarded (s.setService (some ⟨state, configuration⟩) configuration.transport) := by
    intro state
    cases ht : configuration.transport with
    | wireGuard =>
      have hq' : Quiet { s with wireguard := some ⟨state, configuration⟩ } :=
        ⟨hq.borrowed, hq.vacant⟩
      refine ⟨⟨hq.borrowed, ?_⟩, hi.quiet hq' ?_ rfl⟩
      · intro _ hs
        rw [WindowsWorld.setService, hq.vacant] at hs
        cases hs
      · intro _ hs
        cases hs
        exact ht
    | amneziaWg3 =>
      refine ⟨⟨hq.borrowed, ?_⟩, ?_⟩
      · intro _ hs
        cases hs
        exact ⟨ht, rfl⟩
      · constructor
        · intro _ hs
          cases hs
          exact hf
        · intro _ hs
          cases hs
          exact ⟨ht, hp ht⟩
        · exact hi.plain
        · intro m hm
          rw [WindowsWorld.setService, hq.borrowed] at hm
          cases hm
        · exact hi.answered
  have hk : Raised configuration s := by
    refine ⟨hq.borrowed, ?_⟩
    intro _ hs
    rw [hq.vacant] at hs
    cases hs
  rcases result with _ | u
  · cases left with
    | none => exact ⟨hi, h _ _ hk⟩
    | some state =>
      simp only [WindowsWorld.serviceAfter, hf, Option.map_some]
      exact ⟨(hr state).2, h _ _ (hr state).1⟩
  · simp only [WindowsWorld.serviceAfter, hf, Option.map_some]
    exact ⟨(hr .running).2, h _ _ (hr .running).1⟩

lemma wp_verifyProtectedEndpoint (ho : (∀ address, endpoint ≠ some (.v6 address)) → Q (.ok ()) s)
    (hf : ∀ error, Q (.error error) s) :
    wp windowsContract t (verifyProtectedEndpoint table endpoint) Q s := by
  rcases endpoint with _ | address | address
  · exact ho (by simp)
  · have ho' : Q (.ok ()) s := ho (by simp)
    simp only [verifyProtectedEndpoint]
    cases table.expected address with
    | none => exact hf _
    | some expected =>
      simp only [wp_bind]
      apply wp_look
      · exact fun _ _ _ hs => state_of_map hs
      · intro i r _ _ _
        cases r with
        | error error => exact hf error
        | ok selected =>
          by_cases hl : selected.interfaceIndex ≠ expected.interfaceIndex ∨
              selected.gateway ≠ expected.gateway
          · simp only [if_pos hl]
            exact hf _
          · simp only [if_neg hl]
            exact ho'
  · exact hf _

end Protection

section Calls

variable {t : ℕ} {s : WindowsWorld}

lemma wp_stop (hb : s.backend = none) (h : ∀ r s', Quiet s' → Q r s') :
    wp windowsContract t (stop m) Q s := by
  simp only [stop, wp_bind]
  apply wp_stopServices hb
  intro _ _ hq1
  apply wp_removeConfiguration hq1
  intro _ s2 hq2
  apply wp_cleanup
  intro _ _
  exact h _ s2 hq2

lemma wp_abandon (hb : s.backend = none)
    (h : ∀ r s', Quiet s' → Q r s') : wp windowsContract t (abandon m error) Q s := by
  simp only [abandon, wp_bind]
  apply wp_stopServices hb
  intro _ _ hq1
  apply wp_removeConfiguration hq1
  intro _ s2 hq2
  apply wp_cleanup
  intro _ _
  exact h _ s2 hq2

lemma wp_launch (hq : Quiet s)
    (hp : configuration.transport = .amneziaWg3 → isV4 configuration.endpoint = true)
    (h : ∀ r s', Raised configuration s' → Q r s') :
    wp windowsContract t (launch m configuration) Q s := by
  have hr : ∀ s', Quiet s' → Raised configuration s' := by
    intro _ hq'
    refine ⟨hq'.borrowed, ?_⟩
    intro _ hs
    rw [hq'.vacant] at hs
    cases hs
  simp only [launch, wp_bind]
  apply wp_writeConfiguration hq
  · intro _ hq1 hf
    apply wp_startService hq1 hf hp
    intro started s2 hr2
    cases started with
    | error => exact h _ s2 hr2
    | ok u =>
      apply wp_verifyProtectedEndpoint
      · exact fun _ => h _ s2 hr2
      · exact fun _ => h _ s2 hr2
  · intro _ s1 hq1
    exact h _ s1 (hr s1 hq1)

lemma writtenConfiguration_pinned (h : writtenConfiguration configuration = .ok written) :
    written.transport = .amneziaWg3 → isV4 written.endpoint = true := by
  intro hw
  cases ht : configuration.transport with
  | wireGuard =>
    simp only [writtenConfiguration, ht] at h
    cases h
    rw [ht] at hw
    cases hw
  | amneziaWg3 =>
    simp only [writtenConfiguration, ht] at h
    rcases he : configuration.endpoint with _ | _ | _
    · simp [he, isV4] at h
    · cases hp : configuration.pinnable with
      | false => simp [he, isV4, pinConfigurationEndpoint, hp] at h
      | true =>
        simp only [he, isV4, pinConfigurationEndpoint, hp, if_true] at h
        cases h
        rfl
    · simp [he, isV4] at h

lemma wp_start (hb : s.backend = none) (h : ∀ r s', s'.backend = none → Knows r.2 s' → Q r s') :
    wp windowsContract t (start configuration m) Q s := by
  have hqu : ∀ r s', Quiet s' → Q r s' := by
    intro r s' hq
    exact h r s' hq.borrowed (hq.knows r.2)
  simp only [start, wp_bind]
  apply wp_stop hb
  rintro ⟨stopped, _⟩ s1 hq1
  cases stopped with
  | error => exact hqu _ s1 hq1
  | ok =>
    cases hw : writtenConfiguration configuration with
    | error => exact hqu _ s1 hq1
    | ok =>
      have hp := writtenConfiguration_pinned hw
      simp only [raise, wp_bind]
      apply wp_look
      · exact fun _ _ _ hse => state_of_map hse
      · intro i applied _ _ _
        obtain ⟨result, _⟩ := applied
        cases result with
        | error =>
          simp only [wp_bind]
          apply wp_cleanup
          intro _ _
          exact hqu _ s1 hq1
        | ok u =>
          simp only [wp_bind]
          apply wp_launch hq1 hp
          intro launched s2 hr
          cases launched with
          | error => exact wp_abandon hr.borrowed hqu
          | ok u =>
            refine h _ s2 hr.borrowed ?_
            intro service hs _
            obtain ⟨ht, hc⟩ := hr.service service hs
            exact ⟨congrArg some ht, congrArg (·.endpoint) hc.symm⟩

lemma wp_queryService (hf : ∀ error, Q (.error error) s)
    (ho : ∀ service, Guarded s → s.openService = .ok service → Q (.ok service) s) :
    wp windowsContract t (command .queryService) Q s := by
  apply wp_look
  · intro i r _ hs
    simp only [WindowsWorld.exec, Option.some.injEq] at hs
    cases hs
    rfl
  · intro i r hi _ hs
    simp only [WindowsWorld.exec, Option.some.injEq, Prod.mk.injEq, and_true] at hs
    cases r with
    | error error => exact hf error
    | ok service =>
      cases hr : i.refused? with
      | some => simp [hr] at hs
      | none =>
        simp only [hr] at hs
        exact ho service hi hs

lemma openService_amneziawg (h : s.openService = .ok service) (hf : s.amneziawg = some found) :
    service = some found := by
  unfold WindowsWorld.openService at h
  rw [hf] at h
  cases hw : s.wireguard with
  | some => simp [hw] at h
  | none =>
    simp only [hw] at h
    cases h
    rfl

lemma Guarded.amneziawg_of_transport (hi : Guarded s) (h : s.openService = .ok (some service))
    (ht : service.configuration.transport = .amneziaWg3) : s.amneziawg = some service := by
  unfold WindowsWorld.openService at h
  cases hw : s.wireguard with
  | none =>
    simp only [hw] at h
    cases ha : s.amneziawg <;> simp_all
  | some =>
    cases ha : s.amneziawg with
    | some => simp [hw, ha] at h
    | none =>
      simp only [hw, ha] at h
      cases h
      have hp := hi.plain _ hw
      rw [ht] at hp
      cases hp

lemma tunnelState_eq_running (h : tunnelState table state = .running) : state = .running := by
  cases state with
  | running => rfl
  | stopped => cases hr : table.hasRoutes <;> simp [tunnelState, hr] at h
  | startPending | stopPending | other => simp [tunnelState] at h

/-- A status answers Running about an AmneziaWG service only after it verified
the endpoint of that service. -/
lemma wp_status (hb : s.backend = none) (hk : Knows m s)
    (h : ∀ r s', s'.backend = none → Knows r.2 s' → r.1.Protected → Q r s') :
    wp windowsContract t (status m) Q s := by
  simp only [status, wp_bind]
  apply wp_queryService
  · intro _
    exact h _ s hb hk (by intro service hs; cases hs)
  · intro service hi ho
    cases service with
    | none => exact h _ s hb hk (by intro service hs; cases hs)
    | some service =>
      by_cases hr : tunnelState m.routes service.state = .running
      · simp only [if_pos hr, wp_bind]
        have hst := tunnelState_eq_running hr
        apply wp_verifyProtectedEndpoint
        · intro _
          refine h _ s hb hk ?_
          intro _ hs' ht _
          cases hs'
          have hf := hi.amneziawg_of_transport ho ht
          obtain ⟨hkn, he⟩ := hk service hf (by simp [hst])
          have hp : m.protectedEndpoint = service.configuration.endpoint := by
            simp [Memory.protectedEndpoint, hkn, he]
          exact ⟨hp, hp ▸ (hi.pinned service hf).2⟩
        · intro _
          simp only [wp_bind]
          apply wp_stop hb
          intro _ s1 hq1
          refine h _ s1 hq1.borrowed (hq1.knows _) ?_
          intro _ _ _ hre
          cases hre
      · simp only [if_neg hr]
        refine h _ s hb hk ?_
        intro _ _ _ hre
        exact absurd (Except.ok.inj hre) hr

lemma wp_readConfiguration (h : ∀ r, (s.amneziawg ≠ none → r = s.file) → Q r s) :
    wp windowsContract t (command .readConfiguration) Q s := by
  apply wp_look
  · exact fun _ _ _ hse => state_of_map hse
  · intro i r _ hc hse
    simp only [WindowsWorld.exec, Option.map_eq_some_iff] at hse
    obtain ⟨success, hi, hr⟩ := hse
    cases hr
    apply h
    intro hs
    cases success with
    | true => rfl
    | false =>
      rw [readable?_eq_some hi] at hc
      exact absurd hc hs

lemma wp_new (hfa : ∀ error, Q (.error error) s) (hok : ∀ m, Knows m s → Q (.ok m) s) :
    wp windowsContract t new Q s := by
  simp only [new, wp_bind]
  apply wp_look
  · exact fun _ _ _ hse => state_of_map hse
  · intro i loaded _ _ _
    cases loaded with
    | error error => exact hfa error
    | ok =>
      simp only [wp_bind]
      apply wp_queryService
      · exact hfa
      · intro service hi ho
        by_cases ha : service.any (·.state ≠ .stopped) = true
        · simp only [if_pos ha, wp_bind]
          apply wp_readConfiguration
          intro _ he
          apply wp_readConfiguration
          intro _ ht
          apply hok
          intro found hf _
          have hs : s.amneziawg ≠ none := by simp [hf]
          have hfi := hi.filed found hf
          have hp := hi.pinned found hf
          simp [he hs, ht hs, hfi, hp.1]
        · simp only [if_neg ha, wp_bind]
          apply wp_routesCleanup
          rintro ⟨result, _⟩
          cases result with
          | error error => exact hfa error
          | ok u =>
            apply hok
            intro _ hf hst
            rw [openService_amneziawg ho hf] at ha
            simp [hst] at ha

lemma wp_giveBack (hk : Knows m s) (h : Q () { s with backend := some m }) :
    wp windowsContract t (command (.giveBack m)) Q s := by
  apply wp_command
  intro i r _ hi _ hs
  cases hs
  refine ⟨⟨hi.filed, hi.pinned, hi.plain, ?_, hi.answered⟩, h⟩
  intro _ hm'
  cases hm'
  exact hk

lemma wp_callMemory {α : Type} {body : Memory → WindowsProg (α × Memory)}
    {Q : α → WindowsWorld → Prop}
    (h : ∀ m s', s'.backend = none → Knows m s' →
      wp windowsContract t (body m) (fun r s'' => Knows r.2 s'' ∧
        Q r.1 { s'' with backend := some r.2 }) s') :
    wp windowsContract t (call body) Q s := by
  simp only [call, wp_bind]
  apply wp_command
  intro i m _ hi _ hs
  simp only [WindowsWorld.exec, Option.map_eq_some_iff] at hs
  obtain ⟨_, hme, hre⟩ := hs
  cases hre
  have hk : Knows m s := hi.known m hme
  refine ⟨⟨hi.filed, hi.pinned, hi.plain, (by intro _ hm'; cases hm'), hi.answered⟩, ?_⟩
  refine wp_mono ?_ (h m { s with backend := none } rfl hk)
  intro r _ hr
  exact wp_giveBack hr.1 hr.2

/-- A service that changes by itself stays guarded: one that has stopped does not run again. -/
lemma Guarded.drift (h : Guarded s) (transport : TunnelTransport) (state : Option ServiceState) :
    Guarded (s.drift transport state) := by
  unfold WindowsWorld.drift
  cases hs : s.service transport with
  | none => exact h
  | some service =>
    have hg : Guarded (s.setService none transport) := by
      cases transport with
      | wireGuard => exact ⟨h.filed, h.pinned, (by intro x hx; cases hx), h.known, h.answered⟩
      | amneziaWg3 =>
        refine ⟨(by intro x hx; cases hx), (by intro x hx; cases hx), h.plain, ?_, h.answered⟩
        intro m _ x hx
        cases hx
    cases state with
    | none => exact hg
    | some =>
      by_cases hst : service.state = .stopped
      · simp only [if_pos hst]
        exact h
      · simp only [if_neg hst]
        cases transport with
        | wireGuard =>
          refine ⟨h.filed, h.pinned, ?_, h.known, h.answered⟩
          intro x hx
          cases hx
          exact h.plain service hs
        | amneziaWg3 =>
          refine ⟨?_, ?_, h.plain, ?_, h.answered⟩
          · intro x hx
            cases hx
            exact h.filed service hs
          · intro x hx
            cases hx
            exact h.pinned service hs
          · intro m hm x hx _
            cases hx
            exact h.known m hm service hs hst

/-- Every call, every start of a process and every change by itself keeps the endpoints known. -/
lemma windows_covers (op : WindowsOp) :
    wp windowsContract t (windowsSystem.program op) (fun _ _ => True) s := by
  cases op with
  | new =>
    simp only [windowsSystem, boot, wp_bind]
    apply wp_look
    · intro i r _ hs
      simp only [WindowsWorld.exec, Option.ite_none_right_eq_some, Option.some.injEq] at hs
      cases hs.2
      rfl
    · intro _ _ _ _ _
      apply wp_new
      · exact fun _ => trivial
      · exact fun m hk => wp_giveBack hk trivial
  | start =>
    simp only [windowsSystem, wp_map]
    apply wp_callMemory
    intro m _ hb _
    apply wp_start hb
    exact fun r s'' _ hk => ⟨hk, trivial⟩
  | stop =>
    simp only [windowsSystem, wp_map]
    apply wp_callMemory
    intro m _ hb _
    apply wp_stop hb
    exact fun r s'' hq => ⟨hq.knows r.2, trivial⟩
  | status =>
    simp only [windowsSystem, wp_bind]
    apply wp_callMemory
    intro m _ hb hk
    apply wp_status hb hk
    intro r _ _ hk' hp
    refine ⟨hk', ?_⟩
    apply wp_command
    intro i _ _ hi _ hs
    simp only [WindowsWorld.exec, Option.some.injEq] at hs
    cases hs
    refine ⟨⟨hi.filed, hi.pinned, hi.plain, hi.known, ?_⟩, trivial⟩
    intro answer ha
    rcases List.mem_cons.mp ha with rfl | ha
    · exact hp
    · exact hi.answered answer ha
  | drift transport state =>
    apply wp_command
    intro i r _ hi _ hs
    cases hs
    exact ⟨hi.drift transport state, trivial⟩

lemma guarded_restart (h : Guarded s) : Guarded (windowsSystem.restart s) :=
  ⟨h.filed, h.pinned, h.plain, (by intro m hm; cases hm), h.answered⟩

lemma guarded_untouched : Guarded .untouched := by
  constructor <;> simp [WindowsWorld.untouched]

/-- In every history of calls, deaths and restarts in which no failing stop of
the services leaves an AmneziaWG service, `status` answers Running about such a
service only when it verified the route to the endpoint of that service. -/
theorem running_only_protected {P : Pool windowsSystem}
    (h : Reach Stoppable (Pool.idle WindowsWorld.untouched) P) :
    ∀ answer ∈ P.state.answers, ∀ service, answer.service = some service →
      service.configuration.transport = .amneziaWg3 → answer.result = .ok .running →
        answer.verified = service.configuration.endpoint ∧ isV4 answer.verified = true := by
  have hi : Guarded P.state := Reach.sequential h (fun op t s _ => windows_covers op)
    (fun _ => guarded_restart) guarded_untouched
  exact hi.answered

end Calls

def pinnedTunnel : TunnelConfiguration := ⟨.amneziaWg3, some (.v4 "198.51.100.7"), true⟩

def pinnedRoutes : RouteTable := ⟨[⟨"198.51.100.7/32", 4, "192.0.2.1", endpointRouteMetric⟩], []⟩

def bootRun : List (Move windowsSystem) :=
  .start .new :: segment (S := windowsSystem) 0
    ([.unasked, .loaded (.ok ⟨[], []⟩), .unasked, .routes (.ok ()) ⟨[], []⟩, .unasked] :
      List WindowsInput)

def startRun : List (Move windowsSystem) :=
  .start (.start pinnedTunnel) :: segment (S := windowsSystem) 1
    ([.unasked, .stopped (.ok ()) false false, .file (.ok ()) false, .routes (.ok ()) ⟨[], []⟩,
      .routes (.ok ()) pinnedRoutes, .file (.ok ()) false, .started (.ok ()) none,
      .selected (.ok ⟨4, "192.0.2.1"⟩), .unasked] : List WindowsInput)

def failedStopRun : List (Move windowsSystem) :=
  .start .stop :: segment (S := windowsSystem) 2
    ([.unasked, .stopped (.error (.backend "dispatcher_primitive_failed")) false true,
      .file (.ok ()) false, .routes (.ok ()) ⟨[], []⟩, .unasked] : List WindowsInput)

def statusRun (t : ℕ) (checks : List WindowsInput) : List (Move windowsSystem) :=
  .start .status :: segment (S := windowsSystem) t
    (([.unasked, .unasked] ++ checks ++ [.unasked, .unasked]) : List WindowsInput)

/-- After a stop that failed, `status` answers Running about the tunnel that
still runs, and no route is verified. -/
theorem failed_stop_runs_unprotected :
    ∃ P : Pool windowsSystem, Reach (unconditioned _) (Pool.idle WindowsWorld.untouched) P ∧
      ∃ answer ∈ P.state.answers, answer.result = .ok .running ∧
        answer.service = some ⟨.running, pinnedTunnel⟩ ∧ answer.verified = none := by
  have hru : (moves (unconditioned _) (Pool.idle WindowsWorld.untouched)
      (bootRun ++ startRun ++ failedStopRun ++ statusRun 3 [])).map (fun P => P.state.answers) =
      some [⟨.ok .running, some ⟨.running, pinnedTunnel⟩, none⟩] := by rfl
  obtain ⟨P, hr, ha⟩ := Reach.observed hru
  refine ⟨P, hr, ?_⟩
  rw [ha]
  exact ⟨_, List.mem_cons_self, rfl, rfl, rfl⟩

/-- A tunnel that was started and asked for its status. -/
theorem running_only_protected_started :
    ∃ P : Pool windowsSystem, Reach Stoppable (Pool.idle WindowsWorld.untouched) P ∧
      ∃ answer ∈ P.state.answers, answer.result = .ok .running ∧
        answer.verified = some (.v4 "198.51.100.7") := by
  have hru : (moves Stoppable (Pool.idle WindowsWorld.untouched)
      (bootRun ++ startRun ++ statusRun 2 [.selected (.ok ⟨4, "192.0.2.1"⟩)])).map
        (fun P => P.state.answers.map fun a => (a.result, a.service)) =
      some [(.ok .running, some ⟨.running, pinnedTunnel⟩)] := by rfl
  obtain ⟨P, hr, han⟩ := Reach.observed hru
  obtain ⟨answer, ha, hpa⟩ : ∃ answer ∈ P.state.answers,
      (answer.result, answer.service) = (.ok .running, some ⟨.running, pinnedTunnel⟩) := by
    apply List.mem_map.mp
    simp [han]
  simp only [Prod.mk.injEq] at hpa
  have hp := running_only_protected hr answer ha _ hpa.2 rfl hpa.1
  exact ⟨P, hr, answer, ha, hpa.1, hp.1⟩

end NelomaiClient.WindowsBackend
