import Mathlib.Data.List.Basic

/-!
# The client contract: layers, leases and connect options

The enumerations and records that the panel and the client exchange about
one VPN lease, as `contracts` declares them, together with the options a
start of the client core takes. Identifiers stay the strings of the wire.
-/

namespace NelomaiClient.ConnectionContract

inductive Layer where
  | tic
  | stray
  deriving DecidableEq

inductive TransportProtocol where
  | wireguard
  | amneziawg3
  deriving DecidableEq

inductive TicConnectionMode where
  | personal
  | dynamic
  deriving DecidableEq

inductive RouteMode where
  | standalone
  | viaTak
  deriving DecidableEq

inductive EgressMode where
  | ipv4
  | preferIpv6
  deriving DecidableEq

inductive LeaseStatus where
  | allocating
  | issued
  | connected
  | warm
  | released
  | failed
  deriving DecidableEq

inductive ProbeFailureCode where
  | invalidUrl
  | unsupportedScheme
  | timeout
  | networkError
  | httpError
  | unknown
  deriving DecidableEq

/-- One measured probe. The latency is kept as the bit pattern of the
source's double, since the client only stores and forwards it. -/
structure ProbeResult where
  candidateId : String
  /-- Measured latency in milliseconds, absent after a failure. -/
  latencyMs : Option UInt64
  failureCode : Option ProbeFailureCode
  measuredAt : String
  deriving DecidableEq

structure Connection where
  leaseId : String
  /-- Present while the lease needs a whole-session stop. -/
  sessionId : Option String
  poolId : Option String
  layer : Layer
  transportProtocol : TransportProtocol
  ticConnectionMode : TicConnectionMode
  routeMode : RouteMode
  egressMode : EgressMode
  probeUrl : Option String
  status : LeaseStatus
  /-- Whether the lease is pinned on the panel. -/
  pinned : Bool
  stoppedAt : Option String
  deriving DecidableEq

structure ConnectOptions where
  layer : Layer
  ticConnectionMode : TicConnectionMode
  routeMode : RouteMode
  egressMode : EgressMode
  probes : List ProbeResult
  allowAlternate : Bool
  deriving DecidableEq

/-- A Stray start is always dynamic and standalone, and every standalone
start leaves through IPv4. -/
def ConnectOptions.normalizedForLayer (options : ConnectOptions) : ConnectOptions :=
  let options :=
    if options.layer = .stray then
      { options with ticConnectionMode := .dynamic, routeMode := .standalone }
    else options
  if options.layer = .stray ∨ options.routeMode = .standalone then
    { options with egressMode := .ipv4 }
  else options

end NelomaiClient.ConnectionContract
