import NelomaiClient.DesktopScheduler
import NelomaiClient.SplitRestoration
import NelomaiClient.StrayPinning
import NelomaiClient.DesktopStaleFailure
import NelomaiClient.DispatcherGuarantees
import NelomaiClient.AndroidSettlement
import NelomaiClient.RouteManager
import NelomaiClient.UnixBackends
import NelomaiClient.WindowsBackend
import NelomaiClient.UpdateRecovery
import NelomaiClient.AuthRotation
import NelomaiClient.AuthCleanup
import NelomaiClient.AuthRetirement
import NelomaiClient.UserspaceRoutes
import NelomaiClient.UnixConfiguration
import NelomaiClient.OwnedPolicyGate
import NelomaiClient.PhysicalNetwork
import NelomaiClient.CancelTombstones
