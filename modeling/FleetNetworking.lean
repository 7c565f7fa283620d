import FleetNetworking.Lib.DnsName
import FleetNetworking.Lib.GoResult
import FleetNetworking.Lib.GoMap
import FleetNetworking.Lib.GoHttp
import FleetNetworking.Lib.Json
import FleetNetworking.Lib.KeyedList
import FleetNetworking.Lib.ObjectStore
import FleetNetworking.UniqueName
import FleetNetworking.Common.HttpClient
import FleetNetworking.Member.HubNames
import FleetNetworking.Member.MultiClusterService
import FleetNetworking.Member.EndpointSlice
import FleetNetworking.TrafficManager.Backend
import FleetNetworking.TrafficManager.EndpointsUpdate
import FleetNetworking.Lib.Apportion
import FleetNetworking.TrafficManager.DesiredEndpoints
import FleetNetworking.Member.ExportWeight
import FleetNetworking.TrafficManager.HandleUpdate
import FleetNetworking.TrafficManager.Profile
import FleetNetworking.TrafficManager.WatchFilters
import FleetNetworking.TrafficManager.ProfileStatus
import FleetNetworking.Hub.ServiceExport
import FleetNetworking.Hub.ServiceExportInv
import FleetNetworking.Hub.ServiceExportSafety
import FleetNetworking.Hub.ServiceExportQuiescence
import FleetNetworking.Hub.InternalServiceImport
import FleetNetworking.Hub.InternalServiceImportInv
import FleetNetworking.Hub.InternalServiceImportSafety
import FleetNetworking.Hub.InternalServiceImportQuiescence
import FleetNetworking.Hub.EndpointSliceExport
import FleetNetworking.Hub.EndpointSliceDistribution
import FleetNetworking.Hub.ServiceInUseBy
import FleetNetworking.TrafficManager.AzureOwnership
