import FleetNetworking.Hub.EndpointSliceExport

/-!
# The EndpointSlice data path

An EndpointSlice of an exported Service travels from the member cluster that exports it to the
members that import it in three steps.  In the exporting member, the EndpointSlice controller
writes it into an EndpointSliceExport on the hub: the mutate function of its create or update
keeps the ready endpoints (`extractEndpointsFromEndpointSlice`, where an unset Ready condition
counts as ready), with their addresses only, and the slice's ports.  The hub copies the
export's spec into each EndpointSliceImport (`copyExportSpec`).  In each importing member, the
EndpointSliceImport controller writes the import into an EndpointSlice of the fleet-system
namespace, labelled with the derived Service (`formatEndpointSliceFromImport`).

`endpointSlice_pipeline_faithful`: the EndpointSlice a member imports is of IPv4 addresses,
has the source slice's ports, exactly the two labels of the derived Service and the
controller, and one endpoint for each ready endpoint of the source slice, in order, with its
addresses.

Timestamps (`ExportedSince`, the creation timestamp beyond whether it is set) and the
annotations of the metrics are left out.
-/

namespace FleetNet.EndpointSlices

open Go Hub.Distribution

/-- `discoveryv1.AddressType`. -/
inductive AddressType where
  | IPv4
  | IPv6
  | FQDN
  deriving DecidableEq, Repr, Inhabited

/-- `discoveryv1.EndpointConditions`. -/
structure EndpointConditions where
  ready : Option Bool
  serving : Option Bool
  terminating : Option Bool
  deriving DecidableEq, Repr, Inhabited

namespace Discovery

/-- `discoveryv1.Endpoint`, with the fields the data path drops. -/
structure Endpoint where
  addresses : List String
  conditions : EndpointConditions
  hostname : Option String
  nodeName : Option String
  zone : Option String
  deriving DecidableEq, Repr

/-- `discoveryv1.Endpoint{Addresses: addresses}`. -/
def Endpoint.ofAddresses (addresses : List String) : Endpoint := ⟨addresses, default, none, none, none⟩

/-- `discoveryv1.EndpointPort`. -/
structure EndpointPort where
  name : Option String
  protocol : Option String
  port : Option ℤ
  appProtocol : Option String
  deriving DecidableEq, Repr

/-- `discoveryv1.EndpointSlice`: its type and object metadata, and its spec. -/
structure EndpointSlice where
  apiVersion : String
  kind : String
  ns : String
  name : String
  uid : String
  resourceVersion : String
  generation : ℤ
  labels : Go.Map String String
  addressType : AddressType
  endpoints : List Endpoint
  ports : List EndpointPort

end Discovery

namespace V1alpha1

/-- `fleetnetv1alpha1.Endpoint`. -/
structure Endpoint where
  addresses : List String
  deriving DecidableEq, Repr, Inhabited

/-- `fleetnetv1alpha1.ExportedObjectReference`. -/
structure ExportedObjectReference where
  clusterID : String
  apiVersion : String
  kind : String
  ns : String
  name : String
  resourceVersion : String
  generation : ℤ
  uid : String
  namespacedName : String
  deriving DecidableEq, Repr, Inhabited

/-- `fleetnetv1alpha1.OwnerServiceReference`. -/
structure OwnerServiceReference where
  ns : String
  name : String
  namespacedName : String
  deriving DecidableEq, Repr, Inhabited

/-- `fleetnetv1alpha1.EndpointSliceExportSpec`, also the spec of an EndpointSliceImport. -/
structure EndpointSliceExportSpec where
  addressType : AddressType
  endpoints : List Endpoint
  ports : List Discovery.EndpointPort
  endpointSliceReference : ExportedObjectReference
  ownerServiceReference : OwnerServiceReference

instance : Inhabited EndpointSliceExportSpec := ⟨⟨default, [], [], default, default⟩⟩

/-- An EndpointSliceExport: its name, whether it has a creation timestamp, and its spec. -/
structure EndpointSliceExport where
  name : String
  created : Bool
  spec : EndpointSliceExportSpec

end V1alpha1

/-- `discoveryv1.LabelServiceName`. -/
def LabelServiceName : String := "kubernetes.io/service-name"

/-- `discoveryv1.LabelManagedBy`. -/
def LabelManagedBy : String := "endpointslice.kubernetes.io/managed-by"

/-- `types.NamespacedName.String`. -/
def namespacedNameString (ns name : String) : String := ns ++ "/" ++ name

/-- `FromMetaObjects`, for an EndpointSlice. -/
def FromMetaObjects (clusterID : String) (endpointSlice : Discovery.EndpointSlice) :
    V1alpha1.ExportedObjectReference :=
  ⟨clusterID, endpointSlice.apiVersion, endpointSlice.kind, endpointSlice.ns, endpointSlice.name,
    endpointSlice.resourceVersion, endpointSlice.generation, endpointSlice.uid,
    namespacedNameString endpointSlice.ns endpointSlice.name⟩

/-- `UpdateFromMetaObject`. -/
def V1alpha1.ExportedObjectReference.UpdateFromMetaObject (e : V1alpha1.ExportedObjectReference)
    (endpointSlice : Discovery.EndpointSlice) : V1alpha1.ExportedObjectReference :=
  { e with resourceVersion := endpointSlice.resourceVersion, generation := endpointSlice.generation }

/-! ## The exporting member -/

/-- `extractEndpointsFromEndpointSlice`: the endpoints whose Ready condition is unset or true,
with their addresses. -/
def extractEndpointsFromEndpointSlice (endpointSlice : Discovery.EndpointSlice) :
    List V1alpha1.Endpoint :=
  endpointSlice.endpoints.filterMap fun endpoint =>
    match endpoint.conditions.ready with
    | none => some ⟨endpoint.addresses⟩
    | some ready => if ready then some ⟨endpoint.addresses⟩ else none

/-- `isEndpointSliceExportLinkedWithEndpointSlice`. -/
def isEndpointSliceExportLinkedWithEndpointSlice (endpointSliceExport : V1alpha1.EndpointSliceExport)
    (endpointSlice : Discovery.EndpointSlice) : Bool :=
  endpointSliceExport.spec.endpointSliceReference.uid == endpointSlice.uid

/-- `errors.NewAlreadyExists` for the EndpointSliceExport of that name. -/
structure AlreadyExists where
  name : String
  deriving DecidableEq, Repr

/-- The mutate function of the EndpointSlice controller's create or update of the
EndpointSliceExport, which is new or as the hub has it. -/
def mutateEndpointSliceExport (memberClusterID : String) (endpointSlice : Discovery.EndpointSlice)
    (extractedEndpoints : List V1alpha1.Endpoint) (endpointSliceExport : V1alpha1.EndpointSliceExport) :
    Except AlreadyExists V1alpha1.EndpointSliceExport :=
  let endpointSliceExport := if !endpointSliceExport.created then
      { endpointSliceExport with spec := { endpointSliceExport.spec with
          endpointSliceReference := FromMetaObjects memberClusterID endpointSlice } }
    else endpointSliceExport
  if !isEndpointSliceExportLinkedWithEndpointSlice endpointSliceExport endpointSlice then
    .error ⟨endpointSliceExport.name⟩
  else
    let serviceName := endpointSlice.labels.index LabelServiceName
    .ok { endpointSliceExport with spec := { endpointSliceExport.spec with
      addressType := .IPv4
      endpoints := extractedEndpoints
      ports := endpointSlice.ports
      ownerServiceReference :=
        ⟨endpointSlice.ns, serviceName, namespacedNameString endpointSlice.ns serviceName⟩
      endpointSliceReference :=
        endpointSliceExport.spec.endpointSliceReference.UpdateFromMetaObject endpointSlice } }

/-! ## The importing member -/

/-- `formatEndpointSliceFromImport`, on the EndpointSlice the create or update found or made. -/
def formatEndpointSliceFromImport {N M : Type} (controllerID : String)
    (endpointSlice : Discovery.EndpointSlice) (derivedSvcName : String)
    (endpointSliceImport : EndpointSliceImport N M V1alpha1.EndpointSliceExportSpec) :
    Discovery.EndpointSlice :=
  { endpointSlice with
    addressType := endpointSliceImport.spec.addressType
    labels := some (((∅ : AList fun _ : String => String).insert LabelServiceName
      derivedSvcName).insert LabelManagedBy controllerID)
    ports := endpointSliceImport.spec.ports
    endpoints := endpointSliceImport.spec.endpoints.map fun importedEndpoint =>
      Discovery.Endpoint.ofAddresses importedEndpoint.addresses }

/-! ## The data path -/

/-- An endpoint is exported when its Ready condition is not false. -/
def readyOrUnknown (endpoint : Discovery.Endpoint) : Bool := endpoint.conditions.ready != some false

section Pipeline

variable {memberClusterID : String} {endpointSlice : Discovery.EndpointSlice}
  {endpointSliceExport : V1alpha1.EndpointSliceExport}

lemma extractEndpointsFromEndpointSlice_eq (endpointSlice : Discovery.EndpointSlice) :
    extractEndpointsFromEndpointSlice endpointSlice =
      (endpointSlice.endpoints.filter readyOrUnknown).map fun e => ⟨e.addresses⟩ := by
  rw [extractEndpointsFromEndpointSlice]
  induction endpointSlice.endpoints with
  | nil => rfl
  | cons e es ih =>
    rcases hr : e.conditions.ready with _ | _ | _ <;> simp [readyOrUnknown, hr, ih]

/-- The mutate function succeeds on a new export and on one that refers to the slice, and writes
the slice's data into the spec. -/
lemma mutateEndpointSliceExport_eq_ok (extracted : List V1alpha1.Endpoint)
    (hlinked : endpointSliceExport.created = false ∨
      endpointSliceExport.spec.endpointSliceReference.uid = endpointSlice.uid) :
    ∃ ese, mutateEndpointSliceExport memberClusterID endpointSlice extracted endpointSliceExport =
        .ok ese ∧
      ese.spec.addressType = .IPv4 ∧ ese.spec.endpoints = extracted ∧
        ese.spec.ports = endpointSlice.ports := by
  rcases hc : endpointSliceExport.created
  · simp [mutateEndpointSliceExport, hc, isEndpointSliceExportLinkedWithEndpointSlice,
      FromMetaObjects]
  · have huid := hlinked.resolve_left (by simp [hc])
    simp [mutateEndpointSliceExport, hc, isEndpointSliceExportLinkedWithEndpointSlice, huid]

/-- The two labels of an imported EndpointSlice. -/
lemma lookup_formatEndpointSliceFromImport_labels {N M : Type} (controllerID derivedSvcName : String)
    (target : Discovery.EndpointSlice)
    (esi : EndpointSliceImport N M V1alpha1.EndpointSliceExportSpec) (k : String) :
    (formatEndpointSliceFromImport controllerID target derivedSvcName esi).labels.lookup k =
      if k = LabelManagedBy then some controllerID
      else if k = LabelServiceName then some derivedSvcName else none := by
  simp only [formatEndpointSliceFromImport, Map.lookup, Option.bind_some]
  by_cases hm : k = LabelManagedBy
  · rw [if_pos hm, hm, AList.lookup_insert]
  · rw [if_neg hm, AList.lookup_insert_ne hm]
    by_cases hs : k = LabelServiceName
    · rw [if_pos hs, hs, AList.lookup_insert]
    · rw [if_neg hs, AList.lookup_insert_ne hs, AList.lookup_empty]

/-- **The data path is faithful.**  For an EndpointSlice exported from one member and an
EndpointSliceExport that is new or refers to it, the export's mutate function succeeds, and the
EndpointSlice an importing member writes from the hub's copy of the spec has IPv4 addresses,
the slice's ports, exactly the labels of the derived Service and of the controller, and the
ready endpoints of the slice, in order, each with its addresses and nothing else. -/
theorem endpointSlice_pipeline_faithful {N M : Type}
    (memberClusterID controllerID derivedSvcName : String) (endpointSlice : Discovery.EndpointSlice)
    (endpointSliceExport : V1alpha1.EndpointSliceExport)
    (endpointSliceImport : EndpointSliceImport N M V1alpha1.EndpointSliceExportSpec)
    (target : Discovery.EndpointSlice)
    (hlinked : endpointSliceExport.created = false ∨
      endpointSliceExport.spec.endpointSliceReference.uid = endpointSlice.uid) :
    ∃ ese, mutateEndpointSliceExport memberClusterID endpointSlice
        (extractEndpointsFromEndpointSlice endpointSlice) endpointSliceExport = .ok ese ∧
      let imported := formatEndpointSliceFromImport controllerID target derivedSvcName
        (copyExportSpec ese.spec endpointSliceImport)
      imported.addressType = .IPv4 ∧ imported.ports = endpointSlice.ports ∧
        (∀ k, imported.labels.lookup k =
          if k = LabelManagedBy then some controllerID
          else if k = LabelServiceName then some derivedSvcName else none) ∧
        imported.endpoints = (endpointSlice.endpoints.filter readyOrUnknown).map fun e =>
          Discovery.Endpoint.ofAddresses e.addresses := by
  obtain ⟨ese, hmut, haddr, hendpoints, hports⟩ : ∃ ese, mutateEndpointSliceExport memberClusterID
      endpointSlice (extractEndpointsFromEndpointSlice endpointSlice) endpointSliceExport = .ok ese ∧
      ese.spec.addressType = .IPv4 ∧ ese.spec.endpoints = extractEndpointsFromEndpointSlice endpointSlice ∧
      ese.spec.ports = endpointSlice.ports :=
    mutateEndpointSliceExport_eq_ok _ hlinked
  refine ⟨ese, hmut, ?_, ?_, lookup_formatEndpointSliceFromImport_labels _ _ _ _, ?_⟩
  · simpa [formatEndpointSliceFromImport, copyExportSpec] using haddr
  · simpa [formatEndpointSliceFromImport, copyExportSpec] using hports
  · simp [formatEndpointSliceFromImport, copyExportSpec, hendpoints,
      extractEndpointsFromEndpointSlice_eq]

/-- A slice of three endpoints: one of unknown readiness, one not ready, and one ready. -/
def pipelineRunSlice : Discovery.EndpointSlice :=
  ⟨"discovery.k8s.io/v1", "EndpointSlice", "work", "app-abc", "uid-1", "7", 2,
    some (AList.singleton LabelServiceName "app"), .IPv4,
    [⟨["10.0.0.1"], ⟨none, none, none⟩, none, some "node-1", none⟩,
      ⟨["10.0.0.2"], ⟨some false, none, none⟩, none, none, none⟩,
      ⟨["10.0.0.3", "10.0.0.4"], ⟨some true, none, none⟩, some "pod-3", none, some "zone-1"⟩],
    [⟨some "http", some "TCP", some 80, none⟩]⟩

/-- The EndpointSliceImport of the slice in the cluster namespace of an importing member. -/
def pipelineRunImport : EndpointSliceImport String String V1alpha1.EndpointSliceExportSpec :=
  ⟨"member-2", "work-app-abc-xyz", default, false⟩

/-- The slice imported from it keeps the first and third endpoints, with their addresses. -/
theorem endpointSlice_pipeline_faithful_run :
    ∃ ese, mutateEndpointSliceExport "member-1" pipelineRunSlice
        (extractEndpointsFromEndpointSlice pipelineRunSlice) ⟨"work-app-abc-xyz", false, default⟩ =
          .ok ese ∧
      (formatEndpointSliceFromImport "controller" pipelineRunSlice "app-derived"
        (copyExportSpec ese.spec pipelineRunImport)).endpoints =
        [Discovery.Endpoint.ofAddresses ["10.0.0.1"],
          Discovery.Endpoint.ofAddresses ["10.0.0.3", "10.0.0.4"]] := by
  obtain ⟨ese, hmut, -, -, -, hendpoints⟩ := endpointSlice_pipeline_faithful "member-1" "controller"
    "app-derived" pipelineRunSlice ⟨"work-app-abc-xyz", false, default⟩ pipelineRunImport
    pipelineRunSlice (Or.inl rfl)
  refine ⟨ese, hmut, ?_⟩
  rw [hendpoints]
  rfl

end Pipeline

end FleetNet.EndpointSlices
