import FleetNetworking.TrafficManager.DesiredEndpoints

/-!
# The update of a backend

`handleUpdate` runs once the TrafficManagerProfile, the Azure profile it names and the
ServiceImport are found valid.  A backend of weight 0 has its endpoints deleted by
`cleanupEndpoints`; any other backend gets the desired endpoints of
`validateAndProcessServiceImportForBackend`, a finalizer, and the update of its endpoints by
`updateTrafficManagerEndpointsAndUpdateStatusIfUnknown`.

The Azure profile is the one `ProfilesClient.Get` returned, and the two paths read it
differently: `cleanupEndpoints` skips a profile with nil `Properties`, while the update ranges
over `profile.Properties.Endpoints`.  On such a profile the zero-weight path returns and the
other path panics (`handleUpdate_panics_of_nil_properties`).

The status updates after the two paths, the events and the logging are left out.  The deletes
of `cleanupEndpoints` run in an errgroup, whose `Wait` returns one of their errors; the model
runs them in order and returns the first.
-/

namespace FleetNet.BackendController

open Go Result

/-- One turn of the loop of `cleanupEndpoints`: an unnamed endpoint, or one of another backend
by the name as Azure spells it, is skipped; the name of the backend's own is kept for a delete. -/
def cleanupTarget (backend : TrafficManagerBackend) (targets : List (List Char))
    (endpointPtr : Option Endpoint) : Result AzureError (List (List Char)) := do
  let endpoint ← deref endpointPtr
  match endpoint.name with
  | none => pure targets
  | some name =>
    if !isEndpointOwnedByBackend backend name then pure targets
    else pure (targets ++ [name])

/-- The delete of one endpoint, in its goroutine; `NotFound` is fine. -/
def deleteEndpoint (client : EndpointsClient) (store : EndpointStore) (name : List Char) :
    Result AzureError EndpointStore :=
  match client.Delete store name with
  | .ok store' => pure store'
  | .error deleteErr => if deleteErr.IsNotFound then pure store else err deleteErr

/-- `cleanupEndpoints`: a profile with nil `Properties` is skipped; otherwise the backend's
endpoints are deleted. -/
def cleanupEndpoints (client : EndpointsClient) (backend : TrafficManagerBackend)
    (atmProfile : Profile) (store : EndpointStore) : Result AzureError EndpointStore :=
  match atmProfile.properties with
  | none => pure store
  | some properties => do
    let _ ← deref atmProfile.name
    let targets ← properties.endpoints.foldlM (cleanupTarget backend) []
    targets.foldlM (deleteEndpoint client) store

/-- A Go `error` of the backend controller: of the hub's API server, or of Azure. -/
inductive ReconcileError (ε : Type) where
  | api (e : ε)
  | azure (e : AzureError)

/-- How `handleUpdate` returns with a nil error. -/
inductive HandleUpdateResult where
  /-- a backend of weight 0: its endpoints are deleted -/
  | cleanedUp (store : EndpointStore)
  /-- no exports yet, or an export not found: the backend is left Unknown -/
  | skipped
  /-- the endpoints are updated: the accepted ones, the errors of the bad ones, the invalid
  services, and the profile's endpoints afterwards -/
  | updated (accepted : List TrafficManagerEndpointStatus) (bad : List AzureError)
      (invalid : AList fun _ : List Char => InvalidServiceError) (store : EndpointStore)

/-- `handleUpdate` past the validation of the profiles and the ServiceImport: `backendWeight`
is `backend.Spec.Weight`, `clusters`, `listed` and `statusUpdate` are as for
`validateAndProcessServiceImportForBackend`, and `finalizerUpdate` is the error of the update
that adds the finalizer. -/
def handleUpdate {ε : Type} (client : EndpointsClient) (range : RangeOrder (List Char) DesiredEndpoint)
    (backend : TrafficManagerBackend)
    (backendWeight : Option ℤ) (atmProfile : Profile) (store : EndpointStore)
    (clusters : List (List Char)) (listed : Except ε (List InternalServiceExport))
    (statusUpdate finalizerUpdate : Option ε) : Result (ReconcileError ε) HandleUpdateResult := do
  let weight ← deref backendWeight
  if weight = 0 then do
    let store ← (cleanupEndpoints client backend atmProfile store).mapErr .azure
    pure (.cleanedUp store)
  else do
    let processed ← (validateAndProcessServiceImportForBackend backend backendWeight clusters listed
      statusUpdate).mapErr .api
    match processed with
    | .unknown _ => pure .skipped
    | .processed desired invalid => do
      (fromError finalizerUpdate).mapErr .api
      let (accepted, bad, store) ← (updateTrafficManagerEndpointsAndUpdateStatusIfUnknown client
        range backend atmProfile store desired).mapErr .azure
      pure (.updated accepted bad invalid store)

/-! ## A profile with nil properties -/

section NilProperties

variable {ε : Type} {client : EndpointsClient} {range : RangeOrder (List Char) DesiredEndpoint}
  {backend : TrafficManagerBackend} {atmProfile : Profile} {store : EndpointStore}

lemma cleanupEndpoints_of_properties_none (h : atmProfile.properties = none) :
    cleanupEndpoints client backend atmProfile store = ok store := by
  simp [cleanupEndpoints, h]

lemma updateTrafficManagerEndpoints_of_properties_none (h : atmProfile.properties = none)
    (desired : AList fun _ : List Char => DesiredEndpoint) :
    updateTrafficManagerEndpointsAndUpdateStatusIfUnknown client range backend atmProfile store
      desired = panic := by
  simp [updateTrafficManagerEndpointsAndUpdateStatusIfUnknown, h]

/-- **The two paths disagree on nil properties.**  On an Azure profile with nil `Properties`,
`cleanupEndpoints` returns and leaves the endpoints alone, and so does `handleUpdate` for a
backend of weight 0; for any other weight, once the ServiceImport has been processed and the
finalizer is added, `handleUpdate` panics. -/
theorem handleUpdate_panics_of_nil_properties (w : ℤ) (clusters : List (List Char))
    (listed : Except ε (List InternalServiceExport)) (statusUpdate : Option ε)
    (desired : AList fun _ : List Char => DesiredEndpoint)
    (invalid : AList fun _ : List Char => InvalidServiceError)
    (hprops : atmProfile.properties = none) (hw : w ≠ 0)
    (hprocessed : validateAndProcessServiceImportForBackend backend (some w) clusters listed
      statusUpdate = ok (.processed desired invalid)) :
    cleanupEndpoints client backend atmProfile store = ok store ∧
      handleUpdate client range backend (some 0) atmProfile store clusters listed statusUpdate
        none = ok (.cleanedUp store) ∧
      handleUpdate client range backend (some w) atmProfile store clusters listed statusUpdate
        none = panic := by
  have hclean : cleanupEndpoints client backend atmProfile store = ok store :=
    cleanupEndpoints_of_properties_none hprops
  refine ⟨hclean, by simp [handleUpdate, hclean], ?_⟩
  simp [handleUpdate, hw, hprocessed, updateTrafficManagerEndpoints_of_properties_none hprops]

/-- An Azure client under which every call succeeds and returns what it was sent. -/
def acceptingClient : EndpointsClient := ⟨fun _ => none, fun _ => none, id⟩

/-- A profile that Azure returned without `Properties`. -/
def bareProfile : Profile := ⟨some "fleet-profile".toList, none⟩

/-- One cluster exporting a LoadBalancer Service of weight 1. -/
def oneLoadBalancer : List InternalServiceExport :=
  [⟨⟨"member-1".toList, some "ip-1".toList, none⟩, .LoadBalancer, false, true⟩]

/-- A backend of weight 1 over one LoadBalancer export panics on a profile without
`Properties`, where weight 0 deletes nothing and returns. -/
theorem handleUpdate_panics_of_nil_properties_run :
    cleanupEndpoints acceptingClient ⟨"u".toList, "b".toList⟩ bareProfile [] = ok [] ∧
      handleUpdate (ε := Unit) acceptingClient .byKeys ⟨"u".toList, "b".toList⟩ (some 0)
        bareProfile [] ["member-1".toList] (.ok oneLoadBalancer) none none = ok (.cleanedUp []) ∧
      handleUpdate (ε := Unit) acceptingClient .byKeys ⟨"u".toList, "b".toList⟩ (some 1)
        bareProfile [] ["member-1".toList] (.ok oneLoadBalancer) none none = panic :=
  handleUpdate_panics_of_nil_properties 1 _ _ _ _ _ rfl (by decide) rfl

end NilProperties

end FleetNet.BackendController
