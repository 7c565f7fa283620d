import FleetNetworking.TrafficManager.HandleUpdate
import FleetNetworking.Lib.ObjectStore

/-!
# Azure resources and finalizers

The TrafficManagerProfile controller owns one Azure Traffic Manager profile for each
TrafficManagerProfile object. It is named `fleet-<UID>` (`GenerateAzureTrafficManagerProfileName`).
The TrafficManagerBackend controller owns the endpoints named `fleet-<UID>#…` of each backend.
They lie inside the Azure profile of the backend's TrafficManagerProfile. Each controller keeps
its object from going away while its Azure resources may remain. It adds its finalizer just
before its first Azure write, and it takes the finalizer off only once the deletes have
succeeded or have found nothing to delete.

The model runs both controllers as steps over one state:
- the two object stores of the hub;
- the Azure profiles by name, each with its endpoints;
- one reconcile in flight for each object;
- the UIDs given out so far.

A reconcile is a sequence of program points. Each point makes one call of the source: a read
or a write of the API server, or an Azure call. Any interleaving of the two controllers and the
users is then a run. What the world answers is an input of the step: whether a call succeeds,
what the ServiceImport and its exports are, and how Azure answers the endpoint calls. Users
create objects under fresh UIDs, update them and delete them. They never edit finalizers,
`spec.profile` or `spec.backend`.

**Ownership.** `Inv` carries the finalizer discipline of the profile controller. A copy read
with the finalizer still has it in the store (`kept`). The Azure delete comes before the
finalizer is removed (`deleted`). The finalizer is there before the create (`creating`).

**What it gives.** `azure_resources_owned` reads this off `Inv`. Every Azure profile `fleet-<U>`
has a TrafficManagerProfile of UID `U` that carries the finalizer, and every endpoint lies in
such a profile. Once no object of UID `U` is left, no Azure profile `fleet-<U>` is left, and none
of the endpoints that were in it.
-/

namespace FleetNet.Finalizers

open ObjectStore Go BackendController

/-! ## Objects and Azure resources -/

/-- `GenerateAzureTrafficManagerProfileName`: `fleet-<UID>`. -/
def GenerateAzureTrafficManagerProfileName (uid : List Char) : List Char := "fleet-".toList ++ uid

lemma generateAzureTrafficManagerProfileName_injective :
    Function.Injective GenerateAzureTrafficManagerProfileName :=
  fun _ _ h => List.append_cancel_left h

/-- The Azure Traffic Manager profiles of the resource group by name, with their endpoints.  The
endpoints live inside their profile: a profile deleted takes them with it. -/
abbrev AzureProfiles := AList fun _ : List Char => EndpointStore

/-- What `ProfilesClient.Get` returns of a profile: its name and its endpoints. -/
def atmProfileOf (name : List Char) (endpoints : EndpointStore) : Profile :=
  ⟨some name, some ⟨endpoints.map some⟩⟩

/-- A `TrafficManagerProfile` as the two controllers read it: its UID, whether it is being
deleted, and its two finalizers, `MetricsFinalizer` and `TrafficManagerProfileFinalizer`. -/
structure ProfileObject where
  uid : List Char
  deleting : Bool
  metricsFinalizer : Bool
  profileFinalizer : Bool
  deriving DecidableEq, Repr

/-- A `TrafficManagerBackend`: its UID with `Spec.Backend.Name`, `Spec.Profile.Name`,
`Spec.Weight`, whether it is being deleted, and its two finalizers, `MetricsFinalizer` and
`TrafficManagerBackendFinalizer`. -/
structure BackendObject (PN : Type) where
  backend : TrafficManagerBackend
  profile : PN
  weight : Option ℤ
  deleting : Bool
  metricsFinalizer : Bool
  backendFinalizer : Bool
  deriving DecidableEq, Repr

/-- The API server removes a profile being deleted once it carries no finalizer. -/
def ProfileObject.released (p : ProfileObject) : Bool :=
  p.deleting && !p.metricsFinalizer && !p.profileFinalizer

/-- The API server removes a backend being deleted once it carries no finalizer. -/
def BackendObject.released {PN : Type} (b : BackendObject PN) : Bool :=
  b.deleting && !b.metricsFinalizer && !b.backendFinalizer

/-! ## The TrafficManagerProfile controller -/

/-- Where a reconcile of a TrafficManagerProfile stands, with the copy of the object it read. -/
inductive ProfileReconcile where
  /-- no reconcile is running -/
  | idle
  /-- `handleDelete`: `ProfilesClient.Delete` -/
  | deleteAzureProfile (profile : Versioned ProfileObject)
  /-- `handleDelete`: the update that takes the finalizers off -/
  | removeFinalizers (profile : Versioned ProfileObject)
  /-- `handleUpdate`: `ProfilesClient.Get` -/
  | getAzureProfile (profile : Versioned ProfileObject)
  /-- `handleUpdate`: the finalizer, added before the create; `request` holds the endpoints of the
  request `buildAzureTrafficManagerProfileRequest` made -/
  | addFinalizer (profile : Versioned ProfileObject) (request : EndpointStore)
  /-- `handleUpdate`: `ProfilesClient.CreateOrUpdate` -/
  | createOrUpdate (profile : Versioned ProfileObject) (request : EndpointStore)
  deriving DecidableEq

/-- The copy of the object a reconcile holds. -/
def ProfileReconcile.copy : ProfileReconcile → Option (Versioned ProfileObject)
  | .idle => none
  | .deleteAzureProfile p => some p
  | .removeFinalizers p => some p
  | .getAzureProfile p => some p
  | .addFinalizer p _ => some p
  | .createOrUpdate p _ => some p

/-! ## The TrafficManagerBackend controller -/

/-- Where a reconcile of a TrafficManagerBackend stands, with the copy of the object it read and
what it has learnt of the profile. -/
inductive BackendReconcile (PN : Type) where
  /-- no reconcile is running -/
  | idle
  /-- `deleteAzureTrafficManagerEndpoints`: the Get of the TrafficManagerProfile -/
  | getProfileForDelete (backend : Versioned (BackendObject PN))
  /-- `deleteAzureTrafficManagerEndpoints`: `ProfilesClient.Get` -/
  | getAzureProfileForDelete (backend : Versioned (BackendObject PN)) (atmProfileName : List Char)
  /-- `cleanupEndpoints` over the Azure profile read; `deleting` is whether `handleDelete` runs
  it, which then takes the finalizers off -/
  | cleanupEndpoints (backend : Versioned (BackendObject PN)) (atmProfileName : List Char)
      (atmProfile : Profile) (deleting : Bool)
  /-- `handleDelete`: the update that takes the finalizers off -/
  | removeFinalizers (backend : Versioned (BackendObject PN))
  /-- `validateTrafficManagerProfile` -/
  | getProfile (backend : Versioned (BackendObject PN))
  /-- `validateAzureTrafficManagerProfile` and what `handleUpdate` decides on it -/
  | getAzureProfile (backend : Versioned (BackendObject PN)) (atmProfileName : List Char)
  /-- the finalizer, added before the endpoints are written -/
  | addFinalizer (backend : Versioned (BackendObject PN)) (atmProfileName : List Char)
      (atmProfile : Profile) (desired : AList fun _ : List Char => DesiredEndpoint)
  /-- `updateTrafficManagerEndpointsAndUpdateStatusIfUnknown` -/
  | updateEndpoints (backend : Versioned (BackendObject PN)) (atmProfileName : List Char)
      (atmProfile : Profile) (desired : AList fun _ : List Char => DesiredEndpoint)

/-- How the world answers one step of the backend controller:
- `ok`: whether the read of the step succeeds, with the profile `Programmed`;
- `serviceImport`: the ServiceImport's `Status.Clusters`, or `none` when it is not found;
- `listed`: the answer of the List call for its InternalServiceExports;
- `statusUpdate`: the error of the backend's status update;
- `client`: how Azure answers the endpoint calls;
- `range`: the order in which the update visits the desired endpoints;
- `leftover`: the endpoints a pass that fails leaves in the profile. -/
structure BackendAnswers where
  ok : Bool
  serviceImport : Option (List (List Char))
  listed : Except Unit (List InternalServiceExport)
  statusUpdate : Option Unit
  client : EndpointsClient
  range : RangeOrder (List Char) DesiredEndpoint
  leftover : EndpointStore

/-- What one step of the backend controller does: where its reconcile goes next, the backends
after its writes, and the endpoints it leaves in an Azure profile. -/
structure BackendTurn (PN BN : Type) where
  next : BackendReconcile PN
  backends : VStore BN (BackendObject PN)
  endpoints : Option (List Char × EndpointStore)

/-! ## The system -/

/-- The hub's TrafficManagerProfiles and TrafficManagerBackends, the Azure profiles, the reconcile
in flight for each object, and the UIDs given out so far. -/
structure TMState (PN BN : Type) where
  profiles : VStore PN ProfileObject
  backends : VStore BN (BackendObject PN)
  azure : AzureProfiles
  profileReconciles : PN → ProfileReconcile
  backendReconciles : BN → BackendReconcile PN
  uids : List (List Char)

variable {PN BN : Type} [DecidableEq PN] [DecidableEq BN]

/-- The state with the reconcile of `pn` moved to `pc`. -/
def TMState.setProfileReconcile (s : TMState PN BN) (pn : PN) (pc : ProfileReconcile) :
    TMState PN BN :=
  { s with profileReconciles := Function.update s.profileReconciles pn pc }

/-- One step of the reconcile of the TrafficManagerProfile `pn`.  `ok` is whether the Azure call
of the step succeeds, a `NotFound` of the delete counting as success; `differs` is whether
`equalAzureTrafficManagerProfile` finds the Azure profile read unlike the desired one. -/
def profileStep (pn : PN) (ok differs : Bool) (s : TMState PN BN) : TMState PN BN :=
  match s.profileReconciles pn with
  | .idle =>
    match s.profiles.get pn with
    | none => s
    | some p =>
      if p.val.deleting then
        if p.val.profileFinalizer then s.setProfileReconcile pn (.deleteAzureProfile p)
        else if p.val.metricsFinalizer then s.setProfileReconcile pn (.removeFinalizers p)
        else s
      else if p.val.metricsFinalizer then s.setProfileReconcile pn (.getAzureProfile p)
      else
        -- `Reconcile` adds the metrics finalizer by an update of the copy it has just read
        let p' : ProfileObject := { p.val with metricsFinalizer := true }
        { s.setProfileReconcile pn (.getAzureProfile ⟨s.profiles.clock + 1, p'⟩) with
          profiles := s.profiles.put pn p' }
  | .deleteAzureProfile p =>
    if ok then
      { s.setProfileReconcile pn (.removeFinalizers p) with
        azure := s.azure.erase (GenerateAzureTrafficManagerProfileName p.val.uid) }
    else s.setProfileReconcile pn .idle
  | .removeFinalizers p =>
    match s.profiles.updateReleasing? ProfileObject.released pn p.rv
        { p.val with metricsFinalizer := false, profileFinalizer := false } with
    | some profiles => { s.setProfileReconcile pn .idle with profiles := profiles }
    | none => s.setProfileReconcile pn .idle
  | .getAzureProfile p =>
    if ok then
      match s.azure.lookup (GenerateAzureTrafficManagerProfileName p.val.uid) with
      | none => s.setProfileReconcile pn (.addFinalizer p [])
      | some endpoints =>
        -- `buildAzureTrafficManagerProfileRequest` keeps the endpoints of the profile read
        if differs then s.setProfileReconcile pn (.addFinalizer p endpoints)
        else s.setProfileReconcile pn .idle
    else s.setProfileReconcile pn .idle
  | .addFinalizer p request =>
    if p.val.profileFinalizer then s.setProfileReconcile pn (.createOrUpdate p request)
    else
      let p' : ProfileObject := { p.val with profileFinalizer := true }
      match s.profiles.update? pn p.rv p' with
      | some profiles =>
        { s.setProfileReconcile pn (.createOrUpdate ⟨s.profiles.clock + 1, p'⟩ request) with
          profiles := profiles }
      | none => s.setProfileReconcile pn .idle
  | .createOrUpdate p request =>
    if ok then
      { s.setProfileReconcile pn .idle with
        azure := s.azure.insert (GenerateAzureTrafficManagerProfileName p.val.uid) request }
    else s.setProfileReconcile pn .idle

/-- One step of the reconcile of the TrafficManagerBackend `bn`, under the answers `a`. -/
def backendStep (bn : BN) (a : BackendAnswers) (s : TMState PN BN) : BackendTurn PN BN :=
  match s.backendReconciles bn with
  | .idle =>
    match s.backends.get bn with
    | none => ⟨.idle, s.backends, none⟩
    | some b =>
      if b.val.deleting then
        if b.val.backendFinalizer then ⟨.getProfileForDelete b, s.backends, none⟩
        else if b.val.metricsFinalizer then ⟨.removeFinalizers b, s.backends, none⟩
        else ⟨.idle, s.backends, none⟩
      else if b.val.metricsFinalizer then ⟨.getProfile b, s.backends, none⟩
      else
        let b' : BackendObject PN := { b.val with metricsFinalizer := true }
        ⟨.getProfile ⟨s.backends.clock + 1, b'⟩, s.backends.put bn b', none⟩
  | .getProfileForDelete b =>
    if a.ok then
      match s.profiles.get b.val.profile with
      -- no TrafficManagerProfile: its Azure resources are taken as gone
      | none => ⟨.removeFinalizers b, s.backends, none⟩
      | some p =>
        ⟨.getAzureProfileForDelete b (GenerateAzureTrafficManagerProfileName p.val.uid),
          s.backends, none⟩
    else ⟨.idle, s.backends, none⟩
  | .getAzureProfileForDelete b n =>
    if a.ok then
      match s.azure.lookup n with
      | none => ⟨.removeFinalizers b, s.backends, none⟩
      | some endpoints => ⟨.cleanupEndpoints b n (atmProfileOf n endpoints) true, s.backends, none⟩
    else ⟨.idle, s.backends, none⟩
  | .cleanupEndpoints b n atmProfile deleting =>
    let next : BackendReconcile PN := if deleting then .removeFinalizers b else .idle
    match s.azure.lookup n with
    -- in a profile that is gone every delete is `NotFound`
    | none => ⟨next, s.backends, none⟩
    | some store =>
      match cleanupEndpoints a.client b.val.backend atmProfile store with
      | .ok store' => ⟨next, s.backends, some (n, store')⟩
      | _ => ⟨.idle, s.backends, some (n, a.leftover)⟩
  | .removeFinalizers b =>
    let b' : BackendObject PN := { b.val with metricsFinalizer := false, backendFinalizer := false }
    ⟨.idle, (s.backends.updateReleasing? BackendObject.released bn b.rv b').getD s.backends, none⟩
  | .getProfile b =>
    if a.ok then
      match s.profiles.get b.val.profile with
      | none => ⟨.idle, s.backends, none⟩
      | some p =>
        ⟨.getAzureProfile b (GenerateAzureTrafficManagerProfileName p.val.uid), s.backends, none⟩
    else ⟨.idle, s.backends, none⟩
  | .getAzureProfile b n =>
    if a.ok then
      match s.azure.lookup n with
      | none => ⟨.idle, s.backends, none⟩
      | some endpoints =>
        let atmProfile := atmProfileOf n endpoints
        -- `SetDefaultsTrafficManagerBackend`
        let weight := b.val.weight.getD 1
        match a.serviceImport with
        -- `validateServiceImportAndCleanupEndpointsIfInvalid`
        | none => ⟨.cleanupEndpoints b n atmProfile false, s.backends, none⟩
        | some clusters =>
          if weight = 0 then ⟨.cleanupEndpoints b n atmProfile false, s.backends, none⟩
          else
            match validateAndProcessServiceImportForBackend b.val.backend (some weight) clusters
                a.listed a.statusUpdate with
            | .ok (.processed desired _) => ⟨.addFinalizer b n atmProfile desired, s.backends, none⟩
            | _ => ⟨.idle, s.backends, none⟩
    else ⟨.idle, s.backends, none⟩
  | .addFinalizer b n atmProfile desired =>
    if b.val.backendFinalizer then ⟨.updateEndpoints b n atmProfile desired, s.backends, none⟩
    else
      let b' : BackendObject PN := { b.val with backendFinalizer := true }
      match s.backends.update? bn b.rv b' with
      | some backends =>
        ⟨.updateEndpoints ⟨s.backends.clock + 1, b'⟩ n atmProfile desired, backends, none⟩
      | none => ⟨.idle, s.backends, none⟩
  | .updateEndpoints b n atmProfile desired =>
    match s.azure.lookup n with
    -- in a profile that is gone every create fails
    | none => ⟨.idle, s.backends, none⟩
    | some store =>
      match updateTrafficManagerEndpointsAndUpdateStatusIfUnknown a.client a.range b.val.backend
          atmProfile store desired with
      | .ok result => ⟨.idle, s.backends, some (n, result.2.2)⟩
      | _ => ⟨.idle, s.backends, some (n, a.leftover)⟩

/-- The state after a step of the backend controller at `bn`.  The endpoints go into their
Azure profile, which is there: an endpoint call cannot create a profile. -/
def TMState.afterBackend (s : TMState PN BN) (bn : BN) (t : BackendTurn PN BN) : TMState PN BN :=
  { s with
    backendReconciles := Function.update s.backendReconciles bn t.next
    backends := t.backends
    azure := t.endpoints.elim s.azure fun w => s.azure.replace w.1 w.2 }

/-- `Delete` of a TrafficManagerProfile: one with a finalizer is marked, one without is removed. -/
def deleteProfile (profiles : VStore PN ProfileObject) (pn : PN) (p : ProfileObject) :
    VStore PN ProfileObject :=
  if p.metricsFinalizer || p.profileFinalizer then profiles.put pn { p with deleting := true }
  else profiles.erase pn

/-- `Delete` of a TrafficManagerBackend. -/
def deleteBackend (backends : VStore BN (BackendObject PN)) (bn : BN) (b : BackendObject PN) :
    VStore BN (BackendObject PN) :=
  if b.metricsFinalizer || b.backendFinalizer then backends.put bn { b with deleting := true }
  else backends.erase bn

/-- What users do: create an object under a fresh UID, change its spec (a new version of it), or
delete it. -/
inductive UserStep : TMState PN BN → TMState PN BN → Prop
  | createProfile (s : TMState PN BN) (pn : PN) (uid : List Char)
      (h : s.profiles.get pn = none) (hfresh : uid ∉ s.uids) :
      UserStep s { s with
        profiles := s.profiles.put pn ⟨uid, false, false, false⟩
        uids := uid :: s.uids }
  | updateProfile (s : TMState PN BN) (pn : PN) (p : Versioned ProfileObject)
      (h : s.profiles.get pn = some p) :
      UserStep s { s with profiles := s.profiles.put pn p.val }
  | deleteProfile (s : TMState PN BN) (pn : PN) (p : Versioned ProfileObject)
      (h : s.profiles.get pn = some p) :
      UserStep s { s with profiles := deleteProfile s.profiles pn p.val }
  | createBackend (s : TMState PN BN) (bn : BN) (backend : TrafficManagerBackend) (profile : PN)
      (weight : Option ℤ) (h : s.backends.get bn = none) (hfresh : backend.uid ∉ s.uids) :
      UserStep s { s with
        backends := s.backends.put bn ⟨backend, profile, weight, false, false, false⟩
        uids := backend.uid :: s.uids }
  /-- `spec.profile` and `spec.backend` are immutable: only the weight changes -/
  | updateBackend (s : TMState PN BN) (bn : BN) (b : Versioned (BackendObject PN))
      (weight : Option ℤ) (h : s.backends.get bn = some b) :
      UserStep s { s with backends := s.backends.put bn { b.val with weight := weight } }
  | deleteBackend (s : TMState PN BN) (bn : BN) (b : Versioned (BackendObject PN))
      (h : s.backends.get bn = some b) :
      UserStep s { s with backends := deleteBackend s.backends bn b.val }

/-- The steps of the system: a step of either controller for one object, or of a user. -/
inductive Step : TMState PN BN → TMState PN BN → Prop
  | profile (s : TMState PN BN) (pn : PN) (ok differs : Bool) :
      Step s (profileStep pn ok differs s)
  | backend (s : TMState PN BN) (bn : BN) (a : BackendAnswers) :
      Step s (s.afterBackend bn (backendStep bn a s))
  | user {s t : TMState PN BN} (h : UserStep s t) : Step s t

/-- No object, no Azure profile, no reconcile running. -/
def TMState.Init (s : TMState PN BN) : Prop :=
  s = ⟨.empty, .empty, ∅, fun _ => .idle, fun _ => .idle, []⟩

/-- The states the system reaches. -/
abbrev TMState.Reachable (s : TMState PN BN) : Prop := ObjectStore.Reachable TMState.Init Step s

end FleetNet.Finalizers
