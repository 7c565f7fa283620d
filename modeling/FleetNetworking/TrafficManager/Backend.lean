import FleetNetworking.Lib.GoResult
import FleetNetworking.Lib.KeyedList
import FleetNetworking.Lib.GoMap

/-!
# Traffic Manager endpoints of a backend

The TrafficManagerBackend controller publishes the exported Services behind a backend as the
endpoints of an Azure Traffic Manager profile.  Each endpoint it creates is named
`fleet-<backend UID>#<backend name>#<cluster ID>`; the prefix `fleet-<backend UID>#` marks it
as the backend's own (`isEndpointOwnedByBackend`).  Endpoint names are case-insensitive in
Azure.

`updateTrafficManagerEndpointsAndUpdateStatusIfUnknown` brings the profile's endpoints to the
desired ones: one pass over the endpoints the profile listed deletes the backend's endpoints
that are no longer desired and accepts the ones that already match, and a second pass over the
desired endpoints left creates or updates them, setting aside the ones Azure rejects as bad
requests.

Azure is modelled as a store of endpoints keyed by lowercased name (`KeyedList`) and an
`EndpointsClient` that decides which calls fail.  Go values become `Go.Result`, so that a nil
pointer dereference is a panic of the model.  The desired endpoints are a Go map, an `AList`
here; the second pass visits it in the order of a `RangeOrder`, and the results below hold for
every order.  The logging, events and the status update on the error paths are left out: an error
path returns the Azure error.
-/

namespace FleetNet

open Go Result

/-! ## Strings -/

/-- `strings.ToLower`, on ASCII. -/
def toLower (s : List Char) : List Char := s.map Char.toLower

/-- `strings.EqualFold`, on ASCII. -/
def equalFold (s t : List Char) : Bool := toLower s == toLower t

/-! ## Azure objects -/

/-- `armtrafficmanager.EndpointStatus`. -/
inductive EndpointStatus where
  | Enabled
  | Disabled
  deriving DecidableEq, Repr

/-- `armtrafficmanager.EndpointProperties`, the fields the controller reads and writes. -/
structure EndpointProperties where
  targetResourceID : Option (List Char)
  endpointStatus : Option EndpointStatus
  weight : Option ℤ
  target : Option (List Char)
  deriving DecidableEq, Repr

/-- `armtrafficmanager.Endpoint`. -/
structure Endpoint where
  name : Option (List Char)
  type : Option (List Char)
  id : Option (List Char)
  properties : Option EndpointProperties
  deriving DecidableEq, Repr

/-- `armtrafficmanager.ProfileProperties`, its endpoint list. -/
structure ProfileProperties where
  endpoints : List (Option Endpoint)
  deriving DecidableEq, Repr

/-- `armtrafficmanager.Profile`. -/
structure Profile where
  name : Option (List Char)
  properties : Option ProfileProperties
  deriving DecidableEq, Repr

/-- An error of the Azure SDK: a response with its HTTP status code (`azcore.ResponseError`),
or a failure to get one. -/
inductive AzureError where
  | response (statusCode : ℕ)
  | transport
  deriving DecidableEq, Repr

/-- `azureerrors.IsNotFound`. -/
def AzureError.IsNotFound : AzureError → Bool
  | response statusCode => statusCode == 404
  | transport => false

/-- `azureerrors.IsClientError`: a status code in `[400, 500)`. -/
def AzureError.IsClientError : AzureError → Bool
  | response statusCode => decide (400 ≤ statusCode ∧ statusCode < 500)
  | transport => false

/-- `azureerrors.IsThrottled`. -/
def AzureError.IsThrottled : AzureError → Bool
  | response statusCode => statusCode == 429
  | transport => false

/-! ## The Azure endpoints API -/

/-- The key of an endpoint in Azure: its name, lowercased. -/
def endpointKey (e : Endpoint) : Option (List Char) := e.name.map toLower

/-- The endpoints of one Traffic Manager profile in Azure. -/
abbrev EndpointStore := List Endpoint

/-- How Azure answers the endpoint calls of one reconcile: which calls fail and with what, and
what a successful `CreateOrUpdate` returns. -/
structure EndpointsClient where
  deleteError : List Char → Option AzureError
  createOrUpdateError : List Char → Option AzureError
  returned : Endpoint → Endpoint

/-- `EndpointsClient.Delete`: remove the endpoint of that name, case-insensitively; a name
that is not there is `NotFound`. -/
def EndpointsClient.Delete (client : EndpointsClient) (store : EndpointStore)
    (endpointName : List Char) : Except AzureError EndpointStore :=
  match client.deleteError endpointName with
  | some e => .error e
  | none =>
    if store.any (fun e => endpointKey e == some (toLower endpointName)) then
      .ok (KeyedList.eraseKey endpointKey (toLower endpointName) store)
    else .error (.response 404)

/-- `EndpointsClient.CreateOrUpdate`: put the endpoint under that name, case-insensitively, and
return Azure's view of it. -/
def EndpointsClient.CreateOrUpdate (client : EndpointsClient) (store : EndpointStore)
    (endpointName : List Char) (endpoint : Endpoint) :
    Except AzureError (EndpointStore × Endpoint) :=
  match client.createOrUpdateError endpointName with
  | some e => .error e
  | none => .ok (KeyedList.upsertKey endpointKey (toLower endpointName) endpoint store,
      client.returned endpoint)

/-! ## Backends and their endpoints -/

/-- A `TrafficManagerBackend`: its UID and `Spec.Backend.Name`, the exported Service. -/
structure TrafficManagerBackend where
  uid : List Char
  backendName : List Char
  deriving DecidableEq, Repr

/-- The Spec of an `InternalServiceExport`, the fields an endpoint is made from. -/
structure InternalServiceExportSpec where
  clusterID : List Char
  publicIPResourceID : Option (List Char)
  weight : Option ℤ
  deriving DecidableEq, Repr

/-- `fleetnetv1beta1.FromCluster`. -/
structure FromCluster where
  cluster : List Char
  weight : Option ℤ
  deriving DecidableEq, Repr

/-- `desiredEndpoint`. -/
structure DesiredEndpoint where
  endpoint : Endpoint
  fromCluster : FromCluster
  deriving DecidableEq, Repr

/-- `fleetnetv1beta1.TrafficManagerEndpointStatus`; `fromCluster` is its `From`. -/
structure TrafficManagerEndpointStatus where
  name : List Char
  target : Option (List Char)
  weight : Option ℤ
  fromCluster : FromCluster
  resourceID : List Char
  deriving DecidableEq, Repr

/-- `generateAzureTrafficManagerEndpointNamePrefixFunc`: `fleet-<UID>#`. -/
def generateAzureTrafficManagerEndpointNamePrefix (backend : TrafficManagerBackend) : List Char :=
  "fleet-".toList ++ backend.uid ++ ['#']

/-- `isEndpointOwnedByBackend`. -/
def isEndpointOwnedByBackend (backend : TrafficManagerBackend) (endpoint : List Char) : Bool :=
  (generateAzureTrafficManagerEndpointNamePrefix backend).isPrefixOf endpoint

/-- `"Microsoft.Network/trafficManagerProfiles/" + armtrafficmanager.EndpointTypeAzureEndpoints`. -/
def azureEndpointsType : List Char := "Microsoft.Network/trafficManagerProfiles/AzureEndpoints".toList

/-- `generateAzureTrafficManagerEndpoint`: the endpoint named
`fleet-<UID>#<backend name>#<cluster ID>`, of the export's weight (1 when unset). -/
def generateAzureTrafficManagerEndpoint (backend : TrafficManagerBackend)
    (serviceExport : InternalServiceExportSpec) : Endpoint :=
  let endpointName := generateAzureTrafficManagerEndpointNamePrefix backend ++ backend.backendName ++
    '#' :: serviceExport.clusterID
  let weight := match serviceExport.weight with
    | some w => some w
    | none => some 1
  { name := some endpointName
    type := some azureEndpointsType
    id := none
    properties := some
      { targetResourceID := serviceExport.publicIPResourceID
        endpointStatus := some .Enabled
        weight := weight
        target := none } }

/-- `dp.Endpoint.Properties.Weight = ptr.To(int64(desiredWeight))` of
`validateAndProcessServiceImportForBackend`: a desired endpoint takes its share of the backend's
weight. -/
def Endpoint.setWeight (e : Endpoint) (w : ℤ) : Endpoint :=
  { e with properties := e.properties.map fun p => { p with weight := some w } }

/-- `buildAcceptedEndpointStatus`.  A missing ID is logged, which reads the endpoint's name. -/
def buildAcceptedEndpointStatus (endpoint : Endpoint) (desiredEndpoint : DesiredEndpoint) :
    Result AzureError TrafficManagerEndpointStatus := do
  let resourceID ← match endpoint.id with
    | none => do
      let _ ← deref endpoint.name
      pure []
    | some id => pure id
  let name ← deref endpoint.name
  let properties ← deref endpoint.properties
  pure
    { name := toLower name
      target := properties.target
      weight := properties.weight
      fromCluster := desiredEndpoint.fromCluster
      resourceID := resourceID }

/-- `equalAzureTrafficManagerEndpoint`: type, target resource, weight and status agree.  The
fields of `current` are checked for nil; those of `desired` are dereferenced as they are
reached. -/
def equalAzureTrafficManagerEndpoint (current desired : Endpoint) : Result AzureError Bool :=
  match current.type with
  | none => pure false
  | some currentType => do
    let desiredType ← deref desired.type
    if !equalFold currentType desiredType then pure false
    else
      match current.properties with
      | none => pure false
      | some currentProperties =>
        match currentProperties.targetResourceID, currentProperties.weight,
          currentProperties.endpointStatus with
        | some currentTarget, some currentWeight, some currentStatus => do
          let desiredProperties ← deref desired.properties
          let desiredTarget ← deref desiredProperties.targetResourceID
          if !equalFold currentTarget desiredTarget then pure false
          else do
            let desiredWeight ← deref desiredProperties.weight
            if currentWeight ≠ desiredWeight then pure false
            else do
              let desiredStatus ← deref desiredProperties.endpointStatus
              pure (currentStatus == desiredStatus)
        | _, _, _ => pure false

/-! ## The update -/

/-- The state of the pass over the profile's endpoints. -/
structure ExistingPass where
  store : EndpointStore
  desiredEndpoints : AList (fun _ : List Char => DesiredEndpoint)
  acceptedEndpoints : List TrafficManagerEndpointStatus

/-- One iteration over the profile's endpoints: skip an unnamed endpoint or one of another
backend, delete one that is no longer desired (`NotFound` is fine), and accept one that already
equals its desired endpoint, which is then taken out of the desired map. -/
def reconcileExistingEndpoint (client : EndpointsClient) (backend : TrafficManagerBackend)
    (profile : Profile) (s : ExistingPass) (endpointPtr : Option Endpoint) :
    Result AzureError ExistingPass := do
  let endpoint ← deref endpointPtr
  match endpoint.name with
  | none => pure s
  | some name =>
    let endpointName := toLower name
    if !isEndpointOwnedByBackend backend endpointName then pure s
    else
      match s.desiredEndpoints.lookup endpointName with
      | none => do
        -- the call reads `*profile.Name` and deletes by the name as Azure spells it
        let _ ← deref profile.name
        match client.Delete s.store name with
        | .ok store => pure { s with store := store }
        | .error deleteErr => if deleteErr.IsNotFound then pure s else err deleteErr
      | some desired => do
        let equal ← equalAzureTrafficManagerEndpoint endpoint desired.endpoint
        if equal then do
          let status ← buildAcceptedEndpointStatus endpoint desired
          pure { s with
            desiredEndpoints := s.desiredEndpoints.erase endpointName
            acceptedEndpoints := s.acceptedEndpoints ++ [status] }
        else pure s

/-- The state of the pass over the desired endpoints left. -/
structure DesiredPass where
  store : EndpointStore
  badEndpointsError : List AzureError
  acceptedEndpoints : List TrafficManagerEndpointStatus

/-- One iteration over the desired endpoints left: create or update it; a client error other
than throttling is set aside as a bad endpoint, any other error ends the update. -/
def createOrUpdateDesiredEndpoint (client : EndpointsClient) (profile : Profile) (s : DesiredPass)
    (entry : Σ _ : List Char, DesiredEndpoint) : Result AzureError DesiredPass := do
  let endpoint := entry.2
  let endpointName ← deref endpoint.endpoint.name
  let _ ← deref profile.name
  match client.CreateOrUpdate s.store endpointName endpoint.endpoint with
  | .ok (store, res) => do
    let status ← buildAcceptedEndpointStatus res endpoint
    pure { s with store := store, acceptedEndpoints := s.acceptedEndpoints ++ [status] }
  | .error updateErr =>
    match updateErr with
    | .transport => err updateErr
    | .response _ =>
      if updateErr.IsClientError && !updateErr.IsThrottled then
        pure { s with badEndpointsError := s.badEndpointsError ++ [updateErr] }
      else err updateErr

/-- `updateTrafficManagerEndpointsAndUpdateStatusIfUnknown`: the accepted endpoint statuses, the
errors of the bad endpoints, and the profile's endpoints in Azure afterwards. -/
def updateTrafficManagerEndpointsAndUpdateStatusIfUnknown (client : EndpointsClient)
    (range : RangeOrder (List Char) DesiredEndpoint)
    (backend : TrafficManagerBackend) (profile : Profile) (store : EndpointStore)
    (desiredEndpoints : AList (fun _ : List Char => DesiredEndpoint)) :
    Result AzureError (List TrafficManagerEndpointStatus × List AzureError × EndpointStore) := do
  let properties ← deref profile.properties
  let existing ← properties.endpoints.foldlM (reconcileExistingEndpoint client backend profile)
    ⟨store, desiredEndpoints, []⟩
  let remaining ← (range.sigmaEntries existing.desiredEndpoints).foldlM
    (createOrUpdateDesiredEndpoint client profile) ⟨existing.store, [], existing.acceptedEndpoints⟩
  pure (remaining.acceptedEndpoints, remaining.badEndpointsError, remaining.store)

/-! ## What each call can do -/

section Specs

variable {client : EndpointsClient} {backend : TrafficManagerBackend} {profile : Profile}
  {store store' : EndpointStore} {n : List Char} {ep r : Endpoint} {e : AzureError}
  {d : DesiredEndpoint} {st : TrafficManagerEndpointStatus}

@[simp] lemma equalFold_self (s : List Char) : equalFold s s = true := by
  simp [equalFold]

@[simp] lemma toLower_append (s t : List Char) : toLower (s ++ t) = toLower s ++ toLower t :=
  List.map_append

@[simp] lemma toLower_cons (c : Char) (s : List Char) : toLower (c :: s) = c.toLower :: toLower s :=
  rfl

lemma EndpointsClient.Delete_eq_ok (h : client.Delete store n = .ok store') :
    store' = KeyedList.eraseKey endpointKey (toLower n) store := by
  unfold EndpointsClient.Delete at h
  split at h
  · cases h
  · split_ifs at h
    cases h
    rfl

/-- `Delete` fails with the client's error, or with `NotFound` for a name that is not there. -/
lemma EndpointsClient.Delete_eq_error (h : client.Delete store n = .error e) :
    client.deleteError n = some e ∨
      (e = .response 404 ∧ ∀ x ∈ store, endpointKey x ≠ some (toLower n)) := by
  unfold EndpointsClient.Delete at h
  split at h
  · rename_i e' he'
    cases h
    exact Or.inl he'
  · split_ifs at h with hany
    cases h
    exact Or.inr ⟨rfl, fun x hx hxk => hany (List.any_eq_true.mpr ⟨x, hx, by simp [hxk]⟩)⟩

lemma EndpointsClient.CreateOrUpdate_eq_ok (h : client.CreateOrUpdate store n ep = .ok (store', r)) :
    client.createOrUpdateError n = none ∧
      store' = KeyedList.upsertKey endpointKey (toLower n) ep store ∧ r = client.returned ep := by
  unfold EndpointsClient.CreateOrUpdate at h
  split at h
  · cases h
  · rename_i hnone
    cases h
    exact ⟨hnone, rfl, rfl⟩

lemma EndpointsClient.CreateOrUpdate_eq_error (h : client.CreateOrUpdate store n ep = .error e) :
    client.createOrUpdateError n = some e := by
  unfold EndpointsClient.CreateOrUpdate at h
  split at h
  · rename_i e' he'
    cases h
    exact he'
  · cases h

/-- With a name and properties the status is built: the lowercased name, the target and weight
of the endpoint, and the cluster of the desired endpoint. -/
lemma buildAcceptedEndpointStatus_eq {p : EndpointProperties} (hn : ep.name = some n)
    (hp : ep.properties = some p) :
    buildAcceptedEndpointStatus ep d =
      ok ⟨toLower n, p.target, p.weight, d.fromCluster, ep.id.getD []⟩ := by
  cases hid : ep.id <;> simp [buildAcceptedEndpointStatus, hid, hn, hp]

lemma buildAcceptedEndpointStatus_eq_ok (h : buildAcceptedEndpointStatus ep d = ok st) :
    ∃ n, ep.name = some n ∧ st.name = toLower n ∧ st.fromCluster = d.fromCluster := by
  cases hn : ep.name with
  | none => cases hid : ep.id <;> simp [buildAcceptedEndpointStatus, hid, hn] at h
  | some n =>
    cases hp : ep.properties with
    | none => cases hid : ep.id <;> simp [buildAcceptedEndpointStatus, hid, hn, hp] at h
    | some p =>
      rw [buildAcceptedEndpointStatus_eq hn hp] at h
      cases h
      exact ⟨n, rfl, rfl, rfl⟩

/-- An endpoint with every compared field set equals itself. -/
lemma equalAzureTrafficManagerEndpoint_self {p : EndpointProperties} {t tr : List Char} {w : ℤ}
    {status : EndpointStatus} (ht : ep.type = some t) (hp : ep.properties = some p)
    (htr : p.targetResourceID = some tr) (hw : p.weight = some w)
    (hs : p.endpointStatus = some status) :
    equalAzureTrafficManagerEndpoint ep ep = ok true := by
  simp [equalAzureTrafficManagerEndpoint, ht, hp, htr, hw, hs]

/-- The delete branch of the first pass: with no `NotFound` from the client for a name that is
there, the store loses the endpoint's name, whether or not it was still there. -/
lemma delete_step {s s' : ExistingPass} {name : List Char}
    (hdel : ∀ n e, client.deleteError n = some e → e.IsNotFound = false)
    (h : (do
        let _ ← (deref profile.name : Result AzureError (List Char))
        match client.Delete s.store name with
        | .ok store => pure { s with store := store }
        | .error deleteErr => if deleteErr.IsNotFound then pure s else err deleteErr) = ok s') :
    s' = { s with store := KeyedList.eraseKey endpointKey (toLower name) s.store } := by
  obtain ⟨-, -, h⟩ := bind_eq_ok.mp h
  cases hd : client.Delete s.store name with
  | ok store =>
    rw [hd] at h
    cases h
    rw [EndpointsClient.Delete_eq_ok hd]
  | error e =>
    rw [hd] at h
    simp only at h
    split_ifs at h with hnf
    cases h
    rcases EndpointsClient.Delete_eq_error hd with hclient | ⟨-, habsent⟩
    · simp [hdel _ _ hclient] at hnf
    · -- the name was not there, so deleting it leaves the store as it was
      have hsame : KeyedList.eraseKey endpointKey (toLower name) s.store = s.store :=
        List.filter_eq_self.mpr fun x hx => by simpa using habsent x hx
      rw [hsame]

/-- **What one iteration of the first pass can do**: skip an endpoint that is not the backend's,
delete one with no desired endpoint, keep one that differs from its desired endpoint for the
second pass, or accept one that equals it. -/
lemma reconcileExistingEndpoint_cases {s s' : ExistingPass} {x : Endpoint}
    (hdel : ∀ n e, client.deleteError n = some e → e.IsNotFound = false)
    (h : reconcileExistingEndpoint client backend profile s (some x) = ok s') :
    ((∀ n, x.name = some n → isEndpointOwnedByBackend backend (toLower n) = false) ∧ s' = s) ∨
    ∃ n, x.name = some n ∧ isEndpointOwnedByBackend backend (toLower n) = true ∧
      ((s.desiredEndpoints.lookup (toLower n) = none ∧
          s' = { s with store := KeyedList.eraseKey endpointKey (toLower n) s.store }) ∨
        ∃ d, s.desiredEndpoints.lookup (toLower n) = some d ∧
          ((equalAzureTrafficManagerEndpoint x d.endpoint = ok false ∧ s' = s) ∨
            (equalAzureTrafficManagerEndpoint x d.endpoint = ok true ∧
              ∃ st, buildAcceptedEndpointStatus x d = ok st ∧
                s' = { s with
                  desiredEndpoints := s.desiredEndpoints.erase (toLower n),
                  acceptedEndpoints := s.acceptedEndpoints ++ [st] }))) := by
  simp only [reconcileExistingEndpoint, deref_some, ok_bind] at h
  cases hn : x.name with
  | none =>
    rw [hn] at h
    cases h
    exact Or.inl ⟨by simp, rfl⟩
  | some n =>
    rw [hn] at h
    by_cases ho : isEndpointOwnedByBackend backend (toLower n) = true
    · refine Or.inr ⟨n, rfl, ho, ?_⟩
      simp only [ho, Bool.not_true, Bool.false_eq_true, if_false] at h
      cases hl : s.desiredEndpoints.lookup (toLower n) with
      | none =>
        rw [hl] at h
        exact Or.inl ⟨rfl, by simpa using delete_step hdel h⟩
      | some d =>
        rw [hl] at h
        obtain ⟨equal, heq, h⟩ := bind_eq_ok.mp h
        refine Or.inr ⟨d, rfl, ?_⟩
        cases equal with
        | false =>
          cases h
          exact Or.inl ⟨heq, rfl⟩
        | true =>
          obtain ⟨status, hst, h⟩ := bind_eq_ok.mp h
          cases h
          exact Or.inr ⟨heq, status, hst, rfl⟩
    · simp only [Bool.not_eq_true] at ho
      simp only [ho, Bool.not_false, if_true] at h
      cases h
      exact Or.inl ⟨fun m hm => by cases hm; exact ho, rfl⟩

/-- **What one iteration of the second pass can do**: create or update the endpoint and accept
it, or set it aside after a client error other than throttling. -/
lemma createOrUpdateDesiredEndpoint_cases {s s' : DesiredPass}
    {entry : Σ _ : List Char, DesiredEndpoint}
    (h : createOrUpdateDesiredEndpoint client profile s entry = ok s') :
    ∃ n, entry.2.endpoint.name = some n ∧
      ((client.createOrUpdateError n = none ∧
          ∃ st, buildAcceptedEndpointStatus (client.returned entry.2.endpoint) entry.2 = ok st ∧
            s' = { s with
              store := KeyedList.upsertKey endpointKey (toLower n) entry.2.endpoint s.store,
              acceptedEndpoints := s.acceptedEndpoints ++ [st] }) ∨
        ∃ e, client.createOrUpdateError n = some e ∧ e.IsClientError = true ∧
          e.IsThrottled = false ∧ s' = { s with badEndpointsError := s.badEndpointsError ++ [e] }) := by
  obtain ⟨n, hn, h⟩ := bind_eq_ok.mp h
  obtain ⟨-, -, h⟩ := bind_eq_ok.mp h
  refine ⟨n, deref_eq_ok.mp hn, ?_⟩
  cases hc : client.CreateOrUpdate s.store n entry.2.endpoint with
  | ok res =>
    obtain ⟨store, returned⟩ := res
    obtain ⟨hnone, rfl, rfl⟩ := EndpointsClient.CreateOrUpdate_eq_ok hc
    rw [hc] at h
    obtain ⟨status, hst, h⟩ := bind_eq_ok.mp h
    cases h
    exact Or.inl ⟨hnone, status, hst, rfl⟩
  | error e =>
    have he := EndpointsClient.CreateOrUpdate_eq_error hc
    rw [hc] at h
    -- a transport failure and a server error or throttling both end the update
    cases e with
    | transport => cases h
    | response code =>
      simp only at h
      split_ifs at h with hclient
      cases h
      simp only [Bool.and_eq_true, Bool.not_eq_true'] at hclient
      exact Or.inr ⟨_, he, hclient.1, hclient.2, rfl⟩

end Specs

end FleetNet
