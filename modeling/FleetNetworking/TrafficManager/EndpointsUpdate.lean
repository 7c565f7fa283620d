import FleetNetworking.TrafficManager.Backend

/-!
# What an endpoint update achieves

`updateTrafficManagerEndpointsAndUpdateStatusIfUnknown` runs over the endpoints of an Azure
profile whose names are unique up to case, with a client whose `Delete` never answers
`NotFound` for an endpoint that is there and whose `CreateOrUpdate` returns the endpoint it was
given, and with a desired map as `validateAndProcessServiceImportForBackend` builds it.  When the
update returns:

* no endpoint that is not the backend's is touched (`update_frame`), and so no endpoint of
  another backend is either (`update_frame_other_backend`);
* one status is accepted for each desired endpoint that Azure already had or that it took, and
  the bad-endpoint errors are those of the ones it rejected (`update_accepted_perm`,
  `update_bad_eq`);
* with no bad endpoint, the backend's endpoints are exactly the desired ones, each equal to its
  desired endpoint (`update_converges`).

The passes are two `foldlM` loops.  Their invariants are the structures `ExistingInv` and
`DesiredInv`, each kept by one step lemma built on the inversion lemmas of the step functions;
`Go.Result.foldlM_inv` carries them over the whole loop.  Which endpoints the first pass deletes
or accepts is stated with `stale` and `matchOf`, functions of the endpoint and the map the update
started from, and not of the map as the pass has left it.
-/

namespace FleetNet

open Go Result

/-! ## Desired endpoints -/

/-- Kubernetes names and UIDs are lowercase. -/
def LowercaseBackend (backend : TrafficManagerBackend) : Prop :=
  toLower backend.uid = backend.uid ∧ toLower backend.backendName = backend.backendName

/-- An entry of the map `validateAndProcessServiceImportForBackend` returns: the endpoint
generated for an export with a public IP and a lowercase cluster ID, its weight set to its share,
under its own name. -/
def IsDesiredEntry (backend : TrafficManagerBackend) (entry : Σ _ : List Char, DesiredEndpoint) :
    Prop :=
  ∃ (serviceExport : InternalServiceExportSpec) (w : ℤ),
    serviceExport.publicIPResourceID.isSome ∧
    toLower serviceExport.clusterID = serviceExport.clusterID ∧
    entry.2.endpoint = (generateAzureTrafficManagerEndpoint backend serviceExport).setWeight w ∧
    (generateAzureTrafficManagerEndpoint backend serviceExport).name = some entry.1

/-- What the update relies on of a desired entry. -/
structure DesiredEntryWF (backend : TrafficManagerBackend)
    (entry : Σ _ : List Char, DesiredEndpoint) : Prop where
  name_eq : entry.2.endpoint.name = some entry.1
  lower : toLower entry.1 = entry.1
  owned : isEndpointOwnedByBackend backend entry.1 = true
  equal_self : equalAzureTrafficManagerEndpoint entry.2.endpoint entry.2.endpoint = ok true
  properties : entry.2.endpoint.properties.isSome = true

lemma IsDesiredEntry.wf {backend : TrafficManagerBackend} {entry : Σ _ : List Char, DesiredEndpoint}
    (hb : LowercaseBackend backend) (h : IsDesiredEntry backend entry) :
    DesiredEntryWF backend entry := by
  obtain ⟨serviceExport, w, hpip, hcluster, hep, hname⟩ := h
  obtain ⟨pip, hpip⟩ := Option.isSome_iff_exists.mp hpip
  have hkey : entry.1 = generateAzureTrafficManagerEndpointNamePrefix backend ++
      backend.backendName ++ '#' :: serviceExport.clusterID := by
    simpa [generateAzureTrafficManagerEndpoint] using hname.symm
  refine ⟨?_, ?_, ?_, ?_, ?_⟩
  · rw [hep]
    simpa [Endpoint.setWeight] using hname
  · -- the fixed parts of the name are lowercase, and so are the UID, backend name and cluster
    have hhash : '#'.toLower = '#' := by decide
    rw [hkey]
    simp [generateAzureTrafficManagerEndpointNamePrefix, hhash, hb.1, hb.2, hcluster]
  · rw [hkey, isEndpointOwnedByBackend, List.isPrefixOf_iff_prefix, List.append_assoc]
    exact List.prefix_append _ _
  · rw [hep]
    exact equalAzureTrafficManagerEndpoint_self (t := azureEndpointsType)
      (p := ⟨serviceExport.publicIPResourceID, some .Enabled, some w, none⟩)
      (by simp [Endpoint.setWeight, generateAzureTrafficManagerEndpoint])
      (by simp [Endpoint.setWeight, generateAzureTrafficManagerEndpoint]) hpip rfl rfl
  · rw [hep]
    simp [Endpoint.setWeight, generateAzureTrafficManagerEndpoint]

/-! ## Ownership -/

/-- `isEndpointOwnedByBackend` of an endpoint, by its lowercased name; an unnamed endpoint is
nobody's. -/
def ownedByBackend (backend : TrafficManagerBackend) (e : Endpoint) : Bool :=
  (endpointKey e).any (isEndpointOwnedByBackend backend)

lemma ownedByBackend_of_key {backend : TrafficManagerBackend} {e : Endpoint} {k : List Char}
    (hk : endpointKey e = some k) (ho : isEndpointOwnedByBackend backend k = true) :
    ownedByBackend backend e = true := by
  simp [ownedByBackend, hk, ho]

/-- The backend. -/
def runBackend : TrafficManagerBackend := ⟨['u'], ['b']⟩

/-- The export of cluster `c`. -/
def runExport : InternalServiceExportSpec := ⟨['c'], some ['i'], none⟩

/-- Its desired endpoint. -/
def runDesired : DesiredEndpoint :=
  ⟨(generateAzureTrafficManagerEndpoint runBackend runExport).setWeight 1, ⟨['c'], some 1⟩⟩

/-- The desired map. -/
def runDesiredEndpoints : AList fun _ : List Char => DesiredEndpoint :=
  ⟨[⟨"fleet-u#b#c".toList, runDesired⟩], List.nodupKeys_singleton _⟩

/-- An endpoint of another owner. -/
def runForeign : Endpoint := ⟨some ['x'], none, none, none⟩

/-- A stale endpoint of the backend. -/
def runStale : Endpoint := ⟨some "Fleet-u#b#old".toList, none, none, none⟩

/-- The profile's endpoints. -/
def runStore : EndpointStore := [runForeign, runStale]

/-- Azure accepting every call. -/
def runClient : EndpointsClient := ⟨fun _ => none, fun _ => none, id⟩

/-- The profile. -/
def runProfile : Profile := ⟨some ['p'], some ⟨runStore.map some⟩⟩

/-- The status accepted for cluster `c`. -/
def runAccepted : TrafficManagerEndpointStatus :=
  ⟨"fleet-u#b#c".toList, none, some 1, ⟨['c'], some 1⟩, []⟩

lemma runBackend_lowercase : LowercaseBackend runBackend := ⟨by decide, by decide⟩

/-- The run's desired map is one `validateAndProcessServiceImportForBackend` builds. -/
lemma runDesired_isDesired : ∀ d ∈ runDesiredEndpoints.entries, IsDesiredEntry runBackend d := by
  intro d hd
  simp only [runDesiredEndpoints, List.mem_singleton] at hd
  subst hd
  exact ⟨runExport, 1, rfl, by decide, rfl, by decide⟩

/-- The update of the run: the stale endpoint is deleted and the desired one created. -/
lemma runUpdate_eq : updateTrafficManagerEndpointsAndUpdateStatusIfUnknown runClient .byKeys
    runBackend runProfile runStore runDesiredEndpoints =
      ok ([runAccepted], [], [runForeign, runDesired.endpoint]) := by
  decide

/-! ## The first pass -/

section Update

variable (client : EndpointsClient) (backend : TrafficManagerBackend) (S₀ : EndpointStore)
  (D₀ : AList fun _ : List Char => DesiredEndpoint)

/-- The desired entry that endpoint `x` of Azure already equals: the entry of its key, when the
comparison answers true. -/
def matchOf (x : Endpoint) : Option (Σ _ : List Char, DesiredEndpoint) :=
  (endpointKey x).bind fun k => (D₀.lookup k).bind fun d =>
    if equalAzureTrafficManagerEndpoint x d.endpoint = ok true then some ⟨k, d⟩ else none

/-- Endpoint `x` is the backend's and no desired endpoint has its key: the first pass deletes
it. -/
def stale (x : Endpoint) : Bool :=
  (endpointKey x).any fun k => isEndpointOwnedByBackend backend k && (D₀.lookup k).isNone

/-- The first pass over `pre` has deleted `e`: it is stale and `pre` reached its key. -/
def deletedBy (pre : List Endpoint) (e : Endpoint) : Bool :=
  stale backend D₀ e && pre.any fun x => endpointKey x == endpointKey e

/-- A desired entry Azure already has: the first pass accepts it in place. -/
def inPlace (entry : Σ _ : List Char, DesiredEndpoint) : Bool :=
  decide (entry ∈ S₀.filterMap (matchOf D₀))

/-- Azure rejects the creation of a desired entry as a bad request. -/
def rejects (entry : Σ _ : List Char, DesiredEndpoint) : Bool :=
  (client.createOrUpdateError entry.1).any fun e => e.IsClientError && !e.IsThrottled

/-- A desired entry that ends among the bad endpoints: not in place, and rejected. -/
def rejected (entry : Σ _ : List Char, DesiredEndpoint) : Bool :=
  !inPlace S₀ D₀ entry && rejects client entry

/-- What a status says of its endpoint: its name and its cluster. -/
def statusKey (st : TrafficManagerEndpointStatus) : List Char × FromCluster :=
  (st.name, st.fromCluster)

/-- The same of a desired entry. -/
def entryKey (entry : Σ _ : List Char, DesiredEndpoint) : List Char × FromCluster :=
  (entry.1, entry.2.fromCluster)

/-- The invariant of the first pass after the endpoints `pre` of the listed ones: the endpoints
it met that were stale are deleted, the ones it matched are out of the desired map, and one
status has been accepted for each of those. -/
structure ExistingInv (pre : List Endpoint) (s : ExistingPass) : Prop where
  store : s.store = S₀.filter fun e => !deletedBy backend D₀ pre e
  desired : s.desiredEndpoints.entries =
    D₀.entries.filter fun d => d ∉ pre.filterMap (matchOf D₀)
  accepted : s.acceptedEndpoints.map statusKey = (pre.filterMap (matchOf D₀)).map entryKey

variable {client backend S₀ D₀}

lemma matchOf_spec {x : Endpoint} {m : Σ _ : List Char, DesiredEndpoint}
    (h : matchOf D₀ x = some m) :
    m ∈ D₀.entries ∧ endpointKey x = some m.1 ∧
      equalAzureTrafficManagerEndpoint x m.2.endpoint = ok true := by
  unfold matchOf at h
  obtain ⟨k, hk, h⟩ := Option.bind_eq_some_iff.mp h
  obtain ⟨d, hd, h⟩ := Option.bind_eq_some_iff.mp h
  split_ifs at h with he
  cases h
  exact ⟨KeyedList.lookup_eq_some_iff.mp hd, hk, he⟩

lemma stale_congr {x e : Endpoint} (h : endpointKey x = endpointKey e) :
    stale backend D₀ x = stale backend D₀ e := by
  unfold stale
  rw [h]

lemma ownedByBackend_of_stale {e : Endpoint} (h : stale backend D₀ e = true) :
    ownedByBackend backend e = true := by
  unfold stale at h
  unfold ownedByBackend
  cases hk : endpointKey e with
  | none => simp [hk] at h
  | some k => simp_all

lemma stale_eq_false_of_lookup {x : Endpoint} {k : List Char} {d : DesiredEndpoint}
    (hk : endpointKey x = some k) (hl : D₀.lookup k = some d) : stale backend D₀ x = false := by
  simp [stale, hk, hl]

/-- Every key of a desired map of desired entries is the backend's. -/
lemma lookup_eq_none_of_not_owned (hD : ∀ d ∈ D₀.entries, DesiredEntryWF backend d)
    {k : List Char} (ho : isEndpointOwnedByBackend backend k = false) : D₀.lookup k = none := by
  cases hl : D₀.lookup k with
  | none => rfl
  | some d =>
    have := (hD _ (KeyedList.lookup_eq_some_iff.mp hl)).owned
    simp_all

lemma deletedBy_nil (e : Endpoint) : deletedBy backend D₀ [] e = false := by
  simp [deletedBy]

lemma deletedBy_append_of_not_stale {pre : List Endpoint} {x e : Endpoint}
    (hx : stale backend D₀ x = false) :
    deletedBy backend D₀ (pre ++ [x]) e = deletedBy backend D₀ pre e := by
  by_cases hxe : endpointKey x = endpointKey e
  · -- an endpoint of the same key is not stale either
    have he : stale backend D₀ e = false := stale_congr hxe ▸ hx
    simp [deletedBy, he]
  · have hxe : (endpointKey x == endpointKey e) = false := beq_eq_false_iff_ne.mpr hxe
    simp [deletedBy, hxe]

lemma deletedBy_append_of_stale {pre : List Endpoint} {x e : Endpoint} {k : List Char}
    (hx : stale backend D₀ x = true) (hk : endpointKey x = some k) :
    deletedBy backend D₀ (pre ++ [x]) e = (deletedBy backend D₀ pre e || endpointKey e == some k) := by
  by_cases hek : endpointKey e = some k
  · have he : stale backend D₀ e = true := stale_congr (hk.trans hek.symm) ▸ hx
    simp [deletedBy, he, hk, hek]
  · have hxe : (endpointKey x == endpointKey e) = false := by
      rw [hk]
      exact beq_eq_false_iff_ne.mpr fun h => hek h.symm
    have hek : (endpointKey e == some k) = false := beq_eq_false_iff_ne.mpr hek
    simp [deletedBy, hxe, hek]

lemma ExistingInv.init : ExistingInv backend S₀ D₀ [] ⟨S₀, D₀, []⟩ where
  store := by simp [deletedBy_nil]
  desired := by simp
  accepted := rfl

/-- The map as the pass has left it agrees with the map it started from on every key that the
pass has not reached. -/
lemma ExistingInv.lookup_eq {pre : List Endpoint} {s : ExistingPass} {k : List Char}
    (hI : ExistingInv backend S₀ D₀ pre s) (hk : ∀ y ∈ pre, endpointKey y ≠ some k) :
    s.desiredEndpoints.lookup k = D₀.lookup k := by
  refine Option.ext fun d => ?_
  rw [KeyedList.lookup_eq_some_iff, KeyedList.lookup_eq_some_iff, hI.desired, List.mem_filter]
  refine ⟨And.left, fun hd => ⟨hd, decide_eq_true fun hm => ?_⟩⟩
  obtain ⟨y, hy, hym⟩ := List.mem_filterMap.mp hm
  exact hk y hy (matchOf_spec hym).2.1

/-- An endpoint that is neither stale nor matched changes nothing. -/
lemma ExistingInv.skip {pre : List Endpoint} {s : ExistingPass} {x : Endpoint}
    (hI : ExistingInv backend S₀ D₀ pre s) (hst : stale backend D₀ x = false)
    (hm : matchOf D₀ x = none) : ExistingInv backend S₀ D₀ (pre ++ [x]) s where
  store := by
    rw [hI.store]
    exact List.filter_congr fun e _ => by rw [deletedBy_append_of_not_stale hst]
  desired := by simp [hI.desired, hm]
  accepted := by simp [hI.accepted, hm]

/-- Deleting a stale endpoint deletes the records of its key. -/
lemma ExistingInv.delete {pre : List Endpoint} {s : ExistingPass} {x : Endpoint} {k : List Char}
    (hI : ExistingInv backend S₀ D₀ pre s) (hk : endpointKey x = some k)
    (hst : stale backend D₀ x = true) (hm : matchOf D₀ x = none) :
    ExistingInv backend S₀ D₀ (pre ++ [x])
      { s with store := KeyedList.eraseKey endpointKey k s.store } where
  store := by
    rw [hI.store, KeyedList.eraseKey, List.filter_filter]
    refine List.filter_congr fun e _ => ?_
    rw [deletedBy_append_of_stale hst hk]
    by_cases he : endpointKey e = some k
    · simp [he]
    · have hb : (endpointKey e == some k) = false := beq_eq_false_iff_ne.mpr he
      simp [hb, he, bne, Bool.and_comm]
  desired := by simp [hI.desired, hm]
  accepted := by simp [hI.accepted, hm]

/-- Accepting a matched endpoint takes its entry out of the desired map. -/
lemma ExistingInv.accept {pre : List Endpoint} {s : ExistingPass} {x : Endpoint} {k : List Char}
    {d : DesiredEndpoint} {st : TrafficManagerEndpointStatus}
    (hI : ExistingInv backend S₀ D₀ pre s) (hst : stale backend D₀ x = false)
    (hm : matchOf D₀ x = some ⟨k, d⟩) (hname : st.name = k)
    (hfrom : st.fromCluster = d.fromCluster) :
    ExistingInv backend S₀ D₀ (pre ++ [x])
      { s with
        desiredEndpoints := s.desiredEndpoints.erase k,
        acceptedEndpoints := s.acceptedEndpoints ++ [st] } where
  store := by
    rw [hI.store]
    exact List.filter_congr fun e _ => by rw [deletedBy_append_of_not_stale hst]
  desired := by
    change s.desiredEndpoints.entries.kerase k = _
    rw [KeyedList.kerase_eq_filter s.desiredEndpoints.nodupKeys, hI.desired, List.filter_filter]
    refine List.filter_congr fun e he => ?_
    -- an entry of the map is the matched one exactly when it has its key
    have hmem := (matchOf_spec hm).1
    by_cases hek : e.1 = k
    · have heq : e = ⟨k, d⟩ := D₀.nodupKeys.eq_of_fst_eq he hmem hek
      subst heq
      simp [hm]
    · have hne : e ≠ ⟨k, d⟩ := fun h => hek (h ▸ rfl)
      simp [hm, hek, hne]
  accepted := by simp [hI.accepted, hm, statusKey, entryKey, hname, hfrom]

/-- **The step of the first pass.**  Whatever one iteration does to an endpoint of the store,
the invariant moves past it. -/
lemma ExistingInv.step (hS₀ : KeyedList.KeysNodup endpointKey S₀)
    (hD : ∀ d ∈ D₀.entries, DesiredEntryWF backend d)
    (hdel : ∀ n e, client.deleteError n = some e → e.IsNotFound = false) {profile : Profile}
    {pre suf : List Endpoint} {x : Endpoint} {s s' : ExistingPass} (hxs : S₀ = pre ++ x :: suf)
    (hI : ExistingInv backend S₀ D₀ pre s)
    (h : reconcileExistingEndpoint client backend profile s (some x) = ok s') :
    ExistingInv backend S₀ D₀ (pre ++ [x]) s' := by
  rcases reconcileExistingEndpoint_cases hdel h with
    ⟨hnot, rfl⟩ | ⟨n, hn, ho, ⟨hl, rfl⟩ | ⟨d, hl, ⟨heq, rfl⟩ | ⟨heq, st, hbuild, rfl⟩⟩⟩
  · -- an unnamed endpoint, or another backend's: no desired endpoint has its key
    cases hn : x.name with
    | none => exact hI.skip (by simp [stale, endpointKey, hn]) (by simp [matchOf, endpointKey, hn])
    | some n =>
      have hk : endpointKey x = some (toLower n) := by simp [endpointKey, hn]
      have hl := lookup_eq_none_of_not_owned hD (hnot n hn)
      exact hI.skip (by simp [stale, hk, hnot n hn]) (by simp [matchOf, hk, hl])
  all_goals
    have hk : endpointKey x = some (toLower n) := by simp [endpointKey, hn]
    -- the pass has not yet reached the key of x, as keys are unique
    have hlook := hI.lookup_eq fun y hy =>
      KeyedList.KeysNodup.key_ne_of_mem_prefix (hxs ▸ hS₀) hk hy
  · rw [hlook] at hl
    exact hI.delete hk (by simp [stale, hk, ho, hl]) (by simp [matchOf, hk, hl])
  · rw [hlook] at hl
    exact hI.skip (stale_eq_false_of_lookup hk hl) (by simp [matchOf, hk, hl, heq])
  · rw [hlook] at hl
    obtain ⟨n', hn', hname, hfrom⟩ := buildAcceptedEndpointStatus_eq_ok hbuild
    rw [hn, Option.some.injEq] at hn'
    subst hn'
    exact hI.accept (stale_eq_false_of_lookup hk hl) (by simp [matchOf, hk, hl, heq]) hname hfrom

/-- **The run of the first pass.** -/
lemma existingPass_inv (hS₀ : KeyedList.KeysNodup endpointKey S₀)
    (hD : ∀ d ∈ D₀.entries, DesiredEntryWF backend d)
    (hdel : ∀ n e, client.deleteError n = some e → e.IsNotFound = false) {profile : Profile}
    {s₁ : ExistingPass}
    (h : S₀.foldlM (fun s x => reconcileExistingEndpoint client backend profile s (some x))
      ⟨S₀, D₀, []⟩ = ok s₁) :
    ExistingInv backend S₀ D₀ S₀ s₁ :=
  foldlM_inv (ExistingInv backend S₀ D₀) ExistingInv.init
    (fun _ _ _ _ _ hxs hI hs => hI.step hS₀ hD hdel hxs hs) h

/-- After the whole pass the stale endpoints are exactly the ones deleted. -/
lemma ExistingInv.store_eq {s : ExistingPass} (hI : ExistingInv backend S₀ D₀ S₀ s) :
    s.store = S₀.filter fun e => !stale backend D₀ e := by
  rw [hI.store]
  refine List.filter_congr fun e he => ?_
  -- the pass reached the key of every endpoint of the store
  have hreach : (S₀.any fun x => endpointKey x == endpointKey e) = true :=
    List.any_eq_true.mpr ⟨e, he, by simp⟩
  simp [deletedBy, hreach]

lemma ExistingInv.mem_desired {pre : List Endpoint} {s : ExistingPass}
    {d : Σ _ : List Char, DesiredEndpoint} (hI : ExistingInv backend S₀ D₀ pre s)
    (hd : d ∈ s.desiredEndpoints.entries) : d ∈ D₀.entries ∧ d ∉ pre.filterMap (matchOf D₀) := by
  rw [hI.desired, List.mem_filter] at hd
  simpa using hd

/-- A desired entry that the pass took out of the map was matched by an endpoint of the store. -/
lemma ExistingInv.matched_of_not_mem {pre : List Endpoint} {s : ExistingPass}
    {d : Σ _ : List Char, DesiredEndpoint} (hI : ExistingInv backend S₀ D₀ pre s)
    (hd : d ∈ D₀.entries) (hnot : d ∉ s.desiredEndpoints.entries) :
    ∃ x ∈ pre, matchOf D₀ x = some d := by
  rw [hI.desired, List.mem_filter] at hnot
  simpa [hd] using hnot

/-! ## The second pass -/

variable (client) in
/-- The invariant of the second pass after the entries `pre`, from the store and accepted
statuses the first pass left: the entries Azure took are upserted in order and accepted, and the
errors of the ones it rejected are the bad endpoints. -/
structure DesiredInv (store₁ : EndpointStore) (acc₁ : List TrafficManagerEndpointStatus)
    (pre : List (Σ _ : List Char, DesiredEndpoint)) (s : DesiredPass) : Prop where
  store : s.store = KeyedList.upsertAll endpointKey
    ((pre.filter fun d => !rejects client d).map fun d => (d.1, d.2.endpoint)) store₁
  bad : s.badEndpointsError =
    (pre.filter (rejects client)).filterMap fun d => client.createOrUpdateError d.1
  accepted : s.acceptedEndpoints.map statusKey =
    acc₁.map statusKey ++ (pre.filter fun d => !rejects client d).map entryKey

lemma DesiredInv.init {store₁ : EndpointStore} {acc₁ : List TrafficManagerEndpointStatus} :
    DesiredInv client store₁ acc₁ [] ⟨store₁, [], acc₁⟩ where
  store := rfl
  bad := rfl
  accepted := by simp

/-- **The step of the second pass.** -/
lemma DesiredInv.step (hret : ∀ e, client.returned e = e) {profile : Profile}
    {store₁ : EndpointStore} {acc₁ : List TrafficManagerEndpointStatus}
    {pre : List (Σ _ : List Char, DesiredEndpoint)} {entry : Σ _ : List Char, DesiredEndpoint}
    {s s' : DesiredPass} (hwf : DesiredEntryWF backend entry)
    (hI : DesiredInv client store₁ acc₁ pre s)
    (h : createOrUpdateDesiredEndpoint client profile s entry = ok s') :
    DesiredInv client store₁ acc₁ (pre ++ [entry]) s' := by
  obtain ⟨n, hn, ⟨hnone, st, hbuild, rfl⟩ | ⟨e, herr, hclient, hthrottled, rfl⟩⟩ :=
    createOrUpdateDesiredEndpoint_cases h
  all_goals
    rw [hwf.name_eq, Option.some.injEq] at hn
    subst hn
  · -- Azure took the endpoint and returned it as it was sent
    have hr : rejects client entry = false := by simp [rejects, hnone]
    rw [hret] at hbuild
    obtain ⟨n', hn', hname, hfrom⟩ := buildAcceptedEndpointStatus_eq_ok hbuild
    rw [hwf.name_eq, Option.some.injEq] at hn'
    subst hn'
    refine ⟨?_, ?_, ?_⟩
    · simp [hI.store, hr, KeyedList.upsertAll_append, hwf.lower]
    · simp [hI.bad, hr]
    · simp [hI.accepted, hr, statusKey, entryKey, hname, hfrom, hwf.lower]
  · -- a bad request sets the endpoint aside
    have hr : rejects client entry = true := by simp [rejects, herr, hclient, hthrottled]
    refine ⟨?_, ?_, ?_⟩
    · simp [hI.store, hr]
    · simp [hI.bad, hr, herr]
    · simp [hI.accepted, hr]

/-- **The run of the second pass.** -/
lemma desiredPass_inv (hret : ∀ e, client.returned e = e) {profile : Profile}
    {store₁ : EndpointStore} {acc₁ : List TrafficManagerEndpointStatus}
    {R : List (Σ _ : List Char, DesiredEndpoint)} {s₂ : DesiredPass}
    (hR : ∀ d ∈ R, DesiredEntryWF backend d)
    (h : R.foldlM (createOrUpdateDesiredEndpoint client profile) ⟨store₁, [], acc₁⟩ = ok s₂) :
    DesiredInv client store₁ acc₁ R s₂ :=
  foldlM_inv (DesiredInv client store₁ acc₁) DesiredInv.init
    (fun _ entry _ _ _ hxs hI hs =>
      hI.step hret (hR entry (hxs ▸ List.mem_append_right _ List.mem_cons_self)) hs) h

/-! ## The update -/

section Run

variable {range : RangeOrder (List Char) DesiredEndpoint} {profile : Profile}
  {accepted : List TrafficManagerEndpointStatus} {bad : List AzureError} {store' : EndpointStore}

/-- A returning update is the two passes, each with its invariant at its end. -/
lemma update_eq_ok_inv (hprofile : profile.properties = some ⟨S₀.map some⟩)
    (hS₀ : KeyedList.KeysNodup endpointKey S₀) (hD : ∀ d ∈ D₀.entries, DesiredEntryWF backend d)
    (hdel : ∀ n e, client.deleteError n = some e → e.IsNotFound = false)
    (hret : ∀ e, client.returned e = e)
    (hrun : updateTrafficManagerEndpointsAndUpdateStatusIfUnknown client range backend profile S₀
      D₀ = ok (accepted, bad, store')) :
    ∃ s₁ s₂, ExistingInv backend S₀ D₀ S₀ s₁ ∧
      DesiredInv client s₁.store s₁.acceptedEndpoints (range.sigmaEntries s₁.desiredEndpoints) s₂ ∧
      s₂.acceptedEndpoints = accepted ∧ s₂.badEndpointsError = bad ∧ s₂.store = store' := by
  simp only [updateTrafficManagerEndpointsAndUpdateStatusIfUnknown, hprofile, deref_some, ok_bind,
    List.foldlM_map] at hrun
  obtain ⟨s₁, h₁, hrun⟩ := bind_eq_ok.mp hrun
  obtain ⟨s₂, h₂, hrun⟩ := bind_eq_ok.mp hrun
  simp only [pure_eq, ok.injEq, Prod.mk.injEq] at hrun
  obtain ⟨hacc, hbad, hstore⟩ := hrun
  have hI₁ := existingPass_inv hS₀ hD hdel h₁
  -- the entries the second pass visits are entries of the desired map
  have hR : ∀ d ∈ range.sigmaEntries s₁.desiredEndpoints, DesiredEntryWF backend d :=
    fun d hd => hD d (hI₁.mem_desired (RangeOrder.mem_sigmaEntries.mp hd)).1
  exact ⟨s₁, s₂, hI₁, desiredPass_inv hret hR h₂, hacc, hbad, hstore⟩

variable (hprofile : profile.properties = some ⟨S₀.map some⟩)
  (hS₀ : KeyedList.KeysNodup endpointKey S₀) (hD : ∀ d ∈ D₀.entries, DesiredEntryWF backend d)
  (hdel : ∀ n e, client.deleteError n = some e → e.IsNotFound = false)
  (hret : ∀ e, client.returned e = e)
  (hrun : updateTrafficManagerEndpointsAndUpdateStatusIfUnknown client range backend profile S₀ D₀ =
    ok (accepted, bad, store'))
include hprofile hS₀ hD hdel hret hrun

/-- **Frame.**  The endpoints that are not the backend's stay as they were, in order. -/
theorem update_frame :
    store'.filter (fun e => !ownedByBackend backend e) =
      S₀.filter (fun e => !ownedByBackend backend e) := by
  obtain ⟨s₁, s₂, h₁, h₂, -, -, rfl⟩ := update_eq_ok_inv hprofile hS₀ hD hdel hret hrun
  rw [h₂.store, KeyedList.filter_upsertAll, h₁.store_eq, List.filter_filter]
  · -- a stale endpoint is the backend's
    refine List.filter_congr fun e _ => ?_
    cases hst : stale backend D₀ e
    · simp
    · simp [ownedByBackend_of_stale hst]
  · -- an upserted endpoint, and every endpoint of its key, is the backend's
    intro q hq
    obtain ⟨d, hd, rfl⟩ := List.mem_map.mp hq
    have hwf := hD d (h₁.mem_desired (RangeOrder.mem_sigmaEntries.mp (List.mem_filter.mp hd).1)).1
    have hkey : endpointKey d.2.endpoint = some d.1 := by
      simp [endpointKey, hwf.name_eq, hwf.lower]
    refine ⟨by simp [ownedByBackend_of_key hkey hwf.owned], fun b hb => ?_⟩
    simp [ownedByBackend_of_key hb hwf.owned]

/-- **The bad endpoints** are the errors of the desired entries Azure rejected, in the order in
which the range visits them. -/
theorem update_bad_eq :
    bad.Perm ((D₀.entries.filter (rejected client S₀ D₀)).filterMap
      fun d => client.createOrUpdateError d.1) := by
  obtain ⟨s₁, s₂, h₁, h₂, -, rfl, -⟩ := update_eq_ok_inv hprofile hS₀ hD hdel hret hrun
  -- over the map's own order the errors are those of the rejected entries
  have hmap : (s₁.desiredEndpoints.entries.filter (rejects client)).filterMap
      (fun d => client.createOrUpdateError d.1) =
      (D₀.entries.filter (rejected client S₀ D₀)).filterMap
        fun d => client.createOrUpdateError d.1 := by
    rw [h₁.desired, List.filter_filter]
    congr 1
    exact List.filter_congr fun d _ => by rw [rejected, inPlace, decide_not, Bool.and_comm]
  rw [h₂.bad, ← hmap]
  exact ((RangeOrder.sigmaEntries_perm _).filter _).filterMap _

/-- **The accepted statuses**: one for each desired entry that was not rejected, under its name
and with its cluster. -/
theorem update_accepted_perm :
    (accepted.map statusKey).Perm
      ((D₀.entries.filter fun d => !rejected client S₀ D₀ d).map entryKey) := by
  obtain ⟨s₁, s₂, h₁, h₂, rfl, -, -⟩ := update_eq_ok_inv hprofile hS₀ hD hdel hret hrun
  rw [h₂.accepted, h₁.accepted, ← List.map_append]
  refine List.Perm.map _ ((List.perm_ext_iff_of_nodup ?_ ?_).mpr fun d => ?_)
  · -- the matched entries have the distinct keys of their endpoints
    have hm : (S₀.filterMap (matchOf D₀)).Nodup :=
      (hS₀.nodup_filterMap Sigma.fst fun _ _ h => (matchOf_spec h).2.1).of_map _
    have hR : (range.sigmaEntries s₁.desiredEndpoints).Nodup :=
      (RangeOrder.sigmaEntries_perm _).nodup_iff.mpr s₁.desiredEndpoints.nodupKeys.nodup
    refine List.nodup_append.mpr ⟨hm, hR.filter _, fun a ha b hb hab => ?_⟩
    subst hab
    exact (h₁.mem_desired (RangeOrder.mem_sigmaEntries.mp (List.mem_filter.mp hb).1)).2 ha
  · exact D₀.nodupKeys.nodup.filter _
  · -- accepted in place, or left for the second pass and taken by Azure
    simp only [List.mem_append, List.mem_filter, RangeOrder.mem_sigmaEntries, rejected, inPlace,
      Bool.not_and, Bool.not_not, Bool.or_eq_true, decide_eq_true_eq, h₁.desired, decide_not]
    constructor
    · rintro (hm | ⟨⟨hd, -⟩, hr⟩)
      · obtain ⟨x, -, hx⟩ := List.mem_filterMap.mp hm
        exact ⟨(matchOf_spec hx).1, Or.inl hm⟩
      · exact ⟨hd, Or.inr hr⟩
    · rintro ⟨hd, hm | hr⟩
      · exact Or.inl hm
      · by_cases hm : d ∈ S₀.filterMap (matchOf D₀)
        · exact Or.inl hm
        · exact Or.inr ⟨⟨hd, by simpa using hm⟩, hr⟩

/-- **Convergence.**  With no bad endpoint, the backend's endpoints are the desired ones: each
is equal to the desired entry of its key, each desired entry has one, and keys stay unique. -/
theorem update_converges (hbad : bad = []) :
    (∀ e ∈ store', ownedByBackend backend e = true →
      ∃ d ∈ D₀.entries, endpointKey e = some d.1 ∧
        equalAzureTrafficManagerEndpoint e d.2.endpoint = ok true) ∧
    (∀ d ∈ D₀.entries, ∃ e ∈ store', endpointKey e = some d.1 ∧
        equalAzureTrafficManagerEndpoint e d.2.endpoint = ok true) ∧
    KeyedList.KeysNodup endpointKey store' := by
  obtain ⟨s₁, s₂, h₁, h₂, -, hb, rfl⟩ := update_eq_ok_inv hprofile hS₀ hD hdel hret hrun
  set R := range.sigmaEntries s₁.desiredEndpoints with hRdef
  -- no entry was rejected, so every entry left was upserted
  have hnone : ∀ d ∈ R, rejects client d = false := by
    intro d hd
    cases hr : rejects client d
    · rfl
    · unfold rejects at hr
      obtain ⟨e, he, -⟩ := (Option.any_eq_true _ _).mp hr
      have : e ∈ bad := by
        rw [← hb, h₂.bad]
        exact List.mem_filterMap.mpr ⟨d, List.mem_filter.mpr ⟨hd, hr⟩, he⟩
      simp [hbad] at this
  have hall : (R.filter fun d => !rejects client d) = R :=
    List.filter_eq_self.mpr fun d hd => by simp [hnone d hd]
  have hstore : s₂.store = KeyedList.upsertAll endpointKey (R.map fun d => (d.1, d.2.endpoint))
      (S₀.filter fun e => !stale backend D₀ e) := by
    rw [h₂.store, hall, h₁.store_eq]
  -- the entries the second pass visits are those the first pass left
  have hRmem : ∀ {d}, d ∈ R ↔ d ∈ s₁.desiredEndpoints.entries := RangeOrder.mem_sigmaEntries
  have hRwf : ∀ d ∈ R, DesiredEntryWF backend d :=
    fun d hd => hD d (h₁.mem_desired (hRmem.mp hd)).1
  have hkey : ∀ d, DesiredEntryWF backend d → endpointKey d.2.endpoint = some d.1 :=
    fun d hwf => by simp [endpointKey, hwf.name_eq, hwf.lower]
  have hpairs : ∀ q ∈ R.map (fun d => (d.1, d.2.endpoint)), endpointKey q.2 = some q.1 := by
    intro q hq
    obtain ⟨d, hd, rfl⟩ := List.mem_map.mp hq
    exact hkey d (hRwf d hd)
  refine ⟨?_, ?_, ?_⟩
  · intro e he ho
    rw [hstore] at he
    rcases KeyedList.mem_upsertAll he with ⟨q, hq, rfl⟩ | ⟨he₁, hne⟩
    · obtain ⟨d, hd, rfl⟩ := List.mem_map.mp hq
      exact ⟨d, (h₁.mem_desired (hRmem.mp hd)).1, hkey d (hRwf d hd), (hRwf d hd).equal_self⟩
    · -- an endpoint kept from Azure is not stale: its entry was matched in place, by itself
      obtain ⟨he₀, hst⟩ := List.mem_filter.mp he₁
      unfold ownedByBackend at ho
      obtain ⟨k, hk, hok⟩ := (Option.any_eq_true _ _).mp ho
      obtain ⟨d, hl⟩ : ∃ d, D₀.lookup k = some d := by
        cases hl : D₀.lookup k with
        | none => simp [stale, hk, hok, hl] at hst
        | some d => exact ⟨d, rfl⟩
      have hdmem := KeyedList.lookup_eq_some_iff.mp hl
      have hdR : ⟨k, d⟩ ∉ R := fun hdR =>
        hne (k, d.endpoint) (List.mem_map.mpr ⟨_, hdR, rfl⟩) hk
      obtain ⟨x, hx, hxm⟩ := h₁.matched_of_not_mem hdmem (mt hRmem.mpr hdR)
      obtain ⟨-, hxk, hxeq⟩ := matchOf_spec hxm
      have hxe : x = e := hS₀.eq_of_key hx he₀ hxk hk
      subst hxe
      exact ⟨⟨k, d⟩, hdmem, hk, hxeq⟩
  · intro d hd
    by_cases hdR : d ∈ R
    · refine ⟨d.2.endpoint, ?_, hkey d (hRwf d hdR), (hRwf d hdR).equal_self⟩
      rw [hstore]
      have hnd : ((R.map fun d => (d.1, d.2.endpoint)).map Prod.fst).Nodup := by
        rw [List.map_map]
        exact ((RangeOrder.sigmaEntries_perm _).map _).nodup_iff.mpr s₁.desiredEndpoints.keys_nodup
      exact KeyedList.mem_upsertAll_of_mem hnd hpairs (List.mem_map.mpr ⟨d, hdR, rfl⟩)
    · -- the entry was matched in place, and no upsert touches its key
      obtain ⟨x, hx, hxm⟩ := h₁.matched_of_not_mem hd (mt hRmem.mpr hdR)
      obtain ⟨-, hxk, hxeq⟩ := matchOf_spec hxm
      refine ⟨x, ?_, hxk, hxeq⟩
      rw [hstore]
      have hl : D₀.lookup d.1 = some d.2 := KeyedList.lookup_eq_some_iff.mpr hd
      refine KeyedList.mem_upsertAll_of_ne
        (List.mem_filter.mpr ⟨hx, by simp [stale_eq_false_of_lookup hxk hl]⟩) ?_
      intro q hq hxq
      obtain ⟨d', hd', rfl⟩ := List.mem_map.mp hq
      rw [hxk, Option.some.injEq] at hxq
      have : d = d' := D₀.nodupKeys.eq_of_fst_eq hd (h₁.mem_desired (hRmem.mp hd')).1 hxq
      exact hdR (this ▸ hd')
  · rw [hstore]
    exact (hS₀.sublist List.filter_sublist).upsertAll hpairs

end Run

/-- **The endpoint update reconciles the backend's endpoints**, for every endpoint list of the
profile, every desired map `validateAndProcessServiceImportForBackend` can build and every
answer of Azure in which `Delete` removes and `CreateOrUpdate` upserts, and every order in which
the second pass ranges over the map: the endpoints that are not the backend's are untouched;
with no bad endpoint the backend's endpoints are exactly the desired ones, each equal to its
desired endpoint; one status is accepted per desired endpoint that was not rejected; and the
bad-endpoint errors are those of the rejected ones, in the order of the range. -/
theorem updateTrafficManagerEndpoints_correct {range : RangeOrder (List Char) DesiredEndpoint}
    {profile : Profile}
    {accepted : List TrafficManagerEndpointStatus} {bad : List AzureError}
    {store' : EndpointStore} (hb : LowercaseBackend backend)
    (hD : ∀ d ∈ D₀.entries, IsDesiredEntry backend d)
    (hprofile : profile.properties = some ⟨S₀.map some⟩)
    (hS₀ : KeyedList.KeysNodup endpointKey S₀)
    (hdel : ∀ n e, client.deleteError n = some e → e.IsNotFound = false)
    (hret : ∀ e, client.returned e = e)
    (hrun : updateTrafficManagerEndpointsAndUpdateStatusIfUnknown client range backend profile S₀
      D₀ = ok (accepted, bad, store')) :
    store'.filter (fun e => !ownedByBackend backend e) =
        S₀.filter (fun e => !ownedByBackend backend e) ∧
      (bad = [] →
        (∀ e ∈ store', ownedByBackend backend e = true →
          ∃ d ∈ D₀.entries, endpointKey e = some d.1 ∧
            equalAzureTrafficManagerEndpoint e d.2.endpoint = ok true) ∧
        (∀ d ∈ D₀.entries, ∃ e ∈ store', endpointKey e = some d.1 ∧
            equalAzureTrafficManagerEndpoint e d.2.endpoint = ok true) ∧
        KeyedList.KeysNodup endpointKey store') ∧
      (accepted.map statusKey).Perm
        ((D₀.entries.filter fun d => !rejected client S₀ D₀ d).map entryKey) ∧
      bad.Perm ((D₀.entries.filter (rejected client S₀ D₀)).filterMap
        fun d => client.createOrUpdateError d.1) := by
  have hwf : ∀ d ∈ D₀.entries, DesiredEntryWF backend d := fun d hd => (hD d hd).wf hb
  exact ⟨update_frame hprofile hS₀ hwf hdel hret hrun,
    fun hbad => update_converges hprofile hS₀ hwf hdel hret hrun hbad,
    update_accepted_perm hprofile hS₀ hwf hdel hret hrun,
    update_bad_eq hprofile hS₀ hwf hdel hret hrun⟩

theorem updateTrafficManagerEndpoints_correct_run :
    LowercaseBackend runBackend ∧
    (∀ d ∈ runDesiredEndpoints.entries, IsDesiredEntry runBackend d) ∧
    KeyedList.KeysNodup endpointKey runStore ∧
    updateTrafficManagerEndpointsAndUpdateStatusIfUnknown runClient .byKeys runBackend runProfile
      runStore runDesiredEndpoints = ok ([runAccepted], [], [runForeign, runDesired.endpoint]) ∧
    ([runForeign, runDesired.endpoint].filter (fun e => !ownedByBackend runBackend e) =
        runStore.filter (fun e => !ownedByBackend runBackend e) ∧
      (([] : List AzureError) = [] →
        (∀ e ∈ [runForeign, runDesired.endpoint], ownedByBackend runBackend e = true →
          ∃ d ∈ runDesiredEndpoints.entries, endpointKey e = some d.1 ∧
            equalAzureTrafficManagerEndpoint e d.2.endpoint = ok true) ∧
        (∀ d ∈ runDesiredEndpoints.entries, ∃ e ∈ [runForeign, runDesired.endpoint],
          endpointKey e = some d.1 ∧ equalAzureTrafficManagerEndpoint e d.2.endpoint = ok true) ∧
        KeyedList.KeysNodup endpointKey [runForeign, runDesired.endpoint]) ∧
      ([runAccepted].map statusKey).Perm
        ((runDesiredEndpoints.entries.filter
          fun d => !rejected runClient runStore runDesiredEndpoints d).map entryKey) ∧
      ([] : List AzureError).Perm ((runDesiredEndpoints.entries.filter
        (rejected runClient runStore runDesiredEndpoints)).filterMap
          fun d => runClient.createOrUpdateError d.1)) := by
  have hS₀ : KeyedList.KeysNodup endpointKey runStore := by decide
  exact ⟨runBackend_lowercase, runDesired_isDesired, hS₀, runUpdate_eq,
    updateTrafficManagerEndpoints_correct runBackend_lowercase runDesired_isDesired rfl hS₀
      (fun _ _ h => by cases h) (fun _ => rfl) runUpdate_eq⟩

end Update

end FleetNet
