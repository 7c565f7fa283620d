import FleetNetworking.TrafficManager.Backend
import FleetNetworking.Lib.Apportion

/-!
# The desired endpoints of a backend

`validateAndProcessServiceImportForBackend` turns the clusters a ServiceImport lists into the
endpoints the backend wants in its Traffic Manager profile.  It looks up each cluster's
InternalServiceExport; an export that `isValidTrafficManagerEndpoint` rejects is recorded as an
invalid service, and a valid one gets an endpoint named after its cluster, whose weight is added
to the total.  A second loop then gives every endpoint its share of the backend's weight,
`math.Ceil(float64(bw * w) / float64(totalWeight))`.  That loop writes through the endpoint's
`Properties` pointer, which the copy `dp` shares with the map's entry, so the map gets the
share; `FromCluster.Weight` keeps the pointer it was given, the export's weight.

The float computation is the exact ceiling `Apportion.ceilShare`: the quotient is at most the
backend's weight, at most 1000, and when it exceeds one the total weight is below `bw * w`, at
most 10⁶, so the quotient's distance to the integer below it, at least `1/totalWeight`, exceeds
the rounding error of a float64 quotient below 1000, which is below 2⁻⁴³.

`validateAndProcess_desired`: for distinct clusters, each with an export whose weight is unset
or in `[1, 1000]`, and a backend weight in `[1, 1000]`, the result has one endpoint per valid
cluster and nothing else, each with the share of its weight; the shares lie in `[1, bw]` and add
up to between `bw` and `bw + n - 1`.  The member controllers keep every stored weight in that
range, which `ExportWeight.validateAndProcess_desired_of_reachable` uses in place of the
assumption.

The Unknown conditions the function sets on the backend's status are left out; the status
update is the API call `statusUpdate`.
-/

namespace FleetNet.BackendController

open Go Result Apportion

/-- `corev1.ServiceType`. -/
inductive ServiceType where
  | ClusterIP
  | NodePort
  | LoadBalancer
  | ExternalName
  /-- `""`, the zero value: the type of an export written with the traffic-manager feature off -/
  | unset
  deriving DecidableEq, Repr

/-- An `InternalServiceExport` as the backend controller reads it: the Spec fields an endpoint is
made from, and those `isValidTrafficManagerEndpoint` checks. -/
structure InternalServiceExport where
  spec : InternalServiceExportSpec
  type : ServiceType
  isInternalLoadBalancer : Bool
  isDNSLabelConfigured : Bool
  deriving DecidableEq, Repr

/-- The errors of `isValidTrafficManagerEndpoint`. -/
inductive InvalidServiceError where
  /-- `unsupported service type %q` -/
  | unsupportedServiceType (type : ServiceType)
  /-- `internal load balancer is not supported` -/
  | internalLoadBalancer
  /-- `in the processing of configuring public IP` -/
  | publicIPPending
  /-- `DNS label is not configured to the public IP` -/
  | dnsLabelNotConfigured
  deriving DecidableEq, Repr

/-- `isValidTrafficManagerEndpoint`; `none` is a nil error. -/
def isValidTrafficManagerEndpoint (internalServiceExport : InternalServiceExport) :
    Option InvalidServiceError :=
  if internalServiceExport.type ≠ .LoadBalancer then
    some (.unsupportedServiceType internalServiceExport.type)
  else if internalServiceExport.isInternalLoadBalancer then some .internalLoadBalancer
  else if internalServiceExport.spec.publicIPResourceID.isNone then some .publicIPPending
  else if !internalServiceExport.isDNSLabelConfigured then some .dnsLabelNotConfigured
  else none

/-- Why the function leaves the backend Unknown and returns no maps. -/
inductive UnknownReason where
  /-- `In the process of exporting the services` -/
  | noClusters
  /-- `Failed to find the exported service %q for %q: %v` -/
  | exportNotFound (cluster : List Char)
  deriving DecidableEq, Repr

/-- What `validateAndProcessServiceImportForBackend` returns with a nil error. -/
inductive ProcessResult where
  /-- the desired endpoints, by name, and the invalid services, by cluster -/
  | processed (desired : AList fun _ : List Char => DesiredEndpoint)
      (invalid : AList fun _ : List Char => InvalidServiceError)
  | unknown (reason : UnknownReason)

/-- `internalServiceExportMap`: the listed exports by cluster ID, a later one replacing an
earlier one of the same cluster. -/
def exportMap (items : List InternalServiceExport) :
    AList fun _ : List Char => InternalServiceExport :=
  items.foldl (fun m internalServiceExport =>
    m.insert internalServiceExport.spec.clusterID internalServiceExport) ∅

/-- The loop over the clusters: the maps so far and the total weight. -/
structure ClusterPass where
  desired : AList fun _ : List Char => DesiredEndpoint
  invalid : AList fun _ : List Char => InvalidServiceError
  totalWeight : ℤ

/-- One cluster of the ServiceImport; a cluster with no export ends the loop, with the cluster
as the error. -/
def processCluster (backend : TrafficManagerBackend)
    (exports : AList fun _ : List Char => InternalServiceExport) (s : ClusterPass)
    (cluster : List Char) : Result (List Char) ClusterPass :=
  match exports.lookup cluster with
  | none => err cluster
  | some internalServiceExport =>
    match isValidTrafficManagerEndpoint internalServiceExport with
    | some invalidErr => pure { s with invalid := s.invalid.insert cluster invalidErr }
    | none => do
      let endpoint := generateAzureTrafficManagerEndpoint backend internalServiceExport.spec
      let name ← deref endpoint.name
      let properties ← deref endpoint.properties
      let weight ← deref properties.weight
      pure { s with
        desired := s.desired.insert name ⟨endpoint, ⟨cluster, properties.weight⟩⟩
        totalWeight := s.totalWeight + weight }

/-- One turn of `for _, dp := range desiredEndpoints`: the endpoint gets its share of the
backend's weight. -/
def setDesiredWeight {ε : Type} (backendWeight : Option ℤ) (totalWeight : ℤ)
    (desired : AList fun _ : List Char => DesiredEndpoint) (entry : Σ _ : List Char, DesiredEndpoint) :
    Result ε (AList fun _ : List Char => DesiredEndpoint) := do
  let bw ← deref backendWeight
  let properties ← deref entry.2.endpoint.properties
  let w ← deref properties.weight
  pure (desired.insert entry.1
    { entry.2 with endpoint := entry.2.endpoint.setWeight (ceilShare bw w totalWeight) })

/-- `validateAndProcessServiceImportForBackend`, for the ServiceImport's `Status.Clusters`, the
answer `listed` of the List call for its exports and `statusUpdate` the error of the backend's
status update. -/
def validateAndProcessServiceImportForBackend {ε : Type} (backend : TrafficManagerBackend)
    (backendWeight : Option ℤ) (clusters : List (List Char))
    (listed : Except ε (List InternalServiceExport)) (statusUpdate : Option ε) :
    Result ε ProcessResult :=
  if clusters = [] then do
    fromError statusUpdate
    pure (.unknown .noClusters)
  else
    match listed with
    | .error listErr => do
      fromError statusUpdate
      err listErr
    | .ok items =>
      match clusters.foldlM (processCluster backend (exportMap items)) ⟨∅, ∅, 0⟩ with
      | .err cluster => do
        fromError statusUpdate
        pure (.unknown (.exportNotFound cluster))
      | .panic => .panic
      | .ok s => do
        let desired ← s.desired.entries.foldlM (setDesiredWeight backendWeight s.totalWeight)
          s.desired
        pure (.processed desired s.invalid)

/-! ## What the result should be -/

/-- The weight of the endpoint generated for an export: the export's own, 1 when unset. -/
def exportWeight (internalServiceExport : InternalServiceExport) : ℤ :=
  internalServiceExport.spec.weight.getD 1

/-- `fleet-<UID>#<backend name>#<cluster ID>`, the name of the endpoint of a cluster. -/
def endpointNameFor (backend : TrafficManagerBackend) (clusterID : List Char) : List Char :=
  generateAzureTrafficManagerEndpointNamePrefix backend ++ backend.backendName ++ '#' :: clusterID

/-- The clusters, in order, whose export passes `isValidTrafficManagerEndpoint`, with it. -/
def validExports (exports : AList fun _ : List Char => InternalServiceExport)
    (clusters : List (List Char)) : List (List Char × InternalServiceExport) :=
  clusters.filterMap fun c =>
    ((exports.lookup c).filter fun e => (isValidTrafficManagerEndpoint e).isNone).map (c, ·)

/-- The clusters whose export is rejected, with the error. -/
def invalidExports (exports : AList fun _ : List Char => InternalServiceExport)
    (clusters : List (List Char)) : List (Σ _ : List Char, InvalidServiceError) :=
  clusters.filterMap fun c =>
    (exports.lookup c).bind fun e => (isValidTrafficManagerEndpoint e).map (⟨c, ·⟩)

/-- The total weight of the valid exports. -/
def validTotalWeight (exports : AList fun _ : List Char => InternalServiceExport)
    (clusters : List (List Char)) : ℤ :=
  ((validExports exports clusters).map fun p => exportWeight p.2).sum

/-- The desired endpoint of a valid cluster, before its weight is set. -/
def generatedEntry (backend : TrafficManagerBackend) (p : List Char × InternalServiceExport) :
    Σ _ : List Char, DesiredEndpoint :=
  ⟨endpointNameFor backend p.1,
    ⟨generateAzureTrafficManagerEndpoint backend p.2.spec, ⟨p.1, some (exportWeight p.2)⟩⟩⟩

/-- The desired endpoint of a valid cluster, with its share `ceilShare bw w W` of the backend's
weight; `FromCluster` keeps the export's weight. -/
def shareEntry (backend : TrafficManagerBackend) (bw W : ℤ) (p : List Char × InternalServiceExport) :
    Σ _ : List Char, DesiredEndpoint :=
  ⟨endpointNameFor backend p.1,
    ⟨(generateAzureTrafficManagerEndpoint backend p.2.spec).setWeight
      (ceilShare bw (exportWeight p.2) W), ⟨p.1, some (exportWeight p.2)⟩⟩⟩

/-- The weight an endpoint carries, 0 when it has none. -/
def endpointWeight (d : DesiredEndpoint) : ℤ := (d.endpoint.properties.bind (·.weight)).getD 0

/-! ## Lemmas -/

section Lemmas

variable {backend : TrafficManagerBackend} {spec : InternalServiceExportSpec}

@[simp] lemma generateAzureTrafficManagerEndpoint_name :
    (generateAzureTrafficManagerEndpoint backend spec).name =
      some (endpointNameFor backend spec.clusterID) := rfl

@[simp] lemma generateAzureTrafficManagerEndpoint_properties :
    (generateAzureTrafficManagerEndpoint backend spec).properties =
      some ⟨spec.publicIPResourceID, some .Enabled, some (spec.weight.getD 1), none⟩ := by
  cases h : spec.weight <;> simp [generateAzureTrafficManagerEndpoint, h]

lemma endpointNameFor_injective : Function.Injective (endpointNameFor backend) := by
  intro c c' h
  simpa [endpointNameFor] using h

variable {items : List InternalServiceExport} {c : List Char} {e : InternalServiceExport}

/-- The export the map keeps for a cluster is one of the listed exports of that cluster. -/
lemma lookup_exportMap (h : (exportMap items).lookup c = some e) :
    e ∈ items ∧ e.spec.clusterID = c := by
  suffices key : ∀ (l : List InternalServiceExport) (m : AList fun _ : List Char => InternalServiceExport),
      (l.foldl (fun m x => m.insert x.spec.clusterID x) m).lookup c = some e →
        m.lookup c = some e ∨ (e ∈ l ∧ e.spec.clusterID = c) by
    rcases key items ∅ h with h | h
    · simp at h
    · exact h
  intro l
  induction l with
  | nil => exact fun _ h => .inl h
  | cons x xs ih =>
    intro m h
    rcases ih _ h with h' | ⟨hmem, hid⟩
    · by_cases hc : c = x.spec.clusterID
      · subst hc
        rw [AList.lookup_insert, Option.some_inj] at h'
        subst h'
        exact .inr ⟨List.mem_cons_self, rfl⟩
      · rw [AList.lookup_insert_ne hc] at h'
        exact .inl h'
    · exact .inr ⟨List.mem_cons_of_mem _ hmem, hid⟩

/-- A cluster with a listed export has one in the map. -/
lemma isSome_lookup_exportMap (h : ∃ e ∈ items, e.spec.clusterID = c) :
    ((exportMap items).lookup c).isSome := by
  suffices key : ∀ (l : List InternalServiceExport) (m : AList fun _ : List Char => InternalServiceExport),
      ((m.lookup c).isSome ∨ ∃ e ∈ l, e.spec.clusterID = c) →
        ((l.foldl (fun m x => m.insert x.spec.clusterID x) m).lookup c).isSome from
    key items ∅ (.inr h)
  intro l
  induction l with
  | nil => intro m h; simpa using h
  | cons x xs ih =>
    intro m h
    apply ih
    by_cases hc : c = x.spec.clusterID
    · subst hc
      exact .inl (by simp)
    · rw [AList.lookup_insert_ne hc]
      rcases h with h | ⟨e, he, hid⟩
      · exact .inl h
      · rcases List.mem_cons.mp he with rfl | he
        · exact absurd hid.symm hc
        · exact .inr ⟨e, he, hid⟩

variable {exports : AList fun _ : List Char => InternalServiceExport} {pre : List (List Char)}
  {p : List Char × InternalServiceExport}

lemma mem_validExports :
    p ∈ validExports exports pre ↔
      p.1 ∈ pre ∧ exports.lookup p.1 = some p.2 ∧ isValidTrafficManagerEndpoint p.2 = none := by
  obtain ⟨c, e⟩ := p
  simp only [validExports, List.mem_filterMap, Option.map_eq_some_iff, Prod.mk.injEq]
  constructor
  · rintro ⟨c', hc', e', he', rfl, rfl⟩
    obtain ⟨hl, hv⟩ := Option.filter_eq_some_iff.mp he'
    exact ⟨hc', hl, by simpa using hv⟩
  · rintro ⟨hc, hl, hv⟩
    exact ⟨c, hc, e, Option.filter_eq_some_iff.mpr ⟨hl, by simp [hv]⟩, rfl, rfl⟩

lemma mem_invalidExports_fst {x : Σ _ : List Char, InvalidServiceError}
    (h : x ∈ invalidExports exports pre) : x.1 ∈ pre := by
  simp only [invalidExports, List.mem_filterMap, Option.bind_eq_some_iff,
    Option.map_eq_some_iff] at h
  obtain ⟨c, hc, e, -, err, -, rfl⟩ := h
  exact hc

/-- One more cluster, with its export. -/
lemma validExports_concat (he : exports.lookup c = some e) :
    validExports exports (pre ++ [c]) =
      validExports exports pre ++
        if (isValidTrafficManagerEndpoint e).isNone then [(c, e)] else [] := by
  rw [validExports, List.filterMap_append, ← validExports]
  congr 1
  cases hv : isValidTrafficManagerEndpoint e <;> simp [he, hv]

lemma invalidExports_concat (he : exports.lookup c = some e) :
    invalidExports exports (pre ++ [c]) =
      invalidExports exports pre ++ ((isValidTrafficManagerEndpoint e).map (⟨c, ·⟩)).toList := by
  rw [invalidExports, List.filterMap_append, ← invalidExports]
  congr 1
  cases hv : isValidTrafficManagerEndpoint e <;> simp [he, hv]

end Lemmas

/-! ## The loop over the clusters -/

section ClusterLoop

variable {backend : TrafficManagerBackend} {exports : AList fun _ : List Char => InternalServiceExport}
  {pre : List (List Char)} {s : ClusterPass} {c : List Char} {e : InternalServiceExport}

/-- After the loop has seen `pre`: the desired endpoints of its valid clusters and the invalid
services of the others, the latest first, and the total weight of the valid ones. -/
structure ClusterPassInv (backend : TrafficManagerBackend)
    (exports : AList fun _ : List Char => InternalServiceExport) (pre : List (List Char))
    (s : ClusterPass) : Prop where
  desired : s.desired.entries = ((validExports exports pre).map (generatedEntry backend)).reverse
  invalid : s.invalid.entries = (invalidExports exports pre).reverse
  totalWeight : s.totalWeight = validTotalWeight exports pre

lemma ClusterPassInv.init : ClusterPassInv backend exports [] ⟨∅, ∅, 0⟩ := ⟨rfl, rfl, rfl⟩

/-- A cluster not seen yet, whose export is of its own cluster, is processed and keeps the
invariant. -/
lemma ClusterPassInv.step (hI : ClusterPassInv backend exports pre s) (hc : c ∉ pre)
    (he : exports.lookup c = some e) (hid : e.spec.clusterID = c) :
    ∃ s', processCluster backend exports s c = ok s' ∧
      ClusterPassInv backend exports (pre ++ [c]) s' := by
  cases hv : isValidTrafficManagerEndpoint e with
  | some invalidErr =>
    -- rejected: the cluster joins the invalid services, which hold only clusters seen
    have hfresh : c ∉ s.invalid := by
      intro hmem
      rw [AList.mem_keys, AList.keys, hI.invalid, List.keys, List.map_reverse,
        List.mem_reverse, List.mem_map] at hmem
      obtain ⟨x, hx, rfl⟩ := hmem
      exact hc (mem_invalidExports_fst hx)
    refine ⟨{ s with invalid := s.invalid.insert c invalidErr },
      by simp [processCluster, he, hv], ⟨?_, ?_, ?_⟩⟩
    · simp [hI.desired, validExports_concat he, hv]
    · rw [AList.entries_insert_of_notMem hfresh, hI.invalid, invalidExports_concat he, hv]
      simp
    · simp [hI.totalWeight, validTotalWeight, validExports_concat he, hv]
  | none =>
    -- valid: its endpoint is named after the cluster, a name no cluster seen has
    have hfresh : endpointNameFor backend c ∉ s.desired := by
      intro hmem
      rw [AList.mem_keys, AList.keys, hI.desired, List.keys, List.map_reverse,
        List.mem_reverse, List.map_map, List.mem_map] at hmem
      obtain ⟨p, hp, hpc⟩ := hmem
      have hpc' : p.1 = c := endpointNameFor_injective hpc
      exact hc (hpc' ▸ (mem_validExports.mp hp).1)
    refine ⟨{ s with
        desired := s.desired.insert (endpointNameFor backend c)
          ⟨generateAzureTrafficManagerEndpoint backend e.spec, ⟨c, some (exportWeight e)⟩⟩
        totalWeight := s.totalWeight + exportWeight e },
      by simp [processCluster, he, hv, hid, exportWeight], ⟨?_, ?_, ?_⟩⟩
    · rw [AList.entries_insert_of_notMem hfresh, hI.desired, validExports_concat he, hv]
      simp [generatedEntry]
    · simp [hI.invalid, invalidExports_concat he, hv]
    · simp [hI.totalWeight, validTotalWeight, validExports_concat he, hv]

/-- **The loop over the clusters.**  Over distinct clusters, each with an export of its own
cluster, the loop returns with the desired endpoints of the valid clusters, the invalid services
of the others and the total weight of the valid ones. -/
lemma processClusters_eq_ok {clusters : List (List Char)} (hnd : clusters.Nodup)
    (hcover : ∀ c ∈ clusters, ∃ e, exports.lookup c = some e)
    (hid : ∀ c e, exports.lookup c = some e → e.spec.clusterID = c) :
    ∃ s, clusters.foldlM (processCluster backend exports) ⟨∅, ∅, 0⟩ = ok s ∧
      ClusterPassInv backend exports clusters s :=
  Result.foldlM_progress (ClusterPassInv backend exports) ClusterPassInv.init
    fun pre c suf s hxs hI => by
      obtain ⟨e, he⟩ := hcover c (by simp [hxs])
      have hc : c ∉ pre := by
        rw [hxs] at hnd
        exact fun hmem => (List.nodup_append.mp hnd).2.2 c hmem c List.mem_cons_self rfl
      exact hI.step hc he (hid c e he)

end ClusterLoop

/-! ## The loop over the desired endpoints -/

/-- An endpoint with its share of the backend's weight `bw` out of the total `W`. -/
def withShare (bw W : ℤ) (d : DesiredEndpoint) : DesiredEndpoint :=
  { d with endpoint := d.endpoint.setWeight (ceilShare bw (endpointWeight d) W) }

section ShareLoop

variable {ε : Type} {bw W : ℤ} {m₀ m : AList fun _ : List Char => DesiredEndpoint}
  {pre : List (Σ _ : List Char, DesiredEndpoint)} {x : Σ _ : List Char, DesiredEndpoint}

/-- After the loop has seen `pre`, the endpoints of `pre` have their share and the others are
as they were in `m₀`. -/
def ShareInv (bw W : ℤ) (m₀ : AList fun _ : List Char => DesiredEndpoint)
    (pre : List (Σ _ : List Char, DesiredEndpoint))
    (m : AList fun _ : List Char => DesiredEndpoint) : Prop :=
  ∀ k, m.lookup k = (m₀.lookup k).map fun d => if k ∈ pre.keys then withShare bw W d else d

lemma ShareInv.init : ShareInv bw W m₀ [] m₀ := by
  intro k
  simp

/-- An endpoint of `m₀` not seen yet, with a weight, gets its share. -/
lemma ShareInv.step (hI : ShareInv bw W m₀ pre m) (hx : x ∈ m₀.entries) (hfresh : x.1 ∉ pre.keys)
    (hw : (x.2.endpoint.properties.bind (·.weight)).isSome) :
    ∃ m', setDesiredWeight (ε := ε) (some bw) W m x = ok m' ∧ ShareInv bw W m₀ (pre ++ [x]) m' := by
  obtain ⟨k, d⟩ := x
  obtain ⟨props, hprops, w, hpw⟩ : ∃ props, d.endpoint.properties = some props ∧
      ∃ w, props.weight = some w := by
    cases hp : d.endpoint.properties with
    | none => simp [hp] at hw
    | some props => exact ⟨props, rfl, Option.isSome_iff_exists.mp (by simpa [hp] using hw)⟩
  have hd : endpointWeight d = w := by simp [endpointWeight, hprops, hpw]
  have hlookup : m₀.lookup k = some d := AList.mem_lookup_iff.mpr hx
  refine ⟨m.insert k (withShare bw W d), by simp [setDesiredWeight, hprops, hpw, withShare, hd], ?_⟩
  intro k'
  by_cases hk : k' = k
  · subst hk
    simp [hlookup]
  · have hkeys : k' ∈ (pre ++ [(⟨k, d⟩ : Σ _ : List Char, DesiredEndpoint)]).keys ↔
        k' ∈ pre.keys := by
      simp [List.keys, hk]
    rw [AList.lookup_insert_ne hk, hI k']
    simp only [hkeys]

/-- **The loop over the desired endpoints.**  When the backend has a weight and every endpoint
of `m₀` has one, the loop returns `m₀` with every endpoint given its share. -/
lemma setDesiredWeights_eq_ok (hw : ∀ x ∈ m₀.entries, (x.2.endpoint.properties.bind (·.weight)).isSome) :
    ∃ m, m₀.entries.foldlM (setDesiredWeight (ε := ε) (some bw) W) m₀ = ok m ∧
      ∀ k, m.lookup k = (m₀.lookup k).map (withShare bw W) := by
  obtain ⟨m, hrun, hI⟩ : ∃ m, m₀.entries.foldlM (setDesiredWeight (ε := ε) (some bw) W) m₀ = ok m ∧
      ShareInv bw W m₀ m₀.entries m := Result.foldlM_progress (ShareInv bw W m₀) ShareInv.init
    fun pre x suf m hxs hI => by
      have hx : x ∈ m₀.entries := by simp [hxs]
      have hfresh : x.1 ∉ pre.keys := by
        have hnd := m₀.nodupKeys
        rw [List.NodupKeys, hxs, List.keys, List.map_append, List.nodup_append] at hnd
        exact fun hmem => hnd.2.2 _ hmem _ List.mem_cons_self rfl
      exact hI.step hx hfresh (hw x hx)
  refine ⟨m, hrun, fun k => ?_⟩
  rw [hI k]
  cases hk : m₀.lookup k with
  | none => rfl
  | some d =>
    have hmem : k ∈ m₀.entries.keys := (AList.lookup_isSome.mp (by simp [hk]) : k ∈ m₀)
    simp [hmem]

/-- The map the loop returns holds the shared endpoints of `m₀`'s entries. -/
lemma entries_perm_of_lookup (h : ∀ k, m.lookup k = (m₀.lookup k).map (withShare bw W)) :
    m.entries.Perm (m₀.entries.map (Sigma.map id fun _ => withShare bw W)) := by
  refine List.lookup_ext m.nodupKeys (m₀.nodupKeys.map₂ _) fun k d => ?_
  rw [List.dlookup_map₂]
  exact Iff.of_eq (congrArg (d ∈ ·) (h k))

end ShareLoop

/-! ## The desired endpoints -/

section Desired

variable {backend : TrafficManagerBackend} {bw W : ℤ} {p : List Char × InternalServiceExport}
  {items : List InternalServiceExport} {clusters : List (List Char)}

lemma withShare_generatedEntry :
    Sigma.map id (fun _ => withShare bw W) (generatedEntry backend p) = shareEntry backend bw W p := by
  simp [generatedEntry, shareEntry, withShare, endpointWeight, exportWeight, Sigma.map]

@[simp] lemma endpointWeight_shareEntry :
    endpointWeight (shareEntry backend bw W p).2 = ceilShare bw (exportWeight p.2) W := by
  simp [shareEntry, endpointWeight, Endpoint.setWeight]

lemma isSome_weight_generatedEntry :
    ((generatedEntry backend p).2.endpoint.properties.bind (·.weight)).isSome := by
  simp [generatedEntry]

/-- The valid exports are listed exports, so their weights are those of the listed ones. -/
lemma exportWeight_mem_Icc (hweight : ∀ e ∈ items, ∀ w, e.spec.weight = some w → 1 ≤ w ∧ w ≤ 1000)
    (hp : p ∈ validExports (exportMap items) clusters) :
    1 ≤ exportWeight p.2 ∧ exportWeight p.2 ≤ 1000 := by
  have hmem := (lookup_exportMap (mem_validExports.mp hp).2.1).1
  cases hw : p.2.spec.weight with
  | none => simp [exportWeight, hw]
  | some w => simpa [exportWeight, hw] using hweight _ hmem w hw

/-- With positive weights, the total is positive once there is a valid export, and it bounds
each weight. -/
lemma exportWeight_le_validTotalWeight (hpos : ∀ q ∈ validExports (exportMap items) clusters,
      0 < exportWeight q.2) (hp : p ∈ validExports (exportMap items) clusters) :
    0 < validTotalWeight (exportMap items) clusters ∧
      exportWeight p.2 ≤ validTotalWeight (exportMap items) clusters := by
  have hle : exportWeight p.2 ≤ validTotalWeight (exportMap items) clusters :=
    List.single_le_sum (fun w hw => by
      obtain ⟨q, hq, rfl⟩ := List.mem_map.mp hw
      exact (hpos q hq).le) _ (List.mem_map_of_mem hp)
  exact ⟨lt_of_lt_of_le (hpos p hp) hle, hle⟩

/-- **The desired endpoints.**  For a backend weight in `[1, 1000]`, distinct clusters each with
a listed export, and listed weights unset or in `[1, 1000]`: the function returns one endpoint
per valid cluster, with its share of the backend's weight out of the total of the valid
exports and `FromCluster` the export's weight, and the invalid services of the others.  The
total is positive once there is an endpoint, each share lies in `[1, bw]`, and the shares add up
to between `bw` and `bw + n - 1`. -/
theorem validateAndProcess_desired {ε : Type} (backend : TrafficManagerBackend) (bw : ℤ)
    (clusters : List (List Char)) (items : List InternalServiceExport) (statusUpdate : Option ε)
    (hbw : 1 ≤ bw ∧ bw ≤ 1000) (hne : clusters ≠ []) (hnd : clusters.Nodup)
    (hcover : ∀ c ∈ clusters, ∃ e ∈ items, e.spec.clusterID = c)
    (hweight : ∀ e ∈ items, ∀ w, e.spec.weight = some w → 1 ≤ w ∧ w ≤ 1000) :
    ∃ desired invalid,
      validateAndProcessServiceImportForBackend backend (some bw) clusters (.ok items)
          statusUpdate = ok (.processed desired invalid) ∧
        desired.entries.Perm ((validExports (exportMap items) clusters).map
          (shareEntry backend bw (validTotalWeight (exportMap items) clusters))) ∧
        invalid.entries = (invalidExports (exportMap items) clusters).reverse ∧
        (desired.entries ≠ [] → 0 < validTotalWeight (exportMap items) clusters) ∧
        (∀ x ∈ desired.entries, 1 ≤ endpointWeight x.2 ∧ endpointWeight x.2 ≤ bw) ∧
        (desired.entries ≠ [] → bw ≤ (desired.entries.map (endpointWeight ·.2)).sum ∧
          (desired.entries.map (endpointWeight ·.2)).sum ≤ bw + desired.entries.length - 1) := by
  set V := validExports (exportMap items) clusters with hV
  set W := validTotalWeight (exportMap items) clusters with hW
  obtain ⟨s, hrun, hI⟩ : ∃ s, clusters.foldlM (processCluster backend (exportMap items))
      ⟨∅, ∅, 0⟩ = ok s ∧ ClusterPassInv backend (exportMap items) clusters s :=
    processClusters_eq_ok hnd
    (fun c hc => Option.isSome_iff_exists.mp (isSome_lookup_exportMap (hcover c hc)))
    (fun c e he => (lookup_exportMap he).2)
  have hgen : ∀ x ∈ s.desired.entries, ∃ q ∈ V, x = generatedEntry backend q := by
    intro x hx
    rw [hI.desired, List.mem_reverse, List.mem_map] at hx
    obtain ⟨q, hq, rfl⟩ := hx
    exact ⟨q, hq, rfl⟩
  obtain ⟨desired, hshare, hlookup⟩ : ∃ m, s.desired.entries.foldlM
      (setDesiredWeight (ε := ε) (some bw) s.totalWeight) s.desired = ok m ∧
      ∀ k, m.lookup k = (s.desired.lookup k).map (withShare bw s.totalWeight) :=
    setDesiredWeights_eq_ok fun x hx => by
      obtain ⟨q, -, rfl⟩ := hgen x hx
      exact isSome_weight_generatedEntry
  rw [hI.totalWeight] at hlookup
  have hperm : desired.entries.Perm (V.map (shareEntry backend bw W)) := by
    have h := entries_perm_of_lookup hlookup
    rw [hI.desired, List.map_reverse, List.map_map] at h
    simp only [Function.comp_def, withShare_generatedEntry] at h
    exact h.trans (List.reverse_perm _)
  have hpos : ∀ q ∈ V, 0 < exportWeight q.2 := fun q hq =>
    lt_of_lt_of_le one_pos (exportWeight_mem_Icc hweight hq).1
  have hmemV : ∀ x ∈ desired.entries, ∃ q ∈ V, x = shareEntry backend bw W q := by
    intro x hx
    obtain ⟨q, hq, rfl⟩ := List.mem_map.mp (hperm.subset hx)
    exact ⟨q, hq, rfl⟩
  -- the weights, added up over the valid exports
  have hsum : (desired.entries.map (endpointWeight ·.2)).sum =
      (V.map fun q => ceilShare bw (exportWeight q.2) W).sum := by
    rw [(hperm.map _).sum_eq, List.map_map]
    simp [Function.comp_def]
  refine ⟨desired, s.invalid, ?_, hperm, hI.invalid, ?_, ?_, ?_⟩
  · simp [validateAndProcessServiceImportForBackend, hne, hrun, hshare]
  · intro hne'
    obtain ⟨q, hq, -⟩ := hmemV _ (List.head_mem hne')
    exact (exportWeight_le_validTotalWeight hpos hq).1
  · intro x hx
    obtain ⟨q, hq, rfl⟩ := hmemV x hx
    obtain ⟨hWpos, hle⟩ := exportWeight_le_validTotalWeight hpos hq
    rw [endpointWeight_shareEntry]
    exact ⟨one_le_ceilShare (by omega) (hpos q hq) hWpos, ceilShare_le (by omega) hle hWpos⟩
  · intro hne'
    obtain ⟨q, hq, -⟩ := hmemV _ (List.head_mem hne')
    have hWpos := (exportWeight_le_validTotalWeight hpos hq).1
    have hlow := le_sum_ceilShare (b := bw) (W := W) V (fun q => exportWeight q.2) rfl hWpos
    have hhigh := sum_ceilShare_lt (b := bw) (W := W) V (fun q => exportWeight q.2) rfl hWpos
    have hlen : desired.entries.length = V.length := by simpa using hperm.length_eq
    rw [hsum, hlen]
    omega

/-- The split of the documentation: 500 over weights 100 and 200 gives 167 and 334. -/
example : ceilShare 500 100 300 = 167 ∧ ceilShare 500 200 300 = 334 := by
  norm_num [ceilShare, Int.ceil_eq_iff]

end Desired

end FleetNet.BackendController
