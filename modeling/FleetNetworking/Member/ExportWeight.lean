import FleetNetworking.Member.HubNames
import FleetNetworking.TrafficManager.DesiredEndpoints
import FleetNetworking.Lib.ObjectStore

/-!
# The weight of an exported Service

The Traffic Manager backend controller divides a backend's weight among the exports of a
Service in proportion to their `Spec.Weight`, and its result (`validateAndProcess_desired`) asks
that every such weight be unset or in `[1, 1000]`.  The member ServiceExport controller is the one
writer of that field, and this file shows that it never writes anything else:

* `ExtractWeightFromServiceExport` parses the weight annotation with `strconv.Atoi` and accepts
  `[0, 1000]` only; each of its errors names the annotation's text
  (`ExtractWeightFromServiceExport_eq_error`);
* `Reconcile` unexports the Service on weight 0, and otherwise `exportService` sets
  `Spec.Weight = ptr.To(exportWeight)`, which `setAzureRelatedInformation` does not touch
  (`setAzureRelatedInformation_frame`);
* so every reconcile of every member keeps the hub's weights in range
  (`HubWeightsInRange.Reconcile`), and so does every run of the fleet (`weightsInRange_of_reachable`);
* `validateAndProcess_desired_of_reachable` is then the backend's result for exports read from any
  reachable hub, with no assumption on their weights.

The member-side effects of `Reconcile` (the finalizer, the status conditions, events and the
last-seen annotations) are the branch it takes, `ReconcileOutcome`, and the member's API calls
succeed.  The hub's own writes to an InternalServiceExport, its status and finalizer, touch none
of the fields modelled here.
-/

namespace FleetNet.ExportWeight

open Go Result BackendController ObjectStore

/-! ## The weight annotation -/

/-- The sign `strconv.Atoi` reads off the front of its input: whether it is negative, and the
rest. -/
def splitSign : List Char → Bool × List Char
  | '+' :: ds => (false, ds)
  | '-' :: ds => (true, ds)
  | ds => (false, ds)

/-- The value of a string of decimal digits, accumulated as `strconv` does, `n*10 + d`. -/
def decimalValue (ds : List Char) : ℕ :=
  ds.foldl (fun n d => n * 10 + (d.toNat - '0'.toNat)) 0

/-- `strconv.Atoi` on a 64-bit platform: an optional sign, then one or more decimal digits, of a
value that fits `int64`.  A syntax or range error is `none`. -/
def Atoi (s : List Char) : Option ℤ :=
  let (neg, ds) := splitSign s
  if ds = [] ∨ ds.any (fun d => !d.isDigit) then none
  else
    let n : ℤ := if neg then -(decimalValue ds : ℤ) else decimalValue ds
    if n < -2 ^ 63 ∨ 2 ^ 63 - 1 < n then none else some n

/-- `ExtractWeightFromServiceExport`, over the value of the ServiceExport's
`ServiceExportAnnotationWeight` annotation (`none` when it has none).  The `-1` Go returns beside
an error is never read, and is left out. -/
def ExtractWeightFromServiceExport (weightAnno : Option (List Char)) : Except (List Char) ℤ :=
  match weightAnno with
  | none => .ok 1
  | some weightAnno =>
    match Atoi weightAnno with
    | none => .error ("the weight annotation is not a valid integer: ".toList ++ weightAnno)
    | some weight =>
      if weight < 0 ∨ weight > 1000 then
        .error ("the weight annotation is not in the range [0, 1000]: ".toList ++ weightAnno)
      else .ok weight

variable {weightAnno : Option (List Char)} {w : ℤ} {e : List Char}

/-- What `ExtractWeightFromServiceExport` accepts: no annotation, read as weight 1, or the text of
an integer in `[0, 1000]`. -/
theorem ExtractWeightFromServiceExport_eq_ok :
    ExtractWeightFromServiceExport weightAnno = .ok w ↔
      weightAnno = none ∧ w = 1 ∨ ∃ s, weightAnno = some s ∧ Atoi s = some w ∧ 0 ≤ w ∧ w ≤ 1000 := by
  rcases weightAnno with _ | s
  · simp [ExtractWeightFromServiceExport, eq_comm]
  rcases hs : Atoi s with _ | v
  · simp [ExtractWeightFromServiceExport, hs]
  simp only [ExtractWeightFromServiceExport, hs]
  constructor
  · intro h
    split_ifs at h with hv
    cases h
    exact .inr ⟨s, rfl, hs, by omega⟩
  · rintro (⟨h, -⟩ | ⟨s', hs', hw, hw0, hw1⟩)
    · cases h
    · cases hs'
      rw [hs, Option.some.injEq] at hw
      rw [hw, if_neg (by omega)]

/-- An accepted weight lies in `[0, 1000]`. -/
lemma ExtractWeightFromServiceExport_mem (h : ExtractWeightFromServiceExport weightAnno = .ok w) :
    0 ≤ w ∧ w ≤ 1000 := by
  rcases ExtractWeightFromServiceExport_eq_ok.mp h with ⟨-, rfl⟩ | ⟨-, -, -, hw⟩
  · norm_num
  · exact hw

/-- **Every error names the annotation**: the reason, then the annotation's text. -/
theorem ExtractWeightFromServiceExport_eq_error
    (h : ExtractWeightFromServiceExport weightAnno = .error e) :
    ∃ s, weightAnno = some s ∧
      (Atoi s = none ∧ e = "the weight annotation is not a valid integer: ".toList ++ s ∨
        ∃ v, Atoi s = some v ∧ (v < 0 ∨ 1000 < v) ∧
          e = "the weight annotation is not in the range [0, 1000]: ".toList ++ s) := by
  rcases weightAnno with _ | s
  · cases h
  · refine ⟨s, rfl, ?_⟩
    simp only [ExtractWeightFromServiceExport] at h
    rcases hs : Atoi s with _ | v <;> simp only [hs] at h
    · exact .inl ⟨rfl, (Except.error.inj h).symm⟩
    · split_ifs at h with hv
      exact .inr ⟨v, rfl, by omega, (Except.error.inj h).symm⟩

/-! ## The objects `Reconcile` reads and writes -/

/-- The member ServiceExport as `Reconcile` reads it. -/
structure ServiceExport where
  key : NamespacedName
  deleting : Bool
  /-- it carries `svcExportCleanupFinalizer` -/
  hasCleanupFinalizer : Bool
  /-- the value of its `ServiceExportAnnotationWeight` annotation -/
  weightAnnotation : Option (List Char)

/-- The member Service as `Reconcile` reads it: besides the metadata and ports `exportService`
copies, its deletion mark, its type and cluster IP, two Azure annotations and its first ingress
IP. -/
structure MemberService (σ : Type) extends Service σ where
  deleting : Bool
  type : ServiceType
  clusterIP : List Char
  /-- `Annotations[ServiceAnnotationAzureLoadBalancerInternal]` -/
  internalLoadBalancerAnnotation : Option (List Char)
  /-- `Annotations[ServiceAnnotationAzureDNSLabelName]` -/
  dnsLabelNameAnnotation : Option (List Char)
  /-- `Status.LoadBalancer.Ingress[0].IP`, `none` when the Service has no ingress -/
  ingressIP : Option (List Char)

/-- An Azure public IP address, the fields the lookup reads. -/
structure PublicIPAddress where
  /-- `Properties.IPAddress` -/
  ipAddress : Option (List Char)
  /-- `ID` -/
  id : Option (List Char)
  /-- `Properties.DNSSettings.DomainNameLabel` is set -/
  hasDomainNameLabel : Bool

/-- The hub `InternalServiceExport` as the member writes it: the reference and ports of
`exportService`, and the traffic-manager fields of its Spec. -/
structure HubExport (σ : Type) where
  serviceReference : ExportedObjectReference
  ports : List σ
  type : ServiceType
  isInternalLoadBalancer : Bool
  publicIPResourceID : Option (List Char)
  isDNSLabelConfigured : Bool
  weight : Option ℤ
  deriving DecidableEq

variable {σ ε : Type}

/-- The export `CreateOrUpdate` starts from when there is none, with the reference the mutate
function sets on creation and every Spec field at its zero value. -/
def HubExport.new (serviceReference : ExportedObjectReference) : HubExport σ :=
  ⟨serviceReference, [], .unset, false, none, false, none⟩

/-- How the backend controller reads a stored export: keyed by `Spec.ServiceReference.ClusterID`. -/
def HubExport.toInternalServiceExport (x : HubExport σ) : BackendController.InternalServiceExport :=
  ⟨⟨x.serviceReference.clusterID, x.publicIPResourceID, x.weight⟩, x.type,
    x.isInternalLoadBalancer, x.isDNSLabelConfigured⟩

/-- The configuration of a member's ServiceExport controller. -/
structure Reconciler where
  MemberClusterID : List Char
  HubNamespace : List Char
  EnableTrafficManagerFeature : Bool

/-! ## `Reconcile` -/

/-- `isServiceEligibleForExport`: ExternalName Services and headless Services are not exported. -/
def isServiceEligibleForExport (svc : MemberService σ) : Bool :=
  !(decide (svc.type = .ExternalName) || decide (svc.clusterIP = "None".toList))

/-- `lookupPublicIPResourceIDByLoadBalancerIP`: the first listed public IP address with the
Service's load balancer IP.  The listing of the resource group is Azure's answer `pips`. -/
def lookupPublicIPResourceIDByLoadBalancerIP (pips : Result ε (List PublicIPAddress))
    (ip : List Char) : Result ε (Option PublicIPAddress) :=
  pips >>= fun pips => ok (pips.find? fun pip => decide (pip.ipAddress = some ip))

/-- The errors of `setAzureRelatedInformation`. -/
inductive AzureInfoError (ε : Type) where
  /-- listing the public IP addresses failed -/
  | list (e : ε)
  /-- `in the process of adding DNS to the public ip address %s` -/
  | dnsPending (id : List Char)

/-- `setAzureRelatedInformation`: the Service's type, and for an external load balancer with an
IP its public IP address and whether that has a DNS label.  A DNS label the Service asks for and
the address does not have yet is an error, so that the request is retried. -/
def setAzureRelatedInformation (service : MemberService σ) (pips : Result ε (List PublicIPAddress))
    (hubSvcExport : HubExport σ) : Result (AzureInfoError ε) (HubExport σ) :=
  let hubSvcExport := { hubSvcExport with type := service.type }
  if service.type ≠ .LoadBalancer then ok hubSvcExport else
  let hubSvcExport := { hubSvcExport with
    isInternalLoadBalancer := decide (service.internalLoadBalancerAnnotation = some "true".toList) }
  if hubSvcExport.isInternalLoadBalancer then ok hubSvcExport else
  match service.ingressIP with
  | none => ok hubSvcExport
  | some ip =>
    if ip = [] then ok hubSvcExport else
    (lookupPublicIPResourceIDByLoadBalancerIP pips ip).mapErr .list >>= fun
      | none => ok hubSvcExport
      | some pip =>
        let hubSvcExport := { hubSvcExport with
          publicIPResourceID := pip.id, isDNSLabelConfigured := pip.hasDomainNameLabel }
        match service.dnsLabelNameAnnotation with
        | none => ok hubSvcExport
        -- an empty label makes the cloud provider delete the DNS label
        | some [] => ok { hubSvcExport with isDNSLabelConfigured := false }
        | some (_ :: _) =>
          if hubSvcExport.isDNSLabelConfigured then ok hubSvcExport
          else deref pip.id >>= fun id => err (.dnsPending id)

/-- `exportService`: `CreateOrUpdate` of the InternalServiceExport under the formatted name.  The
mutate function rejects an export of a Service with another UID (the Service is then unexported
and the export requeued), copies the ports and versions, and with the traffic-manager feature on
sets `Spec.Weight = ptr.To(exportWeight)` and the Azure fields.  An error of the mutate function
writes nothing. -/
def exportService (r : Reconciler) (svcExport : NamespacedName) (svc : MemberService σ)
    (pips : Result ε (List PublicIPAddress)) (exportWeight : ℤ) (hub : HubStore (HubExport σ)) :
    Result (AzureInfoError ε) (ExportResult × HubStore (HubExport σ)) :=
  let internalSvcExportName := formatInternalServiceExportName svcExport
  let internalSvcExport := (hub internalSvcExportName).getD
    (HubExport.new (FromMetaObjects r.MemberClusterID svc.objMeta))
  if internalSvcExport.serviceReference.uid ≠ svc.objMeta.uid then
    ok (.requeue, unexportService svcExport hub)
  else
    let internalSvcExport := { internalSvcExport with
      ports := svc.ports
      serviceReference := internalSvcExport.serviceReference.UpdateFromMetaObject svc.objMeta }
    if r.EnableTrafficManagerFeature then
      setAzureRelatedInformation svc pips { internalSvcExport with weight := some exportWeight } >>=
        fun internalSvcExport =>
          ok (.done, Function.update hub internalSvcExportName (some internalSvcExport))
    else ok (.done, Function.update hub internalSvcExportName (some internalSvcExport))

/-- The branch `Reconcile` takes, which says what it writes on the member side. -/
inductive ReconcileOutcome where
  /-- the ServiceExport does not exist -/
  | notFound
  /-- the ServiceExport is deleted: unexported if it has the finalizer, which is removed -/
  | deleted
  /-- the Service is missing or deleted: `ServiceNotFound`, marked invalid -/
  | serviceNotFound
  /-- the Service is not eligible: `ServiceNotEligible`, marked invalid -/
  | serviceNotEligible
  /-- the weight annotation is invalid: marked invalid with the error -/
  | invalidWeight (err : List Char)
  /-- the weight is 0: unexported, marked valid `with 0 weight` -/
  | zeroWeight
  /-- `exportService` ran, after the finalizer was added and the export marked valid -/
  | exported (result : ExportResult)

/-- The member ServiceExport `Reconcile`, its hub writes.  `svcExport` and `svc` are what the
member cluster returns for the request's key. -/
def Reconcile (r : Reconciler) (svcExport : Option ServiceExport) (svc : Option (MemberService σ))
    (pips : Result ε (List PublicIPAddress)) (hub : HubStore (HubExport σ)) :
    Result (AzureInfoError ε) (ReconcileOutcome × HubStore (HubExport σ)) :=
  match svcExport with
  | none => ok (.notFound, hub)
  | some svcExport =>
    -- only a ServiceExport with the cleanup finalizer can have been exported
    let unexported := if svcExport.hasCleanupFinalizer then unexportService svcExport.key hub else hub
    if svcExport.deleting then ok (.deleted, unexported) else
    match svc with
    | none => ok (.serviceNotFound, unexported)
    | some svc =>
      if svc.deleting then ok (.serviceNotFound, unexported)
      else if !isServiceEligibleForExport svc then ok (.serviceNotEligible, unexported)
      else match ExtractWeightFromServiceExport svcExport.weightAnnotation with
      -- an invalid weight leaves the export as it is: unexporting would interrupt the traffic
      | .error e => ok (.invalidWeight e, hub)
      | .ok exportWeight =>
        if exportWeight = 0 then ok (.zeroWeight, unexported)
        else exportService r svcExport.key svc pips exportWeight hub >>= fun (result, hub) =>
          ok (.exported result, hub)

/-! ## The fleet -/

/-- The hub's InternalServiceExports, by hub namespace and then by name. -/
abbrev ExportStore (σ : Type) := List Char → HubStore (HubExport σ)

/-- A step of the fleet: the ServiceExport controller of some member reconciles some key, with
whatever its cluster and Azure answer, and writes the member's hub namespace. -/
inductive Step (ε : Type) : ExportStore σ → ExportStore σ → Prop
  | reconcile (hub : ExportStore σ) (r : Reconciler) (svcExport : Option ServiceExport)
      (svc : Option (MemberService σ)) (pips : Result ε (List PublicIPAddress))
      (outcome : ReconcileOutcome) (hub' : HubStore (HubExport σ))
      (h : Reconcile r svcExport svc pips (hub r.HubNamespace) = ok (outcome, hub')) :
      Step ε hub (Function.update hub r.HubNamespace hub')

/-- The stores the fleet reaches from an empty hub. -/
def ExportStore.Reachable (ε : Type) (hub : ExportStore σ) : Prop :=
  ObjectStore.Reachable (· = fun _ _ => none) (Step (σ := σ) ε) hub

/-! ## Every stored weight is in range -/

/-- A weight the backend controller can divide by: unset, or in `[1, 1000]`. -/
def WeightInRange (weight : Option ℤ) : Prop :=
  ∀ w, weight = some w → 1 ≤ w ∧ w ≤ 1000

/-- Every export of a hub namespace has its weight in range. -/
def HubWeightsInRange (hub : HubStore (HubExport σ)) : Prop :=
  ∀ name x, hub name = some x → WeightInRange x.weight

variable {r : Reconciler} {key : NamespacedName} {svc : MemberService σ}
  {pips : Result ε (List PublicIPAddress)} {x x' : HubExport σ} {hub hub' : HubStore (HubExport σ)}

/-- `setAzureRelatedInformation` writes the Azure fields only: the reference, the ports and the
weight are those it was given. -/
lemma setAzureRelatedInformation_frame (h : setAzureRelatedInformation svc pips x = ok x') :
    x'.serviceReference = x.serviceReference ∧ x'.ports = x.ports ∧ x'.weight = x.weight := by
  unfold setAzureRelatedInformation at h
  dsimp only at h
  -- every `ok` is `x` with some of the four Azure fields replaced
  split_ifs at h with hlb hinternal
  · cases h; exact ⟨rfl, rfl, rfl⟩
  · cases h; exact ⟨rfl, rfl, rfl⟩
  split at h
  · cases h; exact ⟨rfl, rfl, rfl⟩
  split_ifs at h with hip
  · cases h; exact ⟨rfl, rfl, rfl⟩
  obtain ⟨pip, -, h⟩ := bind_eq_ok.mp h
  split at h
  · cases h; exact ⟨rfl, rfl, rfl⟩
  split at h
  · cases h; exact ⟨rfl, rfl, rfl⟩
  · cases h; exact ⟨rfl, rfl, rfl⟩
  split_ifs at h
  · cases h; exact ⟨rfl, rfl, rfl⟩
  · obtain ⟨id, -, h⟩ := bind_eq_ok.mp h
    cases h

lemma HubWeightsInRange.update (h : HubWeightsInRange hub) (hx : WeightInRange x.weight)
    (name : List Char) : HubWeightsInRange (Function.update hub name (some x)) := by
  intro n y hy
  rcases eq_or_ne n name with rfl | hne
  · rw [Function.update_self, Option.some.injEq] at hy
    exact hy ▸ hx
  · rw [Function.update_of_ne hne] at hy
    exact h n y hy

lemma HubWeightsInRange.unexportService (h : HubWeightsInRange hub) :
    HubWeightsInRange (unexportService key hub) := by
  intro n y hy
  unfold FleetNet.unexportService at hy
  rcases eq_or_ne n (formatInternalServiceExportName key) with rfl | hne
  · rw [Function.update_self] at hy
    cases hy
  · rw [Function.update_of_ne hne] at hy
    exact h n y hy

/-- The export `CreateOrUpdate` mutates, found or new, has its weight in range. -/
lemma HubWeightsInRange.getD (h : HubWeightsInRange hub) (name : List Char)
    (ref : ExportedObjectReference) : WeightInRange ((hub name).getD (HubExport.new ref)).weight := by
  rcases hx : hub name with _ | x
  · intro w hw
    cases hw
  · exact h name x hx

/-- **`exportService` keeps the weights in range**: it writes the weight it is given, in
`[1, 1000]`, or keeps the one found. -/
lemma HubWeightsInRange.exportService (h : HubWeightsInRange hub) (hw : 1 ≤ w ∧ w ≤ 1000)
    {result : ExportResult} (he : exportService r key svc pips w hub = ok (result, hub')) :
    HubWeightsInRange hub' := by
  unfold ExportWeight.exportService at he
  dsimp only at he
  have hfound := h.getD (formatInternalServiceExportName key)
    (FromMetaObjects r.MemberClusterID svc.objMeta)
  split_ifs at he with huid hfeature
  · cases he
    exact h.unexportService
  · -- the feature on: `ptr.To(exportWeight)`, which the Azure fields leave alone
    obtain ⟨x', hset, he⟩ := bind_eq_ok.mp he
    cases he
    refine h.update (fun v hv => ?_) _
    rw [(setAzureRelatedInformation_frame hset).2.2, Option.some.injEq] at hv
    exact hv ▸ hw
  · -- the feature off: the weight of the export found, or none
    cases he
    refine h.update ?_ _
    exact hfound

/-- **Step lemma.**  Whatever a member's `Reconcile` is given, it keeps the weights of its hub
namespace in range: it writes only through `unexportService` and `exportService`, and the
latter only with an accepted weight other than 0. -/
theorem HubWeightsInRange.Reconcile (h : HubWeightsInRange hub) {svcExport : Option ServiceExport}
    {svc : Option (MemberService σ)} {outcome : ReconcileOutcome}
    (hr : Reconcile r svcExport svc pips hub = ok (outcome, hub')) : HubWeightsInRange hub' := by
  rcases svcExport with _ | k
  · cases hr
    exact h
  have hu : HubWeightsInRange
      (if k.hasCleanupFinalizer then FleetNet.unexportService k.key hub else hub) := by
    split_ifs
    · exact h.unexportService
    · exact h
  unfold ExportWeight.Reconcile at hr
  dsimp only at hr
  -- the branches that unexport write this store; none of them reads it
  generalize (if k.hasCleanupFinalizer then FleetNet.unexportService k.key hub else hub) =
    unexported at hr hu
  split_ifs at hr with hdeleting
  · cases hr
    exact hu
  rcases svc with _ | svc
  · cases hr
    exact hu
  dsimp only at hr
  split_ifs at hr with hsvc heligible
  · cases hr
    exact hu
  · cases hr
    exact hu
  split at hr
  · -- an invalid weight: the hub as it was
    cases hr
    exact h
  · rename_i exportWeight hweight
    split_ifs at hr with hzero
    · cases hr
      exact hu
    · -- `exportService` with an accepted weight other than 0
      obtain ⟨⟨result, hub''⟩, he, hr⟩ := bind_eq_ok.mp hr
      cases hr
      have hmem := ExtractWeightFromServiceExport_mem hweight
      exact h.exportService ⟨by omega, hmem.2⟩ he

/-- **Run lemma.**  In every store the fleet reaches, every export has its weight in range. -/
theorem weightsInRange_of_reachable {hub : ExportStore σ} (hs : hub.Reachable ε) (ns : List Char) :
    HubWeightsInRange (hub ns) := by
  revert ns
  refine Reachable.invariant (I := fun s : ExportStore σ => ∀ ns, HubWeightsInRange (s ns))
    (fun s hs ns name x hx => ?_) (fun s s' hI hst => ?_) hs
  · cases hs
    cases hx
  · cases hst with
    | reconcile r svcExport svc pips outcome hub' hr =>
    intro ns
    rcases eq_or_ne ns r.HubNamespace with rfl | hne
    · rw [Function.update_self]
      exact (hI _).Reconcile hr
    · rw [Function.update_of_ne hne]
      exact hI ns

/-! ## The backend's endpoints over a reachable hub -/

/-- **The desired endpoints of a backend, for exports read from the hub.**  For a backend weight
in `[1, 1000]`, distinct clusters each with an export, and exports that are the backend's reading
of InternalServiceExports of any store the fleet reaches: the function returns one endpoint per
valid cluster, with its share of the backend's weight out of the total of the valid exports and
`FromCluster` the export's weight, and the invalid services of the others.  The total is
positive once there is an endpoint, each share lies in `[1, bw]`, and the shares add up to between
`bw` and `bw + n - 1`. -/
theorem validateAndProcess_desired_of_reachable {ε' : Type} {hub : ExportStore σ}
    (hs : hub.Reachable ε') (backend : TrafficManagerBackend) (bw : ℤ)
    (clusters : List (List Char)) (items : List BackendController.InternalServiceExport)
    (statusUpdate : Option ε) (hitems : ∀ e ∈ items, ∃ ns name x, hub ns name = some x ∧ e = x.toInternalServiceExport)
    (hbw : 1 ≤ bw ∧ bw ≤ 1000) (hne : clusters ≠ []) (hnd : clusters.Nodup)
    (hcover : ∀ c ∈ clusters, ∃ e ∈ items, e.spec.clusterID = c) :
    ∃ desired invalid,
      validateAndProcessServiceImportForBackend backend (some bw) clusters (.ok items)
          statusUpdate = ok (.processed desired invalid) ∧
        desired.entries.Perm ((validExports (exportMap items) clusters).map
          (shareEntry backend bw (validTotalWeight (exportMap items) clusters))) ∧
        invalid.entries = (invalidExports (exportMap items) clusters).reverse ∧
        (desired.entries ≠ [] → 0 < validTotalWeight (exportMap items) clusters) ∧
        (∀ x ∈ desired.entries, 1 ≤ endpointWeight x.2 ∧ endpointWeight x.2 ≤ bw) ∧
        (desired.entries ≠ [] → bw ≤ (desired.entries.map (endpointWeight ·.2)).sum ∧
          (desired.entries.map (endpointWeight ·.2)).sum ≤ bw + desired.entries.length - 1) := by
  -- the weights the backend reads are those the member controllers wrote
  have hweight : ∀ e ∈ items, ∀ w, e.spec.weight = some w → 1 ≤ w ∧ w ≤ 1000 := by
    intro e he w hw
    obtain ⟨ns, name, x, hx, rfl⟩ := hitems e he
    exact weightsInRange_of_reachable hs ns name x hx w hw
  exact validateAndProcess_desired backend bw clusters items statusUpdate hbw hne hnd hcover hweight

/-- A member with the traffic-manager feature exports `work/app` with the weight annotation
`500`, behind a public IP with a DNS label. -/
def weightRunReconciler : Reconciler := ⟨"member-1".toList, "fleet-member-member-1".toList, true⟩

/-- The ServiceExport of the run. -/
def weightRunExport : ServiceExport := ⟨⟨"work".toList, "app".toList⟩, false, true, some "500".toList⟩

/-- The Service of the run, an external load balancer. -/
def weightRunService : MemberService ℕ where
  objMeta := ⟨"work".toList, "app".toList, "1".toList, 1, "u".toList⟩
  ports := [80]
  deleting := false
  type := .LoadBalancer
  clusterIP := "10.0.0.1".toList
  internalLoadBalancerAnnotation := none
  dnsLabelNameAnnotation := none
  ingressIP := some "1.2.3.4".toList

/-- The export the run writes. -/
def weightRunStored : HubExport ℕ :=
  ⟨⟨"member-1".toList, "work".toList, "app".toList, "1".toList, 1, "u".toList⟩, [80], .LoadBalancer,
    false, some "pip".toList, true, some 500⟩

/-- The hub after the run's reconcile. -/
def weightRunHub : ExportStore ℕ :=
  Function.update (fun _ _ => none) "fleet-member-member-1".toList
    (Function.update (fun _ => none) "work-app".toList (some weightRunStored))

lemma weightRunHub_reachable : weightRunHub.Reachable Unit := by
  refine .step (.init rfl) (.reconcile _ weightRunReconciler (some weightRunExport)
    (some weightRunService) (ok [⟨some "1.2.3.4".toList, some "pip".toList, true⟩])
    (.exported .done) _ ?_)
  rfl

/-- A backend of weight 500 over the run's one cluster gets an endpoint of weight in `[1, 500]`. -/
theorem validateAndProcess_desired_of_reachable_run :
    ∃ desired invalid,
      validateAndProcessServiceImportForBackend (ε := Unit) ⟨"u".toList, "b".toList⟩ (some 500)
          ["member-1".toList] (.ok [weightRunStored.toInternalServiceExport]) none =
        ok (.processed desired invalid) ∧
      ∀ x ∈ desired.entries, 1 ≤ endpointWeight x.2 ∧ endpointWeight x.2 ≤ 500 := by
  obtain ⟨desired, invalid, hrun, -, -, -, hweights, -⟩ :=
    validateAndProcess_desired_of_reachable weightRunHub_reachable ⟨"u".toList, "b".toList⟩ 500
      ["member-1".toList] [weightRunStored.toInternalServiceExport] none
      (fun e he => ⟨"fleet-member-member-1".toList, "work-app".toList, weightRunStored,
        by simp only [weightRunHub, Function.update_self], List.mem_singleton.mp he⟩) (by decide) (by decide) (by decide)
      (fun c hc => ⟨_, List.mem_singleton_self _, (List.mem_singleton.mp hc).symm⟩)
  exact ⟨desired, invalid, hrun, hweights⟩

end FleetNet.ExportWeight
