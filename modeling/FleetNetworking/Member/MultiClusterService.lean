import FleetNetworking.Member.HubNames

/-!
# Derived Services of MultiClusterServices

A MultiClusterService imports a Service into a member cluster through a derived Service in the
fleet-system namespace.  `handleUpdate` takes the derived Service's name from the MCS's label
or, for an MCS without one, from `generateDerivedServiceName`, records it in the label, and
creates or updates the Service under it, labelled with the MCS.  `handleDelete` and
`handleInvalidServiceImport` delete the Service the label names.

`generateDerivedServiceName` is `NAMESPACE-NAME`, with no cut and no check.  It is a valid
Service name exactly when the namespace opens with a letter, the name has no dot, and the two
fit in 62 characters (`isDNS1035Label_generateDerivedServiceName_iff`); otherwise the API server
rejects the Service on every attempt.  Nor is it injective, since a dash of the namespace can as
well end it (`a-b`/`c` and `a`/`b-c`): two MultiClusterServices then share one derived Service,
the second relabels it, and deleting the first deletes it (`handleDelete_deletes_other_derived`).

The Services' ports, load balancer annotations and the status of the MCS are left out, and the
writes of labels to the MCS are taken to succeed.
-/

namespace FleetNet

open Dns

/-- The fields of a MultiClusterService these paths read and write: its key, and the value of
its derived-service label. -/
structure MultiClusterService where
  ns : List Char
  name : List Char
  derivedServiceLabel : Option (List Char)
  deriving DecidableEq, Repr

/-- A derived Service: the MultiClusterService its two labels name. -/
structure DerivedService where
  mcsName : List Char
  mcsNamespace : List Char
  deriving DecidableEq, Repr

/-- The Services of the fleet-system namespace, by name. -/
abbrev ServiceStore := List Char → Option DerivedService

variable (fleetSystemNamespace : List Char)

/-- `generateDerivedServiceName`: `fmt.Sprintf("%v-%v", mcs.Namespace, mcs.Name)`. -/
def generateDerivedServiceName (mcs : MultiClusterService) : NamespacedName :=
  ⟨fleetSystemNamespace, joinWithDash mcs.ns mcs.name⟩

/-- `derivedServiceFromLabel`. -/
def derivedServiceFromLabel (mcs : MultiClusterService) : Option NamespacedName :=
  mcs.derivedServiceLabel.map fun val => ⟨fleetSystemNamespace, val⟩

/-- `ensureDerivedService`: the Service is labelled with the MultiClusterService. -/
def ensureDerivedService (mcs : MultiClusterService) : DerivedService := ⟨mcs.name, mcs.ns⟩

/-- Why the API server refuses a write. -/
inductive ServiceApiError where
  /-- a Service name must be an RFC 1035 label -/
  | invalidName
  deriving DecidableEq, Repr

/-- `controllerutil.CreateOrUpdate` of a Service of the fleet-system namespace. -/
def createOrUpdateService (store : ServiceStore) (name : List Char) (svc : DerivedService) :
    Except ServiceApiError ServiceStore :=
  if isDNS1035Label name then .ok (Function.update store name (some svc)) else .error .invalidName

/-- `handleUpdate` once the ServiceImport lists a cluster: the derived Service's name, recorded
in the label, and the create or update of the Service. -/
def handleUpdateDerivedService (mcs : MultiClusterService) (store : ServiceStore) :
    MultiClusterService × Except ServiceApiError ServiceStore :=
  let serviceName :=
    (derivedServiceFromLabel fleetSystemNamespace mcs).getD
      (generateDerivedServiceName fleetSystemNamespace mcs)
  let mcs := { mcs with derivedServiceLabel := some serviceName.name }
  (mcs, createOrUpdateService store serviceName.name (ensureDerivedService mcs))

/-- `deleteDerivedService`; a Service that is not found is not an error. -/
def deleteDerivedService (store : ServiceStore) : Option NamespacedName → ServiceStore
  | none => store
  | some serviceName => Function.update store serviceName.name none

/-- `handleDelete`: the derived Service the label names is deleted. -/
def handleDelete (mcs : MultiClusterService) (store : ServiceStore) : ServiceStore :=
  deleteDerivedService store (derivedServiceFromLabel fleetSystemNamespace mcs)

/-- `handleInvalidServiceImport`: the derived Service the label names is deleted, and the
label with it. -/
def handleInvalidServiceImport (mcs : MultiClusterService) (store : ServiceStore) :
    MultiClusterService × ServiceStore :=
  match derivedServiceFromLabel fleetSystemNamespace mcs with
  | none => (mcs, store)
  | some serviceName =>
    ({ mcs with derivedServiceLabel := none }, Function.update store serviceName.name none)

/-! ## When the derived name is a Service name -/

/-- The derived name of an MCS whose namespace is an RFC 1123 label and whose name is an object
name is an RFC 1035 label exactly when the namespace opens with a letter, the name is an RFC 1123
label pattern (no dot) and the two fit in 62 characters. -/
theorem isDNS1035Label_generateDerivedServiceName_iff (mcs : MultiClusterService)
    (hns : isDNS1123Label mcs.ns = true) (hname : IsObjectName mcs.name) :
    isDNS1035Label (generateDerivedServiceName fleetSystemNamespace mcs).name = true ↔
      (∃ c t, mcs.ns = c :: t ∧ c.isLower = true) ∧
        scan label1123 Scan.start mcs.name = Scan.alnum ∧ mcs.ns.length + mcs.name.length < 63 := by
  obtain ⟨hnsLen, hnsScan⟩ := isDNS1123Label_iff.mp hns
  obtain ⟨c, t, hct, -⟩ := exists_cons_alnum hnsScan
  obtain ⟨d, u, hdu, hd⟩ := exists_cons_alnum (isDNS1123Subdomain_iff.mp hname.subdomain).2
  -- past the namespace and its dash, the scan reads the name as a fresh label
  have hscan : scan label1123 Scan.start (joinWithDash mcs.ns mcs.name) =
      scan label1123 Scan.start mcs.name := by
    have hjoin := scan_join_dash (d := false) (l := false) (y := []) (Or.inl rfl) hdu hd
    rw [List.append_nil] at hjoin
    rw [joinWithDash, scan_append, hnsScan, hjoin]
    rfl
  have hlen : (joinWithDash mcs.ns mcs.name).length = mcs.ns.length + mcs.name.length + 1 := by
    simp [joinWithDash]
    omega
  simp only [generateDerivedServiceName]
  rw [show joinWithDash mcs.ns mcs.name = c :: (t ++ '-' :: mcs.name) by simp [joinWithDash, hct],
    isDNS1035Label_cons_iff, ← show joinWithDash mcs.ns mcs.name = c :: (t ++ '-' :: mcs.name) by
      simp [joinWithDash, hct], isDNS1123Label_iff, hscan, hlen]
  constructor
  · rintro ⟨hc, hl, hs⟩
    exact ⟨⟨c, t, hct, hc⟩, hs, by omega⟩
  · rintro ⟨⟨c', t', hct', hc⟩, hs, hl⟩
    rw [hct] at hct'
    obtain ⟨rfl, -⟩ := List.cons.inj hct'
    exact ⟨hc, by omega, hs⟩

/-- `work/app` gives `work-app`, a Service name. -/
theorem isDNS1035Label_generateDerivedServiceName_iff_run :
    isDNS1035Label (generateDerivedServiceName "fleet-system".toList
      ⟨"work".toList, "app".toList, none⟩).name = true :=
  (isDNS1035Label_generateDerivedServiceName_iff _ _ (by decide) (by decide)).mpr
    ⟨⟨'w', "ork".toList, rfl, rfl⟩, by decide, by decide⟩

/-! ## Two MultiClusterServices, one derived Service -/

/-- **One MCS deletes another's Service.**  Take two MultiClusterServices without a derived
Service yet whose generated names agree and are a Service name.  Updating the first creates the
Service; updating the second gives it the same label and takes the Service over; deleting the
first then deletes the Service the second's label names. -/
theorem handleDelete_deletes_other_derived (a b : MultiClusterService) (store : ServiceStore)
    (ha : a.derivedServiceLabel = none) (hb : b.derivedServiceLabel = none)
    (hname : (generateDerivedServiceName fleetSystemNamespace a).name =
      (generateDerivedServiceName fleetSystemNamespace b).name)
    (hvalid : isDNS1035Label (generateDerivedServiceName fleetSystemNamespace a).name = true) :
    ∃ a' b' s₁ s₂, handleUpdateDerivedService fleetSystemNamespace a store = (a', .ok s₁) ∧
      handleUpdateDerivedService fleetSystemNamespace b s₁ = (b', .ok s₂) ∧
      a'.derivedServiceLabel = b'.derivedServiceLabel ∧
      s₂ (generateDerivedServiceName fleetSystemNamespace a).name = some (ensureDerivedService b) ∧
      handleDelete fleetSystemNamespace a' s₂ (generateDerivedServiceName fleetSystemNamespace b).name
        = none := by
  generalize hn : (generateDerivedServiceName fleetSystemNamespace a).name = n at hname hvalid
  -- the first update creates the Service under `n`, the second updates it under the same name
  have h₁ : handleUpdateDerivedService fleetSystemNamespace a store =
      ({ a with derivedServiceLabel := some n },
        .ok (Function.update store n (some (ensureDerivedService a)))) := by
    simp [handleUpdateDerivedService, derivedServiceFromLabel, ha, createOrUpdateService, hvalid,
      ensureDerivedService, hn]
  have h₂ : ∀ s₁, handleUpdateDerivedService fleetSystemNamespace b s₁ =
      ({ b with derivedServiceLabel := some n },
        .ok (Function.update s₁ n (some (ensureDerivedService b)))) := by
    intro s₁
    simp [handleUpdateDerivedService, derivedServiceFromLabel, hb, createOrUpdateService,
      ensureDerivedService, ← hname, hvalid]
  refine ⟨_, _, _, _, h₁, h₂ _, rfl, by simp, ?_⟩
  simp [handleDelete, deleteDerivedService, derivedServiceFromLabel, ← hname]

/-- The MultiClusterService `c` of namespace `a-b`. -/
def derivedRunFirst : MultiClusterService := ⟨"a-b".toList, "c".toList, none⟩

/-- The MultiClusterService `b-c` of namespace `a`. -/
def derivedRunSecond : MultiClusterService := ⟨"a".toList, "b-c".toList, none⟩

/-- Two MultiClusterServices with RFC 1123 label namespaces and RFC 1035 label names share the
derived Service `a-b-c`: the second takes it over, and deleting the first deletes it. -/
theorem handleDelete_deletes_other_derived_run :
    derivedRunFirst ≠ derivedRunSecond ∧ isDNS1123Label derivedRunFirst.ns = true ∧
      isDNS1123Label derivedRunSecond.ns = true ∧ isDNS1035Label derivedRunFirst.name = true ∧
      isDNS1035Label derivedRunSecond.name = true ∧
      ∃ a' b' s₁ s₂,
        handleUpdateDerivedService "fleet-system".toList derivedRunFirst (fun _ => none) =
          (a', .ok s₁) ∧
        handleUpdateDerivedService "fleet-system".toList derivedRunSecond s₁ = (b', .ok s₂) ∧
        a'.derivedServiceLabel = b'.derivedServiceLabel ∧
        s₂ "a-b-c".toList = some (ensureDerivedService derivedRunSecond) ∧
        handleDelete "fleet-system".toList a' s₂ "a-b-c".toList = none :=
  ⟨by decide, by decide, by decide, by decide, by decide,
    handleDelete_deletes_other_derived _ _ _ _ rfl rfl (by decide) (by decide)⟩

end FleetNet
