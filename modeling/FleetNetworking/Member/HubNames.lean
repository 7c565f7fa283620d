import FleetNetworking.UniqueName

/-!
# Hub objects of member exports and imports

A member cluster writes one hub object per exported Service and per ServiceImport, in the hub
namespace reserved for it.  Both names are formed as `NAMESPACE-NAME`
(`formatInternalServiceExportName`, `formatInternalServiceImportName`), and every hub write
of the two member controllers goes through that name:

* `exportService` creates or updates the InternalServiceExport, and on a UID mismatch unexports
  by name and requeues;
* `unexportService` deletes the InternalServiceExport by name, without looking at its UID;
* the member ServiceImport `Reconcile` creates or updates the InternalServiceImport, and
  deletes it by name when the ServiceImport is deleted.

Each export touches the hub store at its own name only (`exportService_frame`).  Isolation
between objects then holds exactly as far as the naming is injective, and it is injective on
namespaces without a dash (`joinWithDash_inj`, `exportService_isolated`).  Kubernetes namespaces and
names may contain dashes, and then two Services share one hub name: exporting the second deletes
the export of the first (`exportService_deletes_other_export`), and reconciling a second
ServiceImport rewrites the first one's InternalServiceImport.

The hub store is a map from names to objects; the objects keep the fields these controllers
read and write.  The traffic-manager fields of an export, the API errors of the hub client and
the member-side status conditions are left out.
-/

namespace FleetNet

/-! ## Objects -/

/-- A namespaced object key of the member cluster. -/
structure NamespacedName where
  ns : List Char
  name : List Char
  deriving DecidableEq, Repr

/-- `ExportedObjectReference`, the fields these controllers set. -/
structure ExportedObjectReference where
  clusterID : List Char
  ns : List Char
  name : List Char
  resourceVersion : List Char
  generation : ℕ
  uid : List Char
  deriving DecidableEq, Repr

/-- The object metadata a reference is made from. -/
structure ObjectMeta where
  ns : List Char
  name : List Char
  resourceVersion : List Char
  generation : ℕ
  uid : List Char
  deriving DecidableEq, Repr

/-- `FromMetaObjects`. -/
def FromMetaObjects (clusterID : List Char) (objMeta : ObjectMeta) : ExportedObjectReference where
  clusterID := clusterID
  ns := objMeta.ns
  name := objMeta.name
  resourceVersion := objMeta.resourceVersion
  generation := objMeta.generation
  uid := objMeta.uid

/-- `UpdateFromMetaObject`: only the version fields follow the object; the rest is fixed at
creation. -/
def ExportedObjectReference.UpdateFromMetaObject (e : ExportedObjectReference)
    (objMeta : ObjectMeta) : ExportedObjectReference :=
  { e with resourceVersion := objMeta.resourceVersion, generation := objMeta.generation }

/-- An `InternalServiceExport` in the hub, over a type `σ` of service ports. -/
structure InternalServiceExport (σ : Type) where
  serviceReference : ExportedObjectReference
  ports : List σ
  deriving DecidableEq, Repr

/-- An `InternalServiceImport` in the hub. -/
structure InternalServiceImport where
  serviceImportReference : ExportedObjectReference
  deriving DecidableEq, Repr

/-- A member Service: its metadata and the ports `extractServicePorts` reads. -/
structure Service (σ : Type) where
  objMeta : ObjectMeta
  ports : List σ

/-- A member ServiceImport, with its deletion mark and whether it carries
`ServiceImportFinalizer`. -/
structure ServiceImport where
  objMeta : ObjectMeta
  deleting : Bool
  hasFinalizer : Bool

/-- The objects of one kind in the member cluster's hub namespace, by name. -/
abbrev HubStore (α : Type) := List Char → Option α

/-! ## Names -/

/-- `fmt.Sprintf("%s-%s", namespace, name)`. -/
def joinWithDash (ns name : List Char) : List Char := ns ++ '-' :: name

/-- `formatInternalServiceExportName`. -/
def formatInternalServiceExportName (svcExport : NamespacedName) : List Char :=
  joinWithDash svcExport.ns svcExport.name

/-- `formatInternalServiceImportName`. -/
def formatInternalServiceImportName (serviceImport : NamespacedName) : List Char :=
  joinWithDash serviceImport.ns serviceImport.name

/-! ## The member controllers' hub writes -/

section Controllers

variable {σ : Type}

/-- What a reconcile step returns: done, or requeue for a new attempt. -/
inductive ExportResult where
  | done
  | requeue
  deriving DecidableEq, Repr

/-- `unexportService`, its hub write: delete the InternalServiceExport by name; a missing one is
not an error.  The member-side finalizer removal that follows is not modelled. -/
def unexportService {α : Type} (svcExport : NamespacedName) (hub : HubStore α) : HubStore α :=
  Function.update hub (formatInternalServiceExportName svcExport) none

/-- `exportService` with the traffic-manager feature off.  `CreateOrUpdate` reads the object
under the formatted name; a new one gets a reference to the Service, an existing one must
reference a Service of the same UID, else the Service is unexported and the export requeued. -/
def exportService (memberClusterID : List Char) (svcExport : NamespacedName) (svc : Service σ)
    (hub : HubStore (InternalServiceExport σ)) :
    ExportResult × HubStore (InternalServiceExport σ) :=
  let internalSvcExportName := formatInternalServiceExportName svcExport
  match hub internalSvcExportName with
  | none =>
    let ref := (FromMetaObjects memberClusterID svc.objMeta).UpdateFromMetaObject svc.objMeta
    (.done, Function.update hub internalSvcExportName (some ⟨ref, svc.ports⟩))
  | some internalSvcExport =>
    if internalSvcExport.serviceReference.uid ≠ svc.objMeta.uid then
      (.requeue, unexportService svcExport hub)
    else
      let ref := internalSvcExport.serviceReference.UpdateFromMetaObject svc.objMeta
      (.done, Function.update hub internalSvcExportName (some ⟨ref, svc.ports⟩))

/-- The member ServiceImport `Reconcile`, its hub write.  A deleted ServiceImport with the
finalizer deletes the InternalServiceImport by name; otherwise `CreateOrUpdate` creates one
referencing the ServiceImport or refreshes the reference of the one found, with no UID check. -/
def reconcileServiceImport (memberClusterID : List Char) (serviceImport : ServiceImport)
    (hub : HubStore InternalServiceImport) : HubStore InternalServiceImport :=
  let key : NamespacedName := ⟨serviceImport.objMeta.ns, serviceImport.objMeta.name⟩
  let internalServiceImportName := formatInternalServiceImportName key
  if serviceImport.deleting then
    if serviceImport.hasFinalizer then Function.update hub internalServiceImportName none
    else hub
  else
    match hub internalServiceImportName with
    | none =>
      let ref := (FromMetaObjects memberClusterID serviceImport.objMeta).UpdateFromMetaObject
        serviceImport.objMeta
      Function.update hub internalServiceImportName (some ⟨ref⟩)
    | some internalServiceImport =>
      let ref := internalServiceImport.serviceImportReference.UpdateFromMetaObject
        serviceImport.objMeta
      Function.update hub internalServiceImportName (some ⟨ref⟩)

variable {memberClusterID : List Char} {svcExport : NamespacedName} {svc : Service σ}
  {hub : HubStore (InternalServiceExport σ)} {n : List Char}

/-- `unexportService` touches no other name. -/
lemma unexportService_frame (h : n ≠ formatInternalServiceExportName svcExport) :
    unexportService svcExport hub n = hub n :=
  Function.update_of_ne h _ _

/-- `exportService` touches no other name. -/
lemma exportService_frame (h : n ≠ formatInternalServiceExportName svcExport) :
    (exportService memberClusterID svcExport svc hub).2 n = hub n := by
  dsimp only [exportService]
  -- the three writes (create, unexport, update) all go to the formatted name
  split
  · exact Function.update_of_ne h _ _
  · split_ifs
    · exact unexportService_frame h
    · exact Function.update_of_ne h _ _

/-- Exporting onto an export of a Service with another UID deletes it and requeues. -/
lemma exportService_uid_mismatch {ise : InternalServiceExport σ}
    (hise : hub (formatInternalServiceExportName svcExport) = some ise)
    (huid : ise.serviceReference.uid ≠ svc.objMeta.uid) :
    exportService memberClusterID svcExport svc hub = (.requeue, unexportService svcExport hub) := by
  simp [exportService, hise, huid]

end Controllers

/-! ## When the names are injective -/

/-- **Names are injective on namespaces without a dash**: the first dash of the hub name ends the
namespace. -/
theorem joinWithDash_inj {ns₁ ns₂ name₁ name₂ : List Char} (h₁ : '-' ∉ ns₁) (h₂ : '-' ∉ ns₂)
    (h : joinWithDash ns₁ name₁ = joinWithDash ns₂ name₂) : ns₁ = ns₂ ∧ name₁ = name₂ := by
  induction ns₁ generalizing ns₂ with
  | nil =>
    cases ns₂ with
    | nil => simpa [joinWithDash] using h
    | cons d s =>
      -- the dash that ends the empty namespace would open the other one
      have hd : d = '-' := by simp [joinWithDash] at h; exact h.1.symm
      exact absurd (hd ▸ List.mem_cons_self) h₂
  | cons c t ih =>
    cases ns₂ with
    | nil =>
      have hc : c = '-' := by simp [joinWithDash] at h; exact h.1
      exact absurd (hc ▸ List.mem_cons_self) h₁
    | cons d s =>
      simp only [joinWithDash, List.cons_append, List.cons.injEq] at h
      obtain ⟨rfl, htail⟩ := h
      obtain ⟨rfl, rfl⟩ := ih (List.not_mem_of_not_mem_cons h₁) (List.not_mem_of_not_mem_cons h₂)
        htail
      exact ⟨rfl, rfl⟩

/-- **Exports of Services with dash-free namespaces are isolated**: exporting one Service leaves
the hub object of every other one as it was. -/
theorem exportService_isolated {σ : Type} {memberClusterID : List Char}
    {a b : NamespacedName} {svc : Service σ} {hub : HubStore (InternalServiceExport σ)}
    (ha : '-' ∉ a.ns) (hb : '-' ∉ b.ns) (hab : a ≠ b) :
    (exportService memberClusterID b svc hub).2 (formatInternalServiceExportName a) =
      hub (formatInternalServiceExportName a) := by
  refine exportService_frame fun h => hab ?_
  obtain ⟨hns, hname⟩ := joinWithDash_inj ha hb h
  cases a
  cases b
  simp_all

/-- Exporting `web/app` leaves the export of `work/app` as it was. -/
theorem exportService_isolated_run :
    let a : NamespacedName := ⟨"work".toList, "app".toList⟩
    let b : NamespacedName := ⟨"web".toList, "app".toList⟩
    let hub : HubStore (InternalServiceExport ℕ) := fun _ => some ⟨⟨['m'], a.ns, a.name, ['1'], 1, ['u']⟩, [80]⟩
    (exportService ['m'] b ⟨⟨b.ns, b.name, ['2'], 1, ['v']⟩, [443]⟩ hub).2
      (formatInternalServiceExportName a) = hub (formatInternalServiceExportName a) :=
  exportService_isolated (by decide) (by decide) (by decide)

/-- **Exporting a second Service under the same hub name deletes the first one's export.**  The
namespaces `a-b` and `a` are RFC 1123 labels and the names `c` and `b-c` RFC 1035 labels; once
the first Service is exported, exporting the second finds the first one's InternalServiceExport,
fails the UID check and unexports it by name. -/
theorem exportService_deletes_other_export :
    let a : NamespacedName := ⟨['a', '-', 'b'], ['c']⟩
    let b : NamespacedName := ⟨['a'], ['b', '-', 'c']⟩
    let svcA : Service ℕ := ⟨⟨a.ns, a.name, ['1'], 1, ['u', '1']⟩, [80]⟩
    let svcB : Service ℕ := ⟨⟨b.ns, b.name, ['2'], 1, ['u', '2']⟩, [443]⟩
    let hub₁ := (exportService ['m'] a svcA (fun _ => none)).2
    a ≠ b ∧ Dns.isDNS1123Label a.ns = true ∧ Dns.isDNS1035Label a.name = true ∧
      Dns.isDNS1123Label b.ns = true ∧ Dns.isDNS1035Label b.name = true ∧
      (hub₁ (formatInternalServiceExportName a)).isSome = true ∧
      (exportService ['m'] b svcB hub₁).1 = .requeue ∧
      (exportService ['m'] b svcB hub₁).2 (formatInternalServiceExportName a) = none := by
  intro a b svcA svcB hub₁
  have hsame : formatInternalServiceExportName b = formatInternalServiceExportName a := by decide
  -- the first export creates A's object, which the second one then finds under B's name
  have hstored : hub₁ (formatInternalServiceExportName b) =
      some ⟨(FromMetaObjects ['m'] svcA.objMeta).UpdateFromMetaObject svcA.objMeta, svcA.ports⟩ := by
    rw [hsame]
    simp [hub₁, exportService]
  have hsecond : exportService ['m'] b svcB hub₁ = (.requeue, unexportService b hub₁) := by
    rw [exportService_uid_mismatch hstored]
    decide
  refine ⟨by decide, by decide, by decide, by decide, by decide, ?_, by rw [hsecond], ?_⟩
  · rw [← hsame, hstored]
    rfl
  · rw [hsecond, ← hsame]
    simp [unexportService]

end FleetNet
