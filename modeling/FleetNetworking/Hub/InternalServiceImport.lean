import FleetNetworking.Hub.ServiceExport

/-!
# The hub import-claim protocol

A member cluster that wants to import a Service uploads an InternalServiceImport into its
cluster namespace on the hub.  The InternalServiceImport controller lets one member cluster at
a time import the Service: the ServiceInUseBy annotation of the ServiceImport names the
clusters whose import holds, and `Reconcile`

* requeues while the ServiceImport lists no cluster yet;
* withdraws (`withdrawServiceImport`) when the InternalServiceImport or the ServiceImport is
  being deleted: it takes the cluster out of the annotation, then drops the
  internalsvcimport-cleanup finalizer;
* fulfills the import of a cluster the annotation names (`fulfillInternalServiceImport`), and
  clears the status and the finalizer of any other (`clearInternalServiceImportStatus`), also
  when the ServiceImport is gone;
* claims a ServiceImport whose annotation names no cluster: it adds the finalizer, then
  annotates the ServiceImport, then fulfills.

The model is built as the one of `Hub.ServiceExport`: the store holds the ServiceImport under
the key `()` and the InternalServiceImports by cluster namespace; a reconcile of one
InternalServiceImport is a program point with the copies it has read (`Reconcile`), and each
step makes one API call (`reconcileStep`); the members and the ServiceImport's other writers
move in `EnvStep`; `Step` lets all of them move, in any order.

The annotation is text: `json.Marshal` of a `ServiceInUseBy`.  `Codec` is the pair
`json.Marshal`, `json.Unmarshal` of that type, with the law the controller rests on.
-/

namespace FleetNet.Hub.ImportClaim

open ObjectStore VStore

/-! ## Objects -/

/-- `ServiceInUseBy.MemberClusters`: the importing clusters by cluster namespace, with their
cluster IDs. -/
abbrev ServiceInUseBy (N C : Type) := AList fun _ : N => C

/-- `json.Marshal` and `json.Unmarshal` of a `ServiceInUseBy`: what is marshalled unmarshals
back. -/
structure Codec (N C S : Type) where
  marshal : ServiceInUseBy N C → S
  unmarshal : S → Option (ServiceInUseBy N C)
  unmarshal_marshal : ∀ m, unmarshal (marshal m) = some m

/-- A ServiceImport, the parts this controller reads and writes: its ServiceInUseBy
annotation, whether it carries serviceimport-cleanup, whether it is being deleted, and its
status. -/
structure ServiceImport (S C P : Type) where
  serviceInUseBy : Option S
  finalizer : Bool
  deleting : Bool
  status : ServiceImportStatus C P
  deriving DecidableEq

/-- An InternalServiceImport, the parts this controller reads and writes: the cluster ID of its
`ServiceImportReference`, whether it is being deleted, whether it carries
internalsvcimport-cleanup, and its status. -/
structure InternalServiceImport (C P : Type) where
  clusterID : C
  deleting : Bool
  finalizer : Bool
  status : ServiceImportStatus C P
  deriving DecidableEq

variable {N S C P : Type}

/-- Being deleted with no finalizer left: the API server removes the ServiceImport. -/
def ServiceImport.released (si : ServiceImport S C P) : Bool := si.deleting && !si.finalizer

/-- Being deleted with no finalizer left: the API server removes the InternalServiceImport. -/
def InternalServiceImport.released (e : InternalServiceImport C P) : Bool :=
  e.deleting && !e.finalizer

variable [DecidableEq N]

/-- `extractServiceInUseByInfoFromServiceImport`: the decoded annotation, or no cluster when it
is absent or does not decode. -/
def extractServiceInUseByInfoFromServiceImport (codec : Codec N C S) (si : ServiceImport S C P) :
    ServiceInUseBy N C :=
  match si.serviceInUseBy with
  | none => ∅
  | some data => (codec.unmarshal data).getD ∅

/-- The ServiceImport `annotateServiceImportWithServiceInUseByInfo` writes: the annotation, and
the finalizer. -/
def annotateServiceImportWithServiceInUseByInfo (codec : Codec N C S) (si : ServiceImport S C P)
    (svcInUseBy : ServiceInUseBy N C) : ServiceImport S C P :=
  { si with serviceInUseBy := some (codec.marshal svcInUseBy), finalizer := true }

/-- The ServiceImport `clearServiceInUseByInfoFromServiceImport` writes: no annotation, no
finalizer. -/
def clearServiceInUseByInfoFromServiceImport (si : ServiceImport S C P) : ServiceImport S C P :=
  { si with serviceInUseBy := none, finalizer := false }

section Extract

omit [DecidableEq N]

variable {codec : Codec N C S} {si : ServiceImport S C P} {m : ServiceInUseBy N C}

@[simp] lemma extract_annotate :
    extractServiceInUseByInfoFromServiceImport codec
      (annotateServiceImportWithServiceInUseByInfo codec si m) = m := by
  simp [extractServiceInUseByInfoFromServiceImport, annotateServiceImportWithServiceInUseByInfo,
    codec.unmarshal_marshal]

@[simp] lemma extract_clear :
    extractServiceInUseByInfoFromServiceImport codec (clearServiceInUseByInfoFromServiceImport si) =
      ∅ := rfl

end Extract

/-! ## The store -/

/-- The hub objects of one Service's import: its ServiceImport, under the single key `()`, and
the InternalServiceImports by cluster namespace. -/
structure ImportStore (N S C P : Type) where
  serviceImport : VStore Unit (ServiceImport S C P)
  imports : VStore N (InternalServiceImport C P)

/-! ## The InternalServiceImport controller -/

/-- Where a reconcile of one InternalServiceImport stands, with the copies it has read. -/
inductive Reconcile (N S C P : Type) where
  /-- no reconcile is running -/
  | idle
  /-- `Reconcile`: get the ServiceImport the InternalServiceImport references -/
  | getServiceImport (isi : Versioned (InternalServiceImport C P))
  /-- `clearInternalServiceImportStatus`: `removeInternalServiceImportCleanupFinalizer` -/
  | clearFinalizer (isi : Versioned (InternalServiceImport C P))
  /-- `clearInternalServiceImportStatus`: `Status().Update` with the zero status -/
  | clearStatus (isi : Versioned (InternalServiceImport C P))
  /-- `withdrawServiceImport`: the ServiceImport without the cluster in its annotation is
  written -/
  | withdrawUpdate (isi : Versioned (InternalServiceImport C P))
      (si : Versioned (ServiceImport S C P)) (svcInUseBy : ServiceInUseBy N C)
  /-- `withdrawServiceImport`: `removeInternalServiceImportCleanupFinalizer` -/
  | withdrawFinalizer (isi : Versioned (InternalServiceImport C P))
  /-- `addInternalServiceImportCleanupFinalizer` -/
  | addFinalizer (isi : Versioned (InternalServiceImport C P))
      (si : Versioned (ServiceImport S C P)) (svcInUseBy : ServiceInUseBy N C)
  /-- `annotateServiceImportWithServiceInUseByInfo`, with the claim of the cluster -/
  | annotate (isi : Versioned (InternalServiceImport C P))
      (si : Versioned (ServiceImport S C P)) (svcInUseBy : ServiceInUseBy N C)
  /-- `fulfillInternalServiceImport`: `Status().Update` with the status of the ServiceImport -/
  | fulfill (isi : Versioned (InternalServiceImport C P)) (status : ServiceImportStatus C P)

/-- What one step of a reconcile did: where the reconcile is now, the store after the step,
whether the step wrote or tried to, and whether a step that ends the reconcile asked to run it
again (a requeue or an error). -/
structure ReconcileResult (N S C P : Type) where
  next : Reconcile N S C P
  store : ImportStore N S C P
  wrote : Bool
  requeued : Bool

/-- A step that only read. -/
def ReconcileResult.read (next : Reconcile N S C P) (st : ImportStore N S C P) :
    ReconcileResult N S C P :=
  ⟨next, st, false, false⟩

section Read

omit [DecidableEq N]

variable {next : Reconcile N S C P} {st : ImportStore N S C P}

@[simp] lemma ReconcileResult.read_next : (ReconcileResult.read next st).next = next := rfl
@[simp] lemma ReconcileResult.read_store : (ReconcileResult.read next st).store = st := rfl
@[simp] lemma ReconcileResult.read_wrote : (ReconcileResult.read next st).wrote = false := rfl

end Read

variable [DecidableEq C] [DecidableEq P]

/-- `clearInternalServiceImportStatus`: drop the finalizer if it is there, then clear the status
unless it is clear already. -/
def clearInternalServiceImportStatus (isi : Versioned (InternalServiceImport C P)) :
    Reconcile N S C P :=
  if isi.val.finalizer then .clearFinalizer isi
  else if isi.val.status = .zero then .idle
  else .clearStatus isi

/-- `withdrawServiceImport`: take the cluster out of the annotation when it is there, then drop
the finalizer. -/
def withdrawServiceImport (codec : Codec N C S) (ns : N) (si : Versioned (ServiceImport S C P))
    (isi : Versioned (InternalServiceImport C P)) : Reconcile N S C P :=
  let svcInUseBy := extractServiceInUseByInfoFromServiceImport codec si.val
  if ns ∈ svcInUseBy then .withdrawUpdate isi si (svcInUseBy.erase ns)
  else .withdrawFinalizer isi

/-- `fulfillInternalServiceImport`.  Its test for a status that is the ServiceImport's already
compares the `ServiceImportStatus` of the InternalServiceImport with the `*ServiceImportStatus`
that `DeepCopy` returns; `reflect.DeepEqual` of values of two types is false, so the
`Status().Update` is sent every time.  The API server makes an update that changes nothing a
no-op (the `fulfill` step). -/
def fulfillInternalServiceImport (si : Versioned (ServiceImport S C P))
    (isi : Versioned (InternalServiceImport C P)) : Reconcile N S C P :=
  .fulfill isi si.val.status

/-- One step of the reconcile of the InternalServiceImport of cluster namespace `ns`. -/
def reconcileStep (codec : Codec N C S) (ns : N) (st : ImportStore N S C P) :
    Reconcile N S C P → ReconcileResult N S C P
  | .idle =>
    -- a missing InternalServiceImport is ignored
    match st.imports.get ns with
    | none => .read .idle st
    | some isi => .read (.getServiceImport isi) st
  | .getServiceImport isi =>
    match st.serviceImport.get () with
    | none => .read (clearInternalServiceImportStatus isi) st
    | some si =>
      if !si.val.deleting && si.val.status.clusters = [] then ⟨.idle, st, false, true⟩
      else if isi.val.deleting || si.val.deleting then
        if isi.val.finalizer then .read (withdrawServiceImport codec ns si isi) st
        else .read .idle st
      else
        let svcInUseBy := extractServiceInUseByInfoFromServiceImport codec si.val
        if 0 < svcInUseBy.keys.length then
          if ns ∈ svcInUseBy then .read (fulfillInternalServiceImport si isi) st
          else .read (clearInternalServiceImportStatus isi) st
        else
          -- `addInternalServiceImportCleanupFinalizer` writes only when the finalizer is missing
          let claim := svcInUseBy.insert ns isi.val.clusterID
          if isi.val.finalizer then .read (.annotate isi si claim) st
          else .read (.addFinalizer isi si claim) st
  | .clearFinalizer isi =>
    let e := { isi.val with finalizer := false }
    match st.imports.updateReleasing? InternalServiceImport.released ns isi.rv e with
    | some imports =>
      if e.status = .zero then ⟨.idle, { st with imports }, true, false⟩
      else ⟨.clearStatus ⟨st.imports.clock + 1, e⟩, { st with imports }, true, false⟩
    | none => ⟨.idle, st, true, true⟩
  | .clearStatus isi =>
    match st.imports.update? ns isi.rv { isi.val with status := .zero } with
    | some imports => ⟨.idle, { st with imports }, true, false⟩
    | none => ⟨.idle, st, true, true⟩
  | .withdrawUpdate isi si svcInUseBy =>
    let si' :=
      if 0 < svcInUseBy.keys.length then
        annotateServiceImportWithServiceInUseByInfo codec si.val svcInUseBy
      else clearServiceInUseByInfoFromServiceImport si.val
    match st.serviceImport.updateReleasing? ServiceImport.released () si.rv si' with
    | some sis => ⟨.withdrawFinalizer isi, { st with serviceImport := sis }, true, false⟩
    | none => ⟨.idle, st, true, true⟩
  | .withdrawFinalizer isi =>
    match st.imports.updateReleasing? InternalServiceImport.released ns isi.rv
        { isi.val with finalizer := false } with
    | some imports => ⟨.idle, { st with imports }, true, false⟩
    | none => ⟨.idle, st, true, true⟩
  | .addFinalizer isi si svcInUseBy =>
    let e := { isi.val with finalizer := true }
    match st.imports.update? ns isi.rv e with
    | some imports =>
      ⟨.annotate ⟨st.imports.clock + 1, e⟩ si svcInUseBy, { st with imports }, true, false⟩
    | none => ⟨.idle, st, true, true⟩
  | .annotate isi si svcInUseBy =>
    match st.serviceImport.update? () si.rv
        (annotateServiceImportWithServiceInUseByInfo codec si.val svcInUseBy) with
    | some sis =>
      ⟨fulfillInternalServiceImport si isi, { st with serviceImport := sis }, true, false⟩
    | none => ⟨.idle, st, true, true⟩
  | .fulfill isi status =>
    match st.imports.update? ns isi.rv { isi.val with status } with
    | some imports =>
      -- an update of the current version to the same object is a no-op of the API server:
      -- no new resourceVersion and no event
      if isi.val.status = status then ⟨.idle, st, false, false⟩
      else ⟨.idle, { st with imports }, true, false⟩
    | none => ⟨.idle, st, true, true⟩

/-! ## The protocol -/

/-- What the others do: a member cluster creates or deletes its InternalServiceImport; the
ServiceImport is created (with no annotation), its status changes, it is deleted. -/
inductive EnvStep : ImportStore N S C P → ImportStore N S C P → Prop
  | createImport {st : ImportStore N S C P} (ns : N) (clusterID : C)
      (h : st.imports.get ns = none) :
      EnvStep st { st with imports := st.imports.put ns ⟨clusterID, false, false, .zero⟩ }
  | deleteImport {st : ImportStore N S C P} (ns : N) {v : Versioned (InternalServiceImport C P)}
      (h : st.imports.get ns = some v) (hlive : v.val.deleting = false) :
      EnvStep st { st with
        imports := if v.val.finalizer then st.imports.put ns { v.val with deleting := true }
          else st.imports.erase ns }
  | createServiceImport {st : ImportStore N S C P} (status : ServiceImportStatus C P)
      (h : st.serviceImport.get () = none) :
      EnvStep st { st with serviceImport := st.serviceImport.put () ⟨none, false, false, status⟩ }
  | updateServiceImportStatus {st : ImportStore N S C P} (status : ServiceImportStatus C P)
      {v : Versioned (ServiceImport S C P)} (h : st.serviceImport.get () = some v) :
      EnvStep st { st with serviceImport := st.serviceImport.put () { v.val with status } }
  | deleteServiceImport {st : ImportStore N S C P} {v : Versioned (ServiceImport S C P)}
      (h : st.serviceImport.get () = some v) (hlive : v.val.deleting = false) :
      EnvStep st { st with
        serviceImport := if v.val.finalizer then st.serviceImport.put () { v.val with deleting := true }
          else st.serviceImport.erase () }

/-- The state of the protocol: the store and where the reconcile of every InternalServiceImport
stands. -/
structure ClaimState (N S C P : Type) where
  store : ImportStore N S C P
  reconciles : N → Reconcile N S C P

/-- The state after a step of the reconcile of cluster namespace `ns`. -/
def ClaimState.afterReconcile (codec : Codec N C S) (s : ClaimState N S C P) (ns : N) :
    ClaimState N S C P :=
  let r := reconcileStep codec ns s.store (s.reconciles ns)
  { store := r.store, reconciles := Function.update s.reconciles ns r.next }

/-- One step of the protocol: a step of a reconcile, or of the others. -/
inductive Step (codec : Codec N C S) : ClaimState N S C P → ClaimState N S C P → Prop
  | reconcile (s : ClaimState N S C P) (ns : N) : Step codec s (s.afterReconcile codec ns)
  | env {s : ClaimState N S C P} {st : ImportStore N S C P} (h : EnvStep s.store st) :
      Step codec s { s with store := st }

/-- The protocol starts with no object and no reconcile running. -/
def ClaimState.Init (s : ClaimState N S C P) : Prop :=
  s.store = ⟨.empty, .empty⟩ ∧ ∀ ns, s.reconciles ns = .idle

/-- The states the protocol reaches. -/
abbrev ClaimState.Reachable (codec : Codec N C S) (s : ClaimState N S C P) : Prop :=
  ObjectStore.Reachable ClaimState.Init (Step codec) s

end FleetNet.Hub.ImportClaim
