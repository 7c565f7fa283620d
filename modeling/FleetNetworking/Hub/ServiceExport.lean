import FleetNetworking.Lib.ObjectStore

/-!
# The hub export protocol

On the hub, each member cluster that exports a Service uploads an InternalServiceExport, and
two controllers merge these into the ServiceImport of the Service:

* the InternalServiceExport controller (`Reconcile`, `handleUpdate`, `handleDelete`) adds the
  cluster of an export to `Status.Clusters` of the ServiceImport when its ports are the ones
  `Status.Ports` resolved, takes it out otherwise, marks the export conflicted or not, and on
  deletion takes the cluster out before it drops the export's finalizer;
* the ServiceImport controller (`Reconcile`) resolves `Status.Ports` from the first finalized
  live export it lists, while no cluster is listed, and marks every export conflicted or not.

This module models the protocol for one Service.  The store holds the ServiceImport status
and the exports by cluster, under optimistic concurrency (`ObjectStore.VStore`).  A reconcile is
a program point of its controller with the copies it has read; each step makes one API call and
the local computation after it (`exportStep`, `importStep`).  Reconciles of one key are
serialized, so there is one program point per export and one for the ServiceImport.  The
members create exports, change their ports and delete them (`EnvStep`).  `Step` lets any of
them move, in any order.

Cluster IDs and ports are parameters with decidable equality; `DeepEqual` of port lists is list
equality.
-/

namespace FleetNet.Hub

open ObjectStore VStore

/-! ## Objects -/

/-- `metav1.ConditionStatus` of the conflict condition. -/
inductive ConditionStatus where
  | True
  | False
  deriving DecidableEq, Repr

/-- The reasons of the `ServiceExportConflict` condition. -/
inductive ConflictReason where
  | NoConflictFound
  | ConflictFound
  deriving DecidableEq, Repr

/-- The `ServiceExportConflict` condition of an export. -/
structure Condition where
  status : ConditionStatus
  reason : ConflictReason
  observedGeneration : ℕ
  deriving DecidableEq, Repr

/-- `EqualCondition`: type, status and reason agree, and the current condition is not older. -/
def EqualCondition : Option Condition → Option Condition → Bool
  | none, none => true
  | some current, some desired =>
    current.status == desired.status && current.reason == desired.reason &&
      decide (current.observedGeneration ≥ desired.observedGeneration)
  | _, _ => false

/-- An InternalServiceExport: the cluster it comes from, its ports, its generation, whether it
is being deleted, whether it carries `InternalServiceExportFinalizer`, and its
`ServiceExportConflict` condition. -/
structure InternalServiceExport (C P : Type) where
  clusterID : C
  ports : List P
  generation : ℕ
  deleting : Bool
  finalizer : Bool
  conflictCondition : Option Condition
  deriving DecidableEq, Repr

/-- `ServiceImportType`. -/
inductive ServiceImportType where
  | ClusterSetIP
  | Headless
  deriving DecidableEq, Repr

/-- `ServiceImportStatus`, the fields these controllers write. -/
structure ServiceImportStatus (C P : Type) where
  ports : List P
  clusters : List C
  type : Option ServiceImportType
  deriving DecidableEq, Repr

/-- The zero value `ServiceImportStatus{}`. -/
def ServiceImportStatus.zero {C P : Type} : ServiceImportStatus C P := ⟨[], [], none⟩

variable {C P : Type} [DecidableEq C] [DecidableEq P]

/-- `condition.UnconflictedServiceExportConflictCondition`. -/
def UnconflictedServiceExportConflictCondition (e : InternalServiceExport C P) : Condition :=
  ⟨.False, .NoConflictFound, e.generation⟩

/-- `condition.ConflictedServiceExportConflictCondition`. -/
def ConflictedServiceExportConflictCondition (e : InternalServiceExport C P) : Condition :=
  ⟨.True, .ConflictFound, e.generation⟩

/-- The condition `updateInternalServiceExportStatus` and
`updateInternalServiceExportWithRetry` want. -/
def desiredConflictCondition (e : InternalServiceExport C P) (conflict : Bool) : Condition :=
  if conflict then ConflictedServiceExportConflictCondition e
  else UnconflictedServiceExportConflictCondition e

/-- `removeClusterFromServiceImportStatus`: without the cluster; the zero status when no cluster
is left. -/
def removeClusterFromServiceImportStatus (status : ServiceImportStatus C P) (clusterID : C) :
    ServiceImportStatus C P :=
  let updatedClusters := status.clusters.filter (· != clusterID)
  if updatedClusters = [] then .zero else { status with clusters := updatedClusters }

/-- `addClusterToServiceImportStatus`: the cluster appended unless it is listed. -/
def addClusterToServiceImportStatus (status : ServiceImportStatus C P) (clusterID : C) :
    ServiceImportStatus C P :=
  if clusterID ∈ status.clusters then status
  else { status with clusters := status.clusters ++ [clusterID] }

/-! ## The store -/

/-- The hub objects of one Service: its ServiceImport, under the single key `()`, and its
InternalServiceExports by cluster. -/
structure HubStore (C P : Type) where
  serviceImport : VStore Unit (ServiceImportStatus C P)
  exports : VStore C (InternalServiceExport C P)

/-- `Update` of an export: refused unless the version read is current; an export being deleted
whose last finalizer goes is then removed by the API server. -/
def updateExport (exports : VStore C (InternalServiceExport C P)) (c : C) (rv : ℕ)
    (e : InternalServiceExport C P) : Option (VStore C (InternalServiceExport C P)) :=
  (exports.update? c rv e).map fun s => if e.deleting && !e.finalizer then s.erase c else s

section UpdateExport

omit [DecidableEq P]

variable {ex : VStore C (InternalServiceExport C P)} {c : C} {rv : ℕ} {e : InternalServiceExport C P}

/-- An update that keeps the finalizer is a plain update. -/
lemma updateExport_of_finalizer (hf : e.finalizer = true) :
    updateExport ex c rv e = ex.update? c rv e := by
  simp [updateExport, hf]

/-- An update that drops the finalizer of an export being deleted removes the export. -/
lemma updateExport_of_release (hd : e.deleting = true) (hf : e.finalizer = false) :
    updateExport ex c rv e = (ex.update? c rv e).map (·.erase c) := by
  simp [updateExport, hd, hf]

end UpdateExport

/-- A delete request: an export with the finalizer is marked for deletion, one without goes. -/
def deleteExport (exports : VStore C (InternalServiceExport C P)) (c : C)
    (e : InternalServiceExport C P) : VStore C (InternalServiceExport C P) :=
  if e.finalizer then exports.put c { e with deleting := true } else exports.erase c

/-! ## The InternalServiceExport controller -/

/-- Where a reconcile of one export stands, with the copies it has read. -/
inductive ExportReconcile (C P : Type) where
  /-- no reconcile is running -/
  | idle
  /-- `Reconcile`: the export has no finalizer yet; it is added by an `Update` -/
  | addFinalizer (ise : Versioned (InternalServiceExport C P))
  /-- `handleUpdate`: get the ServiceImport -/
  | handleUpdateGet (ise : Versioned (InternalServiceExport C P))
  /-- `handleUpdate`: the ServiceImport is missing and is created -/
  | handleUpdateCreate (ise : Versioned (InternalServiceExport C P))
  /-- `handleUpdate`: the ports differ; the status without the cluster is written -/
  | handleUpdateRemove (ise : Versioned (InternalServiceExport C P))
      (si : Versioned (ServiceImportStatus C P)) (status : ServiceImportStatus C P)
  /-- `handleUpdate`: the ports agree; the status with the cluster is written -/
  | handleUpdateAdd (ise : Versioned (InternalServiceExport C P))
      (si : Versioned (ServiceImportStatus C P)) (status : ServiceImportStatus C P)
  /-- `updateInternalServiceExportStatus` -/
  | updateStatus (ise : Versioned (InternalServiceExport C P)) (conflict : Bool)
  /-- `handleDelete`: get the ServiceImport -/
  | handleDeleteGet (ise : Versioned (InternalServiceExport C P))
  /-- `handleDelete`: the status without the cluster is written -/
  | handleDeleteUpdate (ise : Versioned (InternalServiceExport C P))
      (si : Versioned (ServiceImportStatus C P)) (status : ServiceImportStatus C P)
  /-- `removeFinalizer` -/
  | removeFinalizer (ise : Versioned (InternalServiceExport C P))
  deriving DecidableEq

/-- What one step of a reconcile did: where the reconcile is now, the store after the step,
whether the step wrote or tried to, and whether a step that ends the reconcile asked to run it
again (a requeue or an error). -/
structure StepResult (π : Type) (C P : Type) where
  next : π
  store : HubStore C P
  wrote : Bool
  requeued : Bool

/-- A step that only read. -/
def StepResult.read {π : Type} (next : π) (st : HubStore C P) : StepResult π C P :=
  ⟨next, st, false, false⟩

section Read

omit [DecidableEq C] [DecidableEq P]

variable {π : Type} {next : π} {st : HubStore C P}

@[simp] lemma StepResult.read_next : (StepResult.read next st).next = next := rfl
@[simp] lemma StepResult.read_store : (StepResult.read next st).store = st := rfl
@[simp] lemma StepResult.read_wrote : (StepResult.read next st).wrote = false := rfl
@[simp] lemma StepResult.read_requeued : (StepResult.read next st).requeued = false := rfl

end Read

/-- One step of the reconcile of export `c`. -/
def exportStep (c : C) (st : HubStore C P) :
    ExportReconcile C P → StepResult (ExportReconcile C P) C P
  | .idle =>
    -- `Reconcile`: get the export; a missing one is ignored
    match st.exports.get c with
    | none => .read .idle st
    | some ise =>
      if ise.val.deleting then
        if ise.val.finalizer then .read (.handleDeleteGet ise) st else .read .idle st
      else if ise.val.finalizer then .read (.handleUpdateGet ise) st
      else .read (.addFinalizer ise) st
  | .addFinalizer ise =>
    let e := { ise.val with finalizer := true }
    match updateExport st.exports c ise.rv e with
    | some exports =>
      ⟨.handleUpdateGet ⟨st.exports.clock + 1, e⟩, { st with exports := exports }, true, false⟩
    | none => ⟨.idle, st, true, true⟩
  | .handleUpdateGet ise =>
    match st.serviceImport.get () with
    | none => .read (.handleUpdateCreate ise) st
    | some si =>
      if si.val.ports = [] then ⟨.idle, st, false, true⟩
      else if si.val.ports ≠ ise.val.ports then
        let status := removeClusterFromServiceImportStatus si.val ise.val.clusterID
        -- `updateServiceImportStatus` writes nothing when the status does not change
        if status = si.val then
          if status.ports = [] then ⟨.idle, st, false, true⟩ else .read (.updateStatus ise true) st
        else .read (.handleUpdateRemove ise si status) st
      else
        let status := addClusterToServiceImportStatus si.val ise.val.clusterID
        if status = si.val then .read (.updateStatus ise false) st
        else .read (.handleUpdateAdd ise si status) st
  | .handleUpdateCreate _ =>
    -- the new ServiceImport has no ports yet: wait for the ServiceImport controller
    match st.serviceImport.create? () .zero with
    | some si => ⟨.idle, { st with serviceImport := si }, true, true⟩
    | none => ⟨.idle, st, true, true⟩
  | .handleUpdateRemove ise si status =>
    match st.serviceImport.update? () si.rv status with
    | some sis =>
      if status.ports = [] then ⟨.idle, { st with serviceImport := sis }, true, true⟩
      else ⟨.updateStatus ise true, { st with serviceImport := sis }, true, false⟩
    | none => ⟨.idle, st, true, true⟩
  | .handleUpdateAdd ise si status =>
    match st.serviceImport.update? () si.rv status with
    | some sis => ⟨.updateStatus ise false, { st with serviceImport := sis }, true, false⟩
    | none => ⟨.idle, st, true, true⟩
  | .updateStatus ise conflict =>
    let desired := desiredConflictCondition ise.val conflict
    if EqualCondition ise.val.conflictCondition (some desired) then .read .idle st
    else
      match st.exports.update? c ise.rv { ise.val with conflictCondition := some desired } with
      | some exports => ⟨.idle, { st with exports := exports }, true, false⟩
      | none => ⟨.idle, st, true, true⟩
  | .handleDeleteGet ise =>
    match st.serviceImport.get () with
    | none => .read (.removeFinalizer ise) st
    | some si =>
      if si.val.ports = [] then ⟨.idle, st, false, true⟩
      else
        let status := removeClusterFromServiceImportStatus si.val ise.val.clusterID
        if status = si.val then .read (.removeFinalizer ise) st
        else .read (.handleDeleteUpdate ise si status) st
  | .handleDeleteUpdate ise si status =>
    match st.serviceImport.update? () si.rv status with
    | some sis => ⟨.removeFinalizer ise, { st with serviceImport := sis }, true, false⟩
    | none => ⟨.idle, st, true, true⟩
  | .removeFinalizer ise =>
    match updateExport st.exports c ise.rv { ise.val with finalizer := false } with
    | some exports => ⟨.idle, { st with exports := exports }, true, false⟩
    | none => ⟨.idle, st, true, true⟩

/-! ## The ServiceImport controller -/

/-- `statusChange`: the exports to mark conflicting and not, with their keys. -/
structure StatusChange (C P : Type) where
  conflict : List (C × Versioned (InternalServiceExport C P))
  noConflict : List (C × Versioned (InternalServiceExport C P))

/-- One turn of the loop of `Reconcile` over the listed exports: skip a deleting export and
one without the finalizer; the first kept one resolves the ports. -/
def resolveStep (acc : Option (List P) × StatusChange C P)
    (item : C × Versioned (InternalServiceExport C P)) : Option (List P) × StatusChange C P :=
  let v := item.2.val
  if v.deleting then acc
  else if !v.finalizer then acc
  else
    let resolvedPortsSpec := acc.1.getD v.ports
    if resolvedPortsSpec ≠ v.ports then
      (some resolvedPortsSpec, { acc.2 with conflict := acc.2.conflict ++ [item] })
    else (some resolvedPortsSpec, { acc.2 with noConflict := acc.2.noConflict ++ [item] })

/-- The loop of `Reconcile` over the listed exports. -/
def resolvePorts (items : List (C × Versioned (InternalServiceExport C P))) :
    Option (List P) × StatusChange C P :=
  items.foldl resolveStep (none, ⟨[], []⟩)

/-- A listed export the loop does not skip: live, with the finalizer. -/
def resolvable (item : C × Versioned (InternalServiceExport C P)) : Bool :=
  !item.2.val.deleting && item.2.val.finalizer

/-- What the loop computes: the ports of the first export it keeps, and the exports it keeps
split by whether they have those ports. -/
def resolvePortsSpec (items : List (C × Versioned (InternalServiceExport C P))) :
    Option (List P) × StatusChange C P :=
  match items.filter resolvable with
  | [] => (none, ⟨[], []⟩)
  | it :: _ =>
    let kept := items.filter resolvable
    (some it.2.val.ports,
      ⟨kept.filter (·.2.val.ports != it.2.val.ports), kept.filter (·.2.val.ports == it.2.val.ports)⟩)

section ResolvePorts

variable {acc : Option (List P) × StatusChange C P} {item : C × Versioned (InternalServiceExport C P)}

omit [DecidableEq C] in
lemma resolveStep_of_not_resolvable (h : resolvable item = false) : resolveStep acc item = acc := by
  simp only [resolvable, Bool.and_eq_false_iff, Bool.not_eq_false'] at h
  rcases h with h | h <;> simp [resolveStep, h]

omit [DecidableEq C] in
/-- Once the ports are resolved, the loop sorts every export it keeps by them. -/
lemma foldl_resolveStep_some (l : List (C × Versioned (InternalServiceExport C P))) (p : List P)
    (ch : StatusChange C P) :
    l.foldl resolveStep (some p, ch) =
      (some p, ⟨ch.conflict ++ (l.filter resolvable).filter (·.2.val.ports != p),
        ch.noConflict ++ (l.filter resolvable).filter (·.2.val.ports == p)⟩) := by
  induction l generalizing ch with
  | nil => simp
  | cons it l ih =>
    rw [List.foldl_cons]
    cases hr : resolvable it
    · rw [resolveStep_of_not_resolvable hr, ih]
      simp [hr]
    · have hd : it.2.val.deleting = false ∧ it.2.val.finalizer = true := by
        simpa [resolvable] using hr
      by_cases hp : p = it.2.val.ports
      · subst hp
        simp [resolveStep, hd, ih, hr]
      · simp [resolveStep, hd, hp, ih, hr, Ne.symm hp]

omit [DecidableEq C] in
/-- **The loop meets its statement.** -/
theorem resolvePorts_eq_spec (items : List (C × Versioned (InternalServiceExport C P))) :
    resolvePorts items = resolvePortsSpec items := by
  induction items with
  | nil => rfl
  | cons it l ih =>
    unfold resolvePorts at ih ⊢
    rw [List.foldl_cons]
    cases hr : resolvable it
    · rw [resolveStep_of_not_resolvable hr, ih]
      simp [resolvePortsSpec, hr]
    · -- the first export kept resolves the ports and is unconflicted
      have hd : it.2.val.deleting = false ∧ it.2.val.finalizer = true := by
        simpa [resolvable] using hr
      simp [resolveStep, hd, foldl_resolveStep_some, resolvePortsSpec, hr]

omit [DecidableEq C] [DecidableEq P] in
lemma resolvable_eq_true :
    resolvable item = true ↔ item.2.val.deleting = false ∧ item.2.val.finalizer = true := by
  simp [resolvable]

variable {items : List (C × Versioned (InternalServiceExport C P))} {r : Option (List P)}
  {ch : StatusChange C P}

omit [DecidableEq C] in
/-- Both lists the loop builds keep exports in the order listed. -/
lemma resolvePorts_sublist (h : resolvePorts items = (r, ch)) :
    List.Sublist ch.noConflict (items.filter resolvable) ∧
      List.Sublist ch.conflict (items.filter resolvable) := by
  rw [resolvePorts_eq_spec, resolvePortsSpec] at h
  split at h
  · cases h
    exact ⟨List.nil_sublist _, List.nil_sublist _⟩
  · cases h
    exact ⟨List.filter_sublist, List.filter_sublist⟩

omit [DecidableEq C] in
/-- The loop marks only live listed exports with the finalizer. -/
lemma mem_resolvePorts (h : resolvePorts items = (r, ch))
    (hit : item ∈ ch.noConflict ++ ch.conflict) : item ∈ items ∧ resolvable item = true := by
  have hs := resolvePorts_sublist h
  rcases List.mem_append.mp hit with hit | hit
  · exact List.mem_filter.mp (hs.1.subset hit)
  · exact List.mem_filter.mp (hs.2.subset hit)

end ResolvePorts

/-- How `updateInternalServiceExportWithRetry` ends. -/
inductive RetryResult (C P : Type) where
  /-- nil: the condition was already right, or the status write went through -/
  | ok (exports : VStore C (InternalServiceExport C P)) (wrote : Bool)
  /-- the export is gone -/
  | notFound
  /-- any other error, such as a version conflict -/
  | failed

/-- `updateInternalServiceExportWithRetry` on the listed copy of an export.  The retries are on
transient errors only; a version conflict is returned. -/
def updateInternalServiceExportWithRetry (exports : VStore C (InternalServiceExport C P))
    (item : C × Versioned (InternalServiceExport C P)) (conflict : Bool) : RetryResult C P :=
  let v := item.2
  let desired := desiredConflictCondition v.val conflict
  if EqualCondition v.val.conflictCondition (some desired) then .ok exports false
  else
    match exports.update? item.1 v.rv { v.val with conflictCondition := some desired } with
    | some exports' => .ok exports' true
    | none => if exports.get item.1 = none then .notFound else .failed

omit [DecidableEq P] in
/-- A retry that ends well wrote nothing, as the condition was right, or wrote the condition
at the version listed. -/
lemma updateInternalServiceExportWithRetry_eq_ok {exports exports' : VStore C (InternalServiceExport C P)}
    {item : C × Versioned (InternalServiceExport C P)} {conflict wrote : Bool}
    (h : updateInternalServiceExportWithRetry exports item conflict = .ok exports' wrote) :
    (EqualCondition item.2.val.conflictCondition
        (some (desiredConflictCondition item.2.val conflict)) = true ∧
      wrote = false ∧ exports' = exports) ∨
    (wrote = true ∧ (∃ v, exports.get item.1 = some v ∧ v.rv = item.2.rv) ∧
      exports' = exports.put item.1
        { item.2.val with conflictCondition := some (desiredConflictCondition item.2.val conflict) }) := by
  unfold updateInternalServiceExportWithRetry at h
  dsimp only at h
  split_ifs at h with heq
  · cases h
    exact Or.inl ⟨heq, rfl, rfl⟩
  -- the two ways of failing do not end well
  all_goals
    split at h
    · rename_i hu
      cases h
      exact Or.inr ⟨rfl, update?_eq_some.mp hu⟩
    · cases h

/-- Where a reconcile of the ServiceImport stands, with what it has read and computed. -/
inductive ImportReconcile (C P : Type) where
  /-- no reconcile is running -/
  | idle
  /-- list the exports of the Service -/
  | list (si : Versioned (ServiceImportStatus C P))
  /-- `deleteServiceImport` -/
  | deleteServiceImport
  /-- mark the exports of the resolved ports unconflicted, collecting their clusters -/
  | markNoConflict (si : Versioned (ServiceImportStatus C P)) (resolved : List P)
      (noConflict : List (C × Versioned (InternalServiceExport C P))) (clusters : List C)
      (conflict : List (C × Versioned (InternalServiceExport C P)))
  /-- mark the other exports conflicted -/
  | markConflict (si : Versioned (ServiceImportStatus C P)) (resolved : List P)
      (clusters : List C) (conflict : List (C × Versioned (InternalServiceExport C P)))
  /-- write the resolved status -/
  | updateStatus (si : Versioned (ServiceImportStatus C P)) (resolved : List P)
      (clusters : List C)

/-- One step of the reconcile of the ServiceImport; `listing` is what a `List` call returns. -/
def importStep (listing : List (C × Versioned (InternalServiceExport C P))) (st : HubStore C P) :
    ImportReconcile C P → StepResult (ImportReconcile C P) C P
  | .idle =>
    match st.serviceImport.get () with
    | none => .read .idle st
    | some si =>
      -- the spec is resolved already while a cluster is listed
      if si.val.clusters ≠ [] then .read .idle st else .read (.list si) st
  | .list si =>
    if listing = [] then .read .deleteServiceImport st
    else
      match resolvePorts listing with
      | (none, _) => .read .deleteServiceImport st
      | (some resolved, change) => .read (.markNoConflict si resolved change.noConflict [] change.conflict) st
  | .deleteServiceImport =>
    -- `Delete` takes no precondition; `NotFound` is ignored
    ⟨.idle, { st with serviceImport := st.serviceImport.erase () }, true, false⟩
  | .markNoConflict si resolved [] clusters conflict =>
    -- with every unconflicted export gone, resolve again
    if clusters = [] then ⟨.idle, st, false, true⟩
    else .read (.markConflict si resolved clusters conflict) st
  | .markNoConflict si resolved (item :: rest) clusters conflict =>
    match updateInternalServiceExportWithRetry st.exports item false with
    | .ok exports wrote =>
      ⟨.markNoConflict si resolved rest (clusters ++ [item.2.val.clusterID]) conflict,
        { st with exports := exports }, wrote, false⟩
    | .notFound => ⟨.markNoConflict si resolved rest clusters conflict, st, true, false⟩
    | .failed => ⟨.idle, st, true, true⟩
  | .markConflict si resolved clusters [] => .read (.updateStatus si resolved clusters) st
  | .markConflict si resolved clusters (item :: rest) =>
    match updateInternalServiceExportWithRetry st.exports item true with
    | .ok exports wrote =>
      ⟨.markConflict si resolved clusters rest, { st with exports := exports }, wrote, false⟩
    -- `client.IgnoreNotFound`: a gone export ends the reconcile without an error
    | .notFound => ⟨.idle, st, true, false⟩
    | .failed => ⟨.idle, st, true, true⟩
  | .updateStatus si resolved clusters =>
    match st.serviceImport.update? () si.rv ⟨resolved, clusters, some .ClusterSetIP⟩ with
    | some sis => ⟨.idle, { st with serviceImport := sis }, true, false⟩
    | none => ⟨.idle, st, true, true⟩

/-! ## The protocol -/

/-- What the members do: create the export of a cluster that has none, change the ports of an
export, or delete one. -/
inductive EnvStep : HubStore C P → HubStore C P → Prop
  | create {st : HubStore C P} (c : C) (ports : List P) (h : st.exports.get c = none) :
      EnvStep st { st with exports := st.exports.put c ⟨c, ports, 1, false, false, none⟩ }
  | updatePorts {st : HubStore C P} (c : C) (ports : List P)
      {v : Versioned (InternalServiceExport C P)} (h : st.exports.get c = some v) :
      EnvStep st
        { st with exports := st.exports.put c { v.val with ports, generation := v.val.generation + 1 } }
  | delete {st : HubStore C P} (c : C) {v : Versioned (InternalServiceExport C P)}
      (h : st.exports.get c = some v) (hlive : v.val.deleting = false) :
      EnvStep st { st with exports := deleteExport st.exports c v.val }

/-- The state of the protocol: the store and where every reconcile stands. -/
structure HubState (C P : Type) where
  store : HubStore C P
  exportReconciles : C → ExportReconcile C P
  importReconcile : ImportReconcile C P

/-- The state after a step of the reconcile of export `c`. -/
def HubState.afterExport (s : HubState C P) (c : C) : HubState C P :=
  let r := exportStep c s.store (s.exportReconciles c)
  { s with store := r.store, exportReconciles := Function.update s.exportReconciles c r.next }

/-- The state after a step of the reconcile of the ServiceImport, with that `List` answer. -/
def HubState.afterImport (s : HubState C P)
    (listing : List (C × Versioned (InternalServiceExport C P))) : HubState C P :=
  let r := importStep listing s.store s.importReconcile
  { s with store := r.store, importReconcile := r.next }

/-- One step of the protocol: a reconcile of an export, of the ServiceImport, or a member. -/
inductive Step : HubState C P → HubState C P → Prop
  | export (s : HubState C P) (c : C) : Step s (s.afterExport c)
  | import (s : HubState C P) (listing : List (C × Versioned (InternalServiceExport C P)))
      (hl : s.store.exports.IsListing listing) : Step s (s.afterImport listing)
  | env {s : HubState C P} {st : HubStore C P} (h : EnvStep s.store st) : Step s { s with store := st }

/-- The protocol starts with no object and no reconcile running. -/
def HubState.Init (s : HubState C P) : Prop :=
  s.store = ⟨.empty, .empty⟩ ∧ (∀ c, s.exportReconciles c = .idle) ∧ s.importReconcile = .idle

/-- The states the protocol reaches. -/
abbrev HubState.Reachable (s : HubState C P) : Prop := ObjectStore.Reachable HubState.Init Step s

/-- The sample runs of both hub controllers take their clusters from `Fin 2`; its numerals all
use this one instance. -/
instance fin_two_neZero : NeZero (2 : ℕ) := ⟨by decide⟩

end FleetNet.Hub
