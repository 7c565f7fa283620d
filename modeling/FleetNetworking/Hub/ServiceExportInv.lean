import FleetNetworking.Hub.ServiceExport

/-!
# The invariant of the hub export protocol

The ServiceImport status is kept well formed: no cluster twice, the zero status when no cluster
is listed, and the finalizer on the export of every listed cluster (`StatusInv`).  Two facts
about reconciles in flight carry the last part.

* A reconcile of export `c` about to drop its finalizer has taken `c` out of the status, as
  long as its copy is current (`Withdrawn`): the export controller removes the cluster before
  the finalizer, and nothing adds it back meanwhile.
* The ServiceImport reconcile collects the clusters it will list from one `List` call and
  writes them much later.  While its copy of the ServiceImport is current the status is the zero
  one, so no export reconcile can get past the "wait while Ports is empty" guard of
  `handleDelete`: every collected export keeps its finalizer, and none is about to lose it
  (`Pending`).

This module states these as `Inv` and proves the lemmas saying how each kind of write to the
store affects them; `ServiceExportSafety` proves that every step keeps `Inv`.
-/

namespace FleetNet.Hub

open ObjectStore VStore

variable {C P : Type} [DecidableEq C]

/-! ## Statuses -/

section Status

variable {status : ServiceImportStatus C P} {c x : C}

lemma clusters_removeCluster_sublist :
    List.Sublist (removeClusterFromServiceImportStatus status c).clusters status.clusters := by
  unfold removeClusterFromServiceImportStatus
  dsimp only
  split_ifs
  · exact List.nil_sublist _
  · exact List.filter_sublist

lemma not_mem_removeCluster : c ∉ (removeClusterFromServiceImportStatus status c).clusters := by
  unfold removeClusterFromServiceImportStatus
  dsimp only
  split_ifs
  · simp [ServiceImportStatus.zero]
  · simp

/-- A removal that changes nothing finds the cluster unlisted. -/
lemma not_mem_of_removeCluster_eq (h : removeClusterFromServiceImportStatus status c = status) :
    c ∉ status.clusters := by
  rw [← h]
  exact not_mem_removeCluster

lemma mem_addCluster :
    x ∈ (addClusterToServiceImportStatus status c).clusters ↔ x ∈ status.clusters ∨ x = c := by
  unfold addClusterToServiceImportStatus
  split_ifs with hc
  · constructor
    · exact Or.inl
    · rintro (hx | rfl)
      exacts [hx, hc]
  · simp

/-- A cluster just added is listed. -/
lemma mem_addCluster_self : c ∈ (addClusterToServiceImportStatus status c).clusters :=
  mem_addCluster.mpr (Or.inr rfl)

lemma nodup_addCluster (h : status.clusters.Nodup) :
    (addClusterToServiceImportStatus status c).clusters.Nodup := by
  unfold addClusterToServiceImportStatus
  split_ifs with hc
  · exact h
  · rw [List.nodup_append_comm]
    exact List.nodup_cons.mpr ⟨hc, h⟩

end Status

/-- The export of cluster `x` carries `InternalServiceExportFinalizer`. -/
def HasFinalizer (ex : VStore C (InternalServiceExport C P)) (x : C) : Prop :=
  ∃ v, ex.get x = some v ∧ v.val.finalizer = true

/-- The export of cluster `k`, if there is one, has no finalizer: the API server may remove it. -/
def Unfinalized (ex : VStore C (InternalServiceExport C P)) (k : C) : Prop :=
  ∀ v, ex.get k = some v → v.val.finalizer = false

section HasFinalizer

variable {ex : VStore C (InternalServiceExport C P)} {x k : C} {e : InternalServiceExport C P}

lemma HasFinalizer.put (h : HasFinalizer ex x) (hfin : x = k → e.finalizer = true) :
    HasFinalizer (ex.put k e) x := by
  by_cases hx : x = k
  · subst hx
    exact ⟨_, get_put_self, hfin rfl⟩
  · obtain ⟨v, hv, hf⟩ := h
    exact ⟨v, by rw [get_put_ne hx]; exact hv, hf⟩

lemma HasFinalizer.erase (h : HasFinalizer ex x) (hx : x ≠ k) : HasFinalizer (ex.erase k) x := by
  obtain ⟨v, hv, hf⟩ := h
  exact ⟨v, by rw [get_erase_ne hx]; exact hv, hf⟩

omit [DecidableEq C] in
/-- The stored export of a cluster with the finalizer carries it. -/
lemma HasFinalizer.finalizer_eq {v : Versioned (InternalServiceExport C P)} (h : HasFinalizer ex x)
    (hv : ex.get x = some v) : v.val.finalizer = true := by
  obtain ⟨w, hw, hf⟩ := h
  rw [hv, Option.some.injEq] at hw
  exact hw ▸ hf

omit [DecidableEq C] in
/-- An export with the finalizer is not one without. -/
lemma HasFinalizer.ne (h : HasFinalizer ex x) (hk : Unfinalized ex k) : x ≠ k := by
  rintro rfl
  obtain ⟨v, hv, hf⟩ := h
  rw [hk v hv] at hf
  exact Bool.false_ne_true hf

end HasFinalizer

/-- What a stored ServiceImport status keeps: no cluster twice, the zero status when no cluster
is listed, and the finalizer on the export of every listed cluster. -/
structure StatusInv (ex : VStore C (InternalServiceExport C P))
    (status : ServiceImportStatus C P) : Prop where
  nodup : status.clusters.Nodup
  zero : status.clusters = [] → status = .zero
  listed : ∀ x ∈ status.clusters, HasFinalizer ex x

section StatusInv

variable {ex : VStore C (InternalServiceExport C P)} {status : ServiceImportStatus C P} {c k : C}
  {e : InternalServiceExport C P}

omit [DecidableEq C] in
lemma StatusInv.zeroStatus : StatusInv ex (.zero : ServiceImportStatus C P) where
  nodup := List.nodup_nil
  zero := fun _ => rfl
  listed := fun _ hx => by simp [ServiceImportStatus.zero] at hx

lemma StatusInv.removeCluster (h : StatusInv ex status) :
    StatusInv ex (removeClusterFromServiceImportStatus status c) where
  nodup := h.nodup.sublist clusters_removeCluster_sublist
  zero := by
    unfold removeClusterFromServiceImportStatus
    dsimp only
    split_ifs with hnil
    · exact fun _ => rfl
    · exact fun h' => absurd h' hnil
  listed := fun x hx => h.listed x (clusters_removeCluster_sublist.subset hx)

lemma StatusInv.addCluster (h : StatusInv ex status) (hc : HasFinalizer ex c) :
    StatusInv ex (addClusterToServiceImportStatus status c) where
  nodup := nodup_addCluster h.nodup
  zero := fun h' => absurd h' (List.ne_nil_of_mem mem_addCluster_self)
  listed := fun x hx => (mem_addCluster.mp hx).elim (h.listed x) fun hxc => hxc ▸ hc

lemma StatusInv.put (h : StatusInv ex status) (hfin : k ∈ status.clusters → e.finalizer = true) :
    StatusInv (ex.put k e) status where
  nodup := h.nodup
  zero := h.zero
  listed := fun x hx => (h.listed x hx).put fun hxk => hfin (hxk ▸ hx)

lemma StatusInv.erase (h : StatusInv ex status) (hk : k ∉ status.clusters) :
    StatusInv (ex.erase k) status where
  nodup := h.nodup
  zero := h.zero
  listed := fun x hx => (h.listed x hx).erase fun hxk => hk (hxk ▸ hx)

end StatusInv

/-! ## The store -/

/-- What the store keeps: versions given out by the clocks, each export under its own cluster,
and a well-formed ServiceImport status. -/
structure StoreInv (st : HubStore C P) : Prop where
  importWF : st.serviceImport.WF
  exportWF : st.exports.WF
  keyed : ∀ c v, st.exports.get c = some v → v.val.clusterID = c
  status : ∀ si, st.serviceImport.get () = some si → StatusInv st.exports si.val

section StoreInv

variable {st : HubStore C P} {status : ServiceImportStatus C P} {k : C}
  {e : InternalServiceExport C P}

omit [DecidableEq C] in
lemma StoreInv.init : StoreInv (⟨.empty, .empty⟩ : HubStore C P) where
  importWF := WF.empty
  exportWF := WF.empty
  keyed := fun _ _ h => by simp at h
  status := fun _ h => by simp at h

omit [DecidableEq C] in
lemma StoreInv.putStatus (h : StoreInv st) (hs : StatusInv st.exports status) :
    StoreInv { st with serviceImport := st.serviceImport.put () status } where
  importWF := h.importWF.put
  exportWF := h.exportWF
  keyed := h.keyed
  status := fun si hsi => by
    rw [get_put_self, Option.some.injEq] at hsi
    subst hsi
    exact hs

omit [DecidableEq C] in
lemma StoreInv.eraseImport (h : StoreInv st) :
    StoreInv { st with serviceImport := st.serviceImport.erase () } where
  importWF := h.importWF.erase
  exportWF := h.exportWF
  keyed := h.keyed
  status := fun _ hsi => by simp at hsi

lemma StoreInv.putExport (h : StoreInv st) (hk : e.clusterID = k)
    (hfin : ∀ si, st.serviceImport.get () = some si → k ∈ si.val.clusters → e.finalizer = true) :
    StoreInv { st with exports := st.exports.put k e } where
  importWF := h.importWF
  exportWF := h.exportWF.put
  keyed := fun c v hv => by
    rw [get_put] at hv
    split_ifs at hv with hck
    · cases hv
      exact hck ▸ hk
    · exact h.keyed c v hv
  status := fun si hsi => (h.status si hsi).put (hfin si hsi)

lemma StoreInv.eraseExport (h : StoreInv st) (hk : Unfinalized st.exports k) :
    StoreInv { st with exports := st.exports.erase k } where
  importWF := h.importWF
  exportWF := h.exportWF.erase
  keyed := fun c v hv => by
    by_cases hck : c = k
    · subst hck
      simp at hv
    · rw [get_erase_ne hck] at hv
      exact h.keyed c v hv
  status := fun si hsi =>
    (h.status si hsi).erase fun hks => ((h.status si hsi).listed k hks).ne hk rfl

end StoreInv

/-! ## Export reconciles in flight -/

namespace ExportReconcile

/-- The copy of its export a reconcile holds. -/
def copy : ExportReconcile C P → Option (Versioned (InternalServiceExport C P))
  | .idle => none
  | .addFinalizer ise | .handleUpdateGet ise | .handleUpdateCreate ise
  | .handleUpdateRemove ise _ _ | .handleUpdateAdd ise _ _ | .updateStatus ise _
  | .handleDeleteGet ise | .handleDeleteUpdate ise _ _ | .removeFinalizer ise => some ise

/-- The copy of the ServiceImport a reconcile holds to write it back. -/
def importCopy : ExportReconcile C P → Option (Versioned (ServiceImportStatus C P))
  | .handleUpdateRemove _ si _ | .handleUpdateAdd _ si _ | .handleDeleteUpdate _ si _ => some si
  | _ => none

/-- What a reconcile of export `c` knows of its copies: what it is about to write, and whether
its export was being deleted. -/
def Plan (c : C) : ExportReconcile C P → Prop
  | .addFinalizer ise => ise.val.deleting = false
  | .handleUpdateRemove _ si status => status = removeClusterFromServiceImportStatus si.val c
  | .handleUpdateAdd _ si status =>
    status = addClusterToServiceImportStatus si.val c ∧ si.val.ports ≠ []
  | .handleDeleteGet ise => ise.val.deleting = true
  | .handleDeleteUpdate ise si status =>
    ise.val.deleting = true ∧ status = removeClusterFromServiceImportStatus si.val c
  | .removeFinalizer ise => ise.val.deleting = true
  | _ => True

/-- The points of `handleUpdate` before the cluster is added, where the export carries the
finalizer. -/
def Finalized : ExportReconcile C P → Prop
  | .handleUpdateGet _ | .handleUpdateCreate _ | .handleUpdateAdd _ _ _ => True
  | _ => False

end ExportReconcile

/-- A reconcile of export `c` about to drop the finalizer of copy `ise`: while the copy is
current, `c` is not listed. -/
def Withdrawn (st : HubStore C P) (c : C) (ise : Versioned (InternalServiceExport C P)) : Prop :=
  ∀ w, st.exports.get c = some w → w.rv = ise.rv →
    ∀ si, st.serviceImport.get () = some si → c ∉ si.val.clusters

/-- The reconcile of export `x` is about to drop the finalizer, and its copy is current. -/
def Releasing (st : HubStore C P) (pcs : C → ExportReconcile C P) (x : C) : Prop :=
  ∃ ise, pcs x = .removeFinalizer ise ∧ ∃ v, st.exports.get x = some v ∧ v.rv = ise.rv

/-- The invariant of the reconcile of export `c` at `pc`. -/
structure ExportInv (st : HubStore C P) (c : C) (pc : ExportReconcile C P) : Prop where
  copy : ∀ ise, pc.copy = some ise → st.exports.Snapshot c ise ∧ ise.val.clusterID = c
  importCopy : ∀ si, pc.importCopy = some si → st.serviceImport.Snapshot () si
  plan : pc.Plan c
  finalized : pc.Finalized → HasFinalizer st.exports c
  withdrawn : ∀ ise, pc = .removeFinalizer ise → Withdrawn st c ise

section ExportInv

variable {st : HubStore C P} {c d k : C} {pc : ExportReconcile C P}
  {status : ServiceImportStatus C P} {e : InternalServiceExport C P}
  {ise : Versioned (InternalServiceExport C P)}

lemma ExportInv.idle : ExportInv st c .idle where
  copy := fun _ h => by cases h
  importCopy := fun _ h => by cases h
  plan := trivial
  finalized := fun h => h.elim
  withdrawn := fun _ h => by cases h

/-- `updateInternalServiceExportStatus` needs only its copy of the export. -/
lemma ExportInv.updateStatus {b : Bool} (h : st.exports.Snapshot c ise ∧ ise.val.clusterID = c) :
    ExportInv st c (.updateStatus ise b) :=
  ⟨fun _ e => by cases e; exact h, nofun, trivial, nofun, nofun⟩

/-- A reconcile about to drop a finalizer holds a copy no newer than the clock. -/
lemma ExportInv.rv_le (h : ExportInv st c pc) (hpc : pc = .removeFinalizer ise) :
    ise.rv ≤ st.exports.clock :=
  (h.copy ise (by rw [hpc]; rfl)).1.1

lemma ExportInv.putStatus (h : ExportInv st d pc)
    (hd : ∀ ise, pc = .removeFinalizer ise → ∀ w, st.exports.get d = some w → w.rv = ise.rv →
      d ∉ status.clusters) :
    ExportInv { st with serviceImport := st.serviceImport.put () status } d pc where
  copy := h.copy
  importCopy := fun si hsi => (h.importCopy si hsi).put () status
  plan := h.plan
  finalized := h.finalized
  withdrawn := fun ise hpc w hw hrv si hsi => by
    rw [get_put_self, Option.some.injEq] at hsi
    subst hsi
    exact hd ise hpc w hw hrv

lemma ExportInv.eraseImport (h : ExportInv st d pc) :
    ExportInv { st with serviceImport := st.serviceImport.erase () } d pc where
  copy := h.copy
  importCopy := fun si hsi => (h.importCopy si hsi).erase ()
  plan := h.plan
  finalized := h.finalized
  withdrawn := fun _ _ _ _ _ _ hsi => by simp at hsi

lemma ExportInv.putExport (h : ExportInv st d pc)
    (hfin : d = k → pc.Finalized → e.finalizer = true) :
    ExportInv { st with exports := st.exports.put k e } d pc where
  copy := fun ise hise => ⟨(h.copy ise hise).1.put k e, (h.copy ise hise).2⟩
  importCopy := h.importCopy
  plan := h.plan
  finalized := fun hf => (h.finalized hf).put fun hdk => hfin hdk hf
  withdrawn := fun ise hpc w hw hrv => by
    by_cases hdk : d = k
    · -- the export was just written: the copy is no longer current
      subst hdk
      exact absurd hrv ((h.copy ise (by rw [hpc]; rfl)).1.rv_ne_put hw)
    · rw [get_put_ne hdk] at hw
      exact h.withdrawn ise hpc w hw hrv

lemma ExportInv.eraseExport (h : ExportInv st d pc) (hk : Unfinalized st.exports k) :
    ExportInv { st with exports := st.exports.erase k } d pc where
  copy := fun ise hise => ⟨(h.copy ise hise).1.erase k, (h.copy ise hise).2⟩
  importCopy := h.importCopy
  plan := h.plan
  finalized := fun hf => (h.finalized hf).erase ((h.finalized hf).ne hk)
  withdrawn := fun ise hpc w hw hrv => by
    by_cases hdk : d = k
    · subst hdk
      simp at hw
    · rw [get_erase_ne hdk] at hw
      exact h.withdrawn ise hpc w hw hrv

end ExportInv

/-! ## The ServiceImport reconcile in flight -/

namespace ImportReconcile

/-- The copy of the ServiceImport the reconcile holds. -/
def copy : ImportReconcile C P → Option (Versioned (ServiceImportStatus C P))
  | .list si | .markNoConflict si _ _ _ _ | .markConflict si _ _ _ | .updateStatus si _ _ => some si
  | _ => none

/-- The clusters the reconcile will list: those collected and those still to mark. -/
def pending : ImportReconcile C P → List C
  | .markNoConflict _ _ noConflict clusters _ => clusters ++ noConflict.map Prod.fst
  | .markConflict _ _ clusters _ | .updateStatus _ _ clusters => clusters
  | _ => []

/-- The listed exports the reconcile still has to mark. -/
def items : ImportReconcile C P → List (C × Versioned (InternalServiceExport C P))
  | .markNoConflict _ _ noConflict _ conflict => noConflict ++ conflict
  | .markConflict _ _ _ conflict => conflict
  | _ => []

/-- Past the unconflicted exports, some cluster was collected. -/
def Plan : ImportReconcile C P → Prop
  | .markConflict _ _ clusters _ | .updateStatus _ _ clusters => clusters ≠ []
  | _ => True

end ImportReconcile

/-- The clusters `xs` the ServiceImport reconcile will list, from its copy `si`: none twice,
and, while the copy is current, each export keeps its finalizer and is not being released. -/
def Pending (st : HubStore C P) (pcs : C → ExportReconcile C P)
    (si : Versioned (ServiceImportStatus C P)) (xs : List C) : Prop :=
  xs.Nodup ∧ ∀ w, st.serviceImport.get () = some w → w.rv = si.rv → ∀ x ∈ xs,
    HasFinalizer st.exports x ∧ ¬Releasing st pcs x

/-- The invariant of the ServiceImport reconcile at `ipc`: it read the zero status, and what it
collected is `Pending`. -/
structure ImportInv (st : HubStore C P) (pcs : C → ExportReconcile C P)
    (ipc : ImportReconcile C P) : Prop where
  copy : ∀ si, ipc.copy = some si → st.serviceImport.Snapshot () si ∧ si.val = .zero
  plan : ipc.Plan
  pending : ∀ si, ipc.copy = some si → Pending st pcs si ipc.pending
  items : ∀ it ∈ ipc.items, st.exports.Snapshot it.1 it.2 ∧ it.2.val.clusterID = it.1

section ImportInv

variable {st : HubStore C P} {pcs : C → ExportReconcile C P} {ipc : ImportReconcile C P}
  {si : Versioned (ServiceImportStatus C P)} {xs ys : List C} {status : ServiceImportStatus C P}
  {k c : C} {e : InternalServiceExport C P} {next : ExportReconcile C P}

omit [DecidableEq C] in
lemma ImportInv.idle : ImportInv st pcs .idle where
  copy := fun _ h => by cases h
  plan := trivial
  pending := fun _ h => by cases h
  items := fun _ h => by cases h

omit [DecidableEq C] in
lemma Pending.sublist (h : Pending st pcs si xs) (hsub : List.Sublist ys xs) :
    Pending st pcs si ys :=
  ⟨h.1.sublist hsub, fun w hw hrv x hx => h.2 w hw hrv x (hsub.subset hx)⟩

omit [DecidableEq C] in
lemma Pending.putStatus (h : Pending st pcs si xs) (hsi : si.rv ≤ st.serviceImport.clock) :
    Pending { st with serviceImport := st.serviceImport.put () status } pcs si xs := by
  refine ⟨h.1, fun w hw hrv => ?_⟩
  -- the ServiceImport was just written, above the version of the copy
  rw [get_put_self, Option.some.injEq] at hw
  subst hw
  simp only at hrv
  omega

omit [DecidableEq C] in
lemma Pending.eraseImport (h : Pending st pcs si xs) :
    Pending { st with serviceImport := st.serviceImport.erase () } pcs si xs :=
  ⟨h.1, fun _ hw => by simp at hw⟩

/-- A write of export `k` keeps it pending, unless it drops the finalizer of one being released;
the new version is above every copy a reconcile holds. -/
lemma Pending.putExport (h : Pending st pcs si xs)
    (hfin : ¬Releasing st pcs k → HasFinalizer st.exports k → e.finalizer = true)
    (hrv : ∀ ise, pcs k = .removeFinalizer ise → ise.rv ≤ st.exports.clock) :
    Pending { st with exports := st.exports.put k e } pcs si xs := by
  refine ⟨h.1, fun w hw hwr x hx => ?_⟩
  obtain ⟨hfx, hpx⟩ := h.2 w hw hwr x hx
  refine ⟨hfx.put fun hxk => hfin (hxk ▸ hpx) (hxk ▸ hfx), ?_⟩
  rintro ⟨ise, hpc, v, hv, hvr⟩
  by_cases hxk : x = k
  · subst hxk
    rw [get_put_self, Option.some.injEq] at hv
    subst hv
    have := hrv ise hpc
    simp only at hvr
    omega
  · rw [get_put_ne hxk] at hv
    exact hpx ⟨ise, hpc, v, hv, hvr⟩

lemma Pending.eraseExport (h : Pending st pcs si xs) (hk : Unfinalized st.exports k) :
    Pending { st with exports := st.exports.erase k } pcs si xs := by
  refine ⟨h.1, fun w hw hwr x hx => ?_⟩
  obtain ⟨hfx, hpx⟩ := h.2 w hw hwr x hx
  have hxk : x ≠ k := hfx.ne hk
  refine ⟨hfx.erase hxk, ?_⟩
  rintro ⟨ise, hpc, v, hv, hvr⟩
  rw [get_erase_ne hxk] at hv
  exact hpx ⟨ise, hpc, v, hv, hvr⟩

lemma Pending.update_pc (h : Pending st pcs si xs)
    (hnext : ∀ ise, next = .removeFinalizer ise →
      ∀ w, st.serviceImport.get () = some w → w.rv ≠ si.rv) :
    Pending st (Function.update pcs c next) si xs := by
  refine ⟨h.1, fun w hw hwr x hx => ?_⟩
  obtain ⟨hfx, hpx⟩ := h.2 w hw hwr x hx
  refine ⟨hfx, ?_⟩
  rintro ⟨ise, hpc, hcur⟩
  by_cases hxc : x = c
  · -- the reconcile of `c` moves to removing its finalizer only once the copy is stale
    subst hxc
    rw [Function.update_self] at hpc
    exact hnext ise hpc w hw hwr
  · rw [Function.update_of_ne hxc] at hpc
    exact hpx ⟨ise, hpc, hcur⟩

omit [DecidableEq C] in
lemma ImportInv.putStatus (h : ImportInv st pcs ipc) :
    ImportInv { st with serviceImport := st.serviceImport.put () status } pcs ipc where
  copy := fun si hsi => ⟨(h.copy si hsi).1.put () status, (h.copy si hsi).2⟩
  plan := h.plan
  pending := fun si hsi => (h.pending si hsi).putStatus (h.copy si hsi).1.1
  items := h.items

omit [DecidableEq C] in
lemma ImportInv.eraseImport (h : ImportInv st pcs ipc) :
    ImportInv { st with serviceImport := st.serviceImport.erase () } pcs ipc where
  copy := fun si hsi => ⟨(h.copy si hsi).1.erase (), (h.copy si hsi).2⟩
  plan := h.plan
  pending := fun si hsi => (h.pending si hsi).eraseImport
  items := h.items

lemma ImportInv.putExport (h : ImportInv st pcs ipc)
    (hfin : ¬Releasing st pcs k → HasFinalizer st.exports k → e.finalizer = true)
    (hrv : ∀ ise, pcs k = .removeFinalizer ise → ise.rv ≤ st.exports.clock) :
    ImportInv { st with exports := st.exports.put k e } pcs ipc where
  copy := h.copy
  plan := h.plan
  pending := fun si hsi => (h.pending si hsi).putExport hfin hrv
  items := fun it hit => ⟨(h.items it hit).1.put k e, (h.items it hit).2⟩

lemma ImportInv.eraseExport (h : ImportInv st pcs ipc) (hk : Unfinalized st.exports k) :
    ImportInv { st with exports := st.exports.erase k } pcs ipc where
  copy := h.copy
  plan := h.plan
  pending := fun si hsi => (h.pending si hsi).eraseExport hk
  items := fun it hit => ⟨(h.items it hit).1.erase k, (h.items it hit).2⟩

lemma ImportInv.update_pc (h : ImportInv st pcs ipc)
    (hnext : ∀ ise, next = .removeFinalizer ise → ∀ si, ipc.copy = some si →
      ∀ w, st.serviceImport.get () = some w → w.rv ≠ si.rv) :
    ImportInv st (Function.update pcs c next) ipc where
  copy := h.copy
  plan := h.plan
  pending := fun si hsi => (h.pending si hsi).update_pc fun ise hn => hnext ise hn si hsi
  items := h.items

/-! ### Through the loops of the reconcile -/

section Loops

omit [DecidableEq C]

variable {r : List P} {cl : List C} {item : C × Versioned (InternalServiceExport C P)}
  {rest cf : List (C × Versioned (InternalServiceExport C P))}

lemma ImportInv.deleteServiceImport : ImportInv st pcs .deleteServiceImport where
  copy := fun _ h => by cases h
  plan := trivial
  pending := fun _ h => by cases h
  items := fun _ h => by cases h

/-- An export marked unconflicted: its cluster is collected. -/
lemma ImportInv.markNoConflict_keep
    (h : ImportInv st pcs (.markNoConflict si r (item :: rest) cl cf)) :
    ImportInv st pcs (.markNoConflict si r rest (cl ++ [item.2.val.clusterID]) cf) where
  copy := h.copy
  plan := trivial
  pending := fun si' hsi' => by
    have hp := h.pending si' hsi'
    simp only [ImportReconcile.pending, List.map_cons] at hp ⊢
    rw [(h.items item List.mem_cons_self).2, List.append_assoc, List.singleton_append]
    exact hp
  items := fun it hit => h.items it (List.mem_cons_of_mem _ hit)

/-- An export found gone: it is skipped. -/
lemma ImportInv.markNoConflict_skip
    (h : ImportInv st pcs (.markNoConflict si r (item :: rest) cl cf)) :
    ImportInv st pcs (.markNoConflict si r rest cl cf) where
  copy := h.copy
  plan := trivial
  pending := fun si' hsi' => (h.pending si' hsi').sublist ((List.sublist_cons_self _ _).append_left cl)
  items := fun it hit => h.items it (List.mem_cons_of_mem _ hit)

lemma ImportInv.markConflict_of_markNoConflict (h : ImportInv st pcs (.markNoConflict si r [] cl cf))
    (hc : cl ≠ []) : ImportInv st pcs (.markConflict si r cl cf) where
  copy := h.copy
  plan := hc
  pending := fun si' hsi' => by
    have hp := h.pending si' hsi'
    simp only [ImportReconcile.pending, List.map_nil, List.append_nil] at hp
    exact hp
  items := h.items

lemma ImportInv.markConflict_next (h : ImportInv st pcs (.markConflict si r cl (item :: rest))) :
    ImportInv st pcs (.markConflict si r cl rest) where
  copy := h.copy
  plan := h.plan
  pending := h.pending
  items := fun it hit => h.items it (List.mem_cons_of_mem _ hit)

lemma ImportInv.updateStatus_of_markConflict (h : ImportInv st pcs (.markConflict si r cl [])) :
    ImportInv st pcs (.updateStatus si r cl) where
  copy := h.copy
  plan := h.plan
  pending := h.pending
  items := fun _ h => by cases h

end Loops

end ImportInv

/-! ## The invariant -/

/-- **The invariant of the protocol.** -/
structure Inv (s : HubState C P) : Prop where
  store : StoreInv s.store
  exportReconciles : ∀ c, ExportInv s.store c (s.exportReconciles c)
  importReconcile : ImportInv s.store s.exportReconciles s.importReconcile

lemma Inv.init {s : HubState C P} (h : s.Init) : Inv s := by
  obtain ⟨hst, hex, hin⟩ := h
  refine ⟨hst ▸ StoreInv.init, fun c => ?_, ?_⟩
  · rw [hex c]
    exact ExportInv.idle
  · rw [hin]
    exact ImportInv.idle

/-! ## Writes -/

section Writes

variable {s : HubState C P} {x k c : C} {e : InternalServiceExport C P}
  {status : ServiceImportStatus C P} {si : Versioned (ServiceImportStatus C P)}
  {next : ExportReconcile C P} {inext : ImportReconcile C P}

/-- A cluster whose export is being released is not listed. -/
lemma Inv.not_mem_of_releasing (h : Inv s) (hr : Releasing s.store s.exportReconciles x)
    (hsi : s.store.serviceImport.get () = some si) : x ∉ si.val.clusters := by
  obtain ⟨ise, hpc, v, hv, hvr⟩ := hr
  exact (h.exportReconciles x).withdrawn ise hpc v hv hvr si hsi

/-- A write of an export keeps the invariant if it keeps the finalizer, or drops the finalizer
of an export being released. -/
lemma Inv.putExport (h : Inv s) (hk : e.clusterID = k)
    (hfin : ¬Releasing s.store s.exportReconciles k → HasFinalizer s.store.exports k →
      e.finalizer = true) :
    Inv { s with store := { s.store with exports := s.store.exports.put k e } } where
  store := h.store.putExport hk fun si hsi hks =>
    hfin (fun hr => h.not_mem_of_releasing hr hsi hks) ((h.store.status si hsi).listed k hks)
  exportReconciles := fun d => (h.exportReconciles d).putExport fun hdk hf => by
    subst hdk
    refine hfin ?_ ((h.exportReconciles d).finalized hf)
    -- a reconcile past its finalizer check is not releasing it
    rintro ⟨ise, hpc, -⟩
    rw [hpc] at hf
    exact hf
  importReconcile := h.importReconcile.putExport hfin fun _ hpc => (h.exportReconciles k).rv_le hpc

lemma Inv.eraseExport (h : Inv s) (hk : Unfinalized s.store.exports k) :
    Inv { s with store := { s.store with exports := s.store.exports.erase k } } where
  store := h.store.eraseExport hk
  exportReconciles := fun d => (h.exportReconciles d).eraseExport hk
  importReconcile := h.importReconcile.eraseExport hk

/-- A write of the ServiceImport status keeps the invariant if the status is well formed and
lists no export being released. -/
lemma Inv.putStatus (h : Inv s) (hs : StatusInv s.store.exports status)
    (hd : ∀ d, Releasing s.store s.exportReconciles d → d ∉ status.clusters) :
    Inv { s with store := { s.store with serviceImport := s.store.serviceImport.put () status } } where
  store := h.store.putStatus hs
  exportReconciles := fun d => (h.exportReconciles d).putStatus fun ise hpc w hw hwr =>
    hd d ⟨ise, hpc, w, hw, hwr⟩
  importReconcile := h.importReconcile.putStatus

lemma Inv.eraseImport (h : Inv s) :
    Inv { s with store := { s.store with serviceImport := s.store.serviceImport.erase () } } where
  store := h.store.eraseImport
  exportReconciles := fun d => (h.exportReconciles d).eraseImport
  importReconcile := h.importReconcile.eraseImport

/-- The reconcile of export `c` moves to `next`. -/
lemma Inv.setExport (h : Inv s) (hc : ExportInv s.store c next)
    (hnext : ∀ ise, next = .removeFinalizer ise → ∀ si, s.importReconcile.copy = some si →
      ∀ w, s.store.serviceImport.get () = some w → w.rv ≠ si.rv) :
    Inv { s with exportReconciles := Function.update s.exportReconciles c next } where
  store := h.store
  exportReconciles := fun d => by
    dsimp only
    by_cases hdc : d = c
    · subst hdc
      rw [Function.update_self]
      exact hc
    · rw [Function.update_of_ne hdc]
      exact h.exportReconciles d
  importReconcile := h.importReconcile.update_pc hnext

/-- The reconcile of the ServiceImport moves to `inext`. -/
lemma Inv.setImport (h : Inv s) (hi : ImportInv s.store s.exportReconciles inext) :
    Inv { s with importReconcile := inext } :=
  ⟨h.store, h.exportReconciles, hi⟩

end Writes

end FleetNet.Hub
