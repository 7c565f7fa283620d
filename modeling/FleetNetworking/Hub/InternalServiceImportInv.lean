import FleetNetworking.Hub.InternalServiceImport

/-!
# Invariants of the import-claim protocol

In every reachable state the ServiceInUseBy annotation names at most one cluster, and a
cluster it names has its InternalServiceImport, with the internalsvcimport-cleanup finalizer
(`StoreInv`).  Both rest on what each reconcile knows of its copies (`ReconcileInv`):

* a claim is written from a snapshot of a ServiceImport whose annotation named no cluster, and
  only after the finalizer of the claimant is on the store (`Reconcile.Claiming`), so the
  `Update` goes through only while nobody holds the import;
* the finalizer is dropped only by a reconcile that has seen, or made, an annotation without
  its cluster, and no one names that cluster again while it does (`Reconcile.Releasing`).

As in `Hub.ServiceExportInv`, each write has its lemma (`Inv.putImport`, `Inv.eraseImport`,
`Inv.putServiceImport`, `Inv.eraseServiceImport`) and the protocol's steps in
`Hub.InternalServiceImportSafety` are assembled from them.
-/

namespace FleetNet.Hub.ImportClaim

open ObjectStore VStore

variable {N S C P : Type} [DecidableEq N]

/-! ## The annotation -/

section InUseBy

variable {m : ServiceInUseBy N C} {a ns : N} {c : C}

omit [DecidableEq N] in
lemma eq_empty_of_keys_eq_nil (h : m.keys = []) : m = ∅ :=
  AList.ext (List.map_eq_nil_iff.mp h)

lemma keys_insert_of_keys_eq_nil (h : m.keys = []) : (m.insert a c).keys = [a] := by
  rw [AList.keys_insert, h]
  rfl

lemma mem_insert_of_keys_eq_nil (h : m.keys = []) : ns ∈ m.insert a c ↔ ns = a := by
  rw [AList.mem_keys, keys_insert_of_keys_eq_nil h, List.mem_singleton]

lemma length_keys_erase_le : (m.erase a).keys.length ≤ m.keys.length := by
  rw [AList.keys_erase]
  exact List.length_erase_le

omit [DecidableEq N] in
/-- The ServiceImport `withdrawServiceImport` writes carries the annotation it computed. -/
@[simp] lemma extract_withdrawn {codec : Codec N C S} {si : ServiceImport S C P} :
    extractServiceInUseByInfoFromServiceImport codec
      (if 0 < m.keys.length then annotateServiceImportWithServiceInUseByInfo codec si m
        else clearServiceInUseByInfoFromServiceImport si) = m := by
  split_ifs with h
  · exact extract_annotate
  · rw [extract_clear, eq_empty_of_keys_eq_nil (m := m) (List.length_eq_zero_iff.mp (by omega))]

end InUseBy

/-- The annotation of the ServiceImport names cluster namespace `ns`. -/
def Named (codec : Codec N C S) (st : ImportStore N S C P) (ns : N) : Prop :=
  ∃ si, st.serviceImport.get () = some si ∧
    ns ∈ extractServiceInUseByInfoFromServiceImport codec si.val

/-- The InternalServiceImport of `ns` is there and carries internalsvcimport-cleanup. -/
def HasCleanupFinalizer (imports : VStore N (InternalServiceImport C P)) (ns : N) : Prop :=
  imports.Holds (·.finalizer = true) ns

section Named

omit [DecidableEq N]

variable {codec : Codec N C S} {st : ImportStore N S C P} {ns : N}
  {si : Versioned (ServiceImport S C P)}

lemma named_iff (hsi : st.serviceImport.get () = some si) :
    Named codec st ns ↔ ns ∈ extractServiceInUseByInfoFromServiceImport codec si.val := by
  constructor
  · rintro ⟨w, hw, hns⟩
    rw [hsi, Option.some.injEq] at hw
    exact hw ▸ hns
  · intro hns
    exact ⟨si, hsi, hns⟩

lemma not_named_of_none (hsi : st.serviceImport.get () = none) : ¬Named codec st ns := by
  rintro ⟨w, hw, -⟩
  rw [hsi] at hw
  cases hw

end Named

/-! ## The store -/

/-- What holds of the store in every reachable state. -/
structure StoreInv (codec : Codec N C S) (st : ImportStore N S C P) : Prop where
  serviceImportWF : st.serviceImport.WF
  importsWF : st.imports.WF
  /-- the annotation names at most one cluster -/
  one : ∀ si, st.serviceImport.get () = some si →
    (extractServiceInUseByInfoFromServiceImport codec si.val).keys.length ≤ 1
  /-- a cluster the annotation names keeps its finalizer -/
  named : ∀ ns, Named codec st ns → HasCleanupFinalizer st.imports ns

section StoreInv

variable {codec : Codec N C S} {st : ImportStore N S C P} {k : N} {e : InternalServiceImport C P}
  {a : ServiceImport S C P}

omit [DecidableEq N] in
lemma StoreInv.init : StoreInv codec (⟨.empty, .empty⟩ : ImportStore N S C P) where
  serviceImportWF := WF.empty
  importsWF := WF.empty
  one := fun _ hsi => by cases hsi
  named := fun _ hn => absurd hn (not_named_of_none get_empty)

lemma StoreInv.putImport (h : StoreInv codec st) (hk : Named codec st k → e.finalizer = true) :
    StoreInv codec { st with imports := st.imports.put k e } where
  serviceImportWF := h.serviceImportWF
  importsWF := h.importsWF.put
  one := h.one
  named := fun ns hn => (h.named ns hn).put fun hnk => hk (hnk ▸ hn)

lemma StoreInv.eraseImport (h : StoreInv codec st) (hk : ¬Named codec st k) :
    StoreInv codec { st with imports := st.imports.erase k } where
  serviceImportWF := h.serviceImportWF
  importsWF := h.importsWF.erase
  one := h.one
  named := fun ns hn => (h.named ns hn).erase fun hnk => hk (hnk ▸ hn)

omit [DecidableEq N] in
lemma StoreInv.putServiceImport (h : StoreInv codec st)
    (hone : (extractServiceInUseByInfoFromServiceImport codec a).keys.length ≤ 1)
    (hnamed : ∀ ns ∈ extractServiceInUseByInfoFromServiceImport codec a,
      HasCleanupFinalizer st.imports ns) :
    StoreInv codec { st with serviceImport := st.serviceImport.put () a } where
  serviceImportWF := h.serviceImportWF.put
  importsWF := h.importsWF
  one := fun si hsi => by
    rw [get_put_self, Option.some.injEq] at hsi
    subst hsi
    exact hone
  named := fun ns hn => hnamed ns ((named_iff get_put_self).mp hn)

omit [DecidableEq N] in
lemma StoreInv.eraseServiceImport (h : StoreInv codec st) :
    StoreInv codec { st with serviceImport := st.serviceImport.erase () } where
  serviceImportWF := h.serviceImportWF.erase
  importsWF := h.importsWF
  one := fun _ hsi => by
    rw [get_erase_self] at hsi
    cases hsi
  named := fun _ hn => absurd hn (not_named_of_none get_erase_self)

end StoreInv

/-! ## What a reconcile knows -/

/-- The copy of its InternalServiceImport a reconcile holds. -/
def Reconcile.copy : Reconcile N S C P → Option (Versioned (InternalServiceImport C P))
  | .idle => none
  | .getServiceImport isi | .clearFinalizer isi | .clearStatus isi | .withdrawUpdate isi _ _
  | .withdrawFinalizer isi | .addFinalizer isi _ _ | .annotate isi _ _ | .fulfill isi _ => some isi

/-- The copy of the ServiceImport a reconcile is about to write back. -/
def Reconcile.serviceImportCopy : Reconcile N S C P → Option (Versioned (ServiceImport S C P))
  | .withdrawUpdate _ si _ | .addFinalizer _ si _ | .annotate _ si _ => some si
  | _ => none

/-- The reconcile may claim the ServiceImport with a copy that has the finalizer and that it
has not written since. -/
def Reconcile.Claiming : Reconcile N S C P → Prop
  | .getServiceImport isi | .annotate isi _ _ => isi.val.finalizer = true
  | _ => False

/-- The reconcile is about to drop the finalizer. -/
def Reconcile.Releasing : Reconcile N S C P → Prop
  | .clearFinalizer _ | .withdrawFinalizer _ => True
  | _ => False

/-- What the reconcile of `ns` computed from its copies: the annotation without `ns`, or the
claim of `ns` on an annotation that names no cluster. -/
def Reconcile.Plan (codec : Codec N C S) (ns : N) : Reconcile N S C P → Prop
  | .withdrawUpdate _ si svcInUseBy =>
    svcInUseBy = (extractServiceInUseByInfoFromServiceImport codec si.val).erase ns
  | .addFinalizer isi si svcInUseBy =>
    (extractServiceInUseByInfoFromServiceImport codec si.val).keys = [] ∧
      svcInUseBy = (extractServiceInUseByInfoFromServiceImport codec si.val).insert ns
        isi.val.clusterID
  | .annotate isi si svcInUseBy =>
    isi.val.finalizer = true ∧ (extractServiceInUseByInfoFromServiceImport codec si.val).keys = [] ∧
      svcInUseBy = (extractServiceInUseByInfoFromServiceImport codec si.val).insert ns
        isi.val.clusterID
  | _ => True

/-- What holds of the reconcile of `ns` at `pc` in every reachable state. -/
structure ReconcileInv (codec : Codec N C S) (st : ImportStore N S C P) (ns : N)
    (pc : Reconcile N S C P) : Prop where
  copy : ∀ isi, pc.copy = some isi → st.imports.Snapshot ns isi
  serviceImportCopy : ∀ si, pc.serviceImportCopy = some si → st.serviceImport.Snapshot () si
  claiming : pc.Claiming → HasCleanupFinalizer st.imports ns
  releasing : pc.Releasing → ¬Named codec st ns
  plan : pc.Plan codec ns

section ReconcileInv

variable {codec : Codec N C S} {st : ImportStore N S C P} {d k : N} {pc : Reconcile N S C P}
  {e : InternalServiceImport C P} {a : ServiceImport S C P}

lemma ReconcileInv.idle : ReconcileInv codec st d .idle :=
  ⟨nofun, nofun, nofun, nofun, trivial⟩

/-- A write of InternalServiceImport `k`: a claim by `k` needs the finalizer kept. -/
lemma ReconcileInv.putImport (h : ReconcileInv codec st d pc)
    (hk : d = k → pc.Claiming → e.finalizer = true) :
    ReconcileInv codec { st with imports := st.imports.put k e } d pc where
  copy := fun isi hc => (h.copy isi hc).put k e
  serviceImportCopy := h.serviceImportCopy
  claiming := fun hc => (h.claiming hc).put fun hdk => hk hdk hc
  releasing := h.releasing
  plan := h.plan

lemma ReconcileInv.eraseImport (h : ReconcileInv codec st d pc)
    (hk : ¬HasCleanupFinalizer st.imports k) :
    ReconcileInv codec { st with imports := st.imports.erase k } d pc where
  copy := fun isi hc => (h.copy isi hc).erase k
  serviceImportCopy := h.serviceImportCopy
  claiming := fun hc => (h.claiming hc).erase fun hdk => hk (hdk ▸ h.claiming hc)
  releasing := h.releasing
  plan := h.plan

/-- A write of the ServiceImport: a reconcile dropping its finalizer needs its cluster left
out of the annotation. -/
lemma ReconcileInv.putServiceImport (h : ReconcileInv codec st d pc)
    (hk : pc.Releasing → d ∉ extractServiceInUseByInfoFromServiceImport codec a) :
    ReconcileInv codec { st with serviceImport := st.serviceImport.put () a } d pc where
  copy := h.copy
  serviceImportCopy := fun si hc => (h.serviceImportCopy si hc).put () a
  claiming := h.claiming
  releasing := fun hr hn => hk hr ((named_iff get_put_self).mp hn)
  plan := h.plan

lemma ReconcileInv.eraseServiceImport (h : ReconcileInv codec st d pc) :
    ReconcileInv codec { st with serviceImport := st.serviceImport.erase () } d pc where
  copy := h.copy
  serviceImportCopy := fun si hc => (h.serviceImportCopy si hc).erase ()
  claiming := h.claiming
  releasing := fun _ => not_named_of_none get_erase_self
  plan := h.plan

end ReconcileInv

/-! ## The protocol -/

/-- The invariant of the protocol. -/
structure Inv (codec : Codec N C S) (s : ClaimState N S C P) : Prop where
  store : StoreInv codec s.store
  reconciles : ∀ ns, ReconcileInv codec s.store ns (s.reconciles ns)

lemma Inv.init {codec : Codec N C S} {s : ClaimState N S C P} (h : s.Init) : Inv codec s := by
  obtain ⟨hst, hpc⟩ := h
  refine ⟨hst ▸ StoreInv.init, fun ns => ?_⟩
  rw [hpc ns]
  exact ReconcileInv.idle

section Writes

variable {codec : Codec N C S} {s : ClaimState N S C P} {k ns d : N} {rv : ℕ}
  {e : InternalServiceImport C P} {a : ServiceImport S C P} {next : Reconcile N S C P}
  {imports : VStore N (InternalServiceImport C P)} {sis : VStore Unit (ServiceImport S C P)}
  {v : Versioned (ServiceImport S C P)}

lemma Inv.reconcileAt {pc : Reconcile N S C P} (h : Inv codec s) (hpc : s.reconciles ns = pc) :
    ReconcileInv codec s.store ns pc :=
  hpc ▸ h.reconciles ns

/-- A cluster whose reconcile is dropping its finalizer is not in the annotation. -/
lemma Inv.not_mem_of_releasing (h : Inv codec s) (hsi : s.store.serviceImport.get () = some v)
    (hr : (s.reconciles d).Releasing) :
    d ∉ extractServiceInUseByInfoFromServiceImport codec v.val :=
  fun hm => (h.reconciles d).releasing hr ((named_iff hsi).mpr hm)

/-- A write of InternalServiceImport `k` keeps the invariant if it keeps a finalizer that the
annotation or a claim by `k` relies on. -/
lemma Inv.putImport (h : Inv codec s)
    (hfin : HasCleanupFinalizer s.store.imports k →
      Named codec s.store k ∨ (s.reconciles k).Claiming → e.finalizer = true) :
    Inv codec { s with store := { s.store with imports := s.store.imports.put k e } } where
  store := h.store.putImport fun hn => hfin (h.store.named k hn) (.inl hn)
  reconciles := fun d => (h.reconciles d).putImport fun hdk hc => by
    subst hdk
    exact hfin ((h.reconciles d).claiming hc) (.inr hc)

lemma Inv.eraseImport (h : Inv codec s) (hk : ¬HasCleanupFinalizer s.store.imports k) :
    Inv codec { s with store := { s.store with imports := s.store.imports.erase k } } where
  store := h.store.eraseImport fun hn => hk (h.store.named k hn)
  reconciles := fun d => (h.reconciles d).eraseImport hk

/-- A write of the ServiceImport keeps the invariant if its annotation names at most one
cluster, each with its finalizer, and none whose reconcile is dropping it. -/
lemma Inv.putServiceImport (h : Inv codec s)
    (hone : (extractServiceInUseByInfoFromServiceImport codec a).keys.length ≤ 1)
    (hnamed : ∀ ns ∈ extractServiceInUseByInfoFromServiceImport codec a,
      HasCleanupFinalizer s.store.imports ns)
    (hrel : ∀ d, (s.reconciles d).Releasing →
      d ∉ extractServiceInUseByInfoFromServiceImport codec a) :
    Inv codec { s with store := { s.store with
      serviceImport := s.store.serviceImport.put () a } } where
  store := h.store.putServiceImport hone hnamed
  reconciles := fun d => (h.reconciles d).putServiceImport (hrel d)

lemma Inv.eraseServiceImport (h : Inv codec s) :
    Inv codec { s with store := { s.store with serviceImport := s.store.serviceImport.erase () } } where
  store := h.store.eraseServiceImport
  reconciles := fun d => (h.reconciles d).eraseServiceImport

/-- A write of the ServiceImport that leaves its annotation as it is. -/
lemma Inv.putServiceImport_same (h : Inv codec s) (hsi : s.store.serviceImport.get () = some v)
    (ha : extractServiceInUseByInfoFromServiceImport codec a =
      extractServiceInUseByInfoFromServiceImport codec v.val) :
    Inv codec { s with store := { s.store with
      serviceImport := s.store.serviceImport.put () a } } :=
  h.putServiceImport (ha ▸ h.store.one v hsi)
    (fun x hx => h.store.named x ((named_iff hsi).mpr (ha ▸ hx)))
    (fun _ hr => ha ▸ h.not_mem_of_releasing hsi hr)

/-- An `Update` of InternalServiceImport `k` under finalizers: the write, then the removal of
an InternalServiceImport it released. -/
lemma Inv.updateImport (h : Inv codec s)
    (hu : s.store.imports.updateReleasing? InternalServiceImport.released k rv e = some imports)
    (hfin : HasCleanupFinalizer s.store.imports k →
      Named codec s.store k ∨ (s.reconciles k).Claiming → e.finalizer = true) :
    Inv codec { s with store := { s.store with imports } } := by
  obtain ⟨-, rfl⟩ := updateReleasing?_eq_some.mp hu
  have hput := h.putImport hfin
  split_ifs with hr
  · -- released: it has no finalizer left
    refine hput.eraseImport fun hf => ?_
    have hfk : e.finalizer = true := hf.of_get get_put_self
    simp [InternalServiceImport.released, hfk] at hr
  · exact hput

/-- An `Update` of the ServiceImport under finalizers. -/
lemma Inv.updateServiceImport (h : Inv codec s)
    (hu : s.store.serviceImport.updateReleasing? ServiceImport.released () rv a = some sis)
    (hone : (extractServiceInUseByInfoFromServiceImport codec a).keys.length ≤ 1)
    (hnamed : ∀ ns ∈ extractServiceInUseByInfoFromServiceImport codec a,
      HasCleanupFinalizer s.store.imports ns)
    (hrel : ∀ d, (s.reconciles d).Releasing →
      d ∉ extractServiceInUseByInfoFromServiceImport codec a) :
    Inv codec { s with store := { s.store with serviceImport := sis } } := by
  obtain ⟨-, rfl⟩ := updateReleasing?_eq_some.mp hu
  have hput := h.putServiceImport hone hnamed hrel
  split_ifs
  · exact hput.eraseServiceImport
  · exact hput

omit [DecidableEq N] in
/-- After an `Update` of the ServiceImport, a cluster named is one the annotation written
names. -/
lemma mem_of_named_updateReleasing? {st : ImportStore N S C P}
    (hu : st.serviceImport.updateReleasing? ServiceImport.released () rv a = some sis)
    (hn : Named codec { st with serviceImport := sis } d) :
    d ∈ extractServiceInUseByInfoFromServiceImport codec a := by
  obtain ⟨-, rfl⟩ := updateReleasing?_eq_some.mp hu
  split_ifs at hn
  · exact absurd hn (not_named_of_none get_erase_self)
  · exact (named_iff get_put_self).mp hn

/-- The reconcile of `ns` moves to `next`. -/
lemma Inv.setReconcile (h : Inv codec s) (hnext : ReconcileInv codec s.store ns next) :
    Inv codec { s with reconciles := Function.update s.reconciles ns next } where
  store := h.store
  reconciles := fun d => by
    dsimp only
    by_cases hd : d = ns
    · subst hd
      rw [Function.update_self]
      exact hnext
    · rw [Function.update_of_ne hd]
      exact h.reconciles d

end Writes

end FleetNet.Hub.ImportClaim
