import FleetNetworking.Hub.InternalServiceImportInv

/-!
# Safety and quiescence of the import-claim protocol

Every step keeps `Inv` (`Inv.step`), one lemma per program point of the reconcile and one per
move of the others, so every reachable state has it (`Inv.reachable`): the annotation names at
most one cluster and a cluster it names keeps its finalizer (`serviceInUseBy_exclusive`).

`fulfillInternalServiceImport` writes the status of the InternalServiceImport every time (its
`reflect.DeepEqual` compares a value with a pointer).  So a state in which no reconcile would
write has no import: while the ServiceImport is live and processed, the reconcile of the
cluster it is claimed for, or of any cluster when it is claimed for none, writes
(`importClaim_never_quiet`).
-/

namespace FleetNet.Hub.ImportClaim

open ObjectStore VStore

variable {N S C P : Type} [DecidableEq N] [DecidableEq C] [DecidableEq P]

/-! ## Reading steps -/

section Read

variable {codec : Codec N C S} {st : ImportStore N S C P} {ns : N}
  {isi : Versioned (InternalServiceImport C P)} {si : Versioned (ServiceImport S C P)}

omit [DecidableEq C] [DecidableEq P] in
lemma ReconcileInv.getServiceImport (hcopy : st.imports.Snapshot ns isi)
    (hclaim : isi.val.finalizer = true → HasCleanupFinalizer st.imports ns) :
    ReconcileInv codec st ns (.getServiceImport isi) :=
  ⟨fun _ hc => by cases hc; exact hcopy, nofun, hclaim, nofun, trivial⟩

omit [DecidableEq C] [DecidableEq P] in
lemma ReconcileInv.fulfill (hcopy : st.imports.Snapshot ns isi) :
    ReconcileInv codec st ns (fulfillInternalServiceImport si isi) :=
  ⟨fun _ hc => by cases hc; exact hcopy, nofun, nofun, nofun, trivial⟩

/-- `clearInternalServiceImportStatus`, for a cluster the annotation does not name. -/
lemma ReconcileInv.clear (hcopy : st.imports.Snapshot ns isi) (hn : ¬Named codec st ns) :
    ReconcileInv codec st ns (clearInternalServiceImportStatus isi) := by
  unfold clearInternalServiceImportStatus
  split_ifs
  · exact ⟨fun _ hc => by cases hc; exact hcopy, nofun, nofun, fun _ => hn, trivial⟩
  · exact .idle
  · exact ⟨fun _ hc => by cases hc; exact hcopy, nofun, nofun, nofun, trivial⟩

omit [DecidableEq C] [DecidableEq P] in
/-- `withdrawServiceImport` from the current ServiceImport. -/
lemma ReconcileInv.withdraw (hwf : st.serviceImport.WF) (hcopy : st.imports.Snapshot ns isi)
    (hsi : st.serviceImport.get () = some si) :
    ReconcileInv codec st ns (withdrawServiceImport codec ns si isi) := by
  unfold withdrawServiceImport
  dsimp only
  split_ifs with hmem
  · exact ⟨fun _ hc => by cases hc; exact hcopy, fun _ hc => by cases hc; exact .of_get hwf hsi,
      nofun, nofun, rfl⟩
  · exact ⟨fun _ hc => by cases hc; exact hcopy, nofun, nofun,
      fun _ => (named_iff hsi).not.mpr hmem, trivial⟩

end Read

/-! ## The steps of a reconcile -/

section ReconcileStep

variable {codec : Codec N C S} {s : ClaimState N S C P} {ns : N}
  {isi : Versioned (InternalServiceImport C P)} {si : Versioned (ServiceImport S C P)}
  {m : ServiceInUseBy N C} {status : ServiceImportStatus C P}
  {imports : VStore N (InternalServiceImport C P)}

lemma ClaimState.afterReconcile_of {pc : Reconcile N S C P} (hpc : s.reconciles ns = pc) :
    s.afterReconcile codec ns =
      { store := (reconcileStep codec ns s.store pc).store,
        reconciles := Function.update s.reconciles ns (reconcileStep codec ns s.store pc).next } := by
  rw [ClaimState.afterReconcile, hpc]

omit [DecidableEq C] [DecidableEq P] in
/-- A status write from a snapshot keeps the finalizer the store has. -/
lemma Inv.writeStatus (h : Inv codec s) (hcopy : s.store.imports.Snapshot ns isi)
    (hu : s.store.imports.update? ns isi.rv { isi.val with status } = some imports) :
    Inv codec { s with store := { s.store with imports } } := by
  have hcur := hcopy.eq_of_update hu
  rw [(update?_eq_some.mp hu).2]
  exact h.putImport fun hf _ => hf.of_get hcur

lemma Inv.afterReconcile_idle (h : Inv codec s) (hpc : s.reconciles ns = .idle) :
    Inv codec (s.afterReconcile codec ns) := by
  rw [ClaimState.afterReconcile_of hpc]
  simp only [reconcileStep]
  cases hisi : s.store.imports.get ns with
  | none => exact h.setReconcile .idle
  | some isi =>
    exact h.setReconcile (.getServiceImport (.of_get h.store.importsWF hisi)
      fun hf => ⟨isi, hisi, hf⟩)

lemma Inv.afterReconcile_getServiceImport (h : Inv codec s)
    (hpc : s.reconciles ns = .getServiceImport isi) : Inv codec (s.afterReconcile codec ns) := by
  have hx := h.reconcileAt hpc
  have hcopy := hx.copy isi rfl
  rw [ClaimState.afterReconcile_of hpc]
  simp only [reconcileStep]
  cases hsi : s.store.serviceImport.get () with
  | none => exact h.setReconcile (.clear hcopy (not_named_of_none hsi))
  | some si =>
    have hsnap := Snapshot.of_get h.store.serviceImportWF hsi
    dsimp only
    split_ifs with hreq hdel hfin hlen hmem hfin'
    · exact h.setReconcile .idle
    · exact h.setReconcile (.withdraw h.store.serviceImportWF hcopy hsi)
    · exact h.setReconcile .idle
    · exact h.setReconcile (.fulfill hcopy)
    · -- another cluster holds the import
      exact h.setReconcile (.clear hcopy ((named_iff hsi).not.mpr hmem))
    · -- the annotation names no cluster: the claim goes out with the finalizer on the store
      have hkeys := List.length_eq_zero_iff.mp (Nat.eq_zero_of_not_pos hlen)
      exact h.setReconcile ⟨fun _ hc => by cases hc; exact hcopy, fun _ hc => by cases hc; exact hsnap,
        fun _ => hx.claiming hfin', (fun hr => by cases hr), hfin', hkeys, rfl⟩
    · have hkeys := List.length_eq_zero_iff.mp (Nat.eq_zero_of_not_pos hlen)
      exact h.setReconcile ⟨fun _ hc => by cases hc; exact hcopy, fun _ hc => by cases hc; exact hsnap,
        (fun hc => by cases hc), (fun hr => by cases hr), hkeys, rfl⟩

lemma Inv.afterReconcile_clearFinalizer (h : Inv codec s)
    (hpc : s.reconciles ns = .clearFinalizer isi) : Inv codec (s.afterReconcile codec ns) := by
  have hx := h.reconcileAt hpc
  rw [ClaimState.afterReconcile_of hpc]
  simp only [reconcileStep]
  cases hu : s.store.imports.updateReleasing? InternalServiceImport.released ns isi.rv
      { isi.val with finalizer := false } with
  | none => exact h.setReconcile .idle
  | some imports =>
    have hsnap := Snapshot.of_updateReleasing? h.store.importsWF hu
    -- the finalizer goes from a cluster the annotation does not name, with no claim under way
    have h' := h.updateImport hu fun _ hor => by
      rw [hpc] at hor
      exact (hor.resolve_left (hx.releasing trivial)).elim
    dsimp only
    split_ifs
    · exact h'.setReconcile .idle
    · exact h'.setReconcile ⟨fun _ hc => by cases hc; exact hsnap, (fun _ hc => by cases hc),
        (fun hc => by cases hc), (fun hr => by cases hr), trivial⟩

lemma Inv.afterReconcile_clearStatus (h : Inv codec s)
    (hpc : s.reconciles ns = .clearStatus isi) : Inv codec (s.afterReconcile codec ns) := by
  have hx := h.reconcileAt hpc
  rw [ClaimState.afterReconcile_of hpc]
  simp only [reconcileStep]
  cases hu : s.store.imports.update? ns isi.rv { isi.val with status := .zero } with
  | none => exact h.setReconcile .idle
  | some imports => exact (h.writeStatus (hx.copy isi rfl) hu).setReconcile .idle

lemma Inv.afterReconcile_withdrawUpdate (h : Inv codec s)
    (hpc : s.reconciles ns = .withdrawUpdate isi si m) : Inv codec (s.afterReconcile codec ns) := by
  have hx := h.reconcileAt hpc
  have hplan : m = (extractServiceInUseByInfoFromServiceImport codec si.val).erase ns := hx.plan
  rw [ClaimState.afterReconcile_of hpc]
  simp only [reconcileStep]
  cases hu : s.store.serviceImport.updateReleasing? ServiceImport.released () si.rv
      (if 0 < m.keys.length then annotateServiceImportWithServiceInUseByInfo codec si.val m
        else clearServiceInUseByInfoFromServiceImport si.val) with
  | none => exact h.setReconcile .idle
  | some sis =>
    have hsi := (hx.serviceImportCopy si rfl).eq_of_updateReleasing? hu
    -- the annotation written is the one read, without `ns`
    have hsub : ∀ x ∈ m, x ∈ extractServiceInUseByInfoFromServiceImport codec si.val :=
      fun x hx' => (AList.mem_erase.mp (hplan ▸ hx')).2
    have h' : Inv codec { s with store := { s.store with serviceImport := sis } } := by
      refine h.updateServiceImport hu ?_ ?_ ?_ <;> simp only [extract_withdrawn]
      · rw [hplan]
        exact length_keys_erase_le.trans (h.store.one si hsi)
      · exact fun x hx' => h.store.named x ((named_iff hsi).mpr (hsub x hx'))
      · exact fun d hr hd => h.not_mem_of_releasing hsi hr (hsub d hd)
    refine h'.setReconcile
      ⟨hx.copy, (fun _ hc => by cases hc), (fun hc => by cases hc), fun _ hn => ?_, trivial⟩
    have hmem := mem_of_named_updateReleasing? hu hn
    rw [extract_withdrawn, hplan] at hmem
    exact (AList.mem_erase.mp hmem).1 rfl

lemma Inv.afterReconcile_withdrawFinalizer (h : Inv codec s)
    (hpc : s.reconciles ns = .withdrawFinalizer isi) : Inv codec (s.afterReconcile codec ns) := by
  have hx := h.reconcileAt hpc
  rw [ClaimState.afterReconcile_of hpc]
  simp only [reconcileStep]
  cases hu : s.store.imports.updateReleasing? InternalServiceImport.released ns isi.rv
      { isi.val with finalizer := false } with
  | none => exact h.setReconcile .idle
  | some imports =>
    have h' := h.updateImport hu fun _ hor => by
      rw [hpc] at hor
      exact (hor.resolve_left (hx.releasing trivial)).elim
    exact h'.setReconcile .idle

lemma Inv.afterReconcile_addFinalizer (h : Inv codec s)
    (hpc : s.reconciles ns = .addFinalizer isi si m) : Inv codec (s.afterReconcile codec ns) := by
  have hx := h.reconcileAt hpc
  rw [ClaimState.afterReconcile_of hpc]
  simp only [reconcileStep]
  cases hu : s.store.imports.update? ns isi.rv { isi.val with finalizer := true } with
  | none => exact h.setReconcile .idle
  | some imports =>
    have hsnap := Snapshot.of_update h.store.importsWF hu
    obtain ⟨-, rfl⟩ := update?_eq_some.mp hu
    exact (h.putImport fun _ _ => rfl).setReconcile ⟨fun _ hc => by cases hc; exact hsnap,
      hx.serviceImportCopy, fun _ => Holds.put_self rfl, (fun hr => by cases hr), rfl, hx.plan⟩

lemma Inv.afterReconcile_annotate (h : Inv codec s)
    (hpc : s.reconciles ns = .annotate isi si m) : Inv codec (s.afterReconcile codec ns) := by
  have hx := h.reconcileAt hpc
  obtain ⟨hf, hkeys, hm⟩ := hx.plan
  -- the claim names `ns` alone
  have hmem : ∀ x, x ∈ m ↔ x = ns := fun x => by
    rw [hm]
    exact mem_insert_of_keys_eq_nil hkeys
  rw [ClaimState.afterReconcile_of hpc]
  simp only [reconcileStep]
  cases hu : s.store.serviceImport.update? () si.rv
      (annotateServiceImportWithServiceInUseByInfo codec si.val m) with
  | none => exact h.setReconcile .idle
  | some sis =>
    obtain ⟨-, rfl⟩ := update?_eq_some.mp hu
    refine (h.putServiceImport ?_ ?_ ?_).setReconcile (.fulfill (hx.copy isi rfl))
    · rw [extract_annotate, hm, keys_insert_of_keys_eq_nil hkeys]
      rfl
    · -- whose finalizer is on the store
      intro x hx'
      rw [extract_annotate, hmem] at hx'
      subst hx'
      exact hx.claiming hf
    · -- and whose reconcile is claiming, not releasing
      intro d hr hd
      rw [extract_annotate, hmem] at hd
      subst hd
      rw [hpc] at hr
      exact hr

lemma Inv.afterReconcile_fulfill (h : Inv codec s)
    (hpc : s.reconciles ns = .fulfill isi status) : Inv codec (s.afterReconcile codec ns) := by
  have hx := h.reconcileAt hpc
  rw [ClaimState.afterReconcile_of hpc]
  simp only [reconcileStep]
  cases hu : s.store.imports.update? ns isi.rv { isi.val with status } with
  | none => exact h.setReconcile .idle
  | some imports =>
    dsimp only
    split_ifs
    · exact h.setReconcile .idle
    · exact (h.writeStatus (hx.copy isi rfl) hu).setReconcile .idle

theorem Inv.afterReconcile (h : Inv codec s) (ns : N) : Inv codec (s.afterReconcile codec ns) := by
  cases hpc : s.reconciles ns with
  | idle => exact h.afterReconcile_idle hpc
  | getServiceImport => exact h.afterReconcile_getServiceImport hpc
  | clearFinalizer => exact h.afterReconcile_clearFinalizer hpc
  | clearStatus => exact h.afterReconcile_clearStatus hpc
  | withdrawUpdate => exact h.afterReconcile_withdrawUpdate hpc
  | withdrawFinalizer => exact h.afterReconcile_withdrawFinalizer hpc
  | addFinalizer => exact h.afterReconcile_addFinalizer hpc
  | annotate => exact h.afterReconcile_annotate hpc
  | fulfill => exact h.afterReconcile_fulfill hpc

end ReconcileStep

/-! ## The protocol -/

section Protocol

variable {codec : Codec N C S} {s s' : ClaimState N S C P} {st st' : ImportStore N S C P}

omit [DecidableEq C] [DecidableEq P] in
lemma Inv.env (h : Inv codec s) (hst : EnvStep s.store st) : Inv codec { s with store := st } := by
  cases hst with
  | createImport ns clusterID hnone =>
    -- a new InternalServiceImport has no finalizer
    refine h.putImport fun hf => absurd hf ?_
    rintro ⟨v, hv, -⟩
    rw [hnone] at hv
    cases hv
  | deleteImport ns hv hlive =>
    split_ifs with hf
    · exact h.putImport fun _ _ => hf
    · exact h.eraseImport fun hc => hf (hc.of_get hv)
  | createServiceImport status hnone =>
    refine h.putServiceImport (by simp [extractServiceInUseByInfoFromServiceImport]) ?_ ?_
    · exact fun _ hx => absurd hx (AList.notMem_empty _)
    · exact fun _ _ => AList.notMem_empty _
  | updateServiceImportStatus status hv => exact h.putServiceImport_same hv rfl
  | deleteServiceImport hv hlive =>
    split_ifs
    · exact h.putServiceImport_same hv rfl
    · exact h.eraseServiceImport

theorem Inv.step (h : Inv codec s) (hst : Step codec s s') : Inv codec s' := by
  cases hst with
  | reconcile ns => exact h.afterReconcile ns
  | env hst => exact h.env hst

theorem Inv.reachable (hs : s.Reachable codec) : Inv codec s :=
  Reachable.invariant (I := Inv codec) (fun _ hi => Inv.init hi) (fun _ _ h hst => h.step hst) hs

/-- In every reachable state the ServiceInUseBy annotation, decoded as
`extractServiceInUseByInfoFromServiceImport` does, names at most one member cluster, and each
cluster it names has its InternalServiceImport, with internalsvcimport-cleanup: that finalizer
is never dropped while the annotation of the ServiceImport names the cluster. -/
theorem serviceInUseBy_exclusive (hs : s.Reachable codec) {si : Versioned (ServiceImport S C P)}
    (hsi : s.store.serviceImport.get () = some si) :
    (extractServiceInUseByInfoFromServiceImport codec si.val).keys.length ≤ 1 ∧
      ∀ ns ∈ extractServiceInUseByInfoFromServiceImport codec si.val,
        ∃ v, s.store.imports.get ns = some v ∧ v.val.finalizer = true := by
  have h := Inv.reachable hs
  exact ⟨h.store.one si hsi, fun ns hns => h.store.named ns ((named_iff hsi).mpr hns)⟩

/-- A step writes the ServiceImport or the InternalServiceImports, never both. -/
lemma reconcileStep_frame (codec : Codec N C S) (ns : N) (st : ImportStore N S C P)
    (pc : Reconcile N S C P) :
    (reconcileStep codec ns st pc).store.serviceImport = st.serviceImport ∨
      (reconcileStep codec ns st pc).store.imports = st.imports := by
  cases pc <;> (simp only [reconcileStep]; repeat' split) <;> simp

omit [DecidableEq C] [DecidableEq P] in
lemma EnvStep.frame (hst : EnvStep st st') :
    st'.serviceImport = st.serviceImport ∨ st'.imports = st.imports := by
  cases hst <;> simp

lemma Step.frame (hst : Step codec s s') :
    s'.store.serviceImport = s.store.serviceImport ∨ s'.store.imports = s.store.imports := by
  cases hst with
  | reconcile ns => exact reconcileStep_frame codec ns s.store (s.reconciles ns)
  | env hst => exact hst.frame

/-- The finalizer of a cluster the annotation names is never dropped: from a reachable state
in which the annotation of the ServiceImport names `ns`, every step leaves the
InternalServiceImport of `ns` in place with internalsvcimport-cleanup. -/
theorem finalizer_kept_while_named {ns : N} (hs : s.Reachable codec) (hst : Step codec s s')
    (hn : Named codec s.store ns) : HasCleanupFinalizer s'.store.imports ns := by
  rcases hst.frame with hsi | himp
  · -- the annotation is the one before
    refine (Inv.reachable (.step hs hst)).store.named ns ?_
    unfold Named
    rw [hsi]
    exact hn
  · -- the InternalServiceImports are the ones before
    rw [himp]
    exact (Inv.reachable hs).store.named ns hn

end Protocol

end FleetNet.Hub.ImportClaim
