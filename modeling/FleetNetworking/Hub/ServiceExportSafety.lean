import FleetNetworking.Hub.ServiceExportInv

/-!
# Safety of the hub export protocol

Every step of the protocol keeps `Inv`: one lemma per program point of each reconcile, one for
the members, each built from the write lemmas of `ServiceExportInv`.  So in every reachable
state, whatever the order of the steps, the ServiceImport status lists no cluster twice, is the
zero status when it lists none, and lists only clusters whose export is there with the
finalizer (`serviceImport_status_safe`).
-/

namespace FleetNet.Hub

open ObjectStore VStore

variable {C P : Type} [DecidableEq C] [DecidableEq P]

/-! ## Facts of the invariant -/

section Facts

variable {s : HubState C P} {x : C} {v : Versioned (InternalServiceExport C P)}
  {w si : Versioned (ServiceImportStatus C P)}

omit [DecidableEq P] in
/-- A reconcile releasing a finalizer holds a copy of a deleting export, so a live export is not
being released. -/
lemma Inv.not_releasing_of_live (h : Inv s) (hv : s.store.exports.get x = some v)
    (hlive : v.val.deleting = false) : ¬Releasing s.store s.exportReconciles x := by
  rintro ⟨ise, hpc, v', hv', hvr⟩
  have hx := h.exportReconciles x
  rw [hpc] at hx
  have hcopy : v' = ise := (hx.copy ise rfl).1.2 v' hv' hvr
  rw [hv, Option.some.injEq] at hv'
  have hdel : ise.val.deleting = true := hx.plan
  rw [← hcopy, ← hv', hlive] at hdel
  exact Bool.false_ne_true hdel

omit [DecidableEq P] in
/-- A status with ports is not the copy of the ServiceImport reconcile, which read the zero
status. -/
lemma Inv.rv_ne_of_ports (h : Inv s) (hw : s.store.serviceImport.get () = some w)
    (hp : w.val.ports ≠ []) (hsi : s.importReconcile.copy = some si) : w.rv ≠ si.rv := by
  intro hrv
  have hc := h.importReconcile.copy si hsi
  rw [hc.1.2 w hw hrv, hc.2] at hp
  exact hp rfl

end Facts

/-! ## The InternalServiceExport controller -/

section ExportStep

variable {s : HubState C P} {c : C} {ise : Versioned (InternalServiceExport C P)}
  {si : Versioned (ServiceImportStatus C P)} {status : ServiceImportStatus C P} {b : Bool}
  {pc : ExportReconcile C P}

omit [DecidableEq P] in
lemma Inv.exportAt (h : Inv s) (hpc : s.exportReconciles c = pc) : ExportInv s.store c pc :=
  hpc ▸ h.exportReconciles c

lemma HubState.afterExport_of (hpc : s.exportReconciles c = pc) :
    s.afterExport c =
      { s with
        store := (exportStep c s.store pc).store
        exportReconciles := Function.update s.exportReconciles c (exportStep c s.store pc).next } := by
  rw [HubState.afterExport, hpc]

lemma Inv.afterExport_idle (h : Inv s) (hpc : s.exportReconciles c = .idle) :
    Inv (s.afterExport c) := by
  rw [HubState.afterExport_of hpc]
  simp only [exportStep]
  cases hget : s.store.exports.get c with
  | none => exact h.setExport .idle nofun
  | some ise =>
    have hcur : s.store.exports.Snapshot c ise ∧ ise.val.clusterID = c :=
      ⟨Snapshot.of_get h.store.exportWF hget, h.store.keyed c ise hget⟩
    dsimp only
    split_ifs with hd hf hf
    · exact h.setExport ⟨fun _ e => by cases e; exact hcur, nofun, hd, nofun, nofun⟩ nofun
    · exact h.setExport .idle nofun
    · exact h.setExport
        ⟨fun _ e => by cases e; exact hcur, nofun, trivial, fun _ => ⟨ise, hget, hf⟩, nofun⟩ nofun
    · exact h.setExport
        ⟨fun _ e => by cases e; exact hcur, nofun, Bool.eq_false_iff.mpr hd, nofun, nofun⟩ nofun

lemma Inv.afterExport_addFinalizer (h : Inv s) (hpc : s.exportReconciles c = .addFinalizer ise) :
    Inv (s.afterExport c) := by
  have hx := h.exportAt hpc
  have hcur := hx.copy ise rfl
  rw [HubState.afterExport_of hpc]
  simp only [exportStep, updateExport_of_finalizer]
  cases hu : s.store.exports.update? c ise.rv { ise.val with finalizer := true } with
  | none => exact h.setExport .idle nofun
  | some ex =>
    obtain ⟨-, rfl⟩ := update?_eq_some.mp hu
    have h₁ := h.putExport (e := { ise.val with finalizer := true }) hcur.2 fun _ _ => rfl
    -- the reconcile goes on with the copy it wrote
    refine h₁.setExport ⟨fun _ e => ?_, nofun, trivial, fun _ => ⟨_, get_put_self, rfl⟩, nofun⟩ nofun
    cases e
    exact ⟨Snapshot.of_get h₁.store.exportWF get_put_self, hcur.2⟩

lemma Inv.afterExport_handleUpdateGet (h : Inv s)
    (hpc : s.exportReconciles c = .handleUpdateGet ise) : Inv (s.afterExport c) := by
  have hx := h.exportAt hpc
  have hcur := hx.copy ise rfl
  have hfin := hx.finalized trivial
  rw [HubState.afterExport_of hpc]
  simp only [exportStep]
  cases hget : s.store.serviceImport.get () with
  | none =>
    exact h.setExport ⟨fun _ e => by cases e; exact hcur, nofun, trivial, fun _ => hfin, nofun⟩ nofun
  | some si =>
    have hsi := Snapshot.of_get h.store.importWF hget
    dsimp only
    rw [hcur.2]
    split_ifs with h0 hp heq h0' heq'
    · exact h.setExport .idle nofun
    · exact h.setExport .idle nofun
    · exact h.setExport (.updateStatus hcur) nofun
    · exact h.setExport
        ⟨fun _ e => by cases e; exact hcur, fun _ e => by cases e; exact hsi, rfl, nofun, nofun⟩ nofun
    · exact h.setExport (.updateStatus hcur) nofun
    · exact h.setExport ⟨fun _ e => by cases e; exact hcur, fun _ e => by cases e; exact hsi,
        ⟨rfl, h0⟩, fun _ => hfin, nofun⟩ nofun

lemma Inv.afterExport_handleUpdateCreate (h : Inv s)
    (hpc : s.exportReconciles c = .handleUpdateCreate ise) : Inv (s.afterExport c) := by
  rw [HubState.afterExport_of hpc]
  simp only [exportStep]
  cases hc : s.store.serviceImport.create? () .zero with
  | none => exact h.setExport .idle fun _ hn => by cases hn
  | some sis =>
    obtain ⟨-, rfl⟩ := create?_eq_some.mp hc
    have h₁ := h.putStatus StatusInv.zeroStatus fun _ _ hd => by
      simp [ServiceImportStatus.zero] at hd
    exact h₁.setExport .idle fun _ hn => by cases hn

lemma Inv.afterExport_handleUpdateRemove (h : Inv s)
    (hpc : s.exportReconciles c = .handleUpdateRemove ise si status) : Inv (s.afterExport c) := by
  have hx := h.exportAt hpc
  have hcur := hx.copy ise rfl
  have hplan : status = removeClusterFromServiceImportStatus si.val c := hx.plan
  rw [HubState.afterExport_of hpc]
  simp only [exportStep]
  cases hu : s.store.serviceImport.update? () si.rv status with
  | none => exact h.setExport .idle nofun
  | some sis =>
    have hget := (hx.importCopy si rfl).eq_of_update hu
    obtain ⟨-, rfl⟩ := update?_eq_some.mp hu
    -- the status written lists fewer clusters than the current one
    have h₁ := h.putStatus (hplan ▸ (h.store.status si hget).removeCluster) fun d hd hmem =>
      h.not_mem_of_releasing hd hget (clusters_removeCluster_sublist.subset (hplan ▸ hmem))
    dsimp only
    split_ifs
    · exact h₁.setExport .idle nofun
    · exact h₁.setExport (.updateStatus hcur) nofun

lemma Inv.afterExport_handleUpdateAdd (h : Inv s)
    (hpc : s.exportReconciles c = .handleUpdateAdd ise si status) : Inv (s.afterExport c) := by
  have hx := h.exportAt hpc
  have hcur := hx.copy ise rfl
  have hplan : status = addClusterToServiceImportStatus si.val c ∧ si.val.ports ≠ [] := hx.plan
  have hfin := hx.finalized trivial
  rw [HubState.afterExport_of hpc]
  simp only [exportStep]
  cases hu : s.store.serviceImport.update? () si.rv status with
  | none => exact h.setExport .idle nofun
  | some sis =>
    have hget := (hx.importCopy si rfl).eq_of_update hu
    obtain ⟨-, rfl⟩ := update?_eq_some.mp hu
    -- the status written lists the current clusters and `c`, which is not being released
    have hothers : ∀ d, Releasing s.store s.exportReconciles d → d ∉ status.clusters := by
      intro d hd hmem
      rw [hplan.1, mem_addCluster] at hmem
      rcases hmem with hmem | rfl
      · exact h.not_mem_of_releasing hd hget hmem
      · obtain ⟨_, hpc', -⟩ := hd
        rw [hpc] at hpc'
        cases hpc'
    have h₁ := h.putStatus (hplan.1 ▸ (h.store.status si hget).addCluster hfin) hothers
    exact h₁.setExport (.updateStatus hcur) nofun

lemma Inv.afterExport_updateStatus (h : Inv s) (hpc : s.exportReconciles c = .updateStatus ise b) :
    Inv (s.afterExport c) := by
  have hx := h.exportAt hpc
  have hcur := hx.copy ise rfl
  rw [HubState.afterExport_of hpc]
  simp only [exportStep]
  split_ifs
  · exact h.setExport .idle nofun
  · cases hu : s.store.exports.update? c ise.rv
        { ise.val with conflictCondition := some (desiredConflictCondition ise.val b) } with
    | none => exact h.setExport .idle nofun
    | some ex =>
      have hget := hcur.1.eq_of_update hu
      obtain ⟨-, rfl⟩ := update?_eq_some.mp hu
      have h₁ := h.putExport
        (e := { ise.val with conflictCondition := some (desiredConflictCondition ise.val b) })
        hcur.2 fun _ hf => hf.finalizer_eq hget
      exact h₁.setExport .idle nofun

lemma Inv.afterExport_handleDeleteGet (h : Inv s)
    (hpc : s.exportReconciles c = .handleDeleteGet ise) : Inv (s.afterExport c) := by
  have hx := h.exportAt hpc
  have hcur := hx.copy ise rfl
  have hplan : ise.val.deleting = true := hx.plan
  rw [HubState.afterExport_of hpc]
  simp only [exportStep]
  cases hget : s.store.serviceImport.get () with
  | none =>
    -- no ServiceImport: nothing lists the cluster
    refine h.setExport ⟨fun _ e => by cases e; exact hcur, nofun, hplan, nofun, ?_⟩ ?_
    · intro _ _ _ _ _ _ hsi
      rw [hget] at hsi
      cases hsi
    · intro _ _ _ _ _ hw
      rw [hget] at hw
      cases hw
  | some si =>
    have hsi := Snapshot.of_get h.store.importWF hget
    dsimp only
    rw [hcur.2]
    split_ifs with h0 heq
    · exact h.setExport .idle nofun
    · -- the cluster is not listed, and the status has ports
      refine h.setExport ⟨fun _ e => by cases e; exact hcur, nofun, hplan, nofun, ?_⟩ ?_
      · intro _ e _ _ _ si' hsi'
        cases e
        rw [hget, Option.some.injEq] at hsi'
        subst hsi'
        exact not_mem_of_removeCluster_eq heq
      · intro _ _ si' hsi' w hw
        exact h.rv_ne_of_ports hw (by rw [hget, Option.some.injEq] at hw; rw [← hw]; exact h0) hsi'
    · exact h.setExport ⟨fun _ e => by cases e; exact hcur, fun _ e => by cases e; exact hsi,
        ⟨hplan, rfl⟩, nofun, nofun⟩ nofun

lemma Inv.afterExport_handleDeleteUpdate (h : Inv s)
    (hpc : s.exportReconciles c = .handleDeleteUpdate ise si status) : Inv (s.afterExport c) := by
  have hx := h.exportAt hpc
  have hcur := hx.copy ise rfl
  have hplan : ise.val.deleting = true ∧ status = removeClusterFromServiceImportStatus si.val c :=
    hx.plan
  rw [HubState.afterExport_of hpc]
  simp only [exportStep]
  cases hu : s.store.serviceImport.update? () si.rv status with
  | none => exact h.setExport .idle nofun
  | some sis =>
    have hget := (hx.importCopy si rfl).eq_of_update hu
    obtain ⟨-, rfl⟩ := update?_eq_some.mp hu
    have h₁ := h.putStatus (hplan.2 ▸ (h.store.status si hget).removeCluster) fun d hd hmem =>
      h.not_mem_of_releasing hd hget (clusters_removeCluster_sublist.subset (hplan.2 ▸ hmem))
    refine h₁.setExport ⟨fun _ e => by cases e; exact hcur, nofun, hplan.1, nofun, ?_⟩ ?_
    · -- the status written does not list the cluster
      intro _ e _ _ _ si' hsi'
      cases e
      rw [get_put_self, Option.some.injEq] at hsi'
      subst hsi'
      rw [hplan.2]
      exact not_mem_removeCluster
    · -- and is newer than any copy of the ServiceImport reconcile
      intro _ _ si' hsi' w hw
      exact (h.importReconcile.copy si' hsi').1.rv_ne_put hw

lemma Inv.afterExport_removeFinalizer (h : Inv s)
    (hpc : s.exportReconciles c = .removeFinalizer ise) : Inv (s.afterExport c) := by
  have hx := h.exportAt hpc
  have hcur := hx.copy ise rfl
  have hplan : ise.val.deleting = true := hx.plan
  rw [HubState.afterExport_of hpc]
  simp only [exportStep]
  rw [updateExport_of_release (e := { ise.val with finalizer := false }) hplan rfl]
  cases hu : s.store.exports.update? c ise.rv { ise.val with finalizer := false } with
  | none => exact h.setExport .idle nofun
  | some ex =>
    have hget := hcur.1.eq_of_update hu
    obtain ⟨-, rfl⟩ := update?_eq_some.mp hu
    -- the export goes: first the write without the finalizer, then the removal
    have hrel : Releasing s.store s.exportReconciles c := ⟨ise, hpc, ise, hget, rfl⟩
    have h₁ := h.putExport (e := { ise.val with finalizer := false }) hcur.2 fun hnr => absurd hrel hnr
    have h₂ := h₁.eraseExport (k := c) fun v hv => by
      rw [get_put_self, Option.some.injEq] at hv
      subst hv
      rfl
    exact h₂.setExport .idle nofun

/-- **Every step of the InternalServiceExport controller keeps the invariant.** -/
theorem Inv.afterExport (h : Inv s) (c : C) : Inv (s.afterExport c) := by
  cases hpc : s.exportReconciles c with
  | idle => exact h.afterExport_idle hpc
  | addFinalizer _ => exact h.afterExport_addFinalizer hpc
  | handleUpdateGet _ => exact h.afterExport_handleUpdateGet hpc
  | handleUpdateCreate _ => exact h.afterExport_handleUpdateCreate hpc
  | handleUpdateRemove _ _ _ => exact h.afterExport_handleUpdateRemove hpc
  | handleUpdateAdd _ _ _ => exact h.afterExport_handleUpdateAdd hpc
  | updateStatus _ _ => exact h.afterExport_updateStatus hpc
  | handleDeleteGet _ => exact h.afterExport_handleDeleteGet hpc
  | handleDeleteUpdate _ _ _ => exact h.afterExport_handleDeleteUpdate hpc
  | removeFinalizer _ => exact h.afterExport_removeFinalizer hpc

end ExportStep

/-! ## The ServiceImport controller -/

section ImportStep

variable {st : HubStore C P} {pcs : C → ExportReconcile C P}
  {listing : List (C × Versioned (InternalServiceExport C P))}
  {si : Versioned (ServiceImportStatus C P)} {resolved : List P} {cl : List C}
  {item : C × Versioned (InternalServiceExport C P)}
  {rest cf : List (C × Versioned (InternalServiceExport C P))}
  {ex : VStore C (InternalServiceExport C P)} {b wrote : Bool}

omit [DecidableEq P] in
/-- A retry of the ServiceImport reconcile on an export it listed keeps the invariant. -/
lemma Inv.retry_ok {s : HubState C P} (h : Inv s)
    (hsnap : s.store.exports.Snapshot item.1 item.2 ∧ item.2.val.clusterID = item.1)
    (hr : updateInternalServiceExportWithRetry s.store.exports item b = .ok ex wrote) :
    Inv { s with store := { s.store with exports := ex } } := by
  rcases updateInternalServiceExportWithRetry_eq_ok hr with ⟨-, -, rfl⟩ | ⟨-, ⟨v, hv, hvr⟩, rfl⟩
  · exact h
  · -- the status write keeps the finalizer of the export it was made from
    refine h.putExport hsnap.2 fun _ hf => ?_
    exact hf.finalizer_eq (hsnap.1.2 v hv hvr ▸ hv)

/-- What the reconcile collects from a `List` answer while its copy is the zero status. -/
lemma Inv.markNoConflict_of_list {s : HubState C P} {ch : StatusChange C P} (h : Inv s)
    (hl : s.store.exports.IsListing listing) (hr : resolvePorts listing = (some resolved, ch))
    (hcopy : s.store.serviceImport.Snapshot () si ∧ si.val = .zero) :
    ImportInv s.store s.exportReconciles (.markNoConflict si resolved ch.noConflict [] ch.conflict) where
  copy := fun _ e => by cases e; exact hcopy
  plan := trivial
  pending := fun _ e => by
    cases e
    simp only [ImportReconcile.pending, List.nil_append]
    refine ⟨?_, fun _ _ _ x hx => ?_⟩
    · -- the listing has each cluster once
      exact hl.1.sublist (((resolvePorts_sublist hr).1.trans List.filter_sublist).map Prod.fst)
    · -- each export kept is live with the finalizer, so it is not being released
      obtain ⟨it, hit, rfl⟩ := List.mem_map.mp hx
      obtain ⟨hmem, hres⟩ := mem_resolvePorts hr (List.mem_append_left _ hit)
      have hget := (hl.2 it.1 it.2).mp hmem
      obtain ⟨hlive, hfin⟩ := resolvable_eq_true.mp hres
      exact ⟨⟨it.2, hget, hfin⟩, h.not_releasing_of_live hget hlive⟩
  items := fun it hit => by
    have hget := (hl.2 it.1 it.2).mp (mem_resolvePorts hr hit).1
    exact ⟨Snapshot.of_get h.store.exportWF hget, h.store.keyed _ _ hget⟩

lemma Inv.afterImport_idle (h : Inv ⟨st, pcs, .idle⟩) :
    Inv (HubState.afterImport ⟨st, pcs, .idle⟩ listing) := by
  unfold HubState.afterImport
  simp only [importStep]
  cases hget : st.serviceImport.get () with
  | none => exact h.setImport ImportInv.idle
  | some si =>
    dsimp only
    split_ifs with hc
    · exact h.setImport ImportInv.idle
    · -- no cluster is listed: the status is the zero one
      have hz := (h.store.status si hget).zero (not_not.mp hc)
      refine h.setImport ⟨fun _ e => ?_, trivial, fun _ e => ?_, nofun⟩
      · cases e
        exact ⟨Snapshot.of_get h.store.importWF hget, hz⟩
      · cases e
        exact ⟨List.nodup_nil, fun _ _ _ _ hx => by cases hx⟩

lemma Inv.afterImport_list (h : Inv ⟨st, pcs, .list si⟩) (hl : st.exports.IsListing listing) :
    Inv (HubState.afterImport ⟨st, pcs, .list si⟩ listing) := by
  have hcopy := h.importReconcile.copy si rfl
  unfold HubState.afterImport
  simp only [importStep]
  split_ifs
  · exact h.setImport ImportInv.deleteServiceImport
  · cases hr : resolvePorts listing with
    | mk r ch =>
      cases r with
      | none => exact h.setImport ImportInv.deleteServiceImport
      | some resolved => exact h.setImport (h.markNoConflict_of_list hl hr hcopy)

lemma Inv.afterImport_deleteServiceImport (h : Inv ⟨st, pcs, .deleteServiceImport⟩) :
    Inv (HubState.afterImport ⟨st, pcs, .deleteServiceImport⟩ listing) := by
  unfold HubState.afterImport
  simp only [importStep]
  exact h.eraseImport.setImport ImportInv.idle

lemma Inv.afterImport_markNoConflict_nil (h : Inv ⟨st, pcs, .markNoConflict si resolved [] cl cf⟩) :
    Inv (HubState.afterImport ⟨st, pcs, .markNoConflict si resolved [] cl cf⟩ listing) := by
  unfold HubState.afterImport
  simp only [importStep]
  split_ifs with hc
  · exact h.setImport ImportInv.idle
  · exact h.setImport (h.importReconcile.markConflict_of_markNoConflict hc)

lemma Inv.afterImport_markNoConflict_cons
    (h : Inv ⟨st, pcs, .markNoConflict si resolved (item :: rest) cl cf⟩) :
    Inv (HubState.afterImport ⟨st, pcs, .markNoConflict si resolved (item :: rest) cl cf⟩ listing) := by
  unfold HubState.afterImport
  simp only [importStep]
  cases hr : updateInternalServiceExportWithRetry st.exports item false with
  | ok ex wrote =>
    have h₁ := h.retry_ok (h.importReconcile.items item List.mem_cons_self) hr
    exact h₁.setImport h₁.importReconcile.markNoConflict_keep
  | notFound => exact h.setImport h.importReconcile.markNoConflict_skip
  | failed => exact h.setImport ImportInv.idle

lemma Inv.afterImport_markConflict_nil (h : Inv ⟨st, pcs, .markConflict si resolved cl []⟩) :
    Inv (HubState.afterImport ⟨st, pcs, .markConflict si resolved cl []⟩ listing) := by
  unfold HubState.afterImport
  simp only [importStep]
  exact h.setImport h.importReconcile.updateStatus_of_markConflict

lemma Inv.afterImport_markConflict_cons
    (h : Inv ⟨st, pcs, .markConflict si resolved cl (item :: rest)⟩) :
    Inv (HubState.afterImport ⟨st, pcs, .markConflict si resolved cl (item :: rest)⟩ listing) := by
  unfold HubState.afterImport
  simp only [importStep]
  cases hr : updateInternalServiceExportWithRetry st.exports item true with
  | ok ex wrote =>
    have h₁ := h.retry_ok (h.importReconcile.items item List.mem_cons_self) hr
    exact h₁.setImport h₁.importReconcile.markConflict_next
  | notFound => exact h.setImport ImportInv.idle
  | failed => exact h.setImport ImportInv.idle

lemma Inv.afterImport_updateStatus (h : Inv ⟨st, pcs, .updateStatus si resolved cl⟩) :
    Inv (HubState.afterImport ⟨st, pcs, .updateStatus si resolved cl⟩ listing) := by
  have hi := h.importReconcile
  unfold HubState.afterImport
  simp only [importStep]
  cases hu : st.serviceImport.update? () si.rv ⟨resolved, cl, some .ClusterSetIP⟩ with
  | none => exact h.setImport ImportInv.idle
  | some sis =>
    have hget := (hi.copy si rfl).1.eq_of_update hu
    obtain ⟨-, rfl⟩ := update?_eq_some.mp hu
    -- the copy is current: every collected cluster keeps its finalizer and is not being released
    have hpend := (hi.pending si rfl).2 si hget rfl
    have hs : StatusInv st.exports ⟨resolved, cl, some .ClusterSetIP⟩ :=
      ⟨(hi.pending si rfl).1, fun hc => absurd hc hi.plan, fun x hx => (hpend x hx).1⟩
    exact (h.putStatus hs fun d hd hx => (hpend d hx).2 hd).setImport ImportInv.idle

/-- **Every step of the ServiceImport controller keeps the invariant**, whatever order the
`List` answer has. -/
theorem Inv.afterImport {s : HubState C P} (h : Inv s) (hl : s.store.exports.IsListing listing) :
    Inv (s.afterImport listing) := by
  obtain ⟨st, pcs, ipc⟩ := s
  cases ipc with
  | idle => exact h.afterImport_idle
  | list _ => exact h.afterImport_list hl
  | deleteServiceImport => exact h.afterImport_deleteServiceImport
  | markNoConflict _ _ noConflict _ _ =>
    cases noConflict with
    | nil => exact h.afterImport_markNoConflict_nil
    | cons _ _ => exact h.afterImport_markNoConflict_cons
  | markConflict _ _ _ conflict =>
    cases conflict with
    | nil => exact h.afterImport_markConflict_nil
    | cons _ _ => exact h.afterImport_markConflict_cons
  | updateStatus _ _ _ => exact h.afterImport_updateStatus

end ImportStep

/-! ## The protocol -/

section Protocol

variable {s s' : HubState C P} {st : HubStore C P}

omit [DecidableEq P] in
/-- The members' steps keep the invariant: a new export has no finalizer yet, a change of ports
keeps it, and a delete request keeps it or finds none. -/
lemma Inv.env (h : Inv s) (hst : EnvStep s.store st) : Inv { s with store := st } := by
  cases hst with
  | create c ports hget =>
    refine h.putExport rfl fun _ ⟨v, hv, _⟩ => ?_
    rw [hget] at hv
    cases hv
  | updatePorts c ports hget =>
    refine h.putExport (h.store.keyed c _ hget) fun _ hf => ?_
    exact hf.finalizer_eq hget
  | delete c hget hlive =>
    unfold deleteExport
    split_ifs with hf
    · exact h.putExport (h.store.keyed c _ hget) fun _ _ => hf
    · refine h.eraseExport fun v hv => ?_
      rw [hget, Option.some.injEq] at hv
      subst hv
      simpa using hf

theorem Inv.step (h : Inv s) (hs : Step s s') : Inv s' := by
  cases hs with
  | «export» c => exact h.afterExport c
  | «import» _ hl => exact h.afterImport hl
  | env hst => exact h.env hst

/-- **The invariant holds in every reachable state.** -/
theorem Inv.reachable (hs : s.Reachable) : Inv s :=
  Reachable.invariant (I := Inv) (fun _ hi => Inv.init hi) (fun _ _ h hst => h.step hst) hs

lemma HubState.Reachable.afterExport (h : s.Reachable) (c : C) : (s.afterExport c).Reachable :=
  .step h (.export s c)

lemma HubState.Reachable.afterImport {listing : List (C × Versioned (InternalServiceExport C P))}
    (h : s.Reachable) (hl : s.store.exports.IsListing listing) : (s.afterImport listing).Reachable :=
  .step h (.import s listing hl)

/-- Export reconciles scheduled in any order, from a reachable state, reach a reachable state. -/
lemma HubState.Reachable.foldl_afterExport (h : s.Reachable) (cs : List C) :
    (cs.foldl HubState.afterExport s).Reachable := by
  induction cs generalizing s with
  | nil => exact h
  | cons c cs ih => exact ih (h.afterExport c)

end Protocol

/-! ## A run

Cluster 0 exports port 80 and cluster 1 port 443.  The reconcile of cluster 0 adds the finalizer
and creates the ServiceImport; the one of cluster 1 adds the finalizer and waits for the ports.
The ServiceImport reconcile then resolves the ports from cluster 0, marks the export of cluster 1
conflicted and lists cluster 0. -/

section Run

/-- The start: nothing stored, no reconcile running. -/
def runInit : HubState (Fin 2) ℕ := ⟨⟨.empty, .empty⟩, fun _ => .idle, .idle⟩

/-- Cluster 0 creates its export. -/
def runCreated₀ : HubState (Fin 2) ℕ :=
  { runInit with store := { runInit.store with
      exports := runInit.store.exports.put 0 ⟨0, [80], 1, false, false, none⟩ } }

/-- Cluster 1 creates its export. -/
def runCreated : HubState (Fin 2) ℕ :=
  { runCreated₀ with store := { runCreated₀.store with
      exports := runCreated₀.store.exports.put 1 ⟨1, [443], 1, false, false, none⟩ } }

/-- A step of the ServiceImport reconcile, whose `List` call goes by cluster. -/
def runImport (s : HubState (Fin 2) ℕ) : HubState (Fin 2) ℕ :=
  s.afterImport (s.store.exports.listOver (List.finRange 2))

/-- Four steps of the reconcile of cluster 0, three of cluster 1, seven of the ServiceImport. -/
def runFinal : HubState (Fin 2) ℕ :=
  runImport^[7] ([0, 0, 0, 0, 1, 1, 1].foldl HubState.afterExport runCreated)

/-- The ServiceImport at the end. -/
def runStatus : Versioned (ServiceImportStatus (Fin 2) ℕ) := ⟨2, ⟨[80], [0], some .ClusterSetIP⟩⟩

lemma runImport_iterate_reachable {s : HubState (Fin 2) ℕ} (h : s.Reachable) (n : ℕ) :
    (runImport^[n] s).Reachable := by
  induction n generalizing s with
  | zero => exact h
  | succ n ih =>
    exact ih (h.afterImport (isListing_listOver (List.nodup_finRange 2) fun k _ => List.mem_finRange k))

lemma runFinal_reachable : runFinal.Reachable := by
  have h₀ : runInit.Reachable := .init ⟨rfl, fun _ => rfl, rfl⟩
  have h₁ : runCreated₀.Reachable := .step h₀ (.env (.create 0 [80] rfl))
  have h₂ : runCreated.Reachable := .step h₁ (.env (.create 1 [443] rfl))
  exact runImport_iterate_reachable (h₂.foldl_afterExport _) 7

lemma runFinal_serviceImport : runFinal.store.serviceImport.get () = some runStatus := by
  decide

end Run

/-! ## Safety -/

/-- **Safety of the ServiceImport status.**  In every reachable state, whatever the order of the
steps, the status lists no cluster twice; listing none, it is the zero status; and the export of
each listed cluster is there, with the finalizer. -/
theorem serviceImport_status_safe {s : HubState C P} {si : Versioned (ServiceImportStatus C P)}
    (hs : s.Reachable) (hsi : s.store.serviceImport.get () = some si) :
    si.val.clusters.Nodup ∧ (si.val.clusters = [] → si.val = .zero) ∧
      ∀ x ∈ si.val.clusters, ∃ v, s.store.exports.get x = some v ∧ v.val.clusterID = x ∧
        v.val.finalizer = true := by
  have h := Inv.reachable hs
  have hst := h.store.status si hsi
  refine ⟨hst.nodup, hst.zero, fun x hx => ?_⟩
  obtain ⟨v, hv, hf⟩ := hst.listed x hx
  exact ⟨v, hv, h.store.keyed x v hv, hf⟩

/-- In the run, cluster 0 is listed, once, and its export keeps the finalizer. -/
theorem serviceImport_status_safe_run :
    runFinal.Reachable ∧ runFinal.store.serviceImport.get () = some runStatus ∧
      (runStatus.val.clusters.Nodup ∧ (runStatus.val.clusters = [] → runStatus.val = .zero) ∧
        ∀ x ∈ runStatus.val.clusters, ∃ v, runFinal.store.exports.get x = some v ∧
          v.val.clusterID = x ∧ v.val.finalizer = true) :=
  ⟨runFinal_reachable, runFinal_serviceImport,
    serviceImport_status_safe runFinal_reachable runFinal_serviceImport⟩

end FleetNet.Hub
