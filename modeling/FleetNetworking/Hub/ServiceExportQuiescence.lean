import FleetNetworking.Hub.ServiceExportSafety

/-!
# Quiescence of the hub export protocol

A reconcile of an export is quiet when, started on the current store, it comes back to the
start within some number of steps without writing or requeueing (`exportQuiet`).  When the
reconcile of every export is quiet and some export is live, the two controllers agree: the
ServiceImport has ports, it lists exactly the live exports with those ports, and these are
marked unconflicted and every other live export conflicted (`serviceImport_quiescent`).

The quiet run of a live export is short: it reads the export with its finalizer, reads a
ServiceImport with ports that lists the cluster exactly when the ports agree, and finds the
conflict condition already right.  Any other path writes or requeues.  The quiescence of the
ServiceImport reconcile is not needed: with ports resolved, the status lists a cluster, and that
reconcile stops at its first read.
-/

namespace FleetNet.Hub

open ObjectStore VStore

variable {C P : Type} [DecidableEq C] [DecidableEq P]

/-- The reconcile of export `c` from `pc` ends within `n` steps without writing or
requeueing. -/
def exportQuiet (c : C) : ℕ → HubStore C P → ExportReconcile C P → Bool
  | 0, _, _ => false
  | n + 1, st, pc =>
    let r := exportStep c st pc
    !r.wrote && !r.requeued && (r.next == .idle || exportQuiet c n r.store r.next)

/-- The program points that call `Update` or `Create`. -/
def ExportReconcile.Writes : ExportReconcile C P → Prop
  | .addFinalizer _ | .handleUpdateCreate _ | .handleUpdateRemove _ _ _ | .handleUpdateAdd _ _ _
  | .handleDeleteUpdate _ _ _ | .removeFinalizer _ => True
  | _ => False

/-- The export carries the conflict condition of `status` and `reason`, observed at its
generation or later. -/
def HasConflictCondition (e : InternalServiceExport C P) (status : ConditionStatus)
    (reason : ConflictReason) : Prop :=
  ∃ cond, e.conflictCondition = some cond ∧ cond.status = status ∧ cond.reason = reason ∧
    e.generation ≤ cond.observedGeneration

section Quiet

variable {c : C} {n : ℕ} {st : HubStore C P} {pc : ExportReconcile C P}
  {ise v : Versioned (InternalServiceExport C P)} {e : InternalServiceExport C P} {b : Bool}

omit [DecidableEq C] [DecidableEq P] in
lemma hasConflictCondition_of_equal
    (h : EqualCondition e.conflictCondition (some (desiredConflictCondition e b)) = true) :
    HasConflictCondition e (if b then .True else .False)
      (if b then .ConflictFound else .NoConflictFound) := by
  cases hc : e.conflictCondition with
  | none => simp [hc, EqualCondition] at h
  | some cond =>
    rw [hc] at h
    refine ⟨cond, hc, ?_⟩
    cases b <;>
      simpa [EqualCondition, desiredConflictCondition, UnconflictedServiceExportConflictCondition,
        ConflictedServiceExportConflictCondition, and_assoc] using h

lemma exportStep_wrote_of_writes (h : pc.Writes) : (exportStep c st pc).wrote = true := by
  cases pc with
  | addFinalizer _ | handleUpdateCreate _ | handleUpdateRemove _ _ _ | handleUpdateAdd _ _ _
  | handleDeleteUpdate _ _ _ | removeFinalizer _ =>
    simp only [exportStep]
    split <;> (try split_ifs) <;> rfl
  | _ => exact h.elim

lemma exportQuiet_of_writes (h : pc.Writes) : exportQuiet c n st pc = false := by
  cases n with
  | zero => rfl
  | succ n => simp [exportQuiet, exportStep_wrote_of_writes h]

variable {si : Versioned (ServiceImportStatus C P)} {status : ServiceImportStatus C P}

@[simp] lemma exportQuiet_addFinalizer : exportQuiet c n st (.addFinalizer ise) = false :=
  exportQuiet_of_writes trivial

@[simp] lemma exportQuiet_handleUpdateCreate : exportQuiet c n st (.handleUpdateCreate ise) = false :=
  exportQuiet_of_writes trivial

@[simp] lemma exportQuiet_handleUpdateRemove :
    exportQuiet c n st (.handleUpdateRemove ise si status) = false :=
  exportQuiet_of_writes trivial

@[simp] lemma exportQuiet_handleUpdateAdd :
    exportQuiet c n st (.handleUpdateAdd ise si status) = false :=
  exportQuiet_of_writes trivial

@[simp] lemma exportQuiet_handleDeleteUpdate :
    exportQuiet c n st (.handleDeleteUpdate ise si status) = false :=
  exportQuiet_of_writes trivial

@[simp] lemma exportQuiet_removeFinalizer : exportQuiet c n st (.removeFinalizer ise) = false :=
  exportQuiet_of_writes trivial

/-- `handleDelete` always writes or requeues: it drops the finalizer, or waits for ports. -/
lemma exportQuiet_handleDeleteGet : exportQuiet c n st (.handleDeleteGet ise) = false := by
  cases n with
  | zero => rfl
  | succ n =>
    simp only [exportQuiet, exportStep]
    split
    · simp
    · split_ifs <;> simp

lemma exportQuiet_updateStatus (h : exportQuiet c n st (.updateStatus ise b) = true) :
    EqualCondition ise.val.conflictCondition (some (desiredConflictCondition ise.val b)) = true := by
  cases n with
  | zero => simp [exportQuiet] at h
  | succ n =>
    by_contra hne
    simp only [exportQuiet, exportStep] at h
    rw [if_neg hne] at h
    split at h <;> simp at h

/-- A quiet `handleUpdate` reads a ServiceImport with ports that lists the cluster exactly when
the ports agree, and finds the conflict condition right. -/
lemma exportQuiet_handleUpdateGet (h : exportQuiet c n st (.handleUpdateGet ise) = true) :
    ∃ si, st.serviceImport.get () = some si ∧ si.val.ports ≠ [] ∧
      (si.val.ports = ise.val.ports → ise.val.clusterID ∈ si.val.clusters ∧
        EqualCondition ise.val.conflictCondition
          (some (desiredConflictCondition ise.val false)) = true) ∧
      (si.val.ports ≠ ise.val.ports → ise.val.clusterID ∉ si.val.clusters ∧
        EqualCondition ise.val.conflictCondition
          (some (desiredConflictCondition ise.val true)) = true) := by
  cases n with
  | zero => simp [exportQuiet] at h
  | succ n =>
    simp only [exportQuiet, exportStep] at h
    split at h
    · simp at h
    · rename_i si hsi
      refine ⟨si, hsi, ?_⟩
      split_ifs at h with h0 hp heq h0' heq'
      · simp at h
      · simp at h
      · refine ⟨h0, fun hp' => absurd hp' hp, fun _ => ⟨not_mem_of_removeCluster_eq heq, ?_⟩⟩
        exact exportQuiet_updateStatus (by simpa using h)
      · simp at h
      · refine ⟨h0, fun _ => ⟨heq' ▸ mem_addCluster_self, ?_⟩, fun hp' => absurd (not_not.mp hp) hp'⟩
        exact exportQuiet_updateStatus (by simpa using h)
      · simp at h

/-- A quiet reconcile read an export being deleted without the finalizer, or a live one with it
and went on to `handleUpdate`. -/
lemma exportQuiet_idle (h : exportQuiet c n st .idle = true) (hv : st.exports.get c = some v) :
    (v.val.deleting = true ∧ v.val.finalizer = false) ∨
      (v.val.deleting = false ∧ v.val.finalizer = true ∧
        ∃ m, exportQuiet c m st (.handleUpdateGet v) = true) := by
  cases n with
  | zero => simp [exportQuiet] at h
  | succ n =>
    simp only [exportQuiet, exportStep, hv] at h
    split_ifs at h with hd hf hf
    · simp [exportQuiet_handleDeleteGet] at h
    · exact Or.inl ⟨hd, by simpa using hf⟩
    · exact Or.inr ⟨by simpa using hd, hf, n, by simpa using h⟩
    · simp at h

/-- A live export whose reconcile is quiet carries the finalizer and finds a ServiceImport with
ports that lists it exactly when the ports agree, with the conflict condition to match. -/
lemma exportQuiet_live (h : exportQuiet c n st .idle = true) (hv : st.exports.get c = some v)
    (hlive : v.val.deleting = false) :
    v.val.finalizer = true ∧ ∃ si, st.serviceImport.get () = some si ∧ si.val.ports ≠ [] ∧
      (si.val.ports = v.val.ports → v.val.clusterID ∈ si.val.clusters ∧
        HasConflictCondition v.val .False .NoConflictFound) ∧
      (si.val.ports ≠ v.val.ports → v.val.clusterID ∉ si.val.clusters ∧
        HasConflictCondition v.val .True .ConflictFound) := by
  rcases exportQuiet_idle h hv with ⟨hd, -⟩ | ⟨-, hf, m, hm⟩
  · rw [hlive] at hd
    cases hd
  · obtain ⟨si, hsi, hports, heq, hne⟩ := exportQuiet_handleUpdateGet hm
    refine ⟨hf, si, hsi, hports, fun hp => ?_, fun hp => ?_⟩
    · exact ⟨(heq hp).1, hasConflictCondition_of_equal (heq hp).2⟩
    · exact ⟨(hne hp).1, hasConflictCondition_of_equal (hne hp).2⟩

/-- An export with the finalizer whose reconcile is quiet is live. -/
lemma exportQuiet_not_deleting (h : exportQuiet c n st .idle = true)
    (hv : st.exports.get c = some v) (hf : v.val.finalizer = true) : v.val.deleting = false := by
  rcases exportQuiet_idle h hv with ⟨-, hf'⟩ | ⟨hd, -⟩
  · rw [hf] at hf'
    cases hf'
  · exact hd

end Quiet

/-- **Agreement at quiescence.**  In a reachable state where the reconcile of every export would
neither write nor requeue, and some export is live: the ServiceImport has ports; it lists
exactly the clusters of the live exports with the finalizer and those ports; these are marked
unconflicted, and every other live export conflicted. -/
theorem serviceImport_quiescent {s : HubState C P} (hs : s.Reachable)
    (hquiet : ∀ c v, s.store.exports.get c = some v → ∃ n, exportQuiet c n s.store .idle = true)
    (hlive : ∃ c v, s.store.exports.get c = some v ∧ v.val.deleting = false) :
    ∃ si, s.store.serviceImport.get () = some si ∧ si.val.ports ≠ [] ∧
      (∀ x, x ∈ si.val.clusters ↔ ∃ c v, s.store.exports.get c = some v ∧ v.val.clusterID = x ∧
        v.val.deleting = false ∧ v.val.finalizer = true ∧ v.val.ports = si.val.ports) ∧
      (∀ c v, s.store.exports.get c = some v → v.val.deleting = false →
        v.val.ports = si.val.ports → HasConflictCondition v.val .False .NoConflictFound) ∧
      (∀ c v, s.store.exports.get c = some v → v.val.deleting = false →
        v.val.ports ≠ si.val.ports → HasConflictCondition v.val .True .ConflictFound) := by
  have h := Inv.reachable hs
  obtain ⟨c₀, v₀, hv₀, hl₀⟩ := hlive
  obtain ⟨n₀, hq₀⟩ := hquiet c₀ v₀ hv₀
  obtain ⟨-, si, hsi, hports, -⟩ := exportQuiet_live hq₀ hv₀ hl₀
  -- every live export reads this ServiceImport
  have hat : ∀ c v, s.store.exports.get c = some v → v.val.deleting = false →
      v.val.finalizer = true ∧
      (si.val.ports = v.val.ports → v.val.clusterID ∈ si.val.clusters ∧
        HasConflictCondition v.val .False .NoConflictFound) ∧
      (si.val.ports ≠ v.val.ports → v.val.clusterID ∉ si.val.clusters ∧
        HasConflictCondition v.val .True .ConflictFound) := by
    intro c v hv hl
    obtain ⟨n, hq⟩ := hquiet c v hv
    obtain ⟨hf, si', hsi', -, hrest⟩ := exportQuiet_live hq hv hl
    rw [hsi, Option.some.injEq] at hsi'
    subst hsi'
    exact ⟨hf, hrest⟩
  refine ⟨si, hsi, hports, fun x => ⟨fun hx => ?_, ?_⟩, ?_, ?_⟩
  · obtain ⟨v, hv, hf⟩ := (h.store.status si hsi).listed x hx
    have hid := h.store.keyed x v hv
    obtain ⟨n, hq⟩ := hquiet x v hv
    have hl := exportQuiet_not_deleting hq hv hf
    refine ⟨x, v, hv, hid, hl, hf, ?_⟩
    by_contra hp
    exact ((hat x v hv hl).2.2 (Ne.symm hp)).1 (hid ▸ hx)
  · rintro ⟨c, v, hv, rfl, hl, -, hp⟩
    exact ((hat c v hv hl).2.1 hp.symm).1
  · intro c v hv hl hp
    exact ((hat c v hv hl).2.1 hp.symm).2
  · intro c v hv hl hp
    exact ((hat c v hv hl).2.2 (Ne.symm hp)).2

/-- The run of the safety development ends quiet: cluster 0 is listed and unconflicted, and
cluster 1, with other ports, is conflicted. -/
theorem serviceImport_quiescent_run :
    runFinal.Reachable ∧
      (∀ c v, runFinal.store.exports.get c = some v →
        ∃ n, exportQuiet c n runFinal.store .idle = true) ∧
      (∃ c v, runFinal.store.exports.get c = some v ∧ v.val.deleting = false) ∧
      ∃ si, runFinal.store.serviceImport.get () = some si ∧ si.val.ports ≠ [] ∧
        (∀ x, x ∈ si.val.clusters ↔ ∃ c v, runFinal.store.exports.get c = some v ∧
          v.val.clusterID = x ∧ v.val.deleting = false ∧ v.val.finalizer = true ∧
          v.val.ports = si.val.ports) ∧
        (∀ c v, runFinal.store.exports.get c = some v → v.val.deleting = false →
          v.val.ports = si.val.ports → HasConflictCondition v.val .False .NoConflictFound) ∧
        (∀ c v, runFinal.store.exports.get c = some v → v.val.deleting = false →
          v.val.ports ≠ si.val.ports → HasConflictCondition v.val .True .ConflictFound) := by
  have hq : ∀ c : Fin 2, exportQuiet c 3 runFinal.store .idle = true := by decide
  have hquiet : ∀ c v, runFinal.store.exports.get c = some v →
      ∃ n, exportQuiet c n runFinal.store .idle = true := fun c _ _ => ⟨3, hq c⟩
  have hlive : ∃ c v, runFinal.store.exports.get c = some v ∧ v.val.deleting = false :=
    ⟨0, ⟨5, ⟨0, [80], 1, false, true, some ⟨.False, .NoConflictFound, 1⟩⟩⟩, by decide, rfl⟩
  exact ⟨runFinal_reachable, hquiet, hlive,
    serviceImport_quiescent runFinal_reachable hquiet hlive⟩

end FleetNet.Hub
