import FleetNetworking.Hub.InternalServiceImportSafety

/-!
# Quiescence of the import-claim protocol

`reconcileQuiet` says that a reconcile, run from where it stands against a store, comes back to
idle within its fuel and writes nothing on the way.

`fulfillInternalServiceImport` is meant to skip a status that is the ServiceImport's already.
Its test compares a `ServiceImportStatus` with the `*ServiceImportStatus` that `DeepCopy`
returns, and `reflect.DeepEqual` of values of two types is false, so the update is sent every
time.  But an update that changes nothing is a no-op of the API server, so the reconcile of the
cluster that holds the import can be quiet.  Whether it is depends on four program points, each
with its lemma:

* with no cluster named, a live InternalServiceImport claims, and writes
  (`reconcileQuiet_getServiceImport_claim`);
* the InternalServiceImport of the cluster named, being deleted, withdraws, and writes
  (`reconcileQuiet_getServiceImport_withdraw`);
* the one of the cluster named, live, is quiet exactly when its status is the ServiceImport's
  (`status_eq_of_reconcileQuiet_fulfill`);
* any other live one is quiet exactly when its finalizer is off and its status clear
  (`cleared_of_reconcileQuiet_clear`).

With the invariant of `InternalServiceImportSafety`, `importClaim_settled` gives, in every
reachable state: the annotation names at most one cluster; no step drops the finalizer of a
named cluster; and where no reconcile would write, exactly one live InternalServiceImport, the
named one, holds the ServiceImport's status, and every other live one is cleared.
-/

namespace FleetNet.Hub.ImportClaim

open ObjectStore VStore

variable {N S C P : Type} [DecidableEq N] [DecidableEq C] [DecidableEq P]

/-- The reconcile stands at its start. -/
def Reconcile.isIdle : Reconcile N S C P → Bool
  | .idle => true
  | _ => false

/-- The reconcile of `ns` from `pc` comes back to idle within `n` steps and writes nothing on
the way. -/
def reconcileQuiet (codec : Codec N C S) (ns : N) :
    ℕ → ImportStore N S C P → Reconcile N S C P → Bool
  | 0, _, _ => false
  | n + 1, st, pc =>
    let r := reconcileStep codec ns st pc
    !r.wrote && (r.next.isIdle || reconcileQuiet codec ns n r.store r.next)

/-- A program point whose step always writes, or tries to.  The fulfillment is not one: its
update may change nothing. -/
def Reconcile.Writes : Reconcile N S C P → Prop
  | .idle | .getServiceImport _ | .fulfill _ _ => False
  | _ => True

section Quiet

variable {codec : Codec N C S} {ns : N} {st : ImportStore N S C P} {pc : Reconcile N S C P}
  {n : ℕ} {isi : Versioned (InternalServiceImport C P)} {si : Versioned (ServiceImport S C P)}
  {status : ServiceImportStatus C P}

omit [DecidableEq N] [DecidableEq C] [DecidableEq P] in
lemma Reconcile.isIdle_of_writes (hw : pc.Writes) : pc.isIdle = false := by
  cases pc <;> first | rfl | exact hw.elim

/-- A step from a point that writes makes its write, or tries to. -/
lemma reconcileStep_wrote (hw : pc.Writes) : (reconcileStep codec ns st pc).wrote = true := by
  cases pc <;> first
    | exact hw.elim
    | (simp only [reconcileStep]; repeat' split) <;> rfl

lemma reconcileQuiet_of_writes (hw : pc.Writes) : reconcileQuiet codec ns n st pc = false := by
  cases n with
  | zero => rfl
  | succ n => simp [reconcileQuiet, reconcileStep_wrote hw]

/-- A step that reads and goes on to a write is not quiet. -/
lemma reconcileQuiet_of_next_writes (hr : (reconcileStep codec ns st pc).wrote = false)
    (hw : (reconcileStep codec ns st pc).next.Writes) : reconcileQuiet codec ns (n + 1) st pc = false := by
  simp [reconcileQuiet, hr, Reconcile.isIdle_of_writes hw, reconcileQuiet_of_writes hw]

omit [DecidableEq C] [DecidableEq P] in
lemma withdrawServiceImport_writes : (withdrawServiceImport codec ns si isi).Writes := by
  unfold withdrawServiceImport
  dsimp only
  split_ifs <;> trivial

/-- From idle, the reconcile reads its InternalServiceImport and goes on. -/
lemma reconcileQuiet_idle (hv : st.imports.get ns = some isi) :
    reconcileQuiet codec ns (n + 1) st .idle = reconcileQuiet codec ns n st (.getServiceImport isi) := by
  simp [reconcileQuiet, reconcileStep, hv, Reconcile.isIdle]

/-- A live InternalServiceImport of a live ServiceImport that lists a cluster, with an
annotation that names no cluster, goes on to claim: it writes. -/
lemma reconcileQuiet_getServiceImport_claim (hsi : st.serviceImport.get () = some si)
    (hlive : si.val.deleting = false) (hcl : si.val.status.clusters ≠ [])
    (hisi : isi.val.deleting = false)
    (hk : (extractServiceInUseByInfoFromServiceImport codec si.val).keys = []) :
    reconcileQuiet codec ns n st (.getServiceImport isi) = false := by
  cases n with
  | zero => rfl
  | succ n =>
    apply reconcileQuiet_of_next_writes <;> simp only [reconcileStep, hsi, hlive, hisi, hcl]
    · split_ifs <;> rfl
    · simp only [hk]
      split_ifs <;> trivial

/-- An InternalServiceImport being deleted, with its finalizer, of a live ServiceImport that
lists a cluster withdraws: it writes. -/
lemma reconcileQuiet_getServiceImport_withdraw (hsi : st.serviceImport.get () = some si)
    (hlive : si.val.deleting = false) (hcl : si.val.status.clusters ≠ [])
    (hd : isi.val.deleting = true) (hf : isi.val.finalizer = true) :
    reconcileQuiet codec ns n st (.getServiceImport isi) = false := by
  cases n with
  | zero => rfl
  | succ n =>
    apply reconcileQuiet_of_next_writes <;> simp only [reconcileStep, hsi, hlive, hd, hf, hcl]
    · rfl
    · exact withdrawServiceImport_writes

/-- Once the annotation names a cluster, a live InternalServiceImport of a live ServiceImport
that lists a cluster only reads: it goes on to fulfill if its cluster is the one named, and to
clear otherwise. -/
lemma reconcileStep_getServiceImport_named (hsi : st.serviceImport.get () = some si)
    (hlive : si.val.deleting = false) (hcl : si.val.status.clusters ≠ [])
    (hisi : isi.val.deleting = false)
    (hk : (extractServiceInUseByInfoFromServiceImport codec si.val).keys ≠ []) :
    reconcileStep codec ns st (.getServiceImport isi) =
      .read (if ns ∈ extractServiceInUseByInfoFromServiceImport codec si.val then
        fulfillInternalServiceImport si isi else clearInternalServiceImportStatus isi) st := by
  have hpos := List.length_pos_of_ne_nil hk
  simp only [reconcileStep, hsi, hlive, hisi, hcl, hpos]
  split_ifs <;> simp_all

/-- A step that only reads passes quiet on to where it goes. -/
lemma reconcileQuiet_read {next : Reconcile N S C P}
    (hr : reconcileStep codec ns st pc = .read next st) :
    reconcileQuiet codec ns (n + 1) st pc = (next.isIdle || reconcileQuiet codec ns n st next) := by
  simp [reconcileQuiet, hr]

/-- A quiet fulfillment finds the status in place already: its update changes nothing. -/
lemma status_eq_of_reconcileQuiet_fulfill
    (hq : reconcileQuiet codec ns n st (.fulfill isi status) = true) : isi.val.status = status := by
  cases n with
  | zero => cases hq
  | succ n =>
    by_contra hne
    -- the update goes out with a new status, or fails
    have hw : (reconcileStep codec ns st (.fulfill isi status)).wrote = true := by
      simp only [reconcileStep]
      split
      · rw [if_neg hne]
      · rfl
    simp [reconcileQuiet, hw] at hq

/-- A quiet clearing finds the finalizer off and the status clear already. -/
lemma cleared_of_reconcileQuiet_clear
    (hq : reconcileQuiet codec ns n st (clearInternalServiceImportStatus isi) = true) :
    isi.val.finalizer = false ∧ isi.val.status = .zero := by
  unfold clearInternalServiceImportStatus at hq
  split_ifs at hq with hf hz
  · rw [reconcileQuiet_of_writes (show (Reconcile.clearFinalizer isi).Writes from trivial)] at hq
    cases hq
  · exact ⟨Bool.eq_false_iff.mpr hf, hz⟩
  · rw [reconcileQuiet_of_writes (show (Reconcile.clearStatus isi).Writes from trivial)] at hq
    cases hq

omit [DecidableEq N] in
/-- Clearing goes straight back to idle only when there is nothing to clear. -/
lemma cleared_of_clear_isIdle
    (h : (clearInternalServiceImportStatus (N := N) (S := S) isi).isIdle = true) :
    isi.val.finalizer = false ∧ isi.val.status = .zero := by
  unfold clearInternalServiceImportStatus at h
  split_ifs at h with hf hz
  · cases h
  · exact ⟨Bool.eq_false_iff.mpr hf, hz⟩
  · cases h

end Quiet

section Settled

variable {codec : Codec N C S} {s : ClaimState N S C P} {si : Versioned (ServiceImport S C P)}

/-- The reconcile of a stored InternalServiceImport, quiet from idle, is quiet from the read of
the ServiceImport on. -/
lemma reconcileQuiet_getServiceImport_of_idle {ns : N} {v : Versioned (InternalServiceImport C P)}
    (hv : s.store.imports.get ns = some v)
    (hq : ∃ n, reconcileQuiet codec ns n s.store .idle = true) :
    ∃ n, reconcileQuiet codec ns n s.store (.getServiceImport v) = true := by
  obtain ⟨n, hn⟩ := hq
  cases n with
  | zero => cases hn
  | succ n => exact ⟨n, by rw [← reconcileQuiet_idle hv]; exact hn⟩

/-- Where no reconcile would write, the annotation of a live ServiceImport that lists a cluster,
with a live InternalServiceImport, names a cluster. -/
lemma named_of_quiet (hsi : s.store.serviceImport.get () = some si)
    (hlive : si.val.deleting = false) (hcl : si.val.status.clusters ≠ [])
    (himp : ∃ ns v, s.store.imports.get ns = some v ∧ v.val.deleting = false)
    (hq : ∀ ns, ∃ n, reconcileQuiet codec ns n s.store .idle = true) :
    (extractServiceInUseByInfoFromServiceImport codec si.val).keys ≠ [] := by
  intro hk
  obtain ⟨ns, v, hv, hvd⟩ := himp
  obtain ⟨n, hn⟩ := reconcileQuiet_getServiceImport_of_idle hv (hq ns)
  rw [reconcileQuiet_getServiceImport_claim hsi hlive hcl hvd hk] at hn
  cases hn

end Settled

/-- **The import settles on one cluster.**  In every reachable state, (i) the ServiceInUseBy
annotation names at most one member cluster; (ii) no step drops the finalizer of the
InternalServiceImport of a cluster it names; and where the ServiceImport exists, is not being
deleted, lists a cluster and has a live InternalServiceImport, and no InternalServiceImport
reconcile would write, exactly one live InternalServiceImport holds the ServiceImport's status:
that of the cluster the annotation names, with its finalizer.  Every other live one has no
finalizer and the zero status. -/
theorem importClaim_settled {codec : Codec N C S} {s : ClaimState N S C P}
    (hs : s.Reachable codec) :
    (∀ si, s.store.serviceImport.get () = some si →
      (extractServiceInUseByInfoFromServiceImport codec si.val).keys.length ≤ 1) ∧
    (∀ s' ns, Step codec s s' → Named codec s.store ns → HasCleanupFinalizer s'.store.imports ns) ∧
    ∀ si, s.store.serviceImport.get () = some si → si.val.deleting = false →
      si.val.status.clusters ≠ [] →
      (∃ ns v, s.store.imports.get ns = some v ∧ v.val.deleting = false) →
      (∀ ns, ∃ n, reconcileQuiet codec ns n s.store .idle = true) →
      ∃ ns, ns ∈ extractServiceInUseByInfoFromServiceImport codec si.val ∧
        (∃ v, s.store.imports.get ns = some v ∧ v.val.deleting = false ∧
          v.val.finalizer = true ∧ v.val.status = si.val.status) ∧
        ∀ ns', ns' ≠ ns → ∀ v, s.store.imports.get ns' = some v → v.val.deleting = false →
          v.val.finalizer = false ∧ v.val.status = .zero := by
  have h := Inv.reachable hs
  refine ⟨fun si hsi => (serviceInUseBy_exclusive hs hsi).1,
    fun s' ns hst hn => finalizer_kept_while_named hs hst hn,
    fun si hsi hlive hcl himp hq => ?_⟩
  set m := extractServiceInUseByInfoFromServiceImport codec si.val
  have hk : m.keys ≠ [] := named_of_quiet hsi hlive hcl himp hq
  -- the annotation names exactly one cluster `x`
  obtain ⟨x, hx⟩ := List.exists_mem_of_ne_nil _ hk
  have hone : ∀ y ∈ m.keys, y = x := by
    intro y hy
    have hlen : m.keys.length ≤ 1 := h.store.one si hsi
    match hks : m.keys, hx, hy with
    | [a], hx, hy => simp_all
    | _ :: _ :: _, _, _ => simp [hks] at hlen
  obtain ⟨w, hw, hwf⟩ := h.store.named x ((named_iff hsi).mpr (AList.mem_keys.mpr hx))
  -- its InternalServiceImport is live, or it would withdraw
  have hwd : w.val.deleting = false := by
    cases hwd : w.val.deleting
    · rfl
    · obtain ⟨n, hn⟩ := reconcileQuiet_getServiceImport_of_idle hw (hq x)
      rw [reconcileQuiet_getServiceImport_withdraw hsi hlive hcl hwd hwf] at hn
      cases hn
  refine ⟨x, AList.mem_keys.mpr hx, ⟨w, hw, hwd, hwf, ?_⟩, fun y hyx v hv hvd => ?_⟩
  · -- it fulfills, quietly: the status is in place
    obtain ⟨n, hn⟩ := reconcileQuiet_getServiceImport_of_idle hw (hq x)
    cases n with
    | zero => cases hn
    | succ n =>
      rw [reconcileQuiet_read (reconcileStep_getServiceImport_named hsi hlive hcl hwd hk),
        if_pos (AList.mem_keys.mpr hx)] at hn
      simpa [fulfillInternalServiceImport, Reconcile.isIdle] using status_eq_of_reconcileQuiet_fulfill
        (by simpa [fulfillInternalServiceImport, Reconcile.isIdle] using hn)
  · -- any other clears, quietly: nothing is left to clear
    have hy : y ∉ m := fun hy => hyx (hone y (AList.mem_keys.mp hy))
    obtain ⟨n, hn⟩ := reconcileQuiet_getServiceImport_of_idle hv (hq y)
    cases n with
    | zero => cases hn
    | succ n =>
      rw [reconcileQuiet_read (reconcileStep_getServiceImport_named hsi hlive hcl hvd hk),
        if_neg hy] at hn
      rcases Bool.or_eq_true_iff.mp hn with hidle | hn
      · exact cleared_of_clear_isIdle hidle
      · exact cleared_of_reconcileQuiet_clear hn

/-! ## A run -/

section Run

/-- `json.Marshal` and `json.Unmarshal` of a `ServiceInUseBy` as its list of entries. -/
def entriesCodec : Codec (Fin 2) (Fin 2) (List (Σ _ : Fin 2, Fin 2)) where
  marshal m := m.entries
  unmarshal l := if h : (l.map Sigma.fst).Nodup then some ⟨l, h⟩ else none
  unmarshal_marshal m := dif_pos m.nodupKeys

/-- The status of a Service that cluster `1` exports. -/
def importRunStatus : ServiceImportStatus (Fin 2) ℕ := ⟨[80], [1], some .ClusterSetIP⟩

/-- The start: nothing stored, no reconcile running. -/
def importRunInit : ClaimState (Fin 2) (List (Σ _ : Fin 2, Fin 2)) (Fin 2) ℕ :=
  ⟨⟨.empty, .empty⟩, fun _ => .idle⟩

/-- The ServiceImport is created. -/
def importRunCreated : ClaimState (Fin 2) (List (Σ _ : Fin 2, Fin 2)) (Fin 2) ℕ :=
  { importRunInit with store := { importRunInit.store with
      serviceImport := importRunInit.store.serviceImport.put () ⟨none, false, false, importRunStatus⟩ } }

/-- Cluster `0` asks to import it. -/
def importRunRequested : ClaimState (Fin 2) (List (Σ _ : Fin 2, Fin 2)) (Fin 2) ℕ :=
  { importRunCreated with store := { importRunCreated.store with
      imports := importRunCreated.store.imports.put 0 ⟨0, false, false, .zero⟩ } }

/-- Five steps of the reconcile of cluster `0`: it reads, adds its finalizer, claims the
ServiceImport and fulfills the import. -/
def importRunFulfilled : ClaimState (Fin 2) (List (Σ _ : Fin 2, Fin 2)) (Fin 2) ℕ :=
  (fun s => s.afterReconcile entriesCodec 0)^[5] importRunRequested

lemma ClaimState.Reachable.iterate_afterReconcile {codec : Codec N C S} {s : ClaimState N S C P}
    (h : s.Reachable codec) (ns : N) (n : ℕ) :
    ((fun s => s.afterReconcile codec ns)^[n] s).Reachable codec := by
  induction n generalizing s with
  | zero => exact h
  | succ n ih => exact ih (.step h (.reconcile s ns))

lemma importRunFulfilled_reachable : importRunFulfilled.Reachable entriesCodec := by
  have h₀ : importRunInit.Reachable entriesCodec := .init ⟨rfl, fun _ => rfl⟩
  have h₁ : importRunCreated.Reachable entriesCodec :=
    .step h₀ (.env (.createServiceImport importRunStatus rfl))
  have h₂ : importRunRequested.Reachable entriesCodec := .step h₁ (.env (.createImport 0 0 rfl))
  exact h₂.iterate_afterReconcile 0 5

/-- At the end the annotation names cluster `0`, whose InternalServiceImport holds the status
of the ServiceImport, and no reconcile writes any more: the one of cluster `0` sends an update
that changes nothing, and cluster `1` has no InternalServiceImport. -/
theorem importClaim_settled_run :
    importRunFulfilled.store.serviceImport.get () =
        some ⟨2, ⟨some [⟨0, 0⟩], true, false, importRunStatus⟩⟩ ∧
      importRunFulfilled.store.imports.get 0 = some ⟨3, ⟨0, false, true, importRunStatus⟩⟩ ∧
      (∀ ns, ∃ n, reconcileQuiet entriesCodec ns n importRunFulfilled.store .idle = true) ∧
      ∃ ns, ns ∈ extractServiceInUseByInfoFromServiceImport entriesCodec
          ⟨some [⟨0, 0⟩], true, false, importRunStatus⟩ ∧
        (∃ v, importRunFulfilled.store.imports.get ns = some v ∧ v.val.deleting = false ∧
          v.val.finalizer = true ∧ v.val.status = importRunStatus) ∧
        ∀ ns', ns' ≠ ns → ∀ v, importRunFulfilled.store.imports.get ns' = some v →
          v.val.deleting = false → v.val.finalizer = false ∧ v.val.status = .zero := by
  have hsi : importRunFulfilled.store.serviceImport.get () =
      some ⟨2, ⟨some [⟨0, 0⟩], true, false, importRunStatus⟩⟩ := by decide
  have hv : importRunFulfilled.store.imports.get 0 =
      some ⟨3, ⟨0, false, true, importRunStatus⟩⟩ := by decide
  have hq : ∀ ns, ∃ n, reconcileQuiet entriesCodec ns n importRunFulfilled.store .idle = true := by
    intro ns
    refine ⟨3, ?_⟩
    fin_cases ns <;> decide
  exact ⟨hsi, hv, hq, (importClaim_settled importRunFulfilled_reachable).2.2 _ hsi rfl
    (by decide) ⟨0, _, hv, rfl⟩ hq⟩

end Run

end FleetNet.Hub.ImportClaim
