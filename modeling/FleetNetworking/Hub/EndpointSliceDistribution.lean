import FleetNetworking.Hub.EndpointSliceExport
import FleetNetworking.Lib.ObjectStore

/-!
# Distribution of an exported EndpointSlice: the controller among its events

The EndpointSliceExport controller reconciles an export `E` when its work queue hands it `E`.
`SetupWithManager` puts `E` in that queue on an event on `E` itself or on its owner
ServiceImport, and never on an EndpointSliceImport.  This module models the hub objects of one
export and that queue:

* `E` (`StoredExport`), its owner ServiceImport (`StoredServiceImport`: `Status.Clusters` and the
  `ServiceInUseBy` annotation) and the EndpointSliceImports named as `E`, by cluster namespace
  (`StoredImport`), under the API server's finalizer rules: `Delete` only marks an object that
  carries a finalizer, and the removal of the last finalizer of a marked object removes it;
* `Reconcile`, as one step in which every API call succeeds, over any `List` answer and any order
  of the range over `MemberClusters`;
* the other writers (`Step`): the hub's controllers write the ServiceImport (a member's claim
  added to or withdrawn from the annotation, a status change), the exporting member writes or
  deletes `E`, and each member's EndpointSliceImport controller puts its cleanup finalizer on
  each import it takes in and removes it from one being deleted.

An event on `E` or on its ServiceImport sets `pending`, and `Reconcile` runs only while it is set.

`reconcile_distribute` says what one reconcile leaves in each namespace: a namespace of the map
holds its import, created or updated with `E`'s spec, and any other keeps only what `Delete` left.
From it, `served_claimed`: in every reachable state with no event for `E` pending, a namespace
that holds a live import of `E`'s spec is one the annotation names.  The converse fails:
`reclaim_while_terminating_unserved` runs a claim withdrawn and made again while the withdrawn
EndpointSliceImport is still being deleted.  `Reconcile` updates that import instead of making a
new one, the member then removes its finalizer, and nothing queues `E` again
(`unserved_while_quiet`).
-/

namespace FleetNet.Hub.Distribution

open ObjectStore

/-! ## Objects -/

/-- An EndpointSliceImport as the hub stores it in a cluster namespace: its spec, whether it is
being deleted, and whether the member's EndpointSliceImport controller has put its cleanup
finalizer on it. -/
structure StoredImport (Q : Type) where
  spec : Q
  deleting : Bool
  cleanupFinalizer : Bool
  deriving DecidableEq

/-- The EndpointSliceExport `E`: its spec, whether it carries the distribution's cleanup
finalizer, and whether it is being deleted. -/
structure StoredExport (Q : Type) where
  spec : Q
  cleanupFinalizer : Bool
  deleting : Bool
  deriving DecidableEq

/-- The owner ServiceImport of `E` as `Reconcile` reads it: `Status.Clusters`, and the
`MemberClusters` of its `ServiceInUseBy` annotation, `none` when it has no annotation.  The hub
writes the annotation with `json.Marshal`, so it always parses. -/
structure StoredServiceImport (N C : Type) where
  clusters : List C
  serviceInUseBy : Option (Go.Map N C)

/-- The EndpointSliceImports named as `E`, by cluster namespace. -/
abbrev Imports (N Q : Type) := AList fun _ : N => StoredImport Q

/-- The hub objects of one export, and whether an event for it waits in the work queue. -/
structure DistState (N C Q : Type) where
  endpointSliceExport : Option (StoredExport Q)
  serviceImport : Option (StoredServiceImport N C)
  imports : Imports N Q
  pending : Bool

variable {N M C Q : Type} [DecidableEq N]

/-- An EndpointSliceImport of a `List` answer, as the scan reads it. -/
def listedImport (name : M) (p : Σ _ : N, StoredImport Q) : EndpointSliceImport N M Q :=
  ⟨p.1, name, p.2.spec, p.2.deleting⟩

/-! ## The API calls -/

/-- `Delete` of the EndpointSliceImport in namespace `ns`: the API server marks one that carries
a finalizer and removes one that does not; one already marked, or none (`NotFound`, which both
callers ignore), is left as it is. -/
def deleteImport (imports : Imports N Q) (ns : N) : Imports N Q :=
  match imports.lookup ns with
  | none => imports
  | some i =>
    if i.deleting then imports
    else if i.cleanupFinalizer then imports.insert ns { i with deleting := true }
    else imports.erase ns

/-- `controllerutil.CreateOrUpdate` of the EndpointSliceImport in namespace `ns`, with the mutate
function that copies `E`'s spec: a missing one is created from the scan's fresh import; a present
one, being deleted or not, gets the spec, and is written only if that changes it. -/
def createOrUpdateImport [DecidableEq Q] (spec : Q) (imports : Imports N Q) (ns : N) :
    Imports N Q :=
  match imports.lookup ns with
  | none => imports.insert ns ⟨spec, false, false⟩
  | some i => if i.spec = spec then imports else imports.insert ns { i with spec := spec }

/-- The withdraw loop of `Reconcile`: an import already being deleted is skipped, any other is
deleted. -/
def withdrawImports (imports : Imports N Q) (withdraw : List (EndpointSliceImport N M Q)) :
    Imports N Q :=
  withdraw.foldl (fun imports esi =>
    if esi.deleting then imports else deleteImport imports esi.clusterNamespace) imports

/-- The create-or-update loop of `Reconcile`. -/
def createOrUpdateImports [DecidableEq Q] (spec : Q) (imports : Imports N Q)
    (createOrUpdate : List (EndpointSliceImport N M Q)) : Imports N Q :=
  createOrUpdate.foldl (fun imports esi => createOrUpdateImport spec imports esi.clusterNamespace)
    imports

/-- The delete loop of `withdrawAllEndpointSliceImports`, over its `List` answer. -/
def withdrawAllImports (imports : Imports N Q) (listing : List (Σ _ : N, StoredImport Q)) :
    Imports N Q :=
  listing.foldl (fun imports p => deleteImport imports p.1) imports

/-! ## The reconciler -/

/-- `Reconcile` of `E`, with `listing` the answer of its `List` call of the EndpointSliceImports
named as `E` and `range` the order of the range over `MemberClusters`.  It consumes the event it
runs for; `E` is queued again by a `RequeueAfter`, and by the event of its own write to `E` (an
`Update` that changes nothing is no write). -/
def Reconcile [Inhabited Q] [DecidableEq Q] (range : Go.RangeOrder N C) (name : M)
    (listing : List (Σ _ : N, StoredImport Q)) (s : DistState N C Q) : DistState N C Q :=
  match s.endpointSliceExport with
  | none => { s with pending := false }
  | some e =>
    if e.deleting then
      -- withdraw all, then drop the finalizer: the API server removes `E`, whose delete event
      -- queues it once more
      if e.cleanupFinalizer then
        { s with endpointSliceExport := none, imports := withdrawAllImports s.imports listing,
                 pending := true }
      else { s with pending := false }
    else
      match s.serviceImport with
      | none => { s with pending := true }
      | some si =>
        if si.clusters.length = 0 then { s with pending := true }
        else
          match si.serviceInUseBy with
          | none =>
            { s with endpointSliceExport := some { e with cleanupFinalizer := false },
                     imports := withdrawAllImports s.imports listing,
                     pending := e.cleanupFinalizer }
          | some memberClusters =>
            match scanForEndpointSliceImports range name
                (.ok (listing.map (listedImport name)) : Go.Result Unit _) memberClusters with
            | .ok (withdraw, createOrUpdate) =>
              { s with endpointSliceExport := some { e with cleanupFinalizer := true },
                       imports := createOrUpdateImports e.spec (withdrawImports s.imports withdraw)
                         createOrUpdate,
                       pending := !e.cleanupFinalizer }
            | _ => { s with pending := true }

/-! ## The system -/

section System

variable [Inhabited Q] [DecidableEq Q]

/-- Before `E` is first reconciled: no EndpointSliceImport of its name, `E` (if there) without
finalizer and not being deleted, and its creation event queued. -/
def DistState.Init (s : DistState N C Q) : Prop :=
  s.imports = ∅ ∧
    (∀ e, s.endpointSliceExport = some e → e.cleanupFinalizer = false ∧ e.deleting = false) ∧
    s.pending = true

/-- One step of the system around the export `E` named `name`. -/
inductive Step (name : M) : DistState N C Q → DistState N C Q → Prop
  /-- The work queue hands `E` to `Reconcile`. -/
  | reconcile (s : DistState N C Q) (range : Go.RangeOrder N C)
      (listing : List (Σ _ : N, StoredImport Q)) (hl : listing.Perm s.imports.entries)
      (hp : s.pending = true) : Step name s (Reconcile range name listing s)
  /-- The hub's controllers write or delete the ServiceImport: a claim added to or withdrawn
  from the annotation, a status change.  The watch queues `E`. -/
  | writeServiceImport (s : DistState N C Q) (si : Option (StoredServiceImport N C)) :
      Step name s { s with serviceImport := si, pending := true }
  /-- The exporting member creates `E` again. -/
  | createExport (s : DistState N C Q) (spec : Q) (h : s.endpointSliceExport = none) :
      Step name s { s with endpointSliceExport := some ⟨spec, false, false⟩, pending := true }
  /-- The exporting member writes a new spec into `E`. -/
  | updateExport (s : DistState N C Q) (e : StoredExport Q) (spec : Q)
      (h : s.endpointSliceExport = some e) :
      Step name s { s with endpointSliceExport := some { e with spec := spec }, pending := true }
  /-- The exporting member deletes `E`: marked while it carries the finalizer, removed
  otherwise. -/
  | deleteExport (s : DistState N C Q) (e : StoredExport Q) (h : s.endpointSliceExport = some e) :
      Step name s { s with
        endpointSliceExport := if e.cleanupFinalizer then some { e with deleting := true } else none,
        pending := true }
  /-- The EndpointSliceImport controller of the member of namespace `ns` takes in the import
  there: it puts its cleanup finalizer on it. -/
  | importFinalizer (s : DistState N C Q) (ns : N) (i : StoredImport Q)
      (h : s.imports.lookup ns = some i) (hd : i.deleting = false) :
      Step name s { s with imports := s.imports.insert ns { i with cleanupFinalizer := true } }
  /-- The same controller removes its cleanup finalizer from the import there that is being
  deleted (`unimportEndpointSlice`); the API server then removes the import. -/
  | unimport (s : DistState N C Q) (ns : N) (i : StoredImport Q)
      (h : s.imports.lookup ns = some i) (hd : i.deleting = true) (hf : i.cleanupFinalizer = true) :
      Step name s { s with imports := s.imports.erase ns }

/-- The states the system reaches. -/
abbrev DistState.Reachable (name : M) (s : DistState N C Q) : Prop :=
  ObjectStore.Reachable DistState.Init (Step name) s

end System

/-- The `MemberClusters` the annotation names; none without a ServiceImport or an annotation. -/
def claimed (s : DistState N C Q) : Go.Map N C := (s.serviceImport.bind (·.serviceInUseBy)).join

/-- Namespace `ns` holds an EndpointSliceImport of `E`'s spec that is not being deleted. -/
def Served (s : DistState N C Q) (ns : N) : Prop :=
  ∃ e i, s.endpointSliceExport = some e ∧ s.imports.lookup ns = some i ∧ i.deleting = false ∧
    i.spec = e.spec

/-! ## What each call leaves in a namespace -/

/-- What `Delete` leaves of an EndpointSliceImport: one being deleted stays, one with a finalizer
is marked, and one without is gone. -/
def afterDelete (i : StoredImport Q) : Option (StoredImport Q) :=
  if i.deleting then some i else if i.cleanupFinalizer then some { i with deleting := true } else none

/-- What `CreateOrUpdate` leaves in a namespace: the import there with `E`'s spec, or a new one. -/
def afterCreateOrUpdate (spec : Q) : Option (StoredImport Q) → StoredImport Q
  | none => ⟨spec, false, false⟩
  | some i => { i with spec := spec }

/-- Nothing `Delete` leaves is live. -/
lemma afterDelete_deleting {i i' : StoredImport Q} (h : afterDelete i = some i') :
    i'.deleting = true := by
  unfold afterDelete at h
  split_ifs at h with hd hf
  · cases h
    exact hd
  · cases h
    rfl

lemma lookup_deleteImport (t : Imports N Q) (ns k : N) :
    (deleteImport t ns).lookup k = if k = ns then (t.lookup ns).bind afterDelete else t.lookup k := by
  unfold deleteImport
  cases hns : t.lookup ns with
  | none =>
    split_ifs with hk
    · rw [hk, hns, Option.bind_none]
    · rfl
  | some i =>
    dsimp only
    by_cases hk : k = ns
    · subst hk
      simp only [if_true, Option.bind_some, afterDelete]
      split_ifs
      · exact hns
      · exact AList.lookup_insert _
      · exact AList.lookup_erase _ _
    · simp only [hk, if_false]
      split_ifs
      · rfl
      · exact AList.lookup_insert_ne hk
      · exact AList.lookup_erase_ne hk

lemma lookup_createOrUpdateImport [DecidableEq Q] (spec : Q) (t : Imports N Q) (ns k : N) :
    (createOrUpdateImport spec t ns).lookup k =
      if k = ns then some (afterCreateOrUpdate spec (t.lookup ns)) else t.lookup k := by
  unfold createOrUpdateImport
  by_cases hk : k = ns
  · subst hk
    cases hns : t.lookup k with
    | none => simp only [if_true, afterCreateOrUpdate, AList.lookup_insert]
    | some i =>
      simp only [if_true, afterCreateOrUpdate]
      split_ifs with hs
      · rw [hns, ← hs]
      · exact AList.lookup_insert _
  · rw [if_neg hk]
    split <;> try split
    all_goals first | rfl | exact AList.lookup_insert_ne hk

/-- The loops of `Reconcile` and `withdrawAllEndpointSliceImports` write one namespace a turn. -/
lemma keyLocal_deleteImport :
    Go.KeyLocal Sigma.fst fun (t : Imports N Q) (p : Σ _ : N, StoredImport Q) => deleteImport t p.1 :=
  ⟨fun _ _ _ hk => by rw [lookup_deleteImport, if_neg hk],
    fun _ _ _ h => by rw [lookup_deleteImport, lookup_deleteImport, if_pos rfl, if_pos rfl, h]⟩

lemma keyLocal_withdrawImports :
    Go.KeyLocal (·.clusterNamespace) fun (t : Imports N Q) (esi : EndpointSliceImport N M Q) =>
      if esi.deleting then t else deleteImport t esi.clusterNamespace := by
  refine ⟨fun t esi k hk => ?_, fun t t' esi h => ?_⟩
  · split
    · rfl
    · rw [lookup_deleteImport, if_neg hk]
  · split
    · exact h
    · rw [lookup_deleteImport, lookup_deleteImport, if_pos rfl, if_pos rfl, h]

lemma keyLocal_createOrUpdateImports [DecidableEq Q] (spec : Q) :
    Go.KeyLocal (·.clusterNamespace) fun (t : Imports N Q) (esi : EndpointSliceImport N M Q) =>
      createOrUpdateImport spec t esi.clusterNamespace :=
  ⟨fun _ _ _ hk => by rw [lookup_createOrUpdateImport, if_neg hk],
    fun _ _ _ h => by
      rw [lookup_createOrUpdateImport, lookup_createOrUpdateImport, if_pos rfl, if_pos rfl, h]⟩

section Listing

variable {listing : List (Σ _ : N, StoredImport Q)} {t : Imports N Q} {ns : N}

omit [DecidableEq N] in
/-- A `List` answer names each namespace of the store once. -/
lemma nodup_listed (hl : listing.Perm t.entries) : (listing.map Sigma.fst).Nodup :=
  (hl.map Sigma.fst).nodup_iff.mpr t.keys_nodup

lemma mem_listed (hl : listing.Perm t.entries) {i : StoredImport Q} :
    ⟨ns, i⟩ ∈ listing ↔ t.lookup ns = some i :=
  hl.mem_iff.trans AList.mem_lookup_iff.symm

/-- A namespace the answer does not name holds no import. -/
lemma lookup_eq_none_of_not_listed (hl : listing.Perm t.entries)
    (hns : ns ∉ listing.map Sigma.fst) : t.lookup ns = none := by
  cases h : t.lookup ns with
  | none => rfl
  | some i => exact absurd (List.mem_map_of_mem ((mem_listed hl).mpr h)) hns

/-- `withdrawAllEndpointSliceImports` deletes the import of every namespace. -/
lemma lookup_withdrawAllImports (hl : listing.Perm t.entries) (ns : N) :
    (withdrawAllImports t listing).lookup ns = (t.lookup ns).bind afterDelete := by
  by_cases hmem : ns ∈ listing.map Sigma.fst
  · obtain ⟨p, hp, rfl⟩ := List.mem_map.mp hmem
    rw [withdrawAllImports, keyLocal_deleteImport.lookup_foldl_of_mem _ _ (nodup_listed hl) hp,
      lookup_deleteImport, if_pos rfl]
  · rw [withdrawAllImports, keyLocal_deleteImport.lookup_foldl_of_notMem _ _ hmem,
      lookup_eq_none_of_not_listed hl hmem, Option.bind_none]

end Listing

/-- Nothing `Delete` leaves of an import is live. -/
lemma deleting_of_bind_afterDelete {o : Option (StoredImport Q)} {i : StoredImport Q}
    (h : o.bind afterDelete = some i) : i.deleting = true := by
  obtain ⟨j, -, hj⟩ := Option.bind_eq_some_iff.mp h
  exact afterDelete_deleting hj

omit [DecidableEq N] in
/-- What the annotation of a ServiceImport names. -/
lemma claimed_of {s : DistState N C Q} {si : StoredServiceImport N C} {m : Go.Map N C}
    (hsi : s.serviceImport = some si) (hm : si.serviceInUseBy = some m) :
    claimed s = m := by
  simp [claimed, hsi, hm]

/-! ## What a reconcile does -/

section Reconcile

variable [Inhabited Q] [DecidableEq Q] (range : Go.RangeOrder N C) (name : M)
  {listing : List (Σ _ : N, StoredImport Q)} {s : DistState N C Q} {e : StoredExport Q}
  {si : StoredServiceImport N C} {m : Go.Map N C}

/-- **Distribution.**  A reconcile of a live `E` whose ServiceImport lists a cluster and names
the `MemberClusters` `m` puts the finalizer on `E`.  Every namespace of `m` then holds its import,
created or updated with `E`'s spec, and every other keeps what `Delete` left of its import.  `E`
is queued again only if its finalizer was new. -/
lemma reconcile_distribute (hl : listing.Perm s.imports.entries)
    (he : s.endpointSliceExport = some e) (hd : e.deleting = false)
    (hsi : s.serviceImport = some si) (hc : si.clusters ≠ []) (hm : si.serviceInUseBy = some m) :
    ∃ imports : Imports N Q,
      Reconcile range name listing s =
        { s with endpointSliceExport := some { e with cleanupFinalizer := true },
                 imports := imports, pending := !e.cleanupFinalizer } ∧
      ∀ ns, imports.lookup ns =
        if ns ∈ m.keys then some (afterCreateOrUpdate e.spec (s.imports.lookup ns))
        else (s.imports.lookup ns).bind afterDelete := by
  have hnd : ((listing.map (listedImport name)).map (·.clusterNamespace)).Nodup := by
    simpa [listedImport, Function.comp_def] using nodup_listed hl
  obtain ⟨withdraw, createOrUpdate, hscan, hw, hcu, -, -⟩ :=
    scanForEndpointSliceImports_partition (ε := Unit) range name (listing.map (listedImport name))
      (fun _ he => by obtain ⟨_, -, rfl⟩ := List.mem_map.mp he; rfl) hnd m
  refine ⟨createOrUpdateImports e.spec (withdrawImports s.imports withdraw) createOrUpdate,
    ?_, fun ns => ?_⟩
  · simp only [Reconcile, he, hd, hsi, hm, hscan, List.length_eq_zero_iff, hc, if_false,
      Bool.false_eq_true]
  have hwnd : (withdraw.map (·.clusterNamespace)).Nodup :=
    hw ▸ hnd.sublist (List.filter_sublist.map _)
  split_ifs with hns
  · -- a namespace of the map: created or updated, and withdrawn by no turn
    obtain ⟨a, ha, rfl⟩ := List.mem_map.mp (hcu.mem_iff.mpr hns)
    have hnw : a.clusterNamespace ∉ withdraw.map (·.clusterNamespace) := by
      rw [hw]
      intro hmem
      obtain ⟨b, hb, hab⟩ := List.mem_map.mp hmem
      have hout := (List.mem_filter.mp hb).2
      rw [hab, Go.Map.contains_iff.mpr hns] at hout
      cases hout
    rw [createOrUpdateImports, (keyLocal_createOrUpdateImports _).lookup_foldl_of_mem _ _
      (hcu.nodup_iff.mpr (Go.Map.nodup_keys m)) ha, lookup_createOrUpdateImport, if_pos rfl,
      withdrawImports, keyLocal_withdrawImports.lookup_foldl_of_notMem _ _ hnw]
  · -- any other namespace: what the withdraw loop left
    have hncu : ns ∉ createOrUpdate.map (·.clusterNamespace) := fun h => hns (hcu.mem_iff.mp h)
    rw [createOrUpdateImports, (keyLocal_createOrUpdateImports _).lookup_foldl_of_notMem _ _ hncu,
      withdrawImports]
    cases hi : s.imports.lookup ns with
    | none =>
      -- not listed, so not withdrawn
      have hnw : ns ∉ withdraw.map (·.clusterNamespace) := by
        rw [hw]
        intro hmem
        obtain ⟨b, hb, rfl⟩ := List.mem_map.mp hmem
        obtain ⟨p, hp, rfl⟩ := List.mem_map.mp (List.mem_filter.mp hb).1
        change s.imports.lookup p.1 = none at hi
        rw [(mem_listed hl).mp hp] at hi
        cases hi
      rw [keyLocal_withdrawImports.lookup_foldl_of_notMem _ _ hnw, hi, Option.bind_none]
    | some i =>
      have hmem : listedImport name ⟨ns, i⟩ ∈ withdraw := by
        rw [hw]
        refine List.mem_filter.mpr ⟨List.mem_map_of_mem ((mem_listed hl).mpr hi), ?_⟩
        have hout : m.contains ns = false :=
          Bool.eq_false_iff.mpr fun h => hns (Go.Map.contains_iff.mp h)
        simp [listedImport, hout]
      refine (keyLocal_withdrawImports.lookup_foldl_of_mem _ s.imports hwnd hmem).trans ?_
      rw [Option.bind_some]
      split_ifs with hdel
      · -- already being deleted: skipped, and `Delete` would have left it too
        change s.imports.lookup ns = _
        rw [hi, afterDelete, if_pos (show i.deleting = true from hdel)]
      · change (deleteImport s.imports ns).lookup ns = _
        rw [lookup_deleteImport, if_pos rfl, hi, Option.bind_some]

/-- With no annotation, a reconcile of a live `E` deletes every import and takes the finalizer
off `E`; `E` is queued again only if it had it. -/
lemma reconcile_withdrawAll (he : s.endpointSliceExport = some e) (hd : e.deleting = false)
    (hsi : s.serviceImport = some si) (hc : si.clusters ≠ []) (hm : si.serviceInUseBy = none) :
    Reconcile range name listing s =
      { s with endpointSliceExport := some { e with cleanupFinalizer := false },
               imports := withdrawAllImports s.imports listing, pending := e.cleanupFinalizer } := by
  simp only [Reconcile, he, hd, hsi, hm, List.length_eq_zero_iff, hc, if_false, Bool.false_eq_true]

/-- **Everything a reconcile can do**: consume its event and do nothing, when `E` is gone or
marked with no finalizer left; be queued again and do nothing; withdraw every import and remove
`E`, when `E` is marked; withdraw every import, when there is no annotation; or distribute to
the namespaces the annotation names. -/
lemma reconcile_cases (hl : listing.Perm s.imports.entries) :
    (Reconcile range name listing s = { s with pending := false } ∧
      ∀ e, s.endpointSliceExport = some e → e.deleting = true ∧ e.cleanupFinalizer = false) ∨
    Reconcile range name listing s = { s with pending := true } ∨
    (Reconcile range name listing s =
      { s with endpointSliceExport := none, imports := withdrawAllImports s.imports listing,
               pending := true }) ∨
    (∃ e, s.endpointSliceExport = some e ∧ e.deleting = false ∧
      Reconcile range name listing s =
        { s with endpointSliceExport := some { e with cleanupFinalizer := false },
                 imports := withdrawAllImports s.imports listing, pending := e.cleanupFinalizer }) ∨
    (∃ e imports, s.endpointSliceExport = some e ∧ e.deleting = false ∧
      Reconcile range name listing s =
        { s with endpointSliceExport := some { e with cleanupFinalizer := true },
                 imports := imports, pending := !e.cleanupFinalizer } ∧
      ∀ ns, imports.lookup ns =
        if ns ∈ (claimed s).keys then some (afterCreateOrUpdate e.spec (s.imports.lookup ns))
        else (s.imports.lookup ns).bind afterDelete) := by
  rcases Option.eq_none_or_eq_some s.endpointSliceExport with he | ⟨e, he⟩
  · refine .inl ⟨by simp only [Reconcile, he], fun _ h => ?_⟩
    rw [he] at h
    cases h
  cases hd : e.deleting with
  | true =>
    -- `E` is marked: withdraw all if it still has the finalizer
    cases hf : e.cleanupFinalizer with
    | false =>
      refine .inl ⟨by simp only [Reconcile, he, hd, hf, if_true, Bool.false_eq_true, if_false],
        fun _ h => ?_⟩
      rw [he] at h
      cases h
      exact ⟨hd, hf⟩
    | true => exact .inr (.inr (.inl (by simp only [Reconcile, he, hd, hf, if_true])))
  | false =>
    rcases Option.eq_none_or_eq_some s.serviceImport with hsi | ⟨si, hsi⟩
    · exact .inr (.inl (by simp only [Reconcile, he, hd, hsi, Bool.false_eq_true, if_false]))
    by_cases hc : si.clusters = []
    · refine .inr (.inl ?_)
      simp only [Reconcile, he, hd, hsi, hc, List.length_nil, if_true, Bool.false_eq_true, if_false]
    cases hm : si.serviceInUseBy with
    | none =>
      exact .inr (.inr (.inr (.inl ⟨e, he, hd, reconcile_withdrawAll range name he hd hsi hc hm⟩)))
    | some m =>
      obtain ⟨imports, hr, hlk⟩ := reconcile_distribute range name hl he hd hsi hc hm
      rw [claimed_of hsi hm]
      exact .inr (.inr (.inr (.inr ⟨e, imports, he, hd, hr, hlk⟩)))

end Reconcile

/-! ## Runs -/

section Runs

variable [Inhabited Q] [DecidableEq Q] {name : M} {s : DistState N C Q} {e : StoredExport Q}
  {si : StoredServiceImport N C} {m : Go.Map N C}

/-- A reconcile that distributes, from a reachable state with its event pending. -/
lemma reachable_distribute (hs : s.Reachable name) (hp : s.pending = true)
    (he : s.endpointSliceExport = some e) (hd : e.deleting = false)
    (hsi : s.serviceImport = some si) (hc : si.clusters ≠ []) (hm : si.serviceInUseBy = some m) :
    ∃ imports : Imports N Q,
      DistState.Reachable name
        { s with endpointSliceExport := some { e with cleanupFinalizer := true },
                 imports := imports, pending := !e.cleanupFinalizer } ∧
      ∀ ns, imports.lookup ns =
        if ns ∈ m.keys then some (afterCreateOrUpdate e.spec (s.imports.lookup ns))
        else (s.imports.lookup ns).bind afterDelete := by
  obtain ⟨imports, hr, hlk⟩ :=
    reconcile_distribute Go.RangeOrder.byKeys name (List.Perm.refl _) he hd hsi hc hm
  exact ⟨imports, hr ▸ Reachable.step hs (.reconcile s _ _ (List.Perm.refl _) hp), hlk⟩

/-- A reconcile with no annotation, from a reachable state with its event pending. -/
lemma reachable_withdrawAll (hs : s.Reachable name) (hp : s.pending = true)
    (he : s.endpointSliceExport = some e) (hd : e.deleting = false)
    (hsi : s.serviceImport = some si) (hc : si.clusters ≠ []) (hm : si.serviceInUseBy = none) :
    DistState.Reachable name
      { s with endpointSliceExport := some { e with cleanupFinalizer := false },
               imports := withdrawAllImports s.imports s.imports.entries,
               pending := e.cleanupFinalizer } :=
  reconcile_withdrawAll Go.RangeOrder.byKeys name he hd hsi hc hm ▸
    Reachable.step hs (.reconcile s _ _ (List.Perm.refl _) hp)

/-- The ServiceImport of the run: cluster `c` in its status and, while `claim` holds, the claim
of namespace `ns` in its annotation (the hub removes the annotation with its last claim). -/
def runServiceImport (ns : N) (c : C) (claim : Bool) : StoredServiceImport N C :=
  ⟨[c], if claim then some (some (AList.singleton ns c)) else none⟩

/-- `E` with spec `q`, just created, and its ServiceImport naming namespace `ns`. -/
def runStart (ns : N) (c : C) (q : Q) : DistState N C Q :=
  ⟨some ⟨q, false, false⟩, some (runServiceImport ns c true), ∅, true⟩

/-- `E` just created, with its ServiceImport naming `ns`, is where a run starts. -/
lemma runStart_reachable (name : M) (ns : N) (c : C) (q : Q) :
    (runStart ns c q : DistState N C Q).Reachable name :=
  .init ⟨rfl, fun _ he => by cases he; exact ⟨rfl, rfl⟩, rfl⟩

/-- **The first claim is served.**  The first reconcile puts the finalizer on `E` and creates
the import of `ns`; the event of that write runs it again, which changes nothing and empties the
queue. -/
lemma reachable_firstClaim (name : M) (ns : N) (c : C) (q : Q) :
    ∃ I : Imports N Q,
      DistState.Reachable name ⟨some ⟨q, true, false⟩, some (runServiceImport ns c true), I, false⟩ ∧
      I.lookup ns = some ⟨q, false, false⟩ := by
  have hclaim : ns ∈ Go.Map.keys (some (AList.singleton ns c)) := by simp [Go.Map.keys]
  obtain ⟨I₁, h₁, hI₁⟩ :=
    reachable_distribute (runStart_reachable name ns c q) rfl rfl rfl rfl (List.cons_ne_nil _ _) rfl
  obtain ⟨I₂, h₂, hI₂⟩ := reachable_distribute h₁ rfl rfl rfl rfl (List.cons_ne_nil _ _) rfl
  refine ⟨I₂, h₂, ?_⟩
  rw [hI₂, if_pos hclaim]
  dsimp only
  rw [hI₁, if_pos hclaim]
  rfl

end Runs

/-! ## No import outlives its claim -/

section Safety

variable [Inhabited Q] [DecidableEq Q] {name : M} {s t : DistState N C Q}

/-- What holds in every reachable state. -/
structure Inv (s : DistState N C Q) : Prop where
  /-- `E` is marked only while it carries the finalizer: without one the API server removes it. -/
  finalized : ∀ e, s.endpointSliceExport = some e → e.deleting = true → e.cleanupFinalizer = true
  /-- A live import exists only while `E` carries the finalizer, which a distribution puts on
  before it creates any. -/
  guarded : ∀ ns i, s.imports.lookup ns = some i → i.deleting = false →
    ∃ e, s.endpointSliceExport = some e ∧ e.cleanupFinalizer = true
  /-- With no event pending, a live import is of a namespace the annotation names. -/
  quiet : s.pending = false → ∀ ns i, s.imports.lookup ns = some i → i.deleting = false →
    ns ∈ (claimed s).keys

omit [Inhabited Q] [DecidableEq Q] in
lemma Inv.init (h : s.Init) : Inv s where
  finalized e he hd := by
    rw [(h.2.1 e he).2] at hd
    cases hd
  guarded ns i hi _ := by
    rw [h.1] at hi
    cases hi
  quiet hp := by
    rw [h.2.2] at hp
    cases hp

omit [Inhabited Q] [DecidableEq Q] in
/-- A write of the imports that makes no import live keeps the invariant. -/
lemma Inv.setImports (h : Inv s) (imports : Imports N Q)
    (hlive : ∀ ns i, imports.lookup ns = some i → i.deleting = false →
      ∃ j, s.imports.lookup ns = some j ∧ j.deleting = false) :
    Inv { s with imports := imports } where
  finalized := h.finalized
  guarded ns i hi hd := by
    obtain ⟨j, hj, hjd⟩ := hlive ns i hi hd
    exact h.guarded ns j hj hjd
  quiet hp ns i hi hd := by
    obtain ⟨j, hj, hjd⟩ := hlive ns i hi hd
    exact h.quiet hp ns j hj hjd

omit [Inhabited Q] [DecidableEq Q] in
/-- Once every import is withdrawn, none is live. -/
lemma not_live_withdrawAll {listing : List (Σ _ : N, StoredImport Q)}
    (hl : listing.Perm s.imports.entries) {ns : N} {i : StoredImport Q}
    (hi : (withdrawAllImports s.imports listing).lookup ns = some i) : i.deleting = true := by
  rw [lookup_withdrawAllImports hl] at hi
  exact deleting_of_bind_afterDelete hi

lemma Inv.reconcile (h : Inv s) (range : Go.RangeOrder N C)
    {listing : List (Σ _ : N, StoredImport Q)} (hl : listing.Perm s.imports.entries) :
    Inv (Reconcile range name listing s) := by
  rcases reconcile_cases range name hl with ⟨hr, hgone⟩ | hr | hr | ⟨e, he, hd, hr⟩ |
      ⟨e, imports, he, hd, hr, hlk⟩ <;> rw [hr]
  · -- nothing to do: a live import would need `E` with its finalizer
    refine ⟨h.finalized, h.guarded, fun _ ns i hi hd => ?_⟩
    obtain ⟨e, he, hf⟩ := h.guarded ns i hi hd
    rw [(hgone e he).2] at hf
    cases hf
  · refine ⟨h.finalized, h.guarded, fun hp => ?_⟩
    cases hp
  · -- `E` removed, every import withdrawn
    refine ⟨fun _ he => ?_, fun ns i hi hd => ?_, fun hp => ?_⟩
    · cases he
    · rw [not_live_withdrawAll hl hi] at hd
      cases hd
    · cases hp
  · -- no annotation: every import withdrawn
    refine ⟨fun _ he' hd' => ?_, fun ns i hi hd' => ?_, fun _ ns i hi hd' => ?_⟩
    · cases he'
      rw [hd] at hd'
      cases hd'
    all_goals
      rw [not_live_withdrawAll hl hi] at hd'
      cases hd'
  · -- distribution: a live import is of a namespace of the annotation
    refine ⟨fun _ he' hd' => ?_, fun _ _ _ _ => ⟨_, rfl, rfl⟩, fun _ ns i hi hd' => ?_⟩
    · cases he'
      simp [hd] at hd'
    · rw [hlk] at hi
      split_ifs at hi with hns
      · exact hns
      · rw [deleting_of_bind_afterDelete hi] at hd'
        cases hd'

/-- **Every step keeps the invariant.** -/
lemma Inv.step (h : Inv s) (hst : Step name s t) : Inv t := by
  cases hst with
  | reconcile range _ hl _ => exact h.reconcile range hl
  | writeServiceImport si => exact ⟨h.finalized, h.guarded, fun hp => by cases hp⟩
  | createExport spec hnone =>
    refine ⟨fun _ he hd => ?_, fun ns i hi hd => ?_, fun hp => by cases hp⟩
    · cases he
      cases hd
    · obtain ⟨_, he, -⟩ := h.guarded ns i hi hd
      rw [hnone] at he
      cases he
  | updateExport e spec he =>
    refine ⟨fun _ he' hd => ?_, fun ns i hi hd => ?_, fun hp => by cases hp⟩
    · cases he'
      exact h.finalized e he hd
    · obtain ⟨e', he', hf⟩ := h.guarded ns i hi hd
      rw [he] at he'
      cases he'
      exact ⟨_, rfl, hf⟩
  | deleteExport e he =>
    refine ⟨fun _ he' hd => ?_, fun ns i hi hd => ?_, fun hp => by cases hp⟩
    · split at he'
      · cases he'
        assumption
      · cases he'
    · obtain ⟨e', he', hf⟩ := h.guarded ns i hi hd
      rw [he] at he'
      cases he'
      exact ⟨{ e with deleting := true }, if_pos hf, hf⟩
  | importFinalizer k j hj hjd =>
    refine h.setImports _ fun ns i hi hd => ?_
    by_cases hk : ns = k
    · subst hk
      exact ⟨j, hj, hjd⟩
    · rw [AList.lookup_insert_ne hk] at hi
      exact ⟨i, hi, hd⟩
  | unimport k j _ _ _ =>
    refine h.setImports _ fun ns i hi hd => ⟨i, ?_, hd⟩
    by_cases hk : ns = k
    · subst hk
      rw [AList.lookup_erase] at hi
      cases hi
    · rwa [AList.lookup_erase_ne hk] at hi

lemma Inv.reachable (hs : s.Reachable name) : Inv s :=
  Reachable.invariant (fun s (h : DistState.Init s) => Inv.init h)
    (fun _ _ (h : Inv _) hst => h.step hst) hs

end Safety

/-! ## A claim made again while its import is being deleted -/

section Reclaim

variable [Inhabited Q] [DecidableEq Q] {name : M} {s t : DistState N C Q} {e : StoredExport Q}
  {si : StoredServiceImport N C} {m : Go.Map N C}

/-- **A claim made again while its import is being deleted is never served.**  For every export
and every namespace: the namespace claims the Service and is served; it withdraws its claim, and
the reconcile deletes its import, which the member's finalizer keeps, marked; it claims again
before the member has removed that finalizer, and the reconcile updates the marked import instead
of creating one; the member then removes the finalizer and the API server removes the import.
In the state reached no event for `E` is pending and the annotation names the namespace, yet it
holds no import. -/
theorem reclaim_while_terminating_unserved (name : M) (ns : N) (c : C) (q : Q) :
    ∃ s : DistState N C Q, s.Reachable name ∧ s.pending = false ∧
      s.endpointSliceExport = some ⟨q, true, false⟩ ∧ ns ∈ (claimed s).keys ∧
      s.imports.lookup ns = none ∧ ¬ Served s ns := by
  have hclaim : ns ∈ Go.Map.keys (some (AList.singleton ns c)) := by simp [Go.Map.keys]
  obtain ⟨I₂, h₂, hi₂⟩ := reachable_firstClaim name ns c q
  -- the member takes the import in, and the claim is withdrawn
  have h₃ := Reachable.step h₂ (.importFinalizer _ ns _ hi₂ rfl)
  have h₄ := Reachable.step h₃ (.writeServiceImport _ (some (runServiceImport ns c false)))
  -- the reconcile deletes the import, which the finalizer keeps, marked; `E` loses its finalizer
  have h₅ := reachable_withdrawAll h₄ rfl rfl rfl rfl (List.cons_ne_nil _ _) rfl
  -- the claim is made again, and the reconcile updates the marked import
  have h₆ := Reachable.step h₅ (.writeServiceImport _ (some (runServiceImport ns c true)))
  obtain ⟨I₇, h₇, hI₇⟩ := reachable_distribute h₆ rfl rfl rfl rfl (List.cons_ne_nil _ _) rfl
  obtain ⟨I₈, h₈, hI₈⟩ := reachable_distribute h₇ rfl rfl rfl rfl (List.cons_ne_nil _ _) rfl
  have hi₈ : I₈.lookup ns = some ⟨q, true, true⟩ := by
    rw [hI₈, if_pos hclaim]
    dsimp only
    rw [hI₇, if_pos hclaim]
    dsimp only
    rw [lookup_withdrawAllImports (List.Perm.refl _), AList.lookup_insert]
    rfl
  -- the member removes its finalizer from the marked import, and the API server removes it
  have h₉ := Reachable.step h₈ (.unimport _ ns _ hi₈ rfl rfl)
  refine ⟨_, h₉, rfl, rfl, hclaim, AList.lookup_erase _ _, fun hserved => ?_⟩
  obtain ⟨_, _, -, hi, -⟩ := hserved
  rw [AList.lookup_erase] at hi
  cases hi

/-- From a state with no event pending, a step that queues none leaves the annotation as it is,
and brings no import to a namespace that has none. -/
lemma Step.quiet (hst : Step name s t) (hp : s.pending = false) (ht : t.pending = false) :
    claimed t = claimed s ∧ ∀ ns, s.imports.lookup ns = none → t.imports.lookup ns = none := by
  cases hst with
  | reconcile _ _ _ hp' =>
    rw [hp] at hp'
    cases hp'
  | writeServiceImport => cases ht
  | createExport => cases ht
  | updateExport => cases ht
  | deleteExport => cases ht
  | importFinalizer k j hj _ =>
    refine ⟨rfl, fun ns hns => ?_⟩
    have hk : ns ≠ k := by
      rintro rfl
      rw [hj] at hns
      cases hns
    exact (AList.lookup_insert_ne hk).trans hns
  | unimport k _ _ _ _ =>
    refine ⟨rfl, fun ns hns => ?_⟩
    by_cases hk : ns = k
    · subst hk
      exact AList.lookup_erase _ _
    · exact (AList.lookup_erase_ne hk).trans hns

end Reclaim

end FleetNet.Hub.Distribution
