import FleetNetworking.Lib.GoMap

/-!
# Distribution of an exported EndpointSlice: the scan

The EndpointSliceExport controller copies an EndpointSlice exported by a member cluster, as
EndpointSliceImports named as the export, into the cluster namespaces of the members that import
its Service: the keys of `ServiceInUseBy.MemberClusters`.  `scanForEndpointSliceImports` splits
the EndpointSliceImports of that name that exist into those to withdraw and those to update,
taking each updated one's cluster out of the map, and then adds a fresh EndpointSliceImport for
every cluster left in the map, in the order in which `range` visits it.

Each import kept or made then gets a copy of the export's spec (`copyExportSpec`).

`scanForEndpointSliceImports_partition`: for every order of that visit, the withdrawn are the
imports of clusters not in the map, and the ones to create or update are one per cluster of the
map, the existing one where there is one.
-/

namespace FleetNet.Hub.Distribution

/-- An EndpointSliceImport: the cluster namespace it is distributed to, its name, its spec, and
whether it is being deleted. -/
structure EndpointSliceImport (N M Q : Type) where
  clusterNamespace : N
  name : M
  spec : Q
  deleting : Bool
  deriving DecidableEq

variable {N M C Q ε : Type}

/-- The EndpointSliceImport `scanForEndpointSliceImports` makes for a cluster that has none: its
namespace and name, and the zero value elsewhere. -/
def freshEndpointSliceImport [Inhabited Q] (name : M) (ns : N) : EndpointSliceImport N M Q :=
  ⟨ns, name, default, false⟩

@[simp] lemma freshEndpointSliceImport_clusterNamespace [Inhabited Q] (name : M) (ns : N) :
    (freshEndpointSliceImport name ns : EndpointSliceImport N M Q).clusterNamespace = ns := rfl

variable [DecidableEq N]

/-- The two lists the scan builds, and what is left of the map. -/
structure ScanState (N M C Q : Type) where
  withdraw : List (EndpointSliceImport N M Q)
  createOrUpdate : List (EndpointSliceImport N M Q)
  memberClusters : Go.Map N C

/-- One turn of the loop over the listed EndpointSliceImports. -/
def scanStep (s : ScanState N M C Q) (esi : EndpointSliceImport N M Q) : ScanState N M C Q :=
  if s.memberClusters.contains esi.clusterNamespace then
    -- requested and distributed: update it, and take its cluster out of the map
    { s with createOrUpdate := s.createOrUpdate ++ [esi],
             memberClusters := s.memberClusters.delete esi.clusterNamespace }
  else { s with withdraw := s.withdraw ++ [esi] }

/-- `scanForEndpointSliceImports`, with `listed` the answer of the `List` call for the
EndpointSliceImports of the export's name, and `range` the order in which the map is visited. -/
def scanForEndpointSliceImports [Inhabited Q] (range : Go.RangeOrder N C) (name : M)
    (listed : Go.Result ε (List (EndpointSliceImport N M Q))) (memberClusters : Go.Map N C) :
    Go.Result ε (List (EndpointSliceImport N M Q) × List (EndpointSliceImport N M Q)) := do
  let items ← listed
  let s := items.foldl scanStep ⟨[], [], memberClusters⟩
  pure (s.withdraw,
    s.createOrUpdate ++ (range.order s.memberClusters).map (freshEndpointSliceImport name))

/-- The mutate function of the create or update of each EndpointSliceImport to keep: the
export's spec, copied. -/
def copyExportSpec (exportSpec : Q) (esi : EndpointSliceImport N M Q) : EndpointSliceImport N M Q :=
  { esi with spec := exportSpec }

/-! ## The loop -/

section Loop

variable {m : Go.Map N C} {seen : List (EndpointSliceImport N M Q)} {s : ScanState N M C Q}
  {esi : EndpointSliceImport N M Q}

/-- After the loop has seen `seen`: the withdrawn are those of clusters not in the map, the
updated those in it, and the map has lost the clusters seen. -/
def ScanInv (m : Go.Map N C) (seen : List (EndpointSliceImport N M Q)) (s : ScanState N M C Q) :
    Prop :=
  s.withdraw = seen.filter (fun e => !m.contains e.clusterNamespace) ∧
    s.createOrUpdate = seen.filter (fun e => m.contains e.clusterNamespace) ∧
    ∀ ns, ns ∈ s.memberClusters.keys ↔ ns ∈ m.keys ∧ ns ∉ seen.map (·.clusterNamespace)

lemma ScanInv.init : ScanInv m [] (⟨[], [], m⟩ : ScanState N M C Q) :=
  ⟨rfl, rfl, fun _ => by simp⟩

/-- A turn of the loop on an import of a cluster not seen yet keeps the invariant. -/
lemma ScanInv.step (h : ScanInv m seen s) (hnew : esi.clusterNamespace ∉ seen.map (·.clusterNamespace)) :
    ScanInv m (seen ++ [esi]) (scanStep s esi) := by
  obtain ⟨hw, hc, hk⟩ := h
  -- the map left still holds the cluster exactly when the whole map does
  have hcur : s.memberClusters.contains esi.clusterNamespace = m.contains esi.clusterNamespace := by
    rw [Bool.eq_iff_iff, Go.Map.contains_iff, Go.Map.contains_iff, hk]
    exact and_iff_left hnew
  unfold scanStep
  by_cases hm : m.contains esi.clusterNamespace = true
  · rw [if_pos (hcur.trans hm)]
    refine ⟨by simp [hw, hm], by simp [hc, hm], fun ns => ?_⟩
    rw [Go.Map.mem_keys_delete, hk]
    simp only [List.map_append, List.map_cons, List.map_nil, List.mem_append, List.mem_singleton]
    tauto
  · rw [if_neg (by rwa [hcur])]
    refine ⟨by simp [hw, hm], by simp [hc, hm], fun ns => ?_⟩
    rw [hk]
    simp only [List.map_append, List.map_cons, List.map_nil, List.mem_append, List.mem_singleton]
    constructor
    · rintro ⟨hns, hseen⟩
      refine ⟨hns, not_or.mpr ⟨hseen, ?_⟩⟩
      rintro rfl
      exact hm (Go.Map.contains_iff.mpr hns)
    · rintro ⟨hns, hor⟩
      exact ⟨hns, fun h => hor (.inl h)⟩

/-- The loop over imports of distinct clusters keeps the invariant to the end. -/
lemma ScanInv.foldl (l : List (EndpointSliceImport N M Q)) (h : ScanInv m seen s)
    (hnd : ((seen ++ l).map (·.clusterNamespace)).Nodup) :
    ScanInv m (seen ++ l) (l.foldl scanStep s) := by
  induction l generalizing seen s with
  | nil => simpa using h
  | cons e l ih =>
    have hnew : e.clusterNamespace ∉ seen.map (·.clusterNamespace) := by
      simp only [List.map_append, List.map_cons, List.nodup_append, List.nodup_cons] at hnd
      exact fun hm => hnd.2.2 _ hm _ List.mem_cons_self rfl
    rw [List.foldl_cons]
    simpa using ih (h.step hnew) (by simpa using hnd)

end Loop

/-- What the scan returns for the imports of distinct clusters: the imports of clusters not in
the map, then those of clusters in it followed by fresh ones for the clusters of the map left
over, in the order `range` visits them. -/
theorem scanForEndpointSliceImports_eq [Inhabited Q] (range : Go.RangeOrder N C) (name : M)
    (items : List (EndpointSliceImport N M Q)) (hnd : (items.map (·.clusterNamespace)).Nodup)
    (m : Go.Map N C) :
    ∃ rest : Go.Map N C, (∀ ns, ns ∈ rest.keys ↔ ns ∈ m.keys ∧ ns ∉ items.map (·.clusterNamespace)) ∧
      scanForEndpointSliceImports range name (.ok items : Go.Result ε _) m =
        .ok (items.filter (fun e => !m.contains e.clusterNamespace),
          items.filter (fun e => m.contains e.clusterNamespace) ++
            (range.order rest).map (freshEndpointSliceImport name)) := by
  obtain ⟨hw, hc, hk⟩ := ScanInv.foldl items ScanInv.init (by simpa using hnd)
  simp only [List.nil_append] at hw hc hk
  refine ⟨_, hk, ?_⟩
  simp only [scanForEndpointSliceImports, Go.Result.ok_bind, Go.Result.pure_eq]
  rw [hw, hc]

/-- **The scan partitions the clusters.**  For every list of EndpointSliceImports named as the
export, at most one per cluster namespace, every `ServiceInUseBy.MemberClusters` (nil or not)
and every order of the range over it, `scanForEndpointSliceImports` returns the withdraw list of
exactly the imports whose namespace is not in the map; and a create-or-update list with one
EndpointSliceImport named as the export per namespace of the map and no other, the existing one
where the list has one and a fresh one otherwise; no namespace is in both lists. -/
theorem scanForEndpointSliceImports_partition [Inhabited Q] (range : Go.RangeOrder N C)
    (name : M) (L : List (EndpointSliceImport N M Q)) (hname : ∀ e ∈ L, e.name = name)
    (hnd : (L.map (·.clusterNamespace)).Nodup) (memberClusters : Go.Map N C) :
    ∃ withdraw createOrUpdate,
      scanForEndpointSliceImports range name (.ok L : Go.Result ε _) memberClusters =
          .ok (withdraw, createOrUpdate) ∧
        withdraw = L.filter (fun e => !memberClusters.contains e.clusterNamespace) ∧
        (createOrUpdate.map (·.clusterNamespace)).Perm memberClusters.keys ∧
        (∀ e ∈ createOrUpdate, e.name = name ∧
          ((∃ e' ∈ L, e'.clusterNamespace = e.clusterNamespace) → e ∈ L) ∧
          ((¬∃ e' ∈ L, e'.clusterNamespace = e.clusterNamespace) → e = freshEndpointSliceImport name e.clusterNamespace)) ∧
        ∀ a ∈ withdraw, ∀ b ∈ createOrUpdate, a.clusterNamespace ≠ b.clusterNamespace := by
  obtain ⟨rest, hrest, hscan⟩ := scanForEndpointSliceImports_eq (ε := ε) range name L hnd memberClusters
  refine ⟨_, _, hscan, rfl, ?_, ?_, ?_⟩
  · -- the namespaces: those of the listed imports in the map, then the rest of the map
    rw [List.map_append, List.map_map]
    refine (List.perm_ext_iff_of_nodup ?_ (Go.Map.nodup_keys _)).mpr fun ns => ?_
    · refine List.nodup_append.mpr ⟨(hnd.sublist (List.filter_sublist.map _)), ?_, ?_⟩
      · simpa [Function.comp_def] using ((range.perm rest).nodup_iff.mpr (Go.Map.nodup_keys rest))
      · intro a ha b hb hab
        subst hab
        simp only [List.mem_map, List.mem_filter, Function.comp_apply] at ha hb
        obtain ⟨e, ⟨he, -⟩, rfl⟩ := ha
        obtain ⟨_, hb, rfl⟩ := hb
        exact ((hrest _).mp (Go.RangeOrder.mem_order.mp hb)).2 (List.mem_map_of_mem he)
    · simp only [List.mem_append, List.mem_map, List.mem_filter, Function.comp_apply,
        freshEndpointSliceImport, Go.Map.contains_iff]
      constructor
      · rintro (⟨e, ⟨-, he⟩, rfl⟩ | ⟨x, hx, rfl⟩)
        · exact he
        · exact ((hrest x).mp (Go.RangeOrder.mem_order.mp hx)).1
      · intro hns
        by_cases hL : ns ∈ L.map (·.clusterNamespace)
        · obtain ⟨e, he, rfl⟩ := List.mem_map.mp hL
          exact .inl ⟨e, ⟨he, hns⟩, rfl⟩
        · exact .inr ⟨ns, Go.RangeOrder.mem_order.mpr ((hrest ns).mpr ⟨hns, hL⟩), rfl⟩
  · -- an existing import is kept, a fresh one stands for a cluster with none
    intro e he
    rcases List.mem_append.mp he with he | he
    · have heL := (List.mem_filter.mp he).1
      exact ⟨hname e heL, fun _ => heL, fun hno => absurd ⟨e, heL, rfl⟩ hno⟩
    · obtain ⟨ns, hns, rfl⟩ := List.mem_map.mp he
      have hnot := ((hrest ns).mp (Go.RangeOrder.mem_order.mp hns)).2
      exact ⟨rfl, fun hex => absurd (List.mem_map.mpr hex) hnot, fun _ => rfl⟩
  · -- a withdrawn import is of a cluster not in the map; every other one is of a cluster in it
    intro a ha b hb hab
    have han := (List.mem_filter.mp ha).2
    rcases List.mem_append.mp hb with hb | hb
    · rw [hab, (List.mem_filter.mp hb).2] at han
      cases han
    · obtain ⟨ns, hns, rfl⟩ := List.mem_map.mp hb
      have hin := ((hrest ns).mp (Go.RangeOrder.mem_order.mp hns)).1
      rw [hab, freshEndpointSliceImport, Go.Map.contains_iff.mpr hin] at han
      cases han

/-- EndpointSliceImports in clusters `0` and `1`. -/
def scanRunListed : List (EndpointSliceImport (Fin 3) Unit Unit) :=
  [⟨0, (), (), false⟩, ⟨1, (), (), false⟩]

/-- Clusters `1` and `2` import the Service. -/
def scanRunMembers : Go.Map (Fin 3) Unit :=
  some (((∅ : AList fun _ : Fin 3 => Unit).insert 2 ()).insert 1 ())

/-- The import in cluster `0` is withdrawn; the one in cluster `1` and a fresh one for cluster
`2` are created or updated. -/
theorem scanForEndpointSliceImports_partition_run :
    ∃ createOrUpdate, scanForEndpointSliceImports (ε := Unit) Go.RangeOrder.byKeys ()
        (.ok scanRunListed) scanRunMembers = .ok ([⟨0, (), (), false⟩], createOrUpdate) ∧
      (createOrUpdate.map (·.clusterNamespace)).Perm [1, 2] := by
  obtain ⟨w, c, hscan, hw, hperm, -, -⟩ := scanForEndpointSliceImports_partition (ε := Unit)
    Go.RangeOrder.byKeys () scanRunListed (by decide) (by decide) scanRunMembers
  have hw' : w = [⟨0, (), (), false⟩] := by rw [hw]; decide
  have hkeys : scanRunMembers.keys = [1, 2] := by decide
  exact ⟨c, hw' ▸ hscan, hkeys ▸ hperm⟩

end FleetNet.Hub.Distribution
