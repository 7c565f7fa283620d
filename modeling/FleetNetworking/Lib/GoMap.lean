import FleetNetworking.Lib.GoResult

/-!
# Go maps

A Go map value is `nil` or a finite map.  Reading a nil map finds no key, `delete` on it does
nothing and `len` is zero, but an assignment to an entry of a nil map panics.  `for k := range m`
visits every key once, in an order the program does not choose: `RangeOrder` is such an order,
given for every map, and a statement about a loop over a map holds for every `RangeOrder`.
-/

namespace Go

/-- A Go map: `nil`, or the finite map it holds. -/
abbrev Map (κ β : Type) := Option (AList fun _ : κ => β)

namespace Map

variable {κ β ε : Type} [DecidableEq κ]

/-- The keys of a map; a nil map has none. -/
def keys : Map κ β → List κ
  | none => []
  | some a => a.keys

/-- `_, ok := m[k]`. -/
def contains (m : Map κ β) (k : κ) : Bool := decide (k ∈ m.keys)

/-- `v, ok := m[k]`. -/
def lookup (m : Map κ β) (k : κ) : Option β := m.bind (AList.lookup k)

/-- `m[k]`: the zero value when there is no entry. -/
def index [Inhabited β] (m : Map κ β) (k : κ) : β := (m.lookup k).getD default

/-- `len(m)`. -/
def len (m : Map κ β) : ℕ := m.keys.length

/-- `delete(m, k)`: nothing happens to a nil map. -/
def delete (m : Map κ β) (k : κ) : Map κ β := m.map (AList.erase k)

/-- `m[k] = v`: an assignment to an entry in a nil map panics. -/
def assign : Map κ β → κ → β → Result ε (Map κ β)
  | none, _, _ => .panic
  | some a, k, v => .ok (some (a.insert k v))

section Lemmas

variable {m : Map κ β} {k k' : κ}

omit [DecidableEq κ] in
lemma nodup_keys (m : Map κ β) : m.keys.Nodup := by
  cases m with
  | none => exact List.nodup_nil
  | some a => exact a.keys_nodup

@[simp] lemma contains_iff : m.contains k = true ↔ k ∈ m.keys := by
  simp [contains]

lemma mem_keys_delete : k' ∈ (m.delete k).keys ↔ k' ≠ k ∧ k' ∈ m.keys := by
  cases m with
  | none => simp [delete, keys]
  | some a => simp [delete, keys, AList.keys_erase, a.keys_nodup.mem_erase_iff]

@[simp] lemma assign_none {v : β} : (assign none k v : Result ε (Map κ β)) = .panic := rfl

lemma assign_eq_ok {v : β} {m' : Map κ β} :
    (assign m k v : Result ε (Map κ β)) = .ok m' ↔ ∃ a, m = some a ∧ m' = some (a.insert k v) := by
  cases m with
  | none => simp
  | some a => simp [assign, eq_comm]

lemma lookup_of_assign {v : β} {m' : Map κ β} (h : (assign m k v : Result ε (Map κ β)) = .ok m') :
    m'.lookup k' = if k' = k then some v else m.lookup k' := by
  obtain ⟨a, rfl, rfl⟩ := assign_eq_ok.mp h
  by_cases hk : k' = k
  · subst hk
    simp [lookup]
  · simp [lookup, hk, AList.lookup_insert_ne hk]

lemma lookup_isSome : (m.lookup k).isSome ↔ k ∈ m.keys := by
  cases m with
  | none => simp [lookup, keys]
  | some a => simp [lookup, keys, AList.lookup_isSome, AList.mem_keys]

end Lemmas

end Map

/-! ## Loops that write one key per turn -/

section KeyLocal

variable {κ β α : Type} [DecidableEq κ]

/-- The body of a loop over elements of `α` that writes a table keyed by `κ`: a turn on `a`
changes the entry of `key a` alone, and what it leaves there depends only on what was there. -/
structure KeyLocal (key : α → κ) (f : AList (fun _ : κ => β) → α → AList (fun _ : κ => β)) :
    Prop where
  lookup_ne : ∀ t a k, k ≠ key a → (f t a).lookup k = t.lookup k
  lookup_self : ∀ t t' a, t.lookup (key a) = t'.lookup (key a) →
    (f t a).lookup (key a) = (f t' a).lookup (key a)

variable {key : α → κ} {f : AList (fun _ : κ => β) → α → AList (fun _ : κ => β)} {k : κ}

/-- A key no turn is on keeps its entry. -/
lemma KeyLocal.lookup_foldl_of_notMem (hf : KeyLocal key f) (l : List α)
    (t : AList fun _ : κ => β) (hk : k ∉ l.map key) : (l.foldl f t).lookup k = t.lookup k := by
  induction l generalizing t with
  | nil => rfl
  | cons a l ih =>
    simp only [List.map_cons, List.mem_cons, not_or] at hk
    rw [List.foldl_cons, ih _ hk.2, hf.lookup_ne _ _ _ hk.1]

/-- Over elements of distinct keys, a key ends as the turn on its element left it. -/
lemma KeyLocal.lookup_foldl_of_mem (hf : KeyLocal key f) (l : List α) (t : AList fun _ : κ => β)
    (hnd : (l.map key).Nodup) {a : α} (ha : a ∈ l) :
    (l.foldl f t).lookup (key a) = (f t a).lookup (key a) := by
  induction l generalizing t with
  | nil => simp at ha
  | cons b l ih =>
    rw [List.map_cons, List.nodup_cons] at hnd
    rw [List.foldl_cons]
    rcases List.mem_cons.mp ha with rfl | hmem
    · exact hf.lookup_foldl_of_notMem l _ hnd.1
    · -- the turn on `b` left the entry of `key a` as it found it
      have hne : key a ≠ key b := fun h => hnd.1 (h ▸ List.mem_map_of_mem hmem)
      rw [ih _ hnd.2 hmem]
      exact hf.lookup_self _ _ _ (hf.lookup_ne _ _ _ hne)

end KeyLocal

/-- An order in which `for k := range m` visits the keys of a map: every key once, in an order
the program does not choose. -/
structure RangeOrder (κ β : Type) where
  order : Map κ β → List κ
  perm : ∀ m, (order m).Perm m.keys

namespace RangeOrder

variable {κ β : Type} [DecidableEq κ]

/-- The pairs `for k, v := range m` visits, in the order `r`. -/
def entries (r : RangeOrder κ β) (m : Map κ β) : List (κ × β) :=
  (r.order m).filterMap fun k => (m.lookup k).map (k, ·)

/-- The order in which a map lists its keys is one of them. -/
def byKeys : RangeOrder κ β := ⟨Map.keys, fun _ => List.Perm.refl _⟩

variable {r : RangeOrder κ β} {m : Map κ β}

omit [DecidableEq κ] in
lemma mem_order {k : κ} : k ∈ r.order m ↔ k ∈ m.keys := (r.perm m).mem_iff

/-- Each key once: the keys visited are the order itself. -/
lemma map_fst_entries : (r.entries m).map Prod.fst = r.order m := by
  rw [entries, List.map_filterMap]
  trans (r.order m).filterMap some
  · refine List.filterMap_congr fun k hk => ?_
    obtain ⟨v, hv⟩ := Option.isSome_iff_exists.mp (Map.lookup_isSome.mpr (mem_order.mp hk))
    simp [hv]
  · exact List.filterMap_some

lemma mem_entries {k : κ} {v : β} : (k, v) ∈ r.entries m ↔ m.lookup k = some v := by
  simp only [entries, List.mem_filterMap, Option.map_eq_some_iff, Prod.mk.injEq]
  constructor
  · rintro ⟨k', -, v', hv', rfl, rfl⟩
    exact hv'
  · intro hv
    exact ⟨k, mem_order.mpr (Map.lookup_isSome.mp (by rw [hv]; rfl)), v, hv, rfl, rfl⟩

lemma nodup_map_fst_entries : ((r.entries m).map Prod.fst).Nodup := by
  rw [map_fst_entries]
  exact (r.perm m).nodup_iff.mpr (Map.nodup_keys m)

/-- The entries `for k, v := range m` visits in a map that is not nil, as entries of the map. -/
def sigmaEntries (r : RangeOrder κ β) (m : AList fun _ : κ => β) : List (Σ _ : κ, β) :=
  (r.entries (some m)).map fun p => ⟨p.1, p.2⟩

lemma mem_sigmaEntries {m : AList fun _ : κ => β} {e : Σ _ : κ, β} :
    e ∈ r.sigmaEntries m ↔ e ∈ m.entries := by
  obtain ⟨k, v⟩ := e
  -- a pair is visited exactly when the map holds it
  have hpair : (k, v) ∈ r.entries (some m) ↔ ⟨k, v⟩ ∈ m.entries :=
    mem_entries.trans AList.mem_lookup_iff
  rw [← hpair, sigmaEntries, List.mem_map]
  constructor
  · rintro ⟨⟨k', v'⟩, hmem, heq⟩
    cases heq
    exact hmem
  · exact fun hmem => ⟨(k, v), hmem, rfl⟩

/-- **A range over a map visits each of its entries once**, in its own order. -/
lemma sigmaEntries_perm (m : AList fun _ : κ => β) : (r.sigmaEntries m).Perm m.entries := by
  have hnd : (r.sigmaEntries m).Nodup := by
    refine (nodup_map_fst_entries (r := r) (m := some m)).of_map _ |>.map ?_
    rintro ⟨k, v⟩ ⟨k', v'⟩ h
    cases h
    rfl
  exact (List.perm_ext_iff_of_nodup hnd m.nodupKeys.nodup).mpr fun _ => mem_sigmaEntries

section Copy

end Copy

end RangeOrder

end Go
