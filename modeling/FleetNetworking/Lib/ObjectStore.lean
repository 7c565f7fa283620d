import Mathlib

/-!
# Objects under optimistic concurrency

An API server in the style of Kubernetes keeps each object with the resource version of its
last write.  A client reads an object, computes, and writes it back; the write is refused
unless the version it read is still the stored one.  Every write takes a fresh version from one
clock, so a version is never given out twice: a copy whose version is still the stored one is
still the stored object (`Snapshot.eq_of_update`).  That is what makes a read-compute-write
sequence atomic for the object it writes.

`VStore` is such a store of objects by key, `Snapshot` is what a client may assume of a copy
it read, and `IsListing` is a `List` call: every object once, in an order the client does not
choose.  `Reachable` is the set of states a system reaches by its steps, with the invariant
rule `Reachable.invariant`.
-/

namespace ObjectStore

/-- An object as stored, with the resource version of its last write. -/
structure Versioned (α : Type) where
  rv : ℕ
  val : α
  deriving DecidableEq, Repr

/-- Objects by key, and the clock that gives out resource versions. -/
structure VStore (κ α : Type) where
  objs : κ → Option (Versioned α)
  clock : ℕ

namespace VStore

variable {κ α : Type} [DecidableEq κ]

/-- The store with no object. -/
def empty : VStore κ α := ⟨fun _ => none, 0⟩

/-- `Get`. -/
def get (s : VStore κ α) (k : κ) : Option (Versioned α) := s.objs k

/-- A write of `a` under key `k`, at the next version. -/
def put (s : VStore κ α) (k : κ) (a : α) : VStore κ α :=
  ⟨Function.update s.objs k (some ⟨s.clock + 1, a⟩), s.clock + 1⟩

/-- The removal of the object of key `k`. -/
def erase (s : VStore κ α) (k : κ) : VStore κ α :=
  ⟨Function.update s.objs k none, s.clock + 1⟩

/-- `Update`: the write goes through only if the object is there at the version read. -/
def update? (s : VStore κ α) (k : κ) (rv : ℕ) (a : α) : Option (VStore κ α) :=
  match s.get k with
  | some v => if v.rv = rv then some (s.put k a) else none
  | none => none

/-- `Create`: the write goes through only if there is no object of that key. -/
def create? (s : VStore κ α) (k : κ) (a : α) : Option (VStore κ α) :=
  match s.get k with
  | some _ => none
  | none => some (s.put k a)

/-- Every stored version has been given out by the clock. -/
def WF (s : VStore κ α) : Prop := ∀ k v, s.get k = some v → v.rv ≤ s.clock

/-- What a client may assume of a copy `v` it read under key `k`: its version has been given
out, and an object stored at that version is the copy. -/
def Snapshot (s : VStore κ α) (k : κ) (v : Versioned α) : Prop :=
  v.rv ≤ s.clock ∧ ∀ w, s.get k = some w → w.rv = v.rv → w = v

/-- A `List` answer: each stored object once, with its key, in some order. -/
def IsListing (s : VStore κ α) (l : List (κ × Versioned α)) : Prop :=
  (l.map Prod.fst).Nodup ∧ ∀ k v, (k, v) ∈ l ↔ s.get k = some v

variable {s : VStore κ α} {k k' : κ} {a : α} {v w : Versioned α} {rv : ℕ} {s' : VStore κ α}

omit [DecidableEq κ] in
@[simp] lemma get_empty : (empty : VStore κ α).get k = none := rfl

@[simp] lemma get_put_self : (s.put k a).get k = some ⟨s.clock + 1, a⟩ := by
  simp [put, get]

@[simp] lemma get_put_ne (h : k' ≠ k) : (s.put k a).get k' = s.get k' := by
  simp [put, get, h]

@[simp] lemma get_erase_self : (s.erase k).get k = none := by
  simp [erase, get]

@[simp] lemma get_erase_ne (h : k' ≠ k) : (s.erase k).get k' = s.get k' := by
  simp [erase, get, h]

@[simp] lemma clock_put : (s.put k a).clock = s.clock + 1 := rfl

lemma get_put (k' : κ) : (s.put k a).get k' = if k' = k then some ⟨s.clock + 1, a⟩ else s.get k' := by
  split_ifs with h
  · subst h
    exact get_put_self
  · exact get_put_ne h

lemma update?_eq_some :
    s.update? k rv a = some s' ↔ (∃ v, s.get k = some v ∧ v.rv = rv) ∧ s' = s.put k a := by
  unfold update?
  cases hk : s.get k with
  | none => simp
  | some v =>
    by_cases hv : v.rv = rv
    · simp [hv, eq_comm]
    · simp [hv]

lemma create?_eq_some : s.create? k a = some s' ↔ s.get k = none ∧ s' = s.put k a := by
  unfold create?
  cases s.get k <;> simp [eq_comm]

/-! ## Versions -/

omit [DecidableEq κ] in
lemma WF.empty : (empty : VStore κ α).WF := by
  intro k v h
  simp at h

lemma WF.put (h : s.WF) : (s.put k a).WF := by
  intro k' v hv
  rw [get_put] at hv
  split_ifs at hv
  · cases hv
    simp
  · exact (h k' v hv).trans (Nat.le_succ _)

lemma WF.erase (h : s.WF) : (s.erase k).WF := by
  intro k' v hv
  by_cases hk : k' = k
  · subst hk
    simp at hv
  · rw [get_erase_ne hk] at hv
    exact (h k' v hv).trans (Nat.le_succ _)

omit [DecidableEq κ] in
/-- A stored object is a snapshot of itself. -/
lemma Snapshot.of_get (hs : s.WF) (h : s.get k = some v) : s.Snapshot k v :=
  ⟨hs k v h, fun w hw _ => by rw [h] at hw; exact (Option.some.inj hw).symm⟩

/-- What a write leaves is a snapshot of the store after it. -/
lemma Snapshot.of_put (hs : s.WF) : (s.put k a).Snapshot k ⟨s.clock + 1, a⟩ :=
  Snapshot.of_get hs.put get_put_self

lemma Snapshot.of_update (hs : s.WF) (hu : s.update? k rv a = some s') :
    s'.Snapshot k ⟨s.clock + 1, a⟩ := by
  rw [(update?_eq_some.mp hu).2]
  exact Snapshot.of_put hs

/-- A write anywhere leaves a copy a snapshot: the key written gets a version above it. -/
lemma Snapshot.put (h : s.Snapshot k v) (k' : κ) (a : α) : (s.put k' a).Snapshot k v := by
  refine ⟨h.1.trans (Nat.le_succ _), fun w hw hrv => ?_⟩
  rw [get_put] at hw
  split_ifs at hw
  · cases hw
    simp only at hrv
    have := h.1
    omega
  · exact h.2 w hw hrv

lemma Snapshot.erase (h : s.Snapshot k v) (k' : κ) : (s.erase k').Snapshot k v := by
  refine ⟨h.1.trans (Nat.le_succ _), fun w hw hrv => ?_⟩
  by_cases hk : k = k'
  · subst hk
    simp at hw
  · rw [get_erase_ne hk] at hw
    exact h.2 w hw hrv

/-- **Optimistic concurrency.**  An update made from a snapshot goes through only while the
snapshot is the stored object. -/
lemma Snapshot.eq_of_update (h : s.Snapshot k v) (hu : s.update? k v.rv a = some s') :
    s.get k = some v := by
  obtain ⟨⟨w, hw, hrv⟩, -⟩ := update?_eq_some.mp hu
  rw [hw, h.2 w hw hrv]

/-- After a write of key `k`, no copy read before it is the stored object. -/
lemma Snapshot.rv_ne_put (h : s.Snapshot k v) {w : Versioned α} (hw : (s.put k a).get k = some w) :
    w.rv ≠ v.rv := by
  rw [get_put_self, Option.some.injEq] at hw
  subst hw
  have := h.1
  simp only
  omega

/-! ## Finalizers -/

/-- `Update` under finalizers: when the object written is being deleted and has no finalizer
left (`released`), the API server then removes it. -/
def updateReleasing? (s : VStore κ α) (released : α → Bool) (k : κ) (rv : ℕ) (a : α) :
    Option (VStore κ α) :=
  (s.update? k rv a).map fun s => if released a then s.erase k else s

section Releasing

variable {released : α → Bool}

lemma updateReleasing?_eq_some :
    s.updateReleasing? released k rv a = some s' ↔ (∃ v, s.get k = some v ∧ v.rv = rv) ∧
      s' = if released a then (s.put k a).erase k else s.put k a := by
  simp only [updateReleasing?, Option.map_eq_some_iff, update?_eq_some]
  constructor
  · rintro ⟨_, ⟨hv, rfl⟩, rfl⟩
    exact ⟨hv, rfl⟩
  · rintro ⟨hv, rfl⟩
    exact ⟨_, ⟨hv, rfl⟩, rfl⟩

lemma Snapshot.eq_of_updateReleasing? (h : s.Snapshot k v)
    (hu : s.updateReleasing? released k v.rv a = some s') : s.get k = some v := by
  obtain ⟨⟨w, hw, hrv⟩, -⟩ := updateReleasing?_eq_some.mp hu
  rw [hw, h.2 w hw hrv]

/-- What an update under finalizers leaves is a snapshot of the store after it. -/
lemma Snapshot.of_updateReleasing? (hs : s.WF) (hu : s.updateReleasing? released k rv a = some s') :
    s'.Snapshot k ⟨s.clock + 1, a⟩ := by
  obtain ⟨-, rfl⟩ := updateReleasing?_eq_some.mp hu
  split_ifs
  · exact (Snapshot.of_put hs).erase k
  · exact Snapshot.of_put hs

end Releasing

/-! ## Objects with a property -/

/-- The object of key `k` is there, and its value has the property `p`. -/
def Holds (s : VStore κ α) (p : α → Prop) (k : κ) : Prop := ∃ v, s.get k = some v ∧ p v.val

section Holds

variable {p : α → Prop}

omit [DecidableEq κ] in
lemma Holds.of_get (h : s.Holds p k) (hv : s.get k = some v) : p v.val := by
  obtain ⟨w, hw, hp⟩ := h
  rw [hv, Option.some.injEq] at hw
  rwa [hw]

lemma Holds.put_self (hp : p a) : (s.put k a).Holds p k := ⟨_, get_put_self, hp⟩

/-- A write keeps the property of every key, given it of the value written to its own. -/
lemma Holds.put (h : s.Holds p k') (hk : k' = k → p a) : (s.put k a).Holds p k' := by
  by_cases hkk : k' = k
  · subst hkk
    exact Holds.put_self (hk rfl)
  · obtain ⟨v, hv, hp⟩ := h
    exact ⟨v, by rw [get_put_ne hkk, hv], hp⟩

lemma Holds.erase (h : s.Holds p k') (hk : k' ≠ k) : (s.erase k).Holds p k' := by
  obtain ⟨v, hv, hp⟩ := h
  exact ⟨v, by rw [get_erase_ne hk, hv], hp⟩

end Holds

/-! ## Listings -/

omit [DecidableEq κ] in
/-- The objects of the keys `keys`, in that order. -/
def listOver (s : VStore κ α) (keys : List κ) : List (κ × Versioned α) :=
  keys.filterMap fun k => (s.get k).map (k, ·)

omit [DecidableEq κ] in
/-- Going through every key that has an object, once each, is a `List` answer. -/
lemma isListing_listOver {keys : List κ} (hnd : keys.Nodup) (hall : ∀ k, s.get k ≠ none → k ∈ keys) :
    s.IsListing (s.listOver keys) := by
  refine ⟨?_, fun k v => ?_⟩
  · rw [listOver, List.map_filterMap]
    refine hnd.filterMap fun a a' b ha ha' => ?_
    simp only [Option.map_map, Option.mem_def, Option.map_eq_some_iff] at ha ha'
    obtain ⟨_, -, rfl⟩ := ha
    obtain ⟨_, -, h⟩ := ha'
    exact h.symm
  · simp only [listOver, List.mem_filterMap, Option.map_eq_some_iff, Prod.mk.injEq]
    constructor
    · rintro ⟨k', -, v', hv', rfl, rfl⟩
      exact hv'
    · intro hv
      exact ⟨k, hall k (by rw [hv]; exact Option.some_ne_none v), v, hv, rfl, rfl⟩

end VStore

/-! ## Reachable states -/

/-- The states a system reaches from its initial states by its steps. -/
inductive Reachable {σ : Type} (init : σ → Prop) (step : σ → σ → Prop) : σ → Prop
  | init {s : σ} : init s → Reachable init step s
  | step {s s' : σ} : Reachable init step s → step s s' → Reachable init step s'

/-- **Invariant rule.**  What holds initially and is kept by every step holds in every
reachable state. -/
theorem Reachable.invariant {σ : Type} {init : σ → Prop} {step : σ → σ → Prop} {I : σ → Prop}
    (h₀ : ∀ s, init s → I s) (hstep : ∀ s s', I s → step s s' → I s') {s : σ}
    (h : Reachable init step s) : I s := by
  induction h with
  | init hs => exact h₀ _ hs
  | step _ hst ih => exact hstep _ _ ih hst

end ObjectStore
