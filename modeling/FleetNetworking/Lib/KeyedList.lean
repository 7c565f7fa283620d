import Mathlib

/-!
# Stores keyed by a partial key

A store of records kept as a list in insertion order, in which a record may carry a key and no
two records share one: the endpoints of a cloud resource, keyed by their normalised name, say.
`eraseKey` deletes the record of a key and `upsertKey` replaces it, or appends the new record
when there is none; `upsertAll` does a list of upserts in order.

The lemmas are what the proofs about such a store need: how an upsert changes membership and
keeps keys unique, and frame lemmas saying that records of other keys, selected by any filter
that looks only at them, stay exactly as they were and in the same order.  A deletion is a
filter, and proofs reason about it as one.
-/

namespace KeyedList

variable {α κ : Type} [DecidableEq κ] (key : α → Option κ)

/-- Delete the records of key `k`. -/
def eraseKey (k : κ) (l : List α) : List α := l.filter (fun a => key a != some k)

/-- Put `a` in place of the record of key `k`, or append it if there is none. -/
def upsertKey (k : κ) (a : α) (l : List α) : List α :=
  if l.any (fun b => key b == some k) then l.map (fun b => if key b = some k then a else b)
  else l ++ [a]

/-- Upsert each pair, in order. -/
def upsertAll (ps : List (κ × α)) (l : List α) : List α :=
  ps.foldl (fun st p => upsertKey key p.1 p.2 st) l

/-- No two records share a key. -/
def KeysNodup (l : List α) : Prop := (l.filterMap key).Nodup

instance (l : List α) : Decidable (KeysNodup key l) :=
  inferInstanceAs (Decidable (l.filterMap key).Nodup)

variable {key} {k : κ} {a b : α} {l : List α}

/-! ## Membership -/

lemma mem_upsertKey (h : b ∈ upsertKey key k a l) : b = a ∨ (b ∈ l ∧ key b ≠ some k) := by
  unfold upsertKey at h
  split_ifs at h
  · obtain ⟨c, hc, rfl⟩ := List.mem_map.mp h
    by_cases hck : key c = some k
    · simp [hck]
    · simp [hck, hc]
  · rcases List.mem_append.mp h with hb | hb
    · -- nothing in the list had key k
      refine Or.inr ⟨hb, fun hbk => ?_⟩
      simp_all
    · simp_all

lemma self_mem_upsertKey (hl : ∃ c ∈ l, key c = some k) : a ∈ upsertKey key k a l := by
  obtain ⟨c, hc, hck⟩ := hl
  have hany : l.any (fun b => key b == some k) = true := List.any_eq_true.mpr ⟨c, hc, by simp [hck]⟩
  simp only [upsertKey, hany, if_true, List.mem_map]
  exact ⟨c, hc, by simp [hck]⟩

lemma self_mem_upsertKey' : a ∈ upsertKey key k a l := by
  by_cases hl : ∃ c ∈ l, key c = some k
  · exact self_mem_upsertKey hl
  · have hany : l.any (fun b => key b == some k) = false := by simpa using hl
    simp [upsertKey, hany]

/-- Records of other keys survive an upsert. -/
lemma mem_upsertKey_of_ne (hb : b ∈ l) (hbk : key b ≠ some k) : b ∈ upsertKey key k a l := by
  unfold upsertKey
  split_ifs
  · exact List.mem_map.mpr ⟨b, hb, by simp [hbk]⟩
  · exact List.mem_append_left _ hb

/-! ## Unique keys -/

omit [DecidableEq κ] in
/-- Two records of one key in a store with unique keys are the same record. -/
lemma KeysNodup.eq_of_key (h : KeysNodup key l) (ha : a ∈ l) (hb : b ∈ l) (hak : key a = some k)
    (hbk : key b = some k) : a = b := by
  by_contra hab
  have hpair := List.pairwise_filterMap.mp h
  have : Std.Symm (fun (a a' : α) => ∀ c, key a = some c → ∀ c', key a' = some c' → c ≠ c') :=
    ⟨fun _ _ hxy c hc c' hc' hcc => hxy c' hc' c hc hcc.symm⟩
  exact hpair.forall ha hb hab k hak k hbk rfl

omit [DecidableEq κ] in
lemma KeysNodup.sublist {l' : List α} (h : KeysNodup key l) (hl : List.Sublist l' l) : KeysNodup key l' :=
  List.Nodup.sublist (hl.filterMap _) h

omit [DecidableEq κ] in
/-- A record's key is no earlier record's key. -/
lemma KeysNodup.key_ne_of_mem_prefix {pre suf : List α} (h : KeysNodup key (pre ++ a :: suf))
    (hak : key a = some k) (hb : b ∈ pre) : key b ≠ some k := by
  intro hbk
  have h' : (pre.filterMap key ++ (a :: suf).filterMap key).Nodup := by
    rw [← List.filterMap_append]
    exact h
  exact (List.nodup_append.mp h').2.2 k (List.mem_filterMap.mpr ⟨b, hb, hbk⟩)
    k (List.mem_filterMap.mpr ⟨a, List.mem_cons_self, hak⟩) rfl

omit [DecidableEq κ] in
/-- What a `filterMap` keeps of a store with unique keys, under the keys of the records it came
from, has no duplicates. -/
lemma KeysNodup.nodup_filterMap {β : Type} {f : α → Option β} (key' : β → κ)
    (hf : ∀ a c, f a = some c → key a = some (key' c)) (h : KeysNodup key l) :
    ((l.filterMap f).map key').Nodup := by
  induction l with
  | nil => simp
  | cons a l ih =>
    have hl : KeysNodup key l := h.sublist (List.sublist_cons_self a l)
    cases hfa : f a with
    | none => simpa [List.filterMap_cons, hfa] using ih hl
    | some c =>
      simp only [List.filterMap_cons, hfa, List.map_cons, List.nodup_cons]
      refine ⟨fun hmem => ?_, ih hl⟩
      -- a later record with the same key would repeat the key of `a`
      obtain ⟨c', hc', hcc⟩ := List.mem_map.mp hmem
      obtain ⟨b, hb, hbc⟩ := List.mem_filterMap.mp hc'
      have hbk : key b = some (key' c) := hcc ▸ hf b c' hbc
      have hnd : key' c ∉ l.filterMap key := by
        have h' : (key' c :: l.filterMap key).Nodup := by
          simpa only [KeysNodup, List.filterMap_cons, hf a c hfa] using h
        exact (List.nodup_cons.mp h').1
      exact hnd (List.mem_filterMap.mpr ⟨b, hb, hbk⟩)

lemma KeysNodup.upsertKey (hak : key a = some k) (h : KeysNodup key l) :
    KeysNodup key (upsertKey key k a l) := by
  unfold KeyedList.upsertKey
  split_ifs with hany
  · -- replacing a record by one of the same key leaves the key list as it was
    have hkeys : (l.map fun b => if key b = some k then a else b).filterMap key = l.filterMap key := by
      rw [List.filterMap_map]
      congr 1
      funext b
      by_cases hbk : key b = some k <;> simp [hbk, hak]
    unfold KeysNodup
    rw [hkeys]
    exact h
  · have hk : k ∉ l.filterMap key := by
      simp only [List.mem_filterMap, not_exists, not_and]
      intro b hb hbk
      simp_all
    unfold KeysNodup
    rw [List.filterMap_append, List.nodup_append_comm]
    simpa [hak] using List.nodup_cons.mpr ⟨hk, h⟩

/-! ## Frames -/

lemma filter_map_replace {p : α → Bool} (hp : ∀ b, key b = some k → p b = false)
    (ha : p a = false) : (l.map fun b => if key b = some k then a else b).filter p = l.filter p := by
  induction l with
  | nil => rfl
  | cons c l ih =>
    by_cases hck : key c = some k
    · simp [hck, hp c hck, ha, ih]
    · simp [List.filter_cons, hck, ih]

/-- A filter that rejects the new record and every record of its key does not see the upsert. -/
lemma filter_upsertKey {p : α → Bool} (hp : ∀ b, key b = some k → p b = false) (ha : p a = false) :
    (upsertKey key k a l).filter p = l.filter p := by
  unfold upsertKey
  split_ifs
  · exact filter_map_replace hp ha
  · simp [List.filter_append, ha]

/-! ## A run of upserts -/

@[simp] lemma upsertAll_nil : upsertAll key [] l = l := rfl

@[simp] lemma upsertAll_cons (p : κ × α) (ps : List (κ × α)) :
    upsertAll key (p :: ps) l = upsertAll key ps (upsertKey key p.1 p.2 l) := rfl

lemma filter_upsertAll {p : α → Bool} {ps : List (κ × α)}
    (hp : ∀ q ∈ ps, p q.2 = false ∧ ∀ b, key b = some q.1 → p b = false) :
    (upsertAll key ps l).filter p = l.filter p := by
  induction ps generalizing l with
  | nil => rfl
  | cons q ps ih =>
    rw [upsertAll_cons, ih fun q' hq' => hp q' (List.mem_cons_of_mem _ hq')]
    obtain ⟨hq, hkey⟩ := hp q List.mem_cons_self
    exact filter_upsertKey hkey hq

lemma KeysNodup.upsertAll {ps : List (κ × α)} (hps : ∀ q ∈ ps, key q.2 = some q.1)
    (h : KeysNodup key l) : KeysNodup key (upsertAll key ps l) := by
  induction ps generalizing l with
  | nil => exact h
  | cons q ps ih =>
    exact ih (fun q' hq' => hps q' (List.mem_cons_of_mem _ hq'))
      (h.upsertKey (hps q List.mem_cons_self))

/-- After a run of upserts a record is one of the new ones or an old one of another key. -/
lemma mem_upsertAll {ps : List (κ × α)} (h : b ∈ upsertAll key ps l) :
    (∃ q ∈ ps, b = q.2) ∨ (b ∈ l ∧ ∀ q ∈ ps, key b ≠ some q.1) := by
  induction ps generalizing l with
  | nil => exact Or.inr ⟨h, by simp⟩
  | cons q ps ih =>
    rcases ih h with ⟨q', hq', rfl⟩ | ⟨hb, hne⟩
    · exact Or.inl ⟨q', List.mem_cons_of_mem _ hq', rfl⟩
    · rcases mem_upsertKey hb with rfl | ⟨hb, hbq⟩
      · exact Or.inl ⟨q, List.mem_cons_self, rfl⟩
      · refine Or.inr ⟨hb, ?_⟩
        intro q' hq'
        rcases List.mem_cons.mp hq' with rfl | hq'
        exacts [hbq, hne q' hq']

lemma upsertAll_append (ps qs : List (κ × α)) :
    upsertAll key (ps ++ qs) l = upsertAll key qs (upsertAll key ps l) :=
  List.foldl_append

/-- Records of keys that no upsert touches survive a run of upserts. -/
lemma mem_upsertAll_of_ne {ps : List (κ × α)} (hb : b ∈ l) (hne : ∀ q ∈ ps, key b ≠ some q.1) :
    b ∈ upsertAll key ps l := by
  induction ps generalizing l with
  | nil => exact hb
  | cons q ps ih =>
    exact ih (mem_upsertKey_of_ne hb (hne q List.mem_cons_self))
      (fun q' hq' => hne q' (List.mem_cons_of_mem _ hq'))

/-- Each new record of a run of upserts with distinct keys is in the result. -/
lemma mem_upsertAll_of_mem {ps : List (κ × α)} {q : κ × α} (hnd : (ps.map Prod.fst).Nodup)
    (hps : ∀ q ∈ ps, key q.2 = some q.1) (hq : q ∈ ps) : q.2 ∈ upsertAll key ps l := by
  induction ps generalizing l with
  | nil => simp at hq
  | cons q' ps ih =>
    rw [List.map_cons, List.nodup_cons] at hnd
    rw [upsertAll_cons]
    rcases List.mem_cons.mp hq with hqq | hq
    · subst hqq
      -- the later upserts are of other keys and leave the new record in place
      refine mem_upsertAll_of_ne self_mem_upsertKey' fun r hr hqr => hnd.1 ?_
      rw [hps q List.mem_cons_self, Option.some.injEq] at hqr
      exact List.mem_map.mpr ⟨r, hr, hqr.symm⟩
    · exact ih hnd.2 (fun r hr => hps r (List.mem_cons_of_mem _ hr)) hq

/-! ## Association lists

The entries of an association list, as Mathlib keeps them, have unique keys; erasing a key is
then a filter on them. -/

lemma lookup_eq_some_iff {β : κ → Type} {s : AList β} {b : β k} :
    s.lookup k = some b ↔ Sigma.mk k b ∈ s.entries :=
  AList.mem_lookup_iff

lemma kerase_eq_filter {β : κ → Type} {l : List (Sigma β)} (hl : l.NodupKeys) :
    l.kerase k = l.filter fun e => e.1 != k := by
  induction l with
  | nil => rfl
  | cons e l ih =>
    obtain ⟨hk, hl'⟩ := List.nodupKeys_cons.mp hl
    by_cases hek : k = e.1
    · subst hek
      rw [List.kerase_cons_eq rfl, List.filter_cons_of_neg (by simp), eq_comm,
        List.filter_eq_self]
      -- no later entry has the key of the erased one
      intro e' he'
      have hne : e'.1 ≠ e.1 := fun h => hk (h ▸ List.mem_keys_of_mem he')
      simpa using hne
    · rw [List.kerase_cons_ne hek, List.filter_cons_of_pos (by simpa using Ne.symm hek), ih hl']

end KeyedList
