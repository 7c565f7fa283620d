import FleetNetworking.Lib.GoHttp

/-!
# The custom-headers round tripper

`customHeadersRoundTripper.RoundTrip` adds the headers of `HUB_KUBE_HEADER` to every request
to the hub's API server.  It ranges over its header map; for each key it returns an error if
the request has a value for the key already, and otherwise adds the key's values, one `Add`
at a time, to the request's header, which it changes in place.  When the loop has run to the
end the request goes on to the delegated round tripper.

`RoundTrip_forwarded`: a forwarded request had no value for any custom key, and carries its
own values followed by those of the custom header.  `RoundTrip_overrideError`: an error comes
after the keys visited before the conflicting one have been added, and the request keeps their
values: the loop is not atomic.
-/

namespace FleetNet.HttpClient

open Go Go.Http

/-- `customHeadersRoundTripper`: the custom header; the delegated round tripper is where
`RoundTrip` forwards the request. -/
structure customHeadersRoundTripper where
  header : Header

/-- An `http.Request`, of which `RoundTrip` reads and writes the header only. -/
structure Request where
  header : Header

/-- How `RoundTrip` returns. -/
inductive RoundTripOutcome
  /-- `return c.delegatedRoundTripper.RoundTrip(req)` -/
  | forwarded
  /-- `fmt.Errorf("custom header %q can't override other header", key)` -/
  | overrideError (key : String)
  deriving DecidableEq

variable {ε : Type}

/-- `for _, v := range values { req.Header.Add(key, v) }`. -/
def addValues (key : String) (values : List String) (h : Header) : Result ε Header :=
  values.foldlM (fun h v => h.Add key v) h

/-- The loop over the custom header, visited in the order given: the header it leaves, and the
key it stopped at. -/
def addCustomHeaders : List (String × List String) → Header → Result ε (Header × Option String)
  | [], h => pure (h, none)
  | (key, values) :: rest, h =>
    if h.Get key ≠ "" then pure (h, some key)
    else do
      let h ← addValues key values h
      addCustomHeaders rest h

/-- `customHeadersRoundTripper.RoundTrip`, for `range` the order of `range c.header`. -/
def RoundTrip (c : customHeadersRoundTripper) (range : RangeOrder String (List String))
    (req : Request) : Result ε (Request × RoundTripOutcome) := do
  let (h, stop) ← addCustomHeaders (range.entries c.header) req.header
  let req := { req with header := h }
  match stop with
  | some key => pure (req, .overrideError key)
  | none => pure (req, .forwarded)

/-- The values the entries add to a key of the header: those of every entry whose key
canonicalizes to it, in order. -/
def appendedValues (es : List (String × List String)) (k : String) : List String :=
  es.flatMap fun e => if CanonicalMIMEHeaderKey e.1 = k then e.2 else []

@[simp] lemma appendedValues_nil (k : String) : appendedValues [] k = [] := rfl

@[simp] lemma appendedValues_append (es es' : List (String × List String)) (k : String) :
    appendedValues (es ++ es') k = appendedValues es k ++ appendedValues es' k :=
  List.flatMap_append

@[simp] lemma appendedValues_singleton (key : String) (values : List String) (k : String) :
    appendedValues [(key, values)] k = if CanonicalMIMEHeaderKey key = k then values else [] := by
  simp [appendedValues]

/-! ## The loops -/

section Loops

variable {key : String} {values : List String} {h h' : Header}

/-- The inner loop appends the key's values to its canonical key. -/
lemma values_addValues (hrun : addValues key values h = (.ok h' : Result ε Header)) (k : String) :
    h'.values k = h.values k ++ if CanonicalMIMEHeaderKey key = k then values else [] := by
  let I : List String → Header → Prop := fun pre s =>
    s.values k = h.values k ++ if CanonicalMIMEHeaderKey key = k then pre else []
  refine Result.foldlM_inv I (by simp [I]) ?_ hrun
  intro pre v suf s s' _ hI hadd
  simp only [I, Header.values_of_Add hadd, hI]
  split_ifs <;> simp

/-- **What the loop does.**  It runs over a prefix `pre` of the entries, each of whose keys read
`""` in the header it started from, and stops at the entry after them, if any, whose key reads a
value in the header it leaves; that header holds the values of `pre` after its own. -/
lemma addCustomHeaders_eq_ok :
    ∀ (es : List (String × List String)) (h h' : Header) (stop : Option String),
      addCustomHeaders es h = (.ok (h', stop) : Result ε _) →
      ∃ pre post, es = pre ++ post ∧ post.head?.map Prod.fst = stop ∧
        (∀ e ∈ pre, h.Get e.1 = "") ∧ (∀ key, stop = some key → h'.Get key ≠ "") ∧
        ∀ k, h'.values k = h.values k ++ appendedValues pre k
  | [], h, h', stop, hrun => by
    simp only [addCustomHeaders, Result.pure_eq, Result.ok.injEq, Prod.mk.injEq] at hrun
    obtain ⟨rfl, rfl⟩ := hrun
    exact ⟨[], [], rfl, rfl, by simp, by simp, by simp⟩
  | (key, values) :: rest, h, h', stop, hrun => by
    simp only [addCustomHeaders] at hrun
    split_ifs at hrun with hget
    · -- the key has a value already: the loop stops here
      simp only [Result.pure_eq, Result.ok.injEq, Prod.mk.injEq] at hrun
      obtain ⟨rfl, rfl⟩ := hrun
      exact ⟨[], _, rfl, rfl, by simp, fun _ hk => Option.some_inj.mp hk ▸ hget, by simp⟩
    · obtain ⟨h₁, hadd, hrest⟩ := Result.bind_eq_ok.mp hrun
      obtain ⟨pre, post, rfl, hstop, hpre, hconf, hv⟩ :=
        addCustomHeaders_eq_ok rest h₁ h' stop hrest
      have hv₁ := values_addValues hadd
      refine ⟨(key, values) :: pre, post, rfl, hstop, ?_, hconf, fun k => ?_⟩
      · -- a key read `""` when visited, so it did in `h`, whose values come first
        rintro e (he | ⟨_, he⟩)
        · exact not_not.mp hget
        · exact Header.Get_eq_empty_of_values_append hv₁ (hpre e he)
      · rw [hv k, hv₁ k, List.append_assoc, ← appendedValues_singleton,
          ← appendedValues_append, List.singleton_append]

end Loops

/-! ## RoundTrip -/

section RoundTrip

variable {c : customHeadersRoundTripper} {range : RangeOrder String (List String)}
  {req req' : Request}

/-- `RoundTrip` returns as the loop does, with the request's header the loop's. -/
lemma RoundTrip_eq_ok {o : RoundTripOutcome}
    (hrt : RoundTrip c range req = (.ok (req', o) : Result ε _)) :
    ∃ stop, addCustomHeaders (range.entries c.header) req.header = (.ok (req'.header, stop) : Result ε _) ∧
      o = match stop with
        | some key => .overrideError key
        | none => .forwarded := by
  obtain ⟨⟨h, stop⟩, hloop, hrest⟩ := Result.bind_eq_ok.mp hrt
  refine ⟨stop, ?_, ?_⟩ <;> cases stop <;>
    simp only [Result.pure_eq, Result.ok.injEq, Prod.mk.injEq] at hrest <;>
    obtain ⟨rfl, rfl⟩ := hrest
  all_goals first | exact hloop | rfl

/-- The custom header of the run: `A: 1` and `B: 2`. -/
def roundTripRunHeader : customHeadersRoundTripper :=
  ⟨some (((∅ : AList fun _ : String => List String).insert "B" ["2"]).insert "A" ["1"])⟩

/-- A request that has `B: x` already. -/
def roundTripRunRequest : Request :=
  ⟨some ((∅ : AList fun _ : String => List String).insert "B" ["x"])⟩

/-- **A forwarded request.**  When `RoundTrip` forwards the request, no key of the custom header
had a value in it, and every key of its header holds its own values followed by those of the
custom keys that canonicalize to it, in the order of the range. -/
theorem RoundTrip_forwarded (hrt : RoundTrip c range req = (.ok (req', .forwarded) : Result ε _)) :
    (∀ key ∈ c.header.keys, req.header.Get key = "") ∧
      ∀ k, req'.header.values k = req.header.values k ++ appendedValues (range.entries c.header) k := by
  obtain ⟨stop, hloop, ho⟩ := RoundTrip_eq_ok hrt
  obtain ⟨pre, post, hes, hstop, hpre, -, hv⟩ := addCustomHeaders_eq_ok _ _ _ _ hloop
  -- the loop ran to the end
  have hpost : post = [] := by
    cases stop with
    | some key => cases ho
    | none => simpa using hstop
  subst hpost
  rw [List.append_nil] at hes
  refine ⟨fun key hkey => ?_, by rw [hes]; exact hv⟩
  obtain ⟨vs, hvs⟩ := Option.isSome_iff_exists.mp (Map.lookup_isSome.mpr hkey)
  exact hpre (key, vs) (hes ▸ RangeOrder.mem_entries.mpr hvs)

/-- A request with an empty header is forwarded with `A: 1` and `B: 2`. -/
theorem RoundTrip_forwarded_run :
    let req' : Request :=
      ⟨some (((∅ : AList fun _ : String => List String).insert "A" ["1"]).insert "B" ["2"])⟩
    RoundTrip roundTripRunHeader .byKeys ⟨some ∅⟩ = (.ok (req', .forwarded) : Result Unit _) ∧
      req'.header.values "A" = ["1"] ∧ req'.header.values "B" = ["2"] := by
  intro req'
  have hrt : RoundTrip roundTripRunHeader .byKeys ⟨some ∅⟩ =
      (.ok (req', .forwarded) : Result Unit _) := rfl
  have hv := (RoundTrip_forwarded hrt).2
  exact ⟨hrt, by rw [hv]; decide, by rw [hv]; decide⟩

/-- **An error is not atomic.**  When `RoundTrip` returns the override error for `key`, the loop
stopped at `key`, which reads a value in the request; and the request's header keeps, after its
own values, those of every key the range visited before `key`. -/
theorem RoundTrip_overrideError {key : String}
    (hrt : RoundTrip c range req = (.ok (req', .overrideError key) : Result ε _)) :
    ∃ pre post, range.entries c.header = pre ++ post ∧ post.head?.map Prod.fst = some key ∧
      req'.header.Get key ≠ "" ∧
      ∀ k, req'.header.values k = req.header.values k ++ appendedValues pre k := by
  obtain ⟨stop, hloop, ho⟩ := RoundTrip_eq_ok hrt
  obtain ⟨pre, post, hes, hstop, -, hconf, hv⟩ := addCustomHeaders_eq_ok _ _ _ _ hloop
  -- the loop stopped at `key`
  have hkey : stop = some key := by
    cases stop with
    | some key' => cases ho; rfl
    | none => cases ho
  subst hkey
  exact ⟨pre, post, hes, hstop, hconf key rfl, hv⟩

/-- Visiting `A` before `B`, `RoundTrip` returns the override error for `B` with `A: 1` added to
the request, which had no `A`. -/
theorem RoundTrip_overrideError_run :
    ∃ req', RoundTrip roundTripRunHeader .byKeys roundTripRunRequest =
        (.ok (req', .overrideError "B") : Result Unit _) ∧
      req'.header.Get "B" ≠ "" ∧ req'.header.values "A" = ["1"] ∧
      roundTripRunRequest.header.values "A" = [] := by
  have hrt : RoundTrip roundTripRunHeader .byKeys roundTripRunRequest =
      (.ok (⟨some (((∅ : AList fun _ : String => List String).insert "B" ["x"]).insert "A" ["1"])⟩,
        .overrideError "B") : Result Unit _) := rfl
  obtain ⟨-, -, -, -, hget, -⟩ := RoundTrip_overrideError hrt
  exact ⟨_, hrt, hget, by decide, by decide⟩

end RoundTrip

end FleetNet.HttpClient
