import FleetNetworking.Lib.Json

/-!
# The ServiceInUseBy annotation, decoded

The InternalServiceImport controller reads which member clusters import a Service from the
`service-in-use-by` annotation of its ServiceImport.  `extractServiceInUseByInfoFromServiceImport`
returns a fresh, empty `MemberClusters` map when the annotation is absent or `json.Unmarshal`
fails on it, and otherwise what `json.Unmarshal` decodes into a zero `ServiceInUseBy`.

That decoding leaves the map nil for the texts `null` and `{}`, and for every object whose last
`MemberClusters` member, up to case, is `null` (`Unmarshal_memberClusters_eq_none_iff`).  The claim
path of `Reconcile` takes a nil map for no claim and assigns to it: with such an annotation it
panics as soon as the finalizer is added (`reconcileClaim_eq_panic_iff`).
-/

namespace FleetNet.Hub.InUseBy

open Go

/-- `ServiceInUseBy`: the cluster ID of each member cluster, by its cluster namespace, that
imports the Service. -/
structure ServiceInUseBy where
  memberClusters : Go.Map String String

/-- The member of a JSON object that decodes into `MemberClusters` last: the last whose key is
the field's name up to case folding. -/
def lastMemberClusters : List (String × Json.Value) → Option Json.Value
  | [] => none
  | kv :: ms =>
    (lastMemberClusters ms).or (if Json.fieldMatches kv.1 "MemberClusters" then some kv.2 else none)

/-- One member of the object decoded into a `ServiceInUseBy`; a member of another name is
skipped. -/
def decodeMember (s : ServiceInUseBy) (kv : String × Json.Value) : Option ServiceInUseBy :=
  if Json.fieldMatches kv.1 "MemberClusters" then
    (Json.decodeMap (Json.decodeString "") s.memberClusters kv.2).map ServiceInUseBy.mk
  else some s

/-- Decoding a JSON value into the `ServiceInUseBy` `cur`: `null` leaves it, an object sets its
fields, and anything else is a type error. -/
def decodeServiceInUseBy (cur : ServiceInUseBy) : Json.Value → Option ServiceInUseBy
  | .null => some cur
  | .object ms => ms.foldlM decodeMember cur
  | _ => none

/-- `json.Unmarshal([]byte(data), &ServiceInUseBy{})`; `none` when it returns an error. -/
def Unmarshal (data : String) : Option ServiceInUseBy :=
  (Json.parse data).bind (decodeServiceInUseBy ⟨none⟩)

/-- `objectmeta.ServiceImportAnnotationServiceInUseBy`. -/
def ServiceImportAnnotationServiceInUseBy : String :=
  "networking.fleet.azure.com/service-in-use-by"

/-- A ServiceImport, of which the extraction reads the annotations only. -/
structure ServiceImport where
  annotations : Go.Map String String

/-- `extractServiceInUseByInfoFromServiceImport`. -/
def extractServiceInUseByInfoFromServiceImport (svcImport : ServiceImport) : ServiceInUseBy :=
  match svcImport.annotations.lookup ServiceImportAnnotationServiceInUseBy with
  | none => ⟨some ∅⟩
  | some data =>
    match Unmarshal data with
    | none => ⟨some ∅⟩
    | some svcInUseBy => svcInUseBy

/-! ## When the map is nil -/

section Decoding

variable {cur s : ServiceInUseBy} {ms : List (String × Json.Value)}

/-- A `MemberClusters` member sets the map to nil if it is `null` and to a map if it is an
object. -/
lemma memberClusters_decodeMember {kv : String × Json.Value} (h : decodeMember cur kv = some s) :
    s.memberClusters = none ↔
      if Json.fieldMatches kv.1 "MemberClusters" then kv.2 = .null
      else cur.memberClusters = none := by
  obtain ⟨k, v⟩ := kv
  unfold decodeMember at h
  split_ifs at h ⊢ with hk
  · obtain ⟨m, hm, rfl⟩ := Option.map_eq_some_iff.mp h
    cases v with
    | null =>
      simp only [Json.decodeMap, Option.some.injEq] at hm
      simp [hm]
    | object ms' =>
      obtain ⟨a, -, rfl⟩ := Option.map_eq_some_iff.mp hm
      simp
    | _ => simp [Json.decodeMap] at hm
  · cases h
    rfl

/-- After the members of an object, the map is nil exactly when the last `MemberClusters`
member is `null`, or, with none, when it was nil before. -/
lemma memberClusters_foldlM_decodeMember :
    ∀ (ms : List (String × Json.Value)) (cur s : ServiceInUseBy),
      ms.foldlM decodeMember cur = some s →
      (s.memberClusters = none ↔
        match lastMemberClusters ms with
        | none => cur.memberClusters = none
        | some v => v = .null)
  | [], cur, s, h => by
    simp only [List.foldlM_nil, Option.pure_def, Option.some.injEq] at h
    subst h
    rfl
  | kv :: ms, cur, s, h => by
    obtain ⟨s₁, h₁, hrest⟩ := Option.bind_eq_some_iff.mp h
    rw [memberClusters_foldlM_decodeMember ms s₁ s hrest]
    simp only [lastMemberClusters]
    -- a later member decides; with none, the first one does
    cases lastMemberClusters ms with
    | some v => rfl
    | none =>
      rw [memberClusters_decodeMember h₁]
      by_cases hk : Json.fieldMatches kv.1 "MemberClusters" <;> simp [hk]

/-- **When json.Unmarshal leaves the map nil.**  A text that decodes leaves `MemberClusters` nil
exactly when it is `null`, or an object whose last `MemberClusters` member is `null` or that has
none, `{}` among them. -/
theorem Unmarshal_memberClusters_eq_none_iff {data : String} (h : Unmarshal data = some s) :
    s.memberClusters = none ↔
      Json.parse data = some .null ∨
        ∃ ms, Json.parse data = some (.object ms) ∧
          (lastMemberClusters ms = none ∨ lastMemberClusters ms = some .null) := by
  obtain ⟨v, hv, hd⟩ := Option.bind_eq_some_iff.mp h
  rw [hv]
  cases v with
  | null =>
    simp only [decodeServiceInUseBy, Option.some.injEq] at hd
    subst hd
    simp
  | object ms =>
    rw [memberClusters_foldlM_decodeMember ms _ s hd]
    cases hl : lastMemberClusters ms <;> simp [hl]
  | _ => simp [decodeServiceInUseBy] at hd

/-- `{"MemberClusters":null}` decodes to a nil map: an object whose last `MemberClusters` member
is `null`. -/
theorem Unmarshal_memberClusters_eq_none_iff_run :
    Json.parse "\x7b\"MemberClusters\":null\x7d" = some .null ∨
      ∃ ms, Json.parse "\x7b\"MemberClusters\":null\x7d" = some (.object ms) ∧
        (lastMemberClusters ms = none ∨ lastMemberClusters ms = some .null) :=
  (Unmarshal_memberClusters_eq_none_iff (s := ⟨none⟩) rfl).mp rfl

/-- The extracted map is nil exactly when the annotation is there and decodes to a nil map. -/
lemma memberClusters_extract_eq_none_iff {svcImport : ServiceImport} :
    (extractServiceInUseByInfoFromServiceImport svcImport).memberClusters = none ↔
      ∃ data s, svcImport.annotations.lookup ServiceImportAnnotationServiceInUseBy = some data ∧
        Unmarshal data = some s ∧ s.memberClusters = none := by
  unfold extractServiceInUseByInfoFromServiceImport
  cases hl : svcImport.annotations.lookup ServiceImportAnnotationServiceInUseBy with
  | none => simp
  | some data =>
    cases hu : Unmarshal data with
    | none => simp [hu]
    | some s => simp [hu]

end Decoding

/-! ## The claim path -/

variable {ε : Type}

/-- The `error`s the API server returns to the writes of the claim path, nil for none. -/
structure ClaimWrites (ε : Type) where
  addFinalizer : Option ε
  annotate : ServiceInUseBy → Option ε
  fulfill : Option ε
  clearStatus : Option ε

/-- `Reconcile` from the reading of the annotation on: fulfill the import of a cluster it names,
clear the status of one it does not while it names one, and otherwise add the finalizer, claim
the Service for the cluster and fulfill. -/
def reconcileClaim (api : ClaimWrites ε) (clusterNamespace clusterID : String)
    (svcImport : ServiceImport) : Result ε Unit := do
  let svcInUseBy := extractServiceInUseByInfoFromServiceImport svcImport
  if svcInUseBy.memberClusters.len > 0 then
    if svcInUseBy.memberClusters.contains clusterNamespace then Result.fromError api.fulfill
    else Result.fromError api.clearStatus
  else
    Result.fromError api.addFinalizer
    let m ← svcInUseBy.memberClusters.assign clusterNamespace clusterID
    Result.fromError (api.annotate ⟨m⟩)
    Result.fromError api.fulfill

/-- The claim path panics exactly when the finalizer is added and the extracted map is nil: a
nil map has length zero, and the assignment to it panics. -/
theorem reconcileClaim_eq_panic_iff (api : ClaimWrites ε) (clusterNamespace clusterID : String)
    (svcImport : ServiceImport) :
    reconcileClaim api clusterNamespace clusterID svcImport = .panic ↔
      api.addFinalizer = none ∧
        (extractServiceInUseByInfoFromServiceImport svcImport).memberClusters = none := by
  unfold reconcileClaim
  generalize extractServiceInUseByInfoFromServiceImport svcImport = svcInUseBy
  obtain ⟨m⟩ := svcInUseBy
  cases m with
  | none =>
    cases hf : api.addFinalizer <;> simp [Map.len, Map.keys]
  | some a =>
    simp only [reduceCtorEq, and_false, iff_false]
    split_ifs
    · exact Result.fromError_ne_panic _
    · exact Result.fromError_ne_panic _
    · simp [Map.assign, Result.bind_eq_panic, Result.fromError_ne_panic]

/-- **A nil map in the annotation makes Reconcile panic.**  For every annotation text that
json.Unmarshal decodes with a nil `MemberClusters`, the claim path of every cluster panics once
its finalizer is added. -/
theorem reconcileClaim_panics_of_nil (api : ClaimWrites ε) (clusterNamespace clusterID data : String)
    (svcImport : ServiceImport)
    (hann : svcImport.annotations.lookup ServiceImportAnnotationServiceInUseBy = some data)
    (hnil : Unmarshal data = some ⟨none⟩) (hfin : api.addFinalizer = none) :
    reconcileClaim api clusterNamespace clusterID svcImport = .panic :=
  (reconcileClaim_eq_panic_iff api clusterNamespace clusterID svcImport).mpr
    ⟨hfin, memberClusters_extract_eq_none_iff.mpr ⟨data, _, hann, hnil, rfl⟩⟩

/-- A ServiceImport annotated with `data`. -/
def annotatedServiceImport (data : String) : ServiceImport :=
  ⟨some ((∅ : AList fun _ : String => String).insert ServiceImportAnnotationServiceInUseBy data)⟩

/-- Every write succeeds. -/
def claimWritesOk : ClaimWrites Unit := ⟨none, fun _ => none, none, none⟩

/-- The annotations `null`, `{}` and `{"MemberClusters":null}` all make the claim panic. -/
theorem reconcileClaim_panics_of_nil_run :
    reconcileClaim claimWritesOk "member-1" "member-1" (annotatedServiceImport "null") = .panic ∧
      reconcileClaim claimWritesOk "member-1" "member-1"
        (annotatedServiceImport "\x7b\x7d") = .panic ∧
      reconcileClaim claimWritesOk "member-1" "member-1"
        (annotatedServiceImport "\x7b\"MemberClusters\":null\x7d") = .panic :=
  ⟨reconcileClaim_panics_of_nil _ _ _ _ _ rfl rfl rfl,
    reconcileClaim_panics_of_nil _ _ _ _ _ rfl rfl rfl,
    reconcileClaim_panics_of_nil _ _ _ _ _ rfl rfl rfl⟩

end FleetNet.Hub.InUseBy
