import FleetNetworking.TrafficManager.DesiredEndpoints

/-!
# The update filters of the backend controller

The TrafficManagerBackend controller watches the objects a backend's reconcile reads and drops
an update event when its filter finds nothing relevant changed.

For InternalServiceExports and ServiceImports the filters are complete: an export update that
`shouldHandleInternalServiceExportUpdateEvent` drops changes no field that
`validateAndProcessServiceImportForBackend` reads, and a ServiceImport update that
`shouldHandleServiceImportUpateEvent` drops leaves `Status.Clusters` as it was.

For TrafficManagerProfiles the filter compares the Programmed conditions with
`EqualConditionIgnoreReason`, which counts a condition as unchanged when its
`ObservedGeneration` goes down.  `validateTrafficManagerProfile` accepts a condition only of
the profile's own generation, so the dropped updates are exactly those in which the condition,
True or False, falls from the current generation to an older one, and the profile goes from
valid or invalid to pending (`shouldHandleTrafficManagerProfileUpdateEvent_drops_iff`).  Such a
fall never happens along a run of the profile controller (`ProfileStatus`).

`IsConditionStatusTrue` and `IsConditionStatusFalse`, of the fleet library, are taken to mean a
condition of that status observed at that generation.
-/

namespace FleetNet.BackendController

/-! ## InternalServiceExports and ServiceImports -/

/-- `shouldHandleInternalServiceExportUpdateEvent`. -/
def shouldHandleInternalServiceExportUpdateEvent (old new : InternalServiceExport) : Bool :=
  old.type != new.type || old.isDNSLabelConfigured != new.isDNSLabelConfigured ||
    old.isInternalLoadBalancer != new.isInternalLoadBalancer ||
    old.spec.publicIPResourceID != new.spec.publicIPResourceID || old.spec.weight != new.spec.weight

/-- An export update the filter drops, of the same cluster, changes nothing the backend
controller reads of the export. -/
theorem eq_of_shouldHandleInternalServiceExportUpdateEvent_eq_false {old new : InternalServiceExport}
    (hcluster : old.spec.clusterID = new.spec.clusterID)
    (h : shouldHandleInternalServiceExportUpdateEvent old new = false) : old = new := by
  obtain ⟨⟨c, ip, w⟩, t, lb, dns⟩ := old
  obtain ⟨⟨c', ip', w'⟩, t', lb', dns'⟩ := new
  simp only [shouldHandleInternalServiceExportUpdateEvent, Bool.or_eq_false_iff, bne_eq_false_iff_eq]
    at h
  obtain ⟨⟨⟨⟨ht, hdns⟩, hlb⟩, hip⟩, hw⟩ := h
  simp_all

/-- So the backend's desired endpoints and invalid services are the same with the new export in
place of the old one. -/
theorem validateAndProcess_of_shouldHandleInternalServiceExportUpdateEvent_eq_false {ε : Type}
    {old new : InternalServiceExport} (hcluster : old.spec.clusterID = new.spec.clusterID)
    (h : shouldHandleInternalServiceExportUpdateEvent old new = false)
    (backend : TrafficManagerBackend) (backendWeight : Option ℤ) (clusters : List (List Char))
    (before after : List InternalServiceExport) (statusUpdate : Option ε) :
    validateAndProcessServiceImportForBackend backend backendWeight clusters
        (.ok (before ++ old :: after)) statusUpdate =
      validateAndProcessServiceImportForBackend backend backendWeight clusters
        (.ok (before ++ new :: after)) statusUpdate := by
  rw [eq_of_shouldHandleInternalServiceExportUpdateEvent_eq_false hcluster h]

/-- `shouldHandleServiceImportUpateEvent`, on `Status.Clusters`; `DeepEqual` counts a nil and an
empty list alike, as the list model does. -/
def shouldHandleServiceImportUpateEvent (old new : List (List Char)) : Bool := old != new

/-- A ServiceImport update the filter drops gives the backend the same clusters, so the same
result for every answer of the export list. -/
theorem validateAndProcess_of_shouldHandleServiceImportUpateEvent_eq_false {ε : Type}
    {old new : List (List Char)} (h : shouldHandleServiceImportUpateEvent old new = false)
    (backend : TrafficManagerBackend) (backendWeight : Option ℤ)
    (listed : Except ε (List InternalServiceExport)) (statusUpdate : Option ε) :
    validateAndProcessServiceImportForBackend backend backendWeight old listed statusUpdate =
      validateAndProcessServiceImportForBackend backend backendWeight new listed statusUpdate := by
  rw [show old = new by simpa [shouldHandleServiceImportUpateEvent] using h]

/-! ## TrafficManagerProfiles -/

/-- `metav1.ConditionStatus`. -/
inductive ConditionStatus where
  | True
  | False
  | Unknown
  deriving DecidableEq, Repr

/-- `metav1.Condition`, the fields the filter and the validation read. -/
structure Condition where
  type : String
  status : ConditionStatus
  observedGeneration : ℤ
  reason : String
  deriving DecidableEq, Repr

/-- `fleetnetv1beta1.TrafficManagerProfileConditionProgrammed`. -/
def TrafficManagerProfileConditionProgrammed : String := "Programmed"

/-- A TrafficManagerProfile as the backend controller reads it: its generation and the
conditions of its status. -/
structure TrafficManagerProfile where
  generation : ℤ
  conditions : List Condition
  deriving DecidableEq, Repr

/-- `meta.FindStatusCondition`: the first condition of that type. -/
def FindStatusCondition (conditions : List Condition) (conditionType : String) : Option Condition :=
  conditions.find? (·.type == conditionType)

/-- `condition.EqualConditionIgnoreReason`. -/
def EqualConditionIgnoreReason : Option Condition → Option Condition → Bool
  | none, none => true
  | some current, some desired =>
    current.type == desired.type && current.status == desired.status &&
      decide (current.observedGeneration ≥ desired.observedGeneration)
  | _, _ => false

/-- `condition.IsConditionStatusTrue`. -/
def IsConditionStatusTrue (cond : Option Condition) (generation : ℤ) : Bool :=
  match cond with
  | none => false
  | some cond => cond.status == .True && cond.observedGeneration == generation

/-- `condition.IsConditionStatusFalse`. -/
def IsConditionStatusFalse (cond : Option Condition) (generation : ℤ) : Bool :=
  match cond with
  | none => false
  | some cond => cond.status == .False && cond.observedGeneration == generation

/-- What `validateTrafficManagerProfile` makes of a profile it finds. -/
inductive ProfileValidation where
  /-- programmed: the backend goes on with it -/
  | valid
  /-- not programmed: the backend is Accepted False -/
  | invalid
  /-- not yet seen by the profile controller: the backend is Unknown -/
  | pending
  deriving DecidableEq, Repr

/-- `validateTrafficManagerProfile`, for a profile that is found; the condition it sets on the
backend and the status update are left out. -/
def validateTrafficManagerProfile (profile : TrafficManagerProfile) : ProfileValidation :=
  let programmedCondition :=
    FindStatusCondition profile.conditions TrafficManagerProfileConditionProgrammed
  if IsConditionStatusTrue programmedCondition profile.generation then .valid
  else if IsConditionStatusFalse programmedCondition profile.generation then .invalid
  else .pending

/-- `shouldHandleTrafficManagerProfileUpdateEvent`. -/
def shouldHandleTrafficManagerProfileUpdateEvent (old new : TrafficManagerProfile) : Bool :=
  let oldCondition := FindStatusCondition old.conditions TrafficManagerProfileConditionProgrammed
  let newCondition := FindStatusCondition new.conditions TrafficManagerProfileConditionProgrammed
  !EqualConditionIgnoreReason oldCondition newCondition

/-- Every condition of a profile was observed at a generation it has had. -/
def ObservedUpTo (profile : TrafficManagerProfile) : Prop :=
  ∀ c ∈ profile.conditions, c.observedGeneration ≤ profile.generation

section Profiles

lemma type_of_FindStatusCondition {conditions : List Condition} {t : String} {c : Condition}
    (h : FindStatusCondition conditions t = some c) : c.type = t := by
  simpa using List.find?_some h

/-- The validation reads the Programmed condition through its status and whether it is of the
profile's generation. -/
lemma validateTrafficManagerProfile_of_condition (profile : TrafficManagerProfile) :
    validateTrafficManagerProfile profile =
      match FindStatusCondition profile.conditions TrafficManagerProfileConditionProgrammed with
      | none => .pending
      | some c =>
        if c.observedGeneration = profile.generation then
          match c.status with
          | .True => .valid
          | .False => .invalid
          | .Unknown => .pending
        else .pending := by
  rcases hc : FindStatusCondition profile.conditions TrafficManagerProfileConditionProgrammed
    with _ | c
  · simp [validateTrafficManagerProfile, hc, IsConditionStatusTrue, IsConditionStatusFalse]
  · by_cases hg : c.observedGeneration = profile.generation <;> cases hs : c.status <;>
      simp [validateTrafficManagerProfile, hc, IsConditionStatusTrue, IsConditionStatusFalse, hg, hs]

/-- **The profile filter drops exactly the regressions.**  For two versions of a profile of one
generation, whose conditions were observed at generations they have had, the filter drops the
update while the validation's outcome changes exactly when both carry a Programmed condition of
one status, True or False, the old one of the profile's generation and the new one of an older
generation. -/
theorem shouldHandleTrafficManagerProfileUpdateEvent_drops_iff (old new : TrafficManagerProfile)
    (hgen : old.generation = new.generation) (hold : ObservedUpTo old) (hnew : ObservedUpTo new) :
    (shouldHandleTrafficManagerProfileUpdateEvent old new = false ∧
        validateTrafficManagerProfile old ≠ validateTrafficManagerProfile new) ↔
      ∃ co cn, FindStatusCondition old.conditions TrafficManagerProfileConditionProgrammed = some co ∧
        FindStatusCondition new.conditions TrafficManagerProfileConditionProgrammed = some cn ∧
        co.status = cn.status ∧ co.status ≠ .Unknown ∧ co.observedGeneration = old.generation ∧
        cn.observedGeneration < old.generation := by
  rw [validateTrafficManagerProfile_of_condition, validateTrafficManagerProfile_of_condition,
    ← hgen]
  simp only [shouldHandleTrafficManagerProfileUpdateEvent]
  rcases hco : FindStatusCondition old.conditions TrafficManagerProfileConditionProgrammed
    with _ | co <;>
  rcases hcn : FindStatusCondition new.conditions TrafficManagerProfileConditionProgrammed
    with _ | cn
  case none.none => simp [EqualConditionIgnoreReason]
  case none.some => simp [EqualConditionIgnoreReason]
  case some.none => simp [EqualConditionIgnoreReason]
  case some.some =>
    -- both found: they are of one type, and the filter compares status and generations
    have htype : co.type = cn.type := by
      rw [type_of_FindStatusCondition hco, type_of_FindStatusCondition hcn]
    have hco' := hold co (List.mem_of_find?_eq_some hco)
    have hcn' := hnew cn (List.mem_of_find?_eq_some hcn)
    rw [← hgen] at hcn'
    by_cases hgo : co.observedGeneration = old.generation <;>
    by_cases hgn : cn.observedGeneration = old.generation <;>
    cases hso : co.status <;> cases hsn : cn.status <;>
    simp [EqualConditionIgnoreReason, htype, hso, hsn, hgo, hgn] <;> omega

end Profiles

end FleetNet.BackendController
