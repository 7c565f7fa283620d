import FleetNetworking.TrafficManager.WatchFilters
import FleetNetworking.Lib.ObjectStore

/-!
# The Programmed condition over a profile's life

The TrafficManagerProfile controller is the one writer of a profile's Programmed condition.  Its
`updateProfileStatus` sets the condition with `meta.SetStatusCondition`, observed at the generation
of the copy the reconcile read, and sends `Status().Update` with the copy's resourceVersion.  The
write goes through only when no other write came between the read and it, and then the copy's
generation is the profile's.

This module runs one profile.  Its users change the spec, which starts a new generation, or its
metadata.  The controller reads the profile, may add a finalizer by `Update`, and writes the
status.  In every reachable state every condition is observed at a generation the profile has had,
and a reconcile's copy, while it is current, is the profile (`ProfileInv`).  So along every run over
which the generation stays, the Programmed condition stays and its observed generation never goes
down (`ProfileInv.run`).  The regressions of `shouldHandleTrafficManagerProfileUpdateEvent_drops_iff`
never happen, and with the two other filters the backend controller's watch drops no update that
changes what a backend's reconcile reads (`watchFilters_complete`).

The DNS name and resource ID that the status write also carries, the Azure calls before it and the
deletion path are left out.  Users do not write the status.
-/

namespace FleetNet.ProfileStatus

open ObjectStore BackendController

/-! ## The status write -/

/-- `meta.SetStatusCondition`: the first condition of the new one's type takes its status, reason
and observed generation; with none of that type, the new one is appended. -/
def SetStatusCondition : List Condition → Condition → List Condition
  | [], c => [c]
  | d :: ds, c => if d.type = c.type then c :: ds else d :: SetStatusCondition ds c

/-- An error of an Azure call: a response error with its HTTP status code, or another error. -/
inductive ArmError where
  | response (statusCode : ℕ)
  | other
  deriving DecidableEq, Repr

/-- `azureerrors.IsConflict`. -/
def ArmError.IsConflict : ArmError → Bool
  | .response statusCode => statusCode == 409
  | .other => false

/-- `azureerrors.IsClientError`. -/
def ArmError.IsClientError : ArmError → Bool
  | .response statusCode => 400 ≤ statusCode && statusCode < 500
  | .other => false

/-- `azureerrors.IsThrottled`. -/
def ArmError.IsThrottled : ArmError → Bool
  | .response statusCode => statusCode == 429
  | .other => false

/-- The Programmed condition of `updateProfileStatus`, observed at the generation of the profile
it is given: True without an error, False on a conflict or on a client error that is not
throttling, Unknown on any other error. -/
def programmedCondition (profile : TrafficManagerProfile) : Option ArmError → Condition
  | none => ⟨TrafficManagerProfileConditionProgrammed, .True, profile.generation, "Programmed"⟩
  | some armErr =>
    if armErr.IsConflict then
      ⟨TrafficManagerProfileConditionProgrammed, .False, profile.generation, "DNSNameNotAvailable"⟩
    else if armErr.IsClientError && !armErr.IsThrottled then
      ⟨TrafficManagerProfileConditionProgrammed, .False, profile.generation, "Invalid"⟩
    else ⟨TrafficManagerProfileConditionProgrammed, .Unknown, profile.generation, "Pending"⟩

/-- `updateProfileStatus`, on the profile it writes: the Programmed condition set among its
conditions. -/
def updateProfileStatus (profile : TrafficManagerProfile) (armErr : Option ArmError) :
    TrafficManagerProfile :=
  { profile with conditions := SetStatusCondition profile.conditions (programmedCondition profile armErr) }

/-! ## The profile and its writers -/

/-- `Update` or `Status().Update` of a copy read at version `rv`: it goes through only if no write
came between. -/
def updateAt (stored : Versioned TrafficManagerProfile) (rv : ℕ) (profile : TrafficManagerProfile) :
    Option (Versioned TrafficManagerProfile) :=
  if stored.rv = rv then some ⟨stored.rv + 1, profile⟩ else none

/-- Where a reconcile of the profile stands, with its copy of the profile. -/
inductive ProfileReconcile where
  /-- no reconcile is running -/
  | idle
  /-- an `Update` that adds a finalizer: the metrics finalizer, or the profile finalizer before
  the Azure create -/
  | addFinalizer (profile : Versioned TrafficManagerProfile)
  /-- `updateProfileStatus`, with the error of the Azure calls -/
  | updateStatus (profile : Versioned TrafficManagerProfile) (armErr : Option ArmError)
  deriving DecidableEq, Repr

/-- How the world answers a step of the reconcile: it adds a finalizer next, returns without a
status write (a failed Get, an Azure error it returns), or writes the status. -/
inductive Answer where
  | addFinalizer
  | stop
  | updateStatus (armErr : Option ArmError)
  deriving DecidableEq, Repr

/-- Where the reconcile goes, holding `profile`, on the answer. -/
def Answer.next (profile : Versioned TrafficManagerProfile) : Answer → ProfileReconcile
  | .addFinalizer => .addFinalizer profile
  | .stop => .idle
  | .updateStatus armErr => .updateStatus profile armErr

/-- One step of the reconcile: where it goes and the profile after it. -/
def reconcileStep (a : Answer) (stored : Versioned TrafficManagerProfile) :
    ProfileReconcile → ProfileReconcile × Versioned TrafficManagerProfile
  | .idle => (a.next stored, stored)
  | .addFinalizer profile =>
    -- the finalizers are metadata: the update writes the profile as it was read
    match updateAt stored profile.rv profile.val with
    | some stored' => (a.next stored', stored')
    | none => (.idle, stored)
  | .updateStatus profile armErr =>
    match updateAt stored profile.rv (updateProfileStatus profile.val armErr) with
    | some stored' => (.idle, stored')
    | none => (.idle, stored)

/-- The profile and the reconcile in flight. -/
structure ProfileState where
  stored : Versioned TrafficManagerProfile
  reconcile : ProfileReconcile

/-- A step: of the reconcile, or of a user who changes the spec or the metadata. -/
inductive Step : ProfileState → ProfileState → Prop
  | reconcile (s : ProfileState) (a : Answer) :
      Step s ⟨(reconcileStep a s.stored s.reconcile).2, (reconcileStep a s.stored s.reconcile).1⟩
  | updateSpec (s : ProfileState) :
      Step s { s with stored :=
        ⟨s.stored.rv + 1, { s.stored.val with generation := s.stored.val.generation + 1 }⟩ }
  | updateMetadata (s : ProfileState) : Step s { s with stored := ⟨s.stored.rv + 1, s.stored.val⟩ }

/-- A profile starts at generation 1 with no condition, and no reconcile running. -/
def ProfileState.Init (s : ProfileState) : Prop :=
  s.stored.val = ⟨1, []⟩ ∧ s.reconcile = .idle

/-- The states a profile reaches. -/
abbrev ProfileState.Reachable (s : ProfileState) : Prop := ObjectStore.Reachable ProfileState.Init Step s

/-! ## Conditions -/

section Conditions

variable {cs : List Condition} {c d : Condition}

lemma mem_SetStatusCondition (h : d ∈ SetStatusCondition cs c) : d ∈ cs ∨ d = c := by
  induction cs with
  | nil => simpa [SetStatusCondition] using h
  | cons e es ih =>
    unfold SetStatusCondition at h
    split_ifs at h
    · rcases List.mem_cons.mp h with rfl | h
      · exact .inr rfl
      · exact .inl (List.mem_cons_of_mem _ h)
    · rcases List.mem_cons.mp h with rfl | h
      · exact .inl List.mem_cons_self
      · exact (ih h).imp_left (List.mem_cons_of_mem _)

/-- The condition just set is the one found of its type. -/
lemma FindStatusCondition_SetStatusCondition :
    FindStatusCondition (SetStatusCondition cs c) c.type = some c := by
  induction cs with
  | nil => simp [SetStatusCondition, FindStatusCondition]
  | cons e es ih =>
    unfold SetStatusCondition
    split_ifs with he
    · simp [FindStatusCondition]
    · simpa [FindStatusCondition, he] using ih

@[simp] lemma programmedCondition_type (profile : TrafficManagerProfile) (armErr : Option ArmError) :
    (programmedCondition profile armErr).type = TrafficManagerProfileConditionProgrammed := by
  unfold programmedCondition
  split <;> [rfl; split_ifs <;> rfl]

@[simp] lemma programmedCondition_observedGeneration (profile : TrafficManagerProfile)
    (armErr : Option ArmError) : (programmedCondition profile armErr).observedGeneration = profile.generation := by
  unfold programmedCondition
  split <;> [rfl; split_ifs <;> rfl]

/-- The Programmed condition of a profile. -/
def programmed (profile : TrafficManagerProfile) : Option Condition :=
  FindStatusCondition profile.conditions TrafficManagerProfileConditionProgrammed

/-- After the status write, the Programmed condition is the one written. -/
lemma programmed_updateProfileStatus (profile : TrafficManagerProfile) (armErr : Option ArmError) :
    programmed (updateProfileStatus profile armErr) = some (programmedCondition profile armErr) := by
  rw [programmed, updateProfileStatus, ← programmedCondition_type profile armErr]
  exact FindStatusCondition_SetStatusCondition

/-- The status write keeps every condition observed at a generation the profile has had. -/
lemma ObservedUpTo.updateProfileStatus {profile : TrafficManagerProfile} (h : ObservedUpTo profile)
    (armErr : Option ArmError) : ObservedUpTo (updateProfileStatus profile armErr) := by
  intro d hd
  rcases mem_SetStatusCondition hd with hd | rfl
  · exact h d hd
  · simp [ProfileStatus.updateProfileStatus]

end Conditions

/-! ## The invariant -/

/-- The copy a reconcile holds. -/
def ProfileReconcile.copy : ProfileReconcile → Option (Versioned TrafficManagerProfile)
  | .idle => none
  | .addFinalizer profile => some profile
  | .updateStatus profile _ => some profile

/-- A copy read from the profile: no newer than it, and the profile itself while no write came
after it. -/
def Current (stored profile : Versioned TrafficManagerProfile) : Prop :=
  profile.rv ≤ stored.rv ∧ (profile.rv = stored.rv → profile.val = stored.val)

/-- What holds in every reachable state. -/
structure ProfileInv (s : ProfileState) : Prop where
  observed : ObservedUpTo s.stored.val
  copy : ∀ profile, s.reconcile.copy = some profile → Current s.stored profile

/-- Within one generation the Programmed condition stays, and its observed generation does not go
down. -/
def ProgrammedKept (old new : TrafficManagerProfile) : Prop :=
  ∀ co, programmed old = some co → ∃ cn, programmed new = some cn ∧ co.observedGeneration ≤ cn.observedGeneration

section Invariant

variable {s t u : ProfileState} {stored stored' profile : Versioned TrafficManagerProfile}
  {p : TrafficManagerProfile} {a : Answer}

lemma ProgrammedKept.refl : ProgrammedKept p p := fun co h => ⟨co, h, le_rfl⟩

lemma ProgrammedKept.trans {p q r : TrafficManagerProfile} (h₁ : ProgrammedKept p q)
    (h₂ : ProgrammedKept q r) : ProgrammedKept p r := by
  intro co hco
  obtain ⟨cq, hcq, hle⟩ := h₁ co hco
  obtain ⟨cr, hcr, hle'⟩ := h₂ cq hcq
  exact ⟨cr, hcr, hle.trans hle'⟩

lemma Current.self : Current stored stored := ⟨le_rfl, fun _ => rfl⟩

/-- A copy stays current, though no longer the profile, across a write by someone else. -/
lemma Current.bump (h : Current stored profile) (p : TrafficManagerProfile) :
    Current ⟨stored.rv + 1, p⟩ profile :=
  ⟨Nat.le_succ_of_le h.1, fun hrv => absurd hrv (by have := h.1; dsimp only; omega)⟩

/-- A write that went through came from a current copy: the copy was the profile. -/
lemma Current.eq_of_updateAt (h : Current stored profile)
    (hu : updateAt stored profile.rv p = some stored') : profile.val = stored.val ∧ stored' = ⟨stored.rv + 1, p⟩ := by
  unfold updateAt at hu
  split_ifs at hu with hrv
  cases hu
  exact ⟨h.2 hrv.symm, rfl⟩

/-- The copy a reconcile goes on with, after it read or wrote `stored`, is `stored`. -/
lemma Answer.current_next (a : Answer) (stored : Versioned TrafficManagerProfile)
    (hp : (a.next stored).copy = some profile) : Current stored profile := by
  cases a <;> dsimp only [Answer.next, ProfileReconcile.copy] at hp <;> cases hp <;>
    exact Current.self

/-- A reconcile that stops holds no copy. -/
lemma ProfileInv.idle (h : ProfileInv s) : ProfileInv ⟨s.stored, .idle⟩ :=
  ⟨h.observed, fun _ hp => by cases hp⟩

lemma ProfileInv.init (h : s.Init) : ProfileInv s := by
  obtain ⟨hval, hpc⟩ := h
  refine ⟨?_, fun profile hp => ?_⟩
  · simp [ObservedUpTo, hval]
  · simp [hpc, ProfileReconcile.copy] at hp

/-- A step of the reconcile keeps the invariant, and the status write is the one step that changes
the profile: within its generation, it keeps the Programmed condition and raises its observed
generation to the generation. -/
lemma ProfileInv.reconcileStep (h : ProfileInv s) :
    ProfileInv ⟨(reconcileStep a s.stored s.reconcile).2, (reconcileStep a s.stored s.reconcile).1⟩ ∧
      ((reconcileStep a s.stored s.reconcile).2.val = s.stored.val ∨
        ProgrammedKept s.stored.val (reconcileStep a s.stored s.reconcile).2.val ∧
          (reconcileStep a s.stored s.reconcile).2.val.generation = s.stored.val.generation) := by
  obtain ⟨stored, pc⟩ := s
  cases pc with
  | idle =>
    -- the read: the copy is the profile
    exact ⟨⟨h.observed, fun _ => a.current_next stored⟩, .inl rfl⟩
  | addFinalizer profile =>
    have hcur := h.copy profile rfl
    simp only [ProfileStatus.reconcileStep]
    split
    · rename_i stored' hu
      obtain ⟨hval, rfl⟩ := hcur.eq_of_updateAt hu
      refine ⟨⟨by dsimp only; rw [hval]; exact h.observed, fun _ => a.current_next _⟩, .inl hval⟩
    · exact ⟨h.idle, .inl rfl⟩
  | updateStatus profile armErr =>
    have hcur := h.copy profile rfl
    simp only [ProfileStatus.reconcileStep]
    split
    · rename_i stored' hu
      obtain ⟨hval, rfl⟩ := hcur.eq_of_updateAt hu
      rw [hval]
      refine ⟨⟨ObservedUpTo.updateProfileStatus h.observed armErr, fun _ hp => by cases hp⟩,
        .inr ⟨?_, rfl⟩⟩
      -- the condition written is observed at the generation, which no condition exceeds
      intro co hco
      refine ⟨_, programmed_updateProfileStatus stored.val armErr, ?_⟩
      rw [programmedCondition_observedGeneration]
      exact h.observed co (List.mem_of_find?_eq_some hco)
    · exact ⟨h.idle, .inl rfl⟩

/-- Every step keeps the invariant; the generation does not go down, and while it stays the
Programmed condition is kept. -/
lemma ProfileInv.step (h : ProfileInv s) (hst : Step s t) :
    ProfileInv t ∧ s.stored.val.generation ≤ t.stored.val.generation ∧
      (t.stored.val.generation = s.stored.val.generation → ProgrammedKept s.stored.val t.stored.val) := by
  cases hst with
  | reconcile a =>
    obtain ⟨hinv, hval | ⟨hkept, hgen⟩⟩ := h.reconcileStep (a := a)
    · exact ⟨hinv, by rw [hval], fun _ => by rw [hval]; exact .refl⟩
    · exact ⟨hinv, by rw [hgen], fun _ => hkept⟩
  | updateSpec =>
    -- a new generation: every condition was observed at an older one
    refine ⟨⟨fun c hc => ?_, fun profile hp => (h.copy profile hp).bump _⟩, by simp,
      fun hgen => by simp at hgen⟩
    have := h.observed c hc
    dsimp only
    omega
  | updateMetadata =>
    exact ⟨⟨h.observed, fun profile hp => (h.copy profile hp).bump _⟩, le_rfl, fun _ => .refl⟩

lemma ProfileInv.reachable (hs : s.Reachable) : ProfileInv s :=
  Reachable.invariant (I := ProfileInv) (fun _ hi => ProfileInv.init hi)
    (fun _ _ h hst => (h.step hst).1) hs

/-- Along every run from a reachable state the generation does not go down, and when it ends
where it started the Programmed condition has been kept throughout. -/
lemma ProfileInv.run (h : ProfileInv s) (hrun : Relation.ReflTransGen Step s t) :
    ProfileInv t ∧ s.stored.val.generation ≤ t.stored.val.generation ∧
      (t.stored.val.generation = s.stored.val.generation → ProgrammedKept s.stored.val t.stored.val) := by
  induction hrun with
  | refl => exact ⟨h, le_rfl, fun _ => .refl⟩
  | tail _ hst ih =>
    obtain ⟨hu, hle, hkept⟩ := ih
    obtain ⟨ht, hle', hkept'⟩ := hu.step hst
    -- the generation of the middle state is squeezed between the two ends
    refine ⟨ht, hle.trans hle', fun hgen => ?_⟩
    have hmid : _ = s.stored.val.generation := le_antisymm (hgen ▸ hle') hle
    exact (hkept hmid).trans (hkept' (hgen.trans hmid.symm))

end Invariant

/-! ## The watch filters -/

/-- **The backend controller's watch drops no relevant update.**  (1) An update of an
InternalServiceExport that `shouldHandleInternalServiceExportUpdateEvent` drops, of the same
cluster, leaves every backend's desired endpoints and invalid services as they were; (2) so does
an update of a ServiceImport that `shouldHandleServiceImportUpateEvent` drops; (3) between any two
versions of a TrafficManagerProfile along a run of its controller and its users, of one generation,
an update whose validation outcome differs is one `shouldHandleTrafficManagerProfileUpdateEvent`
handles. -/
theorem watchFilters_complete :
    (∀ {ε : Type} (old new : InternalServiceExport), old.spec.clusterID = new.spec.clusterID →
      shouldHandleInternalServiceExportUpdateEvent old new = false →
      ∀ backend backendWeight clusters before after (statusUpdate : Option ε),
        validateAndProcessServiceImportForBackend backend backendWeight clusters
            (.ok (before ++ old :: after)) statusUpdate =
          validateAndProcessServiceImportForBackend backend backendWeight clusters
            (.ok (before ++ new :: after)) statusUpdate) ∧
    (∀ {ε : Type} (old new : List (List Char)), shouldHandleServiceImportUpateEvent old new = false →
      ∀ backend backendWeight (listed : Except ε (List InternalServiceExport)) statusUpdate,
        validateAndProcessServiceImportForBackend backend backendWeight old listed statusUpdate =
          validateAndProcessServiceImportForBackend backend backendWeight new listed statusUpdate) ∧
    ∀ s t : ProfileState, s.Reachable → Relation.ReflTransGen Step s t →
      t.stored.val.generation = s.stored.val.generation →
      validateTrafficManagerProfile s.stored.val ≠ validateTrafficManagerProfile t.stored.val →
      shouldHandleTrafficManagerProfileUpdateEvent s.stored.val t.stored.val = true := by
  refine ⟨fun old new hcluster h backend backendWeight clusters before after statusUpdate =>
      validateAndProcess_of_shouldHandleInternalServiceExportUpdateEvent_eq_false hcluster h backend
        backendWeight clusters before after statusUpdate,
    fun old new h backend backendWeight listed statusUpdate =>
      validateAndProcess_of_shouldHandleServiceImportUpateEvent_eq_false h backend backendWeight
        listed statusUpdate,
    fun s t hs hrun hgen hdiff => ?_⟩
  have hinv := ProfileInv.reachable hs
  obtain ⟨hinvt, -, hkept⟩ := hinv.run hrun
  -- a dropped update that changes the outcome is a regression of the observed generation
  by_contra hdrop
  obtain ⟨co, cn, hco, hcn, -, -, hgo, hlt⟩ :=
    (shouldHandleTrafficManagerProfileUpdateEvent_drops_iff s.stored.val t.stored.val hgen.symm
      hinv.observed hinvt.observed).mp ⟨Bool.eq_false_iff.mpr hdrop, hdiff⟩
  obtain ⟨cn', hcn', hle⟩ := hkept hgen co hco
  rw [programmed, hcn, Option.some.injEq] at hcn'
  subst hcn'
  omega

/-- A profile just created, read and programmed: the status write takes it from pending to
valid, and the watch handles the update. -/
theorem watchFilters_complete_run :
    shouldHandleTrafficManagerProfileUpdateEvent ⟨1, []⟩
      (updateProfileStatus ⟨1, []⟩ none) = true := by
  have hs : ProfileState.Reachable ⟨⟨0, ⟨1, []⟩⟩, .idle⟩ := .init ⟨rfl, rfl⟩
  have hrun : Relation.ReflTransGen Step ⟨⟨0, ⟨1, []⟩⟩, .idle⟩
      ⟨⟨1, updateProfileStatus ⟨1, []⟩ none⟩, .idle⟩ :=
    (Relation.ReflTransGen.single (.reconcile _ (.updateStatus none))).tail
      (.reconcile _ (.updateStatus none))
  exact watchFilters_complete.2.2 _ _ hs hrun rfl (by decide)

end FleetNet.ProfileStatus
