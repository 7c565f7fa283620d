import FleetNetworking.Lib.DnsName

/-!
# Unique names for exported objects

`pkg/common/uniquename` formats the names under which objects are exported and imported:
`[NAMESPACE]-[NAME]-[SUFFIX]` within a cluster (`ClusterScopedUniqueName`) and
`[CLUSTER ID]-[NAMESPACE]-[NAME]-[SUFFIX]` across the fleet (`FleetScopedUniqueName`).  Every
component is cut to an equal share of the format's length budget, dots are dropped where the
format is a DNS label, and the result is validated before it is returned.

The source documents preconditions (a valid cluster ID, namespace and name) and its one caller,
the EndpointSlice controller, treats the validation failure as a fallback that "should never
run".  The results below say exactly when it runs.  For the label formats the name is always
valid, except for a fleet-scoped RFC 1035 name whose cluster ID opens with a digit, which gets
no `ns` guard although the cluster-scoped namespace does.  For the subdomain format the check
fails exactly when a truncated component ends with a dot: the `-` that follows then opens a DNS
label with a dash.

Strings are modelled as lists of characters.  Go slices bytes, and the two agree on the ASCII
names the preconditions describe.  The random suffix is the parameter `newUUID`, the string
`uuid.NewUUID()` returns; `IsUUIDPrefix` is what is assumed of its first five characters.
-/

namespace FleetNet

open Dns

/-! ## The source -/

/-- `Format`, an `int` in the source. -/
structure Format where
  toInt : Int
  deriving DecidableEq, Repr

/-- The unique name should be a valid RFC 1123 DNS subdomain. -/
def DNS1123Subdomain : Format := ⟨1⟩

/-- The unique name should be a valid RFC 1123 DNS label. -/
def DNS1123Label : Format := ⟨2⟩

/-- The unique name should be a valid RFC 1035 DNS label. -/
def DNS1035Label : Format := ⟨3⟩

def uuidLength : ℕ := 5

def minInt (a b : ℕ) : ℕ := if a < b then a else b

/-- `startsWithNumericCharacter`.  The source reads `s[0]`, which panics on the empty string;
every caller passes a namespace, which is never empty. -/
def startsWithNumericCharacter : List Char → Bool
  | c :: _ => c.isDigit
  | [] => false

/-- `strings.ReplaceAll(s, ".", "")`. -/
def removeDots (s : List Char) : List Char := s.filter (· != '.')

/-- `ClusterScopedUniqueName`; the error texts leave out the validation messages the source
appends with `%v`. -/
def ClusterScopedUniqueName (format : Format) (ns name newUUID : List Char) :
    Except String (List Char) :=
  let reservedSlots := 2 + uuidLength
  if format = DNS1123Subdomain then
    let availableSlots := DNS1123SubdomainMaxLength
    let slotsPerSeg := (availableSlots - reservedSlots) / 2
    let uniqueName := ns.take (minInt slotsPerSeg ns.length) ++ ['-'] ++
      name.take (minInt slotsPerSeg name.length) ++ ['-'] ++ newUUID.take uuidLength
    if isDNS1123Subdomain uniqueName then .ok uniqueName
    else .error ("failed to format a unique RFC 1123 DNS subdomain name with namespace " ++
      String.ofList ns ++ ", name " ++ String.ofList name)
  else if format = DNS1123Label then
    let availableSlots := DNS1123LabelMaxLength
    let slotsPerSeg := (availableSlots - reservedSlots) / 2
    let name := removeDots name
    let uniqueName := ns.take (minInt slotsPerSeg ns.length) ++ ['-'] ++
      name.take (minInt slotsPerSeg name.length) ++ ['-'] ++ newUUID.take uuidLength
    if isDNS1123Label uniqueName then .ok uniqueName
    else .error ("failed to format a unique RFC 1123 DNS label name with namespace " ++
      String.ofList ns ++ ", name " ++ String.ofList name)
  else if format = DNS1035Label then
    let availableSlots := DNS1035LabelMaxLength
    let slotsPerSeg := (availableSlots - reservedSlots) / 2
    let ns := if startsWithNumericCharacter ns then "ns".toList ++ ns else ns
    let name := removeDots name
    let uniqueName := ns.take (minInt slotsPerSeg ns.length) ++ ['-'] ++
      name.take (minInt slotsPerSeg name.length) ++ ['-'] ++ newUUID.take uuidLength
    if isDNS1035Label uniqueName then .ok uniqueName
    else .error ("failed to format a unique RFC 1035 DNS label name with namespace " ++
      String.ofList ns ++ ", name " ++ String.ofList name)
  else .error ("not a valid name format: " ++ toString format.toInt)

/-- `FleetScopedUniqueName`; the error texts leave out the validation messages the source
appends with `%v`. -/
def FleetScopedUniqueName (format : Format) (clusterID ns name newUUID : List Char) :
    Except String (List Char) :=
  let reservedSlots := 3 + uuidLength
  if format = DNS1123Subdomain then
    let availableSlots := DNS1123SubdomainMaxLength
    let slotsPerSeg := (availableSlots - reservedSlots) / 3
    let uniqueName := clusterID.take (minInt slotsPerSeg clusterID.length) ++ ['-'] ++
      ns.take (minInt slotsPerSeg ns.length) ++ ['-'] ++
      name.take (minInt slotsPerSeg name.length) ++ ['-'] ++ newUUID.take uuidLength
    if isDNS1123Subdomain uniqueName then .ok uniqueName
    else .error ("failed to format a unique RFC 1123 DNS subdomain name with cluster ID " ++
      String.ofList clusterID ++ ", namespace " ++ String.ofList ns ++ ", name " ++
      String.ofList name)
  else if format = DNS1123Label then
    let availableSlots := DNS1123LabelMaxLength
    let slotsPerSeg := (availableSlots - reservedSlots) / 3
    let clusterID := removeDots clusterID
    let name := removeDots name
    let uniqueName := clusterID.take (minInt slotsPerSeg clusterID.length) ++ ['-'] ++
      ns.take (minInt slotsPerSeg ns.length) ++ ['-'] ++
      name.take (minInt slotsPerSeg name.length) ++ ['-'] ++ newUUID.take uuidLength
    if isDNS1123Label uniqueName then .ok uniqueName
    else .error ("failed to format a unique RFC 1123 DNS label name with cluster ID " ++
      String.ofList clusterID ++ ", namespace " ++ String.ofList ns ++ ", name " ++
      String.ofList name)
  else if format = DNS1035Label then
    let availableSlots := DNS1035LabelMaxLength
    let slotsPerSeg := (availableSlots - reservedSlots) / 3
    let clusterID := removeDots clusterID
    let name := removeDots name
    let uniqueName := clusterID.take (minInt slotsPerSeg clusterID.length) ++ ['-'] ++
      ns.take (minInt slotsPerSeg ns.length) ++ ['-'] ++
      name.take (minInt slotsPerSeg name.length) ++ ['-'] ++ newUUID.take uuidLength
    if isDNS1035Label uniqueName then .ok uniqueName
    else .error ("failed to format a unique RFC 1035 DNS label name with cluster ID " ++
      String.ofList clusterID ++ ", namespace " ++ String.ofList ns ++ ", name " ++
      String.ofList name)
  else .error ("not a valid name format: " ++ toString format.toInt)

/-! ## What the preconditions say -/

/-- `[0-9a-f]`, the characters of a UUID string. -/
def isLowerHex (c : Char) : Bool := c.isDigit || ('a' ≤ c && c ≤ 'f')

/-- What is assumed of `uuid.NewUUID()[:5]`: five lowercase hexadecimal characters. -/
def IsUUIDPrefix (u : List Char) : Prop := u.length = uuidLength ∧ u.all isLowerHex = true

/-- An object name in one of the three formats Kubernetes uses. -/
def IsObjectName (w : List Char) : Prop :=
  isDNS1123Subdomain w = true ∨ isDNS1123Label w = true ∨ isDNS1035Label w = true

/-- The validator a format names. -/
def Format.isValid (f : Format) (w : List Char) : Bool :=
  if f = DNS1123Subdomain then isDNS1123Subdomain w
  else if f = DNS1123Label then isDNS1123Label w
  else isDNS1035Label w

/-- The length bound a format names. -/
def Format.maxLength (f : Format) : ℕ := if f = DNS1123Subdomain then 253 else 63

instance (u : List Char) : Decidable (IsUUIDPrefix u) := inferInstanceAs (Decidable (_ ∧ _))

instance (w : List Char) : Decidable (IsObjectName w) := inferInstanceAs (Decidable (_ ∨ _ ∨ _))

@[simp] lemma DNS1123Label_ne_DNS1123Subdomain : DNS1123Label ≠ DNS1123Subdomain := by decide
@[simp] lemma DNS1035Label_ne_DNS1123Subdomain : DNS1035Label ≠ DNS1123Subdomain := by decide
@[simp] lemma DNS1035Label_ne_DNS1123Label : DNS1035Label ≠ DNS1123Label := by decide
@[simp] lemma DNS1123Label_ne_DNS1035Label : DNS1123Label ≠ DNS1035Label := by decide
@[simp] lemma DNS1123Subdomain_ne_DNS1035Label : DNS1123Subdomain ≠ DNS1035Label := by decide

/-! ## Pieces of a name -/

variable {c : Char} {t w ns name newUUID clusterID : List Char}

lemma take_minInt (k : ℕ) (s : List Char) : s.take (minInt k s.length) = s.take k := by
  unfold minInt
  split_ifs with h
  · rfl
  · rw [List.take_of_length_le (by omega), List.take_of_length_le (by omega)]

lemma IsObjectName.subdomain (h : IsObjectName w) : isDNS1123Subdomain w = true := by
  rcases h with h | h | h
  · exact h
  · exact isDNS1123Subdomain_of_isDNS1123Label h
  · exact isDNS1123Subdomain_of_isDNS1123Label (isDNS1123Label_of_isDNS1035Label h)

/-- An accepted name opens with a letter or a digit. -/
lemma exists_cons_alnum {P : Pattern} (h : scan P Scan.start w = Scan.alnum) :
    ∃ c t, w = c :: t ∧ isAlnum c = true := by
  obtain ⟨c, t, rfl⟩ := List.exists_cons_of_ne_nil (ne_nil_of_scan_eq_alnum h)
  exact ⟨c, t, rfl, P.isAlnum_of_leads (leads_of_scan_cons h)⟩

lemma take_cons_alnum {k : ℕ} (hw : w = c :: t) (hk : 0 < k) : ∃ t', w.take k = c :: t' := by
  obtain ⟨k, rfl⟩ := Nat.exists_eq_add_of_lt hk
  exact ⟨t.take (0 + k), by simp [hw]⟩

lemma uuid_scan {d : Bool} (hu : IsUUIDPrefix w) : scan ⟨d, false⟩ Scan.start w = Scan.alnum := by
  have hall : ∀ c ∈ w, isAlnum c = true := by
    intro c hc
    have := List.all_eq_true.mp hu.2 c hc
    simp only [isLowerHex, Bool.or_eq_true, Bool.and_eq_true, decide_eq_true_eq] at this
    simp only [isAlnum, Bool.or_eq_true, Char.isLower, Bool.and_eq_true, decide_eq_true_eq]
    rcases this with h | ⟨h₁, h₂⟩
    · exact Or.inr h
    · left
      constructor <;> [exact le_trans (by decide) h₁; exact le_trans h₂ (by decide)]
  refine scan_start_all_alnum ?_ hall
  intro he
  have := hu.1
  simp [he, uuidLength] at this

lemma uuid_cons (hu : IsUUIDPrefix w) : ∃ c t, w = c :: t ∧ isAlnum c = true :=
  exists_cons_alnum (uuid_scan (d := false) hu)

/-- The label scan of a name with its dots removed accepts. -/
lemma removeDots_scan (h : isDNS1123Subdomain w = true) :
    scan label1123 Scan.start (removeDots w) = Scan.alnum := by
  have hsub := (isDNS1123Subdomain_iff.mp h).2
  have hf := scan_filter_dots (q := Scan.start) (w := w) (by simp [hsub])
  rw [hsub] at hf
  exact hf

/-- A truncated label piece opens with a letter or digit and leaves the scan inside a label. -/
def LabelPiece (x : List Char) : Prop :=
  ∃ c t, x = c :: t ∧ isAlnum c = true ∧
    (scan label1123 Scan.start x = Scan.alnum ∨ scan label1123 Scan.start x = Scan.dash)

lemma LabelPiece.scan (h : LabelPiece w) :
    scan label1123 Scan.start w = Scan.alnum ∨ scan label1123 Scan.start w = Scan.dash := by
  obtain ⟨-, -, -, -, h⟩ := h
  exact h

lemma labelPiece_take {k : ℕ} (h : scan label1123 Scan.start w = Scan.alnum) (hk : 0 < k) :
    LabelPiece (w.take k) := by
  obtain ⟨c, t, hw, hc⟩ := exists_cons_alnum h
  obtain ⟨t', ht'⟩ := take_cons_alnum hw hk
  exact ⟨c, t', ht', hc, Live.alnum_or_dash (live_scan_take h (by simp [hw]) hk)⟩

/-- From inside a label, `-`, a label piece, `-` and the suffix end inside a label. -/
lemma scan_dash_piece_uuid {l : Bool} {q : Scan} {x u : List Char}
    (hq : q = Scan.alnum ∨ q = Scan.dash) (hx : LabelPiece x) (hu : IsUUIDPrefix u) :
    scan ⟨false, l⟩ q ('-' :: (x ++ '-' :: u)) = Scan.alnum := by
  obtain ⟨c, t, rfl, hc, hx⟩ := hx
  obtain ⟨e, s, rfl, he⟩ := uuid_cons hu
  rw [scan_join_dash hq rfl hc, scan_dash_cons hx he]
  exact uuid_scan hu

lemma scan_dash_piece_piece_uuid {l : Bool} {q : Scan} {x y u : List Char}
    (hq : q = Scan.alnum ∨ q = Scan.dash) (hx : LabelPiece x) (hy : LabelPiece y)
    (hu : IsUUIDPrefix u) :
    scan ⟨false, l⟩ q ('-' :: (x ++ '-' :: (y ++ '-' :: u))) = Scan.alnum := by
  obtain ⟨c, t, rfl, hc, hx⟩ := hx
  rw [scan_join_dash hq rfl hc]
  exact scan_dash_piece_uuid hx hy hu

/-- From a live subdomain scan, `-` and the suffix end inside a label unless the scan had
just read a dot. -/
lemma scan_dash_uuid_of_live {q : Scan} {u : List Char} (hq : q.Live) (hu : IsUUIDPrefix u) :
    scan subdomain1123 q ('-' :: u) = Scan.alnum ↔ q ≠ Scan.dot := by
  obtain ⟨e, s, rfl, he⟩ := uuid_cons hu
  rcases hq with rfl | rfl | rfl
  · rw [scan_dash_cons (Or.inl rfl) he, uuid_scan hu]
    simp
  · rw [scan_dash_cons (Or.inr rfl) he, uuid_scan hu]
    simp
  · simp

/-- From inside a label, `-`, a piece of a valid subdomain, `-` and the suffix: the subdomain
scan accepts exactly when the piece does not end with a dot. -/
lemma scan_dash_subdomain_uuid {q : Scan} {u : List Char} {k : ℕ}
    (hq : q = Scan.alnum ∨ q = Scan.dash) (hw : isDNS1123Subdomain w = true) (hk : 0 < k)
    (hu : IsUUIDPrefix u) :
    scan subdomain1123 q ('-' :: (w.take k ++ '-' :: u)) = Scan.alnum ↔
      (w.take k).getLast? ≠ some '.' := by
  have hsub := (isDNS1123Subdomain_iff.mp hw).2
  obtain ⟨c, t, hwct, hc⟩ := exists_cons_alnum hsub
  obtain ⟨t', ht'⟩ := take_cons_alnum hwct hk
  have hlive := live_scan_take hsub (by simp [hwct]) hk
  rw [scan_join_dash hq ht' hc, scan_dash_uuid_of_live hlive hu, ne_eq, ne_eq,
    scan_eq_dot_iff (by simp [ht']) hlive.ne_reject]

lemma dash_assoc (a b u : List Char) :
    a ++ ['-'] ++ b ++ ['-'] ++ u = a ++ '-' :: (b ++ '-' :: u) := by
  simp

/-- The namespace of an RFC 1035 name: `ns` goes in front of a leading digit, so it opens with a
letter and is still read as an RFC 1123 label. -/
lemma ns1035_cons (hns : isDNS1123Label ns = true) :
    ∃ c r, (if startsWithNumericCharacter ns = true then "ns".toList ++ ns else ns) = c :: r ∧
      c.isLower = true ∧ scan label1123 Scan.start (c :: r) = Scan.alnum := by
  have hscan := (isDNS1123Label_iff.mp hns).2
  obtain ⟨d, r, rfl, hd⟩ := exists_cons_alnum hscan
  by_cases hdig : d.isDigit = true
  · refine ⟨'n', 's' :: d :: r, by simp [startsWithNumericCharacter, hdig], by decide, ?_⟩
    have hns : scan label1123 Scan.start ('n' :: 's' :: d :: r) =
        scan label1123 Scan.alnum (d :: r) := rfl
    rw [hns, scan_live_cons (Or.inl rfl) hd, ← scan_start_cons (by simpa [Pattern.leads] using hd),
      hscan]
  · refine ⟨d, r, by simp [startsWithNumericCharacter, hdig], ?_, hscan⟩
    simpa [isAlnum, hdig] using hd

/-! ## `ClusterScopedUniqueName` -/

/-- The name the documentation describes for `ClusterScopedUniqueName`, `prefix(ns')-prefix(name')-uuid`,
each prefix cut to the format's share of the length budget. -/
def clusterScopedForm (f : Format) (ns name newUUID : List Char) : List Char :=
  if f = DNS1123Subdomain then
    ns.take 123 ++ ['-'] ++ name.take 123 ++ ['-'] ++ newUUID.take uuidLength
  else
    let ns := if f = DNS1035Label ∧ startsWithNumericCharacter ns = true then "ns".toList ++ ns
      else ns
    ns.take 28 ++ ['-'] ++ (removeDots name).take 28 ++ ['-'] ++ newUUID.take uuidLength

section ClusterScoped

variable (hns : isDNS1123Label ns = true) (hname : IsObjectName name)
  (hu : IsUUIDPrefix (newUUID.take uuidLength))
include hns hname hu

/-- The subdomain name is valid unless the truncated object name ends with a dot. -/
lemma clusterScoped_subdomain_valid_iff :
    isDNS1123Subdomain (ns.take 123 ++ ['-'] ++ name.take 123 ++ ['-'] ++
      newUUID.take uuidLength) = true ↔ (name.take 123).getLast? ≠ some '.' := by
  have hns' := isDNS1123Label_iff.mp hns
  have hlen : (ns.take 123 ++ ['-'] ++ name.take 123 ++ ['-'] ++
      newUUID.take uuidLength).length ≤ 253 := by
    simp only [List.length_append, List.length_take, List.length_singleton, uuidLength]
    omega
  have hnsscan : scan subdomain1123 Scan.start (ns.take 123) = Scan.alnum := by
    rw [List.take_of_length_le (by omega), ← hns'.2]
    exact scan_dots_eq (by simp [hns'.2])
  rw [isDNS1123Subdomain_iff, and_iff_right hlen, dash_assoc, scan_append, hnsscan]
  exact scan_dash_subdomain_uuid (Or.inl rfl) hname.subdomain (by norm_num) hu

/-- The RFC 1123 label name is always valid. -/
lemma clusterScoped_label_valid :
    isDNS1123Label (ns.take 28 ++ ['-'] ++ (removeDots name).take 28 ++ ['-'] ++
      newUUID.take uuidLength) = true := by
  rw [isDNS1123Label_iff, dash_assoc, scan_append]
  refine ⟨?_, scan_dash_piece_uuid (labelPiece_take (isDNS1123Label_iff.mp hns).2 (by norm_num)).scan
    (labelPiece_take (removeDots_scan hname.subdomain) (by norm_num)) hu⟩
  simp only [List.length_append, List.length_take, List.length_cons, uuidLength]
  omega

/-- The RFC 1035 label name is always valid: the `ns` guard covers a leading digit. -/
lemma clusterScoped_1035_valid :
    isDNS1035Label
      ((if startsWithNumericCharacter ns = true then "ns".toList ++ ns else ns).take 28 ++ ['-'] ++
        (removeDots name).take 28 ++ ['-'] ++ newUUID.take uuidLength) = true := by
  obtain ⟨c, r, hcr, hc, hscan⟩ := ns1035_cons hns
  rw [hcr, isDNS1035Label_iff, dash_assoc]
  have htake : (c :: r).take 28 = c :: r.take 27 := rfl
  refine ⟨?_, ?_⟩
  · simp only [List.length_append, List.length_take, List.length_cons, uuidLength]
    omega
  · rw [htake, List.cons_append, scan_label1035_eq hc, ← List.cons_append, ← htake, scan_append]
    exact scan_dash_piece_uuid (labelPiece_take hscan (by norm_num)).scan
      (labelPiece_take (removeDots_scan hname.subdomain) (by norm_num)) hu

/-- The three names can each be cut at a dot only in the subdomain format. -/
lemma clusterScopedForm_valid (hf : f = DNS1123Subdomain ∨ f = DNS1123Label ∨ f = DNS1035Label)
    (hdot : f = DNS1123Subdomain → (name.take 123).getLast? ≠ some '.') :
    f.isValid (clusterScopedForm f ns name newUUID) = true := by
  rcases hf with rfl | rfl | rfl
  · simpa [Format.isValid, clusterScopedForm] using
      (clusterScoped_subdomain_valid_iff hns hname hu).mpr (hdot rfl)
  · simpa [Format.isValid, clusterScopedForm] using clusterScoped_label_valid hns hname hu
  · simpa [Format.isValid, clusterScopedForm] using clusterScoped_1035_valid hns hname hu

end ClusterScoped

/-- On the three formats `ClusterScopedUniqueName` returns the documented name exactly when the
format's validator accepts it. -/
lemma clusterScopedUniqueName_eq (ns name newUUID : List Char)
    (hf : f = DNS1123Subdomain ∨ f = DNS1123Label ∨ f = DNS1035Label) :
    ∃ msg, ClusterScopedUniqueName f ns name newUUID =
      if f.isValid (clusterScopedForm f ns name newUUID) then
        .ok (clusterScopedForm f ns name newUUID) else .error msg := by
  rcases hf with rfl | rfl | rfl
  -- each case picks its branch of the source; the error text is whatever that branch builds
  all_goals
    constructor
    simp only [ClusterScopedUniqueName, clusterScopedForm, Format.isValid, take_minInt,
      DNS1123Label_ne_DNS1123Subdomain, DNS1035Label_ne_DNS1123Subdomain,
      DNS1035Label_ne_DNS1123Label, DNS1123Label_ne_DNS1035Label, DNS1123SubdomainMaxLength, DNS1123LabelMaxLength,
      DNS1035LabelMaxLength, uuidLength, true_and, if_true, if_false,
      Nat.reduceAdd, Nat.reduceSub, Nat.reduceDiv]
    rfl

lemma clusterScopedForm_length (hf : f = DNS1123Subdomain ∨ f = DNS1123Label ∨ f = DNS1035Label) :
    (clusterScopedForm f ns name newUUID).length ≤ f.maxLength := by
  rcases hf with rfl | rfl | rfl <;>
  · simp only [clusterScopedForm, Format.maxLength, DNS1123Label_ne_DNS1123Subdomain,
      DNS1035Label_ne_DNS1123Subdomain, if_true, if_false, List.length_append, List.length_take,
      List.length_singleton, uuidLength]
    omega

/-- **`ClusterScopedUniqueName` is correct** on the documented preconditions, once the subdomain
name is not cut right after a dot: it returns the documented name, which is valid in the format
and within its length bound. -/
theorem clusterScopedUniqueName_ok
    (hf : f = DNS1123Subdomain ∨ f = DNS1123Label ∨ f = DNS1035Label)
    (hns : isDNS1123Label ns = true) (hname : IsObjectName name)
    (hu : IsUUIDPrefix (newUUID.take uuidLength))
    (hdot : f = DNS1123Subdomain → (name.take 123).getLast? ≠ some '.') :
    ClusterScopedUniqueName f ns name newUUID = .ok (clusterScopedForm f ns name newUUID) ∧
      f.isValid (clusterScopedForm f ns name newUUID) = true ∧
      (clusterScopedForm f ns name newUUID).length ≤ f.maxLength := by
  have hvalid := clusterScopedForm_valid hns hname hu hf hdot
  obtain ⟨msg, heq⟩ := clusterScopedUniqueName_eq ns name newUUID hf
  exact ⟨by rw [heq, if_pos hvalid], hvalid, clusterScopedForm_length hf⟩

theorem clusterScopedUniqueName_ok_digit_namespace :
    (DNS1035Label = DNS1123Subdomain ∨ DNS1035Label = DNS1123Label ∨
        DNS1035Label = DNS1035Label) ∧
      isDNS1123Label ['1', 'a'] = true ∧ IsObjectName ['a', '.', 'b'] ∧
      IsUUIDPrefix (['a', 'b', 'c', 'd', 'e'].take uuidLength) ∧
      (DNS1035Label = DNS1123Subdomain → (['a', '.', 'b'].take 123).getLast? ≠ some '.') ∧
      (ClusterScopedUniqueName DNS1035Label ['1', 'a'] ['a', '.', 'b'] ['a', 'b', 'c', 'd', 'e'] =
          .ok (clusterScopedForm DNS1035Label ['1', 'a'] ['a', '.', 'b'] ['a', 'b', 'c', 'd', 'e']) ∧
        DNS1035Label.isValid
          (clusterScopedForm DNS1035Label ['1', 'a'] ['a', '.', 'b'] ['a', 'b', 'c', 'd', 'e']) = true ∧
        (clusterScopedForm DNS1035Label ['1', 'a'] ['a', '.', 'b']
          ['a', 'b', 'c', 'd', 'e']).length ≤ DNS1035Label.maxLength) :=
  ⟨by decide, by decide, by decide, by decide, by decide,
    clusterScopedUniqueName_ok (by decide) (by decide) (by decide) (by decide) (by decide)⟩

/-- A subdomain name cut right after a dot fails the check. -/
lemma clusterScopedUniqueName_subdomain_error (hns : isDNS1123Label ns = true)
    (hname : IsObjectName name) (hu : IsUUIDPrefix (newUUID.take uuidLength))
    (hdot : (name.take 123).getLast? = some '.') :
    ∃ msg, ClusterScopedUniqueName DNS1123Subdomain ns name newUUID = .error msg := by
  obtain ⟨msg, heq⟩ :=
    clusterScopedUniqueName_eq ns name newUUID (Or.inl rfl)
  have hinvalid : ¬ DNS1123Subdomain.isValid
      (clusterScopedForm DNS1123Subdomain ns name newUUID) = true := by
    simpa [Format.isValid, clusterScopedForm, hdot] using
      (clusterScoped_subdomain_valid_iff hns hname hu).not
  exact ⟨msg, by rw [heq, if_neg hinvalid]⟩

/-- The namespace `work` and a name of two short labels whose 123rd character is a dot: every
precondition holds and the call fails. -/
theorem clusterScopedUniqueName_dot_at_cut :
    isDNS1123Label ['w', 'o', 'r', 'k'] = true ∧
      IsObjectName (List.replicate 61 'a' ++ '.' :: List.replicate 60 'b' ++ ['.', 'c']) ∧
      IsUUIDPrefix (['a', 'b', 'c', 'd', 'e'].take uuidLength) ∧
      ∃ msg, ClusterScopedUniqueName DNS1123Subdomain ['w', 'o', 'r', 'k']
        (List.replicate 61 'a' ++ '.' :: List.replicate 60 'b' ++ ['.', 'c'])
        ['a', 'b', 'c', 'd', 'e'] = .error msg := by
  have hns : isDNS1123Label ['w', 'o', 'r', 'k'] = true := by decide
  have hname : IsObjectName (List.replicate 61 'a' ++ '.' :: List.replicate 60 'b' ++ ['.', 'c']) :=
    Or.inl (by decide +kernel)
  have hu : IsUUIDPrefix (['a', 'b', 'c', 'd', 'e'].take uuidLength) := by decide
  exact ⟨hns, hname, hu, clusterScopedUniqueName_subdomain_error hns hname hu (by decide +kernel)⟩

/-! ## `FleetScopedUniqueName` -/

/-- The name the documentation describes for `FleetScopedUniqueName`,
`prefix(clusterID')-prefix(ns)-prefix(name')-uuid`. -/
def fleetScopedForm (f : Format) (clusterID ns name newUUID : List Char) : List Char :=
  if f = DNS1123Subdomain then
    clusterID.take 81 ++ ['-'] ++ ns.take 81 ++ ['-'] ++ name.take 81 ++ ['-'] ++
      newUUID.take uuidLength
  else
    (removeDots clusterID).take 18 ++ ['-'] ++ ns.take 18 ++ ['-'] ++ (removeDots name).take 18 ++
      ['-'] ++ newUUID.take uuidLength

lemma dash_assoc_three (a b c u : List Char) :
    a ++ ['-'] ++ b ++ ['-'] ++ c ++ ['-'] ++ u = a ++ '-' :: (b ++ '-' :: (c ++ '-' :: u)) := by
  simp

/-- From inside a label, `-` and a label piece leave the subdomain scan where the label scan of
the piece alone ends. -/
lemma scan_dash_label_piece {q : Scan} {x y : List Char} (hq : q = Scan.alnum ∨ q = Scan.dash)
    (hx : LabelPiece x) :
    scan subdomain1123 q ('-' :: (x ++ y)) = scan subdomain1123 (scan label1123 Scan.start x) y := by
  obtain ⟨c, t, rfl, hc, hs⟩ := hx
  rw [scan_join_dash hq rfl hc, scan_dots_eq (q := Scan.start) (w := c :: t)]
  rcases hs with h | h <;> simp [h]

/-- `removeDots` keeps the first character of a name, a letter or digit. -/
lemma removeDots_cons (hc : isAlnum c = true) : removeDots (c :: t) = c :: removeDots t := by
  have hne : c ≠ '.' := by
    rintro rfl
    simp [dot_not_alnum] at hc
  simp [removeDots, hne]

section FleetScoped

variable (hcid : isDNS1123Subdomain clusterID = true) (hns : isDNS1123Label ns = true)
  (hname : IsObjectName name) (hu : IsUUIDPrefix (newUUID.take uuidLength))
include hcid hns hname hu

/-- The subdomain name is valid unless the truncated cluster ID or object name ends with a dot. -/
lemma fleetScoped_subdomain_valid_iff :
    isDNS1123Subdomain (clusterID.take 81 ++ ['-'] ++ ns.take 81 ++ ['-'] ++ name.take 81 ++
      ['-'] ++ newUUID.take uuidLength) = true ↔
      (clusterID.take 81).getLast? ≠ some '.' ∧ (name.take 81).getLast? ≠ some '.' := by
  have hcs := (isDNS1123Subdomain_iff.mp hcid).2
  have hlen : (clusterID.take 81 ++ ['-'] ++ ns.take 81 ++ ['-'] ++ name.take 81 ++ ['-'] ++
      newUUID.take uuidLength).length ≤ 253 := by
    simp only [List.length_append, List.length_take, List.length_singleton, uuidLength]
    omega
  have hlive := live_scan_take hcs (ne_nil_of_scan_eq_alnum hcs) (k := 81) (by norm_num)
  have hpiece := labelPiece_take (isDNS1123Label_iff.mp hns).2 (k := 81) (by norm_num)
  -- the cut cluster ID ends with a dot exactly when its scan stops on one
  have hcut : scan subdomain1123 Scan.start (clusterID.take 81) = Scan.dot ↔
      (clusterID.take 81).getLast? = some '.' :=
    scan_eq_dot_iff (by simpa [List.take_eq_nil_iff] using ne_nil_of_scan_eq_alnum hcs)
      hlive.ne_reject
  rw [isDNS1123Subdomain_iff, and_iff_right hlen, dash_assoc_three, scan_append]
  by_cases hdot : scan subdomain1123 Scan.start (clusterID.take 81) = Scan.dot
  · rw [hdot, scan_dot_dash]
    simp [hcut.mp hdot]
  · have hq : scan subdomain1123 Scan.start (clusterID.take 81) = Scan.alnum ∨
        scan subdomain1123 Scan.start (clusterID.take 81) = Scan.dash := by
      rcases hlive with h | h | h
      exacts [Or.inl h, Or.inr h, absurd h hdot]
    rw [scan_dash_label_piece hq hpiece,
      scan_dash_subdomain_uuid hpiece.scan hname.subdomain (by norm_num) hu]
    simp [← hcut, hdot]

/-- The RFC 1123 label name is always valid. -/
lemma fleetScoped_label_valid :
    isDNS1123Label ((removeDots clusterID).take 18 ++ ['-'] ++ ns.take 18 ++ ['-'] ++
      (removeDots name).take 18 ++ ['-'] ++ newUUID.take uuidLength) = true := by
  rw [isDNS1123Label_iff, dash_assoc_three, scan_append]
  refine ⟨?_, scan_dash_piece_piece_uuid
    (labelPiece_take (removeDots_scan hcid) (by norm_num)).scan
    (labelPiece_take (isDNS1123Label_iff.mp hns).2 (by norm_num))
    (labelPiece_take (removeDots_scan hname.subdomain) (by norm_num)) hu⟩
  simp only [List.length_append, List.length_take, List.length_cons, uuidLength]
  omega

/-- The RFC 1035 label name is valid exactly when the cluster ID opens with a letter: unlike the
cluster-scoped namespace, a leading digit gets no prefix. -/
lemma fleetScoped_1035_valid_iff :
    isDNS1035Label ((removeDots clusterID).take 18 ++ ['-'] ++ ns.take 18 ++ ['-'] ++
      (removeDots name).take 18 ++ ['-'] ++ newUUID.take uuidLength) = true ↔
      startsWithNumericCharacter clusterID = false := by
  have hlabel := fleetScoped_label_valid hcid hns hname hu
  obtain ⟨e, s, rfl, he⟩ := exists_cons_alnum (isDNS1123Subdomain_iff.mp hcid).2
  have htake : (e :: removeDots s).take 18 = e :: (removeDots s).take 17 := rfl
  simp only [removeDots_cons he, htake, List.cons_append] at hlabel ⊢
  rw [isDNS1035Label_cons_iff, and_iff_left hlabel, startsWithNumericCharacter]
  exact isLower_iff_not_isDigit he

/-- Each failure of the check has its own cause: a dot at a cut in the subdomain format, a
leading digit in the RFC 1035 format. -/
lemma fleetScopedForm_valid_iff (hf : f = DNS1123Subdomain ∨ f = DNS1123Label ∨ f = DNS1035Label) :
    f.isValid (fleetScopedForm f clusterID ns name newUUID) = true ↔
      (f = DNS1123Subdomain →
        (clusterID.take 81).getLast? ≠ some '.' ∧ (name.take 81).getLast? ≠ some '.') ∧
      (f = DNS1035Label → startsWithNumericCharacter clusterID = false) := by
  rcases hf with rfl | rfl | rfl
  · simpa [Format.isValid, fleetScopedForm] using
      fleetScoped_subdomain_valid_iff hcid hns hname hu
  · simpa [Format.isValid, fleetScopedForm] using fleetScoped_label_valid hcid hns hname hu
  · simpa [Format.isValid, fleetScopedForm] using fleetScoped_1035_valid_iff hcid hns hname hu

end FleetScoped

/-- On the three formats `FleetScopedUniqueName` returns the documented name exactly when the
format's validator accepts it. -/
lemma fleetScopedUniqueName_eq (clusterID ns name newUUID : List Char)
    (hf : f = DNS1123Subdomain ∨ f = DNS1123Label ∨ f = DNS1035Label) :
    ∃ msg, FleetScopedUniqueName f clusterID ns name newUUID =
      if f.isValid (fleetScopedForm f clusterID ns name newUUID) then
        .ok (fleetScopedForm f clusterID ns name newUUID) else .error msg := by
  rcases hf with rfl | rfl | rfl
  all_goals
    constructor
    simp only [FleetScopedUniqueName, fleetScopedForm, Format.isValid, take_minInt,
      DNS1123Label_ne_DNS1123Subdomain, DNS1035Label_ne_DNS1123Subdomain,
      DNS1035Label_ne_DNS1123Label, DNS1123SubdomainMaxLength, DNS1123LabelMaxLength,
      DNS1035LabelMaxLength, uuidLength, if_true, if_false, Nat.reduceAdd, Nat.reduceSub,
      Nat.reduceDiv]
    rfl

lemma fleetScopedForm_length (hf : f = DNS1123Subdomain ∨ f = DNS1123Label ∨ f = DNS1035Label) :
    (fleetScopedForm f clusterID ns name newUUID).length ≤ f.maxLength := by
  rcases hf with rfl | rfl | rfl <;>
  · simp only [fleetScopedForm, Format.maxLength, DNS1123Label_ne_DNS1123Subdomain,
      DNS1035Label_ne_DNS1123Subdomain, if_true, if_false, List.length_append, List.length_take,
      List.length_singleton, uuidLength]
    omega

/-- **`FleetScopedUniqueName` is correct** on the documented preconditions, once the subdomain
name is not cut right after a dot and the RFC 1035 name does not open with a digit: it returns
the documented name, which is valid in the format and within its length bound. -/
theorem fleetScopedUniqueName_ok
    (hf : f = DNS1123Subdomain ∨ f = DNS1123Label ∨ f = DNS1035Label)
    (hcid : isDNS1123Subdomain clusterID = true) (hns : isDNS1123Label ns = true)
    (hname : IsObjectName name) (hu : IsUUIDPrefix (newUUID.take uuidLength))
    (hdot : f = DNS1123Subdomain →
      (clusterID.take 81).getLast? ≠ some '.' ∧ (name.take 81).getLast? ≠ some '.')
    (hdigit : f = DNS1035Label → startsWithNumericCharacter clusterID = false) :
    FleetScopedUniqueName f clusterID ns name newUUID =
        .ok (fleetScopedForm f clusterID ns name newUUID) ∧
      f.isValid (fleetScopedForm f clusterID ns name newUUID) = true ∧
      (fleetScopedForm f clusterID ns name newUUID).length ≤ f.maxLength := by
  have hvalid := (fleetScopedForm_valid_iff hcid hns hname hu hf).mpr ⟨hdot, hdigit⟩
  obtain ⟨msg, heq⟩ := fleetScopedUniqueName_eq clusterID ns name newUUID hf
  exact ⟨by rw [heq, if_pos hvalid], hvalid, fleetScopedForm_length hf⟩

theorem fleetScopedUniqueName_ok_member_work_app :
    (DNS1123Subdomain = DNS1123Subdomain ∨ DNS1123Subdomain = DNS1123Label ∨
        DNS1123Subdomain = DNS1035Label) ∧
      isDNS1123Subdomain ['m', '.', 'x'] = true ∧ isDNS1123Label ['w', 'o', 'r', 'k'] = true ∧
      IsObjectName ['a', 'p', 'p'] ∧ IsUUIDPrefix (['a', 'b', 'c', 'd', 'e'].take uuidLength) ∧
      (DNS1123Subdomain = DNS1123Subdomain →
        (['m', '.', 'x'].take 81).getLast? ≠ some '.' ∧
          (['a', 'p', 'p'].take 81).getLast? ≠ some '.') ∧
      (DNS1123Subdomain = DNS1035Label → startsWithNumericCharacter ['m', '.', 'x'] = false) ∧
      (FleetScopedUniqueName DNS1123Subdomain ['m', '.', 'x'] ['w', 'o', 'r', 'k'] ['a', 'p', 'p']
          ['a', 'b', 'c', 'd', 'e'] =
        .ok (fleetScopedForm DNS1123Subdomain ['m', '.', 'x'] ['w', 'o', 'r', 'k']
          ['a', 'p', 'p'] ['a', 'b', 'c', 'd', 'e']) ∧
        DNS1123Subdomain.isValid (fleetScopedForm DNS1123Subdomain ['m', '.', 'x']
          ['w', 'o', 'r', 'k'] ['a', 'p', 'p'] ['a', 'b', 'c', 'd', 'e']) = true ∧
        (fleetScopedForm DNS1123Subdomain ['m', '.', 'x'] ['w', 'o', 'r', 'k'] ['a', 'p', 'p']
          ['a', 'b', 'c', 'd', 'e']).length ≤ DNS1123Subdomain.maxLength) :=
  ⟨by decide, by decide, by decide, by decide, by decide, by decide, by decide,
    fleetScopedUniqueName_ok (by decide) (by decide) (by decide) (by decide) (by decide)
      (by decide) (by decide)⟩

/-- Where a cause of `fleetScopedForm_valid_iff` holds, the call fails. -/
lemma fleetScopedUniqueName_error (hf : f = DNS1123Subdomain ∨ f = DNS1123Label ∨ f = DNS1035Label)
    (hcid : isDNS1123Subdomain clusterID = true) (hns : isDNS1123Label ns = true)
    (hname : IsObjectName name) (hu : IsUUIDPrefix (newUUID.take uuidLength))
    (hbad : ¬ ((f = DNS1123Subdomain →
        (clusterID.take 81).getLast? ≠ some '.' ∧ (name.take 81).getLast? ≠ some '.') ∧
      (f = DNS1035Label → startsWithNumericCharacter clusterID = false))) :
    ∃ msg, FleetScopedUniqueName f clusterID ns name newUUID = .error msg := by
  obtain ⟨msg, heq⟩ := fleetScopedUniqueName_eq clusterID ns name newUUID hf
  have hinvalid := (fleetScopedForm_valid_iff hcid hns hname hu hf).not.mpr hbad
  exact ⟨msg, by rw [heq, if_neg hinvalid]⟩

/-- Two failing inputs that meet every documented precondition: the RFC 1035 name of an object
from a cluster whose ID opens with a digit, and the subdomain name of a cluster ID of two short
labels whose 81st character is a dot. -/
theorem fleetScopedUniqueName_fails_on_valid_inputs :
    (isDNS1123Subdomain ['1', 'a'] = true ∧
      ∃ msg, FleetScopedUniqueName DNS1035Label ['1', 'a'] ['w', 'o', 'r', 'k'] ['a', 'p', 'p']
        ['a', 'b', 'c', 'd', 'e'] = .error msg) ∧
    (isDNS1123Subdomain (List.replicate 40 'a' ++ '.' :: List.replicate 39 'b' ++ ['.', 'c']) = true ∧
      ∃ msg, FleetScopedUniqueName DNS1123Subdomain
        (List.replicate 40 'a' ++ '.' :: List.replicate 39 'b' ++ ['.', 'c'])
        ['w', 'o', 'r', 'k'] ['a', 'p', 'p'] ['a', 'b', 'c', 'd', 'e'] = .error msg) := by
  have hns : isDNS1123Label ['w', 'o', 'r', 'k'] = true := by decide
  have hname : IsObjectName ['a', 'p', 'p'] := by decide
  have hu : IsUUIDPrefix (['a', 'b', 'c', 'd', 'e'].take uuidLength) := by decide
  have hdigit : isDNS1123Subdomain ['1', 'a'] = true := by decide
  have hdot : isDNS1123Subdomain
      (List.replicate 40 'a' ++ '.' :: List.replicate 39 'b' ++ ['.', 'c']) = true := by
    decide +kernel
  refine ⟨⟨hdigit, fleetScopedUniqueName_error (by decide) hdigit hns hname hu ?_⟩,
    ⟨hdot, fleetScopedUniqueName_error (by decide) hdot hns hname hu ?_⟩⟩
  · rintro ⟨-, h1035⟩
    exact absurd (h1035 rfl) (by decide)
  · rintro ⟨hsub, -⟩
    exact (hsub rfl).1 (by decide +kernel)

end FleetNet
