import Mathlib

/-!
# DNS name formats as one scanning automaton

Kubernetes validates object names against three regular languages, each with a length bound:

* an RFC 1123 label, `[a-z0-9]([-a-z0-9]*[a-z0-9])?`, at most 63 characters;
* an RFC 1123 subdomain, RFC 1123 labels joined by `.`, at most 253 characters;
* an RFC 1035 label, `[a-z]([-a-z0-9]*[a-z0-9])?`, at most 63 characters.

All three are recognised by one five-state automaton, `Scan.next`, with two switches collected in
a `Pattern`: whether a dot may separate labels, and whether the first character must be a
letter.  A word is accepted when the scan ends in `Scan.alnum`, inside a label whose last
character is a letter or a digit.

Deciding whether a concatenation is accepted then amounts to following the state across the
pieces (`scan_append`).  The lemmas below are what such arguments use:

* a nonempty prefix of an accepted word leaves the scan *live* (`live_scan_prefix`);
* a live scan sits in the state named by the last character it read (`scan_concat_eq_ofChar`);
* from any live state, a word that opens with a letter or a digit is read as if from the
  start of a label (`scan_live_cons`);
* deleting the dots of an accepted subdomain leaves an accepted label pattern
  (`scan_filter_dots`), and the switches only matter where they are used
  (`scan_dots_eq`, `scan_letterFirst_eq`).
-/

namespace Dns

/-- `[a-z0-9]`. -/
def isAlnum (c : Char) : Bool := c.isLower || c.isDigit

lemma dash_not_alnum : isAlnum '-' = false := by decide

lemma dot_not_alnum : isAlnum '.' = false := by decide

/-- A letter or digit is a letter exactly when it is not a digit. -/
lemma isLower_iff_not_isDigit {c : Char} (hc : isAlnum c = true) :
    c.isLower = true ↔ c.isDigit = false := by
  have hlower : c.isLower = true ↔ 97 ≤ c.toNat ∧ c.toNat ≤ 122 := by
    simp [Char.isLower, UInt32.le_iff_toNat_le, ← Char.toNat_val]
  have hdigit : c.isDigit = true ↔ 48 ≤ c.toNat ∧ c.toNat ≤ 57 := by
    simp [Char.isDigit, UInt32.le_iff_toNat_le, ← Char.toNat_val]
  simp only [isAlnum, Bool.or_eq_true] at hc
  rw [← Bool.not_eq_true, hdigit, hlower]
  rcases hc with h | h
  · have := hlower.mp h
    omega
  · have := hdigit.mp h
    omega

/-- The states of the scan. -/
inductive Scan where
  /-- nothing has been read -/
  | start
  /-- inside a label, and the last character read is in `[a-z0-9]` -/
  | alnum
  /-- inside a label, and the last character read is `-` -/
  | dash
  /-- a `.` was just read, so a new label must begin -/
  | dot
  /-- what was read is a prefix of no accepted word -/
  | reject
  deriving DecidableEq, Repr

/-- The two switches that tell the three formats apart. -/
structure Pattern where
  /-- a `.` may separate labels -/
  dots : Bool
  /-- the first character must be a letter, not a digit -/
  letterFirst : Bool
  deriving DecidableEq, Repr

/-- RFC 1123 subdomain: labels joined by dots. -/
abbrev subdomain1123 : Pattern := ⟨true, false⟩

/-- RFC 1123 label. -/
abbrev label1123 : Pattern := ⟨false, false⟩

/-- RFC 1035 label: an RFC 1123 label that opens with a letter. -/
abbrev label1035 : Pattern := ⟨false, true⟩

/-- The characters that may open a name of pattern `P`. -/
def Pattern.leads (P : Pattern) (c : Char) : Bool := if P.letterFirst then c.isLower else isAlnum c

lemma Pattern.isAlnum_of_leads {P : Pattern} {c : Char} (h : P.leads c = true) :
    isAlnum c = true := by
  unfold Pattern.leads at h
  split at h
  · simp [isAlnum, h]
  · exact h

namespace Scan

/-- One character of the scan. -/
def next (P : Pattern) : Scan → Char → Scan
  | start, c => if P.leads c then alnum else reject
  | alnum, c =>
      if isAlnum c then alnum
      else if c = '-' then dash
      else if P.dots && c = '.' then dot
      else reject
  | dash, c => if isAlnum c then alnum else if c = '-' then dash else reject
  | dot, c => if isAlnum c then alnum else reject
  | reject, _ => reject

/-- A scan is live when it has read something and has not rejected. -/
def Live (q : Scan) : Prop := q = alnum ∨ q = dash ∨ q = dot

instance (q : Scan) : Decidable q.Live := inferInstanceAs (Decidable (_ ∨ _ ∨ _))

/-- The state a live scan is in right after reading `c`. -/
def ofChar (c : Char) : Scan := if c = '-' then dash else if c = '.' then dot else alnum

lemma live_of_ne {q : Scan} (h₁ : q ≠ start) (h₂ : q ≠ reject) : q.Live := by
  cases q <;> simp_all [Live]

lemma Live.ne_reject {q : Scan} (h : q.Live) : q ≠ reject := by
  rcases h with rfl | rfl | rfl <;> simp

lemma next_ne_start (P : Pattern) (q : Scan) (c : Char) : next P q c ≠ start := by
  cases q <;> simp only [next] <;> (try split_ifs) <;> simp

@[simp] lemma next_reject (P : Pattern) (c : Char) : next P reject c = reject := rfl

/-- Reading a letter or digit from a live state lands inside a label. -/
lemma next_live_alnum {P : Pattern} {q : Scan} {c : Char} (hq : q.Live) (hc : isAlnum c = true) :
    next P q c = alnum := by
  rcases hq with rfl | rfl | rfl <;> simp [next, hc]

lemma next_start_leads {P : Pattern} {c : Char} (hc : P.leads c = true) : next P start c = alnum := by
  simp [next, hc]

/-- A dash from a live state other than `dot` stays live, in `dash`. -/
lemma next_dash {P : Pattern} {q : Scan} (hq : q = alnum ∨ q = dash) : next P q '-' = dash := by
  rcases hq with rfl | rfl <;> simp [next, dash_not_alnum]

@[simp] lemma next_dot_dash (P : Pattern) : next P dot '-' = reject := by
  simp [next, dash_not_alnum]

/-- Whatever was read before, a step that does not reject lands in the state of its character. -/
lemma next_eq_ofChar {P : Pattern} {q : Scan} {c : Char} (h : next P q c ≠ reject) :
    next P q c = ofChar c := by
  have hdash : c = '-' → isAlnum c = false := fun hc => hc ▸ dash_not_alnum
  have hdot : c = '.' → isAlnum c = false := fun hc => hc ▸ dot_not_alnum
  cases q with
  | start =>
      simp only [next] at h ⊢
      split_ifs at h ⊢ with hl
      · have := P.isAlnum_of_leads hl
        simp only [ofChar]
        split_ifs <;> simp_all
      · exact absurd rfl h
  | reject => exact absurd rfl h
  | _ =>
      simp only [next, ofChar] at h ⊢
      split_ifs at h ⊢ <;> simp_all

lemma ofChar_eq_dot_iff (c : Char) : ofChar c = dot ↔ c = '.' := by
  unfold ofChar
  split_ifs with h₁ h₂ <;> simp_all

end Scan

open Scan

/-- Scan a whole word from state `q`. -/
def scan (P : Pattern) (q : Scan) (w : List Char) : Scan := w.foldl (next P) q

variable {P : Pattern} {q : Scan} {c : Char} {u v w : List Char}

@[simp] lemma scan_nil : scan P q [] = q := rfl

@[simp] lemma scan_cons : scan P q (c :: w) = scan P (next P q c) w := rfl

lemma scan_append : scan P q (u ++ v) = scan P (scan P q u) v := List.foldl_append

lemma scan_concat : scan P q (u ++ [c]) = next P (scan P q u) c := by
  rw [scan_append, scan_cons, scan_nil]

@[simp] lemma scan_reject : scan P reject w = reject := by
  induction w with
  | nil => rfl
  | cons c w ih => exact ih

lemma scan_ne_start (hw : w ≠ []) : scan P q w ≠ start := by
  obtain ⟨u, c, rfl⟩ := (List.eq_nil_or_concat' w).resolve_left hw
  rw [scan_concat]
  exact next_ne_start _ _ _

/-- Rejection is final, so a word that is not rejected has no rejected prefix. -/
lemma scan_ne_reject_of_append (h : scan P q (u ++ v) ≠ reject) : scan P q u ≠ reject := by
  intro hu
  rw [scan_append, hu, scan_reject] at h
  exact h rfl

/-- **A nonempty prefix of an accepted word leaves the scan live.** -/
lemma live_scan_prefix (hacc : scan P q (u ++ v) = alnum) (hu : u ≠ []) : (scan P q u).Live :=
  live_of_ne (scan_ne_start hu) (scan_ne_reject_of_append (v := v) (by rw [hacc]; simp))

lemma live_scan_take (hacc : scan P start w = alnum) (hw : w ≠ []) {k : ℕ} (hk : 0 < k) :
    (scan P start (w.take k)).Live := by
  refine live_scan_prefix (v := w.drop k) (by rw [List.take_append_drop]; exact hacc) ?_
  simpa [List.take_eq_nil_iff, hk.ne'] using hw

/-- **A live scan sits in the state of its last character.** -/
lemma scan_concat_eq_ofChar (h : scan P q (u ++ [c]) ≠ reject) :
    scan P q (u ++ [c]) = ofChar c := by
  rw [scan_concat] at h ⊢
  exact next_eq_ofChar h

/-- A live scan is in `dot` exactly when the word read ends with a dot. -/
lemma scan_eq_dot_iff (hw : w ≠ []) (h : scan P q w ≠ reject) :
    scan P q w = dot ↔ w.getLast? = some '.' := by
  obtain ⟨u, c, rfl⟩ := (List.eq_nil_or_concat' w).resolve_left hw
  rw [scan_concat_eq_ofChar h, ofChar_eq_dot_iff]
  simp

/-- From a live state, a word opening with a letter or digit reads as from inside a label. -/
lemma scan_live_cons (hq : q.Live) (hc : isAlnum c = true) : scan P q (c :: w) = scan P alnum w := by
  rw [scan_cons, next_live_alnum hq hc]

lemma scan_start_cons (hc : P.leads c = true) : scan P start (c :: w) = scan P alnum w := by
  rw [scan_cons, next_start_leads hc]

/-- A nonempty word of letters and digits, read from a live state, ends inside a label. -/
lemma scan_all_alnum (hq : q.Live) (hw : w ≠ []) (hall : ∀ c ∈ w, isAlnum c = true) :
    scan P q w = alnum := by
  induction w generalizing q with
  | nil => exact absurd rfl hw
  | cons c w ih =>
      rw [scan_live_cons hq (hall c (by simp))]
      cases w with
      | nil => rfl
      | cons d w =>
          exact ih (Or.inl rfl) (by simp) (fun x hx => hall x (List.mem_cons_of_mem _ hx))

/-- The `letterFirst` switch is only read at the start. -/
lemma scan_letterFirst_eq {d l l' : Bool} (hq : q ≠ start) :
    scan ⟨d, l⟩ q w = scan ⟨d, l'⟩ q w := by
  induction w generalizing q with
  | nil => rfl
  | cons c w ih =>
      have hstep : next ⟨d, l⟩ q c = next ⟨d, l'⟩ q c := by
        cases q <;> simp_all [next]
      rw [scan_cons, scan_cons, hstep]
      exact ih (next_ne_start _ _ _)

/-- From a live state, a word opening with a letter or digit is read as a fresh RFC 1123 name:
what came before, and whether the first character had to be a letter, no longer matter. -/
lemma scan_live_cons_fresh {d l : Bool} (hq : q.Live) (hc : isAlnum c = true) :
    scan ⟨d, l⟩ q (c :: w) = scan ⟨d, false⟩ start (c :: w) := by
  rw [scan_live_cons hq hc, scan_start_cons (P := ⟨d, false⟩) (by simpa [Pattern.leads] using hc)]
  exact scan_letterFirst_eq (by simp)

lemma next_dots_eq {l : Bool} (h : next ⟨false, l⟩ q c ≠ reject) :
    next ⟨true, l⟩ q c = next ⟨false, l⟩ q c := by
  cases q with
  | alnum =>
      by_cases hc : c = '.'
      · subst hc
        simp [next, dot_not_alnum] at h
      · simp [next, hc]
  | _ => rfl

/-- A scan that never needs a dot does not see the `dots` switch. -/
lemma scan_dots_eq {l : Bool} (h : scan ⟨false, l⟩ q w ≠ reject) :
    scan ⟨true, l⟩ q w = scan ⟨false, l⟩ q w := by
  induction w generalizing q with
  | nil => rfl
  | cons c w ih =>
      rw [scan_cons] at h ⊢
      have hc : next ⟨false, l⟩ q c ≠ reject := by
        intro hr
        rw [hr, scan_reject] at h
        exact h rfl
      rw [next_dots_eq hc]
      exact ih h

/-- Without dots between labels the scan never reaches `dot`. -/
lemma next_ne_dot {l : Bool} (q : Scan) (c : Char) : next ⟨false, l⟩ q c ≠ dot := by
  cases q <;> simp only [next] <;> (try split_ifs) <;> simp_all

lemma scan_ne_dot {l : Bool} (hq : q ≠ dot) : scan ⟨false, l⟩ q w ≠ dot := by
  induction w generalizing q with
  | nil => exact hq
  | cons c w ih => exact ih (next_ne_dot q c)

/-- A live label scan is inside a label, after a letter, a digit or a dash. -/
lemma Live.alnum_or_dash {l : Bool} (hw : (scan ⟨false, l⟩ start w).Live) :
    scan ⟨false, l⟩ start w = alnum ∨ scan ⟨false, l⟩ start w = dash := by
  rcases hw with h | h | h
  · exact Or.inl h
  · exact Or.inr h
  · exact absurd h (scan_ne_dot (by simp))

lemma ne_nil_of_scan_eq_alnum (h : scan P start w = alnum) : w ≠ [] := by
  rintro rfl
  simp at h

/-- The first character of an accepted word is one that may open it. -/
lemma leads_of_scan_cons (h : scan P start (c :: w) = alnum) : P.leads c = true := by
  by_contra hc
  simp [next, hc] at h

/-- After a label piece, `-` and then a letter or digit start a fresh RFC 1123 name. -/
lemma scan_dash_cons {d l : Bool} (hq : q = alnum ∨ q = dash) (hc : isAlnum c = true) :
    scan ⟨d, l⟩ q ('-' :: c :: w) = scan ⟨d, false⟩ start (c :: w) := by
  rw [scan_cons, next_dash hq]
  exact scan_live_cons_fresh (Or.inr (Or.inl rfl)) hc

/-- A nonempty word of letters and digits is an RFC 1123 name on its own. -/
lemma scan_start_all_alnum {d : Bool} (hw : w ≠ []) (hall : ∀ c ∈ w, isAlnum c = true) :
    scan ⟨d, false⟩ start w = alnum := by
  obtain ⟨c, t, rfl⟩ := List.exists_cons_of_ne_nil hw
  rw [scan_start_cons (by simpa [Pattern.leads] using hall c (by simp))]
  cases t with
  | nil => rfl
  | cons e t => exact scan_all_alnum (Or.inl rfl) (by simp) (fun x hx => hall x (by simp_all))

/-- **Joining at a dash.**  From inside a label, `-` followed by a piece opening with a letter or
digit reads the piece as a fresh name and carries on from where that piece leaves the scan. -/
lemma scan_join_dash {d l : Bool} {x y t : List Char} (hq : q = alnum ∨ q = dash) (hx : x = c :: t)
    (hc : isAlnum c = true) :
    scan ⟨d, l⟩ q ('-' :: (x ++ y)) = scan ⟨d, false⟩ (scan ⟨d, false⟩ start x) y := by
  subst hx
  rw [List.cons_append, scan_dash_cons hq hc, ← List.cons_append, scan_append]

@[simp] lemma scan_dot_dash : scan P dot ('-' :: w) = reject := by
  rw [scan_cons, next_dot_dash, scan_reject]

/-- Deleting the dots relabels `dot` as the inside of a label. -/
def undot : Scan → Scan
  | dot => alnum
  | q => q

@[simp] lemma undot_dot : undot dot = alnum := rfl

@[simp] lemma undot_alnum : undot alnum = alnum := rfl

/-- **Deleting the dots of a subdomain scan gives the label scan**, state for state. -/
lemma scan_filter_dots (h : scan subdomain1123 q w ≠ reject) :
    scan label1123 (undot q) (w.filter (· != '.')) = undot (scan subdomain1123 q w) := by
  induction w generalizing q with
  | nil => rfl
  | cons c w ih =>
      rw [scan_cons] at h ⊢
      by_cases hc : c = '.'
      · subst hc
        -- a dot is only read from `alnum`, and the label scan stays where it was
        have hq : q = alnum := by
          cases q <;> simp_all [next, Pattern.leads, dot_not_alnum]
        subst hq
        have hnext : next subdomain1123 alnum '.' = dot := by
          simp [next, dot_not_alnum]
        have hf : ('.' :: w).filter (· != '.') = w.filter (· != '.') := by simp
        rw [hnext] at h ⊢
        rw [hf]
        simpa only [undot_dot, undot_alnum] using ih h
      · have hstep : next label1123 (undot q) c = undot (next subdomain1123 q c) := by
          by_cases hr : next subdomain1123 q c = reject
          · rw [hr, scan_reject] at h
            exact absurd rfl h
          · cases q <;> simp_all [next, undot, subdomain1123, label1123, Pattern.leads] <;>
              split_ifs <;> simp_all
        simp only [List.filter_cons, hc, bne_iff_ne, ne_eq, not_false_eq_true, if_true, scan_cons]
        rw [hstep]
        exact ih h

/-! ## The three validators

Each is the check the Kubernetes validation package makes: the length bound, then the pattern.
A word is valid when the check finds no error.
-/

/-- The length bound of an RFC 1123 label. -/
def DNS1123LabelMaxLength : ℕ := 63

/-- The length bound of an RFC 1123 subdomain. -/
def DNS1123SubdomainMaxLength : ℕ := 253

/-- The length bound of an RFC 1035 label. -/
def DNS1035LabelMaxLength : ℕ := 63

/-- `IsDNS1123Label` finds no error. -/
def isDNS1123Label (w : List Char) : Bool :=
  decide (w.length ≤ DNS1123LabelMaxLength) && scan label1123 start w == alnum

/-- `IsDNS1123Subdomain` finds no error. -/
def isDNS1123Subdomain (w : List Char) : Bool :=
  decide (w.length ≤ DNS1123SubdomainMaxLength) && scan subdomain1123 start w == alnum

/-- `IsDNS1035Label` finds no error. -/
def isDNS1035Label (w : List Char) : Bool :=
  decide (w.length ≤ DNS1035LabelMaxLength) && scan label1035 start w == alnum

lemma isDNS1123Label_iff :
    isDNS1123Label w = true ↔ w.length ≤ 63 ∧ scan label1123 start w = alnum := by
  unfold isDNS1123Label DNS1123LabelMaxLength
  simp

lemma isDNS1123Subdomain_iff :
    isDNS1123Subdomain w = true ↔ w.length ≤ 253 ∧ scan subdomain1123 start w = alnum := by
  unfold isDNS1123Subdomain DNS1123SubdomainMaxLength
  simp

lemma isDNS1035Label_iff :
    isDNS1035Label w = true ↔ w.length ≤ 63 ∧ scan label1035 start w = alnum := by
  unfold isDNS1035Label DNS1035LabelMaxLength
  simp

/-- A word opening with a letter reads the same as an RFC 1035 and as an RFC 1123 label. -/
lemma scan_label1035_eq (hc : c.isLower = true) :
    scan label1035 start (c :: w) = scan label1123 start (c :: w) := by
  have hc' : isAlnum c = true := by simp [isAlnum, hc]
  rw [scan_start_cons (P := label1035) (by simpa [Pattern.leads] using hc),
    scan_start_cons (P := label1123) (by simpa [Pattern.leads] using hc')]
  exact scan_letterFirst_eq (by simp)

/-- Every RFC 1035 label is an RFC 1123 label. -/
lemma isDNS1123Label_of_isDNS1035Label (h : isDNS1035Label w = true) : isDNS1123Label w = true := by
  rw [isDNS1035Label_iff] at h
  rw [isDNS1123Label_iff]
  refine ⟨h.1, ?_⟩
  cases w with
  | nil => simp at h
  | cons c w =>
      have hc : c.isLower = true := by
        simpa [Pattern.leads] using leads_of_scan_cons h.2
      rw [← scan_label1035_eq hc, h.2]

/-- An RFC 1035 label is an RFC 1123 label that opens with a letter. -/
lemma isDNS1035Label_cons_iff :
    isDNS1035Label (c :: w) = true ↔ c.isLower = true ∧ isDNS1123Label (c :: w) = true := by
  constructor
  · intro h
    have hc : c.isLower = true := by
      simpa [Pattern.leads] using leads_of_scan_cons (isDNS1035Label_iff.mp h).2
    exact ⟨hc, isDNS1123Label_of_isDNS1035Label h⟩
  · rintro ⟨hc, h⟩
    rw [isDNS1035Label_iff, scan_label1035_eq hc]
    exact isDNS1123Label_iff.mp h

/-- Every RFC 1123 label is an RFC 1123 subdomain. -/
lemma isDNS1123Subdomain_of_isDNS1123Label (h : isDNS1123Label w = true) :
    isDNS1123Subdomain w = true := by
  rw [isDNS1123Label_iff] at h
  rw [isDNS1123Subdomain_iff]
  refine ⟨by omega, ?_⟩
  have hne : scan label1123 start w ≠ reject := by simp [h.2]
  rw [← h.2]
  exact scan_dots_eq hne

end Dns
