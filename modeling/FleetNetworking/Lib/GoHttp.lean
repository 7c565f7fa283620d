import FleetNetworking.Lib.GoMap

/-!
# HTTP headers

An `http.Header` is a Go map from keys to lists of values.  `Get` and `Add` canonicalize the key
first (`textproto.CanonicalMIMEHeaderKey`): a key made of token characters is written with an
upper-case letter at its start and after each dash and lower case elsewhere, and any other key
is left as it is.  `Get` reads the first value of the key, or `""`; `Add` appends a value, and,
as any assignment to a nil map, panics on a nil header.

A header only grows under `Add`: `values_of_Add` says where the value goes, and
`Get_eq_empty_of_values_append` that a key reads `""` after values were appended only if it
read `""` before.
-/

namespace Go.Http

/-- `validHeaderFieldByte`: a token character of RFC 7230. -/
def validHeaderFieldByte (c : Char) : Bool :=
  c.isAlphanum || "!#$%&'*+-.^_`|~".toList.contains c

/-- The case fix of `canonicalMIMEHeaderKey`: upper case first and after a dash, lower case
elsewhere. -/
def canonicalCase : Bool → List Char → List Char
  | _, [] => []
  | upper, c :: cs => (if upper then c.toUpper else c.toLower) :: canonicalCase (c == '-') cs

/-- `textproto.CanonicalMIMEHeaderKey`: a key with a character that is not a token character,
a space among them, is returned unchanged. -/
def CanonicalMIMEHeaderKey (s : String) : String :=
  if s.toList.all validHeaderFieldByte then String.ofList (canonicalCase true s.toList) else s

example : CanonicalMIMEHeaderKey "x-custom-HEADER" = "X-Custom-Header" := by decide

example : CanonicalMIMEHeaderKey "x header" = "x header" := by decide

/-- `http.Header`. -/
abbrev Header := Go.Map String (List String)

namespace Header

variable {ε : Type}

/-- `h[key]`: the values stored under the key as it is given, none for an absent key. -/
def values (h : Header) (key : String) : List String := (h.lookup key).getD []

/-- `h.Get(key)`: the first value of the canonical key, or `""`. -/
def Get (h : Header) (key : String) : String := (h.values (CanonicalMIMEHeaderKey key)).headD ""

/-- `h.Add(key, value)`: `h[key] = append(h[key], value)` at the canonical key. -/
def Add (h : Header) (key value : String) : Result ε Header :=
  let key := CanonicalMIMEHeaderKey key
  h.assign key (h.values key ++ [value])

variable {h h' : Header} {key value k : String}

/-- `Add` appends the value to the canonical key and to no other. -/
lemma values_of_Add (hadd : h.Add key value = (.ok h' : Result ε Header)) (k : String) :
    h'.values k = h.values k ++ if CanonicalMIMEHeaderKey key = k then [value] else [] := by
  unfold Add at hadd
  rw [values, Map.lookup_of_assign hadd]
  by_cases hk : CanonicalMIMEHeaderKey key = k
  · subst hk
    simp [values]
  · simp [values, hk, Ne.symm hk]

/-- Values appended after those of a key leave its first value: a key that reads `""` after
the appending read `""` before it. -/
lemma Get_eq_empty_of_values_append {xs : String → List String}
    (hv : ∀ k, h'.values k = h.values k ++ xs k) (hg : h'.Get key = "") : h.Get key = "" := by
  unfold Get at hg ⊢
  rw [hv] at hg
  cases hk : h.values (CanonicalMIMEHeaderKey key) with
  | nil => rfl
  | cons v vs =>
    rw [hk] at hg
    exact hg

end Header

end Go.Http
