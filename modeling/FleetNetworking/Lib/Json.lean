import FleetNetworking.Lib.GoMap

/-!
# JSON text and its decoding by encoding/json

`json.Unmarshal` first checks that its input is one JSON text (RFC 8259) and then decodes the
value into the Go value it is given.  `parse` is the first half: a scanner, one character at a
time, that cuts the text into tokens and decodes the escapes of strings as `unquote` does (a
surrogate `\u` escape not followed by its pair reads as U+FFFD), and a parser that builds the
value from the tokens with a stack of open arrays and objects.  Both are folds over the input,
so `parse` is total and evaluates.

The decoding half is written for the Go types the program decodes into: a string is set by a
JSON string and left alone by `null`; a map is set to nil by `null` and gets the members of an
object added to it, made first if it is nil; a struct field is found by its name up to case
folding.  Any other JSON value is an `UnmarshalTypeError`, and with one the whole call returns
an error.
-/

namespace Json

/-- A JSON value; a number keeps its text. -/
inductive Value where
  | null
  | bool (b : Bool)
  | number (text : String)
  | string (s : String)
  | array (items : List Value)
  | object (members : List (String × Value))

/-- The tokens of JSON text. -/
inductive Token where
  | beginObject
  | endObject
  | beginArray
  | endArray
  | nameSeparator
  | valueSeparator
  /-- `null`, `true`, `false`, a number or a string -/
  | scalar (v : Value)

/-! ## The scanner -/

/-- Where a number stands in `-? (0 | [1-9][0-9]*) (. [0-9]+)? ([eE] [+-]? [0-9]+)?`. -/
inductive NumState where
  | sign
  | zero
  | int
  | point
  | frac
  | exp
  | expSign
  | expDigits

/-- The number scanner reads one more character, if the grammar lets it. -/
def NumState.step : NumState → Char → Option NumState
  | .sign, c => if c = '0' then some .zero else if c.isDigit then some .int else none
  | .zero, c => if c = '.' then some .point else if c = 'e' ∨ c = 'E' then some .exp else none
  | .int, c =>
    if c.isDigit then some .int else if c = '.' then some .point
    else if c = 'e' ∨ c = 'E' then some .exp else none
  | .point, c => if c.isDigit then some .frac else none
  | .frac, c =>
    if c.isDigit then some .frac else if c = 'e' ∨ c = 'E' then some .exp else none
  | .exp, c => if c = '+' ∨ c = '-' then some .expSign else if c.isDigit then some .expDigits else none
  | .expSign, c => if c.isDigit then some .expDigits else none
  | .expDigits, c => if c.isDigit then some .expDigits else none

/-- A number may end here. -/
def NumState.final : NumState → Bool
  | .zero | .int | .frac | .expDigits => true
  | _ => false

/-- Where the scanner stands inside a string: at a plain character, after a backslash, inside
a `\u` escape with the hex digits read so far, or after a `\u` escape of a surrogate, which
only the escape of its pair may follow. -/
inductive Escape where
  | plain
  | backslash
  | unicode (digits : List Nat)
  | surrogate (u : Nat)
  | surrogateBackslash (u : Nat)
  | surrogateUnicode (u : Nat) (digits : List Nat)

/-- The scanner between tokens, inside a string (its characters so far, reversed), inside a
number (its text so far, reversed) or inside `true`, `false` or `null` (the letters still to
come). -/
inductive Mode where
  | between
  | str (acc : List Char) (esc : Escape)
  | num (acc : List Char) (st : NumState)
  | word (rest : List Char) (v : Value)

/-- The scanner's state: where it stands and the tokens so far, reversed. -/
structure Scanner where
  mode : Mode
  tokens : List Token

/-- The value of a hex digit. -/
def hexDigit (c : Char) : Option Nat :=
  if c.isDigit then some (c.toNat - '0'.toNat)
  else if 'a' ≤ c ∧ c ≤ 'f' then some (c.toNat - 'a'.toNat + 10)
  else if 'A' ≤ c ∧ c ≤ 'F' then some (c.toNat - 'A'.toNat + 10)
  else none

/-- The code unit of four hex digits. -/
def hexValue (ds : List Nat) : Nat := ds.foldl (fun n d => 16 * n + d) 0

/-- U+FFFD, which `unquote` writes for a surrogate without its pair. -/
def replacementChar : Char := Char.ofNat 0xFFFD

/-- A UTF-16 surrogate code unit. -/
def isSurrogate (u : Nat) : Bool := 0xD800 ≤ u ∧ u < 0xE000

/-- `utf16.DecodeRune`: a high and a low surrogate make one character. -/
def decodeSurrogates (u u₂ : Nat) : Option Char :=
  if 0xD800 ≤ u ∧ u < 0xDC00 ∧ 0xDC00 ≤ u₂ ∧ u₂ < 0xE000 then
    some (Char.ofNat (0x10000 + (u - 0xD800) * 0x400 + (u₂ - 0xDC00)))
  else none

/-- The string state after a whole `\u` escape of code unit `u`. -/
def afterUnicode (acc : List Char) (u : Nat) : Mode :=
  if isSurrogate u then .str acc (.surrogate u) else .str (Char.ofNat u :: acc) .plain

/-- A plain character of a string: the closing quote ends it, a backslash starts an escape,
and a control character is an error. -/
def scanPlain (s : Scanner) (acc : List Char) (c : Char) : Option Scanner :=
  if c = '"' then some ⟨.between, .scalar (.string (String.ofList acc.reverse)) :: s.tokens⟩
  else if c = '\\' then some { s with mode := .str acc .backslash }
  else if c.toNat < 0x20 then none
  else some { s with mode := .str (c :: acc) .plain }

/-- The character after a backslash. -/
def scanEscape (s : Scanner) (acc : List Char) (c : Char) : Option Scanner :=
  let put (d : Char) : Option Scanner := some { s with mode := .str (d :: acc) .plain }
  if c = '"' ∨ c = '\\' ∨ c = '/' then put c
  else if c = 'b' then put (Char.ofNat 8)
  else if c = 'f' then put (Char.ofNat 12)
  else if c = 'n' then put '\n'
  else if c = 'r' then put '\r'
  else if c = 't' then put '\t'
  else if c = 'u' then some { s with mode := .str acc (.unicode []) }
  else none

/-- A character between tokens. -/
def scanBetween (s : Scanner) (c : Char) : Option Scanner :=
  let emit (t : Token) : Option Scanner := some { s with tokens := t :: s.tokens }
  if c = ' ' ∨ c = '\t' ∨ c = '\n' ∨ c = '\r' then some s
  else if c = '{' then emit .beginObject
  else if c = '}' then emit .endObject
  else if c = '[' then emit .beginArray
  else if c = ']' then emit .endArray
  else if c = ':' then emit .nameSeparator
  else if c = ',' then emit .valueSeparator
  else if c = '"' then some { s with mode := .str [] .plain }
  else if c = '-' then some { s with mode := .num [c] .sign }
  else if c = '0' then some { s with mode := .num [c] .zero }
  else if c.isDigit then some { s with mode := .num [c] .int }
  else if c = 't' then some { s with mode := .word ['r', 'u', 'e'] (.bool true) }
  else if c = 'f' then some { s with mode := .word ['a', 'l', 's', 'e'] (.bool false) }
  else if c = 'n' then some { s with mode := .word ['u', 'l', 'l'] .null }
  else none

/-- The scanner reads one character. -/
def Scanner.step (s : Scanner) (c : Char) : Option Scanner :=
  match s.mode with
  | .between => scanBetween s c
  | .str acc .plain => scanPlain s acc c
  | .str acc .backslash => scanEscape s acc c
  | .str acc (.unicode ds) =>
    match hexDigit c with
    | none => none
    | some d =>
      if ds.length = 3 then some { s with mode := afterUnicode acc (hexValue (ds ++ [d])) }
      else some { s with mode := .str acc (.unicode (ds ++ [d])) }
  | .str acc (.surrogate u) =>
    if c = '\\' then some { s with mode := .str acc (.surrogateBackslash u) }
    else scanPlain s (replacementChar :: acc) c
  | .str acc (.surrogateBackslash u) =>
    if c = 'u' then some { s with mode := .str acc (.surrogateUnicode u []) }
    else scanEscape s (replacementChar :: acc) c
  | .str acc (.surrogateUnicode u ds) =>
    match hexDigit c with
    | none => none
    | some d =>
      if ds.length = 3 then
        let u₂ := hexValue (ds ++ [d])
        match decodeSurrogates u u₂ with
        | some r => some { s with mode := .str (r :: acc) .plain }
        | none => some { s with mode := afterUnicode (replacementChar :: acc) u₂ }
      else some { s with mode := .str acc (.surrogateUnicode u (ds ++ [d])) }
  | .num acc st =>
    match st.step c with
    | some st' => some { s with mode := .num (c :: acc) st' }
    | none =>
      -- the number ends before `c`, which is read between tokens
      if st.final then
        scanBetween ⟨.between, .scalar (.number (String.ofList acc.reverse)) :: s.tokens⟩ c
      else none
  | .word [] _ => none
  | .word (l :: ls) v =>
    if c ≠ l then none
    else if ls = [] then some ⟨.between, .scalar v :: s.tokens⟩
    else some { s with mode := .word ls v }

/-- The tokens, at the end of the input. -/
def Scanner.finish (s : Scanner) : Option (List Token) :=
  match s.mode with
  | .between => some s.tokens.reverse
  | .num acc st =>
    if st.final then some (.scalar (.number (String.ofList acc.reverse)) :: s.tokens).reverse
    else none
  | _ => none

/-- The tokens of a JSON text, or `none` for a character the grammar does not allow there. -/
def scan (text : String) : Option (List Token) :=
  (text.toList.foldlM Scanner.step ⟨.between, []⟩).bind Scanner.finish

/-! ## The parser -/

/-- Where the parser stands in an open array: after `[`, after an item, or after a comma. -/
inductive ArrayState where
  | start
  | item
  | comma

/-- Where the parser stands in an open object: after `{`, after a key, after its colon, after
a member, or after a comma. -/
inductive ObjectState where
  | start
  | key (k : String)
  | colon (k : String)
  | member
  | comma

/-- An open array or object, with what it holds so far, reversed. -/
inductive Frame where
  | array (items : List Value) (st : ArrayState)
  | object (members : List (String × Value)) (st : ObjectState)

/-- The parser's state: the open arrays and objects, innermost first, and the value of the
text once it is complete. -/
structure Parser where
  stack : List Frame
  result : Option Value

/-- A value is read: it is the text's value, the next item of the array or the value of the
member it stands in. -/
def Parser.put (p : Parser) (v : Value) : Option Parser :=
  match p.stack with
  | [] => if p.result.isNone then some ⟨[], some v⟩ else none
  | .array items .start :: fs | .array items .comma :: fs =>
    some ⟨.array (v :: items) .item :: fs, p.result⟩
  | .object ms (.colon k) :: fs => some ⟨.object ((k, v) :: ms) .member :: fs, p.result⟩
  | _ => none

/-- The parser reads one token. -/
def Parser.step (p : Parser) : Token → Option Parser
  | .beginArray => some { p with stack := .array [] .start :: p.stack }
  | .beginObject => some { p with stack := .object [] .start :: p.stack }
  | .endArray =>
    match p.stack with
    | .array items .start :: fs | .array items .item :: fs =>
      Parser.put ⟨fs, p.result⟩ (.array items.reverse)
    | _ => none
  | .endObject =>
    match p.stack with
    | .object ms .start :: fs | .object ms .member :: fs =>
      Parser.put ⟨fs, p.result⟩ (.object ms.reverse)
    | _ => none
  | .nameSeparator =>
    match p.stack with
    | .object ms (.key k) :: fs => some ⟨.object ms (.colon k) :: fs, p.result⟩
    | _ => none
  | .valueSeparator =>
    match p.stack with
    | .array items .item :: fs => some ⟨.array items .comma :: fs, p.result⟩
    | .object ms .member :: fs => some ⟨.object ms .comma :: fs, p.result⟩
    | _ => none
  | .scalar v =>
    match p.stack, v with
    -- a string where an object expects a key is the key
    | .object ms .start :: fs, .string k | .object ms .comma :: fs, .string k =>
      some ⟨.object ms (.key k) :: fs, p.result⟩
    | _, _ => p.put v

/-- The value of a JSON text: `checkValid`, and the value it holds. -/
def parse (text : String) : Option Value := do
  let tokens ← scan text
  let p ← tokens.foldlM Parser.step ⟨[], none⟩
  match p.stack, p.result with
  | [], some v => some v
  | _, _ => none

/-! ## Decoding -/

/-- A character folds to an ASCII character: they are equal up to case, or the character is
the Kelvin sign or the long s, the only characters whose simple case folding reaches an ASCII
letter. -/
def foldsTo (c t : Char) : Bool :=
  c == t || (t.isAlpha && c.toLower == t.toLower) ||
    (t.toLower == 'k' && c == Char.ofNat 0x212A) || (t.toLower == 's' && c == Char.ofNat 0x17F)

/-- A key names the struct field `name` (of ASCII characters): `bytes.EqualFold(key, name)`,
which `foldName` makes the lookup of a field by a key with no exact match. -/
def fieldMatches (key name : String) : Bool :=
  key.length == name.length && (key.toList.zip name.toList).all fun p => foldsTo p.1 p.2

/-- Decoding into a Go string holding `cur`. -/
def decodeString (cur : String) : Value → Option String
  | .string s => some s
  | .null => some cur
  | _ => none

/-- Decoding into a Go map with string keys holding `cur`, each element decoded from its zero
value by `decodeElem`. -/
def decodeMap {β : Type} (decodeElem : Value → Option β) (cur : Go.Map String β) :
    Value → Option (Go.Map String β)
  | .null => some none
  | .object ms =>
    (ms.foldlM (fun m kv => (decodeElem kv.2).map fun e => m.insert kv.1 e) (cur.getD ∅)).map some
  | _ => none

end Json
