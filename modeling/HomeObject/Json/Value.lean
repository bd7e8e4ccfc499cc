import HomeObject.Core.Types
import HomeObject.Json.Utf8

/-!
Contract: the values of the JSON library (`nlohmann::json`) that `serialize_pg_info` builds and
`deserialize_pg_info` reads, and the library's serializer `dump()`.

Owns:
- `Json`, one constructor per `value_t` the PG manager can meet (it never builds binary or
  discarded values), and `JsonError`, the library's exceptions it can meet, by kind;
- `keyLt` and `setMember`: an object is a `std::map<std::string, json>`, kept sorted by
  `std::less<std::string>`, and assigning through `operator[]` inserts a missing key at its place;
- `dump()` with no indentation, `ensure_ascii = false` and the strict error handler: `dumpEscaped`
  (the escapes, and the UTF-8 check that throws `type_error` 316), `decimal` (`dump_integer`), and
  the structural printer.

Does not own: reading JSON back (`Json.Lexer`, `Json.Parse`).

The library is not among the sources; the model follows its documented behaviour. A floating-point
number is kept as the decimal it was read from, and the PG manager never dumps one: `dumpFloat` is
a stand-in for the library's shortest round-trip printing, which is not modelled.
-/

set_option autoImplicit false

namespace HomeObject

/-- `nlohmann::json`. An object's member list is sorted by key (`setMember` keeps it so); a
floating-point number is the decimal `(-1)^negative * mantissa * 10^exponent` it was read from. -/
inductive Json where
  | null
  | boolean (value : Bool)
  | numberInteger (value : Int64)
  | numberUnsigned (value : UInt64)
  | numberFloat (negative : Bool) (mantissa : Nat) (exponent : Int)
  | string (value : Bytes)
  | array (elements : List Json)
  | object (members : List (Bytes × Json))
deriving Repr

/-- The library's exceptions the PG manager can meet. None is caught by the PG manager. -/
inductive JsonError where
  /-- `parse_error` 101: the input is not one JSON text (a lexer error, an unexpected token, or
  more than whitespace after the value). -/
  | parseError
  /-- `out_of_range` 406: a number literal beyond the range of a double. -/
  | numberOverflow
  /-- `type_error` 302: `get` of a value of another type. -/
  | typeMismatch
  /-- `type_error` 305: `operator[]` with a string key on a value that is not an object (nor, for
  the non-const operator, null). -/
  | keyOnNonObject
  /-- `type_error` 316: `dump` of a string that is not UTF-8. -/
  | invalidUtf8
  /-- Not an exception: the const `operator[]` on a missing key fails the library's `JSON_ASSERT`,
  an abort in a debug build and a read through `end()` in a release build. -/
  | missingKey
deriving DecidableEq, Repr

namespace Json

def ascii (text : String) : Bytes := text.toList.map fun c => UInt8.ofNat c.toNat

/-! ## Objects -/

/-- `std::less<std::string>`: lexicographic, the bytes compared as `unsigned char`. -/
def keyLt : Bytes → Bytes → Bool
  | [], [] => false
  | [], _ :: _ => true
  | _ :: _, [] => false
  | a :: rest, b :: rest' => a.toNat < b.toNat || (a == b && keyLt rest rest')

theorem keyLt_irrefl (key : Bytes) : keyLt key key = false := by
  induction key with
  | nil => rfl
  | cons byte rest inductionHypothesis => simp [keyLt, inductionHypothesis]

theorem keyLt_cons_cons {a b : UInt8} {rest rest' : Bytes} :
    keyLt (a :: rest) (b :: rest') = true ↔ a.toNat < b.toNat ∨ (a = b ∧ keyLt rest rest' = true) := by
  simp [keyLt]

theorem keyLt_asymm {key other : Bytes} (less : keyLt key other = true) :
    keyLt other key = false := by
  induction key generalizing other with
  | nil => cases other <;> simp_all [keyLt]
  | cons byte rest inductionHypothesis =>
    cases other with
    | nil => simp [keyLt] at less
    | cons byte' rest' =>
      rw [keyLt_cons_cons] at less
      rw [← Bool.not_eq_true, keyLt_cons_cons]
      rcases less with below | ⟨rfl, restLess⟩
      · exact fun reverse => by
          rcases reverse with above | ⟨same, -⟩
          · omega
          · subst same; omega
      · exact fun reverse => by
          rcases reverse with above | ⟨-, restReverse⟩
          · omega
          · simp [inductionHypothesis restLess] at restReverse

/-- `object[key] = value`: assigns the member with that key, or inserts one at its place. -/
def setMember (key : Bytes) (value : Json) : List (Bytes × Json) → List (Bytes × Json)
  | [] => [(key, value)]
  | (other, old) :: rest =>
      if key = other then (key, value) :: rest
      else if keyLt key other then (key, value) :: (other, old) :: rest
      else (other, old) :: setMember key value rest

theorem setMember_of_above {key : Bytes} {value : Json} {members : List (Bytes × Json)}
    (above : ∀ member ∈ members, keyLt member.1 key = true) :
    setMember key value members = members ++ [(key, value)] := by
  induction members with
  | nil => rfl
  | cons member rest inductionHypothesis =>
    obtain ⟨other, old⟩ := member
    have less : keyLt other key = true := above _ (.head _)
    have different : key ≠ other := fun same => by simp [same, keyLt_irrefl] at less
    simp [setMember, different, keyLt_asymm less,
      inductionHypothesis fun member inRest => above member (.tail _ inRest)]

theorem lookup_cons_of_ne {key other : Bytes} {value : Json} {rest : List (Bytes × Json)}
    (different : other ≠ key) : ((key, value) :: rest).lookup other = rest.lookup other := by
  simp [List.lookup_cons, beq_eq_false_iff_ne.mpr different]

/-! ## `dump()` -/

def hexDigit (value : Nat) : UInt8 := UInt8.ofNat (if value < 10 then 48 + value else 87 + value)

/-- How `dump_escaped` writes a one-byte character: the two-character escapes, `\u00xx`
(`"\\u%04x"`) for the other control characters, and the byte itself otherwise. -/
def escapeAscii (byte : UInt8) : Bytes :=
  match byte.toNat with
  | 0x08 => ascii "\\b"
  | 0x09 => ascii "\\t"
  | 0x0A => ascii "\\n"
  | 0x0C => ascii "\\f"
  | 0x0D => ascii "\\r"
  | 0x22 => ascii "\\\""
  | 0x5C => ascii "\\\\"
  | code => if code ≤ 0x1F then ascii "\\u00" ++ [hexDigit (code / 16), hexDigit (code % 16)]
            else [byte]

/-- What `dump_escaped` writes for one byte read in a decoder state: an escape when the byte is a
whole one-byte character, the byte itself otherwise (`ensure_ascii` is off). -/
def escapeByte (state : Utf8State) (byte : UInt8) : Bytes :=
  if state = .start ∧ byte.toNat < 0x80 then escapeAscii byte else [byte]

/-- `dump_escaped(s, false)` from a decoder state. A byte the decoder refuses, or a string that ends
inside a character, throws `type_error` 316. -/
def dumpEscaped : Utf8State → Bytes → Except JsonError Bytes
  | .start, [] => .ok []
  | _, [] => .error .invalidUtf8
  | state, byte :: rest =>
      match state.step byte with
      | none => .error .invalidUtf8
      | some next => (escapeByte state byte ++ ·) <$> dumpEscaped next rest

/-- A string value: its escaped bytes between quotes. -/
def dumpString (value : Bytes) : Except JsonError Bytes :=
  (fun escaped => ascii "\"" ++ escaped ++ ascii "\"") <$> dumpEscaped .start value

/-- The decimal digits of `value`, most significant first, with no leading zero: the digit loop
of `dump_integer`. `fuel` bounds the number of digits. -/
def decimalDigits : Nat → Nat → Bytes
  | 0, _ => []
  | fuel + 1, value =>
      (if value < 10 then [] else decimalDigits fuel (value / 10)) ++ [UInt8.ofNat (48 + value % 10)]

/-- `dump_integer` of a non-negative value. -/
def decimal (value : Nat) : Bytes := decimalDigits (value + 1) value

/-- `dump_integer` of a `number_integer_t`. -/
def dumpInteger (value : Int64) : Bytes :=
  if value.val < 0 then ascii "-" ++ decimal value.val.natAbs else decimal value.val.natAbs

/-- Stand-in for `dump_float`, which the PG manager never reaches: the decimal as read. -/
def dumpFloat (negative : Bool) (mantissa : Nat) (exponent : Int) : Bytes :=
  (if negative then ascii "-" else []) ++ decimal mantissa ++ ascii "e" ++
    (if exponent < 0 then ascii "-" else []) ++ decimal exponent.natAbs

def joinCommas : List Bytes → Bytes
  | [] => []
  | first :: rest => first ++ (rest.flatMap fun text => ascii "," ++ text)

mutual

/-- `dump()`: no whitespace, array elements in order, object members in key order. -/
def dump : Json → Except JsonError Bytes
  | .null => .ok (ascii "null")
  | .boolean true => .ok (ascii "true")
  | .boolean false => .ok (ascii "false")
  | .numberInteger value => .ok (dumpInteger value)
  | .numberUnsigned value => .ok (decimal value.toNat)
  | .numberFloat negative mantissa exponent => .ok (dumpFloat negative mantissa exponent)
  | .string value => dumpString value
  | .array elements => (fun texts => ascii "[" ++ joinCommas texts ++ ascii "]") <$>
      dumpElements elements
  | .object members => (fun texts => ascii "\x7b" ++ joinCommas texts ++ ascii "\x7d") <$>
      dumpMembers members

def dumpElements : List Json → Except JsonError (List Bytes)
  | [] => .ok []
  | element :: rest => do
      let text ← dump element
      let texts ← dumpElements rest
      pure (text :: texts)

def dumpMembers : List (Bytes × Json) → Except JsonError (List Bytes)
  | [] => .ok []
  | (key, value) :: rest => do
      let keyText ← dumpString key
      let valueText ← dump value
      let texts ← dumpMembers rest
      pure ((keyText ++ ascii ":" ++ valueText) :: texts)

end

example : dump (.array [.null, .string (ascii "a\"b")]) = .ok (ascii "[null,\"a\\\"b\"]") := rfl

end Json

end HomeObject
