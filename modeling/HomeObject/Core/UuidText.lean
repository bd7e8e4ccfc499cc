import HomeObject.Core.Types

/-!
Contract: the text form in which the PG manager writes uuids into its JSON record and reads them
back: `boost::uuids::to_string` and `boost::uuids::string_generator`.

Owns: `Uuid.toString`, `Uuid.stringGenerator` and its byte loop `readBytes`, and the round trip
`stringGenerator_toString`, from which `to_string` is injective.

The two functions are boost's, not among the sources; the model follows boost's code: `to_string`
writes two lower-case hex digits per byte and a dash after bytes 3, 5, 7 and 9; `string_generator`
takes an optional opening brace, reads a dash before byte 4 if there is one (`has_dashes`), then
requires one before bytes 6, 8 and 10 exactly when it read that one, reads hex digits of either
case, requires the closing brace if it took an opening one, and throws `std::runtime_error` on
anything else, or on any byte after the end.
-/

set_option autoImplicit false

namespace HomeObject

namespace Uuid

/-- boost's `to_char`: the lower-case hex digit of a value below 16. -/
def toChar (nibble : Nat) : UInt8 :=
  UInt8.ofNat (if nibble < 10 then 0x30 + nibble else 0x61 + (nibble - 10))

/-- boost's `get_value`: the value of a hex digit of either case. -/
def getValue (byte : UInt8) : Option Nat :=
  if 0x30 ≤ byte.toNat ∧ byte.toNat ≤ 0x39 then some (byte.toNat - 0x30)
  else if 0x61 ≤ byte.toNat ∧ byte.toNat ≤ 0x66 then some (byte.toNat - 0x57)
  else if 0x41 ≤ byte.toNat ∧ byte.toNat ≤ 0x46 then some (byte.toNat - 0x37)
  else none

/-- The text of the bytes from byte `index` on: two hex digits each, and a dash after bytes 3,
5, 7 and 9. -/
def textFrom : Nat → Bytes → Bytes
  | _, [] => []
  | index, byte :: rest =>
      [toChar (byte.toNat / 16), toChar (byte.toNat % 16)] ++
        (if index = 3 ∨ index = 5 ∨ index = 7 ∨ index = 9 then [0x2D] else []) ++
        textFrom (index + 1) rest

/-- `boost::uuids::to_string`. -/
def toString (uuid : Uuid) : Bytes := textFrom 0 uuid.data

/-- The loop of `string_generator` from byte `index` on, `remaining` bytes still to read: before
byte 4 a dash turns `has_dashes` on, before bytes 6, 8 and 10 one is required when it is on; then
two hex digits. The bytes read and the text after them, or `none` where boost throws. -/
def readBytes : Nat → Nat → Bool → Bytes → Option (Bytes × Bytes)
  | 0, _, _, text => some ([], text)
  | remaining + 1, index, hasDashes, text => do
      let (hasDashes, text) ←
        if index = 4 then
          match text with
          | 0x2D :: rest => some (true, rest)
          | _ => some (false, text)
        else if (index = 6 ∨ index = 8 ∨ index = 10) ∧ hasDashes = true then
          match text with
          | 0x2D :: rest => some (true, rest)
          | _ => none
        else some (hasDashes, text)
      match text with
      | high :: low :: rest => do
          let high ← getValue high
          let low ← getValue low
          let (bytes, rest) ← readBytes remaining (index + 1) hasDashes rest
          pure (UInt8.ofNat (high * 16 + low) :: bytes, rest)
      | _ => none

/-- The text after the sixteen bytes: the closing brace when there was an opening one, then
nothing. -/
def textEnds (braced : Bool) (rest : Bytes) : Bool :=
  if braced then rest = [0x7D] else rest = []

/-- The optional opening brace: whether there is one, and the text after it. -/
def openBrace : Bytes → Bool × Bytes
  | 0x7B :: rest => (true, rest)
  | text => (false, text)

/-- `boost::uuids::string_generator()(text)`, `none` where it throws. -/
def stringGenerator (text : Bytes) : Option Uuid :=
  let (braced, text) := openBrace text
  match readBytes 16 0 false text with
  | some (bytes, rest) => if textEnds braced rest then some (ofBytes bytes) else none
  | none => none

/-! ## The round trip -/

/-- The dash the loop expects before a byte: before bytes 4, 6, 8 and 10. -/
def dashBefore (index : Nat) : Bytes :=
  if index = 4 ∨ index = 6 ∨ index = 8 ∨ index = 10 then [0x2D] else []

theorem textFrom_cons (index : Nat) (byte : UInt8) (rest : Bytes) :
    textFrom index (byte :: rest) =
      [toChar (byte.toNat / 16), toChar (byte.toNat % 16)] ++ dashBefore (index + 1) ++
        textFrom (index + 1) rest := by
  have same : (index = 3 ∨ index = 5 ∨ index = 7 ∨ index = 9) ↔
      (index + 1 = 4 ∨ index + 1 = 6 ∨ index + 1 = 8 ∨ index + 1 = 10) := by omega
  simp only [textFrom, dashBefore, same]

theorem getValue_toChar : ∀ nibble < 16, getValue (toChar nibble) = some nibble := by
  decide

theorem toChar_ne_openBrace : ∀ nibble < 16, toChar nibble ≠ 0x7B := by
  decide

theorem nibbles_recombine (byte : UInt8) :
    UInt8.ofNat (byte.toNat / 16 * 16 + byte.toNat % 16) = byte := by
  rw [show byte.toNat / 16 * 16 + byte.toNat % 16 = byte.toNat by omega, uint8_ofNat_toNat]

theorem readBytes_step {remaining index : Nat} {hasDashes : Bool} {byte : UInt8} {rest : Bytes}
    (dashes : 4 < index → hasDashes = true) :
    readBytes (remaining + 1) index hasDashes
        (dashBefore index ++ toChar (byte.toNat / 16) :: toChar (byte.toNat % 16) :: rest) =
      (readBytes remaining (index + 1) (hasDashes || decide (index = 4)) rest).map
        fun (bytes, rest) => (byte :: bytes, rest) := by
  have small : byte.toNat < 256 := byte.toNat_lt_size
  have high := getValue_toChar (byte.toNat / 16) (by omega)
  have low := getValue_toChar (byte.toNat % 16) (Nat.mod_lt _ (by omega))
  by_cases atFour : index = 4
  · subst atFour
    simp only [readBytes, ↓reduceIte, dashBefore, Nat.reduceEqDiff, or_self, or_false,
      List.singleton_append, Nat.reduceAdd, Option.pure_def, Option.bind_eq_bind, Option.some_bind,
      high, low, nibbles_recombine, decide_True, Bool.or_true, Option.map_eq_bind,
      Function.comp_apply]
  · by_cases required : index = 6 ∨ index = 8 ∨ index = 10
    · have dashesSet := dashes (by omega)
      simp only [readBytes, atFour, ↓reduceIte, required, dashesSet, and_self, dashBefore, or_true,
        List.singleton_append, Option.pure_def, Option.bind_eq_bind, Option.some_bind, high, low,
        nibbles_recombine, decide_False, Bool.or_false, Option.map_eq_bind, Function.comp_apply]
    · simp only [readBytes, atFour, ↓reduceIte, required, false_and, dashBefore, or_self,
        List.nil_append, Option.pure_def, Option.bind_eq_bind, Option.some_bind, high, low,
        nibbles_recombine, decide_False, Bool.or_false, Option.map_eq_bind, Function.comp_apply]

/-- **The loop reads back the text of the bytes**, from any byte on, the dashes being on past
byte 4. -/
theorem readBytes_textFrom {bytes more : Bytes} {index : Nat} {hasDashes : Bool}
    (complete : index + bytes.length = 16) (dashes : 4 < index → hasDashes = true) :
    readBytes bytes.length index hasDashes (dashBefore index ++ textFrom index bytes ++ more) =
      some (bytes, more) := by
  induction bytes generalizing index hasDashes with
  | nil =>
    have : dashBefore index = [] := by simp at complete; simp [dashBefore, complete]
    simp [this, textFrom, readBytes]
  | cons byte rest inductionHypothesis =>
    rw [textFrom_cons, List.length_cons]
    simp only [List.append_assoc, List.cons_append, List.nil_append]
    rw [readBytes_step dashes, ← List.append_assoc,
      inductionHypothesis (by simp at complete; omega) (fun past => by
        by_cases atFour : index = 4
        · simp [atFour]
        · simp [dashes (by omega)])]
    rfl

/-- **`string_generator` reads back what `to_string` writes.** -/
theorem stringGenerator_toString (uuid : Uuid) : stringGenerator (toString uuid) = some uuid := by
  have read := @readBytes_textFrom uuid.data [] 0 false (by simp [uuid.length_data]) (by omega)
  simp only [uuid.length_data, List.append_nil] at read
  rw [show dashBefore 0 = [] from rfl, List.nil_append] at read
  obtain ⟨byte, rest, split⟩ : ∃ byte rest, uuid.data = byte :: rest :=
    List.exists_cons_of_length_pos (by simp [uuid.length_data])
  have notBrace := toChar_ne_openBrace (byte.toNat / 16)
    (by have : byte.toNat < 256 := byte.toNat_lt_size; omega)
  have unbraced : openBrace (toString uuid) = (false, toString uuid) := by
    simp [toString, split, textFrom_cons, openBrace, notBrace]
  simp only [stringGenerator, unbraced]
  simp [toString, read, textEnds, ofBytes_data]

theorem toChar_lt : ∀ nibble < 16, (toChar nibble).toNat < 0x80 := by
  decide

theorem toString_ascii (uuid : Uuid) : ∀ byte ∈ toString uuid, byte.toNat < 0x80 := by
  suffices textAscii : ∀ (index : Nat) (bytes : Bytes), ∀ byte ∈ textFrom index bytes,
      byte.toNat < 0x80 from textAscii 0 uuid.data
  intro index bytes
  induction bytes generalizing index with
  | nil => simp [textFrom]
  | cons first rest inductionHypothesis =>
    intro byte member
    have small : first.toNat < 256 := first.toNat_lt_size
    rw [textFrom_cons] at member
    simp only [List.mem_append, List.mem_cons, List.mem_singleton, dashBefore] at member
    rcases member with ((same | same | absurd) | dash) | later
    · exact same ▸ toChar_lt _ (by omega)
    · exact same ▸ toChar_lt _ (Nat.mod_lt _ (by omega))
    · cases absurd
    · split at dash
      · rw [List.mem_singleton.mp dash]
        decide
      · cases dash
    · exact inductionHypothesis (index + 1) byte later

theorem toString_injective {uuid other : Uuid} (same : toString uuid = toString other) :
    uuid = other := by
  have read := stringGenerator_toString other
  rwa [← same, stringGenerator_toString, Option.some.injEq] at read

end Uuid

end HomeObject
