import HomeObject.Json.Value

/-!
Contract: the JSON library's lexer (`nlohmann::detail::lexer`) over a byte buffer, as
`json::parse(first, last)` runs it: no comments, strict UTF-8.

Owns:
- `Token`, and `scan`: whitespace skipping, then `scanStart`, the `switch` on the first byte, for
  the structural characters, the literals, and a NUL byte or the end of the buffer read as the end
  of input;
- `scanString`, `scan_string` as a byte-at-a-time machine (`StringScan`, `stringStep`) with its
  escapes, `\u` code points with surrogate pairs (`encodeUtf8`), and the UTF-8 ranges of raw
  multi-byte characters (the `Utf8State` machine);
- `scanNumber`, `scan_number` as its state machine (`NumberScan`), and `numberToken`: `strtoull`
  and `strtoll` when the value fits, a floating-point token otherwise;
- `stripBom`, the check of a leading byte-order mark;
- the spec lemmas of the two machines over a run of bytes (`scanString_append`, `scanNumber_digits`).

Every lexer error is thrown as `parse_error` 101 by the parser that meets it; `JsonError` does not
keep the position or the message.
-/

set_option autoImplicit false

namespace HomeObject.Json

/-- `lexer::token_type`; `parse_error` is the error of `scan`. -/
inductive Token where
  | literalTrue
  | literalFalse
  | literalNull
  | valueString (value : Bytes)
  | valueUnsigned (value : UInt64)
  | valueInteger (value : Int64)
  | valueFloat (negative : Bool) (mantissa : Nat) (exponent : Int)
  | beginArray
  | beginObject
  | endArray
  | endObject
  | nameSeparator
  | valueSeparator
  | endOfInput
deriving DecidableEq, Repr

/-! ## Strings -/

/-- The value of a hex digit, `get_codepoint`'s `0-9`, `A-F` and `a-f`. -/
def hexValue (byte : UInt8) : Option Nat :=
  if 0x30 ≤ byte.toNat ∧ byte.toNat ≤ 0x39 then some (byte.toNat - 0x30)
  else if 0x41 ≤ byte.toNat ∧ byte.toNat ≤ 0x46 then some (byte.toNat - 0x37)
  else if 0x61 ≤ byte.toNat ∧ byte.toNat ≤ 0x66 then some (byte.toNat - 0x57)
  else none

/-- The UTF-8 bytes `scan_string` adds for a code point read from a `\u` escape. -/
def encodeUtf8 (codepoint : Nat) : Bytes :=
  if codepoint < 0x80 then [UInt8.ofNat codepoint]
  else if codepoint ≤ 0x7FF then
    [UInt8.ofNat (0xC0 ||| (codepoint >>> 6)), UInt8.ofNat (0x80 ||| (codepoint &&& 0x3F))]
  else if codepoint ≤ 0xFFFF then
    [UInt8.ofNat (0xE0 ||| (codepoint >>> 12)), UInt8.ofNat (0x80 ||| ((codepoint >>> 6) &&& 0x3F)),
      UInt8.ofNat (0x80 ||| (codepoint &&& 0x3F))]
  else
    [UInt8.ofNat (0xF0 ||| (codepoint >>> 18)), UInt8.ofNat (0x80 ||| ((codepoint >>> 12) &&& 0x3F)),
      UInt8.ofNat (0x80 ||| ((codepoint >>> 6) &&& 0x3F)), UInt8.ofNat (0x80 ||| (codepoint &&& 0x3F))]

/-- Where `scan_string` stands between two bytes. -/
inductive StringScan where
  /-- Between characters. -/
  | plain
  /-- After a backslash. -/
  | escape
  /-- Reading the four hex digits of a `\u` escape: `read` of them so far, worth `value`. `high`
  is the high surrogate this escape must complete. -/
  | codepoint (high : Option Nat) (read : Nat) (value : Nat)
  /-- After a high surrogate, where `\` must follow. -/
  | lowBackslash (high : Nat)
  /-- Then `u`. -/
  | lowU (high : Nat)
  /-- Inside a raw multi-byte character. -/
  | utf8 (state : Utf8State)
deriving DecidableEq, Repr

/-- What one byte does to `scan_string`: a move adding bytes to the token, the closing quote, or
an error. -/
inductive StringStep where
  | next (state : StringScan) (out : Bytes)
  | close
  | fail
deriving DecidableEq, Repr

/-- The four hex digits of a `\u` escape are read; `high` is a pending high surrogate. A lone low
surrogate, or a high surrogate not followed by a low one, is an error. -/
def codepointDone (high : Option Nat) (value : Nat) : StringStep :=
  match high with
  | none =>
      if 0xD800 ≤ value ∧ value ≤ 0xDBFF then .next (.lowBackslash value) []
      else if 0xDC00 ≤ value ∧ value ≤ 0xDFFF then .fail
      else .next .plain (encodeUtf8 value)
  | some high =>
      if 0xDC00 ≤ value ∧ value ≤ 0xDFFF then
        .next .plain (encodeUtf8 ((high <<< 10) + value - 0x35FDC00))
      else .fail

/-- One byte of `scan_string`. -/
def stringStep : StringScan → UInt8 → StringStep
  | .plain, byte =>
      if byte.toNat < 0x20 then .fail
      else if byte.toNat = 0x22 then .close
      else if byte.toNat = 0x5C then .next .escape []
      else if byte.toNat < 0x80 then .next .plain [byte]
      else match Utf8State.lead byte.toNat with
        | some state => .next (.utf8 state) [byte]
        | none => .fail
  | .escape, byte =>
      match byte.toNat with
      | 0x22 => .next .plain [0x22]
      | 0x5C => .next .plain [0x5C]
      | 0x2F => .next .plain [0x2F]
      | 0x62 => .next .plain [0x08]
      | 0x66 => .next .plain [0x0C]
      | 0x6E => .next .plain [0x0A]
      | 0x72 => .next .plain [0x0D]
      | 0x74 => .next .plain [0x09]
      | 0x75 => .next (.codepoint none 0 0) []
      | _ => .fail
  | .codepoint high read value, byte =>
      match hexValue byte with
      | none => .fail
      | some digit =>
          if read < 3 then .next (.codepoint high (read + 1) (value * 16 + digit)) []
          else codepointDone high (value * 16 + digit)
  | .lowBackslash high, byte => if byte.toNat = 0x5C then .next (.lowU high) [] else .fail
  | .lowU high, byte =>
      if byte.toNat = 0x75 then .next (.codepoint (some high) 0 0) [] else .fail
  | .utf8 state, byte =>
      match state.step byte with
      | some .start => .next .plain [byte]
      | some next => .next (.utf8 next) [byte]
      | none => .fail

/-- `scan_string` after the opening quote, with the token's bytes so far: the string and the input
after the closing quote. Input that ends first is an error ("missing closing quote"). -/
def scanString : StringScan → Bytes → Bytes → Except JsonError (Bytes × Bytes)
  | _, _, [] => .error .parseError
  | state, token, byte :: rest =>
      match stringStep state byte with
      | .next state out => scanString state (token ++ out) rest
      | .close => .ok (token, rest)
      | .fail => .error .parseError

/-- The string machine over a run of bytes that neither closes nor fails: the state reached and
the bytes added. -/
def feedString : StringScan → Bytes → Option (StringScan × Bytes)
  | state, [] => some (state, [])
  | state, byte :: rest =>
      match stringStep state byte with
      | .next state out => (feedString state rest).map fun (final, more) => (final, out ++ more)
      | _ => none

/-- **A run of the string machine, then the rest.** -/
theorem scanString_append {state final : StringScan} {run out token more : Bytes}
    (fed : feedString state run = some (final, out)) :
    scanString state token (run ++ more) = scanString final (token ++ out) more := by
  induction run generalizing state token out with
  | nil =>
    simp only [feedString, Option.some.injEq, Prod.mk.injEq] at fed
    obtain ⟨rfl, rfl⟩ := fed
    simp
  | cons byte rest inductionHypothesis =>
    simp only [feedString] at fed
    split at fed
    · rename_i next added stepped
      obtain ⟨⟨final', more'⟩, restFed, joined⟩ := Option.map_eq_some'.mp fed
      simp only [Prod.mk.injEq] at joined
      obtain ⟨rfl, rfl⟩ := joined
      simp [scanString, stepped, inductionHypothesis restFed]
    · cases fed

theorem feedString_append {state middle final : StringScan} {first second out out' : Bytes}
    (firstFed : feedString state first = some (middle, out))
    (secondFed : feedString middle second = some (final, out')) :
    feedString state (first ++ second) = some (final, out ++ out') := by
  induction first generalizing state out with
  | nil =>
    simp only [feedString, Option.some.injEq, Prod.mk.injEq] at firstFed
    obtain ⟨rfl, rfl⟩ := firstFed
    simpa using secondFed
  | cons byte rest inductionHypothesis =>
    simp only [feedString] at firstFed
    split at firstFed
    · rename_i next added stepped
      obtain ⟨⟨middle', more'⟩, restFed, joined⟩ := Option.map_eq_some'.mp firstFed
      simp only [Prod.mk.injEq] at joined
      obtain ⟨rfl, rfl⟩ := joined
      simp [feedString, stepped, inductionHypothesis restFed]
    · cases firstFed

/-! ## Numbers -/

def isDigit (byte : UInt8) : Bool := 0x30 ≤ byte.toNat && byte.toNat ≤ 0x39

def isExponentMark (byte : UInt8) : Bool := byte.toNat = 0x65 || byte.toNat = 0x45

/-- The states of `scan_number` after its first byte, named by the source's labels. -/
inductive NumberScan where
  | minus
  | zero
  | any1
  | decimal1
  | decimal2
  | exponent
  | sign
  | any2
deriving DecidableEq, Repr

/-- The number type `scan_number` has recorded: unsigned to begin with, signed after a minus,
floating-point after a decimal point or an exponent. -/
inductive NumberKind where
  | unsigned
  | integer
  | float
deriving DecidableEq, Repr

namespace NumberScan

def next : NumberScan → UInt8 → Option NumberScan
  | .minus, byte =>
      if byte.toNat = 0x30 then some .zero else if isDigit byte then some .any1 else none
  | .zero, byte =>
      if byte.toNat = 0x2E then some .decimal1 else if isExponentMark byte then some .exponent
      else none
  | .any1, byte =>
      if isDigit byte then some .any1 else if byte.toNat = 0x2E then some .decimal1
      else if isExponentMark byte then some .exponent else none
  | .decimal1, byte => if isDigit byte then some .decimal2 else none
  | .decimal2, byte =>
      if isDigit byte then some .decimal2 else if isExponentMark byte then some .exponent else none
  | .exponent, byte =>
      if byte.toNat = 0x2B ∨ byte.toNat = 0x2D then some .sign
      else if isDigit byte then some .any2 else none
  | .sign, byte => if isDigit byte then some .any2 else none
  | .any2, byte => if isDigit byte then some .any2 else none

/-- A number may end here (`scan_number_done`); the other states still expect a digit or a sign,
and end in an error. -/
def accepting : NumberScan → Bool
  | .zero | .any1 | .decimal2 | .any2 => true
  | _ => false

/-- The kind after moving to a state: a decimal point or an exponent makes the number
floating-point. -/
def kindAfter (next : NumberScan) (kind : NumberKind) : NumberKind :=
  if next = .decimal1 ∨ next = .exponent then .float else kind

end NumberScan

/-- `scan_number` from a state, with the token's bytes so far: the kind, the token's bytes and the
input after them. The byte that ends a number is left for the next token (`unget`). -/
def scanNumberFrom : NumberScan → NumberKind → Bytes → Bytes →
    Except JsonError (NumberKind × Bytes × Bytes)
  | state, kind, token, [] => if state.accepting then .ok (kind, token, []) else .error .parseError
  | state, kind, token, byte :: rest =>
      match state.next byte with
      | some next => scanNumberFrom next (next.kindAfter kind) (token ++ [byte]) rest
      | none => if state.accepting then .ok (kind, token, byte :: rest) else .error .parseError

def digitsValue (digits : Bytes) : Nat :=
  digits.foldl (fun value digit => value * 10 + (digit.toNat - 0x30)) 0

/-- The decimal a floating-point token stands for: its sign, the digits of its integer and fraction
parts, and its exponent less the length of the fraction. -/
def floatDecimal (token : Bytes) : Bool × Nat × Int :=
  let negative := token.head? = some 0x2D
  let body := if negative then token.tail else token
  let afterInteger := body.dropWhile isDigit
  let hasFraction := afterInteger.head? = some 0x2E
  let fraction := if hasFraction then (afterInteger.drop 1).takeWhile isDigit else []
  let afterFraction := if hasFraction then (afterInteger.drop 1).dropWhile isDigit else afterInteger
  let exponentPart := afterFraction.drop 1
  let exponentDigits := exponentPart.dropWhile fun byte => byte.toNat = 0x2B || byte.toNat = 0x2D
  let exponent : Int :=
    if exponentPart.head? = some 0x2D then -(digitsValue exponentDigits : Int)
    else digitsValue exponentDigits
  (negative, digitsValue (body.takeWhile isDigit ++ fraction), exponent - fraction.length)

/-- The token of a scanned number: `strtoull` of an unsigned token and `strtoll` of a signed one,
each kept when the value fits; `strtod` of the token otherwise. -/
def numberToken (kind : NumberKind) (token : Bytes) : Token :=
  let float := (floatDecimal token).1
  let decimal := (floatDecimal token).2
  match kind with
  | .unsigned =>
      if digitsValue token < 2 ^ 64 then .valueUnsigned (UInt64.ofNat (digitsValue token))
      else .valueFloat float decimal.1 decimal.2
  | .integer =>
      if fits : digitsValue token.tail ≤ 2 ^ 63 then
        .valueInteger ⟨-(digitsValue token.tail : Int), by omega, by omega⟩
      else .valueFloat float decimal.1 decimal.2
  | .float => .valueFloat float decimal.1 decimal.2

/-- `scan_number` from its first byte's state. -/
def scanNumber (state : NumberScan) (kind : NumberKind) (first : UInt8) (rest : Bytes) :
    Except JsonError (Token × Bytes) :=
  (fun (kind, token, rest) => (numberToken kind token, rest)) <$>
    scanNumberFrom state kind [first] rest

theorem scanNumber_digits {state : NumberScan} {kind : NumberKind} {token digits rest : Bytes}
    (looping : state = .any1 ∨ state = .any2) (allDigits : ∀ byte ∈ digits, isDigit byte = true)
    (ends : ∀ byte ∈ rest.head?, state.next byte = none) :
    scanNumberFrom state kind token (digits ++ rest) = .ok (kind, token ++ digits, rest) := by
  induction digits generalizing token with
  | nil =>
    cases rest with
    | nil => rcases looping with rfl | rfl <;> simp [scanNumberFrom, NumberScan.accepting]
    | cons byte more =>
      have stops : state.next byte = none := ends byte rfl
      rcases looping with rfl | rfl <;> simp [scanNumberFrom, stops, NumberScan.accepting]
  | cons digit more inductionHypothesis =>
    have isDigitHead : isDigit digit = true := allDigits digit (.head _)
    have stays : state.next digit = some state := by
      rcases looping with rfl | rfl <;> simp [NumberScan.next, isDigitHead]
    have sameKind : state.kindAfter kind = kind := by
      rcases looping with rfl | rfl <;> simp [NumberScan.kindAfter]
    rw [List.cons_append, scanNumberFrom, stays]
    simp only [sameKind]
    rw [inductionHypothesis fun byte inMore => allDigits byte (.tail _ inMore)]
    simp

/-! ## Tokens -/

/-- `skip_whitespace`: space, tab, line feed and carriage return. -/
def isWhitespace (byte : UInt8) : Bool :=
  byte.toNat = 0x20 || byte.toNat = 0x09 || byte.toNat = 0x0A || byte.toNat = 0x0D

/-- `scan_literal`: after its first byte, the rest of `true`, `false` or `null` must follow. -/
def scanLiteral (rest : Bytes) (token : Token) (input : Bytes) : Except JsonError (Token × Bytes) :=
  if rest.isPrefixOf input then .ok (token, input.drop rest.length) else .error .parseError

/-- What `scan` does with the first byte after the whitespace: the cases of its `switch`. -/
inductive ScanStart where
  /-- A one-byte token. -/
  | token (token : Token)
  /-- A literal, whose remaining bytes must follow. -/
  | literal (rest : Bytes) (token : Token)
  /-- A string. -/
  | string
  /-- A number, from the state its first byte leads to. -/
  | number (state : NumberScan) (kind : NumberKind)
  /-- Any other byte ("invalid literal"). -/
  | invalid
deriving DecidableEq, Repr

/-- The `switch` of `lexer::scan` on the first byte. A NUL byte reads as the end of input. -/
def scanStart (byte : UInt8) : ScanStart :=
  match byte.toNat with
  | 0x5B => .token .beginArray
  | 0x5D => .token .endArray
  | 0x7B => .token .beginObject
  | 0x7D => .token .endObject
  | 0x3A => .token .nameSeparator
  | 0x2C => .token .valueSeparator
  | 0x74 => .literal (ascii "rue") .literalTrue
  | 0x66 => .literal (ascii "alse") .literalFalse
  | 0x6E => .literal (ascii "ull") .literalNull
  | 0x22 => .string
  | 0x2D => .number .minus .integer
  | 0x30 => .number .zero .unsigned
  | 0x00 => .token .endOfInput
  | code => if 0x31 ≤ code ∧ code ≤ 0x39 then .number .any1 .unsigned else .invalid

/-- `lexer::scan`: skips whitespace and reads one token; the end of the buffer is the end of
input. -/
def scan (input : Bytes) : Except JsonError (Token × Bytes) :=
  match input.dropWhile isWhitespace with
  | [] => .ok (.endOfInput, [])
  | byte :: rest =>
      match scanStart byte with
      | .token token => .ok (token, rest)
      | .literal literal token => scanLiteral literal token rest
      | .string => (fun (value, rest) => (.valueString value, rest)) <$> scanString .plain [] rest
      | .number state kind => scanNumber state kind byte rest
      | .invalid => .error .parseError

theorem scan_cons {byte : UInt8} {rest : Bytes} (notSpace : isWhitespace byte = false) :
    scan (byte :: rest) =
      match scanStart byte with
      | .token token => .ok (token, rest)
      | .literal literal token => scanLiteral literal token rest
      | .string => (fun (value, rest) => (.valueString value, rest)) <$> scanString .plain [] rest
      | .number state kind => scanNumber state kind byte rest
      | .invalid => .error .parseError := by
  simp [scan, List.dropWhile_cons, notSpace]

/-- `skip_bom` before the first token: `EF` must begin `EF BB BF`, which is skipped. -/
def stripBom : Bytes → Except JsonError Bytes
  | 0xEF :: 0xBB :: 0xBF :: rest => .ok rest
  | 0xEF :: _ => .error .parseError
  | input => .ok input

end HomeObject.Json
