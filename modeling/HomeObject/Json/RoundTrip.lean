import HomeObject.Json.Parse

/-!
Contract: what `parse` reads back from what `dump` writes.

Owns:
- `wellFormed`, the values the round trip covers: strings and keys in UTF-8 (`dump` throws on any
  other), no floating-point number (the PG manager builds none), and objects whose keys increase,
  as `std::map` keeps them;
- `normalize`: the library reads a non-negative `number_integer_t` back as a `number_unsigned_t`;
- the round trip `parse_dump`: `parse` of the dump of a well-formed value is its normal form.

The round trip is proved per mutual function of the parser (`parseValue_dump`,
`parseElements_dump`, `parseMembers_dump`), each stated for any input after the dumped text that
can follow a value in a dump. The scanner's part reduces to two facts: a dumped number's digits are
read up to the byte after them (`scan_decimal`, `scan_dumpInteger`), and the string machine, fed an
escaped string, adds back exactly the string's bytes (`feedString_dumpEscaped`).
-/

set_option autoImplicit false

namespace HomeObject.Json

/-! ## The values the round trip covers -/

mutual

/-- A value `dump` writes and `parse` reads back as its normal form. -/
def wellFormed : Json → Bool
  | .numberFloat .. => false
  | .string value => validUtf8 value
  | .array elements => elementsWellFormed elements
  | .object members =>
      membersWellFormed members &&
        decide ((members.map Prod.fst).Pairwise fun key other => keyLt key other = true)
  | _ => true

def elementsWellFormed : List Json → Bool
  | [] => true
  | element :: rest => wellFormed element && elementsWellFormed rest

def membersWellFormed : List (Bytes × Json) → Bool
  | [] => true
  | (key, value) :: rest => validUtf8 key && wellFormed value && membersWellFormed rest

end

mutual

/-- The value `parse` reads back: a non-negative signed number becomes unsigned. -/
def normalize : Json → Json
  | .numberInteger value =>
      if value.val < 0 then .numberInteger value else .numberUnsigned (UInt64.ofNat value.val.toNat)
  | .array elements => .array (normalizeElements elements)
  | .object members => .object (normalizeMembers members)
  | other => other

def normalizeElements : List Json → List Json
  | [] => []
  | element :: rest => normalize element :: normalizeElements rest

def normalizeMembers : List (Bytes × Json) → List (Bytes × Json)
  | [] => []
  | (key, value) :: rest => (key, normalize value) :: normalizeMembers rest

end

mutual

/-- The fuel the parser spends on a value. -/
def size : Json → Nat
  | .array elements => sizeElements elements + 1
  | .object members => sizeMembers members + 1
  | _ => 1

def sizeElements : List Json → Nat
  | [] => 0
  | element :: rest => size element + sizeElements rest + 1

def sizeMembers : List (Bytes × Json) → Nat
  | [] => 0
  | (_, value) :: rest => size value + sizeMembers rest + 1

end

/-- What may follow a value in a dump: nothing, `,`, `]` or `}`. A number's scan stops there. -/
def Follows (rest : Bytes) : Prop :=
  ∀ byte ∈ rest.head?, byte = 0x2C ∨ byte = 0x5D ∨ byte = 0x7D

theorem follows_nil : Follows [] := by simp [Follows]

theorem follows_cons {byte : UInt8} {rest : Bytes} (stop : byte = 0x2C ∨ byte = 0x5D ∨ byte = 0x7D) :
    Follows (byte :: rest) := by
  simpa [Follows] using stop

/-! ## Numbers -/

theorem toNat_digitByte {digit : Nat} (small : digit < 10) :
    (UInt8.ofNat (48 + digit)).toNat = 48 + digit :=
  UInt8.toNat_ofNat_of_lt (by show _ < 256; omega)

theorem isDigit_decimalDigits : ∀ (fuel value : Nat), ∀ byte ∈ decimalDigits fuel value,
    isDigit byte = true
  | 0, _ => by simp [decimalDigits]
  | fuel + 1, value => by
    intro byte member
    simp only [decimalDigits, List.mem_append, List.mem_singleton] at member
    rcases member with inPrefix | rfl
    · split at inPrefix
      · simp at inPrefix
      · exact isDigit_decimalDigits fuel _ byte inPrefix
    · have small : value % 10 < 10 := Nat.mod_lt _ (by omega)
      simp only [isDigit, toNat_digitByte small, Bool.and_eq_true, decide_eq_true_eq]
      omega

theorem digitsValue_append_digit (digits : Bytes) {digit : Nat} (small : digit < 10) :
    digitsValue (digits ++ [UInt8.ofNat (48 + digit)]) = digitsValue digits * 10 + digit := by
  simp only [digitsValue, List.foldl_append, List.foldl_cons, List.foldl_nil, toNat_digitByte small]
  omega

theorem digitsValue_decimalDigits : ∀ (fuel value : Nat), value < 10 ^ fuel →
    digitsValue (decimalDigits fuel value) = value
  | 0, value, bound => by simp at bound; simp [decimalDigits, digitsValue, bound]
  | fuel + 1, value, bound => by
    rw [decimalDigits, digitsValue_append_digit _ (Nat.mod_lt _ (by omega))]
    split
    · simp only [digitsValue, List.foldl_nil]
      omega
    · have lower : value / 10 < 10 ^ fuel := by rw [Nat.pow_succ] at bound; omega
      rw [digitsValue_decimalDigits fuel (value / 10) lower]
      omega

theorem decimalDigits_head : ∀ (fuel value : Nat), 0 < value → value < 10 ^ fuel →
    ∃ first more, decimalDigits fuel value = first :: more ∧ 0x31 ≤ first.toNat ∧ first.toNat ≤ 0x39
  | 0, value, positive, bound => by simp at bound; omega
  | fuel + 1, value, positive, bound => by
    rw [decimalDigits]
    split
    · rename_i single
      refine ⟨_, [], rfl, ?_⟩
      rw [toNat_digitByte (Nat.mod_lt _ (by omega))]
      omega
    · have lower : value / 10 < 10 ^ fuel := by rw [Nat.pow_succ] at bound; omega
      obtain ⟨first, more, split, low, high⟩ :=
        decimalDigits_head fuel (value / 10) (by omega) lower
      exact ⟨first, more ++ _, by rw [split]; rfl, low, high⟩

theorem lt_ten_pow_succ (value : Nat) : value < 10 ^ (value + 1) :=
  calc value < 2 ^ value := Nat.lt_two_pow value
    _ ≤ 10 ^ value := Nat.pow_le_pow_left (by omega) value
    _ ≤ 10 ^ (value + 1) := Nat.pow_le_pow_right (by omega) (by omega)

theorem digitsValue_decimal (value : Nat) : digitsValue (decimal value) = value :=
  digitsValue_decimalDigits _ _ (lt_ten_pow_succ value)

theorem scanStart_digit : ∀ offset < 9,
    isWhitespace (UInt8.ofNat (0x31 + offset)) = false ∧
      scanStart (UInt8.ofNat (0x31 + offset)) = .number .any1 .unsigned := by
  decide

theorem scanStart_of_digit {byte : UInt8} (low : 0x31 ≤ byte.toNat) (high : byte.toNat ≤ 0x39) :
    isWhitespace byte = false ∧ scanStart byte = .number .any1 .unsigned := by
  have start := scanStart_digit (byte.toNat - 0x31) (by omega)
  rwa [show 0x31 + (byte.toNat - 0x31) = byte.toNat by omega, uint8_ofNat_toNat] at start

theorem next_eq_none_of_follows {rest : Bytes} (follows : Follows rest)
    (state : NumberScan) (stops : state = .zero ∨ state = .any1) :
    ∀ byte ∈ rest.head?, state.next byte = none := by
  intro byte member
  rcases follows byte member with rfl | rfl | rfl <;> rcases stops with rfl | rfl <;> decide

theorem scanNumberFrom_stop {state : NumberScan} {kind : NumberKind} {token rest : Bytes}
    (accepts : state.accepting = true) (ends : ∀ byte ∈ rest.head?, state.next byte = none) :
    scanNumberFrom state kind token rest = .ok (kind, token, rest) := by
  cases rest with
  | nil => simp [scanNumberFrom, accepts]
  | cons byte more => simp [scanNumberFrom, ends byte rfl, accepts]

/-- **A dumped unsigned number scans back.** -/
theorem scan_decimal {value : Nat} {rest : Bytes} (fits : value < 2 ^ 64) (follows : Follows rest) :
    scan (decimal value ++ rest) = .ok (.valueUnsigned (UInt64.ofNat value), rest) := by
  rcases Nat.eq_zero_or_pos value with rfl | positive
  · have stops := next_eq_none_of_follows follows .zero (.inl rfl)
    show scan (0x30 :: rest) = _
    rw [scan_cons (by decide)]
    simp only [show scanStart 0x30 = .number .zero .unsigned from rfl, scanNumber,
      scanNumberFrom_stop (show NumberScan.zero.accepting = true from rfl) stops]
    rfl
  · obtain ⟨first, more, split, low, high⟩ :=
      decimalDigits_head _ _ positive (lt_ten_pow_succ value)
    have moreDigits : ∀ byte ∈ more, isDigit byte = true := fun byte member =>
      isDigit_decimalDigits _ _ byte (by rw [split]; exact .tail _ member)
    have read : digitsValue (first :: more) = value := by
      rw [← split]; exact digitsValue_decimal value
    obtain ⟨notSpace, start⟩ := scanStart_of_digit low high
    rw [decimal, split, List.cons_append, scan_cons notSpace, start]
    simp only [scanNumber, scanNumber_digits (.inl rfl) moreDigits
      (next_eq_none_of_follows follows .any1 (.inr rfl)), Functor.map, Except.map, numberToken,
      List.singleton_append, read]
    split
    · rfl
    · omega

/-- **A dumped signed number scans back**, as unsigned when it is not negative. -/
theorem scan_dumpInteger {value : Int64} {rest : Bytes} (follows : Follows rest) :
    scan (dumpInteger value ++ rest) =
      .ok (if value.val < 0 then .valueInteger value
        else .valueUnsigned (UInt64.ofNat value.val.toNat), rest) := by
  have low := value.ge_min
  have high := value.lt_max
  unfold dumpInteger
  split
  · rename_i negative
    obtain ⟨first, more, split, firstLow, firstHigh⟩ :=
      decimalDigits_head _ _ (by omega : 0 < value.val.natAbs) (lt_ten_pow_succ _)
    have moreDigits : ∀ byte ∈ more, isDigit byte = true := fun byte member =>
      isDigit_decimalDigits _ _ byte (by rw [split]; exact .tail _ member)
    have read : digitsValue (first :: more) = value.val.natAbs := by
      rw [← split]; exact digitsValue_decimal _
    have continues : NumberScan.minus.next first = some .any1 := by
      have notZero : first.toNat ≠ 0x30 := by omega
      simp [NumberScan.next, notZero, isDigit, firstHigh, show 0x30 ≤ first.toNat by omega]
    show scan (0x2D :: (decimal value.val.natAbs ++ rest)) = _
    rw [scan_cons (by decide), show scanStart 0x2D = .number .minus .integer from rfl, decimal,
      split, List.cons_append]
    simp only [scanNumber, scanNumberFrom, continues, NumberScan.kindAfter]
    simp only [reduceCtorEq, or_self, if_false, List.cons_append, List.nil_append]
    rw [show [(0x2D : UInt8), first] = [0x2D] ++ [first] from rfl,
      scanNumber_digits (.inl rfl) moreDigits (next_eq_none_of_follows follows .any1 (.inr rfl))]
    have same : -(value.val.natAbs : Int) = value.val := by omega
    simp only [Functor.map, Except.map, numberToken, List.singleton_append, List.cons_append,
      List.tail_cons, List.nil_append, read, if_pos negative]
    split
    · congr
    · omega
  · rename_i nonNegative
    rw [scan_decimal (by omega) follows]
    simp [nonNegative, Int.toNat_of_nonneg, show value.val.natAbs = value.val.toNat by omega]

/-! ## Strings -/

/-- The lexer's state matching a decoder state of the dumper: between characters the lexer is in
its plain state, inside one it runs the same UTF-8 machine. -/
def scanState (state : Utf8State) : StringScan := if state = .start then .plain else .utf8 state

theorem feedString_escapeAscii : ∀ code : Fin 128,
    feedString .plain (escapeAscii (UInt8.ofNat code)) = some (.plain, [UInt8.ofNat code]) := by
  decide

/-- **One byte of the dumper, read by the lexer.** -/
theorem feedString_escapeByte {state next : Utf8State} {byte : UInt8}
    (stepped : state.step byte = some next) :
    feedString (scanState state) (escapeByte state byte) = some (scanState next, [byte]) := by
  by_cases ascii : state = .start ∧ byte.toNat < 0x80
  · obtain ⟨rfl, small⟩ := ascii
    rw [Utf8State.step_start_of_ascii small, Option.some.injEq] at stepped
    subst stepped
    have read := feedString_escapeAscii ⟨byte.toNat, small⟩
    simp only [uint8_ofNat_toNat] at read
    simpa [escapeByte, scanState, small] using read
  · have notStart : next ≠ .start ∨ state ≠ .start := by
      by_cases atStart : state = .start
      · subst atStart
        refine .inl fun nextStart => ascii ⟨rfl, ?_⟩
        rcases Utf8State.step_eq_start_iff.mp (nextStart ▸ stepped) with ⟨-, small⟩ | ⟨absurd, -⟩
        · exact small
        · cases absurd
      · exact .inr atStart
    have stringStepped : stringStep (scanState state) byte = .next (scanState next) [byte] := by
      by_cases atStart : state = .start
      · subst atStart
        have large : 0x80 ≤ byte.toNat := by simp only [true_and] at ascii; omega
        have nextNotStart : next ≠ .start := notStart.resolve_right (by simp)
        simp only [Utf8State.step] at stepped
        simp [scanState, stringStep, stepped, nextNotStart, show ¬ byte.toNat < 0x20 by omega,
          show byte.toNat ≠ 0x22 by omega, show byte.toNat ≠ 0x5C by omega,
          show ¬ byte.toNat < 0x80 by omega]
      · by_cases nextStart : next = .start
        · subst nextStart
          simp [scanState, stringStep, stepped, atStart]
        · simp [scanState, stringStep, stepped, atStart, nextStart]
    simp [escapeByte, ascii, feedString, stringStepped]

/-- **An escaped string reads back as itself**: fed to the lexer's string machine from the state
matching the dumper's, the escaped bytes leave it between characters having added the string. -/
theorem feedString_dumpEscaped {state : Utf8State} {value out : Bytes}
    (dumped : dumpEscaped state value = .ok out) :
    feedString (scanState state) out = some (.plain, value) := by
  induction value generalizing state out with
  | nil =>
    cases state <;> simp only [dumpEscaped, reduceCtorEq] at dumped
    cases dumped
    rfl
  | cons byte rest inductionHypothesis =>
    simp only [dumpEscaped] at dumped
    split at dumped
    · cases dumped
    · rename_i next stepped
      cases restDumped : dumpEscaped next rest with
      | error _ => simp [restDumped, Functor.map, Except.map] at dumped
      | ok restOut =>
        simp only [restDumped, Functor.map, Except.map, Except.ok.injEq] at dumped
        subst dumped
        simpa using feedString_append (feedString_escapeByte stepped)
          (inductionHypothesis restDumped)

/-- **A dumped string scans back.** -/
theorem scan_dumpString {value text rest : Bytes} (dumped : dumpString value = .ok text) :
    scan (text ++ rest) = .ok (.valueString value, rest) := by
  unfold dumpString at dumped
  cases escaped : dumpEscaped .start value with
  | error _ => simp [escaped, Functor.map, Except.map] at dumped
  | ok out =>
    simp only [escaped, Functor.map, Except.map, Except.ok.injEq] at dumped
    subst dumped
    have fed : feedString .plain out = some (.plain, value) := feedString_dumpEscaped escaped
    simp only [show ascii "\"" = [0x22] by decide, List.append_assoc, List.singleton_append,
      List.cons_append, List.nil_append]
    rw [scan_cons (by decide), show scanStart 0x22 = .string from rfl]
    simp only [scanString_append fed]
    rfl

/-! ## Structure -/

@[simp] theorem ascii_beginArray : ascii "[" = [0x5B] := by decide
@[simp] theorem ascii_endArray : ascii "]" = [0x5D] := by decide
@[simp] theorem ascii_beginObject : ascii "\x7b" = [0x7B] := by decide
@[simp] theorem ascii_endObject : ascii "\x7d" = [0x7D] := by decide
@[simp] theorem ascii_valueSeparator : ascii "," = [0x2C] := by decide
@[simp] theorem ascii_nameSeparator : ascii ":" = [0x3A] := by decide

theorem scan_token {byte : UInt8} {rest : Bytes} {token : Token}
    (notSpace : isWhitespace byte = false) (start : scanStart byte = .token token) :
    scan (byte :: rest) = .ok (token, rest) := by
  rw [scan_cons notSpace, start]

theorem scan_literal {first : UInt8} {literal rest : Bytes} {token : Token}
    (notSpace : isWhitespace first = false) (start : scanStart first = .literal literal token) :
    scan (first :: literal ++ rest) = .ok (token, rest) := by
  rw [List.cons_append, scan_cons notSpace, start]
  simp [scanLiteral, List.drop_left]

theorem uint64_ofNat_toNat (value : UInt64) : UInt64.ofNat value.toNat = value :=
  UInt64.toNat.inj (UInt64.toNat_ofNat_of_lt value.toNat_lt_size)

theorem joinCommas_cons_append (text : Bytes) (texts : List Bytes) (tail : Bytes) :
    joinCommas (text :: texts) ++ tail =
      text ++ ((texts.flatMap fun text => ascii "," ++ text) ++ tail) := by
  simp [joinCommas]

theorem flatMap_commas_cons (text : Bytes) (texts : List Bytes) :
    ((text :: texts).flatMap fun text => ascii "," ++ text) = 0x2C :: joinCommas (text :: texts) := by
  simp [joinCommas]

theorem dumpElements_cons {element : Json} {rest : List Json} {texts : List Bytes}
    (dumped : dumpElements (element :: rest) = .ok texts) :
    ∃ text restTexts, dump element = .ok text ∧ dumpElements rest = .ok restTexts ∧
      texts = text :: restTexts := by
  cases dumpedElement : dump element <;> cases dumpedRest : dumpElements rest <;>
    simp_all [dumpElements, bind, Except.bind, pure, Except.pure]

theorem dumpMembers_cons {key : Bytes} {value : Json} {rest : List (Bytes × Json)}
    {texts : List Bytes} (dumped : dumpMembers ((key, value) :: rest) = .ok texts) :
    ∃ keyText valueText restTexts, dumpString key = .ok keyText ∧ dump value = .ok valueText ∧
      dumpMembers rest = .ok restTexts ∧ texts = (keyText ++ ascii ":" ++ valueText) :: restTexts := by
  cases dumpedKey : dumpString key <;> cases dumpedValue : dump value <;>
    cases dumpedRest : dumpMembers rest <;>
    simp_all [dumpMembers, bind, Except.bind, pure, Except.pure]

theorem parseValue_endArray (fuel : Nat) (rest : Bytes) :
    parseValue fuel .endArray rest = .error .parseError := by
  cases fuel <;> rfl

theorem parseElements_endArray (fuel : Nat) (elements : List Json) (rest : Bytes) :
    parseElements fuel elements .endArray rest = .error .parseError := by
  cases fuel <;> simp [parseElements, parseValue_endArray, bind, Except.bind]

theorem parseMembers_endObject (fuel : Nat) (members : List (Bytes × Json)) (rest : Bytes) :
    parseMembers fuel members .endObject rest = .error .parseError := by
  cases fuel <;> rfl

@[simp] theorem scan_endArray (rest : Bytes) : scan (0x5D :: rest) = .ok (.endArray, rest) :=
  scan_token (by decide) (by decide)

@[simp] theorem scan_endObject (rest : Bytes) : scan (0x7D :: rest) = .ok (.endObject, rest) :=
  scan_token (by decide) (by decide)

@[simp] theorem scan_valueSeparator (rest : Bytes) :
    scan (0x2C :: rest) = .ok (.valueSeparator, rest) :=
  scan_token (by decide) (by decide)

@[simp] theorem scan_nameSeparator (rest : Bytes) :
    scan (0x3A :: rest) = .ok (.nameSeparator, rest) :=
  scan_token (by decide) (by decide)

@[simp] theorem ascii_quote : ascii "\"" = [0x22] := by decide

theorem length_ascii_comma : (ascii ",").length = 1 := by decide

theorem scan_nil : scan [] = .ok (.endOfInput, []) := rfl

@[simp] theorem ascii_null : ascii "null" = 0x6E :: ascii "ull" := by decide
@[simp] theorem ascii_true : ascii "true" = 0x74 :: ascii "rue" := by decide
@[simp] theorem ascii_false : ascii "false" = 0x66 :: ascii "alse" := by decide

/-! ## The round trip -/

mutual

/-- **A dumped value parses back**, whatever may follow it in a dump. -/
theorem parseValue_dump : (value : Json) → wellFormed value = true →
    ∀ {text : Bytes}, dump value = .ok text → ∀ (fuel : Nat) (rest : Bytes), size value ≤ fuel →
    Follows rest → ∃ token after, scan (text ++ rest) = .ok (token, after) ∧
      parseValue fuel token after = .ok (normalize value, rest)
  | .null => by
    intro _ text dumped fuel rest enough _
    obtain ⟨fuel, rfl⟩ : ∃ f, fuel = f + 1 := ⟨fuel - 1, by simp only [size] at enough; omega⟩
    cases dumped
    exact ⟨.literalNull, rest, by rw [ascii_null]; exact scan_literal (by decide) (by decide), rfl⟩
  | .boolean flag => by
    intro _ text dumped fuel rest enough _
    obtain ⟨fuel, rfl⟩ : ∃ f, fuel = f + 1 := ⟨fuel - 1, by simp only [size] at enough; omega⟩
    cases flag <;> cases dumped
    · exact ⟨.literalFalse, rest, by rw [ascii_false]; exact scan_literal (by decide) (by decide), rfl⟩
    · exact ⟨.literalTrue, rest, by rw [ascii_true]; exact scan_literal (by decide) (by decide), rfl⟩
  | .numberInteger value => by
    intro _ text dumped fuel rest enough follows
    obtain ⟨fuel, rfl⟩ : ∃ f, fuel = f + 1 := ⟨fuel - 1, by simp only [size] at enough; omega⟩
    cases dumped
    refine ⟨_, rest, scan_dumpInteger follows, ?_⟩
    unfold normalize
    split <;> rfl
  | .numberUnsigned value => by
    intro _ text dumped fuel rest enough follows
    obtain ⟨fuel, rfl⟩ : ∃ f, fuel = f + 1 := ⟨fuel - 1, by simp only [size] at enough; omega⟩
    cases dumped
    refine ⟨_, rest, scan_decimal value.toNat_lt_size follows, ?_⟩
    rw [uint64_ofNat_toNat]
    rfl
  | .numberFloat .. => by
    intro floatWellFormed
    simp [wellFormed] at floatWellFormed
  | .string value => by
    intro _ text dumped fuel rest enough _
    obtain ⟨fuel, rfl⟩ : ∃ f, fuel = f + 1 := ⟨fuel - 1, by simp only [size] at enough; omega⟩
    exact ⟨_, rest, scan_dumpString dumped, rfl⟩
  | .array elements => by
    intro arrayWellFormed text dumped fuel rest enough _
    obtain ⟨fuel, rfl⟩ : ∃ f, fuel = f + 1 := ⟨fuel - 1, by simp only [size] at enough; omega⟩
    have elementsFuel : sizeElements elements ≤ fuel := by simp only [size] at enough; omega
    simp only [dump] at dumped
    cases dumpedElements : dumpElements elements with
    | error _ => simp [dumpedElements, Functor.map, Except.map] at dumped
    | ok texts =>
      simp only [dumpedElements, Functor.map, Except.map, Except.ok.injEq] at dumped
      subst dumped
      refine ⟨.beginArray, joinCommas texts ++ ascii "]" ++ rest, ?_, ?_⟩
      · simp only [ascii_beginArray, List.singleton_append, List.cons_append, List.append_assoc]
        exact scan_token (by decide) (by decide)
      · by_cases empty : elements = []
        · subst empty
          cases dumpedElements
          simp [parseValue, bind, Except.bind, pure, Except.pure, joinCommas, scan_token, normalize, normalizeElements]
        · obtain ⟨token, after, scanned, parsed⟩ :=
            parseElements_dump elements empty (by simpa [wellFormed] using arrayWellFormed)
              dumpedElements fuel rest [] elementsFuel
          have notEnd : token ≠ .endArray := fun isEnd => by
            rw [isEnd, parseElements_endArray] at parsed
            cases parsed
          simp only [ascii_endArray, List.append_assoc, List.singleton_append] at scanned
          simp [parseValue, bind, Except.bind, pure, Except.pure, scanned, notEnd, parsed, normalize]
  | .object members => by
    intro objectWellFormed text dumped fuel rest enough _
    obtain ⟨fuel, rfl⟩ : ∃ f, fuel = f + 1 := ⟨fuel - 1, by simp only [size] at enough; omega⟩
    have membersFuel : sizeMembers members ≤ fuel := by simp only [size] at enough; omega
    simp only [wellFormed, Bool.and_eq_true, decide_eq_true_eq] at objectWellFormed
    simp only [dump] at dumped
    cases dumpedMembers : dumpMembers members with
    | error _ => simp [dumpedMembers, Functor.map, Except.map] at dumped
    | ok texts =>
      simp only [dumpedMembers, Functor.map, Except.map, Except.ok.injEq] at dumped
      subst dumped
      refine ⟨.beginObject, joinCommas texts ++ ascii "\x7d" ++ rest, ?_, ?_⟩
      · simp only [ascii_beginObject, List.singleton_append, List.cons_append, List.append_assoc]
        exact scan_token (by decide) (by decide)
      · by_cases empty : members = []
        · subst empty
          cases dumpedMembers
          simp [parseValue, bind, Except.bind, pure, Except.pure, joinCommas, scan_token, normalize, normalizeMembers]
        · obtain ⟨token, after, scanned, parsed⟩ :=
            parseMembers_dump members empty objectWellFormed.1 objectWellFormed.2 dumpedMembers
              fuel rest [] membersFuel (by simp)
          have notEnd : token ≠ .endObject := fun isEnd => by
            rw [isEnd, parseMembers_endObject] at parsed
            cases parsed
          simp only [ascii_endObject, List.append_assoc, List.singleton_append] at scanned
          simp [parseValue, bind, Except.bind, pure, Except.pure, scanned, notEnd, parsed, normalize]

/-- **The elements of a dumped array parse back**, after those already read. -/
theorem parseElements_dump : (elements : List Json) → elements ≠ [] →
    elementsWellFormed elements = true → ∀ {texts : List Bytes}, dumpElements elements = .ok texts →
    ∀ (fuel : Nat) (rest : Bytes) (done : List Json), sizeElements elements ≤ fuel →
    ∃ token after, scan (joinCommas texts ++ ascii "]" ++ rest) = .ok (token, after) ∧
      parseElements fuel done token after = .ok (.array (done ++ normalizeElements elements), rest)
  | [] => by
    intro nonEmpty
    exact absurd rfl nonEmpty
  | element :: others => by
    intro _ elementsWell texts dumped fuel rest done enough
    simp only [elementsWellFormed, Bool.and_eq_true] at elementsWell
    obtain ⟨text, otherTexts, dumpedElement, dumpedOthers, rfl⟩ := dumpElements_cons dumped
    obtain ⟨fuel, rfl⟩ : ∃ f, fuel = f + 1 :=
      ⟨fuel - 1, by simp only [sizeElements] at enough; omega⟩
    have elementFuel : size element ≤ fuel := by simp only [sizeElements] at enough; omega
    have othersFuel : sizeElements others ≤ fuel := by simp only [sizeElements] at enough; omega
    have othersParse := fun nonEmpty : others ≠ [] =>
      parseElements_dump others nonEmpty elementsWell.2 dumpedOthers fuel rest
        (done ++ [normalize element]) othersFuel
    rw [joinCommas_cons_append]
    by_cases empty : others = []
    · subst empty
      cases dumpedOthers
      obtain ⟨token, after, scanned, parsed⟩ :=
        parseValue_dump element elementsWell.1 dumpedElement fuel (0x5D :: rest) elementFuel
          (follows_cons (.inr (.inl rfl)))
      refine ⟨token, after, by simpa using scanned, ?_⟩
      simp [parseElements, parsed, bind, Except.bind, pure, Except.pure, scan_token, normalizeElements]
    · obtain ⟨token', after', scanned', parsed'⟩ := othersParse empty
      obtain ⟨other, more, rfl⟩ := List.exists_cons_of_ne_nil empty
      obtain ⟨otherText, moreTexts, -, -, rfl⟩ := dumpElements_cons dumpedOthers
      obtain ⟨token, after, scanned, parsed⟩ :=
        parseValue_dump element elementsWell.1 dumpedElement fuel
          (0x2C :: (joinCommas (otherText :: moreTexts) ++ ascii "]" ++ rest)) elementFuel
          (follows_cons (.inl rfl))
      refine ⟨token, after, by rw [flatMap_commas_cons]; simpa using scanned, ?_⟩
      simp only [ascii_endArray, List.append_assoc, List.singleton_append] at scanned' parsed
      simp [parseElements, parsed, bind, Except.bind, pure, Except.pure, scanned', parsed', normalizeElements]

/-- **The members of a dumped object parse back**, after those already read, whose keys are
below theirs. -/
theorem parseMembers_dump : (members : List (Bytes × Json)) → members ≠ [] →
    membersWellFormed members = true →
    (members.map Prod.fst).Pairwise (fun key other => keyLt key other = true) →
    ∀ {texts : List Bytes}, dumpMembers members = .ok texts →
    ∀ (fuel : Nat) (rest : Bytes) (done : List (Bytes × Json)), sizeMembers members ≤ fuel →
    (∀ before ∈ done, ∀ member ∈ members, keyLt before.1 member.1 = true) →
    ∃ token after, scan (joinCommas texts ++ ascii "\x7d" ++ rest) = .ok (token, after) ∧
      parseMembers fuel done token after = .ok (.object (done ++ normalizeMembers members), rest)
  | [] => by
    intro nonEmpty
    exact absurd rfl nonEmpty
  | (key, value) :: others => by
    intro _ membersWell increasing texts dumped fuel rest done enough below
    simp only [membersWellFormed, Bool.and_eq_true] at membersWell
    simp only [List.map_cons, List.pairwise_cons] at increasing
    obtain ⟨keyText, valueText, otherTexts, dumpedKey, dumpedValue, dumpedOthers, rfl⟩ :=
      dumpMembers_cons dumped
    obtain ⟨fuel, rfl⟩ : ∃ f, fuel = f + 1 :=
      ⟨fuel - 1, by simp only [sizeMembers] at enough; omega⟩
    have valueFuel : size value ≤ fuel := by simp only [sizeMembers] at enough; omega
    have othersFuel : sizeMembers others ≤ fuel := by simp only [sizeMembers] at enough; omega
    have appended : setMember key (normalize value) done = done ++ [(key, normalize value)] :=
      setMember_of_above fun before inDone => below before inDone _ (.head _)
    have othersBelow : ∀ before ∈ done ++ [(key, normalize value)], ∀ member ∈ others,
        keyLt before.1 member.1 = true := by
      intro before inDone member inOthers
      rcases List.mem_append.mp inDone with inOld | isKey
      · exact below before inOld member (.tail _ inOthers)
      · rw [List.mem_singleton] at isKey
        subst isKey
        exact increasing.1 member.1 (List.mem_map_of_mem _ inOthers)
    have othersParse := fun nonEmpty : others ≠ [] =>
      parseMembers_dump others nonEmpty membersWell.2 increasing.2 dumpedOthers fuel rest
        (done ++ [(key, normalize value)]) othersFuel othersBelow
    rw [joinCommas_cons_append]
    simp only [List.append_assoc]
    rw [scan_dumpString dumpedKey]
    refine ⟨.valueString key, _, rfl, ?_⟩
    by_cases empty : others = []
    · subst empty
      cases dumpedOthers
      obtain ⟨token, after, scanned, parsed⟩ :=
        parseValue_dump value membersWell.1.2 dumpedValue fuel (0x7D :: rest) valueFuel
          (follows_cons (.inr (.inr rfl)))
      simp [parseMembers, bind, Except.bind, pure, Except.pure, scan_token, scanned, parsed, appended,
        normalizeMembers]
    · obtain ⟨token', after', scanned', parsed'⟩ := othersParse empty
      obtain ⟨other, more, rfl⟩ := List.exists_cons_of_ne_nil empty
      obtain ⟨otherKey, otherValue⟩ := other
      obtain ⟨otherText, otherValueText, moreTexts, -, -, -, rfl⟩ := dumpMembers_cons dumpedOthers
      obtain ⟨token, after, scanned, parsed⟩ :=
        parseValue_dump value membersWell.1.2 dumpedValue fuel
          (0x2C :: (joinCommas ((otherText ++ ascii ":" ++ otherValueText) :: moreTexts) ++
            ascii "\x7d" ++ rest)) valueFuel (follows_cons (.inl rfl))
      simp only [ascii_endObject, ascii_nameSeparator, List.append_assoc, List.singleton_append,
        List.cons_append, List.nil_append] at scanned scanned' parsed ⊢
      rw [flatMap_commas_cons]
      simp [parseMembers, bind, Except.bind, pure, Except.pure, scanned, parsed, appended, scanned',
        parsed',         normalizeMembers]

end

/-! ## The fuel `parse` gives -/

theorem length_decimal_pos (value : Nat) : 0 < (decimal value).length := by
  simp [decimal, decimalDigits]

theorem length_flatMap_commas_le (texts : List Bytes) :
    (texts.flatMap fun text => ascii "," ++ text).length ≤ (joinCommas texts).length + 1 := by
  cases texts with
  | nil => simp
  | cons text rest => rw [flatMap_commas_cons]; simp

mutual

theorem size_le_length_dump : (value : Json) → ∀ {text : Bytes}, dump value = .ok text →
    size value ≤ text.length
  | .null => by
    intro dumped
    cases dumped
    decide
  | .boolean flag => by
    intro dumped
    cases flag <;> cases dumped <;> decide
  | .numberInteger value => by
    intro dumped
    cases dumped
    have := length_decimal_pos value.val.natAbs
    simp only [size, dumpInteger]
    split <;> simp <;> omega
  | .numberUnsigned value => by
    intro dumped
    cases dumped
    exact length_decimal_pos _
  | .numberFloat negative mantissa exponent => by
    intro dumped
    cases dumped
    have := length_decimal_pos mantissa
    simp only [size, dumpFloat, List.length_append]
    omega
  | .string value => by
    intro dumped
    simp only [dump, dumpString] at dumped
    cases escaped : dumpEscaped .start value with
    | error _ => simp [escaped, Functor.map, Except.map] at dumped
    | ok out =>
      simp only [escaped, Functor.map, Except.map, Except.ok.injEq] at dumped
      subst dumped
      simp [size]
  | .array elements => by
    intro dumped
    simp only [dump] at dumped
    cases dumpedElements : dumpElements elements with
    | error _ => simp [dumpedElements, Functor.map, Except.map] at dumped
    | ok texts =>
      simp only [dumpedElements, Functor.map, Except.map, Except.ok.injEq] at dumped
      subst dumped
      have := sizeElements_le_length elements dumpedElements
      have := length_flatMap_commas_le texts
      simp only [size, List.length_append, ascii_beginArray, ascii_endArray, List.length_singleton]
      omega
  | .object members => by
    intro dumped
    simp only [dump] at dumped
    cases dumpedMembers : dumpMembers members with
    | error _ => simp [dumpedMembers, Functor.map, Except.map] at dumped
    | ok texts =>
      simp only [dumpedMembers, Functor.map, Except.map, Except.ok.injEq] at dumped
      subst dumped
      have := sizeMembers_le_length members dumpedMembers
      have := length_flatMap_commas_le texts
      simp only [size, List.length_append, ascii_beginObject, ascii_endObject, List.length_singleton]
      omega

theorem sizeElements_le_length : (elements : List Json) → ∀ {texts : List Bytes},
    dumpElements elements = .ok texts →
    sizeElements elements ≤ (texts.flatMap fun text => ascii "," ++ text).length
  | [] => by
    intro dumped
    cases dumped
    simp [sizeElements]
  | element :: others => by
    intro dumped
    obtain ⟨text, otherTexts, dumpedElement, dumpedOthers, rfl⟩ := dumpElements_cons dumped
    have := size_le_length_dump element dumpedElement
    have := sizeElements_le_length others dumpedOthers
    simp only [sizeElements, List.flatMap_cons, List.length_append, length_ascii_comma]
    omega

theorem sizeMembers_le_length : (members : List (Bytes × Json)) → ∀ {texts : List Bytes},
    dumpMembers members = .ok texts →
    sizeMembers members ≤ (texts.flatMap fun text => ascii "," ++ text).length
  | [] => by
    intro dumped
    cases dumped
    simp [sizeMembers]
  | (key, value) :: others => by
    intro dumped
    obtain ⟨keyText, valueText, otherTexts, -, dumpedValue, dumpedOthers, rfl⟩ :=
      dumpMembers_cons dumped
    have := size_le_length_dump value dumpedValue
    have := sizeMembers_le_length others dumpedOthers
    simp only [sizeMembers, List.flatMap_cons, List.length_append, length_ascii_comma]
    omega

end

/-- **`parse` reads back what `dump` writes**: the normal form of a well-formed value. -/
theorem parse_dump {value : Json} (wellFormedValue : wellFormed value = true) {text : Bytes}
    (dumped : dump value = .ok text) : parse text = .ok (normalize value) := by
  have enough : size value ≤ 2 * text.length + 1 := by
    have := size_le_length_dump value dumped
    omega
  obtain ⟨token, after, scanned, parsed⟩ :=
    parseValue_dump value wellFormedValue dumped _ [] enough follows_nil
  rw [List.append_nil] at scanned
  have noBom : stripBom text = .ok text := by
    match text, scanned with
    | [], _ => rfl
    | byte :: rest, scanned =>
      by_cases bom : byte = 0xEF
      · subst bom
        rw [scan_cons (by decide), show scanStart 0xEF = .invalid by decide] at scanned
        cases scanned
      · simp [stripBom, bom]
  simp [parse, noBom, bind, Except.bind, pure, Except.pure, scanned, parsed, scan_nil]

/-! ## What `dump` accepts -/

theorem dumpEscaped_ok {state : Utf8State} {value : Bytes} (valid : state.run value = some .start) :
    ∃ out, dumpEscaped state value = .ok out := by
  induction value generalizing state with
  | nil =>
    simp only [Utf8State.run, Option.some.injEq] at valid
    subst valid
    exact ⟨[], rfl⟩
  | cons byte rest inductionHypothesis =>
    simp only [Utf8State.run] at valid
    split at valid
    · rename_i next stepped
      obtain ⟨out, restDumped⟩ := inductionHypothesis valid
      exact ⟨_, by simp [dumpEscaped, stepped, restDumped, Functor.map, Except.map]; rfl⟩
    · cases valid

theorem dumpString_ok {value : Bytes} (valid : validUtf8 value = true) :
    ∃ text, dumpString value = .ok text := by
  obtain ⟨out, dumped⟩ := dumpEscaped_ok (by simpa [validUtf8] using valid)
  exact ⟨_, by simp [dumpString, dumped, Functor.map, Except.map]; rfl⟩

theorem dumpEscaped_error {state : Utf8State} {value : Bytes}
    (refused : state.run value ≠ some .start) : dumpEscaped state value = .error .invalidUtf8 := by
  induction value generalizing state with
  | nil => cases state <;> simp_all [dumpEscaped, Utf8State.run]
  | cons byte rest inductionHypothesis =>
    simp only [Utf8State.run] at refused
    simp only [dumpEscaped]
    split
    · rfl
    · rename_i next stepped
      simp only [stepped] at refused
      simp [inductionHypothesis refused, Functor.map, Except.map]

theorem dumpString_error {value : Bytes} (invalid : validUtf8 value = false) :
    dumpString value = .error .invalidUtf8 := by
  have refused : Utf8State.start.run value ≠ some .start := by simpa [validUtf8] using invalid
  simp [dumpString, dumpEscaped_error refused, Functor.map, Except.map]

mutual

theorem dump_ok : (value : Json) → wellFormed value = true → ∃ text, dump value = .ok text
  | .null | .boolean true | .boolean false | .numberInteger _ | .numberUnsigned _ => fun _ =>
    ⟨_, rfl⟩
  | .numberFloat .. => fun floatWellFormed => by simp [wellFormed] at floatWellFormed
  | .string value => fun stringWellFormed => dumpString_ok stringWellFormed
  | .array elements => fun arrayWellFormed => by
    obtain ⟨texts, dumped⟩ := dumpElements_ok elements (by simpa [wellFormed] using arrayWellFormed)
    exact ⟨_, by simp [dump, dumped, Functor.map, Except.map]; rfl⟩
  | .object members => fun objectWellFormed => by
    simp only [wellFormed, Bool.and_eq_true] at objectWellFormed
    obtain ⟨texts, dumped⟩ := dumpMembers_ok members objectWellFormed.1
    exact ⟨_, by simp [dump, dumped, Functor.map, Except.map]; rfl⟩

theorem dumpElements_ok : (elements : List Json) → elementsWellFormed elements = true →
    ∃ texts, dumpElements elements = .ok texts
  | [] => fun _ => ⟨[], rfl⟩
  | element :: rest => fun elementsWell => by
    simp only [elementsWellFormed, Bool.and_eq_true] at elementsWell
    obtain ⟨text, dumped⟩ := dump_ok element elementsWell.1
    obtain ⟨texts, restDumped⟩ := dumpElements_ok rest elementsWell.2
    exact ⟨_, by simp [dumpElements, dumped, restDumped, bind, Except.bind, pure, Except.pure]; rfl⟩

theorem dumpMembers_ok : (members : List (Bytes × Json)) → membersWellFormed members = true →
    ∃ texts, dumpMembers members = .ok texts
  | [] => fun _ => ⟨[], rfl⟩
  | (key, value) :: rest => fun membersWell => by
    simp only [membersWellFormed, Bool.and_eq_true] at membersWell
    obtain ⟨keyText, keyDumped⟩ := dumpString_ok membersWell.1.1
    obtain ⟨text, dumped⟩ := dump_ok value membersWell.1.2
    obtain ⟨texts, restDumped⟩ := dumpMembers_ok rest membersWell.2
    exact ⟨_, by simp [dumpMembers, keyDumped, dumped, restDumped, bind, Except.bind, pure,
      Except.pure]; rfl⟩

end

/-- **The JSON round trip**: a well-formed value dumps, and its dump parses to its normal form. -/
theorem dump_parse {value : Json} (wellFormedValue : wellFormed value = true) :
    ∃ text, dump value = .ok text ∧ parse text = .ok (normalize value) := by
  obtain ⟨text, dumped⟩ := dump_ok value wellFormedValue
  exact ⟨text, dumped, parse_dump wellFormedValue dumped⟩

theorem dump_parse_escapedString :
    let value : Json := .object [(ascii "a", .numberInteger ⟨-5, by omega, by omega⟩),
      (ascii "b", .array [.string (ascii "q\"\\"), .null])]
    wellFormed value = true ∧ ∃ text, dump value = .ok text ∧ parse text = .ok (normalize value) :=
  ⟨by decide, dump_parse (by decide)⟩

end HomeObject.Json
