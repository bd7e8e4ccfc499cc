import HomeObject.Json.Lexer

/-!
Contract: `json::parse(first, last)`, the JSON library's parser with its DOM builder, with
exceptions on and in strict mode.

Owns:
- `parseValue`, `parseElements` and `parseMembers`, the recursive descent `sax_parse_internal`
  performs with its explicit stack: a value from its first token, the elements of an array after
  its first element's token, the members of an object after its first key's token. The DOM
  builder appends array elements and assigns object members through `operator[]`, so that a
  repeated key keeps its last value at its sorted place (`setMember`);
- `floatOverflows`, the `std::isfinite` check of a floating-point token (`out_of_range` 406);
- `parse`: the byte-order mark, one value, then nothing but whitespace up to the end of input.

The recursion carries fuel: `parse` gives it twice the input's length and one. Every descent into an
array or object, and every further element or member, consumes a token; for the texts `dump` writes,
the fuel a value needs is at most the text's length (`size_le_length_dump` in `Json.RoundTrip`).
-/

set_option autoImplicit false

namespace HomeObject.Json

/-- `!std::isfinite(strtod(token))`: the decimal is at least `2^1024 - 2^970`, the least value that
rounds to infinity in a double. -/
def floatOverflows (mantissa : Nat) (exponent : Int) : Bool :=
  if 0 ≤ exponent then decide (2 ^ 1024 - 2 ^ 970 ≤ mantissa * 10 ^ exponent.toNat)
  else decide ((2 ^ 1024 - 2 ^ 970) * 10 ^ exponent.natAbs ≤ mantissa)

mutual

/-- The value that starts with `token`, and the input after it. -/
def parseValue : Nat → Token → Bytes → Except JsonError (Json × Bytes)
  | 0, _, _ => .error .parseError
  | fuel + 1, token, rest =>
      match token with
      | .beginArray => do
          let (next, rest) ← scan rest
          if next = .endArray then pure (.array [], rest) else parseElements fuel [] next rest
      | .beginObject => do
          let (next, rest) ← scan rest
          if next = .endObject then pure (.object [], rest) else parseMembers fuel [] next rest
      | .valueFloat negative mantissa exponent =>
          if floatOverflows mantissa exponent then .error .numberOverflow
          else .ok (.numberFloat negative mantissa exponent, rest)
      | .literalFalse => .ok (.boolean false, rest)
      | .literalNull => .ok (.null, rest)
      | .literalTrue => .ok (.boolean true, rest)
      | .valueInteger value => .ok (.numberInteger value, rest)
      | .valueString value => .ok (.string value, rest)
      | .valueUnsigned value => .ok (.numberUnsigned value, rest)
      | _ => .error .parseError

/-- The rest of an array whose next element starts with `token`, after `elements`: a value, then
`,` and the next element, or `]`. -/
def parseElements : Nat → List Json → Token → Bytes → Except JsonError (Json × Bytes)
  | 0, _, _, _ => .error .parseError
  | fuel + 1, elements, token, rest => do
      let (element, rest) ← parseValue fuel token rest
      let (next, rest) ← scan rest
      match next with
      | .valueSeparator => do
          let (token, rest) ← scan rest
          parseElements fuel (elements ++ [element]) token rest
      | .endArray => pure (.array (elements ++ [element]), rest)
      | _ => .error .parseError

/-- The rest of an object whose next member starts with `token`, after `members`: a key, `:`, a
value, then `,` and the next member, or `}`. -/
def parseMembers : Nat → List (Bytes × Json) → Token → Bytes → Except JsonError (Json × Bytes)
  | fuel + 1, members, .valueString key, rest => do
      let (separator, rest) ← scan rest
      if separator ≠ .nameSeparator then .error .parseError
      else
        let (token, rest) ← scan rest
        let (value, rest) ← parseValue fuel token rest
        let members := setMember key value members
        let (next, rest) ← scan rest
        match next with
        | .valueSeparator => do
            let (token, rest) ← scan rest
            parseMembers fuel members token rest
        | .endObject => pure (.object members, rest)
        | _ => .error .parseError
  | _, _, _, _ => .error .parseError

end

/-- `json::parse(first, last)`: a byte-order mark, one value, then the end of input. -/
def parse (input : Bytes) : Except JsonError Json := do
  let input ← stripBom input
  let (token, rest) ← scan input
  let (value, rest) ← parseValue (2 * input.length + 1) token rest
  let (last, _) ← scan rest
  if last = .endOfInput then pure value else .error .parseError

example : (parse (ascii " [1, \"x\"] ")).toOption.isSome := by decide

example : (parse (ascii "[1, \"x\"] 2")).toOption.isNone := by decide

end HomeObject.Json
