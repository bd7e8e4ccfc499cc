import HomeObject.Json.Value

/-!
Contract: how `serialize_pg_info` and `deserialize_pg_info` reach into JSON values.

Owns:
- `assign`, `json[key] = value` on a null or an object, and `pushBack`, `push_back` on a null or an
  array;
- `index`, the non-const `operator[](key)`; `constIndex`, the const one; `items`, what a range-for
  over a value visits;
- the `get<T>()` conversions the PG manager uses: `getArithmetic` for the arithmetic types, whose
  instances `getUInt16`, `getUInt64` and `getInt32` narrow by `static_cast`, and `getString`.

The non-const `operator[]` inserts a null for a missing key and turns a null into an object. No
read of the PG manager sees those insertions other than as the null they insert, so `index` returns
that null and leaves the value as it is.
-/

set_option autoImplicit false

namespace HomeObject.Json

/-- `json[key] = value` where `json` is null or an object (null becomes an object). The PG manager
assigns through keys of such values only; on another value the library throws `type_error` 305,
and the model leaves it as it is. -/
def assign (json : Json) (key : Bytes) (value : Json) : Json :=
  match json with
  | .null => .object (setMember key value [])
  | .object members => .object (setMember key value members)
  | other => other

/-- `json.push_back(value)` where `json` is null or an array (null becomes an array). The PG
manager pushes onto such values only; on another value the library throws `type_error` 308, and the
model leaves it as it is. -/
def pushBack (json : Json) (value : Json) : Json :=
  match json with
  | .null => .array [value]
  | .array elements => .array (elements ++ [value])
  | other => other

/-- The non-const `operator[](key)`: a member of an object, or null for a missing key or a null
value; `type_error` 305 on any other value. -/
def index (json : Json) (key : Bytes) : Except JsonError Json :=
  match json with
  | .null => .ok .null
  | .object members => .ok ((members.lookup key).getD .null)
  | _ => .error .keyOnNonObject

/-- The const `operator[](key)`: a member of an object, a failed `JSON_ASSERT` for a missing key,
`type_error` 305 on any other value (null included). -/
def constIndex (json : Json) (key : Bytes) : Except JsonError Json :=
  match json with
  | .object members =>
      match members.lookup key with
      | some value => .ok value
      | none => .error .missingKey
  | _ => .error .keyOnNonObject

/-- The values a range-for visits: an array's elements, an object's values in key order, nothing
for null, and a primitive value itself. -/
def items : Json → List Json
  | .null => []
  | .array elements => elements
  | .object members => members.map Prod.snd
  | other => [other]

/-- The integer toward which `static_cast` truncates a decimal. -/
def truncateDecimal (negative : Bool) (mantissa : Nat) (exponent : Int) : Int :=
  let magnitude : Nat :=
    if 0 ≤ exponent then mantissa * 10 ^ exponent.toNat else mantissa / 10 ^ exponent.natAbs
  if negative then -magnitude else magnitude

/-- `get<T>()` for an arithmetic `T`, as the integer before `static_cast` narrows it: a number's
value, a float truncated toward zero; a boolean as 0 or 1 when `acceptsBoolean` (the generic
`from_json`; that of `number_unsigned_t` goes through `get_arithmetic_value`, which refuses it);
`type_error` 302 otherwise. -/
def getArithmetic (acceptsBoolean : Bool) (json : Json) : Except JsonError Int :=
  match json with
  | .numberUnsigned value => .ok value.toNat
  | .numberInteger value => .ok value.val
  | .numberFloat negative mantissa exponent => .ok (truncateDecimal negative mantissa exponent)
  | .boolean flag => if acceptsBoolean then .ok (if flag then 1 else 0) else .error .typeMismatch
  | _ => .error .typeMismatch

/-- `get<uint16_t>()`. A float out of range is undefined behaviour in C++; the model wraps it as
it wraps the integers. -/
def getUInt16 (json : Json) : Except JsonError UInt16 :=
  (fun value => UInt16.ofNat (value % 2 ^ 16).toNat) <$> getArithmetic true json

/-- `get<uint64_t>()`, that is `get<number_unsigned_t>()`. -/
def getUInt64 (json : Json) : Except JsonError UInt64 :=
  (fun value => UInt64.ofNat (value % 2 ^ 64).toNat) <$> getArithmetic false json

/-- `get<int32_t>()`. -/
def getInt32 (json : Json) : Except JsonError Int32 :=
  Int32.wrap <$> getArithmetic true json

/-- `get<std::string>()`: `type_error` 302 unless a string. -/
def getString : Json → Except JsonError Bytes
  | .string value => .ok value
  | _ => .error .typeMismatch

/-! ## What the conversions give back -/

theorem getUInt16_numberUnsigned (value : UInt16) :
    getUInt16 (.numberUnsigned value.toUInt64) = .ok value := by
  have small : value.toNat < 65536 := value.toNat_lt_size
  have widened : value.toUInt64.toNat = value.toNat := rfl
  simp only [getUInt16, getArithmetic, Functor.map, Except.map, Except.ok.injEq, widened]
  apply UInt16.toNat.inj
  rw [UInt16.toNat_ofNat_of_lt (by show _ < 65536; omega)]
  omega

theorem getUInt64_numberUnsigned (value : UInt64) :
    getUInt64 (.numberUnsigned value) = .ok value := by
  have small : value.toNat < 2 ^ 64 := value.toNat_lt_size
  simp only [getUInt64, getArithmetic, Functor.map, Except.map, Except.ok.injEq]
  apply UInt64.toNat.inj
  rw [UInt64.toNat_ofNat_of_lt (by show _ < 2 ^ 64; omega)]
  omega

theorem getInt32_of_arithmetic {json : Json} {value : Int32}
    (read : getArithmetic true json = .ok value.val) : getInt32 json = .ok value := by
  simp only [getInt32, read]
  exact congrArg Except.ok (Int32.wrap_val value)

end HomeObject.Json
