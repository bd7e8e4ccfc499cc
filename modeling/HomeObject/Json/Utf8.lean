import HomeObject.Core.Bytes

/-!
Contract: well-formed UTF-8 (RFC 3629, Table 3-7 of Unicode) as a byte-at-a-time machine.

Owns: `Utf8State`, its `step` and `run`, and `validUtf8`. Both places of the JSON library that
look at raw bytes of a string use this one machine: the serializer, which refuses a string that
is not well-formed UTF-8 (`dump` with the default strict error handler), and the lexer, which
checks the byte ranges of every multi-byte character it copies. The two accept exactly the
sequences this machine accepts.
-/

set_option autoImplicit false

namespace HomeObject.Json

/-- Where a UTF-8 decoder stands between two bytes. -/
inductive Utf8State where
  /-- Between characters. -/
  | start
  /-- One continuation byte `80..BF` owed. -/
  | cont1
  /-- Two owed. -/
  | cont2
  /-- Three owed. -/
  | cont3
  /-- After `E0`: one byte `A0..BF`, then one continuation. -/
  | afterE0
  /-- After `ED`: one byte `80..9F`, then one continuation. -/
  | afterED
  /-- After `F0`: one byte `90..BF`, then two continuations. -/
  | afterF0
  /-- After `F4`: one byte `80..8F`, then two continuations. -/
  | afterF4
deriving DecidableEq, Repr

namespace Utf8State

/-- The state after the first byte of a character, `none` for a byte no character starts with:
`80..C1` and `F5..FF`. -/
def lead (byte : Nat) : Option Utf8State :=
  if byte ≤ 0x7F then some .start
  else if 0xC2 ≤ byte ∧ byte ≤ 0xDF then some .cont1
  else if byte = 0xE0 then some .afterE0
  else if 0xE1 ≤ byte ∧ byte ≤ 0xEC then some .cont2
  else if byte = 0xED then some .afterED
  else if 0xEE ≤ byte ∧ byte ≤ 0xEF then some .cont2
  else if byte = 0xF0 then some .afterF0
  else if 0xF1 ≤ byte ∧ byte ≤ 0xF3 then some .cont3
  else if byte = 0xF4 then some .afterF4
  else none

def within (low high byte : Nat) (next : Utf8State) : Option Utf8State :=
  if low ≤ byte ∧ byte ≤ high then some next else none

def step : Utf8State → UInt8 → Option Utf8State
  | .start, byte => lead byte.toNat
  | .cont1, byte => within 0x80 0xBF byte.toNat .start
  | .cont2, byte => within 0x80 0xBF byte.toNat .cont1
  | .cont3, byte => within 0x80 0xBF byte.toNat .cont2
  | .afterE0, byte => within 0xA0 0xBF byte.toNat .cont1
  | .afterED, byte => within 0x80 0x9F byte.toNat .cont1
  | .afterF0, byte => within 0x90 0xBF byte.toNat .cont2
  | .afterF4, byte => within 0x80 0x8F byte.toNat .cont2

/-- Every byte of a sequence, or `none` at the first refused one. -/
def run : Utf8State → Bytes → Option Utf8State
  | state, [] => some state
  | state, byte :: rest =>
      match state.step byte with
      | some next => run next rest
      | none => none

theorem lead_eq_start {byte : Nat} : lead byte = some .start ↔ byte ≤ 0x7F := by
  unfold lead
  simp only [ite_eq_iff, Option.some.injEq, reduceCtorEq, and_false, and_true, or_false]

theorem within_eq_some {low high byte : Nat} {next state : Utf8State} :
    within low high byte next = some state ↔ (low ≤ byte ∧ byte ≤ high) ∧ next = state := by
  simp only [within, ite_eq_iff, Option.some.injEq, reduceCtorEq, and_false, or_false]

theorem step_start_of_ascii {byte : UInt8} (ascii : byte.toNat < 0x80) :
    step .start byte = some .start :=
  lead_eq_start.mpr (by omega)

theorem step_eq_start_iff {state : Utf8State} {byte : UInt8} :
    state.step byte = some .start ↔
      (state = .start ∧ byte.toNat < 0x80) ∨
        (state = .cont1 ∧ 0x80 ≤ byte.toNat ∧ byte.toNat ≤ 0xBF) := by
  cases state <;> simp [step, lead_eq_start, within_eq_some]
  omega

end Utf8State

/-- The string's bytes are well-formed UTF-8. -/
def validUtf8 (bytes : Bytes) : Bool := Utf8State.start.run bytes == some .start

theorem validUtf8_of_ascii {bytes : Bytes} (ascii : ∀ byte ∈ bytes, byte.toNat < 0x80) :
    validUtf8 bytes = true := by
  suffices read : Utf8State.start.run bytes = some .start by simp [validUtf8, read]
  induction bytes with
  | nil => rfl
  | cons byte rest inductionHypothesis =>
    simp only [Utf8State.run, Utf8State.step_start_of_ascii (ascii byte (.head _))]
    exact inductionHypothesis fun other member => ascii other (.tail _ member)

end HomeObject.Json
