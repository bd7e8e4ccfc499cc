import Mathlib

/-!
Contract: the byte strings and packed fixed-width fields of the PG manager's records.

Owns:
- `Bytes`, the contents of a `std::string`, a `sisl::blob` or a region of a buffer;
- the little-endian layout of a packed unsigned field (`leBytes`, `leValue`) and its
  round-trip laws;
- reads and writes of a region of a buffer (`readAt`, `writeAt`, the `memcpy` of the
  sources) with their pointwise laws, and the C-string read `cStringAt` of
  `std::string(char*)`;
- `Overwrites`: a run of writes inside a buffer, which is done once however often it is
  repeated (`Overwrites.idem`).

Does not own: what any region means; the superblock owns its offsets.
-/

set_option autoImplicit false

namespace HomeObject

/-- The bytes of a `std::string`, of a `sisl::blob`, or of a region of a buffer. -/
abbrev Bytes := List UInt8

theorem uint8_ofNat_toNat (byte : UInt8) : UInt8.ofNat byte.toNat = byte :=
  UInt8.toNat.inj (Nat.mod_eq_of_lt byte.toNat_lt_size)

/-! ## Packed little-endian fields -/

/-- The `width` little-endian bytes of `value`, bits above `8 * width` dropped. -/
def leBytes : Nat → Nat → Bytes
  | 0, _ => []
  | width + 1, value => UInt8.ofNat (value % 256) :: leBytes width (value / 256)

/-- The unsigned value whose little-endian bytes these are. -/
def leValue : Bytes → Nat
  | [] => 0
  | low :: high => low.toNat + 256 * leValue high

@[simp] theorem length_leBytes (width value : Nat) : (leBytes width value).length = width := by
  induction width generalizing value with
  | zero => rfl
  | succ width inductionHypothesis => simp [leBytes, inductionHypothesis]

theorem leValue_leBytes (width value : Nat) :
    leValue (leBytes width value) = value % 256 ^ width := by
  induction width generalizing value with
  | zero => simp [leBytes, leValue, Nat.mod_one]
  | succ width inductionHypothesis =>
      simp only [leBytes, leValue, inductionHypothesis]
      show value % 256 % 256 + 256 * (value / 256 % 256 ^ width) = value % 256 ^ (width + 1)
      rw [Nat.pow_succ, Nat.mul_comm (256 ^ width), Nat.mod_mul, Nat.mod_mod]

theorem leValue_leBytes_of_lt {width value : Nat} (small : value < 256 ^ width) :
    leValue (leBytes width value) = value := by
  rw [leValue_leBytes, Nat.mod_eq_of_lt small]

theorem leBytes_leValue (bytes : Bytes) : leBytes bytes.length (leValue bytes) = bytes := by
  induction bytes with
  | nil => rfl
  | cons low high inductionHypothesis =>
      have lowSmall : low.toNat < 256 := low.toNat_lt_size
      have lowMod : (low.toNat + 256 * leValue high) % 256 = low.toNat := by
        show _ = low.toNat; omega
      have highDiv : (low.toNat + 256 * leValue high) / 256 = leValue high := by
        show _ = leValue high; omega
      simp only [List.length_cons, leBytes, leValue, lowMod, highDiv, inductionHypothesis,
        uint8_ofNat_toNat]

/-! ## Regions of a buffer -/

def readAt (buffer : Bytes) (off len : Nat) : Bytes := (buffer.drop off).take len

/-- `memcpy(buffer + off, source, source.size())`: the buffer with the region at `off`
overwritten by `source`. -/
def writeAt (buffer : Bytes) (off : Nat) (source : Bytes) : Bytes :=
  buffer.take off ++ source ++ buffer.drop (off + source.length)

/-- `std::string(buffer + off)`: the bytes from `off` up to the first NUL. A buffer with no NUL
after `off` is read to its end; the program would read past its allocation there. -/
def cStringAt (buffer : Bytes) (off : Nat) : Bytes := (buffer.drop off).takeWhile (· != 0)

theorem zero_not_mem_cStringAt (buffer : Bytes) (off : Nat) : 0 ∉ cStringAt buffer off := fun held =>
  absurd (List.mem_takeWhile_imp held) (by decide)

theorem length_writeAt {buffer source : Bytes} {off : Nat}
    (fits : off + source.length ≤ buffer.length) :
    (writeAt buffer off source).length = buffer.length := by
  simp only [writeAt, List.length_append, List.length_take, List.length_drop]
  omega

theorem getElem?_readAt (buffer : Bytes) (off len index : Nat) :
    (readAt buffer off len)[index]? = if index < len then buffer[off + index]? else none := by
  simp [readAt, List.getElem?_take, List.getElem?_drop]

theorem getElem?_writeAt {buffer source : Bytes} {off : Nat}
    (fits : off + source.length ≤ buffer.length) (index : Nat) :
    (writeAt buffer off source)[index]? =
      if off ≤ index ∧ index < off + source.length then source[index - off]?
      else buffer[index]? := by
  unfold writeAt
  split
  · rw [List.getElem?_append_left (by simp; omega), List.getElem?_append_right (by simp; omega)]
    congr 1
    simp
    omega
  · by_cases below : index < off
    · rw [List.getElem?_append_left (by simp; omega), List.getElem?_append_left (by simp; omega),
        List.getElem?_take_of_lt below]
    · rw [List.getElem?_append_right (by simp; omega), List.getElem?_drop]
      congr 1
      simp
      omega

/-- **A write is read back.** -/
theorem readAt_writeAt_self {buffer source : Bytes} {off : Nat}
    (fits : off + source.length ≤ buffer.length) :
    readAt (writeAt buffer off source) off source.length = source := by
  apply List.ext_getElem?
  intro index
  rw [getElem?_readAt, getElem?_writeAt fits]
  by_cases inside : index < source.length
  · simp [inside]
  · simp [inside, List.getElem?_eq_none (Nat.le_of_not_lt inside)]

/-- **A write leaves every disjoint region as it was.** -/
theorem readAt_writeAt_of_disjoint {buffer source : Bytes} {off off' len : Nat}
    (fits : off + source.length ≤ buffer.length)
    (disjoint : off' + len ≤ off ∨ off + source.length ≤ off') :
    readAt (writeAt buffer off source) off' len = readAt buffer off' len := by
  apply List.ext_getElem?
  intro index
  rw [getElem?_readAt, getElem?_readAt, getElem?_writeAt fits]
  by_cases inRange : index < len
  · have outside : ¬ (off ≤ off' + index ∧ off' + index < off + source.length) := by omega
    simp [inRange, outside]
  · simp [inRange]

/-- **A write is read back piecewise**: a region inside the written one reads the source. -/
theorem readAt_writeAt_inside {buffer source : Bytes} {off start len : Nat}
    (fits : off + source.length ≤ buffer.length) (inside : start + len ≤ source.length) :
    readAt (writeAt buffer off source) (off + start) len = readAt source start len := by
  apply List.ext_getElem?
  intro index
  rw [getElem?_readAt, getElem?_readAt, getElem?_writeAt fits]
  by_cases inRange : index < len
  · have within : off ≤ off + start + index ∧ off + start + index < off + source.length := by omega
    simp only [inRange, within, and_self, if_true]
    congr 1
    omega
  · simp [inRange]

theorem readAt_writeAt_prefix {buffer source : Bytes} {off len : Nat}
    (fits : off + source.length ≤ buffer.length) (short : source.length ≤ len) :
    readAt (writeAt buffer off source) off len =
      source ++ readAt buffer (off + source.length) (len - source.length) := by
  apply List.ext_getElem?
  intro index
  rw [getElem?_readAt, getElem?_writeAt fits]
  by_cases written : index < source.length
  · simp [written, List.getElem?_append_left, show index < len by omega]
  · rw [List.getElem?_append_right (by omega), getElem?_readAt]
    by_cases inRange : index < len
    · have after : ¬ (off ≤ off + index ∧ off + index < off + source.length) := by omega
      simp only [inRange, after, if_true, if_false, show index - source.length < len - source.length by omega]
      congr 1
      omega
    · simp only [inRange, if_false, show ¬ index - source.length < len - source.length by omega]

theorem readAt_readAt {buffer : Bytes} {off len start len' : Nat} (inside : start + len' ≤ len) :
    readAt (readAt buffer off len) start len' = readAt buffer (off + start) len' := by
  apply List.ext_getElem?
  intro index
  rw [getElem?_readAt, getElem?_readAt, getElem?_readAt]
  by_cases inRange : index < len'
  · have within : start + index < len := by omega
    simp [inRange, within, Nat.add_assoc]
  · simp [inRange]

theorem length_readAt_of_le {buffer : Bytes} {off len : Nat} (fits : off + len ≤ buffer.length) :
    (readAt buffer off len).length = len := by
  simp only [readAt, List.length_take, List.length_drop]
  omega

/-! ## Runs of writes -/

/-- `change` overwrites some bytes of every buffer of `length` bytes with the same values, the
same for every buffer, and keeps the others. -/
def Overwrites (length : Nat) (change : Bytes → Bytes) : Prop :=
  ∃ written : Nat → Option UInt8, ∀ buffer : Bytes, buffer.length = length →
    (change buffer).length = length ∧
      ∀ index, (change buffer)[index]? = (written index).elim buffer[index]? some

theorem overwrites_writeAt {length off : Nat} {source : Bytes}
    (fits : off + source.length ≤ length) : Overwrites length (writeAt · off source) :=
  ⟨fun index => if off ≤ index ∧ index < off + source.length then source[index - off]? else none,
    fun buffer sized => ⟨length_writeAt (sized ▸ fits) |>.trans sized, fun index => by
      rw [getElem?_writeAt (sized ▸ fits)]
      by_cases inside : off ≤ index ∧ index < off + source.length
      · have present : index - off < source.length := by omega
        simp [inside, List.getElem?_eq_getElem present]
      · simp [inside]⟩⟩

theorem Overwrites.comp {length : Nat} {first second : Bytes → Bytes}
    (overwritesFirst : Overwrites length first) (overwritesSecond : Overwrites length second) :
    Overwrites length (second ∘ first) := by
  obtain ⟨written, writesFirst⟩ := overwritesFirst
  obtain ⟨written', writesSecond⟩ := overwritesSecond
  refine ⟨fun index => (written' index).or (written index), fun buffer sized => ?_⟩
  obtain ⟨firstSized, firstBytes⟩ := writesFirst buffer sized
  obtain ⟨secondSized, secondBytes⟩ := writesSecond _ firstSized
  refine ⟨secondSized, fun index => ?_⟩
  rw [Function.comp_apply, secondBytes, firstBytes]
  dsimp only
  cases written' index <;> rfl

/-- **A run of writes done twice is done once.** -/
theorem Overwrites.idem {length : Nat} {change : Bytes → Bytes} (overwrites : Overwrites length change)
    {buffer : Bytes} (sized : buffer.length = length) : change (change buffer) = change buffer := by
  obtain ⟨written, bytes⟩ := overwrites
  obtain ⟨changedSized, changedBytes⟩ := bytes buffer sized
  refine List.ext_getElem? fun index => ?_
  rw [(bytes _ changedSized).2, changedBytes]
  cases written index <;> rfl

end HomeObject
