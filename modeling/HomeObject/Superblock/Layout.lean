import HomeObject.Core.Types

/-!
Contract: `HSHomeObject::pg_info_superblk`, the packed PG superblock with its variable-length
trailer, and the copy `operator=` that `copy` and the copy constructor go through.

Owns:
- the packed sizes and offsets: `sizeof(pg_members) = 52`, `sizeof(chunk_num_t) = 2`, the
  82-byte header before `data`, and `size()`;
- the trailer reads: member slot `i` at byte `52 * i` of `data` (id, then a 32-byte name, then
  a little-endian `int32_t` priority), and `get_chunk_ids()` at byte `52 * num_members`;
- `assign`, the field-by-field `operator=` with its two `memcpy`s, and what it copies
  (`assign_copiesNamedFields`).

The header fields are kept typed; only the trailer, whose regions the sources address by byte
offset, is kept as bytes. `data` holds the buffer from the `data` member to its end.

Does not own: how the trailer is written by the constructors (`Superblock.Members`).
-/

set_option autoImplicit false

namespace HomeObject.Superblock

/-- `homestore::chunk_num_t`. -/
abbrev ChunkNum := UInt16

/-- `pg_members::max_name_len`. -/
def maxNameLen : Nat := 32

/-- `sizeof(pg_members)`: a 16-byte id, a 32-byte name and a 4-byte priority, packed. -/
def pgMembersSize : Nat := 52

/-- `sizeof(homestore::chunk_num_t)`. -/
def chunkNumSize : Nat := 2

/-- `sizeof(pg_info_superblk) - sizeof(char)`: the packed header before `data`. -/
def headerSize : Nat := 82

/-- `pg_info_superblk`. -/
structure PgInfoSuperblk where
  id : UInt16
  numMembers : UInt32
  numChunks : UInt32
  replicaSetUuid : Uuid
  pgSize : UInt64
  indexTableUuid : Uuid
  blobSequenceNum : UInt64
  activeBlobCount : UInt64
  tombstoneBlobCount : UInt64
  totalOccupiedBlkCount : UInt64
  data : Bytes
deriving DecidableEq, Repr

namespace PgInfoSuperblk

/-- The bytes of the trailer: `num_members` member slots, then `num_chunks` chunk ids. -/
def trailerSize (numMembers numChunks : Nat) : Nat :=
  numMembers * pgMembersSize + numChunks * chunkNumSize

/-- `size()`, computed in `size_t` and returned as `uint32_t`. -/
def size (sb : PgInfoSuperblk) : Nat :=
  (headerSize + trailerSize sb.numMembers.toNat sb.numChunks.toNat) % 2 ^ 32

/-- The buffer holds the whole trailer its counts describe. -/
def Fits (sb : PgInfoSuperblk) : Prop :=
  trailerSize sb.numMembers.toNat sb.numChunks.toNat ≤ sb.data.length

instance (sb : PgInfoSuperblk) : Decidable sb.Fits := inferInstanceAs (Decidable (_ ≤ _))

/-- Offset in `data` of `get_chunk_ids()`: `num_members * sizeof(pg_members)`. -/
def chunkIdsOffset (sb : PgInfoSuperblk) : Nat := sb.numMembers.toNat * pgMembersSize

/-- The bytes of the member array, `get_pg_members()` through `num_members` slots. -/
def memberBytes (sb : PgInfoSuperblk) : Bytes := readAt sb.data 0 sb.chunkIdsOffset

/-- `get_pg_members()[slot].id`. -/
def slotId (sb : PgInfoSuperblk) (slot : Nat) : Uuid :=
  Uuid.ofBytes (readAt sb.data (slot * pgMembersSize) 16)

/-- `std::string(get_pg_members()[slot].name)`: read up to the first NUL, which may lie past
the 32-byte field. -/
def slotName (sb : PgInfoSuperblk) (slot : Nat) : Bytes :=
  cStringAt sb.data (slot * pgMembersSize + 16)

/-- `get_pg_members()[slot].priority`. -/
def slotPriority (sb : PgInfoSuperblk) (slot : Nat) : Int32 :=
  Int32.ofLE (readAt sb.data (slot * pgMembersSize + 48) 4)

/-- `get_chunk_ids()[k]` for `k < num_chunks`. -/
def getChunkIds (sb : PgInfoSuperblk) : List ChunkNum :=
  (List.range sb.numChunks.toNat).map fun k =>
    UInt16.ofNat (leValue (readAt sb.data (sb.chunkIdsOffset + k * chunkNumSize) chunkNumSize))

/-- `pg_info_superblk::operator=`. The header fields it names are assigned, `num_members` and
`num_chunks` first, so that both `memcpy`s size and place their regions by the new counts. -/
def assign (dst rhs : PgInfoSuperblk) : PgInfoSuperblk :=
  let dst := { dst with
    id := rhs.id
    numMembers := rhs.numMembers
    numChunks := rhs.numChunks
    pgSize := rhs.pgSize
    replicaSetUuid := rhs.replicaSetUuid
    indexTableUuid := rhs.indexTableUuid
    blobSequenceNum := rhs.blobSequenceNum }
  let dst := { dst with
    data := writeAt dst.data 0 (readAt rhs.data 0 (pgMembersSize * dst.numMembers.toNat)) }
  { dst with
    data := writeAt dst.data dst.chunkIdsOffset
      (readAt rhs.data rhs.chunkIdsOffset (chunkNumSize * dst.numChunks.toNat)) }

/-- `pg_info_superblk::copy`. -/
def copy (dst rhs : PgInfoSuperblk) : PgInfoSuperblk := assign dst rhs

/-! ## What `operator=` copies -/

section Assign

variable {dst rhs : PgInfoSuperblk}

/-- A copy from a superblock whose three counters are 1 into one, of the same size, whose
counters are 0: the copy has the source's size and header fields but keeps the counters 0. -/
theorem assign_leavesCounters :
    let rhs : PgInfoSuperblk := ⟨1, 0, 0, .nil, 0, .nil, 0, 1, 1, 1, []⟩
    let dst : PgInfoSuperblk :=
      { rhs with activeBlobCount := 0, tombstoneBlobCount := 0, totalOccupiedBlkCount := 0 }
    trailerSize rhs.numMembers.toNat rhs.numChunks.toNat ≤ dst.data.length ∧
      (assign dst rhs).size = rhs.size ∧
      (assign dst rhs).activeBlobCount = 0 ∧ (assign dst rhs).tombstoneBlobCount = 0 ∧
      (assign dst rhs).totalOccupiedBlkCount = 0 ∧ assign dst rhs ≠ rhs := by
  decide

theorem assign_numChunks : (assign dst rhs).numChunks = rhs.numChunks := rfl

theorem assign_chunkIdsOffset : (assign dst rhs).chunkIdsOffset = rhs.chunkIdsOffset := rfl

variable (rhsFits : rhs.Fits)
include rhsFits

private theorem length_memberCopy :
    (readAt rhs.data 0 (pgMembersSize * rhs.numMembers.toNat)).length = rhs.chunkIdsOffset := by
  simp only [Fits, trailerSize, chunkIdsOffset, pgMembersSize, chunkNumSize] at rhsFits ⊢
  rw [length_readAt_of_le (by omega)]
  omega

private theorem length_chunkCopy :
    (readAt rhs.data rhs.chunkIdsOffset (chunkNumSize * rhs.numChunks.toNat)).length =
      rhs.numChunks.toNat * chunkNumSize := by
  simp only [Fits, trailerSize, chunkIdsOffset, pgMembersSize, chunkNumSize] at rhsFits ⊢
  rw [length_readAt_of_le (by omega)]
  omega

variable (dstHolds : trailerSize rhs.numMembers.toNat rhs.numChunks.toNat ≤ dst.data.length)
include dstHolds

private theorem length_afterMemberCopy :
    (writeAt dst.data 0 (readAt rhs.data 0 (pgMembersSize * rhs.numMembers.toNat))).length =
      dst.data.length := by
  have memberCopy := length_memberCopy rhsFits
  simp only [trailerSize, chunkIdsOffset, pgMembersSize, chunkNumSize] at dstHolds memberCopy ⊢
  rw [length_writeAt (by omega)]

/-- **The member array is copied.** The second `memcpy` writes after it. -/
theorem assign_memberBytes : (assign dst rhs).memberBytes = rhs.memberBytes := by
  have memberCopy := length_memberCopy rhsFits
  have chunkCopy := length_chunkCopy rhsFits
  have afterCopy := length_afterMemberCopy rhsFits dstHolds
  simp only [memberBytes, assign_chunkIdsOffset]
  simp only [assign, chunkIdsOffset] at memberCopy chunkCopy afterCopy ⊢
  simp only [trailerSize, pgMembersSize, chunkNumSize] at dstHolds memberCopy chunkCopy afterCopy ⊢
  rw [readAt_writeAt_of_disjoint (by omega) (.inl (by omega)), ← memberCopy,
    readAt_writeAt_self (by omega), memberCopy]
  congr 1
  omega

/-- **The chunk-id array is copied**, read at the offset the copied `num_members` gives. -/
theorem assign_getChunkIds : (assign dst rhs).getChunkIds = rhs.getChunkIds := by
  have chunkCopy := length_chunkCopy rhsFits
  have afterCopy := length_afterMemberCopy rhsFits dstHolds
  simp only [getChunkIds, assign_chunkIdsOffset, assign_numChunks]
  apply List.map_congr_left
  intro k inRange
  rw [List.mem_range] at inRange
  simp only [assign, chunkIdsOffset] at chunkCopy afterCopy ⊢
  simp only [trailerSize, pgMembersSize, chunkNumSize] at dstHolds chunkCopy afterCopy ⊢
  rw [readAt_writeAt_inside (by omega) (by omega), readAt_readAt (by omega)]

/-- **What `operator=` does**, when both buffers hold the source's trailer: the copy has the
source's named header fields, its size, its member array and its chunk ids, and keeps the
destination's three counters. -/
theorem assign_copiesNamedFields :
    (assign dst rhs).id = rhs.id ∧ (assign dst rhs).numMembers = rhs.numMembers ∧
      (assign dst rhs).numChunks = rhs.numChunks ∧ (assign dst rhs).pgSize = rhs.pgSize ∧
      (assign dst rhs).replicaSetUuid = rhs.replicaSetUuid ∧
      (assign dst rhs).indexTableUuid = rhs.indexTableUuid ∧
      (assign dst rhs).blobSequenceNum = rhs.blobSequenceNum ∧
      (assign dst rhs).size = rhs.size ∧ (assign dst rhs).memberBytes = rhs.memberBytes ∧
      (assign dst rhs).getChunkIds = rhs.getChunkIds ∧
      (assign dst rhs).activeBlobCount = dst.activeBlobCount ∧
      (assign dst rhs).tombstoneBlobCount = dst.tombstoneBlobCount ∧
      (assign dst rhs).totalOccupiedBlkCount = dst.totalOccupiedBlkCount :=
  ⟨rfl, rfl, rfl, rfl, rfl, rfl, rfl, rfl, assign_memberBytes rhsFits dstHolds,
    assign_getChunkIds rhsFits dstHolds, rfl, rfl, rfl⟩

end Assign

theorem assign_copiesNamedFields_oneMember :
    let rhs : PgInfoSuperblk := ⟨1, 1, 1, .nil, 4, .nil, 2, 1, 1, 1, List.replicate 54 7⟩
    let dst : PgInfoSuperblk := ⟨2, 0, 0, .nil, 0, .nil, 0, 0, 0, 0, List.replicate 60 0⟩
    (rhs.Fits ∧ trailerSize rhs.numMembers.toNat rhs.numChunks.toNat ≤ dst.data.length) ∧
      (assign dst rhs).id = rhs.id ∧ (assign dst rhs).numMembers = rhs.numMembers ∧
      (assign dst rhs).numChunks = rhs.numChunks ∧ (assign dst rhs).pgSize = rhs.pgSize ∧
      (assign dst rhs).replicaSetUuid = rhs.replicaSetUuid ∧
      (assign dst rhs).indexTableUuid = rhs.indexTableUuid ∧
      (assign dst rhs).blobSequenceNum = rhs.blobSequenceNum ∧
      (assign dst rhs).size = rhs.size ∧ (assign dst rhs).memberBytes = rhs.memberBytes ∧
      (assign dst rhs).getChunkIds = rhs.getChunkIds ∧
      (assign dst rhs).activeBlobCount = dst.activeBlobCount ∧
      (assign dst rhs).tombstoneBlobCount = dst.tombstoneBlobCount ∧
      (assign dst rhs).totalOccupiedBlkCount = dst.totalOccupiedBlkCount :=
  ⟨⟨by decide, by decide⟩, assign_copiesNamedFields (by decide) (by decide)⟩

end PgInfoSuperblk

end HomeObject.Superblock
