import HomeObject.Superblock.Layout

/-!
Contract: how the PG superblock's trailer is written from a `PGInfo` and read back into one.

Owns:
- `strncpy`, and `writeSlot`/`writeMembers`, the loop that lays a member set into the slots
  (the `HS_PG` constructor and `on_pg_replace_member` run the same loop);
- `writeChunkIds`, the constructor's chunk-id loop, and `createSb`, the superblock the
  `HS_PG(PGInfo, ...)` constructor builds and writes;
- `pgInfoFromSb` (`HS_PG::pg_info_from_sb`);
- the slot laws: after the loop, every slot reads back its member's id and priority, the name
  field holds the copied prefix of the name, and nothing outside the slots is touched.

The name copy is `strncpy(name_field, m.name.c_str(), min(m.name.size(), 32))`: it copies the
name's bytes and writes no terminator, so what `std::string(name_field)` reads back depends on
the bytes that were in the field before.
-/

set_option autoImplicit false

namespace HomeObject.Superblock

/-- `std::strncpy(dst, src, count)`: the `count` bytes written, the bytes of `src` before its
first NUL, padded with NULs up to `count`. -/
def strncpy (src : Bytes) (count : Nat) : Bytes :=
  (src.takeWhile (· != 0) ++ List.replicate count 0).take count

@[simp] theorem length_strncpy (src : Bytes) (count : Nat) : (strncpy src count).length = count := by
  simp [strncpy]

/-- The bytes `strncpy` writes into the 32-byte name field for a member name. -/
def nameField (name : Bytes) : Bytes := strncpy name (min name.length maxNameLen)

/-! ## The member slots -/

/-- One iteration of the member loop: slot `slot` gets the member's id, name and priority. -/
def writeSlot (data : Bytes) (slot : Nat) (member : PgMember) : Bytes :=
  let data := writeAt data (slot * pgMembersSize) member.id.data
  let data := writeAt data (slot * pgMembersSize + 16) (nameField member.name)
  writeAt data (slot * pgMembersSize + 48) member.priority.toLE

/-- The member loop from slot `slot` on, over the members in set order. -/
def writeMembers : Bytes → Nat → List PgMember → Bytes
  | data, _, [] => data
  | data, slot, member :: rest => writeMembers (writeSlot data slot member) (slot + 1) rest

/-- The chunk-id loop: `chunk_ids[k] = pg_chunk_ids->at(k)` at offset `off`. -/
def writeChunkIds : Bytes → Nat → List ChunkNum → Bytes
  | data, _, [] => data
  | data, off, chunk :: rest =>
      writeChunkIds (writeAt data off (leBytes chunkNumSize chunk.toNat)) (off + chunkNumSize) rest

theorem length_nameField_le (name : Bytes) : (nameField name).length ≤ 32 := by
  simp [nameField, maxNameLen]

theorem length_writeSlot {data : Bytes} {slot : Nat} (member : PgMember)
    (fits : (slot + 1) * pgMembersSize ≤ data.length) :
    (writeSlot data slot member).length = data.length := by
  have nameShort := length_nameField_le member.name
  simp only [pgMembersSize] at fits
  have idStep : (writeAt data (slot * 52) member.id.data).length = data.length :=
    length_writeAt (by rw [member.id.length_data]; omega)
  have nameStep : (writeAt (writeAt data (slot * 52) member.id.data) (slot * 52 + 16)
      (nameField member.name)).length = data.length := by
    rw [length_writeAt (by omega), idStep]
  simp only [writeSlot, pgMembersSize]
  rw [length_writeAt (by rw [nameStep, Int32.length_toLE]; omega), nameStep]

section Slot

variable {data : Bytes} {slot : Nat} (member : PgMember)
  (fits : (slot + 1) * pgMembersSize ≤ data.length)
include fits

private theorem slotSteps :
    (writeAt data (slot * pgMembersSize) member.id.data).length = data.length ∧
      (writeAt (writeAt data (slot * pgMembersSize) member.id.data) (slot * pgMembersSize + 16)
        (nameField member.name)).length = data.length := by
  have nameShort := length_nameField_le member.name
  simp only [pgMembersSize] at fits ⊢
  have idStep : (writeAt data (slot * 52) member.id.data).length = data.length :=
    length_writeAt (by rw [member.id.length_data]; omega)
  exact ⟨idStep, by rw [length_writeAt (by omega), idStep]⟩

theorem readAt_writeSlot_of_disjoint {off len : Nat}
    (outside : off + len ≤ slot * pgMembersSize ∨ (slot + 1) * pgMembersSize ≤ off) :
    readAt (writeSlot data slot member) off len = readAt data off len := by
  have ⟨idStep, nameStep⟩ := slotSteps member fits
  have nameShort := length_nameField_le member.name
  simp only [pgMembersSize] at fits outside idStep nameStep ⊢
  simp only [writeSlot, pgMembersSize]
  rw [readAt_writeAt_of_disjoint (by rw [nameStep, Int32.length_toLE]; omega)
      (by rw [Int32.length_toLE]; omega),
    readAt_writeAt_of_disjoint (by rw [idStep]; omega) (by omega),
    readAt_writeAt_of_disjoint (by rw [member.id.length_data]; omega)
      (by rw [member.id.length_data]; omega)]

theorem readAt_writeSlot_id :
    readAt (writeSlot data slot member) (slot * pgMembersSize) 16 = member.id.data := by
  have ⟨idStep, nameStep⟩ := slotSteps member fits
  have nameShort := length_nameField_le member.name
  simp only [pgMembersSize] at fits idStep nameStep ⊢
  simp only [writeSlot, pgMembersSize]
  rw [readAt_writeAt_of_disjoint (by rw [nameStep, Int32.length_toLE]; omega) (by omega),
    readAt_writeAt_of_disjoint (by rw [idStep]; omega) (by omega), ← member.id.length_data,
    readAt_writeAt_self (by rw [member.id.length_data]; omega)]

theorem readAt_writeSlot_priority :
    readAt (writeSlot data slot member) (slot * pgMembersSize + 48) 4 = member.priority.toLE := by
  have ⟨_, nameStep⟩ := slotSteps member fits
  simp only [pgMembersSize] at fits nameStep ⊢
  simp only [writeSlot, pgMembersSize]
  rw [← Int32.length_toLE member.priority,
    readAt_writeAt_self (by rw [nameStep, Int32.length_toLE]; omega)]

theorem readAt_writeSlot_name :
    readAt (writeSlot data slot member) (slot * pgMembersSize + 16) maxNameLen =
      nameField member.name ++
        readAt data (slot * pgMembersSize + 16 + (nameField member.name).length)
          (maxNameLen - (nameField member.name).length) := by
  have ⟨idStep, nameStep⟩ := slotSteps member fits
  have nameShort := length_nameField_le member.name
  simp only [pgMembersSize, maxNameLen] at fits idStep nameStep ⊢
  simp only [writeSlot, pgMembersSize]
  rw [readAt_writeAt_of_disjoint (by rw [nameStep, Int32.length_toLE]; omega) (by omega),
    readAt_writeAt_prefix (by rw [idStep]; omega) (by omega),
    readAt_writeAt_of_disjoint (by rw [member.id.length_data]; omega)
      (by rw [member.id.length_data]; omega)]

end Slot

/-! ## The member loop -/

section Loop

theorem length_writeMembers {data : Bytes} {slot : Nat} {members : List PgMember}
    (fits : (slot + members.length) * pgMembersSize ≤ data.length) :
    (writeMembers data slot members).length = data.length := by
  induction members generalizing data slot with
  | nil => rfl
  | cons member rest inductionHypothesis =>
      simp only [List.length_cons, pgMembersSize] at fits
      have slotFits : (slot + 1) * pgMembersSize ≤ data.length := by
        simp only [pgMembersSize]; omega
      have restFits : (slot + 1 + rest.length) * pgMembersSize ≤
          (writeSlot data slot member).length := by
        rw [length_writeSlot member slotFits, pgMembersSize]; omega
      rw [writeMembers, inductionHypothesis restFits, length_writeSlot member slotFits]

theorem readAt_writeMembers_of_disjoint {data : Bytes} {slot off len : Nat}
    {members : List PgMember} (fits : (slot + members.length) * pgMembersSize ≤ data.length)
    (outside : off + len ≤ slot * pgMembersSize ∨
      (slot + members.length) * pgMembersSize ≤ off) :
    readAt (writeMembers data slot members) off len = readAt data off len := by
  induction members generalizing data slot with
  | nil => rfl
  | cons member rest inductionHypothesis =>
      simp only [List.length_cons, pgMembersSize] at fits outside
      have slotFits : (slot + 1) * pgMembersSize ≤ data.length := by
        simp only [pgMembersSize]; omega
      have restFits : (slot + 1 + rest.length) * pgMembersSize ≤
          (writeSlot data slot member).length := by
        rw [length_writeSlot member slotFits, pgMembersSize]; omega
      rw [writeMembers, inductionHypothesis restFits (by simp only [pgMembersSize]; omega),
        readAt_writeSlot_of_disjoint member slotFits (by simp only [pgMembersSize]; omega)]

private theorem readAt_writeMembers_slot {data : Bytes} {slot index off len : Nat}
    {members : List PgMember} (fits : (slot + members.length) * pgMembersSize ≤ data.length)
    (inRange : index < members.length)
    (within : (slot + index) * pgMembersSize ≤ off ∧
      off + len ≤ (slot + index + 1) * pgMembersSize) :
    readAt (writeMembers data slot members) off len =
      readAt (writeSlot (writeMembers data slot (members.take index)) (slot + index)
        members[index]) off len := by
  induction members generalizing data slot index with
  | nil => simp at inRange
  | cons member rest inductionHypothesis =>
      simp only [List.length_cons, pgMembersSize] at fits within
      have slotFits : (slot + 1) * pgMembersSize ≤ data.length := by
        simp only [pgMembersSize]; omega
      have restFits : (slot + 1 + rest.length) * pgMembersSize ≤
          (writeSlot data slot member).length := by
        rw [length_writeSlot member slotFits, pgMembersSize]; omega
      cases index with
      | zero =>
          simp only [writeMembers, List.take_zero, Nat.add_zero, List.getElem_cons_zero]
          rw [readAt_writeMembers_of_disjoint restFits (by simp only [pgMembersSize]; omega)]
      | succ index =>
          simp only [List.length_cons] at inRange
          simp only [writeMembers, List.take_succ_cons, List.getElem_cons_succ]
          rw [@inductionHypothesis _ (slot + 1) index restFits (by omega)
              (by simp only [pgMembersSize]; omega),
            show slot + 1 + index = slot + (index + 1) by omega]

variable {data : Bytes} {members : List PgMember}
  (fits : members.length * pgMembersSize ≤ data.length) {index : Nat}
  (inRange : index < members.length)
include fits inRange

private theorem slotFits_after :
    (index + 1) * pgMembersSize ≤ (writeMembers data 0 (members.take index)).length := by
  have prefixFits : (0 + (members.take index).length) * pgMembersSize ≤ data.length := by
    simp only [List.length_take, pgMembersSize] at fits ⊢; omega
  rw [length_writeMembers prefixFits]
  simp only [pgMembersSize] at fits ⊢
  omega

theorem readAt_writeMembers_id :
    readAt (writeMembers data 0 members) (index * pgMembersSize) 16 = members[index].id.data := by
  have zeroFits : (0 + members.length) * pgMembersSize ≤ data.length := by rwa [Nat.zero_add]
  rw [readAt_writeMembers_slot zeroFits inRange (by simp only [pgMembersSize]; omega),
    Nat.zero_add, readAt_writeSlot_id _ (slotFits_after fits inRange)]

theorem readAt_writeMembers_priority :
    readAt (writeMembers data 0 members) (index * pgMembersSize + 48) 4 =
      members[index].priority.toLE := by
  have zeroFits : (0 + members.length) * pgMembersSize ≤ data.length := by rwa [Nat.zero_add]
  rw [readAt_writeMembers_slot zeroFits inRange (by simp only [pgMembersSize]; omega),
    Nat.zero_add, readAt_writeSlot_priority _ (slotFits_after fits inRange)]

theorem readAt_writeMembers_name :
    readAt (writeMembers data 0 members) (index * pgMembersSize + 16) maxNameLen =
      nameField members[index].name ++
        readAt data (index * pgMembersSize + 16 + (nameField members[index].name).length)
          (maxNameLen - (nameField members[index].name).length) := by
  have zeroFits : (0 + members.length) * pgMembersSize ≤ data.length := by rwa [Nat.zero_add]
  have nameShort := length_nameField_le members[index].name
  have prefixFits : (0 + (members.take index).length) * pgMembersSize ≤ data.length := by
    simp only [List.length_take, pgMembersSize] at fits ⊢; omega
  rw [readAt_writeMembers_slot zeroFits inRange
      (by simp only [pgMembersSize, maxNameLen]; omega),
    Nat.zero_add, readAt_writeSlot_name _ (slotFits_after fits inRange),
    readAt_writeMembers_of_disjoint prefixFits
      (by simp only [List.length_take, pgMembersSize, maxNameLen] at nameShort ⊢; omega)]

end Loop

theorem overwrites_writeSlot {length slot : Nat} (member : PgMember)
    (fits : (slot + 1) * pgMembersSize ≤ length) : Overwrites length (writeSlot · slot member) := by
  have nameShort := length_nameField_le member.name
  simp only [pgMembersSize] at fits
  exact ((overwrites_writeAt (by simp only [pgMembersSize, member.id.length_data]; omega)).comp
    (overwrites_writeAt (by simp only [pgMembersSize]; omega))).comp
    (overwrites_writeAt (by simp only [pgMembersSize, Int32.length_toLE]; omega))

theorem overwrites_writeMembers {length : Nat} (slot : Nat) (members : List PgMember)
    (fits : (slot + members.length) * pgMembersSize ≤ length) :
    Overwrites length (writeMembers · slot members) := by
  induction members generalizing slot with
  | nil => exact ⟨fun _ => none, fun _ sized => ⟨sized, fun _ => rfl⟩⟩
  | cons member rest inductionHypothesis =>
    simp only [List.length_cons, pgMembersSize] at fits
    exact (overwrites_writeSlot member (by simp only [pgMembersSize]; omega)).comp
      (inductionHypothesis (slot + 1) (by simp only [pgMembersSize]; omega))

/-! ## The chunk-id loop -/

section ChunkLoop

theorem length_writeChunkIds {data : Bytes} {off : Nat} {chunks : List ChunkNum}
    (fits : off + chunks.length * chunkNumSize ≤ data.length) :
    (writeChunkIds data off chunks).length = data.length := by
  induction chunks generalizing data off with
  | nil => rfl
  | cons chunk rest inductionHypothesis =>
      simp only [List.length_cons, chunkNumSize] at fits
      have written : (writeAt data off (leBytes chunkNumSize chunk.toNat)).length = data.length :=
        length_writeAt (by simp only [length_leBytes, chunkNumSize]; omega)
      rw [writeChunkIds, inductionHypothesis (by rw [written, chunkNumSize]; omega), written]

theorem readAt_writeChunkIds_of_disjoint {data : Bytes} {off start len : Nat}
    {chunks : List ChunkNum} (fits : off + chunks.length * chunkNumSize ≤ data.length)
    (outside : start + len ≤ off ∨ off + chunks.length * chunkNumSize ≤ start) :
    readAt (writeChunkIds data off chunks) start len = readAt data start len := by
  induction chunks generalizing data off with
  | nil => rfl
  | cons chunk rest inductionHypothesis =>
      simp only [List.length_cons, chunkNumSize] at fits outside
      have written : (writeAt data off (leBytes chunkNumSize chunk.toNat)).length = data.length :=
        length_writeAt (by simp only [length_leBytes, chunkNumSize]; omega)
      rw [writeChunkIds, inductionHypothesis (by rw [written, chunkNumSize]; omega)
          (by simp only [chunkNumSize]; omega),
        readAt_writeAt_of_disjoint (by simp only [length_leBytes, chunkNumSize]; omega)
          (by simp only [length_leBytes, chunkNumSize]; omega)]

theorem readAt_writeChunkIds {data : Bytes} {off k : Nat} {chunks : List ChunkNum}
    (fits : off + chunks.length * chunkNumSize ≤ data.length) (inRange : k < chunks.length) :
    readAt (writeChunkIds data off chunks) (off + k * chunkNumSize) chunkNumSize =
      leBytes chunkNumSize chunks[k].toNat := by
  induction chunks generalizing data off k with
  | nil => simp at inRange
  | cons chunk rest inductionHypothesis =>
      simp only [List.length_cons, chunkNumSize] at fits
      have written : (writeAt data off (leBytes chunkNumSize chunk.toNat)).length = data.length :=
        length_writeAt (by simp only [length_leBytes, chunkNumSize]; omega)
      have restFits : off + chunkNumSize + rest.length * chunkNumSize ≤
          (writeAt data off (leBytes chunkNumSize chunk.toNat)).length := by
        rw [written, chunkNumSize]; omega
      cases k with
      | zero =>
          have selfRead := @readAt_writeAt_self data (leBytes chunkNumSize chunk.toNat) off
            (by simp only [length_leBytes, chunkNumSize]; omega)
          rw [length_leBytes] at selfRead
          rw [writeChunkIds, readAt_writeChunkIds_of_disjoint restFits
              (by simp only [chunkNumSize]; omega), Nat.zero_mul, Nat.add_zero, selfRead]
          rfl
      | succ k =>
          simp only [List.length_cons] at inRange
          rw [writeChunkIds, show off + (k + 1) * chunkNumSize = off + chunkNumSize + k * chunkNumSize
            by simp only [chunkNumSize]; omega, inductionHypothesis restFits (by omega)]
          rfl

end ChunkLoop

/-! ## The constructors' superblocks -/

/-- The trailer `pg_sb_.create` hands back: `count` bytes holding whatever the allocation
held before, `fresh`, cut or padded to the size. -/
def allocated (fresh : Bytes) (count : Nat) : Bytes := (fresh ++ List.replicate count 0).take count

@[simp] theorem length_allocated (fresh : Bytes) (count : Nat) :
    (allocated fresh count).length = count := by
  simp [allocated]

/-- The superblock `HS_PG(PGInfo, rdev, index_table, pg_chunk_ids)` builds and writes: the
header zeroed by `create` and then set from the `PGInfo`, the group id and the index table; the
member loop at `get_pg_members_mutable()`; the chunk-id loop at `get_chunk_ids_mutable()`.
The allocation size is passed to `create` as a `uint32_t`; the model allocates the whole
trailer. -/
def createSb (info : PgInfo) (groupId indexTableUuid : Uuid) (chunks : List ChunkNum)
    (fresh : Bytes) : PgInfoSuperblk :=
  let numMembers : UInt32 := UInt32.ofNat info.members.size
  let numChunks : UInt32 := UInt32.ofNat chunks.length
  let buffer := allocated fresh (PgInfoSuperblk.trailerSize info.members.size numChunks.toNat)
  { id := info.id
    numMembers := numMembers
    numChunks := numChunks
    replicaSetUuid := groupId
    pgSize := info.size
    indexTableUuid := indexTableUuid
    blobSequenceNum := 0
    activeBlobCount := 0
    tombstoneBlobCount := 0
    totalOccupiedBlkCount := 0
    data := writeChunkIds (writeMembers buffer 0 info.members.toList)
      (numMembers.toNat * pgMembersSize) chunks }

/-- `HS_PG::pg_info_from_sb`: the `PGInfo` a restart rebuilds, members emplaced slot by slot. -/
def pgInfoFromSb (sb : PgInfoSuperblk) : PgInfo :=
  let members := (List.range sb.numMembers.toNat).foldl
    (fun set slot => set.emplace ⟨sb.slotId slot, sb.slotName slot, sb.slotPriority slot⟩)
    MemberSet.empty
  { PgInfo.ofId sb.id with
    members := members
    size := sb.pgSize
    replicaSetUuid := sb.replicaSetUuid }

/-! ## Reading the slots back -/

/-- What a superblock keeps of a member exactly: its id and its priority. -/
def PgMember.key (member : PgMember) : Uuid × Int32 := (member.id, member.priority)

/-- The slots of `sb` describe `members`: the count, and each slot's id and priority. Names are
not part of it, since the member loop leaves their terminators to the buffer. -/
structure SlotsAgree (sb : PgInfoSuperblk) (members : List PgMember) : Prop where
  numMembers : sb.numMembers.toNat = members.length
  slotId : ∀ (slot : Nat) (inRange : slot < members.length), sb.slotId slot = members[slot].id
  slotPriority : ∀ (slot : Nat) (inRange : slot < members.length),
    sb.slotPriority slot = members[slot].priority

/-- The members `pg_info_from_sb` reads, slot by slot, before emplacing them. -/
def PgInfoSuperblk.slotMembers (sb : PgInfoSuperblk) : List PgMember :=
  (List.range sb.numMembers.toNat).map fun slot =>
    ⟨sb.slotId slot, sb.slotName slot, sb.slotPriority slot⟩

theorem pgInfoFromSb_members (sb : PgInfoSuperblk) :
    (pgInfoFromSb sb).members = MemberSet.ofList sb.slotMembers := by
  simp only [pgInfoFromSb, PgInfoSuperblk.slotMembers, MemberSet.ofList, List.foldl_map]

section Agree

variable {sb : PgInfoSuperblk} {members : List PgMember} (agree : SlotsAgree sb members)
include agree

theorem slotMembers_keys : sb.slotMembers.map PgMember.key = members.map PgMember.key := by
  apply List.ext_getElem (by simp [PgInfoSuperblk.slotMembers, agree.numMembers])
  intro slot inDecoded inMembers
  simp only [List.length_map] at inMembers
  simp [PgInfoSuperblk.slotMembers, PgMember.key, agree.slotId slot inMembers,
    agree.slotPriority slot inMembers]

theorem slotMembers_ids : sb.slotMembers.map PgMember.id = members.map PgMember.id := by
  have keys := congrArg (List.map Prod.fst) (slotMembers_keys agree)
  simpa [List.map_map, Function.comp_def, PgMember.key] using keys

end Agree

/-! ## The constructor's superblock reads back -/

theorem membersFit (fresh : Bytes) (members : List PgMember) (count : Nat) :
    (0 + members.length) * pgMembersSize ≤
      (allocated fresh (members.length * pgMembersSize + count)).length := by
  rw [length_allocated, Nat.zero_add]; omega

theorem length_writeMembers_allocated (fresh : Bytes) (members : List PgMember)
    (count : Nat) :
    (writeMembers (allocated fresh (members.length * pgMembersSize + count)) 0 members).length =
      members.length * pgMembersSize + count := by
  rw [length_writeMembers (membersFit _ _ _), length_allocated]

section Create

variable (info : PgInfo) (groupId indexTableUuid : Uuid) (chunks : List ChunkNum) (fresh : Bytes)

@[simp] theorem createSb_id : (createSb info groupId indexTableUuid chunks fresh).id = info.id := rfl

@[simp] theorem createSb_pgSize :
    (createSb info groupId indexTableUuid chunks fresh).pgSize = info.size := rfl

@[simp] theorem createSb_replicaSetUuid :
    (createSb info groupId indexTableUuid chunks fresh).replicaSetUuid = groupId := rfl

@[simp] theorem createSb_indexTableUuid :
    (createSb info groupId indexTableUuid chunks fresh).indexTableUuid = indexTableUuid := rfl

variable {info groupId indexTableUuid chunks fresh}
  (fewMembers : info.members.size < 2 ^ 32) (fewChunks : chunks.length < 2 ^ 32)
include fewMembers fewChunks

theorem createSb_counts :
    (UInt32.ofNat info.members.toList.length).toNat = info.members.toList.length ∧
      (UInt32.ofNat chunks.length).toNat = chunks.length :=
  ⟨Nat.mod_eq_of_lt fewMembers, Nat.mod_eq_of_lt fewChunks⟩

theorem createSb_data :
    (createSb info groupId indexTableUuid chunks fresh).data =
      writeChunkIds (writeMembers (allocated fresh (info.members.toList.length * pgMembersSize +
          chunks.length * chunkNumSize)) 0 info.members.toList)
        (info.members.toList.length * pgMembersSize) chunks := by
  have ⟨memberCount, chunkCount⟩ := createSb_counts fewMembers fewChunks
  simp only [createSb, PgInfoSuperblk.trailerSize, MemberSet.size, memberCount, chunkCount]

theorem createSb_numMembers :
    (createSb info groupId indexTableUuid chunks fresh).numMembers.toNat =
      info.members.toList.length := (createSb_counts fewMembers fewChunks).1

theorem createSb_numChunks :
    (createSb info groupId indexTableUuid chunks fresh).numChunks.toNat = chunks.length :=
  (createSb_counts fewMembers fewChunks).2

theorem createSb_fits : (createSb info groupId indexTableUuid chunks fresh).Fits := by
  simp only [PgInfoSuperblk.Fits, PgInfoSuperblk.trailerSize,
    createSb_data fewMembers fewChunks, createSb_numMembers fewMembers fewChunks,
    createSb_numChunks fewMembers fewChunks]
  rw [length_writeChunkIds (by rw [length_writeMembers_allocated]),
    length_writeMembers_allocated]

/-- **The constructor's slots agree with the `PGInfo`'s members.** -/
theorem createSb_agrees :
    SlotsAgree (createSb info groupId indexTableUuid chunks fresh) info.members.toList := by
  have membersLength := length_writeMembers_allocated fresh info.members.toList
    (chunks.length * chunkNumSize)
  have loopFits : info.members.toList.length * pgMembersSize ≤
      (allocated fresh (info.members.toList.length * pgMembersSize +
        chunks.length * chunkNumSize)).length := by
    rw [length_allocated]; omega
  refine ⟨createSb_numMembers fewMembers fewChunks, ?_, ?_⟩
  · intro slot inRange
    simp only [PgInfoSuperblk.slotId, createSb_data fewMembers fewChunks]
    rw [readAt_writeChunkIds_of_disjoint (by rw [membersLength])
        (.inl (by simp only [pgMembersSize]; omega)),
      readAt_writeMembers_id loopFits inRange, Uuid.ofBytes_data]
  · intro slot inRange
    simp only [PgInfoSuperblk.slotPriority, createSb_data fewMembers fewChunks]
    rw [readAt_writeChunkIds_of_disjoint (by rw [membersLength])
        (.inl (by simp only [pgMembersSize]; omega)),
      readAt_writeMembers_priority loopFits inRange, Int32.ofLE_toLE]

/-- **The constructor's chunk-id array reads back the PG's chunk list.** -/
theorem createSb_getChunkIds :
    (createSb info groupId indexTableUuid chunks fresh).getChunkIds = chunks := by
  have membersLength := length_writeMembers_allocated fresh info.members.toList
    (chunks.length * chunkNumSize)
  apply List.ext_getElem
    (by simp [PgInfoSuperblk.getChunkIds, createSb_numChunks fewMembers fewChunks])
  intro k inIds inChunks
  simp only [PgInfoSuperblk.getChunkIds, List.getElem_map, List.getElem_range,
    PgInfoSuperblk.chunkIdsOffset, createSb_numMembers fewMembers fewChunks,
    createSb_data fewMembers fewChunks]
  rw [readAt_writeChunkIds (by rw [membersLength]) inChunks,
    leValue_leBytes_of_lt (by simpa [chunkNumSize] using chunks[k].toNat_lt_size)]
  exact UInt16.toNat.inj (Nat.mod_eq_of_lt chunks[k].toNat_lt_size)

end Create

end HomeObject.Superblock
