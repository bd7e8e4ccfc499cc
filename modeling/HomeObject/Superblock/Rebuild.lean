import HomeObject.Superblock.Members

/-!
Contract: what `pg_info_from_sb` rebuilds from a superblock whose slots the member loop wrote.

Owns:
- `SlotsHold`: the slots agree with a member list in count, ids and priorities, each name field
  starts with the bytes the loop copied, and the buffer holds the trailer;
- that the constructor's superblock holds its members (`createSb_slotsHold`) and that rerunning
  the loop on a superblock, as `on_pg_replace_member` does, makes it hold the new members and
  leaves the chunk-id array as it was (`slotsHold_rewriteMembers`, `getChunkIds_rewriteMembers`);
- `Rebuilds` and `pgInfoFromSb_rebuilds`: member by member, the rebuilt member has the live id and
  priority, and its name begins with the live name's bytes up to the first NUL, cut at 32.

Does not own: which superblock a PG has; that is the PG manager's state.
-/

set_option autoImplicit false

namespace HomeObject.Superblock

/-- The slots of `sb` describe `members` as the member loop leaves them. -/
structure SlotsHold (sb : PgInfoSuperblk) (members : List PgMember) : Prop where
  agree : SlotsAgree sb members
  names : ∀ (slot : Nat) (inRange : slot < members.length),
    readAt sb.data (slot * pgMembersSize + 16) (nameField members[slot].name).length =
      nameField members[slot].name
  fits : sb.Fits

/-- The member loop rerun on a superblock's buffer, its counts left as they are. With more
members than the superblock was sized for, the source writes past its allocation (undefined
behaviour) where `writeAt` grows the buffer; every result below that uses it first shows the
member count unchanged, which `on_pg_replace_member` keeps when the member it adds is absent and
the one it removes is present. -/
def PgInfoSuperblk.rewriteMembers (sb : PgInfoSuperblk) (members : List PgMember) :
    PgInfoSuperblk :=
  { sb with data := writeMembers sb.data 0 members }

theorem readAt_writeMembers_nameField {data : Bytes} {members : List PgMember}
    (fits : members.length * pgMembersSize ≤ data.length) {slot : Nat}
    (inRange : slot < members.length) :
    readAt (writeMembers data 0 members) (slot * pgMembersSize + 16)
        (nameField members[slot].name).length = nameField members[slot].name := by
  have whole := readAt_writeMembers_name fits inRange
  have nameShort := length_nameField_le members[slot].name
  have shortened := congrArg (fun field => readAt field 0 (nameField members[slot].name).length)
    whole
  simp only [readAt_readAt (show 0 + (nameField members[slot].name).length ≤ maxNameLen by
    simp only [maxNameLen]; omega), Nat.add_zero] at shortened
  rw [shortened]
  simp [readAt]

section Rewrite

variable {sb : PgInfoSuperblk} {members : List PgMember} (fits : sb.Fits)
  (count : sb.numMembers.toNat = members.length)
include fits count

theorem membersFit_of_count : members.length * pgMembersSize ≤ sb.data.length := by
  simp only [PgInfoSuperblk.Fits, PgInfoSuperblk.trailerSize, count] at fits
  omega

/-- **Rerunning the member loop** makes the superblock hold the new members. -/
theorem slotsHold_rewriteMembers : SlotsHold (sb.rewriteMembers members) members := by
  have loopFits := membersFit_of_count fits count
  have zeroFits : (0 + members.length) * pgMembersSize ≤ sb.data.length := by
    rwa [Nat.zero_add]
  refine ⟨⟨count, fun slot inRange => ?_, fun slot inRange => ?_⟩,
    fun slot inRange => readAt_writeMembers_nameField loopFits inRange, ?_⟩
  · simp only [PgInfoSuperblk.slotId, PgInfoSuperblk.rewriteMembers]
    rw [readAt_writeMembers_id loopFits inRange, Uuid.ofBytes_data]
  · simp only [PgInfoSuperblk.slotPriority, PgInfoSuperblk.rewriteMembers]
    rw [readAt_writeMembers_priority loopFits inRange, Int32.ofLE_toLE]
  · simp only [PgInfoSuperblk.Fits, PgInfoSuperblk.rewriteMembers, length_writeMembers zeroFits]
    exact fits

theorem getChunkIds_rewriteMembers :
    (sb.rewriteMembers members).getChunkIds = sb.getChunkIds := by
  have zeroFits : (0 + members.length) * pgMembersSize ≤ sb.data.length := by
    rw [Nat.zero_add]; exact membersFit_of_count fits count
  simp only [PgInfoSuperblk.getChunkIds, PgInfoSuperblk.rewriteMembers,
    PgInfoSuperblk.chunkIdsOffset]
  apply List.map_congr_left
  intro k _
  rw [readAt_writeMembers_of_disjoint zeroFits
    (.inr (by simp only [Nat.zero_add, count, pgMembersSize, chunkNumSize]; omega))]

end Rewrite

theorem rewriteMembers_rewriteMembers {sb : PgInfoSuperblk} {members : List PgMember}
    (fits : members.length * pgMembersSize ≤ sb.data.length) :
    (sb.rewriteMembers members).rewriteMembers members = sb.rewriteMembers members := by
  simp only [PgInfoSuperblk.rewriteMembers]
  rw [(overwrites_writeMembers 0 members (by rwa [Nat.zero_add])).idem rfl]

/-- **The constructor's superblock holds its members.** -/
theorem createSb_slotsHold {info : PgInfo} {groupId indexTableUuid : Uuid}
    {chunks : List ChunkNum} {fresh : Bytes} (fewMembers : info.members.size < 2 ^ 32)
    (fewChunks : chunks.length < 2 ^ 32) :
    SlotsHold (createSb info groupId indexTableUuid chunks fresh) info.members.toList := by
  have membersLength := length_writeMembers_allocated fresh info.members.toList
    (chunks.length * chunkNumSize)
  have loopFits : info.members.toList.length * pgMembersSize ≤
      (allocated fresh (info.members.toList.length * pgMembersSize +
        chunks.length * chunkNumSize)).length := by
    rw [length_allocated]; omega
  refine ⟨createSb_agrees fewMembers fewChunks, fun slot inRange => ?_,
    createSb_fits fewMembers fewChunks⟩
  have nameShort := length_nameField_le info.members.toList[slot].name
  rw [createSb_data fewMembers fewChunks, readAt_writeChunkIds_of_disjoint
      (by rw [membersLength]) (.inl (by simp only [pgMembersSize] at nameShort ⊢; omega)),
    readAt_writeMembers_nameField loopFits inRange]

/-! ## What a rebuilt member keeps -/

theorem takeWhile_prefix_append {p : UInt8 → Bool} (first rest : Bytes) :
    first.takeWhile p <+: (first ++ rest).takeWhile p := by
  induction first with
  | nil => exact List.nil_prefix
  | cons byte more inductionHypothesis =>
    by_cases kept : p byte = true
    · simpa [List.takeWhile_cons, kept] using inductionHypothesis
    · simp [List.takeWhile_cons, kept]

theorem takeWhile_strncpy (src : Bytes) (count : Nat) :
    (strncpy src count).takeWhile (· != 0) = (src.takeWhile (· != 0)).take count := by
  have before : ∀ byte ∈ src.takeWhile (fun byte => byte != 0), (fun byte => byte != 0) byte =
      true := fun _ member => @List.mem_takeWhile_imp _ (fun byte : UInt8 => byte != 0) src _ member
  rw [strncpy, ← List.take_takeWhile, List.takeWhile_append_of_pos before,
    List.takeWhile_replicate]
  simp

theorem takeWhile_prefix_cStringAt {data field : Bytes} {off : Nat}
    (held : readAt data off field.length = field) :
    field.takeWhile (· != 0) <+: cStringAt data off := by
  have split : data.drop off = field ++ (data.drop off).drop field.length := by
    conv => lhs; rw [← List.take_append_drop field.length (data.drop off)]
    rw [show (data.drop off).take field.length = field from held]
  rw [cStringAt, split]
  exact takeWhile_prefix_append field _

theorem readAt_nameField_cStringAt (data : Bytes) (off : Nat) :
    readAt data off (nameField (cStringAt data off)).length = nameField (cStringAt data off) := by
  have isPrefix : cStringAt data off <+: data.drop off := List.takeWhile_prefix _
  obtain ⟨rest, split⟩ := isPrefix
  have whole : (cStringAt data off).takeWhile (· != 0) = cStringAt data off :=
    List.takeWhile_eq_self_iff.mpr fun _ member =>
      @List.mem_takeWhile_imp _ (fun byte : UInt8 => byte != 0) _ _ member
  have short := Nat.min_le_left (cStringAt data off).length maxNameLen
  simp only [nameField, strncpy, whole, List.take_append_of_le_length short, length_strncpy, readAt]
  rw [List.length_take, Nat.min_eq_left short, ← split, List.take_append_of_le_length short]

theorem slotMembers_increasing {sb : PgInfoSuperblk} {members : List PgMember}
    (agree : SlotsAgree sb members) (increasing : IdsIncreasing members) :
    IdsIncreasing sb.slotMembers := by
  unfold IdsIncreasing at increasing ⊢
  rw [← List.pairwise_map (R := fun a b : Uuid => a < b)] at increasing ⊢
  rwa [slotMembers_ids agree]

/-- **The members a restart rebuilds are held by the superblock they were read from**: the
slots agree with them, and each name field starts with the name read back. -/
theorem slotsHold_pgInfoFromSb {sb : PgInfoSuperblk} {members : List PgMember}
    (holds : SlotsHold sb members) (increasing : IdsIncreasing members) :
    SlotsHold sb (pgInfoFromSb sb).members.toList := by
  rw [pgInfoFromSb_members, MemberSet.ofList_toList (slotMembers_increasing holds.agree increasing)]
  refine ⟨⟨by simp [PgInfoSuperblk.slotMembers], fun slot _ => by simp [PgInfoSuperblk.slotMembers],
    fun slot _ => by simp [PgInfoSuperblk.slotMembers]⟩, fun slot inRange => ?_, holds.fits⟩
  simpa [PgInfoSuperblk.slotMembers, PgInfoSuperblk.slotName] using
    readAt_nameField_cStringAt sb.data (slot * pgMembersSize + 16)

/-- A member as the superblock rebuilds it: the live id and priority, and a name that begins
with the live name's bytes before its first NUL, cut at the 32-byte field. -/
def Rebuilds (live rebuilt : PgMember) : Prop :=
  live.id = rebuilt.id ∧ live.priority = rebuilt.priority ∧
    ((live.name.takeWhile (· != 0)).take maxNameLen) <+: rebuilt.name

theorem ids_eq_of_rebuilds {members rebuilt : List PgMember}
    (rebuilds : List.Forall₂ Rebuilds members rebuilt) :
    rebuilt.map PgMember.id = members.map PgMember.id := by
  induction rebuilds with
  | nil => rfl
  | cons rebuilds _ inductionHypothesis => simp [rebuilds.1, inductionHypothesis]

/-- **What `pg_info_from_sb` rebuilds**, member by member in set order, from slots that hold an
id-increasing member list. -/
theorem pgInfoFromSb_rebuilds {sb : PgInfoSuperblk} {members : List PgMember}
    (holds : SlotsHold sb members) (increasing : IdsIncreasing members) :
    List.Forall₂ Rebuilds members (pgInfoFromSb sb).members.toList := by
  rw [pgInfoFromSb_members, MemberSet.ofList_toList (slotMembers_increasing holds.agree increasing)]
  refine List.forall₂_iff_get.mpr ⟨by simp [PgInfoSuperblk.slotMembers, holds.agree.numMembers],
    fun slot inMembers inSlots => ⟨?_, ?_, ?_⟩⟩
  · simp [PgInfoSuperblk.slotMembers, holds.agree.slotId slot inMembers]
  · simp [PgInfoSuperblk.slotMembers, holds.agree.slotPriority slot inMembers]
  · have copied := takeWhile_prefix_cStringAt (holds.names slot inMembers)
    have cut : (members[slot].name.takeWhile (· != 0)).take (min members[slot].name.length
        maxNameLen) = (members[slot].name.takeWhile (· != 0)).take maxNameLen := by
      have short := (@List.takeWhile_prefix _ members[slot].name (· != 0)).length_le
      rcases Nat.le_total members[slot].name.length maxNameLen with within | over
      · rw [Nat.min_eq_left within, List.take_of_length_le short,
          List.take_of_length_le (by omega)]
      · rw [Nat.min_eq_right over]
    rw [nameField, takeWhile_strncpy, cut] at copied
    simpa [PgInfoSuperblk.slotMembers, PgInfoSuperblk.slotName] using copied

end HomeObject.Superblock
