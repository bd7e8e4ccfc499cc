import HomeObject.PgManager.State
import HomeObject.Superblock.Rebuild

/-!
Contract: membership replacement: `_replace_member` on the leader, and
`on_pg_replace_member`, which every replica runs once the replication service has replaced a
member of a group.

Owns:
- `ReplicaMemberInfo`, `replaceMember` (the request `_replace_member` sends) and
  `onPgReplaceMember` (the member set changed in memory, the member loop rerun on the superblock,
  the superblock written);
- `size_replaced`: replacing a member by one that is not in the set keeps the member count;
- `onPgReplaceMember_found`, what the handler does to the PG of the group and to nothing else;
- `replaceMember_applied`, the leader's request as a replica applies it.

`replica_member_info` is declared in homestore, outside the sources; its name is kept as the C
string its array holds, which is what `PGMember(member_in.id, member_in.name, ...)` copies, so it
holds no NUL.
-/

set_option autoImplicit false

namespace HomeObject

open Superblock

/-- `homestore::replica_member_info`: an id, the name its `char` array holds as a C string, and
a priority. -/
structure ReplicaMemberInfo where
  id : Uuid
  name : Bytes
  priority : Int32
  noNul : 0 ∉ name := by decide
deriving DecidableEq, Repr

/-! ## The member set -/

/-- The members after `erase(PGMember(member_out.id))` then `emplace(member_in)`. -/
def replacedMembers (members : MemberSet) (memberOut memberIn : ReplicaMemberInfo) : MemberSet :=
  (members.erase memberOut.id).emplace ⟨memberIn.id, memberIn.name, memberIn.priority⟩

theorem mem_insertById_iff {member other : PgMember} {members : List PgMember}
    (fresh : member.id ∉ members.map PgMember.id) :
    other ∈ insertById member members ↔ other = member ∨ other ∈ members := by
  induction members with
  | nil => simp [insertById]
  | cons head rest inductionHypothesis =>
    have different : member.id ≠ head.id := List.ne_of_not_mem_cons fresh
    unfold insertById
    split
    · exact List.mem_cons
    · simp only [different, if_false, List.mem_cons,
        inductionHypothesis (List.not_mem_of_not_mem_cons fresh)]
      exact or_left_comm

theorem length_insertById {member : PgMember} {members : List PgMember}
    (fresh : member.id ∉ members.map PgMember.id) :
    (insertById member members).length = members.length + 1 := by
  induction members with
  | nil => rfl
  | cons head rest inductionHypothesis =>
    unfold insertById
    split
    · rfl
    · simp [List.ne_of_not_mem_cons fresh, inductionHypothesis (List.not_mem_of_not_mem_cons fresh)]

theorem length_filter_id_ne {members : List PgMember} {id : Uuid}
    (increasing : IdsIncreasing members) (present : id ∈ members.map PgMember.id) :
    (members.filter fun member => member.id != id).length + 1 = members.length := by
  induction members with
  | nil => simp at present
  | cons head rest inductionHypothesis =>
    have ⟨headBelow, restIncreasing⟩ := List.pairwise_cons.mp increasing
    by_cases isHead : head.id = id
    · have restKept : (rest.filter fun member => member.id != id) = rest :=
        List.filter_eq_self.mpr fun member inRest => by
          simpa [← isHead] using (Uuid.ne_of_lt (headBelow member inRest)).symm
      simp [isHead, restKept]
    · have inRest : id ∈ rest.map PgMember.id :=
        (List.mem_cons.mp present).resolve_left fun same => isHead same.symm
      simp [isHead, inductionHypothesis restIncreasing inRest]

theorem insertById_of_mem {member : PgMember} {members : List PgMember}
    (increasing : IdsIncreasing members) (present : member.id ∈ members.map PgMember.id) :
    insertById member members = members := by
  induction members with
  | nil => simp at present
  | cons head rest inductionHypothesis =>
    have ⟨headBelow, restIncreasing⟩ := List.pairwise_cons.mp increasing
    by_cases isHead : member.id = head.id
    · simp [insertById, isHead, Uuid.lt_irrefl]
    · simp only [List.map_cons, List.mem_cons, isHead, false_or] at present
      obtain ⟨other, inRest, same⟩ := List.mem_map.mp present
      have above : head.id < member.id := same ▸ headBelow other inRest
      have notBelow : ¬ member.id < head.id := fun below => Uuid.lt_irrefl _ (Uuid.lt_trans below above)
      simp [insertById, isHead, notBelow, inductionHypothesis restIncreasing present]

theorem id_mem_insertById (member : PgMember) (members : List PgMember) :
    member.id ∈ (insertById member members).map PgMember.id := by
  induction members with
  | nil => simp [insertById]
  | cons head rest inductionHypothesis =>
    unfold insertById
    split
    · simp
    · split
      · simp [*]
      · simp [inductionHypothesis]

theorem filter_insertById (member : PgMember) (members : List PgMember) {id : Uuid}
    (named : member.id = id) :
    (insertById member members).filter (fun other => other.id != id) =
      members.filter (fun other => other.id != id) := by
  subst named
  induction members with
  | nil => simp [insertById]
  | cons head rest inductionHypothesis =>
    unfold insertById
    split
    · simp
    · split
      · rfl
      · simp only [List.filter_cons, inductionHypothesis]

/-- **A replacement replayed on its own result changes nothing**: the member out is gone and the
member in is there, so erasing the one and emplacing the other again leaves the set. -/
theorem replacedMembers_replacedMembers (members : MemberSet)
    (memberOut memberIn : ReplicaMemberInfo) :
    replacedMembers (replacedMembers members memberOut memberIn) memberOut memberIn =
      replacedMembers members memberOut memberIn := by
  apply MemberSet.ext
  simp only [replacedMembers, MemberSet.emplace, MemberSet.erase]
  by_cases same : memberIn.id = memberOut.id
  · rw [filter_insertById _ _ same, List.filter_filter]
    simp
  · have gone : ∀ member ∈ insertById ⟨memberIn.id, memberIn.name, memberIn.priority⟩
        (members.toList.filter fun member => member.id != memberOut.id),
        (member.id != memberOut.id) = true := fun member inserted => by
      rcases mem_insertById inserted with rfl | kept
      · simpa using same
      · exact (List.mem_filter.mp kept).2
    rw [List.filter_eq_self.mpr gone]
    exact insertById_of_mem (insertById_increasing (members.erase memberOut.id).increasing)
      (id_mem_insertById _ _)

section Replaced

variable {members : MemberSet} {memberOut memberIn : ReplicaMemberInfo}
  (fresh : memberIn.id ∉ members.ids)
include fresh

private theorem fresh_erase :
    memberIn.id ∉ (members.erase memberOut.id).toList.map PgMember.id := by
  intro inErased
  obtain ⟨member, inFilter, same⟩ := List.mem_map.mp inErased
  exact fresh (List.mem_map.mpr ⟨member, (List.mem_filter.mp inFilter).1, same⟩)

theorem size_replaced (present : memberOut.id ∈ members.ids) :
    (replacedMembers members memberOut memberIn).size = members.size := by
  have erased := length_filter_id_ne members.increasing present
  show (insertById _ (members.erase memberOut.id).toList).length = members.toList.length
  rw [length_insertById (fresh_erase fresh)]
  exact erased

end Replaced

/-! ## The handlers -/

/-- The request `_replace_member` sends to the replication service's `replace_member`. -/
structure ReplaceRequest where
  groupId : Uuid
  memberOut : ReplicaMemberInfo
  memberIn : ReplicaMemberInfo
  commitQuorum : UInt32

/-- `_replace_member(pg_id, old_member_id, new_member, commit_quorum)`, up to the request it
sends; `isLeader` answers `repl_dev.is_leader()` for a group. `in_replica.name` gets the name's
bytes by `strncpy` and a terminator at `name.size()`. -/
def replaceMember (state : HomeObjectState) (pgId : UInt16) (oldMemberId : Uuid)
    (newMember : PgMember) (commitQuorum : UInt32) (isLeader : Uuid → Bool) :
    Except PGError ReplaceRequest :=
  match state.pgMap.find pgId with
  | none => .error .unknownPg
  | some pg =>
    if !isLeader pg.replDev && commitQuorum == 0 then .error .notLeader
    else .ok ⟨pg.replDev, ⟨oldMemberId, [], Int32.zero, by decide⟩,
      ⟨newMember.id, cStringAt (strncpy newMember.name newMember.name.length ++ [0]) 0,
        newMember.priority, zero_not_mem_cStringAt _ _⟩, commitQuorum⟩

theorem cStringAt_strncpy_terminated (name : Bytes) :
    cStringAt (strncpy name name.length ++ [0]) 0 = name.takeWhile (· != 0) := by
  have short := (@List.takeWhile_prefix _ name (· != 0)).length_le
  have before : ∀ byte ∈ name.takeWhile (fun byte => byte != 0),
      (fun byte => byte != 0) byte = true :=
    fun _ member => @List.mem_takeWhile_imp _ (fun byte : UInt8 => byte != 0) _ _ member
  have stops : ∀ count, (List.replicate count (0 : UInt8) ++ [0]).takeWhile (· != 0) = [] := by
    intro count
    cases count <;> rfl
  simp only [cStringAt, List.drop_zero, strncpy, List.take_append_eq_append_take,
    List.take_of_length_le short, List.take_replicate, List.append_assoc,
    List.takeWhile_append_of_pos before, stops, List.append_nil]

/-- What `_replace_member` sends when it sends a request: the group of the PG asked for, the old
member's id, and the new member's id, name through `strncpy` and priority. -/
theorem replaceMember_ok {state : HomeObjectState} {pgId : UInt16} {oldMemberId : Uuid}
    {newMember : PgMember} {commitQuorum : UInt32} {isLeader : Uuid → Bool}
    {request : ReplaceRequest}
    (sent : replaceMember state pgId oldMemberId newMember commitQuorum isLeader = .ok request) :
    ∃ pg, state.pgMap.find pgId = some pg ∧
      request = ⟨pg.replDev, ⟨oldMemberId, [], Int32.zero, by decide⟩,
        ⟨newMember.id, cStringAt (strncpy newMember.name newMember.name.length ++ [0]) 0,
          newMember.priority, zero_not_mem_cStringAt _ _⟩, commitQuorum⟩ := by
  unfold replaceMember at sent
  split at sent
  · cases sent
  · split at sent
    · cases sent
    · cases sent
      exact ⟨_, ‹_›, rfl⟩

/-- The PG the loop of `on_pg_replace_member` stops at: the first of `_pg_map`, in key order, whose
replication device is the group. -/
def replaceTarget (state : HomeObjectState) (groupId : Uuid) : Option (UInt16 × HsPg) :=
  state.pgMap.entries.find? fun entry => entry.2.replDev == groupId

/-- `on_pg_replace_member(group_id, member_out, member_in)`: the PG of the group gets the new
member set, the member loop is rerun on its superblock, which is written; with no PG of the group
nothing changes. -/
def onPgReplaceMember (state : HomeObjectState) (groupId : Uuid)
    (memberOut memberIn : ReplicaMemberInfo) : HomeObjectState :=
  match replaceTarget state groupId with
  | none => state
  | some (key, pg) =>
    let members := replacedMembers pg.pgInfo.members memberOut memberIn
    { state with
      pgMap := state.pgMap.modify key fun pg => { pg with pgInfo := { pg.pgInfo with members } }
      metaBlks := state.metaBlks.modify (fun sb => sb.rewriteMembers members.toList) pg.pgSb }

/-! ## What the handler changes -/

section Found

variable {state : HomeObjectState} {groupId : Uuid} {memberOut memberIn : ReplicaMemberInfo}
  {key : UInt16} {pg : HsPg}
  (found : replaceTarget state groupId = some (key, pg))
include found

theorem find_of_replaceTarget : state.pgMap.find key = some pg ∧ pg.replDev = groupId :=
  ⟨PgMap.find_of_mem (List.mem_of_find?_eq_some found),
    by simpa using List.find?_some found⟩

/-- **The handler changes the PG of the group and its superblock, and nothing else**: that PG gets
the replaced member set, its superblock the member loop rerun on it; every other PG, every other
meta block, the index-table map, the chunk selector and the index tables are as they were. -/
theorem onPgReplaceMember_found :
    (onPgReplaceMember state groupId memberOut memberIn).pgMap.find key =
        some { pg with pgInfo := { pg.pgInfo with
          members := replacedMembers pg.pgInfo.members memberOut memberIn } } ∧
      (∀ other, other ≠ key →
        (onPgReplaceMember state groupId memberOut memberIn).pgMap.find other =
          state.pgMap.find other) ∧
      (onPgReplaceMember state groupId memberOut memberIn).metaBlks[pg.pgSb]? =
        state.metaBlks[pg.pgSb]?.map
          (·.rewriteMembers (replacedMembers pg.pgInfo.members memberOut memberIn).toList) ∧
      (∀ index, index ≠ pg.pgSb →
        (onPgReplaceMember state groupId memberOut memberIn).metaBlks[index]? =
          state.metaBlks[index]?) ∧
      (onPgReplaceMember state groupId memberOut memberIn).indexTablePgMap =
        state.indexTablePgMap ∧
      (onPgReplaceMember state groupId memberOut memberIn).chunkSelector = state.chunkSelector ∧
      (onPgReplaceMember state groupId memberOut memberIn).indexTables = state.indexTables := by
  have present := (find_of_replaceTarget found).1
  simp only [onPgReplaceMember, found]
  refine ⟨?_, fun other different => ?_, ?_, fun index different => ?_, trivial, trivial, trivial⟩
  · simp [PgMap.find_modify, present]
  · simp [PgMap.find_modify, different]
  · simp [List.getElem?_modify]
  · simp [List.getElem?_modify, Ne.symm different]

end Found

/-- A PG whose one member, named "long", is replaced by a member named "s": the superblock the
constructor wrote reads back "long", and after the replacement, while the PG's member is named
"s", the superblock reads back "song", the tail of the old name left in the field. -/
theorem onPgReplaceMember_leavesNameTail :
    let info : PgInfo := { PgInfo.ofId 1 with
      members := MemberSet.empty.emplace ⟨Uuid.ofNat 1, Json.ascii "long", Int32.zero⟩
      replicaSetUuid := Uuid.ofNat 7 }
    let state : HomeObjectState :=
      ⟨PgMap.empty.tryEmplace 1 ⟨info, Uuid.ofNat 7, some (Uuid.ofNat 9), 0, .zero⟩, [],
        ⟨1, [], [(1, [])]⟩, [createSb info (Uuid.ofNat 7) (Uuid.ofNat 9) [] []], [Uuid.ofNat 9]⟩
    let after := onPgReplaceMember state (Uuid.ofNat 7)
      ⟨Uuid.ofNat 1, Json.ascii "long", Int32.zero, by decide⟩
      ⟨Uuid.ofNat 2, Json.ascii "s", Int32.zero, by decide⟩
    state.metaBlks.map (fun sb => (pgInfoFromSb sb).members.toList.map PgMember.name) =
        [[Json.ascii "long"]] ∧
      (after.pgMap.find 1).map (fun pg => pg.pgInfo.members.toList.map PgMember.name) =
        some [Json.ascii "s"] ∧
      after.metaBlks.map (fun sb => (pgInfoFromSb sb).members.toList.map PgMember.name) =
        [[Json.ascii "song"]] := by
  decide

/-! ## From the leader to a replica -/

/-- **With one PG of its group in the map, the handler's loop stops at that PG.** -/
theorem replaceTarget_of_only {state : HomeObjectState} {key : UInt16} {pg : HsPg}
    (found : state.pgMap.find key = some pg)
    (only : ∀ entry ∈ state.pgMap.entries, entry.2.replDev = pg.replDev → entry.1 = key) :
    replaceTarget state pg.replDev = some (key, pg) := by
  cases target : replaceTarget state pg.replDev with
  | none =>
    simpa using List.find?_eq_none.mp target _ (PgMap.mem_of_find found)
  | some entry =>
    obtain ⟨key', pg'⟩ := entry
    obtain ⟨found', group⟩ := find_of_replaceTarget target
    obtain rfl := only _ (List.mem_of_find?_eq_some target) group
    rw [Option.some.inj (found.symm.trans found')]

/-- **A replacement the leader sends is the one a replica applies**: once the replication service
delivers the request of `_replace_member` to a replica holding the PG, in the group of the leader's
PG and with no other PG of that group, where the old member is in the PG and the new one is not,
the replica's PG has the old member erased and the new one, named up to the first NUL of its
name, emplaced, as many members as before; its superblock has the member loop rerun on that set;
and no other PG changes. -/
theorem replaceMember_applied {state replica : HomeObjectState} {pgId : UInt16}
    {oldMemberId : Uuid} {newMember : PgMember} {commitQuorum : UInt32}
    {isLeader : Uuid → Bool} {request : ReplaceRequest}
    (sent : replaceMember state pgId oldMemberId newMember commitQuorum isLeader = .ok request)
    {pg : HsPg} (replicated : replica.pgMap.find pgId = some pg)
    (sameGroup : (state.pgMap.find pgId).map HsPg.replDev = some pg.replDev)
    (only : ∀ entry ∈ replica.pgMap.entries, entry.2.replDev = pg.replDev → entry.1 = pgId)
    (present : oldMemberId ∈ pg.pgInfo.members.ids) (absent : newMember.id ∉ pg.pgInfo.members.ids) :
    let members := (pg.pgInfo.members.erase oldMemberId).emplace
      ⟨newMember.id, newMember.name.takeWhile (· != 0), newMember.priority⟩
    let after := onPgReplaceMember replica request.groupId request.memberOut request.memberIn
    after.pgMap.find pgId = some { pg with pgInfo := { pg.pgInfo with members } } ∧
      members.size = pg.pgInfo.members.size ∧
      after.metaBlks[pg.pgSb]? = replica.metaBlks[pg.pgSb]?.map (·.rewriteMembers members.toList) ∧
      ∀ key, key ≠ pgId → after.pgMap.find key = replica.pgMap.find key := by
  obtain ⟨leaderPg, leaderFound, rfl⟩ := replaceMember_ok sent
  simp only [leaderFound, Option.map_some', Option.some.injEq] at sameGroup
  have target := replaceTarget_of_only replicated only
  rw [← sameGroup] at target
  let memberOut : ReplicaMemberInfo := ⟨oldMemberId, [], Int32.zero, by decide⟩
  let memberIn : ReplicaMemberInfo := ⟨newMember.id,
    cStringAt (strncpy newMember.name newMember.name.length ++ [0]) 0, newMember.priority,
    zero_not_mem_cStringAt _ _⟩
  obtain ⟨applied, others, superblock, -⟩ :=
    @onPgReplaceMember_found replica _ memberOut memberIn pgId pg target
  have size := @size_replaced pg.pgInfo.members memberOut memberIn absent present
  dsimp only
  simp only [memberOut, memberIn, replacedMembers, cStringAt_strncpy_terminated]
    at applied superblock others size ⊢
  exact ⟨applied, size, superblock, others⟩

theorem replaceMember_applied_onePg :
    let pg : HsPg := ⟨{ PgInfo.ofId 1 with
      members := MemberSet.empty.emplace ⟨Uuid.ofNat 1, [97], Int32.zero⟩ }, Uuid.ofNat 7, none,
      0, .zero⟩
    let state : HomeObjectState := ⟨PgMap.empty.tryEmplace 1 pg, [], ⟨1, [], []⟩, [], []⟩
    let newMember : PgMember := ⟨Uuid.ofNat 2, [98, 0, 99], Int32.zero⟩
    let request : ReplaceRequest :=
      ⟨Uuid.ofNat 7, ⟨Uuid.ofNat 1, [], Int32.zero, by decide⟩,
        ⟨Uuid.ofNat 2, [98], Int32.zero, by decide⟩, 1⟩
    let members := (pg.pgInfo.members.erase (Uuid.ofNat 1)).emplace
      ⟨newMember.id, newMember.name.takeWhile (· != 0), newMember.priority⟩
    let after := onPgReplaceMember state request.groupId request.memberOut request.memberIn
    (replaceMember state 1 (Uuid.ofNat 1) newMember 1 (fun _ => true) = .ok request ∧
      state.pgMap.find 1 = some pg ∧ (state.pgMap.find 1).map HsPg.replDev = some pg.replDev ∧
      (∀ entry ∈ state.pgMap.entries, entry.2.replDev = pg.replDev → entry.1 = 1) ∧
      Uuid.ofNat 1 ∈ pg.pgInfo.members.ids ∧ newMember.id ∉ pg.pgInfo.members.ids) ∧
      after.pgMap.find 1 = some { pg with pgInfo := { pg.pgInfo with members } } ∧
      members.size = pg.pgInfo.members.size ∧
      after.metaBlks[pg.pgSb]? = state.metaBlks[pg.pgSb]?.map (·.rewriteMembers members.toList) ∧
      ∀ key, key ≠ 1 → after.pgMap.find key = state.pgMap.find key := by
  intro pg state newMember request members after
  exact ⟨⟨rfl, rfl, rfl, by decide, by decide, by decide⟩, @replaceMember_applied state state 1
    (Uuid.ofNat 1) newMember 1 (fun _ => true) request rfl pg rfl rfl (by decide) (by decide)
    (by decide)⟩

end HomeObject
