import HomeObject.PgManager.Lifecycle

/-!
Contract: one replication group's log as each member of the group commits it. `_create_pg` makes
a new group and proposes in it the one CREATE_PG entry `do_create_pg` builds; the replication
service then applies, on every member, that entry through `on_create_pg_message_commit` and each
later membership change of the group through `on_pg_replace_member`.

Owns:
- `replacedAll` and `applyGroupLog`, a member's run of the group's log
  (`applyGroupLog_of_replied`);
- `onCreatePgMessageCommit_doCreatePg_refused`: a member without the leader's chunk size or without
  room replies an error and keeps its PGs;
- `OwnsGroup`, kept by the create entry (`ownsGroup_commit`) and by every change
  (`onPgReplaceMember_ownsGroup`, `replaceAll_ownsGroup`): at most the PG of the entry is in the
  group, and the changes act on it alone;
- `ValidChanges`: each change of the log replaces a present member by an absent one, which keeps
  the member count (`size_replacedAll`);
- `applyGroupLog_agreement`: every member that holds the PG holds the same `PGInfo`, the leader's
  with every change applied in log order, and a member holds it exactly when it has the leader's
  chunk size and room for the chunks.

The replication service and its log are in homestore, outside the sources: the log is given as the
create entry and the list of changes, and each member's index table and allocation are passed in.
-/

set_option autoImplicit false

namespace HomeObject

open Superblock

/-- The members after the membership changes `changes`, in log order. -/
def replacedAll (members : MemberSet) (changes : List (ReplicaMemberInfo × ReplicaMemberInfo)) :
    MemberSet :=
  changes.foldl (fun members change => replacedMembers members change.1 change.2) members

/-- Each change of the log replaces a member of the set it is applied to by one that is not in
it. -/
def ValidChanges : MemberSet → List (ReplicaMemberInfo × ReplicaMemberInfo) → Prop
  | _, [] => True
  | members, change :: rest => change.1.id ∈ members.ids ∧ change.2.id ∉ members.ids ∧
      ValidChanges (replacedMembers members change.1 change.2) rest

theorem size_replacedAll : ∀ {members : MemberSet} {changes : List (ReplicaMemberInfo × ReplicaMemberInfo)},
    ValidChanges members changes → (replacedAll members changes).size = members.size
  | _, [], _ => rfl
  | _, _ :: _, ⟨present, fresh, valid⟩ => (size_replacedAll valid).trans (size_replaced fresh present)

/-- A member's run of the log of the group `groupId`: the CREATE_PG entry `blob`, with the index
table `indexTable` and the allocation `fresh` of this member, then the membership changes
`changes`; `none` when the create entry aborts or throws. -/
def applyGroupLog (state : HomeObjectState) (groupId indexTable : Uuid) (fresh blob : Bytes)
    (changes : List (ReplicaMemberInfo × ReplicaMemberInfo)) : Option HomeObjectState :=
  match onCreatePgMessageCommit state blob groupId indexTable fresh with
  | .replied _ after => some (changes.foldl (fun state change =>
      onPgReplaceMember state groupId change.1 change.2) after)
  | _ => none

theorem applyGroupLog_of_replied {state after : HomeObjectState} {groupId indexTable : Uuid}
    {fresh blob : Bytes} {result : Except PGError Unit}
    (replied : onCreatePgMessageCommit state blob groupId indexTable fresh = .replied result after)
    (changes : List (ReplicaMemberInfo × ReplicaMemberInfo)) :
    applyGroupLog state groupId indexTable fresh blob changes = some (changes.foldl
      (fun state change => onPgReplaceMember state groupId change.1 change.2) after) := by
  simp [applyGroupLog, replied]

/-! ## The create entry on one member -/

/-- **A member without the leader's chunk size, or without room, refuses the entry**: it replies
an error and its map keeps its PGs. -/
theorem onCreatePgMessageCommit_doCreatePg_refused {state : HomeObjectState} {info : PgInfo}
    {blob : Bytes} (validNames : ∀ member ∈ info.members.toList, Json.validUtf8 member.name = true)
    (built : doCreatePg info = .ok blob) (absent : state.pgMap.find info.id = none)
    (refused : ¬ (info.chunkSize = state.chunkSelector.chunkSize ∧
      (state.chunkSelector.selectChunksForPg info.id info.size).isSome))
    (replDev indexTable : Uuid) (fresh : Bytes) :
    ∃ error after, onCreatePgMessageCommit state blob replDev indexTable fresh =
      .replied (.error error) after ∧ after.pgMap = state.pgMap := by
  obtain ⟨payload, serialized, decoded⟩ := deserializePgInfo_serializePgInfo validNames
  obtain ⟨blob', built', long, checked⟩ := doCreatePg_checked serialized
  rw [built] at built'
  cases built'
  by_cases sameChunkSize : info.chunkSize = state.chunkSelector.chunkSize
  · have none : state.chunkSelector.selectChunksForPg info.id info.size = none :=
      Option.not_isSome_iff_eq_none.mp fun room => refused ⟨sameChunkSize, room⟩
    exact ⟨.noSpaceLeft, state, by simp [onCreatePgMessageCommit, Nat.not_lt.mpr long, checked,
      decoded, absent, HeapChunkSelector.getChunkSize, sameChunkSize, none], rfl⟩
  · exact ⟨.unknown, state, by simp [onCreatePgMessageCommit, Nat.not_lt.mpr long, checked,
      decoded, absent, HeapChunkSelector.getChunkSize, sameChunkSize], rfl⟩

/-! ## One PG of the group -/

/-- On `state`, at most the PG under `id` is in the group `groupId`, and a PG under `id` is in
it. -/
structure OwnsGroup (state : HomeObjectState) (groupId : Uuid) (id : UInt16) : Prop where
  only : ∀ entry ∈ state.pgMap.entries, entry.2.replDev = groupId → entry.1 = id
  inGroup : ∀ pg, state.pgMap.find id = some pg → pg.replDev = groupId

section OwnsGroup

variable {groupId : Uuid} {id : UInt16}

def HsPg.mapMembers (change : MemberSet → MemberSet) (pg : HsPg) : HsPg :=
  { pg with pgInfo := { pg.pgInfo with members := change pg.pgInfo.members } }

/-- **One change acts on the group's PG alone** and keeps it the group's one PG. -/
theorem onPgReplaceMember_ownsGroup {state : HomeObjectState} (owns : OwnsGroup state groupId id)
    (memberOut memberIn : ReplicaMemberInfo) :
    OwnsGroup (onPgReplaceMember state groupId memberOut memberIn) groupId id ∧
      (onPgReplaceMember state groupId memberOut memberIn).pgMap.find id =
        (state.pgMap.find id).map (HsPg.mapMembers (replacedMembers · memberOut memberIn)) ∧
      ∀ key, key ≠ id →
        (onPgReplaceMember state groupId memberOut memberIn).pgMap.find key = state.pgMap.find key := by
  rcases found : state.pgMap.find id with _ | pg
  · have none : replaceTarget state groupId = none :=
      List.find?_eq_none.mpr fun entry listed inGroup => by
        have owner := owns.only entry listed (by simpa using inGroup)
        rw [← owner, PgMap.find_of_mem listed] at found
        cases found
    have unchanged : onPgReplaceMember state groupId memberOut memberIn = state := by
      simp [onPgReplaceMember, none]
    rw [unchanged]
    exact ⟨owns, found, fun _ _ => rfl⟩
  have group := owns.inGroup pg found
  have target : replaceTarget state groupId = some (id, pg) :=
    group ▸ replaceTarget_of_only found (group ▸ owns.only)
  obtain ⟨applied, others, -⟩ :=
    @onPgReplaceMember_found state groupId memberOut memberIn id pg target
  refine ⟨⟨fun entry listed inGroup => ?_, fun pg' found' => ?_⟩, applied, others⟩
  · by_contra other
    have kept := others entry.1 other
    rw [PgMap.find_of_mem listed] at kept
    exact other (owns.only _ (by simpa using PgMap.mem_of_find kept.symm) inGroup)
  · rw [applied] at found'
    cases found'
    exact group

/-- **The changes, in log order, act on the group's PG alone.** -/
theorem replaceAll_ownsGroup (changes : List (ReplicaMemberInfo × ReplicaMemberInfo)) :
    ∀ {state : HomeObjectState}, OwnsGroup state groupId id →
      (changes.foldl (fun state change => onPgReplaceMember state groupId change.1 change.2)
          state).pgMap.find id =
        (state.pgMap.find id).map (HsPg.mapMembers (replacedAll · changes)) ∧
      ∀ key, key ≠ id → (changes.foldl (fun state change =>
        onPgReplaceMember state groupId change.1 change.2) state).pgMap.find key =
          state.pgMap.find key := by
  induction changes with
  | nil =>
    intro state _
    refine ⟨?_, fun _ _ => rfl⟩
    rw [List.foldl_nil]
    cases state.pgMap.find id <;> rfl
  | cons change rest inductionHypothesis =>
    intro state owns
    obtain ⟨owns', applied, others⟩ := onPgReplaceMember_ownsGroup owns change.1 change.2
    obtain ⟨appliedRest, othersRest⟩ := inductionHypothesis owns'
    refine ⟨?_, fun key other => (othersRest key other).trans (others key other)⟩
    rw [List.foldl_cons, appliedRest, applied, Option.map_map]
    rfl

/-- **The create entry leaves the group with its one PG**: on a member where the PG is absent and
no PG is in the new group, committing the entry `do_create_pg` built for it replies; the member
then holds the leader's PG, in the group, exactly when it has the leader's chunk size and room for
the chunks, and every other PG is as it was. -/
theorem ownsGroup_commit {state : HomeObjectState} {info : PgInfo} {blob : Bytes}
    (validNames : ∀ member ∈ info.members.toList, Json.validUtf8 member.name = true)
    (built : doCreatePg info = .ok blob) (absent : state.pgMap.find info.id = none)
    (newGroup : ∀ entry ∈ state.pgMap.entries, entry.2.replDev ≠ info.replicaSetUuid)
    {indexTable : Uuid} (free : state.indexTablePgMap.lookup indexTable.toString = none)
    (fresh : Bytes) :
    ∃ result after, onCreatePgMessageCommit state blob info.replicaSetUuid indexTable fresh =
        .replied result after ∧ OwnsGroup after info.replicaSetUuid info.id ∧
      (after.pgMap.find info.id).map (fun pg => pg.pgInfo) =
        (if info.chunkSize = state.chunkSelector.chunkSize ∧
          (state.chunkSelector.selectChunksForPg info.id info.size).isSome then some info
        else none) ∧
      ∀ key, key ≠ info.id → after.pgMap.find key = state.pgMap.find key := by
  have notInGroup : ∀ key pg, state.pgMap.find key = some pg → pg.replDev ≠ info.replicaSetUuid :=
    fun key pg found => newGroup (key, pg) (PgMap.mem_of_find found)
  by_cases room : info.chunkSize = state.chunkSelector.chunkSize ∧
      (state.chunkSelector.selectChunksForPg info.id info.size).isSome
  · obtain ⟨sameChunkSize, selectable⟩ := room
    obtain ⟨⟨count, selector⟩, selected⟩ := Option.isSome_iff_exists.mp selectable
    obtain ⟨chunks, reserved, -⟩ := HeapChunkSelector.getPgChunks_select_self selected
    refine ⟨.ok (), _, onCreatePgMessageCommit_doCreatePg validNames built absent sameChunkSize
      selected reserved free rfl fresh, ⟨fun entry listed inGroup => ?_, fun pg found => ?_⟩,
      by simp [find_createdState absent, sameChunkSize, selected],
      fun key other => by rw [find_createdState absent, if_neg other]⟩
    · have found := PgMap.find_of_mem listed
      rw [find_createdState absent] at found
      split at found
      · assumption
      · exact absurd inGroup (notInGroup _ _ found)
    · rw [find_createdState absent, if_pos rfl] at found
      cases found
      rfl
  · obtain ⟨error, after, replied, sameMap⟩ :=
      onCreatePgMessageCommit_doCreatePg_refused validNames built absent room
        info.replicaSetUuid indexTable fresh
    refine ⟨.error error, after, replied, ⟨fun entry listed inGroup => ?_, fun pg found => ?_⟩,
      by simp [sameMap, absent, room], fun key _ => by rw [sameMap]⟩
    · rw [sameMap] at listed
      exact absurd inGroup (newGroup entry listed)
    · rw [sameMap, absent] at found
      cases found

end OwnsGroup

/-! ## Every member of the group -/

/-- **The members of a group agree on its PG**: every member on which the PG is absent and no PG
is in the new group, with a fresh index table, runs the group's log (the CREATE_PG entry
`do_create_pg` built for a `PGInfo` with UTF-8 member names, then membership changes each of a
present member for an absent one) to its end. If it then holds the PG, it holds it in the group
with the leader's `PGInfo`, every change applied in log order, as many members as the leader's,
whatever its chunks; it holds it exactly when it has the leader's chunk size and room for the
chunks; and its other PGs are as they were. -/
theorem applyGroupLog_agreement {info : PgInfo} {blob : Bytes}
    (validNames : ∀ member ∈ info.members.toList, Json.validUtf8 member.name = true)
    (built : doCreatePg info = .ok blob) {state : HomeObjectState}
    (absent : state.pgMap.find info.id = none)
    (newGroup : ∀ entry ∈ state.pgMap.entries, entry.2.replDev ≠ info.replicaSetUuid)
    {indexTable : Uuid} (free : state.indexTablePgMap.lookup indexTable.toString = none)
    (fresh : Bytes) {changes : List (ReplicaMemberInfo × ReplicaMemberInfo)}
    (valid : ValidChanges info.members changes) :
    ∃ after, applyGroupLog state info.replicaSetUuid indexTable fresh blob changes = some after ∧
      (∀ pg, after.pgMap.find info.id = some pg →
        pg.pgInfo = { info with members := replacedAll info.members changes } ∧
          pg.replDev = info.replicaSetUuid) ∧
      (replacedAll info.members changes).size = info.members.size ∧
      ((after.pgMap.find info.id).isSome ↔ info.chunkSize = state.chunkSelector.chunkSize ∧
        (state.chunkSelector.selectChunksForPg info.id info.size).isSome) ∧
      ∀ key, key ≠ info.id → after.pgMap.find key = state.pgMap.find key := by
  obtain ⟨result, created, replied, owns, createdPg, createdOthers⟩ :=
    ownsGroup_commit validNames built absent newGroup free fresh
  obtain ⟨applied, others⟩ := replaceAll_ownsGroup changes owns
  refine ⟨_, applyGroupLog_of_replied replied changes, fun pg found => ?_, size_replacedAll valid,
    ?_, fun key other => (others key other).trans (createdOthers key other)⟩
  · rw [applied] at found
    obtain ⟨createdOne, present, rfl⟩ := Option.map_eq_some'.mp found
    have sameInfo : createdOne.pgInfo = info := by
      rw [present] at createdPg
      split at createdPg
      · simpa using createdPg
      · cases createdPg
    exact ⟨by simp [HsPg.mapMembers, sameInfo], owns.inGroup createdOne present⟩
  · have present := congrArg Option.isSome createdPg
    rw [Option.isSome_map'] at present
    rw [applied, Option.isSome_map', present]
    split <;> simp_all

theorem applyGroupLog_agreement_oneMember :
    let info : PgInfo := { PgInfo.ofId 1 with
      members := MemberSet.empty.emplace ⟨Uuid.ofNat 1, Json.ascii "a", Int32.zero⟩
      size := 1
      chunkSize := 1
      replicaSetUuid := Uuid.ofNat 5 }
    let blob := (doCreatePg info).toOption.getD []
    let state := HomeObjectState.init 1 [[0]]
    let changes : List (ReplicaMemberInfo × ReplicaMemberInfo) :=
      [(⟨Uuid.ofNat 1, Json.ascii "a", Int32.zero, by decide⟩,
        ⟨Uuid.ofNat 2, Json.ascii "b", Int32.zero, by decide⟩)]
    ((∀ member ∈ info.members.toList, Json.validUtf8 member.name = true) ∧
      doCreatePg info = .ok blob ∧ state.pgMap.find info.id = none ∧
      (∀ entry ∈ state.pgMap.entries, entry.2.replDev ≠ info.replicaSetUuid) ∧
      state.indexTablePgMap.lookup (Uuid.ofNat 6).toString = none ∧
      ValidChanges info.members changes) ∧
    ∃ after, applyGroupLog state info.replicaSetUuid (Uuid.ofNat 6) [] blob changes = some after ∧
      (∀ pg, after.pgMap.find info.id = some pg →
        pg.pgInfo = { info with members := replacedAll info.members changes } ∧
          pg.replDev = info.replicaSetUuid) ∧
      (replacedAll info.members changes).size = info.members.size ∧
      ((after.pgMap.find info.id).isSome ↔ info.chunkSize = state.chunkSelector.chunkSize ∧
        (state.chunkSelector.selectChunksForPg info.id info.size).isSome) ∧
      ∀ key, key ≠ info.id → after.pgMap.find key = state.pgMap.find key := by
  intro info blob state changes
  have valid : ValidChanges info.members changes := ⟨by decide, by decide, trivial⟩
  exact ⟨⟨by decide, rfl, rfl, by decide, rfl, valid⟩,
    @applyGroupLog_agreement info blob (by decide) rfl state rfl (by decide) (Uuid.ofNat 6) rfl []
      changes valid⟩

end HomeObject
