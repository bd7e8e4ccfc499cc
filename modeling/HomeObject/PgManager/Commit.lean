import HomeObject.PgManager.State

/-!
Contract: `on_create_pg_message_commit`, the handler every replica runs when a CREATE_PG entry
commits.

Owns:
- `CommitOutcome` and `onCreatePgMessageCommit`, step by step as the source runs them;
- `CommitEffect`, what a commit does stated by the decoded entry instead of the steps: each
  reply with its cause and an unchanged state, the exception of `deserialize_pg_info`, the
  aborts (a member record missing a key among them), or exactly one new PG (`createdState`);
- `onCreatePgMessageCommit_effect`, that the handler does one of those on every state and blob,
  and that a commit which replied success replies success again, changing nothing.

The reply is the value the proposer's promise receives; on the other replicas there is no
context and it is dropped. The index table `create_index_table` makes is known by its uuid,
drawn by `random_generator` and passed in as `indexTable`; `fresh` is what the superblock's
allocation held.
-/

set_option autoImplicit false

namespace HomeObject

open Superblock

/-- How `on_create_pg_message_commit` ends. -/
inductive CommitOutcome where
  /-- It returns, the proposer's promise set to `result`. -/
  | replied (result : Except PGError Unit) (state : HomeObjectState)
  /-- `deserialize_pg_info` throws out of the handler. -/
  | threw (error : DecodeError) (state : HomeObjectState)
  /-- A `RELEASE_ASSERT` or the JSON library's `JSON_ASSERT` fires, or the blob is shorter than
  a header and the handler reads past it; `state` is what had been done by then. -/
  | crashed (state : HomeObjectState)

/-- `on_create_pg_message_commit(lsn, header, repl_dev, ctx)` for the header blob `blob` and a
replication device of group `replDev`. -/
def onCreatePgMessageCommit (state : HomeObjectState) (blob : Bytes) (replDev indexTable : Uuid)
    (fresh : Bytes) : CommitOutcome :=
  if blob.length < ReplicationMessageHeader.size then .crashed state else
  match checkCreatePgHeader blob with
  | .error error => .replied (.error error) state
  | .ok payload =>
  match deserializePgInfo payload with
  | .error error => if error.aborts then .crashed state else .threw error state
  | .ok info =>
  if (state.pgMap.find info.id).isSome then .replied (.ok ()) state else
  if info.chunkSize ≠ state.chunkSelector.getChunkSize then .replied (.error .unknown) state else
  match state.chunkSelector.selectChunksForPg info.id info.size with
  | none => .replied (.error .noSpaceLeft) state
  | some (_, selector) =>
  let state := { state with chunkSelector := selector }
  match selector.getPgChunks info.id with
  | none => .replied (.error .noSpaceLeft) state
  | some chunks =>
  let (pg, state) := HsPg.create state info replDev indexTable chunks fresh
  if (state.indexTablePgMap.lookup indexTable.toString).isSome then .crashed state else
  let state := { state with
    indexTablePgMap := state.indexTablePgMap ++ [(indexTable.toString, ⟨info.id, indexTable⟩)]
    indexTables := state.indexTables ++ [indexTable] }
  match addPgToMap state pg with
  | none => .crashed state
  | some state => .replied (.ok ()) state

/-! ## What a commit does -/

/-- The state after a PG is created from `info`: its chunks reserved in `selector`, its
superblock persisted, its index table registered under the table's uuid text, the PG in the map
under its id. -/
def createdState (state : HomeObjectState) (info : PgInfo) (replDev indexTable : Uuid)
    (selector : HeapChunkSelector) (chunks : List ChunkNum) (fresh : Bytes) : HomeObjectState where
  pgMap := state.pgMap.tryEmplace info.id ⟨info, replDev, some indexTable, state.metaBlks.length, .zero⟩
  indexTablePgMap := state.indexTablePgMap ++ [(indexTable.toString, ⟨info.id, indexTable⟩)]
  chunkSelector := selector
  metaBlks := state.metaBlks ++ [createSb info replDev indexTable chunks fresh]
  indexTables := state.indexTables ++ [indexTable]

section Effect

variable (state : HomeObjectState) (blob : Bytes) (replDev indexTable : Uuid) (fresh : Bytes)

/-- What committing `blob` does, by the entry it carries. -/
inductive CommitEffect : CommitOutcome → Prop where
  /-- A blob shorter than a header. -/
  | short (short : blob.length < ReplicationMessageHeader.size) : CommitEffect (.crashed state)
  /-- A corrupted header, or a payload whose CRC is not the header's: `CRC_MISMATCH`. -/
  | crcMismatch (failed : checkCreatePgHeader blob = .error .crcMismatch) :
      CommitEffect (.replied (.error .crcMismatch) state)
  /-- A payload that passes the checks but is not a `PGInfo` record: the exception. -/
  | notRecord {payload : Bytes} {error : DecodeError} (checked : checkCreatePgHeader blob = .ok payload)
      (failed : deserializePgInfo payload = .error error) (thrown : error.aborts = false) :
      CommitEffect (.threw error state)
  /-- A member record without `member_id`, `name` or `priority`: the const `operator[]`'s
  `JSON_ASSERT` fails and the process aborts, nothing changed. -/
  | memberKeyMissing {payload : Bytes} (checked : checkCreatePgHeader blob = .ok payload)
      (failed : deserializePgInfo payload = .error (.json .missingKey)) :
      CommitEffect (.crashed state)
  /-- The PG is there already: success. -/
  | present {payload : Bytes} {info : PgInfo} (checked : checkCreatePgHeader blob = .ok payload)
      (decoded : deserializePgInfo payload = .ok info) (found : (state.pgMap.find info.id).isSome) :
      CommitEffect (.replied (.ok ()) state)
  /-- The entry's chunk size is not the local one: `UNKNOWN`. -/
  | chunkSizeDiffers {payload : Bytes} {info : PgInfo} (checked : checkCreatePgHeader blob = .ok payload)
      (decoded : deserializePgInfo payload = .ok info) (absent : state.pgMap.find info.id = none)
      (differs : info.chunkSize ≠ state.chunkSelector.chunkSize) :
      CommitEffect (.replied (.error .unknown) state)
  /-- No chunks can be reserved: `NO_SPACE_LEFT`. -/
  | noSpace {payload : Bytes} {info : PgInfo} (checked : checkCreatePgHeader blob = .ok payload)
      (decoded : deserializePgInfo payload = .ok info) (absent : state.pgMap.find info.id = none)
      (sameChunkSize : info.chunkSize = state.chunkSelector.chunkSize)
      (refused : state.chunkSelector.selectChunksForPg info.id info.size = none) :
      CommitEffect (.replied (.error .noSpaceLeft) state)
  /-- The index table's uuid is registered already: the `RELEASE_ASSERT` of the handler fires,
  after the chunks were reserved and the superblock written. -/
  | tableTaken {payload : Bytes} {info : PgInfo} {count : Nat} {selector : HeapChunkSelector}
      {chunks : List ChunkNum} (checked : checkCreatePgHeader blob = .ok payload)
      (decoded : deserializePgInfo payload = .ok info) (absent : state.pgMap.find info.id = none)
      (sameChunkSize : info.chunkSize = state.chunkSelector.chunkSize)
      (selected : state.chunkSelector.selectChunksForPg info.id info.size = some (count, selector))
      (reserved : selector.getPgChunks info.id = some chunks)
      (taken : (state.indexTablePgMap.lookup indexTable.toString).isSome) :
      CommitEffect (.crashed { state with
        chunkSelector := selector
        metaBlks := state.metaBlks ++ [createSb info replDev indexTable chunks fresh] })
  /-- The record's replica set is not the committing group: `add_pg_to_map` aborts, after the
  chunks were reserved, the superblock written and the index table registered. -/
  | groupMismatch {payload : Bytes} {info : PgInfo} {count : Nat} {selector : HeapChunkSelector}
      {chunks : List ChunkNum} (checked : checkCreatePgHeader blob = .ok payload)
      (decoded : deserializePgInfo payload = .ok info) (absent : state.pgMap.find info.id = none)
      (sameChunkSize : info.chunkSize = state.chunkSelector.chunkSize)
      (selected : state.chunkSelector.selectChunksForPg info.id info.size = some (count, selector))
      (reserved : selector.getPgChunks info.id = some chunks)
      (free : state.indexTablePgMap.lookup indexTable.toString = none)
      (mismatch : info.replicaSetUuid ≠ replDev) :
      CommitEffect (.crashed { createdState state info replDev indexTable selector chunks fresh with
        pgMap := state.pgMap })
  /-- The PG is created: success. -/
  | created {payload : Bytes} {info : PgInfo} {count : Nat} {selector : HeapChunkSelector}
      {chunks : List ChunkNum} (checked : checkCreatePgHeader blob = .ok payload)
      (decoded : deserializePgInfo payload = .ok info) (absent : state.pgMap.find info.id = none)
      (sameChunkSize : info.chunkSize = state.chunkSelector.chunkSize)
      (selected : state.chunkSelector.selectChunksForPg info.id info.size = some (count, selector))
      (reserved : selector.getPgChunks info.id = some chunks)
      (free : state.indexTablePgMap.lookup indexTable.toString = none)
      (sameGroup : info.replicaSetUuid = replDev) :
      CommitEffect (.replied (.ok ()) (createdState state info replDev indexTable selector chunks fresh))

end Effect

/-- The handler takes one of the paths `CommitEffect` names. -/
theorem commitEffect_onCreatePgMessageCommit (state : HomeObjectState) (blob : Bytes)
    (replDev indexTable : Uuid) (fresh : Bytes) :
    CommitEffect state blob replDev indexTable fresh
      (onCreatePgMessageCommit state blob replDev indexTable fresh) := by
  unfold onCreatePgMessageCommit
  split
  · exact .short ‹_›
  rcases checked : checkCreatePgHeader blob with error | payload
  · have isCrc : error = .crcMismatch := by
      simp only [checkCreatePgHeader] at checked
      split at checked <;> [skip; split at checked] <;> cases checked <;> rfl
    subst isCrc
    exact .crcMismatch checked
  dsimp only
  rcases decoded : deserializePgInfo payload with error | info
  · dsimp only
    split
    · rename_i aborted
      rw [DecodeError.aborts_iff.mp aborted] at decoded
      exact .memberKeyMissing checked decoded
    · exact .notRecord checked decoded (Bool.not_eq_true _ ▸ ‹_›)
  dsimp only
  by_cases found : (state.pgMap.find info.id).isSome
  · rw [if_pos found]
    exact .present checked decoded found
  have absent : state.pgMap.find info.id = none := Option.not_isSome_iff_eq_none.mp found
  rw [if_neg found]
  by_cases differs : info.chunkSize ≠ state.chunkSelector.getChunkSize
  · rw [if_pos differs]
    exact .chunkSizeDiffers checked decoded absent differs
  have sameChunkSize : info.chunkSize = state.chunkSelector.chunkSize := not_not.mp differs
  rw [if_neg differs]
  rcases selected : state.chunkSelector.selectChunksForPg info.id info.size with _ | ⟨count, selector⟩
  · exact .noSpace checked decoded absent sameChunkSize selected
  dsimp only
  obtain ⟨chunks, reserved, -⟩ := HeapChunkSelector.getPgChunks_select_self selected
  simp only [reserved, HsPg.create]
  by_cases taken : (state.indexTablePgMap.lookup indexTable.toString).isSome
  · rw [if_pos taken]
    exact .tableTaken checked decoded absent sameChunkSize selected reserved taken
  have free := Option.not_isSome_iff_eq_none.mp taken
  rw [if_neg taken]
  by_cases sameGroup : info.replicaSetUuid = replDev
  · simp only [addPgToMap, if_pos sameGroup]
    exact .created checked decoded absent sameChunkSize selected reserved free sameGroup
  · simp only [addPgToMap, if_neg sameGroup]
    exact .groupMismatch checked decoded absent sameChunkSize selected reserved free sameGroup

theorem onCreatePgMessageCommit_of_present {state : HomeObjectState} {blob payload : Bytes}
    {info : PgInfo} (long : ReplicationMessageHeader.size ≤ blob.length)
    (checked : checkCreatePgHeader blob = .ok payload)
    (decoded : deserializePgInfo payload = .ok info) (found : (state.pgMap.find info.id).isSome)
    (replDev indexTable : Uuid) (fresh : Bytes) :
    onCreatePgMessageCommit state blob replDev indexTable fresh = .replied (.ok ()) state := by
  simp [onCreatePgMessageCommit, Nat.not_lt.mpr long, checked, decoded, found]

theorem onCreatePgMessageCommit_created {state : HomeObjectState} {blob payload : Bytes}
    {info : PgInfo} {replDev indexTable : Uuid} {count : Nat} {selector : HeapChunkSelector}
    {chunks : List ChunkNum} (long : ReplicationMessageHeader.size ≤ blob.length)
    (checked : checkCreatePgHeader blob = .ok payload)
    (decoded : deserializePgInfo payload = .ok info) (absent : state.pgMap.find info.id = none)
    (sameChunkSize : info.chunkSize = state.chunkSelector.chunkSize)
    (selected : state.chunkSelector.selectChunksForPg info.id info.size = some (count, selector))
    (reserved : selector.getPgChunks info.id = some chunks)
    (free : state.indexTablePgMap.lookup indexTable.toString = none)
    (sameGroup : info.replicaSetUuid = replDev) (fresh : Bytes) :
    onCreatePgMessageCommit state blob replDev indexTable fresh =
      .replied (.ok ()) (createdState state info replDev indexTable selector chunks fresh) := by
  simp [onCreatePgMessageCommit, Nat.not_lt.mpr long, checked, decoded, absent,
    HeapChunkSelector.getChunkSize, sameChunkSize, selected, reserved, HsPg.create, free,
    addPgToMap, sameGroup, createdState]

/-- **The entry `do_create_pg` builds creates the PG** on a replica without it, with the same
chunk size, chunks to reserve and a fresh index table, in the group the record names. -/
theorem onCreatePgMessageCommit_doCreatePg {state : HomeObjectState} {info : PgInfo}
    {blob : Bytes} {replDev indexTable : Uuid} {count : Nat} {selector : HeapChunkSelector}
    {chunks : List ChunkNum}
    (validNames : ∀ member ∈ info.members.toList, Json.validUtf8 member.name = true)
    (built : doCreatePg info = .ok blob) (absent : state.pgMap.find info.id = none)
    (sameChunkSize : info.chunkSize = state.chunkSelector.chunkSize)
    (selected : state.chunkSelector.selectChunksForPg info.id info.size = some (count, selector))
    (reserved : selector.getPgChunks info.id = some chunks)
    (free : state.indexTablePgMap.lookup indexTable.toString = none)
    (sameGroup : info.replicaSetUuid = replDev) (fresh : Bytes) :
    onCreatePgMessageCommit state blob replDev indexTable fresh =
      .replied (.ok ()) (createdState state info replDev indexTable selector chunks fresh) := by
  obtain ⟨payload, serialized, decoded⟩ := deserializePgInfo_serializePgInfo validNames
  obtain ⟨blob', built', long, checked⟩ := doCreatePg_checked serialized
  rw [built] at built'
  cases built'
  exact onCreatePgMessageCommit_created long checked decoded absent sameChunkSize selected
    reserved free sameGroup fresh

/-- The entry `do_create_pg` builds, committed in a group other than the one its record names on a
replica without the PG, with room for it and a fresh index table, aborts in `add_pg_to_map`:
after the chunks are reserved, the superblock written and the index table registered. -/
theorem onCreatePgMessageCommit_doCreatePg_mismatch {state : HomeObjectState} {info : PgInfo}
    {blob : Bytes} {replDev indexTable : Uuid} {count : Nat} {selector : HeapChunkSelector}
    {chunks : List ChunkNum}
    (validNames : ∀ member ∈ info.members.toList, Json.validUtf8 member.name = true)
    (built : doCreatePg info = .ok blob) (absent : state.pgMap.find info.id = none)
    (sameChunkSize : info.chunkSize = state.chunkSelector.chunkSize)
    (selected : state.chunkSelector.selectChunksForPg info.id info.size = some (count, selector))
    (reserved : selector.getPgChunks info.id = some chunks)
    (free : state.indexTablePgMap.lookup indexTable.toString = none)
    (mismatch : info.replicaSetUuid ≠ replDev) (fresh : Bytes) :
    onCreatePgMessageCommit state blob replDev indexTable fresh =
      .crashed { createdState state info replDev indexTable selector chunks fresh with
        pgMap := state.pgMap } := by
  obtain ⟨payload, serialized, decoded⟩ := deserializePgInfo_serializePgInfo validNames
  obtain ⟨blob', built', long, checked⟩ := doCreatePg_checked serialized
  rw [built] at built'
  cases built'
  simp [onCreatePgMessageCommit, Nat.not_lt.mpr long, checked, decoded, absent,
    HeapChunkSelector.getChunkSize, sameChunkSize, selected, reserved, HsPg.create, free,
    addPgToMap, mismatch, createdState]

theorem find_createdState {state : HomeObjectState} {info : PgInfo} {replDev indexTable : Uuid}
    {selector : HeapChunkSelector} {chunks : List ChunkNum} {fresh : Bytes}
    (absent : state.pgMap.find info.id = none) (key : UInt16) :
    (createdState state info replDev indexTable selector chunks fresh).pgMap.find key =
      if key = info.id then some ⟨info, replDev, some indexTable, state.metaBlks.length, .zero⟩
      else state.pgMap.find key :=
  PgMap.find_tryEmplace absent key

/-- **The commit handler's outcome**: on every state and every header blob it takes one of the
paths of `CommitEffect`; and when it replies success, committing the same blob again on the state
it left replies success and changes nothing. -/
theorem onCreatePgMessageCommit_effect (state : HomeObjectState) (blob : Bytes)
    (replDev indexTable : Uuid) (fresh : Bytes) :
    CommitEffect state blob replDev indexTable fresh
        (onCreatePgMessageCommit state blob replDev indexTable fresh) ∧
      ∀ after, onCreatePgMessageCommit state blob replDev indexTable fresh = .replied (.ok ()) after →
        ∀ (replDev' indexTable' : Uuid) (fresh' : Bytes),
          onCreatePgMessageCommit after blob replDev' indexTable' fresh' = .replied (.ok ()) after := by
  refine ⟨commitEffect_onCreatePgMessageCommit state blob replDev indexTable fresh, ?_⟩
  intro after replied replDev' indexTable' fresh'
  have long : ReplicationMessageHeader.size ≤ blob.length := by
    refine Nat.not_lt.mp fun short => ?_
    simp [onCreatePgMessageCommit, short] at replied
  have effect := commitEffect_onCreatePgMessageCommit state blob replDev indexTable fresh
  rw [replied] at effect
  cases effect with
  | present checked decoded found =>
    exact onCreatePgMessageCommit_of_present long checked decoded found _ _ _
  | created checked decoded absent =>
    exact onCreatePgMessageCommit_of_present long checked decoded
      (by rw [find_createdState absent, if_pos rfl]; rfl) _ _ _

/-- A payload that passes both checks but is not JSON: the commit throws instead of replying. -/
theorem onCreatePgMessageCommit_notJson :
    onCreatePgMessageCommit ⟨.empty, [], ⟨1, [], []⟩, [], []⟩
        ((ReplicationMessageHeader.sealed ⟨replicationMagic, 0, 1, crc32Ieee initCrc32 [0x78], 0⟩).toBytes ++
          [0x78]) .nil .nil [] =
      .threw (.json .parseError) ⟨.empty, [], ⟨1, [], []⟩, [], []⟩ := by
  have checked := @checkCreatePgHeader_sealed ⟨replicationMagic, 0, 1,
    crc32Ieee initCrc32 [0x78], 0⟩ [0x78] rfl rfl
  have decoded : deserializePgInfo [0x78] = .error (.json .parseError) := rfl
  simp [onCreatePgMessageCommit, checked, decoded, DecodeError.aborts, ReplicationMessageHeader.size]

end HomeObject
