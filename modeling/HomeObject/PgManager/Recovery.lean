import HomeObject.PgManager.ReplaceMember

/-!
Contract: the restart of the PG manager from what the meta and index services persisted.

Owns:
- `HsPg.ofSb` (the `HS_PG(sb, rdev)` constructor with `pg_info_from_sb`) and `onPgMetaBlkFound`
  (`on_pg_meta_blk_found`, with its two `RELEASE_ASSERT`s and the early return when the
  replication device cannot be opened);
- `recoverIndexTables`, `restart`: the boot state, the index tables handed back, then every PG
  superblock found in the order the meta service finds them, then
  `on_pg_meta_blk_recover_completed`;
- `onPgMetaBlkFound_eq`, what finding one superblock does.

Modelled from the spec: how the index service hands index tables back at restart
(`recover_index_table`, outside the sources) is taken from the spec's recovery order: each
persisted index table enters `index_table_pg_map_` under its uuid's text, its PG not known yet
(`pg_id` 0), before any PG superblock is found.
-/

set_option autoImplicit false

namespace HomeObject

open Superblock

/-- The durable counters a superblock holds. -/
def Superblock.PgInfoSuperblk.durableEntities (sb : PgInfoSuperblk) : DurableEntities :=
  ⟨sb.blobSequenceNum, sb.activeBlobCount, sb.tombstoneBlobCount, sb.totalOccupiedBlkCount⟩

/-- `HS_PG(sb, rdev)` for the superblock `sb` of meta block `metaBlk`, with the device
`get_repl_dev(sb->replica_set_uuid)` opened: `pg_info_from_sb`, the durable counters from the
superblock, and a null index table. -/
def HsPg.ofSb (metaBlk : Nat) (sb : PgInfoSuperblk) : HsPg :=
  ⟨pgInfoFromSb sb, sb.replicaSetUuid, none, metaBlk, sb.durableEntities⟩

/-- `index_table_pg_map_` with the entry of `key`, if there is one, given the PG `pgId`:
`it->second.pg_id = pg_id`. -/
def setIndexTablePgId (entries : List (Bytes × PgIndexTable)) (key : Bytes) (pgId : UInt16) :
    List (Bytes × PgIndexTable) :=
  entries.map fun entry => if entry.1 = key then (entry.1, { entry.2 with pgId }) else entry

/-- `on_pg_meta_blk_found(buf, meta_cookie)` for the superblock `sb` of meta block `metaBlk`;
`opens` answers whether `get_repl_dev` finds a group. `none` where a `RELEASE_ASSERT` fires: the
chunk selector refuses the chunk list, or the index table is not in `index_table_pg_map_`. -/
def onPgMetaBlkFound (state : HomeObjectState) (opens : Uuid → Bool) (metaBlk : Nat)
    (sb : PgInfoSuperblk) : Option HomeObjectState :=
  if !opens sb.replicaSetUuid then some state else
  match state.chunkSelector.recoverPgChunks sb.id sb.getChunkIds with
  | none => none
  | some selector =>
  match state.indexTablePgMap.lookup sb.indexTableUuid.toString with
  | none => none
  | some entry =>
  addPgToMap
    { state with
      chunkSelector := selector
      indexTablePgMap := setIndexTablePgId state.indexTablePgMap sb.indexTableUuid.toString sb.id }
    { HsPg.ofSb metaBlk sb with indexTable := some entry.indexTable }

/-- **Finding a superblock whose group opens**, with its chunk list restored and its index table
handed back: the table's entry gets the PG's id and the PG enters the map, `add_pg_to_map`'s
check passing since the device opened is the superblock's group. -/
theorem onPgMetaBlkFound_eq {state : HomeObjectState} {opens : Uuid → Bool} {metaBlk : Nat}
    {sb : PgInfoSuperblk} {selector : HeapChunkSelector} {entry : PgIndexTable}
    (opened : opens sb.replicaSetUuid = true)
    (restored : state.chunkSelector.recoverPgChunks sb.id sb.getChunkIds = some selector)
    (handedBack : state.indexTablePgMap.lookup sb.indexTableUuid.toString = some entry) :
    onPgMetaBlkFound state opens metaBlk sb = some { state with
      chunkSelector := selector
      indexTablePgMap := setIndexTablePgId state.indexTablePgMap sb.indexTableUuid.toString sb.id
      pgMap := state.pgMap.tryEmplace sb.id
        { HsPg.ofSb metaBlk sb with indexTable := some entry.indexTable } } := by
  simp [onPgMetaBlkFound, opened, restored, handedBack, addPgToMap, HsPg.ofSb, pgInfoFromSb,
    PgInfo.ofId]

/-- **What finding a superblock can do**: nothing, when its group does not open; otherwise restore
its chunk list, give the entry of its index table its id, and put its PG in the map. -/
theorem onPgMetaBlkFound_some {state after : HomeObjectState} {opens : Uuid → Bool} {metaBlk : Nat}
    {sb : PgInfoSuperblk} (found : onPgMetaBlkFound state opens metaBlk sb = some after) :
    after = state ∨ ∃ selector entry,
      state.chunkSelector.recoverPgChunks sb.id sb.getChunkIds = some selector ∧
      state.indexTablePgMap.lookup sb.indexTableUuid.toString = some entry ∧
      after = { state with
        chunkSelector := selector
        indexTablePgMap := setIndexTablePgId state.indexTablePgMap sb.indexTableUuid.toString sb.id
        pgMap := state.pgMap.tryEmplace sb.id
          { HsPg.ofSb metaBlk sb with indexTable := some entry.indexTable } } := by
  by_cases opened : opens sb.replicaSetUuid = true
  case neg =>
    simp only [onPgMetaBlkFound, opened, Bool.not_false, if_true, Option.some.injEq] at found
    exact .inl found.symm
  rcases restored : state.chunkSelector.recoverPgChunks sb.id sb.getChunkIds with _ | selector
  · simp [onPgMetaBlkFound, opened, restored] at found
  rcases handedBack : state.indexTablePgMap.lookup sb.indexTableUuid.toString with _ | entry
  · simp [onPgMetaBlkFound, opened, restored, handedBack] at found
  rw [onPgMetaBlkFound_eq opened restored handedBack] at found
  exact .inr ⟨selector, entry, rfl, rfl, (Option.some.inj found).symm⟩

/-- Modelled from the spec: the entries the index service's recovery puts into
`index_table_pg_map_`, one per persisted index table, its PG not known yet. -/
def recoverIndexTables (tables : List Uuid) : List (Bytes × PgIndexTable) :=
  tables.map fun table => (table.toString, ⟨0, table⟩)

/-- The state a restart boots into: no PG, the index tables handed back, a chunk selector with
the devices' chunks `heaps` free and no PG's list, and what the services persisted. -/
def bootState (state : HomeObjectState) (heaps : List (List ChunkNum)) : HomeObjectState :=
  ⟨.empty, recoverIndexTables state.indexTables, ⟨state.chunkSelector.chunkSize, heaps, []⟩,
    state.metaBlks, state.indexTables⟩

/-- The superblocks found in `order`, each through `on_pg_meta_blk_found`. -/
def recoverPgs (opens : Uuid → Bool) : List Nat → HomeObjectState → Option HomeObjectState
  | [], state => some state
  | metaBlk :: rest, state =>
    match state.metaBlks[metaBlk]? with
    | none => recoverPgs opens rest state
    | some sb =>
      match onPgMetaBlkFound state opens metaBlk sb with
      | none => none
      | some state => recoverPgs opens rest state

/-- A restart: boot, the PG superblocks found in `order`, then
`on_pg_meta_blk_recover_completed` (`recover_per_dev_chunk_heap`). `none` where a
`RELEASE_ASSERT` fires. -/
def restart (state : HomeObjectState) (heaps : List (List ChunkNum)) (opens : Uuid → Bool)
    (order : List Nat) : Option HomeObjectState :=
  (fun recovered => { recovered with
    chunkSelector := recovered.chunkSelector.recoverPerDevChunkHeap }) <$>
    recoverPgs opens order (bootState state heaps)

/-- **What a restart that returns gives**: the replay's state with the free lists finalized. -/
theorem restart_eq_some {state after : HomeObjectState} {heaps : List (List ChunkNum)}
    {opens : Uuid → Bool} {order : List Nat} (restarted : restart state heaps opens order = some after) :
    ∃ replayed, recoverPgs opens order (bootState state heaps) = some replayed ∧
      after = { replayed with chunkSelector := replayed.chunkSelector.recoverPerDevChunkHeap } := by
  simp only [restart, Option.map_eq_map, Option.map_eq_some'] at restarted
  obtain ⟨replayed, run, rfl⟩ := restarted
  exact ⟨replayed, run, rfl⟩

end HomeObject
