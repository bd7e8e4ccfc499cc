import HomeObject.PgManager.Lifecycle

/-!
Contract: the PG manager's two queries, `_get_pg_ids` and `_get_stats`, on every state and on
the states of a replica's life.

Owns:
- `getPgIds` (`_get_pg_ids`) and `getStats` (`_get_stats`, with `statsOf` the stats it fills for
  the PG it finds, `memberProgress` its inner loop, and `HS_PG::total_shards` and
  `HS_PG::open_shards`);
- `PGStats.managed`, the fields of the stats that the PG manager's own state fills, and
  `getStats_restart`: after a restart, the same ids and, whatever the replication devices and
  the shard manager answer before and after, the same such fields for every id.

Modelled as parameters (`StatsSources`), since the sources do not hold them: the replication
device's block size, leader and replication status; a PG's shards, which the shard manager
keeps; the chunk selector's `avail_num_chunks` and `avail_blks`.
-/

set_option autoImplicit false

namespace HomeObject

open Superblock

/-! ## Shards -/

/-- `ShardInfo::State`. -/
inductive ShardState where
  /-- `OPEN`. -/
  | opened
  | sealed
  | deleted
deriving DecidableEq, Repr

/-- `ShardInfo`, with the one field the PG manager reads. -/
structure ShardInfo where
  state : ShardState
deriving DecidableEq, Repr

/-- `Shard::is_open()`, not among the sources: the shard's state is `OPEN`. -/
def ShardInfo.isOpen (shard : ShardInfo) : Bool := shard.state == .opened

/-- `HS_PG::total_shards()`: `shards_.size()`, as a `uint32_t`. -/
def totalShards (shards : List ShardInfo) : UInt32 := UInt32.ofNat shards.length

/-- `HS_PG::open_shards()`: the shards that are open, counted by `std::count_if`, as a
`uint32_t`. -/
def openShards (shards : List ShardInfo) : UInt32 := UInt32.ofNat (shards.countP ShardInfo.isOpen)

/-! ## The queries -/

/-- An entry of `get_replication_status()`: a peer's `id_`, `replication_idx_` and
`last_succ_resp_us_`. -/
structure PeerInfo where
  id : Uuid
  replicationIdx : UInt64
  lastSuccRespUs : UInt64
deriving DecidableEq, Repr

/-- What `_get_stats` reads outside the PG manager's state: of the replication device of a group,
`get_blk_size()`, `get_leader_id()` and `get_replication_status()` (empty on a follower); of the
PG with an id, its `shards_` and the chunk selector's `avail_num_chunks` and `avail_blks`. -/
structure StatsSources where
  blkSize : Uuid → UInt32
  leaderId : Uuid → Uuid
  replicationStatus : Uuid → List PeerInfo
  shards : UInt16 → List ShardInfo
  availNumChunks : UInt16 → UInt32
  availBlks : UInt16 → UInt64

/-- `PGStats`, the fields `_get_stats` fills. -/
structure PGStats where
  id : UInt16
  replicaSetUuid : Uuid
  numMembers : Nat
  totalShards : UInt32
  openShards : UInt32
  leaderId : Uuid
  numActiveObjects : UInt64
  numTombstoneObjects : UInt64
  /-- Per member, in set order: its id, its name, `last_commit_lsn` and `last_succ_resp_us`. -/
  members : List (Uuid × Bytes × UInt64 × UInt64)
  availOpenShards : UInt32
  availBytes : UInt64
  usedBytes : UInt64
deriving DecidableEq, Repr

/-- The inner loop of `_get_stats` for the member `id`: the `replication_idx_` and
`last_succ_resp_us_` of the first entry of the replication status with that id, and `0ul`, `0ul`
when there is none. -/
def memberProgress (id : Uuid) : List PeerInfo → UInt64 × UInt64
  | [] => (0, 0)
  | peer :: rest =>
    if peer.id == id then (peer.replicationIdx, peer.lastSuccRespUs) else memberProgress id rest

/-- The fields `_get_stats` sets before its member loop, read from the PG `pg` it found. -/
def statsHeader (sources : StatsSources) (pg : HsPg) (stats : PGStats) : PGStats :=
  { stats with
    id := pg.pgInfo.id
    replicaSetUuid := pg.pgInfo.replicaSetUuid
    numMembers := pg.pgInfo.members.size
    totalShards := totalShards (sources.shards pg.pgInfo.id)
    openShards := openShards (sources.shards pg.pgInfo.id)
    leaderId := sources.leaderId pg.replDev
    numActiveObjects := pg.durableEntities.activeBlobCount
    numTombstoneObjects := pg.durableEntities.tombstoneBlobCount }

/-- The tuple `_get_stats` emplaces for `member`: its id and name, and the progress the
replication status `status` gives it. -/
def memberRow (status : List PeerInfo) (member : PgMember) : Uuid × Bytes × UInt64 × UInt64 :=
  let progress := memberProgress member.id status
  (member.id, member.name, progress.1, progress.2)

/-- The member loop of `_get_stats`, which `emplace_back`s a tuple per member of `pg` onto the
caller's `stats.members`, and the fields set after it. -/
def statsTail (sources : StatsSources) (pg : HsPg) (stats : PGStats) : PGStats :=
  let blkSize := (sources.blkSize pg.replDev).toUInt64
  { stats with
    members := stats.members ++
      pg.pgInfo.members.toList.map (memberRow (sources.replicationStatus pg.replDev))
    availOpenShards := sources.availNumChunks pg.pgInfo.id
    availBytes := sources.availBlks pg.pgInfo.id * blkSize
    usedBytes := pg.durableEntities.totalOccupiedBlkCount * blkSize }

/-- What `_get_stats` makes of the caller's `stats` for the PG `pg` it found: the fields before
the member loop, then the loop and the fields after it. -/
def statsOf (sources : StatsSources) (pg : HsPg) (stats : PGStats) : PGStats :=
  statsTail sources pg (statsHeader sources pg stats)

/-- `_get_stats(id, stats)`: `false` with `stats` as the caller passed it for an id `_pg_map`
does not hold; otherwise `true` and the stats of the PG, its member tuples appended to the
caller's. -/
def getStats (state : HomeObjectState) (sources : StatsSources) (id : UInt16) (stats : PGStats) :
    Bool × PGStats :=
  match state.pgMap.find id with
  | none => (false, stats)
  | some pg => (true, statsOf sources pg stats)

/-- `_get_pg_ids(pg_ids)`: the ids of `_pg_map`, in its order, pushed back onto `pg_ids`. -/
def getPgIds (state : HomeObjectState) (pgIds : List UInt16) : List UInt16 :=
  state.pgMap.entries.foldl (fun ids entry => ids ++ [entry.1]) pgIds

theorem getPgIds_eq (state : HomeObjectState) (pgIds : List UInt16) :
    getPgIds state pgIds = pgIds ++ state.pgMap.entries.map Prod.fst := by
  unfold getPgIds
  induction state.pgMap.entries generalizing pgIds with
  | nil => simp
  | cons entry rest inductionHypothesis => simp [inductionHypothesis]

/-! ## Across a restart -/

/-- The fields of the stats that the PG manager's own state fills: the id, the group, the member
count, the blob counts and the members' ids in order; the others come from the replication
device, the shard manager or the chunk selector. -/
def PGStats.managed (stats : PGStats) : UInt16 × Uuid × Nat × UInt64 × UInt64 × List Uuid :=
  (stats.id, stats.replicaSetUuid, stats.numMembers, stats.numActiveObjects,
    stats.numTombstoneObjects, stats.members.map Prod.fst)

theorem statsOf_managed_congr (sources sources' : StatsSources) {pg pg' : HsPg}
    (kept : KeptPg pg pg') (sameId : pg'.pgInfo.id = pg.pgInfo.id)
    (sameIds : pg'.pgInfo.members.toList.map PgMember.id =
      pg.pgInfo.members.toList.map PgMember.id) (stats : PGStats) :
    (statsOf sources' pg' stats).managed = (statsOf sources pg stats).managed := by
  have count := congrArg List.length sameIds
  simp only [List.length_map] at count
  simp [PGStats.managed, statsOf, statsTail, statsHeader, memberRow, List.map_map,
    Function.comp_def, MemberSet.size, kept.group, kept.counters, sameId, count, ← sameIds]

/-- **A restart changes none of what the PG manager answers from its own state**: after a
restart in which every group opens, from a state of a replica's life whose PGs have fewer than
`2^32` members each, `_get_pg_ids` lists the same ids, and `_get_stats` gives the same answer and
the same managed fields for every id and every caller's stats, the replication devices and the
shard manager answering `sources` before and `sources'` after. -/
theorem getStats_restart {state after : HomeObjectState} (lived : Lifecycle state)
    (few : ∀ key pg, state.pgMap.find key = some pg → pg.pgInfo.members.size < 2 ^ 32)
    {heaps : List (List ChunkNum)} {opens : Uuid → Bool}
    (allOpen : ∀ sb ∈ state.metaBlks, opens sb.replicaSetUuid = true) {order : List Nat}
    (everyBlk : order.Perm (List.range state.metaBlks.length))
    (restarted : restart state heaps opens order = some after) (sources sources' : StatsSources) :
    getPgIds after [] = getPgIds state [] ∧
      ∀ id stats, (getStats after sources' id stats).1 = (getStats state sources id stats).1 ∧
        (getStats after sources' id stats).2.managed = (getStats state sources id stats).2.managed := by
  have inv := lived.inv
  obtain ⟨replayed, run, rfl⟩ := restart_eq_some restarted
  obtain ⟨replayed', run', recovering⟩ := recoverPgs_bootState inv few heaps opens everyBlk
  rw [run] at run'
  cases run'
  have complete : ∀ metaBlk < state.metaBlks.length, metaBlk ∈ order := fun metaBlk inRange =>
    everyBlk.mem_iff.mpr (List.mem_range.mpr inRange)
  have sameKeys := recovering.isSome_find inv complete allOpen
  refine ⟨by rw [getPgIds_eq, getPgIds_eq, PgMap.keys_eq_of_isSome sameKeys], fun id stats => ?_⟩
  rcases found : state.pgMap.find id with _ | pg
  · have absent : replayed.pgMap.find id = none := by
      simpa [found] using sameKeys id
    simp [getStats, found, absent]
  obtain ⟨sb, -, persisted, recoveredFound, -⟩ := recovering.find_of_live inv complete allOpen found
  have rebuilt := pgInfoFromSb_rebuilds (persisted.slots (few id pg found))
    pg.pgInfo.members.increasing
  simp only [getStats, found, recoveredFound, true_and]
  exact statsOf_managed_congr sources sources' persisted.keptPg
    (persisted.ids.2.trans persisted.ids.1.symm) (ids_eq_of_rebuilds rebuilt) stats

theorem getStats_restart_onePg :
    let state := createdState (.init 1 [[0]]) { PgInfo.ofId 1 with size := 1, chunkSize := 1 } .nil
      .nil ⟨1, [[]], [(1, [0])]⟩ [0] []
    let after := (restart state [[0]] (fun _ => true) [0]).getD state
    let sources : StatsSources :=
      ⟨fun _ => 4096, fun _ => .nil, fun _ => [], fun _ => [⟨.opened⟩], fun _ => 1, fun _ => 8⟩
    let sources' : StatsSources :=
      ⟨fun _ => 512, fun _ => Uuid.ofNat 3, fun _ => [], fun _ => [], fun _ => 0, fun _ => 0⟩
    (Lifecycle state ∧
      (∀ key pg, state.pgMap.find key = some pg → pg.pgInfo.members.size < 2 ^ 32) ∧
      (∀ sb ∈ state.metaBlks, (fun _ => true) sb.replicaSetUuid = true) ∧
      [0].Perm (List.range state.metaBlks.length) ∧
      restart state [[0]] (fun _ => true) [0] = some after) ∧
    getPgIds after [] = getPgIds state [] ∧
      ∀ id stats, (getStats after sources' id stats).1 = (getStats state sources id stats).1 ∧
        (getStats after sources' id stats).2.managed = (getStats state sources id stats).2.managed :=
  ⟨⟨reachable_onePg.lifecycle, onePg_fewMembers, fun _ _ => rfl, List.Perm.refl _, rfl⟩,
    @getStats_restart _ _ reachable_onePg.lifecycle onePg_fewMembers [[0]] (fun _ => true)
      (fun _ _ => rfl) [0] (List.Perm.refl _) rfl _ _⟩

end HomeObject
