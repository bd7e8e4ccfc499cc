import HomeObject.PgManager.Runs

/-!
Contract: what a restart recovers from a reachable state.

Owns:
- `Recoverable`: what the superblocks of a reachable state keep for a restart (distinct PG ids,
  distinct index tables, disjoint chunk lists), and `Inv.recoverable`;
- `Recovering`, what the restart has built after finding some of the meta blocks, with its step
  lemma `recovering_onPgMetaBlkFound` and its run lemma `recovering_recoverPgs`;
- `restart_wellFormed`: a restart from a reachable state never aborts, every PG it loads is keyed
  by its id and agrees with its superblock and with `index_table_pg_map_`, and an entry of that
  map has a PG exactly when the group of its superblock opened;
- `restart_recoversPgs`: when every group opens, the restart gives back every PG under its id,
  rebuilt from its superblock, with its live chunk list.

Does not own: the devices' free lists after the restart; they are the chunk selector's.
-/

set_option autoImplicit false

namespace HomeObject

open Superblock

/-- The PG `on_pg_meta_blk_found` builds from the superblock `sb` of meta block `metaBlk`, with
the index table handed back under the superblock's uuid. -/
def recoveredPg (metaBlk : Nat) (sb : PgInfoSuperblk) : HsPg :=
  { HsPg.ofSb metaBlk sb with indexTable := some sb.indexTableUuid }

/-- Meta block `metaBlk`, holding `sb`, is among the ones found (`done`) and its group opened. -/
def Loaded (metaBlks : List PgInfoSuperblk) (opens : Uuid → Bool) (done : List Nat)
    (metaBlk : Nat) (sb : PgInfoSuperblk) : Prop :=
  metaBlk ∈ done ∧ metaBlks[metaBlk]? = some sb ∧ opens sb.replicaSetUuid = true

/-- What the persisted superblocks keep for a restart. -/
structure Recoverable (metaBlks : List PgInfoSuperblk) : Prop where
  ids : ∀ (i j : Nat) (sb sb' : PgInfoSuperblk), metaBlks[i]? = some sb →
    metaBlks[j]? = some sb' → sb.id = sb'.id → i = j
  tables : (metaBlks.map (·.indexTableUuid)).Nodup
  chunks : ∀ (i j : Nat) (sb sb' : PgInfoSuperblk), metaBlks[i]? = some sb →
    metaBlks[j]? = some sb' → i ≠ j →
    sb.getChunkIds.Disjoint sb'.getChunkIds

/-- **The superblocks of a reachable state are recoverable** when its PGs have fewer than `2^32`
members each. -/
theorem Inv.recoverable {state : HomeObjectState} (inv : Inv state)
    (few : ∀ key pg, state.pgMap.find key = some pg → pg.pgInfo.members.size < 2 ^ 32) :
    Recoverable state.metaBlks := by
  refine ⟨fun i j sb sb' stored stored' same => ?_, inv.tablesDistinct,
    fun i j sb sb' stored stored' different => ?_⟩
  · obtain ⟨key, pg, found, rfl, persisted⟩ := inv.owner stored
    obtain ⟨key', pg', found', rfl, persisted'⟩ := inv.owner stored'
    obtain rfl : key = key' := persisted.ids.2.symm.trans (same.trans persisted'.ids.2)
    rw [found] at found'
    cases found'
    rfl
  · obtain ⟨key, pg, found, rfl, persisted⟩ := inv.owner stored
    obtain ⟨key', pg', found', rfl, persisted'⟩ := inv.owner stored'
    refine HeapChunkSelector.disjoint_of_getPgChunks inv.chunksDistinct
      (persisted.chunks (few key pg found)) (persisted'.chunks (few key' pg' found')) ?_
    rintro rfl
    rw [found] at found'
    cases found'
    exact different rfl

theorem Recoverable.eq_of_id {metaBlks : List PgInfoSuperblk} (recoverable : Recoverable metaBlks)
    {sb sb' : PgInfoSuperblk} (member : sb ∈ metaBlks) (member' : sb' ∈ metaBlks)
    (same : sb.id = sb'.id) : sb = sb' := by
  obtain ⟨i, stored⟩ := List.mem_iff_getElem?.mp member
  obtain ⟨j, stored'⟩ := List.mem_iff_getElem?.mp member'
  obtain rfl := recoverable.ids i j sb sb' stored stored' same
  rw [stored] at stored'
  exact Option.some.inj stored'

/-! ## Finding the superblocks one by one -/

section Replay

variable {metaBlks : List PgInfoSuperblk} {opens : Uuid → Bool}

/-- What the restart has built after finding the meta blocks `done`: the PGs of the ones whose
group opened, each keyed by its id; the index-table map with those PGs' ids set; their chunk
lists restored, and no other. -/
structure Recovering (metaBlks : List PgInfoSuperblk) (opens : Uuid → Bool) (done : List Nat)
    (state : HomeObjectState) : Prop where
  sameBlks : state.metaBlks = metaBlks
  pgMap : ∀ key pg, state.pgMap.find key = some pg ↔
    ∃ metaBlk sb, Loaded metaBlks opens done metaBlk sb ∧ sb.id = key ∧ pg = recoveredPg metaBlk sb
  indexTablePgMap : state.indexTablePgMap = metaBlks.map fun sb =>
    (sb.indexTableUuid.toString,
      ⟨if (state.pgMap.find sb.id).isSome then sb.id else 0, sb.indexTableUuid⟩)
  held : ∀ entry ∈ state.chunkSelector.pgChunks,
    ∃ metaBlk sb, Loaded metaBlks opens done metaBlk sb ∧ entry = (sb.id, sb.getChunkIds)
  chunks : ∀ metaBlk sb, Loaded metaBlks opens done metaBlk sb →
    state.chunkSelector.getPgChunks sb.id = some sb.getChunkIds

theorem Recovering.congr {done done' : List Nat} {state : HomeObjectState}
    (recovering : Recovering metaBlks opens done state)
    (same : ∀ metaBlk sb, Loaded metaBlks opens done' metaBlk sb ↔
      Loaded metaBlks opens done metaBlk sb) :
    Recovering metaBlks opens done' state where
  sameBlks := recovering.sameBlks
  pgMap key pg := by simpa only [same] using recovering.pgMap key pg
  indexTablePgMap := recovering.indexTablePgMap
  held entry member := by simpa only [same] using recovering.held entry member
  chunks metaBlk sb loaded := recovering.chunks metaBlk sb ((same metaBlk sb).mp loaded)

theorem recovering_bootState {state : HomeObjectState} (inv : Inv state)
    (heaps : List (List ChunkNum)) : Recovering state.metaBlks opens [] (bootState state heaps) where
  sameBlks := rfl
  pgMap key pg := by simp [bootState, Loaded, PgMap.find, PgMap.empty]
  indexTablePgMap := by
    simp [bootState, recoverIndexTables, inv.indexTables, PgMap.find, PgMap.empty]
  held entry member := by simp [bootState] at member
  chunks _ _ loaded := absurd loaded.1 (List.not_mem_nil _)

section Step

variable (recoverable : Recoverable metaBlks) {done : List Nat} {state : HomeObjectState}
  (recovering : Recovering metaBlks opens done state) {metaBlk : Nat} {sb : PgInfoSuperblk}
  (stored : metaBlks[metaBlk]? = some sb) (fresh : metaBlk ∉ done)
include recoverable recovering stored fresh

omit recovering in
private theorem id_ne_of_loaded {other : Nat} {sb' : PgInfoSuperblk}
    (loaded : Loaded metaBlks opens done other sb') : sb'.id ≠ sb.id := fun same =>
  fresh (recoverable.ids _ _ _ _ stored loaded.2.1 same.symm ▸ loaded.1)

omit recoverable recovering fresh in
private theorem loaded_cons_iff (opened : opens sb.replicaSetUuid = true) (other : Nat)
    (sb' : PgInfoSuperblk) :
    Loaded metaBlks opens (metaBlk :: done) other sb' ↔
      (other = metaBlk ∧ sb' = sb) ∨ Loaded metaBlks opens done other sb' := by
  constructor
  · rintro ⟨inDone, stored', opened'⟩
    rcases List.mem_cons.mp inDone with rfl | inDone
    · rw [stored] at stored'
      exact .inl ⟨rfl, (Option.some.inj stored').symm⟩
    · exact .inr ⟨inDone, stored', opened'⟩
  · rintro (⟨rfl, rfl⟩ | ⟨inDone, stored', opened'⟩)
    · exact ⟨List.mem_cons_self _ _, stored, opened⟩
    · exact ⟨List.mem_cons_of_mem _ inDone, stored', opened'⟩

/-- **Finding one more meta block keeps `Recovering`**, and neither `RELEASE_ASSERT` of
`on_pg_meta_blk_found` fires. -/
theorem recovering_onPgMetaBlkFound :
    ∃ after, onPgMetaBlkFound state opens metaBlk sb = some after ∧
      Recovering metaBlks opens (metaBlk :: done) after := by
  by_cases opened : opens sb.replicaSetUuid = true
  case neg =>
    refine ⟨state, by simp [onPgMetaBlkFound, opened], recovering.congr fun other sb' => ?_⟩
    refine ⟨fun ⟨inDone, stored', opened'⟩ => ⟨?_, stored', opened'⟩,
      fun ⟨inDone, stored', opened'⟩ => ⟨List.mem_cons_of_mem _ inDone, stored', opened'⟩⟩
    rcases List.mem_cons.mp inDone with rfl | inDone
    · rw [stored] at stored'
      cases stored'
      exact absurd opened' opened
    · exact inDone
  have member := List.mem_iff_getElem?.mpr ⟨metaBlk, stored⟩
  have absentChunks : state.chunkSelector.getPgChunks sb.id = none := by
    refine List.lookup_eq_none_iff.mpr fun entry held => ?_
    obtain ⟨other, sb', loaded, rfl⟩ := recovering.held entry held
    simpa using (id_ne_of_loaded recoverable stored fresh loaded).symm
  have unshared : ∀ chunk ∈ sb.getChunkIds, ∀ (pgId : UInt16) (chunks : List ChunkNum),
      (pgId, chunks) ∈ state.chunkSelector.pgChunks → chunk ∉ chunks := by
    intro chunk inChunks pgId chunks held inEntry
    obtain ⟨other, sb', ⟨inDone, stored', -⟩, same⟩ := recovering.held _ held
    obtain ⟨rfl, rfl⟩ := Prod.mk.inj same
    exact recoverable.chunks _ _ _ _ stored stored' (fun same => fresh (same ▸ inDone))
      inChunks inEntry
  have handedBack : state.indexTablePgMap.lookup sb.indexTableUuid.toString =
      some ⟨if (state.pgMap.find sb.id).isSome then sb.id else 0, sb.indexTableUuid⟩ := by
    rw [recovering.indexTablePgMap]
    exact lookup_map_of_nodup (fun sb => sb.indexTableUuid.toString) _
      (nodup_tableTexts recoverable.tables) member
  have absentPg : state.pgMap.find sb.id = none := by
    rcases found : state.pgMap.find sb.id with _ | pg
    · rfl
    · obtain ⟨other, sb', loaded, same, -⟩ := (recovering.pgMap _ _).mp found
      exact absurd same (id_ne_of_loaded recoverable stored fresh loaded)
  have restored : state.chunkSelector.recoverPgChunks sb.id sb.getChunkIds =
      some { state.chunkSelector with
        pgChunks := (sb.id, sb.getChunkIds) :: state.chunkSelector.pgChunks } := by
    simp only [HeapChunkSelector.recoverPgChunks, absentChunks, Option.isSome_none,
      Bool.false_eq_true, if_false]
    simpa using unshared
  have findAfter : ∀ key, (state.pgMap.tryEmplace sb.id (recoveredPg metaBlk sb)).find key =
      if key = sb.id then some (recoveredPg metaBlk sb) else state.pgMap.find key :=
    PgMap.find_tryEmplace absentPg
  have loadedIff := @loaded_cons_iff _ _ done _ _ stored opened
  refine ⟨_, onPgMetaBlkFound_eq opened restored handedBack, ?_⟩
  refine ⟨recovering.sameBlks, fun key pg => ?_, ?_, fun entry held => ?_,
    fun other sb' loaded => ?_⟩
  · show (state.pgMap.tryEmplace sb.id (recoveredPg metaBlk sb)).find key = some pg ↔ _
    simp only [findAfter, loadedIff]
    by_cases isNew : key = sb.id
    · subst isNew
      simp only [if_true, Option.some.injEq]
      constructor
      · rintro rfl
        exact ⟨metaBlk, sb, .inl ⟨rfl, rfl⟩, rfl, rfl⟩
      · rintro ⟨other, sb', (⟨rfl, rfl⟩ | loaded), same, rfl⟩
        · rfl
        · exact absurd same (id_ne_of_loaded recoverable stored fresh loaded)
    · simp only [if_neg isNew, recovering.pgMap]
      constructor
      · rintro ⟨other, sb', loaded, same, rfl⟩
        exact ⟨other, sb', .inr loaded, same, rfl⟩
      · rintro ⟨other, sb', (⟨rfl, rfl⟩ | loaded), same, rfl⟩
        · exact absurd same.symm isNew
        · exact ⟨other, sb', loaded, same, rfl⟩
  · show setIndexTablePgId state.indexTablePgMap sb.indexTableUuid.toString sb.id = _
    rw [setIndexTablePgId, recovering.indexTablePgMap, List.map_map]
    refine List.map_congr_left fun sb' member' => ?_
    show (if _ then _ else _) = (sb'.indexTableUuid.toString, ⟨if ((state.pgMap.tryEmplace sb.id
      (recoveredPg metaBlk sb)).find sb'.id).isSome then sb'.id else 0, sb'.indexTableUuid⟩)
    rw [findAfter]
    by_cases sameTable : sb'.indexTableUuid.toString = sb.indexTableUuid.toString
    · obtain rfl := List.inj_on_of_nodup_map recoverable.tables member' member
        (Uuid.toString_injective sameTable)
      simp
    · have otherId : sb'.id ≠ sb.id := fun same =>
        sameTable (by rw [recoverable.eq_of_id member' member same])
      simp [sameTable, otherId]
  · rcases List.mem_cons.mp held with rfl | held
    · exact ⟨metaBlk, sb, (loadedIff _ _).mpr (.inl ⟨rfl, rfl⟩), rfl⟩
    · obtain ⟨other, sb', loaded, rfl⟩ := recovering.held entry held
      exact ⟨other, sb', (loadedIff _ _).mpr (.inr loaded), rfl⟩
  · show ((sb.id, sb.getChunkIds) :: state.chunkSelector.pgChunks).lookup sb'.id = _
    rcases (loadedIff _ _).mp loaded with ⟨rfl, rfl⟩ | loaded
    · simp
    · have otherId := id_ne_of_loaded recoverable stored fresh loaded
      simp only [List.lookup_cons, beq_false_of_ne otherId]
      exact recovering.chunks other sb' loaded

end Step

/-- **Finding the meta blocks of `order`**, none twice, keeps `Recovering` and never aborts. -/
theorem recovering_recoverPgs (recoverable : Recoverable metaBlks) :
    ∀ (order done : List Nat) (state : HomeObjectState),
      Recovering metaBlks opens done state → (order ++ done).Nodup →
      ∃ after, recoverPgs opens order state = some after ∧
        Recovering metaBlks opens (order ++ done) after
  | [], _, state, recovering, _ => ⟨state, rfl, recovering⟩
  | metaBlk :: rest, done, state, recovering, distinct => by
    have moved : (rest ++ metaBlk :: done).Nodup := List.perm_middle.nodup_iff.mpr distinct
    have sameLoaded : ∀ other sb, Loaded metaBlks opens (metaBlk :: rest ++ done) other sb ↔
        Loaded metaBlks opens (rest ++ metaBlk :: done) other sb := fun other sb => by
      simp only [Loaded, List.perm_middle.mem_iff, List.cons_append]
    have fresh : metaBlk ∉ done := fun inDone =>
      (List.nodup_cons.mp distinct).1 (List.mem_append_right _ inDone)
    simp only [recoverPgs, recovering.sameBlks]
    rcases stored : metaBlks[metaBlk]? with _ | sb
    · have unchanged : Recovering metaBlks opens (metaBlk :: done) state :=
        recovering.congr fun other sb => by
          refine ⟨fun ⟨inDone, stored', opened⟩ => ⟨?_, stored', opened⟩,
            fun ⟨inDone, stored', opened⟩ => ⟨List.mem_cons_of_mem _ inDone, stored', opened⟩⟩
          rcases List.mem_cons.mp inDone with rfl | inDone
          · rw [stored] at stored'
            cases stored'
          · exact inDone
      obtain ⟨after, run, recovered⟩ := recovering_recoverPgs recoverable rest _ state unchanged moved
      exact ⟨after, run, recovered.congr sameLoaded⟩
    · obtain ⟨next, found, stepped⟩ :=
        recovering_onPgMetaBlkFound recoverable recovering stored fresh
      obtain ⟨after, run, recovered⟩ := recovering_recoverPgs recoverable rest _ next stepped moved
      exact ⟨after, by simp only [found, run], recovered.congr sameLoaded⟩

end Replay

/-! ## After a restart -/

/-- The PG map after a restart is well formed, for the groups `opens` opened: every PG is keyed by
its id, and its group, device and index table are its superblock's, whose entry in
`index_table_pg_map_` names it; no two PGs share an index table; and an entry of
`index_table_pg_map_` belongs to a PG exactly when the group of the superblock with that table
opened. -/
structure PgMapWellFormed (opens : Uuid → Bool) (state : HomeObjectState) : Prop where
  agrees : ∀ key pg, state.pgMap.find key = some pg → pg.pgInfo.id = key ∧
    ∃ sb, state.metaBlks[pg.pgSb]? = some sb ∧ pg.pgInfo.replicaSetUuid = sb.replicaSetUuid ∧
      pg.replDev = sb.replicaSetUuid ∧ pg.indexTable = some sb.indexTableUuid ∧
      state.indexTablePgMap.lookup sb.indexTableUuid.toString = some ⟨key, sb.indexTableUuid⟩
  tablesDistinct : ∀ key other pg pg', state.pgMap.find key = some pg →
    state.pgMap.find other = some pg' → pg.indexTable = pg'.indexTable → key = other
  owned : ∀ entry ∈ state.indexTablePgMap,
    (∃ key pg, state.pgMap.find key = some pg ∧ pg.indexTable = some entry.2.indexTable ∧
      entry.2.pgId = key) ↔
    ∃ sb ∈ state.metaBlks, sb.indexTableUuid = entry.2.indexTable ∧ opens sb.replicaSetUuid = true

section Complete

variable {metaBlks : List PgInfoSuperblk} {opens : Uuid → Bool} {done : List Nat}
  {state : HomeObjectState} (recoverable : Recoverable metaBlks)
  (recovering : Recovering metaBlks opens done state)
include recoverable recovering

theorem Recovering.lookup_table {sb : PgInfoSuperblk} (member : sb ∈ metaBlks) :
    state.indexTablePgMap.lookup sb.indexTableUuid.toString =
      some ⟨if (state.pgMap.find sb.id).isSome then sb.id else 0, sb.indexTableUuid⟩ := by
  rw [recovering.indexTablePgMap]
  exact lookup_map_of_nodup (fun sb => sb.indexTableUuid.toString) _
    (nodup_tableTexts recoverable.tables) member

/-- **Once every meta block is found, the PG map is well formed.** -/
theorem Recovering.wellFormed (complete : ∀ metaBlk < metaBlks.length, metaBlk ∈ done) :
    PgMapWellFormed opens state := by
  have loadedPg : ∀ key pg, state.pgMap.find key = some pg → ∃ metaBlk sb,
      Loaded metaBlks opens done metaBlk sb ∧ sb.id = key ∧ pg = recoveredPg metaBlk sb :=
    fun key pg => (recovering.pgMap key pg).mp
  refine ⟨fun key pg found => ?_, fun key other pg pg' found found' sameTable => ?_,
    fun entry member => ?_⟩
  · obtain ⟨metaBlk, sb, ⟨-, stored, -⟩, rfl, rfl⟩ := loadedPg key pg found
    refine ⟨rfl, sb, by rw [recovering.sameBlks]; exact stored, rfl, rfl, rfl, ?_⟩
    rw [recovering.lookup_table recoverable (List.mem_iff_getElem?.mpr ⟨metaBlk, stored⟩), found]
    rfl
  · obtain ⟨metaBlk, sb, ⟨-, stored, -⟩, rfl, rfl⟩ := loadedPg key pg found
    obtain ⟨metaBlk', sb', ⟨-, stored', -⟩, rfl, rfl⟩ := loadedPg other pg' found'
    rw [List.inj_on_of_nodup_map recoverable.tables (List.mem_iff_getElem?.mpr ⟨_, stored⟩)
      (List.mem_iff_getElem?.mpr ⟨_, stored'⟩) (Option.some.inj sameTable)]
  · rw [recovering.indexTablePgMap] at member
    obtain ⟨sb, inBlks, rfl⟩ := List.mem_map.mp member
    rw [recovering.sameBlks]
    constructor
    · rintro ⟨key, pg, found, sameTable, -⟩
      obtain ⟨metaBlk, sb', ⟨-, stored', opened⟩, rfl, rfl⟩ := loadedPg key pg found
      exact ⟨sb', List.mem_iff_getElem?.mpr ⟨_, stored'⟩, Option.some.inj sameTable, opened⟩
    · rintro ⟨sb', inBlks', sameTable, opened⟩
      obtain rfl := List.inj_on_of_nodup_map recoverable.tables inBlks' inBlks sameTable
      obtain ⟨metaBlk, stored⟩ := List.mem_iff_getElem?.mp inBlks'
      have found := (recovering.pgMap sb'.id (recoveredPg metaBlk sb')).mpr
        ⟨metaBlk, sb', ⟨complete _ (List.getElem?_eq_some_iff.mp stored).1, stored, opened⟩,
          rfl, rfl⟩
      exact ⟨sb'.id, _, found, rfl, by simp [found]⟩

end Complete

/-- The replay of a restart from a state keeping the invariant, whose PGs have fewer than `2^32`
members each, finding every superblock once: it never aborts and ends in `Recovering` over all
of them. -/
theorem recoverPgs_bootState {state : HomeObjectState} (inv : Inv state)
    (few : ∀ key pg, state.pgMap.find key = some pg → pg.pgInfo.members.size < 2 ^ 32)
    (heaps : List (List ChunkNum)) (opens : Uuid → Bool) {order : List Nat}
    (everyBlk : order.Perm (List.range state.metaBlks.length)) :
    ∃ after, recoverPgs opens order (bootState state heaps) = some after ∧
      Recovering state.metaBlks opens order after := by
  obtain ⟨after, run, recovering⟩ := recovering_recoverPgs (inv.recoverable few) order []
    _ (recovering_bootState inv heaps)
    (by simpa using everyBlk.nodup_iff.mpr (List.nodup_range _))
  rw [List.append_nil] at recovering
  exact ⟨after, run, recovering⟩

theorem recovering_restart {state : HomeObjectState} (reached : Reachable state)
    (few : ∀ key pg, state.pgMap.find key = some pg → pg.pgInfo.members.size < 2 ^ 32)
    (heaps : List (List ChunkNum)) (opens : Uuid → Bool) {order : List Nat}
    (everyBlk : order.Perm (List.range state.metaBlks.length)) :
    ∃ after, restart state heaps opens order =
        some { after with chunkSelector := after.chunkSelector.recoverPerDevChunkHeap } ∧
      Recovering state.metaBlks opens order after ∧
      ∀ metaBlk < state.metaBlks.length, metaBlk ∈ order := by
  obtain ⟨after, run, recovering⟩ := recoverPgs_bootState reached.inv few heaps opens everyBlk
  exact ⟨after, by simp [restart, run], recovering,
    fun metaBlk inRange => everyBlk.mem_iff.mpr (List.mem_range.mpr inRange)⟩

/-- **A restart from a reachable state never aborts and leaves a well-formed PG map**, for every
order in which the meta service finds the superblocks and every answer of `get_repl_dev`, when
the PGs have fewer than `2^32` members each. -/
theorem restart_wellFormed {state : HomeObjectState} (reached : Reachable state)
    (few : ∀ key pg, state.pgMap.find key = some pg → pg.pgInfo.members.size < 2 ^ 32)
    (heaps : List (List ChunkNum)) (opens : Uuid → Bool) {order : List Nat}
    (everyBlk : order.Perm (List.range state.metaBlks.length)) :
    ∃ recovered, restart state heaps opens order = some recovered ∧
      PgMapWellFormed opens recovered := by
  obtain ⟨after, restarted, recovering, complete⟩ :=
    recovering_restart reached few heaps opens everyBlk
  have wellFormed := recovering.wellFormed (reached.inv.recoverable few) complete
  exact ⟨_, restarted, wellFormed.1, wellFormed.2, wellFormed.3⟩

theorem restart_wellFormed_onePg :
    let state := createdState (.init 1 [[0]]) { PgInfo.ofId 1 with size := 1, chunkSize := 1 } .nil
      .nil ⟨1, [[]], [(1, [0])]⟩ [0] []
    (Reachable state ∧
      (∀ key pg, state.pgMap.find key = some pg → pg.pgInfo.members.size < 2 ^ 32) ∧
      [0].Perm (List.range state.metaBlks.length)) ∧
    ∃ recovered, restart state [[0]] (fun _ => true) [0] = some recovered ∧
      PgMapWellFormed (fun _ => true) recovered :=
  ⟨⟨reachable_onePg, onePg_fewMembers, List.Perm.refl _⟩,
    restart_wellFormed reachable_onePg onePg_fewMembers [[0]] (fun _ => true) (List.Perm.refl _)⟩

/-- When the group of the one PG does not open at restart, its index table stays in
`index_table_pg_map_` and no PG owns it. -/
theorem restart_groupNotOpened :
    let state := createdState (.init 1 [[0]]) { PgInfo.ofId 1 with size := 1, chunkSize := 1 } .nil
      .nil ⟨1, [[]], [(1, [0])]⟩ [0] []
    Reachable state ∧ ∃ recovered, restart state [[0]] (fun _ => false) [0] = some recovered ∧
      recovered.pgMap.entries = [] ∧ recovered.indexTablePgMap.map (·.2) = [⟨0, .nil⟩] :=
  ⟨reachable_onePg, _, rfl, rfl, rfl⟩

theorem Recovering.find_of_live {state replayed : HomeObjectState} (inv : Inv state)
    {opens : Uuid → Bool} {order : List Nat}
    (recovering : Recovering state.metaBlks opens order replayed)
    (complete : ∀ metaBlk < state.metaBlks.length, metaBlk ∈ order)
    (allOpen : ∀ sb ∈ state.metaBlks, opens sb.replicaSetUuid = true) {key : UInt16} {pg : HsPg}
    (found : state.pgMap.find key = some pg) :
    ∃ sb, state.metaBlks[pg.pgSb]? = some sb ∧ Persisted state key pg sb ∧
      replayed.pgMap.find key = some (recoveredPg pg.pgSb sb) ∧
      Loaded state.metaBlks opens order pg.pgSb sb := by
  obtain ⟨sb, stored, persisted⟩ := inv.persisted key pg found
  have loaded : Loaded state.metaBlks opens order pg.pgSb sb :=
    ⟨complete _ (inv.pgSb_lt found), stored, allOpen sb (List.mem_iff_getElem?.mpr ⟨_, stored⟩)⟩
  refine ⟨sb, stored, persisted, ?_, loaded⟩
  rw [← persisted.ids.2]
  exact (recovering.pgMap _ _).mpr ⟨pg.pgSb, sb, loaded, rfl, rfl⟩

theorem Recovering.isSome_find {state replayed : HomeObjectState} (inv : Inv state)
    {opens : Uuid → Bool} {order : List Nat}
    (recovering : Recovering state.metaBlks opens order replayed)
    (complete : ∀ metaBlk < state.metaBlks.length, metaBlk ∈ order)
    (allOpen : ∀ sb ∈ state.metaBlks, opens sb.replicaSetUuid = true) (key : UInt16) :
    (replayed.pgMap.find key).isSome = (state.pgMap.find key).isSome := by
  rcases found : state.pgMap.find key with _ | pg
  · rcases recoveredFound : replayed.pgMap.find key with _ | pg'
    · rfl
    · obtain ⟨metaBlk, sb, ⟨-, stored, -⟩, rfl, -⟩ := (recovering.pgMap _ _).mp recoveredFound
      obtain ⟨owner, pg'', owned, -, persisted⟩ := inv.owner stored
      rw [persisted.ids.2, owned] at found
      cases found
  · obtain ⟨sb, -, -, recoveredFound, -⟩ := recovering.find_of_live inv complete allOpen found
    rw [recoveredFound]
    rfl

/-- A restart in which every group opens, from a state keeping the invariant whose PGs have fewer
than `2^32` members each, recovers the PG map: the same keys, under each the PG its superblock
rebuilds, and the live chunk list. -/
theorem Inv.restart_recovers {state : HomeObjectState} (inv : Inv state)
    (few : ∀ key pg, state.pgMap.find key = some pg → pg.pgInfo.members.size < 2 ^ 32)
    (heaps : List (List ChunkNum)) {opens : Uuid → Bool}
    (allOpen : ∀ sb ∈ state.metaBlks, opens sb.replicaSetUuid = true) {order : List Nat}
    (everyBlk : order.Perm (List.range state.metaBlks.length)) :
    ∃ recovered, restart state heaps opens order = some recovered ∧
      ∀ key, ((recovered.pgMap.find key).isSome = (state.pgMap.find key).isSome) ∧
        ∀ pg, state.pgMap.find key = some pg → ∃ sb, state.metaBlks[pg.pgSb]? = some sb ∧
          Persisted state key pg sb ∧ recovered.pgMap.find key = some (recoveredPg pg.pgSb sb) ∧
          recovered.chunkSelector.getPgChunks key = state.chunkSelector.getPgChunks key := by
  obtain ⟨replayed, run, recovering⟩ := recoverPgs_bootState inv few heaps opens everyBlk
  have complete : ∀ metaBlk < state.metaBlks.length, metaBlk ∈ order := fun metaBlk inRange =>
    everyBlk.mem_iff.mpr (List.mem_range.mpr inRange)
  refine ⟨{ replayed with chunkSelector := replayed.chunkSelector.recoverPerDevChunkHeap },
    by simp [restart, run], fun key => ⟨recovering.isSome_find inv complete allOpen key,
      fun pg found => ?_⟩⟩
  obtain ⟨sb, stored, persisted, recoveredFound, loaded⟩ :=
    recovering.find_of_live inv complete allOpen found
  refine ⟨sb, stored, persisted, recoveredFound, ?_⟩
  show replayed.chunkSelector.getPgChunks key = _
  rw [persisted.chunks (few key pg found), ← persisted.ids.2]
  exact recovering.chunks pg.pgSb sb loaded

/-- **A restart in which every group opens recovers the PG map**: the same keys, under each the
PG its superblock rebuilds, and the live chunk list. -/
theorem restart_recoversPgs {state : HomeObjectState} (reached : Reachable state)
    (few : ∀ key pg, state.pgMap.find key = some pg → pg.pgInfo.members.size < 2 ^ 32)
    (heaps : List (List ChunkNum)) {opens : Uuid → Bool}
    (allOpen : ∀ sb ∈ state.metaBlks, opens sb.replicaSetUuid = true) {order : List Nat}
    (everyBlk : order.Perm (List.range state.metaBlks.length)) :
    ∃ recovered, restart state heaps opens order = some recovered ∧
      ∀ key, ((recovered.pgMap.find key).isSome = (state.pgMap.find key).isSome) ∧
        ∀ pg, state.pgMap.find key = some pg → ∃ sb, state.metaBlks[pg.pgSb]? = some sb ∧
          recovered.pgMap.find key = some (recoveredPg pg.pgSb sb) ∧
          recovered.chunkSelector.getPgChunks key = state.chunkSelector.getPgChunks key := by
  obtain ⟨recovered, restarted, recovers⟩ := reached.inv.restart_recovers few heaps allOpen everyBlk
  refine ⟨recovered, restarted, fun key => ⟨(recovers key).1, fun pg found => ?_⟩⟩
  obtain ⟨sb, stored, -, recoveredFound, chunks⟩ := (recovers key).2 pg found
  exact ⟨sb, stored, recoveredFound, chunks⟩

theorem restart_recoversPgs_onePg :
    let state := createdState (.init 1 [[0]]) { PgInfo.ofId 1 with size := 1, chunkSize := 1 } .nil
      .nil ⟨1, [[]], [(1, [0])]⟩ [0] []
    (Reachable state ∧
      (∀ key pg, state.pgMap.find key = some pg → pg.pgInfo.members.size < 2 ^ 32) ∧
      (∀ sb ∈ state.metaBlks, (fun _ => true) sb.replicaSetUuid = true) ∧
      [0].Perm (List.range state.metaBlks.length)) ∧
    ∃ recovered, restart state [[0]] (fun _ => true) [0] = some recovered ∧
      ∀ key, ((recovered.pgMap.find key).isSome = (state.pgMap.find key).isSome) ∧
        ∀ pg, state.pgMap.find key = some pg → ∃ sb, state.metaBlks[pg.pgSb]? = some sb ∧
          recovered.pgMap.find key = some (recoveredPg pg.pgSb sb) ∧
          recovered.chunkSelector.getPgChunks key = state.chunkSelector.getPgChunks key :=
  ⟨⟨reachable_onePg, onePg_fewMembers, fun _ _ => rfl, List.Perm.refl _⟩,
    restart_recoversPgs reachable_onePg onePg_fewMembers [[0]] (fun _ _ => rfl) (List.Perm.refl _)⟩

end HomeObject
