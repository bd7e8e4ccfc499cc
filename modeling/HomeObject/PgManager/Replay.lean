import HomeObject.PgManager.Restart

/-!
Contract: what every replay of the PG superblocks at restart keeps, whichever groups open and in
whichever order the meta service finds the superblocks.

Owns:
- `recoverPgs_induction`: a property that finding one superblock keeps holds after the replay;
- `ReplayFrame`: the replay changes neither the meta blocks, nor the index tables, nor the chunk
  size, nor the devices' lists it booted with; `restart_congr`: a restart reads only those of the
  state it starts from;
- `HeldOnce`: the chunk selector's PG lists stay one per PG and disjoint;
- `inv_restart`: a restart in which every group opens keeps the invariant of the runs;
- `SameUpToListOrder` and `restart_orderIndependent`: two restarts that find the superblocks in
  different orders give the same PG map, index-table map and free lists, and the same PG lists
  up to their order in the selector.
-/

set_option autoImplicit false

namespace HomeObject

open Superblock

/-- **The replay's induction**: a property that finding any one of the state's superblocks keeps
holds after the replay. -/
theorem recoverPgs_induction {opens : Uuid → Bool} (keeps : HomeObjectState → Prop)
    (step : ∀ (state after : HomeObjectState) (metaBlk : Nat) (sb : PgInfoSuperblk),
      keeps state → state.metaBlks[metaBlk]? = some sb →
      onPgMetaBlkFound state opens metaBlk sb = some after → keeps after) :
    ∀ (order : List Nat) (state after : HomeObjectState), keeps state →
      recoverPgs opens order state = some after → keeps after
  | [], _, _, kept, run => Option.some.inj run ▸ kept
  | metaBlk :: rest, state, after, kept, run => by
    simp only [recoverPgs] at run
    rcases stored : state.metaBlks[metaBlk]? with _ | sb
    · simp only [stored] at run
      exact recoverPgs_induction keeps step rest state after kept run
    rcases found : onPgMetaBlkFound state opens metaBlk sb with _ | next
    · simp [stored, found] at run
    simp only [stored, found] at run
    exact recoverPgs_induction keeps step rest next after (step state next metaBlk sb kept stored found)
      run

/-! ## What the replay leaves as it booted -/

/-- What finding superblocks leaves as the restart booted it: the meta blocks, the index tables,
the chunk size and the devices' lists. -/
structure ReplayFrame (boot state : HomeObjectState) : Prop where
  metaBlks : state.metaBlks = boot.metaBlks
  indexTables : state.indexTables = boot.indexTables
  chunkSize : state.chunkSelector.chunkSize = boot.chunkSelector.chunkSize
  devHeaps : state.chunkSelector.devHeaps = boot.chunkSelector.devHeaps

theorem replayFrame_onPgMetaBlkFound {boot state after : HomeObjectState} {opens : Uuid → Bool}
    {metaBlk : Nat} {sb : PgInfoSuperblk} (frame : ReplayFrame boot state)
    (found : onPgMetaBlkFound state opens metaBlk sb = some after) : ReplayFrame boot after := by
  rcases onPgMetaBlkFound_some found with rfl | ⟨selector, entry, restored, -, rfl⟩
  · exact frame
  obtain ⟨-, -, rfl⟩ := HeapChunkSelector.recoverPgChunks_some restored
  exact ⟨frame.metaBlks, frame.indexTables, frame.chunkSize, frame.devHeaps⟩

theorem replayFrame_recoverPgs {opens : Uuid → Bool} {order : List Nat}
    {boot after : HomeObjectState} (run : recoverPgs opens order boot = some after) :
    ReplayFrame boot after :=
  recoverPgs_induction (ReplayFrame boot)
    (fun _ _ _ _ frame _ found => replayFrame_onPgMetaBlkFound frame found) order boot after
    ⟨rfl, rfl, rfl, rfl⟩ run

/-- A restart reads of the state only the meta blocks, the index tables and the chunk size. -/
theorem restart_congr {state state' : HomeObjectState} (metaBlks : state'.metaBlks = state.metaBlks)
    (indexTables : state'.indexTables = state.indexTables)
    (chunkSize : state'.chunkSelector.chunkSize = state.chunkSelector.chunkSize)
    (heaps : List (List ChunkNum)) (opens : Uuid → Bool) (order : List Nat) :
    restart state' heaps opens order = restart state heaps opens order := by
  simp only [restart, bootState, metaBlks, indexTables, chunkSize]

/-! ## The PG lists the replay restores -/

/-- Each PG's list under one key, and each chunk in one PG's list at most. -/
structure HeldOnce (selector : HeapChunkSelector) : Prop where
  keys : (selector.pgChunks.map Prod.fst).Nodup
  chunks : (selector.pgChunks.map Prod.snd).flatten.Nodup

/-- **The replay restores the PG lists once each and disjoint**, when every superblock's chunk
list holds each chunk once. -/
theorem heldOnce_recoverPgs {opens : Uuid → Bool} {order : List Nat} {boot after : HomeObjectState}
    (run : recoverPgs opens order boot = some after)
    (distinct : ∀ sb ∈ boot.metaBlks, sb.getChunkIds.Nodup) (held : HeldOnce boot.chunkSelector) :
    HeldOnce after.chunkSelector := by
  refine (recoverPgs_induction (fun state => ReplayFrame boot state ∧ HeldOnce state.chunkSelector)
    (fun state after metaBlk sb ⟨frame, held⟩ stored found => ⟨replayFrame_onPgMetaBlkFound frame
      found, ?_⟩) order boot after ⟨⟨rfl, rfl, rfl, rfl⟩, held⟩ run).2
  rcases onPgMetaBlkFound_some found with rfl | ⟨selector, entry, restored, -, rfl⟩
  · exact held
  have once : sb.getChunkIds.Nodup :=
    distinct sb (frame.metaBlks ▸ List.mem_iff_getElem?.mpr ⟨metaBlk, stored⟩)
  have kept := HeapChunkSelector.heldDistinct_recoverPgChunks held.keys held.chunks once restored
  exact ⟨kept.1, kept.2⟩

theorem Inv.nodup_getChunkIds {state : HomeObjectState} (inv : Inv state)
    (few : ∀ key pg, state.pgMap.find key = some pg → pg.pgInfo.members.size < 2 ^ 32) :
    ∀ sb ∈ state.metaBlks, sb.getChunkIds.Nodup := fun sb member => by
  obtain ⟨metaBlk, stored⟩ := List.mem_iff_getElem?.mp member
  obtain ⟨key, pg, found, -, persisted⟩ := inv.owner stored
  exact HeapChunkSelector.nodup_of_getPgChunks inv.chunksDistinct (persisted.chunks (few key pg found))

theorem Inv.heldOnce_replayed {state replayed : HomeObjectState} (inv : Inv state)
    (few : ∀ key pg, state.pgMap.find key = some pg → pg.pgInfo.members.size < 2 ^ 32)
    {heaps : List (List ChunkNum)} {opens : Uuid → Bool} {order : List Nat}
    (run : recoverPgs opens order (bootState state heaps) = some replayed) :
    HeldOnce replayed.chunkSelector :=
  heldOnce_recoverPgs run (inv.nodup_getChunkIds few) ⟨List.nodup_nil, List.nodup_nil⟩

/-! ## A restart keeps the invariant -/

/-- **A restart in which every group opens keeps the invariant**, from a state keeping it whose
PGs have fewer than `2^32` members each, on devices whose chunks are distinct, in every order in
which the meta service finds the superblocks. -/
theorem inv_restart {state after : HomeObjectState} (inv : Inv state)
    (few : ∀ key pg, state.pgMap.find key = some pg → pg.pgInfo.members.size < 2 ^ 32)
    {heaps : List (List ChunkNum)} (heapsDistinct : heaps.flatten.Nodup) {opens : Uuid → Bool}
    (allOpen : ∀ sb ∈ state.metaBlks, opens sb.replicaSetUuid = true) {order : List Nat}
    (everyBlk : order.Perm (List.range state.metaBlks.length))
    (restarted : restart state heaps opens order = some after) : Inv after := by
  obtain ⟨replayed, run, rfl⟩ := restart_eq_some restarted
  obtain ⟨replayed', run', recovering⟩ := recoverPgs_bootState inv few heaps opens everyBlk
  rw [run] at run'
  cases run'
  have frame := replayFrame_recoverPgs run
  have held := inv.heldOnce_replayed few run
  have loaded : ∀ metaBlk sb, state.metaBlks[metaBlk]? = some sb →
      Loaded state.metaBlks opens order metaBlk sb := fun metaBlk sb stored =>
    ⟨everyBlk.mem_iff.mpr (List.mem_range.mpr (List.getElem?_eq_some_iff.mp stored).1), stored,
      allOpen sb (List.mem_iff_getElem?.mpr ⟨metaBlk, stored⟩)⟩
  have foundLoaded : ∀ metaBlk sb, state.metaBlks[metaBlk]? = some sb →
      replayed.pgMap.find sb.id = some (recoveredPg metaBlk sb) := fun metaBlk sb stored =>
    (recovering.pgMap _ _).mpr ⟨metaBlk, sb, loaded metaBlk sb stored, rfl, rfl⟩
  refine ⟨fun key pg found => ?persisted, fun index inRange => ?owned,
    fun key other pg pg' found found' samePlace => ?separate, ?indexTables, ?indexTablePgMap,
    ?tablesDistinct, ?chunksDistinct, held.keys, fun key held => ?listed⟩
  case persisted =>
    obtain ⟨metaBlk, sb, ⟨-, stored, -⟩, rfl, rfl⟩ := (recovering.pgMap key pg).mp found
    obtain ⟨owner, pg', found', -, persisted⟩ := inv.owner stored
    refine ⟨sb, recovering.sameBlks ▸ stored, ⟨rfl, rfl⟩, rfl, ⟨rfl, rfl⟩, rfl, rfl, ?_,
      fun _ => slotsHold_pgInfoFromSb (persisted.slots (few owner pg' found'))
        pg'.pgInfo.members.increasing, fun _ => recovering.chunks metaBlk sb (loaded metaBlk sb stored)⟩
    show (replayed.chunkSelector.getPgChunks sb.id).isSome
    rw [recovering.chunks metaBlk sb (loaded metaBlk sb stored)]
    rfl
  case owned =>
    have stored := List.getElem?_eq_getElem (recovering.sameBlks ▸ inRange : index < state.metaBlks.length)
    exact ⟨_, _, foundLoaded index _ stored, rfl⟩
  case separate =>
    obtain ⟨metaBlk, sb, ⟨-, stored, -⟩, rfl, rfl⟩ := (recovering.pgMap key pg).mp found
    obtain ⟨metaBlk', sb', ⟨-, stored', -⟩, rfl, rfl⟩ := (recovering.pgMap other pg').mp found'
    obtain rfl : metaBlk = metaBlk' := samePlace
    rw [stored] at stored'
    cases stored'
    rfl
  case indexTables =>
    show replayed.indexTables = replayed.metaBlks.map _
    rw [frame.indexTables, recovering.sameBlks]
    exact inv.indexTables
  case indexTablePgMap =>
    show replayed.indexTablePgMap = replayed.metaBlks.map _
    rw [recovering.indexTablePgMap, recovering.sameBlks]
    refine List.map_congr_left fun sb member => ?_
    obtain ⟨metaBlk, stored⟩ := List.mem_iff_getElem?.mp member
    rw [foundLoaded metaBlk sb stored]
    rfl
  case tablesDistinct =>
    show (replayed.metaBlks.map _).Nodup
    rw [recovering.sameBlks]
    exact inv.tablesDistinct
  case chunksDistinct =>
    exact HeapChunkSelector.distinct_recoverPerDevChunkHeap (frame.devHeaps ▸ heapsDistinct)
      held.chunks
  case listed =>
    obtain ⟨chunks, restored⟩ := Option.isSome_iff_exists.mp held
    obtain ⟨metaBlk, sb, loaded, same⟩ :=
      recovering.held _ (HeapChunkSelector.mem_of_lookup restored)
    obtain ⟨rfl, -⟩ := Prod.mk.inj same
    show (replayed.pgMap.find sb.id).isSome
    rw [(recovering.pgMap _ _).mpr ⟨metaBlk, sb, loaded, rfl, rfl⟩]
    rfl

/-! ## The order the superblocks are found in -/

/-- Two states that differ at most in the order of the chunk selector's PG lists, which the
selector keeps as a map. -/
structure SameUpToListOrder (state state' : HomeObjectState) : Prop where
  pgMap : state.pgMap = state'.pgMap
  indexTablePgMap : state.indexTablePgMap = state'.indexTablePgMap
  chunkSize : state.chunkSelector.chunkSize = state'.chunkSelector.chunkSize
  devHeaps : state.chunkSelector.devHeaps = state'.chunkSelector.devHeaps
  pgChunks : state.chunkSelector.pgChunks.Perm state'.chunkSelector.pgChunks
  metaBlks : state.metaBlks = state'.metaBlks
  indexTables : state.indexTables = state'.indexTables

theorem Recovering.mem_pgChunks {metaBlks : List PgInfoSuperblk} {opens : Uuid → Bool}
    {done : List Nat} {state : HomeObjectState} (recovering : Recovering metaBlks opens done state)
    (entry : UInt16 × List ChunkNum) :
    entry ∈ state.chunkSelector.pgChunks ↔
      ∃ metaBlk sb, Loaded metaBlks opens done metaBlk sb ∧ entry = (sb.id, sb.getChunkIds) :=
  ⟨recovering.held entry, fun ⟨metaBlk, sb, loaded, same⟩ =>
    same ▸ HeapChunkSelector.mem_of_lookup (recovering.chunks metaBlk sb loaded)⟩

/-- **A restart does not depend on the order the meta service finds the superblocks in**: from a
state keeping the invariant whose PGs have fewer than `2^32` members each, two restarts that find
every superblock once, in any two orders, with the same groups opening, both succeed and give the
same PG map, index-table map and free lists, and the same PG lists up to their order. -/
theorem restart_orderIndependent {state : HomeObjectState} (inv : Inv state)
    (few : ∀ key pg, state.pgMap.find key = some pg → pg.pgInfo.members.size < 2 ^ 32)
    (heaps : List (List ChunkNum)) (opens : Uuid → Bool) {order order' : List Nat}
    (everyBlk : order.Perm (List.range state.metaBlks.length))
    (everyBlk' : order'.Perm (List.range state.metaBlks.length)) :
    ∃ recovered recovered', restart state heaps opens order = some recovered ∧
      restart state heaps opens order' = some recovered' ∧
      SameUpToListOrder recovered recovered' := by
  obtain ⟨replayed, run, recovering⟩ := recoverPgs_bootState inv few heaps opens everyBlk
  obtain ⟨replayed', run', recovering'⟩ := recoverPgs_bootState inv few heaps opens everyBlk'
  have sameRecovering : Recovering state.metaBlks opens order replayed' :=
    recovering'.congr fun _ _ => by simp only [Loaded, everyBlk.mem_iff, everyBlk'.mem_iff]
  have frame := replayFrame_recoverPgs run
  have frame' := replayFrame_recoverPgs run'
  have held := inv.heldOnce_replayed few run
  have held' := inv.heldOnce_replayed few run'
  have samePgMap : replayed.pgMap = replayed'.pgMap := PgMap.ext_find fun key =>
    Option.ext fun pg => (recovering.pgMap key pg).trans (sameRecovering.pgMap key pg).symm
  have sameLists : replayed.chunkSelector.pgChunks.Perm replayed'.chunkSelector.pgChunks :=
    (List.perm_ext_iff_of_nodup (held.keys.of_map _) (held'.keys.of_map _)).mpr fun entry =>
      (recovering.mem_pgChunks entry).trans (sameRecovering.mem_pgChunks entry).symm
  refine ⟨{ replayed with chunkSelector := replayed.chunkSelector.recoverPerDevChunkHeap },
    { replayed' with chunkSelector := replayed'.chunkSelector.recoverPerDevChunkHeap },
    by simp [restart, run], by simp [restart, run'],
    ⟨samePgMap, ?_, frame.chunkSize.trans frame'.chunkSize.symm, ?_, sameLists,
      frame.metaBlks.trans frame'.metaBlks.symm, frame.indexTables.trans frame'.indexTables.symm⟩⟩
  · show replayed.indexTablePgMap = replayed'.indexTablePgMap
    rw [recovering.indexTablePgMap, sameRecovering.indexTablePgMap, samePgMap]
  · show replayed.chunkSelector.devHeaps.map _ = replayed'.chunkSelector.devHeaps.map _
    rw [frame.devHeaps, frame'.devHeaps]
    refine List.map_congr_left fun heap _ => List.filter_congr fun chunk _ => ?_
    refine congrArg (!·) (Bool.eq_iff_iff.mpr ?_)
    simp only [List.any_eq_true]
    exact exists_congr fun entry => and_congr_left' sameLists.mem_iff

theorem reachable_twoPgs :
    Reachable (createdState (createdState (.init 1 [[0, 1]])
      { PgInfo.ofId 1 with size := 1, chunkSize := 1 } .nil .nil ⟨1, [[1]], [(1, [0])]⟩ [0] [])
      { PgInfo.ofId 2 with size := 1, chunkSize := 1 } .nil (Uuid.ofNat 1)
      ⟨1, [[]], [(2, [1]), (1, [0])]⟩ [1] []) := by
  have first : Reachable (createdState (.init 1 [[0, 1]])
      { PgInfo.ofId 1 with size := 1, chunkSize := 1 } .nil .nil ⟨1, [[1]], [(1, [0])]⟩ [0] []) := by
    refine @Reachable.createPg _ (.init 1 [[0, 1]] (by decide)) _ _ _ 1 _ _
      (fun _ member => by cases member) ?_ ?_ ?_ ?_ ?_ ?_ [] <;> rfl
  refine @Reachable.createPg _ first _ _ _ 1 _ _
    (fun _ member => by cases member) ?_ ?_ ?_ ?_ ?_ ?_ [] <;> rfl

theorem twoPgs_fewMembers (key : UInt16) (pg : HsPg)
    (found : (createdState (createdState (.init 1 [[0, 1]])
      { PgInfo.ofId 1 with size := 1, chunkSize := 1 } .nil .nil ⟨1, [[1]], [(1, [0])]⟩ [0] [])
      { PgInfo.ofId 2 with size := 1, chunkSize := 1 } .nil (Uuid.ofNat 1)
      ⟨1, [[]], [(2, [1]), (1, [0])]⟩ [1] []).pgMap.find key = some pg) :
    pg.pgInfo.members.size < 2 ^ 32 := by
  rw [find_createdState, find_createdState] at found
  · split at found
    · cases found
      decide
    · split at found
      · cases found
        decide
      · cases found
  all_goals rfl

theorem restart_orderIndependent_twoPgs :
    let state := createdState (createdState (.init 1 [[0, 1]])
      { PgInfo.ofId 1 with size := 1, chunkSize := 1 } .nil .nil ⟨1, [[1]], [(1, [0])]⟩ [0] [])
      { PgInfo.ofId 2 with size := 1, chunkSize := 1 } .nil (Uuid.ofNat 1)
      ⟨1, [[]], [(2, [1]), (1, [0])]⟩ [1] []
    (Inv state ∧ (∀ key pg, state.pgMap.find key = some pg → pg.pgInfo.members.size < 2 ^ 32) ∧
      [0, 1].Perm (List.range state.metaBlks.length) ∧
      [1, 0].Perm (List.range state.metaBlks.length)) ∧
    ∃ recovered recovered', restart state [[0, 1]] (fun _ => true) [0, 1] = some recovered ∧
      restart state [[0, 1]] (fun _ => true) [1, 0] = some recovered' ∧
      SameUpToListOrder recovered recovered' :=
  ⟨⟨reachable_twoPgs.inv, twoPgs_fewMembers, List.Perm.refl _, by decide⟩,
    restart_orderIndependent reachable_twoPgs.inv twoPgs_fewMembers [[0, 1]] (fun _ => true)
      (List.Perm.refl _) (by decide)⟩

end HomeObject
