import HomeObject.PgManager.Recovery
import HomeObject.PgManager.Commit

/-!
Contract: the runs of the PG manager, and what every state they reach keeps.

Owns:
- `HomeObjectState.init` and `Reachable`: from a fresh start, commits of CREATE_PG entries that
  return, and membership changes that replace a member of the group's PG by one that is not in it;
- `Persisted` and `Inv`: every PG agrees with its persisted superblock (ids, size, group, index
  table, counters, slots, chunk list), every meta block belongs to one PG, and the index-table
  map, the index tables and the chunk selector are what the superblocks say;
- the step lemmas `inv_createdState` and `inv_onPgReplaceMember`, the run lemma `Reachable.inv`,
  and from them `reachable_rebuildsPg`: what rebuilding a PG from its superblock gives back;
- what every PG of a reachable state holds: a chunk list no other place holds
  (`reachable_chunksExclusive`), and an index table registered under its id
  (`reachable_indexTableRegistered`).

The counts of a superblock are `uint32_t`; a PG with `2^32` members or more would not fit, and
the agreement of its slots is stated for the PGs below that.
-/

set_option autoImplicit false

namespace HomeObject

open Superblock

/-- A fresh `HSHomeObject`: no PG, no index table; the chunk selector has the chunks `heaps` of
its devices free and no PG's list. -/
def HomeObjectState.init (chunkSize : UInt64) (heaps : List (List ChunkNum)) : HomeObjectState :=
  ⟨.empty, [], ⟨chunkSize, heaps, []⟩, [], []⟩

/-- The states reached from a fresh start by commits of CREATE_PG entries that return (a commit
that throws changes nothing; one that aborts ends the process), and by membership changes that
replace a member of the group's PG by one that is not in it. -/
inductive Reachable : HomeObjectState → Prop where
  | init (chunkSize : UInt64) (heaps : List (List ChunkNum)) (distinct : heaps.flatten.Nodup) :
      Reachable (.init chunkSize heaps)
  | commit {state after : HomeObjectState} (reached : Reachable state) (blob : Bytes)
      (replDev indexTable : Uuid) (fresh : Bytes) (result : Except PGError Unit)
      (replied : onCreatePgMessageCommit state blob replDev indexTable fresh =
        .replied result after) :
      Reachable after
  | replace {state : HomeObjectState} (reached : Reachable state) (groupId : Uuid)
      (memberOut memberIn : ReplicaMemberInfo)
      (change : ∀ key pg, replaceTarget state groupId = some (key, pg) →
        memberOut.id ∈ pg.pgInfo.members.ids ∧ memberIn.id ∉ pg.pgInfo.members.ids) :
      Reachable (onPgReplaceMember state groupId memberOut memberIn)

/-! ## The invariant -/

/-- What the PG `pg` under `key` and its persisted superblock `sb` agree on. -/
structure Persisted (state : HomeObjectState) (key : UInt16) (pg : HsPg) (sb : PgInfoSuperblk) :
    Prop where
  ids : pg.pgInfo.id = key ∧ sb.id = key
  size : sb.pgSize = pg.pgInfo.size
  group : pg.pgInfo.replicaSetUuid = pg.replDev ∧ sb.replicaSetUuid = pg.replDev
  indexTable : pg.indexTable = some sb.indexTableUuid
  counters : pg.durableEntities = sb.durableEntities
  held : (state.chunkSelector.getPgChunks key).isSome
  slots : pg.pgInfo.members.size < 2 ^ 32 → SlotsHold sb pg.pgInfo.members.toList
  chunks : pg.pgInfo.members.size < 2 ^ 32 →
    state.chunkSelector.getPgChunks key = some sb.getChunkIds

theorem Persisted.transfer {state state' : HomeObjectState} {key : UInt16} {pg : HsPg}
    {sb : PgInfoSuperblk} (persisted : Persisted state key pg sb)
    (sameChunks : state'.chunkSelector.getPgChunks key = state.chunkSelector.getPgChunks key) :
    Persisted state' key pg sb :=
  { persisted with
    held := sameChunks ▸ persisted.held
    chunks := fun few => sameChunks.trans (persisted.chunks few) }

/-- The invariant of the runs. -/
structure Inv (state : HomeObjectState) : Prop where
  persisted : ∀ key pg, state.pgMap.find key = some pg →
    ∃ sb, state.metaBlks[pg.pgSb]? = some sb ∧ Persisted state key pg sb
  owned : ∀ index, index < state.metaBlks.length →
    ∃ key pg, state.pgMap.find key = some pg ∧ pg.pgSb = index
  separate : ∀ key other pg pg', state.pgMap.find key = some pg →
    state.pgMap.find other = some pg' → pg.pgSb = pg'.pgSb → key = other
  indexTables : state.indexTables = state.metaBlks.map (·.indexTableUuid)
  indexTablePgMap : state.indexTablePgMap =
    state.metaBlks.map fun sb => (sb.indexTableUuid.toString, ⟨sb.id, sb.indexTableUuid⟩)
  tablesDistinct : (state.metaBlks.map (·.indexTableUuid)).Nodup
  chunksDistinct : state.chunkSelector.Distinct
  keysDistinct : (state.chunkSelector.pgChunks.map Prod.fst).Nodup
  /-- Every chunk list is that of a PG of the map. -/
  listed : ∀ key, (state.chunkSelector.getPgChunks key).isSome → (state.pgMap.find key).isSome

theorem inv_init {chunkSize : UInt64} {heaps : List (List ChunkNum)}
    (distinct : heaps.flatten.Nodup) : Inv (.init chunkSize heaps) where
  persisted := by simp [HomeObjectState.init, PgMap.find, PgMap.empty]
  owned := by simp [HomeObjectState.init]
  separate := by simp [HomeObjectState.init, PgMap.find, PgMap.empty]
  indexTables := rfl
  indexTablePgMap := rfl
  tablesDistinct := List.nodup_nil
  chunksDistinct := by simpa [HeapChunkSelector.Distinct, HomeObjectState.init] using distinct
  keysDistinct := List.nodup_nil
  listed _ held := by cases held

theorem Inv.getPgChunks_none {state : HomeObjectState} (inv : Inv state) {key : UInt16}
    (absent : state.pgMap.find key = none) : state.chunkSelector.getPgChunks key = none :=
  Option.not_isSome_iff_eq_none.mp fun held => by simpa [absent] using inv.listed key held

theorem Inv.pgSb_lt {state : HomeObjectState} (inv : Inv state) {key : UInt16} {pg : HsPg}
    (found : state.pgMap.find key = some pg) : pg.pgSb < state.metaBlks.length := by
  obtain ⟨sb, stored, -⟩ := inv.persisted key pg found
  exact (List.getElem?_eq_some_iff.mp stored).1

theorem Inv.owner {state : HomeObjectState} (inv : Inv state) {metaBlk : Nat}
    {sb : PgInfoSuperblk} (stored : state.metaBlks[metaBlk]? = some sb) :
    ∃ key pg, state.pgMap.find key = some pg ∧ pg.pgSb = metaBlk ∧ Persisted state key pg sb := by
  obtain ⟨key, pg, found, rfl⟩ := inv.owned metaBlk (List.getElem?_eq_some_iff.mp stored).1
  obtain ⟨sb', stored', persisted⟩ := inv.persisted key pg found
  rw [stored] at stored'
  cases stored'
  exact ⟨key, pg, found, rfl, persisted⟩

/-! ## A created PG -/

section Created

variable {state : HomeObjectState} {info : PgInfo} {replDev indexTable : Uuid} {count : Nat}
  {selector : HeapChunkSelector} {chunks : List ChunkNum} {fresh : Bytes}
  (inv : Inv state) (absent : state.pgMap.find info.id = none)
  (selected : state.chunkSelector.selectChunksForPg info.id info.size = some (count, selector))
  (reserved : selector.getPgChunks info.id = some chunks)
  (free : state.indexTablePgMap.lookup indexTable.toString = none)
  (sameGroup : info.replicaSetUuid = replDev)
include inv absent selected reserved free sameGroup

omit absent free in
private theorem persisted_created :
    Persisted (createdState state info replDev indexTable selector chunks fresh) info.id
      ⟨info, replDev, some indexTable, state.metaBlks.length, .zero⟩
      (createSb info replDev indexTable chunks fresh) := by
  have fewChunks := HeapChunkSelector.length_lt_of_nodup
    (HeapChunkSelector.nodup_of_getPgChunks
      (HeapChunkSelector.distinct_of_select inv.chunksDistinct selected) reserved)
  exact
    { ids := ⟨rfl, rfl⟩
      size := rfl
      group := ⟨sameGroup, rfl⟩
      indexTable := rfl
      counters := rfl
      held := by
        show (selector.getPgChunks info.id).isSome
        rw [reserved]
        rfl
      slots := fun few => createSb_slotsHold few fewChunks
      chunks := fun few => by
        show selector.getPgChunks info.id = _
        rw [reserved, createSb_getChunkIds few fewChunks] }

/-- **A created PG keeps the invariant.** -/
theorem inv_createdState : Inv (createdState state info replDev indexTable selector chunks fresh) where
  persisted key pg found := by
    rw [find_createdState absent] at found
    split at found
    · rename_i isNew
      subst isNew
      cases found
      exact ⟨_, by simp [createdState], persisted_created inv selected reserved sameGroup⟩
    · rename_i different
      obtain ⟨sb, stored, persisted⟩ := inv.persisted key pg found
      refine ⟨sb, ?_, persisted.transfer ?_⟩
      · simpa [createdState, List.getElem?_append_left (inv.pgSb_lt found)] using stored
      · rw [show (createdState state info replDev indexTable selector chunks fresh).chunkSelector =
          selector from rfl, HeapChunkSelector.getPgChunks_of_select selected, if_neg different]
  owned index inRange := by
    simp only [createdState, List.length_append, List.length_singleton] at inRange
    rcases Nat.lt_succ_iff_lt_or_eq.mp inRange with old | new
    · obtain ⟨key, pg, found, stored⟩ := inv.owned index old
      have different : key ≠ info.id := by rintro rfl; simp [found] at absent
      exact ⟨key, pg, by rw [find_createdState absent,
        if_neg different, found], stored⟩
    · exact ⟨info.id, _, by rw [find_createdState absent,
        if_pos rfl], new.symm⟩
  separate key other pg pg' found found' samePlace := by
    rw [find_createdState absent] at found found'
    split at found <;> split at found'
    · rename_i isNew isNew'
      rw [isNew, isNew']
    · cases found
      have := inv.pgSb_lt found'
      simp only at samePlace
      omega
    · cases found'
      have := inv.pgSb_lt found
      simp only at samePlace
      omega
    · exact inv.separate key other pg pg' found found' samePlace
  indexTables := by
    simp [createdState, inv.indexTables]
  indexTablePgMap := by
    simp [createdState, inv.indexTablePgMap]
  tablesDistinct := by
    simp only [createdState, List.map_append, List.map_singleton, createSb_indexTableUuid]
    refine List.nodup_append.mpr ⟨inv.tablesDistinct, List.nodup_singleton _, ?_⟩
    intro table old new
    rw [List.mem_singleton] at new
    subst new
    obtain ⟨sb, inBlks, same⟩ := List.mem_map.mp old
    have missing := List.lookup_eq_none_iff.mp (inv.indexTablePgMap ▸ free)
      (sb.indexTableUuid.toString, ⟨sb.id, sb.indexTableUuid⟩)
      (List.mem_map.mpr ⟨sb, inBlks, rfl⟩)
    simp [same] at missing
  chunksDistinct := HeapChunkSelector.distinct_of_select inv.chunksDistinct selected
  keysDistinct := by
    obtain ⟨-, added, -, lists, -⟩ := HeapChunkSelector.selectChunksForPg_some selected
    show (selector.pgChunks.map Prod.fst).Nodup
    rw [lists]
    exact HeapChunkSelector.keysDistinct_cons inv.keysDistinct (inv.getPgChunks_none absent)
  listed key held := by
    rw [find_createdState absent]
    split
    · rfl
    · rename_i different
      rw [show (createdState state info replDev indexTable selector chunks fresh).chunkSelector =
        selector from rfl, HeapChunkSelector.getPgChunks_of_select selected, if_neg different] at held
      exact inv.listed key held

end Created

/-! ## A membership change -/

theorem map_modify {α β : Type} (f : α → α) (g : α → β) (same : ∀ x, g (f x) = g x)
    (index : Nat) (list : List α) : (list.modify f index).map g = list.map g := by
  apply List.ext_getElem?
  intro position
  simp only [List.getElem?_map, List.getElem?_modify]
  cases list[position]? with
  | none => rfl
  | some x => by_cases here : index = position <;> simp [here, same]

theorem length_onPgReplaceMember (state : HomeObjectState) (groupId : Uuid)
    (memberOut memberIn : ReplicaMemberInfo) :
    (onPgReplaceMember state groupId memberOut memberIn).metaBlks.length =
      state.metaBlks.length := by
  unfold onPgReplaceMember
  split <;> simp

/-- **A membership change keeps the invariant**, when it replaces a member of the group's PG by
one that is not in it. -/
theorem inv_onPgReplaceMember {state : HomeObjectState} (inv : Inv state) {groupId : Uuid}
    {memberOut memberIn : ReplicaMemberInfo}
    (change : ∀ key pg, replaceTarget state groupId = some (key, pg) →
      memberOut.id ∈ pg.pgInfo.members.ids ∧ memberIn.id ∉ pg.pgInfo.members.ids) :
    Inv (onPgReplaceMember state groupId memberOut memberIn) := by
  rcases target : replaceTarget state groupId with _ | ⟨key, pg⟩
  · simpa [onPgReplaceMember, target] using inv
  obtain ⟨present, fresh⟩ := change key pg target
  obtain ⟨foundKey, changed, storedKey, unchangedBlks, tableMap, sameSelector, sameTables⟩ :=
    @onPgReplaceMember_found state groupId memberOut memberIn key pg target
  have found := (find_of_replaceTarget target).1
  have sizeKept := size_replaced fresh present
  have blks : (onPgReplaceMember state groupId memberOut memberIn).metaBlks =
      state.metaBlks.modify (·.rewriteMembers
        (replacedMembers pg.pgInfo.members memberOut memberIn).toList) pg.pgSb := by
    simp [onPgReplaceMember, target]
  have keepsIndex : ∀ sb : PgInfoSuperblk, (sb.rewriteMembers
      (replacedMembers pg.pgInfo.members memberOut memberIn).toList).indexTableUuid =
      sb.indexTableUuid := fun _ => rfl
  refine ⟨fun other pg' found' => ?_, fun index inRange => ?_, ?_, ?_, ?_, ?_, ?_, ?_,
    fun other held => ?_⟩
  · by_cases isKey : other = key
    · subst isKey
      rw [foundKey] at found'
      cases found'
      obtain ⟨sb, stored, persisted⟩ := inv.persisted other pg found
      refine ⟨_, by rw [storedKey, stored]; rfl, ?_⟩
      have count (few : pg.pgInfo.members.size < 2 ^ 32) : sb.numMembers.toNat =
          (replacedMembers pg.pgInfo.members memberOut memberIn).toList.length :=
        ((persisted.slots few).agree.numMembers).trans sizeKept.symm
      exact
        { ids := persisted.ids
          size := persisted.size
          group := persisted.group
          indexTable := persisted.indexTable
          counters := persisted.counters
          held := sameSelector ▸ persisted.held
          slots := fun few => slotsHold_rewriteMembers
            (persisted.slots (sizeKept ▸ few)).fits (count (sizeKept ▸ few))
          chunks := fun few => by
            rw [sameSelector, persisted.chunks (sizeKept ▸ few),
              getChunkIds_rewriteMembers (persisted.slots (sizeKept ▸ few)).fits
                (count (sizeKept ▸ few))] }
    · rw [changed other isKey] at found'
      obtain ⟨sb, stored, persisted⟩ := inv.persisted other pg' found'
      have elsewhere : pg'.pgSb ≠ pg.pgSb := fun same => isKey (inv.separate _ _ _ _ found' found same)
      exact ⟨sb, by rw [unchangedBlks _ elsewhere, stored],
        persisted.transfer (by rw [sameSelector])⟩
  · rw [length_onPgReplaceMember] at inRange
    obtain ⟨owner, pg', found', stored⟩ := inv.owned index inRange
    by_cases isKey : owner = key
    · subst isKey
      rw [found] at found'
      cases found'
      exact ⟨owner, _, foundKey, stored⟩
    · exact ⟨owner, pg', by rw [changed owner isKey, found'], stored⟩
  · intro one other pg₁ pg₂ found₁ found₂ samePlace
    have old : ∀ key' pg', (onPgReplaceMember state groupId memberOut memberIn).pgMap.find key' =
        some pg' → ∃ pg'', state.pgMap.find key' = some pg'' ∧ pg''.pgSb = pg'.pgSb := by
      intro key' pg' found'
      by_cases isKey : key' = key
      · subst isKey
        rw [foundKey] at found'
        cases found'
        exact ⟨pg, found, rfl⟩
      · exact ⟨pg', by rw [← changed key' isKey, found'], rfl⟩
    obtain ⟨old₁, oldFound₁, place₁⟩ := old one pg₁ found₁
    obtain ⟨old₂, oldFound₂, place₂⟩ := old other pg₂ found₂
    exact inv.separate one other old₁ old₂ oldFound₁ oldFound₂ (by rw [place₁, place₂, samePlace])
  · rw [sameTables, inv.indexTables, blks, map_modify _ _ keepsIndex]
  · rw [tableMap, inv.indexTablePgMap, blks]
    refine (map_modify _ _ (fun _ => ?_) _ _).symm
    rfl
  · rw [blks, map_modify _ _ keepsIndex]
    exact inv.tablesDistinct
  · rw [sameSelector]
    exact inv.chunksDistinct
  · rw [sameSelector]
    exact inv.keysDistinct
  · rw [sameSelector] at held
    by_cases isKey : other = key
    · rw [isKey, foundKey]
      rfl
    · rw [changed other isKey]
      exact inv.listed other held

/-! ## Whole runs -/

/-- **A commit that replies keeps the invariant**: every reply but the creation's leaves the
state as it was. -/
theorem inv_of_replied {state after : HomeObjectState} (inv : Inv state) {blob : Bytes}
    {replDev indexTable : Uuid} {fresh : Bytes} {result : Except PGError Unit}
    (replied : onCreatePgMessageCommit state blob replDev indexTable fresh =
      .replied result after) : Inv after := by
  have effect := commitEffect_onCreatePgMessageCommit state blob replDev indexTable fresh
  rw [replied] at effect
  cases effect with
  | crcMismatch => exact inv
  | present => exact inv
  | chunkSizeDiffers => exact inv
  | noSpace => exact inv
  | created _ _ absent _ selected reserved free sameGroup =>
    exact inv_createdState inv absent selected reserved free sameGroup

/-- **Every reachable state keeps the invariant.** -/
theorem Reachable.inv {state : HomeObjectState} (reached : Reachable state) : Inv state := by
  induction reached with
  | init _ _ distinct => exact inv_init distinct
  | commit _ _ _ _ _ _ replied inductionHypothesis => exact inv_of_replied inductionHypothesis replied
  | replace _ _ _ _ change inductionHypothesis => exact inv_onPgReplaceMember inductionHypothesis change

theorem Reachable.createPg {state : HomeObjectState} (reached : Reachable state) {info : PgInfo}
    {replDev indexTable : Uuid} {count : Nat} {selector : HeapChunkSelector}
    {chunks : List ChunkNum}
    (validNames : ∀ member ∈ info.members.toList, Json.validUtf8 member.name = true)
    (absent : state.pgMap.find info.id = none)
    (sameChunkSize : info.chunkSize = state.chunkSelector.chunkSize)
    (selected : state.chunkSelector.selectChunksForPg info.id info.size = some (count, selector))
    (reserved : selector.getPgChunks info.id = some chunks)
    (free : state.indexTablePgMap.lookup indexTable.toString = none)
    (sameGroup : info.replicaSetUuid = replDev) (fresh : Bytes) :
    Reachable (createdState state info replDev indexTable selector chunks fresh) := by
  obtain ⟨payload, serialized, -⟩ := deserializePgInfo_serializePgInfo validNames
  obtain ⟨blob, built, -⟩ := doCreatePg_checked serialized
  exact .commit reached blob replDev indexTable fresh _ (onCreatePgMessageCommit_doCreatePg
    validNames built absent sameChunkSize selected reserved free sameGroup fresh)

theorem lookup_map_of_nodup {α β γ : Type} [BEq β] [LawfulBEq β] (key : α → β) (value : α → γ)
    {list : List α} (distinct : (list.map key).Nodup) {a : α} (member : a ∈ list) :
    (list.map fun b => (key b, value b)).lookup (key a) = some (value a) := by
  induction list with
  | nil => cases member
  | cons head rest inductionHypothesis =>
    obtain ⟨outside, distinct⟩ := List.nodup_cons.mp distinct
    rcases List.mem_cons.mp member with rfl | inRest
    · simp
    · have different : key a ≠ key head := fun same =>
        outside (same ▸ List.mem_map_of_mem key inRest)
      simp [List.lookup_cons, beq_false_of_ne different, inductionHypothesis distinct inRest]

theorem nodup_tableTexts {metaBlks : List PgInfoSuperblk}
    (distinct : (metaBlks.map (·.indexTableUuid)).Nodup) :
    (metaBlks.map fun sb => sb.indexTableUuid.toString).Nodup := by
  have texts := distinct.map fun _ _ same => Uuid.toString_injective same
  rwa [List.map_map] at texts

/-! ## What a restart rebuilds -/

/-- **What rebuilding a PG from its superblock gives back**, for every PG of a reachable state
with fewer than `2^32` members: the superblock the PG points at is there, and `HS_PG(sb, rdev)`
has the live id, size, group and durable counters, and member by member in set order the live id
and priority; its chunk size is 0, since no field of the superblock holds it; the chunk list the
superblock hands to `recover_pg_chunks` is the PG's live one. The names are left out: a field
the name fills has no terminator (`reachable_rebuildsPg_longName`). -/
theorem reachable_rebuildsPg {state : HomeObjectState} (reached : Reachable state) {key : UInt16}
    {pg : HsPg} (found : state.pgMap.find key = some pg) (few : pg.pgInfo.members.size < 2 ^ 32) :
    ∃ sb, state.metaBlks[pg.pgSb]? = some sb ∧
      (HsPg.ofSb pg.pgSb sb).pgInfo.id = pg.pgInfo.id ∧
      (HsPg.ofSb pg.pgSb sb).pgInfo.size = pg.pgInfo.size ∧
      (HsPg.ofSb pg.pgSb sb).pgInfo.chunkSize = 0 ∧
      (HsPg.ofSb pg.pgSb sb).pgInfo.replicaSetUuid = pg.pgInfo.replicaSetUuid ∧
      (HsPg.ofSb pg.pgSb sb).replDev = pg.replDev ∧
      List.Forall₂ (fun live rebuilt => live.id = rebuilt.id ∧ live.priority = rebuilt.priority)
        pg.pgInfo.members.toList (HsPg.ofSb pg.pgSb sb).pgInfo.members.toList ∧
      (HsPg.ofSb pg.pgSb sb).durableEntities = pg.durableEntities ∧
      state.chunkSelector.getPgChunks key = some sb.getChunkIds := by
  obtain ⟨sb, stored, persisted⟩ := reached.inv.persisted key pg found
  exact ⟨sb, stored, persisted.ids.2.trans persisted.ids.1.symm, persisted.size, rfl,
    persisted.group.2.trans persisted.group.1.symm, persisted.group.2,
    (pgInfoFromSb_rebuilds (persisted.slots few) pg.pgInfo.members.increasing).imp
      fun _ _ rebuilt => ⟨rebuilt.1, rebuilt.2.1⟩,
    persisted.counters.symm, persisted.chunks few⟩

theorem reachable_onePg :
    Reachable (createdState (.init 1 [[0]]) { PgInfo.ofId 1 with size := 1, chunkSize := 1 } .nil
      .nil ⟨1, [[]], [(1, [0])]⟩ [0] []) := by
  refine @Reachable.createPg _ (.init 1 [[0]] (by decide)) _ _ _ 1 _ _
    (fun _ member => by cases member) ?_ ?_ ?_ ?_ ?_ ?_ [] <;> rfl

theorem onePg_fewMembers (key : UInt16) (pg : HsPg)
    (found : (createdState (.init 1 [[0]]) { PgInfo.ofId 1 with size := 1, chunkSize := 1 } .nil
      .nil ⟨1, [[]], [(1, [0])]⟩ [0] []).pgMap.find key = some pg) :
    pg.pgInfo.members.size < 2 ^ 32 := by
  rw [find_createdState] at found
  · split at found
    · cases found
      decide
    · cases found
  · rfl

theorem reachable_rebuildsPg_onePg :
    let info : PgInfo := { PgInfo.ofId 1 with size := 1, chunkSize := 1 }
    let state := createdState (.init 1 [[0]]) info .nil .nil ⟨1, [[]], [(1, [0])]⟩ [0] []
    let pg : HsPg := ⟨info, .nil, some .nil, 0, .zero⟩
    (Reachable state ∧ state.pgMap.find 1 = some pg ∧ pg.pgInfo.members.size < 2 ^ 32) ∧
      ∃ sb, state.metaBlks[pg.pgSb]? = some sb ∧
        (HsPg.ofSb pg.pgSb sb).pgInfo.id = pg.pgInfo.id ∧
        (HsPg.ofSb pg.pgSb sb).pgInfo.size = pg.pgInfo.size ∧
        (HsPg.ofSb pg.pgSb sb).pgInfo.chunkSize = 0 ∧
        (HsPg.ofSb pg.pgSb sb).pgInfo.replicaSetUuid = pg.pgInfo.replicaSetUuid ∧
        (HsPg.ofSb pg.pgSb sb).replDev = pg.replDev ∧
        List.Forall₂ (fun live rebuilt => live.id = rebuilt.id ∧ live.priority = rebuilt.priority)
          pg.pgInfo.members.toList (HsPg.ofSb pg.pgSb sb).pgInfo.members.toList ∧
        (HsPg.ofSb pg.pgSb sb).durableEntities = pg.durableEntities ∧
        state.chunkSelector.getPgChunks 1 = some sb.getChunkIds :=
  ⟨⟨reachable_onePg, rfl, by decide⟩, reachable_rebuildsPg reachable_onePg rfl (by decide)⟩

def longNameInfo : PgInfo :=
  { PgInfo.ofId 1 with
    members := MemberSet.empty.emplace ⟨Uuid.ofNat 1, List.replicate 32 97, Int32.wrap 1⟩
    size := 1
    chunkSize := 1 }

/-- The PG of `longNameInfo`, created with chunk size 1 on a fresh start, is rebuilt with chunk
size 0, and with its member's name read on past the unterminated field into the priority's first
byte. -/
theorem reachable_rebuildsPg_longName :
    let state := createdState (.init 1 [[0]]) longNameInfo .nil .nil ⟨1, [[]], [(1, [0])]⟩ [0] []
    Reachable state ∧ state.pgMap.find 1 = some ⟨longNameInfo, .nil, some .nil, 0, .zero⟩ ∧
      state.metaBlks.map (fun sb => ((HsPg.ofSb 0 sb).pgInfo.chunkSize,
        (HsPg.ofSb 0 sb).pgInfo.members.toList.map PgMember.name)) =
        [(0, [List.replicate 32 97 ++ [1]])] :=
  ⟨@Reachable.createPg _ (.init 1 [[0]] (by decide)) longNameInfo .nil .nil 1 ⟨1, [[]], [(1, [0])]⟩
    [0] (by decide) rfl rfl rfl rfl rfl rfl [], rfl, by decide⟩

/-! ## What every PG holds -/

/-- **No chunk is in two places**: in a reachable state every PG of the map holds a chunk list
with no chunk twice and none on a device's free list, and two PGs' lists share no chunk. -/
theorem reachable_chunksExclusive {state : HomeObjectState} (reached : Reachable state)
    {key other : UInt16} {pg pg' : HsPg} (found : state.pgMap.find key = some pg)
    (found' : state.pgMap.find other = some pg') :
    ∃ chunks chunks', state.chunkSelector.getPgChunks key = some chunks ∧
      state.chunkSelector.getPgChunks other = some chunks' ∧ chunks.Nodup ∧
      (∀ chunk ∈ chunks, chunk ∉ state.chunkSelector.devHeaps.flatten) ∧
      (key ≠ other → chunks.Disjoint chunks') := by
  have inv := reached.inv
  obtain ⟨_, -, persisted⟩ := inv.persisted key pg found
  obtain ⟨_, -, persisted'⟩ := inv.persisted other pg' found'
  obtain ⟨chunks, held⟩ := Option.isSome_iff_exists.mp persisted.held
  obtain ⟨chunks', held'⟩ := Option.isSome_iff_exists.mp persisted'.held
  refine ⟨chunks, chunks', held, held',
    HeapChunkSelector.nodup_of_getPgChunks inv.chunksDistinct held, fun chunk inChunks free => ?_,
    HeapChunkSelector.disjoint_of_getPgChunks inv.chunksDistinct held held'⟩
  have reserved : chunk ∈ (state.chunkSelector.pgChunks.map Prod.snd).flatten :=
    List.mem_flatten.mpr ⟨chunks,
      List.mem_map.mpr ⟨_, HeapChunkSelector.mem_of_lookup held, rfl⟩, inChunks⟩
  exact List.disjoint_of_nodup_append inv.chunksDistinct free reserved

theorem reachable_chunksExclusive_onePg :
    let state := createdState (.init 1 [[0]]) { PgInfo.ofId 1 with size := 1, chunkSize := 1 } .nil
      .nil ⟨1, [[]], [(1, [0])]⟩ [0] []
    let pg : HsPg := ⟨{ PgInfo.ofId 1 with size := 1, chunkSize := 1 }, .nil, some .nil, 0, .zero⟩
    (Reachable state ∧ state.pgMap.find 1 = some pg) ∧
      ∃ chunks chunks', state.chunkSelector.getPgChunks 1 = some chunks ∧
        state.chunkSelector.getPgChunks 1 = some chunks' ∧ chunks.Nodup ∧
        (∀ chunk ∈ chunks, chunk ∉ state.chunkSelector.devHeaps.flatten) ∧
        ((1 : UInt16) ≠ 1 → chunks.Disjoint chunks') :=
  ⟨⟨reachable_onePg, rfl⟩, reachable_chunksExclusive reachable_onePg rfl rfl⟩

/-- **Every PG's index table is registered under it**: in a reachable state each PG of the map
has an index table, and `index_table_pg_map_` maps that table's uuid to the PG's id and the
table. -/
theorem reachable_indexTableRegistered {state : HomeObjectState} (reached : Reachable state)
    {key : UInt16} {pg : HsPg} (found : state.pgMap.find key = some pg) :
    ∃ table, pg.indexTable = some table ∧
      state.indexTablePgMap.lookup table.toString = some ⟨key, table⟩ := by
  have inv := reached.inv
  obtain ⟨sb, stored, persisted⟩ := inv.persisted key pg found
  refine ⟨sb.indexTableUuid, persisted.indexTable, ?_⟩
  rw [inv.indexTablePgMap, ← persisted.ids.2]
  exact lookup_map_of_nodup (fun sb => sb.indexTableUuid.toString)
    (fun sb => (⟨sb.id, sb.indexTableUuid⟩ : PgIndexTable)) (nodup_tableTexts inv.tablesDistinct)
    (List.mem_iff_getElem?.mpr ⟨_, stored⟩)

theorem reachable_indexTableRegistered_onePg :
    let state := createdState (.init 1 [[0]]) { PgInfo.ofId 1 with size := 1, chunkSize := 1 } .nil
      .nil ⟨1, [[]], [(1, [0])]⟩ [0] []
    let pg : HsPg := ⟨{ PgInfo.ofId 1 with size := 1, chunkSize := 1 }, .nil, some .nil, 0, .zero⟩
    (Reachable state ∧ state.pgMap.find 1 = some pg) ∧
      ∃ table, pg.indexTable = some table ∧
        state.indexTablePgMap.lookup table.toString = some ⟨1, table⟩ :=
  ⟨⟨reachable_onePg, rfl⟩, reachable_indexTableRegistered reachable_onePg rfl⟩

end HomeObject
