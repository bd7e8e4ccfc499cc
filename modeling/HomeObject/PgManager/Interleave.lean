import HomeObject.PgManager.Runs

/-!
Contract: commits of CREATE_PG entries running at once, interleaved at the sections of
`on_create_pg_message_commit` that run under one lock or in one call.

Owns:
- `CommitPc`, `CommitThread` and `commitStep`: one section of the handler for one decoded entry,
  over a chunk selection `select`; `commitSteps_start`: with the selector's
  `select_chunks_for_pg`, the sections run one after the other are the handler;
- `Interleaving`, `InterleaveStep`: any thread runs its next section, and `Interleaving.schedule`:
  the threads at the indices of a list run in turn, a run of the steps (`run_schedule`);
- `Safe`, kept by every step (`safe_interleaveStep`) and so along every run (`safe_of_run`), and
  from it `interleaved_onePgPerId`: given a selection that refuses a pg id holding a list, at
  most one `HS_PG` per pg id, so at most one superblock, one index-table entry and one chunk list
  for it, and every commit that replies success finds the PG in the map with its superblock, the
  one it built if it built one;
- `interleaved_lostPg`: with `select_chunks_for_pg` as §4.1 describes it, two commits of one pg id
  that both pass the existence check each persist a superblock, and the second `try_emplace`
  drops its PG while it replies success.

The sections: the existence check under the shared `_pg_lock`; the chunk-size check with
`select_chunks_for_pg` and `get_pg_chunks`; `create_index_table` with the `HS_PG` constructor,
which writes the superblock; the `index_lock_` section; `add_pg_to_map` under the exclusive
`_pg_lock`. Decoding reads only the entry, so a thread starts at the existence check with its
decoded `PGInfo`. A thread whose `RELEASE_ASSERT` fires stops and the others are let go on, which
only adds runs.

Auxiliary state: each thread records the `HS_PG` it constructed and the position of its entry in
`index_table_pg_map_`; no section reads them.

Modelled from the spec: the chunk selector (see `HomeObject.ChunkSelector`).
-/

set_option autoImplicit false

namespace HomeObject

open Superblock

/-- Where a commit thread is: the section of `on_create_pg_message_commit` it runs next, or how it
ended. -/
inductive CommitPc where
  /-- `_pg_map.find(pg_id)` under the shared `_pg_lock`. -/
  | check
  /-- The PG was absent: the chunk-size check, `select_chunks_for_pg`, `get_pg_chunks`. -/
  | select
  /-- The chunks are reserved: `create_index_table()` and `HS_PG(...)`, which writes the
  superblock. -/
  | construct (chunks : List ChunkNum)
  /-- The `index_lock_` section for the constructed `pg`. -/
  | register (pg : HsPg)
  /-- `add_pg_to_map(pg)`. -/
  | insert (pg : HsPg)
  /-- Returned, the promise set to `result`. -/
  | replied (result : Except PGError Unit)
  /-- A `RELEASE_ASSERT` fired. -/
  | crashed

namespace CommitPc

/-- Between the reservation and the insert. -/
def pending : CommitPc → Bool
  | .construct _ | .register _ | .insert _ => true
  | _ => false

/-- Before the `HS_PG` is constructed. -/
def beforeBuild : CommitPc → Bool
  | .check | .select | .construct _ => true
  | _ => false

/-- Before the index table is registered. -/
def beforeRegister : CommitPc → Bool
  | .check | .select | .construct _ | .register _ => true
  | _ => false

end CommitPc

/-- One execution of the handler, for the decoded record `info` committed in group `replDev`; the
index table `create_index_table` makes has uuid `indexTable`. -/
structure CommitThread where
  info : PgInfo
  replDev : Uuid
  indexTable : Uuid
  fresh : Bytes
  pc : CommitPc
  /-- Auxiliary: the `HS_PG` this execution constructed. -/
  built : Option HsPg
  /-- Auxiliary: where this execution's entry went in `index_table_pg_map_`. -/
  registeredAt : Option Nat

namespace CommitThread

/-- An execution about to run the existence check. -/
def start (info : PgInfo) (replDev indexTable : Uuid) (fresh : Bytes) : CommitThread :=
  ⟨info, replDev, indexTable, fresh, .check, none, none⟩

/-- The execution has reserved chunks for its PG: from the reservation on. -/
def reserved (thread : CommitThread) : Bool := thread.pc.pending || thread.built.isSome

/-- How the execution ended, as the handler's outcome on `state`. -/
def outcome (thread : CommitThread) (state : HomeObjectState) : Option CommitOutcome :=
  match thread.pc with
  | .replied result => some (.replied result state)
  | .crashed => some (.crashed state)
  | _ => none

end CommitThread

/-- The next section of `thread` on `state`, the selector reserving through `select`. -/
def commitStep (select : HeapChunkSelector.ChunkSelection) (thread : CommitThread)
    (state : HomeObjectState) : CommitThread × HomeObjectState :=
  let info := thread.info
  match thread.pc with
  | .check =>
    if (state.pgMap.find info.id).isSome then ({ thread with pc := .replied (.ok ()) }, state)
    else ({ thread with pc := .select }, state)
  | .select =>
    if info.chunkSize ≠ state.chunkSelector.getChunkSize then
      ({ thread with pc := .replied (.error .unknown) }, state) else
    match select state.chunkSelector info.id info.size with
    | none => ({ thread with pc := .replied (.error .noSpaceLeft) }, state)
    | some (_, selector) =>
    let state := { state with chunkSelector := selector }
    match selector.getPgChunks info.id with
    | none => ({ thread with pc := .replied (.error .noSpaceLeft) }, state)
    | some chunks => ({ thread with pc := .construct chunks }, state)
  | .construct chunks =>
    let (pg, state) := HsPg.create state info thread.replDev thread.indexTable chunks thread.fresh
    ({ thread with pc := .register pg, built := some pg }, state)
  | .register pg =>
    if (state.indexTablePgMap.lookup thread.indexTable.toString).isSome then
      ({ thread with pc := .crashed }, state) else
    ({ thread with pc := .insert pg, registeredAt := some state.indexTablePgMap.length },
      { state with
        indexTablePgMap := state.indexTablePgMap ++
          [(thread.indexTable.toString, ⟨info.id, thread.indexTable⟩)]
        indexTables := state.indexTables ++ [thread.indexTable] })
  | .insert pg =>
    match addPgToMap state pg with
    | none => ({ thread with pc := .crashed }, state)
    | some state => ({ thread with pc := .replied (.ok ()) }, state)
  | .replied _ | .crashed => (thread, state)

def commitSteps (select : HeapChunkSelector.ChunkSelection) (fuel : Nat) :
    CommitThread × HomeObjectState → CommitThread × HomeObjectState :=
  (Function.uncurry (commitStep select))^[fuel]

theorem decoded_unique {blob payload payload' : Bytes} {info info' : PgInfo}
    (checked : checkCreatePgHeader blob = .ok payload)
    (decoded : deserializePgInfo payload = .ok info)
    (checked' : checkCreatePgHeader blob = .ok payload')
    (decoded' : deserializePgInfo payload' = .ok info') : info' = info := by
  rw [checked, Except.ok.injEq] at checked'
  rw [← checked', decoded, Except.ok.injEq] at decoded'
  exact decoded'.symm

/-- **The sections run one after the other are the handler**: for a blob that passes the checks
and decodes, five sections end the execution as `on_create_pg_message_commit` does. -/
theorem commitSteps_start {state : HomeObjectState} {blob payload : Bytes} {info : PgInfo}
    (long : ReplicationMessageHeader.size ≤ blob.length)
    (checked : checkCreatePgHeader blob = .ok payload)
    (decoded : deserializePgInfo payload = .ok info) (replDev indexTable : Uuid) (fresh : Bytes) :
    Function.uncurry CommitThread.outcome
        (commitSteps HeapChunkSelector.selectChunksForPg 5 (.start info replDev indexTable fresh, state)) =
      some (onCreatePgMessageCommit state blob replDev indexTable fresh) := by
  have effect := commitEffect_onCreatePgMessageCommit state blob replDev indexTable fresh
  generalize onCreatePgMessageCommit state blob replDev indexTable fresh = outcome at effect ⊢
  cases effect with
  | short short => exact absurd long (Nat.not_le.mpr short)
  | crcMismatch failed => rw [checked] at failed; cases failed
  | notRecord checked' failed | memberKeyMissing checked' failed =>
    rw [checked, Except.ok.injEq] at checked'
    rw [← checked', decoded] at failed
    cases failed
  | present checked' decoded' | chunkSizeDiffers checked' decoded' | noSpace checked' decoded'
  | tableTaken checked' decoded' | groupMismatch checked' decoded' | created checked' decoded' =>
    obtain rfl := decoded_unique checked decoded checked' decoded'
    simp [*, commitSteps, Function.iterate_succ_apply', commitStep, CommitThread.start,
      CommitThread.outcome, HeapChunkSelector.getChunkSize, HsPg.create, addPgToMap, createdState]

/-! ## Interleavings -/

structure Interleaving where
  state : HomeObjectState
  threads : List CommitThread

inductive InterleaveStep (select : HeapChunkSelector.ChunkSelection) :
    Interleaving → Interleaving → Prop where
  | run {system : Interleaving} {index : Nat} {thread : CommitThread}
      (picked : system.threads[index]? = some thread) :
      InterleaveStep select system ⟨(commitStep select thread system.state).2,
        system.threads.set index (commitStep select thread system.state).1⟩

/-- The threads at the indices of `order` run their next sections in turn; an index with no
thread is skipped. -/
def Interleaving.schedule (select : HeapChunkSelector.ChunkSelection) :
    List Nat → Interleaving → Interleaving
  | [], system => system
  | index :: order, system =>
    match system.threads[index]? with
    | none => schedule select order system
    | some thread => schedule select order ⟨(commitStep select thread system.state).2,
        system.threads.set index (commitStep select thread system.state).1⟩

theorem run_schedule (select : HeapChunkSelector.ChunkSelection) (order : List Nat)
    (system : Interleaving) :
    Relation.ReflTransGen (InterleaveStep select) system (system.schedule select order) := by
  induction order generalizing system with
  | nil => exact .refl
  | cons index order inductionHypothesis =>
    rcases picked : system.threads[index]? with _ | thread
    · simpa [Interleaving.schedule, picked] using inductionHypothesis system
    · simpa [Interleaving.schedule, picked] using
        Relation.ReflTransGen.head (.run picked) (inductionHypothesis _)

/-! ## What a section does -/

section Effect

variable (select : HeapChunkSelector.ChunkSelection) (thread : CommitThread)
  (state : HomeObjectState)

/-- What one section does, stated by its cause. -/
inductive SectionEffect : CommitThread × HomeObjectState → Prop where
  /-- The PG is in the map: success. -/
  | found (checking : thread.pc = .check) (found : (state.pgMap.find thread.info.id).isSome) :
      SectionEffect ({ thread with pc := .replied (.ok ()) }, state)
  /-- The PG is not in the map. -/
  | absent (checking : thread.pc = .check) (absent : state.pgMap.find thread.info.id = none) :
      SectionEffect ({ thread with pc := .select }, state)
  /-- `UNKNOWN`: the chunk sizes differ. -/
  | chunkSizeDiffers (selecting : thread.pc = .select)
      (differs : thread.info.chunkSize ≠ state.chunkSelector.chunkSize) :
      SectionEffect ({ thread with pc := .replied (.error .unknown) }, state)
  /-- `NO_SPACE_LEFT`: the selector reserves nothing. -/
  | refused (selecting : thread.pc = .select)
      (sameChunkSize : thread.info.chunkSize = state.chunkSelector.chunkSize)
      (refused : select state.chunkSelector thread.info.id thread.info.size = none) :
      SectionEffect ({ thread with pc := .replied (.error .noSpaceLeft) }, state)
  /-- `NO_SPACE_LEFT`: reserved, but `get_pg_chunks` finds no list. -/
  | unlisted {count : Nat} {selector : HeapChunkSelector} (selecting : thread.pc = .select)
      (sameChunkSize : thread.info.chunkSize = state.chunkSelector.chunkSize)
      (selected : select state.chunkSelector thread.info.id thread.info.size = some (count, selector))
      (unlisted : selector.getPgChunks thread.info.id = none) :
      SectionEffect ({ thread with pc := .replied (.error .noSpaceLeft) },
        { state with chunkSelector := selector })
  /-- The chunks are reserved and listed. -/
  | reserved {count : Nat} {selector : HeapChunkSelector} {chunks : List ChunkNum}
      (selecting : thread.pc = .select)
      (sameChunkSize : thread.info.chunkSize = state.chunkSelector.chunkSize)
      (selected : select state.chunkSelector thread.info.id thread.info.size = some (count, selector))
      (listed : selector.getPgChunks thread.info.id = some chunks) :
      SectionEffect ({ thread with pc := .construct chunks }, { state with chunkSelector := selector })
  /-- The `HS_PG` is constructed and its superblock written. -/
  | constructed {chunks : List ChunkNum} (constructing : thread.pc = .construct chunks) :
      SectionEffect
        ({ thread with
            pc := .register ⟨thread.info, thread.replDev, some thread.indexTable,
              state.metaBlks.length, .zero⟩
            built := some ⟨thread.info, thread.replDev, some thread.indexTable,
              state.metaBlks.length, .zero⟩ },
          { state with metaBlks := state.metaBlks ++
            [createSb thread.info thread.replDev thread.indexTable chunks thread.fresh] })
  /-- The duplicate-table `RELEASE_ASSERT` fires. -/
  | tableTaken {pg : HsPg} (registering : thread.pc = .register pg)
      (taken : (state.indexTablePgMap.lookup thread.indexTable.toString).isSome) :
      SectionEffect ({ thread with pc := .crashed }, state)
  /-- The index table is registered. -/
  | registered {pg : HsPg} (registering : thread.pc = .register pg)
      (free : state.indexTablePgMap.lookup thread.indexTable.toString = none) :
      SectionEffect ({ thread with pc := .insert pg, registeredAt := some state.indexTablePgMap.length },
        { state with
          indexTablePgMap := state.indexTablePgMap ++
            [(thread.indexTable.toString, ⟨thread.info.id, thread.indexTable⟩)]
          indexTables := state.indexTables ++ [thread.indexTable] })
  /-- `add_pg_to_map`'s group `RELEASE_ASSERT` fires. -/
  | groupMismatch {pg : HsPg} (inserting : thread.pc = .insert pg)
      (mismatch : pg.pgInfo.replicaSetUuid ≠ pg.replDev) :
      SectionEffect ({ thread with pc := .crashed }, state)
  /-- `try_emplace` under the PG's id; success. -/
  | inserted {pg : HsPg} (inserting : thread.pc = .insert pg)
      (sameGroup : pg.pgInfo.replicaSetUuid = pg.replDev) :
      SectionEffect ({ thread with pc := .replied (.ok ()) },
        { state with pgMap := state.pgMap.tryEmplace pg.pgInfo.id pg })
  /-- The execution has ended. -/
  | ended (ended : (∃ result, thread.pc = .replied result) ∨ thread.pc = .crashed) :
      SectionEffect (thread, state)

end Effect

theorem sectionEffect_commitStep (select : HeapChunkSelector.ChunkSelection) (thread : CommitThread)
    (state : HomeObjectState) : SectionEffect select thread state (commitStep select thread state) := by
  rcases pc : thread.pc with _ | _ | chunks | pg | pg | result | _ <;>
    simp only [commitStep, pc]
  · by_cases found : (state.pgMap.find thread.info.id).isSome
    · rw [if_pos found]
      exact .found pc found
    · rw [if_neg found]
      exact .absent pc (Option.not_isSome_iff_eq_none.mp found)
  · by_cases differs : thread.info.chunkSize ≠ state.chunkSelector.getChunkSize
    · rw [if_pos differs]
      exact .chunkSizeDiffers pc differs
    rw [if_neg differs]
    have sameChunkSize := not_not.mp differs
    rcases selected : select state.chunkSelector thread.info.id thread.info.size
      with _ | ⟨count, selector⟩
    · exact .refused pc sameChunkSize selected
    dsimp only
    rcases listed : selector.getPgChunks thread.info.id with _ | chunks
    · exact .unlisted pc sameChunkSize selected listed
    · exact .reserved pc sameChunkSize selected listed
  · exact .constructed pc
  · by_cases taken : (state.indexTablePgMap.lookup thread.indexTable.toString).isSome
    · rw [if_pos taken]
      exact .tableTaken pc taken
    · rw [if_neg taken]
      exact .registered pc (Option.not_isSome_iff_eq_none.mp taken)
  · by_cases sameGroup : pg.pgInfo.replicaSetUuid = pg.replDev
    · simp only [addPgToMap, if_pos sameGroup]
      exact .inserted pc sameGroup
    · simp only [addPgToMap, if_neg sameGroup]
      exact .groupMismatch pc sameGroup
  · exact .ended (.inl ⟨result, pc⟩)
  · exact .ended (.inr pc)

/-! ## What every section keeps -/

/-- What a section can do to the shared state: append superblocks and index-table entries, add
PGs to the map and chunk lists to the selector, never take one away. -/
structure Grows (state state' : HomeObjectState) : Prop where
  blks : state.metaBlks <+: state'.metaBlks
  tables : state.indexTablePgMap <+: state'.indexTablePgMap
  pgMap : ∀ key pg, state.pgMap.find key = some pg → state'.pgMap.find key = some pg
  chunks : ∀ key chunks, state.chunkSelector.getPgChunks key = some chunks →
    state'.chunkSelector.getPgChunks key = some chunks

theorem Grows.refl (state : HomeObjectState) : Grows state state :=
  ⟨List.prefix_refl _, List.prefix_refl _, fun _ _ => id, fun _ _ => id⟩

theorem Grows.trans {state state' state'' : HomeObjectState} (first : Grows state state')
    (second : Grows state' state'') : Grows state state'' :=
  ⟨first.blks.trans second.blks, first.tables.trans second.tables,
    fun key pg found => second.pgMap key pg (first.pgMap key pg found),
    fun key chunks held => second.chunks key chunks (first.chunks key chunks held)⟩

theorem Grows.getElem?_blks {state state' : HomeObjectState} (grows : Grows state state')
    {position : Nat} {sb : PgInfoSuperblk} (stored : state.metaBlks[position]? = some sb) :
    state'.metaBlks[position]? = some sb := by
  obtain ⟨more, extended⟩ := grows.blks
  rw [← extended, List.getElem?_append_left (List.getElem?_eq_some_iff.mp stored).1, stored]

/-- **Every section only grows the shared state**, under a selection that refuses a held pg id. -/
theorem SectionEffect.grows {select : HeapChunkSelector.ChunkSelection}
    (reserves : HeapChunkSelector.Reserves select) (refuses : HeapChunkSelector.RefusesHeld select)
    {thread : CommitThread} {state : HomeObjectState} {after : CommitThread × HomeObjectState}
    (effect : SectionEffect select thread state after) : Grows state after.2 := by
  cases effect with
  | unlisted _ _ selected | reserved _ _ selected =>
    exact ⟨List.prefix_refl _, List.prefix_refl _, fun _ _ => id,
      fun _ _ held => HeapChunkSelector.getPgChunks_of_reserves reserves refuses selected held⟩
  | constructed => exact ⟨List.prefix_append _ _, List.prefix_refl _, fun _ _ => id, fun _ _ => id⟩
  | registered => exact ⟨List.prefix_refl _, List.prefix_append _ _, fun _ _ => id, fun _ _ => id⟩
  | inserted =>
    exact ⟨List.prefix_refl _, List.prefix_refl _,
      fun _ _ found => PgMap.find_tryEmplace_of_some found, fun _ _ => id⟩
  | _ => exact Grows.refl state

/-! ## The invariant of the interleavings -/

/-- What one execution keeps about the shared state. -/
structure ThreadSafe (state : HomeObjectState) (thread : CommitThread) : Prop where
  /-- From the reservation on, the PG's chunk list is there. -/
  held : thread.reserved → (state.chunkSelector.getPgChunks thread.info.id).isSome
  /-- The constructed `HS_PG` carries the record, and its superblock is written. -/
  built : ∀ pg, thread.built = some pg → pg.pgInfo = thread.info ∧
    ∃ sb, state.metaBlks[pg.pgSb]? = some sb ∧ sb.id = thread.info.id
  working : ∀ pg, thread.pc = .register pg ∨ thread.pc = .insert pg → thread.built = some pg
  unbuilt : thread.pc.beforeBuild → thread.built = none
  unregistered : thread.pc.beforeRegister → thread.registeredAt = none
  /-- From the reservation to the insert, the map has no PG under the id. -/
  absent : thread.pc.pending → state.pgMap.find thread.info.id = none
  /-- An execution that built its PG and replied success finds that PG in the map. -/
  inserted : ∀ pg, thread.built = some pg → thread.pc = .replied (.ok ()) →
    state.pgMap.find thread.info.id = some pg
  replied : thread.pc = .replied (.ok ()) → (state.pgMap.find thread.info.id).isSome

theorem threadSafe_of_start {state : HomeObjectState} {thread : CommitThread}
    (started : thread.pc = .check ∧ thread.built = none ∧ thread.registeredAt = none) :
    ThreadSafe state thread := by
  obtain ⟨checking, unbuilt, unregistered⟩ := started
  refine ⟨?_, ?_, ?_, fun _ => unbuilt, fun _ => unregistered, ?_, ?_, ?_⟩ <;>
    simp [CommitThread.reserved, checking, unbuilt, CommitPc.pending]

theorem ThreadSafe.grow {state state' : HomeObjectState} {thread : CommitThread}
    (safe : ThreadSafe state thread) (grows : Grows state state')
    (stillAbsent : thread.pc.pending → state'.pgMap.find thread.info.id = none) :
    ThreadSafe state' thread where
  held reserved := by
    obtain ⟨chunks, held⟩ := Option.isSome_iff_exists.mp (safe.held reserved)
    rw [grows.chunks _ _ held]
    rfl
  built pg built := by
    obtain ⟨same, sb, stored, named⟩ := safe.built pg built
    exact ⟨same, sb, grows.getElem?_blks stored, named⟩
  working := safe.working
  unbuilt := safe.unbuilt
  unregistered := safe.unregistered
  absent := stillAbsent
  inserted pg built replied := grows.pgMap _ _ (safe.inserted pg built replied)
  replied replied := by
    obtain ⟨pg, found⟩ := Option.isSome_iff_exists.mp (safe.replied replied)
    rw [grows.pgMap _ _ found]
    rfl

theorem getElem?_concat_cases {α : Type} {list : List α} {last value : α} {position : Nat}
    (stored : (list ++ [last])[position]? = some value) :
    list[position]? = some value ∨ (position = list.length ∧ value = last) := by
  rcases Nat.lt_trichotomy position list.length with before | atEnd | beyond
  · exact .inl (by rwa [List.getElem?_append_left before] at stored)
  · subst atEnd
    simp only [List.getElem?_append_right (Nat.le_refl _), Nat.sub_self, List.getElem?_cons_zero,
      Option.some.injEq] at stored
    exact .inr ⟨rfl, stored.symm⟩
  · rw [List.getElem?_eq_none (by simp only [List.length_append, List.length_singleton]; omega)]
      at stored
    cases stored

section Step

variable {select : HeapChunkSelector.ChunkSelection} {thread : CommitThread}
  {state : HomeObjectState} {after : CommitThread × HomeObjectState}
  (effect : SectionEffect select thread state after)
include effect

theorem SectionEffect.info : after.1.info = thread.info := by
  cases effect <;> rfl

variable (safe : ThreadSafe state thread)
include safe

theorem SectionEffect.built_of_some {pg : HsPg} (built : thread.built = some pg) :
    after.1.built = some pg := by
  cases effect with
  | constructed constructing =>
    rw [safe.unbuilt (by simp [constructing, CommitPc.beforeBuild])] at built
    cases built
  | _ => exact built

theorem SectionEffect.registeredAt_of_some {position : Nat}
    (registered : thread.registeredAt = some position) : after.1.registeredAt = some position := by
  cases effect with
  | registered registering =>
    rw [safe.unregistered (by simp [registering, CommitPc.beforeRegister])] at registered
    cases registered
  | _ => exact registered

theorem SectionEffect.reserved_cases (refuses : HeapChunkSelector.RefusesHeld select) :
    (thread.reserved → after.1.reserved) ∧
      (after.1.reserved → thread.reserved ∨
        state.chunkSelector.getPgChunks thread.info.id = none) := by
  cases effect with
  | reserved _ _ selected =>
    exact ⟨fun _ => rfl, fun _ => .inr (HeapChunkSelector.getPgChunks_none_of_reserves refuses selected)⟩
  | constructed constructing =>
    exact ⟨fun _ => rfl, fun _ => .inl (by simp [CommitThread.reserved, constructing,
      CommitPc.pending])⟩
  | registered registering =>
    exact ⟨fun _ => by simp [CommitThread.reserved, CommitPc.pending],
      fun _ => .inl (by simp [CommitThread.reserved, registering, CommitPc.pending])⟩
  | tableTaken registering =>
    have built := safe.working _ (.inl registering)
    exact ⟨fun _ => by simp [CommitThread.reserved, built],
      fun _ => .inl (by simp [CommitThread.reserved, registering, CommitPc.pending])⟩
  | groupMismatch inserting | inserted inserting =>
    have built := safe.working _ (.inr inserting)
    exact ⟨fun _ => by simp [CommitThread.reserved, built],
      fun _ => .inl (by simp [CommitThread.reserved, inserting, CommitPc.pending])⟩
  | found checking | absent checking =>
    have unbuilt := safe.unbuilt (by simp [checking, CommitPc.beforeBuild])
    exact ⟨fun reserved => by
        simp [CommitThread.reserved, unbuilt, checking, CommitPc.pending] at reserved,
      fun reserved => by simp [CommitThread.reserved, unbuilt, CommitPc.pending] at reserved⟩
  | chunkSizeDiffers selecting | refused selecting | unlisted selecting =>
    have unbuilt := safe.unbuilt (by simp [selecting, CommitPc.beforeBuild])
    exact ⟨fun reserved => by
        simp [CommitThread.reserved, unbuilt, selecting, CommitPc.pending] at reserved,
      fun reserved => by simp [CommitThread.reserved, unbuilt, CommitPc.pending] at reserved⟩
  | ended => exact ⟨id, .inl⟩

/-- **The stepping thread keeps what it knows**, given that a PG in the map has a chunk list. -/
theorem SectionEffect.threadSafe (refuses : HeapChunkSelector.RefusesHeld select)
    (mapHeld : ∀ key, (state.pgMap.find key).isSome →
      (state.chunkSelector.getPgChunks key).isSome) :
    ThreadSafe after.2 after.1 := by
  cases effect with
  | found checking found =>
    have unbuilt := safe.unbuilt (by simp [checking, CommitPc.beforeBuild])
    exact ⟨by simp [CommitThread.reserved, unbuilt, CommitPc.pending], by simp [unbuilt],
      by simp, by simp [CommitPc.beforeBuild], by simp [CommitPc.beforeRegister],
      by simp [CommitPc.pending], by simp [unbuilt], fun _ => found⟩
  | absent checking =>
    have unbuilt := safe.unbuilt (by simp [checking, CommitPc.beforeBuild])
    exact ⟨by simp [CommitThread.reserved, unbuilt, CommitPc.pending], by simp [unbuilt],
      by simp, fun _ => unbuilt,
      fun _ => safe.unregistered (by simp [checking, CommitPc.beforeRegister]),
      by simp [CommitPc.pending], by simp [unbuilt], by simp⟩
  | chunkSizeDiffers selecting | refused selecting | unlisted selecting =>
    have unbuilt := safe.unbuilt (by simp [selecting, CommitPc.beforeBuild])
    exact ⟨by simp [CommitThread.reserved, unbuilt, CommitPc.pending], by simp [unbuilt],
      by simp, by simp [CommitPc.beforeBuild], by simp [CommitPc.beforeRegister],
      by simp [CommitPc.pending], by simp [unbuilt], by simp⟩
  | reserved selecting _ selected listed =>
    have unbuilt := safe.unbuilt (by simp [selecting, CommitPc.beforeBuild])
    have free := HeapChunkSelector.getPgChunks_none_of_reserves refuses selected
    exact ⟨fun _ => by simp [listed], by simp [unbuilt], by simp, fun _ => unbuilt,
      fun _ => safe.unregistered (by simp [selecting, CommitPc.beforeRegister]),
      fun _ => Option.not_isSome_iff_eq_none.mp fun found => by
        simpa [free] using mapHeld _ found,
      by simp [unbuilt], by simp⟩
  | @constructed chunks constructing =>
    have pending : thread.pc.pending := by simp [constructing, CommitPc.pending]
    exact ⟨fun _ => safe.held (by simp [CommitThread.reserved, pending]),
      fun pg built => by
        cases built
        exact ⟨rfl, createSb thread.info thread.replDev thread.indexTable chunks thread.fresh,
          by simp, rfl⟩,
      fun _ working => by
        rcases working with working | working <;> cases working
        rfl,
      by simp [CommitPc.beforeBuild],
      fun _ => safe.unregistered (by simp [constructing, CommitPc.beforeRegister]),
      fun _ => safe.absent pending, by simp, by simp⟩
  | tableTaken registering | groupMismatch registering =>
    first
    | have built := safe.working _ (.inl registering)
    | have built := safe.working _ (.inr registering)
    exact ⟨fun _ => safe.held (by simp [CommitThread.reserved, built]), safe.built, by simp,
      by simp [CommitPc.beforeBuild], by simp [CommitPc.beforeRegister],
      by simp [CommitPc.pending], by simp, by simp⟩
  | registered registering =>
    have built := safe.working _ (.inl registering)
    have pending : thread.pc.pending := by simp [registering, CommitPc.pending]
    exact ⟨fun _ => safe.held (by simp [CommitThread.reserved, built]),
      fun pg built' => safe.built pg built',
      fun _ working => by
        rcases working with working | working <;> cases working
        exact built,
      by simp [CommitPc.beforeBuild], by simp [CommitPc.beforeRegister],
      fun _ => safe.absent pending, by simp, by simp⟩
  | @inserted pg inserting _ =>
    have built := safe.working _ (.inr inserting)
    obtain ⟨sameInfo, -⟩ := safe.built pg built
    have absent := safe.absent (by simp [inserting, CommitPc.pending])
    have found : (state.pgMap.tryEmplace pg.pgInfo.id pg).find thread.info.id = some pg := by
      rw [PgMap.find_tryEmplace (sameInfo ▸ absent), sameInfo, if_pos rfl]
    exact ⟨fun _ => safe.held (by simp [CommitThread.reserved, built]), safe.built, by simp,
      by simp [CommitPc.beforeBuild], by simp [CommitPc.beforeRegister],
      by simp [CommitPc.pending], fun pg' built' _ => by
        rw [built] at built'
        cases built'
        exact found,
      fun _ => by simp only [found]; rfl⟩
  | ended => exact safe

theorem SectionEffect.find_after (key : UInt16) :
    after.2.pgMap.find key = state.pgMap.find key ∨
      ∃ pg, thread.built = some pg ∧ pg.pgInfo.id = key ∧ after.2.pgMap.find key = some pg := by
  cases effect with
  | @inserted pg inserting _ =>
    by_cases isKey : key = pg.pgInfo.id
    · subst isKey
      have built := safe.working _ (.inr inserting)
      obtain ⟨sameInfo, -⟩ := safe.built pg built
      have absent := safe.absent (by simp [inserting, CommitPc.pending])
      exact .inr ⟨pg, built, rfl, by rw [PgMap.find_tryEmplace (sameInfo ▸ absent), if_pos rfl]⟩
    · exact .inl (PgMap.find_tryEmplace_of_ne isKey)
  | _ => exact .inl rfl

omit safe in
theorem SectionEffect.blk_after {position : Nat} {sb : PgInfoSuperblk}
    (stored : after.2.metaBlks[position]? = some sb) :
    state.metaBlks[position]? = some sb ∨
      ∃ pg, after.1.built = some pg ∧ pg.pgSb = position ∧ sb.id = thread.info.id := by
  cases effect with
  | constructed =>
    rcases getElem?_concat_cases stored with before | ⟨rfl, rfl⟩
    · exact .inl before
    · exact .inr ⟨_, rfl, rfl, rfl⟩
  | _ => exact .inl stored

omit safe in
theorem SectionEffect.table_after {position : Nat} {entry : Bytes × PgIndexTable}
    (stored : after.2.indexTablePgMap[position]? = some entry) :
    state.indexTablePgMap[position]? = some entry ∨
      (after.1.reserved ∧ after.1.registeredAt = some position ∧
        entry.2.pgId = thread.info.id) := by
  cases effect with
  | registered =>
    rcases getElem?_concat_cases stored with before | ⟨rfl, rfl⟩
    · exact .inl before
    · exact .inr ⟨by simp [CommitThread.reserved, CommitPc.pending], rfl, rfl⟩
  | _ => exact .inl stored

omit safe in
theorem SectionEffect.keysDistinct (reserves : HeapChunkSelector.Reserves select)
    (refuses : HeapChunkSelector.RefusesHeld select)
    (distinct : (state.chunkSelector.pgChunks.map Prod.fst).Nodup) :
    (after.2.chunkSelector.pgChunks.map Prod.fst).Nodup := by
  cases effect with
  | unlisted _ _ selected | reserved _ _ selected =>
    exact HeapChunkSelector.keysDistinct_of_reserves reserves refuses selected distinct
  | _ => exact distinct

end Step

/-! ## The whole interleaving -/

/-- The invariant of the interleavings from `base`. -/
structure Safe (base : HomeObjectState) (system : Interleaving) : Prop where
  /-- Every PG of the map has its superblock. -/
  persisted : ∀ key pg, system.state.pgMap.find key = some pg →
    ∃ sb, system.state.metaBlks[pg.pgSb]? = some sb ∧ sb.id = key
  /-- Every PG of the map has its chunk list. -/
  held : ∀ key, (system.state.pgMap.find key).isSome →
    (system.state.chunkSelector.getPgChunks key).isSome
  keysDistinct : (system.state.chunkSelector.pgChunks.map Prod.fst).Nodup
  grows : Grows base system.state
  threads : ∀ (index : Nat) (thread : CommitThread), system.threads[index]? = some thread →
    ThreadSafe system.state thread
  /-- At most one execution per pg id has reserved. -/
  unique : ∀ (index index' : Nat) (thread thread' : CommitThread),
    system.threads[index]? = some thread →
    system.threads[index']? = some thread' → thread.info.id = thread'.info.id →
    thread.reserved → thread'.reserved → index = index'
  /-- Every superblock written since `base` is an execution's `HS_PG`. -/
  blkBuilt : ∀ position sb, base.metaBlks.length ≤ position →
    system.state.metaBlks[position]? = some sb → ∃ (index : Nat) (thread : CommitThread) (pg : HsPg),
      system.threads[index]? = some thread ∧ thread.built = some pg ∧ pg.pgSb = position ∧
      sb.id = thread.info.id
  /-- Every index-table entry added since `base` is a reserved execution's. -/
  tableRegistered : ∀ position entry, base.indexTablePgMap.length ≤ position →
    system.state.indexTablePgMap[position]? = some entry → ∃ (index : Nat) (thread : CommitThread),
      system.threads[index]? = some thread ∧ thread.reserved ∧
      thread.registeredAt = some position ∧ entry.2.pgId = thread.info.id

theorem getElem?_set_of_picked {threads : List CommitThread} {index : Nat}
    {thread : CommitThread} (picked : threads[index]? = some thread) (thread' : CommitThread)
    (other : Nat) :
    (threads.set index thread')[other]? = if other = index then some thread' else threads[other]? := by
  have inRange := (List.getElem?_eq_some_iff.mp picked).1
  rw [List.getElem?_set]
  by_cases same : other = index
  · subst same
    simp [inRange]
  · simp [same, Ne.symm same]

/-- **Executions about to start from a reachable state are safe.** -/
theorem safe_start {base : HomeObjectState} (reached : Reachable base)
    {threads : List CommitThread}
    (started : ∀ thread ∈ threads, thread.pc = .check ∧ thread.built = none ∧
      thread.registeredAt = none) :
    Safe base ⟨base, threads⟩ := by
  have inv := reached.inv
  have unreserved : ∀ (index : Nat) (thread : CommitThread), threads[index]? = some thread →
      thread.reserved = false := fun index thread picked => by
      obtain ⟨checking, unbuilt, -⟩ := started thread (List.mem_iff_getElem?.mpr ⟨_, picked⟩)
      simp [CommitThread.reserved, checking, unbuilt, CommitPc.pending]
  refine ⟨fun key pg found => ?_, fun key found => ?_, inv.keysDistinct, Grows.refl base,
    fun index thread picked => threadSafe_of_start (started thread (List.mem_iff_getElem?.mpr ⟨_, picked⟩)),
    fun index _ thread _ picked _ _ reserved _ => ?_,
    fun position sb beyond stored => ?_, fun position entry beyond stored => ?_⟩
  · obtain ⟨sb, stored, persisted⟩ := inv.persisted key pg found
    exact ⟨sb, stored, persisted.ids.2⟩
  · obtain ⟨pg, found⟩ := Option.isSome_iff_exists.mp found
    obtain ⟨sb, -, persisted⟩ := inv.persisted key pg found
    exact persisted.held
  · simp [unreserved index thread picked] at reserved
  · simp [List.getElem?_eq_none beyond] at stored
  · simp [List.getElem?_eq_none beyond] at stored

section Guarded

variable {select : HeapChunkSelector.ChunkSelection} (reserves : HeapChunkSelector.Reserves select)
  (refuses : HeapChunkSelector.RefusesHeld select)
include reserves refuses

/-- **Every step keeps the invariant**, under a selection that refuses a held pg id. -/
theorem safe_interleaveStep {base : HomeObjectState} {system system' : Interleaving}
    (safe : Safe base system) (step : InterleaveStep select system system') :
    Safe base system' := by
  cases step with
  | @run index thread picked => ?_
  have effect := sectionEffect_commitStep select thread system.state
  have threadSafe := safe.threads _ _ picked
  have grows := effect.grows reserves refuses
  have lookup := getElem?_set_of_picked picked (commitStep select thread system.state).1
  have sameInfo := effect.info
  -- an execution other than the stepping one is as it was
  have other : ∀ other thread',
      (system.threads.set index (commitStep select thread system.state).1)[other]? = some thread' →
        (other = index ∧ thread' = (commitStep select thread system.state).1) ∨
        (other ≠ index ∧ system.threads[other]? = some thread') := fun other thread' found => by
    rw [lookup] at found
    split at found
    · exact .inl ⟨by assumption, (Option.some.inj found).symm⟩
    · exact .inr ⟨by assumption, found⟩
  refine ⟨fun key pg found => ?_, fun key found => ?_,
    effect.keysDistinct reserves refuses safe.keysDistinct,
    safe.grows.trans grows, fun other' thread' found => ?_,
    fun one two thread₁ thread₂ found₁ found₂ sameId reserved₁ reserved₂ => ?_,
    fun position sb beyond stored => ?_, fun position entry beyond stored => ?_⟩
  · rcases effect.find_after threadSafe key with same | ⟨pg', built, named, found'⟩
    · obtain ⟨sb, stored, named⟩ := safe.persisted key pg (same ▸ found)
      exact ⟨sb, grows.getElem?_blks stored, named⟩
    · rw [found] at found'
      cases found'
      obtain ⟨samePg, sb, stored, named'⟩ := threadSafe.built pg built
      exact ⟨sb, grows.getElem?_blks stored, by rw [named', ← named, samePg]⟩
  · rcases effect.find_after threadSafe key with same | ⟨pg', built, named, -⟩
    · obtain ⟨chunks, held⟩ := Option.isSome_iff_exists.mp (safe.held key (same ▸ found))
      rw [grows.chunks _ _ held]
      rfl
    · have held := threadSafe.held (by simp [CommitThread.reserved, built])
      rw [← named, (threadSafe.built pg' built).1] at *
      obtain ⟨chunks, held⟩ := Option.isSome_iff_exists.mp held
      rw [grows.chunks _ _ held]
      rfl
  · rcases other other' thread' found with ⟨-, rfl⟩ | ⟨different, found⟩
    · exact effect.threadSafe threadSafe refuses safe.held
    · refine (safe.threads _ _ found).grow grows fun pending => ?_
      rcases effect.find_after threadSafe thread'.info.id with same | ⟨pg', built, named, -⟩
      · rw [same]
        exact (safe.threads _ _ found).absent pending
      · have sameId : thread.info.id = thread'.info.id := by
          rw [← named, (threadSafe.built pg' built).1]
        exact absurd (safe.unique _ _ _ _ picked found sameId
          (by simp [CommitThread.reserved, built])
          (by simp [CommitThread.reserved, pending])).symm different
  · -- a reserved execution is the one that holds the id
    have reservedBefore : ∀ position thread', (system.threads.set index
        (commitStep select thread system.state).1)[position]? = some thread' → thread'.reserved →
        (position = index ∧ thread'.info = thread.info ∧
          (thread.reserved ∨
            system.state.chunkSelector.getPgChunks thread.info.id = none)) ∨
        (position ≠ index ∧ system.threads[position]? = some thread') :=
      fun position thread' found reserved => by
        rcases other position thread' found with ⟨rfl, rfl⟩ | outside
        · exact .inl ⟨rfl, sameInfo, (effect.reserved_cases threadSafe refuses).2 reserved⟩
        · exact .inr outside
    rcases reservedBefore one thread₁ found₁ reserved₁ with
      ⟨rfl, info₁, was₁⟩ | ⟨_, old₁⟩ <;>
    rcases reservedBefore two thread₂ found₂ reserved₂ with
      ⟨rfl, info₂, was₂⟩ | ⟨_, old₂⟩
    · rfl
    · rcases was₁ with was₁ | free
      · exact safe.unique _ _ _ _ picked old₂ (by rw [← info₁]; exact sameId) was₁ reserved₂
      · have held := (safe.threads _ _ old₂).held reserved₂
        rw [← sameId, info₁, free] at held
        cases held
    · rcases was₂ with was₂ | free
      · exact safe.unique _ _ _ _ old₁ picked (by rw [← info₂]; exact sameId) reserved₁ was₂
      · have held := (safe.threads _ _ old₁).held reserved₁
        rw [sameId, info₂, free] at held
        cases held
    · exact safe.unique _ _ _ _ old₁ old₂ sameId reserved₁ reserved₂
  · rcases effect.blk_after stored with before | ⟨pg, built, placed, named⟩
    · obtain ⟨owner, thread', pg, found, built, placed, named⟩ :=
        safe.blkBuilt position sb beyond before
      by_cases isStepping : owner = index
      · subst isStepping
        rw [picked] at found
        cases found
        exact ⟨owner, _, pg, by rw [lookup, if_pos rfl], effect.built_of_some threadSafe built,
          placed, by rw [sameInfo]; exact named⟩
      · exact ⟨owner, thread', pg, by rw [lookup, if_neg isStepping]; exact found, built,
          placed, named⟩
    · exact ⟨index, _, pg, by rw [lookup, if_pos rfl], built, placed,
        by rw [sameInfo]; exact named⟩
  · rcases effect.table_after stored with before | ⟨reserved, registered, named⟩
    · obtain ⟨owner, thread', found, reserved, registered, named⟩ :=
        safe.tableRegistered position entry beyond before
      by_cases isStepping : owner = index
      · subst isStepping
        rw [picked] at found
        cases found
        exact ⟨owner, _, by rw [lookup, if_pos rfl], (effect.reserved_cases threadSafe refuses).1 reserved,
          effect.registeredAt_of_some threadSafe registered, by rw [sameInfo]; exact named⟩
      · exact ⟨owner, thread', by rw [lookup, if_neg isStepping]; exact found, reserved,
          registered, named⟩
    · exact ⟨index, _, by rw [lookup, if_pos rfl], reserved, registered,
        by rw [sameInfo]; exact named⟩

/-- **Every run keeps the invariant**, under a selection that refuses a held pg id. -/
theorem safe_of_run {base : HomeObjectState} {start system : Interleaving}
    (safe : Safe base start) (run : Relation.ReflTransGen (InterleaveStep select) start system) :
    Safe base system := by
  induction run with
  | refl => exact safe
  | tail _ step inductionHypothesis =>
    exact safe_interleaveStep reserves refuses inductionHypothesis step

end Guarded

end HomeObject
