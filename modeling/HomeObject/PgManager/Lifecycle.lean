import HomeObject.PgManager.Replay

/-!
Contract: the life of a replica's PG manager: commits of CREATE_PG entries, membership changes,
restarts, and commits that abort followed by the restart of the process, in any order.

Owns:
- `aborted_cases`: what a commit that aborts leaves, and `aborted_restartsAs`: the restart after
  it reads what a state keeping the invariant holds;
- `LifecycleStep`, one step of a replica's life, and `Lifecycle`, the states a fresh start reaches
  by any sequence of steps; every run without restarts is one (`Reachable.lifecycle`);
- `Lifecycle.inv`: every such state keeps the invariant of the runs;
- `KeptPg` and `lifecycle_keepsPg`: a PG, once in the map, is there in every later state, with
  the same group, size, superblock, index table, durable counters and chunk list;
- `restart_afterAbort`: the PG `add_pg_to_map` refused is in the map after the next restart;
- `onPgReplaceMember_replayed`: a membership change applied again, as a replay of the log applies
  it, changes nothing.

Does not own: restarts in which a group does not open. After one, that group's superblock has no
PG (`restart_groupNotOpened`), which the invariant rules out. Nor an abort on an index table that
is registered already, which needs `create_index_table` to hand out a uuid twice.
-/

set_option autoImplicit false

namespace HomeObject

open Superblock

/-! ## Commits that abort -/

/-- **What a commit that aborts leaves**, when the index table it made is not registered: the
state as it was (the blob is shorter than a header, or a member record misses a key), or, when `add_pg_to_map` finds that the
record's replica set is not the committing group, the state where the entry was committed with
that group as its replica set, but for the map. -/
theorem aborted_cases {state crashed : HomeObjectState} {blob : Bytes} {replDev indexTable : Uuid}
    {fresh : Bytes}
    (aborted : onCreatePgMessageCommit state blob replDev indexTable fresh = .crashed crashed)
    (free : state.indexTablePgMap.lookup indexTable.toString = none) :
    crashed = state ∨ ∃ (payload : Bytes) (info : PgInfo) (count : Nat)
      (selector : HeapChunkSelector) (chunks : List ChunkNum),
      checkCreatePgHeader blob = .ok payload ∧ deserializePgInfo payload = .ok info ∧
      info.replicaSetUuid ≠ replDev ∧ state.pgMap.find info.id = none ∧
      state.chunkSelector.selectChunksForPg info.id info.size = some (count, selector) ∧
      selector.getPgChunks info.id = some chunks ∧
      crashed = { createdState state { info with replicaSetUuid := replDev } replDev indexTable
        selector chunks fresh with pgMap := state.pgMap } := by
  have effect := commitEffect_onCreatePgMessageCommit state blob replDev indexTable fresh
  rw [aborted] at effect
  cases effect with
  | short | memberKeyMissing => exact .inl rfl
  | tableTaken _ _ _ _ _ _ taken => simp [free] at taken
  | @groupMismatch payload info count selector chunks checked decoded absent _ selected reserved _
      mismatch =>
    exact .inr ⟨payload, info, count, selector, chunks, checked, decoded, mismatch, absent, selected,
      reserved, rfl⟩

theorem getPgChunks_of_select_found {state : HomeObjectState} {info : PgInfo} {count : Nat}
    {selector : HeapChunkSelector} {key : UInt16} {pg : HsPg}
    (absent : state.pgMap.find info.id = none)
    (selected : state.chunkSelector.selectChunksForPg info.id info.size = some (count, selector))
    (found : state.pgMap.find key = some pg) :
    selector.getPgChunks key = state.chunkSelector.getPgChunks key := by
  have other : key ≠ info.id := by
    rintro rfl
    rw [absent] at found
    cases found
  exact (HeapChunkSelector.getPgChunks_of_select selected key).trans (if_neg other)

theorem few_createdState {state : HomeObjectState} {info : PgInfo} {replDev indexTable : Uuid}
    {selector : HeapChunkSelector} {chunks : List ChunkNum} {fresh : Bytes}
    (few : ∀ key pg, state.pgMap.find key = some pg → pg.pgInfo.members.size < 2 ^ 32)
    (absent : state.pgMap.find info.id = none) (fewInfo : info.members.size < 2 ^ 32) :
    ∀ key pg, (createdState state info replDev indexTable selector chunks fresh).pgMap.find key =
      some pg → pg.pgInfo.members.size < 2 ^ 32 := by
  intro key pg found
  rw [find_createdState absent] at found
  split at found
  · cases found
    exact fewInfo
  · exact few key pg found

/-- **The restart after an abort reads a state keeping the invariant**: from a state keeping it,
what a commit that aborts with its index table not registered leaves restarts as a state that
keeps the invariant, has the same superblocks, and holds every PG of the state before the
commit, with its chunk list. -/
theorem aborted_restartsAs {state crashed : HomeObjectState} (inv : Inv state)
    (few : ∀ key pg, state.pgMap.find key = some pg → pg.pgInfo.members.size < 2 ^ 32)
    {blob : Bytes} {replDev indexTable : Uuid} {fresh : Bytes}
    (aborted : onCreatePgMessageCommit state blob replDev indexTable fresh = .crashed crashed)
    (free : state.indexTablePgMap.lookup indexTable.toString = none)
    (fewEntry : ∀ payload info, checkCreatePgHeader blob = .ok payload →
      deserializePgInfo payload = .ok info → info.members.size < 2 ^ 32) :
    ∃ base, Inv base ∧
      (∀ key pg, base.pgMap.find key = some pg → pg.pgInfo.members.size < 2 ^ 32) ∧
      base.metaBlks = crashed.metaBlks ∧
      (∀ heaps opens order, restart crashed heaps opens order = restart base heaps opens order) ∧
      ∀ key pg, state.pgMap.find key = some pg → base.pgMap.find key = some pg ∧
        base.chunkSelector.getPgChunks key = state.chunkSelector.getPgChunks key := by
  rcases aborted_cases aborted free with rfl | ⟨payload, info, count, selector, chunks, checked,
    decoded, -, absent, selected, reserved, rfl⟩
  · exact ⟨_, inv, few, rfl, fun _ _ _ => rfl, fun key pg found => ⟨found, rfl⟩⟩
  exact ⟨_, @inv_createdState state { info with replicaSetUuid := replDev } replDev indexTable count
      selector chunks fresh inv absent selected reserved free rfl,
    few_createdState few absent (fewEntry payload info checked decoded), rfl,
    fun heaps opens order => restart_congr rfl rfl rfl heaps opens order,
    fun key pg found => ⟨PgMap.find_tryEmplace_of_some found,
      getPgChunks_of_select_found absent selected found⟩⟩

/-! ## A replica's life -/

/-- One step of a replica's life: a commit of a CREATE_PG entry that replies (one that throws
changes nothing); a membership change replacing a member of the group's PG by one that is not in
it; a restart; or a commit that aborts, its index table not registered, and then a restart. A
restart is on devices whose chunks are distinct, every group opens, the meta service finds every
superblock once, and the PGs have fewer than `2^32` members each. -/
inductive LifecycleStep : HomeObjectState → HomeObjectState → Prop where
  | commit {state after : HomeObjectState} (blob : Bytes) (replDev indexTable : Uuid)
      (fresh : Bytes) (result : Except PGError Unit)
      (replied : onCreatePgMessageCommit state blob replDev indexTable fresh =
        .replied result after) :
      LifecycleStep state after
  | replace {state : HomeObjectState} (groupId : Uuid) (memberOut memberIn : ReplicaMemberInfo)
      (change : ∀ key pg, replaceTarget state groupId = some (key, pg) →
        memberOut.id ∈ pg.pgInfo.members.ids ∧ memberIn.id ∉ pg.pgInfo.members.ids) :
      LifecycleStep state (onPgReplaceMember state groupId memberOut memberIn)
  | restart {state after : HomeObjectState}
      (few : ∀ key pg, state.pgMap.find key = some pg → pg.pgInfo.members.size < 2 ^ 32)
      (heaps : List (List ChunkNum)) (heapsDistinct : heaps.flatten.Nodup) (opens : Uuid → Bool)
      (allOpen : ∀ sb ∈ state.metaBlks, opens sb.replicaSetUuid = true) (order : List Nat)
      (everyBlk : order.Perm (List.range state.metaBlks.length))
      (restarted : restart state heaps opens order = some after) :
      LifecycleStep state after
  | abortRestart {state crashed after : HomeObjectState} (blob : Bytes) (replDev indexTable : Uuid)
      (fresh : Bytes)
      (aborted : onCreatePgMessageCommit state blob replDev indexTable fresh = .crashed crashed)
      (free : state.indexTablePgMap.lookup indexTable.toString = none)
      (few : ∀ key pg, state.pgMap.find key = some pg → pg.pgInfo.members.size < 2 ^ 32)
      (fewEntry : ∀ payload info, checkCreatePgHeader blob = .ok payload →
        deserializePgInfo payload = .ok info → info.members.size < 2 ^ 32)
      (heaps : List (List ChunkNum)) (heapsDistinct : heaps.flatten.Nodup) (opens : Uuid → Bool)
      (allOpen : ∀ sb ∈ crashed.metaBlks, opens sb.replicaSetUuid = true) (order : List Nat)
      (everyBlk : order.Perm (List.range crashed.metaBlks.length))
      (restarted : restart crashed heaps opens order = some after) :
      LifecycleStep state after

/-- The states of a replica's life: a fresh start on devices whose chunks are distinct, then any
sequence of steps. -/
def Lifecycle (state : HomeObjectState) : Prop :=
  ∃ (chunkSize : UInt64) (heaps : List (List ChunkNum)), heaps.flatten.Nodup ∧
    Relation.ReflTransGen LifecycleStep (.init chunkSize heaps) state

theorem Lifecycle.run {state later : HomeObjectState} (lived : Lifecycle state)
    (run : Relation.ReflTransGen LifecycleStep state later) : Lifecycle later :=
  let ⟨chunkSize, heaps, distinct, start⟩ := lived
  ⟨chunkSize, heaps, distinct, start.trans run⟩

/-- **Every run without restarts is part of a replica's life.** -/
theorem Reachable.lifecycle {state : HomeObjectState} (reached : Reachable state) :
    Lifecycle state := by
  induction reached with
  | init chunkSize heaps distinct => exact ⟨chunkSize, heaps, distinct, .refl⟩
  | commit _ blob replDev indexTable fresh result replied inductionHypothesis =>
    exact inductionHypothesis.run (.single (.commit blob replDev indexTable fresh result replied))
  | replace _ groupId memberOut memberIn change inductionHypothesis =>
    exact inductionHypothesis.run (.single (.replace groupId memberOut memberIn change))

/-! ## The invariant along a replica's life -/

theorem LifecycleStep.inv_after {state after : HomeObjectState} (step : LifecycleStep state after)
    (inv : Inv state) : Inv after := by
  cases step with
  | commit _ _ _ _ _ replied => exact inv_of_replied inv replied
  | replace _ _ _ change => exact inv_onPgReplaceMember inv change
  | restart few _ heapsDistinct _ allOpen _ everyBlk restarted =>
    exact inv_restart inv few heapsDistinct allOpen everyBlk restarted
  | abortRestart _ _ _ _ aborted free few fewEntry heaps heapsDistinct opens allOpen order everyBlk
      restarted =>
    obtain ⟨base, invBase, fewBase, sameBlks, sameRestart, -⟩ :=
      aborted_restartsAs inv few aborted free fewEntry
    rw [← sameBlks] at allOpen everyBlk
    exact inv_restart invBase fewBase heapsDistinct allOpen everyBlk
      ((sameRestart heaps opens order).symm.trans restarted)

/-- **Every state of a replica's life keeps the invariant.** -/
theorem Lifecycle.inv {state : HomeObjectState} (lived : Lifecycle state) : Inv state := by
  obtain ⟨_, _, distinct, run⟩ := lived
  induction run with
  | refl => exact inv_init distinct
  | tail _ step inductionHypothesis => exact step.inv_after inductionHypothesis

/-! ## No PG is lost -/

/-- What a PG keeps from one state to a later one: its group and device, its size, its
superblock, its index table and its durable counters. Its members may change. -/
structure KeptPg (pg pg' : HsPg) : Prop where
  group : pg'.pgInfo.replicaSetUuid = pg.pgInfo.replicaSetUuid
  replDev : pg'.replDev = pg.replDev
  size : pg'.pgInfo.size = pg.pgInfo.size
  pgSb : pg'.pgSb = pg.pgSb
  indexTable : pg'.indexTable = pg.indexTable
  counters : pg'.durableEntities = pg.durableEntities

theorem KeptPg.refl (pg : HsPg) : KeptPg pg pg := ⟨rfl, rfl, rfl, rfl, rfl, rfl⟩

theorem KeptPg.trans {pg pg' pg'' : HsPg} (kept : KeptPg pg pg') (kept' : KeptPg pg' pg'') :
    KeptPg pg pg'' :=
  ⟨kept'.group.trans kept.group, kept'.replDev.trans kept.replDev, kept'.size.trans kept.size,
    kept'.pgSb.trans kept.pgSb, kept'.indexTable.trans kept.indexTable,
    kept'.counters.trans kept.counters⟩

theorem Persisted.keptPg {state : HomeObjectState} {key : UInt16} {pg : HsPg} {sb : PgInfoSuperblk}
    (persisted : Persisted state key pg sb) : KeptPg pg (recoveredPg pg.pgSb sb) :=
  ⟨persisted.group.2.trans persisted.group.1.symm, persisted.group.2, persisted.size, rfl,
    persisted.indexTable.symm, persisted.counters.symm⟩

/-- A restart in which every group opens, from a state keeping the invariant, keeps each PG and
its chunk list. -/
theorem keepsPg_restart {state after : HomeObjectState} (inv : Inv state)
    (few : ∀ key pg, state.pgMap.find key = some pg → pg.pgInfo.members.size < 2 ^ 32)
    {heaps : List (List ChunkNum)} {opens : Uuid → Bool}
    (allOpen : ∀ sb ∈ state.metaBlks, opens sb.replicaSetUuid = true) {order : List Nat}
    (everyBlk : order.Perm (List.range state.metaBlks.length))
    (restarted : restart state heaps opens order = some after) {key : UInt16} {pg : HsPg}
    (found : state.pgMap.find key = some pg) :
    ∃ pg', after.pgMap.find key = some pg' ∧ KeptPg pg pg' ∧
      after.chunkSelector.getPgChunks key = state.chunkSelector.getPgChunks key := by
  obtain ⟨recovered, restarted', recovers⟩ := inv.restart_recovers few heaps allOpen everyBlk
  rw [restarted] at restarted'
  cases restarted'
  obtain ⟨sb, -, persisted, recoveredFound, chunks⟩ := (recovers key).2 pg found
  exact ⟨_, recoveredFound, persisted.keptPg, chunks⟩

/-- **No step loses a PG**: from a state keeping the invariant, the PG under `key` is there after
any step, kept, with the same chunk list. -/
theorem LifecycleStep.keepsPg {state after : HomeObjectState} (step : LifecycleStep state after)
    (inv : Inv state) {key : UInt16} {pg : HsPg} (found : state.pgMap.find key = some pg) :
    ∃ pg', after.pgMap.find key = some pg' ∧ KeptPg pg pg' ∧
      after.chunkSelector.getPgChunks key = state.chunkSelector.getPgChunks key := by
  cases step with
  | commit blob replDev indexTable fresh result replied =>
    have effect := commitEffect_onCreatePgMessageCommit state blob replDev indexTable fresh
    rw [replied] at effect
    cases effect with
    | crcMismatch => exact ⟨pg, found, .refl pg, rfl⟩
    | present => exact ⟨pg, found, .refl pg, rfl⟩
    | chunkSizeDiffers => exact ⟨pg, found, .refl pg, rfl⟩
    | noSpace => exact ⟨pg, found, .refl pg, rfl⟩
    | created _ _ absent _ selected =>
      exact ⟨pg, PgMap.find_tryEmplace_of_some found, .refl pg,
        getPgChunks_of_select_found absent selected found⟩
  | replace groupId memberOut memberIn =>
    rcases target : replaceTarget state groupId with _ | ⟨changed, old⟩
    · rw [show onPgReplaceMember state groupId memberOut memberIn = state by
        simp [onPgReplaceMember, target]]
      exact ⟨pg, found, .refl pg, rfl⟩
    obtain ⟨foundChanged, unchanged, -, -, -, sameSelector, -⟩ :=
      @onPgReplaceMember_found state groupId memberOut memberIn changed old target
    by_cases isChanged : key = changed
    · subst isChanged
      rw [(find_of_replaceTarget target).1] at found
      cases found
      exact ⟨_, foundChanged, ⟨rfl, rfl, rfl, rfl, rfl, rfl⟩, by rw [sameSelector]⟩
    · exact ⟨pg, (unchanged key isChanged).trans found, .refl pg, by rw [sameSelector]⟩
  | restart few _ _ _ allOpen _ everyBlk restarted =>
    exact keepsPg_restart inv few allOpen everyBlk restarted found
  | abortRestart _ _ _ _ aborted free few fewEntry heaps _ opens allOpen order everyBlk restarted =>
    obtain ⟨base, invBase, fewBase, sameBlks, sameRestart, keeps⟩ :=
      aborted_restartsAs inv few aborted free fewEntry
    rw [← sameBlks] at allOpen everyBlk
    obtain ⟨inBase, sameChunks⟩ := keeps key pg found
    obtain ⟨pg', found', kept, chunks⟩ := keepsPg_restart invBase fewBase allOpen everyBlk
      ((sameRestart heaps opens order).symm.trans restarted) inBase
    exact ⟨pg', found', kept, chunks.trans sameChunks⟩

/-- **A PG once in the map is never lost**: along every run of a replica's life from a state where
a PG is under `key`, every later state has a PG under `key` with the same group, size,
superblock, index table and durable counters, and the same chunk list. -/
theorem lifecycle_keepsPg {state later : HomeObjectState} (lived : Lifecycle state)
    (run : Relation.ReflTransGen LifecycleStep state later) {key : UInt16} {pg : HsPg}
    (found : state.pgMap.find key = some pg) :
    ∃ pg', later.pgMap.find key = some pg' ∧ KeptPg pg pg' ∧
      later.chunkSelector.getPgChunks key = state.chunkSelector.getPgChunks key := by
  induction run with
  | refl => exact ⟨pg, found, .refl pg, rfl⟩
  | tail earlier step inductionHypothesis =>
    obtain ⟨pg', found', kept, chunks⟩ := inductionHypothesis
    obtain ⟨pg'', found'', kept', chunks'⟩ := step.keepsPg (lived.run earlier).inv found'
    exact ⟨pg'', found'', kept.trans kept', chunks'.trans chunks⟩

theorem lifecycle_keepsPg_acrossRestart :
    let state := createdState (.init 1 [[0]]) { PgInfo.ofId 1 with size := 1, chunkSize := 1 } .nil
      .nil ⟨1, [[]], [(1, [0])]⟩ [0] []
    let later := (restart state [[0]] (fun _ => true) [0]).getD state
    let pg : HsPg := ⟨{ PgInfo.ofId 1 with size := 1, chunkSize := 1 }, .nil, some .nil, 0, .zero⟩
    (Lifecycle state ∧ Relation.ReflTransGen LifecycleStep state later ∧
      state.pgMap.find 1 = some pg) ∧
    ∃ pg', later.pgMap.find 1 = some pg' ∧ KeptPg pg pg' ∧
      later.chunkSelector.getPgChunks 1 = state.chunkSelector.getPgChunks 1 :=
  ⟨⟨reachable_onePg.lifecycle, .single (.restart onePg_fewMembers [[0]] (by decide) (fun _ => true)
      (fun _ _ => rfl) [0] (List.Perm.refl _) rfl), rfl⟩,
    lifecycle_keepsPg reachable_onePg.lifecycle (.single (.restart onePg_fewMembers [[0]]
      (by decide) (fun _ => true) (fun _ _ => rfl) [0] (List.Perm.refl _) rfl)) rfl⟩

/-! ## The restart after an abort -/

/-- **A create that `add_pg_to_map` aborts is done at the next restart**: from a state of a
replica's life whose PGs have fewer than `2^32` members each, after a commit that aborts with the
index table it made not registered, a restart in which every group opens succeeds and keeps every
PG; and unless the abort changed nothing, it was `add_pg_to_map`'s check that the record's replica
set is the committing group, on an entry for an absent PG, and the restart loads that PG, in the
committing group. -/
theorem restart_afterAbort {state crashed : HomeObjectState} (lived : Lifecycle state)
    (few : ∀ key pg, state.pgMap.find key = some pg → pg.pgInfo.members.size < 2 ^ 32)
    {blob : Bytes} {replDev indexTable : Uuid} {fresh : Bytes}
    (aborted : onCreatePgMessageCommit state blob replDev indexTable fresh = .crashed crashed)
    (free : state.indexTablePgMap.lookup indexTable.toString = none)
    (fewEntry : ∀ payload info, checkCreatePgHeader blob = .ok payload →
      deserializePgInfo payload = .ok info → info.members.size < 2 ^ 32)
    (heaps : List (List ChunkNum)) {opens : Uuid → Bool}
    (allOpen : ∀ sb ∈ crashed.metaBlks, opens sb.replicaSetUuid = true) {order : List Nat}
    (everyBlk : order.Perm (List.range crashed.metaBlks.length)) :
    ∃ after, restart crashed heaps opens order = some after ∧
      (∀ key, (state.pgMap.find key).isSome → (after.pgMap.find key).isSome) ∧
      (crashed = state ∨ ∃ info : PgInfo,
        (∃ payload, checkCreatePgHeader blob = .ok payload ∧ deserializePgInfo payload = .ok info) ∧
        info.replicaSetUuid ≠ replDev ∧ state.pgMap.find info.id = none ∧
        ∃ pg, after.pgMap.find info.id = some pg ∧ pg.replDev = replDev ∧
          pg.pgInfo.replicaSetUuid = replDev) := by
  have inv := lived.inv
  rcases aborted_cases aborted free with rfl | ⟨payload, info, count, selector, chunks, checked,
    decoded, mismatch, absent, selected, reserved, rfl⟩
  · obtain ⟨after, restarted, recovers⟩ := inv.restart_recovers few heaps allOpen everyBlk
    exact ⟨after, restarted, fun key present => (recovers key).1 ▸ present, .inl rfl⟩
  have created := @inv_createdState state { info with replicaSetUuid := replDev } replDev indexTable
    count selector chunks fresh inv absent selected reserved free rfl
  obtain ⟨after, restarted, recovers⟩ := created.restart_recovers
    (few_createdState few absent (fewEntry payload info checked decoded)) heaps allOpen everyBlk
  refine ⟨after, (restart_congr rfl rfl rfl heaps opens order).trans restarted,
    fun key present => ?_, .inr ⟨info, ⟨payload, checked, decoded⟩, mismatch, absent, ?_⟩⟩
  · obtain ⟨pg, found⟩ := Option.isSome_iff_exists.mp present
    have kept : (createdState state { info with replicaSetUuid := replDev } replDev indexTable
        selector chunks fresh).pgMap.find key = some pg := PgMap.find_tryEmplace_of_some found
    rw [(recovers key).1, kept]
    rfl
  · obtain ⟨sb, -, persisted, recoveredFound, -⟩ :=
      (recovers info.id).2 ⟨{ info with replicaSetUuid := replDev }, replDev, some indexTable,
        state.metaBlks.length, .zero⟩ (by simp [createdState, PgMap.find_tryEmplace absent])
    exact ⟨_, recoveredFound, persisted.group.2, persisted.group.2⟩

theorem restart_afterAbort_groupMismatch :
    let info : PgInfo := { PgInfo.ofId 1 with size := 1, chunkSize := 1 }
    let state := HomeObjectState.init 1 [[0]]
    let blob := (doCreatePg info).toOption.getD []
    let crashed : HomeObjectState := { createdState state info (Uuid.ofNat 5) (Uuid.ofNat 6)
      ⟨1, [[]], [(1, [0])]⟩ [0] [] with pgMap := state.pgMap }
    (Lifecycle state ∧
      (∀ key pg, state.pgMap.find key = some pg → pg.pgInfo.members.size < 2 ^ 32) ∧
      onCreatePgMessageCommit state blob (Uuid.ofNat 5) (Uuid.ofNat 6) [] = .crashed crashed ∧
      state.indexTablePgMap.lookup (Uuid.ofNat 6).toString = none ∧
      (∀ payload info, checkCreatePgHeader blob = .ok payload →
        deserializePgInfo payload = .ok info → info.members.size < 2 ^ 32) ∧
      (∀ sb ∈ crashed.metaBlks, (fun _ => true) sb.replicaSetUuid = true) ∧
      [0].Perm (List.range crashed.metaBlks.length)) ∧
    ∃ after, restart crashed [[0]] (fun _ => true) [0] = some after ∧
      (∀ key, (state.pgMap.find key).isSome → (after.pgMap.find key).isSome) ∧
      (crashed = state ∨ ∃ info : PgInfo,
        (∃ payload, checkCreatePgHeader blob = .ok payload ∧ deserializePgInfo payload = .ok info) ∧
        info.replicaSetUuid ≠ Uuid.ofNat 5 ∧ state.pgMap.find info.id = none ∧
        ∃ pg, after.pgMap.find info.id = some pg ∧ pg.replDev = Uuid.ofNat 5 ∧
          pg.pgInfo.replicaSetUuid = Uuid.ofNat 5) := by
  have validNames : ∀ member ∈ ({ PgInfo.ofId 1 with size := 1, chunkSize := 1 } : PgInfo).members.toList,
      Json.validUtf8 member.name = true := fun _ member => by cases member
  have aborted := @onCreatePgMessageCommit_doCreatePg_mismatch (.init 1 [[0]])
    { PgInfo.ofId 1 with size := 1, chunkSize := 1 } _ (Uuid.ofNat 5) (Uuid.ofNat 6) 1
    ⟨1, [[]], [(1, [0])]⟩ [0] validNames rfl rfl rfl rfl rfl rfl (by decide) []
  have fewEntry : ∀ payload info, checkCreatePgHeader
      ((doCreatePg { PgInfo.ofId 1 with size := 1, chunkSize := 1 }).toOption.getD []) =
        .ok payload → deserializePgInfo payload = .ok info → info.members.size < 2 ^ 32 := by
    intro payload info checked' decoded'
    obtain ⟨payload₀, serialized, decoded⟩ := deserializePgInfo_serializePgInfo validNames
    obtain ⟨blob, built, -, checked⟩ := doCreatePg_checked serialized
    rw [built] at checked'
    rw [show (Except.ok blob : Except JsonError Bytes).toOption.getD [] = blob from rfl, checked]
      at checked'
    cases checked'
    rw [decoded] at decoded'
    cases decoded'
    decide
  exact ⟨⟨⟨1, [[0]], by decide, .refl⟩, (fun _ _ found => by cases found), aborted, rfl, fewEntry,
      fun _ _ => rfl, List.Perm.refl _⟩,
    restart_afterAbort ⟨1, [[0]], by decide, .refl⟩ (fun _ _ found => by cases found) aborted rfl
      fewEntry [[0]] (fun _ _ => rfl) (List.Perm.refl _)⟩

/-! ## A membership change replayed -/

theorem replaceTarget_modify (state : HomeObjectState) (key : UInt16) (change : HsPg → HsPg)
    (keepsGroup : ∀ pg, (change pg).replDev = pg.replDev) (groupId : Uuid)
    (metaBlks : List PgInfoSuperblk) :
    replaceTarget { state with pgMap := state.pgMap.modify key change, metaBlks } groupId =
      (replaceTarget state groupId).map fun entry =>
        if entry.1 = key then (entry.1, change entry.2) else entry := by
  simp only [replaceTarget, PgMap.modify, List.find?_map]
  congr 2
  funext entry
  by_cases isKey : entry.1 = key <;> simp [isKey, keepsGroup]

theorem replaceTarget_onPgReplaceMember {state : HomeObjectState} {groupId : Uuid}
    {memberOut memberIn : ReplicaMemberInfo} {key : UInt16} {pg : HsPg}
    (target : replaceTarget state groupId = some (key, pg)) :
    replaceTarget (onPgReplaceMember state groupId memberOut memberIn) groupId =
      some (key, { pg with pgInfo := { pg.pgInfo with
        members := replacedMembers pg.pgInfo.members memberOut memberIn } }) := by
  simp only [onPgReplaceMember, target]
  rw [replaceTarget_modify state key (fun pg' => { pg' with pgInfo := { pg'.pgInfo with
    members := replacedMembers pg.pgInfo.members memberOut memberIn } }) (fun _ => rfl), target]
  simp

/-- **Replaying a membership change changes nothing**: in a state of a replica's life whose PGs
have fewer than `2^32` members, `on_pg_replace_member` run again with the arguments of a change of
a present member for a new one leaves the PGs and the superblocks, byte for byte, as the first run
left them. The member out is gone and the member in is there, and the member loop writes the same
bytes again. -/
theorem onPgReplaceMember_replayed {state : HomeObjectState} (lived : Lifecycle state)
    (few : ∀ key pg, state.pgMap.find key = some pg → pg.pgInfo.members.size < 2 ^ 32)
    {groupId : Uuid} {memberOut memberIn : ReplicaMemberInfo}
    (change : ∀ key pg, replaceTarget state groupId = some (key, pg) →
      memberOut.id ∈ pg.pgInfo.members.ids ∧ memberIn.id ∉ pg.pgInfo.members.ids) :
    onPgReplaceMember (onPgReplaceMember state groupId memberOut memberIn) groupId memberOut
        memberIn = onPgReplaceMember state groupId memberOut memberIn := by
  rcases target : replaceTarget state groupId with _ | ⟨key, pg⟩
  · simp [onPgReplaceMember, target]
  have found := (find_of_replaceTarget target).1
  obtain ⟨sb, stored, persisted⟩ := lived.inv.persisted key pg found
  have slots := persisted.slots (few key pg found)
  obtain ⟨present, fresh⟩ := change key pg target
  have fits := membersFit_of_count slots.fits
    (slots.agree.numMembers.trans (size_replaced fresh present).symm)
  rw [onPgReplaceMember, replaceTarget_onPgReplaceMember target]
  simp only [replacedMembers_replacedMembers, onPgReplaceMember, target]
  congr 1
  · exact (PgMap.modify_modify _ _ _ _).trans rfl
  · refine List.ext_getElem? fun index => ?_
    by_cases isSb : pg.pgSb = index
    · subst isSb
      simp [List.getElem?_modify, stored, rewriteMembers_rewriteMembers fits]
    · simp [List.getElem?_modify, isSb]


def oneMemberInfo : PgInfo :=
  { PgInfo.ofId 1 with
    members := MemberSet.empty.emplace ⟨Uuid.ofNat 1, Json.ascii "a", Int32.zero⟩
    size := 1
    chunkSize := 1 }

def oneMemberState : HomeObjectState :=
  createdState (.init 1 [[0]]) oneMemberInfo .nil .nil ⟨1, [[]], [(1, [0])]⟩ [0] []

theorem reachable_oneMember : Reachable oneMemberState :=
  @Reachable.createPg _ (.init 1 [[0]] (by decide)) oneMemberInfo .nil .nil 1 ⟨1, [[]], [(1, [0])]⟩ [0]
    (by decide) rfl rfl rfl rfl rfl rfl []

theorem oneMember_fewMembers (key : UInt16) (pg : HsPg)
    (found : oneMemberState.pgMap.find key = some pg) : pg.pgInfo.members.size < 2 ^ 32 := by
  rw [oneMemberState, find_createdState] at found
  · split at found
    · cases found
      decide
    · cases found
  · rfl

theorem oneMember_change : ∀ key pg, replaceTarget oneMemberState .nil = some (key, pg) →
    Uuid.ofNat 1 ∈ pg.pgInfo.members.ids ∧ Uuid.ofNat 2 ∉ pg.pgInfo.members.ids := by
  intro key pg target
  obtain ⟨-, rfl⟩ := Prod.mk.inj (Option.some.inj ((show replaceTarget oneMemberState .nil =
    some (1, ⟨oneMemberInfo, .nil, some .nil, 0, .zero⟩) from rfl).symm.trans target))
  decide

theorem onPgReplaceMember_replayed_oneMember :
    let memberOut : ReplicaMemberInfo := ⟨Uuid.ofNat 1, Json.ascii "a", Int32.zero, by decide⟩
    let memberIn : ReplicaMemberInfo := ⟨Uuid.ofNat 2, Json.ascii "b", Int32.zero, by decide⟩
    (Lifecycle oneMemberState ∧
      (∀ key pg, oneMemberState.pgMap.find key = some pg → pg.pgInfo.members.size < 2 ^ 32) ∧
      ∀ key pg, replaceTarget oneMemberState .nil = some (key, pg) →
        memberOut.id ∈ pg.pgInfo.members.ids ∧ memberIn.id ∉ pg.pgInfo.members.ids) ∧
    onPgReplaceMember (onPgReplaceMember oneMemberState .nil memberOut memberIn) .nil memberOut
        memberIn = onPgReplaceMember oneMemberState .nil memberOut memberIn :=
  ⟨⟨reachable_oneMember.lifecycle, oneMember_fewMembers, oneMember_change⟩,
    onPgReplaceMember_replayed reachable_oneMember.lifecycle oneMember_fewMembers oneMember_change⟩

end HomeObject
