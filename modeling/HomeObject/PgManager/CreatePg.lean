import HomeObject.PgManager.Commit

/-!
Contract: `_create_pg`, the leader's half of PG creation, up to the entry it proposes.

Owns:
- `roundDown` (`sisl::round_down`) and `createPg`: the existence check, the empty-size check, the
  capacity check on `round_down(size, chunk_size) / chunk_size` chunks (a trap for a chunk size
  of 0), then the new group from `create_repl_dev` and the entry of `do_create_pg`;
- `createPg_noSpaceLeft_iff`, which sizes the capacity check refuses;
- `createPg_commit`, the whole creation: the entry a proposal carries is committed by a replica
  with room for it as exactly the PG the leader filled in.

`sisl::round_down` is not among the sources; it is `value / multiple * multiple`. The random
uuid of the new group and the answer of `create_repl_dev` are passed in; the group the
replication service creates answers to that uuid.
-/

set_option autoImplicit false

namespace HomeObject

open Superblock

/-- `sisl::round_down(value, multiple)`. -/
def roundDown (value multiple : UInt64) : UInt64 := value / multiple * multiple

/-- How `_create_pg` ends on the leader, before any replica commits. -/
inductive CreatePgResult where
  /-- It returns `result` before asking for a replication group. -/
  | returned (result : Except PGError Unit)
  /-- `create_repl_dev` failed with `error`, mapped by `toPgError`. -/
  | replDevFailed (error : PGError)
  /-- `serialize_pg_info` threw in the continuation. -/
  | threw (error : JsonError)
  /-- `round_down` divided by a chunk size of 0: the process traps (`SIGFPE`). -/
  | crashed
  /-- The entry `blob` was proposed to the group `replDev`; the future resolves with the
  commit's reply. -/
  | proposed (replDev : Uuid) (blob : Bytes)

/-- The continuation of `_create_pg` once `create_repl_dev(replica_set_uuid, peers)` answers
`created`: its error through `toPgError`, or `do_create_pg` proposing the entry to the group. -/
def proposeCreatePg (info : PgInfo) (replicaSetUuid : Uuid)
    (created : Except ReplServiceError Unit) : CreatePgResult :=
  match created with
  | .error error => .replDevFailed (toPgError error)
  | .ok () =>
    match doCreatePg info with
    | .error error => .threw error
    | .ok blob => .proposed replicaSetUuid blob

/-- `_create_pg(pg_info, peers)` with `random_generator()` drawing `replicaSetUuid` and
`create_repl_dev` answering `created`. -/
def createPg (state : HomeObjectState) (info : PgInfo) (replicaSetUuid : Uuid)
    (created : Except ReplServiceError Unit) : CreatePgResult :=
  if (state.pgMap.find info.id).isSome then .returned (.ok ()) else
  if info.size = 0 then .returned (.error .invalidArg) else
  let mostAvailNumChunks := state.chunkSelector.mostAvailNumChunks
  let chunkSize := state.chunkSelector.getChunkSize
  if chunkSize = 0 then .crashed else
  let neededNumChunks := roundDown info.size chunkSize / chunkSize
  if neededNumChunks.toNat > mostAvailNumChunks then .returned (.error .noSpaceLeft) else
  proposeCreatePg { info with chunkSize, replicaSetUuid } replicaSetUuid created

theorem uint64_toNat_mul (a b : UInt64) : (a * b).toNat = a.toNat * b.toNat % 2 ^ 64 := rfl

theorem toNat_roundDown_div (value multiple : UInt64) (positive : multiple ≠ 0) :
    (roundDown value multiple / multiple).toNat = value.toNat / multiple.toNat := by
  have small : value.toNat < 2 ^ 64 := value.toNat_lt_size
  have pos : 0 < multiple.toNat :=
    Nat.pos_of_ne_zero fun zero => positive (UInt64.toNat.inj (by rw [zero]; rfl))
  rw [roundDown, UInt64.toNat_div, uint64_toNat_mul, UInt64.toNat_div,
    Nat.mod_eq_of_lt (lt_of_le_of_lt (Nat.div_mul_le_self _ _) small), Nat.mul_div_cancel _ pos]

/-- **The capacity check**: for a PG that is not there, of non-zero size, with a non-zero chunk
size, `_create_pg` returns `NO_SPACE_LEFT` exactly when `⌊size / chunk_size⌋` chunks exceed the
most-available device, and otherwise goes on to `create_repl_dev` with the chunk size and the
new group filled in. -/
theorem createPg_noSpaceLeft_iff {state : HomeObjectState} {info : PgInfo}
    (absent : state.pgMap.find info.id = none) (sized : info.size ≠ 0)
    (chunkSized : state.chunkSelector.chunkSize ≠ 0) (replicaSetUuid : Uuid)
    (created : Except ReplServiceError Unit) :
    (createPg state info replicaSetUuid created = .returned (.error .noSpaceLeft) ↔
        state.chunkSelector.mostAvailNumChunks <
          info.size.toNat / state.chunkSelector.chunkSize.toNat) ∧
      (info.size.toNat / state.chunkSelector.chunkSize.toNat ≤
          state.chunkSelector.mostAvailNumChunks →
        createPg state info replicaSetUuid created =
          proposeCreatePg { info with chunkSize := state.chunkSelector.chunkSize, replicaSetUuid }
            replicaSetUuid created) := by
  have needed := toNat_roundDown_div info.size state.chunkSelector.chunkSize chunkSized
  have notProposal : ∀ info' uuid, proposeCreatePg info' uuid created ≠
      .returned (.error .noSpaceLeft) := by
    intro info' uuid
    unfold proposeCreatePg
    split
    · nofun
    · split <;> nofun
  simp only [createPg, absent, Option.isSome_none, Bool.false_eq_true, if_false, sized,
    HeapChunkSelector.getChunkSize, chunkSized, needed, gt_iff_lt]
  constructor
  · by_cases over : state.chunkSelector.mostAvailNumChunks <
        info.size.toNat / state.chunkSelector.chunkSize.toNat
    · simp only [over, if_true]
    · simp only [over, if_false, iff_false]
      exact notProposal _ _
  · intro within
    rw [if_neg (Nat.not_lt.mpr within)]

theorem createPg_noSpaceLeft_iff_twoChunks :
    let state : HomeObjectState := ⟨.empty, [], ⟨2, [[0]], []⟩, [], []⟩
    let info : PgInfo := { PgInfo.ofId 1 with size := 4 }
    (state.pgMap.find info.id = none ∧ info.size ≠ 0 ∧ state.chunkSelector.chunkSize ≠ 0) ∧
      (createPg state info .nil (.ok ()) = .returned (.error .noSpaceLeft) ↔
          state.chunkSelector.mostAvailNumChunks <
            info.size.toNat / state.chunkSelector.chunkSize.toNat) ∧
        (info.size.toNat / state.chunkSelector.chunkSize.toNat ≤
            state.chunkSelector.mostAvailNumChunks →
          createPg state info .nil (.ok ()) = proposeCreatePg
            { info with chunkSize := state.chunkSelector.chunkSize, replicaSetUuid := .nil }
            .nil (.ok ())) :=
  ⟨⟨rfl, by decide, by decide⟩, @createPg_noSpaceLeft_iff ⟨.empty, [], ⟨2, [[0]], []⟩, [], []⟩
    { PgInfo.ofId 1 with size := 4 } rfl (by decide) (by decide) .nil (.ok ())⟩

/-- A PG of one byte with chunks of two bytes and no free chunk: its byte does not fit in
`0 × 2` bytes, yet `_create_pg` does not return `NO_SPACE_LEFT` but asks for a group. -/
theorem createPg_sizeBelowChunk :
    0 * 2 < 1 ∧
      createPg ⟨.empty, [], ⟨2, [], []⟩, [], []⟩ { PgInfo.ofId 1 with size := 1 } .nil
          (.error .timeout) = .replDevFailed .timeout :=
  ⟨by decide, rfl⟩

/-! ## The whole creation -/

/-- What a proposal says about the leader's run: the group is the one drawn, and the entry is
`do_create_pg`'s for the `PGInfo` with the chunk size and group filled in. -/
theorem createPg_proposed {state : HomeObjectState} {info : PgInfo} {replicaSetUuid replDev : Uuid}
    {blob : Bytes} (proposed : createPg state info replicaSetUuid (.ok ()) = .proposed replDev blob) :
    replDev = replicaSetUuid ∧
      doCreatePg { info with chunkSize := state.chunkSelector.chunkSize, replicaSetUuid } =
        .ok blob := by
  unfold createPg at proposed
  split at proposed
  · cases proposed
  split at proposed
  · cases proposed
  dsimp only at proposed
  split at proposed
  · cases proposed
  split at proposed
  · cases proposed
  simp only [proposeCreatePg, HeapChunkSelector.getChunkSize] at proposed
  split at proposed
  · cases proposed
  · rename_i built
    cases proposed
    exact ⟨rfl, built⟩

/-- **A proposed creation is committed as the leader filled it in**: when `_create_pg` proposes
an entry for a `PGInfo` whose member names are UTF-8, a replica without the PG, with the leader's
chunk size, with chunks to reserve and a fresh index-table uuid, committing it in the new group
creates the PG with that `PGInfo`, its chunk size and group set, and replies success. -/
theorem createPg_commit {leader replica : HomeObjectState} {info : PgInfo} {replicaSetUuid : Uuid}
    {replDev : Uuid} {blob : Bytes}
    (validNames : ∀ member ∈ info.members.toList, Json.validUtf8 member.name = true)
    (proposed : createPg leader info replicaSetUuid (.ok ()) = .proposed replDev blob)
    (absent : replica.pgMap.find info.id = none)
    (sameChunkSize : replica.chunkSelector.chunkSize = leader.chunkSelector.chunkSize)
    {count : Nat} {selector : HeapChunkSelector}
    (selected : replica.chunkSelector.selectChunksForPg info.id info.size = some (count, selector))
    {indexTable : Uuid} (free : replica.indexTablePgMap.lookup indexTable.toString = none)
    (fresh : Bytes) :
    replDev = replicaSetUuid ∧ ∃ chunks, selector.getPgChunks info.id = some chunks ∧
      onCreatePgMessageCommit replica blob replDev indexTable fresh =
        .replied (.ok ()) (createdState replica
          { info with chunkSize := leader.chunkSelector.chunkSize, replicaSetUuid } replDev
          indexTable selector chunks fresh) := by
  obtain ⟨sameGroup, built⟩ := createPg_proposed proposed
  subst sameGroup
  obtain ⟨chunks, reserved, -⟩ := HeapChunkSelector.getPgChunks_select_self selected
  exact ⟨rfl, chunks, reserved, @onCreatePgMessageCommit_doCreatePg _
    { info with chunkSize := leader.chunkSelector.chunkSize, replicaSetUuid := replDev } _ _ _ _ _ _
    validNames built absent sameChunkSize.symm selected reserved free rfl fresh⟩

theorem createPg_commit_onePg :
    let leader : HomeObjectState := ⟨.empty, [], ⟨1, [[0]], []⟩, [], []⟩
    let info : PgInfo := { PgInfo.ofId 1 with size := 1 }
    let blob :=
      (doCreatePg { info with chunkSize := 1, replicaSetUuid := Uuid.ofNat 5 }).toOption.getD []
    let selector : HeapChunkSelector := ⟨1, [[]], [(1, [0])]⟩
    ((∀ member ∈ info.members.toList, Json.validUtf8 member.name = true) ∧
      createPg leader info (Uuid.ofNat 5) (.ok ()) = .proposed (Uuid.ofNat 5) blob ∧
      leader.pgMap.find info.id = none ∧
      leader.chunkSelector.chunkSize = leader.chunkSelector.chunkSize ∧
      leader.chunkSelector.selectChunksForPg info.id info.size = some (1, selector) ∧
      leader.indexTablePgMap.lookup (Uuid.ofNat 6).toString = none) ∧
    Uuid.ofNat 5 = Uuid.ofNat 5 ∧ ∃ chunks, selector.getPgChunks info.id = some chunks ∧
      onCreatePgMessageCommit leader blob (Uuid.ofNat 5) (Uuid.ofNat 6) [] =
        .replied (.ok ()) (createdState leader
          { info with chunkSize := leader.chunkSelector.chunkSize, replicaSetUuid := Uuid.ofNat 5 }
          (Uuid.ofNat 5) (Uuid.ofNat 6) selector chunks []) :=
  ⟨⟨(fun _ member => by cases member), rfl, rfl, rfl, rfl, rfl⟩,
    @createPg_commit ⟨.empty, [], ⟨1, [[0]], []⟩, [], []⟩ ⟨.empty, [], ⟨1, [[0]], []⟩, [], []⟩
      { PgInfo.ofId 1 with size := 1 } (Uuid.ofNat 5) (Uuid.ofNat 5)
      ((doCreatePg { PgInfo.ofId 1 with size := 1, chunkSize := 1, replicaSetUuid := Uuid.ofNat 5 }).toOption.getD
        [])
      (fun _ member => by cases member) rfl rfl rfl 1 ⟨1, [[]], [(1, [0])]⟩ rfl (Uuid.ofNat 6) rfl []⟩

end HomeObject
