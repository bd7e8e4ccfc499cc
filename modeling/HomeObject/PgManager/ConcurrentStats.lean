import HomeObject.PgManager.Queries

/-!
Contract: the statements of `on_pg_replace_member` and the reads of `_get_stats` that touch a PG,
and the runs that interleave them. Both take `_pg_lock` shared, and a shared holder never waits
for another.

Owns:
- `ReplacePc`, `ReplaceThread` and `replaceStep`: `on_pg_replace_member` statement by statement
  (`members.erase`, `members.emplace`, the superblock's member loop with `pg_sb_.write()`);
  `replaceSteps_run`: run alone, the statements are the handler;
- `StatsPc`, `StatsThread` and `statsStep`: the two reads `_get_stats` makes of the PG, the fields
  before its member loop, then the loop with the fields after it; `statsSteps_run`: run alone,
  they are the call;
- `Concurrent` and `ConcurrentStep`: any call runs its next statement.

Left out: `add_pg_to_map`, the one writer of `_pg_map` itself, which takes `_pg_lock` exclusively
and so runs between these calls, never inside one; and the lock, which orders none of the
statements modelled.

A `_get_stats` member loop that runs while `on_pg_replace_member` changes the same set is a data
race, which C++ leaves undefined. `statsStep` reads the set in one step, which the program does
not promise, so nothing is proved here of what such a read returns; a read changes no state, and
what is proved of the replacements is of the state they leave.
-/

set_option autoImplicit false

namespace HomeObject

open Superblock

/-! ## The handlers, statement by statement -/

def HsPg.withMembers (pg : HsPg) (members : MemberSet) : HsPg :=
  { pg with pgInfo := { pg.pgInfo with members } }

/-- `change` applied to the members of the PG under `key`, through the pointer `_pg_map` holds. -/
def changeMembers (state : HomeObjectState) (key : UInt16) (change : MemberSet → MemberSet) :
    HomeObjectState :=
  { state with pgMap := state.pgMap.modify key fun pg => pg.withMembers (change pg.pgInfo.members) }

/-- Where an `on_pg_replace_member(group_id, member_out, member_in)` call is. -/
inductive ReplacePc where
  /-- The loop over `_pg_map` for the PG of the group, and
  `members.erase(PGMember(member_out.id))`. -/
  | erase
  /-- `members.emplace(...)` of `member_in` into the PG under `key`. -/
  | emplace (key : UInt16)
  /-- The loop writing the members of the PG under `key` into its superblock, and
  `pg_sb_.write()`. -/
  | write (key : UInt16)
  /-- Returned. -/
  | done
deriving DecidableEq, Repr

structure ReplaceThread where
  groupId : Uuid
  memberOut : ReplicaMemberInfo
  memberIn : ReplicaMemberInfo
  pc : ReplacePc
deriving DecidableEq, Repr

/-- The next statement of `thread`. No statement removes a PG, so the PG under `key` is still
there when the call comes back to it. -/
def replaceStep (thread : ReplaceThread) (state : HomeObjectState) :
    ReplaceThread × HomeObjectState :=
  match thread.pc with
  | .erase =>
    match replaceTarget state thread.groupId with
    | none => ({ thread with pc := .done }, state)
    | some (key, _) =>
      ({ thread with pc := .emplace key }, changeMembers state key (·.erase thread.memberOut.id))
  | .emplace key =>
    ({ thread with pc := .write key }, changeMembers state key
      (·.emplace ⟨thread.memberIn.id, thread.memberIn.name, thread.memberIn.priority⟩))
  | .write key =>
    match state.pgMap.find key with
    | none => ({ thread with pc := .done }, state)
    | some pg => ({ thread with pc := .done }, { state with
        metaBlks := state.metaBlks.modify (·.rewriteMembers pg.pgInfo.members.toList) pg.pgSb })
  | .done => (thread, state)

/-- Where a `_get_stats(id, stats)` call is. -/
inductive StatsPc where
  /-- `_pg_map.find(id)`, and the fields set before the member loop. -/
  | find
  /-- The member loop and the fields after it, `header` being the stats set so far. -/
  | members (header : PGStats)
  /-- Returned `found`, the caller's stats now `stats`. -/
  | done (found : Bool) (stats : PGStats)
deriving DecidableEq, Repr

structure StatsThread where
  id : UInt16
  stats : PGStats
  pc : StatsPc
deriving DecidableEq, Repr

/-- The next read of `thread`. `hs_pg` points into `_pg_map`, so the member loop reads the PG as it
is then, in one step; alongside a replacement of the same PG's members the program's loop is a
data race instead. -/
def statsStep (sources : StatsSources) (thread : StatsThread) (state : HomeObjectState) :
    StatsThread :=
  match thread.pc with
  | .find =>
    match state.pgMap.find thread.id with
    | none => { thread with pc := .done false thread.stats }
    | some pg => { thread with pc := .members (statsHeader sources pg thread.stats) }
  | .members header =>
    match state.pgMap.find thread.id with
    | none => { thread with pc := .done true header }
    | some pg => { thread with pc := .done true (statsTail sources pg header) }
  | .done .. => thread

@[simp]
theorem withMembers_members (pg : HsPg) (members : MemberSet) :
    (pg.withMembers members).pgInfo.members = members := rfl

@[simp]
theorem withMembers_withMembers (pg : HsPg) (members members' : MemberSet) :
    (pg.withMembers members).withMembers members' = pg.withMembers members' := rfl

@[simp]
theorem withMembers_pgSb (pg : HsPg) (members : MemberSet) :
    (pg.withMembers members).pgSb = pg.pgSb := rfl

theorem statsSteps_run (sources : StatsSources) (state : HomeObjectState) (id : UInt16)
    (stats : PGStats) :
    statsStep sources (statsStep sources ⟨id, stats, .find⟩ state) state =
      ⟨id, stats, .done (getStats state sources id stats).1 (getStats state sources id stats).2⟩ := by
  rcases found : state.pgMap.find id with _ | pg <;> simp [statsStep, getStats, statsOf, found]

theorem replaceSteps_run (state : HomeObjectState) (groupId : Uuid)
    (memberOut memberIn : ReplicaMemberInfo) :
    (fun run : ReplaceThread × HomeObjectState => replaceStep run.1 run.2)^[3]
        (⟨groupId, memberOut, memberIn, .erase⟩, state) =
      (⟨groupId, memberOut, memberIn, .done⟩, onPgReplaceMember state groupId memberOut memberIn) := by
  rcases target : replaceTarget state groupId with _ | ⟨key, pg⟩
  · simp [replaceStep, target, onPgReplaceMember]
  · have present := (find_of_replaceTarget target).1
    have replaced : ((changeMembers (changeMembers state key (·.erase memberOut.id)) key
        (·.emplace ⟨memberIn.id, memberIn.name, memberIn.priority⟩)).pgMap.find key) =
        some (pg.withMembers (replacedMembers pg.pgInfo.members memberOut memberIn)) := by
      simp [changeMembers, PgMap.find_modify, present, replacedMembers]
    simp only [Function.iterate_succ, Function.iterate_zero, Function.comp_apply, id, replaceStep,
      target, replaced, onPgReplaceMember, withMembers_pgSb, withMembers_members, Prod.mk.injEq,
      true_and]
    congr 1
    refine PgMap.ext_find fun other => ?_
    by_cases isKey : other = key
    · subst isKey
      rw [replaced]
      simp [PgMap.find_modify, present, HsPg.withMembers]
    · simp [changeMembers, PgMap.find_modify, isKey]

/-! ## The interleaving -/

structure Concurrent where
  state : HomeObjectState
  writers : List ReplaceThread
  readers : List StatsThread

def Concurrent.start (state : HomeObjectState) (writers : List ReplaceThread)
    (readers : List StatsThread) : Concurrent :=
  ⟨state, writers, readers⟩

inductive ConcurrentStep (sources : StatsSources) : Concurrent → Concurrent → Prop where
  | writer {config : Concurrent} {index : Nat} {thread : ReplaceThread}
      (picked : config.writers[index]? = some thread) :
      ConcurrentStep sources config ⟨(replaceStep thread config.state).2,
        config.writers.set index (replaceStep thread config.state).1, config.readers⟩
  | reader {config : Concurrent} {index : Nat} {thread : StatsThread}
      (picked : config.readers[index]? = some thread) :
      ConcurrentStep sources config
        { config with readers := config.readers.set index (statsStep sources thread config.state) }

end HomeObject
