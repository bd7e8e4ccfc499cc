import HomeObject.PgManager.ConcurrentStats

/-!
Contract: `on_pg_replace_member` calls for different groups running at once. Each takes
`_pg_lock` shared, changes the members of the PG of its group through the pointer `_pg_map` holds,
then rewrites and writes that PG's superblock.

Owns:
- `ReplaceThread.membersAfter` and `ReplaceThread.Applied`: what a call has done so far to the PG
  of its group and to that PG's superblock; `applied_replaceStep`: one statement of the call
  carries it on;
- `replaceStep_find_of_ne` and `replaceStep_metaBlk_of_ne`: a statement of one call leaves every
  other PG and every other superblock as it was;
- `Replacing`, kept by every step of a run (`Replacing.step`);
- `concurrent_replaceMembers`: once every call has returned, each has replaced the members of the
  PG of its group and rewritten that PG's superblock, and nothing else has changed, so no call's
  update is lost;
- `serial_run` and `Replacing.state_eq`: the calls run one after another are a run too, and two
  finished runs through the same calls end in one state, whence
  `concurrent_replaceMembers_serializable`: every interleaving ends as the calls made in sequence,
  in any order, and `concurrent_replaceMembers_lifecycle`: in a state of the replica's life.

Calls for one group do not run at once: the replication service applies a group's log in order.
The results that describe the state reached are for runs with no `_get_stats` call alongside,
whose member loop would race with the replacements (see `HomeObject.statsStep`); the replica's
life is kept with such calls too, since no read changes the state. Each call replaces a present
member by an absent one, so a PG keeps its member count and the member loop stays within the
superblock's slots (`Superblock.PgInfoSuperblk.rewriteMembers`).
-/

set_option autoImplicit false

namespace HomeObject

open Superblock

/-! ## What a call has done -/

def ReplaceThread.request (thread : ReplaceThread) : Uuid × ReplicaMemberInfo × ReplicaMemberInfo :=
  (thread.groupId, thread.memberOut, thread.memberIn)

/-- The members a call has left the PG of its group with, from `members`, by where it is. -/
def ReplaceThread.membersAfter (thread : ReplaceThread) (members : MemberSet) : MemberSet :=
  match thread.pc with
  | .erase => members
  | .emplace _ => members.erase thread.memberOut.id
  | .write _ | .done => replacedMembers members thread.memberOut thread.memberIn

/-- What the call `thread` has done in `state` to the PG of its group, `pg` under `key` in
`origin`: the members so far, and the superblock rewritten once the call has returned. -/
structure ReplaceThread.Applied (origin state : HomeObjectState) (thread : ReplaceThread) :
    Prop where
  busy : ∀ key, thread.pc = .emplace key ∨ thread.pc = .write key →
    ∃ pg, replaceTarget origin thread.groupId = some (key, pg)
  members : ∀ key pg, replaceTarget origin thread.groupId = some (key, pg) →
    state.pgMap.find key = some (pg.withMembers (thread.membersAfter pg.pgInfo.members))
  superblock : ∀ key pg, replaceTarget origin thread.groupId = some (key, pg) →
    state.metaBlks[pg.pgSb]? = origin.metaBlks[pg.pgSb]?.map fun sb =>
      if thread.pc = .done then sb.rewriteMembers (thread.membersAfter pg.pgInfo.members).toList
      else sb

@[simp]
theorem withMembers_self (pg : HsPg) : pg.withMembers pg.pgInfo.members = pg := rfl

theorem request_replaceStep (thread : ReplaceThread) (state : HomeObjectState) :
    (replaceStep thread state).1.request = thread.request := by
  unfold replaceStep
  split
  · split <;> rfl
  · rfl
  · split <;> rfl
  · rfl

theorem groupId_replaceStep (thread : ReplaceThread) (state : HomeObjectState) :
    (replaceStep thread state).1.groupId = thread.groupId :=
  congrArg Prod.fst (request_replaceStep thread state)

theorem replaceStep_rest (thread : ReplaceThread) (state : HomeObjectState) :
    (replaceStep thread state).2.indexTablePgMap = state.indexTablePgMap ∧
      (replaceStep thread state).2.chunkSelector = state.chunkSelector ∧
      (replaceStep thread state).2.indexTables = state.indexTables := by
  unfold replaceStep
  split
  · split <;> exact ⟨rfl, rfl, rfl⟩
  · exact ⟨rfl, rfl, rfl⟩
  · split <;> exact ⟨rfl, rfl, rfl⟩
  · exact ⟨rfl, rfl, rfl⟩

theorem replaceTarget_changeMembers (state : HomeObjectState) (key : UInt16)
    (change : MemberSet → MemberSet) (groupId : Uuid) :
    (replaceTarget (changeMembers state key change) groupId).map Prod.fst =
      (replaceTarget state groupId).map Prod.fst := by
  have sameGroup : ∀ entry : UInt16 × HsPg, ((if entry.1 = key then
      (entry.1, entry.2.withMembers (change entry.2.pgInfo.members)) else entry).2.replDev ==
        groupId) = (entry.2.replDev == groupId) := fun entry => by
    by_cases isKey : entry.1 = key <;> simp [isKey, HsPg.withMembers]
  have sameKey : ∀ entry : UInt16 × HsPg, (if entry.1 = key then
      (entry.1, entry.2.withMembers (change entry.2.pgInfo.members)) else entry).1 = entry.1 :=
    fun entry => by by_cases isKey : entry.1 = key <;> simp [isKey]
  simp only [replaceTarget, changeMembers, PgMap.modify, List.find?_map, Option.map_map,
    Function.comp_def, sameGroup, sameKey]

theorem replaceTarget_replaceStep (thread : ReplaceThread) (state : HomeObjectState)
    (groupId : Uuid) :
    (replaceTarget (replaceStep thread state).2 groupId).map Prod.fst =
      (replaceTarget state groupId).map Prod.fst := by
  unfold replaceStep
  split
  · split
    · rfl
    · exact replaceTarget_changeMembers _ _ _ _
  · exact replaceTarget_changeMembers _ _ _ _
  · split <;> rfl
  · rfl

theorem group_eq_of_replaceTarget {state : HomeObjectState} {groupId groupId' : Uuid}
    {key : UInt16} {pg pg' : HsPg} (target : replaceTarget state groupId = some (key, pg))
    (target' : replaceTarget state groupId' = some (key, pg')) : groupId = groupId' := by
  obtain ⟨found, rfl⟩ := find_of_replaceTarget target
  obtain ⟨found', rfl⟩ := find_of_replaceTarget target'
  rw [Option.some.inj (found.symm.trans found')]

theorem replaceTarget_onPgReplaceMember_of_ne {state : HomeObjectState} {groupId groupId' : Uuid}
    {memberOut memberIn : ReplicaMemberInfo} (different : groupId ≠ groupId') :
    replaceTarget (onPgReplaceMember state groupId' memberOut memberIn) groupId =
      replaceTarget state groupId := by
  rcases target' : replaceTarget state groupId' with _ | ⟨key', pg'⟩
  · simp [onPgReplaceMember, target']
  simp only [onPgReplaceMember, target']
  rw [replaceTarget_modify state key' (fun pg => { pg with pgInfo := { pg.pgInfo with
    members := replacedMembers pg'.pgInfo.members memberOut memberIn } }) (fun _ => rfl)]
  rcases target : replaceTarget state groupId with _ | ⟨key, pg⟩
  · rfl
  have apart : key ≠ key' := fun same => different (group_eq_of_replaceTarget target (same ▸ target'))
  simp [apart]

theorem target_of_targets {origin state : HomeObjectState} {groupId : Uuid}
    (targets : (replaceTarget state groupId).map Prod.fst =
      (replaceTarget origin groupId).map Prod.fst)
    {key : UInt16} {pg : HsPg} (target : replaceTarget state groupId = some (key, pg)) :
    ∃ pg₀, replaceTarget origin groupId = some (key, pg₀) := by
  rw [target, Option.map_some'] at targets
  obtain ⟨⟨key', pg₀⟩, target₀, same⟩ := Option.map_eq_some'.mp targets.symm
  exact ⟨pg₀, by rw [target₀, show key' = key from same]⟩

/-! ## One statement -/

section Step

variable {origin state : HomeObjectState} {thread : ReplaceThread}
  (applied : thread.Applied origin state)
  (targets : (replaceTarget state thread.groupId).map Prod.fst =
    (replaceTarget origin thread.groupId).map Prod.fst)
include applied targets

/-- **A statement of a call changes no PG but the one of its group.** -/
theorem replaceStep_find_of_ne {key : UInt16}
    (other : (replaceTarget origin thread.groupId).map Prod.fst ≠ some key) :
    (replaceStep thread state).2.pgMap.find key = state.pgMap.find key := by
  have elsewhere : ∀ key' pg₀, replaceTarget origin thread.groupId = some (key', pg₀) →
      key ≠ key' := fun key' pg₀ target₀ same => other (by rw [target₀, same]; rfl)
  unfold replaceStep
  split
  · split
    · rfl
    · obtain ⟨pg₀, target₀⟩ := target_of_targets targets ‹_›
      simp [changeMembers, PgMap.find_modify, elsewhere _ _ target₀]
  · obtain ⟨pg₀, target₀⟩ := applied.busy _ (.inl ‹_›)
    simp [changeMembers, PgMap.find_modify, elsewhere _ _ target₀]
  · split <;> rfl
  · rfl

omit targets in
/-- **A statement of a call changes no superblock but the one of the PG of its group.** -/
theorem replaceStep_metaBlk_of_ne {index : Nat}
    (other : ∀ key pg, replaceTarget origin thread.groupId = some (key, pg) → pg.pgSb ≠ index) :
    (replaceStep thread state).2.metaBlks[index]? = state.metaBlks[index]? := by
  unfold replaceStep
  split
  · split <;> rfl
  · rfl
  · rename_i key writing
    split
    · rfl
    · rename_i pg found
      obtain ⟨pg₀, target₀⟩ := applied.busy key (.inr writing)
      rw [applied.members key pg₀ target₀, Option.some_inj] at found
      subst found
      simp [List.getElem?_modify, other key pg₀ target₀]
  · rfl

/-- **One statement carries the call on**: the members of the PG of its group one change further,
and its superblock rewritten by the statement that writes it. -/
theorem applied_replaceStep :
    (replaceStep thread state).1.Applied origin (replaceStep thread state).2 := by
  obtain ⟨groupId, memberOut, memberIn, pc⟩ := thread
  have unique : ∀ {key key' : UInt16} {pg pg' : HsPg},
      replaceTarget origin groupId = some (key, pg) → replaceTarget origin groupId = some (key', pg') →
      key = key' ∧ pg = pg' := fun target target' => by
    simpa using target.symm.trans target'
  cases pc with
  | erase =>
    simp only [replaceStep]
    split
    · rename_i none
      rw [none] at targets
      refine ⟨fun _ busy => by simp at busy, fun _ _ target => ?_, fun _ _ target => ?_⟩ <;>
        simp [target] at targets
    · rename_i key pg target
      obtain ⟨pg₀, target₀⟩ := target_of_targets targets target
      refine ⟨fun _ busy => ?_, fun key' pg' target' => ?_, fun key' pg' target' => ?_⟩
      · simp only [ReplacePc.emplace.injEq, or_false, reduceCtorEq] at busy
        exact ⟨pg₀, busy ▸ target₀⟩
      · obtain ⟨rfl, rfl⟩ := unique target₀ target'
        simp [changeMembers, PgMap.find_modify, applied.members key pg₀ target₀,
          ReplaceThread.membersAfter]
      · obtain ⟨rfl, rfl⟩ := unique target₀ target'
        simpa [changeMembers] using applied.superblock key pg₀ target₀
  | emplace key =>
    obtain ⟨pg₀, target₀⟩ := applied.busy key (.inl rfl)
    simp only [replaceStep]
    refine ⟨fun _ busy => ?_, fun key' pg' target' => ?_, fun key' pg' target' => ?_⟩
    · simp only [ReplacePc.write.injEq, false_or, reduceCtorEq] at busy
      exact ⟨pg₀, busy ▸ target₀⟩
    · obtain ⟨rfl, rfl⟩ := unique target₀ target'
      simp [replaceStep, changeMembers, PgMap.find_modify, applied.members key pg₀ target₀,
        ReplaceThread.membersAfter, replacedMembers]
    · obtain ⟨rfl, rfl⟩ := unique target₀ target'
      simpa [replaceStep, changeMembers] using applied.superblock key pg₀ target₀
  | write key =>
    obtain ⟨pg₀, target₀⟩ := applied.busy key (.inr rfl)
    have found := applied.members key pg₀ target₀
    simp only [replaceStep, found]
    refine ⟨fun _ busy => by simp at busy, fun key' pg' target' => ?_, fun key' pg' target' => ?_⟩
    · obtain ⟨rfl, rfl⟩ := unique target₀ target'
      simp [replaceStep, found, ReplaceThread.membersAfter]
    · obtain ⟨rfl, rfl⟩ := unique target₀ target'
      simp [replaceStep, found, List.getElem?_modify, applied.superblock key pg₀ target₀,
        ReplaceThread.membersAfter, Option.map_map, Function.comp_def]
  | done => exact applied

end Step

theorem ReplaceThread.Applied.of_frame {origin state state' : HomeObjectState}
    {thread : ReplaceThread} (applied : thread.Applied origin state)
    (frame : ∀ key pg, replaceTarget origin thread.groupId = some (key, pg) →
      state'.pgMap.find key = state.pgMap.find key ∧
        state'.metaBlks[pg.pgSb]? = state.metaBlks[pg.pgSb]?) :
    thread.Applied origin state' :=
  ⟨applied.busy, fun key pg target => (frame key pg target).1.trans (applied.members key pg target),
    fun key pg target => (frame key pg target).2.trans (applied.superblock key pg target)⟩

/-! ## Along a run -/

/-- What holds all along a run of the calls `requests` from `origin`. -/
structure Replacing (origin : HomeObjectState) (requests : List ReplaceThread)
    (config : Concurrent) : Prop where
  sameRequests : config.writers.map ReplaceThread.request = requests.map ReplaceThread.request
  targets : ∀ groupId, (replaceTarget config.state groupId).map Prod.fst =
    (replaceTarget origin groupId).map Prod.fst
  applied : ∀ thread ∈ config.writers, thread.Applied origin config.state
  untouched : ∀ key, (∀ request ∈ requests,
    (replaceTarget origin request.groupId).map Prod.fst ≠ some key) →
    config.state.pgMap.find key = origin.pgMap.find key
  untouchedBlks : ∀ index, (∀ request ∈ requests, ∀ key pg,
    replaceTarget origin request.groupId = some (key, pg) → pg.pgSb ≠ index) →
    config.state.metaBlks[index]? = origin.metaBlks[index]?
  rest : config.state.indexTablePgMap = origin.indexTablePgMap ∧
    config.state.chunkSelector = origin.chunkSelector ∧ config.state.indexTables = origin.indexTables

section Run

variable {sources : StatsSources} {origin : HomeObjectState} {requests : List ReplaceThread}
  (groups : (requests.map ReplaceThread.groupId).Nodup)
  (separate : ∀ key other pg pg', origin.pgMap.find key = some pg →
    origin.pgMap.find other = some pg' → pg.pgSb = pg'.pgSb → key = other)

theorem Replacing.request_mem {config : Concurrent} (replacing : Replacing origin requests config)
    {thread : ReplaceThread} (listed : thread ∈ config.writers) :
    ∃ request ∈ requests, request.request = thread.request := by
  have inMap : thread.request ∈ requests.map ReplaceThread.request :=
    replacing.sameRequests ▸ List.mem_map_of_mem _ listed
  simpa using inMap

theorem Replacing.done {config : Concurrent} (replacing : Replacing origin requests config)
    (returned : ∀ writer ∈ config.writers, writer.pc = .done) {request : ReplaceThread}
    (requested : request ∈ requests) {key : UInt16} {pg : HsPg}
    (target : replaceTarget origin request.groupId = some (key, pg)) :
    config.state.pgMap.find key = some (pg.withMembers
        (replacedMembers pg.pgInfo.members request.memberOut request.memberIn)) ∧
      config.state.metaBlks[pg.pgSb]? = origin.metaBlks[pg.pgSb]?.map
        (·.rewriteMembers
          (replacedMembers pg.pgInfo.members request.memberOut request.memberIn).toList) := by
  obtain ⟨thread, listed, sameRequest⟩ : ∃ thread ∈ config.writers,
      thread.request = request.request := by
    have inMap : request.request ∈ config.writers.map ReplaceThread.request :=
      replacing.sameRequests ▸ List.mem_map_of_mem _ requested
    simpa using inMap
  obtain ⟨sameGroup, sameOut, sameIn⟩ : thread.groupId = request.groupId ∧
      thread.memberOut = request.memberOut ∧ thread.memberIn = request.memberIn := by
    simpa [ReplaceThread.request] using sameRequest
  have applied := replacing.applied thread listed
  have finished := returned thread listed
  rw [← sameGroup] at target
  exact ⟨by simpa [ReplaceThread.membersAfter, finished, sameOut, sameIn] using
      applied.members key pg target,
    by simpa [ReplaceThread.membersAfter, finished, sameOut, sameIn] using
      applied.superblock key pg target⟩

theorem HomeObjectState.ext_fields {state state' : HomeObjectState}
    (pgMap : state.pgMap = state'.pgMap)
    (tableMap : state.indexTablePgMap = state'.indexTablePgMap)
    (selector : state.chunkSelector = state'.chunkSelector)
    (metaBlks : state.metaBlks = state'.metaBlks)
    (indexTables : state.indexTables = state'.indexTables) : state = state' := by
  cases state
  cases state'
  simp only at pgMap tableMap selector metaBlks indexTables
  subst pgMap tableMap selector metaBlks indexTables
  rfl

/-- **Two runs through the same requests that have both returned end in one state**: what
`Replacing` says of a finished run fixes every PG, every superblock and every other field. -/
theorem Replacing.state_eq {requests' : List ReplaceThread} {config config' : Concurrent}
    (replacing : Replacing origin requests config) (replacing' : Replacing origin requests' config')
    (same : ∀ request, request ∈ requests ↔ request ∈ requests')
    (returned : ∀ writer ∈ config.writers, writer.pc = .done)
    (returned' : ∀ writer ∈ config'.writers, writer.pc = .done) : config.state = config'.state := by
  have pgMap : config.state.pgMap = config'.state.pgMap := PgMap.ext_find fun key => by
    by_cases touched :
        ∃ request ∈ requests, ∃ pg, replaceTarget origin request.groupId = some (key, pg)
    · obtain ⟨request, requested, pg, target⟩ := touched
      rw [(replacing.done returned requested target).1,
        (replacing'.done returned' ((same request).mp requested) target).1]
    · have untouched : ∀ request ∈ requests, (replaceTarget origin request.groupId).map Prod.fst ≠
          some key := fun request requested picks => by
        obtain ⟨⟨_, pg⟩, target, rfl⟩ := Option.map_eq_some'.mp picks
        exact touched ⟨request, requested, pg, target⟩
      rw [replacing.untouched key untouched,
        replacing'.untouched key fun request requested =>
          untouched request ((same request).mpr requested)]
  have metaBlks : config.state.metaBlks = config'.state.metaBlks :=
    List.ext_getElem? fun index => by
    by_cases touched : ∃ request ∈ requests, ∃ key pg,
        replaceTarget origin request.groupId = some (key, pg) ∧ pg.pgSb = index
    · obtain ⟨request, requested, key, pg, target, rfl⟩ := touched
      rw [(replacing.done returned requested target).2,
        (replacing'.done returned' ((same request).mp requested) target).2]
    · have untouched : ∀ request ∈ requests, ∀ key pg,
          replaceTarget origin request.groupId = some (key, pg) → pg.pgSb ≠ index :=
        fun request requested key pg target sameSb =>
          touched ⟨request, requested, key, pg, target, sameSb⟩
      rw [replacing.untouchedBlks index untouched, replacing'.untouchedBlks index
        fun request requested => untouched request ((same request).mpr requested)]
  exact HomeObjectState.ext_fields pgMap (replacing.rest.1.trans replacing'.rest.1.symm)
    (replacing.rest.2.1.trans replacing'.rest.2.1.symm) metaBlks
    (replacing.rest.2.2.trans replacing'.rest.2.2.symm)

include groups separate

theorem Replacing.step {config config' : Concurrent} (replacing : Replacing origin requests config)
    (step : ConcurrentStep sources config config') : Replacing origin requests config' := by
  cases step with
  | reader => exact ⟨replacing.sameRequests, replacing.targets, replacing.applied,
      replacing.untouched, replacing.untouchedBlks, replacing.rest⟩
  | @writer index thread picked =>
    have listed : thread ∈ config.writers := List.getElem?_mem picked
    have applied := replacing.applied thread listed
    have targets := replacing.targets thread.groupId
    have sameRequests : (config.writers.set index (replaceStep thread config.state).1).map
        ReplaceThread.request = requests.map ReplaceThread.request := by
      rw [List.map_set, request_replaceStep, ← replacing.sameRequests]
      refine List.ext_getElem? fun position => ?_
      by_cases here : index = position
      · subst here
        simp [List.getElem?_set, picked, (List.getElem?_eq_some_iff.mp picked).1,
          (List.getElem?_eq_some_iff.mp picked).2]
      · simp [List.getElem?_set, here]
    have others : ∀ request ∈ requests, request.groupId ≠ thread.groupId →
        ∀ key pg, replaceTarget origin request.groupId = some (key, pg) →
        ∀ key' pg', replaceTarget origin thread.groupId = some (key', pg') →
          key ≠ key' ∧ pg.pgSb ≠ pg'.pgSb := by
      intro request _ differs key pg target key' pg' target'
      have distinctKeys : key ≠ key' := fun same =>
        differs (group_eq_of_replaceTarget target (same ▸ target'))
      exact ⟨distinctKeys, fun sameSb => distinctKeys (separate key key' pg pg'
        (find_of_replaceTarget target).1 (find_of_replaceTarget target').1 sameSb)⟩
    obtain ⟨request, requested, sameRequest⟩ := replacing.request_mem listed
    have ownGroup : request.groupId = thread.groupId := congrArg Prod.fst sameRequest
    refine ⟨sameRequests, fun groupId => (replaceTarget_replaceStep _ _ _).trans
      (replacing.targets groupId), fun other listed' => ?_, fun key untouched => ?_,
      fun index untouched => ?_, ?_⟩
    · by_cases sameGroup : other.groupId = thread.groupId
      · have groups' : ((config.writers.set index (replaceStep thread config.state).1).map
            ReplaceThread.groupId).Nodup := by
          have := congrArg (List.map Prod.fst) sameRequests
          simp only [List.map_map] at this
          exact (show ReplaceThread.groupId = Prod.fst ∘ ReplaceThread.request from rfl) ▸
            this ▸ groups
        have own : (replaceStep thread config.state).1 ∈
            config.writers.set index (replaceStep thread config.state).1 :=
          List.mem_set _ _ (List.getElem?_eq_some_iff.mp picked).1 _
        obtain rfl := List.inj_on_of_nodup_map groups' listed' own
          (sameGroup.trans (groupId_replaceStep thread config.state).symm)
        exact applied_replaceStep applied targets
      · have before : other ∈ config.writers := by
          rcases List.mem_or_eq_of_mem_set listed' with before | rfl
          · exact before
          · exact absurd (groupId_replaceStep thread config.state) sameGroup
        obtain ⟨otherRequest, otherRequested, sameOther⟩ := replacing.request_mem before
        have otherGroup : otherRequest.groupId = other.groupId := congrArg Prod.fst sameOther
        refine (replacing.applied other before).of_frame fun key pg target => ?_
        have apart := others otherRequest otherRequested (otherGroup ▸ sameGroup) key pg
          (otherGroup ▸ target)
        refine ⟨replaceStep_find_of_ne applied targets fun picksKey => ?_,
          replaceStep_metaBlk_of_ne applied fun key' pg' target' => (apart key' pg' target').2.symm⟩
        obtain ⟨⟨key', pg'⟩, target', rfl⟩ := Option.map_eq_some'.mp picksKey
        exact (apart key' pg' target').1 rfl
    · rw [replaceStep_find_of_ne applied targets (ownGroup ▸ untouched request requested)]
      exact replacing.untouched key untouched
    · rw [replaceStep_metaBlk_of_ne applied (ownGroup ▸ untouched request requested)]
      exact replacing.untouchedBlks index untouched
    · obtain ⟨tables, selector, indexTables⟩ := replaceStep_rest thread config.state
      exact ⟨tables.trans replacing.rest.1, selector.trans replacing.rest.2.1,
        indexTables.trans replacing.rest.2.2⟩

theorem replacing_run {readers : List StatsThread} {config : Concurrent}
    (starting : ∀ request ∈ requests, request.pc = .erase)
    (run : Relation.ReflTransGen (ConcurrentStep sources) (.start origin requests readers) config) :
    Replacing origin requests config := by
  induction run with
  | refl =>
    refine ⟨rfl, fun _ => rfl, fun thread listed => ?_, fun _ _ => rfl, fun _ _ => rfl,
      rfl, rfl, rfl⟩
    have erasing := starting thread listed
    refine ⟨fun key busy => by simp [erasing] at busy, fun key pg target => ?_,
      fun key pg target => ?_⟩
    · simp [ReplaceThread.membersAfter, erasing, Concurrent.start, (find_of_replaceTarget target).1]
    · simp [erasing, Concurrent.start]
  | tail _ step replacing => exact replacing.step groups separate step

end Run

/-! ## Serial runs -/

theorem writer_iterate (sources : StatsSources) {config : Concurrent} {index : Nat}
    {thread : ReplaceThread} (picked : config.writers[index]? = some thread) (count : Nat) :
    Relation.ReflTransGen (ConcurrentStep sources) config
      ⟨((fun run : ReplaceThread × HomeObjectState => replaceStep run.1 run.2)^[count + 1]
          (thread, config.state)).2,
        config.writers.set index ((fun run : ReplaceThread × HomeObjectState =>
          replaceStep run.1 run.2)^[count + 1] (thread, config.state)).1,
        config.readers⟩ := by
  induction count with
  | zero => exact .single (.writer picked)
  | succ count inductionHypothesis =>
    have bound : index < config.writers.length := (List.getElem?_eq_some_iff.mp picked).1
    rw [Function.iterate_succ_apply']
    generalize (fun run : ReplaceThread × HomeObjectState => replaceStep run.1 run.2)^[count + 1]
      (thread, config.state) = now at inductionHypothesis ⊢
    obtain ⟨thread', state'⟩ := now
    have step := @ConcurrentStep.writer sources
      ⟨state', config.writers.set index thread', config.readers⟩ index thread'
      (List.getElem?_set_self (by simpa using bound))
    exact .tail inductionHypothesis (by simpa only [List.set_set] using step)

/-- **The calls run one after another**, each to its end, from `finished ++ pending`: the run
reaches the state the handlers give when called on `state` in the order of `pending`. -/
theorem serial_run (sources : StatsSources) (readers : List StatsThread) :
    ∀ (pending finished : List ReplaceThread) (state : HomeObjectState),
      (∀ writer ∈ pending, writer.pc = .erase) →
      Relation.ReflTransGen (ConcurrentStep sources) ⟨state, finished ++ pending, readers⟩
        ⟨pending.foldl (fun state writer =>
            onPgReplaceMember state writer.groupId writer.memberOut writer.memberIn) state,
          finished ++ pending.map ({ · with pc := .done }), readers⟩
  | [], _, _, _ => .refl
  | ⟨groupId, memberOut, memberIn, pc⟩ :: pending, finished, state, starting => by
    obtain rfl : pc = .erase := starting _ (List.mem_cons_self _ _)
    have alone := @writer_iterate sources
      ⟨state, finished ++ ⟨groupId, memberOut, memberIn, .erase⟩ :: pending, readers⟩
      finished.length ⟨groupId, memberOut, memberIn, .erase⟩
      (by rw [List.getElem?_append_right (Nat.le_refl _), Nat.sub_self, List.getElem?_cons_zero]) 2
    rw [replaceSteps_run] at alone
    have rest := serial_run sources readers pending
      (finished ++ [⟨groupId, memberOut, memberIn, .done⟩])
      (onPgReplaceMember state groupId memberOut memberIn)
      fun writer listed => starting writer (List.mem_cons_of_mem _ listed)
    refine alone.trans ?_
    simpa [List.set_append_right] using rest

/-- **Membership changes of different groups made one after another stay in a replica's life**,
each of a present member for an absent one in the state they start from. -/
theorem lifecycle_replaceSerial {state : HomeObjectState} (lived : Lifecycle state)
    {requests : List ReplaceThread} (groups : (requests.map ReplaceThread.groupId).Nodup)
    (change : ∀ request ∈ requests, ∀ key pg, replaceTarget state request.groupId = some (key, pg) →
      request.memberOut.id ∈ pg.pgInfo.members.ids ∧ request.memberIn.id ∉ pg.pgInfo.members.ids) :
    Lifecycle (requests.foldl (fun state request =>
      onPgReplaceMember state request.groupId request.memberOut request.memberIn) state) := by
  induction requests generalizing state with
  | nil => exact lived
  | cons request rest inductionHypothesis =>
    rw [List.map_cons, List.nodup_cons] at groups
    refine inductionHypothesis (lived.run (.single (.replace _ _ _
      (change request (List.mem_cons_self _ _))))) groups.2 fun other listed => ?_
    have different : other.groupId ≠ request.groupId := fun same =>
      groups.1 (same ▸ List.mem_map_of_mem _ listed)
    rw [replaceTarget_onPgReplaceMember_of_ne different]
    exact change other (List.mem_cons_of_mem _ listed)

/-- **Replacements in different groups lose no update**: in every interleaving of
`on_pg_replace_member` calls for pairwise different groups, each of a present member for an
absent one, from a state of a replica's life, once every call has returned the PG of each call's
group has the members the call makes of its members, as many as it had, and that PG's superblock
the member loop rerun on them; every other PG, every other superblock, the index-table map, the
chunk selector and the index tables are as they were. -/
theorem concurrent_replaceMembers (sources : StatsSources) {state : HomeObjectState}
    {writers : List ReplaceThread} {config : Concurrent}
    (lived : Lifecycle state) (groups : (writers.map ReplaceThread.groupId).Nodup)
    (starting : ∀ writer ∈ writers, writer.pc = .erase)
    (change : ∀ writer ∈ writers, ∀ key pg, replaceTarget state writer.groupId = some (key, pg) →
      writer.memberOut.id ∈ pg.pgInfo.members.ids ∧ writer.memberIn.id ∉ pg.pgInfo.members.ids)
    (run : Relation.ReflTransGen (ConcurrentStep sources) (.start state writers []) config)
    (returned : ∀ writer ∈ config.writers, writer.pc = .done) :
    (∀ writer ∈ writers, ∀ key pg, replaceTarget state writer.groupId = some (key, pg) →
      config.state.pgMap.find key = some (pg.withMembers
        (replacedMembers pg.pgInfo.members writer.memberOut writer.memberIn)) ∧
      (replacedMembers pg.pgInfo.members writer.memberOut writer.memberIn).size =
        pg.pgInfo.members.size ∧
      config.state.metaBlks[pg.pgSb]? = state.metaBlks[pg.pgSb]?.map
        (·.rewriteMembers (replacedMembers pg.pgInfo.members writer.memberOut writer.memberIn).toList)) ∧
    (∀ key, (∀ writer ∈ writers, (replaceTarget state writer.groupId).map Prod.fst ≠ some key) →
      config.state.pgMap.find key = state.pgMap.find key) ∧
    (∀ index, (∀ writer ∈ writers, ∀ key pg, replaceTarget state writer.groupId = some (key, pg) →
      pg.pgSb ≠ index) → config.state.metaBlks[index]? = state.metaBlks[index]?) ∧
    config.state.indexTablePgMap = state.indexTablePgMap ∧
    config.state.chunkSelector = state.chunkSelector ∧ config.state.indexTables = state.indexTables := by
  have replacing := replacing_run groups lived.inv.separate starting run
  refine ⟨fun writer requested key pg target => ?_, replacing.untouched, replacing.untouchedBlks,
    replacing.rest⟩
  obtain ⟨present, fresh⟩ := change writer requested key pg target
  obtain ⟨found, stored⟩ := replacing.done returned requested target
  exact ⟨found, size_replaced fresh present, stored⟩

def otherGroupInfo : PgInfo :=
  { PgInfo.ofId 2 with
    members := MemberSet.empty.emplace ⟨Uuid.ofNat 3, Json.ascii "c", Int32.zero⟩
    replicaSetUuid := Uuid.ofNat 5
    size := 1
    chunkSize := 1 }

def twoGroupsState : HomeObjectState :=
  createdState (createdState (.init 1 [[0, 1]]) oneMemberInfo .nil .nil ⟨1, [[1]], [(1, [0])]⟩ [0] [])
    otherGroupInfo (Uuid.ofNat 5) (Uuid.ofNat 1) ⟨1, [[]], [(2, [1]), (1, [0])]⟩ [1] []

theorem reachable_twoGroups : Reachable twoGroupsState :=
  @Reachable.createPg _ (@Reachable.createPg _ (.init 1 [[0, 1]] (by decide)) oneMemberInfo .nil .nil 1
    ⟨1, [[1]], [(1, [0])]⟩ [0] (by decide) rfl rfl rfl rfl rfl rfl []) otherGroupInfo (Uuid.ofNat 5)
    (Uuid.ofNat 1) 1 ⟨1, [[]], [(2, [1]), (1, [0])]⟩ [1] (by decide) rfl rfl rfl rfl rfl rfl []

def replaceAByB : ReplaceThread :=
  ⟨.nil, ⟨Uuid.ofNat 1, Json.ascii "a", Int32.zero, by decide⟩,
    ⟨Uuid.ofNat 2, Json.ascii "b", Int32.zero, by decide⟩, .erase⟩

def replaceCByD : ReplaceThread :=
  ⟨Uuid.ofNat 5, ⟨Uuid.ofNat 3, Json.ascii "c", Int32.zero, by decide⟩,
    ⟨Uuid.ofNat 4, Json.ascii "d", Int32.zero, by decide⟩, .erase⟩

theorem twoGroups_change : ∀ writer ∈ [replaceAByB, replaceCByD], ∀ key pg,
    replaceTarget twoGroupsState writer.groupId = some (key, pg) →
      writer.memberOut.id ∈ pg.pgInfo.members.ids ∧ writer.memberIn.id ∉ pg.pgInfo.members.ids := by
  have picked : ∀ writer ∈ [replaceAByB, replaceCByD],
      ∀ entry ∈ (replaceTarget twoGroupsState writer.groupId).toList,
        writer.memberOut.id ∈ entry.2.pgInfo.members.ids ∧
          writer.memberIn.id ∉ entry.2.pgInfo.members.ids := by
    decide
  intro writer listed key pg target
  exact picked writer listed (key, pg) (by simp [target])

theorem concurrent_replaceMembers_twoGroups :
    let sources : StatsSources :=
      ⟨fun _ => 4096, fun _ => .nil, fun _ => [], fun _ => [], fun _ => 1, fun _ => 8⟩
    ∃ config, (Lifecycle twoGroupsState ∧
      ([replaceAByB, replaceCByD].map ReplaceThread.groupId).Nodup ∧
      (∀ writer ∈ [replaceAByB, replaceCByD], writer.pc = .erase) ∧
      (∀ writer ∈ [replaceAByB, replaceCByD], ∀ key pg,
        replaceTarget twoGroupsState writer.groupId = some (key, pg) →
        writer.memberOut.id ∈ pg.pgInfo.members.ids ∧ writer.memberIn.id ∉ pg.pgInfo.members.ids) ∧
      Relation.ReflTransGen (ConcurrentStep sources)
        (.start twoGroupsState [replaceAByB, replaceCByD] []) config ∧
      (∀ writer ∈ config.writers, writer.pc = .done)) ∧
    (∀ writer ∈ [replaceAByB, replaceCByD], ∀ key pg,
      replaceTarget twoGroupsState writer.groupId = some (key, pg) →
      config.state.pgMap.find key = some (pg.withMembers
        (replacedMembers pg.pgInfo.members writer.memberOut writer.memberIn)) ∧
      (replacedMembers pg.pgInfo.members writer.memberOut writer.memberIn).size =
        pg.pgInfo.members.size ∧
      config.state.metaBlks[pg.pgSb]? = twoGroupsState.metaBlks[pg.pgSb]?.map
        (·.rewriteMembers (replacedMembers pg.pgInfo.members writer.memberOut writer.memberIn).toList)) ∧
    (∀ key, (∀ writer ∈ [replaceAByB, replaceCByD],
      (replaceTarget twoGroupsState writer.groupId).map Prod.fst ≠ some key) →
      config.state.pgMap.find key = twoGroupsState.pgMap.find key) ∧
    (∀ index, (∀ writer ∈ [replaceAByB, replaceCByD], ∀ key pg,
      replaceTarget twoGroupsState writer.groupId = some (key, pg) → pg.pgSb ≠ index) →
      config.state.metaBlks[index]? = twoGroupsState.metaBlks[index]?) ∧
    config.state.indexTablePgMap = twoGroupsState.indexTablePgMap ∧
    config.state.chunkSelector = twoGroupsState.chunkSelector ∧
    config.state.indexTables = twoGroupsState.indexTables := by
  intro sources
  obtain ⟨config, run, returned⟩ : ∃ config, Relation.ReflTransGen (ConcurrentStep sources)
      (.start twoGroupsState [replaceAByB, replaceCByD] []) config ∧
      ∀ writer ∈ config.writers, writer.pc = .done :=
    ⟨_, .tail (.tail (.tail (.tail (.tail (.single (@ConcurrentStep.writer sources _ 0 _ rfl))
      (@ConcurrentStep.writer sources _ 1 _ rfl)) (@ConcurrentStep.writer sources _ 0 _ rfl))
      (@ConcurrentStep.writer sources _ 1 _ rfl)) (@ConcurrentStep.writer sources _ 1 _ rfl))
      (@ConcurrentStep.writer sources _ 0 _ rfl), by decide⟩
  exact ⟨config, ⟨reachable_twoGroups.lifecycle, by decide, by decide, twoGroups_change, run,
    returned⟩, concurrent_replaceMembers sources reachable_twoGroups.lifecycle (by decide) (by decide)
      twoGroups_change run returned⟩

/-- **Replacements in different groups are serializable**: in every interleaving of
`on_pg_replace_member` calls for pairwise different groups, each about to replace a present member
by an absent one, from a state of a replica's life, once every call has returned the state is the
one the handlers leave when called one after another, in any order. -/
theorem concurrent_replaceMembers_serializable (sources : StatsSources) {state : HomeObjectState}
    {writers : List ReplaceThread} {config : Concurrent}
    (lived : Lifecycle state) (groups : (writers.map ReplaceThread.groupId).Nodup)
    (starting : ∀ writer ∈ writers, writer.pc = .erase ∧ ∀ key pg,
      replaceTarget state writer.groupId = some (key, pg) →
        writer.memberOut.id ∈ pg.pgInfo.members.ids ∧ writer.memberIn.id ∉ pg.pgInfo.members.ids)
    (run : Relation.ReflTransGen (ConcurrentStep sources) (.start state writers []) config)
    (returned : ∀ writer ∈ config.writers, writer.pc = .done) :
    ∀ order : List ReplaceThread, order.Perm writers →
      config.state = order.foldl (fun state writer =>
        onPgReplaceMember state writer.groupId writer.memberOut writer.memberIn) state := by
  intro order permuted
  have erasing : ∀ writer ∈ writers, writer.pc = .erase := fun writer listed =>
    (starting writer listed).1
  have replacing := replacing_run groups lived.inv.separate erasing run
  have erasing' : ∀ writer ∈ order, writer.pc = .erase := fun writer listed =>
    erasing writer (permuted.subset listed)
  have serial := replacing_run ((permuted.map ReplaceThread.groupId).nodup_iff.mpr groups)
    lived.inv.separate erasing' (serial_run sources [] order [] state erasing')
  refine replacing.state_eq serial (fun _ => permuted.mem_iff.symm) returned ?_
  simp

theorem concurrent_replaceMembers_serializable_twoGroups :
    let sources : StatsSources :=
      ⟨fun _ => 4096, fun _ => .nil, fun _ => [], fun _ => [], fun _ => 1, fun _ => 8⟩
    ∃ config, (Lifecycle twoGroupsState ∧
      ([replaceAByB, replaceCByD].map ReplaceThread.groupId).Nodup ∧
      (∀ writer ∈ [replaceAByB, replaceCByD], writer.pc = .erase ∧ ∀ key pg,
        replaceTarget twoGroupsState writer.groupId = some (key, pg) →
          writer.memberOut.id ∈ pg.pgInfo.members.ids ∧
            writer.memberIn.id ∉ pg.pgInfo.members.ids) ∧
      Relation.ReflTransGen (ConcurrentStep sources)
        (.start twoGroupsState [replaceAByB, replaceCByD] []) config ∧
      (∀ writer ∈ config.writers, writer.pc = .done)) ∧
    ∀ order : List ReplaceThread, order.Perm [replaceAByB, replaceCByD] →
      config.state = order.foldl (fun state writer =>
        onPgReplaceMember state writer.groupId writer.memberOut writer.memberIn) twoGroupsState := by
  intro sources
  obtain ⟨config, run, returned⟩ : ∃ config, Relation.ReflTransGen (ConcurrentStep sources)
      (.start twoGroupsState [replaceAByB, replaceCByD] []) config ∧
      ∀ writer ∈ config.writers, writer.pc = .done :=
    ⟨_, .tail (.tail (.tail (.tail (.tail (.single (@ConcurrentStep.writer sources _ 0 _ rfl))
      (@ConcurrentStep.writer sources _ 1 _ rfl)) (@ConcurrentStep.writer sources _ 0 _ rfl))
      (@ConcurrentStep.writer sources _ 1 _ rfl)) (@ConcurrentStep.writer sources _ 1 _ rfl))
      (@ConcurrentStep.writer sources _ 0 _ rfl), by decide⟩
  have starting : ∀ writer ∈ [replaceAByB, replaceCByD], writer.pc = .erase ∧ ∀ key pg,
      replaceTarget twoGroupsState writer.groupId = some (key, pg) →
        writer.memberOut.id ∈ pg.pgInfo.members.ids ∧ writer.memberIn.id ∉ pg.pgInfo.members.ids :=
    fun writer listed => ⟨by revert writer; decide, twoGroups_change writer listed⟩
  exact ⟨config, ⟨reachable_twoGroups.lifecycle, by decide, starting, run, returned⟩,
    concurrent_replaceMembers_serializable sources reachable_twoGroups.lifecycle (by decide)
      starting run returned⟩

/-- **Concurrent membership changes keep the replica in its life**: in every interleaving of
`on_pg_replace_member` calls for pairwise different groups, each of a present member for an absent
one, and of `_get_stats` calls, from a state of a replica's life, once every call has returned the
state is again one of the replica's life, so every invariant of its life holds there. -/
theorem concurrent_replaceMembers_lifecycle (sources : StatsSources) {state : HomeObjectState}
    {writers : List ReplaceThread} {readers : List StatsThread} {config : Concurrent}
    (lived : Lifecycle state) (groups : (writers.map ReplaceThread.groupId).Nodup)
    (starting : ∀ writer ∈ writers, writer.pc = .erase)
    (change : ∀ writer ∈ writers, ∀ key pg, replaceTarget state writer.groupId = some (key, pg) →
      writer.memberOut.id ∈ pg.pgInfo.members.ids ∧ writer.memberIn.id ∉ pg.pgInfo.members.ids)
    (run : Relation.ReflTransGen (ConcurrentStep sources) (.start state writers readers) config)
    (returned : ∀ writer ∈ config.writers, writer.pc = .done) : Lifecycle config.state := by
  have replacing := replacing_run groups lived.inv.separate starting run
  have serialRun := serial_run sources readers writers [] state starting
  rw [replacing.state_eq (replacing_run groups lived.inv.separate starting serialRun)
    (fun _ => Iff.rfl) returned (by simp)]
  exact lifecycle_replaceSerial lived groups change

theorem concurrent_replaceMembers_lifecycle_twoGroups :
    let sources : StatsSources :=
      ⟨fun _ => 4096, fun _ => .nil, fun _ => [], fun _ => [], fun _ => 1, fun _ => 8⟩
    ∃ config, (Lifecycle twoGroupsState ∧
      ([replaceAByB, replaceCByD].map ReplaceThread.groupId).Nodup ∧
      (∀ writer ∈ [replaceAByB, replaceCByD], writer.pc = .erase) ∧
      (∀ writer ∈ [replaceAByB, replaceCByD], ∀ key pg,
        replaceTarget twoGroupsState writer.groupId = some (key, pg) →
        writer.memberOut.id ∈ pg.pgInfo.members.ids ∧ writer.memberIn.id ∉ pg.pgInfo.members.ids) ∧
      Relation.ReflTransGen (ConcurrentStep sources)
        (.start twoGroupsState [replaceAByB, replaceCByD] []) config ∧
      (∀ writer ∈ config.writers, writer.pc = .done)) ∧
    Lifecycle config.state := by
  intro sources
  obtain ⟨config, run, returned⟩ : ∃ config, Relation.ReflTransGen (ConcurrentStep sources)
      (.start twoGroupsState [replaceAByB, replaceCByD] []) config ∧
      ∀ writer ∈ config.writers, writer.pc = .done :=
    ⟨_, .tail (.tail (.tail (.tail (.tail (.single (@ConcurrentStep.writer sources _ 0 _ rfl))
      (@ConcurrentStep.writer sources _ 1 _ rfl)) (@ConcurrentStep.writer sources _ 0 _ rfl))
      (@ConcurrentStep.writer sources _ 1 _ rfl)) (@ConcurrentStep.writer sources _ 1 _ rfl))
      (@ConcurrentStep.writer sources _ 0 _ rfl), by decide⟩
  exact ⟨config, ⟨reachable_twoGroups.lifecycle, by decide, by decide, twoGroups_change, run,
    returned⟩, concurrent_replaceMembers_lifecycle sources reachable_twoGroups.lifecycle
      (by decide) (by decide) twoGroups_change run returned⟩

end HomeObject
