import HomeObject.PgManager.Message
import HomeObject.Superblock.Members
import HomeObject.ChunkSelector

/-!
Contract: the part of `HSHomeObject` the PG manager's handlers read and write, and the steps they
share.

Owns:
- `HsPg` (`HS_PG`), `PgIndexTable`, `DurableEntities`;
- `PgMap` (`_pg_map`, a `std::map` keyed by PG id: its entries in key order, the order a field)
  with `find`, `tryEmplace` and `modify`;
- `HomeObjectState`: the two maps, the chunk selector, and what the meta and index services hold;
- `HsPg.create`, the `HS_PG(PGInfo, ...)` constructor with the superblock it writes, and
  `addPgToMap` (`add_pg_to_map`) with its `RELEASE_ASSERT`.

A `shared_ptr` to a replication device or an index table is kept as the uuid it answers to
(`group_id()`, `uuid()`); `none` stands for a null `index_table_`. `pg_sb_` is kept as the meta
block it is persisted in: each change the PG manager makes to it is followed by `write()`, so the
model keeps one copy, the persisted one, in `metaBlks`.
-/

set_option autoImplicit false

namespace HomeObject

open Superblock

/-- `DurableEntities`, the counters a PG keeps and persists in its superblock. It is declared
outside the sources; its fields are the four the `HS_PG` constructors read or set, and it starts
at zero. -/
structure DurableEntities where
  blobSequenceNum : UInt64
  activeBlobCount : UInt64
  tombstoneBlobCount : UInt64
  totalOccupiedBlkCount : UInt64
deriving DecidableEq, Repr

def DurableEntities.zero : DurableEntities := ⟨0, 0, 0, 0⟩

/-- `HS_PG`: its `pg_info_`, the group id of `repl_dev_`, the uuid of `index_table_`, the meta
block of `pg_sb_`, and `durable_entities_`. -/
structure HsPg where
  pgInfo : PgInfo
  replDev : Uuid
  indexTable : Option Uuid
  pgSb : Nat
  durableEntities : DurableEntities

/-- `PgIndexTable`: the PG an index table belongs to, and the table. -/
structure PgIndexTable where
  pgId : UInt16
  indexTable : Uuid
deriving DecidableEq, Repr

/-! ## `_pg_map` -/

/-- `try_emplace` on entries in key order: the new entry goes before the first larger key, and
nothing changes when the key is there. -/
def insertSorted (key : UInt16) (value : HsPg) : List (UInt16 × HsPg) → List (UInt16 × HsPg)
  | [] => [(key, value)]
  | (other, old) :: rest =>
      if key < other then (key, value) :: (other, old) :: rest
      else if key = other then (other, old) :: rest
      else (other, old) :: insertSorted key value rest

theorem uint16_lt_of_not_lt {key other : UInt16} (different : key ≠ other) (notLess : ¬ key < other) :
    other < key := by
  rcases Nat.lt_trichotomy key.toNat other.toNat with less | same | greater
  · exact absurd less notLess
  · exact absurd (UInt16.toNat.inj same) different
  · exact greater

theorem mem_keys_insertSorted {key other : UInt16} {value : HsPg} {entries : List (UInt16 × HsPg)}
    (member : other ∈ (insertSorted key value entries).map Prod.fst) :
    other = key ∨ other ∈ entries.map Prod.fst := by
  induction entries with
  | nil => simpa [insertSorted] using member
  | cons head rest inductionHypothesis =>
    obtain ⟨old, oldValue⟩ := head
    simp only [insertSorted] at member
    split at member
    · simp only [List.map_cons, List.mem_cons] at member ⊢
      tauto
    · split at member
      · exact .inr member
      · simp only [List.map_cons, List.mem_cons] at member ⊢
        rcases member with first | later
        · exact .inr (.inl first)
        · rcases inductionHypothesis later with isKey | inRest
          · exact .inl isKey
          · exact .inr (.inr inRest)

theorem insertSorted_increasing {key : UInt16} {value : HsPg} {entries : List (UInt16 × HsPg)}
    (increasing : (entries.map Prod.fst).Pairwise (· < ·)) :
    ((insertSorted key value entries).map Prod.fst).Pairwise (· < ·) := by
  induction entries with
  | nil => simp [insertSorted]
  | cons head rest inductionHypothesis =>
    obtain ⟨old, oldValue⟩ := head
    simp only [List.map_cons, List.pairwise_cons] at increasing
    simp only [insertSorted]
    split
    · rename_i less
      simp only [List.map_cons, List.pairwise_cons, List.mem_cons]
      refine ⟨?_, increasing.1, increasing.2⟩
      rintro other (rfl | inRest)
      · exact less
      · exact UInt16.lt_trans less (increasing.1 other inRest)
    · split
      · simpa using increasing
      · rename_i notLess different
        simp only [List.map_cons, List.pairwise_cons]
        refine ⟨fun other member => ?_, inductionHypothesis increasing.2⟩
        rcases mem_keys_insertSorted member with rfl | inRest
        · exact uint16_lt_of_not_lt different notLess
        · exact increasing.1 other inRest

/-- `_pg_map`: a `std::map` from PG id to PG, its entries in key order. -/
structure PgMap where
  entries : List (UInt16 × HsPg)
  increasing : (entries.map Prod.fst).Pairwise (· < ·)

namespace PgMap

def empty : PgMap := ⟨[], .nil⟩

/-- `_pg_map.find(id)`. -/
def find (map : PgMap) (id : UInt16) : Option HsPg := map.entries.lookup id

/-- `_pg_map.try_emplace(key, value)`. -/
def tryEmplace (map : PgMap) (key : UInt16) (value : HsPg) : PgMap :=
  ⟨insertSorted key value map.entries, insertSorted_increasing map.increasing⟩

/-- A change to the PG under `key`, through the pointer the map holds. -/
def modify (map : PgMap) (key : UInt16) (change : HsPg → HsPg) : PgMap :=
  ⟨map.entries.map fun entry => if entry.1 = key then (entry.1, change entry.2) else entry, by
    have sameKeys : (map.entries.map fun entry : UInt16 × HsPg =>
        if entry.1 = key then (entry.1, change entry.2) else entry).map Prod.fst =
        map.entries.map Prod.fst := by
      rw [List.map_map]
      congr 1
      funext entry
      by_cases isKey : entry.1 = key <;> simp [isKey]
    rw [sameKeys]
    exact map.increasing⟩

theorem lookup_cons_of_ne {key other : UInt16} {value : HsPg} {rest : List (UInt16 × HsPg)}
    (different : other ≠ key) : ((key, value) :: rest).lookup other = rest.lookup other := by
  simp [List.lookup_cons, beq_eq_false_iff_ne.mpr different]

theorem lookup_insertSorted {key : UInt16} {value : HsPg} {entries : List (UInt16 × HsPg)}
    (absent : entries.lookup key = none) (other : UInt16) :
    (insertSorted key value entries).lookup other =
      if other = key then some value else entries.lookup other := by
  induction entries with
  | nil => by_cases same : other = key <;> simp [insertSorted, same, lookup_cons_of_ne]
  | cons head rest inductionHypothesis =>
    obtain ⟨old, oldValue⟩ := head
    have different : key ≠ old := fun same => by simp [same] at absent
    rw [lookup_cons_of_ne different] at absent
    simp only [insertSorted, different, if_false]
    split
    · by_cases same : other = key
      · simp [same]
      · simp [same, lookup_cons_of_ne same]
    · by_cases isOld : other = old
      · subst isOld
        simp [Ne.symm different]
      · simp [lookup_cons_of_ne isOld, inductionHypothesis absent]

/-- **Inserting an absent key** adds its entry and leaves every other lookup as it was. -/
theorem find_tryEmplace {map : PgMap} {key : UInt16} {value : HsPg} (absent : map.find key = none)
    (other : UInt16) :
    (map.tryEmplace key value).find other = if other = key then some value else map.find other :=
  lookup_insertSorted absent other

theorem ext {map other : PgMap} (same : map.entries = other.entries) : map = other := by
  cases map
  cases other
  cases same
  rfl

theorem mem_keys_of_lookup {key : UInt16} {value : HsPg} {entries : List (UInt16 × HsPg)}
    (found : entries.lookup key = some value) : key ∈ entries.map Prod.fst := by
  induction entries with
  | nil => cases found
  | cons head rest inductionHypothesis =>
    obtain ⟨other, oldValue⟩ := head
    by_cases same : key = other
    · exact same ▸ List.mem_cons_self _ _
    · rw [lookup_cons_of_ne same] at found
      exact List.mem_cons_of_mem _ (inductionHypothesis found)

theorem insertSorted_of_lookup {key : UInt16} {value old : HsPg} {entries : List (UInt16 × HsPg)}
    (increasing : (entries.map Prod.fst).Pairwise (· < ·))
    (present : entries.lookup key = some old) : insertSorted key value entries = entries := by
  induction entries with
  | nil => cases present
  | cons head rest inductionHypothesis =>
    obtain ⟨other, oldValue⟩ := head
    simp only [List.map_cons, List.pairwise_cons] at increasing
    simp only [insertSorted]
    by_cases same : key = other
    · simp [same, UInt16.lt_irrefl]
    · rw [lookup_cons_of_ne same] at present
      have greater := increasing.1 key (mem_keys_of_lookup present)
      simp [same, UInt16.lt_asymm greater, inductionHypothesis increasing.2 present]

theorem tryEmplace_of_find {map : PgMap} {key : UInt16} {value old : HsPg}
    (present : map.find key = some old) : map.tryEmplace key value = map :=
  ext (insertSorted_of_lookup map.increasing present)

theorem find_tryEmplace_of_some {map : PgMap} {key other : UInt16} {value old : HsPg}
    (found : map.find other = some old) : (map.tryEmplace key value).find other = some old := by
  rcases present : map.find key with _ | held
  · rw [find_tryEmplace present]
    split
    · rename_i same
      subst same
      rw [present] at found
      cases found
    · exact found
  · rw [tryEmplace_of_find present, found]

theorem find_tryEmplace_of_ne {map : PgMap} {key other : UInt16} {value : HsPg}
    (different : other ≠ key) : (map.tryEmplace key value).find other = map.find other := by
  rcases present : map.find key with _ | held
  · rw [find_tryEmplace present, if_neg different]
  · rw [tryEmplace_of_find present]

theorem find_modify (map : PgMap) (key : UInt16) (change : HsPg → HsPg) (other : UInt16) :
    (map.modify key change).find other =
      if other = key then (map.find key).map change else map.find other := by
  simp only [find, modify]
  induction map.entries with
  | nil => simp
  | cons head rest inductionHypothesis =>
    obtain ⟨old, oldValue⟩ := head
    by_cases isOld : old = key
    · subst isOld
      by_cases same : other = old
      · subst same; simp
      · simp [same, lookup_cons_of_ne same, inductionHypothesis]
    · have keyNe : key ≠ old := Ne.symm isOld
      by_cases same : other = old
      · subst same; simp [isOld]
      · simp [isOld, lookup_cons_of_ne same, lookup_cons_of_ne keyNe, inductionHypothesis]

theorem find_of_mem {map : PgMap} {key : UInt16} {value : HsPg}
    (member : (key, value) ∈ map.entries) : map.find key = some value := by
  obtain ⟨entries, increasing⟩ := map
  simp only [find]
  induction entries with
  | nil => cases member
  | cons head rest inductionHypothesis =>
    obtain ⟨other, oldValue⟩ := head
    simp only [List.map_cons, List.pairwise_cons] at increasing
    rcases List.mem_cons.mp member with same | inRest
    · cases same
      simp
    · have greater := increasing.1 key (List.mem_map.mpr ⟨_, inRest, rfl⟩)
      rw [lookup_cons_of_ne (by rintro rfl; exact UInt16.lt_irrefl _ greater)]
      exact inductionHypothesis increasing.2 inRest

theorem mem_of_find {map : PgMap} {key : UInt16} {value : HsPg}
    (found : map.find key = some value) : (key, value) ∈ map.entries := by
  obtain ⟨⟨_, other⟩, member, rfl⟩ := List.mem_map.mp (mem_keys_of_lookup found)
  rwa [Option.some.inj (found.symm.trans (find_of_mem member))]

theorem keys_eq_of_mem_iff {keys keys' : List UInt16} (increasing : keys.Pairwise (· < ·))
    (increasing' : keys'.Pairwise (· < ·)) (same : ∀ key, key ∈ keys ↔ key ∈ keys') :
    keys = keys' := by
  induction keys generalizing keys' with
  | nil =>
    cases keys' with
    | nil => rfl
    | cons key rest => simpa using (same key).mpr (.head _)
  | cons key rest inductionHypothesis =>
    cases keys' with
    | nil => simpa using (same key).mp (.head _)
    | cons key' rest' =>
      simp only [List.pairwise_cons] at increasing increasing'
      obtain rfl : key = key' := by
        by_contra different
        rcases List.mem_cons.mp ((same key).mp (.head _)) with same' | later
        · exact different same'
        rcases List.mem_cons.mp ((same key').mpr (.head _)) with same'' | earlier
        · exact different same''.symm
        exact UInt16.lt_asymm (increasing'.1 key later) (increasing.1 key' earlier)
      refine congrArg _ (inductionHypothesis increasing.2 increasing'.2 fun other => ?_)
      by_cases isKey : other = key
      · subst isKey
        exact ⟨fun inRest => absurd (increasing.1 _ inRest) (UInt16.lt_irrefl _),
          fun inRest => absurd (increasing'.1 _ inRest) (UInt16.lt_irrefl _)⟩
      · simpa [isKey] using same other

theorem mem_keys_iff (map : PgMap) (key : UInt16) :
    key ∈ map.entries.map Prod.fst ↔ (map.find key).isSome := by
  constructor
  · intro member
    obtain ⟨⟨key, value⟩, inEntries, rfl⟩ := List.mem_map.mp member
    rw [find_of_mem inEntries]
    rfl
  · intro found
    obtain ⟨value, found⟩ := Option.isSome_iff_exists.mp found
    exact mem_keys_of_lookup found

theorem keys_eq_of_isSome {map other : PgMap}
    (same : ∀ key, (map.find key).isSome = (other.find key).isSome) :
    map.entries.map Prod.fst = other.entries.map Prod.fst :=
  keys_eq_of_mem_iff map.increasing other.increasing fun key => by
    rw [mem_keys_iff, mem_keys_iff, same]

/-- **A map is what it finds**: two maps that find the same PG under every key are the same map,
their entries being in key order. -/
theorem ext_find {map other : PgMap} (same : ∀ key, map.find key = other.find key) :
    map = other := by
  obtain ⟨entries, increasing⟩ := map
  obtain ⟨entries', increasing'⟩ := other
  refine ext ?_
  simp only [find] at same ⊢
  induction entries generalizing entries' with
  | nil =>
    cases entries' with
    | nil => rfl
    | cons head rest =>
      obtain ⟨key, value⟩ := head
      simpa using same key
  | cons head rest inductionHypothesis =>
    obtain ⟨key, value⟩ := head
    cases entries' with
    | nil => simpa using same key
    | cons head' rest' =>
      obtain ⟨key', value'⟩ := head'
      simp only [List.map_cons, List.pairwise_cons] at increasing increasing'
      have absent : ∀ {other : UInt16} {rest : List (UInt16 × HsPg)},
          (∀ later ∈ rest.map Prod.fst, other < later) → rest.lookup other = none := by
        intro other rest larger
        rcases found : rest.lookup other with _ | pg
        · rfl
        · exact absurd (larger other (mem_keys_of_lookup found)) (UInt16.lt_irrefl _)
      obtain rfl : key = key' := by
        by_contra different
        have atKey := same key
        rw [List.lookup_cons_self, lookup_cons_of_ne different] at atKey
        have atKey' := same key'
        rw [List.lookup_cons_self, lookup_cons_of_ne (Ne.symm different)] at atKey'
        exact UInt16.lt_asymm (increasing'.1 key (mem_keys_of_lookup atKey.symm))
          (increasing.1 key' (mem_keys_of_lookup atKey'))
      have sameValue := same key
      simp only [List.lookup_cons_self, Option.some.injEq] at sameValue
      rw [sameValue, inductionHypothesis increasing.2 rest' increasing'.2 fun other => ?_]
      by_cases isKey : other = key
      · subst isKey
        rw [absent increasing.1, absent increasing'.1]
      · simpa only [lookup_cons_of_ne isKey] using same other

theorem modify_modify (map : PgMap) (key : UInt16) (change change' : HsPg → HsPg) :
    (map.modify key change).modify key change' = map.modify key (change' ∘ change) :=
  ext_find fun other => by
    by_cases isKey : other = key <;> simp [find_modify, isKey]

end PgMap

/-! ## The state -/

/-- The PG manager's part of `HSHomeObject`: `_pg_map`, `index_table_pg_map_` (keyed by the
uuid's text, an `std::unordered_map`), the chunk selector, the PG superblocks the meta service
holds (a PG's `pgSb` indexes them), and the index tables the index service holds. -/
structure HomeObjectState where
  pgMap : PgMap
  indexTablePgMap : List (Bytes × PgIndexTable)
  chunkSelector : HeapChunkSelector
  metaBlks : List PgInfoSuperblk
  indexTables : List Uuid

/-- `HS_PG(PGInfo, rdev, index_table, pg_chunk_ids)`: the PG, and the state with the superblock
it creates and writes persisted as a new meta block; `fresh` is what the allocation held. -/
def HsPg.create (state : HomeObjectState) (info : PgInfo) (replDev indexTable : Uuid)
    (chunks : List ChunkNum) (fresh : Bytes) : HsPg × HomeObjectState :=
  (⟨info, replDev, some indexTable, state.metaBlks.length, .zero⟩,
    { state with metaBlks := state.metaBlks ++ [createSb info replDev indexTable chunks fresh] })

/-- `add_pg_to_map`: `none` where `RELEASE_ASSERT(pg_info_.replica_set_uuid ==
repl_dev_->group_id())` fires; otherwise `try_emplace` under the PG's id (whose own assertion
cannot fail). -/
def addPgToMap (state : HomeObjectState) (pg : HsPg) : Option HomeObjectState :=
  if pg.pgInfo.replicaSetUuid = pg.replDev then
    some { state with pgMap := state.pgMap.tryEmplace pg.pgInfo.id pg }
  else none

end HomeObject
