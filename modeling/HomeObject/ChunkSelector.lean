import HomeObject.Superblock.Layout

/-!
Contract: the chunk selector the PG manager reserves and restores chunks through.

Owns: `HeapChunkSelector` as the spec describes it (§4.1): a uniform chunk size, the free
chunks of each device, and each PG's ordered chunk list; `select_chunks_for_pg`,
`get_pg_chunks`, `most_avail_num_chunks`, `recover_pg_chunks` and
`recover_per_dev_chunk_heap`; and the facts about them the PG manager's proofs cite.

Modelled from the spec: `heap_chunk_selector.h` and its implementation are not among the
sources. `select_chunks_for_pg` reserves as §4.1 says, whatever the pg id: a second reservation
for a pg id puts a second list in front of the first, and `get_pg_chunks` finds the newer one.
`recover_pg_chunks` fails (the caller's `RELEASE_ASSERT`) for a pg id that holds a list or a
chunk that another PG holds ("each physical chunk is in at most one PG's list").

`ChunkSelection` is any `select_chunks_for_pg`; `Reserves` is what §4.1 asks of one, and
`RefusesHeld` the guard against a held pg id that §4.1 does not ask for and that the interleaved
commits need (`HomeObject.interleaved_onePgPerId`).
-/

set_option autoImplicit false

namespace HomeObject

open Superblock

/-- Modelled from the spec: `HeapChunkSelector` is not among the sources. -/
structure HeapChunkSelector where
  /-- `get_chunk_size()`, the uniform chunk size. -/
  chunkSize : UInt64
  /-- Per device, its free chunks in the order they are handed out. -/
  devHeaps : List (List ChunkNum)
  /-- Per PG, its chunk list: virtual chunk `i` is entry `i`. -/
  pgChunks : List (UInt16 × List ChunkNum)
deriving DecidableEq, Repr

namespace HeapChunkSelector

/-- `get_chunk_size()`. -/
def getChunkSize (selector : HeapChunkSelector) : UInt64 := selector.chunkSize

/-- Modelled from the spec: `most_avail_num_chunks()`, the most free chunks on one device. -/
def mostAvailNumChunks (selector : HeapChunkSelector) : Nat :=
  (selector.devHeaps.map List.length).foldr max 0

/-- Modelled from the spec: `get_pg_chunks(pg_id)`, null (`none`) for a PG with no list. -/
def getPgChunks (selector : HeapChunkSelector) (pgId : UInt16) : Option (List ChunkNum) :=
  selector.pgChunks.lookup pgId

/-- The device a reservation draws from: the first one with the most free chunks. -/
def mostAvailDev (heaps : List (List ChunkNum)) : Nat :=
  (heaps.findIdx? (fun heap => heap.length == (heaps.map List.length).foldr max 0)).getD 0

/-- Modelled from the spec: `select_chunks_for_pg(pg_id, size)` reserves
`round_down(size, chunk_size) / chunk_size` chunks of the device with the most free chunks,
and fails when that device has fewer. -/
def selectChunksForPg (selector : HeapChunkSelector) (pgId : UInt16) (size : UInt64) :
    Option (Nat × HeapChunkSelector) :=
  let numChunk := size.toNat / selector.chunkSize.toNat
  let dev := mostAvailDev selector.devHeaps
  let heap := selector.devHeaps.getD dev []
  if heap.length < numChunk then none
  else some (numChunk,
    { selector with
      devHeaps := selector.devHeaps.set dev (heap.drop numChunk)
      pgChunks := (pgId, heap.take numChunk) :: selector.pgChunks })

/-- Modelled from the spec: `recover_pg_chunks(pg_id, chunks)` restores a PG's chunk list at
restart; it fails for a PG that already holds one or a chunk that another PG holds. -/
def recoverPgChunks (selector : HeapChunkSelector) (pgId : UInt16) (chunks : List ChunkNum) :
    Option HeapChunkSelector :=
  if (selector.getPgChunks pgId).isSome then none
  else if chunks.any (fun chunk => selector.pgChunks.any (fun entry => entry.2.contains chunk))
  then none
  else some { selector with pgChunks := (pgId, chunks) :: selector.pgChunks }

/-- Modelled from the spec: `recover_per_dev_chunk_heap()` drops from the free lists every
chunk some PG holds. -/
def recoverPerDevChunkHeap (selector : HeapChunkSelector) : HeapChunkSelector :=
  { selector with
    devHeaps := selector.devHeaps.map fun heap =>
      heap.filter fun chunk => !selector.pgChunks.any (fun entry => entry.2.contains chunk) }

/-! ## What a reservation does -/

section Select

variable {selector selector' : HeapChunkSelector} {pgId : UInt16} {size : UInt64} {count : Nat}

/-- **A reservation's inversion**: it reserves `⌊size / chunk_size⌋` chunks as the PG's list,
in front of the others, and changes nothing else of the PG lists. -/
theorem selectChunksForPg_some
    (selected : selector.selectChunksForPg pgId size = some (count, selector')) :
    count = size.toNat / selector.chunkSize.toNat ∧
      ∃ chunks, chunks.length = count ∧
        selector'.pgChunks = (pgId, chunks) :: selector.pgChunks ∧
        selector'.chunkSize = selector.chunkSize := by
  unfold selectChunksForPg at selected
  dsimp only at selected
  split at selected
  · cases selected
  · simp only [Option.some.injEq, Prod.mk.injEq] at selected
    obtain ⟨rfl, rfl⟩ := selected
    refine ⟨rfl, _, ?_, rfl, rfl⟩
    simp only [List.length_take]
    omega

theorem getPgChunks_of_select
    (selected : selector.selectChunksForPg pgId size = some (count, selector')) (other : UInt16) :
    selector'.getPgChunks other =
      if other = pgId then some ((selector'.getPgChunks pgId).getD []) else selector.getPgChunks other := by
  obtain ⟨-, chunks, -, lists, -⟩ := selectChunksForPg_some selected
  by_cases same : other = pgId
  · subst same; simp [getPgChunks, lists]
  · have different : (other == pgId) = false := by simpa using same
    simp [getPgChunks, lists, List.lookup, different, same]

theorem getPgChunks_select_self
    (selected : selector.selectChunksForPg pgId size = some (count, selector')) :
    ∃ chunks, selector'.getPgChunks pgId = some chunks ∧ chunks.length = count := by
  obtain ⟨-, chunks, length, lists, -⟩ := selectChunksForPg_some selected
  exact ⟨chunks, by simp [getPgChunks, lists], length⟩

end Select

theorem keysDistinct_cons {lists : List (UInt16 × List ChunkNum)} {pgId : UInt16}
    {chunks : List ChunkNum} (distinct : (lists.map Prod.fst).Nodup)
    (absent : lists.lookup pgId = none) : (((pgId, chunks) :: lists).map Prod.fst).Nodup := by
  rw [List.map_cons, List.nodup_cons]
  refine ⟨fun held => ?_, distinct⟩
  obtain ⟨entry, member, rfl⟩ := List.mem_map.mp held
  simpa using List.lookup_eq_none_iff.mp absent entry member

/-! ## What a reservation may do -/

/-- A `select_chunks_for_pg`: the reservation count and the selector after it, or `none`. -/
abbrev ChunkSelection := HeapChunkSelector → UInt16 → UInt64 → Option (Nat × HeapChunkSelector)

/-- What §4.1 asks of a reservation: one chunk list for the PG, put in front of the others. -/
def Reserves (select : ChunkSelection) : Prop :=
  ∀ selector pgId size count selector', select selector pgId size = some (count, selector') →
    ∃ chunks, selector'.pgChunks = (pgId, chunks) :: selector.pgChunks

/-- A selection that refuses a pg id which holds a chunk list already; §4.1 does not ask it. -/
def RefusesHeld (select : ChunkSelection) : Prop :=
  ∀ selector pgId size, (selector.getPgChunks pgId).isSome → select selector pgId size = none

theorem reserves_selectChunksForPg : Reserves selectChunksForPg :=
  fun _ _ _ _ _ selected =>
    let ⟨_, chunks, _, lists, _⟩ := selectChunksForPg_some selected
    ⟨chunks, lists⟩

/-- `select_chunks_for_pg` behind a guard that refuses a pg id holding a list. -/
def selectChunksForNewPg (selector : HeapChunkSelector) (pgId : UInt16) (size : UInt64) :
    Option (Nat × HeapChunkSelector) :=
  if (selector.getPgChunks pgId).isSome then none else selector.selectChunksForPg pgId size

theorem reserves_selectChunksForNewPg : Reserves selectChunksForNewPg := by
  intro selector pgId size count selector' selected
  unfold selectChunksForNewPg at selected
  split at selected
  · cases selected
  · exact reserves_selectChunksForPg _ _ _ _ _ selected

theorem refusesHeld_selectChunksForNewPg : RefusesHeld selectChunksForNewPg :=
  fun _ _ _ held => if_pos held

section Reservation

variable {select : ChunkSelection} {selector selector' : HeapChunkSelector} {pgId : UInt16}
  {size : UInt64} {count : Nat}

theorem getPgChunks_none_of_reserves (refuses : RefusesHeld select)
    (selected : select selector pgId size = some (count, selector')) :
    selector.getPgChunks pgId = none :=
  Option.not_isSome_iff_eq_none.mp fun held => by rw [refuses _ _ _ held] at selected; cases selected

variable (reserves : Reserves select) (refuses : RefusesHeld select)
  (selected : select selector pgId size = some (count, selector'))
include reserves refuses selected

/-- **A guarded reservation keeps every list there before.** -/
theorem getPgChunks_of_reserves {key : UInt16} {chunks : List ChunkNum}
    (held : selector.getPgChunks key = some chunks) : selector'.getPgChunks key = some chunks := by
  obtain ⟨added, lists⟩ := reserves _ _ _ _ _ selected
  have different : key ≠ pgId := by
    rintro rfl
    rw [getPgChunks_none_of_reserves refuses selected] at held
    cases held
  simpa [getPgChunks, lists, List.lookup, beq_false_of_ne different] using held

theorem keysDistinct_of_reserves (distinct : (selector.pgChunks.map Prod.fst).Nodup) :
    (selector'.pgChunks.map Prod.fst).Nodup := by
  obtain ⟨added, lists⟩ := reserves _ _ _ _ _ selected
  rw [lists]
  exact keysDistinct_cons distinct (getPgChunks_none_of_reserves refuses selected)

end Reservation

/-! ## Every chunk in one place -/

/-- Every chunk is in one place, once: on one device's free list or in one PG's list. -/
def Distinct (selector : HeapChunkSelector) : Prop :=
  (selector.devHeaps.flatten ++ (selector.pgChunks.map Prod.snd).flatten).Nodup

theorem flatten_set_drop_perm (heaps : List (List ChunkNum)) (dev count : Nat) :
    ((heaps.set dev ((heaps.getD dev []).drop count)).flatten ++
      (heaps.getD dev []).take count).Perm heaps.flatten := by
  induction heaps generalizing dev with
  | nil => simp
  | cons heap rest inductionHypothesis =>
    cases dev with
    | zero =>
      simp only [List.set_cons_zero, List.flatten_cons, List.getD_cons_zero, List.append_assoc]
      rw [← List.append_assoc]
      refine List.perm_append_comm.trans ?_
      rw [← List.append_assoc, List.take_append_drop]
    | succ dev =>
      simp only [List.set_cons_succ, List.flatten_cons, List.getD_cons_succ, List.append_assoc]
      exact (inductionHypothesis dev).append_left heap

/-- **A reservation keeps every chunk in one place.** -/
theorem distinct_of_select {selector selector' : HeapChunkSelector} {pgId : UInt16}
    {size : UInt64} {count : Nat} (distinct : selector.Distinct)
    (selected : selector.selectChunksForPg pgId size = some (count, selector')) :
    selector'.Distinct := by
  unfold selectChunksForPg at selected
  dsimp only at selected
  split at selected
  · cases selected
  simp only [Option.some.injEq, Prod.mk.injEq] at selected
  obtain ⟨-, rfl⟩ := selected
  refine List.Nodup.perm distinct ?_
  simp only [List.map_cons, List.flatten_cons, ← List.append_assoc]
  exact ((flatten_set_drop_perm _ _ _).append_right _).symm

theorem length_lt_of_nodup {chunks : List ChunkNum} (nodup : chunks.Nodup) :
    chunks.length < 2 ^ 32 := by
  have numbers : (chunks.map UInt16.toNat).Subperm (List.range 65536) :=
    List.subperm_of_subset (nodup.map fun _ _ same => UInt16.toNat.inj same) fun number member => by
      obtain ⟨chunk, -, rfl⟩ := List.mem_map.mp member
      exact List.mem_range.mpr chunk.toNat_lt_size
  have bound := numbers.length_le
  simp only [List.length_map, List.length_range] at bound
  omega

theorem mem_of_lookup {entries : List (UInt16 × List ChunkNum)} {pgId : UInt16}
    {chunks : List ChunkNum} (found : entries.lookup pgId = some chunks) :
    (pgId, chunks) ∈ entries := by
  induction entries with
  | nil => cases found
  | cons head rest inductionHypothesis =>
    obtain ⟨other, held⟩ := head
    by_cases same : pgId = other
    · subst same
      simp only [List.lookup_cons_self, Option.some.injEq] at found
      subst found
      exact List.mem_cons_self _ _
    · simp only [List.lookup_cons, beq_eq_false_iff_ne.mpr same] at found
      exact List.mem_cons_of_mem _ (inductionHypothesis found)

theorem nodup_of_getPgChunks {selector : HeapChunkSelector} {pgId : UInt16}
    {chunks : List ChunkNum} (distinct : selector.Distinct)
    (held : selector.getPgChunks pgId = some chunks) : chunks.Nodup := by
  have lists := (List.nodup_flatten.mp (List.Nodup.of_append_right distinct)).1
  exact lists chunks (List.mem_map.mpr ⟨(pgId, chunks), mem_of_lookup held, rfl⟩)

/-- **Two PGs' chunk lists share no chunk.** -/
theorem disjoint_of_getPgChunks {selector : HeapChunkSelector} {pgId other : UInt16}
    {chunks chunks' : List ChunkNum} (distinct : selector.Distinct)
    (held : selector.getPgChunks pgId = some chunks)
    (held' : selector.getPgChunks other = some chunks') (different : pgId ≠ other) :
    chunks.Disjoint chunks' := by
  have lists := List.pairwise_map.mp (List.nodup_flatten.mp (List.Nodup.of_append_right distinct)).2
  exact lists.forall (fun _ _ apart => List.disjoint_comm.mp apart) (mem_of_lookup held)
    (mem_of_lookup held') (by simp [different])

/-! ## Restoring the lists at restart -/

/-- **A restored chunk list's inversion**: it goes in front, for a PG that held none, and shares
no chunk with another PG's list. -/
theorem recoverPgChunks_some {selector selector' : HeapChunkSelector} {pgId : UInt16}
    {chunks : List ChunkNum} (restored : selector.recoverPgChunks pgId chunks = some selector') :
    selector.getPgChunks pgId = none ∧
      (∀ chunk ∈ chunks, ∀ entry ∈ selector.pgChunks, chunk ∉ entry.2) ∧
      selector' = { selector with pgChunks := (pgId, chunks) :: selector.pgChunks } := by
  unfold recoverPgChunks at restored
  split at restored
  · cases restored
  rename_i absent
  split at restored
  · cases restored
  rename_i unshared
  cases restored
  refine ⟨Option.not_isSome_iff_eq_none.mp absent, fun chunk inChunks entry held inEntry => ?_, rfl⟩
  exact unshared (List.any_eq_true.mpr ⟨chunk, inChunks,
    List.any_eq_true.mpr ⟨entry, held, List.elem_eq_true_of_mem inEntry⟩⟩)

theorem heldDistinct_recoverPgChunks {selector selector' : HeapChunkSelector} {pgId : UInt16}
    {chunks : List ChunkNum} (keysDistinct : (selector.pgChunks.map Prod.fst).Nodup)
    (heldDistinct : (selector.pgChunks.map Prod.snd).flatten.Nodup) (distinct : chunks.Nodup)
    (restored : selector.recoverPgChunks pgId chunks = some selector') :
    (selector'.pgChunks.map Prod.fst).Nodup ∧ (selector'.pgChunks.map Prod.snd).flatten.Nodup := by
  obtain ⟨absent, unshared, rfl⟩ := recoverPgChunks_some restored
  refine ⟨List.nodup_cons.mpr ⟨fun inKeys => ?_, keysDistinct⟩, ?_⟩
  · obtain ⟨entry, held, same⟩ := List.mem_map.mp inKeys
    have found := List.lookup_eq_none_iff.mp absent entry held
    simp [same] at found
  · refine List.nodup_append.mpr ⟨distinct, heldDistinct, fun chunk inChunks inHeld => ?_⟩
    obtain ⟨list, inLists, inList⟩ := List.mem_flatten.mp inHeld
    obtain ⟨entry, held, rfl⟩ := List.mem_map.mp inLists
    exact unshared chunk inChunks entry held inList

/-- **After `recover_per_dev_chunk_heap` every chunk is in one place**, when the devices' lists
hold each chunk once and so do the PGs' lists. -/
theorem distinct_recoverPerDevChunkHeap {selector : HeapChunkSelector}
    (heapsDistinct : selector.devHeaps.flatten.Nodup)
    (heldDistinct : (selector.pgChunks.map Prod.snd).flatten.Nodup) :
    selector.recoverPerDevChunkHeap.Distinct := by
  refine List.nodup_append.mpr ⟨?_, heldDistinct, fun chunk free inHeld => ?_⟩
  · rw [recoverPerDevChunkHeap, ← List.filter_flatten]
    exact heapsDistinct.filter _
  · rw [recoverPerDevChunkHeap, ← List.filter_flatten] at free
    obtain ⟨list, inLists, inList⟩ := List.mem_flatten.mp inHeld
    obtain ⟨entry, held, rfl⟩ := List.mem_map.mp inLists
    have kept := (List.mem_filter.mp free).2
    simp only [Bool.not_eq_true', List.any_eq_false] at kept
    exact kept entry held (List.elem_eq_true_of_mem inList)

end HeapChunkSelector

end HomeObject
