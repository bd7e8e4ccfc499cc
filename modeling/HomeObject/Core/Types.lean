import HomeObject.Core.Bytes

/-!
Contract: the PG manager's value types as the sources declare or use them.

Owns:
- `Uuid` (`boost::uuids::uuid`: `peer_id_t`, `group_id_t`, the index-table uuid) as sixteen
  bytes, with the order `operator<` gives them;
- `Int32` (`int32_t`), carrying its range, and the two's-complement wrap of a conversion into it;
  `Int64` (`int64_t`) likewise, for the JSON library's signed numbers;
- `PgMember`, `MemberSet` (`std::set<PGMember>`, ordered by member id, its sortedness a field),
  and `PgInfo`;
- the error kinds `PGError` and `ReplServiceError`, and `toPgError`.

`PGInfo` and `PGMember` are declared in `pg_manager.hpp`, which is not among the sources. Their
fields are the ones the sources read and write; the comparison of `PGMember` is by id, as the
erase by `PGMember(member_out.id)` in `on_pg_replace_member` shows.
-/

set_option autoImplicit false

namespace HomeObject

/-! ## Uuids -/

/-- `boost::uuids::uuid`: sixteen bytes. -/
structure Uuid where
  data : Bytes
  length_data : data.length = 16
deriving DecidableEq, Repr

namespace Uuid

/-- The sixteen bytes read as a big-endian number. `operator<` on uuids compares the bytes
lexicographically, which is the order of this number. -/
def toNat (uuid : Uuid) : Nat := leValue uuid.data.reverse

/-- The uuid whose big-endian bytes are `value` modulo `2^128`. -/
def ofNat (value : Nat) : Uuid := ⟨(leBytes 16 value).reverse, by simp⟩

/-- The uuid of sixteen bytes read from a buffer; a short read is padded with zeros. -/
def ofBytes (bytes : Bytes) : Uuid := ⟨(bytes ++ List.replicate 16 0).take 16, by simp⟩

theorem ofBytes_data (uuid : Uuid) : ofBytes uuid.data = uuid := by
  cases uuid with
  | mk data lengthData =>
      simp only [ofBytes, mk.injEq]
      rw [List.take_append_of_le_length (by omega), ← lengthData, List.take_length]

theorem toNat_injective {left right : Uuid} (same : left.toNat = right.toNat) : left = right := by
  have unfold (uuid : Uuid) : uuid.data.reverse = leBytes 16 uuid.toNat := by
    have reverseLength : uuid.data.reverse.length = 16 := by simp [uuid.length_data]
    rw [toNat, ← reverseLength, leBytes_leValue]
  have reversed : left.data.reverse = right.data.reverse := by rw [unfold left, unfold right, same]
  cases left
  cases right
  simpa using reversed

instance : LT Uuid := ⟨fun left right => left.toNat < right.toNat⟩

instance (left right : Uuid) : Decidable (left < right) :=
  inferInstanceAs (Decidable (left.toNat < right.toNat))

theorem lt_irrefl (uuid : Uuid) : ¬ uuid < uuid := Nat.lt_irrefl _

theorem lt_trans {a b c : Uuid} : a < b → b < c → a < c := Nat.lt_trans

theorem ne_of_lt {a b : Uuid} (less : a < b) : a ≠ b := fun same => lt_irrefl a (same ▸ less)

theorem lt_or_gt_of_ne {a b : Uuid} (different : a ≠ b) : a < b ∨ b < a := by
  rcases Nat.lt_trichotomy a.toNat b.toNat with less | same | greater
  · exact .inl less
  · exact absurd (toNat_injective same) different
  · exact .inr greater

def nil : Uuid := ofNat 0

end Uuid

/-! ## `int32_t` -/

/-- `int32_t`: an integer in `[-2^31, 2^31)`. -/
structure Int32 where
  val : Int
  ge_min : -2 ^ 31 ≤ val
  lt_max : val < 2 ^ 31
deriving DecidableEq, Repr

namespace Int32

/-- The `int32_t` a conversion from a wider integer lands on: two's complement wrap. -/
def wrap (value : Int) : Int32 :=
  ⟨(value + 2 ^ 31) % 2 ^ 32 - 2 ^ 31, by omega, by omega⟩

theorem wrap_val (priority : Int32) : wrap priority.val = priority := by
  have low := priority.ge_min
  have high := priority.lt_max
  cases priority
  simp only [wrap, mk.injEq]
  omega

/-- The four little-endian bytes of a packed `int32_t`. -/
def toLE (priority : Int32) : Bytes := leBytes 4 (priority.val % 2 ^ 32).toNat

/-- The `int32_t` stored in four little-endian bytes. -/
def ofLE (bytes : Bytes) : Int32 := wrap (leValue bytes)

theorem ofLE_toLE (priority : Int32) : ofLE priority.toLE = priority := by
  have low := priority.ge_min
  have high := priority.lt_max
  have bits : ((priority.val % 2 ^ 32).toNat : Int) = priority.val % 2 ^ 32 := by omega
  have small : (priority.val % 2 ^ 32).toNat < 256 ^ 4 := by omega
  conv => rhs; rw [← wrap_val priority]
  simp only [ofLE, toLE, leValue_leBytes_of_lt small, bits, wrap, mk.injEq]
  omega

@[simp] theorem length_toLE (priority : Int32) : priority.toLE.length = 4 := by simp [toLE]

def zero : Int32 := ⟨0, by omega, by omega⟩

end Int32

/-- `int64_t`, the JSON library's `number_integer_t`: an integer in `[-2^63, 2^63)`. -/
structure Int64 where
  val : Int
  ge_min : -2 ^ 63 ≤ val
  lt_max : val < 2 ^ 63
deriving DecidableEq, Repr

/-- The `int64_t` an `int32_t` widens to. -/
def Int32.toInt64 (value : Int32) : Int64 :=
  ⟨value.val, by have := value.ge_min; omega, by have := value.lt_max; omega⟩

/-! ## Members -/

/-- `PGMember`: a replica of the PG's group. -/
structure PgMember where
  id : Uuid
  name : Bytes
  priority : Int32
deriving DecidableEq, Repr

/-- Strictly increasing member ids, the order a `std::set<PGMember>` iterates in. -/
def IdsIncreasing (members : List PgMember) : Prop := members.Pairwise (fun a b => a.id < b.id)

/-- Insert into an id-ordered list unless a member with the same id is there. -/
def insertById (member : PgMember) : List PgMember → List PgMember
  | [] => [member]
  | head :: tail =>
      if member.id < head.id then member :: head :: tail
      else if member.id = head.id then head :: tail
      else head :: insertById member tail

theorem mem_insertById {member other : PgMember} {members : List PgMember} :
    other ∈ insertById member members →
      other = member ∨ other ∈ members := by
  induction members with
  | nil => simp [insertById]
  | cons head tail inductionHypothesis =>
      unfold insertById
      split
      · simp only [List.mem_cons]; tauto
      · split
        · exact .inr
        · simp only [List.mem_cons]
          rintro (rfl | inTail)
          · exact .inr (.inl rfl)
          · rcases inductionHypothesis inTail with rfl | inTail
            · exact .inl rfl
            · exact .inr (.inr inTail)

theorem insertById_increasing {member : PgMember} {members : List PgMember}
    (increasing : IdsIncreasing members) : IdsIncreasing (insertById member members) := by
  induction members with
  | nil => exact List.pairwise_singleton _ _
  | cons head tail inductionHypothesis =>
      have ⟨headBelow, tailIncreasing⟩ := List.pairwise_cons.mp increasing
      unfold insertById
      split
      · rename_i less
        refine List.pairwise_cons.mpr ⟨?_, increasing⟩
        intro other inList
        rcases List.mem_cons.mp inList with rfl | inTail
        · exact less
        · exact Uuid.lt_trans less (headBelow other inTail)
      · split
        · exact increasing
        · rename_i notLess different
          have greater : head.id < member.id :=
            (Uuid.lt_or_gt_of_ne different).resolve_left notLess
          refine List.pairwise_cons.mpr ⟨?_, inductionHypothesis tailIncreasing⟩
          intro other inserted
          rcases mem_insertById inserted with rfl | inTail
          · exact greater
          · exact headBelow other inTail

theorem insertById_of_above {member : PgMember} {members : List PgMember}
    (above : ∀ other ∈ members, other.id < member.id) :
    insertById member members = members ++ [member] := by
  induction members with
  | nil => rfl
  | cons head tail inductionHypothesis =>
      have headBelow := above head (.head _)
      have notLess : ¬ member.id < head.id := fun less => Uuid.lt_irrefl _ (Uuid.lt_trans less headBelow)
      have different : member.id ≠ head.id := fun same => Uuid.lt_irrefl _ (same ▸ headBelow)
      simp only [insertById, notLess, different, if_false, List.cons_append,
        inductionHypothesis (fun other inTail => above other (.tail _ inTail))]

/-- `std::set<PGMember>`: members ordered by strictly increasing id. -/
structure MemberSet where
  toList : List PgMember
  increasing : IdsIncreasing toList

namespace MemberSet

def empty : MemberSet := ⟨[], List.Pairwise.nil⟩

/-- `members.emplace(member)`: no effect when a member with the same id is present. -/
def emplace (set : MemberSet) (member : PgMember) : MemberSet :=
  ⟨insertById member set.toList, insertById_increasing set.increasing⟩

/-- `members.erase(PGMember(id))`. -/
def erase (set : MemberSet) (id : Uuid) : MemberSet :=
  ⟨set.toList.filter (fun member => member.id != id), set.increasing.filter _⟩

/-- `members.size()`. -/
def size (set : MemberSet) : Nat := set.toList.length

def ids (set : MemberSet) : List Uuid := set.toList.map PgMember.id

/-- A set built by emplacing a list's members in order, as the decoding loops do. -/
def ofList (members : List PgMember) : MemberSet := members.foldl emplace empty

private theorem foldl_emplace_of_increasing (members : List PgMember) (set : MemberSet)
    (increasing : IdsIncreasing (set.toList ++ members)) :
    (members.foldl emplace set).toList = set.toList ++ members := by
  induction members generalizing set with
  | nil => simp
  | cons member rest inductionHypothesis =>
      have above : ∀ other ∈ set.toList, other.id < member.id := fun other inSet =>
        (List.pairwise_append.mp increasing).2.2 other inSet member (.head _)
      have emplaced : (set.emplace member).toList = set.toList ++ [member] :=
        insertById_of_above above
      rw [List.foldl_cons, inductionHypothesis (set.emplace member)
        (by rw [emplaced, List.append_assoc]; exact increasing), emplaced, List.append_assoc,
        List.singleton_append]

/-- **Emplacing an id-increasing list rebuilds it.** -/
theorem ofList_toList {members : List PgMember} (increasing : IdsIncreasing members) :
    (ofList members).toList = members :=
  foldl_emplace_of_increasing members empty increasing

theorem ext {set other : MemberSet} (same : set.toList = other.toList) : set = other := by
  cases set
  cases other
  cases same
  rfl

theorem ofList_self (set : MemberSet) : ofList set.toList = set :=
  ext (ofList_toList set.increasing)

end MemberSet

/-! ## `PGInfo` -/

/-- `PGInfo`. -/
structure PgInfo where
  id : UInt16
  members : MemberSet
  replicaSetUuid : Uuid
  size : UInt64
  chunkSize : UInt64

/-- `PGInfo{id}`. `PGInfo`'s declaration is not among the sources; its constructor is modelled
as leaving every other field empty or zero. -/
def PgInfo.ofId (id : UInt16) : PgInfo := ⟨id, .empty, .nil, 0, 0⟩

/-! ## Errors -/

/-- `PGError`. -/
inductive PGError where
  | invalidArg
  | unknownPg
  | unknownPeer
  | notLeader
  | timeout
  | noSpaceLeft
  | driveWriteError
  | retryRequest
  | crcMismatch
  | unknown
deriving DecidableEq, Repr

/-- `homestore::ReplServiceError`, the codes `toPgError` distinguishes. -/
inductive ReplServiceError where
  | ok
  | badRequest
  | cancelled
  | configChanging
  | serverAlreadyExists
  | serverIsJoining
  | serverIsLeaving
  | resultNotExistYet
  | termMismatch
  | notImplemented
  | notLeader
  | cannotRemoveLeader
  | timeout
  | serverNotFound
  | noSpaceLeft
  | driveWriteError
  | retryRequest
  | failed
deriving DecidableEq, Repr

/-- `toPgError`. -/
def toPgError : ReplServiceError → PGError
  | .badRequest | .cancelled | .configChanging | .serverAlreadyExists | .serverIsJoining
  | .serverIsLeaving | .resultNotExistYet | .termMismatch | .notImplemented => .invalidArg
  | .notLeader => .notLeader
  | .cannotRemoveLeader => .unknownPeer
  | .timeout => .timeout
  | .serverNotFound => .unknownPg
  | .noSpaceLeft => .noSpaceLeft
  | .driveWriteError => .driveWriteError
  | .retryRequest => .retryRequest
  | .ok | .failed => .unknown

end HomeObject
