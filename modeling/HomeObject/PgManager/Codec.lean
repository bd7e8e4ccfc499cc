import HomeObject.Json.RoundTrip
import HomeObject.Json.Access
import HomeObject.Core.UuidText

/-!
Contract: `serialize_pg_info` and `deserialize_pg_info`, the JSON record of a `PGInfo` that a
CREATE_PG message carries.

Owns:
- `memberJson`, `membersJson` and `pgInfoJson`, the record `serialize_pg_info` builds through
  `operator[]` assignments and `push_back`, and `serializePgInfo`, its `dump()`;
- `decodeMember` and `decodePgInfo`, the reads `deserialize_pg_info` makes of the parsed record,
  `deserializePgInfo`, and `DecodeError`, how it fails;
- the round trip `deserializePgInfo_serializePgInfo`: every `PGInfo` whose member names are UTF-8
  serializes, and its record decodes to it; and `serializePgInfo_error`: every `PGInfo` with a
  member name that is not UTF-8 makes `dump()` throw.

Why the names matter: `dump()` throws on a string that is not UTF-8, and a member name is any
`std::string`; every other string of the record is the text of a uuid.
-/

set_option autoImplicit false

namespace HomeObject

open Json

/-! ## `serialize_pg_info` -/

/-- `member_j`: `["member_id"]`, `["name"]` and `["priority"]` assigned in turn to a null. -/
def memberJson (member : PgMember) : Json :=
  ((Json.null.assign (ascii "member_id") (.string member.id.toString)).assign (ascii "name")
    (.string member.name)).assign (ascii "priority") (.numberInteger member.priority.toInt64)

/-- `members_j`: `nlohmann::json members_j{}` is null, and each member's record is pushed back in
set order; with no member it stays null. -/
def membersJson (members : List PgMember) : Json :=
  members.foldl (fun json member => json.pushBack (memberJson member)) .null

/-- `j`: `j["pg_info"][key]` assigned in the order of the source, from a null. -/
def pgInfoJson (info : PgInfo) : Json :=
  let pgInfo := ((((Json.null.assign (ascii "pg_id_t") (.numberUnsigned info.id.toUInt64)).assign
    (ascii "pg_size") (.numberUnsigned info.size)).assign
    (ascii "chunk_size") (.numberUnsigned info.chunkSize)).assign
    (ascii "repl_uuid") (.string info.replicaSetUuid.toString)).assign
    (ascii "members") (membersJson info.members.toList)
  Json.null.assign (ascii "pg_info") pgInfo

/-- `serialize_pg_info`: `j.dump()`, which throws for a member name that is not UTF-8. -/
def serializePgInfo (info : PgInfo) : Except JsonError Bytes := dump (pgInfoJson info)

/-! ## `deserialize_pg_info` -/

/-- How `deserialize_pg_info` fails. -/
inductive DecodeError where
  /-- An exception of the JSON library, or its failed assertion (`JsonError.missingKey`). -/
  | json (error : JsonError)
  /-- `string_generator`'s `std::runtime_error("invalid uuid string")`. -/
  | invalidUuid
deriving DecidableEq, Repr

/-- The failure is the const `operator[]`'s failed `JSON_ASSERT` on a member record missing a
key, which aborts the process; every other failure is an exception. -/
def DecodeError.aborts : DecodeError → Bool
  | .json .missingKey => true
  | _ => false

theorem DecodeError.aborts_iff {error : DecodeError} : error.aborts ↔ error = .json .missingKey := by
  rcases error with ((_ | _ | _ | _ | _ | _)) | _ <;> simp [DecodeError.aborts]

/-- A step of the JSON library, its failure as a decode failure. -/
def liftJson {α : Type} (result : Except JsonError α) : Except DecodeError α :=
  result.mapError .json

/-- `boost::uuids::string_generator()(text)`. -/
def parseUuid (text : Bytes) : Except DecodeError Uuid :=
  match Uuid.stringGenerator text with
  | some uuid => .ok uuid
  | none => .error .invalidUuid

/-- One pass of the `members` loop: `PGMember member(string_generator()(m["member_id"]...))`, then
its name and priority, through the const `operator[]`. -/
def decodeMember (json : Json) : Except DecodeError PgMember := do
  let id ← parseUuid (← liftJson (json.constIndex (ascii "member_id") >>= getString))
  let name ← liftJson (json.constIndex (ascii "name") >>= getString)
  let priority ← liftJson (json.constIndex (ascii "priority") >>= getInt32)
  pure ⟨id, name, priority⟩

/-- The reads `deserialize_pg_info` makes of the parsed record, in the order of the source. -/
def decodePgInfo (pgJson : Json) : Except DecodeError PgInfo := do
  let pgInfo ← liftJson (pgJson.index (ascii "pg_info"))
  let id ← liftJson (pgInfo.index (ascii "pg_id_t") >>= getUInt16)
  let size ← liftJson (pgInfo.index (ascii "pg_size") >>= getUInt64)
  let chunkSize ← liftJson (pgInfo.index (ascii "chunk_size") >>= getUInt64)
  let replicaSetUuid ← parseUuid (← liftJson (pgInfo.index (ascii "repl_uuid") >>= getString))
  let membersJson ← liftJson (pgInfo.index (ascii "members"))
  let members ← membersJson.items.foldlM
    (fun members json => members.emplace <$> decodeMember json) MemberSet.empty
  pure { PgInfo.ofId id with size, chunkSize, replicaSetUuid, members }

/-- `deserialize_pg_info(json_str, size)`: `json::parse`, then the reads. -/
def deserializePgInfo (payload : Bytes) : Except DecodeError PgInfo := do
  decodePgInfo (← liftJson (parse payload))

/-! ## The record, its keys in the library's order -/

theorem memberJson_eq (member : PgMember) : memberJson member =
    .object [(ascii "member_id", .string member.id.toString), (ascii "name", .string member.name),
      (ascii "priority", .numberInteger member.priority.toInt64)] := by
  simp +decide [memberJson, assign, setMember]

theorem foldl_pushBack_memberJson (done : List Json) (members : List PgMember) :
    members.foldl (fun (json : Json) member => json.pushBack (memberJson member)) (.array done) =
      .array (done ++ members.map memberJson) := by
  induction members generalizing done with
  | nil => simp
  | cons member rest inductionHypothesis =>
    rw [List.foldl_cons, pushBack, inductionHypothesis]
    simp

theorem membersJson_eq (members : List PgMember) :
    membersJson members = if members = [] then .null else .array (members.map memberJson) := by
  cases members with
  | nil => rfl
  | cons member rest =>
    simpa [membersJson, pushBack] using foldl_pushBack_memberJson [memberJson member] rest

theorem pgInfoJson_eq (info : PgInfo) : pgInfoJson info =
    .object [(ascii "pg_info", .object [(ascii "chunk_size", .numberUnsigned info.chunkSize),
      (ascii "members", membersJson info.members.toList),
      (ascii "pg_id_t", .numberUnsigned info.id.toUInt64),
      (ascii "pg_size", .numberUnsigned info.size),
      (ascii "repl_uuid", .string info.replicaSetUuid.toString)])] := by
  simp +decide [pgInfoJson, assign, setMember]

/-! ## What `dump()` accepts -/

theorem wellFormed_memberJson {member : PgMember} (validName : validUtf8 member.name = true) :
    wellFormed (memberJson member) = true := by
  have validId := validUtf8_of_ascii (Uuid.toString_ascii member.id)
  rw [memberJson_eq]
  simp +decide [wellFormed, membersWellFormed, validName, validId]

theorem wellFormed_membersJson {members : List PgMember}
    (validNames : ∀ member ∈ members, validUtf8 member.name = true) :
    wellFormed (membersJson members) = true := by
  suffices elementsWell : elementsWellFormed (members.map memberJson) = true by
    rw [membersJson_eq]
    split
    · rfl
    · simpa [wellFormed] using elementsWell
  induction members with
  | nil => rfl
  | cons member rest inductionHypothesis =>
    simp only [List.map_cons, elementsWellFormed, Bool.and_eq_true]
    exact ⟨wellFormed_memberJson (validNames member (.head _)),
      inductionHypothesis fun other inRest => validNames other (.tail _ inRest)⟩

/-- **The record of a `PGInfo` whose member names are UTF-8 is one the round trip covers.** -/
theorem wellFormed_pgInfoJson {info : PgInfo}
    (validNames : ∀ member ∈ info.members.toList, validUtf8 member.name = true) :
    wellFormed (pgInfoJson info) = true := by
  have validUuid := validUtf8_of_ascii (Uuid.toString_ascii info.replicaSetUuid)
  rw [pgInfoJson_eq]
  simp +decide [wellFormed, membersWellFormed, validUuid, wellFormed_membersJson validNames]

/-! ## What `dump()` refuses -/

theorem dump_memberJson_error {member : PgMember} (invalid : validUtf8 member.name = false) :
    dump (memberJson member) = .error .invalidUtf8 := by
  obtain ⟨_, idDumped⟩ := dumpString_ok (validUtf8_of_ascii (Uuid.toString_ascii member.id))
  obtain ⟨_, idKey⟩ := dumpString_ok (show validUtf8 (ascii "member_id") = true by decide)
  obtain ⟨_, nameKey⟩ := dumpString_ok (show validUtf8 (ascii "name") = true by decide)
  rw [memberJson_eq]
  simp [dump, dumpMembers, idKey, nameKey, idDumped, dumpString_error invalid, bind, Except.bind,
    Functor.map, Except.map]

theorem dumpElements_memberJson_error {members : List PgMember}
    (invalid : ∃ member ∈ members, validUtf8 member.name = false) :
    dumpElements (members.map memberJson) = .error .invalidUtf8 := by
  induction members with
  | nil => simp at invalid
  | cons member rest inductionHypothesis =>
    cases validName : validUtf8 member.name with
    | false => simp [dumpElements, dump_memberJson_error validName, bind, Except.bind]
    | true =>
      obtain ⟨text, dumped⟩ := dump_ok _ (wellFormed_memberJson validName)
      have restInvalid : ∃ member ∈ rest, validUtf8 member.name = false := by
        simpa [validName] using invalid
      simp [dumpElements, dumped, inductionHypothesis restInvalid, bind, Except.bind]

/-- **A member name that is not UTF-8 makes `serialize_pg_info` throw**, whatever the rest of the
record: the members array is the only part of it that can. -/
theorem serializePgInfo_error {info : PgInfo}
    (invalid : ∃ member ∈ info.members.toList, validUtf8 member.name = false) :
    serializePgInfo info = .error .invalidUtf8 := by
  have nonempty : info.members.toList ≠ [] := by
    obtain ⟨member, held, _⟩ := invalid
    exact List.ne_nil_of_mem held
  obtain ⟨_, pgInfoKey⟩ := dumpString_ok (show validUtf8 (ascii "pg_info") = true by decide)
  obtain ⟨_, chunkSizeKey⟩ := dumpString_ok (show validUtf8 (ascii "chunk_size") = true by decide)
  obtain ⟨_, membersKey⟩ := dumpString_ok (show validUtf8 (ascii "members") = true by decide)
  rw [serializePgInfo, pgInfoJson_eq, membersJson_eq, if_neg nonempty]
  simp [dump, dumpMembers, pgInfoKey, chunkSizeKey, membersKey,
    dumpElements_memberJson_error invalid, bind, Except.bind, Functor.map, Except.map]

/-! ## Reading the record back -/

theorem normalizeElements_eq_map (elements : List Json) :
    normalizeElements elements = elements.map Json.normalize := by
  induction elements with
  | nil => rfl
  | cons element rest inductionHypothesis => simp [normalizeElements, inductionHypothesis]

theorem getArithmetic_normalize_integer (value : Int64) :
    getArithmetic true (Json.normalize (.numberInteger value)) = .ok value.val := by
  have high := value.lt_max
  simp only [Json.normalize]
  split
  · rfl
  · simp only [getArithmetic, Except.ok.injEq]
    rw [UInt64.toNat_ofNat_of_lt (by show _ < 2 ^ 64; omega)]
    omega

theorem decodeMember_memberJson (member : PgMember) :
    decodeMember (Json.normalize (memberJson member)) = .ok member := by
  have priority : getInt32 (Json.normalize (.numberInteger member.priority.toInt64)) =
      .ok member.priority :=
    getInt32_of_arithmetic (getArithmetic_normalize_integer _)
  have normalized : Json.normalize (memberJson member) = .object [(ascii "member_id",
      .string member.id.toString), (ascii "name", .string member.name),
      (ascii "priority", Json.normalize (.numberInteger member.priority.toInt64))] := by
    rw [memberJson_eq]
    rfl
  rw [normalized]
  simp +decide only [decodeMember, constIndex, lookup_cons_of_ne,
    List.lookup_cons_self, getString, parseUuid, Uuid.stringGenerator_toString, liftJson, priority,
    bind, Except.bind, Except.mapError, pure, Except.pure]

theorem foldlM_decodeMember (members : List PgMember) (set : MemberSet) :
    (members.map fun member => Json.normalize (memberJson member)).foldlM
        (fun members json => members.emplace <$> decodeMember json) set =
      .ok (members.foldl MemberSet.emplace set) := by
  induction members generalizing set with
  | nil => rfl
  | cons member rest inductionHypothesis =>
    rw [List.map_cons, List.foldlM_cons, decodeMember_memberJson]
    exact inductionHypothesis _

theorem items_normalize_membersJson (members : List PgMember) :
    items (Json.normalize (membersJson members)) =
      members.map fun member => Json.normalize (memberJson member) := by
  rw [membersJson_eq]
  split
  · subst members
    rfl
  · simp [Json.normalize, items, normalizeElements_eq_map]

/-- **The reads of `deserialize_pg_info` give back the `PGInfo` whose record was parsed.** -/
theorem decodePgInfo_pgInfoJson (info : PgInfo) :
    decodePgInfo (Json.normalize (pgInfoJson info)) = .ok info := by
  have members := foldlM_decodeMember info.members.toList MemberSet.empty
  have rebuilt : info.members.toList.foldl MemberSet.emplace MemberSet.empty = info.members :=
    MemberSet.ofList_self info.members
  rw [← items_normalize_membersJson, rebuilt] at members
  rw [pgInfoJson_eq]
  simp +decide only [Json.normalize, normalizeMembers, decodePgInfo, index, lookup_cons_of_ne,
    List.lookup_cons_self, Option.getD_some, getUInt16_numberUnsigned, getUInt64_numberUnsigned,
    getString, parseUuid, Uuid.stringGenerator_toString, liftJson, members, bind, Except.bind,
    Except.mapError, pure, Except.pure]
  rfl

/-- **The record round trip**: a `PGInfo` whose member names are UTF-8 serializes, and
`deserialize_pg_info` gives it back from the bytes. -/
theorem deserializePgInfo_serializePgInfo {info : PgInfo}
    (validNames : ∀ member ∈ info.members.toList, validUtf8 member.name = true) :
    ∃ payload, serializePgInfo info = .ok payload ∧ deserializePgInfo payload = .ok info := by
  have wellFormedJson := wellFormed_pgInfoJson validNames
  obtain ⟨payload, dumped⟩ := dump_ok _ wellFormedJson
  refine ⟨payload, dumped, ?_⟩
  simp [deserializePgInfo, liftJson, parse_dump wellFormedJson dumped, Except.mapError, bind,
    Except.bind, decodePgInfo_pgInfoJson]

end HomeObject
