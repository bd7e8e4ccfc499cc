import HomeObject.PgManager.Codec

/-!
Contract: the replicated CREATE_PG log entry: the header blob `do_create_pg` proposes and the
two checks `on_create_pg_message_commit` makes of it before decoding.

Owns:
- `crc32Ieee`, the CRC both sides compute, and `ReplicationMessageHeader` with its packed bytes,
  `sealed` (`seal()`) and `corrupted`;
- `doCreatePg`, the blob `do_create_pg` hands to `async_alloc_write`: the sealed header, then the
  serialized `PGInfo`;
- `checkCreatePgHeader`, the commit handler's header check and payload CRC check;
- the entry round trip `doCreatePg_commit_decodes`: an entry built from a `PGInfo` whose member
  names are UTF-8 passes both checks and decodes to that `PGInfo`; with any other name
  `do_create_pg` builds no entry (`doCreatePg_error`).

Modelled from the spec: `ReplicationMessageHeader` and `init_crc32` are declared in
`replication_message.hpp` and `crc32_ieee` in sisl, none of them among the sources. The spec
says the header carries the message type, the payload size, the payload CRC (CRC32-IEEE seeded
with `init_crc32`) and a seal hashing the preceding fields, and that the commit validates the
header magic; the model packs those fields in that order, after the magic. `crc32_ieee` is the
MSB-first CRC with the IEEE polynomial, seed and result complemented.
-/

set_option autoImplicit false

namespace HomeObject

open Json

/-! ## `crc32_ieee` -/

/-- The IEEE 802.3 CRC-32 polynomial, MSB first. -/
def crcPolynomial : UInt32 := 0x04C11DB7

def crcBit (rem : UInt32) : UInt32 :=
  if rem &&& 0x80000000 = 0 then rem <<< 1 else (rem <<< 1) ^^^ crcPolynomial

/-- One byte of the CRC register: the byte into the top bits, then eight bit steps. -/
def crcByte (rem : UInt32) (byte : UInt8) : UInt32 :=
  (List.range 8).foldl (fun rem _ => crcBit rem) (rem ^^^ (byte.toUInt32 <<< 24))

/-- `crc32_ieee(seed, buf, len)`. -/
def crc32Ieee (seed : UInt32) (bytes : Bytes) : UInt32 :=
  ~~~ (bytes.foldl crcByte (~~~ seed))

set_option maxRecDepth 20000 in
example : crc32Ieee 0 [0x31, 0x32, 0x33, 0x34, 0x35, 0x36, 0x37, 0x38, 0x39] = 0xFC891918 := by
  decide

/-- `init_crc32`. Its value is not among the sources; no result depends on it. -/
def initCrc32 : UInt32 := 0

/-! ## The header -/

/-- `HOMEOBJECT_REPLICATION_MAGIC`. Its value is not among the sources; no result depends on
it. -/
def replicationMagic : UInt64 := 0x11153CA24EFC8D34

/-- `ReplicationMessageType`, the one-byte tag of a log entry. -/
inductive ReplicationMessageType where
  | createPgMsg
  | createShardMsg
  | sealShardMsg
  | putBlobMsg
  | delBlobMsg
deriving DecidableEq, Repr

/-- The tag's byte, numbered in the spec's order. -/
def ReplicationMessageType.toByte : ReplicationMessageType → UInt8
  | .createPgMsg => 0
  | .createShardMsg => 1
  | .sealShardMsg => 2
  | .putBlobMsg => 3
  | .delBlobMsg => 4

/-- Modelled from the spec: `ReplicationMessageHeader`. -/
structure ReplicationMessageHeader where
  magicNum : UInt64
  msgType : UInt8
  payloadSize : UInt32
  payloadCrc : UInt32
  headerCrc : UInt32
deriving DecidableEq, Repr

namespace ReplicationMessageHeader

/-- `sizeof(ReplicationMessageHeader)`, packed. -/
def size : Nat := 21

/-- The bytes of the fields before `header_crc`, the ones the seal hashes. -/
def sealedBytes (header : ReplicationMessageHeader) : Bytes :=
  leBytes 8 header.magicNum.toNat ++ header.msgType :: leBytes 4 header.payloadSize.toNat ++
    leBytes 4 header.payloadCrc.toNat

/-- The header's packed little-endian bytes. -/
def toBytes (header : ReplicationMessageHeader) : Bytes :=
  header.sealedBytes ++ leBytes 4 header.headerCrc.toNat

/-- `r_cast< ReplicationMessageHeader const* >(header.cbytes())`: the fields read from the first
`size` bytes of a blob. -/
def ofBytes (bytes : Bytes) : ReplicationMessageHeader where
  magicNum := UInt64.ofNat (leValue (readAt bytes 0 8))
  msgType := (readAt bytes 8 1).headD 0
  payloadSize := UInt32.ofNat (leValue (readAt bytes 9 4))
  payloadCrc := UInt32.ofNat (leValue (readAt bytes 13 4))
  headerCrc := UInt32.ofNat (leValue (readAt bytes 17 4))

/-- The CRC `seal` stores and `corrupted` recomputes. -/
def calculateCrc (header : ReplicationMessageHeader) : UInt32 :=
  crc32Ieee initCrc32 header.sealedBytes

/-- `seal()`. -/
def sealed (header : ReplicationMessageHeader) : ReplicationMessageHeader :=
  { header with headerCrc := header.calculateCrc }

/-- `corrupted()`: a wrong magic, or a header CRC that does not match the fields. -/
def corrupted (header : ReplicationMessageHeader) : Bool :=
  header.magicNum != replicationMagic || header.calculateCrc != header.headerCrc

@[simp] theorem length_toBytes (header : ReplicationMessageHeader) :
    header.toBytes.length = size := by
  simp [toBytes, sealedBytes, size]

theorem uint32_ofNat_leValue (value : UInt32) :
    UInt32.ofNat (leValue (leBytes 4 value.toNat)) = value := by
  rw [leValue_leBytes_of_lt (by simpa using value.toNat_lt_size)]
  exact UInt32.toNat.inj (Nat.mod_eq_of_lt value.toNat_lt_size)

theorem uint64_ofNat_leValue (value : UInt64) :
    UInt64.ofNat (leValue (leBytes 8 value.toNat)) = value := by
  rw [leValue_leBytes_of_lt (by simpa using value.toNat_lt_size)]
  exact UInt64.toNat.inj (Nat.mod_eq_of_lt value.toNat_lt_size)

/-- **A header is read back from the front of any blob it starts.** -/
theorem ofBytes_toBytes (header : ReplicationMessageHeader) (rest : Bytes) :
    ofBytes (header.toBytes ++ rest) = header := by
  simp [ofBytes, toBytes, sealedBytes, readAt, List.drop_append_eq_append_drop,
    List.take_append_eq_append_take, List.drop_of_length_le, uint32_ofNat_leValue,
    uint64_ofNat_leValue]

theorem corrupted_sealed (header : ReplicationMessageHeader) :
    header.sealed.corrupted = (header.magicNum != replicationMagic) := by
  simp [corrupted, sealed, calculateCrc, sealedBytes]

end ReplicationMessageHeader

/-! ## `do_create_pg` and the commit's checks -/

/-- The header blob `do_create_pg` proposes: `serialize_pg_info` (whose exception propagates),
then a header of type `CREATE_PG_MSG` carrying the payload's size and CRC, sealed, and the
payload copied after it. -/
def doCreatePg (info : PgInfo) : Except JsonError Bytes := do
  let payload ← serializePgInfo info
  let header : ReplicationMessageHeader :=
    { magicNum := replicationMagic
      msgType := ReplicationMessageType.createPgMsg.toByte
      payloadSize := UInt32.ofNat payload.length
      payloadCrc := crc32Ieee initCrc32 payload
      headerCrc := 0 }
  pure (header.sealed.toBytes ++ payload)

/-- The two checks of `on_create_pg_message_commit` on a header blob at least a header long: the
header's own `corrupted()`, then the CRC of the bytes after the header against `payload_crc`;
the payload when both pass. -/
def checkCreatePgHeader (blob : Bytes) : Except PGError Bytes :=
  let header := ReplicationMessageHeader.ofBytes blob
  let payload := blob.drop ReplicationMessageHeader.size
  if header.corrupted then .error .crcMismatch
  else if crc32Ieee initCrc32 payload ≠ header.payloadCrc then .error .crcMismatch
  else .ok payload

theorem checkCreatePgHeader_sealed {header : ReplicationMessageHeader} {payload : Bytes}
    (magic : header.magicNum = replicationMagic)
    (payloadCrc : header.payloadCrc = crc32Ieee initCrc32 payload) :
    checkCreatePgHeader (header.sealed.toBytes ++ payload) = .ok payload := by
  have notCorrupted := ReplicationMessageHeader.corrupted_sealed header
  simp only [magic, bne_self_eq_false] at notCorrupted
  have sealedCrc : header.sealed.payloadCrc = header.payloadCrc := rfl
  simp [checkCreatePgHeader, ReplicationMessageHeader.ofBytes_toBytes, notCorrupted, sealedCrc,
    payloadCrc, List.drop_left']

theorem doCreatePg_checked {info : PgInfo} {payload : Bytes}
    (serialized : serializePgInfo info = .ok payload) :
    ∃ blob, doCreatePg info = .ok blob ∧ ReplicationMessageHeader.size ≤ blob.length ∧
      checkCreatePgHeader blob = .ok payload :=
  ⟨_, by simp [doCreatePg, serialized]; rfl, by simp, checkCreatePgHeader_sealed rfl rfl⟩

/-- **The CREATE_PG entry round trip**: for a `PGInfo` whose member names are UTF-8, the record
`serialize_pg_info` writes decodes to it, and the entry `do_create_pg` builds around it passes
both checks of the commit handler, which then decodes that record. -/
theorem doCreatePg_commit_decodes {info : PgInfo}
    (validNames : ∀ member ∈ info.members.toList, validUtf8 member.name = true) :
    ∃ payload, serializePgInfo info = .ok payload ∧ deserializePgInfo payload = .ok info ∧
      ∃ blob, doCreatePg info = .ok blob ∧ ReplicationMessageHeader.size ≤ blob.length ∧
        checkCreatePgHeader blob = .ok payload := by
  obtain ⟨payload, serialized, decoded⟩ := deserializePgInfo_serializePgInfo validNames
  exact ⟨payload, serialized, decoded, doCreatePg_checked serialized⟩

theorem doCreatePg_commit_decodes_oneMember :
    let info : PgInfo := { PgInfo.ofId 1 with
      members := MemberSet.empty.emplace ⟨Uuid.nil, Json.ascii "a", Int32.zero⟩ }
    (∀ member ∈ info.members.toList, validUtf8 member.name = true) ∧
      ∃ payload, serializePgInfo info = .ok payload ∧ deserializePgInfo payload = .ok info ∧
        ∃ blob, doCreatePg info = .ok blob ∧ ReplicationMessageHeader.size ≤ blob.length ∧
          checkCreatePgHeader blob = .ok payload :=
  have validNames : ∀ member ∈ ({ PgInfo.ofId 1 with
      members := MemberSet.empty.emplace ⟨Uuid.nil, Json.ascii "a", Int32.zero⟩ } : PgInfo).members.toList,
      validUtf8 member.name = true := by decide
  ⟨validNames, doCreatePg_commit_decodes validNames⟩

theorem doCreatePg_error {info : PgInfo}
    (invalid : ∃ member ∈ info.members.toList, validUtf8 member.name = false) :
    doCreatePg info = .error .invalidUtf8 := by
  simp [doCreatePg, serializePgInfo_error invalid, bind, Except.bind]

/-- For every `PGInfo` with a member name that is not UTF-8, `dump()` throws and `do_create_pg`
builds no entry; the record whose one member is named by the byte `FF` is one. -/
theorem doCreatePg_nonUtf8Name :
    (∀ info : PgInfo, (∃ member ∈ info.members.toList, validUtf8 member.name = false) →
      serializePgInfo info = .error .invalidUtf8 ∧ doCreatePg info = .error .invalidUtf8) ∧
    serializePgInfo { PgInfo.ofId 1 with
        members := MemberSet.empty.emplace ⟨Uuid.nil, [0xFF], Int32.zero⟩ } =
      .error .invalidUtf8 ∧
    doCreatePg { PgInfo.ofId 1 with
        members := MemberSet.empty.emplace ⟨Uuid.nil, [0xFF], Int32.zero⟩ } =
      .error .invalidUtf8 :=
  ⟨fun _ invalid => ⟨serializePgInfo_error invalid, doCreatePg_error invalid⟩, rfl, rfl⟩

end HomeObject
