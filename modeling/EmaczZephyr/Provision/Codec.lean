import EmaczZephyr.Foundation.StructFormat
import EmaczZephyr.Provision.Message

/-!
# Two codecs of one format

The firmware writes a packet field by field at fixed offsets into a buffer; the host tool
packs it by a format string. Its integers have no bounds, and its MAC address may have any
length: what does not fit the format is an exception.
-/

namespace EmaczZephyr.Provision

open BigEndian Crc32 StructFormat

/-- Bytes written into a buffer at an offset, and the rest of the buffer as it was. -/
def store (buf : List Byte) (offset : Nat) (bytes : List Byte) : List Byte :=
  buf.take offset ++ bytes ++ buf.drop (offset + bytes.length)

/-- `encode_message`, into a buffer, write by write in the order of the source: the zeros first,
and the checksum last. -/
def writeMessage (buf : List Byte) (msg : ProvMessage) : List Byte :=
  let buf := store buf 0 (List.replicate provPacketSize 0#8)
  let buf := store buf 0 (put32 provMagic)
  let buf := store buf 4 [msg.version]
  let buf := store buf 5 [msg.op]
  let buf := store buf 6 [msg.status]
  let buf := store buf 7 [msg.prefixBits]
  let buf := store buf 8 (put32 msg.xid)
  let buf := store buf 12 (put48 msg.mac)
  let buf := store buf 20 (put32 msg.ip)
  let buf := store buf 24 (put32 msg.gateway)
  let buf := store buf 28 (put32 msg.token)
  store buf provCrcOffset (put32 (crc32 (buf.take provCrcOffset)))

/-- A write behind what is written takes zeros away: the buffer stays a written part, zeros, and
what was behind. -/
theorem store_next {written rest bytes : List Byte} {offset room : Nat}
    (behind : written.length = offset) (fits : bytes.length ≤ room) :
    store (written ++ List.replicate room 0#8 ++ rest) offset bytes =
      written ++ bytes ++ List.replicate (room - bytes.length) 0#8 ++ rest := by
  subst behind
  have cut : bytes.length - room = 0 := by omega
  simp [store, List.drop_append, List.drop_replicate, cut]

/-- The packet is the same whatever the buffer held, and nothing behind it is written. -/
theorem write_message (buf : List Byte) (msg : ProvMessage) :
    writeMessage buf msg = encodeMessage msg ++ buf.drop provPacketSize := by
  have cleared : store buf 0 (List.replicate provPacketSize 0#8) =
      [] ++ List.replicate provPacketSize 0#8 ++ buf.drop provPacketSize := rfl
  have padded (room : Nat) (written rest : List Byte) (enough : 2 ≤ room) :
      written ++ List.replicate room 0#8 ++ rest =
        written ++ [0#8, 0#8] ++ List.replicate (room - 2) 0#8 ++ rest := by
    obtain ⟨more, rfl⟩ := Nat.exists_eq_add_of_le enough
    simp [List.replicate_add]
  simp only [writeMessage, cleared]
  rw [store_next (by rfl) (by simp [provPacketSize])]
  iterate 6 rw [store_next (by rfl) (by simp [provPacketSize])]
  rw [padded _ _ _ (by simp [provPacketSize])]
  iterate 3 rw [store_next (by rfl) (by simp [provPacketSize])]
  have body : [] ++ put32 provMagic ++ [msg.version] ++ [msg.op] ++ [msg.status] ++
      [msg.prefixBits] ++ put32 msg.xid ++ put48 msg.mac ++ [0#8, 0#8] ++ put32 msg.ip ++
      put32 msg.gateway ++ put32 msg.token = msg.body := rfl
  have taken (room : Nat) (rest : List Byte) :
      (msg.body ++ List.replicate room 0#8 ++ rest).take provCrcOffset = msg.body := by
    rw [List.append_assoc, List.take_left' (body_length msg)]
  rw [body, taken, store_next (body_length msg) (by simp [provPacketSize])]
  simp [encodeMessage, provPacketSize]

namespace Python

/-- `PACKET` of the tool, the format of `struct` field by field, with its two bytes of padding. -/
def packet : List Field :=
  [.text 4, .byte, .byte, .byte, .byte, .word, .text 6, .pad 2, .text 4, .text 4, .word, .word]

/-- `MAGIC`, the identity in front of every packet. -/
def magic : List Byte := [0x45#8, 0x5a#8, 0x43#8, 0x46#8]

/-- `VERSION` of the protocol, which the decoder compares. -/
def version : Int := 1

/-- `CRC_OFFSET`, the bytes that the checksum is taken over. -/
def crcOffset : Nat := 32

/-- `Message` of the tool: integers without a width, and byte strings without a length. -/
structure Message where
  op : Int
  status : Int
  prefixBits : Int
  xid : Int
  mac : List Byte
  ip : BitVec 32
  gateway : BitVec 32
  token : Int
deriving DecidableEq

/-- The bytes in front of the checksum, and four zeros. -/
def withoutCrc (message : Message) : Option (List Byte) :=
  pack packet [.bytes magic, .number version, .number message.op, .number message.status,
    .number message.prefixBits, .number message.xid, .bytes message.mac,
    .bytes (put32 message.ip), .bytes (put32 message.gateway), .number message.token, .number 0]

/-- `encode_message` of the tool: pack with a zero checksum, and append the checksum of the first
32 bytes; an exception is `none`. -/
def encodeMessage (message : Message) : Option (List Byte) :=
  if message.mac.length ≠ 6 then none
  else (withoutCrc message).bind fun packed =>
    (pack [.word] [.number (crc32 (packed.take crcOffset)).toNat]).map
      (packed.take crcOffset ++ ·)

/-- `decode_message` of the tool: length, identity, version and checksum, and then the fields; an
exception is `none`. -/
def decodeMessage (data : List Byte) : Option Message :=
  if data.length ≠ size packet then none
  else match unpack packet data with
  | some [.bytes identity, .number version', .number op, .number status, .number prefixBits,
      .number xid, .bytes mac, .bytes ip, .bytes gateway, .number token, .number crc] =>
      if identity ≠ magic ∨ version' ≠ version then none
      else if crc ≠ (crc32 (data.take crcOffset)).toNat then none
      else some ⟨op, status, prefixBits, xid, mac, get32 ip 0, get32 gateway 0, token⟩
  | _ => none

/-- The fields fit the wire: integers within their widths, and six bytes of link address. -/
structure Message.Fits (message : Message) : Prop where
  op : 0 ≤ message.op ∧ message.op < 256
  status : 0 ≤ message.status ∧ message.status < 256
  prefixBits : 0 ≤ message.prefixBits ∧ message.prefixBits < 256
  xid : 0 ≤ message.xid ∧ message.xid < 4294967296
  mac : message.mac.length = 6
  token : 0 ≤ message.token ∧ message.token < 4294967296

end Python

/-- The tool's message as it is, its integers unbounded. -/
def Host.Message.toPython (message : Host.Message) : Python.Message where
  op := message.op.toNat
  status := message.status.toNat
  prefixBits := message.prefixBits.toNat
  xid := message.xid.toNat
  mac := put48 message.mac
  ip := message.ip
  gateway := message.gateway
  token := message.token.toNat

/-- An integer that fits a byte is the number of its byte. -/
theorem int_byte {value : Int} (range : 0 ≤ value ∧ value < 256) :
    ((BitVec.ofInt 8 value).toNat : Int) = value := by
  rw [BitVec.toNat_ofInt]
  omega

/-- An integer that fits a word is the number of its word. -/
theorem int_word {value : Int} (range : 0 ≤ value ∧ value < 4294967296) :
    ((BitVec.ofInt 32 value).toNat : Int) = value := by
  rw [BitVec.toNat_ofInt]
  omega

/-- Every message that fits the wire is one with fields of the wire's widths. -/
theorem Python.Message.Fits.toHost {message : Python.Message} (fits : message.Fits) :
    ∃ host : Host.Message, host.toPython = message := by
  refine ⟨⟨BitVec.ofInt 8 message.op, BitVec.ofInt 8 message.status,
    BitVec.ofInt 8 message.prefixBits, BitVec.ofInt 32 message.xid, get48 message.mac 0,
    message.ip, message.gateway, BitVec.ofInt 32 message.token⟩, ?_⟩
  have mac : put48 (get48 message.mac 0) = message.mac := by
    have length := fits.mac
    rw [put48_get48 (by omega), List.drop_zero, ← length, List.take_length]
  simp only [Host.Message.toPython, int_byte fits.op, int_byte fits.status,
    int_byte fits.prefixBits, int_word fits.xid, int_word fits.token, mac]

/-- The format gives the bytes of the packet with a zero checksum, field by field. -/
theorem python_without_crc (host : Host.Message) :
    Python.withoutCrc host.toPython = some (host.pack 0#32) := by
  have magic : packField (.text 4) (.bytes Python.magic) = some Python.magic := pack_text rfl
  have version : packField .byte (.number Python.version) = some [provVersion] :=
    pack_byte provVersion
  have mac : packField (.text 6) (.bytes (put48 host.mac)) = some (put48 host.mac) :=
    pack_text rfl
  have address (ip : BitVec 32) : packField (.text 4) (.bytes (put32 ip)) = some (put32 ip) :=
    pack_text rfl
  have zero : packField .word (.number 0) = some (put32 0#32) := pack_word 0#32
  simp only [Python.withoutCrc, Host.Message.toPython, Python.packet, pack, magic, version, mac,
    address, zero, pack_byte, pack_word, Option.bind_eq_bind, Option.bind_some, Option.map_some]
  rfl

/-- On messages that fit the wire the tool's encoder is the one on widths, which the other proofs
are about. -/
theorem python_encode (host : Host.Message) :
    Python.encodeMessage host.toPython = some (Host.encodeMessage host) := by
  have length : ¬ host.toPython.mac.length ≠ 6 := not_not.mpr (put48_length host.mac)
  have checksum (crc : BitVec 32) : pack [.word] [.number crc.toNat] = some (put32 crc) := by
    simp only [pack, pack_word, Option.bind_eq_bind, Option.bind_some, List.append_nil]
  rw [Python.encodeMessage, if_neg length, python_without_crc, Option.bind_some, checksum,
    Option.map_some]
  rfl

/-- What the format reads from a packet of 36 bytes, field by field at its offset; the padding is
skipped. -/
theorem python_unpack {data : List Byte} (length : data.length = provPacketSize) :
    unpack Python.packet data = some [.bytes (data.take 4), .number (get8 data 4).toNat,
      .number (get8 data 5).toNat, .number (get8 data 6).toNat, .number (get8 data 7).toNat,
      .number (get32 data 8).toNat, .bytes (put48 (get48 data 12)),
      .bytes (put32 (get32 data 20)), .bytes (put32 (get32 data 24)),
      .number (get32 data 28).toNat, .number (get32 data 32).toNat] := by
  have sized : data.length = size Python.packet := length
  unfold provPacketSize at length
  rw [unpack, if_pos sized]
  rw [put48_get48 (by omega), put32_get32 (by omega), put32_get32 (by omega)]
  simp only [Python.packet, unpackFields, List.drop_drop, get8_drop, get32_drop, Nat.reduceAdd,
    Nat.add_zero]

/-- Numbers of words are equal exactly if the words are. -/
theorem number_eq_iff {width : Nat} (left right : BitVec width) :
    (left.toNat : Int) = right.toNat ↔ left = right := by
  rw [Int.natCast_inj, BitVec.toNat_inj]

/-- The tool's decoder with unbounded integers is the one on widths, for every byte string. -/
theorem python_decode (data : List Byte) :
    Python.decodeMessage data = (Host.decodeMessage data).map Host.Message.toPython := by
  by_cases length : data.length = provPacketSize
  · have version : (((get8 data 4).toNat : Int) ≠ Python.version) = (get8 data 4 ≠ provVersion) :=
      propext (not_congr (number_eq_iff (get8 data 4) provVersion))
    have checksum : (((get32 data 32).toNat : Int) ≠ (crc32 (data.take Python.crcOffset)).toNat) =
        (get32 data provCrcOffset ≠ crc32 (data.take provCrcOffset)) :=
      propext (not_congr (number_eq_iff _ _))
    have sized : ¬ data.length ≠ size Python.packet := not_not.mpr length
    rw [Python.decodeMessage, if_neg sized, python_unpack length, Host.decodeMessage,
      if_neg (not_not.mpr length)]
    simp only [version, checksum, get32_put32, Python.magic]
    split
    · rfl
    · split
      · rfl
      · rfl
  · have sized : data.length ≠ size Python.packet := length
    rw [Python.decodeMessage, if_pos sized, Host.decodeMessage, if_pos length]
    rfl

/-- Both decoders accept the same byte strings, and read the same fields from them. -/
theorem decode_agree (data : List Byte) :
    (decodeMessage data).map ProvMessage.toHost = Host.decodeMessage data := by
  by_cases length : data.length = provPacketSize
  · have magic : get32 data 0 = provMagic ↔ data.take 4 = [0x45#8, 0x5a#8, 0x43#8, 0x46#8] := by
      constructor
      · intro same
        have stored : put32 (get32 data 0) = (data.drop 0).take 4 := put32_get32 (by
          unfold provPacketSize at length
          omega)
        rw [same, List.drop_zero] at stored
        exact stored.symm
      · intro same
        exact get32_stored same
    unfold decodeMessage Host.decodeMessage
    by_cases identity : get32 data 0 = provMagic ∧ get8 data 4 = provVersion
    · obtain ⟨first, version⟩ := identity
      by_cases intact : get32 data provCrcOffset = crc32 (data.take provCrcOffset)
      · simp [length, first, magic.mp first, version, intact, ProvMessage.toHost]
      · simp [length, first, magic.mp first, version, intact]
    · have other : data.take 4 ≠ [0x45#8, 0x5a#8, 0x43#8, 0x46#8] ∨ get8 data 4 ≠ provVersion := by
        exact (not_and_or.mp identity).imp_left magic.not.mp
      have refused : data.length ≠ provPacketSize ∨ get32 data 0 ≠ provMagic ∨
          get8 data 4 ≠ provVersion ∨
          get32 data provCrcOffset ≠ crc32 (data.take provCrcOffset) := by
        rcases not_and_or.mp identity with wrong | version
        · exact .inr (.inl wrong)
        · exact .inr (.inr (.inl version))
      rw [if_pos refused, if_neg (not_not.mpr length), if_pos other]
      rfl
  · unfold decodeMessage Host.decodeMessage
    rw [if_pos (.inl length), if_pos length]
    rfl

/-- The two codecs implement one format: a message that fits the wire has one packet of 36 bytes,
which both write and from which both recover it, and both accept the same byte strings and read
the same values from them.

Proof: both encoders and both decoders are compared with the host's field list. A message that
fits is one of the board, for which decoding undoes encoding. -/
theorem codecs_agree :
    (∀ message : Python.Message, message.Fits →
      ∃ msg : ProvMessage, msg.version = provVersion ∧ msg.toHost.toPython = message ∧
        ∃ packet : List Byte, packet.length = provPacketSize ∧
          (∀ buf, writeMessage buf msg = packet ++ buf.drop provPacketSize) ∧
          Python.encodeMessage message = some packet ∧
          decodeMessage packet = some msg ∧ Python.decodeMessage packet = some message) ∧
      ∀ data : List Byte, (decodeMessage data).map (·.toHost.toPython) =
        Python.decodeMessage data := by
  constructor
  · intro message fits
    obtain ⟨host, rfl⟩ := fits.toHost
    have version : host.toBoard.version = provVersion := rfl
    refine ⟨host.toBoard, version, rfl, encodeMessage host.toBoard, encoded_length _,
      fun buf => write_message buf _, ?_, decode_encode _ version, ?_⟩
    · rw [python_encode, host_encode]
    · rw [python_decode, host_decode_encode _ version]
      rfl
  · intro data
    rw [python_decode, ← decode_agree, Option.map_map]
    rfl

/-- A CONFIG message for `192.168.44.20`, for the witnesses. -/
def samplePython : Python.Message where
  op := 3
  status := 0
  prefixBits := 24
  xid := 0x12345678
  mac := [0x02#8, 0#8, 0#8, 0#8, 0#8, 0x01#8]
  ip := 0xc0a82c14#32
  gateway := 0xc0a82c01#32
  token := 0x89abcdef

/-- The theorem at that message, which is encoded to 36 bytes and read back. -/
theorem codecs_agree_sample :
    samplePython.Fits ∧ ∃ packet : List Byte, packet.length = provPacketSize ∧
      Python.encodeMessage samplePython = some packet ∧
      Python.decodeMessage packet = some samplePython := by
  have fits : samplePython.Fits := by constructor <;> decide
  obtain ⟨-, -, -, packet, length, -, encoded, -, decoded⟩ := codecs_agree.1 samplePython fits
  exact ⟨fits, packet, length, encoded, decoded⟩

end EmaczZephyr.Provision
