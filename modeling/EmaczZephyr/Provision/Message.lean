import EmaczZephyr.Foundation.Crc32

/-!
# Provisioning packets

The 36-byte packet of the provisioning protocol, as the firmware and the host tool
encode and decode it. Both checksums are the standard CRC-32; an IPv4 address is the
number its four bytes spell, and a MAC address the number its six bytes spell.
-/

namespace EmaczZephyr.Provision

open BigEndian Crc32

/-- `PROV_MAGIC`, the identity in the first four bytes of a message. -/
def provMagic : BitVec 32 := 0x455a4346#32
/-- `PROV_VERSION`, the only version that either decoder accepts. -/
def provVersion : Byte := 1#8
/-- `PROV_PACKET_SIZE`, the length of every message. -/
def provPacketSize : Nat := 36
/-- `PROV_CRC_OFFSET`, where the checksum stands, behind all that it covers. -/
def provCrcOffset : Nat := 32

/-- `enum prov_op`: a host looks for boards. -/
def provDiscover : Byte := 1#8

/-- `enum prov_op`: a board answers with its settings and a token. -/
def provOffer : Byte := 2#8

/-- `enum prov_op`: a host asks for settings, with the token of the offer. -/
def provConfig : Byte := 3#8

/-- `enum prov_op`: the board has taken the settings. -/
def provAck : Byte := 4#8

/-- `enum prov_op`: the board has not, and the status says why. -/
def provNack : Byte := 5#8

/-- `enum prov_status`: no error. -/
def provOk : Byte := 0#8

/-- `enum prov_status`: the token is not that of the board's offer. -/
def provBadToken : Byte := 2#8

/-- `enum prov_status`: the settings that were asked for are not usable. -/
def provBadAddress : Byte := 3#8

/-- `enum prov_status`: the interface has refused one of the calls. -/
def provApplyFailed : Byte := 4#8

/-- `struct prov_message`, with the fields of the wire in their widths; identity, padding and
checksum are not part of it. -/
structure ProvMessage where
  version : Byte
  op : Byte
  status : Byte
  prefixBits : Byte
  xid : BitVec 32
  mac : BitVec 48
  ip : BitVec 32
  gateway : BitVec 32
  token : BitVec 32
deriving DecidableEq

/-- The 32 bytes in front of the checksum, field by field in the order of the wire. -/
def ProvMessage.body (msg : ProvMessage) : List Byte :=
  put32 provMagic ++ [msg.version, msg.op, msg.status, msg.prefixBits] ++ put32 msg.xid ++
    put48 msg.mac ++ [0#8, 0#8] ++ put32 msg.ip ++ put32 msg.gateway ++ put32 msg.token

/-- `encode_message` of the firmware: the body and the checksum over it. -/
def encodeMessage (msg : ProvMessage) : List Byte := msg.body ++ put32 (crc32 msg.body)

/-- `decode_message` of the firmware: length, identity, version and checksum are tested, and then
the fields are read. -/
def decodeMessage (buf : List Byte) : Option ProvMessage :=
  if buf.length ≠ provPacketSize ∨ get32 buf 0 ≠ provMagic ∨ get8 buf 4 ≠ provVersion ∨
      get32 buf provCrcOffset ≠ crc32 (buf.take provCrcOffset) then none
  else some {
    version := get8 buf 4
    op := get8 buf 5
    status := get8 buf 6
    prefixBits := get8 buf 7
    xid := get32 buf 8
    mac := get48 buf 12
    ip := get32 buf 20
    gateway := get32 buf 24
    token := get32 buf 28 }

/-- The body has the 32 bytes that the checksum covers, whatever the message. -/
theorem body_length (msg : ProvMessage) : msg.body.length = provCrcOffset := rfl

/-- An encoded message has the length of a packet, whatever the message. -/
theorem encoded_length (msg : ProvMessage) : (encodeMessage msg).length = provPacketSize := rfl

/-- The words of an encoded message are read back from their offsets, among them a checksum that
fits. -/
theorem encoded_words (msg : ProvMessage) :
    get32 (encodeMessage msg) provCrcOffset = crc32 ((encodeMessage msg).take provCrcOffset) ∧
      get32 (encodeMessage msg) 8 = msg.xid ∧ get48 (encodeMessage msg) 12 = msg.mac ∧
      get32 (encodeMessage msg) 20 = msg.ip ∧ get32 (encodeMessage msg) 24 = msg.gateway ∧
      get32 (encodeMessage msg) 28 = msg.token :=
  ⟨get32_stored rfl, get32_stored rfl, get48_stored rfl, get32_stored rfl, get32_stored rfl,
    get32_stored rfl⟩

/-- Decoding an encoded message of this version gives it back, field by field. -/
theorem decode_encode (msg : ProvMessage) (version : msg.version = provVersion) :
    decodeMessage (encodeMessage msg) = some msg := by
  have magic : get32 (encodeMessage msg) 0 = provMagic := get32_stored rfl
  obtain ⟨checksum, xid, mac, ip, gateway, token⟩ := encoded_words msg
  have accepted : ¬ ((encodeMessage msg).length ≠ provPacketSize ∨
      get32 (encodeMessage msg) 0 ≠ provMagic ∨ get8 (encodeMessage msg) 4 ≠ provVersion ∨
      get32 (encodeMessage msg) provCrcOffset ≠
        crc32 ((encodeMessage msg).take provCrcOffset)) := by
    rintro (length | wrong | other | corrupt)
    · exact length (encoded_length msg)
    · exact wrong magic
    · exact other version
    · exact corrupt checksum
  rw [decodeMessage, if_neg accepted, xid, mac, ip, gateway, token]
  rfl

namespace Host

/-- `Message` of the host tool, with its integers in the widths of the wire. -/
structure Message where
  op : Byte
  status : Byte
  prefixBits : Byte
  xid : BitVec 32
  mac : BitVec 48
  ip : BitVec 32
  gateway : BitVec 32
  token : BitVec 32
deriving DecidableEq

/-- `PACKET.pack` of the tool, with the format `!4sBBBBI6s2x4s4sII`. -/
def Message.pack (message : Message) (crc : BitVec 32) : List Byte :=
  [0x45#8, 0x5a#8, 0x43#8, 0x46#8] ++
    [provVersion, message.op, message.status, message.prefixBits] ++ put32 message.xid ++
    put48 message.mac ++ [0#8, 0#8] ++ put32 message.ip ++ put32 message.gateway ++
    put32 message.token ++ put32 crc

/-- `encode_message` of the tool: packed with a zero checksum first, and the checksum of the
first 32 bytes appended to these. -/
def encodeMessage (message : Message) : List Byte :=
  let withoutCrc := message.pack 0#32
  withoutCrc.take provCrcOffset ++ put32 (crc32 (withoutCrc.take provCrcOffset))

/-- `decode_message` of the tool, with its three tests in their order; an exception is `none`. -/
def decodeMessage (data : List Byte) : Option Message :=
  if data.length ≠ provPacketSize then none
  else if data.take 4 ≠ [0x45#8, 0x5a#8, 0x43#8, 0x46#8] ∨ get8 data 4 ≠ provVersion then none
  else if get32 data provCrcOffset ≠ crc32 (data.take provCrcOffset) then none
  else some {
    op := get8 data 5
    status := get8 data 6
    prefixBits := get8 data 7
    xid := get32 data 8
    mac := get48 data 12
    ip := get32 data 20
    gateway := get32 data 24
    token := get32 data 28 }

end Host

/-- The fields of a packet that the host tool sees. -/
def ProvMessage.toHost (msg : ProvMessage) : Host.Message :=
  ⟨msg.op, msg.status, msg.prefixBits, msg.xid, msg.mac, msg.ip, msg.gateway, msg.token⟩

/-- The firmware's view of a packet of the host tool. -/
def Host.Message.toBoard (message : Host.Message) : ProvMessage :=
  ⟨provVersion, message.op, message.status, message.prefixBits, message.xid, message.mac,
    message.ip, message.gateway, message.token⟩

/-- The tool encodes as the firmware does, byte for byte, with version and padding put in by
both. -/
theorem host_encode (message : Host.Message) :
    Host.encodeMessage message = encodeMessage message.toBoard := rfl

/-- The firmware reads what the tool sends, with every field as the tool had it. -/
theorem decode_host_encode (message : Host.Message) :
    decodeMessage (Host.encodeMessage message) = some message.toBoard := by
  rw [host_encode]
  exact decode_encode message.toBoard rfl

/-- The tool reads what the firmware sends, with every field as the firmware had it. -/
theorem host_decode_encode (msg : ProvMessage) (version : msg.version = provVersion) :
    Host.decodeMessage (encodeMessage msg) = some msg.toHost := by
  obtain ⟨checksum, xid, mac, ip, gateway, token⟩ := encoded_words msg
  have identity : ¬ ((encodeMessage msg).take 4 ≠ [0x45#8, 0x5a#8, 0x43#8, 0x46#8] ∨
      get8 (encodeMessage msg) 4 ≠ provVersion) := by
    rintro (wrong | other)
    · exact wrong rfl
    · exact other version
  rw [Host.decodeMessage, if_neg (not_not.mpr (encoded_length msg)), if_neg identity,
    if_neg (not_not.mpr checksum), xid, mac, ip, gateway, token]
  rfl

end EmaczZephyr.Provision
