import EmaczZephyr.Foundation.OnesComplement
import EmaczZephyr.Provision.ApplyConfig

/-!
# The provisioning thread

One iteration of `provision_thread_fn`, the response frames it sends and the queue that
`emacz_provision_ingress` fills. What the mailbox poll of an iteration does to the
settings is an argument: it applies some request or none. The value of the cycle counter
is an argument too. The result of sending is ignored by the code, so a response is the
frame that was handed to the driver.
-/

namespace EmaczZephyr.Provision

open BigEndian Crc32

/-- `EMACZ_PROVISION_PORT`, the UDP port of both directions. -/
def provisionPort : BitVec 16 := 5004#16
/-- `PROV_MULTICAST_ADDR`, 239.255.77.90, where responses go to. -/
def provMulticastAddr : BitVec 32 := 0xefff4d5a#32

/-- The sum of the 16-bit words of a string of even length. -/
def sumWords : List Byte → BitVec 32 → BitVec 32
  | high :: low :: rest, sum => sumWords rest (sum + (high ++ low).setWidth 32)
  | _, sum => sum

/-- One turn of the folding loop adds the carries to the word without an overflow. -/
theorem fold_pass (sum : BitVec 32) :
    ((sum &&& 0xffff#32) + sum >>> 16).toNat = OnesComplement.fold (2 ^ 16) sum.toNat := by
  have low : (sum &&& 0xffff#32).toNat = sum.toNat % 65536 := by
    rw [BitVec.toNat_and]
    exact Nat.and_two_pow_sub_one_eq_mod sum.toNat 16
  have high : (sum >>> 16).toNat = sum.toNat / 65536 := by
    rw [BitVec.toNat_ushiftRight, Nat.shiftRight_eq_div_pow]
  have bound := sum.isLt
  rw [BitVec.toNat_add, low, high, Nat.mod_eq_of_lt (by omega)]
  rfl

/-- The test of the folding loop is about size: there are carries exactly from 2^16 on. -/
theorem carries_iff (sum : BitVec 32) : sum >>> 16 ≠ 0#32 ↔ 2 ^ 16 ≤ sum.toNat := by
  rw [ne_eq, ← BitVec.toNat_inj, BitVec.toNat_ushiftRight, Nat.shiftRight_eq_div_pow,
    BitVec.toNat_ofNat]
  omega

/-- One turn of the folding loop makes the sum smaller as long as there are carries, so the
loop ends. -/
theorem fold_smaller (sum : BitVec 32) (carries : sum >>> 16 ≠ 0#32) :
    ((sum &&& 0xffff#32) + sum >>> 16).toNat < sum.toNat := by
  rw [fold_pass]
  exact OnesComplement.fold_lt (by decide) ((carries_iff sum).mp carries)

/-- The folding loop of the checksum, by recursion on the sum, which each turn makes smaller. -/
def foldCarries (sum : BitVec 32) : BitVec 32 :=
  if sum >>> 16 ≠ 0#32 then foldCarries ((sum &&& 0xffff#32) + sum >>> 16) else sum
termination_by sum.toNat
decreasing_by exact fold_smaller sum ‹_›

/-- `ipv4_checksum`: the words are added in 32 bits, the carries folded, and the complement is
the result. -/
def ipv4Checksum (data : List Byte) : BitVec 16 :=
  (~~~ foldCarries (sumWords data 0#32)).setWidth 16

/-- The Ethernet header of a response: the multicast link address, the board's own, and the type
of IPv4. -/
def ethernetHeader (mac : BitVec 48) : List Byte :=
  [0x01#8, 0x00#8, 0x5e#8, 0x7f#8, 0x4d#8, 0x5a#8] ++ put48 mac ++ put16 0x0800#16

/-- The IPv4 header of a response around its checksum: lengths, identification, protocol and the
two addresses. -/
def ipv4Header (xid addr : BitVec 32) (checksum : BitVec 16) : List Byte :=
  [0x45#8, 0#8] ++ put16 (BitVec.ofNat 16 (20 + 8 + provPacketSize)) ++ put16 (xid.setWidth 16) ++
    [0#8, 0#8, 1#8, 17#8] ++ put16 checksum ++ put32 addr ++ put32 provMulticastAddr

/-- The UDP header of a response, without a checksum, as IPv4 allows. -/
def udpHeader : List Byte :=
  put16 provisionPort ++ put16 provisionPort ++ put16 (BitVec.ofNat 16 (8 + provPacketSize)) ++
    [0#8, 0#8]

variable {Iface : Type}

/-- The message of a response: the board's address, settings and token, with the operation, the
status and the transaction that it answers. -/
def responseMessage (prov : Prov Iface) (op status : Byte) (xid : BitVec 32) : ProvMessage where
  version := provVersion
  op := op
  status := status
  prefixBits := prov.provPrefix
  xid := xid
  mac := prov.provMac
  ip := prov.provAddr
  gateway := prov.provGateway
  token := prov.provToken

/-- `send_response`: the frame that it hands to the driver, headers and message one behind the
other. -/
def sendResponse (prov : Prov Iface) (op status : Byte) (xid : BitVec 32) : List Byte :=
  let checksum := ipv4Checksum (ipv4Header xid prov.provAddr 0#16)
  ethernetHeader prov.provMac ++ ipv4Header xid prov.provAddr checksum ++ udpHeader ++
    encodeMessage (responseMessage prov op status xid)

/-- The payload that the network delivers of a response frame. -/
def udpPayload (frame : List Byte) : List Byte := frame.drop 42

/-- The UDP payload of a response is its message, encoded. -/
theorem response_payload (prov : Prov Iface) (op status : Byte) (xid : BitVec 32) :
    udpPayload (sendResponse prov op status xid) =
      encodeMessage (responseMessage prov op status xid) := rfl

/-- The capacity of `prov_rx_queue`, beyond which the ingress drops datagrams. -/
def provRxQueueSize : Nat := 8

/-- `emacz_provision_ingress`: whether it takes the payload, and the queue behind it. -/
def emaczProvisionIngress (queue : List (List Byte)) (payload : List Byte) :
    Bool × List (List Byte) :=
  if payload.length ≠ provPacketSize then (false, queue)
  else if queue.length < provRxQueueSize then (true, queue ++ [payload])
  else (true, queue)

/-- What the thread did with a packet that it answered, recorded in the history of the board. -/
inductive BoardEvent (Iface : Type) where
  /-- A DISCOVER gave the board this offer. -/
  | discovered (xid token : BitVec 32)
  /-- `apply_config` was called for a CONFIG; the settings behind the call and the
  message of the response. -/
  | applied (request : ProvMessage) (result : Int) (settings : Prov Iface) (response : ProvMessage)

/-- The effect of `poll_jtag_mailbox` on the settings when it services a request. -/
def jtagApply (net : NetIf Iface) (prov : Prov Iface) : Option ProvMessage → Prov Iface
  | some request =>
      if addrIsUsable request.ip request.prefixBits request.gateway = false then prov
      else (applyConfig net prov request).2
  | none => prov

/-- The token that answers a DISCOVER: a mix of cycle counter, transaction and link address, and
one in place of zero. -/
def offerToken (prov : Prov Iface) (cycles xid : BitVec 32) : BitVec 32 :=
  let token := cycles ^^^ xid ^^^ prov.provMac.setWidth 32 ^^^ 0x455a4346#32
  if token = 0#32 then 1#32 else token

/-- What one packet makes of the board: its settings, the frame it sends and what it
did. -/
structure Handled (Iface : Type) where
  prov : Prov Iface
  frame : Option (List Byte)
  event : Option (BoardEvent Iface)

/-- The body of the loop for a packet from the queue. -/
def handlePacket (net : NetIf Iface) (prov : Prov Iface) (cycles : BitVec 32) (buf : List Byte) :
    Handled Iface :=
  match decodeMessage buf with
  | none => ⟨prov, none, none⟩
  | some request =>
      if request.op = provDiscover then
        let offering := { prov with
          provXid := request.xid
          provToken := offerToken prov cycles request.xid }
        ⟨offering, some (sendResponse offering provOffer provOk request.xid),
          some (.discovered request.xid offering.provToken)⟩
      else if request.op ≠ provConfig ∨ request.mac ≠ prov.provMac then ⟨prov, none, none⟩
      else if request.xid ≠ prov.provXid ∨ request.token = 0#32 ∨
          request.token ≠ prov.provToken then
        ⟨prov, some (sendResponse prov provNack provBadToken request.xid), none⟩
      else if addrIsUsable request.ip request.prefixBits request.gateway = false then
        ⟨prov, some (sendResponse prov provNack provBadAddress request.xid), none⟩
      else
        let (ret, settings) := applyConfig net prov request
        if ret ≠ 0 then
          ⟨settings, some (sendResponse settings provNack provApplyFailed request.xid),
            some (.applied request ret settings
              (responseMessage settings provNack provApplyFailed request.xid))⟩
        else
          let acknowledged := { settings with provToken := 0#32 }
          ⟨acknowledged, some (sendResponse acknowledged provAck provOk request.xid),
            some (.applied request ret settings
              (responseMessage acknowledged provAck provOk request.xid))⟩

end EmaczZephyr.Provision
