import EmaczZephyr.Provision.Board
import EmaczZephyr.Provision.InterfaceTable
import EmaczZephyr.Provision.MailboxAdmission

/-!
# The board over its lifetime

`emacz_provision_start`, and then any number of packets put on the queue and any number of
turns of `provision_thread_fn`. The start goes on when a call fails, so the thread may run
with the bootstrap address missing.

A poll reads each word of the mailbox at most once, and a host may write between the reads.
So a turn takes the words that its poll reads as it finds them, whatever they are.
-/

namespace EmaczZephyr.Provision

open BigEndian FaultyTable Runs

/-- `EALREADY`, by which bringing the interface up says that it is up already, which is no error
of the start. -/
def ealready : Int := 120

/-- A byte of the bootstrap address is neither 0 nor 255. -/
def bootstrapByte (byte : Byte) : Byte := if byte = 0#8 ∨ byte = 255#8 then 1#8 else byte

/-- The bootstrap address of a MAC: 169.254, and its last two bytes. -/
def bootstrapAddr (mac : BitVec 48) : BitVec 32 :=
  0xa9fe#16 ++ (bootstrapByte (mac.extractLsb' 8 8 ^^^ 0x80#8) ++
    bootstrapByte (mac.extractLsb' 0 8))

/-- The prefix of the bootstrap address, that of the link-local network. -/
def bootstrapPrefix : Byte := 16#8

variable {Iface : Type}

/-- The static variables as the start sets them, before its calls. -/
def bootstrapProv (iface : Iface) (mac : BitVec 48) : Prov Iface where
  provIface := iface
  provAddr := bootstrapAddr mac
  provAddrInstalled := false
  provGateway := 0#32
  provPrefix := bootstrapPrefix
  provToken := 0#32
  provXid := 0#32
  provMac := mac

/-- The bootstrap address is added and gets its mask, with the return value for each failing
call. -/
def attachBootstrap (net : NetIf Iface) (prov : Prov Iface) : Int × Prov Iface :=
  let (added, iface) := net.addrAdd prov.provIface prov.provAddr
  if added = false then (-enomem, { prov with provIface := iface })
  else
    let (masked, iface) := net.setNetmaskByAddr iface prov.provAddr (prefixToMask prov.provPrefix)
    (if masked = false then -eio else 0,
      { prov with
        provIface := iface
        provAddrInstalled := true })

/-- `emacz_provision_start`: what it returns, and the settings with which the thread starts,
if it does. The bytes are those of the link address, and `up` is what `net_if_up` returns. -/
def emaczProvisionStart (net : NetIf Iface) (iface : Option Iface)
    (linkAddr : Option (List Byte)) (up : Int) : Int × Option (Prov Iface) :=
  match iface, linkAddr with
  | some iface, some bytes =>
      if bytes.length ≠ 6 then (-einval, none)
      else
        let (ret, prov) := attachBootstrap net (bootstrapProv iface (get48 bytes 0))
        (if up ≠ 0 ∧ up ≠ -ealready ∧ ret = 0 then up else ret, some prov)
  | _, _ => (-einval, none)

/-- The settings, the queue, the statics of `poll_jtag_mailbox`, and the frames sent so
far. -/
structure ProvisionBoard (Iface : Type) where
  prov : Prov Iface
  provRxQueue : List (List Byte)
  armed : Bool
  lastAppliedEpoch : BitVec 32
  sent : List (List Byte)

/-- What can happen once the thread runs: a datagram comes in, or the thread takes a turn. -/
inductive LifetimeLabel where
  /-- `emacz_provision_ingress` -/
  | ingress (payload : List Byte)
  /-- A turn of the thread, with the words its poll reads and the cycle counter. -/
  | turn (mailbox : Mailbox) (cycles : BitVec 32)

/-- The label brings a request for this address, prefix and gateway to the board: a CONFIG in
a packet for the queue, or the words of a mailbox that carries the magic. -/
inductive LifetimeLabel.Brings : LifetimeLabel → BitVec 32 → Byte → BitVec 32 → Prop
  | packet {payload : List Byte} {request : ProvMessage}
      (decoded : decodeMessage payload = some request) (config : request.op = provConfig) :
      Brings (.ingress payload) request.ip request.prefixBits request.gateway
  | mailbox {mailbox : Mailbox} {cycles : BitVec 32} (populated : mailbox.magic = mailboxMagic) :
      Brings (.turn mailbox cycles) mailbox.ip (mailbox.prefixBits.setWidth 8) mailbox.gateway

/-- Some label of the trace brings the request, in a datagram or in the words of the mailbox. -/
def Brought (labels : List LifetimeLabel) (request : ProvMessage) : Prop :=
  ∃ label ∈ labels, label.Brings request.ip request.prefixBits request.gateway

/-- The body of the loop: a packet is taken, if there is one, the mailbox is polled, and
the packet is handled. -/
def provisionTurn (net : NetIf Iface) (board : ProvisionBoard Iface) (mailbox : Mailbox)
    (cycles : BitVec 32) : ProvisionBoard Iface :=
  let polled := pollJtagMailbox net mailbox board.armed board.lastAppliedEpoch board.prov
  let next := { board with
    prov := polled.prov
    armed := polled.armed
    lastAppliedEpoch := polled.lastAppliedEpoch }
  match board.provRxQueue with
  | [] => next
  | buf :: queue =>
      let handled := handlePacket net polled.prov cycles buf
      { next with
        prov := handled.prov
        provRxQueue := queue
        sent := board.sent ++ handled.frame.toList }

/-- One step of the board: the ingress puts a datagram on the queue or drops it, and a turn polls
the mailbox and handles the first datagram. -/
def lifetimeStep (net : NetIf Iface) (board : ProvisionBoard Iface) :
    LifetimeLabel → Option (ProvisionBoard Iface)
  | .ingress payload => some { board with
      provRxQueue := (emaczProvisionIngress board.provRxQueue payload).2 }
  | .turn mailbox cycles => some (provisionTurn net board mailbox cycles)

/-- The board when its thread starts: no datagram waits, no mailbox request was seen, and nothing
was sent. -/
def startedBoard (prov : Prov Iface) : ProvisionBoard Iface := ⟨prov, [], false, 0#32, []⟩

/-- Words with different upper halves differ, whatever their lower halves are. -/
theorem upper_differs {high other low rest : BitVec 16} (different : high ≠ other) :
    high ++ low ≠ other ++ rest := by
  intro same
  have upper := congrArg (BitVec.extractLsb' 16 16) same
  rw [BitVec.extractLsb'_append_eq_left, BitVec.extractLsb'_append_eq_left] at upper
  exact different upper

/-- Host bits that are neither all clear nor all set make a usable link-local address. -/
theorem link_local_usable (host : BitVec 16) (clear : host ≠ 0#16) (full : host ≠ 0xffff#16) :
    addrIsUsable (0xa9fe#16 ++ host) bootstrapPrefix 0#32 = true := by
  have mask : BitVec.allOnes 32 <<< (32 - bootstrapPrefix.toNat) = 0xffff#16 ++ 0#16 := by decide
  have under : (0xa9fe#16 ++ host) &&& ~~~(0xffff#16 ++ 0#16) = 0#16 ++ host := by
    rw [BitVec.not_append, BitVec.and_append]
    exact congrArg (0#16 ++ ·) BitVec.and_allOnes
  have unicast : (0xa9fe#16 ++ host) &&& 0xf0000000#32 = 0xa000#16 ++ 0#16 := by
    rw [show 0xf0000000#32 = 0xf000#16 ++ 0#16 from rfl, BitVec.and_append]
    simp
  have network : (0xa9fe#16 ++ host) &&& 0xff000000#32 = 0xa900#16 ++ 0#16 := by
    rw [show 0xff000000#32 = 0xff00#16 ++ 0#16 from rfl, BitVec.and_append]
    simp
  have first : 0xa9fe#16 ++ host ≠ 0#16 ++ 0#16 := upper_differs (by decide)
  have last : 0xa9fe#16 ++ host ≠ 0xffff#16 ++ 0xffff#16 := upper_differs (by decide)
  unfold addrIsUsable
  rw [if_neg, if_neg, if_neg]
  · simp
  · rw [mask, under]
    rintro (zero | ones)
    · exact clear ((BitVec.append_right_inj 0#16).mp zero)
    · exact full ((BitVec.append_right_inj 0#16).mp ones)
  · rw [unicast, network]
    rintro (none | long | zero | ones | multicast | loopback)
    · exact absurd none (by decide)
    · exact absurd long (by decide)
    · exact first zero
    · exact last ones
    · exact absurd multicast (by decide)
    · exact absurd loopback (by decide)

/-- The last bytes of a bootstrap address are neither 0 nor 255, because both are replaced. -/
theorem bootstrap_byte_range (byte : Byte) :
    bootstrapByte byte ≠ 0#8 ∧ bootstrapByte byte ≠ 255#8 := by
  unfold bootstrapByte
  split
  · decide
  · rename_i ordinary
    exact not_or.mp ordinary

/-- Every link address gives a usable bootstrap address in the link-local network. -/
theorem bootstrap_usable (mac : BitVec 48) :
    addrIsUsable (bootstrapAddr mac) bootstrapPrefix 0#32 = true := by
  have low := bootstrap_byte_range (mac.extractLsb' 0 8)
  apply link_local_usable
  · intro clear
    have byte := congrArg (BitVec.setWidth 8) clear
    rw [BitVec.setWidth_append_eq_right] at byte
    exact low.1 byte
  · intro full
    have byte := congrArg (BitVec.setWidth 8) full
    rw [BitVec.setWidth_append_eq_right] at byte
    exact low.2 byte

/-- Everything but the offer is the same: interface, address, mark, gateway, prefix and link
address. -/
structure Prov.SameAddress (prov next : Prov Iface) : Prop where
  iface : next.provIface = prov.provIface
  addr : next.provAddr = prov.provAddr
  installed : next.provAddrInstalled = prov.provAddrInstalled
  gateway : next.provGateway = prov.provGateway
  prefixBits : next.provPrefix = prov.provPrefix
  mac : next.provMac = prov.provMac

/-- Leaving the settings leaves all of this. -/
theorem Prov.SameAddress.refl (prov : Prov Iface) : prov.SameAddress prov :=
  ⟨rfl, rfl, rfl, rfl, rfl, rfl⟩

/-- A poll leaves the settings, or applies the request that the mailbox holds under its magic.
Each return of the poll before the call of `apply_config` keeps them. -/
theorem poll_settings (net : NetIf Iface) (prov : Prov Iface) (mailbox : Mailbox) (armed : Bool)
    (epoch : BitVec 32) :
    (pollJtagMailbox net mailbox armed epoch prov).prov = prov ∨
      mailbox.magic = mailboxMagic ∧ (pollJtagMailbox net mailbox armed epoch prov).prov =
        (applyConfig net prov
          (pollRequest prov mailbox.ip mailbox.gateway mailbox.prefixBits)).2 := by
  unfold pollJtagMailbox
  split
  · exact .inl rfl
  rename_i populated
  dsimp only
  split
  · exact .inl rfl
  split
  · exact .inl rfl
  unfold serviceMailbox
  dsimp only
  split
  · exact .inl rfl
  · exact .inr ⟨not_not.mp populated, rfl⟩

/-- What a packet does: it leaves the settings but for the offer, or applies the CONFIG that it
is, and a response reports the settings that are left. -/
structure HandledWell (net : NetIf Iface) (prov : Prov Iface) (buf : List Byte)
    (handled : Handled Iface) : Prop where
  settings : prov.SameAddress handled.prov ∨
    ∃ request, decodeMessage buf = some request ∧ request.op = provConfig ∧
      (applyConfig net prov request).2.SameAddress handled.prov
  frame : ∀ frame ∈ handled.frame, ∃ op status xid,
    frame = sendResponse handled.prov op status xid

/-- Every branch of the loop's body for a packet does so. The cases are those of the body, in
its order; only the last calls `apply_config`, behind the test of the operation. -/
theorem handle_well (net : NetIf Iface) (prov : Prov Iface) (cycles : BitVec 32)
    (buf : List Byte) :
    HandledWell net prov buf (handlePacket net prov cycles buf) := by
  have silent : HandledWell net prov buf ⟨prov, none, none⟩ :=
    ⟨.inl (.refl prov), fun _ none => absurd none (Option.not_mem_none _)⟩
  have answers (op status : Byte) (xid : BitVec 32) :
      HandledWell net prov buf ⟨prov, some (sendResponse prov op status xid), none⟩ := by
    refine ⟨.inl (.refl prov), ?_⟩
    rintro frame ⟨⟩
    exact ⟨op, status, xid, rfl⟩
  unfold handlePacket
  split
  · exact silent
  · rename_i request decoded
    split
    · refine ⟨.inl ⟨rfl, rfl, rfl, rfl, rfl, rfl⟩, ?_⟩
      rintro frame ⟨⟩
      exact ⟨_, _, _, rfl⟩
    split
    · exact silent
    rename_i addressed
    have config : request.op = provConfig := not_not.mp (not_or.mp addressed).1
    split
    · exact answers _ _ _
    split
    · exact answers _ _ _
    cases applied : applyConfig net prov request with
    | mk ret settings =>
    dsimp only
    have result : (applyConfig net prov request).2 = settings := congrArg Prod.snd applied
    split
    · refine ⟨.inr ⟨request, decoded, config, result ▸ .refl _⟩, ?_⟩
      rintro frame ⟨⟩
      exact ⟨_, _, _, rfl⟩
    · refine ⟨.inr ⟨request, decoded, config, ?_⟩, ?_⟩
      · rw [result]
        exact ⟨rfl, rfl, rfl, rfl, rfl, rfl⟩
      · rintro frame ⟨⟩
        exact ⟨_, _, _, rfl⟩

/-- A property of the settings, in the light of the labels taken so far, that every step of the
board keeps: more labels do not hurt it, it does not depend on the offer, and applying a request
that one of the labels brought keeps it. -/
structure SettingsProperty (net : NetIf Iface)
    (property : List LifetimeLabel → Prov Iface → Prop) : Prop where
  later : ∀ labels label prov, property labels prov → property (labels ++ [label]) prov
  same : ∀ labels prov next, prov.SameAddress next → property labels prov → property labels next
  applied : ∀ labels prov request, Brought labels request → property labels prov →
    property labels (applyConfig net prov request).2

section Lifetime

variable {net : NetIf Iface} {start : Prov Iface} {board after : ProvisionBoard Iface}
  {property : List LifetimeLabel → Prov Iface → Prop} {labels : List LifetimeLabel}

/-- A turn keeps such a property, and it holds of the settings that the turn's response
reports. The poll comes first and brings its own words; the packet that is handled behind it
was brought when it was put on the queue. -/
theorem turn_property (kept : SettingsProperty net property) (before : property labels board.prov)
    (queued : ∀ packet ∈ board.provRxQueue, .ingress packet ∈ labels) (mailbox : Mailbox)
    (cycles : BitVec 32) :
    property (labels ++ [.turn mailbox cycles]) (provisionTurn net board mailbox cycles).prov ∧
      ∀ frame ∈ (provisionTurn net board mailbox cycles).sent, frame ∈ board.sent ∨
        ∃ prov op status xid, property (labels ++ [.turn mailbox cycles]) prov ∧
          frame = sendResponse prov op status xid := by
  have polled : property (labels ++ [.turn mailbox cycles])
      (pollJtagMailbox net mailbox board.armed board.lastAppliedEpoch board.prov).prov := by
    have earlier := kept.later labels (.turn mailbox cycles) board.prov before
    rcases poll_settings net board.prov mailbox board.armed board.lastAppliedEpoch with
      unmoved | ⟨populated, moved⟩
    · rw [unmoved]
      exact earlier
    · rw [moved]
      apply kept.applied _ _ _ _ earlier
      exact ⟨.turn mailbox cycles, List.mem_append_right _ (List.mem_singleton_self _),
        .mailbox populated⟩
  unfold provisionTurn
  dsimp only
  generalize pollJtagMailbox net mailbox board.armed board.lastAppliedEpoch board.prov = poll
    at polled
  split
  · exact ⟨polled, fun frame earlier => .inl earlier⟩
  · rename_i buf queue waiting
    obtain ⟨settings, frames⟩ := handle_well net poll.prov cycles buf
    have handled : property (labels ++ [.turn mailbox cycles])
        (handlePacket net poll.prov cycles buf).prov := by
      rcases settings with unmoved | ⟨request, decoded, config, moved⟩
      · exact kept.same _ _ _ unmoved polled
      · have brought : .ingress buf ∈ labels :=
          queued buf (by rw [waiting]; exact List.mem_cons_self)
        apply kept.same _ _ _ moved
        apply kept.applied _ _ _ _ polled
        exact ⟨.ingress buf, List.mem_append_left _ brought, .packet decoded config⟩
    refine ⟨handled, ?_⟩
    intro frame member
    rcases List.mem_append.mp member with earlier | last
    · exact .inl earlier
    · obtain ⟨op, status, xid, reported⟩ := frames frame (Option.mem_toList.mp last)
      exact .inr ⟨_, op, status, xid, handled, reported⟩

/-- Every packet on the queue came in with some label of the trace. -/
def QueueBrought (state : ProvisionBoard Iface × List LifetimeLabel) : Prop :=
  ∀ packet ∈ state.1.provRxQueue, .ingress packet ∈ state.2

/-- A step keeps that: ingress puts its own packet on the queue, and a turn only takes one
off. -/
theorem queue_brought_step {before after : ProvisionBoard Iface × List LifetimeLabel}
    {label : LifetimeLabel} (brought : QueueBrought before)
    (taken : traced (lifetimeStep net) before label = some after) : QueueBrought after := by
  obtain ⟨moved, trace⟩ := traced_step taken
  have older (packet : List Byte) (waiting : packet ∈ before.1.provRxQueue) :
      .ingress packet ∈ after.2 := by
    rw [trace]
    exact List.mem_append_left _ (brought packet waiting)
  intro packet member
  cases label with
  | ingress payload =>
    rw [← Option.some.inj moved] at member
    unfold emaczProvisionIngress at member
    split at member
    · exact older packet member
    split at member
    · rcases List.mem_append.mp member with earlier | last
      · exact older packet earlier
      · rw [List.mem_singleton.mp last, trace]
        exact List.mem_append_right _ (List.mem_singleton_self _)
    · exact older packet member
  | turn mailbox cycles =>
    rw [← Option.some.inj moved] at member
    unfold provisionTurn at member
    dsimp only at member
    split at member
    · exact older packet member
    · rename_i buf queue waiting
      apply older
      rw [waiting]
      exact List.mem_cons_of_mem buf member

/-- The same over a whole run: the property holds of the settings, and it held of the settings
of every response when it was sent. The induction is on the run; the queue's part of the
invariant says where its packets came from. -/
theorem lifetime_property (property : List LifetimeLabel → Prov Iface → Prop)
    (kept : SettingsProperty net property) (initially : property [] start)
    (run : Run (traced (lifetimeStep net)) Unrestricted (startedBoard start, []) (board, labels)) :
    property labels board.prov ∧ ∀ frame ∈ board.sent, ∃ earlier prov op status xid,
      earlier <+: labels ∧ property earlier prov ∧ frame = sendResponse prov op status xid := by
  have invariant := run.invariant (fun state => (property state.2 state.1.prov ∧
    ∀ frame ∈ state.1.sent, ∃ earlier prov op status xid, earlier <+: state.2 ∧
      property earlier prov ∧ frame = sendResponse prov op status xid) ∧ QueueBrought state)
    ⟨⟨initially, fun _ none => absurd none List.not_mem_nil⟩,
      fun _ none => absurd none List.not_mem_nil⟩
  refine (invariant ?_).1
  rintro before label after ⟨⟨holds, reported⟩, brought⟩ _ taken
  refine ⟨?_, queue_brought_step brought taken⟩
  obtain ⟨moved, trace⟩ := traced_step taken
  have older (frame : List Byte) (member : frame ∈ before.1.sent) :
      ∃ earlier prov op status xid, earlier <+: after.2 ∧ property earlier prov ∧
        frame = sendResponse prov op status xid := by
    obtain ⟨earlier, prov, op, status, xid, part, reported⟩ := reported frame member
    exact ⟨earlier, prov, op, status, xid, trace ▸ part.trans (List.prefix_append _ _), reported⟩
  cases label with
  | ingress payload =>
    rw [← Option.some.inj moved]
    exact ⟨trace ▸ kept.later _ _ _ holds, older⟩
  | turn mailbox cycles =>
    obtain ⟨settings, frames⟩ := turn_property kept holds brought mailbox cycles
    rw [trace, ← Option.some.inj moved]
    refine ⟨settings, ?_⟩
    intro frame member
    rcases frames frame member with earlier | ⟨prov, op, status, xid, now, reports⟩
    · exact trace ▸ older frame earlier
    · exact ⟨_, prov, op, status, xid, List.prefix_rfl, now, reports⟩

end Lifetime

/-- The settings can be installed, by the board's own test. -/
def Prov.Usable (prov : Prov Iface) : Prop :=
  addrIsUsable prov.provAddr prov.provPrefix prov.provGateway = true

/-- The host tool reads a response of this board in the payload, and accepts the
configuration it reports. -/
def ReportsUsable (mac : BitVec 48) (frame : List Byte) : Prop :=
  ∃ message, Host.decodeMessage (udpPayload frame) = some message ∧ message.mac = mac ∧
    Python.validateConfig message.ip message.prefixBits.toNat message.gateway = .ok ()

/-- What holds of a board whose network interface may do anything. -/
structure BoardSound (mac : BitVec 48) (board : ProvisionBoard Iface) : Prop where
  usable : board.prov.Usable
  ownMac : board.prov.provMac = mac
  few : board.provRxQueue.length ≤ provRxQueueSize
  packets : ∀ packet ∈ board.provRxQueue, packet.length = provPacketSize
  sent : ∀ frame ∈ board.sent, ReportsUsable mac frame

section Sound

variable {net : NetIf Iface} {prov next : Prov Iface} {mac : BitVec 48}

/-- Settings that stay, stay usable. -/
theorem Prov.SameAddress.usable (same : prov.SameAddress next) (usable : prov.Usable) :
    next.Usable := by
  rw [Prov.Usable, same.addr, same.prefixBits, same.gateway]
  exact usable

/-- `apply_config` installs a usable request or keeps the settings, so these are always usable. -/
theorem apply_keeps_usable (net : NetIf Iface) (usable : prov.Usable) (request : ProvMessage) :
    (applyConfig net prov request).2.Usable := by
  obtain ⟨-, ⟨-, valid, -, addr, gateway, prefixBits⟩ | ⟨-, addr, gateway, prefixBits⟩⟩ :=
    apply_cases net prov request
  · rw [Prov.Usable, addr, gateway, prefixBits]
    exact valid
  · rw [Prov.Usable, addr, gateway, prefixBits]
    exact usable

/-- A response reports the settings, and usable ones if these are usable, to every host that
decodes it. -/
theorem response_reports (usable : prov.Usable) (op status : Byte) (xid : BitVec 32) :
    ReportsUsable prov.provMac (sendResponse prov op status xid) := by
  refine ⟨(responseMessage prov op status xid).toHost, ?_, rfl, ?_⟩
  · rw [response_payload]
    exact host_decode_encode _ rfl
  · rw [Python.valid_iff]
    exact (usable_valid _ _ _).symm.trans usable

/-- The start leaves the bootstrap settings, but for the interface and the mark. -/
theorem attach_settings (net : NetIf Iface) (prov : Prov Iface) :
    prov.SameSettings (attachBootstrap net prov).2 ∧
      (attachBootstrap net prov).2.provMac = prov.provMac := by
  unfold attachBootstrap
  dsimp only
  split
  · exact ⟨⟨rfl, rfl, rfl⟩, rfl⟩
  · exact ⟨⟨rfl, rfl, rfl⟩, rfl⟩

/-- When the thread starts, it starts with the bootstrap address of its link address, and the
interface as the calls have left it. -/
theorem started_prov {iface : Iface} {linkAddr : List Byte} {up : Int}
    (started : (emaczProvisionStart net (some iface) (some linkAddr) up).2 = some prov) :
    prov = (attachBootstrap net (bootstrapProv iface (get48 linkAddr 0))).2 := by
  unfold emaczProvisionStart at started
  dsimp only at started
  split at started
  · cases started
  · exact (Option.some.inj started).symm

/-- The queue holds at most as many packets as it has room for, all of the protocol's length. -/
theorem queue_bounded {start : Prov Iface} {board : ProvisionBoard Iface}
    (run : Run (lifetimeStep net) Unrestricted (startedBoard start) board) :
    board.provRxQueue.length ≤ provRxQueueSize ∧
      ∀ packet ∈ board.provRxQueue, packet.length = provPacketSize := by
  apply run.invariant (fun board => board.provRxQueue.length ≤ provRxQueueSize ∧
    ∀ packet ∈ board.provRxQueue, packet.length = provPacketSize)
  · exact ⟨Nat.zero_le _, fun _ none => absurd none List.not_mem_nil⟩
  · rintro before label after ⟨few, packets⟩ _ taken
    cases label with
    | ingress payload =>
      obtain rfl := Option.some.inj taken
      unfold emaczProvisionIngress
      split
      · exact ⟨few, packets⟩
      · rename_i length
        split
        · rename_i room
          refine ⟨?_, ?_⟩
          · rw [List.length_append]
            exact room
          intro packet member
          rcases List.mem_append.mp member with earlier | last
          · exact packets packet earlier
          · rw [List.mem_singleton.mp last]
            exact not_not.mp length
        · exact ⟨few, packets⟩
    | turn mailbox cycles =>
      obtain rfl := Option.some.inj taken
      unfold provisionTurn
      dsimp only
      split
      · exact ⟨few, packets⟩
      · rename_i buf queue waiting
        rw [waiting] at few packets
        refine ⟨(Nat.le_succ _).trans few, ?_⟩
        intro packet member
        exact packets packet (List.mem_cons_of_mem buf member)

end Sound

/-- For every network interface, MAC, start and run of ingress, mailbox words and turns: the
settings are always usable, the queue is bounded, and every response reports a configuration that
the host tool accepts.

Proof: usability and the MAC are kept by every application of a request, successful or not, and
the start installs settings that have them. Each response was made by settings in some earlier
state of the run. -/
theorem provision_always_usable (net : NetIf Iface) (iface : Iface) (linkAddr : List Byte)
    (up : Int) (prov : Prov Iface) (board : ProvisionBoard Iface)
    (started : (emaczProvisionStart net (some iface) (some linkAddr) up).2 = some prov)
    (run : Run (lifetimeStep net) Unrestricted (startedBoard prov) board) :
    BoardSound (get48 linkAddr 0) board := by
  have initially : prov.Usable ∧ prov.provMac = get48 linkAddr 0 := by
    obtain ⟨⟨addr, gateway, prefixBits⟩, mac⟩ :=
      attach_settings net (bootstrapProv iface (get48 linkAddr 0))
    rw [started_prov started]
    refine ⟨?_, mac⟩
    rw [Prov.Usable, addr, gateway, prefixBits]
    exact bootstrap_usable _
  have kept : SettingsProperty net fun _ settings =>
      settings.Usable ∧ settings.provMac = get48 linkAddr 0 := by
    constructor
    · exact fun _ _ _ holds => holds
    · exact fun _ _ _ same holds => ⟨same.usable holds.1, same.mac.trans holds.2⟩
    · exact fun _ settings request _ holds => ⟨apply_keeps_usable net holds.1 request,
        (apply_cases net settings request).1.1.trans holds.2⟩
  obtain ⟨labels, whole⟩ := run.traced
  obtain ⟨⟨usable, mac⟩, frames⟩ := lifetime_property _ kept initially whole
  obtain ⟨few, packets⟩ := queue_bounded run
  refine ⟨usable, mac, few, packets, ?_⟩
  intro frame member
  obtain ⟨-, settings, op, status, xid, -, ⟨reported, same⟩, rfl⟩ := frames frame member
  rw [← same]
  exact response_reports reported op status xid

/-- The link address `02:00:00:00:01:02`, for the witnesses. -/
def sampleLinkAddr : List Byte := [2#8, 0#8, 0#8, 0#8, 1#8, 2#8]

/-- A DISCOVER with the transaction 7, for the witnesses. -/
def sampleDiscover : ProvMessage where
  version := provVersion
  op := provDiscover
  status := 0#8
  prefixBits := 0#8
  xid := 7#32
  mac := 0#48
  ip := 0#32
  gateway := 0#32
  token := 0#32

/-- The theorem over a run in which every call into the interface fails: the board still answers
a DISCOVER, with usable settings. -/
theorem provision_always_usable_refused :
    ∃ (prov : Prov InterfaceTable) (board : ProvisionBoard InterfaceTable),
    (emaczProvisionStart (tableNetIf (fun _ => true) id) (some ⟨⟨absent, 0⟩, 0#32⟩)
      (some sampleLinkAddr) 0).2 = some prov ∧ board.sent.length = 1 ∧
      BoardSound (get48 sampleLinkAddr 0) board := by
  obtain ⟨board, run, sent⟩ := run_of_execution
    (lifetimeStep (tableNetIf (fun _ => true) id)) (fun _ _ => true)
    (startedBoard (attachBootstrap (tableNetIf (fun _ => true) id)
      (bootstrapProv ⟨⟨absent, 0⟩, 0#32⟩ (get48 sampleLinkAddr 0))).2)
    [.ingress (encodeMessage sampleDiscover),
      .turn ⟨0#32, 0#32, 0#32, 0#32, 0#32, 0#32, 0#32, 0⟩ 5#32]
    (fun board => decide (board.sent.length = 1)) (fun _ _ _ => trivial) (by decide +kernel)
  exact ⟨_, board, rfl, of_decide_eq_true sent,
    provision_always_usable (tableNetIf (fun _ => true) id) ⟨⟨absent, 0⟩, 0#32⟩ sampleLinkAddr 0 _
      board rfl run⟩

/-- Among a failing call and the three behind it no other fails. -/
def FailuresApart (fails : Nat → Bool) : Prop :=
  ∀ call later, fails call = true → call < later → later ≤ call + 3 → fails later = false

/-- The addresses that may be on the interface behind the labels: those it held before the
start, the bootstrap address, and those that some label asked for in a request that passes the
check. -/
def knownAddresses (initial : InterfaceTable) (mac : BitVec 48) (labels : List LifetimeLabel) :
    Set (BitVec 32) :=
  {address | (initial.addresses.entries address).isSome = true ∨ address = bootstrapAddr mac ∨
    ∃ label ∈ labels, ∃ prefixBits gateway, label.Brings address prefixBits gateway ∧
      addrIsUsable address prefixBits gateway = true}

/-- Every address in the table is one of these. -/
def AllKnown (known : Set (BitVec 32)) (iface : InterfaceTable) : Prop :=
  ∀ address, (iface.addresses.entries address).isSome = true → address ∈ known

/-- The mark says whether the address of the settings is in the table. -/
def Prov.Marked (prov : Prov InterfaceTable) : Prop :=
  prov.provAddrInstalled = true ↔ prov.Attached prov.provAddr

/-- The settings are still those of the bootstrap: its address, its prefix and no gateway. -/
structure Prov.Bootstrap (mac : BitVec 48) (prov : Prov Iface) : Prop where
  addr : prov.provAddr = bootstrapAddr mac
  gateway : prov.provGateway = 0#32
  prefixBits : prov.provPrefix = bootstrapPrefix

/-- The gateway of the interface is that of the settings; or the settings are those of the
bootstrap, as before the first request, and the interface has the gateway it had before the
start. -/
def Prov.GatewayKept (initial : InterfaceTable) (mac : BitVec 48) (prov : Prov InterfaceTable) :
    Prop :=
  prov.provIface.gateway = prov.provGateway ∨
    prov.Bootstrap mac ∧ prov.provIface.gateway = initial.gateway

/-- The table holds the address of the settings with its mask, and nothing else. -/
def Prov.Alone (prov : Prov InterfaceTable) : Prop :=
  prov.provAddrInstalled = true ∧
    prov.provIface.addresses.entries = single prov.provAddr (prefixToMask prov.provPrefix)

/-- The settings speak for the table, behind the labels of a board with this MAC. -/
structure OwnsTable (fails : Nat → Bool) (initial : InterfaceTable) (mac : BitVec 48)
    (labels : List LifetimeLabel) (prov : Prov InterfaceTable) : Prop where
  usable : prov.Usable
  marked : prov.Marked
  /-- The reported address is the bootstrap address or was asked for. -/
  reported : prov.provAddr ∈ knownAddresses initial mac labels
  known : AllKnown (knownAddresses initial mac labels) prov.provIface
  gateway : prov.GatewayKept initial mac
  /-- On an empty interface, when both calls of the start work and later failures are far
  apart, the address is there, with its mask and alone. -/
  alone : initial.addresses.entries = absent → FailuresApart fails →
    fails initial.addresses.calls = false → fails (initial.addresses.calls + 1) = false →
    prov.Alone

section Table

variable {fails : Nat → Bool} {freshMask : BitVec 32 → BitVec 32} {initial : InterfaceTable}
  {mac : BitVec 48} {labels : List LifetimeLabel} {known : Set (BitVec 32)}
  {prov next : Prov InterfaceTable} {request : ProvMessage} {code : Int}

/-- A usable request that some label brought makes its address known. -/
theorem brought_known (brought : Brought labels request)
    (valid : addrIsUsable request.ip request.prefixBits request.gateway = true) :
    request.ip ∈ knownAddresses initial mac labels := by
  obtain ⟨label, member, brings⟩ := brought
  exact .inr (.inr ⟨label, member, _, _, brings, valid⟩)

/-- More labels leave the addresses known, and may add some. -/
theorem known_grows (label : LifetimeLabel) : knownAddresses initial mac labels ⊆
    knownAddresses initial mac (labels ++ [label]) := by
  rintro address (before | bootstrap | ⟨earlier, member, brought⟩)
  · exact .inl before
  · exact .inr (.inl bootstrap)
  · exact .inr (.inr ⟨earlier, List.mem_append_left _ member, brought⟩)

/-- Putting the old address back takes at most two calls into the interface. -/
theorem restore_calls (fails : Nat → Bool) (freshMask : BitVec 32 → BitVec 32)
    (prov : Prov InterfaceTable) (oldAddr : BitVec 32) :
    (restoreAddr (tableNetIf fails freshMask) prov oldAddr).provIface.addresses.calls ≤
      prov.provIface.addresses.calls + 2 := by
  have added := (addr_add_cases fails freshMask prov.provIface oldAddr).2.1
  unfold restoreAddr
  dsimp only
  split
  · refine Nat.le_of_eq (Eq.trans assign_calls ?_)
    exact congrArg Nat.succ added
  · exact added.le.trans (Nat.le_succ _)

section Calls

variable {iface after : InterfaceTable} {worked : Bool} {address mask : BitVec 32}

/-- Removing an address brings none into the table, whether or not the call works. -/
theorem known_rm (all : AllKnown known iface)
    (removing : (tableNetIf fails freshMask).addrRm iface address = (worked, after)) :
    AllKnown known after := by
  obtain ⟨rfl, rfl⟩ := Prod.mk.inj removing
  intro other present
  exact all other (remove_subset present)

/-- Adding an address brings at most that one. -/
theorem known_add (all : AllKnown known iface) (usable : address ∈ known)
    (adding : (tableNetIf fails freshMask).addrAdd iface address = (worked, after)) :
    AllKnown known after := by
  obtain ⟨rfl, rfl⟩ := Prod.mk.inj adding
  intro other present
  rcases insert_subset present with earlier | rfl
  · exact all other earlier
  · exact usable

/-- Setting a mask brings no address. -/
theorem known_mask (all : AllKnown known iface)
    (masking : (tableNetIf fails freshMask).setNetmaskByAddr iface address mask =
      (worked, after)) : AllKnown known after := by
  obtain ⟨rfl, rfl⟩ := Prod.mk.inj masking
  intro other present
  exact all other ((assign_present other).symm.trans present)

/-- `apply_config` begins with at most a removal, which brings no address. -/
theorem known_removed (all : AllKnown known prov.provIface)
    (removing : removeAddr (tableNetIf fails freshMask) prov = (worked, after)) :
    AllKnown known after := by
  unfold removeAddr at removing
  split at removing
  · exact known_rm all removing
  · obtain ⟨rfl, rfl⟩ := Prod.mk.inj removing
    exact all

end Calls

/-- Putting the old address back brings at most that address, whichever of its two calls
fail. -/
theorem known_restore (freshMask : BitVec 32 → BitVec 32)
    (all : AllKnown known prov.provIface) {oldAddr : BitVec 32}
    (usable : oldAddr ∈ known) :
    AllKnown known (restoreAddr (tableNetIf fails freshMask) prov oldAddr).provIface := by
  unfold restoreAddr
  cases adding : (tableNetIf fails freshMask).addrAdd prov.provIface oldAddr with
  | mk added inserted =>
  have added_known := known_add all usable adding
  cases added with
  | false => exact added_known
  | true =>
    cases masking : (tableNetIf fails freshMask).setNetmaskByAddr inserted oldAddr
      (prefixToMask prov.provPrefix) with
    | mk masked updated =>
    simp only [if_true, masking]
    exact known_mask added_known masking

/-- `apply_config` brings only the address of the request, or the old one back; one case for each
way through it. -/
theorem known_applied (old : prov.provAddr ∈ known) (new : request.ip ∈ known)
    (all : AllKnown known prov.provIface)
    (outcome : ApplyOutcome (tableNetIf fails freshMask) prov request code next) :
    AllKnown known next.provIface := by
  cases outcome with
  | unusable => exact all
  | attached removing => exact known_removed all removing
  | full removing adding =>
    apply known_restore freshMask ?_ old
    exact known_add (known_removed all removing) new adding
  | unmasked removing adding masking dropping =>
    apply known_restore freshMask ?_ old
    exact known_rm (known_mask (known_add (known_removed all removing) new adding) masking)
      dropping
  | applied removing adding masking =>
    have masked : AllKnown known _ :=
      known_mask (known_add (known_removed all removing) new adding) masking
    exact masked

/-- The address of the settings is put back and marked, or it is not there and not marked. -/
theorem restored_marked (removed : Prov InterfaceTable)
    (uninstalled : removed.provAddrInstalled = false) :
    (restoreAddr (tableNetIf fails freshMask) removed removed.provAddr).Marked := by
  have address := (restore_same (tableNetIf fails freshMask) removed removed.provAddr).2.1
  unfold Prov.Marked
  rw [address]
  exact (restore_effect freshMask uninstalled removed.provAddr).marks

/-- The mark stays right over `apply_config`, on each way through it. -/
theorem applied_marked (marked : prov.Marked)
    (outcome : ApplyOutcome (tableNetIf fails freshMask) prov request code next) :
    next.Marked := by
  cases outcome with
  | unusable => exact marked
  | @attached iface removing =>
    unfold removeAddr at removing
    split at removing
    · rename_i installed
      have removal := addr_rm_cases fails freshMask (marked.mp installed)
      rw [removing] at removal
      obtain ⟨-, -, ⟨-, same, -⟩ | ⟨impossible, -⟩⟩ := removal
      · refine marked.trans ?_
        unfold Prov.Attached
        rw [show iface.addresses.entries = prov.provIface.addresses.entries from same]
      · cases impossible
    · cases removing
  | full removing adding =>
    exact restored_marked { prov with provIface := _, provAddrInstalled := false } rfl
  | unmasked removing adding masking dropping =>
    exact restored_marked { prov with provIface := _, provAddrInstalled := false } rfl
  | @applied iface inserted updated removing adding masking =>
    refine iff_of_true rfl ?_
    have addition := addr_add_cases fails freshMask iface request.ip
    rw [adding] at addition
    obtain ⟨-, -, ⟨impossible, -⟩ | ⟨-, here, -⟩⟩ := addition
    · cases impossible
    · have assignment := set_netmask_cases fails freshMask (prefixToMask request.prefixBits) here
      rw [masking] at assignment
      exact assignment.2.2.1

/-- Settings that are alone in the table own it. -/
theorem Prov.Alone.owner (alone : prov.Alone) : prov.OnlyOwner := by
  intro address
  unfold Prov.Attached
  rw [alone.2]
  by_cases same : address = prov.provAddr
  · simp [same, alone.1]
  · simp [single_other same, same]

/-- Behind a failure the old address is put back whole, when the calls for this do not fail in
their turn. -/
theorem restored_alone (removed : Prov InterfaceTable)
    (uninstalled : removed.provAddrInstalled = false)
    (empty : removed.provIface.addresses.entries = absent)
    (works : ∀ call, removed.provIface.addresses.calls ≤ call →
      call ≤ removed.provIface.addresses.calls + 1 → fails call = false) :
    (restoreAddr (tableNetIf fails freshMask) removed removed.provAddr).Alone := by
  obtain ⟨address, -, mask⟩ := (restore_same (tableNetIf fails freshMask) removed
    removed.provAddr).2
  have bounded := restore_calls fails freshMask removed removed.provAddr
  obtain ⟨installed, whole⟩ := (restore_effect freshMask uninstalled removed.provAddr).whole
    empty fun call begun before => works call begun (by omega)
  refine ⟨installed, ?_⟩
  rw [address, mask]
  exact whole

/-- When failures are far apart, `apply_config` leaves one address with its mask, the new one or
the old one. -/
theorem applied_alone (apart : FailuresApart fails) (alone : prov.Alone)
    (outcome : ApplyOutcome (tableNetIf fails freshMask) prov request code next) :
    next.Alone := by
  have owner := alone.owner
  cases outcome with
  | unusable => exact alone
  | @attached iface removing =>
    have removal := remove_addr_cases fails freshMask owner
    rw [removing] at removal
    obtain ⟨-, -, ⟨-, same⟩ | ⟨impossible, -⟩⟩ := removal
    · exact ⟨alone.1, same.trans alone.2⟩
    · cases impossible
  | @full iface inserted removing adding =>
    obtain ⟨-, -, empty⟩ := removed_empty owner removing
    obtain ⟨-, counted, unchanged, failing⟩ := add_failed adding
    apply restored_alone { prov with provIface := inserted, provAddrInstalled := false } rfl
      (unchanged.trans empty)
    intro call begun before
    apply apart _ call failing
    · simp only at begun
      omega
    · simp only at before
      omega
  | @unmasked iface inserted updated last removed removing adding masking dropping =>
    obtain ⟨-, -, empty⟩ := removed_empty owner removing
    obtain ⟨-, -, whole⟩ := add_worked empty adding
    have present : (inserted.addresses.entries request.ip).isSome = true := by
      rw [whole, single_self]
      rfl
    obtain ⟨-, assigned, same, failing⟩ := mask_failed present masking
    have drop := addr_rm_cases fails freshMask
      (show (updated.addresses.entries request.ip).isSome = true from same ▸ present)
    rw [dropping] at drop
    obtain ⟨-, counted, drop⟩ := drop
    simp only at counted
    apply restored_alone { prov with provIface := last, provAddrInstalled := false } rfl
    · rcases drop with ⟨-, -, again⟩ | ⟨-, entries⟩
      · unfold Table.Failing at again
        rw [apart _ _ failing (by omega) (by omega)] at again
        cases again
      · exact entries.trans (by rw [same, whole, update_single_none])
    · intro call begun before
      simp only at begun before
      exact apart _ call failing (by omega) (by omega)
  | applied removing adding masking =>
    obtain ⟨-, -, empty⟩ := removed_empty owner removing
    obtain ⟨-, -, whole⟩ := add_worked empty adding
    have masked := mask_worked whole masking
    exact ⟨rfl, masked⟩

/-- Putting the old address back does not touch the gateway of the interface. -/
theorem restored_gateway (prov : Prov InterfaceTable) (oldAddr : BitVec 32) :
    (restoreAddr (tableNetIf fails freshMask) prov oldAddr).provIface.gateway =
      prov.provIface.gateway := by
  unfold restoreAddr
  dsimp only
  split
  · rfl
  · rfl

/-- Neither does the removal at the beginning. -/
theorem removed_gateway {iface : InterfaceTable} {removed : Bool}
    (removing : removeAddr (tableNetIf fails freshMask) prov = (removed, iface)) :
    iface.gateway = prov.provIface.gateway := by
  unfold removeAddr at removing
  split at removing
  · obtain ⟨-, rfl⟩ := Prod.mk.inj removing
    rfl
  · obtain ⟨-, rfl⟩ := Prod.mk.inj removing
    rfl

/-- Settings and a gateway that both stay keep the gateways in agreement. -/
theorem Prov.GatewayKept.failed (kept : prov.GatewayKept initial mac)
    {failing : Prov InterfaceTable}
    (same : prov.SameSettings failing)
    (gateway : failing.provIface.gateway = prov.provIface.gateway) :
    failing.GatewayKept initial mac := by
  obtain ⟨address, settings, prefixBits⟩ := same
  unfold Prov.GatewayKept
  rw [settings, gateway]
  rcases kept with agrees | ⟨bootstrap, unset⟩
  · exact .inl agrees
  · exact .inr ⟨⟨address.trans bootstrap.addr, settings.trans bootstrap.gateway,
      prefixBits.trans bootstrap.prefixBits⟩, unset⟩

/-- `apply_config` sets both gateways at its end, and a failure before that keeps both. -/
theorem applied_gateway (kept : prov.GatewayKept initial mac)
    (outcome : ApplyOutcome (tableNetIf fails freshMask) prov request code next) :
    next.GatewayKept initial mac := by
  cases outcome with
  | unusable => exact kept
  | attached removing => exact kept.failed ⟨rfl, rfl, rfl⟩ (removed_gateway removing)
  | full removing adding =>
    have gateway := removed_gateway removing
    refine kept.failed (restore_same _ _ _).2 ((restored_gateway _ _).trans ?_)
    obtain ⟨-, rfl⟩ := Prod.mk.inj adding
    exact gateway
  | unmasked removing adding masking dropping =>
    have gateway := removed_gateway removing
    refine kept.failed (restore_same _ _ _).2 ((restored_gateway _ _).trans ?_)
    obtain ⟨-, rfl⟩ := Prod.mk.inj adding
    obtain ⟨-, rfl⟩ := Prod.mk.inj masking
    obtain ⟨-, rfl⟩ := Prod.mk.inj dropping
    exact gateway
  | applied removing adding masking => exact .inl rfl

/-- A request that is not usable is refused before any call, with nothing changed. -/
theorem apply_unusable (invalid : addrIsUsable request.ip request.prefixBits request.gateway =
    false) : applyConfig (tableNetIf fails freshMask) prov request = (-einval, prov) := by
  unfold applyConfig
  exact if_pos invalid

/-- A request that a label brought keeps the settings in charge of the table, whatever fails. -/
theorem applied_owns (brought : Brought labels request)
    (owns : OwnsTable fails initial mac labels prov) :
    OwnsTable fails initial mac labels
      (applyConfig (tableNetIf fails freshMask) prov request).2 := by
  cases valid : addrIsUsable request.ip request.prefixBits request.gateway with
  | false =>
    rw [apply_unusable valid]
    exact owns
  | true =>
    have outcome := apply_config_outcome (tableNetIf fails freshMask) prov request
    have new : request.ip ∈ knownAddresses initial mac labels := brought_known brought valid
    constructor
    · exact apply_keeps_usable _ owns.usable request
    · exact applied_marked owns.marked outcome
    · obtain ⟨-, ⟨-, -, -, addr, -, -⟩ | ⟨-, addr, -, -⟩⟩ :=
        apply_cases (tableNetIf fails freshMask) prov request
      · rw [addr]
        exact new
      · rw [addr]
        exact owns.reported
    · exact known_applied owns.reported new owns.known outcome
    · exact applied_gateway owns.gateway outcome
    · intro empty apart first second
      exact applied_alone apart (owns.alone empty apart first second) outcome

/-- A new offer changes nothing of the settings and of the table. -/
theorem same_owns (same : prov.SameAddress next) (owns : OwnsTable fails initial mac labels prov) :
    OwnsTable fails initial mac labels next := by
  constructor
  · exact same.usable owns.usable
  · unfold Prov.Marked Prov.Attached
    rw [same.installed, same.iface, same.addr]
    exact owns.marked
  · rw [same.addr]
    exact owns.reported
  · rw [same.iface]
    exact owns.known
  · unfold Prov.GatewayKept
    rw [same.iface, same.gateway]
    rcases owns.gateway with agrees | ⟨bootstrap, unset⟩
    · exact .inl agrees
    · exact .inr ⟨⟨same.addr.trans bootstrap.addr, same.gateway.trans bootstrap.gateway,
        same.prefixBits.trans bootstrap.prefixBits⟩, unset⟩
  · intro empty apart first second
    unfold Prov.Alone
    rw [same.installed, same.iface, same.addr, same.prefixBits]
    exact owns.alone empty apart first second

/-- More labels leave the settings in charge of the table, since they only add known addresses. -/
theorem OwnsTable.later (owns : OwnsTable fails initial mac labels prov) (label : LifetimeLabel) :
    OwnsTable fails initial mac (labels ++ [label]) prov where
  usable := owns.usable
  marked := owns.marked
  reported := known_grows label owns.reported
  known := fun address present => known_grows label (owns.known address present)
  gateway := owns.gateway
  alone := owns.alone

/-- Every step of the board keeps the settings in charge: a new offer, an application on each of
its ways, and the labels that bring nothing. -/
theorem owns_kept (fails : Nat → Bool) (freshMask : BitVec 32 → BitVec 32)
    (initial : InterfaceTable) (mac : BitVec 48) :
    SettingsProperty (tableNetIf fails freshMask) (OwnsTable fails initial mac) where
  later _ label _ owns := owns.later label
  same _ _ _ same owns := same_owns same owns
  applied _ _ _ brought owns := applied_owns brought owns

/-- The bootstrap settings agree with the gateway that the interface had before. -/
theorem bootstrap_gateway {iface : InterfaceTable} (unset : iface.gateway = initial.gateway)
    (installed : Bool) :
    ({ bootstrapProv iface mac with provAddrInstalled := installed } :
      Prov InterfaceTable).GatewayKept initial mac :=
  .inr ⟨⟨rfl, rfl, rfl⟩, unset⟩

/-- The start leaves the settings in charge. Its calls are an addition and, when it works, a
mask. -/
theorem attach_owns (fails : Nat → Bool) (freshMask : BitVec 32 → BitVec 32)
    (initial : InterfaceTable) (mac : BitVec 48) :
    OwnsTable fails initial mac []
      (attachBootstrap (tableNetIf fails freshMask) (bootstrapProv initial mac)).2 := by
  have bootstrap : bootstrapAddr mac ∈ knownAddresses initial mac [] := .inr (.inl rfl)
  have same : AllKnown (knownAddresses initial mac []) initial := fun _ present => .inl present
  obtain ⟨gateway, counted, outcome⟩ :=
    addr_add_cases fails freshMask initial (bootstrapAddr mac)
  have settings := (attach_settings (tableNetIf fails freshMask) (bootstrapProv initial mac)).1
  have valid : (attachBootstrap (tableNetIf fails freshMask)
      (bootstrapProv initial mac)).2.Usable := by
    rw [Prov.Usable, settings.1, settings.2.1, settings.2.2]
    exact bootstrap_usable mac
  unfold attachBootstrap at valid ⊢
  cases adding : (tableNetIf fails freshMask).addrAdd initial (bootstrapAddr mac) with
  | mk added inserted =>
  rw [adding] at gateway counted outcome
  simp only [bootstrapProv, adding] at valid ⊢
  rcases outcome with ⟨rfl, unchanged, missing, failing⟩ | ⟨rfl, here, whole⟩
  · constructor
    · exact valid
    · simp only at unchanged
      simp [Prov.Marked, Prov.Attached, unchanged, missing]
    · exact bootstrap
    · exact known_add same bootstrap adding
    · exact bootstrap_gateway gateway false
    · intro _ _ first _
      unfold Table.Failing at failing
      rw [first] at failing
      cases failing
  · have assignment := set_netmask_cases fails freshMask (prefixToMask bootstrapPrefix) here
    cases masking : (tableNetIf fails freshMask).setNetmaskByAddr inserted (bootstrapAddr mac)
      (prefixToMask bootstrapPrefix) with
    | mk masked updated =>
    rw [masking] at assignment
    obtain ⟨kept, -, present, outcome⟩ := assignment
    simp only [masking, Bool.true_eq_false, if_false] at valid ⊢
    constructor
    · exact valid
    · exact iff_of_true rfl present
    · exact bootstrap
    · exact known_mask (known_add same bootstrap adding) masking
    · exact bootstrap_gateway (kept.trans gateway) true
    · intro empty _ _ second
      refine ⟨rfl, ?_⟩
      rcases outcome with ⟨-, -, failing⟩ | ⟨-, entries⟩
      · unfold Table.Failing at failing
        rw [show inserted.addresses.calls = _ from counted, second] at failing
        cases failing
      · simp only at entries whole
        exact entries.trans (by rw [whole empty, update_single_some])

end Table

/-- For every schedule of failing calls, every table at the start and every run with its trace:
the mark is right, only addresses of the start or of usable requests of the trace are on the
interface, and the settings speak for the table. Every response reports settings that did so when
it was sent.

Proof: what the table holds is kept by each application of a request of the trace. A step adds to
the trace only what it serves, so facts about a shorter trace hold for the longer one. -/
theorem provision_owns_address (fails : Nat → Bool) (freshMask : BitVec 32 → BitVec 32)
    (initial : InterfaceTable) (linkAddr : List Byte) (up : Int) (prov : Prov InterfaceTable)
    (board : ProvisionBoard InterfaceTable) (labels : List LifetimeLabel)
    (started : (emaczProvisionStart (tableNetIf fails freshMask) (some initial) (some linkAddr)
      up).2 = some prov)
    (run : Run (traced (lifetimeStep (tableNetIf fails freshMask))) Unrestricted
      (startedBoard prov, []) (board, labels)) :
    OwnsTable fails initial (get48 linkAddr 0) labels board.prov ∧
      ∀ frame ∈ board.sent, ∃ earlier settings op status xid, earlier <+: labels ∧
        OwnsTable fails initial (get48 linkAddr 0) earlier settings ∧
        frame = sendResponse settings op status xid := by
  apply lifetime_property (OwnsTable fails initial (get48 linkAddr 0))
    (owns_kept fails freshMask initial (get48 linkAddr 0)) _ run
  rw [started_prov started]
  exact attach_owns fails freshMask initial _

/-- A mailbox that asks for `192.168.1.20`, published with the first epoch. -/
def sampleRequested : Mailbox where
  magic := mailboxMagic
  epoch := 1#32
  ip := 0xc0a80114#32
  gateway := 0xc0a80101#32
  prefixBits := 24#32
  reserved := 0#32
  ackEpoch := 0#32
  status := 0

/-- The interface whose fifth call fails. -/
def sampleFailing : NetIf InterfaceTable := tableNetIf (fun call => call == 4) id

/-- The settings of a start on the empty interface whose fifth call fails. -/
def sampleStarted : Prov InterfaceTable :=
  (attachBootstrap sampleFailing (bootstrapProv ⟨⟨absent, 0⟩, 0#32⟩ (get48 sampleLinkAddr 0))).2

/-- The mask of the new address is refused, and the bootstrap address comes back alone. -/
theorem provision_owns_address_undone :
    let board := provisionTurn sampleFailing (startedBoard sampleStarted) sampleRequested 5#32
    (emaczProvisionStart sampleFailing (some ⟨⟨absent, 0⟩, 0#32⟩) (some sampleLinkAddr) 0).2 =
        some sampleStarted ∧
      board.prov.provAddr = bootstrapAddr (get48 sampleLinkAddr 0) ∧ board.prov.Alone ∧
      AllKnown (knownAddresses ⟨⟨absent, 0⟩, 0#32⟩ (get48 sampleLinkAddr 0)
        [.turn sampleRequested 5#32]) board.prov.provIface := by
  intro board
  have taken : traced (lifetimeStep sampleFailing) (startedBoard sampleStarted, [])
      (.turn sampleRequested 5#32) = some (board, [.turn sampleRequested 5#32]) := rfl
  have owns := (provision_owns_address (fun call => call == 4) id ⟨⟨absent, 0⟩, 0#32⟩
    sampleLinkAddr 0 sampleStarted board _ rfl (.step .rest trivial taken)).1
  refine ⟨rfl, by decide +kernel, owns.alone rfl ?_ rfl rfl, owns.known⟩
  intro call later failing after _
  rw [beq_iff_eq] at failing
  rw [beq_eq_false_iff_ne]
  omega

end EmaczZephyr.Provision
