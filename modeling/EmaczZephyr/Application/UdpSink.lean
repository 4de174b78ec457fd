import EmaczZephyr.Foundation.GuardedReads
import EmaczZephyr.Provision.Board
import EmaczZephyr.Statistics.SinkSeqlock

/-!
# The receive interceptor

`udp_sink_intercept` looks at every received frame in interrupt context. It counts the UDP
datagrams to the sink's port, hands those to the provisioning port on, and leaves the rest
to the network stack. Every read is checked against the length of the frame, which is not
trusted to be that of a datagram; the lengths in the headers are not trusted either.
-/

namespace EmaczZephyr.Application

open BigEndian GuardedReads Provision Statistics

/-- `UDP_SINK_PORT`, the UDP destination port that the sink counts. -/
def udpSinkPort : BitVec 16 := 5001#16
/-- `IPPROTO_UDP`, the protocol number of UDP in an IPv4 header. -/
def ipprotoUdp : Byte := 17#8

/-- The return value, the counters and the queue behind the call, and the payload that was
handed to `emacz_provision_ingress`. -/
structure Intercepted where
  taken : Bool
  page : Page
  queue : List (List Byte)
  passed : Option (List Byte)

/-- `sink_account_packet`, whole: the sequence word goes up, the stores are made in order, and
the sequence word goes up again. -/
def accountPacket (page : Page) (payloadLen now : BitVec 32) : Page :=
  incrementSeq ((sinkAccountPacket page payloadLen now).foldl
    (fun page store => Function.update page store.1 store.2) (incrementSeq page))

/-- `udp_sink_intercept`, when the cycle counter shows `now`, check by check in the order of the
source; a read outside of the frame would be `none`. -/
def udpSinkIntercept (frame : List Byte) (len : Nat) (mac : Option (BitVec 48))
    (now : BitVec 32) (page : Page) (queue : List (List Byte)) : Option Intercepted :=
  let pass : Option Intercepted := some ⟨false, page, queue, none⟩
  if len < 42 then pass
  else match mac with
  | none => pass
  | some mac => do
      let etherType ← read16 frame len 12
      if etherType ≠ 0x0800#16 then pass else
      let versionIhl ← read8 frame len 14
      if versionIhl >>> 4 ≠ 4#8 ∨ versionIhl &&& 0x0f#8 < 5#8 then pass else
      let protocol ← read8 frame len 23
      if protocol ≠ ipprotoUdp then pass else
      let ipHeaderLen := (versionIhl &&& 0x0f#8).toNat * 4
      let ipTotalLen ← read16 frame len 16
      let udpOffset := 14 + ipHeaderLen
      if ipTotalLen.toNat < ipHeaderLen + 8 ∨ len < 14 + ipTotalLen.toNat then pass else
      let fragment ← read16 frame len 20
      if fragment &&& 0x3fff#16 ≠ 0#16 ∨ len < udpOffset + 8 then pass else
      let udpLen ← read16 frame len (udpOffset + 4)
      if udpLen.toNat < 8 ∨ ipTotalLen.toNat - ipHeaderLen < udpLen.toNat ∨
          len < udpOffset + udpLen.toNat then pass else
      let port ← read16 frame len (udpOffset + 2)
      let destination ← read48 frame len 0
      if port = provisionPort ∧ (destination = BitVec.allOnes 48 ∨ destination = mac) then do
        let payload ← readBytes frame len (udpOffset + 8) (udpLen.toNat - 8)
        let (taken, queue) := emaczProvisionIngress queue payload
        some ⟨taken, page, queue, some payload⟩
      else if port ≠ udpSinkPort ∨ destination ≠ mac then pass
      else
        some ⟨true, accountPacket page (BitVec.ofNat 32 (udpLen.toNat - 8)) now, queue, none⟩

/-- The length that the IP header says it has, four bytes for each unit of the lower half of its
first byte. -/
def ipHeaderLen (frame : List Byte) : Nat := (get8 frame 14 &&& 0x0f#8).toNat * 4

/-- The length that the IP header says the datagram has. -/
def ipTotalLen (frame : List Byte) : Nat := (get16 frame 16).toNat

/-- Where the UDP header begins, behind the Ethernet header and an IP header of whatever length. -/
def udpOffset (frame : List Byte) : Nat := 14 + ipHeaderLen frame

/-- The length that the UDP header says it has with its payload. -/
def udpLen (frame : List Byte) : Nat := (get16 frame (udpOffset frame + 4)).toNat

/-- The destination port of the UDP header. -/
def udpPort (frame : List Byte) : BitVec 16 := get16 frame (udpOffset frame + 2)

/-- The link address that the frame is for, which is its first six bytes. -/
def destinationMac (frame : List Byte) : BitVec 48 := get48 frame 0

/-- The payload of the UDP datagram by its own length field, so without what Ethernet pads a
short frame with. -/
def payloadOf (frame : List Byte) : List Byte :=
  (frame.drop (udpOffset frame + 8)).take (udpLen frame - 8)

/-- The first `len` bytes are an unfragmented IPv4 frame with a UDP datagram, whose lengths
lie one within the other. -/
structure UdpFrame (frame : List Byte) (len : Nat) : Prop where
  etherType : get16 frame 12 = 0x0800#16
  version : get8 frame 14 >>> 4 = 4#8
  header : 5 ≤ (get8 frame 14 &&& 0x0f#8).toNat
  protocol : get8 frame 23 = ipprotoUdp
  unfragmented : get16 frame 20 &&& 0x3fff#16 = 0#16
  covers : ipHeaderLen frame + 8 ≤ ipTotalLen frame
  within : 14 + ipTotalLen frame ≤ len
  shortest : 8 ≤ udpLen frame
  longest : udpLen frame ≤ ipTotalLen frame - ipHeaderLen frame

/-- A datagram that the sink is to count: UDP for this board's link address and the port of the
sink. -/
def SinkFrame (frame : List Byte) (len : Nat) (mac : BitVec 48) : Prop :=
  UdpFrame frame len ∧ destinationMac frame = mac ∧ udpPort frame = udpSinkPort

/-- A datagram that is to be handed to the provisioning thread: UDP to its port, for this board
or for all. -/
def ProvisionFrame (frame : List Byte) (len : Nat) (mac : BitVec 48) : Prop :=
  UdpFrame frame len ∧ udpPort frame = provisionPort ∧
    (destinationMac frame = BitVec.allOnes 48 ∨ destinationMac frame = mac)

section Intercept

variable {frame : List Byte} {len : Nat} {mac : BitVec 48} {now : BitVec 32} {page : Page}
  {queue : List (List Byte)}

/-- The headers of a datagram take 42 bytes at least, which is the first test of the source. -/
theorem UdpFrame.long (udp : UdpFrame frame len) : 42 ≤ len := by
  have header := udp.header
  have covers := udp.covers
  have within := udp.within
  unfold ipHeaderLen at covers
  omega

/-- The payload ends inside the frame, since the IP length bounds the UDP length and the frame
bounds the IP length. -/
theorem UdpFrame.ends (udp : UdpFrame frame len) : udpOffset frame + udpLen frame ≤ len := by
  have covers := udp.covers
  have within := udp.within
  have longest := udp.longest
  unfold udpOffset
  omega

/-- What is done with a datagram once all checks have passed: hand it to provisioning, count it,
or leave it. -/
def dispatch (frame : List Byte) (mac : BitVec 48) (now : BitVec 32) (page : Page)
    (queue : List (List Byte)) : Intercepted :=
  if udpPort frame = provisionPort ∧
      (destinationMac frame = BitVec.allOnes 48 ∨ destinationMac frame = mac) then
    ⟨(emaczProvisionIngress queue (payloadOf frame)).1, page,
      (emaczProvisionIngress queue (payloadOf frame)).2, some (payloadOf frame)⟩
  else if udpPort frame ≠ udpSinkPort ∨ destinationMac frame ≠ mac then ⟨false, page, queue, none⟩
  else ⟨true, accountPacket page (BitVec.ofNat 32 (udpLen frame - 8)) now, queue, none⟩

open Classical in
/-- The checks of the source are the grammar, and every read is inside of the frame; each check
that fails is one condition of the grammar that does not hold. -/
theorem intercept_eq (frame : List Byte) (len : Nat) (mac : BitVec 48) (now : BitVec 32)
    (page : Page) (queue : List (List Byte)) :
    udpSinkIntercept frame len (some mac) now page queue =
      some (if UdpFrame frame len then dispatch frame mac now page queue
        else ⟨false, page, queue, none⟩) := by
  unfold udpSinkIntercept
  by_cases short : len < 42
  · rw [if_pos short, if_neg fun udp => absurd udp.long (by omega)]
  rw [if_neg short]
  simp only [read16_inside (show 12 + 1 < len by omega), read8_inside (show 14 < len by omega),
    read8_inside (show 23 < len by omega), read16_inside (show 16 + 1 < len by omega),
    read16_inside (show 20 + 1 < len by omega), read48_inside (show 0 + 5 < len by omega),
    Option.bind_eq_bind, Option.bind_some]
  by_cases etherType : get16 frame 12 ≠ 0x0800#16
  · rw [if_pos etherType, if_neg fun udp => etherType udp.etherType]
  by_cases version : get8 frame 14 >>> 4 ≠ 4#8 ∨ get8 frame 14 &&& 0x0f#8 < 5#8
  · rw [if_neg etherType, if_pos version, if_neg]
    rintro udp
    rcases version with other | small
    · exact other udp.version
    · exact absurd (BitVec.lt_def.mp small) (Nat.not_lt.mpr udp.header)
  by_cases protocol : get8 frame 23 ≠ ipprotoUdp
  · rw [if_neg etherType, if_neg version, if_pos protocol, if_neg fun udp => protocol udp.protocol]
  rw [if_neg etherType, if_neg version, if_neg protocol]
  by_cases total : (get16 frame 16).toNat < (get8 frame 14 &&& 0x0f#8).toNat * 4 + 8 ∨
      len < 14 + (get16 frame 16).toNat
  · rw [if_pos total, if_neg fun udp => total.elim (Nat.not_lt.mpr udp.covers)
      (Nat.not_lt.mpr udp.within)]
  rw [if_neg total]
  have offset : 14 + (get8 frame 14 &&& 0x0f#8).toNat * 4 = udpOffset frame := rfl
  have inside : udpOffset frame + 8 ≤ len := by omega
  simp only [offset, read16_inside (show udpOffset frame + 4 + 1 < len by omega),
    read16_inside (show udpOffset frame + 2 + 1 < len by omega), Option.bind_some]
  by_cases fragment : get16 frame 20 &&& 0x3fff#16 ≠ 0#16 ∨ len < udpOffset frame + 8
  · rw [if_pos fragment, if_neg]
    intro udp
    exact fragment.elim (fun fragmented => fragmented udp.unfragmented) (Nat.not_lt.mpr inside)
  rw [if_neg fragment]
  by_cases size : udpLen frame < 8 ∨ ipTotalLen frame - ipHeaderLen frame < udpLen frame ∨
      len < udpOffset frame + udpLen frame
  · refine (if_pos size).trans ?_
    rw [if_neg]
    intro udp
    have longest := udp.longest
    have within := udp.within
    have covers := udp.covers
    have shortest := udp.shortest
    unfold udpOffset at size
    omega
  refine (if_neg size).trans ?_
  obtain ⟨shortest, longest, ends⟩ : 8 ≤ udpLen frame ∧
      udpLen frame ≤ ipTotalLen frame - ipHeaderLen frame ∧
      udpOffset frame + udpLen frame ≤ len := by omega
  have udp : UdpFrame frame len := by
    obtain ⟨same, known⟩ := not_or.mp version
    obtain ⟨covers, within⟩ := not_or.mp total
    exact ⟨not_not.mp etherType, not_not.mp same,
      Nat.not_lt.mp fun small => known (BitVec.lt_def.mpr small), not_not.mp protocol,
      not_not.mp (not_or.mp fragment).1, Nat.not_lt.mp covers, Nat.not_lt.mp within, shortest,
      longest⟩
  have copied : readBytes frame len (udpOffset frame + 8) (udpLen frame - 8) =
      some (payloadOf frame) := readBytes_inside (by omega)
  rw [if_pos udp]
  change (if udpPort frame = provisionPort ∧ (destinationMac frame = BitVec.allOnes 48 ∨
    destinationMac frame = mac) then
      (readBytes frame len (udpOffset frame + 8) (udpLen frame - 8)).bind _ else _) = _
  rw [copied, dispatch]
  split
  · rfl
  · by_cases other : udpPort frame ≠ udpSinkPort ∨ destinationMac frame ≠ mac
    · rw [if_pos other]
      exact if_pos other
    · rw [if_neg other]
      exact if_neg other

/-- The words that the account of a packet writes are different words of the page, a finite check
of the layout. -/
theorem account_words_distinct :
    [wordOf "sink_seq", wordOf "sink_first_cycle", wordOf "sink_packets",
      wordOf "sink_packets" + 1, wordOf "sink_bytes", wordOf "sink_bytes" + 1,
      wordOf "sink_last_len", wordOf "sink_last_cycle"].Nodup := by
  obtain ⟨seq, -, offsets⟩ := sink_offsets
  simp only [sinkFields, List.map_cons, List.map_nil, List.cons.injEq, and_true] at offsets
  obtain ⟨packets, bytes, -, -, -, -, -, -, first, last, length⟩ := offsets
  rw [word_of_offset seq, word_of_offset first, word_of_offset packets, word_of_offset bytes,
    word_of_offset length, word_of_offset last]
  decide

/-- A 64-bit value is its two words, the high one in front of the low one. -/
theorem words_of_quad (value : BitVec 64) :
    value.extractLsb' 32 32 ++ value.extractLsb' 0 32 = value := by
  rw [BitVec.extractLsb'_append_extractLsb'_eq_extractLsb' (by decide)]
  simp

/-- Stores to other words keep a word of the page, however many there are. -/
theorem stores_keep {stores : List Store} {index : Nat}
    (elsewhere : ∀ store ∈ stores, index ≠ store.1) (page : Page) :
    stores.foldl (fun page store => Function.update page store.1 store.2) page index =
      page index := by
  induction stores generalizing page with
  | nil => rfl
  | cons store rest hypothesis =>
      rw [List.foldl_cons, hypothesis fun other member =>
        elsewhere other (List.mem_cons_of_mem store member)]
      exact Function.update_of_ne (elsewhere store List.mem_cons_self) _ _

/-- The two stores to a field write it, if no store that follows is to it. -/
theorem stores_write (earlier : List Store) {later : List Store} {name : String}
    (value : BitVec 64) (page : Page)
    (elsewhere : ∀ store ∈ later, wordOf name ≠ store.1 ∧ wordOf name + 1 ≠ store.1) :
    load64 ((earlier ++ (store64 name value ++ later)).foldl
      (fun page store => Function.update page store.1 store.2) page) name = value := by
  rw [List.foldl_append, List.foldl_append, load64,
    stores_keep fun store member => (elsewhere store member).1,
    stores_keep fun store member => (elsewhere store member).2]
  simp only [store64, List.foldl_cons, List.foldl_nil, Function.update_self,
    Function.update_of_ne (Nat.ne_add_one (wordOf name))]
  exact words_of_quad value

/-- A field that does not include the sequence word is left alone when the sequence word goes up. -/
theorem load_increment {name : String} (page : Page) (low : wordOf name ≠ wordOf "sink_seq")
    (high : wordOf name + 1 ≠ wordOf "sink_seq") :
    load64 (incrementSeq page) name = load64 page name := by
  rw [load64, incrementSeq, Function.update_of_ne low, Function.update_of_ne high, load64]

/-- The account adds one packet and the bytes of its payload, modulo 2^64, and the second
increment of the sequence word does not disturb either. -/
theorem account_packet_counts (page : Page) (payloadLen now : BitVec 32) :
    load64 (accountPacket page payloadLen now) "sink_packets" =
        load64 page "sink_packets" + 1#64 ∧
      load64 (accountPacket page payloadLen now) "sink_bytes" =
        load64 page "sink_bytes" + payloadLen.setWidth 64 := by
  have distinct := account_words_distinct
  simp only [List.nodup_cons, List.mem_cons, List.not_mem_nil, or_false, not_or] at distinct
  obtain ⟨seq, first, packets, packetsHigh, bytes, bytesHigh, -⟩ := distinct
  constructor
  · rw [accountPacket, load_increment _ (Ne.symm seq.2.1) (Ne.symm seq.2.2.1), sinkAccountPacket,
      List.append_assoc, List.append_assoc, List.append_assoc]
    refine stores_write _ _ _ ?_
    simp only [store64, store32, List.mem_append, List.mem_cons, List.not_mem_nil, or_false]
    rintro store ((rfl | rfl) | rfl | rfl)
    · exact ⟨packets.2.1, packetsHigh.1⟩
    · exact ⟨packets.2.2.1, packetsHigh.2.1⟩
    · exact ⟨packets.2.2.2.1, packetsHigh.2.2.1⟩
    · exact ⟨packets.2.2.2.2, packetsHigh.2.2.2⟩
  · rw [accountPacket, load_increment _ (Ne.symm seq.2.2.2.1) (Ne.symm seq.2.2.2.2.1),
      sinkAccountPacket, List.append_assoc, List.append_assoc]
    refine stores_write _ _ _ ?_
    simp only [store32, List.mem_append, List.mem_cons, List.not_mem_nil, or_false]
    rintro store (rfl | rfl)
    · exact ⟨bytes.2.1, bytesHigh.1⟩
    · exact ⟨bytes.2.2, bytesHigh.2⟩

/-- The ingress takes what has the size of a message, and nothing else. -/
theorem ingress_taken (queue : List (List Byte)) (payload : List Byte) :
    (emaczProvisionIngress queue payload).1 = true ↔ payload.length = 36 := by
  rw [emaczProvisionIngress]
  split
  · rename_i other
    exact ⟨fun taken => Bool.noConfusion taken, fun length => absurd length other⟩
  · rename_i same
    split <;> exact ⟨fun _ => not_not.mp same, fun _ => rfl⟩

/-- One packet more, and the bytes of the frame's payload. -/
def Counted (before after : Page) (frame : List Byte) : Prop :=
  load64 after "sink_packets" = load64 before "sink_packets" + 1#64 ∧
    load64 after "sink_bytes" = load64 before "sink_bytes" + BitVec.ofNat 64 (udpLen frame - 8)

/-- A page does not count a packet as long as it is left as it was, because the packet counter
would have to differ from itself. -/
theorem not_counted (page : Page) (frame : List Byte) : ¬ Counted page page frame := by
  rintro ⟨packets, -⟩
  exact absurd packets (by simp)

/-- The length of a payload fits the 32-bit argument of the account, so the bytes are counted in
full. -/
theorem account_packet_counted (page : Page) (frame : List Byte) (now : BitVec 32) :
    Counted page (accountPacket page (BitVec.ofNat 32 (udpLen frame - 8)) now) frame := by
  obtain ⟨packets, bytes⟩ := account_packet_counts page (BitVec.ofNat 32 (udpLen frame - 8)) now
  refine ⟨packets, bytes.trans (congrArg _ (BitVec.eq_of_toNat_eq ?_))⟩
  have small : udpLen frame < 2 ^ 16 := (get16 frame (udpOffset frame + 4)).isLt
  simp only [BitVec.toNat_setWidth, BitVec.toNat_ofNat]
  omega

/-- The ports of the sink and of provisioning are two ports, so no datagram is of both kinds. -/
theorem ports_differ : udpSinkPort ≠ provisionPort := by decide

/-- What becomes of a frame, by the grammar: counted, handed over with exactly its payload, or
left for the stack with nothing changed. -/
structure Accepted (frame : List Byte) (len : Nat) (mac : BitVec 48) (page : Page)
    (queue : List (List Byte)) (outcome : Intercepted) : Prop where
  counted : outcome.taken = true ∧ Counted page outcome.page frame ↔ SinkFrame frame len mac
  queueKept : SinkFrame frame len mac → outcome.queue = queue
  handed : outcome.passed.isSome ↔ ProvisionFrame frame len mac
  payload : ∀ payload, outcome.passed = some payload →
    payload = payloadOf frame ∧ payload.length = udpLen frame - 8 ∧
      udpOffset frame + udpLen frame ≤ len ∧ (outcome.taken = true ↔ payload.length = 36) ∧
      outcome.page = page ∧ outcome.queue = (emaczProvisionIngress queue payload).2
  rest : ¬ SinkFrame frame len mac → ¬ ProvisionFrame frame len mac →
    outcome = ⟨false, page, queue, none⟩

/-- A frame of neither kind is left as it is, and that is the right outcome for it. -/
theorem accepted_rest (sink : ¬ SinkFrame frame len mac)
    (provision : ¬ ProvisionFrame frame len mac) :
    Accepted frame len mac page queue ⟨false, page, queue, none⟩ where
  counted := ⟨fun counted => absurd counted.2 (not_counted page frame),
    fun counted => absurd counted sink⟩
  queueKept _ := rfl
  handed := ⟨fun handed => Bool.noConfusion handed, fun handed => absurd handed provision⟩
  payload := by rintro _ ⟨⟩
  rest _ _ := rfl

/-- Every read lies inside the frame. A frame is counted exactly when it is a datagram to the
sink, it is handed on exactly when it is one to the provisioning port, and nothing is done with
any other.

Proof: the interceptor is first brought into the form of its four tests. Then the frame is split
by what it is: no UDP datagram, one to the provisioning port, one to another port or board, or
one to the sink. -/
theorem udp_sink_accepts (frame : List Byte) (len : Nat) (inside : len ≤ frame.length)
    (mac : BitVec 48) (now : BitVec 32) (page : Page) (queue : List (List Byte)) :
    ∃ outcome, udpSinkIntercept frame len (some mac) now page queue = some outcome ∧
      Accepted frame len mac page queue outcome := by
  refine ⟨_, intercept_eq frame len mac now page queue, ?_⟩
  by_cases udp : UdpFrame frame len
  swap
  · rw [if_neg udp]
    exact accepted_rest (fun sink => udp sink.1) fun provision => udp provision.1
  rw [if_pos udp, dispatch]
  by_cases provision : udpPort frame = provisionPort ∧
      (destinationMac frame = BitVec.allOnes 48 ∨ destinationMac frame = mac)
  · rw [if_pos provision]
    have sink : ¬ SinkFrame frame len mac := fun sink =>
      ports_differ (sink.2.2.symm.trans provision.1)
    have length : (payloadOf frame).length = udpLen frame - 8 := by
      have ends := udp.ends
      have shortest := udp.shortest
      simp only [payloadOf, List.length_take, List.length_drop]
      omega
    refine ⟨⟨fun counted => absurd counted.2 (not_counted page frame), fun counted =>
      absurd counted sink⟩, fun counted => absurd counted sink, ⟨fun _ => ⟨udp, provision⟩,
      fun _ => rfl⟩, ?_, fun _ other => absurd ⟨udp, provision⟩ other⟩
    rintro payload ⟨⟩
    exact ⟨rfl, length, udp.ends, ingress_taken queue _, rfl, rfl⟩
  rw [if_neg provision]
  have provision : ¬ ProvisionFrame frame len mac := fun handed => provision handed.2
  by_cases other : udpPort frame ≠ udpSinkPort ∨ destinationMac frame ≠ mac
  · rw [if_pos other]
    refine accepted_rest ?_ provision
    rintro ⟨-, own, port⟩
    exact other.elim (fun differs => differs port) fun differs => differs own
  · rw [if_neg other]
    obtain ⟨port, own⟩ := not_or.mp other
    have sink : SinkFrame frame len mac := ⟨udp, not_not.mp own, not_not.mp port⟩
    exact ⟨⟨fun _ => sink, fun _ => ⟨rfl, account_packet_counted page frame now⟩⟩, fun _ => rfl,
      ⟨fun handed => Bool.noConfusion handed, fun handed => absurd handed provision⟩,
      by rintro _ ⟨⟩, fun other => absurd sink other⟩

/-- A datagram of two bytes to the sink, behind an IP header with an option. -/
def sampleDatagram : List Byte :=
  [2#8, 0#8, 0#8, 0#8, 0#8, 1#8, 2#8, 0#8, 0#8, 0#8, 0#8, 2#8, 0x08#8, 0x00#8,
    0x46#8, 0#8, 0#8, 34#8, 0#8, 0#8, 0x40#8, 0#8, 64#8, 17#8, 0#8, 0#8,
    10#8, 0#8, 0#8, 1#8, 10#8, 0#8, 0#8, 2#8, 1#8, 1#8, 1#8, 1#8,
    0x13#8, 0x89#8, 0x13#8, 0x89#8, 0#8, 10#8, 0#8, 0#8, 0xaa#8, 0xbb#8]

/-- The theorem at a datagram with padding behind it, which is for the sink and is counted. -/
theorem udp_sink_accepts_sample :
    SinkFrame sampleDatagram 48 0x020000000001#48 ∧
      ∃ outcome, udpSinkIntercept sampleDatagram 48 (some 0x020000000001#48) 7#32
        (fun _ => 0#32) [] = some outcome ∧
        Accepted sampleDatagram 48 0x020000000001#48 (fun _ => 0#32) [] outcome :=
  ⟨⟨⟨by decide, by decide, by decide, by decide, by decide, by decide, by decide, by decide,
    by decide⟩, by decide, by decide⟩,
    udp_sink_accepts sampleDatagram 48 (by decide) 0x020000000001#48 7#32 (fun _ => 0#32) []⟩

end Intercept

end EmaczZephyr.Application
