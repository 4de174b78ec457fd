import EmaczZephyr.Foundation.GuardedReads
import EmaczZephyr.Foundation.Word32

/-!
# The driver's frame inspectors

Before a frame goes to the network stack, and before one is sent, the driver looks into it:
it classifies the destination and the type, and keeps samples of the last frames. Profile
mode asks whether a frame is one of its own control datagrams. Each function has its own
guards against short frames; only the sums in the samplers are taken on arbitrary offsets,
and these may wrap.
-/

namespace EmaczZephyr.Driver

open BigEndian GuardedReads

/-- `EMZ_ETH_TYPE_IPV4`, the type field of an Ethernet frame with an IPv4 packet. -/
def emzEthTypeIpv4 : BitVec 16 := 0x0800#16
/-- `EMZ_ETH_TYPE_ARP`, the type field of an Ethernet frame with an ARP packet. -/
def emzEthTypeArp : BitVec 16 := 0x0806#16
/-- `EMZ_IP_PROTO_ICMP`, the protocol field of an IPv4 header before an ICMP message. -/
def emzIpProtoIcmp : Byte := 1#8
/-- `EMZ_IP_PROTO_UDP`, the protocol field of an IPv4 header before a UDP datagram. -/
def emzIpProtoUdp : Byte := 17#8
/-- `EMZ_PROFILE_CONTROL_PORT`, the UDP port of the profile control, as the driver knows it. -/
def emzProfileControlPort : BitVec 16 := 5002#16

/-- `emz_sample_be16`: the big-endian half word at an offset, and zero when it is not whole.
Offsets add in 32 bits, and a read outside would be `none`. -/
def emzSampleBe16 (bytes : List Byte) (len offset : Nat) : Option (BitVec 16) :=
  if len ≤ Word32.add offset 1 then some 0#16
  else do
    let high ← read8 bytes len offset
    let low ← read8 bytes len (Word32.add offset 1)
    some (high ++ low)

/-- `emz_sample_be32`: the big-endian word at an offset, and zero when it is not whole. -/
def emzSampleBe32 (bytes : List Byte) (len offset : Nat) : Option (BitVec 32) :=
  if len ≤ Word32.add offset 3 then some 0#32
  else do
    let first ← read8 bytes len offset
    let second ← read8 bytes len (Word32.add offset 1)
    let third ← read8 bytes len (Word32.add offset 2)
    let fourth ← read8 bytes len (Word32.add offset 3)
    some ((first ++ second) ++ (third ++ fourth))

/-- The loop of `emz_sample_word` over the indices that are left. -/
def sampleWordLoop (bytes : List Byte) (len offset : Nat) :
    List Nat → BitVec 32 → Option (BitVec 32)
  | [], word => some word
  | index :: rest, word =>
      if Word32.add offset index < len then do
        let byte ← read8 bytes len (Word32.add offset index)
        sampleWordLoop bytes len offset rest (word ||| byte.setWidth 32 <<< (index * 8))
      else sampleWordLoop bytes len offset rest word

/-- `emz_sample_word`: four bytes in memory order, where a byte beyond the length counts as zero. -/
def emzSampleWord (bytes : List Byte) (len offset : Nat) : Option (BitVec 32) :=
  sampleWordLoop bytes len offset [0, 1, 2, 3] 0#32

/-- The words of a sample from the start of the frame. -/
def sampleWords (bytes : List Byte) (len : Nat) : List Nat → Option (List (BitVec 32))
  | [] => some []
  | offset :: rest => do
      let word ← emzSampleWord bytes len offset
      let words ← sampleWords bytes len rest
      some (word :: words)

/-- The four words that are kept of an ICMP message, of either direction. -/
structure IcmpSample where
  src : BitVec 32
  dst : BitVec 32
  id : BitVec 32
  seq : BitVec 32
deriving Inhabited

/-- The fields of `emaczero_perf_stats` that the inspectors read and write. -/
structure FrameStats where
  rxLastSampleLen : BitVec 32
  rxLastSampleStatus : BitVec 32
  rxLastSampleWords : List (BitVec 32)
  rxBadSampleSeen : BitVec 32
  rxBadSampleLen : BitVec 32
  rxBadSampleStatus : BitVec 32
  rxBadSampleWords : List (BitVec 32)
  rxGoodSampleSeen : BitVec 32
  rxGoodSampleLen : BitVec 32
  rxGoodSampleWords : List (BitVec 32)
  rxLastIcmp : IcmpSample
  txLastIcmp : IcmpSample
  rxPreDstMe : BitVec 32
  rxPreDstBroadcast : BitVec 32
  rxPreDstMulticast : BitVec 32
  rxPreDstOther : BitVec 32
  rxPreTypeIpv4 : BitVec 32
  rxPreTypeArp : BitVec 32
  rxPreTypeOther : BitVec 32
  rxPreIpv4Bad : BitVec 32
  rxPreIpv4Udp : BitVec 32
  rxPreUdpBadLen : BitVec 32
deriving Inhabited

/-- `emz_note_bad_sample`: only the first bad frame since the start is kept, with its length,
status and first sixteen bytes. -/
def emzNoteBadSample (bytes : List Byte) (len : Nat) (status : BitVec 32) (stats : FrameStats) :
    Option FrameStats :=
  if stats.rxBadSampleSeen ≠ 0#32 then some stats
  else do
    let words ← sampleWords bytes len [0, 4, 8, 12]
    some { stats with
      rxBadSampleSeen := 1#32
      rxBadSampleLen := BitVec.ofNat 32 len
      rxBadSampleStatus := status
      rxBadSampleWords := words }

/-- `emz_note_good_sample`: only the first good frame since the start is kept, with its length
and first sixteen bytes. -/
def emzNoteGoodSample (bytes : List Byte) (len : Nat) (stats : FrameStats) : Option FrameStats :=
  if stats.rxGoodSampleSeen ≠ 0#32 then some stats
  else do
    let words ← sampleWords bytes len [0, 4, 8, 12]
    some { stats with
      rxGoodSampleSeen := 1#32
      rxGoodSampleLen := BitVec.ofNat 32 len
      rxGoodSampleWords := words }

/-- `emz_note_last_sample`: every frame overwrites the last one, with its length, status and
first 32 bytes. -/
def emzNoteLastSample (bytes : List Byte) (len : Nat) (status : BitVec 32) (stats : FrameStats) :
    Option FrameStats := do
  let words ← sampleWords bytes len [0, 4, 8, 12, 16, 20, 24, 28]
  some { stats with
    rxLastSampleLen := BitVec.ofNat 32 len
    rxLastSampleStatus := status
    rxLastSampleWords := words }

/-- The words of an ICMP message at `icmp` that both inspectors keep: the two addresses, the
identifier and the sequence number. -/
def sampleIcmp (frame : List Byte) (len icmp : Nat) : Option IcmpSample := do
  let src ← emzSampleBe32 frame len 26
  let dst ← emzSampleBe32 frame len 30
  let id ← emzSampleBe16 frame len (icmp + 4)
  let seq ← emzSampleBe16 frame len (icmp + 6)
  some ⟨src, dst, id.setWidth 32, seq.setWidth 32⟩

/-- `emz_note_tx_icmp`: an outgoing echo is counted and sampled once all of its headers are in
the frame; the tests stand in the order of the source. -/
def emzNoteTxIcmp (frame : List Byte) (len : Nat) (stats : FrameStats) : Option FrameStats :=
  if len < 42 then some stats
  else do
    let ethType ← emzSampleBe16 frame len 12
    if ethType ≠ emzEthTypeIpv4 then some stats else
    let versionIhl ← read8 frame len 14
    if versionIhl >>> 4 ≠ 4#8 then some stats else
    let ihl := (versionIhl &&& 0x0f#8).toNat * 4
    let icmp := 14 + ihl
    if ihl < 20 ∨ len < icmp + 8 then some stats else
    let protocol ← read8 frame len 23
    if protocol ≠ emzIpProtoIcmp then some stats else
    let sample ← sampleIcmp frame len icmp
    some { stats with txLastIcmp := sample }

/-- `emaczero_profile_should_keep_control`: ARP and the UDP datagrams of the control ports are
kept, everything else may be dropped. -/
def emaczeroProfileShouldKeepControl (bytes : Option (List Byte)) (len : Nat) : Option Bool :=
  match bytes with
  | none => some false
  | some bytes =>
      if len < 14 then some false
      else do
        let ethType ← read16 bytes len 12
        if ethType = emzEthTypeArp then some true else
        if ethType ≠ emzEthTypeIpv4 ∨ len < 34 then some false else
        let versionIhl ← read8 bytes len 14
        let ihl : Byte := (versionIhl &&& 0x0f#8) * 4#8
        if ihl < 20#8 ∨ len < 14 + ihl.toNat + 8 then some false else
        let protocol ← read8 bytes len 23
        if protocol ≠ emzIpProtoUdp then some false else
        let udp := 14 + ihl.toNat
        let dstPort ← read16 bytes len (udp + 2)
        some (decide (dstPort = emzProfileControlPort))

/-- The loop over the bytes of the destination that are left. -/
def broadcastLoop (frame : List Byte) (len : Nat) : List Nat → Option Bool
  | [] => some true
  | index :: rest => do
      let byte ← read8 frame len index
      if byte ≠ 0xff#8 then some false else broadcastLoop frame len rest

/-- The destination's class in `emz_note_rx_pre_stack`: this board, broadcast, multicast, or
other, where the last is a bad sample as well. -/
def noteDestination (frame : List Byte) (len : Nat) (status : BitVec 32) (mac : BitVec 48)
    (stats : FrameStats) : Option FrameStats := do
  let broadcast ← broadcastLoop frame len [0, 1, 2, 3, 4, 5]
  let first ← read8 frame len 0
  let multicast := first &&& 0x01#8 ≠ 0#8
  let destination ← read48 frame len 0
  if destination = mac then some { stats with rxPreDstMe := stats.rxPreDstMe + 1#32 }
  else if broadcast then some { stats with rxPreDstBroadcast := stats.rxPreDstBroadcast + 1#32 }
  else if multicast then some { stats with rxPreDstMulticast := stats.rxPreDstMulticast + 1#32 }
  else emzNoteBadSample frame len status { stats with rxPreDstOther := stats.rxPreDstOther + 1#32 }

/-- What `emz_note_rx_pre_stack` does with an IPv4 frame: the header tests, each with a bad
sample, and behind them the protocols. -/
def noteIpv4 (frame : List Byte) (len : Nat) (status : BitVec 32) (stats : FrameStats) :
    Option FrameStats :=
  let bad := emzNoteBadSample frame len status
    { stats with rxPreIpv4Bad := stats.rxPreIpv4Bad + 1#32 }
  if len < 34 then bad
  else do
    let versionIhl ← read8 frame len 14
    if versionIhl >>> 4 ≠ 4#8 ∨ versionIhl &&& 0x0f#8 < 5#8 then bad else
    let ipHeaderLen := (versionIhl &&& 0x0f#8).toNat * 4
    let protocol ← read8 frame len 23
    if protocol = emzIpProtoIcmp then
      let icmpOffset := 14 + ipHeaderLen
      if icmpOffset + 8 ≤ len then do
        let sample ← sampleIcmp frame len icmpOffset
        some { stats with rxLastIcmp := sample }
      else some stats
    else if protocol ≠ emzIpProtoUdp then some stats
    else
      let stats := { stats with rxPreIpv4Udp := stats.rxPreIpv4Udp + 1#32 }
      let udpOffset := 14 + ipHeaderLen
      if len < udpOffset + 8 then
        emzNoteBadSample frame len status
          { stats with rxPreUdpBadLen := stats.rxPreUdpBadLen + 1#32 }
      else emzNoteGoodSample frame len stats

/-- The type's class in `emz_note_rx_pre_stack`: ARP, other, which is a bad sample as well, or
IPv4 with the checks of its header. -/
def noteType (frame : List Byte) (len : Nat) (status : BitVec 32) (stats : FrameStats) :
    Option FrameStats := do
  let ethType ← read16 frame len 12
  if ethType = emzEthTypeArp then some { stats with rxPreTypeArp := stats.rxPreTypeArp + 1#32 }
  else if ethType ≠ emzEthTypeIpv4 then
    emzNoteBadSample frame len status { stats with rxPreTypeOther := stats.rxPreTypeOther + 1#32 }
  else noteIpv4 frame len status { stats with rxPreTypeIpv4 := stats.rxPreTypeIpv4 + 1#32 }

/-- `emz_note_rx_pre_stack`, of a buffer with `len` bytes and this status. -/
def emzNoteRxPreStack (frame : List Byte) (len : Nat) (status : BitVec 32) (mac : BitVec 48)
    (stats : FrameStats) : Option FrameStats := do
  let stats ← emzNoteLastSample frame len status stats
  if len < 14 then
    emzNoteBadSample frame len status { stats with rxPreTypeOther := stats.rxPreTypeOther + 1#32 }
  else
    let stats ← noteDestination frame len status mac stats
    noteType frame len status stats

/-- The counters of destinations, of which each frame counts in exactly one. -/
inductive DestinationClass where
  | me
  | broadcast
  | multicast
  | other
deriving DecidableEq

/-- The counters of types, of which each frame counts in exactly one. -/
inductive TypeClass where
  | ipv4
  | arp
  | other
deriving DecidableEq

/-- The counters of destinations as one family, so that one statement can say that a single one
of them goes up. -/
def FrameStats.destinations (stats : FrameStats) : DestinationClass → BitVec 32
  | .me => stats.rxPreDstMe
  | .broadcast => stats.rxPreDstBroadcast
  | .multicast => stats.rxPreDstMulticast
  | .other => stats.rxPreDstOther

/-- The counters of types as one family, in the same way. -/
def FrameStats.types (stats : FrameStats) : TypeClass → BitVec 32
  | .ipv4 => stats.rxPreTypeIpv4
  | .arp => stats.rxPreTypeArp
  | .other => stats.rxPreTypeOther

/-- One counter of a family goes up by one, and the others stay. -/
def Counts {Key : Type} [DecidableEq Key] (before after : Key → BitVec 32) (one : Key) : Prop :=
  ∀ key, after key = if key = one then before key + 1#32 else before key

/-- The counter that goes up is the only one that does: two classes that both count the frame are
the same class. -/
theorem Counts.unique {Key : Type} [DecidableEq Key] {before after : Key → BitVec 32}
    {one another : Key} (counts : Counts before after one)
    (also : Counts before after another) : another = one := by
  by_contra differs
  have up := also another
  rw [if_pos rfl, counts another, if_neg differs] at up
  exact absurd up (by simp)

/-- No counter of either family changes, which is what samples and the parts behind the classes
leave. -/
def KeepsClasses (before after : FrameStats) : Prop :=
  after.destinations = before.destinations ∧ after.types = before.types

section Inside

variable (frame : List Byte) (len offset : Nat) (status : BitVec 32) (mac : BitVec 48)
  (stats : FrameStats)

/-- The sample of a half word reads inside of the frame at every offset that does not wrap: the
length test covers both bytes. -/
theorem sample_be16_inside (small : offset + 4 < 4294967296) :
    ∃ half, emzSampleBe16 frame len offset = some half := by
  rw [emzSampleBe16, Word32.add_exact (by omega)]
  by_cases short : len ≤ offset + 1
  · exact ⟨_, if_pos short⟩
  · rw [if_neg short, read8_inside (by omega), read8_inside (by omega)]
    exact ⟨_, rfl⟩

/-- The sample of a word reads inside of the frame at every offset that does not wrap: the length
test covers all four bytes. -/
theorem sample_be32_inside (small : offset + 4 < 4294967296) :
    ∃ word, emzSampleBe32 frame len offset = some word := by
  rw [emzSampleBe32, Word32.add_exact (by omega), Word32.add_exact (by omega),
    Word32.add_exact (by omega)]
  by_cases short : len ≤ offset + 3
  · exact ⟨_, if_pos short⟩
  · rw [if_neg short, read8_inside (by omega), read8_inside (by omega),
      read8_inside (by omega), read8_inside (by omega)]
    exact ⟨_, rfl⟩

/-- Each byte of the loop has its own guard, on the very index that is read. -/
theorem sample_loop_inside (indices : List Nat) (word : BitVec 32) :
    ∃ sampled, sampleWordLoop frame len offset indices word = some sampled := by
  induction indices generalizing word with
  | nil => exact ⟨word, rfl⟩
  | cons index rest hypothesis =>
      rw [sampleWordLoop]
      by_cases inside : Word32.add offset index < len
      · rw [if_pos inside, read8_inside inside]
        exact hypothesis _
      · rw [if_neg inside]
        exact hypothesis word

/-- The sample of a word in memory order reads inside of the frame at any offset, for each byte
has its own test. -/
theorem sample_word_inside : ∃ word, emzSampleWord frame len offset = some word :=
  sample_loop_inside frame len offset [0, 1, 2, 3] 0#32

/-- So do all the words of a sample, one after the other. -/
theorem sample_words_inside (offsets : List Nat) :
    ∃ words, sampleWords frame len offsets = some words := by
  induction offsets with
  | nil => exact ⟨[], rfl⟩
  | cons offset rest hypothesis =>
      obtain ⟨word, sampled⟩ := sample_word_inside frame len offset
      obtain ⟨words, more⟩ := hypothesis
      rw [sampleWords, sampled, more]
      exact ⟨_, rfl⟩

/-- A sample of an ICMP message reads inside of the frame, at every place that an IP header can
put the message. -/
theorem sample_icmp_inside (icmp : Nat) (small : icmp + 10 < 4294967296) :
    ∃ sample, sampleIcmp frame len icmp = some sample := by
  obtain ⟨src, source⟩ := sample_be32_inside frame len 26 (by decide)
  obtain ⟨dst, destination⟩ := sample_be32_inside frame len 30 (by decide)
  obtain ⟨id, identifier⟩ := sample_be16_inside frame len (icmp + 4) (by omega)
  obtain ⟨seq, sequence⟩ := sample_be16_inside frame len (icmp + 6) (by omega)
  rw [sampleIcmp, source, destination, identifier, sequence]
  exact ⟨_, rfl⟩

/-- A sample that is kept at most once leaves the classes alone, whatever is stored besides its
four words: either the sample has been taken before, or the words are inside and the store
keeps the counters of both families. -/
theorem once_sampled_inside {seen : Prop} [Decidable seen]
    (store : List (BitVec 32) → FrameStats) (kept : ∀ words, KeepsClasses stats (store words)) :
    ∃ after, (if seen then some stats
      else (sampleWords frame len [0, 4, 8, 12]).bind fun words => some (store words)) =
        some after ∧
    KeepsClasses stats after := by
  obtain ⟨words, sampled⟩ := sample_words_inside frame len [0, 4, 8, 12]
  rw [sampled]
  by_cases taken : seen
  · exact ⟨_, if_pos taken, rfl, rfl⟩
  · exact ⟨_, if_neg taken, kept words⟩

/-- A bad sample reads inside of the frame and leaves the counters of the classes, by the lemma
on samples that are kept once. -/
theorem bad_sample_inside : ∃ after, emzNoteBadSample frame len status stats = some after ∧
    KeepsClasses stats after :=
  once_sampled_inside frame len stats _ fun _ => ⟨rfl, rfl⟩

/-- A good sample reads inside of the frame and leaves the counters of the classes, by the
same lemma. -/
theorem good_sample_inside : ∃ after, emzNoteGoodSample frame len stats = some after ∧
    KeepsClasses stats after :=
  once_sampled_inside frame len stats _ fun _ => ⟨rfl, rfl⟩

/-- The last sample reads inside of the frame and leaves the counters of the classes, whatever
was sampled before. -/
theorem last_sample_inside : ∃ after, emzNoteLastSample frame len status stats = some after ∧
    KeepsClasses stats after := by
  obtain ⟨words, sampled⟩ := sample_words_inside frame len
    [0, 4, 8, 12, 16, 20, 24, 28]
  rw [emzNoteLastSample, sampled]
  exact ⟨_, rfl, rfl, rfl⟩

/-- The IP header has at most 60 bytes by its length field, so offsets behind it do not wrap. -/
theorem header_bounded (versionIhl : Byte) : (versionIhl &&& 0x0f#8).toNat * 4 ≤ 60 := by
  have low : (versionIhl &&& 0x0f#8).toNat ≤ 15 := by
    rw [BitVec.toNat_and]
    exact Nat.and_le_right
  omega

/-- The guard of 42 bytes covers the fixed offsets, and the samplers guard the others. -/
theorem tx_icmp_inside : ∃ after, emzNoteTxIcmp frame len stats = some after := by
  rw [emzNoteTxIcmp]
  by_cases short : len < 42
  · exact ⟨_, if_pos short⟩
  obtain ⟨ethType, sampled⟩ := sample_be16_inside frame len 12 (by decide)
  obtain ⟨sample, icmp⟩ := sample_icmp_inside frame len
    (14 + (get8 frame 14 &&& 0x0f#8).toNat * 4)
    (by have bounded := header_bounded (get8 frame 14); omega)
  simp only [if_neg short, sampled, read8_inside (show 14 < len by omega),
    read8_inside (show 23 < len by omega), icmp, Option.bind_eq_bind, Option.bind_some]
  split_ifs <;> exact ⟨_, rfl⟩

/-- The port is read behind a header that the guard has counted in eight bits. -/
theorem keep_control_inside (bytes : Option (List Byte)) :
    ∃ keep, emaczeroProfileShouldKeepControl bytes len = some keep := by
  cases bytes with
  | none => exact ⟨_, rfl⟩
  | some bytes =>
      rw [emaczeroProfileShouldKeepControl]
      by_cases tiny : len < 14
      · exact ⟨_, if_pos tiny⟩
      simp only [if_neg tiny, read16_inside (show 12 + 1 < len by omega), Option.bind_eq_bind,
        Option.bind_some]
      by_cases arp : get16 bytes 12 = emzEthTypeArp
      · exact ⟨_, if_pos arp⟩
      by_cases short : get16 bytes 12 ≠ emzEthTypeIpv4 ∨ len < 34
      · exact ⟨_, (if_neg arp).trans (if_pos short)⟩
      simp only [if_neg arp, if_neg short, read8_inside (show 14 < len by omega),
        read8_inside (show 23 < len by omega), Option.bind_some]
      by_cases header : (get8 bytes 14 &&& 0x0f#8) * 4#8 < 20#8 ∨
          len < 14 + ((get8 bytes 14 &&& 0x0f#8) * 4#8).toNat + 8
      · exact ⟨_, if_pos header⟩
      rw [if_neg header, read16_inside (by omega)]
      by_cases protocol : get8 bytes 23 ≠ emzIpProtoUdp
      · exact ⟨_, if_pos protocol⟩
      · exact ⟨_, if_neg protocol⟩

/-- The loop over the destination reads no more than its six indices, which are inside of every
frame that gets there. -/
theorem broadcast_inside (indices : List Nat) (inside : ∀ index ∈ indices, index < len) :
    ∃ broadcast, broadcastLoop frame len indices = some broadcast := by
  induction indices with
  | nil => exact ⟨true, rfl⟩
  | cons index rest hypothesis =>
      rw [broadcastLoop, read8_inside (inside index List.mem_cons_self)]
      by_cases other : get8 frame index ≠ 0xff#8
      · exact ⟨false, if_pos other⟩
      · obtain ⟨broadcast, looped⟩ := hypothesis fun later member =>
          inside later (List.mem_cons_of_mem index member)
        exact ⟨broadcast, (if_neg other).trans looped⟩

/-- Exactly one destination's counter goes up, and no type's; the cases are those of the source,
and the bad sample in the last of them keeps the classes. -/
theorem note_destination_counts (long : 14 ≤ len) :
    ∃ after one, noteDestination frame len status mac stats = some after ∧
      Counts stats.destinations after.destinations one ∧ after.types = stats.types := by
  obtain ⟨broadcast, looped⟩ := broadcast_inside frame len [0, 1, 2, 3, 4, 5]
    (show ∀ index ∈ [0, 1, 2, 3, 4, 5], index < len by simp; omega)
  simp only [noteDestination, looped, read8_inside (show 0 < len by omega),
    read48_inside (show 0 + 5 < len by omega), Option.bind_eq_bind, Option.bind_some]
  by_cases own : get48 frame 0 = mac
  · refine ⟨_, .me, if_pos own, ?_, rfl⟩
    rintro (_ | _ | _ | _) <;> rfl
  rw [if_neg own]
  by_cases every : broadcast = true
  · refine ⟨_, .broadcast, if_pos every, ?_, rfl⟩
    rintro (_ | _ | _ | _) <;> rfl
  rw [if_neg every]
  by_cases group : get8 frame 0 &&& 0x01#8 ≠ 0#8
  · refine ⟨_, .multicast, if_pos group, ?_, rfl⟩
    rintro (_ | _ | _ | _) <;> rfl
  rw [if_neg group]
  obtain ⟨after, noted, destinations, types⟩ := bad_sample_inside frame len status
      { stats with rxPreDstOther := stats.rxPreDstOther + 1#32 }
  refine ⟨after, .other, noted, ?_, types⟩
  rw [destinations]
  rintro (_ | _ | _ | _) <;> rfl

/-- What follows of an IPv4 frame behind the type's counter has no class of its own: every exit
is a sample, a protocol counter or nothing. -/
theorem note_ipv4_kept : ∃ after, noteIpv4 frame len status stats = some after ∧
    KeepsClasses stats after := by
  rw [noteIpv4]
  by_cases short : len < 34
  · obtain ⟨after, noted, kept⟩ := bad_sample_inside frame len status
      { stats with rxPreIpv4Bad := stats.rxPreIpv4Bad + 1#32 }
    exact ⟨after, (if_pos short).trans noted, kept⟩
  simp only [if_neg short, read8_inside (show 14 < len by omega),
    read8_inside (show 23 < len by omega), Option.bind_eq_bind, Option.bind_some]
  by_cases version : get8 frame 14 >>> 4 ≠ 4#8 ∨ get8 frame 14 &&& 0x0f#8 < 5#8
  · obtain ⟨after, noted, kept⟩ := bad_sample_inside frame len status
      { stats with rxPreIpv4Bad := stats.rxPreIpv4Bad + 1#32 }
    exact ⟨after, (if_pos version).trans noted, kept⟩
  rw [if_neg version]
  by_cases icmp : get8 frame 23 = emzIpProtoIcmp
  · rw [if_pos icmp]
    by_cases whole : 14 + (get8 frame 14 &&& 0x0f#8).toNat * 4 + 8 ≤ len
    · obtain ⟨sample, sampled⟩ := sample_icmp_inside frame len
        (14 + (get8 frame 14 &&& 0x0f#8).toNat * 4)
        (by have bounded := header_bounded (get8 frame 14); omega)
      rw [if_pos whole, sampled]
      exact ⟨_, rfl, rfl, rfl⟩
    · exact ⟨_, if_neg whole, rfl, rfl⟩
  rw [if_neg icmp]
  by_cases udp : get8 frame 23 ≠ emzIpProtoUdp
  · exact ⟨_, if_pos udp, rfl, rfl⟩
  rw [if_neg udp]
  by_cases cut : len < 14 + (get8 frame 14 &&& 0x0f#8).toNat * 4 + 8
  · obtain ⟨after, noted, kept⟩ := bad_sample_inside frame len status
      { stats with
        rxPreIpv4Udp := stats.rxPreIpv4Udp + 1#32
        rxPreUdpBadLen := stats.rxPreUdpBadLen + 1#32 }
    exact ⟨after, (if_pos cut).trans noted, kept⟩
  · obtain ⟨after, noted, kept⟩ := good_sample_inside frame len
      { stats with rxPreIpv4Udp := stats.rxPreIpv4Udp + 1#32 }
    exact ⟨after, (if_neg cut).trans noted, kept⟩

/-- A frame of another type is counted as one and sampled as bad, which leaves the counters of
destinations. -/
theorem note_other_counts : ∃ after, emzNoteBadSample frame len status
      { stats with rxPreTypeOther := stats.rxPreTypeOther + 1#32 } = some after ∧
    Counts stats.types after.types .other ∧ after.destinations = stats.destinations := by
  obtain ⟨after, noted, destinations, types⟩ := bad_sample_inside frame len status
      { stats with rxPreTypeOther := stats.rxPreTypeOther + 1#32 }
  refine ⟨after, noted, ?_, destinations⟩
  rw [types]
  rintro (_ | _ | _) <;> rfl

/-- Exactly one type's counter goes up, and no destination's; the cases are ARP, IPv4 and the
rest. -/
theorem note_type_counts (long : 14 ≤ len) :
    ∃ after one, noteType frame len status stats = some after ∧
      Counts stats.types after.types one ∧ after.destinations = stats.destinations := by
  simp only [noteType, read16_inside (show 12 + 1 < len by omega), Option.bind_eq_bind,
    Option.bind_some]
  by_cases arp : get16 frame 12 = emzEthTypeArp
  · refine ⟨_, .arp, if_pos arp, ?_, rfl⟩
    rintro (_ | _ | _) <;> rfl
  rw [if_neg arp]
  by_cases other : get16 frame 12 ≠ emzEthTypeIpv4
  · obtain ⟨after, noted, counts, kept⟩ := note_other_counts frame len status
      (stats)
    exact ⟨after, .other, (if_pos other).trans noted, counts, kept⟩
  · obtain ⟨after, noted, destinations, types⟩ := note_ipv4_kept frame len status
      { stats with rxPreTypeIpv4 := stats.rxPreTypeIpv4 + 1#32 }
    refine ⟨after, .ipv4, (if_neg other).trans noted, ?_, destinations⟩
    rw [types]
    rintro (_ | _ | _) <;> rfl

/-- Every frame with a whole Ethernet header has one destination class, and every frame has
one type class. -/
theorem note_rx_pre_stack_classes :
    ∃ after, emzNoteRxPreStack frame len status mac stats = some after ∧
      (14 ≤ len → ∃! one, Counts stats.destinations after.destinations one) ∧
      ∃! one, Counts stats.types after.types one := by
  obtain ⟨noted, last, destinations, types⟩ := last_sample_inside frame len status
      (stats)
  rw [emzNoteRxPreStack, last, Option.bind_eq_bind, Option.bind_some, ← destinations, ← types]
  by_cases short : len < 14
  · obtain ⟨after, bad, counts, -⟩ := note_other_counts frame len status
      noted
    exact ⟨after, (if_pos short).trans bad, fun long => absurd short (Nat.not_lt.mpr long),
      .other, counts, fun _ also => counts.unique also⟩
  obtain ⟨classed, destination, placed, counted, typesKept⟩ := note_destination_counts frame len
    status mac noted (Nat.not_lt.mp short)
  obtain ⟨after, type, typed, counts, kept⟩ := note_type_counts frame len status classed
    (Nat.not_lt.mp short)
  refine ⟨after, ?_, fun _ => ⟨destination, kept ▸ counted, fun _ also => counted.unique
    (kept ▸ also)⟩, type, typesKept ▸ counts, fun _ also => ?_⟩
  · rw [if_neg short, placed]
    exact typed
  · exact counts.unique (typesKept ▸ also)

end Inside

/-- Every inspector has a result, for every frame and length, so it reads below the length
only; the frames that reach the stack are classified once by destination and by type. -/
theorem inspectors_inside (frame : List Byte) (len : Nat) :
    (∀ offset, offset + 4 < 4294967296 →
      (emzSampleBe16 frame len offset).isSome ∧ (emzSampleBe32 frame len offset).isSome ∧
        (emzSampleWord frame len offset).isSome) ∧
      (∀ stats, (emzNoteTxIcmp frame len stats).isSome) ∧
      (emaczeroProfileShouldKeepControl none len).isSome ∧
      (emaczeroProfileShouldKeepControl (some frame) len).isSome ∧
      ∀ status mac stats, ∃ after, emzNoteRxPreStack frame len status mac stats = some after ∧
        (14 ≤ len → ∃! one, Counts stats.destinations after.destinations one) ∧
        ∃! one, Counts stats.types after.types one := by
  refine ⟨fun offset small => ⟨?_, ?_, ?_⟩, fun stats => ?_, ?_, ?_,
    fun status mac stats => note_rx_pre_stack_classes frame len status mac stats⟩
  · exact Option.isSome_iff_exists.mpr (sample_be16_inside frame len offset small)
  · exact Option.isSome_iff_exists.mpr (sample_be32_inside frame len offset small)
  · exact Option.isSome_iff_exists.mpr (sample_word_inside frame len offset)
  · exact Option.isSome_iff_exists.mpr (tx_icmp_inside frame len stats)
  · exact Option.isSome_iff_exists.mpr (keep_control_inside len none)
  · exact Option.isSome_iff_exists.mpr (keep_control_inside len (some frame))

/-- The theorem at a UDP datagram for port 5002 that is sent to all stations: samples of every
kind at its last four bytes, and the counters that the classification reaches. The statistics
are as they are cleared, and the IP header has its five words. -/
theorem inspectors_inside_two :
    let frame : List Byte := List.replicate 6 0xff#8 ++ [2#8, 0#8, 0#8, 0#8, 0#8, 7#8] ++
      [0x08#8, 0x00#8] ++ 0x45#8 :: List.replicate 8 0#8 ++
      emzIpProtoUdp :: List.replicate 10 0#8 ++
      [0x13#8, 0x8b#8, 0x13#8, 0x8a#8, 0#8, 8#8, 0#8, 0#8]
    (emzSampleBe16 frame 42 38).isSome ∧ (emzSampleBe32 frame 42 38).isSome ∧
      (emzSampleWord frame 42 38).isSome ∧ (emzNoteTxIcmp frame 42 default).isSome ∧
      emaczeroProfileShouldKeepControl (some frame) 42 = some true ∧
      ∃ after, emzNoteRxPreStack frame 42 0#32 7#48 default = some after ∧
        (∃! one, Counts (default : FrameStats).destinations after.destinations one) ∧
        (∃! one, Counts (default : FrameStats).types after.types one) ∧
        after.rxPreDstBroadcast = 1#32 ∧ after.rxPreIpv4Udp = 1#32 := by
  intro frame
  obtain ⟨samples, sent, -, -, classified⟩ := inspectors_inside frame 42
  obtain ⟨half, whole, word⟩ := samples 38 (by decide)
  obtain ⟨after, noted, destination, type⟩ := classified 0#32 7#48 default
  have counters : (emzNoteRxPreStack frame 42 0#32 7#48 default).map
      (fun stats => (stats.rxPreDstBroadcast, stats.rxPreIpv4Udp)) = some (1#32, 1#32) := by decide
  rw [noted, Option.map_some, Option.some.injEq, Prod.mk.injEq] at counters
  exact ⟨half, whole, word, sent default, by decide, after, noted, destination (by decide), type,
    counters⟩

/-- An offset that wraps escapes the guard of the half word. -/
example : emzSampleBe16 [1#8, 2#8] 2 4294967295 = none := by decide

end EmaczZephyr.Driver
