import EmaczZephyr.Application.TxBench
import EmaczZephyr.Foundation.OnesComplement
import EmaczZephyr.Provision.Board
import Mathlib.Logic.Function.Iterate

/-!
# The checksum of IPv4 headers

`ipv4_checksum` of the provisioning thread and `ipv4_header_checksum` of the application,
and the frames of the two. Both functions collect the 16-bit words of a header in an
accumulator of 32 bits and fold its carries afterwards; against this stands the ones'
complement sum of the words, whose carries come back in at once.

The loop of the first ends where its string does, and the string has an even length. The
second always takes ten words.
-/

namespace EmaczZephyr.Application

open BigEndian Provision

/-- The word that the loop of `ipv4_header_checksum` adds at an offset: the byte there shifted up
by eight, and the next byte below it. -/
def headerWord (hdr : List Byte) (offset : Nat) : BitVec 32 :=
  (get8 hdr offset).setWidth 32 <<< 8 ||| (get8 hdr (offset + 1)).setWidth 32

/-- `ipv4_header_checksum` of the benchmark: ten words of a 20-byte header are added, the carries
folded, and the complement is the result. -/
def ipv4HeaderChecksum (hdr : List Byte) : BitVec 16 :=
  let sum := (List.range 10).foldl (fun sum turn => sum + headerWord hdr (2 * turn)) 0#32
  (~~~ foldCarries sum).setWidth 16

/-- `PROFILE_PORT`, the UDP source port that the frames of the benchmark carry. -/
def profilePort : BitVec 16 := 5002#16

/-- An entry of the ARP table of the stack: an IPv4 address, and the link address that it was
last seen with. -/
structure ArpEntry where
  ip : BitVec 32
  ethAddr : BitVec 48

/-- What `build_tx_bench_frame` learns of the network: the ARP table, the link address of the
interface, and the address that provisioning gave the board. -/
structure BenchNetwork where
  arpTable : List ArpEntry
  /-- The link address of the default interface. -/
  linkAddr : Option (List Byte)
  /-- The result of `emacz_provision_get_ipv4`. -/
  localIp : Option (BitVec 32)

/-- The IPv4 header of a benchmark frame around its checksum. -/
def benchIpv4Header (ipLen id : BitVec 16) (localIp dstIp : BitVec 32) (checksum : BitVec 16) :
    List Byte :=
  [0x45#8, 0x00#8] ++ put16 ipLen ++ put16 id ++ put16 0#16 ++ [64#8, 17#8] ++ put16 checksum ++
    put32 localIp ++ put32 dstIp

/-- The UDP header of a benchmark frame, without a checksum. -/
def benchUdpHeader (dstPort udpLen : BitVec 16) : List Byte :=
  put16 profilePort ++ put16 dstPort ++ put16 udpLen ++ put16 0#16

/-- `build_tx_bench_frame`: the bytes of the frame and `tx_bench_ip_id` behind it. -/
def buildTxBenchFrame (network : BenchNetwork) (txBenchPayload : List Byte)
    (txBenchIpId : BitVec 16) (peer : BitVec 32) (payloadLen : Nat) (dstPort : BitVec 32) :
    Option (List Byte × BitVec 16) := do
  let ipLen := BitVec.ofNat 16 (20 + 8 + payloadLen)
  let udpLen := BitVec.ofNat 16 (8 + payloadLen)
  let arp ← network.arpTable.find? fun entry => entry.ip == peer
  let linkAddr ← network.linkAddr
  guard (linkAddr.length = 6)
  let localIp ← network.localIp
  let checksum := ipv4HeaderChecksum (benchIpv4Header ipLen txBenchIpId localIp peer 0#16)
  let frame := put48 arp.ethAddr ++ linkAddr ++ put16 0x0800#16 ++
    benchIpv4Header ipLen txBenchIpId localIp peer checksum ++
    benchUdpHeader (dstPort.setWidth 16) udpLen ++ txBenchPayload.take payloadLen
  some (frame, txBenchIpId + 1)

/-- The big-endian words of a string, two bytes each. A last byte without a partner is left out,
as the loop of the source leaves it out. -/
def be16Words : List Byte → List (BitVec 16)
  | high :: low :: rest => (high ++ low) :: be16Words rest
  | [_] => []
  | [] => []

/-- One turn of `while ((sum >> 16) != 0u)`: the low half and the carries above it are added. -/
def foldPass (sum : BitVec 32) : BitVec 32 := (sum &&& 0xffff#32) + sum >>> 16

/-- What is to hold of `ipv4_checksum` on a string: no wrap of the 32-bit accumulator on the way,
and the complement of the sum with end-around carries. -/
structure ChecksumCorrect (data : List Byte) : Prop where
  /-- Behind any number of turns the accumulator is the total so far, and does not wrap. -/
  accumulator : ∀ turns, (sumWords (data.take (2 * turns)) 0#32).toNat =
    OnesComplement.total ((be16Words data).take turns)
  /-- Neither does it while the carries are folded. -/
  folding : ∀ pass, (foldPass (foldPass^[pass] (sumWords data 0#32))).toNat =
    (foldPass^[pass] (sumWords data 0#32)).toNat % 65536 +
      (foldPass^[pass] (sumWords data 0#32)).toNat / 65536
  /-- The folding loop ends. -/
  ends : ∃ passes ≤ 2,
    (∀ pass < passes, foldPass^[pass] (sumWords data 0#32) >>> 16 ≠ 0#32) ∧
    foldPass^[passes] (sumWords data 0#32) >>> 16 = 0#32 ∧
    foldCarries (sumWords data 0#32) = foldPass^[passes] (sumWords data 0#32)
  result : ipv4Checksum data = ~~~ OnesComplement.sum (be16Words data)

/-- A header with a checksum stored in its field, that is in the two bytes behind the first ten. -/
def withChecksum (header : List Byte) (checksum : BitVec 16) : List Byte :=
  header.take 10 ++ put16 checksum ++ header.drop 12

/-- A receiver finds all bits set in the sum of a header. -/
def Verifies (header : List Byte) : Prop :=
  OnesComplement.sum (be16Words header) = 0xffff#16

/-- The words of a string are those that loads at the even offsets give, which is how the second
copy of the function reads them. -/
theorem be16Words_eq_get16 (data : List Byte) :
    be16Words data = (List.range (data.length / 2)).map fun turn => get16 data (2 * turn) := by
  induction data using be16Words.induct with
  | case1 high low rest inductionHypothesis =>
    have length : (high :: low :: rest).length / 2 = rest.length / 2 + 1 := by
      rw [List.length_cons, List.length_cons]
      omega
    have first : get16 (high :: low :: rest) (2 * 0) = high ++ low := rfl
    rw [be16Words, inductionHypothesis, length, List.range_succ_eq_map, List.map_cons,
      List.map_map, first]
    congr 1
  | case2 single => simp [be16Words]
  | case3 => rfl

/-- A string has half as many words as bytes, rounded down. -/
theorem be16Words_length (data : List Byte) : (be16Words data).length = data.length / 2 := by
  rw [be16Words_eq_get16, List.length_map, List.length_range]

/-- The first words of a string are the words of its first bytes, so a number of turns of the
loop is a prefix of the string. -/
theorem be16Words_take (data : List Byte) (turns : Nat) :
    be16Words (data.take (2 * turns)) = (be16Words data).take turns := by
  induction data using be16Words.induct generalizing turns with
  | case1 high low rest inductionHypothesis =>
    cases turns with
    | zero => rfl
    | succ turns =>
      rw [Nat.mul_succ, be16Words, List.take_succ_cons, List.take_succ_cons, be16Words,
        inductionHypothesis, List.take_succ_cons]
  | case2 single =>
    cases turns with
    | zero => rfl
    | succ turns => simp [Nat.mul_succ, be16Words]
  | case3 => simp [be16Words]

/-- Behind a front of even length the words go on where those of the front end, so the words of a
header are those of its parts. -/
theorem be16Words_append {front : List Byte} (even : 2 ∣ front.length) (rest : List Byte) :
    be16Words (front ++ rest) = be16Words front ++ be16Words rest := by
  induction front using be16Words.induct with
  | case1 high low front inductionHypothesis =>
    have shorter : 2 ∣ front.length := by
      rw [List.length_cons, List.length_cons] at even
      omega
    rw [List.cons_append, List.cons_append, be16Words, be16Words, inductionHypothesis shorter,
      List.cons_append]
  | case2 single => simp at even
  | case3 => rfl

/-- A stored 16-bit field is one word of the string, with the value that was stored. -/
theorem be16Words_put16 (value : BitVec 16) : be16Words (put16 value) = [value] := by
  have whole := extract_append value 0 8 8
  simp only [Nat.reduceAdd] at whole
  rw [put16, be16Words, whole, BitVec.extractLsb'_eq_self, be16Words]

/-- The loop over the bytes adds the words of the string one after the other; the recursion of
the source is the one over the words. -/
theorem sumWords_eq_foldl (data : List Byte) (start : BitVec 32) :
    sumWords data start =
      (be16Words data).foldl (fun sum word => sum + word.setWidth 32) start := by
  induction data using be16Words.induct generalizing start with
  | case1 high low rest inductionHypothesis =>
    rw [sumWords, be16Words, List.foldl_cons, inductionHypothesis]
  | case2 => rfl
  | case3 => rfl

/-- The accumulator holds the true total as long as that is below 2^32: no addition of the loop
wraps, by induction on the words. -/
theorem foldl_toNat {words : List (BitVec 16)} {start : BitVec 32}
    (room : start.toNat + OnesComplement.total words < 2 ^ 32) :
    (words.foldl (fun sum word => sum + word.setWidth 32) start).toNat =
      start.toNat + OnesComplement.total words := by
  induction words generalizing start with
  | nil => rfl
  | cons word words inductionHypothesis =>
    rw [OnesComplement.total_cons] at room ⊢
    have bound := word.isLt
    have next : (start + word.setWidth 32).toNat = start.toNat + word.toNat := by
      rw [BitVec.toNat_add, BitVec.toNat_setWidth, Nat.mod_eq_of_lt (by omega : word.toNat < _),
        Nat.mod_eq_of_lt (by omega)]
    rw [List.foldl_cons, inductionHypothesis (by omega), next, Nat.add_assoc]

/-- Up to 131072 bytes the total of the words is below 2^32, because each of the 65536 words is
below 2^16. -/
theorem total_small {data : List Byte} (short : data.length ≤ 131072) :
    OnesComplement.total (be16Words data) < 2 ^ 32 := by
  have bound := OnesComplement.total_le (be16Words data)
  rw [be16Words_length] at bound
  omega

/-- For strings of at most 131072 bytes the accumulator behind the loop is the total of the
words, without a wrap. -/
theorem sumWords_toNat {data : List Byte} (short : data.length ≤ 131072) :
    (sumWords data 0#32).toNat = OnesComplement.total (be16Words data) := by
  have room : (0#32).toNat + OnesComplement.total (be16Words data) < 2 ^ 32 := by
    simpa using total_small short
  rw [sumWords_eq_foldl, foldl_toNat room]
  exact Nat.zero_add _

/-- One turn of the folding loop is one fold to the base 2^16, as a natural number, and does not
wrap either. -/
theorem foldPass_toNat (sum : BitVec 32) :
    (foldPass sum).toNat = OnesComplement.fold (2 ^ 16) sum.toNat := fold_pass sum

/-- While there are carries above the low half, the loop goes on with the folded sum; one
equation for one turn. -/
theorem foldCarries_carry {sum : BitVec 32} (carries : sum >>> 16 ≠ 0#32) :
    foldCarries sum = foldCarries (foldPass sum) := by
  rw [foldCarries, if_pos carries, foldPass]

/-- Without carries above the low half the loop is left with the sum as it is. -/
theorem foldCarries_done {sum : BitVec 32} (done : sum >>> 16 = 0#32) : foldCarries sum = sum := by
  rw [foldCarries, if_neg (not_not_intro done)]

/-- The loop leaves the residue of the accumulator: each turn keeps the residue, and the loop
ends below 2^16 where the residue is the sum itself. -/
theorem foldCarries_toNat (sum : BitVec 32) :
    (foldCarries sum).toNat = OnesComplement.residue (2 ^ 16) sum.toNat := by
  induction sum using foldCarries.induct with
  | case1 sum carries inductionHypothesis =>
    rw [foldCarries_carry carries]
    have pass : foldPass sum = (sum &&& 0xffff#32) + sum >>> 16 := rfl
    rw [pass, inductionHypothesis, ← pass, foldPass_toNat,
      OnesComplement.residue_fold (by decide)]
  | case2 sum done =>
    have small : sum.toNat < 2 ^ 16 := by
      by_contra large
      exact done ((carries_iff sum).mpr (Nat.not_lt.mp large))
    rw [foldCarries_done (not_not.mp done), OnesComplement.residue_of_lt small]

/-- Two turns are always enough: the first leaves a sum of at most 2^17 - 2, and the second no
carry at all. -/
theorem folding_ends (sum : BitVec 32) :
    ∃ passes ≤ 2, (∀ pass < passes, foldPass^[pass] sum >>> 16 ≠ 0#32) ∧
      foldPass^[passes] sum >>> 16 = 0#32 ∧ foldCarries sum = foldPass^[passes] sum := by
  by_cases none : sum >>> 16 = 0#32
  · exact ⟨0, by decide, by omega, none, foldCarries_done none⟩
  · by_cases once : foldPass sum >>> 16 = 0#32
    · refine ⟨1, by decide, ?_, once, ?_⟩
      · intro pass first
        rwa [Nat.lt_one_iff.mp first]
      · rw [foldCarries_carry none, foldCarries_done once]
        rfl
    · have twice : foldPass (foldPass sum) >>> 16 = 0#32 := by
        by_contra carries
        have bound : OnesComplement.fold (2 ^ 16)
            (OnesComplement.fold (2 ^ 16) sum.toNat) < 2 ^ 16 :=
          OnesComplement.fold_twice (by decide) sum.isLt
        rw [← foldPass_toNat, ← foldPass_toNat] at bound
        exact absurd ((carries_iff _).mp carries) (Nat.not_le.mpr bound)
      refine ⟨2, by decide, ?_, twice, ?_⟩
      · intro pass early
        obtain rfl | rfl : pass = 0 ∨ pass = 1 := by omega
        · exact none
        · exact once
      · rw [foldCarries_carry none, foldCarries_carry once, foldCarries_done twice]
        rfl

/-- For at most 131072 bytes the checksum is the complement of the one's-complement sum of the
words, that is of the sum with end-around carries. -/
theorem ipv4Checksum_eq {data : List Byte} (short : data.length ≤ 131072) :
    ipv4Checksum data = ~~~ OnesComplement.sum (be16Words data) := by
  have positive : 0 < 16 := by decide
  have folded : (foldCarries (sumWords data 0#32)).toNat =
      (OnesComplement.sum (be16Words data)).toNat := by
    rw [foldCarries_toNat, sumWords_toNat short, OnesComplement.toNat_sum positive]
  have small := (OnesComplement.sum (be16Words data)).isLt
  apply BitVec.eq_of_toNat_eq
  rw [ipv4Checksum, BitVec.toNat_setWidth, BitVec.toNat_not, BitVec.toNat_not, folded]
  omega

/-- Everything that is asked of `ipv4_checksum` holds of strings up to 131072 bytes, assembled
from the facts about the accumulator and the folding. -/
theorem checksum_correct {data : List Byte} (short : data.length ≤ 131072) :
    ChecksumCorrect data where
  accumulator := by
    intro turns
    have shorter : (data.take (2 * turns)).length ≤ 131072 := by
      rw [List.length_take]
      omega
    rw [sumWords_toNat shorter, be16Words_take]
  folding := fun _ => foldPass_toNat _
  ends := folding_ends _
  result := ipv4Checksum_eq short

/-- The complement of a header's sum completes the header: with the checksum in its blank field
the words of the whole header sum to all ones. -/
theorem withChecksum_verifies {header : List Byte} (whole : header.length = 20)
    (blank : (header.drop 10).take 2 = [0#8, 0#8]) :
    Verifies (withChecksum header (ipv4Checksum header)) := by
  have even : 2 ∣ (header.take 10).length := by
    rw [List.length_take]
    omega
  have parts : header = header.take 10 ++ ([0#8, 0#8] ++ header.drop 12) := by
    have behind : header.drop 12 = (header.drop 10).drop 2 := by rw [List.drop_drop]
    rw [← blank, behind, List.take_append_drop, List.take_append_drop]
  have words : be16Words header =
      be16Words (header.take 10) ++ 0 :: be16Words (header.drop 12) := by
    conv_lhs => rw [parts, be16Words_append even]
    rfl
  rw [Verifies, withChecksum, List.append_assoc, be16Words_append even,
    be16Words_append (by simp [put16]), be16Words_put16, ipv4Checksum_eq (by omega), words]
  exact OnesComplement.sum_complement (by decide) _ _

/-- Shifting a byte up and joining the next is loading a big-endian word, which makes the words
of the two copies the same; compared bit by bit. -/
theorem headerWord_eq (hdr : List Byte) (offset : Nat) :
    headerWord hdr offset = (get16 hdr offset).setWidth 32 := by
  ext position below
  simp only [headerWord, get16, BitVec.getElem_or, BitVec.getElem_shiftLeft,
    BitVec.getElem_setWidth, BitVec.getLsbD_append]
  by_cases low : position < 8
  · simp [low]
  · have high : (get8 hdr (offset + 1)).getLsbD position = false :=
      BitVec.getLsbD_of_ge _ _ (Nat.not_lt.mp low)
    simp [low, high]

/-- On 20-byte headers the copy in the benchmark and the one in the protocol code agree, since
both add the same ten words. -/
theorem ipv4HeaderChecksum_eq {header : List Byte} (whole : header.length = 20) :
    ipv4HeaderChecksum header = ipv4Checksum header := by
  have words : be16Words header = (List.range 10).map fun turn => get16 header (2 * turn) := by
    rw [be16Words_eq_get16, whole]
  have same : (List.range 10).foldl (fun sum turn => sum + headerWord header (2 * turn)) 0#32 =
      sumWords header 0#32 := by
    simp only [sumWords_eq_foldl, words, List.foldl_map, headerWord_eq]
  rw [ipv4HeaderChecksum, ipv4Checksum, same]

/-- The checksum of a string, its place in a header, and the two functions. -/
theorem header_checksum_correct :
    (∀ data : List Byte, 2 ∣ data.length → data.length ≤ 131072 → ChecksumCorrect data) ∧
    (∀ header : List Byte, header.length = 20 → (header.drop 10).take 2 = [0#8, 0#8] →
      Verifies (withChecksum header (ipv4Checksum header))) ∧
    ∀ header : List Byte, header.length = 20 →
      ipv4HeaderChecksum header = ipv4Checksum header :=
  ⟨fun _ _ short => checksum_correct short, fun _ whole blank => withChecksum_verifies whole blank,
    fun _ whole => ipv4HeaderChecksum_eq whole⟩

/-- The IPv4 header of an offer with a blank checksum field, for the witness. -/
def sampleHeader : List Byte := ipv4Header 0x12345678#32 0xc0a80137#32 0#16

/-- The theorem at the header of an offer, where none of its conditions is empty: correct
checksum, verification, and agreement of the copies. -/
theorem sample_header_checksum :
    ChecksumCorrect sampleHeader ∧
      Verifies (withChecksum sampleHeader (ipv4Checksum sampleHeader)) ∧
      ipv4HeaderChecksum sampleHeader = ipv4Checksum sampleHeader := by
  have whole : sampleHeader.length = 20 := by decide
  obtain ⟨strings, headers, agree⟩ := header_checksum_correct
  exact ⟨strings sampleHeader (by decide) (by decide), headers sampleHeader whole (by decide),
    agree sampleHeader whole⟩

/-- The IPv4 header of a frame: the twenty bytes behind the Ethernet header. -/
def frameIpv4Header (frame : List Byte) : List Byte := (frame.drop 14).take 20

/-- The IPv4 header of an assembled frame is the header that was put behind the fourteen Ethernet
bytes. -/
theorem frameIpv4Header_append {ethernet header : List Byte} (front : ethernet.length = 14)
    (whole : header.length = 20) (rest : List Byte) :
    frameIpv4Header (ethernet ++ (header ++ rest)) = header := by
  rw [frameIpv4Header, List.drop_left' front, List.take_left' whole]

/-- The IPv4 header of every response of the control protocol verifies, whatever operation,
status and transaction it carries. -/
theorem response_verifies {Iface : Type} (prov : Prov Iface) (op status : Byte) (xid : BitVec 32) :
    Verifies (frameIpv4Header (sendResponse prov op status xid)) := by
  have header : frameIpv4Header (sendResponse prov op status xid) =
      withChecksum (ipv4Header xid prov.provAddr 0#16)
        (ipv4Checksum (ipv4Header xid prov.provAddr 0#16)) := rfl
  rw [header]
  exact withChecksum_verifies rfl rfl

/-- The IPv4 header of the benchmark verifies with the checksum that its own copy of the function
computes over the blank header. -/
theorem bench_header_verifies (ipLen id : BitVec 16) (localIp peer : BitVec 32) :
    Verifies (benchIpv4Header ipLen id localIp peer
      (ipv4HeaderChecksum (benchIpv4Header ipLen id localIp peer 0#16))) := by
  have blank : ((benchIpv4Header ipLen id localIp peer 0#16).drop 10).take 2 = [0#8, 0#8] := rfl
  rw [ipv4HeaderChecksum_eq rfl]
  exact withChecksum_verifies rfl blank

/-- What a built frame consists of: fourteen bytes of Ethernet, the IPv4 header with its
checksum, the UDP header, and the payload; the identification goes up by one. -/
theorem buildTxBenchFrame_parts {network : BenchNetwork} {payload frame : List Byte}
    {id next : BitVec 16} {peer dstPort : BitVec 32} {payloadLen : Nat}
    (built : buildTxBenchFrame network payload id peer payloadLen dstPort = some (frame, next)) :
    ∃ (ethernet : List Byte) (ipLen udpLen : BitVec 16) (localIp : BitVec 32),
      ethernet.length = 14 ∧ ipLen = BitVec.ofNat 16 (20 + 8 + payloadLen) ∧
      frame = ethernet ++ (benchIpv4Header ipLen id localIp peer
        (ipv4HeaderChecksum (benchIpv4Header ipLen id localIp peer 0#16)) ++
          (benchUdpHeader (dstPort.setWidth 16) udpLen ++ payload.take payloadLen)) ∧
      next = id + 1 := by
  simp only [buildTxBenchFrame, Option.bind_eq_bind, Option.bind_eq_some_iff,
    Option.guard_eq_some', Option.some.injEq, Prod.mk.injEq] at built
  obtain ⟨arp, -, linkAddr, -, -, six, localIp, -, rfl, rfl⟩ := built
  refine ⟨put48 arp.ethAddr ++ linkAddr ++ put16 0x0800#16, _, BitVec.ofNat 16 (8 + payloadLen),
    localIp, ?_, rfl, ?_, rfl⟩
  · rw [List.length_append, List.length_append, put48_length, six]
    rfl
  · simp only [List.append_assoc]

/-- The header of every benchmark frame verifies, and the frame is as long as the code says. -/
theorem bench_frame_verifies {network : BenchNetwork} {payload frame : List Byte}
    {id next : BitVec 16} {peer dstPort : BitVec 32} {payloadLen : Nat}
    (built : buildTxBenchFrame network payload id peer payloadLen dstPort = some (frame, next))
    (filled : payload.length = txBenchMaxPayload) (short : payloadLen ≤ txBenchMaxPayload) :
    Verifies (frameIpv4Header frame) ∧
      frame.length = 14 + (BitVec.ofNat 16 (20 + 8 + payloadLen)).toNat := by
  obtain ⟨ethernet, ipLen, udpLen, localIp, front, length, rfl, -⟩ := buildTxBenchFrame_parts built
  constructor
  · rw [frameIpv4Header_append front rfl]
    exact bench_header_verifies ipLen id localIp peer
  · have taken : (payload.take payloadLen).length = payloadLen := by
      rw [List.length_take]
      omega
    have header : ∀ checksum, (benchIpv4Header ipLen id localIp peer checksum).length = 20 :=
      fun _ => rfl
    have udp : (benchUdpHeader (dstPort.setWidth 16) udpLen).length = 8 := rfl
    have small : 20 + 8 + payloadLen < 65536 := by
      simp only [txBenchMaxPayload] at short
      omega
    rw [BitVec.toNat_ofNat, Nat.mod_eq_of_lt small, List.length_append, List.length_append,
      List.length_append, front, header, udp, taken]
    omega

end EmaczZephyr.Application
