import Mathlib.Data.List.Induction

/-!
# The CSR read path of the wrapper

The read channels of `emaczero_axi_mii_wrapper`: reads of the gate region are answered by
a register of the wrapper, all others by `eth_mac_sys`, and both responses share one R
channel through a fixed priority. One cycle is one rising clock edge with the reset
released.

`eth_mac_sys` is not part of the repository. Here it takes a read when it is ready for
one, answers its reads in order after any number of cycles and holds each response until
it sees `rready`; when it is ready and what it answers is input.
-/

namespace EmaczZephyr.Rtl

/-- The counters that the gate region shows, each under the wire that carries it. They are inputs
at every edge. -/
structure GateCsrs where
  rxErrorDropGoodFrames : BitVec 32
  rxErrorDropBadFrames : BitVec 32
  rxErrorDropOverflowFrames : BitVec 32
  rxErrorDropDrainSamples : BitVec 32
  rxErrorDropDrainCyclesTotal : BitVec 32
  rxErrorDropDrainCyclesMax : BitVec 32
  rxErrorDropDrainLt50us : BitVec 32
  rxErrorDropDrain50To100us : BitVec 32
  rxErrorDropDrain100To200us : BitVec 32
  rxErrorDropDrain200To500us : BitVec 32
  rxErrorDropDrainGe500us : BitVec 32
  rxErrorDropDrainTreadyLowCycles : BitVec 32
  rxErrorDropDrainTreadyLowCyclesMax : BitVec 32
  rxErrorDropDrainTreadyLowSamples : BitVec 32
  txSfFramesCommitted : BitVec 32
  txSfFramesDrained : BitVec 32
  txSfFramesPending : BitVec 4
  txSfDataLevel : BitVec 12

/-- The words at 0x100 to 0x1ff. The observability wires that `eth_mac_sys` no longer
drives are tied to zero and read as the default does. -/
def gateWords (csrs : GateCsrs) : List (BitVec 8 × BitVec 32) :=
  [(0x00#8, 0x45525a47#32), (0x04#8, csrs.rxErrorDropGoodFrames),
    (0x08#8, csrs.rxErrorDropBadFrames), (0x0c#8, csrs.rxErrorDropOverflowFrames),
    (0x10#8, csrs.rxErrorDropDrainSamples), (0x14#8, csrs.rxErrorDropDrainCyclesTotal),
    (0x18#8, csrs.rxErrorDropDrainCyclesMax), (0x1c#8, csrs.rxErrorDropDrainLt50us),
    (0x20#8, csrs.rxErrorDropDrain50To100us), (0x24#8, csrs.rxErrorDropDrain100To200us),
    (0x28#8, csrs.rxErrorDropDrain200To500us), (0x2c#8, csrs.rxErrorDropDrainGe500us),
    (0x30#8, csrs.rxErrorDropDrainTreadyLowCycles),
    (0x34#8, csrs.rxErrorDropDrainTreadyLowCyclesMax),
    (0x38#8, csrs.rxErrorDropDrainTreadyLowSamples), (0x60#8, 0x46524d58#32),
    (0xa0#8, 0x54584d49#32), (0xc0#8, 0x54584346#32), (0xc4#8, csrs.txSfFramesCommitted),
    (0xc8#8, csrs.txSfFramesDrained),
    -- The concatenation has 36 bits, of which the register keeps the low 32.
    (0xcc#8, (0#16 ++ 0#4 ++ csrs.txSfFramesPending ++ csrs.txSfDataLevel).setWidth 32)]

/-- The words at 0x200 to 0x2ff, of which only the two magic words are not zero. -/
def gateExtWords : List (BitVec 8 × BitVec 32) :=
  [(0x00#8, 0x45585443#32), (0x40#8, 0x52584558#32)]

/-- `gate_csr_sel`: the address is in the gate region, by its upper digit. -/
def gateCsrSel (address : BitVec 12) : Bool :=
  address.extractLsb' 8 4 == 1#4 || address.extractLsb' 8 4 == 2#4

/-- `gate_ext_sel`: the address is in the part of the gate region for the extended captures. -/
def gateExtSel (address : BitVec 12) : Bool := address.extractLsb' 8 4 == 2#4

/-- The word that a read of the gate region loads into `gate_rdata`. -/
def gateWord (csrs : GateCsrs) (address : BitVec 12) : BitVec 32 :=
  ((if gateExtSel address then gateExtWords else gateWords csrs).lookup
    (address.extractLsb' 0 8)).getD 0#32

/-- A response on the R channel: `rdata` and `rresp`. -/
structure ReadResponse where
  rdata : BitVec 32
  rresp : BitVec 2
deriving DecidableEq

/-- The read side of `eth_mac_sys`: the reads it has accepted and not answered, oldest
first, and the read it is answering with its response. -/
structure MacReads where
  waiting : List (BitVec 8)
  answering : Option (BitVec 8 × ReadResponse)

/-- The registers of the read path: the wrapper's own response and the read side of the MAC. -/
structure CsrReads where
  gateRvalid : Bool
  gateRdata : BitVec 32
  mac : MacReads

/-- The master's inputs at one edge, the counters, whether the MAC is ready for a read
and the response it gives if it can give one. -/
structure CsrInput where
  sAxiAraddr : BitVec 12
  sAxiArvalid : Bool
  sAxiRready : Bool
  csrs : GateCsrs
  macSAxiArready : Bool
  macAnswer : Option ReadResponse

namespace CsrReads

variable (reads : CsrReads) (input : CsrInput)

/-- The MAC sees the addresses outside of the gate region only. -/
def macSAxiArvalid : Bool := input.sAxiArvalid && !gateCsrSel input.sAxiAraddr

/-- The MAC has a response on offer. -/
def macSAxiRvalid : Bool := reads.mac.answering.isSome

/-- The gate region accepts a read while its register is free, and the MAC when it is ready for
one. -/
def sAxiArready : Bool :=
  if gateCsrSel input.sAxiAraddr then !reads.gateRvalid else input.macSAxiArready

/-- A response is on the R channel as soon as one of the two sources has one. -/
def sAxiRvalid : Bool := reads.gateRvalid || reads.macSAxiRvalid

/-- `s_axi_rdata` and `s_axi_rresp`. An idle MAC may drive anything; here zero. -/
def sAxiR : ReadResponse :=
  if reads.gateRvalid then ⟨reads.gateRdata, 0#2⟩
  else (reads.mac.answering.map Prod.snd).getD ⟨0#32, 0#2⟩

/-- The wrapper accepts a read of the gate region at this edge. -/
def gateAccept : Bool :=
  input.sAxiArvalid && gateCsrSel input.sAxiAraddr && !reads.gateRvalid

/-- The MAC accepts a read of another address at this edge. -/
def macAccept : Bool := macSAxiArvalid input && input.macSAxiArready

/-- The response on the R channel is taken at this edge. -/
def received : Bool := reads.sAxiRvalid && input.sAxiRready

/-- The reads of the MAC that wait for an answer at this edge. -/
def macQueue : List (BitVec 8) :=
  reads.mac.waiting ++ if macAccept input then [input.sAxiAraddr.extractLsb' 0 8] else []

/-- The MAC's response is taken: `rready` goes to it whichever response is shown. -/
def macTaken : Bool := reads.macSAxiRvalid && input.sAxiRready

/-- The answer that the MAC gives at this edge, if it is free to give one. -/
def macNewAnswer : Option (BitVec 8 × ReadResponse) :=
  if reads.mac.answering.isNone || reads.macTaken input then
    match reads.macQueue input, input.macAnswer with
    | address :: _, some response => some (address, response)
    | _, _ => none
  else none

/-- The read side of the MAC behind an edge: a new answer takes the oldest read out of the queue,
and a taken one leaves. -/
def macNext : MacReads :=
  match reads.macNewAnswer input with
  | some answer => ⟨(reads.macQueue input).tail, some answer⟩
  | none =>
      ⟨reads.macQueue input, if reads.macTaken input then none else reads.mac.answering⟩

/-- One rising clock edge of the read path. The wrapper's register is loaded when a read of its
region is accepted, and freed when its response is taken. -/
def cycle : CsrReads where
  gateRvalid :=
    if reads.gateAccept input then true
    else if reads.gateRvalid && input.sAxiRready then false
    else reads.gateRvalid
  gateRdata :=
    if reads.gateAccept input then gateWord input.csrs input.sAxiAraddr else reads.gateRdata
  mac := reads.macNext input

/-- The read path behind a reset, with no read in it. -/
def reset : CsrReads := ⟨false, 0#32, [], none⟩

end CsrReads

/-- The gate region as a master sees it, by address: three sections with their marks from 0x100
on, two marks of the captures from 0x200 on, and zero wherever no register is left. Nothing of
the wrapper's own decoder enters it. -/
def GateCsrs.registerAt (csrs : GateCsrs) (address : BitVec 12) : BitVec 32 :=
  if address.toNat = 0x100 then 0x45525a47#32
  else if address.toNat = 0x104 then csrs.rxErrorDropGoodFrames
  else if address.toNat = 0x108 then csrs.rxErrorDropBadFrames
  else if address.toNat = 0x10c then csrs.rxErrorDropOverflowFrames
  else if address.toNat = 0x110 then csrs.rxErrorDropDrainSamples
  else if address.toNat = 0x114 then csrs.rxErrorDropDrainCyclesTotal
  else if address.toNat = 0x118 then csrs.rxErrorDropDrainCyclesMax
  else if address.toNat = 0x11c then csrs.rxErrorDropDrainLt50us
  else if address.toNat = 0x120 then csrs.rxErrorDropDrain50To100us
  else if address.toNat = 0x124 then csrs.rxErrorDropDrain100To200us
  else if address.toNat = 0x128 then csrs.rxErrorDropDrain200To500us
  else if address.toNat = 0x12c then csrs.rxErrorDropDrainGe500us
  else if address.toNat = 0x130 then csrs.rxErrorDropDrainTreadyLowCycles
  else if address.toNat = 0x134 then csrs.rxErrorDropDrainTreadyLowCyclesMax
  else if address.toNat = 0x138 then csrs.rxErrorDropDrainTreadyLowSamples
  else if address.toNat = 0x160 then 0x46524d58#32
  else if address.toNat = 0x1a0 then 0x54584d49#32
  else if address.toNat = 0x1c0 then 0x54584346#32
  else if address.toNat = 0x1c4 then csrs.txSfFramesCommitted
  else if address.toNat = 0x1c8 then csrs.txSfFramesDrained
  else if address.toNat = 0x1cc then
    BitVec.ofNat 32 (csrs.txSfFramesPending.toNat * 4096 + csrs.txSfDataLevel.toNat)
  else if address.toNat = 0x200 then 0x45585443#32
  else if address.toNat = 0x240 then 0x52584558#32
  else 0#32

/-- An accepted read: of the gate region, with the response it must get, or of the MAC. -/
inductive AcceptedRead where
  | gate (response : ReadResponse)
  | mac (address : BitVec 8)
deriving DecidableEq

/-- The read path with the reads accepted, the answers of the MAC and the responses
received by the master. -/
structure CsrBench where
  reads : CsrReads
  accepted : List AcceptedRead
  macAnswers : List ReadResponse
  received : List ReadResponse

/-- The read accepted at an edge, seen on the bus: valid and ready are both high, and the address
tells the region. A read of the gate region is due the register of its address as it is at
this edge. -/
def CsrReads.acceptedRead (reads : CsrReads) (input : CsrInput) : Option AcceptedRead :=
  if input.sAxiArvalid && reads.sAxiArready input then
    if 0x100 ≤ input.sAxiAraddr.toNat ∧ input.sAxiAraddr.toNat < 0x300 then
      some (.gate ⟨input.csrs.registerAt input.sAxiAraddr, 0#2⟩)
    else some (.mac (input.sAxiAraddr.extractLsb' 0 8))
  else none

/-- One edge, recording the read accepted at it, the answer the MAC gives and the response the
master takes. -/
def CsrBench.cycle (bench : CsrBench) (input : CsrInput) : CsrBench where
  reads := bench.reads.cycle input
  accepted := bench.accepted ++ (bench.reads.acceptedRead input).toList
  macAnswers := bench.macAnswers ++ ((bench.reads.macNewAnswer input).map Prod.snd).toList
  received := bench.received ++ if bench.reads.received input then [bench.reads.sAxiR] else []

/-- Any number of edges behind a reset, with nothing recorded at first. -/
def CsrBench.run (inputs : List CsrInput) : CsrBench :=
  inputs.foldl CsrBench.cycle ⟨.reset, [], [], []⟩

/-- The responses due to reads, in order: a read of the gate region its word, and the
reads of the MAC its answers in turn. -/
def dueResponses : List AcceptedRead → List ReadResponse → List ReadResponse
  | [], _ => []
  | .gate response :: rest, answers => response :: dueResponses rest answers
  | .mac _ :: rest, answer :: answers => answer :: dueResponses rest answers
  | .mac _ :: _, [] => []

/-- The number of reads whose response the master has not taken. -/
def CsrReads.outstanding (reads : CsrReads) : Nat :=
  reads.gateRvalid.toNat + reads.mac.answering.toList.length + reads.mac.waiting.length

/-- What a run shows to its master: every response in the order of the reads, none lost or
repeated, and none that changes while it is refused. -/
structure CsrReadsCorrect (inputs : List CsrInput) : Prop where
  /-- Each response goes to the read it belongs to, in the order of the reads. -/
  ordered : (CsrBench.run inputs).received <+:
    dueResponses (CsrBench.run inputs).accepted (CsrBench.run inputs).macAnswers
  /-- Every read has been answered once or still will be. -/
  conserved : (CsrBench.run inputs).accepted.length =
    (CsrBench.run inputs).received.length + (CsrBench.run inputs).reads.outstanding
  /-- A refused response stays. -/
  stable : ∀ before input after, inputs = before ++ input :: after →
    (CsrBench.run before).reads.sAxiRvalid = true → input.sAxiRready = false →
      ((CsrBench.run before).reads.cycle input).sAxiRvalid = true ∧
        ((CsrBench.run before).reads.cycle input).sAxiR = (CsrBench.run before).reads.sAxiR

/-- At an edge the two sources stay apart: a read of the gate region is accepted only
when the MAC has no other read left behind the edge, and the MAC does not answer while a
response of the gate region stays behind the edge. -/
structure KeepsApart (reads : CsrReads) (input : CsrInput) : Prop where
  accepts : reads.gateAccept input = true → reads.mac.waiting = [] ∧
    (reads.mac.answering.isSome = true → input.sAxiRready = true)
  answers : (reads.macNewAnswer input).isSome = true → reads.gateRvalid = true →
    input.sAxiRready = true

/-- The condition is on Boolean wires and on an empty queue, so it is decided. -/
instance decidableKeepsApart (reads : CsrReads) (input : CsrInput) :
    Decidable (KeepsApart reads input) :=
  decidable_of_iff
    ((reads.gateAccept input = true → reads.mac.waiting = [] ∧
      (reads.mac.answering.isSome = true → input.sAxiRready = true)) ∧
      ((reads.macNewAnswer input).isSome = true → reads.gateRvalid = true →
        input.sAxiRready = true))
    ⟨fun ⟨accepts, answers⟩ => ⟨accepts, answers⟩, fun apart => ⟨apart.accepts, apart.answers⟩⟩

/-- Every edge of a run keeps the two sources apart. -/
def KeepsApartThroughout (inputs : List CsrInput) : Prop :=
  ∀ before input after, inputs = before ++ input :: after →
    KeepsApart (CsrBench.run before).reads input

/-- An address is its upper digit and its lower two, which is how the decoder takes it apart. -/
theorem address_digits (address : BitVec 12) : address.toNat =
    (address.extractLsb' 8 4).toNat * 256 + (address.extractLsb' 0 8).toNat := by
  have bounded := address.isLt
  simp only [BitVec.extractLsb'_toNat, Nat.shiftRight_eq_div_pow]
  omega

/-- The wrapper's decoder selects exactly the addresses of the gate region. Its upper digit is
one or two, whatever the lower two are. -/
theorem gate_csr_sel_region (address : BitVec 12) : gateCsrSel address = true ↔
    0x100 ≤ address.toNat ∧ address.toNat < 0x300 := by
  have digits := address_digits address
  have low := (address.extractLsb' 0 8).isLt
  have upper : gateCsrSel address = true ↔
      (address.extractLsb' 8 4).toNat = 1 ∨ (address.extractLsb' 8 4).toNat = 2 := by
    simp [gateCsrSel, ← BitVec.toNat_inj]
  rw [upper]
  omega

/-- The word of the transmit queue is its two fields side by side, and they fit. -/
theorem queue_word (pending : BitVec 4) (level : BitVec 12) :
    (0#16 ++ 0#4 ++ pending ++ level).setWidth 32 =
      BitVec.ofNat 32 (pending.toNat * 4096 + level.toNat) := by
  have counted := pending.isLt
  have filled := level.isLt
  apply BitVec.eq_of_toNat_eq
  simp only [BitVec.toNat_setWidth, BitVec.toNat_append, BitVec.toNat_ofNat]
  rw [← Nat.shiftLeft_add_eq_or_of_lt filled, Nat.shiftLeft_eq]
  simp

/-- The case tables of the wrapper hold what the map has, at every address they are asked for:
the region is split by the upper digit, and the entries are compared one by one. -/
theorem gate_word_register (csrs : GateCsrs) {address : BitVec 12}
    (selected : gateCsrSel address = true) :
    gateWord csrs address = csrs.registerAt address := by
  have digits := address_digits address
  have front (entry : BitVec 8) (value : BitVec 32) (rest : List (BitVec 8 × BitVec 32)) :
      (List.lookup (address.extractLsb' 0 8) ((entry, value) :: rest)).getD 0#32 =
        if (address.extractLsb' 0 8).toNat = entry.toNat then value
        else (rest.lookup (address.extractLsb' 0 8)).getD 0#32 := by
    rw [List.lookup_cons]
    by_cases here : address.extractLsb' 0 8 = entry
    · simp [here]
    · have numbers : (address.extractLsb' 0 8).toNat ≠ entry.toNat :=
        fun same => here (BitVec.eq_of_toNat_eq same)
      rw [beq_false_of_ne here, if_neg numbers]
  have low := (address.extractLsb' 0 8).isLt
  rw [gateCsrSel, Bool.or_eq_true, beq_iff_eq, beq_iff_eq] at selected
  unfold gateWord gateExtSel GateCsrs.registerAt
  rw [digits]
  generalize address.extractLsb' 0 8 = offset at *
  rcases selected with first | second
  · rw [first, if_neg (by decide)]
    simp only [gateWords, front, List.lookup_nil, Option.getD_none, queue_word,
      BitVec.toNat_ofNat, Nat.reducePow, Nat.reduceMod, Nat.reduceMul]
    iterate 21 refine if_congr (by omega) rfl ?_
    rw [if_neg (by omega), if_neg (by omega)]
  · rw [second, if_pos (by decide)]
    simp only [gateExtWords, front, List.lookup_nil, Option.getD_none,
      BitVec.toNat_ofNat, Nat.reducePow, Nat.reduceMod, Nat.reduceMul]
    iterate 21 rw [if_neg (show ¬ 512 + offset.toNat = _ by omega)]
    iterate 2 refine if_congr (by omega) rfl ?_
    rfl

/-- The reads accepted on the bus are those that the wrapper's two wires accept. -/
theorem accepted_read_wires (reads : CsrReads) (input : CsrInput) : reads.acceptedRead input =
    if reads.gateAccept input then some (.gate ⟨gateWord input.csrs input.sAxiAraddr, 0#2⟩)
    else if CsrReads.macAccept input then some (.mac (input.sAxiAraddr.extractLsb' 0 8))
    else none := by
  unfold CsrReads.acceptedRead CsrReads.gateAccept CsrReads.macAccept CsrReads.macSAxiArvalid
    CsrReads.sAxiArready
  cases selected : gateCsrSel input.sAxiAraddr with
  | true =>
    rw [gate_word_register input.csrs selected,
      if_pos ((gate_csr_sel_region input.sAxiAraddr).mp selected)]
    simp
  | false =>
    have outside : ¬ (0x100 ≤ input.sAxiAraddr.toNat ∧ input.sAxiAraddr.toNat < 0x300) := by
      rw [← gate_csr_sel_region, selected]
      exact Bool.false_ne_true
    rw [if_neg outside]
    simp

/-- Reads that have all been answered, with the MAC's answers among them and the
responses in order. -/
inductive Served : List AcceptedRead → List ReadResponse → List ReadResponse → Prop
  | nothing : Served [] [] []
  | gate {reads : List AcceptedRead} {answers responses : List ReadResponse}
      (earlier : Served reads answers responses) (response : ReadResponse) :
      Served (reads ++ [.gate response]) answers (responses ++ [response])
  | mac {reads : List AcceptedRead} {answers responses : List ReadResponse}
      (earlier : Served reads answers responses) (address : BitVec 8) (answer : ReadResponse) :
      Served (reads ++ [.mac address]) (answers ++ [answer]) (responses ++ [answer])

/-- Served reads come first among the responses due, and take up the answers of the MAC that went
to them. Induction over the served reads, with any reads and answers behind them. -/
theorem Served.due {reads : List AcceptedRead} {answers responses : List ReadResponse}
    (served : Served reads answers responses) (rest : List AcceptedRead)
    (more : List ReadResponse) :
    dueResponses (reads ++ rest) (answers ++ more) = responses ++ dueResponses rest more := by
  induction served generalizing rest more with
  | nothing => rfl
  | gate earlier response inductionHypothesis =>
    rw [List.append_assoc, inductionHypothesis, List.append_assoc]
    rfl
  | mac earlier address answer inductionHypothesis =>
    rw [List.append_assoc, List.append_assoc, inductionHypothesis, List.append_assoc]
    rfl

/-- As many reads have been served as responses taken, one for each. -/
theorem Served.length {reads : List AcceptedRead} {answers responses : List ReadResponse}
    (served : Served reads answers responses) : reads.length = responses.length := by
  induction served with
  | nothing => rfl
  | gate earlier response inductionHypothesis => simp [inductionHypothesis]
  | mac earlier address answer inductionHypothesis => simp [inductionHypothesis]

/-- The read of the gate region that is being answered. -/
def CsrReads.gateRead (reads : CsrReads) : List AcceptedRead :=
  if reads.gateRvalid then [.gate ⟨reads.gateRdata, 0#2⟩] else []

/-- The reads of the MAC that the master has no response for. -/
def MacReads.open (mac : MacReads) : List AcceptedRead :=
  (mac.answering.toList.map Prod.fst ++ mac.waiting).map .mac

/-- While the sources stay apart, the reads are the served ones, then the one of the gate
region, then those of the MAC; and the MAC answers only with no response of the gate
region in front of it. -/
structure CsrInvariant (bench : CsrBench) (served : List AcceptedRead)
    (answered : List ReadResponse) : Prop where
  done : Served served answered bench.received
  accepted : bench.accepted = served ++ bench.reads.gateRead ++ bench.reads.mac.open
  answers : bench.macAnswers =
    answered ++ (bench.reads.mac.answering.map Prod.snd).toList
  alone : bench.reads.mac.answering.isSome = true → bench.reads.gateRvalid = false

/-- Taking a response serves the read it is for. With the sources apart the wrapper's response is
shown only while the MAC has none, so the one that is taken belongs to the oldest read. -/
theorem receive_served {bench : CsrBench} {served : List AcceptedRead}
    {answered : List ReadResponse} (invariant : CsrInvariant bench served answered)
    (input : CsrInput) : ∃ next taken,
      Served next taken (bench.received ++
        if bench.reads.received input then [bench.reads.sAxiR] else []) ∧
      bench.accepted = next ++
        (if input.sAxiRready then [] else bench.reads.gateRead) ++
          ((if bench.reads.macTaken input then []
            else bench.reads.mac.answering.toList.map Prod.fst) ++
            bench.reads.mac.waiting).map .mac ∧
      bench.macAnswers = taken ++
        (if bench.reads.macTaken input then [] else
          (bench.reads.mac.answering.map Prod.snd).toList) := by
  have done := invariant.done
  have accepted := invariant.accepted
  have answers := invariant.answers
  cases ready : input.sAxiRready with
  | false =>
    refine ⟨served, answered, ?_, ?_, ?_⟩
    · simpa [CsrReads.received, ready] using done
    · simpa [CsrReads.macTaken, ready, MacReads.open] using accepted
    · simpa [CsrReads.macTaken, ready] using answers
  | true =>
    cases gate : bench.reads.gateRvalid with
    | true =>
      have idle : bench.reads.mac.answering = none := by
        cases answering : bench.reads.mac.answering with
        | none => rfl
        | some answer =>
          have alone := invariant.alone (by rw [answering]; rfl)
          rw [gate] at alone
          cases alone
      refine ⟨served ++ [.gate ⟨bench.reads.gateRdata, 0#2⟩], answered, ?_, ?_, ?_⟩
      · have more := done.gate ⟨bench.reads.gateRdata, 0#2⟩
        simpa [CsrReads.received, CsrReads.sAxiRvalid, CsrReads.sAxiR, gate, ready] using more
      · simpa [CsrReads.gateRead, gate, ready, MacReads.open, idle] using accepted
      · simpa [idle] using answers
    | false =>
      cases answering : bench.reads.mac.answering with
      | none =>
        refine ⟨served, answered, ?_, ?_, ?_⟩
        · simpa [CsrReads.received, CsrReads.sAxiRvalid, CsrReads.macSAxiRvalid, gate,
            answering] using done
        · simpa [CsrReads.gateRead, gate, MacReads.open, answering] using accepted
        · simpa [answering] using answers
      | some answer =>
        obtain ⟨address, response⟩ := answer
        refine ⟨served ++ [.mac address], answered ++ [response], ?_, ?_, ?_⟩
        · have more := done.mac address response
          simpa [CsrReads.received, CsrReads.sAxiRvalid, CsrReads.macSAxiRvalid, CsrReads.sAxiR,
            gate, answering, ready] using more
        · simpa [CsrReads.gateRead, gate, MacReads.open, answering, CsrReads.macTaken,
            CsrReads.macSAxiRvalid, ready] using accepted
        · simpa [answering, CsrReads.macTaken, CsrReads.macSAxiRvalid, ready] using answers

section Edge

variable {reads : CsrReads} {bench : CsrBench} {served : List AcceptedRead}
  {answered : List ReadResponse}

/-- The read that the MAC is still answering behind an edge. -/
def CsrReads.kept (reads : CsrReads) (input : CsrInput) : Option (BitVec 8 × ReadResponse) :=
  if reads.macTaken input then none else reads.mac.answering

/-- A new answer of the MAC is for the oldest read in the queue, and it has no other. -/
theorem new_answer_cases {input : CsrInput} {answer : BitVec 8 × ReadResponse}
    (given : reads.macNewAnswer input = some answer) :
    reads.kept input = none ∧ ∃ rest, reads.macQueue input = answer.1 :: rest := by
  unfold CsrReads.macNewAnswer at given
  split at given
  · rename_i free
    constructor
    · unfold CsrReads.kept
      split
      · rfl
      · rename_i held
        simpa [held] using free
    · split at given
      · rename_i address rest response queue same
        obtain rfl := Option.some.inj given
        exact ⟨rest, queue⟩
      · cases given
  · cases given

/-- The reads of the MAC behind an edge are those it kept and those in its queue. -/
theorem open_next (input : CsrInput) : (reads.cycle input).mac.open =
    ((reads.kept input).toList.map Prod.fst ++ reads.macQueue input).map .mac := by
  change (reads.macNext input).open = _
  unfold CsrReads.macNext
  cases given : reads.macNewAnswer input with
  | none => rfl
  | some answer =>
    obtain ⟨idle, rest, queue⟩ := new_answer_cases given
    simp [MacReads.open, idle, queue]

/-- What the MAC answers behind an edge is its new answer if it gives one, and the one it has
kept otherwise. -/
theorem answering_next (input : CsrInput) : (reads.cycle input).mac.answering =
    (reads.macNewAnswer input).or (reads.kept input) := by
  change (reads.macNext input).answering = _
  unfold CsrReads.macNext
  cases reads.macNewAnswer input with
  | none => rfl
  | some answer => rfl

/-- A read of the gate region is accepted only when nothing is left of the MAC's. -/
theorem KeepsApart.gate_alone {input : CsrInput} (apart : KeepsApart reads input)
    (gate : reads.gateAccept input = true) :
    reads.macQueue input = [] ∧ reads.kept input = none := by
  obtain ⟨none_waiting, taken⟩ := apart.accepts gate
  have selected : gateCsrSel input.sAxiAraddr = true := by
    simp only [CsrReads.gateAccept, Bool.and_eq_true] at gate
    exact gate.1.2
  have other : CsrReads.macAccept input = false := by
    simp [CsrReads.macAccept, CsrReads.macSAxiArvalid, selected]
  constructor
  · simp [CsrReads.macQueue, none_waiting, other]
  · unfold CsrReads.kept CsrReads.macTaken CsrReads.macSAxiRvalid
    cases answering : reads.mac.answering with
    | none => simp
    | some answer =>
      rw [answering] at taken
      simp [taken rfl]

/-- The MAC answers behind an edge only with the gate's register free: either it is the condition
that says so, or the answer was there before and the register was free then. -/
theorem alone_next (invariant : CsrInvariant bench served answered) {input : CsrInput}
    (apart : KeepsApart bench.reads input)
    (answers : (bench.reads.cycle input).mac.answering.isSome = true) :
    (bench.reads.cycle input).gateRvalid = false := by
  rw [answering_next] at answers
  have not_gate : bench.reads.gateAccept input = false := by
    by_contra gate
    obtain ⟨queue, idle⟩ := apart.gate_alone (Bool.not_eq_false _ ▸ gate)
    cases given : bench.reads.macNewAnswer input with
    | none => simp [given, idle] at answers
    | some answer =>
      obtain ⟨-, rest, some_queue⟩ := new_answer_cases given
      rw [queue] at some_queue
      cases some_queue
  change (if bench.reads.gateAccept input then true
    else if bench.reads.gateRvalid && input.sAxiRready then false
    else bench.reads.gateRvalid) = false
  rw [not_gate, if_neg Bool.false_ne_true]
  cases gate : bench.reads.gateRvalid with
  | false => simp
  | true =>
    have ready : input.sAxiRready = true := by
      cases given : bench.reads.macNewAnswer input with
      | some answer => exact apart.answers (by rw [given]; rfl) gate
      | none =>
        have kept : (bench.reads.kept input).isSome = true := by simpa [given] using answers
        unfold CsrReads.kept at kept
        split at kept
        · cases kept
        · have alone := invariant.alone kept
          rw [gate] at alone
          cases alone
    simp [ready]

/-- An edge that keeps the sources apart keeps the invariant. The response that is taken serves
its read, and the read that is accepted goes to the end of its source. -/
theorem csr_cycle (invariant : CsrInvariant bench served answered) {input : CsrInput}
    (apart : KeepsApart bench.reads input) : ∃ next taken,
      CsrInvariant (bench.cycle input) next taken := by
  obtain ⟨next, taken, done, accepted, answers⟩ := receive_served invariant input
  refine ⟨next, taken, done, ?_, ?_, alone_next invariant apart⟩
  · have kept_reads : (if bench.reads.macTaken input then [] else
        bench.reads.mac.answering.toList.map Prod.fst) =
        (bench.reads.kept input).toList.map Prod.fst := by
      unfold CsrReads.kept
      split <;> rfl
    rw [kept_reads] at accepted
    change bench.accepted ++ (bench.reads.acceptedRead input).toList =
      next ++ (bench.reads.cycle input).gateRead ++ (bench.reads.cycle input).mac.open
    rw [accepted, open_next]
    cases gate : bench.reads.gateAccept input with
    | true =>
      obtain ⟨queue, idle⟩ := apart.gate_alone gate
      have free : bench.reads.gateRvalid = false := by
        simp only [CsrReads.gateAccept, Bool.and_eq_true, Bool.not_eq_true'] at gate
        exact gate.2
      have waiting : bench.reads.mac.waiting = [] := (apart.accepts gate).1
      simp [queue, idle, waiting, accepted_read_wires, gate, CsrReads.gateRead, free,
        CsrReads.cycle]
    | false =>
      have register : (bench.reads.cycle input).gateRead =
          if input.sAxiRready then [] else bench.reads.gateRead := by
        unfold CsrReads.gateRead CsrReads.cycle
        rw [gate]
        cases bench.reads.gateRvalid <;> cases input.sAxiRready <;> rfl
      rw [register]
      unfold CsrReads.macQueue
      rw [accepted_read_wires, gate]
      cases CsrReads.macAccept input <;> simp
  · change bench.macAnswers ++ ((bench.reads.macNewAnswer input).map Prod.snd).toList =
      taken ++ ((bench.reads.cycle input).mac.answering.map Prod.snd).toList
    rw [answers, answering_next]
    have kept_answers : (if bench.reads.macTaken input then [] else
        (bench.reads.mac.answering.map Prod.snd).toList) =
        ((bench.reads.kept input).map Prod.snd).toList := by
      unfold CsrReads.kept
      split <;> rfl
    rw [kept_answers]
    cases given : bench.reads.macNewAnswer input with
    | none => simp
    | some answer => simp [(new_answer_cases given).1]

/-- The responses taken are the first of those due, since the served reads come first among all
accepted ones. -/
theorem CsrInvariant.ordered (invariant : CsrInvariant bench served answered) :
    bench.received <+: dueResponses bench.accepted bench.macAnswers := by
  have due := invariant.done.due (bench.reads.gateRead ++ bench.reads.mac.open)
    (bench.reads.mac.answering.map Prod.snd).toList
  rw [← List.append_assoc, ← invariant.accepted, ← invariant.answers] at due
  rw [due]
  exact List.prefix_append _ _

/-- No read is lost or answered twice: those accepted are those served and those that either
source still holds. -/
theorem CsrInvariant.conserved (invariant : CsrInvariant bench served answered) :
    bench.accepted.length = bench.received.length + bench.reads.outstanding := by
  have gate : bench.reads.gateRead.length = bench.reads.gateRvalid.toNat := by
    unfold CsrReads.gateRead
    cases bench.reads.gateRvalid <;> rfl
  have mac : bench.reads.mac.open.length =
      bench.reads.mac.answering.toList.length + bench.reads.mac.waiting.length := by
    simp [MacReads.open]
  rw [invariant.accepted, List.length_append, List.length_append, invariant.done.length, gate, mac,
    CsrReads.outstanding]
  omega

/-- A refused response stays at an edge that keeps the sources apart. The wrapper's register
holds its word until it is taken, and over a response of the MAC no read of the gate region is
accepted. -/
theorem refused_response {input : CsrInput} (apart : KeepsApart reads input)
    (valid : reads.sAxiRvalid = true) (refused : input.sAxiRready = false) :
    (reads.cycle input).sAxiRvalid = true ∧ (reads.cycle input).sAxiR = reads.sAxiR := by
  cases gate : reads.gateRvalid with
  | true =>
    have stays : (reads.cycle input).gateRvalid = true ∧
        (reads.cycle input).gateRdata = reads.gateRdata := by
      simp [CsrReads.cycle, CsrReads.gateAccept, gate, refused]
    simp [CsrReads.sAxiRvalid, CsrReads.sAxiR, stays, gate]
  | false =>
    have answering : reads.mac.answering.isSome = true := by
      simpa [CsrReads.sAxiRvalid, CsrReads.macSAxiRvalid, gate] using valid
    have not_gate : reads.gateAccept input = false := by
      by_contra accepts
      have ready := (apart.accepts (Bool.not_eq_false _ ▸ accepts)).2 answering
      rw [refused] at ready
      cases ready
    have kept : reads.kept input = reads.mac.answering := by
      simp [CsrReads.kept, CsrReads.macTaken, refused]
    have no_new : reads.macNewAnswer input = none := by
      cases given : reads.macNewAnswer input with
      | none => rfl
      | some answer =>
        rw [← kept, (new_answer_cases given).1] at answering
        cases answering
    have same : (reads.cycle input).mac.answering = reads.mac.answering := by
      rw [answering_next, no_new, kept]
      rfl
    have still : (reads.cycle input).gateRvalid = false := by
      simp [CsrReads.cycle, not_gate, gate]
    simp [CsrReads.sAxiRvalid, CsrReads.macSAxiRvalid, CsrReads.sAxiR, same, still, gate, answering]

end Edge

/-- In every run that keeps the sources apart, each read gets its own response, in order and
once, and a refused response does not change.

Proof: the reads accepted are those served, then the one of the gate region, then those of the
MAC, which answers only with no response in front of it. An edge that keeps the sources apart
keeps this order, and the induction carries it. -/
theorem csr_reads_correct (inputs : List CsrInput) (apart : KeepsApartThroughout inputs) :
    CsrReadsCorrect inputs := by
  have held : ∃ served answered, CsrInvariant (CsrBench.run inputs) served answered := by
    induction inputs using List.reverseRecOn with
    | nil => exact ⟨[], [], .nothing, rfl, rfl, fun _ => rfl⟩
    | append_singleton inputs input inductionHypothesis =>
      have earlier : KeepsApartThroughout inputs := by
        intro before other after split
        exact apart before other (after ++ [input]) (by rw [split]; simp)
      obtain ⟨served, answered, invariant⟩ := inductionHypothesis earlier
      rw [CsrBench.run, List.foldl_append]
      exact csr_cycle invariant (apart inputs input [] rfl)
  obtain ⟨served, answered, invariant⟩ := held
  refine ⟨invariant.ordered, invariant.conserved, ?_⟩
  intro before input after split valid refused
  exact refused_response (apart before input after split) valid refused

/-- Counters that are all zero, for executions on concrete values. -/
def zeroCsrs : GateCsrs :=
  ⟨0#32, 0#32, 0#32, 0#32, 0#32, 0#32, 0#32, 0#32, 0#32, 0#32, 0#32, 0#32, 0#32, 0#32, 0#32, 0#32,
    0#4, 0#12⟩

/-- A master that reads the MAC's version and, before the response comes, the magic word
of the gate region. -/
def overlappingReads : List CsrInput :=
  [⟨0x000#12, true, true, zeroCsrs, true, none⟩,
    ⟨0x100#12, true, true, zeroCsrs, true, none⟩,
    ⟨0x000#12, false, true, zeroCsrs, true, some ⟨0x0001454d#32, 0#2⟩⟩]

/-- The first of the overlapping reads gets the magic word, so the responses are not those due. -/
theorem csr_reads_crossed : ¬ CsrReadsCorrect overlappingReads := by
  intro correct
  exact absurd correct.ordered (by decide)

/-- One read at a time, of both regions, keeps the sources apart, so the master gets each
response in turn. -/
theorem csr_reads_correct_in_turn : CsrReadsCorrect
    [⟨0x000#12, true, true, zeroCsrs, true, some ⟨0x0001454d#32, 0#2⟩⟩,
      ⟨0x100#12, true, true, zeroCsrs, true, none⟩,
      ⟨0x000#12, false, true, zeroCsrs, true, none⟩] := by
  apply csr_reads_correct
  intro before input after split
  rcases before with _ | ⟨first, _ | ⟨second, _ | ⟨third, rest⟩⟩⟩ <;>
    simp only [List.nil_append, List.cons_append, List.cons.injEq] at split
  · obtain ⟨rfl, -⟩ := split
    decide
  · obtain ⟨rfl, rfl, -⟩ := split
    decide
  · obtain ⟨rfl, rfl, rfl, -⟩ := split
    decide
  · simp at split

end EmaczZephyr.Rtl
