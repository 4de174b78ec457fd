import EmaczZephyr.Foundation.Clocked
import EmaczZephyr.Foundation.Streaks
import Mathlib.Data.List.DropRight

/-!
# The receive stream statistics

`axis_rx_stream_stats`: counters beside a byte stream that passes through unchanged, and an
AXI-Lite slave that shows them and clears them. One cycle is one rising clock edge with the
reset released. Each of the three clocked blocks of the source is a part of the state of its
own. The write strobes are connected to nothing, and the data of the stream is not counted.

The master may do anything: no property of the slave depends on it.
-/

namespace EmaczZephyr.Rtl

open Clocked Streaks

/-- The registers of the counters, with the running streak of stalls that feeds its maximum. -/
structure StreamCounters where
  cntTvalidHigh : BitVec 32
  cntTvalidHs : BitVec 32
  cntTreadyLow : BitVec 32
  cntTreadyLowMax : BitVec 32
  cntTreadyLowRun : BitVec 32
  cntTlastHs : BitVec 32
  cntTsofHs : BitVec 32
  cntTerrorHs : BitVec 32

/-- The registers of the write channels, with the clear request. -/
structure StatsWrites where
  awreadyR : Bool
  wreadyR : Bool
  bvalidR : Bool
  brespR : BitVec 2
  awSeen : Bool
  wSeen : Bool
  awaddrR : BitVec 12
  wdataR : BitVec 32
  clearReq : Bool

/-- The registers of the read channels. -/
structure StatsReads where
  arreadyR : Bool
  rvalidR : Bool
  rdataR : BitVec 32
  rrespR : BitVec 2

/-- The block: its counters, and the registers of its write and read channels. -/
structure StreamStats where
  counters : StreamCounters
  writes : StatsWrites
  reads : StatsReads

/-- The inputs at one edge: the channels of the slave and the stream that is observed. -/
structure StreamStatsInput where
  sAxiAwaddr : BitVec 12
  sAxiAwvalid : Bool
  sAxiWdata : BitVec 32
  sAxiWvalid : Bool
  sAxiBready : Bool
  sAxiAraddr : BitVec 12
  sAxiArvalid : Bool
  sAxiRready : Bool
  sAxisTvalid : Bool
  sAxisTlast : Bool
  mAxisTready : Bool

/-- `sat_inc`: one more where asked, and no more than the largest word. -/
def satInc (cur : BitVec 32) (doInc : Bool) : BitVec 32 :=
  if doInc && cur != 0xFFFFFFFF#32 then cur + 1#32 else cur

/-- A beat of the observed stream is taken in this cycle. -/
def StreamStatsInput.hs (input : StreamStatsInput) : Bool :=
  input.sAxisTvalid && input.mAxisTready

/-- A beat of the observed stream is offered and not taken in this cycle. -/
def StreamStatsInput.stall (input : StreamStatsInput) : Bool :=
  input.sAxisTvalid && !input.mAxisTready

/-- `s_axis_tsof` and `s_axis_terror`, which are tied to zero. -/
def sAxisTsof : Bool := false

/-- Tied to zero in the wrapper, as `s_axis_tsof` is. -/
def sAxisTerror : Bool := false

/-- The counters behind a reset, and behind a clear request, all at zero. -/
def StreamCounters.reset : StreamCounters := ⟨0#32, 0#32, 0#32, 0#32, 0#32, 0#32, 0#32, 0#32⟩

/-- One edge of the counters. A clear request zeroes them and nothing is counted at that edge. -/
def StreamCounters.next (counters : StreamCounters) (clearReq : Bool)
    (input : StreamStatsInput) : StreamCounters :=
  if clearReq then .reset
  else
    { cntTvalidHigh := satInc counters.cntTvalidHigh input.sAxisTvalid
      cntTvalidHs := satInc counters.cntTvalidHs input.hs
      cntTreadyLow := satInc counters.cntTreadyLow input.stall
      cntTlastHs := satInc counters.cntTlastHs (input.hs && input.sAxisTlast)
      cntTsofHs := satInc counters.cntTsofHs (input.hs && sAxisTsof)
      cntTerrorHs := satInc counters.cntTerrorHs (input.hs && sAxisTerror)
      cntTreadyLowRun := if input.stall then satInc counters.cntTreadyLowRun true else 0#32
      cntTreadyLowMax :=
        if input.stall then
          if satInc counters.cntTreadyLowRun true > counters.cntTreadyLowMax then
            satInc counters.cntTreadyLowRun true
          else counters.cntTreadyLowMax
        else counters.cntTreadyLowMax }

namespace StatsWrites

variable (writes : StatsWrites) (input : StreamStatsInput)

/-- The slave gets ready for an address; while it is, it takes one. -/
def awRaise : Bool := !writes.awSeen && input.sAxiAwvalid && !writes.awreadyR

/-- An address is taken at this edge. -/
def awAccept : Bool := writes.awreadyR && input.sAxiAwvalid

/-- Data is about to be taken: ready goes up behind this edge. -/
def wRaise : Bool := !writes.wSeen && input.sAxiWvalid && !writes.wreadyR

/-- Data is taken at this edge. -/
def wAccept : Bool := writes.wreadyR && input.sAxiWvalid

/-- The write is complete, and no response is in front of its own. -/
def complete : Bool := writes.awSeen && writes.wSeen && !writes.bvalidR

/-- `awaddr_r == 12'h030 && wdata_r[0]`, the slave's own test of a write that clears. -/
def clears (awaddr : BitVec 12) (wdata : BitVec 32) : Bool :=
  awaddr == 0x030#12 && wdata.getLsbD 0

/-- One edge of the write channels. Address and data are taken in any order, and the write
completes when both have been seen. -/
def next : StatsWrites where
  awreadyR :=
    if writes.awRaise input then true
    else if writes.awAccept input then false
    else writes.awreadyR
  wreadyR :=
    if writes.wRaise input then true
    else if writes.wAccept input then false
    else writes.wreadyR
  bvalidR :=
    if writes.bvalidR && input.sAxiBready then false
    else if writes.complete then true
    else writes.bvalidR
  brespR := if writes.complete then 0#2 else writes.brespR
  awSeen :=
    if writes.complete then false
    else if writes.awAccept input then true
    else writes.awSeen
  wSeen :=
    if writes.complete then false
    else if writes.wAccept input then true
    else writes.wSeen
  awaddrR := if writes.awAccept input then input.sAxiAwaddr else writes.awaddrR
  wdataR := if writes.wAccept input then input.sAxiWdata else writes.wdataR
  clearReq := writes.complete && clears writes.awaddrR writes.wdataR

/-- The write channels behind a reset, with nothing seen and no response. -/
def reset : StatsWrites := ⟨false, false, false, 0#2, false, false, 0#12, 0#32, false⟩

end StatsWrites

/-- The words of the slave's read table that are not reserved. -/
def statsWords (counters : StreamCounters) : List (BitVec 12 × BitVec 32) :=
  [(0x000#12, 0x53324D53#32), (0x004#12, counters.cntTvalidHigh),
    (0x008#12, counters.cntTvalidHs), (0x00c#12, counters.cntTreadyLow),
    (0x010#12, counters.cntTreadyLowMax), (0x014#12, counters.cntTlastHs),
    (0x018#12, counters.cntTsofHs), (0x01c#12, counters.cntTerrorHs)]

/-- What the slave's read table has at an address, with zero where it has no entry. -/
def statsWord (counters : StreamCounters) (address : BitVec 12) : BitVec 32 :=
  ((statsWords counters).lookup address).getD 0#32

namespace StatsReads

variable (reads : StatsReads) (input : StreamStatsInput)

/-- A read address is about to be taken: ready goes up behind this edge. -/
def arRaise : Bool := !reads.arreadyR && input.sAxiArvalid && !reads.rvalidR

/-- A read address is taken at this edge. -/
def arAccept : Bool := reads.arreadyR && input.sAxiArvalid

/-- One edge of the read channels, beside the counters whose values a read loads. -/
def next (counters : StreamCounters) : StatsReads where
  arreadyR :=
    if reads.arRaise input then true
    else if reads.arAccept input then false
    else reads.arreadyR
  rvalidR :=
    if reads.rvalidR && input.sAxiRready then false
    else if reads.arAccept input then true
    else reads.rvalidR
  rdataR :=
    if reads.arAccept input then statsWord counters input.sAxiAraddr else reads.rdataR
  rrespR := if reads.arAccept input then 0#2 else reads.rrespR

/-- The read channels behind a reset, with no response. -/
def reset : StatsReads := ⟨false, false, 0#32, 0#2⟩

end StatsReads

/-- One rising clock edge of the whole block, every register from its values in front of the
edge. -/
def StreamStats.cycle (stats : StreamStats) (input : StreamStatsInput) : StreamStats where
  counters := stats.counters.next stats.writes.clearReq input
  writes := stats.writes.next input
  reads := stats.reads.next input stats.counters

/-- The block behind a reset of all its registers. -/
def StreamStats.reset : StreamStats := ⟨.reset, .reset, .reset⟩

/-- The state behind any number of edges from a reset. -/
def StreamStats.run (inputs : List StreamStatsInput) : StreamStats :=
  after StreamStats.cycle .reset inputs

/-- What the counters see of a cycle: the clear request and the observed stream. -/
structure StreamCycle where
  clearReq : Bool
  sAxisTvalid : Bool
  mAxisTready : Bool
  sAxisTlast : Bool

/-- A beat is taken in the cycle. -/
def StreamCycle.hs (cycle : StreamCycle) : Bool := cycle.sAxisTvalid && cycle.mAxisTready

/-- A beat is offered and not taken in the cycle. -/
def StreamCycle.stall (cycle : StreamCycle) : Bool := cycle.sAxisTvalid && !cycle.mAxisTready

/-- The register map of the block: the mark, the counters in their order from 0x004 to 0x01c,
and zero at the reserved addresses and at the control word 0x030. Nothing of the slave's own
read path enters it. -/
def StreamCounters.shownAt (counters : StreamCounters) (address : BitVec 12) : BitVec 32 :=
  if address.toNat = 0x000 then 0x53324D53#32
  else if address.toNat = 0x004 then counters.cntTvalidHigh
  else if address.toNat = 0x008 then counters.cntTvalidHs
  else if address.toNat = 0x00c then counters.cntTreadyLow
  else if address.toNat = 0x010 then counters.cntTreadyLowMax
  else if address.toNat = 0x014 then counters.cntTlastHs
  else if address.toNat = 0x018 then counters.cntTsofHs
  else if address.toNat = 0x01c then counters.cntTerrorHs
  else 0#32

/-- A write asks for a clear: it goes to the control word 0x030 and its data is odd. -/
def AsksClear (write : BitVec 12 × BitVec 32) : Prop :=
  write.1.toNat = 0x030 ∧ write.2.toNat % 2 = 1

/-- Whether a write asks for a clear is a comparison of its address and the parity of its data. -/
instance (write : BitVec 12 × BitVec 32) : Decidable (AsksClear write) :=
  inferInstanceAs (Decidable (_ ∧ _))

namespace StreamStats

variable (stats : StreamStats) (input : StreamStatsInput)

/-- What the counters see in a cycle of the block. -/
def seen : List StreamCycle :=
  [⟨stats.writes.clearReq, input.sAxisTvalid, input.mAxisTready, input.sAxisTlast⟩]

/-- The address taken in a cycle, the data taken, and the write that is completed. -/
def addressed : List (BitVec 12) :=
  if stats.writes.awAccept input then [input.sAxiAwaddr] else []

/-- The data taken in a cycle. -/
def written : List (BitVec 32) :=
  if stats.writes.wAccept input then [input.sAxiWdata] else []

/-- The write that is completed in a cycle, with the address and the data seen for it. -/
def completed : List (BitVec 12 × BitVec 32) :=
  if stats.writes.complete then [(stats.writes.awaddrR, stats.writes.wdataR)] else []

/-- The write response that the master takes in a cycle. -/
def responded : List (BitVec 2) :=
  if stats.writes.bvalidR && input.sAxiBready then [stats.writes.brespR] else []

/-- A cycle in which the clear request is high. -/
def cleared : List Unit := if stats.writes.clearReq then [()] else []

/-- What the read taken in a cycle is due: the register that the map has at its address, as
it is in that cycle. -/
def due : List (BitVec 32 × BitVec 2) :=
  if stats.reads.arAccept input then [(stats.counters.shownAt input.sAxiAraddr, 0#2)] else []

/-- The data and the read response that the master takes in a cycle. -/
def returned : List (BitVec 32 × BitVec 2) :=
  if stats.reads.rvalidR && input.sAxiRready then [(stats.reads.rdataR, stats.reads.rrespR)]
  else []

end StreamStats

/-- The events of a run behind a reset, as the observation shows them cycle by cycle. -/
def statsEvents {Event : Type} (observe : StreamStats → StreamStatsInput → List Event)
    (inputs : List StreamStatsInput) : List Event :=
  recorded StreamStats.cycle observe .reset inputs

/-- The cycles behind the last one with the clear request high. -/
def sinceClear (cycles : List StreamCycle) : List StreamCycle :=
  cycles.rtakeWhile fun cycle => !cycle.clearReq

/-- The counters show the cycles they count, or their largest value. -/
structure CountersCorrect (cycles : List StreamCycle) (counters : StreamCounters) : Prop where
  tvalid_high : Saturates counters.cntTvalidHigh (cycles.countP StreamCycle.sAxisTvalid)
  tvalid_hs : Saturates counters.cntTvalidHs (cycles.countP StreamCycle.hs)
  tready_low : Saturates counters.cntTreadyLow (cycles.countP StreamCycle.stall)
  tlast_hs : Saturates counters.cntTlastHs
    (cycles.countP fun cycle => cycle.hs && cycle.sAxisTlast)
  tready_low_max : ∃ longest, IsGreatest (streaks StreamCycle.stall cycles) longest ∧
    Saturates counters.cntTreadyLowMax longest

/-- Writes lose and repeat nothing: addresses, data, responses and clear requests each agree with
the completed writes. -/
structure WritesCorrect (inputs : List StreamStatsInput) : Prop where
  /-- The completed writes are those whose address and data were taken, in order. -/
  addresses : statsEvents StreamStats.addressed inputs =
    (statsEvents (fun stats _ => stats.completed) inputs).map Prod.fst ++
      if (StreamStats.run inputs).writes.awSeen then [(StreamStats.run inputs).writes.awaddrR]
      else []
  data : statsEvents StreamStats.written inputs =
    (statsEvents (fun stats _ => stats.completed) inputs).map Prod.snd ++
      if (StreamStats.run inputs).writes.wSeen then [(StreamStats.run inputs).writes.wdataR]
      else []
  /-- Each of them gets one response. -/
  responses : (statsEvents (fun stats _ => stats.completed) inputs).map (fun _ => 0#2) =
    statsEvents StreamStats.responded inputs ++
      if (StreamStats.run inputs).writes.bvalidR then [(StreamStats.run inputs).writes.brespR]
      else []
  /-- A write whose two halves are there has its response next unless one is in front. -/
  prompt : (StreamStats.run inputs).writes.awSeen = true →
    (StreamStats.run inputs).writes.wSeen = true →
      (StreamStats.run inputs).writes.bvalidR = true ∨
        ∀ input, ((StreamStats.run inputs).cycle input).writes.bvalidR = true
  /-- A refused response stays. -/
  held : ∀ input, (StreamStats.run inputs).writes.bvalidR = true → input.sAxiBready = false →
    ((StreamStats.run inputs).cycle input).writes.bvalidR = true
  /-- The clear request is high in the cycle behind the completion of a write that clears. -/
  clears : ∀ input, ((StreamStats.run inputs).cycle input).writes.clearReq = true ↔
    ∃ write ∈ (StreamStats.run inputs).completed, AsksClear write
  /-- Each such write has one cycle of it, which may be the next. -/
  cleared_once : (statsEvents (fun stats _ => stats.completed) inputs).countP
      (fun write => AsksClear write) =
    (statsEvents (fun stats _ => stats.cleared) inputs).length +
      (StreamStats.run inputs).writes.clearReq.toNat

/-- Each read gets the register at its address as it was when the read was taken, once and in
order. -/
structure ReadsCorrect (inputs : List StreamStatsInput) : Prop where
  responses : statsEvents StreamStats.due inputs = statsEvents StreamStats.returned inputs ++
    if (StreamStats.run inputs).reads.rvalidR then
      [((StreamStats.run inputs).reads.rdataR, (StreamStats.run inputs).reads.rrespR)]
    else []
  /-- A refused response stays. -/
  held : ∀ input, (StreamStats.run inputs).reads.rvalidR = true → input.sAxiRready = false →
    ((StreamStats.run inputs).cycle input).reads.rvalidR = true ∧
      ((StreamStats.run inputs).cycle input).reads.rdataR =
        (StreamStats.run inputs).reads.rdataR

/-- The lookup of the slave finds what the register map has at every address, entry by entry. -/
theorem stats_word_shown (counters : StreamCounters) (address : BitVec 12) :
    statsWord counters address = counters.shownAt address := by
  have front (entry : BitVec 12) (value : BitVec 32) (rest : List (BitVec 12 × BitVec 32)) :
      (List.lookup address ((entry, value) :: rest)).getD 0#32 =
        if address.toNat = entry.toNat then value else (rest.lookup address).getD 0#32 := by
    rw [List.lookup_cons]
    by_cases here : address = entry
    · simp [here]
    · have numbers : address.toNat ≠ entry.toNat := fun same => here (BitVec.eq_of_toNat_eq same)
      rw [beq_false_of_ne here, if_neg numbers]
  simp only [statsWord, statsWords, front, List.lookup_nil, Option.getD_none]
  rfl

/-- The slave's decoder recognises exactly the writes that ask for a clear: the control word by
its number, and odd data by its lowest bit. -/
theorem clears_asked (write : BitVec 12 × BitVec 32) :
    StatsWrites.clears write.1 write.2 = decide (AsksClear write) := by
  have control : write.1 = 0x030#12 ↔ write.1.toNat = 0x030 := BitVec.toNat_inj.symm
  have odd : write.2.getLsbD 0 = decide (write.2.toNat % 2 = 1) := Nat.testBit_zero _
  rw [StatsWrites.clears, odd, Bool.beq_eq_decide_eq, ← Bool.decide_and, decide_eq_decide, control]
  rfl

section Counting

variable {counters : StreamCounters} {cycles : List StreamCycle} {input : StreamStatsInput}

/-- The source's saturating increment is the general one. -/
theorem sat_inc_bump (cur : BitVec 32) (doInc : Bool) : satInc cur doInc = bump cur doInc := rfl

/-- One more cycle counts one more for each counter whose test it passes, up to the largest word. -/
theorem count_bumped {counter : BitVec 32} {test : StreamCycle → Bool} {cycle : StreamCycle}
    {doInc : Bool} (counts : Saturates counter (cycles.countP test)) (tested : doInc = test cycle) :
    Saturates (satInc counter doInc) ((cycles ++ [cycle]).countP test) := by
  have bumped := counts.bump doInc
  rw [sat_inc_bump, List.countP_append, List.countP_singleton]
  cases passes : test cycle with
  | false => simpa [passes, tested] using bumped
  | true => simpa [passes, tested] using bumped

/-- The counters with the two lengths behind the longest streak. -/
structure CountersInvariant (cycles : List StreamCycle) (counters : StreamCounters) : Prop where
  tvalid_high : Saturates counters.cntTvalidHigh (cycles.countP StreamCycle.sAxisTvalid)
  tvalid_hs : Saturates counters.cntTvalidHs (cycles.countP StreamCycle.hs)
  tready_low : Saturates counters.cntTreadyLow (cycles.countP StreamCycle.stall)
  tlast_hs : Saturates counters.cntTlastHs
    (cycles.countP fun cycle => cycle.hs && cycle.sAxisTlast)
  tracked : ∃ current longest, Tracks StreamCycle.stall cycles current longest ∧
    Saturates counters.cntTreadyLowRun current ∧ Saturates counters.cntTreadyLowMax longest

/-- Cleared counters have counted no cycles. -/
theorem counters_cleared : CountersInvariant [] .reset where
  tvalid_high := saturates_zero 32
  tvalid_hs := saturates_zero 32
  tready_low := saturates_zero 32
  tlast_hs := saturates_zero 32
  tracked := ⟨0, 0, tracks_nil _, saturates_zero 32, saturates_zero 32⟩

/-- One edge without a clear request counts its cycle in each counter, and in the streak of
stalls. -/
theorem counters_next (invariant : CountersInvariant cycles counters) (input : StreamStatsInput) :
    CountersInvariant
      (cycles ++ [⟨false, input.sAxisTvalid, input.mAxisTready, input.sAxisTlast⟩])
      (counters.next false input) where
  tvalid_high := count_bumped invariant.tvalid_high rfl
  tvalid_hs := count_bumped invariant.tvalid_hs rfl
  tready_low := count_bumped invariant.tready_low rfl
  tlast_hs := count_bumped invariant.tlast_hs rfl
  tracked := by
    obtain ⟨current, longest, tracks, run, most⟩ := invariant.tracked
    cases stalls : input.stall with
    | false =>
      have run_next : (counters.next false input).cntTreadyLowRun = 0#32 := by
        simp [StreamCounters.next, stalls]
      have max_next : (counters.next false input).cntTreadyLowMax = counters.cntTreadyLowMax := by
        simp [StreamCounters.next, stalls]
      rw [run_next, max_next]
      exact ⟨0, longest, tracks.miss stalls, saturates_zero 32, most⟩
    | true =>
      have longer := run.bump true
      have run_next : (counters.next false input).cntTreadyLowRun =
          bump counters.cntTreadyLowRun true := by
        simp [StreamCounters.next, stalls, sat_inc_bump]
      have max_next : (counters.next false input).cntTreadyLowMax =
          if counters.cntTreadyLowMax < bump counters.cntTreadyLowRun true then
            bump counters.cntTreadyLowRun true else counters.cntTreadyLowMax := by
        simp [StreamCounters.next, stalls, sat_inc_bump]
      rw [run_next, max_next]
      exact ⟨current + 1, max longest (current + 1), tracks.hit stalls, longer, most.larger longer⟩

/-- Behind every edge the counters count the cycles since the last clear request. Along the run:
a request starts the cycles afresh, and every other edge adds one. -/
theorem counters_counted (inputs : List StreamStatsInput) :
    CountersInvariant (sinceClear (statsEvents StreamStats.seen inputs))
      (StreamStats.run inputs).counters := by
  have cleared : CountersInvariant (sinceClear []) StreamStats.reset.counters := counters_cleared
  refine along (fun cycles (stats : StreamStats) =>
    CountersInvariant (sinceClear cycles) stats.counters) cleared ?_ inputs
  intro cycles stats input invariant
  rw [StreamStats.seen, sinceClear, List.rtakeWhile_concat]
  change CountersInvariant _ (stats.counters.next stats.writes.clearReq input)
  cases clears : stats.writes.clearReq with
  | true => exact counters_cleared
  | false => exact counters_next invariant input

/-- Counters that track the cycles show what is claimed of them; the running streak is what the
maximum needed. -/
theorem CountersInvariant.correct (invariant : CountersInvariant cycles counters) :
    CountersCorrect cycles counters := by
  obtain ⟨current, longest, tracks, -, most⟩ := invariant.tracked
  exact ⟨invariant.tvalid_high, invariant.tvalid_hs, invariant.tready_low, invariant.tlast_hs,
    longest, tracks.longest, most⟩

end Counting

section Channels

variable {stats : StreamStats} {input : StreamStatsInput}

/-- A channel is not ready for a second half before the write is complete, nor for a read
before the response is taken. -/
structure ChannelsApart (stats : StreamStats) : Prop where
  address : stats.writes.awSeen = true → stats.writes.awreadyR = false
  data : stats.writes.wSeen = true → stats.writes.wreadyR = false
  read : stats.reads.rvalidR = true → stats.reads.arreadyR = false

/-- Behind a reset no write is seen and no response waits, so the channels are apart. -/
theorem apart_reset : ChannelsApart .reset := by
  constructor <;> intro seen <;> cases seen

/-- Every edge keeps the channels apart: ready is up only while nothing has been seen, and a
response only follows a completed write. -/
theorem apart_cycle (apart : ChannelsApart stats) (input : StreamStatsInput) :
    ChannelsApart (stats.cycle input) where
  address seen := by
    have earlier := apart.address
    simp only [StreamStats.cycle, StatsWrites.next, StatsWrites.awRaise,
      StatsWrites.awAccept] at seen ⊢
    rcases Bool.eq_false_or_eq_true stats.writes.awSeen with taken | free
    · simp [taken, earlier taken]
    · rcases Bool.eq_false_or_eq_true stats.writes.awreadyR with ready | waiting
      · simp_all
      · simp [free, waiting] at seen
  data seen := by
    have earlier := apart.data
    simp only [StreamStats.cycle, StatsWrites.next, StatsWrites.wRaise,
      StatsWrites.wAccept] at seen ⊢
    rcases Bool.eq_false_or_eq_true stats.writes.wSeen with taken | free
    · simp [taken, earlier taken]
    · rcases Bool.eq_false_or_eq_true stats.writes.wreadyR with ready | waiting
      · simp_all
      · simp [free, waiting] at seen
  read valid := by
    have earlier := apart.read
    simp only [StreamStats.cycle, StatsReads.next, StatsReads.arRaise,
      StatsReads.arAccept] at valid ⊢
    rcases Bool.eq_false_or_eq_true stats.reads.rvalidR with shown | free
    · simp [shown, earlier shown]
    · rcases Bool.eq_false_or_eq_true stats.reads.arreadyR with ready | waiting
      · simp_all
      · simp [free, waiting] at valid

/-- The channels are apart in every state of a run. -/
theorem run_apart (inputs : List StreamStatsInput) : ChannelsApart (StreamStats.run inputs) :=
  after_invariant apart_reset (fun _ input apart => apart_cycle apart input) inputs

/-- The account of the addresses at one edge: the one seen and the one taken are the one of a
completed write and the one seen behind the edge. -/
theorem address_cycle (apart : ChannelsApart stats) (input : StreamStatsInput) :
    (if stats.writes.awSeen then [stats.writes.awaddrR] else []) ++ stats.addressed input =
      stats.completed.map Prod.fst ++
        if (stats.cycle input).writes.awSeen then [(stats.cycle input).writes.awaddrR] else [] := by
  rw [StreamStats.completed, map_slot]
  apply slot_edge _ _ rfl rfl
  · intro taken
    by_contra seen
    rw [StatsWrites.awAccept, apart.address (Bool.not_eq_false _ ▸ seen)] at taken
    cases taken
  · intro complete
    simp only [StatsWrites.complete, Bool.and_eq_true] at complete
    exact complete.1.1

/-- The account of the data at one edge, which goes as that of the addresses. -/
theorem data_cycle (apart : ChannelsApart stats) (input : StreamStatsInput) :
    (if stats.writes.wSeen then [stats.writes.wdataR] else []) ++ stats.written input =
      stats.completed.map Prod.snd ++
        if (stats.cycle input).writes.wSeen then [(stats.cycle input).writes.wdataR] else [] := by
  rw [StreamStats.completed, map_slot]
  apply slot_edge _ _ rfl rfl
  · intro taken
    by_contra seen
    rw [StatsWrites.wAccept, apart.data (Bool.not_eq_false _ ▸ seen)] at taken
    cases taken
  · intro complete
    simp only [StatsWrites.complete, Bool.and_eq_true] at complete
    exact complete.1.2

/-- The account of the write responses at one edge: the one waiting and the one of a completed
write are the one taken and the one waiting behind the edge. -/
theorem response_cycle (stats : StreamStats) (input : StreamStatsInput) :
    (if stats.writes.bvalidR then [stats.writes.brespR] else []) ++
        stats.completed.map (fun _ => 0#2) =
      stats.responded input ++
        if (stats.cycle input).writes.bvalidR then [(stats.cycle input).writes.brespR]
        else [] := by
  rw [StreamStats.completed, map_slot]
  apply slot_edge _ _ rfl rfl
  · intro complete
    simp only [StatsWrites.complete, Bool.and_eq_true, Bool.not_eq_true'] at complete
    exact complete.2
  · exact fun taken => (Bool.and_eq_true_iff.mp taken).1

/-- The account of the reads at one edge: the waiting response and the one due to a read that is
taken are the one returned and the one waiting behind the edge. The slave's table is the register
map, so what is loaded is what is due. -/
theorem read_cycle (apart : ChannelsApart stats) (input : StreamStatsInput) :
    (if stats.reads.rvalidR then [(stats.reads.rdataR, stats.reads.rrespR)] else []) ++
        stats.due input =
      stats.returned input ++
        if (stats.cycle input).reads.rvalidR then
          [((stats.cycle input).reads.rdataR, (stats.cycle input).reads.rrespR)]
        else [] := by
  apply slot_edge _ _ rfl
  · simp only [StreamStats.cycle, StatsReads.next, stats_word_shown]
    split <;> rfl
  · intro accepted
    by_contra valid
    rw [StatsReads.arAccept, apart.read (Bool.not_eq_false _ ▸ valid)] at accepted
    cases accepted
  · exact fun taken => (Bool.and_eq_true_iff.mp taken).1

end Channels

/-- The account of the clear requests at one edge: each is for the write completed at the
edge before. -/
theorem clear_cycle (stats : StreamStats) (input : StreamStatsInput) :
    (if stats.writes.clearReq then [()] else []) ++
        (stats.completed.filter fun write => AsksClear write).map (fun _ => ()) =
      stats.cleared ++ if (stats.cycle input).writes.clearReq then [()] else [] := by
  simp only [StreamStats.cleared, StreamStats.completed, StreamStats.cycle, StatsWrites.next]
  rcases Bool.eq_false_or_eq_true stats.writes.complete with complete | open_write
  · have asked := clears_asked (stats.writes.awaddrR, stats.writes.wdataR)
    by_cases clears : AsksClear (stats.writes.awaddrR, stats.writes.wdataR)
    · simp [complete, asked, clears]
    · simp [complete, asked, clears]
  · simp [open_write]

/-- Each completed write that asks for a clear raises the request for one cycle, the one behind
it, and nothing else raises it. -/
theorem clear_account (inputs : List StreamStatsInput) :
    ((statsEvents (fun stats _ => stats.completed) inputs).filter
        fun write => AsksClear write).map (fun _ => ()) =
      statsEvents (fun stats _ => stats.cleared) inputs ++
        if (StreamStats.run inputs).writes.clearReq then [()] else [] := by
  rw [statsEvents, filter_recorded, map_recorded]
  exact exchange apart_reset (fun _ input apart => apart_cycle apart input) rfl
    (fun stats input _ => clear_cycle stats input) inputs

/-- Writes lose and repeat nothing in any run, by the accounts at one edge and the law of
recorded events. -/
theorem writes_correct (inputs : List StreamStatsInput) : WritesCorrect inputs where
  addresses := by
    rw [statsEvents, statsEvents, map_recorded]
    exact exchange apart_reset (fun _ input apart => apart_cycle apart input) rfl
      (fun _ input apart => address_cycle apart input) inputs
  data := by
    rw [statsEvents, statsEvents, map_recorded]
    exact exchange apart_reset (fun _ input apart => apart_cycle apart input) rfl
      (fun _ input apart => data_cycle apart input) inputs
  responses := by
    rw [statsEvents, statsEvents, map_recorded]
    exact exchange apart_reset (fun _ input apart => apart_cycle apart input) rfl
      (fun stats input _ => response_cycle stats input) inputs
  prompt := by
    intro address data
    cases valid : (StreamStats.run inputs).writes.bvalidR with
    | true => exact .inl rfl
    | false =>
      refine .inr fun input => ?_
      simp [StreamStats.cycle, StatsWrites.next, StatsWrites.complete, address, data, valid]
  held := by
    intro input valid refused
    simp [StreamStats.cycle, StatsWrites.next, valid, refused]
  clears := by
    intro input
    simp only [StreamStats.cycle, StatsWrites.next, StreamStats.completed]
    rcases Bool.eq_false_or_eq_true (StreamStats.run inputs).writes.complete with
      complete | open_write
    · have asked := clears_asked
        ((StreamStats.run inputs).writes.awaddrR, (StreamStats.run inputs).writes.wdataR)
      simp [complete, asked]
    · simp [open_write]
  cleared_once := by
    have account := clear_account inputs
    rw [List.countP_eq_length_filter, ← List.length_map (fun _ => ()), account,
      List.length_append]
    cases (StreamStats.run inputs).writes.clearReq <;> rfl

/-- Each read is answered once and in order with what it is due, by the account at one edge. -/
theorem reads_correct (inputs : List StreamStatsInput) : ReadsCorrect inputs where
  responses := exchange apart_reset (fun _ input apart => apart_cycle apart input) rfl
    (fun _ input apart => read_cycle apart input) inputs
  held := by
    intro input valid refused
    have idle : (StreamStats.run inputs).reads.arAccept input = false := by
      rw [StatsReads.arAccept, (run_apart inputs).read valid, Bool.false_and]
    simp [StreamStats.cycle, StatsReads.next, valid, refused, idle]

/-- Whatever the stream and the master do for any number of cycles: the counters count the
cycles since the last clear request, each completed write has one response and each read its
register, and the clear request is high for one cycle per write that clears. -/
theorem stream_stats_correct (inputs : List StreamStatsInput) :
    CountersCorrect (sinceClear (statsEvents StreamStats.seen inputs))
        (StreamStats.run inputs).counters ∧
      WritesCorrect inputs ∧ ReadsCorrect inputs :=
  ⟨(counters_counted inputs).correct, writes_correct inputs, reads_correct inputs⟩

end EmaczZephyr.Rtl
