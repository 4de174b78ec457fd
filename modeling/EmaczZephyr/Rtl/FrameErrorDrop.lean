import Mathlib.Algebra.Ring.Nat
import Mathlib.Logic.Function.Basic
import EmaczZephyr.Foundation.Framing

/-!
# The frame error gate

`axis_frame_error_drop` of the receive path, with its plain RAM. One cycle is one
rising clock edge with the reset released: every register takes its next value from the
registers before the edge and the inputs at it. The registers are grouped by the part
of the clocked block that assigns them: the fill side, the drain side and the drain
statistics; the slot lengths, the occupancy and the RAM are shared.

Registers of a parameterised width are natural numbers and wrap at that width. The RAM
and its output register are not reset, so they start with any content.
-/

namespace EmaczZephyr.Rtl

/-- One word of the frame RAM, and one beat of either stream. -/
structure Beat where
  tsof : Bool
  terror : Bool
  tlast : Bool
  tdata : BitVec 8
deriving DecidableEq

/-- The parameters `ADDR_WIDTH` and `SLOT_COUNT`, in the range in which the index of a slot has
enough bits. -/
structure GateConfig where
  addrWidth : Nat
  slotCount : Nat
  addr_positive : 1 ≤ addrWidth
  slots_positive : 1 ≤ slotCount
  slots_few : slotCount ≤ 16

namespace GateConfig

variable (cfg : GateConfig)

/-- `DEPTH`, the number of beats that a slot has room for. -/
def depth : Nat := 2 ^ cfg.addrWidth

/-- `SLOT_BITS`, the width of the index of a slot. -/
def slotBits : Nat :=
  if cfg.slotCount ≤ 2 then 1
  else if cfg.slotCount ≤ 4 then 2
  else if cfg.slotCount ≤ 8 then 3
  else 4

/-- The slot index behind a slot, around the last one. -/
def nextSlot (slot : Nat) : Nat :=
  if slot = cfg.slotCount - 1 then 0 else (slot + 1) % 2 ^ cfg.slotBits

/-- The address of a word of a slot: `{slot, pointer}`. -/
def address (slot pointer : Nat) : Nat := slot * cfg.depth + pointer

end GateConfig

/-- The states of the fill side: a frame goes to its slot, or the rest of one that outgrew its
slot is dropped. -/
inductive FillState where
  | fillActive
  | fillDrop
deriving DecidableEq

/-- The registers of the fill side, with the counters of the frames by what became of them. -/
structure FillSide where
  fillState : FillState
  fillSlot : Nat
  wrPtr : Nat
  frameBad : Bool
  goodFrames : BitVec 32
  droppedBadFrames : BitVec 32
  droppedOverflowFrames : BitVec 32

/-- The registers of the drain side, with the output beat. -/
structure DrainSide where
  drainSlot : Nat
  rdCount : Nat
  drainLen : Nat
  drainActive : Bool
  ramRdPending : Bool
  mAxis : Beat
  mAxisTvalid : Bool

/-- The drain statistics: the counters of the drain in progress, and the registers of those that
are complete. -/
structure DrainStats where
  drainCyclesCurrent : BitVec 32
  drainTreadyLowCurrent : BitVec 32
  drainSamples : BitVec 32
  drainCyclesTotal : BitVec 32
  drainCyclesMax : BitVec 32
  drainLt50us : BitVec 32
  drain50To100us : BitVec 32
  drain100To200us : BitVec 32
  drain200To500us : BitVec 32
  drainGe500us : BitVec 32
  drainTreadyLowCycles : BitVec 32
  drainTreadyLowCyclesMax : BitVec 32
  drainTreadyLowSamples : BitVec 32

/-- All registers of the gate and its RAM, with the occupancy and the lengths of the stored
frames. -/
structure Gate where
  fill : FillSide
  drain : DrainSide
  stats : DrainStats
  fullCount : Nat
  slotLen : Nat → Nat
  mem : Nat → Beat
  ramDoutR : Beat

/-- The inputs at one edge: the beat that the MAC offers and whether the sink takes one. -/
structure GateInput where
  sAxis : Beat
  sAxisTvalid : Bool
  mAxisTready : Bool

namespace Gate

variable (cfg : GateConfig) (gate : Gate) (input : GateInput)

/-- Some slot is free for a frame, by the occupancy. -/
def slotAvailable : Bool := decide (gate.fullCount < cfg.slotCount)

/-- A beat is taken while a slot is free for it, or while the rest of a frame is dropped. -/
def sAxisTready : Bool := gate.fill.fillState == .fillDrop || gate.slotAvailable cfg

/-- A beat of the MAC is taken at this edge. -/
def inputAccept : Bool := input.sAxisTvalid && gate.sAxisTready cfg

/-- The sink takes the offered beat at this edge. -/
def outputAccept : Bool := gate.drain.mAxisTvalid && input.mAxisTready

/-- The sink takes the last beat of the frame that drains. -/
def finishDrain : Bool := gate.outputAccept input && gate.drain.mAxis.tlast

/-- The output register is free behind this edge: it is empty, or its beat is taken. -/
def outputSlotFree : Bool := !gate.drain.mAxisTvalid || input.mAxisTready

/-- A frame outgrows its slot: the last word is taken and the frame goes on. -/
def writeOverflow : Bool :=
  gate.inputAccept cfg input && gate.fill.wrPtr == cfg.depth - 1 && !input.sAxis.tlast

/-- A taken beat is written, unless it belongs to a frame that is dropped. -/
def ramWrEn : Bool := gate.inputAccept cfg input && gate.fill.fillState == .fillActive

/-- The word that a taken beat is written to. -/
def wrAddr : Nat := cfg.address gate.fill.fillSlot gate.fill.wrPtr

/-- The word that the drain side reads next. -/
def rdAddr : Nat := cfg.address gate.drain.drainSlot (gate.drain.rdCount % cfg.depth)

/-- The drain side reads a word: the output register is free for it, no other read is pending,
and the frame has a next beat. -/
def ramRdFire : Bool :=
  gate.drain.drainActive && !gate.finishDrain input && gate.outputSlotFree input &&
    !gate.drain.ramRdPending && decide (gate.drain.rdCount < gate.drain.drainLen)

/-- `inc_full_count`: the accepted beat ends a frame that is kept. -/
def incFullCount : Bool :=
  gate.fill.fillState == .fillActive && gate.inputAccept cfg input &&
    !gate.writeOverflow cfg input && input.sAxis.tlast &&
    !(gate.fill.frameBad || input.sAxis.terror)

/-- `dec_full_count`: a frame has left its slot at this edge. -/
def decFullCount : Bool := gate.drain.drainActive && gate.finishDrain input

/-- The fill side behind an edge. A frame that ends is kept, dropped for an error or dropped for
its length, and the slot moves on only when it is kept. -/
def fillNext : FillSide :=
  let fill := gate.fill
  match fill.fillState with
  | .fillDrop =>
      if gate.inputAccept cfg input && input.sAxis.tlast then
        { fill with fillState := .fillActive, wrPtr := 0, frameBad := false }
      else fill
  | .fillActive =>
      if gate.inputAccept cfg input then
        if gate.writeOverflow cfg input then
          { fill with
            fillState := .fillDrop
            frameBad := true
            droppedOverflowFrames := fill.droppedOverflowFrames + 1#32 }
        else if input.sAxis.tlast then
          if fill.frameBad || input.sAxis.terror then
            { fill with
              droppedBadFrames := fill.droppedBadFrames + 1#32
              wrPtr := 0
              frameBad := false }
          else
            { fill with
              fillSlot := cfg.nextSlot fill.fillSlot
              goodFrames := fill.goodFrames + 1#32
              wrPtr := 0
              frameBad := false }
        else
          { fill with
            wrPtr := (fill.wrPtr + 1) % cfg.depth
            frameBad := fill.frameBad || input.sAxis.terror }
      else fill

/-- `slot_len` behind an edge: a kept frame leaves its length with its slot. -/
def slotLenNext : Nat → Nat :=
  if gate.incFullCount cfg input then
    Function.update gate.slotLen gate.fill.fillSlot (gate.fill.wrPtr + 1)
  else gate.slotLen

/-- The RAM behind an edge of its write port. -/
def memNext : Nat → Beat :=
  if gate.ramWrEn cfg input then Function.update gate.mem (gate.wrAddr cfg) input.sAxis
  else gate.mem

/-- The output register of the RAM behind an edge of its read port, which holds its word until
the next read. -/
def ramDoutNext : Beat :=
  if gate.ramRdFire input then gate.mem (gate.rdAddr cfg) else gate.ramDoutR

/-- The drain side behind an edge. A frame begins when there is one and none drains; each beat is
read, put on offer and taken in turn. -/
def drainNext : DrainSide :=
  let drain := gate.drain
  let quiet := { drain.mAxis with tlast := false, tsof := false }
  if !drain.drainActive && gate.fullCount != 0 then
    { drain with
      drainActive := true
      drainLen := gate.slotLen drain.drainSlot
      rdCount := 0
      ramRdPending := false
      mAxisTvalid := false
      mAxis := quiet }
  else if drain.drainActive then
    if gate.finishDrain input then
      { drain with
        mAxisTvalid := false
        mAxis := quiet
        drainActive := false
        ramRdPending := false
        drainSlot := cfg.nextSlot drain.drainSlot }
    else
      { drain with
        mAxis := if drain.ramRdPending then gate.ramDoutR else drain.mAxis
        mAxisTvalid :=
          if drain.ramRdPending then true
          else if gate.outputAccept input then false
          else drain.mAxisTvalid
        ramRdPending :=
          if gate.ramRdFire input then true
          else if drain.ramRdPending then false
          else drain.ramRdPending
        rdCount :=
          if gate.ramRdFire input then (drain.rdCount + 1) % 2 ^ (cfg.addrWidth + 1)
          else drain.rdCount }
  else { drain with mAxisTvalid := false, mAxis := quiet }

/-- The statistics that count while a frame drains: the time of the drain and the refusals. -/
def statsRunning : DrainStats :=
  let stats := gate.stats
  if gate.drain.drainActive then
    let counted := { stats with drainCyclesCurrent := stats.drainCyclesCurrent + 1#32 }
    if gate.drain.mAxisTvalid && !input.mAxisTready then
      { counted with
        drainTreadyLowCycles := stats.drainTreadyLowCycles + 1#32
        drainTreadyLowCurrent := stats.drainTreadyLowCurrent + 1#32
        drainTreadyLowSamples := stats.drainTreadyLowSamples + 1#32 }
    else counted
  else stats

/-- The histogram behind a drain time, which goes into one of five bins. -/
def histogramNext (stats : DrainStats) (cycles : BitVec 32) : DrainStats :=
  if cycles < 5000#32 then { stats with drainLt50us := stats.drainLt50us + 1#32 }
  else if cycles < 10000#32 then { stats with drain50To100us := stats.drain50To100us + 1#32 }
  else if cycles < 20000#32 then { stats with drain100To200us := stats.drain100To200us + 1#32 }
  else if cycles < 50000#32 then { stats with drain200To500us := stats.drain200To500us + 1#32 }
  else { stats with drainGe500us := stats.drainGe500us + 1#32 }

/-- The drain statistics behind an edge. They begin with a frame, count along, and are booked
when it ends. -/
def statsNext : DrainStats :=
  let stats := gate.stats
  let running := gate.statsRunning input
  if !gate.drain.drainActive && gate.fullCount != 0 then
    { running with drainCyclesCurrent := 0#32, drainTreadyLowCurrent := 0#32 }
  else if gate.drain.drainActive && gate.finishDrain input then
    let cycles := stats.drainCyclesCurrent + 1#32
    histogramNext
      { running with
        drainSamples := stats.drainSamples + 1#32
        drainCyclesTotal := stats.drainCyclesTotal + stats.drainCyclesCurrent + 1#32
        drainCyclesMax := if stats.drainCyclesMax < cycles then cycles else stats.drainCyclesMax
        drainTreadyLowCyclesMax :=
          if stats.drainTreadyLowCyclesMax < stats.drainTreadyLowCurrent then
            stats.drainTreadyLowCurrent
          else stats.drainTreadyLowCyclesMax } cycles
  else running

/-- `full_count` behind an edge: the kept frames less those that have left, in its own width. -/
def fullCountNext : Nat :=
  match gate.incFullCount cfg input, gate.decFullCount input with
  | true, false => (gate.fullCount + 1) % 2 ^ (cfg.slotBits + 1)
  | false, true =>
      (gate.fullCount + (2 ^ (cfg.slotBits + 1) - 1)) % 2 ^ (cfg.slotBits + 1)
  | _, _ => gate.fullCount

/-- One rising clock edge of the whole gate, every register from its values in front of the edge. -/
def cycle : Gate where
  fill := gate.fillNext cfg input
  drain := gate.drainNext cfg input
  stats := gate.statsNext input
  fullCount := gate.fullCountNext cfg input
  slotLen := gate.slotLenNext cfg input
  mem := gate.memNext cfg input
  ramDoutR := gate.ramDoutNext cfg input

end Gate

/-- The registers behind a reset, with any content of the RAM. -/
def Gate.reset (mem : Nat → Beat) (ramDoutR : Beat) : Gate where
  fill := ⟨.fillActive, 0, 0, false, 0#32, 0#32, 0#32⟩
  drain := ⟨0, 0, 0, false, false, ⟨false, false, false, 0#8⟩, false⟩
  stats := ⟨0#32, 0#32, 0#32, 0#32, 0#32, 0#32, 0#32, 0#32, 0#32, 0#32, 0#32, 0#32, 0#32⟩
  fullCount := 0
  slotLen := fun _ => 0
  mem := mem
  ramDoutR := ramDoutR

/-- The gate with the beats handshaked at its input and at its output. -/
structure Bench where
  gate : Gate
  accepted : List Beat
  emitted : List Beat

/-- One edge, recording the handshakes made at it on both sides. -/
def Bench.cycle (cfg : GateConfig) (bench : Bench) (input : GateInput) : Bench where
  gate := bench.gate.cycle cfg input
  accepted := bench.accepted ++ if bench.gate.inputAccept cfg input then [input.sAxis] else []
  emitted := bench.emitted ++ if bench.gate.outputAccept input then [bench.gate.drain.mAxis] else []

/-- Any number of edges behind a reset, with nothing recorded at first. -/
def Bench.run (cfg : GateConfig) (mem : Nat → Beat) (ramDoutR : Beat) (inputs : List GateInput) :
    Bench :=
  inputs.foldl (Bench.cycle cfg) ⟨Gate.reset mem ramDoutR, [], []⟩

end EmaczZephyr.Rtl
