import EmaczZephyr.Foundation.Window
import EmaczZephyr.Rtl.FrameErrorDrop

/-!
# The gate forwards exactly the good frames

The slots from the drain slot up to the fill slot hold the frames that are kept and not
yet wholly sent, oldest first. The fill side writes one slot beyond them, or drops a
frame that has outgrown its slot; the drain side sends the first of them beat by beat
through the RAM's one-cycle read. A slot is written only while another is free, so the
fill side never touches a held frame and never stalls inside one.

What is shown is the order and the content of the output, the two handshake rules and
the counters, for every input and every number of cycles behind a reset. The XPM memory
of the Xilinx build is not modelled.
-/

namespace EmaczZephyr.Rtl

open Framing

/-- The frames of a beat stream, cut behind every beat with `tlast`. -/
def framesOf (beats : List Beat) : Frames Beat := frames Beat.tlast beats

/-- A frame that fits a slot and bears no error. -/
def goodFrame (cfg : GateConfig) (frame : List Beat) : Bool :=
  decide (frame.length ≤ cfg.depth) && !frame.any Beat.terror

/-- A frame that fits a slot and bears an error. -/
def badFrame (cfg : GateConfig) (frame : List Beat) : Bool :=
  decide (frame.length ≤ cfg.depth) && frame.any Beat.terror

/-- A frame that does not fit a slot of the gate. -/
def overflowFrame (cfg : GateConfig) (frame : List Beat) : Bool :=
  decide (cfg.depth < frame.length)

/-- The frames that have run past a slot: among them the unfinished one once a slot's
worth of beats did not end it. -/
def overflowCount (cfg : GateConfig) (frames : Frames Beat) : Nat :=
  frames.complete.countP (overflowFrame cfg) +
    if cfg.depth ≤ frames.unfinished.length then 1 else 0

/-- What a bench shows at any time: a prefix of the good frames at the output, without errors,
and few that are not wholly sent. -/
structure GateCorrect (cfg : GateConfig) (bench : Bench) : Prop where
  /-- The output is the first part of the good frames, beat for beat. -/
  output : bench.emitted <+: ((framesOf bench.accepted).complete.filter (goodFrame cfg)).flatten
  clear : ∀ beat ∈ bench.emitted, beat.terror = false
  /-- The good frames that are not wholly sent are few. -/
  backlog : ((framesOf bench.accepted).complete.filter (goodFrame cfg)).length ≤
    bench.emitted.countP Beat.tlast + cfg.slotCount
  /-- No stall inside a frame. -/
  ready : (framesOf bench.accepted).unfinished ≠ [] → bench.gate.sAxisTready cfg = true
  /-- A refused output beat stays. -/
  stable : ∀ input : GateInput, bench.gate.drain.mAxisTvalid = true → input.mAxisTready = false →
    (bench.gate.cycle cfg input).drain.mAxisTvalid = true ∧
      (bench.gate.cycle cfg input).drain.mAxis = bench.gate.drain.mAxis
  good_count : bench.gate.fill.goodFrames =
    BitVec.ofNat 32 ((framesOf bench.accepted).complete.countP (goodFrame cfg))
  bad_count : bench.gate.fill.droppedBadFrames =
    BitVec.ofNat 32 ((framesOf bench.accepted).complete.countP (badFrame cfg))
  overflow_count : bench.gate.fill.droppedOverflowFrames =
    BitVec.ofNat 32 (overflowCount cfg (framesOf bench.accepted))
  samples : bench.gate.stats.drainSamples =
    BitVec.ofNat 32 (bench.emitted.countP Beat.tlast)
  histogram : bench.gate.stats.drainLt50us + bench.gate.stats.drain50To100us +
    bench.gate.stats.drain100To200us + bench.gate.stats.drain200To500us +
    bench.gate.stats.drainGe500us = bench.gate.stats.drainSamples

section Slots

variable {cfg : GateConfig}

/-- A power of two is positive, so a slot has room for at least one beat. -/
theorem GateConfig.depth_positive (cfg : GateConfig) : 0 < cfg.depth :=
  Nat.two_pow_pos _

/-- The slot index has enough bits, in each of the four ranges of the slot count. -/
theorem GateConfig.slots_fit (cfg : GateConfig) : cfg.slotCount ≤ 2 ^ cfg.slotBits := by
  have few := cfg.slots_few
  unfold GateConfig.slotBits
  split_ifs <;> omega

/-- The next slot is taken round the ring, because the comparison with the last one comes before
the register could wrap. -/
theorem next_slot {slot : Nat} (inside : slot < cfg.slotCount) :
    cfg.nextSlot slot = (slot + 1) % cfg.slotCount := by
  have fits := cfg.slots_fit
  unfold GateConfig.nextSlot
  split
  · rename_i final
    have full : slot + 1 = cfg.slotCount := by omega
    rw [full, Nat.mod_self]
  · rw [Nat.mod_eq_of_lt (by omega), Nat.mod_eq_of_lt (by omega)]

/-- Words of different slots are different words: the slot is the quotient of the address by the
depth and the position is the remainder. -/
theorem address_injective {left right first second : Nat} (first_inside : first < cfg.depth)
    (second_inside : second < cfg.depth)
    (same : cfg.address left first = cfg.address right second) :
    left = right ∧ first = second := by
  simp only [GateConfig.address] at same
  have slots : left = right := by
    have quotient := congrArg (· / cfg.depth) same
    simpa [Nat.add_comm, Nat.add_mul_div_right _ _ cfg.depth_positive,
      Nat.div_eq_of_lt first_inside, Nat.div_eq_of_lt second_inside] using quotient
  subst slots
  exact ⟨rfl, Nat.add_left_cancel same⟩

/-- The first words of a slot are the given beats. -/
def Written (cfg : GateConfig) (mem : Nat → Beat) (slot : Nat) (beats : List Beat) : Prop :=
  ∀ position beat, beats[position]? = some beat → mem (cfg.address slot position) = beat

/-- A slot holds a frame: its length is noted, and its beats are written. -/
structure Holds (cfg : GateConfig) (gate : Gate) (slot : Nat) (frame : List Beat) : Prop where
  length : gate.slotLen slot = frame.length
  beats : Written cfg gate.mem slot frame

/-- A write to another word leaves the beats of a slot, whether it goes to another slot or behind
the beats of the same one. -/
theorem Written.update_other {mem : Nat → Beat} {slot other pointer : Nat} {beats : List Beat}
    {written : Beat} (held : Written cfg mem slot beats) (fits : beats.length ≤ cfg.depth)
    (inside : pointer < cfg.depth) (distinct : slot ≠ other ∨ beats.length ≤ pointer) :
    Written cfg (Function.update mem (cfg.address other pointer) written) slot beats := by
  intro position beat here
  have near := (List.getElem?_eq_some_iff.mp here).1
  rw [Function.update_of_ne ?_]
  · exact held position beat here
  · intro same
    obtain ⟨slots, positions⟩ := address_injective (by omega) inside same
    rcases distinct with apart | beyond
    · exact apart slots
    · omega

/-- A write behind the beats of a slot adds one to them, and spares those that are there. -/
theorem Written.append {mem : Nat → Beat} {slot : Nat} {beats : List Beat} {written : Beat}
    (held : Written cfg mem slot beats) (room : beats.length < cfg.depth) :
    Written cfg (Function.update mem (cfg.address slot beats.length) written) slot
      (beats ++ [written]) := by
  intro position beat here
  rcases Nat.lt_or_ge position beats.length with early | late
  · rw [List.getElem?_append_left early] at here
    exact (held.update_other room.le room (.inr le_rfl)) position beat here
  · have near := (List.getElem?_eq_some_iff.mp here).1
    have at_end : position = beats.length := by
      rw [List.length_append, List.length_singleton] at near
      omega
    subst at_end
    rw [List.getElem?_concat_length] at here
    rw [Function.update_self]
    exact Option.some.inj here

end Slots

/-- What one edge does to the fill side, and whether it keeps a frame. -/
inductive FillStep (cfg : GateConfig) (gate : Gate) (input : GateInput) : FillSide → Bool → Prop
  | wait (refused : gate.inputAccept cfg input = false) : FillStep cfg gate input gate.fill false
  | skip (accepted : gate.inputAccept cfg input = true)
      (dropping : gate.fill.fillState = .fillDrop) (more : input.sAxis.tlast = false) :
      FillStep cfg gate input gate.fill false
  | resume (accepted : gate.inputAccept cfg input = true)
      (dropping : gate.fill.fillState = .fillDrop) (ends : input.sAxis.tlast = true) :
      FillStep cfg gate input
        { gate.fill with fillState := .fillActive, wrPtr := 0, frameBad := false } false
  | overflow (accepted : gate.inputAccept cfg input = true)
      (filling : gate.fill.fillState = .fillActive) (more : input.sAxis.tlast = false)
      (full : gate.fill.wrPtr = cfg.depth - 1) :
      FillStep cfg gate input
        { gate.fill with
          fillState := .fillDrop
          frameBad := true
          droppedOverflowFrames := gate.fill.droppedOverflowFrames + 1#32 } false
  | store (accepted : gate.inputAccept cfg input = true)
      (filling : gate.fill.fillState = .fillActive) (more : input.sAxis.tlast = false)
      (room : gate.fill.wrPtr ≠ cfg.depth - 1) :
      FillStep cfg gate input
        { gate.fill with
          wrPtr := (gate.fill.wrPtr + 1) % cfg.depth
          frameBad := gate.fill.frameBad || input.sAxis.terror } false
  | discard (accepted : gate.inputAccept cfg input = true)
      (filling : gate.fill.fillState = .fillActive) (ends : input.sAxis.tlast = true)
      (bad : (gate.fill.frameBad || input.sAxis.terror) = true) :
      FillStep cfg gate input
        { gate.fill with
          droppedBadFrames := gate.fill.droppedBadFrames + 1#32
          wrPtr := 0
          frameBad := false } false
  | keep (accepted : gate.inputAccept cfg input = true)
      (filling : gate.fill.fillState = .fillActive) (ends : input.sAxis.tlast = true)
      (good : (gate.fill.frameBad || input.sAxis.terror) = false) :
      FillStep cfg gate input
        { gate.fill with
          fillSlot := cfg.nextSlot gate.fill.fillSlot
          goodFrames := gate.fill.goodFrames + 1#32
          wrPtr := 0
          frameBad := false } true

/-- Every edge of the fill side is one of these steps. It is told by the state, whether a beat is
taken, whether it is the last, and whether the frame is bad or outgrown. -/
theorem fill_step (cfg : GateConfig) (gate : Gate) (input : GateInput) :
    FillStep cfg gate input (gate.fillNext cfg input) (gate.incFullCount cfg input) := by
  cases accepts : gate.inputAccept cfg input with
  | false =>
    have next : gate.fillNext cfg input = gate.fill := by
      cases state : gate.fill.fillState <;> simp [Gate.fillNext, state, accepts]
    rw [next, Gate.incFullCount, accepts, Bool.and_false]
    exact .wait accepts
  | true =>
    cases state : gate.fill.fillState with
    | fillDrop =>
      have keeps_none : gate.incFullCount cfg input = false := by
        rw [Gate.incFullCount, state]
        rfl
      rw [keeps_none]
      cases ends : input.sAxis.tlast with
      | false =>
        simpa [Gate.fillNext, accepts, state, ends] using FillStep.skip accepts state ends
      | true =>
        simpa [Gate.fillNext, accepts, state, ends] using FillStep.resume accepts state ends
    | fillActive =>
      cases ends : input.sAxis.tlast with
      | false =>
        by_cases full : gate.fill.wrPtr = cfg.depth - 1
        · simpa [Gate.fillNext, Gate.incFullCount, Gate.writeOverflow, accepts, state, ends, full]
            using FillStep.overflow accepts state ends full
        · simpa [Gate.fillNext, Gate.incFullCount, Gate.writeOverflow, accepts, state, ends, full]
            using FillStep.store accepts state ends full
      | true =>
        cases bad : gate.fill.frameBad || input.sAxis.terror with
        | false =>
          simpa [Gate.fillNext, Gate.incFullCount, Gate.writeOverflow, accepts, state, ends, bad]
            using FillStep.keep accepts state ends bad
        | true =>
          simpa [Gate.fillNext, Gate.incFullCount, Gate.writeOverflow, accepts, state, ends, bad]
            using FillStep.discard accepts state ends bad

/-- A beat is taken into a slot only while another slot is free, since the gate is not ready
otherwise. -/
theorem accept_room {cfg : GateConfig} {gate : Gate} {input : GateInput}
    (accepted : gate.inputAccept cfg input = true) (filling : gate.fill.fillState = .fillActive) :
    gate.fullCount < cfg.slotCount := by
  simp only [Gate.inputAccept, Gate.sAxisTready, filling, Bool.and_eq_true, Bool.or_eq_true]
    at accepted
  obtain ⟨-, dropping | available⟩ := accepted
  · cases dropping
  · exact of_decide_eq_true available

/-- The counters of the fill side count the frames of each kind, in 32 bits. -/
structure FillCounts (cfg : GateConfig) (fill : FillSide) (frames : Frames Beat) : Prop where
  good : fill.goodFrames = BitVec.ofNat 32 (frames.complete.countP (goodFrame cfg))
  bad : fill.droppedBadFrames = BitVec.ofNat 32 (frames.complete.countP (badFrame cfg))
  overflow : fill.droppedOverflowFrames = BitVec.ofNat 32 (overflowCount cfg frames)

/-- What the fill side knows of the unfinished frame: it is in the fill slot, or it has
outgrown it. -/
structure FillInvariant (cfg : GateConfig) (fill : FillSide) (fullCount : Nat) (mem : Nat → Beat)
    (unfinished : List Beat) : Prop where
  slot_inside : fill.fillSlot < cfg.slotCount
  pointer : fill.fillState = .fillActive → fill.wrPtr = unfinished.length
  short : fill.fillState = .fillActive → unfinished.length < cfg.depth
  marked : fill.fillState = .fillActive → fill.frameBad = unfinished.any Beat.terror
  written : fill.fillState = .fillActive → Written cfg mem fill.fillSlot unfinished
  room : fill.fillState = .fillActive → unfinished ≠ [] → fullCount < cfg.slotCount
  outgrown : fill.fillState = .fillDrop → cfg.depth ≤ unfinished.length

/-- The frames of the accepted beats behind an edge: one beat more, when one is taken. -/
def framesNext (cfg : GateConfig) (gate : Gate) (input : GateInput) (frames : Frames Beat) :
    Frames Beat :=
  if gate.inputAccept cfg input then frames.push Beat.tlast input.sAxis else frames

section Fill

variable {cfg : GateConfig} {gate : Gate} {input : GateInput} {frames : Frames Beat}

/-- An empty fill slot, as behind a frame: the pointer is at the start, no error is noted, and
nothing has been written. -/
theorem fresh_fill {fill : FillSide} (inside : fill.fillSlot < cfg.slotCount)
    (filling : fill.fillState = .fillActive) (start : fill.wrPtr = 0)
    (clean : fill.frameBad = false) (fullCount : Nat) (mem : Nat → Beat) :
    FillInvariant cfg fill fullCount mem [] where
  slot_inside := inside
  pointer _ := start
  short _ := cfg.depth_positive
  marked _ := clean
  written _ _ _ impossible := nomatch impossible
  room _ some_beat := absurd rfl some_beat
  outgrown dropping := nomatch filling.symm.trans dropping

/-- One edge of the fill side keeps its invariant, one case for each of its steps. The fill slot
holds the accepted part of the open frame until it is kept or dropped. -/
theorem fill_cycle
    (invariant : FillInvariant cfg gate.fill gate.fullCount gate.mem frames.unfinished)
    (fewer : gate.incFullCount cfg input = false →
      gate.fullCountNext cfg input ≤ gate.fullCount) :
    FillInvariant cfg (gate.fillNext cfg input) (gate.fullCountNext cfg input)
      (gate.memNext cfg input) (framesNext cfg gate input frames).unfinished := by
  have step := fill_step cfg gate input
  obtain ⟨inside, pointer, short, marked, written, room, outgrown⟩ := invariant
  generalize gate.fillNext cfg input = fill at step ⊢
  generalize gate.incFullCount cfg input = kept at step fewer
  cases step with
  | wait refused =>
    have same : gate.memNext cfg input = gate.mem := by simp [Gate.memNext, Gate.ramWrEn, refused]
    simp only [framesNext, refused, same]
    exact ⟨inside, pointer, short, marked, written,
      fun filling some_beat => (fewer rfl).trans_lt (room filling some_beat), outgrown⟩
  | skip accepted dropping more =>
    have active {goal : Prop} (filling : gate.fill.fillState = .fillActive) : goal :=
      nomatch filling.symm.trans dropping
    simp only [framesNext, accepted, if_true, Frames.push_unmarked more]
    refine ⟨inside, active, active, active, active, active, fun _ => ?_⟩
    exact (outgrown dropping).trans (List.length_append ▸ Nat.le_add_right _ _)
  | resume accepted dropping ends =>
    simp only [framesNext, accepted, if_true, Frames.push_marked ends]
    apply fresh_fill
    · exact inside
    all_goals rfl
  | overflow accepted filling more full =>
    simp only [framesNext, accepted, if_true, Frames.push_unmarked more]
    refine ⟨inside, nofun, nofun, nofun, nofun, nofun, fun _ => ?_⟩
    have positive := cfg.depth_positive
    have length := (pointer filling).symm.trans full
    rw [List.length_append, List.length_singleton]
    omega
  | store accepted filling more pointer_room =>
    have length := pointer filling
    have near : frames.unfinished.length + 1 < cfg.depth := by
      have bound := short filling
      rw [length] at pointer_room
      omega
    have write : gate.memNext cfg input = Function.update gate.mem
        (cfg.address gate.fill.fillSlot frames.unfinished.length) input.sAxis := by
      simp [Gate.memNext, Gate.ramWrEn, accepted, filling, Gate.wrAddr, length]
    simp only [framesNext, accepted, if_true, Frames.push_unmarked more]
    refine ⟨inside, fun _ => ?_, fun _ => ?_, fun _ => ?_, fun _ => ?_, fun _ _ => ?_,
      fun dropping => nomatch filling.symm.trans dropping⟩
    · simp only [length, Nat.mod_eq_of_lt near]
      simp
    · simpa using near
    · simp [marked filling]
    · rw [write]
      exact (written filling).append (short filling)
    · exact (fewer rfl).trans_lt (accept_room accepted filling)
  | discard accepted filling ends bad =>
    simp only [framesNext, accepted, if_true, Frames.push_marked ends]
    apply fresh_fill
    · exact inside
    · exact filling
    all_goals rfl
  | keep accepted filling ends good =>
    simp only [framesNext, accepted, if_true, Frames.push_marked ends]
    apply fresh_fill
    · simp only [next_slot inside]
      exact Nat.mod_lt _ (by omega)
    · exact filling
    all_goals rfl

/-- A frame that ends after a slot's worth of beats is an overflowing one. -/
theorem outgrown_verdict {unfinished : List Beat} (long : cfg.depth ≤ unfinished.length)
    (beat : Beat) :
    goodFrame cfg (unfinished ++ [beat]) = false ∧ badFrame cfg (unfinished ++ [beat]) = false ∧
      overflowFrame cfg (unfinished ++ [beat]) = true := by
  have exceeds : cfg.depth < (unfinished ++ [beat]).length := by
    rw [List.length_append, List.length_singleton]
    omega
  simp only [goodFrame, badFrame, overflowFrame, decide_eq_false (Nat.not_le.mpr exceeds),
    decide_eq_true exceeds, Bool.false_and, and_self]

/-- A frame that ends within a slot is good or bad by its errors. -/
theorem fitting_verdict {unfinished : List Beat} (short : unfinished.length < cfg.depth)
    (beat : Beat) :
    goodFrame cfg (unfinished ++ [beat]) = !(unfinished.any Beat.terror || beat.terror) ∧
      badFrame cfg (unfinished ++ [beat]) = (unfinished.any Beat.terror || beat.terror) ∧
      overflowFrame cfg (unfinished ++ [beat]) = false := by
  have fits : (unfinished ++ [beat]).length ≤ cfg.depth := by
    rw [List.length_append, List.length_singleton]
    omega
  have errors : (unfinished ++ [beat]).any Beat.terror =
      (unfinished.any Beat.terror || beat.terror) := by simp
  simp only [goodFrame, badFrame, overflowFrame, decide_eq_true fits, errors, Bool.true_and,
    decide_eq_false (Nat.not_lt.mpr fits), and_self]

/-- The frames kept behind an edge: a kept frame is the one good frame it completes. -/
theorem kept_cycle
    (invariant : FillInvariant cfg gate.fill gate.fullCount gate.mem frames.unfinished) :
    (framesNext cfg gate input frames).complete.filter (goodFrame cfg) =
      frames.complete.filter (goodFrame cfg) ++
        if gate.incFullCount cfg input then [frames.unfinished ++ [input.sAxis]] else [] := by
  have step := fill_step cfg gate input
  generalize gate.fillNext cfg input = fill at step
  generalize gate.incFullCount cfg input = kept at step ⊢
  cases step with
  | wait refused => simp [framesNext, refused]
  | skip accepted dropping more => simp [framesNext, accepted, Frames.push_unmarked more]
  | resume accepted dropping ends =>
    have verdict := outgrown_verdict (invariant.outgrown dropping) input.sAxis
    simp [framesNext, accepted, Frames.push_marked ends, verdict]
  | overflow accepted filling more full => simp [framesNext, accepted, Frames.push_unmarked more]
  | store accepted filling more room => simp [framesNext, accepted, Frames.push_unmarked more]
  | discard accepted filling ends bad =>
    have verdict := fitting_verdict (invariant.short filling) input.sAxis
    rw [invariant.marked filling] at bad
    simp only [bad, Bool.not_true] at verdict
    simp [framesNext, accepted, Frames.push_marked ends, verdict]
  | keep accepted filling ends good =>
    have verdict := fitting_verdict (invariant.short filling) input.sAxis
    rw [invariant.marked filling] at good
    simp only [good, Bool.not_false] at verdict
    simp [framesNext, accepted, Frames.push_marked ends, verdict]

/-- The fill counters are right behind an edge when they were in front of it. A frame that ends
is counted as the step decides, and the decision is the frame's own by the invariant. -/
theorem counts_cycle
    (invariant : FillInvariant cfg gate.fill gate.fullCount gate.mem frames.unfinished)
    (counts : FillCounts cfg gate.fill frames) :
    FillCounts cfg (gate.fillNext cfg input) (framesNext cfg gate input frames) := by
  have step := fill_step cfg gate input
  obtain ⟨good_count, bad_count, overflow_count⟩ := counts
  generalize gate.fillNext cfg input = fill at step ⊢
  generalize gate.incFullCount cfg input = kept at step
  cases step with
  | wait refused =>
    simp only [framesNext, refused]
    exact ⟨good_count, bad_count, overflow_count⟩
  | skip accepted dropping more =>
    have long := invariant.outgrown dropping
    have longer : cfg.depth ≤ (frames.unfinished ++ [input.sAxis]).length :=
      long.trans (List.length_append ▸ Nat.le_add_right _ _)
    simp only [framesNext, accepted, if_true, Frames.push_unmarked more]
    refine ⟨good_count, bad_count, ?_⟩
    simpa only [overflowCount, if_pos long, if_pos longer] using overflow_count
  | resume accepted dropping ends =>
    have long := invariant.outgrown dropping
    have verdict := outgrown_verdict long input.sAxis
    have empty : ¬ cfg.depth ≤ 0 := Nat.not_le.mpr cfg.depth_positive
    simp only [overflowCount, if_pos long] at overflow_count
    simp only [framesNext, accepted, if_true, Frames.push_marked ends]
    constructor
    · simpa [verdict] using good_count
    · simpa [verdict] using bad_count
    · simpa [overflowCount, verdict, empty] using overflow_count
  | overflow accepted filling more full =>
    have short := invariant.short filling
    have length := (invariant.pointer filling).symm.trans full
    have reached : cfg.depth ≤ (frames.unfinished ++ [input.sAxis]).length := by
      rw [List.length_append, List.length_singleton]
      omega
    simp only [framesNext, accepted, if_true, Frames.push_unmarked more]
    refine ⟨good_count, bad_count, ?_⟩
    simp only [overflowCount, if_neg (Nat.not_le.mpr short), Nat.add_zero] at overflow_count
    simp only [overflowCount, if_pos reached, overflow_count, BitVec.ofNat_add]
  | store accepted filling more room =>
    have short := invariant.short filling
    have length := invariant.pointer filling
    have still : ¬ cfg.depth ≤ (frames.unfinished ++ [input.sAxis]).length := by
      rw [List.length_append, List.length_singleton]
      omega
    simp only [framesNext, accepted, if_true, Frames.push_unmarked more]
    refine ⟨good_count, bad_count, ?_⟩
    simpa only [overflowCount, if_neg (Nat.not_le.mpr short), if_neg still] using overflow_count
  | discard accepted filling ends bad =>
    have short := invariant.short filling
    have verdict := fitting_verdict short input.sAxis
    have empty : ¬ cfg.depth ≤ 0 := Nat.not_le.mpr cfg.depth_positive
    rw [invariant.marked filling] at bad
    simp only [bad, Bool.not_true] at verdict
    simp only [overflowCount, if_neg (Nat.not_le.mpr short)] at overflow_count
    simp only [framesNext, accepted, if_true, Frames.push_marked ends]
    constructor
    · simpa [verdict] using good_count
    · simpa [verdict, BitVec.ofNat_add] using bad_count
    · simpa [overflowCount, verdict, empty] using overflow_count
  | keep accepted filling ends good =>
    have short := invariant.short filling
    have verdict := fitting_verdict short input.sAxis
    have empty : ¬ cfg.depth ≤ 0 := Nat.not_le.mpr cfg.depth_positive
    rw [invariant.marked filling] at good
    simp only [good, Bool.not_false] at verdict
    simp only [overflowCount, if_neg (Nat.not_le.mpr short)] at overflow_count
    simp only [framesNext, accepted, if_true, Frames.push_marked ends]
    constructor
    · simpa [verdict, BitVec.ofNat_add] using good_count
    · simpa [verdict] using bad_count
    · simpa [overflowCount, verdict, empty] using overflow_count

end Fill

/-- What the drain side knows of the first held frame: `sent` of its beats have been
handshaked, and at most one more is on its way, in the RAM's output register or at the
output. -/
structure DrainInvariant (drain : DrainSide) (ramDoutR : Beat) (first : Option (List Beat))
    (sent : Nat) : Prop where
  resting : drain.drainActive = false →
    drain.mAxisTvalid = false ∧ drain.ramRdPending = false ∧ sent = 0
  draining : drain.drainActive = true → ∃ frame, first = some frame ∧
    drain.drainLen = frame.length ∧ sent < frame.length ∧
    drain.rdCount = sent + drain.mAxisTvalid.toNat + drain.ramRdPending.toNat ∧
    (drain.mAxisTvalid = true → drain.ramRdPending = false ∧ frame[sent]? = some drain.mAxis) ∧
    (drain.ramRdPending = true → frame[sent]? = some ramDoutR)

section Drain

variable {cfg : GateConfig} {gate : Gate} {input : GateInput} {first : Option (List Beat)}
  {sent : Nat}

/-- A valid output is the next beat of the first frame, the one at the number of beats sent. -/
theorem DrainInvariant.output_beat (invariant : DrainInvariant gate.drain gate.ramDoutR first sent)
    (valid : gate.drain.mAxisTvalid = true) :
    gate.drain.drainActive = true ∧ ∃ frame, first = some frame ∧
      frame[sent]? = some gate.drain.mAxis := by
  cases active : gate.drain.drainActive with
  | false =>
    have quiet := (invariant.resting active).1
    rw [valid] at quiet
    cases quiet
  | true =>
    obtain ⟨frame, here, -, -, -, beat, -⟩ := invariant.draining active
    exact ⟨rfl, frame, here, (beat valid).2⟩

/-- The handshake of the last beat completes the first frame and rests the drain side, which
moves on to the next slot with nothing sent of it. -/
theorem drain_finish (cfg : GateConfig)
    (invariant : DrainInvariant gate.drain gate.ramDoutR first sent)
    (delimited : ∀ frame, first = some frame → Delimited Beat.tlast frame)
    (finishing : gate.decFullCount input = true) (next : Option (List Beat)) :
    gate.outputAccept input = true ∧
      (∃ frame, first = some frame ∧ frame = frame.take sent ++ [gate.drain.mAxis]) ∧
      (gate.drainNext cfg input).drainSlot = cfg.nextSlot gate.drain.drainSlot ∧
      DrainInvariant (gate.drainNext cfg input) (gate.ramDoutNext cfg input) next 0 := by
  have active : gate.drain.drainActive = true := (Bool.and_eq_true_iff.mp finishing).1
  have finish : gate.finishDrain input = true := (Bool.and_eq_true_iff.mp finishing).2
  obtain ⟨accepted, final⟩ := Bool.and_eq_true_iff.mp finish
  have valid : gate.drain.mAxisTvalid = true := (Bool.and_eq_true_iff.mp accepted).1
  obtain ⟨-, frame, here, beat⟩ := invariant.output_beat valid
  have ends : sent + 1 = frame.length := ((delimited frame here).marked_iff beat).mp final
  refine ⟨accepted, ⟨frame, here, ?_⟩, ?_, ?_⟩
  · calc
      frame = frame.take (sent + 1) := by rw [ends, List.take_length]
      _ = frame.take sent ++ [gate.drain.mAxis] := by rw [List.take_add_one, beat]; rfl
  · simp [Gate.drainNext, active, finish]
  · constructor
    · intro _
      simp [Gate.drainNext, active, finish]
    · intro still
      simp [Gate.drainNext, active, finish] at still

/-- The read port of the RAM delivers the beat at the read count, because the slot holds the
frame and the count is within it. -/
theorem read_beat {frame : List Beat} (held : Holds cfg gate gate.drain.drainSlot frame)
    (fits : frame.length ≤ cfg.depth) (inside : gate.drain.rdCount < frame.length)
    (fires : gate.ramRdFire input = true) :
    frame[gate.drain.rdCount]? = some (gate.ramDoutNext cfg input) := by
  have beat := List.getElem?_eq_getElem inside
  have word := held.beats _ _ beat
  simp only [Gate.ramDoutNext, fires, if_true, Gate.rdAddr,
    Nat.mod_eq_of_lt (inside.trans_le fits)]
  rw [word, beat]

/-- While a frame drains, the word read at the last edge becomes the output. -/
theorem drain_load (invariant : DrainInvariant gate.drain gate.ramDoutR first sent)
    (active : gate.drain.drainActive = true) (unfinished : gate.finishDrain input = false)
    (reading : gate.drain.ramRdPending = true) :
    gate.outputAccept input = false ∧
      DrainInvariant (gate.drainNext cfg input) (gate.ramDoutNext cfg input) first sent := by
  obtain ⟨frame, here, length, inside, count, output, pending⟩ := invariant.draining active
  have empty : gate.drain.mAxisTvalid = false := by
    by_contra valid
    have none := (output (Bool.not_eq_false _ ▸ valid)).1
    rw [reading] at none
    cases none
  have idle : gate.ramRdFire input = false := by simp [Gate.ramRdFire, reading]
  refine ⟨by simp [Gate.outputAccept, empty], ?_, ?_⟩
  · intro impossible
    simp [Gate.drainNext, active, unfinished] at impossible
  · intro _
    refine ⟨frame, here, ?_, inside, ?_, ?_, ?_⟩
    · simpa [Gate.drainNext, active, unfinished] using length
    · simpa [Gate.drainNext, active, unfinished, idle, reading, empty] using count
    · intro _
      simpa [Gate.drainNext, active, unfinished, idle, reading] using pending reading
    · simp [Gate.drainNext, active, unfinished, idle, reading]

/-- While a frame drains and the output is free, the next word is read. -/
theorem drain_read (invariant : DrainInvariant gate.drain gate.ramDoutR first sent)
    (sound : ∀ frame, first = some frame → Holds cfg gate gate.drain.drainSlot frame ∧
      frame.length ≤ cfg.depth)
    (active : gate.drain.drainActive = true) (unfinished : gate.finishDrain input = false)
    (reading : gate.drain.ramRdPending = false) (free : gate.outputSlotFree input = true)
    (inside : gate.drain.rdCount < gate.drain.drainLen) :
    DrainInvariant (gate.drainNext cfg input) (gate.ramDoutNext cfg input) first
      gate.drain.rdCount := by
  obtain ⟨frame, here, length, -, -, -, -⟩ := invariant.draining active
  obtain ⟨held, fits⟩ := sound frame here
  have fires : gate.ramRdFire input = true := by
    simp [Gate.ramRdFire, active, unfinished, reading, free, inside]
  have emptied : (if gate.outputAccept input then false else gate.drain.mAxisTvalid) = false := by
    simp only [Gate.outputSlotFree, Bool.or_eq_true, Bool.not_eq_true'] at free
    rcases free with empty | ready
    · simp [Gate.outputAccept, empty]
    · simp [Gate.outputAccept, ready]
  have wide : (gate.drain.rdCount + 1) % 2 ^ (cfg.addrWidth + 1) = gate.drain.rdCount + 1 := by
    have double : 2 ^ (cfg.addrWidth + 1) = cfg.depth * 2 := Nat.pow_succ ..
    exact Nat.mod_eq_of_lt (by omega)
  have beat := read_beat held fits (length ▸ inside) fires
  constructor
  · intro impossible
    simp [Gate.drainNext, active, unfinished] at impossible
  · intro _
    refine ⟨frame, here, ?_, length ▸ inside, ?_, ?_, ?_⟩
    · simpa [Gate.drainNext, active, unfinished] using length
    · simp [Gate.drainNext, active, unfinished, fires, reading, emptied, wide]
    · intro impossible
      simp [Gate.drainNext, active, unfinished, reading, emptied] at impossible
    · intro _
      exact beat

/-- While a frame drains, a refused output stays: the output register is not free, so nothing is
read over it. -/
theorem drain_hold (invariant : DrainInvariant gate.drain gate.ramDoutR first sent)
    (valid : gate.drain.mAxisTvalid = true) (refused : input.mAxisTready = false) :
    (gate.drainNext cfg input).mAxisTvalid = true ∧
      (gate.drainNext cfg input).mAxis = gate.drain.mAxis ∧
      DrainInvariant (gate.drainNext cfg input) (gate.ramDoutNext cfg input) first sent := by
  obtain ⟨active, -⟩ := invariant.output_beat valid
  obtain ⟨frame, here, length, inside, count, output, -⟩ := invariant.draining active
  obtain ⟨still, beat⟩ := output valid
  have unfinished : gate.finishDrain input = false := by
    simp [Gate.finishDrain, Gate.outputAccept, refused]
  have idle : gate.ramRdFire input = false := by
    simp [Gate.ramRdFire, Gate.outputSlotFree, valid, refused]
  have stays : gate.drainNext cfg input = gate.drain := by
    simp [Gate.drainNext, active, unfinished, idle, still, Gate.outputAccept, refused]
    rw [← active, ← still]
  rw [stays]
  refine ⟨valid, rfl, invariant.resting, fun _ => ⟨frame, here, length, inside, count, output, ?_⟩⟩
  intro reading
  rw [still] at reading
  cases reading

/-- Any other edge sends at most one beat of the first frame and stays in its slot. What has been
sent behind it is what had been sent, followed by the beat that was taken. -/
theorem drain_continue (invariant : DrainInvariant gate.drain gate.ramDoutR first sent)
    (sound : ∀ frame, first = some frame → (Holds cfg gate gate.drain.drainSlot frame ∧
      frame.length ≤ cfg.depth) ∧ Delimited Beat.tlast frame)
    (counted : gate.fullCount ≠ 0 → ∃ frame, first = some frame)
    (continuing : gate.decFullCount input = false) {next : Option (List Beat)}
    (same : ∀ frame, first = some frame → next = some frame) :
    (gate.drainNext cfg input).drainSlot = gate.drain.drainSlot ∧
      ∃ later, DrainInvariant (gate.drainNext cfg input) (gate.ramDoutNext cfg input) next later ∧
        (next.getD []).take later = (first.getD []).take sent ++
          if gate.outputAccept input then [gate.drain.mAxis] else [] := by
  cases active : gate.drain.drainActive with
  | false =>
    obtain ⟨quiet, still, rfl⟩ := invariant.resting active
    have nothing : gate.outputAccept input = false := by simp [Gate.outputAccept, quiet]
    by_cases none : gate.fullCount = 0
    · refine ⟨by simp [Gate.drainNext, active, none], 0, ⟨?_, ?_⟩, by simp [nothing]⟩
      · intro _
        simp [Gate.drainNext, active, none, still]
      · intro impossible
        simp [Gate.drainNext, active, none] at impossible
    · obtain ⟨frame, here⟩ := counted none
      obtain ⟨⟨held, fits⟩, delimited⟩ := sound frame here
      refine ⟨by simp [Gate.drainNext, active, none], 0, ⟨?_, ?_⟩, by simp [nothing]⟩
      · intro impossible
        simp [Gate.drainNext, active, none] at impossible
      · intro _
        refine ⟨frame, same frame here, ?_, delimited.positive, ?_, ?_, ?_⟩
        · simpa [Gate.drainNext, active, none] using held.length
        all_goals simp [Gate.drainNext, active, none]
  | true =>
    have unfinished : gate.finishDrain input = false := by
      simpa [Gate.decFullCount, active] using continuing
    obtain ⟨frame, here, length, inside, count, output, -⟩ := invariant.draining active
    obtain rfl : next = first := (same frame here).trans here.symm
    refine ⟨by simp [Gate.drainNext, active, unfinished], ?_⟩
    cases reading : gate.drain.ramRdPending with
    | true =>
      obtain ⟨nothing, after⟩ := drain_load invariant active unfinished reading
      exact ⟨sent, after, by simp [nothing]⟩
    | false =>
      have read := drain_read invariant (fun frame here => (sound frame here).1) active unfinished
        reading
      cases valid : gate.drain.mAxisTvalid with
      | false =>
        have nothing : gate.outputAccept input = false := by simp [Gate.outputAccept, valid]
        simp only [valid, reading, Bool.toNat_false, Nat.add_zero] at count
        refine ⟨_, read (by simp [Gate.outputSlotFree, valid]) (by omega), by simp [nothing, count]⟩
      | true =>
        cases ready : input.mAxisTready with
        | false =>
          have nothing : gate.outputAccept input = false := by simp [Gate.outputAccept, ready]
          obtain ⟨-, -, after⟩ := drain_hold invariant valid ready
          exact ⟨sent, after, by simp [nothing]⟩
        | true =>
          have accepted : gate.outputAccept input = true := by
            simp [Gate.outputAccept, valid, ready]
          have beat := (output valid).2
          simp only [valid, reading, Bool.toNat_true, Bool.toNat_false, Nat.add_zero] at count
          -- The beat is not the frame's last, so another one is left to read.
          have more : sent + 1 ≠ frame.length := by
            intro ends
            have final := ((sound frame here).2.marked_iff beat).mpr ends
            simp [Gate.finishDrain, accepted, final] at unfinished
          refine ⟨_, read (by simp [Gate.outputSlotFree, ready]) (by omega), ?_⟩
          rw [count, here, Option.getD_some, List.take_add_one, beat, if_pos accepted]
          rfl

end Drain

/-- The slots from the drain slot on hold the stored frames; the fill slot is behind
them. -/
structure StoreInvariant (cfg : GateConfig) (gate : Gate) (stored : List (List Beat)) : Prop where
  count : gate.fullCount = stored.length
  few : stored.length ≤ cfg.slotCount
  drain_inside : gate.drain.drainSlot < cfg.slotCount
  fill_slot : gate.fill.fillSlot =
    Window.slot cfg.slotCount gate.drain.drainSlot stored.length
  holds : ∀ position frame, stored[position]? = some frame →
    Holds cfg gate (Window.slot cfg.slotCount gate.drain.drainSlot position) frame

/-- The stored frames that are left behind an edge, without the first when it is finished. -/
def leftNext (gate : Gate) (input : GateInput) (stored : List (List Beat)) : List (List Beat) :=
  stored.drop (gate.decFullCount input).toNat

/-- The stored frames behind an edge that may keep the given one. -/
def storedNext (cfg : GateConfig) (gate : Gate) (input : GateInput) (stored : List (List Beat))
    (frame : List Beat) : List (List Beat) :=
  leftNext gate input stored ++ if gate.incFullCount cfg input then [frame] else []

section Store

variable {cfg : GateConfig} {gate : Gate} {input : GateInput} {stored : List (List Beat)}

/-- A kept frame is written as it ends, to a slot that was free. -/
theorem keep_writes (keeps : gate.incFullCount cfg input = true) :
    gate.ramWrEn cfg input = true ∧ gate.fullCount < cfg.slotCount := by
  simp only [Gate.incFullCount, Bool.and_eq_true, beq_iff_eq] at keeps
  obtain ⟨⟨⟨⟨filling, accepted⟩, -⟩, -⟩, -⟩ := keeps
  exact ⟨by simp [Gate.ramWrEn, accepted, filling], accept_room accepted filling⟩

/-- A frame leaves the store when it is finished, so the frames left and the finished one are
those there were. -/
theorem left_length (finishes : gate.decFullCount input = true → 0 < stored.length) :
    (leftNext gate input stored).length + (gate.decFullCount input).toNat = stored.length := by
  rw [leftNext, List.length_drop]
  apply Nat.sub_add_cancel
  cases finish : gate.decFullCount input with
  | false => exact Nat.zero_le _
  | true => exact finishes finish

/-- The occupancy counts the stored frames. It does not wrap, because there are never more than
slots, and its width has room for one more. -/
theorem full_count_next (store : StoreInvariant cfg gate stored)
    (finishes : gate.decFullCount input = true → 0 < stored.length) (frame : List Beat) :
    gate.fullCountNext cfg input = (storedNext cfg gate input stored frame).length := by
  have fits := cfg.slots_fit
  have double : 2 ^ (cfg.slotBits + 1) = 2 ^ cfg.slotBits * 2 := Nat.pow_succ ..
  have count := store.count
  have few := store.few
  have left := left_length finishes
  rw [storedNext, List.length_append, Gate.fullCountNext, count]
  cases keeps : gate.incFullCount cfg input <;> cases finish : gate.decFullCount input <;>
    simp only [finish, Bool.toNat_true, Bool.toNat_false, Nat.add_zero] at left
  · exact left.symm
  · have wrap : stored.length + (2 ^ (cfg.slotBits + 1) - 1) =
        stored.length - 1 + 2 ^ (cfg.slotBits + 1) := by omega
    simp only [wrap, Nat.add_mod_right, Bool.false_eq_true, if_false, List.length_nil]
    rw [Nat.mod_eq_of_lt (by omega)]
    omega
  · have room := (keep_writes keeps).2
    simp only [if_true, List.length_singleton]
    rw [Nat.mod_eq_of_lt (by omega)]
    omega
  · simp only [if_true, List.length_singleton]
    omega

/-- An edge writes no slot that holds a frame: the fill slot is behind all of them, and the noted
lengths are not written over. -/
theorem held_kept {unfinished : List Beat} (store : StoreInvariant cfg gate stored)
    (fill : FillInvariant cfg gate.fill gate.fullCount gate.mem unfinished)
    (fits : ∀ frame ∈ stored, frame.length ≤ cfg.depth) {position : Nat} {frame : List Beat}
    (here : stored[position]? = some frame) :
    Holds cfg (gate.cycle cfg input)
      (Window.slot cfg.slotCount gate.drain.drainSlot position) frame := by
  obtain ⟨length, beats⟩ := store.holds position frame here
  have inside := (List.getElem?_eq_some_iff.mp here).1
  have few := store.few
  cases writes : gate.ramWrEn cfg input with
  | false =>
    have keeps_none : gate.incFullCount cfg input = false := by
      by_contra keeps
      have write := (keep_writes (Bool.not_eq_false _ ▸ keeps)).1
      rw [writes] at write
      cases write
    refine ⟨?_, ?_⟩
    · simpa [Gate.cycle, Gate.slotLenNext, keeps_none] using length
    · simpa [Gate.cycle, Gate.memNext, writes] using beats
  | true =>
    obtain ⟨accepted, filling⟩ := Bool.and_eq_true_iff.mp writes
    have filling := beq_iff_eq.mp filling
    have room := accept_room accepted filling
    have apart : Window.slot cfg.slotCount gate.drain.drainSlot position ≠ gate.fill.fillSlot := by
      rw [store.fill_slot]
      have count := store.count
      exact Window.slot_ne store.drain_inside (by omega) (by omega) (by omega)
    refine ⟨?_, ?_⟩
    · simp only [Gate.cycle, Gate.slotLenNext]
      split
      · rw [Function.update_of_ne apart, length]
      · exact length
    · simp only [Gate.cycle, Gate.memNext, writes, if_true, Gate.wrAddr]
      apply beats.update_other (fits frame (List.mem_of_getElem? here)) _ (.inl apart)
      rw [fill.pointer filling]
      exact fill.short filling

/-- A kept frame is held by the fill slot: its earlier beats were written there, and the last one
and the length are written with it. -/
theorem kept_held {unfinished : List Beat}
    (fill : FillInvariant cfg gate.fill gate.fullCount gate.mem unfinished)
    (keeps : gate.incFullCount cfg input = true) :
    Holds cfg (gate.cycle cfg input) gate.fill.fillSlot (unfinished ++ [input.sAxis]) := by
  have writes := (keep_writes keeps).1
  have filling := beq_iff_eq.mp (Bool.and_eq_true_iff.mp writes).2
  have pointer := fill.pointer filling
  refine ⟨?_, ?_⟩
  · simp [Gate.cycle, Gate.slotLenNext, keeps, pointer]
  · simp only [Gate.cycle, Gate.memNext, writes, if_true, Gate.wrAddr, pointer]
    exact (fill.written filling).append (fill.short filling)

/-- The fill slot moves on behind a kept frame and only then, in every step of the fill side. -/
theorem fill_slot_next (cfg : GateConfig) (gate : Gate) (input : GateInput) :
    (gate.fillNext cfg input).fillSlot =
      if gate.incFullCount cfg input then cfg.nextSlot gate.fill.fillSlot
      else gate.fill.fillSlot := by
  have step := fill_step cfg gate input
  generalize gate.fillNext cfg input = fill at step ⊢
  generalize gate.incFullCount cfg input = kept at step ⊢
  cases step <;> rfl

/-- One edge of the store: the frames that are left stay held one position nearer to the drain
slot, and a kept one is held behind them. -/
theorem store_cycle {unfinished : List Beat} (store : StoreInvariant cfg gate stored)
    (fill : FillInvariant cfg gate.fill gate.fullCount gate.mem unfinished)
    (fits : ∀ frame ∈ stored, frame.length ≤ cfg.depth)
    (finishes : gate.decFullCount input = true → 0 < stored.length)
    (drain_slot : (gate.drainNext cfg input).drainSlot =
      if gate.decFullCount input then cfg.nextSlot gate.drain.drainSlot
      else gate.drain.drainSlot) :
    StoreInvariant cfg (gate.cycle cfg input)
      (storedNext cfg gate input stored (unfinished ++ [input.sAxis])) := by
  have positive : 0 < cfg.slotCount := cfg.slots_positive
  have left := left_length finishes
  have advanced (position : Nat) : Window.slot cfg.slotCount (gate.drainNext cfg input).drainSlot
      position = Window.slot cfg.slotCount gate.drain.drainSlot
        (position + (gate.decFullCount input).toNat) := by
    cases finish : gate.decFullCount input with
    | false => simp [drain_slot, finish]
    | true => simp [drain_slot, finish, next_slot store.drain_inside, Window.slot_advance]
  constructor
  · exact full_count_next store finishes _
  · have few := store.few
    have count := store.count
    rw [storedNext, List.length_append]
    cases keeps : gate.incFullCount cfg input with
    | false =>
      simp only [Bool.false_eq_true, if_false, List.length_nil]
      omega
    | true =>
      have room := (keep_writes keeps).2
      simp only [if_true, List.length_singleton]
      omega
  · change (gate.drainNext cfg input).drainSlot < cfg.slotCount
    rw [drain_slot]
    split
    · rw [next_slot store.drain_inside]
      exact Nat.mod_lt _ positive
    · exact store.drain_inside
  · change (gate.fillNext cfg input).fillSlot =
      Window.slot cfg.slotCount (gate.drainNext cfg input).drainSlot _
    rw [fill_slot_next, advanced, storedNext, List.length_append, Nat.add_right_comm, left]
    split
    · rw [next_slot fill.slot_inside, store.fill_slot, Window.slot_succ]
      rfl
    · exact store.fill_slot
  · intro position frame here
    change Holds cfg _
      (Window.slot cfg.slotCount (gate.drainNext cfg input).drainSlot position) frame
    rw [advanced]
    rw [storedNext] at here
    rcases Nat.lt_or_ge position (leftNext gate input stored).length with early | late
    · rw [List.getElem?_append_left early, leftNext, List.getElem?_drop, Nat.add_comm] at here
      exact held_kept store fill fits here
    · rw [List.getElem?_append_right late] at here
      split at here
      · rename_i keeps
        rw [List.getElem?_singleton] at here
        split at here
        · have place : position + (gate.decFullCount input).toNat = stored.length := by omega
          rw [place, ← store.fill_slot, ← Option.some.inj here]
          exact kept_held fill keeps
        · cases here
      · cases here

end Store

/-- The sum of the five bins of the histogram. -/
def DrainStats.histogramSum (stats : DrainStats) : BitVec 32 :=
  stats.drainLt50us + stats.drain50To100us + stats.drain100To200us + stats.drain200To500us +
    stats.drainGe500us

/-- A drain time counts once: the bins together go up by one, whichever it is, and the samples
are not touched. -/
theorem histogram_next (stats : DrainStats) (cycles : BitVec 32) :
    (Gate.histogramNext stats cycles).histogramSum = stats.histogramSum + 1#32 ∧
      (Gate.histogramNext stats cycles).drainSamples = stats.drainSamples := by
  unfold Gate.histogramNext DrainStats.histogramSum
  split_ifs
  all_goals
    refine ⟨?_, rfl⟩
    simp only
    ac_rfl

/-- One edge of the statistics: a finished frame is one sample and one entry of the histogram,
and no other edge is. -/
theorem stats_cycle (gate : Gate) (input : GateInput) :
    (gate.statsNext input).drainSamples = gate.stats.drainSamples +
        BitVec.ofNat 32 (gate.decFullCount input).toNat ∧
      (gate.statsNext input).histogramSum = gate.stats.histogramSum +
        BitVec.ofNat 32 (gate.decFullCount input).toNat := by
  have running : (gate.statsRunning input).drainSamples = gate.stats.drainSamples ∧
      (gate.statsRunning input).histogramSum = gate.stats.histogramSum := by
    unfold Gate.statsRunning
    split_ifs <;> exact ⟨rfl, rfl⟩
  cases finish : gate.decFullCount input with
  | false =>
    have goes_on : (gate.drain.drainActive && gate.finishDrain input) = false := finish
    simp only [Gate.statsNext, goes_on, Bool.false_eq_true, if_false, Bool.toNat_false,
      BitVec.add_zero]
    split
    · exact running
    · exact running
  | true =>
    obtain ⟨active, finished⟩ := Bool.and_eq_true_iff.mp finish
    simp only [Gate.statsNext, active, finished, Bool.not_true, Bool.false_and, Bool.false_eq_true,
      if_false, Bool.and_self, if_true, Bool.toNat_true]
    refine ⟨(histogram_next _ _).2, (histogram_next _ _).1.trans ?_⟩
    rw [← running.2]
    rfl

/-- What holds between a reset and any later edge: the fill side, the store and the drain side
each by its own invariant, and the streams of accepted and emitted beats made of their frames. -/
structure GateInvariant (cfg : GateConfig) (bench : Bench) (delivered stored : List (List Beat))
    (sent : Nat) : Prop where
  fill : FillInvariant cfg bench.gate.fill bench.gate.fullCount bench.gate.mem
    (framesOf bench.accepted).unfinished
  counts : FillCounts cfg bench.gate.fill (framesOf bench.accepted)
  store : StoreInvariant cfg bench.gate stored
  drain : DrainInvariant bench.gate.drain bench.gate.ramDoutR stored.head? sent
  good : (framesOf bench.accepted).complete.filter (goodFrame cfg) = delivered ++ stored
  output : bench.emitted = delivered.flatten ++ (stored.head?.getD []).take sent
  samples : bench.gate.stats.drainSamples = BitVec.ofNat 32 delivered.length
  histogram : bench.gate.stats.histogramSum = bench.gate.stats.drainSamples

section Cycles

variable {cfg : GateConfig} {bench : Bench} {delivered stored : List (List Beat)} {sent : Nat}

/-- A good frame fits a slot, ends with its only last beat, and bears no error. -/
theorem GateInvariant.sound (invariant : GateInvariant cfg bench delivered stored sent)
    {frame : List Beat} (member : frame ∈ delivered ++ stored) :
    frame.length ≤ cfg.depth ∧ Delimited Beat.tlast frame ∧
      ∀ beat ∈ frame, beat.terror = false := by
  rw [← invariant.good] at member
  obtain ⟨complete, good⟩ := List.mem_filter.mp member
  obtain ⟨fits, clean⟩ := Bool.and_eq_true_iff.mp good
  refine ⟨of_decide_eq_true fits, frames_delimited _ frame complete, ?_⟩
  simpa using clean

/-- The frames of the accepted beats are pushed as their beats are accepted, one edge at a time. -/
theorem frames_cycle (cfg : GateConfig) (bench : Bench) (input : GateInput) :
    framesOf (bench.cycle cfg input).accepted =
      framesNext cfg bench.gate input (framesOf bench.accepted) := by
  unfold Bench.cycle framesNext framesOf
  split
  · exact frames_concat _ _
  · rw [List.append_nil]

/-- One edge of the drain side, with the output it makes. A finished frame moves from the stored
to the delivered ones; otherwise the sent part of the first frame grows by the beat that was
taken. -/
theorem delivery_cycle (invariant : GateInvariant cfg bench delivered stored sent)
    (input : GateInput) (frame : List Beat) :
    (bench.gate.decFullCount input = true → 0 < stored.length) ∧
    (bench.gate.drainNext cfg input).drainSlot =
      (if bench.gate.decFullCount input then cfg.nextSlot bench.gate.drain.drainSlot
        else bench.gate.drain.drainSlot) ∧
    ∃ arrived later,
      arrived ++ leftNext bench.gate input stored = delivered ++ stored ∧
      arrived.length = delivered.length + (bench.gate.decFullCount input).toNat ∧
      DrainInvariant (bench.gate.drainNext cfg input) (bench.gate.ramDoutNext cfg input)
        (storedNext cfg bench.gate input stored frame).head? later ∧
      (bench.cycle cfg input).emitted = arrived.flatten ++
        ((storedNext cfg bench.gate input stored frame).head?.getD []).take later := by
  have sound : ∀ first, stored.head? = some first →
      (Holds cfg bench.gate bench.gate.drain.drainSlot first ∧ first.length ≤ cfg.depth) ∧
        Delimited Beat.tlast first := by
    intro first here
    obtain ⟨fits, delimited, -⟩ :=
      invariant.sound (List.mem_append_right delivered (List.mem_of_mem_head? here))
    have held := invariant.store.holds 0 first (List.head?_eq_getElem? ▸ here)
    rw [Window.slot_zero invariant.store.drain_inside] at held
    exact ⟨⟨held, fits⟩, delimited⟩
  have output := invariant.output
  cases finish : bench.gate.decFullCount input with
  | true =>
    obtain ⟨accepted, ⟨first, here, whole⟩, slot, after⟩ := drain_finish cfg invariant.drain
      (fun first here => (sound first here).2) finish
      (storedNext cfg bench.gate input stored frame).head?
    obtain ⟨rest, rfl⟩ := List.head?_eq_some_iff.mp here
    refine ⟨fun _ => Nat.succ_pos _, slot, delivered ++ [first], 0, ?_, ?_, after, ?_⟩
    · simp [leftNext, finish]
    · simp
    · rw [List.head?_cons, Option.getD_some] at output
      simp only [Bench.cycle, accepted, if_true, output, List.append_assoc, ← whole]
      simp
  | false =>
    have counted : bench.gate.fullCount ≠ 0 → ∃ first, stored.head? = some first := by
      intro some_frame
      rw [invariant.store.count] at some_frame
      exact ⟨_, List.head?_eq_some_head (List.length_pos_iff.mp (Nat.pos_of_ne_zero some_frame))⟩
    have same : ∀ first, stored.head? = some first →
        (storedNext cfg bench.gate input stored frame).head? = some first := by
      intro first here
      simp [storedNext, leftNext, finish, here]
    obtain ⟨slot, later, after, taken⟩ :=
      drain_continue invariant.drain sound counted finish same
    refine ⟨nofun, slot, delivered, later, ?_, ?_, after, ?_⟩
    · simp [leftNext, finish]
    · simp
    · simp only [Bench.cycle, output, List.append_assoc, ← taken]

/-- One edge keeps the invariant: the drain side by `delivery_cycle`, and the fill side, the
counters, the store and the statistics each by its own law. -/
theorem bench_cycle (invariant : GateInvariant cfg bench delivered stored sent)
    (input : GateInput) : ∃ delivered stored sent,
      GateInvariant cfg (bench.cycle cfg input) delivered stored sent := by
  obtain ⟨finishes, slot, arrived, later, moved, more, drain_next, output_next⟩ :=
    delivery_cycle invariant input ((framesOf bench.accepted).unfinished ++ [input.sAxis])
  have fits : ∀ frame ∈ stored, frame.length ≤ cfg.depth :=
    fun frame member => (invariant.sound (List.mem_append_right _ member)).1
  obtain ⟨fill, counts, store, -, good, -, samples, histogram⟩ := invariant
  have frames_next := frames_cycle cfg bench input
  obtain ⟨samples_next, histogram_next⟩ := stats_cycle bench.gate input
  have fewer : bench.gate.incFullCount cfg input = false →
      bench.gate.fullCountNext cfg input ≤ bench.gate.fullCount := by
    intro keeps_none
    have left := left_length finishes
    rw [full_count_next store finishes [], store.count, storedNext, keeps_none]
    simp only [Bool.false_eq_true, if_false, List.append_nil]
    omega
  refine ⟨arrived, _, later, ?_, ?_, store_cycle store fill fits finishes slot, drain_next, ?_,
    output_next, ?_, ?_⟩
  · rw [frames_next]
    exact fill_cycle fill fewer
  · rw [frames_next]
    exact counts_cycle fill counts
  · rw [frames_next, kept_cycle fill, good, ← moved, storedNext, List.append_assoc]
  · change (bench.gate.statsNext input).drainSamples = _
    rw [samples_next, samples, more, BitVec.ofNat_add]
  · change (bench.gate.statsNext input).histogramSum = (bench.gate.statsNext input).drainSamples
    rw [samples_next, histogram_next, histogram]

/-- Behind a reset nothing is held, nothing has been sent, and every counter is zero. -/
theorem reset_invariant (cfg : GateConfig) (mem : Nat → Beat) (ramDoutR : Beat) :
    GateInvariant cfg ⟨Gate.reset mem ramDoutR, [], []⟩ [] [] 0 where
  fill := by
    apply fresh_fill
    · exact cfg.slots_positive
    all_goals rfl
  counts := ⟨rfl, rfl,
    by simp [overflowCount, framesOf, frames, Gate.reset, cfg.depth_positive.ne']⟩
  store := by
    refine ⟨rfl, Nat.zero_le _, cfg.slots_positive, ?_, by rintro _ _ ⟨⟩⟩
    exact (Window.slot_zero cfg.slots_positive).symm
  drain := ⟨fun _ => ⟨rfl, rfl, rfl⟩, nofun⟩
  good := rfl
  output := rfl
  samples := rfl
  histogram := rfl

/-- Behind any cycles the invariant holds of some delivered and stored frames. Induction over the
inputs from the end. -/
theorem run_invariant (cfg : GateConfig) (mem : Nat → Beat) (ramDoutR : Beat)
    (inputs : List GateInput) : ∃ delivered stored sent,
      GateInvariant cfg (Bench.run cfg mem ramDoutR inputs) delivered stored sent := by
  induction inputs using List.reverseRecOn with
  | nil => exact ⟨[], [], 0, reset_invariant cfg mem ramDoutR⟩
  | append_singleton inputs input inductionHypothesis =>
    obtain ⟨delivered, stored, sent, invariant⟩ := inductionHypothesis
    rw [Bench.run, List.foldl_append]
    exact bench_cycle invariant input

/-- The beats sent of the first stored frame do not include its last, as the frame would have
left the store with it. -/
theorem GateInvariant.sent_unmarked (invariant : GateInvariant cfg bench delivered stored sent) :
    ((stored.head?.getD []).take sent).countP Beat.tlast = 0 := by
  cases active : bench.gate.drain.drainActive with
  | false =>
    obtain ⟨-, -, rfl⟩ := invariant.drain.resting active
    rfl
  | true =>
    obtain ⟨first, here, -, short, -⟩ := invariant.drain.draining active
    have delimited :=
      (invariant.sound (List.mem_append_right delivered (List.mem_of_mem_head? here))).2.1
    rw [here]
    exact delimited.count_take short

/-- The last beats in the output count the delivered frames: each of these has one, and what is
sent of the first stored frame has none. -/
theorem GateInvariant.output_count (invariant : GateInvariant cfg bench delivered stored sent) :
    bench.emitted.countP Beat.tlast = delivered.length := by
  have delimited : ∀ frame ∈ delivered, Delimited Beat.tlast frame :=
    fun frame member => (invariant.sound (List.mem_append_left stored member)).2.1
  rw [invariant.output, List.countP_append, count_marks delimited, invariant.sent_unmarked,
    Nat.add_zero]

/-- The output is the first part of the kept frames: the delivered ones in full, and the
beginning of the first stored one. -/
theorem GateInvariant.output_prefix (invariant : GateInvariant cfg bench delivered stored sent) :
    bench.emitted <+: (delivered ++ stored).flatten := by
  rw [invariant.output, List.flatten_append]
  apply (List.prefix_append_right_inj _).mpr
  cases stored with
  | nil => simp
  | cons first rest =>
    apply (List.take_prefix sent first).trans
    exact List.prefix_append first rest.flatten

end Cycles

/-- For every configuration, every input and every number of cycles, the gate forwards the good
frames in order and unchanged, keeps both handshake rules and counts what it did.

Proof: the fill side, the store and the drain side have an invariant each, and the accepted good
frames are those delivered and then those stored. An edge keeps all of it, and the clauses are
read off. -/
theorem frame_gate_correct (cfg : GateConfig) (mem : Nat → Beat) (ramDoutR : Beat)
    (inputs : List GateInput) : GateCorrect cfg (Bench.run cfg mem ramDoutR inputs) := by
  obtain ⟨delivered, stored, sent, invariant⟩ := run_invariant cfg mem ramDoutR inputs
  have goes := invariant.output_prefix
  have counted := invariant.output_count
  refine ⟨?_, ?_, ?_, ?_, ?_, invariant.counts.good, invariant.counts.bad,
    invariant.counts.overflow, ?_, invariant.histogram⟩
  · rw [invariant.good]
    exact goes
  · intro beat member
    obtain ⟨frame, held, inside⟩ := List.mem_flatten.mp (goes.subset member)
    exact (invariant.sound held).2.2 beat inside
  · rw [invariant.good, List.length_append, counted]
    exact Nat.add_le_add_left invariant.store.few _
  · intro inside
    cases state : (Bench.run cfg mem ramDoutR inputs).gate.fill.fillState with
    | fillActive =>
      have room := invariant.fill.room state inside
      simp [Gate.sAxisTready, Gate.slotAvailable, room]
    | fillDrop => simp [Gate.sAxisTready, state]
  · intro input valid refused
    obtain ⟨still, same, -⟩ := drain_hold invariant.drain valid refused
    exact ⟨still, same⟩
  · rw [invariant.samples, counted]

/-- Two slots of four beats, for executions on concrete values. -/
def smallGate : GateConfig := ⟨2, 2, by decide, by decide, by decide⟩

/-- The beats of a frame, offered in turn to a ready gate and sink. -/
def offerFrame (tdata : List (BitVec 8)) (terror : Bool) : List GateInput :=
  tdata.mapIdx fun index byte =>
    ⟨⟨index == 0, terror && index + 1 == tdata.length, index + 1 == tdata.length, byte⟩, true, true⟩

/-- A frame that fills a slot passes; a bad one and one that outgrows a slot do not. -/
example :
    let bench := Bench.run smallGate (fun _ => ⟨true, true, true, 0#8⟩) ⟨true, true, true, 0#8⟩
      (offerFrame [1#8, 2#8, 3#8, 4#8] false ++ offerFrame [5#8, 6#8] true ++
        offerFrame [7#8, 8#8, 9#8, 10#8, 11#8, 12#8, 13#8, 14#8, 15#8] false)
    bench.emitted.map Beat.tdata = [1#8, 2#8, 3#8, 4#8] ∧ bench.gate.fill.goodFrames = 1#32 ∧
      bench.gate.fill.droppedBadFrames = 1#32 ∧ bench.gate.fill.droppedOverflowFrames = 1#32 := by
  decide +kernel

end EmaczZephyr.Rtl
