import Mathlib.Algebra.BigOperators.Group.List.Basic
import EmaczZephyr.Foundation.Clocked
import EmaczZephyr.Foundation.Watermark
import EmaczZephyr.Rtl.FrameGate

/-!
# The drain statistics of the gate

A frame drains through the one-cycle read of the RAM and the output register, so each of
its beats takes two cycles. One more cycle begins the drain, and each cycle in which the
sink refuses a beat adds one. The statistics follow: what they show is a function of the
handshakes at the output alone.
-/

namespace EmaczZephyr.Rtl

open Clocked Framing Watermark

/-- A cycle in which the gate offers a beat, with the beat and whether the sink takes it. -/
structure OutputCycle where
  beat : Beat
  ready : Bool

/-- The sink takes the last beat of a frame in this cycle. -/
def OutputCycle.ends (cycle : OutputCycle) : Bool := cycle.ready && cycle.beat.tlast

/-- What a cycle shows at the output: nothing while no beat is offered. -/
def Gate.outputCycle (gate : Gate) (input : GateInput) : List OutputCycle :=
  if gate.drain.mAxisTvalid then [⟨gate.drain.mAxis, input.mAxisTready⟩] else []

/-- The cycles with an offered beat, between a reset and any later edge. -/
def outputTrace (cfg : GateConfig) (mem : Nat → Beat) (ramDoutR : Beat)
    (inputs : List GateInput) : List OutputCycle :=
  recorded (Gate.cycle cfg) Gate.outputCycle (Gate.reset mem ramDoutR) inputs

/-- The drains of a trace: each ends in the cycle in which a last beat is taken. -/
def drains (trace : List OutputCycle) : Frames OutputCycle := frames OutputCycle.ends trace

/-- The beats that the sink takes in a drain. -/
def taken (drain : List OutputCycle) : List Beat :=
  (drain.filter OutputCycle.ready).map OutputCycle.beat

/-- The cycles of a drain in which the sink leaves the offered beat. -/
def refusals (drain : List OutputCycle) : Nat := drain.countP fun cycle => !cycle.ready

/-- How long a drain takes: two cycles for each beat, one more to begin, and one for each
refusal. -/
def drainCycles (drain : List OutputCycle) : Nat := 2 * (taken drain).length + refusals drain + 1

/-- A drain time as a 32-bit register holds it. -/
def drainTime (drain : List OutputCycle) : BitVec 32 := BitVec.ofNat 32 (drainCycles drain)

/-- The number of drains whose times pass a test, as a 32-bit register holds it. -/
def timed (test : BitVec 32 → Bool) (complete : List (List OutputCycle)) : BitVec 32 :=
  BitVec.ofNat 32 (complete.countP fun drain => test (drainTime drain))

/-- What the statistics show of some drains and of the refusals so far. -/
structure DrainStatsCorrect (complete : List (List OutputCycle)) (refused : Nat)
    (stats : DrainStats) : Prop where
  samples : stats.drainSamples = BitVec.ofNat 32 complete.length
  total : stats.drainCyclesTotal = BitVec.ofNat 32 (complete.map drainCycles).sum
  longest : Extreme (· > ·) 0 (complete.map fun drain => (drainTime drain).toNat)
    stats.drainCyclesMax.toNat
  lt_50us : stats.drainLt50us = timed (fun time => time < 5000#32) complete
  lt_100us : stats.drain50To100us =
    timed (fun time => 5000#32 ≤ time && time < 10000#32) complete
  lt_200us : stats.drain100To200us =
    timed (fun time => 10000#32 ≤ time && time < 20000#32) complete
  lt_500us : stats.drain200To500us =
    timed (fun time => 20000#32 ≤ time && time < 50000#32) complete
  ge_500us : stats.drainGe500us = timed (fun time => 50000#32 ≤ time) complete
  tready_low : stats.drainTreadyLowCycles = BitVec.ofNat 32 refused
  /-- This one counts cycles as well, not drains. -/
  tready_low_samples : stats.drainTreadyLowSamples = BitVec.ofNat 32 refused
  tready_low_longest : Extreme (· > ·) 0
    (complete.map fun drain => (BitVec.ofNat 32 (refusals drain)).toNat)
    stats.drainTreadyLowCyclesMax.toNat

section Trace

variable (drain : List OutputCycle) (beat : Beat)

/-- A cycle in which the sink takes the beat adds the beat to those taken. -/
theorem taken_ready : taken (drain ++ [⟨beat, true⟩]) = taken drain ++ [beat] := by
  simp [taken]

/-- A cycle in which the sink leaves the beat adds none to those taken. -/
theorem taken_refused : taken (drain ++ [⟨beat, false⟩]) = taken drain := by
  simp [taken]

/-- A cycle in which the sink takes the beat is no refusal. -/
theorem refusals_ready : refusals (drain ++ [⟨beat, true⟩]) = refusals drain := by
  simp [refusals]

/-- A cycle in which the sink leaves the beat is one more refusal. -/
theorem refusals_refused : refusals (drain ++ [⟨beat, false⟩]) = refusals drain + 1 := by
  simp [refusals]

end Trace

/-- One more drain counts once when its time passes the test. The sum is in 32 bits, as the
register's. -/
theorem timed_concat (test : BitVec 32 → Bool) (complete : List (List OutputCycle))
    (drain : List OutputCycle) :
    timed test (complete ++ [drain]) =
      timed test complete + BitVec.ofNat 32 (test (drainTime drain)).toNat := by
  rw [timed, List.countP_append, List.countP_singleton, BitVec.ofNat_add]
  cases test (drainTime drain) <;> rfl

/-- The taken beats of the drains are the frames of the taken beats. Induction over the cycles: a
refusal adds to neither side, and the last beat taken closes both. -/
theorem taken_frames (trace : List OutputCycle) :
    framesOf (taken trace) =
      ⟨(drains trace).complete.map taken, taken (drains trace).unfinished⟩ := by
  induction trace using List.reverseRecOn with
  | nil => rfl
  | append_singleton trace cycle inductionHypothesis =>
    obtain ⟨beat, ready⟩ := cycle
    rw [drains, frames_concat, ← drains]
    cases ready with
    | false =>
      rw [taken_refused, Frames.push_unmarked (rfl : OutputCycle.ends ⟨beat, false⟩ = false),
        taken_refused]
      exact inductionHypothesis
    | true =>
      rw [taken_ready, framesOf, frames_concat, ← framesOf, inductionHypothesis]
      cases last : beat.tlast with
      | false =>
        have going : OutputCycle.ends ⟨beat, true⟩ = false := last
        rw [Frames.push_unmarked last, Frames.push_unmarked going, taken_ready]
      | true =>
        have ending : OutputCycle.ends ⟨beat, true⟩ = true := last
        rw [Frames.push_marked last, Frames.push_marked ending, List.map_append,
          List.map_singleton, taken_ready]
        rfl

/-- The beats that a run hands over are those that its output trace shows as taken. Induction
over the inputs, each edge adding to both. -/
theorem run_taken (cfg : GateConfig) (mem : Nat → Beat) (ramDoutR : Beat)
    (inputs : List GateInput) :
    (Bench.run cfg mem ramDoutR inputs).gate =
        after (Gate.cycle cfg) (Gate.reset mem ramDoutR) inputs ∧
      (Bench.run cfg mem ramDoutR inputs).emitted =
        taken (outputTrace cfg mem ramDoutR inputs) := by
  induction inputs using List.reverseRecOn with
  | nil => exact ⟨rfl, rfl⟩
  | append_singleton inputs input inductionHypothesis =>
    obtain ⟨gate, emitted⟩ := inductionHypothesis
    rw [Bench.run, List.foldl_append, ← Bench.run, after_concat, ← gate, outputTrace,
      recorded_concat, ← gate, ← outputTrace]
    refine ⟨rfl, ?_⟩
    change (Bench.run cfg mem ramDoutR inputs).emitted ++ _ = _
    rw [emitted]
    simp only [taken, List.filter_append, List.map_append]
    congr 1
    unfold Gate.outputCycle Gate.outputAccept
    cases (Bench.run cfg mem ramDoutR inputs).gate.drain.mAxisTvalid with
    | false => rfl
    | true => cases input.mAxisTready <;> simp

/-- How far the next beat has come: not read, read, or on offer. -/
def DrainSide.fetched (drain : DrainSide) : Nat :=
  drain.ramRdPending.toNat + 2 * drain.mAxisTvalid.toNat

/-- The statistics behind one more cycle of a drain that goes on. -/
def DrainStats.tick (stats : DrainStats) : DrainStats :=
  { stats with drainCyclesCurrent := stats.drainCyclesCurrent + 1#32 }

/-- The statistics behind a cycle in which the sink leaves a beat. -/
def DrainStats.tickRefused (stats : DrainStats) : DrainStats :=
  { stats.tick with
    drainTreadyLowCycles := stats.drainTreadyLowCycles + 1#32
    drainTreadyLowCurrent := stats.drainTreadyLowCurrent + 1#32
    drainTreadyLowSamples := stats.drainTreadyLowSamples + 1#32 }

/-- The statistics behind the cycle in which a drain ends, but for the histogram. -/
def DrainStats.tickClosed (stats : DrainStats) : DrainStats :=
  { stats.tick with
    drainSamples := stats.drainSamples + 1#32
    drainCyclesTotal := stats.drainCyclesTotal + stats.drainCyclesCurrent + 1#32
    drainCyclesMax :=
      offer (· > ·) stats.drainCyclesMax (stats.drainCyclesCurrent + 1#32)
    drainTreadyLowCyclesMax :=
      offer (· > ·) stats.drainTreadyLowCyclesMax stats.drainTreadyLowCurrent }

/-- The statistics behind the cycle in which a drain ends: its time goes into the sum, the
maximum and the histogram. -/
def DrainStats.tickFinished (stats : DrainStats) : DrainStats :=
  Gate.histogramNext stats.tickClosed (stats.drainCyclesCurrent + 1#32)

/-- One edge of the drain side and its statistics: `drain` and `stats` stand behind it, and
the cycles are those that the output shows. -/
inductive DrainStep (gate : Gate) (drain : DrainSide) (stats : DrainStats) :
    List OutputCycle → Prop
  | rest (resting : gate.drain.drainActive = false) (rests : drain.drainActive = false)
      (same : stats = gate.stats) : DrainStep gate drain stats []
  | start (resting : gate.drain.drainActive = false) (active : drain.drainActive = true)
      (empty : drain.fetched = 0)
      (cleared : stats =
        { gate.stats with drainCyclesCurrent := 0#32, drainTreadyLowCurrent := 0#32 }) :
      DrainStep gate drain stats []
  | fetch (active : gate.drain.drainActive = true) (goes_on : drain.drainActive = true)
      (further : drain.fetched = gate.drain.fetched + 1) (counted : stats = gate.stats.tick) :
      DrainStep gate drain stats []
  | refuse (active : gate.drain.drainActive = true) (goes_on : drain.drainActive = true)
      (same : drain.fetched = gate.drain.fetched) (counted : stats = gate.stats.tickRefused) :
      DrainStep gate drain stats [⟨gate.drain.mAxis, false⟩]
  | take (active : gate.drain.drainActive = true) (goes_on : drain.drainActive = true)
      (more : gate.drain.mAxis.tlast = false) (offered : gate.drain.fetched = 2)
      (reads : drain.fetched = 1) (counted : stats = gate.stats.tick) :
      DrainStep gate drain stats [⟨gate.drain.mAxis, true⟩]
  | finish (active : gate.drain.drainActive = true) (rests : drain.drainActive = false)
      (last : gate.drain.mAxis.tlast = true) (offered : gate.drain.fetched = 2)
      (counted : stats = gate.stats.tickFinished) :
      DrainStep gate drain stats [⟨gate.drain.mAxis, true⟩]

section Step

variable {cfg : GateConfig} {bench : Bench} {delivered stored : List (List Beat)} {sent : Nat}

/-- A resting drain side offers nothing; a draining one offers or reads, and when it has
neither to do it reads the next beat. -/
theorem drain_flow (invariant : GateInvariant cfg bench delivered stored sent)
    (input : GateInput) :
    (bench.gate.drain.drainActive = false → bench.gate.drain.mAxisTvalid = false) ∧
      (bench.gate.drain.mAxisTvalid = true → bench.gate.drain.ramRdPending = false) ∧
      (bench.gate.drain.drainActive = true → bench.gate.finishDrain input = false →
        bench.gate.ramRdFire input =
          (bench.gate.outputSlotFree input && !bench.gate.drain.ramRdPending)) := by
  cases active : bench.gate.drain.drainActive with
  | false =>
    obtain ⟨quiet, -, -⟩ := invariant.drain.resting active
    exact ⟨fun _ => quiet, fun valid => absurd valid (by simp [quiet]), nofun⟩
  | true =>
    obtain ⟨frame, here, length, inside, count, output, -⟩ := invariant.drain.draining active
    refine ⟨nofun, fun valid => (output valid).1, fun _ unfinished => ?_⟩
    have delimited :=
      (invariant.sound (List.mem_append_right delivered (List.mem_of_mem_head? here))).2.1
    cases reading : bench.gate.drain.ramRdPending with
    | true => simp [Gate.ramRdFire, reading]
    | false =>
      cases free : bench.gate.outputSlotFree input with
      | false => simp [Gate.ramRdFire, free]
      | true =>
        have behind : bench.gate.drain.rdCount < bench.gate.drain.drainLen := by
          rw [reading] at count
          cases valid : bench.gate.drain.mAxisTvalid with
          | false =>
            simp only [valid, Bool.toNat_false] at count
            omega
          | true =>
            -- The beat is taken and is not the last, so another one is left to read.
            have ready : input.mAxisTready = true := by
              simpa [Gate.outputSlotFree, valid] using free
            have more : sent + 1 ≠ frame.length := by
              intro ends
              have final := (delimited.marked_iff (output valid).2).mpr ends
              simp [Gate.finishDrain, Gate.outputAccept, valid, ready, final] at unfinished
            simp only [valid, Bool.toNat_true, Bool.toNat_false] at count
            omega
        simp [Gate.ramRdFire, active, unfinished, free, reading, behind]

/-- Every edge is one of these steps, and shows the cycles that the step says. The drain side is
resting, fetching, offering or finishing, and the invariant of the gate excludes the other
combinations of its registers. -/
theorem drain_step (invariant : GateInvariant cfg bench delivered stored sent)
    (input : GateInput) :
    DrainStep bench.gate (bench.gate.drainNext cfg input) (bench.gate.statsNext input)
      (bench.gate.outputCycle input) := by
  obtain ⟨quiet, apart, reads⟩ := drain_flow invariant input
  cases active : bench.gate.drain.drainActive with
  | false =>
    have nothing : bench.gate.outputCycle input = [] := if_neg (by simp [quiet active])
    rw [nothing]
    by_cases empty : bench.gate.fullCount = 0
    · apply DrainStep.rest active
      · simp [Gate.drainNext, active, empty]
      · simp [Gate.statsNext, Gate.statsRunning, active, empty]
    · apply DrainStep.start active
      · simp [Gate.drainNext, active, empty]
      · simp [DrainSide.fetched, Gate.drainNext, active, empty]
      · simp [Gate.statsNext, Gate.statsRunning, active, empty]
  | true =>
    cases finishing : bench.gate.finishDrain input with
    | true =>
      obtain ⟨accepted, last⟩ := Bool.and_eq_true_iff.mp finishing
      obtain ⟨valid, ready⟩ := Bool.and_eq_true_iff.mp accepted
      have shown : bench.gate.outputCycle input = [⟨bench.gate.drain.mAxis, true⟩] := by
        rw [Gate.outputCycle, if_pos valid, ready]
      rw [shown]
      apply DrainStep.finish active
      · simp [Gate.drainNext, active, finishing]
      · exact last
      · simp [DrainSide.fetched, valid, apart valid]
      · simp only [Gate.statsNext, Gate.statsRunning, active, finishing, valid, ready,
          Bool.not_true, Bool.false_and, Bool.and_false, Bool.and_self, Bool.false_eq_true,
          if_false, if_true]
        rfl
    | false =>
      have fires := reads active finishing
      have goes_on : (bench.gate.drainNext cfg input).drainActive = true := by
        simp [Gate.drainNext, active, finishing]
      cases valid : bench.gate.drain.mAxisTvalid with
      | false =>
        have nothing : bench.gate.outputCycle input = [] := if_neg (by simp [valid])
        rw [nothing]
        apply DrainStep.fetch active goes_on
        · cases reading : bench.gate.drain.ramRdPending with
          | false =>
            simp [DrainSide.fetched, Gate.drainNext, active, finishing, fires, reading, valid,
              Gate.outputSlotFree, Gate.outputAccept]
          | true =>
            simp [DrainSide.fetched, Gate.drainNext, active, finishing, fires, reading, valid]
        · simp [Gate.statsNext, Gate.statsRunning, DrainStats.tick, active, finishing, valid]
      | true =>
        have still := apart valid
        cases ready : input.mAxisTready with
        | false =>
          have shown : bench.gate.outputCycle input = [⟨bench.gate.drain.mAxis, false⟩] := by
            rw [Gate.outputCycle, if_pos valid, ready]
          rw [shown]
          apply DrainStep.refuse active goes_on
          · simp [DrainSide.fetched, Gate.drainNext, active, finishing, fires, still, valid, ready,
              Gate.outputSlotFree, Gate.outputAccept]
          · simp [Gate.statsNext, Gate.statsRunning, DrainStats.tickRefused, DrainStats.tick,
              active, finishing, valid, ready]
        | true =>
          have shown : bench.gate.outputCycle input = [⟨bench.gate.drain.mAxis, true⟩] := by
            rw [Gate.outputCycle, if_pos valid, ready]
          rw [shown]
          apply DrainStep.take active goes_on
          · simpa [Gate.finishDrain, Gate.outputAccept, valid, ready] using finishing
          · simp [DrainSide.fetched, valid, still]
          · simp [DrainSide.fetched, Gate.drainNext, active, finishing, fires, still, valid, ready,
              Gate.outputSlotFree, Gate.outputAccept]
          · simp [Gate.statsNext, Gate.statsRunning, DrainStats.tick, active, finishing, valid,
              ready]

end Step

/-- The time of the open drain so far is a function of the handshakes in it and of how far
the next beat has come. -/
structure DrainClock (drain : DrainSide) (stats : DrainStats) (opened : List OutputCycle) :
    Prop where
  resting : drain.drainActive = false → opened = []
  time : drain.drainActive = true → stats.drainCyclesCurrent =
    BitVec.ofNat 32 (2 * (taken opened).length + refusals opened + drain.fetched)
  refused : drain.drainActive = true →
    stats.drainTreadyLowCurrent = BitVec.ofNat 32 (refusals opened)

section Account

variable {gate : Gate} {drain : DrainSide} {stats : DrainStats} {trace cycles : List OutputCycle}

/-- A cycle without an offered beat extends no drain. -/
theorem drains_kept : drains (trace ++ []) = drains trace := by
  rw [List.append_nil]

/-- A cycle in which the sink leaves the beat goes on with the open drain. -/
theorem drains_refused (trace : List OutputCycle) (beat : Beat) :
    drains (trace ++ [⟨beat, false⟩]) =
      ⟨(drains trace).complete, (drains trace).unfinished ++ [⟨beat, false⟩]⟩ := by
  rw [drains, frames_concat]
  exact Frames.push_unmarked rfl _

/-- A cycle in which the sink takes a beat that is not the last goes on with the open drain. -/
theorem drains_taken (trace : List OutputCycle) {beat : Beat} (more : beat.tlast = false) :
    drains (trace ++ [⟨beat, true⟩]) =
      ⟨(drains trace).complete, (drains trace).unfinished ++ [⟨beat, true⟩]⟩ := by
  have going : OutputCycle.ends ⟨beat, true⟩ = false := more
  rw [drains, frames_concat]
  exact Frames.push_unmarked going _

/-- A cycle in which the sink takes the last beat closes the open drain. -/
theorem drains_ended (trace : List OutputCycle) {beat : Beat} (last : beat.tlast = true) :
    drains (trace ++ [⟨beat, true⟩]) =
      ⟨(drains trace).complete ++ [(drains trace).unfinished ++ [⟨beat, true⟩]], []⟩ := by
  have ending : OutputCycle.ends ⟨beat, true⟩ = true := last
  rw [drains, frames_concat]
  exact Frames.push_marked ending _

/-- One edge of the clock: the running counters agree with the open drain behind the edge when
they did in front of it. One case for each step of the drain side. -/
theorem clock_step (clock : DrainClock gate.drain gate.stats (drains trace).unfinished)
    (step : DrainStep gate drain stats cycles) :
    DrainClock drain stats (drains (trace ++ cycles)).unfinished := by
  obtain ⟨idle, time, refused⟩ := clock
  cases step with
  | rest resting rests same =>
    rw [drains_kept]
    exact ⟨fun _ => idle resting, by simp [rests], by simp [rests]⟩
  | start resting active empty cleared =>
    rw [drains_kept, idle resting]
    refine ⟨fun _ => rfl, fun _ => ?_, fun _ => ?_⟩
    · rw [cleared, empty]
      rfl
    · rw [cleared]
      rfl
  | fetch active goes_on further counted =>
    rw [drains_kept]
    refine ⟨by simp [goes_on], fun _ => ?_, fun _ => ?_⟩
    · rw [counted, further, ← Nat.add_assoc, BitVec.ofNat_add, ← time active]
      rfl
    · rw [counted, ← refused active]
      rfl
  | refuse active goes_on same counted =>
    rw [drains_refused]
    refine ⟨by simp [goes_on], fun _ => ?_, fun _ => ?_⟩
    · rw [taken_refused, refusals_refused, counted, same, ← Nat.add_assoc,
        Nat.add_right_comm _ 1, BitVec.ofNat_add, ← time active]
      rfl
    · rw [refusals_refused, counted, BitVec.ofNat_add, ← refused active]
      rfl
  | take active goes_on more offered reads counted =>
    rw [drains_taken _ more]
    have begun := time active
    refine ⟨by simp [goes_on], fun _ => ?_, fun _ => ?_⟩
    · have longer : 2 * (taken ((drains trace).unfinished ++ [⟨gate.drain.mAxis, true⟩])).length +
          refusals ((drains trace).unfinished ++ [⟨gate.drain.mAxis, true⟩]) + drain.fetched =
          2 * (taken (drains trace).unfinished).length + refusals (drains trace).unfinished +
            gate.drain.fetched + 1 := by
        rw [taken_ready, refusals_ready, reads, offered, List.length_append]
        simp only [List.length_singleton]
        omega
      rw [longer, counted, BitVec.ofNat_add, ← begun]
      rfl
    · rw [refusals_ready, counted, ← refused active]
      rfl
  | finish active rests last offered counted =>
    rw [drains_ended _ last]
    exact ⟨fun _ => rfl, by simp [rests], by simp [rests]⟩

/-- Offering a word to a maximum is offering its number, since words are ordered by their
numbers. -/
theorem offer_word (mark candidate : BitVec 32) :
    (offer (· > ·) mark candidate).toNat = offer (· > ·) mark.toNat candidate.toNat := by
  apply offer_view BitVec.toNat
  intro left right
  exact BitVec.lt_def

/-- A drain time counts in its own bin and in no other. A bound that is passed is passed with the
smaller ones, so the tests of the source in their order are intervals. -/
theorem histogram_bins (stats : DrainStats) (time : BitVec 32) :
    (Gate.histogramNext stats time).drainLt50us =
        stats.drainLt50us + BitVec.ofNat 32 (decide (time < 5000#32)).toNat ∧
      (Gate.histogramNext stats time).drain50To100us = stats.drain50To100us +
        BitVec.ofNat 32 (decide (5000#32 ≤ time) && decide (time < 10000#32)).toNat ∧
      (Gate.histogramNext stats time).drain100To200us = stats.drain100To200us +
        BitVec.ofNat 32 (decide (10000#32 ≤ time) && decide (time < 20000#32)).toNat ∧
      (Gate.histogramNext stats time).drain200To500us = stats.drain200To500us +
        BitVec.ofNat 32 (decide (20000#32 ≤ time) && decide (time < 50000#32)).toNat ∧
      (Gate.histogramNext stats time).drainGe500us =
        stats.drainGe500us + BitVec.ofNat 32 (decide (50000#32 ≤ time)).toNat := by
  -- A bound is passed with the smaller ones.
  have fourth : 50000#32 ≤ time → 20000#32 ≤ time := by bv_omega
  have third : 20000#32 ≤ time → 10000#32 ≤ time := by bv_omega
  have second : 10000#32 ≤ time → 5000#32 ≤ time := by bv_omega
  simp only [Gate.histogramNext, ← BitVec.not_le]
  by_cases first_bound : 5000#32 ≤ time
  · by_cases second_bound : 10000#32 ≤ time
    · by_cases third_bound : 20000#32 ≤ time
      · by_cases fourth_bound : 50000#32 ≤ time
        · simp [first_bound, second_bound, third_bound, fourth_bound]
        · simp [first_bound, second_bound, third_bound, fourth_bound]
      · simp [first_bound, second_bound, third_bound, mt fourth third_bound]
    · have third_bound := mt third second_bound
      simp [first_bound, second_bound, third_bound, mt fourth third_bound]
  · have second_bound := mt second first_bound
    have third_bound := mt third second_bound
    simp [first_bound, second_bound, third_bound, mt fourth third_bound]

/-- The other registers do not change when a drain time goes into the histogram. -/
theorem histogram_keeps (stats : DrainStats) (time : BitVec 32) :
    (Gate.histogramNext stats time).drainSamples = stats.drainSamples ∧
      (Gate.histogramNext stats time).drainCyclesTotal = stats.drainCyclesTotal ∧
      (Gate.histogramNext stats time).drainCyclesMax = stats.drainCyclesMax ∧
      (Gate.histogramNext stats time).drainTreadyLowCycles = stats.drainTreadyLowCycles ∧
      (Gate.histogramNext stats time).drainTreadyLowSamples = stats.drainTreadyLowSamples ∧
      (Gate.histogramNext stats time).drainTreadyLowCyclesMax = stats.drainTreadyLowCyclesMax := by
  unfold Gate.histogramNext
  split_ifs <;> exact ⟨rfl, rfl, rfl, rfl, rfl, rfl⟩

/-- Of one more drain the registers keep its time and its refusals: the sum grows by the time,
the maxima are offered both, and one bin and the samples go up by one. -/
theorem registers_ended {complete : List (List OutputCycle)} {refused : Nat}
    (correct : DrainStatsCorrect complete refused stats) {drain : List OutputCycle}
    (time : stats.drainCyclesCurrent + 1#32 = drainTime drain)
    (low_current : stats.drainTreadyLowCurrent = BitVec.ofNat 32 (refusals drain)) :
    DrainStatsCorrect (complete ++ [drain]) refused stats.tickFinished := by
  obtain ⟨first, second, third, fourth, fifth⟩ :=
    histogram_bins stats.tickClosed (stats.drainCyclesCurrent + 1#32)
  obtain ⟨samples, total, longest, low, low_samples, low_longest⟩ :=
    histogram_keeps stats.tickClosed (stats.drainCyclesCurrent + 1#32)
  constructor
  · rw [DrainStats.tickFinished, samples, List.length_append, BitVec.ofNat_add, ← correct.samples]
    rfl
  · rw [DrainStats.tickFinished, total, List.map_append, List.sum_append, BitVec.ofNat_add,
      ← correct.total, List.map_singleton, List.sum_singleton, ← drainTime, ← time,
      ← BitVec.add_assoc]
    rfl
  · rw [DrainStats.tickFinished, longest, List.map_append, List.map_singleton, ← time]
    have offered := correct.longest.offered
      (Nat.not_lt_zero (stats.drainCyclesCurrent + 1#32).toNat)
    rw [← offer_word] at offered
    exact offered
  · rw [DrainStats.tickFinished, first, timed_concat, ← correct.lt_50us, ← time]
    rfl
  · rw [DrainStats.tickFinished, second, timed_concat, ← correct.lt_100us, ← time]
    rfl
  · rw [DrainStats.tickFinished, third, timed_concat, ← correct.lt_200us, ← time]
    rfl
  · rw [DrainStats.tickFinished, fourth, timed_concat, ← correct.lt_500us, ← time]
    rfl
  · rw [DrainStats.tickFinished, fifth, timed_concat, ← correct.ge_500us, ← time]
    rfl
  · exact low.trans correct.tready_low
  · exact low_samples.trans correct.tready_low_samples
  · rw [DrainStats.tickFinished, low_longest, List.map_append, List.map_singleton, ← low_current]
    have offered := correct.tready_low_longest.offered
      (Nat.not_lt_zero stats.drainTreadyLowCurrent.toNat)
    rw [← offer_word] at offered
    exact offered

/-- One edge of the registers keeps them right. Only the step that finishes a drain changes what
they say of complete drains; a refusal is counted at once. -/
theorem registers_step (clock : DrainClock gate.drain gate.stats (drains trace).unfinished)
    (correct : DrainStatsCorrect (drains trace).complete (refusals trace) gate.stats)
    (step : DrainStep gate drain stats cycles) :
    DrainStatsCorrect (drains (trace ++ cycles)).complete (refusals (trace ++ cycles)) stats := by
  cases step with
  | rest resting rests same =>
    rw [List.append_nil, same]
    exact correct
  | start resting active empty cleared =>
    rw [List.append_nil, cleared]
    exact { correct with }
  | fetch active goes_on further counted =>
    rw [List.append_nil, counted]
    exact { correct with }
  | refuse active goes_on same counted =>
    have one_more : ∀ {register : BitVec 32}, register = BitVec.ofNat 32 (refusals trace) →
        register + 1#32 = BitVec.ofNat 32 (refusals trace + 1) := by
      rintro register rfl
      rw [BitVec.ofNat_add]
    rw [drains_refused, refusals_refused, counted]
    exact { correct with
      tready_low := one_more correct.tready_low
      tready_low_samples := one_more correct.tready_low_samples }
  | take active goes_on more offered reads counted =>
    rw [drains_taken _ more, refusals_ready, counted]
    exact { correct with }
  | finish active rests last offered counted =>
    rw [drains_ended _ last, refusals_ready, counted]
    apply registers_ended correct
    · rw [clock.time active, offered, drainTime, drainCycles, taken_ready, refusals_ready,
        List.length_append, List.length_singleton, ← BitVec.ofNat_add]
      congr 1
      omega
    · rw [refusals_ready]
      exact clock.refused active

end Account

/-- Behind any cycles the counters of the open drain and the registers of the complete ones are
right. Induction over the inputs from the end, with the invariant of the gate at each edge. -/
theorem drain_account (cfg : GateConfig) (mem : Nat → Beat) (ramDoutR : Beat)
    (inputs : List GateInput) :
    let gate := (Bench.run cfg mem ramDoutR inputs).gate
    let trace := outputTrace cfg mem ramDoutR inputs
    DrainClock gate.drain gate.stats (drains trace).unfinished ∧
      DrainStatsCorrect (drains trace).complete (refusals trace) gate.stats := by
  induction inputs using List.reverseRecOn with
  | nil =>
    refine ⟨⟨fun _ => rfl, nofun, nofun⟩, ?_⟩
    constructor
    all_goals first | rfl | exact .fresh
  | append_singleton inputs input inductionHypothesis =>
    obtain ⟨clock, correct⟩ := inductionHypothesis
    obtain ⟨delivered, stored, sent, invariant⟩ := run_invariant cfg mem ramDoutR inputs
    have step := drain_step invariant input
    have grown : outputTrace cfg mem ramDoutR (inputs ++ [input]) =
        outputTrace cfg mem ramDoutR inputs ++
          (Bench.run cfg mem ramDoutR inputs).gate.outputCycle input := by
      rw [outputTrace, recorded_concat, (run_taken cfg mem ramDoutR inputs).1]
      rfl
    rw [grown, Bench.run, List.foldl_append, ← Bench.run]
    exact ⟨clock_step clock step, registers_step clock correct step⟩

/-- For every configuration, every input and every number of cycles: a frame of `n` beats leaves
the gate in `2 n + 1` cycles and one more for each cycle in which the sink does not take the
offered beat, and the statistics are those of these times.

Proof: the trace of the output is cut into drains, and the registers of the complete ones and the
counters of the open one are right behind every edge, by induction with the invariant of the
gate. -/
theorem drain_stats_correct (cfg : GateConfig) (mem : Nat → Beat) (ramDoutR : Beat)
    (inputs : List GateInput) :
    let trace := outputTrace cfg mem ramDoutR inputs
    let bench := Bench.run cfg mem ramDoutR inputs
    (framesOf bench.emitted).complete = (drains trace).complete.map taken ∧
      DrainStatsCorrect (drains trace).complete (refusals trace) bench.gate.stats := by
  intro trace bench
  constructor
  · have handed : bench.emitted = taken trace := (run_taken cfg mem ramDoutR inputs).2
    rw [handed, taken_frames]
  · exact (drain_account cfg mem ramDoutR inputs).2

end EmaczZephyr.Rtl
