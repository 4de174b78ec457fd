import EmaczZephyr.Foundation.Checked
import EmaczZephyr.Foundation.Numerals
import EmaczZephyr.Foundation.Word32

/-!
# The transmit benchmark

`run_tx_bench` with the parsing of its arguments, its loop and its report. Real time is
counted in cycles from some earlier instant, without a bound; the program reads it modulo
`2 ^ 32`. What happens in the loop is a sequence of bursts, each with its result, the
cycles it took and the cycles of the busy wait behind it. The frame and the resolution of
the peer are left out but for whether the peer is known.

The loop compares cycles modulo `2 ^ 32`, while one busy wait can take tens of seconds. So
it stops on time exactly when the loop test behind the deadline and the last reading come
before the counter has wrapped.
-/

namespace EmaczZephyr.Application

open BigEndian Checked Numerals

/-- `TX_BENCH_PORT`, the port that the benchmark sends to by default. -/
def txBenchPort : Nat := 5003
/-- `TX_BENCH_MAX_PAYLOAD`, what fits a frame without fragmentation. -/
def txBenchMaxPayload : Nat := 1472
/-- `TX_BENCH_BURST_COUNT`, the frames that one turn of the loop hands to the driver. -/
def txBenchBurstCount : Nat := 32
/-- `TX_BENCH_DEFAULT_DURATION_MS`, taken when no duration, or zero, is asked for. -/
def txBenchDefaultDurationMs : Nat := 5000
/-- `TX_BENCH_MAX_DURATION_MS`, which the source justifies by the wrap of the 32-bit cycle
counter. -/
def txBenchMaxDurationMs : Nat := 30000
/-- `TX_BENCH_MAX_DELAY_US`, the longest pacing of one packet; a burst may wait 32 times as long. -/
def txBenchMaxDelayUs : Nat := 1000000
/-- `TX_BENCH_DEFAULT_PAYLOAD`, taken when no payload, zero or too much is asked for. -/
def txBenchDefaultPayload : Nat := 1472

/-- `UINT32_MAX`, which is `ULONG_MAX` as well on the 32-bit target, so `strtoul` saturates
there. -/
def uint32Max : Nat := 4294967295

/-- `parse_u32_arg`: blanks and tabs are skipped, and the number and the text behind it are
returned if a digit comes next and the value fits. -/
def parseU32Arg (cursor : List Byte) : Option (Nat × List Byte) :=
  let digits := cursor.dropWhile fun character => character = 32#8 ∨ character = 9#8
  if digits.head?.all (fun character => character.toNat < 48 ∨ 57 < character.toNat) then none
  else
    let (parsed, rest) := strtoul uint32Max digits
    if rest.length = digits.length ∨ uint32Max < parsed then none else some (parsed, rest)

/-- The four arguments of the benchmark, as the parser leaves them and, within their limits, as
the loop uses them. -/
structure BenchArgs where
  durationMs : Nat
  payloadLen : Nat
  rateMbpsX1000 : Nat
  port : Nat
deriving DecidableEq

/-- The arguments of a command without any number, which the parser starts from. -/
def defaultArgs : BenchArgs where
  durationMs := txBenchDefaultDurationMs
  payloadLen := txBenchDefaultPayload
  rateMbpsX1000 := 0
  port := txBenchPort

/-- The arguments of the command, as far as they can be read. -/
def readArgs (args : Option (List Byte)) : BenchArgs :=
  match args.bind parseU32Arg with
  | none => defaultArgs
  | some (durationMs, cursor) =>
      let read := { defaultArgs with durationMs := durationMs }
      match parseU32Arg cursor with
      | none => read
      | some (payloadLen, cursor) =>
          let read := { read with payloadLen := payloadLen }
          match parseU32Arg cursor with
          | none => read
          | some (rate, cursor) =>
              let read := { read with rateMbpsX1000 := rate }
              match parseU32Arg cursor with
              | none => read
              | some (port, _) => { read with port := port }

/-- The arguments within their limits: zero and too large values are replaced, as the tests
behind the parser do it. -/
def clampArgs (args : BenchArgs) : BenchArgs where
  durationMs :=
    if args.durationMs = 0 then txBenchDefaultDurationMs
    else if txBenchMaxDurationMs < args.durationMs then txBenchMaxDurationMs
    else args.durationMs
  payloadLen :=
    if args.payloadLen = 0 ∨ txBenchMaxPayload < args.payloadLen then txBenchDefaultPayload
    else args.payloadLen
  rateMbpsX1000 := args.rateMbpsX1000
  port := if args.port = 0 ∨ 65535 < args.port then txBenchPort else args.port

/-- The pacing of one packet in microseconds, in the widths of the source; an overflow or a
division by zero would make it undefined. -/
def delayUs (args : BenchArgs) : Option Nat :=
  if args.rateMbpsX1000 = 0 then some 0
  else do
    let bitsPerPacket ← mul 64 args.payloadLen 8
    let bitsPerSec ← mul 64 args.rateMbpsX1000 1000
    let scaled ← mul 64 bitsPerPacket 1000000
    let delay ← div scaled bitsPerSec
    let delay := min delay txBenchMaxDelayUs
    some (if delay = 0 then 1 else delay)

/-- One turn of the loop as the environment makes it: the result of the burst and the cycles that
the turn takes, with its busy wait. -/
structure Burst where
  /-- The result of `emaczero_profile_send_raw_frame_burst`. -/
  ret : Int
  errno : Int
  /-- The cycles from the loop test to the end of the call. -/
  cycles : Nat
  /-- The cycles of the busy wait, where there is one. -/
  waited : Nat

/-- The counters of the benchmark: packets, bytes, errors, and the last result with its error
number. -/
structure Tally where
  packets : Nat
  bytes : Nat
  errors : Nat
  lastRet : Int
  lastErrno : Int
deriving DecidableEq

/-- The counters behind a burst: a positive result counts packets and bytes, anything else one
error with its reason. -/
def Tally.record (payloadLen : Nat) (tally : Tally) (burst : Burst) : Option Tally :=
  if 0 < burst.ret then do
    let bytes ← mul 64 burst.ret.toNat payloadLen
    some { tally with
      packets := (tally.packets + burst.ret.toNat) % 2 ^ 64
      bytes := (tally.bytes + bytes) % 2 ^ 64
      lastRet := burst.ret }
  else
    some { tally with
      errors := (tally.errors + 1) % 2 ^ 64
      lastRet := burst.ret
      lastErrno := burst.errno }

/-- The cycles of the pacing behind a burst, which waits only after packets were sent; the
product must fit 32 bits to be defined. -/
def pace (delay : Nat) (burst : Burst) : Option Nat :=
  if delay ≠ 0 ∧ 0 < burst.ret then
    (mul 32 delay burst.ret.toNat).map fun _ => burst.waited
  else some 0

/-- `k_cycle_get_32`: the low 32 bits of a cycle counter that never wraps, which is what the loop
takes differences of. -/
def kCycleGet32 (now : Nat) : Nat := now % 2 ^ 32

/-- What the loop did: the times of its tests, whether and when it ended, and the counters it
leaves. -/
structure LoopEnd where
  /-- The times of the loop tests behind which it went on. -/
  continued : List Nat
  /-- The time of the loop test that ended it. -/
  stopped : Option Nat
  tally : Tally
deriving DecidableEq

/-- The loop, from a loop test. Behind the last burst of the sequence it is left running. -/
def benchLoop (durationCycles startCycle delay payloadLen : Nat) :
    List Burst → Nat → Tally → Option LoopEnd
  | bursts, now, tally =>
      if Word32.sub (kCycleGet32 now) startCycle < durationCycles then
        match bursts with
        | [] => some ⟨[now], none, tally⟩
        | burst :: bursts => do
            let tally ← tally.record payloadLen burst
            let waited ← pace delay burst
            let later ← benchLoop durationCycles startCycle delay payloadLen bursts
              (now + burst.cycles + waited) tally
            some { later with continued := now :: later.continued }
      else some ⟨[], some now, tally⟩

/-- The outcomes of a benchmark: no link address for the peer, a loop that is still running when
the bursts are used up, or a report. -/
inductive BenchReply where
  | noPeerArp
  | running (loop : LoopEnd)
  /-- The loop ended at this time, and the report has this `elapsed_ms`. -/
  | report (loop : LoopEnd) (stop elapsedMs : Nat)
deriving DecidableEq

/-- `run_tx_bench` behind its arguments: `resolved` says whether the peer is known, `start` is
when `start_cycle` is read, `first` the cycles from there to the first loop test, and `gap` the
cycles from the loop test that ends the loop to the last reading. -/
def measure (cyclesPerSec : Nat) (args : BenchArgs) (resolved : Bool) (start first : Nat)
    (bursts : List Burst) (gap : Nat) : Option BenchReply := do
  let delay ← delayUs args
  if resolved = false then some .noPeerArp
  else do
    let window ← mul 64 args.durationMs cyclesPerSec
    let durationCycles ← div window 1000
    let startCycle := kCycleGet32 start
    let loop ← benchLoop (durationCycles % 2 ^ 32) startCycle delay args.payloadLen bursts
      (start + first) ⟨0, 0, 0, 0, 0⟩
    match loop.stopped with
    | none => some (.running loop)
    | some stop => do
        let elapsedCycles := Word32.sub (kCycleGet32 (stop + gap)) startCycle
        let scaled ← mul 64 elapsedCycles 1000
        let elapsedMs ← div scaled cyclesPerSec
        some (.report loop stop (elapsedMs % 2 ^ 32))

/-- `run_tx_bench`: the arguments are read and brought within their limits, and then the
measurement runs. -/
def runTxBench (cyclesPerSec : Nat) (args : Option (List Byte)) (resolved : Bool)
    (start first : Nat) (bursts : List Burst) (gap : Nat) : Option BenchReply :=
  measure cyclesPerSec (clampArgs (readArgs args)) resolved start first bursts gap

/-- The duration has passed in true cycles, without the wrap of the 32-bit counter. -/
def Passed (cyclesPerSec durationMs start now : Nat) : Prop :=
  durationMs * cyclesPerSec ≤ (now - start) * 1000

/-- The loop goes on before the duration has passed and only then, and the report has the
real time. -/
def OnTime (cyclesPerSec durationMs start gap : Nat) : BenchReply → Prop
  | .noPeerArp => True
  | .running loop => ∀ test ∈ loop.continued, ¬ Passed cyclesPerSec durationMs start test
  | .report loop stop elapsedMs =>
      (∀ test ∈ loop.continued, ¬ Passed cyclesPerSec durationMs start test) ∧
        Passed cyclesPerSec durationMs start stop ∧
        elapsedMs = (stop + gap - start) * 1000 / cyclesPerSec

/-- What a call and the wait behind it may do: at most 32 packets, 10 ms and an overhead. -/
structure Burst.Allowed (cyclesPerSec overhead delay : Nat) (burst : Burst) : Prop where
  few : burst.ret ≤ txBenchBurstCount
  prompt : burst.cycles ≤ cyclesPerSec / 100 + overhead
  waits : delay * burst.ret.toNat * cyclesPerSec / 1000000 ≤ burst.waited
  wakes : burst.waited ≤ delay * burst.ret.toNat * cyclesPerSec / 1000000 + overhead

/-- The cycles of the pacing behind a burst, when packets are paced. -/
def Burst.pacing (burst : Burst) (paced : Bool) : Nat :=
  if paced = true ∧ 0 < burst.ret then burst.waited else 0

/-- In real time, from a loop test this long behind the start: no test comes in the cycle in
which the duration ends, unless it ends with the cycle; and the test behind the duration is
followed by a last reading in less than `2 ^ 32` cycles and milliseconds. -/
def InWindow (cyclesPerSec durationMs gap : Nat) (paced : Bool) : List Burst → Nat → Prop
  | bursts, elapsed =>
      if durationMs * cyclesPerSec ≤ elapsed * 1000 then
        elapsed + gap < 2 ^ 32 ∧ (elapsed + gap) * 1000 / cyclesPerSec < 2 ^ 32
      else elapsed ≠ durationMs * cyclesPerSec / 1000 ∧
        match bursts with
        | [] => True
        | burst :: bursts => InWindow cyclesPerSec durationMs gap paced bursts
            (elapsed + burst.cycles + burst.pacing paced)

/-- A number that is read fits 32 bits, because `strtoul` saturates there and larger values are
refused. -/
theorem parse_small {cursor rest : List Byte} {value : Nat}
    (parsed : parseU32Arg cursor = some (value, rest)) : value ≤ uint32Max := by
  unfold parseU32Arg at parsed
  dsimp only at parsed
  split at parsed
  · cases parsed
  · split at parsed
    · cases parsed
    · rename_i fits
      cases Option.some.inj parsed
      exact strtoul_le uint32Max _

/-- The rate that the parser leaves fits 32 bits, whether it was read or is the default. -/
theorem read_rate (args : Option (List Byte)) : (readArgs args).rateMbpsX1000 ≤ uint32Max := by
  unfold readArgs
  split
  · exact Nat.zero_le _
  · dsimp only
    split
    · exact Nat.zero_le _
    · split
      · exact Nat.zero_le _
      · rename_i rate cursor parsed
        have small : rate ≤ uint32Max := parse_small parsed
        split
        · exact small
        · exact small

/-- The arguments within their limits: the duration and the payload are bounded, and the rate is
what was read. -/
theorem clamp_limits (args : BenchArgs) :
    (clampArgs args).durationMs ≤ txBenchMaxDurationMs ∧
      (clampArgs args).payloadLen ≤ txBenchMaxPayload ∧
      (clampArgs args).rateMbpsX1000 = args.rateMbpsX1000 := by
  refine ⟨?_, ?_, rfl⟩
  · dsimp only [clampArgs]
    split
    · decide
    · split
      · exact Nat.le_refl _
      · rename_i within
        exact Nat.not_lt.mp within
  · dsimp only [clampArgs]
    split
    · decide
    · rename_i within
      exact Nat.not_lt.mp fun beyond => within (.inr beyond)

/-- The pacing is defined for every payload and rate that can come: no product overflows, no
division is by zero, and the result is at most a second. -/
theorem delay_defined {args : BenchArgs} (payload : args.payloadLen ≤ txBenchMaxPayload)
    (rate : args.rateMbpsX1000 ≤ uint32Max) :
    ∃ delay, delayUs args = some delay ∧ delay ≤ txBenchMaxDelayUs ∧
      (delay ≠ 0 ↔ args.rateMbpsX1000 ≠ 0) := by
  unfold txBenchMaxPayload at payload
  unfold uint32Max at rate
  unfold delayUs txBenchMaxDelayUs
  by_cases unpaced : args.rateMbpsX1000 = 0
  · exact ⟨0, if_pos unpaced, Nat.zero_le _, by simp [unpaced]⟩
  · have packet : mul 64 args.payloadLen 8 = some (args.payloadLen * 8) := mul_fits (by omega)
    have second : mul 64 args.rateMbpsX1000 1000 = some (args.rateMbpsX1000 * 1000) :=
      mul_fits (by omega)
    have scaled : mul 64 (args.payloadLen * 8) 1000000 = some (args.payloadLen * 8 * 1000000) :=
      mul_fits (by omega)
    have quotient : div (args.payloadLen * 8 * 1000000) (args.rateMbpsX1000 * 1000) =
        some (args.payloadLen * 8 * 1000000 / (args.rateMbpsX1000 * 1000)) :=
      div_positive (by omega)
    rw [if_neg unpaced, packet, Option.bind_eq_bind, Option.bind_some, second]
    simp only [Option.bind_some, scaled, quotient]
    generalize args.payloadLen * 8 * 1000000 / (args.rateMbpsX1000 * 1000) = delay
    refine ⟨_, rfl, ?_, ?_⟩
    · split <;> omega
    · simp only [ne_eq, unpaced, not_false_eq_true, iff_true]
      split <;> omega

/-- Counting a burst is defined: the bytes of at most 32 packets of a bounded payload do not
overflow. -/
theorem record_defined {payloadLen : Nat} (payload : payloadLen ≤ txBenchMaxPayload)
    (tally : Tally) {burst : Burst} (few : burst.ret ≤ txBenchBurstCount) :
    ∃ counted, tally.record payloadLen burst = some counted := by
  unfold txBenchMaxPayload at payload
  unfold txBenchBurstCount at few
  unfold Tally.record
  split
  · have bounded : burst.ret.toNat * payloadLen ≤ 32 * 1472 :=
      Nat.mul_le_mul (by omega) payload
    have bytes : mul 64 burst.ret.toNat payloadLen = some (burst.ret.toNat * payloadLen) :=
      mul_fits (by omega)
    rw [bytes]
    exact ⟨_, rfl⟩
  · exact ⟨_, rfl⟩

/-- The pacing behind a burst is defined, because at most 32 packets of at most a second each fit
32 bits of microseconds. -/
theorem pace_defined {delay : Nat} (slow : delay ≤ txBenchMaxDelayUs) {burst : Burst}
    (few : burst.ret ≤ txBenchBurstCount) :
    pace delay burst = some (burst.pacing (delay ≠ 0)) := by
  unfold txBenchMaxDelayUs at slow
  unfold txBenchBurstCount at few
  unfold pace Burst.pacing
  by_cases paced : delay ≠ 0 ∧ 0 < burst.ret
  · have bounded : delay * burst.ret.toNat ≤ 1000000 * 32 := Nat.mul_le_mul slow (by omega)
    have wait : mul 32 delay burst.ret.toNat = some (delay * burst.ret.toNat) :=
      mul_fits (by omega)
    rw [if_pos paced, wait, if_pos (by simpa using paced)]
    rfl
  · rw [if_neg paced, if_neg (by simpa using paced)]

section Loop

variable {cyclesPerSec durationMs start gap delay payloadLen : Nat}

/-- The program's difference of two readings is the time between them modulo `2 ^ 32`. -/
theorem elapsed_wraps (elapsed : Nat) :
    Word32.sub (kCycleGet32 (start + elapsed)) (kCycleGet32 start) = elapsed % 2 ^ 32 := by
  unfold Word32.sub kCycleGet32
  omega

/-- The report has the real time exactly when the last reading comes before the wrap. -/
theorem reported_exactly (positive : 0 < cyclesPerSec) (fast : cyclesPerSec ≤ 100000000)
    (elapsed : Nat) :
    elapsed % 2 ^ 32 * 1000 / cyclesPerSec % 2 ^ 32 = elapsed * 1000 / cyclesPerSec ↔
      elapsed < 2 ^ 32 ∧ elapsed * 1000 / cyclesPerSec < 2 ^ 32 := by
  constructor
  · intro same
    have small : elapsed * 1000 / cyclesPerSec < 2 ^ 32 := by
      rw [← same]
      exact Nat.mod_lt _ (by decide)
    refine ⟨?_, small⟩
    by_contra wrapped
    have lost : elapsed % 2 ^ 32 + 2 ^ 32 ≤ elapsed := by omega
    -- A lost turn of the counter is at least one millisecond.
    have later : elapsed % 2 ^ 32 * 1000 / cyclesPerSec + 1 ≤ elapsed * 1000 / cyclesPerSec := by
      rw [← Nat.add_div_right _ positive]
      apply Nat.div_le_div_right
      omega
    have cut := Nat.mod_le (elapsed % 2 ^ 32 * 1000 / cyclesPerSec) (2 ^ 32)
    omega
  · rintro ⟨unwrapped, small⟩
    rw [Nat.mod_eq_of_lt unwrapped, Nat.mod_eq_of_lt small]

/-- Behind the duration the loop ends at this test, so the window condition is only about the
reading that follows. -/
theorem passed_window {elapsed : Nat} (passed : durationMs * cyclesPerSec ≤ elapsed * 1000)
    (paced : Bool) (bursts : List Burst) :
    InWindow cyclesPerSec durationMs gap paced bursts elapsed ↔
      elapsed + gap < 2 ^ 32 ∧ (elapsed + gap) * 1000 / cyclesPerSec < 2 ^ 32 := by
  cases bursts <;> simp [InWindow, passed]

/-- A loop test that is on time and goes on comes before the duration has passed, and the
rest of the bursts stays in the window. -/
theorem going_window (window : durationMs * cyclesPerSec / 1000 < 2 ^ 32) {elapsed : Nat}
    (goes : elapsed % 2 ^ 32 < durationMs * cyclesPerSec / 1000) (paced : Bool) :
    (InWindow cyclesPerSec durationMs gap paced [] elapsed ↔
        ¬ durationMs * cyclesPerSec ≤ elapsed * 1000) ∧
      ∀ burst bursts, InWindow cyclesPerSec durationMs gap paced (burst :: bursts) elapsed ↔
        ¬ durationMs * cyclesPerSec ≤ elapsed * 1000 ∧
          InWindow cyclesPerSec durationMs gap paced bursts
            (elapsed + burst.cycles + burst.pacing paced) := by
  by_cases passed : durationMs * cyclesPerSec ≤ elapsed * 1000
  · have wrapped : ¬ elapsed + gap < 2 ^ 32 := by
      intro unwrapped
      rw [Nat.mod_eq_of_lt (by omega)] at goes
      omega
    have outside (bursts : List Burst) :
        ¬ InWindow cyclesPerSec durationMs gap paced bursts elapsed :=
      fun inside => wrapped ((passed_window passed paced bursts).mp inside).1
    exact ⟨iff_of_false (outside _) (not_not.mpr passed),
      fun burst bursts => iff_of_false (outside _) fun both => both.1 passed⟩
  · have before : elapsed ≠ durationMs * cyclesPerSec / 1000 := by
      intro last
      rw [← last, Nat.mod_eq_of_lt (by omega)] at goes
      exact Nat.lt_irrefl elapsed goes
    simp [InWindow, passed, before]

/-- A loop that has gone on and stopped in time, with a true report behind it. -/
structure LoopOnTime (cyclesPerSec durationMs start gap : Nat) (loop : LoopEnd) : Prop where
  going : ∀ test ∈ loop.continued, ¬ Passed cyclesPerSec durationMs start test
  stopping : ∀ stop, loop.stopped = some stop → Passed cyclesPerSec durationMs start stop ∧
    (stop + gap - start) % 2 ^ 32 * 1000 / cyclesPerSec % 2 ^ 32 =
      (stop + gap - start) * 1000 / cyclesPerSec

/-- A loop test that ends the loop is on time when the duration has passed and the last
reading comes before the wrap. -/
theorem stopping_window (positive : 0 < cyclesPerSec) (fast : cyclesPerSec ≤ 100000000)
    {elapsed : Nat} (stops : ¬ elapsed % 2 ^ 32 < durationMs * cyclesPerSec / 1000)
    (paced : Bool) (bursts : List Burst) (tally : Tally) :
    LoopOnTime cyclesPerSec durationMs start gap ⟨[], some (start + elapsed), tally⟩ ↔
      InWindow cyclesPerSec durationMs gap paced bursts elapsed := by
  have since : start + elapsed - start = elapsed := Nat.add_sub_cancel_left start elapsed
  have read : start + elapsed + gap - start = elapsed + gap := by omega
  have timely : LoopOnTime cyclesPerSec durationMs start gap
      ⟨[], some (start + elapsed), tally⟩ ↔ durationMs * cyclesPerSec ≤ elapsed * 1000 ∧
        elapsed + gap < 2 ^ 32 ∧ (elapsed + gap) * 1000 / cyclesPerSec < 2 ^ 32 := by
    rw [← reported_exactly positive fast]
    constructor
    · intro timely
      have stopped := timely.stopping _ rfl
      rwa [Passed, since, read] at stopped
    · intro stopped
      refine ⟨fun _ member => absurd member List.not_mem_nil, ?_⟩
      rintro _ ⟨⟩
      rwa [Passed, since, read]
  rw [timely]
  by_cases passed : durationMs * cyclesPerSec ≤ elapsed * 1000
  · rw [passed_window passed, and_iff_right passed]
  · -- The counter is at the cycle in which the duration ends.
    have last : elapsed = durationMs * cyclesPerSec / 1000 := by
      have cut := Nat.mod_le elapsed (2 ^ 32)
      omega
    cases bursts <;> simp [InWindow, passed, ← last]

/-- The loop is defined, and it is on time exactly in the window. Induction over the
bursts, from a loop test at any time. -/
theorem loop_on_time (start gap : Nat) (positive : 0 < cyclesPerSec)
    (fast : cyclesPerSec ≤ 100000000)
    (window : durationMs * cyclesPerSec / 1000 < 2 ^ 32) (slow : delay ≤ txBenchMaxDelayUs)
    (payload : payloadLen ≤ txBenchMaxPayload) {bursts : List Burst}
    (few : ∀ burst ∈ bursts, burst.ret ≤ txBenchBurstCount) (elapsed : Nat) (tally : Tally) :
    ∃ loop, benchLoop (durationMs * cyclesPerSec / 1000) (kCycleGet32 start) delay payloadLen
        bursts (start + elapsed) tally = some loop ∧
      (LoopOnTime cyclesPerSec durationMs start gap loop ↔
        InWindow cyclesPerSec durationMs gap (delay ≠ 0) bursts elapsed) ∧
      ∀ stop, loop.stopped = some stop → start ≤ stop := by
  have since : start + elapsed - start = elapsed := Nat.add_sub_cancel_left start elapsed
  induction bursts generalizing elapsed tally with
  | nil =>
    rw [benchLoop, elapsed_wraps]
    by_cases goes : elapsed % 2 ^ 32 < durationMs * cyclesPerSec / 1000
    · refine ⟨_, if_pos goes, ?_, by rintro _ ⟨⟩⟩
      rw [(going_window window goes _).1]
      constructor
      · intro timely
        have before := timely.going _ List.mem_cons_self
        rwa [Passed, since] at before
      · intro before
        refine ⟨fun test member => ?_, by rintro _ ⟨⟩⟩
        obtain rfl := List.mem_singleton.mp member
        rwa [Passed, since]
    · refine ⟨_, if_neg goes, stopping_window positive fast goes _ _ _, ?_⟩
      rintro _ ⟨⟩
      exact Nat.le_add_right start elapsed
  | cons burst bursts inductionHypothesis =>
    rw [benchLoop, elapsed_wraps]
    by_cases goes : elapsed % 2 ^ 32 < durationMs * cyclesPerSec / 1000
    · obtain ⟨counted, counts⟩ := record_defined payload tally (few burst List.mem_cons_self)
      have paces := pace_defined slow (few burst List.mem_cons_self)
      have fewer : ∀ other ∈ bursts, other.ret ≤ txBenchBurstCount :=
        fun other member => few other (List.mem_cons_of_mem _ member)
      obtain ⟨later, goes_on, timely_later, after⟩ := inductionHypothesis fewer
        (elapsed + burst.cycles + burst.pacing (delay ≠ 0)) counted (Nat.add_sub_cancel_left _ _)
      have next : start + (elapsed + burst.cycles + burst.pacing (delay ≠ 0)) =
          start + elapsed + burst.cycles + burst.pacing (delay ≠ 0) := by omega
      rw [next] at goes_on
      refine ⟨{ later with continued := (start + elapsed) :: later.continued }, ?_, ?_, after⟩
      · rw [if_pos goes]
        simp only [Option.bind_eq_bind, counts, paces, Option.bind_some, goes_on]
      · rw [(going_window window goes _).2, ← timely_later]
        constructor
        · intro timely
          have before := timely.going _ List.mem_cons_self
          rw [Passed, since] at before
          exact ⟨before, fun test member => timely.going test (List.mem_cons_of_mem _ member),
            timely.stopping⟩
        · rintro ⟨before, timely⟩
          refine ⟨fun test member => ?_, timely.stopping⟩
          rcases List.mem_cons.mp member with rfl | other
          · rwa [Passed, since]
          · exact timely.going test other
    · refine ⟨_, if_neg goes, stopping_window positive fast goes _ _ _, ?_⟩
      rintro _ ⟨⟩
      exact Nat.le_add_right start elapsed

/-- A measurement is on time exactly in the window: the loop ends at the first test behind the
duration, and the report's time is true, if no difference wraps. -/
theorem measure_on_time (positive : 0 < cyclesPerSec) (fast : cyclesPerSec ≤ 100000000)
    {args : BenchArgs} (duration : args.durationMs ≤ txBenchMaxDurationMs)
    (payload : args.payloadLen ≤ txBenchMaxPayload) (delayed : delayUs args = some delay)
    (slow : delay ≤ txBenchMaxDelayUs) {bursts : List Burst}
    (few : ∀ burst ∈ bursts, burst.ret ≤ txBenchBurstCount) (first : Nat) :
    (∃ reply, measure cyclesPerSec args true start first bursts gap = some reply ∧
        OnTime cyclesPerSec args.durationMs start gap reply) ↔
      InWindow cyclesPerSec args.durationMs gap (delay ≠ 0) bursts first := by
  unfold txBenchMaxDurationMs at duration
  have bounded : args.durationMs * cyclesPerSec ≤ 30000 * 100000000 :=
    Nat.mul_le_mul duration fast
  have window : args.durationMs * cyclesPerSec / 1000 < 2 ^ 32 := by omega
  have product : mul 64 args.durationMs cyclesPerSec = some (args.durationMs * cyclesPerSec) :=
    mul_fits (by omega)
  have quotient : div (args.durationMs * cyclesPerSec) 1000 =
      some (args.durationMs * cyclesPerSec / 1000) := div_positive (by decide)
  obtain ⟨loop, looped, timely, after⟩ := loop_on_time start gap positive fast window
    slow payload few first ⟨0, 0, 0, 0, 0⟩
  rw [← timely, measure, delayed]
  simp only [Option.bind_eq_bind, Option.bind_some, product, quotient, Nat.mod_eq_of_lt window]
    at looped ⊢
  rw [if_neg (by decide), looped, Option.bind_some]
  cases ended : loop.stopped with
  | none =>
    constructor
    · rintro ⟨reply, replied, punctual⟩
      obtain rfl := Option.some.inj replied
      exact ⟨punctual, by simp [ended]⟩
    · exact fun punctual => ⟨_, rfl, punctual.going⟩
  | some stop =>
    have later := after stop ended
    have since : Word32.sub (kCycleGet32 (stop + gap)) (kCycleGet32 start) =
        (stop + gap - start) % 2 ^ 32 := by
      rw [← elapsed_wraps, show start + (stop + gap - start) = stop + gap by omega]
    have small : (stop + gap - start) % 2 ^ 32 < 2 ^ 32 := Nat.mod_lt _ (by decide)
    have scaled : mul 64 ((stop + gap - start) % 2 ^ 32) 1000 =
        some ((stop + gap - start) % 2 ^ 32 * 1000) := mul_fits (by omega)
    simp only [since, scaled, Option.bind_some, div_positive positive]
    constructor
    · rintro ⟨reply, replied, punctual⟩
      obtain rfl := Option.some.inj replied
      refine ⟨punctual.1, fun other same => ?_⟩
      obtain rfl := Option.some.inj (ended.symm.trans same)
      exact punctual.2
    · intro punctual
      exact ⟨_, rfl, punctual.going, punctual.stopping stop ended⟩

end Loop

/-- For every frequency up to 100 MHz, argument string, time of the first loop test and sequence
of bursts, the benchmark has a result, stops on time and reports the real time exactly when no
loop test falls in the cycle in which the duration ends (unless both end together), and the loop
test behind the duration and the last reading come before the counter and the milliseconds wrap.

Proof: the limits of the arguments give the delay and keep the sums of a turn small. With a peer,
the loop is followed test by test until the one behind the duration, which either falls into the
window or is on time. -/
theorem tx_bench_on_time (cyclesPerSec overhead : Nat) (args : Option (List Byte))
    (resolved : Bool) (start first : Nat) (bursts : List Burst) (gap : Nat)
    (positive : 0 < cyclesPerSec) (fast : cyclesPerSec ≤ 100000000)
    (allowed : ∀ delay, delayUs (clampArgs (readArgs args)) = some delay →
      ∀ burst ∈ bursts, burst.Allowed cyclesPerSec overhead delay) :
    (∃ reply, runTxBench cyclesPerSec args resolved start first bursts gap = some reply ∧
        OnTime cyclesPerSec (clampArgs (readArgs args)).durationMs start gap reply) ↔
      resolved = false ∨ InWindow cyclesPerSec (clampArgs (readArgs args)).durationMs gap
        ((clampArgs (readArgs args)).rateMbpsX1000 ≠ 0) bursts first := by
  unfold runTxBench
  obtain ⟨duration, payload, rate⟩ := clamp_limits (readArgs args)
  have read := read_rate args
  rw [← rate] at read
  generalize clampArgs (readArgs args) = clamped at *
  obtain ⟨delay, delayed, slow, paced⟩ := delay_defined payload read
  have few : ∀ burst ∈ bursts, burst.ret ≤ txBenchBurstCount :=
    fun burst member => (allowed delay delayed burst member).few
  cases resolved with
  | false => simp [measure, delayed, OnTime]
  | true =>
    rw [measure_on_time positive fast duration payload delayed slow few first]
    simp [paced]

/-- The arguments "1": a duration of one millisecond, and the defaults for everything behind it. -/
def shortArgs : List Byte := [49#8]

/-- The arguments "30000 1472 13": the longest duration, and 0.9 s for each packet. -/
def slowArgs : List Byte :=
  [51#8, 48#8, 48#8, 48#8, 48#8, 32#8, 49#8, 52#8, 55#8, 50#8, 32#8, 49#8, 51#8]

/-- A burst of 2 ms without pacing ends a benchmark of 1 ms on time. -/
theorem tx_bench_on_time_short :
    ∃ reply,
      runTxBench 100000000 (some shortArgs) true 7 3 [⟨32, 0, 200000, 0⟩] 50 = some reply ∧
      OnTime 100000000 (clampArgs (readArgs (some shortArgs))).durationMs 7 50 reply := by
  have read : clampArgs (readArgs (some shortArgs)) = ⟨1, 1472, 0, 5003⟩ := by decide
  refine (tx_bench_on_time 100000000 0 (some shortArgs) true 7 3 _ 50 (by decide) (by decide)
    ?_).mpr (.inr ?_)
  · rw [read]
    rintro delay ⟨⟩ burst member
    obtain rfl := List.mem_singleton.mp member
    exact ⟨by decide, by decide, by decide, by decide⟩
  · rw [read]
    simp [InWindow, Burst.pacing]

/-- Four paced bursts of 29 s: the counter wraps in the second, and the loop goes on until
the fourth has ended, behind 116 s. -/
theorem tx_bench_overruns :
    ¬ ∀ (cyclesPerSec overhead : Nat) (args : Option (List Byte)) (resolved : Bool)
      (start first : Nat) (bursts : List Burst) (gap : Nat), 0 < cyclesPerSec →
      cyclesPerSec ≤ 100000000 →
      (∀ delay, delayUs (clampArgs (readArgs args)) = some delay →
        ∀ burst ∈ bursts, burst.Allowed cyclesPerSec overhead delay) →
      ∃ reply, runTxBench cyclesPerSec args resolved start first bursts gap = some reply ∧
        OnTime cyclesPerSec (clampArgs (readArgs args)).durationMs start gap reply := by
  intro claimed
  have read : clampArgs (readArgs (some slowArgs)) = ⟨30000, 1472, 13, 5003⟩ := by decide
  obtain ⟨reply, replied, punctual⟩ := claimed 100000000 0 (some slowArgs) true 0 0
    (List.replicate 4 ⟨32, 0, 100000, 2898707200⟩) 0 (by decide) (by decide) (by
      rw [read]
      rintro delay ⟨⟩ burst member
      obtain rfl := List.eq_of_mem_replicate member
      exact ⟨by decide, by decide, by decide, by decide⟩)
  have ran : runTxBench 100000000 (some slowArgs) true 0 0
      (List.replicate 4 ⟨32, 0, 100000, 2898707200⟩) 0 =
      some (.report ⟨[0, 2898807200, 5797614400, 8696421600], some 11595228800,
        ⟨128, 188416, 0, 32, 0⟩⟩ 11595228800 30052) := by decide +kernel
  obtain rfl := Option.some.inj (ran.symm.trans replied)
  exact punctual.1 5797614400 (by decide) (by rw [read, Passed]; decide)

end EmaczZephyr.Application
