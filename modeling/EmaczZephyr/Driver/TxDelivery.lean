import EmaczZephyr.Driver.TxFidelity
import EmaczZephyr.Rtl.StoreForward

/-!
# From the send calls to the MAC

The transmit path as one system: the direct-mode sends and their ring, the MM2S channel,
and the store-and-forward buffer `u_tx_sf` in front of the MAC. The steps of the driver and
the edges of the clock come in any order, and at an edge the channel may present its next
beat and the MAC may be ready.

The channel reads a frame when it takes the descriptor, and hands the bytes over later. What
it has read and not handed over is outgoing.
-/

namespace EmaczZephyr.Driver

open Runs Framing Rtl

/-- `u_tx_sf` with the sizes that the wrapper instantiates it with: 2^12 bytes of data and 2^4
frames. -/
def txSf : StoreForwardConfig := ⟨12, 4, Nat.succ_pos 11, Nat.succ_pos 3⟩

/-- The beats of a frame: `tlast` marks its last byte. -/
def frameWords : EthFrame → List FifoWord
  | [] => []
  | [byte] => [⟨true, byte⟩]
  | byte :: next :: rest => ⟨false, byte⟩ :: frameWords (next :: rest)

/-- The driver's transmit ring with its engine, the beats that are on the way to the wrapper, and
the wrapper's buffer. -/
structure TransmitSystem where
  driver : TxSystem
  outgoing : List FifoWord
  bench : StoreForwardBench

/-- What happens next in the whole transmit path: a step of driver or engine, or a clock edge of
the wrapper. -/
inductive TransmitLabel where
  | driver (label : TxLabel)
  | clock (presents ready : Bool)
deriving DecidableEq

/-- The inputs of `u_tx_sf` at an edge: the first outgoing beat, when it is presented, and the
readiness of the MAC. -/
def txSfInput (outgoing : List FifoWord) (presents ready : Bool) : StoreForwardInput :=
  ⟨outgoing.headD ⟨false, 0#8⟩, presents && !outgoing.isEmpty, ready⟩

/-- One step of the driver or its engine, or one clock edge of the buffer. -/
def transmitStep (cfg : TxConfig) (system : TransmitSystem) :
    TransmitLabel → Option TransmitSystem
  | .driver label => (txStep cfg system.driver label).map fun driver =>
      { system with
        driver := driver
        outgoing := system.outgoing ++
          (driver.emitted.drop system.driver.emitted.length).flatMap frameWords }
  | .clock presents ready =>
      let input := txSfInput system.outgoing presents ready
      some { system with
        outgoing :=
          if system.bench.buffer.fifoWrEn txSf input then system.outgoing.tail
          else system.outgoing
        bench := system.bench.cycle txSf input }

/-- Both ends before the first frame: the ring as the driver starts it, and the buffer in reset. -/
def transmitInitial (memory : BitVec 32 → EthFrame) (mem : Nat → FifoWord) : TransmitSystem :=
  ⟨txInitial memory, [], ⟨.reset mem, [], []⟩⟩

/-- No single send fills the buffer of an unfinished burst. -/
def TransmitSpares (system : TransmitSystem) : TransmitLabel → Prop
  | .driver label => SparesBurstBuffer system.driver label
  | .clock _ _ => True

/-- The frames that the calls have accepted, in the order in which they took the lock. -/
def acceptedFrames (system : TxSystem) : List EthFrame :=
  system.log.flatMap acceptedBy ++ published system.current

/-- The frames that the MAC has been given whole, as bytes. -/
def macFrames (system : TransmitSystem) : List EthFrame :=
  (frames FifoWord.tlast system.bench.emitted).complete.map (List.map FifoWord.tdata)

/-- What the MAC sees of the calls: the accepted frames in order, whole and unchanged, with no
gap inside a frame. -/
structure Transmitted (system : TransmitSystem) : Prop where
  /-- It gets the accepted frames in order, byte for byte, -/
  order : system.bench.emitted <+: (acceptedFrames system.driver).flatMap frameWords
  whole : macFrames system <+: acceptedFrames system.driver
  /-- with no gap inside a frame; -/
  flows : (frames FifoWord.tlast system.bench.emitted).unfinished ≠ [] →
    system.bench.buffer.mAxisTvalid txSf = true
  /-- the channel and the MAC do not both wait; -/
  live : system.bench.buffer.sAxisTready txSf = true ∨
    system.bench.buffer.mAxisTvalid txSf = true
  /-- and when the channel is idle and nothing is offered, it has got all of them. -/
  drained : system.driver.engine.running = false → system.outgoing = [] →
    system.bench.buffer.mAxisTvalid txSf = false →
      macFrames system = acceptedFrames system.driver

/-- The beats of a frame carry its bytes in order. -/
theorem frame_words_bytes (frame : EthFrame) :
    (frameWords frame).map FifoWord.tdata = frame := by
  induction frame using frameWords.induct with
  | case1 => rfl
  | case2 byte => rfl
  | case3 byte next rest inductionHypothesis =>
    rw [frameWords, List.map_cons, inductionHypothesis]

/-- The beats of a frame that is not empty end with their only last one. -/
theorem frame_words_delimited (frame : EthFrame) (some_byte : 0 < frame.length) :
    Delimited FifoWord.tlast (frameWords frame) := by
  induction frame using frameWords.induct with
  | case1 => exact absurd some_byte (Nat.lt_irrefl 0)
  | case2 byte => exact ⟨[], ⟨true, byte⟩, rfl, rfl, fun _ none => absurd none List.not_mem_nil⟩
  | case3 byte next rest inductionHypothesis =>
    have later := inductionHypothesis (Nat.succ_pos _)
    have unmarked : ∀ item ∈ [(⟨false, byte⟩ : FifoWord)], item.tlast = false := by
      intro item first
      rw [List.mem_singleton.mp first]
    exact later.extend unmarked

/-- The beats of frames that are not empty make these frames again, with no unfinished one
behind. -/
theorem words_make_frames {sent : List EthFrame} (valid : ∀ frame ∈ sent, 0 < frame.length) :
    frames FifoWord.tlast (sent.flatMap frameWords) = ⟨sent.map frameWords, []⟩ := by
  rw [List.flatMap_def]
  apply frames_whole
  intro words member
  obtain ⟨frame, inside, rfl⟩ := List.mem_map.mp member
  exact frame_words_delimited frame (valid frame inside)

/-- The beats of frames carry the bytes of these frames, frame by frame. -/
theorem words_bytes (sent : List EthFrame) :
    (sent.map frameWords).map (List.map FifoWord.tdata) = sent := by
  rw [List.map_map]
  apply List.map_id''
  exact frame_words_bytes

/-- A frame of at least one byte that fits a packet buffer. -/
def ValidFrame (cfg : TxConfig) (frame : EthFrame) : Prop :=
  0 < frame.length ∧ frame.length ≤ cfg.ethBufferSize

section Driver

variable {cfg : TxConfig} {system after : TxSystem}

/-- A call that passed the checks of the driver has a valid frame: not empty, and within a
buffer. -/
theorem valid_call {call : TxCall} (valid : call.early cfg = none) :
    ValidFrame cfg call.frame := by
  unfold TxCall.early at valid
  split at valid
  · cases valid
  · rename_i passed
    constructor
    · omega
    · omega

/-- A call contributes nothing to the accepted frames but its own frame, however often. -/
theorem accepted_own (call : TxCall) (result : Int) :
    ∀ frame ∈ acceptedBy (call, result), frame = call.frame := by
  intro frame member
  cases call with
  | emaczeroProfileSendRawFrameBurst other count => exact List.eq_of_mem_replicate member
  | emzSend packet fails =>
    simp only [acceptedBy] at member
    split at member
    · exact List.mem_singleton.mp member
    · cases member
  | emaczeroSendRawFrame other =>
    simp only [acceptedBy] at member
    split at member
    · exact List.mem_singleton.mp member
    · cases member

/-- A step of the lock's holder emits nothing, and returns from that call or from none. -/
theorem advance_history (cfg : TxConfig) (system : TxSystem) (call : TxCall) (point : TxPoint) :
    (txAdvance cfg system call point).emitted = system.emitted ∧
      ((txAdvance cfg system call point).log = system.log ∨
        ∃ result, (txAdvance cfg system call point).log = system.log ++ [(call, result)]) := by
  cases point with
  | reclaim waited =>
    simp only [txAdvance, emzTxDirectReclaim]
    split
    · rename_i reclaimed found
      split at found
      · rw [← Option.some.inj found]
        exact ⟨rfl, .inl rfl⟩
      · cases found
    · exact ⟨rfl, .inl rfl⟩
  | check waited =>
    simp only [txAdvance]
    split
    · split
      · exact ⟨rfl, .inr ⟨_, rfl⟩⟩
      · exact ⟨rfl, .inl rfl⟩
    · exact ⟨rfl, .inl rfl⟩
  | fill descriptor =>
    cases call with
    | emzSend packet fails =>
      cases fails with
      | none => exact ⟨rfl, .inl rfl⟩
      | some written => exact ⟨rfl, .inr ⟨_, rfl⟩⟩
    | emaczeroSendRawFrame frame => exact ⟨rfl, .inl rfl⟩
    | emaczeroProfileSendRawFrameBurst frame count => exact ⟨rfl, .inl rfl⟩
  | setup =>
    simp only [txAdvance]
    split
    · exact ⟨rfl, .inr ⟨_, rfl⟩⟩
    · exact ⟨rfl, .inl rfl⟩
  | tail descriptor => exact ⟨rfl, .inl rfl⟩
  | account descriptor => exact ⟨rfl, .inr ⟨0, rfl⟩⟩
  | burst first last queued =>
    cases call with
    | emzSend packet fails => exact ⟨rfl, .inl rfl⟩
    | emaczeroSendRawFrame frame => exact ⟨rfl, .inl rfl⟩
    | emaczeroProfileSendRawFrameBurst frame count =>
      simp only [txAdvance]
      split
      · exact ⟨rfl, .inl rfl⟩
      · exact ⟨rfl, .inl rfl⟩
  | burstReturn queued => exact ⟨rfl, .inr ⟨queued, rfl⟩⟩

/-- The frames of the calls that returned are valid, so every frame on the wire has a last byte. -/
def LogValid (cfg : TxConfig) (system : TxSystem) : Prop :=
  ∀ frame ∈ system.log.flatMap acceptedBy, ValidFrame cfg frame

/-- Every step keeps the returned frames valid: the call in progress passed the checks. -/
theorem log_valid_step {label : TxLabel} (valid : LogValid cfg system)
    (invariant : TxInvariant cfg system) (taken : txStep cfg system label = some after) :
    LogValid cfg after := by
  cases label with
  | call call =>
    simp only [txStep] at taken
    split at taken
    · rename_i result early
      obtain rfl := Option.some.inj taken
      intro frame member
      rw [List.flatMap_append, List.flatMap_singleton, early_accepted early,
        List.append_nil] at member
      exact valid frame member
    · split at taken
      · obtain rfl := Option.some.inj taken
        exact valid
      · cases taken
  | advance =>
    simp only [txStep] at taken
    split at taken
    · rename_i call point current
      obtain rfl := Option.some.inj taken
      obtain ⟨done, queue, window⟩ := invariant
      have passed := (window.valid call point current).1
      obtain ⟨-, same | ⟨result, more⟩⟩ :=
        advance_history cfg system call point
      · intro frame member
        rw [same] at member
        exact valid frame member
      · intro frame member
        rw [more, List.flatMap_append, List.flatMap_singleton] at member
        rcases List.mem_append.mp member with earlier | last
        · exact valid frame earlier
        · rw [accepted_own call result frame last]
          exact valid_call passed
    · cases taken
  | engine status =>
    simp only [txStep, mm2sTake] at taken
    split at taken
    · obtain rfl := Option.some.inj taken
      exact valid
    · cases taken

/-- All accepted frames are valid, and the engine has emitted the first of them. -/
theorem accepted_valid (valid : LogValid cfg system) (invariant : TxInvariant cfg system) :
    ∀ frame ∈ acceptedFrames system, ValidFrame cfg frame := by
  obtain ⟨done, queue, window⟩ := invariant
  intro frame member
  rcases List.mem_append.mp member with returned | reported
  · exact valid frame returned
  · cases current : system.current with
    | none =>
      rw [current] at reported
      cases reported
    | some holder =>
      obtain ⟨call, point⟩ := holder
      have passed := (window.valid call point current).1
      have own : frame = call.frame := by
        rw [current] at reported
        cases point with
        | account descriptor => exact List.mem_singleton.mp reported
        | burstReturn queued => exact List.eq_of_mem_replicate reported
        | reclaim _ | check _ | fill _ | setup | tail _ | burst _ _ _ => cases reported
      rw [own]
      exact valid_call passed

/-- An idle engine has emitted all accepted frames, because it stops only at its tail. -/
theorem idle_emitted (invariant : TxInvariant cfg system)
    (idle : system.engine.running = false) : system.emitted = acceptedFrames system := by
  obtain ⟨done, queue, window⟩ := invariant
  have running := window.running
  rw [idle] at running
  have none_left : queue = [] := by simpa using running.symm
  have order := window.order
  rw [none_left, List.append_nil] at order
  exact order

/-- The engine only adds to what it has emitted, whatever step is taken, so frames on the wire
stay as they are. -/
theorem emitted_extends {label : TxLabel} (taken : txStep cfg system label = some after) :
    system.emitted <+: after.emitted := by
  cases label with
  | call call =>
    simp only [txStep] at taken
    split at taken
    · rewrite [← Option.some.inj taken]
      exact List.prefix_rfl
    · split at taken
      · rewrite [← Option.some.inj taken]
        exact List.prefix_rfl
      · cases taken
  | advance =>
    simp only [txStep] at taken
    split at taken
    · rename_i call point current
      rewrite [← Option.some.inj taken, (advance_history cfg system call point).1]
      exact List.prefix_rfl
    · cases taken
  | engine status =>
    simp only [txStep, mm2sTake] at taken
    split at taken
    · rw [← Option.some.inj taken]
      exact List.prefix_append _ _
    · cases taken

end Driver

/-- The ring, the words between the engine and the buffer, and the buffer. -/
structure TransmitInvariant (cfg : TxConfig) (system : TransmitSystem) : Prop where
  ring : TxInvariant cfg system.driver
  valid : LogValid cfg system.driver
  buffer : StoreForwardInvariant txSf system.bench
  words : system.bench.accepted ++ system.outgoing =
    system.driver.emitted.flatMap frameWords

section Steps

variable {cfg : TxConfig} {system after : TransmitSystem}

/-- Both ends begin with nothing on the way, and the invariant holds. -/
theorem transmit_initial (cfg : TxConfig) (memory : BitVec 32 → EthFrame)
    (mem : Nat → FifoWord) : TransmitInvariant cfg (transmitInitial memory mem) := by
  constructor
  · exact initial_tx cfg memory
  · exact fun _ none => absurd none List.not_mem_nil
  · exact store_forward_reset txSf mem
  · rfl

/-- What an edge accepts is the first outgoing beat, or nothing; in front of the buffer no beat
is lost or doubled. -/
theorem clock_words (outgoing : List FifoWord) (bench : StoreForwardBench)
    (presents ready : Bool) :
    let input := txSfInput outgoing presents ready
    (bench.cycle txSf input).accepted ++
        (if bench.buffer.fifoWrEn txSf input then outgoing.tail else outgoing) =
      bench.accepted ++ outgoing := by
  intro input
  cases writes : bench.buffer.fifoWrEn txSf input with
  | false => simp [StoreForwardBench.cycle, writes]
  | true =>
    have valid : input.sAxisTvalid = true := (Bool.and_eq_true_iff.mp writes).1
    cases outgoing with
    | nil => simp [input, txSfInput] at valid
    | cons word rest =>
      rw [StoreForwardBench.cycle, writes, if_pos rfl, if_pos rfl, List.append_assoc]
      rfl

/-- Every admitted step keeps the invariant: driver and engine by the theorem on the ring, an
edge by the one on the buffer. -/
theorem transmit_step_invariant {label : TransmitLabel}
    (invariant : TransmitInvariant cfg system) (spares : TransmitSpares system label)
    (taken : transmitStep cfg system label = some after) : TransmitInvariant cfg after := by
  cases label with
  | driver label =>
    obtain ⟨driver, stepped, rfl⟩ := Option.map_eq_some_iff.mp taken
    constructor
    · exact tx_step_invariant invariant.ring spares stepped
    · exact log_valid_step invariant.valid invariant.ring stepped
    · exact invariant.buffer
    · obtain ⟨more, longer⟩ := emitted_extends stepped
      rw [← longer, List.drop_left, List.flatMap_append, ← invariant.words,
        List.append_assoc]
  | clock presents ready =>
    obtain rfl := Option.some.inj taken
    constructor
    · exact invariant.ring
    · exact invariant.valid
    · exact store_forward_cycle invariant.buffer _
    · exact (clock_words system.outgoing system.bench presents ready).trans invariant.words

/-- What has passed the buffer, what it holds and what is outgoing are the emitted frames. -/
theorem TransmitInvariant.account (invariant : TransmitInvariant cfg system) :
    system.bench.emitted ++ (system.bench.buffer.contents txSf ++ system.outgoing) =
      system.driver.emitted.flatMap frameWords := by
  rw [← List.append_assoc, ← invariant.buffer.conserved]
  exact invariant.words

/-- The frames that the engine emitted are valid, because they are among the accepted ones. -/
theorem TransmitInvariant.emitted_valid (invariant : TransmitInvariant cfg system) :
    ∀ frame ∈ system.driver.emitted, ValidFrame cfg frame := by
  intro frame member
  apply accepted_valid invariant.valid invariant.ring
  exact invariant.ring.emits.subset member

/-- The beats that the buffer has accepted are the first of frames that fit it, which is what
its theorem asks for. -/
theorem TransmitInvariant.fits_frames (invariant : TransmitInvariant cfg system)
    (fits : cfg.ethBufferSize ≤ txSf.depth) : FitsFrames txSf system.bench.accepted := by
  refine ⟨system.driver.emitted.map frameWords, ?_, ?_⟩
  · intro words member
    obtain ⟨frame, inside, rfl⟩ := List.mem_map.mp member
    obtain ⟨positive, small⟩ := invariant.emitted_valid frame inside
    have length := congrArg List.length (frame_words_bytes frame)
    rw [List.length_map] at length
    exact ⟨frame_words_delimited frame positive, by omega⟩
  · rw [← List.flatMap_def]
    exact ⟨system.outgoing, invariant.words⟩

/-- The frames that the MAC was given are the first that the engine emitted. -/
theorem TransmitInvariant.mac_emitted (invariant : TransmitInvariant cfg system) :
    macFrames system <+: system.driver.emitted := by
  have first : system.bench.emitted <+:
      (system.driver.emitted.map frameWords).flatten := by
    rw [← List.flatMap_def]
    exact ⟨_, invariant.account⟩
  have whole := (complete_part (fun words member => by
    obtain ⟨frame, inside, rfl⟩ := List.mem_map.mp member
    exact frame_words_delimited frame (invariant.emitted_valid frame inside).1) first).map
      (List.map FifoWord.tdata)
  rw [words_bytes] at whole
  exact whole

/-- With nothing outgoing and nothing offered, the buffer is empty: a frame begun in it has
its last beat there. -/
theorem TransmitInvariant.mac_all (invariant : TransmitInvariant cfg system)
    (none_outgoing : system.outgoing = [])
    (silent : system.bench.buffer.mAxisTvalid txSf = false) :
    macFrames system = system.driver.emitted := by
  have account := invariant.account
  rw [none_outgoing, List.append_nil] at account
  have none_counted : ¬ 0 < system.bench.buffer.framesPendingR := by
    rw [← invariant.buffer.offering, silent]
    exact Bool.false_ne_true
  have closed : (frames FifoWord.tlast system.bench.emitted).unfinished = [] := by
    by_contra begun
    exact none_counted (invariant.buffer.inside begun)
  have unmarked : ∀ word ∈ system.bench.buffer.contents txSf, word.tlast = false := by
    have zero := invariant.buffer.pending
    rw [Nat.eq_zero_of_not_pos none_counted] at zero
    simpa using List.countP_eq_zero.mp zero.symm
  have cut := words_make_frames fun frame member => (invariant.emitted_valid frame member).1
  rw [← account, frames_unmarked _ unmarked] at cut
  have same := congrArg Frames.complete cut
  rw [macFrames, same, words_bytes]

/-- What the invariant says of the MAC, by the theorem on the buffer and the one on the ring,
when a packet buffer is no larger than the wrapper's. -/
theorem TransmitInvariant.transmitted (invariant : TransmitInvariant cfg system)
    (fits : cfg.ethBufferSize ≤ txSf.depth) : Transmitted system := by
  have emits : system.driver.emitted <+: acceptedFrames system.driver := invariant.ring.emits
  constructor
  · obtain ⟨later, longer⟩ := emits
    rw [← longer, List.flatMap_append, ← invariant.account]
    exact (List.prefix_append _ _).trans (List.prefix_append _ _)
  · exact invariant.mac_emitted.trans emits
  · intro begun
    exact invariant.buffer.offering.mpr (invariant.buffer.inside begun)
  · exact invariant.buffer.not_stuck (invariant.fits_frames fits)
  · intro idle none_outgoing silent
    rw [invariant.mac_all none_outgoing silent]
    exact idle_emitted invariant.ring idle

end Steps

/-- In every order of sends, engine steps and clock edges in which no single send fills the
buffer of an unfinished burst, the MAC is given the accepted frames in order and byte for byte,
without a gap inside a frame; channel and MAC do not lock up; and once the channel is idle and
the buffer silent, no accepted frame is missing.

Proof: the invariant is that of the ring, that of the buffer, and that the words accepted and on
their way are those of the emitted frames. A step keeps all of them, and that nothing locks up
needs that each frame fits the buffer. -/
theorem tx_delivery (cfg : TxConfig) (fits : cfg.ethBufferSize ≤ txSf.depth)
    (memory : BitVec 32 → EthFrame) (mem : Nat → FifoWord) (system : TransmitSystem)
    (run : Run (transmitStep cfg) TransmitSpares (transmitInitial memory mem) system) :
    Transmitted system := by
  have invariant : TransmitInvariant cfg system :=
    run.invariant _ (transmit_initial cfg memory mem)
      fun _ _ _ invariant spares taken => transmit_step_invariant invariant spares taken
  exact invariant.transmitted fits

/-- The test of `TransmitSpares`, on the state before the step. -/
def transmitSpares (system : TransmitSystem) : TransmitLabel → Bool
  | .driver label => !fillsBurstBuffer system.driver label
  | .clock _ _ => true

/-- A step that passes the test meets the condition; clock edges always do. -/
theorem transmit_spares (system : TransmitSystem) (label : TransmitLabel)
    (admits : transmitSpares system label = true) : TransmitSpares system label := by
  cases label with
  | driver label => simpa [transmitSpares, TransmitSpares, SparesBurstBuffer] using admits
  | clock presents ready => trivial

/-- A frame of two bytes is sent, read by the engine and passed on to the MAC. -/
def sampleTransmit : List TransmitLabel :=
  (sendLabels [1#8, 2#8] 0).map .driver ++ [.driver takeFrame] ++
    List.replicate 4 (.clock true true)

/-- The theorem over a run with one frame of two bytes, which the MAC is given whole. -/
theorem tx_delivery_one :
    ∃ system, macFrames system = [[1#8, 2#8]] ∧ Transmitted system := by
  obtain ⟨system, run, reached⟩ := run_of_execution (transmitStep packedTxConfig)
    transmitSpares
    (transmitInitial (fun _ => []) fun _ => ⟨false, 0#8⟩) sampleTransmit
    (fun system => decide (macFrames system = [[1#8, 2#8]]))
    transmit_spares (by decide +kernel)
  exact ⟨system, of_decide_eq_true reached, tx_delivery packedTxConfig (by decide)
    (fun _ => []) (fun _ => ⟨false, 0#8⟩) system run⟩

end EmaczZephyr.Driver
