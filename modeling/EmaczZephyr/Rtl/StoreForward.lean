import EmaczZephyr.Foundation.CircularStore
import EmaczZephyr.Foundation.Framing

/-!
# The transmit store-and-forward buffer

`axis_store_forward` with its behavioural FIFO: the beats of whole frames are offered
downstream, counted by the frames whose last beat is in the FIFO. One cycle is one rising
clock edge with the reset released.

Registers of a parameterised width are natural numbers and wrap at that width; the FIFO
pointers have one bit more than an address. The memory is not reset, so it starts with
any content. The two reset-busy wires of this branch are constant zero and left out.
-/

namespace EmaczZephyr.Rtl

open CircularStore Framing

/-- The parameters `DATA_FIFO_ADDR_WIDTH` and `FRAME_COUNT_WIDTH`, both at least one. -/
structure StoreForwardConfig where
  dataFifoAddrWidth : Nat
  frameCountWidth : Nat
  addr_positive : 1 ≤ dataFifoAddrWidth
  count_positive : 1 ≤ frameCountWidth

/-- `DATA_FIFO_DEPTH`, the number of words that the memory has room for. -/
def StoreForwardConfig.depth (cfg : StoreForwardConfig) : Nat := 2 ^ cfg.dataFifoAddrWidth

/-- One word of the FIFO, and one beat of either stream: `{tlast, tdata}`. -/
structure FifoWord where
  tlast : Bool
  tdata : BitVec 8
deriving DecidableEq

/-- The registers and the memory. The pointers have one bit more than an address, by which a full
FIFO differs from an empty one. -/
structure StoreForward where
  framesPendingR : Nat
  framesCommittedR : BitVec 32
  framesDrainedR : BitVec 32
  mem : Nat → FifoWord
  wrPtrR : Nat
  rdPtrR : Nat

/-- The inputs at one edge: the word that is offered and whether the sink takes one. -/
structure StoreForwardInput where
  sAxis : FifoWord
  sAxisTvalid : Bool
  mAxisTready : Bool

namespace StoreForward

variable (cfg : StoreForwardConfig) (buffer : StoreForward) (input : StoreForwardInput)

/-- `fill_level`, the difference of the pointers in their own width. -/
def fillLevel : Nat := (buffer.wrPtrR + (2 * cfg.depth - buffer.rdPtrR)) % (2 * cfg.depth)

/-- The memory has no free word, by the fill level. -/
def fifoFull : Bool := buffer.fillLevel cfg == cfg.depth

/-- The memory holds no word, by the fill level. -/
def fifoEmpty : Bool := buffer.fillLevel cfg == 0

/-- `fifo_dout`, the word at the read pointer, which is also the output beat. -/
def fifoDout : FifoWord := buffer.mem (buffer.rdPtrR % cfg.depth)

/-- The counter of whole frames is at its largest value. -/
def framesPendingFull : Bool := buffer.framesPendingR == 2 ^ cfg.frameCountWidth - 1

/-- At least one whole frame is in the FIFO, by the counter. -/
def framesAvailable : Bool := buffer.framesPendingR != 0

/-- A word is taken while the memory has room and the counter could count one more frame. -/
def sAxisTready : Bool := !buffer.fifoFull cfg && !buffer.framesPendingFull cfg

/-- A word is pushed at this edge. -/
def fifoWrEn : Bool := input.sAxisTvalid && buffer.sAxisTready cfg

/-- A word is offered only while a whole frame is in the FIFO. -/
def mAxisTvalid : Bool := buffer.framesAvailable && !buffer.fifoEmpty cfg

/-- A word is popped at this edge. -/
def fifoRdEn : Bool := buffer.mAxisTvalid cfg && input.mAxisTready

/-- The word pushed at this edge ends a frame. -/
def frameWrCommit : Bool := buffer.fifoWrEn cfg input && input.sAxis.tlast

/-- The word popped at this edge ends a frame. -/
def frameRdRetire : Bool := buffer.fifoRdEn cfg input && (buffer.fifoDout cfg).tlast

/-- `frames_pending_r` behind an edge, with its saturation guards on both sides. -/
def framesPendingNext : Nat :=
  match buffer.frameWrCommit cfg input, buffer.frameRdRetire cfg input with
  | true, false =>
      if buffer.framesPendingFull cfg then buffer.framesPendingR
      else (buffer.framesPendingR + 1) % 2 ^ cfg.frameCountWidth
  | false, true =>
      if buffer.framesAvailable then
        (buffer.framesPendingR + (2 ^ cfg.frameCountWidth - 1)) % 2 ^ cfg.frameCountWidth
      else buffer.framesPendingR
  | _, _ => buffer.framesPendingR

/-- One rising clock edge of the counters, the pointers and the memory. -/
def cycle : StoreForward where
  framesPendingR := buffer.framesPendingNext cfg input
  framesCommittedR :=
    if buffer.frameWrCommit cfg input then buffer.framesCommittedR + 1#32
    else buffer.framesCommittedR
  framesDrainedR :=
    if buffer.frameRdRetire cfg input then buffer.framesDrainedR + 1#32
    else buffer.framesDrainedR
  mem :=
    if buffer.fifoWrEn cfg input then
      Function.update buffer.mem (buffer.wrPtrR % cfg.depth) input.sAxis
    else buffer.mem
  wrPtrR :=
    if buffer.fifoWrEn cfg input then (buffer.wrPtrR + 1) % (2 * cfg.depth) else buffer.wrPtrR
  rdPtrR :=
    if buffer.fifoRdEn cfg input then (buffer.rdPtrR + 1) % (2 * cfg.depth) else buffer.rdPtrR

/-- The registers behind a reset, with any content of the memory. -/
def reset (mem : Nat → FifoWord) : StoreForward := ⟨0, 0#32, 0#32, mem, 0, 0⟩

/-- The words in the FIFO, the oldest first. -/
def contents : List FifoWord :=
  stored cfg.depth buffer.mem (buffer.rdPtrR % cfg.depth) (buffer.fillLevel cfg)

end StoreForward

/-- The buffer with the beats handshaked at its input and at its output. -/
structure StoreForwardBench where
  buffer : StoreForward
  accepted : List FifoWord
  emitted : List FifoWord

/-- One edge, recording the handshakes made at it on both sides. -/
def StoreForwardBench.cycle (cfg : StoreForwardConfig) (bench : StoreForwardBench)
    (input : StoreForwardInput) : StoreForwardBench where
  buffer := bench.buffer.cycle cfg input
  accepted := bench.accepted ++ if bench.buffer.fifoWrEn cfg input then [input.sAxis] else []
  emitted := bench.emitted ++
    if bench.buffer.fifoRdEn cfg input then [bench.buffer.fifoDout cfg] else []

/-- Any number of edges behind a reset, with nothing recorded at first. -/
def StoreForwardBench.run (cfg : StoreForwardConfig) (mem : Nat → FifoWord)
    (inputs : List StoreForwardInput) : StoreForwardBench :=
  inputs.foldl (StoreForwardBench.cycle cfg) ⟨.reset mem, [], []⟩

/-- A beat stream that is the first part of frames which fit the FIFO. -/
def FitsFrames (cfg : StoreForwardConfig) (beats : List FifoWord) : Prop :=
  ∃ whole : List (List FifoWord),
    (∀ frame ∈ whole, Delimited FifoWord.tlast frame ∧ frame.length ≤ cfg.depth) ∧
      beats <+: whole.flatten

/-- A list of words starts with a whole frame. -/
def StartsWithFrame (beats : List FifoWord) : Prop :=
  ∃ frame rest, beats = frame ++ rest ∧ Delimited FifoWord.tlast frame

/-- What a bench shows at any time: the counter is exact and never saturates, whole frames come
out without a gap, and the buffer does not lock up. -/
structure StoreForwardCorrect (cfg : StoreForwardConfig) (bench : StoreForwardBench) : Prop where
  /-- The counter is the number of last beats in the FIFO. -/
  pending : bench.buffer.framesPendingR = (bench.buffer.contents cfg).countP FifoWord.tlast
  /-- The saturation guards do not act. -/
  unsaturated : ∀ input,
    (bench.buffer.frameWrCommit cfg input = true → bench.buffer.framesPendingFull cfg = false) ∧
      (bench.buffer.frameRdRetire cfg input = true → bench.buffer.framesAvailable = true)
  /-- What was accepted was emitted, in order, or is in the FIFO. -/
  conserved : bench.accepted = bench.emitted ++ bench.buffer.contents cfg
  output : bench.emitted <+: bench.accepted
  /-- While the output offers a beat, the rest of its frame is in the FIFO. -/
  whole : bench.buffer.mAxisTvalid cfg = true → ∃ frame rest,
    bench.buffer.contents cfg = frame ++ rest ∧
      Delimited FifoWord.tlast ((frames FifoWord.tlast bench.emitted).unfinished ++ frame)
  /-- The output starts to offer beats only with a whole frame in the FIFO. -/
  rises : ∀ input, bench.buffer.mAxisTvalid cfg = false →
    (bench.buffer.cycle cfg input).mAxisTvalid cfg = true →
      (frames FifoWord.tlast bench.emitted).unfinished = [] ∧
        StartsWithFrame ((bench.buffer.cycle cfg input).contents cfg)
  /-- It offers beats until the last beat of the frame is accepted, -/
  offers : ∀ input, bench.buffer.mAxisTvalid cfg = true →
    (input.mAxisTready && (bench.buffer.fifoDout cfg).tlast) = false →
      (bench.buffer.cycle cfg input).mAxisTvalid cfg = true
  /-- and never stops inside one. -/
  inside : (frames FifoWord.tlast bench.emitted).unfinished ≠ [] →
    bench.buffer.mAxisTvalid cfg = true
  /-- A refused beat stays. -/
  stable : ∀ input, bench.buffer.mAxisTvalid cfg = true → input.mAxisTready = false →
    (bench.buffer.cycle cfg input).fifoDout cfg = bench.buffer.fifoDout cfg
  /-- No deadlock, where every frame fits the FIFO. -/
  live : FitsFrames cfg bench.accepted →
    bench.buffer.sAxisTready cfg = true ∨ bench.buffer.mAxisTvalid cfg = true
  committed : bench.buffer.framesCommittedR =
    BitVec.ofNat 32 (bench.accepted.countP FifoWord.tlast)
  drained : bench.buffer.framesDrainedR =
    BitVec.ofNat 32 (bench.emitted.countP FifoWord.tlast)

section Edge

variable {cfg : StoreForwardConfig} {buffer : StoreForward} {bench : StoreForwardBench}

/-- A power of two is positive, so the memory has at least one word. -/
theorem StoreForwardConfig.depth_positive (cfg : StoreForwardConfig) : 0 < cfg.depth :=
  Nat.two_pow_pos _

/-- The pointers delimit the words in the FIFO, counted in their own width of twice the depth. -/
structure PointersCorrect (cfg : StoreForwardConfig) (buffer : StoreForward) : Prop where
  inside : buffer.rdPtrR < 2 * cfg.depth
  few : buffer.fillLevel cfg ≤ cfg.depth
  behind : buffer.wrPtrR = Window.slot (2 * cfg.depth) buffer.rdPtrR (buffer.fillLevel cfg)

/-- The difference of the pointers is the number of words, when it is smaller than their width. -/
theorem level_exact {size first level : Nat} (bounded : first < size) (few : level < size) :
    (Window.slot size first level + (size - first)) % size = level := by
  have shifted : first + level + (size - first) = level + size := by omega
  rw [Window.slot, Nat.mod_add_mod, shifted, Nat.add_mod_right, Nat.mod_eq_of_lt few]

/-- An address is a pointer without its top bit, so windows of pointers are windows of the
memory. -/
theorem pointer_address (cfg : StoreForwardConfig) (pointer level : Nat) :
    Window.slot (2 * cfg.depth) pointer level % cfg.depth =
      Window.slot cfg.depth (pointer % cfg.depth) level := by
  rw [Window.slot, Window.slot, Nat.mod_mod_of_dvd _ (Nat.dvd_mul_left _ _), Nat.mod_add_mod]

/-- The word that an edge pushes, if it pushes one. -/
def StoreForward.pushed (cfg : StoreForwardConfig) (buffer : StoreForward)
    (input : StoreForwardInput) : Option FifoWord :=
  if buffer.fifoWrEn cfg input then some input.sAxis else none

/-- There is a pushed word exactly at the edges that push. -/
theorem StoreForward.pushed_some {input : StoreForwardInput} :
    (buffer.pushed cfg input).isSome = buffer.fifoWrEn cfg input := by
  unfold StoreForward.pushed
  split
  · rename_i writes
    exact writes.symm
  · rename_i rests
    exact (Bool.eq_false_iff.mpr rests).symm

/-- A word is pushed only while there is room, because a full FIFO is not ready. -/
theorem PointersCorrect.room (pointers : PointersCorrect cfg buffer) {input : StoreForwardInput}
    (writes : (buffer.pushed cfg input).isSome = true) : buffer.fillLevel cfg < cfg.depth := by
  have few := pointers.few
  rw [StoreForward.pushed_some] at writes
  simp only [StoreForward.fifoWrEn, StoreForward.sAxisTready, StoreForward.fifoFull,
    Bool.and_eq_true, Bool.not_eq_true', beq_eq_false_iff_ne] at writes
  omega

/-- A word is popped only where there is one, with a frame's last beat behind it. -/
theorem popped_available {input : StoreForwardInput} (reads : buffer.fifoRdEn cfg input = true) :
    0 < buffer.fillLevel cfg ∧ 0 < buffer.framesPendingR := by
  simp only [StoreForward.fifoRdEn, StoreForward.mAxisTvalid, StoreForward.framesAvailable,
    StoreForward.fifoEmpty, Bool.and_eq_true, Bool.not_eq_true', beq_eq_false_iff_ne,
    bne_iff_ne] at reads
  omega

/-- What an edge does to the words in the FIFO: those there and the pushed one are the popped one
and those behind the edge, as in any circular memory; and the pointers delimit them again. -/
theorem pointers_cycle (pointers : PointersCorrect cfg buffer) (input : StoreForwardInput) :
    PointersCorrect cfg (buffer.cycle cfg input) ∧
      buffer.contents cfg ++ (buffer.pushed cfg input).toList =
        (if buffer.fifoRdEn cfg input then [buffer.fifoDout cfg] else []) ++
          (buffer.cycle cfg input).contents cfg := by
  have positive := cfg.depth_positive
  have inside := pointers.inside
  have room (writes : (buffer.pushed cfg input).isSome = true) := pointers.room writes
  have some_word (reads : buffer.fifoRdEn cfg input = true) := (popped_available reads).1
  have few : countAfter (buffer.fillLevel cfg) (buffer.pushed cfg input)
      (buffer.fifoRdEn cfg input) ≤ cfg.depth := count_after_le pointers.few room
  have rd_next : (buffer.cycle cfg input).rdPtrR =
      firstAfter (2 * cfg.depth) buffer.rdPtrR (buffer.fifoRdEn cfg input) := rfl
  have rd_inside : (buffer.cycle cfg input).rdPtrR < 2 * cfg.depth := first_after_lt inside
  have wr_next : (buffer.cycle cfg input).wrPtrR = Window.slot (2 * cfg.depth)
      (buffer.cycle cfg input).rdPtrR (countAfter (buffer.fillLevel cfg) (buffer.pushed cfg input)
        (buffer.fifoRdEn cfg input)) := by
    rw [rd_next, end_after some_word, StoreForward.pushed_some, ← pointers.behind]
    rfl
  have level_next : (buffer.cycle cfg input).fillLevel cfg =
      countAfter (buffer.fillLevel cfg) (buffer.pushed cfg input)
        (buffer.fifoRdEn cfg input) := by
    rw [StoreForward.fillLevel, wr_next, level_exact rd_inside (by omega)]
  have mem_next : (buffer.cycle cfg input).mem = memAfter cfg.depth buffer.mem
      (buffer.rdPtrR % cfg.depth) (buffer.fillLevel cfg) (buffer.pushed cfg input) := by
    have address := pointer_address cfg buffer.rdPtrR (buffer.fillLevel cfg)
    rw [← pointers.behind] at address
    unfold StoreForward.pushed
    cases writes : buffer.fifoWrEn cfg input <;>
      simp [StoreForward.cycle, memAfter, writes, address]
  have front_next : (buffer.cycle cfg input).rdPtrR % cfg.depth =
      firstAfter cfg.depth (buffer.rdPtrR % cfg.depth) (buffer.fifoRdEn cfg input) := by
    rw [rd_next]
    unfold firstAfter
    split
    · rw [Nat.mod_mod_of_dvd _ (Nat.dvd_mul_left _ _), Nat.mod_add_mod]
    · rfl
  constructor
  · refine ⟨rd_inside, ?_, ?_⟩
    · rw [level_next]
      exact few
    · rw [level_next]
      exact wr_next
  · rw [StoreForward.contents, StoreForward.contents, mem_next, level_next, front_next]
    exact stored_edge (Nat.mod_lt _ positive) room some_word

/-- What holds of a bench at any time: the pointers are right, nothing is lost, and the counter
is the number of last words inside. -/
structure StoreForwardInvariant (cfg : StoreForwardConfig) (bench : StoreForwardBench) :
    Prop where
  pointers : PointersCorrect cfg bench.buffer
  conserved : bench.accepted = bench.emitted ++ bench.buffer.contents cfg
  pending : bench.buffer.framesPendingR = (bench.buffer.contents cfg).countP FifoWord.tlast
  word : bench.buffer.framesPendingR < 2 ^ cfg.frameCountWidth
  inside : (frames FifoWord.tlast bench.emitted).unfinished ≠ [] → 0 < bench.buffer.framesPendingR
  committed : bench.buffer.framesCommittedR =
    BitVec.ofNat 32 (bench.accepted.countP FifoWord.tlast)
  drained : bench.buffer.framesDrainedR =
    BitVec.ofNat 32 (bench.emitted.countP FifoWord.tlast)

/-- The counter moves with the last words pushed and popped. Neither guard acts: a last word is
pushed only below the largest value, and popped only while a frame is counted. -/
theorem pending_next (word : buffer.framesPendingR < 2 ^ cfg.frameCountWidth)
    (input : StoreForwardInput) :
    (buffer.cycle cfg input).framesPendingR + (buffer.frameRdRetire cfg input).toNat =
      buffer.framesPendingR + (buffer.frameWrCommit cfg input).toNat := by
  have wide : 0 < 2 ^ cfg.frameCountWidth := Nat.two_pow_pos _
  have commits : buffer.frameWrCommit cfg input = true →
      buffer.framesPendingR ≠ 2 ^ cfg.frameCountWidth - 1 := by
    intro commit
    simp only [StoreForward.frameWrCommit, StoreForward.fifoWrEn, StoreForward.sAxisTready,
      StoreForward.framesPendingFull, Bool.and_eq_true, Bool.not_eq_true',
      beq_eq_false_iff_ne] at commit
    exact commit.1.2.2
  have retires : buffer.frameRdRetire cfg input = true → 0 < buffer.framesPendingR := by
    intro retire
    rw [StoreForward.frameRdRetire, Bool.and_eq_true] at retire
    exact (popped_available retire.1).2
  change buffer.framesPendingNext cfg input + _ = _
  unfold StoreForward.framesPendingNext
  cases commit : buffer.frameWrCommit cfg input with
  | false =>
    cases retire : buffer.frameRdRetire cfg input with
    | false => rfl
    | true =>
      have positive := retires retire
      have available : buffer.framesAvailable = true := bne_iff_ne.mpr positive.ne'
      have back : buffer.framesPendingR + (2 ^ cfg.frameCountWidth - 1) =
          buffer.framesPendingR - 1 + 2 ^ cfg.frameCountWidth := by omega
      simp only [available, if_true, Bool.toNat_true, Bool.toNat_false]
      rw [back, Nat.add_mod_right, Nat.mod_eq_of_lt (by omega)]
      omega
  | true =>
    cases retire : buffer.frameRdRetire cfg input with
    | false =>
      have room := commits commit
      have not_full : buffer.framesPendingFull cfg = false := beq_eq_false_iff_ne.mpr room
      simp only [not_full, Bool.false_eq_true, if_false, Bool.toNat_true, Bool.toNat_false]
      rw [Nat.mod_eq_of_lt (by omega)]
    | true => rfl

/-- The pushed word is a last one exactly when the edge commits a frame. -/
theorem count_pushed (input : StoreForwardInput) :
    (buffer.pushed cfg input).toList.countP FifoWord.tlast =
      (buffer.frameWrCommit cfg input).toNat := by
  unfold StoreForward.pushed StoreForward.frameWrCommit
  cases buffer.fifoWrEn cfg input with
  | false => rfl
  | true => cases last : input.sAxis.tlast <;> simp [last]

/-- The popped word is a last one exactly when the edge retires a frame. -/
theorem count_popped (input : StoreForwardInput) :
    (if buffer.fifoRdEn cfg input then [buffer.fifoDout cfg] else []).countP FifoWord.tlast =
      (buffer.frameRdRetire cfg input).toNat := by
  unfold StoreForward.frameRdRetire
  cases buffer.fifoRdEn cfg input with
  | false => rfl
  | true => cases last : (buffer.fifoDout cfg).tlast <;> simp [last]

/-- A 32-bit counter of last words, counted on by one word or none, still counts those of the
longer stream. -/
theorem counted_on {counter : BitVec 32} {stream : List FifoWord} (more : List FifoWord)
    {marked : Bool} (exact_count : counter = BitVec.ofNat 32 (stream.countP FifoWord.tlast))
    (marks : more.countP FifoWord.tlast = marked.toNat) :
    (if marked then counter + 1#32 else counter) =
      BitVec.ofNat 32 ((stream ++ more).countP FifoWord.tlast) := by
  rw [List.countP_append, marks, exact_count, BitVec.ofNat_add]
  cases marked with
  | false => simp
  | true => rfl

/-- One edge keeps the invariant: the words by the law of the pointers, and the counters by the
last words pushed and popped. -/
theorem store_forward_cycle (invariant : StoreForwardInvariant cfg bench)
    (input : StoreForwardInput) : StoreForwardInvariant cfg (bench.cycle cfg input) := by
  obtain ⟨pointers, moved⟩ := pointers_cycle invariant.pointers input
  have counted := pending_next invariant.word input
  have accepted_next : (bench.cycle cfg input).accepted =
      bench.accepted ++ (bench.buffer.pushed cfg input).toList := by
    unfold StoreForward.pushed StoreForwardBench.cycle
    split <;> rfl
  have marks := congrArg (List.countP FifoWord.tlast) moved
  rw [List.countP_append, List.countP_append, count_pushed, count_popped,
    ← invariant.pending] at marks
  have pending : (bench.buffer.cycle cfg input).framesPendingR =
      ((bench.buffer.cycle cfg input).contents cfg).countP FifoWord.tlast := by omega
  refine ⟨pointers, ?_, pending, ?_, ?_, ?_, ?_⟩
  · rw [accepted_next, invariant.conserved, List.append_assoc, moved, ← List.append_assoc]
    rfl
  · have word := invariant.word
    change bench.buffer.framesPendingNext cfg input < _
    unfold StoreForward.framesPendingNext
    split
    · split
      · exact word
      · exact Nat.mod_lt _ (Nat.two_pow_pos _)
    · split
      · exact Nat.mod_lt _ (Nat.two_pow_pos _)
      · exact word
    · exact word
  · intro begun
    have emitted_next : (bench.cycle cfg input).emitted = bench.emitted ++
      if bench.buffer.fifoRdEn cfg input then [bench.buffer.fifoDout cfg] else [] := rfl
    change 0 < (bench.buffer.cycle cfg input).framesPendingR
    cases reads : bench.buffer.fifoRdEn cfg input with
    | false =>
      -- Nothing is popped, so the frame begun before is still the one in progress.
      rw [emitted_next, reads, if_neg Bool.false_ne_true, List.append_nil] at begun
      have before := invariant.inside begun
      simp only [StoreForward.frameRdRetire, reads, Bool.false_and, Bool.toNat_false] at counted
      omega
    | true =>
      have before := (popped_available reads).2
      cases last : (bench.buffer.fifoDout cfg).tlast with
      | false =>
        simp only [StoreForward.frameRdRetire, last, Bool.and_false, Bool.toNat_false] at counted
        omega
      | true =>
        rw [emitted_next, reads, if_pos rfl, frames_concat, Frames.push_marked last] at begun
        exact absurd rfl begun
  · rw [accepted_next]
    exact counted_on _ invariant.committed (count_pushed input)
  · exact counted_on _ invariant.drained (count_popped input)

/-- Behind a reset nothing is held, whatever the memory has in it. -/
theorem store_forward_reset (cfg : StoreForwardConfig) (mem : Nat → FifoWord) :
    StoreForwardInvariant cfg ⟨.reset mem, [], []⟩ := by
  have positive := cfg.depth_positive
  have empty : (StoreForward.reset mem).fillLevel cfg = 0 := by
    simp [StoreForward.fillLevel, StoreForward.reset]
  have nothing : (StoreForward.reset mem).contents cfg = [] := by
    rw [StoreForward.contents, empty, stored_empty]
  refine ⟨⟨?_, ?_, ?_⟩, ?_, ?_, Nat.two_pow_pos _, fun begun => absurd rfl begun, rfl, rfl⟩
  · change 0 < 2 * cfg.depth
    omega
  · rw [empty]
    exact Nat.zero_le _
  · rw [empty]
    exact (Window.slot_zero (by change 0 < 2 * cfg.depth; omega)).symm
  · rw [nothing]
    rfl
  · rw [nothing]
    rfl

/-- The invariant holds behind any edges. Induction over the inputs from the end. -/
theorem store_forward_run (cfg : StoreForwardConfig) (mem : Nat → FifoWord)
    (inputs : List StoreForwardInput) :
    StoreForwardInvariant cfg (StoreForwardBench.run cfg mem inputs) := by
  induction inputs using List.reverseRecOn with
  | nil => exact store_forward_reset cfg mem
  | append_singleton inputs input inductionHypothesis =>
    rw [StoreForwardBench.run, List.foldl_append]
    exact store_forward_cycle inductionHypothesis input

/-- A counted frame has its last word in the FIFO, since the counter is their number. -/
theorem StoreForwardInvariant.marked (invariant : StoreForwardInvariant cfg bench)
    (counted : 0 < bench.buffer.framesPendingR) :
    ∃ word ∈ bench.buffer.contents cfg, word.tlast = true := by
  rw [invariant.pending] at counted
  exact List.countP_pos_iff.mp counted

/-- The output offers a word exactly while a frame is counted, because then the FIFO is not
empty. -/
theorem StoreForwardInvariant.offering (invariant : StoreForwardInvariant cfg bench) :
    bench.buffer.mAxisTvalid cfg = true ↔ 0 < bench.buffer.framesPendingR := by
  constructor
  · intro valid
    simp only [StoreForward.mAxisTvalid, StoreForward.framesAvailable, Bool.and_eq_true,
      bne_iff_ne] at valid
    omega
  · intro counted
    obtain ⟨word, held, -⟩ := invariant.marked counted
    have some_word : bench.buffer.fillLevel cfg ≠ 0 := by
      intro none
      rw [StoreForward.contents, none] at held
      exact absurd held List.not_mem_nil
    simp [StoreForward.mAxisTvalid, StoreForward.framesAvailable, StoreForward.fifoEmpty, some_word,
      counted.ne']

/-- The output word is the front of the FIFO, while there is one. -/
theorem output_front (some_word : buffer.contents cfg ≠ []) :
    (buffer.contents cfg).head? = some (buffer.fifoDout cfg) := by
  apply stored_head (Nat.mod_lt _ cfg.depth_positive)
  by_contra none
  rw [StoreForward.contents, Nat.eq_zero_of_not_pos none] at some_word
  exact some_word rfl

/-- A beat that is offered and not taken is still the front of the FIFO at the next
edge. -/
theorem StoreForwardInvariant.refused_stays (invariant : StoreForwardInvariant cfg bench)
    (input : StoreForwardInput) (valid : bench.buffer.mAxisTvalid cfg = true)
    (refused : input.mAxisTready = false) :
    (bench.buffer.cycle cfg input).fifoDout cfg = bench.buffer.fifoDout cfg := by
  obtain ⟨word, held, -⟩ := invariant.marked (invariant.offering.mp valid)
  have front := output_front (List.ne_nil_of_mem held)
  obtain ⟨-, moved⟩ := pointers_cycle invariant.pointers input
  have kept : bench.buffer.fifoRdEn cfg input = false := by
    simp [StoreForward.fifoRdEn, refused]
  rw [kept, if_neg Bool.false_ne_true, List.nil_append] at moved
  have still : word ∈ (bench.buffer.cycle cfg input).contents cfg :=
    moved ▸ List.mem_append_left _ held
  have front_next := output_front (List.ne_nil_of_mem still)
  rw [← moved, List.head?_append_of_ne_nil _ (List.ne_nil_of_mem held), front] at front_next
  exact (Option.some.inj front_next).symm

/-- Where every frame fits, the two handshakes do not both wait: a counter or a FIFO
that is full has a frame to offer. -/
theorem StoreForwardInvariant.not_stuck (invariant : StoreForwardInvariant cfg bench)
    (fits : FitsFrames cfg bench.accepted) :
    bench.buffer.sAxisTready cfg = true ∨ bench.buffer.mAxisTvalid cfg = true := by
  by_contra stuck
  obtain ⟨waiting, silent⟩ := not_or.mp stuck
  rw [invariant.offering] at silent
  have none_counted : bench.buffer.framesPendingR = 0 := by omega
  have wide : 2 ^ 1 ≤ 2 ^ cfg.frameCountWidth :=
    Nat.pow_le_pow_right (by decide) cfg.count_positive
  have not_full : bench.buffer.framesPendingFull cfg = false := by
    rw [StoreForward.framesPendingFull, none_counted, beq_eq_false_iff_ne]
    omega
  have full : bench.buffer.fillLevel cfg = cfg.depth := by
    simpa [StoreForward.sAxisTready, not_full, StoreForward.fifoFull] using waiting
  -- The FIFO is full of one frame's beats, none of them its last.
  have unmarked : ∀ word ∈ bench.buffer.contents cfg, word.tlast = false := by
    have zero := invariant.pending
    rw [none_counted] at zero
    simpa using List.countP_eq_zero.mp zero.symm
  have closed : (frames FifoWord.tlast bench.emitted).unfinished = [] := by
    by_contra begun
    have counted := invariant.inside begun
    omega
  have length : (bench.buffer.contents cfg).length = cfg.depth := by
    rw [StoreForward.contents, stored_length, full]
  have positive := cfg.depth_positive
  have unfinished : (frames FifoWord.tlast bench.accepted).unfinished =
      bench.buffer.contents cfg := by
    rw [invariant.conserved, frames_unmarked _ unmarked, closed, List.nil_append]
  obtain ⟨whole, small, part⟩ := fits
  obtain ⟨frame, member, shorter⟩ :=
    unfinished_shorter (fun frame member => (small frame member).1) part (by
      rw [unfinished]
      exact List.ne_nil_of_length_pos (by omega))
  have bound := (small frame member).2
  rw [unfinished] at shorter
  omega

end Edge

/-- For all widths, every input and every pattern of the sink, the buffer forwards what it
accepted, never stops inside a frame, and never locks up on frames that fit it.

Proof: the invariant counts the whole frames in the buffer and says that an offered beat has its
frame's end stored. Each clause about an edge takes the invariant at the edge or behind it. -/
theorem store_forward_correct (cfg : StoreForwardConfig) (mem : Nat → FifoWord)
    (inputs : List StoreForwardInput) :
    StoreForwardCorrect cfg (StoreForwardBench.run cfg mem inputs) := by
  have invariant := store_forward_run cfg mem inputs
  generalize StoreForwardBench.run cfg mem inputs = bench at invariant
  refine ⟨invariant.pending, ?_, invariant.conserved, ?_, ?_, ?_, ?_, ?_, ?_, invariant.not_stuck,
    invariant.committed, invariant.drained⟩
  · intro input
    constructor
    · intro commit
      simp only [StoreForward.frameWrCommit, StoreForward.fifoWrEn, StoreForward.sAxisTready,
        Bool.and_eq_true, Bool.not_eq_true'] at commit
      exact commit.1.2.2
    · intro retire
      rw [StoreForward.frameRdRetire, Bool.and_eq_true] at retire
      exact bne_iff_ne.mpr (popped_available retire.1).2.ne'
  · rw [invariant.conserved]
    exact List.prefix_append _ _
  · intro valid
    obtain ⟨frame, rest, cut, delimited⟩ :=
      exists_delimited (invariant.marked (invariant.offering.mp valid))
    exact ⟨frame, rest, cut, delimited.extend (unfinished_unmarked _)⟩
  · intro input silent rises
    constructor
    · by_contra begun
      rw [invariant.offering.mpr (invariant.inside begun)] at silent
      cases silent
    · have next := store_forward_cycle invariant input
      exact exists_delimited (next.marked (next.offering.mp rises))
  · intro input valid refused
    have next := store_forward_cycle invariant input
    apply next.offering.mpr
    have counted := pending_next invariant.word input
    have before := invariant.offering.mp valid
    simp only [StoreForward.frameRdRetire, StoreForward.fifoRdEn, Bool.and_assoc, refused,
      Bool.and_false, Bool.toNat_false] at counted
    change 0 < (bench.buffer.cycle cfg input).framesPendingR
    omega
  · intro begun
    exact invariant.offering.mpr (invariant.inside begun)
  · intro input valid refused
    exact invariant.refused_stays input valid refused

/-- Two words, and one frame at a time, for executions on concrete values. -/
def smallBuffer : StoreForwardConfig := ⟨1, 1, by decide, by decide⟩

/-- A frame that fills the FIFO waits for its last beat, then leaves whole. -/
example :
    let beat (tlast : Bool) (tdata : BitVec 8) : StoreForwardInput := ⟨⟨tlast, tdata⟩, true, true⟩
    let bench := StoreForwardBench.run smallBuffer (fun _ => ⟨true, 0#8⟩)
      [beat false 1#8, beat true 2#8, beat false 3#8, beat false 4#8]
    bench.emitted.map FifoWord.tdata = [1#8, 2#8] ∧
      bench.accepted.map FifoWord.tdata = [1#8, 2#8] := by
  decide +kernel

end EmaczZephyr.Rtl
