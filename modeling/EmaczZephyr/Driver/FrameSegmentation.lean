import EmaczZephyr.Driver.RxPath
import EmaczZephyr.Rtl.FrameGate

/-!
# One receive buffer, one frame

Three limits meet in the receive path. The gate passes frames of up to 2048 bytes. A
descriptor has room for `EMZ_ETH_BUFFER_SIZE` bytes, and the S2MM channel continues a
longer frame in the next descriptor, telling so only by RXSOF and RXEOF. The poll looks
at the complete bit, the error bits and the length, which a continued frame satisfies in
each of its descriptors.

So poll hands over the pieces that the channel makes. Each piece is a frame exactly when
every frame fits a buffer.

The packet buffers are regions of memory named by their base address.
-/

namespace EmaczZephyr.Driver

open Runs Framing Rtl

/-- `u_rx_error_drop` with the sizes that the wrapper instantiates it with: 2^11 bytes of data
and 2^4 frames. -/
def rxErrorDrop : GateConfig := ⟨11, 4, by decide, by decide, by decide⟩

/-- A frame that the gate passes: it ends with its only last beat, fits a slot and bears
no error. -/
structure PassedFrame where
  beats : List Beat
  delimited : Delimited Beat.tlast beats
  good : goodFrame rxErrorDrop beats = true

/-- The bytes of the frame, in the order of its beats. -/
def PassedFrame.bytes (frame : PassedFrame) : List (BitVec 8) := frame.beats.map Beat.tdata

/-- The build of the direct ring: buffers of the pool are different memory, and the post
limit is positive. -/
structure SegmentConfig extends Config where
  bytes_distinct : ∀ left right, left < rxBufferCount → right < rxBufferCount →
    rxBytes left = rxBytes right → left = right
  posts : 0 < rxMaxInflight

/-- Two buffers of 1518 bytes, for executions on concrete values. -/
def twoBufferSegments : SegmentConfig where
  toConfig := twoBufferConfig
  bytes_distinct := by
    have pairs : ∀ left < 2, ∀ right < 2,
        twoBufferConfig.rxBytes left = twoBufferConfig.rxBytes right → left = right := by decide
    exact fun left right leftInside rightInside => pairs left leftInside right rightInside
  posts := by decide

/-- What poll makes of a retired buffer: `rx->status`, `rx->len`, and the bytes that the
interceptor, the profiling mode or the worker find there. -/
structure Delivery where
  rx : Nat
  status : Int
  len : Nat
  bytes : List (BitVec 8)
deriving DecidableEq

/-- The ring, the packet memory, the channel and the deliveries so far. Of a frame that
the channel has begun, `stream` keeps what is left. -/
structure SegmentSystem where
  ring : RxRing
  memory : BitVec 32 → List (BitVec 8)
  curdesc : Nat
  stream : List (List (BitVec 8))
  inFrame : Bool
  delivered : List Delivery

/-- The start-of-frame flag of a status word, which the channel sets on the first buffer of a
frame. -/
def bdStatusRxSof : BitVec 32 := 0x08000000#32

/-- The end-of-frame flag of a status word, which the channel sets on the last buffer of a frame. -/
def bdStatusRxEof : BitVec 32 := 0x04000000#32

/-- The status word of a completion but for its length: complete, three error bits, RXSOF
and RXEOF. -/
def s2mmFlags (errors : BitVec 3) (sof eof : Bool) : BitVec 32 :=
  bdStatusComplete ||| errors.setWidth 32 <<< 28 |||
    (if sof then bdStatusRxSof else 0#32) ||| (if eof then bdStatusRxEof else 0#32)

/-- The status word of a completion with its transferred length. -/
def s2mmStatus (errors : BitVec 3) (sof eof : Bool) (length : Nat) : BitVec 32 :=
  s2mmFlags errors sof eof ||| BitVec.ofNat 32 length

/-- The channel fills the current descriptor from the frame under way, or from the next
one: as much as the descriptor has room for. A descriptor is the channel's from its post
to its completion. -/
def s2mmTransfer (cfg : Config) (system : SegmentSystem) (errors : BitVec 3) :
    Option SegmentSystem :=
  let index := system.curdesc
  let bd := system.ring.rxBdRing index
  match system.stream with
  | [] => none
  | frame :: later =>
      if (system.ring.rxBdBuffer index).isSome && !bdFinished bd.status then
        let room := (bd.control &&& bdCtrlLenMask).toNat
        let piece := frame.take room
        let left := frame.drop room
        some { system with
          ring := writeStatus system.ring index
            (s2mmStatus errors (!system.inFrame) left.isEmpty piece.length)
          memory := Function.update system.memory bd.bufferAddress
            (piece ++ (system.memory bd.bufferAddress).drop piece.length)
          curdesc := (index + 1) % cfg.rxBufferCount
          stream := if left.isEmpty then later else left :: later
          inFrame := !left.isEmpty }
      else none

/-- One iteration of `emz_rx_direct_poll`: a finished descriptor is retired, and what its status
says of length and errors goes up with the bytes of its buffer. -/
def segmentPoll (cfg : Config) (system : SegmentSystem) : SegmentSystem :=
  match emzRxDirectConsume cfg system.ring with
  | (ring, .retired rx status) =>
      let frame := emzRxDirectFrame cfg status
      { system with
        ring := ring
        delivered := system.delivered ++
          [⟨rx, frame.1, frame.2, (system.memory (cfg.rxBytes rx)).take frame.2⟩] }
  | (ring, _) => { system with ring := ring }

/-- What can happen to ring and stream: the channel fills one buffer, the driver polls, or the
driver posts a buffer. -/
inductive SegmentLabel where
  | transfer (errors : BitVec 3)
  | poll
  /-- A refill posts a buffer of the free FIFO. -/
  | post (rx : Nat)

/-- One step: the channel, a poll or a refill. A free buffer of the pool is in no slot. -/
def segmentStep (cfg : SegmentConfig) (system : SegmentSystem) :
    SegmentLabel → Option SegmentSystem
  | .transfer errors => s2mmTransfer cfg.toConfig system errors
  | .poll => some (segmentPoll cfg.toConfig system)
  | .post rx =>
      if rx < cfg.rxBufferCount ∧
          rx ∉ Window.contents cfg.rxBufferCount system.ring.rxBdBuffer then
        some { system with ring := (emzRxDirectPostOne cfg.toConfig system.ring rx).1 }
      else none

/-- A descriptor as `emz_rx_direct_program_bd` leaves it for a buffer of the pool. -/
structure Programmed (cfg : Config) (ring : RxRing) (index rx : Nat) : Prop where
  pooled : rx < cfg.rxBufferCount
  address : (ring.rxBdRing index).bufferAddress = cfg.rxBytes rx
  room : (ring.rxBdRing index).control = BitVec.ofNat 32 cfg.ethBufferSize &&& bdCtrlLenMask

/-- The slots hold different buffers, each with its descriptor programmed. -/
structure SlotsProgrammed (cfg : Config) (ring : RxRing) : Prop where
  invariant : RxRingInvariant cfg ring
  programmed : ∀ index rx, index < cfg.rxBufferCount → ring.rxBdBuffer index = some rx →
    Programmed cfg ring index rx
  distinct : ∀ left right rx, left < cfg.rxBufferCount → right < cfg.rxBufferCount →
    ring.rxBdBuffer left = some rx → ring.rxBdBuffer right = some rx → left = right

/-- A ring at any position, with any number of buffers posted and none completed. -/
structure ReadyRing (cfg : Config) where
  ring : RxRing
  slots : SlotsProgrammed cfg ring
  clear : ∀ index, index < cfg.rxBufferCount → (ring.rxBdRing index).status = 0#32

/-- The channel stands at the first slot of a ready ring and has the frames before it. -/
def segmentInitial (cfg : Config) (start : ReadyRing cfg) (memory : BitVec 32 → List (BitVec 8))
    (frames : List PassedFrame) : SegmentSystem where
  ring := start.ring
  memory := memory
  curdesc := start.ring.rxBdConsumeIndex
  stream := frames.map PassedFrame.bytes
  inFrame := false
  delivered := []

/-- The n-th buffer that poll hands over holds exactly the n-th frame, whole and with its
true length, or is reported as an error. -/
def WholeFrames (frames : List (List (BitVec 8))) (delivered : List Delivery) : Prop :=
  ∀ (index : Nat) (delivery : Delivery), delivered[index]? = some delivery → delivery.status = 0 →
    frames[index]? = some delivery.bytes ∧ delivery.len = delivery.bytes.length

/-- Every completion has the complete flag, whatever its errors and its place in the frame; a
finite check. -/
theorem flags_complete : ∀ (errors : BitVec 3) (sof eof : Bool),
    s2mmFlags errors sof eof &&& bdStatusComplete = bdStatusComplete := by decide

/-- The flags of a completion have no bit in the length field. -/
theorem flags_length : ∀ (errors : BitVec 3) (sof eof : Bool),
    s2mmFlags errors sof eof &&& bdStatusLenMask = 0#32 := by decide

/-- The flags have no error bit exactly if the channel reports no error, since start and end of
frame are no errors. -/
theorem flags_errors : ∀ (errors : BitVec 3) (sof eof : Bool),
    s2mmFlags errors sof eof &&& bdStatusErrorMask = 0#32 ↔ errors = 0#3 := by decide

section Status

variable {errors : BitVec 3} {sof eof : Bool} {length : Nat}

/-- A completion ends its descriptor for the driver, by the complete flag. -/
theorem s2mm_status_finished : bdFinished (s2mmStatus errors sof eof length) = true := by
  have complete : s2mmStatus errors sof eof length &&& bdStatusComplete ≠ 0#32 := by
    rw [s2mmStatus, BitVec.and_or_distrib_right, flags_complete]
    intro zero
    exact absurd (BitVec.or_eq_zero_iff.mp zero).1 (by decide)
  rw [bdFinished, bne_iff_ne, BitVec.and_or_distrib_left]
  intro zero
  exact complete (BitVec.or_eq_zero_iff.mp zero).1

/-- Poll reads the transferred length and whether an error bit is set. RXSOF and RXEOF make
no difference to it. -/
theorem s2mm_status_frame {cfg : Config} (fits : length ≤ cfg.ethBufferSize) :
    emzRxDirectFrame cfg (s2mmStatus errors sof eof length) =
      (if errors = 0#3 then 0 else -14, length) := by
  have field := cfg.size_field
  have small : length < 67108864 := by omega
  have length_read : (s2mmStatus errors sof eof length &&& bdStatusLenMask).toNat = length := by
    rw [s2mmStatus, BitVec.and_or_distrib_right, flags_length, BitVec.zero_or]
    exact masked_length small
  have errors_read : s2mmStatus errors sof eof length &&& bdStatusErrorMask = 0#32 ↔
      errors = 0#3 := by
    have masked : BitVec.ofNat 32 length &&& bdCtrlLenMask = BitVec.ofNat 32 length := by
      refine BitVec.eq_of_toNat_eq ?_
      rw [masked_length small, BitVec.toNat_ofNat, Nat.mod_eq_of_lt (by omega)]
    have apart : bdCtrlLenMask &&& bdStatusErrorMask = 0#32 := by decide
    rw [s2mmStatus, BitVec.and_or_distrib_right, ← masked, BitVec.and_assoc, apart,
      BitVec.and_zero, BitVec.or_zero]
    exact flags_errors errors sof eof
  simp only [emzRxDirectFrame, length_read, if_neg (Nat.not_lt.mpr fits)]
  by_cases clean : errors = 0#3
  · rw [errors_read.mpr clean, if_pos clean]
    rfl
  · rw [if_neg clean, if_pos (bne_iff_ne.mpr (mt errors_read.mp clean))]

end Status

/-- What the channel put into one buffer: bytes of one frame, with the flags that it left in the
status word. -/
structure Piece where
  errors : BitVec 3
  sof : Bool
  eof : Bool
  bytes : List (BitVec 8)

/-- The status word that the channel left with the piece: its flags, and its length in the low
bits. -/
def Piece.status (piece : Piece) : BitVec 32 :=
  s2mmStatus piece.errors piece.sof piece.eof piece.bytes.length

/-- What poll makes of a piece: zero or an I/O error as the status, and the length and the bytes
of the piece. -/
def Piece.delivery (piece : Piece) (rx : Nat) : Delivery :=
  ⟨rx, if piece.errors = 0#3 then 0 else -14, piece.bytes.length, piece.bytes⟩

/-- A completed slot has the status of its piece, and its buffer the bytes. -/
structure SlotHolds (cfg : Config) (system : SegmentSystem) (index : Nat) (piece : Piece) :
    Prop where
  status : (system.ring.rxBdRing index).status = piece.status
  fits : piece.bytes.length ≤ cfg.ethBufferSize
  bytes : ∀ rx, system.ring.rxBdBuffer index = some rx →
    (system.memory (cfg.rxBytes rx)).take piece.bytes.length = piece.bytes

/-- The first slots of the window hold the pieces, in order; the channel stands at the next
slot, and no other slot is completed. -/
structure RingHolds (cfg : Config) (system : SegmentSystem) (held : List Piece) : Prop where
  slots : SlotsProgrammed cfg system.ring
  within : held.length ≤ system.ring.rxBdPosted
  curdesc : system.curdesc =
    Window.slot cfg.rxBufferCount system.ring.rxBdConsumeIndex held.length
  finished : ∀ (position : Nat) (piece : Piece), held[position]? = some piece →
    SlotHolds cfg system
      (Window.slot cfg.rxBufferCount system.ring.rxBdConsumeIndex position) piece
  clear : ∀ position, held.length ≤ position → position < cfg.rxBufferCount →
    (system.ring.rxBdRing
      (Window.slot cfg.rxBufferCount system.ring.rxBdConsumeIndex position)).status = 0#32

/-- A buffer that is in no slot is not the one of a slot. -/
theorem not_contents {size rx : Nat} {held : Nat → Option Nat}
    (absent : rx ∉ Window.contents size held) {index : Nat} (inside : index < size) :
    held index ≠ some rx := by
  intro owned
  exact absent (List.mem_filterMap.mpr ⟨index, List.mem_range.mpr inside, owned⟩)

/-- A post programs its slot for the buffer, and keeps the slots programmed for different buffers
when no other slot has this one. -/
theorem posted_slots {cfg : Config} {before after : RxRing} {rx : Nat}
    (slots : SlotsProgrammed cfg before) (posted : Posted cfg before rx after)
    (pooled : rx < cfg.rxBufferCount)
    (absent : rx ∉ Window.contents cfg.rxBufferCount before.rxBdBuffer) :
    SlotsProgrammed cfg after where
  invariant := posted_invariant slots.invariant posted
  programmed := by
    intro index owner inside owned
    rw [posted.buffers, Function.update_apply] at owned
    by_cases here : index = before.rxBdRefillIndex
    · obtain rfl : rx = owner := by simpa [here] using owned
      exact ⟨pooled, by rw [posted.bds, here, Function.update_self],
        by rw [posted.bds, here, Function.update_self]⟩
    · rw [if_neg here] at owned
      obtain ⟨known, address, room⟩ := slots.programmed index owner inside owned
      exact ⟨known, by rw [posted.bds, Function.update_of_ne here, address],
        by rw [posted.bds, Function.update_of_ne here, room]⟩
  distinct := by
    intro left right owner leftInside rightInside leftOwned rightOwned
    rw [posted.buffers, Function.update_apply] at leftOwned rightOwned
    by_cases leftHere : left = before.rxBdRefillIndex <;>
      by_cases rightHere : right = before.rxBdRefillIndex
    · exact leftHere.trans rightHere.symm
    · obtain rfl : rx = owner := by simpa [leftHere] using leftOwned
      rw [if_neg rightHere] at rightOwned
      exact absurd rightOwned (not_contents absent rightInside)
    · obtain rfl : rx = owner := by simpa [rightHere] using rightOwned
      rw [if_neg leftHere] at leftOwned
      exact absurd leftOwned (not_contents absent leftInside)
    · rw [if_neg leftHere] at leftOwned
      rw [if_neg rightHere] at rightOwned
      exact slots.distinct left right owner leftInside rightInside leftOwned rightOwned

/-- A retired slot has no buffer any more, and the other slots are programmed as they were. -/
theorem retired_slots {cfg : Config} {before after : RxRing} {rx : Nat} {status : BitVec 32}
    (slots : SlotsProgrammed cfg before) (retired : Retired cfg before rx status after) :
    SlotsProgrammed cfg after where
  invariant := retired_invariant slots.invariant retired
  programmed := by
    intro index owner inside owned
    rw [retired.buffers, Function.update_apply] at owned
    split at owned
    · cases owned
    · rename_i other
      obtain ⟨pooled, address, room⟩ := slots.programmed index owner inside owned
      exact ⟨pooled, by rw [retired.bds, Function.update_of_ne other, address],
        by rw [retired.bds, Function.update_of_ne other, room]⟩
  distinct := by
    intro left right owner leftInside rightInside leftOwned rightOwned
    rw [retired.buffers, Function.update_apply] at leftOwned rightOwned
    split at leftOwned
    · cases leftOwned
    split at rightOwned
    · cases rightOwned
    exact slots.distinct left right owner leftInside rightInside leftOwned rightOwned

/-- A completion writes the status word only and changes no field that the driver programmed. -/
theorem completed_slots {cfg : Config} {ring : RxRing} (slots : SlotsProgrammed cfg ring)
    (index : Nat) (status : BitVec 32) : SlotsProgrammed cfg (writeStatus ring index status) where
  invariant := write_status_invariant slots.invariant index status
  programmed := by
    intro slot rx inside owned
    obtain ⟨pooled, address, room⟩ := slots.programmed slot rx inside owned
    by_cases here : slot = index
    · subst here
      exact ⟨pooled, by simpa [writeStatus] using address, by simpa [writeStatus] using room⟩
    · exact ⟨pooled, by simpa [writeStatus, Function.update_of_ne here] using address,
        by simpa [writeStatus, Function.update_of_ne here] using room⟩
  distinct := slots.distinct

section Steps

variable {cfg : SegmentConfig} {before after : SegmentSystem} {held : List Piece}

/-- A post adds a clear slot behind the window, or is refused, and leaves the pieces that the
ring holds. -/
theorem RingHolds.post (holds : RingHolds cfg.toConfig before held) {rx : Nat}
    (pooled : rx < cfg.rxBufferCount)
    (absent : rx ∉ Window.contents cfg.rxBufferCount before.ring.rxBdBuffer) :
    RingHolds cfg.toConfig
      { before with ring := (emzRxDirectPostOne cfg.toConfig before.ring rx).1 } held := by
  rcases post_one_cases cfg.toConfig before.ring rx with ⟨unchanged, -⟩ | ⟨ring, succeeded, posted⟩
  · rw [unchanged]
    exact holds
  rw [succeeded]
  have invariant := holds.slots.invariant
  have room : before.ring.rxBdPosted < cfg.rxBufferCount :=
    (refill_free_iff invariant).mp posted.free
  have word := cfg.count_word
  have counted : ring.rxBdPosted = before.ring.rxBdPosted + 1 := by
    rw [posted.posted, Word32.inc_exact (by omega)]
  have within := holds.within
  refine ⟨posted_slots holds.slots posted pooled absent, ?_, ?_, ?_, ?_⟩
  · change held.length ≤ ring.rxBdPosted
    omega
  · change before.curdesc = Window.slot _ ring.rxBdConsumeIndex held.length
    rw [posted.consume, holds.curdesc]
  · intro position piece here
    have early : position < held.length := (List.getElem?_eq_some_iff.mp here).1
    have other : Window.slot cfg.rxBufferCount before.ring.rxBdConsumeIndex position ≠
        before.ring.rxBdRefillIndex := by
      rw [invariant.refill_exact]
      exact Window.slot_ne invariant.consume_inside (by omega) room (by omega)
    obtain ⟨status, fits, bytes⟩ := holds.finished position piece here
    simp only [posted.consume]
    refine ⟨?_, fits, ?_⟩
    · simp only [posted.bds, Function.update_of_ne other, status]
    · intro owner owned
      simp only [posted.buffers, Function.update_of_ne other] at owned
      exact bytes owner owned
  · intro position late inside
    simp only [posted.consume, posted.bds, Function.update_apply]
    split
    · rfl
    · exact holds.clear position late inside

/-- A poll of a ring without a completed slot finds a clear status word and changes nothing. -/
theorem RingHolds.poll_nothing (holds : RingHolds cfg.toConfig before []) :
    segmentPoll cfg.toConfig before = before := by
  have first := Window.slot_zero holds.slots.invariant.consume_inside
  have clear := holds.clear 0 le_rfl cfg.count_positive
  rw [first] at clear
  have unfinished : bdFinished 0#32 = false := by decide
  simp [segmentPoll, emzRxDirectConsume, clear, unfinished]

/-- A poll hands over the first piece with its own length, status and bytes, and retires its
slot; the other pieces stay where they are. -/
theorem RingHolds.poll {piece : Piece} (holds : RingHolds cfg.toConfig before (piece :: held)) :
    ∃ rx ring, segmentPoll cfg.toConfig before =
        { before with ring := ring, delivered := before.delivered ++ [piece.delivery rx] } ∧
      RingHolds cfg.toConfig
        { before with
          ring := ring
          delivered := before.delivered ++ [piece.delivery rx] } held := by
  have invariant := holds.slots.invariant
  have inside := invariant.consume_inside
  have first := Window.slot_zero inside
  obtain ⟨status, fits, bytes⟩ := holds.finished 0 piece rfl
  rw [first] at status bytes
  have finished : bdFinished (before.ring.rxBdRing before.ring.rxBdConsumeIndex).status = true :=
    status ▸ s2mm_status_finished
  have within := holds.within
  have posted_fits := invariant.posted_fits
  rw [List.length_cons] at within
  have member : Window.Member cfg.rxBufferCount before.ring.rxBdConsumeIndex
      before.ring.rxBdPosted before.ring.rxBdConsumeIndex := ⟨0, by omega, first.symm⟩
  have owned_some := (invariant.occupied _ inside).mpr member
  rcases consume_cases cfg.toConfig before.ring with
    ⟨-, unfinished⟩ | ⟨-, -, unowned⟩ | ⟨ring, rx, word, taken, retired⟩
  · rw [finished] at unfinished
    cases unfinished
  · rw [unowned] at owned_some
    cases owned_some
  have counted := retired.posted_exact invariant
  have shifted := retired.shifted
  have read : emzRxDirectFrame cfg.toConfig word =
      (if piece.errors = 0#3 then 0 else -14, piece.bytes.length) := by
    rw [← retired.read, status]
    exact s2mm_status_frame fits
  refine ⟨rx, ring, ?_, retired_slots holds.slots retired, ?_, ?_, ?_, ?_⟩
  · simp only [segmentPoll, taken, read, bytes rx retired.owned]
    rfl
  · change held.length ≤ ring.rxBdPosted
    omega
  · change before.curdesc = Window.slot _ ring.rxBdConsumeIndex held.length
    rw [shifted, holds.curdesc, List.length_cons]
  · intro position next here
    have early : position < held.length := (List.getElem?_eq_some_iff.mp here).1
    obtain ⟨later_status, later_fits, later_bytes⟩ :=
      holds.finished (position + 1) next (by simpa using here)
    have near : position + 1 < cfg.rxBufferCount := by omega
    have apart := Window.slot_ne_first inside near
    simp only [shifted]
    refine ⟨?_, later_fits, ?_⟩
    · simp only [retired.bds, Function.update_of_ne apart, later_status]
    · intro owner owned
      simp only [retired.buffers, Function.update_of_ne apart] at owned
      exact later_bytes owner owned
  · intro position late near
    simp only [shifted, retired.bds, Function.update_apply]
    split
    · rfl
    rename_i apart
    by_cases wraps : position + 1 = cfg.rxBufferCount
    · refine absurd ?_ apart
      rw [wraps, Window.slot, Nat.add_mod_right, Nat.mod_eq_of_lt inside]
    · exact holds.clear (position + 1) (by simpa using late) (by omega)

/-- The slot that the channel fills is the first of the window without a piece. -/
theorem RingHolds.channel_room (holds : RingHolds cfg.toConfig before held)
    (owned : (before.ring.rxBdBuffer before.curdesc).isSome = true)
    (unfinished : bdFinished (before.ring.rxBdRing before.curdesc).status = false) :
    held.length < before.ring.rxBdPosted := by
  have invariant := holds.slots.invariant
  have inside := invariant.consume_inside
  have current := holds.curdesc
  have within := holds.within
  have posted_fits := invariant.posted_fits
  have near : held.length < cfg.rxBufferCount := by
    by_contra full
    -- One revolution on, the channel would stand at the first piece's slot.
    have positive := cfg.count_positive
    have whole : held.length = cfg.rxBufferCount := by omega
    have first : held[0]? = some held[0] := List.getElem?_eq_getElem (by omega)
    have status := (holds.finished 0 _ first).status
    rw [Window.slot_zero inside] at status
    have wrapped : before.curdesc = before.ring.rxBdConsumeIndex := by
      rw [current, whole, Window.slot, Nat.add_mod_right, Nat.mod_eq_of_lt inside]
    rw [wrapped, status, Piece.status, s2mm_status_finished] at unfinished
    cases unfinished
  have current_inside : before.curdesc < cfg.rxBufferCount :=
    current ▸ Window.slot_lt cfg.count_positive _ _
  have member := (invariant.occupied _ current_inside).mp owned
  rw [current] at member
  exact (Window.member_slot inside posted_fits near).mp member

/-- A completion of another slot, with bytes for another buffer, leaves a slot's piece. -/
theorem SlotHolds.kept {index rx : Nat} {piece : Piece}
    (holds : SlotHolds cfg.toConfig before index piece)
    (slots : SlotsProgrammed cfg.toConfig before.ring) (inside : index < cfg.rxBufferCount)
    (current_inside : before.curdesc < cfg.rxBufferCount) (apart : index ≠ before.curdesc)
    (owned : before.ring.rxBdBuffer before.curdesc = some rx) {status : BitVec 32}
    (ring : after.ring = writeStatus before.ring before.curdesc status)
    (memory : ∀ address, address ≠ cfg.rxBytes rx → after.memory address = before.memory address) :
    SlotHolds cfg.toConfig after index piece := by
  obtain ⟨own_status, fits, bytes⟩ := holds
  refine ⟨?_, fits, ?_⟩
  · rw [ring]
    simp only [writeStatus, Function.update_of_ne apart, own_status]
  · intro owner here
    have owner_here : before.ring.rxBdBuffer index = some owner := by
      simpa [ring, writeStatus] using here
    have other_memory : cfg.rxBytes owner ≠ cfg.rxBytes rx := by
      intro same
      have owner_pooled := (slots.programmed index owner inside owner_here).pooled
      have pooled := (slots.programmed _ rx current_inside owned).pooled
      obtain rfl := cfg.bytes_distinct owner rx owner_pooled pooled same
      exact apart (slots.distinct _ _ owner inside current_inside owner_here owned)
    rw [memory _ other_memory]
    exact bytes owner owner_here

/-- A transfer fills the slot behind the completed ones with the next piece of the stream: at
most a buffer's bytes, first of its frame or not, last or not. -/
theorem RingHolds.transfer (holds : RingHolds cfg.toConfig before held) {errors : BitVec 3}
    {frame : List (BitVec 8)} {later : List (List (BitVec 8))}
    (stream : before.stream = frame :: later)
    (taken : s2mmTransfer cfg.toConfig before errors = some after) :
    RingHolds cfg.toConfig after (held ++ [⟨errors, !before.inFrame,
        (frame.drop cfg.ethBufferSize).isEmpty, frame.take cfg.ethBufferSize⟩]) ∧
      after.stream = (if (frame.drop cfg.ethBufferSize).isEmpty then later
        else frame.drop cfg.ethBufferSize :: later) ∧
      after.inFrame = !(frame.drop cfg.ethBufferSize).isEmpty ∧
      after.delivered = before.delivered := by
  have invariant := holds.slots.invariant
  have inside := invariant.consume_inside
  have current := holds.curdesc
  have current_inside : before.curdesc < cfg.rxBufferCount :=
    current ▸ Window.slot_lt cfg.count_positive _ _
  simp only [s2mmTransfer, stream] at taken
  split at taken
  case isFalse => cases taken
  rename_i ours
  obtain ⟨owned_some, open_slot⟩ := Bool.and_eq_true_iff.mp ours
  obtain ⟨rx, owned⟩ := Option.isSome_iff_exists.mp owned_some
  obtain ⟨pooled, address, room⟩ := holds.slots.programmed _ rx current_inside owned
  have size : ((before.ring.rxBdRing before.curdesc).control &&& bdCtrlLenMask).toNat =
      cfg.ethBufferSize := by
    rw [room, BitVec.and_assoc, BitVec.and_self, masked_length cfg.size_field]
  rw [size, address] at taken
  obtain rfl := Option.some.inj taken
  have room_left := holds.channel_room owned_some (by simpa using open_slot)
  have posted_fits := invariant.posted_fits
  have near : held.length < cfg.rxBufferCount := by omega
  refine ⟨⟨completed_slots holds.slots _ _, ?_, ?_, ?_, ?_⟩, rfl, rfl, rfl⟩
  · rw [List.length_append, List.length_singleton]
    exact room_left
  · change (before.curdesc + 1) % cfg.rxBufferCount = _
    rw [current, Window.slot_succ, List.length_append, List.length_singleton]
    rfl
  · intro position piece here
    change SlotHolds _ _ (Window.slot _ before.ring.rxBdConsumeIndex position) _
    rcases Nat.lt_trichotomy position held.length with early | at_end | beyond
    · rw [List.getElem?_append_left early] at here
      have apart : Window.slot cfg.rxBufferCount before.ring.rxBdConsumeIndex position ≠
          before.curdesc := by
        rw [current]
        exact Window.slot_ne inside (by omega) near early.ne
      apply (holds.finished position piece here).kept holds.slots
        (Window.slot_lt cfg.count_positive _ _) current_inside apart owned rfl
      intro address other
      exact Function.update_of_ne other _ _
    · subst at_end
      rw [List.getElem?_concat_length] at here
      obtain rfl := Option.some.inj here
      rw [← current]
      refine ⟨?_, List.length_take_le _ _, ?_⟩
      · simp only [writeStatus, Function.update_self, Piece.status]
      · intro owner owner_here
        obtain rfl : rx = owner := Option.some.inj (owned.symm.trans owner_here)
        simp
    · rw [List.getElem?_eq_none (by simp; omega)] at here
      cases here
  · intro position late inside_ring
    rw [List.length_append, List.length_singleton] at late
    change ((writeStatus before.ring before.curdesc _).rxBdRing
      (Window.slot _ before.ring.rxBdConsumeIndex position)).status = _
    have apart : Window.slot cfg.rxBufferCount before.ring.rxBdConsumeIndex position ≠
        before.curdesc := by
      rw [current]
      exact Window.slot_ne inside inside_ring near (by omega)
    simp only [writeStatus, Function.update_of_ne apart]
    exact holds.clear position (by omega) inside_ring

/-- The deliveries, the pieces in the ring and the stream are the frames, in order. -/
structure FramesInOrder (cfg : Config) (frames : List (List (BitVec 8))) (system : SegmentSystem)
    (held : List Piece) : Prop where
  ring : RingHolds cfg system held
  lengths : ∀ delivery ∈ system.delivered, delivery.len = delivery.bytes.length
  order : system.delivered.map Delivery.bytes ++ held.map Piece.bytes ++ system.stream = frames

/-- With frames and deliveries in order, delivery number n is frame number n, with all of its
bytes. -/
theorem FramesInOrder.whole {frames : List (List (BitVec 8))} {system : SegmentSystem}
    (order : FramesInOrder cfg.toConfig frames system held) :
    WholeFrames frames system.delivered := by
  intro index delivery here _
  have inside := (List.getElem?_eq_some_iff.mp here).1
  refine ⟨?_, order.lengths delivery (List.mem_of_getElem? here)⟩
  rw [← order.order, List.append_assoc, List.getElem?_append_left (by simpa using inside),
    List.getElem?_map, here]
  rfl

/-- At the start nothing is delivered, the ring holds no piece, and the stream is all there is. -/
theorem segment_initial (start : ReadyRing cfg.toConfig) (memory : BitVec 32 → List (BitVec 8))
    (frames : List PassedFrame) : FramesInOrder cfg.toConfig (frames.map PassedFrame.bytes)
      (segmentInitial cfg.toConfig start memory frames) [] where
  ring := by
    have inside := start.slots.invariant.consume_inside
    refine ⟨start.slots, Nat.zero_le _, (Window.slot_zero inside).symm, ?_, ?_⟩
    · intro position piece impossible
      cases impossible
    · intro position _ _
      exact start.clear _ (Window.slot_lt cfg.count_positive _ _)
  lengths := fun _ impossible => absurd impossible List.not_mem_nil
  order := rfl

/-- A poll keeps the order: the first piece moves from the ring to the deliveries, or nothing
happens. -/
theorem FramesInOrder.poll {frames : List (List (BitVec 8))}
    (order : FramesInOrder cfg.toConfig frames before held) :
    FramesInOrder cfg.toConfig frames (segmentPoll cfg.toConfig before) held.tail := by
  cases held with
  | nil =>
    rw [order.ring.poll_nothing]
    exact order
  | cons piece rest =>
    obtain ⟨rx, ring, same, holds⟩ := order.ring.poll
    rw [same]
    refine ⟨holds, ?_, ?_⟩
    · intro delivery member
      rcases List.mem_append.mp member with earlier | last
      · exact order.lengths delivery earlier
      · rw [List.mem_singleton.mp last]
        rfl
    · rw [← order.order]
      simp [Piece.delivery]

/-- A transfer of a frame that fits moves it whole from the stream into the ring, as one piece
that both begins and ends its frame. -/
theorem FramesInOrder.transfer {frames : List (List (BitVec 8))}
    (order : FramesInOrder cfg.toConfig frames before held) {errors : BitVec 3}
    {frame : List (BitVec 8)} {later : List (List (BitVec 8))}
    (stream : before.stream = frame :: later) (fits : frame.length ≤ cfg.ethBufferSize)
    (taken : s2mmTransfer cfg.toConfig before errors = some after) :
    FramesInOrder cfg.toConfig frames after (held ++ [⟨errors, !before.inFrame, true, frame⟩]) ∧
      after.stream = later := by
  have nothing_left : frame.drop cfg.ethBufferSize = [] := List.drop_eq_nil_of_le fits
  have all_taken : frame.take cfg.ethBufferSize = frame := List.take_of_length_le fits
  obtain ⟨holds, rest, -, same⟩ := order.ring.transfer stream taken
  rw [nothing_left, all_taken] at holds
  rw [nothing_left] at rest
  refine ⟨⟨holds, same ▸ order.lengths, ?_⟩, rest⟩
  rw [← order.order, same, stream, rest]
  simp

/-- Every step keeps the order when every frame fits a buffer, one case for each of transfer,
poll and post. -/
theorem segment_step_order {frames : List (List (BitVec 8))} {label : SegmentLabel}
    (fit : ∀ frame ∈ frames, frame.length ≤ cfg.ethBufferSize)
    (order : FramesInOrder cfg.toConfig frames before held)
    (taken : segmentStep cfg before label = some after) :
    ∃ next, FramesInOrder cfg.toConfig frames after next := by
  cases label with
  | transfer errors =>
    cases stream : before.stream with
    | nil => simp [segmentStep, s2mmTransfer, stream] at taken
    | cons frame later =>
      have member : frame ∈ frames := by
        rw [← order.order, stream]
        simp
      exact ⟨_, (order.transfer stream (fit frame member) taken).1⟩
  | poll =>
    obtain rfl := Option.some.inj taken
    exact ⟨_, order.poll⟩
  | post rx =>
    simp only [segmentStep] at taken
    split at taken
    · rename_i allowed
      obtain rfl := Option.some.inj taken
      exact ⟨held, order.ring.post allowed.1 allowed.2, order.lengths, order.order⟩
    · cases taken

/-- The first buffer of the pool can be posted to an empty ring, so a run can always get a frame
through. -/
theorem RingHolds.first_post (holds : RingHolds cfg.toConfig before [])
    (empty : before.ring.rxBdPosted = 0) :
    ∃ ring, segmentStep cfg before (.post 0) = some { before with ring := ring } ∧
      RingHolds cfg.toConfig { before with ring := ring } [] ∧ ring.rxBdPosted = 1 := by
  have invariant := holds.slots.invariant
  have vacant (index : Nat) (inside : index < cfg.rxBufferCount) :
      before.ring.rxBdBuffer index = none := by
    by_contra owned
    have member := (invariant.occupied index inside).mp (Option.isSome_iff_ne_none.mpr owned)
    rw [empty] at member
    exact Window.not_member_zero member
  have absent : 0 ∉ Window.contents cfg.rxBufferCount before.ring.rxBdBuffer := by
    intro member
    obtain ⟨index, inside, owned⟩ := List.mem_filterMap.mp member
    rw [vacant index (List.mem_range.mp inside)] at owned
    cases owned
  have posted := holds.post cfg.count_positive absent
  refine ⟨_, if_pos ⟨cfg.count_positive, absent⟩, posted, ?_⟩
  rcases post_one_cases cfg.toConfig before.ring 0 with ⟨-, occupied | limited⟩ | ⟨ring, same, post⟩
  · have refill_inside : before.ring.rxBdRefillIndex < cfg.rxBufferCount :=
      invariant.refill_exact ▸ Window.slot_lt cfg.count_positive _ _
    rw [vacant _ refill_inside] at occupied
    cases occupied
  · have inflight := invariant.inflight_exact
    have posts := cfg.posts
    omega
  · rw [same]
    change ring.rxBdPosted = 1
    rw [post.posted, empty]
    rfl

/-- From a ring without completions the channel can complete a piece of the next frame
without error, and poll then hands it over. -/
theorem RingHolds.deliver_next (holds : RingHolds cfg.toConfig before [])
    {frame : List (BitVec 8)} {later : List (List (BitVec 8))}
    (stream : before.stream = frame :: later) {start : SegmentSystem}
    (reached : Run (segmentStep cfg) Unrestricted start before) :
    ∃ rx polled, Run (segmentStep cfg) Unrestricted start polled ∧
      RingHolds cfg.toConfig polled [] ∧
      polled.delivered = before.delivered ++ [⟨rx, 0, (frame.take cfg.ethBufferSize).length,
        frame.take cfg.ethBufferSize⟩] ∧
      polled.stream = if (frame.drop cfg.ethBufferSize).isEmpty then later
        else frame.drop cfg.ethBufferSize :: later := by
  obtain ⟨ready, run, held, room, same_stream, same_delivered⟩ : ∃ ready,
      Run (segmentStep cfg) Unrestricted start ready ∧ RingHolds cfg.toConfig ready [] ∧
      0 < ready.ring.rxBdPosted ∧ ready.stream = before.stream ∧
      ready.delivered = before.delivered := by
    by_cases empty : before.ring.rxBdPosted = 0
    · obtain ⟨ring, taken, posted, one⟩ := holds.first_post empty
      exact ⟨_, .step reached trivial taken, posted, one ▸ Nat.one_pos, rfl, rfl⟩
    · exact ⟨before, reached, holds, Nat.pos_of_ne_zero empty, rfl, rfl⟩
  have invariant := held.slots.invariant
  have first := Window.slot_zero invariant.consume_inside
  have current : ready.curdesc = ready.ring.rxBdConsumeIndex := held.curdesc.trans first
  have owned : (ready.ring.rxBdBuffer ready.curdesc).isSome = true := by
    rw [current]
    exact (invariant.occupied _ invariant.consume_inside).mpr ⟨0, room, first.symm⟩
  have clear := held.clear 0 le_rfl cfg.count_positive
  rw [first, ← current] at clear
  have unfinished : bdFinished 0#32 = false := by decide
  obtain ⟨completed, taken⟩ : ∃ completed,
      s2mmTransfer cfg.toConfig ready 0#3 = some completed := by
    simp [s2mmTransfer, same_stream, stream, owned, clear, unfinished]
  obtain ⟨filled, rest, -, kept⟩ := held.transfer (same_stream.trans stream) taken
  obtain ⟨rx, ring, polled, emptied⟩ := filled.poll
  have transfer_taken : segmentStep cfg ready (.transfer 0#3) = some completed := taken
  have poll_taken : segmentStep cfg completed .poll = _ := congrArg some polled
  refine ⟨rx, _, .step (.step run trivial transfer_taken) trivial poll_taken, emptied, ?_, rest⟩
  simp only [kept, same_delivered]
  rfl

/-- Frames that fit can be handed over one after another, up to any later part of the
stream. -/
theorem reach_frame {frames fitting rest : List (List (BitVec 8))}
    (fit : ∀ frame ∈ fitting, frame.length ≤ cfg.ethBufferSize) {start : SegmentSystem}
    (order : FramesInOrder cfg.toConfig frames before [])
    (stream : before.stream = fitting ++ rest)
    (reached : Run (segmentStep cfg) Unrestricted start before) :
    ∃ system, Run (segmentStep cfg) Unrestricted start system ∧
      FramesInOrder cfg.toConfig frames system [] ∧ system.stream = rest := by
  induction fitting generalizing before with
  | nil => exact ⟨before, reached, order, stream⟩
  | cons frame fitting inductionHypothesis =>
    have fits := fit frame List.mem_cons_self
    have nothing_left : frame.drop cfg.ethBufferSize = [] := List.drop_eq_nil_of_le fits
    have all_taken : frame.take cfg.ethBufferSize = frame := List.take_of_length_le fits
    obtain ⟨rx, polled, run, holds, delivered, left⟩ := order.ring.deliver_next stream reached
    rw [nothing_left] at left
    rw [all_taken] at delivered
    have polled_stream : polled.stream = fitting ++ rest := left
    refine inductionHypothesis (fun other member => fit other (List.mem_cons_of_mem _ member))
      ⟨holds, ?_, ?_⟩ polled_stream run
    · intro delivery member
      rw [delivered] at member
      rcases List.mem_append.mp member with earlier | last
      · exact order.lengths delivery earlier
      · rw [List.mem_singleton.mp last]
    · rw [← order.order, delivered, polled_stream, stream]
      simp

/-- A frame that does not fit can be handed over in part: a run brings the frames before it
through, and then polls its first piece as a frame. -/
theorem unfit_delivered {frames : List (List (BitVec 8))} {start : SegmentSystem}
    (order : FramesInOrder cfg.toConfig frames start []) (all : start.stream = frames)
    (unfit : ∃ frame ∈ frames, cfg.ethBufferSize < frame.length) :
    ∃ system, Run (segmentStep cfg) Unrestricted start system ∧
      ¬ WholeFrames frames system.delivered := by
  obtain ⟨big, found⟩ : ∃ big,
      frames.find? (fun frame => decide (cfg.ethBufferSize < frame.length)) = some big := by
    obtain ⟨frame, member, large⟩ := unfit
    exact Option.isSome_iff_exists.mp
      (List.find?_isSome.mpr ⟨frame, member, decide_eq_true large⟩)
  obtain ⟨large, fitting, rest, split, before_fit⟩ := List.find?_eq_some_iff_append.mp found
  have fit : ∀ frame ∈ fitting, frame.length ≤ cfg.ethBufferSize := by
    intro frame member
    simpa using before_fit frame member
  obtain ⟨system, run, reached, stream⟩ :=
    reach_frame fit order (all.trans split) .rest
  obtain ⟨rx, polled, poll_run, -, delivered, -⟩ := reached.ring.deliver_next stream run
  refine ⟨polled, poll_run, ?_⟩
  intro whole
  have here : polled.delivered[system.delivered.length]? =
      some ⟨rx, 0, (big.take cfg.ethBufferSize).length, big.take cfg.ethBufferSize⟩ := by
    rw [delivered, List.getElem?_concat_length]
  have claimed := (whole _ _ here rfl).1
  have actual : frames[system.delivered.length]? = some big := by
    rw [← reached.order, stream]
    simp
  rw [actual] at claimed
  have same := congrArg List.length (Option.some.inj claimed)
  have longer := of_decide_eq_true large
  simp only [List.length_take] at same
  omega

end Steps

/-- For every ring position, every content of the memory and every sequence of frames that the
gate passes: whatever the order of transfers, polls and posts, each buffer that poll hands over
without an error holds exactly the frame of its number, whole and with its true length, if and
only if every frame of the sequence fits a packet buffer.

Proof: the ring holds the frames in the order of the channel, whatever their sizes. If every
frame fits, each step keeps them whole in their buffers. If one does not fit, the run that
receives up to that frame and polls its first buffer hands on a part of it. -/
theorem one_buffer_one_frame (cfg : SegmentConfig) (start : ReadyRing cfg.toConfig)
    (memory : BitVec 32 → List (BitVec 8)) (frames : List PassedFrame) :
    (∀ system, Run (segmentStep cfg) Unrestricted
        (segmentInitial cfg.toConfig start memory frames) system →
      WholeFrames (frames.map PassedFrame.bytes) system.delivered) ↔
    ∀ frame ∈ frames, frame.bytes.length ≤ cfg.ethBufferSize := by
  have initially : FramesInOrder cfg.toConfig (frames.map PassedFrame.bytes)
      (segmentInitial cfg.toConfig start memory frames) [] := segment_initial start memory frames
  constructor
  · intro whole
    by_contra unfit
    push Not at unfit
    obtain ⟨frame, member, large⟩ := unfit
    obtain ⟨system, run, wrong⟩ :=
      unfit_delivered initially rfl ⟨frame.bytes, List.mem_map_of_mem member, large⟩
    exact wrong (whole system run)
  · intro fit system run
    have all_fit : ∀ frame ∈ frames.map PassedFrame.bytes, frame.length ≤ cfg.ethBufferSize := by
      intro bytes member
      obtain ⟨frame, inside, rfl⟩ := List.mem_map.mp member
      exact fit frame inside
    obtain ⟨held, order⟩ := run.invariant
      (fun state => ∃ held, FramesInOrder cfg.toConfig (frames.map PassedFrame.bytes) state held)
      ⟨[], initially⟩
      (fun _ _ _ ⟨_, order⟩ _ taken => segment_step_order all_fit order taken)
    exact order.whole

/-- The ring that `emz_rx_direct_start` clears is a ready ring: nothing posted, and no descriptor
programmed. -/
def ReadyRing.started (cfg : Config) : ReadyRing cfg where
  ring := emzRxDirectStartRing cfg
  slots := by
    refine ⟨start_ring_invariant cfg, ?_, ?_⟩
    · intro index rx _ impossible
      cases impossible
    · intro left right rx _ _ impossible
      cases impossible
  clear := fun _ _ => rfl

/-- The failing frame: 1519 bytes, one byte longer than a packet buffer, without an error on any
beat. -/
def longFrame : PassedFrame where
  beats := List.replicate 1518 ⟨false, false, false, 0#8⟩ ++ [⟨false, false, true, 0#8⟩]
  delimited := ⟨_, _, rfl, rfl, fun _ member => List.eq_of_mem_replicate member ▸ rfl⟩
  good := by decide +kernel

/-- Its first 1518 bytes and its last byte are handed over as two frames, both without an
error. -/
theorem long_frame_split :
    ∃ system, Run (segmentStep twoBufferSegments) Unrestricted
        (segmentInitial twoBufferConfig (.started twoBufferConfig) (fun _ => []) [longFrame])
        system ∧
      system.delivered.map (fun delivery => (delivery.status, delivery.len)) =
        [(0, 1518), (0, 1)] ∧
      ¬ WholeFrames ([longFrame].map PassedFrame.bytes) system.delivered := by
  obtain ⟨system, run, reached⟩ := run_of_execution (segmentStep twoBufferSegments)
    (fun _ _ => true)
    (segmentInitial twoBufferConfig (.started twoBufferConfig) (fun _ => []) [longFrame])
    [.post 0, .post 1, .transfer 0#3, .transfer 0#3, .poll, .poll]
    (fun system => decide (system.delivered.map (fun delivery =>
      (delivery.status, delivery.len)) = [(0, 1518), (0, 1)]))
    (fun _ _ _ => trivial) (by decide +kernel)
  have pieces := of_decide_eq_true reached
  refine ⟨system, run, pieces, ?_⟩
  intro whole
  obtain ⟨first, rest, same⟩ : ∃ first rest, system.delivered = first :: rest := by
    cases delivered : system.delivered with
    | nil => simp [delivered] at pieces
    | cons first rest => exact ⟨first, rest, rfl⟩
  simp only [same, List.map_cons, List.cons.injEq, Prod.mk.injEq] at pieces
  obtain ⟨here, len⟩ := whole 0 first (by rw [same]; rfl) pieces.1.1
  have bytes : longFrame.bytes = first.bytes := Option.some.inj here
  have length : longFrame.bytes.length = 1519 := by decide +kernel
  rw [← bytes, length, pieces.1.2] at len
  cases len

end EmaczZephyr.Driver
