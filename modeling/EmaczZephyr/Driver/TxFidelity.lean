import EmaczZephyr.Driver.TxRing
import EmaczZephyr.Foundation.Runs

/-!
# The engine emits what the calls accepted

The descriptors in flight form one window of the ring. The engine has processed a
first part of it; each later descriptor still carries, at its buffer address, the
bytes of the frame it was programmed for. So the frames emitted, followed by those
still carried and published, are the frames accepted.

A single send owns the buffer of its slot, but a burst points all its descriptors at
the buffer of its first slot. When the ring has wrapped to that slot while
descriptors of the burst are unprocessed, a single send overwrites their bytes.
Without such a send the bytes stay as programmed.
-/

namespace EmaczZephyr.Driver

open Runs

/-- The frames that a returned call contributed: as many copies as a burst reports, and one frame
for a send that returned zero. -/
def acceptedBy : TxCall × Int → List EthFrame
  | (.emaczeroProfileSendRawFrameBurst frame _, result) => List.replicate result.toNat frame
  | (call, result) => if result = 0 then [call.frame] else []

/-- The frames that the call in progress has published and will report. -/
def published : Option (TxCall × TxPoint) → List EthFrame
  | some (call, .account _) => [call.frame]
  | some (call, .burstReturn queued) => List.replicate queued call.frame
  | _ => []

/-- The emitted frames are the first of the accepted ones, in order. -/
def EmitsAccepted (system : TxSystem) : Prop :=
  system.emitted <+: system.log.flatMap acceptedBy ++ published system.current

/-- The buffer about to be overwritten is not one that an unprocessed descriptor
points at. -/
def FillsFreeBuffer (cfg : TxConfig) (system : TxSystem) (descriptor : Nat) : Prop :=
  ∀ position, position < system.txBdInflight →
    (system.txBdRing (Window.slot txBufferCount system.txCompletedBufferIndex position)).status =
      0#32 →
    (system.txBdRing
      (Window.slot txBufferCount system.txCompletedBufferIndex position)).bufferAddress ≠
      cfg.txBytes descriptor

/-- The step in which a single send fills the buffer that a burst, not yet wholly
processed, began at. -/
def fillsBurstBuffer (system : TxSystem) : TxLabel → Bool
  | .advance =>
      match system.current with
      | some (.emaczeroProfileSendRawFrameBurst _ _, _) => false
      | some (_, .fill descriptor) =>
          decide (0 < system.burstLeft) && descriptor == system.burstFirst
      | _ => false
  | _ => false

/-- No single send fills the buffer of an unfinished burst. -/
def SparesBurstBuffer (system : TxSystem) (label : TxLabel) : Prop :=
  fillsBurstBuffer system label = false

/-- The frames that the call in progress has programmed and not published. -/
def unpublished : Option (TxCall × TxPoint) → List EthFrame
  | some (call, .tail _) => [call.frame]
  | some (call, .burst _ _ queued) => List.replicate queued call.frame
  | _ => []

/-- The descriptors programmed beyond the ones counted in flight, at most one, between a single
send's tail write and its account. -/
def uncounted : Option (TxCall × TxPoint) → Nat
  | some (_, .tail _) | some (_, .account _) => 1
  | _ => 0

/-- An unprocessed descriptor that still carries a frame in the buffer of a slot. -/
structure Carries (cfg : TxConfig) (ring : Nat → TxBd) (memory : BitVec 32 → EthFrame)
    (index owner : Nat) (frame : EthFrame) : Prop where
  status : (ring index).status = 0#32
  address : (ring index).bufferAddress = cfg.txBytes owner
  length : ((ring index).control &&& bdCtrlLenMask).toNat = frame.length
  bytes : (memory (cfg.txBytes owner)).take frame.length = frame

/-- Carrying a frame depends on the descriptor and on the buffer, so anything else may change. -/
theorem Carries.same {cfg : TxConfig} {ring next : Nat → TxBd}
    {memory after : BitVec 32 → EthFrame} {index owner : Nat} {frame : EthFrame}
    (carries : Carries cfg ring memory index owner frame) (bd : next index = ring index)
    (buffer : after (cfg.txBytes owner) = memory (cfg.txBytes owner)) :
    Carries cfg next after index owner frame :=
  ⟨bd ▸ carries.status, bd ▸ carries.address, bd ▸ carries.length, buffer ▸ carries.bytes⟩

/-- The slot whose buffer the descriptor at an unprocessed position points at: the
burst's first slot for what is left of the burst, its own slot otherwise. -/
def TxSystem.owner (system : TxSystem) (done position : Nat) : Nat :=
  if position < system.burstLeft then system.burstFirst
  else Window.slot txBufferCount system.txCompletedBufferIndex (done + position)

/-- What a call knows at its program point: a free descriptor, a filled buffer, or how far its
burst has come. -/
def PointFacts (cfg : TxConfig) (system : TxSystem) (call : TxCall) : TxPoint → Prop
  | .fill descriptor => descriptor = system.txPopulatedBufferIndex ∧
      system.txBdInflight < txBufferCount ∧ call.waits system.txBdInflight = false
  | .setup => system.txBdInflight < txBufferCount ∧
      (system.memory (cfg.txBytes system.txPopulatedBufferIndex)).take call.frame.length =
        call.frame ∧ ∀ frame count, call ≠ .emaczeroProfileSendRawFrameBurst frame count
  | .tail descriptor | .account descriptor => descriptor = system.txPopulatedBufferIndex ∧
      ∀ frame count, call ≠ .emaczeroProfileSendRawFrameBurst frame count
  | .burst first last queued => ∃ frame count,
      call = .emaczeroProfileSendRawFrameBurst frame count ∧ 0 < count ∧
      queued ≤ min count txBufferCount ∧ system.txBdInflight = queued ∧
      first = system.txCompletedBufferIndex ∧ system.burstFirst = first ∧
      system.burstLeft = queued ∧ (system.memory (cfg.txBytes first)).take frame.length = frame ∧
      (0 < queued → last =
        Window.slot txBufferCount system.txCompletedBufferIndex (queued - 1))
  | .burstReturn _ => ∃ frame count, call = .emaczeroProfileSendRawFrameBurst frame count
  | _ => True

/-- The window of descriptors in flight: the first `done` are processed, the rest
carry the published `queue` and what the call in progress has programmed. -/
structure TxWindow (cfg : TxConfig) (system : TxSystem) (done : Nat) (queue : List EthFrame) :
    Prop where
  completed_inside : system.txCompletedBufferIndex < txBufferCount
  burst_inside : system.burstFirst < txBufferCount
  fits : system.txBdInflight + uncounted system.current ≤ txBufferCount
  populated : system.txPopulatedBufferIndex =
    Window.slot txBufferCount system.txCompletedBufferIndex system.txBdInflight
  whole : done + (queue ++ unpublished system.current).length =
    system.txBdInflight + uncounted system.current
  finished : ∀ position, position < done → bdFinished (system.txBdRing
    (Window.slot txBufferCount system.txCompletedBufferIndex position)).status = true
  carried : ∀ position frame, (queue ++ unpublished system.current)[position]? = some frame →
    Carries cfg system.txBdRing system.memory
      (Window.slot txBufferCount system.txCompletedBufferIndex (done + position))
      (system.owner done position) frame
  burst_left : system.burstLeft ≤ (queue ++ unpublished system.current).length
  here : system.engine.curdesc =
    Window.slot txBufferCount system.txCompletedBufferIndex done
  running : system.engine.running = !queue.isEmpty
  tail : queue ≠ [] → system.engine.taildesc =
    Window.slot txBufferCount system.txCompletedBufferIndex (done + queue.length - 1)
  order : system.emitted ++ queue = system.log.flatMap acceptedBy ++ published system.current
  valid : ∀ call point, system.current = some (call, point) →
    call.early cfg = none ∧ PointFacts cfg system call point

/-- The invariant of transmission: the descriptors in flight are a window, some of them
processed, the others carrying accepted frames in order. -/
def TxInvariant (cfg : TxConfig) (system : TxSystem) : Prop :=
  ∃ done queue, TxWindow cfg system done queue

/-- The initial ring is an empty window, and the invariant holds. -/
theorem initial_tx (cfg : TxConfig) (memory : BitVec 32 → EthFrame) :
    TxInvariant cfg (txInitial memory) := by
  refine ⟨0, [], ?_⟩
  constructor <;> simp [txInitial, uncounted, unpublished, published, tx_count_positive,
    Window.slot_zero tx_count_positive]

/-- The invariant says what is emitted: what the engine has sent is a first part
of what was accepted. -/
theorem TxInvariant.emits {cfg : TxConfig} {system : TxSystem}
    (invariant : TxInvariant cfg system) : EmitsAccepted system := by
  obtain ⟨done, queue, window⟩ := invariant
  exact ⟨queue, window.order⟩

section Steps

variable {cfg : TxConfig} {system : TxSystem} {done : Nat} {queue : List EthFrame}

/-- Positions of the window fit one revolution, so different positions are different slots. -/
theorem TxWindow.position_lt (window : TxWindow cfg system done queue) {position : Nat}
    {frame : EthFrame} (inside : (queue ++ unpublished system.current)[position]? = some frame) :
    done + position < system.txBdInflight + uncounted system.current := by
  have bound := (List.getElem?_eq_some_iff.mp inside).1
  have whole := window.whole
  omega

/-- A status word with the complete flag is a finished one. -/
theorem complete_finished {status : BitVec 32} (complete : status &&& bdStatusComplete ≠ 0#32) :
    bdFinished status = true := by
  refine bne_iff_ne.mpr ?_
  intro zero
  refine complete ?_
  have part : bdStatusComplete = (bdStatusComplete ||| bdStatusErrorMask) &&& bdStatusComplete := by
    decide
  rw [part, ← BitVec.and_assoc, zero]
  decide

/-- A point's facts do not depend on what the engine changes, unless the call is in
the burst's loop. -/
theorem point_facts_engine {call : TxCall} {point : TxPoint} {next : TxSystem}
    (facts : PointFacts cfg system call point) (not_burst : ∀ first last queued,
      point ≠ .burst first last queued) (memory : next.memory = system.memory)
    (populated : next.txPopulatedBufferIndex = system.txPopulatedBufferIndex)
    (inflight : next.txBdInflight = system.txBdInflight) : PointFacts cfg next call point := by
  cases point with
  | burst first last queued => exact absurd rfl (not_burst first last queued)
  | _ => simp only [PointFacts, memory, populated, inflight] at facts ⊢ <;> exact facts

/-- In the loop of a burst nothing is published and nothing processed, for the burst began on an
empty window. -/
theorem TxWindow.burst_empty (window : TxWindow cfg system done queue) {call : TxCall}
    {first last queued : Nat} (looping : system.current = some (call, .burst first last queued)) :
    done = 0 ∧ queue = [] := by
  obtain ⟨-, frame, count, -, -, -, inflight, -⟩ := window.valid _ _ looping
  have whole := window.whole
  simp only [looping, unpublished, uncounted, List.length_append, List.length_replicate] at whole
  exact ⟨by omega, List.length_eq_zero_iff.mp (by omega)⟩

/-- The engine takes the head of the queue, emits the bytes that its descriptor points at, and
these are the frame that it carries. -/
theorem take_window {status : BitVec 32} {next : TxSystem}
    (window : TxWindow cfg system done queue) (taken : mm2sTake system status = some next) :
    ∃ rest, TxWindow cfg next (done + 1) rest := by
  unfold mm2sTake at taken
  split at taken
  · rename_i works
    obtain rfl := Option.some.inj taken
    have running := window.running
    rw [works.1] at running
    cases queue with
    | nil => cases running
    | cons frame rest =>
      have fits := window.fits
      have whole := window.whole
      simp only [List.cons_append, List.length_cons] at whole
      have head := window.carried 0 frame rfl
      rw [Nat.add_zero, ← window.here] at head
      have others (position : Nat) (near : position < txBufferCount) (other : position ≠ done) :
          Function.update system.txBdRing system.engine.curdesc
            { system.txBdRing system.engine.curdesc with status := status }
            (Window.slot txBufferCount system.txCompletedBufferIndex position) =
          system.txBdRing (Window.slot txBufferCount system.txCompletedBufferIndex position) := by
        apply Function.update_of_ne
        rw [window.here]
        exact Window.slot_ne window.completed_inside near (by omega) other
      refine ⟨rest, window.completed_inside, window.burst_inside, fits, window.populated, ?_, ?_,
        ?_, ?_, ?_, ?_, ?_, ?_, ?_⟩
      · simp only
        omega
      · intro position early
        by_cases just_done : position = done
        · simp only [just_done, window.here, Function.update_self]
          exact complete_finished works.2
        · simp only
          rw [others position (by omega) just_done]
          exact window.finished position (by omega)
      · intro position other inside
        have shifted : (frame :: rest ++ unpublished system.current)[position + 1]? =
            some other := inside
        have near := window.position_lt shifted
        have place : done + 1 + position = done + (position + 1) := by omega
        have owner : (if position < system.burstLeft - 1 then system.burstFirst
            else Window.slot txBufferCount system.txCompletedBufferIndex (done + 1 + position)) =
            system.owner done (position + 1) := by
          rw [TxSystem.owner, place]
          exact if_congr (by omega) rfl rfl
        simp only [TxSystem.owner]
        rw [owner, place]
        exact (window.carried _ other shifted).same (others _ (by omega) (by omega)) rfl
      · have left := window.burst_left
        simp only [List.cons_append, List.length_cons] at left ⊢
        omega
      · simp only [window.here, Window.slot_succ]
      · have tail := window.tail (by simp)
        simp only [window.here, tail, List.length_cons]
        cases rest with
        | nil => simp
        | cons second others =>
          simp only [List.isEmpty_cons, Bool.not_false, bne_iff_ne, ne_eq, List.length_cons]
            at whole ⊢
          simp only [List.length_append, List.length_cons] at whole
          exact Window.slot_ne window.completed_inside (by omega) (by omega) (by omega)
      · intro some_left
        have tail := window.tail (by simp)
        simp only [List.length_cons] at tail ⊢
        rw [tail]
        congr 1
        omega
      · have order := window.order
        simp only [head.address, head.length, head.bytes]
        simpa using order
      · intro call point current
        obtain ⟨valid, facts⟩ := window.valid call point current
        refine ⟨valid, point_facts_engine facts ?_ rfl rfl rfl⟩
        rintro first last queued rfl
        cases (window.burst_empty current).2
  · cases taken

/-- Taking the processed first descriptor out of the window shifts every position by one. -/
theorem reclaim_window {next : TxSystem} (window : TxWindow cfg system done queue)
    (outside : uncounted system.current = 0)
    (facts : ∀ call point, system.current = some (call, point) → PointFacts cfg next call point)
    (reclaimed : emzTxDirectReclaim system = some next) : TxWindow cfg next (done - 1) queue := by
  unfold emzTxDirectReclaim at reclaimed
  simp only at reclaimed
  split at reclaimed
  · rename_i finished
    obtain rfl := Option.some.inj reclaimed
    have fits := window.fits
    have whole := window.whole
    have first := Window.slot_zero window.completed_inside
    rw [outside] at fits whole
    have passed : 0 < done := by
      by_contra none
      have zero : done = 0 := by omega
      have some_frame : 0 < (queue ++ unpublished system.current).length := by omega
      have head := (window.carried 0 _ (List.getElem?_eq_getElem some_frame)).status
      rw [zero, Nat.add_zero, first] at head
      rw [head] at finished
      exact absurd finished.2 (by decide)
    have others (position : Nat) (near : position + 1 < txBufferCount) :
        Function.update system.txBdRing system.txCompletedBufferIndex
          { system.txBdRing system.txCompletedBufferIndex with control := 0#32, status := 0#32 }
          (Window.slot txBufferCount system.txCompletedBufferIndex (position + 1)) =
        system.txBdRing
          (Window.slot txBufferCount system.txCompletedBufferIndex (position + 1)) := by
      exact Function.update_of_ne (Window.slot_ne_first window.completed_inside near) _ _
    refine ⟨Nat.mod_lt _ tx_count_positive, window.burst_inside, by simp only [outside]; omega, ?_,
      by simp only [outside]; omega, ?_, ?_, window.burst_left, ?_, window.running, ?_,
      window.order,
      fun call point current => ⟨(window.valid call point current).1, facts call point current⟩⟩
    · simp only [window.populated, Window.slot_advance]
      congr 1
      omega
    · intro position early
      simp only [Window.slot_advance]
      rw [others position (by omega)]
      exact window.finished _ (by omega)
    · intro position frame inside
      have near := window.position_lt inside
      have place : done - 1 + position + 1 = done + position := by omega
      have bd := others (done - 1 + position) (by omega)
      rw [place] at bd
      simp only [TxSystem.owner, Window.slot_advance, place]
      exact (window.carried position frame inside).same bd rfl
    · simp only [window.here, Window.slot_advance]
      congr 1
      omega
    · intro some_left
      simp only [window.tail some_left, Window.slot_advance]
      congr 1
      have length := List.length_pos_iff.mpr some_left
      omega
  · cases reclaimed

/-- What holds of the call in progress holds of whatever call is found in progress. -/
theorem only_current {current : Option (TxCall × TxPoint)} {call : TxCall} {point : TxPoint}
    {property : TxCall → TxPoint → Prop} (here : current = some (call, point))
    (holds : property call point) :
    ∀ other place, current = some (other, place) → property other place := by
  intro other place found
  obtain ⟨rfl, rfl⟩ := Prod.mk.inj (Option.some.inj (here.symm.trans found))
  exact holds

/-- Changing only the holder's program point, between points that publish and
program the same. -/
theorem TxWindow.repoint (window : TxWindow cfg system done queue)
    {next : Option (TxCall × TxPoint)} (unpub : unpublished next = unpublished system.current)
    (uncount : uncounted next = uncounted system.current)
    (publ : published next = published system.current)
    (valid : ∀ call point, next = some (call, point) →
      call.early cfg = none ∧ PointFacts cfg { system with current := next } call point) :
    TxWindow cfg { system with current := next } done queue := by
  refine ⟨window.completed_inside, window.burst_inside, ?_, window.populated, ?_, window.finished,
    ?_, ?_, window.here, window.running, window.tail, ?_, valid⟩
  · simp only [uncount]
    exact window.fits
  · simp only [unpub, uncount]
    exact window.whole
  · simp only [unpub]
    exact window.carried
  · simp only [unpub]
    exact window.burst_left
  · simp only [publ]
    exact window.order

/-- A call that reports what it published leaves the same frames accepted, and the lock free. -/
theorem TxWindow.leave (window : TxWindow cfg system done queue) {call : TxCall} {result : Int}
    (programmed : unpublished system.current = []) (counted : uncounted system.current = 0)
    (reports : acceptedBy (call, result) = published system.current) :
    TxWindow cfg (system.leave call result) done queue := by
  obtain ⟨completed, burst, fits, populated, whole, finished, carried, left, here, running, tail,
    order, -⟩ := window
  rw [counted] at fits whole
  rw [programmed] at whole carried left
  refine ⟨completed, burst, fits, populated, whole, finished, carried, left, here, running, tail,
    ?_, fun _ _ impossible => nomatch impossible⟩
  simp only [TxSystem.leave, List.flatMap_append, List.flatMap_singleton, reports]
  simpa [published] using order

/-- A call that failed contributed nothing, whether a send or a burst. -/
theorem failed_accepted {call : TxCall} {result : Int} (failed : result < 0) :
    acceptedBy (call, result) = [] := by
  cases call with
  | emaczeroProfileSendRawFrameBurst frame count =>
    simp only [acceptedBy, Int.toNat_of_nonpos failed.le, List.replicate_zero]
  | _ => simp [acceptedBy, failed.ne]

/-- An early return contributed nothing, because each of them is an error. -/
theorem early_accepted {call : TxCall} {result : Int} (early : call.early cfg = some result) :
    acceptedBy (call, result) = [] := by
  unfold TxCall.early at early
  split at early
  · obtain rfl := Option.some.inj early
    exact failed_accepted (by decide)
  · split at early
    · obtain rfl := Option.some.inj early
      rfl
    · cases early

/-- The buffer of an unprocessed descriptor is that of a slot of the ring. -/
theorem TxWindow.owner_lt (window : TxWindow cfg system done queue) (position : Nat) :
    system.owner done position < txBufferCount := by
  unfold TxSystem.owner
  split
  · exact window.burst_inside
  · exact Window.slot_lt tx_count_positive _ _

/-- A free slot's buffer belongs to no unprocessed descriptor, unless a burst that
began there is unfinished. -/
theorem TxWindow.owner_ne (window : TxWindow cfg system done queue)
    (room : system.txBdInflight < txBufferCount) (outside : uncounted system.current = 0)
    (spared : 0 < system.burstLeft → system.burstFirst ≠ system.txPopulatedBufferIndex)
    {position : Nat} {frame : EthFrame}
    (inside : (queue ++ unpublished system.current)[position]? = some frame) :
    system.owner done position ≠ system.txPopulatedBufferIndex := by
  have near := window.position_lt inside
  unfold TxSystem.owner
  split
  · exact spared (by omega)
  · rw [window.populated]
    exact Window.slot_ne window.completed_inside (by omega) room (by omega)

/-- Copying into the buffer of the free slot leaves every carried frame, unless a burst's
descriptors still point at this buffer; that is the condition. -/
theorem copy_window (window : TxWindow cfg system done queue)
    (room : system.txBdInflight < txBufferCount) (outside : uncounted system.current = 0)
    (spared : 0 < system.burstLeft → system.burstFirst ≠ system.txPopulatedBufferIndex)
    (bytes : EthFrame) (next : Option (TxCall × TxPoint)) (unpub : unpublished next = [])
    (before : unpublished system.current = []) (uncount : uncounted next = 0)
    (publ : published next = published system.current)
    (valid : ∀ call point, next = some (call, point) → call.early cfg = none ∧
      PointFacts cfg { system.copy (cfg.txBytes system.txPopulatedBufferIndex) bytes with
        current := next } call point) :
    TxWindow cfg { system.copy (cfg.txBytes system.txPopulatedBufferIndex) bytes with
      current := next } done queue := by
  have populated_inside : system.txPopulatedBufferIndex < txBufferCount :=
    window.populated ▸ Window.slot_lt tx_count_positive _ _
  have fits := window.fits
  have whole := window.whole
  have carried := window.carried
  have left := window.burst_left
  rw [outside] at fits whole
  rw [before] at whole left
  refine ⟨window.completed_inside, window.burst_inside, by rw [uncount]; exact fits,
    window.populated, by rw [uncount, unpub]; exact whole, window.finished, ?_,
    by rw [unpub]; exact left, window.here, window.running, window.tail,
    by rw [publ]; exact window.order, valid⟩
  intro position frame inside
  have old : (queue ++ unpublished system.current)[position]? = some frame := by
    simpa only [unpub, before] using inside
  refine (carried position frame old).same rfl (Function.update_of_ne ?_ _ _)
  intro same
  exact window.owner_ne room outside spared old
    (cfg.bytes_distinct _ _ (window.owner_lt position) populated_inside same)

/-- The bytes just copied are the first of the buffer. -/
theorem copied_bytes (system : TxSystem) (address : BitVec 32) (bytes : EthFrame) :
    ((system.copy address bytes).memory address).take bytes.length = bytes := by
  simp [TxSystem.copy]

/-- The programmed length is read back by the engine: a valid length fits its field, and the
flags are outside of it. -/
theorem programmed_tx_length {len : Nat} (fits : len ≤ cfg.ethBufferSize) :
    ((bdCtrlSof ||| bdCtrlEof ||| (BitVec.ofNat 32 len &&& bdCtrlLenMask)) &&&
      bdCtrlLenMask).toNat = len := by
  have field := cfg.size_field
  have flags : (bdCtrlSof ||| bdCtrlEof) &&& bdCtrlLenMask = 0#32 := by decide
  have split : (bdCtrlSof ||| bdCtrlEof ||| (BitVec.ofNat 32 len &&& bdCtrlLenMask)) &&&
      bdCtrlLenMask = BitVec.ofNat 32 len &&& bdCtrlLenMask := by
    rw [BitVec.and_or_distrib_right, flags, BitVec.zero_or, BitVec.and_assoc, BitVec.and_self]
  rw [split, BitVec.toNat_and, BitVec.toNat_ofNat, Nat.mod_eq_of_lt (by omega)]
  change len &&& (2 ^ 26 - 1) = _
  rw [Nat.and_two_pow_sub_one_eq_mod, Nat.mod_eq_of_lt (by omega)]

/-- A valid call's frame fits a buffer, by the check at its entry. -/
theorem valid_length {call : TxCall} (valid : call.early cfg = none) :
    call.frame.length ≤ cfg.ethBufferSize := by
  unfold TxCall.early at valid
  split at valid
  · cases valid
  · omega

/-- Programming the free slot leaves the window's descriptors, which are in other slots. -/
theorem TxWindow.program_others (window : TxWindow cfg system done queue)
    (room : system.txBdInflight < txBufferCount) (address : BitVec 32) (len : Nat)
    {position : Nat} (inside : position < system.txBdInflight) :
    (system.program system.txPopulatedBufferIndex address len).txBdRing
        (Window.slot txBufferCount system.txCompletedBufferIndex position) =
      system.txBdRing (Window.slot txBufferCount system.txCompletedBufferIndex position) := by
  apply Function.update_of_ne
  rw [window.populated]
  exact Window.slot_ne window.completed_inside (by omega) room (by omega)

/-- The programmed descriptor carries the frame whose bytes its buffer holds. -/
theorem program_carries (system : TxSystem) (index owner : Nat) {frame : EthFrame}
    (fits : frame.length ≤ cfg.ethBufferSize)
    (bytes : (system.memory (cfg.txBytes owner)).take frame.length = frame) :
    Carries cfg (system.program index (cfg.txBytes owner) frame.length).txBdRing system.memory
      index owner frame := by
  constructor
  · simp [TxSystem.program]
  · simp [TxSystem.program]
  · simp only [TxSystem.program, Function.update_self]
    exact programmed_tx_length fits
  · exact bytes

/-- An entry of a list with one more element is an old entry or the new one. -/
theorem appended_cases {α : Type*} {entries : List α} {last found : α} {position : Nat}
    (inside : (entries ++ [last])[position]? = some found) :
    entries[position]? = some found ∨ position = entries.length ∧ found = last := by
  rcases Nat.lt_trichotomy position entries.length with before | at_end | beyond
  · rw [List.getElem?_append_left before] at inside
    exact .inl inside
  · subst at_end
    rw [List.getElem?_concat_length] at inside
    exact .inr ⟨rfl, (Option.some.inj inside).symm⟩
  · rw [List.getElem?_eq_none (by simp; omega)] at inside
    cases inside

/-- A single send programs its slot for its frame, which is not yet published. -/
theorem setup_window {call : TxCall} (window : TxWindow cfg system done queue)
    (here : system.current = some (call, .setup)) :
    TxWindow cfg ((system.program system.txPopulatedBufferIndex
      (cfg.txBytes system.txPopulatedBufferIndex) call.frame.length).proceed call
        (.tail system.txPopulatedBufferIndex)) done queue := by
  obtain ⟨valid, room, bytes, single⟩ := window.valid _ _ here
  have whole := window.whole
  have carried := window.carried
  have left := window.burst_left
  have order := window.order
  simp only [here, unpublished, uncounted, published, List.append_nil, Nat.add_zero]
    at whole carried left order
  refine ⟨window.completed_inside, window.burst_inside, room, window.populated, ?_, ?_, ?_, ?_,
    window.here, window.running, window.tail, ?_, ?_⟩
  · simp only [TxSystem.proceed, unpublished, uncounted, TxSystem.program, List.length_append,
      List.length_singleton]
    omega
  · intro position early
    have inside : position < system.txBdInflight := by omega
    change bdFinished ((system.program _ _ _).txBdRing
      (Window.slot txBufferCount system.txCompletedBufferIndex position)).status = true
    rw [window.program_others room _ _ inside]
    exact window.finished position early
  · intro position frame inside
    change Carries cfg (system.program _ _ _).txBdRing system.memory
      (Window.slot txBufferCount system.txCompletedBufferIndex (done + position))
      (system.owner done position) frame
    rcases appended_cases inside with old | ⟨rfl, rfl⟩
    · have near := (List.getElem?_eq_some_iff.mp old).1
      exact (carried position frame old).same (window.program_others room _ _ (by omega)) rfl
    · have owner : system.owner done queue.length = system.txPopulatedBufferIndex := by
        rw [TxSystem.owner, if_neg (by omega), whole, window.populated]
      rw [owner, whole, ← window.populated]
      exact program_carries system _ _ (valid_length valid) bytes
  · simp only [TxSystem.proceed, unpublished, TxSystem.program, List.length_append,
      List.length_singleton]
    omega
  · simpa [TxSystem.proceed, TxSystem.program, published] using order
  · exact only_current rfl ⟨valid, rfl, single⟩

/-- The burst's loop programs one more descriptor for the shared buffer, all of them carrying the
one frame. -/
theorem burst_window {frame : EthFrame} {count first last queued : Nat}
    (window : TxWindow cfg system done queue)
    (here : system.current =
      some (.emaczeroProfileSendRawFrameBurst frame count, .burst first last queued))
    (more : queued < min count txBufferCount) :
    TxWindow cfg { ((system.program system.txPopulatedBufferIndex (cfg.txBytes first)
        frame.length).advance system.txPopulatedBufferIndex).proceed
          (.emaczeroProfileSendRawFrameBurst frame count)
          (.burst first system.txPopulatedBufferIndex (queued + 1)) with
        burstLeft := system.burstLeft + 1 } done queue := by
  obtain ⟨rfl, rfl⟩ := window.burst_empty here
  obtain ⟨valid, sent, times, same, positive, some_queued, inflight, start, ghost, left, bytes,
    -⟩ := window.valid _ _ here
  obtain ⟨rfl, rfl⟩ := TxCall.emaczeroProfileSendRawFrameBurst.inj same
  have room : system.txBdInflight < txBufferCount := by omega
  have carried := window.carried
  simp only [here, unpublished, List.nil_append, Nat.zero_add] at carried
  refine ⟨window.completed_inside, window.burst_inside, ?_, ?_, ?_, ?_, ?_, ?_, window.here,
    window.running, fun some_frame => absurd rfl some_frame, ?_, ?_⟩
  · simp only [TxSystem.proceed, TxSystem.advance, TxSystem.program, uncounted]
    omega
  · change (system.txPopulatedBufferIndex + 1) % txBufferCount =
      Window.slot txBufferCount system.txCompletedBufferIndex (system.txBdInflight + 1)
    rw [window.populated, Window.slot_succ]
  · simp only [TxSystem.proceed, TxSystem.advance, TxSystem.program, uncounted, unpublished,
      List.nil_append, List.length_replicate]
    omega
  · intro position impossible
    exact absurd impossible (Nat.not_lt_zero _)
  · intro position found inside
    simp only [TxSystem.proceed, unpublished, List.nil_append] at inside
    have near := (List.getElem?_eq_some_iff.mp inside).1
    rw [List.length_replicate] at near
    change Carries cfg (system.program _ _ _).txBdRing system.memory
      (Window.slot txBufferCount system.txCompletedBufferIndex (0 + position))
      (if position < system.burstLeft + 1 then system.burstFirst else _) found
    rw [if_pos (by omega), Nat.zero_add, ghost]
    rw [List.replicate_succ'] at inside
    rcases appended_cases inside with old | ⟨at_end, rfl⟩
    · have before := (List.getElem?_eq_some_iff.mp old).1
      rw [List.length_replicate] at before
      have owner : system.owner 0 position = first := by
        rw [TxSystem.owner, if_pos (by omega), ghost]
      exact (owner ▸ carried position found old).same
        (window.program_others room _ _ (by omega)) rfl
    · rw [List.length_replicate] at at_end
      rw [at_end, ← inflight, ← window.populated]
      exact program_carries system _ _ (valid_length valid) bytes
  · change system.burstLeft + 1 ≤ (List.replicate (queued + 1) frame).length
    rw [List.length_replicate]
    omega
  · simpa [here, published, TxSystem.proceed, TxSystem.advance, TxSystem.program]
      using window.order
  · refine only_current rfl
      ⟨valid, frame, count, rfl, positive, by omega, ?_, start, ghost, ?_, bytes, ?_⟩
    · change system.txBdInflight + 1 = queued + 1
      omega
    · change system.burstLeft + 1 = queued + 1
      omega
    · intro _
      change system.txPopulatedBufferIndex = Window.slot txBufferCount
        system.txCompletedBufferIndex (queued + 1 - 1)
      rw [window.populated, inflight, Nat.add_sub_cancel]

/-- A tail write publishes what the call has programmed: the queue grows by these frames, and the
engine runs. -/
theorem tail_window {call : TxCall} {point : TxPoint} {index : Nat}
    (window : TxWindow cfg system done queue)
    (tail : unpublished system.current ≠ [] → index = Window.slot txBufferCount
      system.txCompletedBufferIndex (system.txBdInflight + uncounted system.current - 1))
    (programmed : unpublished system.current ≠ [])
    (unpub : unpublished (some (call, point)) = [])
    (uncount : uncounted (some (call, point)) = uncounted system.current)
    (nothing : published system.current = [])
    (publ : published (some (call, point)) = unpublished system.current)
    (valid : call.early cfg = none ∧ PointFacts cfg system call point)
    (not_burst : ∀ first last queued, point ≠ .burst first last queued) :
    TxWindow cfg { system.proceed call point with engine := system.engine.writeTaildesc index }
      done (queue ++ unpublished system.current) := by
  have whole := window.whole
  have order := window.order
  have some_left : queue ++ unpublished system.current ≠ [] := by simp [programmed]
  refine ⟨window.completed_inside, window.burst_inside, ?_, window.populated, ?_, window.finished,
    ?_, ?_, window.here, ?_, ?_, ?_, ?_⟩
  · simp only [TxSystem.proceed, uncount]
    exact window.fits
  · simp only [TxSystem.proceed, unpub, uncount, List.append_nil]
    exact whole
  · simp only [TxSystem.proceed, unpub, List.append_nil]
    exact window.carried
  · simp only [TxSystem.proceed, unpub, List.append_nil]
    exact window.burst_left
  · simp [Mm2s.writeTaildesc, List.isEmpty_eq_false_iff.mpr some_left]
  · intro _
    change index = _
    rw [tail programmed, whole]
    rfl
  · change system.emitted ++ (queue ++ unpublished system.current) =
      system.log.flatMap acceptedBy ++ published (some (call, point))
    rw [publ, ← List.append_assoc, order, nothing, List.append_nil]
  · exact only_current rfl ⟨valid.1, point_facts_engine valid.2 not_burst rfl rfl rfl⟩

/-- A single send counts its descriptor and reports success, which makes its frame an accepted
one. -/
theorem account_window {call : TxCall} {descriptor : Nat}
    (window : TxWindow cfg system done queue)
    (here : system.current = some (call, .account descriptor)) :
    TxWindow cfg ((system.advance descriptor).leave call 0) done queue := by
  obtain ⟨-, rfl, single⟩ := window.valid _ _ here
  have fits := window.fits
  have whole := window.whole
  have carried := window.carried
  have left := window.burst_left
  have order := window.order
  simp only [here, uncounted, unpublished, published, List.append_nil]
    at fits whole carried left order
  have reports : acceptedBy (call, 0) = [call.frame] := by
    cases call with
    | emaczeroProfileSendRawFrameBurst frame count => exact absurd rfl (single frame count)
    | _ => rfl
  refine ⟨window.completed_inside, window.burst_inside, fits, ?_, ?_, window.finished, ?_, ?_,
    window.here, window.running, window.tail, ?_, fun _ _ impossible => nomatch impossible⟩
  · change (system.txPopulatedBufferIndex + 1) % txBufferCount =
      Window.slot txBufferCount system.txCompletedBufferIndex (system.txBdInflight + 1)
    rw [window.populated, Window.slot_succ]
  · simpa [TxSystem.leave, TxSystem.advance, unpublished, uncounted] using whole
  · intro position frame inside
    exact carried position frame (by simpa [TxSystem.leave, unpublished] using inside)
  · simpa [TxSystem.leave, TxSystem.advance, unpublished] using left
  · simpa [TxSystem.leave, TxSystem.advance, published, reports] using order

/-- The fill of an admitted step spares the buffer of an unfinished burst, by the condition for
sends and by the empty window for bursts. -/
theorem spared_fill {call : TxCall} {descriptor : Nat}
    (window : TxWindow cfg system done queue)
    (here : system.current = some (call, .fill descriptor))
    (spares : SparesBurstBuffer system .advance) :
    0 < system.burstLeft → system.burstFirst ≠ system.txPopulatedBufferIndex := by
  intro some_left same
  obtain ⟨-, rfl, room, waits⟩ := window.valid _ _ here
  cases call with
  | emaczeroProfileSendRawFrameBurst frame count =>
    -- A burst fills only when nothing is in flight.
    have empty : system.txBdInflight = 0 := by simpa [TxCall.waits] using waits
    have outside : uncounted system.current = 0 := by simp [here, uncounted]
    have whole := window.whole
    have left := window.burst_left
    omega
  | _ => simp [SparesBurstBuffer, fillsBurstBuffer, here, some_left, same] at spares

/-- A burst that takes the lock has something to send, because a count of zero returns early. -/
theorem burst_count_positive {frame : EthFrame} {count : Nat}
    (valid : TxCall.early cfg (.emaczeroProfileSendRawFrameBurst frame count) = none) :
    0 < count := by
  refine Nat.pos_of_ne_zero ?_
  rintro rfl
  unfold TxCall.early at valid
  split at valid <;> cases valid

/-- A burst starts on an empty window, fills the buffer of the free slot and has programmed
nothing yet. -/
theorem burst_start {frame : EthFrame} {count descriptor : Nat}
    (window : TxWindow cfg system done queue)
    (here : system.current =
      some (.emaczeroProfileSendRawFrameBurst frame count, .fill descriptor))
    (empty : system.txBdInflight = 0) :
    TxWindow cfg (txAdvance cfg system (.emaczeroProfileSendRawFrameBurst frame count)
      (.fill descriptor)) 0 [] := by
  obtain ⟨valid, rfl, -, -⟩ := window.valid _ _ here
  have whole := window.whole
  simp only [here, unpublished, uncounted, List.append_nil, empty] at whole
  obtain ⟨rfl, none⟩ : done = 0 ∧ queue.length = 0 := ⟨by omega, by omega⟩
  obtain rfl := List.length_eq_zero_iff.mp none
  have start : system.txPopulatedBufferIndex = system.txCompletedBufferIndex := by
    rw [window.populated, empty, Window.slot_zero window.completed_inside]
  have positive := burst_count_positive valid
  refine ⟨window.completed_inside, ?_, ?_, window.populated, ?_, ?_, ?_, Nat.zero_le _,
    window.here, window.running, fun some_frame => absurd rfl some_frame, ?_, ?_⟩
  · change system.txPopulatedBufferIndex < txBufferCount
    rw [start]
    exact window.completed_inside
  · change system.txBdInflight + 0 ≤ txBufferCount
    omega
  · change 0 + ([] ++ List.replicate 0 frame).length = system.txBdInflight + 0
    simp [empty]
  · intro position impossible
    exact absurd impossible (Nat.not_lt_zero _)
  · intro position found inside
    change ([] ++ List.replicate 0 frame)[position]? = some found at inside
    simp at inside
  · simpa [here, published, txAdvance, TxSystem.proceed, TxSystem.copy] using window.order
  · exact only_current rfl
      ⟨valid, frame, count, rfl, positive, Nat.zero_le _, empty, start, rfl, rfl,
        copied_bytes system _ frame, fun impossible => absurd impossible (Nat.lt_irrefl 0)⟩

/-- Filling the free slot's buffer keeps the invariant, for a packet that cannot be read, for a
send and for a burst. -/
theorem fill_window {call : TxCall} {descriptor : Nat}
    (window : TxWindow cfg system done queue)
    (here : system.current = some (call, .fill descriptor))
    (spares : SparesBurstBuffer system .advance) :
    TxInvariant cfg (txAdvance cfg system call (.fill descriptor)) := by
  obtain ⟨valid, rfl, room, waits⟩ := window.valid _ _ here
  have spared := spared_fill window here spares
  have outside : uncounted system.current = 0 := by simp [here, uncounted]
  have nothing : unpublished system.current = [] := by simp [here, unpublished]
  have unreported : published system.current = [] := by simp [here, published]
  have copied := copy_window window room outside spared
  cases call with
  | emzSend packet readFails =>
    cases readFails with
    | some written =>
      have left : TxWindow cfg
          { system.copy (cfg.txBytes system.txPopulatedBufferIndex) written with
            current := none } done queue :=
        copied written none rfl nothing rfl unreported.symm
          (fun _ _ impossible => nomatch impossible)
      exact ⟨done, queue, left.leave rfl rfl (failed_accepted (by decide))⟩
    | none =>
      refine ⟨done, queue, copied packet _ rfl nothing rfl unreported.symm ?_⟩
      exact only_current rfl ⟨valid, room, copied_bytes system _ packet, by simp⟩
  | emaczeroSendRawFrame frame =>
    refine ⟨done, queue, copied frame _ rfl nothing rfl unreported.symm ?_⟩
    exact only_current rfl ⟨valid, room, copied_bytes system _ frame, by simp⟩
  | emaczeroProfileSendRawFrameBurst frame count =>
    have empty : system.txBdInflight = 0 := by simpa [TxCall.waits] using waits
    exact ⟨0, [], burst_start window here empty⟩

/-- A call that need not wait has a free descriptor. -/
theorem room_of_ready {call : TxCall} {inflight : Nat} (ready : call.waits inflight = false) :
    inflight < txBufferCount := by
  cases call with
  | emaczeroProfileSendRawFrameBurst frame count =>
    have empty : inflight = 0 := by simpa [TxCall.waits] using ready
    exact empty ▸ tx_count_positive
  | _ => simpa [TxCall.waits] using ready

/-- An admitted step of the lock's holder keeps the invariant, one case for each program point. -/
theorem advance_tx {call : TxCall} {point : TxPoint} (invariant : TxInvariant cfg system)
    (here : system.current = some (call, point)) (spares : SparesBurstBuffer system .advance) :
    TxInvariant cfg (txAdvance cfg system call point) := by
  obtain ⟨done, queue, window⟩ := invariant
  obtain ⟨valid, facts⟩ := window.valid _ _ here
  cases point with
  | reclaim waited =>
    cases reclaimed : emzTxDirectReclaim system with
    | some next =>
      simp only [txAdvance, reclaimed]
      refine ⟨done - 1, queue, reclaim_window window (by simp [here, uncounted]) ?_ reclaimed⟩
      rintro other point current
      obtain ⟨rfl, rfl⟩ := Prod.mk.inj (Option.some.inj (current.symm.trans here))
      trivial
    | none =>
      simp only [txAdvance, reclaimed]
      refine ⟨done, queue, window.repoint (by simp [here, unpublished]) (by simp [here, uncounted])
        (by simp [here, published]) ?_⟩
      exact only_current rfl ⟨valid, trivial⟩
  | check waited =>
    simp only [txAdvance]
    split
    · split
      · exact ⟨done, queue, window.leave (by simp [here, unpublished]) (by simp [here, uncounted])
          ((failed_accepted (by decide)).trans (by simp [here, published]))⟩
      · refine ⟨done, queue, window.repoint (by simp [here, unpublished])
          (by simp [here, uncounted]) (by simp [here, published]) ?_⟩
        exact only_current rfl ⟨valid, trivial⟩
    · rename_i ready
      have room : system.txBdInflight < txBufferCount := room_of_ready (by simpa using ready)
      refine ⟨done, queue, window.repoint (by simp [here, unpublished]) (by simp [here, uncounted])
        (by simp [here, published]) ?_⟩
      exact only_current rfl ⟨valid, rfl, room, by simpa using ready⟩
  | fill descriptor => exact fill_window window here spares
  | setup =>
    simp only [txAdvance, if_neg (Nat.not_le.mpr facts.1)]
    exact ⟨done, queue, setup_window window here⟩
  | tail descriptor =>
    obtain ⟨rfl, single⟩ := facts
    refine ⟨done, _, tail_window window ?_ (by simp [here, unpublished]) rfl
      (by simp [here, uncounted]) (by simp [here, published])
      (by simp [here, unpublished, published]) ⟨valid, rfl, single⟩ (by simp)⟩
    intro _
    simp [here, uncounted, window.populated]
  | account descriptor => exact ⟨done, queue, account_window window here⟩
  | burst first last queued =>
    obtain ⟨frame, count, rfl, positive, some_queued, inflight, start, ghost, left, bytes, tail⟩ :=
      facts
    simp only [txAdvance]
    split
    · rename_i more
      exact ⟨done, queue, burst_window window here more⟩
    · rename_i enough
      have all : 0 < queued := by
        have count_positive := tx_count_positive
        omega
      refine ⟨done, _, tail_window window ?_ ?_ rfl (by simp [here, uncounted])
        (by simp [here, published]) (by simp [here, unpublished, published, TxCall.frame])
        ⟨valid, frame, count, rfl⟩ (by simp)⟩
      · intro _
        simp only [here, uncounted, Nat.add_zero, inflight]
        exact tail all
      · simp only [here, unpublished, ne_eq, List.replicate_eq_nil_iff]
        omega
  | burstReturn queued =>
    obtain ⟨frame, count, rfl⟩ := facts
    refine ⟨done, queue, window.leave (by simp [here, unpublished]) (by simp [here, uncounted]) ?_⟩
    simp [here, published, acceptedBy, TxCall.frame]

/-- An admitted step keeps the invariant: the entry of a call, a step of the lock's holder, or
the engine. -/
theorem tx_step_invariant {next : TxSystem} {label : TxLabel} (invariant : TxInvariant cfg system)
    (spares : SparesBurstBuffer system label) (taken : txStep cfg system label = some next) :
    TxInvariant cfg next := by
  cases label with
  | call call =>
    obtain ⟨done, queue, window⟩ := invariant
    simp only [txStep] at taken
    split at taken
    · rename_i result early
      obtain rfl := Option.some.inj taken
      refine ⟨done, queue, window.completed_inside, window.burst_inside, window.fits,
        window.populated, window.whole, window.finished, window.carried, window.burst_left,
        window.here, window.running, window.tail, ?_, ?_⟩
      · simpa [early_accepted early] using window.order
      · intro other point current
        exact ⟨(window.valid other point current).1, by
          have facts := (window.valid other point current).2
          cases point <;> exact facts⟩
    · rename_i accepted
      split at taken
      · rename_i free
        obtain rfl := Option.some.inj taken
        refine ⟨done, queue, window.repoint (by simp [free, unpublished])
          (by simp [free, uncounted]) (by simp [free, published]) ?_⟩
        exact only_current rfl ⟨accepted, trivial⟩
      · cases taken
  | advance =>
    simp only [txStep] at taken
    split at taken
    · rename_i call point here
      obtain rfl := Option.some.inj taken
      exact advance_tx invariant here spares
    · cases taken
  | engine status =>
    obtain ⟨done, queue, window⟩ := invariant
    obtain ⟨rest, after⟩ := take_window window taken
    exact ⟨done + 1, rest, after⟩

/-- An admitted fill overwrites no buffer that an unprocessed descriptor points at. -/
theorem TxInvariant.fills_free {call : TxCall} {descriptor : Nat}
    (invariant : TxInvariant cfg system) (here : system.current = some (call, .fill descriptor))
    (spares : SparesBurstBuffer system .advance) : FillsFreeBuffer cfg system descriptor := by
  obtain ⟨done, queue, window⟩ := invariant
  obtain ⟨-, rfl, room, -⟩ := window.valid _ _ here
  have whole := window.whole
  simp only [here, unpublished, uncounted, List.append_nil, Nat.add_zero] at whole
  intro position inside unprocessed same
  -- A descriptor whose status is 0 is past the processed ones.
  have late : done ≤ position := by
    by_contra early
    have finished := window.finished position (Nat.not_le.mp early)
    rw [unprocessed] at finished
    exact absurd finished (by decide)
  obtain ⟨frame, entry⟩ : ∃ frame, (queue ++ unpublished system.current)[position - done]? =
      some frame := by
    have near : position - done < (queue ++ unpublished system.current).length := by
      simp only [here, unpublished, List.append_nil]
      omega
    exact ⟨_, List.getElem?_eq_getElem near⟩
  have carries := window.carried _ _ entry
  rw [Nat.add_sub_cancel' late] at carries
  apply window.owner_ne room (by simp [here, uncounted]) (spared_fill window here spares) entry
  apply cfg.bytes_distinct _ _ (window.owner_lt _)
  · rw [window.populated]
    apply Window.slot_lt tx_count_positive
  · exact carries.address.symm.trans same

end Steps

/-- In every interleaving in which no single send fills the buffer of an unfinished burst, the
engine emits the accepted frames in order with their bytes, and no buffer is overwritten while an
unprocessed descriptor points at it.

Proof: the descriptors in flight are a window, of which some are processed and the others carry
accepted frames in order. The condition is used where a send writes into a buffer. -/
theorem tx_emits_accepted (cfg : TxConfig) (memory : BitVec 32 → EthFrame) (system : TxSystem)
    (run : Run (txStep cfg) SparesBurstBuffer (txInitial memory) system) :
    EmitsAccepted system ∧
      ∀ call descriptor, system.current = some (call, .fill descriptor) →
        SparesBurstBuffer system .advance → FillsFreeBuffer cfg system descriptor := by
  have invariant : TxInvariant cfg system :=
    run.invariant (TxInvariant cfg) (initial_tx cfg memory)
      (fun _ _ _ invariant spares taken => tx_step_invariant invariant spares taken)
  exact ⟨invariant.emits, fun _ _ here spares => invariant.fills_free here spares⟩

/-- Buffers 1536 bytes apart are different memory, for all 32 of them. -/
theorem packed_distinct (left right : Nat) (left_inside : left < txBufferCount)
    (right_inside : right < txBufferCount)
    (same : BitVec.ofNat 32 (1536 * left) = BitVec.ofNat 32 (1536 * right)) : left = right := by
  have field := congrArg BitVec.toNat same
  have small (index : Nat) (inside : index < txBufferCount) : 1536 * index < 2 ^ 32 :=
    (Nat.mul_lt_mul_of_pos_left inside (by decide)).trans_le (by decide)
  rw [BitVec.toNat_ofNat, BitVec.toNat_ofNat, Nat.mod_eq_of_lt (small left left_inside),
    Nat.mod_eq_of_lt (small right right_inside)] at field
  exact Nat.eq_of_mul_eq_mul_left (by decide) field

/-- A frame of 1518 bytes fits the length field of a descriptor. -/
theorem packed_size_field : 1518 < 67108864 := by decide

/-- The build of the witnesses: consecutive buffers, 1536 bytes apart. -/
def packedTxConfig : TxConfig where
  ethBufferSize := 1518
  txBytes index := BitVec.ofNat 32 (1536 * index)
  size_field := packed_size_field
  bytes_distinct := packed_distinct

/-- The engine takes a descriptor and marks it complete. -/
def takeFrame : TxLabel := .engine bdStatusComplete

/-- A single send that finds `retired` processed descriptors, run to its end. -/
def sendLabels (frame : EthFrame) (retired : Nat) : List TxLabel :=
  .call (.emaczeroSendRawFrame frame) :: List.replicate (retired + 6) .advance

/-- A burst on an empty ring, run to its end. -/
def burstLabels (frame : EthFrame) (count : Nat) : List TxLabel :=
  .call (.emaczeroProfileSendRawFrameBurst frame count) ::
    List.replicate (min count txBufferCount + 5) .advance

/-- A single send, a burst of two on the emptied ring and a second single send: the
engine emits the first three frames while the last is still to be filled. -/
theorem tx_emits_accepted_mixed :
    ∃ system call descriptor,
      Run (txStep packedTxConfig) SparesBurstBuffer (txInitial fun _ => []) system ∧
      system.current = some (call, .fill descriptor) ∧
      SparesBurstBuffer system .advance ∧ system.emitted = [[1#8], [2#8], [2#8]] ∧
      EmitsAccepted system ∧ FillsFreeBuffer packedTxConfig system descriptor := by
  obtain ⟨system, run, reached⟩ := run_of_execution (txStep packedTxConfig)
    (fun system label => !fillsBurstBuffer system label) (txInitial fun _ => [])
    (sendLabels [1#8] 0 ++ [takeFrame] ++
      [.call (.emaczeroProfileSendRawFrameBurst [2#8] 2)] ++ List.replicate 8 .advance ++
      [takeFrame, takeFrame, .call (.emaczeroSendRawFrame [3#8])] ++ List.replicate 4 .advance)
    (fun system => decide (system.current = some (.emaczeroSendRawFrame [3#8], .fill 3)) &&
      decide (system.emitted = [[1#8], [2#8], [2#8]]) && !fillsBurstBuffer system .advance)
    (fun _ _ admits => by simpa [SparesBurstBuffer] using admits) (by decide +kernel)
  simp only [Bool.and_eq_true, decide_eq_true_eq, Bool.not_eq_true'] at reached
  obtain ⟨⟨here, emitted⟩, spares⟩ := reached
  obtain ⟨emits, free⟩ := tx_emits_accepted packedTxConfig (fun _ => []) system run
  exact ⟨system, _, 3, run, here, spares, emitted, emits, free _ 3 here spares⟩

/-- A burst of 32 fills the ring; when its first descriptor is reclaimed, a single send
takes slot 0 and overwrites the buffer that the other 31 still point at. -/
theorem burst_overwritten :
    ¬ ∀ (cfg : TxConfig) (memory : BitVec 32 → EthFrame) (system : TxSystem),
      Run (txStep cfg) Unrestricted (txInitial memory) system → EmitsAccepted system := by
  intro claimed
  obtain ⟨system, run, reached⟩ := run_of_execution (txStep packedTxConfig)
    (fun _ _ => true) (txInitial fun _ => [])
    (burstLabels [2#8] 32 ++ [takeFrame] ++ sendLabels [3#8] 1 ++ [takeFrame])
    (fun system => decide (system.emitted = [[2#8], [3#8]] ∧
      system.log.flatMap acceptedBy ++ published system.current =
        List.replicate 32 [2#8] ++ [[3#8]]))
    (fun _ _ _ => trivial) (by decide +kernel)
  obtain ⟨emitted, accepted⟩ := of_decide_eq_true reached
  have first := claimed packedTxConfig (fun _ => []) system run
  rw [EmitsAccepted, emitted, accepted] at first
  exact absurd first (by decide)

end EmaczZephyr.Driver
