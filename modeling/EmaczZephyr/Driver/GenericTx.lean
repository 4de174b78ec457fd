import EmaczZephyr.Driver.TxFidelity

/-!
# Transmission on the generic DMA path

Without the direct ring a send copies its frame to the populated buffer, configures or
reloads the channel for it and starts the transfer; each of the three calls to the DMA
driver may fail. The callback of a finished transfer advances the completed index. A send
is refused when the populated index would meet the completed one, so one buffer of the ring
is never in a transfer, and it is the one that the next send fills.

The copy comes before that check, and before the calls that may fail. A send that fails
leaves the populated index, so the next one fills the same buffer again. That is right if
a refused start leaves nothing loaded in the DMA driver.

The calls are serialised by `tx_lock`. The words that report the last frame and the last
result, and the cache maintenance, are left out.
-/

namespace EmaczZephyr.Driver

open Runs

/-- The generic path's build: the transmit buffers, and a DMA device that may be absent. -/
structure GenericTxConfig extends TxConfig where
  dma : Bool

/-- `ENODEV`, which a transfer without a DMA device returns. -/
def enodev : Int := 19

/-- `ENOTSUP`, which a DMA driver may return for a call that it does not have. -/
def enotsup : Int := 134

/-- The transmit counters of `emaczero_perf_stats` that the generic path moves: calls, failures
and exits. -/
inductive TxCounter where
  | txSendCalls
  | txSendReadFail
  | txSetupCalls
  | txSetupNoDma
  | txSetupBusy
  | txDmaConfigFail
  | txDmaReloadFail
  | txDmaStartFail
  | txDmaStartOk
  | txDmaCompleted
  | txDmaError
deriving DecidableEq

/-- A transfer of the DMA driver, as the descriptor that it was loaded with says: where from, and
how many bytes. -/
structure Transfer where
  sourceAddress : BitVec 32
  blockSize : Nat
deriving DecidableEq

/-- Program points of a call that holds `tx_lock`, with the descriptor in hand where there is
one. -/
inductive GenericTxPoint where
  | fill
  /-- `emz_setup_dma_tx_transfer` up to its test for a free slot. -/
  | setup
  /-- `dma_config` or `dma_reload`. -/
  | load (descriptor : Nat)
  /-- The index is advanced, and `dma_start` called. -/
  | start (descriptor : Nat)
  | finish (descriptor : Nat) (ret : Int)
deriving DecidableEq

/-- The packet buffers, the two indices and the transfers: those started, and the number
that are done and whose callback is to come. The emitted frames are history. -/
structure TransferRing where
  memory : BitVec 32 → EthFrame
  txPopulatedBufferIndex : Nat
  txCompletedBufferIndex : Nat
  running : List Transfer
  callbacks : Nat
  emitted : List EthFrame

/-- The state of the driver, with the transfers that the DMA driver has loaded and not
started. The returned calls are history. -/
structure GenericTxSystem extends TransferRing where
  dmaIsConfiguredTx : Bool
  counters : TxCounter → BitVec 64
  current : Option (TxCall × GenericTxPoint)
  loaded : List Transfer
  log : List (TxCall × Int)

/-- What a call of the DMA driver returns, and whether a refused start leaves the loaded
transfer to be started with the next one. -/
structure DmaOutcome where
  ret : Int
  keeps : Bool
deriving DecidableEq

/-- A copy to a buffer overwrites its first bytes, and leaves what was behind them from an
earlier frame. -/
def TransferRing.copy (ring : TransferRing) (address : BitVec 32) (bytes : EthFrame) :
    TransferRing :=
  { ring with
    memory := Function.update ring.memory address
      (bytes ++ (ring.memory address).drop bytes.length) }

namespace GenericTxSystem

variable (system : GenericTxSystem)

/-- A copy to a buffer, as a step of the whole system. -/
def copy (address : BitVec 32) (bytes : EthFrame) : GenericTxSystem :=
  { system with toTransferRing := system.toTransferRing.copy address bytes }

/-- One counter goes up by one, modulo 2^64, and the others stay. -/
def bump (counter : TxCounter) : GenericTxSystem :=
  { system with
    counters := Function.update system.counters counter (system.counters counter + 1#64) }

/-- The call in progress ends with a result, which the history keeps, and the lock is free. -/
def leave (call : TxCall) (result : Int) : GenericTxSystem :=
  { system with current := none, log := system.log ++ [(call, result)] }

/-- The call in progress goes on at another of its program points. -/
def proceed (call : TxCall) (point : GenericTxPoint) : GenericTxSystem :=
  { system with current := some (call, point) }

end GenericTxSystem

/-- The result of a call that returns before it takes `tx_lock`. -/
def genericEarly (cfg : GenericTxConfig) (call : TxCall) : Option Int :=
  match call with
  | .emaczeroProfileSendRawFrameBurst _ _ => some (-enotsup)
  | _ =>
      if call.frame.length = 0 ∨ cfg.ethBufferSize < call.frame.length then some (-emsgsize)
      else none

/-- A call of `emz_send` is counted before its length is checked, a raw one after. -/
def genericEntry (cfg : GenericTxConfig) (system : GenericTxSystem) (call : TxCall) :
    GenericTxSystem :=
  match call, genericEarly cfg call with
  | .emzSend _ _, _ => system.bump .txSendCalls
  | .emaczeroSendRawFrame _, none => system.bump .txSendCalls
  | _, _ => system

/-- One step of the call that holds the lock: filling the buffer, the test for a free slot,
loading, starting, and setting the index back when the start failed. -/
def genericTxAdvance (cfg : GenericTxConfig) (system : GenericTxSystem) (call : TxCall)
    (outcome : DmaOutcome) : GenericTxPoint → GenericTxSystem
  | .fill =>
      let buffer := cfg.txBytes system.txPopulatedBufferIndex
      match call with
      | .emzSend _ (some written) =>
          ((system.copy buffer written).bump .txSendReadFail).leave call (-eio)
      | _ => (system.copy buffer call.frame).proceed call .setup
  | .setup =>
      let current := system.txPopulatedBufferIndex
      let counted := system.bump .txSetupCalls
      if !cfg.dma then (counted.bump .txSetupNoDma).leave call (-enodev)
      else if (current + 1) % txBufferCount = system.txCompletedBufferIndex then
        (counted.bump .txSetupBusy).leave call (-enospc)
      else counted.proceed call (.load current)
  | .load descriptor =>
      if outcome.ret ≠ 0 then
        (system.bump
          (if system.dmaIsConfiguredTx then .txDmaReloadFail else .txDmaConfigFail)).leave
          call outcome.ret
      else
        { system.proceed call (.start descriptor) with
          dmaIsConfiguredTx := true
          loaded := system.loaded ++ [⟨cfg.txBytes descriptor, call.frame.length⟩] }
  | .start descriptor =>
      { system.proceed call (.finish descriptor outcome.ret) with
        txPopulatedBufferIndex := (descriptor + 1) % txBufferCount
        running := if outcome.ret = 0 then system.running ++ system.loaded else system.running
        loaded := if outcome.ret ≠ 0 ∧ outcome.keeps = true then system.loaded else [] }
  | .finish descriptor ret =>
      if ret ≠ 0 then
        { (system.bump .txDmaStartFail).leave call ret with txPopulatedBufferIndex := descriptor }
      else (system.bump .txDmaStartOk).leave call 0

/-- The first transfer that was started is carried out: its bytes leave as they are in memory at
this moment. -/
def transferDone (system : GenericTxSystem) : Option GenericTxSystem :=
  match system.running with
  | [] => none
  | transfer :: later =>
      some { system with
        running := later
        callbacks := system.callbacks + 1
        emitted := system.emitted ++
          [(system.memory transfer.sourceAddress).take transfer.blockSize] }

/-- `emz_dma_tx_callback`: the completed index advances, and an error of the transfer is counted. -/
def emzDmaTxCallback (system : GenericTxSystem) (status : Int) : Option GenericTxSystem :=
  match system.callbacks with
  | 0 => none
  | callbacks + 1 =>
      let advanced : GenericTxSystem := { system with
        txCompletedBufferIndex := (system.txCompletedBufferIndex + 1) % txBufferCount
        callbacks := callbacks }
      let counted := advanced.bump .txDmaCompleted
      some (if status < 0 then counted.bump .txDmaError else counted)

/-- What can happen next: a call begins, the call in progress advances, a transfer is carried
out, or a callback runs. -/
inductive GenericTxLabel where
  | call (call : TxCall)
  | advance (outcome : DmaOutcome)
  | transfer
  | callback (status : Int)
deriving DecidableEq

/-- One step: a call begins or returns early, the lock's holder advances, a transfer is
carried out, or its callback runs. -/
def genericTxStep (cfg : GenericTxConfig) (system : GenericTxSystem) :
    GenericTxLabel → Option GenericTxSystem
  | .call call =>
      let entered := genericEntry cfg system call
      match genericEarly cfg call with
      | some result => some { entered with log := entered.log ++ [(call, result)] }
      | none => if system.current = none then some (entered.proceed call .fill) else none
  | .advance outcome =>
      match system.current with
      | some (call, point) => some (genericTxAdvance cfg system call outcome point)
      | none => none
  | .transfer => transferDone system
  | .callback status => emzDmaTxCallback system status

/-- The state that `emz_init` leaves: both indices at zero, nothing loaded or running, and the
memory as it is. -/
def genericTxInitial (memory : BitVec 32 → EthFrame) : GenericTxSystem where
  memory := memory
  txPopulatedBufferIndex := 0
  txCompletedBufferIndex := 0
  dmaIsConfiguredTx := false
  counters := fun _ => 0#64
  current := none
  loaded := []
  running := []
  callbacks := 0
  emitted := []
  log := []

/-- A refused start leaves nothing loaded in the DMA driver, the condition on failed starts. -/
def StartsDiscard (system : GenericTxSystem) : GenericTxLabel → Prop
  | .advance outcome => ∀ call descriptor, system.current = some (call, .start descriptor) →
      outcome.ret ≠ 0 → outcome.keeps = false
  | _ => True

/-- The frame of a call that returned zero, which is the promise to send it. -/
def genericAccepted : TxCall × Int → List EthFrame
  | (call, result) => if result = 0 then [call.frame] else []

/-- The frame of a call whose transfer is started and not yet reported. -/
def startedFrame : Option (TxCall × GenericTxPoint) → List EthFrame
  | some (call, .finish _ ret) => if ret = 0 then [call.frame] else []
  | _ => []

/-- The frames that were accepted, in the order of their calls; a start that has succeeded counts
before its call returns. -/
def GenericTxSystem.accepted (system : GenericTxSystem) : List EthFrame :=
  system.log.flatMap genericAccepted ++ startedFrame system.current

/-- The exits of `emz_setup_dma_tx_transfer`, each with a counter of its own. -/
def setupExits : List TxCounter :=
  [.txSetupNoDma, .txSetupBusy, .txDmaConfigFail, .txDmaReloadFail, .txDmaStartFail, .txDmaStartOk]

/-- The sum of the exits' counters, modulo 2^64 as the counters are. -/
def exitSum (counters : TxCounter → BitVec 64) : BitVec 64 :=
  (setupExits.map counters).foldr (· + ·) 0#64

/-- What is to hold at any time: order and content of the frames on the wire, no buffer refilled
under a transfer, and counters that add up. -/
structure GenericTxCorrect (cfg : GenericTxConfig) (system : GenericTxSystem) : Prop where
  /-- The accepted frames go out once, in order and unchanged, and at most 31 wait. -/
  order : system.emitted <+: system.accepted
  few : system.accepted.length ≤ system.emitted.length + 31
  /-- A send fills a buffer that no transfer reads. -/
  fills_free : ∀ call, system.current = some (call, .fill) →
    ∀ transfer ∈ system.running ++ system.loaded,
      transfer.sourceAddress ≠ cfg.txBytes system.txPopulatedBufferIndex
  /-- Between calls the indices are apart by the transfers whose callback is to come: a call
  that failed left them as they were. -/
  indices : system.current = none → system.txPopulatedBufferIndex =
    Window.slot txBufferCount system.txCompletedBufferIndex
      (system.callbacks + (system.accepted.length - system.emitted.length))
  /-- Between calls each setup is counted at one exit. -/
  setups : system.current = none →
    system.counters .txSetupCalls = exitSum system.counters
  completed : system.counters .txDmaCompleted + BitVec.ofNat 64 system.callbacks =
    BitVec.ofNat 64 system.emitted.length

/-- The bytes that a transfer reads from memory, as many as its block size says. -/
def TransferRing.read (ring : TransferRing) (transfer : Transfer) : EthFrame :=
  (ring.memory transfer.sourceAddress).take transfer.blockSize

/-- The transfers whose callback is to come stand in the slots from the completed index on,
and the populated index is so many slots ahead of them. They carry the frames owed that
were not emitted. -/
structure TransferWindow (cfg : GenericTxConfig) (ring : TransferRing) (ahead : Nat)
    (owed : List EthFrame) : Prop where
  completed_inside : ring.txCompletedBufferIndex < txBufferCount
  few : ring.callbacks + ring.running.length + ahead < txBufferCount
  populated : ring.txPopulatedBufferIndex =
    Window.slot txBufferCount ring.txCompletedBufferIndex
      (ring.callbacks + ring.running.length + ahead)
  placed : ∀ (position : Nat) (transfer : Transfer),
    ring.running[position]? = some transfer → transfer.sourceAddress =
      cfg.txBytes (Window.slot txBufferCount ring.txCompletedBufferIndex
        (ring.callbacks + position))
  order : ring.emitted ++ ring.running.map ring.read = owed

/-- The slots that the populated index is ahead: a start that was refused is undone at the
end. -/
def slotsAhead : Option (TxCall × GenericTxPoint) → Nat
  | some (_, .finish _ ret) => if ret = 0 then 0 else 1
  | _ => 0

/-- What the call in progress has loaded into the DMA driver and not yet started. -/
def loadedFor (cfg : GenericTxConfig) : Option (TxCall × GenericTxPoint) → List Transfer
  | some (call, .start descriptor) => [⟨cfg.txBytes descriptor, call.frame.length⟩]
  | _ => []

/-- The buffer of a slot begins with the bytes of the frame. -/
def HoldsFrame (cfg : GenericTxConfig) (ring : TransferRing) (index : Nat) (frame : EthFrame) :
    Prop :=
  (ring.memory (cfg.txBytes index)).take frame.length = frame

/-- There is room for one more transfer, and its buffer holds the frame. -/
structure ReadyToStart (cfg : GenericTxConfig) (ring : TransferRing) (descriptor : Nat)
    (frame : EthFrame) : Prop where
  here : descriptor = ring.txPopulatedBufferIndex
  room : ring.callbacks + ring.running.length + 1 < txBufferCount
  holds : HoldsFrame cfg ring descriptor frame

/-- What a call knows at its program point: that its slot is free, that its buffer holds its
frame, or where to set the index back to. -/
def GenericPointFacts (cfg : GenericTxConfig) (ring : TransferRing) (call : TxCall) :
    GenericTxPoint → Prop
  | .fill => True
  | .setup => HoldsFrame cfg ring ring.txPopulatedBufferIndex call.frame
  | .load descriptor | .start descriptor => ReadyToStart cfg ring descriptor call.frame
  | .finish descriptor ret => ret ≠ 0 → descriptor =
      Window.slot txBufferCount ring.txCompletedBufferIndex (ring.callbacks + ring.running.length)

/-- The invariant: the transfers of the ring are the accepted frames that are not yet out, and
the call in progress knows what its point says. -/
structure GenericTxInvariant (cfg : GenericTxConfig) (system : GenericTxSystem) : Prop where
  window : TransferWindow cfg system.toTransferRing (slotsAhead system.current) system.accepted
  loaded : system.loaded = loadedFor cfg system.current
  point : ∀ call point, system.current = some (call, point) →
    GenericPointFacts cfg system.toTransferRing call point

section Ring

variable {cfg : GenericTxConfig} {ring : TransferRing} {owed : List EthFrame}

/-- A started transfer does not read the buffer at the populated index, because the slots in use
are the ones before it and are fewer than all. -/
theorem TransferWindow.populated_free (window : TransferWindow cfg ring 0 owed) :
    ∀ transfer ∈ ring.running,
      transfer.sourceAddress ≠ cfg.txBytes ring.txPopulatedBufferIndex := by
  intro transfer member same
  obtain ⟨position, here⟩ := List.mem_iff_getElem?.mp member
  have inside := (List.getElem?_eq_some_iff.mp here).1
  have few := window.few
  rw [window.placed position transfer here, window.populated] at same
  have same_slot := cfg.bytes_distinct _ _ (Window.slot_lt tx_count_positive _ _)
    (Window.slot_lt tx_count_positive _ _) same
  exact Window.slot_ne window.completed_inside (by omega) (by omega) (by omega) same_slot

/-- Copying into the buffer at the populated index changes no frame that is owed. -/
theorem TransferWindow.copy (window : TransferWindow cfg ring 0 owed) (bytes : EthFrame) :
    TransferWindow cfg (ring.copy (cfg.txBytes ring.txPopulatedBufferIndex) bytes) 0 owed := by
  have apart := window.populated_free
  obtain ⟨inside, few, populated, placed, order⟩ := window
  refine ⟨inside, few, populated, placed, ?_⟩
  rw [← order]
  apply congrArg (ring.emitted ++ ·)
  apply List.map_congr_left
  intro transfer member
  simp only [TransferRing.read, TransferRing.copy, Function.update_of_ne (apart transfer member)]

/-- The copied bytes are the first of the buffer, so the buffer holds the frame. -/
theorem copy_holds (index : Nat) (frame : EthFrame) :
    HoldsFrame cfg (ring.copy (cfg.txBytes index) frame) index frame := by
  simp [HoldsFrame, TransferRing.copy]

/-- The slot behind the populated one is the completed one exactly when 31 transfers wait. -/
theorem TransferWindow.full_iff (window : TransferWindow cfg ring 0 owed) :
    (ring.txPopulatedBufferIndex + 1) % txBufferCount = ring.txCompletedBufferIndex ↔
      ring.callbacks + ring.running.length + 1 = txBufferCount := by
  have few := window.few
  rw [window.populated, Window.slot_succ, Nat.add_zero]
  constructor
  · intro meets
    by_contra more
    have near : ring.callbacks + ring.running.length + 1 < txBufferCount := by omega
    have apart := Window.slot_ne_first window.completed_inside near
    exact apart meets
  · intro full
    rw [full, Window.slot, Nat.add_mod_right, Nat.mod_eq_of_lt window.completed_inside]

/-- A started transfer is the next one of the window, and its frame the last that is owed. -/
theorem TransferWindow.started (window : TransferWindow cfg ring 0 owed) {descriptor : Nat}
    {frame : EthFrame} (ready : ReadyToStart cfg ring descriptor frame) :
    TransferWindow cfg { ring with
      txPopulatedBufferIndex := (descriptor + 1) % txBufferCount
      running := ring.running ++ [⟨cfg.txBytes descriptor, frame.length⟩] } 0
      (owed ++ [frame]) := by
  obtain ⟨rfl, room, holds⟩ := ready
  have populated := window.populated
  constructor
  · exact window.completed_inside
  · rw [List.length_append, List.length_singleton]
    exact room
  · rw [List.length_append, List.length_singleton]
    simp only [populated, Window.slot_succ]
    rfl
  · intro position transfer here
    rcases Nat.lt_or_ge position ring.running.length with early | late
    · rw [List.getElem?_append_left early] at here
      exact window.placed position transfer here
    · have at_end : position = ring.running.length := by
        have inside := (List.getElem?_eq_some_iff.mp here).1
        rw [List.length_append, List.length_singleton] at inside
        omega
      subst at_end
      rw [List.getElem?_concat_length] at here
      rw [← Option.some.inj here]
      exact congrArg cfg.txBytes populated
  · rw [List.map_append, ← List.append_assoc]
    have before : ring.emitted ++ ring.running.map ring.read = owed := window.order
    apply congrArg₂ (· ++ ·) before
    exact congrArg (fun bytes => [bytes]) holds

/-- A start that was refused has only moved the populated index, one slot ahead of the window. -/
theorem TransferWindow.refused (window : TransferWindow cfg ring 0 owed) {descriptor : Nat}
    {frame : EthFrame} (ready : ReadyToStart cfg ring descriptor frame) :
    TransferWindow cfg { ring with
      txPopulatedBufferIndex := (descriptor + 1) % txBufferCount } 1 owed := by
  obtain ⟨rfl, room, -⟩ := ready
  refine ⟨window.completed_inside, room, ?_, window.placed, window.order⟩
  simp only [window.populated, Window.slot_succ, Nat.add_zero]

/-- Setting the populated index back leaves no trace of the refused start. -/
theorem TransferWindow.restored (window : TransferWindow cfg ring 1 owed) {descriptor : Nat}
    (back : descriptor = Window.slot txBufferCount ring.txCompletedBufferIndex
      (ring.callbacks + ring.running.length)) :
    TransferWindow cfg { ring with txPopulatedBufferIndex := descriptor } 0 owed := by
  have few := window.few
  refine ⟨window.completed_inside, ?_, back, window.placed, window.order⟩
  change ring.callbacks + ring.running.length + 0 < txBufferCount
  omega

/-- A transfer that is carried out emits the first frame that was not yet out, since its buffer
still holds it. -/
theorem TransferWindow.carried_out {ahead : Nat} (window : TransferWindow cfg ring ahead owed)
    {transfer : Transfer} {later : List Transfer} (first : ring.running = transfer :: later) :
    TransferWindow cfg { ring with
      running := later
      callbacks := ring.callbacks + 1
      emitted := ring.emitted ++ [ring.read transfer] } ahead owed := by
  have few := window.few
  have populated := window.populated
  have placed := window.placed
  have order := window.order
  rw [first, List.length_cons] at few populated
  rw [first, List.map_cons] at order
  have same : ring.callbacks + (later.length + 1) = ring.callbacks + 1 + later.length := by
    omega
  rw [same] at few populated
  refine ⟨window.completed_inside, few, populated, ?_, ?_⟩
  · intro position other here
    have further : ring.running[position + 1]? = some other := by
      rw [first, List.getElem?_cons_succ]
      exact here
    have shifted : ring.callbacks + (position + 1) = ring.callbacks + 1 + position := by omega
    rw [placed (position + 1) other further, shifted]
  · rw [← order, List.append_assoc]
    rfl

/-- A callback takes the first slot out of the window and makes its buffer free for another
frame. -/
theorem TransferWindow.called_back {ahead callbacks : Nat}
    (window : TransferWindow cfg ring ahead owed) (waiting : ring.callbacks = callbacks + 1) :
    TransferWindow cfg { ring with
      txCompletedBufferIndex := (ring.txCompletedBufferIndex + 1) % txBufferCount
      callbacks := callbacks } ahead owed := by
  have few := window.few
  have populated := window.populated
  have placed := window.placed
  rw [waiting] at few populated placed
  refine ⟨Nat.mod_lt _ tx_count_positive, ?_, ?_, ?_, window.order⟩
  · change callbacks + ring.running.length + ahead < txBufferCount
    omega
  · change ring.txPopulatedBufferIndex = _
    rw [populated, Window.slot_advance]
    congr 1
    change callbacks + 1 + ring.running.length + ahead =
      callbacks + ring.running.length + ahead + 1
    omega
  · intro position transfer here
    rw [Window.slot_advance, placed position transfer here]
    congr 2
    change callbacks + 1 + position = callbacks + position + 1
    omega

end Ring

section Steps

variable {cfg : GenericTxConfig} {system after : GenericTxSystem} {call : TxCall}

/-- The call has not come to the report of its start. -/
def GenericTxPoint.unreported : GenericTxPoint → Bool
  | .finish _ _ => false
  | _ => true

/-- Until a call comes to report, no frame is owed on its account, and the populated index is not
ahead of the window. -/
theorem unreported_owed (call : TxCall) {point : GenericTxPoint}
    (unreported : point.unreported = true) :
    slotsAhead (some (call, point)) = 0 ∧ startedFrame (some (call, point)) = [] := by
  cases point with
  | finish descriptor ret => cases unreported
  | fill | setup | load _ | start _ => exact ⟨rfl, rfl⟩

/-- Before its report, a call in progress leaves the window to the calls that have returned. -/
theorem GenericTxInvariant.unreported_window (invariant : GenericTxInvariant cfg system)
    {point : GenericTxPoint} (here : system.current = some (call, point))
    (unreported : point.unreported = true) :
    TransferWindow cfg system.toTransferRing 0 (system.log.flatMap genericAccepted) := by
  obtain ⟨not_ahead, nothing⟩ := unreported_owed call unreported
  have window := invariant.window
  rw [GenericTxSystem.accepted, here, not_ahead, nothing, List.append_nil] at window
  exact window

/-- A call that goes on to another point before its report keeps the invariant, if it has loaded
what that point says and knows its facts. -/
theorem proceed_invariant {point : GenericTxPoint} (unreported : point.unreported = true)
    (window : TransferWindow cfg system.toTransferRing 0 (system.log.flatMap genericAccepted))
    (loaded : system.loaded = loadedFor cfg (some (call, point)))
    (facts : GenericPointFacts cfg system.toTransferRing call point) :
    GenericTxInvariant cfg (system.proceed call point) := by
  obtain ⟨not_ahead, nothing⟩ := unreported_owed call unreported
  constructor
  · rw [GenericTxSystem.accepted, GenericTxSystem.proceed]
    simp only [not_ahead, nothing, List.append_nil]
    exact window
  · exact loaded
  · intro holder holder_point here
    obtain ⟨rfl, rfl⟩ := Prod.mk.inj (Option.some.inj here)
    exact facts

/-- A call that returns keeps the invariant when the window already has the frame, or no frame,
that its result promises. -/
theorem leave_invariant {result : Int}
    (window : TransferWindow cfg system.toTransferRing 0
      (system.log.flatMap genericAccepted ++ genericAccepted (call, result)))
    (nothing : system.loaded = []) : GenericTxInvariant cfg (system.leave call result) := by
  constructor
  · have owed : (system.leave call result).accepted =
        system.log.flatMap genericAccepted ++ genericAccepted (call, result) := by
      simp [GenericTxSystem.accepted, GenericTxSystem.leave, startedFrame]
    rw [owed]
    exact window
  · exact nothing
  · intro holder point impossible
    cases impossible

/-- A call that fails is owed nothing, so it may return as soon as nothing is loaded. -/
theorem fail_invariant {result : Int} (failed : result ≠ 0)
    (window : TransferWindow cfg system.toTransferRing 0 (system.log.flatMap genericAccepted))
    (nothing : system.loaded = []) : GenericTxInvariant cfg (system.leave call result) := by
  have none_owed : genericAccepted (call, result) = [] := if_neg failed
  apply leave_invariant _ nothing
  rw [none_owed, List.append_nil]
  exact window

/-- A start keeps the invariant: when it succeeds the transfer is in the window, and when it is
refused the index is one slot ahead until it is set back. -/
theorem start_invariant {descriptor : Nat} {outcome : DmaOutcome}
    (invariant : GenericTxInvariant cfg system)
    (here : system.current = some (call, .start descriptor))
    (discards : StartsDiscard system (.advance outcome)) :
    GenericTxInvariant cfg (genericTxAdvance cfg system call outcome (.start descriptor)) := by
  have window := invariant.unreported_window here rfl
  have ready : ReadyToStart cfg system.toTransferRing descriptor call.frame :=
    invariant.point call _ here
  have loaded := invariant.loaded
  rw [here] at loaded
  have emptied : (if outcome.ret ≠ 0 ∧ outcome.keeps = true then system.loaded else []) = [] := by
    apply if_neg
    rintro ⟨refused, keeps⟩
    rw [discards call descriptor here refused] at keeps
    cases keeps
  by_cases started : outcome.ret = 0
  · constructor
    · have after_start := window.started ready
      simp only [genericTxAdvance, GenericTxSystem.accepted, GenericTxSystem.proceed, slotsAhead,
        startedFrame, started, loaded]
      exact after_start
    · exact emptied
    · intro holder point current
      obtain ⟨rfl, rfl⟩ := Prod.mk.inj (Option.some.inj current)
      exact fun refused => absurd started refused
  · constructor
    · have after_start := window.refused ready
      simp only [genericTxAdvance, GenericTxSystem.accepted, GenericTxSystem.proceed, slotsAhead,
        startedFrame, if_neg started, List.append_nil]
      exact after_start
    · exact emptied
    · intro holder point current
      obtain ⟨rfl, rfl⟩ := Prod.mk.inj (Option.some.inj current)
      intro _
      simp only [genericTxAdvance, if_neg started]
      rw [ready.here, window.populated]
      rfl

/-- Every step of the lock's holder keeps the invariant, one case for each program point. -/
theorem generic_tx_advance_invariant {point : GenericTxPoint} {outcome : DmaOutcome}
    (invariant : GenericTxInvariant cfg system) (here : system.current = some (call, point))
    (discards : StartsDiscard system (.advance outcome)) :
    GenericTxInvariant cfg (genericTxAdvance cfg system call outcome point) := by
  have loaded := invariant.loaded
  have facts := invariant.point call point here
  rw [here] at loaded
  cases point with
  | fill =>
    have window := invariant.unreported_window here rfl
    rcases call with ⟨packet, fails⟩ | frame | ⟨frame, count⟩
    · cases fails with
      | none => exact proceed_invariant rfl (window.copy packet) loaded (copy_holds _ packet)
      | some written => exact fail_invariant (by decide) (window.copy written) loaded
    · exact proceed_invariant rfl (window.copy frame) loaded (copy_holds _ frame)
    · exact proceed_invariant rfl (window.copy frame) loaded (copy_holds _ frame)
  | setup =>
    have window := invariant.unreported_window here rfl
    simp only [genericTxAdvance]
    split
    · exact fail_invariant (by decide) window loaded
    · split
      · exact fail_invariant (by decide) window loaded
      · rename_i apart
        have few := window.few
        have room := mt window.full_iff.mpr apart
        have ready : ReadyToStart cfg system.toTransferRing system.txPopulatedBufferIndex
            call.frame := ⟨rfl, by omega, facts⟩
        exact proceed_invariant rfl window loaded ready
  | load descriptor =>
    have window := invariant.unreported_window here rfl
    simp only [genericTxAdvance]
    split
    · rename_i failed
      exact fail_invariant failed window loaded
    · have loaded_next : system.loaded ++ [⟨cfg.txBytes descriptor, call.frame.length⟩] =
          loadedFor cfg (some (call, .start descriptor)) := by
        rw [loaded]
        rfl
      change GenericTxInvariant cfg (GenericTxSystem.proceed { system with
        dmaIsConfiguredTx := true
        loaded := system.loaded ++ [⟨cfg.txBytes descriptor, call.frame.length⟩] } call
          (.start descriptor))
      exact proceed_invariant rfl window loaded_next facts
  | start descriptor => exact start_invariant invariant here discards
  | finish descriptor ret =>
    have window := invariant.window
    rw [GenericTxSystem.accepted, here] at window
    simp only [genericTxAdvance]
    split
    · rename_i failed
      simp only [slotsAhead, startedFrame, if_neg failed, List.append_nil] at window
      change GenericTxInvariant cfg (GenericTxSystem.leave { system.bump .txDmaStartFail with
        txPopulatedBufferIndex := descriptor } call ret)
      exact fail_invariant failed (window.restored (facts failed)) loaded
    · rename_i started
      rw [not_not] at started
      simp only [slotsAhead, startedFrame, if_pos started] at window
      exact leave_invariant window loaded

/-- What a call knows does not depend on which transfers are carried out or called back. -/
theorem facts_carry {ring next : TransferRing} {point : GenericTxPoint}
    (facts : GenericPointFacts cfg ring call point) (memory : next.memory = ring.memory)
    (populated : next.txPopulatedBufferIndex = ring.txPopulatedBufferIndex)
    (few : next.callbacks + next.running.length ≤ ring.callbacks + ring.running.length)
    (ends : Window.slot txBufferCount next.txCompletedBufferIndex
        (next.callbacks + next.running.length) =
      Window.slot txBufferCount ring.txCompletedBufferIndex
        (ring.callbacks + ring.running.length)) :
    GenericPointFacts cfg next call point := by
  have holds (index : Nat) (frame : EthFrame) (before : HoldsFrame cfg ring index frame) :
      HoldsFrame cfg next index frame := by
    rw [HoldsFrame, memory]
    exact before
  have ready (descriptor : Nat) (frame : EthFrame)
      (before : ReadyToStart cfg ring descriptor frame) :
      ReadyToStart cfg next descriptor frame := by
    obtain ⟨here, room, held⟩ := before
    exact ⟨here.trans populated.symm, by omega, holds _ _ held⟩
  cases point with
  | fill => trivial
  | setup =>
    change HoldsFrame cfg next next.txPopulatedBufferIndex call.frame
    rw [populated]
    exact holds _ _ facts
  | load descriptor => exact ready _ _ facts
  | start descriptor => exact ready _ _ facts
  | finish descriptor ret =>
    intro refused
    exact (facts refused).trans ends.symm

/-- The entry of a call changes nothing but a counter. -/
theorem entry_same (cfg : GenericTxConfig) (system : GenericTxSystem) (call : TxCall) :
    ∃ counters, genericEntry cfg system call = { system with counters := counters } := by
  unfold genericEntry
  split
  · exact ⟨_, rfl⟩
  · exact ⟨_, rfl⟩
  · exact ⟨system.counters, rfl⟩

/-- A call that returns at once, without taking the lock, returns an error. -/
theorem early_failed {result : Int} (early : genericEarly cfg call = some result) :
    result ≠ 0 := by
  unfold genericEarly at early
  split at early
  · rw [← Option.some.inj early]
    decide
  · split at early
    · rw [← Option.some.inj early]
      decide
    · cases early

/-- A call that begins keeps the invariant: it returns an error at once, or it takes the lock when
no other call is under way. -/
theorem generic_tx_call_invariant (invariant : GenericTxInvariant cfg system)
    (taken : genericTxStep cfg system (.call call) = some after) :
    GenericTxInvariant cfg after := by
  obtain ⟨counters, entered⟩ := entry_same cfg system call
  simp only [genericTxStep, entered] at taken
  split at taken
  · rename_i result early
    obtain rfl := Option.some.inj taken
    have nothing : genericAccepted (call, result) = [] := if_neg (early_failed early)
    have owed : (system.log ++ [(call, result)]).flatMap genericAccepted =
        system.log.flatMap genericAccepted := by
      rw [List.flatMap_append, List.flatMap_singleton, nothing, List.append_nil]
    refine ⟨?_, invariant.loaded, invariant.point⟩
    rw [GenericTxSystem.accepted, owed]
    exact invariant.window
  · split at taken
    · rename_i idle
      obtain rfl := Option.some.inj taken
      have window := invariant.window
      have loaded := invariant.loaded
      rw [GenericTxSystem.accepted, idle, startedFrame, List.append_nil] at window
      · rw [idle] at loaded
        exact proceed_invariant rfl window loaded trivial
      · nofun
    · cases taken

/-- A transfer that is carried out keeps the invariant: its frame is the first one owed, and it
waits for its callback afterwards. -/
theorem transfer_done_invariant (invariant : GenericTxInvariant cfg system)
    (taken : genericTxStep cfg system .transfer = some after) : GenericTxInvariant cfg after := by
  simp only [genericTxStep, transferDone] at taken
  split at taken
  · cases taken
  · rename_i transfer later first
    obtain rfl := Option.some.inj taken
    have same : system.callbacks + 1 + later.length =
        system.callbacks + system.running.length := by
      rw [first, List.length_cons]
      omega
    constructor
    · exact invariant.window.carried_out first
    · exact invariant.loaded
    · intro call point here
      apply facts_carry (invariant.point call point here)
      · rfl
      · rfl
      · exact same.le
      · exact congrArg _ same

/-- A callback keeps the invariant: it frees the buffer of the oldest transfer that waits for
one, whatever status it is given. -/
theorem tx_callback_invariant {status : Int} (invariant : GenericTxInvariant cfg system)
    (taken : genericTxStep cfg system (.callback status) = some after) :
    GenericTxInvariant cfg after := by
  simp only [genericTxStep, emzDmaTxCallback] at taken
  split at taken
  · cases taken
  · rename_i callbacks waiting
    obtain rfl := Option.some.inj taken
    have same : callbacks + system.running.length + 1 =
        system.callbacks + system.running.length := by
      rw [waiting]
      omega
    have window := invariant.window.called_back waiting
    have point (call : TxCall) (point : GenericTxPoint)
        (here : system.current = some (call, point)) :
        GenericPointFacts cfg { system.toTransferRing with
          txCompletedBufferIndex := (system.txCompletedBufferIndex + 1) % txBufferCount
          callbacks := callbacks } call point := by
      apply facts_carry (invariant.point call point here)
      · rfl
      · rfl
      · exact same ▸ Nat.le_succ _
      · rw [Window.slot_advance]
        exact congrArg _ same
    split
    · exact ⟨window, invariant.loaded, point⟩
    · exact ⟨window, invariant.loaded, point⟩

/-- Every admitted step keeps the invariant: the entry of a call, its points, a transfer that is
carried out, and a callback. -/
theorem generic_tx_step_invariant {label : GenericTxLabel}
    (invariant : GenericTxInvariant cfg system) (discards : StartsDiscard system label)
    (taken : genericTxStep cfg system label = some after) : GenericTxInvariant cfg after := by
  cases label with
  | call call => exact generic_tx_call_invariant invariant taken
  | advance outcome =>
    simp only [genericTxStep] at taken
    split at taken
    · rename_i call point here
      obtain rfl := Option.some.inj taken
      exact generic_tx_advance_invariant invariant here discards
    · cases taken
  | transfer => exact transfer_done_invariant invariant taken
  | callback status => exact tx_callback_invariant invariant taken

end Steps

/-- The state that `emz_init` leaves has the invariant, with an empty window. -/
theorem generic_tx_initial (cfg : GenericTxConfig) (memory : BitVec 32 → EthFrame) :
    GenericTxInvariant cfg (genericTxInitial memory) := by
  constructor
  · refine ⟨tx_count_positive, tx_count_positive, rfl, ?_, rfl⟩
    intro position transfer impossible
    cases impossible
  · rfl
  · intro call point impossible
    cases impossible

/-- The setups that have not come to an exit yet, at most one because the lock is held. -/
def setupsOpen : Option (TxCall × GenericTxPoint) → Nat
  | some (_, .load _) | some (_, .start _) | some (_, .finish _ _) => 1
  | _ => 0

/-- Each setup but the open ones is counted at its exit, and each transfer at its
callback. -/
structure GenericTxCounts (system : GenericTxSystem) (opened : Nat) : Prop where
  setups : system.counters .txSetupCalls =
    exitSum system.counters + BitVec.ofNat 64 opened
  completed : system.counters .txDmaCompleted + BitVec.ofNat 64 system.callbacks =
    BitVec.ofNat 64 system.emitted.length

section Counters

variable {cfg : GenericTxConfig} {system after : GenericTxSystem} {call : TxCall}

/-- Counting an exit adds one to the sum of the exits, and counting anything else adds nothing. -/
theorem exit_sum_bump (system : GenericTxSystem) (counter : TxCounter) :
    exitSum (system.bump counter).counters =
      exitSum system.counters + BitVec.ofNat 64 (if counter ∈ setupExits then 1 else 0) := by
  cases counter <;> simp [exitSum, setupExits, GenericTxSystem.bump, Function.update] <;> bv_omega

/-- The counter that goes up is one higher, modulo 2^64. -/
theorem bump_self (system : GenericTxSystem) (counter : TxCounter) :
    (system.bump counter).counters counter = system.counters counter + 1#64 :=
  Function.update_self _ _ _

/-- Every other counter stays as it was. -/
theorem bump_other (system : GenericTxSystem) {counter other : TxCounter}
    (apart : other ≠ counter) :
    (system.bump counter).counters other = system.counters other :=
  Function.update_of_ne apart _ _

/-- A setup is counted when it is opened, and from then on one exit is missing. -/
theorem GenericTxCounts.setup (counts : GenericTxCounts system 0) :
    GenericTxCounts (system.bump .txSetupCalls) 1 := by
  constructor
  · rw [bump_self, exit_sum_bump, counts.setups, if_neg (by decide), BitVec.add_zero]
  · rw [bump_other system (by decide)]
    exact counts.completed

/-- The setup is closed at one of the exits, and the counts agree again. -/
theorem GenericTxCounts.exit (counts : GenericTxCounts system 1) (counter : TxCounter)
    (exits : counter ∈ setupExits) : GenericTxCounts (system.bump counter) 0 := by
  have not_setup : TxCounter.txSetupCalls ≠ counter := by
    rintro rfl
    exact absurd exits (by decide)
  have not_completed : TxCounter.txDmaCompleted ≠ counter := by
    rintro rfl
    exact absurd exits (by decide)
  constructor
  · rw [bump_other system not_setup, exit_sum_bump, counts.setups, if_pos exits,
      BitVec.add_zero]
  · rw [bump_other system not_completed]
    exact counts.completed

/-- Counters that are neither of setups nor of exits nor of completions play no part in the
counts. -/
theorem GenericTxCounts.other {opened : Nat} (counts : GenericTxCounts system opened)
    (counter : TxCounter) (not_exit : counter ∉ setupExits)
    (not_setup : TxCounter.txSetupCalls ≠ counter)
    (not_completed : TxCounter.txDmaCompleted ≠ counter) :
    GenericTxCounts (system.bump counter) opened := by
  constructor
  · rw [bump_other system not_setup, exit_sum_bump, counts.setups, if_neg not_exit]
    simp
  · rw [bump_other system not_completed]
    exact counts.completed

/-- A step of the lock's holder opens a setup and counts it, or counts one that it closes. -/
theorem advance_counts {point : GenericTxPoint} {outcome : DmaOutcome}
    (counts : GenericTxCounts system (setupsOpen (some (call, point)))) :
    GenericTxCounts (genericTxAdvance cfg system call outcome point)
      (setupsOpen (genericTxAdvance cfg system call outcome point).current) := by
  cases point with
  | fill =>
    rcases call with ⟨packet, fails⟩ | frame | ⟨frame, count⟩
    · cases fails with
      | none => exact ⟨counts.setups, counts.completed⟩
      | some written =>
        have copied : GenericTxCounts
            (system.copy (cfg.txBytes system.txPopulatedBufferIndex) written) 0 :=
          ⟨counts.setups, counts.completed⟩
        have failed := copied.other .txSendReadFail (by decide) (by decide) (by decide)
        exact ⟨failed.setups, failed.completed⟩
    · exact ⟨counts.setups, counts.completed⟩
    · exact ⟨counts.setups, counts.completed⟩
  | setup =>
    have opened := GenericTxCounts.setup counts
    simp only [genericTxAdvance]
    split
    · have closed := opened.exit .txSetupNoDma (by decide)
      exact ⟨closed.setups, closed.completed⟩
    · split
      · have closed := opened.exit .txSetupBusy (by decide)
        exact ⟨closed.setups, closed.completed⟩
      · exact ⟨opened.setups, opened.completed⟩
  | load descriptor =>
    simp only [genericTxAdvance]
    split
    · have exits : (if system.dmaIsConfiguredTx = true then TxCounter.txDmaReloadFail
          else .txDmaConfigFail) ∈ setupExits := by
        split
        · decide
        · decide
      have closed := GenericTxCounts.exit counts _ exits
      exact ⟨closed.setups, closed.completed⟩
    · exact ⟨counts.setups, counts.completed⟩
  | start descriptor => exact ⟨counts.setups, counts.completed⟩
  | finish descriptor ret =>
    simp only [genericTxAdvance]
    split
    · have closed := GenericTxCounts.exit counts .txDmaStartFail (by decide)
      exact ⟨closed.setups, closed.completed⟩
    · have closed := GenericTxCounts.exit counts .txDmaStartOk (by decide)
      exact ⟨closed.setups, closed.completed⟩

/-- Every step keeps the counts: setups are exits and the one that is open, whatever the outcomes
of the calls. -/
theorem counts_step {label : GenericTxLabel}
    (counts : GenericTxCounts system (setupsOpen system.current))
    (taken : genericTxStep cfg system label = some after) :
    GenericTxCounts after (setupsOpen after.current) := by
  cases label with
  | call call =>
    have entered : GenericTxCounts (genericEntry cfg system call) (setupsOpen system.current) ∧
        (genericEntry cfg system call).current = system.current := by
      unfold genericEntry
      split
      · exact ⟨counts.other .txSendCalls (by decide) (by decide) (by decide), rfl⟩
      · exact ⟨counts.other .txSendCalls (by decide) (by decide) (by decide), rfl⟩
      · exact ⟨counts, rfl⟩
    obtain ⟨counted, same⟩ := entered
    simp only [genericTxStep] at taken
    split at taken
    · obtain rfl := Option.some.inj taken
      rw [← same] at counted
      exact ⟨counted.setups, counted.completed⟩
    · split at taken
      · rename_i idle
        obtain rfl := Option.some.inj taken
        rw [idle] at counted
        exact ⟨counted.setups, counted.completed⟩
      · cases taken
  | advance outcome =>
    simp only [genericTxStep] at taken
    split at taken
    · rename_i call point here
      obtain rfl := Option.some.inj taken
      rw [here] at counts
      exact advance_counts counts
    · cases taken
  | transfer =>
    simp only [genericTxStep, transferDone] at taken
    split at taken
    · cases taken
    · obtain rfl := Option.some.inj taken
      refine ⟨counts.setups, ?_⟩
      have completed := counts.completed
      simp only [List.length_append, List.length_singleton, BitVec.ofNat_add] at completed ⊢
      rw [← BitVec.add_assoc, completed]
  | callback status =>
    simp only [genericTxStep, emzDmaTxCallback] at taken
    split at taken
    · cases taken
    · rename_i callbacks waiting
      obtain rfl := Option.some.inj taken
      have completed := counts.completed
      rw [waiting, Nat.succ_eq_add_one, Nat.add_comm, BitVec.ofNat_add, ← BitVec.add_assoc]
        at completed
      have called : GenericTxCounts (GenericTxSystem.bump { system with
          txCompletedBufferIndex := (system.txCompletedBufferIndex + 1) % txBufferCount
          callbacks := callbacks } .txDmaCompleted) (setupsOpen system.current) := by
        constructor
        · rw [exit_sum_bump, bump_other _ (by decide), if_neg (by decide), BitVec.add_zero]
          exact counts.setups
        · rw [bump_self]
          exact completed
      split
      · have failed := called.other .txDmaError (by decide) (by decide) (by decide)
        exact failed
      · exact called

end Counters

/-- What the invariant and the counts say of the calls: order and content on the wire, free
buffers and counters that add up. -/
theorem GenericTxInvariant.correct {cfg : GenericTxConfig} {system : GenericTxSystem}
    (invariant : GenericTxInvariant cfg system)
    (counts : GenericTxCounts system (setupsOpen system.current)) :
    GenericTxCorrect cfg system := by
  have window := invariant.window
  have waiting := congrArg List.length window.order
  rw [List.length_append, List.length_map] at waiting
  have few := window.few
  constructor
  · exact ⟨_, window.order⟩
  · have count : txBufferCount = 32 := rfl
    omega
  · intro call here transfer member
    have unreported := invariant.unreported_window here rfl
    have loaded := invariant.loaded
    rw [here] at loaded
    rw [loaded] at member
    rcases List.mem_append.mp member with started | impossible
    · exact unreported.populated_free transfer started
    · cases impossible
  · intro idle
    have populated := window.populated
    rw [idle] at populated
    rw [populated]
    congr 1
    change _ + 0 = _
    omega
  · intro idle
    have setups := counts.setups
    rw [idle] at setups
    rw [setups]
    exact BitVec.add_zero _
  · exact counts.completed

/-- In every order of sends, DMA calls that fail or not, transfers and callbacks, while a refused
start leaves nothing loaded: the accepted frames go out once, in order and unchanged, at most 31
wait, no send fills a buffer that a transfer reads, a failed send leaves the indices, and each
setup is counted at one exit.

Proof: the order of the frames and the count of the setups are kept together, by one step lemma
each; what the property says is read off them. -/
theorem generic_tx_correct (cfg : GenericTxConfig) (memory : BitVec 32 → EthFrame)
    (system : GenericTxSystem)
    (run : Run (genericTxStep cfg) StartsDiscard (genericTxInitial memory) system) :
    GenericTxCorrect cfg system := by
  obtain ⟨invariant, counts⟩ := run.invariant
    (fun state => GenericTxInvariant cfg state ∧
      GenericTxCounts state (setupsOpen state.current))
    ⟨generic_tx_initial cfg memory, rfl, rfl⟩
    fun _ _ _ ⟨invariant, counts⟩ discards taken =>
      ⟨generic_tx_step_invariant invariant discards taken, counts_step counts taken⟩
  exact invariant.correct counts

/-- The test of `StartsDiscard`, on the state before the step, so that runs can be checked by
evaluation. -/
def startsDiscard (system : GenericTxSystem) : GenericTxLabel → Bool
  | .advance outcome =>
      match system.current with
      | some (_, .start _) => outcome.ret == 0 || !outcome.keeps
      | _ => true
  | _ => true

/-- A step that passes the test meets the condition. -/
theorem starts_discard (system : GenericTxSystem) (label : GenericTxLabel)
    (admits : startsDiscard system label = true) : StartsDiscard system label := by
  cases label with
  | advance outcome =>
    intro call descriptor here refused
    rw [startsDiscard, here] at admits
    simpa [refused] using admits
  | call _ | transfer | callback _ => trivial

/-- The build of the witnesses: buffers in distinct places, and a DMA device. -/
def packedGenericConfig : GenericTxConfig where
  ethBufferSize := 1518
  txBytes index := BitVec.ofNat 32 (1536 * index)
  size_field := packed_size_field
  bytes_distinct := packed_distinct
  dma := true

/-- The steps of one send, with what the start returns. -/
def genericSend (frame : EthFrame) (ret : Int) (keeps : Bool) : List GenericTxLabel :=
  .call (.emaczeroSendRawFrame frame) :: List.replicate 3 (.advance ⟨0, false⟩) ++
    List.replicate 2 (.advance ⟨ret, keeps⟩)

/-- The theorem over a run in which a start is refused and discards its transfer: the next frame
goes out from the same buffer, once. -/
theorem generic_tx_correct_refused :
    ∃ system, system.emitted = [[2#8]] ∧
      system.log.map Prod.snd = [-5, 0] ∧ GenericTxCorrect packedGenericConfig system := by
  obtain ⟨system, run, reached⟩ := run_of_execution (genericTxStep packedGenericConfig)
    startsDiscard (genericTxInitial fun _ => [])
    (genericSend [1#8] (-5) false ++ genericSend [2#8] 0 false ++ [.transfer, .callback 0])
    (fun system => decide (system.emitted = [[2#8]] ∧ system.log.map Prod.snd = [-5, 0]))
    starts_discard (by decide +kernel)
  obtain ⟨emitted, results⟩ := of_decide_eq_true reached
  exact ⟨system, emitted, results,
    generic_tx_correct packedGenericConfig (fun _ => []) system run⟩

/-- Without the condition the order is lost: if the refused start keeps its transfer, the next
frame goes out twice. -/
theorem kept_transfer_repeats :
    ∃ system, Run (genericTxStep packedGenericConfig) Unrestricted
        (genericTxInitial fun _ => []) system ∧
      system.accepted = [[2#8]] ∧ system.emitted = [[2#8], [2#8]] := by
  obtain ⟨system, run, reached⟩ := run_of_execution (genericTxStep packedGenericConfig)
    (fun _ _ => true) (genericTxInitial fun _ => [])
    (genericSend [1#8] (-5) true ++ genericSend [2#8] 0 false ++ [.transfer, .transfer])
    (fun system => decide (system.accepted = [[2#8]] ∧ system.emitted = [[2#8], [2#8]]))
    (fun _ _ _ => trivial) (by decide +kernel)
  exact ⟨system, run, of_decide_eq_true reached⟩

end EmaczZephyr.Driver
