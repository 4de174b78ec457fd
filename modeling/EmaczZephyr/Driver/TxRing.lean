import EmaczZephyr.Driver.RxRing

/-!
# Direct-mode transmission

The sends of `emz_send`, `emaczero_send_raw_frame` and
`emaczero_profile_send_raw_frame_burst` over the MM2S descriptor ring. The calls
are serialised by `tx_lock`, so at most one is past it; between any two of its
steps the engine may take a descriptor, read the bytes that are then at its buffer
address and mark it complete. A call that fails before the lock returns at once.

The packet buffers are regions of memory named by their base address. The ring is
allocated and the channel runs: `emz_tx_direct_start` has succeeded. Statistics,
the sampled words and the cache maintenance are left out.
-/

namespace EmaczZephyr.Driver

/-- `EMZ_DMA_BUFFER_COUNT_TX`, the buffers and the descriptors of the transmit ring. -/
def txBufferCount : Nat := 32

/-- The ring has descriptors, so indices modulo their number are indices. -/
theorem tx_count_positive : 0 < txBufferCount := by decide

/-- A frame as the driver is given it, byte by byte. -/
abbrev EthFrame := List (BitVec 8)

/-- The size of a packet buffer and the address of `tx_buffer[i].bytes`. The buffers
are different memory. -/
structure TxConfig where
  /-- `EMZ_ETH_BUFFER_SIZE` -/
  ethBufferSize : Nat
  txBytes : Nat → BitVec 32
  size_field : ethBufferSize < 67108864
  bytes_distinct : ∀ left right, left < txBufferCount → right < txBufferCount →
    txBytes left = txBytes right → left = right

/-- The words of a transmit `struct emaczero_rx_bd` that the driver writes and the
engine reads. -/
structure TxBd where
  bufferAddress : BitVec 32
  control : BitVec 32
  status : BitVec 32

/-- The start-of-frame flag of a control word. -/
def bdCtrlSof : BitVec 32 := 0x08000000#32

/-- The end-of-frame flag of a control word. -/
def bdCtrlEof : BitVec 32 := 0x04000000#32

/-- `EMSGSIZE`, which a frame that is empty or too long returns. -/
def emsgsize : Int := 122

/-- `ENOSPC`, which a call without a free descriptor returns at the end of its wait. -/
def enospc : Int := 28

/-- `EIO`, which a packet returns that cannot be read. -/
def eio : Int := 5

/-- The calls. `emz_send` also carries what `net_pkt_read` does: it may fail after
writing some bytes. -/
inductive TxCall where
  | emzSend (packet : EthFrame) (readFails : Option EthFrame)
  | emaczeroSendRawFrame (frame : EthFrame)
  | emaczeroProfileSendRawFrameBurst (frame : EthFrame) (count : Nat)
deriving DecidableEq

/-- The frame of a call, whichever of the three entry points it came by. -/
def TxCall.frame : TxCall → EthFrame
  | .emzSend packet _ => packet
  | .emaczeroSendRawFrame frame => frame
  | .emaczeroProfileSendRawFrameBurst frame _ => frame

/-- The result of a call that returns before it takes `tx_lock`. -/
def TxCall.early (cfg : TxConfig) (call : TxCall) : Option Int :=
  if call.frame.length = 0 ∨ cfg.ethBufferSize < call.frame.length then some (-emsgsize)
  else
    match call with
    | .emaczeroProfileSendRawFrameBurst _ 0 => some 0
    | _ => none

/-- The wait condition of a call: a single send needs a free descriptor, a burst an
empty ring. -/
def TxCall.waits (call : TxCall) (inflight : Nat) : Bool :=
  match call with
  | .emaczeroProfileSendRawFrameBurst _ _ => inflight != 0
  | _ => decide (txBufferCount ≤ inflight)

/-- The microseconds that a call waits before it gives up, longer for a burst. -/
def TxCall.waitLimit : TxCall → Nat
  | .emaczeroProfileSendRawFrameBurst _ _ => 10000
  | _ => 2000

/-- Program points of a call that holds `tx_lock`, one for each access to what it shares with the
engine. -/
inductive TxPoint where
  /-- `emz_tx_direct_reclaim`, after `waited` microseconds. -/
  | reclaim (waited : Nat)
  | check (waited : Nat)
  /-- The copy into `tx_buffer[descriptor]`. -/
  | fill (descriptor : Nat)
  /-- `emz_setup_dma_tx_direct_transfer` up to its tail write. -/
  | setup
  | tail (descriptor : Nat)
  | account (descriptor : Nat)
  /-- The loop of a burst. -/
  | burst (first last queued : Nat)
  | burstReturn (queued : Nat)
deriving DecidableEq

/-- The MM2S channel: whether it has descriptors up to its tail, the next one and
the tail. -/
structure Mm2s where
  running : Bool
  curdesc : Nat
  taildesc : Nat

/-- A TAILDESC write sets the tail, and the channel runs. -/
def Mm2s.writeTaildesc (engine : Mm2s) (index : Nat) : Mm2s :=
  { engine with taildesc := index, running := true }

/-- The driver's ring, the packet memory, the engine, and the call that holds the
lock. The last fields are history: the frames the engine emitted, the calls that
returned with their results, where the last burst began and how many of its
descriptors the engine has not taken. -/
structure TxSystem where
  txBdRing : Nat → TxBd
  memory : BitVec 32 → EthFrame
  txPopulatedBufferIndex : Nat
  txCompletedBufferIndex : Nat
  txBdInflight : Nat
  engine : Mm2s
  current : Option (TxCall × TxPoint)
  emitted : List EthFrame
  log : List (TxCall × Int)
  burstFirst : Nat
  burstLeft : Nat

/-- The call returns with a result, which the history keeps, and releases the lock. -/
def TxSystem.leave (system : TxSystem) (call : TxCall) (result : Int) : TxSystem :=
  { system with current := none, log := system.log ++ [(call, result)] }

/-- The lock's holder continues at a program point. -/
def TxSystem.proceed (system : TxSystem) (call : TxCall) (point : TxPoint) : TxSystem :=
  { system with current := some (call, point) }

/-- A copy to a buffer overwrites its first bytes and leaves those behind from an earlier frame. -/
def TxSystem.copy (system : TxSystem) (address : BitVec 32) (bytes : EthFrame) : TxSystem :=
  { system with
    memory := Function.update system.memory address
      (bytes ++ (system.memory address).drop bytes.length) }

/-- The descriptor words for a frame of some length: address, flags and length, and a clear
status. -/
def TxSystem.program (system : TxSystem) (index : Nat) (address : BitVec 32) (len : Nat) :
    TxSystem :=
  { system with
    txBdRing := Function.update system.txBdRing index
      { bufferAddress := address
        control := bdCtrlSof ||| bdCtrlEof ||| (BitVec.ofNat 32 len &&& bdCtrlLenMask)
        status := 0#32 } }

/-- One more descriptor is in flight after the given one. -/
def TxSystem.advance (system : TxSystem) (index : Nat) : TxSystem :=
  { system with
    txPopulatedBufferIndex := (index + 1) % txBufferCount
    txBdInflight := system.txBdInflight + 1 }

/-- One iteration of `emz_tx_direct_reclaim`, if there is one to make. -/
def emzTxDirectReclaim (system : TxSystem) : Option TxSystem :=
  let index := system.txCompletedBufferIndex
  let bd := system.txBdRing index
  if 0 < system.txBdInflight ∧ bdFinished bd.status = true then
    some { system with
      txBdRing := Function.update system.txBdRing index { bd with control := 0#32, status := 0#32 }
      txCompletedBufferIndex := (index + 1) % txBufferCount
      txBdInflight := system.txBdInflight - 1 }
  else none

/-- One step of the call that holds the lock, from the reclaim loop to the account, for sends and
bursts. -/
def txAdvance (cfg : TxConfig) (system : TxSystem) (call : TxCall) : TxPoint → TxSystem
  | .reclaim waited =>
      match emzTxDirectReclaim system with
      | some reclaimed => reclaimed
      | none => system.proceed call (.check waited)
  | .check waited =>
      if call.waits system.txBdInflight then
        if call.waitLimit ≤ waited then system.leave call (-enospc)
        else system.proceed call (.reclaim (waited + 1))
      else system.proceed call (.fill system.txPopulatedBufferIndex)
  | .fill descriptor =>
      match call with
      | .emzSend _ (some written) =>
          (system.copy (cfg.txBytes descriptor) written).leave call (-eio)
      | .emaczeroProfileSendRawFrameBurst frame _ =>
          { (system.copy (cfg.txBytes descriptor) frame).proceed call
              (.burst descriptor descriptor 0) with burstFirst := descriptor, burstLeft := 0 }
      | _ => (system.copy (cfg.txBytes descriptor) call.frame).proceed call .setup
  | .setup =>
      let index := system.txPopulatedBufferIndex
      if txBufferCount ≤ system.txBdInflight then system.leave call (-enospc)
      else (system.program index (cfg.txBytes index) call.frame.length).proceed call (.tail index)
  | .tail descriptor =>
      { system.proceed call (.account descriptor) with
        engine := system.engine.writeTaildesc descriptor }
  | .account descriptor => (system.advance descriptor).leave call 0
  | .burst first last queued =>
      match call with
      | .emaczeroProfileSendRawFrameBurst frame count =>
          let index := system.txPopulatedBufferIndex
          if queued < min count txBufferCount then
            { ((system.program index (cfg.txBytes first) frame.length).advance index).proceed call
                (.burst first index (queued + 1)) with burstLeft := system.burstLeft + 1 }
          else
            { system.proceed call (.burstReturn queued) with
              engine := system.engine.writeTaildesc last }
      | _ => system
  | .burstReturn queued => system.leave call queued

/-- The engine takes its next descriptor: it reads the frame, marks the descriptor
complete and stops after its tail. -/
def mm2sTake (system : TxSystem) (status : BitVec 32) : Option TxSystem :=
  if system.engine.running = true ∧ status &&& bdStatusComplete ≠ 0#32 then
    let index := system.engine.curdesc
    let bd := system.txBdRing index
    some { system with
      txBdRing := Function.update system.txBdRing index { bd with status := status }
      engine := { system.engine with
        curdesc := (index + 1) % txBufferCount
        running := system.engine.taildesc != index }
      emitted := system.emitted ++
        [(system.memory bd.bufferAddress).take (bd.control &&& bdCtrlLenMask).toNat]
      burstLeft := system.burstLeft - 1 }
  else none

/-- What can happen next: a call comes, the lock's holder takes a step, or the engine processes a
descriptor. -/
inductive TxLabel where
  | call (call : TxCall)
  | advance
  | engine (status : BitVec 32)
deriving DecidableEq

/-- One step: a call begins or returns early, the lock's holder advances, or the
engine takes a descriptor. -/
def txStep (cfg : TxConfig) (system : TxSystem) : TxLabel → Option TxSystem
  | .call call =>
      match call.early cfg with
      | some result => some { system with log := system.log ++ [(call, result)] }
      | none => if system.current = none then some (system.proceed call (.reclaim 0)) else none
  | .advance =>
      match system.current with
      | some (call, point) => some (txAdvance cfg system call point)
      | none => none
  | .engine status => mm2sTake system status

/-- The state that `emz_tx_direct_start` leaves: a cleared ring, both indices at zero and a
channel that waits. -/
def txInitial (memory : BitVec 32 → EthFrame) : TxSystem where
  txBdRing := fun _ => ⟨0#32, 0#32, 0#32⟩
  memory := memory
  txPopulatedBufferIndex := 0
  txCompletedBufferIndex := 0
  txBdInflight := 0
  engine := ⟨false, 0, 0⟩
  current := none
  emitted := []
  log := []
  burstFirst := 0
  burstLeft := 0

end EmaczZephyr.Driver
