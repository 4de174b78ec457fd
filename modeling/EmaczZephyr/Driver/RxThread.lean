import EmaczZephyr.Driver.WatermarkExtremes
import EmaczZephyr.Foundation.PacketBuffers

/-!
# One iteration of the receive worker

`emz_rx_thread` takes a frame from the ready FIFO and disposes of it: it drops it,
copies it into a packet of the network stack, or attaches the DMA buffer itself to
a packet and leaves the release to the fragment's destroy callback. The packet, the
fragment and the buffer live for different times, and each exit has its own duties.

The network stack is a parameter. Every call on it and every release is recorded as
an event, in order. The byte samples of the frame, the cycle figures and the
interface's error statistics are left out.
-/

namespace EmaczZephyr.Driver.Whole

open PacketBuffers

/-- The pools a receive fragment comes from: `emz_rx_frag_pool`,
`emz_rx_copy_frag_pool`, and the network stack's own data pool. -/
inductive FragPool where
  | zeroCopy
  | copy
  | data
deriving DecidableEq

/-- A fragment of the network stack, with the pool that it was allocated from. -/
abbrev RxFragment := Fragment FragPool

/-- How an iteration of the worker ends for its frame, one constructor for each exit of the
source. -/
inductive RxDisposal where
  | interfaceDown
  | invalid
  | intercepted
  | allocPktFail
  | allocFragFail
  | copyWriteFail
  | profileDrop
  | netRecvFail
  | copySubmit
  | zeroCopySubmit
deriving DecidableEq

/-- The counters of `emaczero_perf_stats` that the worker updates, all of type `uint64_t`. -/
structure WorkerStats where
  rxWorkerPackets : BitVec 64
  rxInvalid : BitVec 64
  rxAllocPktFail : BitVec 64
  rxAllocPktCopyFail : BitVec 64
  rxAllocPktZcFail : BitVec 64
  rxAllocFragFail : BitVec 64
  rxCopyWriteFail : BitVec 64
  rxNetRecvFail : BitVec 64
  rxCopySubmit : BitVec 64
  rxZeroCopySubmit : BitVec 64
deriving DecidableEq

/-- What the worker, the network stack and the destroy callbacks do to packets, fragments and
buffers. -/
inductive WorkerEvent where
  | taken (rx : Nat)
  | allocated (packet : Nat)
  | accepted (packet : Nat)
  /-- The worker drops a packet of its own. -/
  | unreferenced (packet : Nat)
  /-- The stack drops a packet it had accepted. -/
  | finished (packet : Nat)
  | attached (fragment : RxFragment) (rx : Nat)
  | destroyed (fragment : RxFragment)
  | released (rx : Nat)
  | disposed (disposal : RxDisposal)
deriving DecidableEq

/-- The modes of `enum emaczero_profile_mode`, by which frames can be dropped for measurements. -/
inductive ProfileMode where
  | normal
  | dropAfterDma
  | dropAfterPkt
deriving DecidableEq

/-- What an iteration meets besides the network stack: the interface, the frame, the
interceptor's answer, and with profiling the mode and the control-frame test. -/
structure RxIteration where
  ifaceUp : Bool
  rxStatus : Int
  rxLen : Nat
  rxInterceptor : Bool
  /-- `emaczero_profile_get_mode()`; none without profiling -/
  profileMode : Option ProfileMode
  shouldKeepControl : Bool
deriving DecidableEq

/-- Whether the profiling mode drops the frame once its packet is built. -/
def RxIteration.dropsAfterPkt (iteration : RxIteration) : Bool :=
  iteration.profileMode == some .dropAfterPkt && !iteration.shouldKeepControl

/-- The build's choices: the driver's, and `EMZ_RX_COPY_FALLBACK_COUNT`, the storage for copies. -/
structure WorkerConfig where
  driver : Config
  rxCopyFallbackCount : Nat

/-- The state that the worker and the destroy callbacks share. -/
structure WorkerState (stack : NetStack FragPool .data) where
  driver : WatchedRx
  net : stack.Net
  /-- `ctx->rx` of each zero-copy fragment whose `ctx->dev` is set -/
  fragCtx : RxFragment → Option Nat
  /-- copy fragments with `ctx->in_use` -/
  copyInUse : List RxFragment
  stats : WorkerStats
  /-- packets the network stack has accepted and not yet dropped -/
  accepted : List Nat
  events : List WorkerEvent

variable {stack : NetStack FragPool .data}

/-- Record an event in the history, which no branch of the code reads. -/
def WorkerState.note (state : WorkerState stack) (event : WorkerEvent) : WorkerState stack :=
  { state with events := state.events ++ [event] }

/-- Record how the frame ends, with the counters as the exit leaves them. -/
def WorkerState.dispose (state : WorkerState stack) (disposal : RxDisposal)
    (stats : WorkerStats) : WorkerState stack :=
  { state with stats := stats, events := state.events ++ [.disposed disposal] }

/-- The network stack accepts a packet and keeps it, until it drops its last reference. -/
def WorkerState.accept (state : WorkerState stack) (net : stack.Net) (packet : Nat) :
    WorkerState stack :=
  { state with
    net := net
    accepted := state.accepted ++ [packet]
    events := state.events ++ [.accepted packet] }

/-- `emz_release_rx_buffer_from_worker`, with the release in the history. -/
def releaseFromWorker (cfg : Config) (state : WorkerState stack) (rx : Nat) :
    WorkerState stack :=
  { state with
    driver := emzReleaseRxBufferFromWorker cfg state.driver rx
    events := state.events ++ [.released rx] }

/-- The destroy callback of a fragment's pool: `emz_rx_frag_destroy`, which clears the
context before it releases the buffer and does nothing on a cleared context, or
`emz_rx_copy_frag_destroy`. -/
def fragDestroy (cfg : Config) (state : WorkerState stack) (fragment : RxFragment) :
    WorkerState stack :=
  let noted := state.note (.destroyed fragment)
  match fragment.pool with
  | .zeroCopy =>
      match state.fragCtx fragment with
      | none => noted
      | some rx => { noted with
          fragCtx := Function.update state.fragCtx fragment none
          driver := emzRxFragDestroy cfg state.driver rx
          events := noted.events ++ [.released rx] }
  | .copy => { noted with copyInUse := state.copyInUse.erase fragment }
  | .data => noted

/-- The last reference of a packet is dropped: the event that says who dropped it, the stack
behind the drop, and the callbacks of the fragments in their order. -/
def packetDropped (cfg : Config) (state : WorkerState stack) (event : WorkerEvent)
    (dropped : stack.Net × List RxFragment) : WorkerState stack :=
  dropped.2.foldl (fragDestroy cfg)
    { state with net := dropped.1, events := state.events ++ [event] }

/-- `net_pkt_unref` of the worker, with the destroy callbacks that it runs. -/
def netPktUnref (cfg : Config) (state : WorkerState stack) (packet : Nat) : WorkerState stack :=
  packetDropped cfg state (.unreferenced packet) (stack.pktUnref state.net packet)

/-- `net_recv_data`, and whether it accepted the packet. A stack without receive queues may
process the packet and drop it before the call returns; the callbacks of its fragments then
run inside the call. What it drops of other packets meanwhile is a step of its own. -/
def netRecvData (cfg : Config) (state : WorkerState stack) (packet : Nat) :
    WorkerState stack × Bool :=
  match stack.recvData state.net packet with
  | (net, .refused) => ({ state with net := net }, false)
  | (net, .kept) => (state.accept net packet, true)
  | (net, .consumed fragments) =>
      (packetDropped cfg (state.note (.accepted packet)) (.finished packet) (net, fragments), true)

/-- `net_buf_unref` of a single fragment, with the destroy callbacks that it runs. -/
def netBufUnref (cfg : Config) (state : WorkerState stack) (fragment : RxFragment) :
    WorkerState stack :=
  let dropped := stack.bufUnref state.net fragment
  dropped.2.foldl (fragDestroy cfg) { state with net := dropped.1 }

/-- `emz_rx_copy_frag_alloc`: a fragment of the copy pool with its piece of storage, and one
beyond the storage is given back. -/
def emzRxCopyFragAlloc (cfg : WorkerConfig) (state : WorkerState stack) :
    WorkerState stack × Option RxFragment :=
  match stack.bufAlloc state.net .copy with
  | (net, none) => ({ state with net := net }, none)
  | (net, some fragment) =>
      if stack.bufId fragment < 0 ∨ (cfg.rxCopyFallbackCount : Int) ≤ stack.bufId fragment then
        (netBufUnref cfg.driver { state with net := net } fragment, none)
      else ({ state with net := net, copyInUse := state.copyInUse ++ [fragment] }, some fragment)

/-- The end of the copy path: the packet holds the frame. The buffer is released on
every exit. -/
def emzRxThreadCopySubmit (cfg : WorkerConfig) (iteration : RxIteration)
    (state : WorkerState stack) (packet rx : Nat) : WorkerState stack :=
  if iteration.dropsAfterPkt then
    releaseFromWorker cfg.driver
      ((netPktUnref cfg.driver state packet).dispose .profileDrop state.stats) rx
  else
    match netRecvData cfg.driver state packet with
    | (refused, false) =>
        releaseFromWorker cfg.driver
          ((netPktUnref cfg.driver refused packet).dispose .netRecvFail
            { state.stats with rxNetRecvFail := state.stats.rxNetRecvFail + 1#64 }) rx
    | (accepted, true) =>
        releaseFromWorker cfg.driver
          (accepted.dispose .copySubmit
            { state.stats with rxCopySubmit := state.stats.rxCopySubmit + 1#64 }) rx

/-- The copy fallback of `emz_rx_thread`: into a fragment of its own pool when it has
one, else through `net_pkt_write`. -/
def emzRxThreadCopy (cfg : WorkerConfig) (iteration : RxIteration) (state : WorkerState stack)
    (rx : Nat) : WorkerState stack :=
  match stack.pktAlloc state.net with
  | (net, none) =>
      releaseFromWorker cfg.driver ({ state with net := net }.dispose .allocPktFail
        { state.stats with
          rxAllocPktFail := state.stats.rxAllocPktFail + 1#64
          rxAllocPktCopyFail := state.stats.rxAllocPktCopyFail + 1#64 }) rx
  | (net, some packet) =>
      let opened := { state with net := net }.note (.allocated packet)
      if 0 < cfg.rxCopyFallbackCount then
        match emzRxCopyFragAlloc cfg opened with
        | (failed, none) =>
            releaseFromWorker cfg.driver
              ((netPktUnref cfg.driver failed packet).dispose .allocFragFail
                { state.stats with
                  rxAllocFragFail := state.stats.rxAllocFragFail + 1#64 }) rx
        | (copied, some fragment) =>
            emzRxThreadCopySubmit cfg iteration
              { copied with net := stack.pktAppend copied.net packet fragment } packet rx
      else
        match stack.pktWrite opened.net packet with
        | (net, false) =>
            releaseFromWorker cfg.driver
              (netPktUnref cfg.driver ({ opened with net := net }.dispose .copyWriteFail
                { state.stats with
                  rxCopyWriteFail := state.stats.rxCopyWriteFail + 1#64 }) packet) rx
        | (net, true) => emzRxThreadCopySubmit cfg iteration { opened with net := net } packet rx

/-- The end of the zero-copy path: the packet's fragment is the buffer, and every exit
leaves the release to the fragment. -/
def emzRxThreadZeroCopySubmit (cfg : WorkerConfig) (iteration : RxIteration)
    (state : WorkerState stack) (packet : Nat) : WorkerState stack :=
  if iteration.dropsAfterPkt then
    (netPktUnref cfg.driver state packet).dispose .profileDrop state.stats
  else
    match netRecvData cfg.driver state packet with
    | (refused, false) =>
        (netPktUnref cfg.driver refused packet).dispose .netRecvFail
          { state.stats with rxNetRecvFail := state.stats.rxNetRecvFail + 1#64 }
    | (accepted, true) =>
        accepted.dispose .zeroCopySubmit
          { state.stats with rxZeroCopySubmit := state.stats.rxZeroCopySubmit + 1#64 }

/-- The zero-copy path of `emz_rx_thread`: packet, fragment, attachment of the buffer and the
submission, with the failure branch of each call. -/
def emzRxThreadZeroCopy (cfg : WorkerConfig) (iteration : RxIteration)
    (state : WorkerState stack) (rx : Nat) : WorkerState stack :=
  match stack.pktAlloc state.net with
  | (net, none) =>
      releaseFromWorker cfg.driver ({ state with net := net }.dispose .allocPktFail
        { state.stats with
          rxAllocPktFail := state.stats.rxAllocPktFail + 1#64
          rxAllocPktZcFail := state.stats.rxAllocPktZcFail + 1#64 }) rx
  | (net, some packet) =>
      let opened := { state with net := net }.note (.allocated packet)
      match stack.bufAlloc opened.net .zeroCopy with
      | (net, none) =>
          releaseFromWorker cfg.driver
            ((netPktUnref cfg.driver { opened with net := net } packet).dispose .allocFragFail
              { state.stats with
                rxAllocFragFail := state.stats.rxAllocFragFail + 1#64 }) rx
      | (net, some fragment) =>
          emzRxThreadZeroCopySubmit cfg iteration
            { opened with
              driver := emzRxThreadAttach cfg.driver opened.driver rx
              fragCtx := Function.update opened.fragCtx fragment (some rx)
              net := stack.pktAppend net packet fragment
              events := opened.events ++ [.attached fragment rx] } packet

/-- An iteration of `emz_rx_thread` once it has a buffer: the tests of interface, validity and
interceptor in their order, and then one of the two paths. -/
def emzRxThreadFrame (cfg : WorkerConfig) (iteration : RxIteration) (state : WorkerState stack)
    (rx : Nat) : WorkerState stack :=
  if !iteration.ifaceUp then
    releaseFromWorker cfg.driver (state.dispose .interfaceDown state.stats) rx
  else if iteration.rxStatus < 0 ∨ iteration.rxLen = 0 ∨
      cfg.driver.ethBufferSize < iteration.rxLen then
    releaseFromWorker cfg.driver (state.dispose .invalid
      { state.stats with rxInvalid := state.stats.rxInvalid + 1#64 }) rx
  else if iteration.rxInterceptor then
    releaseFromWorker cfg.driver (state.dispose .intercepted state.stats) rx
  else if copyFallback cfg.driver state.driver then emzRxThreadCopy cfg iteration state rx
  else emzRxThreadZeroCopy cfg iteration state rx

/-- One iteration of `emz_rx_thread`, which waits while the ready FIFO is empty. -/
def emzRxThread (cfg : WorkerConfig) (iteration : RxIteration) (state : WorkerState stack) :
    Option (WorkerState stack) :=
  match state.driver.rxReadyFifo with
  | [] => none
  | rx :: _ => (emzRxThreadTake cfg.driver state.driver).map fun driver =>
      emzRxThreadFrame cfg iteration { state with
        driver := driver
        stats := { state.stats with
          rxWorkerPackets := state.stats.rxWorkerPackets + 1#64 }
        events := state.events ++ [.taken rx] } rx

/-- The steps between which the worker's state is stable: a whole iteration, the
network stack dropping a packet it had accepted, and every operation on the ring and
the pool by another context. -/
inductive WorkerStep where
  | iterate (iteration : RxIteration)
  | drop (packet : Nat)
  | write (index : Nat) (status : BitVec 32)
  | post
  | poll (turns : List PollTurn)
  | recover

/-- An operation of another context between two iterations of the worker. -/
def WorkerState.operate (cfg : Config) (state : WorkerState stack) (operation : RxOperation) :
    Option (WorkerState stack) :=
  (rxStep cfg state.driver operation).map fun driver => { state with driver := driver }

/-- One step of the whole: an iteration of the worker, the stack's drop of a packet it had
accepted, or an operation of another context. -/
def workerStep (cfg : WorkerConfig) (state : WorkerState stack) :
    WorkerStep → Option (WorkerState stack)
  | .iterate iteration => emzRxThread cfg iteration state
  | .drop packet =>
      if packet ∈ state.accepted then
        some (packetDropped cfg.driver
          { state with accepted := state.accepted.filter (· ≠ packet) } (.finished packet)
          (stack.pktUnref state.net packet))
      else none
  | .write index status => state.operate cfg.driver (.write index status)
  | .post => state.operate cfg.driver .post
  | .poll turns => state.operate cfg.driver (.poll turns)
  | .recover => state.operate cfg.driver .recover

/-- The state when the driver has started: no packet, no fragment, no event. -/
def WorkerState.started (stack : NetStack FragPool .data) (driver : WatchedRx) (net : stack.Net) :
    WorkerState stack where
  driver := driver
  net := net
  fragCtx := fun _ => none
  copyInUse := []
  stats := ⟨0#64, 0#64, 0#64, 0#64, 0#64, 0#64, 0#64, 0#64, 0#64, 0#64⟩
  accepted := []
  events := []

end EmaczZephyr.Driver.Whole
