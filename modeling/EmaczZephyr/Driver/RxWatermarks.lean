import EmaczZephyr.Driver.Ownership
import EmaczZephyr.Foundation.Watermark

/-!
# The receive watermarks

Six fields of `emaczero_perf_stats` keep the extreme of a receive figure. The
driver starts them, and main's `init_perf_stats_metadata` clears the whole record
while the ring is running: only `rx_min_free` gets its neutral value back. The
lowest availability stays zero from then on, and the highest inflight and
stack-owned counts restart from zero although the counts themselves go on.

Whole operations are interleaved here, each one the locked regions of the ring
followed by its counting. The histories record every value a figure takes after
the wipe. The marks are extremes as long as the first update of the ring's figures
fills the ring, and the first update of the stack-owned count is no decrement to a
positive value; at the first operation that breaks this, they are not.
-/

namespace EmaczZephyr.Driver.Whole

open Runs Watermark

/-- `emz_perf_set_max_u32`: a new maximum is stored only when it is larger. -/
def emzPerfSetMaxU32 (value candidate : Nat) : Nat :=
  if candidate > value then candidate else value

/-- `emz_perf_set_min_u32`: a new minimum is stored only when it is smaller. -/
def emzPerfSetMinU32 (value candidate : Nat) : Nat :=
  if candidate < value then candidate else value

/-- An atomic counter read as `uint32_t`, so that a negative one is a very large number. -/
def asUint32 (count : Int) : Nat := (count % 4294967296).toNat

/-- The atomic counters of the pool's owners, one for each place that a buffer can be in. -/
structure OwnerCounts where
  rxFreeCount : Int
  rxDmaFifoCount : Int
  rxReadyFifoCount : Int
  rxWorkerCount : Int
  rxStackOwnedCount : Int
deriving DecidableEq

/-- The receive figures of `emaczero_perf_stats` that the pool accounting and the
watermarks use. The ring's own figures are in `RxRing`. -/
structure RxPerf where
  rxFreeCurrent : Nat
  rxDmaFifoCurrent : Nat
  rxReadyFifoCurrent : Nat
  rxWorkerCurrent : Nat
  rxStackOwnedCurrent : Nat
  rxOwnerSumCurrent : Nat
  rxOwnerSumBad : Nat
  rxPoolInflightCurrent : Nat
  rxPoolInflightHigh : Nat
  rxMinFree : Nat
  rxMaxDmaInflight : Nat
  rxMaxStackOwned : Nat
  rxPollCompletedMax : Nat
deriving DecidableEq

/-- The record after `memset` and the one assignment that follows for these
fields, in `init_perf_stats_metadata` as in `emz_init`. -/
def RxPerf.cleared : RxPerf :=
  { rxFreeCurrent := 0, rxDmaFifoCurrent := 0, rxReadyFifoCurrent := 0, rxWorkerCurrent := 0
    rxStackOwnedCurrent := 0, rxOwnerSumCurrent := 0, rxOwnerSumBad := 0
    rxPoolInflightCurrent := 0, rxPoolInflightHigh := 0
    rxMinFree := 4294967295
    rxMaxDmaInflight := 0, rxMaxStackOwned := 0, rxPollCompletedMax := 0 }

/-- History: the values each watched figure has taken, oldest first. -/
structure RxObserved where
  /-- stored to `rx_bd_available_current` -/
  available : List Nat
  /-- free counts that refills observe -/
  minFree : List Nat
  /-- stored to `rx_pool_inflight_current` -/
  poolInflight : List Nat
  /-- stored to `rx_dma_inflight` -/
  dmaInflight : List Nat
  /-- values of `rx_stack_owned_count` after each change -/
  stackOwned : List Nat
  /-- descriptors completed by each poll -/
  pollCompleted : List Nat
deriving DecidableEq

/-- Nothing has been observed of any watermark's value yet. -/
def RxObserved.nothing : RxObserved := ⟨[], [], [], [], [], []⟩

/-- The receive side between whole operations, with the watermarks and, in the history, every
value that was observed for them. -/
structure WatchedRx where
  ring : RxRing
  rxFreeFifo : List Nat
  rxReadyFifo : List Nat
  /-- The buffer `emz_rx_thread` is working on. -/
  workerBuffer : Option Nat
  /-- Zero-copy fragments the network stack holds, by the buffer in their context. -/
  stackFragments : List Nat
  counts : OwnerCounts
  perf : RxPerf
  observed : RxObserved

/-- `emz_perf_update_pool_inflight`: the sum of the owners' counters in 32-bit arithmetic, the
current number in flight and its watermark. -/
def emzPerfUpdatePoolInflight (cfg : Config) (state : WatchedRx) : WatchedRx :=
  let freeCount := asUint32 state.counts.rxFreeCount
  let dmaFifoCount := asUint32 state.counts.rxDmaFifoCount
  let readyFifoCount := asUint32 state.counts.rxReadyFifoCount
  let workerCount := asUint32 state.counts.rxWorkerCount
  let stackOwnedCount := asUint32 state.counts.rxStackOwnedCount
  let ownerSum := Word32.add (Word32.add (Word32.add (Word32.add freeCount dmaFifoCount)
    readyFifoCount) workerCount) stackOwnedCount
  let inflight := if freeCount ≤ cfg.rxBufferCount then cfg.rxBufferCount - freeCount else 0
  { state with
    perf := { state.perf with
      rxFreeCurrent := freeCount
      rxDmaFifoCurrent := dmaFifoCount
      rxReadyFifoCurrent := readyFifoCount
      rxWorkerCurrent := workerCount
      rxStackOwnedCurrent := stackOwnedCount
      rxOwnerSumCurrent := ownerSum
      rxOwnerSumBad :=
        if Word32.add ownerSum 8 < cfg.rxBufferCount ∨ Word32.add cfg.rxBufferCount 8 < ownerSum
        then Word32.inc state.perf.rxOwnerSumBad else state.perf.rxOwnerSumBad
      rxPoolInflightCurrent := inflight
      rxPoolInflightHigh := emzPerfSetMaxU32 state.perf.rxPoolInflightHigh inflight }
    observed := { state.observed with
      poolInflight := state.observed.poolInflight ++ [inflight] } }

/-- main's `init_perf_stats_metadata`: the record is cleared under the running
ring. The histories start here. -/
def initPerfStatsMetadata (state : WatchedRx) : WatchedRx :=
  { state with
    ring := { state.ring with rxBdAvailableCurrent := 0, rxBdAvailableMin := 0 }
    perf := .cleared
    observed := .nothing }

/-- `emz_rx_direct_post_one` once the slot is free and the limit not reached: the
figures stored in the locked region, and the counting after it. -/
def emzRxDirectCountPosted (cfg : Config) (state : WatchedRx) (ring : RxRing) : WatchedRx :=
  emzPerfUpdatePoolInflight cfg { state with
    ring := ring
    counts := { state.counts with rxDmaFifoCount := state.counts.rxDmaFifoCount + 1 }
    perf := { state.perf with
      rxMaxDmaInflight := emzPerfSetMaxU32 state.perf.rxMaxDmaInflight ring.rxDmaInflight }
    observed := { state.observed with
      available := state.observed.available ++ [ring.rxBdAvailableCurrent]
      dmaInflight := state.observed.dmaInflight ++ [ring.rxDmaInflight] } }

/-- `emz_rx_direct_post_one`: the locked region, and the counting behind it when the post
succeeded. -/
def emzRxDirectPostOne (cfg : Config) (state : WatchedRx) (rx : Nat) : WatchedRx × Bool :=
  match Driver.emzRxDirectPostOne cfg state.ring rx with
  | (ring, false) => ({ state with ring := ring }, false)
  | (ring, true) => (emzRxDirectCountPosted cfg state ring, true)

/-- The counting of `emz_rx_direct_refill` after a successful post: one free buffer less, and the
smallest such number so far. -/
def emzRxDirectCountQueued (cfg : Config) (state : WatchedRx) : WatchedRx :=
  let counted := emzPerfUpdatePoolInflight cfg { state with
    counts := { state.counts with rxFreeCount := state.counts.rxFreeCount - 1 } }
  let freeCount := asUint32 counted.counts.rxFreeCount
  { counted with
    perf := { counted.perf with rxMinFree := emzPerfSetMinU32 counted.perf.rxMinFree freeCount }
    observed := { counted.observed with minFree := counted.observed.minFree ++ [freeCount] } }

/-- The loop of `emz_rx_direct_refill` over the buffers of `rx_free_fifo`. A refused
buffer goes to the end of the FIFO. -/
def emzRxDirectRefillLoop (cfg : Config) : List Nat → WatchedRx → Nat → WatchedRx × Nat
  | [], state, queued => ({ state with rxFreeFifo := [] }, queued)
  | rx :: rest, state, queued =>
      match emzRxDirectPostOne cfg { state with rxFreeFifo := rest } rx with
      | (posted, false) => ({ posted with rxFreeFifo := posted.rxFreeFifo ++ [rx] }, queued)
      | (posted, true) =>
          emzRxDirectRefillLoop cfg rest (emzRxDirectCountQueued cfg posted) (queued + 1)

/-- `emz_rx_direct_refill`, which `emz_refill_dma_rx` is with the direct ring, and
the number of buffers it queued. -/
def emzRxDirectRefill (cfg : Config) (state : WatchedRx) : WatchedRx × Nat :=
  emzRxDirectRefillLoop cfg state.rxFreeFifo state 0

/-- `emz_release_rx_buffer` before its refill: the buffer is counted as free and put on the free
FIFO. -/
def emzReturnRxBuffer (cfg : Config) (state : WatchedRx) (rx : Nat) : WatchedRx :=
  let counted := emzPerfUpdatePoolInflight cfg { state with
    counts := { state.counts with rxFreeCount := state.counts.rxFreeCount + 1 } }
  { counted with rxFreeFifo := counted.rxFreeFifo ++ [rx] }

/-- `emz_release_rx_buffer`: the buffer is returned, and the ring refilled at once. -/
def emzReleaseRxBuffer (cfg : Config) (state : WatchedRx) (rx : Nat) : WatchedRx :=
  (emzRxDirectRefill cfg (emzReturnRxBuffer cfg state rx)).1

/-- `emz_release_rx_buffer_from_worker`: the worker's count goes down, and the buffer is
released. -/
def emzReleaseRxBufferFromWorker (cfg : Config) (state : WatchedRx) (rx : Nat) : WatchedRx :=
  emzReleaseRxBuffer cfg (emzPerfUpdatePoolInflight cfg { state with
    workerBuffer := none
    counts := { state.counts with rxWorkerCount := state.counts.rxWorkerCount - 1 } }) rx

/-- `emz_rx_frag_destroy` for the fragment whose context names the buffer: the stack's count goes
down, and the buffer is released. -/
def emzRxFragDestroy (cfg : Config) (state : WatchedRx) (rx : Nat) : WatchedRx :=
  let stackOwned := state.counts.rxStackOwnedCount - 1
  emzReleaseRxBuffer cfg { state with
    stackFragments := state.stackFragments.erase rx
    counts := { state.counts with rxStackOwnedCount := stackOwned }
    observed := { state.observed with
      stackOwned := state.observed.stackOwned ++ [asUint32 stackOwned] } } rx

/-- What one iteration of the loop of `emz_rx_direct_poll` meets: the status words the
engine has written since the iteration before, and the answers of the interceptor
and of the profiling mode. -/
structure PollTurn where
  written : List (Nat × BitVec 32)
  rxInterceptor : Bool
  dropAfterDma : Bool
deriving DecidableEq

/-- The ring with the status words that the engine has written by the time of a turn. -/
def PollTurn.writeBack (turn : PollTurn) (ring : RxRing) : RxRing :=
  turn.written.foldl (fun ring word => writeStatus ring word.1 word.2) ring

/-- Whether the frame of a turn goes to `rx_ready_fifo`, or is intercepted or dropped in the poll
itself. -/
def PollTurn.goesToReady (cfg : Config) (turn : PollTurn) (status : BitVec 32) : Bool :=
  Driver.goesToReady cfg ⟨fun _ => turn.rxInterceptor, fun _ => turn.dropAfterDma⟩ 0 status

/-- The state after the consume region has retired a slot, and the decrement of
`rx_dma_fifo_count`. -/
def emzRxDirectRetire (state : WatchedRx) (ring : RxRing) : WatchedRx :=
  { state with
    ring := ring
    counts := { state.counts with rxDmaFifoCount := state.counts.rxDmaFifoCount - 1 }
    observed := { state.observed with
      available := state.observed.available ++ [ring.rxBdAvailableCurrent]
      dmaInflight := if 0 < state.ring.rxDmaInflight
        then state.observed.dmaInflight ++ [ring.rxDmaInflight] else state.observed.dmaInflight } }

/-- A frame handed to the worker: counted as ready and put on the FIFO, with the update of the
number in flight. -/
def emzRxDirectPutReady (cfg : Config) (state : WatchedRx) (rx : Nat) : WatchedRx :=
  emzPerfUpdatePoolInflight cfg { state with
    rxReadyFifo := state.rxReadyFifo ++ [rx]
    counts := { state.counts with rxReadyFifoCount := state.counts.rxReadyFifoCount + 1 } }

/-- The loop of `emz_rx_direct_poll`. There is no result when the turns end before
the loop does: they are not one whole poll. -/
def emzRxDirectPollLoop (cfg : Config) :
    List PollTurn → WatchedRx → Nat → Option (WatchedRx × Nat)
  | [], _, _ => none
  | turn :: turns, state, completed =>
      match emzRxDirectConsume cfg (turn.writeBack state.ring) with
      | (ring, .unfinished) => some ({ state with ring := ring }, completed)
      -- The recovery requested here is an operation of its own.
      | (ring, .unowned) => some ({ state with ring := ring }, completed)
      | (ring, .retired rx status) =>
          let retired := emzRxDirectRetire state ring
          emzRxDirectPollLoop cfg turns
            (if turn.goesToReady cfg status then emzRxDirectPutReady cfg retired rx
              else emzReleaseRxBuffer cfg retired rx)
            (Word32.inc completed)

/-- `emz_rx_direct_poll` as a whole: the loop over finished descriptors, the number completed
with its watermark, and a refill when there were any. -/
def emzRxDirectPoll (cfg : Config) (turns : List PollTurn) (state : WatchedRx) :
    Option WatchedRx :=
  (emzRxDirectPollLoop cfg turns state 0).map fun (polled, completed) =>
    let noted := { polled with
      perf := { polled.perf with
        rxPollCompletedMax := emzPerfSetMaxU32 polled.perf.rxPollCompletedMax completed }
      observed := { polled.observed with
        pollCompleted := polled.observed.pollCompleted ++ [completed] } }
    if completed ≠ 0 then (emzRxDirectRefill cfg noted).1 else noted

/-- `emz_rx_thread` takes the next frame: one ready buffer less, and one in the worker's hands. -/
def emzRxThreadTake (cfg : Config) (state : WatchedRx) : Option WatchedRx :=
  match state.workerBuffer, state.rxReadyFifo with
  | none, rx :: rest => some (emzPerfUpdatePoolInflight cfg { state with
      workerBuffer := some rx
      rxReadyFifo := rest
      counts := { state.counts with
        rxReadyFifoCount := state.counts.rxReadyFifoCount - 1
        rxWorkerCount := state.counts.rxWorkerCount + 1 } })
  | _, _ => none

/-- `emz_rx_thread` attaches its buffer to a zero-copy fragment: the stack's count and its
watermark go up, and the worker's hands are empty. -/
def emzRxThreadAttach (cfg : Config) (state : WatchedRx) (rx : Nat) : WatchedRx :=
  let stackOwned := state.counts.rxStackOwnedCount + 1
  let noted := emzPerfUpdatePoolInflight cfg { state with
    workerBuffer := none
    stackFragments := state.stackFragments ++ [rx]
    counts := { state.counts with
      rxStackOwnedCount := stackOwned
      rxWorkerCount := state.counts.rxWorkerCount - 1 }
    observed := { state.observed with
      stackOwned := state.observed.stackOwned ++ [asUint32 stackOwned] } }
  { noted with
    perf := { noted.perf with
      rxMaxStackOwned := emzPerfSetMaxU32 noted.perf.rxMaxStackOwned
        (asUint32 noted.counts.rxStackOwnedCount) } }

/-- Whether `emz_rx_thread` copies the frame instead of handing its buffer over. -/
def copyFallback (cfg : Config) (state : WatchedRx) : Bool :=
  decide ((cfg.rxMaxStackOwnedZerocopy : Int) ≤ state.counts.rxStackOwnedCount)

/-- The hand-off of `emz_rx_thread`, which copies at the limit of stack-owned buffers. -/
def emzRxThreadHandOff (cfg : Config) (state : WatchedRx) : Option WatchedRx :=
  if copyFallback cfg state then none
  else state.workerBuffer.map (emzRxThreadAttach cfg state)

/-- `emz_rx_direct_recover` up to its refill: the swept ring, and the orphans back in
the free pool. -/
def emzRxDirectReclaim (cfg : Config) (state : WatchedRx) : WatchedRx :=
  let swept := emzRxDirectSweep cfg state.ring
  emzPerfUpdatePoolInflight cfg { state with
    ring := swept.1
    rxFreeFifo := state.rxFreeFifo ++ swept.2
    counts := { state.counts with
      rxDmaFifoCount := state.counts.rxDmaFifoCount - swept.2.length
      rxFreeCount := state.counts.rxFreeCount + swept.2.length }
    observed := { state.observed with
      available := state.observed.available ++ [swept.1.rxBdAvailableCurrent]
      dmaInflight := state.observed.dmaInflight ++ [swept.1.rxDmaInflight] } }

/-- `emz_rx_direct_arm`, of which only the started flag is state here. -/
def emzRxDirectArm (state : WatchedRx) : WatchedRx :=
  { state with ring := (emzRxDirectArmTail state.ring).1 }

/-- `emz_rx_direct_recover` as a whole: the ring is swept, the orphans are free again, the ring
is refilled and the channel armed. -/
def emzRxDirectRecover (cfg : Config) (state : WatchedRx) : WatchedRx :=
  emzRxDirectArm (emzRxDirectRefill cfg (emzRxDirectReclaim cfg state)).1

/-- The whole operations, and a status word written by the engine between them. -/
inductive RxOperation where
  | write (index : Nat) (status : BitVec 32)
  | post
  | poll (turns : List PollTurn)
  | recover
  | take
  | release
  | handOff
  | destroy (rx : Nat)

/-- One whole operation of the receive side; an operation that has nothing to work on is none. -/
def rxStep (cfg : Config) (state : WatchedRx) : RxOperation → Option WatchedRx
  | .write index status => some { state with ring := writeStatus state.ring index status }
  | .post => some (emzRxDirectRefill cfg state).1
  | .poll turns => emzRxDirectPoll cfg turns state
  | .recover => some (emzRxDirectRecover cfg state)
  | .take => emzRxThreadTake cfg state
  | .release => state.workerBuffer.map (emzReleaseRxBufferFromWorker cfg state)
  | .handOff => emzRxThreadHandOff cfg state
  | .destroy rx => if rx ∈ state.stackFragments then some (emzRxFragDestroy cfg state rx) else none

/-- The receive side when `emz_init` has filled the pool, before its first refill. -/
def emzInitPool (cfg : Config) : WatchedRx :=
  let ring := emzRxDirectStartRing cfg
  emzPerfUpdatePoolInflight cfg
    { ring := ring
      rxFreeFifo := List.range cfg.rxBufferCount
      rxReadyFifo := []
      workerBuffer := none
      stackFragments := []
      counts := ⟨cfg.rxBufferCount, 0, 0, 0, 0⟩
      perf := .cleared
      observed := { RxObserved.nothing with available := [ring.rxBdAvailableCurrent] } }

/-- The receive part of `emz_init`: it fails when no buffer could be queued. -/
def emzInit (cfg : Config) : Option WatchedRx :=
  match emzRxDirectRefill cfg (emzInitPool cfg) with
  | (_, 0) => none
  | (filled, _ + 1) => some (emzRxDirectArm filled)

/-- A pool of eight buffers of which a limited number may be posted, for executions on
concrete values. -/
def eightBufferConfig (postCount : Nat) : Config where
  rxBufferCount := 8
  rxMaxInflight := postCount
  rxMaxStackOwnedZerocopy := 4
  ethBufferSize := 1518
  rxBytes := fun index => 0x9f000000#32 + BitVec.ofNat 32 (1536 * index)
  count_positive := Nat.succ_pos 7
  count_word := Nat.le_of_ble_eq_true rfl
  size_positive := Nat.succ_pos 1517
  size_field := Nat.le_of_ble_eq_true rfl

/-- Every mark whose figure has been updated since the wipe is the extreme of the
values the figure has taken since then. -/
structure WatermarksExtreme (state : WatchedRx) : Prop where
  bd_available_min : state.observed.available ≠ [] →
    IsLeast {value | value ∈ state.observed.available} state.ring.rxBdAvailableMin
  min_free : state.observed.minFree ≠ [] →
    IsLeast {value | value ∈ state.observed.minFree} state.perf.rxMinFree
  pool_inflight_high : state.observed.poolInflight ≠ [] →
    IsGreatest {value | value ∈ state.observed.poolInflight} state.perf.rxPoolInflightHigh
  max_dma_inflight : state.observed.dmaInflight ≠ [] →
    IsGreatest {value | value ∈ state.observed.dmaInflight} state.perf.rxMaxDmaInflight
  max_stack_owned : state.observed.stackOwned ≠ [] →
    IsGreatest {value | value ∈ state.observed.stackOwned} state.perf.rxMaxStackOwned
  poll_completed_max : state.observed.pollCompleted ≠ [] →
    IsGreatest {value | value ∈ state.observed.pollCompleted} state.perf.rxPollCompletedMax

/-- The buffers that are posted or free, all of which a refill may use. -/
def spare (state : WatchedRx) : Nat := state.ring.rxBdPosted + state.rxFreeFifo.length

/-- The frame the first turn of a poll retires, by its status word. -/
def firstRetired (state : WatchedRx) : List PollTurn → Option (PollTurn × BitVec 32)
  | [] => none
  | turn :: _ =>
      let ring := turn.writeBack state.ring
      let status := (ring.rxBdRing ring.rxBdConsumeIndex).status
      if bdFinished status ∧ (ring.rxBdBuffer ring.rxBdConsumeIndex).isSome
        then some (turn, status) else none

/-- The operation neither posts a buffer nor retires or sweeps a slot. -/
def LeavesRing (cfg : Config) (state : WatchedRx) : RxOperation → Prop
  | .write _ _ | .take | .handOff => True
  | .post => state.rxFreeFifo = [] ∨ cfg.rxBufferCount ≤ state.ring.rxBdPosted ∨
      cfg.rxMaxInflight ≤ state.ring.rxBdPosted
  | .release | .destroy _ => cfg.rxMaxInflight ≤ state.ring.rxBdPosted
  | .poll turns => firstRetired state turns = none
  | .recover => False

/-- The operation at some point has every buffer of the pool posted. -/
def FillsRing (cfg : Config) (state : WatchedRx) : RxOperation → Prop
  | .write _ _ | .take | .handOff => False
  | .post | .recover => cfg.rxBufferCount ≤ cfg.rxMaxInflight ∧ spare state = cfg.rxBufferCount
  | .release | .destroy _ =>
      cfg.rxBufferCount ≤ cfg.rxMaxInflight ∧ spare state + 1 = cfg.rxBufferCount
  | .poll turns => cfg.rxBufferCount ≤ cfg.rxMaxInflight ∧ spare state = cfg.rxBufferCount ∧
      ∀ first ∈ firstRetired state turns, first.1.goesToReady cfg first.2 = false

/-- The operation lowers the stack-owned count, as only the destroy callback does. -/
def RxOperation.destroys : RxOperation → Bool
  | .destroy _ => true
  | _ => false

/-- The first operation after the wipe that touches the ring fills it, and the first
change of the stack-owned count does not leave it lower but positive. -/
structure FirstUpdateCovers (cfg : Config) (state : WatchedRx) (operation : RxOperation) :
    Prop where
  ring : state.observed.available = [] → LeavesRing cfg state operation ∨
    FillsRing cfg state operation
  stack : state.observed.stackOwned = [] → operation.destroys = true →
    state.counts.rxStackOwnedCount ≤ 1

/-- Whether an operation leaves the ring as it is, decided on the state before it. -/
instance (cfg : Config) (state : WatchedRx) :
    (operation : RxOperation) → Decidable (LeavesRing cfg state operation)
  | .write _ _ | .take | .handOff => inferInstanceAs (Decidable True)
  | .post => inferInstanceAs (Decidable (_ ∨ _ ∨ _))
  | .release | .destroy _ => inferInstanceAs (Decidable (_ ≤ _))
  | .poll _ => inferInstanceAs (Decidable (_ = none))
  | .recover => inferInstanceAs (Decidable False)

/-- Whether an operation fills the ring to the last slot, decided on the state before it. -/
instance (cfg : Config) (state : WatchedRx) :
    (operation : RxOperation) → Decidable (FillsRing cfg state operation)
  | .write _ _ | .take | .handOff => inferInstanceAs (Decidable False)
  | .post | .recover | .release | .destroy _ => inferInstanceAs (Decidable (_ ∧ _))
  | .poll _ => inferInstanceAs (Decidable (_ ∧ _ ∧ ∀ _ ∈ firstRetired _ _, _))

/-- Whether the first update of each watermark covers what it should, decided on the state before
the operation. -/
instance (cfg : Config) (state : WatchedRx) (operation : RxOperation) :
    Decidable (FirstUpdateCovers cfg state operation) :=
  decidable_of_iff
    ((state.observed.available = [] →
        LeavesRing cfg state operation ∨ FillsRing cfg state operation) ∧
      (state.observed.stackOwned = [] → operation.destroys = true →
        state.counts.rxStackOwnedCount ≤ 1))
    ⟨fun both => ⟨both.1, both.2⟩, fun covers => ⟨covers.ring, covers.stack⟩⟩

end EmaczZephyr.Driver.Whole
