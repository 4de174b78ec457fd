import Mathlib.Logic.Function.Basic
import EmaczZephyr.Foundation.Window
import EmaczZephyr.Foundation.Word32

/-!
# The direct S2MM descriptor ring

The driver's half of the receive ring: the buffer descriptors in DMA memory, the
buffer recorded for each slot, and the indices and counters that `rx_direct_lock`
protects. Each definition here is one region executed under that lock, so it is
one step of any interleaving: the body of `emz_rx_direct_post_one`, the consume
region of `emz_rx_direct_poll`, the sweep of `emz_rx_direct_recover`, the region
of `emz_rx_direct_update_tail` and the last region of `emz_rx_direct_arm`.

Arrays are functions of their index. A region that runs past the array would be
a region whose index is not below the buffer count; the representation invariant
excludes it. Descriptor words that no driver function reads back (the address
high word, the application words and the link, which always names the next slot)
are left out.
-/

namespace EmaczZephyr.Driver

/-- Build-time configuration: the Kconfig integers, the size of a packet buffer
and the DMA address of each receive buffer. The bounds are those of the C types:
the counts are `uint32_t` constants, and a buffer's size fits the descriptor's
length field. -/
structure Config where
  /-- `EMZ_DMA_BUFFER_COUNT_RX` -/
  rxBufferCount : Nat
  /-- `EMZ_DMA_RX_MAX_INFLIGHT` -/
  rxMaxInflight : Nat
  /-- `EMZ_RX_MAX_STACK_OWNED_ZEROCOPY` -/
  rxMaxStackOwnedZerocopy : Nat
  /-- `EMZ_ETH_BUFFER_SIZE` -/
  ethBufferSize : Nat
  /-- `rx_buffer[i].bytes` -/
  rxBytes : Nat → BitVec 32
  count_positive : 0 < rxBufferCount
  count_word : rxBufferCount < 4294967296
  size_positive : 0 < ethBufferSize
  size_field : ethBufferSize < 67108864

/-- A ring of two buffers in the DMA window, for executions on concrete values. -/
def twoBufferConfig : Config where
  rxBufferCount := 2
  rxMaxInflight := 2
  rxMaxStackOwnedZerocopy := 1
  ethBufferSize := 1518
  rxBytes := fun index => 0x9f000000#32 + BitVec.ofNat 32 (1536 * index)
  count_positive := by decide
  count_word := by decide
  size_positive := by decide
  size_field := by decide

/-- The words of `struct emaczero_rx_bd` that the driver reads and writes once the ring is
linked. -/
structure RxBd where
  bufferAddress : BitVec 32
  control : BitVec 32
  status : BitVec 32

/-- The length field of a control word, 26 bits. -/
def bdCtrlLenMask : BitVec 32 := 0x03ffffff#32

/-- The bit by which a status word says that its descriptor is done. -/
def bdStatusComplete : BitVec 32 := 0x80000000#32

/-- The three error bits of a status word: decode, slave and internal error. -/
def bdStatusErrorMask : BitVec 32 := 0x70000000#32

/-- The length field of a status word, 26 bits. -/
def bdStatusLenMask : BitVec 32 := 0x03ffffff#32

/-- The test on a status word that ends a descriptor: complete or in error. -/
def bdFinished (status : BitVec 32) : Bool :=
  status &&& (bdStatusComplete ||| bdStatusErrorMask) != 0#32

/-- The part of `struct emaczero_data` under `rx_direct_lock`, with the
descriptor ring in memory and the availability figures of the statistics. -/
structure RxRing where
  rxBdRing : Nat → RxBd
  rxBdBuffer : Nat → Option Nat
  rxBdConsumeIndex : Nat
  rxBdRefillIndex : Nat
  rxBdTailIndex : Nat
  rxBdPosted : Nat
  rxDmaInflight : Nat
  rxDirectRingStarted : Bool
  rxBdAvailableCurrent : Nat
  rxBdAvailableMin : Nat

/-- `emz_perf_set_bd_available`: the slots that are not posted, in 32-bit arithmetic, and the
smallest such number so far. -/
def emzPerfSetBdAvailable (cfg : Config) (ring : RxRing) : RxRing :=
  let available := Word32.sub cfg.rxBufferCount ring.rxBdPosted
  { ring with
    rxBdAvailableCurrent := available
    rxBdAvailableMin := if available < ring.rxBdAvailableMin then available
      else ring.rxBdAvailableMin }

/-- The ring that `emz_rx_direct_start` clears before its first refill: no buffer, no descriptor,
and all indices at zero. -/
def emzRxDirectStartRing (cfg : Config) : RxRing :=
  emzPerfSetBdAvailable cfg
    { rxBdRing := fun _ => ⟨0#32, 0#32, 0#32⟩
      rxBdBuffer := fun _ => none
      rxBdConsumeIndex := 0
      rxBdRefillIndex := 0
      rxBdTailIndex := 0
      rxBdPosted := 0
      rxDmaInflight := 0
      rxDirectRingStarted := false
      rxBdAvailableCurrent := 0
      rxBdAvailableMin := 4294967295 }

/-- `emz_rx_direct_program_bd`: the descriptor of a slot gets the buffer's address, the buffer
size and a clear status, and the slot its owner. -/
def emzRxDirectProgramBd (cfg : Config) (ring : RxRing) (index rx : Nat) : RxRing :=
  { ring with
    rxBdRing := Function.update ring.rxBdRing index
      { bufferAddress := cfg.rxBytes rx
        control := BitVec.ofNat 32 cfg.ethBufferSize &&& bdCtrlLenMask
        status := 0#32 }
    rxBdBuffer := Function.update ring.rxBdBuffer index (some rx) }

/-- The locked region of `emz_rx_direct_post_one`, with its return value: refused on an occupied
slot or at the limit, and otherwise counted, programmed and advanced. -/
def emzRxDirectPostOne (cfg : Config) (ring : RxRing) (rx : Nat) : RxRing × Bool :=
  let index := ring.rxBdRefillIndex
  if (ring.rxBdBuffer index).isSome then (ring, false)
  else if cfg.rxMaxInflight ≤ ring.rxDmaInflight then (ring, false)
  else
    let counted := { ring with rxDmaInflight := Word32.inc ring.rxDmaInflight }
    let programmed := emzRxDirectProgramBd cfg counted index rx
    let posted := emzPerfSetBdAvailable cfg
      { programmed with rxBdPosted := Word32.inc programmed.rxBdPosted }
    ({ posted with
        rxBdRefillIndex := (index + 1) % cfg.rxBufferCount
        rxBdTailIndex := index }, true)

/-- How the consume region of `emz_rx_direct_poll` leaves the first slot of the window. -/
inductive Consumed where
  /-- Neither Complete nor an error bit is set. -/
  | unfinished
  /-- A finished descriptor on a slot without a buffer (`rx == NULL`). -/
  | unowned
  /-- The slot is retired; its buffer and the status word that was read. -/
  | retired (rx : Nat) (status : BitVec 32)
deriving DecidableEq

/-- The consume region of `emz_rx_direct_poll`: a finished descriptor with an owner is cleared,
its slot freed, the counters lowered and the index advanced. -/
def emzRxDirectConsume (cfg : Config) (ring : RxRing) : RxRing × Consumed :=
  let index := ring.rxBdConsumeIndex
  let bd := ring.rxBdRing index
  if bdFinished bd.status then
    match ring.rxBdBuffer index with
    | none => (ring, .unowned)
    | some rx =>
        let cleared := emzPerfSetBdAvailable cfg
          { ring with
            rxBdRing := Function.update ring.rxBdRing index { bd with status := 0#32 }
            rxBdBuffer := Function.update ring.rxBdBuffer index none
            rxBdPosted := Word32.dec ring.rxBdPosted }
        ({ cleared with
            rxBdConsumeIndex := (index + 1) % cfg.rxBufferCount
            rxDmaInflight := if 0 < cleared.rxDmaInflight then Word32.dec cleared.rxDmaInflight
              else cleared.rxDmaInflight }, .retired rx bd.status)
  else (ring, .unfinished)

/-- One iteration of the sweep in `emz_rx_direct_recover`: the orphans found so
far grow by the slot's buffer, and the slot is cleared. -/
def emzRxDirectSweepSlot (swept : RxRing × List Nat) (index : Nat) : RxRing × List Nat :=
  let ring := swept.1
  let bd := ring.rxBdRing index
  let cleared := { ring with
    rxBdRing := Function.update ring.rxBdRing index { bd with status := 0#32, control := 0#32 }
    rxBdBuffer := Function.update ring.rxBdBuffer index none }
  match ring.rxBdBuffer index with
  | some rx => (cleared, swept.2 ++ [rx])
  | none => (cleared, swept.2)

/-- The sweep of a recovery after its first `count` iterations, with the orphans collected so
far. -/
def emzRxDirectSweepSlots (ring : RxRing) (count : Nat) : RxRing × List Nat :=
  (List.range count).foldl emzRxDirectSweepSlot ({ ring with rxDirectRingStarted := false }, [])

/-- The sweep region of `emz_rx_direct_recover`, with the orphaned buffers in
slot order. -/
def emzRxDirectSweep (cfg : Config) (ring : RxRing) : RxRing × List Nat :=
  let swept := emzRxDirectSweepSlots ring cfg.rxBufferCount
  (emzPerfSetBdAvailable cfg
    { swept.1 with
      rxBdConsumeIndex := 0
      rxBdRefillIndex := 0
      rxBdTailIndex := 0
      rxBdPosted := 0
      rxDmaInflight := 0 }, swept.2)

/-- The locked region of `emz_rx_direct_update_tail`: the slot written to
TAILDESC, if any. -/
def emzRxDirectUpdateTail (ring : RxRing) : Option Nat :=
  if ring.rxDirectRingStarted then some ring.rxBdTailIndex else none

/-- The locked region at the end of `emz_rx_direct_arm`: the ring is started, and
the slot written to TAILDESC, if any. -/
def emzRxDirectArmTail (ring : RxRing) : RxRing × Option Nat :=
  ({ ring with rxDirectRingStarted := true },
    if 0 < ring.rxBdPosted then some ring.rxBdTailIndex else none)

end EmaczZephyr.Driver
