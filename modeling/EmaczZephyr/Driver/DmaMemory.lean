import EmaczZephyr.Driver.TxRing
import EmaczZephyr.Foundation.BumpAllocator
import EmaczZephyr.Foundation.Runs

/-!
# The DMA memory windows

The allocators of the driver over the DMA window and the scatter/gather window, the
allocations that `emz_init` makes, and the exported allocator of descriptors. The
cursors are static variables of the file: every instance that is initialised puts them
back to the start of the windows.

Only what `emz_init` does to this memory is here. Of its other outcomes, the ones that
decide how far it gets are input.
-/

namespace EmaczZephyr.Driver

open BumpAllocator Runs

/-- `EMACZERO_PERF_STATS_DMA_RESERVED`, the two pages at the end of the window for the mailbox
and the statistics. -/
def perfStatsDmaReserved : Nat := 0x2000

/-- The windows and the buffers. The DMA window is larger than its reserved tail and does
not wrap; the scatter/gather window is absent or does not meet it. -/
structure DmaMemoryConfig where
  /-- `CONFIG_ETH_EMACZERO_DMA_MEMORY_BASE` -/
  dmaMemoryBase : Nat
  /-- `CONFIG_ETH_EMACZERO_DMA_MEMORY_SIZE` -/
  dmaMemorySize : Nat
  /-- `CONFIG_ETH_EMACZERO_SG_MEMORY_BASE` -/
  sgMemoryBase : Nat
  /-- `CONFIG_ETH_EMACZERO_SG_MEMORY_SIZE` -/
  sgMemorySize : Nat
  /-- `EMZ_DMA_BUFFER_COUNT_RX` -/
  rxBufferCount : Nat
  /-- `EMZ_ETH_BUFFER_SIZE` -/
  ethBufferSize : Nat
  dma_fits : dmaMemoryBase + dmaMemorySize < wordSize
  tail_fits : perfStatsDmaReserved < dmaMemorySize
  sg_fits : sgMemoryBase + sgMemorySize < wordSize
  apart : sgMemorySize = 0 ∨ sgMemoryBase + sgMemorySize ≤ dmaMemoryBase ∨
    dmaMemoryBase + dmaMemorySize ≤ sgMemoryBase
  count_positive : 0 < rxBufferCount
  count_range : rxBufferCount ≤ 256
  size_positive : 0 < ethBufferSize
  size_field : ethBufferSize < 67108864

namespace DmaMemoryConfig

variable (cfg : DmaMemoryConfig)

/-- `EMACZERO_PERF_STATS_ADDR`, the last page of the DMA window. -/
def perfStatsAddr : Nat := cfg.dmaMemoryBase + cfg.dmaMemorySize - 0x1000

/-- `EMACZERO_JTAG_MAILBOX_ADDR`, the page before the last, where the reserved tail of the window
begins. -/
def jtagMailboxAddr : Nat := cfg.dmaMemoryBase + cfg.dmaMemorySize - 0x2000

end DmaMemoryConfig

/-- A region that was returned, from the scatter/gather window or not, and what was
asked for. -/
structure DmaRegion where
  fromSg : Bool
  region : Region
  align : Nat
deriving DecidableEq

/-- The static cursors of the two windows, and in the history every region that was returned and
not taken back by a reset. -/
structure DmaMemory where
  dma : Arena
  sg : Arena
  regions : List DmaRegion

/-- `emz_dma_mem_reset`: the cursor of the DMA window goes back to its base, and the limit leaves
out the reserved tail. -/
def emzDmaMemReset (cfg : DmaMemoryConfig) (memory : DmaMemory) : DmaMemory :=
  { memory with
    dma := ⟨cfg.dmaMemoryBase, cfg.dmaMemoryBase + cfg.dmaMemorySize - perfStatsDmaReserved⟩ }

/-- `emz_sg_mem_reset`: the same for the descriptor window, if it has a size; otherwise base and
limit become zero. -/
def emzSgMemReset (cfg : DmaMemoryConfig) (memory : DmaMemory) : DmaMemory :=
  { memory with
    sg := if cfg.sgMemorySize ≠ 0 then ⟨cfg.sgMemoryBase, cfg.sgMemoryBase + cfg.sgMemorySize⟩
      else ⟨0, 0⟩ }

/-- A region that was granted is recorded in the history with its window and its alignment; a
refusal leaves no trace. -/
def DmaMemory.record (memory : DmaMemory) (fromSg : Bool) (align size : Nat) :
    Option Nat → DmaMemory
  | some start => { memory with regions := memory.regions ++ [⟨fromSg, ⟨start, size⟩, align⟩] }
  | none => memory

/-- `emz_dma_mem_alloc`: the bump allocation from the DMA window, in the 32-bit arithmetic of the
source. -/
def emzDmaMemAlloc (memory : DmaMemory) (align size : Nat) : Option Nat × DmaMemory :=
  let (ptr, dma) := allocate memory.dma align size
  (ptr, { memory with dma := dma }.record false align size ptr)

/-- `emz_sg_mem_alloc`: the bump allocation from the descriptor window, or from the DMA window
when there is no descriptor window. -/
def emzSgMemAlloc (cfg : DmaMemoryConfig) (memory : DmaMemory) (align size : Nat) :
    Option Nat × DmaMemory :=
  if cfg.sgMemorySize ≠ 0 then
    let (ptr, sg) := allocate memory.sg align size
    (ptr, { memory with sg := sg }.record true align size ptr)
  else emzDmaMemAlloc memory align size

/-- A loop of `emz_init` that allocates packet buffers: whether all were granted. -/
def allocBuffers (cfg : DmaMemoryConfig) : Nat → DmaMemory → Bool × DmaMemory
  | 0, memory => (true, memory)
  | count + 1, memory =>
      match emzDmaMemAlloc memory 64 cfg.ethBufferSize with
      | (none, memory) => (false, memory)
      | (some _, memory) => allocBuffers cfg count memory

/-- `sizeof(struct emaczero_rx_bd)`, the same for both rings. -/
def rxBdSize : Nat := 64

/-- What decides how far the initialisation of an instance gets: its VERSION register,
whether it has a DMA device and a DMA base address, and whether the first refill queues a
buffer. -/
structure DmaInstance where
  versionOk : Bool
  hasDma : Bool
  rxDirectEnabled : Bool
  refillQueues : Bool
deriving DecidableEq

/-- The allocations of `emz_rx_direct_start` and `emz_tx_direct_start`: the receive ring first,
and the transmit ring only behind a receive ring that was granted. -/
def startRings (cfg : DmaMemoryConfig) (device : DmaInstance) (memory : DmaMemory) : DmaMemory :=
  match emzSgMemAlloc cfg memory 64 (rxBdSize * cfg.rxBufferCount) with
  | (none, memory) => memory
  | (some _, memory) =>
      if device.refillQueues then (emzSgMemAlloc cfg memory 64 (rxBdSize * txBufferCount)).2
      else memory

/-- `emz_init` as far as memory goes: the resets, then receive buffers, transmit buffers and
rings, each only when what comes before has not failed. -/
def emzInit (cfg : DmaMemoryConfig) (device : DmaInstance) (memory : DmaMemory) : DmaMemory :=
  if device.versionOk = false then memory
  else
    let reset := emzSgMemReset cfg (emzDmaMemReset cfg memory)
    match allocBuffers cfg cfg.rxBufferCount reset with
    | (false, memory) => memory
    | (true, memory) =>
        match allocBuffers cfg txBufferCount memory with
        | (false, memory) => memory
        | (true, memory) =>
            if device.hasDma && device.rxDirectEnabled then startRings cfg device memory
            else memory

/-- The arguments of `dma_xilinx_axi_dma_sg_descriptor_alloc`: an alignment that is a
power of two, and a size that is not zero. -/
structure DescriptorRequest where
  alignLog : Fin 32
  size : Nat
  positive : 0 < size
  word : size < wordSize

/-- The alignment of a request, which is a power of two as the callers of the DMA driver give it. -/
def DescriptorRequest.align (request : DescriptorRequest) : Nat := 2 ^ request.alignLog.val

/-- What requests memory: the initialisation of an instance, or a descriptor allocation of the
DMA driver. -/
inductive DmaLabel where
  /-- An instance is initialised. -/
  | init (device : DmaInstance)
  /-- `dma_xilinx_axi_dma_sg_descriptor_alloc` -/
  | descriptorAlloc (request : DescriptorRequest)

/-- One step of the memory: all allocations of an initialisation, or one request for descriptors. -/
def dmaMemoryStep (cfg : DmaMemoryConfig) (memory : DmaMemory) : DmaLabel → Option DmaMemory
  | .init device => some (emzInit cfg device memory)
  | .descriptorAlloc request => some (emzSgMemAlloc cfg memory request.align request.size).2

/-- The static variables before any instance is initialised: both windows empty, and nothing
handed out. -/
def dmaMemoryInitial : DmaMemory := ⟨⟨0, 0⟩, ⟨0, 0⟩, []⟩

/-- A region lies inside its window, below the reserved tail. -/
def DmaRegion.InWindow (cfg : DmaMemoryConfig) (granted : DmaRegion) : Prop :=
  if granted.fromSg then
    granted.region.Within cfg.sgMemoryBase (cfg.sgMemoryBase + cfg.sgMemorySize)
  else granted.region.Within cfg.dmaMemoryBase cfg.jtagMailboxAddr

/-- Whether a region lies in its window is decided by comparing addresses, so that tests can run. -/
instance decidableInWindow (cfg : DmaMemoryConfig) (granted : DmaRegion) :
    Decidable (granted.InWindow cfg) := by
  unfold DmaRegion.InWindow Region.Within
  infer_instance

/-- What is to hold of the memory at any time: regions disjoint, aligned, inside of their windows
and clear of the reserved tail. -/
structure DmaMemoryCorrect (cfg : DmaMemoryConfig) (memory : DmaMemory) : Prop where
  disjoint : memory.regions.Pairwise fun left right => left.region.Disjoint right.region
  aligned : ∀ granted ∈ memory.regions, granted.align ∣ granted.region.start
  inside : ∀ granted ∈ memory.regions, granted.InWindow cfg
  /-- No region meets the mailbox or the statistics behind it. -/
  tail : ∀ granted ∈ memory.regions,
    granted.region.Disjoint ⟨cfg.jtagMailboxAddr, 0x1000⟩ ∧
      granted.region.Disjoint ⟨cfg.perfStatsAddr, 0x1000⟩
  /-- A refused call changes nothing. -/
  refused : ∀ align size,
    ((emzDmaMemAlloc memory align size).1 = none → (emzDmaMemAlloc memory align size).2 = memory) ∧
      ((emzSgMemAlloc cfg memory align size).1 = none →
        (emzSgMemAlloc cfg memory align size).2 = memory)

/-- The arena that serves descriptors: the descriptor window if there is one, and the DMA window
otherwise. -/
def DmaMemory.descriptors (cfg : DmaMemoryConfig) (memory : DmaMemory) : Arena :=
  if cfg.sgMemorySize ≠ 0 then memory.sg else memory.dma

/-- An instance is initialised only before any region was returned, and no descriptor
request is one whose wrapping the allocator overlooks. -/
def SparesRegions (cfg : DmaMemoryConfig) (memory : DmaMemory) : DmaLabel → Prop
  | .init device => device.versionOk = true → memory.regions = []
  | .descriptorAlloc request =>
      Accountable (memory.descriptors cfg) request.align request.size

/-- A region lies in the part of its window that its arena has handed out. -/
def DmaRegion.HandedOut (cfg : DmaMemoryConfig) (dma sg : Arena) (granted : DmaRegion) : Prop :=
  if granted.fromSg then
    granted.region.Within cfg.sgMemoryBase sg.cursor ∧ cfg.sgMemorySize ≠ 0
  else granted.region.Within cfg.dmaMemoryBase dma.cursor

/-- The arenas stay in their windows, and the regions are behind their cursors. -/
structure DmaInvariant (cfg : DmaMemoryConfig) (memory : DmaMemory) : Prop where
  dma : memory.dma.Inside cfg.dmaMemoryBase cfg.jtagMailboxAddr
  sg : memory.sg.Inside cfg.sgMemoryBase (cfg.sgMemoryBase + cfg.sgMemorySize)
  disjoint : memory.regions.Pairwise fun left right => left.region.Disjoint right.region
  aligned : ∀ granted ∈ memory.regions, granted.align ∣ granted.region.start
  handed_out : ∀ granted ∈ memory.regions, granted.HandedOut cfg memory.dma memory.sg

section Calls

variable {cfg : DmaMemoryConfig} {memory : DmaMemory}

/-- Regions of different windows are disjoint, because the configured windows are. -/
theorem DmaMemoryConfig.windows_disjoint (cfg : DmaMemoryConfig) {left right : Region}
    (present : cfg.sgMemorySize ≠ 0)
    (first : left.Within cfg.sgMemoryBase (cfg.sgMemoryBase + cfg.sgMemorySize))
    (second : right.Within cfg.dmaMemoryBase cfg.jtagMailboxAddr) : left.Disjoint right := by
  have below : cfg.jtagMailboxAddr ≤ cfg.dmaMemoryBase + cfg.dmaMemorySize := Nat.sub_le _ _
  rcases cfg.apart with absent | before | behind
  · exact absurd absent present
  · exact first.disjoint second before
  · exact (second.disjoint first (below.trans behind)).symm

/-- What is handed out stays below the cursors when these move forward, so a later grant never
meets it. -/
theorem DmaRegion.HandedOut.forward {dma sg dma' sg' : Arena} {granted : DmaRegion}
    (handed : granted.HandedOut cfg dma sg) (dma_forward : dma.cursor ≤ dma'.cursor)
    (sg_forward : sg.cursor ≤ sg'.cursor) : granted.HandedOut cfg dma' sg' := by
  unfold DmaRegion.HandedOut at handed ⊢
  by_cases from_sg : granted.fromSg = true
  · rw [if_pos from_sg] at handed ⊢
    exact ⟨handed.1.widen le_rfl sg_forward, handed.2⟩
  · rw [if_neg from_sg] at handed ⊢
    exact handed.widen le_rfl dma_forward

/-- A region that an arena hands out beyond its cursor keeps the invariant: it is disjoint from
all that lies below the cursor. -/
theorem DmaInvariant.grant (invariant : DmaInvariant cfg memory) {dma sg : Arena}
    {granted : DmaRegion}
    (dma_inside : dma.Inside cfg.dmaMemoryBase cfg.jtagMailboxAddr)
    (sg_inside : sg.Inside cfg.sgMemoryBase (cfg.sgMemoryBase + cfg.sgMemorySize))
    (dma_forward : memory.dma.cursor ≤ dma.cursor) (sg_forward : memory.sg.cursor ≤ sg.cursor)
    (divides : granted.align ∣ granted.region.start) (handed : granted.HandedOut cfg dma sg)
    (apart : ∀ old ∈ memory.regions, old.region.Disjoint granted.region) :
    DmaInvariant cfg ⟨dma, sg, memory.regions ++ [granted]⟩ := by
  refine ⟨dma_inside, sg_inside, ?_, ?_, ?_⟩
  · apply List.pairwise_append.mpr
    refine ⟨invariant.disjoint, List.pairwise_singleton _ _, ?_⟩
    intro old member new here
    rw [List.mem_singleton.mp here]
    exact apart old member
  · intro other member
    rcases List.mem_append.mp member with old | here
    · exact invariant.aligned other old
    · rw [List.mem_singleton.mp here]
      exact divides
  · intro other member
    rcases List.mem_append.mp member with old | here
    · exact (invariant.handed_out other old).forward dma_forward sg_forward
    · rw [List.mem_singleton.mp here]
      exact handed

/-- `emz_dma_mem_alloc` keeps the invariant when the call is accountable, that is when neither
rounding up nor the end of the region wraps. -/
theorem dma_alloc_invariant (invariant : DmaInvariant cfg memory) {align size : Nat}
    (positive : 0 < align) (aligned : align ≤ wordSize) (word : size < wordSize)
    (accountable : Accountable memory.dma align size) :
    DmaInvariant cfg (emzDmaMemAlloc memory align size).2 := by
  have high : cfg.jtagMailboxAddr < wordSize := (Nat.sub_le _ _).trans_lt cfg.dma_fits
  unfold emzDmaMemAlloc
  cases granted : (allocate memory.dma align size).1 with
  | none =>
    have same := allocate_refused granted
    simp only [DmaMemory.record, granted, same]
    exact invariant
  | some start =>
    obtain ⟨divides, begins, within, inside⟩ :=
      invariant.dma.granted high positive aligned word accountable granted
    have forward := within.1.trans ((Nat.le_add_right _ _).trans within.2)
    simp only [granted, DmaMemory.record]
    apply invariant.grant inside invariant.sg forward le_rfl divides
    · exact within.widen begins le_rfl
    · intro old member
      have handed := invariant.handed_out old member
      unfold DmaRegion.HandedOut at handed
      split at handed
      · exact cfg.windows_disjoint handed.2 (handed.1.widen le_rfl invariant.sg.below)
          (within.widen begins inside.below)
      · exact handed.disjoint within le_rfl

/-- `emz_sg_mem_alloc` keeps the invariant under the same condition on the arena that serves the
request, in both of its branches. -/
theorem sg_alloc_invariant (invariant : DmaInvariant cfg memory) {align size : Nat}
    (positive : 0 < align) (aligned : align ≤ wordSize) (word : size < wordSize)
    (accountable : Accountable (memory.descriptors cfg) align size) :
    DmaInvariant cfg (emzSgMemAlloc cfg memory align size).2 := by
  unfold emzSgMemAlloc
  unfold DmaMemory.descriptors at accountable
  by_cases present : cfg.sgMemorySize ≠ 0
  · rw [if_pos present] at accountable ⊢
    cases granted : (allocate memory.sg align size).1 with
    | none =>
      have same := allocate_refused granted
      simp only [DmaMemory.record, granted, same]
      exact invariant
    | some start =>
      obtain ⟨divides, begins, within, inside⟩ :=
        invariant.sg.granted cfg.sg_fits positive aligned word accountable granted
      have forward := within.1.trans ((Nat.le_add_right _ _).trans within.2)
      simp only [granted, DmaMemory.record]
      apply invariant.grant invariant.dma inside le_rfl forward divides
      · exact ⟨within.widen begins le_rfl, present⟩
      · intro old member
        have handed := invariant.handed_out old member
        unfold DmaRegion.HandedOut at handed
        split at handed
        · exact handed.1.disjoint within le_rfl
        · exact (cfg.windows_disjoint present (within.widen begins inside.below)
            (handed.widen le_rfl invariant.dma.below)).symm
  · rw [if_neg present] at accountable ⊢
    exact dma_alloc_invariant invariant positive aligned word accountable

/-- The loop that allocates packet buffers keeps the invariant; its sizes are small enough that
every call is accountable. -/
theorem alloc_buffers_invariant (invariant : DmaInvariant cfg memory) (count : Nat) :
    DmaInvariant cfg (allocBuffers cfg count memory).2 := by
  have field := cfg.size_field
  induction count generalizing memory with
  | zero => exact invariant
  | succ count inductionHypothesis =>
    have word : cfg.ethBufferSize < wordSize := field.trans (by decide)
    have small : cfg.ethBufferSize + 64 ≤ wordSize := by
      unfold wordSize
      omega
    have kept : DmaInvariant cfg (emzDmaMemAlloc memory 64 cfg.ethBufferSize).2 :=
      dma_alloc_invariant invariant (by decide) (by decide) word (accountable_small small)
    unfold allocBuffers
    split
    · rename_i refused
      rw [refused] at kept
      exact kept
    · rename_i granted
      rw [granted] at kept
      exact inductionHypothesis kept

/-- The allocations for the rings keep the invariant; the sizes of the rings are small enough
that both calls are accountable. -/
theorem start_rings_invariant (invariant : DmaInvariant cfg memory) (device : DmaInstance) :
    DmaInvariant cfg (startRings cfg device memory) := by
  have range := cfg.count_range
  have word : rxBdSize * cfg.rxBufferCount + 64 ≤ wordSize := by
    unfold rxBdSize wordSize
    omega
  have kept : DmaInvariant cfg (emzSgMemAlloc cfg memory 64 (rxBdSize * cfg.rxBufferCount)).2 :=
    sg_alloc_invariant invariant (by decide) (by decide) (by omega) (accountable_small word)
  unfold startRings
  split
  · rename_i refused
    rw [refused] at kept
    exact kept
  · rename_i granted
    rw [granted] at kept
    split
    · exact sg_alloc_invariant kept (by decide) (by decide) (by decide)
        (accountable_small (by decide))
    · exact kept

/-- With the reset cursors the invariant holds as long as no region is out, since nothing can
then be handed out again. -/
theorem reset_invariant (none_out : memory.regions = []) :
    DmaInvariant cfg (emzSgMemReset cfg (emzDmaMemReset cfg memory)) := by
  have tail := cfg.tail_fits
  have inside : cfg.dmaMemoryBase ≤ cfg.jtagMailboxAddr := by
    unfold DmaMemoryConfig.jtagMailboxAddr
    unfold perfStatsDmaReserved at tail
    omega
  constructor
  · exact ⟨inside, le_rfl, fun _ => le_rfl⟩
  · unfold emzSgMemReset
    by_cases present : cfg.sgMemorySize ≠ 0
    · rw [if_pos present]
      exact ⟨Nat.le_add_right _ _, le_rfl, fun _ => le_rfl⟩
    · rw [if_neg present]
      exact ⟨Nat.zero_le _, Nat.zero_le _, fun used => absurd rfl used⟩
  · simp [emzSgMemReset, emzDmaMemReset, none_out]
  · simp [emzSgMemReset, emzDmaMemReset, none_out]
  · simp [emzSgMemReset, emzDmaMemReset, none_out]

/-- The initialisation of an instance keeps the invariant while no region is out: the resets
establish it, and every allocation keeps it. -/
theorem init_invariant (invariant : DmaInvariant cfg memory) (device : DmaInstance)
    (spares : device.versionOk = true → memory.regions = []) :
    DmaInvariant cfg (emzInit cfg device memory) := by
  unfold emzInit
  by_cases bad : device.versionOk = false
  · rw [if_pos bad]
    exact invariant
  · rw [if_neg bad]
    have reset : DmaInvariant cfg (emzSgMemReset cfg (emzDmaMemReset cfg memory)) :=
      reset_invariant (spares (Bool.eq_true_of_not_eq_false bad))
    have rx := alloc_buffers_invariant reset cfg.rxBufferCount
    simp only
    split
    · rename_i refused
      rw [refused] at rx
      exact rx
    · rename_i granted
      rw [granted] at rx
      have tx := alloc_buffers_invariant rx txBufferCount
      split
      · rename_i refused
        rw [refused] at tx
        exact tx
      · rename_i granted
        rw [granted] at tx
        split
        · exact start_rings_invariant tx device
        · exact tx

/-- One step keeps the invariant when it spares the regions: no reset under regions that are out,
and an accountable request. -/
theorem dma_memory_step_invariant (invariant : DmaInvariant cfg memory) {label : DmaLabel}
    {next : DmaMemory} (spares : SparesRegions cfg memory label)
    (taken : dmaMemoryStep cfg memory label = some next) : DmaInvariant cfg next := by
  cases label with
  | init device =>
    obtain rfl := Option.some.inj taken
    exact init_invariant invariant device spares
  | descriptorAlloc request =>
    obtain rfl := Option.some.inj taken
    have small : request.align ≤ wordSize :=
      Nat.pow_le_pow_right (n := 2) (by decide) request.alignLog.isLt.le
    exact sg_alloc_invariant invariant (Nat.two_pow_pos _) small request.word spares

/-- Before any instance is initialised the invariant holds, with empty windows and nothing handed
out. -/
theorem dma_memory_initial_invariant : DmaInvariant cfg dmaMemoryInitial where
  dma := ⟨Nat.zero_le _, Nat.zero_le _, fun used => absurd rfl used⟩
  sg := ⟨Nat.zero_le _, Nat.zero_le _, fun used => absurd rfl used⟩
  disjoint := List.Pairwise.nil
  aligned := by simp [dmaMemoryInitial]
  handed_out := by simp [dmaMemoryInitial]

/-- What is handed out is in its window: below the cursor that handed it out, and the cursor is
inside. -/
theorem DmaInvariant.in_window (invariant : DmaInvariant cfg memory) {granted : DmaRegion}
    (member : granted ∈ memory.regions) : granted.InWindow cfg := by
  have handed := invariant.handed_out granted member
  unfold DmaRegion.HandedOut at handed
  unfold DmaRegion.InWindow
  by_cases from_sg : granted.fromSg = true
  · rw [if_pos from_sg] at handed ⊢
    exact handed.1.widen le_rfl invariant.sg.below
  · rw [if_neg from_sg] at handed ⊢
    exact handed.widen le_rfl invariant.dma.below

/-- Nothing that is handed out meets the reserved tail of the DMA window, because the limit of
the arena lies in front of it and the windows are apart. -/
theorem DmaInvariant.spares_tail (invariant : DmaInvariant cfg memory) {granted : DmaRegion}
    (member : granted ∈ memory.regions) {tail : Region}
    (reserved : tail.Within cfg.jtagMailboxAddr (cfg.dmaMemoryBase + cfg.dmaMemorySize)) :
    granted.region.Disjoint tail := by
  have handed := invariant.handed_out granted member
  unfold DmaRegion.HandedOut at handed
  by_cases from_sg : granted.fromSg = true
  · rw [if_pos from_sg] at handed
    have within := handed.1.widen le_rfl invariant.sg.below
    rcases cfg.apart with absent | before | behind
    · exact absurd absent handed.2
    · have tail_fits := cfg.tail_fits
      have base : cfg.dmaMemoryBase ≤ cfg.jtagMailboxAddr := by
        unfold DmaMemoryConfig.jtagMailboxAddr
        unfold perfStatsDmaReserved at tail_fits
        omega
      exact within.disjoint reserved (before.trans base)
    · exact (reserved.disjoint within behind).symm
  · rw [if_neg from_sg] at handed
    exact handed.disjoint reserved invariant.dma.below

/-- A refused call changes nothing, whatever the memory and the request: both functions return
before they store the cursor. -/
theorem alloc_refused (align size : Nat) :
    ((emzDmaMemAlloc memory align size).1 = none →
        (emzDmaMemAlloc memory align size).2 = memory) ∧
      ((emzSgMemAlloc cfg memory align size).1 = none →
        (emzSgMemAlloc cfg memory align size).2 = memory) := by
  have dma : (emzDmaMemAlloc memory align size).1 = none →
      (emzDmaMemAlloc memory align size).2 = memory := by
    intro refused
    have refused : (allocate memory.dma align size).1 = none := refused
    simp only [emzDmaMemAlloc, refused, DmaMemory.record, allocate_refused refused]
  refine ⟨dma, ?_⟩
  unfold emzSgMemAlloc
  by_cases present : cfg.sgMemorySize ≠ 0
  · rw [if_pos present]
    intro refused
    have refused : (allocate memory.sg align size).1 = none := refused
    simp only [refused, DmaMemory.record, allocate_refused refused]
  · rw [if_neg present]
    exact dma

/-- What the invariant says of the regions is what the property asks: disjoint, aligned, in their
windows and clear of the tail. -/
theorem DmaInvariant.correct (invariant : DmaInvariant cfg memory) :
    DmaMemoryCorrect cfg memory where
  disjoint := invariant.disjoint
  aligned := invariant.aligned
  inside _ member := invariant.in_window member
  tail granted member := by
    have tail_fits := cfg.tail_fits
    unfold perfStatsDmaReserved at tail_fits
    constructor
    · apply invariant.spares_tail member
      unfold Region.Within DmaMemoryConfig.jtagMailboxAddr
      simp only
      omega
    · apply invariant.spares_tail member
      unfold Region.Within DmaMemoryConfig.perfStatsAddr DmaMemoryConfig.jtagMailboxAddr
      simp only
      omega
  refused := alloc_refused

end Calls

/-- In every run in which an instance is initialised only while no region is out, and no
descriptor request is one whose wrapping the allocator overlooks, the regions returned are
disjoint, aligned, inside their windows and off the reserved tail, and a refused call changes
nothing.

Proof: the invariant says that the regions handed out are aligned, disjoint and below the cursors
of their windows. A call that the condition admits keeps it, and the run carries it. -/
theorem dma_regions_correct (cfg : DmaMemoryConfig) {reached : DmaMemory}
    (run : Run (dmaMemoryStep cfg) (SparesRegions cfg) dmaMemoryInitial reached) :
    DmaMemoryCorrect cfg reached :=
  (run.invariant (DmaInvariant cfg) dma_memory_initial_invariant
    fun _ _ _ invariant spares taken =>
      dma_memory_step_invariant invariant spares taken).correct

/-- A window of 64 KiB, a separate one for descriptors, and four receive buffers. -/
def sampleDmaConfig : DmaMemoryConfig where
  dmaMemoryBase := 0x100000
  dmaMemorySize := 0x20000
  sgMemoryBase := 0x200000
  sgMemorySize := 0x1000
  rxBufferCount := 4
  ethBufferSize := 1514
  dma_fits := by decide
  tail_fits := by decide
  sg_fits := by decide
  apart := by decide
  count_positive := by decide
  count_range := by decide
  size_positive := by decide
  size_field := by decide

/-- An instance that gets its buffers and both of its rings, for the runs of the witnesses. -/
def sampleInstance : DmaInstance := ⟨true, true, true, true⟩

/-- Whether a step spares the regions is decided on the state before it, so that a run can be
checked by evaluation. -/
instance decidableSparesRegions (cfg : DmaMemoryConfig) (memory : DmaMemory)
    (label : DmaLabel) : Decidable (SparesRegions cfg memory label) := by
  cases label <;> unfold SparesRegions <;> infer_instance

/-- A run for the witness: one instance is initialised, and then the DMA driver requests a
descriptor of 64 bytes. -/
def oneInstance : List DmaLabel :=
  [.init sampleInstance, .descriptorAlloc ⟨6, 64, by decide, by decide⟩]

/-- The theorem at that run, where the second window's cursor has passed the two rings and the
descriptor. -/
theorem dma_regions_correct_instance :
    ∃ reached, Run (dmaMemoryStep sampleDmaConfig) (SparesRegions sampleDmaConfig)
        dmaMemoryInitial reached ∧
      (decide (reached.sg.cursor = 0x200000 + 64 * 4 + 64 * 32 + 64) = true ∧
        DmaMemoryCorrect sampleDmaConfig reached) := by
  have sound : ∀ memory label, decide (SparesRegions sampleDmaConfig memory label) = true →
      SparesRegions sampleDmaConfig memory label := fun _ _ admits => of_decide_eq_true admits
  obtain ⟨reached, run, passed⟩ := run_of_execution (dmaMemoryStep sampleDmaConfig)
    (fun memory label => decide (SparesRegions sampleDmaConfig memory label)) dmaMemoryInitial
    oneInstance (fun memory => decide (memory.sg.cursor = 0x200000 + 64 * 4 + 64 * 32 + 64))
    sound (by decide +kernel)
  exact ⟨reached, run, passed, dma_regions_correct sampleDmaConfig run⟩

/-- A second instance gets the regions of the first, and a request of nearly `2 ^ 32` bytes
gets a region that leaves its window. -/
theorem dma_regions_shared :
    (∃ reached, Run (dmaMemoryStep sampleDmaConfig) Unrestricted dmaMemoryInitial reached ∧
        ¬ reached.regions.Pairwise fun left right => left.region.Disjoint right.region) ∧
      ∃ reached, Run (dmaMemoryStep sampleDmaConfig) Unrestricted dmaMemoryInitial reached ∧
        ¬ ∀ granted ∈ reached.regions, granted.InWindow sampleDmaConfig := by
  have sound : ∀ (memory : DmaMemory) (label : DmaLabel),
      (fun _ _ => true : DmaMemory → DmaLabel → Bool) memory label = true →
        Unrestricted memory label := fun _ _ _ => trivial
  constructor
  · obtain ⟨reached, run, passed⟩ := run_of_execution (dmaMemoryStep sampleDmaConfig)
      (fun _ _ => true) dmaMemoryInitial [.init sampleInstance, .init sampleInstance]
      (fun memory => !decide (memory.regions.Pairwise fun (left right : DmaRegion) =>
        left.region.Disjoint right.region)) sound (by decide +kernel)
    exact ⟨reached, run, by simpa using passed⟩
  · obtain ⟨reached, run, passed⟩ := run_of_execution (dmaMemoryStep sampleDmaConfig)
      (fun _ _ => true) dmaMemoryInitial
      [.init sampleInstance, .descriptorAlloc ⟨6, 4294967295, by decide, by decide⟩]
      (fun memory => !decide (∀ granted ∈ memory.regions, granted.InWindow sampleDmaConfig))
      sound (by decide +kernel)
    exact ⟨reached, run, by simpa using passed⟩

end EmaczZephyr.Driver
