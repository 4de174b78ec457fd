import EmaczZephyr.Driver.DmaMemory

/-!
# Cache maintenance of the packet buffers

`emz_dma_cache_range` applies one operation to the lines of a range, unless the range lies
outside the cached aperture. An operation on a line acts on every byte in it, so what matters
beside the range is who else has bytes in its first and its last line. Buffers from the DMA
window are outside the aperture altogether. The static buffers are rows of an array that
follow each other without a gap, and are inside it wherever the kernel's data is.
-/

namespace EmaczZephyr.Driver

open BumpAllocator Runs

/-- `EMZ_DMA_CACHE_LINE_SIZE`, four words, as the processor of the shipped design is configured. -/
def emzDmaCacheLineSize : Nat := 16
/-- `EMZ_DMA_DCACHE_BASE`, the first address that the data cache covers. -/
def emzDmaDcacheBase : Nat := 0x90000000
/-- `EMZ_DMA_DCACHE_HIGH`, the last address that the data cache covers. -/
def emzDmaDcacheHigh : Nat := 0x97FFFFFF

/-- The loop over the lines. `stop` is a multiple of the line size, so no sum wraps. -/
def lineLoop (line stop : Nat) : List Nat :=
  if line < stop then line :: lineLoop (line + emzDmaCacheLineSize) stop else []
termination_by stop - line
decreasing_by
  unfold emzDmaCacheLineSize
  omega

/-- `emz_dma_cache_range`: the lines that the operation is applied to, in order. -/
def emzDmaCacheRange (addr size : Nat) : List Nat :=
  if size = 0 then []
  else
    -- `addr & ~(EMZ_DMA_CACHE_LINE_SIZE - 1u)`
    let start := addr / emzDmaCacheLineSize * emzDmaCacheLineSize
    let stop := roundUp ((addr + size) % wordSize) emzDmaCacheLineSize
    if stop ≤ emzDmaDcacheBase ∨ emzDmaDcacheHigh < start then [] else lineLoop start stop

/-- What the loop over lines touches: the addresses from its first line up to the stop, sixteen
apart; by the recursion of the loop. -/
theorem mem_line_loop {line stop touched : Nat} :
    touched ∈ lineLoop line stop ↔ line ≤ touched ∧ touched < stop ∧ 16 ∣ touched - line := by
  induction line using lineLoop.induct stop with
  | case1 line inside hypothesis =>
      rw [lineLoop, if_pos inside, List.mem_cons, hypothesis]
      unfold emzDmaCacheLineSize
      omega
  | case2 line outside =>
      rw [lineLoop, if_neg outside]
      simp only [List.not_mem_nil, false_iff]
      omega

/-- The loop goes up, so each line comes once. -/
theorem line_loop_ascending (line stop : Nat) : (lineLoop line stop).Pairwise (· < ·) := by
  induction line using lineLoop.induct stop with
  | case1 line inside hypothesis =>
      rw [lineLoop, if_pos inside]
      refine List.pairwise_cons.mpr ⟨fun later member => ?_, hypothesis⟩
      have behind := (mem_line_loop.mp member).1
      unfold emzDmaCacheLineSize at behind
      omega
  | case2 line outside =>
      rw [lineLoop, if_neg outside]
      exact List.Pairwise.nil

/-- Two byte ranges have a byte in common, which an empty range never has. -/
def Meets (addr size other width : Nat) : Prop :=
  ∃ byte, addr ≤ byte ∧ byte < addr + size ∧ other ≤ byte ∧ byte < other + width

/-- Once for every line that meets the range, and for no other. -/
structure Complete (addr size : Nat) (lines : List Nat) : Prop where
  once : lines.Nodup
  meets : ∀ line, line ∈ lines ↔
    emzDmaCacheLineSize ∣ line ∧ Meets addr size line emzDmaCacheLineSize

/-- The range lies in the aperture of the data cache with all of its bytes. -/
def InAperture (addr size : Nat) : Prop :=
  emzDmaDcacheBase ≤ addr ∧ addr + size ≤ emzDmaDcacheHigh + 1

/-- In the aperture the lines are those between the roundings of the two ends. -/
theorem cache_range_lines {addr size : Nat} (inside : InAperture addr size) (filled : 0 < size)
    (line : Nat) :
    line ∈ emzDmaCacheRange addr size ↔ 16 ∣ line ∧ addr < line + 16 ∧ line < addr + size := by
  obtain ⟨above, below⟩ := inside
  have empty : size ≠ 0 := Nat.ne_of_gt filled
  unfold emzDmaDcacheHigh at below
  unfold emzDmaDcacheBase at above
  have word : (addr + size) % wordSize = addr + size :=
    Nat.mod_eq_of_lt (by unfold wordSize; omega)
  have rounded : roundUp (addr + size) 16 = (addr + size + 15) / 16 * 16 := by
    rw [roundUp, Nat.mod_eq_of_lt (by unfold wordSize; omega)]
  unfold emzDmaCacheRange emzDmaCacheLineSize
  rw [if_neg empty, word, rounded, if_neg (by
    unfold emzDmaDcacheBase emzDmaDcacheHigh
    omega), mem_line_loop]
  omega

/-- On a range in the aperture the operation is applied to exactly the lines that the range
meets, to each once and in ascending order. -/
theorem cache_range_complete {addr size : Nat} (inside : InAperture addr size) :
    Complete addr size (emzDmaCacheRange addr size) := by
  by_cases empty : size = 0
  · subst empty
    refine ⟨List.Pairwise.nil, fun line => ?_⟩
    simp only [emzDmaCacheRange, List.not_mem_nil, false_iff, if_pos]
    rintro ⟨-, byte, low, high, -⟩
    omega
  · constructor
    · unfold emzDmaCacheRange
      rw [if_neg empty]
      dsimp only
      split
      · exact List.Pairwise.nil
      · exact (line_loop_ascending _ _).imp Nat.ne_of_lt
    · intro line
      rw [cache_range_lines inside (Nat.pos_of_ne_zero empty)]
      unfold emzDmaCacheLineSize
      refine and_congr_right fun _ => ⟨fun between => ?_, ?_⟩
      · exact ⟨max addr line, by omega, by omega, by omega, by omega⟩
      · rintro ⟨byte, low, high, first, last⟩
        omega

/-- A range that lies outside the aperture, below or above, is left alone: the two address tests
of the source see it whole. -/
theorem cache_range_outside {addr size low high : Nat} (placed : low ≤ addr)
    (ends : addr + size ≤ high) (word : high < wordSize)
    (outside : emzDmaDcacheHigh < low ∨ high ≤ emzDmaDcacheBase) :
    emzDmaCacheRange addr size = [] := by
  unfold emzDmaCacheRange
  by_cases empty : size = 0
  · exact if_pos empty
  rw [if_neg empty]
  apply if_pos
  unfold emzDmaDcacheHigh emzDmaDcacheBase at *
  rw [Nat.mod_eq_of_lt (by omega), roundUp]
  unfold wordSize emzDmaCacheLineSize at *
  omega

/-- A packet buffer, the bytes of everything else that the driver owns, and the DMA window
that it comes from. -/
structure PacketBuffer where
  addr : Nat
  size : Nat
  foreign : Nat → Prop
  window : Option (Nat × Nat)

/-- The condition of the file's `BUILD_ASSERT` on a window's base and size. -/
def OutsideAperture (base size : Nat) : Prop :=
  emzDmaDcacheHigh < base ∨ base + size ≤ emzDmaDcacheBase

/-- No line that the operation is applied to has a byte of anything else. -/
def Isolated (buffer : PacketBuffer) (lines : List Nat) : Prop :=
  ∀ line ∈ lines, ∀ byte, line ≤ byte → byte < line + emzDmaCacheLineSize → ¬ buffer.foreign byte

/-- Maintenance of the first `len` bytes is complete and isolated where the buffer lies in
the aperture, and nothing is done where its window is outside. -/
structure CacheMaintained (buffer : PacketBuffer) (len : Nat) : Prop where
  inside : InAperture buffer.addr buffer.size →
    Complete buffer.addr len (emzDmaCacheRange buffer.addr len) ∧
      Isolated buffer (emzDmaCacheRange buffer.addr len)
  outside : ∀ base size, buffer.window = some (base, size) → OutsideAperture base size →
    emzDmaCacheRange buffer.addr len = []

/-- The byte is one of a region's. -/
def OfRegion (region : Region) (byte : Nat) : Prop :=
  region.start ≤ byte ∧ byte < region.start + region.size

/-- A buffer that `emz_init` has from the DMA window; what is foreign to it are the other
regions, the mailbox and the statistics page. -/
def windowBuffer (cfg : DmaMemoryConfig) (memory : DmaMemory) (granted : DmaRegion) :
    PacketBuffer where
  addr := granted.region.start
  size := granted.region.size
  foreign byte := (∃ other ∈ memory.regions, other ≠ granted ∧ OfRegion other.region byte) ∨
    OfRegion ⟨cfg.jtagMailboxAddr, 0x1000⟩ byte ∨ OfRegion ⟨cfg.perfStatsAddr, 0x1000⟩ byte
  window := some (cfg.dmaMemoryBase, cfg.dmaMemorySize)

/-- The `BUILD_ASSERT`, which is made where the window has a base address. -/
def BuildAssert (cfg : DmaMemoryConfig) : Prop :=
  cfg.dmaMemoryBase ≠ 0 → OutsideAperture cfg.dmaMemoryBase cfg.dmaMemorySize

/-- A request that fits one word together with its alignment, so that rounding up does not wrap. -/
def DmaRegion.Small (granted : DmaRegion) : Prop :=
  granted.region.size + granted.align ≤ wordSize

/-- What `emz_init` requests for a packet buffer: from the DMA window, aligned to 64 bytes, and
of the configured size. -/
def DmaRegion.PacketBuffer (cfg : DmaMemoryConfig) (granted : DmaRegion) : Prop :=
  granted.fromSg = false ∧ granted.align = 64 ∧ granted.region.size = cfg.ethBufferSize

/-- The arena stays in the window, and with it every region that is not too large; a window
at address zero grants nothing. -/
structure WindowInvariant (cfg : DmaMemoryConfig) (memory : DmaMemory) : Prop where
  arena : memory.dma.Inside cfg.dmaMemoryBase cfg.jtagMailboxAddr
  zero : cfg.dmaMemoryBase = 0 → memory.dma.cursor = 0
  placed : ∀ granted ∈ memory.regions, granted.fromSg = false → cfg.dmaMemoryBase ≠ 0 ∧
    (granted.Small → granted.region.Within cfg.dmaMemoryBase cfg.jtagMailboxAddr)

section Window

variable {cfg : DmaMemoryConfig} {memory : DmaMemory}

/-- `emz_dma_mem_alloc` keeps the window invariant, whatever is requested: a region that is
granted begins at or behind the cursor and ends below the reserved tail. -/
theorem dma_alloc_window (invariant : WindowInvariant cfg memory) {align size : Nat}
    (positive : 0 < align) (aligned : align ≤ wordSize) (word : size < wordSize) :
    WindowInvariant cfg (emzDmaMemAlloc memory align size).2 := by
  have fits : cfg.jtagMailboxAddr < wordSize := (Nat.sub_le _ _).trans_lt cfg.dma_fits
  cases granted : (allocate memory.dma align size).1 with
  | none =>
    have same := allocate_refused granted
    simp only [emzDmaMemAlloc, granted, DmaMemory.record, same]
    exact invariant
  | some start =>
    have used : cfg.dmaMemoryBase ≠ 0 := by
      intro zero
      rw [allocate_zero positive (invariant.zero zero)] at granted
      cases granted
    have inside := invariant.arena.moves fits positive aligned granted
    simp only [emzDmaMemAlloc, granted, DmaMemory.record]
    refine ⟨inside, fun zero => absurd zero used, fun region member own => ⟨used, fun small => ?_⟩⟩
    rcases List.mem_append.mp member with old | new
    · exact (invariant.placed region old own).2 small
    · obtain rfl := List.mem_singleton.mp new
      obtain ⟨-, low, within, within_inside⟩ := invariant.arena.granted fits positive aligned word
        (accountable_small small) granted
      exact within.widen low within_inside.below

/-- So does `emz_sg_mem_alloc`, in both of its branches; regions of a separate descriptor window
are not in the DMA window at all. -/
theorem sg_alloc_window (invariant : WindowInvariant cfg memory) {align size : Nat}
    (positive : 0 < align) (aligned : align ≤ wordSize) (word : size < wordSize) :
    WindowInvariant cfg (emzSgMemAlloc cfg memory align size).2 := by
  unfold emzSgMemAlloc
  by_cases present : cfg.sgMemorySize ≠ 0
  · rw [if_pos present]
    cases granted : (allocate memory.sg align size).1 with
    | none =>
      simp only [DmaMemory.record, granted]
      exact ⟨invariant.arena, invariant.zero, invariant.placed⟩
    | some start =>
      simp only [DmaMemory.record, granted]
      refine ⟨invariant.arena, invariant.zero, fun region member own => ?_⟩
      rcases List.mem_append.mp member with old | new
      · exact invariant.placed region old own
      · obtain rfl := List.mem_singleton.mp new
        cases own
  · rw [if_neg present]
    exact dma_alloc_window invariant positive aligned word

/-- The loop that allocates packet buffers keeps the window invariant, one call after the other
and also when a call is refused. -/
theorem alloc_buffers_window (invariant : WindowInvariant cfg memory) (count : Nat) :
    WindowInvariant cfg (allocBuffers cfg count memory).2 := by
  have word : cfg.ethBufferSize < wordSize := cfg.size_field.trans (by decide)
  induction count generalizing memory with
  | zero => exact invariant
  | succ count hypothesis =>
    have kept := dma_alloc_window invariant (show 0 < 64 by decide) (by decide) word
    unfold allocBuffers
    split
    · rename_i refused
      rw [refused] at kept
      exact kept
    · rename_i granted
      rw [granted] at kept
      exact hypothesis kept

/-- The allocations for the two descriptor rings keep the window invariant, whichever of them are
made. -/
theorem start_rings_window (invariant : WindowInvariant cfg memory) (device : DmaInstance) :
    WindowInvariant cfg (startRings cfg device memory) := by
  have range := cfg.count_range
  have word : rxBdSize * cfg.rxBufferCount < wordSize := by
    unfold rxBdSize wordSize
    omega
  have kept := sg_alloc_window invariant (show 0 < 64 by decide) (by decide) word
  unfold startRings
  split
  · rename_i refused
    rw [refused] at kept
    exact kept
  · rename_i granted
    rw [granted] at kept
    split
    · exact sg_alloc_window kept (by decide) (by decide) (by decide)
    · exact kept

/-- With the cursors back at the start of the windows the invariant holds, since no region is
recorded then. -/
theorem reset_window (invariant : WindowInvariant cfg memory) :
    WindowInvariant cfg (emzSgMemReset cfg (emzDmaMemReset cfg memory)) := by
  have tail := cfg.tail_fits
  unfold perfStatsDmaReserved at tail
  refine ⟨⟨?_, Nat.le_refl _, fun _ => Nat.le_refl _⟩, fun zero => zero, invariant.placed⟩
  change cfg.dmaMemoryBase ≤ cfg.dmaMemoryBase + cfg.dmaMemorySize - 0x2000
  omega

/-- The initialisation of any instance keeps the window invariant: reset, receive buffers,
transmit buffers and rings in their order. -/
theorem init_window (invariant : WindowInvariant cfg memory) (device : DmaInstance) :
    WindowInvariant cfg (emzInit cfg device memory) := by
  have rx := alloc_buffers_window (reset_window invariant) cfg.rxBufferCount
  unfold emzInit
  split
  · exact invariant
  · simp only
    split
    · rename_i refused
      rw [refused] at rx
      exact rx
    · rename_i granted
      rw [granted] at rx
      have tx := alloc_buffers_window rx txBufferCount
      split
      · rename_i refused
        rw [refused] at tx
        exact tx
      · rename_i granted
        rw [granted] at tx
        split
        · exact start_rings_window tx device
        · exact tx

/-- One step, an initialisation or a request for descriptors, keeps the window invariant; over a
run this gives every packet buffer its place. -/
theorem dma_memory_step_window (invariant : WindowInvariant cfg memory) {label : DmaLabel}
    {next : DmaMemory} (taken : dmaMemoryStep cfg memory label = some next) :
    WindowInvariant cfg next := by
  cases label with
  | init device =>
    obtain rfl := Option.some.inj taken
    exact init_window invariant device
  | descriptorAlloc request =>
    obtain rfl := Option.some.inj taken
    have small : request.align ≤ wordSize :=
      Nat.pow_le_pow_right (show 0 < 2 by decide) request.alignLog.isLt.le
    exact sg_alloc_window invariant (Nat.two_pow_pos _) small request.word

/-- No line of a buffer from an admitted window is operated on, in any run. -/
theorem window_untouched (admitted : BuildAssert cfg)
    (run : Run (dmaMemoryStep cfg) Unrestricted dmaMemoryInitial memory) {granted : DmaRegion}
    (member : granted ∈ memory.regions) (own : granted.fromSg = false) (small : granted.Small)
    {len : Nat} (bounded : len ≤ granted.region.size) :
    emzDmaCacheRange granted.region.start len = [] := by
  have initial : WindowInvariant cfg dmaMemoryInitial :=
    ⟨⟨Nat.zero_le _, Nat.zero_le _, fun used => absurd rfl used⟩, fun _ => rfl,
      fun _ member => absurd member List.not_mem_nil⟩
  have invariant := run.invariant (WindowInvariant cfg) initial
    fun _ _ _ invariant _ taken => dma_memory_step_window invariant taken
  obtain ⟨based, within⟩ := invariant.placed granted member own
  obtain ⟨low, high⟩ := within small
  have tail : cfg.jtagMailboxAddr ≤ cfg.dmaMemoryBase + cfg.dmaMemorySize := Nat.sub_le _ _
  exact cache_range_outside low (by omega) cfg.dma_fits (admitted based)

end Window

/-- Where `struct emaczero_data` lies with the arrays `rx_storage` and `tx_storage`, and the
next object of the driver behind them, if there is one: `stats` where it is configured. -/
structure StaticLayout where
  dataBase : Nat
  /-- The offset of `rx_storage`. -/
  rxOffset : Nat
  /-- `EMZ_DMA_BUFFER_COUNT_RX` -/
  rxBufferCount : Nat
  /-- `EMZ_ETH_BUFFER_SIZE` -/
  ethBufferSize : Nat
  behind : Option Region
  /-- `__aligned(4)` -/
  aligned : 4 ∣ dataBase + rxOffset
  /-- The pointers of `tx_buffer` stand in front of `rx_storage`. -/
  pointers : 4 * txBufferCount ≤ rxOffset
  count_positive : 0 < rxBufferCount
  size_positive : 0 < ethBufferSize
  behind_filled : ∀ region, behind = some region → 0 < region.size

namespace StaticLayout

variable (layout : StaticLayout)

/-- `rx_storage`, at its offset in the data of the driver's instance. -/
def rxStorage : Nat := layout.dataBase + layout.rxOffset

/-- `tx_storage`, which follows the receive rows and is aligned to four bytes again. -/
def txStorage : Nat :=
  (layout.rxStorage + layout.ethBufferSize * layout.rxBufferCount + 3) / 4 * 4

/-- The rows of both arrays, numbered through from the first receive buffer to the last transmit
buffer. -/
def rows : Nat := layout.rxBufferCount + txBufferCount

/-- The address of a row: `rx_storage[i]`, and behind those `tx_storage[i]`. -/
def row (index : Nat) : Nat :=
  if index < layout.rxBufferCount then layout.rxStorage + layout.ethBufferSize * index
  else layout.txStorage + layout.ethBufferSize * (index - layout.rxBufferCount)

/-- The arrays end in front of the next object, so no row overlaps what lies behind them. -/
def Placed : Prop :=
  ∀ region, layout.behind = some region →
    layout.row (layout.rows - 1) + layout.ethBufferSize ≤ region.start

/-- The bytes of the structure in front of the arrays, of the other rows, and of the object
behind. -/
def Foreign (index byte : Nat) : Prop :=
  (layout.dataBase ≤ byte ∧ byte < layout.rxStorage) ∨
    (∃ other < layout.rows, other ≠ index ∧ layout.row other ≤ byte ∧
      byte < layout.row other + layout.ethBufferSize) ∨
    ∃ region, layout.behind = some region ∧ OfRegion region byte

/-- The address of the object that follows a row: the next row, or behind the last row the object
behind the arrays. -/
def next (index : Nat) : Option Nat :=
  if index + 1 < layout.rows then some (layout.row (index + 1))
  else layout.behind.map (·.start)

/-- A buffer in the static arrays, one row of the configured size, with every other row and the
object behind as foreign bytes. -/
def buffer (index : Nat) : PacketBuffer where
  addr := layout.row index
  size := layout.ethBufferSize
  foreign := layout.Foreign index
  window := none

/-- The row starts a line, and the last line of its first `len` bytes ends in front of the
next object. -/
def OwnLines (index len : Nat) : Prop :=
  emzDmaCacheLineSize ∣ layout.row index ∧
    ∀ address, layout.next index = some address →
      (layout.row index + len + 15) / 16 * 16 ≤ address

end StaticLayout

section Static

variable {layout : StaticLayout} {index : Nat}

/-- Rows follow each other without a gap, up to the alignment where the second array begins. -/
theorem row_step (layout : StaticLayout) (index : Nat) : layout.row (index + 1) =
    if index + 1 = layout.rxBufferCount then
      (layout.row index + layout.ethBufferSize + 3) / 4 * 4
    else layout.row index + layout.ethBufferSize := by
  have product (rows : Nat) : layout.ethBufferSize * (rows + 1) =
      layout.ethBufferSize * rows + layout.ethBufferSize := Nat.mul_succ _ rows
  unfold StaticLayout.row StaticLayout.txStorage
  by_cases last : index + 1 = layout.rxBufferCount
  · rw [if_pos last, if_neg (by omega), if_pos (by omega), last, Nat.sub_self, Nat.mul_zero,
      ← last, product index]
    omega
  · rw [if_neg last]
    by_cases rx : index + 1 < layout.rxBufferCount
    · rw [if_pos rx, if_pos (by omega), product index]
      omega
    · rw [if_neg rx, if_neg (by omega), Nat.sub_add_comm (by omega), product]
      omega

/-- A later row starts behind an earlier one, by induction on the rows between them. -/
theorem row_order (layout : StaticLayout) {later : Nat} (before : index < later) :
    layout.row index + layout.ethBufferSize ≤ layout.row later := by
  induction later with
  | zero => exact absurd before (Nat.not_lt_zero index)
  | succ later hypothesis =>
      have step := row_step layout later
      rcases Nat.lt_or_eq_of_le (Nat.le_of_lt_succ before) with earlier | rfl
      · have ordered := hypothesis earlier
        split at step <;> omega
      · split at step <;> omega

/-- No other object has a byte between the start of a row and the next object, which is where
sharing a line could only come from. -/
theorem row_room (placed : layout.Placed) {byte : Nat} (begins : layout.row index ≤ byte)
    (below : ∀ address, layout.next index = some address → byte < address) :
    ¬ layout.Foreign index byte := by
  have first : layout.rxStorage ≤ layout.row index := by
    have zero : layout.row 0 = layout.rxStorage := by
      rw [StaticLayout.row, if_pos layout.count_positive, Nat.mul_zero, Nat.add_zero]
    rcases Nat.eq_zero_or_pos index with rfl | positive
    · exact zero.ge
    · have ordered := row_order layout positive
      omega
  rintro (⟨-, front⟩ | ⟨other, among, differs, low, high⟩ | ⟨region, object, low, -⟩)
  · omega
  · rcases Nat.lt_or_gt_of_ne differs with earlier | later
    · have ordered := row_order layout earlier
      omega
    · have limit := below (layout.row (index + 1)) (if_pos (by omega))
      rcases Nat.lt_or_eq_of_le (show index + 1 ≤ other from later) with behind | rfl
      · have ordered := row_order layout behind
        omega
      · omega
  · by_cases more : index + 1 < layout.rows
    · have limit := below (layout.row (index + 1)) (if_pos more)
      have ends := placed region object
      have ordered : layout.row (index + 1) ≤ layout.row (layout.rows - 1) := by
        rcases Nat.lt_or_eq_of_le (Nat.le_sub_one_of_lt more) with behind | same
        · have ordered := row_order layout behind
          omega
        · rw [same]
      omega
    · have limit := below region.start (by rw [StaticLayout.next, if_neg more, object]; rfl)
      omega

/-- The byte in front of a row that starts no line, or one less than four before it, belongs
to another object of the same line. -/
theorem row_front (inside : index < layout.rows) (unaligned : ¬ 16 ∣ layout.row index) :
    ∃ byte, layout.Foreign index byte ∧ layout.row index / 16 * 16 ≤ byte ∧
      byte < layout.row index := by
  have filled := layout.size_positive
  cases index with
  | zero =>
      have zero : layout.row 0 = layout.rxStorage := by
        rw [StaticLayout.row, if_pos layout.count_positive, Nat.mul_zero, Nat.add_zero]
      have pointers := layout.pointers
      unfold txBufferCount at pointers
      have start : layout.rxStorage = layout.dataBase + layout.rxOffset := rfl
      exact ⟨layout.row 0 - 1, .inl ⟨by omega, by omega⟩, by omega, by omega⟩
  | succ index =>
      have step := row_step layout index
      refine ⟨layout.row index + layout.ethBufferSize - 1, .inr (.inl ⟨index, by omega, by omega,
        by omega, by omega⟩), ?_, ?_⟩
      · split at step <;> omega
      · split at step <;> omega

/-- The next object has a byte at its address, so a line that reaches this address is shared. -/
theorem next_foreign {address : Nat}
    (next : layout.next index = some address) : layout.Foreign index address := by
  have filled := layout.size_positive
  unfold StaticLayout.next at next
  by_cases more : index + 1 < layout.rows
  · rw [if_pos more, Option.some_inj] at next
    exact .inr (.inl ⟨index + 1, more, by omega, by omega, by omega⟩)
  · rw [if_neg more, Option.map_eq_some_iff] at next
    obtain ⟨region, object, rfl⟩ := next
    have bytes := layout.behind_filled region object
    exact .inr (.inr ⟨region, object, Nat.le_refl _, by omega⟩)

/-- The next object starts at or behind the end of the row, since rows follow each other and the
arrays end in front of what is behind. -/
theorem next_behind (placed : layout.Placed) (inside : index < layout.rows) {address : Nat}
    (next : layout.next index = some address) :
    layout.row index + layout.ethBufferSize ≤ address := by
  unfold StaticLayout.next at next
  by_cases more : index + 1 < layout.rows
  · rw [if_pos more, Option.some_inj] at next
    rw [← next]
    exact row_order layout (Nat.lt_succ_self index)
  · rw [if_neg more, Option.map_eq_some_iff] at next
    obtain ⟨region, object, rfl⟩ := next
    have last : layout.rows - 1 = index := by omega
    have ends := placed region object
    rwa [last] at ends

/-- A static buffer in the aperture is isolated exactly when its lines are its own. -/
theorem static_isolated_iff (placed : layout.Placed) (inside : index < layout.rows) {len : Nat}
    (bounded : len ≤ layout.ethBufferSize) (filled : 0 < len)
    (cached : InAperture (layout.row index) layout.ethBufferSize) :
    Isolated (layout.buffer index) (emzDmaCacheRange (layout.row index) len) ↔
      layout.OwnLines index len := by
  have range : InAperture (layout.row index) len := ⟨cached.1, by have ends := cached.2; omega⟩
  have lines := cache_range_lines range filled
  unfold StaticLayout.OwnLines Isolated emzDmaCacheLineSize
  constructor
  · intro isolated
    have aligned : 16 ∣ layout.row index := by
      by_contra unaligned
      obtain ⟨byte, foreign, low, high⟩ := row_front inside unaligned
      exact isolated (layout.row index / 16 * 16) ((lines _).mpr (by omega)) byte low (by omega)
        foreign
    refine ⟨aligned, fun address next => ?_⟩
    by_contra overlaps
    have behind := next_behind placed inside next
    exact isolated (address / 16 * 16) ((lines _).mpr (by omega)) address (by omega) (by omega)
      (next_foreign next)
  · rintro ⟨aligned, room⟩ line member byte low high
    obtain ⟨multiple, meets, starts⟩ := (lines line).mp member
    refine row_room placed (by omega) fun address next => ?_
    have limit := room address next
    omega

end Static

/-- Maintenance of the window's buffers is as stated in every run of an admitted window, and that
of a static buffer exactly when it lies outside the aperture or its lines are its own.

Proof: in the window no line is in the cached aperture, so nothing is maintained there. For a
static buffer the range covers the bytes by rounding outwards, and isolation is the comparison of
the first and last line with those of the neighbouring rows. -/
theorem cache_maintained_iff (cfg : DmaMemoryConfig) (layout : StaticLayout) (len : Nat) :
    (∀ (memory : DmaMemory) (granted : DmaRegion),
      BuildAssert cfg → Run (dmaMemoryStep cfg) Unrestricted dmaMemoryInitial memory →
      granted ∈ memory.regions → granted.PacketBuffer cfg → len ≤ cfg.ethBufferSize →
      CacheMaintained (windowBuffer cfg memory granted) len) ∧
    ∀ index, layout.Placed → index < layout.rows → len ≤ layout.ethBufferSize →
      (CacheMaintained (layout.buffer index) len ↔
        InAperture (layout.row index) layout.ethBufferSize → 0 < len →
          layout.OwnLines index len) := by
  constructor
  · intro memory granted admitted run member packet bounded
    obtain ⟨own, aligned, size⟩ := packet
    have small : granted.Small := by
      have field := cfg.size_field
      unfold DmaRegion.Small wordSize
      omega
    rw [← size] at bounded
    have untouched := window_untouched admitted run member own small bounded
    refine ⟨fun cached => ⟨cache_range_complete ?_, ?_⟩, fun _ _ _ _ => untouched⟩
    · exact ⟨cached.1, (Nat.add_le_add_left bounded _).trans cached.2⟩
    · intro line touched
      change line ∈ emzDmaCacheRange granted.region.start len at touched
      rw [untouched] at touched
      exact absurd touched List.not_mem_nil
  · intro index placed inside bounded
    constructor
    · intro maintained cached filled
      exact (static_isolated_iff placed inside bounded filled cached).mp
        (maintained.inside cached).2
    · intro own
      refine ⟨fun cached => ⟨cache_range_complete ?_, ?_⟩, by rintro _ _ ⟨⟩⟩
      · exact ⟨cached.1, (Nat.add_le_add_left bounded _).trans cached.2⟩
      · rcases Nat.eq_zero_or_pos len with rfl | filled
        · rintro line member
          exact absurd member (by simp [emzDmaCacheRange])
        · exact (static_isolated_iff placed inside bounded filled cached).mpr (own cached filled)

/-- There is a receive buffer in the layouts of the witnesses. -/
theorem some_buffers : 0 < 8 := Nat.succ_pos 7

/-- In a layout with no object behind the arrays, nothing is asked of the size of such an object. -/
theorem nothing_behind : ∀ region : Region, none = some region → 0 < region.size := by
  rintro _ ⟨⟩

/-- The failing layout: eight receive buffers of 1514 bytes in the kernel's data, so that the
second row begins within a line. -/
def kernelLayout : StaticLayout where
  dataBase := 0x90100000
  rxOffset := 1024
  rxBufferCount := 8
  ethBufferSize := 1514
  behind := none
  aligned := Nat.dvd_of_mod_eq_zero rfl
  pointers := Nat.le_of_ble_eq_true rfl
  count_positive := some_buffers
  size_positive := Nat.succ_pos 1513
  behind_filled := nothing_behind

/-- The failing layout is a proper one, for no object lies behind its arrays. -/
theorem kernel_layout_placed : kernelLayout.Placed := by rintro _ ⟨⟩

/-- The theorem at the first receive buffer, whose first 64 bytes are four lines of its own,
and at the first buffer of an initialised window. -/
theorem cache_maintained_first :
    CacheMaintained (kernelLayout.buffer 0) 64 ∧
      CacheMaintained (windowBuffer sampleDmaConfig (emzInit sampleDmaConfig sampleInstance
        dmaMemoryInitial) ⟨false, ⟨0x100000, 1514⟩, 64⟩) 64 := by
  obtain ⟨window, static⟩ := cache_maintained_iff sampleDmaConfig kernelLayout 64
  constructor
  · refine (static 0 kernel_layout_placed (by decide) (by decide)).mpr fun _ _ => ⟨by decide, ?_⟩
    rintro address ⟨⟩
    decide
  · refine window _ ⟨false, ⟨0x100000, 1514⟩, 64⟩ ?_ ?_ (by decide +kernel) ⟨rfl, rfl, rfl⟩
      (by decide)
    · exact fun _ => .inr (by decide)
    · have taken : dmaMemoryStep sampleDmaConfig dmaMemoryInitial (.init sampleInstance) =
          some (emzInit sampleDmaConfig sampleInstance dmaMemoryInitial) := rfl
      exact .step .rest trivial taken

/-- The second receive buffer of 1514 bytes shares its first line with the first. -/
theorem static_buffers_share_lines :
    ¬ ∀ (layout : StaticLayout) (index len : Nat), layout.Placed → index < layout.rows →
      len ≤ layout.ethBufferSize → CacheMaintained (layout.buffer index) len := by
  intro always
  have maintained := always kernelLayout 1 64 kernel_layout_placed (by decide) (by decide)
  have cached : InAperture (kernelLayout.row 1) kernelLayout.ethBufferSize := by
    constructor <;> decide
  have own := (static_isolated_iff kernel_layout_placed (by decide) (by decide) (by decide)
    cached).mp (maintained.inside cached).2
  exact absurd own.1 (by decide)

end EmaczZephyr.Driver
