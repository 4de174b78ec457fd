import EmaczZephyr.Driver.RxRing
import EmaczZephyr.Foundation.Runs

/-!
# The representation invariant of the receive ring

Five indices and counters describe one circular window of occupied slots. Each
locked region has one law that states everything it changes; the invariant's
step lemmas, and every later argument about the ring, read those laws instead of
the definitions.

Status words are arbitrary throughout. A region reads whatever the memory holds,
and a separate step of the ring system writes any word to any slot.
-/

namespace EmaczZephyr.Driver

open Runs

/-- A successful post: the refill slot was free and the limit not reached, and
the buffer is programmed there. -/
structure Posted (cfg : Config) (before : RxRing) (rx : Nat) (after : RxRing) : Prop where
  free : before.rxBdBuffer before.rxBdRefillIndex = none
  limit : before.rxDmaInflight < cfg.rxMaxInflight
  bds : after.rxBdRing = Function.update before.rxBdRing before.rxBdRefillIndex
    ⟨cfg.rxBytes rx, BitVec.ofNat 32 cfg.ethBufferSize &&& bdCtrlLenMask, 0#32⟩
  buffers : after.rxBdBuffer =
    Function.update before.rxBdBuffer before.rxBdRefillIndex (some rx)
  consume : after.rxBdConsumeIndex = before.rxBdConsumeIndex
  refill : after.rxBdRefillIndex = (before.rxBdRefillIndex + 1) % cfg.rxBufferCount
  tail : after.rxBdTailIndex = before.rxBdRefillIndex
  posted : after.rxBdPosted = Word32.inc before.rxBdPosted
  inflight : after.rxDmaInflight = Word32.inc before.rxDmaInflight
  started : after.rxDirectRingStarted = before.rxDirectRingStarted
  available : after.rxBdAvailableCurrent =
    Word32.sub cfg.rxBufferCount (Word32.inc before.rxBdPosted)

/-- A retired slot: it held the buffer and a finished status, and is cleared. -/
structure Retired (cfg : Config) (before : RxRing) (rx : Nat) (status : BitVec 32)
    (after : RxRing) : Prop where
  owned : before.rxBdBuffer before.rxBdConsumeIndex = some rx
  read : (before.rxBdRing before.rxBdConsumeIndex).status = status
  finished : bdFinished status = true
  bds : after.rxBdRing = Function.update before.rxBdRing before.rxBdConsumeIndex
    { before.rxBdRing before.rxBdConsumeIndex with status := 0#32 }
  buffers : after.rxBdBuffer = Function.update before.rxBdBuffer before.rxBdConsumeIndex none
  consume : after.rxBdConsumeIndex = (before.rxBdConsumeIndex + 1) % cfg.rxBufferCount
  refill : after.rxBdRefillIndex = before.rxBdRefillIndex
  tail : after.rxBdTailIndex = before.rxBdTailIndex
  posted : after.rxBdPosted = Word32.dec before.rxBdPosted
  inflight : after.rxDmaInflight =
    if 0 < before.rxDmaInflight then Word32.dec before.rxDmaInflight else before.rxDmaInflight
  started : after.rxDirectRingStarted = before.rxDirectRingStarted
  available : after.rxBdAvailableCurrent =
    Word32.sub cfg.rxBufferCount (Word32.dec before.rxBdPosted)

/-- The swept ring: every slot is cleared and the window is empty. -/
structure Swept (cfg : Config) (before after : RxRing) (orphans : List Nat) : Prop where
  orphans : orphans = (List.range cfg.rxBufferCount).filterMap before.rxBdBuffer
  buffers : ∀ index, after.rxBdBuffer index =
    if index < cfg.rxBufferCount then none else before.rxBdBuffer index
  status : ∀ index, index < cfg.rxBufferCount → (after.rxBdRing index).status = 0#32
  consume : after.rxBdConsumeIndex = 0
  refill : after.rxBdRefillIndex = 0
  tail : after.rxBdTailIndex = 0
  posted : after.rxBdPosted = 0
  inflight : after.rxDmaInflight = 0
  started : after.rxDirectRingStarted = false
  available : after.rxBdAvailableCurrent = Word32.sub cfg.rxBufferCount 0

/-- A post either succeeds, with the whole change as stated, or changes nothing; then its slot is
occupied or the limit reached. -/
theorem post_one_cases (cfg : Config) (ring : RxRing) (rx : Nat) :
    (emzRxDirectPostOne cfg ring rx = (ring, false) ∧
      ((ring.rxBdBuffer ring.rxBdRefillIndex).isSome ∨
        cfg.rxMaxInflight ≤ ring.rxDmaInflight)) ∨
    ∃ after, emzRxDirectPostOne cfg ring rx = (after, true) ∧ Posted cfg ring rx after := by
  unfold emzRxDirectPostOne
  by_cases occupied : (ring.rxBdBuffer ring.rxBdRefillIndex).isSome = true
  · exact .inl ⟨by simp [occupied], .inl occupied⟩
  · by_cases limited : cfg.rxMaxInflight ≤ ring.rxDmaInflight
    · exact .inl ⟨by simp [occupied, limited], .inr limited⟩
    · have free : ring.rxBdBuffer ring.rxBdRefillIndex = none := by simpa using occupied
      refine .inr ⟨_, by simp only [occupied, limited, if_false, Bool.false_eq_true]; rfl, ?_⟩
      exact ⟨free, Nat.lt_of_not_le limited, rfl, rfl, rfl, rfl, rfl, rfl, rfl, rfl, rfl⟩

/-- The consume region leaves an unfinished or unowned slot as it is; otherwise it
retires the slot. -/
theorem consume_cases (cfg : Config) (ring : RxRing) :
    (emzRxDirectConsume cfg ring = (ring, .unfinished) ∧
      bdFinished (ring.rxBdRing ring.rxBdConsumeIndex).status = false) ∨
    (emzRxDirectConsume cfg ring = (ring, .unowned) ∧
      bdFinished (ring.rxBdRing ring.rxBdConsumeIndex).status = true ∧
      ring.rxBdBuffer ring.rxBdConsumeIndex = none) ∨
    ∃ after rx status, emzRxDirectConsume cfg ring = (after, .retired rx status) ∧
      Retired cfg ring rx status after := by
  unfold emzRxDirectConsume
  by_cases finished : bdFinished (ring.rxBdRing ring.rxBdConsumeIndex).status = true
  · cases owner : ring.rxBdBuffer ring.rxBdConsumeIndex with
    | none => exact .inr (.inl ⟨by simp [finished, owner], finished, rfl⟩)
    | some rx =>
      refine .inr (.inr ⟨_, rx, _, by simp only [finished, owner, if_true]; rfl, ?_⟩)
      exact ⟨owner, rfl, finished, rfl, rfl, rfl, rfl, rfl, rfl, rfl, rfl, rfl⟩
  · exact .inl ⟨by simp [finished], by simpa using finished⟩

/-- One iteration of the sweep appends the slot's buffer, if it has one, to the orphans, and
clears owner, status and control of the slot. -/
theorem sweep_slot_fields (swept : RxRing × List Nat) (index : Nat) :
    (emzRxDirectSweepSlot swept index).2 = swept.2 ++ (swept.1.rxBdBuffer index).toList ∧
    (emzRxDirectSweepSlot swept index).1.rxBdBuffer =
      Function.update swept.1.rxBdBuffer index none ∧
    (emzRxDirectSweepSlot swept index).1.rxBdRing = Function.update swept.1.rxBdRing index
      { swept.1.rxBdRing index with status := 0#32, control := 0#32 } ∧
    (emzRxDirectSweepSlot swept index).1.rxDirectRingStarted = swept.1.rxDirectRingStarted := by
  unfold emzRxDirectSweepSlot
  cases owner : swept.1.rxBdBuffer index <;> simp [owner]

/-- After some iterations the sweep has cleared exactly the slots below its index
and collected their buffers in order. Induction adds one slot at the end. -/
theorem sweep_slots (ring : RxRing) (count : Nat) :
    (emzRxDirectSweepSlots ring count).2 = (List.range count).filterMap ring.rxBdBuffer ∧
    (∀ index, (emzRxDirectSweepSlots ring count).1.rxBdBuffer index =
      if index < count then none else ring.rxBdBuffer index) ∧
    (∀ index, index < count →
      ((emzRxDirectSweepSlots ring count).1.rxBdRing index).status = 0#32) ∧
    (emzRxDirectSweepSlots ring count).1.rxDirectRingStarted = false := by
  induction count with
  | zero => exact ⟨rfl, fun _ => by simp [emzRxDirectSweepSlots], by simp, rfl⟩
  | succ count inductionHypothesis =>
    obtain ⟨orphans, buffers, status, started⟩ := inductionHypothesis
    have next : emzRxDirectSweepSlots ring (count + 1) =
        emzRxDirectSweepSlot (emzRxDirectSweepSlots ring count) count := by
      simp [emzRxDirectSweepSlots, List.range_succ]
    obtain ⟨found, cleared, written, kept⟩ :=
      sweep_slot_fields (emzRxDirectSweepSlots ring count) count
    rw [next]
    refine ⟨?_, ?_, ?_, kept.trans started⟩
    · rw [found, orphans, buffers, List.range_succ, List.filterMap_append]
      cases owner : ring.rxBdBuffer count <;> simp [owner]
    · intro index
      rw [cleared, Function.update_apply, buffers]
      by_cases last : index = count
      · simp [last]
      · have same : index < count ↔ index < count + 1 := by omega
        simp [last, same]
    · intro index inside
      rw [written, Function.update_apply]
      by_cases last : index = count
      · simp [last]
      · simpa [last] using status index (by omega)

/-- The sweep region clears the whole ring and returns its buffers in the order of their slots. -/
theorem sweep_swept (cfg : Config) (ring : RxRing) :
    Swept cfg ring (emzRxDirectSweep cfg ring).1 (emzRxDirectSweep cfg ring).2 := by
  obtain ⟨orphans, buffers, status, started⟩ := sweep_slots ring cfg.rxBufferCount
  exact ⟨orphans, buffers, status, rfl, rfl, rfl, rfl, rfl, started, rfl⟩

/-- The indices and counters describe one window of occupied, programmed slots. -/
structure RxRingInvariant (cfg : Config) (ring : RxRing) : Prop where
  consume_inside : ring.rxBdConsumeIndex < cfg.rxBufferCount
  tail_inside : ring.rxBdTailIndex < cfg.rxBufferCount
  posted_fits : ring.rxBdPosted ≤ cfg.rxBufferCount
  posted_limited : ring.rxBdPosted ≤ cfg.rxMaxInflight
  inflight_exact : ring.rxDmaInflight = ring.rxBdPosted
  refill_exact : ring.rxBdRefillIndex =
    Window.slot cfg.rxBufferCount ring.rxBdConsumeIndex ring.rxBdPosted
  tail_exact : 0 < ring.rxBdPosted → ring.rxBdTailIndex =
    Window.slot cfg.rxBufferCount ring.rxBdConsumeIndex (ring.rxBdPosted - 1)
  occupied : ∀ index, index < cfg.rxBufferCount → ((ring.rxBdBuffer index).isSome ↔
    Window.Member cfg.rxBufferCount ring.rxBdConsumeIndex ring.rxBdPosted index)
  programmed : ∀ index rx, index < cfg.rxBufferCount → ring.rxBdBuffer index = some rx →
    (ring.rxBdRing index).bufferAddress = cfg.rxBytes rx ∧
      (ring.rxBdRing index).control &&& bdCtrlLenMask ≠ 0#32
  available_exact : ring.rxBdAvailableCurrent = cfg.rxBufferCount - ring.rxBdPosted

/-- A length below its field's bound survives the mask of the field, which cuts to 26 bits. -/
theorem masked_length {length : Nat} (small : length < 67108864) :
    (BitVec.ofNat 32 length &&& bdCtrlLenMask).toNat = length := by
  rw [BitVec.toNat_and, BitVec.toNat_ofNat, Nat.mod_eq_of_lt (by omega)]
  change length &&& (2 ^ 26 - 1) = _
  rw [Nat.and_two_pow_sub_one_eq_mod, Nat.mod_eq_of_lt (by omega)]

/-- The programmed length survives its mask: a buffer size is a nonzero value of
the 26-bit length field. -/
theorem programmed_length (cfg : Config) :
    (BitVec.ofNat 32 cfg.ethBufferSize &&& bdCtrlLenMask) &&& bdCtrlLenMask ≠ 0#32 := by
  have field := masked_length cfg.size_field
  rw [BitVec.and_assoc, BitVec.and_self]
  intro zero
  rw [zero] at field
  have positive := cfg.size_positive
  simp at field
  omega

/-- The ring that `emz_rx_direct_start` sets up is an empty window at index zero. -/
theorem start_ring_invariant (cfg : Config) : RxRingInvariant cfg (emzRxDirectStartRing cfg) where
  consume_inside := cfg.count_positive
  tail_inside := cfg.count_positive
  posted_fits := Nat.zero_le _
  posted_limited := Nat.zero_le _
  inflight_exact := rfl
  refill_exact := (Window.slot_zero cfg.count_positive).symm
  tail_exact := fun impossible => absurd impossible (Nat.lt_irrefl 0)
  occupied := fun index _ => by
    have vacant : ¬ Window.Member cfg.rxBufferCount 0 0 index := Window.not_member_zero
    simpa [emzRxDirectStartRing, emzPerfSetBdAvailable] using vacant
  programmed := fun index rx _ owner => by
    simp [emzRxDirectStartRing, emzPerfSetBdAvailable] at owner
  available_exact := Word32.sub_exact (Nat.zero_le _) cfg.count_word

/-- Under the invariant the refill slot is free exactly when the ring is not full. -/
theorem refill_free_iff {cfg : Config} {ring : RxRing} (invariant : RxRingInvariant cfg ring) :
    ring.rxBdBuffer ring.rxBdRefillIndex = none ↔ ring.rxBdPosted < cfg.rxBufferCount := by
  have refillInside : ring.rxBdRefillIndex < cfg.rxBufferCount :=
    invariant.refill_exact ▸ Window.slot_lt cfg.count_positive _ _
  have exact := invariant.occupied _ refillInside
  have fits := invariant.posted_fits
  constructor
  · intro free
    by_contra full
    have whole : ring.rxBdPosted = cfg.rxBufferCount := by omega
    obtain ⟨position, inside, reached⟩ :=
      Window.exists_position invariant.consume_inside refillInside
    have member : Window.Member cfg.rxBufferCount ring.rxBdConsumeIndex ring.rxBdPosted
        ring.rxBdRefillIndex := ⟨position, by omega, reached⟩
    simpa [free] using exact.mpr member
  · intro room
    by_contra owned
    have member := exact.mp (Option.isSome_iff_ne_none.mpr owned)
    rw [invariant.refill_exact, Window.member_slot invariant.consume_inside fits room] at member
    omega

/-- A finished slot that has a buffer is the first of a nonempty window. -/
theorem owned_posted {cfg : Config} {ring : RxRing} (invariant : RxRingInvariant cfg ring)
    {rx : Nat} (owned : ring.rxBdBuffer ring.rxBdConsumeIndex = some rx) : 0 < ring.rxBdPosted := by
  obtain ⟨position, inside, _⟩ :=
    (invariant.occupied _ invariant.consume_inside).mp (by simp [owned])
  omega

/-- A successful post extends the window by its refill slot: one more slot is posted, owned and
programmed, and the indices stay its two ends. -/
theorem posted_invariant {cfg : Config} {before after : RxRing} {rx : Nat}
    (invariant : RxRingInvariant cfg before) (posted : Posted cfg before rx after) :
    RxRingInvariant cfg after := by
  have room : before.rxBdPosted < cfg.rxBufferCount := (refill_free_iff invariant).mp posted.free
  have word := cfg.count_word
  have counted : after.rxBdPosted = before.rxBdPosted + 1 := by
    rw [posted.posted, Word32.inc_exact (by omega)]
  have refillSlot := invariant.refill_exact
  constructor
  · rw [posted.consume]
    exact invariant.consume_inside
  · rw [posted.tail, refillSlot]
    exact Window.slot_lt cfg.count_positive _ _
  · omega
  · have limit := posted.limit
    have same := invariant.inflight_exact
    omega
  · rw [posted.inflight, posted.posted, invariant.inflight_exact]
  · rw [posted.refill, posted.consume, counted, refillSlot, Window.slot_succ]
  · intro _
    rw [posted.tail, posted.consume, counted, Nat.add_sub_cancel]
    exact refillSlot
  · intro index inside
    rw [posted.buffers, posted.consume, counted, Window.member_grow, ← refillSlot,
      ← invariant.occupied index inside, Function.update_apply]
    by_cases here : index = before.rxBdRefillIndex <;> simp [here]
  · intro index owner inside owned
    rw [posted.buffers, Function.update_apply] at owned
    rw [posted.bds, Function.update_apply]
    by_cases here : index = before.rxBdRefillIndex
    · have same : rx = owner := by simpa [here] using owned
      simp only [here, if_true, same, true_and]
      exact programmed_length cfg
    · simp only [here, if_false] at owned ⊢
      exact invariant.programmed index owner inside owned
  · rw [posted.available, counted, Word32.inc_exact (by omega)]
    exact Word32.sub_exact (by omega) word

/-- Retiring leaves one slot fewer posted, without a wrap, for an owned first slot is a posted
one. -/
theorem Retired.posted_exact {cfg : Config} {before after : RxRing} {rx : Nat}
    {status : BitVec 32} (retired : Retired cfg before rx status after)
    (invariant : RxRingInvariant cfg before) :
    after.rxBdPosted = before.rxBdPosted - 1 := by
  have some_posted : 0 < before.rxBdPosted := owned_posted invariant retired.owned
  have fits := invariant.posted_fits
  have word := cfg.count_word
  rw [retired.posted, Word32.dec_exact some_posted (by omega)]

/-- Retiring shifts every position by one: what was second in the window is first. -/
theorem Retired.shifted {cfg : Config} {before after : RxRing} {rx : Nat} {status : BitVec 32}
    (retired : Retired cfg before rx status after) (position : Nat) :
    Window.slot cfg.rxBufferCount after.rxBdConsumeIndex position =
      Window.slot cfg.rxBufferCount before.rxBdConsumeIndex (position + 1) := by
  rw [retired.consume, Window.slot_advance]

/-- Retiring clears the first slot only, so the other descriptors of the window are as they were. -/
theorem Retired.later_bd {cfg : Config} {before after : RxRing} {rx : Nat} {status : BitVec 32}
    (retired : Retired cfg before rx status after) (invariant : RxRingInvariant cfg before)
    {position : Nat} (near : position + 1 < cfg.rxBufferCount) :
    after.rxBdRing (Window.slot cfg.rxBufferCount before.rxBdConsumeIndex (position + 1)) =
      before.rxBdRing (Window.slot cfg.rxBufferCount before.rxBdConsumeIndex (position + 1)) := by
  rw [retired.bds, Function.update_of_ne]
  exact Window.slot_ne_first invariant.consume_inside near

/-- Retiring the consume slot drops the first slot of the window and leaves the rest in place. -/
theorem retired_invariant {cfg : Config} {before after : RxRing} {rx : Nat} {status : BitVec 32}
    (invariant : RxRingInvariant cfg before) (retired : Retired cfg before rx status after) :
    RxRingInvariant cfg after := by
  have some_posted : 0 < before.rxBdPosted := owned_posted invariant retired.owned
  have fits := invariant.posted_fits
  have word := cfg.count_word
  have counted := retired.posted_exact invariant
  constructor
  · rw [retired.consume]
    exact Nat.mod_lt _ cfg.count_positive
  · rw [retired.tail]
    exact invariant.tail_inside
  · omega
  · have limit := invariant.posted_limited
    omega
  · rw [retired.inflight, retired.posted, invariant.inflight_exact, if_pos some_posted]
  · rw [retired.refill, retired.consume, counted, Window.slot_advance, invariant.refill_exact]
    congr 1
    omega
  · intro remaining
    rw [retired.tail, retired.consume, counted, Window.slot_advance,
      invariant.tail_exact some_posted]
    congr 1
    omega
  · intro index inside
    rw [retired.buffers, retired.consume, counted,
      Window.member_shrink invariant.consume_inside fits some_posted,
      ← invariant.occupied index inside, Function.update_apply]
    by_cases here : index = before.rxBdConsumeIndex <;> simp [here]
  · intro index owner inside owned
    rw [retired.buffers, Function.update_apply] at owned
    by_cases here : index = before.rxBdConsumeIndex
    · simp [here] at owned
    · rw [retired.bds, Function.update_of_ne here]
      simp only [here, if_false] at owned
      exact invariant.programmed index owner inside owned
  · rw [retired.available, counted, Word32.dec_exact some_posted (by omega)]
    exact Word32.sub_exact (by omega) word

/-- The swept ring is an empty window at index zero, whatever was in it. -/
theorem swept_invariant {cfg : Config} {before after : RxRing} {orphans : List Nat}
    (swept : Swept cfg before after orphans) : RxRingInvariant cfg after := by
  constructor
  · rw [swept.consume]
    exact cfg.count_positive
  · rw [swept.tail]
    exact cfg.count_positive
  · simp [swept.posted]
  · simp [swept.posted]
  · rw [swept.inflight, swept.posted]
  · rw [swept.refill, swept.consume, swept.posted, Window.slot_zero cfg.count_positive]
  · simp [swept.posted]
  · intro index inside
    have vacant : ¬ Window.Member cfg.rxBufferCount after.rxBdConsumeIndex 0 index :=
      Window.not_member_zero
    simpa [swept.posted, swept.buffers, inside] using vacant
  · intro index rx inside owned
    simp [swept.buffers, inside] at owned
  · rw [swept.available, swept.posted]
    exact Word32.sub_exact (Nat.zero_le _) cfg.count_word

/-- Starting the ring sets a flag and publishes a tail, and changes nothing that the invariant
mentions. -/
theorem armed_invariant {cfg : Config} {ring : RxRing} (invariant : RxRingInvariant cfg ring) :
    RxRingInvariant cfg (emzRxDirectArmTail ring).1 := by
  obtain ⟨consume, inside, fits, limited, inflight, refill, tail, occupied, programmed,
    available⟩ := invariant
  exact ⟨consume, inside, fits, limited, inflight, refill, tail, occupied, programmed, available⟩

/-- The memory holds another status word: the engine's write-back, or garbage. -/
def writeStatus (ring : RxRing) (index : Nat) (status : BitVec 32) : RxRing :=
  { ring with rxBdRing :=
      Function.update ring.rxBdRing index { ring.rxBdRing index with status := status } }

/-- No status word affects the invariant, so the engine may write what it likes. -/
theorem write_status_invariant {cfg : Config} {ring : RxRing}
    (invariant : RxRingInvariant cfg ring) (index : Nat) (status : BitVec 32) :
    RxRingInvariant cfg (writeStatus ring index status) := by
  obtain ⟨consume, inside, fits, limited, inflight, refill, tail, occupied, programmed,
    available⟩ := invariant
  refine ⟨consume, inside, fits, limited, inflight, refill, tail, occupied, ?_, available⟩
  intro slot rx near owned
  have exact := programmed slot rx near owned
  by_cases here : slot = index
  · subst here
    simpa [writeStatus] using exact
  · simpa [writeStatus, Function.update_of_ne here] using exact

/-- A post keeps the invariant, whether or not it succeeds. -/
theorem post_one_invariant {cfg : Config} {ring : RxRing} (invariant : RxRingInvariant cfg ring)
    (rx : Nat) : RxRingInvariant cfg (emzRxDirectPostOne cfg ring rx).1 := by
  rcases post_one_cases cfg ring rx with ⟨unchanged, _⟩ | ⟨after, succeeded, posted⟩
  · rw [unchanged]
    exact invariant
  · rw [succeeded]
    exact posted_invariant invariant posted

/-- The consume region keeps the invariant for every status word that it may read. -/
theorem consume_invariant {cfg : Config} {ring : RxRing} (invariant : RxRingInvariant cfg ring) :
    RxRingInvariant cfg (emzRxDirectConsume cfg ring).1 := by
  rcases consume_cases cfg ring with
    ⟨unchanged, _⟩ | ⟨unchanged, _⟩ | ⟨after, rx, status, taken, retired⟩
  · rw [unchanged]
    exact invariant
  · rw [unchanged]
    exact invariant
  · rw [taken]
    exact retired_invariant invariant retired

/-- The locked steps, in any order and from any context, and the writes of the
memory's other side. -/
inductive RingLabel where
  | postOne (rx : Nat)
  | consume
  | sweep
  | arm
  | write (index : Nat) (status : BitVec 32)

/-- One locked region of the driver as a step of the ring: post, consume, sweep or arm, or a
status word written by the engine. -/
def ringStep (cfg : Config) (ring : RxRing) : RingLabel → Option RxRing
  | .postOne rx => some (emzRxDirectPostOne cfg ring rx).1
  | .consume => some (emzRxDirectConsume cfg ring).1
  | .sweep => some (emzRxDirectSweep cfg ring).1
  | .arm => some (emzRxDirectArmTail ring).1
  | .write index status => some (writeStatus ring index status)

/-- Every locked step keeps the invariant, by the lemma for its region. -/
theorem ring_step_invariant {cfg : Config} {before after : RxRing} {label : RingLabel}
    (invariant : RxRingInvariant cfg before) (taken : ringStep cfg before label = some after) :
    RxRingInvariant cfg after := by
  cases label with
  | postOne rx => exact Option.some.inj taken ▸ post_one_invariant invariant rx
  | consume => exact Option.some.inj taken ▸ consume_invariant invariant
  | sweep => exact Option.some.inj taken ▸ swept_invariant (sweep_swept cfg before)
  | arm => exact Option.some.inj taken ▸ armed_invariant invariant
  | write index status =>
    exact Option.some.inj taken ▸ write_status_invariant invariant index status

/-- The orphans collected before an iteration are fewer than the array holds, so the sweep never
stores beyond its end. -/
theorem orphans_inside (cfg : Config) (ring : RxRing) {index : Nat}
    (inside : index < cfg.rxBufferCount) :
    (emzRxDirectSweepSlots ring index).2.length < cfg.rxBufferCount := by
  rw [(sweep_slots ring index).1]
  have bound := List.length_filterMap_le ring.rxBdBuffer (List.range index)
  rw [List.length_range] at bound
  omega

/-- The ring's representation after any sequence of locked steps over arbitrary status words: the
occupied slots are the window, the indices and counters agree with it, neither decrement nor the
availability difference wraps, the orphans array is never overrun, and every occupied slot is
programmed for its buffer.

Proof: the invariant of the ring is kept by each locked step. The tail, stated in the property
backwards from the refill index, is the last position of the window by arithmetic modulo the
ring's size. -/
theorem rx_ring_representation (cfg : Config) (ring : RxRing)
    (run : Run (ringStep cfg) Unrestricted (emzRxDirectStartRing cfg) ring) :
    (∀ index, index < cfg.rxBufferCount → ((ring.rxBdBuffer index).isSome ↔
      ∃ position, position < ring.rxBdPosted ∧
        index = (ring.rxBdConsumeIndex + position) % cfg.rxBufferCount)) ∧
    ring.rxBdConsumeIndex < cfg.rxBufferCount ∧
    ring.rxBdRefillIndex = (ring.rxBdConsumeIndex + ring.rxBdPosted) % cfg.rxBufferCount ∧
    (0 < ring.rxBdPosted → ring.rxBdTailIndex =
      (ring.rxBdRefillIndex + cfg.rxBufferCount - 1) % cfg.rxBufferCount) ∧
    ring.rxDmaInflight = ring.rxBdPosted ∧
    ring.rxBdPosted ≤ min cfg.rxBufferCount cfg.rxMaxInflight ∧
    (∀ after rx status, emzRxDirectConsume cfg ring = (after, .retired rx status) →
      after.rxBdPosted + 1 = ring.rxBdPosted ∧ after.rxDmaInflight + 1 = ring.rxDmaInflight) ∧
    ring.rxBdAvailableCurrent + ring.rxBdPosted = cfg.rxBufferCount ∧
    (∀ index, index < cfg.rxBufferCount →
      (emzRxDirectSweepSlots ring index).2.length < cfg.rxBufferCount) ∧
    (∀ index rx, index < cfg.rxBufferCount → ring.rxBdBuffer index = some rx →
      (ring.rxBdRing index).bufferAddress = cfg.rxBytes rx ∧
        (ring.rxBdRing index).control &&& bdCtrlLenMask ≠ 0#32) := by
  have invariant : RxRingInvariant cfg ring :=
    run.invariant (RxRingInvariant cfg) (start_ring_invariant cfg)
      (fun _ _ _ kept _ taken => ring_step_invariant kept taken)
  have fits := invariant.posted_fits
  refine ⟨invariant.occupied, invariant.consume_inside, invariant.refill_exact, ?_,
    invariant.inflight_exact, Nat.le_min.mpr ⟨fits, invariant.posted_limited⟩, ?_, ?_,
    fun index inside => orphans_inside cfg ring inside, invariant.programmed⟩
  · intro some_posted
    rw [invariant.tail_exact some_posted, invariant.refill_exact, Window.slot, Window.slot]
    have whole : (ring.rxBdConsumeIndex + ring.rxBdPosted) % cfg.rxBufferCount +
        cfg.rxBufferCount - 1 =
        (ring.rxBdConsumeIndex + ring.rxBdPosted) % cfg.rxBufferCount +
          (cfg.rxBufferCount - 1) := by
      have positive := cfg.count_positive
      omega
    rw [whole, Nat.mod_add_mod, ← Nat.add_mod_right (ring.rxBdConsumeIndex + (ring.rxBdPosted - 1))]
    congr 1
    have positive := cfg.count_positive
    omega
  · intro after rx status taken
    rcases consume_cases cfg ring with ⟨other, _⟩ | ⟨other, _⟩ | ⟨next, owner, word, same, retired⟩
    · simp [other] at taken
    · simp [other] at taken
    · rw [same] at taken
      obtain ⟨rfl, -⟩ := Prod.mk.inj taken
      have some_posted := owned_posted invariant retired.owned
      have word := cfg.count_word
      have exact := invariant.inflight_exact
      rw [retired.posted, retired.inflight, exact, if_pos some_posted,
        Word32.dec_exact some_posted (by omega)]
      omega
  · rw [invariant.available_exact]
    omega

/-- Two posts, a completion and a consume leave one posted slot behind the
consume index; the refill index wraps to the retired slot. -/
theorem rx_ring_representation_wraps :
    ∃ ring, Run (ringStep twoBufferConfig) Unrestricted
        (emzRxDirectStartRing twoBufferConfig) ring ∧
      ring.rxBdConsumeIndex = 1 ∧ ring.rxBdPosted = 1 ∧
      ring.rxBdRefillIndex = (ring.rxBdConsumeIndex + ring.rxBdPosted) % 2 := by
  obtain ⟨ring, run, reached⟩ := run_of_execution (ringStep twoBufferConfig) (fun _ _ => true)
    (emzRxDirectStartRing twoBufferConfig)
    [.postOne 0, .postOne 1, .write 0 0x80000040#32, .consume]
    (fun ring => decide (ring.rxBdConsumeIndex = 1 ∧ ring.rxBdPosted = 1))
    (fun _ _ _ => trivial) (by decide)
  obtain ⟨consumed, posted⟩ := of_decide_eq_true reached
  exact ⟨ring, run, consumed, posted, (rx_ring_representation twoBufferConfig ring run).2.2.1⟩

end EmaczZephyr.Driver
