import EmaczZephyr.Driver.RxWatermarks

/-!
# When the receive watermarks are extremes

Every operation is made of moves: a figure stored by a locked region, a count
changed, a buffer passed on. A move keeps the ring's representation, the account
of posted and free buffers, and the facts that tie the marks to their histories;
and while not every buffer can be posted, no availability of zero is stored. The
operations then differ in whether they touch the ring at all and whether they
reach a full ring.
-/

namespace EmaczZephyr.Driver.Whole

open Runs Watermark

variable {cfg : Config}

/-- The ring with the availability figure that its slots call for. The wipe clears
that figure, and no locked region reads it. -/
def settled (cfg : Config) (ring : RxRing) : RxRing :=
  { ring with rxBdAvailableCurrent := cfg.rxBufferCount - ring.rxBdPosted }

/-- The ring's representation, and as many recorded buffers as posted slots. -/
structure RingSound (cfg : Config) (ring : RxRing) : Prop where
  represented : RxRingInvariant cfg (settled cfg ring)
  recorded : (Window.contents cfg.rxBufferCount ring.rxBdBuffer).length = ring.rxBdPosted

/-- A represented ring stays represented when its availability figure is settled to the number it
should show. -/
theorem represented_settled {ring : RxRing} (invariant : RxRingInvariant cfg ring) :
    RxRingInvariant cfg (settled cfg ring) := by
  obtain ⟨consume, inside, fits, limited, inflight, refill, tail, occupied, programmed, -⟩ :=
    invariant
  exact ⟨consume, inside, fits, limited, inflight, refill, tail, occupied, programmed, rfl⟩

/-- What a region that stores the ring's figures leaves behind. -/
structure StoredRing (cfg : Config) (ring : RxRing) (count : Nat) : Prop where
  sound : RingSound cfg ring
  posted : ring.rxBdPosted = count
  inflight : ring.rxDmaInflight = count
  available : ring.rxBdAvailableCurrent = cfg.rxBufferCount - count

/-- The stored figures are those of the representation, once the slots are counted. -/
theorem StoredRing.of_invariant {ring : RxRing} {count : Nat}
    (invariant : RxRingInvariant cfg ring)
    (recorded : (Window.contents cfg.rxBufferCount ring.rxBdBuffer).length = ring.rxBdPosted)
    (counted : ring.rxBdPosted = count) : StoredRing cfg ring count where
  sound := ⟨represented_settled invariant, recorded⟩
  posted := counted
  inflight := invariant.inflight_exact.trans counted
  available := by rw [invariant.available_exact, counted]

/-- A post refuses a full ring or one at the inflight limit; otherwise one more slot
is posted. -/
theorem post_region {ring : RxRing} (sound : RingSound cfg ring) (rx : Nat) :
    (Driver.emzRxDirectPostOne cfg ring rx = (ring, false) ∧
      (cfg.rxBufferCount ≤ ring.rxBdPosted ∨ cfg.rxMaxInflight ≤ ring.rxBdPosted)) ∨
    ∃ after, Driver.emzRxDirectPostOne cfg ring rx = (after, true) ∧
      ring.rxBdPosted < cfg.rxBufferCount ∧ ring.rxBdPosted < cfg.rxMaxInflight ∧
      (Window.contents cfg.rxBufferCount after.rxBdBuffer).Perm
        (Window.contents cfg.rxBufferCount ring.rxBdBuffer ++ [rx]) ∧
      StoredRing cfg after (ring.rxBdPosted + 1) := by
  have invariant := sound.represented
  have inflight : ring.rxDmaInflight = ring.rxBdPosted := invariant.inflight_exact
  have free_iff : ring.rxBdBuffer ring.rxBdRefillIndex = none ↔
      ring.rxBdPosted < cfg.rxBufferCount := @refill_free_iff cfg (settled cfg ring) invariant
  rcases post_one_cases cfg ring rx with ⟨refused, why⟩ | ⟨after, succeeded, posted⟩
  · refine .inl ⟨refused, ?_⟩
    rcases why with occupied | limited
    · refine .inl (Nat.le_of_not_lt fun room => ?_)
      rw [free_iff.mpr room] at occupied
      cases occupied
    · exact .inr (inflight ▸ limited)
  · have room := free_iff.mp posted.free
    have limit : ring.rxBdPosted < cfg.rxMaxInflight := inflight ▸ posted.limit
    obtain ⟨free, under, bds, buffers, consume, refill, tail, count, flight, started, available⟩ :=
      posted
    -- The availability before the post appears nowhere in what the post does.
    have moved : Posted cfg (settled cfg ring) rx after :=
      ⟨free, under, bds, buffers, consume, refill, tail, count, flight, started, available⟩
    have word := cfg.count_word
    have counted : after.rxBdPosted = ring.rxBdPosted + 1 := by
      rw [count, Word32.inc_exact (by omega)]
    have filled : (Window.contents cfg.rxBufferCount after.rxBdBuffer).Perm
        (Window.contents cfg.rxBufferCount ring.rxBdBuffer ++ [rx]) :=
      @posted_contents cfg (settled cfg ring) after rx invariant moved
    refine .inr ⟨after, succeeded, room, limit, filled,
      .of_invariant (posted_invariant invariant moved) ?_ counted⟩
    rw [counted, ← sound.recorded, filled.length_eq, List.length_append, List.length_singleton]

/-- A retired slot is posted no longer, and its buffer is the one that the slots have lost. -/
theorem retire_region {ring after : RxRing} {rx : Nat} {status : BitVec 32}
    (sound : RingSound cfg ring) (retired : Retired cfg ring rx status after) :
    0 < ring.rxBdPosted ∧ StoredRing cfg after (ring.rxBdPosted - 1) ∧
      (Window.contents cfg.rxBufferCount after.rxBdBuffer ++ [rx]).Perm
        (Window.contents cfg.rxBufferCount ring.rxBdBuffer) := by
  have invariant := sound.represented
  obtain ⟨owned, read, finished, bds, buffers, consume, refill, tail, count, flight, started,
    available⟩ := retired
  have moved : Retired cfg (settled cfg ring) rx status after :=
    ⟨owned, read, finished, bds, buffers, consume, refill, tail, count, flight, started, available⟩
  have some_posted : 0 < ring.rxBdPosted :=
    @owned_posted cfg (settled cfg ring) invariant _ moved.owned
  have counted : after.rxBdPosted = ring.rxBdPosted - 1 := moved.posted_exact invariant
  have emptied : (Window.contents cfg.rxBufferCount after.rxBdBuffer ++ [rx]).Perm
      (Window.contents cfg.rxBufferCount ring.rxBdBuffer) :=
    @retired_contents cfg (settled cfg ring) after rx status invariant moved
  refine ⟨some_posted, .of_invariant (retired_invariant invariant moved) ?_ counted, emptied⟩
  have whole := emptied.length_eq
  rw [sound.recorded, List.length_append, List.length_singleton] at whole
  omega

/-- The sweep returns every posted buffer and leaves an empty ring, whose figures it stores. -/
theorem sweep_region (cfg : Config) (ring : RxRing) :
    (emzRxDirectSweep cfg ring).2 = Window.contents cfg.rxBufferCount ring.rxBdBuffer ∧
    Window.contents cfg.rxBufferCount (emzRxDirectSweep cfg ring).1.rxBdBuffer = [] ∧
    StoredRing cfg (emzRxDirectSweep cfg ring).1 0 := by
  have swept := sweep_swept cfg ring
  refine ⟨swept.orphans, swept_contents swept, .of_invariant (swept_invariant swept) ?_
    swept.posted⟩
  rw [swept_contents swept, swept.posted]
  rfl

/-- Status words are no part of the ring's account, so any of them may be written. -/
theorem write_region {ring : RxRing} (sound : RingSound cfg ring) (index : Nat)
    (status : BitVec 32) : RingSound cfg (writeStatus ring index status) :=
  ⟨write_status_invariant sound.represented index status, sound.recorded⟩

/-- The words of a turn are written one after the other and change neither slots nor figures, by
induction on the words. -/
theorem write_back_region (turn : PollTurn) {ring : RxRing} (sound : RingSound cfg ring) :
    RingSound cfg (turn.writeBack ring) ∧ (turn.writeBack ring).rxBdBuffer = ring.rxBdBuffer ∧
      (turn.writeBack ring).rxBdPosted = ring.rxBdPosted ∧
      (turn.writeBack ring).rxBdAvailableMin = ring.rxBdAvailableMin ∧
      (turn.writeBack ring).rxDmaInflight = ring.rxDmaInflight := by
  obtain ⟨words, interceptor, drop⟩ := turn
  simp only [PollTurn.writeBack]
  induction words generalizing ring with
  | nil => exact ⟨sound, rfl, rfl, rfl, rfl⟩
  | cons word words inductionHypothesis =>
    exact inductionHypothesis (write_region sound word.1 word.2)

/-- A stored availability never lifts a mark of zero, because only smaller values are taken. -/
theorem available_min_stuck {ring : RxRing} (wiped : ring.rxBdAvailableMin = 0) :
    (emzPerfSetBdAvailable cfg ring).rxBdAvailableMin = 0 := by
  simp only [emzPerfSetBdAvailable, wiped, Nat.not_lt_zero, if_false]

/-- A post stores an availability, and leaves a mark of zero at zero. -/
theorem post_min_stuck {ring after : RxRing} {rx : Nat} (wiped : ring.rxBdAvailableMin = 0)
    (succeeded : Driver.emzRxDirectPostOne cfg ring rx = (after, true)) :
    after.rxBdAvailableMin = 0 := by
  simp only [Driver.emzRxDirectPostOne] at succeeded
  split at succeeded
  · cases succeeded
  · split at succeeded
    · cases succeeded
    · obtain ⟨rfl, -⟩ := Prod.mk.inj succeeded
      exact available_min_stuck wiped

/-- Retiring a slot does so too. -/
theorem retire_min_stuck {ring after : RxRing} {rx : Nat} {status : BitVec 32}
    (wiped : ring.rxBdAvailableMin = 0)
    (taken : emzRxDirectConsume cfg ring = (after, .retired rx status)) :
    after.rxBdAvailableMin = 0 := by
  simp only [emzRxDirectConsume] at taken
  split at taken
  · split at taken
    · cases taken
    · obtain ⟨rfl, -⟩ := Prod.mk.inj taken
      exact available_min_stuck wiped
  · cases taken

/-- The sweep changes slots only and then stores an availability, and leaves a mark of zero at
zero. -/
theorem sweep_min_stuck {ring : RxRing} (wiped : ring.rxBdAvailableMin = 0) :
    (emzRxDirectSweep cfg ring).1.rxBdAvailableMin = 0 := by
  have slots (count : Nat) : (emzRxDirectSweepSlots ring count).1.rxBdAvailableMin = 0 := by
    induction count with
    | zero => exact wiped
    | succ count inductionHypothesis =>
      have next : emzRxDirectSweepSlots ring (count + 1) =
          emzRxDirectSweepSlot (emzRxDirectSweepSlots ring count) count := by
        simp [emzRxDirectSweepSlots, List.range_succ]
      rw [next]
      dsimp only [emzRxDirectSweepSlot]
      split <;> exact inductionHypothesis
  exact available_min_stuck (slots cfg.rxBufferCount)

/-- The facts about the marks that every operation keeps after the wipe. The
availability mark is stuck at zero. The inflight mark need not be right, but a stored
availability of zero means that the whole ring was inflight. -/
structure Tracks (cfg : Config) (availableMin : Nat) (perf : RxPerf) (observed : RxObserved) :
    Prop where
  wiped : availableMin = 0
  together : observed.dmaInflight = [] ↔ observed.available = []
  dma_bounded : ∀ value ∈ observed.dmaInflight, value ≤ cfg.rxBufferCount
  mark_bounded : perf.rxMaxDmaInflight ≤ cfg.rxBufferCount
  full : 0 ∈ observed.available →
    cfg.rxBufferCount ∈ observed.dmaInflight ∧ cfg.rxBufferCount ≤ perf.rxMaxDmaInflight
  min_free : Extreme (· < ·) 4294967295 observed.minFree perf.rxMinFree
  pool_high : Extreme (· > ·) 0 observed.poolInflight perf.rxPoolInflightHigh
  poll_max : Extreme (· > ·) 0 observed.pollCompleted perf.rxPollCompletedMax

/-- The record that the wipe leaves: all marks at their wiped values, and nothing observed. -/
theorem tracks_wiped (cfg : Config) : Tracks cfg 0 .cleared .nothing where
  wiped := rfl
  together := Iff.rfl
  dma_bounded := by simp [RxObserved.nothing]
  mark_bounded := Nat.zero_le _
  full := by simp [RxObserved.nothing]
  min_free := .fresh
  pool_high := .fresh
  poll_max := .fresh

section Tracks

variable {availableMin : Nat} {perf : RxPerf} {observed : RxObserved}

/-- The pool accounting offers the pool's inflight figure to its mark, and observes the same
figure. -/
theorem Tracks.update_pool (state : WatchedRx)
    (tracks : Tracks cfg availableMin state.perf state.observed) :
    Tracks cfg availableMin (emzPerfUpdatePoolInflight cfg state).perf
      (emzPerfUpdatePoolInflight cfg state).observed :=
  { tracks with pool_high := tracks.pool_high.offered (Nat.not_lt_zero _) }

/-- A poll offers the number of its completions to its mark. -/
theorem Tracks.polled (tracks : Tracks cfg availableMin perf observed) (completed : Nat) :
    Tracks cfg availableMin
      { perf with rxPollCompletedMax := emzPerfSetMaxU32 perf.rxPollCompletedMax completed }
      { observed with pollCompleted := observed.pollCompleted ++ [completed] } :=
  { tracks with poll_max := tracks.poll_max.offered (Nat.not_lt_zero _) }

/-- An atomic counter read as `uint32_t` is a word, negative or not. -/
theorem asUint32_word (count : Int) : asUint32 count ≤ 4294967295 := by
  unfold asUint32
  omega

/-- A refill offers the free count that it observes to its mark. -/
theorem Tracks.queued {state : WatchedRx}
    (tracks : Tracks cfg availableMin state.perf state.observed) :
    Tracks cfg availableMin (emzRxDirectCountQueued cfg state).perf
      (emzRxDirectCountQueued cfg state).observed := by
  have uncounted := Tracks.update_pool { state with
    counts := { state.counts with rxFreeCount := state.counts.rxFreeCount - 1 } } tracks
  exact { uncounted with
    min_free := tracks.min_free.offered (Nat.not_lt.mpr (asUint32_word _)) }

/-- A region that stores the figures of a ring with some slots posted. The inflight
mark does not fall, and it reaches the buffer count when the ring is full. -/
theorem Tracks.stored (tracks : Tracks cfg availableMin perf observed) {ring : RxRing}
    {posted mark : Nat} (stored : StoredRing cfg ring posted) (stuck : ring.rxBdAvailableMin = 0)
    (fits : posted ≤ cfg.rxBufferCount) (kept : perf.rxMaxDmaInflight ≤ mark)
    (small : mark ≤ cfg.rxBufferCount) (reaches : posted = cfg.rxBufferCount → mark = posted) :
    Tracks cfg ring.rxBdAvailableMin { perf with rxMaxDmaInflight := mark } { observed with
      available := observed.available ++ [ring.rxBdAvailableCurrent]
      dmaInflight := observed.dmaInflight ++ [ring.rxDmaInflight] } := by
  rw [stored.available, stored.inflight]
  refine { tracks with
    wiped := stuck, together := by simp, dma_bounded := ?_, mark_bounded := small, full := ?_ }
  · intro value member
    rcases List.mem_append.mp member with earlier | last
    · exact tracks.dma_bounded value earlier
    · rwa [List.mem_singleton.mp last]
  · intro zero
    rcases List.mem_append.mp zero with earlier | last
    · obtain ⟨noted, reached⟩ := tracks.full earlier
      exact ⟨List.mem_append_left _ noted, reached.trans kept⟩
    · have whole : posted = cfg.rxBufferCount := by
        have none_open := List.mem_singleton.mp last
        omega
      exact ⟨by simp [whole], (reaches whole).trans whole |>.ge⟩

end Tracks

/-- The worker's buffer and count, the fragments of the stack and the stack-owned
figures are as they were. -/
structure Untouched (before after : WatchedRx) : Prop where
  worker : after.workerBuffer = before.workerBuffer
  worker_count : after.counts.rxWorkerCount = before.counts.rxWorkerCount
  fragments : after.stackFragments = before.stackFragments
  counted : after.counts.rxStackOwnedCount = before.counts.rxStackOwnedCount
  observed : after.observed.stackOwned = before.observed.stackOwned
  mark : after.perf.rxMaxStackOwned = before.perf.rxMaxStackOwned

/-- What two moves one after the other leave untouched, they leave untouched together. -/
theorem Untouched.trans {before between after : WatchedRx} (first : Untouched before between)
    (second : Untouched between after) : Untouched before after :=
  ⟨second.worker.trans first.worker, second.worker_count.trans first.worker_count,
    second.fragments.trans first.fragments, second.counted.trans first.counted,
    second.observed.trans first.observed, second.mark.trans first.mark⟩

/-- The buffers in the driver's FIFOs and its ring, that is those with neither the worker nor the
stack. -/
def pooled (cfg : Config) (state : WatchedRx) : List Nat :=
  state.rxFreeFifo ++ Window.contents cfg.rxBufferCount state.ring.rxBdBuffer ++ state.rxReadyFifo

/-- Part of an operation on the ring and the free pool. Buffers leave the spare ones
for the ready FIFO only, and no availability of zero is stored unless every buffer
of the pool is spare and may be posted. -/
structure Moves (cfg : Config) (before after : WatchedRx) : Prop where
  sound : RingSound cfg after.ring
  kept : (pooled cfg after).Perm (pooled cfg before)
  fewer : spare after ≤ spare before
  tracks : Tracks cfg before.ring.rxBdAvailableMin before.perf before.observed →
    Tracks cfg after.ring.rxBdAvailableMin after.perf after.observed
  grown : before.observed.available <+: after.observed.available
  low : spare before < cfg.rxBufferCount ∨ cfg.rxMaxInflight < cfg.rxBufferCount →
    0 ∉ before.observed.available → 0 ∉ after.observed.available
  untouched : Untouched before after

/-- Two moves one after the other are a move. -/
theorem Moves.trans {before between after : WatchedRx} (first : Moves cfg before between)
    (second : Moves cfg between after) : Moves cfg before after where
  sound := second.sound
  kept := second.kept.trans first.kept
  fewer := second.fewer.trans first.fewer
  tracks := fun tracks => second.tracks (first.tracks tracks)
  grown := first.grown.trans second.grown
  low := fun scarce absent =>
    second.low (scarce.imp_left first.fewer.trans_lt) (first.low scarce absent)
  untouched := first.untouched.trans second.untouched

/-- The buffers of a represented ring and its FIFOs are as many as its counts say. -/
theorem RingSound.pooled_length {state : WatchedRx} (sound : RingSound cfg state.ring) :
    (pooled cfg state).length = spare state + state.rxReadyFifo.length := by
  rw [pooled, List.length_append, List.length_append, sound.recorded, spare,
    Nat.add_comm state.ring.rxBdPosted]

/-- A change of the pool's counters and of the ring's status words only is a move that stores no
availability. -/
theorem Moves.counted {before after : WatchedRx} (sound : RingSound cfg after.ring)
    (buffers : after.ring.rxBdBuffer = before.ring.rxBdBuffer)
    (posted : after.ring.rxBdPosted = before.ring.rxBdPosted)
    (free : after.rxFreeFifo.Perm before.rxFreeFifo)
    (ready : after.rxReadyFifo = before.rxReadyFifo)
    (tracks : Tracks cfg before.ring.rxBdAvailableMin before.perf before.observed →
      Tracks cfg after.ring.rxBdAvailableMin after.perf after.observed)
    (available : after.observed.available = before.observed.available)
    (untouched : Untouched before after) : Moves cfg before after where
  sound := sound
  kept := by
    rw [pooled, pooled, buffers, ready]
    exact (free.append_right _).append_right _
  fewer := by rw [spare, spare, posted, free.length_eq]
  tracks := tracks
  grown := available ▸ List.prefix_rfl
  low := fun _ absent => available ▸ absent
  untouched := untouched

/-- A move that stores one availability is a move, with an open slot unless the pool was whole
and the limit allowed it. -/
theorem Moves.stored {before after : WatchedRx} {posted : Nat} (sound : RingSound cfg after.ring)
    (kept : (pooled cfg after).Perm (pooled cfg before)) (fewer : spare after ≤ spare before)
    (tracks : Tracks cfg before.ring.rxBdAvailableMin before.perf before.observed →
      Tracks cfg after.ring.rxBdAvailableMin after.perf after.observed)
    (available : after.observed.available =
      before.observed.available ++ [cfg.rxBufferCount - posted])
    (open_slot : spare before < cfg.rxBufferCount ∨ cfg.rxMaxInflight < cfg.rxBufferCount →
      posted < cfg.rxBufferCount)
    (untouched : Untouched before after) : Moves cfg before after where
  sound := sound
  kept := kept
  fewer := fewer
  tracks := tracks
  grown := available ▸ List.prefix_append _ _
  low := by
    intro scarce absent zero
    rw [available] at zero
    rcases List.mem_append.mp zero with earlier | last
    · exact absent earlier
    · have none_open := List.mem_singleton.mp last
      have room := open_slot scarce
      omega
  untouched := untouched

/-- A buffer taken from the free FIFO, posted and counted. -/
structure Queued (cfg : Config) (before after : WatchedRx) : Prop where
  moves : Moves cfg before after
  posted : after.ring.rxBdPosted = before.ring.rxBdPosted + 1
  available : after.observed.available =
    before.observed.available ++ [cfg.rxBufferCount - (before.ring.rxBdPosted + 1)]

/-- The highest inflight count after a post: it has not fallen, is within the ring, and shows a
full ring. -/
theorem set_max_posted {mark posted : Nat} (bounded : mark ≤ cfg.rxBufferCount)
    (fits : posted ≤ cfg.rxBufferCount) :
    mark ≤ emzPerfSetMaxU32 mark posted ∧ emzPerfSetMaxU32 mark posted ≤ cfg.rxBufferCount ∧
      (posted = cfg.rxBufferCount → emzPerfSetMaxU32 mark posted = posted) := by
  unfold emzPerfSetMaxU32
  split <;> omega

/-- A post's locked region and its counting keep the marks tied to their histories. -/
theorem Tracks.posted {state : WatchedRx} {ring : RxRing} {posted : Nat}
    (tracks : Tracks cfg state.ring.rxBdAvailableMin state.perf state.observed)
    (fits : posted ≤ cfg.rxBufferCount) (stuck : ring.rxBdAvailableMin = 0)
    (stored : StoredRing cfg ring posted) :
    Tracks cfg ring.rxBdAvailableMin (emzRxDirectCountPosted cfg state ring).perf
      (emzRxDirectCountPosted cfg state ring).observed := by
  obtain ⟨rises, small, reaches⟩ := set_max_posted tracks.mark_bounded fits
  have noted := tracks.stored stored stuck fits rises small reaches
  rw [← stored.inflight] at noted
  refine Tracks.update_pool _ ?_
  exact noted

/-- A successful post of the buffer that heads the free FIFO is a move. -/
theorem posted_queued {state : WatchedRx} {ring : RxRing} {rx : Nat} {rest : List Nat}
    (next : state.rxFreeFifo = rx :: rest)
    (succeeded : Driver.emzRxDirectPostOne cfg state.ring rx = (ring, true))
    (room : state.ring.rxBdPosted < cfg.rxBufferCount)
    (limit : state.ring.rxBdPosted < cfg.rxMaxInflight)
    (filled : (Window.contents cfg.rxBufferCount ring.rxBdBuffer).Perm
      (Window.contents cfg.rxBufferCount state.ring.rxBdBuffer ++ [rx]))
    (stored : StoredRing cfg ring (state.ring.rxBdPosted + 1)) :
    Queued cfg state (emzRxDirectCountQueued cfg
      (emzRxDirectCountPosted cfg { state with rxFreeFifo := rest } ring)) := by
  have available : (emzRxDirectCountQueued cfg (emzRxDirectCountPosted cfg
      { state with rxFreeFifo := rest } ring)).observed.available =
      state.observed.available ++ [cfg.rxBufferCount - (state.ring.rxBdPosted + 1)] := by
    rw [← stored.available]
    rfl
  have spared : spare state = state.ring.rxBdPosted + (rest.length + 1) := by
    rw [spare, next, List.length_cons]
  have kept : spare (emzRxDirectCountQueued cfg (emzRxDirectCountPosted cfg
      { state with rxFreeFifo := rest } ring)) = spare state := by
    have now : spare (emzRxDirectCountQueued cfg (emzRxDirectCountPosted cfg
        { state with rxFreeFifo := rest } ring)) = ring.rxBdPosted + rest.length := rfl
    rw [now, spared, stored.posted]
    omega
  refine ⟨.stored stored.sound ?_ kept.le ?_ available ?_ ⟨rfl, rfl, rfl, rfl, rfl, rfl⟩,
    stored.posted, available⟩
  · have now : pooled cfg (emzRxDirectCountQueued cfg (emzRxDirectCountPosted cfg
        { state with rxFreeFifo := rest } ring)) =
        rest ++ Window.contents cfg.rxBufferCount ring.rxBdBuffer ++ state.rxReadyFifo := rfl
    rw [now, pooled, next, List.perm_iff_count]
    intro buffer
    simp only [List.count_append, List.count_cons, filled.count_eq, List.count_nil]
    omega
  · intro tracks
    exact (tracks.posted room (post_min_stuck tracks.wiped succeeded) stored).queued
  · omega

/-- A refill's iteration hands its buffer back, because of the slots or the limit, or queues it
and stores the figures. -/
theorem queue_one {state : WatchedRx} {rx : Nat} {rest : List Nat}
    (sound : RingSound cfg state.ring) (next : state.rxFreeFifo = rx :: rest) :
    (emzRxDirectPostOne cfg { state with rxFreeFifo := rest } rx =
        ({ state with rxFreeFifo := rest }, false) ∧
      (cfg.rxBufferCount ≤ state.ring.rxBdPosted ∨ cfg.rxMaxInflight ≤ state.ring.rxBdPosted)) ∨
    ∃ posted, emzRxDirectPostOne cfg { state with rxFreeFifo := rest } rx = (posted, true) ∧
      state.ring.rxBdPosted < cfg.rxBufferCount ∧ state.ring.rxBdPosted < cfg.rxMaxInflight ∧
      (emzRxDirectCountQueued cfg posted).rxFreeFifo = rest ∧
      Queued cfg state (emzRxDirectCountQueued cfg posted) := by
  rcases post_region sound rx with ⟨refused, why⟩ |
    ⟨ring, succeeded, room, limit, filled, stored⟩
  · exact .inl ⟨by simp only [emzRxDirectPostOne, refused], why⟩
  · exact .inr ⟨emzRxDirectCountPosted cfg { state with rxFreeFifo := rest } ring,
      by simp only [emzRxDirectPostOne, succeeded], room, limit, rfl,
      posted_queued next succeeded room limit filled stored⟩

/-- The loop of a refill is a sequence of moves. Induction takes the buffers in the
order of the FIFO. -/
theorem refill_loop_moves (fifo : List Nat) (state : WatchedRx) (queued : Nat)
    (sound : RingSound cfg state.ring) (holds : state.rxFreeFifo = fifo) :
    Moves cfg state (emzRxDirectRefillLoop cfg fifo state queued).1 := by
  induction fifo generalizing state queued with
  | nil =>
    exact .counted sound rfl rfl (.of_eq holds.symm) rfl id rfl
      ⟨rfl, rfl, rfl, rfl, rfl, rfl⟩
  | cons rx rest inductionHypothesis =>
    rcases queue_one sound holds with ⟨refused, -⟩ | ⟨posted, succeeded, -, -, left, queuedOne⟩
    · simp only [emzRxDirectRefillLoop, refused]
      refine .counted sound rfl rfl ?_ rfl id rfl ⟨rfl, rfl, rfl, rfl, rfl, rfl⟩
      rw [holds]
      exact List.perm_append_singleton rx rest
    · simp only [emzRxDirectRefillLoop, succeeded]
      exact queuedOne.moves.trans (inductionHypothesis _ _ queuedOne.moves.sound left)

/-- A refill is a move, whatever number of buffers it queues. -/
theorem refill_moves {state : WatchedRx} (sound : RingSound cfg state.ring) :
    Moves cfg state (emzRxDirectRefill cfg state).1 :=
  refill_loop_moves _ state 0 sound rfl

/-- When every buffer is posted or free and all may be posted, the loop goes on to
the last slot, where it stores an availability of zero. -/
theorem refill_loop_fills (fifo : List Nat) (state : WatchedRx) (queued : Nat)
    (sound : RingSound cfg state.ring) (holds : state.rxFreeFifo = fifo)
    (permitted : cfg.rxBufferCount ≤ cfg.rxMaxInflight) (whole : spare state = cfg.rxBufferCount)
    (room : state.ring.rxBdPosted < cfg.rxBufferCount) :
    0 ∈ (emzRxDirectRefillLoop cfg fifo state queued).1.observed.available := by
  induction fifo generalizing state queued with
  | nil =>
    rw [spare, holds, List.length_nil] at whole
    omega
  | cons rx rest inductionHypothesis =>
    rcases queue_one sound holds with ⟨-, why⟩ | ⟨posted, succeeded, -, -, left, queuedOne⟩
    · omega
    · simp only [emzRxDirectRefillLoop, succeeded]
      by_cases last : state.ring.rxBdPosted + 1 = cfg.rxBufferCount
      · have grown := (refill_loop_moves rest _ (queued + 1) queuedOne.moves.sound left).grown
        refine grown.subset ?_
        rw [queuedOne.available, last, Nat.sub_self]
        exact List.mem_append_right _ (List.mem_singleton_self 0)
      · have total : spare (emzRxDirectCountQueued cfg posted) = spare state := by
          rw [spare, spare, queuedOne.posted, left, holds, List.length_cons]
          omega
        have posted_more := queuedOne.posted
        exact inductionHypothesis _ _ queuedOne.moves.sound left (total.trans whole) (by omega)

/-- A refill with the whole pool at hand and a permitting limit fills the ring, and so observes
an availability of zero. -/
theorem refill_fills {state : WatchedRx} (sound : RingSound cfg state.ring)
    (permitted : cfg.rxBufferCount ≤ cfg.rxMaxInflight) (whole : spare state = cfg.rxBufferCount)
    (room : state.ring.rxBdPosted < cfg.rxBufferCount) :
    0 ∈ (emzRxDirectRefill cfg state).1.observed.available :=
  refill_loop_fills _ state 0 sound rfl permitted whole room

/-- A refill stores no availability when it has no buffer or may not post it, and
stores one otherwise. -/
theorem refill_stores_iff {state : WatchedRx} (sound : RingSound cfg state.ring) :
    (emzRxDirectRefill cfg state).1.observed.available = state.observed.available ↔
      state.rxFreeFifo = [] ∨ cfg.rxBufferCount ≤ state.ring.rxBdPosted ∨
        cfg.rxMaxInflight ≤ state.ring.rxBdPosted := by
  unfold emzRxDirectRefill
  cases holds : state.rxFreeFifo with
  | nil => simp [emzRxDirectRefillLoop]
  | cons rx rest =>
    rcases queue_one sound holds with ⟨refused, why⟩ |
      ⟨posted, succeeded, room, limit, left, queuedOne⟩
    · simp only [emzRxDirectRefillLoop, refused, true_iff]
      exact .inr why
    · simp only [emzRxDirectRefillLoop, succeeded]
      refine iff_of_false ?_ (by simp; omega)
      intro unchanged
      have grown := (refill_loop_moves rest _ (0 + 1) queuedOne.moves.sound left).grown.length_le
      rw [unchanged, queuedOne.available, List.length_append] at grown
      exact absurd grown (Nat.not_succ_le_self _)

/-- With an open slot, a refill stores an availability of zero exactly when every
buffer is spare and all may be posted. -/
theorem refill_zero_iff {state : WatchedRx} (sound : RingSound cfg state.ring)
    (some_open : 0 ∉ state.observed.available) (within : spare state ≤ cfg.rxBufferCount)
    (room : state.ring.rxBdPosted < cfg.rxBufferCount) :
    0 ∈ (emzRxDirectRefill cfg state).1.observed.available ↔
      cfg.rxBufferCount ≤ cfg.rxMaxInflight ∧ spare state = cfg.rxBufferCount := by
  constructor
  · intro zero
    by_contra scarce
    exact (refill_moves sound).low (by omega) some_open zero
  · rintro ⟨permitted, whole⟩
    exact refill_fills sound permitted whole room

/-- The histories of availabilities with which the mark of zero agrees. -/
def Covered (state : WatchedRx) : Prop :=
  state.observed.available = [] ∨ 0 ∈ state.observed.available

/-- The first refill after the wipe is covered exactly if it stores nothing, or fills the ring;
then the mark of zero is right. -/
theorem refill_covered_iff {state : WatchedRx} (sound : RingSound cfg state.ring)
    (fresh : state.observed.available = []) (within : spare state ≤ cfg.rxBufferCount) :
    Covered (emzRxDirectRefill cfg state).1 ↔
      (state.rxFreeFifo = [] ∨ cfg.rxBufferCount ≤ state.ring.rxBdPosted ∨
        cfg.rxMaxInflight ≤ state.ring.rxBdPosted) ∨
      cfg.rxBufferCount ≤ cfg.rxMaxInflight ∧ spare state = cfg.rxBufferCount := by
  have stores := refill_stores_iff sound
  rw [fresh] at stores
  rw [Covered, stores]
  by_cases room : state.ring.rxBdPosted < cfg.rxBufferCount
  · rw [refill_zero_iff sound (by simp [fresh]) within room]
  · have full : cfg.rxBufferCount ≤ state.ring.rxBdPosted := Nat.le_of_not_lt room
    simp [full]

/-- A returned buffer is one more spare one; nothing else that the marks depend on
changes. -/
structure Returned (cfg : Config) (before : WatchedRx) (rx : Nat) (after : WatchedRx) : Prop where
  ring : after.ring = before.ring
  spared : spare after = spare before + 1
  free : after.rxFreeFifo = before.rxFreeFifo ++ [rx]
  ready : after.rxReadyFifo = before.rxReadyFifo
  tracks : Tracks cfg before.ring.rxBdAvailableMin before.perf before.observed →
    Tracks cfg after.ring.rxBdAvailableMin after.perf after.observed
  available : after.observed.available = before.observed.available
  untouched : Untouched before after

/-- Returning a buffer adds it to the free ones and changes nothing of the ring. -/
theorem return_returned (cfg : Config) (state : WatchedRx) (rx : Nat) :
    Returned cfg state rx (emzReturnRxBuffer cfg state rx) where
  ring := rfl
  spared := by
    have longer : (emzReturnRxBuffer cfg state rx).rxFreeFifo = state.rxFreeFifo ++ [rx] := rfl
    rw [spare, spare, longer, List.length_append]
    rfl
  free := rfl
  ready := rfl
  tracks := fun tracks => Tracks.update_pool { state with
    counts := { state.counts with rxFreeCount := state.counts.rxFreeCount + 1 } } tracks
  available := rfl
  untouched := ⟨rfl, rfl, rfl, rfl, rfl, rfl⟩

/-- Retiring a slot stores the figures of a ring with an open slot, and they are tracked. -/
theorem Tracks.retired {state : WatchedRx} {ring : RxRing} {posted : Nat}
    (tracks : Tracks cfg state.ring.rxBdAvailableMin state.perf state.observed)
    (inflight : 0 < state.ring.rxDmaInflight) (open_slot : posted < cfg.rxBufferCount)
    (stuck : ring.rxBdAvailableMin = 0) (stored : StoredRing cfg ring posted) :
    Tracks cfg ring.rxBdAvailableMin (emzRxDirectRetire state ring).perf
      (emzRxDirectRetire state ring).observed := by
  have noted := tracks.stored stored stuck open_slot.le le_rfl tracks.mark_bounded
    (fun full => by omega)
  simpa only [emzRxDirectRetire, if_pos inflight] using noted

/-- A turn that retires a slot: what the consume region saw and left. -/
structure RetiredTurn (cfg : Config) (state : WatchedRx) (turn : PollTurn) (ring : RxRing)
    (rx : Nat) (status : BitVec 32) : Prop where
  taken : emzRxDirectConsume cfg (turn.writeBack state.ring) = (ring, .retired rx status)
  some_posted : 0 < state.ring.rxBdPosted
  fits : state.ring.rxBdPosted ≤ cfg.rxBufferCount
  inflight : state.ring.rxDmaInflight = state.ring.rxBdPosted
  stored : StoredRing cfg ring (state.ring.rxBdPosted - 1)
  emptied : (Window.contents cfg.rxBufferCount ring.rxBdBuffer ++ [rx]).Perm
    (Window.contents cfg.rxBufferCount state.ring.rxBdBuffer)
  stuck : state.ring.rxBdAvailableMin = 0 → ring.rxBdAvailableMin = 0
  first : ∀ turns, firstRetired state (turn :: turns) = some (turn, status)

/-- A turn ends the loop with the ring unchanged but for its status words, or retires
a slot. -/
theorem turn_cases {state : WatchedRx} (sound : RingSound cfg state.ring) (turn : PollTurn) :
    ((emzRxDirectConsume cfg (turn.writeBack state.ring) =
          (turn.writeBack state.ring, .unfinished) ∨
        emzRxDirectConsume cfg (turn.writeBack state.ring) =
          (turn.writeBack state.ring, .unowned)) ∧
      (∀ turns, firstRetired state (turn :: turns) = none) ∧
      Moves cfg state { state with ring := turn.writeBack state.ring }) ∨
    ∃ ring rx status, RetiredTurn cfg state turn ring rx status := by
  obtain ⟨seen, buffers, posted, least, inflight⟩ := write_back_region turn sound
  have ended : Moves cfg state { state with ring := turn.writeBack state.ring } := by
    refine .counted seen buffers posted .rfl rfl ?_ rfl ⟨rfl, rfl, rfl, rfl, rfl, rfl⟩
    intro tracks
    rw [least]
    exact tracks
  rcases consume_cases cfg (turn.writeBack state.ring) with
    ⟨unchanged, running⟩ | ⟨unchanged, -, vacant⟩ | ⟨ring, rx, status, taken, retired⟩
  · exact .inl ⟨.inl unchanged, fun _ => by simp [firstRetired, running], ended⟩
  · exact .inl ⟨.inr unchanged, fun _ => by simp [firstRetired, vacant], ended⟩
  · obtain ⟨some_posted, stored, emptied⟩ := retire_region seen retired
    rw [posted] at some_posted stored
    rw [buffers] at emptied
    refine .inr ⟨ring, rx, status, taken, some_posted, ?_, ?_, stored, emptied, ?_, fun _ => ?_⟩
    · exact sound.represented.posted_fits
    · exact sound.represented.inflight_exact
    · intro wiped
      exact retire_min_stuck (least.trans wiped) taken
    · simp [firstRetired, retired.read, retired.finished, retired.owned]

section Turn

variable {state : WatchedRx} {turn : PollTurn} {ring : RxRing} {rx : Nat} {status : BitVec 32}

/-- The availability that a turn stores is that of one slot fewer posted, so it is positive. -/
theorem RetiredTurn.available (turned : RetiredTurn cfg state turn ring rx status) :
    (emzRxDirectRetire state ring).observed.available =
      state.observed.available ++ [cfg.rxBufferCount - (state.ring.rxBdPosted - 1)] := by
  rw [← turned.stored.available]
  rfl

/-- A retired slot leaves one spare buffer fewer, until the frame's buffer is returned. -/
theorem RetiredTurn.spared (turned : RetiredTurn cfg state turn ring rx status) :
    spare (emzRxDirectRetire state ring) + 1 = spare state := by
  have some_posted := turned.some_posted
  have now : spare (emzRxDirectRetire state ring) =
      ring.rxBdPosted + state.rxFreeFifo.length := rfl
  rw [now, turned.stored.posted, spare]
  omega

/-- A turn that retires a slot keeps the record of the marks. -/
theorem RetiredTurn.tracks (turned : RetiredTurn cfg state turn ring rx status)
    (tracks : Tracks cfg state.ring.rxBdAvailableMin state.perf state.observed) :
    Tracks cfg ring.rxBdAvailableMin (emzRxDirectRetire state ring).perf
      (emzRxDirectRetire state ring).observed := by
  have some_posted := turned.some_posted
  have fits := turned.fits
  exact tracks.retired (turned.inflight ▸ some_posted) (by omega) (turned.stuck tracks.wiped)
    turned.stored

/-- A frame that goes to the worker is a move of its buffer from the ring to the ready FIFO. -/
theorem RetiredTurn.ready_moves (turned : RetiredTurn cfg state turn ring rx status) :
    Moves cfg state (emzRxDirectPutReady cfg (emzRxDirectRetire state ring) rx) := by
  have some_posted := turned.some_posted
  have fits := turned.fits
  have spared : spare (emzRxDirectPutReady cfg (emzRxDirectRetire state ring) rx) + 1 =
      spare state := turned.spared
  refine .stored turned.stored.sound ?_ (by omega) ?_ turned.available (fun _ => by omega)
    ⟨rfl, rfl, rfl, rfl, rfl, rfl⟩
  · have now : pooled cfg (emzRxDirectPutReady cfg (emzRxDirectRetire state ring) rx) =
        state.rxFreeFifo ++ Window.contents cfg.rxBufferCount ring.rxBdBuffer ++
          (state.rxReadyFifo ++ [rx]) := rfl
    rw [now, pooled, List.perm_iff_count]
    intro buffer
    simp only [List.count_append, ← turned.emptied.count_eq]
    omega
  · intro tracks
    refine Tracks.update_pool _ ?_
    exact turned.tracks tracks

/-- A frame whose buffer goes straight back to the free pool is a move as well. -/
theorem RetiredTurn.return_moves (turned : RetiredTurn cfg state turn ring rx status) :
    Moves cfg state (emzReturnRxBuffer cfg (emzRxDirectRetire state ring) rx) := by
  have some_posted := turned.some_posted
  have fits := turned.fits
  have returned := return_returned cfg (emzRxDirectRetire state ring) rx
  have spared := turned.spared
  have more := returned.spared
  refine .stored turned.stored.sound ?_ (by omega) ?_ turned.available
    (fun _ => by omega) ⟨rfl, rfl, rfl, rfl, rfl, rfl⟩
  · have now : pooled cfg (emzReturnRxBuffer cfg (emzRxDirectRetire state ring) rx) =
        state.rxFreeFifo ++ [rx] ++ Window.contents cfg.rxBufferCount ring.rxBdBuffer ++
          state.rxReadyFifo := rfl
    rw [now, pooled, List.perm_iff_count]
    intro buffer
    simp only [List.count_append, ← turned.emptied.count_eq]
    omega
  · intro tracks
    exact returned.tracks (turned.tracks tracks)

end Turn

/-- The loop of a poll is a sequence of moves. Induction takes the turns one by one; a
turn whose frame goes back to the pool is followed by the refill of its release. -/
theorem poll_loop_moves {turns : List PollTurn} {state after : WatchedRx} {completed last : Nat}
    (sound : RingSound cfg state.ring)
    (polled : emzRxDirectPollLoop cfg turns state completed = some (after, last)) :
    Moves cfg state after := by
  induction turns generalizing state completed with
  | nil => cases polled
  | cons turn turns inductionHypothesis =>
    rcases turn_cases sound turn with ⟨ends, -, ended⟩ | ⟨ring, rx, status, turned⟩
    · rcases ends with unfinished | unowned
      · simp only [emzRxDirectPollLoop, unfinished] at polled
        exact (Prod.mk.inj (Option.some.inj polled)).1 ▸ ended
      · simp only [emzRxDirectPollLoop, unowned] at polled
        exact (Prod.mk.inj (Option.some.inj polled)).1 ▸ ended
    · simp only [emzRxDirectPollLoop, turned.taken] at polled
      by_cases ready : turn.goesToReady cfg status = true
      · rw [if_pos ready] at polled
        exact turned.ready_moves.trans (inductionHypothesis turned.ready_moves.sound polled)
      · rw [if_neg ready] at polled
        have released := turned.return_moves.trans (refill_moves turned.return_moves.sound)
        exact released.trans (inductionHypothesis released.sound polled)

/-- The end of a poll: its completions are noted, and a refill follows unless there
were none. -/
theorem poll_ends {turns : List PollTurn} {state after : WatchedRx}
    (sound : RingSound cfg state.ring) (polled : emzRxDirectPoll cfg turns state = some after) :
    ∃ looped completed, emzRxDirectPollLoop cfg turns state 0 = some (looped, completed) ∧
      Moves cfg looped after ∧ (completed = 0 →
        after.observed.available = looped.observed.available) := by
  obtain ⟨⟨looped, completed⟩, finished, result⟩ := Option.map_eq_some_iff.mp polled
  have whole := poll_loop_moves sound finished
  refine ⟨looped, completed, finished, ?_⟩
  have noted : Moves cfg looped { looped with
      perf := { looped.perf with
        rxPollCompletedMax := emzPerfSetMaxU32 looped.perf.rxPollCompletedMax completed }
      observed := { looped.observed with
        pollCompleted := looped.observed.pollCompleted ++ [completed] } } :=
    .counted whole.sound rfl rfl .rfl rfl (fun tracks => tracks.polled completed) rfl
      ⟨rfl, rfl, rfl, rfl, rfl, rfl⟩
  rw [← result]
  by_cases none_completed : completed = 0
  · dsimp only
    rw [if_neg (not_not.mpr none_completed)]
    exact ⟨noted, fun _ => rfl⟩
  · dsimp only
    rw [if_pos none_completed]
    exact ⟨noted.trans (refill_moves noted.sound), fun zero => absurd zero none_completed⟩

/-- A poll is a move, over all of its turns and the refill behind them. -/
theorem poll_moves {turns : List PollTurn} {state after : WatchedRx}
    (sound : RingSound cfg state.ring) (polled : emzRxDirectPoll cfg turns state = some after) :
    Moves cfg state after := by
  obtain ⟨looped, completed, finished, ended, -⟩ := poll_ends sound polled
  exact (poll_loop_moves sound finished).trans ended

/-- A poll that retires no frame stores no availability, since without a completion it does not
refill either. -/
theorem poll_quiet {turns : List PollTurn} {state after : WatchedRx}
    (sound : RingSound cfg state.ring) (polled : emzRxDirectPoll cfg turns state = some after)
    (nothing : firstRetired state turns = none) :
    after.observed.available = state.observed.available := by
  obtain ⟨looped, completed, finished, -, same⟩ := poll_ends sound polled
  cases turns with
  | nil => cases finished
  | cons turn turns =>
    rcases turn_cases sound turn with ⟨ends, -, ended⟩ | ⟨ring, rx, status, turned⟩
    · have halted : looped = { state with ring := turn.writeBack state.ring } ∧ completed = 0 := by
        rcases ends with unfinished | unowned
        · simp only [emzRxDirectPollLoop, unfinished] at finished
          exact Prod.mk.inj (Option.some.inj finished.symm)
        · simp only [emzRxDirectPollLoop, unowned] at finished
          exact Prod.mk.inj (Option.some.inj finished.symm)
      rw [same halted.2, halted.1]
    · rw [turned.first] at nothing
      cases nothing

/-- A history that has grown past a stored value is not empty. -/
theorem stored_left {before stored after : List Nat} {value : Nat}
    (one : stored = before ++ [value]) (grown : stored <+: after) : after ≠ [] := by
  rintro rfl
  rw [one] at grown
  exact absurd (List.prefix_nil.mp grown) (by simp)

/-- A poll that retires a frame stores an availability; it stores zero exactly when
the first frame's buffer goes straight back and completes the ring. -/
theorem poll_stores {turns : List PollTurn} {state after : WatchedRx} {turn : PollTurn}
    {status : BitVec 32} (sound : RingSound cfg state.ring)
    (polled : emzRxDirectPoll cfg turns state = some after)
    (retires : firstRetired state turns = some (turn, status))
    (some_open : 0 ∉ state.observed.available) (within : spare state ≤ cfg.rxBufferCount) :
    after.observed.available ≠ [] ∧ (0 ∈ after.observed.available ↔
      cfg.rxBufferCount ≤ cfg.rxMaxInflight ∧ spare state = cfg.rxBufferCount ∧
        turn.goesToReady cfg status = false) := by
  obtain ⟨looped, completed, finished, ended, -⟩ := poll_ends sound polled
  cases turns with
  | nil => cases finished
  | cons next rest =>
    rcases turn_cases sound next with ⟨-, none_first, -⟩ | ⟨ring, rx, word, turned⟩
    · rw [none_first] at retires
      cases retires
    · rw [turned.first] at retires
      obtain ⟨rfl, rfl⟩ := Prod.mk.inj (Option.some.inj retires)
      have some_posted := turned.some_posted
      have fits := turned.fits
      have stored := turned.available
      have positive : 0 ∉ (emzRxDirectRetire state ring).observed.available := by
        rw [stored]
        simp only [List.mem_append, some_open, List.mem_singleton, false_or]
        omega
      simp only [emzRxDirectPollLoop, turned.taken] at finished
      by_cases ready : next.goesToReady cfg word = true
      · rw [if_pos ready] at finished
        have later := (poll_loop_moves turned.ready_moves.sound finished).trans ended
        have spared : spare (emzRxDirectPutReady cfg (emzRxDirectRetire state ring) rx) + 1 =
            spare state := turned.spared
        refine ⟨stored_left stored later.grown, iff_of_false ?_ (by simp [ready])⟩
        exact later.low (.inl (by omega)) positive
      · rw [if_neg ready] at finished
        have returned := turned.return_moves
        have refilled := refill_moves returned.sound
        have later := (poll_loop_moves refilled.sound finished).trans ended
        have whole := refilled.trans later
        have spared : spare (emzReturnRxBuffer cfg (emzRxDirectRetire state ring) rx) =
            spare state := by
          rw [(return_returned cfg (emzRxDirectRetire state ring) rx).spared, turned.spared]
        have posted : (emzReturnRxBuffer cfg (emzRxDirectRetire state ring) rx).ring.rxBdPosted =
            state.ring.rxBdPosted - 1 := turned.stored.posted
        refine ⟨stored_left stored whole.grown, ?_⟩
        constructor
        · intro zero
          by_contra scarce
          refine whole.low ?_ positive zero
          have sent_back : next.goesToReady cfg word = false := by simpa using ready
          simp only [sent_back, and_true, not_and_or] at scarce
          omega
        · rintro ⟨permitted, all_spare, -⟩
          exact later.grown.subset
            (refill_fills returned.sound permitted (spared.trans all_spare) (by omega))

/-- The sweep returns every posted buffer to the free pool and stores the
availability of an empty ring. -/
theorem reclaim_moves {state : WatchedRx} (sound : RingSound cfg state.ring) :
    Moves cfg state (emzRxDirectReclaim cfg state) ∧
      spare (emzRxDirectReclaim cfg state) = spare state ∧
      (emzRxDirectReclaim cfg state).ring.rxBdPosted = 0 ∧
      (emzRxDirectReclaim cfg state).observed.available =
        state.observed.available ++ [cfg.rxBufferCount - 0] := by
  obtain ⟨orphans, vacant, stored⟩ := sweep_region cfg state.ring
  have positive := cfg.count_positive
  have emptied : (emzRxDirectReclaim cfg state).ring.rxBdPosted = 0 := stored.posted
  have longer : (emzRxDirectReclaim cfg state).rxFreeFifo.length =
      state.rxFreeFifo.length + state.ring.rxBdPosted := by
    rw [← sound.recorded, ← orphans]
    exact List.length_append
  have spared : spare (emzRxDirectReclaim cfg state) = spare state := by
    rw [spare, spare, emptied, longer]
    omega
  have available : (emzRxDirectReclaim cfg state).observed.available =
      state.observed.available ++ [cfg.rxBufferCount - 0] := by
    rw [← stored.available]
    rfl
  refine ⟨.stored stored.sound ?_ spared.le ?_ available (fun _ => positive)
    ⟨rfl, rfl, rfl, rfl, rfl, rfl⟩, spared, emptied, available⟩
  · have now : pooled cfg (emzRxDirectReclaim cfg state) =
        state.rxFreeFifo ++ (emzRxDirectSweep cfg state.ring).2 ++
          Window.contents cfg.rxBufferCount (emzRxDirectSweep cfg state.ring).1.rxBdBuffer ++
          state.rxReadyFifo := rfl
    rw [now, vacant, orphans, List.append_nil]
    rfl
  · intro tracks
    refine Tracks.update_pool _ ?_
    exact tracks.stored stored (sweep_min_stuck tracks.wiped) positive.le le_rfl
      tracks.mark_bounded (fun full => by omega)

/-- Starting the channel again is no change of any figure. -/
theorem arm_moves {state : WatchedRx} (sound : RingSound cfg state.ring) :
    Moves cfg state (emzRxDirectArm state) :=
  .counted ⟨armed_invariant sound.represented, sound.recorded⟩ rfl rfl .rfl rfl id rfl
    ⟨rfl, rfl, rfl, rfl, rfl, rfl⟩

/-- A recovery is a move: the sweep, the refill and the arm one after the other. -/
theorem recover_moves {state : WatchedRx} (sound : RingSound cfg state.ring) :
    Moves cfg state (emzRxDirectRecover cfg state) := by
  have reclaimed := (reclaim_moves sound).1
  have refilled := refill_moves reclaimed.sound
  exact reclaimed.trans (refilled.trans (arm_moves refilled.sound))

/-- A recovery empties the ring, and fills it when every buffer was spare and all may
be posted. -/
theorem recover_covered_iff {state : WatchedRx} (sound : RingSound cfg state.ring)
    (fresh : state.observed.available = []) (within : spare state ≤ cfg.rxBufferCount) :
    Covered (emzRxDirectRecover cfg state) ↔
      cfg.rxBufferCount ≤ cfg.rxMaxInflight ∧ spare state = cfg.rxBufferCount := by
  obtain ⟨reclaimed, spared, emptied, available⟩ := reclaim_moves sound
  have positive := cfg.count_positive
  have grown := (refill_moves reclaimed.sound).grown
  have stored : (emzRxDirectRecover cfg state).observed.available ≠ [] :=
    stored_left available grown
  have some_open : 0 ∉ (emzRxDirectReclaim cfg state).observed.available := by
    rw [available, fresh]
    simp only [List.nil_append, List.mem_singleton]
    omega
  have zero := refill_zero_iff reclaimed.sound some_open (spared.le.trans within)
    (emptied ▸ positive)
  rw [spared] at zero
  rw [Covered, or_iff_right stored]
  exact zero

/-- Every buffer's place: the FIFOs and the ring, the worker, the network stack. -/
def placed (cfg : Config) (state : WatchedRx) : List Nat :=
  pooled cfg state ++ state.workerBuffer.toList ++ state.stackFragments

/-- Between operations: the ring is represented, every buffer of the pool is in one
place, and the worker's and the stack's counts are the numbers of their buffers. -/
structure Sound (cfg : Config) (state : WatchedRx) : Prop where
  ring : RingSound cfg state.ring
  placed : (placed cfg state).Perm (List.range cfg.rxBufferCount)
  worker_count : state.counts.rxWorkerCount = state.workerBuffer.toList.length
  stack_owned : state.counts.rxStackOwnedCount = state.stackFragments.length

/-- The pool is conserved: what is posted, free, ready, in the worker's hands and with the stack
adds up to all buffers. -/
theorem Sound.conserved {state : WatchedRx} (sound : Sound cfg state) :
    spare state + state.rxReadyFifo.length + state.workerBuffer.toList.length +
      state.stackFragments.length = cfg.rxBufferCount := by
  have whole := sound.placed.length_eq
  rw [List.length_range, Whole.placed, List.length_append, List.length_append,
    sound.ring.pooled_length] at whole
  exact whole

/-- How an operation changes the stack-owned count, with its history and its mark. -/
inductive StackStep (operation : RxOperation) (before after : WatchedRx) : Prop
  | kept (other : operation.destroys = false)
      (counted : after.counts.rxStackOwnedCount = before.counts.rxStackOwnedCount)
      (observed : after.observed.stackOwned = before.observed.stackOwned)
      (mark : after.perf.rxMaxStackOwned = before.perf.rxMaxStackOwned)
  | raised (other : operation.destroys = false)
      (counted : after.counts.rxStackOwnedCount = before.counts.rxStackOwnedCount + 1)
      (observed : after.observed.stackOwned =
        before.observed.stackOwned ++ [asUint32 (before.counts.rxStackOwnedCount + 1)])
      (mark : after.perf.rxMaxStackOwned = emzPerfSetMaxU32 before.perf.rxMaxStackOwned
        (asUint32 (before.counts.rxStackOwnedCount + 1)))
  | lowered (destroys : operation.destroys = true)
      (counted : after.counts.rxStackOwnedCount = before.counts.rxStackOwnedCount - 1)
      (observed : after.observed.stackOwned =
        before.observed.stackOwned ++ [asUint32 (before.counts.rxStackOwnedCount - 1)])
      (mark : after.perf.rxMaxStackOwned = before.perf.rxMaxStackOwned)

/-- Everything that an operation does which the marks depend on, with the exact condition under
which the first store is covered. -/
structure StepLaw (cfg : Config) (operation : RxOperation) (before after : WatchedRx) :
    Prop where
  sound : Sound cfg after
  tracks : Tracks cfg before.ring.rxBdAvailableMin before.perf before.observed →
    Tracks cfg after.ring.rxBdAvailableMin after.perf after.observed
  grown : before.observed.available <+: after.observed.available
  covered : before.observed.available = [] →
    (Covered after ↔ LeavesRing cfg before operation ∨ FillsRing cfg before operation)
  stack : StackStep operation before after

/-- What is posted or free is never more than the pool. -/
theorem Sound.within {state : WatchedRx} (sound : Sound cfg state) :
    spare state ≤ cfg.rxBufferCount := by
  have conserved := sound.conserved
  omega

/-- A move of buffers between the ring, the free pool and the ready FIFO. -/
theorem Moves.law {operation : RxOperation} {before after : WatchedRx}
    (moves : Moves cfg before after) (sound : Sound cfg before)
    (other : operation.destroys = false)
    (covered : before.observed.available = [] →
      (Covered after ↔ LeavesRing cfg before operation ∨ FillsRing cfg before operation)) :
    StepLaw cfg operation before after where
  sound := by
    obtain ⟨worker, worker_count, fragments, counted, -, -⟩ := moves.untouched
    refine ⟨moves.sound, ?_, ?_, ?_⟩
    · rw [Whole.placed, worker, fragments]
      exact ((moves.kept.append_right _).append_right _).trans sound.placed
    · rw [worker_count, worker]
      exact sound.worker_count
    · rw [counted, fragments]
      exact sound.stack_owned
  tracks := moves.tracks
  grown := moves.grown
  covered := covered
  stack := .kept other moves.untouched.counted moves.untouched.observed moves.untouched.mark

/-- A refill by itself obeys the law. -/
theorem post_law {state : WatchedRx} (sound : Sound cfg state) :
    StepLaw cfg .post state (emzRxDirectRefill cfg state).1 :=
  (refill_moves sound.ring).law sound rfl
    (fun fresh => refill_covered_iff sound.ring fresh sound.within)

/-- A recovery obeys the law; its sweep stores an availability, so coverage is decided by its
refill. -/
theorem recover_law {state : WatchedRx} (sound : Sound cfg state) :
    StepLaw cfg .recover state (emzRxDirectRecover cfg state) := by
  refine (recover_moves sound.ring).law sound rfl ?_
  intro fresh
  rw [recover_covered_iff sound.ring fresh sound.within]
  exact (or_iff_right id).symm

/-- A poll obeys the law: without a retired frame it stores nothing, and with one it is covered
exactly if a refill in it fills the ring again. -/
theorem poll_law {turns : List PollTurn} {state after : WatchedRx} (sound : Sound cfg state)
    (polled : emzRxDirectPoll cfg turns state = some after) :
    StepLaw cfg (.poll turns) state after := by
  refine (poll_moves sound.ring polled).law sound rfl ?_
  intro fresh
  rw [LeavesRing, FillsRing]
  cases retires : firstRetired state turns with
  | none =>
    have same := poll_quiet sound.ring polled retires
    exact iff_of_true (.inl (same.trans fresh)) (.inl rfl)
  | some first =>
    obtain ⟨turn, status⟩ := first
    obtain ⟨stored, zero⟩ := poll_stores sound.ring polled retires (by simp [fresh]) sound.within
    rw [Covered, or_iff_right stored, zero]
    simp

/-- A status word written by the engine is no buffer's, and moves nothing. -/
theorem write_moves {state : WatchedRx} (sound : RingSound cfg state.ring) (index : Nat)
    (status : BitVec 32) :
    Moves cfg state { state with ring := writeStatus state.ring index status } :=
  .counted (write_region sound index status) rfl rfl .rfl rfl id rfl
    ⟨rfl, rfl, rfl, rfl, rfl, rfl⟩

/-- A write of the engine obeys the law, for it stores nothing. -/
theorem write_law {state : WatchedRx} (sound : Sound cfg state) (index : Nat)
    (status : BitVec 32) :
    StepLaw cfg (.write index status) state
      { state with ring := writeStatus state.ring index status } := by
  refine (write_moves sound.ring index status).law sound rfl ?_
  intro fresh
  exact iff_of_true (.inl fresh) (.inl trivial)

/-- The worker takes a buffer from the ready FIFO, which moves nothing in the ring and stores
nothing. -/
theorem take_law {state after : WatchedRx} (sound : Sound cfg state)
    (taken : emzRxThreadTake cfg state = some after) : StepLaw cfg .take state after := by
  unfold emzRxThreadTake at taken
  split at taken
  · rename_i rx rest idle ready
    have whole := sound.placed
    have worker_count := sound.worker_count
    obtain rfl := Option.some.inj taken
    refine ⟨⟨sound.ring, .trans ?_ whole, ?_, sound.stack_owned⟩, ?_, List.prefix_rfl,
      fun fresh => iff_of_true (.inl fresh) (.inl trivial), .kept rfl rfl rfl rfl⟩
    · have now : pooled cfg (emzPerfUpdatePoolInflight cfg { state with
          workerBuffer := some rx
          rxReadyFifo := rest
          counts := { state.counts with
            rxReadyFifoCount := state.counts.rxReadyFifoCount - 1
            rxWorkerCount := state.counts.rxWorkerCount + 1 } }) =
          state.rxFreeFifo ++ Window.contents cfg.rxBufferCount state.ring.rxBdBuffer ++ rest := rfl
      rw [Whole.placed, Whole.placed, now, pooled, ready, idle, List.perm_iff_count]
      intro buffer
      simp only [emzPerfUpdatePoolInflight, List.count_append, List.count_cons,
        Option.toList_some, Option.toList_none, List.count_nil]
      omega
    · rw [idle] at worker_count
      simp only [emzPerfUpdatePoolInflight, worker_count, Option.toList_some, Option.toList_none,
        List.length_nil, List.length_singleton]
      rfl
    · intro tracks
      refine Tracks.update_pool _ ?_
      exact tracks
  · cases taken

/-- A release after the counting of its caller, which keeps the ring, the FIFOs and
the availabilities. The buffer it returns is in the pool again. -/
theorem release_spares {before : WatchedRx} (uncounted : WatchedRx) (rx : Nat)
    (sound : RingSound cfg before.ring)
    (ring : uncounted.ring = before.ring) (free : uncounted.rxFreeFifo = before.rxFreeFifo)
    (ready : uncounted.rxReadyFifo = before.rxReadyFifo)
    (available : uncounted.observed.available = before.observed.available)
    (missing : spare before < cfg.rxBufferCount) :
    Moves cfg (emzReturnRxBuffer cfg uncounted rx) (emzReleaseRxBuffer cfg uncounted rx) ∧
      (pooled cfg (emzReleaseRxBuffer cfg uncounted rx)).Perm (pooled cfg before ++ [rx]) ∧
      (before.observed.available = [] → (Covered (emzReleaseRxBuffer cfg uncounted rx) ↔
        cfg.rxMaxInflight ≤ before.ring.rxBdPosted ∨
          cfg.rxBufferCount ≤ cfg.rxMaxInflight ∧ spare before + 1 = cfg.rxBufferCount)) := by
  have returned := return_returned cfg uncounted rx
  have kept : (emzReturnRxBuffer cfg uncounted rx).ring = before.ring := ring
  have returned_sound : RingSound cfg (emzReturnRxBuffer cfg uncounted rx).ring := kept ▸ sound
  have spared : spare (emzReturnRxBuffer cfg uncounted rx) = spare before + 1 := by
    rw [returned.spared, spare, spare, ring, free]
  have moves := refill_moves returned_sound
  refine ⟨moves, moves.kept.trans ?_, fun fresh => ?_⟩
  · rw [pooled, pooled, kept, returned.free, returned.ready, free, ready, List.perm_iff_count]
    intro buffer
    simp only [List.count_append]
    omega
  · have covered := refill_covered_iff returned_sound
      (returned.available.trans (available.trans fresh)) (by omega)
    have room : ¬ cfg.rxBufferCount ≤ before.ring.rxBdPosted := by
      rw [spare] at missing
      omega
    have some_free : (emzReturnRxBuffer cfg uncounted rx).rxFreeFifo ≠ [] := by
      rw [returned.free]
      simp
    rw [kept, spared, or_iff_right some_free, or_iff_right room] at covered
    exact covered

/-- The worker releases its buffer, and the refill behind the release decides about coverage. -/
theorem release_law {state : WatchedRx} {rx : Nat} (sound : Sound cfg state)
    (working : state.workerBuffer = some rx) :
    StepLaw cfg .release state (emzReleaseRxBufferFromWorker cfg state rx) := by
  have conserved := sound.conserved
  have worker_count := sound.worker_count
  rw [working, Option.toList_some, List.length_singleton] at conserved worker_count
  obtain ⟨moves, returned, covered⟩ := release_spares
    (emzPerfUpdatePoolInflight cfg { state with
      workerBuffer := none
      counts := { state.counts with rxWorkerCount := state.counts.rxWorkerCount - 1 } }) rx
    sound.ring rfl rfl rfl rfl (by omega)
  obtain ⟨worker, worker_after, fragments, counted, observed, mark⟩ := moves.untouched
  refine ⟨⟨moves.sound, .trans ?_ sound.placed, ?_, ?_⟩, ?_, moves.grown, covered,
    .kept rfl counted observed mark⟩
  · have idle : (emzReleaseRxBufferFromWorker cfg state rx).workerBuffer = none := worker
    have held : (emzReleaseRxBufferFromWorker cfg state rx).stackFragments =
        state.stackFragments := fragments
    rw [Whole.placed, Whole.placed, idle, held, working, List.perm_iff_count]
    intro buffer
    simp only [List.count_append, emzReleaseRxBufferFromWorker, returned.count_eq,
      Option.toList_none, Option.toList_some, List.count_nil]
    omega
  · rw [emzReleaseRxBufferFromWorker, worker_after, worker]
    simp only [emzReturnRxBuffer, emzPerfUpdatePoolInflight, worker_count, Option.toList_none,
      List.length_nil]
    rfl
  · rw [emzReleaseRxBufferFromWorker, counted, fragments]
    exact sound.stack_owned
  · intro tracks
    refine moves.tracks ((return_returned cfg _ rx).tracks ?_)
    refine Tracks.update_pool _ ?_
    exact tracks

/-- The network stack destroys a fragment, and again the refill behind it decides. -/
theorem destroy_law {state : WatchedRx} {rx : Nat} (sound : Sound cfg state)
    (held : rx ∈ state.stackFragments) :
    StepLaw cfg (.destroy rx) state (emzRxFragDestroy cfg state rx) := by
  have conserved := sound.conserved
  have nonempty := List.length_pos_of_mem held
  have erased := List.length_erase_of_mem held
  obtain ⟨moves, returned, covered⟩ := release_spares { state with
      stackFragments := state.stackFragments.erase rx
      counts := { state.counts with rxStackOwnedCount := state.counts.rxStackOwnedCount - 1 }
      observed := { state.observed with stackOwned :=
        state.observed.stackOwned ++ [asUint32 (state.counts.rxStackOwnedCount - 1)] } } rx
    sound.ring rfl rfl rfl rfl (by omega)
  obtain ⟨worker, worker_after, fragments, counted, observed, mark⟩ := moves.untouched
  refine ⟨⟨moves.sound, .trans ?_ sound.placed, ?_, ?_⟩, ?_, moves.grown, covered,
    .lowered rfl counted observed mark⟩
  · have working : (emzRxFragDestroy cfg state rx).workerBuffer = state.workerBuffer := worker
    have left : (emzRxFragDestroy cfg state rx).stackFragments = state.stackFragments.erase rx :=
      fragments
    rw [Whole.placed, Whole.placed, working, left, List.perm_iff_count]
    intro buffer
    simp only [List.count_append, emzRxFragDestroy, returned.count_eq,
      (List.perm_cons_erase held).count_eq, List.count_cons, List.count_nil]
    omega
  · rw [emzRxFragDestroy, worker_after, worker]
    exact sound.worker_count
  · rw [emzRxFragDestroy, counted, fragments]
    simp only [emzReturnRxBuffer, emzPerfUpdatePoolInflight, erased, sound.stack_owned]
    omega
  · intro tracks
    refine moves.tracks ((return_returned cfg _ rx).tracks ?_)
    exact { tracks with }

/-- The worker hands its buffer to the network stack, which moves nothing in the ring and stores
nothing. -/
theorem attach_law {state : WatchedRx} {rx : Nat} (sound : Sound cfg state)
    (working : state.workerBuffer = some rx) :
    StepLaw cfg .handOff state (emzRxThreadAttach cfg state rx) := by
  have worker_count := sound.worker_count
  rw [working, Option.toList_some, List.length_singleton] at worker_count
  refine ⟨⟨sound.ring, .trans ?_ sound.placed, ?_, ?_⟩, ?_, List.prefix_rfl,
    fun fresh => iff_of_true (.inl fresh) (.inl trivial), .raised rfl rfl rfl rfl⟩
  · have now : Whole.placed cfg (emzRxThreadAttach cfg state rx) =
        pooled cfg state ++ [] ++ (state.stackFragments ++ [rx]) := rfl
    rw [now, Whole.placed, working, List.perm_iff_count]
    intro buffer
    simp only [List.count_append, Option.toList_some, List.count_nil]
    omega
  · simp only [emzRxThreadAttach, emzPerfUpdatePoolInflight, worker_count, Option.toList_none,
      List.length_nil]
    rfl
  · simp only [emzRxThreadAttach, emzPerfUpdatePoolInflight, List.length_append,
      List.length_singleton, sound.stack_owned]
    omega
  · intro tracks
    have updated := Tracks.update_pool { state with
      workerBuffer := none
      stackFragments := state.stackFragments ++ [rx]
      counts := { state.counts with
        rxStackOwnedCount := state.counts.rxStackOwnedCount + 1
        rxWorkerCount := state.counts.rxWorkerCount - 1 } } tracks
    exact { updated with }

/-- Every whole operation obeys the law, by the lemma for its kind. -/
theorem step_law {operation : RxOperation} {before after : WatchedRx} (sound : Sound cfg before)
    (taken : rxStep cfg before operation = some after) : StepLaw cfg operation before after := by
  cases operation with
  | write index status => exact Option.some.inj taken ▸ write_law sound index status
  | post => exact Option.some.inj taken ▸ post_law sound
  | poll turns => exact poll_law sound taken
  | recover => exact Option.some.inj taken ▸ recover_law sound
  | take => exact take_law sound taken
  | release =>
    obtain ⟨rx, working, rfl⟩ := Option.map_eq_some_iff.mp taken
    exact release_law sound working
  | handOff =>
    rw [rxStep, emzRxThreadHandOff] at taken
    split at taken
    · cases taken
    · obtain ⟨rx, working, rfl⟩ := Option.map_eq_some_iff.mp taken
      exact attach_law sound working
  | destroy rx =>
    rw [rxStep] at taken
    split at taken
    · rename_i held
      exact Option.some.inj taken ▸ destroy_law sound held
    · cases taken

/-- The stack-owned count is a small natural number, so reading it as a word changes nothing. -/
theorem Sound.stack_word {state : WatchedRx} (sound : Sound cfg state) :
    asUint32 state.counts.rxStackOwnedCount = state.stackFragments.length := by
  have conserved := sound.conserved
  have word := cfg.count_word
  rw [asUint32, sound.stack_owned]
  omega

/-- The invariant of the runs whose first updates cover the figures. -/
structure Kept (cfg : Config) (state : WatchedRx) : Prop where
  sound : Sound cfg state
  tracks : Tracks cfg state.ring.rxBdAvailableMin state.perf state.observed
  covered : Covered state
  stack : Extreme (· > ·) 0 state.observed.stackOwned state.perf.rxMaxStackOwned
  within : state.observed.stackOwned ≠ [] →
    state.stackFragments.length ≤ state.perf.rxMaxStackOwned

/-- Under the invariant every mark is the extreme of its history: a maximum, or the minimum where
one was stored. -/
theorem Kept.extreme {state : WatchedRx} (kept : Kept cfg state) : WatermarksExtreme state where
  bd_available_min := by
    intro stored
    have zero := kept.covered.resolve_left stored
    rw [kept.tracks.wiped]
    exact ⟨zero, fun value _ => Nat.zero_le value⟩
  min_free := kept.tracks.min_free.least
  pool_inflight_high := kept.tracks.pool_high.greatest
  max_dma_inflight := by
    intro stored
    have some_available := mt kept.tracks.together.mpr stored
    obtain ⟨reached, noted⟩ := kept.tracks.full (kept.covered.resolve_left some_available)
    have exact : state.perf.rxMaxDmaInflight = cfg.rxBufferCount :=
      le_antisymm kept.tracks.mark_bounded noted
    rw [exact]
    exact ⟨reached, kept.tracks.dma_bounded⟩
  max_stack_owned := kept.stack.greatest
  poll_completed_max := kept.tracks.poll_max.greatest

/-- A covered history stays covered, and the first operation that stores an
availability decides. -/
theorem StepLaw.covered_iff {operation : RxOperation} {before after : WatchedRx}
    (law : StepLaw cfg operation before after) (covered : Covered before) :
    Covered after ↔ (before.observed.available = [] →
      LeavesRing cfg before operation ∨ FillsRing cfg before operation) := by
  by_cases fresh : before.observed.available = []
  · rw [law.covered fresh]
    exact ⟨fun decided _ => decided, fun decided => decided fresh⟩
  · have zero := law.grown.subset (covered.resolve_left fresh)
    exact iff_of_true (.inr zero) (fun impossible => absurd impossible fresh)

/-- The stack-owned mark stays right under the condition on first decrements, which the destroy
callback observes without offering them. -/
theorem StepLaw.stack_kept {operation : RxOperation} {before after : WatchedRx}
    (law : StepLaw cfg operation before after) (kept : Kept cfg before)
    (condition : before.observed.stackOwned = [] → operation.destroys = true →
      before.counts.rxStackOwnedCount ≤ 1) :
    Extreme (· > ·) 0 after.observed.stackOwned after.perf.rxMaxStackOwned ∧
      (after.observed.stackOwned ≠ [] →
        after.stackFragments.length ≤ after.perf.rxMaxStackOwned) := by
  have word := law.sound.stack_word
  have count := law.sound.stack_owned
  have earlier := kept.sound.stack_owned
  cases law.stack with
  | kept other counted observed mark =>
    rw [observed, mark]
    refine ⟨kept.stack, fun some_value => ?_⟩
    have within := kept.within some_value
    omega
  | raised other counted observed mark =>
    rw [← counted, word] at observed mark
    rw [observed, mark]
    refine ⟨kept.stack.offered (Nat.not_lt_zero _), fun _ => ?_⟩
    unfold emzPerfSetMaxU32
    split <;> omega
  | lowered destroys counted observed mark =>
    rw [← counted, word] at observed
    rw [observed, mark]
    by_cases fresh : before.observed.stackOwned = []
    · have few := condition fresh destroys
      have seed := kept.stack.unset fresh
      refine ⟨kept.stack.passed ?_ (fun _ => ?_), fun _ => ?_⟩ <;> omega
    · have within := kept.within fresh
      refine ⟨kept.stack.passed ?_ (fun impossible => absurd impossible fresh), fun _ => ?_⟩ <;>
        omega

/-- A first decrement to a positive count leaves a mark of zero behind it. -/
theorem StepLaw.stack_missed {operation : RxOperation} {before after : WatchedRx}
    (law : StepLaw cfg operation before after) (kept : Kept cfg before)
    (fresh : before.observed.stackOwned = []) (destroys : operation.destroys = true)
    (many : 1 < before.counts.rxStackOwnedCount) : ¬ WatermarksExtreme after := by
  intro extreme
  have word := law.sound.stack_word
  have count := law.sound.stack_owned
  cases law.stack with
  | kept other | raised other =>
    rw [destroys] at other
    cases other
  | lowered destroyed counted observed mark =>
    rw [← counted, word, fresh, List.nil_append] at observed
    have greatest := (extreme.max_stack_owned (by simp [observed])).1
    rw [mark, kept.stack.unset fresh, observed] at greatest
    have zero : 0 = after.stackFragments.length := List.mem_singleton.mp greatest
    omega

/-- One operation keeps the marks extremes exactly when it meets the condition, and then keeps
the invariant too. -/
theorem step_extreme_iff {operation : RxOperation} {before after : WatchedRx}
    (kept : Kept cfg before) (taken : rxStep cfg before operation = some after) :
    (WatermarksExtreme after ↔ FirstUpdateCovers cfg before operation) ∧
      (FirstUpdateCovers cfg before operation → Kept cfg after) := by
  have law := step_law kept.sound taken
  have tracks := law.tracks kept.tracks
  have covered_iff := law.covered_iff kept.covered
  have keeps (covers : FirstUpdateCovers cfg before operation) : Kept cfg after := by
    obtain ⟨stack, within⟩ := law.stack_kept kept covers.stack
    exact ⟨law.sound, tracks, covered_iff.mpr covers.ring, stack, within⟩
  refine ⟨⟨fun extreme => ⟨?_, ?_⟩, fun covers => (keeps covers).extreme⟩, keeps⟩
  · refine covered_iff.mp ?_
    by_cases stored : after.observed.available = []
    · exact .inl stored
    · have least := (extreme.bd_available_min stored).1
      rw [tracks.wiped] at least
      exact .inr least
  · intro fresh destroys
    by_contra many
    exact law.stack_missed kept fresh destroys (by omega) extreme

/-- The pool before the first refill is free, all of it, and the ring is empty. -/
theorem init_pool_sound (cfg : Config) : Sound cfg (emzInitPool cfg) where
  ring := by
    refine ⟨represented_settled (start_ring_invariant cfg), ?_⟩
    have vacant : Window.contents cfg.rxBufferCount (emzRxDirectStartRing cfg).rxBdBuffer = [] :=
      List.filterMap_eq_nil_iff.mpr (fun _ _ => rfl)
    exact congrArg List.length vacant
  placed := by
    have vacant : Window.contents cfg.rxBufferCount (emzRxDirectStartRing cfg).rxBdBuffer = [] :=
      List.filterMap_eq_nil_iff.mpr (fun _ _ => rfl)
    have free : placed cfg (emzInitPool cfg) = List.range cfg.rxBufferCount ++
      Window.contents cfg.rxBufferCount (emzRxDirectStartRing cfg).rxBdBuffer ++ [] ++ [] ++ [] :=
        rfl
    rw [free, vacant]
    simp
  worker_count := rfl
  stack_owned := rfl

/-- The driver's own first refill leaves a sound pool. -/
theorem init_sound {started : WatchedRx} (initialised : emzInit cfg = some started) :
    Sound cfg started := by
  have filled := (post_law (init_pool_sound cfg)).sound
  rw [emzInit] at initialised
  split at initialised
  · cases initialised
  · rename_i refilled queued result
    rw [result] at filled
    obtain rfl := Option.some.inj initialised
    exact ⟨(arm_moves filled.ring).sound, filled.placed, filled.worker_count, filled.stack_owned⟩

/-- The driver's first refill leaves worker and stack untouched, as every move does. -/
theorem init_untouched {started : WatchedRx} (initialised : emzInit cfg = some started) :
    Untouched (emzInitPool cfg) started := by
  have filled := (refill_moves (init_pool_sound cfg).ring).untouched
  rw [emzInit] at initialised
  split at initialised
  · cases initialised
  · rename_i refilled queued result
    rw [result] at filled
    obtain rfl := Option.some.inj initialised
    exact ⟨filled.worker, filled.worker_count, filled.fragments, filled.counted, filled.observed,
      filled.mark⟩

/-- The wipe touches figures only, starts the histories, and establishes the invariant for
whatever the pool has come to. -/
theorem wiped_kept {state : WatchedRx} (sound : Sound cfg state) :
    Kept cfg (initPerfStatsMetadata state) where
  sound := by
    obtain ⟨consume, inside, fits, limited, inflight, refill, tail, occupied, programmed, -⟩ :=
      sound.ring.represented
    exact ⟨⟨⟨consume, inside, fits, limited, inflight, refill, tail, occupied, programmed, rfl⟩,
      sound.ring.recorded⟩, sound.placed, sound.worker_count, sound.stack_owned⟩
  tracks := tracks_wiped cfg
  covered := .inl rfl
  stack := .fresh
  within := fun impossible => absurd rfl impossible

/-- Every operation keeps the pool sound, before the wipe as after it. -/
theorem run_sound {started reached : WatchedRx} (sound : Sound cfg started)
    (run : Run (rxStep cfg) Unrestricted started reached) : Sound cfg reached :=
  run.invariant (Sound cfg) sound (fun _ _ _ kept _ taken => (step_law kept taken).sound)

/-- After the wipe of a running driver, every mark is the extreme of the values its figure has
taken since, in every state that is reached by operations whose first updates cover the figures;
and the first operation that does not meet this condition leaves a mark that is no extreme.

Proof: one operation keeps the marks extremes exactly when its first update covers the figures,
and then keeps what that needs. So the condition is enough along the run, by induction. -/
theorem watermarks_extreme_iff (cfg : Config) {started before reached : WatchedRx}
    (initialised : emzInit cfg = some started)
    (earlier : Run (rxStep cfg) Unrestricted started before)
    (run : Run (rxStep cfg) (FirstUpdateCovers cfg) (initPerfStatsMetadata before) reached) :
    WatermarksExtreme reached ∧ ∀ operation after, rxStep cfg reached operation = some after →
      (WatermarksExtreme after ↔ FirstUpdateCovers cfg reached operation) := by
  have wiped : Kept cfg (initPerfStatsMetadata before) :=
    wiped_kept (run_sound (init_sound initialised) earlier)
  have kept : Kept cfg reached := run.invariant (Kept cfg) wiped
    (fun _ _ _ kept covers taken => (step_extreme_iff kept taken).2 covers)
  exact ⟨kept.extreme, fun operation after taken => (step_extreme_iff kept taken).1⟩

/-- The operations of the witness: with all eight buffers posted, a poll whose frame
the interceptor takes refills the ring; later frames are handed over, destroyed
and released, and a recovery rebuilds the ring. -/
def coveredOperations : List RxOperation :=
  [.poll [⟨[(0, 0x80000040#32)], true, false⟩, ⟨[], false, false⟩],
    .poll [⟨[(1, 0x80000040#32)], false, false⟩, ⟨[(2, 0x80000040#32)], false, false⟩,
      ⟨[], false, false⟩],
    .take, .handOff, .take, .release, .destroy 1, .recover]

/-- With as many posts permitted as there are buffers, a run meets the condition and
updates all six figures. -/
theorem watermarks_extreme_covered :
    ∃ started reached, emzInit (eightBufferConfig 8) = some started ∧
      Run (rxStep (eightBufferConfig 8)) (FirstUpdateCovers (eightBufferConfig 8))
        (initPerfStatsMetadata started) reached ∧
      reached.observed.available ≠ [] ∧ reached.observed.stackOwned ≠ [] ∧
      WatermarksExtreme reached := by
  obtain ⟨started, initialised⟩ : ∃ started, emzInit (eightBufferConfig 8) = some started :=
    Option.isSome_iff_exists.mp (by decide)
  have executed : ((emzInit (eightBufferConfig 8)).any fun started =>
      (execute (rxStep (eightBufferConfig 8))
        (fun state operation => decide (FirstUpdateCovers (eightBufferConfig 8) state operation))
        (initPerfStatsMetadata started) coveredOperations).any fun reached =>
          decide (reached.observed.available ≠ [] ∧ reached.observed.stackOwned ≠ [])) = true := by
    decide
  rw [initialised, Option.any_some] at executed
  obtain ⟨reached, run, updated⟩ := run_of_execution _ _ _ _ _
    (fun _ _ met => of_decide_eq_true met) executed
  obtain ⟨available, stackOwned⟩ := of_decide_eq_true updated
  exact ⟨started, reached, initialised, run, available, stackOwned,
    (watermarks_extreme_iff (eightBufferConfig 8) initialised .rest run).1⟩

/-- With four of eight buffers posted, the wipe and one polled frame leave the lowest
availability at zero, although the figure has been five and four. -/
theorem available_min_stays_zero :
    ¬ ∀ cfg started before reached, emzInit cfg = some started →
      Run (rxStep cfg) Unrestricted started before →
      Run (rxStep cfg) Unrestricted (initPerfStatsMetadata before) reached →
      WatermarksExtreme reached := by
  intro claimed
  obtain ⟨started, initialised⟩ : ∃ started, emzInit (eightBufferConfig 4) = some started :=
    Option.isSome_iff_exists.mp (by decide)
  have executed : ((emzInit (eightBufferConfig 4)).any fun started =>
      (execute (rxStep (eightBufferConfig 4)) (fun _ _ => true) (initPerfStatsMetadata started)
        [.poll [⟨[(0, 0x80000040#32)], false, false⟩, ⟨[], false, false⟩]]).any fun reached =>
          decide (reached.observed.available = [5, 4] ∧ reached.ring.rxBdAvailableMin = 0)) =
      true := by
    decide
  rw [initialised, Option.any_some] at executed
  obtain ⟨reached, run, missed⟩ := run_of_execution _ _ _ _ _ (fun _ _ _ => trivial) executed
  obtain ⟨stored, zero⟩ := of_decide_eq_true missed
  have extreme := claimed _ started started reached initialised .rest run
  have least := (extreme.bd_available_min (by simp [stored])).1
  rw [stored, zero] at least
  simp at least

end EmaczZephyr.Driver.Whole
