import EmaczZephyr.Driver.RxPath

/-!
# Every receive buffer is in one place

Buffers move between the free FIFO, the ring's slots, the ready FIFO, the frames
of running routines and the fragments the network stack holds. Each move takes a
buffer from one place and adds it to another, and each pool counter is changed by
the same routine a step earlier or later. So for every buffer, and for every
counter, the shared state and the frames together hold an amount that no step
changes: six accounts with one law each frame step satisfies.

The law assumes nothing about scheduling, about the engine or about the status
words, and the recovery sweep is a step like any other.
-/

namespace EmaczZephyr.Driver

open Contexts Runs

/-- The buffers that a frame has in hand: taken from one place and not yet put to the next. -/
def RxFrame.held : RxFrame → List Nat
  | .refill _ _ (.post rx) | .refill _ _ (.putBack rx) => [rx]
  | .releaseCount rx | .releasePut rx | .releaseFromWorker rx | .destroy rx => [rx]
  | .poll _ (.countDma rx _ _) | .poll _ (.deliver rx _ _) => [rx]
  | .poll _ (.countReady rx _) | .poll _ (.putReady rx _) => [rx]
  | .worker (.countReady rx) | .worker (.countWorker rx) | .worker (.examine rx) => [rx]
  | .worker (.choose rx) | .worker (.copy rx) | .worker (.attach rx) => [rx]
  | .worker (.countStack rx) | .worker (.uncountWorker rx) | .worker (.submit rx) => [rx]
  | .recover (.uncountDma orphans) | .recover (.countFree orphans) => orphans
  | .recover (.putFree rx orphans) => rx :: orphans
  | _ => []

/-- The buffers that no frame has in hand, place after place. -/
def placed (cfg : Config) (shared : RxShared) : List Nat :=
  shared.rxFreeFifo ++ Window.contents cfg.rxBufferCount shared.ring.rxBdBuffer ++
    shared.rxReadyFifo ++ shared.stackFragments

/-- The occurrences of one buffer, in the shared places and in the hands of the frames. -/
def bufferAccount (cfg : Config) (rx : Nat) : Account RxShared RxFrame Nat where
  inShared := fun shared => (placed cfg shared).count rx
  inFrame := fun frame => frame.held.count rx

/-- `rx_free_count` and the length of its FIFO: a buffer is counted before it is
put and uncounted after it was got. -/
def freeAccount : Account RxShared RxFrame Int where
  inShared := fun shared => shared.rxFreeFifo.length - shared.rxFreeCount
  inFrame
    | .refill _ _ (.post _) | .refill _ _ (.putBack _) => 1
    | .refill _ _ .countDma | .refill _ _ .countFree => 1
    | .releasePut _ | .recover (.putFree _ _) => 1
    | _ => 0

/-- `rx_dma_fifo_count` and the occupied slots: a slot is filled before it is
counted, and cleared before it is uncounted. -/
def dmaAccount (cfg : Config) : Account RxShared RxFrame Int where
  inShared := fun shared =>
    (Window.contents cfg.rxBufferCount shared.ring.rxBdBuffer).length - shared.rxDmaFifoCount
  inFrame
    | .refill _ _ .countDma => -1
    | .poll _ (.countDma _ _ _) => 1
    | .recover (.uncountDma orphans) => orphans.length
    | _ => 0

/-- `rx_ready_fifo_count` against the length of its FIFO, with the frames between the count and
the FIFO operation. -/
def readyAccount : Account RxShared RxFrame Int where
  inShared := fun shared => shared.rxReadyFifo.length - shared.rxReadyFifoCount
  inFrame
    | .poll _ (.putReady _ _) | .worker (.countReady _) => 1
    | _ => 0

/-- `rx_worker_count` against the buffer that the worker has in hand, from its count to its
uncount. -/
def workerAccount : Account RxShared RxFrame Int where
  inShared := fun shared => -shared.rxWorkerCount
  inFrame
    | .worker (.examine _) | .worker (.choose _) | .worker (.copy _) => 1
    | .worker (.attach _) | .worker (.countStack _) | .worker (.uncountWorker _) => 1
    | .releaseFromWorker _ => 1
    | _ => 0

/-- `rx_stack_owned_count` against the fragments handed to the stack, with the frames between the
two. -/
def stackAccount : Account RxShared RxFrame Int where
  inShared := fun shared => shared.stackFragments.length - shared.rxStackOwnedCount
  inFrame
    | .worker (.uncountWorker _) | .worker (.submit _) | .destroy _ => 1
    | _ => 0

/-- A frame step keeps all six accounts: the buffer places, the free, DMA and ready counters, the
worker's counter and the stack's. -/
structure Balanced (cfg : Config) (before : RxShared) (frame : RxFrame) (after : RxShared)
    (frames : List RxFrame) : Prop where
  buffer : ∀ rx, (bufferAccount cfg rx).Balanced before frame after frames
  free : freeAccount.Balanced before frame after frames
  dma : (dmaAccount cfg).Balanced before frame after frames
  ready : readyAccount.Balanced before frame after frames
  worker : workerAccount.Balanced before frame after frames
  stack : stackAccount.Balanced before frame after frames

/-- A post moves its buffer into the slots, as one more among those that the slots held. -/
theorem posted_contents {cfg : Config} {before after : RxRing} {rx : Nat}
    (invariant : RxRingInvariant cfg before) (posted : Posted cfg before rx after) :
    (Window.contents cfg.rxBufferCount after.rxBdBuffer).Perm
      (Window.contents cfg.rxBufferCount before.rxBdBuffer ++ [rx]) := by
  have inside : before.rxBdRefillIndex < cfg.rxBufferCount :=
    invariant.refill_exact ▸ Window.slot_lt cfg.count_positive _ _
  have moved := Window.contents_update inside before.rxBdBuffer (some rx)
  rw [← posted.buffers, posted.free] at moved
  simpa using moved

/-- Retiring a slot takes its buffer out and leaves the others in their slots. -/
theorem retired_contents {cfg : Config} {before after : RxRing} {rx : Nat} {status : BitVec 32}
    (invariant : RxRingInvariant cfg before) (retired : Retired cfg before rx status after) :
    (Window.contents cfg.rxBufferCount after.rxBdBuffer ++ [rx]).Perm
      (Window.contents cfg.rxBufferCount before.rxBdBuffer) := by
  have moved := Window.contents_update invariant.consume_inside before.rxBdBuffer none
  rw [← retired.buffers, retired.owned] at moved
  simpa using moved

/-- The sweep of a recovery leaves no buffer in the slots; all of them are orphans in its hands. -/
theorem swept_contents {cfg : Config} {before after : RxRing} {orphans : List Nat}
    (swept : Swept cfg before after orphans) :
    Window.contents cfg.rxBufferCount after.rxBdBuffer = [] := by
  refine List.filterMap_eq_nil_iff.mpr ?_
  intro index inside
  rw [swept.buffers, if_pos (List.mem_range.mp inside)]

/-- No buffer changes its place and no counter of the places is written. -/
structure PlacesKept (before after : RxShared) : Prop where
  free : after.rxFreeFifo = before.rxFreeFifo
  slots : after.ring.rxBdBuffer = before.ring.rxBdBuffer
  ready : after.rxReadyFifo = before.rxReadyFifo
  stack : after.stackFragments = before.stackFragments
  free_count : after.rxFreeCount = before.rxFreeCount
  dma_count : after.rxDmaFifoCount = before.rxDmaFifoCount
  ready_count : after.rxReadyFifoCount = before.rxReadyFifoCount
  worker_count : after.rxWorkerCount = before.rxWorkerCount
  stack_count : after.rxStackOwnedCount = before.rxStackOwnedCount

/-- Leaving the shared state as it was keeps every place. -/
theorem PlacesKept.refl (shared : RxShared) : PlacesKept shared shared :=
  ⟨rfl, rfl, rfl, rfl, rfl, rfl, rfl, rfl, rfl⟩

/-- The frames that are left have what the frame had, in each of the six accounts, so a step
between program points balances by itself. -/
structure PassedOn (cfg : Config) (frame : RxFrame) (frames : List RxFrame) : Prop where
  held : ∀ rx, (frames.map (bufferAccount cfg rx).inFrame).sum =
    (bufferAccount cfg rx).inFrame frame
  free : (frames.map freeAccount.inFrame).sum = freeAccount.inFrame frame
  dma : (frames.map (dmaAccount cfg).inFrame).sum = (dmaAccount cfg).inFrame frame
  ready : (frames.map readyAccount.inFrame).sum = readyAccount.inFrame frame
  worker : (frames.map workerAccount.inFrame).sum = workerAccount.inFrame frame
  stack : (frames.map stackAccount.inFrame).sum = stackAccount.inFrame frame

/-- A step that moves nothing and passes on what its frame had is balanced. -/
theorem Balanced.passed_on {cfg : Config} {before after : RxShared} {frame : RxFrame}
    {frames : List RxFrame} (kept : PlacesKept before after) (passed : PassedOn cfg frame frames) :
    Balanced cfg before frame after frames where
  buffer rx := by
    have same : (bufferAccount cfg rx).inShared after = (bufferAccount cfg rx).inShared before := by
      simp only [bufferAccount, placed, kept.free, kept.slots, kept.ready, kept.stack]
    rw [Account.Balanced, same, passed.held]
  free := by
    have same : freeAccount.inShared after = freeAccount.inShared before := by
      simp only [freeAccount, kept.free, kept.free_count]
    rw [Account.Balanced, same, passed.free]
  dma := by
    have same : (dmaAccount cfg).inShared after = (dmaAccount cfg).inShared before := by
      simp only [dmaAccount, kept.slots, kept.dma_count]
    rw [Account.Balanced, same, passed.dma]
  ready := by
    have same : readyAccount.inShared after = readyAccount.inShared before := by
      simp only [readyAccount, kept.ready, kept.ready_count]
    rw [Account.Balanced, same, passed.ready]
  worker := by
    have same : workerAccount.inShared after = workerAccount.inShared before := by
      simp only [workerAccount, kept.worker_count]
    rw [Account.Balanced, same, passed.worker]
  stack := by
    have same : stackAccount.inShared after = stackAccount.inShared before := by
      simp only [stackAccount, kept.stack, kept.stack_count]
    rw [Account.Balanced, same, passed.stack]

section Step

attribute [local simp] Account.Balanced bufferAccount freeAccount dmaAccount readyAccount
  workerAccount stackAccount placed RxFrame.held List.count_cons

variable {cfg : Config} {hooks : Hooks} {outcome : WorkerOutcome} {before after : RxShared}
  {frames : List RxFrame}

/-- A refill moves its buffer from the free FIFO through its own hands into a slot,
or back. -/
theorem refill_balanced {caller : RefillCaller} {queued : Nat} {point : RefillPoint}
    (invariant : RxRingInvariant cfg before.ring)
    (stepped : emzRxDirectRefill cfg before caller queued point = (after, frames)) :
    Balanced cfg before (.refill caller queued point) after frames := by
  cases point with
  | get =>
    simp only [emzRxDirectRefill] at stepped
    split at stepped
    · obtain ⟨rfl, rfl⟩ := stepped
      exact .passed_on (.refl _) ⟨fun _ => rfl, rfl, rfl, rfl, rfl, rfl⟩
    · rename_i rx rest free
      obtain ⟨rfl, rfl⟩ := stepped
      constructor <;> simp [free] <;> omega
  | post rx =>
    rcases post_one_cases cfg before.ring rx with ⟨refused, -⟩ | ⟨ring, succeeded, posted⟩
    · simp only [emzRxDirectRefill, refused] at stepped
      obtain ⟨rfl, rfl⟩ := stepped
      exact .passed_on (.refl _) ⟨fun _ => rfl, rfl, rfl, rfl, rfl, rfl⟩
    · simp only [emzRxDirectRefill, succeeded] at stepped
      obtain ⟨rfl, rfl⟩ := stepped
      have moved := posted_contents invariant posted
      have counts (other : Nat) := moved.count_eq other
      have length := moved.length_eq
      constructor <;> simp [counts, length] <;> omega
  | putBack rx =>
    obtain ⟨rfl, rfl⟩ := stepped
    constructor <;> simp <;> omega
  | countDma =>
    obtain ⟨rfl, rfl⟩ := stepped
    constructor <;> simp
    omega
  | countFree =>
    obtain ⟨rfl, rfl⟩ := stepped
    constructor <;> simp
    omega
  | updateTail =>
    simp only [emzRxDirectRefill] at stepped
    obtain ⟨rfl, rfl⟩ := stepped
    cases caller <;> by_cases some_queued : 0 < queued <;> constructor <;> simp [some_queued]

/-- A poll moves a buffer from its slot through its own hands to the ready FIFO, or
to a release. -/
theorem poll_balanced {completed : Nat} {point : PollPoint}
    (invariant : RxRingInvariant cfg before.ring)
    (stepped : emzRxDirectPoll cfg hooks before completed point = (after, frames)) :
    Balanced cfg before (.poll completed point) after frames := by
  cases poll_effect stepped with
  | pollRetired completed ring rx status taken retired =>
    have moved := retired_contents invariant retired
    have counts (other : Nat) := moved.count_eq other
    have length := moved.length_eq
    constructor <;> simp [← counts, ← length] <;> omega
  | pollRequest completed =>
    obtain ⟨_, _, same⟩ := request_same before
    rw [same]
    exact .passed_on ⟨rfl, rfl, rfl, rfl, rfl, rfl, rfl, rfl, rfl⟩
      ⟨fun _ => rfl, rfl, rfl, rfl, rfl, rfl⟩
  | pollCountDma completed rx number status =>
    constructor <;> simp
    omega
  | pollCountReady completed rx number =>
    constructor <;> simp
    omega
  | pollPutReady completed rx number =>
    constructor <;> simp <;> omega
  | _ =>
    exact .passed_on ⟨rfl, rfl, rfl, rfl, rfl, rfl, rfl, rfl, rfl⟩
      ⟨fun _ => rfl, rfl, rfl, rfl, rfl, rfl⟩

/-- The worker takes a buffer from the ready FIFO and hands it to the stack or
releases it. -/
theorem worker_balanced {point : WorkerPoint}
    (stepped : emzRxThread cfg outcome before point = some (after, frames)) :
    Balanced cfg before (.worker point) after frames := by
  cases point with
  | get =>
    simp only [emzRxThread] at stepped
    split at stepped
    · cases stepped
    · rename_i rx rest ready
      obtain ⟨rfl, rfl⟩ := stepped
      constructor <;> simp [ready] <;> omega
  | examine rx =>
    simp only [emzRxThread, Option.some.injEq] at stepped
    obtain ⟨rfl, rfl⟩ := stepped
    split <;> exact .passed_on ⟨rfl, rfl, rfl, rfl, rfl, rfl, rfl, rfl, rfl⟩
      ⟨fun _ => rfl, rfl, rfl, rfl, rfl, rfl⟩
  | choose rx =>
    simp only [emzRxThread, Option.some.injEq] at stepped
    obtain ⟨rfl, rfl⟩ := stepped
    split <;> exact .passed_on ⟨rfl, rfl, rfl, rfl, rfl, rfl, rfl, rfl, rfl⟩
      ⟨fun _ => rfl, rfl, rfl, rfl, rfl, rfl⟩
  | attach rx =>
    simp only [emzRxThread, Option.some.injEq] at stepped
    obtain ⟨rfl, rfl⟩ := stepped
    split <;> exact .passed_on ⟨rfl, rfl, rfl, rfl, rfl, rfl, rfl, rfl, rfl⟩
      ⟨fun _ => rfl, rfl, rfl, rfl, rfl, rfl⟩
  | submit rx =>
    simp only [emzRxThread, Option.some.injEq] at stepped
    split at stepped
    · obtain ⟨rfl, rfl⟩ := stepped
      constructor <;> simp <;> omega
    · obtain ⟨rfl, rfl⟩ := stepped
      constructor <;> simp
  | _ =>
    obtain ⟨rfl, rfl⟩ := stepped
    constructor <;> simp <;> omega

/-- The worker, the releases and the destroy routine, which leave the ring alone. -/
def RxFrame.ringless : RxFrame → Bool
  | .worker _ | .releaseCount _ | .releasePut _ | .releaseFromWorker _ | .destroy _ => true
  | _ => false

/-- The steps that do not touch the ring keep the accounts whatever the ring holds: the worker,
the releases and the destroy routine. -/
theorem ringless_balanced {frame : RxFrame} (ringless : frame.ringless = true)
    (stepped : frameStep cfg hooks outcome before frame = some (after, frames)) :
    Balanced cfg before frame after frames := by
  cases frame with
  | worker point => exact worker_balanced stepped
  | releaseCount rx =>
    obtain ⟨rfl, rfl⟩ := stepped
    constructor <;> simp
    omega
  | releasePut rx =>
    obtain ⟨rfl, rfl⟩ := stepped
    constructor <;> simp [refillEntry] <;> omega
  | releaseFromWorker rx =>
    obtain ⟨rfl, rfl⟩ := stepped
    constructor <;> simp
    omega
  | destroy rx =>
    obtain ⟨rfl, rfl⟩ := stepped
    constructor <;> simp
    omega
  | _ => cases ringless

/-- The recovery pass takes every buffer out of the ring and puts each on the free
FIFO. -/
theorem recover_balanced {point : RecoverPoint}
    (stepped : emzRxDirectRecover cfg before point = (after, frames)) :
    Balanced cfg before (.recover point) after frames := by
  cases point with
  | sweep =>
    obtain ⟨rfl, rfl⟩ := stepped
    have swept := sweep_swept cfg before.ring
    have emptied := swept_contents swept
    have orphans : (emzRxDirectSweep cfg before.ring).2 =
        Window.contents cfg.rxBufferCount before.ring.rxBdBuffer := swept.orphans
    constructor <;> simp [emptied, orphans] <;> omega
  | uncountDma orphans =>
    obtain ⟨rfl, rfl⟩ := stepped
    constructor <;> simp
    omega
  | countFree orphans =>
    cases orphans <;> (obtain ⟨rfl, rfl⟩ := stepped) <;> constructor <;> simp
    omega
  | putFree rx orphans =>
    obtain ⟨rfl, rfl⟩ := stepped
    constructor <;> simp <;> omega
  | _ =>
    obtain ⟨rfl, rfl⟩ := stepped
    exact .passed_on ⟨rfl, rfl, rfl, rfl, rfl, rfl, rfl, rfl, rfl⟩
      ⟨fun _ => rfl, rfl, rfl, rfl, rfl, rfl⟩

/-- Every frame step keeps the accounts; the cases are the routines of the receive path, each
with the lemma of its own. -/
theorem frame_step_balanced {frame : RxFrame} (invariant : RxRingInvariant cfg before.ring)
    (stepped : frameStep cfg hooks outcome before frame = some (after, frames)) :
    Balanced cfg before frame after frames := by
  cases frame with
  | refill caller queued point => exact refill_balanced invariant (Option.some.inj stepped)
  | poll completed point => exact poll_balanced invariant (Option.some.inj stepped)
  | arm caller point =>
    cases point with
    | tail =>
      obtain ⟨rfl, rfl⟩ := stepped
      cases caller <;> exact .passed_on ⟨rfl, rfl, rfl, rfl, rfl, rfl, rfl, rfl, rfl⟩
        ⟨fun _ => rfl, rfl, rfl, rfl, rfl, rfl⟩
    | _ =>
      obtain ⟨rfl, rfl⟩ := stepped
      exact .passed_on ⟨rfl, rfl, rfl, rfl, rfl, rfl, rfl, rfl, rfl⟩
        ⟨fun _ => rfl, rfl, rfl, rfl, rfl, rfl⟩
  | recover point => exact recover_balanced (Option.some.inj stepped)
  | start point =>
    cases point <;> (obtain ⟨rfl, rfl⟩ := stepped) <;>
      exact .passed_on ⟨rfl, rfl, rfl, rfl, rfl, rfl, rfl, rfl, rfl⟩
        ⟨fun _ => rfl, rfl, rfl, rfl, rfl, rfl⟩
  | isr point =>
    cases point with
    | request dmasr =>
      simp only [frameStep, emzRxDirectIsr, emzRxDirectRequestRecover, Option.some.injEq] at stepped
      obtain ⟨rfl, rfl⟩ := stepped
      split <;> (try split) <;>
        exact .passed_on ⟨rfl, rfl, rfl, rfl, rfl, rfl, rfl, rfl, rfl⟩
          ⟨fun _ => rfl, rfl, rfl, rfl, rfl, rfl⟩
    | _ =>
      obtain ⟨rfl, rfl⟩ := stepped
      exact .passed_on ⟨rfl, rfl, rfl, rfl, rfl, rfl, rfl, rfl, rfl⟩
        ⟨fun _ => rfl, rfl, rfl, rfl, rfl, rfl⟩
  | _ => exact ringless_balanced rfl stepped

end Step

/-- What every reachable state satisfies: the ring's invariant, each buffer of the
pool once and no other, and the counters exact up to the frames under way. -/
structure OwnershipInvariant (cfg : Config) (system : RxSystem) : Prop where
  ring : RxRingInvariant cfg system.shared.ring
  buffer : ∀ rx, (bufferAccount cfg rx).balance system = if rx < cfg.rxBufferCount then 1 else 0
  free : freeAccount.balance system = 0
  dma : (dmaAccount cfg).balance system = 0
  ready : readyAccount.balance system = 0
  worker : workerAccount.balance system = 0
  stack : stackAccount.balance system = 0

/-- A balanced step of one context keeps the invariant, because what the frame step adds in one
place it takes from another. -/
theorem advance_ownership {cfg : Config} {before : RxSystem} {context : Nat} {frame : RxFrame}
    {below frames : List RxFrame} {shared : RxShared}
    (invariant : OwnershipInvariant cfg before)
    (found : before.callStacks[context]? = some (frame :: below))
    (ring : RxRingInvariant cfg shared.ring)
    (balanced : Balanced cfg before.shared frame shared frames) :
    OwnershipInvariant cfg ⟨shared, before.callStacks.set context (frames ++ below)⟩ where
  ring := ring
  buffer := fun rx => (balance_advance _ found (balanced.buffer rx)).trans (invariant.buffer rx)
  free := (balance_advance _ found balanced.free).trans invariant.free
  dma := (balance_advance _ found balanced.dma).trans invariant.dma
  ready := (balance_advance _ found balanced.ready).trans invariant.ready
  worker := (balance_advance _ found balanced.worker).trans invariant.worker
  stack := (balance_advance _ found balanced.stack).trans invariant.stack

/-- An entry keeps the invariant when it balances as the step of a frame that
holds nothing would, such as the waiting worker's. -/
theorem enter_ownership {cfg : Config} {before : RxSystem} {context : Nat}
    {frames : List RxFrame} {shared : RxShared} (invariant : OwnershipInvariant cfg before)
    (idle : before.callStacks[context]? = some []) (ring : shared.ring = before.shared.ring)
    (balanced : Balanced cfg before.shared (.worker .get) shared frames) :
    OwnershipInvariant cfg ⟨shared, before.callStacks.set context frames⟩ where
  ring := ring ▸ invariant.ring
  buffer := fun rx => (balance_enter _ idle (balanced.buffer rx)).trans (invariant.buffer rx)
  free := (balance_enter _ idle (balanced.free.trans (add_zero _))).trans invariant.free
  dma := (balance_enter _ idle (balanced.dma.trans (add_zero _))).trans invariant.dma
  ready := (balance_enter _ idle (balanced.ready.trans (add_zero _))).trans invariant.ready
  worker := (balance_enter _ idle (balanced.worker.trans (add_zero _))).trans invariant.worker
  stack := (balance_enter _ idle (balanced.stack.trans (add_zero _))).trans invariant.stack

/-- The engine writes status words and its own registers, which no account mentions, so it keeps
the invariant. -/
theorem engine_ownership {cfg : Config} {before : RxSystem} {event : EngineEvent}
    {shared : RxShared} (invariant : OwnershipInvariant cfg before)
    (stepped : engineStep cfg before.shared event = some shared) :
    OwnershipInvariant cfg { before with shared := shared } := by
  obtain ⟨ring, buffer, free, dma, ready, worker, stack⟩ := invariant
  cases engine_step_effect stepped with
  | complete status running finished =>
    exact ⟨write_status_invariant ring _ _, buffer, free, dma, ready, worker, stack⟩
  | halt errors moving raised => exact ⟨ring, buffer, free, dma, ready, worker, stack⟩
  | scribble index status =>
    exact ⟨write_status_invariant ring _ _, buffer, free, dma, ready, worker, stack⟩

/-- Dropping a fragment moves its buffer from the stack into the hands of the destroy routine,
and keeps the accounts. -/
theorem fragment_balanced {cfg : Config} {before : RxShared} {rx : Nat}
    (member : rx ∈ before.stackFragments) :
    Balanced cfg before (.worker .get)
      { before with stackFragments := before.stackFragments.erase rx } [.destroy rx] := by
  have removed := List.length_erase_of_mem member
  have nonempty := List.length_pos_of_mem member
  constructor
  · intro other
    have counts := (List.perm_cons_erase member).count_eq other
    simp only [List.count_cons, beq_iff_eq] at counts
    simp [Account.Balanced, bufferAccount, placed, RxFrame.held, counts, List.count_cons]
    omega
  all_goals simp [Account.Balanced, freeAccount, dmaAccount, readyAccount, workerAccount,
    stackAccount, removed]
  omega

/-- Every step of the receive path keeps the invariant: a context's top frame, the engine, an
interrupt, a work item or a dropped fragment. -/
theorem rx_step_ownership {cfg : Config} {hooks : Hooks} {before after : RxSystem}
    {label : RxLabel} (invariant : OwnershipInvariant cfg before)
    (taken : rxStep cfg hooks before label = some after) : OwnershipInvariant cfg after := by
  rcases rx_step_cases taken with
    ⟨context, outcome, frame, below, shared, frames, -, found, stepped, rfl⟩ |
    ⟨context, shared, frames, entry, idle, rfl⟩ | ⟨event, shared, -, stepped, rfl⟩
  · exact advance_ownership invariant found (frame_step_ring invariant.ring stepped)
      (frame_step_balanced invariant.ring stepped)
  · cases entry with
    | destroyFragment _ rx other member =>
      exact enter_ownership invariant idle rfl (fragment_balanced member)
    | _ => exact enter_ownership invariant idle rfl (by constructor <;> intros <;> rfl)
  · exact engine_ownership invariant stepped

/-- The cleared ring holds no buffer. -/
theorem start_contents (cfg : Config) :
    Window.contents cfg.rxBufferCount (emzRxDirectStartRing cfg).rxBdBuffer = [] :=
  List.filterMap_eq_nil_iff.mpr (fun _ _ => rfl)

/-- Neither frame of the start, the worker's loop and the start routine, has an amount of any
account. -/
theorem initial_total {M : Type*} [AddMonoid M] (account : Account RxShared RxFrame M)
    (cfg : Config) (extra : Nat) (worker : account.inFrame (.worker .get) = 0)
    (start : account.inFrame (.start .refill) = 0) :
    total account.inFrame (rxInitial cfg extra).callStacks = 0 := by
  refine total_weightless _ ?_
  intro frame present
  rcases initial_present present with rfl | rfl
  · exact worker
  · exact start

/-- Before the ring is started all buffers are on the free FIFO and every counter agrees, so the
invariant holds. -/
theorem initial_ownership (cfg : Config) (extra : Nat) :
    OwnershipInvariant cfg (rxInitial cfg extra) where
  ring := start_ring_invariant cfg
  buffer := fun rx => by
    rw [Account.balance, initial_total _ cfg extra rfl rfl, add_zero]
    have slots := start_contents cfg
    simp [bufferAccount, placed, rxInitial, slots, List.count_range]
  free := by
    rw [Account.balance, initial_total _ cfg extra rfl rfl]
    simp [freeAccount, rxInitial]
  dma := by
    rw [Account.balance, initial_total _ cfg extra rfl rfl]
    have slots := start_contents cfg
    simp [dmaAccount, rxInitial, slots]
  ready := by
    rw [Account.balance, initial_total _ cfg extra rfl rfl]
    simp [readyAccount, rxInitial]
  worker := by
    rw [Account.balance, initial_total _ cfg extra rfl rfl]
    simp [workerAccount, rxInitial]
  stack := by
    rw [Account.balance, initial_total _ cfg extra rfl rfl]
    simp [stackAccount, rxInitial]

section StackLimit

/-- The worker thread's own frame, of which there is exactly one. -/
def RxFrame.isWorker : RxFrame → Nat
  | .worker _ => 1
  | _ => 0

/-- A worker frame between the comparison with the limit and the increment. -/
def RxFrame.attaching : RxFrame → Nat
  | .worker (.attach _) | .worker (.countStack _) => 1
  | _ => 0

attribute [local simp] RxFrame.isWorker RxFrame.attaching

/-- There is one worker frame, and a worker that passed the comparison still has
room under the limit. -/
structure StackLimitInvariant (cfg : Config) (system : RxSystem) : Prop where
  one_worker : total RxFrame.isWorker system.callStacks = 1
  limited : system.shared.rxStackOwnedCount + total RxFrame.attaching system.callStacks ≤
    cfg.rxMaxStackOwnedZerocopy

/-- Outside the worker only the destroy routine touches the counter, and it
decrements it. -/
theorem other_step_limit {cfg : Config} {hooks : Hooks} {outcome : WorkerOutcome}
    {before after : RxShared} {frame : RxFrame} {frames : List RxFrame}
    (stepped : frameStep cfg hooks outcome before frame = some (after, frames))
    (other : frame.isWorker = 0) :
    after.rxStackOwnedCount ≤ before.rxStackOwnedCount ∧
      (frames.map RxFrame.isWorker).sum = 0 ∧ (frames.map RxFrame.attaching).sum = 0 := by
  have requested : (emzRxDirectRequestRecover before).rxStackOwnedCount =
      before.rxStackOwnedCount := by
    obtain ⟨_, _, same⟩ := request_same before
    rw [same]
  cases frame_step_effect stepped with
  | workerGet | workerCountReady | workerCount | workerAccepts | workerCopies | workerLends
  | workerAttaches | workerReleases | workerCountStack | workerUncount | workerSubmits
  | workerDestroys => cases other
  | refillTail caller queued some_queued => cases caller <;> simp
  | pollRequest completed => simp [requested]
  | arm caller point => cases point <;> cases caller <;> simp [emzRxDirectArm]
  | recover point =>
    cases point with
    | countFree orphans => cases orphans <;> simp [emzRxDirectRecover]
    | _ => simp [emzRxDirectRecover, refillEntry]
  | start point => cases point <;> simp [emzRxDirectStart]
  | isr point =>
    cases point with
    | request dmasr =>
      refine ⟨?_, by simp [emzRxDirectIsr], by simp [emzRxDirectIsr]⟩
      simp only [emzRxDirectIsr]
      split <;> simp [requested]
    | _ => simp [emzRxDirectIsr]
  | _ => simp [refillEntry]

/-- The worker's comparison claims room below the limit, its increment uses the
room, and no other step of the worker raises the counter. -/
theorem worker_step_limit {cfg : Config} {outcome : WorkerOutcome} {before after : RxShared}
    {point : WorkerPoint} {frames : List RxFrame}
    (stepped : emzRxThread cfg outcome before point = some (after, frames)) :
    (frames.map RxFrame.isWorker).sum = 1 ∧
      (after.rxStackOwnedCount + (frames.map RxFrame.attaching).sum ≤
          before.rxStackOwnedCount + (RxFrame.worker point).attaching ∨
        (RxFrame.worker point).attaching = 0 ∧
          after.rxStackOwnedCount + (frames.map RxFrame.attaching).sum ≤
            cfg.rxMaxStackOwnedZerocopy) := by
  have effect : FrameEffect cfg deliverAll before (.worker point) after frames :=
    worker_effect stepped
  cases effect with
  | workerLends rx room =>
    refine ⟨rfl, .inr ⟨rfl, ?_⟩⟩
    simp only [List.map_cons, List.map_nil, List.sum_cons, List.sum_nil, RxFrame.attaching]
    omega
  | _ => simp

/-- Attaching is something that only the worker does, so there is at most one attachment at a
time. -/
theorem attaching_le_worker (frame : RxFrame) : frame.attaching ≤ frame.isWorker := by
  cases frame with
  | worker point => cases point <;> simp
  | _ => simp

/-- Every step keeps the limit: only the worker raises the counter, behind its own test of the
limit, and everything else lowers it. -/
theorem rx_step_stack_limit {cfg : Config} {hooks : Hooks} {before after : RxSystem}
    {label : RxLabel} (invariant : StackLimitInvariant cfg before)
    (taken : rxStep cfg hooks before label = some after) : StackLimitInvariant cfg after := by
  obtain ⟨one, limited⟩ := invariant
  rcases rx_step_cases taken with
    ⟨context, outcome, frame, below, shared, frames, -, found, stepped, rfl⟩ |
    ⟨context, shared, frames, entry, idle, rfl⟩ | ⟨event, shared, -, stepped, rfl⟩
  · have workers : total RxFrame.isWorker (before.callStacks.set context (frames ++ below)) +
        frame.isWorker = _ := total_advance RxFrame.isWorker found
    have claims : total RxFrame.attaching (before.callStacks.set context (frames ++ below)) +
        frame.attaching = _ := total_advance RxFrame.attaching found
    cases frame with
    | worker point =>
      obtain ⟨still, unraised | ⟨resting, room⟩⟩ := worker_step_limit stepped
      · rw [still, one] at workers
        exact ⟨Nat.add_right_cancel workers, by simp only; omega⟩
      · have none := total_exclusive attaching_le_worker one.le (present_top found) Nat.one_pos
          resting
        rw [still, one] at workers
        exact ⟨Nat.add_right_cancel workers, by simp only; omega⟩
    | _ =>
      obtain ⟨lower, noWorker, noClaim⟩ := other_step_limit stepped rfl
      simp only [RxFrame.isWorker, RxFrame.attaching] at workers claims
      exact ⟨by simp only; omega, by simp only; omega⟩
  · have workers : total RxFrame.isWorker (before.callStacks.set context frames) = _ :=
      total_enter RxFrame.isWorker idle
    have claims : total RxFrame.attaching (before.callStacks.set context frames) = _ :=
      total_enter RxFrame.attaching idle
    cases entry <;> exact ⟨workers.trans (by simp [one]), by simpa [claims] using limited⟩
  · cases engine_step_effect stepped <;> exact ⟨one, limited⟩

/-- At the start nothing is stack-owned, and the one worker is not attaching. -/
theorem initial_stack_limit (cfg : Config) (extra : Nat) :
    StackLimitInvariant cfg (rxInitial cfg extra) := by
  constructor
  · simp [rxInitial, total]
  · simp [rxInitial, total]

end StackLimit

/-- No routine is in progress: every stack is empty but the worker's, which waits
for a frame. -/
def Quiescent (system : RxSystem) : Prop :=
  ∀ frame, Present system.callStacks frame → frame = .worker .get

/-- In a quiescent state the frames have no part of an account, so its shared part is the whole
balance. -/
theorem quiescent_total {M : Type*} [AddMonoid M] {system : RxSystem}
    (account : Account RxShared RxFrame M) (quiescent : Quiescent system)
    (worker : account.inFrame (.worker .get) = 0) :
    account.balance system = account.inShared system.shared := by
  have weightless : total account.inFrame system.callStacks = 0 := by
    refine total_weightless _ ?_
    intro frame present
    rw [quiescent frame present, worker]
  rw [Account.balance, weightless, add_zero]

/-- In a quiescent state the shared places hold the whole pool, every buffer of it once. -/
theorem quiescent_placed {cfg : Config} {system : RxSystem}
    (invariant : OwnershipInvariant cfg system) (quiescent : Quiescent system) :
    (placed cfg system.shared).length = cfg.rxBufferCount := by
  have whole : (placed cfg system.shared).Perm (List.range cfg.rxBufferCount) := by
    refine List.perm_iff_count.mpr ?_
    intro rx
    have once := invariant.buffer rx
    rw [quiescent_total _ quiescent rfl] at once
    rw [List.count_range]
    exact once
  simpa using whole.length_eq

/-- Buffer ownership over every interleaving and every status word: each buffer of the pool
occurs exactly once among the free FIFO, the ring's slots, the ready FIFO, the stack's fragments
and the hands of running routines, and nothing else occurs there. The zero-copy limit is never
exceeded. Whenever no routine is in progress the five counters are the sizes of their places and
add up to the pool.

Proof: every step moves each buffer from one place to one other, so each of the accounts (places
and counters) is kept by the step lemma of Ownership. At rest the frames on the call stacks hold
and owe nothing, and the accounts become the equations between counters and sizes. -/
theorem rx_buffer_ownership (cfg : Config) (hooks : Hooks) (extra : Nat) (system : RxSystem)
    (run : Run (rxStep cfg hooks) Unrestricted (rxInitial cfg extra) system) :
    (∀ rx, system.shared.rxFreeFifo.count rx +
        (Window.contents cfg.rxBufferCount system.shared.ring.rxBdBuffer).count rx +
        system.shared.rxReadyFifo.count rx + system.shared.stackFragments.count rx +
        total (fun frame => frame.held.count rx) system.callStacks =
      if rx < cfg.rxBufferCount then 1 else 0) ∧
    system.shared.rxStackOwnedCount ≤ cfg.rxMaxStackOwnedZerocopy ∧
    (Quiescent system →
      system.shared.rxFreeCount = system.shared.rxFreeFifo.length ∧
      system.shared.rxDmaFifoCount =
        (Window.contents cfg.rxBufferCount system.shared.ring.rxBdBuffer).length ∧
      system.shared.rxReadyFifoCount = system.shared.rxReadyFifo.length ∧
      system.shared.rxWorkerCount = 0 ∧
      system.shared.rxStackOwnedCount = system.shared.stackFragments.length ∧
      system.shared.rxFreeCount + system.shared.rxDmaFifoCount + system.shared.rxReadyFifoCount +
        system.shared.rxWorkerCount + system.shared.rxStackOwnedCount = cfg.rxBufferCount) := by
  have owned : OwnershipInvariant cfg system :=
    run.invariant (OwnershipInvariant cfg) (initial_ownership cfg extra)
      (fun _ _ _ invariant _ taken => rx_step_ownership invariant taken)
  have limit : StackLimitInvariant cfg system :=
    run.invariant (StackLimitInvariant cfg) (initial_stack_limit cfg extra)
      (fun _ _ _ invariant _ taken => rx_step_stack_limit invariant taken)
  refine ⟨?_, ?_, ?_⟩
  · intro rx
    have once := owned.buffer rx
    simpa [Account.balance, bufferAccount, placed, add_assoc] using once
  · have limited := limit.limited
    omega
  · intro quiescent
    have free := (quiescent_total _ quiescent rfl).symm.trans owned.free
    have dma := (quiescent_total _ quiescent rfl).symm.trans owned.dma
    have ready := (quiescent_total _ quiescent rfl).symm.trans owned.ready
    have worker := (quiescent_total _ quiescent rfl).symm.trans owned.worker
    have stack := (quiescent_total _ quiescent rfl).symm.trans owned.stack
    have whole := quiescent_placed owned quiescent
    simp only [freeAccount, dmaAccount, readyAccount, workerAccount, stackAccount]
      at free dma ready worker stack
    simp only [placed, List.length_append] at whole
    refine ⟨by omega, by omega, by omega, by omega, by omega, by omega⟩

/-- One frame travels from its slot to the stack: with every routine returned, one
buffer is in the ring and the other on a fragment, and the counters add up. -/
theorem rx_buffer_ownership_delivered :
    ∃ system, Run (rxStep twoBufferConfig deliverAll) Unrestricted
        (rxInitial twoBufferConfig 0) system ∧
      system.shared.stackFragments = [0] ∧
      system.shared.rxFreeCount + system.shared.rxDmaFifoCount + system.shared.rxReadyFifoCount +
        system.shared.rxWorkerCount + system.shared.rxStackOwnedCount = 2 := by
  obtain ⟨system, run, reached⟩ := run_of_execution (rxStep twoBufferConfig deliverAll)
    (fun _ _ => true) (rxInitial twoBufferConfig 0)
    (steps 20 initContext .accepted ++ [completeFrame, .interrupt] ++
      steps 12 isrContext .accepted ++ steps 9 workerContext .accepted)
    (fun system => decide (system.callStacks = [[], [], [.worker .get], []] ∧
      system.shared.stackFragments = [0]))
    (fun _ _ _ => trivial) (by decide +kernel)
  obtain ⟨atRest, fragment⟩ := of_decide_eq_true reached
  have quiescent : Quiescent system := by simp [Quiescent, Present, atRest]
  have owned := rx_buffer_ownership twoBufferConfig deliverAll 0 system run
  exact ⟨system, run, fragment, (owned.2.2 quiescent).2.2.2.2.2⟩

end EmaczZephyr.Driver
