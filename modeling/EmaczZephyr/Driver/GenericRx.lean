import EmaczZephyr.Driver.Ownership

/-!
# Receive buffers on the generic DMA path

Without the direct ring the driver leaves the channel to a DMA driver. A refill
configures or reloads the channel for a buffer, puts the buffer on `rx_dma_fifo`
and starts a transfer, and each of the three calls may fail; the callback of a
transfer takes the first buffer of the FIFO. The worker, the releases and the
destroy routine are those of the receive path, with this refill at their ends.

A refill attempt carries, as history, what it has added to the three counters it
moves. Every exit must leave that at zero, and while no start fails every exit
does. A start that fails comes after the buffer was put on `rx_dma_fifo`, and no
undo takes it off again.
-/

namespace EmaczZephyr.Driver

open Contexts Runs

/-- The generic path's build: `cfg->dma` may be absent, and the post limit is a
`uint32_t`. -/
structure DmaConfig extends Config where
  dma : Bool
  max_word : rxMaxInflight < 4294967296

/-- Two buffers and a DMA device, for executions on concrete values. -/
def twoBufferDmaConfig : DmaConfig where
  toConfig := twoBufferConfig
  dma := true
  max_word := by decide

/-- The shared state. Of the ring only `rx_dma_inflight` is in use. `transfers` is
the DMA driver's: the transfers started whose callback is still to come. -/
structure GenericShared where
  rx : RxShared
  rxDmaFifo : List Nat
  dmaIsConfiguredRx : Bool
  transfers : Nat

/-- `rx_dma_inflight`, which both receive paths keep in the same field. -/
def GenericShared.rxDmaInflight (shared : GenericShared) : Nat := shared.rx.ring.rxDmaInflight

/-- A write to `rx_dma_inflight` under `rx_lock`, which leaves the rest of the receive state. -/
def GenericShared.setInflight (shared : GenericShared) (inflight : Nat) : GenericShared :=
  { shared with rx := { shared.rx with ring := { shared.rx.ring with rxDmaInflight := inflight } } }

/-- What a refill attempt has added to `rx_dma_inflight`, `rx_free_count` and
`rx_dma_fifo_count`. -/
structure RefillEffect where
  inflight : Int
  free : Int
  dma : Int
deriving DecidableEq

/-- The counters are as they were before the attempt, so the attempt has not moved any of them. -/
def RefillEffect.none : RefillEffect := ⟨0, 0, 0⟩

/-- A step of an attempt moves the three counters themselves as its history says: by what the
effect behind the step has more than the effect before it. -/
structure RefillEffect.Moves (effect effect' : RefillEffect) (before after : GenericShared) :
    Prop where
  inflight : after.rxDmaInflight + effect.inflight = before.rxDmaInflight + effect'.inflight
  free : after.rx.rxFreeCount + effect.free = before.rx.rxFreeCount + effect'.free
  dma : after.rx.rxDmaFifoCount + effect.dma = before.rx.rxDmaFifoCount + effect'.dma

/-- Program points of `emz_queue_dma_rx_buffer`, one for each access to what the contexts share. -/
inductive QueuePoint where
  | enter
  | config
  | markConfigured
  | reload
  | put
  | countDma
  | start
deriving DecidableEq

/-- Program points of `emz_refill_dma_rx`, with the buffer that the loop has in hand where it has
one. -/
inductive DmaRefillPoint where
  | limit
  | get
  | noFree
  | countFree (rx : Nat)
  | queue (rx : Nat) (point : QueuePoint)
  | undo (rx : Nat)
  | undoCount (rx : Nat)
  | undoPut (rx : Nat)
deriving DecidableEq

/-- Program points of `emz_dma_rx_callback`. The status and the length are what the
DMA driver reports for the transfer. -/
inductive CallbackPoint where
  | get (status : Int) (len : Nat)
  | countDma (rx : Nat) (status : Int) (len : Nat)
  | note (rx : Nat) (status : Int) (len : Nat)
  | uncount (rx : Nat)
  | choose (rx : Nat)
  | countReady (rx : Nat)
  | putReady (rx : Nat)
deriving DecidableEq

/-- What a context of the generic path can be in: a function of the common receive path, the
refill, or the DMA callback. -/
inductive GenericFrame where
  | path (frame : RxFrame)
  | refill (queued : Nat) (effect : RefillEffect) (point : DmaRefillPoint)
  | callback (point : CallbackPoint)
deriving DecidableEq

/-- The outcomes of one step that are decided outside the driver. -/
structure GenericOutcome where
  worker : WorkerOutcome
  /-- The DMA driver's call made in this step returns zero. -/
  dmaWorks : Bool
  /-- The profiling mode drops the callback's frame. -/
  dropAfterDma : Bool
deriving DecidableEq

/-- The first frame of a refill, before its limit test and with nothing queued. -/
def dmaRefillEntry : GenericFrame := .refill 0 RefillEffect.none .limit

/-- A frame of the common path as it runs here: a release calls `emz_refill_dma_rx`, which is
this refill, and everything else is as it was. -/
def genericFrame : RxFrame → GenericFrame
  | .refill _ _ _ => dmaRefillEntry
  | frame => .path frame

/-- `emz_queue_dma_rx_buffer`, point by point, going on in the loop of its caller; each failing
call leads to the undo of the caller. -/
def emzQueueDmaRxBuffer (cfg : DmaConfig) (dmaWorks : Bool) (shared : GenericShared)
    (queued : Nat) (effect : RefillEffect) (rx : Nat) :
    QueuePoint → GenericShared × List GenericFrame
  | .enter =>
      (shared, [.refill queued effect
        (if !cfg.dma then .undo rx
        else if !shared.dmaIsConfiguredRx then .queue rx .config
        else .queue rx .reload)])
  | .config =>
      (shared, [.refill queued effect (if dmaWorks then .queue rx .markConfigured else .undo rx)])
  | .markConfigured =>
      ({ shared with dmaIsConfiguredRx := true }, [.refill queued effect (.queue rx .put)])
  | .reload =>
      (shared, [.refill queued effect (if dmaWorks then .queue rx .put else .undo rx)])
  | .put =>
      ({ shared with rxDmaFifo := shared.rxDmaFifo ++ [rx] },
        [.refill queued effect (.queue rx .countDma)])
  | .countDma =>
      ({ shared with rx := { shared.rx with rxDmaFifoCount := shared.rx.rxDmaFifoCount + 1 } },
        [.refill queued { effect with dma := effect.dma + 1 } (.queue rx .start)])
  -- The buffer stays on `rx_dma_fifo` when the start fails.
  | .start =>
      if dmaWorks then
        ({ shared with transfers := shared.transfers + 1 },
          [.refill (queued + 1) RefillEffect.none .limit])
      else (shared, [.refill queued effect (.undo rx)])

/-- `emz_refill_dma_rx`. Its result is read by `emz_init` alone, which returns. -/
def emzRefillDmaRx (cfg : DmaConfig) (dmaWorks : Bool) (shared : GenericShared) (queued : Nat)
    (effect : RefillEffect) : DmaRefillPoint → GenericShared × List GenericFrame
  | .limit =>
      if cfg.rxMaxInflight ≤ shared.rxDmaInflight then (shared, [])
      else
        (shared.setInflight (Word32.inc shared.rxDmaInflight),
          [.refill queued { effect with inflight := effect.inflight + 1 } .get])
  | .get =>
      match shared.rx.rxFreeFifo with
      | [] => (shared, [.refill queued effect .noFree])
      | rx :: rest =>
          ({ shared with rx := { shared.rx with rxFreeFifo := rest } },
            [.refill queued effect (.countFree rx)])
  | .noFree => (shared.setInflight (Word32.dec shared.rxDmaInflight), [])
  | .countFree rx =>
      ({ shared with rx := { shared.rx with rxFreeCount := shared.rx.rxFreeCount - 1 } },
        [.refill queued { effect with free := effect.free - 1 } (.queue rx .enter)])
  | .queue rx point => emzQueueDmaRxBuffer cfg dmaWorks shared queued effect rx point
  | .undo rx =>
      (shared.setInflight (Word32.dec shared.rxDmaInflight),
        [.refill queued { effect with inflight := effect.inflight - 1 } (.undoCount rx)])
  | .undoCount rx =>
      ({ shared with rx := { shared.rx with rxFreeCount := shared.rx.rxFreeCount + 1 } },
        [.refill queued { effect with free := effect.free + 1 } (.undoPut rx)])
  | .undoPut rx =>
      ({ shared with rx := { shared.rx with rxFreeFifo := shared.rx.rxFreeFifo ++ [rx] } }, [])

/-- `emz_dma_rx_callback`: the first buffer of the DMA FIFO, the counters, and then the profiling
drop or the hand-over to the worker. -/
def emzDmaRxCallback (dropAfterDma : Bool) (shared : GenericShared) :
    CallbackPoint → GenericShared × List GenericFrame
  | .get status len =>
      match shared.rxDmaFifo with
      | [] => (shared, [])
      | rx :: rest => ({ shared with rxDmaFifo := rest }, [.callback (.countDma rx status len)])
  | .countDma rx status len =>
      ({ shared with rx := { shared.rx with rxDmaFifoCount := shared.rx.rxDmaFifoCount - 1 } },
        [.callback (.note rx status len)])
  | .note rx status len =>
      ({ shared with rx :=
          { shared.rx with
            rxStatus := Function.update shared.rx.rxStatus rx status
            rxLen := Function.update shared.rx.rxLen rx len } },
        [.callback (.uncount rx)])
  | .uncount rx =>
      (if 0 < shared.rxDmaInflight then shared.setInflight (Word32.dec shared.rxDmaInflight)
      else shared,
      [.callback (.choose rx)])
  | .choose rx =>
      (shared, if dropAfterDma then [.path (.releaseCount rx)] else [.callback (.countReady rx)])
  | .countReady rx =>
      ({ shared with rx := { shared.rx with rxReadyFifoCount := shared.rx.rxReadyFifoCount + 1 } },
        [.callback (.putReady rx)])
  | .putReady rx =>
      ({ shared with rx := { shared.rx with rxReadyFifo := shared.rx.rxReadyFifo ++ [rx] } }, [])

/-- One step of the routine on top of a stack. The hooks of the receive path are
asked by its ring poll only. -/
def genericFrameStep (cfg : DmaConfig) (outcome : GenericOutcome) (shared : GenericShared) :
    GenericFrame → Option (GenericShared × List GenericFrame)
  | .path frame =>
      (frameStep cfg.toConfig deliverAll outcome.worker shared.rx frame).map (fun next =>
        ({ shared with rx := next.1 }, next.2.map genericFrame))
  | .refill queued effect point =>
      some (emzRefillDmaRx cfg outcome.dmaWorks shared queued effect point)
  | .callback point => some (emzDmaRxCallback outcome.dropAfterDma shared point)

/-- The shared receive state, and the call stack of every context. -/
abbrev GenericSystem := Configuration GenericShared GenericFrame

/-- What can happen next: a context runs its top frame, the DMA driver calls back, or a thread
drops a fragment. -/
inductive GenericLabel where
  /-- A context runs its top frame. -/
  | run (context : Nat) (outcome : GenericOutcome)
  /-- The DMA driver calls back for one of the transfers started. -/
  | callback (context : Nat) (status : Int) (len : Nat)
  /-- A thread drops the last reference to a zero-copy fragment. -/
  | destroyFragment (context : Nat) (rx : Nat)
deriving DecidableEq

/-- One step of the generic path: a frame of one context, a callback for a transfer that was
started, or the entry of a release. -/
def genericStep (cfg : DmaConfig) (system : GenericSystem) : GenericLabel → Option GenericSystem
  | .run context outcome => advance (genericFrameStep cfg outcome) context system
  | .callback context status len =>
      if 0 < system.shared.transfers then
        enter context { system.shared with transfers := system.shared.transfers - 1 }
          [.callback (.get status len)] system
      else none
  | .destroyFragment context rx =>
      if rx ∈ system.shared.rx.stackFragments then
        enter context
          { system.shared with
            rx := { system.shared.rx with
              stackFragments := system.shared.rx.stackFragments.erase rx } }
          [.path (.destroy rx)] system
      else none

/-- The state in which `emz_init` calls `emz_refill_dma_rx`: every buffer is on
`rx_free_fifo`, the worker waits, and `extra` further threads are idle. -/
def genericInitial (cfg : DmaConfig) (extra : Nat) : GenericSystem where
  shared :=
    { rx := (rxInitial cfg.toConfig 0).shared
      rxDmaFifo := []
      dmaIsConfiguredRx := false
      transfers := 0 }
  callStacks := [[], [], [.path (.worker .get)], [dmaRefillEntry]] ++ List.replicate extra []

/-- A step is a frame step of one context or an entry of an idle one. -/
theorem generic_step_cases {cfg : DmaConfig} {before after : GenericSystem}
    {label : GenericLabel} (taken : genericStep cfg before label = some after) :
    (∃ context outcome frame below shared frames, label = .run context outcome ∧
      before.callStacks[context]? = some (frame :: below) ∧
      genericFrameStep cfg outcome before.shared frame = some (shared, frames) ∧
      after = ⟨shared, before.callStacks.set context (frames ++ below)⟩) ∨
    (∃ context status len, label = .callback context status len ∧
      before.callStacks[context]? = some [] ∧
      after = ⟨{ before.shared with transfers := before.shared.transfers - 1 },
        before.callStacks.set context [.callback (.get status len)]⟩) ∨
    ∃ context rx, label = .destroyFragment context rx ∧
      rx ∈ before.shared.rx.stackFragments ∧ before.callStacks[context]? = some [] ∧
      after = ⟨{ before.shared with
          rx := { before.shared.rx with
            stackFragments := before.shared.rx.stackFragments.erase rx } },
        before.callStacks.set context [.path (.destroy rx)]⟩ := by
  cases label with
  | run context outcome =>
    obtain ⟨frame, below, shared, frames, found, stepped, same⟩ := advance_cases taken
    exact .inl ⟨context, outcome, frame, below, shared, frames, rfl, found, stepped, same⟩
  | callback context status len =>
    simp only [genericStep] at taken
    split at taken
    · obtain ⟨idle, same⟩ := enter_cases taken
      exact .inr (.inl ⟨context, status, len, rfl, idle, same⟩)
    · cases taken
  | destroyFragment context rx =>
    simp only [genericStep] at taken
    split at taken
    · rename_i member
      obtain ⟨idle, same⟩ := enter_cases taken
      exact .inr (.inr ⟨context, rx, rfl, member, idle, same⟩)
    · cases taken

/-- The buffers a frame has in hand. A buffer that was put on `rx_dma_fifo` is no
longer the refill's. -/
def GenericFrame.held : GenericFrame → List Nat
  | .path frame => frame.held
  | .refill _ _ (.countFree rx) => [rx]
  | .refill _ _ (.queue _ .countDma) | .refill _ _ (.queue _ .start) => []
  | .refill _ _ (.queue rx _) => [rx]
  | .refill _ _ (.undo rx) | .refill _ _ (.undoCount rx) | .refill _ _ (.undoPut rx) => [rx]
  | .callback (.countDma rx _ _) | .callback (.note rx _ _) | .callback (.uncount rx) => [rx]
  | .callback (.choose rx) | .callback (.countReady rx) | .callback (.putReady rx) => [rx]
  | _ => []

/-- The part of `rx_dma_inflight` that stands for no buffer on `rx_dma_fifo`: a
refill reserves before it puts, and a callback gives back after it took. -/
def GenericFrame.reserving : GenericFrame → Nat
  | .refill _ _ (.queue _ .countDma) | .refill _ _ (.queue _ .start) => 0
  | .refill _ _ .get | .refill _ _ .noFree => 1
  | .refill _ _ (.countFree _) | .refill _ _ (.queue _ _) | .refill _ _ (.undo _) => 1
  | .callback (.countDma _ _ _) | .callback (.note _ _ _) | .callback (.uncount _) => 1
  | _ => 0

/-- The part of `rx_dma_inflight` that `rx_dma_fifo_count` does not count: an attempt reserves
first and counts its buffer last. -/
def GenericFrame.uncounted : GenericFrame → Nat
  | .refill _ _ (.queue _ .start) => 0
  | .refill _ _ .get | .refill _ _ .noFree => 1
  | .refill _ _ (.countFree _) | .refill _ _ (.queue _ _) | .refill _ _ (.undo _) => 1
  | .callback (.note _ _ _) | .callback (.uncount _) => 1
  | _ => 0

/-- What an attempt has added to the counters at each point, when no start failed. -/
def DmaRefillPoint.effect : DmaRefillPoint → RefillEffect
  | .limit | .undoPut _ => .none
  | .get | .noFree | .countFree _ => ⟨1, 0, 0⟩
  | .queue _ .start => ⟨1, -1, 1⟩
  | .queue _ _ | .undo _ => ⟨1, -1, 0⟩
  | .undoCount _ => ⟨0, -1, 0⟩

/-- The frames of runs without a failed start: routines that leave the ring alone,
and refills whose effect is that of their point. -/
def GenericFrame.Sound : GenericFrame → Prop
  | .path frame => frame.ringless = true
  | .refill _ effect point => effect = point.effect
  | .callback _ => True

/-- The occurrences of one buffer: on the free, the DMA and the ready FIFO, among the fragments
of the stack, and in the hands of a frame. -/
def genericBufferAccount (rx : Nat) : Account GenericShared GenericFrame Nat where
  inShared := fun shared => shared.rx.rxFreeFifo.count rx + shared.rxDmaFifo.count rx +
    shared.rx.rxReadyFifo.count rx + shared.rx.stackFragments.count rx
  inFrame := fun frame => frame.held.count rx

/-- A frame step keeps the buffers' account, changes the reserved and the counted
parts of `rx_dma_inflight` with it, respects the limit and leaves sound frames. -/
structure GenericBalanced (cfg : DmaConfig) (before : GenericShared) (frame : GenericFrame)
    (after : GenericShared) (frames : List GenericFrame) : Prop where
  buffer : ∀ rx, (genericBufferAccount rx).Balanced before frame after frames
  reserved : after.rxDmaInflight + before.rxDmaFifo.length + frame.reserving =
    before.rxDmaInflight + after.rxDmaFifo.length + (frames.map GenericFrame.reserving).sum
  counted : after.rxDmaInflight + before.rx.rxDmaFifoCount + frame.uncounted =
    before.rxDmaInflight + after.rx.rxDmaFifoCount +
      ((frames.map GenericFrame.uncounted).sum : Nat)
  limited : after.rxDmaInflight ≤ cfg.rxMaxInflight
  sound : ∀ next ∈ frames, next.Sound

/-- The worker and the releases leave the ring and `rx_dma_fifo_count`, and end in
each other or in a refill. -/
theorem ringless_step {cfg : Config} {hooks : Hooks} {outcome : WorkerOutcome}
    {before after : RxShared} {frame : RxFrame} {frames : List RxFrame}
    (ringless : frame.ringless = true)
    (stepped : frameStep cfg hooks outcome before frame = some (after, frames)) :
    after.ring = before.ring ∧ after.rxDmaFifoCount = before.rxDmaFifoCount ∧
      ∀ next ∈ frames, next.ringless = true ∨ next = refillEntry := by
  cases frame with
  | worker point | releaseCount rx | releasePut rx | releaseFromWorker rx | destroy rx =>
    cases frame_step_effect stepped <;> simp [RxFrame.ringless]
  | _ => cases ringless

/-- A frame that a release or the worker leaves is sound, holds what it held there
and has no part of `rx_dma_inflight`. -/
theorem generic_frame_facts {frame : RxFrame} (left : frame.ringless = true ∨ frame = refillEntry) :
    (genericFrame frame).Sound ∧ (genericFrame frame).held = frame.held ∧
      (genericFrame frame).reserving = 0 ∧ (genericFrame frame).uncounted = 0 := by
  rcases left with ringless | rfl
  · cases frame with
    | refill caller queued point => cases ringless
    | _ => exact ⟨ringless, rfl, rfl, rfl⟩
  · exact ⟨rfl, rfl, rfl, rfl⟩

/-- Frames that have no part of a weight add nothing to its sum over a call stack. -/
theorem generic_frames_sum {weight : GenericFrame → Nat} {frames : List RxFrame}
    (weightless : ∀ next ∈ frames, weight (genericFrame next) = 0) :
    ((frames.map genericFrame).map weight).sum = 0 := by
  refine List.sum_eq_zero ?_
  intro value member
  obtain ⟨next, inside, rfl⟩ := List.mem_map.mp (List.map_map ▸ member)
  exact weightless next inside

/-- The worker and the releases keep the accounts of the receive path, whose slots
are empty of change. -/
theorem path_balanced {cfg : DmaConfig} {outcome : WorkerOutcome} {before : GenericShared}
    {after : RxShared} {frame : RxFrame} {frames : List RxFrame}
    (ringless : frame.ringless = true) (limited : before.rxDmaInflight ≤ cfg.rxMaxInflight)
    (stepped : frameStep cfg.toConfig deliverAll outcome before.rx frame = some (after, frames)) :
    GenericBalanced cfg before (.path frame) { before with rx := after }
      (frames.map genericFrame) := by
  obtain ⟨ring, count, left⟩ := ringless_step ringless stepped
  have facts (next : RxFrame) (member : next ∈ frames) := generic_frame_facts (left next member)
  have inflight : ({ before with rx := after } : GenericShared).rxDmaInflight =
      before.rxDmaInflight := congrArg RxRing.rxDmaInflight ring
  constructor
  · intro rx
    have balanced := (ringless_balanced ringless stepped).buffer rx
    have held : ((frames.map genericFrame).map (fun next => next.held.count rx)).sum =
        (frames.map (fun next => next.held.count rx)).sum := by
      rw [List.map_map]
      refine congrArg List.sum (List.map_congr_left ?_)
      intro next member
      exact congrArg (List.count rx) (facts next member).2.1
    simp only [Account.Balanced, bufferAccount, placed, ring, List.count_append] at balanced
    have own : (GenericFrame.path frame).held = frame.held := rfl
    simp only [Account.Balanced, genericBufferAccount, held, own]
    omega
  · have none := generic_frames_sum (fun next member => (facts next member).2.2.1)
    rw [none, inflight]
    rfl
  · have none := generic_frames_sum (fun next member => (facts next member).2.2.2)
    rw [none, inflight]
    simp [GenericFrame.uncounted, count]
  · exact inflight ▸ limited
  · intro next member
    obtain ⟨original, inside, rfl⟩ := List.mem_map.mp member
    exact (facts original inside).1

/-- No buffer changes its place, and neither `rx_dma_inflight` nor its count is written. -/
structure Unmoved (before after : GenericShared) : Prop where
  free : after.rx.rxFreeFifo = before.rx.rxFreeFifo
  dma : after.rxDmaFifo = before.rxDmaFifo
  ready : after.rx.rxReadyFifo = before.rx.rxReadyFifo
  stack : after.rx.stackFragments = before.rx.stackFragments
  inflight : after.rxDmaInflight = before.rxDmaInflight
  count : after.rx.rxDmaFifoCount = before.rx.rxDmaFifoCount

/-- Leaving everything as it was moves nothing. -/
theorem Unmoved.refl (shared : GenericShared) : Unmoved shared shared :=
  ⟨rfl, rfl, rfl, rfl, rfl, rfl⟩

/-- The next frame has what the frame had: the same buffer, the same reservation, the same part
that is not counted. -/
structure HandsOn (frame next : GenericFrame) : Prop where
  held : next.held = frame.held
  reserving : next.reserving = frame.reserving
  uncounted : next.uncounted = frame.uncounted

/-- A step that moves nothing and hands on what its frame had is balanced. -/
theorem GenericBalanced.handed_on {cfg : DmaConfig} {before after : GenericShared}
    {frame next : GenericFrame} (unmoved : Unmoved before after) (hands : HandsOn frame next)
    (limited : before.rxDmaInflight ≤ cfg.rxMaxInflight) (sound : next.Sound) :
    GenericBalanced cfg before frame after [next] where
  buffer rx := by
    simp only [Account.Balanced, genericBufferAccount, unmoved.free, unmoved.dma, unmoved.ready,
      unmoved.stack, List.map_cons, List.map_nil, List.sum_singleton, hands.held]
  reserved := by
    rw [unmoved.inflight, unmoved.dma, List.map_singleton, List.sum_singleton, hands.reserving]
  counted := by
    rw [unmoved.inflight, unmoved.count, List.map_singleton, List.sum_singleton, hands.uncounted]
  limited := unmoved.inflight ▸ limited
  sound other member := List.mem_singleton.mp member ▸ sound

section Step

attribute [local simp] Account.Balanced genericBufferAccount GenericFrame.held
  GenericFrame.reserving GenericFrame.uncounted GenericFrame.Sound DmaRefillPoint.effect
  GenericShared.rxDmaInflight GenericShared.setInflight RefillEffect.none List.count_cons

variable {cfg : DmaConfig} {before after : GenericShared} {frames : List GenericFrame}

/-- The queue routine moves the buffer to `rx_dma_fifo` or hands it back, as long as
its start succeeds. -/
theorem queue_balanced {dmaWorks : Bool} {queued rx : Nat} {effect : RefillEffect}
    {point : QueuePoint} (sound : effect = (DmaRefillPoint.queue rx point).effect)
    (starts : point = .start → dmaWorks = true)
    (limited : before.rxDmaInflight ≤ cfg.rxMaxInflight)
    (stepped : emzQueueDmaRxBuffer cfg dmaWorks before queued effect rx point = (after, frames)) :
    GenericBalanced cfg before (.refill queued effect (.queue rx point)) after frames := by
  subst sound
  have bound : before.rx.ring.rxDmaInflight ≤ cfg.rxMaxInflight := limited
  cases point with
  | enter =>
    obtain ⟨rfl, rfl⟩ := stepped
    split
    · exact .handed_on (.refl _) ⟨rfl, rfl, rfl⟩ limited rfl
    · split <;> exact .handed_on (.refl _) ⟨rfl, rfl, rfl⟩ limited rfl
  | config | reload =>
    obtain ⟨rfl, rfl⟩ := stepped
    split <;> exact .handed_on (.refl _) ⟨rfl, rfl, rfl⟩ limited rfl
  | markConfigured =>
    obtain ⟨rfl, rfl⟩ := stepped
    exact .handed_on ⟨rfl, rfl, rfl, rfl, rfl, rfl⟩ ⟨rfl, rfl, rfl⟩ limited rfl
  | put =>
    obtain ⟨rfl, rfl⟩ := stepped
    constructor <;> simp [bound] <;> omega
  | countDma =>
    obtain ⟨rfl, rfl⟩ := stepped
    constructor <;> simp [bound]
    omega
  | start =>
    simp only [emzQueueDmaRxBuffer, starts rfl, if_true] at stepped
    obtain ⟨rfl, rfl⟩ := stepped
    exact .handed_on ⟨rfl, rfl, rfl, rfl, rfl, rfl⟩ ⟨rfl, rfl, rfl⟩ limited rfl

/-- The refill reserves a place under the limit before it takes a buffer, and gives
the place back when it has none to queue. -/
theorem dma_refill_balanced {dmaWorks : Bool} {queued : Nat} {effect : RefillEffect}
    {point : DmaRefillPoint} (sound : effect = point.effect)
    (starts : ∀ rx, point = .queue rx .start → dmaWorks = true)
    (limited : before.rxDmaInflight ≤ cfg.rxMaxInflight)
    (reserved : (GenericFrame.refill queued effect point).reserving ≤ before.rxDmaInflight)
    (stepped : emzRefillDmaRx cfg dmaWorks before queued effect point = (after, frames)) :
    GenericBalanced cfg before (.refill queued effect point) after frames := by
  have word := cfg.max_word
  have bound : before.rx.ring.rxDmaInflight ≤ cfg.rxMaxInflight := limited
  have exact_dec (positive : 1 ≤ before.rxDmaInflight) :
      Word32.dec before.rxDmaInflight = before.rxDmaInflight - 1 :=
    Word32.dec_exact positive (by omega)
  cases point with
  | queue rx point =>
    exact queue_balanced sound (fun start => starts rx (congrArg _ start)) limited stepped
  | limit =>
    subst sound
    simp only [emzRefillDmaRx] at stepped
    split at stepped
    · obtain ⟨rfl, rfl⟩ := stepped
      constructor <;> simp [bound]
    · rename_i room
      have exact_inc : Word32.inc before.rxDmaInflight = before.rxDmaInflight + 1 :=
        Word32.inc_exact (by omega)
      rw [exact_inc] at stepped
      obtain ⟨rfl, rfl⟩ := stepped
      have below : before.rx.ring.rxDmaInflight < cfg.rxMaxInflight := Nat.lt_of_not_le room
      constructor <;> simp <;> omega
  | get =>
    subst sound
    simp only [emzRefillDmaRx] at stepped
    split at stepped
    · obtain ⟨rfl, rfl⟩ := stepped
      exact .handed_on (.refl _) ⟨rfl, rfl, rfl⟩ limited rfl
    · rename_i rx rest free
      obtain ⟨rfl, rfl⟩ := stepped
      constructor <;> simp [free, bound]
      omega
  | noFree =>
    subst sound
    simp only [emzRefillDmaRx, exact_dec reserved] at stepped
    obtain ⟨rfl, rfl⟩ := stepped
    have positive : 1 ≤ before.rx.ring.rxDmaInflight := reserved
    constructor <;> simp <;> omega
  | undo rx =>
    subst sound
    simp only [emzRefillDmaRx, exact_dec reserved] at stepped
    obtain ⟨rfl, rfl⟩ := stepped
    have positive : 1 ≤ before.rx.ring.rxDmaInflight := reserved
    constructor <;> simp <;> omega
  | countFree rx | undoCount rx =>
    subst sound
    obtain ⟨rfl, rfl⟩ := stepped
    exact .handed_on ⟨rfl, rfl, rfl, rfl, rfl, rfl⟩ ⟨rfl, rfl, rfl⟩ limited rfl
  | undoPut rx =>
    subst sound
    obtain ⟨rfl, rfl⟩ := stepped
    constructor <;> simp [bound]
    omega

/-- The history of an attempt is exact: until the attempt ends, a step adds to the
counters what it adds to the effect. One case for each program point; the room below the limit
and the reservation of the frame keep the machine's counter from wrapping. -/
theorem refill_effect_exact {dmaWorks : Bool} {queued queued' : Nat} {effect effect' : RefillEffect}
    {point point' : DmaRefillPoint} (limited : before.rxDmaInflight ≤ cfg.rxMaxInflight)
    (reserved : (GenericFrame.refill queued effect point).reserving ≤ before.rxDmaInflight)
    (stepped : emzRefillDmaRx cfg dmaWorks before queued effect point =
      (after, [.refill queued' effect' point']))
    (underway : point' ≠ .limit) : effect.Moves effect' before after := by
  have word := cfg.max_word
  cases point with
  | queue rx point =>
    cases point with
    | countDma =>
      cases stepped
      constructor <;> simp
      omega
    | start =>
      simp only [emzRefillDmaRx, emzQueueDmaRxBuffer] at stepped
      split at stepped <;> cases stepped
      · contradiction
      · constructor <;> rfl
    | _ =>
      cases stepped
      constructor <;> rfl
  | limit =>
    simp only [emzRefillDmaRx] at stepped
    split at stepped
    · cases stepped
    · rename_i room
      have exact_inc : Word32.inc before.rxDmaInflight = before.rxDmaInflight + 1 :=
        Word32.inc_exact (by omega)
      rw [exact_inc] at stepped
      cases stepped
      constructor <;> simp
      omega
  | get =>
    simp only [emzRefillDmaRx] at stepped
    split at stepped <;> cases stepped <;> constructor <;> rfl
  | undo rx =>
    have exact_dec : Word32.dec before.rxDmaInflight = before.rxDmaInflight - 1 :=
      Word32.dec_exact reserved (by omega)
    have positive : 1 ≤ before.rx.ring.rxDmaInflight := reserved
    simp only [emzRefillDmaRx, exact_dec] at stepped
    cases stepped
    constructor <;> simp
    omega
  | noFree | undoPut rx => cases stepped
  | countFree rx | undoCount rx =>
    cases stepped
    constructor <;> simp
    omega

/-- An attempt that finds no free buffer has added its reservation only, and takes it back. -/
theorem refill_no_free_exact {dmaWorks : Bool} {queued : Nat} {effect : RefillEffect}
    (sound : (GenericFrame.refill queued effect .noFree).Sound)
    (limited : before.rxDmaInflight ≤ cfg.rxMaxInflight)
    (reserved : (GenericFrame.refill queued effect .noFree).reserving ≤ before.rxDmaInflight)
    (stepped : emzRefillDmaRx cfg dmaWorks before queued effect .noFree = (after, frames)) :
    effect.Moves RefillEffect.none before after := by
  have word := cfg.max_word
  have exact_dec : Word32.dec before.rxDmaInflight = before.rxDmaInflight - 1 :=
    Word32.dec_exact reserved (by omega)
  have positive : 1 ≤ before.rx.ring.rxDmaInflight := reserved
  obtain rfl : effect = ⟨1, 0, 0⟩ := sound
  simp only [emzRefillDmaRx, exact_dec] at stepped
  cases stepped
  constructor <;> simp [RefillEffect.none]
  omega

/-- The callback moves the first buffer of `rx_dma_fifo` through its own hands to
`rx_ready_fifo`, or to a release. -/
theorem callback_balanced {dropAfterDma : Bool} {point : CallbackPoint}
    (limited : before.rxDmaInflight ≤ cfg.rxMaxInflight)
    (reserved : (GenericFrame.callback point).reserving ≤ before.rxDmaInflight)
    (stepped : emzDmaRxCallback dropAfterDma before point = (after, frames)) :
    GenericBalanced cfg before (.callback point) after frames := by
  have word := cfg.max_word
  have bound : before.rx.ring.rxDmaInflight ≤ cfg.rxMaxInflight := limited
  cases point with
  | get status len =>
    simp only [emzDmaRxCallback] at stepped
    split at stepped
    · obtain ⟨rfl, rfl⟩ := stepped
      constructor <;> simp [bound]
    · rename_i rx rest nonempty
      obtain ⟨rfl, rfl⟩ := stepped
      constructor <;> simp [nonempty, bound] <;> omega
  | countDma rx status len =>
    obtain ⟨rfl, rfl⟩ := stepped
    constructor <;> simp [bound]
    omega
  | note rx status len =>
    obtain ⟨rfl, rfl⟩ := stepped
    exact .handed_on ⟨rfl, rfl, rfl, rfl, rfl, rfl⟩ ⟨rfl, rfl, rfl⟩ limited trivial
  | uncount rx =>
    have positive : 0 < before.rxDmaInflight := reserved
    have exact_dec : Word32.dec before.rxDmaInflight = before.rxDmaInflight - 1 :=
      Word32.dec_exact positive (by omega)
    simp only [emzDmaRxCallback, positive, if_true, exact_dec] at stepped
    obtain ⟨rfl, rfl⟩ := stepped
    have present : 1 ≤ before.rx.ring.rxDmaInflight := positive
    constructor <;> simp <;> omega
  | choose rx =>
    simp only [emzDmaRxCallback] at stepped
    obtain ⟨rfl, rfl⟩ := stepped
    split
    · exact .handed_on (.refl _) ⟨rfl, rfl, rfl⟩ limited rfl
    · exact .handed_on (.refl _) ⟨rfl, rfl, rfl⟩ limited trivial
  | countReady rx =>
    obtain ⟨rfl, rfl⟩ := stepped
    exact .handed_on ⟨rfl, rfl, rfl, rfl, rfl, rfl⟩ ⟨rfl, rfl, rfl⟩ limited trivial
  | putReady rx =>
    obtain ⟨rfl, rfl⟩ := stepped
    constructor <;> simp [bound]
    omega

end Step

/-- Every call of `dma_start` returns zero, the condition of the theorem as a test on the state
before the step. -/
def startsSucceed (system : GenericSystem) : GenericLabel → Bool
  | .run context outcome =>
      match system.callStacks[context]? with
      | some (.refill _ _ (.queue _ .start) :: _) => outcome.dmaWorks
      | _ => true
  | _ => true

/-- What every state satisfies that is reached without a failed start: each buffer
of the pool once and no other, and `rx_dma_inflight` as the buffers on
`rx_dma_fifo`, and as their counter, up to the frames under way. -/
structure GenericInvariant (cfg : DmaConfig) (system : GenericSystem) : Prop where
  buffer : ∀ rx, (genericBufferAccount rx).balance system = if rx < cfg.rxBufferCount then 1 else 0
  reserved : system.shared.rxDmaInflight =
    system.shared.rxDmaFifo.length + total GenericFrame.reserving system.callStacks
  counted : (system.shared.rxDmaInflight : Int) =
    system.shared.rx.rxDmaFifoCount + (total GenericFrame.uncounted system.callStacks : Nat)
  limited : system.shared.rxDmaInflight ≤ cfg.rxMaxInflight
  sound : ∀ frame, Present system.callStacks frame → frame.Sound

/-- Every frame step keeps the accounts of buffers and counters when its start succeeds; one case
for each program point. -/
theorem generic_frame_balanced {cfg : DmaConfig} {outcome : GenericOutcome}
    {before after : GenericShared} {frame : GenericFrame} {frames : List GenericFrame}
    (sound : frame.Sound)
    (starts : ∀ queued effect rx, frame = .refill queued effect (.queue rx .start) →
      outcome.dmaWorks = true)
    (limited : before.rxDmaInflight ≤ cfg.rxMaxInflight)
    (reserved : frame.reserving ≤ before.rxDmaInflight)
    (stepped : genericFrameStep cfg outcome before frame = some (after, frames)) :
    GenericBalanced cfg before frame after frames := by
  cases frame with
  | path frame =>
    obtain ⟨⟨shared, next⟩, taken, same⟩ := Option.map_eq_some_iff.mp stepped
    obtain ⟨rfl, rfl⟩ := Prod.mk.inj same
    exact path_balanced sound limited taken
  | refill queued effect point =>
    have succeeds (rx : Nat) (start : point = .queue rx .start) : outcome.dmaWorks = true :=
      starts queued effect rx (by rw [start])
    exact dma_refill_balanced sound succeeds limited reserved (Option.some.inj stepped)
  | callback point => exact callback_balanced limited reserved (Option.some.inj stepped)

/-- A context's step keeps the invariant: the accounts balance between the shared state and the
frames that replace the top one. -/
theorem generic_advance_invariant {cfg : DmaConfig} {before : GenericSystem} {context : Nat}
    {frame : GenericFrame} {below frames : List GenericFrame} {shared : GenericShared}
    (invariant : GenericInvariant cfg before)
    (found : before.callStacks[context]? = some (frame :: below))
    (balanced : GenericBalanced cfg before.shared frame shared frames) :
    GenericInvariant cfg ⟨shared, before.callStacks.set context (frames ++ below)⟩ where
  buffer := fun rx => (balance_advance _ found (balanced.buffer rx)).trans (invariant.buffer rx)
  reserved := by
    have exchanged : total GenericFrame.reserving
        (before.callStacks.set context (frames ++ below)) + frame.reserving = _ :=
      total_advance GenericFrame.reserving found
    have reserved := invariant.reserved
    have kept := balanced.reserved
    change shared.rxDmaInflight = shared.rxDmaFifo.length +
      total GenericFrame.reserving (before.callStacks.set context (frames ++ below))
    omega
  counted := by
    have exchanged : total GenericFrame.uncounted
        (before.callStacks.set context (frames ++ below)) + frame.uncounted = _ :=
      total_advance GenericFrame.uncounted found
    have counted := invariant.counted
    have kept := balanced.counted
    change (shared.rxDmaInflight : Int) = shared.rx.rxDmaFifoCount +
      (total GenericFrame.uncounted (before.callStacks.set context (frames ++ below)) : Nat)
    omega
  limited := balanced.limited
  sound := by
    intro next present
    rcases present_advance found present with new | old
    · exact balanced.sound next new
    · exact invariant.sound next old

/-- An entry that moves buffers from the shared state into frames without a part of
`rx_dma_inflight` keeps the invariant. -/
theorem generic_enter_invariant {cfg : DmaConfig} {before : GenericSystem} {context : Nat}
    {first : GenericFrame} {shared : GenericShared} (invariant : GenericInvariant cfg before)
    (idle : before.callStacks[context]? = some [])
    (buffer : ∀ rx, (genericBufferAccount rx).inShared shared + first.held.count rx =
      (genericBufferAccount rx).inShared before.shared)
    (inflight : shared.rxDmaInflight = before.shared.rxDmaInflight)
    (fifo : shared.rxDmaFifo = before.shared.rxDmaFifo)
    (count : shared.rx.rxDmaFifoCount = before.shared.rx.rxDmaFifoCount)
    (reserving : first.reserving = 0) (uncounted : first.uncounted = 0) (sound : first.Sound) :
    GenericInvariant cfg ⟨shared, before.callStacks.set context [first]⟩ where
  buffer := fun rx =>
    (balance_enter _ idle (by simpa [genericBufferAccount] using buffer rx)).trans
      (invariant.buffer rx)
  reserved := by
    have added : total GenericFrame.reserving (before.callStacks.set context [first]) = _ :=
      total_enter GenericFrame.reserving idle
    simpa [inflight, fifo, added, reserving] using invariant.reserved
  counted := by
    have added : total GenericFrame.uncounted (before.callStacks.set context [first]) = _ :=
      total_enter GenericFrame.uncounted idle
    simpa [inflight, count, added, uncounted] using invariant.counted
  limited := inflight ▸ invariant.limited
  sound := by
    intro next present
    rcases present_set present with new | old
    · exact List.mem_singleton.mp new ▸ sound
    · exact invariant.sound next old

/-- What the running frame of a context has reserved is part of `rx_dma_inflight`, so giving it
back never takes the counter below zero. -/
theorem GenericInvariant.reserved_top {cfg : DmaConfig} {system : GenericSystem} {context : Nat}
    {frame : GenericFrame} {below : List GenericFrame} (invariant : GenericInvariant cfg system)
    (found : system.callStacks[context]? = some (frame :: below)) :
    frame.reserving ≤ system.shared.rxDmaInflight := by
  have part := weight_le_total GenericFrame.reserving (present_top found)
  have exactly := invariant.reserved
  omega

/-- Every step without a failed start keeps the invariant: a frame of a context, a callback, or
the entry of a release. -/
theorem generic_step_invariant {cfg : DmaConfig} {before after : GenericSystem}
    {label : GenericLabel} (invariant : GenericInvariant cfg before)
    (starts : startsSucceed before label = true)
    (taken : genericStep cfg before label = some after) : GenericInvariant cfg after := by
  rcases generic_step_cases taken with
    ⟨context, outcome, frame, below, shared, frames, rfl, found, stepped, rfl⟩ |
    ⟨context, status, len, -, idle, rfl⟩ | ⟨context, rx, -, member, idle, rfl⟩
  · have succeeds (queued : Nat) (effect : RefillEffect) (rx : Nat)
        (start : frame = .refill queued effect (.queue rx .start)) : outcome.dmaWorks = true := by
      simpa [startsSucceed, found, start] using starts
    exact generic_advance_invariant invariant found
      (generic_frame_balanced (invariant.sound frame (present_top found)) succeeds
        invariant.limited (invariant.reserved_top found) stepped)
  · exact generic_enter_invariant invariant idle (fun _ => rfl) rfl rfl rfl rfl rfl trivial
  · refine generic_enter_invariant invariant idle ?_ rfl rfl rfl rfl rfl rfl
    intro other
    have counts := (List.perm_cons_erase member).count_eq other
    simp only [List.count_cons] at counts
    simp only [genericBufferAccount, GenericFrame.held, RxFrame.held, List.count_cons,
      List.count_nil]
    omega

/-- Before the first refill all buffers are on the free FIFO, both counters are zero, and the
invariant holds. -/
theorem generic_initial_invariant (cfg : DmaConfig) (extra : Nat) :
    GenericInvariant cfg (genericInitial cfg extra) where
  buffer := fun rx => by
    simp [Account.balance, genericBufferAccount, genericInitial, rxInitial, total, dmaRefillEntry,
      GenericFrame.held, RxFrame.held, List.count_range]
  reserved := by
    simp [genericInitial, rxInitial, total, dmaRefillEntry, GenericFrame.reserving,
      GenericShared.rxDmaInflight, emzRxDirectStartRing, emzPerfSetBdAvailable]
  counted := by
    simp [genericInitial, rxInitial, total, dmaRefillEntry, GenericFrame.uncounted,
      GenericShared.rxDmaInflight, emzRxDirectStartRing, emzPerfSetBdAvailable]
  limited := Nat.zero_le _
  sound := by
    rintro frame ⟨stack, member, inside⟩
    simp only [genericInitial, List.mem_append, List.mem_cons, List.mem_replicate] at member
    rcases member with (rfl | rfl | rfl | rfl | impossible) | ⟨-, rfl⟩
    · cases inside
    · cases inside
    · exact List.mem_singleton.mp inside ▸ rfl
    · exact List.mem_singleton.mp inside ▸ rfl
    · cases impossible
    · cases inside

/-- No refill and no callback is in progress, so nothing is reserved without being counted. -/
def AtRest (system : GenericSystem) : Prop :=
  ∀ frame, Present system.callStacks frame → ∃ rx, frame = .path rx

/-- At rest no frame reserves or owes a count, so both counters are the length of
`rx_dma_fifo`. -/
theorem GenericInvariant.at_rest {cfg : DmaConfig} {system : GenericSystem}
    (invariant : GenericInvariant cfg system) (rest : AtRest system) :
    system.shared.rxDmaInflight = system.shared.rxDmaFifo.length ∧
      system.shared.rx.rxDmaFifoCount = system.shared.rxDmaFifo.length := by
  have reserved := invariant.reserved
  have counted := invariant.counted
  have noneReserving : total GenericFrame.reserving system.callStacks = 0 := by
    refine total_weightless _ ?_
    intro frame present
    obtain ⟨path, rfl⟩ := rest frame present
    rfl
  have noneUncounted : total GenericFrame.uncounted system.callStacks = 0 := by
    refine total_weightless _ ?_
    intro frame present
    obtain ⟨path, rfl⟩ := rest frame present
    rfl
  omega

/-- The last step of a failed attempt finds nothing added to the counters and puts its buffer on
`rx_free_fifo`, and as the buffer is in one place by the account of the buffers, it is nowhere
else. -/
theorem undo_put_returns {cfg : DmaConfig} {system after : GenericSystem} {context : Nat}
    {outcome : GenericOutcome} {queued : Nat} {effect : RefillEffect} {rx : Nat}
    {below : List GenericFrame} (invariant : GenericInvariant cfg system)
    (found : system.callStacks[context]? = some (.refill queued effect (.undoPut rx) :: below))
    (taken : genericStep cfg system (.run context outcome) = some after) :
    effect = RefillEffect.none ∧
      after.shared.rxDmaInflight = system.shared.rxDmaInflight ∧
      after.shared.rx.rxFreeCount = system.shared.rx.rxFreeCount ∧
      after.shared.rx.rxDmaFifoCount = system.shared.rx.rxDmaFifoCount ∧
      after.shared.rx.rxFreeFifo.count rx = 1 ∧ rx ∉ after.shared.rxDmaFifo ∧
      rx ∉ after.shared.rx.rxReadyFifo ∧ rx ∉ after.shared.rx.stackFragments ∧
      ∀ frame, Present after.callStacks frame → rx ∉ frame.held := by
  have sound : effect = RefillEffect.none := invariant.sound _ (present_top found)
  have starts : startsSucceed system (.run context outcome) = true := by
    simp [startsSucceed, found]
  have once := (generic_step_invariant invariant starts taken).buffer rx
  simp only [genericStep, advance, found, genericFrameStep, emzRefillDmaRx, Option.map_some,
    Option.some.injEq] at taken
  subst taken
  have bounded : (if rx < cfg.rxBufferCount then 1 else 0) ≤ 1 := by split <;> omega
  simp only [Account.balance, genericBufferAccount, List.count_append,
    List.count_singleton_self] at once
  have dma : system.shared.rxDmaFifo.count rx = 0 := by omega
  have ready : system.shared.rx.rxReadyFifo.count rx = 0 := by omega
  have stack : system.shared.rx.stackFragments.count rx = 0 := by omega
  refine ⟨sound, rfl, rfl, rfl, ?_, List.count_eq_zero.mp dma, List.count_eq_zero.mp ready,
    List.count_eq_zero.mp stack, ?_⟩
  · simp only [List.count_append, List.count_singleton_self]
    omega
  · intro frame present
    have part : frame.held.count rx ≤ total (fun frame => frame.held.count rx)
        (system.callStacks.set context ([] ++ below)) :=
      weight_le_total (fun frame => frame.held.count rx) present
    exact List.count_eq_zero.mp (by omega)

/-- The step of an attempt adds to the counters what it adds to the effect, and one that finds no
free buffer takes back all of it. -/
theorem refill_step_moves {cfg : DmaConfig} {system after : GenericSystem} {context : Nat}
    {outcome : GenericOutcome} {queued : Nat} {effect : RefillEffect} {point : DmaRefillPoint}
    {below : List GenericFrame} (invariant : GenericInvariant cfg system)
    (found : system.callStacks[context]? = some (.refill queued effect point :: below))
    (taken : genericStep cfg system (.run context outcome) = some after) :
    (∀ queued' effect' point',
      after.callStacks[context]? = some (.refill queued' effect' point' :: below) →
      point' ≠ .limit → effect.Moves effect' system.shared after.shared) ∧
      (point = .noFree → effect.Moves RefillEffect.none system.shared after.shared) := by
  have limited := invariant.limited
  obtain ⟨top, rest, shared, frames, onTop, stepped, rfl⟩ := advance_cases taken
  obtain ⟨rfl, rfl⟩ := List.cons.inj (Option.some.inj (onTop.symm.trans found))
  have reserved := invariant.reserved_top found
  have moved := Option.some.inj stepped
  constructor
  · intro queued' effect' point' behind underway
    rw [List.getElem?_set_self (List.getElem?_eq_some_iff.mp found).1] at behind
    obtain rfl : frames = [.refill queued' effect' point'] :=
      List.append_cancel_right (Option.some.inj behind : _ ++ rest = [_] ++ rest)
    exact refill_effect_exact limited reserved moved underway
  · rintro rfl
    exact refill_no_free_exact (invariant.sound _ (present_top found)) limited reserved moved

/-- Buffer ownership on the generic path, in every run in which each `dma_start` succeeds,
whatever the other calls return. Each buffer of the pool occurs exactly once among the three
FIFOs, the stack's fragments and the hands of running routines. The counters never exceed the
post limit, and whenever no refill or callback is in progress they are the length of
`rx_dma_fifo`. A refill attempt that fails ends with nothing added to the counters and its buffer
on `rx_free_fifo` only; what it has added is read off the counters themselves, step by step, and
an attempt that finds no buffer ends with nothing added as well.

Proof: the account of the buffers and the reservations are kept by each step of each routine,
with the frames on the call stacks as parts of the sums. At rest the frames weigh nothing, which
gives the counters. The two clauses about an attempt look at its next step only, with the
invariant in front of it. -/
theorem generic_buffer_ownership (cfg : DmaConfig) (extra : Nat) (system : GenericSystem)
    (run : Run (genericStep cfg) (fun state label => startsSucceed state label = true)
      (genericInitial cfg extra) system) :
    (∀ rx, system.shared.rx.rxFreeFifo.count rx + system.shared.rxDmaFifo.count rx +
        system.shared.rx.rxReadyFifo.count rx + system.shared.rx.stackFragments.count rx +
        total (fun frame => frame.held.count rx) system.callStacks =
      if rx < cfg.rxBufferCount then 1 else 0) ∧
    system.shared.rxDmaFifo.length ≤ cfg.rxMaxInflight ∧
    system.shared.rxDmaInflight ≤ cfg.rxMaxInflight ∧
    system.shared.rx.rxDmaFifoCount ≤ cfg.rxMaxInflight ∧
    (AtRest system →
      system.shared.rxDmaInflight = system.shared.rxDmaFifo.length ∧
      system.shared.rx.rxDmaFifoCount = system.shared.rxDmaFifo.length) ∧
    (∀ context outcome queued effect rx below after,
      system.callStacks[context]? = some (.refill queued effect (.undoPut rx) :: below) →
      genericStep cfg system (.run context outcome) = some after →
      effect = RefillEffect.none ∧
      after.shared.rxDmaInflight = system.shared.rxDmaInflight ∧
      after.shared.rx.rxFreeCount = system.shared.rx.rxFreeCount ∧
      after.shared.rx.rxDmaFifoCount = system.shared.rx.rxDmaFifoCount ∧
      after.shared.rx.rxFreeFifo.count rx = 1 ∧ rx ∉ after.shared.rxDmaFifo ∧
      rx ∉ after.shared.rx.rxReadyFifo ∧ rx ∉ after.shared.rx.stackFragments ∧
      ∀ frame, Present after.callStacks frame → rx ∉ frame.held) ∧
    ∀ context outcome queued effect point below after,
      system.callStacks[context]? = some (.refill queued effect point :: below) →
      genericStep cfg system (.run context outcome) = some after →
      (∀ queued' effect' point',
        after.callStacks[context]? = some (.refill queued' effect' point' :: below) →
        point' ≠ .limit → effect.Moves effect' system.shared after.shared) ∧
      (point = .noFree → effect.Moves RefillEffect.none system.shared after.shared) := by
  have invariant : GenericInvariant cfg system :=
    run.invariant (GenericInvariant cfg) (generic_initial_invariant cfg extra)
      (fun _ _ _ invariant starts taken => generic_step_invariant invariant starts taken)
  have reserved := invariant.reserved
  have counted := invariant.counted
  have limited := invariant.limited
  refine ⟨invariant.buffer, by omega, limited, by omega, invariant.at_rest, ?_, ?_⟩
  · intro context outcome queued effect rx below after found taken
    exact undo_put_returns invariant found taken
  · intro context outcome queued effect point below after found taken
    exact refill_step_moves invariant found taken

/-- The outcome in which every call works and nothing is dropped, for runs of the witnesses. -/
def GenericOutcome.works : GenericOutcome := ⟨.accepted, true, false⟩

/-- The outcome in which the DMA driver refuses the call, for the failing run. -/
def GenericOutcome.refused : GenericOutcome := ⟨.accepted, false, false⟩

/-- One context runs for a number of steps with the same outcome, a shorthand for the runs of the
witnesses. -/
def genericSteps (count context : Nat) (outcome : GenericOutcome) : List GenericLabel :=
  List.replicate count (.run context outcome)

/-- The first buffer is started; the reload for the second fails and is undone. -/
theorem generic_buffer_ownership_reload_refused :
    ∃ system, Run (genericStep twoBufferDmaConfig)
        (fun state label => startsSucceed state label = true)
        (genericInitial twoBufferDmaConfig 0) system ∧
      system.shared.rxDmaFifo = [0] ∧ system.shared.rx.rxFreeFifo = [1] ∧
      system.shared.rxDmaInflight = system.shared.rxDmaFifo.length ∧
      system.shared.rx.rxDmaFifoCount = system.shared.rxDmaFifo.length := by
  obtain ⟨system, run, reached⟩ := run_of_execution (genericStep twoBufferDmaConfig)
    startsSucceed (genericInitial twoBufferDmaConfig 0)
    (genericSteps 13 initContext .works ++ genericSteps 4 initContext .refused)
    (fun system => decide (system.callStacks = [[], [], [.path (.worker .get)], []] ∧
      system.shared.rxDmaFifo = [0] ∧ system.shared.rx.rxFreeFifo = [1]))
    (fun _ _ allowed => allowed) (by decide +kernel)
  obtain ⟨returned, dma, free⟩ := of_decide_eq_true reached
  have rest : AtRest system := by simp [AtRest, Present, returned]
  have owned := generic_buffer_ownership twoBufferDmaConfig 0 system run
  obtain ⟨inflight, count⟩ := owned.2.2.2.2.1 rest
  exact ⟨system, run, dma, free, inflight, count⟩

/-- When the first `dma_start` fails, the refill returns with its buffer on both
`rx_dma_fifo` and `rx_free_fifo`, and `rx_dma_fifo_count` one above
`rx_dma_inflight`. -/
theorem generic_start_refused :
    ∃ system, Run (genericStep twoBufferDmaConfig) Unrestricted
        (genericInitial twoBufferDmaConfig 0) system ∧
      AtRest system ∧
      system.shared.rx.rxFreeFifo.count 0 = 1 ∧ system.shared.rxDmaFifo.count 0 = 1 ∧
      system.shared.rxDmaInflight = 0 ∧ system.shared.rx.rxDmaFifoCount = 1 := by
  obtain ⟨system, run, reached⟩ := run_of_execution (genericStep twoBufferDmaConfig)
    (fun _ _ => true) (genericInitial twoBufferDmaConfig 0)
    (genericSteps 8 initContext .works ++ genericSteps 4 initContext .refused)
    (fun system => decide (system.callStacks = [[], [], [.path (.worker .get)], []] ∧
      system.shared.rx.rxFreeFifo = [1, 0] ∧ system.shared.rxDmaFifo = [0] ∧
      system.shared.rxDmaInflight = 0 ∧ system.shared.rx.rxDmaFifoCount = 1))
    (fun _ _ _ => trivial) (by decide +kernel)
  obtain ⟨returned, free, dma, inflight, count⟩ := of_decide_eq_true reached
  exact ⟨system, run, by simp [AtRest, Present, returned], by rw [free]; rfl, by rw [dma]; rfl,
    inflight, count⟩

end EmaczZephyr.Driver
