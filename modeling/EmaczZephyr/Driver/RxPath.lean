import EmaczZephyr.Driver.RxRingInvariant
import EmaczZephyr.Foundation.Contexts

/-!
# The receive path as interleaved call stacks

Every routine that moves a receive buffer, cut at the points where another
context can run: one frame step is one region under `rx_direct_lock`, one FIFO
put or get, one atomic counter operation or one register write. A call pushes the
callee's frame above the caller's continuation. The contexts are the S2MM
interrupt, the system work queue, the RX worker thread and any number of other
threads; the last ones start the ring and destroy the fragments the stack drops.

The engine is on the other side of the ring. Its registers are state here; its
moves are labels of their own. The figures kept only for statistics, the packet
metadata and the cache maintenance are left out.
-/

namespace EmaczZephyr.Driver

open Contexts Runs

/-- What the S2MM channel is doing: in reset with RS clear, idle, working toward
its tail, or halted by an error. -/
inductive S2mmMode where
  | reset
  | idle
  | running
  | halted
deriving DecidableEq

/-- The S2MM registers the driver writes and reads. Descriptors are named by their
slot; `taildesc` is the last tail written since the last reset. -/
structure S2mm where
  mode : S2mmMode
  curdesc : Nat
  taildesc : Option Nat
  errors : BitVec 32

/-- The fields of DMASR that the interrupt routine tests, read at one moment. -/
structure Dmasr where
  halted : Bool
  errors : BitVec 32
deriving DecidableEq

/-- DMACR.RESET: the channel stops and forgets its descriptors and its error bits. -/
def S2mm.reset (_ : S2mm) : S2mm := ⟨.reset, 0, none, 0#32⟩

/-- DMACR.RS after a reset: the channel waits for a tail. -/
def S2mm.run (engine : S2mm) : S2mm := { engine with mode := .idle }

/-- A TAILDESC write sets the tail, and an idle channel resumes at its current
descriptor. -/
def S2mm.writeTaildesc (engine : S2mm) (index : Nat) : S2mm :=
  { engine with
    taildesc := some index
    mode := if engine.mode = .idle then .running else engine.mode }

/-- A TAILDESC write that is skipped when there is no tail to publish. -/
def S2mm.publish (engine : S2mm) : Option Nat → S2mm
  | some index => engine.writeTaildesc index
  | none => engine

/-- The value that an interrupt routine reads from DMASR: halted, also while in reset, and the
error bits. -/
def S2mm.dmasr (engine : S2mm) : Dmasr :=
  ⟨engine.mode == .reset || engine.mode == .halted, engine.errors⟩

/-- Writing ones to DMASR clears those error bits, and does not make the channel run again. -/
def S2mm.acknowledge (engine : S2mm) (bits : BitVec 32) : S2mm :=
  { engine with errors := engine.errors &&& ~~~bits }

/-- The state every context sees. The last four fields are history: how many slots have been
retired and the buffer of each retirement, the retirement numbers of the frames put on
`rx_ready_fifo`, and the buffers that the worker has taken off it, all in order. -/
structure RxShared where
  ring : RxRing
  engine : S2mm
  rxFreeFifo : List Nat
  rxReadyFifo : List Nat
  /-- Zero-copy fragments the network stack holds, by the buffer in their context. -/
  stackFragments : List Nat
  rxFreeCount : Int
  rxDmaFifoCount : Int
  rxReadyFifoCount : Int
  rxWorkerCount : Int
  rxStackOwnedCount : Int
  /-- `rx->status` and `rx->len` of each buffer. -/
  rxStatus : Nat → Int
  rxLen : Nat → Nat
  irqEnabled : Bool
  rxDirectRecoverPending : Bool
  /-- `rx_direct_recover_work` is on the work queue. -/
  recoverQueued : Bool
  /-- `rx_direct_poll_work` has been scheduled. -/
  pollScheduled : Bool
  retiredCount : Nat
  retiredRx : List Nat
  readyOrder : List Nat
  workerOrder : List Nat

/-- What code outside the driver answers for the frame of each retirement:
whether the interceptor takes it in `emz_rx_direct_poll`, and whether the
profiling mode drops it there. -/
structure Hooks where
  rxInterceptor : Nat → Bool
  dropAfterDma : Nat → Bool

/-- The outcomes of one worker iteration that are decided outside the driver. -/
structure WorkerOutcome where
  ifaceUp : Bool
  intercepted : Bool
  pktAllocated : Bool
  fragAllocated : Bool
  submitted : Bool
deriving DecidableEq

/-- Who called `emz_rx_direct_refill`. Only the start routine uses its result. -/
inductive RefillCaller where
  | start
  | other
deriving DecidableEq

/-- Program points of `emz_rx_direct_refill` with `emz_rx_direct_post_one`, one for each access
to what the contexts share. -/
inductive RefillPoint where
  | get
  | post (rx : Nat)
  | putBack (rx : Nat)
  | countDma
  | countFree
  | updateTail
deriving DecidableEq

/-- Program points of `emz_rx_direct_poll`. A frame in the driver's hands carries
its retirement number. -/
inductive PollPoint where
  | consume
  | requestRecover
  | countDma (rx number : Nat) (status : BitVec 32)
  | deliver (rx number : Nat) (status : BitVec 32)
  | countReady (rx number : Nat)
  | putReady (rx number : Nat)
  | finish
deriving DecidableEq

/-- Program points of one `emz_rx_thread` iteration, with the buffer in hand from the FIFO on. -/
inductive WorkerPoint where
  | get
  | countReady (rx : Nat)
  | countWorker (rx : Nat)
  | examine (rx : Nat)
  | choose (rx : Nat)
  | copy (rx : Nat)
  | attach (rx : Nat)
  | countStack (rx : Nat)
  | uncountWorker (rx : Nat)
  | submit (rx : Nat)
deriving DecidableEq

/-- Who called `emz_rx_direct_arm`, and goes on behind it. -/
inductive ArmCaller where
  | start
  | recover
deriving DecidableEq

/-- Program points of `emz_rx_direct_arm`, one for each register write. -/
inductive ArmPoint where
  | reset
  | clearDmasr
  | curdesc
  | run
  | tail
deriving DecidableEq

/-- Program points of `emz_rx_direct_recover`, with the orphans in hand once the ring is swept. -/
inductive RecoverPoint where
  | irqDisable
  | reset
  | clearDmasr
  | sweep
  | uncountDma (orphans : List Nat)
  | countFree (orphans : List Nat)
  | putFree (rx : Nat) (orphans : List Nat)
  | refill
  | arm
  | irqEnable
  | countRecovery
  | clearPending
deriving DecidableEq

/-- Program points of `emz_rx_direct_start` once the ring is cleared. -/
inductive StartPoint where
  | refill
  | irqDisable
  | arm
  | irqEnable
  | schedule
deriving DecidableEq

/-- Program points of `emz_rx_direct_isr` before it polls, with the status word that was read. -/
inductive IsrPoint where
  | read
  | request (dmasr : Dmasr)
  | acknowledge (dmasr : Dmasr)
deriving DecidableEq

/-- A function of the receive path that a context is in, with its program point and its local
values. -/
inductive RxFrame where
  | refill (caller : RefillCaller) (queued : Nat) (point : RefillPoint)
  | releaseCount (rx : Nat)
  | releasePut (rx : Nat)
  | releaseFromWorker (rx : Nat)
  | destroy (rx : Nat)
  | poll (completed : Nat) (point : PollPoint)
  | worker (point : WorkerPoint)
  | arm (caller : ArmCaller) (point : ArmPoint)
  | recover (point : RecoverPoint)
  | start (point : StartPoint)
  | isr (point : IsrPoint)
deriving DecidableEq

/-- The first frame of a refill that ignores its result. -/
def refillEntry : RxFrame := .refill .other 0 .get

/-- `emz_rx_direct_refill`, point by point: take a free buffer, post it under the lock, put it
back when there is no room, count, and publish the tail at the end. -/
def emzRxDirectRefill (cfg : Config) (shared : RxShared) (caller : RefillCaller) (queued : Nat) :
    RefillPoint → RxShared × List RxFrame
  | .get =>
      match shared.rxFreeFifo with
      | [] => (shared, [.refill caller queued .updateTail])
      | rx :: rest => ({ shared with rxFreeFifo := rest }, [.refill caller queued (.post rx)])
  | .post rx =>
      let posted := emzRxDirectPostOne cfg shared.ring rx
      ({ shared with ring := posted.1 },
        [.refill caller queued (if posted.2 then .countDma else .putBack rx)])
  | .putBack rx =>
      ({ shared with rxFreeFifo := shared.rxFreeFifo ++ [rx] },
        [.refill caller queued .updateTail])
  | .countDma =>
      ({ shared with rxDmaFifoCount := shared.rxDmaFifoCount + 1 },
        [.refill caller queued .countFree])
  | .countFree =>
      ({ shared with rxFreeCount := shared.rxFreeCount - 1 }, [.refill caller (queued + 1) .get])
  | .updateTail =>
      (if 0 < queued then
        { shared with engine := shared.engine.publish (emzRxDirectUpdateTail shared.ring) }
      else shared,
      -- `emz_rx_direct_start` gives up unless something was queued.
      match caller with
      | .start => if 0 < queued then [.start .irqDisable] else []
      | .other => [])

/-- `emz_rx_direct_request_recover`: the compare-and-swap on the pending flag, and the work item
when it was clear. -/
def emzRxDirectRequestRecover (shared : RxShared) : RxShared :=
  if shared.rxDirectRecoverPending then shared
  else { shared with rxDirectRecoverPending := true, recoverQueued := true }

/-- `rx->status` and `rx->len` as `emz_rx_direct_poll` derives them from a status
word: a length beyond the buffer is clamped and makes the frame an error. -/
def emzRxDirectFrame (cfg : Config) (status : BitVec 32) : Int × Nat :=
  let len := (status &&& bdStatusLenMask).toNat
  if cfg.ethBufferSize < len then (-14, cfg.ethBufferSize)
  else (if status &&& bdStatusErrorMask != 0#32 then -14 else 0, len)

/-- Whether poll puts the frame of a retirement on `rx_ready_fifo`, rather than
letting the interceptor or the profiling mode take it. -/
def goesToReady (cfg : Config) (hooks : Hooks) (number : Nat) (status : BitVec 32) : Bool :=
  !((emzRxDirectFrame cfg status).1 == 0 && hooks.rxInterceptor number) &&
    !hooks.dropAfterDma number

/-- `emz_rx_direct_poll`, point by point: the first descriptor is consumed under the lock, then
counted and handed over outside of it. -/
def emzRxDirectPoll (cfg : Config) (hooks : Hooks) (shared : RxShared) (completed : Nat) :
    PollPoint → RxShared × List RxFrame
  | .consume =>
      match emzRxDirectConsume cfg shared.ring with
      | (ring, .unfinished) => ({ shared with ring := ring }, [.poll completed .finish])
      | (ring, .unowned) => ({ shared with ring := ring }, [.poll completed .requestRecover])
      | (ring, .retired rx status) =>
          ({ shared with
              ring := ring
              retiredCount := shared.retiredCount + 1
              retiredRx := shared.retiredRx ++ [rx] },
            [.poll completed (.countDma rx shared.retiredCount status)])
  | .requestRecover => (emzRxDirectRequestRecover shared, [.poll completed .finish])
  | .countDma rx number status =>
      ({ shared with rxDmaFifoCount := shared.rxDmaFifoCount - 1 },
        [.poll completed (.deliver rx number status)])
  | .deliver rx number status =>
      let frame := emzRxDirectFrame cfg status
      ({ shared with
          rxStatus := Function.update shared.rxStatus rx frame.1
          rxLen := Function.update shared.rxLen rx frame.2 },
        if goesToReady cfg hooks number status then [.poll completed (.countReady rx number)]
        else [.releaseCount rx, .poll (completed + 1) .consume])
  | .countReady rx number =>
      ({ shared with rxReadyFifoCount := shared.rxReadyFifoCount + 1 },
        [.poll completed (.putReady rx number)])
  | .putReady rx number =>
      ({ shared with
          rxReadyFifo := shared.rxReadyFifo ++ [rx]
          readyOrder := shared.readyOrder ++ [number] },
        [.poll (completed + 1) .consume])
  | .finish => (shared, if completed ≠ 0 then [refillEntry] else [])

/-- The test of `emz_rx_thread` that sends a frame back without offering it to
the stack: no interface, an invalid frame, or one the interceptor took. -/
def workerRejects (cfg : Config) (shared : RxShared) (outcome : WorkerOutcome) (rx : Nat) : Bool :=
  !outcome.ifaceUp || decide (shared.rxStatus rx < 0) || shared.rxLen rx == 0 ||
    decide (cfg.ethBufferSize < shared.rxLen rx) || outcome.intercepted

/-- `emz_rx_thread`, point by point; the counters are moved around the FIFO operations as in the
source. The worker blocks while `rx_ready_fifo` is empty. -/
def emzRxThread (cfg : Config) (outcome : WorkerOutcome) (shared : RxShared) :
    WorkerPoint → Option (RxShared × List RxFrame)
  | .get =>
      match shared.rxReadyFifo with
      | [] => none
      | rx :: rest =>
          some ({ shared with rxReadyFifo := rest, workerOrder := shared.workerOrder ++ [rx] },
            [.worker (.countReady rx)])
  | .countReady rx =>
      some ({ shared with rxReadyFifoCount := shared.rxReadyFifoCount - 1 },
        [.worker (.countWorker rx)])
  | .countWorker rx =>
      some ({ shared with rxWorkerCount := shared.rxWorkerCount + 1 }, [.worker (.examine rx)])
  | .examine rx =>
      some (shared, if workerRejects cfg shared outcome rx
        then [.releaseFromWorker rx, .worker .get] else [.worker (.choose rx)])
  | .choose rx =>
      some (shared, if (cfg.rxMaxStackOwnedZerocopy : Int) ≤ shared.rxStackOwnedCount
        then [.worker (.copy rx)] else [.worker (.attach rx)])
  -- Every exit of the copy path releases the buffer: the packet is a copy.
  | .copy rx => some (shared, [.releaseFromWorker rx, .worker .get])
  | .attach rx =>
      some (shared, if outcome.pktAllocated && outcome.fragAllocated
        then [.worker (.countStack rx)] else [.releaseFromWorker rx, .worker .get])
  | .countStack rx =>
      some ({ shared with rxStackOwnedCount := shared.rxStackOwnedCount + 1 },
        [.worker (.uncountWorker rx)])
  | .uncountWorker rx =>
      some ({ shared with rxWorkerCount := shared.rxWorkerCount - 1 }, [.worker (.submit rx)])
  -- A packet the stack refuses, or the profiling mode drops, is unreferenced here
  -- and its fragment destroyed by the worker itself.
  | .submit rx =>
      some (if outcome.submitted then
        ({ shared with stackFragments := shared.stackFragments ++ [rx] }, [.worker .get])
      else (shared, [.destroy rx, .worker .get]))

/-- `emz_rx_direct_arm`: reset, clear the status, program the first descriptor, run, and publish
the tail. -/
def emzRxDirectArm (shared : RxShared) (caller : ArmCaller) : ArmPoint → RxShared × List RxFrame
  | .reset => ({ shared with engine := shared.engine.reset }, [.arm caller .clearDmasr])
  | .clearDmasr =>
      ({ shared with engine := shared.engine.acknowledge 0xffffffff#32 }, [.arm caller .curdesc])
  | .curdesc =>
      ({ shared with engine := { shared.engine with curdesc := shared.ring.rxBdConsumeIndex } },
        [.arm caller .run])
  | .run => ({ shared with engine := shared.engine.run }, [.arm caller .tail])
  | .tail =>
      let armed := emzRxDirectArmTail shared.ring
      ({ shared with ring := armed.1, engine := shared.engine.publish armed.2 },
        [match caller with
          | .start => .start .irqEnable
          | .recover => .recover .irqEnable])

/-- `emz_rx_direct_recover`: line off, reset, sweep the ring, give the orphans back, arm again,
line on, and clear the flag last. -/
def emzRxDirectRecover (cfg : Config) (shared : RxShared) :
    RecoverPoint → RxShared × List RxFrame
  | .irqDisable => ({ shared with irqEnabled := false }, [.recover .reset])
  | .reset => ({ shared with engine := shared.engine.reset }, [.recover .clearDmasr])
  | .clearDmasr =>
      ({ shared with engine := shared.engine.acknowledge 0xffffffff#32 }, [.recover .sweep])
  | .sweep =>
      let swept := emzRxDirectSweep cfg shared.ring
      ({ shared with ring := swept.1 }, [.recover (.uncountDma swept.2)])
  | .uncountDma orphans =>
      ({ shared with rxDmaFifoCount := shared.rxDmaFifoCount - orphans.length },
        [.recover (.countFree orphans)])
  | .countFree [] => (shared, [.recover .refill])
  | .countFree (rx :: orphans) =>
      ({ shared with rxFreeCount := shared.rxFreeCount + 1 }, [.recover (.putFree rx orphans)])
  | .putFree rx orphans =>
      ({ shared with rxFreeFifo := shared.rxFreeFifo ++ [rx] }, [.recover (.countFree orphans)])
  | .refill => (shared, [refillEntry, .recover .arm])
  | .arm => (shared, [.arm .recover .reset])
  | .irqEnable => ({ shared with irqEnabled := true }, [.recover .countRecovery])
  | .countRecovery => (shared, [.recover .clearPending])
  | .clearPending => ({ shared with rxDirectRecoverPending := false }, [])

/-- `emz_rx_direct_start`, once the ring is cleared: refill, arm with the line off, line on, and
the first poll. -/
def emzRxDirectStart (shared : RxShared) : StartPoint → RxShared × List RxFrame
  | .refill => (shared, [.refill .start 0 .get])
  | .irqDisable => ({ shared with irqEnabled := false }, [.start .arm])
  | .arm => (shared, [.arm .start .reset])
  | .irqEnable => ({ shared with irqEnabled := true }, [.start .schedule])
  | .schedule => ({ shared with pollScheduled := true }, [])

/-- `emz_rx_direct_isr`: the status is read once, a halt with error bits requests a recovery, the
bits that were read are acknowledged, and the poll follows. -/
def emzRxDirectIsr (shared : RxShared) : IsrPoint → RxShared × List RxFrame
  | .read => (shared, [.isr (.request shared.engine.dmasr)])
  | .request dmasr =>
      (if dmasr.errors != 0#32 && dmasr.halted then emzRxDirectRequestRecover shared else shared,
        [.isr (.acknowledge dmasr)])
  | .acknowledge dmasr =>
      ({ shared with engine := shared.engine.acknowledge dmasr.errors }, [.poll 0 .consume])

/-- One step of the routine on top of a stack. -/
def frameStep (cfg : Config) (hooks : Hooks) (outcome : WorkerOutcome) (shared : RxShared) :
    RxFrame → Option (RxShared × List RxFrame)
  | .refill caller queued point => some (emzRxDirectRefill cfg shared caller queued point)
  -- `emz_release_rx_buffer`
  | .releaseCount rx =>
      some ({ shared with rxFreeCount := shared.rxFreeCount + 1 }, [.releasePut rx])
  | .releasePut rx =>
      some ({ shared with rxFreeFifo := shared.rxFreeFifo ++ [rx] }, [refillEntry])
  -- `emz_release_rx_buffer_from_worker`
  | .releaseFromWorker rx =>
      some ({ shared with rxWorkerCount := shared.rxWorkerCount - 1 }, [.releaseCount rx])
  -- `emz_rx_frag_destroy`
  | .destroy rx =>
      some ({ shared with rxStackOwnedCount := shared.rxStackOwnedCount - 1 }, [.releaseCount rx])
  | .poll completed point => some (emzRxDirectPoll cfg hooks shared completed point)
  | .worker point => emzRxThread cfg outcome shared point
  | .arm caller point => some (emzRxDirectArm shared caller point)
  | .recover point => some (emzRxDirectRecover cfg shared point)
  | .start point => some (emzRxDirectStart shared point)
  | .isr point => some (emzRxDirectIsr shared point)

/-- The shared receive state with the call stacks of the contexts. -/
abbrev RxSystem := Configuration RxShared RxFrame

/-- The context of the S2MM interrupt, which is entered only from an empty stack. -/
def isrContext : Nat := 0

/-- The context of the system work queue, which runs polls and recoveries. -/
def workqContext : Nat := 1

/-- The context of the receive worker thread. -/
def workerContext : Nat := 2

/-- The context that initialises the driver and starts the ring. -/
def initContext : Nat := 3

/-- What the engine, or the memory on its side, can do on its own. -/
inductive EngineEvent where
  /-- Finish the current descriptor with a status word and go on to the next. -/
  | complete (status : BitVec 32)
  /-- Stop on an error. -/
  | halt (errors : BitVec 32)
  /-- Any status word on any slot, as a faulty engine might leave it. -/
  | scribble (index : Nat) (status : BitVec 32)
deriving DecidableEq

/-- What can happen next: a context runs, an interrupt or a work item starts, the engine moves,
or a thread drops a fragment. -/
inductive RxLabel where
  /-- A context runs its top frame. -/
  | run (context : Nat) (outcome : WorkerOutcome)
  /-- The S2MM interrupt is taken. -/
  | interrupt
  /-- The work queue starts the poll item. -/
  | pollWork
  /-- The work queue starts the recovery item. -/
  | recoverWork
  /-- A thread drops the last reference to a zero-copy fragment. -/
  | destroyFragment (context : Nat) (rx : Nat)
  | engine (event : EngineEvent)
deriving DecidableEq

/-- A completion writes the current descriptor, advances, and stops after the
tail. It needs a running channel and a status word that ends a descriptor. -/
def engineComplete (cfg : Config) (shared : RxShared) (status : BitVec 32) : Option RxShared :=
  if shared.engine.mode = .running ∧ bdFinished status = true then
    let index := shared.engine.curdesc
    some { shared with
      ring := writeStatus shared.ring index status
      engine := { shared.engine with
        curdesc := (index + 1) % cfg.rxBufferCount
        mode := if shared.engine.taildesc = some index then .idle else .running } }
  else none

/-- An error stops a channel that is not in reset and raises its bits. -/
def engineHalt (shared : RxShared) (errors : BitVec 32) : Option RxShared :=
  if (shared.engine.mode = .running ∨ shared.engine.mode = .idle) ∧ errors ≠ 0#32 then
    some { shared with engine := { shared.engine with mode := .halted, errors := errors } }
  else none

/-- One step of the engine: a completion, a halt, or any status word at all in a slot, as a
malfunction would write it. -/
def engineStep (cfg : Config) (shared : RxShared) : EngineEvent → Option RxShared
  | .complete status => engineComplete cfg shared status
  | .halt errors => engineHalt shared errors
  | .scribble index status => some { shared with ring := writeStatus shared.ring index status }

/-- What an event of the engine does: a completion by a running channel, an error of a channel
that is not in reset, or a status word on any slot. -/
inductive EngineEffect (cfg : Config) (before : RxShared) : EngineEvent → RxShared → Prop
  | complete (status : BitVec 32) (running : before.engine.mode = .running)
      (finished : bdFinished status = true) :
      EngineEffect cfg before (.complete status)
        { before with
          ring := writeStatus before.ring before.engine.curdesc status
          engine := { before.engine with
            curdesc := (before.engine.curdesc + 1) % cfg.rxBufferCount
            mode := if before.engine.taildesc = some before.engine.curdesc then .idle
              else .running } }
  | halt (errors : BitVec 32)
      (moving : before.engine.mode = .running ∨ before.engine.mode = .idle)
      (raised : errors ≠ 0#32) :
      EngineEffect cfg before (.halt errors)
        { before with engine := { before.engine with mode := .halted, errors := errors } }
  | scribble (index : Nat) (status : BitVec 32) :
      EngineEffect cfg before (.scribble index status)
        { before with ring := writeStatus before.ring index status }

/-- Every step of the engine is one of the three, with its guard and with the whole change of the
shared state. -/
theorem engine_step_effect {cfg : Config} {before after : RxShared} {event : EngineEvent}
    (stepped : engineStep cfg before event = some after) :
    EngineEffect cfg before event after := by
  cases event with
  | complete status =>
    simp only [engineStep, engineComplete] at stepped
    split at stepped
    · rename_i runs
      obtain rfl := Option.some.inj stepped
      exact .complete status runs.1 runs.2
    · cases stepped
  | halt errors =>
    simp only [engineStep, engineHalt] at stepped
    split at stepped
    · rename_i halts
      obtain rfl := Option.some.inj stepped
      exact .halt errors halts.1 halts.2
    · cases stepped
  | scribble index status =>
    obtain rfl := Option.some.inj stepped
    exact .scribble index status

/-- One step of the receive path, by whoever the label names; a step that cannot be taken is
none. -/
def rxStep (cfg : Config) (hooks : Hooks) (system : RxSystem) : RxLabel → Option RxSystem
  | .run context outcome => advance (frameStep cfg hooks outcome) context system
  | .interrupt =>
      if system.shared.irqEnabled then
        enter isrContext system.shared [.isr .read] system
      else none
  | .pollWork =>
      if system.shared.pollScheduled && system.shared.ring.rxDirectRingStarted then
        enter workqContext system.shared [.poll 0 .consume] system
      else none
  | .recoverWork =>
      if system.shared.recoverQueued then
        enter workqContext { system.shared with recoverQueued := false }
          [.recover .irqDisable] system
      else none
  | .destroyFragment context rx =>
      if initContext ≤ context ∧ rx ∈ system.shared.stackFragments then
        enter context
          { system.shared with stackFragments := system.shared.stackFragments.erase rx }
          [.destroy rx] system
      else none
  | .engine event =>
      (engineStep cfg system.shared event).map (fun shared => { system with shared := shared })

/-- The ways an idle context is entered: the label, the context, the shared state
left by the entry and the first frames. -/
inductive RxEntry (shared : RxShared) : RxLabel → Nat → RxShared → List RxFrame → Prop
  | interrupt (enabled : shared.irqEnabled = true) :
      RxEntry shared .interrupt isrContext shared [.isr .read]
  | pollWork (scheduled : shared.pollScheduled = true)
      (started : shared.ring.rxDirectRingStarted = true) :
      RxEntry shared .pollWork workqContext shared [.poll 0 .consume]
  | recoverWork (queued : shared.recoverQueued = true) :
      RxEntry shared .recoverWork workqContext { shared with recoverQueued := false }
        [.recover .irqDisable]
  | destroyFragment (context rx : Nat) (other : initContext ≤ context)
      (member : rx ∈ shared.stackFragments) :
      RxEntry shared (.destroyFragment context rx) context
        { shared with stackFragments := shared.stackFragments.erase rx } [.destroy rx]

/-- A step is a frame step of one context, an entry of an idle context or a move
of the engine. -/
theorem rx_step_cases {cfg : Config} {hooks : Hooks} {before after : RxSystem} {label : RxLabel}
    (taken : rxStep cfg hooks before label = some after) :
    (∃ context outcome frame below shared frames, label = .run context outcome ∧
      before.callStacks[context]? = some (frame :: below) ∧
      frameStep cfg hooks outcome before.shared frame = some (shared, frames) ∧
      after = ⟨shared, before.callStacks.set context (frames ++ below)⟩) ∨
    (∃ context shared frames, RxEntry before.shared label context shared frames ∧
      before.callStacks[context]? = some [] ∧
      after = ⟨shared, before.callStacks.set context frames⟩) ∨
    ∃ event shared, label = .engine event ∧
      engineStep cfg before.shared event = some shared ∧
        after = { before with shared := shared } := by
  cases label with
  | run context outcome =>
    obtain ⟨frame, below, shared, frames, found, stepped, same⟩ := advance_cases taken
    exact .inl ⟨context, outcome, frame, below, shared, frames, rfl, found, stepped, same⟩
  | interrupt =>
    simp only [rxStep] at taken
    split at taken
    · rename_i enabled
      obtain ⟨idle, same⟩ := enter_cases taken
      exact .inr (.inl ⟨_, _, _, .interrupt enabled, idle, same⟩)
    · cases taken
  | pollWork =>
    simp only [rxStep] at taken
    split at taken
    · rename_i due
      obtain ⟨scheduled, started⟩ := Bool.and_eq_true_iff.mp due
      obtain ⟨idle, same⟩ := enter_cases taken
      exact .inr (.inl ⟨_, _, _, .pollWork scheduled started, idle, same⟩)
    · cases taken
  | recoverWork =>
    simp only [rxStep] at taken
    split at taken
    · rename_i queued
      obtain ⟨idle, same⟩ := enter_cases taken
      exact .inr (.inl ⟨_, _, _, .recoverWork queued, idle, same⟩)
    · cases taken
  | destroyFragment context rx =>
    simp only [rxStep] at taken
    split at taken
    · rename_i allowed
      obtain ⟨idle, same⟩ := enter_cases taken
      exact .inr (.inl ⟨_, _, _, .destroyFragment context rx allowed.1 allowed.2, idle, same⟩)
    · cases taken
  | engine event =>
    obtain ⟨shared, stepped, same⟩ := Option.map_eq_some_iff.mp taken
    exact .inr (.inr ⟨event, shared, rfl, stepped, same.symm⟩)

/-- The state in which `emz_init` calls `emz_rx_direct_start`: every buffer is on
`rx_free_fifo`, the worker waits, and `extra` further threads are idle. -/
def rxInitial (cfg : Config) (extra : Nat) : RxSystem where
  shared :=
    { ring := emzRxDirectStartRing cfg
      engine := ⟨.reset, 0, none, 0#32⟩
      rxFreeFifo := List.range cfg.rxBufferCount
      rxReadyFifo := []
      stackFragments := []
      rxFreeCount := cfg.rxBufferCount
      rxDmaFifoCount := 0
      rxReadyFifoCount := 0
      rxWorkerCount := 0
      rxStackOwnedCount := 0
      rxStatus := fun _ => 0
      rxLen := fun _ => 0
      irqEnabled := false
      rxDirectRecoverPending := false
      recoverQueued := false
      pollScheduled := false
      retiredCount := 0
      retiredRx := []
      readyOrder := []
      workerOrder := [] }
  callStacks := [[], [], [.worker .get], [.start .refill]] ++ List.replicate extra []

/-- At the start only the worker and the start routine have a frame, whatever number of further
contexts there is. -/
theorem initial_present {cfg : Config} {extra : Nat} {frame : RxFrame}
    (present : Present (rxInitial cfg extra).callStacks frame) :
    frame = .worker .get ∨ frame = .start .refill := by
  obtain ⟨stack, member, inside⟩ := present
  simp only [rxInitial, List.mem_append, List.mem_cons, List.mem_replicate] at member
  rcases member with (rfl | rfl | rfl | rfl | impossible) | ⟨-, rfl⟩
  · cases inside
  · cases inside
  · exact .inl (List.mem_singleton.mp inside)
  · exact .inr (List.mem_singleton.mp inside)
  · cases impossible
  · cases inside

/-- The single processor runs an interrupt routine to its end before any other
context continues; only the engine keeps moving. -/
def interruptFirst (system : RxSystem) : RxLabel → Bool
  | .run context _ => context == isrContext || system.callStacks[isrContext]? == some []
  | .engine _ => true
  | _ => system.callStacks[isrContext]? == some []

/-- The outcome in which the interface is up and the stack takes every frame by zero-copy. -/
def WorkerOutcome.accepted : WorkerOutcome := ⟨true, false, true, true, true⟩

/-- The outcome in which the interface is down, so the worker gives the buffer back. -/
def WorkerOutcome.down : WorkerOutcome := ⟨false, false, true, true, true⟩

/-- One context runs for a number of steps with the same outcome, a shorthand for schedules. -/
def steps (count context : Nat) (outcome : WorkerOutcome) : List RxLabel :=
  List.replicate count (.run context outcome)

/-- The engine completes a frame of 64 bytes without error. -/
def completeFrame : RxLabel := .engine (.complete 0x80000040#32)

/-- Hooks without an interceptor and without a profiling drop, so every frame goes to the worker. -/
def deliverAll : Hooks := ⟨fun _ => false, fun _ => false⟩

section Effect

variable (cfg : Config) (hooks : Hooks) (outcome : WorkerOutcome) (before : RxShared)

/-- What a frame step can do, branch by branch: the frame, the shared state behind the step and
the frames that replace it. A branch that does not depend on the shared state says nothing more;
the others carry what their test has found. -/
inductive FrameEffect : RxFrame → RxShared → List RxFrame → Prop
  -- `emz_rx_direct_refill`
  | refillDry (caller : RefillCaller) (queued : Nat) (dry : before.rxFreeFifo = []) :
      FrameEffect (.refill caller queued .get) before [.refill caller queued .updateTail]
  | refillGet (caller : RefillCaller) (queued rx : Nat) (rest : List Nat)
      (waiting : before.rxFreeFifo = rx :: rest) :
      FrameEffect (.refill caller queued .get) { before with rxFreeFifo := rest }
        [.refill caller queued (.post rx)]
  | refillPost (caller : RefillCaller) (queued rx : Nat) (ring : RxRing)
      (posted : Posted cfg before.ring rx ring) :
      FrameEffect (.refill caller queued (.post rx)) { before with ring := ring }
        [.refill caller queued .countDma]
  | refillRefused (caller : RefillCaller) (queued rx : Nat) :
      FrameEffect (.refill caller queued (.post rx)) before [.refill caller queued (.putBack rx)]
  | refillPutBack (caller : RefillCaller) (queued rx : Nat) :
      FrameEffect (.refill caller queued (.putBack rx))
        { before with rxFreeFifo := before.rxFreeFifo ++ [rx] } [.refill caller queued .updateTail]
  | refillCountDma (caller : RefillCaller) (queued : Nat) :
      FrameEffect (.refill caller queued .countDma)
        { before with rxDmaFifoCount := before.rxDmaFifoCount + 1 }
        [.refill caller queued .countFree]
  | refillCountFree (caller : RefillCaller) (queued : Nat) :
      FrameEffect (.refill caller queued .countFree)
        { before with rxFreeCount := before.rxFreeCount - 1 } [.refill caller (queued + 1) .get]
  | refillTail (caller : RefillCaller) (queued : Nat) (some_queued : 0 < queued) :
      FrameEffect (.refill caller queued .updateTail)
        { before with engine := before.engine.publish (emzRxDirectUpdateTail before.ring) }
        (match caller with
          | .start => [.start .irqDisable]
          | .other => [])
  | refillNothing (caller : RefillCaller) (queued : Nat) :
      FrameEffect (.refill caller queued .updateTail) before []
  -- The releases.
  | releaseCount (rx : Nat) :
      FrameEffect (.releaseCount rx) { before with rxFreeCount := before.rxFreeCount + 1 }
        [.releasePut rx]
  | releasePut (rx : Nat) :
      FrameEffect (.releasePut rx) { before with rxFreeFifo := before.rxFreeFifo ++ [rx] }
        [refillEntry]
  | releaseFromWorker (rx : Nat) :
      FrameEffect (.releaseFromWorker rx) { before with rxWorkerCount := before.rxWorkerCount - 1 }
        [.releaseCount rx]
  | destroy (rx : Nat) :
      FrameEffect (.destroy rx) { before with rxStackOwnedCount := before.rxStackOwnedCount - 1 }
        [.releaseCount rx]
  -- `emz_rx_direct_poll`
  | pollUnfinished (completed : Nat) :
      FrameEffect (.poll completed .consume) before [.poll completed .finish]
  | pollUnowned (completed : Nat) :
      FrameEffect (.poll completed .consume) before [.poll completed .requestRecover]
  | pollRetired (completed : Nat) (ring : RxRing) (rx : Nat) (status : BitVec 32)
      (taken : emzRxDirectConsume cfg before.ring = (ring, .retired rx status))
      (retired : Retired cfg before.ring rx status ring) :
      FrameEffect (.poll completed .consume)
        { before with
          ring := ring
          retiredCount := before.retiredCount + 1
          retiredRx := before.retiredRx ++ [rx] }
        [.poll completed (.countDma rx before.retiredCount status)]
  | pollRequest (completed : Nat) :
      FrameEffect (.poll completed .requestRecover) (emzRxDirectRequestRecover before)
        [.poll completed .finish]
  | pollCountDma (completed rx number : Nat) (status : BitVec 32) :
      FrameEffect (.poll completed (.countDma rx number status))
        { before with rxDmaFifoCount := before.rxDmaFifoCount - 1 }
        [.poll completed (.deliver rx number status)]
  | pollReady (completed rx number : Nat) (status : BitVec 32)
      (ready : goesToReady cfg hooks number status = true) :
      FrameEffect (.poll completed (.deliver rx number status))
        { before with
          rxStatus := Function.update before.rxStatus rx (emzRxDirectFrame cfg status).1
          rxLen := Function.update before.rxLen rx (emzRxDirectFrame cfg status).2 }
        [.poll completed (.countReady rx number)]
  | pollReleased (completed rx number : Nat) (status : BitVec 32)
      (kept : goesToReady cfg hooks number status = false) :
      FrameEffect (.poll completed (.deliver rx number status))
        { before with
          rxStatus := Function.update before.rxStatus rx (emzRxDirectFrame cfg status).1
          rxLen := Function.update before.rxLen rx (emzRxDirectFrame cfg status).2 }
        [.releaseCount rx, .poll (completed + 1) .consume]
  | pollCountReady (completed rx number : Nat) :
      FrameEffect (.poll completed (.countReady rx number))
        { before with rxReadyFifoCount := before.rxReadyFifoCount + 1 }
        [.poll completed (.putReady rx number)]
  | pollPutReady (completed rx number : Nat) :
      FrameEffect (.poll completed (.putReady rx number))
        { before with
          rxReadyFifo := before.rxReadyFifo ++ [rx]
          readyOrder := before.readyOrder ++ [number] }
        [.poll (completed + 1) .consume]
  | pollRefills (completed : Nat) : FrameEffect (.poll completed .finish) before [refillEntry]
  | pollEnds (completed : Nat) : FrameEffect (.poll completed .finish) before []
  -- `emz_rx_thread`
  | workerGet (rx : Nat) (rest : List Nat) (waiting : before.rxReadyFifo = rx :: rest) :
      FrameEffect (.worker .get)
        { before with rxReadyFifo := rest, workerOrder := before.workerOrder ++ [rx] }
        [.worker (.countReady rx)]
  | workerCountReady (rx : Nat) :
      FrameEffect (.worker (.countReady rx))
        { before with rxReadyFifoCount := before.rxReadyFifoCount - 1 }
        [.worker (.countWorker rx)]
  | workerCount (rx : Nat) :
      FrameEffect (.worker (.countWorker rx))
        { before with rxWorkerCount := before.rxWorkerCount + 1 } [.worker (.examine rx)]
  | workerAccepts (rx : Nat) : FrameEffect (.worker (.examine rx)) before [.worker (.choose rx)]
  | workerCopies (rx : Nat) : FrameEffect (.worker (.choose rx)) before [.worker (.copy rx)]
  | workerLends (rx : Nat)
      (room : before.rxStackOwnedCount < (cfg.rxMaxStackOwnedZerocopy : Int)) :
      FrameEffect (.worker (.choose rx)) before [.worker (.attach rx)]
  | workerAttaches (rx : Nat) :
      FrameEffect (.worker (.attach rx)) before [.worker (.countStack rx)]
  | workerReleases (rx : Nat) (point : WorkerPoint)
      (releases : point = .examine rx ∨ point = .copy rx ∨ point = .attach rx) :
      FrameEffect (.worker point) before [.releaseFromWorker rx, .worker .get]
  | workerCountStack (rx : Nat) :
      FrameEffect (.worker (.countStack rx))
        { before with rxStackOwnedCount := before.rxStackOwnedCount + 1 }
        [.worker (.uncountWorker rx)]
  | workerUncount (rx : Nat) :
      FrameEffect (.worker (.uncountWorker rx))
        { before with rxWorkerCount := before.rxWorkerCount - 1 } [.worker (.submit rx)]
  | workerSubmits (rx : Nat) :
      FrameEffect (.worker (.submit rx))
        { before with stackFragments := before.stackFragments ++ [rx] } [.worker .get]
  | workerDestroys (rx : Nat) :
      FrameEffect (.worker (.submit rx)) before [.destroy rx, .worker .get]
  -- `emz_rx_direct_arm`, `emz_rx_direct_recover`, `emz_rx_direct_start`, `emz_rx_direct_isr`:
  -- no test but one, so each point has one outcome.
  | arm (caller : ArmCaller) (point : ArmPoint) :
      FrameEffect (.arm caller point) (emzRxDirectArm before caller point).1
        (emzRxDirectArm before caller point).2
  | recover (point : RecoverPoint) :
      FrameEffect (.recover point) (emzRxDirectRecover cfg before point).1
        (emzRxDirectRecover cfg before point).2
  | start (point : StartPoint) :
      FrameEffect (.start point) (emzRxDirectStart before point).1 (emzRxDirectStart before point).2
  | isr (point : IsrPoint) :
      FrameEffect (.isr point) (emzRxDirectIsr before point).1 (emzRxDirectIsr before point).2

end Effect

section Effects

variable {cfg : Config} {hooks : Hooks} {outcome : WorkerOutcome} {before after : RxShared}
  {frames : List RxFrame}

/-- The branches of a refill: each point's guard, its change of the shared state and the frames
that follow, as one constructor. -/
theorem refill_effect {caller : RefillCaller} {queued : Nat} {point : RefillPoint}
    (stepped : emzRxDirectRefill cfg before caller queued point = (after, frames)) :
    FrameEffect cfg hooks before (.refill caller queued point) after frames := by
  cases point with
  | get =>
    simp only [emzRxDirectRefill] at stepped
    split at stepped
    · rename_i dry
      obtain ⟨rfl, rfl⟩ := stepped
      exact .refillDry caller queued dry
    · rename_i rx rest waiting
      obtain ⟨rfl, rfl⟩ := stepped
      exact .refillGet caller queued rx rest waiting
  | post rx =>
    simp only [emzRxDirectRefill] at stepped
    rcases post_one_cases cfg before.ring rx with ⟨refused, -⟩ | ⟨ring, succeeded, posted⟩
    · rw [refused] at stepped
      obtain ⟨rfl, rfl⟩ := stepped
      exact .refillRefused caller queued rx
    · rw [succeeded] at stepped
      obtain ⟨rfl, rfl⟩ := stepped
      exact .refillPost caller queued rx ring posted
  | putBack rx =>
    obtain ⟨rfl, rfl⟩ := stepped
    exact .refillPutBack caller queued rx
  | countDma =>
    obtain ⟨rfl, rfl⟩ := stepped
    exact .refillCountDma caller queued
  | countFree =>
    obtain ⟨rfl, rfl⟩ := stepped
    exact .refillCountFree caller queued
  | updateTail =>
    obtain ⟨rfl, rfl⟩ := stepped
    by_cases some_queued : 0 < queued
    · simp only [if_pos some_queued]
      exact .refillTail caller queued some_queued
    · simp only [if_neg some_queued]
      cases caller <;> exact .refillNothing _ queued

/-- The branches of a poll, in the same way; the consume region has three of them. -/
theorem poll_effect {completed : Nat} {point : PollPoint}
    (stepped : emzRxDirectPoll cfg hooks before completed point = (after, frames)) :
    FrameEffect cfg hooks before (.poll completed point) after frames := by
  cases point with
  | consume =>
    rcases consume_cases cfg before.ring with
      ⟨unfinished, -⟩ | ⟨unowned, -⟩ | ⟨ring, rx, status, taken, retired⟩
    · simp only [emzRxDirectPoll, unfinished] at stepped
      obtain ⟨rfl, rfl⟩ := stepped
      exact .pollUnfinished completed
    · simp only [emzRxDirectPoll, unowned] at stepped
      obtain ⟨rfl, rfl⟩ := stepped
      exact .pollUnowned completed
    · simp only [emzRxDirectPoll, taken] at stepped
      obtain ⟨rfl, rfl⟩ := stepped
      exact .pollRetired completed ring rx status taken retired
  | requestRecover =>
    obtain ⟨rfl, rfl⟩ := stepped
    exact .pollRequest completed
  | countDma rx number status =>
    obtain ⟨rfl, rfl⟩ := stepped
    exact .pollCountDma completed rx number status
  | deliver rx number status =>
    obtain ⟨rfl, rfl⟩ := stepped
    cases ready : goesToReady cfg hooks number status with
    | true => exact .pollReady completed rx number status ready
    | false => exact .pollReleased completed rx number status ready
  | countReady rx number =>
    obtain ⟨rfl, rfl⟩ := stepped
    exact .pollCountReady completed rx number
  | putReady rx number =>
    obtain ⟨rfl, rfl⟩ := stepped
    exact .pollPutReady completed rx number
  | finish =>
    obtain ⟨rfl, rfl⟩ := stepped
    split
    · exact .pollRefills completed
    · exact .pollEnds completed

/-- The branches of a worker's iteration, in the same way. -/
theorem worker_effect {point : WorkerPoint}
    (stepped : emzRxThread cfg outcome before point = some (after, frames)) :
    FrameEffect cfg hooks before (.worker point) after frames := by
  cases point with
  | get =>
    simp only [emzRxThread] at stepped
    split at stepped
    · cases stepped
    · rename_i rx rest waiting
      obtain ⟨rfl, rfl⟩ := stepped
      exact .workerGet rx rest waiting
  | countReady rx =>
    obtain ⟨rfl, rfl⟩ := stepped
    exact .workerCountReady rx
  | countWorker rx =>
    obtain ⟨rfl, rfl⟩ := stepped
    exact .workerCount rx
  | examine rx =>
    obtain ⟨rfl, rfl⟩ := stepped
    split
    · exact .workerReleases rx _ (.inl rfl)
    · exact .workerAccepts rx
  | choose rx =>
    obtain ⟨rfl, rfl⟩ := stepped
    split
    · exact .workerCopies rx
    · rename_i room
      exact .workerLends rx (not_le.mp room)
  | copy rx =>
    obtain ⟨rfl, rfl⟩ := stepped
    exact .workerReleases rx _ (.inr (.inl rfl))
  | attach rx =>
    obtain ⟨rfl, rfl⟩ := stepped
    split
    · exact .workerAttaches rx
    · exact .workerReleases rx _ (.inr (.inr rfl))
  | countStack rx =>
    obtain ⟨rfl, rfl⟩ := stepped
    exact .workerCountStack rx
  | uncountWorker rx =>
    obtain ⟨rfl, rfl⟩ := stepped
    exact .workerUncount rx
  | submit rx =>
    simp only [emzRxThread, Option.some.injEq] at stepped
    split at stepped
    · obtain ⟨rfl, rfl⟩ := stepped
      exact .workerSubmits rx
    · obtain ⟨rfl, rfl⟩ := stepped
      exact .workerDestroys rx

/-- Every frame step is one of the branches. Invariants are proved from these alone and never
unfold a function of the driver. -/
theorem frame_step_effect {frame : RxFrame}
    (stepped : frameStep cfg hooks outcome before frame = some (after, frames)) :
    FrameEffect cfg hooks before frame after frames := by
  cases frame with
  | refill caller queued point => exact refill_effect (Option.some.inj stepped)
  | poll completed point => exact poll_effect (Option.some.inj stepped)
  | worker point => exact worker_effect stepped
  | releaseCount rx =>
    obtain ⟨rfl, rfl⟩ := stepped
    exact .releaseCount rx
  | releasePut rx =>
    obtain ⟨rfl, rfl⟩ := stepped
    exact .releasePut rx
  | releaseFromWorker rx =>
    obtain ⟨rfl, rfl⟩ := stepped
    exact .releaseFromWorker rx
  | destroy rx =>
    obtain ⟨rfl, rfl⟩ := stepped
    exact .destroy rx
  | arm caller point =>
    obtain ⟨same, left⟩ := Prod.mk.inj (Option.some.inj stepped)
    rw [← same, ← left]
    exact .arm caller point
  | recover point =>
    obtain ⟨same, left⟩ := Prod.mk.inj (Option.some.inj stepped)
    rw [← same, ← left]
    exact .recover point
  | start point =>
    obtain ⟨same, left⟩ := Prod.mk.inj (Option.some.inj stepped)
    rw [← same, ← left]
    exact .start point
  | isr point =>
    obtain ⟨same, left⟩ := Prod.mk.inj (Option.some.inj stepped)
    rw [← same, ← left]
    exact .isr point

/-- A request for a recovery leaves everything but the recovery's own two fields, the flag and
the queue. -/
theorem request_same (shared : RxShared) :
    ∃ pending queued, emzRxDirectRequestRecover shared =
      { shared with rxDirectRecoverPending := pending, recoverQueued := queued } := by
  unfold emzRxDirectRequestRecover
  split
  · exact ⟨_, _, rfl⟩
  · exact ⟨_, _, rfl⟩

/-- Every frame step keeps the ring's invariant: it takes one locked step of the
ring or none. -/
theorem frame_step_ring {frame : RxFrame} (invariant : RxRingInvariant cfg before.ring)
    (stepped : frameStep cfg hooks outcome before frame = some (after, frames)) :
    RxRingInvariant cfg after.ring := by
  have requested : (emzRxDirectRequestRecover before).ring = before.ring := by
    obtain ⟨_, _, same⟩ := request_same before
    rw [same]
  cases frame_step_effect stepped with
  | refillPost caller queued rx ring posted => exact posted_invariant invariant posted
  | pollRetired completed ring rx status taken retired => exact retired_invariant invariant retired
  | pollRequest completed => exact requested ▸ invariant
  | arm caller point =>
    cases point with
    | tail => exact armed_invariant invariant
    | _ => exact invariant
  | recover point =>
    cases point with
    | sweep => exact swept_invariant (sweep_swept cfg before.ring)
    | countFree orphans => cases orphans <;> exact invariant
    | _ => exact invariant
  | start point => cases point <;> exact invariant
  | isr point =>
    cases point with
    | request dmasr =>
      unfold emzRxDirectIsr
      dsimp only
      split
      · exact requested ▸ invariant
      · exact invariant
    | _ => exact invariant
  | _ => exact invariant

end Effects

end EmaczZephyr.Driver
