import EmaczZephyr.Driver.RxThread

/-!
# Every received buffer is disposed of once

Between the steps of the worker's system each buffer is in one place, the contexts of
the zero-copy fragments name exactly the buffers the network stack holds, and every
such fragment is alive. The pieces of an iteration keep this in turn: a release, an
attachment, and the drop of a packet with the callbacks it runs. Each exit of an
iteration is a short sequence of these pieces, and its events say what became of the
buffer and of the packet.
-/

namespace EmaczZephyr.Driver.Whole

open Runs PacketBuffers

variable {stack : NetStack FragPool .data}

/-- The buffers that the worker took in some events, in order. -/
def takes : List WorkerEvent → List Nat :=
  List.filterMap fun
    | .taken rx => some rx
    | _ => none

/-- The packets that the stack dropped in some events, in order. -/
def finishes : List WorkerEvent → List Nat :=
  List.filterMap fun
    | .finished packet => some packet
    | _ => none

/-- The buffers that some events release to the pool, in order. -/
def releases : List WorkerEvent → List Nat :=
  List.filterMap fun
    | .released rx => some rx
    | _ => none

/-- The fragments that some events attach, each with its buffer. -/
def attachments : List WorkerEvent → List (RxFragment × Nat) :=
  List.filterMap fun
    | .attached fragment rx => some (fragment, rx)
    | _ => none

/-- The packets that some events allocate, in order. -/
def allocations : List WorkerEvent → List Nat :=
  List.filterMap fun
    | .allocated packet => some packet
    | _ => none

/-- The packets that some events see accepted by the stack, in order. -/
def acceptances : List WorkerEvent → List Nat :=
  List.filterMap fun
    | .accepted packet => some packet
    | _ => none

/-- The packets that some events give back, in order. -/
def unreferences : List WorkerEvent → List Nat :=
  List.filterMap fun
    | .unreferenced packet => some packet
    | _ => none

/-- The fates that some events count, in order; of one iteration there is to be exactly one. -/
def disposals : List WorkerEvent → List RxDisposal :=
  List.filterMap fun
    | .disposed disposal => some disposal
    | _ => none

/-- Who releases a buffer: the worker itself, or the destroy callback of the fragment that the
buffer was attached to. -/
inductive BufferHolder where
  | worker
  | fragment
deriving DecidableEq

/-- What becomes of the packet of an iteration: there is none, the stack accepts it, or the
worker drops it. -/
inductive PacketEnd where
  | absent
  | accepted
  | dropped
deriving DecidableEq

/-- The exits of the zero-copy path behind the attachment leave the release to the fragment. -/
def RxDisposal.holder (copied : Bool) : RxDisposal → BufferHolder
  | .interfaceDown | .invalid | .intercepted | .allocPktFail | .allocFragFail | .copyWriteFail
  | .copySubmit => .worker
  | .profileDrop | .netRecvFail => if copied then .worker else .fragment
  | .zeroCopySubmit => .fragment

/-- The exits before the allocation have no packet, and only a submission gives it away. -/
def RxDisposal.packetEnd : RxDisposal → PacketEnd
  | .interfaceDown | .invalid | .intercepted | .allocPktFail => .absent
  | .allocFragFail | .copyWriteFail | .profileDrop | .netRecvFail => .dropped
  | .copySubmit | .zeroCopySubmit => .accepted

/-- The frame is one that the worker counts as invalid. -/
def RxIteration.Invalid (cfg : Config) (iteration : RxIteration) : Prop :=
  iteration.rxStatus < 0 ∨ iteration.rxLen = 0 ∨ cfg.ethBufferSize < iteration.rxLen

/-- The frame goes on to the network stack, on the path that the number of buffers in the stack
decides: it is copied exactly from the limit on. -/
structure RxIteration.Delivers (cfg : WorkerConfig) (iteration : RxIteration) (driver : WatchedRx)
    (copied : Bool) : Prop where
  up : iteration.ifaceUp = true
  valid : ¬ iteration.Invalid cfg.driver
  passed : iteration.rxInterceptor = false
  path : copied = copyFallback cfg.driver driver

/-- The inputs under which an iteration may end in a disposal. The first three are decided by the
interface, the frame and the interceptor alone; which of the others it is depends besides on
the profiling mode, the path, the build and the answers of the network stack. -/
def RxDisposal.Fits (cfg : WorkerConfig) (iteration : RxIteration) (driver : WatchedRx)
    (copied : Bool) : RxDisposal → Prop
  | .interfaceDown => iteration.ifaceUp = false
  | .invalid => iteration.ifaceUp = true ∧ iteration.Invalid cfg.driver
  | .intercepted => iteration.ifaceUp = true ∧ ¬ iteration.Invalid cfg.driver ∧
      iteration.rxInterceptor = true
  | .allocPktFail => iteration.Delivers cfg driver copied
  | .allocFragFail => iteration.Delivers cfg driver copied ∧
      (copied = true → 0 < cfg.rxCopyFallbackCount)
  | .copyWriteFail => iteration.Delivers cfg driver copied ∧ copied = true ∧
      cfg.rxCopyFallbackCount = 0
  | .profileDrop => iteration.Delivers cfg driver copied ∧ iteration.dropsAfterPkt = true
  | .netRecvFail => iteration.Delivers cfg driver copied ∧ iteration.dropsAfterPkt = false
  | .copySubmit => iteration.Delivers cfg driver copied ∧ iteration.dropsAfterPkt = false ∧
      copied = true
  | .zeroCopySubmit => iteration.Delivers cfg driver copied ∧ iteration.dropsAfterPkt = false ∧
      copied = false

/-- What the events of an iteration did with its buffer: the worker released it and it
was in no fragment; or one fragment got it, and was destroyed before the release; or
one fragment got it, and that fragment is the whole of a packet the stack accepted.
The contexts of other fragments are as they were. -/
inductive BufferFate (rx : Nat) (events : List WorkerEvent) (before after : WorkerState stack) :
    BufferHolder → Prop
  | byWorker (once : releases events = [rx]) (never : attachments events = [])
      (contexts : after.fragCtx = before.fragCtx) : BufferFate rx events before after .worker
  | byFragment (fragment : RxFragment) (front back : List WorkerEvent)
      (once : releases events = [rx]) (one : attachments events = [(fragment, rx)])
      (order : events = front ++ [.destroyed fragment, .released rx] ++ back)
      (attached : .attached fragment rx ∈ front) (clear : before.fragCtx fragment = none)
      (contexts : after.fragCtx = before.fragCtx) : BufferFate rx events before after .fragment
  | held (fragment : RxFragment) (packet : Nat)
      (none_yet : releases events = []) (one : attachments events = [(fragment, rx)])
      (clear : before.fragCtx fragment = none)
      (contexts : after.fragCtx = Function.update before.fragCtx fragment (some rx))
      (accepted : acceptances events = [packet])
      (whole : (stack.view after.net).packets packet = some [fragment]) :
      BufferFate rx events before after .fragment

/-- What the events of an iteration did with a packet: none was allocated; or the stack accepted
the one that was, and keeps it or was done with it inside the call; or the worker dropped it.
The worker drops no packet that the stack accepted. -/
inductive PacketFate (events : List WorkerEvent) (before after : WorkerState stack) :
    PacketEnd → Prop
  | absent (allocated : allocations events = []) (accepted : acceptances events = [])
      (dropped : unreferences events = []) (finished : finishes events = [])
      (same : after.accepted = before.accepted) : PacketFate events before after .absent
  | kept (packet : Nat) (allocated : allocations events = [packet])
      (accepted : acceptances events = [packet]) (dropped : unreferences events = [])
      (finished : finishes events = []) (fresh : packet ∉ before.accepted)
      (joined : after.accepted = before.accepted ++ [packet]) :
      PacketFate events before after .accepted
  | consumed (packet : Nat) (allocated : allocations events = [packet])
      (accepted : acceptances events = [packet]) (dropped : unreferences events = [])
      (finished : finishes events = [packet]) (same : after.accepted = before.accepted) :
      PacketFate events before after .accepted
  | dropped (packet : Nat) (allocated : allocations events = [packet])
      (accepted : acceptances events = []) (dropped : unreferences events = [packet])
      (finished : finishes events = []) (same : after.accepted = before.accepted) :
      PacketFate events before after .dropped

/-- The fates depend on the fragment contexts only, so a state with the same contexts may stand
for the one at the start of the iteration. -/
theorem BufferFate.of_before {rx : Nat} {events : List WorkerEvent} {holder : BufferHolder}
    {took before after : WorkerState stack} (fate : BufferFate rx events took after holder)
    (contexts : took.fragCtx = before.fragCtx) : BufferFate rx events before after holder := by
  cases fate with
  | byWorker once never same => exact .byWorker once never (same.trans contexts)
  | byFragment fragment front back once one order attached clear same =>
    exact .byFragment fragment front back once one order attached (contexts ▸ clear)
      (same.trans contexts)
  | held fragment packet none_yet one clear filled accepted whole =>
    exact .held fragment packet none_yet one (contexts ▸ clear) (contexts ▸ filled) accepted whole

/-- A packet's fate is the same from a state that has accepted the same packets. -/
theorem PacketFate.of_before {events : List WorkerEvent} {ended : PacketEnd}
    {took before after : WorkerState stack} (fate : PacketFate events took after ended)
    (kept : took.accepted = before.accepted) : PacketFate events before after ended := by
  cases fate with
  | absent allocated accepted dropped finished same =>
    exact .absent allocated accepted dropped finished (same.trans kept)
  | kept packet allocated accepted dropped finished fresh joined =>
    exact .kept packet allocated accepted dropped finished (kept ▸ fresh) (kept ▸ joined)
  | consumed packet allocated accepted dropped finished same =>
    exact .consumed packet allocated accepted dropped finished (same.trans kept)
  | dropped packet allocated accepted dropped finished same =>
    exact .dropped packet allocated accepted dropped finished (same.trans kept)

/-- The counters after an iteration that ends in a disposal, on the copy path or not. -/
def WorkerStats.counting (stats : WorkerStats) (copied : Bool) : RxDisposal → WorkerStats
  | .interfaceDown | .intercepted | .profileDrop => stats
  | .invalid => { stats with rxInvalid := stats.rxInvalid + 1#64 }
  | .allocPktFail =>
      if copied then { stats with
        rxAllocPktFail := stats.rxAllocPktFail + 1#64
        rxAllocPktCopyFail := stats.rxAllocPktCopyFail + 1#64 }
      else { stats with
        rxAllocPktFail := stats.rxAllocPktFail + 1#64
        rxAllocPktZcFail := stats.rxAllocPktZcFail + 1#64 }
  | .allocFragFail => { stats with rxAllocFragFail := stats.rxAllocFragFail + 1#64 }
  | .copyWriteFail => { stats with rxCopyWriteFail := stats.rxCopyWriteFail + 1#64 }
  | .netRecvFail => { stats with rxNetRecvFail := stats.rxNetRecvFail + 1#64 }
  | .copySubmit => { stats with rxCopySubmit := stats.rxCopySubmit + 1#64 }
  | .zeroCopySubmit => { stats with rxZeroCopySubmit := stats.rxZeroCopySubmit + 1#64 }

/-- A packet of the worker's: one zero-copy fragment that has a buffer, or fragments of
other pools. -/
def RxPacket (fragCtx : RxFragment → Option Nat) (fragments : List RxFragment) : Prop :=
  (∃ fragment rx, fragment.pool = .zeroCopy ∧ fragCtx fragment = some rx ∧
      fragments = [fragment]) ∨
    ∀ fragment ∈ fragments, fragment.pool ≠ .zeroCopy

/-- The buffers are in one place each, and the contexts of the zero-copy fragments are
an account of those the network stack holds. -/
structure WorkerInvariant (cfg : Config) (stack : NetStack FragPool .data) (driver : WatchedRx)
    (net : stack.Net) (fragCtx : RxFragment → Option Nat) (accepted : List Nat) : Prop where
  sound : Sound cfg driver
  holds : ∀ rx, rx ∈ driver.stackFragments ↔ ∃ fragment, fragCtx fragment = some rx
  unique : ∀ first second rx, fragCtx first = some rx → fragCtx second = some rx → first = second
  live : ∀ fragment rx, fragCtx fragment = some rx →
    fragment.pool = .zeroCopy ∧ (stack.view net).Live fragment
  known : ∀ packet ∈ accepted, ∃ fragments,
    (stack.view net).packets packet = some fragments ∧ RxPacket fragCtx fragments
  apart : ∀ fragment, fragment.pool = .zeroCopy → ∀ first ∈ accepted, ∀ second ∈ accepted,
    (stack.view net).packets first = some [fragment] →
    (stack.view net).packets second = some [fragment] → first = second

variable {cfg : Config} {driver : WatchedRx} {net : stack.Net}
  {fragCtx : RxFragment → Option Nat} {accepted : List Nat}

/-- The stack's fragments are distinct, and apart from every other place of a buffer. -/
theorem Sound.placed_nodup {state : WatchedRx} (sound : Sound cfg state) :
    (Whole.placed cfg state).Nodup :=
  sound.placed.nodup_iff.mpr (List.nodup_range)

/-- A change of the network's state that leaves the accepted packets and the live
zero-copy fragments. -/
theorem WorkerInvariant.net_changed
    (invariant : WorkerInvariant cfg stack driver net fragCtx accepted) {changed : stack.Net}
    (packets : ∀ packet ∈ accepted,
      (stack.view changed).packets packet = (stack.view net).packets packet)
    (live : ∀ fragment, fragment.pool = .zeroCopy → (stack.view net).Live fragment →
      (stack.view changed).Live fragment) :
    WorkerInvariant cfg stack driver changed fragCtx accepted where
  sound := invariant.sound
  holds := invariant.holds
  unique := invariant.unique
  live fragment rx context := by
    obtain ⟨zero_copy, alive⟩ := invariant.live fragment rx context
    exact ⟨zero_copy, live fragment zero_copy alive⟩
  known packet member := by
    rw [packets packet member]
    exact invariant.known packet member
  apart fragment zero_copy first one second two := by
    rw [packets first one, packets second two]
    exact invariant.apart fragment zero_copy first one second two

/-- A change of the network's state that nobody sees keeps the worker's invariant, which is about
what can be seen. -/
theorem WorkerInvariant.same_view
    (invariant : WorkerInvariant cfg stack driver net fragCtx accepted) {changed : stack.Net}
    (view : stack.view changed = stack.view net) :
    WorkerInvariant cfg stack driver changed fragCtx accepted :=
  invariant.net_changed (fun _ _ => by rw [view]) (fun _ _ alive => by rwa [view])

/-- A change of the driver's state that leaves the fragments of the stack keeps the invariant, if
the driver is still sound. -/
theorem WorkerInvariant.driver_changed
    (invariant : WorkerInvariant cfg stack driver net fragCtx accepted) {changed : WatchedRx}
    (sound : Sound cfg changed) (fragments : changed.stackFragments = driver.stackFragments) :
    WorkerInvariant cfg stack changed net fragCtx accepted :=
  { invariant with sound := sound, holds := fragments ▸ invariant.holds }

/-- A release by the worker ends its hold on the buffer and leaves the stack's fragments. -/
theorem release_leaves {state : WatchedRx} (sound : Sound cfg state) (rx : Nat) :
    (emzReleaseRxBufferFromWorker cfg state rx).workerBuffer = none ∧
      (emzReleaseRxBufferFromWorker cfg state rx).stackFragments = state.stackFragments := by
  have returned : RingSound cfg (emzReturnRxBuffer cfg (emzPerfUpdatePoolInflight cfg { state with
      workerBuffer := none
      counts := { state.counts with rxWorkerCount := state.counts.rxWorkerCount - 1 } })
      rx).ring := sound.ring
  have untouched := (refill_moves returned).untouched
  exact ⟨untouched.worker, untouched.fragments⟩

/-- A destroyed fragment leaves the stack's fragments, and the worker keeps the buffer it has in
hand. -/
theorem destroy_leaves {state : WatchedRx} (sound : Sound cfg state) (rx : Nat) :
    (emzRxFragDestroy cfg state rx).workerBuffer = state.workerBuffer ∧
      (emzRxFragDestroy cfg state rx).stackFragments = state.stackFragments.erase rx := by
  have returned : RingSound cfg (emzReturnRxBuffer cfg { state with
      stackFragments := state.stackFragments.erase rx
      counts := { state.counts with rxStackOwnedCount := state.counts.rxStackOwnedCount - 1 }
      observed := { state.observed with stackOwned :=
        state.observed.stackOwned ++ [asUint32 (state.counts.rxStackOwnedCount - 1)] } }
      rx).ring := sound.ring
  have untouched := (refill_moves returned).untouched
  exact ⟨untouched.worker, untouched.fragments⟩

/-- The worker's hold on a buffer ends with its release, which keeps the invariant. -/
theorem WorkerInvariant.released
    (invariant : WorkerInvariant cfg stack driver net fragCtx accepted) {rx : Nat}
    (working : driver.workerBuffer = some rx) :
    WorkerInvariant cfg stack (emzReleaseRxBufferFromWorker cfg driver rx) net fragCtx accepted :=
  invariant.driver_changed (release_law invariant.sound working).sound
    (release_leaves invariant.sound rx).2

/-- The stack holds each buffer at most once. -/
theorem WorkerInvariant.fragments_nodup
    (invariant : WorkerInvariant cfg stack driver net fragCtx accepted) :
    driver.stackFragments.Nodup :=
  (List.nodup_append.mp invariant.sound.placed_nodup).2.1

/-- A buffer that the worker holds is in no fragment's context, because the stack's fragments and
the worker's hand are different places. -/
theorem WorkerInvariant.fresh_buffer
    (invariant : WorkerInvariant cfg stack driver net fragCtx accepted) {rx : Nat}
    (working : driver.workerBuffer = some rx) (fragment : RxFragment) :
    fragCtx fragment ≠ some rx := by
  intro context
  have held := (invariant.holds rx).mpr ⟨fragment, context⟩
  have distinct := invariant.sound.placed_nodup
  rw [Whole.placed, working] at distinct
  exact (List.nodup_append.mp distinct).2.2 rx (by simp) rx held rfl

/-- A clear context that gets a buffer adds it to those the contexts name. -/
theorem named_update {fragment : RxFragment} (clear : fragCtx fragment = none) (rx other : Nat) :
    (∃ holder, Function.update fragCtx fragment (some rx) holder = some other) ↔
      (∃ holder, fragCtx holder = some other) ∨ other = rx := by
  constructor
  · rintro ⟨holder, context⟩
    by_cases same : holder = fragment
    · rw [same, Function.update_self] at context
      exact .inr (Option.some.inj context).symm
    · rw [Function.update_of_ne same] at context
      exact .inl ⟨holder, context⟩
  · rintro (⟨holder, context⟩ | rfl)
    · have different : holder ≠ fragment := by
        rintro rfl
        rw [clear] at context
        cases context
      exact ⟨holder, by rw [Function.update_of_ne different, context]⟩
    · exact ⟨fragment, Function.update_self ..⟩

/-- The worker may attach its buffer to a live zero-copy fragment whose context is clear: from
then on the stack holds it through this fragment. -/
theorem WorkerInvariant.attached
    (invariant : WorkerInvariant cfg stack driver net fragCtx accepted) {rx : Nat}
    (working : driver.workerBuffer = some rx) {fragment : RxFragment}
    (zero_copy : fragment.pool = .zeroCopy) (live : (stack.view net).Live fragment)
    (clear : fragCtx fragment = none) :
    WorkerInvariant cfg stack (emzRxThreadAttach cfg driver rx) net
      (Function.update fragCtx fragment (some rx)) accepted where
  sound := (attach_law invariant.sound working).sound
  holds other := by
    have now : (emzRxThreadAttach cfg driver rx).stackFragments = driver.stackFragments ++ [rx] :=
      rfl
    rw [now, List.mem_append, invariant.holds, List.mem_singleton, named_update clear]
  unique first second other := by
    have fresh := invariant.fresh_buffer working
    rw [Function.update_apply, Function.update_apply]
    split <;> split <;> intro left right
    · rename_i one two
      exact one.trans two.symm
    · exact absurd (right.trans left.symm) (fresh second)
    · exact absurd (left.trans right.symm) (fresh first)
    · exact invariant.unique first second other left right
  live holder other context := by
    by_cases same : holder = fragment
    · exact same ▸ ⟨zero_copy, live⟩
    · rw [Function.update_of_ne same] at context
      exact invariant.live holder other context
  known packet member := by
    obtain ⟨fragments, held, shape⟩ := invariant.known packet member
    refine ⟨fragments, held, shape.imp_left ?_⟩
    rintro ⟨holder, other, pool, context, whole⟩
    have different : holder ≠ fragment := by
      rintro rfl
      rw [clear] at context
      cases context
    exact ⟨holder, other, pool, (Function.update_of_ne different ..).trans context, whole⟩
  apart := invariant.apart

/-- A packet of one zero-copy fragment is dropped: the fragment's buffer is released and
its context is clear. -/
theorem WorkerInvariant.destroyed
    (invariant : WorkerInvariant cfg stack driver net fragCtx accepted) {fragment : RxFragment}
    {rx packet : Nat} {changed : stack.Net} (context : fragCtx fragment = some rx)
    (whole : (stack.view net).packets packet = some [fragment])
    (dropped : stack.view changed = (stack.view net).set packet none)
    {left : List Nat} (others : ∀ other ∈ left, other ∈ accepted ∧ other ≠ packet ∧
      (stack.view net).packets other ≠ some [fragment]) :
    WorkerInvariant cfg stack (emzRxFragDestroy cfg driver rx) changed
      (Function.update fragCtx fragment none) left where
  sound := (destroy_law invariant.sound ((invariant.holds rx).mpr ⟨fragment, context⟩)).sound
  holds other := by
    rw [(destroy_leaves invariant.sound rx).2, invariant.fragments_nodup.mem_erase_iff,
      invariant.holds]
    constructor
    · rintro ⟨different, holder, held⟩
      have apart : holder ≠ fragment := by
        rintro rfl
        exact different (Option.some.inj (held.symm.trans context))
      exact ⟨holder, by rw [Function.update_of_ne apart, held]⟩
    · rintro ⟨holder, held⟩
      by_cases same : holder = fragment
      · rw [same, Function.update_self] at held
        cases held
      · rw [Function.update_of_ne same] at held
        refine ⟨?_, holder, held⟩
        rintro rfl
        exact same (invariant.unique holder fragment other held context)
  unique first second other := by
    rw [Function.update_apply, Function.update_apply]
    split <;> split <;> intro one two
    · cases one
    · cases one
    · cases two
    · exact invariant.unique first second other one two
  live holder other held := by
    by_cases same : holder = fragment
    · rw [same, Function.update_self] at held
      cases held
    · rw [Function.update_of_ne same] at held
      obtain ⟨zero_copy, alive⟩ := invariant.live holder other held
      refine ⟨zero_copy, dropped ▸ live_set alive ?_⟩
      intro had holds member
      rw [whole] at holds
      obtain rfl := Option.some.inj holds
      exact absurd (List.mem_singleton.mp member) same
  known other member := by
    obtain ⟨earlier, different, elsewhere⟩ := others other member
    obtain ⟨fragments, held, shape⟩ := invariant.known other earlier
    refine ⟨fragments, by rw [dropped, set_other different, held], shape.imp_left ?_⟩
    rintro ⟨holder, buffer, pool, filled, rfl⟩
    have away : holder ≠ fragment := by
      rintro rfl
      exact elsewhere held
    exact ⟨holder, buffer, pool, (Function.update_of_ne away ..).trans filled, rfl⟩
  apart holder zero_copy first one second two := by
    obtain ⟨earlier, different, -⟩ := others first one
    obtain ⟨later, away, -⟩ := others second two
    rw [dropped, set_other different, set_other away]
    exact invariant.apart holder zero_copy first earlier second later

/-- A packet that is not in use is none of the accepted ones, which are in use until they are
finished. -/
theorem WorkerInvariant.unused
    (invariant : WorkerInvariant cfg stack driver net fragCtx accepted) {packet : Nat}
    (unused : (stack.view net).packets packet = none) {other : Nat} (member : other ∈ accepted) :
    other ≠ packet := by
  rintro rfl
  obtain ⟨fragments, held, -⟩ := invariant.known other member
  rw [unused] at held
  cases held

/-- A change of one packet that is not accepted keeps the invariant when no zero-copy fragment of
it is lost. -/
theorem WorkerInvariant.packet_set
    (invariant : WorkerInvariant cfg stack driver net fragCtx accepted) {changed : stack.Net}
    {packet : Nat} {fragments : Option (List RxFragment)}
    (different : ∀ other ∈ accepted, other ≠ packet)
    (view : stack.view changed = (stack.view net).set packet fragments)
    (stays : ∀ fragment, fragment.pool = .zeroCopy → ∀ had,
      (stack.view net).packets packet = some had → fragment ∈ had →
        ∃ has, fragments = some has ∧ fragment ∈ has) :
    WorkerInvariant cfg stack driver changed fragCtx accepted := by
  refine invariant.net_changed ?_ ?_
  · intro other member
    rw [view, set_other (different other member)]
  · intro fragment zero_copy alive
    exact view ▸ live_set alive (stays fragment zero_copy)

/-- A packet the worker has allocated: it is none of the accepted ones. -/
structure Opened (stack : NetStack FragPool .data) (net : stack.Net) (accepted : List Nat)
    (packet : Nat) (fragments : List RxFragment) : Prop where
  held : (stack.view net).packets packet = some fragments
  different : ∀ other ∈ accepted, other ≠ packet

/-- An allocated packet is the worker's own, empty, and keeps the invariant; it was not in use
before. -/
theorem WorkerInvariant.packet_opened
    (invariant : WorkerInvariant cfg stack driver net fragCtx accepted) (packet : Nat)
    (got : (stack.pktAlloc net).2 = some packet) :
    WorkerInvariant cfg stack driver (stack.pktAlloc net).1 fragCtx accepted ∧
      Opened stack (stack.pktAlloc net).1 accepted packet [] := by
  obtain ⟨unused, view⟩ := stack.pkt_alloc net packet got
  have different : ∀ other ∈ accepted, other ≠ packet := fun _ => invariant.unused unused
  refine ⟨invariant.packet_set different view ?_, by rw [view, set_same], different⟩
  intro fragment _ had held
  rw [unused] at held
  cases held

/-- An allocated fragment is of the pool that was asked for, in no packet, and its context is
clear. -/
theorem WorkerInvariant.fragment_allocated
    (invariant : WorkerInvariant cfg stack driver net fragCtx accepted) (pool : FragPool)
    (fragment : RxFragment) (got : (stack.bufAlloc net pool).2 = some fragment) :
    WorkerInvariant cfg stack driver (stack.bufAlloc net pool).1 fragCtx accepted ∧
      (stack.view (stack.bufAlloc net pool).1).packets = (stack.view net).packets ∧
      fragment.pool = pool ∧ fragment ∈ (stack.view (stack.bufAlloc net pool).1).loose ∧
      (∀ packet, (stack.view net).packets packet ≠ some [fragment]) ∧
      fragCtx fragment = none := by
  obtain ⟨pooled, dead, view⟩ := stack.buf_alloc net pool fragment got
  refine ⟨invariant.net_changed (fun packet _ => by rw [view]) ?_, by rw [view], pooled,
    by simp [view], fun packet held => dead (.inr ⟨packet, _, held, by simp⟩), ?_⟩
  · rintro other - (loose | inside)
    · exact .inl (by simp [view, loose])
    · exact .inr (by rwa [view])
  · cases context : fragCtx fragment with
    | none => rfl
    | some rx => exact absurd (invariant.live fragment rx context).2 dead

/-- A loose fragment that is appended to the worker's empty packet is the whole of it from then
on. -/
theorem WorkerInvariant.fragment_appended
    (invariant : WorkerInvariant cfg stack driver net fragCtx accepted) {packet : Nat}
    {fragment : RxFragment} (opened : Opened stack net accepted packet [])
    (loose : fragment ∈ (stack.view net).loose) :
    WorkerInvariant cfg stack driver (stack.pktAppend net packet fragment) fragCtx accepted ∧
      Opened stack (stack.pktAppend net packet fragment) accepted packet [fragment] := by
  have view := stack.pkt_append net packet fragment [] opened.held loose
  refine ⟨invariant.net_changed ?_ ?_, ?_, opened.different⟩
  · intro other member
    rw [view]
    exact set_other (opened.different other member)
  · intro other _ alive
    rw [view]
    exact live_append opened.held alive
  · rw [view]
    exact set_same

/-- The destroy callbacks of other pools leave the driver alone and count what the copy pool has
in use. Induction on the fragments. -/
theorem destroy_others (cfg : Config) (fragments : List RxFragment) (state : WorkerState stack)
    (others : ∀ fragment ∈ fragments, fragment.pool ≠ .zeroCopy) :
    ∃ copyInUse, fragments.foldl (fragDestroy cfg) state = { state with
      copyInUse := copyInUse
      events := state.events ++ fragments.map .destroyed } := by
  induction fragments generalizing state with
  | nil => exact ⟨state.copyInUse, by simp⟩
  | cons fragment fragments inductionHypothesis =>
    obtain ⟨first, rest⟩ := List.forall_mem_cons.mp others
    have one : ∃ copyInUse, fragDestroy cfg state fragment = { state with
        copyInUse := copyInUse, events := state.events ++ [.destroyed fragment] } := by
      cases pool : fragment.pool with
      | zeroCopy => exact absurd pool first
      | copy => exact ⟨_, by simp only [fragDestroy, pool]; rfl⟩
      | data => exact ⟨_, by simp only [fragDestroy, pool]; rfl⟩
    obtain ⟨copyInUse, destroyed⟩ := one
    obtain ⟨last, whole⟩ := inductionHypothesis { state with
      copyInUse := copyInUse, events := state.events ++ [.destroyed fragment] } rest
    refine ⟨last, ?_⟩
    rw [List.foldl_cons, destroyed, whole]
    simp

/-- A dropped packet of other fragments changes the network and the copy pool's count only. -/
theorem dropped_others (cfg : Config) (state : WorkerState stack) (event : WorkerEvent)
    (net : stack.Net) {fragments : List RxFragment}
    (others : ∀ fragment ∈ fragments, fragment.pool ≠ .zeroCopy) :
    ∃ copyInUse, packetDropped cfg state event (net, fragments) = { state with
      net := net
      copyInUse := copyInUse
      events := state.events ++ event :: fragments.map .destroyed } := by
  obtain ⟨copyInUse, whole⟩ := destroy_others cfg fragments { state with
    net := net
    events := state.events ++ [event] } others
  refine ⟨copyInUse, ?_⟩
  rw [packetDropped, whole]
  simp

/-- A dropped packet of one zero-copy fragment releases the fragment's buffer, exactly once,
through the destroy callback. -/
theorem dropped_zero_copy (cfg : Config) (state : WorkerState stack) (event : WorkerEvent)
    (net : stack.Net) {rx : Nat} {fragment : RxFragment} (zero_copy : fragment.pool = .zeroCopy)
    (context : state.fragCtx fragment = some rx) :
    packetDropped cfg state event (net, [fragment]) = { state with
      net := net
      fragCtx := Function.update state.fragCtx fragment none
      driver := emzRxFragDestroy cfg state.driver rx
      events := state.events ++ [event, .destroyed fragment, .released rx] } := by
  simp [packetDropped, fragDestroy, zero_copy, context, WorkerState.note]

/-- The stack drops the last reference of a packet and names the fragments it had. -/
theorem pkt_unref_pair {net : stack.Net} {packet : Nat} {fragments : List RxFragment}
    (held : (stack.view net).packets packet = some fragments) :
    ∃ after, stack.pktUnref net packet = (after, fragments) ∧
      stack.view after = (stack.view net).set packet none := by
  obtain ⟨named, view⟩ := stack.pkt_unref net packet fragments held
  exact ⟨(stack.pktUnref net packet).1, Prod.ext rfl named, view⟩

/-- The three answers of `net_recv_data` for a packet that is in use: refused and kept packets
stay as they are, and a consumed one is gone with its fragments. -/
theorem recv_data_cases (cfg : Config) (state : WorkerState stack) {packet : Nat}
    {fragments : List RxFragment}
    (held : (stack.view state.net).packets packet = some fragments) :
    ∃ net, (netRecvData cfg state packet = ({ state with net := net }, false) ∧
        stack.view net = stack.view state.net) ∨
      (netRecvData cfg state packet = (state.accept net packet, true) ∧
        stack.view net = stack.view state.net) ∨
      netRecvData cfg state packet = (packetDropped cfg (state.note (.accepted packet))
        (.finished packet) (net, fragments), true) ∧
        stack.view net = (stack.view state.net).set packet none := by
  refine ⟨(stack.recvData state.net packet).1, ?_⟩
  rw [netRecvData]
  rcases answer : stack.recvData state.net packet with ⟨net, refused | kept | destroyed⟩
  · exact .inl ⟨rfl, by have view := stack.recv_refused state.net packet; simp_all⟩
  · exact .inr (.inl ⟨rfl, by have view := stack.recv_kept state.net packet; simp_all⟩)
  · have law := stack.recv_consumed state.net packet destroyed fragments (by rw [answer]) held
    rw [answer] at law
    obtain ⟨rfl, view⟩ := law
    exact .inr (.inr ⟨rfl, view⟩)

/-- The worker's state as a whole satisfies the invariant. -/
def WorkerState.Invariant (cfg : Config) (state : WorkerState stack) : Prop :=
  WorkerInvariant cfg stack state.driver state.net state.fragCtx state.accepted

/-- How an iteration ends: one disposal that its inputs allow, the fates of buffer and packet
that belong to it, and its counter. -/
structure Disposed (cfg : WorkerConfig) (iteration : RxIteration) (rx : Nat)
    (events : List WorkerEvent) (before after : WorkerState stack) (disposal : RxDisposal)
    (copied : Bool) : Prop where
  once : disposals events = [disposal]
  fits : disposal.Fits cfg iteration before.driver copied
  buffer : BufferFate rx events before after (disposal.holder copied)
  packet : PacketFate events before after disposal.packetEnd
  counted : after.stats = before.stats.counting copied disposal

/-- What an iteration leaves behind, from the point where the worker has its buffer. -/
structure Iterated (cfg : WorkerConfig) (iteration : RxIteration) (before : WorkerState stack)
    (rx : Nat) (after : WorkerState stack) : Prop where
  invariant : after.Invariant cfg.driver
  idle : after.driver.workerBuffer = none
  outcome : ∃ events disposal copied, after.events = before.events ++ events ∧
    takes events = [] ∧ Disposed cfg iteration rx events before after disposal copied

/-- The state of the worker on its way to a release: its buffer is in no fragment, and
its packet, if any, has found its fate. -/
structure Releasing (cfg : WorkerConfig) (iteration : RxIteration) (before : WorkerState stack)
    (rx : Nat) (events : List WorkerEvent) (disposal : RxDisposal) (copied : Bool)
    (state : WorkerState stack) : Prop where
  invariant : state.Invariant cfg.driver
  working : state.driver.workerBuffer = some rx
  contexts : state.fragCtx = before.fragCtx
  recorded : state.events = before.events ++ events
  unreleased : releases events = []
  unattached : attachments events = []
  untaken : takes events = []
  once : disposals events = [disposal]
  fits : disposal.Fits cfg iteration before.driver copied
  holder : disposal.holder copied = .worker
  packet : PacketFate events before state disposal.packetEnd
  counted : state.stats = before.stats.counting copied disposal

/-- A release of a buffer is no event of a packet, so it does not change a packet's fate. -/
theorem packet_fate_released {events : List WorkerEvent} {ended : PacketEnd}
    {before state : WorkerState stack} (fate : PacketFate events before state ended) (rx : Nat) :
    PacketFate (events ++ [.released rx]) before (releaseFromWorker cfg state rx) ended := by
  have same : allocations (events ++ [.released rx]) = allocations events ∧
      acceptances (events ++ [.released rx]) = acceptances events ∧
      unreferences (events ++ [.released rx]) = unreferences events ∧
      finishes (events ++ [.released rx]) = finishes events := by
    simp [allocations, acceptances, unreferences, finishes]
  obtain ⟨allocated, accepted, dropped, finished⟩ := same
  cases fate with
  | absent _ _ _ _ kept =>
    exact .absent (by rwa [allocated]) (by rwa [accepted]) (by rwa [dropped]) (by rwa [finished])
      kept
  | kept packet _ _ _ _ fresh joined =>
    exact .kept packet (by rwa [allocated]) (by rwa [accepted]) (by rwa [dropped])
      (by rwa [finished]) fresh joined
  | consumed packet _ _ _ _ kept =>
    exact .consumed packet (by rwa [allocated]) (by rwa [accepted]) (by rwa [dropped])
      (by rwa [finished]) kept
  | dropped packet _ _ _ _ kept =>
    exact .dropped packet (by rwa [allocated]) (by rwa [accepted]) (by rwa [dropped])
      (by rwa [finished]) kept

/-- The release by the worker ends the iteration with the fates that were known before it. -/
theorem Releasing.iterated {cfg : WorkerConfig} {iteration : RxIteration}
    {before state : WorkerState stack} {rx : Nat} {events : List WorkerEvent}
    {disposal : RxDisposal} {copied : Bool}
    (releasing : Releasing cfg iteration before rx events disposal copied state) :
    Iterated cfg iteration before rx (releaseFromWorker cfg.driver state rx) where
  invariant := releasing.invariant.released releasing.working
  idle := (release_leaves releasing.invariant.sound rx).1
  outcome := by
    refine ⟨events ++ [.released rx], disposal, copied, ?_, ?_, ?_, releasing.fits, ?_,
      packet_fate_released releasing.packet rx, releasing.counted⟩
    · simp [releaseFromWorker, releasing.recorded]
    · simpa [takes] using releasing.untaken
    · simpa [disposals] using releasing.once
    · rw [releasing.holder]
      refine .byWorker ?_ ?_ releasing.contexts
      · simpa [releases] using releasing.unreleased
      · simpa [attachments] using releasing.unattached

/-- The exits before the worker has a packet: the buffer goes back by the worker's release, one
fate is counted, and no packet is left. -/
theorem early_exit {cfg : WorkerConfig} {iteration : RxIteration} {state : WorkerState stack}
    {rx : Nat} (invariant : state.Invariant cfg.driver)
    (working : state.driver.workerBuffer = some rx) (disposal : RxDisposal) (copied : Bool)
    (fits : disposal.Fits cfg iteration state.driver copied)
    (early : disposal.packetEnd = .absent) {net : stack.Net}
    (view : stack.view net = stack.view state.net) :
    Iterated cfg iteration state rx (releaseFromWorker cfg.driver
      ({ state with net := net }.dispose disposal (state.stats.counting copied disposal)) rx) := by
  have holder : disposal.holder copied = .worker := by
    cases disposal <;> first | rfl | cases early
  have packet : PacketFate [.disposed disposal] state ({ state with net := net }.dispose disposal
      (state.stats.counting copied disposal)) disposal.packetEnd := by
    rw [early]
    exact .absent rfl rfl rfl rfl rfl
  exact Releasing.iterated ⟨invariant.same_view view, working, rfl, rfl, rfl, rfl, rfl, rfl, fits,
    holder, packet, rfl⟩

/-- The worker with a packet of its own, and its events since it took the buffer. -/
structure Building (cfg : Config) (before : WorkerState stack) (rx packet : Nat)
    (fragments : List RxFragment) (state : WorkerState stack) : Prop where
  invariant : state.Invariant cfg
  working : state.driver.workerBuffer = some rx
  opened : Opened stack state.net state.accepted packet fragments
  others : ∀ fragment ∈ fragments, fragment.pool ≠ .zeroCopy
  contexts : state.fragCtx = before.fragCtx
  accepted : state.accepted = before.accepted
  stats : state.stats = before.stats
  events : ∃ destroyed : List RxFragment,
    state.events = before.events ++ .allocated packet :: destroyed.map .destroyed

/-- An allocation gives the worker an empty packet to build, and the invariant stays. -/
theorem Building.started {state : WorkerState stack} {rx packet : Nat} {net : stack.Net}
    (invariant : state.Invariant cfg) (working : state.driver.workerBuffer = some rx)
    (got : stack.pktAlloc state.net = (net, some packet)) :
    Building cfg state rx packet [] ({ state with net := net }.note (.allocated packet)) := by
  obtain ⟨kept, opened⟩ := invariant.packet_opened packet (by rw [got])
  rw [got] at kept opened
  exact ⟨kept, working, opened, by simp, rfl, rfl, rfl, [], rfl⟩

/-- Dropping a packet of other fragments keeps the invariant, since no accepted packet and no
zero-copy fragment is affected. -/
theorem WorkerInvariant.packet_dropped
    (invariant : WorkerInvariant cfg stack driver net fragCtx accepted) {packet : Nat}
    {fragments : List RxFragment} (opened : Opened stack net accepted packet fragments)
    (others : ∀ fragment ∈ fragments, fragment.pool ≠ .zeroCopy) {changed : stack.Net}
    (view : stack.view changed = (stack.view net).set packet none) :
    WorkerInvariant cfg stack driver changed fragCtx accepted := by
  refine invariant.packet_set opened.different view ?_
  intro fragment zero_copy had held member
  obtain rfl := Option.some.inj (opened.held.symm.trans held)
  exact absurd zero_copy (others fragment member)

/-- A failing exit of the copy path: the packet is dropped and the failure counted. The failed
write counts before it drops the packet, the other exits behind it. -/
theorem Building.dropped {cfg : WorkerConfig} {iteration : RxIteration}
    {before state : WorkerState stack} {rx packet : Nat} {fragments : List RxFragment}
    (building : Building cfg.driver before rx packet fragments state) (first : Bool)
    (disposal : RxDisposal) (copied : Bool) {stats : WorkerStats}
    (fits : disposal.Fits cfg iteration before.driver copied)
    (holder : disposal.holder copied = .worker) (ended : disposal.packetEnd = .dropped)
    (counted : stats = before.stats.counting copied disposal) :
    Iterated cfg iteration before rx (releaseFromWorker cfg.driver
      (if first then netPktUnref cfg.driver (state.dispose disposal stats) packet
        else (netPktUnref cfg.driver state packet).dispose disposal stats) rx) := by
  obtain ⟨net, unreferenced, view⟩ := pkt_unref_pair building.opened.held
  obtain ⟨destroyed, recorded⟩ := building.events
  let front : List WorkerEvent := .allocated packet :: destroyed.map .destroyed
  let drop : List WorkerEvent := .unreferenced packet :: fragments.map .destroyed
  have dropped : ∃ copyInUse,
      (if first then netPktUnref cfg.driver (state.dispose disposal stats) packet
        else (netPktUnref cfg.driver state packet).dispose disposal stats) = { state with
      net := net
      copyInUse := copyInUse
      stats := stats
      events := before.events ++ (front ++
        if first then .disposed disposal :: drop else drop ++ [.disposed disposal]) } := by
    cases first with
    | true =>
      obtain ⟨copyInUse, whole⟩ := dropped_others cfg.driver (state.dispose disposal stats)
        (.unreferenced packet) net building.others
      refine ⟨copyInUse, ?_⟩
      rw [if_pos rfl, netPktUnref, WorkerState.dispose, unreferenced, ← WorkerState.dispose, whole]
      simp [WorkerState.dispose, recorded, front, drop]
    | false =>
      obtain ⟨copyInUse, whole⟩ := dropped_others cfg.driver state (.unreferenced packet) net
        building.others
      refine ⟨copyInUse, ?_⟩
      rw [if_neg Bool.false_ne_true, netPktUnref, unreferenced, whole]
      simp [WorkerState.dispose, recorded, front, drop]
  obtain ⟨copyInUse, whole⟩ := dropped
  rw [whole]
  refine Releasing.iterated ⟨building.invariant.packet_dropped building.opened building.others
    view, building.working, building.contexts, rfl, ?_, ?_, ?_, ?_, fits, holder,
    ended ▸ .dropped packet ?_ ?_ ?_ ?_ building.accepted, counted⟩
  all_goals cases first <;> simp [front, drop, takes, releases, attachments, allocations,
    acceptances, unreferences, finishes, disposals, List.filterMap_map]

/-- The stack accepts the worker's packet: it joins the accepted ones, with fragments of the
right shape and no zero-copy fragment in two packets. -/
theorem WorkerInvariant.packet_accepted
    (invariant : WorkerInvariant cfg stack driver net fragCtx accepted) {packet : Nat}
    {fragments : List RxFragment} (held : (stack.view net).packets packet = some fragments)
    (shape : RxPacket fragCtx fragments)
    (alone : ∀ fragment, fragment.pool = .zeroCopy → fragments = [fragment] →
      ∀ other ∈ accepted, (stack.view net).packets other ≠ some [fragment]) :
    WorkerInvariant cfg stack driver net fragCtx (accepted ++ [packet]) :=
  { invariant with
    known := by
      intro other member
      rcases List.mem_append.mp member with earlier | last
      · exact invariant.known other earlier
      · exact ⟨fragments, List.mem_singleton.mp last ▸ held, shape⟩
    apart := by
      intro fragment zero_copy first one second two inFirst inSecond
      have whole (other : Nat) (last : other ∈ [packet])
          (holds : (stack.view net).packets other = some [fragment]) : fragments = [fragment] := by
        rw [List.mem_singleton.mp last, held] at holds
        exact Option.some.inj holds
      rcases List.mem_append.mp one with one | one <;> rcases List.mem_append.mp two with two | two
      · exact invariant.apart fragment zero_copy first one second two inFirst inSecond
      · exact absurd inFirst (alone fragment zero_copy (whole second two inSecond) first one)
      · exact absurd inSecond (alone fragment zero_copy (whole first one inFirst) second two)
      · exact (List.mem_singleton.mp one).trans (List.mem_singleton.mp two).symm }

/-- A copied packet that the stack has accepted, kept or used up: the worker still has the
buffer, and releases it next. -/
theorem Building.submitted {cfg : WorkerConfig} {iteration : RxIteration}
    {before state accepted : WorkerState stack} {rx packet : Nat} {fragments : List RxFragment}
    (building : Building cfg.driver before rx packet fragments state)
    (fits : RxDisposal.copySubmit.Fits cfg iteration before.driver true)
    (received : netRecvData cfg.driver state packet = (accepted, true)) :
    Iterated cfg iteration before rx (releaseFromWorker cfg.driver (accepted.dispose .copySubmit
      { state.stats with rxCopySubmit := state.stats.rxCopySubmit + 1#64 }) rx) := by
  obtain ⟨destroyed, recorded⟩ := building.events
  have counted : { state.stats with rxCopySubmit := state.stats.rxCopySubmit + 1#64 } =
      before.stats.counting true .copySubmit := by
    rw [building.stats]
    rfl
  obtain ⟨net, ⟨refused, -⟩ | ⟨kept, view⟩ | ⟨used, view⟩⟩ :=
    recv_data_cases cfg.driver state building.opened.held
  · cases refused.symm.trans received
  · obtain rfl := congrArg Prod.fst (kept.symm.trans received)
    have fresh : packet ∉ before.accepted := fun member =>
      building.opened.different packet (building.accepted ▸ member) rfl
    have joined : state.accepted ++ [packet] = before.accepted ++ [packet] := by
      rw [building.accepted]
    have invariant := (building.invariant.same_view view).packet_accepted
      (view ▸ building.opened.held) (.inr building.others) (by
        rintro fragment zero_copy rfl
        exact absurd zero_copy (building.others fragment (List.mem_singleton_self _)))
    have releasing : Releasing cfg iteration before rx (.allocated packet ::
        destroyed.map .destroyed ++ [.accepted packet, .disposed .copySubmit]) .copySubmit true
        ((state.accept net packet).dispose .copySubmit
          { state.stats with rxCopySubmit := state.stats.rxCopySubmit + 1#64 }) := by
      refine ⟨invariant, building.working, building.contexts, ?_, ?_, ?_, ?_, ?_, fits, rfl,
        .kept packet ?_ ?_ ?_ ?_ fresh joined, counted⟩
      · simp [WorkerState.accept, WorkerState.dispose, recorded]
      all_goals simp [takes, releases, attachments, allocations, acceptances, unreferences,
        finishes, disposals, List.filterMap_map]
    exact releasing.iterated
  · obtain ⟨copyInUse, whole⟩ := dropped_others cfg.driver (state.note (.accepted packet))
      (.finished packet) net building.others
    obtain rfl := congrArg Prod.fst (used.symm.trans received)
    rw [whole]
    have releasing : Releasing cfg iteration before rx (.allocated packet ::
        destroyed.map .destroyed ++ (.accepted packet :: .finished packet ::
          fragments.map .destroyed ++ [.disposed .copySubmit])) .copySubmit true
        (WorkerState.dispose { state.note (.accepted packet) with
          net := net
          copyInUse := copyInUse
          events := (state.note (.accepted packet)).events ++
            .finished packet :: fragments.map .destroyed } .copySubmit
          { state.stats with rxCopySubmit := state.stats.rxCopySubmit + 1#64 }) := by
      refine ⟨building.invariant.packet_dropped building.opened building.others view,
        building.working, building.contexts, ?_, ?_, ?_, ?_, ?_, fits, rfl,
        .consumed packet ?_ ?_ ?_ ?_ building.accepted, counted⟩
      · simp [WorkerState.note, WorkerState.dispose, recorded]
      all_goals simp [takes, releases, attachments, allocations, acceptances, unreferences,
        finishes, disposals, List.filterMap_map]
    exact releasing.iterated

/-- A refused packet is still the worker's, with the fragments that it had, and the counters are
as before. -/
theorem Building.refused {before state refused : WorkerState stack} {rx packet : Nat}
    {fragments : List RxFragment} (building : Building cfg before rx packet fragments state)
    (received : netRecvData cfg state packet = (refused, false)) :
    Building cfg before rx packet fragments refused ∧ refused.stats = state.stats := by
  obtain ⟨net, ⟨refuses, view⟩ | ⟨kept, -⟩ | ⟨used, -⟩⟩ :=
    recv_data_cases cfg state building.opened.held
  · obtain rfl := congrArg Prod.fst (refuses.symm.trans received)
    exact ⟨{ building with
      invariant := building.invariant.same_view view
      opened := ⟨view ▸ building.opened.held, building.opened.different⟩ }, rfl⟩
  · cases kept.symm.trans received
  · cases used.symm.trans received

/-- The end of the copy path: drop test, then `net_recv_data`, accepted or refused, each with its
counter and the release of the buffer. -/
theorem copy_submit_iterated {cfg : WorkerConfig} {before state : WorkerState stack}
    {rx packet : Nat} {fragments : List RxFragment} {iteration : RxIteration}
    (building : Building cfg.driver before rx packet fragments state)
    (delivers : iteration.Delivers cfg before.driver true) :
    Iterated cfg iteration before rx (emzRxThreadCopySubmit cfg iteration state packet rx) := by
  unfold emzRxThreadCopySubmit
  split
  · rename_i drops
    exact building.dropped false .profileDrop true ⟨delivers, drops⟩ rfl rfl building.stats
  · rename_i passes
    have through : iteration.dropsAfterPkt = false := Bool.not_eq_true _ ▸ passes
    split
    · rename_i refused received
      obtain ⟨again, same⟩ := building.refused received
      exact again.dropped false .netRecvFail true ⟨delivers, through⟩ rfl rfl
        (by rw [building.stats]; rfl)
    · rename_i accepted received
      exact building.submitted ⟨delivers, through, rfl⟩ received

/-- The allocation of a copy fragment succeeds, or gives back what it took, and counts
accordingly. -/
theorem copy_frag_alloc_cases {cfg : WorkerConfig} {before state : WorkerState stack}
    {rx packet : Nat} (building : Building cfg.driver before rx packet [] state) :
    (∃ failed, emzRxCopyFragAlloc cfg state = (failed, none) ∧
      Building cfg.driver before rx packet [] failed) ∨
    ∃ copied fragment, emzRxCopyFragAlloc cfg state = (copied, some fragment) ∧
      fragment.pool = .copy ∧ fragment ∈ (stack.view copied.net).loose ∧
      Building cfg.driver before rx packet [] copied := by
  unfold emzRxCopyFragAlloc
  split
  · rename_i net failed
    have view := stack.buf_alloc_fails state.net .copy (by rw [failed])
    rw [failed] at view
    exact .inl ⟨_, rfl, { building with
      invariant := building.invariant.same_view view
      opened := ⟨view ▸ building.opened.held, building.opened.different⟩ }⟩
  · rename_i net fragment got
    obtain ⟨invariant, packets, pool, loose, -, -⟩ :=
      building.invariant.fragment_allocated .copy fragment (by rw [got])
    rw [got] at invariant packets loose
    have opened : Opened stack net state.accepted packet [] :=
      ⟨packets ▸ building.opened.held, building.opened.different⟩
    split
    · refine .inl ⟨_, rfl, ?_⟩
      obtain ⟨dropped, view⟩ := stack.buf_unref net fragment loose
      obtain ⟨copyInUse, destroyed⟩ := destroy_others cfg.driver [fragment]
        { state with net := (stack.bufUnref net fragment).1 } (by simp [pool])
      obtain ⟨earlier, recorded⟩ := building.events
      rw [netBufUnref, dropped, destroyed]
      refine ⟨?_, building.working, ⟨?_, building.opened.different⟩, by simp, building.contexts,
        building.accepted, building.stats, earlier ++ [fragment], by simp [recorded]⟩
      · refine invariant.net_changed (fun _ _ => by rw [view]) ?_
        intro other zero_copy alive
        rw [view]
        rcases alive with still_loose | inside
        · have different : other ≠ fragment := by
            rintro rfl
            rw [pool] at zero_copy
            cases zero_copy
          exact .inl ((List.mem_erase_of_ne different).mpr still_loose)
        · exact .inr inside
      · rw [view]
        exact opened.held
    · exact .inr ⟨_, fragment, rfl, pool, loose,
        { building with invariant := invariant, opened := opened }⟩

/-- The copy fallback from its packet allocation on: each failing call gives back what was taken,
and the rest is the submission. -/
theorem copy_iterated {cfg : WorkerConfig} {state : WorkerState stack} {rx : Nat}
    {iteration : RxIteration} (invariant : state.Invariant cfg.driver)
    (working : state.driver.workerBuffer = some rx)
    (delivers : iteration.Delivers cfg state.driver true) :
    Iterated cfg iteration state rx (emzRxThreadCopy cfg iteration state rx) := by
  unfold emzRxThreadCopy
  split
  · rename_i net failed
    have view := stack.pkt_alloc_fails state.net (by rw [failed])
    rw [failed] at view
    exact early_exit invariant working .allocPktFail true delivers rfl view
  · rename_i net packet got
    have building := Building.started invariant working got
    have opened : Opened stack net state.accepted packet [] := building.opened
    dsimp only
    split
    · rename_i fallback
      rcases copy_frag_alloc_cases building with ⟨failed, none_left, still⟩ |
        ⟨copied, fragment, some_left, pool, loose, still⟩
      · rw [none_left]
        exact still.dropped false .allocFragFail true ⟨delivers, fun _ => fallback⟩ rfl rfl rfl
      · rw [some_left]
        obtain ⟨appended, whole⟩ := still.invariant.fragment_appended still.opened loose
        have appending : Building cfg.driver state rx packet [fragment]
            { copied with net := stack.pktAppend copied.net packet fragment } :=
          { still with invariant := appended, opened := whole, others := by simp [pool] }
        exact copy_submit_iterated appending delivers
    · rename_i none_there
      obtain ⟨written, data, view⟩ := stack.pkt_write net packet [] opened.held
      have others : ∀ fragment ∈ ([] : List RxFragment) ++ written,
          fragment.pool ≠ .zeroCopy := by
        intro fragment member
        rw [data fragment member]
        exact nofun
      have wrote : Building cfg.driver state rx packet ([] ++ written)
          { ({ state with net := net }.note (.allocated packet) : WorkerState stack) with
            net := (stack.pktWrite net packet).1 } := by
        refine { building with
          invariant := building.invariant.packet_set building.opened.different view ?_
          opened := ⟨by rw [view, set_same], building.opened.different⟩
          others := others }
        intro fragment _ had held member
        obtain rfl := Option.some.inj (opened.held.symm.trans held)
        cases member
      split
      · rename_i after failed
        rw [show (stack.pktWrite net packet).1 = after from congrArg Prod.fst failed] at wrote
        exact wrote.dropped true .copyWriteFail true
          ⟨delivers, rfl, Nat.eq_zero_of_not_pos none_there⟩ rfl rfl rfl
      · rename_i after finished
        rw [show (stack.pktWrite net packet).1 = after from congrArg Prod.fst finished] at wrote
        exact copy_submit_iterated wrote delivers

/-- The worker after an attachment: its buffer is in the one fragment of its packet. -/
structure Attached (cfg : Config) (before : WorkerState stack) (rx packet : Nat)
    (fragment : RxFragment) (state : WorkerState stack) : Prop where
  invariant : state.Invariant cfg
  idle : state.driver.workerBuffer = none
  opened : Opened stack state.net state.accepted packet [fragment]
  zero_copy : fragment.pool = .zeroCopy
  clear : before.fragCtx fragment = none
  contexts : state.fragCtx = Function.update before.fragCtx fragment (some rx)
  accepted : state.accepted = before.accepted
  alone : ∀ other ∈ state.accepted, (stack.view state.net).packets other ≠ some [fragment]
  stats : state.stats = before.stats
  events : state.events = before.events ++ [.allocated packet, .attached fragment rx]

/-- The context of the attached fragment is the worker's buffer. -/
theorem Attached.context {before state : WorkerState stack} {rx packet : Nat}
    {fragment : RxFragment} (attached : Attached cfg before rx packet fragment state) :
    state.fragCtx fragment = some rx := by
  rw [attached.contexts, Function.update_self]

/-- Where the packet of an attached buffer is dropped, whoever drops it: the fragment's destroy
callback releases the buffer and clears the fragment's context. -/
theorem Attached.released {before state : WorkerState stack} {rx packet : Nat}
    {fragment : RxFragment} (attached : Attached cfg before rx packet fragment state)
    {net : stack.Net} (view : stack.view net = (stack.view state.net).set packet none) :
    WorkerInvariant cfg stack (emzRxFragDestroy cfg state.driver rx) net
        (Function.update state.fragCtx fragment none) state.accepted ∧
      (emzRxFragDestroy cfg state.driver rx).workerBuffer = none ∧
      Function.update state.fragCtx fragment none = before.fragCtx := by
  refine ⟨attached.invariant.destroyed attached.context attached.opened.held view ?_,
    (destroy_leaves attached.invariant.sound rx).1.trans attached.idle, ?_⟩
  · exact fun other member => ⟨member, attached.opened.different other member,
      attached.alone other member⟩
  · rw [attached.contexts, Function.update_idem, ← attached.clear, Function.update_eq_self]

/-- When the worker drops its packet, the fragment's destroy callback releases the buffer, and
the iteration ends with one fate. -/
theorem Attached.dropped {cfg : WorkerConfig} {iteration : RxIteration}
    {before state : WorkerState stack} {rx packet : Nat} {fragment : RxFragment}
    (attached : Attached cfg.driver before rx packet fragment state) (disposal : RxDisposal)
    {stats : WorkerStats} (fits : disposal.Fits cfg iteration before.driver false)
    (holder : disposal.holder false = .fragment) (ended : disposal.packetEnd = .dropped)
    (counted : stats = before.stats.counting false disposal) :
    Iterated cfg iteration before rx
      ((netPktUnref cfg.driver state packet).dispose disposal stats) := by
  obtain ⟨net, unreferenced, view⟩ := pkt_unref_pair attached.opened.held
  obtain ⟨invariant, idle, cleared⟩ := attached.released view
  rw [netPktUnref, unreferenced,
    dropped_zero_copy cfg.driver state _ net attached.zero_copy attached.context]
  refine ⟨invariant, idle, [.allocated packet, .attached fragment rx, .unreferenced packet,
    .destroyed fragment, .released rx, .disposed disposal], disposal, false, ?_, rfl, rfl, fits,
    ?_, ?_, counted⟩
  · simp [WorkerState.dispose, attached.events]
  · rw [holder]
    exact .byFragment fragment [.allocated packet, .attached fragment rx, .unreferenced packet]
      [.disposed disposal] rfl rfl rfl (by simp) attached.clear cleared
  · rw [ended]
    exact .dropped packet rfl rfl rfl rfl attached.accepted

/-- A packet with the buffer in it that the stack has accepted. The stack keeps it with its
fragment, or has dropped it inside the call, and then the fragment has released the buffer. -/
theorem Attached.submitted {cfg : WorkerConfig} {iteration : RxIteration}
    {before state accepted : WorkerState stack} {rx packet : Nat} {fragment : RxFragment}
    (attached : Attached cfg.driver before rx packet fragment state)
    (fits : RxDisposal.zeroCopySubmit.Fits cfg iteration before.driver false)
    (received : netRecvData cfg.driver state packet = (accepted, true)) :
    Iterated cfg iteration before rx (accepted.dispose .zeroCopySubmit
      { state.stats with rxZeroCopySubmit := state.stats.rxZeroCopySubmit + 1#64 }) := by
  have counted : { state.stats with rxZeroCopySubmit := state.stats.rxZeroCopySubmit + 1#64 } =
      before.stats.counting false .zeroCopySubmit := by
    rw [attached.stats]
    rfl
  obtain ⟨net, ⟨refused, -⟩ | ⟨kept, view⟩ | ⟨used, view⟩⟩ :=
    recv_data_cases cfg.driver state attached.opened.held
  · cases refused.symm.trans received
  · obtain rfl := congrArg Prod.fst (kept.symm.trans received)
    have held : (stack.view net).packets packet = some [fragment] := view ▸ attached.opened.held
    have fresh : packet ∉ before.accepted := fun member =>
      attached.opened.different packet (attached.accepted ▸ member) rfl
    refine ⟨(attached.invariant.same_view view).packet_accepted held
        (.inl ⟨fragment, rx, attached.zero_copy, attached.context, rfl⟩)
        (fun _ _ one => List.singleton_inj.mp one ▸ view ▸ attached.alone), attached.idle,
      [.allocated packet, .attached fragment rx, .accepted packet, .disposed .zeroCopySubmit],
      .zeroCopySubmit, false, ?_, rfl, rfl, fits,
      .held fragment packet rfl rfl attached.clear attached.contexts rfl held,
      .kept packet rfl rfl rfl rfl fresh (congrArg (· ++ [packet]) attached.accepted), counted⟩
    simp [WorkerState.accept, WorkerState.dispose, attached.events]
  · obtain rfl := congrArg Prod.fst (used.symm.trans received)
    obtain ⟨invariant, idle, cleared⟩ := attached.released view
    rw [dropped_zero_copy cfg.driver (state.note (.accepted packet)) _ net attached.zero_copy
      attached.context]
    refine ⟨invariant, idle, [.allocated packet, .attached fragment rx, .accepted packet,
        .finished packet, .destroyed fragment, .released rx, .disposed .zeroCopySubmit],
      .zeroCopySubmit, false, ?_, rfl, rfl, fits,
      .byFragment fragment [.allocated packet, .attached fragment rx, .accepted packet,
        .finished packet] [.disposed .zeroCopySubmit] rfl rfl rfl (by simp) attached.clear cleared,
      .consumed packet rfl rfl rfl rfl attached.accepted, counted⟩
    simp [WorkerState.note, WorkerState.dispose, attached.events]

/-- A refused packet with the buffer in it is still the worker's, so the worker has to drop it;
the counters are as before. -/
theorem Attached.refused {before state refused : WorkerState stack} {rx packet : Nat}
    {fragment : RxFragment} (attached : Attached cfg before rx packet fragment state)
    (received : netRecvData cfg state packet = (refused, false)) :
    Attached cfg before rx packet fragment refused ∧ refused.stats = state.stats := by
  obtain ⟨net, ⟨refuses, view⟩ | ⟨kept, -⟩ | ⟨used, -⟩⟩ :=
    recv_data_cases cfg state attached.opened.held
  · obtain rfl := congrArg Prod.fst (refuses.symm.trans received)
    exact ⟨{ attached with
      invariant := attached.invariant.same_view view
      opened := ⟨view ▸ attached.opened.held, attached.opened.different⟩
      alone := view ▸ attached.alone }, rfl⟩
  · cases kept.symm.trans received
  · cases used.symm.trans received

/-- The end of the zero-copy path: drop test, then `net_recv_data`, accepted or refused; the
buffer goes with the fragment in each case. -/
theorem zero_copy_submit_iterated {cfg : WorkerConfig} {before state : WorkerState stack}
    {rx packet : Nat} {fragment : RxFragment} {iteration : RxIteration}
    (attached : Attached cfg.driver before rx packet fragment state)
    (delivers : iteration.Delivers cfg before.driver false) :
    Iterated cfg iteration before rx (emzRxThreadZeroCopySubmit cfg iteration state packet) := by
  unfold emzRxThreadZeroCopySubmit
  split
  · rename_i drops
    exact attached.dropped .profileDrop ⟨delivers, drops⟩ rfl rfl attached.stats
  · rename_i passes
    have through : iteration.dropsAfterPkt = false := Bool.not_eq_true _ ▸ passes
    split
    · rename_i refused received
      obtain ⟨again, same⟩ := attached.refused received
      exact again.dropped .netRecvFail ⟨delivers, through⟩ rfl rfl (by rw [attached.stats]; rfl)
    · rename_i accepted received
      exact attached.submitted ⟨delivers, through, rfl⟩ received

/-- A fresh zero-copy fragment takes the worker's buffer into its packet, and from then on the
buffer's fate is the fragment's. -/
theorem Building.attached {before state : WorkerState stack} {rx packet : Nat}
    {fragment : RxFragment} (building : Building cfg before rx packet [] state)
    (recorded : state.events = before.events ++ [.allocated packet])
    {after : stack.Net}
    (got : stack.bufAlloc state.net .zeroCopy = (after, some fragment)) :
    Attached cfg before rx packet fragment { state with
      driver := emzRxThreadAttach cfg state.driver rx
      fragCtx := Function.update state.fragCtx fragment (some rx)
      net := stack.pktAppend after packet fragment
      events := state.events ++ [.attached fragment rx] } := by
  obtain ⟨allocated, packets, pool, loose, unheld, clear⟩ :=
    building.invariant.fragment_allocated .zeroCopy fragment (by rw [got])
  rw [got] at allocated packets loose
  have opened : Opened stack after state.accepted packet [] :=
    ⟨packets ▸ building.opened.held, building.opened.different⟩
  obtain ⟨appended, whole⟩ := allocated.fragment_appended opened loose
  have live : (stack.view (stack.pktAppend after packet fragment)).Live fragment :=
    .inr ⟨packet, [fragment], whole.held, List.mem_singleton_self _⟩
  have view := stack.pkt_append after packet fragment [] opened.held loose
  refine ⟨appended.attached building.working pool live clear, rfl, whole, pool,
    building.contexts ▸ clear, congrArg (Function.update · fragment (some rx)) building.contexts,
    building.accepted, ?_, building.stats, by simp [recorded]⟩
  intro other member held
  have same : (stack.view (stack.pktAppend after packet fragment)).packets other =
      (stack.view after).packets other := by
    rw [view]
    exact set_other (opened.different other member)
  exact unheld other ((congrFun packets other).symm.trans (same.symm.trans held))

/-- The zero-copy path from its packet allocation on: a failing fragment allocation leads to a
release by the worker, and an attachment to the submission. -/
theorem zero_copy_iterated {cfg : WorkerConfig} {state : WorkerState stack} {rx : Nat}
    {iteration : RxIteration} (invariant : state.Invariant cfg.driver)
    (working : state.driver.workerBuffer = some rx)
    (delivers : iteration.Delivers cfg state.driver false) :
    Iterated cfg iteration state rx (emzRxThreadZeroCopy cfg iteration state rx) := by
  unfold emzRxThreadZeroCopy
  split
  · rename_i net failed
    have view := stack.pkt_alloc_fails state.net (by rw [failed])
    rw [failed] at view
    exact early_exit invariant working .allocPktFail false delivers rfl view
  · rename_i net packet got
    have building := Building.started invariant working got
    have opened : Opened stack net state.accepted packet [] := building.opened
    dsimp only
    split
    · rename_i after failed
      have same : stack.bufAlloc net .zeroCopy = (after, none) := failed
      have view := stack.buf_alloc_fails net .zeroCopy (by rw [same])
      rw [same] at view
      have again : Building cfg.driver state rx packet []
          { ({ state with net := net }.note (.allocated packet) : WorkerState stack) with
            net := after } :=
        { building with
          invariant := building.invariant.same_view view
          opened := ⟨view ▸ opened.held, opened.different⟩ }
      exact again.dropped false .allocFragFail false ⟨delivers, (nomatch ·)⟩ rfl rfl rfl
    · rename_i after fragment took
      exact zero_copy_submit_iterated (building.attached rfl took) delivers

/-- Every iteration, once the worker has a buffer. The checks come in the order of the
disposals that they allow, and the path behind them is the one the limit decides. -/
theorem frame_iterated {cfg : WorkerConfig} {state : WorkerState stack} {rx : Nat}
    (iteration : RxIteration) (invariant : state.Invariant cfg.driver)
    (working : state.driver.workerBuffer = some rx) :
    Iterated cfg iteration state rx (emzRxThreadFrame cfg iteration state rx) := by
  unfold emzRxThreadFrame
  split
  · rename_i not_up
    have down : iteration.ifaceUp = false := by simpa using not_up
    exact early_exit invariant working .interfaceDown false down rfl rfl
  · rename_i not_down
    have up : iteration.ifaceUp = true := by simpa using not_down
    split
    · rename_i invalid
      exact early_exit invariant working .invalid false ⟨up, invalid⟩ rfl rfl
    · rename_i valid
      split
      · rename_i intercepted
        exact early_exit invariant working .intercepted false ⟨up, valid, intercepted⟩ rfl rfl
      · rename_i not_intercepted
        have passed : iteration.rxInterceptor = false := Bool.not_eq_true _ ▸ not_intercepted
        split
        · rename_i limit
          exact copy_iterated invariant working ⟨up, valid, passed, limit.symm⟩
        · rename_i below
          exact zero_copy_iterated invariant working
            ⟨up, valid, passed, (Bool.not_eq_true _ ▸ below).symm⟩

/-- The worker has taken the first ready buffer, and nothing that the choice of its path depends
on has changed. -/
structure Taken (cfg : Config) (before : WorkerState stack) (rx : Nat)
    (took : WorkerState stack) : Prop where
  invariant : took.Invariant cfg
  working : took.driver.workerBuffer = some rx
  fragments : took.driver.stackFragments = before.driver.stackFragments
  limit : copyFallback cfg took.driver = copyFallback cfg before.driver
  contexts : took.fragCtx = before.fragCtx
  accepted : took.accepted = before.accepted
  events : took.events = before.events ++ [.taken rx]
  stats : took.stats = { before.stats with
    rxWorkerPackets := before.stats.rxWorkerPackets + 1#64 }

/-- An iteration begins with the worker taking the first ready buffer, and then follows one of
the two paths or an early exit; one lemma for each. -/
theorem thread_iterated {cfg : WorkerConfig} {state : WorkerState stack}
    (iteration : RxIteration) (invariant : state.Invariant cfg.driver)
    (idle : state.driver.workerBuffer = none) {rx : Nat} {rest : List Nat}
    (ready : state.driver.rxReadyFifo = rx :: rest) :
    ∃ took after, emzRxThread cfg iteration state = some after ∧ Taken cfg.driver state rx took ∧
      Iterated cfg iteration took rx after := by
  obtain ⟨driver, taken, working, fragments, limit⟩ : ∃ driver,
      emzRxThreadTake cfg.driver state.driver = some driver ∧ driver.workerBuffer = some rx ∧
        driver.stackFragments = state.driver.stackFragments ∧
        copyFallback cfg.driver driver = copyFallback cfg.driver state.driver := by
    rw [emzRxThreadTake, idle, ready]
    exact ⟨_, rfl, rfl, rfl, rfl⟩
  have kept : WorkerInvariant cfg.driver stack driver state.net state.fragCtx state.accepted :=
    invariant.driver_changed (take_law invariant.sound taken).sound fragments
  refine ⟨{ state with
      driver := driver
      stats := { state.stats with
        rxWorkerPackets := state.stats.rxWorkerPackets + 1#64 }
      events := state.events ++ [.taken rx] }, _, ?_,
    ⟨kept, working, fragments, limit, rfl, rfl, rfl, rfl⟩, frame_iterated iteration kept working⟩
  rw [emzRxThread, ready, taken]
  rfl

/-- What the network stack's drop of an accepted packet does: it destroys the packet's
one zero-copy fragment and releases the buffer in its context, once; or the packet has
fragments of other pools, and no buffer is released. -/
inductive DropFate (packet : Nat) (before after : WorkerState stack) : Prop
  | held (fragment : RxFragment) (rx : Nat) (context : before.fragCtx fragment = some rx)
      (whole : (stack.view before.net).packets packet = some [fragment])
      (cleared : after.fragCtx = Function.update before.fragCtx fragment none)
      (released : after.events = before.events ++
        [.finished packet, .destroyed fragment, .released rx])
  | copied (fragments : List RxFragment)
      (whole : (stack.view before.net).packets packet = some fragments)
      (others : ∀ fragment ∈ fragments, fragment.pool ≠ .zeroCopy)
      (contexts : after.fragCtx = before.fragCtx)
      (finished : after.events =
        before.events ++ .finished packet :: fragments.map .destroyed)

/-- Over the run so far, each take of a buffer has its one release or its buffer is in a
fragment of the stack, and each allocated packet has been dropped once, by the worker or by
the stack, or the stack still has it. -/
structure Ledger (state : WorkerState stack) : Prop where
  buffers : (takes state.events).Perm (releases state.events ++ state.driver.stackFragments)
  packets : (allocations state.events).Perm
    (unreferences state.events ++ (finishes state.events ++ state.accepted))
  distinct : state.accepted.Nodup

/-- Between the steps of the system: the invariant holds, the worker waits, and the
account of the events is even. -/
structure Waiting (cfg : Config) (state : WorkerState stack) : Prop where
  invariant : state.Invariant cfg
  idle : state.driver.workerBuffer = none
  ledger : Ledger state

/-- The stack's fragments after an iteration, by the fate of its buffer: released buffers and
fragments held are those of before and the new one. -/
theorem BufferFate.balanced {rx : Nat} {events : List WorkerEvent} {holder : BufferHolder}
    {before after : WorkerState stack} (fate : BufferFate rx events before after holder)
    (invariant : before.Invariant cfg) (working : before.driver.workerBuffer = some rx)
    (kept : after.Invariant cfg) :
    (releases events ++ after.driver.stackFragments).Perm
      (rx :: before.driver.stackFragments) := by
  have unchanged (contexts : after.fragCtx = before.fragCtx) :
      after.driver.stackFragments.Perm before.driver.stackFragments := by
    refine (List.perm_ext_iff_of_nodup kept.fragments_nodup invariant.fragments_nodup).mpr ?_
    intro other
    rw [kept.holds, invariant.holds, contexts]
  cases fate with
  | byWorker once _ contexts =>
    rw [once]
    exact (unchanged contexts).cons rx
  | byFragment _ _ _ once _ _ _ _ contexts =>
    rw [once]
    exact (unchanged contexts).cons rx
  | held fragment _ none_yet _ clear contexts _ _ =>
    have fresh : rx ∉ before.driver.stackFragments := by
      intro member
      obtain ⟨holder, context⟩ := (invariant.holds rx).mp member
      exact invariant.fresh_buffer working holder context
    rw [none_yet, List.nil_append]
    refine (List.perm_ext_iff_of_nodup kept.fragments_nodup
      (List.nodup_cons.mpr ⟨fresh, invariant.fragments_nodup⟩)).mpr ?_
    intro other
    rw [kept.holds, contexts, named_update clear, List.mem_cons, invariant.holds, or_comm]

/-- The accepted packets after an iteration, by the fate of its packet: given back, finished and
accepted ones are those of before and the allocated one. -/
theorem PacketFate.balanced {events : List WorkerEvent} {ended : PacketEnd}
    {before after : WorkerState stack} (fate : PacketFate events before after ended)
    (distinct : before.accepted.Nodup) :
    (unreferences events ++ (finishes events ++ after.accepted)).Perm
        (allocations events ++ before.accepted) ∧ after.accepted.Nodup := by
  cases fate with
  | absent allocated _ dropped finished same =>
    rw [allocated, dropped, finished, same]
    exact ⟨.rfl, distinct⟩
  | kept packet allocated _ dropped finished fresh joined =>
    rw [allocated, dropped, finished, joined]
    have joins := List.perm_append_singleton packet before.accepted
    exact ⟨joins, joins.nodup_iff.mpr (List.nodup_cons.mpr ⟨fresh, distinct⟩)⟩
  | consumed packet allocated _ dropped finished same =>
    rw [allocated, dropped, finished, same]
    exact ⟨.rfl, distinct⟩
  | dropped packet allocated _ dropped finished same =>
    rw [allocated, dropped, finished, same]
    exact ⟨.rfl, distinct⟩

/-- An iteration adds its take and the fates of its buffer and packet to the account. -/
theorem Iterated.waiting {cfg : WorkerConfig} {iteration : RxIteration}
    {state took after : WorkerState stack} {rx : Nat}
    (iterated : Iterated cfg iteration took rx after) (taken : Taken cfg.driver state rx took)
    (ledger : Ledger state) : Waiting cfg.driver after := by
  obtain ⟨events, disposal, copied, recorded, none_taken, disposed⟩ := iterated.outcome
  have buffers := disposed.buffer.balanced taken.invariant taken.working iterated.invariant
  obtain ⟨packets, distinct⟩ := disposed.packet.balanced (taken.accepted ▸ ledger.distinct)
  rw [taken.fragments] at buffers
  rw [taken.accepted] at packets
  have whole : after.events = state.events ++ .taken rx :: events := by
    rw [recorded, taken.events, List.append_assoc, List.singleton_append]
  refine ⟨iterated.invariant, iterated.idle, ?_, ?_, distinct⟩
  · have before := ledger.buffers
    rw [whole]
    simp only [takes, releases] at none_taken buffers before ⊢
    simp only [List.filterMap_append, List.filterMap_cons, none_taken]
    rw [List.perm_iff_count] at buffers before ⊢
    intro other
    have now := buffers other
    have earlier := before other
    simp only [List.count_append, List.count_cons, List.count_nil] at now earlier ⊢
    omega
  · have before := ledger.packets
    rw [whole]
    simp only [allocations, unreferences, finishes] at packets before ⊢
    simp only [List.filterMap_append, List.filterMap_cons]
    rw [List.perm_iff_count] at packets before ⊢
    intro other
    have now := packets other
    have earlier := before other
    simp only [List.count_append] at now earlier ⊢
    omega

/-- An operation of another context leaves the worker and the stack's fragments, so the worker
still waits. -/
theorem operate_waiting {state after : WorkerState stack} {operation : RxOperation}
    (waiting : Waiting cfg state)
    (moved : ∀ driver, rxStep cfg state.driver operation = some driver →
      Moves cfg state.driver driver)
    (operated : state.operate cfg operation = some after) : Waiting cfg after := by
  obtain ⟨driver, stepped, rfl⟩ := Option.map_eq_some_iff.mp operated
  have untouched := (moved driver stepped).untouched
  have sound := (step_law waiting.invariant.sound stepped).sound
  have buffers := waiting.ledger.buffers
  rw [← untouched.fragments] at buffers
  exact ⟨waiting.invariant.driver_changed sound untouched.fragments,
    untouched.worker.trans waiting.idle, { waiting.ledger with buffers := buffers }⟩

/-- The account without an accepted packet that the stack drops: the packet counts as finished
instead. -/
theorem Ledger.dropped_packet {state : WorkerState stack} (ledger : Ledger state) {packet : Nat}
    (member : packet ∈ state.accepted) :
    (unreferences state.events ++ (finishes state.events ++
        packet :: state.accepted.filter (· ≠ packet))).Perm (allocations state.events) ∧
      (state.accepted.filter (· ≠ packet)).Nodup := by
  have left := ledger.distinct.filter (· ≠ packet)
  refine ⟨.trans (List.Perm.append_left _ (List.Perm.append_left _ ?_)) ledger.packets.symm, left⟩
  have absent : packet ∉ state.accepted.filter (· ≠ packet) := by simp
  refine (List.perm_ext_iff_of_nodup (List.nodup_cons.mpr ⟨absent, left⟩) ledger.distinct).mpr ?_
  intro other
  by_cases same : other = packet
  · simp [same, member]
  · simp [same]

/-- The stack drops a packet that it had accepted: its zero-copy buffer is released by the
destroy callback, and the worker still waits. -/
theorem drop_waiting {state : WorkerState stack} {packet : Nat} (waiting : Waiting cfg state)
    (member : packet ∈ state.accepted) :
    Waiting cfg (packetDropped cfg { state with accepted := state.accepted.filter (· ≠ packet) }
      (.finished packet) (stack.pktUnref state.net packet)) ∧
    DropFate packet state (packetDropped cfg
      { state with accepted := state.accepted.filter (· ≠ packet) } (.finished packet)
      (stack.pktUnref state.net packet)) := by
  have invariant := waiting.invariant
  obtain ⟨packets, distinct⟩ := waiting.ledger.dropped_packet member
  have left : ∀ other ∈ state.accepted.filter (· ≠ packet),
      other ∈ state.accepted ∧ other ≠ packet := by
    intro other still
    obtain ⟨earlier, different⟩ := List.mem_filter.mp still
    exact ⟨earlier, of_decide_eq_true different⟩
  obtain ⟨fragments, held, ⟨fragment, rx, zero_copy, context, rfl⟩ | others⟩ :=
    invariant.known packet member
  · obtain ⟨net, unreferenced, view⟩ := pkt_unref_pair held
    have spared := List.perm_cons_erase ((invariant.holds rx).mpr ⟨fragment, context⟩)
    rw [unreferenced, dropped_zero_copy cfg
      { state with accepted := state.accepted.filter (· ≠ packet) } _ net zero_copy context]
    refine ⟨⟨invariant.destroyed context held view ?_,
      (destroy_leaves invariant.sound rx).1.trans waiting.idle, ?_, ?_, distinct⟩,
      .held fragment rx context held rfl rfl⟩
    · intro other still
      obtain ⟨earlier, different⟩ := left other still
      exact ⟨earlier, different, fun same => different
        (invariant.apart fragment zero_copy other earlier packet member same held)⟩
    · have buffers := waiting.ledger.buffers.trans (List.Perm.append_left _ spared)
      rw [(destroy_leaves invariant.sound rx).2]
      simpa [takes, releases] using buffers
    · simpa [allocations, unreferences, finishes] using packets.symm
  · obtain ⟨net, unreferenced, view⟩ := pkt_unref_pair held
    obtain ⟨copyInUse, dropped⟩ := dropped_others cfg
      { state with accepted := state.accepted.filter (· ≠ packet) } (.finished packet) net others
    rw [unreferenced, dropped]
    refine ⟨⟨?_, waiting.idle, ?_, ?_, distinct⟩, .copied fragments held others rfl rfl⟩
    · have narrowed : WorkerInvariant cfg stack state.driver state.net state.fragCtx
          (state.accepted.filter (· ≠ packet)) := { invariant with
        known := fun other still => invariant.known other (left other still).1
        apart := fun fragment zero_copy first one second two =>
          invariant.apart fragment zero_copy first (left first one).1 second (left second two).1 }
      exact narrowed.packet_dropped ⟨held, fun other still => (left other still).2⟩ others view
    · simpa [takes, releases, List.filterMap_map] using waiting.ledger.buffers
    · simpa [allocations, unreferences, finishes, List.filterMap_map] using packets.symm

/-- Every step of the system leaves the worker waiting with its accounts: an iteration, an
operation of another context, or a drop by the stack. -/
theorem step_waiting {cfg : WorkerConfig} {state after : WorkerState stack} {step : WorkerStep}
    (waiting : Waiting cfg.driver state) (taken : workerStep cfg state step = some after) :
    Waiting cfg.driver after := by
  have sound := waiting.invariant.sound
  cases step with
  | iterate iteration =>
    cases ready : state.driver.rxReadyFifo with
    | nil => simp [workerStep, emzRxThread, ready] at taken
    | cons rx rest =>
      obtain ⟨took, ended, iterated, taking, kept⟩ :=
        thread_iterated iteration waiting.invariant waiting.idle ready
      obtain rfl := Option.some.inj (iterated.symm.trans taken)
      exact kept.waiting taking waiting.ledger
  | drop packet =>
    rw [workerStep] at taken
    split at taken
    · rename_i member
      exact Option.some.inj taken ▸ (drop_waiting waiting member).1
    · cases taken
  | write index status =>
    refine operate_waiting waiting ?_ taken
    intro driver stepped
    exact Option.some.inj stepped ▸ write_moves sound.ring index status
  | post =>
    refine operate_waiting waiting ?_ taken
    intro driver stepped
    exact Option.some.inj stepped ▸ refill_moves sound.ring
  | poll turns =>
    have moved (driver : WatchedRx)
        (stepped : rxStep cfg.driver state.driver (.poll turns) = some driver) :
        Moves cfg.driver state.driver driver := poll_moves sound.ring stepped
    exact operate_waiting waiting moved taken
  | recover =>
    refine operate_waiting waiting ?_ taken
    intro driver stepped
    exact Option.some.inj stepped ▸ recover_moves sound.ring

/-- When the driver has started, the worker waits and the stack has nothing of the worker's. -/
theorem started_waiting {started : WatchedRx} {net : stack.Net}
    (initialised : emzInit cfg = some started) :
    Waiting cfg (WorkerState.started stack started net) := by
  have untouched := init_untouched initialised
  have none_held : started.stackFragments = [] := untouched.fragments
  refine ⟨⟨init_sound initialised, ?_, ?_, ?_, ?_, ?_⟩, untouched.worker,
    .of_eq none_held.symm, .rfl, .nil⟩
  · intro rx
    simp [WorkerState.started, none_held]
  all_goals simp [WorkerState.started]

/-- Every state of a run is one in which the worker waits with its accounts in order, by
induction with the step lemma. -/
theorem run_waiting {cfg : WorkerConfig} {started : WatchedRx} {net : stack.Net}
    {state : WorkerState stack} (initialised : emzInit cfg.driver = some started)
    (run : Run (workerStep cfg) Unrestricted (WorkerState.started stack started net) state) :
    Waiting cfg.driver state :=
  run.invariant (Waiting cfg.driver) (started_waiting initialised)
    (fun _ _ _ waiting _ taken => step_waiting waiting taken)

/-- An iteration of the worker on a buffer: one disposal that the inputs allow, with the fates
of buffer and packet that belong to it and its counter, and the worker's count as it was. -/
structure DisposedOnce (cfg : WorkerConfig) (iteration : RxIteration)
    (before : WorkerState stack) (rx : Nat) (after : WorkerState stack) : Prop where
  outcome : ∃ events disposal copied, after.events = before.events ++ .taken rx :: events ∧
    Disposed cfg iteration rx events { before with stats := { before.stats with
      rxWorkerPackets := before.stats.rxWorkerPackets + 1#64 } } after disposal copied
  worker_count : after.driver.counts.rxWorkerCount = before.driver.counts.rxWorkerCount

/-- A buffer in a fragment: the fragment lives, no other has the buffer, and it is
neither free nor posted nor ready. -/
structure HeldOnce (cfg : Config) (state : WorkerState stack) (fragment : RxFragment) (rx : Nat) :
    Prop where
  zero_copy : fragment.pool = .zeroCopy
  live : (stack.view state.net).Live fragment
  unreleased : rx ∉ pooled cfg state.driver
  unique : ∀ other, state.fragCtx other = some rx → other = fragment

/-- A buffer in a fragment's context is held by the stack once, through a live zero-copy
fragment. -/
theorem Waiting.held_once {state : WorkerState stack} (waiting : Waiting cfg state)
    {fragment : RxFragment} {rx : Nat} (context : state.fragCtx fragment = some rx) :
    HeldOnce cfg state fragment rx where
  zero_copy := (waiting.invariant.live fragment rx context).1
  live := (waiting.invariant.live fragment rx context).2
  unreleased := by
    intro member
    have held := (waiting.invariant.holds rx).mpr ⟨fragment, context⟩
    have distinct := waiting.invariant.sound.placed_nodup
    rw [placed] at distinct
    exact (List.nodup_append.mp distinct).2.2 rx (List.mem_append_left _ member) rx held rfl
  unique other same := waiting.invariant.unique other fragment rx same context

/-- The worker waits with no buffer in hand, so its count is zero. -/
theorem Waiting.worker_count {state : WorkerState stack} (waiting : Waiting cfg state) :
    state.driver.counts.rxWorkerCount = 0 := by
  rw [waiting.invariant.sound.worker_count, waiting.idle]
  rfl

/-- What an iteration may end in depends on the driver through the limit only. -/
theorem RxDisposal.Fits.of_limit {cfg : WorkerConfig} {iteration : RxIteration}
    {took before : WatchedRx} {copied : Bool} {disposal : RxDisposal}
    (fits : disposal.Fits cfg iteration took copied)
    (limit : copyFallback cfg.driver took = copyFallback cfg.driver before) :
    disposal.Fits cfg iteration before copied := by
  have same (delivers : iteration.Delivers cfg took copied) :
      iteration.Delivers cfg before copied :=
    { delivers with path := delivers.path.trans limit }
  cases disposal with
  | interfaceDown | invalid | intercepted => exact fits
  | allocPktFail => exact same fits
  | allocFragFail | copyWriteFail | profileDrop | netRecvFail | copySubmit | zeroCopySubmit =>
    exact ⟨same fits.1, fits.2⟩

/-- An iteration with a buffer ready ends, and disposes of the frame in exactly one of the ways,
each with its counter. -/
theorem Waiting.disposed_once {cfg : WorkerConfig} {state : WorkerState stack}
    (waiting : Waiting cfg.driver state) (iteration : RxIteration) {rx : Nat} {rest : List Nat}
    (ready : state.driver.rxReadyFifo = rx :: rest) :
    ∃ after, emzRxThread cfg iteration state = some after ∧
      DisposedOnce cfg iteration state rx after := by
  obtain ⟨took, after, iterated, taken, kept⟩ :=
    thread_iterated iteration waiting.invariant waiting.idle ready
  obtain ⟨events, disposal, copied, recorded, -, disposed⟩ := kept.outcome
  have later := kept.waiting taken waiting.ledger
  refine ⟨after, iterated, ⟨events, disposal, copied, ?_, disposed.once,
    disposed.fits.of_limit taken.limit, disposed.buffer.of_before taken.contexts,
    disposed.packet.of_before taken.accepted, ?_⟩,
    later.worker_count.trans waiting.worker_count.symm⟩
  · rw [recorded, taken.events, List.append_assoc, List.singleton_append]
  · rw [disposed.counted, taken.stats]

/-- In every state of every run the worker waits for a buffer, or whatever the frame, the
interface, the profiling mode and the network stack answer, its iteration disposes of the buffer
and of the packet once, in a way that its inputs allow. A buffer handed over stays with one live
fragment until the stack drops its packet, inside the call or later, which releases it; over the
run every take has one release or one such fragment; and every buffer of the pool is in one
place.

Proof: between its iterations the worker waits with an invariant on buffers, fragments and
packets and an even ledger. Each exit of an iteration is followed to the next wait and shown to
be one of the disposals. -/
theorem rx_buffer_disposed_once (cfg : WorkerConfig) {started : WatchedRx} {net : stack.Net}
    {state : WorkerState stack} (initialised : emzInit cfg.driver = some started)
    (run : Run (workerStep cfg) Unrestricted (WorkerState.started stack started net) state) :
    (∀ iteration, (state.driver.rxReadyFifo = [] ∧ emzRxThread cfg iteration state = none) ∨
      ∃ rx rest after, state.driver.rxReadyFifo = rx :: rest ∧
        emzRxThread cfg iteration state = some after ∧
          DisposedOnce cfg iteration state rx after) ∧
    (∀ fragment rx, state.fragCtx fragment = some rx → HeldOnce cfg.driver state fragment rx) ∧
    (∀ packet ∈ state.accepted, ∃ after, workerStep cfg state (.drop packet) = some after ∧
      DropFate packet state after) ∧
    Ledger state ∧ Sound cfg.driver state.driver := by
  have waiting := run_waiting initialised run
  refine ⟨?_, fun fragment rx context => waiting.held_once context, ?_, waiting.ledger,
    waiting.invariant.sound⟩
  · intro iteration
    cases ready : state.driver.rxReadyFifo with
    | nil => exact .inl ⟨rfl, by simp [emzRxThread, ready]⟩
    | cons rx rest =>
      obtain ⟨after, iterated, disposed⟩ := waiting.disposed_once iteration ready
      exact .inr ⟨rx, rest, after, rfl, iterated, disposed⟩
  · intro packet member
    exact ⟨_, if_pos member, (drop_waiting waiting member).2⟩

/-- A stack of one packet accepts the first of two frames and keeps its buffer; the
second is ready. -/
theorem rx_buffer_held_and_ready :
    ∃ (started : WatchedRx) (state : WorkerState (onePacketStack FragPool .data true false)),
      emzInit (eightBufferConfig 8) = some started ∧
      Run (workerStep ⟨eightBufferConfig 8, 2⟩) Unrestricted
        (WorkerState.started (onePacketStack FragPool .data true false) started ⟨none, []⟩) state ∧
      HeldOnce (eightBufferConfig 8) state ⟨.zeroCopy, 0⟩ 0 ∧
      (∃ after, workerStep ⟨eightBufferConfig 8, 2⟩ state (.drop 0) = some after ∧
        DropFate 0 state after) ∧
      (∀ iteration, ∃ after, emzRxThread ⟨eightBufferConfig 8, 2⟩ iteration state = some after ∧
        DisposedOnce ⟨eightBufferConfig 8, 2⟩ iteration state 1 after) ∧
      Ledger state := by
  obtain ⟨started, initialised⟩ : ∃ started, emzInit (eightBufferConfig 8) = some started :=
    Option.isSome_iff_exists.mp (by decide)
  have executed : ((emzInit (eightBufferConfig 8)).any fun started =>
      (execute (workerStep ⟨eightBufferConfig 8, 2⟩) (fun _ _ => true)
        (WorkerState.started (onePacketStack FragPool .data true false) started ⟨none, []⟩)
        [.poll [⟨[(0, 0x80000040#32)], false, false⟩, ⟨[(1, 0x80000040#32)], false, false⟩,
          ⟨[], false, false⟩], .iterate ⟨true, 0, 64, false, none, false⟩]).any fun reached =>
            decide (reached.driver.rxReadyFifo = [1] ∧ reached.accepted = [0] ∧
              reached.fragCtx ⟨.zeroCopy, 0⟩ = some 0)) = true := by
    decide
  rw [initialised, Option.any_some] at executed
  obtain ⟨state, run, tested⟩ := run_of_execution _ _ _ _ _ (fun _ _ _ => trivial) executed
  obtain ⟨ready, accepted, context⟩ := of_decide_eq_true tested
  obtain ⟨iterated, held, dropped, ledger, -⟩ :=
    rx_buffer_disposed_once ⟨eightBufferConfig 8, 2⟩ initialised run
  refine ⟨started, state, initialised, run, held _ _ context,
    dropped 0 (by simp [accepted]), fun iteration => ?_, ledger⟩
  rcases iterated iteration with ⟨empty, -⟩ | ⟨rx, rest, after, first, returned, disposed⟩
  · rw [ready] at empty
    cases empty
  · obtain ⟨rfl, -⟩ := List.cons.inj (first.symm.trans ready)
    exact ⟨after, returned, disposed⟩

end EmaczZephyr.Driver.Whole
