import EmaczZephyr.Driver.Recovery

/-!
# The order of frames on the ready FIFO

The ring retires its slots in order, and without a recovery the n-th retirement is
of slot n modulo the ring's size. The hand-off to `rx_ready_fifo` comes later and
outside the lock, and the interrupt can poll in between: a frame it retires then
overtakes the one the preempted work item still has in hand. When no interrupt
retires a frame for the FIFO while the work item holds one, the order on the FIFO
is the order of retirement.
-/

namespace EmaczZephyr.Driver

open Contexts Runs

/-- The retirement number of the frame for `rx_ready_fifo` that a routine has in
hand. -/
def RxFrame.carries (cfg : Config) (hooks : Hooks) : RxFrame → Option Nat
  | .poll _ (.countDma _ number status) | .poll _ (.deliver _ number status) =>
      if goesToReady cfg hooks number status then some number else none
  | .poll _ (.countReady _ number) | .poll _ (.putReady _ number) => some number
  | _ => none

/-- Whether a routine has such a frame in hand, as a weight to count with. -/
def RxFrame.carrying (cfg : Config) (hooks : Hooks) (frame : RxFrame) : Nat :=
  (frame.carries cfg hooks).isSome.toNat

/-- The step in which the interrupt's poll retires a slot whose frame is for the
FIFO. -/
def interruptRetires (cfg : Config) (hooks : Hooks) (system : RxSystem) : RxLabel → Bool
  | .run context _ =>
      match context == isrContext, system.callStacks[context]? with
      | true, some (.poll _ .consume :: _) =>
          match (emzRxDirectConsume cfg system.shared.ring).2 with
          | .retired _ status => goesToReady cfg hooks system.shared.retiredCount status
          | _ => false
      | _, _ => false
  | _ => false

/-- Interrupts run to their end before anything else does, and no recovery starts. -/
def WithoutRecovery (system : RxSystem) (label : RxLabel) : Prop :=
  interruptFirst system label = true ∧ label ≠ .recoverWork

/-- Moreover the interrupt's poll retires no frame for the FIFO while a preempted
poll has one in hand. -/
def NeverOvertakes (cfg : Config) (hooks : Hooks) (system : RxSystem) (label : RxLabel) : Prop :=
  WithoutRecovery system label ∧
    (interruptRetires cfg hooks system label = true →
      ∀ frame, Present system.callStacks frame → frame.carries cfg hooks = none)

/-- What a frame step outside a recovery does to the order. -/
inductive OrderStep (cfg : Config) (hooks : Hooks) (before : RxShared) (frame : RxFrame)
    (after : RxShared) (frames : List RxFrame) : Prop
  | kept (order : after.readyOrder = before.readyOrder)
      (count : after.retiredCount = before.retiredCount)
      (consume : after.ring.rxBdConsumeIndex = before.ring.rxBdConsumeIndex)
      (fewer : (frames.map (RxFrame.carrying cfg hooks)).sum ≤ frame.carrying cfg hooks)
      (same : ∀ next ∈ frames, ∀ number, next.carries cfg hooks = some number →
        frame.carries cfg hooks = some number)
  | retired (completed rx : Nat) (status : BitVec 32) (polls : frame = .poll completed .consume)
      (taken : (emzRxDirectConsume cfg before.ring).2 = .retired rx status)
      (order : after.readyOrder = before.readyOrder)
      (count : after.retiredCount = before.retiredCount + 1)
      (consume : after.ring.rxBdConsumeIndex =
        (before.ring.rxBdConsumeIndex + 1) % cfg.rxBufferCount)
      (next : frames = [.poll completed (.countDma rx before.retiredCount status)])
  | put (number : Nat) (inHand : frame.carries cfg hooks = some number)
      (order : after.readyOrder = before.readyOrder ++ [number])
      (count : after.retiredCount = before.retiredCount)
      (consume : after.ring.rxBdConsumeIndex = before.ring.rxBdConsumeIndex)
      (gone : ∀ next ∈ frames, next.carries cfg hooks = none)

section Step

variable {cfg : Config} {hooks : Hooks} {outcome : WorkerOutcome} {before after : RxShared}
  {frames : List RxFrame}

/-- A step whose frames carry nothing and that leaves order, count and consume index
alone. -/
theorem OrderStep.idle {frame : RxFrame} (order : after.readyOrder = before.readyOrder)
    (count : after.retiredCount = before.retiredCount)
    (consume : after.ring.rxBdConsumeIndex = before.ring.rxBdConsumeIndex)
    (none : ∀ next ∈ frames, next.carries cfg hooks = none) :
    OrderStep cfg hooks before frame after frames := by
  refine .kept order count consume ?_ ?_
  · have zero : (frames.map (RxFrame.carrying cfg hooks)).sum = 0 := by
      refine List.sum_eq_zero ?_
      intro weight member
      obtain ⟨next, inside, rfl⟩ := List.mem_map.mp member
      simp [RxFrame.carrying, none next inside]
    omega
  · intro next inside number carries
    simp [none next inside] at carries

/-- Outside a recovery every frame step does one of the three. The poll has them all; no other
routine retires a slot, puts a frame on the FIFO or has one in hand. -/
theorem frame_step_order {frame : RxFrame} (outside : frame.pass = 0)
    (stepped : frameStep cfg hooks outcome before frame = some (after, frames)) :
    OrderStep cfg hooks before frame after frames := by
  have requested (frame next : RxFrame) (none : next.carries cfg hooks = none) :
      OrderStep cfg hooks before frame (emzRxDirectRequestRecover before) [next] := by
    obtain ⟨_, _, same⟩ := request_same before
    rw [same]
    exact .idle rfl rfl rfl (by simp [none])
  cases frame_step_effect stepped with
  | pollRetired completed ring rx status taken retired =>
    exact .retired completed rx status rfl (by rw [taken]) rfl rfl retired.consume rfl
  | pollRequest completed => exact requested _ _ rfl
  | pollCountDma completed rx number status =>
    refine .kept rfl rfl rfl ?_ ?_
    · simp [RxFrame.carrying, RxFrame.carries]
    · simp [RxFrame.carries]
  | pollReady completed rx number status ready =>
    refine .kept rfl rfl rfl ?_ ?_
    · simp [RxFrame.carrying, RxFrame.carries, ready]
    · simp [RxFrame.carries, ready]
  | pollCountReady completed rx number =>
    refine .kept rfl rfl rfl ?_ ?_
    · simp [RxFrame.carrying, RxFrame.carries]
    · simp [RxFrame.carries]
  | pollPutReady completed rx number =>
    exact .put number rfl rfl rfl rfl (by simp [RxFrame.carries])
  | refillPost caller queued rx ring posted =>
    exact .idle rfl rfl posted.consume (by simp [RxFrame.carries])
  | refillTail caller queued some_queued =>
    cases caller <;> exact .idle rfl rfl rfl (by simp [RxFrame.carries])
  | arm caller point =>
    cases point <;> cases caller <;>
      exact .idle rfl rfl rfl (by simp [emzRxDirectArm, RxFrame.carries])
  | recover point => cases outside
  | start point =>
    cases point <;> exact .idle rfl rfl rfl (by simp [emzRxDirectStart, RxFrame.carries])
  | isr point =>
    cases point with
    | request dmasr =>
      unfold emzRxDirectIsr
      dsimp only
      split
      · exact requested _ _ rfl
      · exact .idle rfl rfl rfl (by simp [RxFrame.carries])
    | _ => exact .idle rfl rfl rfl (by simp [emzRxDirectIsr, RxFrame.carries])
  | _ => exact .idle rfl rfl rfl (by simp [RxFrame.carries, refillEntry])

end Step

/-- Each stack has at most one serving routine, and only the interrupt and the work
queue have one. -/
def Served (callStacks : List (List RxFrame)) : Prop :=
  ∀ (context : Nat) (stack : List RxFrame), callStacks[context]? = some stack →
    (stack.map RxFrame.serving).sum ≤ if context ≤ workqContext then 1 else 0

/-- What every state reached without a recovery and without overtaking satisfies. -/
structure OrderInvariant (cfg : Config) (hooks : Hooks) (system : RxSystem) : Prop where
  sorted : system.shared.readyOrder.Pairwise (· < ·)
  below_next : ∀ number ∈ system.shared.readyOrder, number < system.shared.retiredCount
  ahead : ∀ frame, Present system.callStacks frame → ∀ number,
    frame.carries cfg hooks = some number →
      number < system.shared.retiredCount ∧ ∀ earlier ∈ system.shared.readyOrder, earlier < number
  one : total (RxFrame.carrying cfg hooks) system.callStacks ≤ 1
  served : Served system.callStacks
  no_pass : total RxFrame.pass system.callStacks = 0
  slots : system.shared.ring.rxBdConsumeIndex = system.shared.retiredCount % cfg.rxBufferCount

/-- A routine with a frame for the FIFO is a poll, so it is a serving one. -/
theorem carries_serving {cfg : Config} {hooks : Hooks} {frame : RxFrame} {number : Nat}
    (carries : frame.carries cfg hooks = some number) : frame.serving = 1 := by
  cases frame with
  | poll completed point => rfl
  | _ => cases carries

/-- Replacing the top of a stack by frames that serve no more keeps the bound. -/
theorem advance_served {callStacks : List (List RxFrame)} {context : Nat} {frame : RxFrame}
    {below frames : List RxFrame} (served : Served callStacks)
    (found : callStacks[context]? = some (frame :: below))
    (fewer : (frames.map RxFrame.serving).sum ≤ frame.serving) :
    Served (callStacks.set context (frames ++ below)) := by
  intro other stack inside
  by_cases same : context = other
  · subst same
    rw [List.getElem?_set_self (List.getElem?_eq_some_iff.mp found).1] at inside
    obtain rfl := Option.some.inj inside
    have bound := served context _ found
    simp only [List.map_cons, List.sum_cons, List.map_append, List.sum_append] at bound ⊢
    omega
  · rw [List.getElem?_set_ne same] at inside
    exact served other stack inside

/-- While the interrupt is idle and another context polls, no frame is in hand. -/
theorem poll_alone {cfg : Config} {hooks : Hooks} {callStacks : List (List RxFrame)}
    {context completed : Nat} {below : List RxFrame} (served : Served callStacks)
    (idle : callStacks[isrContext]? = some []) (other : context ≠ isrContext)
    (found : callStacks[context]? = some (.poll completed .consume :: below)) :
    ∀ frame, Present callStacks frame → frame.carries cfg hooks = none := by
  rintro frame ⟨stack, member, inside⟩
  by_contra carrying
  obtain ⟨number, carries⟩ := Option.ne_none_iff_exists'.mp carrying
  have serving := carries_serving carries
  obtain ⟨place, at_place⟩ := List.mem_iff_getElem?.mp member
  have here : 1 ≤ (stack.map RxFrame.serving).sum :=
    serving ▸ List.single_le_sum (by simp) _ (List.mem_map_of_mem inside)
  have place_bound := served place stack at_place
  have context_bound := served context _ found
  simp only [List.map_cons, List.sum_cons, RxFrame.serving] at context_bound
  have near : place ≤ workqContext ∧ context ≤ workqContext := by
    constructor <;> by_contra far
    · rw [if_neg far] at place_bound; omega
    · rw [if_neg far] at context_bound; omega
  simp only [workqContext, isrContext] at near idle other
  have not_interrupt : place ≠ 0 := by
    rintro rfl
    obtain rfl := Option.some.inj (at_place.symm.trans idle)
    cases inside
  -- Both are the work queue's stack, which has room for one poll.
  have same : place = context := by omega
  subst same
  obtain rfl := Option.some.inj (at_place.symm.trans found)
  rcases List.mem_cons.mp inside with rfl | deeper
  · simp [RxFrame.carries] at carries
  · have second : 1 ≤ (below.map RxFrame.serving).sum :=
      serving ▸ List.single_le_sum (by simp) _ (List.mem_map_of_mem deeper)
    split at context_bound <;> omega

/-- Before a poll retires a slot for the FIFO in an admitted step, no frame is in
hand. -/
theorem retire_alone {cfg : Config} {hooks : Hooks} {before : RxSystem} {outcome : WorkerOutcome}
    {context completed rx : Nat} {status : BitVec 32} {below : List RxFrame}
    (served : Served before.callStacks)
    (admits : NeverOvertakes cfg hooks before (.run context outcome))
    (found : before.callStacks[context]? = some (.poll completed .consume :: below))
    (taken : (emzRxDirectConsume cfg before.shared.ring).2 = .retired rx status)
    (ready : goesToReady cfg hooks before.shared.retiredCount status = true) :
    ∀ frame, Present before.callStacks frame → frame.carries cfg hooks = none := by
  by_cases interrupt : context = isrContext
  · refine admits.2 ?_
    subst interrupt
    simp [interruptRetires, found, taken, ready]
  · have idle : before.callStacks[isrContext]? = some [] := by
      rcases Bool.or_eq_true_iff.mp admits.1.1 with same | empty
      · exact absurd (beq_iff_eq.mp same) interrupt
      · exact beq_iff_eq.mp empty
    exact poll_alone served idle interrupt found

section Advance

variable {cfg : Config} {hooks : Hooks} {outcome : WorkerOutcome} {before : RxSystem}
  {context : Nat} {frame : RxFrame} {below frames : List RxFrame} {shared : RxShared}

/-- Behind a frame step outside a recovery still nobody recovers, and the serving routines are
where they were. -/
theorem advance_apart (invariant : OrderInvariant cfg hooks before)
    (found : before.callStacks[context]? = some (frame :: below))
    (stepped : frameStep cfg hooks outcome before.shared frame = some (shared, frames)) :
    frame.pass = 0 ∧ Served (before.callStacks.set context (frames ++ below)) ∧
      total RxFrame.pass (before.callStacks.set context (frames ++ below)) = 0 := by
  have effect := frame_step_recovery stepped
  have no_pass := invariant.no_pass
  have outside : frame.pass = 0 := by
    have bound := weight_le_total RxFrame.pass (present_top found)
    omega
  have passes : total RxFrame.pass (before.callStacks.set context (frames ++ below)) +
      frame.pass = _ := total_advance RxFrame.pass found
  refine ⟨outside, advance_served invariant.served found effect.serving, ?_⟩
  cases effect.request <;> omega

/-- What the step leaves in hand, against what was in hand, over all call stacks. -/
theorem advance_carried (frames : List RxFrame) (cfg : Config) (hooks : Hooks)
    (found : before.callStacks[context]? = some (frame :: below)) :
    total (RxFrame.carrying cfg hooks) (before.callStacks.set context (frames ++ below)) +
        frame.carrying cfg hooks =
      total (RxFrame.carrying cfg hooks) before.callStacks +
        (frames.map (RxFrame.carrying cfg hooks)).sum :=
  total_advance (RxFrame.carrying cfg hooks) found

/-- A step that retires nothing and puts nothing on the FIFO keeps the order. -/
theorem kept_order (invariant : OrderInvariant cfg hooks before)
    (found : before.callStacks[context]? = some (frame :: below))
    (stepped : frameStep cfg hooks outcome before.shared frame = some (shared, frames))
    (order : shared.readyOrder = before.shared.readyOrder)
    (count : shared.retiredCount = before.shared.retiredCount)
    (consume : shared.ring.rxBdConsumeIndex = before.shared.ring.rxBdConsumeIndex)
    (fewer : (frames.map (RxFrame.carrying cfg hooks)).sum ≤ frame.carrying cfg hooks)
    (same : ∀ next ∈ frames, ∀ number, next.carries cfg hooks = some number →
      frame.carries cfg hooks = some number) :
    OrderInvariant cfg hooks ⟨shared, before.callStacks.set context (frames ++ below)⟩ := by
  obtain ⟨-, served, still_none⟩ := advance_apart invariant found stepped
  have carried := advance_carried frames cfg hooks found
  have one := invariant.one
  constructor
  · simpa only [order] using invariant.sorted
  · simpa only [order, count] using invariant.below_next
  · intro other present number carries
    simp only [order, count]
    rcases present_advance found present with new | old
    · exact invariant.ahead frame (present_top found) number (same other new number carries)
    · exact invariant.ahead other old number carries
  · simp only
    omega
  · exact served
  · exact still_none
  · simpa only [consume, count] using invariant.slots

/-- A retirement keeps the order: its frame is the latest, and when it is for the FIFO no other
frame is in hand. -/
theorem retired_order {completed rx : Nat} {status : BitVec 32}
    (invariant : OrderInvariant cfg hooks before)
    (admits : NeverOvertakes cfg hooks before (.run context outcome))
    (found : before.callStacks[context]? = some (.poll completed .consume :: below))
    (stepped : frameStep cfg hooks outcome before.shared (.poll completed .consume) =
      some (shared, [.poll completed (.countDma rx before.shared.retiredCount status)]))
    (taken : (emzRxDirectConsume cfg before.shared.ring).2 = .retired rx status)
    (order : shared.readyOrder = before.shared.readyOrder)
    (count : shared.retiredCount = before.shared.retiredCount + 1)
    (consume : shared.ring.rxBdConsumeIndex =
      (before.shared.ring.rxBdConsumeIndex + 1) % cfg.rxBufferCount) :
    OrderInvariant cfg hooks ⟨shared, before.callStacks.set context
      ([.poll completed (.countDma rx before.shared.retiredCount status)] ++ below)⟩ := by
  obtain ⟨-, served, still_none⟩ := advance_apart invariant found stepped
  constructor
  · simpa only [order] using invariant.sorted
  · intro number member
    simp only [order, count] at member ⊢
    exact Nat.lt_succ_of_lt (invariant.below_next number member)
  · intro other present number carries
    simp only [order, count]
    rcases present_advance found present with new | old
    · obtain rfl := List.mem_singleton.mp new
      have same : before.shared.retiredCount = number := by
        simp only [RxFrame.carries] at carries
        split at carries
        · exact Option.some.inj carries
        · cases carries
      rw [← same]
      exact ⟨Nat.lt_succ_self _, invariant.below_next⟩
    · obtain ⟨bounded, ordered⟩ := invariant.ahead other old number carries
      exact ⟨Nat.lt_succ_of_lt bounded, ordered⟩
  · have carried := advance_carried
      [.poll completed (.countDma rx before.shared.retiredCount status)] cfg hooks found
    have one := invariant.one
    cases ready : goesToReady cfg hooks before.shared.retiredCount status with
    | true =>
      have none := retire_alone invariant.served admits found taken ready
      have empty : total (RxFrame.carrying cfg hooks) before.callStacks = 0 := by
        refine total_weightless _ ?_
        intro other present
        simp [RxFrame.carrying, none other present]
      simp only [empty, List.map_cons, List.map_nil, List.sum_cons, List.sum_nil, RxFrame.carrying,
        RxFrame.carries, ready, if_true, Option.isSome_some, Bool.toNat_true] at carried ⊢
      omega
    | false =>
      simp only [List.map_cons, List.map_nil, List.sum_cons, List.sum_nil, RxFrame.carrying,
        RxFrame.carries, ready, Bool.false_eq_true, if_false, Option.isSome_none,
        Bool.toNat_false] at carried ⊢
      omega
  · exact served
  · exact still_none
  · simp only [consume, count]
    rw [invariant.slots, Nat.mod_add_mod]

/-- A frame that is put on the FIFO was the only one in hand, and is later than all on it. -/
theorem put_order {number : Nat} (invariant : OrderInvariant cfg hooks before)
    (found : before.callStacks[context]? = some (frame :: below))
    (stepped : frameStep cfg hooks outcome before.shared frame = some (shared, frames))
    (inHand : frame.carries cfg hooks = some number)
    (order : shared.readyOrder = before.shared.readyOrder ++ [number])
    (count : shared.retiredCount = before.shared.retiredCount)
    (consume : shared.ring.rxBdConsumeIndex = before.shared.ring.rxBdConsumeIndex)
    (gone : ∀ next ∈ frames, next.carries cfg hooks = none) :
    OrderInvariant cfg hooks ⟨shared, before.callStacks.set context (frames ++ below)⟩ := by
  obtain ⟨-, served, still_none⟩ := advance_apart invariant found stepped
  obtain ⟨bounded, ordered⟩ := invariant.ahead frame (present_top found) number inHand
  have empty : total (RxFrame.carrying cfg hooks)
      (before.callStacks.set context (frames ++ below)) = 0 := by
    have carried := advance_carried frames cfg hooks found
    have none_new : (frames.map (RxFrame.carrying cfg hooks)).sum = 0 := by
      refine List.sum_eq_zero ?_
      intro weight member
      obtain ⟨next, inside, rfl⟩ := List.mem_map.mp member
      simp [RxFrame.carrying, gone next inside]
    have here : frame.carrying cfg hooks = 1 := by simp [RxFrame.carrying, inHand]
    have one := invariant.one
    omega
  constructor
  · simp only [order]
    refine List.pairwise_append.mpr ⟨invariant.sorted, List.pairwise_singleton _ _, ?_⟩
    intro earlier member last single
    obtain rfl := List.mem_singleton.mp single
    exact ordered earlier member
  · intro other member
    simp only [order, count, List.mem_append, List.mem_singleton] at member ⊢
    rcases member with old | rfl
    · exact invariant.below_next other old
    · exact bounded
  · intro other present last carries
    have weight := weight_le_total (RxFrame.carrying cfg hooks) present
    have one_more : other.carrying cfg hooks = 1 := by simp [RxFrame.carrying, carries]
    simp only at weight
    omega
  · simp only
    omega
  · exact served
  · exact still_none
  · simpa only [consume, count] using invariant.slots

/-- An admitted frame step keeps the order; the cases are those of what a step can do with
numbers: retire one, pass one on, or put one on the FIFO. -/
theorem advance_order (invariant : OrderInvariant cfg hooks before)
    (admits : NeverOvertakes cfg hooks before (.run context outcome))
    (found : before.callStacks[context]? = some (frame :: below))
    (stepped : frameStep cfg hooks outcome before.shared frame = some (shared, frames)) :
    OrderInvariant cfg hooks ⟨shared, before.callStacks.set context (frames ++ below)⟩ := by
  obtain ⟨outside, -, -⟩ := advance_apart invariant found stepped
  cases frame_step_order outside stepped with
  | kept order count consume fewer same =>
    exact kept_order invariant found stepped order count consume fewer same
  | retired completed rx status polls taken order count consume next =>
    subst polls next
    exact retired_order invariant admits found stepped taken order count consume
  | put number inHand order count consume gone =>
    exact put_order invariant found stepped inHand order count consume gone

end Advance

/-- Every admitted step keeps the order, whoever takes it. -/
theorem rx_step_order {cfg : Config} {hooks : Hooks} {before after : RxSystem} {label : RxLabel}
    (invariant : OrderInvariant cfg hooks before) (admits : NeverOvertakes cfg hooks before label)
    (taken : rxStep cfg hooks before label = some after) : OrderInvariant cfg hooks after := by
  rcases rx_step_cases taken with
    ⟨context, outcome, frame, below, shared, frames, rfl, found, stepped, rfl⟩ |
    ⟨context, shared, frames, entry, idle, rfl⟩ | ⟨event, shared, -, stepped, rfl⟩
  · exact advance_order invariant admits found stepped
  · obtain ⟨sorted, below_next, ahead, one, served, no_pass, slots⟩ := invariant
    have passes : total RxFrame.pass (before.callStacks.set context frames) = _ :=
      total_enter RxFrame.pass idle
    have carried : total (RxFrame.carrying cfg hooks) (before.callStacks.set context frames) = _ :=
      total_enter (RxFrame.carrying cfg hooks) idle
    have still_served : Served (before.callStacks.set context frames) := by
      intro other stack inside
      by_cases same : context = other
      · subst same
        rw [List.getElem?_set_self (List.getElem?_eq_some_iff.mp idle).1] at inside
        obtain rfl := Option.some.inj inside
        cases entry <;> simp [RxFrame.serving, isrContext, workqContext]
      · rw [List.getElem?_set_ne same] at inside
        exact served other stack inside
    have older : ∀ frame, Present (before.callStacks.set context frames) frame → ∀ number,
        frame.carries cfg hooks = some number → Present before.callStacks frame := by
      intro frame present number carries
      rcases present_set present with new | old
      · cases entry <;> (obtain rfl := List.mem_singleton.mp new) <;> cases carries
      · exact old
    cases entry with
    | recoverWork queued => exact absurd rfl admits.1.2
    | _ =>
      exact ⟨sorted, below_next,
        fun frame present number carries =>
          ahead frame (older frame present number carries) number carries,
        carried.trans_le one, still_served, passes.trans no_pass, slots⟩
  · obtain ⟨sorted, below_next, ahead, one, served, no_pass, slots⟩ := invariant
    cases engine_step_effect stepped <;>
      exact ⟨sorted, below_next, ahead, one, served, no_pass, slots⟩

/-- At the start nothing is retired, and no routine has a frame in hand. -/
theorem initial_order (cfg : Config) (hooks : Hooks) (extra : Nat) :
    OrderInvariant cfg hooks (rxInitial cfg extra) where
  sorted := List.Pairwise.nil
  below_next := fun _ impossible => nomatch impossible
  ahead := fun frame present number carries => by
    rcases initial_present present with rfl | rfl <;> cases carries
  one := by simp [rxInitial, total, RxFrame.carrying, RxFrame.carries]
  served := by
    intro context stack found
    have member := List.mem_of_getElem? found
    simp only [rxInitial, List.mem_append, List.mem_cons, List.mem_replicate] at member
    rcases member with (rfl | rfl | rfl | rfl | impossible) | ⟨-, rfl⟩ <;>
      first | cases impossible | simp [RxFrame.serving]
  no_pass := by simp [rxInitial, total, RxFrame.pass]
  slots := by simp [rxInitial, emzRxDirectStartRing, emzPerfSetBdAvailable]

/-- The retirement number and the buffer of the frame that a poll has in hand. -/
def RxFrame.inHand : RxFrame → Option (Nat × Nat)
  | .poll _ (.countDma rx number _) | .poll _ (.deliver rx number _)
  | .poll _ (.countReady rx number) | .poll _ (.putReady rx number) => some (number, rx)
  | _ => none

/-- The buffer of the retirement with this number, in the history of retirements. -/
def RxShared.RetiredAs (shared : RxShared) (number rx : Nat) : Prop :=
  shared.retiredRx[number]? = some rx

/-- What a frame step does to the frames between their retirement and the worker. -/
inductive HandStep (before : RxShared) (frame : RxFrame) (after : RxShared)
    (frames : List RxFrame) : Prop
  | kept (retired : after.retiredRx = before.retiredRx)
      (count : after.retiredCount = before.retiredCount)
      (order : after.readyOrder = before.readyOrder)
      (fifo : after.workerOrder ++ after.rxReadyFifo = before.workerOrder ++ before.rxReadyFifo)
      (same : ∀ next ∈ frames, ∀ hand ∈ next.inHand, hand ∈ frame.inHand)
  | retired (rx : Nat) (retired : after.retiredRx = before.retiredRx ++ [rx])
      (count : after.retiredCount = before.retiredCount + 1)
      (order : after.readyOrder = before.readyOrder)
      (fifo : after.workerOrder ++ after.rxReadyFifo = before.workerOrder ++ before.rxReadyFifo)
      (new : ∀ next ∈ frames, ∀ hand ∈ next.inHand, hand = (before.retiredCount, rx))
  | put (number rx : Nat) (hand : (number, rx) ∈ frame.inHand)
      (retired : after.retiredRx = before.retiredRx)
      (count : after.retiredCount = before.retiredCount)
      (order : after.readyOrder = before.readyOrder ++ [number])
      (fifo : after.workerOrder ++ after.rxReadyFifo =
        before.workerOrder ++ before.rxReadyFifo ++ [rx])
      (gone : ∀ next ∈ frames, next.inHand = none)

section Hand

variable {cfg : Config} {hooks : Hooks} {outcome : WorkerOutcome} {before after : RxShared}
  {frames : List RxFrame}

/-- A step whose frames have nothing in hand and that leaves the histories and the FIFO alone. -/
theorem HandStep.idle {frame : RxFrame} (retired : after.retiredRx = before.retiredRx)
    (count : after.retiredCount = before.retiredCount)
    (order : after.readyOrder = before.readyOrder)
    (fifo : after.workerOrder ++ after.rxReadyFifo = before.workerOrder ++ before.rxReadyFifo)
    (none : ∀ next ∈ frames, next.inHand = none) : HandStep before frame after frames := by
  refine .kept retired count order fifo ?_
  intro next member hand inside
  rw [none next member] at inside
  cases inside

/-- Every frame step does one of the three. The worker's own take moves a buffer from the FIFO
to the end of what the worker has taken. -/
theorem frame_step_hand {frame : RxFrame}
    (stepped : frameStep cfg hooks outcome before frame = some (after, frames)) :
    HandStep before frame after frames := by
  have requested (frame next : RxFrame) (none : next.inHand = none) :
      HandStep before frame (emzRxDirectRequestRecover before) [next] := by
    obtain ⟨_, _, same⟩ := request_same before
    rw [same]
    exact .idle rfl rfl rfl rfl (by simp [none])
  cases frame_step_effect stepped with
  | pollRetired completed ring rx status taken retired =>
    exact .retired rx rfl rfl rfl rfl (by simp [RxFrame.inHand])
  | pollRequest completed => exact requested _ _ rfl
  | pollCountDma completed rx number status =>
    exact .kept rfl rfl rfl rfl (by simp [RxFrame.inHand])
  | pollReady completed rx number status ready =>
    exact .kept rfl rfl rfl rfl (by simp [RxFrame.inHand])
  | pollCountReady completed rx number =>
    exact .kept rfl rfl rfl rfl (by simp [RxFrame.inHand])
  | pollPutReady completed rx number =>
    exact .put number rx rfl rfl rfl rfl (by simp) (by simp [RxFrame.inHand])
  | workerGet rx rest waiting =>
    exact .idle rfl rfl rfl (by simp [waiting]) (by simp [RxFrame.inHand])
  | refillTail caller queued some_queued =>
    cases caller <;> exact .idle rfl rfl rfl rfl (by simp [RxFrame.inHand])
  | arm caller point =>
    cases point <;> cases caller <;>
      exact .idle rfl rfl rfl rfl (by simp [emzRxDirectArm, RxFrame.inHand])
  | recover point =>
    cases point with
    | countFree orphans =>
      cases orphans <;>
        exact .idle rfl rfl rfl rfl (by simp [emzRxDirectRecover, RxFrame.inHand])
    | _ =>
      exact .idle rfl rfl rfl rfl (by simp [emzRxDirectRecover, RxFrame.inHand, refillEntry])
  | start point =>
    cases point <;> exact .idle rfl rfl rfl rfl (by simp [emzRxDirectStart, RxFrame.inHand])
  | isr point =>
    cases point with
    | request dmasr =>
      unfold emzRxDirectIsr
      dsimp only
      split
      · exact requested _ _ rfl
      · exact .idle rfl rfl rfl rfl (by simp [RxFrame.inHand])
    | _ => exact .idle rfl rfl rfl rfl (by simp [emzRxDirectIsr, RxFrame.inHand])
  | _ => exact .idle rfl rfl rfl rfl (by simp [RxFrame.inHand, refillEntry])

end Hand

/-- What every reachable state satisfies, recoveries and overtaking frames included: a frame in
hand carries the buffer of its retirement, and what the worker has taken and what is still on the
FIFO are the buffers of the retirements in the order they were put there. -/
structure HandedInvariant (system : RxSystem) : Prop where
  counted : system.shared.retiredRx.length = system.shared.retiredCount
  inHand : ∀ frame, Present system.callStacks frame → ∀ hand ∈ frame.inHand,
    system.shared.RetiredAs hand.1 hand.2
  handed : List.Forall₂ system.shared.RetiredAs system.shared.readyOrder
    (system.shared.workerOrder ++ system.shared.rxReadyFifo)

/-- A retirement leaves the earlier ones as they are. -/
theorem RxShared.RetiredAs.later {before after : RxShared} {number rx last : Nat}
    (retired : before.RetiredAs number rx) (grown : after.retiredRx = before.retiredRx ++ [last]) :
    after.RetiredAs number rx := by
  unfold RxShared.RetiredAs at retired ⊢
  rw [grown]
  exact List.getElem?_append_left (List.getElem?_eq_some_iff.mp retired).1 |>.trans retired

/-- A frame step keeps the hand-over: what was taken, what is in hand and what is on the FIFO are
the retirements of the order, one after the other. -/
theorem advance_handed {cfg : Config} {hooks : Hooks} {outcome : WorkerOutcome}
    {before : RxSystem} {context : Nat} {frame : RxFrame} {below frames : List RxFrame}
    {shared : RxShared} (invariant : HandedInvariant before)
    (found : before.callStacks[context]? = some (frame :: below))
    (stepped : frameStep cfg hooks outcome before.shared frame = some (shared, frames)) :
    HandedInvariant ⟨shared, before.callStacks.set context (frames ++ below)⟩ := by
  obtain ⟨counted, inHand, handed⟩ := invariant
  cases frame_step_hand stepped with
  | kept retired count order fifo same =>
    have still : shared.RetiredAs = before.shared.RetiredAs := by
      unfold RxShared.RetiredAs
      rw [retired]
    refine ⟨by simpa only [retired, count] using counted, ?_, ?_⟩
    · intro other present hand inside
      simp only [still]
      rcases present_advance found present with new | old
      · exact inHand frame (present_top found) hand (same other new hand inside)
      · exact inHand other old hand inside
    · simpa only [still, order, fifo] using handed
  | retired rx retired count order fifo new =>
    refine ⟨by simp [retired, count, counted], ?_, ?_⟩
    · intro other present hand inside
      rcases present_advance found present with fresh | old
      · rw [new other fresh hand inside]
        change shared.retiredRx[before.shared.retiredCount]? = some rx
        rw [retired, ← counted]
        exact List.getElem?_concat_length
      · exact (inHand other old hand inside).later retired
    · simp only [order, fifo]
      exact handed.imp fun number rx earlier => earlier.later retired
  | put number rx hand retired count order fifo gone =>
    have still : shared.RetiredAs = before.shared.RetiredAs := by
      unfold RxShared.RetiredAs
      rw [retired]
    refine ⟨by simpa only [retired, count] using counted, ?_, ?_⟩
    · intro other present last inside
      simp only [still]
      rcases present_advance found present with new | old
      · rw [gone other new] at inside
        cases inside
      · exact inHand other old last inside
    · simp only [still, order, fifo]
      exact List.rel_append handed (.cons (inHand frame (present_top found) _ hand) .nil)

/-- In every run the buffers that the worker takes off the FIFO, and those still on it, are those
of the retirements that were put there, in that order. -/
theorem ready_fifo_handed {cfg : Config} {hooks : Hooks} {extra : Nat} {system : RxSystem}
    (run : Run (rxStep cfg hooks) Unrestricted (rxInitial cfg extra) system) :
    HandedInvariant system := by
  apply run.invariant HandedInvariant
  · refine ⟨rfl, ?_, .nil⟩
    intro frame present hand inside
    rcases initial_present present with rfl | rfl <;> cases inside
  · intro before label after invariant _ taken
    rcases rx_step_cases taken with
      ⟨context, outcome, frame, below, shared, frames, -, found, stepped, rfl⟩ |
      ⟨context, shared, frames, entry, idle, rfl⟩ | ⟨event, shared, -, stepped, rfl⟩
    · exact advance_handed invariant found stepped
    · obtain ⟨counted, inHand, handed⟩ := invariant
      have older : ∀ frame, Present (before.callStacks.set context frames) frame →
          ∀ hand ∈ frame.inHand, before.shared.RetiredAs hand.1 hand.2 := by
        intro frame present hand inside
        rcases present_set present with new | old
        · cases entry <;> (obtain rfl := List.mem_singleton.mp new) <;> cases inside
        · exact inHand frame old hand inside
      cases entry <;> exact ⟨counted, older, handed⟩
    · obtain ⟨counted, inHand, handed⟩ := invariant
      cases engine_step_effect stepped <;> exact ⟨counted, inHand, handed⟩

/-- In every run without a recovery whose interrupts overtake no frame in hand, the frames stand
on the ready FIFO in the order of their retirements, and the n-th retirement is of slot n modulo
the ring's size. What the worker has taken off the FIFO and what is on it are the buffers of
these retirements, in this order.

Proof: a routine with a frame in hand has a number above those on the FIFO, and without
overtaking one routine at most has one. The buffers are tied to these numbers by a second
invariant, which needs no condition. -/
theorem ready_fifo_in_slot_order (cfg : Config) (hooks : Hooks) (extra : Nat) (system : RxSystem)
    (run : Run (rxStep cfg hooks) (NeverOvertakes cfg hooks) (rxInitial cfg extra) system) :
    system.shared.readyOrder.Pairwise (· < ·) ∧
      (∀ number ∈ system.shared.readyOrder, number < system.shared.retiredCount) ∧
      system.shared.ring.rxBdConsumeIndex = system.shared.retiredCount % cfg.rxBufferCount ∧
      List.Forall₂ system.shared.RetiredAs system.shared.readyOrder
        (system.shared.workerOrder ++ system.shared.rxReadyFifo) := by
  have invariant : OrderInvariant cfg hooks system :=
    run.invariant (OrderInvariant cfg hooks) (initial_order cfg hooks extra)
      (fun _ _ _ invariant admits taken => rx_step_order invariant admits taken)
  exact ⟨invariant.sorted, invariant.below_next, invariant.slots,
    (ready_fifo_handed run.unrestricted).handed⟩

/-- Whether a step is one of a run without recovery is decided on the state before it. -/
instance (system : RxSystem) (label : RxLabel) : Decidable (WithoutRecovery system label) :=
  inferInstanceAs (Decidable (_ ∧ _))

/-- The condition on overtaking is decided on the frames that are present, so that schedules can
be checked by evaluation. -/
instance (cfg : Config) (hooks : Hooks) (system : RxSystem) (label : RxLabel) :
    Decidable (NeverOvertakes cfg hooks system label) :=
  inferInstanceAs (Decidable (_ ∧ (_ → ∀ frame, Present system.callStacks frame → _)))

/-- The theorem over a run in which one interrupt retires two frames, which stand in the order of
their slots. -/
theorem ready_fifo_in_slot_order_two :
    ∃ system, Run (rxStep twoBufferConfig deliverAll) (NeverOvertakes twoBufferConfig deliverAll)
        (rxInitial twoBufferConfig 0) system ∧
      system.shared.readyOrder = [0, 1] ∧ system.shared.readyOrder.Pairwise (· < ·) := by
  obtain ⟨system, run, reached⟩ := run_of_execution (rxStep twoBufferConfig deliverAll)
    (fun system label => decide (NeverOvertakes twoBufferConfig deliverAll system label))
    (rxInitial twoBufferConfig 0)
    (steps 20 initContext .accepted ++ [completeFrame, completeFrame, .interrupt] ++
      steps 13 isrContext .accepted)
    (fun system => decide (system.shared.readyOrder = [0, 1]))
    (fun _ _ admits => of_decide_eq_true admits) (by decide +kernel)
  exact ⟨system, run, of_decide_eq_true reached,
    (ready_fifo_in_slot_order twoBufferConfig deliverAll 0 system run).1⟩

/-- The work item retires slot 0 and is interrupted before its hand-off; the
interrupt retires slot 1 and queues it first. -/
theorem ready_fifo_overtaken :
    ¬ ∀ (cfg : Config) (hooks : Hooks) (extra : Nat) (system : RxSystem),
      Run (rxStep cfg hooks) WithoutRecovery (rxInitial cfg extra) system →
        system.shared.readyOrder.Pairwise (· < ·) := by
  intro claimed
  obtain ⟨system, run, reached⟩ := run_of_execution (rxStep twoBufferConfig deliverAll)
    (fun system label => decide (WithoutRecovery system label)) (rxInitial twoBufferConfig 0)
    (steps 20 initContext .accepted ++ [completeFrame, completeFrame, .pollWork] ++
      steps 1 workqContext .accepted ++ [.interrupt] ++ steps 12 isrContext .accepted ++
      steps 4 workqContext .accepted)
    (fun system => decide (system.shared.readyOrder = [1, 0]))
    (fun _ _ admits => of_decide_eq_true admits) (by decide +kernel)
  have order := claimed twoBufferConfig deliverAll 0 system run
  rw [of_decide_eq_true reached] at order
  revert order
  decide

end EmaczZephyr.Driver
