import EmaczZephyr.Driver.RxPath

/-!
# Every posted descriptor is published

The tail is written at three places: a refill that queued something, the end of
an arm, and nowhere else; a reset forgets it. A refill that posted a descriptor
owes a publication until its tail update, and a pass that reset the channel owes
one until its arm ends. While the ring is started and descriptors are posted,
either the published tail is the last posted slot or some frame still owes. When
no such frame is left, everything posted is published.
-/

namespace EmaczZephyr.Driver

open Contexts Runs

/-- A refill that posted a descriptor and has not yet updated the tail, or a pass
between its reset and the end of its arm. -/
def RxFrame.owesTail : RxFrame → Nat
  | .refill _ _ .countDma | .refill _ _ .countFree => 1
  | .refill _ queued _ => if 0 < queued then 1 else 0
  | .arm _ _ => 1
  | .recover .irqDisable | .recover .reset => 0
  | .recover .irqEnable | .recover .countRecovery | .recover .clearPending => 0
  | .recover _ => 1
  | _ => 0

/-- A ring that is not started, or has nothing posted, or whose tail is published. -/
def TailPublished (shared : RxShared) : Prop :=
  shared.ring.rxDirectRingStarted = true → 0 < shared.ring.rxBdPosted →
    shared.engine.taildesc = some shared.ring.rxBdTailIndex

/-- The tail is published, or a frame owes the publication. -/
structure PublicationInvariant (cfg : Config) (system : RxSystem) : Prop where
  ring : RxRingInvariant cfg system.shared.ring
  published : TailPublished system.shared ∨ 0 < total RxFrame.owesTail system.callStacks

/-- A step that cannot unpublish: it starts no ring, posts nothing, and leaves the
tail index and register. -/
structure TailUndisturbed (before after : RxShared) : Prop where
  started : after.ring.rxDirectRingStarted = true → before.ring.rxDirectRingStarted = true
  posted : 0 < after.ring.rxBdPosted → 0 < before.ring.rxBdPosted
  tail : after.ring.rxBdTailIndex = before.ring.rxBdTailIndex
  taildesc : after.engine.taildesc = before.engine.taildesc

/-- A step that leaves ring and tail register leaves the publication undisturbed. -/
theorem TailUndisturbed.same {before after : RxShared} (ring : after.ring = before.ring)
    (taildesc : after.engine.taildesc = before.engine.taildesc) : TailUndisturbed before after :=
  ⟨fun started => ring ▸ started, fun posted => ring ▸ posted, by rw [ring], taildesc⟩

/-- An undisturbed publication stays: the register still names the slot that the ring says. -/
theorem TailUndisturbed.published {before after : RxShared}
    (undisturbed : TailUndisturbed before after) (published : TailPublished before) :
    TailPublished after := by
  intro started posted
  rw [undisturbed.taildesc, undisturbed.tail]
  exact published (undisturbed.started started) (undisturbed.posted posted)

section Step

attribute [local simp] RxFrame.owesTail

variable {cfg : Config} {hooks : Hooks} {outcome : WorkerOutcome} {before after : RxShared}
  {frames : List RxFrame}

/-- What a frame step does for the publication: it makes it, it leaves a frame that
owes it, or it owed nothing and disturbs nothing. -/
def TailStep (before : RxShared) (frame : RxFrame) (after : RxShared) (frames : List RxFrame) :
    Prop :=
  TailPublished after ∨ 0 < (frames.map RxFrame.owesTail).sum ∨
    frame.owesTail = 0 ∧ TailUndisturbed before after

/-- A refill owes from its first post to its tail update, which publishes unless
the ring is not started. -/
theorem refill_tail {caller : RefillCaller} {queued : Nat} {point : RefillPoint}
    (stepped : emzRxDirectRefill cfg before caller queued point = (after, frames)) :
    TailStep before (.refill caller queued point) after frames := by
  cases point with
  | get =>
    by_cases some_queued : 0 < queued
    · refine .inr (.inl ?_)
      simp only [emzRxDirectRefill] at stepped
      split at stepped <;> (obtain ⟨rfl, rfl⟩ := stepped) <;> simp [some_queued]
    · refine .inr (.inr ⟨by simp [some_queued], ?_⟩)
      simp only [emzRxDirectRefill] at stepped
      split at stepped <;> (obtain ⟨rfl, rfl⟩ := stepped) <;> exact .same rfl rfl
  | post rx =>
    rcases post_one_cases cfg before.ring rx with ⟨refused, -⟩ | ⟨ring, succeeded, posted⟩
    · simp only [emzRxDirectRefill, refused] at stepped
      obtain ⟨rfl, rfl⟩ := stepped
      by_cases some_queued : 0 < queued
      · exact .inr (.inl (by simp [some_queued]))
      · exact .inr (.inr ⟨by simp [some_queued], .same rfl rfl⟩)
    · simp only [emzRxDirectRefill, succeeded] at stepped
      obtain ⟨rfl, rfl⟩ := stepped
      exact .inr (.inl (by simp))
  | putBack rx =>
    obtain ⟨rfl, rfl⟩ := stepped
    by_cases some_queued : 0 < queued
    · exact .inr (.inl (by simp [some_queued]))
    · exact .inr (.inr ⟨by simp [some_queued], .same rfl rfl⟩)
  | countDma =>
    obtain ⟨rfl, rfl⟩ := stepped
    exact .inr (.inl (by simp))
  | countFree =>
    obtain ⟨rfl, rfl⟩ := stepped
    exact .inr (.inl (by simp))
  | updateTail =>
    simp only [emzRxDirectRefill] at stepped
    obtain ⟨rfl, rfl⟩ := stepped
    by_cases some_queued : 0 < queued
    · refine .inl ?_
      intro started _
      simp only [some_queued, if_true] at started ⊢
      simp [emzRxDirectUpdateTail, started, S2mm.publish, S2mm.writeTaildesc]
    · exact .inr (.inr ⟨by simp [some_queued], by simpa [some_queued] using .same rfl rfl⟩)

/-- An arm owes the publication until its last region, which publishes when anything is posted. -/
theorem arm_tail {caller : ArmCaller} {point : ArmPoint}
    (stepped : emzRxDirectArm before caller point = (after, frames)) :
    TailStep before (.arm caller point) after frames := by
  cases point with
  | tail =>
    obtain ⟨rfl, rfl⟩ := stepped
    refine .inl ?_
    intro _ posted
    have some_posted : 0 < before.ring.rxBdPosted := posted
    simp [emzRxDirectArmTail, some_posted, S2mm.publish, S2mm.writeTaildesc]
  | _ =>
    obtain ⟨rfl, rfl⟩ := stepped
    exact .inr (.inl (by simp))

/-- A recovery pass owes the publication from its reset on, and its arm pays. -/
theorem recover_tail {point : RecoverPoint}
    (stepped : emzRxDirectRecover cfg before point = (after, frames)) :
    TailStep before (.recover point) after frames := by
  cases point with
  | irqDisable =>
    obtain ⟨rfl, rfl⟩ := stepped
    exact .inr (.inr ⟨rfl, .same rfl rfl⟩)
  | irqEnable =>
    obtain ⟨rfl, rfl⟩ := stepped
    exact .inr (.inr ⟨rfl, .same rfl rfl⟩)
  | countRecovery =>
    obtain ⟨rfl, rfl⟩ := stepped
    exact .inr (.inr ⟨rfl, .same rfl rfl⟩)
  | clearPending =>
    obtain ⟨rfl, rfl⟩ := stepped
    exact .inr (.inr ⟨rfl, .same rfl rfl⟩)
  | countFree orphans =>
    cases orphans <;> (obtain ⟨rfl, rfl⟩ := stepped) <;> exact .inr (.inl (by simp))
  | _ =>
    obtain ⟨rfl, rfl⟩ := stepped
    exact .inr (.inl (by simp))

/-- Every frame step makes the publication, leaves it owed, or has no part in it. The refill, the
arm and the recovery are above; of the other branches only the retirement touches what the
publication is about. -/
theorem frame_step_tail {frame : RxFrame} (invariant : RxRingInvariant cfg before.ring)
    (stepped : frameStep cfg hooks outcome before frame = some (after, frames)) :
    TailStep before frame after frames := by
  have requested : TailUndisturbed before (emzRxDirectRequestRecover before) := by
    obtain ⟨_, _, same⟩ := request_same before
    rw [same]
    exact .same rfl rfl
  cases frame_step_effect stepped with
  | refillDry | refillGet | refillPost | refillRefused | refillPutBack | refillCountDma
  | refillCountFree | refillTail | refillNothing => exact refill_tail (Option.some.inj stepped)
  | arm caller point => exact arm_tail rfl
  | recover point => exact recover_tail rfl
  | pollRetired completed ring rx status taken retired =>
    exact .inr (.inr ⟨rfl, fun started => retired.started ▸ started,
      fun _ => owned_posted invariant retired.owned, retired.tail, rfl⟩)
  | pollRequest completed => exact .inr (.inr ⟨rfl, requested⟩)
  | start point => cases point <;> exact .inr (.inr ⟨rfl, .same rfl rfl⟩)
  | isr point =>
    refine .inr (.inr ⟨rfl, ?_⟩)
    cases point with
    | request dmasr =>
      unfold emzRxDirectIsr
      dsimp only
      split
      · exact requested
      · exact .same rfl rfl
    | _ => exact .same rfl rfl
  | _ => exact .inr (.inr ⟨rfl, .same rfl rfl⟩)

end Step

/-- Every step keeps the publication invariant: the tail is published, or a routine under way
still owes it. -/
theorem rx_step_publication {cfg : Config} {hooks : Hooks} {before after : RxSystem}
    {label : RxLabel} (invariant : PublicationInvariant cfg before)
    (taken : rxStep cfg hooks before label = some after) : PublicationInvariant cfg after := by
  obtain ⟨ring, published⟩ := invariant
  rcases rx_step_cases taken with
    ⟨context, outcome, frame, below, shared, frames, -, found, stepped, rfl⟩ |
    ⟨context, shared, frames, entry, idle, rfl⟩ | ⟨event, shared, -, stepped, rfl⟩
  · refine ⟨frame_step_ring ring stepped, ?_⟩
    have owed : total RxFrame.owesTail (before.callStacks.set context (frames ++ below)) +
        frame.owesTail = _ := total_advance RxFrame.owesTail found
    rcases frame_step_tail ring stepped with made | still | ⟨nothing, undisturbed⟩
    · exact .inl made
    · have part := weight_le_total RxFrame.owesTail (present_top found)
      exact .inr (by simp only; omega)
    · rcases published with before_published | owing
      · exact .inl (undisturbed.published before_published)
      · exact .inr (by simp only; omega)
  · have owed : total RxFrame.owesTail (before.callStacks.set context frames) = _ :=
      total_enter RxFrame.owesTail idle
    cases entry <;> exact ⟨ring, published.imp_right (fun owing => by simp only; omega)⟩
  · cases engine_step_effect stepped with
    | complete status running finished => exact ⟨write_status_invariant ring _ _, published⟩
    | halt errors moving raised => exact ⟨ring, published⟩
    | scribble index status => exact ⟨write_status_invariant ring _ _, published⟩

/-- A refill, a recovery pass or an arm is somewhere on the way. -/
def RxFrame.publishes : RxFrame → Bool
  | .refill _ _ _ | .recover _ | .arm _ _ => true
  | _ => false

/-- In every reachable state with no refill, recovery or arm under way, a started ring with
posted descriptors has a tail written since the last reset. It is the most recently posted slot,
the last of the window that holds every posted descriptor.

Proof: the invariant is that the tail is published or some frame on a call stack still owes the
update. With no refill, recovery or arm under way nothing is owed, and the window puts every
posted slot at or before the tail. -/
theorem posted_descriptors_published (cfg : Config) (hooks : Hooks) (extra : Nat)
    (system : RxSystem) (run : Run (rxStep cfg hooks) Unrestricted (rxInitial cfg extra) system)
    (settled : ∀ frame, Present system.callStacks frame → frame.publishes = false)
    (started : system.shared.ring.rxDirectRingStarted = true)
    (posted : 0 < system.shared.ring.rxBdPosted) :
    system.shared.engine.taildesc = some system.shared.ring.rxBdTailIndex ∧
      (system.shared.ring.rxBdTailIndex + 1) % cfg.rxBufferCount =
        system.shared.ring.rxBdRefillIndex ∧
      ∃ last, last < system.shared.ring.rxBdPosted ∧
        system.shared.ring.rxBdTailIndex =
          Window.slot cfg.rxBufferCount system.shared.ring.rxBdConsumeIndex last ∧
        ∀ index, index < cfg.rxBufferCount → (system.shared.ring.rxBdBuffer index).isSome →
          ∃ position, position ≤ last ∧
            index = Window.slot cfg.rxBufferCount system.shared.ring.rxBdConsumeIndex position := by
  have invariant : PublicationInvariant cfg system :=
    run.invariant (PublicationInvariant cfg)
      ⟨start_ring_invariant cfg, .inl (fun started => absurd started Bool.false_ne_true)⟩
      (fun _ _ _ invariant _ taken => rx_step_publication invariant taken)
  obtain ⟨ring, published⟩ := invariant
  have tail := ring.tail_exact posted
  have nothing_owed : total RxFrame.owesTail system.callStacks = 0 := by
    refine (total_eq_zero _).mpr ?_
    intro frame present
    have outside := settled frame present
    cases frame <;> first | rfl | cases outside
  refine ⟨?_, ?_, system.shared.ring.rxBdPosted - 1, by omega, tail, ?_⟩
  · rcases published with made | owing
    · exact made started posted
    · omega
  · rw [tail, Window.slot_succ, ring.refill_exact]
    congr 1
    omega
  · intro index inside owned
    obtain ⟨position, member, same⟩ := (ring.occupied index inside).mp owned
    exact ⟨position, by omega, same⟩

/-- The theorem over the start: once it has returned, its two descriptors are posted and
published. -/
theorem posted_descriptors_published_started :
    ∃ system, Run (rxStep twoBufferConfig deliverAll) Unrestricted
        (rxInitial twoBufferConfig 0) system ∧
      system.shared.ring.rxBdPosted = 2 ∧
      system.shared.engine.taildesc = some system.shared.ring.rxBdTailIndex := by
  obtain ⟨system, run, reached⟩ := run_of_execution (rxStep twoBufferConfig deliverAll)
    (fun _ _ => true) (rxInitial twoBufferConfig 0) (steps 20 initContext .accepted)
    (fun system => decide (system.callStacks = [[], [], [.worker .get], []] ∧
      system.shared.ring.rxDirectRingStarted = true ∧ system.shared.ring.rxBdPosted = 2))
    (fun _ _ _ => trivial) (by decide +kernel)
  obtain ⟨atRest, started, posted⟩ := of_decide_eq_true reached
  have settled : ∀ frame, Present system.callStacks frame → frame.publishes = false := by
    simp [Present, atRest, RxFrame.publishes]
  exact ⟨system, run, posted, (posted_descriptors_published twoBufferConfig deliverAll 0 system run
    settled started (by omega)).1⟩

end EmaczZephyr.Driver
