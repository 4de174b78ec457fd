import EmaczZephyr.Driver.Recovery

/-!
# The engine stays inside the posted window

The engine follows the driver around the ring: of the posted window it has
finished a first part, and every later slot and every slot outside has status
zero. An idle channel stands at the first unfinished position, and a running one
also has its tail ahead of it. A tail write keeps this as long as the slot it
publishes is unfinished. `emz_rx_direct_update_tail` reads the last posted slot
under the lock, but a refill preempted between its last post and its update may
find that slot completed, or retired, by then: an idle channel then resumes behind
its tail, at a slot the driver has not posted.
-/

namespace EmaczZephyr.Driver

open Contexts Runs

/-- The engine has finished the first `done` slots of the window and no other slot
of the ring has a status. -/
structure Progress (cfg : Config) (ring : RxRing) (done : Nat) : Prop where
  within : done ≤ ring.rxBdPosted
  finished : ∀ position, position < done →
    bdFinished (ring.rxBdRing
      (Window.slot cfg.rxBufferCount ring.rxBdConsumeIndex position)).status = true
  clear : ∀ position, done ≤ position → position < cfg.rxBufferCount →
    (ring.rxBdRing (Window.slot cfg.rxBufferCount ring.rxBdConsumeIndex position)).status = 0#32

/-- A channel that has finished the first `done` slots stands at the next one, and
while it runs its tail is not behind it. -/
structure EngineAt (cfg : Config) (ring : RxRing) (engine : S2mm) (done : Nat) : Prop where
  idle : engine.mode = .idle → engine.curdesc =
    Window.slot cfg.rxBufferCount ring.rxBdConsumeIndex done
  running : engine.mode = .running →
    engine.curdesc = Window.slot cfg.rxBufferCount ring.rxBdConsumeIndex done ∧
    ∃ last, done ≤ last ∧ last < ring.rxBdPosted ∧ engine.taildesc =
      some (Window.slot cfg.rxBufferCount ring.rxBdConsumeIndex last)

/-- The engine is consistent with the ring: it has finished some of the posted slots from the
first on, and stands at the next one. -/
def EngineFollows (cfg : Config) (ring : RxRing) (engine : S2mm) : Prop :=
  ∃ done, Progress cfg ring done ∧ EngineAt cfg ring engine done

/-- A cleared status word is not a finished one. -/
theorem unfinished_zero : bdFinished 0#32 = false := by decide

/-- A finished status at a position of the window means that the engine has passed it. -/
theorem Progress.passed {cfg : Config} {ring : RxRing} {done position : Nat}
    (progress : Progress cfg ring done) (inside : position < cfg.rxBufferCount)
    (finished : bdFinished (ring.rxBdRing
      (Window.slot cfg.rxBufferCount ring.rxBdConsumeIndex position)).status = true) :
    position < done := by
  by_contra ahead
  rw [progress.clear position (by omega) inside, unfinished_zero] at finished
  cases finished

/-- A status of zero at a position means the engine has not passed it. -/
theorem Progress.ahead {cfg : Config} {ring : RxRing} {done position : Nat}
    (progress : Progress cfg ring done)
    (zero : (ring.rxBdRing
      (Window.slot cfg.rxBufferCount ring.rxBdConsumeIndex position)).status = 0#32) :
    done ≤ position := by
  by_contra passed
  have finished := progress.finished position (by omega)
  rw [zero, unfinished_zero] at finished
  cases finished

section Moves

variable {cfg : Config} {before after : RxRing} {engine : S2mm}

/-- A post adds an unfinished slot behind the window, which moves neither the engine nor what it
has finished. -/
theorem posted_follows {rx : Nat} (invariant : RxRingInvariant cfg before)
    (posted : Posted cfg before rx after)
    (follows : EngineFollows cfg before engine) : EngineFollows cfg after engine := by
  obtain ⟨done, progress, position⟩ := follows
  have room : before.rxBdPosted < cfg.rxBufferCount :=
    (refill_free_iff invariant).mp posted.free
  have word := cfg.count_word
  have counted : after.rxBdPosted = before.rxBdPosted + 1 := by
    rw [posted.posted, Word32.inc_exact (by omega)]
  have within := progress.within
  refine ⟨done, ⟨by omega, ?_, ?_⟩, ?_, ?_⟩
  · intro place early
    rw [posted.bds, posted.consume, invariant.refill_exact, Function.update_of_ne]
    · exact progress.finished place early
    · exact Window.slot_ne invariant.consume_inside (by omega) room (by omega)
  · intro place late inside
    rw [posted.bds, posted.consume, invariant.refill_exact, Function.update_apply]
    split
    · rfl
    · exact progress.clear place late inside
  · intro idle
    rw [posted.consume, position.idle idle]
  · intro running
    obtain ⟨here, last, behind, before_end, tail⟩ := position.running running
    rw [posted.consume]
    exact ⟨here, last, behind, by omega, tail⟩

/-- Retiring the first slot shifts every position by one, the engine's with the others. -/
theorem retired_follows {rx : Nat} {status : BitVec 32} (invariant : RxRingInvariant cfg before)
    (retired : Retired cfg before rx status after)
    (follows : EngineFollows cfg before engine) : EngineFollows cfg after engine := by
  obtain ⟨done, progress, position⟩ := follows
  have positive := cfg.count_positive
  have first := Window.slot_zero invariant.consume_inside
  have passed : 0 < done := by
    refine progress.passed positive ?_
    rw [first, retired.read]
    exact retired.finished
  have some_posted : 0 < before.rxBdPosted := owned_posted invariant retired.owned
  have fits := invariant.posted_fits
  have counted := retired.posted_exact invariant
  have within := progress.within
  have shifted := retired.shifted
  have others (place : Nat) (near : place + 1 < cfg.rxBufferCount) :=
    retired.later_bd invariant near
  refine ⟨done - 1, ⟨by omega, ?_, ?_⟩, ?_, ?_⟩
  · intro place early
    rw [shifted, others place (by omega)]
    exact progress.finished _ (by omega)
  · intro place late inside
    rw [shifted]
    by_cases wraps : place + 1 = cfg.rxBufferCount
    · -- One revolution on: the slot that was just cleared.
      have whole : Window.slot cfg.rxBufferCount before.rxBdConsumeIndex cfg.rxBufferCount =
          before.rxBdConsumeIndex := by
        rw [← first, Window.slot, Window.slot, Nat.add_mod_right, Nat.mod_mod, Nat.add_zero]
      rw [wraps, whole, retired.bds, Function.update_self]
    · rw [others place (by omega)]
      exact progress.clear _ (by omega) (by omega)
  · intro idle
    rw [shifted, position.idle idle]
    congr 1
    omega
  · intro running
    obtain ⟨here, last, behind, before_end, tail⟩ := position.running running
    refine ⟨?_, last - 1, by omega, by omega, ?_⟩
    · rw [shifted, here]
      congr 1
      omega
    · rw [shifted, tail]
      congr 2
      omega

/-- A tail write to an idle channel publishes the last posted slot, which must be
unfinished; a running channel has not passed it anyway. -/
theorem published_follows (invariant : RxRingInvariant cfg before)
    (unfinished : engine.mode = .idle → (before.rxBdBuffer before.rxBdTailIndex).isSome = true ∧
      (before.rxBdRing before.rxBdTailIndex).status = 0#32)
    (follows : EngineFollows cfg before engine) :
    EngineFollows cfg before (engine.writeTaildesc before.rxBdTailIndex) := by
  obtain ⟨done, progress, position⟩ := follows
  refine ⟨done, progress, ?_, ?_⟩
  · intro idle
    simp only [S2mm.writeTaildesc] at idle
    split at idle
    · cases idle
    · contradiction
  · intro running
    simp only [S2mm.writeTaildesc] at running ⊢
    split at running
    · rename_i idle
      obtain ⟨occupied, zero⟩ := unfinished idle
      obtain ⟨place, member, -⟩ := (invariant.occupied _ invariant.tail_inside).mp occupied
      have tail := invariant.tail_exact (by omega)
      rw [tail] at zero
      exact ⟨position.idle idle, _, progress.ahead zero, by omega, by rw [tail]⟩
    · obtain ⟨here, last, behind, before_end, -⟩ := position.running running
      have tail := invariant.tail_exact (by omega)
      exact ⟨here, before.rxBdPosted - 1, by omega, by omega, by rw [tail]⟩

/-- A completion finishes the next slot, and the channel stops after its tail, or goes on to the
slot behind. -/
theorem complete_follows {shared next : RxShared} {status : BitVec 32}
    (invariant : RxRingInvariant cfg shared.ring)
    (stepped : engineComplete cfg shared status = some next)
    (follows : EngineFollows cfg shared.ring shared.engine) :
    EngineFollows cfg next.ring next.engine := by
  obtain ⟨done, progress, position⟩ := follows
  unfold engineComplete at stepped
  split at stepped
  · rename_i runs
    obtain rfl := Option.some.inj stepped
    obtain ⟨here, last, behind, before_end, tail⟩ := position.running runs.1
    have fits := invariant.posted_fits
    have others (place : Nat) (inside : place < cfg.rxBufferCount) (different : place ≠ done) :
        (writeStatus shared.ring shared.engine.curdesc status).rxBdRing
          (Window.slot cfg.rxBufferCount shared.ring.rxBdConsumeIndex place) =
        shared.ring.rxBdRing
          (Window.slot cfg.rxBufferCount shared.ring.rxBdConsumeIndex place) := by
      rw [writeStatus, here]
      apply Function.update_of_ne
      exact Window.slot_ne invariant.consume_inside inside (by omega) different
    have consume : (writeStatus shared.ring shared.engine.curdesc status).rxBdConsumeIndex =
      shared.ring.rxBdConsumeIndex := rfl
    refine ⟨done + 1, ⟨by simp only [writeStatus]; omega, ?_, ?_⟩, ?_, ?_⟩
    · intro place early
      by_cases just_done : place = done
      · simp only [writeStatus, here, just_done, Function.update_self]
        exact runs.2
      · simp only
        rw [consume, others place (by omega) just_done]
        exact progress.finished place (by omega)
    · intro place late inside
      simp only
      rw [consume, others place inside (by omega)]
      exact progress.clear place (by omega) inside
    · intro _
      simp only [writeStatus, here, Window.slot_succ]
    · intro still
      simp only [writeStatus, here, Window.slot_succ] at still ⊢
      refine ⟨trivial, last, ?_, before_end, tail⟩
      have not_last : done ≠ last := by
        rintro rfl
        simp [tail] at still
      omega
  · cases stepped

/-- A ring without any status, with the channel idle at its first slot or not
working, is consistent. -/
theorem fresh_follows (bounded : before.rxBdConsumeIndex < cfg.rxBufferCount)
    (clear : ∀ index, index < cfg.rxBufferCount → (before.rxBdRing index).status = 0#32)
    (resting : engine.mode ≠ .running)
    (first : engine.mode = .idle → engine.curdesc = before.rxBdConsumeIndex) :
    EngineFollows cfg before engine := by
  refine ⟨0, ⟨Nat.zero_le _, fun _ impossible => absurd impossible (Nat.not_lt_zero _), ?_⟩,
    ?_, fun running => absurd running resting⟩
  · intro place _ _
    exact clear _ (Window.slot_lt cfg.count_positive _ _)
  · intro idle
    rw [first idle, Window.slot_zero bounded]

end Moves

/-- A rebuild between its sweep and the end of its arm, or the start before the end
of its arm: the ring is not started and nothing is completed. -/
def RxFrame.fresh : RxFrame → Nat
  | .recover (.uncountDma _) | .recover (.countFree _) | .recover (.putFree _ _) => 1
  | .recover .refill | .recover .arm => 1
  | .start .refill | .start .irqDisable | .start .arm => 1
  | .arm _ _ | .refill .start _ _ => 1
  | _ => 0

/-- An arm that has written CURDESC and not yet RS. -/
def RxFrame.aimed : RxFrame → Nat
  | .arm _ .run => 1
  | _ => 0

/-- What a frame step does to the ring and to the engine's descriptors. -/
inductive RingMove (cfg : Config) (before : RxShared) (frame : RxFrame) (after : RxShared) : Prop
  | quiet (ring : after.ring = before.ring) (mode : after.engine.mode = before.engine.mode)
      (curdesc : after.engine.curdesc = before.engine.curdesc)
      (taildesc : after.engine.taildesc = before.engine.taildesc)
  | posted (rx : Nat) (posts : Posted cfg before.ring rx after.ring)
      (engine : after.engine = before.engine)
  | retired (rx : Nat) (status : BitVec 32) (retires : Retired cfg before.ring rx status after.ring)
      (engine : after.engine = before.engine)
  | swept (orphans : List Nat) (pass : frame = .recover .sweep)
      (sweeps : Swept cfg before.ring after.ring orphans) (engine : after.engine = before.engine)
  | published (caller : RefillCaller) (queued : Nat)
      (refill : frame = .refill caller queued .updateTail) (some_queued : 0 < queued)
      (started : before.ring.rxDirectRingStarted = true)
      (ring : after.ring = before.ring)
      (engine : after.engine = before.engine.writeTaildesc before.ring.rxBdTailIndex)
  | reset (rebuild : 0 < frame.pass + frame.early) (ring : after.ring = before.ring)
      (engine : after.engine = before.engine.reset)
  | aim (caller : ArmCaller) (arm : frame = .arm caller .curdesc) (ring : after.ring = before.ring)
      (engine : after.engine = { before.engine with curdesc := before.ring.rxBdConsumeIndex })
  | run (caller : ArmCaller) (arm : frame = .arm caller .run) (ring : after.ring = before.ring)
      (engine : after.engine = before.engine.run)
  | armed (caller : ArmCaller) (arm : frame = .arm caller .tail)
      (ring : after.ring = (emzRxDirectArmTail before.ring).1)
      (engine : after.engine = before.engine.publish (emzRxDirectArmTail before.ring).2)

section Step

attribute [local simp] RxFrame.fresh RxFrame.aimed

variable {cfg : Config} {hooks : Hooks} {outcome : WorkerOutcome} {before after : RxShared}
  {frames : List RxFrame}

/-- A published tail reaches a channel whose ring is started, and no other. -/
theorem published_move (caller : RefillCaller) (queued : Nat) (some_queued : 0 < queued) :
    RingMove cfg before (.refill caller queued .updateTail)
      { before with engine := before.engine.publish (emzRxDirectUpdateTail before.ring) } := by
  by_cases started : before.ring.rxDirectRingStarted = true
  · refine .published caller queued rfl some_queued started rfl ?_
    simp [emzRxDirectUpdateTail, started, S2mm.publish]
  · have same : before.engine.publish (emzRxDirectUpdateTail before.ring) = before.engine := by
      simp [emzRxDirectUpdateTail, started, S2mm.publish]
    rw [same]
    exact .quiet rfl rfl rfl rfl

/-- Every frame step is one of these moves of ring and engine; most of them are none at all. -/
theorem frame_step_move {frame : RxFrame}
    (stepped : frameStep cfg hooks outcome before frame = some (after, frames)) :
    RingMove cfg before frame after := by
  have requested (frame : RxFrame) :
      RingMove cfg before frame (emzRxDirectRequestRecover before) := by
    obtain ⟨_, _, same⟩ := request_same before
    rw [same]
    exact .quiet rfl rfl rfl rfl
  cases frame_step_effect stepped with
  | refillPost caller queued rx ring posted => exact .posted rx posted rfl
  | refillTail caller queued some_queued => exact published_move caller queued some_queued
  | pollRetired completed ring rx status taken retired => exact .retired rx status retired rfl
  | pollRequest completed => exact requested _
  | arm caller point =>
    cases point with
    | reset => cases caller <;> exact .reset (by decide) rfl rfl
    | clearDmasr => exact .quiet rfl rfl rfl rfl
    | curdesc => exact .aim caller rfl rfl rfl
    | run => exact .run caller rfl rfl rfl
    | tail => exact .armed caller rfl rfl rfl
  | recover point =>
    cases point with
    | reset => exact .reset (by decide) rfl rfl
    | sweep => exact .swept _ rfl (sweep_swept cfg before.ring) rfl
    | countFree orphans => cases orphans <;> exact .quiet rfl rfl rfl rfl
    | _ => exact .quiet rfl rfl rfl rfl
  | start point => cases point <;> exact .quiet rfl rfl rfl rfl
  | isr point =>
    cases point with
    | request dmasr =>
      unfold emzRxDirectIsr
      dsimp only
      split
      · exact requested _
      · exact .quiet rfl rfl rfl rfl
    | _ => exact .quiet rfl rfl rfl rfl
  | _ => exact .quiet rfl rfl rfl rfl

/-- A rebuild becomes fresh by its sweep, and ends being fresh with its arm. -/
theorem frame_step_fresh {frame : RxFrame}
    (stepped : frameStep cfg hooks outcome before frame = some (after, frames)) :
    ((frames.map RxFrame.fresh).sum ≤ frame.fresh ∨ frame = .recover .sweep) ∧
      ((∃ caller, frame = .arm caller .tail) → (frames.map RxFrame.fresh).sum = 0) ∧
      ((frames.map RxFrame.aimed).sum = 0 ∨ ∃ caller, frame = .arm caller .curdesc) := by
  cases frame_step_effect stepped with
  | refillTail caller queued some_queued => cases caller <;> simp
  | refillDry caller | refillGet caller | refillPost caller | refillRefused caller
  | refillPutBack caller | refillCountDma caller | refillCountFree caller
  | refillNothing caller => cases caller <;> simp
  | arm caller point => cases point <;> cases caller <;> simp [emzRxDirectArm]
  | recover point =>
    cases point with
    | countFree orphans => cases orphans <;> simp [emzRxDirectRecover]
    | _ => simp [emzRxDirectRecover, refillEntry]
  | start point => cases point <;> simp [emzRxDirectStart]
  | isr point => cases point <;> simp [emzRxDirectIsr]
  | _ => simp [refillEntry]

end Step

/-- The engine processes only posted descriptors: where it works, the driver has a
buffer posted and the descriptor carries it with status zero; and no poll finds a
finished descriptor without a buffer. -/
def EngineSafe (cfg : Config) (shared : RxShared) : Prop :=
  (shared.engine.mode = .running → ∃ rx,
    shared.ring.rxBdBuffer shared.engine.curdesc = some rx ∧
    (shared.ring.rxBdRing shared.engine.curdesc).bufferAddress = cfg.rxBytes rx ∧
    (shared.ring.rxBdRing shared.engine.curdesc).status = 0#32) ∧
  (emzRxDirectConsume cfg shared.ring).2 ≠ .unowned

/-- The engine writes statuses only by completing descriptors, never into a slot of its choice. -/
def faithfulEngine : RxLabel → Bool
  | .engine (.scribble _ _) => false
  | _ => true

/-- The step in which `emz_rx_direct_update_tail` writes TAILDESC to an idle
channel. -/
def restartsEngine (system : RxSystem) : RxLabel → Bool
  | .run context _ =>
      match system.callStacks[context]? with
      | some (.refill _ queued .updateTail :: _) =>
          decide (0 < queued) && system.shared.ring.rxDirectRingStarted &&
            system.shared.engine.mode == .idle
      | _ => false
  | _ => false

/-- The engine is faithful, and each tail update that restarts it finds the tail's
slot occupied and its status still zero. -/
def PublishesUnfinished (system : RxSystem) (label : RxLabel) : Prop :=
  faithfulEngine label = true ∧
    (restartsEngine system label = true →
      (system.shared.ring.rxBdBuffer system.shared.ring.rxBdTailIndex).isSome = true ∧
        (system.shared.ring.rxBdRing system.shared.ring.rxBdTailIndex).status = 0#32)

/-- A ring that is not started and a channel that is not running: no descriptor has
a status. -/
structure Fresh (cfg : Config) (shared : RxShared) : Prop where
  unstarted : shared.ring.rxDirectRingStarted = false
  clear : ∀ index, index < cfg.rxBufferCount → (shared.ring.rxBdRing index).status = 0#32
  resting : shared.engine.mode ≠ .running

/-- What every state reached by such a run satisfies: the ring's window, the counting of
rebuilds, and an engine inside of the window. -/
structure EngineInvariant (cfg : Config) (system : RxSystem) : Prop where
  ring : RxRingInvariant cfg system.shared.ring
  recovery : RecoveryInvariant system
  fresh : 0 < total RxFrame.fresh system.callStacks → Fresh cfg system.shared
  aimed : 0 < total RxFrame.aimed system.callStacks →
    system.shared.engine.curdesc = system.shared.ring.rxBdConsumeIndex
  follows : EngineFollows cfg system.shared.ring system.shared.engine

/-- Being consistent depends on the window, the statuses and the two descriptor registers only. -/
theorem EngineFollows.same {cfg : Config} {before after : RxRing} {engine next : S2mm}
    (follows : EngineFollows cfg before engine) (bds : after.rxBdRing = before.rxBdRing)
    (consume : after.rxBdConsumeIndex = before.rxBdConsumeIndex)
    (posted : after.rxBdPosted = before.rxBdPosted) (mode : next.mode = engine.mode)
    (curdesc : next.curdesc = engine.curdesc) (taildesc : next.taildesc = engine.taildesc) :
    EngineFollows cfg after next := by
  obtain ⟨done, ⟨within, finished, clear⟩, idle, running⟩ := follows
  exact ⟨done, ⟨by rwa [posted], by simpa only [bds, consume] using finished,
    by simpa only [bds, consume] using clear⟩, by simpa only [mode, curdesc, consume] using idle,
    by simpa only [mode, curdesc, taildesc, consume, posted] using running⟩

/-- A channel that neither runs nor waits for a tail is consistent with any
progress. -/
theorem EngineFollows.stopped {cfg : Config} {ring : RxRing} {engine next : S2mm}
    (follows : EngineFollows cfg ring engine) (idle : next.mode ≠ .idle)
    (running : next.mode ≠ .running) : EngineFollows cfg ring next := by
  obtain ⟨done, progress, -⟩ := follows
  exact ⟨done, progress, fun mode => absurd mode idle, fun mode => absurd mode running⟩

/-- Consistency is safety: the slot that the channel works on is posted, and so is everything up
to its tail. -/
theorem EngineFollows.safe {cfg : Config} {shared : RxShared}
    (invariant : RxRingInvariant cfg shared.ring)
    (follows : EngineFollows cfg shared.ring shared.engine) : EngineSafe cfg shared := by
  obtain ⟨done, progress, position⟩ := follows
  have fits := invariant.posted_fits
  constructor
  · intro running
    obtain ⟨here, last, behind, before_end, -⟩ := position.running running
    have inside : shared.engine.curdesc < cfg.rxBufferCount :=
      here ▸ Window.slot_lt cfg.count_positive _ _
    obtain ⟨rx, owned⟩ := Option.isSome_iff_exists.mp
      ((invariant.occupied _ inside).mpr ⟨done, by omega, here⟩)
    exact ⟨rx, owned, (invariant.programmed _ rx inside owned).1,
      here ▸ progress.clear done le_rfl (by omega)⟩
  · intro unowned
    rcases consume_cases cfg shared.ring with
      ⟨other, -⟩ | ⟨-, finished, vacant⟩ | ⟨after, rx, status, other, -⟩
    · simp [other] at unowned
    · have first := Window.slot_zero invariant.consume_inside
      have passed := progress.passed cfg.count_positive (first.symm ▸ finished)
      have within := progress.within
      have owned := (invariant.occupied _ invariant.consume_inside).mpr
        ⟨0, by omega, first.symm⟩
      simp [vacant] at owned
    · simp [other] at unowned

/-- A frame of a fresh phase belongs to a pass or an early start. -/
theorem fresh_le_rebuild (frame : RxFrame) : frame.fresh ≤ frame.pass + frame.early := by
  cases frame with
  | refill caller queued point =>
    cases caller <;> simp [RxFrame.fresh, RxFrame.early, RxFrame.starting]
  | arm caller point =>
    cases caller <;> simp [RxFrame.fresh, RxFrame.pass, RxFrame.early, RxFrame.starting]
  | recover point => cases point <;> simp [RxFrame.fresh, RxFrame.pass]
  | start point => cases point <;> simp [RxFrame.fresh, RxFrame.early, RxFrame.starting]
  | _ => exact Nat.zero_le _

/-- A frame that has aimed the channel belongs to a fresh phase. -/
theorem aimed_le_fresh (frame : RxFrame) : frame.aimed ≤ frame.fresh := by
  cases frame with
  | arm caller point => cases point <;> simp [RxFrame.aimed, RxFrame.fresh]
  | _ => exact Nat.zero_le _

/-- There is at most one rebuild, as a total of one weight over all call stacks. -/
theorem RecoveryInvariant.rebuilds {system : RxSystem} (invariant : RecoveryInvariant system) :
    total (fun frame => frame.pass + frame.early) system.callStacks ≤ 1 := by
  rw [total_add]
  exact invariant.one_rebuild

/-- In a fresh phase nothing is retired, because no status word is finished. -/
theorem Fresh.not_retired {cfg : Config} {shared : RxShared} {after : RxRing} {rx : Nat}
    {status : BitVec 32} (fresh : Fresh cfg shared) (invariant : RxRingInvariant cfg shared.ring)
    (retired : Retired cfg shared.ring rx status after) : False := by
  have zero := fresh.clear _ invariant.consume_inside
  have finished := retired.finished
  rw [← retired.read, zero, unfinished_zero] at finished
  cases finished

/-- A frame step keeps a fresh phase fresh until its arm ends: nothing in it starts the channel
or finishes a descriptor. -/
theorem move_fresh {cfg : Config} {before after : RxShared} {frame : RxFrame}
    (invariant : RxRingInvariant cfg before.ring) (fresh : Fresh cfg before)
    (move : RingMove cfg before frame after) (unswept : frame ≠ .recover .sweep)
    (arming : ∀ caller, frame ≠ .arm caller .tail) : Fresh cfg after := by
  obtain ⟨unstarted, clear, resting⟩ := fresh
  cases move with
  | quiet ring mode _ _ => exact ⟨ring ▸ unstarted, ring ▸ clear, mode ▸ resting⟩
  | posted rx posts engine =>
    refine ⟨posts.started.trans unstarted, ?_, engine ▸ resting⟩
    intro index inside
    rw [posts.bds, Function.update_apply]
    split
    · rfl
    · exact clear index inside
  | retired rx status retires engine =>
    exact (Fresh.not_retired ⟨unstarted, clear, resting⟩ invariant retires).elim
  | swept orphans pass sweeps engine => exact absurd pass unswept
  | published caller queued refill some_queued started ring engine =>
    simp [unstarted] at started
  | reset rebuild ring engine =>
    exact ⟨ring ▸ unstarted, ring ▸ clear, by simp [engine, S2mm.reset]⟩
  | aim caller arm ring engine =>
    exact ⟨ring ▸ unstarted, ring ▸ clear, by simpa [engine] using resting⟩
  | run caller arm ring engine => exact ⟨ring ▸ unstarted, ring ▸ clear, by simp [engine, S2mm.run]⟩
  | armed caller arm ring engine => exact absurd arm (arming caller)

/-- Every frame step keeps the engine consistent, provided a tail update that
restarts it publishes an unfinished slot. -/
theorem move_follows {cfg : Config} {before after : RxShared} {frame : RxFrame}
    (invariant : RxRingInvariant cfg before.ring)
    (follows : EngineFollows cfg before.ring before.engine)
    (resetting : 0 < frame.resetting → before.engine.mode = .reset)
    (fresh : 0 < frame.fresh → Fresh cfg before)
    (aimed : 0 < frame.aimed → before.engine.curdesc = before.ring.rxBdConsumeIndex)
    (unfinished : ∀ caller queued, frame = .refill caller queued .updateTail → 0 < queued →
      before.ring.rxDirectRingStarted = true → before.engine.mode = .idle →
        (before.ring.rxBdBuffer before.ring.rxBdTailIndex).isSome = true ∧
          (before.ring.rxBdRing before.ring.rxBdTailIndex).status = 0#32)
    (move : RingMove cfg before frame after) : EngineFollows cfg after.ring after.engine := by
  cases move with
  | quiet ring mode curdesc taildesc =>
    exact follows.same (by rw [ring]) (by rw [ring]) (by rw [ring]) mode curdesc taildesc
  | posted rx posts engine => exact engine ▸ posted_follows invariant posts follows
  | retired rx status retires engine => exact engine ▸ retired_follows invariant retires follows
  | swept orphans pass sweeps engine =>
    subst pass
    have stopped := resetting Nat.one_pos
    refine fresh_follows ?_ sweeps.status (by simp [engine, stopped]) (by simp [engine, stopped])
    rw [sweeps.consume]
    exact cfg.count_positive
  | published caller queued refill some_queued started ring engine =>
    rw [ring, engine]
    exact published_follows invariant (unfinished caller queued refill some_queued started) follows
  | reset rebuild ring engine =>
    rw [ring, engine]
    exact follows.stopped (by simp [S2mm.reset]) (by simp [S2mm.reset])
  | aim caller arm ring engine =>
    subst arm
    have stopped := resetting Nat.one_pos
    rw [ring, engine]
    exact follows.stopped (by simp [stopped]) (by simp [stopped])
  | run caller arm ring engine =>
    subst arm
    rw [ring, engine]
    exact fresh_follows invariant.consume_inside (fresh Nat.one_pos).clear (by simp [S2mm.run])
      (fun _ => aimed Nat.one_pos)
  | armed caller arm ring engine =>
    subst arm
    have clear := (fresh Nat.one_pos).clear
    rw [ring, engine]
    by_cases posted : 0 < before.ring.rxBdPosted
    · have some_tail : (emzRxDirectArmTail before.ring).2 = some before.ring.rxBdTailIndex := by
        simp [emzRxDirectArmTail, posted]
      have occupied : (before.ring.rxBdBuffer before.ring.rxBdTailIndex).isSome = true :=
        (invariant.occupied _ invariant.tail_inside).mpr
          ⟨before.ring.rxBdPosted - 1, by omega, invariant.tail_exact posted⟩
      rw [some_tail]
      exact (published_follows invariant
        (fun _ => ⟨occupied, clear _ invariant.tail_inside⟩) follows).same rfl rfl rfl rfl rfl rfl
    · have no_tail : (emzRxDirectArmTail before.ring).2 = none := by
        simp [emzRxDirectArmTail, posted]
      rw [no_tail]
      exact follows.same rfl rfl rfl rfl rfl rfl

/-- A step of another routine leaves an aimed channel at the consume index, since only retiring
would move that index. -/
theorem move_aimed {cfg : Config} {before after : RxShared} {frame : RxFrame}
    (invariant : RxRingInvariant cfg before.ring) (fresh : Fresh cfg before)
    (aimed : before.engine.curdesc = before.ring.rxBdConsumeIndex)
    (other : frame.pass + frame.early = 0) (move : RingMove cfg before frame after) :
    after.engine.curdesc = after.ring.rxBdConsumeIndex := by
  cases move with
  | quiet ring _ curdesc _ => rw [curdesc, ring, aimed]
  | posted rx posts engine => rw [engine, posts.consume, aimed]
  | retired rx status retires engine => exact (fresh.not_retired invariant retires).elim
  | swept orphans pass _ _ => subst pass; cases other
  | published caller queued refill some_queued started ring engine =>
    rw [engine, ring]
    exact aimed
  | reset rebuild _ _ => omega
  | aim caller arm _ _ => subst arm; cases caller <;> cases other
  | run caller arm _ _ => subst arm; cases caller <;> cases other
  | armed caller arm _ _ => subst arm; cases caller <;> cases other

/-- An admitted frame step keeps the engine inside the window. The condition is used where a tail
is written; every other move keeps the engine by itself. -/
theorem advance_engine {cfg : Config} {hooks : Hooks} {outcome : WorkerOutcome}
    {before : RxSystem} {context : Nat} {frame : RxFrame} {below frames : List RxFrame}
    {shared : RxShared} (invariant : EngineInvariant cfg before)
    (admits : PublishesUnfinished before (.run context outcome))
    (found : before.callStacks[context]? = some (frame :: below))
    (stepped : frameStep cfg hooks outcome before.shared frame = some (shared, frames)) :
    EngineInvariant cfg ⟨shared, before.callStacks.set context (frames ++ below)⟩ := by
  obtain ⟨ring, recovery, fresh, aimed, follows⟩ := invariant
  have present := present_top found
  have rebuilds := recovery.rebuilds
  have freshTotal := total_mono fresh_le_rebuild before.callStacks
  have aimedTotal := total_mono aimed_le_fresh before.callStacks
  have freshAfter : total RxFrame.fresh (before.callStacks.set context (frames ++ below)) +
      frame.fresh = _ := total_advance RxFrame.fresh found
  have aimedAfter : total RxFrame.aimed (before.callStacks.set context (frames ++ below)) +
      frame.aimed = _ := total_advance RxFrame.aimed found
  have freshHere := weight_le_total RxFrame.fresh present
  have aimedHere := weight_le_total RxFrame.aimed present
  obtain ⟨freshFrames, armEnds, aimedFrames⟩ := frame_step_fresh stepped
  have move := frame_step_move stepped
  have resetting : 0 < frame.resetting → before.shared.engine.mode = .reset := by
    intro here
    exact recovery.resetting (here.trans_le (weight_le_total RxFrame.resetting present))
  refine ⟨frame_step_ring ring stepped,
    advance_recovery recovery found (frame_step_recovery stepped), ?_, ?_, ?_⟩
  · intro still
    simp only at still
    by_cases sweeping : frame = .recover .sweep
    · subst sweeping
      have stopped := resetting Nat.one_pos
      obtain ⟨rfl, rfl⟩ := stepped
      have swept := sweep_swept cfg before.shared.ring
      exact ⟨swept.started, swept.status, by simp [stopped]⟩
    · have fewer := freshFrames.resolve_right sweeping
      refine move_fresh ring (fresh (by omega)) move sweeping ?_
      rintro caller rfl
      have gone := armEnds ⟨caller, rfl⟩
      simp only [RxFrame.fresh] at freshAfter freshHere
      omega
  · intro still
    simp only at still ⊢
    by_cases aiming : ∃ caller, frame = .arm caller .curdesc
    · obtain ⟨caller, rfl⟩ := aiming
      obtain ⟨rfl, rfl⟩ := stepped
      rfl
    · have none := aimedFrames.resolve_right aiming
      refine move_aimed ring (fresh (by omega)) (aimed (by omega)) ?_ move
      by_contra rebuild
      have exclusive := total_exclusive
        (fun frame => (aimed_le_fresh frame).trans (fresh_le_rebuild frame)) rebuilds present
        (Nat.pos_of_ne_zero rebuild)
      omega
  · refine move_follows ring follows resetting (fun here => fresh (here.trans_le freshHere))
      (fun here => aimed (here.trans_le aimedHere)) ?_ move
    rintro caller queued rfl some_queued started idle
    exact admits.2 (by simp [restartsEngine, found, some_queued, started, idle])

/-- An entry of an interrupt or of a work item changes neither the ring nor the engine. -/
theorem entry_engine {cfg : Config} {before : RxSystem} {label : RxLabel} {context : Nat}
    {shared : RxShared} {frames : List RxFrame} (invariant : EngineInvariant cfg before)
    (entry : RxEntry before.shared label context shared frames)
    (idle : before.callStacks[context]? = some []) :
    EngineInvariant cfg ⟨shared, before.callStacks.set context frames⟩ := by
  have recovered := entry_recovery invariant.recovery entry idle
  obtain ⟨ring, -, fresh, aimed, follows⟩ := invariant
  have freshAfter : total RxFrame.fresh (before.callStacks.set context frames) = _ :=
    total_enter RxFrame.fresh idle
  have aimedAfter : total RxFrame.aimed (before.callStacks.set context frames) = _ :=
    total_enter RxFrame.aimed idle
  have noFresh : (frames.map RxFrame.fresh).sum = 0 := by cases entry <;> rfl
  have noAimed : (frames.map RxFrame.aimed).sum = 0 := by cases entry <;> rfl
  have same : Fresh cfg before.shared → Fresh cfg shared := by
    rintro ⟨unstarted, clear, resting⟩
    cases entry <;> exact ⟨unstarted, clear, resting⟩
  rw [noFresh, Nat.add_zero] at freshAfter
  rw [noAimed, Nat.add_zero] at aimedAfter
  refine ⟨?_, recovered, fun still => same (fresh (freshAfter ▸ still)), ?_, ?_⟩
  · cases entry <;> exact ring
  · intro still
    have before_aimed := aimed (aimedAfter ▸ still)
    cases entry <;> exact before_aimed
  · cases entry <;> exact follows

/-- A faithful engine keeps itself inside the window: it completes the slot it stands at, up to
its tail. -/
theorem engine_engine {cfg : Config} {before : RxSystem} {event : EngineEvent}
    {shared : RxShared} (invariant : EngineInvariant cfg before)
    (faithful : faithfulEngine (.engine event) = true)
    (stepped : engineStep cfg before.shared event = some shared) :
    EngineInvariant cfg { before with shared := shared } := by
  have recovered := engine_recovery invariant.recovery stepped
  obtain ⟨ring, -, fresh, aimed, follows⟩ := invariant
  cases engine_step_effect stepped with
  | complete status running finished =>
    have follows_after := complete_follows ring stepped follows
    have not_fresh : total RxFrame.fresh before.callStacks = 0 := by
      by_contra here
      exact (fresh (Nat.pos_of_ne_zero here)).resting running
    have aimedTotal := total_mono aimed_le_fresh before.callStacks
    exact ⟨write_status_invariant ring _ _, recovered, fun here => by simp only at here; omega,
      fun here => by simp only at here; omega, follows_after⟩
  | halt errors moving raised =>
    refine ⟨ring, recovered, ?_, aimed, follows.stopped (by simp) (by simp)⟩
    intro here
    obtain ⟨unstarted, clear, -⟩ := fresh here
    exact ⟨unstarted, clear, by simp⟩
  | scribble index status => cases faithful

/-- Every admitted step keeps the engine inside the window, whoever takes it. -/
theorem rx_step_engine {cfg : Config} {hooks : Hooks} {before after : RxSystem} {label : RxLabel}
    (invariant : EngineInvariant cfg before) (admits : PublishesUnfinished before label)
    (taken : rxStep cfg hooks before label = some after) : EngineInvariant cfg after := by
  rcases rx_step_cases taken with
    ⟨context, outcome, frame, below, shared, frames, rfl, found, stepped, rfl⟩ |
    ⟨context, shared, frames, entry, idle, rfl⟩ | ⟨event, shared, rfl, stepped, rfl⟩
  · exact advance_engine invariant admits found stepped
  · exact entry_engine invariant entry idle
  · exact engine_engine invariant admits.1 stepped

/-- At the start the ring is cleared and the channel in reset, so the engine follows an empty
window. -/
theorem initial_engine (cfg : Config) (extra : Nat) :
    EngineInvariant cfg (rxInitial cfg extra) where
  ring := start_ring_invariant cfg
  recovery := initial_recovery cfg extra
  fresh := fun _ => ⟨rfl, fun _ _ => rfl, by simp [rxInitial]⟩
  aimed := fun _ => rfl
  follows := fresh_follows cfg.count_positive (fun _ _ => rfl) (by simp [rxInitial]) (fun _ => rfl)

/-- In every interleaving whose engine is faithful and whose restarting tail updates publish an
unfinished slot, the engine touches only posted descriptors.

Proof: the invariant places the engine inside the window of posted slots, with the finished ones
behind it. A tail update keeps this, because a channel that it restarts is given an unfinished
slot by the condition. -/
theorem engine_stays_posted (cfg : Config) (hooks : Hooks) (extra : Nat) (system : RxSystem)
    (run : Run (rxStep cfg hooks) PublishesUnfinished (rxInitial cfg extra) system) :
    EngineSafe cfg system.shared := by
  have invariant : EngineInvariant cfg system :=
    run.invariant (EngineInvariant cfg) (initial_engine cfg extra)
      (fun _ _ _ invariant admits taken => rx_step_engine invariant admits taken)
  exact invariant.follows.safe invariant.ring

/-- Nothing weaker would do: a tail update that restarts the engine on a finished or
unposted tail leaves it working outside the posted window. -/
theorem restart_unsafe {cfg : Config} {ring : RxRing} {engine : S2mm} {after : RxShared}
    (invariant : RxRingInvariant cfg ring) (follows : EngineFollows cfg ring engine)
    (idle : engine.mode = .idle)
    (finished : ¬ ((ring.rxBdBuffer ring.rxBdTailIndex).isSome = true ∧
      (ring.rxBdRing ring.rxBdTailIndex).status = 0#32))
    (same : after.ring = ring) (written : after.engine = engine.writeTaildesc ring.rxBdTailIndex) :
    ¬ EngineSafe cfg after := by
  rintro ⟨working, -⟩
  obtain ⟨done, progress, position⟩ := follows
  obtain ⟨rx, owned, -, zero⟩ := working (by simp [written, S2mm.writeTaildesc, idle])
  have here : after.engine.curdesc = Window.slot cfg.rxBufferCount ring.rxBdConsumeIndex done := by
    rw [written]
    exact position.idle idle
  have fits := invariant.posted_fits
  have within := progress.within
  rw [here, same] at owned zero
  have member := (invariant.occupied _ (Window.slot_lt cfg.count_positive _ _)).mp
    (Option.isSome_iff_exists.mpr ⟨rx, owned⟩)
  obtain ⟨place, inside, at_place⟩ := member
  rw [at_place] at zero
  -- The engine's slot is posted and unfinished, so the tail behind it is too.
  have ahead := progress.ahead zero
  have tail := invariant.tail_exact (by omega)
  refine finished ⟨?_, ?_⟩
  · exact (invariant.occupied _ invariant.tail_inside).mpr ⟨_, by omega, tail⟩
  · rw [tail]
    exact progress.clear _ (by omega) (by omega)

/-- The condition on the tail is decided on the state before the step, so that schedules can be
checked by evaluation. -/
instance (system : RxSystem) (label : RxLabel) : Decidable (PublishesUnfinished system label) :=
  inferInstanceAs (Decidable (_ ∧ (_ → _ ∧ _)))

/-- One buffer goes round: slot 0 is completed, retired, posted again and published
while the engine works on slot 1. -/
theorem engine_stays_posted_round :
    ∃ system, Run (rxStep twoBufferConfig deliverAll) PublishesUnfinished
        (rxInitial twoBufferConfig 0) system ∧
      system.shared.engine.mode = .running ∧ system.shared.engine.curdesc = 1 ∧
      EngineSafe twoBufferConfig system.shared := by
  obtain ⟨system, run, reached⟩ := run_of_execution (rxStep twoBufferConfig deliverAll)
    (fun system label => decide (PublishesUnfinished system label)) (rxInitial twoBufferConfig 0)
    (steps 20 initContext .accepted ++ [completeFrame, .interrupt] ++
      steps 12 isrContext .accepted ++ steps 13 workerContext .down)
    (fun system => decide (system.shared.engine.mode = .running ∧
      system.shared.engine.curdesc = 1))
    (fun _ _ admits => of_decide_eq_true admits) (by decide +kernel)
  obtain ⟨running, second⟩ := of_decide_eq_true reached
  exact ⟨system, run, running, second,
    engine_stays_posted twoBufferConfig deliverAll 0 system run⟩

/-- Hooks by which the interceptor takes the second frame and no other, for the failing schedule. -/
def interceptSecond : Hooks := ⟨fun number => number == 1, fun _ => false⟩

/-- The worker is preempted between its post of slot 0 and its tail update. -/
def preemptedUpdate : List RxLabel :=
  steps 20 initContext .accepted ++ [completeFrame, .interrupt] ++
    steps 12 isrContext .accepted ++ steps 12 workerContext .down

/-- An interrupt posts slot 1 and publishes it; after both slots are completed and
retired the worker publishes slot 1 again, and the idle engine resumes at slot 0,
which is not posted. -/
theorem engine_leaves_posted :
    ¬ ∀ (cfg : Config) (hooks : Hooks) (extra : Nat) (system : RxSystem),
      Run (rxStep cfg hooks)
        (fun system label => (interruptFirst system label && faithfulEngine label) = true)
        (rxInitial cfg extra) system → EngineSafe cfg system.shared := by
  intro claimed
  obtain ⟨system, run, reached⟩ := run_of_execution (rxStep twoBufferConfig interceptSecond)
    (fun system label => interruptFirst system label && faithfulEngine label)
    (rxInitial twoBufferConfig 0)
    (preemptedUpdate ++ [completeFrame, .interrupt] ++ steps 18 isrContext .accepted ++
      [completeFrame, completeFrame, .interrupt] ++ steps 17 isrContext .accepted ++
      steps 1 workerContext .down)
    (fun system => decide (system.shared.engine.mode = .running ∧
      system.shared.ring.rxBdBuffer system.shared.engine.curdesc = none))
    (fun _ _ admits => admits) (by decide +kernel)
  obtain ⟨running, vacant⟩ := of_decide_eq_true reached
  obtain ⟨rx, owned, -⟩ := (claimed twoBufferConfig interceptSecond 0 system run).1 running
  simp [vacant] at owned

end EmaczZephyr.Driver
