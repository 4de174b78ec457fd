import EmaczZephyr.Driver.RxPath

/-!
# Recovery passes and halts of the engine

A request sets `rx_direct_recover_pending` and queues the pass; the pass clears
the flag as its last act. The first part counts: the flag is set exactly while
one pass is queued or running, and before the start routine has enabled the line
there is none. The engine's mode follows from what the passes write.

The second part is about halts. The interrupt that answers a halt acknowledges
its error bits even when the request collapses into a pass that has already
rebuilt the ring, and between that pass enabling the line and clearing the flag
this does happen: the engine then stays halted with no pass to come. When no
answered halt falls between a pass's reset and its end, every acknowledged halt
has a pass before its reset.
-/

namespace EmaczZephyr.Driver

open Contexts Runs

/-- A recovery pass, at whatever point, and also while it arms the channel. -/
def RxFrame.pass : RxFrame → Nat
  | .recover _ | .arm .recover _ => 1
  | _ => 0

/-- A recovery pass that has not performed its reset yet, so that a halt before it is still to be
answered. -/
def RxFrame.beforeReset : RxFrame → Nat
  | .recover .irqDisable | .recover .reset => 1
  | _ => 0

/-- The start routine, or what it has called. -/
def RxFrame.starting : RxFrame → Nat
  | .start _ | .arm .start _ | .refill .start _ _ => 1
  | _ => 0

/-- The start routine before it has enabled the interrupt line. -/
def RxFrame.early : RxFrame → Nat
  | .start .schedule => 0
  | frame => frame.starting

/-- A routine that completed descriptors are served in, the interrupt or the poll; only these
request a recovery. -/
def RxFrame.serving : RxFrame → Nat
  | .isr _ | .poll _ _ => 1
  | _ => 0

/-- A rebuild between its first RESET and RS, or the start before RS. -/
def RxFrame.resetting : RxFrame → Nat
  | .recover .irqDisable | .recover .reset => 0
  | .recover .irqEnable | .recover .countRecovery | .recover .clearPending => 0
  | .recover _ => 1
  | .start .irqEnable | .start .schedule => 0
  | .start _ | .refill .start _ _ => 1
  | .arm _ .tail => 0
  | .arm _ _ => 1
  | _ => 0

/-- The counting facts: the flag is one queued or running pass, the start runs
before everything else, a channel being reset is in reset, and error bits mean a
halted channel. -/
structure RecoveryInvariant (system : RxSystem) : Prop where
  pending : system.shared.recoverQueued.toNat + total RxFrame.pass system.callStacks =
    system.shared.rxDirectRecoverPending.toNat
  one_start : total RxFrame.starting system.callStacks ≤ 1
  early : 0 < total RxFrame.early system.callStacks →
    system.shared.irqEnabled = false ∧ system.shared.pollScheduled = false ∧
      system.shared.rxDirectRecoverPending = false ∧ total RxFrame.serving system.callStacks = 0
  resetting : 0 < total RxFrame.resetting system.callStacks → system.shared.engine.mode = .reset
  errors_halt : system.shared.engine.errors ≠ 0#32 → system.shared.engine.mode = .halted

/-- What a frame step does to the engine's mode and error bits. -/
inductive ModeStep (frame : RxFrame) (frames : List RxFrame) (before after : S2mm) : Prop
  | kept (mode : after.mode = before.mode) (errors : after.errors ≠ 0#32 → before.errors ≠ 0#32)
      (quiet : (frames.map RxFrame.resetting).sum ≤ frame.resetting)
  | reset (mode : after.mode = .reset) (errors : after.errors = 0#32)
  | run (last : frame.resetting = 1) (gone : (frames.map RxFrame.resetting).sum = 0)
      (errors : after.errors = before.errors)
  | published (mode : after.mode = if before.mode = .idle then .running else before.mode)
      (errors : after.errors = before.errors)
      (quiet : (frames.map RxFrame.resetting).sum ≤ frame.resetting)

/-- What a frame step does to the recovery request: keep flag and queue, set both, or end a pass
and clear the flag. -/
inductive RequestStep (frame : RxFrame) (frames : List RxFrame) (before after : RxShared) : Prop
  | kept (pending : after.rxDirectRecoverPending = before.rxDirectRecoverPending)
      (queued : after.recoverQueued = before.recoverQueued)
      (pass : (frames.map RxFrame.pass).sum = frame.pass)
  | requested (serving : frame.serving = 1) (pass : (frames.map RxFrame.pass).sum = frame.pass)
      (fresh : before.rxDirectRecoverPending = false)
      (pending : after.rxDirectRecoverPending = true) (queued : after.recoverQueued = true)
  | cleared (pass : frame.pass = 1) (gone : (frames.map RxFrame.pass).sum = 0)
      (pending : after.rxDirectRecoverPending = false)
      (queued : after.recoverQueued = before.recoverQueued)

/-- Everything that a frame step does which the counting of passes needs: channel, request, and
the weights of the routines. -/
structure RecoveryStep (before : RxShared) (frame : RxFrame) (after : RxShared)
    (frames : List RxFrame) : Prop where
  mode : ModeStep frame frames before.engine after.engine
  request : RequestStep frame frames before after
  starting : (frames.map RxFrame.starting).sum ≤ frame.starting
  early : (frames.map RxFrame.early).sum ≤ frame.early
  serving : (frames.map RxFrame.serving).sum ≤ frame.serving
  enabled : after.irqEnabled = true → before.irqEnabled = true ∨ frame.pass = 1 ∨
    frame.early = 1 ∧ (frames.map RxFrame.early).sum = 0
  scheduled : after.pollScheduled = true →
    before.pollScheduled = true ∨ frame.starting = 1 ∧ frame.early = 0

section Step

attribute [local simp] RxFrame.pass RxFrame.starting RxFrame.early RxFrame.serving
  RxFrame.resetting

variable {cfg : Config} {hooks : Hooks} {outcome : WorkerOutcome} {before after : RxShared}
  {frames : List RxFrame}

/-- An acknowledgement clears error bits and raises none, so bits that are left were there
before. -/
theorem acknowledge_errors {engine : S2mm} {bits : BitVec 32}
    (left : (engine.acknowledge bits).errors ≠ 0#32) : engine.errors ≠ 0#32 := by
  intro clear
  exact left (by simp [S2mm.acknowledge, clear])

/-- A request keeps flag and queue when a pass is pending, and sets both otherwise. -/
theorem request_cases (shared : RxShared) :
    emzRxDirectRequestRecover shared = shared ∨
    shared.rxDirectRecoverPending = false ∧ emzRxDirectRequestRecover shared =
      { shared with rxDirectRecoverPending := true, recoverQueued := true } := by
  unfold emzRxDirectRequestRecover
  by_cases pending : shared.rxDirectRecoverPending = true
  · exact .inl (by simp [pending])
  · have fresh : shared.rxDirectRecoverPending = false := by simpa using pending
    exact .inr ⟨fresh, by simp [fresh]⟩

/-- A step that changes neither the channel nor the flags nor the line meets the description,
with weights that do not grow. -/
theorem RecoveryStep.plain {frame : RxFrame} (engine : after.engine = before.engine)
    (enabled : after.irqEnabled = before.irqEnabled)
    (pending : after.rxDirectRecoverPending = before.rxDirectRecoverPending)
    (queued : after.recoverQueued = before.recoverQueued)
    (scheduled : after.pollScheduled = before.pollScheduled)
    (weights : (frames.map RxFrame.pass).sum = frame.pass ∧
      (frames.map RxFrame.starting).sum ≤ frame.starting ∧
      (frames.map RxFrame.early).sum ≤ frame.early ∧
      (frames.map RxFrame.serving).sum ≤ frame.serving ∧
      (frames.map RxFrame.resetting).sum ≤ frame.resetting) :
    RecoveryStep before frame after frames := by
  obtain ⟨pass, starting, early, serving, resetting⟩ := weights
  exact ⟨.kept (by rw [engine]) (fun bits => engine ▸ bits) resetting, .kept pending queued pass,
    starting, early, serving, fun line => .inl (enabled ▸ line), fun due => .inl (scheduled ▸ due)⟩

/-- A step that only requests a recovery pass meets it too, because requests come from the
serving routines alone. -/
theorem RecoveryStep.request_or_plain {frame : RxFrame} (serves : frame.serving = 1)
    (requested : after = emzRxDirectRequestRecover before)
    (weights : (frames.map RxFrame.pass).sum = frame.pass ∧
      (frames.map RxFrame.starting).sum ≤ frame.starting ∧
      (frames.map RxFrame.early).sum ≤ frame.early ∧
      (frames.map RxFrame.serving).sum ≤ frame.serving ∧
      (frames.map RxFrame.resetting).sum ≤ frame.resetting) :
    RecoveryStep before frame after frames := by
  rcases request_cases before with same | ⟨fresh, changed⟩
  · rw [requested, same]
    exact .plain rfl rfl rfl rfl rfl weights
  · rw [requested, changed]
    obtain ⟨pass, starting, early, serving, resetting⟩ := weights
    exact ⟨.kept rfl id resetting, .requested serves pass fresh rfl rfl,
      starting, early, serving, .inl, .inl⟩

/-- A tail write starts an idle channel and leaves any other as it is. -/
theorem publish_mode {frame : RxFrame} (engine : S2mm) (tail : Option Nat)
    (quiet : (frames.map RxFrame.resetting).sum ≤ frame.resetting) :
    ModeStep frame frames engine (engine.publish tail) := by
  cases tail with
  | none => exact .kept rfl id quiet
  | some index => exact .published rfl rfl quiet

/-- A refill touches the engine only through its tail update, which starts a channel that runs
and no other. -/
theorem refill_recovery {caller : RefillCaller} {queued : Nat} {point : RefillPoint}
    (stepped : emzRxDirectRefill cfg before caller queued point = (after, frames)) :
    RecoveryStep before (.refill caller queued point) after frames := by
  cases point with
  | updateTail =>
    simp only [emzRxDirectRefill] at stepped
    obtain ⟨rfl, rfl⟩ := stepped
    by_cases some_queued : 0 < queued
    · simp only [some_queued, if_true]
      cases caller <;> exact ⟨publish_mode _ _ (by simp), .kept rfl rfl (by simp), by simp,
        by simp, by simp, .inl, .inl⟩
    · simp only [some_queued, if_false]
      cases caller <;> exact .plain rfl rfl rfl rfl rfl (by simp)
  | get =>
    simp only [emzRxDirectRefill] at stepped
    split at stepped <;> (obtain ⟨rfl, rfl⟩ := stepped) <;> cases caller <;>
      exact .plain rfl rfl rfl rfl rfl (by simp)
  | _ =>
    obtain ⟨rfl, rfl⟩ := stepped
    cases caller <;> exact .plain rfl rfl rfl rfl rfl (by simp)

/-- A poll asks for a pass only when it finds a finished descriptor without a
buffer. -/
theorem poll_recovery {completed : Nat} {point : PollPoint}
    (stepped : emzRxDirectPoll cfg hooks before completed point = (after, frames)) :
    RecoveryStep before (.poll completed point) after frames := by
  cases poll_effect stepped with
  | pollRequest completed => exact .request_or_plain rfl rfl (by simp)
  | _ => exact .plain rfl rfl rfl rfl rfl (by simp [refillEntry])

/-- An arm resets the channel, runs it and publishes a tail, point by point for either of its
callers. -/
theorem arm_recovery {caller : ArmCaller} {point : ArmPoint}
    (stepped : emzRxDirectArm before caller point = (after, frames)) :
    RecoveryStep before (.arm caller point) after frames := by
  cases point with
  | reset =>
    obtain ⟨rfl, rfl⟩ := stepped
    cases caller <;> exact ⟨.reset rfl rfl, .kept rfl rfl (by simp), by simp, by simp, by simp,
      .inl, .inl⟩
  | clearDmasr =>
    obtain ⟨rfl, rfl⟩ := stepped
    have fewer : (before.engine.acknowledge 0xffffffff#32).errors ≠ 0#32 →
        before.engine.errors ≠ 0#32 := acknowledge_errors
    cases caller <;> exact ⟨.kept rfl fewer (by simp), .kept rfl rfl (by simp), by simp, by simp,
      by simp, .inl, .inl⟩
  | curdesc =>
    obtain ⟨rfl, rfl⟩ := stepped
    cases caller <;> exact ⟨.kept rfl id (by simp), .kept rfl rfl (by simp), by simp, by simp,
      by simp, .inl, .inl⟩
  | run =>
    obtain ⟨rfl, rfl⟩ := stepped
    cases caller <;> exact ⟨.run rfl (by simp) rfl, .kept rfl rfl (by simp), by simp, by simp,
      by simp, .inl, .inl⟩
  | tail =>
    obtain ⟨rfl, rfl⟩ := stepped
    cases caller <;> exact ⟨publish_mode _ _ (by simp), .kept rfl rfl (by simp), by simp, by simp,
      by simp, .inl, .inl⟩

/-- A recovery pass resets the channel through the arm that it calls, and clears the flag when
it ends. -/
theorem recover_recovery {point : RecoverPoint}
    (stepped : emzRxDirectRecover cfg before point = (after, frames)) :
    RecoveryStep before (.recover point) after frames := by
  cases point with
  | irqDisable =>
    obtain ⟨rfl, rfl⟩ := stepped
    exact ⟨.kept rfl id (by simp), .kept rfl rfl (by simp), by simp, by simp, by simp,
      fun line => absurd line Bool.false_ne_true, .inl⟩
  | reset =>
    obtain ⟨rfl, rfl⟩ := stepped
    exact ⟨.reset rfl rfl, .kept rfl rfl (by simp), by simp, by simp, by simp, .inl, .inl⟩
  | clearDmasr =>
    obtain ⟨rfl, rfl⟩ := stepped
    exact ⟨.kept rfl acknowledge_errors (by simp), .kept rfl rfl (by simp), by simp, by simp,
      by simp, .inl, .inl⟩
  | countFree orphans =>
    cases orphans <;> (obtain ⟨rfl, rfl⟩ := stepped) <;>
      exact .plain rfl rfl rfl rfl rfl (by simp)
  | irqEnable =>
    obtain ⟨rfl, rfl⟩ := stepped
    exact ⟨.kept rfl id (by simp), .kept rfl rfl (by simp), by simp, by simp, by simp,
      fun _ => .inr (.inl rfl), .inl⟩
  | clearPending =>
    obtain ⟨rfl, rfl⟩ := stepped
    exact ⟨.kept rfl id (by simp), .cleared rfl rfl rfl rfl, by simp, by simp, by simp, .inl, .inl⟩
  | _ =>
    obtain ⟨rfl, rfl⟩ := stepped
    exact .plain rfl rfl rfl rfl rfl (by simp [refillEntry])

/-- The start routine is early until it enables the line, and its arm resets the channel as a
pass would. -/
theorem start_recovery {point : StartPoint}
    (stepped : emzRxDirectStart before point = (after, frames)) :
    RecoveryStep before (.start point) after frames := by
  cases point with
  | irqDisable =>
    obtain ⟨rfl, rfl⟩ := stepped
    exact ⟨.kept rfl id (by simp), .kept rfl rfl (by simp), by simp, by simp, by simp,
      fun line => absurd line Bool.false_ne_true, .inl⟩
  | irqEnable =>
    obtain ⟨rfl, rfl⟩ := stepped
    exact ⟨.kept rfl id (by simp), .kept rfl rfl (by simp), by simp, by simp, by simp,
      fun _ => .inr (.inr ⟨rfl, rfl⟩), .inl⟩
  | schedule =>
    obtain ⟨rfl, rfl⟩ := stepped
    exact ⟨.kept rfl id (by simp), .kept rfl rfl (by simp), by simp, by simp, by simp, .inl,
      fun _ => .inr ⟨rfl, rfl⟩⟩
  | _ =>
    obtain ⟨rfl, rfl⟩ := stepped
    exact .plain rfl rfl rfl rfl rfl (by simp)

/-- The interrupt routine requests a pass for a halted channel and acknowledges
what it read. -/
theorem isr_recovery {point : IsrPoint} (stepped : emzRxDirectIsr before point = (after, frames)) :
    RecoveryStep before (.isr point) after frames := by
  cases point with
  | read =>
    obtain ⟨rfl, rfl⟩ := stepped
    exact .plain rfl rfl rfl rfl rfl (by simp)
  | request dmasr =>
    obtain ⟨rfl, rfl⟩ := stepped
    split
    · exact .request_or_plain rfl rfl (by simp)
    · exact .plain rfl rfl rfl rfl rfl (by simp)
  | acknowledge dmasr =>
    obtain ⟨rfl, rfl⟩ := stepped
    exact ⟨.kept rfl acknowledge_errors (by simp), .kept rfl rfl (by simp), by simp, by simp,
      by simp, .inl, .inl⟩

/-- Every frame step does one of the listed things to the engine and the flags. -/
theorem frame_step_recovery {frame : RxFrame}
    (stepped : frameStep cfg hooks outcome before frame = some (after, frames)) :
    RecoveryStep before frame after frames := by
  cases frame with
  | refill caller queued point => exact refill_recovery (Option.some.inj stepped)
  | poll completed point => exact poll_recovery (Option.some.inj stepped)
  | worker point =>
    cases frame_step_effect stepped <;> exact .plain rfl rfl rfl rfl rfl (by simp)
  | arm caller point => exact arm_recovery (Option.some.inj stepped)
  | recover point => exact recover_recovery (Option.some.inj stepped)
  | start point => exact start_recovery (Option.some.inj stepped)
  | isr point => exact isr_recovery (Option.some.inj stepped)
  | _ =>
    obtain ⟨rfl, rfl⟩ := stepped
    exact .plain rfl rfl rfl rfl rfl (by simp [refillEntry])

end Step

/-- A rebuild that resets the channel is a pass or an early start, so two rebuilds never do it at
the same time. -/
theorem resetting_le (callStacks : List (List RxFrame)) :
    total RxFrame.resetting callStacks ≤
      total RxFrame.pass callStacks + total RxFrame.early callStacks := by
  rw [← total_add]
  refine total_mono ?_ callStacks
  intro frame
  cases frame with
  | arm caller point => cases caller <;> cases point <;> decide
  | recover point => cases point <;> simp [RxFrame.resetting, RxFrame.pass]
  | start point => cases point <;> decide
  | refill caller queued point =>
    cases caller <;> simp [RxFrame.resetting, RxFrame.early, RxFrame.starting]
  | _ => exact Nat.zero_le _

/-- A start that has not enabled the line is a start, so there is at most one of them. -/
theorem early_le_starting (frame : RxFrame) : frame.early ≤ frame.starting := by
  unfold RxFrame.early
  split
  · exact Nat.zero_le _
  · exact le_rfl

/-- Over all call stacks too, the early starts are at most the starts. -/
theorem early_le (callStacks : List (List RxFrame)) :
    total RxFrame.early callStacks ≤ total RxFrame.starting callStacks :=
  total_mono early_le_starting callStacks

/-- Passes and early starts exclude each other: together there is at most one, so no two contexts
rebuild the ring. -/
theorem RecoveryInvariant.one_rebuild {system : RxSystem} (invariant : RecoveryInvariant system) :
    total RxFrame.pass system.callStacks + total RxFrame.early system.callStacks ≤ 1 := by
  have pending := invariant.pending
  have one := (early_le system.callStacks).trans invariant.one_start
  by_cases early : 0 < total RxFrame.early system.callStacks
  · rw [(invariant.early early).2.2.1] at pending
    simp only [Bool.toNat_false] at pending
    omega
  · have bound := Bool.toNat_le system.shared.rxDirectRecoverPending
    omega

/-- A frame step keeps the counting facts, whatever routine it belongs to, by the description of
frame steps alone. -/
theorem advance_recovery {before : RxSystem} {context : Nat} {frame : RxFrame}
    {below frames : List RxFrame} {shared : RxShared} (invariant : RecoveryInvariant before)
    (found : before.callStacks[context]? = some (frame :: below))
    (stepped : RecoveryStep before.shared frame shared frames) :
    RecoveryInvariant ⟨shared, before.callStacks.set context (frames ++ below)⟩ := by
  have one := invariant.one_rebuild
  have resetters := resetting_le before.callStacks
  have passes : total RxFrame.pass (before.callStacks.set context (frames ++ below)) +
      frame.pass = _ := total_advance RxFrame.pass found
  have starts : total RxFrame.starting (before.callStacks.set context (frames ++ below)) +
      frame.starting = _ := total_advance RxFrame.starting found
  have earlies : total RxFrame.early (before.callStacks.set context (frames ++ below)) +
      frame.early = _ := total_advance RxFrame.early found
  have servers : total RxFrame.serving (before.callStacks.set context (frames ++ below)) +
      frame.serving = _ := total_advance RxFrame.serving found
  have resets : total RxFrame.resetting (before.callStacks.set context (frames ++ below)) +
      frame.resetting = _ := total_advance RxFrame.resetting found
  have passHere := weight_le_total RxFrame.pass (present_top found)
  have startHere := weight_le_total RxFrame.starting (present_top found)
  have earlyHere := weight_le_total RxFrame.early (present_top found)
  have servingHere := weight_le_total RxFrame.serving (present_top found)
  have resettingHere := weight_le_total RxFrame.resetting (present_top found)
  have pending := invariant.pending
  have one_start := invariant.one_start
  constructor
  · cases stepped.request with
    | kept pend queued pass => simp only [pend, queued]; omega
    | requested serving pass fresh pend queued =>
      simp only [fresh, pend, queued, Bool.toNat_true, Bool.toNat_false] at pending ⊢
      omega
    | cleared pass gone pend queued =>
      have flag := Bool.toNat_le before.shared.rxDirectRecoverPending
      simp only [pend, queued, Bool.toNat_false]
      omega
  · have fewer := stepped.starting
    simp only
    omega
  · intro still
    have fewer := stepped.early
    have served := stepped.serving
    simp only at still ⊢
    obtain ⟨line, due, request, serving⟩ := invariant.early (by omega)
    refine ⟨?_, ?_, ?_, by omega⟩
    · by_contra enabled
      rcases stepped.enabled (by simpa using enabled) with was | pass | ⟨early, gone⟩
      · simp [line] at was
      · omega
      · omega
    · by_contra scheduled
      rcases stepped.scheduled (by simpa using scheduled) with was | ⟨starting, late⟩
      · simp [due] at was
      · have none := total_exclusive early_le_starting one_start (present_top found)
          (starting ▸ Nat.one_pos) late
        omega
    · cases stepped.request with
      | kept pend _ _ => rw [pend, request]
      | requested serves _ _ _ _ => omega
      | cleared _ _ pend _ => exact pend
  · intro still
    simp only at still ⊢
    cases stepped.mode with
    | kept mode _ quiet => rw [mode]; exact invariant.resetting (by omega)
    | reset mode _ => exact mode
    | run last gone _ => omega
    | published mode _ quiet => rw [mode, invariant.resetting (by omega)]; rfl
  · intro bits
    simp only at bits ⊢
    cases stepped.mode with
    | kept mode errors _ => rw [mode]; exact invariant.errors_halt (errors bits)
    | reset _ errors => exact absurd errors bits
    | run last _ errors =>
      have halted := invariant.errors_halt (errors ▸ bits)
      have reset := invariant.resetting (by omega)
      simp [reset] at halted
    | published mode errors _ => rw [mode, invariant.errors_halt (errors ▸ bits)]; rfl

/-- A completion keeps a channel away from reset and halt; a halt stops a channel
that is not in reset. -/
theorem engine_step_mode {cfg : Config} {before after : RxShared} {event : EngineEvent}
    (stepped : engineStep cfg before event = some after) :
    (after.engine.mode = before.engine.mode ∧ after.engine.errors = before.engine.errors ∨
      before.engine.mode = .running ∧ after.engine.errors = before.engine.errors ∧
        (after.engine.mode = .idle ∨ after.engine.mode = .running) ∨
      (before.engine.mode = .running ∨ before.engine.mode = .idle) ∧
        after.engine.mode = .halted ∧ after.engine.errors ≠ 0#32) ∧
    after.irqEnabled = before.irqEnabled ∧ after.pollScheduled = before.pollScheduled ∧
    after.rxDirectRecoverPending = before.rxDirectRecoverPending ∧
    after.recoverQueued = before.recoverQueued := by
  cases engine_step_effect stepped with
  | complete status running finished =>
    refine ⟨.inr (.inl ⟨running, rfl, ?_⟩), rfl, rfl, rfl, rfl⟩
    simp only
    split
    · exact .inl rfl
    · exact .inr rfl
  | halt errors moving raised => exact ⟨.inr (.inr ⟨moving, rfl, raised⟩), rfl, rfl, rfl, rfl⟩
  | scribble index status => exact ⟨.inl ⟨rfl, rfl⟩, rfl, rfl, rfl, rfl⟩

/-- A move of the engine keeps the counting facts; it may halt the channel, and takes no part in
the software's flags. -/
theorem engine_recovery {cfg : Config} {before : RxSystem} {event : EngineEvent}
    {shared : RxShared} (invariant : RecoveryInvariant before)
    (stepped : engineStep cfg before.shared event = some shared) :
    RecoveryInvariant { before with shared := shared } := by
  obtain ⟨mode, line, due, pend, queued⟩ := engine_step_mode stepped
  obtain ⟨pending, one, early, resetting, errorsHalt⟩ := invariant
  refine ⟨by simpa [pend, queued] using pending, one, by simpa [line, due, pend] using early,
    ?_, ?_⟩
  · intro rebuilding
    have reset := resetting rebuilding
    rcases mode with ⟨same, -⟩ | ⟨running, -⟩ | ⟨active, -⟩
    · exact same.trans reset
    · simp [reset] at running
    · simp [reset] at active
  · intro bits
    rcases mode with ⟨same, errors⟩ | ⟨running, errors, -⟩ | ⟨-, halted, -⟩
    · exact same.trans (errorsHalt (errors ▸ bits))
    · have impossible := errorsHalt (errors ▸ bits)
      simp [running] at impossible
    · exact halted

/-- An entry keeps the counting facts: the pass that starts leaves the queue, and
the interrupt and the poll item wait for the start. -/
theorem entry_recovery {before : RxSystem} {label : RxLabel} {context : Nat}
    {shared : RxShared} {frames : List RxFrame} (invariant : RecoveryInvariant before)
    (entry : RxEntry before.shared label context shared frames)
    (idle : before.callStacks[context]? = some []) :
    RecoveryInvariant ⟨shared, before.callStacks.set context frames⟩ := by
  have passes : total RxFrame.pass (before.callStacks.set context frames) = _ :=
    total_enter RxFrame.pass idle
  have starts : total RxFrame.starting (before.callStacks.set context frames) = _ :=
    total_enter RxFrame.starting idle
  have earlies : total RxFrame.early (before.callStacks.set context frames) = _ :=
    total_enter RxFrame.early idle
  have servers : total RxFrame.serving (before.callStacks.set context frames) = _ :=
    total_enter RxFrame.serving idle
  have resets : total RxFrame.resetting (before.callStacks.set context frames) = _ :=
    total_enter RxFrame.resetting idle
  obtain ⟨pending, one, early, resetting, errorsHalt⟩ := invariant
  cases entry <;>
    simp only [List.map_cons, List.map_nil, List.sum_cons, List.sum_nil, RxFrame.pass,
      RxFrame.starting, RxFrame.early, RxFrame.serving, RxFrame.resetting, Nat.add_zero]
      at passes starts earlies servers resets <;>
    refine ⟨?_, by simp only; omega, ?_, ?_, errorsHalt⟩
  case interrupt.refine_2 enabled =>
    intro still
    have off := (early (earlies ▸ still)).1
    simp [enabled] at off
  case pollWork.refine_2 scheduled started =>
    intro still
    have off := (early (earlies ▸ still)).2.1
    simp [scheduled] at off
  case recoverWork.refine_1 queued =>
    simp only [queued, passes, Bool.toNat_true, Bool.toNat_false] at pending ⊢
    omega
  all_goals first
    | (simp only [passes]; exact pending)
    | (intro still; simp only [servers]; exact early (earlies ▸ still))
    | (intro still; exact resetting (resets ▸ still))

/-- Before the start nothing is queued, no pass runs and the channel is in reset. -/
theorem initial_recovery (cfg : Config) (extra : Nat) :
    RecoveryInvariant (rxInitial cfg extra) := by
  constructor <;> simp [rxInitial, total, RxFrame.pass, RxFrame.starting, RxFrame.serving]

/-- A pass that will still reset the channel is queued or running. -/
def Answered (system : RxSystem) : Prop :=
  system.shared.recoverQueued = true ∨ 0 < total RxFrame.beforeReset system.callStacks

/-- A halt whose error bits are acknowledged has a pass to come. -/
def HaltAnswered (system : RxSystem) : Prop :=
  system.shared.engine.mode = .halted → system.shared.engine.errors = 0#32 → Answered system

/-- The step in which the interrupt routine asks for a pass because the channel it
read is halted with an error. -/
def answersHalt (system : RxSystem) : RxLabel → Bool
  | .run context _ =>
      match system.callStacks[context]? with
      | some (.isr (.request dmasr) :: _) => dmasr.halted && dmasr.errors != 0#32
      | _ => false
  | _ => false

/-- Interrupts run to their end, and none of them answers a halt between the reset
of a pass and its end. -/
def AnsweredOutsidePass (system : RxSystem) (label : RxLabel) : Prop :=
  interruptFirst system label = true ∧
    (answersHalt system label = true →
      ∀ frame, Present system.callStacks frame → frame.pass = frame.beforeReset)

/-- An interrupt routine is alone on the interrupt's stack, since it does not call and is not
entered twice. -/
def IsrLocated (callStacks : List (List RxFrame)) : Prop :=
  ∀ (context : Nat) (stack : List RxFrame), callStacks[context]? = some stack →
    ∀ point, RxFrame.isr point ∈ stack → context = isrContext ∧ stack = [.isr point]

/-- What every state reached by a run under the condition satisfies: a halt that was read is
real, and one that was acknowledged is answered. -/
structure HaltInvariant (system : RxSystem) : Prop where
  recovery : RecoveryInvariant system
  located : IsrLocated system.callStacks
  read : ∀ dmasr, Present system.callStacks (.isr (.request dmasr)) → dmasr.errors ≠ 0#32 →
    dmasr.halted = true
  answered : ∀ dmasr, Present system.callStacks (.isr (.acknowledge dmasr)) →
    dmasr.errors ≠ 0#32 → Answered system
  halted : HaltAnswered system

/-- Only an interrupt routine is followed by one, and it alone: reading is followed by
requesting, and requesting by acknowledging. -/
theorem frame_step_isr {cfg : Config} {hooks : Hooks} {outcome : WorkerOutcome}
    {before after : RxShared} {frame : RxFrame} {frames : List RxFrame} {point : IsrPoint}
    (stepped : frameStep cfg hooks outcome before frame = some (after, frames))
    (member : RxFrame.isr point ∈ frames) :
    frames = [.isr point] ∧ ((frame = .isr .read ∧ point = .request before.engine.dmasr) ∨
      ∃ dmasr, frame = .isr (.request dmasr) ∧ point = .acknowledge dmasr) := by
  cases frame_step_effect stepped with
  | isr earlier =>
    cases earlier with
    | read =>
      obtain rfl := RxFrame.isr.inj (List.mem_singleton.mp member)
      exact ⟨rfl, .inl ⟨rfl, rfl⟩⟩
    | request dmasr =>
      obtain rfl := RxFrame.isr.inj (List.mem_singleton.mp member)
      exact ⟨rfl, .inr ⟨dmasr, rfl, rfl⟩⟩
    | acknowledge dmasr => simp [emzRxDirectIsr] at member
  | refillTail caller queued some_queued => cases caller <;> simp at member
  | arm caller point => cases point <;> cases caller <;> simp [emzRxDirectArm] at member
  | recover point =>
    cases point with
    | countFree orphans => cases orphans <;> simp [emzRxDirectRecover] at member
    | _ => simp [emzRxDirectRecover, refillEntry] at member
  | start point => cases point <;> simp [emzRxDirectStart] at member
  | _ => simp [refillEntry] at member

/-- An interrupt routine that stands somewhere is the only frame on the interrupt's stack. -/
theorem IsrLocated.alone {callStacks : List (List RxFrame)} {point : IsrPoint}
    (located : IsrLocated callStacks) (present : Present callStacks (.isr point)) :
    callStacks[isrContext]? = some [.isr point] := by
  obtain ⟨stack, member, inside⟩ := present
  obtain ⟨context, found⟩ := List.mem_iff_getElem?.mp member
  obtain ⟨rfl, rfl⟩ := located context stack found point inside
  exact found

/-- A frame step leaves interrupt routines where they belong. -/
theorem advance_located {cfg : Config} {hooks : Hooks} {outcome : WorkerOutcome}
    {before after : RxShared} {callStacks : List (List RxFrame)} {context : Nat} {frame : RxFrame}
    {below frames : List RxFrame} (located : IsrLocated callStacks)
    (found : callStacks[context]? = some (frame :: below))
    (stepped : frameStep cfg hooks outcome before frame = some (after, frames)) :
    IsrLocated (callStacks.set context (frames ++ below)) := by
  intro other stack inside point member
  by_cases same : context = other
  · subst same
    rw [List.getElem?_set_self (List.getElem?_eq_some_iff.mp found).1] at inside
    obtain rfl := Option.some.inj inside
    rcases List.mem_append.mp member with new | old
    · obtain ⟨alone, earlier⟩ := frame_step_isr stepped new
      have isr : ∃ earlier, frame = .isr earlier := by
        rcases earlier with ⟨same, -⟩ | ⟨_, same, -⟩ <;> exact ⟨_, same⟩
      obtain ⟨last, rfl⟩ := isr
      obtain ⟨here, only⟩ := located context _ found last List.mem_cons_self
      rw [(List.cons.inj only).2, alone]
      exact ⟨here, rfl⟩
    · obtain ⟨-, only⟩ := located context _ found point (List.mem_cons_of_mem _ old)
      rw [(List.cons.inj only).2] at old
      cases old
  · rw [List.getElem?_set_ne same] at inside
    exact located other stack inside point member

/-- A channel that is halted after a tail write was halted before it, with the same error bits. -/
theorem published_halted {engine : S2mm} {tail : Option Nat}
    (halted : (engine.publish tail).mode = .halted) :
    engine.mode = .halted ∧ (engine.publish tail).errors = engine.errors := by
  cases tail with
  | none => exact ⟨halted, rfl⟩
  | some index =>
    refine ⟨?_, rfl⟩
    simp only [S2mm.publish, S2mm.writeTaildesc] at halted
    split at halted
    · cases halted
    · exact halted

/-- What a step found that leaves the channel halted with no error bit: it was halted already,
its bits were gone or an interrupt acknowledges them, and no pass resets. -/
def FoundHalted (before : S2mm) (frame : RxFrame) (frames : List RxFrame) : Prop :=
  before.mode = .halted ∧ frame.beforeReset ≤ (frames.map RxFrame.beforeReset).sum ∧
    (before.errors = 0#32 ∨ ∃ dmasr, frame = .isr (.acknowledge dmasr) ∧ dmasr.errors ≠ 0#32)

section Halted

variable {cfg : Config} {hooks : Hooks} {outcome : WorkerOutcome} {before after : RxShared}
  {frame : RxFrame} {frames : List RxFrame}

/-- A step that leaves the channel alone found it as it is, and has not used up a reset. -/
theorem halted_unchanged (same : after.engine = before.engine)
    (weight : frame.beforeReset ≤ (frames.map RxFrame.beforeReset).sum)
    (halted : after.engine.mode = .halted) (clear : after.engine.errors = 0#32) :
    FoundHalted before.engine frame frames := by
  rw [same] at halted clear
  exact ⟨halted, weight, .inl clear⟩

/-- So did a tail write, which never halts a channel. -/
theorem halted_published {tail : Option Nat} (weight : frame.beforeReset = 0)
    (halted : (before.engine.publish tail).mode = .halted)
    (clear : (before.engine.publish tail).errors = 0#32) :
    FoundHalted before.engine frame frames := by
  obtain ⟨mode, errors⟩ := published_halted halted
  exact ⟨mode, weight ▸ Nat.zero_le _, .inl (errors ▸ clear)⟩

/-- An interrupt that acknowledges no bit found them gone, and one that clears bits is the answer
to the halt. -/
theorem halted_acknowledged (dmasr : Dmasr) (halted : before.engine.mode = .halted)
    (clear : (before.engine.acknowledge dmasr.errors).errors = 0#32) :
    FoundHalted before.engine (.isr (.acknowledge dmasr)) frames := by
  refine ⟨halted, Nat.zero_le _, ?_⟩
  by_cases bits : dmasr.errors = 0#32
  · have ones : ~~~(0#32) = BitVec.allOnes 32 := by decide
    have cleared : before.engine.errors &&& ~~~dmasr.errors = 0#32 := clear
    rw [bits, ones, BitVec.and_allOnes] at cleared
    exact .inl cleared
  · exact .inr ⟨dmasr, rfl, bits⟩

/-- An arm halts nothing: until its tail write the channel is in reset or runs. -/
theorem halted_arm {caller : ArmCaller} {point : ArmPoint}
    (resetting : 0 < (RxFrame.arm caller point).resetting → before.engine.mode = .reset)
    (halted : (emzRxDirectArm before caller point).1.engine.mode = .halted)
    (clear : (emzRxDirectArm before caller point).1.engine.errors = 0#32) :
    FoundHalted before.engine (.arm caller point) frames := by
  cases point with
  | reset => cases halted
  | clearDmasr => cases (resetting Nat.one_pos).symm.trans halted
  | curdesc => exact ⟨halted, Nat.zero_le _, .inl clear⟩
  | run => cases halted
  | tail => exact halted_published rfl halted clear

/-- Every step that leaves the channel halted with no error bit found it halted. -/
theorem halted_step (stepped : frameStep cfg hooks outcome before frame = some (after, frames))
    (resetting : 0 < frame.resetting → before.engine.mode = .reset)
    (halted : after.engine.mode = .halted) (clear : after.engine.errors = 0#32) :
    FoundHalted before.engine frame frames := by
  have requested : (emzRxDirectRequestRecover before).engine = before.engine := by
    obtain ⟨_, _, same⟩ := request_same before
    rw [same]
  cases frame_step_effect stepped with
  | refillTail caller queued some_queued => exact halted_published rfl halted clear
  | pollRequest completed => exact halted_unchanged requested (Nat.zero_le _) halted clear
  | arm caller point => exact halted_arm resetting halted clear
  | recover point =>
    cases point with
    | irqDisable => exact halted_unchanged rfl le_rfl halted clear
    | reset => cases halted
    | clearDmasr => cases (resetting Nat.one_pos).symm.trans halted
    | countFree orphans =>
      cases orphans <;> exact halted_unchanged rfl (Nat.zero_le _) halted clear
    | _ => exact halted_unchanged rfl (Nat.zero_le _) halted clear
  | isr point =>
    cases point with
    | read => exact halted_unchanged rfl (Nat.zero_le _) halted clear
    | request dmasr =>
      refine halted_unchanged ?_ (Nat.zero_le _) halted clear
      unfold emzRxDirectIsr
      dsimp only
      split
      · exact requested
      · rfl
    | acknowledge dmasr => exact halted_acknowledged dmasr halted clear
  | start point => cases point <;> exact halted_unchanged rfl (Nat.zero_le _) halted clear
  | _ => exact halted_unchanged rfl (Nat.zero_le _) halted clear

end Halted

/-- What was answered stays answered through a step that drops no pass before its
reset and does not empty the queue. -/
theorem Answered.kept {before after : RxSystem} (answered : Answered before)
    (queued : before.shared.recoverQueued = true → after.shared.recoverQueued = true)
    (passes : total RxFrame.beforeReset before.callStacks ≤
      total RxFrame.beforeReset after.callStacks) : Answered after :=
  answered.imp queued (fun some_pass => some_pass.trans_le passes)

/-- A request that is not swallowed is answered: it queues a pass, or finds one
queued or before its reset. -/
theorem request_answered {system : RxSystem} (recovery : RecoveryInvariant system)
    (outside : ∀ frame, Present system.callStacks frame → frame.pass = frame.beforeReset) :
    (emzRxDirectRequestRecover system.shared).recoverQueued = true ∨
      0 < total RxFrame.beforeReset system.callStacks := by
  have pending := recovery.pending
  have same : total RxFrame.pass system.callStacks = total RxFrame.beforeReset system.callStacks :=
    total_congr outside
  unfold emzRxDirectRequestRecover
  by_cases set : system.shared.rxDirectRecoverPending = true
  · rw [if_pos set]
    rw [set, same] at pending
    by_cases queued : system.shared.recoverQueued = true
    · exact .inl queued
    · right
      simp only [queued, Bool.toNat_true, Bool.toNat_false] at pending
      omega
  · rw [if_neg set]
    exact .inl rfl

/-- After an interrupt's request its halt is answered: a pass is queued, or one is running that
has its reset before it, by the condition. -/
theorem request_step_answered {cfg : Config} {hooks : Hooks} {outcome : WorkerOutcome}
    {before : RxSystem} {context : Nat} {dmasr : Dmasr} {below frames : List RxFrame}
    {shared : RxShared} (invariant : HaltInvariant before)
    (admits : AnsweredOutsidePass before (.run context outcome))
    (found : before.callStacks[context]? = some (.isr (.request dmasr) :: below))
    (stepped : frameStep cfg hooks outcome before.shared (.isr (.request dmasr)) =
      some (shared, frames)) (bits : dmasr.errors ≠ 0#32) :
    Answered ⟨shared, before.callStacks.set context (frames ++ below)⟩ := by
  have halted := invariant.read dmasr (present_top found) bits
  have answers : answersHalt before (.run context outcome) = true := by
    simp [answersHalt, found, halted, bits]
  have answered := request_answered invariant.recovery (admits.2 answers)
  have kept : total RxFrame.beforeReset (before.callStacks.set context (frames ++ below)) +
      RxFrame.beforeReset (.isr (.request dmasr)) = _ := total_advance RxFrame.beforeReset found
  simp only [frameStep, emzRxDirectIsr, halted, bits, bne_iff_ne, ne_eq, not_false_eq_true,
    Bool.and_true, if_true, Option.some.injEq, Prod.mk.injEq] at stepped
  obtain ⟨rfl, rfl⟩ := stepped
  have same : total RxFrame.beforeReset (before.callStacks.set context
      ([RxFrame.isr (.acknowledge dmasr)] ++ below)) =
        total RxFrame.beforeReset before.callStacks := kept
  exact answered.imp id (fun some_pass => same ▸ some_pass)

/-- An interrupt about to acknowledge cannot be overtaken: only its own stack runs,
and its next step ends it. -/
theorem acknowledge_last {cfg : Config} {hooks : Hooks} {outcome : WorkerOutcome}
    {before : RxSystem} {context : Nat} {frame : RxFrame} {below frames : List RxFrame}
    {shared : RxShared} {dmasr : Dmasr} (invariant : HaltInvariant before)
    (first : interruptFirst before (.run context outcome) = true)
    (found : before.callStacks[context]? = some (frame :: below))
    (stepped : frameStep cfg hooks outcome before.shared frame = some (shared, frames))
    (present : Present before.callStacks (.isr (.acknowledge dmasr))) :
    ¬ Present (before.callStacks.set context (frames ++ below)) (.isr (.acknowledge dmasr)) := by
  intro still
  have alone := invariant.located.alone present
  have after := (advance_located invariant.located found stepped).alone still
  have here : context = isrContext := by
    rcases Bool.or_eq_true_iff.mp first with same | empty
    · exact beq_iff_eq.mp same
    · simp [alone] at empty
  subst here
  obtain ⟨rfl, rfl⟩ := List.cons.inj (Option.some.inj (found.symm.trans alone))
  obtain ⟨rfl, rfl⟩ := stepped
  rw [List.getElem?_set_self (List.getElem?_eq_some_iff.mp found).1] at after
  cases after

/-- A frame step that the condition admits keeps every acknowledged halt answered. -/
theorem advance_halt {cfg : Config} {hooks : Hooks} {outcome : WorkerOutcome}
    {before : RxSystem} {context : Nat} {frame : RxFrame} {below frames : List RxFrame}
    {shared : RxShared} (invariant : HaltInvariant before)
    (admits : AnsweredOutsidePass before (.run context outcome))
    (found : before.callStacks[context]? = some (frame :: below))
    (stepped : frameStep cfg hooks outcome before.shared frame = some (shared, frames)) :
    HaltInvariant ⟨shared, before.callStacks.set context (frames ++ below)⟩ := by
  have effect := frame_step_recovery stepped
  refine ⟨advance_recovery invariant.recovery found effect,
    advance_located invariant.located found stepped, ?_, ?_, ?_⟩
  · intro dmasr present bits
    rcases present_advance found present with new | old
    · obtain ⟨-, ⟨-, same⟩ | ⟨_, -, impossible⟩⟩ := frame_step_isr stepped new
      · obtain rfl := IsrPoint.request.inj same
        have halted := invariant.recovery.errors_halt bits
        simp [S2mm.dmasr, halted]
      · cases impossible
    · exact invariant.read dmasr old bits
  · intro dmasr present bits
    rcases present_advance found present with new | old
    · obtain ⟨-, ⟨-, impossible⟩ | ⟨_, rfl, same⟩⟩ := frame_step_isr stepped new
      · cases impossible
      · obtain rfl := IsrPoint.acknowledge.inj same
        exact request_step_answered invariant admits found stepped bits
    · exact absurd present (acknowledge_last invariant admits.1 found stepped old)
  · intro halted clear
    have resetting : 0 < frame.resetting → before.shared.engine.mode = .reset := by
      intro here
      exact invariant.recovery.resetting
        (here.trans_le (weight_le_total RxFrame.resetting (present_top found)))
    obtain ⟨was, passes, bits⟩ := halted_step stepped resetting halted clear
    have answered : Answered before := by
      rcases bits with gone | ⟨dmasr, rfl, bits⟩
      · exact invariant.halted was gone
      · exact invariant.answered dmasr (present_top found) bits
    have kept : total RxFrame.beforeReset (before.callStacks.set context (frames ++ below)) +
        frame.beforeReset = _ := total_advance RxFrame.beforeReset found
    refine answered.kept ?_ (by simp only; omega)
    intro queued
    cases effect.request with
    | kept _ same _ => exact same.trans queued
    | requested _ _ _ _ now => exact now
    | cleared _ _ _ same => exact same.trans queued

/-- The engine cannot halt without raising error bits, so a halt of its own is not an
acknowledged one. -/
theorem engine_halt {cfg : Config} {before : RxSystem} {event : EngineEvent} {shared : RxShared}
    (invariant : HaltInvariant before)
    (stepped : engineStep cfg before.shared event = some shared) :
    HaltInvariant { before with shared := shared } := by
  obtain ⟨mode, -, -, -, queued⟩ := engine_step_mode stepped
  have still (answered : Answered before) : Answered { before with shared := shared } :=
    answered.imp (fun was => queued.trans was) id
  refine ⟨engine_recovery invariant.recovery stepped, invariant.located, invariant.read,
    fun dmasr present bits => still (invariant.answered dmasr present bits), ?_⟩
  intro halted clear
  simp only at halted clear
  rcases mode with ⟨same, errors⟩ | ⟨-, -, idle | running⟩ | ⟨-, -, bits⟩
  · exact still (invariant.halted (same ▸ halted) (errors ▸ clear))
  · simp [halted] at idle
  · simp [halted] at running
  · exact absurd clear bits

/-- An entry keeps every acknowledged halt answered: the pass that leaves the queue
has its reset ahead. -/
theorem entry_halt {before : RxSystem} {label : RxLabel} {context : Nat}
    {shared : RxShared} {frames : List RxFrame} (invariant : HaltInvariant before)
    (entry : RxEntry before.shared label context shared frames)
    (idle : before.callStacks[context]? = some []) :
    HaltInvariant ⟨shared, before.callStacks.set context frames⟩ := by
  have passes : total RxFrame.beforeReset (before.callStacks.set context frames) = _ :=
    total_enter RxFrame.beforeReset idle
  have still (answered : Answered before) :
      Answered ⟨shared, before.callStacks.set context frames⟩ := by
    cases entry with
    | recoverWork queued => exact .inr (by simp [passes, RxFrame.beforeReset])
    | _ => exact answered.kept id (by simp only; omega)
  have older : ∀ point, point ≠ .read →
      Present (before.callStacks.set context frames) (.isr point) →
      Present before.callStacks (.isr point) := by
    intro point later present
    rcases present_set present with new | old
    · cases entry <;> simp_all
    · exact old
  have engine : shared.engine = before.shared.engine := by cases entry <;> rfl
  refine ⟨entry_recovery invariant.recovery entry idle, ?_, ?_, ?_, ?_⟩
  · intro other stack inside point member
    by_cases same : context = other
    · subst same
      rw [List.getElem?_set_self (List.getElem?_eq_some_iff.mp idle).1] at inside
      obtain rfl := Option.some.inj inside
      cases entry <;> simp_all
    · rw [List.getElem?_set_ne same] at inside
      exact invariant.located other stack inside point member
  · intro dmasr present bits
    exact invariant.read dmasr (older _ (by simp) present) bits
  · intro dmasr present bits
    exact still (invariant.answered dmasr (older _ (by simp) present) bits)
  · intro halted clear
    exact still (invariant.halted (engine ▸ halted) (engine ▸ clear))

/-- Every admitted step keeps every acknowledged halt answered, whoever takes it. -/
theorem rx_step_halt {cfg : Config} {hooks : Hooks} {before after : RxSystem} {label : RxLabel}
    (invariant : HaltInvariant before) (admits : AnsweredOutsidePass before label)
    (taken : rxStep cfg hooks before label = some after) : HaltInvariant after := by
  rcases rx_step_cases taken with
    ⟨context, outcome, frame, below, shared, frames, rfl, found, stepped, rfl⟩ |
    ⟨context, shared, frames, entry, idle, rfl⟩ | ⟨event, shared, -, stepped, rfl⟩
  · exact advance_halt invariant admits found stepped
  · exact entry_halt invariant entry idle
  · exact engine_halt invariant stepped

/-- At the start the channel is in reset and no interrupt routine runs, so there is no halt to
answer. -/
theorem initial_halt (cfg : Config) (extra : Nat) : HaltInvariant (rxInitial cfg extra) := by
  have none : ∀ point, ¬ Present (rxInitial cfg extra).callStacks (.isr point) := by
    intro point present
    rcases initial_present present with impossible | impossible <;> cases impossible
  refine ⟨initial_recovery cfg extra, ?_, fun _ present => absurd present (none _),
    fun _ present => absurd present (none _), fun halted => nomatch halted⟩
  intro context stack found point member
  exact absurd ⟨stack, List.mem_of_getElem? found, member⟩ (none point)

/-- In every run whose interrupts answer no halt between a pass's reset and its end, a channel
halted with its bits acknowledged has a pass queued, or running and before its reset.

Proof: the invariant adds that a halt read by the interrupt routine is real and answered once it
is acknowledged. Its request queues a pass or finds one queued or before its reset, as the
condition excludes the passes behind it. -/
theorem acknowledged_halt_answered (cfg : Config) (hooks : Hooks) (extra : Nat)
    (system : RxSystem)
    (run : Run (rxStep cfg hooks) AnsweredOutsidePass (rxInitial cfg extra) system) :
    HaltAnswered system :=
  (run.invariant HaltInvariant (initial_halt cfg extra)
    (fun _ _ _ invariant admits taken => rx_step_halt invariant admits taken)).halted

/-- The condition is decided on the frames that are present, so that a schedule can be checked by
evaluation. -/
instance (system : RxSystem) (label : RxLabel) : Decidable (AnsweredOutsidePass system label) :=
  inferInstanceAs (Decidable (_ ∧ (_ → ∀ frame, Present system.callStacks frame → _)))

/-- The engine stops on a decode error of its bus. -/
def haltEngine : RxLabel := .engine (.halt 0x40#32)

/-- From the start of the ring to a halt that the interrupt has acknowledged, with no pass under
way. -/
def haltSchedule : List RxLabel :=
  steps 20 initContext .accepted ++ [haltEngine, .interrupt] ++ steps 5 isrContext .accepted

/-- The theorem over that schedule: the first halt is answered, and its pass is queued. -/
theorem acknowledged_halt_answered_first :
    ∃ system, Run (rxStep twoBufferConfig deliverAll) AnsweredOutsidePass
        (rxInitial twoBufferConfig 0) system ∧
      system.shared.engine.mode = .halted ∧ Answered system := by
  obtain ⟨system, run, reached⟩ := run_of_execution (rxStep twoBufferConfig deliverAll)
    (fun system label => decide (AnsweredOutsidePass system label)) (rxInitial twoBufferConfig 0)
    haltSchedule (fun system => decide (system.shared.engine.mode = .halted ∧
      system.shared.engine.errors = 0#32))
    (fun _ _ admits => of_decide_eq_true admits) (by decide +kernel)
  obtain ⟨halted, clear⟩ := of_decide_eq_true reached
  exact ⟨system, run, halted,
    acknowledged_halt_answered twoBufferConfig deliverAll 0 system run halted clear⟩

/-- A second halt after the pass has enabled the line and before it clears the flag
is acknowledged and lost. -/
theorem acknowledged_halt_lost :
    ¬ ∀ (cfg : Config) (hooks : Hooks) (extra : Nat) (system : RxSystem),
      Run (rxStep cfg hooks) (fun system label => interruptFirst system label = true)
        (rxInitial cfg extra) system → HaltAnswered system := by
  intro claimed
  obtain ⟨system, run, reached⟩ := run_of_execution (rxStep twoBufferConfig deliverAll)
    interruptFirst (rxInitial twoBufferConfig 0)
    (haltSchedule ++ [.recoverWork] ++ steps 28 workqContext .accepted ++
      [haltEngine, .interrupt] ++ steps 5 isrContext .accepted)
    (fun system => decide (system.shared.engine.mode = .halted ∧
      system.shared.engine.errors = 0#32 ∧ system.shared.recoverQueued = false ∧
      total RxFrame.beforeReset system.callStacks = 0))
    (fun _ _ admits => admits) (by decide +kernel)
  obtain ⟨halted, clear, unqueued, none⟩ := of_decide_eq_true reached
  rcases claimed twoBufferConfig deliverAll 0 system run halted clear with queued | some_pass
  · simp [unqueued] at queued
  · omega

end EmaczZephyr.Driver
