import EmaczZephyr.Driver.TxFidelity
import EmaczZephyr.Foundation.DescriptorRing

/-!
# The transmit ring

The descriptors that are posted and not reclaimed are the window of the ring that the
indices and `tx_bd_inflight` describe, whatever calls are made and however the engine
finishes descriptors, with success or with an error. The transmission counters account
for the window, the engine is never sent outside of it, and a call that fails leaves the
ring as it found it, but for the descriptors it reclaimed.

The state is that of the sends, with the statistics that count descriptors and a record of
what the call that holds the lock has found.
-/

namespace EmaczZephyr.Driver

open Runs DescriptorRing

/-- The engine processes its next descriptor without completing it: it writes an error
status and goes on. -/
def mm2sFail (system : TxSystem) (status : BitVec 32) : Option TxSystem :=
  if system.engine.running = true ∧ status &&& bdStatusComplete = 0#32 ∧
      status &&& bdStatusErrorMask ≠ 0#32 then
    let index := system.engine.curdesc
    some { system with
      txBdRing := Function.update system.txBdRing index
        { system.txBdRing index with status := status }
      engine := { system.engine with
        curdesc := (index + 1) % txBufferCount
        running := system.engine.taildesc != index }
      burstLeft := system.burstLeft - 1 }
  else none

/-- The engine processes its next descriptor, with a frame that goes out or with an error. -/
def mm2sProcess (system : TxSystem) (status : BitVec 32) : Option TxSystem :=
  if status &&& bdStatusComplete = 0#32 then mm2sFail system status else mm2sTake system status

/-- The sends, the counters of the statistics block, and the history of the call that
holds the lock: the populated index and the ring it found, as the engine has changed it
since, and the descriptors it has reclaimed. -/
structure TxAudit where
  system : TxSystem
  txDmaStartOk : BitVec 64
  txDmaCompleted : BitVec 64
  txDmaError : BitVec 64
  foundPopulated : Nat
  foundRing : Nat → TxBd
  reclaimed : List Nat

/-- The counters and the history at a step of the call that holds the lock. -/
def TxAudit.account (audit : TxAudit) (next : TxSystem) : TxPoint → TxAudit
  | .reclaim _ =>
      match emzTxDirectReclaim audit.system with
      | some _ =>
          let index := audit.system.txCompletedBufferIndex
          if (audit.system.txBdRing index).status &&& bdStatusErrorMask ≠ 0#32 then
            { audit with
              system := next
              txDmaError := audit.txDmaError + 1
              reclaimed := index :: audit.reclaimed }
          else
            { audit with
              system := next
              txDmaCompleted := audit.txDmaCompleted + 1
              reclaimed := index :: audit.reclaimed }
      | none => { audit with system := next }
  | .account _ => { audit with system := next, txDmaStartOk := audit.txDmaStartOk + 1 }
  | .burstReturn queued =>
      { audit with
        system := next
        txDmaStartOk := audit.txDmaStartOk + BitVec.ofNat 64 queued }
  | _ => { audit with system := next }

/-- One step of the transmit path, with the audit of the descriptors that it posts and reclaims. -/
def txAuditStep (cfg : TxConfig) (audit : TxAudit) : TxLabel → Option TxAudit
  | .call call =>
      match call.early cfg with
      | some result => some { audit with
          system := { audit.system with log := audit.system.log ++ [(call, result)] } }
      | none =>
          if audit.system.current = none then
            some { audit with
              system := audit.system.proceed call (.reclaim 0)
              foundPopulated := audit.system.txPopulatedBufferIndex
              foundRing := audit.system.txBdRing
              reclaimed := [] }
          else none
  | .advance =>
      match audit.system.current with
      | some (call, point) => some (audit.account (txAdvance cfg audit.system call point) point)
      | none => none
  | .engine status =>
      let index := audit.system.engine.curdesc
      (mm2sProcess audit.system status).map fun next =>
        { audit with
          system := next
          foundRing := Function.update audit.foundRing index
            { audit.foundRing index with status := status } }

/-- The state that `emz_tx_direct_start` leaves, with any counters that balance. -/
def txAuditInitial (memory : BitVec 32 → EthFrame) (completed error : BitVec 64) : TxAudit where
  system := txInitial memory
  txDmaStartOk := completed + error
  txDmaCompleted := completed
  txDmaError := error
  foundPopulated := 0
  foundRing := fun _ => ⟨0#32, 0#32, 0#32⟩
  reclaimed := []

/-- The descriptor is posted and not reclaimed, which its control word tells. -/
def TxBd.Posted (bd : TxBd) : Prop := bd.control ≠ 0#32

/-- The engine has processed the descriptor since it was posted. -/
def TxBd.Processed (bd : TxBd) : Prop := bdFinished bd.status = true

/-- The value that the next step of the lock's holder writes to `TAILDESC`, if it does. -/
def tailWrite : Option (TxCall × TxPoint) → Option Nat
  | some (_, .tail descriptor) => some descriptor
  | some (.emaczeroProfileSendRawFrameBurst _ count, .burst _ last queued) =>
      if queued < min count txBufferCount then none else some last
  | _ => none

/-- The descriptors that are posted: the ones in flight, and one more while a send has
programmed a descriptor that it has not counted yet. -/
def TxSystem.postedCount (system : TxSystem) : Nat :=
  system.txBdInflight + uncounted system.current

/-- What is to hold of the ring at any time: indices, counter and phases fit together, and every
descriptor is reclaimed once after it was processed. -/
structure TxRingCorrect (cfg : TxConfig) (audit : TxAudit) : Prop where
  populated : audit.system.txPopulatedBufferIndex =
    (audit.system.txCompletedBufferIndex + audit.system.txBdInflight) % txBufferCount
  fits : audit.system.txBdInflight ≤ txBufferCount
  /-- The posted descriptors are the window. -/
  window : ∀ index, index < txBufferCount →
    ((audit.system.txBdRing index).Posted ↔ Window.Member txBufferCount
      audit.system.txCompletedBufferIndex audit.system.postedCount index)
  /-- The tail register changes only by such a write, and every write names the newest
  posted descriptor, which the engine has not processed. -/
  tail : ∀ next, txAuditStep cfg audit .advance = some next →
    next.system.engine = (tailWrite audit.system.current).elim audit.system.engine
      audit.system.engine.writeTaildesc
  newest : ∀ descriptor, tailWrite audit.system.current = some descriptor →
    0 < audit.system.postedCount ∧
      descriptor = Window.slot txBufferCount audit.system.txCompletedBufferIndex
        (audit.system.postedCount - 1) ∧
      (audit.system.txBdRing descriptor).Posted ∧ ¬ (audit.system.txBdRing descriptor).Processed
  /-- The engine processes only descriptors of the window, each once. -/
  fetches : audit.system.engine.running = true →
    Window.Member txBufferCount audit.system.txCompletedBufferIndex audit.system.postedCount
        audit.system.engine.curdesc ∧
      (audit.system.txBdRing audit.system.engine.curdesc).Posted ∧
      ¬ (audit.system.txBdRing audit.system.engine.curdesc).Processed
  /-- Reclaiming takes the oldest descriptor in flight when the engine has processed it, and
  stops otherwise. -/
  reclaims : (∀ next, emzTxDirectReclaim audit.system = some next →
      0 < audit.system.txBdInflight ∧
        (audit.system.txBdRing audit.system.txCompletedBufferIndex).Posted ∧
        (audit.system.txBdRing audit.system.txCompletedBufferIndex).Processed) ∧
    (emzTxDirectReclaim audit.system = none → audit.system.txBdInflight = 0 ∨
      ¬ (audit.system.txBdRing audit.system.txCompletedBufferIndex).Processed)
  /-- The counters account for what is in flight. -/
  counters : audit.system.current = none →
    audit.txDmaStartOk - audit.txDmaCompleted - audit.txDmaError =
      BitVec.ofNat 64 audit.system.txBdInflight
  /-- A call that fails before it takes the lock leaves the ring. -/
  refused_early : ∀ call result next, call.early cfg = some result →
    txAuditStep cfg audit (.call call) = some next →
      next.system.txPopulatedBufferIndex = audit.system.txPopulatedBufferIndex ∧
        next.system.txBdRing = audit.system.txBdRing
  /-- One that fails later leaves the populated index, and every descriptor that it has not
  reclaimed as the engine left it. -/
  refused : ∀ call result next, txAuditStep cfg audit .advance = some next →
    next.system.log = audit.system.log ++ [(call, result)] → result < 0 →
      next.system.txPopulatedBufferIndex = audit.foundPopulated ∧
        ∀ index, index ∉ audit.reclaimed → next.system.txBdRing index = audit.foundRing index

/-- The phase of a descriptor: free, finished, or waiting for the engine. -/
def TxBd.phase (bd : TxBd) : Phase :=
  if bd.control = 0#32 then .free else if bdFinished bd.status then .finished else .waiting

/-- A descriptor is not free exactly if it is posted. -/
theorem TxBd.phase_ne_free {bd : TxBd} : bd.phase ≠ .free ↔ bd.Posted := by
  unfold TxBd.phase TxBd.Posted
  by_cases control : bd.control = 0#32
  · simp [control]
  · cases finished : bdFinished bd.status <;> simp [control]

/-- A descriptor waits exactly if it is posted and not processed. -/
theorem TxBd.phase_waiting {bd : TxBd} : bd.phase = .waiting ↔ bd.Posted ∧ ¬ bd.Processed := by
  unfold TxBd.phase TxBd.Posted TxBd.Processed
  by_cases control : bd.control = 0#32
  · simp [control]
  · cases finished : bdFinished bd.status <;> simp [control]

/-- A descriptor is finished exactly if it is posted and processed. -/
theorem TxBd.phase_finished {bd : TxBd} : bd.phase = .finished ↔ bd.Posted ∧ bd.Processed := by
  unfold TxBd.phase TxBd.Posted TxBd.Processed
  by_cases control : bd.control = 0#32
  · simp [control]
  · cases finished : bdFinished bd.status <;> simp [control]

/-- The phases of a ring, slot by slot. -/
def ringPhase (ring : Nat → TxBd) (index : Nat) : Phase := (ring index).phase

/-- Writing a descriptor changes the phase of its own slot and no other, so each step is one
update of the phases. -/
theorem ring_phase_update (ring : Nat → TxBd) (index : Nat) (bd : TxBd) :
    ringPhase (Function.update ring index bd) =
      Function.update (ringPhase ring) index bd.phase := by
  funext other
  by_cases same : other = index
  · simp [ringPhase, same]
  · simp [ringPhase, Function.update_of_ne same]

/-- The control word of a posted descriptor marks a whole frame, so it is never zero. -/
theorem control_posted (length : BitVec 32) :
    bdCtrlSof ||| bdCtrlEof ||| (length &&& bdCtrlLenMask) ≠ 0#32 := by
  intro zero
  have marks := (BitVec.or_eq_zero_iff.mp zero).1
  exact absurd marks (by decide)

/-- What a call knows of the ring at its program point, the part of its facts that is not about
frames. -/
def RingPoint (system : TxSystem) (call : TxCall) : TxPoint → Prop
  | .fill descriptor => descriptor = system.txPopulatedBufferIndex ∧
      system.txBdInflight < txBufferCount ∧ call.waits system.txBdInflight = false
  | .setup => system.txBdInflight < txBufferCount
  | .tail descriptor | .account descriptor => descriptor = system.txPopulatedBufferIndex
  | .burst _ last queued => ∃ frame count,
      call = .emaczeroProfileSendRawFrameBurst frame count ∧ 0 < count ∧
      queued ≤ min count txBufferCount ∧ system.txBdInflight = queued ∧
      (0 < queued → last =
        Window.slot txBufferCount system.txCompletedBufferIndex (queued - 1))
  | _ => True

/-- The posted descriptors form a window, whose first `done` are processed, whose next
`waiting` are published, and whose last ones the call in progress will publish. -/
structure TxRingWindow (cfg : TxConfig) (system : TxSystem) (done waiting : Nat) : Prop where
  layout : Layout txBufferCount system.txCompletedBufferIndex done system.postedCount
    (ringPhase system.txBdRing)
  populated : system.txPopulatedBufferIndex =
    Window.slot txBufferCount system.txCompletedBufferIndex system.txBdInflight
  whole : done + waiting + (unpublished system.current).length = system.postedCount
  here : system.engine.curdesc = Window.slot txBufferCount system.txCompletedBufferIndex done
  running : system.engine.running = decide (0 < waiting)
  tail : 0 < waiting → system.engine.taildesc =
    Window.slot txBufferCount system.txCompletedBufferIndex (done + waiting - 1)
  valid : ∀ call point, system.current = some (call, point) →
    call.early cfg = none ∧ RingPoint system call point

section Steps

variable {cfg : TxConfig} {system : TxSystem} {done waiting : Nat}

/-- The initial ring is an empty window with nothing processed and nothing waiting. -/
theorem initial_ring (memory : BitVec 32 → EthFrame) :
    TxRingWindow cfg (txInitial memory) 0 0 where
  layout := layout_empty tx_count_positive
  populated := (Window.slot_zero tx_count_positive).symm
  whole := rfl
  here := (Window.slot_zero tx_count_positive).symm
  running := rfl
  tail positive := absurd positive (Nat.lt_irrefl 0)
  valid _ _ current := by cases current

/-- What processing a descriptor changes: its status word, the engine's position, and whether the
engine runs on. -/
theorem process_cases {status : BitVec 32} {next : TxSystem}
    (processed : mm2sProcess system status = some next) :
    system.engine.running = true ∧ bdFinished status = true ∧ ∃ emitted left, next = { system with
      txBdRing := Function.update system.txBdRing system.engine.curdesc
        { system.txBdRing system.engine.curdesc with status := status }
      engine := { system.engine with
        curdesc := (system.engine.curdesc + 1) % txBufferCount
        running := system.engine.taildesc != system.engine.curdesc }
      emitted := emitted
      burstLeft := left } := by
  unfold mm2sProcess at processed
  split at processed
  · unfold mm2sFail at processed
    split at processed
    · rename_i works
      obtain rfl := Option.some.inj processed
      refine ⟨works.1, ?_, _, _, rfl⟩
      have error := works.2.2
      refine bne_iff_ne.mpr fun zero => error ?_
      have part : bdStatusErrorMask =
          (bdStatusComplete ||| bdStatusErrorMask) &&& bdStatusErrorMask := by decide
      rw [part, ← BitVec.and_assoc, zero]
      decide
    · cases processed
  · unfold mm2sTake at processed
    split at processed
    · rename_i works
      obtain rfl := Option.some.inj processed
      exact ⟨works.1, complete_finished works.2, _, _, rfl⟩
    · cases processed

/-- In the loop of a burst no descriptor is published and none processed. -/
theorem TxRingWindow.burst_empty (window : TxRingWindow cfg system done waiting) {call : TxCall}
    {first last queued : Nat} (looping : system.current = some (call, .burst first last queued)) :
    done = 0 ∧ waiting = 0 := by
  obtain ⟨-, frame, count, -, -, -, inflight, -⟩ := window.valid _ _ looping
  have whole := window.whole
  simp only [TxSystem.postedCount, looping, unpublished, uncounted, List.length_replicate] at whole
  omega

/-- The engine processes the first descriptor that waits: one more is processed, and one less
waits. -/
theorem process_window {status : BitVec 32} {next : TxSystem}
    (window : TxRingWindow cfg system done waiting)
    (processed : mm2sProcess system status = some next) :
    TxRingWindow cfg next (done + 1) (waiting - 1) := by
  obtain ⟨running, finished, emitted, left, rfl⟩ := process_cases processed
  have positive : 0 < waiting := of_decide_eq_true (window.running.symm.trans running)
  have whole := window.whole
  have fits := window.layout.fits
  have inside : done < system.postedCount := by omega
  have near : done < txBufferCount := by omega
  have phase : (system.txBdRing system.engine.curdesc).phase = .waiting := by
    have waits := window.layout.phases done near
    rw [← window.here, expected, if_neg (Nat.lt_irrefl _), if_pos inside] at waits
    exact waits
  have after : TxBd.phase { system.txBdRing system.engine.curdesc with status := status } =
      .finished :=
    TxBd.phase_finished.mpr ⟨(TxBd.phase_waiting.mp phase).1, finished⟩
  have layout := window.layout.finish inside
  have moved : done + 1 + (waiting - 1) + (unpublished system.current).length =
      system.postedCount := by omega
  refine ⟨?_, window.populated, moved, ?_, ?_, ?_, ?_⟩
  · rw [← window.here, ← after] at layout
    simp only [ring_phase_update]
    exact layout
  · simp only [window.here, Window.slot_succ]
  · simp only [window.here, window.tail positive]
    by_cases last : waiting = 1
    · simp [last]
    · have differs : Window.slot txBufferCount system.txCompletedBufferIndex
          (done + waiting - 1) ≠ Window.slot txBufferCount system.txCompletedBufferIndex done :=
        Window.slot_ne window.layout.first_inside (by omega) near (by omega)
      simp only [bne_iff_ne.mpr differs]
      exact (decide_eq_true (by omega)).symm
  · intro more
    simp only [window.tail positive]
    congr 1
    omega
  · intro call point current
    obtain ⟨valid, facts⟩ := window.valid call point current
    refine ⟨valid, ?_⟩
    cases point <;> exact facts

/-- Two states with the same ring, the same indices and the same engine. -/
structure SameRing (before after : TxSystem) : Prop where
  ring : after.txBdRing = before.txBdRing
  populated : after.txPopulatedBufferIndex = before.txPopulatedBufferIndex
  completed : after.txCompletedBufferIndex = before.txCompletedBufferIndex
  inflight : after.txBdInflight = before.txBdInflight
  engine : after.engine = before.engine

/-- The window depends on the ring, its indices and the engine, and on what the call in
progress has still to count and to publish. -/
theorem TxRingWindow.carry (window : TxRingWindow cfg system done waiting) {next : TxSystem}
    (same : SameRing system next)
    (unpublishes : (unpublished next.current).length = (unpublished system.current).length)
    (counts : uncounted next.current = uncounted system.current)
    (valid : ∀ call point, next.current = some (call, point) →
      call.early cfg = none ∧ RingPoint next call point) :
    TxRingWindow cfg next done waiting := by
  obtain ⟨ring, populated, completed, inflight, engine⟩ := same
  have posted : next.postedCount = system.postedCount := by
    rw [TxSystem.postedCount, TxSystem.postedCount, inflight, counts]
  refine ⟨?_, ?_, ?_, ?_, ?_, ?_, valid⟩
  · rw [ring, completed, posted]
    exact window.layout
  · rw [populated, completed, inflight]
    exact window.populated
  · rw [unpublishes, posted]
    exact window.whole
  · rw [engine, completed]
    exact window.here
  · rw [engine]
    exact window.running
  · rw [engine, completed]
    exact window.tail

/-- The call in progress has nothing to count or to publish. -/
def Silent (current : Option (TxCall × TxPoint)) : Prop :=
  (unpublished current).length = 0 ∧ uncounted current = 0

/-- A call goes on that has nothing to count or to publish, before and after. -/
theorem TxRingWindow.proceed (window : TxRingWindow cfg system done waiting) {next : TxSystem}
    {call : TxCall} {point : TxPoint} (same : SameRing system next)
    (silent : Silent system.current) (current : next.current = some (call, point))
    (stays : Silent (some (call, point)))
    (valid : call.early cfg = none ∧ RingPoint next call point) :
    TxRingWindow cfg next done waiting := by
  apply window.carry same
  · rw [current, stays.1, silent.1]
  · rw [current, stays.2, silent.2]
  · exact only_current current valid

/-- A call returns that has nothing to count or to publish, and the window stays as it is. -/
theorem TxRingWindow.leave (window : TxRingWindow cfg system done waiting) {next : TxSystem}
    (same : SameRing system next) (silent : Silent system.current) (free : next.current = none) :
    TxRingWindow cfg next done waiting := by
  apply window.carry same
  · rw [free, silent.1]
    rfl
  · rw [free, silent.2]
    rfl
  · intro call point current
    rw [free] at current
    cases current

/-- What one iteration of the reclaim loop does: the oldest descriptor was finished, is cleared,
and leaves the window. -/
theorem reclaim_cases {next : TxSystem} (reclaimed : emzTxDirectReclaim system = some next) :
    0 < system.txBdInflight ∧
      bdFinished (system.txBdRing system.txCompletedBufferIndex).status = true ∧
      next = { system with
        txBdRing := Function.update system.txBdRing system.txCompletedBufferIndex
          { system.txBdRing system.txCompletedBufferIndex with control := 0#32, status := 0#32 }
        txCompletedBufferIndex := (system.txCompletedBufferIndex + 1) % txBufferCount
        txBdInflight := system.txBdInflight - 1 } := by
  unfold emzTxDirectReclaim at reclaimed
  simp only at reclaimed
  split at reclaimed
  · rename_i finished
    exact ⟨finished.1, finished.2, (Option.some.inj reclaimed).symm⟩
  · cases reclaimed

/-- The oldest descriptor in flight is posted. -/
theorem TxRingWindow.oldest_posted (window : TxRingWindow cfg system done waiting)
    (some_inflight : 0 < system.txBdInflight) :
    (system.txBdRing system.txCompletedBufferIndex).Posted := by
  have member : Window.Member txBufferCount system.txCompletedBufferIndex system.postedCount
      system.txCompletedBufferIndex :=
    ⟨0, Nat.add_pos_left some_inflight _, (Window.slot_zero window.layout.first_inside).symm⟩
  exact TxBd.phase_ne_free.mp
    ((window.layout.member_iff window.layout.first_inside).mpr member)

/-- A descriptor is reclaimed: the oldest of the window becomes free, and every position shifts
by one. -/
theorem reclaim_ring {next : TxSystem} (window : TxRingWindow cfg system done waiting)
    (counted : uncounted system.current = 0) (published : unpublished system.current = [])
    (valid : ∀ call point, system.current = some (call, point) →
      call.early cfg = none ∧ RingPoint next call point)
    (reclaimed : emzTxDirectReclaim system = some next) :
    TxRingWindow cfg next (done - 1) waiting := by
  obtain ⟨positive, finished, rfl⟩ := reclaim_cases reclaimed
  have phase : ringPhase system.txBdRing system.txCompletedBufferIndex = .finished :=
    TxBd.phase_finished.mpr ⟨window.oldest_posted positive, finished⟩
  have passed : 0 < done := window.layout.done_positive phase
  have layout := window.layout.reclaim passed
  have whole := window.whole
  rw [published, TxSystem.postedCount, counted] at whole
  simp only [List.length_nil, Nat.add_zero] at whole
  refine ⟨?_, ?_, ?_, ?_, window.running, ?_, valid⟩
  · have count : system.postedCount - 1 = system.txBdInflight - 1 + uncounted system.current := by
      rw [TxSystem.postedCount, counted]
      omega
    simp only [ring_phase_update]
    rw [count] at layout
    exact layout
  · simp only [window.populated, Window.slot_advance]
    congr 1
    omega
  · simp only [TxSystem.postedCount, counted, published, List.length_nil, Nat.add_zero]
    omega
  · simp only [window.here, Window.slot_advance]
    congr 1
    omega
  · intro some_waiting
    simp only [window.tail some_waiting, Window.slot_advance]
    congr 1
    omega

/-- The descriptor behind the window is programmed, and the window is one longer at its
newer end. -/
theorem TxRingWindow.program_layout (window : TxRingWindow cfg system done waiting)
    (counted : uncounted system.current = 0) (room : system.txBdInflight < txBufferCount)
    (address : BitVec 32) (length : Nat) :
    Layout txBufferCount system.txCompletedBufferIndex done (system.txBdInflight + 1)
      (ringPhase (system.program system.txPopulatedBufferIndex address length).txBdRing) := by
  have count : system.postedCount = system.txBdInflight := by
    rw [TxSystem.postedCount, counted, Nat.add_zero]
  have layout := window.layout.post (count ▸ room)
  rw [count, ← window.populated] at layout
  have waits : TxBd.phase ⟨address,
      bdCtrlSof ||| bdCtrlEof ||| (BitVec.ofNat 32 length &&& bdCtrlLenMask), 0#32⟩ =
      .waiting :=
    TxBd.phase_waiting.mpr ⟨control_posted _, (by decide : ¬ bdFinished 0#32 = true)⟩
  rw [← waits] at layout
  simp only [TxSystem.program, ring_phase_update]
  exact layout

/-- A single send programs its descriptor, posted but neither counted nor published yet. -/
theorem setup_ring {call : TxCall} (window : TxRingWindow cfg system done waiting)
    (here : system.current = some (call, .setup)) :
    TxRingWindow cfg ((system.program system.txPopulatedBufferIndex
      (cfg.txBytes system.txPopulatedBufferIndex) call.frame.length).proceed call
        (.tail system.txPopulatedBufferIndex)) done waiting := by
  obtain ⟨valid, room⟩ := window.valid _ _ here
  have counted : uncounted system.current = 0 := by rw [here]; rfl
  have whole := window.whole
  simp only [TxSystem.postedCount, here, unpublished, uncounted, List.length_nil,
    Nat.add_zero] at whole
  refine ⟨window.program_layout counted room _ _, window.populated, ?_, window.here,
    window.running, window.tail, ?_⟩
  · change done + waiting + 1 = system.txBdInflight + 1
    omega
  · exact only_current rfl ⟨valid, rfl⟩

/-- The loop of a burst programs and counts one more descriptor, which waits for the tail write
behind the loop. -/
theorem burst_ring {frame : EthFrame} {count first last queued : Nat}
    (window : TxRingWindow cfg system done waiting)
    (here : system.current =
      some (.emaczeroProfileSendRawFrameBurst frame count, .burst first last queued))
    (more : queued < min count txBufferCount) :
    TxRingWindow cfg { ((system.program system.txPopulatedBufferIndex (cfg.txBytes first)
        frame.length).advance system.txPopulatedBufferIndex).proceed
          (.emaczeroProfileSendRawFrameBurst frame count)
          (.burst first system.txPopulatedBufferIndex (queued + 1)) with
        burstLeft := system.burstLeft + 1 } done waiting := by
  obtain ⟨rfl, rfl⟩ := window.burst_empty here
  obtain ⟨valid, sent, times, same, positive, some_queued, inflight, -⟩ := window.valid _ _ here
  obtain ⟨rfl, rfl⟩ := TxCall.emaczeroProfileSendRawFrameBurst.inj same
  have room : system.txBdInflight < txBufferCount := by omega
  have counted : uncounted system.current = 0 := by rw [here]; rfl
  refine ⟨window.program_layout counted room _ _, ?_, ?_, window.here, window.running,
    window.tail, ?_⟩
  · change (system.txPopulatedBufferIndex + 1) % txBufferCount =
      Window.slot txBufferCount system.txCompletedBufferIndex (system.txBdInflight + 1)
    rw [window.populated, Window.slot_succ]
  · change 0 + 0 + (List.replicate (queued + 1) frame).length = system.txBdInflight + 1
    rw [List.length_replicate]
    omega
  · refine only_current rfl ⟨valid, frame, count, rfl, positive, by omega, ?_, ?_⟩
    · change system.txBdInflight + 1 = queued + 1
      omega
    · intro _
      change system.txPopulatedBufferIndex = Window.slot txBufferCount
        system.txCompletedBufferIndex (queued + 1 - 1)
      rw [window.populated, inflight, Nat.add_sub_cancel]

/-- A tail write publishes what the call has programmed: as many more descriptors wait for the
engine. -/
theorem tail_ring {call : TxCall} {point : TxPoint} {index : Nat}
    (window : TxRingWindow cfg system done waiting)
    (newest : index = Window.slot txBufferCount system.txCompletedBufferIndex
      (system.postedCount - 1))
    (programmed : 0 < (unpublished system.current).length)
    (publishes : unpublished (some (call, point)) = [])
    (counts : uncounted (some (call, point)) = uncounted system.current)
    (valid : call.early cfg = none ∧ RingPoint system call point)
    (not_burst : ∀ first last queued, point ≠ .burst first last queued) :
    TxRingWindow cfg { system.proceed call point with engine := system.engine.writeTaildesc index }
      done (waiting + (unpublished system.current).length) := by
  have whole := window.whole
  have posted : TxSystem.postedCount { system.proceed call point with
      engine := system.engine.writeTaildesc index } = system.postedCount :=
    congrArg (system.txBdInflight + ·) counts
  refine ⟨?_, window.populated, ?_, window.here, ?_, ?_, ?_⟩
  · rw [posted]
    exact window.layout
  · rw [posted]
    change done + _ + (unpublished (some (call, point))).length = _
    rw [publishes, List.length_nil]
    omega
  · exact (decide_eq_true (by omega)).symm
  · intro _
    change index = _
    rw [newest, ← whole, Nat.add_assoc]
    rfl
  · refine only_current rfl ⟨valid.1, ?_⟩
    have facts := valid.2
    cases point with
    | burst first last queued => exact absurd rfl (not_burst first last queued)
    | _ => exact facts

/-- A send counts its descriptor and returns, and the window is the counted one again. -/
theorem account_ring {call : TxCall} {descriptor : Nat}
    (window : TxRingWindow cfg system done waiting)
    (here : system.current = some (call, .account descriptor)) :
    TxRingWindow cfg ((system.advance descriptor).leave call 0) done waiting := by
  obtain ⟨-, rfl⟩ := window.valid _ _ here
  have layout := window.layout
  have whole := window.whole
  simp only [TxSystem.postedCount, here, unpublished, uncounted] at layout whole
  refine ⟨layout, ?_, whole, window.here, window.running, window.tail, ?_⟩
  swap
  · rintro other point current
    cases current
  change (system.txPopulatedBufferIndex + 1) % txBufferCount =
    Window.slot txBufferCount system.txCompletedBufferIndex (system.txBdInflight + 1)
  rw [window.populated, Window.slot_succ]

/-- One step of the lock's holder leads from a window to a window, one case for each program
point. -/
theorem advance_ring {call : TxCall} {point : TxPoint}
    (window : TxRingWindow cfg system done waiting)
    (here : system.current = some (call, point)) :
    ∃ done waiting, TxRingWindow cfg (txAdvance cfg system call point) done waiting := by
  obtain ⟨valid, facts⟩ := window.valid _ _ here
  cases point with
  | reclaim waited =>
    unfold txAdvance
    cases reclaimed : emzTxDirectReclaim system with
    | some next =>
      refine ⟨_, _, reclaim_ring window (by rw [here]; rfl) (by rw [here]; rfl) ?_ reclaimed⟩
      intro other point current
      rw [here] at current
      obtain ⟨rfl, rfl⟩ := Prod.mk.inj (Option.some.inj current)
      exact ⟨valid, trivial⟩
    | none =>
      exact ⟨_, _, window.proceed ⟨rfl, rfl, rfl, rfl, rfl⟩ (by rw [here]; exact ⟨rfl, rfl⟩) rfl
        ⟨rfl, rfl⟩ ⟨valid, trivial⟩⟩
  | check waited =>
    unfold txAdvance
    simp only
    split
    · split
      · exact ⟨_, _, window.leave ⟨rfl, rfl, rfl, rfl, rfl⟩ (by rw [here]; exact ⟨rfl, rfl⟩) rfl⟩
      · exact ⟨_, _, window.proceed ⟨rfl, rfl, rfl, rfl, rfl⟩ (by rw [here]; exact ⟨rfl, rfl⟩) rfl
          ⟨rfl, rfl⟩ ⟨valid, trivial⟩⟩
    · rename_i ready
      have ready : call.waits system.txBdInflight = false := by simpa using ready
      exact ⟨_, _, window.proceed ⟨rfl, rfl, rfl, rfl, rfl⟩ (by rw [here]; exact ⟨rfl, rfl⟩) rfl
        ⟨rfl, rfl⟩ ⟨valid, rfl, room_of_ready ready, ready⟩⟩
  | fill descriptor =>
    obtain ⟨rfl, room, ready⟩ := facts
    cases call with
    | emzSend packet readFails =>
      cases readFails with
      | some written =>
        exact ⟨_, _, window.leave ⟨rfl, rfl, rfl, rfl, rfl⟩ (by rw [here]; exact ⟨rfl, rfl⟩) rfl⟩
      | none =>
        exact ⟨_, _, window.proceed ⟨rfl, rfl, rfl, rfl, rfl⟩ (by rw [here]; exact ⟨rfl, rfl⟩) rfl
          ⟨rfl, rfl⟩ ⟨valid, room⟩⟩
    | emaczeroSendRawFrame frame =>
      exact ⟨_, _, window.proceed ⟨rfl, rfl, rfl, rfl, rfl⟩ (by rw [here]; exact ⟨rfl, rfl⟩) rfl
        ⟨rfl, rfl⟩ ⟨valid, room⟩⟩
    | emaczeroProfileSendRawFrameBurst frame count =>
      have empty : system.txBdInflight = 0 := by simpa [TxCall.waits] using ready
      exact ⟨_, _, window.proceed ⟨rfl, rfl, rfl, rfl, rfl⟩ (by rw [here]; exact ⟨rfl, rfl⟩) rfl
        ⟨rfl, rfl⟩ ⟨valid, frame, count, rfl, burst_count_positive valid, Nat.zero_le _, empty,
          fun impossible => absurd impossible (Nat.lt_irrefl 0)⟩⟩
  | setup =>
    unfold txAdvance
    simp only
    split
    · exact ⟨_, _, window.leave ⟨rfl, rfl, rfl, rfl, rfl⟩ (by rw [here]; exact ⟨rfl, rfl⟩) rfl⟩
    · exact ⟨_, _, setup_ring window here⟩
  | tail descriptor =>
    refine ⟨_, _, tail_ring window ?_ (by rw [here]; exact Nat.one_pos) rfl (by rw [here]; rfl)
      ⟨valid, facts⟩ (by rintro _ _ _ ⟨⟩)⟩
    rw [facts, window.populated, TxSystem.postedCount, here]
    rfl
  | account descriptor => exact ⟨_, _, account_ring window here⟩
  | burst first last queued =>
    obtain ⟨frame, count, rfl, positive, some_queued, inflight, last_slot⟩ := facts
    unfold txAdvance
    simp only
    split
    · rename_i more
      exact ⟨_, _, burst_ring window here more⟩
    · have count_positive := tx_count_positive
      have all : 0 < queued := by omega
      refine ⟨_, _, tail_ring window ?_ ?_ rfl (by rw [here]; rfl) ⟨valid, trivial⟩
        (by rintro _ _ _ ⟨⟩)⟩
      · rw [last_slot all, TxSystem.postedCount, here, inflight]
        rfl
      · rw [here]
        simpa [unpublished] using all
  | burstReturn queued =>
    exact ⟨_, _, window.leave ⟨rfl, rfl, rfl, rfl, rfl⟩ (by rw [here]; exact ⟨rfl, rfl⟩) rfl⟩

end Steps

/-- The descriptors in flight that the call in progress has not added to `tx_dma_start_ok`. -/
def unaccounted : Option (TxCall × TxPoint) → Nat
  | some (_, .burst _ _ queued) => queued
  | some (_, .burstReturn queued) => queued
  | _ => 0

/-- The call has not programmed a descriptor yet. -/
def beforePosting : TxPoint → Bool
  | .reclaim _ => true
  | .check _ => true
  | .fill _ => true
  | .setup => true
  | _ => false

/-- The invariant of the ring, of the counters and of the history. -/
structure TxAuditInvariant (cfg : TxConfig) (audit : TxAudit) : Prop where
  window : ∃ done waiting, TxRingWindow cfg audit.system done waiting
  counted : audit.txDmaStartOk + BitVec.ofNat 64 (unaccounted audit.system.current) =
    audit.txDmaCompleted + audit.txDmaError + BitVec.ofNat 64 audit.system.txBdInflight
  untouched : ∀ call point, audit.system.current = some (call, point) →
    beforePosting point = true →
      audit.system.txPopulatedBufferIndex = audit.foundPopulated ∧
        ∀ index, index ∉ audit.reclaimed →
          audit.system.txBdRing index = audit.foundRing index

section Audit

variable {cfg : TxConfig} {audit : TxAudit} {call : TxCall} {point : TxPoint}

/-- The account of the counters leaves the system itself as the step has made it. -/
@[simp]
theorem account_system (audit : TxAudit) (next : TxSystem) (point : TxPoint) :
    (audit.account next point).system = next := by
  cases point with
  | reclaim waited =>
    unfold TxAudit.account
    simp only
    split
    · split <;> rfl
    · rfl
  | _ => rfl

/-- The counters and the window change together: starts, completions and errors differ by what is
in flight, at every program point. -/
theorem advance_counted (invariant : TxAuditInvariant cfg audit)
    (here : audit.system.current = some (call, point)) :
    (audit.account (txAdvance cfg audit.system call point) point).txDmaStartOk +
        BitVec.ofNat 64 (unaccounted (txAdvance cfg audit.system call point).current) =
      (audit.account (txAdvance cfg audit.system call point) point).txDmaCompleted +
        (audit.account (txAdvance cfg audit.system call point) point).txDmaError +
        BitVec.ofNat 64 (txAdvance cfg audit.system call point).txBdInflight := by
  have counted := invariant.counted
  rw [here] at counted
  obtain ⟨done, waiting, window⟩ := invariant.window
  obtain ⟨valid, facts⟩ := window.valid _ _ here
  cases point with
  | reclaim waited =>
    unfold txAdvance TxAudit.account
    simp only
    cases reclaimed : emzTxDirectReclaim audit.system with
    | some next =>
      obtain ⟨positive, -, rfl⟩ := reclaim_cases reclaimed
      simp only [here, unaccounted] at counted ⊢
      split
      · bv_omega
      · bv_omega
    | none => exact counted
  | check waited =>
    unfold txAdvance
    simp only
    split
    · split
      · exact counted
      · exact counted
    · exact counted
  | fill descriptor =>
    cases call with
    | emzSend packet readFails => cases readFails <;> exact counted
    | emaczeroSendRawFrame frame => exact counted
    | emaczeroProfileSendRawFrameBurst frame count => exact counted
  | setup =>
    unfold txAdvance
    simp only
    split
    · exact counted
    · exact counted
  | tail descriptor => exact counted
  | account descriptor =>
    simp only [unaccounted] at counted
    simp only [txAdvance, TxAudit.account, TxSystem.leave, TxSystem.advance, unaccounted]
    bv_omega
  | burst first last queued =>
    obtain ⟨frame, count, rfl, -⟩ := facts
    unfold txAdvance
    simp only
    split
    · simp only [unaccounted] at counted
      simp only [TxAudit.account, TxSystem.proceed, TxSystem.advance, TxSystem.program,
        unaccounted]
      bv_omega
    · exact counted
  | burstReturn queued =>
    simp only [unaccounted] at counted
    simp only [txAdvance, TxAudit.account, TxSystem.leave, unaccounted]
    bv_omega

/-- Until it programs a descriptor, a call leaves the ring but for what it reclaims. -/
theorem advance_untouched (invariant : TxAuditInvariant cfg audit)
    (here : audit.system.current = some (call, point)) {other : TxCall} {next : TxPoint}
    (after : (txAdvance cfg audit.system call point).current = some (other, next))
    (posting : beforePosting next = true) :
    (txAdvance cfg audit.system call point).txPopulatedBufferIndex =
        (audit.account (txAdvance cfg audit.system call point) point).foundPopulated ∧
      ∀ index, index ∉
          (audit.account (txAdvance cfg audit.system call point) point).reclaimed →
        (txAdvance cfg audit.system call point).txBdRing index =
          (audit.account (txAdvance cfg audit.system call point) point).foundRing index := by
  have kept := invariant.untouched _ _ here
  cases point with
  | reclaim waited =>
    obtain ⟨populated, ring⟩ := kept rfl
    unfold txAdvance TxAudit.account
    simp only
    cases reclaimed : emzTxDirectReclaim audit.system with
    | some reclaiming =>
      obtain ⟨-, -, rfl⟩ := reclaim_cases reclaimed
      have others : ∀ index, index ∉ audit.system.txCompletedBufferIndex :: audit.reclaimed →
          Function.update audit.system.txBdRing audit.system.txCompletedBufferIndex
            { audit.system.txBdRing audit.system.txCompletedBufferIndex with
              control := 0#32, status := 0#32 } index = audit.foundRing index := by
        intro index spared
        obtain ⟨different, earlier⟩ := not_or.mp (mt List.mem_cons.mpr spared)
        rw [Function.update_of_ne different, ring index earlier]
      simp only
      split
      · exact ⟨populated, others⟩
      · exact ⟨populated, others⟩
    | none => exact ⟨populated, ring⟩
  | check waited =>
    unfold txAdvance
    simp only
    split
    · split
      · exact kept rfl
      · exact kept rfl
    · exact kept rfl
  | fill descriptor =>
    cases call with
    | emzSend packet readFails => cases readFails <;> exact kept rfl
    | emaczeroSendRawFrame frame => exact kept rfl
    | emaczeroProfileSendRawFrameBurst frame count =>
      obtain ⟨-, rfl⟩ := Prod.mk.inj (Option.some.inj after)
      cases posting
  | setup =>
    unfold txAdvance at after ⊢
    simp only at after ⊢
    split
    · exact kept rfl
    · rename_i room
      rw [if_neg room] at after
      obtain ⟨-, rfl⟩ := Prod.mk.inj (Option.some.inj after)
      cases posting
  | tail descriptor =>
    obtain ⟨-, rfl⟩ := Prod.mk.inj (Option.some.inj after)
    cases posting
  | account descriptor => cases after
  | burst first last queued =>
    obtain ⟨done, waiting, window⟩ := invariant.window
    obtain ⟨-, frame, count, rfl, -⟩ := window.valid _ _ here
    unfold txAdvance at after
    simp only at after
    split at after
    · obtain ⟨-, rfl⟩ := Prod.mk.inj (Option.some.inj after)
      cases posting
    · obtain ⟨-, rfl⟩ := Prod.mk.inj (Option.some.inj after)
      cases posting
  | burstReturn queued => cases after

/-- One step keeps the invariant of ring and counters: the entry of a call, a step of the lock's
holder, or the engine. -/
theorem tx_audit_step_invariant {label : TxLabel} {next : TxAudit}
    (invariant : TxAuditInvariant cfg audit) (taken : txAuditStep cfg audit label = some next) :
    TxAuditInvariant cfg next := by
  cases label with
  | call call =>
    unfold txAuditStep at taken
    simp only at taken
    split at taken
    · obtain rfl := Option.some.inj taken
      obtain ⟨⟨done, waiting, window⟩, counted, untouched⟩ := invariant
      exact ⟨⟨done, waiting, window.carry ⟨rfl, rfl, rfl, rfl, rfl⟩ rfl rfl window.valid⟩, counted,
        untouched⟩
    · rename_i valid
      split at taken
      · rename_i free
        obtain rfl := Option.some.inj taken
        obtain ⟨⟨done, waiting, window⟩, counted, -⟩ := invariant
        rw [free] at counted
        refine ⟨⟨done, waiting, window.proceed ⟨rfl, rfl, rfl, rfl, rfl⟩
          (by rw [free]; exact ⟨rfl, rfl⟩) rfl ⟨rfl, rfl⟩ ⟨valid, trivial⟩⟩, counted, ?_⟩
        intro other point current _
        exact ⟨rfl, fun _ _ => rfl⟩
      · cases taken
  | advance =>
    unfold txAuditStep at taken
    simp only at taken
    split at taken
    · rename_i call point here
      obtain rfl := Option.some.inj taken
      obtain ⟨done, waiting, window⟩ := invariant.window
      refine ⟨?_, ?_, ?_⟩
      · rw [account_system]
        exact advance_ring window here
      · rw [account_system]
        exact advance_counted invariant here
      · rw [account_system]
        intro other next after posting
        exact advance_untouched invariant here after posting
    · cases taken
  | engine status =>
    obtain ⟨system, processed, rfl⟩ := Option.map_eq_some_iff.mp taken
    obtain ⟨⟨done, waiting, window⟩, counted, untouched⟩ := invariant
    have kept := process_window window processed
    obtain ⟨-, -, emitted, left, rfl⟩ := process_cases processed
    refine ⟨⟨_, _, kept⟩, counted, ?_⟩
    intro call point current posting
    obtain ⟨populated, ring⟩ := untouched call point current posting
    refine ⟨populated, ?_⟩
    intro index spared
    by_cases same : index = audit.system.engine.curdesc
    · subst same
      simp only [Function.update_self, ring _ spared]
    · simp only [Function.update_of_ne same, ring index spared]

/-- The tail register is written where the model says, at the tail write of a send or of a burst,
and nowhere else. -/
theorem advance_tail (invariant : TxAuditInvariant cfg audit)
    (here : audit.system.current = some (call, point)) :
    (txAdvance cfg audit.system call point).engine =
      (tailWrite (some (call, point))).elim audit.system.engine
        audit.system.engine.writeTaildesc := by
  cases point with
  | reclaim waited =>
    unfold txAdvance
    cases reclaimed : emzTxDirectReclaim audit.system with
    | some next =>
      obtain ⟨-, -, rfl⟩ := reclaim_cases reclaimed
      rfl
    | none => rfl
  | check waited =>
    unfold txAdvance
    simp only
    split
    · split <;> rfl
    · rfl
  | fill descriptor =>
    cases call with
    | emzSend packet readFails => cases readFails <;> rfl
    | _ => rfl
  | setup =>
    unfold txAdvance
    simp only
    split <;> rfl
  | burst first last queued =>
    obtain ⟨done, waiting, window⟩ := invariant.window
    obtain ⟨-, frame, count, rfl, -⟩ := window.valid _ _ here
    unfold txAdvance tailWrite
    simp only
    split
    · rfl
    · rfl
  | _ => rfl

/-- A tail write names the newest posted descriptor, which the engine has not processed. -/
theorem TxRingWindow.tail_newest {system : TxSystem} {done waiting descriptor : Nat}
    (window : TxRingWindow cfg system done waiting)
    (writes : tailWrite system.current = some descriptor) :
    done < system.postedCount ∧ descriptor = Window.slot txBufferCount
      system.txCompletedBufferIndex (system.postedCount - 1) := by
  have whole := window.whole
  cases here : system.current with
  | none =>
    rw [here] at writes
    cases writes
  | some holder =>
    obtain ⟨call, point⟩ := holder
    obtain ⟨valid, facts⟩ := window.valid _ _ here
    rw [here] at writes whole
    cases point with
    | tail index =>
      obtain rfl := Option.some.inj writes
      have posted : system.postedCount = system.txBdInflight + 1 := by
        rw [TxSystem.postedCount, here]
        rfl
      simp only [unpublished, List.length_singleton] at whole
      refine ⟨by omega, ?_⟩
      rw [facts, window.populated, posted, Nat.add_sub_cancel]
    | burst first last queued =>
      obtain ⟨frame, count, rfl, positive, some_queued, inflight, last_slot⟩ := facts
      unfold tailWrite at writes
      simp only at writes
      split at writes
      · cases writes
      · obtain rfl := Option.some.inj writes
        have count_positive := tx_count_positive
        have posted : system.postedCount = queued := by
          rw [TxSystem.postedCount, here, inflight]
          rfl
        obtain ⟨rfl, rfl⟩ := window.burst_empty here
        rw [posted]
        exact ⟨by omega, last_slot (by omega)⟩
    | _ => cases call <;> cases writes

/-- The descriptor at a position that waits is posted and not processed. -/
theorem TxRingWindow.waits {system : TxSystem} {done waiting position : Nat}
    (window : TxRingWindow cfg system done waiting) (after : done ≤ position)
    (inside : position < system.postedCount) :
    (system.txBdRing
        (Window.slot txBufferCount system.txCompletedBufferIndex position)).Posted ∧
      ¬ (system.txBdRing
        (Window.slot txBufferCount system.txCompletedBufferIndex position)).Processed := by
  have fits := window.layout.fits
  have phase := window.layout.phases position (by omega)
  rw [expected, if_neg (by omega), if_pos inside] at phase
  exact TxBd.phase_waiting.mp phase

/-- A step that returns an error comes from a point before posting, and leaves the ring. -/
theorem advance_refused (invariant : TxAuditInvariant cfg audit)
    (here : audit.system.current = some (call, point)) {other : TxCall} {result : Int}
    (returns : (txAdvance cfg audit.system call point).log =
      audit.system.log ++ [(other, result)]) (failed : result < 0) :
    beforePosting point = true ∧
      (txAdvance cfg audit.system call point).txPopulatedBufferIndex =
        audit.system.txPopulatedBufferIndex ∧
      (txAdvance cfg audit.system call point).txBdRing = audit.system.txBdRing := by
  have silent : audit.system.log ≠ audit.system.log ++ [(other, result)] := by
    intro same
    have lengths := congrArg List.length same
    simp at lengths
  cases point with
  | reclaim waited =>
    unfold txAdvance at returns
    cases reclaimed : emzTxDirectReclaim audit.system with
    | some next =>
      obtain ⟨-, -, rfl⟩ := reclaim_cases reclaimed
      simp only [reclaimed] at returns
      exact absurd returns silent
    | none =>
      simp only [reclaimed] at returns
      exact absurd returns silent
  | check waited =>
    unfold txAdvance at returns ⊢
    simp only at returns ⊢
    split at returns
    · rename_i waits
      split at returns
      · rename_i exhausted
        rw [if_pos waits, if_pos exhausted]
        exact ⟨rfl, rfl, rfl⟩
      · exact absurd returns silent
    · exact absurd returns silent
  | fill descriptor =>
    cases call with
    | emzSend packet readFails =>
      cases readFails with
      | some written => exact ⟨rfl, rfl, rfl⟩
      | none => exact absurd returns silent
    | _ => exact absurd returns silent
  | setup =>
    unfold txAdvance at returns ⊢
    simp only at returns ⊢
    split at returns
    · rename_i full
      rw [if_pos full]
      exact ⟨rfl, rfl, rfl⟩
    · exact absurd returns silent
  | tail descriptor => exact absurd returns silent
  | account descriptor =>
    obtain ⟨-, rfl⟩ := Prod.mk.inj (List.singleton_inj.mp (List.append_cancel_left returns))
    exact absurd failed (Int.lt_irrefl 0)
  | burst first last queued =>
    obtain ⟨done, waiting, window⟩ := invariant.window
    obtain ⟨-, frame, count, rfl, -⟩ := window.valid _ _ here
    unfold txAdvance at returns
    simp only at returns
    split at returns
    · exact absurd returns silent
    · exact absurd returns silent
  | burstReturn queued =>
    obtain ⟨-, rfl⟩ := Prod.mk.inj (List.singleton_inj.mp (List.append_cancel_left returns))
    exact absurd failed (Int.not_lt.mpr (Int.natCast_nonneg queued))

/-- What the invariant says is what the property asks of the ring, part by part. -/
theorem TxAuditInvariant.correct (invariant : TxAuditInvariant cfg audit) :
    TxRingCorrect cfg audit := by
  obtain ⟨done, waiting, window⟩ := invariant.window
  have whole := window.whole
  have fits := window.layout.fits
  constructor
  · exact window.populated
  · exact (Nat.le_add_right _ _).trans fits
  · intro index inside
    exact TxBd.phase_ne_free.symm.trans (window.layout.member_iff inside)
  · intro next taken
    unfold txAuditStep at taken
    simp only at taken
    split at taken
    · rename_i call point here
      obtain rfl := Option.some.inj taken
      rw [account_system, here]
      exact advance_tail invariant here
    · cases taken
  · intro descriptor writes
    obtain ⟨some_left, newest⟩ := window.tail_newest writes
    refine ⟨by omega, newest, ?_⟩
    rw [newest]
    exact window.waits (by omega) (by omega)
  · intro running
    have positive : 0 < waiting := of_decide_eq_true (window.running.symm.trans running)
    refine ⟨⟨done, by omega, window.here⟩, ?_⟩
    rw [window.here]
    exact window.waits le_rfl (by omega)
  · constructor
    · intro next reclaimed
      obtain ⟨positive, finished, -⟩ := reclaim_cases reclaimed
      exact ⟨positive, window.oldest_posted positive, finished⟩
    · intro stopped
      unfold emzTxDirectReclaim at stopped
      simp only at stopped
      split at stopped
      · cases stopped
      · rename_i unfinished
        rcases Nat.eq_zero_or_pos audit.system.txBdInflight with empty | positive
        · exact .inl empty
        · exact .inr fun finished => unfinished ⟨positive, finished⟩
  · intro free
    have counted := invariant.counted
    rw [free] at counted
    simp only [unaccounted] at counted
    bv_omega
  · intro call result next early taken
    unfold txAuditStep at taken
    simp only [early] at taken
    obtain rfl := Option.some.inj taken
    exact ⟨rfl, rfl⟩
  · intro other result next taken returns failed
    unfold txAuditStep at taken
    simp only at taken
    split at taken
    · rename_i call point here
      obtain rfl := Option.some.inj taken
      rw [account_system] at returns ⊢
      obtain ⟨early, populated, ring⟩ := advance_refused invariant here returns failed
      obtain ⟨found, others⟩ := invariant.untouched _ _ here early
      rw [populated, ring]
      exact ⟨found, others⟩
    · cases taken

end Audit

/-- In every run of sends, raw sends and bursts, with time-outs, failed packet reads and any
statuses that the engine writes, the transmit ring is the window that its indices describe, the
engine stays inside of it, the counters account for it, and failed calls leave it.

Proof: the invariant gives the window of the ring and an account of the counters, both kept by
each step of a call and by the engine. -/
theorem tx_ring_correct (cfg : TxConfig) (memory : BitVec 32 → EthFrame)
    (completed error : BitVec 64) {reached : TxAudit}
    (run : Run (txAuditStep cfg) Unrestricted (txAuditInitial memory completed error) reached) :
    TxRingCorrect cfg reached := by
  have invariant : TxAuditInvariant cfg reached := by
    apply run.invariant (TxAuditInvariant cfg)
    · refine ⟨⟨0, 0, initial_ring memory⟩, ?_, fun _ _ current => nomatch current⟩
      simp [txAuditInitial, txInitial, unaccounted]
    · intro before label after kept _ taken
      exact tx_audit_step_invariant kept taken
  exact invariant.correct

/-- A send that completes, a burst of two of which the first fails, and a failed packet
read that reclaims both. -/
def mixedSends : List TxLabel :=
  [.call (.emzSend [1#8, 2#8] none)] ++ List.replicate 6 .advance ++ [.engine bdStatusComplete] ++
    [.call (.emaczeroProfileSendRawFrameBurst [3#8] 2)] ++ List.replicate 8 .advance ++
    [.engine 0x10000000#32, .engine bdStatusComplete] ++
    [.call (.emzSend [4#8] (some []))] ++ List.replicate 5 .advance

/-- The theorem over a run with sends, a burst and an error of the engine, at the end of which
everything is reclaimed and counted. -/
theorem tx_ring_correct_mixed :
    ∃ reached, Run (txAuditStep packedTxConfig) Unrestricted
        (txAuditInitial (fun _ => []) 0#64 0#64) reached ∧
      (reached.txDmaStartOk = 3#64 ∧ reached.txDmaError = 1#64 ∧
        reached.system.txBdInflight = 0) ∧ TxRingCorrect packedTxConfig reached := by
  obtain ⟨reached, run, passed⟩ := run_of_execution (txAuditStep packedTxConfig)
    (fun _ _ => true) (txAuditInitial (fun _ => []) 0#64 0#64) mixedSends
    (fun reached => decide (reached.txDmaStartOk = 3#64 ∧ reached.txDmaError = 1#64 ∧
      reached.system.txBdInflight = 0)) (fun _ _ _ => trivial) (by decide +kernel)
  exact ⟨reached, run, of_decide_eq_true passed,
    tx_ring_correct packedTxConfig (fun _ => []) 0#64 0#64 run⟩

end EmaczZephyr.Driver
