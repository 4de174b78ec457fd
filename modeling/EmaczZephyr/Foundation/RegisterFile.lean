import Mathlib.Algebra.BigOperators.Group.List.Basic
import EmaczZephyr.Foundation.Framing
import EmaczZephyr.Foundation.Watermark

/-!
# Registers over a history

A register is a value read from a state that events change. A clearing event brings one
state, whatever it finds; so only the events behind the last one count. Of these a register
holds a sum, or the most extreme of the values that they offer.
-/

namespace EmaczZephyr.RegisterFile

open Framing Watermark

universe u v w
variable {State : Type u} {Event : Type v} {Value : Type w}

/-- The events behind the last one that clears, and the whole history where none does. -/
def since (clears : Event → Bool) (history : List Event) : List Event :=
  (frames clears history).unfinished

variable {clears : Event → Bool} {history : List Event}

/-- Behind an event that clears there are none left to count. -/
theorem since_cleared {event : Event} (cleared : clears event = true) :
    since clears (history ++ [event]) = [] := by
  rw [since, frames_concat, Frames.push_marked cleared]

/-- An event that does not clear is one more behind the last that does. -/
theorem since_kept {event : Event} (kept : clears event = false) :
    since clears (history ++ [event]) = since clears history ++ [event] := by
  rw [since, frames_concat, Frames.push_unmarked kept]
  rfl

/-- None of the events behind the last clear clears, which is what makes it the last. -/
theorem since_keeps : ∀ event ∈ since clears history, clears event = false :=
  unfinished_unmarked history

/-- Later events that do not clear follow at the end. Induction over them, each by `since_kept`. -/
theorem since_append {later : List Event} (kept : ∀ event ∈ later, clears event = false) :
    since clears (history ++ later) = since clears history ++ later := by
  induction later using List.reverseRecOn with
  | nil => simp
  | append_singleton later event inductionHypothesis =>
    rw [← List.append_assoc, since_kept (kept event (by simp)), ← List.append_assoc]
    congr 1
    apply inductionHypothesis
    intro other earlier
    exact kept other (List.mem_append_left _ earlier)

/-- When one of the later events clears, the earlier ones do not count, whatever they are. -/
theorem since_forgets {later : List Event} (cleared : ∃ event ∈ later, clears event = true) :
    since clears (history ++ later) = since clears later := by
  induction later using List.reverseRecOn with
  | nil =>
    obtain ⟨event, member, -⟩ := cleared
    cases member
  | append_singleton later event inductionHypothesis =>
    rw [← List.append_assoc]
    cases clearing : clears event with
    | true => rw [since_cleared clearing, since_cleared clearing]
    | false =>
      rw [since_kept clearing, since_kept clearing]
      congr 1
      apply inductionHypothesis
      obtain ⟨other, member, cleared⟩ := cleared
      rcases List.mem_append.mp member with earlier | last
      · exact ⟨other, earlier, cleared⟩
      · rw [List.mem_singleton.mp last, clearing] at cleared
        cases cleared

section Registers

variable {step : State → Event → State} {fresh : State}

/-- Behind an event that clears, the state is what the later events make of the fresh one. -/
theorem state_since (clearing : ∀ state event, clears event = true → step state event = fresh)
    (state : State) {before : List Event} {event : Event} (cleared : clears event = true)
    (history : List Event) :
    (before ++ event :: history).foldl step state = (since clears history).foldl step fresh := by
  rw [List.foldl_append, List.foldl_cons, clearing _ _ cleared]
  induction history using List.reverseRecOn with
  | nil => rfl
  | append_singleton history later inductionHypothesis =>
    rw [List.foldl_append, inductionHypothesis, List.foldl_cons, List.foldl_nil]
    cases clearing_later : clears later with
    | true =>
      rw [since_cleared clearing_later, clearing _ _ clearing_later]
      rfl
    | false =>
      rw [since_kept clearing_later, List.foldl_append]
      rfl

/-- A register to which each event adds an amount holds its first value and the sum of the
amounts. Induction over the events, from the end. -/
theorem register_sum [AddMonoid Value] (register : State → Value) (amount : Event → Value)
    {events : List Event}
    (adds : ∀ state, ∀ event ∈ events,
      register (step state event) = register state + amount event) (state : State) :
    register (events.foldl step state) = register state + (events.map amount).sum := by
  induction events using List.reverseRecOn with
  | nil => simp
  | append_singleton events event inductionHypothesis =>
    have earlier := inductionHypothesis fun state other member =>
      adds state other (List.mem_append_left _ member)
    rw [List.foldl_append, List.foldl_cons, List.foldl_nil, adds _ event (by simp), earlier,
      List.map_append, List.sum_append, List.map_singleton, List.sum_singleton, add_assoc]

/-- A register that holds the most extreme of the values that the events offer. -/
theorem register_extreme (beyond : Value → Value → Prop) [DecidableRel beyond]
    [IsStrictTotalOrder Value beyond] (register : State → Value)
    (candidate : Event → Option Value) {events : List Event}
    (offers : ∀ state, ∀ event ∈ events, register (step state event) =
      (candidate event).elim (register state) (offer beyond (register state)))
    (reachable : ∀ event ∈ events, ∀ value ∈ candidate event, ¬ beyond (register fresh) value) :
    Extreme beyond (register fresh) (events.filterMap candidate)
      (register (events.foldl step fresh)) := by
  induction events using List.reverseRecOn with
  | nil => exact .fresh
  | append_singleton events event inductionHypothesis =>
    have earlier := inductionHypothesis
      (fun state other member => offers state other (List.mem_append_left _ member))
      (fun other member => reachable other (List.mem_append_left _ member))
    rw [List.foldl_append, List.foldl_cons, List.foldl_nil, offers _ event (by simp),
      List.filterMap_append]
    cases offered : candidate event with
    | none => simpa [offered] using earlier
    | some value =>
      have reached := reachable event (by simp) value offered
      simpa [offered] using earlier.offered reached

end Registers

end EmaczZephyr.RegisterFile
