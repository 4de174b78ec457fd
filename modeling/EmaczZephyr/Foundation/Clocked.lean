import Mathlib.Data.List.Induction

/-!
# Clocked machines

A clocked machine takes its state and the inputs of one cycle to the state behind the
clock edge. What happens in a cycle is read off the state and the inputs, and the events
of a run are a list in the order of the cycles.

One induction over the cycles serves all runs. It relates the events so far to the state
reached. A machine that answers requests in order is the case used most: what it has been
asked is what it has answered and what is pending, so it loses and repeats nothing.
-/

namespace EmaczZephyr.Clocked

universe u v w
variable {State : Type u} {Input : Type v} {Event : Type w} (next : State → Input → State)

/-- The state behind a run of cycles, one clock edge for each input. -/
def after (start : State) (inputs : List Input) : State := inputs.foldl next start

/-- The events of a run in the order of the cycles. What a cycle shows is read off the state in
front of its edge and its inputs. -/
def recorded (observe : State → Input → List Event) : State → List Input → List Event
  | _, [] => []
  | state, input :: inputs => observe state input ++ recorded observe (next state input) inputs

variable {next}

/-- One more cycle is one more clock edge, from the state that the earlier ones have reached. -/
theorem after_concat (start : State) (inputs : List Input) (input : Input) :
    after next start (inputs ++ [input]) = next (after next start inputs) input := by
  rw [after, List.foldl_append]
  rfl

/-- One more cycle adds its events behind those of the earlier ones. Induction over the earlier
cycles, from any start. -/
theorem recorded_concat (observe : State → Input → List Event) (start : State)
    (inputs : List Input) (input : Input) :
    recorded next observe start (inputs ++ [input]) =
      recorded next observe start inputs ++ observe (after next start inputs) input := by
  induction inputs generalizing start with
  | nil => exact List.append_nil _
  | cons first inputs inductionHypothesis =>
    rw [List.cons_append, recorded, inductionHypothesis, recorded, List.append_assoc]
    rfl

/-- A view of the events of a run is the run of the views. -/
theorem map_recorded {View : Type*} (view : Event → View) (observe : State → Input → List Event)
    (start : State) (inputs : List Input) :
    (recorded next observe start inputs).map view =
      recorded next (fun state input => (observe state input).map view) start inputs := by
  induction inputs generalizing start with
  | nil => rfl
  | cons first inputs inductionHypothesis =>
    rw [recorded, List.map_append, inductionHypothesis, recorded]

/-- Filtering the events of a run is filtering what each cycle shows, so that a part of the
events is again recorded by a run. -/
theorem filter_recorded (test : Event → Bool) (observe : State → Input → List Event)
    (start : State) (inputs : List Input) :
    (recorded next observe start inputs).filter test =
      recorded next (fun state input => (observe state input).filter test) start inputs := by
  induction inputs generalizing start with
  | nil => rfl
  | cons first inputs inductionHypothesis =>
    rw [recorded, List.filter_append, inductionHypothesis, recorded]

/-- What holds of the start with no events and is kept by every cycle holds of the events
and the state of every run. -/
theorem along {observe : State → Input → List Event} {start : State}
    (relation : List Event → State → Prop) (initially : relation [] start)
    (kept : ∀ events state input, relation events state →
      relation (events ++ observe state input) (next state input))
    (inputs : List Input) :
    relation (recorded next observe start inputs) (after next start inputs) := by
  induction inputs using List.reverseRecOn with
  | nil => exact initially
  | append_singleton inputs input inductionHypothesis =>
    rw [recorded_concat, after_concat]
    exact kept _ _ input inductionHypothesis

/-- An invariant of the cycles holds behind every run. Induction over the inputs from the end,
one clock edge at a time. -/
theorem after_invariant {start : State} {invariant : State → Prop} (initially : invariant start)
    (kept : ∀ state input, invariant state → invariant (next state input))
    (inputs : List Input) : invariant (after next start inputs) := by
  induction inputs using List.reverseRecOn with
  | nil => exact initially
  | append_singleton inputs input inductionHypothesis =>
    rw [after_concat]
    exact kept _ input inductionHypothesis

/-- When every cycle accounts for what it is asked and what it answers, so does every run:
the requests are the answers and the pending requests, in order. -/
theorem exchange {start : State} {invariant : State → Prop} (initially : invariant start)
    (kept : ∀ state input, invariant state → invariant (next state input))
    {asked answered : State → Input → List Event} {pending : State → List Event}
    (idle : pending start = [])
    (cycle : ∀ state input, invariant state →
      pending state ++ asked state input = answered state input ++ pending (next state input))
    (inputs : List Input) :
    recorded next asked start inputs =
      recorded next answered start inputs ++ pending (after next start inputs) := by
  induction inputs using List.reverseRecOn with
  | nil => exact idle.symm
  | append_singleton inputs input inductionHypothesis =>
    have holds := after_invariant initially kept inputs
    rw [recorded_concat, recorded_concat, after_concat, inductionHypothesis, List.append_assoc,
      cycle _ input holds, List.append_assoc]

/-- At an edge a register for one event is filled, when it was empty, or drained, when it was
not. Either way what it held and is given is what it gives and holds. -/
theorem slot_edge {full fill drain full' : Bool} {value new value' : Event}
    (empty : fill = true → full = false) (filled : drain = true → full = true)
    (flag : full' = if drain then false else if fill then true else full)
    (stored : value' = if fill then new else value) :
    (if full then [value] else []) ++ (if fill then [new] else []) =
      (if drain then [value] else []) ++ if full' then [value'] else [] := by
  rw [flag, stored]
  cases fill with
  | true =>
    have vacant : full = false := empty rfl
    have stays : drain = false := by
      by_contra drains
      rw [filled (Bool.not_eq_false _ ▸ drains)] at vacant
      cases vacant
    simp [vacant, stays]
  | false =>
    cases drain with
    | true => simp [filled rfl]
    | false => simp

/-- A view of what a one-place register shows is the register's view of its value, full or empty. -/
theorem map_slot {View : Type*} (view : Event → View) (full : Bool) (value : Event) :
    (if full then [value] else []).map view = if full then [view value] else [] := by
  cases full <;> rfl

end EmaczZephyr.Clocked
