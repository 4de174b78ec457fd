import Mathlib.Logic.Relation

/-!
# Runs of a labelled partial step function

A system is a partial function that takes a state and a label to the next
state. A run is any finite sequence of labels, each admitted in the state it is
taken from. The admission predicate carries scheduling rules and the conditions
of conditional results; the unrestricted one admits every label.

The single induction over runs is here. A safety result supplies an invariant,
its initial case and one step lemma. Concrete runs are executed by evaluation.
A history recorded along a run grows at its end.
-/

namespace EmaczZephyr.Runs

universe u v
variable {State : Type u} {Label : Type v}

/-- The states reached from `start` by finitely many steps, each admitted in the state it is
taken from. -/
inductive Run (step : State → Label → Option State) (admitted : State → Label → Prop)
    (start : State) : State → Prop
  | rest : Run step admitted start start
  | step {before after : State} {label : Label} (earlier : Run step admitted start before)
      (admits : admitted before label) (taken : step before label = some after) :
      Run step admitted start after

/-- No scheduling rule and no condition: every label is admitted in every state, and only the
step function can refuse it. -/
def Unrestricted (_ : State) (_ : Label) : Prop := True

variable {step : State → Label → Option State} {admitted : State → Label → Prop}
  {start : State}

/-- What holds at the start and is kept by every admitted step holds after
every run. -/
theorem Run.invariant (property : State → Prop) (initially : property start)
    (kept : ∀ before label after, property before → admitted before label →
      step before label = some after → property after)
    {reached : State} (run : Run step admitted start reached) : property reached := by
  induction run with
  | rest => exact initially
  | step earlier admits taken inductionHypothesis =>
    exact kept _ _ _ inductionHypothesis admits taken

/-- A run under an admission rule is a run without one, so what holds of all runs holds of it. -/
theorem Run.unrestricted {reached : State} (run : Run step admitted start reached) :
    Run step Unrestricted start reached := by
  induction run with
  | rest => exact .rest
  | step earlier admits taken inductionHypothesis => exact .step inductionHypothesis trivial taken

/-- Take the labels in order, refusing a label that is not admitted. This is a run that can be
evaluated. -/
def execute (step : State → Label → Option State) (admits : State → Label → Bool) :
    State → List Label → Option State
  | state, [] => some state
  | state, label :: labels =>
      if admits state label then (step state label).bind (execute step admits · labels) else none

/-- A successful execution extends the run that reached its first state. Induction over the
labels, each of which is one more admitted step. -/
theorem Run.extend {admits : State → Label → Bool}
    (sound : ∀ state label, admits state label = true → admitted state label)
    {state reached : State} {labels : List Label} (earlier : Run step admitted start state)
    (executed : execute step admits state labels = some reached) :
    Run step admitted start reached := by
  induction labels generalizing state with
  | nil =>
    have same : state = reached := Option.some.inj executed
    exact same ▸ earlier
  | cons label labels inductionHypothesis =>
    by_cases admissible : admits state label = true
    · simp only [execute, admissible, if_true] at executed
      obtain ⟨next, taken, rest⟩ := Option.bind_eq_some_iff.mp executed
      exact inductionHypothesis (.step earlier (sound state label admissible) taken) rest
    · simp [execute, admissible] at executed

/-- A successful execution from the start is a run, when its tests admit nothing that the rule
does not. -/
theorem execute_run {admits : State → Label → Bool}
    (sound : ∀ state label, admits state label = true → admitted state label)
    {reached : State} {labels : List Label}
    (executed : execute step admits start labels = some reached) :
    Run step admitted start reached :=
  Run.extend sound .rest executed

/-- When the executed labels end in a state that passes a test, some run reaches
a state that passes it. -/
theorem run_of_execution (step : State → Label → Option State)
    (admits : State → Label → Bool) (start : State) (labels : List Label) (test : State → Bool)
    (sound : ∀ state label, admits state label = true → admitted state label)
    (passed : (execute step admits start labels).any test = true) :
    ∃ reached, Run step admitted start reached ∧ test reached = true := by
  cases executed : execute step admits start labels with
  | none => simp [executed] at passed
  | some reached =>
    exact ⟨reached, execute_run sound executed, by simpa [executed] using passed⟩

/-- The system that also keeps the labels it has taken, the latest at the end. -/
def traced (step : State → Label → Option State) (state : State × List Label) (label : Label) :
    Option (State × List Label) :=
  (step state.1 label).map fun next => (next, state.2 ++ [label])

/-- A step with a trace is a step, and its label is the last of the trace. -/
theorem traced_step {before after : State × List Label} {label : Label}
    (taken : traced step before label = some after) :
    step before.1 label = some after.1 ∧ after.2 = before.2 ++ [label] := by
  obtain ⟨next, moved, rfl⟩ := Option.map_eq_some_iff.mp taken
  exact ⟨moved, rfl⟩

/-- Every run has a trace: the labels of its steps in their order. Induction over the run, with
the last label put at the end. -/
theorem Run.traced {reached : State} (run : Run step Unrestricted start reached) :
    ∃ labels, Run (traced step) Unrestricted (start, []) (reached, labels) := by
  induction run with
  | rest => exact ⟨[], .rest⟩
  | @step before after label earlier admits taken inductionHypothesis =>
    obtain ⟨labels, whole⟩ := inductionHypothesis
    have moved : Runs.traced step (before, labels) label = some (after, labels ++ [label]) := by
      simp [Runs.traced, taken]
    exact ⟨labels ++ [label], .step whole trivial moved⟩

/-- An entry of a history with one more event is that event, at the end, or an entry of the
history before it. -/
theorem split_recorded {Event : Type v} {history before after : List Event}
    {event found : Event} (split : history ++ [event] = before ++ found :: after) :
    before = history ∧ found = event ∨ ∃ rest, history = before ++ found :: rest := by
  rcases List.eq_nil_or_concat after with rfl | ⟨rest, last, rfl⟩
  · obtain ⟨same, found_last⟩ := List.append_inj' split rfl
    exact .inl ⟨same.symm, (List.singleton_inj.mp found_last).symm⟩
  · have whole : history ++ [event] = (before ++ found :: rest) ++ [last] := by
      rw [split]
      simp
    exact .inr ⟨rest, (List.append_inj' whole rfl).1⟩

end EmaczZephyr.Runs
