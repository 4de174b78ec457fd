import Mathlib.Logic.Basic

/-!
# Programs that may fail

A program over a device changes the state of the device and ends with a value or with an
error; the state that it has reached stays in both cases. A triple says what holds behind
either end. The rules follow the shape of a program: a sequence, a loop over a list, a loop
that stops at the first complaint, and a last step that comes behind every end.
-/

namespace EmaczZephyr.Faulting

variable {Fault State Result Final Item : Type}

/-- From the states `before`, a program ends with a value in `after` or with an error in
`raised`. -/
def Triple (before : State → Prop) (program : EStateM Fault State Result)
    (after : Result → State → Prop) (raised : State → Prop) : Prop :=
  ∀ state, before state → match program state with
    | .ok value reached => after value reached
    | .error _ reached => raised reached

/-- Runs a program only under a condition, and leaves the state otherwise. -/
def onlyIf (condition : Bool) (program : EStateM Fault State Unit) : EStateM Fault State Unit :=
  if condition then program else pure ()

/-- Applies a program to each item in turn; the first error ends the loop with it. -/
def each (items : List Item) (body : Item → EStateM Fault State Unit) :
    EStateM Fault State Unit :=
  match items with
  | [] => pure ()
  | item :: rest => do
      body item
      each rest body

/-- Applies a check to each item in turn and stops at the first code that is not zero. -/
def firstComplaint (items : List Item) (check : Item → EStateM Fault State Nat) :
    EStateM Fault State Nat :=
  match items with
  | [] => pure 0
  | item :: rest => do
      let code ← check item
      if code = 0 then firstComplaint rest check else pure code

variable {before middle : State → Prop} {after : Result → State → Prop} {raised : State → Prop}
  {program : EStateM Fault State Result}

/-- A program that only returns a value changes nothing, so what holds of the value and the state
held before. -/
theorem Triple.value {value : Result} (holds : ∀ state, before state → after value state) :
    Triple before (pure value : EStateM Fault State Result) after raised := by
  intro state start
  exact holds state start

/-- A triple holds from fewer states and of more ends, whether the program ends with a value or
with an error. -/
theorem Triple.weaken {before' : State → Prop} {after' : Result → State → Prop}
    {raised' : State → Prop} (triple : Triple before program after raised)
    (start : ∀ state, before' state → before state)
    (ends : ∀ value state, after value state → after' value state)
    (fails : ∀ state, raised state → raised' state) : Triple before' program after' raised' := by
  intro state holds
  have reached := triple state (start state holds)
  cases ended : program state with
  | ok value next =>
    rw [ended] at reached
    exact ends value next reached
  | error fault next =>
    rw [ended] at reached
    exact fails next reached

/-- A triple may be shown from one state at a time, so that a proof may name the state it starts
from. -/
theorem Triple.from_each
    (triple : ∀ start, before start → Triple (fun state => state = start) program after raised) :
    Triple before program after raised := by
  intro state start
  exact triple state start state rfl

/-- Two triples of one program hold together: both speak about the same end, which the program
reaches from the same state. -/
theorem Triple.both {before' : State → Prop} {after' : Result → State → Prop}
    {raised' : State → Prop} (first : Triple before program after raised)
    (second : Triple before' program after' raised') :
    Triple (fun state => before state ∧ before' state) program
      (fun value state => after value state ∧ after' value state)
      fun state => raised state ∧ raised' state := by
  rintro state ⟨start, start'⟩
  have reached := first state start
  have reached' := second state start'
  cases ended : program state with
  | ok value next =>
    rw [ended] at reached reached'
    exact ⟨reached, reached'⟩
  | error fault next =>
    rw [ended] at reached reached'
    exact ⟨reached, reached'⟩

/-- A sequence: what the first program leaves with a value is where the second one starts, and an
error of either ends both. -/
theorem Triple.bind {next : Result → EStateM Fault State Final} {last : Final → State → Prop}
    (first : Triple before program after raised)
    (second : ∀ value, Triple (after value) (next value) last raised) :
    Triple before (program >>= next) last raised := by
  intro state start
  have reached := first state start
  change match EStateM.bind program next state with
    | .ok value reached => last value reached
    | .error _ reached => raised reached
  rw [EStateM.bind]
  cases ended : program state with
  | ok value between =>
    rw [ended] at reached
    exact second value between reached
  | error fault between =>
    rw [ended] at reached
    exact reached

/-- A program under a condition: it holds when the program does if it is run, and when the state
already serves if it is not. -/
theorem Triple.only_if {condition : Bool} {program : EStateM Fault State Unit}
    {next : State → Prop}
    (taken : condition = true → Triple before program (fun _ => next) raised)
    (skipped : condition = false → ∀ state, before state → next state) :
    Triple before (onlyIf condition program) (fun _ => next) raised := by
  cases condition with
  | true => exact taken rfl
  | false => exact .value (skipped rfl)

/-- A loop keeps an invariant that counts the items behind it. Induction over the items, with the
invariant of the rest moved by one. -/
theorem Triple.loop {items : List Item} {body : Item → EStateM Fault State Unit}
    (invariant : Nat → State → Prop)
    (step : ∀ index item, items[index]? = some item →
      Triple (invariant index) (body item) (fun _ => invariant (index + 1)) raised) :
    Triple (invariant 0) (each items body) (fun _ => invariant items.length) raised := by
  induction items generalizing invariant with
  | nil => exact .value fun _ holds => holds
  | cons item rest inductionHypothesis =>
    apply Triple.bind (step 0 item rfl)
    intro _
    apply inductionHypothesis fun index => invariant (index + 1)
    intro index other here
    exact step (index + 1) other here

/-- A loop of checks keeps its invariant as long as no check complains, and leaves at the first
complaint. Induction over the items, with a case for the code of each. -/
theorem Triple.checked {items : List Item} {check : Item → EStateM Fault State Nat}
    (invariant : Nat → State → Prop) (failed : State → Prop)
    (step : ∀ index item, items[index]? = some item →
      Triple (invariant index) (check item)
        (fun code state => if code = 0 then invariant (index + 1) state else failed state)
        raised) :
    Triple (invariant 0) (firstComplaint items check)
      (fun code state => if code = 0 then invariant items.length state else failed state)
      raised := by
  induction items generalizing invariant with
  | nil => exact .value fun _ holds => holds
  | cons item rest inductionHypothesis =>
    apply Triple.bind (step 0 item rfl)
    intro code
    by_cases passed : code = 0
    · subst passed
      apply inductionHypothesis fun index => invariant (index + 1)
      intro index other here
      exact step (index + 1) other here
    · rw [if_neg passed]
      apply Triple.value
      intro state complains
      simpa [passed] using complains

/-- The closing step comes behind every end, and its own error replaces the end. -/
theorem Triple.closed {closing : EStateM Fault State Unit} {last : Result → State → Prop}
    {fails : State → Prop} (triple : Triple before program after raised)
    (behind : ∀ value, Triple (after value) closing (fun _ => last value) fails)
    (behind_error : Triple raised closing (fun _ => fails) fails) :
    Triple before (tryFinally program closing) last fails := by
  intro state start
  have reached := triple state start
  change match (Prod.fst <$> tryFinally' program fun _ => closing :
      EStateM Fault State Result) state with
    | .ok value reached => last value reached
    | .error _ reached => fails reached
  simp only [tryFinally', Functor.map, EStateM.map]
  cases ended : program state with
  | ok value between =>
    rw [ended] at reached
    have closes := behind value between reached
    cases closed : closing between with
    | ok done finally_ok =>
      rw [closed] at closes
      simpa [closed] using closes
    | error fault finally_error =>
      rw [closed] at closes
      simpa [closed] using closes
  | error fault between =>
    rw [ended] at reached
    have closes := behind_error between reached
    cases closed : closing between with
    | ok done finally_ok =>
      rw [closed] at closes
      simpa [closed] using closes
    | error fault finally_error =>
      rw [closed] at closes
      simpa [closed] using closes

end EmaczZephyr.Faulting
