import EmaczZephyr.Foundation.Contexts
import EmaczZephyr.Foundation.Runs

/-!
# Calls from several contexts

Each context calls the operations of one component, one after the other. A call begins with
its first frames on an idle stack and ends when the stack is empty again. The contexts take
turns at every step of a frame.

When no call begins while another is at work, the calls act one after the other: whenever all
contexts are idle, the shared state is what the effects of the calls make of the start. What an
effect is, is shown for each call by itself, with nobody else at work.
-/

namespace EmaczZephyr.SerialCalls

open Contexts Runs

universe u v w
variable {Shared : Type u} {Frame : Type v} {Call : Type w}

/-- The contexts over their shared state, and the calls that have begun so far in their order. -/
structure System (Shared : Type u) (Frame : Type v) (Call : Type w) where
  config : Configuration Shared Frame
  calls : List Call

/-- A context begins a call, or takes the next step of the call it is in. -/
inductive Label (Call : Type w)
  | call (context : Nat) (call : Call)
  | advance (context : Nat)
  deriving DecidableEq

variable (entry : Call → List Frame) (frameStep : Shared → Frame → Option (Shared × List Frame))

/-- One step of the system: a call is entered by an idle context and recorded, and a context at
work advances. -/
def step (system : System Shared Frame Call) : Label Call → Option (System Shared Frame Call)
  | .call context call =>
      (enter context system.config.shared (entry call) system.config).map
        fun config => ⟨config, system.calls ++ [call]⟩
  | .advance context =>
      (advance frameStep context system.config).map fun config => ⟨config, system.calls⟩

/-- No context is at work: every stack is empty. -/
def Quiet (system : System Shared Frame Call) : Prop :=
  ∀ stack ∈ system.config.callStacks, stack = []

/-- A call begins only when no context is at work; steps of the call in progress are always
admitted. -/
def Serial (system : System Shared Frame Call) : Label Call → Prop
  | .call _ _ => Quiet system
  | .advance _ => True

/-- Idle contexts before the first call, over this shared state. -/
def idle (contexts : Nat) (shared : Shared) : System Shared Frame Call :=
  ⟨⟨shared, List.replicate contexts []⟩, []⟩

/-- Everything that a step does: a call enters an idle context without touching the shared state,
or the top frame of a context takes its step. -/
theorem step_cases {before after : System Shared Frame Call} {label : Label Call}
    (stepped : step entry frameStep before label = some after) :
    (∃ context call, label = .call context call ∧
      before.config.callStacks[context]? = some [] ∧
      after.config = ⟨before.config.shared,
        before.config.callStacks.set context (entry call)⟩ ∧
      after.calls = before.calls ++ [call]) ∨
    ∃ context frame below shared frames, label = .advance context ∧
      before.config.callStacks[context]? = some (frame :: below) ∧
      frameStep before.config.shared frame = some (shared, frames) ∧
      after.config = ⟨shared, before.config.callStacks.set context (frames ++ below)⟩ ∧
      after.calls = before.calls := by
  cases label with
  | call context call =>
    obtain ⟨config, entered, rfl⟩ := Option.map_eq_some_iff.mp stepped
    obtain ⟨resting, rfl⟩ := enter_cases entered
    exact .inl ⟨context, call, rfl, resting, rfl, rfl⟩
  | advance context =>
    obtain ⟨config, advanced, rfl⟩ := Option.map_eq_some_iff.mp stepped
    obtain ⟨frame, below, shared, frames, found, taken, rfl⟩ := advance_cases advanced
    exact .inr ⟨context, frame, below, shared, frames, rfl, found, taken, rfl, rfl⟩

/-- What holds of the shared state and the calls, and of each frame beside them, holds in any
interleaving when each frame's own step keeps it and other frames do not mind. -/
theorem interleaved {start : Shared} {contexts : Nat} (holds : Shared → List Call → Prop)
    (stands : Shared → List Call → Frame → Prop) (initially : holds start [])
    (called : ∀ shared calls call, holds shared calls → holds shared (calls ++ [call]) ∧
      (∀ frame, stands shared calls frame → stands shared (calls ++ [call]) frame) ∧
      ∀ frame ∈ entry call, stands shared (calls ++ [call]) frame)
    (taken : ∀ before calls frame after frames, holds before calls →
      stands before calls frame → frameStep before frame = some (after, frames) →
      holds after calls ∧ (∀ other, stands before calls other → stands after calls other) ∧
      ∀ next ∈ frames, stands after calls next)
    {admitted : System Shared Frame Call → Label Call → Prop}
    {reached : System Shared Frame Call}
    (run : Run (step entry frameStep) admitted (idle contexts start) reached) :
    holds reached.config.shared reached.calls ∧
      ∀ frame, Present reached.config.callStacks frame →
        stands reached.config.shared reached.calls frame := by
  apply run.invariant fun system => holds system.config.shared system.calls ∧
    ∀ frame, Present system.config.callStacks frame →
      stands system.config.shared system.calls frame
  · refine ⟨initially, ?_⟩
    rintro frame ⟨stack, member, inside⟩
    rw [List.eq_of_mem_replicate member] at inside
    cases inside
  · rintro before label ⟨config, calls⟩ ⟨sound, standing⟩ - stepped
    rcases step_cases entry frameStep stepped with
      ⟨context, call, -, -, rfl, rfl⟩ |
      ⟨context, frame, below, shared, frames, -, found, advanced, rfl, rfl⟩
    · obtain ⟨holding, older, newer⟩ := called _ _ call sound
      refine ⟨holding, ?_⟩
      intro frame present
      rcases present_set present with new | old
      · exact newer frame new
      · exact older frame (standing frame old)
    · obtain ⟨holding, older, newer⟩ :=
        taken _ _ _ _ _ sound (standing frame (present_top found)) advanced
      refine ⟨holding, ?_⟩
      intro other present
      rcases present_advance found present with new | old
      · exact newer other new
      · exact older other (standing other old)

/-- Alone at work, a stack comes to its end in a given state, each of its frames by its own
steps. -/
inductive Finishes : Shared → List Frame → Shared → Prop
  | done {shared : Shared} : Finishes shared [] shared
  | step {shared next target : Shared} {frame : Frame} {frames below : List Frame}
      (stepped : frameStep shared frame = some (next, frames))
      (rest : Finishes next (frames ++ below) target) : Finishes shared (frame :: below) target

/-- A stack that is at work finishes from its next state on, since its top frame has only one
step. -/
theorem Finishes.next {shared next target : Shared} {frame : Frame} {frames below : List Frame}
    (finishes : Finishes frameStep shared (frame :: below) target)
    (stepped : frameStep shared frame = some (next, frames)) :
    Finishes frameStep next (frames ++ below) target := by
  cases finishes with
  | step taken rest =>
    rw [stepped] at taken
    obtain ⟨rfl, rfl⟩ := Prod.mk.inj (Option.some.inj taken)
    exact rest

/-- At most one stack is at work, and the shared state is or will be the target. -/
structure Awaits (config : Configuration Shared Frame) (target : Shared) : Prop where
  resting : (∀ stack ∈ config.callStacks, stack = []) → config.shared = target
  working : ∀ (context : Nat) (frame : Frame) (below : List Frame),
    config.callStacks[context]? = some (frame :: below) →
    Finishes frameStep config.shared (frame :: below) target
  alone : ∀ (context : Nat) (frame : Frame) (below : List Frame),
    config.callStacks[context]? = some (frame :: below) →
    ∀ (other : Nat), other ≠ context → ∀ stack, config.callStacks[other]? = some stack → stack = []

/-- The one stack that may be at work decides: while every other is empty, what it finishes with
is what the system waits for. -/
theorem Awaits.of_stack {callStacks : List (List Frame)} {context : Nat} {stack : List Frame}
    {shared target : Shared} (inside : context < callStacks.length)
    (others : ∀ other, other ≠ context → ∀ stack, callStacks[other]? = some stack → stack = [])
    (finishes : Finishes frameStep shared stack target) :
    Awaits frameStep ⟨shared, callStacks.set context stack⟩ target := by
  have here : (callStacks.set context stack)[context]? = some stack :=
    List.getElem?_set_self inside
  have elsewhere : ∀ other, other ≠ context → ∀ found,
      (callStacks.set context stack)[other]? = some found → found = [] := by
    intro other apart found read
    rw [List.getElem?_set_ne (Ne.symm apart)] at read
    exact others other apart found read
  have busy : ∀ other frame below,
      (callStacks.set context stack)[other]? = some (frame :: below) → other = context := by
    intro other frame below read
    by_contra apart
    cases elsewhere other apart _ read
  constructor
  · intro resting
    have empty : stack = [] := resting stack (List.mem_of_getElem? here)
    subst empty
    cases finishes
    rfl
  · intro other frame below read
    obtain rfl := busy other frame below read
    obtain rfl : stack = frame :: below := Option.some.inj (here.symm.trans read)
    exact finishes
  · intro other frame below read
    obtain rfl := busy other frame below read
    exact elsewhere

/-- Calls that do not overlap act one after the other: the system is always on its way to the
state that the calls begun so far make of the start. Induction over the run; a call begins where
the earlier ones have ended, and a step brings the one at work nearer to its end. -/
theorem one_after_the_other {start : Shared} {contexts : Nat} (effect : Call → Shared → Shared)
    (alone : ∀ shared call, Finishes frameStep shared (entry call) (effect call shared))
    {reached : System Shared Frame Call}
    (run : Run (step entry frameStep) Serial (idle contexts start) reached) :
    Awaits frameStep reached.config
      (reached.calls.foldl (fun shared call => effect call shared) start) := by
  apply run.invariant fun system => Awaits frameStep system.config
    (system.calls.foldl (fun shared call => effect call shared) start)
  · constructor
    · intro _
      rfl
    · intro context frame below read
      cases List.eq_of_mem_replicate (List.mem_of_getElem? read)
    · intro context frame below read
      cases List.eq_of_mem_replicate (List.mem_of_getElem? read)
  · rintro before label ⟨config, calls⟩ awaits serial stepped
    rcases step_cases entry frameStep stepped with
      ⟨context, call, rfl, found, rfl, rfl⟩ |
      ⟨context, frame, below, shared, frames, -, found, advanced, rfl, rfl⟩
    · have ended := awaits.resting serial
      apply Awaits.of_stack _ (List.getElem?_eq_some_iff.mp found).1
      · intro other _ stack read
        exact serial stack (List.mem_of_getElem? read)
      · rw [List.foldl_append, List.foldl_cons, List.foldl_nil, ← ended]
        exact alone _ call
    · apply Awaits.of_stack _ (List.getElem?_eq_some_iff.mp found).1
      · exact awaits.alone context frame below found
      · exact (awaits.working context frame below found).next _ advanced

end EmaczZephyr.SerialCalls
