import Mathlib.Algebra.Order.BigOperators.Group.List
import Mathlib.Algebra.Order.Ring.Nat
import Mathlib.Tactic.Abel

/-!
# Execution contexts with call callStacks

Several contexts (threads, an interrupt, a work queue) run over one shared
state. Each has a call stack of frames; an empty stack is an idle context. A
step works on the frame at the top of one stack, changes the shared state and
replaces that frame: by its successor, by a callee above its own continuation,
or by nothing when it returns.

Two proof rules follow. A weight of frames summed over all callStacks changes only
by what the stepping frame became, so a quantity shared between the state and
the frames is conserved when each single frame step conserves it. And a frame
on some stack afterwards is either one of the new frames or was there before.
-/

namespace EmaczZephyr.Contexts

universe u v w
variable {Shared : Type u} {Frame : Type v} {M : Type w}

/-- The shared state and the call stack of every context. An empty stack is a context that waits
for something to do. -/
structure Configuration (Shared : Type u) (Frame : Type v) where
  shared : Shared
  callStacks : List (List Frame)

/-- Let one context run the frame on top of its stack. The frame is replaced by what its step
leaves in its place, above the frames below it; an idle context cannot run. -/
def advance (frameStep : Shared → Frame → Option (Shared × List Frame)) (context : Nat)
    (config : Configuration Shared Frame) : Option (Configuration Shared Frame) :=
  match config.callStacks[context]? with
  | some (frame :: below) =>
      (frameStep config.shared frame).map (fun next =>
        ⟨next.1, config.callStacks.set context (next.2 ++ below)⟩)
  | _ => none

/-- Give an idle context its first frames, with the shared state that the entry
leaves. -/
def enter (context : Nat) (shared : Shared) (frames : List Frame)
    (config : Configuration Shared Frame) : Option (Configuration Shared Frame) :=
  match config.callStacks[context]? with
  | some [] => some ⟨shared, config.callStacks.set context frames⟩
  | _ => none

/-- A weight of frames, summed over every stack and every frame on it. -/
def total [AddMonoid M] (weight : Frame → M) (callStacks : List (List Frame)) : M :=
  (callStacks.map (fun stack => (stack.map weight).sum)).sum

/-- A frame stands somewhere on a stack, whether it runs or waits for a callee. -/
def Present (callStacks : List (List Frame)) (frame : Frame) : Prop :=
  ∃ stack ∈ callStacks, frame ∈ stack

/-- A test of every frame looks through the stacks one by one, and so is decided. -/
instance decidablePresent (callStacks : List (List Frame)) (test : Frame → Prop)
    [DecidablePred test] : Decidable (∀ frame, Present callStacks frame → test frame) :=
  decidable_of_iff (∀ stack ∈ callStacks, ∀ frame ∈ stack, test frame)
    ⟨fun all _ ⟨stack, member, inside⟩ => all stack member _ inside,
      fun all stack member frame inside => all frame ⟨stack, member, inside⟩⟩

section Totals

variable [AddCommMonoid M]

/-- Replacing one stack exchanges its part of the total. Induction over the stacks down to the
context that is replaced. -/
theorem total_set (weight : Frame → M) {callStacks : List (List Frame)} {context : Nat}
    {old : List Frame} (new : List Frame) (found : callStacks[context]? = some old) :
    total weight (callStacks.set context new) + (old.map weight).sum =
      total weight callStacks + (new.map weight).sum := by
  induction callStacks generalizing context with
  | nil => simp at found
  | cons stack callStacks inductionHypothesis =>
    cases context with
    | zero =>
      have same : stack = old := by simpa using found
      subst same
      simp only [total, List.set_cons_zero, List.map_cons, List.sum_cons]
      abel
    | succ context =>
      have deeper : callStacks[context]? = some old := by simpa using found
      have tail := inductionHypothesis deeper
      simp only [total, List.set_cons_succ, List.map_cons, List.sum_cons] at tail ⊢
      rw [add_assoc, tail, add_assoc]

/-- Pointwise sums of weights add up, on one stack and then over all of them. -/
theorem total_add (left right : Frame → M) (callStacks : List (List Frame)) :
    total (fun frame => left frame + right frame) callStacks =
      total left callStacks + total right callStacks := by
  have inner (stack : List Frame) : (stack.map (fun frame => left frame + right frame)).sum =
      (stack.map left).sum + (stack.map right).sum := List.sum_map_add
  simp only [total, inner]
  exact List.sum_map_add

end Totals

/-- A frame's weight is part of the total of its stack, and that is part of the whole. -/
theorem weight_le_total (weight : Frame → Nat) {callStacks : List (List Frame)} {frame : Frame}
    (present : Present callStacks frame) : weight frame ≤ total weight callStacks := by
  obtain ⟨stack, member, inside⟩ := present
  have inStack : weight frame ≤ (stack.map weight).sum :=
    List.single_le_sum (by simp) _ (List.mem_map_of_mem inside)
  have inTotal : (stack.map weight).sum ≤ total weight callStacks :=
    List.single_le_sum (by simp) _
      (List.mem_map_of_mem (f := fun stack => (stack.map weight).sum) member)
  exact inStack.trans inTotal

/-- Frames that weigh nothing have no total, since every summand of every stack is zero. -/
theorem total_weightless [AddMonoid M] (weight : Frame → M) {callStacks : List (List Frame)}
    (weightless : ∀ frame, Present callStacks frame → weight frame = 0) :
    total weight callStacks = 0 := by
  refine List.sum_eq_zero ?_
  intro sum member
  obtain ⟨stack, stacked, rfl⟩ := List.mem_map.mp member
  refine List.sum_eq_zero ?_
  intro value inside
  obtain ⟨frame, framed, rfl⟩ := List.mem_map.mp inside
  exact weightless frame ⟨stack, stacked, framed⟩

/-- A total of natural weights vanishes exactly when every frame weighs nothing: a single weight
is at most the total. -/
theorem total_eq_zero (weight : Frame → Nat) {callStacks : List (List Frame)} :
    total weight callStacks = 0 ↔ ∀ frame, Present callStacks frame → weight frame = 0 := by
  constructor
  · intro zero frame present
    have bound := weight_le_total weight present
    omega
  · exact total_weightless weight

/-- Weights that agree on every frame that stands on a stack have the same total, whatever they
are elsewhere. -/
theorem total_congr [AddMonoid M] {left right : Frame → M} {callStacks : List (List Frame)}
    (same : ∀ frame, Present callStacks frame → left frame = right frame) :
    total left callStacks = total right callStacks := by
  refine congrArg List.sum (List.map_congr_left ?_)
  intro stack stacked
  refine congrArg List.sum (List.map_congr_left ?_)
  intro frame inside
  exact same frame ⟨stack, stacked, inside⟩

/-- A total of natural weights is monotone in the weight, summand by summand. -/
theorem total_mono {light heavy : Frame → Nat} (below : ∀ frame, light frame ≤ heavy frame)
    (callStacks : List (List Frame)) : total light callStacks ≤ total heavy callStacks := by
  refine List.sum_le_sum ?_
  intro stack _
  exact List.sum_le_sum (fun frame _ => below frame)

/-- When a frame takes up all room for a heavy weight and none of a light one below
it, no frame has the light weight. -/
theorem total_exclusive {light heavy : Frame → Nat} (below : ∀ frame, light frame ≤ heavy frame)
    {callStacks : List (List Frame)} (one : total heavy callStacks ≤ 1) {frame : Frame}
    (present : Present callStacks frame) (takes : 0 < heavy frame) (none : light frame = 0) :
    total light callStacks = 0 := by
  have split : total light callStacks + total (fun frame => heavy frame - light frame) callStacks =
      total heavy callStacks := by
    rw [← total_add]
    refine total_congr ?_
    intro other _
    have bound := below other
    omega
  have part := weight_le_total (fun frame => heavy frame - light frame) present
  simp only [none] at part
  omega

/-- Everything an advancing context does, in terms of its top frame: that frame had a step, and
the stack afterwards is what the step left above the frames below. -/
theorem advance_cases {frameStep : Shared → Frame → Option (Shared × List Frame)} {context : Nat}
    {before after : Configuration Shared Frame}
    (advanced : advance frameStep context before = some after) :
    ∃ frame below shared frames, before.callStacks[context]? = some (frame :: below) ∧
      frameStep before.shared frame = some (shared, frames) ∧
      after = ⟨shared, before.callStacks.set context (frames ++ below)⟩ := by
  unfold advance at advanced
  split at advanced
  · rename_i frame below found
    obtain ⟨⟨shared, frames⟩, stepped, rfl⟩ := Option.map_eq_some_iff.mp advanced
    exact ⟨frame, below, shared, frames, found, stepped, rfl⟩
  · cases advanced

/-- Everything an entry does: the context was idle, and its stack afterwards consists of the
frames entered. -/
theorem enter_cases {context : Nat} {shared : Shared} {frames : List Frame}
    {before after : Configuration Shared Frame}
    (entered : enter context shared frames before = some after) :
    before.callStacks[context]? = some [] ∧
      after = ⟨shared, before.callStacks.set context frames⟩ := by
  unfold enter at entered
  split at entered
  · rename_i found
    exact ⟨found, (Option.some.inj entered).symm⟩
  · cases entered

/-- The top frame of a stack is present, which is where a step finds the frame it runs. -/
theorem present_top {callStacks : List (List Frame)} {context : Nat} {frame : Frame}
    {below : List Frame} (found : callStacks[context]? = some (frame :: below)) :
    Present callStacks frame :=
  ⟨_, List.mem_of_getElem? found, List.mem_cons_self⟩

/-- A frame present after a replacement is one of the new stack or was present before it, on a
stack that was not replaced. -/
theorem present_set {callStacks : List (List Frame)} {context : Nat} {new : List Frame}
    {frame : Frame} (present : Present (callStacks.set context new) frame) :
    frame ∈ new ∨ Present callStacks frame := by
  obtain ⟨stack, member, inside⟩ := present
  rcases List.mem_or_eq_of_mem_set member with old | rfl
  · exact .inr ⟨stack, old, inside⟩
  · exact .inl inside

/-- A frame present after a context advanced is one of the frames that replaced
the top one, or was present before. -/
theorem present_advance {callStacks : List (List Frame)} {context : Nat} {top frame : Frame}
    {frames below : List Frame} (found : callStacks[context]? = some (top :: below))
    (present : Present (callStacks.set context (frames ++ below)) frame) :
    frame ∈ frames ∨ Present callStacks frame := by
  rcases present_set present with inside | before
  · rcases List.mem_append.mp inside with new | old
    · exact .inl new
    · exact .inr ⟨_, List.mem_of_getElem? found, List.mem_cons_of_mem _ old⟩
  · exact .inr before

/-- An advancing context exchanges the weight of its top frame for the weight of
the frames that replace it. -/
theorem total_advance [AddCancelCommMonoid M] (weight : Frame → M) {callStacks : List (List Frame)}
    {context : Nat} {frame : Frame} {below frames : List Frame}
    (found : callStacks[context]? = some (frame :: below)) :
    total weight (callStacks.set context (frames ++ below)) + weight frame =
      total weight callStacks + (frames.map weight).sum := by
  have exchanged := total_set weight (frames ++ below) found
  simp only [List.map_cons, List.sum_cons, List.map_append, List.sum_append] at exchanged
  refine add_right_cancel (b := (below.map weight).sum) ?_
  rw [add_assoc, exchanged, add_assoc]

/-- An entered context adds the weight of its first frames, because its stack weighed nothing
before. -/
theorem total_enter [AddCommMonoid M] (weight : Frame → M) {callStacks : List (List Frame)}
    {context : Nat} {frames : List Frame} (idle : callStacks[context]? = some []) :
    total weight (callStacks.set context frames) =
      total weight callStacks + (frames.map weight).sum := by
  have exchanged := total_set weight frames idle
  simpa using exchanged

/-- A quantity of the shared state, with the part of it that each frame carries. -/
structure Account (Shared : Type u) (Frame : Type v) (M : Type w) where
  inShared : Shared → M
  inFrame : Frame → M

/-- What the shared state and all frames hold together, in one account. -/
def Account.balance [AddMonoid M] (account : Account Shared Frame M)
    (config : Configuration Shared Frame) : M :=
  account.inShared config.shared + total account.inFrame config.callStacks

/-- A frame step exchanges equal amounts between the shared state and the frames: what the state
gains is what the frames lose. -/
def Account.Balanced [AddMonoid M] (account : Account Shared Frame M) (before : Shared)
    (frame : Frame) (after : Shared) (frames : List Frame) : Prop :=
  account.inShared after + (frames.map account.inFrame).sum =
    account.inShared before + account.inFrame frame

/-- A balanced step of one context keeps the balance. The other frames keep their weights, so
only the exchange of the stepping frame counts. -/
theorem balance_advance [AddCancelCommMonoid M] (account : Account Shared Frame M)
    {config : Configuration Shared Frame} {context : Nat} {frame : Frame}
    {below frames : List Frame} {shared : Shared}
    (found : config.callStacks[context]? = some (frame :: below))
    (balanced : account.Balanced config.shared frame shared frames) :
    account.balance ⟨shared, config.callStacks.set context (frames ++ below)⟩ =
      account.balance config := by
  have exchanged : total account.inFrame (config.callStacks.set context (frames ++ below)) +
      account.inFrame frame = _ := total_advance account.inFrame found
  refine add_right_cancel (b := account.inFrame frame) ?_
  calc account.inShared shared + total account.inFrame _ + account.inFrame frame
      = account.inShared shared + (frames.map account.inFrame).sum +
          total account.inFrame config.callStacks := by rw [add_assoc, exchanged]; abel
    _ = account.inShared config.shared + account.inFrame frame +
          total account.inFrame config.callStacks := by rw [balanced]
    _ = account.balance config + account.inFrame frame := by unfold Account.balance; abel

/-- An entry that moves an amount from the shared state into the first frames
keeps the balance. -/
theorem balance_enter [AddCommMonoid M] (account : Account Shared Frame M)
    {config : Configuration Shared Frame} {context : Nat} {frames : List Frame} {shared : Shared}
    (idle : config.callStacks[context]? = some [])
    (moved : account.inShared shared + (frames.map account.inFrame).sum =
      account.inShared config.shared) :
    account.balance ⟨shared, config.callStacks.set context frames⟩ = account.balance config := by
  have exchanged : total account.inFrame (config.callStacks.set context frames) = _ :=
    total_enter account.inFrame idle
  unfold Account.balance
  rw [← moved, exchanged]
  abel

end EmaczZephyr.Contexts
