import EmaczZephyr.Foundation.Clocked

/-!
# Stages between ready/valid streams

A stage is a clocked machine between two streams. In a cycle an item is taken when it is
valid and the stage is ready, and one is sent when the stage offers it and the sink is
ready. Ready, valid and the offered item are read off the registers, so two stages can be
put in a row without a combinational loop: the first sees the second's ready, the second
sees what the first offers, and both move at the same edge.

In a row what the first sends is what the second takes, cycle by cycle. So what is shown
of each stage for all its cycles holds of it inside a row, and the accounts join.
-/

namespace EmaczZephyr.Handshake

open Clocked

variable {State S T α β γ : Type*}

/-- What a stage sees in one cycle: the item in front of it, whether that is valid, and
whether the sink is ready. -/
structure StageCycle (α : Type*) where
  item : α
  valid : Bool
  ready : Bool

/-- A stage with registers `State` between a stream of `α` and one of `β`. -/
structure Stage (State α β : Type*) where
  ready : State → Bool
  valid : State → Bool
  offered : State → β
  next : State → StageCycle α → State

namespace Stage

variable (stage : Stage State α β)

/-- The item taken in a cycle, if one is: it is valid, and the stage is ready for it. -/
def taken (state : State) (cycle : StageCycle α) : List α :=
  if cycle.valid && stage.ready state then [cycle.item] else []

/-- The item sent in a cycle, if one is: the stage offers it, and its sink is ready. -/
def sent (state : State) (cycle : StageCycle α) : List β :=
  if stage.valid state && cycle.ready then [stage.offered state] else []

/-- The items taken in a run from a start, in the order of the cycles. -/
def allTaken (start : State) (cycles : List (StageCycle α)) : List α :=
  recorded stage.next stage.taken start cycles

/-- The items sent in a run from a start, in the order of the cycles. -/
def allSent (start : State) (cycles : List (StageCycle α)) : List β :=
  recorded stage.next stage.sent start cycles

/-- The registers of the stage behind a run from a start. -/
def reached (start : State) (cycles : List (StageCycle α)) : State :=
  after stage.next start cycles

variable (first : Stage S α β) (second : Stage T β γ)

/-- What the first stage sees of a cycle: the item that comes in, and the second stage as its
sink. -/
def upstream (state : S × T) (cycle : StageCycle α) : StageCycle α :=
  ⟨cycle.item, cycle.valid, second.ready state.2⟩

/-- What the second stage sees of a cycle: the first stage as its source, and the sink of the
row. -/
def downstream (state : S × T) (cycle : StageCycle α) : StageCycle β :=
  ⟨first.offered state.1, first.valid state.1, cycle.ready⟩

/-- The row of two stages, which takes what the first takes and offers what the second offers.
Both see the registers in front of the edge. -/
def row : Stage (S × T) α γ where
  ready state := first.ready state.1
  valid state := second.valid state.2
  offered state := second.offered state.2
  next state cycle :=
    (first.next state.1 (upstream second state cycle),
      second.next state.2 (downstream first state cycle))

/-- The cycles of a run of the row as its first stage sees them. -/
def upstreamCycles (start : S × T) (cycles : List (StageCycle α)) :
    List (StageCycle α) :=
  recorded (row first second).next (fun state cycle => [upstream second state cycle]) start
    cycles

/-- The cycles of a run of the row as its second stage sees them. -/
def downstreamCycles (start : S × T) (cycles : List (StageCycle α)) :
    List (StageCycle β) :=
  recorded (row first second).next (fun state cycle => [downstream first state cycle]) start
    cycles

end Stage

section Part

variable {Part Input Seen Event : Type*} {next : State → Input → State}
  {partNext : Part → Seen → Part}

/-- A part of a machine that moves by what it sees is, behind a run, where the cycles it
saw take it. -/
theorem part_after {part : State → Part} {sees : State → Input → Seen}
    (moves : ∀ state input, part (next state input) = partNext (part state) (sees state input))
    (start : State) (inputs : List Input) :
    after partNext (part start) (recorded next (fun state input => [sees state input]) start
      inputs) = part (after next start inputs) := by
  induction inputs generalizing start with
  | nil => rfl
  | cons input inputs inductionHypothesis =>
    have rest := inductionHypothesis (next start input)
    rw [moves] at rest
    exact rest

/-- What it records in the cycles it saw is what the machine records of it. -/
theorem part_recorded {part : State → Part} {sees : State → Input → Seen}
    (moves : ∀ state input, part (next state input) = partNext (part state) (sees state input))
    (observe : Part → Seen → List Event) (start : State) (inputs : List Input) :
    recorded partNext observe (part start)
        (recorded next (fun state input => [sees state input]) start inputs) =
      recorded next (fun state input => observe (part state) (sees state input)) start inputs := by
  induction inputs generalizing start with
  | nil => rfl
  | cons input inputs inductionHypothesis =>
    have rest := inductionHypothesis (next start input)
    rw [moves] at rest
    rw [recorded, recorded, List.singleton_append, recorded, rest]

end Part

namespace Stage

section Concat

variable (stage : Stage State α β) (start : State) (cycles : List (StageCycle α))
  (cycle : StageCycle α)

/-- One more cycle moves the registers by one edge, from where the earlier cycles have taken
them. -/
theorem reached_concat : stage.reached start (cycles ++ [cycle]) =
    stage.next (stage.reached start cycles) cycle :=
  after_concat start cycles cycle

/-- One more cycle takes its item, if it takes one, behind those taken earlier. -/
theorem taken_concat : stage.allTaken start (cycles ++ [cycle]) =
    stage.allTaken start cycles ++ stage.taken (stage.reached start cycles) cycle :=
  recorded_concat stage.taken start cycles cycle

/-- One more cycle sends its item, if it sends one, behind those sent earlier. -/
theorem sent_concat : stage.allSent start (cycles ++ [cycle]) =
    stage.allSent start cycles ++ stage.sent (stage.reached start cycles) cycle :=
  recorded_concat stage.sent start cycles cycle

end Concat

variable (first : Stage S α β) (second : Stage T β γ) (start : S × T)
  (cycles : List (StageCycle α))

/-- The first stage of a row moves by what it sees, with the second stage as its sink. -/
theorem first_moves (state : S × T) (cycle : StageCycle α) :
    ((row first second).next state cycle).1 =
      first.next state.1 (upstream second state cycle) := rfl

/-- The second stage of a row moves by what it sees, with the first stage as its source. -/
theorem second_moves (state : S × T) (cycle : StageCycle α) :
    ((row first second).next state cycle).2 =
      second.next state.2 (downstream first state cycle) := rfl

/-- The registers of a row behind a run are those of its two stages behind the runs that they
see. -/
theorem row_reached : (row first second).reached start cycles =
    (first.reached start.1 (upstreamCycles first second start cycles),
      second.reached start.2 (downstreamCycles first second start cycles)) := by
  apply Prod.ext
  · exact (part_after (first_moves first second) start cycles).symm
  · exact (part_after (second_moves first second) start cycles).symm

/-- The row takes what its first stage takes in the run that it sees. -/
theorem row_taken : (row first second).allTaken start cycles =
    first.allTaken start.1 (upstreamCycles first second start cycles) :=
  (part_recorded (first_moves first second) first.taken start cycles).symm

/-- The row sends what its second stage sends in the run that it sees. -/
theorem row_sent : (row first second).allSent start cycles =
    second.allSent start.2 (downstreamCycles first second start cycles) :=
  (part_recorded (second_moves first second) second.sent start cycles).symm

/-- What the first stage sends the second takes, item by item: in every cycle both speak of the
same valid, ready and item. -/
theorem row_middle : first.allSent start.1 (upstreamCycles first second start cycles) =
    second.allTaken start.2 (downstreamCycles first second start cycles) := by
  have sends := part_recorded (first_moves first second) first.sent start cycles
  have takes := part_recorded (second_moves first second) second.taken start cycles
  exact sends.trans takes.symm

end Stage

/-- An item was on offer in the last cycle, and the sink left it. -/
def Waited (stage : Stage State α β) (start : State) (cycles : List (StageCycle α)) : Prop :=
  ∃ earlier last, cycles = earlier ++ [last] ∧
    stage.valid (stage.reached start earlier) = true ∧ last.ready = false

/-- The sink leaves every item on offer for a cycle before it takes it. -/
inductive Patient (stage : Stage State α β) (start : State) : List (StageCycle α) → Prop
  | none : Patient stage start []
  | cycle {cycles : List (StageCycle α)} {cycle : StageCycle α}
      (earlier : Patient stage start cycles)
      (waits : stage.valid (stage.reached start cycles) = true → cycle.ready = true →
        Waited stage start cycles) : Patient stage start (cycles ++ [cycle])

/-- One more cycle is waited for exactly when an item was on offer and was left in it. -/
theorem waited_concat {stage : Stage State α β} {start : State} {cycles : List (StageCycle α)}
    {cycle : StageCycle α} : Waited stage start (cycles ++ [cycle]) ↔
      stage.valid (stage.reached start cycles) = true ∧ cycle.ready = false := by
  constructor
  · rintro ⟨earlier, last, same, valid, left⟩
    obtain ⟨rfl, rfl⟩ := List.append_singleton_inj.mp same
    exact ⟨valid, left⟩
  · rintro ⟨valid, left⟩
    exact ⟨cycles, cycle, rfl, valid, left⟩

/-- A sink that never takes anything is patient, because the condition is on taking alone. -/
theorem Patient.leaving {stage : Stage State α β} {start : State} {cycles : List (StageCycle α)}
    (left : ∀ cycle ∈ cycles, cycle.ready = false) : Patient stage start cycles := by
  induction cycles using List.reverseRecOn with
  | nil => exact .none
  | append_singleton cycles cycle inductionHypothesis =>
    apply Patient.cycle
    · exact inductionHypothesis fun other member => left other (List.mem_append_left _ member)
    · intro _ ready
      rw [left cycle (List.mem_append_right _ (List.mem_singleton_self cycle))] at ready
      cases ready

/-- The sink of a row is the sink of its second stage, so when it is patient with the row it is
patient with that stage. -/
theorem Patient.downstream {first : Stage S α β} {second : Stage T β γ} {start : S × T}
    {cycles : List (StageCycle α)} (patient : Patient (first.row second) start cycles) :
    Patient second start.2 (Stage.downstreamCycles first second start cycles) := by
  have concat (cycles : List (StageCycle α)) (cycle : StageCycle α) :
      Stage.downstreamCycles first second start (cycles ++ [cycle]) =
        Stage.downstreamCycles first second start cycles ++
          [Stage.downstream first ((first.row second).reached start cycles) cycle] :=
    recorded_concat _ start cycles cycle
  have offers (cycles : List (StageCycle α)) :
      (first.row second).valid ((first.row second).reached start cycles) =
        second.valid (second.reached start.2
          (Stage.downstreamCycles first second start cycles)) := by
    rw [Stage.row_reached]
    rfl
  induction patient with
  | none => exact .none
  | @cycle cycles cycle earlier waits inductionHypothesis =>
    rw [concat]
    apply Patient.cycle inductionHypothesis
    intro valid ready
    rw [← offers] at valid
    obtain ⟨before, last, rfl, offered, left⟩ := waits valid ready
    rw [concat]
    apply waited_concat.mpr
    rw [← offers]
    exact ⟨offered, left⟩

/-- A stage that is a queue of some depth. What it offers is its front, and what it has once
offered it offers until the sink takes it; how many cycles an item needs to come on offer is
left open. -/
structure Queue (State α : Type*) (depth : Nat) extends Stage State α α where
  start : State
  contents : State → List α
  start_empty : contents start = []
  bounded : ∀ state, (contents state).length ≤ depth
  front : ∀ state, valid state = true → (contents state).head? = some (offered state)
  offering : ∀ state cycle, valid state = true → cycle.ready = false →
    valid (next state cycle) = true
  moves : ∀ state cycle, contents state ++ toStage.taken state cycle =
    toStage.sent state cycle ++ contents (next state cycle)

/-- What a queue takes is what it sends and what it holds, in order. -/
theorem Queue.conserved {depth : Nat} (queue : Queue State α depth) (cycles : List (StageCycle α)) :
    queue.allTaken queue.start cycles =
      queue.allSent queue.start cycles ++ queue.contents (queue.reached queue.start cycles) := by
  exact @exchange _ _ _ queue.next _ (fun _ => True) trivial (fun _ _ _ => trivial) _ _ _
    queue.start_empty (fun state cycle _ => queue.moves state cycle) cycles

/-- An offered item that the sink refuses stays: nothing is sent, so the contents keep their
front, and the law of offering shows it again. -/
theorem Queue.stable {depth : Nat} (queue : Queue State α depth) {state : State}
    {cycle : StageCycle α} (valid : queue.valid state = true) (refused : cycle.ready = false) :
    queue.valid (queue.next state cycle) = true ∧
      queue.offered (queue.next state cycle) = queue.offered state := by
  have front := queue.front state valid
  have kept : queue.contents (queue.next state cycle) =
      queue.contents state ++ queue.taken state cycle := by
    rw [queue.moves, Stage.sent, refused, Bool.and_false]
    rfl
  have still : (queue.contents (queue.next state cycle)).head? = some (queue.offered state) := by
    rw [kept, List.head?_append, front]
    rfl
  have valid_next := queue.offering state cycle valid refused
  exact ⟨valid_next, Option.some.inj ((queue.front _ valid_next).symm.trans still)⟩

/-- The items behind a cycle: with the one taken, and without the front if it is sent. -/
def listNext (depth : Nat) (items : List α) (cycle : StageCycle α) : List α :=
  (items ++ if cycle.valid && decide (items.length < depth) then [cycle.item] else []).drop
    (if !items.isEmpty && cycle.ready then 1 else 0)

/-- The list stays within its depth, since it takes an item only where it has room behind the one
sent. -/
theorem list_next_bounded {depth : Nat} {items : List α} (few : items.length ≤ depth)
    (cycle : StageCycle α) : (listNext depth items cycle).length ≤ depth := by
  unfold listNext
  rw [List.length_drop, List.length_append]
  split
  · rename_i accepts
    have room := of_decide_eq_true (Bool.and_eq_true_iff.mp accepts).2
    rw [List.length_singleton]
    omega
  · rw [List.length_nil]
    omega

/-- The items with the one taken are the one sent and the items behind the cycle. -/
theorem list_next_moves (blank : α) (depth : Nat) (items : List α) (cycle : StageCycle α) :
    items ++ (if cycle.valid && decide (items.length < depth) then [cycle.item] else []) =
      (if !items.isEmpty && cycle.ready then [items.headD blank] else []) ++
        listNext depth items cycle := by
  cases items with
  | nil => rfl
  | cons first rest =>
    unfold listNext
    cases cycle.ready with
    | false => rfl
    | true => rfl

/-- A list of bounded length, with its first item on offer. The outputs show `blank` while it
is empty. -/
def Queue.list (blank : α) (depth : Nat) :
    Queue { items : List α // items.length ≤ depth } α depth where
  ready state := decide (state.1.length < depth)
  valid state := !state.1.isEmpty
  offered state := state.1.headD blank
  next state cycle := ⟨listNext depth state.1 cycle, list_next_bounded state.2 cycle⟩
  start := ⟨[], Nat.zero_le depth⟩
  contents := Subtype.val
  start_empty := rfl
  bounded := Subtype.property
  front state valid := by
    obtain ⟨items, few⟩ := state
    cases items with
    | nil => cases valid
    | cons first rest => rfl
  offering state cycle valid refused := by
    obtain ⟨items, few⟩ := state
    cases items with
    | nil => cases valid
    | cons first rest => simp [listNext, refused]
  moves state cycle := list_next_moves blank depth state.1 cycle

end EmaczZephyr.Handshake
