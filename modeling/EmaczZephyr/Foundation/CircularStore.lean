import EmaczZephyr.Foundation.Window

/-!
# Queues in a circular memory

A memory of `size` words holds a queue in the window of `count` words from `first`.
One clock edge may push a word behind the queue, pop the word at its front, or do both.
The words of the queue before the edge, followed by the pushed one, are then the popped
word followed by the words of the queue behind the edge.
-/

namespace EmaczZephyr.CircularStore

open Window

variable {α : Type*}

/-- The queue in the memory, from its front: the words of the slots that follow the first one,
around the end of the memory. -/
def stored (size : Nat) (mem : Nat → α) (first count : Nat) : List α :=
  (List.range count).map fun position => mem (slot size first position)

variable {size first count : Nat} {mem : Nat → α}

/-- The queue has as many words as its count says, wherever it begins. -/
theorem stored_length : (stored size mem first count).length = count := by
  simp [stored]

/-- A queue with count zero has no words, whatever the memory holds. -/
theorem stored_empty : stored size mem first 0 = [] := rfl

/-- The last word of a longer queue is the word in the slot behind the shorter one. -/
theorem stored_concat : stored size mem first (count + 1) =
    stored size mem first count ++ [mem (slot size first count)] := by
  simp [stored, List.range_succ]

/-- The front of a queue is the word in its first slot, and behind it stands the queue that
begins one slot later. Induction over the count, the last words being the same. -/
theorem stored_front (bounded : first < size) : stored size mem first (count + 1) =
    mem first :: stored size mem ((first + 1) % size) count := by
  induction count with
  | zero => simp [stored, slot_zero bounded]
  | succ count inductionHypothesis =>
    rw [stored_concat, inductionHypothesis, stored_concat, slot_advance]
    rfl

/-- A write to a slot that is none of the queue's leaves the queue as it was. -/
theorem stored_update_outside {index : Nat} {word : α}
    (outside : ∀ position, position < count → slot size first position ≠ index) :
    stored size (Function.update mem index word) first count = stored size mem first count := by
  apply List.map_congr_left
  intro position member
  exact Function.update_of_ne (outside position (List.mem_range.mp member)) word mem

/-- A write behind the queue makes it longer by the word written. The slot behind a queue with
room is none of its own. -/
theorem stored_push {word : α} (bounded : first < size) (room : count < size) :
    stored size (Function.update mem (slot size first count) word) first (count + 1) =
      stored size mem first count ++ [word] := by
  rw [stored_concat, stored_update_outside, Function.update_self]
  intro position inside
  exact slot_ne bounded (inside.trans room) room inside.ne

/-- The memory behind an edge that may push: a pushed word goes to the slot behind the queue, and
nothing else is written. -/
def memAfter (size : Nat) (mem : Nat → α) (first count : Nat) : Option α → Nat → α
  | some word => Function.update mem (slot size first count) word
  | none => mem

/-- The front behind an edge that may pop: it moves by one slot around the memory. -/
def firstAfter (size first : Nat) (pops : Bool) : Nat :=
  if pops then (first + 1) % size else first

/-- The number of words behind an edge: one more for a push, and one less for a pop. -/
def countAfter (count : Nat) (pushed : Option α) (pops : Bool) : Nat :=
  count + pushed.toList.length - pops.toNat

/-- An edge that may push appends the pushed word, where there is one, as long as there is room
for it. -/
theorem stored_pushed {pushed : Option α} (bounded : first < size)
    (room : pushed.isSome = true → count < size) :
    stored size (memAfter size mem first count pushed) first (count + pushed.toList.length) =
      stored size mem first count ++ pushed.toList := by
  cases pushed with
  | none => simp [memAfter]
  | some word => exact stored_push bounded (room rfl)

/-- What an edge does to the queue: the words before it and the pushed one are the popped word
followed by the words behind it. A pop takes the front, and the push is seen by the rest of the
queue. -/
theorem stored_edge {pushed : Option α} {pops : Bool} (bounded : first < size)
    (room : pushed.isSome = true → count < size) (some_word : pops = true → 0 < count) :
    stored size mem first count ++ pushed.toList =
      (if pops then [mem first] else []) ++
        stored size (memAfter size mem first count pushed) (firstAfter size first pops)
          (countAfter count pushed pops) := by
  cases pops with
  | false => simpa [firstAfter, countAfter] using (stored_pushed bounded room).symm
  | true =>
    have positive := some_word rfl
    obtain ⟨rest, rfl⟩ : ∃ rest, count = rest + 1 := ⟨count - 1, by omega⟩
    have front_kept : memAfter size mem first (rest + 1) pushed first = mem first := by
      cases pushed with
      | none => rfl
      | some word =>
        apply Function.update_of_ne
        exact (slot_ne_first bounded (room rfl)).symm
    have shorter : rest + 1 + pushed.toList.length = rest + pushed.toList.length + 1 := by omega
    have whole : stored size (memAfter size mem first (rest + 1) pushed) first
        (rest + 1 + pushed.toList.length) = stored size mem first (rest + 1) ++ pushed.toList :=
      stored_pushed bounded room
    rw [shorter, stored_front bounded, front_kept] at whole
    rw [← whole, countAfter, shorter]
    rfl

/-- The queue behind an edge: without its front if that is popped, and with the pushed
word. -/
theorem stored_after {pushed : Option α} {pops : Bool} (bounded : first < size)
    (room : pushed.isSome = true → count < size) (some_word : pops = true → 0 < count) :
    stored size (memAfter size mem first count pushed) (firstAfter size first pops)
        (countAfter count pushed pops) =
      (stored size mem first count).drop pops.toNat ++ pushed.toList := by
  have moved : stored size mem first count ++ pushed.toList = _ :=
    stored_edge bounded room some_word
  cases pops with
  | false => exact moved.symm
  | true =>
    obtain ⟨rest, rfl⟩ : ∃ rest, count = rest + 1 := by
      have positive := some_word rfl
      exact ⟨count - 1, by omega⟩
    rw [stored_front bounded] at moved ⊢
    exact (List.cons.inj moved).2.symm

/-- The number of words stays within the memory: a push needs room, and a pop only takes away. -/
theorem count_after_le {pushed : Option α} {pops : Bool} (few : count ≤ size)
    (room : pushed.isSome = true → count < size) : countAfter count pushed pops ≤ size := by
  cases pushed with
  | none =>
    simp only [countAfter, Option.toList_none, List.length_nil]
    omega
  | some word =>
    have free := room rfl
    simp only [countAfter, Option.toList_some, List.length_singleton]
    omega

/-- The front stays a slot of the memory, because moving it wraps at the size. -/
theorem first_after_lt {pops : Bool} (bounded : first < size) :
    firstAfter size first pops < size := by
  unfold firstAfter
  split
  · exact Nat.mod_lt _ (by omega)
  · exact bounded

/-- The slot behind the queue moves with the pushes alone. A pop moves the front forward and
takes one from the count, and the two cancel out. -/
theorem end_after {pushed : Option α} {pops : Bool} (some_word : pops = true → 0 < count) :
    slot size (firstAfter size first pops) (countAfter count pushed pops) =
      if pushed.isSome then (slot size first count + 1) % size else slot size first count := by
  rw [slot_succ]
  have popped : slot size (firstAfter size first pops) (countAfter count pushed pops) =
      slot size first (count + pushed.toList.length) := by
    cases pops with
    | false => rfl
    | true =>
      have positive := some_word rfl
      simp only [firstAfter, if_true, slot_advance, countAfter, Bool.toNat_true]
      congr 1
      omega
  rw [popped]
  cases pushed <;> simp

/-- The front of a queue that is not empty is the word in its first slot. -/
theorem stored_head (bounded : first < size) (positive : 0 < count) :
    (stored size mem first count).head? = some (mem first) := by
  obtain ⟨rest, rfl⟩ : ∃ rest, count = rest + 1 := ⟨count - 1, by omega⟩
  rw [stored_front bounded, List.head?_cons]

end EmaczZephyr.CircularStore
