import EmaczZephyr.Foundation.Window

/-!
# Descriptor rings

A ring of slots shared by a producer and an engine. The producer posts slots in order,
the engine finishes them in order, and the producer takes finished slots back in order.
So the slots that are posted form a window, the finished ones are the first part of it,
and every other slot is free. Each of the three operations moves one border.
-/

namespace EmaczZephyr.DescriptorRing

open Window

/-- The state of a slot: not posted, posted and not yet finished by the engine, or finished and
not yet taken back. -/
inductive Phase where
  | free
  | waiting
  | finished
deriving DecidableEq

/-- The phase at a position of a window of `count` slots of which `done` are finished. -/
def expected (done count position : Nat) : Phase :=
  if position < done then .finished else if position < count then .waiting else .free

/-- The slots of a ring of `size`, from the first of the window on: `done` finished ones, then
those that wait up to `count`, and free ones behind. -/
structure Layout (size first done count : Nat) (phase : Nat → Phase) : Prop where
  first_inside : first < size
  within : done ≤ count
  fits : count ≤ size
  phases : ∀ position, position < size → phase (slot size first position) =
    expected done count position

variable {size first done count : Nat} {phase : Nat → Phase}

/-- A ring of free slots has an empty window at slot zero. -/
theorem layout_empty (positive : 0 < size) : Layout size 0 0 0 fun _ => .free :=
  ⟨positive, le_rfl, Nat.zero_le _, fun _ _ => rfl⟩

/-- A change of one position of the ring leaves every other position as the layout has it,
because different positions are different slots. -/
theorem Layout.update_other (layout : Layout size first done count phase) {place position : Nat}
    (inside : place < size) (near : position < size) (other : position ≠ place) (content : Phase) :
    Function.update phase (slot size first place) content (slot size first position) =
      expected done count position := by
  rw [Function.update_of_ne, layout.phases position near]
  exact slot_ne layout.first_inside near inside other

/-- The producer posts the slot behind the window, which becomes the last that waits. There must
be room for it. -/
theorem Layout.post (layout : Layout size first done count phase) (room : count < size) :
    Layout size first done (count + 1)
      (Function.update phase (slot size first count) .waiting) := by
  have within := layout.within
  refine ⟨layout.first_inside, by omega, room, ?_⟩
  intro position near
  by_cases here : position = count
  · rw [here, Function.update_self, expected, if_neg (by omega), if_pos (by omega)]
  · rw [layout.update_other room near here]
    unfold expected
    congr 1
    exact if_congr (by omega) rfl rfl

/-- The engine finishes the first slot that waits, and the finished part of the window grows by
it. -/
theorem Layout.finish (layout : Layout size first done count phase) (waiting : done < count) :
    Layout size first (done + 1) count
      (Function.update phase (slot size first done) .finished) := by
  have fits := layout.fits
  refine ⟨layout.first_inside, waiting, fits, ?_⟩
  intro position near
  by_cases here : position = done
  · rw [here, Function.update_self, expected, if_pos (by omega)]
  · rw [layout.update_other (by omega) near here]
    unfold expected
    exact if_congr (by omega) rfl rfl

/-- The producer takes the first slot back, which must be finished, and the window begins one
slot later. The slot then stands behind the window, as the free ones do. -/
theorem Layout.reclaim (layout : Layout size first done count phase) (some_done : 0 < done) :
    Layout size ((first + 1) % size) (done - 1) (count - 1)
      (Function.update phase first .free) := by
  have within := layout.within
  have fits := layout.fits
  have inside := layout.first_inside
  refine ⟨Nat.mod_lt _ (by omega), by omega, by omega, ?_⟩
  intro position near
  have start : first = slot size first 0 := (slot_zero inside).symm
  rw [slot_advance]
  by_cases last : position + 1 = size
  · have wrapped : slot size first (position + 1) = first := by
      rw [last, slot, Nat.add_mod_right, Nat.mod_eq_of_lt inside]
    rw [wrapped, Function.update_self, expected, if_neg (by omega), if_neg (by omega)]
  · have kept := layout.update_other (by omega : 0 < size) (by omega : position + 1 < size)
      (by omega) .free
    rw [← start] at kept
    rw [kept]
    exact if_congr (by omega) rfl (if_congr (by omega) rfl rfl)

/-- A slot is posted exactly when it is in the window. Every slot has a position, and the layout
says what stands there. -/
theorem Layout.member_iff (layout : Layout size first done count phase) {index : Nat}
    (inside : index < size) : phase index ≠ .free ↔ Member size first count index := by
  obtain ⟨position, near, rfl⟩ := exists_position layout.first_inside inside
  have within := layout.within
  rw [layout.phases position near, member_slot layout.first_inside layout.fits near, expected]
  split
  · exact iff_of_true (by decide) (by omega)
  · split
    · exact iff_of_true (by decide) ‹_›
    · exact iff_of_false (by simp) ‹_›

/-- A finished first slot says that some slot of the window is finished, as there is none in
front of it. -/
theorem Layout.done_positive (layout : Layout size first done count phase)
    (finished : phase first = .finished) : 0 < done := by
  have start := layout.phases 0 (Nat.zero_lt_of_lt layout.first_inside)
  rw [slot_zero layout.first_inside, finished, expected] at start
  by_contra none
  rw [if_neg none] at start
  split at start <;> cases start

end EmaczZephyr.DescriptorRing
