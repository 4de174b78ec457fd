import Mathlib.Data.List.Basic
import Mathlib.Logic.Function.Basic
import Mathlib.Tactic.Linarith

/-!
# Circular windows

A ring of `size` slots is used as a queue: the window that starts at slot
`first` and has `count` members occupies the slots `first`, `first + 1`, and so
on, taken modulo the size. The lemmas below are the facts a queue on a ring
needs: positions below the size name different slots, every slot has a
position, and advancing the start shifts every position by one.
-/

namespace EmaczZephyr.Window

/-- The slot at a position of the window that starts at `first`, counted around the ring of
`size` slots. -/
def slot (size first position : Nat) : Nat := (first + position) % size

/-- The slots of the window of `count` positions from `first`. -/
def Member (size first count index : Nat) : Prop :=
  ∃ position, position < count ∧ index = slot size first position

/-- Every position is at a slot of the ring. -/
theorem slot_lt {size : Nat} (positive : 0 < size) (first position : Nat) :
    slot size first position < size :=
  Nat.mod_lt _ positive

/-- The position zero is at the first slot. -/
theorem slot_zero {size first : Nat} (bounded : first < size) : slot size first 0 = first := by
  simpa [slot] using Nat.mod_eq_of_lt bounded

/-- A bounded start wraps at most once within a bounded position, so the remainder is a
comparison and a difference. -/
theorem slot_eq {size first position : Nat} (bounded : first < size) (near : position ≤ size) :
    slot size first position =
      if first + position < size then first + position else first + position - size := by
  unfold slot
  by_cases inside : first + position < size
  · rw [if_pos inside, Nat.mod_eq_of_lt inside]
  · rw [if_neg inside, Nat.mod_eq_sub_mod (by omega), Nat.mod_eq_of_lt (by omega)]

/-- Different positions of one revolution are different slots: both wrap at most once, and equal
slots leave equal positions. -/
theorem slot_injective {size first left right : Nat} (bounded : first < size)
    (leftNear : left < size) (rightNear : right < size)
    (same : slot size first left = slot size first right) : left = right := by
  rw [slot_eq bounded leftNear.le, slot_eq bounded rightNear.le] at same
  split at same <;> split at same <;> omega

/-- Every slot of the ring is at some position of one revolution, ahead of the start or behind
the wrap. -/
theorem exists_position {size first index : Nat} (bounded : first < size) (inside : index < size) :
    ∃ position, position < size ∧ index = slot size first position := by
  by_cases ahead : first ≤ index
  · refine ⟨index - first, by omega, ?_⟩
    rw [slot_eq bounded (by omega)]
    split <;> omega
  · refine ⟨index + size - first, by omega, ?_⟩
    rw [slot_eq bounded (by omega)]
    split <;> omega

/-- The slot behind the one at a position is at the next position, around the end of the ring. -/
theorem slot_succ {size : Nat} (first position : Nat) :
    (slot size first position + 1) % size = slot size first (position + 1) := by
  simp only [slot, Nat.mod_add_mod, Nat.add_assoc]

/-- Advancing the start shifts every position by one, which is how a window loses its front. -/
theorem slot_advance {size : Nat} (first position : Nat) :
    slot size ((first + 1) % size) position = slot size first (position + 1) := by
  simp only [slot, Nat.mod_add_mod]
  congr 1
  omega

/-- Different positions of one revolution are different slots, in the form in which a rewriting
needs it. -/
theorem slot_ne {size first left right : Nat} (bounded : first < size) (left_near : left < size)
    (right_near : right < size) (different : left ≠ right) :
    slot size first left ≠ slot size first right := by
  intro same
  exact different (slot_injective bounded left_near right_near same)

/-- The later slots of one revolution are not the first, so a write behind the front spares the
front. -/
theorem slot_ne_first {size first position : Nat} (bounded : first < size)
    (near : position + 1 < size) : slot size first (position + 1) ≠ first := by
  have apart := slot_ne bounded near (by omega) (Nat.succ_ne_zero position)
  rwa [slot_zero bounded] at apart

/-- A position of one revolution is in the window exactly when it is below the
count. -/
theorem member_slot {size first count position : Nat} (bounded : first < size)
    (few : count ≤ size) (near : position < size) :
    Member size first count (slot size first position) ↔ position < count := by
  constructor
  · rintro ⟨other, inside, same⟩
    have equal : position = other :=
      slot_injective bounded near (by omega) same
    omega
  · intro inside
    exact ⟨position, inside, rfl⟩

/-- A window of no positions has no slots. -/
theorem not_member_zero {size first index : Nat} : ¬ Member size first 0 index := by
  rintro ⟨position, inside, -⟩
  omega

/-- Growing the window adds the slot behind its last one and no other. -/
theorem member_grow {size first count index : Nat} :
    Member size first (count + 1) index ↔
      Member size first count index ∨ index = slot size first count := by
  constructor
  · rintro ⟨position, inside, rfl⟩
    by_cases last : position = count
    · exact .inr (last ▸ rfl)
    · exact .inl ⟨position, by omega, rfl⟩
  · rintro (⟨position, inside, rfl⟩ | rfl)
    · exact ⟨position, by omega, rfl⟩
    · exact ⟨count, by omega, rfl⟩

/-- Dropping the first member leaves the other slots of the window. The start moves by one, and
no later position is at the first slot. -/
theorem member_shrink {size first count index : Nat} (bounded : first < size)
    (few : count ≤ size) (positive : 0 < count) :
    Member size ((first + 1) % size) (count - 1) index ↔
      Member size first count index ∧ index ≠ first := by
  constructor
  · rintro ⟨position, inside, rfl⟩
    rw [slot_advance]
    exact ⟨⟨position + 1, by omega, rfl⟩, slot_ne_first bounded (by omega)⟩
  · rintro ⟨⟨position, inside, rfl⟩, different⟩
    have later : position ≠ 0 := by
      rintro rfl
      exact different (slot_zero bounded)
    refine ⟨position - 1, by omega, ?_⟩
    rw [slot_advance]
    congr 1
    omega

/-- The contents of the occupied slots, in the order of the slots; empty slots contribute
nothing. -/
def contents {α : Type*} (size : Nat) (held : Nat → Option α) : List α :=
  (List.range size).filterMap held

/-- A slot outside the ring contributes nothing to the contents, whatever is written there. -/
theorem contents_update_outside {α : Type*} {size index : Nat} (outside : size ≤ index)
    (held : Nat → Option α) (content : Option α) :
    contents size (Function.update held index content) = contents size held := by
  refine List.filterMap_congr ?_
  intro other inside
  have below : other < size := List.mem_range.mp inside
  have different : other ≠ index := by omega
  exact Function.update_of_ne different content held

/-- Changing one slot exchanges its old content for the new one, up to order. Induction over the
size of the ring, with the changed slot last or further down. -/
theorem contents_update {α : Type*} {size index : Nat} (inside : index < size)
    (held : Nat → Option α) (content : Option α) :
    (contents size (Function.update held index content) ++ (held index).toList).Perm
      (contents size held ++ content.toList) := by
  induction size with
  | zero => omega
  | succ size inductionHypothesis =>
    have grown (fill : Nat → Option α) :
        contents (size + 1) fill = contents size fill ++ (fill size).toList := by
      simp only [contents, List.range_succ, List.filterMap_append]
      cases content : fill size <;> simp [content]
    rw [grown, grown]
    by_cases last : index = size
    · subst last
      rw [contents_update_outside le_rfl, Function.update_self, List.append_assoc,
        List.append_assoc]
      exact List.Perm.append_left _ List.perm_append_comm
    · rw [Function.update_of_ne (Ne.symm last)]
      have rest := inductionHypothesis (by omega)
      have swap (front middle back : List α) :
          (front ++ middle ++ back).Perm (front ++ back ++ middle) := by
        rw [List.append_assoc, List.append_assoc]
        exact List.Perm.append_left _ List.perm_append_comm
      exact (swap _ _ _).trans ((rest.append_right _).trans (swap _ _ _))

end EmaczZephyr.Window
