import Mathlib.Data.List.Induction

/-!
# Updates that race

A value is changed by reading it, computing a new value and writing that back. Where contexts
do this without a lock, what was written between a read and its write is lost. The value is
still what some of the updates make of the start, in the order of their writes; and the latest
write is among them.

An update of a word clears the bits of one mask and sets those of another. It leaves every
other bit.
-/

namespace EmaczZephyr.RacingUpdates

universe u v
variable {Value : Type u} {Update : Type v}

section Updates

variable (apply : Update → Value → Value)

/-- Updates, one after the other, from a start value. -/
def applied (start : Value) (updates : List Update) : Value :=
  updates.foldl (fun value update => apply update value) start

/-- Some of the updates in the history have made the value, in their order; the others were lost
to a race. -/
def MadeBySome (start : Value) (history : List Update) (value : Value) : Prop :=
  ∃ kept, kept.Sublist history ∧ value = applied apply start kept

/-- Some of the updates have made the value, and the latest one is among them. -/
def MadeByLatest (start : Value) (history : List Update) (value : Value) : Prop :=
  ∃ kept, kept.Sublist history ∧ kept.getLast? = history.getLast? ∧
    value = applied apply start kept

variable {apply} {start value : Value} {history : List Update} {update : Update}

/-- Before any update the value is the start value, made by none. -/
theorem MadeByLatest.unwritten : MadeByLatest apply start [] start :=
  ⟨[], List.Sublist.refl [], rfl, rfl⟩

/-- A value made by some updates with the latest among them is made by some. -/
theorem MadeByLatest.by_some (made : MadeByLatest apply start history value) :
    MadeBySome apply start history value := by
  obtain ⟨kept, among, -, same⟩ := made
  exact ⟨kept, among, same⟩

/-- What was read stays made by some of the updates when others write behind it. -/
theorem MadeBySome.later (made : MadeBySome apply start history value) :
    MadeBySome apply start (history ++ [update]) value := by
  obtain ⟨kept, among, same⟩ := made
  exact ⟨kept, among.trans (List.sublist_append_left history [update]), same⟩

/-- A write of an update to a value that was read at some time. -/
theorem MadeBySome.written (made : MadeBySome apply start history value) :
    MadeByLatest apply start (history ++ [update]) (apply update value) := by
  obtain ⟨kept, among, rfl⟩ := made
  refine ⟨kept ++ [update], among.append (List.Sublist.refl [update]), ?_, ?_⟩
  · rw [List.getLast?_append, List.getLast?_append]
    rfl
  · rw [applied, applied, List.foldl_append]
    rfl

/-- What each update keeps holds of a value that some of them have made. -/
theorem MadeBySome.keeps (made : MadeBySome apply start history value)
    (property : Value → Prop) (initially : property start)
    (kept : ∀ update ∈ history, ∀ value, property value → property (apply update value)) :
    property value := by
  obtain ⟨some, among, rfl⟩ := made
  have members := among.subset
  clear among
  induction some using List.reverseRecOn with
  | nil => exact initially
  | append_singleton earlier update inductionHypothesis =>
    rw [applied, List.foldl_append]
    apply kept update (members (by simp))
    apply inductionHypothesis
    intro other inside
    exact members (List.mem_append_left _ inside)

end Updates

/-- An update of some bits of a word: those to set and those to clear. -/
structure Mask (width : Nat) where
  set : BitVec width
  clear : BitVec width
  deriving DecidableEq

variable {width : Nat}

/-- The update of a word by a mask. The bits to clear are cleared first, so a bit in both parts
is set. -/
def Mask.apply (mask : Mask width) (word : BitVec width) : BitVec width :=
  word &&& ~~~mask.clear ||| mask.set

/-- One bit of an updated word: set by the mask, or the old one where it is not cleared. -/
theorem Mask.apply_bit (mask : Mask width) (word : BitVec width) (bit : Nat) :
    (mask.apply word).getLsbD bit =
      (mask.set.getLsbD bit || (word.getLsbD bit && !mask.clear.getLsbD bit)) := by
  rw [Mask.apply, BitVec.getLsbD_or, BitVec.getLsbD_and, BitVec.getLsbD_not, Bool.or_comm]
  by_cases inside : bit < width
  · simp [inside]
  · simp [BitVec.getLsbD_of_ge _ _ (Nat.le_of_not_lt inside)]

/-- A bit outside of both parts of the mask stays, whatever the word. -/
theorem Mask.apply_outside {mask : Mask width} {bit : Nat}
    (outside : (mask.set ||| mask.clear).getLsbD bit = false) (word : BitVec width) :
    (mask.apply word).getLsbD bit = word.getLsbD bit := by
  rw [BitVec.getLsbD_or, Bool.or_eq_false_iff] at outside
  rw [Mask.apply_bit, outside.1, outside.2]
  simp

end EmaczZephyr.RacingUpdates
