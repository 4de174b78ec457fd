import Mathlib.Algebra.Ring.Nat
import Mathlib.Data.List.Basic
import Mathlib.Order.Bounds.Basic

/-!
# Streaks

A streak is a contiguous part of a list all of whose items satisfy a test. A tracker that
sees the items one after the other keeps two lengths: that of the streak at the end, which
one more item extends or ends, and that of the longest streak so far.

Counters of a fixed width stop at their largest value. Such a counter shows the smaller of
that value and the number it counts, whatever it counts.
-/

namespace EmaczZephyr.Streaks

universe u
variable {Item : Type u}

/-- The lengths of the streaks of a list: stretches of neighbouring items that all pass the test. -/
def streaks (test : Item → Bool) (items : List Item) : Set Nat :=
  {length | ∃ streak, streak <:+: items ∧ (∀ item ∈ streak, test item = true) ∧
    streak.length = length}

/-- The lengths of the streaks at the end of a list. -/
def lastStreaks (test : Item → Bool) (items : List Item) : Set Nat :=
  {length | ∃ streak, streak <:+ items ∧ (∀ item ∈ streak, test item = true) ∧
    streak.length = length}

/-- Two lengths track the streaks of a list: the longest of those at its end, and the longest of
all. -/
structure Tracks (test : Item → Bool) (items : List Item) (current longest : Nat) : Prop where
  current : IsGreatest (lastStreaks test items) current
  longest : IsGreatest (streaks test items) longest

variable {test : Item → Bool} {items : List Item} {item : Item} {current longest : Nat}

/-- Of a list without items the only streak is the empty one. -/
theorem tracks_nil (test : Item → Bool) : Tracks test [] 0 0 where
  current := by
    refine ⟨⟨[], List.suffix_rfl, by simp, rfl⟩, ?_⟩
    rintro length ⟨streak, inside, -, rfl⟩
    rw [List.suffix_nil.mp inside]
    rfl
  longest := by
    refine ⟨⟨[], List.infix_rfl, by simp, rfl⟩, ?_⟩
    rintro length ⟨streak, inside, -, rfl⟩
    rw [List.infix_nil.mp inside]
    rfl

/-- A streak at the end of a longer list ends with its last item, or is empty. -/
theorem last_streak_concat {streak : List Item} (inside : streak <:+ items ++ [item])
    (passes : ∀ other ∈ streak, test other = true) :
    streak = [] ∨ test item = true ∧ ∃ earlier, earlier <:+ items ∧
      (∀ other ∈ earlier, test other = true) ∧ streak = earlier ++ [item] := by
  rcases List.suffix_concat_iff.mp inside with rfl | ⟨earlier, rfl, before⟩
  · exact .inl rfl
  · refine .inr ⟨passes item (by simp), earlier, before, ?_, rfl⟩
    intro other member
    exact passes other (List.mem_append_left _ member)

/-- An item that passes extends the last streak, and the longest one if it was as long. Every
streak of the longer list ends with the item or is an earlier one. -/
theorem Tracks.hit (tracks : Tracks test items current longest) (passes : test item = true) :
    Tracks test (items ++ [item]) (current + 1) (max longest (current + 1)) := by
  have extended : IsGreatest (lastStreaks test (items ++ [item])) (current + 1) := by
    obtain ⟨⟨streak, inside, all, counted⟩, bound⟩ := tracks.current
    refine ⟨⟨streak ++ [item], ?_, ?_, by simp [counted]⟩, ?_⟩
    · exact List.suffix_concat_iff.mpr (.inr ⟨streak, rfl, inside⟩)
    · intro other member
      rcases List.mem_append.mp member with earlier | last
      · exact all other earlier
      · exact List.mem_singleton.mp last ▸ passes
    · rintro length ⟨other, within, allOther, rfl⟩
      rcases last_streak_concat within allOther with rfl | ⟨-, earlier, before, some, rfl⟩
      · exact Nat.zero_le _
      · have shorter := bound ⟨earlier, before, some, rfl⟩
        rw [List.length_append]
        exact Nat.succ_le_succ shorter
  refine ⟨extended, ?_, ?_⟩
  · rcases Nat.le_total longest (current + 1) with grown | kept
    · obtain ⟨streak, inside, all, counted⟩ := extended.1
      exact ⟨streak, inside.isInfix, all, by rw [counted, max_eq_right grown]⟩
    · obtain ⟨streak, inside, all, counted⟩ := tracks.longest.1
      exact ⟨streak, inside.trans (List.prefix_append _ _).isInfix, all,
        by rw [counted, max_eq_left kept]⟩
  · rintro length ⟨streak, inside, all, rfl⟩
    rcases List.infix_concat_iff.mp inside with last | before
    · exact (extended.2 ⟨streak, last, all, rfl⟩).trans (le_max_right _ _)
    · exact (tracks.longest.2 ⟨streak, before, all, rfl⟩).trans (le_max_left _ _)

/-- An item that fails ends the last streak, and the longest one stays. No streak of the longer
list holds the item. -/
theorem Tracks.miss (tracks : Tracks test items current longest) (fails : test item = false) :
    Tracks test (items ++ [item]) 0 longest := by
  have ended : ∀ streak, streak <:+ items ++ [item] → (∀ other ∈ streak, test other = true) →
      streak = [] := by
    intro streak inside all
    rcases last_streak_concat inside all with nothing | ⟨passes, -⟩
    · exact nothing
    · rw [fails] at passes
      cases passes
  refine ⟨⟨⟨[], List.nil_suffix, by simp, rfl⟩, ?_⟩, ?_, ?_⟩
  · rintro length ⟨streak, inside, all, rfl⟩
    rw [ended streak inside all]
    exact Nat.le_refl 0
  · obtain ⟨streak, inside, all, counted⟩ := tracks.longest.1
    exact ⟨streak, inside.trans (List.prefix_append _ _).isInfix, all, counted⟩
  · rintro length ⟨streak, inside, all, rfl⟩
    rcases List.infix_concat_iff.mp inside with last | before
    · rw [ended streak last all]
      exact Nat.zero_le _
    · exact tracks.longest.2 ⟨streak, before, all, rfl⟩

variable {width : Nat}

/-- One more when it counts, but never beyond the largest value, where the counter stays. -/
def bump (counter : BitVec width) (counts : Bool) : BitVec width :=
  if counts && counter != BitVec.allOnes width then counter + 1 else counter

/-- The counter shows a number, or its largest value when the number is beyond it. -/
def Saturates (counter : BitVec width) (count : Nat) : Prop :=
  counter.toNat = min count (2 ^ width - 1)

/-- A counter of zero shows that nothing has been counted. -/
theorem saturates_zero (width : Nat) : Saturates (0 : BitVec width) 0 := by
  simp [Saturates]

/-- Counting one more keeps a saturating counter right, at its largest value as well. -/
theorem Saturates.bump {counter : BitVec width} {count : Nat} (saturates : Saturates counter count)
    (counts : Bool) : Saturates (bump counter counts) (count + counts.toNat) := by
  unfold Saturates at saturates ⊢
  cases counts with
  | false => simpa [Streaks.bump] using saturates
  | true =>
    have shown : counter = BitVec.allOnes width ↔ counter.toNat = 2 ^ width - 1 := by
      rw [← BitVec.toNat_inj, BitVec.toNat_allOnes]
    have bounded := counter.isLt
    by_cases full : counter = BitVec.allOnes width
    · have largest := shown.mp full
      rw [Streaks.bump, if_neg (by simp [full]), largest, Bool.toNat_true]
      omega
    · have room : counter.toNat ≠ 2 ^ width - 1 := fun largest => full (shown.mpr largest)
      have one : (1 : BitVec width).toNat = 1 :=
        (BitVec.toNat_ofNat 1 width).trans (Nat.mod_eq_of_lt (by omega))
      rw [Streaks.bump, if_pos (by simp [full]), BitVec.toNat_add, one, Nat.mod_eq_of_lt (by omega),
        Bool.toNat_true]
      omega

/-- The larger of two saturating counters shows the larger number, because cutting to the largest
value keeps the order. -/
theorem Saturates.larger {left right : BitVec width} {first second : Nat}
    (one : Saturates left first) (two : Saturates right second) :
    Saturates (if left < right then right else left) (max first second) := by
  unfold Saturates at one two ⊢
  split
  · rename_i less
    have ordered : left.toNat < right.toNat := less
    omega
  · rename_i less
    have ordered : ¬ left.toNat < right.toNat := less
    omega

end EmaczZephyr.Streaks
