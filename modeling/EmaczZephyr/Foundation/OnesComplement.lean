import Mathlib.Algebra.BigOperators.Group.List.Basic
import Mathlib.Algebra.Ring.Nat

/-!
# Ones' complement sums

In a ones' complement addition the carry out of the top comes back in at the bottom. Words
are thereby added modulo the largest of them, with two words for zero: a sum is the one
without bits only when nothing but such words was added, and otherwise the one with all
bits.

A wider accumulator may collect the carries and give them back at the end. Every pass that
folds them back keeps the residue and makes the accumulator smaller, so both ways of adding
give the same word. The word that completes a sum to all bits is its complement.
-/

namespace EmaczZephyr.OnesComplement

/-- The word that stands for a total: zero for zero alone, and otherwise the residue modulo
`base - 1` which is not zero. -/
def residue (base total : Nat) : Nat := if total = 0 then 0 else (total - 1) % (base - 1) + 1

/-- One pass over an accumulator: what lies above the word is added to the word. -/
def fold (base total : Nat) : Nat := total % base + total / base

section Totals

variable {base total : Nat}

/-- Nothing at all is the only total whose residue is zero by definition. -/
theorem residue_zero : residue base 0 = 0 := rfl

/-- A total that fits a word is its own residue. -/
theorem residue_of_lt (small : total < base) : residue base total = total := by
  unfold residue
  split
  · rename_i zero
    exact zero.symm
  · rw [Nat.mod_eq_of_lt (by omega)]
    omega

/-- A residue fits a word, as soon as a word has more than one value. -/
theorem residue_lt (wide : 1 < base) : residue base total < base := by
  unfold residue
  split
  · exact Nat.lt_trans Nat.zero_lt_one wide
  · have below : (total - 1) % (base - 1) < base - 1 := Nat.mod_lt _ (by omega)
    omega

/-- Only zero has the residue zero. A positive multiple of the largest word has the largest word. -/
theorem residue_eq_zero : residue base total = 0 ↔ total = 0 := by
  unfold residue
  split <;> simp_all

/-- Whole rounds of a positive total do not count, because the base and one make the same
residue. -/
theorem residue_rounds (positive : total ≠ 0) (rounds : Nat) :
    residue base (total + rounds * (base - 1)) = residue base total := by
  have still : total + rounds * (base - 1) ≠ 0 := by omega
  have before : total + rounds * (base - 1) - 1 = total - 1 + rounds * (base - 1) := by omega
  rw [residue, residue, if_neg positive, if_neg still, before, Nat.add_mul_mod_self_right]

/-- A total is its residue and whole rounds on top of it. -/
theorem exists_rounds (base total : Nat) :
    ∃ rounds, total = residue base total + rounds * (base - 1) := by
  by_cases zero : total = 0
  · exact ⟨0, by simp [zero, residue]⟩
  · refine ⟨(total - 1) / (base - 1), ?_⟩
    have split := Nat.mod_add_div (total - 1) (base - 1)
    rw [residue, if_neg zero, Nat.mul_comm]
    omega

/-- A summand may be replaced by its residue. It differs by whole rounds only, and a summand of
zero is its own residue. -/
theorem residue_add (first second : Nat) :
    residue base (residue base first + second) = residue base (first + second) := by
  by_cases zero : first = 0
  · rw [zero, residue_zero]
  · obtain ⟨rounds, whole⟩ := exists_rounds base first
    have positive : residue base first + second ≠ 0 := by
      have some : residue base first ≠ 0 := fun none => zero (residue_eq_zero.mp none)
      omega
    calc residue base (residue base first + second)
        = residue base (residue base first + second + rounds * (base - 1)) :=
          (residue_rounds positive rounds).symm
      _ = residue base (first + second) := by congr 1; omega

/-- The complement of the residue completes a total to the largest word. This is what makes a
receiver's sum come out as all ones. -/
theorem residue_complete (wide : 1 < base) :
    residue base (base - 1 - residue base total + total) = base - 1 := by
  obtain ⟨rounds, whole⟩ := exists_rounds base total
  have small : residue base total < base := residue_lt wide
  have rearranged : base - 1 - residue base total + total = base - 1 + rounds * (base - 1) := by
    omega
  rw [rearranged, residue_rounds (by omega), residue_of_lt (by omega)]

/-- A pass over a total without carries leaves it. -/
theorem fold_of_lt (small : total < base) : fold base total = total := by
  rw [fold, Nat.mod_eq_of_lt small, Nat.div_eq_of_lt small, Nat.add_zero]

/-- A pass takes away one round for every carry, and nothing else. -/
theorem fold_add (base total : Nat) : fold base total + total / base * (base - 1) = total := by
  cases base with
  | zero => simp [fold]
  | succ largest =>
    have split := Nat.div_add_mod' total (largest + 1)
    have round : total / (largest + 1) * (largest + 1) =
        total / (largest + 1) * largest + total / (largest + 1) := Nat.mul_succ ..
    rw [fold, Nat.add_sub_cancel]
    omega

/-- A pass over carries makes the total smaller, so folding ends. -/
theorem fold_lt (wide : 1 < base) (carries : base ≤ total) : fold base total < total := by
  have whole := fold_add base total
  have some : 0 < total / base * (base - 1) :=
    Nat.mul_pos (Nat.div_pos carries (by omega)) (by omega)
  omega

/-- Two passes are enough for a total below the square of the base: the first leaves at most one
carry. -/
theorem fold_twice (wide : 1 < base) (small : total < base * base) :
    fold base (fold base total) < base := by
  have high : total / base < base := Nat.div_lt_of_lt_mul small
  have low : total % base < base := Nat.mod_lt _ (by omega)
  by_cases done : fold base total < base
  · rwa [fold_of_lt done]
  · -- The second pass has one carry to fold into what the first has left of the word.
    have bound : fold base total < 2 * base - 1 := by
      rw [fold]
      omega
    have once : fold base total / base = 1 := Nat.div_eq_of_lt_le (by omega) (by omega)
    have split := Nat.div_add_mod (fold base total) base
    rw [once] at split
    rw [fold, once]
    omega

/-- A pass keeps the residue, since what it takes away are whole rounds, and it never makes zero
of a positive total. -/
theorem residue_fold (wide : 1 < base) : residue base (fold base total) = residue base total := by
  by_cases zero : fold base total = 0
  · have small : total < base := by
      by_contra carries
      have some : 0 < total / base := Nat.div_pos (by omega) (by omega)
      rw [fold] at zero
      omega
    rw [fold_of_lt small]
  · conv_rhs => rw [← fold_add base total]
    exact (residue_rounds zero _).symm

/-- An accumulator without carries is the word of all it has folded, because a word is its own
residue. -/
theorem folded_eq_residue {folded : Nat} (done : folded < base)
    (same : residue base folded = residue base total) : folded = residue base total := by
  rw [← same, residue_of_lt done]

end Totals

variable {width : Nat}

/-- Addition of two words with the end-around carry, which is one pass over their sum. -/
def add (first second : BitVec width) : BitVec width :=
  BitVec.ofNat width (fold (2 ^ width) (first.toNat + second.toNat))

/-- The sum of some words with the end-around carry, from the first to the last. -/
def sum (words : List (BitVec width)) : BitVec width := words.foldl add 0

/-- The total of some words as natural numbers, without any carry. -/
def total (words : List (BitVec width)) : Nat := (words.map BitVec.toNat).sum

/-- A word of at least one bit has more than one value. -/
theorem wide_of_pos (positive : 0 < width) : 1 < 2 ^ width := Nat.one_lt_two_pow (by omega)

/-- The sum of two words is the residue of their total. One pass is enough for two summands. -/
theorem toNat_add (positive : 0 < width) (first second : BitVec width) :
    (add first second).toNat = residue (2 ^ width) (first.toNat + second.toNat) := by
  have wide := wide_of_pos positive
  have firstSmall := first.isLt
  have secondSmall := second.isLt
  have done : fold (2 ^ width) (first.toNat + second.toNat) < 2 ^ width := by
    by_cases carry : first.toNat + second.toNat < 2 ^ width
    · rwa [fold_of_lt carry]
    · have once : (first.toNat + second.toNat) / 2 ^ width = 1 :=
        Nat.div_eq_of_lt_le (by omega) (by omega)
      have split := Nat.div_add_mod (first.toNat + second.toNat) (2 ^ width)
      rw [once] at split
      rw [fold, once]
      omega
  rw [add, BitVec.toNat_ofNat, Nat.mod_eq_of_lt done]
  exact folded_eq_residue done (residue_fold wide)

/-- Adding words one after the other from a start is the residue of the total with the start.
Induction over the words, each addition by `residue_add`. -/
theorem toNat_foldl (positive : 0 < width) (words : List (BitVec width)) (start : BitVec width) :
    (words.foldl add start).toNat = residue (2 ^ width) (start.toNat + total words) := by
  induction words generalizing start with
  | nil => exact (residue_of_lt start.isLt).symm
  | cons word words inductionHypothesis =>
    rw [List.foldl_cons, inductionHypothesis, toNat_add positive, residue_add, total, total,
      List.map_cons, List.sum_cons, Nat.add_assoc]

/-- The sum of some words is the residue of their total, whatever their order. -/
theorem toNat_sum (positive : 0 < width) (words : List (BitVec width)) :
    (sum words).toNat = residue (2 ^ width) (total words) := by
  rw [sum, toNat_foldl positive]
  simp

/-- The total of two lists of words is the total of both. -/
theorem total_append (front rest : List (BitVec width)) :
    total (front ++ rest) = total front + total rest := by
  simp only [total, List.map_append, List.sum_append]

/-- The total of some words is the first one and the total of the rest. -/
theorem total_cons (word : BitVec width) (rest : List (BitVec width)) :
    total (word :: rest) = word.toNat + total rest := by
  simp only [total, List.map_cons, List.sum_cons]

/-- A total of some words is at most as many times the largest word, which bounds an accumulator
in advance. -/
theorem total_le (words : List (BitVec width)) :
    total words ≤ words.length * (2 ^ width - 1) := by
  induction words with
  | nil => exact Nat.zero_le _
  | cons word words inductionHypothesis =>
    have bound := word.isLt
    rw [total_cons, List.length_cons, Nat.add_mul, Nat.one_mul]
    omega

/-- The complement of a sum in the place of a zero completes the words to all bits. -/
theorem sum_complement (positive : 0 < width) (front rest : List (BitVec width)) :
    sum (front ++ ~~~ sum (front ++ 0 :: rest) :: rest) = BitVec.allOnes width := by
  have wide := wide_of_pos positive
  have old : total (front ++ 0 :: rest) = total front + total rest := by
    simp [total_append, total_cons]
  apply BitVec.eq_of_toNat_eq
  rw [toNat_sum positive, total_append, total_cons, BitVec.toNat_not, toNat_sum positive, old,
    BitVec.toNat_allOnes, Nat.add_left_comm]
  exact residue_complete wide

end EmaczZephyr.OnesComplement
