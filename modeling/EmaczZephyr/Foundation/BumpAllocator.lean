import Mathlib.Tactic.Linarith

/-!
# A bump allocator in 32-bit arithmetic

An arena is a cursor and an end. An allocation rounds the cursor up to the alignment,
adds the size, rounds again and moves the cursor there; it is refused when the first
rounding gives zero, when the new cursor passes the end, or when it lies before the
region. Addresses and sizes are natural numbers below `2 ^ 32`, and sums wrap there.

The last test notices that the end of the region wrapped unless the second rounding
brings the wrapped end back to the start of the region, which takes a size within one
alignment of `2 ^ 32`. Any other region that is granted lies behind the cursor and in
front of the new one.
-/

namespace EmaczZephyr.BumpAllocator

/-- The number of 32-bit addresses, at which every sum of the allocator wraps. -/
def wordSize : Nat := 4294967296

/-- Rounding up to a multiple of the alignment. The sum in front of the division wraps at 32
bits, as the macro's does. -/
def roundUp (value align : Nat) : Nat := (value + (align - 1)) % wordSize / align * align

/-- The cursor, where the next region is looked for, and the end of an arena, which no region may
pass. -/
structure Arena where
  cursor : Nat
  stop : Nat
deriving DecidableEq

/-- The start of the region that is granted, if one is, and the arena behind the call. -/
def allocate (arena : Arena) (align size : Nat) : Option Nat × Arena :=
  let start := roundUp arena.cursor align
  let next := roundUp ((start + size) % wordSize) align
  if start = 0 ∨ arena.stop < next ∨ next < start then (none, arena)
  else (some start, { arena with cursor := next })

section Rounding

variable {value align : Nat}

/-- A rounded value is a multiple of the alignment, also when the rounding wrapped. -/
theorem roundUp_dvd : align ∣ roundUp value align := Nat.dvd_mul_left _ _

/-- Without wrapping, rounding gives the least multiple that is not smaller: it is at most one
alignment short of the next one. -/
theorem roundUp_exact (positive : 0 < align) (small : value + (align - 1) < wordSize) :
    value ≤ roundUp value align ∧ roundUp value align < value + align := by
  have remainder := Nat.mod_lt (value + (align - 1)) positive
  have whole := Nat.div_add_mod' (value + (align - 1)) align
  rw [roundUp, Nat.mod_eq_of_lt small]
  omega

/-- Rounding that wraps gives zero: what is left of the sum is smaller than the alignment, so the
division drops all of it. -/
theorem roundUp_wraps (word : value < wordSize) (large : wordSize ≤ value + (align - 1))
    (small : align ≤ wordSize) : roundUp value align = 0 := by
  have wrapped : (value + (align - 1)) % wordSize = value + (align - 1) - wordSize := by
    rw [Nat.mod_eq_sub_mod large, Nat.mod_eq_of_lt (by omega)]
  rw [roundUp, wrapped, Nat.div_eq_of_lt (by omega), Nat.zero_mul]

/-- A rounded value that is not zero did not wrap, and so is not smaller than what was rounded. -/
theorem roundUp_ge (positive : 0 < align) (word : value < wordSize) (small : align ≤ wordSize)
    (nonzero : roundUp value align ≠ 0) : value ≤ roundUp value align := by
  rcases Nat.lt_or_ge (value + (align - 1)) wordSize with fits | wraps
  · exact (roundUp_exact positive fits).1
  · exact absurd (roundUp_wraps word wraps small) nonzero

end Rounding

/-- A granted region: the addresses from `start` up to `start + size`, the last not included. -/
structure Region where
  start : Nat
  size : Nat
deriving DecidableEq

/-- Two regions share no address: one of them ends where the other starts, or before it. -/
def Region.Disjoint (left right : Region) : Prop :=
  left.start + left.size ≤ right.start ∨ right.start + right.size ≤ left.start

/-- Whether two regions are disjoint is decided by comparing their four bounds. -/
instance decidableDisjoint (left right : Region) : Decidable (left.Disjoint right) :=
  inferInstanceAs (Decidable (_ ∨ _))

/-- A region lies between two addresses, of which it may reach the upper one but not pass it. -/
def Region.Within (region : Region) (low high : Nat) : Prop :=
  low ≤ region.start ∧ region.start + region.size ≤ high

/-- A region inside a window is inside every wider one, whichever side the window grows on. -/
theorem Region.Within.widen {region : Region} {low high lower higher : Nat}
    (within : region.Within low high) (below : lower ≤ low) (above : high ≤ higher) :
    region.Within lower higher :=
  ⟨below.trans within.1, within.2.trans above⟩

/-- Regions in windows that do not overlap are disjoint, because the one ends before the other
starts. -/
theorem Region.Within.disjoint {left right : Region} {low middle next high : Nat}
    (first : left.Within low middle) (second : right.Within next high) (ordered : middle ≤ next) :
    left.Disjoint right :=
  .inl (first.2.trans (ordered.trans second.1))

/-- Being disjoint does not depend on which of the two regions is named first. -/
theorem Region.Disjoint.symm {left right : Region} (apart : left.Disjoint right) :
    right.Disjoint left :=
  Or.symm apart

/-- The call is one whose size the tests can see wrapping: either size and alignment fit
one word together, or the call is refused for its start already. -/
def Accountable (arena : Arena) (align size : Nat) : Prop :=
  wordSize < size + align → roundUp arena.cursor align = 0 ∨
    arena.stop < roundUp arena.cursor align

/-- The condition on a call is a comparison of its size, its alignment and the cursor, so it is
decided. -/
instance decidableAccountable (arena : Arena) (align size : Nat) :
    Decidable (Accountable arena align size) :=
  inferInstanceAs (Decidable (_ → _))

/-- A size that leaves one alignment free below `2 ^ 32` is always accounted for: the exception
needs a larger one. -/
theorem accountable_small {arena : Arena} {align size : Nat} (small : size + align ≤ wordSize) :
    Accountable arena align size := by
  intro large
  omega

/-- A refused call leaves the arena as it was, in each of the three tests that may refuse it. -/
theorem allocate_refused {arena : Arena} {align size : Nat}
    (refused : (allocate arena align size).1 = none) :
    (allocate arena align size).2 = arena := by
  unfold allocate at refused ⊢
  simp only at refused ⊢
  split at refused
  · rename_i tests
    rw [if_pos tests]
  · cases refused

/-- A granted region is aligned and lies between the old cursor and the new one, which
is not behind the end. -/
theorem allocate_granted {arena : Arena} {align size start : Nat} (positive : 0 < align)
    (aligned : align ≤ wordSize) (word : arena.cursor < wordSize) (size_word : size < wordSize)
    (accountable : Accountable arena align size)
    (granted : (allocate arena align size).1 = some start) :
    align ∣ start ∧ start ≠ 0 ∧
      (Region.mk start size).Within arena.cursor (allocate arena align size).2.cursor ∧
      (allocate arena align size).2.stop = arena.stop ∧
      (allocate arena align size).2.cursor ≤ arena.stop := by
  unfold allocate at granted ⊢
  simp only at granted ⊢
  split at granted
  · cases granted
  · rename_i tests
    rw [if_neg tests]
    obtain ⟨nonzero, inside, ahead⟩ := not_or.mp tests |>.imp_right not_or.mp
    obtain rfl := Option.some.inj granted
    have behind := roundUp_ge positive word aligned nonzero
    refine ⟨roundUp_dvd, nonzero, ⟨behind, ?_⟩, rfl, Nat.le_of_not_lt inside⟩
    rw [Nat.not_lt] at inside ahead
    have start_word : roundUp arena.cursor align < wordSize := by
      unfold roundUp
      exact (Nat.div_mul_le_self _ _).trans_lt (Nat.mod_lt _ (by decide))
    rcases Nat.lt_or_ge (roundUp arena.cursor align + size) wordSize with fits | wraps
    · rw [Nat.mod_eq_of_lt fits] at inside ahead ⊢
      have nonzero_end : roundUp (roundUp arena.cursor align + size) align ≠ 0 := by omega
      exact roundUp_ge positive fits aligned nonzero_end
    · -- The end wrapped, so the second rounding must have stayed below the start.
      exfalso
      have wrapped : (roundUp arena.cursor align + size) % wordSize =
          roundUp arena.cursor align + size - wordSize := by
        rw [Nat.mod_eq_sub_mod wraps, Nat.mod_eq_of_lt (by omega)]
      rw [wrapped] at inside ahead
      rcases Nat.lt_or_ge wordSize (size + align) with large | small
      · rcases accountable large with zero | outside
        · exact nonzero zero
        · omega
      · have bound := (roundUp_exact positive
          (show roundUp arena.cursor align + size - wordSize + (align - 1) < wordSize by
            omega)).2
        omega

/-- The arena hands out addresses of a window, or none at all: its cursor and its end do not pass
the window, and a cursor that is not zero has reached it. -/
structure Arena.Inside (low high : Nat) (arena : Arena) : Prop where
  below : arena.cursor ≤ high
  limit : arena.stop ≤ high
  begins : arena.cursor ≠ 0 → low ≤ arena.cursor

/-- A cursor of zero grants nothing, whatever the alignment and the size. Rounding zero gives
zero, which is the allocator's mark of a failed rounding. -/
theorem allocate_zero {arena : Arena} {align size : Nat} (positive : 0 < align)
    (zero : arena.cursor = 0) : (allocate arena align size).1 = none := by
  have first : roundUp arena.cursor align = 0 := by
    have below : (align - 1) % wordSize < align := by
      have bound := Nat.mod_le (align - 1) wordSize
      omega
    rw [zero, roundUp, Nat.zero_add, Nat.div_eq_of_lt below, Nat.zero_mul]
  rw [allocate, if_pos (.inl first)]

/-- Behind a granted call the cursor was not zero, so the arena had been given a region to hand
out. -/
theorem allocate_used {arena : Arena} {align size start : Nat} (positive : 0 < align)
    (granted : (allocate arena align size).1 = some start) : arena.cursor ≠ 0 := by
  intro zero
  rw [allocate_zero positive zero] at granted
  cases granted

/-- Whatever is granted, the arena stays in the window: the new cursor has passed the test
against the end, and the end does not move. -/
theorem Arena.Inside.moves {low high : Nat} {arena : Arena} {align size start : Nat}
    (inside : arena.Inside low high) (word : high < wordSize) (positive : 0 < align)
    (aligned : align ≤ wordSize) (granted : (allocate arena align size).1 = some start) :
    (allocate arena align size).2.Inside low high := by
  have begins := inside.begins (allocate_used positive granted)
  have limit := inside.limit
  unfold allocate at granted ⊢
  simp only at granted ⊢
  split at granted
  · cases granted
  · rename_i tests
    obtain rfl := Option.some.inj granted
    obtain ⟨nonzero, below, ahead⟩ := not_or.mp tests |>.imp_right not_or.mp
    have behind := roundUp_ge positive (inside.below.trans_lt word) aligned nonzero
    rw [if_neg tests]
    exact ⟨(Nat.le_of_not_lt below).trans limit, limit,
      fun _ => begins.trans (behind.trans (Nat.le_of_not_lt ahead))⟩

/-- A granted region is aligned and lies in the window between the old cursor and the
new one, and the arena stays in the window. -/
theorem Arena.Inside.granted {low high : Nat} {arena : Arena} {align size start : Nat}
    (inside : arena.Inside low high) (word : high < wordSize) (positive : 0 < align)
    (aligned : align ≤ wordSize) (size_word : size < wordSize)
    (accountable : Accountable arena align size)
    (granted : (allocate arena align size).1 = some start) :
    align ∣ start ∧ low ≤ arena.cursor ∧
      (Region.mk start size).Within arena.cursor (allocate arena align size).2.cursor ∧
      (allocate arena align size).2.Inside low high := by
  obtain ⟨divides, -, within, -, -⟩ :=
    allocate_granted positive aligned (inside.below.trans_lt word) size_word accountable granted
  exact ⟨divides, inside.begins (allocate_used positive granted), within,
    inside.moves word positive aligned granted⟩

end EmaczZephyr.BumpAllocator
