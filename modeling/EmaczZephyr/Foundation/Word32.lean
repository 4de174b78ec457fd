import Mathlib.Tactic.Linarith

/-!
# Unsigned 32-bit counters

Counters of type `uint32_t` are natural numbers below `2 ^ 32`. Their increment,
decrement and difference wrap, as the unsigned operators do; the laws say when
they agree with the operations on natural numbers.
-/

namespace EmaczZephyr.Word32

/-- One more in 32 bits, wrapping from the largest word to zero. -/
def inc (value : Nat) : Nat := (value + 1) % 4294967296

/-- One less in 32 bits, wrapping from zero to the largest word. -/
def dec (value : Nat) : Nat := (value + 4294967295) % 4294967296

/-- The difference of two words in 32 bits, wrapping below zero. -/
def sub (left right : Nat) : Nat := (left + (4294967296 - right)) % 4294967296

/-- The sum of two words in 32 bits, wrapping above the largest. -/
def add (left right : Nat) : Nat := (left + right) % 4294967296

/-- Below the largest word one more is one more, without a wrap. -/
theorem inc_exact {value : Nat} (small : value < 4294967295) : inc value = value + 1 := by
  unfold inc
  omega

/-- Above zero one less is one less, without a wrap. -/
theorem dec_exact {value : Nat} (positive : 0 < value) (word : value < 4294967296) :
    dec value = value - 1 := by
  unfold dec
  omega

/-- A sum that fits 32 bits is the sum of the natural numbers. -/
theorem add_exact {left right : Nat} (small : left + right < 4294967296) :
    add left right = left + right :=
  Nat.mod_eq_of_lt small

/-- The difference from a larger word is the difference of the natural numbers. -/
theorem sub_exact {left right : Nat} (ordered : right ≤ left) (word : left < 4294967296) :
    sub left right = left - right := by
  unfold sub
  omega

end EmaczZephyr.Word32
