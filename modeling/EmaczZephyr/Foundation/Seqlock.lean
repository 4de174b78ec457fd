import Mathlib.Logic.Function.Basic
import Mathlib.Tactic.Linarith

/-!
# Sequence locks

Words of memory, one of them a sequence word, others a block. A writer increments the
sequence word, stores into the block and increments the word again; words outside change at
any time. The writer is busy exactly while the sequence word is odd.

A reader that saw an even sequence word saw it at an instant without an update. From that
instant on the word counts the borders of updates passed, so finding it unchanged later
means that none was passed, unless so many were that the count wrapped. Then the block is
still what it was at that instant.
-/

namespace EmaczZephyr.Seqlock

/-- Where the sequence word and the block are, the sequence word being no part of the block. -/
structure Layout where
  seq : Nat
  block : Nat → Prop
  outside : ¬ block seq

variable {width : Nat} {layout : Layout} {anchor before after : Nat → BitVec width}
  {busy later : Bool} {finished : Nat}

/-- A change of the memory: whether an update is in progress before and after it. -/
inductive Move (layout : Layout) (before : Nat → BitVec width) :
    Bool → Bool → (Nat → BitVec width) → Prop
  | begin : Move layout before false true
      (Function.update before layout.seq (before layout.seq + BitVec.ofNat width 1))
  | store (index : Nat) (value : BitVec width) (inside : layout.block index) :
      Move layout before true true (Function.update before index value)
  | finish : Move layout before true false
      (Function.update before layout.seq (before layout.seq + BitVec.ofNat width 1))
  | other (busy : Bool) (index : Nat) (value : BitVec width) (outside : ¬ layout.block index)
      (apart : index ≠ layout.seq) :
      Move layout before busy busy (Function.update before index value)

/-- The sequence word is odd exactly during an update of the block. -/
def Parity (layout : Layout) (words : Nat → BitVec width) (busy : Bool) : Prop :=
  (words layout.seq).toNat % 2 = busy.toNat

/-- An increment changes the parity, also when the word wraps, because the number of its values
is even. -/
theorem increment_parity (positive : 0 < width) (value : BitVec width) :
    (value + BitVec.ofNat width 1).toNat % 2 = (value.toNat + 1) % 2 := by
  have even : 2 ∣ 2 ^ width := dvd_pow_self 2 positive.ne'
  have one : 1 < 2 ^ width := Nat.one_lt_two_pow positive.ne'
  rw [BitVec.toNat_add, BitVec.toNat_ofNat, Nat.mod_eq_of_lt one, Nat.mod_mod_of_dvd _ even]

/-- Every move keeps the parity: the two increments change it together with the update, and
writes to the block leave the sequence word. -/
theorem Move.parity (positive : 0 < width) (move : Move layout before busy later after)
    (parity : Parity layout before busy) : Parity layout after later := by
  unfold Parity at parity ⊢
  cases move with
  | begin =>
    rw [Function.update_self, increment_parity positive]
    simp only [Bool.toNat_false, Bool.toNat_true] at parity ⊢
    omega
  | finish =>
    rw [Function.update_self, increment_parity positive]
    simp only [Bool.toNat_false, Bool.toNat_true] at parity ⊢
    omega
  | store index value inside =>
    have apart : layout.seq ≠ index := fun same => layout.outside (same ▸ inside)
    rwa [Function.update_of_ne apart]
  | other busy index value outside apart =>
    rwa [Function.update_of_ne apart.symm]

/-- What has happened since an instant without an update: so many updates have finished, the
sequence word counts their borders, and before the first of them the block is unchanged. -/
structure Since (layout : Layout) (anchor now : Nat → BitVec width) (busy : Bool)
    (finished : Nat) : Prop where
  counted : now layout.seq = anchor layout.seq + BitVec.ofNat width (2 * finished + busy.toNat)
  still : finished = 0 → busy = false → ∀ index, layout.block index → now index = anchor index

/-- At the instant the reader starts to count nothing has happened since: no update has finished,
and the words are those of that instant. -/
theorem Since.start (layout : Layout) (words : Nat → BitVec width) :
    Since layout words words false 0 :=
  ⟨by simp, fun _ _ _ _ => rfl⟩

/-- A move finishes an update or not, and the count of finished ones says so. Between updates the
block stays as it is. -/
theorem Since.move (since : Since layout anchor before busy finished)
    (move : Move layout before busy later after) :
    Since layout anchor after later (finished + (busy && !later).toNat) := by
  have counted := since.counted
  cases move with
  | begin =>
    refine ⟨?_, fun _ impossible => nomatch impossible⟩
    rw [Function.update_self, counted, BitVec.add_assoc, ← BitVec.ofNat_add]
    rfl
  | finish =>
    refine ⟨?_, fun impossible => absurd impossible (Nat.succ_ne_zero _)⟩
    rw [Function.update_self, counted, BitVec.add_assoc, ← BitVec.ofNat_add]
    rfl
  | store index value inside =>
    have apart : layout.seq ≠ index := fun same => layout.outside (same ▸ inside)
    refine ⟨?_, fun _ impossible => nomatch impossible⟩
    rw [Function.update_of_ne apart, counted]
    rfl
  | other busy index value outside apart =>
    have same : finished + (busy && !busy).toNat = finished := by cases busy <;> rfl
    rw [same]
    refine ⟨?_, ?_⟩
    · rw [Function.update_of_ne apart.symm, counted]
    · intro none idle place inside
      have elsewhere : place ≠ index := fun equal => outside (equal ▸ inside)
      rw [Function.update_of_ne elsewhere]
      exact since.still none idle place inside

/-- An unchanged sequence word means that no update has begun, when too few have finished to
bring the count around. -/
theorem Since.unchanged (since : Since layout anchor before busy finished)
    (few : 2 * finished + 1 < 2 ^ width) (same : before layout.seq = anchor layout.seq) :
    finished = 0 ∧ busy = false := by
  have counted := since.counted
  rw [same] at counted
  have zero : BitVec.ofNat width (2 * finished + busy.toNat) = BitVec.ofNat width 0 :=
    BitVec.add_right_eq_self.mp counted.symm
  have few_borders : busy.toNat ≤ 1 := Bool.toNat_le busy
  have count := congrArg BitVec.toNat zero
  rw [BitVec.toNat_ofNat, Nat.mod_eq_of_lt (by omega), BitVec.toNat_ofNat, Nat.zero_mod] at count
  refine ⟨by omega, ?_⟩
  cases busy with
  | false => rfl
  | true =>
    simp only [Bool.toNat_true] at count
    omega

end EmaczZephyr.Seqlock
