import Mathlib.Data.Nat.Digits.Defs
import EmaczZephyr.Foundation.BigEndian

/-!
# The standard CRC-32

The reflected form with polynomial `0xEDB88320`, initial value and final complement of
all ones, one bit at a time.

A bit step is linear over exclusive or and loses nothing, so a string of four bytes acts on
the register as one exclusive or with their word: two strings that differ within four
consecutive bytes have different checksums, whatever stands before and behind.
-/

namespace EmaczZephyr.Crc32

open BigEndian

/-- Divide out the lowest bit: shift the register down, and subtract the polynomial when the bit
was one. -/
def shiftBit (crc : BitVec 32) : BitVec 32 :=
  if crc.getLsbD 0 then crc >>> 1 ^^^ 0xEDB88320#32 else crc >>> 1

/-- One byte into the register, its lowest bit first: it is added to the low end, and eight bit
steps follow. -/
def update (crc : BitVec 32) (byte : Byte) : BitVec 32 :=
  Nat.repeat shiftBit 8 (crc ^^^ byte.setWidth 32)

/-- The checksum of a byte string: the register starts with all ones, takes the bytes in order,
and is complemented at the end. -/
def crc32 (bytes : List Byte) : BitVec 32 :=
  ~~~ (bytes.foldl update (BitVec.allOnes 32))

/-- The check value of the digits from 1 to 9. -/
example : crc32 [0x31#8, 0x32#8, 0x33#8, 0x34#8, 0x35#8, 0x36#8, 0x37#8, 0x38#8, 0x39#8] =
    0xCBF43926#32 := by
  decide +kernel

/-- A bit step is linear: the step of an exclusive or is the exclusive or of the steps. The
polynomial is subtracted for each odd register, and two subtractions cancel out. -/
theorem shift_bit_xor (left right : BitVec 32) :
    shiftBit (left ^^^ right) = shiftBit left ^^^ shiftBit right := by
  have cancel (a b poly : BitVec 32) : (a ^^^ poly) ^^^ (b ^^^ poly) = a ^^^ b := by
    rw [BitVec.xor_assoc, BitVec.xor_comm b, ← BitVec.xor_assoc poly, BitVec.xor_self,
      BitVec.zero_xor]
  unfold shiftBit
  rw [BitVec.getLsbD_xor, BitVec.ushiftRight_xor_distrib]
  cases left.getLsbD 0 <;> cases right.getLsbD 0
  · rfl
  · exact BitVec.xor_assoc _ _ _
  · exact (BitVec.xor_assoc _ _ _).trans ((congrArg _ (BitVec.xor_comm _ _)).trans
      (BitVec.xor_assoc _ _ _).symm)
  · exact (cancel _ _ _).symm

/-- Only zero steps to zero: the polynomial has its highest bit, and a shifted register does
not. -/
theorem shift_bit_zero {crc : BitVec 32} (zero : shiftBit crc = 0#32) : crc = 0#32 := by
  unfold shiftBit at zero
  cases low : crc.getLsbD 0 with
  | true =>
      rw [low, if_pos rfl] at zero
      have high := congrArg (fun word => word.getLsbD 31) zero
      simp at high
  | false =>
      rw [low, if_neg Bool.false_ne_true] at zero
      refine BitVec.eq_of_getLsbD_eq fun index inside => ?_
      cases index with
      | zero => rw [low, BitVec.getLsbD_zero]
      | succ index =>
          have bit := congrArg (fun word => word.getLsbD index) zero
          simpa [BitVec.getLsbD_ushiftRight, Nat.add_comm] using bit

/-- A bit step loses nothing. By linearity it is enough that only zero goes to zero. -/
theorem shift_bit_injective {left right : BitVec 32} (same : shiftBit left = shiftBit right) :
    left = right := by
  have zero : shiftBit (left ^^^ right) = 0#32 := by
    rw [shift_bit_xor, same, BitVec.xor_self]
  exact BitVec.xor_eq_zero_iff.mp (shift_bit_zero zero)

/-- Any number of bit steps is linear, by induction over the steps. -/
theorem shifts_xor (count : Nat) (left right : BitVec 32) :
    Nat.repeat shiftBit count (left ^^^ right) =
      Nat.repeat shiftBit count left ^^^ Nat.repeat shiftBit count right := by
  induction count with
  | zero => rfl
  | succ count hypothesis => rw [Nat.repeat, hypothesis, shift_bit_xor, Nat.repeat, Nat.repeat]

/-- Any number of bit steps loses nothing, by induction over the steps. -/
theorem shifts_injective {count : Nat} {left right : BitVec 32}
    (same : Nat.repeat shiftBit count left = Nat.repeat shiftBit count right) : left = right := by
  induction count with
  | zero => exact same
  | succ count hypothesis => exact hypothesis (shift_bit_injective same)

/-- Bit steps done in two portions are bit steps done at once, the second portion first. -/
theorem shifts_add (first second : Nat) (crc : BitVec 32) :
    Nat.repeat shiftBit (first + second) crc =
      Nat.repeat shiftBit first (Nat.repeat shiftBit second crc) := by
  induction first with
  | zero => rw [Nat.zero_add, Nat.repeat]
  | succ first hypothesis => rw [Nat.add_right_comm, Nat.repeat, hypothesis, Nat.repeat]

/-- A register with zeros below only moves down: the polynomial is not subtracted while zeros
leave. Induction over the steps, the next bit being one of the zeros. -/
theorem shifts_down (count : Nat) {crc : BitVec 32}
    (zeros : ∀ index < count, crc.getLsbD index = false) :
    Nat.repeat shiftBit count crc = crc >>> count := by
  induction count with
  | zero => rw [Nat.repeat, BitVec.ushiftRight_zero]
  | succ count hypothesis =>
      have low : (crc >>> count).getLsbD 0 = false := by
        rw [BitVec.getLsbD_ushiftRight, Nat.add_zero]
        exact zeros count (Nat.lt_succ_self count)
      rw [Nat.repeat, hypothesis fun index below => zeros index (Nat.lt_succ_of_lt below), shiftBit,
        low, if_neg Bool.false_ne_true, BitVec.shiftRight_add]

/-- Equal bytes keep different registers apart, because each byte is an exclusive or and eight
bit steps, and neither loses anything. -/
theorem update_injective {left right : BitVec 32} (bytes : List Byte)
    (same : bytes.foldl update left = bytes.foldl update right) : left = right := by
  induction bytes generalizing left right with
  | nil => exact same
  | cons byte rest hypothesis =>
      have stepped : update left byte = update right byte := hypothesis same
      exact (BitVec.xor_left_inj _).mp (shifts_injective stepped)

/-- The word of at most four bytes, the first byte lowest, which is the order in which the
register takes them in. -/
def littleWord (bytes : List Byte) : BitVec 32 :=
  BitVec.ofNat 32 (Nat.ofDigits 256 (bytes.map BitVec.toNat))

/-- The bytes of a string are digits to the base 256. -/
theorem digits_bounded (bytes : List Byte) : ∀ digit ∈ bytes.map BitVec.toNat, digit < 256 := by
  intro digit member
  obtain ⟨byte, -, rfl⟩ := List.mem_map.mp member
  exact byte.isLt

/-- A few bytes make a number below the power of 256 that counts them. -/
theorem digits_small {bytes : List Byte} {count : Nat} (short : bytes.length ≤ count) :
    Nat.ofDigits 256 (bytes.map BitVec.toNat) < 256 ^ count := by
  refine (Nat.ofDigits_lt_base_pow_length (by decide) (digits_bounded bytes)).trans_le ?_
  rw [List.length_map]
  exact Nat.pow_le_pow_right (by decide) short

/-- Different byte strings of the same length up to four have different words: the digits of a
number determine it, and four of them fit the word. -/
theorem little_word_injective {left right : List Byte} (length : left.length = right.length)
    (short : left.length ≤ 4) (same : littleWord left = littleWord right) : left = right := by
  have values := congrArg BitVec.toNat same
  rw [littleWord, littleWord, BitVec.toNat_ofNat, BitVec.toNat_ofNat,
    Nat.mod_eq_of_lt (show _ < 2 ^ 32 from digits_small short),
    Nat.mod_eq_of_lt (show _ < 2 ^ 32 from digits_small (length ▸ short))] at values
  have digits : left.map BitVec.toNat = right.map BitVec.toNat :=
    Nat.ofDigits_inj_of_len_eq (by decide) (by rw [List.length_map, List.length_map, length])
      (digits_bounded left) (digits_bounded right) values
  exact List.map_injective_iff.mpr (fun _ _ => BitVec.eq_of_toNat_eq) digits

/-- The first byte of a window stands below the others, which move up by eight bits. The two
parts have no bit in common, so their sum is an exclusive or. -/
theorem little_word_cons (byte : Byte) (rest : List Byte) :
    littleWord (byte :: rest) = byte.setWidth 32 ^^^ littleWord rest <<< 8 := by
  refine BitVec.eq_of_getLsbD_eq fun index inside => ?_
  have split : byte.toNat + 256 * Nat.ofDigits 256 (rest.map BitVec.toNat) =
      2 ^ 8 * Nat.ofDigits 256 (rest.map BitVec.toNat) + byte.toNat := by omega
  rw [littleWord, littleWord, List.map_cons, Nat.ofDigits_cons, BitVec.getLsbD_xor,
    BitVec.getLsbD_shiftLeft, BitVec.getLsbD_setWidth, BitVec.getLsbD_ofNat, BitVec.getLsbD_ofNat,
    split, Nat.testBit_two_pow_mul_add _ byte.isLt]
  by_cases low : index < 8
  · simp only [inside, low, decide_true, Bool.true_and, Bool.not_true, Bool.false_and,
      Bool.xor_false, if_pos]
    rfl
  · have upper : index - 8 < 32 := by omega
    simp only [inside, low, upper, decide_true, decide_false, Bool.true_and, Bool.not_false,
      if_neg, not_false_eq_true, BitVec.getLsbD_of_ge byte index (Nat.not_lt.mp low),
      Bool.false_xor]

/-- The other bytes step down into the place of the first: their word has eight zeros below, and
bit steps over zeros only shift. -/
theorem little_word_steps {rest : List Byte} (short : rest.length ≤ 3) :
    Nat.repeat shiftBit 8 (littleWord rest <<< 8) = littleWord rest := by
  have small : (littleWord rest).toNat < 2 ^ 24 := by
    rw [littleWord, BitVec.toNat_ofNat]
    exact (Nat.mod_le _ _).trans_lt (digits_small short)
  rw [shifts_down 8 fun index below => by simp [below]]
  apply BitVec.eq_of_toNat_eq
  rw [BitVec.toNat_ushiftRight, BitVec.toNat_shiftLeft, Nat.shiftLeft_eq, Nat.shiftRight_eq_div_pow]
  omega

/-- A window of at most four bytes acts on the register as one exclusive or with its word.
Induction over the bytes; the first is taken at once, and the others move into its place. -/
theorem update_window (crc : BitVec 32) {bytes : List Byte} (short : bytes.length ≤ 4) :
    bytes.foldl update crc = Nat.repeat shiftBit (8 * bytes.length) (crc ^^^ littleWord bytes) := by
  induction bytes generalizing crc with
  | nil => exact (BitVec.xor_zero).symm
  | cons byte rest hypothesis =>
      have shorter : rest.length ≤ 3 := Nat.le_of_succ_le_succ short
      rw [List.foldl_cons, hypothesis _ (Nat.le_succ_of_le shorter), update,
        ← little_word_steps shorter, ← shifts_xor, ← shifts_add,
        little_word_cons byte rest, BitVec.xor_assoc, List.length_cons, Nat.mul_succ]

/-- Strings that differ within four consecutive bytes have different checksums, whatever stands
before and behind. The bytes behind keep the registers apart, and the windows act by different
words. -/
theorem crc32_window {front left right back : List Byte} (length : left.length = right.length)
    (short : left.length ≤ 4) (differ : left ≠ right) :
    crc32 (front ++ left ++ back) ≠ crc32 (front ++ right ++ back) := by
  intro same
  have folded := BitVec.not_inj.mp same
  rw [List.foldl_append, List.foldl_append, List.foldl_append, List.foldl_append] at folded
  have windows := update_injective back folded
  generalize front.foldl update (BitVec.allOnes 32) = crc at windows
  rw [update_window crc short, update_window crc (length ▸ short), length] at windows
  exact differ (little_word_injective length short
    ((BitVec.xor_right_inj _).mp (shifts_injective windows)))

end EmaczZephyr.Crc32
