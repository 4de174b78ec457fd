import Mathlib.Algebra.Ring.Nat

/-!
# Networks of addresses

A network is the addresses that share their first bits: a range that starts at its
network address and ends at its broadcast address. Membership is the range; the law that
it is a comparison under a mask is what programs rely on.
-/

namespace EmaczZephyr.Subnet

variable {width bits : Nat}

/-- The mask of the first `bits` bits, as all ones with the last ones taken off again. -/
def netmask (width bits : Nat) : BitVec width :=
  BitVec.allOnes width ^^^ BitVec.allOnes width >>> bits

/-- The mask is all ones moved up, bit by bit: a bit is set exactly where it is not among the
last ones. -/
theorem netmask_shift (inside : bits ≤ width) :
    netmask width bits = BitVec.allOnes width <<< (width - bits) := by
  apply BitVec.eq_of_getLsbD_eq
  intro index bound
  simp only [netmask, BitVec.getLsbD_xor, BitVec.getLsbD_ushiftRight, BitVec.getLsbD_allOnes,
    BitVec.getLsbD_shiftLeft, bound, decide_true, Bool.true_and]
  by_cases high : bits + index < width
  · simp [high, show index < width - bits by omega]
  · simp [high, show ¬ index < width - bits by omega, show index - (width - bits) < width by omega]

/-- The value of an address under the mask is its value without its last bits. Masking is a shift
down and up again. -/
theorem and_netmask (address : BitVec width) (inside : bits ≤ width) :
    (address &&& netmask width bits).toNat =
      address.toNat / 2 ^ (width - bits) * 2 ^ (width - bits) := by
  have shifted : address &&& netmask width bits =
      address >>> (width - bits) <<< (width - bits) := by
    rw [netmask_shift inside]
    apply BitVec.eq_of_getLsbD_eq
    intro index bound
    simp only [BitVec.getLsbD_and, BitVec.getLsbD_shiftLeft, BitVec.getLsbD_allOnes,
      BitVec.getLsbD_ushiftRight, bound, decide_true, Bool.true_and]
    by_cases low : index < width - bits
    · simp [low]
    · simp [low, show index - (width - bits) < width by omega,
        show width - bits + (index - (width - bits)) = index by omega]
  have small : address.toNat / 2 ^ (width - bits) * 2 ^ (width - bits) < 2 ^ width :=
    Nat.lt_of_le_of_lt (Nat.div_mul_le_self _ _) address.isLt
  rw [shifted, BitVec.toNat_shiftLeft, BitVec.toNat_ushiftRight, Nat.shiftLeft_eq,
    Nat.shiftRight_eq_div_pow, Nat.mod_eq_of_lt small]

/-- The complement of the mask has the last bits set, so its value is one less than their power
of two. -/
theorem not_netmask (inside : bits ≤ width) :
    (~~~ netmask width bits).toNat = 2 ^ (width - bits) - 1 := by
  have shifted : ~~~ netmask width bits = BitVec.allOnes width >>> bits := by
    apply BitVec.eq_of_getLsbD_eq
    intro index bound
    simp [netmask, bound]
  have split : 2 ^ width = 2 ^ (width - bits) * 2 ^ bits := by
    rw [← Nat.pow_add, Nat.sub_add_cancel inside]
  have room : 0 < 2 ^ bits * 2 ^ (width - bits) :=
    Nat.mul_pos (Nat.two_pow_pos bits) (Nat.two_pow_pos _)
  rw [shifted, BitVec.toNat_ushiftRight, BitVec.toNat_allOnes, Nat.shiftRight_eq_div_pow, split,
    Nat.mul_comm, Nat.mul_sub_div 0 _ _ room, Nat.zero_div]

/-- An address without bits outside a mask is its part under the mask, and only such an address
is. -/
theorem host_clear (address mask : BitVec width) :
    address &&& ~~~ mask = BitVec.ofNat width 0 ↔ address = address &&& mask := by
  constructor
  · intro clear
    apply BitVec.eq_of_getElem_eq
    intro index bound
    have bit := congrArg (fun value : BitVec width => value[index]) clear
    simp only [BitVec.getElem_and, BitVec.getElem_not, BitVec.getElem_zero] at bit ⊢
    cases held : address[index] <;> cases kept : mask[index] <;> simp [held, kept] at bit ⊢
  · intro same
    rw [same, BitVec.and_assoc]
    simp

/-- An address with every bit outside a mask is its part under the mask with these. -/
theorem host_full (address mask : BitVec width) :
    address &&& ~~~ mask = ~~~ mask ↔ address = (address &&& mask) ||| ~~~ mask := by
  constructor
  · intro full
    apply BitVec.eq_of_getElem_eq
    intro index bound
    have bit := congrArg (fun value : BitVec width => value[index]) full
    simp only [BitVec.getElem_and, BitVec.getElem_or, BitVec.getElem_not] at bit ⊢
    cases held : address[index] <;> cases kept : mask[index] <;> simp [held, kept] at bit ⊢
  · intro same
    apply BitVec.eq_of_getElem_eq
    intro index bound
    have bit := congrArg (fun value : BitVec width => value[index]) same
    simp only [BitVec.getElem_and, BitVec.getElem_or, BitVec.getElem_not] at bit ⊢
    cases held : address[index] <;> cases kept : mask[index] <;> simp [held, kept] at bit ⊢

/-- A network: its first address, under whose mask nothing else is set, so that no host bits can
be in it. -/
structure Network (width : Nat) where
  bits : Nat
  inside : bits ≤ width
  address : BitVec width
  masked : address &&& netmask width bits = address

namespace Network

/-- The network of an address, which is its part under the mask. -/
def enclosing (address : BitVec width) (bits : Nat) (inside : bits ≤ width) : Network width where
  bits := bits
  inside := inside
  address := address &&& netmask width bits
  masked := by rw [BitVec.and_assoc, BitVec.and_self]

/-- The last address of a network, with every host bit set. -/
def broadcast (network : Network width) : BitVec width :=
  network.address ||| ~~~ netmask width network.bits

/-- The addresses of a network, from its first to its last. -/
def Contains (network : Network width) (address : BitVec width) : Prop :=
  network.address ≤ address ∧ address ≤ network.broadcast

/-- Membership is two comparisons, so it is decided. -/
instance (network : Network width) (address : BitVec width) :
    Decidable (network.Contains address) :=
  inferInstanceAs (Decidable (_ ∧ _))

/-- The last address of a network, as a number: the first one and all host bits. The first has
none of them, so the or is a sum. -/
theorem broadcast_value (network : Network width) :
    network.broadcast.toNat = network.address.toNat + (2 ^ (width - network.bits) - 1) := by
  have aligned := and_netmask network.address network.inside
  rw [network.masked] at aligned
  have positive : 0 < 2 ^ (width - network.bits) := Nat.two_pow_pos _
  rw [broadcast, BitVec.toNat_or, not_netmask network.inside, aligned, Nat.mul_comm,
    ← Nat.two_pow_add_eq_or_of_lt (by omega)]

/-- Membership is a comparison under the mask. Addresses between the first and the last differ
from the first in the host bits only. -/
theorem contains_iff (network : Network width) (address : BitVec width) :
    network.Contains address ↔ address &&& netmask width network.bits = network.address := by
  have aligned := and_netmask network.address network.inside
  rw [network.masked] at aligned
  rw [Contains, BitVec.le_def, BitVec.le_def, broadcast_value, ← BitVec.toNat_inj,
    and_netmask address network.inside]
  generalize network.address.toNat / 2 ^ (width - network.bits) = block at aligned
  have positive : 0 < 2 ^ (width - network.bits) := Nat.two_pow_pos _
  generalize 2 ^ (width - network.bits) = size at aligned positive
  rw [aligned]
  constructor
  · rintro ⟨above, below⟩
    have quotient : address.toNat / size = block := by
      apply Nat.div_eq_of_lt_le above
      rw [Nat.add_mul, Nat.one_mul]
      omega
    rw [quotient]
  · intro same
    have quotient : address.toNat / size = block := Nat.eq_of_mul_eq_mul_right positive same
    have parts := Nat.div_add_mod address.toNat size
    have remainder := Nat.mod_lt address.toNat positive
    rw [quotient, Nat.mul_comm] at parts
    omega

end Network

end EmaczZephyr.Subnet
