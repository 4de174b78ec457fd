import EmaczZephyr.Foundation.Subnet
import EmaczZephyr.Provision.ApplyConfig
import EmaczZephyr.Provision.HostTool

/-!
# One rule for usable addresses

The firmware decides with masks and shifts whether an address, a length of prefix and a
gateway can be installed; the host tool decides it with the networks of the `ipaddress`
module. Both decide the same, and no shift of the firmware is undefined.
-/

namespace EmaczZephyr.Provision

open BigEndian Subnet

/-- A left shift of a 32-bit operand, undefined when it is by 32 or more. -/
def shiftLeft (value count : BitVec 32) : Option (BitVec 32) :=
  if count.toNat < 32 then some (value <<< count.toNat) else none

/-- `addr_is_usable`, with the shift as the machine has it: by 32 or more it would be undefined,
which is `none`. -/
def addrIsUsableShifting (ip : BitVec 32) (prefixBits : Byte) (gw : BitVec 32) : Option Bool :=
  if prefixBits = 0#8 ∨ 30#8 < prefixBits ∨ ip = 0#32 ∨ ip = BitVec.allOnes 32 ∨
      ip &&& 0xf0000000#32 = 0xe0000000#32 ∨ ip &&& 0xff000000#32 = 0x7f000000#32 then some false
  else (shiftLeft (BitVec.allOnes 32) (32#32 - prefixBits.setWidth 32)).map fun mask =>
    let host := ip &&& ~~~mask
    if host = 0#32 ∨ host = ~~~mask then false
    else if gw ≠ 0#32 ∧ (gw &&& mask ≠ ip &&& mask ∨ gw = ip ∨ gw = ip &&& mask ∨
        gw = (ip &&& mask) ||| ~~~mask) then false
    else true

/-- The shift is by less than 32 wherever it is made, because a zero prefix is refused before; so
the function always returns. -/
theorem shift_defined (ip : BitVec 32) (prefixBits : Byte) (gw : BitVec 32) :
    addrIsUsableShifting ip prefixBits gw = some (addrIsUsable ip prefixBits gw) := by
  unfold addrIsUsableShifting addrIsUsable
  split
  · rfl
  · rename_i refused
    simp only [not_or] at refused
    obtain ⟨nonzero, short, -⟩ := refused
    have least : 0 < prefixBits.toNat :=
      Nat.pos_of_ne_zero fun zero => nonzero (BitVec.eq_of_toNat_eq zero)
    have most : prefixBits.toNat ≤ 30 := BitVec.le_def.mp (BitVec.not_lt.mp short)
    have count : (32#32 - prefixBits.setWidth 32).toNat = 32 - prefixBits.toNat := by
      rw [BitVec.toNat_sub, BitVec.toNat_setWidth, BitVec.toNat_ofNat]
      omega
    rw [shiftLeft, count, if_pos (by omega)]
    rfl

namespace Python

/-- The exceptions of `validate_config`, with the values in their texts. -/
inductive ConfigError where
  /-- prefix must be between 1 and 30 -/
  | prefixBits
  /-- the address with this prefix is not a usable unicast host address -/
  | address (ip : BitVec 32) (prefixBits : Int)
  /-- the gateway is not a usable peer in the network -/
  | gateway (gateway network : BitVec 32) (prefixBits : Int)
deriving DecidableEq

/-- The network of `is_multicast` in the tool's library, 224.0.0.0/4. -/
def multicastNetwork : Network 32 := .enclosing 0xe0000000#32 4 (by decide)

/-- The network of `is_loopback` in the tool's library, 127.0.0.0/8. -/
def loopbackNetwork : Network 32 := .enclosing 0x7f000000#32 8 (by decide)

/-- `validate_config` of the tool over networks, with the text that each of its exceptions has. -/
def validateConfig (ip : BitVec 32) (prefixBits : Int) (gateway : BitVec 32) :
    Except ConfigError Unit :=
  if range : ¬ (1 ≤ prefixBits ∧ prefixBits ≤ 30) then .error .prefixBits
  else
    let network : Network 32 := .enclosing ip prefixBits.toNat (by omega)
    if multicastNetwork.Contains ip ∨ ip = 0#32 ∨ loopbackNetwork.Contains ip ∨
        ip = network.address ∨ ip = network.broadcast then .error (.address ip prefixBits)
    else if gateway ≠ 0#32 ∧ (¬ network.Contains gateway ∨ gateway = ip ∨
        gateway = network.address ∨ gateway = network.broadcast) then
      .error (.gateway gateway network.address prefixBits)
    else .ok ()

/-- Multicast addresses are recognised by their first four bits, as the firmware does it. -/
theorem multicast_iff (ip : BitVec 32) :
    multicastNetwork.Contains ip ↔ ip &&& 0xf0000000#32 = 0xe0000000#32 :=
  Network.contains_iff multicastNetwork ip

/-- Loopback addresses are recognised by their first eight bits, as the firmware does it. -/
theorem loopback_iff (ip : BitVec 32) :
    loopbackNetwork.Contains ip ↔ ip &&& 0xff000000#32 = 0x7f000000#32 :=
  Network.contains_iff loopbackNetwork ip

/-- The check over networks is the check under masks, for all settings that a command line can
give. -/
theorem valid_iff (ip : BitVec 32) (prefixBits : Int) (gateway : BitVec 32) :
    validateConfig ip prefixBits gateway = .ok () ↔
      Host.validateConfig ip prefixBits gateway = true := by
  unfold validateConfig Host.validateConfig
  by_cases range : 1 ≤ prefixBits ∧ prefixBits ≤ 30
  · have inside : prefixBits.toNat ≤ 32 := by omega
    have mask : netmask 32 prefixBits.toNat = BitVec.allOnes 32 <<< (32 - prefixBits.toNat) :=
      netmask_shift inside
    have first : (Network.enclosing ip prefixBits.toNat inside).address =
        ip &&& netmask 32 prefixBits.toNat := rfl
    have last : (Network.enclosing ip prefixBits.toNat inside).broadcast =
        (ip &&& netmask 32 prefixBits.toNat) ||| ~~~ netmask 32 prefixBits.toNat := rfl
    have member : (Network.enclosing ip prefixBits.toNat inside).Contains gateway ↔
        gateway &&& netmask 32 prefixBits.toNat = ip &&& netmask 32 prefixBits.toNat :=
      Network.contains_iff _ gateway
    simp only [range, and_self, not_true_eq_false, ↓reduceDIte, ↓reduceIte, multicast_iff,
      loopback_iff, first, last, member, mask]
    split
    · simp
    · split <;> simp
  · simp [range]

end Python

/-- The firmware's check is the tool's, under masks, for every address, prefix and gateway. -/
theorem usable_valid (ip : BitVec 32) (prefixBits : Byte) (gw : BitVec 32) :
    addrIsUsable ip prefixBits gw = Host.validateConfig ip prefixBits.toNat gw := by
  have wide : (1 ≤ (prefixBits.toNat : Int) ∧ (prefixBits.toNat : Int) ≤ 30) ↔
      ¬ (prefixBits = 0#8 ∨ 30#8 < prefixBits) := by
    rw [not_or, ← BitVec.toNat_inj, BitVec.lt_def]
    simp only [BitVec.toNat_ofNat]
    omega
  unfold addrIsUsable Host.validateConfig
  by_cases range : prefixBits = 0#8 ∨ 30#8 < prefixBits
  · have outside : ¬ (1 ≤ (prefixBits.toNat : Int) ∧ (prefixBits.toNat : Int) ≤ 30) :=
      fun inside => wide.mp inside range
    rw [if_pos (by tauto), if_pos outside]
  · obtain ⟨nonzero, short⟩ := not_or.mp range
    -- The limited broadcast address is the broadcast address of every network.
    have ones (mask : BitVec 32) (all : ip = BitVec.allOnes 32) :
        ip = (ip &&& mask) ||| ~~~ mask := by
      rw [all, BitVec.allOnes_and, BitVec.or_not_self]
    rw [if_neg (not_not.mpr (wide.mpr range))]
    obtain ⟨mask, named⟩ : ∃ mask, BitVec.allOnes 32 <<< (32 - prefixBits.toNat) = mask := ⟨_, rfl⟩
    simp only [Int.toNat_natCast, named, host_clear, host_full, nonzero, short, false_or]
    have last := ones mask
    by_cases special : ip &&& 0xf0000000#32 = 0xe0000000#32 ∨ ip = 0#32 ∨
        ip &&& 0xff000000#32 = 0x7f000000#32 ∨ ip = ip &&& mask ∨ ip = (ip &&& mask) ||| ~~~ mask
    · rw [if_pos special]
      split
      · rfl
      · rename_i ordinary
        rw [if_pos (by tauto)]
    · rw [if_neg special, if_neg (by tauto), if_neg (by tauto)]

/-- For every address, length of prefix and gateway, `addr_is_usable` makes no undefined
shift, and it accepts exactly what `validate_config` accepts. -/
theorem same_configurations (ip gateway : BitVec 32) (prefixBits : Byte) :
    addrIsUsableShifting ip prefixBits gateway = some (addrIsUsable ip prefixBits gateway) ∧
      (addrIsUsable ip prefixBits gateway = true ↔
        Python.validateConfig ip prefixBits.toNat gateway = .ok ()) := by
  refine ⟨shift_defined ip prefixBits gateway, ?_⟩
  rw [usable_valid, Python.valid_iff]

end EmaczZephyr.Provision
