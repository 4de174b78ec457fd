import EmaczZephyr.Provision.Message

/-!
# Installing an address

The board's provisioning state and `apply_config`, the one function that changes its
address, on behalf of the network path and of the JTAG mailbox. The calls into the
network interface are parameters: each returns whether it succeeded and may change the
interface in any way. The interface pointer and the log are left out.
-/

namespace EmaczZephyr.Provision

open BigEndian

/-- `EINVAL`, for a request that is not usable. -/
def einval : Int := 22

/-- `EIO`, for an address that could not be removed. -/
def eio : Int := 5

/-- `ENOMEM`, for an address that could not be added. -/
def enomem : Int := 12

/-- `prefix_to_mask`: as many ones from the left as the prefix says, and zero for a zero prefix. -/
def prefixToMask (prefixBits : Byte) : BitVec 32 :=
  if prefixBits = 0#8 then 0#32 else BitVec.allOnes 32 <<< (32 - prefixBits.toNat)

/-- `addr_is_usable`: a prefix from 1 to 30, a unicast host address in it, and a gateway that is
zero or another host of the subnet. -/
def addrIsUsable (ip : BitVec 32) (prefixBits : Byte) (gw : BitVec 32) : Bool :=
  if prefixBits = 0#8 ∨ 30#8 < prefixBits ∨ ip = 0#32 ∨ ip = BitVec.allOnes 32 ∨
      ip &&& 0xf0000000#32 = 0xe0000000#32 ∨ ip &&& 0xff000000#32 = 0x7f000000#32 then false
  else
    let mask := BitVec.allOnes 32 <<< (32 - prefixBits.toNat)
    let host := ip &&& ~~~mask
    if host = 0#32 ∨ host = ~~~mask then false
    else if gw ≠ 0#32 ∧ (gw &&& mask ≠ ip &&& mask ∨ gw = ip ∨ gw = ip &&& mask ∨
        gw = (ip &&& mask) ||| ~~~mask) then false
    else true

/-- The calls into the network interface, any of which may fail; the interface's state is behind
them. -/
structure NetIf (Iface : Type) where
  /-- `net_if_ipv4_addr_rm` -/
  addrRm : Iface → BitVec 32 → Bool × Iface
  /-- `net_if_ipv4_addr_add` with `NET_ADDR_MANUAL` -/
  addrAdd : Iface → BitVec 32 → Bool × Iface
  /-- `net_if_ipv4_set_netmask_by_addr` -/
  setNetmaskByAddr : Iface → BitVec 32 → BitVec 32 → Bool × Iface
  /-- `net_if_ipv4_set_gw` -/
  setGw : Iface → BitVec 32 → Iface

/-- The static variables of the provisioning module, with the interface that it configures. -/
structure Prov (Iface : Type) where
  provIface : Iface
  provAddr : BitVec 32
  provAddrInstalled : Bool
  provGateway : BitVec 32
  provPrefix : Byte
  provToken : BitVec 32
  provXid : BitVec 32
  provMac : BitVec 48

variable {Iface : Type}

/-- The removal of the old address, where one is attached. -/
def removeAddr (net : NetIf Iface) (prov : Prov Iface) : Bool × Iface :=
  if prov.provAddrInstalled then net.addrRm prov.provIface prov.provAddr else (true, prov.provIface)

/-- The attempt to put the old address back when the new one could not be added; it may fail as
well. -/
def restoreAddr (net : NetIf Iface) (prov : Prov Iface) (oldAddr : BitVec 32) : Prov Iface :=
  let (added, iface) := net.addrAdd prov.provIface oldAddr
  if added then
    let (_, iface) := net.setNetmaskByAddr iface oldAddr (prefixToMask prov.provPrefix)
    { prov with
      provIface := iface
      provAddrInstalled := true }
  else { prov with provIface := iface }

/-- `apply_config`: test, removal, addition with its roll-back, netmask, gateway and settings,
with the return value of each way out. -/
def applyConfig (net : NetIf Iface) (prov : Prov Iface) (request : ProvMessage) :
    Int × Prov Iface :=
  let oldAddr := prov.provAddr
  if addrIsUsable request.ip request.prefixBits request.gateway = false then (-einval, prov)
  else
    let (removed, iface) := removeAddr net prov
    if removed = false then (-eio, { prov with provIface := iface })
    else
      let (added, iface) := net.addrAdd iface request.ip
      let removedProv := { prov with
        provIface := iface
        provAddrInstalled := false }
      if added = false then (-enomem, restoreAddr net removedProv oldAddr)
      else
        let (masked, iface) :=
          net.setNetmaskByAddr iface request.ip (prefixToMask request.prefixBits)
        if masked = false then
          let (_, iface) := net.addrRm iface request.ip
          (-eio, restoreAddr net { removedProv with provIface := iface } oldAddr)
        else
          (0, { removedProv with
            provIface := net.setGw iface request.gateway
            provAddrInstalled := true
            provAddr := request.ip
            provGateway := request.gateway
            provPrefix := request.prefixBits })

/-- The board's settings are what a request asks for, and the address is installed. -/
def Prov.Holds (prov : Prov Iface) (request : ProvMessage) : Prop :=
  prov.provAddrInstalled = true ∧ prov.provAddr = request.ip ∧
    prov.provGateway = request.gateway ∧ prov.provPrefix = request.prefixBits

/-- What identifies the board and its offer is the same: link address, transaction and token. -/
def Prov.SameOffer (prov next : Prov Iface) : Prop :=
  next.provMac = prov.provMac ∧ next.provXid = prov.provXid ∧ next.provToken = prov.provToken

/-- The settings that a response reports are the same: address, gateway and prefix. -/
def Prov.SameSettings (prov next : Prov Iface) : Prop :=
  next.provAddr = prov.provAddr ∧ next.provGateway = prov.provGateway ∧
    next.provPrefix = prov.provPrefix

/-- Putting the old address back leaves the offer and the settings, whether or not it succeeds. -/
theorem restore_same (net : NetIf Iface) (prov : Prov Iface) (oldAddr : BitVec 32) :
    prov.SameOffer (restoreAddr net prov oldAddr) ∧
      prov.SameSettings (restoreAddr net prov oldAddr) := by
  unfold restoreAddr
  split
  split
  · exact ⟨⟨rfl, rfl, rfl⟩, rfl, rfl, rfl⟩
  · exact ⟨⟨rfl, rfl, rfl⟩, rfl, rfl, rfl⟩

/-- `apply_config` either installs a usable request, or fails and keeps the settings;
it never touches the offer. -/
theorem apply_cases (net : NetIf Iface) (prov : Prov Iface) (request : ProvMessage) :
    prov.SameOffer (applyConfig net prov request).2 ∧
      ((applyConfig net prov request).1 = 0 ∧
          addrIsUsable request.ip request.prefixBits request.gateway = true ∧
          (applyConfig net prov request).2.Holds request ∨
        (applyConfig net prov request).1 ≠ 0 ∧
          prov.SameSettings (applyConfig net prov request).2) := by
  unfold applyConfig
  split
  · exact ⟨⟨rfl, rfl, rfl⟩, .inr ⟨(by decide : -einval ≠ 0), rfl, rfl, rfl⟩⟩
  rename_i usable
  generalize removeAddr net prov = removal
  dsimp only
  split
  · exact ⟨⟨rfl, rfl, rfl⟩, .inr ⟨(by decide : -eio ≠ 0), rfl, rfl, rfl⟩⟩
  split
  · obtain ⟨offer, settings⟩ := restore_same net _ _
    exact ⟨offer, .inr ⟨(by decide : -enomem ≠ 0), settings⟩⟩
  split
  · obtain ⟨offer, settings⟩ := restore_same net _ _
    exact ⟨offer, .inr ⟨(by decide : -eio ≠ 0), settings⟩⟩
  · exact ⟨⟨rfl, rfl, rfl⟩, .inl ⟨rfl, by simpa using usable, rfl, rfl, rfl, rfl⟩⟩

end EmaczZephyr.Provision
