import EmaczZephyr.Foundation.FaultyTable
import EmaczZephyr.Provision.ApplyConfig

/-!
# Applying a configuration whole or not at all

The network interface as a table from addresses to masks, of which any call may be made
to fail, and what `apply_config` leaves in it. It removes the old address before it adds
the new one, so a later failure has to be undone, and the undoing may fail too.
-/

namespace EmaczZephyr.Provision

open BigEndian FaultyTable

/-- The addresses of the interface with their masks, and its gateway. -/
structure InterfaceTable where
  addresses : Table (BitVec 32) (BitVec 32)
  gateway : BitVec 32

/-- The calls on the table. The mask of an address just added is the stack's choice, and
setting the gateway cannot fail. -/
def tableNetIf (fails : Nat → Bool) (freshMask : BitVec 32 → BitVec 32) :
    NetIf InterfaceTable where
  addrRm iface address :=
    let (removed, addresses) := remove fails iface.addresses address
    (removed, { iface with addresses := addresses })
  addrAdd iface address :=
    let (added, addresses) := insert fails iface.addresses address (freshMask address)
    (added, { iface with addresses := addresses })
  setNetmaskByAddr iface address mask :=
    let (masked, addresses) := assign fails iface.addresses address mask
    (masked, { iface with addresses := addresses })
  setGw iface gateway := { iface with gateway := gateway }

section Interface

variable (fails : Nat → Bool) (freshMask : BitVec 32 → BitVec 32) {iface : InterfaceTable}
  {address : BitVec 32} (mask : BitVec 32)

/-- The removal of an address that is there fails only when it is made to. -/
theorem addr_rm_cases (here : (iface.addresses.entries address).isSome = true) :
    ((tableNetIf fails freshMask).addrRm iface address).2.gateway = iface.gateway ∧
      ((tableNetIf fails freshMask).addrRm iface address).2.addresses.calls =
        iface.addresses.calls + 1 ∧
      (((tableNetIf fails freshMask).addrRm iface address).1 = false ∧
          ((tableNetIf fails freshMask).addrRm iface address).2.addresses.entries =
            iface.addresses.entries ∧ iface.addresses.Failing fails ∨
        ((tableNetIf fails freshMask).addrRm iface address).1 = true ∧
          ((tableNetIf fails freshMask).addrRm iface address).2.addresses.entries =
            Function.update iface.addresses.entries address none) := by
  refine ⟨rfl, remove_calls, ?_⟩
  cases removed : (remove fails iface.addresses address).1 with
  | false => exact .inl ⟨removed, remove_refused removed, remove_fails here removed⟩
  | true => exact .inr ⟨removed, remove_granted removed⟩

/-- An addition either finds no such address and is made to fail, or the address is there
behind it, alone if the table was empty. -/
theorem addr_add_cases (iface : InterfaceTable) (address : BitVec 32) :
    ((tableNetIf fails freshMask).addrAdd iface address).2.gateway = iface.gateway ∧
      ((tableNetIf fails freshMask).addrAdd iface address).2.addresses.calls =
        iface.addresses.calls + 1 ∧
      (((tableNetIf fails freshMask).addrAdd iface address).1 = false ∧
          ((tableNetIf fails freshMask).addrAdd iface address).2.addresses.entries =
            iface.addresses.entries ∧
          iface.addresses.entries address = none ∧ iface.addresses.Failing fails ∨
        ((tableNetIf fails freshMask).addrAdd iface address).1 = true ∧
          (((tableNetIf fails freshMask).addrAdd iface address).2.addresses.entries
            address).isSome = true ∧
          (iface.addresses.entries = absent →
            ((tableNetIf fails freshMask).addrAdd iface address).2.addresses.entries =
              single address (freshMask address))) := by
  refine ⟨rfl, insert_calls, ?_⟩
  cases added : (insert fails iface.addresses address (freshMask address)).1 with
  | false => exact .inl ⟨added, insert_refused added⟩
  | true => exact .inr ⟨added, insert_present added, fun empty => insert_single empty added⟩

/-- The mask of an address that is there is refused only when the call is made to fail, and
no address comes or goes. -/
theorem set_netmask_cases (here : (iface.addresses.entries address).isSome = true) :
    ((tableNetIf fails freshMask).setNetmaskByAddr iface address mask).2.gateway =
        iface.gateway ∧
      ((tableNetIf fails freshMask).setNetmaskByAddr iface address mask).2.addresses.calls =
        iface.addresses.calls + 1 ∧
      (((tableNetIf fails freshMask).setNetmaskByAddr iface address mask).2.addresses.entries
        address).isSome = true ∧
      (((tableNetIf fails freshMask).setNetmaskByAddr iface address mask).1 = false ∧
          ((tableNetIf fails freshMask).setNetmaskByAddr iface address mask).2.addresses.entries =
            iface.addresses.entries ∧ iface.addresses.Failing fails ∨
        ((tableNetIf fails freshMask).setNetmaskByAddr iface address mask).1 = true ∧
          ((tableNetIf fails freshMask).setNetmaskByAddr iface address mask).2.addresses.entries =
            Function.update iface.addresses.entries address (some mask)) := by
  refine ⟨rfl, assign_calls, (assign_present address).trans here, ?_⟩
  cases masked : (assign fails iface.addresses address mask).1 with
  | false => exact .inl ⟨masked, assign_refused masked, assign_fails here masked⟩
  | true => exact .inr ⟨masked, assign_granted masked⟩

end Interface

/-- The address is in the table of the interface, with whatever mask. -/
def Prov.Attached (prov : Prov InterfaceTable) (address : BitVec 32) : Prop :=
  (prov.provIface.addresses.entries address).isSome = true

/-- Nothing but the module's address is in the table, and that only while it is marked
as installed. -/
def Prov.OnlyOwner (prov : Prov InterfaceTable) : Prop :=
  ∀ address, prov.Attached address ↔ prov.provAddrInstalled = true ∧ address = prov.provAddr

section Calls

variable {fails : Nat → Bool} {freshMask : BitVec 32 → BitVec 32} {prov : Prov InterfaceTable}

/-- The removal fails only on an address that is there; otherwise the table is empty
behind it. -/
theorem remove_addr_cases (fails : Nat → Bool) (freshMask : BitVec 32 → BitVec 32)
    (owner : prov.OnlyOwner) :
    (removeAddr (tableNetIf fails freshMask) prov).2.gateway = prov.provIface.gateway ∧
      prov.provIface.addresses.calls ≤
        (removeAddr (tableNetIf fails freshMask) prov).2.addresses.calls ∧
      ((removeAddr (tableNetIf fails freshMask) prov).1 = false ∧
          (removeAddr (tableNetIf fails freshMask) prov).2.addresses.entries =
            prov.provIface.addresses.entries ∨
        (removeAddr (tableNetIf fails freshMask) prov).1 = true ∧
          (removeAddr (tableNetIf fails freshMask) prov).2.addresses.entries = absent) := by
  unfold removeAddr
  by_cases installed : prov.provAddrInstalled = true
  · rw [if_pos installed]
    obtain ⟨gateway, calls, outcome⟩ := addr_rm_cases fails freshMask
      ((owner prov.provAddr).mpr ⟨installed, rfl⟩)
    refine ⟨gateway, calls ▸ Nat.le_succ _, ?_⟩
    rcases outcome with ⟨refused, same, -⟩ | ⟨removed, entries⟩
    · exact .inl ⟨refused, same⟩
    · refine .inr ⟨removed, entries.trans ?_⟩
      have only : ∀ other, (prov.provIface.addresses.entries other).isSome = true ↔
          other = prov.provAddr := by
        intro other
        exact (owner other).trans (and_iff_right installed)
      obtain ⟨mask, whole⟩ := eq_single only
      rw [whole]
      exact update_single_none
  · rw [if_neg installed]
    refine ⟨rfl, Nat.le_refl _, .inr ⟨rfl, ?_⟩⟩
    funext address
    apply Option.not_isSome_iff_eq_none.mp
    intro here
    exact installed ((owner address).mp here).1

/-- What the attempt to put the old address back does: it keeps the gateway, makes at
least one call, marks the address exactly when it is there, and without a failure on an
empty table puts it back with its mask. -/
structure RestoreEffect (fails : Nat → Bool) (prov : Prov InterfaceTable) (oldAddr : BitVec 32)
    (next : Prov InterfaceTable) : Prop where
  gateway : next.provIface.gateway = prov.provIface.gateway
  calls : prov.provIface.addresses.calls < next.provIface.addresses.calls
  marks : next.provAddrInstalled = true ↔ next.Attached oldAddr
  whole : prov.provIface.addresses.entries = absent →
    (∀ call, prov.provIface.addresses.calls ≤ call → call < next.provIface.addresses.calls →
      fails call = false) →
    next.provAddrInstalled = true ∧
      next.provIface.addresses.entries = single oldAddr (prefixToMask prov.provPrefix)

/-- Putting the old address back works, or leaves the table without it and the mark clear; one
case for each failing call. -/
theorem restore_effect (freshMask : BitVec 32 → BitVec 32)
    (uninstalled : prov.provAddrInstalled = false) (oldAddr : BitVec 32) :
    RestoreEffect fails prov oldAddr
      (restoreAddr (tableNetIf fails freshMask) prov oldAddr) := by
  have addition := addr_add_cases fails freshMask prov.provIface oldAddr
  unfold restoreAddr
  cases adding : (tableNetIf fails freshMask).addrAdd prov.provIface oldAddr with
  | mk added inserted =>
  rw [adding] at addition
  obtain ⟨gateway, calls, outcome⟩ := addition
  rcases outcome with ⟨rfl, same, missing, failing⟩ | ⟨rfl, here, whole⟩
  · refine ⟨gateway, calls ▸ Nat.lt_succ_self _, ?_, ?_⟩
    · simp only at same
      simp [Prov.Attached, uninstalled, same, missing]
    · intro _ works
      unfold Table.Failing at failing
      rw [works _ (Nat.le_refl _) (calls ▸ Nat.lt_succ_self _)] at failing
      cases failing
  · have assignment := set_netmask_cases fails freshMask
      (prefixToMask prov.provPrefix) here
    cases assigning : (tableNetIf fails freshMask).setNetmaskByAddr inserted oldAddr
      (prefixToMask prov.provPrefix) with
    | mk masked updated =>
    rw [assigning] at assignment
    obtain ⟨kept, more, present, masking⟩ := assignment
    simp only at calls more whole
    simp only [if_true, assigning]
    refine ⟨kept.trans gateway, ?_, iff_of_true rfl present, ?_⟩
    · simp only
      omega
    · intro empty works
      refine ⟨rfl, ?_⟩
      simp only at works
      rcases masking with ⟨-, -, failing⟩ | ⟨-, entries⟩
      · unfold Table.Failing at failing
        rw [works inserted.addresses.calls (by omega) (by omega)] at failing
        cases failing
      · exact entries.trans (by rw [whole empty, update_single_some])

end Calls

/-- Of the calls made from one table to another, none fails after another has. -/
def UndoWorks (fails : Nat → Bool) (before after : Table (BitVec 32) (BitVec 32)) : Prop :=
  ∀ call later, before.calls ≤ call → call < later → later < after.calls →
    fails call = true → fails later = false

/-- What `apply_config` owes its caller: a whole installation, or the old settings as far as the
interface lets them be restored. -/
structure ApplyAtomic (fails : Nat → Bool) (prov : Prov InterfaceTable) (request : ProvMessage)
    (result : Int) (next : Prov InterfaceTable) : Prop where
  /-- A request that is applied is installed whole, and the old address is gone. -/
  applied : result = 0 → next.Holds request ∧
    next.provIface.addresses.entries request.ip = some (prefixToMask request.prefixBits) ∧
    next.provIface.gateway = request.gateway ∧
    (prov.provAddrInstalled = true → prov.provAddr ≠ request.ip → ¬ next.Attached prov.provAddr)
  /-- One that is not leaves the settings, and the mark says whether the old address is
  still there. -/
  kept : result ≠ 0 → prov.SameSettings next ∧
    next.provIface.gateway = prov.provIface.gateway ∧
    (next.provAddrInstalled = true ↔ next.Attached prov.provAddr)
  /-- When the undoing works, the table is the old one, or it holds exactly the old address
  with the mask of its prefix. -/
  restored : result ≠ 0 → prov.provAddrInstalled = true →
    UndoWorks fails prov.provIface.addresses next.provIface.addresses →
    next.provAddrInstalled = true ∧
      (next.provIface.addresses.entries = prov.provIface.addresses.entries ∨
        next.provIface.addresses.entries = single prov.provAddr (prefixToMask prov.provPrefix))

section Outcomes

variable {fails : Nat → Bool} {freshMask : BitVec 32 → BitVec 32} {prov : Prov InterfaceTable}
  {request : ProvMessage} {code : Int}

/-- A failure that changed no entry of the table owes nothing more. -/
theorem unchanged_atomic {iface : InterfaceTable} (owner : prov.OnlyOwner) (failed : code ≠ 0)
    (gateway : iface.gateway = prov.provIface.gateway)
    (same : iface.addresses.entries = prov.provIface.addresses.entries) :
    ApplyAtomic fails prov request code { prov with provIface := iface } := by
  refine ⟨fun applied => absurd applied failed, ?_, ?_⟩
  · intro _
    have marks : prov.provAddrInstalled = true ↔ prov.Attached prov.provAddr := by
      simp [owner prov.provAddr]
    refine ⟨⟨rfl, rfl, rfl⟩, gateway, marks.trans ?_⟩
    unfold Prov.Attached
    rw [same]
  · intro _ installed _
    exact ⟨installed, .inl same⟩

/-- A failure behind the removal of the old address. When the undoing works, the table is
empty before the old address is put back, and some call failed already. -/
theorem undone_atomic {removed : Prov InterfaceTable} (failed : code ≠ 0)
    (same : prov.SameSettings removed)
    (gateway : removed.provIface.gateway = prov.provIface.gateway)
    (uninstalled : removed.provAddrInstalled = false) {call : Nat}
    (begun : prov.provIface.addresses.calls ≤ call)
    (later : call < removed.provIface.addresses.calls) (failing : fails call = true)
    (empty : (∀ later, call < later → later < removed.provIface.addresses.calls →
      fails later = false) → removed.provIface.addresses.entries = absent) :
    ApplyAtomic fails prov request code
      (restoreAddr (tableNetIf fails freshMask) removed prov.provAddr) := by
  have effect : RestoreEffect fails removed prov.provAddr _ :=
    restore_effect freshMask uninstalled prov.provAddr
  obtain ⟨address, kept, mask⟩ :=
    (restore_same (tableNetIf fails freshMask) removed prov.provAddr).2
  refine ⟨fun applied => absurd applied failed, ?_, ?_⟩
  · intro _
    exact ⟨⟨address.trans same.1, kept.trans same.2.1, mask.trans same.2.2⟩,
      effect.gateway.trans gateway, effect.marks⟩
  · intro _ _ works
    have undone : ∀ other, call < other → other <
        (restoreAddr (tableNetIf fails freshMask) removed
          prov.provAddr).provIface.addresses.calls → fails other = false :=
      fun other after before => works call other begun after before failing
    have gone := empty fun other after before =>
      undone other after (Nat.lt_trans before effect.calls)
    obtain ⟨installed, entries⟩ := effect.whole gone fun other after before =>
      undone other (Nat.lt_of_lt_of_le later after) before
    rw [same.2.2] at entries
    exact ⟨installed, .inr entries⟩

end Outcomes

section Steps

variable {fails : Nat → Bool} {freshMask : BitVec 32 → BitVec 32} {prov : Prov InterfaceTable}
  {iface inserted updated : InterfaceTable} {address mask : BitVec 32}

/-- Behind a removal that worked the table is empty, since the board's address was the only one
in it. -/
theorem removed_empty (owner : prov.OnlyOwner)
    (removing : removeAddr (tableNetIf fails freshMask) prov = (true, iface)) :
    iface.gateway = prov.provIface.gateway ∧
      prov.provIface.addresses.calls ≤ iface.addresses.calls ∧
      iface.addresses.entries = absent := by
  have removal := remove_addr_cases fails freshMask owner
  rw [removing] at removal
  obtain ⟨gateway, later, ⟨impossible, -⟩ | ⟨-, empty⟩⟩ := removal
  · cases impossible
  · exact ⟨gateway, later, empty⟩

/-- An addition that failed has left the entries, and its call was a failing one. -/
theorem add_failed (adding : (tableNetIf fails freshMask).addrAdd iface address =
      (false, inserted)) :
    inserted.gateway = iface.gateway ∧
      inserted.addresses.calls = iface.addresses.calls + 1 ∧
      inserted.addresses.entries = iface.addresses.entries ∧
      fails iface.addresses.calls = true := by
  have addition := addr_add_cases fails freshMask iface address
  rw [adding] at addition
  obtain ⟨gateway, counted, ⟨-, same, -, failing⟩ | ⟨impossible, -⟩⟩ := addition
  · exact ⟨gateway, counted, same, failing⟩
  · cases impossible

/-- An addition that worked on an empty table leaves this one address, with a fresh mask. -/
theorem add_worked (empty : iface.addresses.entries = absent)
    (adding : (tableNetIf fails freshMask).addrAdd iface address = (true, inserted)) :
    inserted.gateway = iface.gateway ∧
      inserted.addresses.calls = iface.addresses.calls + 1 ∧
      inserted.addresses.entries = single address (freshMask address) := by
  have addition := addr_add_cases fails freshMask iface address
  rw [adding] at addition
  obtain ⟨gateway, counted, ⟨impossible, -⟩ | ⟨-, -, whole⟩⟩ := addition
  · cases impossible
  · exact ⟨gateway, counted, whole empty⟩

/-- A mask that could not be set has left the entries, and its call was a failing one. -/
theorem mask_failed (present : (inserted.addresses.entries address).isSome = true)
    (masking : (tableNetIf fails freshMask).setNetmaskByAddr inserted address mask =
      (false, updated)) :
    updated.gateway = inserted.gateway ∧
      updated.addresses.calls = inserted.addresses.calls + 1 ∧
      updated.addresses.entries = inserted.addresses.entries ∧
      fails inserted.addresses.calls = true := by
  have assignment := set_netmask_cases fails freshMask mask present
  rw [masking] at assignment
  obtain ⟨gateway, counted, -, ⟨-, same, failing⟩ | ⟨impossible, -⟩⟩ := assignment
  · exact ⟨gateway, counted, same, failing⟩
  · cases impossible

/-- A mask that was set is the mask of the one address. -/
theorem mask_worked {held : BitVec 32} (whole : inserted.addresses.entries = single address held)
    (masking : (tableNetIf fails freshMask).setNetmaskByAddr inserted address mask =
      (true, updated)) :
    updated.addresses.entries = single address mask := by
  have present : (inserted.addresses.entries address).isSome = true := by
    rw [whole, single_self]
    rfl
  have assignment := set_netmask_cases fails freshMask mask present
  rw [masking] at assignment
  obtain ⟨-, -, -, ⟨impossible, -⟩ | ⟨-, entries⟩⟩ := assignment
  · cases impossible
  · exact entries.trans (by rw [whole, update_single_some])

end Steps

/-- The ways through `apply_config`, with the calls that each makes and the settings it leaves. -/
inductive ApplyOutcome (net : NetIf InterfaceTable) (prov : Prov InterfaceTable)
    (request : ProvMessage) : Int → Prov InterfaceTable → Prop
  | unusable : ApplyOutcome net prov request (-einval) prov
  | attached {iface : InterfaceTable} (removing : removeAddr net prov = (false, iface)) :
      ApplyOutcome net prov request (-eio) { prov with provIface := iface }
  | full {iface inserted : InterfaceTable} (removing : removeAddr net prov = (true, iface))
      (adding : net.addrAdd iface request.ip = (false, inserted)) :
      ApplyOutcome net prov request (-enomem)
        (restoreAddr net { prov with provIface := inserted, provAddrInstalled := false }
          prov.provAddr)
  | unmasked {iface inserted updated last : InterfaceTable} {removed : Bool}
      (removing : removeAddr net prov = (true, iface))
      (adding : net.addrAdd iface request.ip = (true, inserted))
      (masking : net.setNetmaskByAddr inserted request.ip (prefixToMask request.prefixBits) =
        (false, updated))
      (dropping : net.addrRm updated request.ip = (removed, last)) :
      ApplyOutcome net prov request (-eio)
        (restoreAddr net { prov with provIface := last, provAddrInstalled := false }
          prov.provAddr)
  | applied {iface inserted updated : InterfaceTable}
      (removing : removeAddr net prov = (true, iface))
      (adding : net.addrAdd iface request.ip = (true, inserted))
      (masking : net.setNetmaskByAddr inserted request.ip (prefixToMask request.prefixBits) =
        (true, updated)) :
      ApplyOutcome net prov request 0
        { prov with
          provIface := net.setGw updated request.gateway
          provAddrInstalled := true
          provAddr := request.ip
          provGateway := request.gateway
          provPrefix := request.prefixBits }

/-- Every call of `apply_config` takes one of these ways. Later proofs go by the ways and do not
unfold the function. -/
theorem apply_config_outcome (net : NetIf InterfaceTable) (prov : Prov InterfaceTable)
    (request : ProvMessage) :
    ApplyOutcome net prov request (applyConfig net prov request).1
      (applyConfig net prov request).2 := by
  unfold applyConfig
  split
  · exact .unusable
  cases removing : removeAddr net prov with
  | mk removed iface =>
  cases removed with
  | false => exact .attached removing
  | true =>
  cases adding : net.addrAdd iface request.ip with
  | mk added inserted =>
  cases added with
  | false =>
    simp only [adding]
    exact .full removing adding
  | true =>
  cases masking : net.setNetmaskByAddr inserted request.ip (prefixToMask request.prefixBits) with
  | mk masked updated =>
  cases masked with
  | true =>
    simp only [adding, masking]
    exact .applied removing adding masking
  | false =>
  cases dropping : net.addrRm updated request.ip with
  | mk dropped last =>
    simp only [adding, masking, dropping]
    exact .unmasked removing adding masking dropping

/-- Whatever calls fail, `apply_config` applies a request whole, or keeps the settings and the
gateway and knows whether the old address is still there; and when the undoing works, the old
address is there with its mask.

Proof: the outcomes of `apply_config` are taken case by case. The calls before an exit say what
the table of the interface holds there, and behind the removal of the old address the undoing
calls either work or one of them fails. -/
theorem apply_config_atomic (fails : Nat → Bool) (freshMask : BitVec 32 → BitVec 32)
    (prov : Prov InterfaceTable) (request : ProvMessage) (owner : prov.OnlyOwner) :
    ApplyAtomic fails prov request (applyConfig (tableNetIf fails freshMask) prov request).1
      (applyConfig (tableNetIf fails freshMask) prov request).2 := by
  have invalid : -einval ≠ 0 := by decide
  have failed : -eio ≠ 0 := by decide
  have removal := remove_addr_cases fails freshMask owner
  generalize applied : applyConfig (tableNetIf fails freshMask) prov request = result
  have outcome := apply_config_outcome (tableNetIf fails freshMask) prov request
  rw [applied] at outcome
  obtain ⟨code, next⟩ := result
  cases outcome with
  | unusable => exact unchanged_atomic owner invalid rfl rfl
  | attached removing =>
    rw [removing] at removal
    obtain ⟨gateway, -, ⟨-, same⟩ | ⟨impossible, -⟩⟩ := removal
    · exact unchanged_atomic owner failed gateway same
    · cases impossible
  | full removing adding =>
    obtain ⟨gateway, later, empty⟩ := removed_empty owner removing
    obtain ⟨same, counted, unchanged, failing⟩ := add_failed adding
    exact undone_atomic (by decide : -enomem ≠ 0) ⟨rfl, rfl, rfl⟩ (same.trans gateway) rfl later
      (counted ▸ Nat.lt_succ_self _) failing fun _ => unchanged.trans empty
  | unmasked removing adding masking dropping =>
    rename_i iface inserted updated last removed
    obtain ⟨gateway, later, empty⟩ := removed_empty owner removing
    obtain ⟨added_gateway, counted, whole⟩ := add_worked empty adding
    have present : (inserted.addresses.entries request.ip).isSome = true := by
      rw [whole, single_self]
      rfl
    obtain ⟨masked_gateway, assigned, same, failing⟩ := mask_failed present masking
    have dropped := addr_rm_cases fails freshMask
      (show (updated.addresses.entries request.ip).isSome = true from same ▸ present)
    rw [dropping] at dropped
    obtain ⟨dropped_gateway, counted_again, drop⟩ := dropped
    simp only at dropped_gateway counted_again
    have gateway : last.gateway = prov.provIface.gateway :=
      dropped_gateway.trans (masked_gateway.trans (added_gateway.trans gateway))
    have begun : prov.provIface.addresses.calls ≤ inserted.addresses.calls := by omega
    have after : inserted.addresses.calls < last.addresses.calls := by omega
    refine undone_atomic failed ⟨rfl, rfl, rfl⟩ gateway rfl begun after failing ?_
    intro works
    -- The mask was refused, so with a working undo the new address goes.
    rcases drop with ⟨-, -, again⟩ | ⟨-, entries⟩
    · unfold Table.Failing at again
      rw [works updated.addresses.calls (by omega) (by simp only; omega)] at again
      cases again
    · exact entries.trans (by rw [same, whole, update_single_none])
  | applied removing adding masking =>
    rename_i iface inserted updated
    obtain ⟨-, -, empty⟩ := removed_empty owner removing
    obtain ⟨-, -, whole⟩ := add_worked empty adding
    have entries := mask_worked whole masking
    refine ⟨fun _ => ?_, fun nonzero => absurd rfl nonzero, fun nonzero => absurd rfl nonzero⟩
    refine ⟨⟨rfl, rfl, rfl, rfl⟩, ?_, rfl, ?_⟩
    · exact (congrFun entries request.ip).trans single_self
    · intro _ differs here
      have gone := (congrFun entries prov.provAddr).trans (single_other differs)
      exact Option.not_isSome_iff_eq_none.mpr gone here

/-- A board that holds `192.168.1.10` with a mask of 24 bits. -/
def sampleOwned : Prov InterfaceTable where
  provIface := ⟨⟨single 0xc0a8010a#32 (prefixToMask 24#8), 0⟩, 0#32⟩
  provAddr := 0xc0a8010a#32
  provAddrInstalled := true
  provGateway := 0#32
  provPrefix := 24#8
  provToken := 0#32
  provXid := 0#32
  provMac := 0#48

/-- A request for `192.168.1.20`, with a gateway in the subnet. -/
def sampleMove : ProvMessage where
  version := 1#8
  op := 3#8
  status := 0#8
  prefixBits := 24#8
  xid := 7#32
  mac := 0#48
  ip := 0xc0a80114#32
  gateway := 0xc0a80101#32
  token := 9#32

/-- The board of the witness has the only address in the table. -/
theorem sample_owned_owner : sampleOwned.OnlyOwner := by
  intro address
  unfold Prov.Attached sampleOwned
  by_cases same : address = 0xc0a8010a#32
  · simp [same]
  · simp [single_other same, same]

/-- The theorem at a call whose mask is refused: the error is returned, and the old address comes
back. -/
theorem apply_config_atomic_undone :
    (applyConfig (tableNetIf (fun call => call == 2) id) sampleOwned sampleMove).1 = -eio ∧
      ApplyAtomic (fun call => call == 2) sampleOwned sampleMove
        (applyConfig (tableNetIf (fun call => call == 2) id) sampleOwned sampleMove).1
        (applyConfig (tableNetIf (fun call => call == 2) id) sampleOwned sampleMove).2 :=
  ⟨by decide +kernel, apply_config_atomic _ id sampleOwned sampleMove sample_owned_owner⟩

end EmaczZephyr.Provision
