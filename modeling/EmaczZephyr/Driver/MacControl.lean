import Mathlib.Data.Fin.VecNotation
import Mathlib.Data.Fintype.Pi
import EmaczZephyr.Driver.GenericTx
import EmaczZephyr.Foundation.ByteLanes
import EmaczZephyr.Foundation.RacingUpdates
import EmaczZephyr.Foundation.SerialCalls

/-!
# Control of the MAC

The network stack starts and stops the MAC, sets its address and its promiscuous mode, and
binds the interface. None of these calls takes a lock. One of them reads the control register,
changes some bits and writes it back; another copies six bytes and reads them again for two
registers. Here each function stands as a whole, and cut at each of its accesses to what the
contexts share.

Calls that do not overlap leave registers, driver data and link address in agreement with the
settings asked for last. Calls that overlap may lose settings, and may mix the bytes of two
addresses. They never touch the speed and the duplex mode, never enable one direction alone,
and never bring in a bit or a byte that nobody asked for.

The two registers of the address and the control register hold what is written to them.
-/

namespace EmaczZephyr.Driver

open ByteLanes Contexts RacingUpdates Runs SerialCalls

/-- `uint8_t mac[NET_ETH_ADDR_LEN]`, six bytes by their index. -/
abbrev Mac := Fin 6 → BitVec 8

/-- An order in which compiled code goes through the bytes of an address. -/
structure ByteOrder where
  order : List (Fin 6)
  complete : ∀ index, index ∈ order

/-- What a build fixes: the speed, the address from the device tree, and the orders in which the
compiled loops and copies go through the six bytes. -/
structure MacConfig where
  speed : Nat
  mac : Mac
  copyOrder : ByteOrder
  packOrder : ByteOrder
  handOrder : ByteOrder

/-- The three registers, the driver data and the address last handed to
`net_if_set_link_addr`. The writes to the control register are kept for the proofs. -/
structure MacState where
  ctrl : BitVec 32
  macLo : BitVec 32
  macHi : BitVec 32
  mac : Mac
  promisc : Bool
  iface : Bool
  linkAddress : Option Mac
  writes : List (Mask 32)

/-- `ENOMEM`, which the initialisation returns when a packet buffer could not be had. -/
def enomem : Int := 12

/-- The version that the register of a supported MAC reads. -/
def emzVersionValue : BitVec 32 := 0x0001454d#32

/-- The control bit that switches transmission on. -/
def emzCtrlTxEn : BitVec 32 := 1#32 <<< 0

/-- The control bit that switches reception on. -/
def emzCtrlRxEn : BitVec 32 := 1#32 <<< 1

/-- The control bit of the promiscuous mode, in which frames for other addresses are taken as
well. -/
def emzCtrlPromisc : BitVec 32 := 1#32 <<< 2

/-- Where the speed field begins in the control word. -/
def emzCtrlSpeedShift : Nat := 3

/-- The two bits of the speed field. -/
def emzCtrlSpeedMask : BitVec 32 := 3#32 <<< emzCtrlSpeedShift

/-- The control bit of full-duplex operation. -/
def emzCtrlFullDuplex : BitVec 32 := 1#32 <<< 5

/-- `emz_speed_field`: 2 for 10 Mb/s, 0 for 1 Gb/s, and 1, which is 100 Mb/s, for everything
else. -/
def emzSpeedField (speed : Nat) : BitVec 32 :=
  if speed = 10 then 2#32 else if speed = 1000 then 0#32 else 1#32

/-- The lower word of `emz_set_mac`: the last four bytes of the address, the earlier ones higher. -/
def packLo (mac : Mac) : BitVec 32 :=
  (mac 2).setWidth 32 <<< 24 ||| (mac 3).setWidth 32 <<< 16 ||| (mac 4).setWidth 32 <<< 8 |||
    (mac 5).setWidth 32

/-- The upper word of `emz_set_mac`: the first two bytes of the address. -/
def packHi (mac : Mac) : BitVec 32 :=
  (mac 0).setWidth 32 <<< 8 ||| (mac 1).setWidth 32

/-- `emz_set_mac` on the driver's own address, as one effect when no other context is at work. -/
def emzSetMac (state : MacState) : MacState :=
  { state with
    macLo := packLo state.mac
    macHi := packHi state.mac }

/-- `emz_update_ctrl` as one effect: bits are set and cleared in the control word. The history
keeps the masks that were written. -/
def emzUpdateCtrl (mask : Mask 32) (state : MacState) : MacState :=
  { state with
    ctrl := mask.apply state.ctrl
    writes := state.writes ++ [mask] }

/-- What `emz_start` asks `emz_update_ctrl` for: both directions on. -/
def startMask : Mask 32 := ⟨emzCtrlTxEn ||| emzCtrlRxEn, 0#32⟩

/-- What `emz_stop` asks for: both directions off. -/
def stopMask : Mask 32 := ⟨0#32, emzCtrlTxEn ||| emzCtrlRxEn⟩

/-- The arguments for the promiscuous mode, of two reads of `data->promisc`. -/
def promiscMask (first second : Bool) : Mask 32 :=
  ⟨if first then emzCtrlPromisc else 0#32, if second then 0#32 else emzCtrlPromisc⟩

/-- The configuration requests of the stack, as far as the driver tells them apart. -/
inductive EthernetConfig
  | macAddress (address : Mac)
  | promiscMode (promisc : Bool)
  | other

/-- The calls of the network stack that change the MAC. -/
inductive MacCall
  | ifaceInit
  | start
  | stop
  | setConfig (config : EthernetConfig)

/-- `emz_iface_init`, `emz_start`, `emz_stop` and `emz_set_config`, each as a whole. A type that
is not supported changes nothing and is refused. -/
def MacCall.effect : MacCall → MacState → MacState
  | .ifaceInit, state => { state with
      iface := true
      linkAddress := some state.mac }
  | .start, state => emzUpdateCtrl startMask state
  | .stop, state => emzUpdateCtrl stopMask state
  | .setConfig (.macAddress address), state =>
      let named := emzSetMac { state with mac := address }
      if named.iface then { named with linkAddress := some named.mac } else named
  | .setConfig (.promiscMode promisc), state =>
      emzUpdateCtrl (promiscMask promisc promisc) { state with promisc := promisc }
  | .setConfig .other, state => state

/-- `emz_get_config`: the driver's own copies of address and mode, and `none` for the types that
are not supported. -/
def emzGetConfig (state : MacState) : EthernetConfig → Option EthernetConfig
  | .macAddress _ => some (.macAddress state.mac)
  | .promiscMode _ => some (.promiscMode state.promisc)
  | .other => none

/-- The control word that `emz_init` writes: both directions on, full duplex, and the field of
the configured speed. -/
def initialCtrl (speed : Nat) : BitVec 32 :=
  emzCtrlTxEn ||| emzCtrlRxEn ||| emzCtrlFullDuplex |||
    (emzSpeedField speed <<< emzCtrlSpeedShift &&& emzCtrlSpeedMask)

/-- `emz_init` as far as it concerns the MAC: the value of the version register, whether the
buffers could be allocated, and the result of starting the DMA are given. -/
def emzInitMac (cfg : MacConfig) (version : BitVec 32) (allocated : Bool) (started : Int)
    (state : MacState) : Int × MacState :=
  if version ≠ emzVersionValue then (-enodev, state)
  else
    let named := { state with mac := cfg.mac }
    if !allocated then (-enomem, named)
    else (started, { emzSetMac named with ctrl := initialCtrl cfg.speed })

/-- The driver data before the initialisation, beside registers that hold anything. -/
def bootState (ctrl macLo macHi : BitVec 32) : MacState :=
  ⟨ctrl, macLo, macHi, fun _ => 0#8, false, false, none, []⟩

/-- Where a call stands, with its local values; between two points lies one access to what calls
share. -/
inductive MacPoint
  /-- in `emz_iface_init` before `data->iface = iface` -/
  | bind
  /-- in `emz_update_ctrl` before the read of the control register -/
  | readCtrl (mask : Mask 32)
  /-- in `emz_update_ctrl` before the write -/
  | writeCtrl (mask : Mask 32) (ctrl : BitVec 32)
  /-- in `emz_set_config` before `data->promisc` is stored -/
  | storePromisc (promisc : Bool)
  /-- before the first argument is computed, and before the second -/
  | setArgument
  | clearArgument (first : Bool)
  /-- in the `memcpy` to `data->mac` -/
  | copyMac (address : Mac) (remaining : List (Fin 6))
  /-- in `emz_set_mac` while the bytes are read -/
  | packMac (taken : Mac) (remaining : List (Fin 6))
  /-- in `emz_set_mac` before the second register is written -/
  | writeMacHi (taken : Mac)
  /-- before `data->iface` is compared with `NULL` -/
  | checkIface
  /-- in `net_if_set_link_addr` while the bytes are read -/
  | handMac (taken : Mac) (remaining : List (Fin 6))

/-- The points at which a call begins its accesses. A request of another type has none, because
it returns at once. -/
def MacCall.entry (cfg : MacConfig) : MacCall → List MacPoint
  | .ifaceInit => [.bind]
  | .start => [.readCtrl startMask]
  | .stop => [.readCtrl stopMask]
  | .setConfig (.macAddress address) => [.copyMac address cfg.copyOrder.order]
  | .setConfig (.promiscMode promisc) => [.storePromisc promisc]
  | .setConfig .other => []

/-- One access. A local copy of an address starts with bytes that are never used. -/
def macStep (cfg : MacConfig) (state : MacState) : MacPoint → Option (MacState × List MacPoint)
  | .bind => some ({ state with iface := true }, [.handMac (fun _ => 0#8) cfg.handOrder.order])
  | .readCtrl mask => some (state, [.writeCtrl mask (mask.apply state.ctrl)])
  | .writeCtrl mask ctrl => some ({ state with
      ctrl := ctrl
      writes := state.writes ++ [mask] }, [])
  | .storePromisc promisc => some ({ state with promisc := promisc }, [.setArgument])
  | .setArgument => some (state, [.clearArgument state.promisc])
  | .clearArgument first => some (state, [.readCtrl (promiscMask first state.promisc)])
  | .copyMac address (index :: rest) =>
      some ({ state with mac := Function.update state.mac index (address index) },
        [.copyMac address rest])
  | .copyMac _ [] => some (state, [.packMac (fun _ => 0#8) cfg.packOrder.order])
  | .packMac taken (index :: rest) =>
      some (state, [.packMac (Function.update taken index (state.mac index)) rest])
  | .packMac taken [] => some ({ state with macLo := packLo taken }, [.writeMacHi taken])
  | .writeMacHi taken => some ({ state with macHi := packHi taken }, [.checkIface])
  | .checkIface =>
      some (state, if state.iface then [.handMac (fun _ => 0#8) cfg.handOrder.order] else [])
  | .handMac taken (index :: rest) =>
      some (state, [.handMac (Function.update taken index (state.mac index)) rest])
  | .handMac taken [] => some ({ state with linkAddress := some taken }, [])

/-- The registers and the driver's data, the call stacks of the contexts, and the calls that were
made. -/
abbrev MacSystem := System MacState MacPoint MacCall

/-- Contexts call the driver, and take turns at every access. -/
def macRun (cfg : MacConfig) : MacSystem → Label MacCall → Option MacSystem :=
  step (MacCall.entry cfg) (macStep cfg)

/-- Every index is still to come or has a good byte, the invariant of the loops over the six
bytes. -/
def Gathered (good : Fin 6 → BitVec 8 → Prop) (remaining : List (Fin 6)) (taken : Mac) : Prop :=
  ∀ index, index ∈ remaining ∨ good index (taken index)

section Gathered

variable {good : Fin 6 → BitVec 8 → Prop} {first : Fin 6} {rest : List (Fin 6)} {taken : Mac}

/-- Before the first turn every index is still to come. -/
theorem Gathered.untouched (order : ByteOrder) : Gathered good order.order taken :=
  fun index => .inl (order.complete index)

/-- Behind the last turn every byte is good. -/
theorem Gathered.whole (gathered : Gathered good [] taken) (index : Fin 6) :
    good index (taken index) := by
  rcases gathered index with missing | sound
  · cases missing
  · exact sound

/-- A turn that takes a good byte leaves every other index as it was. -/
theorem Gathered.take {byte : BitVec 8} (gathered : Gathered good (first :: rest) taken)
    (sound : good first byte) : Gathered good rest (Function.update taken first byte) := by
  intro index
  by_cases here : index = first
  · subst here
    rw [Function.update_self]
    exact .inr sound
  · rw [Function.update_of_ne here]
    rcases gathered index with waiting | known
    · exact .inl ((List.mem_cons.mp waiting).resolve_left here)
    · exact .inr known

end Gathered

section Alone

variable {cfg : MacConfig} {state target : MacState} {remaining : List (Fin 6)} {taken : Mac}

/-- The copy that hands the address to the stack ends with the driver's address, when nothing
else runs; by induction on the bytes to come. -/
theorem hand_finishes
    (known : Gathered (fun index byte => byte = state.mac index) remaining taken) :
    Finishes (macStep cfg) state [.handMac taken remaining]
      { state with linkAddress := some state.mac } := by
  induction remaining generalizing taken with
  | nil =>
    have same : taken = state.mac := funext known.whole
    subst same
    exact .step rfl .done
  | cons index rest inductionHypothesis => exact .step rfl (inductionHypothesis (known.take rfl))

/-- The reads of `emz_set_mac` end with the words of the driver's address, and the two register
writes follow. -/
theorem pack_finishes (known : Gathered (fun index byte => byte = state.mac index) remaining taken)
    (later : Finishes (macStep cfg) (emzSetMac state) [.checkIface] target) :
    Finishes (macStep cfg) state [.packMac taken remaining] target := by
  induction remaining generalizing taken with
  | nil =>
    have same : taken = state.mac := funext known.whole
    subst same
    exact .step rfl (.step rfl later)
  | cons index rest inductionHypothesis => exact .step rfl (inductionHypothesis (known.take rfl))

/-- The copy from a request to the driver's data ends with the requested address, and the
registers are packed from there. -/
theorem copy_finishes {address : Mac}
    (known : Gathered (fun index byte => byte = address index) remaining state.mac)
    (later : Finishes (macStep cfg) { state with mac := address }
      [.packMac (fun _ => 0#8) cfg.packOrder.order] target) :
    Finishes (macStep cfg) state [.copyMac address remaining] target := by
  induction remaining generalizing state with
  | nil =>
    have same : state.mac = address := funext known.whole
    subst same
    exact .step rfl later
  | cons index rest inductionHypothesis =>
    exact .step rfl (inductionHypothesis (known.take rfl) later)

/-- The test of the interface hands the address to the stack exactly if the interface is known to
the driver. -/
theorem check_finishes : Finishes (macStep cfg) state [.checkIface]
    (if state.iface then { state with linkAddress := some state.mac } else state) := by
  by_cases bound : state.iface
  · rw [if_pos bound]
    have stepped : macStep cfg state .checkIface =
        some (state, [.handMac (fun _ => 0#8) cfg.handOrder.order]) := by
      rw [macStep, bound]
      rfl
    exact .step stepped (hand_finishes (.untouched _))
  · rw [if_neg bound]
    have stepped : macStep cfg state .checkIface = some (state, []) := by
      rw [macStep, if_neg bound]
    exact .step stepped .done

/-- A read and a write of the control register are one update, when nothing else runs. -/
theorem update_finishes (mask : Mask 32) :
    Finishes (macStep cfg) state [.readCtrl mask] (emzUpdateCtrl mask state) :=
  .step rfl (.step rfl .done)

/-- Alone at work, the accesses of a call come to its effect, which is what makes runs of calls
one behind the other a fold of effects. -/
theorem call_finishes (cfg : MacConfig) (state : MacState) (call : MacCall) :
    Finishes (macStep cfg) state (call.entry cfg) (call.effect state) := by
  cases call with
  | ifaceInit => exact .step rfl (hand_finishes (.untouched _))
  | start => exact update_finishes startMask
  | stop => exact update_finishes stopMask
  | setConfig config =>
    cases config with
    | macAddress address =>
      exact copy_finishes (.untouched _) (pack_finishes (.untouched _) check_finishes)
    | promiscMode promisc => exact .step rfl (.step rfl (.step rfl (update_finishes _)))
    | other => exact .done

end Alone

/-- What the calls have asked for: directions, promiscuous mode, address, and whether an
interface is bound. -/
structure MacSettings where
  enabled : Bool
  promisc : Bool
  mac : Mac
  bound : Bool

/-- What holds behind the initialisation: both directions on, no promiscuous mode, the configured
address and no interface. -/
def MacSettings.initial (cfg : MacConfig) : MacSettings := ⟨true, false, cfg.mac, false⟩

/-- What is asked for behind one more call; the latest call decides its own setting and leaves
the others. -/
def MacSettings.after (settings : MacSettings) : MacCall → MacSettings
  | .ifaceInit => { settings with bound := true }
  | .start => { settings with enabled := true }
  | .stop => { settings with enabled := false }
  | .setConfig (.macAddress address) => { settings with mac := address }
  | .setConfig (.promiscMode promisc) => { settings with promisc := promisc }
  | .setConfig .other => settings

/-- The control word with the two directions and the promiscuous mode on or off. -/
def ctrlWord (field : BitVec 32) (enabled promisc : Bool) : BitVec 32 :=
  (if enabled then emzCtrlTxEn ||| emzCtrlRxEn else 0#32) ||| emzCtrlFullDuplex |||
    (field <<< emzCtrlSpeedShift &&& emzCtrlSpeedMask) |||
    (if promisc then emzCtrlPromisc else 0#32)

/-- The address that stands in the two registers, in the order of the wire. -/
def unpackMac (hi lo : BitVec 32) : Mac := fun index =>
  if index.val < 2 then byteAt hi (1 - index.val) else byteAt lo (5 - index.val)

/-- Registers, driver data and link address agree with the settings. -/
structure Shows (cfg : MacConfig) (settings : MacSettings) (state : MacState) : Prop where
  ctrl : state.ctrl = ctrlWord (emzSpeedField cfg.speed) settings.enabled settings.promisc
  registers : unpackMac state.macHi state.macLo = settings.mac
  getAddress : ∀ out, emzGetConfig state (.macAddress out) = some (.macAddress settings.mac)
  getPromisc : ∀ out, emzGetConfig state (.promiscMode out) = some (.promiscMode settings.promisc)
  linkAddress : state.linkAddress = if settings.bound then some settings.mac else none
  iface : state.iface = settings.bound

/-- The upper register carries the first two bytes of the address, whatever the lower one has. -/
theorem unpack_hi (mac : Mac) (lo : BitVec 32) {index : Fin 6} (upper : index.val < 2) :
    unpackMac (packHi mac) lo index = mac index := by
  rw [unpackMac, if_pos upper, packHi, byteAt_or]
  match index, upper with
  | 0, _ => simp [byteAt_shifted, byteAt_setWidth]
  | 1, _ => simp [byteAt_shifted, byteAt_setWidth]

/-- The lower register carries the last four bytes of the address, whatever the upper one has. -/
theorem unpack_lo (mac : Mac) (hi : BitVec 32) {index : Fin 6} (lower : ¬ index.val < 2) :
    unpackMac hi (packLo mac) index = mac index := by
  rw [unpackMac, if_neg lower, packLo, byteAt_or, byteAt_or, byteAt_or]
  match index, lower with
  | 0, lower | 1, lower => exact absurd (by decide) lower
  | 2, _ | 3, _ | 4, _ | 5, _ => simp [byteAt_shifted, byteAt_setWidth]

/-- The two registers together carry the whole address, byte for byte. -/
theorem unpack_pack (mac : Mac) : unpackMac (packHi mac) (packLo mac) = mac := by
  funext index
  by_cases upper : index.val < 2
  · exact unpack_hi mac _ upper
  · exact unpack_lo mac _ upper

/-- The speed field has one of three values, for any configured speed. -/
theorem speed_field_cases (speed : Nat) :
    emzSpeedField speed = 2#32 ∨ emzSpeedField speed = 0#32 ∨ emzSpeedField speed = 1#32 := by
  rw [emzSpeedField]
  split
  · exact .inl rfl
  · split
    · exact .inr (.inl rfl)
    · exact .inr (.inr rfl)

/-- Starting, stopping and switching the promiscuous mode change their own bits of the word. -/
theorem ctrl_word_updated (speed : Nat) (enabled promisc : Bool) :
    startMask.apply (ctrlWord (emzSpeedField speed) enabled promisc) =
      ctrlWord (emzSpeedField speed) true promisc ∧
    stopMask.apply (ctrlWord (emzSpeedField speed) enabled promisc) =
      ctrlWord (emzSpeedField speed) false promisc ∧
    ∀ wanted, (promiscMask wanted wanted).apply (ctrlWord (emzSpeedField speed) enabled promisc) =
      ctrlWord (emzSpeedField speed) enabled wanted := by
  rcases speed_field_cases speed with field | field | field
  all_goals
    rw [field]
    revert enabled promisc
    decide

/-- A request for an address sets the driver's copy, both registers, and what the stack has if an
interface is bound. -/
theorem set_address_effect (state : MacState) (address : Mac) :
    (MacCall.setConfig (.macAddress address)).effect state = { state with
      mac := address
      macLo := packLo address
      macHi := packHi address
      linkAddress := if state.iface then some address else state.linkAddress } := by
  rw [MacCall.effect]
  by_cases bound : state.iface
  · simp only [emzSetMac, bound, if_true]
  · simp only [emzSetMac, bound, Bool.false_eq_true, if_false]

/-- Each call brings the settings that it asks for into registers and data, and keeps the others;
one case for each call. -/
theorem shows_after {cfg : MacConfig} {settings : MacSettings} {state : MacState}
    (shows : Shows cfg settings state) (call : MacCall) :
    Shows cfg (settings.after call) (call.effect state) := by
  obtain ⟨ctrl, registers, getAddress, getPromisc, linkAddress, iface⟩ := shows
  obtain ⟨started, stopped, switched⟩ :=
    ctrl_word_updated cfg.speed settings.enabled settings.promisc
  rw [← ctrl] at started stopped switched
  cases call with
  | ifaceInit =>
    have same : state.mac = settings.mac := by simpa [emzGetConfig] using getAddress fun _ => 0#8
    exact ⟨ctrl, registers, getAddress, getPromisc, congrArg some same, rfl⟩
  | start => exact ⟨started, registers, getAddress, getPromisc, linkAddress, iface⟩
  | stop => exact ⟨stopped, registers, getAddress, getPromisc, linkAddress, iface⟩
  | setConfig config =>
    cases config with
    | macAddress address =>
      have same : some (EthernetConfig.promiscMode state.promisc) =
          some (.promiscMode settings.promisc) := getPromisc false
      rw [set_address_effect]
      refine ⟨ctrl, unpack_pack address, fun _ => rfl, fun _ => same, ?_, iface⟩
      change (if state.iface then some address else state.linkAddress) =
        if settings.bound then some address else none
      rw [linkAddress, iface]
      by_cases bound : settings.bound
      · rw [if_pos bound, if_pos bound]
      · rw [if_neg bound, if_neg bound, if_neg bound]
    | promiscMode promisc =>
      exact ⟨switched promisc, registers, getAddress, fun _ => rfl, linkAddress, iface⟩
    | other => exact ⟨ctrl, registers, getAddress, getPromisc, linkAddress, iface⟩

/-- A sequence of calls brings the settings of all of them, in their order, by induction on the
calls. -/
theorem shows_fold {cfg : MacConfig} {settings : MacSettings} {state : MacState}
    (shows : Shows cfg settings state) (calls : List MacCall) :
    Shows cfg (calls.foldl MacSettings.after settings)
      (calls.foldl (fun state call => call.effect state) state) := by
  induction calls generalizing settings state with
  | nil => exact shows
  | cons call rest inductionHypothesis => exact inductionHypothesis (shows_after shows call)

/-- The address that a call asks for, if it does. -/
def MacCall.address : MacCall → Option Mac
  | .setConfig (.macAddress address) => some address
  | _ => none

/-- The configured address and those that calls have asked for. -/
def addresses (cfg : MacConfig) (calls : List MacCall) : List Mac :=
  cfg.mac :: calls.filterMap MacCall.address

/-- One of the addresses has this byte at this place. -/
def ByteOf (cfg : MacConfig) (calls : List MacCall) (index : Fin 6) (byte : BitVec 8) : Prop :=
  ∃ address ∈ addresses cfg calls, byte = address index

/-- A call has asked for the promiscuous mode. -/
def Promiscuous (calls : List MacCall) : Prop := .setConfig (.promiscMode true) ∈ calls

/-- Calls have asked for an update of the control register. One for the promiscuous mode reads
the wish twice, and another call may come between. -/
def Asked (calls : List MacCall) (mask : Mask 32) : Prop :=
  mask = startMask ∧ .start ∈ calls ∨ mask = stopMask ∧ .stop ∈ calls ∨
    ∃ first second, mask = promiscMask first second ∧
      (∃ promisc, .setConfig (.promiscMode promisc) ∈ calls) ∧
      (first = true → Promiscuous calls)

/-- What holds in any interleaving: each part of the state comes from calls that were made, even
where their accesses are mixed. -/
structure Mixed (cfg : MacConfig) (state : MacState) (calls : List MacCall) : Prop where
  /-- Some of the updates, with the latest of them, have made the control word. -/
  ctrl : MadeByLatest Mask.apply (initialCtrl cfg.speed) state.writes state.ctrl
  writes : ∀ mask ∈ state.writes, Asked calls mask
  promisc : state.promisc = true → Promiscuous calls
  mac : ∀ index, ByteOf cfg calls index (state.mac index)
  registers : ∀ index, ByteOf cfg calls index (unpackMac state.macHi state.macLo index)
  linkAddress : ∀ address, state.linkAddress = some address →
    ∀ index, ByteOf cfg calls index (address index)

/-- What a call knows where it stands: its own request among the calls, and what it has read of
the shared state. -/
def MacPoint.Stands (cfg : MacConfig) (state : MacState) (calls : List MacCall) :
    MacPoint → Prop
  | .bind | .checkIface => True
  | .readCtrl mask => Asked calls mask
  | .writeCtrl mask ctrl => Asked calls mask ∧ ∃ read,
      MadeBySome Mask.apply (initialCtrl cfg.speed) state.writes read ∧ ctrl = mask.apply read
  | .storePromisc promisc => .setConfig (.promiscMode promisc) ∈ calls
  | .setArgument => ∃ promisc, .setConfig (.promiscMode promisc) ∈ calls
  | .clearArgument first => (∃ promisc, .setConfig (.promiscMode promisc) ∈ calls) ∧
      (first = true → Promiscuous calls)
  | .copyMac address _ => address ∈ addresses cfg calls
  | .packMac taken remaining | .handMac taken remaining =>
      Gathered (ByteOf cfg calls) remaining taken
  | .writeMacHi taken => ∀ index, ByteOf cfg calls index (taken index)

section Mixed

variable {cfg : MacConfig} {state after : MacState} {calls : List MacCall} {point : MacPoint}

/-- A byte of an address that was asked for stays one when another call begins. -/
theorem ByteOf.later {index : Fin 6} {byte : BitVec 8} (from_one : ByteOf cfg calls index byte)
    (call : MacCall) : ByteOf cfg (calls ++ [call]) index byte := by
  obtain ⟨address, among, same⟩ := from_one
  refine ⟨address, ?_, same⟩
  rw [addresses, List.filterMap_append, ← List.cons_append]
  exact List.mem_append_left _ among

/-- Bytes that were gathered from requested addresses stay so when another call begins. -/
theorem Gathered.later {remaining : List (Fin 6)} {taken : Mac}
    (gathered : Gathered (ByteOf cfg calls) remaining taken) (call : MacCall) :
    Gathered (ByteOf cfg (calls ++ [call])) remaining taken :=
  fun index => (gathered index).imp_right (ByteOf.later · call)

/-- A mask that was asked for stays one when another call begins. -/
theorem Asked.later {mask : Mask 32} (asked : Asked calls mask) (call : MacCall) :
    Asked (calls ++ [call]) mask := by
  rcases asked with ⟨same, called⟩ | ⟨same, called⟩ |
    ⟨first, second, same, ⟨promisc, called⟩, wanted⟩
  · exact .inl ⟨same, List.mem_append_left _ called⟩
  · exact .inr (.inl ⟨same, List.mem_append_left _ called⟩)
  · exact .inr (.inr ⟨first, second, same, ⟨promisc, List.mem_append_left _ called⟩,
      fun on => List.mem_append_left _ (wanted on)⟩)

/-- A call that begins leaves the state, and what is known of it refers to one more call. -/
theorem Mixed.later (mixed : Mixed cfg state calls) (call : MacCall) :
    Mixed cfg state (calls ++ [call]) where
  ctrl := mixed.ctrl
  writes := fun mask written => (mixed.writes mask written).later call
  promisc := fun on => List.mem_append_left _ (mixed.promisc on)
  mac := fun index => (mixed.mac index).later call
  registers := fun index => (mixed.registers index).later call
  linkAddress := fun address handed index => (mixed.linkAddress address handed index).later call

/-- A call that begins leaves what the others know where they stand. -/
theorem Stands.later (stands : point.Stands cfg state calls) (call : MacCall) :
    point.Stands cfg state (calls ++ [call]) := by
  cases point with
  | bind | checkIface => trivial
  | readCtrl mask => exact Asked.later stands call
  | writeCtrl mask ctrl => exact ⟨stands.1.later call, stands.2⟩
  | storePromisc promisc => exact List.mem_append_left _ stands
  | setArgument =>
    obtain ⟨promisc, called⟩ := stands
    exact ⟨promisc, List.mem_append_left _ called⟩
  | clearArgument first =>
    obtain ⟨⟨promisc, called⟩, wanted⟩ := stands
    exact ⟨⟨promisc, List.mem_append_left _ called⟩, fun on => List.mem_append_left _ (wanted on)⟩
  | copyMac address remaining =>
    rw [MacPoint.Stands, addresses, List.filterMap_append, ← List.cons_append]
    exact List.mem_append_left _ stands
  | packMac taken remaining | handMac taken remaining => exact Gathered.later stands call
  | writeMacHi taken => exact fun index => (stands index).later call

/-- A call begins at points where it only knows that it was made. -/
theorem entry_stands (call : MacCall) (called : call ∈ calls) :
    ∀ point ∈ call.entry cfg, point.Stands cfg state calls := by
  cases call with
  | ifaceInit => simp [MacCall.entry, MacPoint.Stands]
  | start => simp [MacCall.entry, MacPoint.Stands, Asked, called]
  | stop => simp [MacCall.entry, MacPoint.Stands, Asked, called]
  | setConfig config =>
    cases config with
    | macAddress address =>
      simp only [MacCall.entry, List.mem_singleton, forall_eq, MacPoint.Stands]
      exact List.mem_cons_of_mem _ (List.mem_filterMap.mpr ⟨_, called, rfl⟩)
    | promiscMode promisc => simpa [MacCall.entry, MacPoint.Stands] using called
    | other => simp [MacCall.entry]

/-- Another context's access leaves what a call knows: a read word stays made by some of the
writes, to which at most one is added. -/
theorem Stands.kept (stands : point.Stands cfg state calls)
    (grown : after.writes = state.writes ∨ ∃ mask, after.writes = state.writes ++ [mask]) :
    point.Stands cfg after calls := by
  cases point with
  | writeCtrl mask ctrl =>
    obtain ⟨asked, read, made, same⟩ := stands
    refine ⟨asked, read, ?_, same⟩
    rcases grown with writes | ⟨other, writes⟩
    · exact writes ▸ made
    · rw [writes]
      exact made.later
  | bind | checkIface | readCtrl | storePromisc | setArgument | clearArgument | copyMac | packMac
  | handMac | writeMacHi => exact stands

/-- A control word made of the updates so far and one that was asked for is again made of asked
updates, with that one the latest. -/
theorem Mixed.written (mixed : Mixed cfg state calls) {mask : Mask 32} {ctrl : BitVec 32}
    (stands : (MacPoint.writeCtrl mask ctrl).Stands cfg state calls) :
    Mixed cfg { state with
      ctrl := ctrl
      writes := state.writes ++ [mask] } calls := by
  obtain ⟨asked, read, made, rfl⟩ := stands
  refine { mixed with ctrl := made.written, writes := ?_ }
  intro other written
  rcases List.mem_append.mp written with earlier | last
  · exact mixed.writes other earlier
  · exact List.mem_singleton.mp last ▸ asked

/-- Storing a byte of a requested address in its place keeps the mixture: each byte is of some
requested address. -/
theorem Mixed.stored (mixed : Mixed cfg state calls) {address : Mac}
    (asked : address ∈ addresses cfg calls) (index : Fin 6) :
    Mixed cfg { state with mac := Function.update state.mac index (address index) } calls := by
  refine { mixed with mac := ?_ }
  intro other
  by_cases here : other = index
  · subst here
    exact ⟨address, asked, Function.update_self _ _ _⟩
  · change ByteOf cfg calls other (Function.update state.mac index (address index) other)
    rw [Function.update_of_ne here]
    exact mixed.mac other

/-- The lower register gets the upper four bytes, and the other keeps its two. -/
theorem Mixed.packed_lo (mixed : Mixed cfg state calls) {taken : Mac}
    (whole : ∀ index, ByteOf cfg calls index (taken index)) :
    Mixed cfg { state with macLo := packLo taken } calls := by
  refine { mixed with registers := ?_ }
  intro index
  by_cases upper : index.val < 2
  · have earlier := mixed.registers index
    rwa [unpackMac, if_pos upper] at earlier ⊢
  · rw [unpack_lo taken _ upper]
    exact whole index

/-- The upper register gets the first two bytes, and the other keeps its four. -/
theorem Mixed.packed_hi (mixed : Mixed cfg state calls) {taken : Mac}
    (whole : ∀ index, ByteOf cfg calls index (taken index)) :
    Mixed cfg { state with macHi := packHi taken } calls := by
  refine { mixed with registers := ?_ }
  intro index
  by_cases upper : index.val < 2
  · rw [unpack_hi taken _ upper]
    exact whole index
  · have earlier := mixed.registers index
    rwa [unpackMac, if_neg upper] at earlier ⊢

/-- One access of a call keeps what holds of the driver in any interleaving. -/
theorem mac_step_kept {frames : List MacPoint} (mixed : Mixed cfg state calls)
    (stands : point.Stands cfg state calls)
    (stepped : macStep cfg state point = some (after, frames)) : Mixed cfg after calls := by
  cases point with
  | writeCtrl mask ctrl =>
    obtain ⟨rfl, rfl⟩ := Prod.mk.inj (Option.some.inj stepped)
    exact mixed.written stands
  | storePromisc promisc =>
    obtain ⟨rfl, rfl⟩ := Prod.mk.inj (Option.some.inj stepped)
    refine { mixed with promisc := ?_ }
    rintro rfl
    exact stands
  | copyMac address remaining =>
    cases remaining with
    | nil =>
      obtain ⟨rfl, rfl⟩ := Prod.mk.inj (Option.some.inj stepped)
      exact mixed
    | cons index rest =>
      obtain ⟨rfl, rfl⟩ := Prod.mk.inj (Option.some.inj stepped)
      exact mixed.stored stands index
  | packMac taken remaining =>
    cases remaining with
    | nil =>
      obtain ⟨rfl, rfl⟩ := Prod.mk.inj (Option.some.inj stepped)
      exact mixed.packed_lo (Gathered.whole stands)
    | cons index rest =>
      obtain ⟨rfl, rfl⟩ := Prod.mk.inj (Option.some.inj stepped)
      exact mixed
  | writeMacHi taken =>
    obtain ⟨rfl, rfl⟩ := Prod.mk.inj (Option.some.inj stepped)
    exact mixed.packed_hi stands
  | handMac taken remaining =>
    cases remaining with
    | nil =>
      obtain ⟨rfl, rfl⟩ := Prod.mk.inj (Option.some.inj stepped)
      refine { mixed with linkAddress := ?_ }
      intro address handed
      exact Option.some.inj handed ▸ Gathered.whole stands
    | cons index rest =>
      obtain ⟨rfl, rfl⟩ := Prod.mk.inj (Option.some.inj stepped)
      exact mixed
  | bind =>
    obtain ⟨rfl, rfl⟩ := Prod.mk.inj (Option.some.inj stepped)
    exact { mixed with }
  | readCtrl | setArgument | clearArgument | checkIface =>
    obtain ⟨rfl, rfl⟩ := Prod.mk.inj (Option.some.inj stepped)
    exact mixed

/-- An access writes the control register at most once, so the history of masks grows by at most
one. -/
theorem mac_step_grown {frames : List MacPoint}
    (stepped : macStep cfg state point = some (after, frames)) :
    after.writes = state.writes ∨ ∃ mask, after.writes = state.writes ++ [mask] := by
  cases point with
  | writeCtrl mask ctrl =>
    obtain ⟨rfl, rfl⟩ := Prod.mk.inj (Option.some.inj stepped)
    exact .inr ⟨mask, rfl⟩
  | copyMac address remaining =>
    cases remaining with
    | nil | cons =>
      obtain ⟨rfl, rfl⟩ := Prod.mk.inj (Option.some.inj stepped)
      exact .inl rfl
  | packMac taken remaining | handMac taken remaining =>
    cases remaining with
    | nil | cons =>
      obtain ⟨rfl, rfl⟩ := Prod.mk.inj (Option.some.inj stepped)
      exact .inl rfl
  | bind | readCtrl | storePromisc | setArgument | clearArgument | writeMacHi | checkIface =>
    obtain ⟨rfl, rfl⟩ := Prod.mk.inj (Option.some.inj stepped)
    exact .inl rfl

/-- What a call knows behind an access: the byte or the word it has read is one that the driver
held. -/
theorem mac_step_next {frames : List MacPoint} (mixed : Mixed cfg state calls)
    (stands : point.Stands cfg state calls)
    (stepped : macStep cfg state point = some (after, frames)) :
    ∀ next ∈ frames, next.Stands cfg after calls := by
  cases point with
  | readCtrl mask =>
    obtain ⟨rfl, rfl⟩ := Prod.mk.inj (Option.some.inj stepped)
    rintro next member
    obtain rfl := List.mem_singleton.mp member
    exact ⟨stands, state.ctrl, mixed.ctrl.by_some, rfl⟩
  | storePromisc promisc =>
    obtain ⟨rfl, rfl⟩ := Prod.mk.inj (Option.some.inj stepped)
    simp only [List.mem_singleton, forall_eq]
    exact ⟨promisc, stands⟩
  | setArgument =>
    obtain ⟨rfl, rfl⟩ := Prod.mk.inj (Option.some.inj stepped)
    simp only [List.mem_singleton, forall_eq]
    exact ⟨stands, mixed.promisc⟩
  | clearArgument first =>
    obtain ⟨rfl, rfl⟩ := Prod.mk.inj (Option.some.inj stepped)
    rintro next member
    obtain rfl := List.mem_singleton.mp member
    exact .inr (.inr ⟨first, state.promisc, rfl, stands.1, stands.2⟩)
  | copyMac address remaining =>
    cases remaining with
    | nil =>
      obtain ⟨rfl, rfl⟩ := Prod.mk.inj (Option.some.inj stepped)
      simp [MacPoint.Stands, Gathered.untouched]
    | cons index rest =>
      obtain ⟨rfl, rfl⟩ := Prod.mk.inj (Option.some.inj stepped)
      simpa [MacPoint.Stands] using stands
  | packMac taken remaining =>
    cases remaining with
    | nil =>
      obtain ⟨rfl, rfl⟩ := Prod.mk.inj (Option.some.inj stepped)
      have whole : ∀ index, ByteOf cfg calls index (taken index) := Gathered.whole stands
      simpa [MacPoint.Stands] using whole
    | cons index rest =>
      obtain ⟨rfl, rfl⟩ := Prod.mk.inj (Option.some.inj stepped)
      simpa [MacPoint.Stands] using Gathered.take stands (mixed.mac index)
  | handMac taken remaining =>
    cases remaining with
    | nil =>
      obtain ⟨rfl, rfl⟩ := Prod.mk.inj (Option.some.inj stepped)
      simp
    | cons index rest =>
      obtain ⟨rfl, rfl⟩ := Prod.mk.inj (Option.some.inj stepped)
      simpa [MacPoint.Stands] using Gathered.take stands (mixed.mac index)
  | checkIface =>
    obtain ⟨rfl, rfl⟩ := Prod.mk.inj (Option.some.inj stepped)
    split <;> simp [MacPoint.Stands, Gathered.untouched]
  | bind | writeCtrl | writeMacHi =>
    obtain ⟨rfl, rfl⟩ := Prod.mk.inj (Option.some.inj stepped)
    simp [MacPoint.Stands, Gathered.untouched]

end Mixed

/-- The driver once it is initialised: the initial control word, the configured address in data
and registers, and no interface. -/
def readyState (cfg : MacConfig) : MacState where
  ctrl := initialCtrl cfg.speed
  macLo := packLo cfg.mac
  macHi := packHi cfg.mac
  mac := cfg.mac
  promisc := false
  iface := false
  linkAddress := none
  writes := []

/-- An initialisation that succeeds leaves exactly this state, whatever the registers were at
boot. -/
theorem emz_init_mac_ready {cfg : MacConfig} {version : BitVec 32} {allocated : Bool}
    {ctrl macLo macHi : BitVec 32} {state : MacState}
    (initialised : emzInitMac cfg version allocated 0 (bootState ctrl macLo macHi) = (0, state)) :
    state = readyState cfg := by
  rw [emzInitMac] at initialised
  split at initialised
  · cases initialised
  · split at initialised
    · cases initialised
    · exact (Prod.mk.inj initialised).2.symm

/-- The initialised driver has the mixture of no calls. -/
theorem ready_mixed (cfg : MacConfig) : Mixed cfg (readyState cfg) [] where
  ctrl := .unwritten
  writes := by simp [readyState]
  promisc := by simp [readyState]
  mac := fun index => ⟨cfg.mac, List.mem_cons_self, rfl⟩
  registers := fun index =>
    ⟨cfg.mac, List.mem_cons_self, congrFun (unpack_pack cfg.mac) index⟩
  linkAddress := by simp [readyState]

/-- A word below eight has no bit from the third on. -/
theorem high_bit_clear {word : BitVec 32} (small : word.toNat < 8) {bit : Nat} (high : 3 ≤ bit) :
    word.getLsbD bit = false := by
  apply Nat.testBit_lt_two_pow
  calc word.toNat < 2 ^ 3 := small
    _ ≤ 2 ^ bit := Nat.pow_le_pow_right (by decide) high

section Asked

variable {calls : List MacCall} {mask : Mask 32}

/-- The masks of the calls have no bit from the third on, so they spare speed, duplex and the
reserved bits. -/
theorem Asked.high_outside (asked : Asked calls mask) {bit : Nat} (high : 3 ≤ bit) :
    (mask.set ||| mask.clear).getLsbD bit = false := by
  apply high_bit_clear _ high
  rcases asked with ⟨rfl, -⟩ | ⟨rfl, -⟩ | ⟨first, second, rfl, -⟩
  · decide
  · decide
  · revert first second
    decide

/-- The masks of the calls set or clear the two directions together, so a word with both equal
keeps them equal. -/
theorem Asked.paired (asked : Asked calls mask) {word : BitVec 32}
    (paired : word.getLsbD 0 = word.getLsbD 1) :
    (mask.apply word).getLsbD 0 = (mask.apply word).getLsbD 1 := by
  rw [Mask.apply_bit, Mask.apply_bit, paired]
  rcases asked with ⟨rfl, -⟩ | ⟨rfl, -⟩ | ⟨first, second, rfl, -⟩
  · cases word.getLsbD 1 <;> decide
  · cases word.getLsbD 1 <;> decide
  · cases word.getLsbD 1 <;> cases first <;> cases second <;> decide

/-- A mask brings the promiscuous bit only when a call has asked for it. -/
theorem Asked.promiscuous (asked : Asked calls mask) {word : BitVec 32}
    (earlier : word.getLsbD 2 = true → Promiscuous calls) :
    (mask.apply word).getLsbD 2 = true → Promiscuous calls := by
  rw [Mask.apply_bit]
  rcases asked with ⟨rfl, -⟩ | ⟨rfl, -⟩ | ⟨first, second, rfl, -, wanted⟩
  · simpa [startMask, emzCtrlTxEn, emzCtrlRxEn] using earlier
  · simpa [stopMask, emzCtrlTxEn, emzCtrlRxEn] using earlier
  · intro on
    cases first with
    | true => exact wanted rfl
    | false =>
      apply earlier
      simpa [promiscMask] using (Bool.and_eq_true_iff.mp ((Bool.or_eq_true_iff.mp on).resolve_left
        (by simp [promiscMask]))).1

end Asked

/-- What no interleaving of the calls can break: the mixture, and the bits of the control word
that follow from it. -/
structure MacSafe (cfg : MacConfig) (state : MacState) (calls : List MacCall) : Prop where
  mixed : Mixed cfg state calls
  /-- The speed, the duplex mode and the reserved bits are those of the initialisation. -/
  rates : ∀ bit, 3 ≤ bit → state.ctrl.getLsbD bit = (initialCtrl cfg.speed).getLsbD bit
  /-- The two directions are on or off together. -/
  directions : state.ctrl.getLsbD 0 = state.ctrl.getLsbD 1
  promiscuous : state.ctrl.getLsbD 2 = true → Promiscuous calls

/-- The initial control word as the settings show it, with both directions on and no promiscuous
mode. -/
theorem initial_ctrl_word (speed : Nat) :
    initialCtrl speed = ctrlWord (emzSpeedField speed) true false := by
  rw [initialCtrl, ctrlWord]
  simp

/-- The initial control word has the two directions equal and no promiscuous bit, at every speed. -/
theorem initial_ctrl_bits (speed : Nat) :
    (initialCtrl speed).getLsbD 0 = (initialCtrl speed).getLsbD 1 ∧
      (initialCtrl speed).getLsbD 2 = false := by
  rw [initial_ctrl_word]
  rcases speed_field_cases speed with field | field | field
  all_goals
    rw [field]
    decide

/-- The mixture keeps the protected bits, because they hold in the initial word and every mask
that was asked for keeps them. -/
theorem Mixed.safe {cfg : MacConfig} {state : MacState} {calls : List MacCall}
    (mixed : Mixed cfg state calls) : MacSafe cfg state calls where
  mixed := mixed
  rates := by
    intro bit high
    apply mixed.ctrl.by_some.keeps
      fun word => word.getLsbD bit = (initialCtrl cfg.speed).getLsbD bit
    · rfl
    · intro mask written word same
      rw [Mask.apply_outside ((mixed.writes mask written).high_outside high), same]
  directions := by
    apply mixed.ctrl.by_some.keeps fun word => word.getLsbD 0 = word.getLsbD 1
    · exact (initial_ctrl_bits cfg.speed).1
    · exact fun mask written _ => (mixed.writes mask written).paired
  promiscuous := by
    apply mixed.ctrl.by_some.keeps fun word => word.getLsbD 2 = true → Promiscuous calls
    · rw [(initial_ctrl_bits cfg.speed).2]
      exact Bool.noConfusion
    · exact fun mask written _ => (mixed.writes mask written).promiscuous

/-- The initialised driver shows the initial settings. -/
theorem ready_shows (cfg : MacConfig) : Shows cfg (.initial cfg) (readyState cfg) :=
  ⟨initial_ctrl_word cfg.speed, unpack_pack cfg.mac, fun _ => rfl, fun _ => rfl, rfl, rfl⟩

/-- Calls that do not overlap leave everything in agreement with the settings asked for last, and
no interleaving of calls breaks what is safe.

Proof: for any interleaving, each program point stands on facts that the calls of others only
strengthen. For calls one after the other, a finished call shows its own settings on top of those
before it. -/
theorem mac_settings (cfg : MacConfig) (contexts : Nat) {version : BitVec 32} {allocated : Bool}
    {ctrl macLo macHi : BitVec 32} {state : MacState}
    (initialised : emzInitMac cfg version allocated 0 (bootState ctrl macLo macHi) = (0, state)) :
    (∀ reached : MacSystem, Run (macRun cfg) Unrestricted (idle contexts state) reached →
      MacSafe cfg reached.config.shared reached.calls) ∧
    ∀ reached : MacSystem, Run (macRun cfg) Serial (idle contexts state) reached →
      Quiet reached → Shows cfg (reached.calls.foldl MacSettings.after (.initial cfg))
        reached.config.shared := by
  obtain rfl := emz_init_mac_ready initialised
  constructor
  · intro reached run
    refine Mixed.safe (interleaved (MacCall.entry cfg) (macStep cfg) (Mixed cfg)
      (fun state calls point => point.Stands cfg state calls) (ready_mixed cfg) ?_ ?_ run).1
    · intro shared calls call mixed
      exact ⟨mixed.later call, fun _ known => Stands.later known call,
        entry_stands call (by simp)⟩
    · intro before calls point after frames mixed stands stepped
      exact ⟨mac_step_kept mixed stands stepped,
        fun _ known => Stands.kept known (mac_step_grown stepped),
        mac_step_next mixed stands stepped⟩
  · intro reached run quiet
    have awaits := one_after_the_other (MacCall.entry cfg) (macStep cfg) MacCall.effect
      (call_finishes cfg) run
    rw [awaits.resting quiet]
    exact shows_fold (ready_shows cfg) reached.calls

/-- Bytes in the order of their addresses, the order of a plain loop. -/
def ascending : ByteOrder where
  order := List.finRange 6
  complete := List.mem_finRange

/-- A build at 1 Gb/s, with the address `02:00:00:00:00:01`. -/
def exampleMac : MacConfig where
  speed := 1000
  mac := ![2, 0, 0, 0, 0, 1]
  copyOrder := ascending
  packOrder := ascending
  handOrder := ascending

/-- The theorem at a stop alone, which leaves both directions off and everything else as it was. -/
theorem mac_settings_stop : ∃ reached : MacSystem,
    Run (macRun exampleMac) Serial (idle 1 (readyState exampleMac)) reached ∧
      reached.calls = [.stop] ∧
      Shows exampleMac ⟨false, false, exampleMac.mac, false⟩ reached.config.shared := by
  let ready := readyState exampleMac
  have initialised : emzInitMac exampleMac emzVersionValue true 0 (bootState 0#32 0#32 0#32) =
      (0, ready) := rfl
  have called : macRun exampleMac (idle 1 ready) (.call 0 .stop) =
      some ⟨⟨ready, [[.readCtrl stopMask]]⟩, [.stop]⟩ := rfl
  have read : macRun exampleMac ⟨⟨ready, [[.readCtrl stopMask]]⟩, [.stop]⟩ (.advance 0) =
      some ⟨⟨ready, [[.writeCtrl stopMask (stopMask.apply ready.ctrl)]]⟩, [.stop]⟩ := rfl
  have written : macRun exampleMac
      ⟨⟨ready, [[.writeCtrl stopMask (stopMask.apply ready.ctrl)]]⟩, [.stop]⟩ (.advance 0) =
      some ⟨⟨emzUpdateCtrl stopMask ready, [[]]⟩, [.stop]⟩ := rfl
  have run : Run (macRun exampleMac) Serial (idle 1 ready)
      ⟨⟨emzUpdateCtrl stopMask ready, [[]]⟩, [.stop]⟩ :=
    .step (.step (.step .rest (by simp [Serial, Quiet, idle]) called) (by trivial) read)
      (by trivial) written
  exact ⟨_, run, rfl, (mac_settings exampleMac 1 initialised).2 _ run (by simp [Quiet])⟩

/-- A stop that reads the control register before the promiscuous mode is switched on, and
writes it afterwards, switches the mode off again. -/
theorem overlapping_update_lost : ∃ reached : MacSystem,
    Run (macRun exampleMac) Unrestricted (idle 2 (readyState exampleMac)) reached ∧
      (reached.config.callStacks.all List.isEmpty && reached.config.shared.promisc &&
        !reached.config.shared.ctrl.getLsbD 2) = true := by
  apply run_of_execution _ (fun _ _ => true) _ [.call 0 .stop,
    .call 1 (.setConfig (.promiscMode true)), .advance 0, .advance 1, .advance 1, .advance 1,
    .advance 1, .advance 1, .advance 0]
  · intros
    trivial
  · rfl

end EmaczZephyr.Driver
