import Mathlib.Data.List.Basic
import Mathlib.Logic.Function.Basic

/-!
# Packets made of fragments

A network stack hands out packets and fragments, each with one reference. A fragment
is appended to a packet, which then owns its reference; dropping the last reference
of a packet drops those of its fragments, and the last reference of a fragment runs
the destroy callback of its pool. Which allocations succeed and which packets the
stack accepts is its own affair. So is when it processes them: a stack without receive
queues does so inside the call that hands a packet over, and may be done with it before
that call returns.

The stack is a parameter: a state of unknown type, a view of it, and one law for
each call that says how the call changes the view. A small stack that answers from
a script shows that the laws can be met.
-/

namespace EmaczZephyr.PacketBuffers

universe u

/-- A fragment of a packet, named by the pool it was allocated from and its place there. -/
structure Fragment (Pool : Type u) where
  pool : Pool
  index : Nat
deriving DecidableEq

/-- The fragments of every packet in use, and the allocated fragments in no packet. -/
structure View (Pool : Type u) where
  packets : Nat → Option (List (Fragment Pool))
  loose : List (Fragment Pool)

variable {Pool : Type u}

/-- The fragment is allocated: it is loose, or one of the packets in use holds it. -/
def View.Live (view : View Pool) (fragment : Fragment Pool) : Prop :=
  fragment ∈ view.loose ∨ ∃ packet fragments,
    view.packets packet = some fragments ∧ fragment ∈ fragments

/-- The packet has these fragments from now on, or is not in use any more. Loose fragments and
other packets stay. -/
def View.set (view : View Pool) (packet : Nat) (fragments : Option (List (Fragment Pool))) :
    View Pool :=
  { view with packets := Function.update view.packets packet fragments }

/-- What becomes of a packet handed to the stack, as it stands when the call returns. -/
inductive Received (Pool : Type u) where
  | refused
  /-- The stack has it. -/
  | kept
  /-- The stack has processed it and dropped its reference, and these are the fragments whose
  destroy callbacks that has run. -/
  | consumed (fragments : List (Fragment Pool))
deriving DecidableEq

/-- A network stack as its users see it. Its own data comes from a pool of its own. -/
structure NetStack (Pool : Type u) [DecidableEq Pool] (dataPool : Pool) where
  Net : Type
  view : Net → View Pool
  /-- `net_pkt_rx_alloc_on_iface` -/
  pktAlloc : Net → Net × Option Nat
  /-- `net_buf_alloc_with_data` -/
  bufAlloc : Net → Pool → Net × Option (Fragment Pool)
  /-- `net_buf_id` -/
  bufId : Fragment Pool → Int
  /-- `net_pkt_append_buffer` -/
  pktAppend : Net → Nat → Fragment Pool → Net
  /-- `net_pkt_write`, and whether it wrote everything -/
  pktWrite : Net → Nat → Net × Bool
  /-- `net_recv_data`, and what became of the packet in the call -/
  recvData : Net → Nat → Net × Received Pool
  /-- `net_pkt_unref`, and the fragments whose destroy callbacks it runs -/
  pktUnref : Net → Nat → Net × List (Fragment Pool)
  /-- `net_buf_unref`, and the fragments whose destroy callbacks it runs -/
  bufUnref : Net → Fragment Pool → Net × List (Fragment Pool)
  pkt_alloc_fails : ∀ net, (pktAlloc net).2 = none → view (pktAlloc net).1 = view net
  pkt_alloc : ∀ net packet, (pktAlloc net).2 = some packet →
    (view net).packets packet = none ∧ view (pktAlloc net).1 = (view net).set packet (some [])
  buf_alloc_fails : ∀ net pool, (bufAlloc net pool).2 = none →
    view (bufAlloc net pool).1 = view net
  buf_alloc : ∀ net pool fragment, (bufAlloc net pool).2 = some fragment →
    fragment.pool = pool ∧ ¬ (view net).Live fragment ∧ view (bufAlloc net pool).1 =
      { view net with loose := fragment :: (view net).loose }
  pkt_append : ∀ net packet fragment fragments, (view net).packets packet = some fragments →
    fragment ∈ (view net).loose → view (pktAppend net packet fragment) =
      { (view net).set packet (some (fragments ++ [fragment])) with
        loose := (view net).loose.erase fragment }
  pkt_write : ∀ net packet fragments, (view net).packets packet = some fragments →
    ∃ written, (∀ fragment ∈ written, fragment.pool = dataPool) ∧
      view (pktWrite net packet).1 = (view net).set packet (some (fragments ++ written))
  recv_refused : ∀ net packet, (recvData net packet).2 = .refused →
    view (recvData net packet).1 = view net
  recv_kept : ∀ net packet, (recvData net packet).2 = .kept →
    view (recvData net packet).1 = view net
  recv_consumed : ∀ net packet destroyed fragments,
    (recvData net packet).2 = .consumed destroyed →
    (view net).packets packet = some fragments →
      destroyed = fragments ∧ view (recvData net packet).1 = (view net).set packet none
  pkt_unref : ∀ net packet fragments, (view net).packets packet = some fragments →
    (pktUnref net packet).2 = fragments ∧
      view (pktUnref net packet).1 = (view net).set packet none
  buf_unref : ∀ net fragment, fragment ∈ (view net).loose →
    (bufUnref net fragment).2 = [fragment] ∧ view (bufUnref net fragment).1 =
      { view net with loose := (view net).loose.erase fragment }

section Live

variable {view : View Pool} {packet other : Nat} {fragments : Option (List (Fragment Pool))}

/-- A packet set to fragments leaves every other packet as it was. -/
theorem set_other (different : other ≠ packet) :
    (view.set packet fragments).packets other = view.packets other := by
  simp [View.set, Function.update_of_ne different]

/-- A packet set to fragments has them, whatever it held before. -/
@[simp] theorem set_same : (view.set packet fragments).packets packet = fragments := by
  simp [View.set]

/-- A live fragment stays live when a packet changes, unless it leaves that packet. -/
theorem live_set {fragment : Fragment Pool} (live : view.Live fragment)
    (stays : ∀ had, view.packets packet = some had → fragment ∈ had →
      ∃ has, fragments = some has ∧ fragment ∈ has) :
    (view.set packet fragments).Live fragment := by
  rcases live with loose | ⟨holder, had, holds, member⟩
  · exact .inl loose
  · by_cases same : holder = packet
    · subst same
      obtain ⟨has, now, still⟩ := stays had holds member
      exact .inr ⟨holder, has, set_same.trans now, still⟩
    · exact .inr ⟨holder, had, (set_other same).trans holds, member⟩

/-- Appending a loose fragment to a packet keeps every fragment alive. The appended one is in the
packet from now on, and every other stays where it was. -/
theorem live_append [DecidableEq Pool] {had : List (Fragment Pool)}
    {fragment appended : Fragment Pool} (held : view.packets packet = some had)
    (live : view.Live fragment) :
    View.Live { view.set packet (some (had ++ [appended])) with
      loose := view.loose.erase appended } fragment := by
  by_cases same : fragment = appended
  · exact .inr ⟨packet, had ++ [appended], set_same, by simp [same]⟩
  · rcases live with loose | elsewhere
    · exact .inl ((List.mem_erase_of_ne same).mpr loose)
    · have stays : (view.set packet (some (had ++ [appended]))).Live fragment := by
        refine live_set (.inr elsewhere) ?_
        intro fragments holds member
        obtain rfl := Option.some.inj (held.symm.trans holds)
        exact ⟨_, rfl, List.mem_append_left _ member⟩
      rcases stays with loose | inside
      · exact .inl ((List.mem_erase_of_ne same).mpr loose)
      · exact .inr inside

end Live

/-- A small network stack for executions on concrete values: one packet and the fragments that
are in no packet. -/
structure OnePacket (Pool : Type u) where
  packet : Option (List (Fragment Pool))
  loose : List (Fragment Pool)

/-- The view of the small stack, in which packet zero is the only one that can be in use. -/
def OnePacket.view (net : OnePacket Pool) : View Pool :=
  ⟨fun packet => if packet = 0 then net.packet else none, net.loose⟩

/-- Changing the one packet of the small stack changes packet zero of its view, and nothing else. -/
theorem OnePacket.view_set (net : OnePacket Pool) (fragments : Option (List (Fragment Pool))) :
    (OnePacket.mk fragments net.loose).view = net.view.set 0 fragments := by
  simp only [OnePacket.view, View.set, View.mk.injEq, and_true]
  funext packet
  by_cases first : packet = 0 <;> simp [first]

/-- A packet that the view of the small stack shows in use is packet zero, with the fragments of
its one packet. -/
theorem OnePacket.of_view {net : OnePacket Pool} {packet : Nat}
    {fragments : List (Fragment Pool)} (held : net.view.packets packet = some fragments) :
    packet = 0 ∧ net.packet = some fragments := by
  simp only [OnePacket.view] at held
  split at held
  · rename_i first
    exact ⟨first, held⟩
  · cases held

/-- A stack that allocates whenever nothing else is in use. It accepts every packet or none,
and is done with an accepted packet inside the call or keeps it. -/
def onePacketStack (Pool : Type) [DecidableEq Pool] (dataPool : Pool) (accepts inside : Bool) :
    NetStack Pool dataPool where
  Net := OnePacket Pool
  view := OnePacket.view
  pktAlloc net := if net.packet = none then (⟨some [], net.loose⟩, some 0) else (net, none)
  bufAlloc net pool :=
    if net.loose = [] ∧ net.packet.getD [] = [] then (⟨net.packet, [⟨pool, 0⟩]⟩, some ⟨pool, 0⟩)
    else (net, none)
  bufId fragment := fragment.index
  pktAppend net _ fragment := ⟨net.packet.map (· ++ [fragment]), net.loose.erase fragment⟩
  pktWrite net _ := (⟨net.packet.map (· ++ [⟨dataPool, 1⟩]), net.loose⟩, true)
  recvData net _ :=
    if accepts = false then (net, .refused)
    else if inside then (⟨none, net.loose⟩, .consumed (net.packet.getD []))
    else (net, .kept)
  pktUnref net _ := (⟨none, net.loose⟩, net.packet.getD [])
  bufUnref net fragment := (⟨net.packet, net.loose.erase fragment⟩, [fragment])
  pkt_alloc_fails net failed := by
    split at failed
    · cases failed
    · rename_i used
      rw [if_neg used]
  pkt_alloc net packet got := by
    split at got
    · rename_i unused
      rw [if_pos unused]
      obtain rfl := Option.some.inj got
      exact ⟨by simp [OnePacket.view, unused], net.view_set _⟩
    · cases got
  buf_alloc_fails net pool failed := by
    split at failed
    · cases failed
    · rename_i used
      rw [if_neg used]
  buf_alloc net pool fragment got := by
    split at got
    · rename_i unused
      rw [if_pos unused]
      obtain rfl := Option.some.inj got
      refine ⟨rfl, ?_, by simp [OnePacket.view, unused.1]⟩
      rintro (loose | ⟨packet, fragments, held, member⟩)
      · simp [OnePacket.view, unused.1] at loose
      · rw [(OnePacket.of_view held).2, Option.getD_some] at unused
        simp [unused.2] at member
    · cases got
  pkt_append net packet fragment fragments held _ := by
    obtain ⟨rfl, whole⟩ := OnePacket.of_view held
    rw [whole]
    exact congrArg (fun view : View Pool => { view with loose := net.loose.erase fragment })
      (net.view_set (some (fragments ++ [fragment])))
  pkt_write net packet fragments held := by
    obtain ⟨rfl, whole⟩ := OnePacket.of_view held
    exact ⟨[⟨dataPool, 1⟩], by simp, by rw [whole]; exact net.view_set _⟩
  recv_refused net packet refused := by
    split at refused
    · rename_i rejects
      rw [if_pos rejects]
    · split at refused <;> cases refused
  recv_kept net packet kept := by
    split at kept
    · cases kept
    · rename_i takes
      split at kept
      · cases kept
      · rename_i queues
        rw [if_neg takes, if_neg queues]
  recv_consumed net packet destroyed fragments consumed held := by
    obtain ⟨rfl, whole⟩ := OnePacket.of_view held
    split at consumed
    · cases consumed
    · rename_i takes
      split at consumed
      · rename_i processes
        obtain rfl := Received.consumed.inj consumed
        rw [if_neg takes, if_pos processes]
        exact ⟨by rw [whole, Option.getD_some], net.view_set none⟩
      · cases consumed
  pkt_unref net packet fragments held := by
    obtain ⟨rfl, whole⟩ := OnePacket.of_view held
    exact ⟨by rw [whole, Option.getD_some], net.view_set none⟩
  buf_unref _ _ _ := ⟨rfl, rfl⟩

end EmaczZephyr.PacketBuffers
