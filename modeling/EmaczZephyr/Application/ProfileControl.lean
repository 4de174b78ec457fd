import EmaczZephyr.Application.UdpSink
import EmaczZephyr.Driver.FrameInspection
import EmaczZephyr.Statistics.Profile

/-!
# The profile's control port

Two modes of the profile drop received frames, one in the DMA callback, the other in the
worker. They are left over UDP only, through the frames that they would drop; so each drop
looks at the frame first, and keeps ARP and the datagrams to port 5002, which
`profile_control_thread` reads.
-/

namespace EmaczZephyr.Application

open BigEndian Driver GuardedReads Runs Statistics
open Driver.Whole (ProfileMode RxDisposal)

/-- An ARP packet, by the grammar: a whole Ethernet header with the type of ARP in it. -/
def ArpFrame (frame : List Byte) : Prop :=
  14 ≤ frame.length ∧ get16 frame 12 = emzEthTypeArp

/-- A UDP datagram to the control port, as far as the driver looks at it. -/
structure ControlDatagram (frame : List Byte) : Prop where
  etherType : get16 frame 12 = emzEthTypeIpv4
  header : 5 ≤ (get8 frame 14 &&& 0x0f#8).toNat
  covers : udpOffset frame + 8 ≤ frame.length
  protocol : get8 frame 23 = emzIpProtoUdp
  port : udpPort frame = emzProfileControlPort

/-- What the drops are to spare: ARP, and the UDP datagrams to or from the ports that the board
is controlled through. -/
def ControlFrame (frame : List Byte) : Prop := ArpFrame frame ∨ ControlDatagram frame

section Kept

variable {frame : List Byte}

/-- The length of an IP header does not overflow a byte, because four times the lower four bits
is at most sixty. -/
theorem header_length (byte : Byte) :
    ((byte &&& 0x0f#8) * 4#8).toNat = (byte &&& 0x0f#8).toNat * 4 := by
  have small : (byte &&& 0x0f#8).toNat ≤ 15 := by
    rw [BitVec.toNat_and]
    exact Nat.and_le_right
  rw [BitVec.toNat_mul]
  change (byte &&& 0x0f#8).toNat * 4 % 256 = _
  omega

/-- A control datagram has all of its headers, which take 42 bytes at least. -/
theorem ControlDatagram.long (datagram : ControlDatagram frame) : 42 ≤ frame.length := by
  have header := datagram.header
  have covers := datagram.covers
  unfold udpOffset ipHeaderLen at covers
  omega

/-- What the two length tests of the source refuse is the negation of the grammar's header
condition, with the byte arithmetic done in natural numbers. -/
theorem header_refused_iff : ((get8 frame 14 &&& 0x0f#8) * 4#8 < 20#8 ∨
    frame.length < 14 + ((get8 frame 14 &&& 0x0f#8) * 4#8).toNat + 8) ↔
      ¬ (5 ≤ (get8 frame 14 &&& 0x0f#8).toNat ∧ udpOffset frame + 8 ≤ frame.length) := by
  rw [BitVec.lt_def, header_length, udpOffset, ipHeaderLen]
  change _ < 20 ∨ _ ↔ _
  omega

/-- The test has a result, and it is whether the frame is a control frame. -/
theorem keeps_control (frame : List Byte) :
    ∃ keep, emaczeroProfileShouldKeepControl (some frame) frame.length = some keep ∧
      (keep = true ↔ ControlFrame frame) := by
  rw [emaczeroProfileShouldKeepControl]
  by_cases tiny : frame.length < 14
  · refine ⟨false, if_pos tiny, iff_of_false Bool.false_ne_true ?_⟩
    rintro (arp | datagram)
    · exact Nat.not_le.mpr tiny arp.1
    · have long := datagram.long
      omega
  simp only [if_neg tiny, read16_inside (show 12 + 1 < frame.length by omega),
    Option.bind_eq_bind, Option.bind_some]
  by_cases arp : get16 frame 12 = emzEthTypeArp
  · exact ⟨true, if_pos arp, iff_of_true rfl (.inl ⟨Nat.not_lt.mp tiny, arp⟩)⟩
  rw [if_neg arp]
  -- From here on a control frame is a datagram.
  have datagram_iff : ControlFrame frame ↔ ControlDatagram frame :=
    or_iff_right fun packet => arp packet.2
  rw [datagram_iff]
  by_cases short : get16 frame 12 ≠ emzEthTypeIpv4 ∨ frame.length < 34
  · refine ⟨false, if_pos short, iff_of_false Bool.false_ne_true ?_⟩
    intro datagram
    rcases short with type | short
    · exact type datagram.etherType
    · have long := datagram.long
      omega
  obtain ⟨type, long⟩ := not_or.mp short
  simp only [if_neg short, read8_inside (show 14 < frame.length by omega),
    read8_inside (show 23 < frame.length by omega), Option.bind_some]
  by_cases refused : (get8 frame 14 &&& 0x0f#8) * 4#8 < 20#8 ∨
      frame.length < 14 + ((get8 frame 14 &&& 0x0f#8) * 4#8).toNat + 8
  · refine ⟨false, if_pos refused, iff_of_false Bool.false_ne_true ?_⟩
    intro datagram
    exact header_refused_iff.mp refused ⟨datagram.header, datagram.covers⟩
  obtain ⟨header, covers⟩ := not_not.mp (mt header_refused_iff.mpr refused)
  rw [if_neg refused, header_length,
    show 14 + (get8 frame 14 &&& 0x0f#8).toNat * 4 = udpOffset frame from rfl,
    read16_inside (by omega)]
  by_cases protocol : get8 frame 23 ≠ emzIpProtoUdp
  · refine ⟨false, if_pos protocol, iff_of_false Bool.false_ne_true ?_⟩
    intro datagram
    exact protocol datagram.protocol
  · refine ⟨_, if_neg protocol, ?_⟩
    rw [decide_eq_true_iff]
    constructor
    · intro port
      exact ⟨not_not.mp type, header, covers, not_not.mp protocol, port⟩
    · intro datagram
      exact datagram.port

end Kept

/-- Whether a frame is a control frame is decided by the function of the source itself, so
filters over histories can be evaluated. -/
instance decidableControlFrame : DecidablePred ControlFrame := fun frame =>
  decidable_of_iff (emaczeroProfileShouldKeepControl (some frame) frame.length = some true) <| by
    obtain ⟨keep, tested, control⟩ := keeps_control frame
    rw [tested, ← control]
    exact Option.some_inj

/-- The function of the source as a decision: on every frame it returns, without a read outside,
whether the frame is a control frame. -/
theorem keeps_control_eq (frame : List Byte) :
    emaczeroProfileShouldKeepControl (some frame) frame.length =
      some (decide (ControlFrame frame)) := by
  obtain ⟨keep, tested, control⟩ := keeps_control frame
  rw [tested]
  congr 1
  rw [Bool.eq_iff_iff, control, decide_eq_true_iff]

/-- What `profile_control_thread` answers to a request that it understands, before the text is
formatted. -/
inductive ControlReply where
  /-- The digit of the mode. -/
  | mode (cmd : Byte)
  /-- `format_profile_snapshot` of the snapshot. -/
  | snapshot (shown : ProfileSnapshot)
  /-- `format_acceptance_snapshot` -/
  | acceptance
  /-- `run_tx_bench` -/
  | txBench (args : List Byte)

/-- The answer with the mode: the character of its digit, and a profile left as it is. -/
def replyMode (profile : ProfileState) : ProfileState × ControlReply :=
  (profile, .mode (48#8 + (modeNumber profile.mode).setWidth 8))

/-- The body of the loop of `profile_control_thread` for what `zsock_recvfrom` stored. -/
def profileControl (profile : ProfileState) (cyclesPerSec : BitVec 32) :
    List Byte → Option (ProfileState × ControlReply)
  | [] => none
  | cmd :: args =>
      if 48#8 ≤ cmd ∧ cmd ≤ 50#8 then
        some (replyMode (profile.call (.setMode ((cmd - 48#8).setWidth 32))))
      else if cmd = 114#8 ∨ cmd = 82#8 then some (replyMode (profile.call .reset))
      else if cmd = 115#8 ∨ cmd = 83#8 then
        some (profile, .snapshot (emaczeroProfileSnapshot profile cyclesPerSec))
      else if cmd = 97#8 ∨ cmd = 65#8 then some (profile, .acceptance)
      else if cmd = 116#8 ∨ cmd = 84#8 then some (profile, .txBench args)
      else some (replyMode profile)

/-- The exits of `emz_rx_thread` that lie before its drop test, where the profile has no say in
what becomes of the frame. -/
def beforeDrop : RxDisposal → Bool
  | .interfaceDown | .invalid | .intercepted | .allocPktFail | .allocFragFail
  | .copyWriteFail => true
  | .profileDrop | .netRecvFail | .copySubmit | .zeroCopySubmit => false

/-- The profile, the frames of the ready FIFO, those that the network stack accepted, all that
came, those dropped with the mode that dropped them, and those whose iteration ended otherwise,
with its exit. -/
structure ControlSystem where
  profile : ProfileState
  ready : List (List Byte)
  passed : List (List Byte)
  arrived : List (List Byte)
  dropped : List (List Byte × ProfileMode)
  ended : List (List Byte × RxDisposal)

/-- What can happen around the drops: a frame comes in, the worker finishes an iteration, or the
control thread serves a request. -/
inductive ControlLabel where
  /-- The DMA callback for a frame. -/
  | callback (frame : List Byte)
  /-- The worker takes the first frame. It leaves the iteration before the drop test, or comes
  to it; behind it `net_recv_data` accepts the packet or refuses it. -/
  | worker (exit : Option { exit : RxDisposal // beforeDrop exit = true }) (accepts : Bool)
  /-- The control thread takes a request. -/
  | request (bytes : List Byte) (cyclesPerSec : BitVec 32)

/-- Whether the drop of a mode takes the frame: in that mode every frame but control frames, and
in the others none. -/
def profileDrops (dropping mode : ProfileMode) (frame : List Byte) : Option Bool :=
  if mode = dropping then
    (emaczeroProfileShouldKeepControl (some frame) frame.length).map (!·)
  else some false

/-- A frame is dropped for profiling; the history has the mode of that moment beside it. -/
def ControlSystem.drop (system : ControlSystem) (frame : List Byte) : ControlSystem :=
  { system with dropped := system.dropped ++ [(frame, system.profile.mode)] }

/-- The worker's iteration ends without handing the frame to the stack, by one of its other
exits. -/
def ControlSystem.finish (system : ControlSystem) (frame : List Byte) (exit : RxDisposal) :
    ControlSystem :=
  { system with ended := system.ended ++ [(frame, exit)] }

/-- The worker hands the frame to the stack, and the stack accepts it. -/
def ControlSystem.pass (system : ControlSystem) (frame : List Byte) : ControlSystem :=
  { system with passed := system.passed ++ [frame] }

/-- One step: the DMA callback with the drop behind DMA, one iteration of the worker with every
exit it has, or a request of the control thread. -/
def controlStep (system : ControlSystem) : ControlLabel → Option ControlSystem
  | .callback frame => do
      let drops ← profileDrops .dropAfterDma system.profile.mode frame
      let arrived := { system with arrived := system.arrived ++ [frame] }
      some (if drops then arrived.drop frame
        else { arrived with ready := system.ready ++ [frame] })
  | .worker exit accepts =>
      match system.ready with
      | [] => none
      | frame :: ready =>
          let taken := { system with ready := ready }
          match exit with
          | some exit => some (taken.finish frame exit.1)
          | none => do
              let drops ← profileDrops .dropAfterPkt system.profile.mode frame
              some (if drops then taken.drop frame
                else if accepts then taken.pass frame
                else taken.finish frame .netRecvFail)
  | .request bytes cyclesPerSec =>
      (profileControl system.profile cyclesPerSec bytes).map fun answered =>
        { system with profile := answered.1 }

/-- The system before the first frame, with the profile as it is then and nothing on the way. -/
def ControlSystem.start (profile : ProfileState) : ControlSystem :=
  ⟨profile, [], [], [], [], []⟩

/-- What becomes of the frames in every state of a run: order, drops, other exits, and no frame
twice or unaccounted for. -/
structure ControlKept (system : ControlSystem) : Prop where
  /-- The control frames that come through do so in order. -/
  order : ((system.passed ++ system.ready).filter (ControlFrame ·)).Sublist
    (system.arrived.filter (ControlFrame ·))
  /-- Only other frames are dropped, and only in a mode that drops. -/
  dropped : ∀ drop ∈ system.dropped, ¬ ControlFrame drop.1 ∧ drop.2 ≠ .normal
  /-- Whatever ends otherwise has another of the worker's exits. -/
  ended : ∀ finish ∈ system.ended, beforeDrop finish.2 = true ∨ finish.2 = .netRecvFail
  /-- No frame goes anywhere else. -/
  conserved : (system.passed ++ system.ready ++ system.ended.map Prod.fst ++
    system.dropped.map Prod.fst).Perm system.arrived

section Steps

variable {system after : ControlSystem}

/-- A drop has a result: it takes a frame in its own mode, when it is no control frame. -/
theorem profile_drops_eq (dropping mode : ProfileMode) (frame : List Byte) :
    profileDrops dropping mode frame =
      some (decide (mode = dropping ∧ ¬ ControlFrame frame)) := by
  unfold profileDrops
  rw [keeps_control_eq]
  split
  · rename_i same
    simp [same]
  · rename_i different
    simp [different]

/-- The frame that the callback drops, or puts at the end. A dropped frame is no control frame,
so the filtered lists do not see it. -/
theorem callback_kept (kept : ControlKept system) (frame : List Byte)
    (taken : controlStep system (.callback frame) = some after) : ControlKept after := by
  rw [controlStep, profile_drops_eq, Option.bind_eq_bind, Option.bind_some] at taken
  obtain rfl := Option.some.inj taken
  split
  · rename_i drops
    obtain ⟨mode, other⟩ := of_decide_eq_true drops
    constructor
    · change ((system.passed ++ system.ready).filter _).Sublist
        ((system.arrived ++ [frame]).filter _)
      exact kept.order.trans ((List.sublist_append_left _ _).filter _)
    · intro drop member
      rcases List.mem_append.mp member with earlier | last
      · exact kept.dropped drop earlier
      · rw [List.mem_singleton.mp last]
        refine ⟨other, ?_⟩
        change system.profile.mode ≠ .normal
        rw [mode]
        decide
    · exact kept.ended
    · change (_ ++ (system.dropped ++ [(frame, system.profile.mode)]).map Prod.fst).Perm _
      rw [List.map_append, ← List.append_assoc]
      exact kept.conserved.append_right [frame]
  · constructor
    · change ((system.passed ++ (system.ready ++ [frame])).filter _).Sublist
        ((system.arrived ++ [frame]).filter _)
      rw [← List.append_assoc, List.filter_append (system.passed ++ system.ready),
        List.filter_append system.arrived]
      exact kept.order.append (List.Sublist.refl _)
    · exact kept.dropped
    · exact kept.ended
    · change (system.passed ++ (system.ready ++ [frame]) ++ _ ++ _).Perm _
      have moved : (system.passed ++ (system.ready ++ [frame]) ++ system.ended.map Prod.fst ++
          system.dropped.map Prod.fst).Perm
          (system.passed ++ system.ready ++ system.ended.map Prod.fst ++
            system.dropped.map Prod.fst ++ [frame]) := by
        simp only [List.append_assoc]
        apply List.Perm.append_left
        apply List.Perm.append_left
        rw [← List.append_assoc (system.ended.map Prod.fst)]
        exact List.perm_append_comm
      exact moved.trans (kept.conserved.append_right [frame])

section Worker

variable {frame : List Byte} {ready : List (List Byte)}

/-- Taking the first frame off the ready FIFO keeps the order of the others. -/
theorem ready_order (kept : ControlKept system) (waiting : system.ready = frame :: ready) :
    ((system.passed ++ ready).filter (ControlFrame ·)).Sublist
      (system.arrived.filter (ControlFrame ·)) := by
  refine List.Sublist.trans ?_ kept.order
  rw [waiting]
  exact ((List.Sublist.refl _).append (List.sublist_cons_self frame ready)).filter _

/-- A dropped frame moves from the front of the FIFO to the dropped ones. -/
theorem drop_kept (kept : ControlKept system) (waiting : system.ready = frame :: ready)
    (other : ¬ ControlFrame frame) (mode : system.profile.mode ≠ .normal) :
    ControlKept ({ system with ready := ready }.drop frame) := by
  have order := ready_order kept waiting
  constructor
  · exact order
  · intro drop member
    rcases List.mem_append.mp member with earlier | last
    · exact kept.dropped drop earlier
    · rw [List.mem_singleton.mp last]
      exact ⟨other, mode⟩
  · exact kept.ended
  · have conserved := kept.conserved
    rw [waiting] at conserved
    change (system.passed ++ ready ++ _ ++ (system.dropped ++ [(frame, _)]).map Prod.fst).Perm _
    refine List.Perm.trans ?_ conserved
    rw [List.map_append, List.map_singleton]
    simp only [List.append_assoc]
    apply List.Perm.append_left
    rw [← List.append_assoc, ← List.append_assoc, List.cons_append, ← List.append_assoc]
    exact List.perm_append_singleton frame _

/-- A frame whose iteration ends otherwise keeps the account, since the other exits are named in
the history beside the frame. -/
theorem finish_kept (kept : ControlKept system) (waiting : system.ready = frame :: ready)
    {exit : RxDisposal} (another : beforeDrop exit = true ∨ exit = .netRecvFail) :
    ControlKept ({ system with ready := ready }.finish frame exit) := by
  have order := ready_order kept waiting
  constructor
  · exact order
  · exact kept.dropped
  · intro finish member
    rcases List.mem_append.mp member with earlier | last
    · exact kept.ended finish earlier
    · rw [List.mem_singleton.mp last]
      exact another
  · have conserved := kept.conserved
    rw [waiting] at conserved
    change (system.passed ++ ready ++ (system.ended ++ [(frame, exit)]).map Prod.fst ++ _).Perm _
    refine List.Perm.trans ?_ conserved
    rw [List.map_append, List.map_singleton]
    apply List.Perm.append_right
    simp only [List.append_assoc]
    apply List.Perm.append_left
    rw [← List.append_assoc, List.cons_append]
    exact List.perm_append_singleton frame _

/-- A frame that the network stack accepts is behind all that came through before it. -/
theorem pass_kept (kept : ControlKept system) (waiting : system.ready = frame :: ready) :
    ControlKept ({ system with ready := ready }.pass frame) := by
  have order := kept.order
  have conserved := kept.conserved
  rw [waiting] at order conserved
  have same : system.passed ++ [frame] ++ ready = system.passed ++ frame :: ready := by
    rw [List.append_assoc]
    rfl
  constructor
  · change ((system.passed ++ [frame] ++ ready).filter _).Sublist _
    rw [same]
    exact order
  · exact kept.dropped
  · exact kept.ended
  · change (system.passed ++ [frame] ++ ready ++ _ ++ _).Perm _
    rw [same]
    exact conserved

end Worker

/-- The worker ends the iteration of the first frame early, drops the frame, passes it on, or
has it refused. -/
theorem worker_kept (kept : ControlKept system)
    {exit : Option { exit : RxDisposal // beforeDrop exit = true }} {accepts : Bool}
    (taken : controlStep system (.worker exit accepts) = some after) : ControlKept after := by
  rw [controlStep] at taken
  split at taken
  · cases taken
  rename_i frame ready waiting
  cases exit with
  | some exit =>
    obtain rfl := Option.some.inj taken
    exact finish_kept kept waiting (.inl exit.2)
  | none =>
    simp only [profile_drops_eq, Option.bind_eq_bind, Option.bind_some] at taken
    obtain rfl := Option.some.inj taken
    split
    · rename_i drops
      obtain ⟨mode, other⟩ := of_decide_eq_true drops
      exact drop_kept kept waiting other (by rw [mode]; decide)
    · cases accepts with
      | true => exact pass_kept kept waiting
      | false => exact finish_kept kept waiting (.inr rfl)

/-- Every step keeps the account of the frames: the callback, the worker and the control thread,
by the lemma for each. -/
theorem control_step {label : ControlLabel} (kept : ControlKept system)
    (taken : controlStep system label = some after) : ControlKept after := by
  cases label with
  | callback frame => exact callback_kept kept frame taken
  | worker exit accepts => exact worker_kept kept taken
  | request bytes cyclesPerSec =>
    obtain ⟨answered, -, rfl⟩ := Option.map_eq_some_iff.mp taken
    exact ⟨kept.order, kept.dropped, kept.ended, kept.conserved⟩

/-- When no control frame ends otherwise, all of them come through: they are as many as came,
in the same order. -/
theorem control_frames_all (kept : ControlKept system)
    (none_ended : ∀ finish ∈ system.ended, ¬ ControlFrame finish.1) :
    (system.passed ++ system.ready).filter (ControlFrame ·) =
      system.arrived.filter (ControlFrame ·) := by
  apply kept.order.eq_of_length
  have counted := (kept.conserved.filter (ControlFrame ·)).length_eq
  have ended : (system.ended.map Prod.fst).filter (ControlFrame ·) = [] := by
    simpa [List.filter_eq_nil_iff] using fun frame exit member => none_ended (frame, exit) member
  have dropped : (system.dropped.map Prod.fst).filter (ControlFrame ·) = [] := by
    simpa [List.filter_eq_nil_iff] using
      fun frame mode member => (kept.dropped (frame, mode) member).1
  rw [List.filter_append, List.filter_append, ended, dropped, List.append_nil,
    List.append_nil] at counted
  exact counted

end Steps

/-- A request for a mode is answered with that mode in every state, and leaves all the counters
as they are. -/
theorem control_sets_mode (profile : ProfileState) (cyclesPerSec : BitVec 32)
    (mode : ProfileMode) (args : List Byte) :
    ∃ next, profileControl profile cyclesPerSec
        ((48#8 + (modeNumber mode).setWidth 8) :: args) =
          some (next, .mode (48#8 + (modeNumber mode).setWidth 8)) ∧
      next.mode = mode ∧ next.stats = profile.stats := by
  cases mode with
  | normal | dropAfterDma | dropAfterPkt => exact ⟨_, rfl, rfl, rfl⟩

/-- For every order of callbacks, turns of the worker with any of its exits, and requests: each
frame is accounted for, the drops take no control frame, the control frames come through in order
and all of them when none meets another exit, every drop test has a result, and from every state
reached a request brings back any mode.

Proof: each step moves one frame from one list to the next, so the account of the frames is kept
along the run. The results of single steps are read off the two drop tests, and a request is
answered by the table of modes. -/
theorem control_frames_kept (profile : ProfileState) (system : ControlSystem)
    (run : Run controlStep Unrestricted (.start profile) system) :
    ControlKept system ∧
      ((∀ finish ∈ system.ended, ¬ ControlFrame finish.1) →
        (system.passed ++ system.ready).filter (ControlFrame ·) =
          system.arrived.filter (ControlFrame ·)) ∧
      (∀ frame, (controlStep system (.callback frame)).isSome) ∧
      (∀ exit accepts, system.ready ≠ [] →
        (controlStep system (.worker exit accepts)).isSome) ∧
      ∀ mode args cyclesPerSec, ∃ after,
        controlStep system
          (.request ((48#8 + (modeNumber mode).setWidth 8) :: args) cyclesPerSec) = some after ∧
        after.profile.mode = mode := by
  have kept : ControlKept system := by
    apply run.invariant ControlKept
    · exact ⟨.refl _, fun _ none => absurd none List.not_mem_nil,
        fun _ none => absurd none List.not_mem_nil, .refl _⟩
    · intro before label after earlier _ taken
      exact control_step earlier taken
  refine ⟨kept, control_frames_all kept, ?_, ?_, ?_⟩
  · intro frame
    rw [controlStep, profile_drops_eq]
    rfl
  · intro exit accepts waiting
    obtain ⟨frame, ready, holds⟩ := List.exists_cons_of_ne_nil waiting
    cases exit with
    | some exit => simp [controlStep, holds]
    | none => simp [controlStep, holds, profile_drops_eq]
  · intro mode args cyclesPerSec
    obtain ⟨next, answered, set, -⟩ := control_sets_mode system.profile cyclesPerSec mode args
    refine ⟨{ system with profile := next }, ?_, set⟩
    rw [controlStep, answered]
    rfl

/-- An ARP packet of 60 bytes for the witness: broadcast, the type of ARP, and zeros. -/
def sampleArp : List Byte :=
  List.replicate 12 0xff#8 ++ [0x08#8, 0x06#8] ++ List.replicate 46 0#8

/-- In the mode that drops in the callback, an ARP packet comes through, 60 zeros do not, and
another ARP packet finds the interface down. -/
theorem control_frames_kept_dropping : ∃ system : ControlSystem,
    system.passed = [sampleArp] ∧ system.dropped = [(List.replicate 60 0#8, .dropAfterDma)] ∧
      system.ended = [(sampleArp, .interfaceDown)] ∧ ControlKept system := by
  obtain ⟨system, run, reached⟩ := run_of_execution controlStep (fun _ _ => true)
    (.start ⟨.normal, .zeroed⟩)
    [.request [49#8] 0#32, .callback sampleArp, .callback (List.replicate 60 0#8),
      .callback sampleArp, .worker none true, .worker (some ⟨.interfaceDown, rfl⟩) true]
    (fun system => decide (system.passed = [sampleArp] ∧
      system.dropped = [(List.replicate 60 0#8, .dropAfterDma)] ∧
      system.ended = [(sampleArp, .interfaceDown)]))
    (fun _ _ _ => trivial) (by decide +kernel)
  obtain ⟨passed, dropped, ended⟩ := of_decide_eq_true reached
  exact ⟨system, passed, dropped, ended, (control_frames_kept ⟨.normal, .zeroed⟩ system run).1⟩

end EmaczZephyr.Application
