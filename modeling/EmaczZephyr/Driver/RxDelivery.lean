import EmaczZephyr.Driver.FrameSegmentation
import EmaczZephyr.Rtl.RxStream

/-!
# From the MAC to the packet buffers

The receive path as one system: the clock of the wrapper, the S2MM channel behind its
`m_axis`, and the driver's polls and posts, in any order. A frame stands before the channel
when its last beat has left the wrapper.

The gate decides which frames exist, the FIFO and the channel keep their order, and the
ring keeps the pieces apart. So the n-th buffer that the driver hands on is the n-th good
frame of the MAC.
-/

namespace EmaczZephyr.Driver

open Runs Framing Handshake Rtl

variable {Fifo : Type}

/-- The registers of the wrapper, the beats it has taken and sent, and what stands behind
it. -/
structure ReceiveSystem (Fifo : Type) where
  wrapper : Gate × Fifo
  accepted : List Beat
  emitted : List Beat
  segment : SegmentSystem

/-- What happens next in the whole receive path: a clock edge of the wrapper, or a step of
channel and driver. -/
inductive ReceiveLabel where
  | clock (cycle : StageCycle Beat)
  | driver (label : SegmentLabel)

/-- The bytes of the complete frames of a stream, frame by frame. -/
def frameBytes (beats : List Beat) : List (List (BitVec 8)) :=
  (framesOf beats).complete.map (List.map Beat.tdata)

/-- A clock edge of the wrapper. The frames that its output completes come before the
channel. -/
def receiveClock (fifo : Stage Fifo Beat Beat) (system : ReceiveSystem Fifo)
    (cycle : StageCycle Beat) : ReceiveSystem Fifo :=
  let stage := rxStream rxErrorDrop fifo
  let emitted := system.emitted ++ stage.sent system.wrapper cycle
  { wrapper := stage.next system.wrapper cycle
    accepted := system.accepted ++ stage.taken system.wrapper cycle
    emitted := emitted
    segment := { system.segment with
      stream := system.segment.stream ++
        (frameBytes emitted).drop (frameBytes system.emitted).length } }

/-- One step: an edge of the wrapper, or of the channel and the driver. -/
def receiveStep (cfg : SegmentConfig) (fifo : Stage Fifo Beat Beat)
    (system : ReceiveSystem Fifo) : ReceiveLabel → Option (ReceiveSystem Fifo)
  | .clock cycle => some (receiveClock fifo system cycle)
  | .driver label => (segmentStep cfg system.segment label).map fun segment =>
      { system with segment := segment }

/-- The wrapper behind reset, and the channel at the first slot of a ready ring. -/
def receiveInitial (cfg : Config) (fifo : Fifo) (start : ReadyRing cfg)
    (memory : BitVec 32 → List (BitVec 8)) (mem : Nat → Beat) (ramDoutR : Beat) :
    ReceiveSystem Fifo where
  wrapper := (Gate.reset mem ramDoutR, fifo)
  accepted := []
  emitted := []
  segment := segmentInitial cfg start memory []

/-- What the driver has handed on of the beats that the MAC handed over, with `depth` places
in the FIFO. -/
structure RxDelivered (depth : Nat) (accepted : List Beat) (segment : SegmentSystem) : Prop where
  /-- The n-th buffer without an error is the n-th good frame. -/
  whole : WholeFrames ((goodFrames rxErrorDrop accepted).map (List.map Beat.tdata))
    segment.delivered
  few : segment.delivered.length ≤ (goodFrames rxErrorDrop accepted).length
  /-- A good frame that was not handed on is in a buffer of the ring, before the channel, or
  in the wrapper. -/
  backlog : (goodFrames rxErrorDrop accepted).length ≤
    segment.delivered.length + segment.ring.rxBdPosted + segment.stream.length + depth +
      rxErrorDrop.slotCount

/-- As the wrapper sends more, more frames come behind the ones before, and none of those
changes. -/
theorem frame_bytes_extend (beats rest : List Beat) :
    frameBytes beats ++ (frameBytes (beats ++ rest)).drop (frameBytes beats).length =
      frameBytes (beats ++ rest) := by
  obtain ⟨later, longer⟩ := complete_extends Beat.tlast beats rest
  have whole : frameBytes (beats ++ rest) =
      frameBytes beats ++ later.map (List.map Beat.tdata) := by
    rw [frameBytes, framesOf, ← longer, List.map_append]
    rfl
  rw [whole, List.drop_left]

/-- More accepted beats leave the good frames the first ones, since a frame is judged by its own
beats. -/
theorem good_frames_extend (gate : GateConfig) (accepted rest : List Beat) :
    goodFrames gate accepted <+: goodFrames gate (accepted ++ rest) :=
  (complete_extends _ accepted rest).filter _

/-- Frames that come before the channel are in order behind those before, and nothing in the ring
changes. -/
theorem FramesInOrder.arrive {cfg : Config} {frames : List (List (BitVec 8))}
    {system : SegmentSystem} {held : List Piece} (order : FramesInOrder cfg frames system held)
    (later : List (List (BitVec 8))) :
    FramesInOrder cfg (frames ++ later) { system with stream := system.stream ++ later }
      held := by
  obtain ⟨slots, within, curdesc, finished, clear⟩ := order.ring
  refine ⟨⟨slots, within, curdesc, ?_, clear⟩, order.lengths, ?_⟩
  · intro position piece here
    obtain ⟨status, fits, bytes⟩ := finished position piece here
    exact ⟨status, fits, bytes⟩
  · rw [← order.order, List.append_assoc _ system.stream later]

/-- The good frames of the MAC fit the packet buffers. -/
def GoodFramesFit (cfg : Config) (accepted : List Beat) : Prop :=
  ∀ frame ∈ goodFrames rxErrorDrop accepted, frame.length ≤ cfg.ethBufferSize

/-- The beats are those of a run of the wrapper; and if the good frames fit, those that left
it are in order in the ring. -/
structure ReceiveInvariant {depth : Nat} (cfg : Config) (fifo : Queue Fifo Beat depth)
    (start : Gate × Fifo) (system : ReceiveSystem Fifo) : Prop where
  cycles : ∃ cycles, system.wrapper = (rxStream rxErrorDrop fifo.toStage).reached start cycles ∧
    system.accepted = (rxStream rxErrorDrop fifo.toStage).allTaken start cycles ∧
    system.emitted = (rxStream rxErrorDrop fifo.toStage).allSent start cycles
  frames : GoodFramesFit cfg system.accepted →
    ∃ held, FramesInOrder cfg (frameBytes system.emitted) system.segment held

section Steps

variable {cfg : SegmentConfig} {depth : Nat} {fifo : Queue Fifo Beat depth}
  {mem : Nat → Beat} {ramDoutR : Beat} {system after : ReceiveSystem Fifo}

/-- What has left the wrapper is right, by the theorem on the composed stream for the cycles that
were clocked. -/
theorem ReceiveInvariant.stream
    (invariant : ReceiveInvariant cfg.toConfig fifo (Gate.reset mem ramDoutR, fifo.start)
      system) :
    RxStreamCorrect rxErrorDrop depth system.accepted system.emitted := by
  obtain ⟨cycles, -, accepted, emitted⟩ := invariant.cycles
  rw [accepted, emitted]
  exact rx_stream_account rxErrorDrop fifo mem ramDoutR cycles

/-- A frame that left the wrapper fits a buffer when the good frames do. -/
theorem stream_frames_fit {accepted emitted : List Beat}
    (stream : RxStreamCorrect rxErrorDrop depth accepted emitted)
    (fit : GoodFramesFit cfg.toConfig accepted) :
    ∀ frame ∈ frameBytes emitted, frame.length ≤ cfg.ethBufferSize := by
  intro bytes member
  obtain ⟨frame, complete, rfl⟩ := List.mem_map.mp member
  rw [List.length_map]
  exact fit frame (stream.whole.subset complete)

/-- At the start no cycle was clocked, and ring and stream are empty, so the invariant holds. -/
theorem receive_initial (start : ReadyRing cfg.toConfig) (memory : BitVec 32 → List (BitVec 8)) :
    ReceiveInvariant cfg.toConfig fifo (Gate.reset mem ramDoutR, fifo.start)
      (receiveInitial cfg.toConfig fifo.start start memory mem ramDoutR) where
  cycles := ⟨[], rfl, rfl, rfl⟩
  frames := fun _ => ⟨[], segment_initial start memory []⟩

/-- A clock edge is one more cycle of the wrapper, and brings frames before the channel. -/
theorem receive_clock_invariant {start : Gate × Fifo}
    (invariant : ReceiveInvariant cfg.toConfig fifo start system) (cycle : StageCycle Beat) :
    ReceiveInvariant cfg.toConfig fifo start (receiveClock fifo.toStage system cycle) := by
  constructor
  · obtain ⟨cycles, wrapper, accepted, emitted⟩ := invariant.cycles
    refine ⟨cycles ++ [cycle], ?_, ?_, ?_⟩
    · rw [Stage.reached_concat, ← wrapper]
      rfl
    · rw [Stage.taken_concat, ← wrapper, ← accepted]
      rfl
    · rw [Stage.sent_concat, ← wrapper, ← emitted]
      rfl
  · intro fit
    have fit_before : GoodFramesFit cfg.toConfig system.accepted := by
      intro frame good
      apply fit frame
      exact (good_frames_extend rxErrorDrop system.accepted _).subset good
    obtain ⟨held, order⟩ := invariant.frames fit_before
    have arrived := order.arrive ((frameBytes (receiveClock fifo.toStage system cycle).emitted).drop
      (frameBytes system.emitted).length)
    rw [receiveClock, frame_bytes_extend] at arrived
    exact ⟨held, arrived⟩

/-- A step of the channel or the driver moves the pieces in the ring. -/
theorem receive_driver_invariant
    (invariant : ReceiveInvariant cfg.toConfig fifo (Gate.reset mem ramDoutR, fifo.start) system)
    {label : SegmentLabel} {segment : SegmentSystem}
    (taken : segmentStep cfg system.segment label = some segment) :
    ReceiveInvariant cfg.toConfig fifo (Gate.reset mem ramDoutR, fifo.start)
      { system with segment := segment } := by
  constructor
  · exact invariant.cycles
  · intro fit
    obtain ⟨held, order⟩ := invariant.frames fit
    exact segment_step_order (stream_frames_fit invariant.stream fit) order taken

/-- Every state that is reached has the invariant: a clock edge extends the frames before the
channel, and a driver step keeps their order. -/
theorem receive_invariant {start : ReadyRing cfg.toConfig}
    {memory : BitVec 32 → List (BitVec 8)}
    (run : Run (receiveStep cfg fifo.toStage) Unrestricted
      (receiveInitial cfg.toConfig fifo.start start memory mem ramDoutR) system) :
    ReceiveInvariant cfg.toConfig fifo (Gate.reset mem ramDoutR, fifo.start) system := by
  apply run.invariant _ (receive_initial start memory)
  intro before label after invariant _ taken
  cases label with
  | clock cycle =>
    obtain rfl := Option.some.inj taken
    exact receive_clock_invariant invariant cycle
  | driver label =>
    obtain ⟨segment, stepped, rfl⟩ := Option.map_eq_some_iff.mp taken
    exact receive_driver_invariant invariant stepped

/-- What the invariant says of the deliveries when the good frames fit: they are the first good
frames, whole, in order and with status zero. -/
theorem ReceiveInvariant.delivered
    (invariant : ReceiveInvariant cfg.toConfig fifo (Gate.reset mem ramDoutR, fifo.start) system)
    (fit : GoodFramesFit cfg.toConfig system.accepted) :
    RxDelivered depth system.accepted system.segment := by
  obtain ⟨held, order⟩ := invariant.frames fit
  have stream := invariant.stream
  have first : frameBytes system.emitted <+:
      (goodFrames rxErrorDrop system.accepted).map (List.map Beat.tdata) :=
    stream.whole.map _
  have counted := congrArg List.length order.order
  rw [List.length_append, List.length_append, List.length_map, List.length_map] at counted
  have frames_left : (frameBytes system.emitted).length =
      system.emitted.countP Beat.tlast := by
    rw [frameBytes, List.length_map]
    exact frames_counted system.emitted
  have shorter := first.length_le
  rw [List.length_map] at shorter
  constructor
  · intro index delivery here clean
    obtain ⟨found, length⟩ := order.whole index delivery here clean
    refine ⟨?_, length⟩
    obtain ⟨later, longer⟩ := first
    rw [← longer, List.getElem?_append_left (List.getElem?_eq_some_iff.mp found).1, found]
  · omega
  · have backlog := stream.backlog
    have within := order.ring.within
    omega

end Steps

/-- In every order of clock edges, transfers, polls and posts, with every queue behind the gate
and any ring position: while the good frames fit the packet buffers, the n-th buffer that the
driver hands on without an error holds exactly the n-th good frame of the MAC, and every other
good frame is still in the ring, before the channel or in the wrapper.

Proof: the wrapper's beats are those of a run of the composed stream, which gives the good frames
in order. While they fit, a clock edge extends the frames before the channel and a step of the
driver keeps their order in the ring. -/
theorem rx_delivery (cfg : SegmentConfig) {depth : Nat} (fifo : Queue Fifo Beat depth)
    (start : ReadyRing cfg.toConfig) (memory : BitVec 32 → List (BitVec 8)) (mem : Nat → Beat)
    (ramDoutR : Beat) (system : ReceiveSystem Fifo)
    (run : Run (receiveStep cfg fifo.toStage) Unrestricted
      (receiveInitial cfg.toConfig fifo.start start memory mem ramDoutR) system)
    (fit : GoodFramesFit cfg.toConfig system.accepted) :
    RxDelivered depth system.accepted system.segment :=
  (receive_invariant run).delivered fit

/-- A beat for the memories of a gate that has not been written yet. -/
instance : Inhabited Beat := ⟨⟨false, false, false, 0#8⟩⟩

/-- A frame of one byte comes to the first buffer: it is stored, read out, sent and taken by
the channel, and poll hands it on. -/
def sampleReceive : List ReceiveLabel :=
  .driver (.post 0) :: .clock ⟨⟨true, false, true, 65#8⟩, true, false⟩ ::
    List.replicate 6 (.clock ⟨default, false, true⟩) ++
      [.driver (.transfer 0#3), .driver .poll]

/-- The theorem over a run with one frame of one byte, which comes through gate, FIFO, channel
and driver. -/
theorem rx_delivery_one :
    ∃ system : ReceiveSystem { items : List Beat // items.length ≤ 4 },
      system.segment.delivered = [⟨0, 0, 1, [65#8]⟩] ∧
      RxDelivered 4 system.accepted system.segment := by
  obtain ⟨system, run, reached⟩ := run_of_execution
    (receiveStep twoBufferSegments (Queue.list (default : Beat) 4).toStage) (fun _ _ => true)
    (receiveInitial twoBufferConfig (Queue.list (default : Beat) 4).start (.started twoBufferConfig)
      (fun _ => []) (fun _ => default) default) sampleReceive
    (fun system => decide (system.segment.delivered = [⟨0, 0, 1, [65#8]⟩] ∧
      ∀ frame ∈ goodFrames rxErrorDrop system.accepted, frame.length ≤ 1518))
    (fun _ _ _ => trivial) (by decide +kernel)
  obtain ⟨delivered, fit⟩ := of_decide_eq_true reached
  exact ⟨system, delivered, rx_delivery twoBufferSegments (Queue.list (default : Beat) 4)
    (.started twoBufferConfig) (fun _ => []) (fun _ => default) default system run fit⟩

end EmaczZephyr.Driver
