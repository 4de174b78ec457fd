import EmaczZephyr.Foundation.Handshake
import EmaczZephyr.Rtl.ElasticFifo
import EmaczZephyr.Rtl.FrameGate

/-!
# The receive stream

The receive path of `emaczero_axi_mii_wrapper`, from the MAC to `m_axis`: the frame error
gate `u_rx_error_drop` and behind it the FIFO `u_rx_dma_elastic_fifo`, in one clock domain.

The FIFO of the Xilinx build is the vendor's `xpm_fifo_sync` in first-word-fall-through
mode. It is not part of the sources, so it stands here as any queue of the same depth. The
FIFO of the other builds is the behavioural branch. It offers its front one cycle late, and
a sink that leaves every beat on offer for a cycle before it takes it does not see that.
-/

namespace EmaczZephyr.Rtl

open CircularStore Framing Handshake

/-- `axis_frame_error_drop` as a stage: it takes the beats of the MAC and offers those of the
frame that drains. -/
def gateStage (cfg : GateConfig) : Stage Gate Beat Beat where
  ready gate := gate.sAxisTready cfg
  valid gate := gate.drain.mAxisTvalid
  offered gate := gate.drain.mAxis
  next gate cycle := gate.cycle cfg ⟨cycle.item, cycle.valid, cycle.ready⟩

/-- The behavioural branch of `axis_elastic_fifo` as a stage, which offers whatever its output
register shows. -/
def elasticStage (cfg : ElasticConfig) : Stage ElasticFifo Beat Beat where
  ready fifo := fifo.sAxisTready cfg
  valid fifo := fifo.mAxisTvalid
  offered fifo := fifo.fifoDoutR
  next fifo cycle := fifo.cycle cfg ⟨cycle.item, cycle.valid, cycle.ready⟩

/-- The receive row of the wrapper: the gate in front of the FIFO. -/
def rxStream {Fifo : Type} (cfg : GateConfig) (fifo : Stage Fifo Beat Beat) :
    Stage (Gate × Fifo) Beat Beat :=
  (gateStage cfg).row fifo

/-- The frames of a stream of beats that the gate lets pass. -/
def goodFrames (cfg : GateConfig) (accepted : List Beat) : List (List Beat) :=
  (framesOf accepted).complete.filter (goodFrame cfg)

/-- What leaves the wrapper of the beats that the MAC handed over. -/
structure RxStreamCorrect (cfg : GateConfig) (depth : Nat) (accepted emitted : List Beat) :
    Prop where
  /-- The output is the first part of the good frames, beat for beat. -/
  output : emitted <+: (goodFrames cfg accepted).flatten
  /-- The frames that have left whole are the first good ones. -/
  whole : (framesOf emitted).complete <+: goodFrames cfg accepted
  clear : ∀ beat ∈ emitted, beat.terror = false
  /-- The good frames that have not left whole are few. -/
  backlog : (goodFrames cfg accepted).length ≤
    emitted.countP Beat.tlast + depth + cfg.slotCount

section GateRuns

variable {cfg : GateConfig}

/-- The edges of a run of the stage are those of the gate's bench. -/
theorem gate_bench (mem : Nat → Beat) (ramDoutR : Beat) (cycles : List (StageCycle Beat)) :
    Bench.run cfg mem ramDoutR
        (cycles.map fun cycle => ⟨cycle.item, cycle.valid, cycle.ready⟩) =
      ⟨(gateStage cfg).reached (Gate.reset mem ramDoutR) cycles,
        (gateStage cfg).allTaken (Gate.reset mem ramDoutR) cycles,
        (gateStage cfg).allSent (Gate.reset mem ramDoutR) cycles⟩ := by
  induction cycles using List.reverseRecOn with
  | nil => rfl
  | append_singleton cycles cycle inductionHypothesis =>
    rw [Bench.run, List.map_append, List.foldl_append, ← Bench.run, inductionHypothesis]
    rw [Stage.reached_concat, Stage.taken_concat, Stage.sent_concat]
    rfl

/-- The good frames of a run are those the gate has handed over and those it holds, and it
holds few. -/
theorem gate_account (cfg : GateConfig) (mem : Nat → Beat) (ramDoutR : Beat)
    (cycles : List (StageCycle Beat)) :
    let accepted := (gateStage cfg).allTaken (Gate.reset mem ramDoutR) cycles
    let emitted := (gateStage cfg).allSent (Gate.reset mem ramDoutR) cycles
    emitted <+: (goodFrames cfg accepted).flatten ∧
      (goodFrames cfg accepted).length ≤ emitted.countP Beat.tlast + cfg.slotCount := by
  obtain ⟨delivered, stored, sent, invariant⟩ := run_invariant cfg mem ramDoutR
    (cycles.map fun cycle => ⟨cycle.item, cycle.valid, cycle.ready⟩)
  rw [gate_bench] at invariant
  have goes := invariant.output_prefix
  have counted := invariant.output_count
  have good := invariant.good
  simp only at goes counted good
  constructor
  · rw [goodFrames, good]
    exact goes
  · rw [goodFrames, good, List.length_append, counted]
    exact Nat.add_le_add_left invariant.store.few _

/-- The gate does not stall inside a frame: while a part of one has been taken its slot is free,
so the gate is ready for the rest. The stage is the bench of the gate, cycle by cycle. -/
theorem gate_flows (mem : Nat → Beat) (ramDoutR : Beat) (cycles : List (StageCycle Beat))
    (inside : (framesOf ((gateStage cfg).allTaken (Gate.reset mem ramDoutR) cycles)).unfinished ≠
      []) :
    (gateStage cfg).ready ((gateStage cfg).reached (Gate.reset mem ramDoutR) cycles) = true := by
  obtain ⟨delivered, stored, sent, invariant⟩ := run_invariant cfg mem ramDoutR
    (cycles.map fun cycle => ⟨cycle.item, cycle.valid, cycle.ready⟩)
  rw [gate_bench] at invariant
  change Gate.sAxisTready cfg _ = true
  generalize (gateStage cfg).reached (Gate.reset mem ramDoutR) cycles = gate at invariant ⊢
  cases state : gate.fill.fillState with
  | fillActive =>
    have room : gate.fullCount < cfg.slotCount := invariant.fill.room state inside
    simp [Gate.sAxisTready, Gate.slotAvailable, room]
  | fillDrop => simp [Gate.sAxisTready, state]

end GateRuns

/-- The good frames of a stream end with their only last beats, and none of their beats bears an
error. -/
theorem good_delimited (cfg : GateConfig) (accepted : List Beat) {frame : List Beat}
    (good : frame ∈ goodFrames cfg accepted) :
    Delimited Beat.tlast frame ∧ ∀ beat ∈ frame, beat.terror = false := by
  obtain ⟨complete, passed⟩ := List.mem_filter.mp good
  refine ⟨frames_delimited accepted frame complete, ?_⟩
  obtain ⟨-, clean⟩ := Bool.and_eq_true_iff.mp passed
  simpa using clean

/-- What the gate hands over is what has left and what a FIFO of bounded depth holds. -/
theorem rx_stream_conserved {cfg : GateConfig} {depth : Nat}
    {accepted middle emitted held : List Beat}
    (goes : middle <+: (goodFrames cfg accepted).flatten)
    (few : (goodFrames cfg accepted).length ≤ middle.countP Beat.tlast + cfg.slotCount)
    (conserved : middle = emitted ++ held) (bounded : held.length ≤ depth) :
    RxStreamCorrect cfg depth accepted emitted := by
  have output : emitted <+: (goodFrames cfg accepted).flatten := by
    apply List.IsPrefix.trans _ goes
    rw [conserved]
    exact List.prefix_append _ _
  constructor
  · exact output
  · exact complete_part (fun frame good => (good_delimited cfg accepted good).1) output
  · intro beat member
    obtain ⟨frame, good, inside⟩ := List.mem_flatten.mp (output.subset member)
    exact (good_delimited cfg accepted good).2 beat inside
  · have marks : middle.countP Beat.tlast =
        emitted.countP Beat.tlast + held.countP Beat.tlast := by
      rw [conserved, List.countP_append]
    have most : held.countP Beat.tlast ≤ held.length := List.countP_le_length
    omega

section Row

variable {Fifo : Type} {depth : Nat} (cfg : GateConfig) (fifo : Queue Fifo Beat depth)
  (mem : Nat → Beat) (ramDoutR : Beat) (cycles : List (StageCycle Beat))

/-- With a queue behind the gate, what leaves the wrapper is right. What the gate sends the queue
takes and sends on in order, so the account of the gate is that of the row with the queue's
contents on top. -/
theorem rx_stream_account :
    RxStreamCorrect cfg depth
      ((rxStream cfg fifo.toStage).allTaken (Gate.reset mem ramDoutR, fifo.start) cycles)
      ((rxStream cfg fifo.toStage).allSent (Gate.reset mem ramDoutR, fifo.start) cycles) := by
  have accepts := Stage.row_taken (gateStage cfg) fifo.toStage
    (Gate.reset mem ramDoutR, fifo.start) cycles
  have emits := Stage.row_sent (gateStage cfg) fifo.toStage
    (Gate.reset mem ramDoutR, fifo.start) cycles
  have between := Stage.row_middle (gateStage cfg) fifo.toStage
    (Gate.reset mem ramDoutR, fifo.start) cycles
  obtain ⟨goes, few⟩ := gate_account cfg mem ramDoutR
    (Stage.upstreamCycles (gateStage cfg) fifo.toStage
      (Gate.reset mem ramDoutR, fifo.start) cycles)
  rw [rxStream, accepts, emits]
  apply rx_stream_conserved goes few (between.trans (fifo.conserved _))
  exact fifo.bounded _

end Row

/-- For every configuration of the gate, every queue behind it, every input and every pattern of
the sink, the good frames of the MAC leave the wrapper in order, whole and unchanged, and nothing
else does; the MAC is not stalled inside a frame, and a refused beat stays on offer.

Proof: the row of the two stages takes what the gate takes and sends what the queue sends, and
the gate's output is the queue's input. The three clauses are those of the gate, the gate and the
queue. -/
theorem rx_stream_correct {Fifo : Type} {depth : Nat} (cfg : GateConfig)
    (fifo : Queue Fifo Beat depth) (mem : Nat → Beat) (ramDoutR : Beat)
    (cycles : List (StageCycle Beat)) :
    let stream := rxStream cfg fifo.toStage
    let start := (Gate.reset mem ramDoutR, fifo.start)
    let reached := stream.reached start cycles
    RxStreamCorrect cfg depth (stream.allTaken start cycles) (stream.allSent start cycles) ∧
      ((framesOf (stream.allTaken start cycles)).unfinished ≠ [] → stream.ready reached = true) ∧
      ∀ cycle, stream.valid reached = true → cycle.ready = false →
        stream.valid (stream.next reached cycle) = true ∧
          stream.offered (stream.next reached cycle) = stream.offered reached := by
  intro stream start reached
  refine ⟨rx_stream_account cfg fifo mem ramDoutR cycles, ?_, ?_⟩
  · intro inside
    have accepts : stream.allTaken start cycles = _ :=
      Stage.row_taken (gateStage cfg) fifo.toStage start cycles
    have stands : reached = _ := Stage.row_reached (gateStage cfg) fifo.toStage start cycles
    rw [accepts] at inside
    rw [stands]
    exact gate_flows mem ramDoutR _ inside
  · intro cycle valid refused
    have stays : (Stage.downstream (gateStage cfg) reached cycle).ready = false := refused
    exact fifo.stable valid stays

/-- A frame of one byte, and cycles that bring no more. -/
def sampleStream : List (StageCycle Beat) :=
  ⟨⟨true, false, true, 65#8⟩, true, false⟩ ::
    List.replicate 5 ⟨⟨false, false, false, 0#8⟩, false, false⟩

/-- With a list of two beats as the queue, the byte leaves in the seventh cycle. -/
theorem rx_stream_correct_listed :
    let blank : Beat := ⟨false, false, false, 0#8⟩
    let fifo := Queue.list blank 2
    let start := (Gate.reset (fun _ => blank) blank, fifo.start)
    let cycles := sampleStream ++ [⟨blank, false, true⟩]
    (rxStream smallGate fifo.toStage).allSent start cycles = [⟨true, false, true, 65#8⟩] ∧
      RxStreamCorrect smallGate 2 ((rxStream smallGate fifo.toStage).allTaken start cycles)
        ((rxStream smallGate fifo.toStage).allSent start cycles) :=
  ⟨by decide +kernel, (rx_stream_correct smallGate (Queue.list _ 2) _ _ _).1⟩

section Elastic

variable {cfg : ElasticConfig} {fifo : ElasticFifo} {cycle : StageCycle Beat}

/-- A cycle in which the register holds the front, if it is sent, loses nothing. -/
theorem elastic_account (pointers : ElasticPointers cfg fifo)
    (shows : fifo.pops ⟨cycle.item, cycle.valid, cycle.ready⟩ = true →
      ∀ front ∈ (fifo.contents cfg).head?, fifo.fifoDoutR = front) :
    fifo.contents cfg ++ (elasticStage cfg).taken fifo cycle =
      (elasticStage cfg).sent fifo cycle ++
        ((elasticStage cfg).next fifo cycle).contents cfg := by
  obtain ⟨-, words⟩ := elastic_pointers_cycle pointers ⟨cycle.item, cycle.valid, cycle.ready⟩
  have pushed : (fifo.pushed cfg ⟨cycle.item, cycle.valid, cycle.ready⟩).toList =
      (elasticStage cfg).taken fifo cycle := by
    unfold ElasticFifo.pushed
    split
    · rename_i pushes
      exact (if_pos pushes).symm
    · rename_i idle
      exact (if_neg idle).symm
  have after_edge : ((elasticStage cfg).next fifo cycle).contents cfg =
      (fifo.contents cfg).drop (fifo.pops ⟨cycle.item, cycle.valid, cycle.ready⟩).toNat ++
        (elasticStage cfg).taken fifo cycle := by
    rw [← pushed]
    exact words
  rw [after_edge, ← List.append_assoc]
  congr 1
  cases pops : fifo.pops ⟨cycle.item, cycle.valid, cycle.ready⟩ with
  | false =>
    have kept : (elasticStage cfg).sent fifo cycle = [] := if_neg (Bool.not_eq_true _ ▸ pops)
    rw [kept]
    rfl
  | true =>
    have sends : (elasticStage cfg).sent fifo cycle = [fifo.fifoDoutR] := if_pos pops
    have front := pointers.valid_front (Bool.and_eq_true_iff.mp pops).1
    obtain ⟨rest, whole⟩ := List.head?_eq_some_iff.mp front
    rw [sends, shows pops _ front, whole]
    rfl

/-- A beat that is left on offer stays in front, and the register loads it. -/
theorem elastic_settles (pointers : ElasticPointers cfg fifo) (valid : fifo.mAxisTvalid = true)
    (left : cycle.ready = false) {front : Beat}
    (first : front ∈ (((elasticStage cfg).next fifo cycle).contents cfg).head?) :
    ((elasticStage cfg).next fifo cycle).fifoDoutR = front := by
  obtain ⟨-, words⟩ := elastic_pointers_cycle pointers ⟨cycle.item, cycle.valid, cycle.ready⟩
  have kept : fifo.pops ⟨cycle.item, cycle.valid, cycle.ready⟩ = false := by
    simp [ElasticFifo.pops, left]
  change front ∈ ((fifo.cycle cfg ⟨cycle.item, cycle.valid, cycle.ready⟩).contents cfg).head?
    at first
  rw [words, ElasticFifo.wordsAfter, kept, Bool.toNat_false, List.drop_zero, List.head?_append,
    pointers.valid_front valid] at first
  exact Option.some.inj first

end Elastic

/-- Before a patient sink the FIFO sends what it took, in order; and behind a cycle in which
a beat was left, the output register holds the front. -/
theorem elastic_patient {cfg : ElasticConfig} {mem : Nat → Beat} {cycles : List (StageCycle Beat)}
    (patient : Patient (elasticStage cfg) (.reset mem) cycles) :
    let fifo := (elasticStage cfg).reached (.reset mem) cycles
    ElasticPointers cfg fifo ∧
      (elasticStage cfg).allTaken (.reset mem) cycles =
        (elasticStage cfg).allSent (.reset mem) cycles ++ fifo.contents cfg ∧
      (Waited (elasticStage cfg) (.reset mem) cycles →
        ∀ front ∈ (fifo.contents cfg).head?, fifo.fifoDoutR = front) := by
  induction patient with
  | none =>
    refine ⟨elastic_reset cfg mem, rfl, ?_⟩
    rintro ⟨earlier, last, impossible, -⟩
    exact absurd impossible.symm (List.append_ne_nil_of_right_ne_nil _ (List.cons_ne_nil _ _))
  | @cycle cycles cycle earlier waits inductionHypothesis =>
    obtain ⟨pointers, conserved, settled⟩ := inductionHypothesis
    rw [Stage.reached_concat, Stage.taken_concat, Stage.sent_concat, conserved, waited_concat]
    generalize (elasticStage cfg).reached (.reset mem) cycles = fifo at *
    refine ⟨(elastic_pointers_cycle pointers _).1, ?_, ?_⟩
    · rw [List.append_assoc, List.append_assoc]
      congr 1
      apply elastic_account pointers
      intro pops
      obtain ⟨valid, ready⟩ := Bool.and_eq_true_iff.mp pops
      exact settled (waits valid ready)
    · rintro ⟨valid, left⟩ front first
      exact elastic_settles pointers valid left first

/-- With the behavioural FIFO, the same holds of what leaves the wrapper for every sink that
leaves each beat on offer for a cycle before it takes it, and the pointers of the FIFO stay apart
by its count.

Proof: the FIFO conserves its beats for a patient sink, and the gate's output is its input. The
stored beats are at most the depth because the pointers are apart by the count. -/
theorem rx_stream_patient (cfg : GateConfig) (fifoCfg : ElasticConfig) (mem : Nat → Beat)
    (ramDoutR : Beat) (fifoMem : Nat → Beat) (cycles : List (StageCycle Beat))
    (patient : Patient (rxStream cfg (elasticStage fifoCfg))
      (Gate.reset mem ramDoutR, .reset fifoMem) cycles) :
    RxStreamCorrect cfg fifoCfg.depth
        ((rxStream cfg (elasticStage fifoCfg)).allTaken
          (Gate.reset mem ramDoutR, .reset fifoMem) cycles)
        ((rxStream cfg (elasticStage fifoCfg)).allSent
          (Gate.reset mem ramDoutR, .reset fifoMem) cycles) ∧
      ElasticPointers fifoCfg ((rxStream cfg (elasticStage fifoCfg)).reached
        (Gate.reset mem ramDoutR, .reset fifoMem) cycles).2 := by
  have accepts := Stage.row_taken (gateStage cfg) (elasticStage fifoCfg)
    (Gate.reset mem ramDoutR, .reset fifoMem) cycles
  have emits := Stage.row_sent (gateStage cfg) (elasticStage fifoCfg)
    (Gate.reset mem ramDoutR, .reset fifoMem) cycles
  have between := Stage.row_middle (gateStage cfg) (elasticStage fifoCfg)
    (Gate.reset mem ramDoutR, .reset fifoMem) cycles
  have stands := Stage.row_reached (gateStage cfg) (elasticStage fifoCfg)
    (Gate.reset mem ramDoutR, .reset fifoMem) cycles
  obtain ⟨pointers, conserved, -⟩ := elastic_patient patient.downstream
  obtain ⟨goes, few⟩ := gate_account cfg mem ramDoutR
    (Stage.upstreamCycles (gateStage cfg) (elasticStage fifoCfg)
      (Gate.reset mem ramDoutR, .reset fifoMem) cycles)
  rw [rxStream, accepts, emits, stands]
  refine ⟨rx_stream_conserved goes few (between.trans conserved) ?_, pointers⟩
  rw [ElasticFifo.contents, stored_length]
  exact pointers.few

/-- The sink takes the byte in the seventh cycle, which is the second in which it is on
offer. -/
theorem rx_stream_patient_one :
    let fifo := elasticStage ⟨1, by decide⟩
    let blank : Beat := ⟨false, false, false, 0#8⟩
    let start := (Gate.reset (fun _ => blank) blank, ElasticFifo.reset fun _ => blank)
    let cycles := sampleStream ++ [⟨blank, false, true⟩]
    (rxStream smallGate fifo).allSent start cycles = [⟨true, false, true, 65#8⟩] ∧
      RxStreamCorrect smallGate 2 ((rxStream smallGate fifo).allTaken start cycles)
          ((rxStream smallGate fifo).allSent start cycles) ∧
        ElasticPointers ⟨1, by decide⟩ ((rxStream smallGate fifo).reached start cycles).2 := by
  refine ⟨by decide +kernel, rx_stream_patient smallGate ⟨1, by decide⟩ _ _ _ _ ?_⟩
  apply Patient.cycle
  · exact Patient.leaving (by decide)
  · intro _ _
    exact ⟨sampleStream.take 5, ⟨⟨false, false, false, 0#8⟩, false, false⟩, rfl,
      by decide +kernel, rfl⟩

end EmaczZephyr.Rtl
