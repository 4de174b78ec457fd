import EmaczZephyr.Foundation.CircularStore
import EmaczZephyr.Rtl.FrameErrorDrop

/-!
# The elastic FIFO

The behavioural branch of `axis_elastic_fifo`. One cycle is one rising clock edge with
the reset released. Registers of a parameterised width are natural numbers and wrap at
that width. The memory is not reset, so it starts with any content.

The output register is loaded from the word at the read pointer before an edge, while
the valid signal follows the count behind it. So the beat that is offered is the front of
the FIFO only when no word came to the front at the last edge, or when that word is the
same as the one the register loaded.
-/

namespace EmaczZephyr.Rtl

open CircularStore

/-- The parameter `ADDR_WIDTH` of the FIFO, which has at least one address bit. -/
structure ElasticConfig where
  addrWidth : Nat
  addr_positive : 1 ≤ addrWidth

/-- `DEPTH`, the number of beats that the memory has room for. -/
def ElasticConfig.depth (cfg : ElasticConfig) : Nat := 2 ^ cfg.addrWidth

/-- The registers and the memory of the FIFO. The output register holds a copy of a word of the
memory. -/
structure ElasticFifo where
  mem : Nat → Beat
  wrPtr : Nat
  rdPtr : Nat
  count : Nat
  fifoDoutR : Beat

/-- The inputs at one edge: the beat that is offered and whether the sink takes one. -/
structure ElasticInput where
  sAxis : Beat
  sAxisTvalid : Bool
  mAxisTready : Bool

namespace ElasticFifo

variable (cfg : ElasticConfig) (fifo : ElasticFifo) (input : ElasticInput)

/-- The memory has no free slot, by the count. -/
def fifoFull : Bool := fifo.count == cfg.depth

/-- The memory holds no word, by the count. -/
def fifoEmpty : Bool := fifo.count == 0

/-- A beat is taken whenever the memory has a free slot. -/
def sAxisTready : Bool := !fifo.fifoFull cfg

/-- A beat is offered whenever the memory holds a word, also when the output register does not
show it yet. -/
def mAxisTvalid : Bool := !fifo.fifoEmpty

/-- `s_axis_tvalid && s_axis_tready`: a beat is taken at this edge. -/
def pushes : Bool := input.sAxisTvalid && fifo.sAxisTready cfg

/-- `m_axis_tvalid && m_axis_tready`: a beat is sent at this edge. -/
def pops : Bool := fifo.mAxisTvalid && input.mAxisTready

/-- One rising clock edge. The output register is loaded from the old read pointer and the old
memory, whatever is pushed or popped. -/
def cycle : ElasticFifo where
  mem := if fifo.pushes cfg input then Function.update fifo.mem fifo.wrPtr input.sAxis else fifo.mem
  wrPtr := if fifo.pushes cfg input then (fifo.wrPtr + 1) % cfg.depth else fifo.wrPtr
  rdPtr := if fifo.pops input then (fifo.rdPtr + 1) % cfg.depth else fifo.rdPtr
  count :=
    match fifo.pushes cfg input, fifo.pops input with
    | true, false => (fifo.count + 1) % (2 * cfg.depth)
    | false, true => (fifo.count + (2 * cfg.depth - 1)) % (2 * cfg.depth)
    | _, _ => fifo.count
  fifoDoutR := fifo.mem fifo.rdPtr

/-- The registers behind a reset, with any content of the memory. -/
def reset (mem : Nat → Beat) : ElasticFifo := ⟨mem, 0, 0, 0, ⟨false, false, false, 0#8⟩⟩

/-- The words in the FIFO, the oldest first. -/
def contents : List Beat := stored cfg.depth fifo.mem fifo.rdPtr fifo.count

/-- The word that an edge pushes, if it pushes one. -/
def pushed : Option Beat := if fifo.pushes cfg input then some input.sAxis else none

end ElasticFifo

/-- The FIFO with the beats handshaked at its input and at its output. -/
structure ElasticBench where
  fifo : ElasticFifo
  accepted : List Beat
  emitted : List Beat

/-- One edge, recording the handshakes made at it on both sides. -/
def ElasticBench.cycle (cfg : ElasticConfig) (bench : ElasticBench) (input : ElasticInput) :
    ElasticBench where
  fifo := bench.fifo.cycle cfg input
  accepted := bench.accepted ++ if bench.fifo.pushes cfg input then [input.sAxis] else []
  emitted := bench.emitted ++ if bench.fifo.pops input then [bench.fifo.fifoDoutR] else []

/-- Any number of edges behind a reset, with nothing recorded at first. -/
def ElasticBench.run (cfg : ElasticConfig) (mem : Nat → Beat) (inputs : List ElasticInput) :
    ElasticBench :=
  inputs.foldl (ElasticBench.cycle cfg) ⟨.reset mem, [], []⟩

/-- A bench that shows an ideal first-word-fall-through FIFO. -/
structure ElasticCorrect (cfg : ElasticConfig) (bench : ElasticBench) : Prop where
  output : bench.emitted <+: bench.accepted
  held : bench.accepted.length ≤ bench.emitted.length + cfg.depth
  /-- A refused beat stays. -/
  stable : ∀ input, bench.fifo.mAxisTvalid = true → input.mAxisTready = false →
    (bench.fifo.cycle cfg input).mAxisTvalid = true ∧
      (bench.fifo.cycle cfg input).fifoDoutR = bench.fifo.fifoDoutR

/-- The words behind an edge: those before it without the one popped, and the one
pushed. -/
def ElasticFifo.wordsAfter (cfg : ElasticConfig) (fifo : ElasticFifo) (input : ElasticInput) :
    List Beat :=
  (fifo.contents cfg).drop (fifo.pops input).toNat ++ (fifo.pushed cfg input).toList

/-- The word that is at the front behind an edge, if there is one, is the same as the
memory word at the read pointer before it. A word that stays at the front always is; one
that is pushed into the empty FIFO, or comes up behind a popped one, need not be. -/
def ShowsFront (cfg : ElasticConfig) (fifo : ElasticFifo) (input : ElasticInput) : Prop :=
  ∀ front ∈ (fifo.wordsAfter cfg input).head?, front = fifo.mem fifo.rdPtr

/-- Every edge of a run loads the front of the FIFO behind it, as far as there is one. -/
def ShowsFronts (cfg : ElasticConfig) (mem : Nat → Beat) (inputs : List ElasticInput) : Prop :=
  ∀ before input after, inputs = before ++ input :: after →
    ShowsFront cfg (ElasticBench.run cfg mem before).fifo input

section Edge

variable {cfg : ElasticConfig} {fifo : ElasticFifo} {bench : ElasticBench}

/-- A power of two is positive, so the memory has at least one slot. -/
theorem ElasticConfig.depth_positive (cfg : ElasticConfig) : 0 < cfg.depth :=
  Nat.two_pow_pos _

/-- The pointers delimit the words in the FIFO: the write pointer is the slot behind the last of
as many words as the count says. -/
structure ElasticPointers (cfg : ElasticConfig) (fifo : ElasticFifo) : Prop where
  inside : fifo.rdPtr < cfg.depth
  few : fifo.count ≤ cfg.depth
  behind : fifo.wrPtr = Window.slot cfg.depth fifo.rdPtr fifo.count

/-- There is a pushed word exactly at the edges that push. -/
theorem ElasticFifo.pushed_some {input : ElasticInput} :
    (fifo.pushed cfg input).isSome = fifo.pushes cfg input := by
  unfold ElasticFifo.pushed
  cases fifo.pushes cfg input <;> simp

/-- An edge pushes only where the memory has room, because a full FIFO is not ready. -/
theorem ElasticPointers.room (pointers : ElasticPointers cfg fifo) {input : ElasticInput}
    (pushes : (fifo.pushed cfg input).isSome = true) : fifo.count < cfg.depth := by
  have few := pointers.few
  rw [ElasticFifo.pushed_some] at pushes
  simp only [ElasticFifo.pushes, ElasticFifo.sAxisTready, ElasticFifo.fifoFull, Bool.and_eq_true,
    Bool.not_eq_true', beq_eq_false_iff_ne] at pushes
  omega

/-- An edge pops only where the FIFO holds a word, because an empty one offers nothing. -/
theorem popped_word {input : ElasticInput} (pops : fifo.pops input = true) : 0 < fifo.count := by
  simp only [ElasticFifo.pops, ElasticFifo.mAxisTvalid, ElasticFifo.fifoEmpty, Bool.and_eq_true,
    Bool.not_eq_true', beq_eq_false_iff_ne] at pops
  omega

/-- What an edge does to the words in the FIFO: they go on as in any circular memory, and the
pointers delimit them again. The count does not wrap, since it stays within the depth. -/
theorem elastic_pointers_cycle (pointers : ElasticPointers cfg fifo) (input : ElasticInput) :
    ElasticPointers cfg (fifo.cycle cfg input) ∧
      (fifo.cycle cfg input).contents cfg = fifo.wordsAfter cfg input := by
  have positive := cfg.depth_positive
  have inside := pointers.inside
  have room (pushes : (fifo.pushed cfg input).isSome = true) := pointers.room pushes
  have some_word (pops : fifo.pops input = true) : 0 < fifo.count := popped_word pops
  have few : countAfter fifo.count (fifo.pushed cfg input) (fifo.pops input) ≤ cfg.depth :=
    count_after_le pointers.few room
  have rd_next : (fifo.cycle cfg input).rdPtr =
      firstAfter cfg.depth fifo.rdPtr (fifo.pops input) := rfl
  have count_next : (fifo.cycle cfg input).count =
      countAfter fifo.count (fifo.pushed cfg input) (fifo.pops input) := by
    have below : fifo.pushes cfg input = true → fifo.count < cfg.depth := by
      rw [← ElasticFifo.pushed_some]
      exact room
    unfold ElasticFifo.cycle ElasticFifo.pushed countAfter
    cases pushes : fifo.pushes cfg input with
    | false =>
      cases pops : fifo.pops input with
      | false => simp
      | true =>
        have one := some_word pops
        have back : fifo.count + (2 * cfg.depth - 1) = fifo.count - 1 + 2 * cfg.depth := by omega
        have few := pointers.few
        simp [back, Nat.mod_eq_of_lt (show fifo.count - 1 < 2 * cfg.depth by omega)]
    | true =>
      have free := below pushes
      cases pops : fifo.pops input with
      | false => simp [Nat.mod_eq_of_lt (show fifo.count + 1 < 2 * cfg.depth by omega)]
      | true => simp
  have mem_next : (fifo.cycle cfg input).mem =
      memAfter cfg.depth fifo.mem fifo.rdPtr fifo.count (fifo.pushed cfg input) := by
    unfold ElasticFifo.pushed
    cases pushes : fifo.pushes cfg input <;>
      simp [ElasticFifo.cycle, memAfter, pushes, pointers.behind]
  constructor
  · refine ⟨first_after_lt inside, ?_, ?_⟩
    · rw [count_next]
      exact few
    · rw [count_next, rd_next, end_after some_word, ElasticFifo.pushed_some, ← pointers.behind]
      rfl
  · rw [ElasticFifo.contents, mem_next, rd_next, count_next]
    exact stored_after inside room some_word

/-- The front of the FIFO is the word at the read pointer, and while there is one a beat is
offered. -/
theorem ElasticPointers.front (pointers : ElasticPointers cfg fifo) {front : Beat}
    (first : front ∈ (fifo.contents cfg).head?) :
    fifo.mAxisTvalid = true ∧ fifo.mem fifo.rdPtr = front := by
  have some_word : 0 < fifo.count := by
    by_contra none
    rw [ElasticFifo.contents, Nat.eq_zero_of_not_pos none] at first
    cases first
  rw [ElasticFifo.contents, stored_head pointers.inside some_word] at first
  refine ⟨?_, Option.some.inj first⟩
  simp [ElasticFifo.mAxisTvalid, ElasticFifo.fifoEmpty, some_word.ne']

/-- A beat is offered only while the FIFO has a front, which is the word at the read pointer. -/
theorem ElasticPointers.valid_front (pointers : ElasticPointers cfg fifo)
    (valid : fifo.mAxisTvalid = true) :
    (fifo.contents cfg).head? = some (fifo.mem fifo.rdPtr) := by
  apply stored_head pointers.inside
  simp only [ElasticFifo.mAxisTvalid, ElasticFifo.fifoEmpty, Bool.not_eq_true',
    beq_eq_false_iff_ne] at valid
  omega

/-- Behind a reset the FIFO is empty, whatever its memory holds. -/
theorem elastic_reset (cfg : ElasticConfig) (mem : Nat → Beat) :
    ElasticPointers cfg (.reset mem) :=
  ⟨cfg.depth_positive, Nat.zero_le _, (Window.slot_zero cfg.depth_positive).symm⟩

/-- The pointers are right after any edges. Induction over the inputs from the end, each edge by
`elastic_pointers_cycle`. -/
theorem elastic_pointers_run (cfg : ElasticConfig) (mem : Nat → Beat)
    (inputs : List ElasticInput) : ElasticPointers cfg (ElasticBench.run cfg mem inputs).fifo := by
  induction inputs using List.reverseRecOn with
  | nil => exact elastic_reset cfg mem
  | append_singleton inputs input inductionHypothesis =>
    rw [ElasticBench.run, List.foldl_append]
    exact (elastic_pointers_cycle inductionHypothesis input).1

/-- The FIFO has lost nothing, and its output register shows its front. -/
structure Fresh (cfg : ElasticConfig) (bench : ElasticBench) : Prop where
  conserved : bench.accepted = bench.emitted ++ bench.fifo.contents cfg
  offered : ∀ front ∈ (bench.fifo.contents cfg).head?, bench.fifo.fifoDoutR = front

/-- An edge that loads the front keeps this: the words go on as in a queue, and what is sent at
the edge was the front. -/
theorem fresh_cycle (pointers : ElasticPointers cfg bench.fifo) (fresh : Fresh cfg bench)
    {input : ElasticInput} (shows : ShowsFront cfg bench.fifo input) :
    Fresh cfg (bench.cycle cfg input) := by
  obtain ⟨-, contents_next⟩ := elastic_pointers_cycle pointers input
  have accepted_next : (bench.cycle cfg input).accepted =
      bench.accepted ++ (bench.fifo.pushed cfg input).toList := by
    unfold ElasticFifo.pushed ElasticBench.cycle
    split <;> rfl
  constructor
  · have taken : bench.fifo.contents cfg =
        (if bench.fifo.pops input then [bench.fifo.fifoDoutR] else []) ++
          (bench.fifo.contents cfg).drop (bench.fifo.pops input).toNat := by
      cases pops : bench.fifo.pops input with
      | false => simp
      | true =>
        have valid : bench.fifo.mAxisTvalid = true := (Bool.and_eq_true _ _ ▸ pops).1
        have front := pointers.valid_front valid
        have offered := fresh.offered _ front
        cases held : bench.fifo.contents cfg with
        | nil =>
          rw [held] at front
          cases front
        | cons first rest =>
          rw [held] at front
          rw [offered, ← Option.some.inj front]
          rfl
    calc (bench.cycle cfg input).accepted
        = bench.emitted ++ (bench.fifo.contents cfg ++ (bench.fifo.pushed cfg input).toList) := by
          rw [accepted_next, fresh.conserved, List.append_assoc]
      _ = bench.emitted ++ (((if bench.fifo.pops input then [bench.fifo.fifoDoutR] else []) ++
            (bench.fifo.contents cfg).drop (bench.fifo.pops input).toNat) ++
              (bench.fifo.pushed cfg input).toList) := by
          rw [← taken]
      _ = (bench.cycle cfg input).emitted ++ (bench.fifo.cycle cfg input).contents cfg := by
          rw [contents_next, ElasticFifo.wordsAfter, List.append_assoc, ← List.append_assoc]
          rfl
  · intro front first
    change front ∈ ((bench.fifo.cycle cfg input).contents cfg).head? at first
    rw [contents_next] at first
    exact (shows front first).symm

/-- A FIFO that has lost nothing and shows its front looks ideal: what it sent is a prefix of
what it took, the rest is in the memory, and a refused beat stays. -/
theorem Fresh.correct (pointers : ElasticPointers cfg bench.fifo) (fresh : Fresh cfg bench) :
    ElasticCorrect cfg bench := by
  refine ⟨?_, ?_, ?_⟩
  · rw [fresh.conserved]
    exact List.prefix_append _ _
  · rw [fresh.conserved, List.length_append, ElasticFifo.contents, stored_length]
    exact Nat.add_le_add_left pointers.few _
  · intro input valid refused
    have front := pointers.valid_front valid
    have kept : bench.fifo.pops input = false := by simp [ElasticFifo.pops, refused]
    obtain ⟨next, contents_next⟩ := elastic_pointers_cycle pointers input
    have still : bench.fifo.mem bench.fifo.rdPtr ∈
        ((bench.fifo.cycle cfg input).contents cfg).head? := by
      rw [contents_next, ElasticFifo.wordsAfter, kept, Bool.toNat_false, List.drop_zero,
        List.head?_append, front]
      rfl
    exact ⟨(next.front still).1, (fresh.offered _ front).symm⟩

/-- A FIFO that looks ideal behind an edge loaded the front at it. Otherwise the beat on offer
would not be the next of those accepted. -/
theorem shows_of_correct (pointers : ElasticPointers cfg bench.fifo) {input : ElasticInput}
    (correct : ElasticCorrect cfg (bench.cycle cfg input)) : ShowsFront cfg bench.fifo input := by
  intro front first
  obtain ⟨next, contents_next⟩ := elastic_pointers_cycle pointers input
  rw [← contents_next] at first
  obtain ⟨valid, here⟩ := next.front first
  obtain ⟨-, same⟩ := correct.stable ⟨input.sAxis, false, false⟩ valid rfl
  rw [← here]
  exact same

end Edge

/-- For every depth, memory, input and pattern of the sink, the FIFO looks ideal at every time of
a run exactly when every edge of the run loads the beat that is then at the front.

Proof: the pointers are right in every run. The output is right after an edge exactly if the beat
loaded there is the front, so one direction looks at one edge and the other goes by induction
over the edges. -/
theorem elastic_correct_iff (cfg : ElasticConfig) (mem : Nat → Beat)
    (inputs : List ElasticInput) :
    (∀ before after, inputs = before ++ after →
      ElasticCorrect cfg (ElasticBench.run cfg mem before)) ↔ ShowsFronts cfg mem inputs := by
  have run_next (before : List ElasticInput) (input : ElasticInput) :
      ElasticBench.run cfg mem (before ++ [input]) =
        (ElasticBench.run cfg mem before).cycle cfg input := by
    rw [ElasticBench.run, List.foldl_append]
    rfl
  constructor
  · intro correct before input after split
    have next := correct (before ++ [input]) after (by rw [split]; simp)
    rw [run_next] at next
    exact shows_of_correct (elastic_pointers_run cfg mem before) next
  · intro shows before after split
    apply Fresh.correct (elastic_pointers_run cfg mem before)
    induction before using List.reverseRecOn generalizing after with
    | nil => exact ⟨rfl, fun _ impossible => nomatch impossible⟩
    | append_singleton before input inductionHypothesis =>
      rw [List.append_assoc] at split
      have earlier := inductionHypothesis _ split
      rw [run_next]
      exact fresh_cycle (elastic_pointers_run cfg mem before) earlier
        (shows before input after split)

/-- One beat through an empty FIFO with a ready sink: the memory's stale word leaves. -/
theorem elastic_stale_beat :
    ¬ ElasticCorrect ⟨1, by decide⟩ (ElasticBench.run ⟨1, by decide⟩
      (fun _ => ⟨false, false, false, 0#8⟩)
      [⟨⟨true, false, true, 65#8⟩, true, true⟩, ⟨⟨true, false, true, 65#8⟩, false, true⟩]) := by
  intro correct
  exact absurd correct.output (by decide)

end EmaczZephyr.Rtl
