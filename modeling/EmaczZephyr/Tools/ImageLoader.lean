import Mathlib.Data.List.Range
import Mathlib.Data.Nat.Digits.Defs
import Mathlib.Tactic.Ring
import EmaczZephyr.Foundation.BigEndian
import EmaczZephyr.Foundation.Faulting

/-!
# The image loader

`load_zephyr_bram.py` writes a binary to the board's memory through the JTAG bridge while it
holds the processor in reset, reads the words back, and lets the processor go. The bridge is
not part of the sources: it is any board, each of whose operations may fail and may do to
the memory what it likes, unless a hypothesis says otherwise.
-/

namespace EmaczZephyr.Tools

open BigEndian Faulting

/-- `MAX_BURST_WORDS`: the bridge moves at most fifteen words with one command, whatever the
command line asks for. -/
def maxBurstWords : Int := 15

/-- `int.from_bytes(raw, "little")`: the number whose digits to the base 256 are the bytes, the
lowest first. -/
def fromBytesLittle (raw : List Byte) : Nat := Nat.ofDigits 256 (raw.map BitVec.toNat)

/-- `range(0, count, step)` for a positive step: the multiples of the step below the count, in
increasing order. -/
def offsets (count step : Nat) : List Nat := List.range' 0 ((count + step - 1) / step) step

/-- `raw` with the zeros that make its length a multiple of four. -/
def padded (raw : List Byte) : List Byte :=
  if raw.length % 4 ≠ 0 then raw ++ List.replicate (4 - raw.length % 4) 0#8 else raw

/-- `words_from_file`: the file is padded with zero bytes to whole words, and every four bytes
make one little-endian number. -/
def wordsFromFile (raw : List Byte) : List Nat :=
  (offsets (padded raw).length 4).map fun index =>
    fromBytesLittle (((padded raw).drop index).take 4)

/-- What the script does to the board: the operations of the transport, of the reset control,
of the bridge and of the console. -/
structure Board (State : Type) where
  openTransport : EStateM String State Unit
  eioConnect : EStateM String State Unit
  /-- `eio.write_outputs` -/
  writeOutputs : Nat → EStateM String State Unit
  axiConnect : EStateM String State Unit
  burstWrite : Int → List Nat → EStateM String State Unit
  burstRead : Int → Nat → EStateM String State (List Nat)
  axiWrite : Int → Nat → EStateM String State Unit
  /-- `uart.attach` and the two rounds of scans behind it. -/
  uartAttach : EStateM String State Unit
  /-- The console behind the release, to the end of the monitor time. -/
  uartMonitor : EStateM String State Unit
  /-- `axi.close` -/
  close : EStateM String State Unit

/-- The arguments of the command line that decide what reaches the board; the names of the file
and of the transport have been used by then. -/
structure LoaderArgs where
  addr : Int
  chunkWords : Int
  verifyWords : Int
  noReset : Bool
  /-- `args.monitor > 0` -/
  monitor : Bool

/-- `burst` of `main`: the chunk that was asked for, brought between one word and what the bridge
can move at once. -/
def LoaderArgs.burst (args : LoaderArgs) : Nat := (max 1 (min args.chunkWords maxBurstWords)).toNat

/-- `verify_count` of `main`: as many words as were asked for and the image has, and all of them
when zero or less was asked for. -/
def LoaderArgs.verifyCount (args : LoaderArgs) (words : List Nat) : Nat :=
  if args.verifyWords ≤ 0 then words.length else min args.verifyWords.toNat words.length

/-- The words of one burst against those of the image from an offset on. -/
def compareBurst {State : Type} (words : List Nat) (offset : Nat) :
    List Nat → EStateM String State Nat
  | [] => pure 0
  | actual :: got =>
      match words[offset]? with
      | none => throw "IndexError"
      | some expected =>
          if actual ≠ expected then pure 1 else compareBurst words (offset + 1) got

section Script

variable {State : Type} (board : Board State)

/-- One turn of the loop of `verify_range`: a burst is read back from its place and compared with
the words of the image there. -/
def verifyBurst (addr : Int) (words : List Nat) (count burst offset : Nat) :
    EStateM String State Nat := do
  let got ← board.burstRead (addr + offset * 4) (min burst (count - offset))
  compareBurst words offset got

/-- `verify_range`: burst after burst until one of them differs, and then the code 1 without
reading the rest. -/
def verifyRange (addr : Int) (words : List Nat) (count burst : Nat) : EStateM String State Nat :=
  firstComplaint (offsets count burst) (verifyBurst board addr words count burst)

/-- One turn of the loop of `main` that writes the image: the words at an offset go to the
address that the offset has on the board. -/
def writeBurst (addr : Int) (words : List Nat) (burst offset : Nat) : EStateM String State Unit :=
  board.burstWrite (addr + offset * 4) ((words.drop offset).take burst)

/-- What `--monitor` does in front of the release: the console is attached, and a write to its
control register clears both FIFOs. -/
def attachConsole : EStateM String State Unit := do
  board.uartAttach
  board.axiWrite 0x4060000C 3

/-- What follows once the read-back agrees: the console, the release of the processor unless
`--no-reset` was given, the monitor, and the exit code 0. -/
def release (args : LoaderArgs) : EStateM String State Nat := do
  onlyIf args.monitor (attachConsole board)
  onlyIf (!args.noReset) (board.writeOutputs 0)
  onlyIf args.monitor board.uartMonitor
  pure 0

/-- The body of the `try` in `main`: the whole image is written, then read back, and only an
agreeing read-back is followed by the release. -/
def session (args : LoaderArgs) (words : List Nat) : EStateM String State Nat := do
  each (offsets words.length args.burst) (writeBurst board args.addr words args.burst)
  let code ← verifyRange board args.addr words (args.verifyCount words) args.burst
  if code ≠ 0 then pure 1 else release board args

/-- The reset control, unless it is to stay as it is. -/
def hold : EStateM String State Unit := do
  board.eioConnect
  board.writeOutputs 1

/-- `main` from the content of the file on. A file that cannot be read raises before the board is
touched, and the bridge is closed on every way out. -/
def main (args : LoaderArgs) (raw : Option (List Byte)) : EStateM String State Nat :=
  match raw with
  | none => throw "FileNotFoundError"
  | some raw => do
      board.openTransport
      onlyIf (!args.noReset) (hold board)
      board.axiConnect
      tryFinally (session board args (wordsFromFile raw)) board.close

end Script

/-- What there is to see of a board: the words of its memory, whether the processor is held
in reset, and the memories on which the loader has let it go. -/
structure View (State : Type) where
  memory : State → Int → Nat
  held : State → Bool
  starts : State → List (Int → Nat)

/-- The memory behind a burst of writes: each word at its own address, four addresses apart, and
the later ones over the earlier. -/
def store (memory : Int → Nat) (addr : Int) : List Nat → Int → Nat
  | [] => memory
  | word :: words => store (Function.update memory addr word) (addr + 4) words

/-- The words that a burst reads from the memory, as many as were asked for and four addresses
apart. -/
def load (memory : Int → Nat) (addr : Int) (count : Nat) : List Nat :=
  (List.range count).map fun index : Nat => memory (addr + 4 * index)

section Board

variable {State : Type} (view : View State) (begun : List (Int → Nat))

/-- The processor has begun to run exactly on the memories of the list `begun`, in its order. -/
def View.Begun (state : State) : Prop := view.starts state = begun

/-- The processor is held, and what it has run on up to now is the list `begun`. -/
def View.Holding (state : State) : Prop := view.held state = true ∧ view.starts state = begun

/-- The processor is held as above, and the memory is the given one; this is what the loops of
the session preserve burst by burst. -/
def View.HoldingOn (memory : Int → Nat) (state : State) : Prop :=
  view.Holding begun state ∧ view.memory state = memory

/-- An operation that does not let the processor go, whether it fails or not. -/
structure Alone (mayFail : Prop) {Result : Type} (operation : EStateM String State Result) :
    Prop where
  begun : ∀ begun, Triple (view.Begun begun) operation (fun _ => view.Begun begun)
    fun state => mayFail ∧ view.Begun begun state
  holding : ∀ begun, Triple (view.Holding begun) operation (fun _ => view.Holding begun)
    fun state => mayFail ∧ view.Holding begun state

/-- Nor does it change the memory of a held processor. -/
def Still (mayFail : Prop) (operation : EStateM String State Unit) : Prop :=
  ∀ begun memory, Triple (view.HoldingOn begun memory) operation
    (fun _ => view.HoldingOn begun memory) fun state => mayFail ∧ view.Holding begun state

/-- What the script relies on: only the reset control lets the processor go, and reads show
the memory of a held processor. What a burst writes is left open unless the board is
`exact`, and no operation fails unless it `mayFail`. -/
structure Sound (board : Board State) (mayFail exact : Prop) : Prop where
  open_transport : Alone view mayFail board.openTransport
  eio_connect : Alone view mayFail board.eioConnect
  axi_connect : Alone view mayFail board.axiConnect
  burst_write : ∀ addr words, Alone view mayFail (board.burstWrite addr words)
  uart_monitor : Alone view mayFail board.uartMonitor
  close : Alone view mayFail board.close
  uart_attach : Still view mayFail board.uartAttach
  clear_fifos : ∀ value, Still view mayFail (board.axiWrite 0x4060000C value)
  reads : ∀ begun memory addr count,
    Triple (view.HoldingOn begun memory) (board.burstRead addr count)
      (fun got state => view.HoldingOn begun memory state ∧
        got = load memory addr count)
      fun state => mayFail ∧ view.Holding begun state
  writes : exact → ∀ begun memory addr words,
    Triple (view.HoldingOn begun memory) (board.burstWrite addr words)
      (fun _ => view.HoldingOn begun (store memory addr words)) fun _ => True
  holds : ∀ begun, Triple (view.Begun begun) (board.writeOutputs 1)
    (fun _ => view.Holding begun) fun state => mayFail ∧ view.Begun begun state
  lets_go : ∀ begun memory, Triple (view.HoldingOn begun memory) (board.writeOutputs 0)
    (fun _ => view.Begun (begun ++ [memory]))
    fun state => mayFail ∧ (view.Begun begun state ∨ view.Begun (begun ++ [memory]) state)

end Board

/-- The first `count` words of a memory from an address on are the bytes of a file. -/
def ShowsFile (memory : Int → Nat) (addr : Int) (raw : List Byte) (count : Nat) : Prop :=
  ∀ index byte, index / 4 < count → raw[index]? = some byte →
    memory (addr + 4 * (index / 4 : Nat)) / 256 ^ (index % 4) % 256 = byte.toNat

/-- A byte of a little-endian number is found again by a shift and a remainder: the number's
digit to the base 256 at the byte's place. -/
theorem little_byte {raw : List Byte} {index : Nat} {byte : Byte} (here : raw[index]? = some byte) :
    fromBytesLittle raw / 256 ^ index % 256 = byte.toNat := by
  induction raw generalizing index with
  | nil => cases here
  | cons first rest inductionHypothesis =>
    have small : first.toNat < 256 := first.isLt
    have split : fromBytesLittle (first :: rest) = first.toNat + 256 * fromBytesLittle rest := rfl
    cases index with
    | zero =>
      obtain rfl : first = byte := by simpa using here
      rw [split]
      omega
    | succ index =>
      have quotient : fromBytesLittle (first :: rest) / 256 = fromBytesLittle rest := by
        rw [split]
        omega
      rw [Nat.pow_succ', ← Nat.div_div_eq_div_mul, quotient]
      exact inductionHypothesis (by simpa using here)

/-- The offsets of a loop are the multiples of its step below the count. -/
theorem offsets_get {count step index offset : Nat} (positive : 0 < step)
    (here : (offsets count step)[index]? = some offset) :
    offset = index * step ∧ offset < count := by
  have inside : index < (count + step - 1) / step := by
    simpa [offsets] using (List.getElem?_eq_some_iff.mp here).1
  rw [offsets, List.getElem?_range' inside] at here
  obtain rfl := Option.some.inj here
  have fits : (index + 1) * step ≤ count + step - 1 := (Nat.le_div_iff_mul_le positive).mp inside
  rw [Nat.succ_mul] at fits
  rw [Nat.zero_add, Nat.mul_comm]
  omega

/-- The turns of the loop in order: turn number `index` has the offset `index * step`, as long as
that is below the count. -/
theorem offsets_some {count step index : Nat} (positive : 0 < step)
    (inside : index * step < count) :
    (offsets count step)[index]? = some (index * step) := by
  have fits : index < (count + step - 1) / step := by
    apply (Nat.le_div_iff_mul_le positive).mpr
    rw [Nat.succ_mul]
    omega
  rw [offsets, List.getElem?_range' fits, Nat.zero_add, Nat.mul_comm]

/-- The last turn of the loop reaches the count, so no word of the image is behind all the
bursts. -/
theorem offsets_reach {count step : Nat} (positive : 0 < step) :
    count ≤ (offsets count step).length * step := by
  by_contra short
  have more := offsets_some positive (not_le.mp short)
  rw [List.getElem?_eq_none (le_refl _)] at more
  cases more

/-- The padding only adds bytes behind the file: its own bytes stay where they were, and their
words are whole. -/
theorem padded_get {raw : List Byte} {index : Nat} {byte : Byte} (here : raw[index]? = some byte) :
    (padded raw)[index]? = some byte ∧ index / 4 * 4 < (padded raw).length := by
  have inside : index < raw.length := (List.getElem?_eq_some_iff.mp here).1
  unfold padded
  split
  · rw [List.getElem?_append_left inside, List.length_append]
    exact ⟨here, by omega⟩
  · exact ⟨here, by omega⟩

/-- Every byte of the file is in its word: word `index / 4` of the image exists, and the byte is
its digit `index % 4`. -/
theorem words_byte {raw : List Byte} {index : Nat} {byte : Byte} (here : raw[index]? = some byte) :
    ∃ word, (wordsFromFile raw)[index / 4]? = some word ∧
      word / 256 ^ (index % 4) % 256 = byte.toNat := by
  obtain ⟨stays, inside⟩ := padded_get here
  refine ⟨fromBytesLittle (((padded raw).drop (index / 4 * 4)).take 4), ?_, ?_⟩
  · rw [wordsFromFile, List.getElem?_map, offsets_some (by decide) inside]
    rfl
  · apply little_byte
    rw [List.getElem?_take_of_lt (Nat.mod_lt _ (by decide)), List.getElem?_drop,
      Nat.div_add_mod' index 4]
    exact stays

/-- A memory that agrees with the first words of the image shows the bytes of the file that they
hold; this takes the comparison of words to the bytes of the file. -/
theorem shows_words {memory : Int → Nat} {addr : Int} {raw : List Byte} {count : Nat}
    (agree : ∀ index word, index < count → (wordsFromFile raw)[index]? = some word →
      memory (addr + 4 * index) = word) : ShowsFile memory addr raw count := by
  intro index byte inside here
  obtain ⟨word, found, shown⟩ := words_byte here
  rw [agree _ _ inside found]
  exact shown

/-- Two bursts one behind the other store what one burst of all their words would, which lets the
loop of writes be followed from its front. -/
theorem store_append (memory : Int → Nat) (addr : Int) (words more : List Nat) :
    store memory addr (words ++ more) =
      store (store memory addr words) (addr + 4 * words.length) more := by
  induction words generalizing memory addr with
  | nil => simp [store]
  | cons word words inductionHypothesis =>
    rw [List.cons_append, store, inductionHypothesis, store, List.length_cons]
    congr 1
    push_cast
    ring

/-- Outside of its words a burst changes nothing: an address that is none of those written to
keeps its word. -/
theorem store_outside (memory : Int → Nat) {addr place : Int} {words : List Nat}
    (outside : ∀ index, index < words.length → place ≠ addr + 4 * (index : Nat)) :
    store memory addr words place = memory place := by
  induction words generalizing memory addr with
  | nil => rfl
  | cons word words inductionHypothesis =>
    rw [store, inductionHypothesis]
    · apply Function.update_of_ne
      simpa using outside 0 (Nat.succ_pos _)
    · intro index inside same
      apply outside (index + 1) (Nat.succ_lt_succ inside)
      rw [same]
      push_cast
      ring

/-- Inside, a burst leaves its own words: the address at an index holds the word with that index,
by induction on the words in front of it. -/
theorem store_inside (memory : Int → Nat) (addr : Int) {words : List Nat} {index word : Nat}
    (here : words[index]? = some word) :
    store memory addr words (addr + 4 * (index : Nat)) = word := by
  induction words generalizing memory addr index with
  | nil => cases here
  | cons first words inductionHypothesis =>
    cases index with
    | zero =>
      obtain rfl : first = word := by simpa using here
      rw [store, store_outside]
      · simp
      · intro index _
        omega
    | succ index =>
      have later := inductionHypothesis (Function.update memory addr first) (addr + 4)
        (by simpa using here)
      rw [store, ← later]
      congr 1
      push_cast
      ring

/-- The first `count` words of a memory from an address on are those of the image. -/
def Agrees (memory : Int → Nat) (addr : Int) (words : List Nat) (count : Nat) : Prop :=
  ∀ index : Nat, index < count → words[index]? = some (memory (addr + 4 * index))

/-- Without running over the image, the comparison of one burst succeeds exactly if the words
read are those of the image from the offset on. -/
theorem compare_burst {State : Type} {words got : List Nat} {offset : Nat}
    (fits : offset + got.length ≤ words.length) :
    (compareBurst words offset got : EStateM String State Nat) =
      pure (if got <+: words.drop offset then 0 else 1) := by
  induction got generalizing offset with
  | nil => simp [compareBurst]
  | cons actual got inductionHypothesis =>
    rw [List.length_cons] at fits
    have inside : offset < words.length := by omega
    have front : words.drop offset = words[offset] :: words.drop (offset + 1) :=
      List.drop_eq_getElem_cons inside
    rw [compareBurst, List.getElem?_eq_getElem inside, front]
    by_cases same : actual = words[offset]
    · simp only [ne_eq, same, not_true, if_false, List.cons_prefix_cons, true_and]
      exact inductionHypothesis (by omega)
    · simp only [ne_eq, same, not_false_iff, if_true, List.cons_prefix_cons, false_and, if_false]

/-- What a burst reads from an offset on agrees word by word or not. -/
theorem load_prefix (memory : Int → Nat) (addr : Int) (words : List Nat) (offset span : Nat) :
    load memory (addr + offset * 4) span <+: words.drop offset ↔ ∀ next < span,
      words[offset + next]? = some (memory (addr + 4 * (offset + next : Nat))) := by
  have places (next : Nat) : addr + offset * 4 + 4 * (next : Int) =
      addr + 4 * (offset + next : Nat) := by
    push_cast
    ring
  simp only [List.prefix_iff_getElem?, load, List.length_map, List.length_range, List.getElem_map,
    List.getElem_range, List.getElem?_drop, places]

section Bridge

variable {State : Type} {view : View State} {board : Board State} {mayFail exact : Prop}
  {begun : List (Int → Nat)} {memory : Int → Nat} {addr : Int} {words : List Nat}
  {count burst : Nat}

/-- The loop that writes the image leaves the processor held, and an exact board with the
image. -/
theorem image_written (sound : Sound view board mayFail exact) (positive : 0 < burst) :
    Triple (view.HoldingOn begun memory)
      (each (offsets words.length burst) (writeBurst board addr words burst))
      (fun _ state => view.Holding begun state ∧
        (exact → view.memory state = store memory addr words))
      fun state => mayFail ∧ view.Holding begun state := by
  have step : ∀ index offset, (offsets words.length burst)[index]? = some offset →
      Triple (fun state => view.Holding begun state ∧
          (exact → view.memory state = store memory addr (words.take (index * burst))))
        (writeBurst board addr words burst offset)
        (fun _ state => view.Holding begun state ∧
          (exact → view.memory state = store memory addr (words.take ((index + 1) * burst))))
        fun state => mayFail ∧ view.Holding begun state := by
    intro index offset here
    obtain ⟨rfl, inside⟩ := offsets_get positive here
    apply Triple.from_each
    rintro start ⟨holding, written⟩
    have alone := (sound.burst_write (addr + (index * burst : Nat) * 4)
      ((words.drop (index * burst)).take burst)).holding begun
    by_cases honest : exact
    · have stored := sound.writes honest begun (view.memory start)
        (addr + (index * burst : Nat) * 4) ((words.drop (index * burst)).take burst)
      apply (alone.both stored).weaken
      · rintro state rfl
        exact ⟨holding, holding, rfl⟩
      · rintro _ state ⟨-, holds, grown⟩
        refine ⟨holds, fun _ => ?_⟩
        have length : (words.take (index * burst)).length = index * burst :=
          List.length_take_of_le inside.le
        rw [grown, written honest, Nat.succ_mul, List.take_add, store_append, length,
          Int.mul_comm]
      · exact fun _ fails => fails.1
    · apply alone.weaken
      · rintro state rfl
        exact holding
      · exact fun _ _ holds => ⟨holds, fun impossible => absurd impossible honest⟩
      · exact fun _ fails => fails
  apply (Triple.loop _ step).weaken
  · rintro state ⟨holding, same⟩
    refine ⟨holding, fun _ => ?_⟩
    rw [same, Nat.zero_mul, List.take_zero]
    rfl
  · rintro _ state ⟨holding, written⟩
    refine ⟨holding, fun honest => ?_⟩
    rw [written honest, List.take_of_length_le (offsets_reach positive)]
  · exact fun _ fails => fails

/-- One burst read back. When all earlier ones agree, the code 0 means that this one does too,
and the code 1 that the memory differs from the image somewhere. -/
theorem burst_verified (sound : Sound view board mayFail exact) (inside : count ≤ words.length)
    {index : Nat} (begins : index * burst < count)
    (earlier : Agrees memory addr words (index * burst)) :
    Triple (view.HoldingOn begun memory)
      (verifyBurst board addr words count burst (index * burst))
      (fun code state => if code = 0 then view.HoldingOn begun memory state ∧
          Agrees memory addr words (min ((index + 1) * burst) count)
        else view.HoldingOn begun memory state ∧ ¬ Agrees memory addr words count)
      fun state => mayFail ∧ view.Holding begun state := by
  apply Triple.bind (sound.reads begun memory _ _)
  intro got
  apply Triple.from_each
  rintro start ⟨holding, rfl⟩
  have length : (load memory (addr + (index * burst : Nat) * 4)
      (min burst (count - index * burst))).length = min burst (count - index * burst) := by
    rw [load, List.length_map, List.length_range]
  rw [compare_burst (by omega)]
  apply Triple.value
  rintro state rfl
  have compared := load_prefix memory addr words (index * burst)
    (min burst (count - index * burst))
  by_cases same : load memory (addr + (index * burst : Nat) * 4)
      (min burst (count - index * burst)) <+: words.drop (index * burst)
  · rw [if_pos same, if_pos rfl]
    refine ⟨holding, fun place before => ?_⟩
    rcases Nat.lt_or_ge place (index * burst) with early | late
    · exact earlier place early
    · have here := compared.mp same (place - index * burst) (by
        rw [Nat.succ_mul] at before
        omega)
      rwa [Nat.add_sub_cancel' late] at here
  · rw [if_neg same, if_neg Nat.one_ne_zero]
    refine ⟨holding, fun agrees => same (compared.mpr ?_)⟩
    intro next before
    exact agrees _ (by omega)

/-- The read-back tells whether the memory agrees with the image on all words to be verified: the
loop rule for `firstComplaint` with the lemma above for each burst. -/
theorem range_verified (sound : Sound view board mayFail exact) (positive : 0 < burst)
    (inside : count ≤ words.length) :
    Triple (view.HoldingOn begun memory) (verifyRange board addr words count burst)
      (fun code state => view.HoldingOn begun memory state ∧
        (code = 0 ↔ Agrees memory addr words count))
      fun state => mayFail ∧ view.Holding begun state := by
  have step : ∀ index offset, (offsets count burst)[index]? = some offset →
      Triple (fun state => view.HoldingOn begun memory state ∧
          Agrees memory addr words (min (index * burst) count))
        (verifyBurst board addr words count burst offset)
        (fun code state => if code = 0 then view.HoldingOn begun memory state ∧
            Agrees memory addr words (min ((index + 1) * burst) count)
          else view.HoldingOn begun memory state ∧ ¬ Agrees memory addr words count)
        fun state => mayFail ∧ view.Holding begun state := by
    intro index offset here
    obtain ⟨rfl, begins⟩ := offsets_get positive here
    apply Triple.from_each
    rintro start ⟨holding, earlier⟩
    rw [Nat.min_eq_left begins.le] at earlier
    apply (burst_verified sound inside begins earlier).weaken
    · rintro state rfl
      exact holding
    · exact fun _ _ ended => ended
    · exact fun _ fails => fails
  apply (Triple.checked _ _ step).weaken
  · intro state holding
    refine ⟨holding, fun index impossible => ?_⟩
    omega
  · intro code state ended
    by_cases passed : code = 0
    · rw [if_pos passed, Nat.min_eq_right (offsets_reach positive)] at ended
      exact ⟨ended.1, fun _ => ended.2, fun _ => passed⟩
    · rw [if_neg passed] at ended
      exact ⟨ended.1, fun zero => absurd zero passed, fun agrees => absurd agrees ended.2⟩
  · exact fun _ fails => fails

/-- The processor has been let go once, on the memory with the image. -/
def Started (view : View State) (begun : List (Int → Nat)) (exact : Prop)
    (memory : Int → Nat) (addr : Int) (words : List Nat) (count : Nat) (state : State) : Prop :=
  ∃ found, view.Begun (begun ++ [found]) state ∧ Agrees found addr words count ∧
    (exact → found = store memory addr words)

/-- Behind the read-back the processor starts once, on the memory that has been read; an
exception leaves it either held as before or started on that memory. -/
theorem release_starts (sound : Sound view board mayFail exact) {args : LoaderArgs}
    (reset : args.noReset = false) :
    Triple (view.HoldingOn begun memory) (release board args)
      (fun code state => code = 0 ∧ view.Begun (begun ++ [memory]) state)
      fun state => mayFail ∧ (view.Begun begun state ∨ view.Begun (begun ++ [memory]) state) := by
  refine Triple.bind (?_ : Triple _ _ (fun _ => view.HoldingOn begun memory) _) ?_
  · apply Triple.only_if
    · intro _
      apply Triple.weaken (Triple.bind (sound.uart_attach begun memory) fun _ =>
        sound.clear_fifos 3 begun memory)
      · exact fun _ holds => holds
      · exact fun _ _ holds => holds
      · exact fun _ fails => ⟨fails.1, .inl fails.2.2⟩
    · exact fun _ _ holds => holds
  intro _
  rw [reset]
  apply Triple.bind (sound.lets_go begun memory)
  intro _
  refine Triple.bind (?_ : Triple _ _ (fun _ => view.Begun (begun ++ [memory])) _) ?_
  · apply Triple.only_if
    · intro _
      apply (sound.uart_monitor.begun _).weaken
      · exact fun _ holds => holds
      · exact fun _ _ holds => holds
      · exact fun _ fails => ⟨fails.1, .inr fails.2⟩
    · exact fun _ _ holds => holds
  intro _
  exact .value fun _ starts => ⟨rfl, starts⟩

/-- The body of the `try`: with the code 0 the processor has started on an agreeing memory, with
the code 1 it is held, and an exception leaves one of the two. -/
theorem session_ends (sound : Sound view board mayFail exact) {args : LoaderArgs}
    (reset : args.noReset = false) (words : List Nat) :
    Triple (view.HoldingOn begun memory) (session board args words)
      (fun code state =>
        code = 0 ∧ Started view begun exact memory args.addr words (args.verifyCount words) state ∨
          code = 1 ∧ ¬ exact ∧ view.Holding begun state)
      fun state => mayFail ∧ (view.Begun begun state ∨
        Started view begun exact memory args.addr words (args.verifyCount words) state) := by
  have positive : 0 < args.burst := by
    unfold LoaderArgs.burst
    omega
  have inside : args.verifyCount words ≤ words.length := by
    unfold LoaderArgs.verifyCount
    split
    · exact le_rfl
    · exact Nat.min_le_right _ _
  have held_back : ∀ state, mayFail ∧ view.Holding begun state → mayFail ∧
      (view.Begun begun state ∨
        Started view begun exact memory args.addr words (args.verifyCount words) state) :=
    fun _ fails => ⟨fails.1, .inl fails.2.2⟩
  apply Triple.bind ((image_written sound positive).weaken (fun _ holds => holds)
    (fun _ _ holds => holds) held_back)
  intro _
  apply Triple.from_each
  rintro written ⟨holding, image⟩
  have starts : ∀ state, state = written →
      view.HoldingOn begun (view.memory written) state := by
    rintro state rfl
    exact ⟨holding, rfl⟩
  apply Triple.bind ((range_verified sound positive inside).weaken starts
    (fun _ _ holds => holds) held_back)
  intro code
  by_cases passed : code = 0
  · rw [if_neg (not_not.mpr passed)]
    apply Triple.from_each
    rintro start ⟨ready, verified⟩
    have agrees := verified.mp passed
    apply (release_starts sound reset).weaken
    · rintro state rfl
      exact ready
    · rintro final state ⟨zero, starts⟩
      exact .inl ⟨zero, view.memory written, starts, agrees, image⟩
    · rintro state ⟨fails, before | starts⟩
      · exact ⟨fails, .inl before⟩
      · exact ⟨fails, .inr ⟨view.memory written, starts, agrees, image⟩⟩
  · rw [if_pos passed]
    apply Triple.value
    rintro state ⟨still, verified⟩
    refine .inr ⟨rfl, fun honest => passed (verified.mpr ?_), still.1⟩
    -- The memory of an exact board is the image, so nothing differs.
    intro index before
    have here : words[index]? = some words[index] := List.getElem?_eq_getElem _
    rw [here, image honest, store_inside memory args.addr here]

/-- The processor has been let go once, on a memory with the file. -/
def StartedOnFile (view : View State) (begun : List (Int → Nat)) (exact : Prop)
    (args : LoaderArgs) (raw : List Byte) (state : State) : Prop :=
  ∃ found, view.Begun (begun ++ [found]) state ∧
    ShowsFile found args.addr raw (args.verifyCount (wordsFromFile raw)) ∧
    (exact → ShowsFile found args.addr raw (wordsFromFile raw).length)

/-- Closing the bridge does not matter to a processor that runs: what was said of its start stays
true, whether `close` returns or raises. -/
theorem close_started (sound : Sound view board mayFail exact) {args : LoaderArgs}
    {raw : List Byte} {ended : State} {after raised : State → Prop}
    (started : Started view begun exact memory args.addr (wordsFromFile raw)
      (args.verifyCount (wordsFromFile raw)) ended)
    (closes : ∀ state, StartedOnFile view begun exact args raw state → after state)
    (fails : ∀ state, mayFail → StartedOnFile view begun exact args raw state → raised state) :
    Triple (fun state => state = ended) board.close (fun _ => after) raised := by
  obtain ⟨found, starts, agrees, image⟩ := started
  have shown : ShowsFile found args.addr raw (args.verifyCount (wordsFromFile raw)) := by
    apply shows_words
    intro index word inside here
    exact Option.some.inj ((agrees index inside).symm.trans here)
  have whole : exact → ShowsFile found args.addr raw (wordsFromFile raw).length := by
    intro honest
    apply shows_words
    intro index word _ here
    rw [image honest]
    exact store_inside memory args.addr here
  apply (sound.close.begun (begun ++ [found])).weaken
  · rintro state rfl
    exact starts
  · exact fun _ state runs => closes state ⟨found, runs, shown, whole⟩
  · exact fun state stops => fails state stops.1 ⟨found, stops.2, shown, whole⟩

/-- Whatever the board does beside what the script relies on: the processor is let go at most
once, and then it finds the words of the file that were read back, or every one of them on an
exact board; with code 1 it is still held. On an exact board whose operations do not fail, the
script ends with code 0.

Proof: the rules of the triple follow the script: opening, the optional bridge, the core, the
session and the closing. A failure before the release leaves the processor held or not begun, and
one behind it leaves the release that was made. -/
theorem load_image (sound : Sound view board mayFail exact) (args : LoaderArgs)
    (reset : args.noReset = false) (raw : List Byte) (begun : List (Int → Nat)) :
    Triple (view.Begun begun) (main board args (some raw))
      (fun code state => code = 0 ∧ StartedOnFile view begun exact args raw state ∨
        code = 1 ∧ ¬ exact ∧ view.Holding begun state)
      fun state => mayFail ∧
        (view.Begun begun state ∨ StartedOnFile view begun exact args raw state) := by
  have early : ∀ state, mayFail ∧ view.Begun begun state → mayFail ∧
      (view.Begun begun state ∨ StartedOnFile view begun exact args raw state) :=
    fun _ fails => ⟨fails.1, .inl fails.2⟩
  have later : ∀ state, mayFail ∧ view.Holding begun state → mayFail ∧
      (view.Begun begun state ∨ StartedOnFile view begun exact args raw state) :=
    fun _ fails => ⟨fails.1, .inl fails.2.2⟩
  apply Triple.bind ((sound.open_transport.begun begun).weaken (fun _ holds => holds)
    (fun _ _ holds => holds) early)
  intro _
  refine Triple.bind (?_ : Triple _ _ (fun _ => view.Holding begun) _) ?_
  · apply Triple.only_if
    · intro _
      apply Triple.weaken (Triple.bind (sound.eio_connect.begun begun) fun _ => sound.holds begun)
      · exact fun _ holds => holds
      · exact fun _ _ holds => holds
      · exact early
    · intro kept
      rw [reset] at kept
      cases kept
  intro _
  apply Triple.bind ((sound.axi_connect.holding begun).weaken (fun _ holds => holds)
    (fun _ _ holds => holds) later)
  intro _
  apply Triple.from_each
  intro start holding
  have begins : ∀ state, state = start → view.HoldingOn begun (view.memory start) state := by
    rintro state rfl
    exact ⟨holding, rfl⟩
  apply ((session_ends sound reset (wordsFromFile raw)).weaken begins (fun _ _ ends => ends)
    fun _ fails => fails).closed
  · intro code
    apply Triple.from_each
    rintro ended (⟨zero, starts⟩ | ⟨one, lossy, still⟩)
    · apply close_started sound starts
      · exact fun _ on_file => .inl ⟨zero, on_file⟩
      · exact fun _ fails on_file => ⟨fails, .inr on_file⟩
    · apply (sound.close.holding begun).weaken
      · rintro state rfl
        exact still
      · exact fun _ _ holds => .inr ⟨one, lossy, holds⟩
      · exact later
  · apply Triple.from_each
    rintro ended ⟨fails, before | starts⟩
    · apply (sound.close.begun begun).weaken
      · rintro state rfl
        exact before
      · exact fun _ _ holds => ⟨fails, .inl holds⟩
      · exact early
    · apply close_started sound starts
      · exact fun _ on_file => ⟨fails, .inr on_file⟩
      · exact fun _ _ on_file => ⟨fails, .inr on_file⟩

end Bridge

/-- A board with a memory that keeps what is written, and a processor. -/
structure Bench where
  memory : Int → Nat
  held : Bool
  starts : List (Int → Nat)

/-- What the statements look at in the simulated board: its memory, whether the processor is
held, and the memories it has started on. -/
def benchView : View Bench := ⟨Bench.memory, Bench.held, Bench.starts⟩

/-- A board that works, for the witness: bursts read and write a plain memory, and the output
pins hold the processor or let it go. -/
def benchBoard : Board Bench where
  openTransport := pure ()
  eioConnect := pure ()
  writeOutputs value := modify fun bench =>
    if value = 0 then { bench with held := false, starts := bench.starts ++ [bench.memory] }
    else { bench with held := true }
  axiConnect := pure ()
  burstWrite addr words := modify fun bench =>
    { bench with memory := store bench.memory addr words }
  burstRead addr count := do
    let bench ← get
    pure (load bench.memory addr count)
  axiWrite _ _ := pure ()
  uartAttach := pure ()
  uartMonitor := pure ()
  close := pure ()

/-- The simulated board meets the laws asked of a board, without any failure and with exact
writes, so the laws can be met. -/
theorem bench_sound : Sound benchView benchBoard False True := by
  have nothing : Alone benchView False (pure () : EStateM String Bench Unit) :=
    ⟨fun _ => .value fun _ holds => holds, fun _ => .value fun _ holds => holds⟩
  have still : Still benchView False (pure () : EStateM String Bench Unit) :=
    fun _ _ => .value fun _ holds => holds
  constructor
  · exact nothing
  · exact nothing
  · exact nothing
  · exact fun _ _ => ⟨fun _ _ holds => holds, fun _ _ holds => holds⟩
  · exact nothing
  · exact nothing
  · exact still
  · exact fun _ => still
  · rintro begun memory addr count bench ⟨holding, rfl⟩
    exact ⟨⟨holding, rfl⟩, rfl⟩
  · rintro - begun memory addr words bench ⟨holding, rfl⟩
    exact ⟨holding, rfl⟩
  · rintro begun bench rfl
    exact ⟨rfl, rfl⟩
  · rintro begun memory bench ⟨⟨-, rfl⟩, rfl⟩
    rfl

/-- The script ends with code 0 on it, and the processor starts on the five bytes. -/
theorem load_image_five :
    ∃ reached, main benchBoard ⟨0, 2, 0, false, true⟩ (some [1#8, 2#8, 3#8, 4#8, 5#8])
        ⟨fun _ => 0, false, []⟩ = .ok 0 reached ∧
      StartedOnFile benchView [] True ⟨0, 2, 0, false, true⟩ [1#8, 2#8, 3#8, 4#8, 5#8] reached := by
  have ends := load_image bench_sound ⟨0, 2, 0, false, true⟩ rfl
    [1#8, 2#8, 3#8, 4#8, 5#8] [] ⟨fun _ => 0, false, []⟩ rfl
  cases ended : main benchBoard ⟨0, 2, 0, false, true⟩ (some [1#8, 2#8, 3#8, 4#8, 5#8])
      ⟨fun _ => 0, false, []⟩ with
  | ok code reached =>
    rw [ended] at ends
    obtain ⟨rfl, started⟩ | ⟨-, lossy, -⟩ := ends
    · exact ⟨reached, rfl, started⟩
    · exact absurd trivial lossy
  | error fault reached =>
    rw [ended] at ends
    exact absurd ends.1 not_false

end EmaczZephyr.Tools
