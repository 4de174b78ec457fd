import EmaczZephyr.Foundation.Runs
import EmaczZephyr.Statistics.PerfStats

/-!
# Reading the sink block

The firmware's writers are serialised by `sink_stats_lock`. An update increments `sink_seq`,
makes its stores and increments `sink_seq` again; the stores are taken in any order, and every
other word changes at any time. The host copies the page in bursts of ascending words, reads
`sink_seq` once more, and tries again unless its copy of the word is even and unchanged.

`sink_seq` lies below the block, so the copy of it was made before the copy of the block.
-/

namespace EmaczZephyr.Statistics

open BigEndian Runs Seqlock

/-- `BURST`, the words that the reader fetches at a time. -/
def burst : Nat := 15

/-- `SEQ_RETRIES`, the attempts of the reader before it gives up. -/
def seqRetries : Nat := 8

/-- `to_bytes(4, "little")`: the bytes of a word, the lowest first. -/
def littleBytes (word : BitVec 32) : List Byte := (put32 word).reverse

/-- `data`: the words read, as the bytes that the script unpacks. -/
def pageData (chunks : List (BitVec 32)) : List Byte := chunks.flatMap littleBytes

/-- `struct.unpack_from("<I", data, offset)` of the reader: four bytes of what it has received,
the lowest first, whatever their place in the page. -/
def unpackWord (data : List Byte) (offset : Nat) : BitVec 32 :=
  get32 ((data.drop offset).take 4).reverse 0

/-- `struct.unpack_from("<Q", data, offset)` of the reader: eight bytes, the lowest first, so
that the low word is the one that was read earlier. -/
def unpackQuad (data : List Byte) (offset : Nat) : BitVec 64 :=
  unpackWord data (offset + 4) ++ unpackWord data offset

/-- One entry of `values`, by the type of its field. -/
def unpackField (data : List Byte) (field : String × FieldKind) : Nat :=
  match field.2 with
  | .u64 => (unpackQuad data (offsetOf field.1)).toNat
  | .u32 => (unpackWord data (offsetOf field.1)).toNat

/-- `values`: every field by its name, unpacked at its offset. -/
def values (chunks : List (BitVec 32)) : List (String × Nat) :=
  fields.map (fun field => (field.1, unpackField (pageData chunks) field))

/-- The value of a field in memory, as the firmware would read it. -/
def fieldValue (page : Page) (field : String × FieldKind) : Nat :=
  match field.2 with
  | .u64 => (load64 page field.1).toNat
  | .u32 => (load32 page field.1).toNat

/-- Program points of `read_stats`, with the words it has copied in the attempt. -/
inductive ReaderPoint where
  /-- Word `beat` of the burst from word `offset` is next. -/
  | read (offset beat : Nat) (chunks : List (BitVec 32))
  | reread (chunks : List (BitVec 32))
  | returned (chunks : List (BitVec 32))
  | raised
deriving DecidableEq

/-- The page, the stores that an update in progress has still to make, and the reader.
`finished` counts the updates finished since the attempt's first read. -/
structure SinkSystem where
  page : Page
  pending : Option (List Store)
  attempt : Nat
  reader : ReaderPoint
  finished : Nat

/-- An update of the block is in progress, between its two increments. -/
def SinkSystem.busy (system : SinkSystem) : Bool := system.pending.isSome

/-- An attempt has read its first word and not yet its last. -/
def SinkSystem.attempting (system : SinkSystem) : Bool :=
  match system.reader with
  | .read _ _ chunks => !chunks.isEmpty
  | .reread _ => true
  | _ => false

/-- `emaczero_perf_stats.sink_seq++`, as `sink_stats_begin` and `sink_stats_end` both do it: one
32-bit store, and the count wraps. -/
def incrementSeq (page : Page) : Page :=
  Function.update page (wordOf "sink_seq") (page (wordOf "sink_seq") + 1#32)

/-- The loop over the bursts: the next word of the burst, the first of the next burst, or
the end of the copy. -/
def afterWord (offset beat : Nat) (chunks : List (BitVec 32)) : ReaderPoint :=
  if beat + 1 < min burst (pageWords - offset) then .read offset (beat + 1) chunks
  else if offset + burst < pageWords then .read (offset + burst) 0 chunks
  else .reread chunks

/-- One read of `read_stats`, with what it does up to the next. -/
def readStats (system : SinkSystem) : Option SinkSystem :=
  match system.reader with
  | .read offset beat chunks =>
      some { system with
        reader := afterWord offset beat (chunks ++ [system.page (offset + beat)])
        finished := if chunks.isEmpty then 0 else system.finished }
  | .reread chunks =>
      let seqBefore := unpackWord (pageData chunks) (offsetOf "sink_seq")
      let seqAfter := system.page (wordOf "sink_seq")
      some
        (if seqBefore.toNat % 2 = 0 ∧ seqBefore = seqAfter then
          { system with reader := .returned chunks }
        else if system.attempt + 1 < seqRetries then
          { system with attempt := system.attempt + 1, reader := .read 0 0 [] }
        else { system with reader := .raised })
  | _ => none

/-- The words of the block, one or two for each field. -/
def sinkWords : List Nat :=
  sinkFields.flatMap (fun field =>
    match field.2 with
    | .u64 => [wordOf field.1, wordOf field.1 + 1]
    | .u32 => [wordOf field.1])

/-- A step of the whole system: the writer starts an update, makes any one of the stores that are
left, or ends it; the reader goes on with its loop. -/
inductive SinkLabel where
  /-- `sink_stats_begin` of an update. -/
  | begin (update : SinkUpdate)
  /-- One of the stores that are left. -/
  | store (position : Nat)
  /-- `sink_stats_end` -/
  | finish
  /-- Any other word changes. -/
  | other (index : Nat) (value : BitVec 32)
  | reader
deriving DecidableEq

/-- One step of a writer, of the rest of the firmware, or of the reader. -/
def sinkStep (system : SinkSystem) : SinkLabel → Option SinkSystem
  | .begin update =>
      match system.pending with
      | none => some { system with
          page := incrementSeq system.page
          pending := some (update.stores system.page) }
      | some _ => none
  | .store position =>
      match system.pending with
      | some stores =>
          match stores[position]? with
          | some store => some { system with
              page := Function.update system.page store.1 store.2
              pending := some (stores.eraseIdx position) }
          | none => none
      | none => none
  | .finish =>
      if system.pending = some [] then
        some { system with
          page := incrementSeq system.page
          pending := none
          finished := system.finished + 1 }
      else none
  | .other index value =>
      if index ∉ sinkWords ∧ index ≠ wordOf "sink_seq" then
        some { system with page := Function.update system.page index value }
      else none
  | .reader => readStats system

/-- The state in which `read_stats` is called, with no update in progress. -/
def sinkInitial (page : Page) : SinkSystem := ⟨page, none, 0, .read 0 0 [], 0⟩

/-- Fewer than 2^31 updates finish between the first and the last read of an attempt. -/
def FewUpdates (system : SinkSystem) (label : SinkLabel) : Prop :=
  label = .finish → system.attempting = true → system.finished + 1 < 2147483648

/-- Where the sequence word and the fields of the block are, and how long the page is. -/
theorem sink_offsets : offsetOf "sink_seq" = 512 ∧ pageWords = 264 ∧
    sinkFields.map (fun field => offsetOf field.1) =
      [520, 528, 536, 544, 552, 560, 568, 572, 576, 580, 584] := by
  decide +kernel

/-- The offset of a field of the block is one of eleven, as the layout places them. -/
theorem sink_offset_listed {field : String × FieldKind} (member : field ∈ sinkFields) :
    offsetOf field.1 ∈ [520, 528, 536, 544, 552, 560, 568, 572, 576, 580, 584] := by
  rw [← sink_offsets.2.2]
  exact List.mem_map_of_mem member

/-- The word of a field is its offset by four, which turns the table of the reader into indices
of the page. -/
theorem word_of_offset {name : String} {offset : Nat} (found : offsetOf name = offset) :
    wordOf name = offset / 4 := by
  rw [wordOf, found]

/-- The sequence word `sink_seq` is word 128 of the page, by its offset 512 in the table of the
reader. -/
theorem seq_word : wordOf "sink_seq" = 128 := word_of_offset sink_offsets.1

/-- `sink_seq` is below the block, and the block is on the page that the reader copies. The
offsets are listed, so this is a comparison of each. -/
theorem sink_words_placed : ∀ index ∈ sinkWords,
    wordOf "sink_seq" < index ∧ index < pageWords := by
  intro index member
  obtain ⟨field, inside, word⟩ := List.mem_flatMap.mp member
  have first : 130 ≤ wordOf field.1 ∧ wordOf field.1 ≤ 146 := by
    have all : ∀ offset ∈ [520, 528, 536, 544, 552, 560, 568, 572, 576, 580, 584],
        130 ≤ offset / 4 ∧ offset / 4 ≤ 146 := by decide
    exact all _ (sink_offset_listed inside)
  rw [seq_word, sink_offsets.2.1]
  split at word
  · obtain rfl | rfl : index = wordOf field.1 ∨ index = wordOf field.1 + 1 := by simpa using word
    all_goals omega
  · obtain rfl : index = wordOf field.1 := by simpa using word
    omega

/-- The sequence word and the block, as the general law of such locks has them. -/
def sinkLayout : Layout where
  seq := wordOf "sink_seq"
  block := fun index => index ∈ sinkWords
  outside := fun inside => absurd (sink_words_placed _ inside).1 (Nat.lt_irrefl _)

/-- The sequence word that the generic seqlock is used with is the one that the board increments,
by the definition of the layout. -/
theorem sink_layout_seq : sinkLayout.seq = wordOf "sink_seq" := rfl

/-- `sink_seq` and the fields of the block start at whole words, so offsets and words are the
same places. -/
theorem sink_offsets_aligned : offsetOf "sink_seq" = 4 * wordOf "sink_seq" ∧
    ∀ field ∈ sinkFields, offsetOf field.1 = 4 * wordOf field.1 := by
  constructor
  · rw [seq_word, sink_offsets.1]
  · intro field member
    have all : ∀ offset ∈ [520, 528, 536, 544, 552, 560, 568, 572, 576, 580, 584],
        offset = 4 * (offset / 4) := by decide
    exact all _ (sink_offset_listed member)

/-- A field of the block is the only one of its name, so looking its name up finds it. -/
theorem sink_fields_found : ∀ field ∈ sinkFields,
    fields.find? (fun other => other.1 == field.1) = some field := by
  decide +kernel

/-- The word of a 32-bit field of the block is a word of the block. -/
theorem word_inside {name : String} (member : (name, FieldKind.u32) ∈ sinkFields) :
    wordOf name ∈ sinkWords :=
  List.mem_flatMap.mpr ⟨_, member, List.mem_singleton_self _⟩

/-- Both words of a 64-bit field of the block are words of the block. -/
theorem quad_inside {name : String} (member : (name, FieldKind.u64) ∈ sinkFields) :
    wordOf name ∈ sinkWords ∧ wordOf name + 1 ∈ sinkWords :=
  ⟨List.mem_flatMap.mpr ⟨_, member, by simp⟩, List.mem_flatMap.mpr ⟨_, member, by simp⟩⟩

/-- Stores that stay inside the block, as those between the two increments must. -/
def InBlock (stores : List Store) : Prop := ∀ store ∈ stores, store.1 ∈ sinkWords

/-- Stores one behind the other stay inside the block of the sink when both parts do; the updates
are assembled from single fields by this. -/
theorem in_block_append {left right : List Store} (leftInside : InBlock left)
    (rightInside : InBlock right) : InBlock (left ++ right) := by
  intro store member
  exact (List.mem_append.mp member).elim (leftInside store) (rightInside store)

/-- A store to a 32-bit field of the block stays inside it, since the field's word lies between
the sequence word and the end of the block. -/
theorem store32_inside {name : String} (member : (name, FieldKind.u32) ∈ sinkFields)
    (value : BitVec 32) : InBlock (store32 name value) := by
  intro store here
  rw [List.mem_singleton.mp here]
  exact word_inside member

/-- The two stores to a 64-bit field of the block stay inside it, whichever of the halves comes
first. -/
theorem store64_inside {name : String} (member : (name, FieldKind.u64) ∈ sinkFields)
    (value : BitVec 64) : InBlock (store64 name value) := by
  intro store here
  rcases List.mem_cons.mp here with rfl | rest
  · exact (quad_inside member).1
  · rw [List.mem_singleton.mp rest]
    exact (quad_inside member).2

/-- Every update stores into the block only, whatever is on the page: each of its stores is to a
field of the block. -/
theorem update_inside (page : Page) (update : SinkUpdate) : InBlock (update.stores page) := by
  have nothing : InBlock [] := fun _ impossible => absurd impossible List.not_mem_nil
  cases update with
  | packet payloadLen now =>
    refine in_block_append (in_block_append (in_block_append (in_block_append ?_ ?_) ?_) ?_) ?_
    · split
      · exact store32_inside (by decide) _
      · exact nothing
    · exact store64_inside (by decide) _
    · exact store64_inside (by decide) _
    · exact store32_inside (by decide) _
    · exact store32_inside (by decide) _
  | error err =>
    refine in_block_append (in_block_append ?_ ?_) ?_
    · exact store64_inside (by decide) _
    · exact store32_inside (by decide) _
    · split
      · exact store64_inside (by decide) _
      · exact nothing
  | receive recvCycles =>
    refine in_block_append (in_block_append ?_ ?_) ?_
    · exact store64_inside (by decide) _
    · exact store64_inside (by decide) _
    · split
      · exact store32_inside (by decide) _
      · exact nothing

/-- A word that the reader receives is four bytes of its data, which is what makes a chunk of
words four times as long in bytes. -/
theorem little_length (word : BitVec 32) : (littleBytes word).length = 4 := by
  simp [littleBytes]

/-- The bytes from a word on are the bytes of the words from there on, since each word has four. -/
theorem page_data_drop (chunks : List (BitVec 32)) (index : Nat) :
    (pageData chunks).drop (4 * index) = pageData (chunks.drop index) := by
  induction index generalizing chunks with
  | zero => rfl
  | succ index inductionHypothesis =>
    cases chunks with
    | nil => simp [pageData]
    | cons first rest =>
      have bytes : pageData (first :: rest) = littleBytes first ++ pageData rest := rfl
      rw [bytes, Nat.mul_succ, Nat.add_comm, ← List.drop_drop,
        List.drop_left' (little_length first), inductionHypothesis, List.drop_succ_cons]

/-- Unpacking at the place of a word gives the word: its four bytes are taken in the order in
which they were laid down. -/
theorem unpack_word {chunks : List (BitVec 32)} {index : Nat} {word : BitVec 32}
    (here : chunks[index]? = some word) : unpackWord (pageData chunks) (4 * index) = word := by
  obtain ⟨inside, rfl⟩ := List.getElem?_eq_some_iff.mp here
  have bytes : pageData (chunks.drop index) =
      littleBytes chunks[index] ++ pageData (chunks.drop (index + 1)) := by
    rw [List.drop_eq_getElem_cons inside]
    rfl
  rw [unpackWord, page_data_drop, bytes, List.take_left' (little_length _), littleBytes,
    List.reverse_reverse, get32_put32]

/-- When the copy of the block is that of a page, so are the values. -/
theorem values_of_block {chunks : List (BitVec 32)} {page : Page}
    (copied : ∀ index ∈ sinkWords, chunks[index]? = some (page index)) :
    ∀ field ∈ sinkFields, (values chunks).lookup field.1 = some (fieldValue page field) := by
  intro field member
  have found := sink_fields_found field member
  have aligned := sink_offsets_aligned.2 field member
  have unpacked : unpackField (pageData chunks) field = fieldValue page field := by
    obtain ⟨name, kind⟩ := field
    cases kind with
    | u32 =>
      have word := unpack_word (copied _ (word_inside member))
      simp only [unpackField, fieldValue, load32, aligned, word]
    | u64 =>
      have low := unpack_word (copied _ (quad_inside member).1)
      have high := unpack_word (copied _ (quad_inside member).2)
      simp only [unpackField, fieldValue, load64, unpackQuad, aligned, low,
        show 4 * wordOf name + 4 = 4 * (wordOf name + 1) by omega, high]
  have mapped (rows : List (String × FieldKind)) :
      (rows.map (fun field => (field.1, unpackField (pageData chunks) field))).lookup field.1 =
        (rows.find? (fun other => other.1 == field.1)).map (unpackField (pageData chunks)) := by
    induction rows with
    | nil => rfl
    | cons first rest inductionHypothesis =>
      rw [List.map_cons, List.lookup_cons, List.find?_cons, inductionHypothesis,
        BEq.comm (a := field.1)]
      cases first.1 == field.1 <;> rfl
  rw [values, mapped, found, Option.map_some, unpacked]

/-- A step that is not the reader's moves the memory, leaves the reader and its attempt, and
counts the update it finishes. -/
theorem writer_step {before after : SinkSystem} {label : SinkLabel} (other : label ≠ .reader)
    (inside : ∀ stores, before.pending = some stores → InBlock stores)
    (taken : sinkStep before label = some after) :
    Move sinkLayout before.page before.busy after.busy after.page ∧
      after.reader = before.reader ∧ after.attempt = before.attempt ∧
      after.finished = before.finished + (before.busy && !after.busy).toNat ∧
      (after.finished = before.finished ∨ label = .finish) ∧
      (∀ stores, after.pending = some stores → InBlock stores) := by
  cases label with
  | begin update =>
    cases idle : before.pending with
    | some stores => simp [sinkStep, idle] at taken
    | none =>
      simp only [sinkStep, idle, Option.some.injEq] at taken
      subst taken
      refine ⟨?_, rfl, rfl, ?_, .inl rfl, ?_⟩
      · rw [SinkSystem.busy, idle]
        exact .begin
      · simp [SinkSystem.busy]
      · intro stores same
        exact Option.some.inj same ▸ update_inside before.page update
  | store position =>
    cases pending : before.pending with
    | none => simp [sinkStep, pending] at taken
    | some stores =>
      cases here : stores[position]? with
      | none => simp [sinkStep, pending, here] at taken
      | some store =>
        simp only [sinkStep, pending, here, Option.some.injEq] at taken
        subst taken
        have all_inside := inside stores pending
        refine ⟨?_, rfl, rfl, ?_, .inl rfl, ?_⟩
        · rw [SinkSystem.busy, pending]
          exact .store store.1 store.2 (all_inside store (List.mem_of_getElem? here))
        · simp [SinkSystem.busy]
        · intro left same
          obtain rfl := Option.some.inj same
          exact fun store member => all_inside store (List.mem_of_mem_eraseIdx member)
  | finish =>
    simp only [sinkStep] at taken
    split at taken
    · rename_i done
      obtain rfl := Option.some.inj taken
      refine ⟨?_, rfl, rfl, ?_, .inr rfl, fun _ impossible => nomatch impossible⟩
      · rw [SinkSystem.busy, done]
        exact .finish
      · simp [SinkSystem.busy, done]
    · cases taken
  | other index value =>
    simp only [sinkStep] at taken
    split at taken
    · rename_i outside
      obtain rfl := Option.some.inj taken
      refine ⟨.other _ index value outside.1 outside.2, rfl, rfl, ?_, .inl rfl, inside⟩
      cases busy : before.busy <;> simp_all [SinkSystem.busy]
    · cases taken
  | reader => exact absurd rfl other

section Reader

variable (start : SinkSystem)

/-- An instant of the run, inside the present attempt, at which no update was in progress. -/
structure Instant (system anchor : SinkSystem) : Prop where
  reached : Run sinkStep FewUpdates start anchor
  onward : Run sinkStep FewUpdates anchor system
  idle : anchor.pending = none
  under_way : anchor.attempting = true
  attempt : anchor.attempt = system.attempt

/-- The reader's copy follows an instant: it has the sequence word of that instant, and as
long as no update has begun since, also the block of it. -/
structure Follows (system : SinkSystem) (chunks : List (BitVec 32)) (anchor : SinkSystem)
    (since : Nat) : Prop where
  instant : Instant start system anchor
  seq : chunks[wordOf "sink_seq"]? = some (anchor.page (wordOf "sink_seq"))
  few : since ≤ system.finished
  memory : Since sinkLayout anchor.page system.page system.busy since
  copied : since = 0 → system.busy = false → ∀ index ∈ sinkWords, ∀ word,
    chunks[index]? = some word → word = anchor.page index

/-- A copy with an even sequence word follows an instant. -/
def Observed (system : SinkSystem) (chunks : List (BitVec 32)) : Prop :=
  ∀ value, chunks[wordOf "sink_seq"]? = some value → value.toNat % 2 = 0 →
    ∃ anchor since, Follows start system chunks anchor since

/-- What the reader knows at each of its points: how many words it has, and what they were at
some instant of the attempt, unless an update has touched the block since. -/
def ReaderFacts (system : SinkSystem) : Prop :=
  match system.reader with
  | .read offset beat chunks => chunks.length = offset + beat ∧
      beat < min burst (pageWords - offset) ∧ Observed start system chunks
  | .reread chunks => chunks.length = pageWords ∧ Observed start system chunks
  | .returned chunks => ∃ anchor, Instant start system anchor ∧
      ∀ index ∈ sinkWords, chunks[index]? = some (anchor.page index)
  | .raised => True

/-- What holds in every state of a run: the sequence word's parity, pending stores inside the
block, and what the reader knows. -/
structure SinkInvariant (system : SinkSystem) : Prop where
  reached : Run sinkStep FewUpdates start system
  parity : Parity sinkLayout system.page system.busy
  inside : ∀ stores, system.pending = some stores → InBlock stores
  few : system.attempting = true → system.finished < 2147483648
  reader : ReaderFacts start system

variable {start} {before after : SinkSystem} {label : SinkLabel} {chunks : List (BitVec 32)}

/-- An instant stays one as long as the attempt goes on, because the run from it is one step
longer. -/
theorem Instant.later {anchor : SinkSystem} (instant : Instant start before anchor)
    (admits : FewUpdates before label) (taken : sinkStep before label = some after)
    (same : after.attempt = before.attempt) : Instant start after anchor :=
  ⟨instant.reached, .step instant.onward admits taken, instant.idle, instant.under_way,
    instant.attempt.trans same.symm⟩

/-- The steps of the writer keep what the reader has observed. A move either leaves the block, or
finishes an update, which the sequence word will show. -/
theorem Observed.writer (observed : Observed start before chunks)
    (admits : FewUpdates before label) (taken : sinkStep before label = some after)
    (move : Move sinkLayout before.page before.busy after.busy after.page)
    (attempt : after.attempt = before.attempt)
    (finished : after.finished = before.finished + (before.busy && !after.busy).toNat) :
    Observed start after chunks := by
  intro value here even
  obtain ⟨anchor, since, follows⟩ := observed value here even
  have few := follows.few
  refine ⟨anchor, _, follows.instant.later admits taken attempt, follows.seq, ?_,
    follows.memory.move move, ?_⟩
  · rw [finished]
    omega
  · intro none idle
    have earlier : since = 0 := by omega
    have borders : (before.busy && !after.busy).toNat = 0 := by omega
    have idle_before : before.busy = false := by
      cases busy : before.busy with
      | false => rfl
      | true => simp [busy, idle] at borders
    exact follows.copied earlier idle_before

/-- Reading the next word keeps what was observed, and starts to follow at the sequence
word. -/
theorem Observed.read (observed : Observed start before chunks)
    (invariant : SinkInvariant start before) (admits : FewUpdates before label)
    (taken : sinkStep before label = some after) (page : after.page = before.page)
    (pending : after.pending = before.pending) (attempt : after.attempt = before.attempt)
    (under_way : chunks ≠ [] → before.attempting = true)
    (finished : chunks ≠ [] → after.finished = before.finished) :
    Observed start after (chunks ++ [before.page chunks.length]) := by
  have busy : after.busy = before.busy := congrArg Option.isSome pending
  intro value here even
  rcases Nat.lt_trichotomy (wordOf "sink_seq") chunks.length with copied | next | ahead
  · -- The word was copied before; the new word may be one of the block.
    rw [List.getElem?_append_left copied] at here
    obtain ⟨anchor, since, follows⟩ := observed value here even
    have nonempty : chunks ≠ [] := List.length_pos_iff.mp (by omega)
    refine ⟨anchor, since, follows.instant.later admits taken attempt, ?_, ?_, ?_, ?_⟩
    · rw [List.getElem?_append_left copied, follows.seq]
    · rw [finished nonempty]
      exact follows.few
    · rw [page, busy]
      exact follows.memory
    · intro none idle index inside word found
      rw [busy] at idle
      rcases Nat.lt_trichotomy index chunks.length with early | at_end | beyond
      · rw [List.getElem?_append_left early] at found
        exact follows.copied none idle index inside word found
      · rw [at_end, List.getElem?_concat_length] at found
        rw [← Option.some.inj found, ← at_end]
        exact follows.memory.still none idle index inside
      · rw [List.getElem?_eq_none (by simp; omega)] at found
        cases found
  · -- An even sequence word is read while no update is in progress.
    rw [next, List.getElem?_concat_length] at here
    have parity := invariant.parity
    have same : value = before.page (wordOf "sink_seq") := by
      rw [next]
      exact (Option.some.inj here).symm
    have idle : before.busy = false := by
      cases busy : before.busy with
      | false => rfl
      | true =>
        rw [busy, Parity, Bool.toNat_true] at parity
        rw [same] at even
        exact absurd (even.symm.trans parity) (by decide)
    have resting : before.pending = none := by simpa [SinkSystem.busy] using idle
    have some_words : 0 < wordOf "sink_seq" := by
      rw [seq_word]
      decide
    have reading := under_way (List.length_pos_iff.mp (next ▸ some_words))
    have instant : Instant start after before :=
      ⟨invariant.reached, .step .rest admits taken, resting, reading, attempt.symm⟩
    refine ⟨before, 0, instant, ?_, Nat.zero_le _, ?_, ?_⟩
    · rw [next, List.getElem?_concat_length]
    · rw [page, busy, idle]
      exact Since.start sinkLayout before.page
    · intro _ _ index inside word found
      have above := (sink_words_placed index inside).1
      rw [List.getElem?_eq_none (by simp; omega)] at found
      cases found
  · rw [List.getElem?_eq_none (by simp; omega)] at here
    cases here

/-- An accepted copy is the block of an instant. Its sequence word is even and has not changed,
and fewer than `2 ^ 31` updates cannot bring it round. -/
theorem Observed.accept (observed : Observed start before chunks)
    (whole : chunks.length = pageWords) (few : before.finished < 2147483648)
    (even : (unpackWord (pageData chunks) (offsetOf "sink_seq")).toNat % 2 = 0)
    (unchanged : unpackWord (pageData chunks) (offsetOf "sink_seq") =
      before.page (wordOf "sink_seq")) :
    ∃ anchor, Instant start before anchor ∧
      ∀ index ∈ sinkWords, chunks[index]? = some (anchor.page index) := by
  have first_sink : wordOf "sink_packets" ∈ sinkWords := (quad_inside (by decide)).1
  have placed := sink_words_placed _ first_sink
  have seq_here : chunks[wordOf "sink_seq"]? = some chunks[wordOf "sink_seq"] :=
    List.getElem?_eq_getElem (by omega)
  rw [sink_offsets_aligned.1, unpack_word seq_here] at even unchanged
  obtain ⟨anchor, since, follows⟩ := observed _ seq_here even
  have same : before.page sinkLayout.seq = anchor.page sinkLayout.seq := by
    rw [sink_layout_seq, ← unchanged]
    exact Option.some.inj (seq_here.symm.trans follows.seq)
  have bound := follows.few
  obtain ⟨none, idle⟩ := follows.memory.unchanged (by omega) same
  refine ⟨anchor, follows.instant, ?_⟩
  intro index inside
  have near := (sink_words_placed index inside).2
  have here : chunks[index]? = some chunks[index] := List.getElem?_eq_getElem (by omega)
  rw [here, follows.copied none idle index inside _ here]

/-- The loop over the bursts goes on at the next word of the page, and ends behind its last. -/
theorem after_word_facts {offset beat : Nat} (length : chunks.length = offset + beat + 1)
    (inside : beat < min burst (pageWords - offset))
    (next : after.reader = afterWord offset beat chunks) (observed : Observed start after chunks) :
    ReaderFacts start after := by
  unfold ReaderFacts
  rw [next]
  unfold afterWord
  by_cases in_burst : beat + 1 < min burst (pageWords - offset)
  · rw [if_pos in_burst]
    exact ⟨length, in_burst, observed⟩
  · rw [if_neg in_burst]
    by_cases more : offset + burst < pageWords
    · rw [if_pos more]
      have positive : 0 < burst := by decide
      exact ⟨by omega, by omega, observed⟩
    · rw [if_neg more]
      exact ⟨by omega, observed⟩

/-- Reading one word of the page keeps the invariant: the word joins the chunk, and the
observation of the generic seqlock grows by the same word at the same moment. -/
theorem read_step_invariant {offset beat : Nat} (invariant : SinkInvariant start before)
    (admits : FewUpdates before .reader) (taken : sinkStep before .reader = some after)
    (point : before.reader = .read offset beat chunks) : SinkInvariant start after := by
  have facts := invariant.reader
  rw [ReaderFacts, point] at facts
  obtain ⟨length, inside, observed⟩ := facts
  obtain ⟨page, pending, attempt, counted, next⟩ : after.page = before.page ∧
      after.pending = before.pending ∧ after.attempt = before.attempt ∧
      after.finished = (if chunks.isEmpty then 0 else before.finished) ∧
      after.reader = afterWord offset beat (chunks ++ [before.page (offset + beat)]) := by
    have stepped : readStats before = some after := taken
    simp only [readStats, point] at stepped
    rw [← Option.some.inj stepped]
    exact ⟨rfl, rfl, rfl, rfl, rfl⟩
  have under_way (nonempty : chunks ≠ []) : before.attempting = true := by
    simpa [SinkSystem.attempting, point] using nonempty
  have kept (nonempty : chunks ≠ []) : after.finished = before.finished := by
    rw [counted, if_neg (by simpa using nonempty)]
  have read := observed.read invariant admits taken page pending attempt under_way kept
  rw [length] at read
  have busy : after.busy = before.busy := congrArg Option.isSome pending
  refine ⟨.step invariant.reached admits taken, ?_, ?_, ?_, ?_⟩
  · rw [page, busy]
    exact invariant.parity
  · rw [pending]
    exact invariant.inside
  · intro _
    rw [counted]
    split
    · decide
    · rename_i nonempty
      exact invariant.few (under_way (by simpa using nonempty))
  · exact after_word_facts (by simp [length]) inside next read

/-- The last read of an attempt keeps the invariant: the copy is accepted, or forgotten. -/
theorem reread_step_invariant (invariant : SinkInvariant start before)
    (admits : FewUpdates before .reader) (taken : sinkStep before .reader = some after)
    (point : before.reader = .reread chunks) : SinkInvariant start after := by
  have reached : Run sinkStep FewUpdates start after := .step invariant.reached admits taken
  have facts := invariant.reader
  rw [ReaderFacts, point] at facts
  obtain ⟨length, observed⟩ := facts
  have few := invariant.few (by simp [SinkSystem.attempting, point])
  have stepped : readStats before = some after := taken
  simp only [readStats, point] at stepped
  split at stepped
  · rename_i accepted
    obtain rfl := Option.some.inj stepped
    obtain ⟨anchor, instant, copied⟩ := observed.accept length few accepted.1 accepted.2
    refine ⟨reached, invariant.parity, invariant.inside,
      (fun impossible => nomatch impossible), ?_⟩
    exact ⟨anchor, instant.later admits taken rfl, copied⟩
  · split at stepped
    · obtain rfl := Option.some.inj stepped
      have some_words : 0 < min burst (pageWords - 0) := by
        rw [sink_offsets.2.1]
        decide
      refine ⟨reached, invariant.parity, invariant.inside,
        (fun impossible => nomatch impossible), ?_⟩
      exact ⟨rfl, some_words, fun _ impossible => nomatch impossible⟩
    · obtain rfl := Option.some.inj stepped
      exact ⟨reached, invariant.parity, invariant.inside, (fun impossible => nomatch impossible),
        trivial⟩

/-- The reader's own steps keep the invariant. The cases are its program points: reading a word,
comparing the two sequence words, and trying again. -/
theorem reader_step_invariant (invariant : SinkInvariant start before)
    (admits : FewUpdates before .reader) (taken : sinkStep before .reader = some after) :
    SinkInvariant start after := by
  have stepped : readStats before = some after := taken
  cases point : before.reader with
  | read offset beat chunks => exact read_step_invariant invariant admits taken point
  | reread chunks => exact reread_step_invariant invariant admits taken point
  | returned chunks => simp [readStats, point] at stepped
  | raised => simp [readStats, point] at stepped

/-- Every step keeps the invariant: the reader's by the lemma above, the writer's because they
are steps of the generic writer that leave the reader where it is. -/
theorem sink_step_invariant (invariant : SinkInvariant start before)
    (admits : FewUpdates before label) (taken : sinkStep before label = some after) :
    SinkInvariant start after := by
  by_cases reader : label = .reader
  · subst reader
    exact reader_step_invariant invariant admits taken
  · obtain ⟨move, same, attempt, finished, border, inside⟩ :=
      writer_step reader invariant.inside taken
    have attempting : after.attempting = before.attempting := by
      simp only [SinkSystem.attempting, same]
    refine ⟨.step invariant.reached admits taken, move.parity (by decide) invariant.parity, inside,
      ?_, ?_⟩
    · intro under_way
      rw [attempting] at under_way
      rcases border with unfinished | finishes
      · rw [unfinished]
        exact invariant.few under_way
      · have few := admits finishes under_way
        have one : (before.busy && !after.busy).toNat ≤ 1 := Bool.toNat_le _
        omega
    · have facts := invariant.reader
      unfold ReaderFacts at facts ⊢
      rw [same]
      cases point : before.reader with
      | read offset beat chunks =>
        simp only [point] at facts
        exact ⟨facts.1, facts.2.1, facts.2.2.writer admits taken move attempt finished⟩
      | reread chunks =>
        simp only [point] at facts
        exact ⟨facts.1, facts.2.writer admits taken move attempt finished⟩
      | returned chunks =>
        simp only [point] at facts
        obtain ⟨anchor, instant, copied⟩ := facts
        exact ⟨anchor, instant.later admits taken attempt, copied⟩
      | raised => trivial

/-- The invariant holds when `read_stats` is called on a page with an even sequence word, with
nothing read and no update begun. -/
theorem sink_initial {page : Page} (even : (page (wordOf "sink_seq")).toNat % 2 = 0) :
    SinkInvariant (sinkInitial page) (sinkInitial page) where
  reached := .rest
  parity := even
  inside := fun _ impossible => nomatch impossible
  few := fun impossible => nomatch impossible
  reader := ⟨rfl, by rw [sink_offsets.2.1]; decide, fun _ impossible => nomatch impossible⟩

end Reader

/-- Whenever `read_stats` returns, in any interleaving with the writers in which fewer than 2^31
updates finish during an attempt: the values it returns for the fields of the block are those of
one instant inside its last attempt at which no update was in progress.

Proof: the reader's copy follows an instant of its attempt at which no update was in progress,
and is the block of that instant as long as none has begun since. An equal sequence word at
the end excludes one, as fewer than 2^31 updates are finished meanwhile. -/
theorem sink_values_consistent (page : Page)
    (even : (page (wordOf "sink_seq")).toNat % 2 = 0) (system : SinkSystem)
    (run : Run sinkStep FewUpdates (sinkInitial page) system) (chunks : List (BitVec 32))
    (returned : system.reader = .returned chunks) :
    ∃ anchor, Run sinkStep FewUpdates (sinkInitial page) anchor ∧
      Run sinkStep FewUpdates anchor system ∧ anchor.pending = none ∧
      (anchor.attempting = true ∧ anchor.attempt = system.attempt) ∧
      ∀ field ∈ sinkFields,
        (values chunks).lookup field.1 = some (fieldValue anchor.page field) := by
  have invariant : SinkInvariant (sinkInitial page) system :=
    run.invariant (SinkInvariant (sinkInitial page)) (sink_initial even)
      (fun _ _ _ kept admits taken => sink_step_invariant kept admits taken)
  have facts := invariant.reader
  rw [ReaderFacts, returned] at facts
  obtain ⟨anchor, instant, copied⟩ := facts
  exact ⟨anchor, instant.reached, instant.onward, instant.idle,
    ⟨instant.under_way, instant.attempt⟩, values_of_block copied⟩

/-- The admission of labels as a test, for runs on concrete pages: an update may end during an
attempt only while fewer than 2^31 have ended in it. -/
def fewUpdates (system : SinkSystem) (label : SinkLabel) : Bool :=
  label != .finish || !system.attempting || decide (system.finished + 1 < 2147483648)

/-- The reader has returned from its second attempt, as a test; the witness uses it to show that
an update really came between. -/
def returnedOnRetry (system : SinkSystem) : Bool :=
  match system.reader with
  | .returned _ => system.attempt == 1
  | _ => false

/-- A system that passes the test is one whose reader has returned its chunks, and in its second
attempt. -/
theorem returned_on_retry {system : SinkSystem} (tested : returnedOnRetry system = true) :
    ∃ chunks, system.reader = .returned chunks ∧ system.attempt = 1 := by
  unfold returnedOnRetry at tested
  split at tested
  · rename_i chunks point
    exact ⟨chunks, point, beq_iff_eq.mp tested⟩
  · cases tested

/-- A packet is accounted between the copy of `sink_seq` and the copy of the block: the first
attempt fails and the second returns. -/
theorem sink_values_consistent_retried :
    ∃ (system anchor : SinkSystem) (chunks : List (BitVec 32)),
      Run sinkStep FewUpdates (sinkInitial fun _ => 0#32) system ∧ system.attempt = 1 ∧
        system.reader = .returned chunks ∧ anchor.pending = none ∧
        ∀ field ∈ sinkFields,
          (values chunks).lookup field.1 = some (fieldValue anchor.page field) := by
  have sound : ∀ system label, fewUpdates system label = true → FewUpdates system label := by
    intro system label admits finishes under_way
    simpa [fewUpdates, finishes, under_way] using admits
  obtain ⟨system, run, tested⟩ := run_of_execution sinkStep fewUpdates
    (sinkInitial fun _ => 0#32)
    (List.replicate 130 .reader ++ [.begin (.packet 100#32 7#32)] ++
      List.replicate 7 (.store 0) ++ [.finish] ++ List.replicate 400 .reader)
    returnedOnRetry sound (by decide +kernel)
  obtain ⟨chunks, point, retried⟩ := returned_on_retry tested
  have even : (0#32).toNat % 2 = 0 := by decide
  obtain ⟨anchor, -, -, idle, -, same⟩ :=
    sink_values_consistent (fun _ => 0#32) even system run chunks point
  exact ⟨system, anchor, chunks, run, retried, point, idle, same⟩

end EmaczZephyr.Statistics
