import EmaczZephyr.Foundation.Printf
import EmaczZephyr.Foundation.PythonText

/-!
# The snapshots of the control port

The control thread formats counters into a buffer of its own and sends as many bytes as the
formatter says the text has. The host's stress test reads the acceptance snapshot back. The
buffer of the profile snapshot has room for every value of its counters; the buffer of the
acceptance snapshot does not.
-/

namespace EmaczZephyr.Application

open BigEndian Printf PythonText

/-- What `format_profile_snapshot` reads: fields of the profile, and two registers. -/
structure ProfileCounters where
  mode : BitVec 32
  cyclesPerSec : BitVec 32
  rxFrameCnt : BitVec 32
  rxByteCnt : BitVec 32
  dmaCallbacks : BitVec 64
  rxWorkerPackets : BitVec 64
  rxZeroCopySubmit : BitVec 64
  rxCopySubmit : BitVec 64
  dmaDropAfterDma : BitVec 64
  rxDropAfterPkt : BitVec 64
  rxNetRecvFail : BitVec 64
  rxRefillNoFree : BitVec 64
  dmaCbCyclesTotal : BitVec 64
  rxBuildCyclesTotal : BitVec 64
  netRecvCyclesTotal : BitVec 64
  bufferLifetimeCyclesTotal : BitVec 64
  bufferLifetimeSamples : BitVec 64
  rxMaxDmaInflight : BitVec 32
  rxMaxStackOwned : BitVec 32
  rxMinFree : BitVec 32

/-- The format string of `format_profile_snapshot` in pieces: the literal labels as they stand in
the source, and the conversions between them. -/
def profileFormat : List Piece :=
  [.literal "mode=", .u, .literal " hz=", .u, .literal " mac_rx=", .u, .literal " mac_bytes=", .u,
    .literal " dma=", .llu, .literal " work=", .llu, .literal " zc=", .llu, .literal " copy=", .llu,
    .literal " drop_dma=", .llu, .literal " drop_pkt=", .llu, .literal " fail=", .llu,
    .literal " nofree=", .llu, .literal " dma_cyc=", .llu, .literal " build_cyc=", .llu,
    .literal " net_cyc=", .llu, .literal " life_cyc=", .llu, .literal " life_n=", .llu,
    .literal " max_inflight=", .u, .literal " max_stack=", .u, .literal " min_free=", .u,
    .literal "\r\n"]

/-- The arguments of `format_profile_snapshot`, in the order of the call and each with the width
that its conversion reads. -/
def profileArguments (s : ProfileCounters) : List Argument :=
  [.word s.mode, .word s.cyclesPerSec, .word s.rxFrameCnt, .word s.rxByteCnt,
    .quad s.dmaCallbacks, .quad s.rxWorkerPackets, .quad s.rxZeroCopySubmit, .quad s.rxCopySubmit,
    .quad s.dmaDropAfterDma, .quad s.rxDropAfterPkt, .quad s.rxNetRecvFail, .quad s.rxRefillNoFree,
    .quad s.dmaCbCyclesTotal, .quad s.rxBuildCyclesTotal, .quad s.netRecvCyclesTotal,
    .quad s.bufferLifetimeCyclesTotal, .quad s.bufferLifetimeSamples, .word s.rxMaxDmaInflight,
    .word s.rxMaxStackOwned,
    .word (if s.rxMinFree = BitVec.allOnes 32 then 0#32 else s.rxMinFree)]

/-- `format_profile_snapshot`: the profile counters printed into a buffer of `len` bytes, and the
length `snprintk` returns. -/
def formatProfileSnapshot (s : ProfileCounters) (len : Nat) : Option Formatted :=
  snprintk len profileFormat (profileArguments s)

/-- What `format_acceptance_snapshot` reads: the uptime, fields of `emaczero_perf_stats` in their
own widths, and five registers of the MAC and of the gate. -/
structure AcceptanceCounters where
  uptimeMs : BitVec 32
  sinkPackets : BitVec 64
  sinkBytes : BitVec 64
  sinkRecvErrors : BitVec 64
  rxFrameCnt : BitVec 32
  rxErrCnt : BitVec 32
  gateDroppedBadFrames : BitVec 32
  gateDroppedOverflowFrames : BitVec 32
  gateDrainTreadyLowCycles : BitVec 32
  dmaCallbacks : BitVec 64
  dmaErrors : BitVec 64
  rxBdErrors : BitVec 32
  rxInvalid : BitVec 64
  rxAllocPktFail : BitVec 64
  rxAllocFragFail : BitVec 64
  rxAllocPktZcFail : BitVec 64
  rxAllocPktCopyFail : BitVec 64
  rxNetRecvFail : BitVec 64
  rxRefillNoFree : BitVec 64

/-- `alloc_fail` of `format_acceptance_snapshot`: the sum of the four allocation failures of the
receive worker, modulo 2^64. -/
def AcceptanceCounters.allocFail (s : AcceptanceCounters) : BitVec 64 :=
  s.rxAllocPktFail + s.rxAllocFragFail + s.rxAllocPktZcFail + s.rxAllocPktCopyFail

/-- The format string of `format_acceptance_snapshot` in pieces: sixteen labels with their
conversions, and a line break behind the last. -/
def acceptanceFormat : List Piece :=
  [.literal "magic=EZRX uptime=", .u, .literal " sink_p=", .llu, .literal " sink_b=", .llu,
    .literal " sink_err=", .llu, .literal " mac_rx=", .u, .literal " mac_err=", .u,
    .literal " gate_bad=", .u, .literal " gate_ovf=", .u, .literal " tready=", .u,
    .literal " dma=", .llu, .literal " dma_err=", .llu, .literal " bd_err=", .u,
    .literal " invalid=", .llu, .literal " alloc=", .llu, .literal " recv_fail=", .llu,
    .literal " nofree=", .llu, .literal "\r\n"]

/-- The arguments of `format_acceptance_snapshot`, in the order of the call and each with the
width that its conversion reads. -/
def acceptanceArguments (s : AcceptanceCounters) : List Argument :=
  [.word s.uptimeMs, .quad s.sinkPackets, .quad s.sinkBytes, .quad s.sinkRecvErrors,
    .word s.rxFrameCnt, .word s.rxErrCnt, .word s.gateDroppedBadFrames,
    .word s.gateDroppedOverflowFrames, .word s.gateDrainTreadyLowCycles, .quad s.dmaCallbacks,
    .quad s.dmaErrors, .word s.rxBdErrors, .quad s.rxInvalid, .quad s.allocFail,
    .quad s.rxNetRecvFail, .quad s.rxRefillNoFree]

/-- `format_acceptance_snapshot`: the acceptance counters printed into a buffer of `len` bytes,
and the length `snprintk` returns. -/
def formatAcceptanceSnapshot (s : AcceptanceCounters) (len : Nat) : Option Formatted :=
  snprintk len acceptanceFormat (acceptanceArguments s)

/-- The size of the array `reply` in the branch for the command `s`, which the profile snapshot
is printed into. -/
def profileReplySize : Nat := 512
/-- The size of the array `reply` in the branch for the command `a`, which the acceptance
snapshot is printed into. -/
def acceptanceReplySize : Nat := 384

/-- A value of the dictionary that the host builds: the text of the identity, or the number of a
counter. -/
inductive SnapshotValue where
  | text (value : List Char)
  | number (value : Int)
deriving DecidableEq

/-- `ERROR_COUNTERS` of the host tool: the counters that an acceptance run compares with zero. -/
def errorCounters : List (List Char) :=
  ["sink_err".toList, "mac_err".toList, "gate_bad".toList, "gate_ovf".toList, "tready".toList,
    "dma_err".toList, "bd_err".toList, "invalid".toList, "alloc".toList, "recv_fail".toList,
    "nofree".toList]

/-- `required` of `parse_snapshot`: the names without which the host rejects a snapshot, in the
order of the source. -/
def required : List (List Char) :=
  ["uptime".toList, "sink_p".toList, "sink_b".toList, "mac_rx".toList, "dma".toList] ++
    errorCounters

/-- The loop of `parse_snapshot` over the items of the text. An item without `=` and a value that
is no number raise, which is `none` here. -/
def parseItems : List (List Char) → Dict SnapshotValue → Option (Dict SnapshotValue)
  | [], fields => some fields
  | item :: rest, fields => do
      let (name, value) ← splitOnce '=' item
      if name = "magic".toList then parseItems rest (store name (.text value) fields)
      else
        let number ← readInt value
        parseItems rest (store name (.number number) fields)

/-- `parse_snapshot`: decode, split at white space, read the items, and check the identity and
the required names; an exception is `none`. -/
def parseSnapshot (data : List Byte) : Option (Dict SnapshotValue) := do
  let text ← decodeAscii data
  let fields ← parseItems (splitWords text) []
  if fields.lookup "magic".toList ≠ some (.text "EZRX".toList) then none
  else if ∃ name ∈ required, name ∉ fields.map Prod.fst then none
  else some fields

/-- The counters by the names that the text gives them. -/
def acceptanceFields (s : AcceptanceCounters) : List (List Char × Nat) :=
  [("uptime".toList, s.uptimeMs.toNat), ("sink_p".toList, s.sinkPackets.toNat),
    ("sink_b".toList, s.sinkBytes.toNat), ("sink_err".toList, s.sinkRecvErrors.toNat),
    ("mac_rx".toList, s.rxFrameCnt.toNat), ("mac_err".toList, s.rxErrCnt.toNat),
    ("gate_bad".toList, s.gateDroppedBadFrames.toNat),
    ("gate_ovf".toList, s.gateDroppedOverflowFrames.toNat),
    ("tready".toList, s.gateDrainTreadyLowCycles.toNat), ("dma".toList, s.dmaCallbacks.toNat),
    ("dma_err".toList, s.dmaErrors.toNat), ("bd_err".toList, s.rxBdErrors.toNat),
    ("invalid".toList, s.rxInvalid.toNat), ("alloc".toList, s.allocFail.toNat),
    ("recv_fail".toList, s.rxNetRecvFail.toNat), ("nofree".toList, s.rxRefillNoFree.toNat)]

/-- One word of the snapshot: the name of a counter, an equals sign and the value in decimal
digits. -/
def item (field : List Char × Nat) : List Char := field.1 ++ '=' :: decimal field.2

/-- The whole text of the acceptance snapshot, as the labels of the format and the digits of the
values make it. -/
def acceptanceText (s : AcceptanceCounters) : List Char :=
  "magic=EZRX".toList ++ ((acceptanceFields s).map item).flatMap (' ' :: ·) ++ "\r\n".toList

/-- The arguments with their labels, the first behind the identity. -/
def acceptanceLabels (s : AcceptanceCounters) : List (String × Argument) :=
  [(" sink_p=", .quad s.sinkPackets), (" sink_b=", .quad s.sinkBytes),
    (" sink_err=", .quad s.sinkRecvErrors), (" mac_rx=", .word s.rxFrameCnt),
    (" mac_err=", .word s.rxErrCnt), (" gate_bad=", .word s.gateDroppedBadFrames),
    (" gate_ovf=", .word s.gateDroppedOverflowFrames),
    (" tready=", .word s.gateDrainTreadyLowCycles), (" dma=", .quad s.dmaCallbacks),
    (" dma_err=", .quad s.dmaErrors), (" bd_err=", .word s.rxBdErrors),
    (" invalid=", .quad s.rxInvalid), (" alloc=", .quad s.allocFail),
    (" recv_fail=", .quad s.rxNetRecvFail), (" nofree=", .quad s.rxRefillNoFree)]

/-- A blank, a name and an equals sign make a label: the labels of the format followed by the
values are the items with a blank in front of each. -/
theorem labels_items {labels : List (String × Argument)} {fields : List (List Char × Nat)}
    (named : labels.map (fun label => (label.1.toList, label.2.value)) =
      fields.map (fun field => (' ' :: field.1 ++ ['='], field.2))) :
    labels.flatMap (fun label => label.1.toList ++ decimal label.2.value) =
      (fields.map item).flatMap (' ' :: ·) := by
  induction fields generalizing labels with
  | nil =>
      obtain rfl := List.map_eq_nil_iff.mp named
      rfl
  | cons field rest hypothesis =>
      obtain ⟨label, others, rfl, first, more⟩ := List.map_eq_cons_iff.mp named
      obtain ⟨text, value⟩ := Prod.mk.inj first
      rw [List.flatMap_cons, hypothesis more, text, value, List.map_cons, List.flatMap_cons, item]
      simp only [List.append_assoc, List.cons_append, List.nil_append]

/-- The labels of the format are the names of the counters behind the first, in the same order
and with the same values. -/
theorem labels_named (s : AcceptanceCounters) :
    ∃ rest, acceptanceFields s = ("uptime".toList, s.uptimeMs.toNat) :: rest ∧
      (acceptanceLabels s).map (fun label => (label.1.toList, label.2.value)) =
        rest.map (fun field => (' ' :: field.1 ++ ['='], field.2)) := by
  refine ⟨_, rfl, ?_⟩
  simp only [acceptanceLabels, List.map_cons, List.map_nil, Argument.value]
  rfl

/-- The format makes exactly the text above. The labels of the format are turned into the items
of the counters, one label at a time. -/
theorem acceptance_formatted (s : AcceptanceCounters) :
    formatText acceptanceFormat (acceptanceArguments s) = some (acceptanceText s) := by
  obtain ⟨rest, fields, named⟩ := labels_named s
  have labelled : formatText acceptanceFormat (acceptanceArguments s) = some
      (("magic=EZRX uptime=".toList ++ decimal s.uptimeMs.toNat ++ (acceptanceLabels s).flatMap
        (fun label => label.1.toList ++ decimal label.2.value)) ++ "\r\n".toList) :=
    format_labelled (("magic=EZRX uptime=", .word s.uptimeMs) :: acceptanceLabels s) "\r\n"
  have first : "magic=EZRX uptime=".toList =
      "magic=EZRX".toList ++ ' ' :: ("uptime".toList ++ ['=']) := by
    decide
  have text : acceptanceText s =
      "magic=EZRX".toList ++ ((acceptanceFields s).map item).flatMap (' ' :: ·) ++
        "\r\n".toList := rfl
  rw [text, fields, labelled, labels_items named, first]
  simp only [List.map_cons, List.flatMap_cons, item, List.append_assoc,
    List.cons_append, List.nil_append]

/-- The names that the board prints are the names that the host requires, up to their order; a
finite check. -/
theorem names_required (s : AcceptanceCounters) :
    ((acceptanceFields s).map Prod.fst).Perm required := by
  simp only [acceptanceFields, List.map_cons, List.map_nil]
  decide

/-- A name has letters, which are neither white space nor a separator, and is not the
identity's. -/
structure PlainName (name : List Char) : Prop where
  basic : ∀ character ∈ name, character.toNat < 128
  solid : ∀ character ∈ name, isSpace character = false
  separated : '=' ∉ name
  named : name ≠ "magic".toList

/-- A check of the letters of a text, where a quantifier over all characters would be
decided by trying every one. -/
theorem letters_checked {property : Char → Prop} [DecidablePred property] {text : List Char}
    (checked : text.all (fun character => decide (property character)) = true) :
    ∀ character ∈ text, property character := by
  intro character member
  exact of_decide_eq_true (List.all_eq_true.mp checked character member)

/-- The required names are plain: no white space, no equals sign and no character outside the
basic set, so an item splits where it should. -/
theorem required_plain : ∀ name ∈ required, PlainName name := by
  have basic : ∀ name ∈ required,
      name.all (fun character => decide (character.toNat < 128)) = true := by decide
  have solid : ∀ name ∈ required,
      name.all (fun character => decide (isSpace character = false)) = true := by decide
  have separated : ∀ name ∈ required, '=' ∉ name := by decide
  have named : ∀ name ∈ required, name ≠ "magic".toList := by decide
  exact fun name member =>
    ⟨letters_checked (basic name member), letters_checked (solid name member),
      separated name member, named name member⟩

/-- The required names are different from one another, so no counter overwrites another in the
dictionary. -/
theorem required_distinct : required.Nodup := by decide

/-- Items with plain and different names are read in order, each value as the number that was
printed, and are added behind what had been read. -/
theorem parse_items (fields : List (List Char × Nat)) (read : Dict SnapshotValue)
    (plain : ∀ field ∈ fields, PlainName field.1)
    (distinct : (read.map Prod.fst ++ fields.map Prod.fst).Nodup) :
    parseItems (fields.map item) read =
      some (read ++ fields.map fun field => (field.1, .number field.2)) := by
  induction fields generalizing read with
  | nil => exact congrArg some (List.append_nil read).symm
  | cons field rest hypothesis =>
      have name := plain field List.mem_cons_self
      have fresh : field.1 ∉ read.map Prod.fst := fun member =>
        List.disjoint_of_nodup_append distinct member List.mem_cons_self
      have stored := store_new (.number field.2) fresh
      have later := hypothesis (read ++ [(field.1, .number field.2)])
        (fun other member => plain other (List.mem_cons_of_mem field member))
        (by simpa using distinct)
      rw [List.map_cons, parseItems, item, split_once_append _ name.separated]
      simp only [Option.bind_eq_bind, Option.bind_some, if_neg name.named, decimal,
        read_int_digits]
      rw [stored, later]
      simp

/-- A decimal digit is a character of the basic set and no white space, so it survives decoding
and never ends a word. -/
theorem digit_solid {character : Char} (digit : character.isDigit = true) :
    character.toNat < 128 ∧ isSpace character = false := by
  have range : 48 ≤ character.toNat ∧ character.toNat ≤ 57 := by
    simpa [Char.isDigit, UInt32.le_iff_toNat_le] using digit
  refine ⟨by omega, decide_eq_false ?_⟩
  omega

/-- Every character of an item with a plain name is of the basic set and no white space: the name
by assumption, the equals sign, and the digits. -/
theorem item_solid {field : List Char × Nat} (plain : PlainName field.1) :
    ∀ character ∈ item field, character.toNat < 128 ∧ isSpace character = false := by
  intro character member
  rcases List.mem_append.mp member with name | rest
  · exact ⟨plain.basic character name, plain.solid character name⟩
  · rcases List.mem_cons.mp rest with rfl | digit
    · decide
    · exact digit_solid (Nat.isDigit_of_mem_toDigits (by decide) (by decide) digit)

/-- The dictionary the host should hold: the identity of the board, and every counter under its
name with the value the board had. -/
def formattedCounters (s : AcceptanceCounters) : Dict SnapshotValue :=
  ("magic".toList, .text "EZRX".toList) ::
    (acceptanceFields s).map fun field => (field.1, .number field.2)

section Parsed

variable (s : AcceptanceCounters)

/-- The names that the board prints are plain, since they are the required names in another
order. -/
theorem fields_plain : ∀ field ∈ acceptanceFields s, PlainName field.1 := fun _ member =>
  required_plain _ ((names_required s).subset (List.mem_map_of_mem member))

/-- The text of the snapshot has characters of the basic set only, so the host's decoding gives
back every character. -/
theorem acceptance_basic : ∀ character ∈ acceptanceText s, character.toNat < 128 := by
  have identity : ∀ character ∈ "magic=EZRX".toList, character.toNat < 128 :=
    letters_checked (by decide)
  have ending : ∀ character ∈ "\r\n".toList, character.toNat < 128 := letters_checked (by decide)
  intro character member
  rcases List.mem_append.mp member with front | closing
  · rcases List.mem_append.mp front with magic | items
    · exact identity character magic
    · obtain ⟨word, listed, inside⟩ := List.mem_flatMap.mp items
      obtain ⟨field, among, rfl⟩ := List.mem_map.mp listed
      rcases List.mem_cons.mp inside with rfl | letter
      · decide
      · exact (item_solid (fields_plain s field among) character letter).1
  · exact ending character closing

/-- Splitting the text at white space gives the identity and the items, in their order: no item
has white space of its own, and none is empty. -/
theorem acceptance_words : splitWords (acceptanceText s) =
    "magic=EZRX".toList :: (acceptanceFields s).map item := by
  apply split_words_joined
  · intro word member
    rcases List.mem_cons.mp member with rfl | listed
    · exact ⟨by decide, letters_checked (by decide)⟩
    · obtain ⟨field, among, rfl⟩ := List.mem_map.mp listed
      exact ⟨List.append_ne_nil_of_right_ne_nil _ (List.cons_ne_nil _ _), fun character letter =>
        (item_solid (fields_plain s field among) character letter).2⟩
  · exact letters_checked (by decide)
  · decide

/-- The host reads exactly the counters that were formatted, when it gets the whole text:
decoding, splitting and the loop over the items one after the other. -/
theorem acceptance_parsed :
    parseSnapshot ((acceptanceText s).map characterByte) = some (formattedCounters s) := by
  have magic : splitOnce '=' "magic=EZRX".toList = some ("magic".toList, "EZRX".toList) := by
    decide
  have decoded : decodeAscii ((acceptanceText s).map characterByte) = some (acceptanceText s) :=
    decode_encode (acceptance_basic s)
  have distinct : ([("magic".toList, SnapshotValue.text "EZRX".toList)].map Prod.fst ++
      (acceptanceFields s).map Prod.fst).Nodup := by
    refine List.nodup_cons.mpr ⟨fun member => ?_, (names_required s).nodup_iff.mpr
      required_distinct⟩
    exact (required_plain _ ((names_required s).subset member)).named rfl
  have items : parseItems ("magic=EZRX".toList :: (acceptanceFields s).map item) [] =
      some (formattedCounters s) := by
    have rest := parse_items (acceptanceFields s) [("magic".toList, .text "EZRX".toList)]
      (fields_plain s) distinct
    rw [parseItems, magic, Option.bind_eq_bind, Option.bind_some]
    dsimp only
    rw [if_pos rfl, store, rest, List.singleton_append, formattedCounters]
  have identity : (formattedCounters s).lookup "magic".toList = some (.text "EZRX".toList) := by
    rw [formattedCounters, List.lookup_cons_self]
  have complete : ¬ ∃ name ∈ required, name ∉ (formattedCounters s).map Prod.fst := by
    rintro ⟨name, member, missing⟩
    apply missing
    have listed := (names_required s).symm.subset member
    simp only [formattedCounters, List.map_cons, List.map_map, List.mem_cons]
    exact .inr listed
  rw [parseSnapshot, decoded, Option.bind_eq_bind, Option.bind_some, acceptance_words, items,
    Option.bind_eq_bind, Option.bind_some, if_neg (not_not.mpr identity), if_neg complete]

end Parsed

/-- The decimal digits of the sixteen values together, which is all that varies in the length of
the text. -/
def acceptanceDigits (s : AcceptanceCounters) : Nat := digitCount (acceptanceArguments s)

/-- The text is 148 characters of labels and the digits of the values, so the digits decide
whether it fits the buffer. -/
theorem acceptance_length (s : AcceptanceCounters) :
    (acceptanceText s).length = 148 + acceptanceDigits s := by
  have characters : literalLength acceptanceFormat = 148 := by decide
  rw [format_length (acceptance_formatted s), characters, acceptanceDigits]

/-- Of the acceptance reply no byte beyond the stored text is sent, and the host reads the
formatted counters from the bytes that are sent, with every required name. -/
def AcceptanceRoundTrip (s : AcceptanceCounters) : Prop :=
  ∃ reply, formatAcceptanceSnapshot s acceptanceReplySize = some reply ∧ reply.NoOverRead ∧
    ∀ behind, ∃ fields, parseSnapshot (reply.sent behind) = some fields ∧
      fields = formattedCounters s ∧ ∀ name ∈ required, name ∈ fields.map Prod.fst

/-- Of the profile reply no byte beyond the stored text is sent. -/
def ProfileInside (s : ProfileCounters) : Prop :=
  ∃ reply, formatProfileSnapshot s profileReplySize = some reply ∧ reply.NoOverRead

/-- The reply of the acceptance formatter: the first 383 characters of the text in the buffer,
and the length of the whole text as the result. -/
theorem acceptance_reply (s : AcceptanceCounters) :
    formatAcceptanceSnapshot s acceptanceReplySize = some
      ⟨(acceptanceText s).length,
        ((acceptanceText s).take (acceptanceReplySize - 1)).map characterByte⟩ := by
  rw [formatAcceptanceSnapshot, snprintk, acceptance_formatted, Option.map_some]

/-- The reply stays within its buffer and is read back correctly exactly if the sixteen values
have at most 235 decimal digits together. -/
theorem acceptance_inside_iff (s : AcceptanceCounters) :
    AcceptanceRoundTrip s ↔ acceptanceDigits s ≤ 235 := by
  have length := acceptance_length s
  have fits : (acceptanceText s).length < acceptanceReplySize ↔ acceptanceDigits s ≤ 235 := by
    unfold acceptanceReplySize
    omega
  constructor
  · rintro ⟨reply, formatted, inside, -⟩
    obtain rfl := Option.some_inj.mp ((acceptance_reply s).symm.trans formatted)
    exact fits.mp ((no_over_read_iff (show 0 < acceptanceReplySize by decide)).mp inside)
  · intro few
    have room := fits.mpr few
    refine ⟨_, acceptance_reply s,
      (no_over_read_iff (show 0 < acceptanceReplySize by decide)).mpr room,
      fun behind => ⟨formattedCounters s, ?_, rfl, fun name member => ?_⟩⟩
    · rw [sent_fits room]
      exact acceptance_parsed s
    · simp only [formattedCounters, List.map_cons, List.map_map, List.mem_cons]
      exact .inr ((names_required s).symm.subset member)

/-- The profile text has a format for its arguments, and the longest one fits. -/
theorem profile_inside (s : ProfileCounters) : ProfileInside s := by
  have typed : (formatText profileFormat (profileArguments s)).isSome := rfl
  obtain ⟨text, formatted⟩ := Option.isSome_iff_exists.mp typed
  have length := format_length formatted
  have characters : literalLength profileFormat = 167 := by decide
  have digits := digits_bounded (profileArguments s)
  have widths : (profileArguments s).map Argument.width =
      [10, 10, 10, 10, 20, 20, 20, 20, 20, 20, 20, 20, 20, 20, 20, 20, 20, 10, 10, 10] := rfl
  have total : ((profileArguments s).map Argument.width).sum = 330 := by
    rw [widths]
    decide
  have reply : formatProfileSnapshot s profileReplySize = some
      ⟨text.length, (text.take (profileReplySize - 1)).map characterByte⟩ := by
    rw [formatProfileSnapshot, snprintk, formatted, Option.map_some]
  have room : text.length < profileReplySize := by
    unfold profileReplySize
    omega
  exact ⟨_, reply, (no_over_read_iff (show 0 < profileReplySize by decide)).mpr room⟩

/-- The snapshots behave as stated exactly when the values of the acceptance snapshot have at
most 235 digits together.

Proof: the profile snapshot always fits its buffer, so only the acceptance snapshot decides, and
it is inside its buffer exactly up to that many digits. -/
theorem snapshots_round_trip_iff (s : AcceptanceCounters) (profile : ProfileCounters) :
    AcceptanceRoundTrip s ∧ ProfileInside profile ↔ acceptanceDigits s ≤ 235 := by
  rw [acceptance_inside_iff s]
  exact ⟨fun both => both.1, fun few => ⟨few, profile_inside profile⟩⟩

/-- The failing input: every counter that the snapshot prints at the largest value of its width. -/
def fullCounters : AcceptanceCounters where
  uptimeMs := BitVec.allOnes 32
  sinkPackets := BitVec.allOnes 64
  sinkBytes := BitVec.allOnes 64
  sinkRecvErrors := BitVec.allOnes 64
  rxFrameCnt := BitVec.allOnes 32
  rxErrCnt := BitVec.allOnes 32
  gateDroppedBadFrames := BitVec.allOnes 32
  gateDroppedOverflowFrames := BitVec.allOnes 32
  gateDrainTreadyLowCycles := BitVec.allOnes 32
  dmaCallbacks := BitVec.allOnes 64
  dmaErrors := BitVec.allOnes 64
  rxBdErrors := BitVec.allOnes 32
  rxInvalid := BitVec.allOnes 64
  rxAllocPktFail := BitVec.allOnes 64
  rxAllocFragFail := BitVec.allOnes 64
  rxAllocPktZcFail := BitVec.allOnes 64
  rxAllocPktCopyFail := BitVec.allOnes 64
  rxNetRecvFail := BitVec.allOnes 64
  rxRefillNoFree := BitVec.allOnes 64

/-- With every counter at its largest value the digits number 250, the returned length is beyond
the buffer, and bytes behind it would be sent. -/
theorem full_snapshot_over_reads :
    ¬ ∀ (s : AcceptanceCounters) (profile : ProfileCounters),
      AcceptanceRoundTrip s ∧ ProfileInside profile := by
  intro always
  have digits : acceptanceDigits fullCounters = 250 := by decide +kernel
  have few := (acceptance_inside_iff fullCounters).mp (always fullCounters
    ⟨0, 0, 0, 0, 0, 0, 0, 0, 0, 0, 0, 0, 0, 0, 0, 0, 0, 0, 0, 0⟩).1
  omega

end EmaczZephyr.Application
