import Mathlib.Algebra.BigOperators.Group.List.Basic
import Mathlib.Data.List.TakeWhile
import EmaczZephyr.Application.TxBench
import EmaczZephyr.Foundation.PythonNumerals

/-!
# The exchange of a transmit benchmark

The host's script formats a command with four integers and sends it to the control port. The
control thread reads it into a buffer of 96 bytes, runs the benchmark and formats its counters
into a buffer of 160 bytes. The script reads the reply into a dictionary.

The board understands the script's integers as far as its words hold them. The reply fits into
its buffer, and in the dictionary stand the arguments that were in force and what the bursts
have returned, each packet counted once.
-/

namespace EmaczZephyr.Application

open BigEndian Checked Printf PythonNumerals PythonText

/-- The options of `run_tx_accounting.py`, where it has made milliseconds and thousandths of
Mb/s of two of them. -/
structure BenchRequest where
  durationMs : Nat
  packetSize : Int
  rateX1000 : Nat
  listenPort : Int

/-- `command` of the script: the letter and the four numbers with blanks between them, encoded as
bytes. -/
def BenchRequest.command (request : BenchRequest) : List Byte :=
  ("t ".toList ++ formatInt request.durationMs ++ ' ' :: formatInt request.packetSize ++
    ' ' :: formatInt request.rateX1000 ++ ' ' :: formatInt request.listenPort).map characterByte

/-- The size of the array `request`, whose last byte is kept for the terminator; a command as
long as this would be cut. -/
def requestSize : Nat := 96
/-- The size of the array `reply` in the branch for the command `t`, which the report is printed
into. -/
def benchReplySize : Nat := 160

/-- What `profile_control_thread` passes to `run_tx_bench`: the received string behind its first
character, if that asks for the benchmark. -/
def benchArgs (datagram : List Byte) : Option (List Byte) :=
  match (datagram.take (requestSize - 1)).takeWhile (· ≠ 0#8) with
  | [] => none
  | cmd :: args => if cmd = characterByte 't' ∨ cmd = characterByte 'T' then some args else none

/-- The arguments that the script asks for. A negative one ends what the board can read. -/
def BenchRequest.asked (request : BenchRequest) : BenchArgs :=
  if request.packetSize < 0 then
    { defaultArgs with durationMs := min request.durationMs uint32Max }
  else
    { durationMs := min request.durationMs uint32Max
      payloadLen := min request.packetSize.toNat uint32Max
      rateMbpsX1000 := min request.rateX1000 uint32Max
      port := if request.listenPort < 0 then txBenchPort
        else min request.listenPort.toNat uint32Max }

/-- `%d` prints a minus sign in front of the magnitude of a negative number; the sign is taken as
part of the label here. -/
def signLabel (label : String) (value : Int) : String := if value < 0 then label ++ "-" else label

/-- What `%d` prints behind the sign: the absolute value as an unsigned word. -/
def magnitude (value : Int) : Argument := .word (BitVec.ofNat 32 value.natAbs)

/-- The format of the report in pieces, with the signs of the two signed values joined to their
labels. -/
def benchFormat (tally : Tally) : List Piece :=
  [.literal "tx pkts=", .llu, .literal " bytes=", .llu, .literal " errors=", .llu,
    .literal " elapsed_ms=", .u, .literal " payload=", .u, .literal " rate_mbps_x1000=", .u,
    .literal " port=", .u, .literal (signLabel " last_ret=" tally.lastRet), .u,
    .literal (signLabel " errno=" tally.lastErrno), .u, .literal "\r\n"]

/-- The arguments of the report in the order of the call, each with the width that its conversion
reads. -/
def benchArguments (args : BenchArgs) (tally : Tally) (elapsedMs : Nat) : List Argument :=
  [.quad (BitVec.ofNat 64 tally.packets), .quad (BitVec.ofNat 64 tally.bytes),
    .quad (BitVec.ofNat 64 tally.errors), .word (BitVec.ofNat 32 elapsedMs),
    .word (BitVec.ofNat 32 args.payloadLen), .word (BitVec.ofNat 32 args.rateMbpsX1000),
    .word (BitVec.ofNat 32 args.port), magnitude tally.lastRet, magnitude tally.lastErrno]

/-- The text at the end of `run_tx_bench`, once there is one. -/
def formatBenchReply (args : BenchArgs) : BenchReply → Option Formatted
  | .noPeerArp => snprintk benchReplySize [.literal "tx error=no_peer_arp\r\n"] []
  | .running _ => none
  | .report loop _ elapsedMs =>
      snprintk benchReplySize (benchFormat loop.tally) (benchArguments args loop.tally elapsedMs)

/-- One token of `parse_reply`: without an equals sign, or with a value that `int(…, 0)` does not
read, it is skipped. -/
def parseToken (out : Dict Int) (token : List Char) : Dict Int :=
  match splitOnce '=' token with
  | none => out
  | some (key, value) =>
      match readInt0 value with
      | none => out
      | some number => store key number out

/-- `parse_reply` on the decoded and stripped datagram: line ends count as blanks, and each token
may store one number. -/
def parseReply (data : List Byte) : Dict Int :=
  (splitWords (replaceChar '\n' ' ' (replaceChar '\r' ' ' (strip (decodeReplacing data))))).foldl
    parseToken []

/-- The packets that bursts have sent together, where a burst that failed counts none. -/
def packetsOf (bursts : List Burst) : Nat := (bursts.map fun burst => burst.ret.toNat).sum

/-- The bursts that have sent nothing, with a zero or a negative result; each of them counts as
one error. -/
def failures (bursts : List Burst) : List Burst := bursts.filter fun burst => burst.ret ≤ 0

/-- What bursts have returned, in the words of the report. -/
def tallyOf (payloadLen : Nat) (bursts : List Burst) : Tally where
  packets := packetsOf bursts
  bytes := packetsOf bursts * payloadLen
  errors := (failures bursts).length
  lastRet := (bursts.getLast?.map Burst.ret).getD 0
  lastErrno := ((failures bursts).getLast?.map Burst.errno).getD 0

/-- The report as a dictionary: the nine fields under the names that the board prints them with. -/
def reportFields (args : BenchArgs) (tally : Tally) (elapsedMs : Nat) : Dict Int :=
  [("pkts".toList, tally.packets), ("bytes".toList, tally.bytes),
    ("errors".toList, tally.errors), ("elapsed_ms".toList, elapsedMs),
    ("payload".toList, args.payloadLen), ("rate_mbps_x1000".toList, args.rateMbpsX1000),
    ("port".toList, args.port), ("last_ret".toList, tally.lastRet),
    ("errno".toList, tally.lastErrno)]

/-- What the script makes of a reply, when these are the bursts of the benchmark. -/
def answer (args : BenchArgs) (bursts : List Burst) : BenchReply → Dict Int
  | .noPeerArp | .running _ => []
  | .report loop _ elapsedMs =>
      reportFields args (tallyOf args.payloadLen (bursts.take loop.continued.length)) elapsedMs

/-- What a burst may return: at most 32 packets, or an error code, and the error number. -/
structure Burst.Documented (burst : Burst) : Prop where
  few : burst.ret ≤ txBenchBurstCount
  code : -999 ≤ burst.ret
  errno : 0 ≤ burst.errno ∧ burst.errno ≤ 999

/-- A blank and a number are read, cut to the word, in front of a blank or the end. -/
theorem parse_u32_decimal (value : Nat) {rest : List Byte} (ends : Ends rest) :
    parseU32Arg (32#8 :: ((decimal value).map characterByte ++ rest)) =
      some (min value uint32Max, rest) := by
  have digits : ∀ character ∈ decimal value, character.isDigit = true :=
    fun _ member => decimal_digit member
  obtain ⟨first, others, written⟩ := decimal_cons value
  have range := digit_range (digits first (written ▸ List.mem_cons_self))
  have byte : (characterByte first).toNat = first.toNat := character_byte_value (by omega)
  have skipped : (32#8 :: ((decimal value).map characterByte ++ rest)).dropWhile
      (fun character => character = 32#8 ∨ character = 9#8) =
        (decimal value).map characterByte ++ rest := by
    have solid : ¬ (characterByte first = 32#8 ∨ characterByte first = 9#8) := by
      rintro (same | same)
      all_goals
        have value := congrArg BitVec.toNat same
        rw [byte] at value
        simp at value
        omega
    rw [List.dropWhile_cons_of_pos (by decide), written, List.map_cons, List.cons_append,
      List.dropWhile_cons_of_neg (by simpa using solid)]
  have starts : ((decimal value).map characterByte ++ rest).head?.all
      (fun character => character.toNat < 48 ∨ 57 < character.toNat) = false := by
    rw [written, List.map_cons, List.cons_append, List.head?_cons, Option.all_some, byte]
    simp
    omega
  have longer : rest.length ≠ ((decimal value).map characterByte ++ rest).length := by
    rw [written, List.map_cons, List.cons_append, List.length_cons, List.length_append]
    omega
  have small : ¬ uint32Max < min value uint32Max := by omega
  unfold parseU32Arg
  dsimp only
  rw [skipped, starts, if_neg Bool.false_ne_true, strtoul_decimal uint32Max value ends]
  dsimp only
  rw [if_neg (by tauto)]

/-- A blank and a negative number are not read by `parse_u32_arg`, so a minus sign ends what the
board reads of a command. -/
theorem parse_u32_negative {value : Int} (negative : value < 0) (rest : List Byte) :
    parseU32Arg (32#8 :: ((formatInt value).map characterByte ++ rest)) = none := by
  rw [formatInt, if_pos negative]
  rfl

/-- The characters behind the letter of the command, where `parse_u32_arg` starts to read. -/
def BenchRequest.argsText (request : BenchRequest) : List Char :=
  ' ' :: formatInt request.durationMs ++ ' ' :: formatInt request.packetSize ++
    ' ' :: formatInt request.rateX1000 ++ ' ' :: formatInt request.listenPort

/-- A command that is shorter than the board's array is received whole, and behind its letter
`bench_args` finds exactly the text of the numbers. -/
theorem command_received (request : BenchRequest) (short : request.command.length < requestSize) :
    benchArgs request.command = some (request.argsText.map characterByte) := by
  have text : request.command = characterByte 't' :: request.argsText.map characterByte := rfl
  have printable : ∀ character ∈ request.argsText, character.toNat ≠ 0 ∧ character.toNat < 256 := by
    intro character member
    simp only [BenchRequest.argsText, List.mem_append, List.mem_cons] at member
    rcases member with (((rfl | listed) | rfl | listed) | rfl | listed) | rfl | listed
    all_goals first
      | decide
      | (have range := format_printable listed; omega)
  have ends : (request.command.take (requestSize - 1)).takeWhile (· ≠ 0#8) = request.command := by
    rw [List.take_of_length_le (Nat.le_sub_one_of_lt short), List.takeWhile_eq_self_iff, text]
    intro byte member
    rcases List.mem_cons.mp member with rfl | listed
    · decide
    · obtain ⟨character, among, rfl⟩ := List.mem_map.mp listed
      obtain ⟨filled, small⟩ := printable character among
      rw [decide_eq_true_iff]
      intro same
      have value := congrArg BitVec.toNat same
      rw [character_byte_value small] at value
      exact filled value
  rw [benchArgs, ends, text]
  rfl

/-- The board reads what the script asks for, number after number: cut to 32 bits, and with the
defaults from the first negative number on. -/
theorem read_command (request : BenchRequest) :
    readArgs (some (request.argsText.map characterByte)) = request.asked := by
  obtain ⟨durationMs, packetSize, rateX1000, listenPort⟩ := request
  have blank : characterByte ' ' = 32#8 := by decide
  have blanks (rest : List Byte) : Ends (32#8 :: rest) := by
    rintro byte ⟨⟩
    rfl
  simp only [BenchRequest.argsText, format_nat, List.map_append, List.map_cons, List.cons_append,
    List.append_assoc, blank]
  rw [readArgs, Option.bind_some, parse_u32_decimal _ (blanks _)]
  dsimp only
  by_cases negative : packetSize < 0
  · rw [parse_u32_negative negative, BenchRequest.asked, if_pos negative]
  · obtain ⟨size, rfl⟩ := Int.eq_ofNat_of_zero_le (Int.not_lt.mp negative)
    rw [format_nat, parse_u32_decimal _ (blanks _)]
    dsimp only
    rw [parse_u32_decimal _ (blanks _), BenchRequest.asked, if_neg negative]
    dsimp only
    by_cases closed : listenPort < 0
    · have refused := parse_u32_negative closed []
      rw [List.append_nil] at refused
      rw [refused, if_pos closed]
      rfl
    · obtain ⟨port, rfl⟩ := Int.eq_ofNat_of_zero_le (Int.not_lt.mp closed)
      have ending : Ends [] := by rintro byte ⟨⟩
      have read := parse_u32_decimal port ending
      rw [List.append_nil] at read
      rw [format_nat, read, if_neg closed]
      rfl

/-- One word of the reply: the name of a field, an equals sign and the number with its sign. -/
def replyItem (field : List Char × Int) : List Char := field.1 ++ '=' :: formatInt field.2

/-- The names of the nine fields of the reply, in the order in which the board prints them. -/
def replyNames : List (List Char) :=
  ["pkts".toList, "bytes".toList, "errors".toList, "elapsed_ms".toList, "payload".toList,
    "rate_mbps_x1000".toList, "port".toList, "last_ret".toList, "errno".toList]

/-- The text of the report: the word `tx`, the items with a blank in front of each, and the end
of line. -/
def reportText (fields : Dict Int) : List Char :=
  "tx".toList ++ (fields.map replyItem).flatMap (' ' :: ·) ++ "\r\n".toList

/-- A name that splits where it should: printed characters of the basic set only, and no equals
sign among them. -/
structure ReplyName (name : List Char) : Prop where
  basic : ∀ character ∈ name, 33 ≤ character.toNat ∧ character.toNat < 127
  separated : '=' ∉ name

/-- The nine names of the reply are such names; a finite check over their characters. -/
theorem reply_names_plain : ∀ name ∈ replyNames, ReplyName name := by
  have basic : ∀ name ∈ replyNames, name.all (fun character =>
      decide (33 ≤ character.toNat ∧ character.toNat < 127)) = true := by decide
  have separated : ∀ name ∈ replyNames, '=' ∉ name := by decide
  intro name member
  refine ⟨?_, separated name member⟩
  intro character inside
  exact of_decide_eq_true (List.all_eq_true.mp (basic name member) character inside)

/-- The nine names are different from one another, so no field overwrites another in the
dictionary. -/
theorem reply_names_distinct : replyNames.Nodup := by decide

/-- Items with such names, different from one another, are stored in order behind what has been
read, each with its number. -/
theorem parse_reply_items (fields read : Dict Int)
    (plain : ∀ field ∈ fields, ReplyName field.1)
    (distinct : (read.map Prod.fst ++ fields.map Prod.fst).Nodup) :
    (fields.map replyItem).foldl parseToken read = read ++ fields := by
  induction fields generalizing read with
  | nil => exact (List.append_nil read).symm
  | cons field rest inductionHypothesis =>
    have name := plain field List.mem_cons_self
    have fresh : field.1 ∉ read.map Prod.fst := fun member =>
      List.disjoint_of_nodup_append distinct member List.mem_cons_self
    have stored : parseToken read (replyItem field) = read ++ [field] := by
      rw [parseToken, replyItem, split_once_append _ name.separated]
      dsimp only
      rw [read_formatted]
      exact store_new field.2 fresh
    rw [List.map_cons, List.foldl_cons, stored, inductionHypothesis]
    · simp
    · exact fun other member => plain other (List.mem_cons_of_mem field member)
    · simpa using distinct

/-- Every character of an item is printed and of the basic set, so that none is white space: the
name, the equals sign, the sign and the digits. -/
theorem reply_item_solid {field : List Char × Int} (plain : ReplyName field.1) :
    ∀ character ∈ replyItem field, 33 ≤ character.toNat ∧ character.toNat < 127 := by
  intro character member
  rcases List.mem_append.mp member with name | rest
  · exact plain.basic character name
  · rcases List.mem_cons.mp rest with rfl | digit
    · decide
    · have range := format_printable digit
      omega

/-- A character from 33 on is no white space, which is all that splitting and stripping look at. -/
theorem printed_solid {character : Char} (printed : 33 ≤ character.toNat) :
    isSpace character = false := by
  refine decide_eq_false ?_
  omega

/-- The words of the text, `tx` and the nine items, are not empty and have printed characters
only. -/
theorem report_words_solid {fields : Dict Int} (named : fields.map Prod.fst = replyNames) :
    ∀ word ∈ "tx".toList :: fields.map replyItem,
      word ≠ [] ∧ ∀ character ∈ word, 33 ≤ character.toNat ∧ character.toNat < 127 := by
  intro word member
  rcases List.mem_cons.mp member with rfl | listed
  · refine ⟨by decide, ?_⟩
    simp
  · obtain ⟨field, among, rfl⟩ := List.mem_map.mp listed
    have plain := reply_names_plain field.1 (named ▸ List.mem_map_of_mem among)
    exact ⟨List.append_ne_nil_of_right_ne_nil _ (List.cons_ne_nil _ _), reply_item_solid plain⟩

/-- The script reads every field of the report from its whole text: decoding and stripping keep
the words, and the items are stored one by one. -/
theorem report_parsed {fields : Dict Int} (named : fields.map Prod.fst = replyNames) :
    parseReply ((reportText fields).map characterByte) = fields := by
  have words := report_words_solid named
  let body := "tx".toList ++ (fields.map replyItem).flatMap (' ' :: ·)
  have characters : ∀ character ∈ body,
      character = ' ' ∨ 33 ≤ character.toNat ∧ character.toNat < 127 := by
    intro character member
    rcases List.mem_append.mp member with first | rest
    · exact .inr ((words _ List.mem_cons_self).2 character first)
    · obtain ⟨word, listed, inside⟩ := List.mem_flatMap.mp rest
      refine (List.mem_cons.mp inside).imp_right fun letter => ?_
      exact (words word (List.mem_cons_of_mem _ listed)).2 character letter
  have decoded : decodeReplacing ((reportText fields).map characterByte) =
      body ++ "\r\n".toList := by
    apply decode_replacing
    intro character member
    rcases List.mem_append.mp member with inside | ending
    · rcases characters character inside with rfl | range
      · decide
      · omega
    · have newline : character = '\r' ∨ character = '\n' := by simpa using ending
      rcases newline with rfl | rfl
      · decide
      · decide
  have stripped : strip (body ++ "\r\n".toList) = body := by
    apply strip_behind
    · rintro first ⟨⟩
      decide
    · intro last ends
      obtain ⟨word, listed, inside⟩ := joined_last (fun word member => (words word member).1) ends
      exact printed_solid ((words word listed).2 last inside).1
    · exact List.cons_ne_nil _ _
    · simp
      decide
  have absent (mark : Char) (white : isSpace mark = true) (other : mark ≠ ' ') : mark ∉ body := by
    intro member
    rcases characters mark member with same | range
    · exact other same
    · rw [printed_solid range.1] at white
      cases white
  have split : splitWords body = "tx".toList :: fields.map replyItem := by
    apply split_words_blanks
    intro word member
    exact ⟨(words word member).1, fun character inside =>
      printed_solid ((words word member).2 character inside).1⟩
  have bare : parseToken [] "tx".toList = [] := rfl
  rw [parseReply, decoded, stripped, replace_absent (absent '\r' (by decide) (by decide)),
    replace_absent (absent '\n' (by decide) (by decide)), split, List.foldl_cons, bare,
    parse_reply_items, List.nil_append]
  · intro field among
    exact reply_names_plain field.1 (named ▸ List.mem_map_of_mem among)
  · rw [named]
    exact reply_names_distinct

/-- A sign in front of the magnitude's digits is the number as the script reads it, for
magnitudes below 2^32. -/
theorem sign_digits (label : String) {value : Int} (small : value.natAbs < 2 ^ 32) :
    (signLabel label value).toList ++ decimal (magnitude value).value =
      label.toList ++ formatInt value := by
  have digits : (magnitude value).value = value.natAbs := word_value small
  rw [digits, signLabel, formatInt]
  by_cases negative : value < 0
  · rw [if_pos negative, if_pos negative, String.toList_append, List.append_assoc]
    rfl
  · rw [if_neg negative, if_neg negative]

/-- The counters of a report fit the types of their conversions. -/
structure Reportable (args : BenchArgs) (tally : Tally) (elapsedMs : Nat) : Prop where
  quads : tally.packets < 2 ^ 64 ∧ tally.bytes < 2 ^ 64 ∧ tally.errors < 2 ^ 64
  words : elapsedMs < 2 ^ 32 ∧ args.payloadLen < 2 ^ 32 ∧ args.rateMbpsX1000 < 2 ^ 32 ∧
    args.port < 2 ^ 32
  signed : tally.lastRet.natAbs < 2 ^ 32 ∧ tally.lastErrno.natAbs < 2 ^ 32

/-- The labels of the format beside the arguments that follow them, the form in which a format is
compared with items. -/
def benchLabels (args : BenchArgs) (tally : Tally) (elapsedMs : Nat) : List (String × Argument) :=
  [("tx pkts=", .quad (BitVec.ofNat 64 tally.packets)),
    (" bytes=", .quad (BitVec.ofNat 64 tally.bytes)),
    (" errors=", .quad (BitVec.ofNat 64 tally.errors)),
    (" elapsed_ms=", .word (BitVec.ofNat 32 elapsedMs)),
    (" payload=", .word (BitVec.ofNat 32 args.payloadLen)),
    (" rate_mbps_x1000=", .word (BitVec.ofNat 32 args.rateMbpsX1000)),
    (" port=", .word (BitVec.ofNat 32 args.port)),
    (signLabel " last_ret=" tally.lastRet, magnitude tally.lastRet),
    (signLabel " errno=" tally.lastErrno, magnitude tally.lastErrno)]

/-- The format makes the text of the report whenever the values are within the widths of their
conversions. -/
theorem report_formatted {args : BenchArgs} {tally : Tally} {elapsedMs : Nat}
    (reportable : Reportable args tally elapsedMs) :
    formatText (benchFormat tally) (benchArguments args tally elapsedMs) =
      some (reportText (reportFields args tally elapsedMs)) := by
  obtain ⟨⟨packets, bytes, errors⟩, ⟨elapsed, payload, rate, port⟩, ret, errno⟩ := reportable
  have labelled : formatText (benchFormat tally) (benchArguments args tally elapsedMs) =
      some ((benchLabels args tally elapsedMs).flatMap
        (fun field => field.1.toList ++ decimal field.2.value) ++ "\r\n".toList) :=
    format_labelled (benchLabels args tally elapsedMs) "\r\n"
  rw [labelled, reportText]
  simp only [benchLabels, reportFields, List.flatMap_cons, List.flatMap_nil, List.map_cons,
    List.map_nil, sign_digits _ ret, sign_digits _ errno, quad_value packets, quad_value bytes,
    quad_value errors, word_value elapsed, word_value payload, word_value rate, word_value port,
    replyItem, format_nat]
  simp

/-- What the counters of a benchmark stay below, chosen so that the decimal digits of all fields
fit the reply together. -/
structure Bounded (args : BenchArgs) (tally : Tally) (elapsedMs : Nat) : Prop where
  packets : tally.packets < 10 ^ 11
  bytes : tally.bytes < 10 ^ 15
  errors : tally.errors < 10 ^ 10
  elapsed : elapsedMs < 2 ^ 32
  payload : args.payloadLen ≤ txBenchMaxPayload
  rate : args.rateMbpsX1000 ≤ uint32Max
  port : args.port ≤ 65535
  ret : -999 ≤ tally.lastRet ∧ tally.lastRet ≤ txBenchBurstCount
  errno : 0 ≤ tally.lastErrno ∧ tally.lastErrno ≤ 999

section Bounded

variable {args : BenchArgs} {tally : Tally} {elapsedMs : Nat}

/-- Counters within these bounds are within the widths of their conversions too, so the report
shows them without a wrap. -/
theorem Bounded.reportable (bounded : Bounded args tally elapsedMs) :
    Reportable args tally elapsedMs := by
  obtain ⟨packets, bytes, errors, elapsed, payload, rate, port, ret, errno⟩ := bounded
  unfold txBenchMaxPayload at payload
  unfold uint32Max at rate
  unfold txBenchBurstCount at ret
  exact ⟨⟨by omega, by omega, by omega⟩, ⟨elapsed, by omega, by omega, by omega⟩,
    by omega, by omega⟩

/-- The literal texts of the report have 86 characters, and one more when the last result is
negative. -/
theorem literals_bounded (errno : 0 ≤ tally.lastErrno) :
    literalLength (benchFormat tally) ≤ 87 := by
  have positive : signLabel " errno=" tally.lastErrno = " errno=" := if_neg (by omega)
  have signed : signLabel " last_ret=" tally.lastRet = " last_ret=" ∨
      signLabel " last_ret=" tally.lastRet = " last_ret=-" := by
    rw [signLabel]
    split
    · exact .inr rfl
    · exact .inl rfl
  rcases signed with plain | minus
  · rw [benchFormat, positive, plain]
    decide
  · rw [benchFormat, positive, minus]
    decide

/-- Within the bounds the digits of a benchmark's counters are at most 71 together, added up
field by field. -/
theorem digits_few (bounded : Bounded args tally elapsedMs) :
    digitCount (benchArguments args tally elapsedMs) ≤ 71 := by
  have reportable := bounded.reportable
  obtain ⟨packets, bytes, errors, elapsed, payload, rate, port, ret, errno⟩ := bounded
  unfold txBenchMaxPayload at payload
  unfold uint32Max at rate
  unfold txBenchBurstCount at ret
  simp only [digitCount, benchArguments, magnitude, List.map_cons, List.map_nil, List.sum_cons,
    List.sum_nil, quad_value reportable.quads.1, quad_value reportable.quads.2.1,
    quad_value reportable.quads.2.2, word_value reportable.words.1,
    word_value reportable.words.2.1, word_value reportable.words.2.2.1,
    word_value reportable.words.2.2.2, word_value reportable.signed.1,
    word_value reportable.signed.2]
  have first : (decimal tally.packets).length ≤ 11 := decimal_length (by decide) packets
  have second : (decimal tally.bytes).length ≤ 15 := decimal_length (by decide) bytes
  have third : (decimal tally.errors).length ≤ 10 := decimal_length (by decide) errors
  have fourth : (decimal elapsedMs).length ≤ 10 := decimal_length (by decide) (by omega)
  have fifth : (decimal args.payloadLen).length ≤ 4 := decimal_length (by decide) (by omega)
  have sixth : (decimal args.rateMbpsX1000).length ≤ 10 := decimal_length (by decide) (by omega)
  have seventh : (decimal args.port).length ≤ 5 := decimal_length (by decide) (by omega)
  have eighth : (decimal tally.lastRet.natAbs).length ≤ 3 := decimal_length (by decide) (by omega)
  have ninth : (decimal tally.lastErrno.natAbs).length ≤ 3 := decimal_length (by decide) (by omega)
  omega

/-- The reply of 160 bytes has room for the report and its terminator: at most 87 characters of
text and 71 digits. -/
theorem report_fits (bounded : Bounded args tally elapsedMs) :
    (reportText (reportFields args tally elapsedMs)).length < benchReplySize := by
  rw [format_length (report_formatted bounded.reportable)]
  have literals := literals_bounded bounded.errno.1
  have digits := digits_few bounded
  unfold benchReplySize
  omega

end Bounded

/-- One burst more adds the packets that it has sent, and nothing when it has failed. -/
theorem packets_concat (done : List Burst) (burst : Burst) :
    packetsOf (done ++ [burst]) = packetsOf done + burst.ret.toNat := by
  simp [packetsOf]

/-- A burst sends at most 32 packets, so any number of bursts sends at most 32 times as many. -/
theorem packets_bounded {bursts : List Burst}
    (few : ∀ burst ∈ bursts, burst.ret ≤ txBenchBurstCount) :
    packetsOf bursts ≤ 32 * bursts.length := by
  unfold txBenchBurstCount at few
  induction bursts with
  | nil => exact Nat.le_refl 0
  | cons burst rest inductionHypothesis =>
    have first := few burst List.mem_cons_self
    have others := inductionHypothesis fun other member =>
      few other (List.mem_cons_of_mem burst member)
    simp only [packetsOf, List.map_cons, List.sum_cons, List.length_cons] at others ⊢
    omega

/-- Counting a burst behind others gives what all of them have returned, and none of the 64-bit
counters wraps on the way. -/
theorem record_next {payloadLen : Nat} (payload : payloadLen ≤ txBenchMaxPayload)
    {done : List Burst} {burst : Burst} (short : done.length < 3 * 10 ^ 9)
    (few : ∀ other ∈ done ++ [burst], other.ret ≤ txBenchBurstCount) :
    (tallyOf payloadLen done).record payloadLen burst =
      some (tallyOf payloadLen (done ++ [burst])) := by
  have total := packets_bounded few
  have last : burst.ret ≤ txBenchBurstCount := few burst (by simp)
  rw [packets_concat, List.length_append, List.length_singleton] at total
  unfold txBenchMaxPayload at payload
  unfold txBenchBurstCount at last
  have bytes : (packetsOf done + burst.ret.toNat) * payloadLen ≤ 96000000000 * 1472 :=
    Nat.mul_le_mul (by omega) payload
  have failed : (failures done).length ≤ done.length := List.length_filter_le _ _
  rw [Nat.add_mul] at bytes
  rw [Tally.record, tallyOf, tallyOf, packets_concat, List.getLast?_concat, failures, failures,
    List.filter_append]
  by_cases sent : 0 < burst.ret
  · have product : mul 64 burst.ret.toNat payloadLen = some (burst.ret.toNat * payloadLen) :=
      mul_fits (by omega)
    have none_failed : [burst].filter (fun burst => burst.ret ≤ 0) = [] := by
      simpa using sent
    have packets : (packetsOf done + burst.ret.toNat) % 2 ^ 64 =
        packetsOf done + burst.ret.toNat := Nat.mod_eq_of_lt (by omega)
    have payloads : (packetsOf done * payloadLen + burst.ret.toNat * payloadLen) % 2 ^ 64 =
        packetsOf done * payloadLen + burst.ret.toNat * payloadLen := Nat.mod_eq_of_lt (by omega)
    rw [if_pos sent, none_failed, List.append_nil, product, Option.bind_eq_bind, Option.bind_some]
    dsimp only
    rw [packets, payloads, Nat.add_mul]
    rfl
  · have one_failed : [burst].filter (fun burst => burst.ret ≤ 0) = [burst] := by
      simpa using sent
    have nothing : burst.ret.toNat = 0 := by omega
    rw [if_neg sent, one_failed, nothing, List.getLast?_concat, List.length_append,
      List.length_singleton, Nat.mod_eq_of_lt]
    · rfl
    · change (failures done).length + 1 < 2 ^ 64
      omega

/-- The counters at the end of the loop are what its bursts have returned. Induction over the
bursts to come, behind those that are done. -/
theorem loop_tally {durationCycles startCycle delay payloadLen : Nat}
    (payload : payloadLen ≤ txBenchMaxPayload) {done bursts : List Burst} {now : Nat}
    {loop : LoopEnd} {stop : Nat} (short : (done ++ bursts).length ≤ 3 * 10 ^ 9)
    (few : ∀ burst ∈ done ++ bursts, burst.ret ≤ txBenchBurstCount)
    (ran : benchLoop durationCycles startCycle delay payloadLen bursts now
      (tallyOf payloadLen done) = some loop) (stopped : loop.stopped = some stop) :
    loop.tally = tallyOf payloadLen (done ++ bursts.take loop.continued.length) := by
  induction bursts generalizing done now loop with
  | nil =>
    rw [benchLoop] at ran
    split at ran
    · cases ran
      cases stopped
    · cases ran
      simp
  | cons burst rest inductionHypothesis =>
    rw [benchLoop] at ran
    split at ran
    · have next : (tallyOf payloadLen done).record payloadLen burst =
          some (tallyOf payloadLen (done ++ [burst])) := by
        apply record_next payload
        · simp only [List.length_append, List.length_cons] at short
          omega
        · intro other member
          exact few other (by simp only [List.mem_append, List.mem_cons] at member ⊢; tauto)
      rw [next, Option.bind_eq_bind, Option.bind_some] at ran
      obtain ⟨waited, -, ran⟩ := Option.bind_eq_some_iff.mp ran
      obtain ⟨later, went, same⟩ := Option.bind_eq_some_iff.mp ran
      cases same
      have counted := @inductionHypothesis (done ++ [burst]) _ _ (by simpa using short)
        (by simpa using few) went stopped
      simpa using counted
    · cases ran
      simp

/-- Behind a report stands a loop that has ended: the report has the time of its stop, and an
elapsed time of 32 bits. -/
theorem measure_report {cyclesPerSec start first gap stop elapsedMs : Nat} {args : BenchArgs}
    {resolved : Bool} {bursts : List Burst} {loop : LoopEnd}
    (ran : measure cyclesPerSec args resolved start first bursts gap =
      some (.report loop stop elapsedMs)) :
    elapsedMs < 2 ^ 32 ∧ loop.stopped = some stop ∧ ∃ durationCycles startCycle delay,
      benchLoop durationCycles startCycle delay args.payloadLen bursts (start + first)
        (tallyOf args.payloadLen []) = some loop := by
  obtain ⟨delay, -, ran⟩ := Option.bind_eq_some_iff.mp ran
  split at ran
  · cases ran
  · obtain ⟨window, -, ran⟩ := Option.bind_eq_some_iff.mp ran
    obtain ⟨durationCycles, -, ran⟩ := Option.bind_eq_some_iff.mp ran
    obtain ⟨reached, looped, ran⟩ := Option.bind_eq_some_iff.mp ran
    have counted : tallyOf args.payloadLen [] = ⟨0, 0, 0, 0, 0⟩ := by
      simp [tallyOf, packetsOf, failures]
    cases ended : reached.stopped with
    | none =>
      rw [ended] at ran
      cases ran
    | some last =>
      rw [ended] at ran
      obtain ⟨scaled, -, ran⟩ := Option.bind_eq_some_iff.mp ran
      obtain ⟨milliseconds, -, ran⟩ := Option.bind_eq_some_iff.mp ran
      cases ran
      exact ⟨Nat.mod_lt _ (by decide), ended, _, _, _, counted ▸ looped⟩

/-- The last value of a list is in the range of all of them. -/
theorem last_within {low high : Int} (zero : low ≤ 0 ∧ 0 ≤ high) {value : Burst → Int}
    {bursts : List Burst} (each : ∀ burst ∈ bursts, low ≤ value burst ∧ value burst ≤ high) :
    low ≤ (bursts.getLast?.map value).getD 0 ∧ (bursts.getLast?.map value).getD 0 ≤ high := by
  cases last : bursts.getLast? with
  | none => exact zero
  | some burst => exact each burst (List.mem_of_getLast? last)

/-- The counters of documented bursts stay within the bounds, for as many bursts as a benchmark
can make in its longest duration. -/
theorem tally_bounded (args : BenchArgs) {bursts : List Burst} {elapsedMs : Nat}
    (short : bursts.length ≤ 3 * 10 ^ 9) (documented : ∀ burst ∈ bursts, burst.Documented)
    (elapsed : elapsedMs < 2 ^ 32) (rate : args.rateMbpsX1000 ≤ uint32Max) :
    Bounded (clampArgs args) (tallyOf (clampArgs args).payloadLen bursts) elapsedMs := by
  obtain ⟨-, payload, rated⟩ := clamp_limits args
  have packets := packets_bounded fun burst member => (documented burst member).few
  have failed : (failures bursts).length ≤ bursts.length := List.length_filter_le _ _
  have bytes : packetsOf bursts * (clampArgs args).payloadLen ≤ 96000000000 * 1472 :=
    Nat.mul_le_mul (by omega) payload
  constructor
  · change packetsOf bursts < 10 ^ 11
    omega
  · change packetsOf bursts * _ < 10 ^ 15
    omega
  · change (failures bursts).length < 10 ^ 10
    omega
  · exact elapsed
  · exact payload
  · rw [rated]
    exact rate
  · rw [clampArgs]
    dsimp only
    split
    · decide
    · omega
  · exact last_within (by decide) fun burst member =>
      ⟨(documented burst member).code, (documented burst member).few⟩
  · exact last_within (by decide) fun burst member =>
      (documented burst (List.mem_filter.mp member).1).errno

/-- The bytes of the reply are within its buffer, and the script makes of them the arguments in
force and what the bursts have returned; a benchmark that finds no peer has no fields.

Proof: the command arrives whole, so the board clamps what was asked. A benchmark without a peer
prints a fixed line. In a report, the loop's sums are the tally of the bursts it made; the tally
bounds every value, so the line fits the buffer and the script's split of it gives the values
back. -/
theorem bench_exchange (request : BenchRequest) (short : request.command.length < requestSize)
    (cyclesPerSec start first gap : Nat) (resolved : Bool) {bursts : List Burst}
    (few : bursts.length ≤ 3 * 10 ^ 9) (documented : ∀ burst ∈ bursts, burst.Documented)
    {reply : BenchReply} {formatted : Formatted}
    (ran : runTxBench cyclesPerSec (benchArgs request.command) resolved start first bursts gap =
      some reply)
    (replied : formatBenchReply (clampArgs request.asked) reply = some formatted) :
    formatted.NoOverRead ∧ ∀ behind, parseReply (formatted.sent behind) =
      answer (clampArgs request.asked) bursts reply := by
  rw [command_received request short, runTxBench, read_command] at ran
  have rate : request.asked.rateMbpsX1000 ≤ uint32Max := by
    rw [← read_command]
    exact read_rate _
  cases reply with
  | noPeerArp =>
    let text := "tx error=no_peer_arp\r\n".toList
    have fits : text.length < benchReplySize := by decide
    have parsed : parseReply (text.map characterByte) = [] := by decide
    obtain rfl : ⟨text.length, (text.take (benchReplySize - 1)).map characterByte⟩ = formatted :=
      Option.some.inj replied
    refine ⟨(no_over_read_iff (by decide)).mpr fits, ?_⟩
    intro behind
    rw [sent_fits fits, parsed, answer]
  | running loop => cases replied
  | report loop stop elapsedMs =>
    obtain ⟨elapsed, stopped, durationCycles, startCycle, delay, looped⟩ := measure_report ran
    have counted := loop_tally (clamp_limits request.asked).2.1 (by simpa using few)
      (by simpa using fun burst member => (documented burst member).few) looped stopped
    rw [List.nil_append] at counted
    let done := bursts.take loop.continued.length
    have fewer : done.length ≤ 3 * 10 ^ 9 := (List.length_take_le' _ _).trans few
    have bounded := tally_bounded request.asked fewer
      (fun burst member => documented burst (List.mem_of_mem_take member)) elapsed rate
    have fits := report_fits bounded
    rw [← counted] at bounded fits
    rw [formatBenchReply, snprintk, report_formatted bounded.reportable] at replied
    obtain rfl := Option.some.inj replied
    refine ⟨(no_over_read_iff (by decide)).mpr fits, ?_⟩
    intro behind
    rw [sent_fits fits, report_parsed rfl, answer, counted]

/-- One millisecond with packets of 1000 bytes to port 5001. -/
def sampleRequest : BenchRequest := ⟨1, 1000, 0, 5001⟩

/-- Its one burst of 32 packets takes 2 ms, and the last reading is half a microsecond later. -/
def sampleReport : BenchReply :=
  .report ⟨[7], some 200007, ⟨32, 32000, 0, 32, 0⟩⟩ 200007 2

/-- The theorem at one burst of 32 packets: the script's dictionary is written out, and shows the
packets, the bytes and the elapsed time. -/
theorem bench_exchange_burst : ∃ formatted,
    formatBenchReply (clampArgs sampleRequest.asked) sampleReport = some formatted ∧
    ∀ behind, parseReply (formatted.sent behind) =
      reportFields ⟨1, 1000, 0, 5001⟩ ⟨32, 32000, 0, 32, 0⟩ 2 := by
  have ran : runTxBench 100000000 (benchArgs sampleRequest.command) true 7 0
      [⟨32, 0, 200000, 0⟩] 50 = some sampleReport := by decide +kernel
  obtain ⟨formatted, replied⟩ : ∃ formatted,
      formatBenchReply (clampArgs sampleRequest.asked) sampleReport = some formatted := ⟨_, rfl⟩
  have documented : ∀ burst ∈ [Burst.mk 32 0 200000 0], burst.Documented := by
    intro burst member
    obtain rfl := List.mem_singleton.mp member
    exact ⟨by decide, by decide, by decide⟩
  exact ⟨formatted, replied, (bench_exchange sampleRequest (by decide +kernel) 100000000 7 0 50 true
    (by decide) documented ran replied).2⟩

end EmaczZephyr.Application
