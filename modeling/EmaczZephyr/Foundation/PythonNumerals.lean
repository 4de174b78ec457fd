import EmaczZephyr.Foundation.Numerals
import EmaczZephyr.Foundation.Printf
import EmaczZephyr.Foundation.PythonText

/-!
# Numerals between Python and C

A script formats integers into a text that a program reads with the C library, and reads
integers that a program has formatted, with the base taken from a prefix. Either way an
integer is what it was, as long as the type on the other side holds it.
-/

namespace EmaczZephyr.PythonNumerals

open BigEndian Printf PythonText

/-- `decode("ascii", errors="replace")`: bytes outside the basic set become the replacement
character, so that decoding cannot fail. -/
def decodeReplacing (bytes : List Byte) : List Char :=
  bytes.map fun byte => if byte.toNat < 128 then Char.ofNat byte.toNat else Char.ofNat 0xfffd

/-- `strip()`, which takes white space off both ends. -/
def strip (text : List Char) : List Char :=
  ((text.dropWhile isSpace).reverse.dropWhile isSpace).reverse

/-- `replace(old, new)`, for two characters. -/
def replaceChar (old new : Char) (text : List Char) : List Char :=
  text.map fun character => if character = old then new else character

/-- An integer in a formatted string: a minus sign where it is negative, and its decimal digits. -/
def formatInt (value : Int) : List Char :=
  if value < 0 then '-' :: decimal value.natAbs else decimal value.natAbs

/-- The base that a letter behind a leading zero stands for. -/
def prefixBase : Char → Option Nat
  | 'x' | 'X' => some 16
  | 'o' | 'O' => some 8
  | 'b' | 'B' => some 2
  | _ => none

/-- One underscore may stand between a prefix and the first digit. -/
def dropUnderscore : List Char → List Char
  | '_' :: rest => rest
  | text => text

/-- A numeral as a literal of the language has it: a prefix decides its base, and a decimal
numeral that starts with a zero must be zero. -/
def readLiteral : List Char → Option Nat
  | '0' :: mark :: rest =>
      match prefixBase mark with
      | some base => readNumeral base (dropUnderscore rest)
      | none => (readNumeral 10 ('0' :: mark :: rest)).filter (· = 0)
  | text => readNumeral 10 text

/-- `int(text, 0)`, of a text without white space: the prefix of the numeral decides its base. -/
def readInt0 (text : List Char) : Option Int := readSigned readLiteral text

/-- The words of a text with white space in it are those in front of it and those behind it. -/
theorem split_words_space (before : List Char) {space : Char} (after : List Char)
    (white : isSpace space = true) :
    splitWords (before ++ space :: after) = splitWords before ++ splitWords after := by
  rw [splitWords, splitWords, splitWords, List.splitOnP_append_cons before after white,
    List.filter_append]

/-- Words with one blank in front of each but the first are the words of their text. This is the
shape in which the board prints its replies. -/
theorem split_words_blanks {word : List Char} {others : List (List Char)}
    (solid : ∀ item ∈ word :: others, item ≠ [] ∧ ∀ character ∈ item, isSpace character = false) :
    splitWords (word ++ others.flatMap (' ' :: ·)) = word :: others := by
  have blank : ∀ character ∈ [' '], isSpace character = true := by
    simp
    decide
  have joined := split_words_joined solid blank (List.cons_ne_nil ' ' [])
  have nothing : splitWords [] = [] := rfl
  rwa [split_words_space _ [] (by decide), nothing, List.append_nil] at joined

/-- The last character of words with blanks between them is one of a word. -/
theorem joined_last {word : List Char} {others : List (List Char)} {last : Char}
    (filled : ∀ item ∈ word :: others, item ≠ [])
    (ends : (word ++ others.flatMap (' ' :: ·)).getLast? = some last) :
    ∃ item ∈ word :: others, last ∈ item := by
  induction others generalizing word with
  | nil =>
    rw [List.flatMap_nil, List.append_nil] at ends
    exact ⟨word, List.mem_cons_self, List.mem_of_getLast? ends⟩
  | cons next others inductionHypothesis =>
    have more : next ++ others.flatMap (' ' :: ·) ≠ [] :=
      List.append_ne_nil_of_left_ne_nil (filled next (by simp)) _
    have split : word ++ (next :: others).flatMap (' ' :: ·) =
        (word ++ [' ']) ++ (next ++ others.flatMap (' ' :: ·)) := by simp
    rw [split, List.getLast?_append_of_ne_nil _ more] at ends
    obtain ⟨item, member, inside⟩ := inductionHypothesis
      (fun item member => filled item (List.mem_cons_of_mem word member)) ends
    exact ⟨item, List.mem_cons_of_mem word member, inside⟩

/-- Stripping takes the white space behind a text that starts and ends with something else. -/
theorem strip_behind {text white : List Char}
    (starts : ∀ first, text.head? = some first → isSpace first = false)
    (ends : ∀ last, text.getLast? = some last → isSpace last = false) (filled : text ≠ [])
    (spaces : ∀ character ∈ white, isSpace character = true) : strip (text ++ white) = text := by
  obtain ⟨first, rest, rfl⟩ := List.exists_cons_of_ne_nil filled
  have front : (first :: rest ++ white).dropWhile isSpace = first :: rest ++ white := by
    rw [List.cons_append, List.dropWhile_cons_of_neg]
    simp [starts first rfl]
  obtain ⟨last, others, backwards⟩ :=
    List.exists_cons_of_ne_nil (List.reverse_eq_nil_iff.not.mpr filled)
  have back : (first :: rest).reverse.dropWhile isSpace = (first :: rest).reverse := by
    rw [backwards, List.dropWhile_cons_of_neg]
    have final : (first :: rest).getLast? = some last := by
      rw [← List.head?_reverse, backwards, List.head?_cons]
    simp [ends last final]
  rw [strip, front, List.reverse_append, List.dropWhile_append_of_pos, back, List.reverse_reverse]
  intro character member
  exact spaces character (List.mem_reverse.mp member)

/-- Decoding gives a text of the basic set back, since none of its bytes is replaced. -/
theorem decode_replacing {text : List Char} (basic : ∀ character ∈ text, character.toNat < 128) :
    decodeReplacing (text.map characterByte) = text := by
  rw [decodeReplacing, List.map_map]
  apply (List.map_congr_left _).trans (List.map_id text)
  intro character member
  have small := basic character member
  rw [Function.comp_apply, character_byte_value (by omega), if_pos small, Char.ofNat_toNat]
  rfl

/-- A character that does not occur is not replaced. -/
theorem replace_absent {old new : Char} {text : List Char} (absent : old ∉ text) :
    replaceChar old new text = text := by
  apply (List.map_congr_left _).trans (List.map_id text)
  intro character member
  refine if_neg ?_
  rintro rfl
  exact absent member

/-- Each character of a printed number is a decimal digit. -/
theorem decimal_digit {value : Nat} {character : Char} (member : character ∈ decimal value) :
    character.isDigit = true :=
  Nat.isDigit_of_mem_toDigits (by decide) (by decide) member

/-- The digits of a number have its value when they are read to the base ten. -/
theorem decimal_value (value : Nat) : Nat.ofDigitChars 10 (decimal value) 0 = value :=
  Nat.ofDigitChars_ten_toDigits

/-- A positive number does not start with a zero. Induction takes off the last digit. -/
theorem decimal_starts {value : Nat} (positive : 0 < value) :
    ∃ first rest, decimal value = first :: rest ∧ first ≠ '0' := by
  induction value using Nat.strongRecOn with
  | ind value inductionHypothesis =>
    rw [decimal, Nat.toDigits_eq_if (by decide)]
    by_cases small : value < 10
    · rw [if_pos small]
      refine ⟨_, [], rfl, ?_⟩
      match value, small, positive with
      | 1, _, _ | 2, _, _ | 3, _, _ | 4, _, _ | 5, _, _ | 6, _, _ | 7, _, _ | 8, _, _ | 9, _, _ =>
        decide
    · rw [if_neg small]
      obtain ⟨first, rest, digits, nonzero⟩ :=
        inductionHypothesis (value / 10) (by omega) (by omega)
      rw [decimal] at digits
      exact ⟨first, rest ++ [(value % 10).digitChar], by rw [digits]; rfl, nonzero⟩

/-- A number that is not negative is formatted as its digits alone. -/
theorem format_nat (value : Nat) : formatInt value = decimal value := by
  rw [formatInt, if_neg (by omega), Int.natAbs_natCast]

/-- A formatted integer has a sign and digits only, so that no white space and no separator is in
it. -/
theorem format_printable {value : Int} {character : Char} (member : character ∈ formatInt value) :
    45 ≤ character.toNat ∧ character.toNat ≤ 57 := by
  rw [formatInt] at member
  split at member
  · rcases List.mem_cons.mp member with rfl | digit
    · decide
    · have range := digit_range (decimal_digit digit)
      omega
  · have range := digit_range (decimal_digit member)
    omega

/-- A printed number is read back as a literal: it starts with a digit that is not zero, or it is
zero. -/
theorem read_literal_decimal (value : Nat) : readLiteral (decimal value) = some value := by
  rcases Nat.eq_zero_or_pos value with rfl | positive
  · decide
  · obtain ⟨first, rest, written, nonzero⟩ := decimal_starts positive
    rw [← read_numeral_digits value, ← decimal, written, readLiteral]
    rintro mark other same
    exact nonzero (List.cons.inj same).1

/-- A printed integer is read back, with its sign. A negative one is read behind its minus sign,
and its absolute value is negated again. -/
theorem read_formatted (value : Int) : readInt0 (formatInt value) = some value := by
  rw [formatInt]
  by_cases negative : value < 0
  · rw [if_pos negative, readInt0, readSigned, read_literal_decimal, Option.map_some]
    congr 1
    omega
  · rw [if_neg negative, readInt0, decimal, read_signed_digits, ← decimal, read_literal_decimal,
      Option.map_some]
    congr 1
    omega

/-- The byte of a decimal digit has the value of the digit for the board's parser. -/
theorem digit_value_byte {character : Char} (digit : character.isDigit = true) :
    Numerals.digitValue (characterByte character) = some (character.toNat - '0'.toNat) := by
  have range := digit_range digit
  rw [Numerals.digitValue, character_byte_value (by omega), if_pos range]
  rfl

/-- No digit of a base follows: the text ends, or a blank comes next. -/
def Ends (rest : List Byte) : Prop := ∀ byte, rest.head? = some byte → byte = 32#8

/-- The board's parser reads a row of decimal digits as Python's does, and stops where they end.
Induction over the digits, with the value so far. -/
theorem read_digits_bytes {digits : List Char} {rest : List Byte} (value : Nat)
    (decimal : ∀ character ∈ digits, character.isDigit = true) (ends : Ends rest) :
    Numerals.readDigits 10 value (digits.map characterByte ++ rest) =
      (Nat.ofDigitChars 10 digits value, rest) := by
  induction digits generalizing value with
  | nil =>
    cases rest with
    | nil => rfl
    | cons byte rest =>
      obtain rfl := ends byte rfl
      rfl
  | cons character others inductionHypothesis =>
    have digit := decimal character List.mem_cons_self
    have range := digit_range digit
    have small : character.toNat - '0'.toNat < 10 := by
      change character.toNat - 48 < 10
      omega
    rw [List.map_cons, List.cons_append, Numerals.readDigits, digit_value_byte digit]
    dsimp only
    rw [if_pos small, Nat.mul_comm, inductionHypothesis, Nat.ofDigitChars_cons]
    exact fun later member => decimal later (List.mem_cons_of_mem character member)

/-- A decimal number in front of a blank or the end is read by `strtoul`, cut to the largest of
its type. -/
theorem strtoul_decimal (largest value : Nat) {rest : List Byte} (ends : Ends rest) :
    Numerals.strtoul largest ((decimal value).map characterByte ++ rest) =
      (min value largest, rest) := by
  rcases Nat.eq_zero_or_pos value with rfl | positive
  · have zero : (decimal 0).map characterByte = [48#8] := by decide
    rw [zero]
    cases rest with
    | nil => rfl
    | cons byte rest =>
      obtain rfl := ends byte rfl
      cases rest <;> rfl
  · have digits : ∀ character ∈ decimal value, character.isDigit = true :=
      fun _ member => decimal_digit member
    have read := read_digits_bytes 0 digits ends
    rw [decimal_value] at read
    obtain ⟨first, others, written, nonzero⟩ := decimal_starts positive
    have range := digit_range (digits first (written ▸ List.mem_cons_self))
    have leading : characterByte first ≠ 48#8 := by
      intro same
      have byte := congrArg BitVec.toNat same
      rw [character_byte_value (by omega)] at byte
      exact nonzero (Char.toNat_inj.mp byte)
    rw [written, List.map_cons, List.cons_append] at read ⊢
    have hex : Numerals.startsHex (characterByte first :: (others.map characterByte ++ rest)) =
        false := by
      unfold Numerals.startsHex
      split
      · rename_i same
        exact absurd (List.cons.inj same).1 leading
      · rfl
    rw [Numerals.strtoul, hex, if_neg Bool.false_ne_true, if_neg, read]
    simpa using leading

end EmaczZephyr.PythonNumerals
