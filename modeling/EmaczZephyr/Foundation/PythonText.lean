import Mathlib.Data.List.Nodup
import EmaczZephyr.Foundation.BigEndian

/-!
# Texts in Python

The string operations with which a script takes a datagram apart: decoding, splitting at
white space and at a separator, reading an integer, and a dictionary with its entries in the
order of insertion. A text is a list of characters of the basic set.
-/

namespace EmaczZephyr.PythonText

open BigEndian

/-- `decode("ascii", errors="strict")`, which has no result when some byte is outside the basic
set. -/
def decodeAscii : List Byte → Option (List Char)
  | [] => some []
  | byte :: rest =>
      if byte.toNat < 128 then (decodeAscii rest).map (Char.ofNat byte.toNat :: ·) else none

/-- `isspace`, for the characters that the basic set has. -/
def isSpace (character : Char) : Bool :=
  9 ≤ character.toNat ∧ character.toNat ≤ 13 ∨ 28 ≤ character.toNat ∧ character.toNat ≤ 32

/-- `split()`: the words between white space, without empty ones, which also strips the text. -/
def splitWords (text : List Char) : List (List Char) :=
  (text.splitOnP isSpace).filter (fun word => !word.isEmpty)

/-- `split(separator, 1)`: what stands in front of the first separator and what behind it. There
is no result where it does not occur. -/
def splitOnce (separator : Char) : List Char → Option (List Char × List Char)
  | [] => none
  | character :: rest =>
      if character = separator then some ([], rest)
      else (splitOnce separator rest).map fun parts => (character :: parts.1, parts.2)

/-- The value of a digit or letter, where it is below the base. -/
def digitOf (base : Nat) (character : Char) : Option Nat :=
  let digit :=
    if character.isDigit then some (character.toNat - 48)
    else if character.isLower then some (character.toNat - 87)
    else if character.isUpper then some (character.toNat - 55)
    else none
  digit.filter (· < base)

/-- The digits behind the first, with single underscores allowed between two of them. -/
def readTail (base value : Nat) : List Char → Option Nat
  | [] => some value
  | '_' :: character :: rest =>
      (digitOf base character).bind fun digit => readTail base (base * value + digit) rest
  | character :: rest =>
      (digitOf base character).bind fun digit => readTail base (base * value + digit) rest

/-- A numeral in a base: at least one digit, and no underscore in front. -/
def readNumeral (base : Nat) : List Char → Option Nat
  | [] => none
  | character :: rest => (digitOf base character).bind fun digit => readTail base digit rest

/-- A sign in front of what is read, or none; a minus sign negates the result. -/
def readSigned (read : List Char → Option Nat) : List Char → Option Int
  | '+' :: rest => (read rest).map Nat.cast
  | '-' :: rest => (read rest).map fun value : Nat => -(value : Int)
  | text => (read text).map Nat.cast

/-- `int(text, 10)`, of a text without white space. -/
def readInt (text : List Char) : Option Int := readSigned (readNumeral 10) text

/-- A dictionary, as its entries in the order in which their names were stored first. -/
abbrev Dict (Value : Type) := List (List Char × Value)

variable {Value : Type}

/-- `fields[name] = value`: a name that is there keeps its place and gets the value, a new one
goes to the end. -/
def store (name : List Char) (value : Value) : Dict Value → Dict Value
  | [] => [(name, value)]
  | entry :: rest =>
      if entry.1 = name then (name, value) :: rest else entry :: store name value rest

/-- Decoding gives back a text of the basic set, character by character. -/
theorem decode_encode {text : List Char} (basic : ∀ character ∈ text, character.toNat < 128) :
    decodeAscii (text.map fun character => BitVec.ofNat 8 character.toNat) = some text := by
  induction text with
  | nil => rfl
  | cons character rest hypothesis =>
      have small : character.toNat < 128 := basic character List.mem_cons_self
      have byte : (BitVec.ofNat 8 character.toNat).toNat = character.toNat := by
        rw [BitVec.toNat_ofNat, Nat.mod_eq_of_lt (by omega)]
      rw [List.map_cons, decodeAscii, byte, if_pos small,
        hypothesis fun later member => basic later (List.mem_cons_of_mem character member)]
      rw [Option.map_some, Char.ofNat_toNat]

/-- A word with white space behind it is the first word of the text, and the rest has the others. -/
theorem split_words_cons {word : List Char} {space : Char} (rest : List Char)
    (solid : ∀ character ∈ word, isSpace character = false) (white : isSpace space = true)
    (filled : word ≠ []) : splitWords (word ++ space :: rest) = word :: splitWords rest := by
  rw [splitWords, List.splitOnP_append_cons_of_forall_mem solid space white,
    List.filter_cons_of_pos, splitWords]
  simpa using filled

/-- White space has no words, however much of it there is. -/
theorem split_words_white {white : List Char}
    (spaces : ∀ character ∈ white, isSpace character = true) : splitWords white = [] := by
  induction white with
  | nil => rfl
  | cons space rest hypothesis =>
      have split : (space :: rest).splitOnP isSpace = [] :: rest.splitOnP isSpace :=
        List.splitOnP_append_cons_of_forall_mem (fun _ member => absurd member List.not_mem_nil)
          space (spaces space List.mem_cons_self) rest
      rw [splitWords, split, List.filter_cons_of_neg (by decide)]
      exact hypothesis fun later member => spaces later (List.mem_cons_of_mem space member)

/-- Words with a blank in front of each but the first, and white space behind the last. -/
theorem split_words_joined {word : List Char} {others : List (List Char)} {white : List Char}
    (solid : ∀ item ∈ word :: others, item ≠ [] ∧ ∀ character ∈ item, isSpace character = false)
    (spaces : ∀ character ∈ white, isSpace character = true) (ends : white ≠ []) :
    splitWords (word ++ others.flatMap (' ' :: ·) ++ white) = word :: others := by
  induction others generalizing word with
  | nil =>
      obtain ⟨space, rest, rfl⟩ := List.exists_cons_of_ne_nil ends
      obtain ⟨filled, letters⟩ := solid word List.mem_cons_self
      rw [List.flatMap_nil, List.append_nil,
        split_words_cons rest letters (spaces space List.mem_cons_self) filled,
        split_words_white fun later member => spaces later (List.mem_cons_of_mem space member)]
  | cons next others hypothesis =>
      obtain ⟨filled, letters⟩ := solid word List.mem_cons_self
      have first : word ++ (next :: others).flatMap (' ' :: ·) ++ white =
          word ++ ' ' :: (next ++ others.flatMap (' ' :: ·) ++ white) := by
        simp only [List.flatMap_cons, List.cons_append, List.append_assoc]
      rw [first, split_words_cons _ letters (by decide) filled,
        hypothesis fun item member => solid item (List.mem_cons_of_mem word member)]

/-- A text is split at a separator that does not occur in front of it. Induction over what stands
in front. -/
theorem split_once_append {separator : Char} {name : List Char} (value : List Char)
    (absent : separator ∉ name) :
    splitOnce separator (name ++ separator :: value) = some (name, value) := by
  induction name with
  | nil => exact if_pos rfl
  | cons character rest hypothesis =>
      have other : character ≠ separator := fun same => absent (same ▸ List.mem_cons_self)
      rw [List.cons_append, splitOnce, if_neg other, hypothesis fun member =>
        absent (List.mem_cons_of_mem character member)]
      rfl

/-- The code of a decimal digit lies between those of zero and nine. -/
theorem digit_range {character : Char} (digit : character.isDigit = true) :
    48 ≤ character.toNat ∧ character.toNat ≤ 57 := by
  simpa [Char.isDigit, UInt32.le_iff_toNat_le] using digit

/-- A decimal digit has its value in base ten, counted from the code of zero. -/
theorem digit_of_decimal {character : Char} (digit : character.isDigit = true) :
    digitOf 10 character = some (character.toNat - '0'.toNat) := by
  have range := digit_range digit
  rw [digitOf, if_pos digit]
  exact if_pos (by simp; omega)

/-- Digits behind the first are read to their value, on top of what was read. Induction takes
them one by one; no digit is an underscore. -/
theorem read_tail_digits {digits : List Char} (value : Nat)
    (decimal : ∀ character ∈ digits, character.isDigit = true) :
    readTail 10 value digits = some (Nat.ofDigitChars 10 digits value) := by
  induction digits generalizing value with
  | nil => rfl
  | cons character rest hypothesis =>
      have digit := decimal character List.mem_cons_self
      have underscore : character ≠ '_' := by
        rintro rfl
        exact absurd digit (by decide)
      rw [readTail, digit_of_decimal digit, Option.bind_some, hypothesis, Nat.ofDigitChars_cons]
      · exact fun later member => decimal later (List.mem_cons_of_mem character member)
      · intro _ _ same _
        exact underscore same

/-- A printed number has a first digit, and every character of it is a decimal digit. -/
theorem printed_cons (value : Nat) : ∃ first rest, Nat.toDigits 10 value = first :: rest ∧
    ∀ character ∈ first :: rest, character.isDigit = true := by
  obtain ⟨first, rest, digits⟩ := List.exists_cons_of_ne_nil
    (Nat.toDigits_ne_nil : Nat.toDigits 10 value ≠ [])
  refine ⟨first, rest, digits, ?_⟩
  rw [← digits]
  exact fun character member => Nat.isDigit_of_mem_toDigits (by decide) (by decide) member

/-- A printed number is read back. The first digit starts the value, and the others are read by
the general law of digits. -/
theorem read_numeral_digits (value : Nat) :
    readNumeral 10 (Nat.toDigits 10 value) = some value := by
  have printed : Nat.ofDigitChars 10 (Nat.toDigits 10 value) 0 = value :=
    Nat.ofDigitChars_ten_toDigits
  obtain ⟨first, rest, written, decimal⟩ := printed_cons value
  rw [written] at printed ⊢
  rw [readNumeral, digit_of_decimal (decimal first List.mem_cons_self), Option.bind_some,
    read_tail_digits _ fun later member => decimal later (List.mem_cons_of_mem first member),
    ← printed, Nat.ofDigitChars_cons, Nat.mul_zero, Nat.zero_add]

/-- A printed number has no sign in front, so it is read without one, by whatever reads the
digits. -/
theorem read_signed_digits (read : List Char → Option Nat) (value : Nat) :
    readSigned read (Nat.toDigits 10 value) =
      (read (Nat.toDigits 10 value)).map Nat.cast := by
  obtain ⟨first, rest, written, decimal⟩ := printed_cons value
  have digit := decimal first List.mem_cons_self
  have sign : first ≠ '+' ∧ first ≠ '-' := by
    constructor <;> (rintro rfl; exact absurd digit (by decide))
  rw [written, readSigned]
  · rintro _ same
    exact sign.1 (List.cons.inj same).1
  · rintro _ same
    exact sign.2 (List.cons.inj same).1

/-- A printed number is read back as an integer, since it has no sign and its digits are read
back. -/
theorem read_int_digits (value : Nat) : readInt (Nat.toDigits 10 value) = some (value : Int) := by
  rw [readInt, read_signed_digits, read_numeral_digits]
  rfl

/-- A name that is not in the dictionary goes to the end, and the entries in front of it stay. -/
theorem store_new {name : List Char} {fields : Dict Value} (value : Value)
    (absent : name ∉ fields.map Prod.fst) :
    store name value fields = fields ++ [(name, value)] := by
  induction fields with
  | nil => rfl
  | cons entry rest hypothesis =>
      rw [List.map_cons, List.mem_cons, not_or] at absent
      rw [store, if_neg (Ne.symm absent.1), hypothesis absent.2, List.cons_append]

end EmaczZephyr.PythonText
