import Mathlib.Algebra.Ring.Nat
import EmaczZephyr.Foundation.BigEndian

/-!
# Formatted output

A format is a list of literal texts and conversions, and an argument has the type that its
conversion names. Formatting into a buffer returns the length of the whole text and stores
what the buffer has room for in front of the terminator, so a caller that takes the returned
length for the stored one reads too far exactly when the text does not fit.
-/

namespace EmaczZephyr.Printf

open BigEndian

/-- A piece of a format string: text that is copied, or one of the two conversions in use. -/
inductive Piece where
  | literal (text : String)
  /-- `%u` -/
  | u
  /-- `%llu` -/
  | llu

/-- An argument of a call, with the width that its C type has. -/
inductive Argument where
  | word (value : BitVec 32)
  | quad (value : BitVec 64)

/-- The number that an argument stands for, as an unsigned conversion prints it. -/
def Argument.value : Argument → Nat
  | .word value => value.toNat
  | .quad value => value.toNat

/-- A number that fits 32 bits is passed as itself. -/
theorem word_value {value : Nat} (small : value < 2 ^ 32) :
    (Argument.word (BitVec.ofNat 32 value)).value = value := by
  rw [Argument.value, BitVec.toNat_ofNat, Nat.mod_eq_of_lt small]

/-- A number that fits 64 bits is passed as itself. -/
theorem quad_value {value : Nat} (small : value < 2 ^ 64) :
    (Argument.quad (BitVec.ofNat 64 value)).value = value := by
  rw [Argument.value, BitVec.toNat_ofNat, Nat.mod_eq_of_lt small]

/-- The decimal digits of a number, the highest first and no leading zeros. -/
def decimal (value : Nat) : List Char := Nat.toDigits 10 value

/-- Every number has at least one digit. -/
theorem decimal_cons (value : Nat) : ∃ first rest, decimal value = first :: rest :=
  List.exists_cons_of_ne_nil Nat.toDigits_ne_nil

/-- The text, if every conversion meets an argument of its type. A conversion without its
argument has undefined behaviour in C and no result here. -/
def formatText : List Piece → List Argument → Option (List Char)
  | [], [] => some []
  | .literal text :: pieces, arguments => (formatText pieces arguments).map (text.toList ++ ·)
  | .u :: pieces, .word value :: arguments =>
      (formatText pieces arguments).map (decimal value.toNat ++ ·)
  | .llu :: pieces, .quad value :: arguments =>
      (formatText pieces arguments).map (decimal value.toNat ++ ·)
  | _, _ => none

/-- What a call leaves: the returned length, which counts the whole text, and the stored bytes
without their terminator. -/
structure Formatted where
  returned : Nat
  stored : List Byte

/-- The byte of a character of the basic set. -/
def characterByte (character : Char) : Byte := BitVec.ofNat 8 character.toNat

/-- The byte of a character below 256 has the character's code. -/
theorem character_byte_value {character : Char} (small : character.toNat < 256) :
    (characterByte character).toNat = character.toNat := by
  rw [characterByte, BitVec.toNat_ofNat, Nat.mod_eq_of_lt small]

/-- `snprintk`: it stores as much of the text as fits in front of a terminator, and returns the
length of all of it. -/
def snprintk (capacity : Nat) (pieces : List Piece) (arguments : List Argument) :
    Option Formatted :=
  (formatText pieces arguments).map fun text =>
    ⟨text.length, (text.take (capacity - 1)).map characterByte⟩

/-- The bytes that a caller sends who trusts the returned length: those at the buffer's address,
stored ones first, and what lies behind the buffer after them. -/
def Formatted.sent (formatted : Formatted) (behind : List Byte) : List Byte :=
  (formatted.stored ++ behind).take formatted.returned

/-- The returned length covers nothing but stored characters, so that a caller who sends that
many stays inside the buffer. -/
def Formatted.NoOverRead (formatted : Formatted) : Prop :=
  formatted.returned ≤ formatted.stored.length

/-- The characters of a piece that do not depend on an argument. -/
def Piece.characters : Piece → Nat
  | .literal text => text.toList.length
  | .u => 0
  | .llu => 0

/-- The characters of the literal texts of a format, together. -/
def literalLength (pieces : List Piece) : Nat := (pieces.map Piece.characters).sum

/-- The digits that the arguments print, together. -/
def digitCount (arguments : List Argument) : Nat :=
  (arguments.map fun argument => (decimal argument.value).length).sum

/-- A text is as long as its literals and its digits. Induction along the cases of the formatter. -/
theorem format_length {pieces : List Piece} {arguments : List Argument} {text : List Char}
    (formatted : formatText pieces arguments = some text) :
    text.length = literalLength pieces + digitCount arguments := by
  induction pieces, arguments using formatText.induct generalizing text with
  | case1 =>
      obtain rfl := Option.some_inj.mp formatted
      rfl
  | case2 literal pieces arguments hypothesis =>
      rw [formatText, Option.map_eq_some_iff] at formatted
      obtain ⟨rest, formatted, rfl⟩ := formatted
      rw [List.length_append, hypothesis formatted]
      simp only [literalLength, Piece.characters, List.map_cons, List.sum_cons]
      omega
  | case3 pieces value arguments hypothesis =>
      rw [formatText, Option.map_eq_some_iff] at formatted
      obtain ⟨rest, formatted, rfl⟩ := formatted
      rw [List.length_append, hypothesis formatted]
      simp only [literalLength, Piece.characters, digitCount, Argument.value, List.map_cons,
        List.sum_cons]
      omega
  | case4 pieces value arguments hypothesis =>
      rw [formatText, Option.map_eq_some_iff] at formatted
      obtain ⟨rest, formatted, rfl⟩ := formatted
      rw [List.length_append, hypothesis formatted]
      simp only [literalLength, Piece.characters, digitCount, Argument.value, List.map_cons,
        List.sum_cons]
      omega
  | case5 pieces arguments =>
      rw [formatText] at formatted
      cases formatted
      all_goals assumption

/-- The conversion that takes an argument of this width. -/
def Argument.piece : Argument → Piece
  | .word _ => .u
  | .quad _ => .llu

/-- A label with its argument prints the label and the digits, and goes on with the rest. -/
theorem format_argument (label : String) (argument : Argument) (pieces : List Piece)
    (arguments : List Argument) :
    formatText (.literal label :: argument.piece :: pieces) (argument :: arguments) =
      (formatText pieces arguments).map (label.toList ++ decimal argument.value ++ ·) := by
  have joined : (label.toList ++ ·) ∘ (decimal argument.value ++ ·) =
      (label.toList ++ decimal argument.value ++ ·) := funext fun rest =>
    (List.append_assoc _ _ rest).symm
  cases argument with
  | word value =>
      rw [formatText, Argument.piece, formatText, Option.map_map]
      exact congrArg₂ _ joined rfl
  | quad value =>
      rw [formatText, Argument.piece, formatText, Option.map_map]
      exact congrArg₂ _ joined rfl

/-- A format in which every argument has a label in front prints label and digits in turn, and
the closing text at the end. Induction over the fields. -/
theorem format_labelled (fields : List (String × Argument)) (closing : String) :
    formatText (fields.flatMap (fun field => [.literal field.1, field.2.piece]) ++
        [.literal closing]) (fields.map Prod.snd) =
      some (fields.flatMap (fun field => field.1.toList ++ decimal field.2.value) ++
        closing.toList) := by
  induction fields with
  | nil => exact congrArg some (List.append_nil closing.toList)
  | cons field rest hypothesis =>
      rw [List.flatMap_cons, List.flatMap_cons, List.map_cons, List.append_assoc, List.cons_append,
        List.cons_append, List.nil_append, format_argument, hypothesis, Option.map_some]
      simp only [List.append_assoc]

/-- A text is read within the buffer exactly when its terminator fits too: storing cuts it to one
less than the capacity. -/
theorem no_over_read_iff {capacity : Nat} {text : List Char} (room : 0 < capacity) :
    Formatted.NoOverRead ⟨text.length, (text.take (capacity - 1)).map characterByte⟩ ↔
      text.length < capacity := by
  change text.length ≤ ((text.take (capacity - 1)).map characterByte).length ↔ _
  rw [List.length_map, List.length_take]
  omega

/-- What is sent of a text that fits is the text, whatever lies behind the buffer. -/
theorem sent_fits {capacity : Nat} {text : List Char} (fits : text.length < capacity)
    (behind : List Byte) :
    Formatted.sent ⟨text.length, (text.take (capacity - 1)).map characterByte⟩ behind =
      text.map characterByte := by
  rw [Formatted.sent, List.take_of_length_le (Nat.le_sub_one_of_lt fits)]
  exact List.take_left' (List.length_map _)

/-- A number below a power of ten has no more digits than the exponent. -/
theorem decimal_length {value count : Nat} (positive : 0 < count) (small : value < 10 ^ count) :
    (decimal value).length ≤ count :=
  (Nat.length_toDigits_le_iff (by decide) positive).mpr small

/-- The digits that an argument takes at most, which is what the largest number of its width
takes. -/
def Argument.width : Argument → Nat
  | .word _ => 10
  | .quad _ => 20

/-- The digits of an argument are at most those of its width, since its number stays below the
power of ten. -/
theorem argument_digits (argument : Argument) :
    (decimal argument.value).length ≤ argument.width := by
  cases argument with
  | word value =>
      have small : value.toNat < 10 ^ 10 := Nat.lt_trans value.isLt (by decide)
      exact decimal_length (show 0 < 10 by decide) small
  | quad value =>
      have small : value.toNat < 10 ^ 20 := Nat.lt_trans value.isLt (by decide)
      exact decimal_length (show 0 < 20 by decide) small

/-- The digits of all arguments are at most those of their widths, added up. -/
theorem digits_bounded (arguments : List Argument) :
    digitCount arguments ≤ (arguments.map Argument.width).sum := by
  induction arguments with
  | nil => exact Nat.le_refl 0
  | cons argument rest hypothesis => exact Nat.add_le_add (argument_digits argument) hypothesis

end EmaczZephyr.Printf
