import EmaczZephyr.Foundation.BigEndian

/-!
# Numbers in text

Numerals as the C library reads them. A text is a list of bytes; what follows a numeral is
returned with its value.
-/

namespace EmaczZephyr.Numerals

open BigEndian

/-- The value of a digit or letter, letters of both cases counting on from ten. -/
def digitValue (character : Byte) : Option Nat :=
  if 48 ≤ character.toNat ∧ character.toNat ≤ 57 then some (character.toNat - 48)
  else if 97 ≤ character.toNat ∧ character.toNat ≤ 122 then some (character.toNat - 87)
  else if 65 ≤ character.toNat ∧ character.toNat ≤ 90 then some (character.toNat - 55)
  else none

/-- The longest numeral in a base that a text starts with: its value, on top of one read
before, and the rest of the text. -/
def readDigits (base : Nat) (value : Nat) : List Byte → Nat × List Byte
  | [] => (value, [])
  | character :: rest =>
      match digitValue character with
      | none => (value, character :: rest)
      | some digit =>
          if digit < base then readDigits base (value * base + digit) rest
          else (value, character :: rest)

/-- A hexadecimal numeral follows: the mark, and behind it at least one hexadecimal digit. -/
def startsHex : List Byte → Bool
  | 48#8 :: mark :: first :: _ =>
      (mark = 120#8 ∨ mark = 88#8) ∧ (digitValue first).any (· < 16)
  | _ => false

/-- `strtoul` with base 0, on a text that starts with a digit: a larger number is cut to the
largest one of the type. -/
def strtoul (largest : Nat) (text : List Byte) : Nat × List Byte :=
  let (value, rest) :=
    if startsHex text then readDigits 16 0 (text.drop 2)
    else if text.head? = some 48#8 then readDigits 8 0 text
    else readDigits 10 0 text
  (min value largest, rest)

/-- What is read is a number of the type, because a larger one is cut to the largest. -/
theorem strtoul_le (largest : Nat) (text : List Byte) : (strtoul largest text).1 ≤ largest :=
  Nat.min_le_right _ _

end EmaczZephyr.Numerals
