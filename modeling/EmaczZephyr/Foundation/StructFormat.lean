import Mathlib.Algebra.Ring.Nat
import EmaczZephyr.Foundation.BigEndian

/-!
# Packing values by a format

A format is a list of fields: strings of bytes, numbers of one byte and of four, and
padding. Packing lays values out in order, big-endian and without gaps. A string is cut
or filled up with zeros to the width of its field, a number must fit its field, and
padding is zero and has no value. Unpacking reads any bytes of the right length.
-/

namespace EmaczZephyr.StructFormat

open BigEndian

/-- A field of a format, by the letter that describes it. -/
inductive Field where
  /-- `ns` -/
  | text (width : Nat)
  /-- `B` -/
  | byte
  /-- `I` -/
  | word
  /-- `nx` -/
  | pad (width : Nat)
deriving DecidableEq

/-- A value that is packed or unpacked: bytes for a text field, a number for the others. -/
inductive Value where
  | bytes (content : List Byte)
  | number (value : Int)
deriving DecidableEq

/-- The bytes that a field takes. -/
def Field.width : Field → Nat
  | .text width => width
  | .byte => 1
  | .word => 4
  | .pad width => width

/-- The length of what a format packs, which is that of its fields together. -/
def size (fields : List Field) : Nat := (fields.map Field.width).sum

/-- The bytes of one value, or nothing where the value does not go with the field. -/
def packField : Field → Value → Option (List Byte)
  | .text width, .bytes content => some ((content ++ List.replicate width 0#8).take width)
  | .byte, .number value =>
      if 0 ≤ value ∧ value < 256 then some [BitVec.ofInt 8 value] else none
  | .word, .number value =>
      if 0 ≤ value ∧ value < 4294967296 then some (put32 (BitVec.ofInt 32 value)) else none
  | _, _ => none

/-- The bytes of the values, in the order of the fields. Padding takes no value; a missing or
superfluous value is an error, as one that does not fit. -/
def pack : List Field → List Value → Option (List Byte)
  | [], [] => some []
  | .pad width :: fields, values => (pack fields values).map (List.replicate width 0#8 ++ ·)
  | field :: fields, value :: values => do
      let head ← packField field value
      let rest ← pack fields values
      some (head ++ rest)
  | _, _ => none

/-- The values of the fields at the front of some bytes, one field behind the other. -/
def unpackFields : List Field → List Byte → List Value
  | [], _ => []
  | .text width :: fields, bytes =>
      .bytes (bytes.take width) :: unpackFields fields (bytes.drop width)
  | .byte :: fields, bytes => .number (get8 bytes 0).toNat :: unpackFields fields (bytes.drop 1)
  | .word :: fields, bytes => .number (get32 bytes 0).toNat :: unpackFields fields (bytes.drop 4)
  | .pad width :: fields, bytes => unpackFields fields (bytes.drop width)

/-- The values in bytes of the right length, and an error for any other length. -/
def unpack (fields : List Field) (bytes : List Byte) : Option (List Value) :=
  if bytes.length = size fields then some (unpackFields fields bytes) else none

/-- A byte is packed as itself, since its number is in the range of the field. -/
theorem pack_byte (value : Byte) : packField .byte (.number value.toNat) = some [value] := by
  have range : (0 : Int) ≤ value.toNat ∧ (value.toNat : Int) < 256 := by
    have bound := value.isLt
    omega
  simp [packField, range]

/-- A word is packed as its four bytes in network order, since its number is in the range of the
field. -/
theorem pack_word (value : BitVec 32) :
    packField .word (.number value.toNat) = some (put32 value) := by
  have range : (0 : Int) ≤ value.toNat ∧ (value.toNat : Int) < 4294967296 := by
    have bound := value.isLt
    omega
  simp [packField, range]

/-- Bytes of exactly the field's width are packed as they are, neither cut nor filled up. -/
theorem pack_text {width : Nat} {content : List Byte} (whole : content.length = width) :
    packField (.text width) (.bytes content) = some content := by
  rw [packField, List.take_left' whole]

/-- A value is packed into the width of its field, whatever it is: text is cut or filled up, and
numbers have their bytes. -/
theorem pack_field_length {field : Field} {value : Value} {bytes : List Byte}
    (packed : packField field value = some bytes) : bytes.length = field.width := by
  unfold packField at packed
  split at packed
  · obtain rfl := Option.some_inj.mp packed
    simp [Field.width]
  · obtain ⟨-, single⟩ := Option.ite_none_right_eq_some.mp packed
    exact congrArg List.length (Option.some_inj.mp single).symm
  · obtain ⟨-, word⟩ := Option.ite_none_right_eq_some.mp packed
    exact congrArg List.length (Option.some_inj.mp word).symm
  · cases packed

/-- What a format packs has its length. Induction along the cases of packing, each field by its
own width. -/
theorem pack_length {fields : List Field} {values : List Value} {bytes : List Byte}
    (packed : pack fields values = some bytes) : bytes.length = size fields := by
  induction fields, values using pack.induct generalizing bytes with
  | case1 =>
      obtain rfl := Option.some_inj.mp packed
      rfl
  | case2 width fields values hypothesis =>
      rw [pack, Option.map_eq_some_iff] at packed
      obtain ⟨rest, packed, rfl⟩ := packed
      rw [List.length_append, List.length_replicate, hypothesis packed]
      rfl
  | case3 field fields value values other hypothesis =>
      rw [pack, Option.bind_eq_bind, Option.bind_eq_some_iff] at packed
      obtain ⟨head, first, packed⟩ := packed
      obtain ⟨rest, more, joined⟩ := Option.bind_eq_some_iff.mp packed
      obtain rfl := Option.some_inj.mp joined
      rw [List.length_append, pack_field_length first, hypothesis more]
      rfl
      exact other
  | case4 fields values empty padding both =>
      rw [pack] at packed
      cases packed
      all_goals assumption

end EmaczZephyr.StructFormat
