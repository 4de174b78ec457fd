import EmaczZephyr.Foundation.BigEndian

/-!
# Reads within a length

A byte string of which a program may read the first `len` bytes only. A read elsewhere has
no result, so a program that is written with these reads has a result exactly when it stays
inside.
-/

namespace EmaczZephyr.GuardedReads

open BigEndian

variable {bytes : List Byte} {len index : Nat}

/-- The byte at an index, if a program may read it there. -/
def read8 (bytes : List Byte) (len index : Nat) : Option Byte :=
  if index < len then some (get8 bytes index) else none

/-- The big-endian half word at an index, by two reads of a byte. -/
def read16 (bytes : List Byte) (len index : Nat) : Option (BitVec 16) := do
  let high ← read8 bytes len index
  let low ← read8 bytes len (index + 1)
  some (high ++ low)

/-- The big-endian word at an index, by two reads of a half word. -/
def read32 (bytes : List Byte) (len index : Nat) : Option (BitVec 32) := do
  let high ← read16 bytes len index
  let low ← read16 bytes len (index + 2)
  some (high ++ low)

/-- The six bytes at an index as a number, by a read of a word and one of a half word. -/
def read48 (bytes : List Byte) (len index : Nat) : Option (BitVec 48) := do
  let high ← read32 bytes len index
  let low ← read16 bytes len (index + 4)
  some (high ++ low)

/-- A copy of `count` bytes from an index on, if all of them may be read. -/
def readBytes (bytes : List Byte) (len index count : Nat) : Option (List Byte) :=
  if index + count ≤ len then some ((bytes.drop index).take count) else none

/-- Inside of the length the read of a byte has the byte as its result. -/
theorem read8_inside (inside : index < len) : read8 bytes len index = some (get8 bytes index) :=
  if_pos inside

/-- A half word whose second byte is inside is read whole, and is the one of the plain load. -/
theorem read16_inside (inside : index + 1 < len) :
    read16 bytes len index = some (get16 bytes index) := by
  rw [read16, read8_inside (by omega), read8_inside inside]
  rfl

/-- A word whose last byte is inside is read whole, and is the one of the plain load. -/
theorem read32_inside (inside : index + 3 < len) :
    read32 bytes len index = some (get32 bytes index) := by
  rw [read32, read16_inside (by omega), read16_inside (by omega)]
  rfl

/-- Six bytes are read whole when the last of them is inside, and give the number of the plain
load. -/
theorem read48_inside (inside : index + 5 < len) :
    read48 bytes len index = some (get48 bytes index) := by
  rw [read48, read32_inside (by omega), read16_inside (by omega)]
  rfl

/-- A copy that ends inside has exactly the bytes of the string there. -/
theorem readBytes_inside {count : Nat} (inside : index + count ≤ len) :
    readBytes bytes len index count = some ((bytes.drop index).take count) :=
  if_pos inside

end EmaczZephyr.GuardedReads
