import Mathlib.Data.List.Basic

/-!
# Big-endian words in byte strings

Storing and loading of 16-, 32- and 48-bit words. A load reads the bytes from an
offset; a byte beyond the end reads as zero, so that a load is total.
-/

namespace EmaczZephyr.BigEndian

/-- A byte of a frame, a message or a memory, always as a word of eight bits. -/
abbrev Byte := BitVec 8

/-- The two bytes of a half word in network order, the high one first. -/
def put16 (value : BitVec 16) : List Byte := [value.extractLsb' 8 8, value.extractLsb' 0 8]

/-- The four bytes of a word in network order, from the highest to the lowest. -/
def put32 (value : BitVec 32) : List Byte :=
  [value.extractLsb' 24 8, value.extractLsb' 16 8, value.extractLsb' 8 8, value.extractLsb' 0 8]

/-- The six bytes of a link address in network order, from the highest to the lowest. -/
def put48 (value : BitVec 48) : List Byte :=
  [value.extractLsb' 40 8, value.extractLsb' 32 8, value.extractLsb' 24 8, value.extractLsb' 16 8,
    value.extractLsb' 8 8, value.extractLsb' 0 8]

/-- A stored word takes four bytes, whatever its value. -/
@[simp]
theorem put32_length (value : BitVec 32) : (put32 value).length = 4 := rfl

/-- A stored link address takes six bytes, whatever its value. -/
@[simp]
theorem put48_length (value : BitVec 48) : (put48 value).length = 6 := rfl

/-- The byte at an offset. Beyond the end it reads as zero, so that every load is total. -/
def get8 (bytes : List Byte) (offset : Nat) : Byte := bytes.getD offset 0#8

/-- The half word at an offset, from the byte there and the one behind it. -/
def get16 (bytes : List Byte) (offset : Nat) : BitVec 16 :=
  get8 bytes offset ++ get8 bytes (offset + 1)

/-- The word at an offset, from two half words that lie side by side. -/
def get32 (bytes : List Byte) (offset : Nat) : BitVec 32 :=
  get16 bytes offset ++ get16 bytes (offset + 2)

/-- The link address at an offset, from a word and the half word behind it. -/
def get48 (bytes : List Byte) (offset : Nat) : BitVec 48 :=
  get32 bytes offset ++ get16 bytes (offset + 4)

/-- Neighbouring parts of a word are one part. Each bit lies in the upper or in the lower of the
two, and the offsets add up. -/
theorem extract_append {width : Nat} (value : BitVec width) (start high low : Nat) :
    value.extractLsb' (start + low) high ++ value.extractLsb' start low =
      value.extractLsb' start (high + low) := by
  ext position inside
  simp only [BitVec.getElem_append, BitVec.getElem_extractLsb']
  split
  · rfl
  · congr 1
    omega

/-- A stored word is loaded again. The four bytes are joined pairwise, and each join is one part
of the word by `extract_append`. -/
theorem get32_put32 (value : BitVec 32) : get32 (put32 value) 0 = value := by
  have high := extract_append value 16 8 8
  have low := extract_append value 0 8 8
  have whole := extract_append value 0 16 16
  simp only [Nat.reduceAdd] at high low whole
  simp only [get32, get16, get8, put32, List.getD_cons_zero, List.getD_cons_succ, Nat.reduceAdd,
    high, low, whole]
  exact BitVec.extractLsb'_eq_self

/-- A stored link address is loaded again. The six bytes are joined in the order of the load, two
by two and then as word and half word. -/
theorem get48_put48 (value : BitVec 48) : get48 (put48 value) 0 = value := by
  have first := extract_append value 32 8 8
  have second := extract_append value 16 8 8
  have third := extract_append value 0 8 8
  have high := extract_append value 16 16 16
  have whole := extract_append value 0 32 16
  simp only [Nat.reduceAdd] at first second third high whole
  simp only [get48, get32, get16, get8, put48, List.getD_cons_zero, List.getD_cons_succ,
    Nat.reduceAdd, first, second, third, high, whole]
  exact BitVec.extractLsb'_eq_self

/-- A part that lies in the lower half of a joined word is a part of that half, at the same
position. -/
theorem extract_low {high low start width : Nat} (upper : BitVec high) (lower : BitVec low)
    (inside : start + width ≤ low) :
    (upper ++ lower).extractLsb' start width = lower.extractLsb' start width := by
  ext position below
  have lies : start + position < low := by omega
  simp [BitVec.getElem_extractLsb', BitVec.getLsbD_append, lies]

/-- A part that lies in the upper half of a joined word is a part of that half; its position is
counted from the join. -/
theorem extract_high {high low : Nat} (upper : BitVec high) (lower : BitVec low)
    (start width : Nat) :
    (upper ++ lower).extractLsb' (low + start) width = upper.extractLsb' start width := by
  ext position below
  have beyond : ¬ low + start + position < low := by omega
  have shifted : low + start + position - low = start + position := by omega
  simp [BitVec.getElem_extractLsb', BitVec.getLsbD_append, beyond, shifted]

/-- The byte at an offset stands in front of the rest, as long as the offset is inside the
string. -/
theorem drop_get8 {bytes : List Byte} {offset : Nat} (inside : offset < bytes.length) :
    bytes.drop offset = get8 bytes offset :: bytes.drop (offset + 1) := by
  rw [List.drop_eq_getElem_cons inside, get8, List.getElem_eq_getD 0#8]

/-- The half word joined of two bytes is stored as these two bytes. -/
theorem put16_append (high low : Byte) : put16 (high ++ low) = [high, low] := by
  have first : (high ++ low).extractLsb' 8 8 = high :=
    (extract_high high low 0 8).trans BitVec.extractLsb'_eq_self
  have second : (high ++ low).extractLsb' 0 8 = low :=
    (extract_low high low (by decide)).trans BitVec.extractLsb'_eq_self
  rw [put16, first, second]

/-- A word joined of two half words is stored as their bytes one behind the other. Each of the
four bytes lies in one half. -/
theorem put32_append (high low : BitVec 16) : put32 (high ++ low) = put16 high ++ put16 low := by
  have first : (high ++ low).extractLsb' 24 8 = high.extractLsb' 8 8 := extract_high high low 8 8
  have second : (high ++ low).extractLsb' 16 8 = high.extractLsb' 0 8 := extract_high high low 0 8
  have third : (high ++ low).extractLsb' 8 8 = low.extractLsb' 8 8 :=
    extract_low high low (by decide)
  have fourth : (high ++ low).extractLsb' 0 8 = low.extractLsb' 0 8 :=
    extract_low high low (by decide)
  rw [put32, first, second, third, fourth]
  rfl

/-- A link address joined of a word and a half word is stored as their bytes one behind the
other. The upper four bytes are those of the word, the lower two those of the half word. -/
theorem put48_append (high : BitVec 32) (low : BitVec 16) :
    put48 (high ++ low) = put32 high ++ put16 low := by
  have upper : ∀ start, (high ++ low).extractLsb' (16 + start) 8 = high.extractLsb' start 8 :=
    fun start => extract_high high low start 8
  have fifth : (high ++ low).extractLsb' 8 8 = low.extractLsb' 8 8 :=
    extract_low high low (by decide)
  have sixth : (high ++ low).extractLsb' 0 8 = low.extractLsb' 0 8 :=
    extract_low high low (by decide)
  rw [put48, upper 24, upper 16, upper 8, upper 0, fifth, sixth]
  rfl

/-- Storing a loaded half word gives its two bytes back, when both are inside the string. -/
theorem put16_get16 {bytes : List Byte} {offset : Nat} (inside : offset + 2 ≤ bytes.length) :
    put16 (get16 bytes offset) = (bytes.drop offset).take 2 := by
  rw [get16, put16_append, drop_get8 (by omega), drop_get8 (by omega : offset + 1 < _)]
  rfl

/-- Storing a loaded word gives its four bytes back, by the two half words it is joined of. -/
theorem put32_get32 {bytes : List Byte} {offset : Nat} (inside : offset + 4 ≤ bytes.length) :
    put32 (get32 bytes offset) = (bytes.drop offset).take 4 := by
  rw [get32, put32_append, put16_get16 (by omega), put16_get16 (by omega), ← List.drop_drop,
    ← List.take_add]

/-- Storing a loaded link address gives its six bytes back, by the word and the half word it is
joined of. -/
theorem put48_get48 {bytes : List Byte} {offset : Nat} (inside : offset + 6 ≤ bytes.length) :
    put48 (get48 bytes offset) = (bytes.drop offset).take 6 := by
  rw [get48, put48_append, put32_get32 (by omega), put16_get16 (by omega), ← List.drop_drop,
    ← List.take_add]

/-- A byte behind a cut is the byte of the whole string at the two offsets together. -/
theorem get8_drop (bytes : List Byte) (offset index : Nat) :
    get8 (bytes.drop offset) index = get8 bytes (offset + index) := by
  simp [get8, List.getElem?_drop]

/-- A word behind a cut is the word of the whole string at the two offsets together, byte by
byte. -/
theorem get32_drop (bytes : List Byte) (offset index : Nat) :
    get32 (bytes.drop offset) index = get32 bytes (offset + index) := by
  simp only [get32, get16, get8_drop, Nat.add_assoc]

/-- A load of a byte looks only at that byte: inside a window of the string it finds what the
whole string has there. -/
theorem get8_window (bytes : List Byte) {offset index width : Nat} (inside : index < width) :
    get8 ((bytes.drop offset).take width) index = get8 bytes (offset + index) := by
  simp [get8, inside, List.getElem?_drop]

/-- A load of a half word looks only at its two bytes, so a window that holds both is as good as
the string. -/
theorem get16_window (bytes : List Byte) {offset index width : Nat} (inside : index + 1 < width) :
    get16 ((bytes.drop offset).take width) index = get16 bytes (offset + index) := by
  rw [get16, get16, get8_window bytes (by omega), get8_window bytes inside, Nat.add_assoc]

/-- A load of a word looks only at its four bytes, so a window that holds them is as good as the
string. -/
theorem get32_window (bytes : List Byte) {offset index width : Nat} (inside : index + 3 < width) :
    get32 ((bytes.drop offset).take width) index = get32 bytes (offset + index) := by
  rw [get32, get32, get16_window bytes (by omega), get16_window bytes inside, Nat.add_assoc]

/-- A load of a link address looks only at its six bytes, so a window that holds them is as good
as the string. -/
theorem get48_window (bytes : List Byte) {offset index width : Nat} (inside : index + 5 < width) :
    get48 ((bytes.drop offset).take width) index = get48 bytes (offset + index) := by
  rw [get48, get48, get32_window bytes (by omega), get16_window bytes inside, Nat.add_assoc]

/-- Where the four bytes of a word lie in a string, the load there finds the word, whatever
surrounds it. -/
theorem get32_stored {bytes : List Byte} {offset : Nat} {value : BitVec 32}
    (stored : (bytes.drop offset).take 4 = put32 value) : get32 bytes offset = value := by
  have loaded : get32 ((bytes.drop offset).take 4) 0 = get32 bytes offset :=
    get32_window bytes (by decide)
  rw [← loaded, stored, get32_put32]

/-- Where the six bytes of a link address lie in a string, the load there finds it, whatever
surrounds it. -/
theorem get48_stored {bytes : List Byte} {offset : Nat} {value : BitVec 48}
    (stored : (bytes.drop offset).take 6 = put48 value) : get48 bytes offset = value := by
  have loaded : get48 ((bytes.drop offset).take 6) 0 = get48 bytes offset :=
    get48_window bytes (by decide)
  rw [← loaded, stored, get48_put48]

end EmaczZephyr.BigEndian
