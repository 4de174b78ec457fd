import Mathlib.Data.List.Range

/-!
# Byte lanes

A word as a row of bytes, lane zero lowest. A write with byte enables replaces the enabled
bytes of some neighbouring lanes and leaves every other byte of the word as it was.
-/

namespace EmaczZephyr.ByteLanes

variable {width dataWidth enables : Nat}

/-- The byte in a lane of the word, lane zero being the lowest. -/
def byteAt (word : BitVec width) (lane : Nat) : BitVec 8 := word.extractLsb' (8 * lane) 8

/-- The word with the byte in a lane replaced: the lane is masked out, and the new byte is put in
by an or, as byte enables do it. -/
def setByte (word : BitVec width) (lane : Nat) (byte : BitVec 8) : BitVec width :=
  word &&& ~~~ ((0xff#8).setWidth width <<< (8 * lane)) ||| byte.setWidth width <<< (8 * lane)

/-- The enabled bytes of some data replace those of a word, from a lane on. -/
def writeBytes (word : BitVec width) (first : Nat) (enable : BitVec enables)
    (data : BitVec dataWidth) : BitVec width :=
  (List.range enables).foldl (fun word lane =>
    if enable.getLsbD lane then setByte word (first + lane) (byteAt data lane) else word) word

/-- The bits of a word with a byte replaced: those of the lane are the new byte's, and all others
are the word's. The mask is read as eight ones at the lane's position. -/
theorem getLsbD_setByte (word : BitVec width) (lane : Nat) (byte : BitVec 8) {position : Nat}
    (inside : position < width) : (setByte word lane byte).getLsbD position =
      if position / 8 = lane then byte.getLsbD (position % 8) else word.getLsbD position := by
  have mask : (0xff#8).getLsbD (position - 8 * lane) = decide (position - 8 * lane < 8) := by
    have ones : (0xff#8) = BitVec.allOnes 8 := by decide
    rw [ones, BitVec.getLsbD_allOnes]
  have within : position - 8 * lane < width := by omega
  simp only [setByte, BitVec.getLsbD_or, BitVec.getLsbD_and, BitVec.getLsbD_not,
    BitVec.getLsbD_shiftLeft, BitVec.getLsbD_setWidth, mask, inside, within, decide_true,
    Bool.true_and]
  split
  · rename_i same
    have reached : ¬ position < 8 * lane := by omega
    have rest : position - 8 * lane = position % 8 := by omega
    have small : ¬ 8 ≤ position % 8 := by omega
    simp [reached, rest, small]
  · rename_i different
    by_cases below : position < 8 * lane
    · simp [below]
    · have beyond : ¬ position - 8 * lane < 8 := by omega
      have outside : byte.getLsbD (position - 8 * lane) = false :=
        BitVec.getLsbD_of_ge byte _ (by omega)
      simp [below, beyond, outside]

/-- The bytes of a word with a byte replaced: the lane has the new byte, and every other lane
keeps its own. This is `getLsbD_setByte` read eight bits at a time. -/
theorem byteAt_setByte (word : BitVec width) {lane other : Nat} (byte : BitVec 8)
    (inside : 8 * (other + 1) ≤ width) : byteAt (setByte word lane byte) other =
      if other = lane then byte else byteAt word other := by
  ext position small
  have within : 8 * other + position < width := by omega
  have same_lane : (8 * other + position) / 8 = other := by omega
  have same_bit : (8 * other + position) % 8 = position := by omega
  rw [byteAt, BitVec.getElem_extractLsb', getLsbD_setByte word lane byte within, same_lane,
    same_bit]
  split
  · rw [BitVec.getLsbD_eq_getElem small]
  · rw [byteAt, BitVec.getElem_extractLsb']

/-- The lanes of an or are the ors of the lanes, because an or works bit by bit. -/
theorem byteAt_or (word other : BitVec width) (lane : Nat) :
    byteAt (word ||| other) lane = byteAt word lane ||| byteAt other lane :=
  BitVec.extractLsb'_or

/-- A byte shifted to its lane leaves the other lanes empty. The shift is a write into the word
of zeros, so the law of writes applies. -/
theorem byteAt_shifted {place lane : Nat} (byte : BitVec 8) (aligned : place % 8 = 0)
    (inside : 8 * (lane + 1) ≤ width) :
    byteAt (byte.setWidth width <<< place) lane = if place = 8 * lane then byte else 0#8 := by
  have whole : 8 * (place / 8) = place := by omega
  have placed : byte.setWidth width <<< place = setByte (.ofNat width 0) (place / 8) byte := by
    rw [setByte, whole, BitVec.zero_and, BitVec.zero_or]
  have here : lane = place / 8 ↔ place = 8 * lane := by omega
  rw [placed, byteAt_setByte _ byte inside]
  simp only [here, byteAt, BitVec.extractLsb'_zero]

/-- A byte widened to a word stands in lane zero and leaves the others empty, which is the shift
by nothing. -/
theorem byteAt_setWidth {lane : Nat} (byte : BitVec 8) (inside : 8 * (lane + 1) ≤ width) :
    byteAt (byte.setWidth width) lane = if lane = 0 then byte else 0#8 := by
  have placed := byteAt_shifted byte (Nat.zero_mod 8) inside
  rw [BitVec.shiftLeft_zero] at placed
  have here : 0 = 8 * lane ↔ lane = 0 := by omega
  simp only [placed, here]

/-- Four neighbouring bytes put together are the 32 bits from the first of them on. -/
theorem four_bytes (word : BitVec width) (first : Nat) :
    byteAt word (first + 3) ++ byteAt word (first + 2) ++ byteAt word (first + 1) ++
      byteAt word first = word.extractLsb' (8 * first) 32 := by
  ext position inside
  simp only [byteAt, BitVec.getElem_append, BitVec.getElem_extractLsb']
  split
  · rfl
  · split
    · congr 1
      omega
    · split
      · congr 1
        omega
      · congr 1
        omega

/-- A write replaces the enabled bytes of its lanes and no others. Induction takes the
enables in order. -/
theorem byteAt_writeBytes (word : BitVec width) (first : Nat) (enable : BitVec enables)
    (data : BitVec dataWidth) {lane : Nat} (inside : 8 * (lane + 1) ≤ width) :
    byteAt (writeBytes word first enable data) lane =
      if first ≤ lane ∧ lane < first + enables ∧ enable.getLsbD (lane - first) = true then
        byteAt data (lane - first)
      else byteAt word lane := by
  have loop (count : Nat) : byteAt ((List.range count).foldl (fun word lane =>
      if enable.getLsbD lane then setByte word (first + lane) (byteAt data lane) else word)
        word) lane =
      if first ≤ lane ∧ lane < first + count ∧ enable.getLsbD (lane - first) = true then
        byteAt data (lane - first)
      else byteAt word lane := by
    induction count with
    | zero =>
      have nothing : ¬ (first ≤ lane ∧ lane < first + 0 ∧
          enable.getLsbD (lane - first) = true) := by
        omega
      rw [if_neg nothing]
      rfl
    | succ count inductionHypothesis =>
      rw [List.range_succ, List.foldl_append, List.foldl_cons, List.foldl_nil]
      by_cases here : lane = first + count
      · have index : lane - first = count := by omega
        by_cases enabled : enable.getLsbD count = true
        · rw [if_pos enabled, byteAt_setByte _ _ inside, if_pos here,
            if_pos ⟨by omega, by omega, by rwa [index]⟩, index]
        · rw [if_neg enabled, inductionHypothesis, if_neg (by omega),
            if_neg (fun covered => enabled (index ▸ covered.2.2))]
      · have bound : lane < first + (count + 1) ↔ lane < first + count := by omega
        simp only [bound, ← inductionHypothesis]
        split
        · rw [byteAt_setByte _ _ inside, if_neg here]
        · rfl
  exact loop enables

/-- A word of whole bytes is its bytes: two words that agree in each lane agree in each bit,
since every bit lies in some lane. -/
theorem eq_of_bytes {left right : BitVec width} {lanes : Nat} (whole : width = 8 * lanes)
    (same : ∀ lane < lanes, byteAt left lane = byteAt right lane) : left = right := by
  apply BitVec.eq_of_getLsbD_eq
  intro position inside
  have within : position / 8 < lanes := by omega
  have bits := congrArg (fun byte : BitVec 8 => byte.getLsbD (position % 8))
    (same (position / 8) within)
  have small : position % 8 < 8 := Nat.mod_lt _ (by decide)
  have joined : 8 * (position / 8) + position % 8 = position := Nat.div_add_mod position 8
  simpa [byteAt, small, joined] using bits

end EmaczZephyr.ByteLanes
