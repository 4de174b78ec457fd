import EmaczZephyr.Provision.Codec

/-!
# Corrupted packets

Both decoders compare the checksum of the first 32 bytes with the word behind them. A burst
of changes within four consecutive bytes changes the checksum whatever the message is, and a
change of the word itself leaves the checksum as it was, so neither decoder accepts the
packet.
-/

namespace EmaczZephyr.Provision

open BigEndian Crc32 StructFormat

/-- A packet whose last word is the checksum of what stands before. -/
structure Sealed (packet : List Byte) : Prop where
  length : packet.length = provPacketSize
  checksum : get32 packet provCrcOffset = crc32 (packet.take provCrcOffset)

/-- Some byte is another one, and every other byte is outside the four from `start`. -/
structure ChangedWithin (packet changed : List Byte) (start : Nat) : Prop where
  length : changed.length = packet.length
  differs : changed ≠ packet
  outside : ∀ index, index < start ∨ start + 4 ≤ index → changed[index]? = packet[index]?

/-- The changes lie within four consecutive bytes of the message, or within the checksum. -/
def Corrupts (packet changed : List Byte) : Prop :=
  (∃ start, start + 4 ≤ provCrcOffset ∧ ChangedWithin packet changed start) ∨
    ChangedWithin packet changed provCrcOffset

/-- A checksum behind 32 bytes seals them: right length, and the checksum of what is in front. -/
theorem sealed_append {body : List Byte} (length : body.length = provCrcOffset) :
    Sealed (body ++ put32 (crc32 body)) := by
  constructor
  · rw [List.length_append, length, put32_length]
    rfl
  · rw [List.take_left' length]
    apply get32_stored
    rw [List.drop_left' length, List.take_of_length_le (put32_length _).le]

/-- The firmware's packets are sealed, whatever the message, as their checksum is put behind the
other 32 bytes. -/
theorem encode_sealed (msg : ProvMessage) : Sealed (encodeMessage msg) :=
  sealed_append (body_length msg)

/-- The tool's packets are sealed whenever it encodes at all; a message that does not fit the
format has no packet. -/
theorem python_sealed {message : Python.Message} {packet : List Byte}
    (encoded : Python.encodeMessage message = some packet) : Sealed packet := by
  rw [Python.encodeMessage] at encoded
  by_cases mac : message.mac.length ≠ 6
  · rw [if_pos mac] at encoded
    cases encoded
  rw [if_neg mac] at encoded
  obtain ⟨packed, without, encoded⟩ := Option.bind_eq_some_iff.mp encoded
  obtain ⟨crc, word, rfl⟩ := Option.map_eq_some_iff.mp encoded
  simp only [pack, pack_word, Option.bind_eq_bind, Option.bind_some, List.append_nil,
    Option.some_inj] at word
  subst word
  apply sealed_append
  rw [List.length_take, pack_length without]
  rfl

section Changed

variable {packet changed : List Byte} {start : Nat}

/-- The bytes in front of the changed ones are the same. -/
theorem ChangedWithin.front (within : ChangedWithin packet changed start) :
    changed.take start = packet.take start := by
  apply List.ext_getElem?
  intro index
  rw [List.getElem?_take, List.getElem?_take]
  by_cases before : index < start
  · rw [if_pos before, if_pos before, within.outside index (.inl before)]
  · rw [if_neg before, if_neg before]

/-- The bytes behind the changed ones are the same. -/
theorem ChangedWithin.back (within : ChangedWithin packet changed start) :
    changed.drop (start + 4) = packet.drop (start + 4) := by
  apply List.ext_getElem?
  intro index
  rw [List.getElem?_drop, List.getElem?_drop]
  exact within.outside _ (.inr (Nat.le_add_right _ _))

/-- The four bytes themselves are not the same, since the strings differ and agree everywhere
else. -/
theorem ChangedWithin.window (within : ChangedWithin packet changed start) :
    (changed.drop start).take 4 ≠ (packet.drop start).take 4 := by
  intro same
  have whole (bytes : List Byte) : bytes =
      bytes.take start ++ ((bytes.drop start).take 4 ++ bytes.drop (start + 4)) := by
    rw [← List.drop_drop, List.take_append_drop, List.take_append_drop]
  apply within.differs
  rw [whole changed, whole packet, within.front, same, within.back]

/-- A burst within the message changes its checksum and not the word behind it. -/
theorem message_burst (sealed : Sealed packet) (inside : start + 4 ≤ provCrcOffset)
    (within : ChangedWithin packet changed start) :
    get32 changed provCrcOffset ≠ crc32 (changed.take provCrcOffset) := by
  obtain ⟨rest, total⟩ := Nat.exists_eq_add_of_le inside
  have pieces (bytes : List Byte) : bytes.take provCrcOffset =
      bytes.take start ++ (bytes.drop start).take 4 ++ (bytes.drop (start + 4)).take rest := by
    rw [total, List.take_add, List.take_add]
  have word : get32 changed provCrcOffset = get32 packet provCrcOffset := by
    rw [total, ← get32_drop, within.back, get32_drop]
  have length : ((packet.drop start).take 4).length = ((changed.drop start).take 4).length := by
    rw [List.length_take, List.length_drop, List.length_take, List.length_drop, within.length]
  have short : ((packet.drop start).take 4).length ≤ 4 := List.length_take_le 4 _
  rw [word, sealed.checksum, pieces packet, pieces changed, within.front, within.back]
  exact crc32_window length short (Ne.symm within.window)

/-- A change of the checksum word alone is no change of the message, so the word no longer fits. -/
theorem checksum_burst (sealed : Sealed packet)
    (within : ChangedWithin packet changed provCrcOffset) :
    get32 changed provCrcOffset ≠ crc32 (changed.take provCrcOffset) := by
  intro accepted
  rw [within.front, ← sealed.checksum] at accepted
  have long : provCrcOffset + 4 ≤ packet.length := Nat.le_of_eq sealed.length.symm
  apply within.window
  rw [← put32_get32 (within.length ▸ long), ← put32_get32 long, accepted]

/-- Neither decoder accepts a wrong checksum, whatever the other fields are, because both compare
it before they return anything. -/
theorem wrong_checksum_rejected (data : List Byte)
    (wrong : get32 data provCrcOffset ≠ crc32 (data.take provCrcOffset)) :
    decodeMessage data = none ∧ Python.decodeMessage data = none := by
  have rejected : decodeMessage data = none := if_pos (.inr (.inr (.inr wrong)))
  refine ⟨rejected, ?_⟩
  rw [python_decode, ← decode_agree, rejected]
  rfl

/-- Neither decoder accepts a corrupted packet: a change in the message changes its checksum, and
one in the checksum is seen at once. -/
theorem corrupted_rejected (sealed : Sealed packet) (corrupts : Corrupts packet changed) :
    decodeMessage changed = none ∧ Python.decodeMessage changed = none := by
  apply wrong_checksum_rejected
  rcases corrupts with ⟨start, inside, within⟩ | within
  · exact message_burst sealed inside within
  · exact checksum_burst sealed within

end Changed

/-- Of a packet that either encoder writes, both decoders reject every corruption within four
consecutive bytes of the message, or within the checksum. -/
theorem corruption_rejected :
    (∀ (msg : ProvMessage) (changed : List Byte), Corrupts (encodeMessage msg) changed →
      decodeMessage changed = none ∧ Python.decodeMessage changed = none) ∧
    ∀ (message : Python.Message) (packet changed : List Byte),
      Python.encodeMessage message = some packet → Corrupts packet changed →
        decodeMessage changed = none ∧ Python.decodeMessage changed = none :=
  ⟨fun msg _ corrupts => corrupted_rejected (encode_sealed msg) corrupts,
    fun _ _ _ encoded corrupts => corrupted_rejected (python_sealed encoded) corrupts⟩

/-- A byte that is replaced by another one is a change within four bytes. -/
theorem replaced_within {packet : List Byte} {index : Nat} {byte : Byte}
    (other : packet[index]? ≠ some byte) (inside : index < packet.length) :
    ChangedWithin packet (packet.set index byte) index where
  length := List.length_set
  differs same := other (by rw [← List.getElem?_set_self inside, same])
  outside later apart := List.getElem?_set_ne (by omega)

/-- The theorem at the sample message with another operation byte, which both decoders reject. -/
theorem corruption_rejected_sample :
    ∃ packet, Python.encodeMessage samplePython = some packet ∧
      decodeMessage (packet.set 5 9#8) = none ∧ Python.decodeMessage (packet.set 5 9#8) = none := by
  have encoded : (Python.encodeMessage samplePython).isSome := by decide +kernel
  obtain ⟨packet, encoded⟩ := Option.isSome_iff_exists.mp encoded
  have other : packet[5]? ≠ some 9#8 := by
    have byte : (Python.encodeMessage samplePython).map (·[5]?) ≠ some (some 9#8) := by
      decide +kernel
    rw [encoded] at byte
    exact fun same => byte (congrArg some same)
  have inside : 5 < packet.length := by
    rw [(python_sealed encoded).length]
    decide
  exact ⟨packet, encoded, corruption_rejected.2 samplePython packet _ encoded
    (.inl ⟨5, by decide, replaced_within other inside⟩)⟩

end EmaczZephyr.Provision
