import EmaczZephyr.Foundation.ByteLanes
import EmaczZephyr.Foundation.Clocked

/-!
# The machine timer

`riscv_mtimer`: two registers of 64 bits behind an AXI4-Lite slave of four words. The first
counts every cycle, and a write replaces its enabled bytes in the very cycle in which the
others tick. One cycle is one rising clock edge with the reset released.

An address is taken before its data, and the data only while no response waits, so the two
flags of the slave make one write of each pair. The master may do anything.
-/

namespace EmaczZephyr.Rtl

open ByteLanes Clocked

/-- The two registers of the timer, and the registers of its write and read channels. -/
structure RiscvMtimer where
  mtime : BitVec 64
  mtimecmp : BitVec 64
  awSeen : Bool
  awAddrL : BitVec 4
  sAxiBvalid : Bool
  sAxiBresp : BitVec 2
  sAxiRvalid : Bool
  sAxiRresp : BitVec 2
  sAxiRdata : BitVec 32

/-- The inputs of all channels at one edge. -/
structure RiscvMtimerInput where
  sAxiAwaddr : BitVec 4
  sAxiAwvalid : Bool
  sAxiWdata : BitVec 32
  sAxiWstrb : BitVec 4
  sAxiWvalid : Bool
  sAxiBready : Bool
  sAxiAraddr : BitVec 4
  sAxiArvalid : Bool
  sAxiRready : Bool

namespace RiscvMtimer

variable (timer : RiscvMtimer) (input : RiscvMtimerInput)

/-- `timer_irq`: the time has reached the compare value. -/
def timerIrq : Bool := decide (timer.mtime ≥ timer.mtimecmp)

/-- An address is accepted while none is held. -/
def sAxiAwready : Bool := !timer.awSeen

/-- Data is accepted for an address that is held, while no response waits. -/
def sAxiWready : Bool := timer.awSeen && !timer.sAxiBvalid

/-- A read is accepted while no read response waits. -/
def sAxiArready : Bool := !timer.sAxiRvalid

/-- The data of a write is taken at this edge, and with it the write is done. -/
def doWrite : Bool := timer.awSeen && input.sAxiWvalid && !timer.sAxiBvalid

/-- The word of an address: `mtime` low and high, `mtimecmp` low and high. -/
def wordOf (address : BitVec 4) : BitVec 2 := address.extractLsb' 2 2

/-- The write goes to the lower word of the time. -/
def wrMtimeL : Bool := timer.doWrite input && wordOf timer.awAddrL == 0#2

/-- The write goes to the upper word of the time. -/
def wrMtimeH : Bool := timer.doWrite input && wordOf timer.awAddrL == 1#2

/-- The write goes to the lower word of the compare value. -/
def wrCmpL : Bool := timer.doWrite input && wordOf timer.awAddrL == 2#2

/-- The write goes to the upper word of the compare value. -/
def wrCmpH : Bool := timer.doWrite input && wordOf timer.awAddrL == 3#2

/-- The low or the high word of a register is written, or neither. -/
def written (register : BitVec 64) (low high : Bool) : BitVec 64 :=
  let lowWritten := if low then writeBytes register 0 input.sAxiWstrb input.sAxiWdata else register
  if high then writeBytes lowWritten 4 input.sAxiWstrb input.sAxiWdata else lowWritten

/-- The word that the read multiplexer selects at an address, by its upper two bits. -/
def word (address : BitVec 4) : BitVec 32 :=
  match (wordOf address).toNat with
  | 0 => timer.mtime.extractLsb' 0 32
  | 1 => timer.mtime.extractLsb' 32 32
  | 2 => timer.mtimecmp.extractLsb' 0 32
  | _ => timer.mtimecmp.extractLsb' 32 32

/-- One rising clock edge. The time goes up by one, and the enabled bytes of a write take the
place of what it would have been. -/
def cycle : RiscvMtimer where
  mtime := written input (timer.mtime + 1#64) (timer.wrMtimeL input) (timer.wrMtimeH input)
  mtimecmp := written input timer.mtimecmp (timer.wrCmpL input) (timer.wrCmpH input)
  awSeen :=
    if timer.sAxiBvalid && input.sAxiBready then false
    else if !timer.awSeen && input.sAxiAwvalid then true
    else timer.awSeen
  awAddrL := if !timer.awSeen && input.sAxiAwvalid then input.sAxiAwaddr else timer.awAddrL
  sAxiBvalid :=
    if timer.sAxiBvalid && input.sAxiBready then false
    else if timer.doWrite input then true
    else timer.sAxiBvalid
  sAxiBresp := if timer.doWrite input then 0#2 else timer.sAxiBresp
  sAxiRvalid :=
    if !timer.sAxiRvalid && input.sAxiArvalid then true
    else if timer.sAxiRvalid && input.sAxiRready then false
    else timer.sAxiRvalid
  sAxiRresp :=
    if !timer.sAxiRvalid && input.sAxiArvalid then 0#2 else timer.sAxiRresp
  sAxiRdata :=
    if !timer.sAxiRvalid && input.sAxiArvalid then timer.word input.sAxiAraddr
    else timer.sAxiRdata

/-- The timer behind a reset: the time at zero, and the compare value at its largest, so that no
interrupt is due. -/
def reset : RiscvMtimer where
  mtime := 0#64
  mtimecmp := 0xFFFFFFFFFFFFFFFF#64
  awSeen := false
  awAddrL := 0#4
  sAxiBvalid := false
  sAxiBresp := 0#2
  sAxiRvalid := false
  sAxiRresp := 0#2
  sAxiRdata := 0#32

/-- The state behind any number of edges from a reset. -/
def run (inputs : List RiscvMtimerInput) : RiscvMtimer := after cycle reset inputs

end RiscvMtimer

/-- A write: its address, its data and the bytes it enables. -/
structure TimerWrite where
  address : BitVec 4
  data : BitVec 32
  strobe : BitVec 4

/-- The write enables a byte of the sixteen that the four words have: its address lies in the
byte's word, whatever the lowest two bits are, and the strobe of the byte's lane is set. -/
def TimerWrite.Enables (write : TimerWrite) (lane : Nat) : Prop :=
  write.address.toNat / 4 = lane / 4 ∧ write.strobe.getLsbD (lane % 4) = true

/-- Which lanes a write enables is read off its strobe and its address. -/
instance (write : TimerWrite) (lane : Nat) : Decidable (write.Enables lane) :=
  inferInstanceAs (Decidable (_ ∧ _))

/-- The byte a write has for a lane, which is the byte at the same place of its word. -/
def TimerWrite.byte (write : TimerWrite) (lane : Nat) : BitVec 8 := byteAt write.data (lane % 4)

namespace RiscvMtimer

variable (timer : RiscvMtimer) (input : RiscvMtimerInput)

/-- The address map, byte by byte: `mtime` in the first eight bytes and `mtimecmp` in the next,
both with the lowest byte first. -/
def mapped (lane : Nat) : BitVec 8 :=
  if lane < 8 then byteAt timer.mtime lane else byteAt timer.mtimecmp (lane - 8)

/-- The word that a read of an address is due: the four bytes that the map has in its word. -/
def wordAt (address : BitVec 4) : BitVec 32 :=
  let base := address.toNat / 4 * 4
  timer.mapped (base + 3) ++ timer.mapped (base + 2) ++ timer.mapped (base + 1) ++
    timer.mapped base

/-- The address, the data with its strobes, the response, and the read data taken in a
cycle. -/
def addressed : List (BitVec 4) :=
  if input.sAxiAwvalid && timer.sAxiAwready then [input.sAxiAwaddr] else []

/-- The data taken in a cycle, with its strobe. -/
def supplied : List (BitVec 32 × BitVec 4) :=
  if input.sAxiWvalid && timer.sAxiWready then [(input.sAxiWdata, input.sAxiWstrb)] else []

/-- The write response taken in a cycle. -/
def responded : List (BitVec 2) :=
  if timer.sAxiBvalid && input.sAxiBready then [timer.sAxiBresp] else []

/-- The read response taken in a cycle, with its data. -/
def returned : List (BitVec 32 × BitVec 2) :=
  if timer.sAxiRvalid && input.sAxiRready then [(timer.sAxiRdata, timer.sAxiRresp)] else []

/-- The write that a cycle applies, with the address that was held for it. -/
def applied : Option TimerWrite :=
  if timer.doWrite input then some ⟨timer.awAddrL, input.sAxiWdata, input.sAxiWstrb⟩ else none

/-- What the read taken in a cycle is due: the word of its address as it is in that cycle. -/
def due : List (BitVec 32 × BitVec 2) :=
  if input.sAxiArvalid && timer.sAxiArready then [(timer.wordAt input.sAxiAraddr, 0#2)] else []

/-- The events of a run behind a reset, as the observation shows them cycle by cycle. -/
def events {Event : Type} (observe : RiscvMtimer → RiscvMtimerInput → List Event)
    (inputs : List RiscvMtimerInput) : List Event :=
  recorded cycle observe reset inputs

/-- The writes that a run applies, in their order. -/
def writes (inputs : List RiscvMtimerInput) : List TimerWrite :=
  events (fun timer input => (timer.applied input).toList) inputs

end RiscvMtimer

/-- One cycle of the registers: what it writes, byte by byte, and what else they do. -/
structure TimerCycle (timer : RiscvMtimer) (input : RiscvMtimerInput) : Prop where
  /-- A write is applied in the cycle in which its data is taken. -/
  when_taken : (timer.applied input).isSome = (input.sAxiWvalid && timer.sAxiWready)
  /-- Enabled bytes of `mtime` are written, all others tick. -/
  mtime_bytes : ∀ write, timer.applied input = some write → ∀ lane < 8,
    byteAt (timer.cycle input).mtime lane =
      if write.Enables lane then write.byte lane else byteAt (timer.mtime + 1#64) lane
  /-- Enabled bytes of `mtimecmp` are written, all others stay. -/
  mtimecmp_bytes : ∀ write, timer.applied input = some write → ∀ lane < 8,
    byteAt (timer.cycle input).mtimecmp lane =
      if write.Enables (8 + lane) then write.byte (8 + lane) else byteAt timer.mtimecmp lane
  /-- Without a write of its own, `mtime` is one more. -/
  mtime_ticks : (∀ write, timer.applied input = some write →
      ∀ lane < 8, ¬ write.Enables lane) →
    (timer.cycle input).mtime = timer.mtime + 1#64
  /-- Without one, `mtimecmp` stays. -/
  mtimecmp_stays : (∀ write, timer.applied input = some write →
      ∀ lane < 8, ¬ write.Enables (8 + lane)) →
    (timer.cycle input).mtimecmp = timer.mtimecmp

/-- What a run shows: the interrupt, both registers byte by byte, and every channel without loss
or repetition. -/
structure RiscvMtimerCorrect (inputs : List RiscvMtimerInput) : Prop where
  /-- The writes applied are those taken, each address with its data, in order. -/
  addresses : RiscvMtimer.events RiscvMtimer.addressed inputs =
    (RiscvMtimer.writes inputs).map TimerWrite.address ++
      if (RiscvMtimer.run inputs).sAxiWready then [(RiscvMtimer.run inputs).awAddrL] else []
  data : RiscvMtimer.events RiscvMtimer.supplied inputs =
    (RiscvMtimer.writes inputs).map fun write => (write.data, write.strobe)
  /-- Each has one response. -/
  responses : (RiscvMtimer.writes inputs).map (fun _ => 0#2) =
    RiscvMtimer.events RiscvMtimer.responded inputs ++
      if (RiscvMtimer.run inputs).sAxiBvalid then [(RiscvMtimer.run inputs).sAxiBresp] else []
  /-- Each read has its word as it was when the read was taken, once and in order. -/
  reads : RiscvMtimer.events RiscvMtimer.due inputs =
    RiscvMtimer.events RiscvMtimer.returned inputs ++
      if (RiscvMtimer.run inputs).sAxiRvalid then
        [((RiscvMtimer.run inputs).sAxiRdata, (RiscvMtimer.run inputs).sAxiRresp)]
      else []
  registers : ∀ input, TimerCycle (RiscvMtimer.run inputs) input
  timer_irq : (RiscvMtimer.run inputs).timerIrq = true ↔
    (RiscvMtimer.run inputs).mtimecmp.toNat ≤ (RiscvMtimer.run inputs).mtime.toNat

section Registers

variable {timer : RiscvMtimer} {input : RiscvMtimerInput}

/-- The two bits that select a word are the number of the word, which is the address by four. -/
theorem word_of_number (address : BitVec 4) :
    (RiscvMtimer.wordOf address).toNat = address.toNat / 4 := by
  revert address
  decide

/-- The read multiplexer selects the word that the map has at the address, for every address. -/
theorem word_mapped (timer : RiscvMtimer) (address : BitVec 4) :
    timer.word address = timer.wordAt address := by
  have few : address.toNat / 4 < 4 := by omega
  rw [RiscvMtimer.word, RiscvMtimer.wordAt, word_of_number]
  generalize address.toNat / 4 = number at few
  have low := four_bytes timer.mtime 0
  have high := four_bytes timer.mtime 4
  have low_compare := four_bytes timer.mtimecmp 0
  have high_compare := four_bytes timer.mtimecmp 4
  match number, few with
  | 0, _ => exact low.symm
  | 1, _ => exact high.symm
  | 2, _ => exact low_compare.symm
  | 3, _ => exact high_compare.symm

/-- The bytes of a register of which the low or the high word may be written. -/
theorem byteAt_written (input : RiscvMtimerInput) (register : BitVec 64) (low high : Bool)
    {lane : Nat} (inside : lane < 8) :
    byteAt (RiscvMtimer.written input register low high) lane =
      if (lane / 4 = 0 ∧ low = true ∨ lane / 4 = 1 ∧ high = true) ∧
          input.sAxiWstrb.getLsbD (lane % 4) = true then
        byteAt input.sAxiWdata (lane % 4)
      else byteAt register lane := by
  have fits : 8 * (lane + 1) ≤ 64 := by omega
  have low_byte (word : BitVec 64) := byteAt_writeBytes word 0 input.sAxiWstrb input.sAxiWdata fits
  have high_byte (word : BitVec 64) :=
    byteAt_writeBytes word 4 input.sAxiWstrb input.sAxiWdata fits
  by_cases near : lane < 4
  · have index : lane % 4 = lane := Nat.mod_eq_of_lt near
    have first : lane / 4 = 0 := Nat.div_eq_of_lt near
    have not_high : ¬ 4 ≤ lane := Nat.not_le.mpr near
    cases low <;> cases high <;>
      simp [RiscvMtimer.written, low_byte, high_byte, near, index, first, not_high]
  · have index : lane % 4 = lane - 4 := by omega
    have second : lane / 4 = 1 := by omega
    have far : 4 ≤ lane := Nat.not_lt.mp near
    cases low <;> cases high <;>
      simp [RiscvMtimer.written, low_byte, high_byte, near, index, second, far, inside]

/-- The bytes of the register whose words start at some word, under a write. -/
theorem written_bytes (input : RiscvMtimerInput) (write : TimerWrite) (register : BitVec 64)
    (base : Nat) (low high : Bool)
    (data : write.data = input.sAxiWdata) (strobe : write.strobe = input.sAxiWstrb)
    (low_word : low = true ↔ (RiscvMtimer.wordOf write.address).toNat = base)
    (high_word : high = true ↔ (RiscvMtimer.wordOf write.address).toNat = base + 1)
    {lane : Nat} (inside : lane < 8) :
    byteAt (RiscvMtimer.written input register low high) lane =
      if write.Enables (4 * base + lane) then write.byte (4 * base + lane)
      else byteAt register lane := by
  have word : (4 * base + lane) / 4 = base + lane / 4 := by omega
  have index : (4 * base + lane) % 4 = lane % 4 := by omega
  have enables : write.Enables (4 * base + lane) ↔
      (lane / 4 = 0 ∧ low = true ∨ lane / 4 = 1 ∧ high = true) ∧
        input.sAxiWstrb.getLsbD (lane % 4) = true := by
    rw [TimerWrite.Enables, word, index, strobe, low_word, high_word, word_of_number]
    refine and_congr_left' ?_
    omega
  rw [byteAt_written input register low high inside, TimerWrite.byte, index, data]
  simp only [enables]

/-- A write is done exactly when its data is taken on the bus. -/
theorem do_write_taken (timer : RiscvMtimer) (input : RiscvMtimerInput) :
    timer.doWrite input = (input.sAxiWvalid && timer.sAxiWready) := by
  rw [RiscvMtimer.doWrite, RiscvMtimer.sAxiWready]
  cases timer.awSeen <;> cases input.sAxiWvalid <;> rfl

/-- A write that is applied has the address that was taken and the data of the cycle. -/
theorem applied_write {write : TimerWrite} (applied : timer.applied input = some write) :
    timer.doWrite input = true ∧
      write = ⟨timer.awAddrL, input.sAxiWdata, input.sAxiWstrb⟩ := by
  unfold RiscvMtimer.applied at applied
  split at applied
  · rename_i writes
    exact ⟨writes, (Option.some.inj applied).symm⟩
  · cases applied

/-- Each byte of the time behind a write is the byte written, where the write enables it, and the
byte of the counted time elsewhere. -/
theorem mtime_written {write : TimerWrite} (applied : timer.applied input = some write)
    {lane : Nat} (inside : lane < 8) : byteAt (timer.cycle input).mtime lane =
      if write.Enables lane then write.byte lane else byteAt (timer.mtime + 1#64) lane := by
  obtain ⟨writes, rfl⟩ := applied_write applied
  have low_word : timer.wrMtimeL input = true ↔ (RiscvMtimer.wordOf timer.awAddrL).toNat = 0 := by
    simp [RiscvMtimer.wrMtimeL, writes, ← BitVec.toNat_inj]
  have high_word : timer.wrMtimeH input = true ↔ (RiscvMtimer.wordOf timer.awAddrL).toNat = 1 := by
    simp [RiscvMtimer.wrMtimeH, writes, ← BitVec.toNat_inj]
  have bytes := written_bytes input ⟨timer.awAddrL, input.sAxiWdata, input.sAxiWstrb⟩
    (timer.mtime + 1#64) 0 (timer.wrMtimeL input) (timer.wrMtimeH input) rfl rfl low_word high_word
    inside
  rw [Nat.mul_zero, Nat.zero_add] at bytes
  exact bytes

/-- Each byte of the compare value behind a write is the byte written, where the write enables
it, and the old byte elsewhere. -/
theorem mtimecmp_written {write : TimerWrite} (applied : timer.applied input = some write)
    {lane : Nat} (inside : lane < 8) : byteAt (timer.cycle input).mtimecmp lane =
      if write.Enables (8 + lane) then write.byte (8 + lane) else byteAt timer.mtimecmp lane := by
  obtain ⟨writes, rfl⟩ := applied_write applied
  have low_word : timer.wrCmpL input = true ↔ (RiscvMtimer.wordOf timer.awAddrL).toNat = 2 := by
    simp [RiscvMtimer.wrCmpL, writes, ← BitVec.toNat_inj]
  have high_word : timer.wrCmpH input = true ↔ (RiscvMtimer.wordOf timer.awAddrL).toNat = 3 := by
    simp [RiscvMtimer.wrCmpH, writes, ← BitVec.toNat_inj]
  exact written_bytes input ⟨timer.awAddrL, input.sAxiWdata, input.sAxiWstrb⟩ timer.mtimecmp 2
    (timer.wrCmpL input) (timer.wrCmpH input) rfl rfl low_word high_word inside

/-- A cycle without a write leaves the registers to themselves: the time counts, and the compare
value stays. -/
theorem unwritten (input : RiscvMtimerInput) (idle : timer.applied input = none) :
    (timer.cycle input).mtime = timer.mtime + 1#64 ∧
      (timer.cycle input).mtimecmp = timer.mtimecmp := by
  have no_write : timer.doWrite input = false := by
    unfold RiscvMtimer.applied at idle
    split at idle
    · cases idle
    · rename_i rests
      exact Bool.not_eq_true _ ▸ rests
  simp [RiscvMtimer.cycle, RiscvMtimer.written, RiscvMtimer.wrMtimeL, RiscvMtimer.wrMtimeH,
    RiscvMtimer.wrCmpL, RiscvMtimer.wrCmpH, no_write]

/-- Every edge does to the two registers what the write of the cycle says, and counts where there
is none. -/
theorem timer_cycle (timer : RiscvMtimer) (input : RiscvMtimerInput) : TimerCycle timer input where
  when_taken := by
    rw [← do_write_taken, RiscvMtimer.applied]
    cases timer.doWrite input <;> rfl
  mtime_bytes _ applied _ inside := mtime_written applied inside
  mtimecmp_bytes _ applied _ inside := mtimecmp_written applied inside
  mtime_ticks elsewhere := by
    cases applied : timer.applied input with
    | none => exact (unwritten input applied).1
    | some write =>
      apply eq_of_bytes (show 64 = 8 * 8 from rfl)
      intro lane inside
      rw [mtime_written applied inside, if_neg (elsewhere write applied lane inside)]
  mtimecmp_stays elsewhere := by
    cases applied : timer.applied input with
    | none => exact (unwritten input applied).2
    | some write =>
      apply eq_of_bytes (show 64 = 8 * 8 from rfl)
      intro lane inside
      rw [mtimecmp_written applied inside, if_neg (elsewhere write applied lane inside)]

end Registers

section Channels

variable {timer : RiscvMtimer}

/-- A response waits only for the write of the address that was taken. -/
def ResponseAddressed (timer : RiscvMtimer) : Prop :=
  timer.sAxiBvalid = true → timer.awSeen = true

/-- Behind a reset no response waits, so none waits without its address. -/
theorem addressed_reset : ResponseAddressed .reset := by
  intro valid
  cases valid

/-- Without a held address there is no write response. -/
theorem ResponseAddressed.idle (held : ResponseAddressed timer) (free : timer.awSeen = false) :
    timer.sAxiBvalid = false := by
  by_contra valid
  rw [held (Bool.not_eq_false _ ▸ valid)] at free
  cases free

/-- A write response stays with its address: both go in the same cycle, when the response is
taken. -/
theorem addressed_cycle (held : ResponseAddressed timer) (input : RiscvMtimerInput) :
    ResponseAddressed (timer.cycle input) := by
  unfold ResponseAddressed at held ⊢
  simp only [RiscvMtimer.cycle]
  rcases Bool.eq_false_or_eq_true (timer.sAxiBvalid && input.sAxiBready) with taken | waits
  · simp [taken]
  · rcases Bool.eq_false_or_eq_true timer.awSeen with seen | free
    · simp [waits, seen]
    · simp [ResponseAddressed.idle held free, free, RiscvMtimer.doWrite]

/-- The account of the addresses at one edge: the held one and the accepted one are the one that
a write uses and the one held behind the edge. This is the step for the whole run. -/
theorem timer_address_cycle (held : ResponseAddressed timer) (input : RiscvMtimerInput) :
    (if timer.sAxiWready then [timer.awAddrL] else []) ++ timer.addressed input =
      (timer.applied input).toList.map TimerWrite.address ++
        if (timer.cycle input).sAxiWready then [(timer.cycle input).awAddrL] else [] := by
  simp only [RiscvMtimer.addressed, RiscvMtimer.applied, RiscvMtimer.sAxiWready,
    RiscvMtimer.sAxiAwready, RiscvMtimer.cycle, RiscvMtimer.doWrite]
  rcases Bool.eq_false_or_eq_true timer.awSeen with seen | free
  · rcases Bool.eq_false_or_eq_true timer.sAxiBvalid with valid | none_waits
    · rcases Bool.eq_false_or_eq_true input.sAxiBready with taken | refused
      · simp [seen, valid, taken]
      · simp [seen, valid, refused]
    · rcases Bool.eq_false_or_eq_true input.sAxiWvalid with supplied | none_there
      · simp [seen, none_waits, supplied]
      · simp [seen, none_waits, none_there]
  · have idle := held.idle free
    rcases Bool.eq_false_or_eq_true input.sAxiAwvalid with offered | none_there
    · simp [free, idle, offered]
    · simp [free, idle, none_there]

/-- The account of the responses at one edge: the waiting one and the one of a write done are the
one taken and the one waiting behind the edge. -/
theorem timer_response_cycle (timer : RiscvMtimer) (input : RiscvMtimerInput) :
    (if timer.sAxiBvalid then [timer.sAxiBresp] else []) ++
        (timer.applied input).toList.map (fun _ => 0#2) =
      timer.responded input ++
        if (timer.cycle input).sAxiBvalid then [(timer.cycle input).sAxiBresp] else [] := by
  have applied : (timer.applied input).toList.map (fun _ => 0#2) =
      if timer.doWrite input then [0#2] else [] := by
    rw [RiscvMtimer.applied]
    split <;> rfl
  rw [applied]
  apply slot_edge _ _ rfl rfl
  · intro writes
    simp only [RiscvMtimer.doWrite, Bool.and_eq_true, Bool.not_eq_true'] at writes
    exact writes.2
  · exact fun taken => (Bool.and_eq_true_iff.mp taken).1

/-- The account of the reads at one edge: the waiting response and the one due to an accepted
read are the one taken and the one waiting behind the edge. What is due is read off the address
map. -/
theorem timer_read_cycle (timer : RiscvMtimer) (input : RiscvMtimerInput) :
    (if timer.sAxiRvalid then [(timer.sAxiRdata, timer.sAxiRresp)] else []) ++ timer.due input =
      timer.returned input ++
        if (timer.cycle input).sAxiRvalid then
          [((timer.cycle input).sAxiRdata, (timer.cycle input).sAxiRresp)]
        else [] := by
  have ready : (input.sAxiArvalid && timer.sAxiArready) =
      (!timer.sAxiRvalid && input.sAxiArvalid) := Bool.and_comm ..
  rw [RiscvMtimer.due, ready]
  apply slot_edge
  · intro accepted
    simpa using (Bool.and_eq_true_iff.mp accepted).1
  · exact fun taken => (Bool.and_eq_true_iff.mp taken).1
  · simp only [RiscvMtimer.cycle]
    cases timer.sAxiRvalid <;> simp
  · simp only [RiscvMtimer.cycle, word_mapped]
    split <;> rfl

end Channels

/-- For any number of cycles and whatever the master does, each address and its data make one
write with one response, each read has its word, the registers change by these writes and by the
ticks of the first alone, and the interrupt is their order.

Proof: for each list of the property an edge accounts for what is asked and what is answered,
with what the timer holds as the difference, so that whole runs do. The address map is compared
with the selection of the timer at the edge. -/
theorem riscv_mtimer_correct (inputs : List RiscvMtimerInput) : RiscvMtimerCorrect inputs where
  addresses := by
    rw [RiscvMtimer.writes, RiscvMtimer.events, RiscvMtimer.events, map_recorded]
    exact exchange addressed_reset (fun _ input held => addressed_cycle held input) rfl
      (fun _ input held => timer_address_cycle held input) inputs
  data := by
    rw [RiscvMtimer.writes, RiscvMtimer.events, RiscvMtimer.events, map_recorded]
    congr 1
    funext timer input
    rw [RiscvMtimer.supplied, ← do_write_taken, RiscvMtimer.applied]
    split <;> rfl
  responses := by
    rw [RiscvMtimer.writes, RiscvMtimer.events, RiscvMtimer.events, map_recorded]
    exact exchange addressed_reset (fun _ input held => addressed_cycle held input) rfl
      (fun timer input _ => timer_response_cycle timer input) inputs
  reads := exchange addressed_reset (fun _ input held => addressed_cycle held input) rfl
    (fun timer input _ => timer_read_cycle timer input) inputs
  registers input := timer_cycle _ input
  timer_irq := decide_eq_true_iff

end EmaczZephyr.Rtl
