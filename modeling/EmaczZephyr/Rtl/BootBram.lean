import EmaczZephyr.Foundation.Clocked
import EmaczZephyr.Foundation.Framing
import Mathlib.Algebra.Ring.Nat

/-!
# The boot memory

`boot_bram_rv32`: a small read-only memory behind an AXI4 slave. Read bursts are served one
after the other; writes are swallowed and refused. One cycle is one rising clock edge with
the reset released.

The sizes and the kinds of bursts are connected to nothing: every burst is one of whole words
in a row. A write burst ends with its last beat, whatever length its address announced. The
master may do anything.
-/

namespace EmaczZephyr.Rtl

open Clocked Framing

/-- The parameter `ADDR_WIDTH`, the number of byte address bits, of which two select a byte of a
word. -/
structure BootBramConfig where
  addrWidth : Nat
  wide : 2 < addrWidth

/-- `WORDS`, the number of words of the memory. -/
def BootBramConfig.words (cfg : BootBramConfig) : Nat := 2 ^ (cfg.addrWidth - 2)

/-- The memory as the initial block leaves it: two instructions and then no-operations. -/
def bootRom (index : Nat) : BitVec 32 :=
  if index = 0 then 0x900002B7#32 else if index = 1 then 0x00028067#32 else 0x00000013#32

/-- The registers of the read channels: the burst in progress and the beat on offer. -/
structure BootReads (cfg : BootBramConfig) where
  rActive : Bool
  rWordIdx : BitVec (cfg.addrWidth - 2)
  rBeatsLeft : BitVec 8
  rId : BitVec 1
  sAxiRvalid : Bool
  sAxiRdata : BitVec 32
  sAxiRresp : BitVec 2
  sAxiRlast : Bool
  sAxiRid : BitVec 1

/-- The registers of the write channels, which only remember how far the transaction to refuse
has come. -/
structure BootWrites where
  wAddrSeen : Bool
  wLastSeen : Bool
  sAxiBvalid : Bool
  sAxiBresp : BitVec 2
  sAxiBid : BitVec 1

/-- The memory with the registers of its read and write channels. -/
structure BootBram (cfg : BootBramConfig) where
  rom : Nat → BitVec 32
  reads : BootReads cfg
  writes : BootWrites

/-- The inputs of the read channels at one edge. -/
structure BootReadInput (cfg : BootBramConfig) where
  sAxiArvalid : Bool
  sAxiAraddr : BitVec cfg.addrWidth
  sAxiArlen : BitVec 8
  sAxiArid : BitVec 1
  sAxiRready : Bool

/-- The inputs of the write channels at one edge. Address, data and strobes are not among them,
because nothing is written. -/
structure BootWriteInput where
  sAxiAwvalid : Bool
  sAxiAwid : BitVec 1
  sAxiWvalid : Bool
  sAxiWlast : Bool
  sAxiBready : Bool

/-- The inputs of all channels at one edge. -/
structure BootBramInput (cfg : BootBramConfig) where
  read : BootReadInput cfg
  write : BootWriteInput

variable {cfg : BootBramConfig}

namespace BootReads

variable (reads : BootReads cfg) (input : BootReadInput cfg)

/-- An address is accepted whenever no burst is in progress. -/
def sAxiArready : Bool := !reads.rActive

/-- `s_axi_araddr[ADDR_WIDTH-1:2]`, the word that a byte address lies in. -/
def startIdx : BitVec (cfg.addrWidth - 2) := input.sAxiAraddr.extractLsb' 2 (cfg.addrWidth - 2)

/-- One edge of the read channels: a burst begins with its first beat on offer, and each beat
taken brings the next one or ends the burst. -/
def next (rom : Nat → BitVec 32) : BootReads cfg :=
  if !reads.rActive && input.sAxiArvalid then
    { reads with
      rActive := true
      rWordIdx := startIdx input
      rBeatsLeft := input.sAxiArlen
      rId := input.sAxiArid
      sAxiRdata := rom (startIdx input).toNat
      sAxiRvalid := true
      sAxiRresp := 0#2
      sAxiRid := input.sAxiArid
      sAxiRlast := input.sAxiArlen == 0#8 }
  else if reads.rActive && reads.sAxiRvalid && input.sAxiRready then
    if reads.rBeatsLeft == 0#8 then
      { reads with rActive := false, sAxiRvalid := false, sAxiRlast := false }
    else
      { reads with
        rBeatsLeft := reads.rBeatsLeft - 1#8
        rWordIdx := reads.rWordIdx + 1
        -- The index has the width of the register, so it wraps with it.
        sAxiRdata := rom (reads.rWordIdx + 1).toNat
        sAxiRlast := reads.rBeatsLeft == 1#8 }
  else reads

/-- The read channels behind a reset, with no burst in progress and nothing on offer. -/
def reset : BootReads cfg := ⟨false, 0, 0#8, 0#1, false, 0#32, 0#2, false, 0#1⟩

end BootReads

namespace BootWrites

variable (writes : BootWrites) (input : BootWriteInput)

/-- A write address is accepted whenever no transaction is in progress. -/
def sAxiAwready : Bool := !writes.wAddrSeen

/-- Write beats are swallowed from the address on until the last one. -/
def sAxiWready : Bool := writes.wAddrSeen && !writes.wLastSeen

/-- The slave takes the last beat of the transaction at this edge. -/
def lastTaken : Bool :=
  writes.wAddrSeen && input.sAxiWvalid && writes.sAxiWready && input.sAxiWlast

/-- The response is taken at this edge, which ends the transaction. -/
def answered : Bool := writes.sAxiBvalid && input.sAxiBready

/-- One edge of the write channels: the address, the last beat and the taken response move the
transaction on. -/
def next : BootWrites where
  wAddrSeen :=
    if writes.answered input then false
    else if !writes.wAddrSeen && input.sAxiAwvalid then true
    else writes.wAddrSeen
  wLastSeen :=
    if writes.answered input then false
    else if writes.lastTaken input then true
    else writes.wLastSeen
  sAxiBvalid :=
    if writes.answered input then false
    else if writes.lastTaken input then true
    else writes.sAxiBvalid
  sAxiBresp := writes.sAxiBresp
  sAxiBid := if !writes.wAddrSeen && input.sAxiAwvalid then input.sAxiAwid else writes.sAxiBid

/-- The response is `DECERR` from the reset on. -/
def reset : BootWrites := ⟨false, false, false, 3#2, 0#1⟩

end BootWrites

namespace BootBram

/-- One rising clock edge of all channels. The memory has no writer. -/
def cycle (bram : BootBram cfg) (input : BootBramInput cfg) : BootBram cfg where
  rom := bram.rom
  reads := bram.reads.next input.read bram.rom
  writes := bram.writes.next input.write

/-- The block behind a reset, with the memory that the initial block leaves. -/
def reset : BootBram cfg := ⟨bootRom, .reset, .reset⟩

/-- The state behind any number of edges from a reset. -/
def run (inputs : List (BootBramInput cfg)) : BootBram cfg := after cycle reset inputs

end BootBram

/-- A read burst: its first word, its `arlen`, which is one less than its number of beats, and
its id. -/
structure ReadBurst where
  start : Nat
  arlen : Nat
  arid : BitVec 1

/-- A beat on the R channel, as the master sees it. -/
structure ReadBeat where
  rdata : BitVec 32
  rresp : BitVec 2
  rlast : Bool
  rid : BitVec 1

/-- A handshake on one of the read channels. -/
inductive ReadEvent where
  | address (burst : ReadBurst)
  | beat (beat : ReadBeat)

/-- The beat that a burst is due at a place: the word there, around the end of the memory, and
`rlast` at the last place only. -/
def ReadBurst.beat (cfg : BootBramConfig) (burst : ReadBurst) (place : Nat) : ReadBeat where
  rdata := bootRom ((burst.start + place) % cfg.words)
  rresp := 0#2
  rlast := decide (place = burst.arlen)
  rid := burst.arid

/-- A burst of which some beats have been taken. -/
def ReadBurst.taken (cfg : BootBramConfig) (burst : ReadBurst) (beats : Nat) : List ReadEvent :=
  .address burst :: (List.range beats).map fun place => .beat (burst.beat cfg place)

/-- A burst served: as many beats as `arlen` says and one. -/
def ReadBurst.served (cfg : BootBramConfig) (burst : ReadBurst) : List ReadEvent :=
  burst.taken cfg (burst.arlen + 1)

/-- A write transaction: its id, and its beats by whether they are marked as the last. -/
structure WriteTransaction where
  awid : BitVec 1
  beats : List Bool

/-- A handshake on one of the write channels. -/
inductive WriteEvent where
  | address (awid : BitVec 1)
  | beat (wlast : Bool)
  | response (bresp : BitVec 2) (bid : BitVec 1)

/-- A transaction consumed: its address, all its beats and no response yet. -/
def WriteTransaction.consumed (transaction : WriteTransaction) : List WriteEvent :=
  .address transaction.awid :: transaction.beats.map .beat

/-- A transaction answered: one `DECERR` behind it, with its id. -/
def WriteTransaction.answered (transaction : WriteTransaction) : List WriteEvent :=
  transaction.consumed ++ [.response 3#2 transaction.awid]

namespace BootBram

variable (bram : BootBram cfg) (input : BootBramInput cfg)

/-- The beat that stands on the R channel, whether it is valid or not. -/
def shown : ReadBeat :=
  ⟨bram.reads.sAxiRdata, bram.reads.sAxiRresp, bram.reads.sAxiRlast, bram.reads.sAxiRid⟩

/-- The handshakes of the read channels in a cycle. -/
def readEvents : List ReadEvent :=
  (if input.read.sAxiArvalid && bram.reads.sAxiArready then
    [.address ⟨(BootReads.startIdx input.read).toNat, input.read.sAxiArlen.toNat,
      input.read.sAxiArid⟩] else []) ++
  if bram.reads.sAxiRvalid && input.read.sAxiRready then [.beat bram.shown] else []

end BootBram

/-- How the registers stand to the burst they serve: the word index, the beats left and the
last flag all say how many beats have been taken. -/
inductive Reading (reads : BootReads cfg) : List ReadEvent → Prop
  | idle (inactive : reads.rActive = false) (nothing : reads.sAxiRvalid = false) :
      Reading reads []
  | burst (burst : ReadBurst) (beats : Nat) (active : reads.rActive = true)
      (valid : reads.sAxiRvalid = true)
      (index : reads.rWordIdx.toNat = (burst.start + beats) % cfg.words)
      (left : beats + reads.rBeatsLeft.toNat = burst.arlen)
      (shown : (⟨reads.sAxiRdata, reads.sAxiRresp, reads.sAxiRlast, reads.sAxiRid⟩ : ReadBeat) =
        burst.beat cfg beats) : Reading reads (burst.taken cfg beats)

/-- The word of an accepted address is a word of the memory. -/
theorem startIdx_small (input : BootReadInput cfg) :
    (BootReads.startIdx input).toNat < cfg.words :=
  (BootReads.startIdx input).isLt

/-- The index of the next word wraps with the memory, because its register has exactly as many
values as the memory has words. -/
theorem next_index {index : BitVec (cfg.addrWidth - 2)} {start beats : Nat}
    (current : index.toNat = (start + beats) % cfg.words) :
    (index + 1).toNat = (start + (beats + 1)) % cfg.words := by
  have one : (1 : BitVec (cfg.addrWidth - 2)).toNat = 1 % cfg.words := BitVec.toNat_ofNat ..
  calc (index + 1).toNat
      = (index.toNat + (1 : BitVec (cfg.addrWidth - 2)).toNat) % cfg.words :=
        BitVec.toNat_add ..
    _ = ((start + beats) % cfg.words + 1 % cfg.words) % cfg.words := by rw [current, one]
    _ = (start + (beats + 1)) % cfg.words := by rw [← Nat.add_mod, Nat.add_assoc]

section ReadEdge

variable {bram : BootBram cfg} {input : BootBramInput cfg} {started : List ReadEvent}

/-- An accepted address starts a burst with its first beat shown: the word at the address is
loaded with the address itself, and `rlast` says whether it is the only one. -/
theorem Reading.start (rom : bram.rom = bootRom) (inactive : bram.reads.rActive = false)
    (nothing : bram.reads.sAxiRvalid = false) (asked : input.read.sAxiArvalid = true) :
    Reading (bram.cycle input).reads (bram.readEvents input) := by
  have place : (BootReads.startIdx input.read).toNat % cfg.words =
      (BootReads.startIdx input.read).toNat := Nat.mod_eq_of_lt (startIdx_small input.read)
  have events : bram.readEvents input =
      ReadBurst.taken cfg ⟨(BootReads.startIdx input.read).toNat, input.read.sAxiArlen.toNat,
        input.read.sAxiArid⟩ 0 := by
    simp [BootBram.readEvents, BootReads.sAxiArready, ReadBurst.taken, asked, inactive, nothing]
  have last : (input.read.sAxiArlen == 0#8) = decide (0 = input.read.sAxiArlen.toNat) := by
    rw [Bool.eq_iff_iff, beq_iff_eq, decide_eq_true_iff, ← BitVec.toNat_inj]
    exact eq_comm
  rw [events]
  apply Reading.burst <;>
    simp [BootBram.cycle, BootReads.next, ReadBurst.beat, asked, inactive, rom, place, last]

/-- A taken beat that is not the last is followed by the next one. -/
theorem Reading.advance {burst : ReadBurst} {beats : Nat} (rom : bram.rom = bootRom)
    (active : bram.reads.rActive = true) (valid : bram.reads.sAxiRvalid = true)
    (index : bram.reads.rWordIdx.toNat = (burst.start + beats) % cfg.words)
    (left : beats + bram.reads.rBeatsLeft.toNat = burst.arlen)
    (shown : bram.shown = burst.beat cfg beats) (taken : input.read.sAxiRready = true)
    (more : bram.reads.rBeatsLeft ≠ 0#8) :
    Reading (bram.cycle input).reads (burst.taken cfg (beats + 1)) := by
  have some : bram.reads.rBeatsLeft.toNat ≠ 0 := fun none =>
    more (BitVec.eq_of_toNat_eq none)
  have small := bram.reads.rBeatsLeft.isLt
  have fewer : (bram.reads.rBeatsLeft - 1#8).toNat = bram.reads.rBeatsLeft.toNat - 1 := by
    bv_omega
  have last : (bram.reads.rBeatsLeft == 1#8) = decide (beats + 1 = burst.arlen) := by
    rw [Bool.eq_iff_iff, beq_iff_eq, decide_eq_true_iff, ← BitVec.toNat_inj,
      BitVec.toNat_ofNat]
    omega
  have following := next_index index
  obtain ⟨-, resp, -, own⟩ : bram.reads.sAxiRdata = _ ∧ bram.reads.sAxiRresp = 0#2 ∧
      bram.reads.sAxiRlast = _ ∧ bram.reads.sAxiRid = burst.arid := by
    simpa only [BootBram.shown, ReadBurst.beat, ReadBeat.mk.injEq] using shown
  have moved : (bram.cycle input).reads =
      { bram.reads with
        rBeatsLeft := bram.reads.rBeatsLeft - 1#8
        rWordIdx := bram.reads.rWordIdx + 1
        sAxiRdata := bootRom ((burst.start + (beats + 1)) % cfg.words)
        sAxiRlast := decide (beats + 1 = burst.arlen) } := by
    rw [← following]
    simp [BootBram.cycle, BootReads.next, active, valid, taken, more, rom, last]
  rw [moved]
  apply Reading.burst burst (beats + 1)
  · exact active
  · exact valid
  · exact following
  · show beats + 1 + (bram.reads.rBeatsLeft - 1#8).toNat = burst.arlen
    omega
  · simp [ReadBurst.beat, resp, own]

end ReadEdge

section WriteEdge

variable {bram : BootBram cfg} {input : BootBramInput cfg} {started : List WriteEvent}

end WriteEdge

end EmaczZephyr.Rtl
