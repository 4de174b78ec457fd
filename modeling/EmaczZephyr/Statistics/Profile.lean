import EmaczZephyr.Driver.RxThread
import EmaczZephyr.Foundation.RegisterFile
import Mathlib.Data.BitVec

/-!
# The profile

`eth_emaczero_profile.c`: the counters, cycle sums and watermarks of a profiling build, its
mode, and what is printed of them every second. Each function holds the lock of
`emz_profile` throughout, so a history of calls is a list, in whatever order the threads and
interrupts make them.
-/

namespace EmaczZephyr.Statistics

open Driver.Whole (ProfileMode)
open RegisterFile Watermark

/-- `enum emaczero_profile_counter_id`, the events that are counted. -/
inductive ProfileCounterId where
  | dmaCallbacks
  | dmaErrors
  | dmaDropAfterDma
  | rxWorkerPackets
  | rxInvalid
  | rxAllocPktFail
  | rxAllocFragFail
  | rxCopyFallback
  | rxZeroCopySubmit
  | rxCopySubmit
  | rxDropAfterPkt
  | rxNetRecvFail
  | rxRefillCalls
  | rxRefillQueued
  | rxRefillNoFree
deriving DecidableEq

/-- `enum emaczero_profile_cycle_id`, the stages whose cycles are added up. -/
inductive ProfileCycleId where
  | dmaCb
  | rxBuild
  | netRecv
deriving DecidableEq

/-- `enum emaczero_profile_max_id`, the values of which the greatest is kept. -/
inductive ProfileMaxId where
  | rxDmaInflight
  | rxStackOwned
deriving DecidableEq

/-- `enum emaczero_profile_min_id`, the values of which the least is kept. -/
inductive ProfileMinId where
  | rxFree
deriving DecidableEq

/-- `struct emaczero_profile_snapshot`, which the driver keeps and hands out. -/
structure ProfileSnapshot where
  mode : BitVec 32
  cyclesPerSec : BitVec 32
  dmaCallbacks : BitVec 64
  dmaErrors : BitVec 64
  dmaDropAfterDma : BitVec 64
  rxWorkerPackets : BitVec 64
  rxInvalid : BitVec 64
  rxAllocPktFail : BitVec 64
  rxAllocFragFail : BitVec 64
  rxCopyFallback : BitVec 64
  rxZeroCopySubmit : BitVec 64
  rxCopySubmit : BitVec 64
  rxDropAfterPkt : BitVec 64
  rxNetRecvFail : BitVec 64
  rxReleased : BitVec 64
  rxRefillCalls : BitVec 64
  rxRefillQueued : BitVec 64
  rxRefillNoFree : BitVec 64
  rxMaxDmaInflight : BitVec 32
  rxMaxStackOwned : BitVec 32
  rxMinFree : BitVec 32
  dmaCbCyclesTotal : BitVec 64
  dmaCbCyclesMax : BitVec 32
  rxBuildCyclesTotal : BitVec 64
  rxBuildCyclesMax : BitVec 32
  netRecvCyclesTotal : BitVec 64
  netRecvCyclesMax : BitVec 32
  bufferLifetimeCyclesTotal : BitVec 64
  bufferLifetimeCyclesMax : BitVec 32
  bufferLifetimeSamples : BitVec 64
deriving DecidableEq

/-- All fields zero, as `memset` and the start leave them. -/
def ProfileSnapshot.zeroed : ProfileSnapshot :=
  ⟨0, 0, 0, 0, 0, 0, 0, 0, 0, 0, 0, 0, 0, 0, 0, 0, 0, 0, 0, 0, 0, 0, 0, 0, 0, 0, 0, 0, 0, 0⟩

/-- `emz_profile` without its lock: every call below runs inside it. -/
structure ProfileState where
  mode : ProfileMode
  stats : ProfileSnapshot

/-- `emz_profile_add_u64` of a 32-bit amount, which wraps at 64 bits. -/
def emzProfileAddU64 (value : BitVec 64) (add : BitVec 32) : BitVec 64 := value + add.setWidth 64

/-- `emz_profile_set_max_u32`: the candidate where it is greater. -/
def emzProfileSetMaxU32 (value candidate : BitVec 32) : BitVec 32 :=
  if candidate > value then candidate else value

/-- `emz_profile_set_min_u32`: the candidate where it is smaller. -/
def emzProfileSetMinU32 (value candidate : BitVec 32) : BitVec 32 :=
  if candidate < value then candidate else value

/-- The statistics behind `emaczero_profile_reset`: all zero, but for `rx_min_free` at the
largest word. -/
def emaczeroProfileReset : ProfileSnapshot :=
  { ProfileSnapshot.zeroed with rxMinFree := BitVec.allOnes 32 }

/-- `emaczero_profile_set_mode`: the mode of a number, and the normal one for any that is
unknown. -/
def emaczeroProfileSetMode (mode : BitVec 32) : ProfileMode :=
  if mode = 1#32 then .dropAfterDma else if mode = 2#32 then .dropAfterPkt else .normal

/-- The number of a mode, as requests and snapshots have it. -/
def modeNumber : ProfileMode → BitVec 32
  | .normal => 0#32
  | .dropAfterDma => 1#32
  | .dropAfterPkt => 2#32

/-- `emaczero_profile_note_release`: one release, and one sample of how long its buffer was away. -/
def emaczeroProfileNoteRelease (stats : ProfileSnapshot) (lifetimeCycles : BitVec 32) :
    ProfileSnapshot :=
  { stats with
    rxReleased := stats.rxReleased + 1
    bufferLifetimeSamples := stats.bufferLifetimeSamples + 1
    bufferLifetimeCyclesTotal := emzProfileAddU64 stats.bufferLifetimeCyclesTotal lifetimeCycles
    bufferLifetimeCyclesMax := emzProfileSetMaxU32 stats.bufferLifetimeCyclesMax lifetimeCycles }

/-- `emaczero_profile_counter`: one more event of its kind. -/
def emaczeroProfileCounter (stats : ProfileSnapshot) : ProfileCounterId → ProfileSnapshot
  | .dmaCallbacks => { stats with dmaCallbacks := stats.dmaCallbacks + 1 }
  | .dmaErrors => { stats with dmaErrors := stats.dmaErrors + 1 }
  | .dmaDropAfterDma => { stats with dmaDropAfterDma := stats.dmaDropAfterDma + 1 }
  | .rxWorkerPackets => { stats with rxWorkerPackets := stats.rxWorkerPackets + 1 }
  | .rxInvalid => { stats with rxInvalid := stats.rxInvalid + 1 }
  | .rxAllocPktFail => { stats with rxAllocPktFail := stats.rxAllocPktFail + 1 }
  | .rxAllocFragFail => { stats with rxAllocFragFail := stats.rxAllocFragFail + 1 }
  | .rxCopyFallback => { stats with rxCopyFallback := stats.rxCopyFallback + 1 }
  | .rxZeroCopySubmit => { stats with rxZeroCopySubmit := stats.rxZeroCopySubmit + 1 }
  | .rxCopySubmit => { stats with rxCopySubmit := stats.rxCopySubmit + 1 }
  | .rxDropAfterPkt => { stats with rxDropAfterPkt := stats.rxDropAfterPkt + 1 }
  | .rxNetRecvFail => { stats with rxNetRecvFail := stats.rxNetRecvFail + 1 }
  | .rxRefillCalls => { stats with rxRefillCalls := stats.rxRefillCalls + 1 }
  | .rxRefillQueued => { stats with rxRefillQueued := stats.rxRefillQueued + 1 }
  | .rxRefillNoFree => { stats with rxRefillNoFree := stats.rxRefillNoFree + 1 }

/-- `emaczero_profile_add_cycles`: the cycles of one pass through a stage, for its sum and its
maximum. -/
def emaczeroProfileAddCycles (stats : ProfileSnapshot) (cycles : BitVec 32) :
    ProfileCycleId → ProfileSnapshot
  | .dmaCb => { stats with
      dmaCbCyclesTotal := emzProfileAddU64 stats.dmaCbCyclesTotal cycles
      dmaCbCyclesMax := emzProfileSetMaxU32 stats.dmaCbCyclesMax cycles }
  | .rxBuild => { stats with
      rxBuildCyclesTotal := emzProfileAddU64 stats.rxBuildCyclesTotal cycles
      rxBuildCyclesMax := emzProfileSetMaxU32 stats.rxBuildCyclesMax cycles }
  | .netRecv => { stats with
      netRecvCyclesTotal := emzProfileAddU64 stats.netRecvCyclesTotal cycles
      netRecvCyclesMax := emzProfileSetMaxU32 stats.netRecvCyclesMax cycles }

/-- `emaczero_profile_max`: a candidate for a maximum. -/
def emaczeroProfileMax (stats : ProfileSnapshot) (value : BitVec 32) :
    ProfileMaxId → ProfileSnapshot
  | .rxDmaInflight => { stats with
      rxMaxDmaInflight := emzProfileSetMaxU32 stats.rxMaxDmaInflight value }
  | .rxStackOwned => { stats with
      rxMaxStackOwned := emzProfileSetMaxU32 stats.rxMaxStackOwned value }

/-- `emaczero_profile_min`: a candidate for the minimum. -/
def emaczeroProfileMin (stats : ProfileSnapshot) (value : BitVec 32) :
    ProfileMinId → ProfileSnapshot
  | .rxFree => { stats with rxMinFree := emzProfileSetMinU32 stats.rxMinFree value }

/-- `emaczero_profile_snapshot`: the statistics, with the mode and the clock rate of the call. -/
def emaczeroProfileSnapshot (state : ProfileState) (cyclesPerSec : BitVec 32) : ProfileSnapshot :=
  { state.stats with
    mode := modeNumber state.mode
    cyclesPerSec := cyclesPerSec }

/-- A call of the profile's interface by the driver or by a command, with its arguments. -/
inductive ProfileCall where
  | counter (id : ProfileCounterId)
  | addCycles (id : ProfileCycleId) (cycles : BitVec 32)
  | max (id : ProfileMaxId) (value : BitVec 32)
  | min (id : ProfileMinId) (value : BitVec 32)
  | noteRelease (lifetimeCycles : BitVec 32)
  | reset
  | setMode (mode : BitVec 32)
deriving DecidableEq

/-- What a call does to the statistics; setting a mode leaves them. -/
def callStats (stats : ProfileSnapshot) : ProfileCall → ProfileSnapshot
  | .counter id => emaczeroProfileCounter stats id
  | .addCycles id cycles => emaczeroProfileAddCycles stats cycles id
  | .max id value => emaczeroProfileMax stats value id
  | .min id value => emaczeroProfileMin stats value id
  | .noteRelease lifetimeCycles => emaczeroProfileNoteRelease stats lifetimeCycles
  | .reset => emaczeroProfileReset
  | .setMode _ => stats

/-- What a call does to mode and statistics together. -/
def ProfileState.call (state : ProfileState) (call : ProfileCall) : ProfileState where
  mode := match call with
    | .setMode mode => emaczeroProfileSetMode mode
    | _ => state.mode
  stats := callStats state.stats call

/-- The mode that a call sets, if it sets one. -/
def ProfileCall.modeSet : ProfileCall → Option ProfileMode
  | .setMode mode => some (emaczeroProfileSetMode mode)
  | _ => none

/-- The call starts the statistics afresh, which only `emaczero_profile_reset` does. -/
def ProfileCall.resets : ProfileCall → Bool
  | .reset => true
  | _ => false

/-- The fields of 64 bits, to which calls add amounts. -/
inductive ProfileSum where
  | counted (id : ProfileCounterId)
  | cycles (id : ProfileCycleId)
  | released
  | lifetimeSamples
  | lifetimeCycles

/-- The fields that hold the greatest value of a kind. -/
inductive ProfilePeak where
  | cycles (id : ProfileCycleId)
  | max (id : ProfileMaxId)
  | lifetime

/-- The field of a counter, so that all counters can be spoken of at once. -/
def ProfileSnapshot.counted (stats : ProfileSnapshot) : ProfileCounterId → BitVec 64
  | .dmaCallbacks => stats.dmaCallbacks
  | .dmaErrors => stats.dmaErrors
  | .dmaDropAfterDma => stats.dmaDropAfterDma
  | .rxWorkerPackets => stats.rxWorkerPackets
  | .rxInvalid => stats.rxInvalid
  | .rxAllocPktFail => stats.rxAllocPktFail
  | .rxAllocFragFail => stats.rxAllocFragFail
  | .rxCopyFallback => stats.rxCopyFallback
  | .rxZeroCopySubmit => stats.rxZeroCopySubmit
  | .rxCopySubmit => stats.rxCopySubmit
  | .rxDropAfterPkt => stats.rxDropAfterPkt
  | .rxNetRecvFail => stats.rxNetRecvFail
  | .rxRefillCalls => stats.rxRefillCalls
  | .rxRefillQueued => stats.rxRefillQueued
  | .rxRefillNoFree => stats.rxRefillNoFree

/-- The field of a sum: a counter, a total of cycles, or one of the release's own. -/
def ProfileSnapshot.sum (stats : ProfileSnapshot) : ProfileSum → BitVec 64
  | .counted id => stats.counted id
  | .cycles .dmaCb => stats.dmaCbCyclesTotal
  | .cycles .rxBuild => stats.rxBuildCyclesTotal
  | .cycles .netRecv => stats.netRecvCyclesTotal
  | .released => stats.rxReleased
  | .lifetimeSamples => stats.bufferLifetimeSamples
  | .lifetimeCycles => stats.bufferLifetimeCyclesTotal

/-- The field of a peak: the largest cycles of a stage, a maximum, or the longest lifetime. -/
def ProfileSnapshot.peak (stats : ProfileSnapshot) : ProfilePeak → BitVec 32
  | .cycles .dmaCb => stats.dmaCbCyclesMax
  | .cycles .rxBuild => stats.rxBuildCyclesMax
  | .cycles .netRecv => stats.netRecvCyclesMax
  | .max .rxDmaInflight => stats.rxMaxDmaInflight
  | .max .rxStackOwned => stats.rxMaxStackOwned
  | .lifetime => stats.bufferLifetimeCyclesMax

/-- What a call adds to a sum, which is nothing for most pairs. -/
def ProfileSum.amount : ProfileSum → ProfileCall → Nat
  | .counted id, .counter other => if other = id then 1 else 0
  | .cycles id, .addCycles other value => if other = id then value.toNat else 0
  | .released, .noteRelease _ => 1
  | .lifetimeSamples, .noteRelease _ => 1
  | .lifetimeCycles, .noteRelease value => value.toNat
  | _, _ => 0

/-- The value that a call offers to a peak, if it offers one. -/
def ProfilePeak.candidate : ProfilePeak → ProfileCall → Option Nat
  | .cycles id, .addCycles other value => if other = id then some value.toNat else none
  | .max id, .max other value => if other = id then some value.toNat else none
  | .lifetime, .noteRelease value => some value.toNat
  | _, _ => none

/-- The value that a call offers to `rx_min_free`, if it offers one. -/
def minCandidate : ProfileCall → Option Nat
  | .min .rxFree value => some value.toNat
  | _ => none

section Registers

variable {stats : ProfileSnapshot} {call : ProfileCall}

/-- Counting an event makes its own counter one larger, for every kind. -/
theorem counted_same (id : ProfileCounterId) :
    (emaczeroProfileCounter stats id).counted id = stats.counted id + 1 := by
  cases id <;> rfl

/-- Every counter has its own field, so counting an event leaves the counters of the others. -/
theorem counted_other {id other : ProfileCounterId} (different : other ≠ id) :
    (emaczeroProfileCounter stats other).counted id = stats.counted id := by
  cases other <;> cases id <;> first | rfl | exact absurd rfl different

/-- A sum that a call leaves alone is one to which it adds nothing, in the form of the general
law. -/
theorem sum_left {sum : ProfileSum} (same : (callStats stats call).sum sum = stats.sum sum)
    (nothing : sum.amount call = 0) :
    (callStats stats call).sum sum = stats.sum sum + BitVec.ofNat 64 (sum.amount call) := by
  rw [same, nothing]
  exact (BitVec.add_zero _).symm

/-- Adding 32-bit cycles to a sum adds their number. -/
theorem cycles_added (total : BitVec 64) (value : BitVec 32) :
    emzProfileAddU64 total value = total + BitVec.ofNat 64 value.toNat := by
  rw [BitVec.ofNat_toNat]
  rfl

/-- A call that does not reset adds its amount to a counter: one for the counter's own event, and
nothing otherwise. -/
theorem counted_added (kept : call.resets = false) (id : ProfileCounterId) :
    (callStats stats call).sum (.counted id) =
      stats.sum (.counted id) + BitVec.ofNat 64 ((ProfileSum.counted id).amount call) := by
  cases call with
  | reset => cases kept
  | counter other =>
    by_cases same : other = id
    · rw [same, ProfileSum.amount, if_pos rfl]
      exact counted_same id
    · exact sum_left (counted_other same) (if_neg same)
  | addCycles other value | max other value | min other value =>
    cases other <;> cases id <;> exact sum_left rfl rfl
  | noteRelease value => cases id <;> exact sum_left rfl rfl
  | setMode mode => exact sum_left rfl rfl

/-- A call that does not reset adds its amount to a sum of cycles: the cycles for the stage's own
calls, and nothing otherwise. -/
theorem cycle_total_added (kept : call.resets = false) (id : ProfileCycleId) :
    (callStats stats call).sum (.cycles id) =
      stats.sum (.cycles id) + BitVec.ofNat 64 ((ProfileSum.cycles id).amount call) := by
  cases call with
  | reset => cases kept
  | addCycles other value =>
    cases other <;> cases id <;> first | exact sum_left rfl rfl | exact cycles_added _ value
  | counter other | max other value | min other value =>
    cases other <;> cases id <;> exact sum_left rfl rfl
  | noteRelease value => cases id <;> exact sum_left rfl rfl
  | setMode mode => exact sum_left rfl rfl

/-- A call that does not reset adds its amounts to all sums. The counters and the sums of cycles
have their own laws; the rest is added by releases only. -/
theorem sum_added (kept : call.resets = false) (sum : ProfileSum) :
    (callStats stats call).sum sum = stats.sum sum + BitVec.ofNat 64 (sum.amount call) := by
  cases sum with
  | counted id => exact counted_added kept id
  | cycles id => exact cycle_total_added kept id
  | released | lifetimeSamples | lifetimeCycles =>
    cases call with
    | reset => cases kept
    | counter other | addCycles other value | max other value | min other value =>
      cases other <;> exact sum_left rfl rfl
    | noteRelease value => first | rfl | exact cycles_added _ value
    | setMode mode => exact sum_left rfl rfl

/-- A greater value takes the place of a peak, which is an offer to the number it shows. -/
theorem max_offer (value candidate : BitVec 32) :
    (emzProfileSetMaxU32 value candidate).toNat = offer (· > ·) value.toNat candidate.toNat := by
  unfold emzProfileSetMaxU32 offer
  by_cases greater : candidate > value
  · rw [if_pos greater, if_pos (BitVec.lt_def.mp greater)]
  · rw [if_neg greater, if_neg (mt BitVec.lt_def.mpr greater)]

/-- A smaller value takes the place of the minimum, which is an offer to the number it shows. -/
theorem min_offer (value candidate : BitVec 32) :
    (emzProfileSetMinU32 value candidate).toNat = offer (· < ·) value.toNat candidate.toNat := by
  unfold emzProfileSetMinU32 offer
  by_cases less : candidate < value
  · rw [if_pos less, if_pos (BitVec.lt_def.mp less)]
  · rw [if_neg less, if_neg (mt BitVec.lt_def.mpr less)]

/-- A call that does not reset offers its value to the peaks of its kind. -/
theorem peak_offered (kept : call.resets = false) (peak : ProfilePeak) :
    ((callStats stats call).peak peak).toNat =
      (peak.candidate call).elim (stats.peak peak).toNat
        (offer (· > ·) (stats.peak peak).toNat) := by
  cases peak with
  | cycles id =>
    cases call with
    | reset => cases kept
    | addCycles other value =>
      cases other <;> cases id <;> first | rfl | exact max_offer _ value
    | counter other | max other value | min other value => cases other <;> cases id <;> rfl
    | noteRelease value => cases id <;> rfl
    | setMode mode => rfl
  | max id =>
    cases call with
    | reset => cases kept
    | max other value =>
      cases other <;> cases id <;> first | rfl | exact max_offer _ value
    | counter other | addCycles other value | min other value => cases other <;> cases id <;> rfl
    | noteRelease value => cases id <;> rfl
    | setMode mode => rfl
  | lifetime =>
    cases call with
    | reset => cases kept
    | noteRelease value => exact max_offer stats.bufferLifetimeCyclesMax value
    | counter other | addCycles other value | max other value | min other value =>
      cases other <;> rfl
    | setMode mode => rfl

/-- A call that does not reset offers its value to the least number of free buffers. -/
theorem min_offered (kept : call.resets = false) :
    (callStats stats call).rxMinFree.toNat =
      (minCandidate call).elim stats.rxMinFree.toNat (offer (· < ·) stats.rxMinFree.toNat) := by
  cases call with
  | reset => cases kept
  | min other value =>
    cases other
    exact min_offer stats.rxMinFree value
  | counter other | addCycles other value | max other value => cases other <;> rfl
  | noteRelease value | setMode mode => rfl

end Registers

/-- The statistics against the calls behind the last reset: the sums of 64 bits, the greatest
values over zero, and the least over all ones. -/
structure ProfileAccount (recent : List ProfileCall) (stats : ProfileSnapshot) : Prop where
  sums : ∀ sum, stats.sum sum = BitVec.ofNat 64 (recent.map (ProfileSum.amount sum)).sum
  peaks : ∀ peak,
    Extreme (· > ·) 0 (recent.filterMap (ProfilePeak.candidate peak)) (stats.peak peak).toNat
  least : Extreme (· < ·) (2 ^ 32 - 1) (recent.filterMap minCandidate) stats.rxMinFree.toNat

/-- The statistics behind a history do not depend on the mode, so they are a run of their own. -/
theorem stats_history (state : ProfileState) (history : List ProfileCall) :
    (history.foldl ProfileState.call state).stats = history.foldl callStats state.stats := by
  induction history generalizing state with
  | nil => rfl
  | cons call history inductionHypothesis => exact inductionHypothesis (state.call call)

/-- The mode behind a history is the last that was set, or the one before it. Induction over the
history, from its end. -/
theorem mode_history (state : ProfileState) (history : List ProfileCall) :
    (history.foldl ProfileState.call state).mode =
      (history.filterMap ProfileCall.modeSet).getLast?.getD state.mode := by
  induction history using List.reverseRecOn with
  | nil => rfl
  | append_singleton history call inductionHypothesis =>
    rw [List.foldl_append, List.foldl_cons, List.foldl_nil, List.filterMap_append]
    cases call with
    | setMode mode => simp [ProfileState.call, ProfileCall.modeSet]
    | counter _ | addCycles _ _ | max _ _ | min _ _ | noteRelease _ | reset =>
      simpa [ProfileState.call, ProfileCall.modeSet] using inductionHypothesis

/-- A call that resets leaves statistics that do not depend on those before. -/
theorem reset_clears (stats : ProfileSnapshot) (call : ProfileCall) (resets : call.resets = true) :
    callStats stats call = emaczeroProfileReset := by
  cases call with
  | reset => rfl
  | counter _ | addCycles _ _ | max _ _ | min _ _ | noteRelease _ | setMode _ => cases resets

/-- A snapshot shows the sums as they are, since it only fills in mode and clock rate. -/
theorem snapshot_sum {state : ProfileState} {cyclesPerSec : BitVec 32} (sum : ProfileSum) :
    (emaczeroProfileSnapshot state cyclesPerSec).sum sum = state.stats.sum sum := by
  cases sum with
  | counted id | cycles id => cases id <;> rfl
  | released | lifetimeSamples | lifetimeCycles => rfl

/-- A snapshot shows the peaks as they are, since it only fills in mode and clock rate. -/
theorem snapshot_peak {state : ProfileState} {cyclesPerSec : BitVec 32} (peak : ProfilePeak) :
    (emaczeroProfileSnapshot state cyclesPerSec).peak peak = state.stats.peak peak := by
  cases peak with
  | cycles id | max id => cases id <;> rfl
  | lifetime => rfl

/-- Every release is a sample of the lifetime, so both sums are added to alike. -/
theorem released_sampled : ProfileSum.lifetimeSamples.amount = ProfileSum.released.amount := by
  funext call
  cases call <;> rfl

/-- A sum of 64-bit words is the word of the sum, because wrapping may be done at the end. -/
theorem sum_words (amounts : List Nat) :
    (amounts.map (BitVec.ofNat 64)).sum = BitVec.ofNat 64 amounts.sum := by
  induction amounts with
  | nil => rfl
  | cons amount amounts inductionHypothesis =>
    rw [List.map_cons, List.sum_cons, List.sum_cons, inductionHypothesis, BitVec.ofNat_add]

/-- Behind a reset every sum is zero. -/
theorem reset_sum (sum : ProfileSum) : emaczeroProfileReset.sum sum = 0 := by
  cases sum with
  | counted id | cycles id => cases id <;> rfl
  | released | lifetimeSamples | lifetimeCycles => rfl

/-- What calls that do not reset make of the statistics behind a reset: the sums by the law of
registers that are added to, the peaks and the minimum by that of registers that are offered
values. -/
theorem account_recent {recent : List ProfileCall}
    (kept : ∀ call ∈ recent, call.resets = false) :
    ProfileAccount recent (recent.foldl callStats emaczeroProfileReset) := by
  constructor
  · intro sum
    have added := register_sum (fun stats => ProfileSnapshot.sum stats sum)
      (fun call => BitVec.ofNat 64 (sum.amount call))
      (fun stats call member => sum_added (kept call member) sum) emaczeroProfileReset
    rw [added, reset_sum, zero_add, ← sum_words, List.map_map]
    rfl
  · intro peak
    have fresh : (emaczeroProfileReset.peak peak).toNat = 0 := by
      cases peak with
      | cycles id | max id => cases id <;> rfl
      | lifetime => rfl
    rw [← fresh]
    apply register_extreme (· > ·) (fun stats => (ProfileSnapshot.peak stats peak).toNat)
    · intro stats call member
      exact peak_offered (kept call member) peak
    · intro call member value offered
      rw [fresh]
      exact Nat.not_lt_zero value
  · have fresh : emaczeroProfileReset.rxMinFree.toNat = 2 ^ 32 - 1 := rfl
    rw [← fresh]
    apply register_extreme (· < ·) (fun stats => (ProfileSnapshot.rxMinFree stats).toNat)
    · intro stats call member
      exact min_offered (kept call member)
    · intro call member value offered
      cases call with
      | min other word =>
        cases other
        obtain rfl := Option.some.inj offered
        rw [fresh]
        exact Nat.not_lt.mpr (Nat.le_pred_of_lt word.isLt)
      | counter _ | addCycles _ _ | max _ _ | noteRelease _ | reset | setMode _ => cases offered

/-- For every history with a reset, whatever was there before it: the snapshot accounts for the
calls behind the last reset, and shows the mode that was set last.

Proof: what came before the last reset does not matter, since a reset clears the statistics.
Behind it each sum and each peak is that of the calls, and the snapshot copies them. -/
theorem profile_account (state : ProfileState) (before after : List ProfileCall)
    (cyclesPerSec : BitVec 32) :
    let history := before ++ .reset :: after
    let reached := history.foldl ProfileState.call state
    let snapshot := emaczeroProfileSnapshot reached cyclesPerSec
    ProfileAccount (since ProfileCall.resets after) snapshot ∧
      snapshot.rxReleased = snapshot.bufferLifetimeSamples ∧
      snapshot.mode =
        modeNumber ((history.filterMap ProfileCall.modeSet).getLast?.getD state.mode) := by
  intro history reached snapshot
  have recent : reached.stats =
      (since ProfileCall.resets after).foldl callStats emaczeroProfileReset :=
    (stats_history state history).trans
      (state_since reset_clears state.stats (show ProfileCall.reset.resets = true from rfl) after)
  have kept : ∀ call ∈ since ProfileCall.resets after, call.resets = false := since_keeps
  have account := account_recent kept
  rw [← recent] at account
  refine ⟨⟨?_, ?_, account.least⟩, ?_, ?_⟩
  · intro sum
    exact (snapshot_sum sum).trans (account.sums sum)
  · intro peak
    rw [snapshot_peak]
    exact account.peaks peak
  · exact (account.sums .released).trans
      (released_sampled ▸ (account.sums .lifetimeSamples).symm)
  · exact congrArg modeNumber (mode_history state history)

end EmaczZephyr.Statistics
