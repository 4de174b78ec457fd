import EmaczZephyr.Foundation.Runs
import EmaczZephyr.Statistics.Profile

/-!
# The profile on the console

`dump_profile_delta` prints every second what the profile counted since it last did. It
subtracts the snapshot that it kept from a new one, and a reset in between makes the new one
the smaller: the difference then shows as zero, and the next one starts from the new
snapshot. The texts and the console are left out; what is printed are the values.
-/

namespace EmaczZephyr.Application

open Runs RegisterFile Statistics Watermark

/-- `u64_delta`: the difference of two 64-bit readings, and zero when the later reading is
smaller, as behind a reset. -/
def u64Delta (now before : BitVec 64) : BitVec 64 := if now ≥ before then now - before else 0#64

/-- `u32_delta`: the difference of two 32-bit readings, and zero when the later reading is
smaller. -/
def u32Delta (now before : BitVec 32) : BitVec 32 := if now ≥ before then now - before else 0#32

/-- `u64_avg`: the quotient of a total and a count, and zero without any event. -/
def u64Avg (total count : BitVec 64) : BitVec 64 := if count = 0#64 then 0#64 else total / count

/-- The values of the two lines of `dump_profile_delta`, before they are printed: differences,
averages, and the maxima as they stand. -/
structure ProfileDelta where
  mode : BitVec 32
  irq : BitVec 64
  dma : BitVec 64
  work : BitVec 64
  zc : BitVec 64
  copy : BitVec 64
  dropDma : BitVec 64
  dropPkt : BitVec 64
  fail : BitVec 64
  nofree : BitVec 64
  dmaAvg : BitVec 64
  dmaMax : BitVec 32
  buildAvg : BitVec 64
  buildMax : BitVec 32
  netAvg : BitVec 64
  netMax : BitVec 32
  lifeAvg : BitVec 64
  lifeMax : BitVec 32
  maxInflight : BitVec 32
  maxStack : BitVec 32
  minFree : BitVec 32
  hz : BitVec 32
deriving DecidableEq

/-- What `dump_profile_delta` prints, from the new snapshot and the one it kept, and from the
interrupt counts. -/
def dumpProfileDelta (now prev : ProfileSnapshot) (irqNow prevIrq : BitVec 64) : ProfileDelta :=
  let dmaCount := u64Delta now.dmaCallbacks prev.dmaCallbacks
  let workerCount := u64Delta now.rxWorkerPackets prev.rxWorkerPackets
  let netRecvCount := u64Delta
    (now.rxZeroCopySubmit + now.rxCopySubmit + now.rxNetRecvFail)
    (prev.rxZeroCopySubmit + prev.rxCopySubmit + prev.rxNetRecvFail)
  let lifetimeCount := u64Delta now.bufferLifetimeSamples prev.bufferLifetimeSamples
  { mode := now.mode
    irq := u64Delta irqNow prevIrq
    dma := dmaCount
    work := workerCount
    zc := u64Delta now.rxZeroCopySubmit prev.rxZeroCopySubmit
    copy := u64Delta now.rxCopySubmit prev.rxCopySubmit
    dropDma := u64Delta now.dmaDropAfterDma prev.dmaDropAfterDma
    dropPkt := u64Delta now.rxDropAfterPkt prev.rxDropAfterPkt
    fail := u64Delta now.rxNetRecvFail prev.rxNetRecvFail
    nofree := u64Delta now.rxRefillNoFree prev.rxRefillNoFree
    dmaAvg := u64Avg (u64Delta now.dmaCbCyclesTotal prev.dmaCbCyclesTotal) dmaCount
    dmaMax := u32Delta now.dmaCbCyclesMax 0#32
    buildAvg := u64Avg (u64Delta now.rxBuildCyclesTotal prev.rxBuildCyclesTotal) workerCount
    buildMax := u32Delta now.rxBuildCyclesMax 0#32
    netAvg := u64Avg (u64Delta now.netRecvCyclesTotal prev.netRecvCyclesTotal) netRecvCount
    netMax := u32Delta now.netRecvCyclesMax 0#32
    lifeAvg := u64Avg (u64Delta now.bufferLifetimeCyclesTotal prev.bufferLifetimeCyclesTotal)
      lifetimeCount
    lifeMax := u32Delta now.bufferLifetimeCyclesMax 0#32
    maxInflight := now.rxMaxDmaInflight
    maxStack := now.rxMaxStackOwned
    minFree := if now.rxMinFree = BitVec.allOnes 32 then 0#32 else now.rxMinFree
    hz := now.cyclesPerSec }

/-- The counts that are printed among the values, under the kind of event that each belongs to;
the kinds that are not printed have none. -/
def ProfileDelta.counted (delta : ProfileDelta) : ProfileCounterId → Option (BitVec 64)
  | .dmaCallbacks => some delta.dma
  | .rxWorkerPackets => some delta.work
  | .rxZeroCopySubmit => some delta.zc
  | .rxCopySubmit => some delta.copy
  | .dmaDropAfterDma => some delta.dropDma
  | .rxDropAfterPkt => some delta.dropPkt
  | .rxNetRecvFail => some delta.fail
  | .rxRefillNoFree => some delta.nofree
  | _ => none

/-- One dump in the history: the calls that were made since the one before, and the values that
were printed. -/
structure Dump where
  calls : List ProfileCall
  delta : ProfileDelta

/-- The profile, the statics of `dump_profile_delta`, the dumps so far, and the calls since
the last. -/
structure Console where
  profile : ProfileState
  prev : ProfileSnapshot
  prevIrq : BitVec 64
  dumps : List Dump
  pending : List ProfileCall

/-- What can happen to the console's view of the profile: a call by the driver or by a command,
or a dump. -/
inductive ConsoleLabel where
  | call (call : ProfileCall)
  /-- `dump_profile_delta`, with `rx_irq_count` and the frequency as it finds them. -/
  | dump (irqNow : BitVec 64) (cyclesPerSec : BitVec 32)

/-- One step: a call changes the profile and joins the calls that are pending; a dump prints the
differences and keeps the snapshot for the next. -/
def consoleStep (console : Console) : ConsoleLabel → Option Console
  | .call call => some { console with
      profile := console.profile.call call
      pending := console.pending ++ [call] }
  | .dump irqNow cyclesPerSec =>
      let now := emaczeroProfileSnapshot console.profile cyclesPerSec
      some { console with
        prev := now
        prevIrq := irqNow
        dumps := console.dumps ++
          [⟨console.pending, dumpProfileDelta now console.prev irqNow console.prevIrq⟩]
        pending := [] }

/-- The statics at the start: all counters zero, a zeroed previous snapshot, and no dump made. -/
def Console.start : Console := ⟨⟨.normal, .zeroed⟩, .zeroed, 0#64, [], []⟩

/-- The calls before the last dump, in their order: those of all the dumps that were made. -/
def Console.dumped (console : Console) : List ProfileCall := console.dumps.flatMap Dump.calls

/-- What calls add to a sum of the profile, as a natural number without a wrap. -/
def added (sum : ProfileSum) (calls : List ProfileCall) : Nat := (calls.map sum.amount).sum

/-- No sum of the profile comes to 64 bits over these calls, resets left out of account. -/
def NoWrap (calls : List ProfileCall) : Prop := ∀ sum, added sum calls < 2 ^ 64

/-- None of the calls is a reset of the profile, so the sums only grow over them. -/
def NoReset (calls : List ProfileCall) : Prop := ∀ call ∈ calls, call.resets = false

/-- What a dump says of the calls since the one before: it never shows more events than there
were, and without a reset exactly these, and an average lifetime within the greatest. -/
structure DumpFaithful (dump : Dump) : Prop where
  atMost : ∀ id shown, dump.delta.counted id = some shown →
    shown.toNat ≤ dump.calls.count (.counter id)
  exact : NoReset dump.calls → ∀ id shown, dump.delta.counted id = some shown →
    shown.toNat = dump.calls.count (.counter id)
  average : NoReset dump.calls → dump.delta.lifeAvg.toNat ≤ dump.delta.lifeMax.toNat

section Differences

variable {sum : ProfileSum} {earlier calls : List ProfileCall}

/-- The difference that is printed is the truncated one of natural numbers, in both of the
branches. -/
theorem u64_delta_truncated (now before : BitVec 64) :
    (u64Delta now before).toNat = now.toNat - before.toNat := by
  unfold u64Delta
  split
  · rename_i ordered
    exact BitVec.toNat_sub_of_le ordered
  · rename_i behind
    have less : now.toNat < before.toNat := Nat.lt_of_not_le behind
    rw [Nat.sub_eq_zero_of_le less.le]
    rfl

/-- The average that is printed is the quotient of natural numbers, which is zero for a zero
count as well. -/
theorem u64_avg_quotient (total count : BitVec 64) :
    (u64Avg total count).toNat = total.toNat / count.toNat := by
  unfold u64Avg
  split
  · rename_i none
    rw [none]
    exact (Nat.div_zero _).symm
  · exact BitVec.toNat_udiv

/-- Against a previous reading of zero the difference is the reading itself. -/
theorem u32_delta_zero (value : BitVec 32) : u32Delta value 0#32 = value := by
  have all : value ≥ 0#32 := BitVec.le_def.mpr (Nat.zero_le _)
  unfold u32Delta
  rw [if_pos all, BitVec.sub_zero]

/-- What two stretches of calls add is what each of them adds. -/
theorem added_append (sum : ProfileSum) (earlier calls : List ProfileCall) :
    added sum (earlier ++ calls) = added sum earlier + added sum calls := by
  rw [added, List.map_append, List.sum_append]
  rfl

/-- For a counter of events, the calls add as much as there are events of its kind among them. -/
theorem added_counted (id : ProfileCounterId) (calls : List ProfileCall) :
    added (.counted id) calls = calls.count (.counter id) := by
  induction calls with
  | nil => rfl
  | cons call calls inductionHypothesis =>
    rw [List.count_cons, ← inductionHypothesis, Nat.add_comm]
    cases call <;> simp [added, ProfileSum.amount]

/-- The calls since the last reset add no more than all the calls do. -/
theorem added_since (sum : ProfileSum) (calls : List ProfileCall) :
    added sum (since ProfileCall.resets calls) ≤ added sum calls := by
  induction calls using List.reverseRecOn with
  | nil => exact Nat.le_refl _
  | append_singleton calls call inductionHypothesis =>
    rw [added_append]
    cases resets : call.resets with
    | true =>
      rw [since_cleared resets]
      exact Nat.zero_le _
    | false =>
      rw [since_kept resets, added_append]
      exact Nat.add_le_add_right inductionHypothesis _

/-- Over calls without a reset, the difference of the sums is exactly what these calls add. -/
theorem difference_exact (kept : NoReset calls) :
    added sum (since ProfileCall.resets (earlier ++ calls)) -
      added sum (since ProfileCall.resets earlier) = added sum calls := by
  rw [since_append kept, added_append]
  exact Nat.add_sub_cancel_left _ _

/-- With a reset among the calls the truncated difference is no more than what they add, so a
dump never shows events that did not happen. -/
theorem difference_at_most :
    added sum (since ProfileCall.resets (earlier ++ calls)) -
      added sum (since ProfileCall.resets earlier) ≤ added sum calls := by
  by_cases kept : NoReset calls
  · exact (difference_exact kept).le
  · obtain ⟨call, reset⟩ := not_forall.mp kept
    obtain ⟨member, resets⟩ := Classical.not_imp.mp reset
    rw [since_forgets ⟨call, member, eq_true_of_ne_false resets⟩]
    exact (Nat.sub_le _ _).trans (added_since sum calls)

end Differences

/-- The sums of the profile and of the kept snapshot against the calls, the lifetimes, and
the dumps so far. -/
structure ConsoleInvariant (console : Console) : Prop where
  sums : ∀ sum, console.profile.stats.sum sum = BitVec.ofNat 64
    (added sum (since ProfileCall.resets (console.dumped ++ console.pending)))
  kept : ∀ sum, console.prev.sum sum =
    BitVec.ofNat 64 (added sum (since ProfileCall.resets console.dumped))
  lifetimes : ∀ value,
    .noteRelease value ∈ since ProfileCall.resets (console.dumped ++ console.pending) →
      value.toNat ≤ console.profile.stats.bufferLifetimeCyclesMax.toNat
  faithful : NoWrap console.dumped → ∀ dump ∈ console.dumps, DumpFaithful dump

section Dumps

variable {console : Console} {call : ProfileCall}

/-- When no sum wraps over a history, none wraps over its beginning. -/
theorem NoWrap.earlier {earlier calls : List ProfileCall} (small : NoWrap (earlier ++ calls)) :
    NoWrap earlier := by
  intro sum
  have whole := small sum
  rw [added_append] at whole
  omega

/-- One more call in the sums: every sum of the statistics stays what the calls since the last
reset add, modulo 2^64. -/
theorem sums_call {calls : List ProfileCall} {stats : ProfileSnapshot}
    (sums : ∀ sum, stats.sum sum = BitVec.ofNat 64 (added sum (since ProfileCall.resets calls)))
    (call : ProfileCall) (sum : ProfileSum) :
    (callStats stats call).sum sum =
      BitVec.ofNat 64 (added sum (since ProfileCall.resets (calls ++ [call]))) := by
  cases resets : call.resets with
  | true =>
    rw [reset_clears _ call resets, since_cleared resets]
    exact reset_sum sum
  | false =>
    rw [sum_added resets, since_kept resets, added_append, sums, BitVec.ofNat_add]
    rfl

/-- One more call in the lifetimes: the maximum stays at least every lifetime noted since the
last reset. -/
theorem lifetimes_call {calls : List ProfileCall} {stats : ProfileSnapshot}
    (lifetimes : ∀ value, .noteRelease value ∈ since ProfileCall.resets calls →
      value.toNat ≤ stats.bufferLifetimeCyclesMax.toNat)
    (call : ProfileCall) (value : BitVec 32)
    (member : .noteRelease value ∈ since ProfileCall.resets (calls ++ [call])) :
    value.toNat ≤ (callStats stats call).bufferLifetimeCyclesMax.toNat := by
  cases resets : call.resets with
  | true =>
    rw [since_cleared resets] at member
    cases member
  | false =>
    have raised : stats.bufferLifetimeCyclesMax.toNat ≤
        (callStats stats call).bufferLifetimeCyclesMax.toNat := by
      refine le_of_le_of_eq ?_ (peak_offered resets .lifetime).symm
      cases (ProfilePeak.lifetime).candidate call with
      | none => exact le_rfl
      | some candidate => exact (le_offer _ candidate).1
    rw [since_kept resets] at member
    rcases List.mem_append.mp member with earlier | last
    · exact (lifetimes value earlier).trans raised
    · rw [← List.mem_singleton.mp last]
      exact le_of_le_of_eq (le_offer _ _).2 (max_offer stats.bufferLifetimeCyclesMax value).symm

/-- The difference of a sum between two snapshots is the one of what the calls add; without a
wrap both snapshots show the true sums. -/
theorem ConsoleInvariant.difference (invariant : ConsoleInvariant console)
    (small : NoWrap (console.dumped ++ console.pending)) (cyclesPerSec : BitVec 32)
    (sum : ProfileSum) :
    (u64Delta ((emaczeroProfileSnapshot console.profile cyclesPerSec).sum sum)
      (console.prev.sum sum)).toNat =
      added sum (since ProfileCall.resets (console.dumped ++ console.pending)) -
        added sum (since ProfileCall.resets console.dumped) := by
  have now := (added_since sum (console.dumped ++ console.pending)).trans_lt (small sum)
  have before := (added_since sum console.dumped).trans_lt (small.earlier sum)
  rw [u64_delta_truncated, snapshot_sum, invariant.sums, invariant.kept, BitVec.toNat_ofNat,
    BitVec.toNat_ofNat, Nat.mod_eq_of_lt now, Nat.mod_eq_of_lt before]

/-- Each printed count is the difference of its own counter between the two snapshots; one case
per kind of event. -/
theorem shown_difference {now prev : ProfileSnapshot} {irqNow prevIrq : BitVec 64}
    {id : ProfileCounterId} {shown : BitVec 64}
    (printed : (dumpProfileDelta now prev irqNow prevIrq).counted id = some shown) :
    shown = u64Delta (now.sum (.counted id)) (prev.sum (.counted id)) := by
  cases id <;> first | exact (Option.some.inj printed).symm | cases printed

/-- Lifetimes within a bound come to no more than as many times the bound. -/
theorem lifetimes_total {calls : List ProfileCall} {bound : Nat}
    (within : ∀ value, .noteRelease value ∈ calls → value.toNat ≤ bound) :
    added .lifetimeCycles calls ≤ added .lifetimeSamples calls * bound := by
  induction calls with
  | nil => exact Nat.zero_le _
  | cons call calls inductionHypothesis =>
    have rest := inductionHypothesis fun value member =>
      within value (List.mem_cons_of_mem call member)
    have first : ProfileSum.lifetimeCycles.amount call ≤
        ProfileSum.lifetimeSamples.amount call * bound := by
      cases call with
      | noteRelease value =>
        rw [ProfileSum.amount, ProfileSum.amount, Nat.one_mul]
        exact within value List.mem_cons_self
      | counter _ | addCycles _ _ | max _ _ | min _ _ | reset | setMode _ => exact Nat.zero_le _
    unfold added at rest ⊢
    rw [List.map_cons, List.sum_cons, List.map_cons, List.sum_cons, Nat.add_mul]
    exact Nat.add_le_add first rest

/-- The dump that is made now is faithful: its counts and averages are those of the calls since
the one before, up to a reset. -/
theorem ConsoleInvariant.dump (invariant : ConsoleInvariant console)
    (small : NoWrap (console.dumped ++ console.pending)) (irqNow : BitVec 64)
    (cyclesPerSec : BitVec 32) :
    DumpFaithful ⟨console.pending, dumpProfileDelta
      (emaczeroProfileSnapshot console.profile cyclesPerSec) console.prev irqNow
      console.prevIrq⟩ := by
  constructor
  · intro id shown printed
    rw [shown_difference printed, invariant.difference small, ← added_counted]
    exact difference_at_most
  · intro kept id shown printed
    rw [shown_difference printed, invariant.difference small, ← added_counted]
    exact difference_exact kept
  · intro kept
    have cycles := invariant.difference small cyclesPerSec .lifetimeCycles
    have samples := invariant.difference small cyclesPerSec .lifetimeSamples
    rw [difference_exact kept] at cycles samples
    have within : added .lifetimeCycles console.pending ≤
        added .lifetimeSamples console.pending *
          console.profile.stats.bufferLifetimeCyclesMax.toNat := by
      apply lifetimes_total
      intro value member
      apply invariant.lifetimes
      rw [since_append kept]
      exact List.mem_append_right _ member
    have quotient := u64_avg_quotient
      (u64Delta (emaczeroProfileSnapshot console.profile cyclesPerSec).bufferLifetimeCyclesTotal
        console.prev.bufferLifetimeCyclesTotal)
      (u64Delta (emaczeroProfileSnapshot console.profile cyclesPerSec).bufferLifetimeSamples
        console.prev.bufferLifetimeSamples)
    have greatest : (u32Delta console.profile.stats.bufferLifetimeCyclesMax 0#32).toNat =
        console.profile.stats.bufferLifetimeCyclesMax.toNat := congrArg _ (u32_delta_zero _)
    refine le_of_eq_of_le quotient (le_of_le_of_eq ?_ greatest.symm)
    refine le_of_eq_of_le (congrArg₂ (· / ·) cycles samples) ?_
    exact Nat.div_le_of_le_mul within

/-- Every step keeps the invariant: a call keeps the sums and joins the pending calls, and a dump
is faithful by the lemma above and leaves none pending. -/
theorem console_step {after : Console} {label : ConsoleLabel}
    (invariant : ConsoleInvariant console) (taken : consoleStep console label = some after) :
    ConsoleInvariant after := by
  cases label with
  | call call =>
    obtain rfl := Option.some.inj taken
    refine ⟨?_, invariant.kept, ?_, invariant.faithful⟩
    · intro sum
      rw [← List.append_assoc]
      exact sums_call invariant.sums call sum
    · intro value member
      rw [← List.append_assoc] at member
      exact lifetimes_call invariant.lifetimes call value member
  | dump irqNow cyclesPerSec =>
    obtain rfl := Option.some.inj taken
    have dumped (delta : ProfileDelta) :
        (console.dumps ++ [(⟨console.pending, delta⟩ : Dump)]).flatMap Dump.calls =
          console.dumped ++ console.pending := by
      rw [List.flatMap_append, List.flatMap_singleton]
      rfl
    constructor
    · intro sum
      rw [Console.dumped, dumped, List.append_nil]
      exact invariant.sums sum
    · intro sum
      rw [Console.dumped, dumped]
      exact (snapshot_sum sum).trans (invariant.sums sum)
    · intro value member
      rw [Console.dumped, dumped, List.append_nil] at member
      exact invariant.lifetimes value member
    · intro small dump member
      rw [Console.dumped, dumped] at small
      rcases List.mem_append.mp member with earlier | last
      · exact invariant.faithful small.earlier dump earlier
      · rw [List.mem_singleton.mp last]
        exact invariant.dump small irqNow cyclesPerSec

end Dumps

/-- For every order of calls, resets and dumps, as long as no sum comes to 64 bits: every dump is
faithful to the calls since the one before.

Proof: the sums at each dump and the calls since the last one are kept by one step of the
console, and the run carries them. The sizes are used at the end only, where the difference of
two sums is taken. -/
theorem dumps_faithful (console : Console)
    (run : Run consoleStep Unrestricted Console.start console)
    (small : NoWrap console.dumped) : ∀ dump ∈ console.dumps, DumpFaithful dump := by
  have invariant : ConsoleInvariant console := by
    apply run.invariant ConsoleInvariant
    · constructor
      · intro sum
        cases sum with
        | counted id | cycles id => cases id <;> rfl
        | released | lifetimeSamples | lifetimeCycles => rfl
      · intro sum
        cases sum with
        | counted id | cycles id => cases id <;> rfl
        | released | lifetimeSamples | lifetimeCycles => rfl
      · intro value member
        cases member
      · intro _ dump member
        cases member
    · intro before label after earlier _ taken
      exact console_step earlier taken
  exact invariant.faithful small

/-- Two callbacks and a dump; a reset, a callback and a dump. -/
def sampleCalls : List (List ProfileCall) :=
  [[.counter .dmaCallbacks, .noteRelease 5#32, .counter .dmaCallbacks],
    [.reset, .counter .dmaCallbacks]]

/-- The theorem over a run with a reset between two dumps: the second dump shows none of the
callbacks before the reset, and is faithful still. -/
theorem dumps_faithful_reset : ∃ console : Console,
    console.dumps.map (fun dump => dump.delta.dma) = [2#64, 0#64] ∧
      ∀ dump ∈ console.dumps, DumpFaithful dump := by
  obtain ⟨console, run, shown⟩ := run_of_execution consoleStep (fun _ _ => true) .start
    (sampleCalls.flatMap fun calls => calls.map ConsoleLabel.call ++ [.dump 0#64 0#32])
    (fun console => decide (console.dumped = sampleCalls.flatten ∧
      console.dumps.map (fun dump => dump.delta.dma) = [2#64, 0#64]))
    (fun _ _ _ => trivial) (by decide +kernel)
  obtain ⟨dumped, shown⟩ := of_decide_eq_true shown
  refine ⟨console, shown, dumps_faithful console run ?_⟩
  intro sum
  rw [dumped]
  cases sum with
  | counted id | cycles id => cases id <;> decide
  | released | lifetimeSamples | lifetimeCycles => decide

end EmaczZephyr.Application
