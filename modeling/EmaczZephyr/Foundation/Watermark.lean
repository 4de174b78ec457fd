import Mathlib.Order.Bounds.Basic
import Mathlib.Order.RelClasses

/-!
# Watermarks

A watermark is a stored value that candidates replace when they are more extreme.
Against a history of values it is right when it is one of them and none lies
beyond it; before the first value it is a seed. Highest and lowest marks differ
only in the relation, so one record of the facts serves both.

A history may also grow by a value that was never offered. The mark stays right
when the value does not lie beyond it and is not the first.
-/

namespace EmaczZephyr.Watermark

universe u
variable {Value : Type u} (beyond : Value → Value → Prop)

/-- The mark behind a candidate: the candidate when it lies beyond the mark, and the mark as it
was otherwise. -/
def offer [DecidableRel beyond] (mark candidate : Value) : Value :=
  if beyond candidate mark then candidate else mark

/-- The mark against the values so far. Before the first value it is the seed. -/
structure Extreme (seed : Value) (values : List Value) (mark : Value) : Prop where
  unset : values = [] → mark = seed
  attained : values ≠ [] → mark ∈ values
  bounds : ∀ value ∈ values, ¬ beyond value mark

variable {beyond} {seed mark candidate : Value} {values : List Value}

/-- A seed with no values offered is its own mark. -/
theorem Extreme.fresh : Extreme beyond seed [] seed :=
  ⟨fun _ => rfl, fun some_value => absurd rfl some_value, by simp⟩

section Offered

variable [DecidableRel beyond] [IsStrictTotalOrder Value beyond]

/-- An offered value that the seed does not lie beyond keeps the mark right. -/
theorem Extreme.offered (extreme : Extreme beyond seed values mark)
    (reachable : ¬ beyond seed candidate) :
    Extreme beyond seed (values ++ [candidate]) (offer beyond mark candidate) := by
  unfold offer
  by_cases further : beyond candidate mark
  · rw [if_pos further]
    refine ⟨by simp, by simp, ?_⟩
    intro value member
    rcases List.mem_append.mp member with earlier | last
    · intro still
      exact extreme.bounds value earlier (trans_of beyond still further)
    · rw [List.mem_singleton.mp last]
      exact irrefl candidate
  · rw [if_neg further]
    refine ⟨by simp, fun _ => ?_, ?_⟩
    · by_cases first : values = []
      · -- The first value is neither beyond the seed nor behind it.
        have seeded : mark = seed := extreme.unset first
        rcases trichotomous_of beyond candidate mark with above | same | below
        · exact absurd above further
        · simp [same]
        · exact absurd (seeded ▸ below) reachable
      · exact List.mem_append_left _ (extreme.attained first)
    · intro value member
      rcases List.mem_append.mp member with earlier | last
      · exact extreme.bounds value earlier
      · rwa [List.mem_singleton.mp last]

end Offered

/-- A value that is recorded without being offered keeps the mark right when it is
not beyond it and either is not the first or is the mark itself. -/
theorem Extreme.passed (extreme : Extreme beyond seed values mark)
    (within : ¬ beyond candidate mark) (late : values = [] → candidate = mark) :
    Extreme beyond seed (values ++ [candidate]) mark := by
  refine ⟨by simp, fun _ => ?_, ?_⟩
  · by_cases first : values = []
    · simp [late first]
    · exact List.mem_append_left _ (extreme.attained first)
  · intro value member
    rcases List.mem_append.mp member with earlier | last
    · exact extreme.bounds value earlier
    · rwa [List.mem_singleton.mp last]

/-- A view that keeps the relation shows the mark as one of the views. -/
theorem offer_view {View : Type*} {seen : View → View → Prop} [DecidableRel beyond]
    [DecidableRel seen] (view : Value → View)
    (keeps : ∀ left right, beyond left right ↔ seen (view left) (view right))
    (mark candidate : Value) :
    view (offer beyond mark candidate) = offer seen (view mark) (view candidate) := by
  unfold offer
  by_cases further : beyond candidate mark
  · rw [if_pos further, if_pos ((keeps _ _).mp further)]
  · rw [if_neg further, if_neg (mt (keeps _ _).mpr further)]

section Order

variable [LinearOrder Value]

/-- A mark that larger values replace is the greatest value so far, once there is one. -/
theorem Extreme.greatest (extreme : Extreme (· > ·) seed values mark) (some_value : values ≠ []) :
    IsGreatest {value | value ∈ values} mark :=
  ⟨extreme.attained some_value, fun value member => not_lt.mp (extreme.bounds value member)⟩

/-- A mark that smaller values replace is the least value so far, once there is one. -/
theorem Extreme.least (extreme : Extreme (· < ·) seed values mark) (some_value : values ≠ []) :
    IsLeast {value | value ∈ values} mark :=
  ⟨extreme.attained some_value, fun value member => not_lt.mp (extreme.bounds value member)⟩

/-- Behind an offer a mark that larger values replace is at least the old mark and at least the
candidate. -/
theorem le_offer (mark candidate : Value) :
    mark ≤ offer (· > ·) mark candidate ∧ candidate ≤ offer (· > ·) mark candidate := by
  unfold offer
  split
  · rename_i greater
    exact ⟨greater.le, le_rfl⟩
  · rename_i within
    exact ⟨le_rfl, not_lt.mp within⟩

end Order

end EmaczZephyr.Watermark
