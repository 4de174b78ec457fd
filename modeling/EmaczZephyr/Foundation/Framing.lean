import Mathlib.Data.List.Induction

/-!
# Framed streams

A stream is cut into frames behind every item that `last` marks; what follows the
last cut is an unfinished frame. The cut is defined item by item, as a receiver makes
it, and the lemmas say what one more item does and what a frame looks like.
-/

namespace EmaczZephyr.Framing

variable {α : Type*}

/-- The complete frames of a stream and the items behind them. -/
structure Frames (α : Type*) where
  complete : List (List α)
  unfinished : List α

/-- One more item continues the unfinished frame, and completes it if it is marked. -/
def Frames.push (last : α → Bool) (frames : Frames α) (item : α) : Frames α :=
  if last item then ⟨frames.complete ++ [frames.unfinished ++ [item]], []⟩
  else ⟨frames.complete, frames.unfinished ++ [item]⟩

/-- The frames of a stream: item after item is pushed, and a marked one closes its frame. -/
def frames (last : α → Bool) (stream : List α) : Frames α :=
  stream.foldl (Frames.push last) ⟨[], []⟩

variable {last : α → Bool}

/-- A marked item closes the unfinished frame, which becomes the last of the complete ones. -/
theorem Frames.push_marked {item : α} (marked : last item = true) (frames : Frames α) :
    frames.push last item = ⟨frames.complete ++ [frames.unfinished ++ [item]], []⟩ :=
  if_pos marked

/-- An unmarked item goes on with the unfinished frame and leaves the complete ones. -/
theorem Frames.push_unmarked {item : α} (unmarked : last item = false) (frames : Frames α) :
    frames.push last item = ⟨frames.complete, frames.unfinished ++ [item]⟩ :=
  if_neg (Bool.eq_false_iff.mp unmarked)

/-- One more item at the end of a stream is pushed onto its frames, the equation that proofs go
by from the end of a stream. -/
theorem frames_concat (stream : List α) (item : α) :
    frames last (stream ++ [item]) = (frames last stream).push last item := by
  rw [frames, List.foldl_append]
  rfl

/-- No item of an unfinished frame is marked, since a marked one would have closed it. -/
theorem unfinished_unmarked (stream : List α) :
    ∀ item ∈ (frames last stream).unfinished, last item = false := by
  induction stream using List.reverseRecOn with
  | nil => exact fun _ impossible => absurd impossible List.not_mem_nil
  | append_singleton stream item inductionHypothesis =>
    rw [frames_concat]
    unfold Frames.push
    split
    · exact fun _ impossible => absurd impossible List.not_mem_nil
    · rename_i unmarked
      intro other member
      rcases List.mem_append.mp member with earlier | here
      · exact inductionHypothesis other earlier
      · rw [List.mem_singleton.mp here]
        exact Bool.not_eq_true _ ▸ unmarked

/-- A frame ends with a marked item, and this is its only one. -/
def Delimited (last : α → Bool) (frame : List α) : Prop :=
  ∃ body item, frame = body ++ [item] ∧ last item = true ∧ ∀ other ∈ body, last other = false

/-- Closing an unfinished frame with a marked item makes a delimited one. -/
theorem Delimited.close {body : List α} {item : α} (unmarked : ∀ other ∈ body, last other = false)
    (marked : last item = true) : Delimited last (body ++ [item]) :=
  ⟨body, item, rfl, marked, unmarked⟩

/-- A list with a marked item starts with a frame that ends at the first mark, by induction on
the items in front of it. -/
theorem exists_delimited {items : List α} (marked : ∃ item ∈ items, last item = true) :
    ∃ frame rest, items = frame ++ rest ∧ Delimited last frame := by
  induction items with
  | nil =>
    obtain ⟨item, impossible, -⟩ := marked
    exact absurd impossible List.not_mem_nil
  | cons first items inductionHypothesis =>
    cases here : last first with
    | true => exact ⟨[first], items, rfl, [], first, rfl, here, by simp⟩
    | false =>
      obtain ⟨item, member, last_one⟩ := marked
      have later : item ∈ items := by
        rcases List.mem_cons.mp member with rfl | later
        · rw [here] at last_one
          cases last_one
        · exact later
      obtain ⟨frame, rest, rfl, body, final, rfl, final_marked, unmarked⟩ :=
        inductionHypothesis ⟨item, later, last_one⟩
      refine ⟨first :: (body ++ [final]), rest, rfl, first :: body, final, rfl, final_marked, ?_⟩
      intro other inside
      rcases List.mem_cons.mp inside with rfl | deeper
      · exact here
      · exact unmarked other deeper

/-- Unmarked items in front of a frame belong to it, so the whole is a frame again. -/
theorem Delimited.extend {frame begun : List α} (delimited : Delimited last frame)
    (unmarked : ∀ item ∈ begun, last item = false) : Delimited last (begun ++ frame) := by
  obtain ⟨body, final, rfl, marked, plain⟩ := delimited
  refine ⟨begun ++ body, final, (List.append_assoc _ _ _).symm, marked, ?_⟩
  intro other member
  exact (List.mem_append.mp member).elim (unmarked other) (plain other)

/-- A frame has at least its marked item, so it is not empty. -/
theorem Delimited.positive {frame : List α} (delimited : Delimited last frame) :
    0 < frame.length := by
  obtain ⟨body, item, rfl, -, -⟩ := delimited
  simp

/-- Within a frame the marked item is the one at the last position, and no other position has a
mark. -/
theorem Delimited.marked_iff {frame : List α} (delimited : Delimited last frame) {position : Nat}
    {item : α} (here : frame[position]? = some item) :
    last item = true ↔ position + 1 = frame.length := by
  obtain ⟨body, final, rfl, marked, unmarked⟩ := delimited
  have inside := (List.getElem?_eq_some_iff.mp here).1
  rw [List.length_append, List.length_singleton] at inside ⊢
  rcases Nat.lt_or_ge position body.length with early | late
  · rw [List.getElem?_append_left early] at here
    have plain := unmarked item (List.mem_of_getElem? here)
    simp only [plain]
    constructor
    · intro impossible
      cases impossible
    · omega
  · have at_end : position = body.length := by omega
    subst at_end
    rw [List.getElem?_concat_length] at here
    simp [← Option.some.inj here, marked]

/-- Every complete frame of a stream ends with its only marked item, by induction on the stream
from its end. -/
theorem frames_delimited (stream : List α) :
    ∀ frame ∈ (frames last stream).complete, Delimited last frame := by
  induction stream using List.reverseRecOn with
  | nil => exact fun _ impossible => absurd impossible List.not_mem_nil
  | append_singleton stream item inductionHypothesis =>
    rw [frames_concat]
    unfold Frames.push
    split
    · rename_i marked
      intro frame member
      rcases List.mem_append.mp member with earlier | here
      · exact inductionHypothesis frame earlier
      · rw [List.mem_singleton.mp here]
        exact .close (unfinished_unmarked stream) marked
    · exact inductionHypothesis

/-- The marks of whole frames count them, because each has exactly one. -/
theorem count_marks {whole : List (List α)} (delimited : ∀ frame ∈ whole, Delimited last frame) :
    whole.flatten.countP last = whole.length := by
  induction whole with
  | nil => rfl
  | cons frame others inductionHypothesis =>
    obtain ⟨body, item, rfl, marked, unmarked⟩ := delimited frame List.mem_cons_self
    have none : body.countP last = 0 := List.countP_eq_zero.mpr (by simpa using unmarked)
    have rest := inductionHypothesis fun other member =>
      delimited other (List.mem_cons_of_mem _ member)
    simp only [List.flatten_cons, List.countP_append, none, List.countP_singleton, marked, rest,
      List.length_cons, if_true]
    omega

/-- The first items of a frame, as long as they stop short of the last, bear no mark. -/
theorem Delimited.count_take {frame : List α} (delimited : Delimited last frame) {count : Nat}
    (short : count < frame.length) : (frame.take count).countP last = 0 := by
  obtain ⟨body, item, rfl, -, unmarked⟩ := delimited
  rw [List.length_append, List.length_singleton] at short
  rw [List.take_append_of_le_length (by omega), List.countP_eq_zero]
  intro other member
  simp [unmarked other (List.mem_of_mem_take member)]

/-- Unmarked items behind a stream continue its unfinished frame and complete none. -/
theorem frames_unmarked (stream : List α) {body : List α}
    (unmarked : ∀ item ∈ body, last item = false) :
    frames last (stream ++ body) =
      ⟨(frames last stream).complete, (frames last stream).unfinished ++ body⟩ := by
  induction body using List.reverseRecOn with
  | nil => simp
  | append_singleton body item inductionHypothesis =>
    have earlier := inductionHypothesis fun other member =>
      unmarked other (List.mem_append_left _ member)
    have plain := unmarked item (List.mem_append_right _ (List.mem_singleton_self item))
    rw [← List.append_assoc, frames_concat, earlier, Frames.push_unmarked plain, List.append_assoc]

/-- Whole frames are the frames of their concatenation, with nothing unfinished; this is what
makes framing a left inverse of joining. -/
theorem frames_whole {whole : List (List α)} (delimited : ∀ frame ∈ whole, Delimited last frame) :
    frames last whole.flatten = ⟨whole, []⟩ := by
  induction whole using List.reverseRecOn with
  | nil => rfl
  | append_singleton whole frame inductionHypothesis =>
    have earlier := inductionHypothesis fun other member =>
      delimited other (List.mem_append_left _ member)
    obtain ⟨body, item, rfl, marked, unmarked⟩ :=
      delimited frame (List.mem_append_right _ (List.mem_singleton_self frame))
    rw [List.flatten_concat, ← List.append_assoc, frames_concat, frames_unmarked _ unmarked,
      earlier, Frames.push_marked marked]
    rfl

/-- As a stream goes on, its unfinished frame stays the first part of the unfinished
one, or is shorter than a complete one. -/
theorem unfinished_extends (stream rest : List α) :
    (frames last stream).unfinished <+: (frames last (stream ++ rest)).unfinished ∨
      ∃ frame ∈ (frames last (stream ++ rest)).complete,
        (frames last stream).unfinished.length < frame.length := by
  induction rest using List.reverseRecOn with
  | nil => simp
  | append_singleton rest item inductionHypothesis =>
    rw [← List.append_assoc, frames_concat]
    cases marked : last item with
    | false =>
      rw [Frames.push_unmarked marked]
      apply inductionHypothesis.imp_left
      intro extends_it
      exact extends_it.trans (List.prefix_append _ _)
    | true =>
      rw [Frames.push_marked marked]
      right
      rcases inductionHypothesis with extends_it | ⟨frame, member, shorter⟩
      · refine ⟨_, List.mem_append_right _ (List.mem_singleton_self _), ?_⟩
        rw [List.length_append, List.length_singleton]
        exact Nat.lt_succ_of_le extends_it.length_le
      · exact ⟨frame, List.mem_append_left _ member, shorter⟩

/-- In the first part of some whole frames, the unfinished frame is shorter than one of
them. -/
theorem unfinished_shorter {stream : List α} {whole : List (List α)}
    (delimited : ∀ frame ∈ whole, Delimited last frame) (part : stream <+: whole.flatten)
    (begun : (frames last stream).unfinished ≠ []) :
    ∃ frame ∈ whole, (frames last stream).unfinished.length < frame.length := by
  obtain ⟨rest, cut⟩ := part
  rcases unfinished_extends stream rest with closed | shorter
  · rw [cut, frames_whole delimited] at closed
    exact absurd (List.prefix_nil.mp closed) begun
  · rw [cut, frames_whole delimited] at shorter
    exact shorter

/-- A stream has as many complete frames as marks, wherever it stops. -/
theorem frames_counted (stream : List α) :
    (frames last stream).complete.length = stream.countP last := by
  induction stream using List.reverseRecOn with
  | nil => rfl
  | append_singleton stream item inductionHypothesis =>
    rw [frames_concat, List.countP_append, List.countP_singleton, ← inductionHypothesis]
    cases marked : last item with
    | false =>
      rw [Frames.push_unmarked marked]
      rfl
    | true =>
      rw [Frames.push_marked marked, List.length_append]
      rfl

/-- As a stream goes on, its complete frames stay the first ones, so what was complete once is
never cut differently. -/
theorem complete_extends (last : α → Bool) (stream rest : List α) :
    (frames last stream).complete <+: (frames last (stream ++ rest)).complete := by
  induction rest using List.reverseRecOn with
  | nil => simp
  | append_singleton rest item inductionHypothesis =>
    apply inductionHypothesis.trans
    rw [← List.append_assoc, frames_concat]
    cases marked : last item with
    | false =>
      rewrite [Frames.push_unmarked marked]
      exact List.prefix_rfl
    | true =>
      rw [Frames.push_marked marked]
      exact List.prefix_append _ _

/-- The frames that the first part of some whole frames completes are the first of them. -/
theorem complete_part {stream : List α} {whole : List (List α)}
    (delimited : ∀ frame ∈ whole, Delimited last frame) (part : stream <+: whole.flatten) :
    (frames last stream).complete <+: whole := by
  obtain ⟨rest, cut⟩ := part
  have longer : (frames last stream).complete <+: (frames last (stream ++ rest)).complete :=
    complete_extends last stream rest
  rw [cut, frames_whole delimited] at longer
  exact longer

end EmaczZephyr.Framing
