import Mathlib.Logic.Function.Basic

/-!
# A table whose calls may fail

A table takes keys to values. Each call on it is counted, and a schedule says of every
call whether it is made to fail; a call that fails changes nothing. Removing and
assigning need a key that is there. Inserting a key that is there already succeeds,
whatever the schedule says, and leaves it.
-/

namespace EmaczZephyr.FaultyTable

universe u v
variable {Key : Type u} {Value : Type v} [DecidableEq Key]

/-- The entries, and the number of calls made so far, by which the schedule of failures is read. -/
structure Table (Key : Type u) (Value : Type v) where
  entries : Key → Option Value
  calls : Nat

/-- No entries: every key is missing. -/
def absent : Key → Option Value := fun _ => none

/-- One entry: this key with this value, and every other key missing. -/
def single (key : Key) (value : Value) : Key → Option Value :=
  Function.update absent key (some value)

variable (fails : Nat → Bool) (table : Table Key Value) (key : Key) (value : Value)

/-- The schedule makes the next call fail, if it is one that can. -/
def Table.Failing : Prop := fails table.calls = true

/-- The schedule is a test of the number of the call, so it is decided. -/
instance decidableFailing : Decidable (table.Failing fails) :=
  inferInstanceAs (Decidable (_ = _))

/-- Removing a key. It fails when it is made to and when the key is missing, and counts as a call
either way. -/
def remove : Bool × Table Key Value :=
  if table.Failing fails ∨ table.entries key = none then
    (false, { table with calls := table.calls + 1 })
  else (true, ⟨Function.update table.entries key none, table.calls + 1⟩)

/-- Inserting a key. Where the key is there already nothing can fail and nothing changes;
otherwise the call fails when it is made to. -/
def insert : Bool × Table Key Value :=
  if (table.entries key).isSome then (true, { table with calls := table.calls + 1 })
  else if table.Failing fails then (false, { table with calls := table.calls + 1 })
  else (true, ⟨Function.update table.entries key (some value), table.calls + 1⟩)

/-- Giving a key another value. It fails when it is made to and when the key is missing. -/
def assign : Bool × Table Key Value :=
  if table.Failing fails ∨ table.entries key = none then
    (false, { table with calls := table.calls + 1 })
  else (true, ⟨Function.update table.entries key (some value), table.calls + 1⟩)

variable {fails table key value}

/-- A removal is one call on the table, whether it is refused or granted. -/
@[simp]
theorem remove_calls : (remove fails table key).2.calls = table.calls + 1 := by
  unfold remove
  split <;> rfl

/-- An insertion is one call, also when the key is there already and nothing is done. -/
@[simp]
theorem insert_calls : (insert fails table key value).2.calls = table.calls + 1 := by
  unfold insert
  split
  · rfl
  · split <;> rfl

/-- An assignment is one call on the table, whether it is refused or granted. -/
@[simp]
theorem assign_calls : (assign fails table key value).2.calls = table.calls + 1 := by
  unfold assign
  split <;> rfl

/-- A refused removal keeps all the entries, among them the one it was to remove. -/
theorem remove_refused (refused : (remove fails table key).1 = false) :
    (remove fails table key).2.entries = table.entries := by
  unfold remove at refused ⊢
  split
  · rfl
  · rename_i granted
    rw [if_neg granted] at refused
    cases refused

/-- A granted removal takes the entry of its key and leaves every other entry. -/
theorem remove_granted (granted : (remove fails table key).1 = true) :
    (remove fails table key).2.entries = Function.update table.entries key none := by
  unfold remove at granted ⊢
  split
  · rename_i refused
    rw [if_pos refused] at granted
    cases granted
  · rfl

/-- Removing a key that is there fails only when the schedule makes it fail, since its other
reason is a missing key. -/
theorem remove_fails (here : (table.entries key).isSome)
    (refused : (remove fails table key).1 = false) : table.Failing fails := by
  unfold remove at refused
  split at refused
  · rename_i reason
    rcases reason with failing | missing
    · exact failing
    · rw [missing] at here
      cases here
  · cases refused

/-- A removal adds no key: what is there behind it was there in front of it. -/
theorem remove_subset {other : Key}
    (present : ((remove fails table key).2.entries other).isSome = true) :
    (table.entries other).isSome = true := by
  cases removed : (remove fails table key).1 with
  | false => rwa [remove_refused removed] at present
  | true =>
    rw [remove_granted removed] at present
    by_cases same : other = key
    · rw [same, Function.update_self] at present
      cases present
    · rwa [Function.update_of_ne same] at present

/-- A refused insertion keeps the entries, did not find the key, and was made to fail. -/
theorem insert_refused (refused : (insert fails table key value).1 = false) :
    (insert fails table key value).2.entries = table.entries ∧
      table.entries key = none ∧ table.Failing fails := by
  unfold insert at refused ⊢
  split at refused
  · cases refused
  · rename_i missing
    rw [if_neg missing]
    split at refused
    · rename_i failing
      rw [if_pos failing]
      exact ⟨rfl, Option.not_isSome_iff_eq_none.mp missing, failing⟩
    · cases refused

/-- Behind a granted insertion the key is there, with its old value or with the new one. -/
theorem insert_present (granted : (insert fails table key value).1 = true) :
    ((insert fails table key value).2.entries key).isSome := by
  unfold insert at granted ⊢
  split at granted
  · rename_i here
    rw [if_pos here]
    exact here
  · rename_i missing
    rw [if_neg missing]
    split at granted
    · cases granted
    · rename_i working
      rw [if_neg working]
      simp

/-- An insertion adds no key but its own. -/
theorem insert_subset {other : Key}
    (present : ((insert fails table key value).2.entries other).isSome = true) :
    (table.entries other).isSome = true ∨ other = key := by
  by_cases same : other = key
  · exact .inr same
  · left
    unfold insert at present
    split at present
    · exact present
    · split at present
      · exact present
      · simpa [Function.update_of_ne same] using present

/-- A granted insertion into an empty table makes it the table of this one entry. -/
theorem insert_single (empty : table.entries = absent)
    (granted : (insert fails table key value).1 = true) :
    (insert fails table key value).2.entries = single key value := by
  have missing : ¬ (table.entries key).isSome := by
    rw [empty]
    exact Bool.false_ne_true
  unfold insert at granted ⊢
  rw [if_neg missing] at granted ⊢
  split at granted
  · cases granted
  · rename_i working
    rw [if_neg working, empty]
    rfl

/-- Assigning never makes or destroys a key, because it works on keys that are there only. -/
theorem assign_present (other : Key) :
    ((assign fails table key value).2.entries other).isSome = (table.entries other).isSome := by
  unfold assign
  split
  · rfl
  · rename_i working
    by_cases same : other = key
    · obtain ⟨here, found⟩ := Option.ne_none_iff_exists'.mp (not_or.mp working).2
      simp [same, found]
    · simp [Function.update_of_ne same]

/-- A refused assignment keeps all the entries, with the values that they had. -/
theorem assign_refused (refused : (assign fails table key value).1 = false) :
    (assign fails table key value).2.entries = table.entries := by
  unfold assign at refused ⊢
  split
  · rfl
  · rename_i granted
    rw [if_neg granted] at refused
    cases refused

/-- A granted assignment gives its key the new value and leaves the others. -/
theorem assign_granted (granted : (assign fails table key value).1 = true) :
    (assign fails table key value).2.entries = Function.update table.entries key (some value) := by
  unfold assign at granted ⊢
  split
  · rename_i refused
    rw [if_pos refused] at granted
    cases granted
  · rfl

/-- Assigning to a key that is there fails only when it is made to. -/
theorem assign_fails (here : (table.entries key).isSome)
    (refused : (assign fails table key value).1 = false) : table.Failing fails := by
  unfold assign at refused
  split at refused
  · rename_i reason
    rcases reason with failing | missing
    · exact failing
    · rw [missing] at here
      cases here
  · cases refused

/-- A table that holds one key and nothing else is the table of one entry, with the value that
the key has. -/
theorem eq_single {entries : Key → Option Value}
    (only : ∀ other, (entries other).isSome = true ↔ other = key) :
    ∃ held, entries = single key held := by
  obtain ⟨held, found⟩ := Option.isSome_iff_exists.mp ((only key).mpr rfl)
  refine ⟨held, ?_⟩
  funext other
  by_cases same : other = key
  · rw [same, found, single, Function.update_self]
  · have missing := mt (only other).mp same
    rw [single, Function.update_of_ne same]
    exact Option.not_isSome_iff_eq_none.mp missing

/-- The table of one entry has its value under its key. -/
@[simp]
theorem single_self : single key value key = some value := Function.update_self _ _ _

/-- The table of one entry has nothing under any other key. -/
theorem single_other {other : Key} (different : other ≠ key) : single key value other = none :=
  Function.update_of_ne different _ _

/-- Taking its only entry leaves a table of one entry empty. -/
theorem update_single_none : Function.update (single key value) key none = absent := by
  rw [single, Function.update_idem]
  exact Function.update_eq_self key absent

/-- A new value for its only key leaves a table of one entry, with that value. -/
theorem update_single_some (newer : Value) :
    Function.update (single key value) key (some newer) = single key newer :=
  Function.update_idem _ _ _

end EmaczZephyr.FaultyTable
