/-!
# Runs of characters

A run is a stretch of a text whose characters are of one class. Where the text after it does not go
on with the class, the run is just what is taken from the front (`take_while_run`) and dropped from
there (`drop_while_run`), however the text has been put together (`run_unique`).
-/

namespace TenantReporting.Text

variable {p : Char → Bool} {run rest : List Char}

/-- The text does not begin with a character of the class. -/
def Stops (p : Char → Bool) (text : List Char) : Prop :=
  ∀ c ∈ text.head?, p c = false

@[simp] theorem stops_nil (p : Char → Bool) : Stops p [] := by
  simp [Stops]

@[simp] theorem stops_cons {c : Char} : Stops p (c :: rest) ↔ p c = false := by
  simp [Stops]

/-- What is left after dropping a run does not go on with it. -/
theorem stops_drop_while (p : Char → Bool) (text : List Char) : Stops p (text.dropWhile p) := by
  intro c hc
  have hhead := List.head?_dropWhile_not p text
  rw [hc] at hhead
  simpa using hhead

/-- A run is dropped up to where it ends. -/
theorem drop_while_run (hrun : ∀ c ∈ run, p c = true) (hrest : Stops p rest) :
    (run ++ rest).dropWhile p = rest := by
  rw [List.dropWhile_append_of_pos hrun]
  cases rest with
  | nil => rfl
  | cons c rest => rw [List.dropWhile_cons_of_neg (by simp [stops_cons.1 hrest])]

/-- A run is taken up to where it ends. -/
theorem take_while_run (hrun : ∀ c ∈ run, p c = true) (hrest : Stops p rest) :
    (run ++ rest).takeWhile p = run := by
  rw [List.takeWhile_append_of_pos hrun]
  cases rest with
  | nil => simp
  | cons c rest => simp [stops_cons.1 hrest]

/-- Where a run ends does not depend on how the text has been put together. -/
theorem run_unique {other others : List Char} (h : run ++ rest = other ++ others)
    (hrun : ∀ c ∈ run, p c = true) (hrest : Stops p rest) (hother : ∀ c ∈ other, p c = true)
    (hothers : Stops p others) : run = other ∧ rest = others := by
  constructor
  · rw [← take_while_run hrun hrest, h, take_while_run hother hothers]
  · rw [← drop_while_run hrun hrest, h, drop_while_run hother hothers]

end TenantReporting.Text
