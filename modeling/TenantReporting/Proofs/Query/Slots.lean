import Mathlib.Data.List.Range
import TenantReporting.Proofs.Query.Pervasive

/-!
# Where the placeholders are

`Slotted text numbers` says that `text` holds placeholders with these numbers in this order, each
set off from what is around it, and that it has no other dollar sign and no colon. The text of a
query is slotted by the numbers from one to the number of its values (`query_slotted`). All that is
known about dollar signs in query text follows by induction on `Slotted`.
-/

namespace TenantReporting.Query

variable {α : Type}

/-- There is no dollar sign and no colon in the text. -/
def Plain (text : List Char) : Prop :=
  ∀ c ∈ text, c ≠ '$' ∧ c ≠ ':'

instance (text : List Char) : Decidable (Plain text) :=
  List.decidableBAll (fun c ↦ c ≠ '$' ∧ c ≠ ':') text

/-- Nothing comes, or a character that may stand after a placeholder. -/
def Closes : List Char → Prop :=
  Begins fun c ↦ c == ' ' || c == ',' || c == ')'

/-- The text holds placeholders with these numbers, each after an opening and before a closing
character, and is plain otherwise. -/
inductive Slotted : List Char → List Nat → Prop where
  | plain {text : List Char} (h : Plain text) : Slotted text []
  | slot {before rest : List Char} {opening : Char} {number : Nat} {numbers : List Nat}
      (hbefore : Plain before) (hopening : opening = ' ' ∨ opening = '(') (hrest : Closes rest)
      (h : Slotted rest numbers) :
      Slotted (before ++ opening :: (placeholder number ++ rest)) (number :: numbers)

theorem Plain.append {left right : List Char} (hleft : Plain left) (hright : Plain right) :
    Plain (left ++ right) := by
  intro c hc
  rcases List.mem_append.1 hc with hc | hc
  · exact hleft c hc
  · exact hright c hc

/-- The character before a placeholder is plain. -/
theorem plain_opening {opening : Char} (h : opening = ' ' ∨ opening = '(') : Plain [opening] := by
  rcases h with rfl | rfl <;> decide

/-- The digits of a number are plain. -/
theorem plain_digits (number : Nat) : Plain (Nat.toDigits 10 number) := by
  intro c hc
  have hdigit := is_digit_of_mem_digits hc
  refine ⟨?_, ?_⟩
  · rintro rfl
    exact Bool.noConfusion hdigit
  · rintro rfl
    exact Bool.noConfusion hdigit

/-- Query text outside filters is plain. -/
theorem plain_pervasive : Pervasive Plain where
  nil := by decide
  append := Plain.append
  word := by decide
  name := by
    intro name hname c hc
    rw [quoted_name_eq hname] at hc
    rcases List.mem_cons.1 hc with rfl | hc
    · decide
    rcases List.mem_append.1 hc with hc | hc
    · refine ⟨?_, ?_⟩
      · rintro rfl
        exact hname.not_mem (by decide) hc
      · rintro rfl
        exact hname.not_mem (by decide) hc
    · rw [List.mem_singleton.1 hc]
      decide
  number := plain_digits

namespace Slotted

/-- Plain text in front of a text changes nothing about its placeholders. -/
theorem prepend {before text : List Char} {numbers : List Nat} (hbefore : Plain before)
    (h : Slotted text numbers) : Slotted (before ++ text) numbers := by
  cases h with
  | plain h => exact .plain (hbefore.append h)
  | slot hmiddle hopening hrest h =>
      rw [← List.append_assoc]
      exact .slot (hbefore.append hmiddle) hopening hrest h

/-- The placeholders of two texts stand in a row if the second text may come after a placeholder. -/
theorem append {left right : List Char} {numbers others : List Nat} (hleft : Slotted left numbers)
    (hright : Slotted right others) (hcloses : Closes right) :
    Slotted (left ++ right) (numbers ++ others) := by
  induction hleft with
  | plain h => exact hright.prepend h
  | slot hbefore hopening hrest _ ih =>
      rw [List.append_assoc, List.cons_append, List.append_assoc, List.cons_append]
      exact .slot hbefore hopening (hrest.append hcloses) ih

/-- A single placeholder after a character that opens it. -/
theorem single {opening : Char} (hopening : opening = ' ' ∨ opening = '(') (number : Nat) :
    Slotted (opening :: placeholder number) [number] := by
  have hend : Slotted [] [] := .plain (by decide)
  have hslot : Slotted ([] ++ opening :: (placeholder number ++ [])) [number] :=
    .slot (by decide) hopening begins_nil hend
  rwa [List.nil_append, List.append_nil] at hslot

end Slotted

/-- A row of further placeholders, each after a comma, is slotted by their numbers. -/
theorem row_slotted (first count : Nat) :
    Slotted ((placeholders first count).flatMap fun next ↦ ", ".toList ++ next)
        (List.range' first count) ∧
      Closes ((placeholders first count).flatMap fun next ↦ ", ".toList ++ next) := by
  induction count generalizing first with
  | zero => exact ⟨.plain plain_pervasive.nil, begins_nil⟩
  | succ count ih =>
      obtain ⟨hslotted, hcloses⟩ := ih (first + 1)
      have hfirst : Slotted (", ".toList ++ placeholder first) [first] := by
        show Slotted ([','] ++ ' ' :: placeholder first) [first]
        exact (Slotted.single (Or.inl rfl) first).prepend (by decide)
      rw [placeholders, List.range'_succ, List.map_cons, List.flatMap_cons, ← placeholders]
      exact ⟨hfirst.append hslotted hcloses, begins_cons (by decide)⟩

/-- A test is slotted by the numbers of its values. -/
theorem test_slotted (test : Test α) (first : Nat) :
    Slotted (test.text first) (List.range' first test.values.length) := by
  cases test with
  | compare comparison value =>
      have hword : Plain comparison.word.toList := by cases comparison <;> decide
      rw [Test.text_compare]
      exact (Slotted.single (Or.inl rfl) first).prepend hword
  | among values =>
      have hclosing : Closes [')'] := begins_cons (by decide)
      have hend : Slotted [')'] [] := .plain (by decide)
      rw [Test.text_among, Test.values]
      cases values.length with
      | zero =>
          have hempty : Plain ("IN (".toList ++ [] ++ [')']) := by decide
          exact .plain hempty
      | succ count =>
          -- The first placeholder comes after the parenthesis, each other one after a blank.
          obtain ⟨hslotted, hcloses⟩ := row_slotted (first + 1) count
          have hfirst : Slotted ("IN (".toList ++ placeholder first) [first] := by
            show Slotted ("IN ".toList ++ '(' :: placeholder first) [first]
            exact (Slotted.single (Or.inr rfl) first).prepend (by decide)
          have hrow := (hfirst.append hslotted hcloses).append hend hclosing
          rw [placeholders, List.range'_succ, List.map_cons, separated_cons, ← placeholders,
            ← List.append_assoc]
          rwa [List.append_nil] at hrow
  | isNull => exact .plain (by decide : Plain "IS NULL".toList)
  | isNotNull => exact .plain (by decide : Plain "IS NOT NULL".toList)

/-- A filter is slotted by the numbers of its values. -/
theorem filter_slotted {filter : Filter α} (h : ∀ name ∈ filter.column.names, IsIdentifier name)
    (first : Nat) : Slotted (filter.text first) (List.range' first filter.test.values.length) := by
  have hcolumn : Plain (filter.column.text ++ [' ']) :=
    (plain_pervasive.column h).append (by decide)
  have htext : filter.text first = filter.column.text ++ [' '] ++ filter.test.text first := by
    rw [Filter.text, List.append_assoc]
    rfl
  rw [htext]
  exact (test_slotted filter.test first).prepend hcolumn

/-- Numbered filters, each after a conjunction, are slotted by the numbers of their values. -/
theorem filters_slotted {filters : List (Filter α)}
    (h : ∀ filter ∈ filters, ∀ name ∈ filter.column.names, IsIdentifier name) (first : Nat) :
    Slotted ((filterTexts first filters).flatMap fun next ↦ " AND ".toList ++ next)
        (List.range' first (filters.flatMap fun filter ↦ filter.test.values).length) ∧
      Closes ((filterTexts first filters).flatMap fun next ↦ " AND ".toList ++ next) := by
  induction filters generalizing first with
  | nil => exact ⟨.plain plain_pervasive.nil, begins_nil⟩
  | cons filter filters ih =>
      obtain ⟨hslotted, hcloses⟩ := ih (fun next hnext ↦ h next (List.mem_cons_of_mem _ hnext))
        (first + filter.test.values.length)
      have hfirst := (filter_slotted (h filter List.mem_cons_self) first).prepend
        (by decide : Plain " AND ".toList)
      rw [filterTexts, List.flatMap_cons, List.flatMap_cons, List.length_append,
        ← List.range'_append_1]
      exact ⟨hfirst.append hslotted hcloses, begins_cons (by decide)⟩

/-- The restriction by some filters is slotted by the numbers of their values. -/
theorem restriction_slotted {filters : List (Filter α)}
    (h : ∀ filter ∈ filters, ∀ name ∈ filter.column.names, IsIdentifier name) :
    Slotted (clauseText " WHERE " " AND " (filterTexts 1 filters))
      (List.range' 1 (filters.flatMap fun filter ↦ filter.test.values).length) := by
  cases filters with
  | nil => exact .plain plain_pervasive.nil
  | cons filter filters =>
      obtain ⟨hslotted, hcloses⟩ := filters_slotted
        (fun next hnext ↦ h next (List.mem_cons_of_mem _ hnext)) (1 + filter.test.values.length)
      have hfirst := (filter_slotted (h filter List.mem_cons_self) 1).prepend
        (by decide : Plain " WHERE ".toList)
      rw [clauseText, filterTexts, if_neg (by simp), separated_cons, List.flatMap_cons,
        List.length_append, ← List.range'_append_1, ← List.append_assoc]
      exact hfirst.append hslotted hcloses

/-- The text of a query is slotted by the numbers of its values. -/
theorem query_slotted {query : Query α} (h : query.WellNamed) :
    Slotted query.text (List.range' 1 query.parameters.length) := by
  have hcloses : Closes query.tail := query.opens_tail.begins (by decide)
  have hbefore := (restriction_slotted h.filters).prepend (plain_pervasive.head h)
  have htext := hbefore.append (.plain (plain_pervasive.tail h)) hcloses
  rw [List.append_nil] at htext
  rw [text_eq]
  exact htext

end TenantReporting.Query
