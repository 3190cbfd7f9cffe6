import Mathlib.Data.List.Chain
import TenantReporting.Proofs.Numeral
import TenantReporting.Proofs.Query.Compile
import TenantReporting.Proofs.Query.Slots
import TenantReporting.Text.DecimalDigit

/-!
# Placeholders and their values

The dollar signs of compiled text are its placeholders, numbered from one in the order of the text,
and there are as many as values (`compiled_placeholders`). The placeholders in the condition of a
filter stand for the values of just this filter. A filter that restricts nothing has no condition,
and a query without conditions has no clause for them.
-/

namespace TenantReporting

namespace Query

variable {α : Type}

/-- The character is a decimal digit of some script. -/
def isDecimal (c : Char) : Bool :=
  (Text.decimalDigit? c).isSome

/-- The digits after each dollar sign, as many as there are, from left to right. -/
def slotRuns : List Char → List (List Char)
  | [] => []
  | c :: rest =>
    if c = '$' then rest.takeWhile isDecimal :: slotRuns rest else slotRuns rest

/-- The value that a placeholder with these digits stands for. -/
def slotValue (parameters : List α) (digits : List Char) : Option α :=
  match Nat.ofDigitChars 10 digits 0 with
  | 0 => none
  | number + 1 => parameters[number]?

/-! ### Dollar signs -/

/-- The ASCII digits are decimal digits. -/
theorem is_decimal_of_is_digit {c : Char} (h : c.isDigit = true) : isDecimal c = true := by
  rw [isDecimal, Numeral.decimal_digit_of_is_digit h]
  rfl

/-- There are no digits at the front of what comes after a placeholder. -/
theorem Closes.stops_decimals {rest : List Char} (h : Closes rest) : Text.Stops isDecimal rest := by
  intro c hc
  have hclosing := h c hc
  simp only [Bool.or_eq_true, beq_iff_eq] at hclosing
  rcases hclosing with (rfl | rfl) | rfl <;> decide

/-- Plain text has no dollar sign. -/
theorem slot_runs_append {before : List Char} (h : Plain before) (rest : List Char) :
    slotRuns (before ++ rest) = slotRuns rest := by
  induction before with
  | nil => rfl
  | cons c before ih =>
      have hc : c ≠ '$' := (h c List.mem_cons_self).1
      rw [List.cons_append, slotRuns, if_neg hc]
      exact ih fun d hd ↦ h d (List.mem_cons_of_mem _ hd)

/-- A placeholder is a dollar sign with the digits of its number. -/
theorem slot_runs_placeholder (number : Nat) {rest : List Char} (h : Closes rest) :
    slotRuns (placeholder number ++ rest) = Nat.toDigits 10 number :: slotRuns rest := by
  have hdecimals : ∀ c ∈ Nat.toDigits 10 number, isDecimal c = true :=
    fun c hc ↦ is_decimal_of_is_digit (is_digit_of_mem_digits hc)
  rw [placeholder, List.cons_append, slotRuns, if_pos rfl, slot_runs_append (plain_digits number),
    Text.take_while_run hdecimals h.stops_decimals]

/-- The dollar signs of a slotted text are its placeholders in their order. -/
theorem Slotted.slot_runs_eq {text : List Char} {numbers : List Nat} (h : Slotted text numbers) :
    slotRuns text = numbers.map (Nat.toDigits 10) := by
  induction h with
  | plain h =>
      have hruns := slot_runs_append h []
      rwa [List.append_nil] at hruns
  | @slot before rest opening number numbers hbefore hopening hrest _ ih =>
      have hplain := hbefore.append (plain_opening hopening)
      show slotRuns (before ++ ([opening] ++ (placeholder number ++ rest))) = _
      rw [← List.append_assoc, slot_runs_append hplain, slot_runs_placeholder number hrest, ih,
        List.map_cons]

/-! ### Values -/

/-- The placeholder with the number of a value stands for this value. -/
theorem slot_value_digits (parameters : List α) (number : Nat) :
    slotValue parameters (Nat.toDigits 10 (number + 1)) = parameters[number]? := by
  rw [slotValue, Nat.ofDigitChars_ten_toDigits]

/-- Placeholders in a row stand for values in a row. -/
theorem slot_values_eq (before values after : List α) :
    (List.range' (before.length + 1) values.length).map
        (fun number ↦ slotValue (before ++ values ++ after) (Nat.toDigits 10 number)) =
      values.map some := by
  induction values generalizing before with
  | nil => rfl
  | cons value values ih =>
      -- The values before a value are as many as the numbers used up before it.
      have hparameters : before ++ value :: values ++ after =
          before ++ [value] ++ values ++ after := by
        rw [List.append_assoc before [value] values, List.singleton_append]
      have hvalue : (before ++ [value] ++ values ++ after)[before.length]? = some value := by
        simp
      have hrest := ih (before ++ [value])
      rw [List.length_append, List.length_singleton] at hrest
      rw [hparameters, List.length_cons, List.range'_succ, List.map_cons, slot_value_digits, hvalue,
        hrest, List.map_cons]

/-- A test begins with the words for its operator. -/
theorem test_text_opening (test : Test α) (first : Nat) :
    ∃ rest, test.text first = test.operator.words.toList ++ rest := by
  cases test with
  | compare comparison value => exact ⟨' ' :: placeholder first, Test.text_compare ..⟩
  | among values =>
      have hopening : "IN (".toList = "IN".toList ++ " (".toList := by decide
      refine ⟨" (".toList ++ separated ", " (placeholders first values.length) ++ [')'], ?_⟩
      rw [Test.text_among, hopening, List.append_assoc, List.append_assoc, List.append_assoc]
      rfl
  | isNull =>
      have hopening : "IS NULL".toList = "IS".toList ++ " NULL".toList := by decide
      exact ⟨" NULL".toList, hopening⟩
  | isNotNull =>
      have hopening : "IS NOT NULL".toList = "IS NOT".toList ++ " NULL".toList := by decide
      exact ⟨" NULL".toList, hopening⟩

end Query

open Query

/-- The text is a condition for the filter: it tests the column by the operator, and its
placeholders stand for the values of the filter in their order. -/
structure FilterSpec.IsCondition (spec : FilterSpec) (parameters : List Json)
    (condition : List Char) : Prop where
  opening : ∃ rest, condition =
    ColumnName.text ⟨spec.table, spec.column⟩ ++ ' ' :: (spec.operation.words.toList ++ rest)
  values : (slotRuns condition).map (slotValue parameters) = spec.boundValues.map some

/-- The text of a filter, numbered by the place of its values among all values, is a condition for
its specification. -/
theorem FilterSpec.Yields.is_condition {spec : FilterSpec} {filter : Query.Filter Json}
    (h : spec.Yields filter) (hnames : ∀ name ∈ filter.column.names, IsIdentifier name)
    (before after : List Json) :
    spec.IsCondition (before ++ filter.test.values ++ after)
      (filter.text (before.length + 1)) := by
  refine ⟨?_, ?_⟩
  · obtain ⟨rest, hrest⟩ := test_text_opening filter.test (before.length + 1)
    refine ⟨rest, ?_⟩
    rw [Query.Filter.text, h.column, hrest, h.operator]
  · rw [(filter_slotted hnames (before.length + 1)).slot_runs_eq, List.map_map, ← h.values]
    exact slot_values_eq before filter.test.values after

/-- The texts of numbered filters are conditions for their specifications. The values of the filters
before them have been numbered already. -/
theorem FilterSpec.conditions {specs : List FilterSpec} {filters : List (Query.Filter Json)}
    (h : List.Forall₂ FilterSpec.Yields specs filters)
    (hnames : ∀ filter ∈ filters, ∀ name ∈ filter.column.names, IsIdentifier name)
    (before : List Json) :
    List.Forall₂ (fun spec condition ↦ spec.IsCondition
        (before ++ filters.flatMap fun filter ↦ filter.test.values) condition)
      specs (filterTexts (before.length + 1) filters) := by
  induction h generalizing before with
  | nil => exact .nil
  | @cons spec filter specs filters hfilter _ ih =>
      have hfirst := hfilter.is_condition (hnames filter List.mem_cons_self) before
        (filters.flatMap fun filter ↦ filter.test.values)
      have hrest := ih (fun next hnext ↦ hnames next (List.mem_cons_of_mem _ hnext))
        (before ++ filter.test.values)
      have hnumber : (before ++ filter.test.values).length + 1 =
          before.length + 1 + filter.test.values.length := by
        rw [List.length_append]
        omega
      rw [hnumber] at hrest
      rw [filterTexts, List.flatMap_cons, ← List.append_assoc]
      exact .cons hfirst hrest

/-! ### The clause for conditions -/

namespace Query

/-- No blank stands before a letter W, even if a blank is put in front of the text. -/
def Unrestricted (text : List Char) : Prop :=
  (' ' :: text).IsChain fun c d ↦ c = ' ' → d ≠ 'W'

instance (text : List Char) : Decidable (Unrestricted text) :=
  inferInstanceAs (Decidable ((' ' :: text).IsChain fun c d ↦ c = ' ' → d ≠ 'W'))

theorem Unrestricted.append {left right : List Char} (hleft : Unrestricted left)
    (hright : Unrestricted right) : Unrestricted (left ++ right) := by
  show (' ' :: left ++ right).IsChain _
  refine List.isChain_append.2 ⟨hleft, hright.tail, ?_⟩
  intro c _ d hd _
  cases right with
  | nil => cases hd
  | cons e right =>
      cases hd
      exact (List.isChain_cons_cons.1 hright).1 rfl

/-- A text without blanks is unrestricted if it does not begin with the letter W. -/
theorem unrestricted_of_no_blank {text : List Char} (hblank : ' ' ∉ text)
    (hbegins : Begins (· != 'W') text) : Unrestricted text := by
  cases text with
  | nil => exact List.isChain_singleton _
  | cons c text =>
      have hc := hbegins c rfl
      refine List.isChain_cons_cons.2 ⟨fun _ ↦ bne_iff_ne.1 hc, ?_⟩
      refine (List.pairwise_of_forall_mem_list fun d hd e _ heq ↦ ?_).isChain
      exact absurd (heq ▸ hd) hblank

/-- Query text outside filters is unrestricted. -/
theorem unrestricted_pervasive : Pervasive Unrestricted where
  nil := by decide
  append := Unrestricted.append
  word := by decide
  name := by
    intro name hname
    rw [quoted_name_eq hname]
    refine unrestricted_of_no_blank ?_ (begins_cons (by decide))
    simpa using hname.not_mem (by decide)
  number := by
    intro number
    refine unrestricted_of_no_blank ?_ ?_
    · intro hblank
      exact Bool.noConfusion (is_digit_of_mem_digits hblank)
    · intro c hc
      have hdigit := is_digit_of_mem_digits (List.mem_of_mem_head? hc)
      rw [bne_iff_ne]
      rintro rfl
      exact Bool.noConfusion hdigit

/-- The clause for conditions does not occur in unrestricted text. -/
theorem Unrestricted.lacks_clause {text : List Char} (h : Unrestricted text) :
    ¬ " WHERE ".toList <:+: text := by
  intro hinfix
  have hclause : (" WHERE ".toList).IsChain fun c d ↦ c = ' ' → d ≠ 'W' :=
    h.tail.infix hinfix
  revert hclause
  decide

/-- The text of a query has a clause for conditions exactly if the query has filters. -/
theorem clause_infix_iff {query : Query α} (h : query.WellNamed) :
    " WHERE ".toList <:+: query.text ↔ query.filters ≠ [] := by
  constructor
  · rintro hinfix hfilters
    have hhead := unrestricted_pervasive.head h
    have htext : query.text = query.head ++ query.tail := by
      rw [text_eq, restriction, hfilters, filterTexts, clauseText, if_pos List.isEmpty_nil,
        List.append_nil]
    rw [htext] at hinfix
    exact (hhead.append (unrestricted_pervasive.tail h)).lacks_clause hinfix
  · intro hfilters
    obtain ⟨filter, filters, hfilters⟩ := List.exists_cons_of_ne_nil hfilters
    refine ⟨query.head, separated " AND " (filterTexts 1 query.filters) ++ query.tail, ?_⟩
    rw [text_eq, restriction, clauseText, if_neg (by simp [hfilters, filterTexts])]
    simp only [List.append_assoc]

end Query

variable {rules : Rules} {config : ReportConfig} {compiled : Compiled}

/-- Placeholders and values stay aligned. The dollar signs of compiled text are the placeholders one
to the number of values, each followed by its number and no further digit. The values are those of
the filters that restrict something. In the text stands one condition for each of these filters, its
placeholders stand for the values of this filter, and there is a clause for conditions only if there
is a condition. -/
theorem compiled_placeholders (h : compile rules config = .ok compiled) :
    slotRuns compiled.text.toList =
        (List.range' 1 compiled.parameters.length).map (Nat.toDigits 10) ∧
      compiled.parameters = config.keptFilters.flatMap FilterSpec.boundValues ∧
      (∃ before conditions after,
        compiled.text.toList =
          before ++ clauseText " WHERE " " AND " conditions ++ after ∧
        '$' ∉ before ∧ '$' ∉ after ∧
        List.Forall₂ (fun spec condition ↦ spec.IsCondition compiled.parameters condition)
          config.keptFilters conditions) ∧
      (" WHERE ".toList <:+: compiled.text.toList ↔ config.keptFilters ≠ []) := by
  obtain ⟨query, hyields, hnames, htext, hparameters⟩ := compiled_query h
  have hslotted := query_slotted hnames
  have hconditions := FilterSpec.conditions hyields.filters hnames.filters []
  rw [List.nil_append] at hconditions
  have hvalues := compiled_parameters h
  rw [htext, hparameters]
  rw [hparameters] at hvalues
  refine ⟨hslotted.slot_runs_eq, hvalues, ?_, ?_⟩
  · refine ⟨query.head, filterTexts 1 query.filters, query.tail, query.text_eq, ?_, ?_, hconditions⟩
    · exact fun hmem ↦ (plain_pervasive.head hnames '$' hmem).1 rfl
    · exact fun hmem ↦ (plain_pervasive.tail hnames '$' hmem).1 rfl
  · rw [clause_infix_iff hnames, ne_eq, ne_eq, ← List.length_eq_zero_iff,
      ← List.length_eq_zero_iff, hyields.filters.length_eq]

/-- Three placeholders stand for the number to compare with and the two members. -/
theorem filtered_report_placeholders : ∃ compiled, compile {} filteredReport = .ok compiled ∧
    compiled.parameters = [.integer 7, .integer 1, .integer 2] ∧
    slotRuns compiled.text.toList = [['1'], ['2'], ['3']] := by
  obtain ⟨compiled, hcompiled⟩ := filtered_report_compiles
  obtain ⟨hruns, hparameters, _⟩ := compiled_placeholders hcompiled
  have hvalues : compiled.parameters = [.integer 7, .integer 1, .integer 2] := hparameters
  refine ⟨compiled, hcompiled, hvalues, ?_⟩
  rw [hruns, hvalues]
  decide

end TenantReporting
