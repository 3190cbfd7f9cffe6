import TenantReporting.Proofs.Query.Compile
import TenantReporting.Proofs.Query.Reader
import TenantReporting.Proofs.Text.Run

/-!
# Reading words and items back

`Reads read follow text value` says that `read` finds `value` in `text` and stops right after it,
whatever comes next as long as it satisfies `follow`. Each item of a query is read back from its
text in this sense. Where several words may come next, they clash: at some place that both have they
differ, so that at most one of them is found.
-/

namespace TenantReporting.Query

variable {α β : Type}

/-! ### Words -/

/-- The words differ at a place that both have. -/
def clashes (first second : String) : Bool :=
  (first.toList.zip second.toList).any fun pair ↦ pair.1 != pair.2

/-- A word in front of a text is found. -/
theorem after_append (word : String) (rest : List Char) :
    after? word (word.toList ++ rest) = some rest :=
  List.dropPrefix?_append_of_beq rest (by simp)

/-- Lists that begin the same text agree wherever both go. -/
theorem eq_of_mem_zip {first second left right : List Char}
    (h : first ++ left = second ++ right) {pair : Char × Char} (hpair : pair ∈ first.zip second) :
    pair.1 = pair.2 := by
  induction first generalizing second with
  | nil => simp at hpair
  | cons c first ih =>
      cases second with
      | nil => simp at hpair
      | cons d second =>
          obtain ⟨hhead, htail⟩ := List.cons.inj h
          rcases List.mem_cons.1 hpair with rfl | hpair
          · exact hhead
          · exact ih htail hpair

/-- A word is not found where a word stands that it clashes with. -/
theorem after_clash {first second : String} (h : clashes first second = true)
    (rest : List Char) : after? second (first.toList ++ rest) = none := by
  cases hafter : after? second (first.toList ++ rest) with
  | none => rfl
  | some remainder =>
      obtain ⟨front, htext, hfront⟩ := List.dropPrefix?_eq_some_iff.1 hafter
      rw [eq_of_beq hfront] at htext
      obtain ⟨pair, hpair, hne⟩ := List.any_eq_true.1 h
      rw [eq_of_mem_zip htext hpair] at hne
      simp at hne

/-- A word is not found in a text that opens with words that it clashes with. -/
theorem Opens.after_eq_none {words : List String} {text : List Char} (h : Opens words text)
    {other : String} (hother : other.toList ≠ [])
    (hclash : ∀ word ∈ words, clashes word other = true) : after? other text = none := by
  rcases h with rfl | ⟨word, hword, rest, rfl⟩
  · cases hlist : other.toList with
    | nil => exact absurd hlist hother
    | cons c rest => simp [after?, hlist, List.dropPrefix?]
  · exact after_clash (hclash word hword) rest

/-- The word for a choice is read as this choice if it clashes with the words for the others. -/
theorem read_word_append {word : α → String} {choices : List α} {choice : α}
    (hmem : choice ∈ choices)
    (hclash : ∀ other ∈ choices, other = choice ∨ clashes (word choice) (word other) = true)
    (rest : List Char) :
    readWord word choices ((word choice).toList ++ rest) = some (choice, rest) := by
  induction choices with
  | nil => cases hmem
  | cons other choices ih =>
      rw [readWord, List.findSome?_cons]
      rcases hclash other List.mem_cons_self with rfl | hother
      · rw [after_append, Option.map_some]
      · -- A choice before the right one is passed over, since its word clashes.
        have hnone := after_clash hother rest
        rcases List.mem_cons.1 hmem with rfl | hmem
        · rw [after_append] at hnone
          cases hnone
        · rw [hnone, Option.map_none]
          exact ih hmem fun next hnext ↦ hclash next (List.mem_cons_of_mem _ hnext)

/-- No choice is read where none of the words stands. -/
theorem read_word_eq_none {word : α → String} {choices : List α} {text : List Char}
    (h : ∀ choice ∈ choices, after? (word choice) text = none) :
    readWord word choices text = none := by
  rw [readWord, List.findSome?_eq_none_iff]
  intro choice hchoice
  rw [h choice hchoice, Option.map_none]

/-! ### Items -/

/-- The reader takes a text off the front and finds a value in it, whatever comes next as long as it
satisfies `follow`. -/
def Reads (read : Reading α) (follow : List Char → Prop) (text : List Char) (value : α) : Prop :=
  ∀ rest, follow rest → read (text ++ rest) = some (value, rest)

/-- Nothing is demanded of what comes next. -/
def Anything (_ : List Char) : Prop := True

/-- A quoted identifier is read as this name. -/
theorem read_name_quoted {name : String} (h : IsIdentifier name) :
    Reads readName Anything (quotedName name) name := by
  intro rest _
  have hinside : ∀ c ∈ name.toList, (c != '"') = true := by
    intro c hc
    simp only [bne_iff_ne]
    exact fun heq ↦ h.not_mem (by decide) (heq ▸ hc)
  have hopen : quotedName name ++ rest = "\"".toList ++ (name.toList ++ ("\"".toList ++ rest)) := by
    rw [quoted_name_eq h, List.cons_append, List.append_assoc]
    rfl
  have hstops : Text.Stops (· != '"') ("\"".toList ++ rest) := Text.stops_cons.2 rfl
  simp only [hopen, readName, after_append, Option.bind_eq_bind, Option.bind_some,
    Text.drop_while_run hinside hstops, Text.take_while_run hinside hstops, String.ofList_toList]
  rfl

/-- The text of a column is read as this column. -/
theorem read_column_text {column : ColumnName} (h : ∀ name ∈ column.names, IsIdentifier name) :
    Reads readColumn Anything column.text column := by
  intro rest _
  obtain ⟨htable, hcolumn⟩ := ColumnName.identifiers h
  have htext : column.text ++ rest =
      quotedName column.table ++ (".".toList ++ (quotedName column.column ++ rest)) := by
    rw [ColumnName.text, List.append_assoc]
    rfl
  rw [htext, readColumn, read_name_quoted htable _ trivial]
  simp only [Option.bind_eq_bind, Option.bind_some, after_append,
    read_name_quoted hcolumn rest trivial]
  rfl

/-- No aggregate opens with a quotation mark. -/
theorem Aggregate.opening_unquoted :
    ∀ aggregate ∈ Aggregate.all, clashes "\"" aggregate.opening = true := by
  decide

/-- What stands in front of the argument of an aggregate is read as this aggregate. -/
theorem Aggregate.read_opening (aggregate : Aggregate) (rest : List Char) :
    readWord Aggregate.opening Aggregate.all (aggregate.opening.toList ++ rest) =
      some (aggregate, rest) :=
  read_word_append (by cases aggregate <;> decide) (by cases aggregate <;> decide) rest

/-- The text of an expression is read as this expression. -/
theorem read_expression_text {column : ColumnName} (h : ∀ name ∈ column.names, IsIdentifier name)
    (aggregate? : Option Aggregate) :
    Reads readExpression Anything (expressionText column aggregate?) (column, aggregate?) := by
  intro rest _
  cases aggregate? with
  | some aggregate =>
      simp only [expressionText, readExpression, Aggregate.apply_eq, List.append_assoc,
        Aggregate.read_opening, read_column_text h _ trivial, Option.bind_eq_bind,
        Option.bind_some, after_append]
      rfl
  | none =>
      have hnone : readWord Aggregate.opening Aggregate.all (column.text ++ rest) = none := by
        refine read_word_eq_none fun aggregate haggregate ↦ ?_
        have htext : column.text ++ rest = "\"".toList ++
            (column.table.toList.flatMap quotedNameCharacter
              ++ ['"'] ++ '.' :: quotedName column.column ++ rest) := rfl
        rw [htext]
        exact after_clash (Aggregate.opening_unquoted aggregate haggregate) _
      simp only [expressionText, readExpression, hnone, read_column_text h rest trivial]
      rfl

/-- The text of an item is read as this item, unless another name seems to come next. -/
theorem read_item_text {item : SelectItem} (h : ∀ name ∈ item.names, IsIdentifier name) :
    Reads readItem (fun rest ↦ after? " AS " rest = none) item.text item := by
  obtain ⟨hcolumn, hlabels⟩ := SelectItem.identifiers h
  obtain ⟨column, aggregate?, label?⟩ := item
  intro rest hrest
  have hexpression := read_expression_text hcolumn aggregate?
  cases label? with
  | none =>
      simp only [SelectItem.text_unlabelled, readItem, hexpression rest trivial, readLabel, hrest,
        Option.bind_eq_bind, Option.bind_some]
      rfl
  | some label =>
      have hlabel := read_name_quoted (hlabels label (List.mem_singleton_self _)) rest trivial
      simp only [SelectItem.text_labelled, List.append_assoc, readItem, hexpression _ trivial,
        readLabel, after_append, hlabel, Option.bind_eq_bind, Option.bind_some, Option.map_some]
      rfl

/-! ### Joins, filters and orders -/

/-- The words in front of the table of a join are read as its kind. -/
theorem JoinKind.read_opening (kind : JoinKind) (rest : List Char) :
    readWord JoinKind.opening JoinKind.all (kind.opening.toList ++ rest) = some (kind, rest) :=
  read_word_append (by cases kind <;> decide) (by cases kind <;> decide) rest

/-- The text of a join, with the blank in front of it, is read as this join. -/
theorem read_join_text {join : Join} (h : ∀ name ∈ join.names, IsIdentifier name) :
    Reads readJoin Anything (' ' :: join.text) join := by
  intro rest _
  obtain ⟨htable, hleft, hright⟩ := Join.identifiers h
  rw [Join.text_eq]
  simp only [List.append_assoc, readJoin, JoinKind.read_opening, Option.bind_eq_bind, Option.bind_some,
    read_name_quoted htable _ trivial, after_append, read_column_text hleft _ trivial,
    read_column_text hright _ trivial]
  rfl

/-- What an operator writes up to its first placeholder is read as this operator. -/
theorem Operator.read_opening (operator : Operator) (rest : List Char) :
    readWord Operator.opening Operator.all (operator.opening.toList ++ rest) =
      some (operator, rest) := by
  have hclash : ∀ operator ∈ Operator.all, ∀ other ∈ Operator.all,
      other = operator ∨ clashes operator.opening other.opening = true := by decide
  have hmem : operator ∈ Operator.all := by
    cases operator with
    | compare comparison => cases comparison <;> decide
    | _ => decide
  exact read_word_append hmem (hclash operator hmem) rest

/-- A row of placeholders holds as many dollar signs as placeholders. -/
theorem count_placeholders (first count : Nat) :
    (separated ", " (placeholders first count)).count '$' = count := by
  have hdigits (number : Nat) : (Nat.toDigits 10 number).count '$' = 0 :=
    List.count_eq_zero.2 fun hmem ↦ by simpa using is_digit_of_mem_digits hmem
  have hplaceholder (number : Nat) : (placeholder number).count '$' = 1 := by
    rw [placeholder, List.count_cons_self, hdigits]
  have hrow (first count : Nat) : ((placeholders first count).flatMap
      fun next ↦ ", ".toList ++ next).count '$' = count := by
    induction count generalizing first with
    | zero => rfl
    | succ count ih =>
        have hseparator : (", ".toList).count '$' = 0 := by decide
        rw [placeholders, List.range'_succ, List.map_cons, List.flatMap_cons, List.count_append,
          List.count_append, hplaceholder, hseparator, ← placeholders, ih]
        omega
  cases count with
  | zero => rfl
  | succ count =>
      rw [placeholders, List.range'_succ, List.map_cons, separated_cons, List.count_append,
        hplaceholder, ← placeholders, hrow]
      omega

/-- A row of placeholders holds no parenthesis. -/
theorem placeholders_unclosed (first count : Nat) :
    ∀ c ∈ separated ", " (placeholders first count), (c != ')') = true := by
  intro c hc
  rw [bne_iff_ne]
  rcases mem_separated hc with hc | ⟨item, hitem, hc⟩
  · have hseparator : ", ".toList.all (· != ')') = true := by decide
    exact bne_iff_ne.1 (List.all_eq_true.1 hseparator c hc)
  · obtain ⟨number, _, rfl⟩ := List.mem_map.1 hitem
    rcases List.mem_cons.1 hc with rfl | hc
    · decide
    · rintro rfl
      simpa using is_digit_of_mem_digits hc

/-- No digit comes next. -/
def NoDigit : List Char → Prop :=
  Begins fun c ↦ !c.isDigit

/-- The digits of a number end where no digit comes next. -/
theorem take_digits {rest : List Char} (h : NoDigit rest) (number : Nat) :
    (Nat.toDigits 10 number ++ rest).takeWhile Char.isDigit = Nat.toDigits 10 number ∧
      (Nat.toDigits 10 number ++ rest).dropWhile Char.isDigit = rest := by
  have hdigits : ∀ c ∈ Nat.toDigits 10 number, c.isDigit = true := fun _ ↦ is_digit_of_mem_digits
  have hstops : Text.Stops Char.isDigit rest := fun c hc ↦ by simpa using h c hc
  exact ⟨Text.take_while_run hdigits hstops, Text.drop_while_run hdigits hstops⟩

/-- A test is read as its operator and the number of its values. -/
theorem read_test_text (test : Test α) (first : Nat) :
    Reads readTest NoDigit (test.text first) (test.operator, test.values.length) := by
  intro rest hrest
  cases test with
  | compare comparison value =>
      have htext : (Test.compare comparison value).text first ++ rest =
          (Operator.compare comparison).opening.toList ++ (Nat.toDigits 10 first ++ rest) := by
        simp only [Test.text_compare, placeholder, Operator.opening, String.toList_append,
          List.append_assoc, List.cons_append]
        rfl
      rw [htext, readTest, Operator.read_opening]
      simp only [Option.bind_eq_bind, Option.bind_some, readCount, (take_digits hrest first).2]
      rfl
  | among values =>
      have htext : (Test.among values).text first ++ rest = Operator.among.opening.toList ++
          (separated ", " (placeholders first values.length) ++ (")".toList ++ rest)) := by
        simp only [Test.text_among, Operator.opening, List.append_assoc]
        rfl
      have hinside := placeholders_unclosed first values.length
      have hstops : Text.Stops (· != ')') (")".toList ++ rest) := Text.stops_cons.2 rfl
      rw [htext, readTest, Operator.read_opening]
      simp only [Option.bind_eq_bind, Option.bind_some, readCount,
        Text.take_while_run hinside hstops, Text.drop_while_run hinside hstops, after_append,
        Option.map_some, count_placeholders]
      rfl
  | isNull =>
      have htext : (Test.isNull : Test α).text first ++ rest =
          Operator.isNull.opening.toList ++ rest := rfl
      rw [htext, readTest, Operator.read_opening]
      rfl
  | isNotNull =>
      have htext : (Test.isNotNull : Test α).text first ++ rest =
          Operator.isNotNull.opening.toList ++ rest := rfl
      rw [htext, readTest, Operator.read_opening]
      rfl

/-- The text of a filter is read as the form of this filter. -/
theorem read_filter_text {filter : Filter α}
    (h : ∀ name ∈ filter.column.names, IsIdentifier name) (first : Nat) :
    Reads readFilter NoDigit (filter.text first) filter.form := by
  intro rest hrest
  have htext : filter.text first ++ rest =
      filter.column.text ++ (" ".toList ++ (filter.test.text first ++ rest)) := by
    rw [Filter.text, List.append_assoc]
    rfl
  rw [htext, readFilter, read_column_text h _ trivial]
  simp only [Option.bind_eq_bind, Option.bind_some, after_append,
    read_test_text filter.test first rest hrest]
  rfl

/-- What stands after the column of an order is read as its direction. -/
theorem Direction.read_closing (direction : Direction) (rest : List Char) :
    readWord Direction.closing [.ascending, .descending] (direction.closing.toList ++ rest) =
      some (direction, rest) :=
  read_word_append (by cases direction <;> decide) (by cases direction <;> decide) rest

/-- The text of a column to order by is read as this column and its direction. -/
theorem read_key_text {key : OrderKey} (h : IsIdentifier key.column) :
    Reads readKey Anything key.text key := by
  intro rest _
  rw [OrderKey.text_eq, List.append_assoc, readKey, read_name_quoted h _ trivial]
  simp only [Option.bind_eq_bind, Option.bind_some, Direction.read_closing]
  rfl

end TenantReporting.Query
