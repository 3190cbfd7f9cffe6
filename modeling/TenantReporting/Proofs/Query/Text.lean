import TenantReporting.Proofs.Query.Form

/-!
# Query text from left to right

The text of a query as one concatenation: its items, its first table, its joins, and then each of
the clauses that may be missing, with the blank in front of it. Reading the text and looking for
placeholders in it both go along this concatenation.
-/

namespace TenantReporting.Query

variable {α : Type}

/-! ### Items -/

/-- What stands in front of the argument of an aggregate. -/
def Aggregate.opening : Aggregate → String
  | .concatenation => "STRING_AGG(CAST("
  | aggregate => aggregate.word ++ "("

/-- What stands after the argument of an aggregate. -/
def Aggregate.closing : Aggregate → String
  | .concatenation => " AS TEXT), ', ')"
  | _ => ")"

/-- An aggregate stands around its argument. -/
theorem Aggregate.apply_eq (aggregate : Aggregate) (expression : List Char) :
    aggregate.apply expression =
      aggregate.opening.toList ++ (expression ++ aggregate.closing.toList) := by
  cases aggregate with
  | concatenation => exact List.append_assoc ..
  | _ =>
      simp only [opening, String.toList_append]
      exact (List.append_assoc ..).trans (List.append_assoc ..).symm

/-- A column or an aggregate of it in query text. -/
def expressionText (column : ColumnName) : Option Aggregate → List Char
  | some aggregate => aggregate.apply column.text
  | none => column.text

theorem SelectItem.text_unlabelled (column : ColumnName) (aggregate? : Option Aggregate) :
    SelectItem.text ⟨column, aggregate?, none⟩ = expressionText column aggregate? := rfl

theorem SelectItem.text_labelled (column : ColumnName) (aggregate? : Option Aggregate)
    (label : String) :
    SelectItem.text ⟨column, aggregate?, some label⟩ =
      expressionText column aggregate? ++ " AS ".toList ++ quotedName label := rfl

/-- The words in front of the table of a join. -/
def JoinKind.opening (kind : JoinKind) : String :=
  " " ++ kind.word ++ " JOIN "

/-- A join with the blank in front of it. -/
theorem Join.text_eq (join : Join) :
    ' ' :: join.text = join.kind.opening.toList ++ (quotedName join.table ++ (" ON ".toList
      ++ (join.condition.left.text ++ (" = ".toList ++ join.condition.right.text)))) := by
  simp only [Join.text, JoinCondition.text, JoinKind.opening, String.toList_append,
    List.append_assoc]
  rfl

/-- What an operator writes up to the number of its first placeholder. -/
def Operator.opening : Operator → String
  | .compare comparison => comparison.word ++ " $"
  | .among => "IN ("
  | .isNull => "IS NULL"
  | .isNotNull => "IS NOT NULL"

/-- What stands after the column of an order. -/
def Direction.closing (direction : Direction) : String :=
  " " ++ direction.word

theorem OrderKey.text_eq (key : OrderKey) :
    key.text = quotedName key.column ++ key.direction.closing.toList := by
  simp only [OrderKey.text, Direction.closing, String.toList_append]
  rfl

/-! ### Lists and clauses -/

theorem separated_nil (separator : String) : separated separator [] = [] := rfl

/-- Every item but the first comes after a separator. -/
theorem separated_cons (separator : String) (item : List Char) (items : List (List Char)) :
    separated separator (item :: items) =
      item ++ items.flatMap fun next ↦ separator.toList ++ next := by
  induction items generalizing item with
  | nil => rw [separated, List.intercalate_singleton, List.flatMap_nil, List.append_nil]
  | cons next rest ih =>
      rw [separated, List.intercalate_cons_cons, ← separated, ih next, List.flatMap_cons,
        List.append_assoc, List.append_assoc]

/-- A character between separated items comes from a separator or from an item. -/
theorem mem_separated {separator : String} {items : List (List Char)} {c : Char}
    (h : c ∈ separated separator items) : c ∈ separator.toList ∨ ∃ item ∈ items, c ∈ item := by
  cases items with
  | nil => simp [separated_nil] at h
  | cons item items =>
      rw [separated_cons, List.mem_append, List.mem_flatMap] at h
      rcases h with h | ⟨next, hnext, h⟩
      · exact Or.inr ⟨item, List.mem_cons_self, h⟩
      · rcases List.mem_append.1 h with h | h
        · exact Or.inl h
        · exact Or.inr ⟨next, List.mem_cons_of_mem _ hnext, h⟩

/-- A digit of a number in query text is an ASCII digit. -/
theorem is_digit_of_mem_digits {number : Nat} {c : Char} (h : c ∈ Nat.toDigits 10 number) :
    c.isDigit = true :=
  Nat.isDigit_of_mem_toDigits (by decide) (by decide) h

/-- A clause with the blank in front of it, nothing if it has no items. -/
def clauseText (keyword separator : String) (items : List (List Char)) : List Char :=
  if items.isEmpty then [] else keyword.toList ++ separated separator items

/-- The limit with the blank in front of it. -/
def limitText (limit? : Option Nat) : List Char :=
  limit?.toList.flatMap fun limit ↦ " LIMIT ".toList ++ Nat.toDigits 10 limit

/-- Nothing comes, or one of the words. -/
def Opens (words : List String) (text : List Char) : Prop :=
  text = [] ∨ ∃ word ∈ words, ∃ rest, text = word.toList ++ rest

/-- A text after another one opens with the words of either. -/
theorem Opens.append {words others : List String} {text other : List Char}
    (h : Opens words text) (hother : Opens others other) :
    Opens (words ++ others) (text ++ other) := by
  rcases h with rfl | ⟨word, hword, rest, rfl⟩
  · rcases hother with rfl | ⟨word, hword, rest, rfl⟩
    · exact Or.inl rfl
    · exact Or.inr ⟨word, List.mem_append_right _ hword, rest, rfl⟩
  · exact Or.inr ⟨word, List.mem_append_left _ hword, rest ++ other, List.append_assoc ..⟩

/-- A clause that may be missing opens with its keyword. -/
theorem opens_clause (keyword separator : String) (items : List (List Char)) :
    Opens [keyword] (clauseText keyword separator items) := by
  rw [clauseText]
  split
  · exact Or.inl rfl
  · exact Or.inr ⟨keyword, List.mem_singleton_self _, _, rfl⟩

/-- A limit that may be missing opens with its keyword. -/
theorem opens_limit (limit? : Option Nat) : Opens [" LIMIT "] (limitText limit?) := by
  cases limit? with
  | none => exact Or.inl rfl
  | some limit =>
      refine Or.inr ⟨" LIMIT ", List.mem_singleton_self _, Nat.toDigits 10 limit, ?_⟩
      rw [limitText, Option.toList_some, List.flatMap_singleton]

/-- The text is empty or begins with a character that is allowed. -/
def Begins (allowed : Char → Bool) (text : List Char) : Prop :=
  ∀ c ∈ text.head?, allowed c = true

theorem begins_nil {allowed : Char → Bool} : Begins allowed [] := by
  intro c hc
  cases hc

theorem begins_cons {allowed : Char → Bool} {c : Char} {rest : List Char}
    (h : allowed c = true) : Begins allowed (c :: rest) := by
  intro d hd
  cases hd
  exact h

/-- What comes after an empty text decides how both together begin. -/
theorem Begins.append {allowed : Char → Bool} {text other : List Char} (h : Begins allowed text)
    (hother : Begins allowed other) : Begins allowed (text ++ other) := by
  cases text with
  | nil => exact hother
  | cons c rest => exact begins_cons (h c rfl)

/-- What opens with words begins as one of the words does. -/
theorem Opens.begins {allowed : Char → Bool} {words : List String} {text : List Char}
    (h : Opens words text) (hwords : ∀ word ∈ words, word.toList.head?.any allowed = true) :
    Begins allowed text := by
  rcases h with rfl | ⟨word, hword, rest, rfl⟩
  · exact begins_nil
  · have hhead := hwords word hword
    cases hlist : word.toList with
    | nil => simp [hlist] at hhead
    | cons c others =>
        rw [hlist, List.head?_cons, Option.any_some] at hhead
        exact begins_cons hhead

/-- The text of a query up to its joins. -/
def head (query : Query α) : List Char :=
  "SELECT ".toList ++ separated ", " (query.selection.map SelectItem.text) ++ " FROM ".toList
    ++ quotedName query.source ++ query.joins.flatMap fun join ↦ ' ' :: join.text

theorem head_eq (query : Query α) :
    query.head = "SELECT ".toList ++ separated ", " (query.selection.map SelectItem.text)
      ++ " FROM ".toList ++ quotedName query.source
      ++ query.joins.flatMap fun join ↦ ' ' :: join.text := rfl

/-- The text of the filters of a query. -/
def restriction (query : Query α) : List Char :=
  clauseText " WHERE " " AND " (filterTexts 1 query.filters)

/-- The text of a query after its filters. -/
def tail (query : Query α) : List Char :=
  clauseText " GROUP BY " ", " (query.groups.map quotedName)
    ++ clauseText " ORDER BY " ", " (query.order.map OrderKey.text) ++ limitText query.limit

/-- A clause that may be missing, with a blank in front of it. -/
theorem flat_clause_eq (keyword separator : String) (items : List (List Char)) :
    ((clause? keyword separator items).flatMap fun clause ↦ " ".toList ++ clause) =
      clauseText (" " ++ keyword ++ " ") separator items := by
  by_cases hempty : items.isEmpty = true
  · simp [clause?, clauseText, hempty]
  · simp [clause?, clauseText, hempty]

/-- The text after the filters of a query opens with the keyword of a clause. -/
theorem opens_tail (query : Query α) :
    Opens [" GROUP BY ", " ORDER BY ", " LIMIT "] query.tail :=
  ((opens_clause " GROUP BY " ", " _).append (opens_clause " ORDER BY " ", " _)).append
    (opens_limit query.limit)

/-- The text of a query is its head, its restriction and its tail. -/
theorem text_eq (query : Query α) : query.text = query.head ++ query.restriction ++ query.tail := by
  have hfrom : " FROM ".toList = " ".toList ++ "FROM ".toList := by decide
  have hwhere : " " ++ "WHERE" ++ " " = " WHERE " := by decide
  have hgroup : " " ++ "GROUP BY" ++ " " = " GROUP BY " := by decide
  have horder : " " ++ "ORDER BY" ++ " " = " ORDER BY " := by decide
  have hlimit : ((query.limit.map fun limit ↦ "LIMIT ".toList ++ Nat.toDigits 10 limit).toList.flatMap
      fun clause ↦ " ".toList ++ clause) = limitText query.limit := by
    cases query.limit <;> simp [limitText]
  -- A clause takes the blank in front of it along, which was the separator.
  have hjoins : ((query.joins.map Join.text).flatMap fun clause ↦ " ".toList ++ clause) =
      query.joins.flatMap fun join ↦ ' ' :: join.text := by
    rw [List.flatMap_map]
    rfl
  simp only [text, clauses, List.cons_append, separated_cons, List.flatMap_append,
    List.flatMap_cons, List.flatMap_nil, hlimit, hjoins, flat_clause_eq, hwhere, hgroup, horder]
  simp only [head_eq, restriction, tail, hfrom, List.append_assoc, List.nil_append]

end TenantReporting.Query
