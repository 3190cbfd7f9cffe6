import TenantReporting.Proofs.Query.Name
import TenantReporting.Proofs.Query.Text

/-!
# Properties of all query text

Outside its filters, query text is put together from a few fixed words, quoted identifiers and
numbers. A pervasive property holds of these and is kept when texts are put together, and so it
holds of everything before and after the filters of a query (`Pervasive.head`, `Pervasive.tail`).
-/

namespace TenantReporting.Query

variable {α : Type} {property : List Char → Prop}

/-- The fixed words of query text outside filters. -/
def fixedWords : List String :=
  ["SELECT ", ", ", " FROM ", " AS ", ".", " ON ", " = ", " GROUP BY ", " ORDER BY ", " LIMIT "]
    ++ Aggregate.all.map Aggregate.opening ++ Aggregate.all.map Aggregate.closing
    ++ JoinKind.all.map JoinKind.opening ++ [Direction.ascending, .descending].map Direction.closing

/-- The property holds of all that query text outside filters is made of, and is kept when texts are
put together. -/
structure Pervasive (property : List Char → Prop) : Prop where
  nil : property []
  append : ∀ {left right}, property left → property right → property (left ++ right)
  word : ∀ word ∈ fixedWords, property word.toList
  name : ∀ {name}, IsIdentifier name → property (quotedName name)
  number : ∀ number, property (Nat.toDigits 10 number)

namespace Pervasive

/-- A row of texts has a pervasive property if each of them has it. -/
theorem flat_map (h : Pervasive property) {β : Type} {items : List β} {text : β → List Char}
    (hitems : ∀ item ∈ items, property (text item)) : property (items.flatMap text) := by
  induction items with
  | nil => exact h.nil
  | cons item items ih =>
      rw [List.flatMap_cons]
      exact h.append (hitems item List.mem_cons_self)
        (ih fun next hnext ↦ hitems next (List.mem_cons_of_mem _ hnext))

/-- Separated items have a pervasive property if the separator and each item have it. -/
theorem separated (h : Pervasive property) {separator : String} {items : List (List Char)}
    (hseparator : property separator.toList) (hitems : ∀ item ∈ items, property item) :
    property (separated separator items) := by
  cases items with
  | nil => exact h.nil
  | cons item items =>
      rw [separated_cons]
      refine h.append (hitems item List.mem_cons_self) (h.flat_map fun next hnext ↦ ?_)
      exact h.append hseparator (hitems next (List.mem_cons_of_mem _ hnext))

/-- A clause has a pervasive property if its keyword, its separator and its items have it. -/
theorem clause (h : Pervasive property) {keyword separator : String} {items : List (List Char)}
    (hkeyword : property keyword.toList) (hseparator : property separator.toList)
    (hitems : ∀ item ∈ items, property item) : property (clauseText keyword separator items) := by
  rw [clauseText]
  split
  · exact h.nil
  · exact h.append hkeyword (h.separated hseparator hitems)

/-- The text of a column has every pervasive property. -/
theorem column (h : Pervasive property) {column : ColumnName}
    (hnames : ∀ name ∈ column.names, IsIdentifier name) : property column.text := by
  obtain ⟨htable, hcolumn⟩ := ColumnName.identifiers hnames
  exact h.append (h.name htable) (h.append (h.word "." (by decide)) (h.name hcolumn))

/-- The text of an item has every pervasive property. -/
theorem item (h : Pervasive property) {item : SelectItem}
    (hnames : ∀ name ∈ item.names, IsIdentifier name) : property item.text := by
  obtain ⟨hcolumns, hlabels⟩ := SelectItem.identifiers hnames
  obtain ⟨column, aggregate?, label?⟩ := item
  have hcolumn : property column.text := h.column hcolumns
  have hexpression : property (expressionText column aggregate?) := by
    cases aggregate? with
    | none => exact hcolumn
    | some aggregate =>
        have hopening := h.word aggregate.opening (by cases aggregate <;> decide)
        have hclosing := h.word aggregate.closing (by cases aggregate <;> decide)
        rw [expressionText, Aggregate.apply_eq]
        exact h.append hopening (h.append hcolumn hclosing)
  cases label? with
  | none => exact hexpression
  | some label =>
      have hlabel := h.name (hlabels label (List.mem_singleton_self _))
      rw [SelectItem.text_labelled]
      exact h.append (h.append hexpression (h.word " AS " (by decide))) hlabel

/-- The text of a join, with the blank in front of it, has every pervasive property. -/
theorem join (h : Pervasive property) {join : Join}
    (hnames : ∀ name ∈ join.names, IsIdentifier name) : property (' ' :: join.text) := by
  have hkind := h.word join.kind.opening (by cases join.kind <;> decide)
  obtain ⟨htable, hleft, hright⟩ := Join.identifiers hnames
  rw [Join.text_eq]
  refine h.append hkind (h.append (h.name htable) (h.append (h.word " ON " (by decide)) ?_))
  exact h.append (h.column hleft) (h.append (h.word " = " (by decide)) (h.column hright))

/-- The text of a column to order by has every pervasive property. -/
theorem key (h : Pervasive property) {key : OrderKey} (hname : IsIdentifier key.column) :
    property key.text := by
  have hdirection := h.word key.direction.closing (by cases key.direction <;> decide)
  rw [OrderKey.text_eq]
  exact h.append (h.name hname) hdirection

/-- The text of a query up to its filters has every pervasive property. -/
theorem head (h : Pervasive property) {query : Query α} (hnames : query.WellNamed) :
    property query.head := by
  have hselection : property (Query.separated ", " (query.selection.map SelectItem.text)) := by
    refine h.separated (h.word ", " (by decide)) (List.forall_mem_map.2 fun item hitem ↦ ?_)
    exact h.item (hnames.selection item hitem)
  have hjoins : property (query.joins.flatMap fun join ↦ ' ' :: join.text) :=
    h.flat_map fun join hjoin ↦ h.join (hnames.joins join hjoin)
  rw [head_eq]
  exact h.append (h.append (h.append (h.append (h.word "SELECT " (by decide)) hselection)
    (h.word " FROM " (by decide))) (h.name hnames.source)) hjoins

/-- The text of a query after its filters has every pervasive property. -/
theorem tail (h : Pervasive property) {query : Query α} (hnames : query.WellNamed) :
    property query.tail := by
  have hcomma := h.word ", " (by decide)
  have hgroups := h.clause (h.word " GROUP BY " (by decide)) hcomma
    (List.forall_mem_map.2 fun name hname ↦ h.name (hnames.groups name hname))
  have horder := h.clause (h.word " ORDER BY " (by decide)) hcomma
    (List.forall_mem_map.2 fun key hkey ↦ h.key (hnames.order key hkey))
  have hlimit : property (limitText query.limit) :=
    h.flat_map fun limit _ ↦ h.append (h.word " LIMIT " (by decide)) (h.number limit)
  exact h.append (h.append hgroups horder) hlimit

end Pervasive

end TenantReporting.Query
