import TenantReporting.Query.Compile
import TenantReporting.Proofs.Outcome

/-!
# Identifiers and their quotation

What the check of a name guarantees. A name that passes it is an identifier and comes out
unchanged. So it can be quoted, which changes nothing about what is accepted
(`quoted_identifier_eq`), and since no character of an identifier is a quotation mark, quoting adds
the two marks around it and nothing else.
-/

namespace TenantReporting.Query

/-- A character that may begin a name may stand in it. -/
theorem is_name_character_of_start {c : Char} (h : isNameStart c = true) :
    isNameCharacter c = true := by
  simp only [isNameStart, isNameCharacter, Char.isAlphanum, Bool.or_eq_true] at h ⊢
  exact h.imp_left Or.inl

/-- Every character of an identifier is a name character. -/
theorem IsIdentifier.characters {name : String} (h : IsIdentifier name) :
    ∀ c ∈ name.toList, isNameCharacter c = true := by
  obtain ⟨_, hform⟩ := h
  cases hname : name.toList with
  | nil => simp
  | cons first rest =>
      simp only [hname, isNameOver, Bool.and_eq_true, List.all_eq_true] at hform
      rintro c hc
      rcases List.mem_cons.1 hc with rfl | hc
      · exact is_name_character_of_start hform.1
      · exact hform.2 c hc

/-- A character that is no name character does not occur in an identifier. -/
theorem IsIdentifier.not_mem {name : String} (h : IsIdentifier name) {c : Char}
    (hc : isNameCharacter c = false) : c ∉ name.toList := by
  intro hmem
  rw [h.characters c hmem] at hc
  exact Bool.noConfusion hc

/-- A quoted identifier is the identifier between two quotation marks. -/
theorem quoted_name_eq {name : String} (h : IsIdentifier name) :
    quotedName name = '"' :: (name.toList ++ ['"']) := by
  have hsingle : name.toList.flatMap quotedNameCharacter = name.toList := by
    rw [List.flatMap_congr (g := fun c ↦ [c]), List.flatMap_singleton']
    intro c hc
    have hne : c ≠ '"' := fun heq ↦ h.not_mem (by decide) (heq ▸ hc)
    simp [quotedNameCharacter, hne]
  rw [quotedName, hsingle, List.cons_append]

/-- The check of a name accepts exactly the identifiers, and gives them out unchanged. -/
theorem check_name_eq_ok_iff {name result : String} :
    checkName name = .ok result ↔ result = name ∧ IsIdentifier name := by
  by_cases hempty : name = ""
  · subst hempty
    simp [checkName, IsIdentifier, isNameOver]
  by_cases hlong : maxNameLength < name.toList.length
  · simp [checkName, IsIdentifier, hempty, hlong, Nat.not_le.2 hlong]
  by_cases hform : isNameOver isNameCharacter name.toList = true
  · simp [checkName, IsIdentifier, hempty, hlong, hform, eq_comm, Nat.not_lt.1 hlong]
  · simp [checkName, IsIdentifier, hempty, hlong, hform]

/-- Whatever a name is meant for, it is accepted exactly if it is an identifier. -/
theorem identifier_eq_ok_iff {role name result : String} :
    identifier role name = .ok result ↔ result = name ∧ IsIdentifier name := by
  rw [identifier, Outcome.mapError_eq_ok_iff, check_name_eq_ok_iff]

/-- A column is accepted exactly if both of its names are identifiers. -/
theorem column_name_eq_ok_iff {table column : String} {result : ColumnName} :
    columnName table column = .ok result ↔
      result = ⟨table, column⟩ ∧ IsIdentifier table ∧ IsIdentifier column := by
  simp only [columnName, Outcome.bind_eq_ok_iff, identifier_eq_ok_iff, pure, Except.pure,
    Except.ok.injEq]
  constructor
  · rintro ⟨_, ⟨rfl, htable⟩, _, ⟨rfl, hcolumn⟩, rfl⟩
    exact ⟨rfl, htable, hcolumn⟩
  · rintro ⟨rfl, htable, hcolumn⟩
    exact ⟨table, ⟨rfl, htable⟩, column, ⟨rfl, hcolumn⟩, rfl⟩

/-- Both names of a column are identifiers if all of its names are. -/
theorem ColumnName.identifiers {column : ColumnName}
    (h : ∀ name ∈ column.names, IsIdentifier name) :
    IsIdentifier column.table ∧ IsIdentifier column.column := by
  rw [ColumnName.names, List.forall_mem_cons, List.forall_mem_singleton] at h
  exact h

/-! ### Quoting -/

theorem quote_name_eq {name : String} (h : IsIdentifier name) :
    quoteName name = .ok (String.ofList (quotedName name)) :=
  if_pos h

theorem render_column_eq {column : ColumnName} (h : ∀ name ∈ column.names, IsIdentifier name) :
    renderColumn column = .ok (String.ofList column.text) := by
  obtain ⟨htable, hcolumn⟩ := column.identifiers h
  rw [renderColumn, quote_name_eq htable, quote_name_eq hcolumn, ColumnName.text,
    List.append_cons, String.ofList_append, String.ofList_append]
  rfl

theorem render_condition_eq {condition : JoinCondition}
    (h : ∀ name ∈ condition.names, IsIdentifier name) :
    renderCondition condition = .ok (String.ofList condition.text) := by
  obtain ⟨hleft, hright⟩ := List.forall_mem_append.1 h
  rw [renderCondition, render_column_eq hleft, render_column_eq hright, JoinCondition.text,
    String.ofList_append, String.ofList_append, String.ofList_toList]
  rfl

/-- A name that has been checked can be quoted. -/
theorem quoted_identifier_eq (role name : String) :
    quotedIdentifier role name = identifier role name := by
  refine Outcome.checked_eq fun result hresult ↦ ?_
  obtain ⟨rfl, hname⟩ := identifier_eq_ok_iff.1 hresult
  exact ⟨_, quote_name_eq hname⟩

/-- A column whose names have been checked can be rendered. -/
theorem quoted_column_eq (table column : String) :
    quotedColumn table column = columnName table column := by
  refine Outcome.checked_eq fun result hresult ↦ ?_
  obtain ⟨rfl, htable, hcolumn⟩ := column_name_eq_ok_iff.1 hresult
  exact ⟨_, render_column_eq (List.forall_mem_cons.2 ⟨htable, List.forall_mem_singleton.2 hcolumn⟩)⟩

/-! ### Names of queries -/

/-- The names of the column and of the label are identifiers if all names of an item are. -/
theorem SelectItem.identifiers {item : SelectItem} (h : ∀ name ∈ item.names, IsIdentifier name) :
    (∀ name ∈ item.column.names, IsIdentifier name) ∧
      ∀ label ∈ item.label.toList, IsIdentifier label := by
  simpa only [SelectItem.names, List.forall_mem_append] using h

/-- The table and the names on both sides are identifiers if all names of a join are. -/
theorem Join.identifiers {join : Join} (h : ∀ name ∈ join.names, IsIdentifier name) :
    IsIdentifier join.table ∧ (∀ name ∈ join.condition.left.names, IsIdentifier name) ∧
      ∀ name ∈ join.condition.right.names, IsIdentifier name := by
  simpa only [Join.names, JoinCondition.names, List.forall_mem_cons, List.forall_mem_append]
    using h

/-- Every name in the query is an identifier. -/
structure WellNamed {α : Type} (query : Query α) : Prop where
  selection : ∀ item ∈ query.selection, ∀ name ∈ item.names, IsIdentifier name
  source : IsIdentifier query.source
  joins : ∀ join ∈ query.joins, ∀ name ∈ join.names, IsIdentifier name
  filters : ∀ filter ∈ query.filters, ∀ name ∈ filter.column.names, IsIdentifier name
  groups : ∀ name ∈ query.groups, IsIdentifier name
  order : ∀ key ∈ query.order, IsIdentifier key.column

/-- The list of names of a well named query holds identifiers only. -/
theorem names_of_well_named {α : Type} {query : Query α} (h : query.WellNamed) :
    ∀ name ∈ query.names, IsIdentifier name := by
  simp only [names, List.forall_mem_append, List.forall_mem_cons, List.forall_mem_flatMap,
    List.forall_mem_map]
  exact ⟨⟨⟨⟨h.selection, h.source, h.joins⟩, h.filters⟩, h.groups⟩, h.order⟩

end TenantReporting.Query
