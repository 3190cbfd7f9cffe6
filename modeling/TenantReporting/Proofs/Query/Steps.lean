import TenantReporting.Proofs.Numeral
import TenantReporting.Proofs.Query.NormalForm

/-!
# The steps of compilation

How each step of compilation may fail and what its result is like. A step refuses what it is given:
a configuration is malformed, or one of its values is not valid. The only other failures are those
of numerals, for a limit that is given as text or that cannot be written, and those of the bounds on
query text. The statements are put together in the order of the steps (`of_config_ends`): every name
in the query of a configuration is an identifier, and no quotation of a name fails.
-/

namespace TenantReporting

/-- The kind is that of values that are not valid, or a special case of it. -/
def ErrorKind.isValidation : ErrorKind → Bool
  | validation | invalidIdentifier | invalidAggregate | invalidJoinCondition | invalidOperator
  | invalidLimit | invalidTenant => true
  | _ => false

/-- The error says that a configuration is malformed or that a value in it is not valid. -/
def ReportError.IsRefusal (error : ReportError) : Prop :=
  error.kind = .configuration ∨ error.kind.isValidation = true

namespace Query

/-- How the compilation of a configuration with the given limit may fail under the rules. -/
inductive Foreseen (rules : Rules) (limit : Json) : Failure → Prop where
  | refusal {error : ReportError} (h : error.IsRefusal) : Foreseen rules limit (.report error)
  | numeral {fault : Numeral.Fault}
      (h : (∃ text, limit = .text text) ∨
        limit ≠ .null ∧ Numeral.isWritable rules.greatestLimit = false) :
      Foreseen rules limit (.numeral fault)
  | excess {reason : Sql.Excess} (h : rules.bounds ≠ ⟨none, none⟩) :
      Foreseen rules limit (.excess reason)

/-! ### Steps of compilation -/

section Steps

variable {rules : Rules} {limit : Json}

theorem check_name_ends (name : String) :
    Outcome.Ends (fun _ ↦ True) IsIdentifier (checkName name) := by
  cases h : checkName name with
  | error defect => trivial
  | ok result =>
      obtain ⟨rfl, hname⟩ := check_name_eq_ok_iff.1 h
      exact hname

theorem identifier_ends (role name : String) :
    Outcome.Ends (Foreseen rules limit) IsIdentifier (identifier role name) :=
  (check_name_ends name).mapError fun _ ↦ .refusal (Or.inr rfl)

theorem quoted_identifier_ends (role name : String) :
    Outcome.Ends (Foreseen rules limit) IsIdentifier (quotedIdentifier role name) := by
  rw [quoted_identifier_eq]
  exact identifier_ends role name

/-- A column is refused, or it has the given names and these are identifiers. -/
theorem quoted_column_ends (table column : String) :
    Outcome.Ends (Foreseen rules limit)
      (fun result ↦ result = ⟨table, column⟩ ∧ ∀ name ∈ result.names, IsIdentifier name)
      (quotedColumn table column) := by
  rw [quoted_column_eq]
  have hends : Outcome.Ends (Foreseen rules limit) (fun _ ↦ True) (columnName table column) :=
    (identifier_ends "table" table).bind fun _ _ ↦
      (identifier_ends "column" column).bind fun _ _ ↦ trivial
  refine hends.of_ok fun result hresult ↦ ?_
  obtain ⟨rfl, htable, hcolumn⟩ := column_name_eq_ok_iff.1 hresult
  exact ⟨rfl, List.forall_mem_cons.2 ⟨htable, List.forall_mem_singleton.2 hcolumn⟩⟩

/-- An item has identifiers as names if its column and its label have been checked. -/
theorem item_identifiers {column : ColumnName} {aggregate? : Option Aggregate}
    {label? : Option String} (hcolumn : ∀ name ∈ column.names, IsIdentifier name)
    (hlabel : ∀ label ∈ label?.toList, IsIdentifier label) :
    ∀ name ∈ SelectItem.names ⟨column, aggregate?, label?⟩, IsIdentifier name :=
  List.forall_mem_append.2 ⟨hcolumn, hlabel⟩

/-- A column that has been checked may be given a label. -/
theorem labelled_ends {column : ColumnName} (hcolumn : ∀ name ∈ column.names, IsIdentifier name)
    (aggregate? : Option Aggregate) (label : String) :
    Outcome.Ends (Foreseen rules limit) (fun item ↦ ∀ name ∈ item.names, IsIdentifier name)
      (quotedIdentifier "alias" label >>= fun label ↦
        pure (SelectItem.mk column aggregate? (some label))) :=
  (quoted_identifier_ends "alias" label).bind fun _ hlabel ↦
    item_identifiers hcolumn (List.forall_mem_singleton.2 hlabel)

theorem select_item_ends (spec : ColumnSpec) :
    Outcome.Ends (Foreseen rules limit) (fun item ↦ ∀ name ∈ item.names, IsIdentifier name)
      (selectItem spec) := by
  refine (quoted_column_ends spec.table spec.column).bind fun column ⟨hgiven, hcolumn⟩ ↦ ?_
  cases nonempty? spec.aggregate with
  | none =>
      cases nonempty? spec.label with
      | none => exact item_identifiers hcolumn nofun
      | some label => exact labelled_ends hcolumn none label
  | some given =>
      dsimp only
      cases Aggregate.ofText? given with
      | none => exact .refusal (Or.inr rfl)
      | some aggregate =>
          cases nonempty? spec.label with
          | none =>
              -- The aggregate is labelled with the name of its column, which has been checked.
              have hname : IsIdentifier spec.column := by
                rw [hgiven] at hcolumn
                exact (ColumnName.identifiers hcolumn).2
              dsimp only
              rw [quote_name_eq hname]
              exact item_identifiers hcolumn (List.forall_mem_singleton.2 hname)
          | some label => exact labelled_ends hcolumn (some aggregate) label

theorem check_join_column_ends (column : ColumnName) :
    Outcome.Ends (fun _ ↦ True) (fun result ↦ ∀ name ∈ result.names, IsIdentifier name)
      (checkJoinColumn column) := by
  refine ((check_name_ends column.table).mapError fun _ ↦ trivial).bind fun table htable ↦ ?_
  refine ((check_name_ends column.column).mapError fun _ ↦ trivial).bind fun name hname ↦ ?_
  exact List.forall_mem_cons.2 ⟨htable, List.forall_mem_singleton.2 hname⟩

theorem join_condition_ends (text : String) :
    Outcome.Ends (fun _ ↦ True) (fun condition ↦ ∀ name ∈ condition.names, IsIdentifier name)
      (joinCondition text) := by
  unfold joinCondition
  split
  · trivial
  · split
    · trivial
    · refine (check_join_column_ends _).bind fun left hleft ↦ ?_
      refine (check_join_column_ends _).bind fun right hright ↦ ?_
      exact List.forall_mem_append.2 ⟨hleft, hright⟩

theorem join_ends (spec : JoinSpec) :
    Outcome.Ends (Foreseen rules limit) (fun join ↦ ∀ name ∈ join.names, IsIdentifier name)
      (join spec) := by
  refine (quoted_identifier_ends "join table" spec.table).bind fun table htable ↦ ?_
  have hcondition : Outcome.Ends (Foreseen rules limit)
      (fun condition ↦ ∀ name ∈ condition.names, IsIdentifier name)
      ((joinCondition spec.condition).mapError fun defect ↦ .report (.join defect)) :=
    (join_condition_ends spec.condition).mapError fun _ ↦ .refusal (Or.inr rfl)
  refine hcondition.bind fun condition hnames ↦ ?_
  rw [render_condition_eq hnames]
  exact List.forall_mem_cons.2 ⟨htable, hnames⟩

theorem operator_ends (text? : Option String) :
    Outcome.Ends (Foreseen rules limit) (fun _ ↦ True) (operator rules text?) := by
  unfold operator
  split
  · trivial
  · split
    · trivial
    · split
      · exact .refusal (Or.inr rfl)
      · trivial

theorem test_ends (operator : Operator) (value : Json) :
    Outcome.Ends (Foreseen rules limit) (fun _ ↦ True) (test? operator value) := by
  unfold test?
  cases operator with
  | compare comparison => trivial
  | among =>
      dsimp only
      split
      · trivial
      · trivial
      · exact .refusal (Or.inr rfl)
  | isNull =>
      dsimp only
      split
      · trivial
      · exact .refusal (Or.inr rfl)
  | isNotNull =>
      dsimp only
      split
      · trivial
      · exact .refusal (Or.inr rfl)

theorem filter_ends (spec : FilterSpec) :
    Outcome.Ends (Foreseen rules limit)
      (fun filter? ↦ ∀ filter ∈ filter?, ∀ name ∈ filter.column.names, IsIdentifier name)
      (filter? rules spec) := by
  refine (quoted_column_ends spec.table spec.column).bind fun column ⟨_, hcolumn⟩ ↦ ?_
  refine (operator_ends spec.operator).bind fun operator _ ↦ ?_
  refine (test_ends operator spec.value).bind fun test _ ↦ ?_
  intro filter hfilter
  obtain ⟨test, _, rfl⟩ := Option.map_eq_some_iff.1 hfilter
  exact hcolumn

theorem order_key_ends (spec : OrderSpec) :
    Outcome.Ends (Foreseen rules limit) (fun key ↦ IsIdentifier key.column) (orderKey spec) := by
  cases spec with
  | plain column | directed column direction =>
      exact (quoted_identifier_ends "order by column" column).bind fun _ h ↦ h

/-- Only a limit that is given as text may fail as a numeral. -/
theorem limit_value_ends (limit : Json) :
    Outcome.Ends (Foreseen rules limit) (fun _ ↦ True) (limitValue limit) := by
  unfold limitValue
  split
  · trivial
  · split
    · trivial
    · exact .refusal (Or.inr rfl)
  next text =>
    split
    · cases Numeral.integer text with
      | error fault => exact .numeral (.inl ⟨text, rfl⟩)
      | ok value => trivial
    · exact .refusal (Or.inr rfl)
  · exact .refusal (Or.inr rfl)

/-- An integer that can be written if the greatest limit can is written, as far as that goes. -/
theorem written_ends {value : Int} (hlimit : limit ≠ .null)
    (h : Numeral.isWritable rules.greatestLimit = true → Numeral.isWritable value = true) :
    Outcome.Ends (Foreseen rules limit) (fun _ ↦ True)
      ((Numeral.written value).mapError .numeral) := by
  unfold Numeral.written
  split
  · trivial
  next hunwritable =>
    exact .numeral (.inr ⟨hlimit, Bool.eq_false_iff.2 fun hwritable ↦ hunwritable (h hwritable)⟩)

/-- A limit that is accepted is not greater than the greatest one. -/
theorem check_limit_ends (hlimit : limit ≠ .null) (value : Int) :
    Outcome.Ends (Foreseen rules limit) (fun result : Nat ↦ (result : Int) ≤ rules.greatestLimit)
      (checkLimit rules.greatestLimit value) := by
  unfold checkLimit
  split
  · exact .refusal (Or.inr rfl)
  next hpositive =>
    split
    · have hrefused (greatest : String) : Outcome.Ends (Foreseen rules limit)
          (fun result : Nat ↦ (result : Int) ≤ rules.greatestLimit)
          (.error (.report (.limitTooGreat greatest))) := .refusal (Or.inr rfl)
      exact (written_ends hlimit id).bind fun greatest _ ↦ hrefused greatest
    next hgreatest =>
      have hle : (value.toNat : Int) ≤ rules.greatestLimit := by omega
      exact hle

theorem limit_of_ends (limit : Json) :
    Outcome.Ends (Foreseen rules limit)
      (fun result ↦ ∀ number : Nat, result = some number →
        limit ≠ .null ∧ (number : Int) ≤ rules.greatestLimit)
      (limitOf rules.greatestLimit limit) := by
  unfold limitOf
  split
  · exact fun _ hnone ↦ nomatch hnone
  next hlimit =>
    refine (limit_value_ends _).bind fun value _ ↦ ?_
    have hchecked : Outcome.Ends (Foreseen rules limit)
        (fun result : Nat ↦ (result : Int) ≤ rules.greatestLimit)
        (checkLimit rules.greatestLimit value) := check_limit_ends hlimit value
    refine hchecked.bind fun result hresult ↦ ?_
    rintro _ ⟨⟩
    exact ⟨hlimit, hresult⟩

/-- A limit is written into the query, unless not even the greatest one could be. -/
theorem writable_limit_ends {result : Option Nat}
    (h : ∀ number : Nat, result = some number →
      limit ≠ .null ∧ (number : Int) ≤ rules.greatestLimit) :
    Outcome.Ends (Foreseen rules limit) (fun _ ↦ True) (writableLimit result) := by
  cases result with
  | none => trivial
  | some number =>
      obtain ⟨hlimit, hgreatest⟩ := h number rfl
      have hle : (number : Int).natAbs ≤ rules.greatestLimit.natAbs := by omega
      exact (written_ends hlimit (Numeral.writable_of_le hle)).bind fun _ _ ↦ trivial

end Steps

/-! ### Queries of configurations -/

/-- What remains to be compiled once the items, the first table and the joins are known. -/
def restOf (rules : Rules) (config : ReportConfig) (selection : List SelectItem) (source : String)
    (joins : List Join) : Except Failure (Query Json) := do
  let filters ← config.filters.mapM (filter? rules)
  let groups ← config.groups.mapM (quotedIdentifier "group by column")
  let order ← config.order.mapM orderKey
  let limit ← limitOf rules.greatestLimit config.limit
  let limit ← writableLimit limit
  return { selection, source, joins, filters := filters.reduceOption, groups, order, limit }

/-- What remains once the joins are known ends as its steps do. -/
theorem rest_ends (rules : Rules) (config : ReportConfig) {selection : List SelectItem}
    {source : String} {joins : List Join}
    (hselection : ∀ item ∈ selection, ∀ name ∈ item.names, IsIdentifier name)
    (hsource : IsIdentifier source)
    (hjoins : ∀ join ∈ joins, ∀ name ∈ join.names, IsIdentifier name) :
    Outcome.Ends (Foreseen rules config.limit) WellNamed
      (restOf rules config selection source joins) := by
  refine (Outcome.Ends.mapM fun spec _ ↦ filter_ends spec).bind fun filters hfilters ↦ ?_
  refine (Outcome.Ends.mapM fun name _ ↦ quoted_identifier_ends _ name).bind
    fun groups hgroups ↦ ?_
  refine (Outcome.Ends.mapM fun spec _ ↦ order_key_ends spec).bind fun order horder ↦ ?_
  refine (limit_of_ends config.limit).bind fun limit hlimit ↦ ?_
  refine (writable_limit_ends hlimit).bind fun written _ ↦ ?_
  exact {
    selection := hselection
    source := hsource
    joins := hjoins
    filters := fun filter hfilter ↦
      hfilters (some filter) (List.reduceOption_mem_iff.1 hfilter) filter rfl
    groups := hgroups
    order := horder }

/-- The query of a configuration has only identifiers as names. If there is none, the configuration
is refused, or its limit is no numeral or has none. -/
theorem of_config_ends (rules : Rules) (config : ReportConfig) :
    Outcome.Ends (Foreseen rules config.limit) WellNamed (ofConfig rules config) := by
  unfold ofConfig
  split
  · exact .refusal (Or.inl rfl)
  · dsimp only
    split
    · exact .refusal (Or.inl rfl)
    · refine (quoted_identifier_ends "table" _).bind fun source hsource ↦ ?_
      refine (Outcome.Ends.mapM fun name _ ↦ quoted_identifier_ends _ name).bind fun others _ ↦ ?_
      refine (Outcome.Ends.mapM fun spec _ ↦ select_item_ends spec).bind
        fun selection hselection ↦ ?_
      split
      · exact rest_ends rules config hselection hsource nofun
      · refine (Outcome.Ends.mapM fun spec _ ↦ join_ends spec).bind fun joins hjoins ↦ ?_
        exact rest_ends rules config hselection hsource hjoins

end Query

end TenantReporting
