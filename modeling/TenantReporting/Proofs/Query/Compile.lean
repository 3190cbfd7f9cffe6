import TenantReporting.Proofs.Query.Steps

/-!
# What compiled configurations consist of

The one place where compilation is taken apart. `compiled_query` says that the text and the
parameters of a compiled configuration are those of a query that the configuration stands for, and
that every name in this query is an identifier. Results about compiled text start from there.
-/

namespace TenantReporting

open Query

/-- The query is the one that a configuration stands for. -/
structure ReportConfig.Yields (config : ReportConfig) (query : Query Json) : Prop where
  source : config.tables.head? = some query.source
  columns : config.columns ≠ []
  selection : query.selection = config.columns.map ColumnSpec.item
  joins : config.joinForms? = some query.joins
  filters : List.Forall₂ FilterSpec.Yields config.keptFilters query.filters
  groups : query.groups = config.groups
  order : query.order = config.order.map OrderSpec.key
  limit : query.limit = givenLimit config.limit

namespace Query

variable {rules : Rules} {config : ReportConfig} {query : Query Json} {compiled : Compiled}

/-- Results that are functions of their items are the list of the function's values. -/
theorem eq_map_of_forall₂ {α β : Type} {f : α → β} {items : List α} {results : List β}
    (h : List.Forall₂ (fun item result ↦ result = f item) items results) :
    results = items.map f := by
  induction h with
  | nil => rfl
  | cons hitem _ ih => rw [hitem, ih, List.map_cons]

/-- A pass over a list finds a result for every item if it does so for each. -/
theorem mapM_eq_some_of_forall₂ {α β : Type} {f : α → Option β} {items : List α} {results : List β}
    (h : List.Forall₂ (fun item result ↦ f item = some result) items results) :
    items.mapM f = some results := by
  induction h with
  | nil => rfl
  | cons hitem _ ih => rw [List.mapM_cons, hitem, ih]; rfl

/-- Names that are checked one by one come out unchanged. -/
theorem eq_of_checked {names results : List String}
    (h : List.Forall₂ (fun name result ↦ result = name ∧ IsIdentifier name) names results) :
    results = names := by
  rw [eq_map_of_forall₂ (f := id) (h.imp fun _ _ hname ↦ hname.1), List.map_id]

/-- If the rest of a configuration is accepted, it yields what it stands for. -/
theorem rest_yields {selection : List SelectItem} {source : String} {joins : List Join}
    (h : restOf rules config selection source joins = .ok query)
    (hsource : config.tables.head? = some source) (hcolumns : config.columns ≠ [])
    (hselection : selection = config.columns.map ColumnSpec.item)
    (hjoins : config.joinForms? = some joins) : config.Yields query := by
  simp only [restOf, Outcome.bind_eq_ok_iff, Outcome.mapM_eq_ok_iff, quoted_identifier_eq,
    identifier_eq_ok_iff, pure, Except.pure, Except.ok.injEq] at h
  obtain ⟨filters, hfilters, groups, hgroups, order, horder, limit, hlimit, written, hwritten,
    rfl⟩ := h
  obtain rfl := writable_limit_eq hwritten
  exact {
    source := hsource
    columns := hcolumns
    selection := hselection
    joins := hjoins
    filters := filters_eq hfilters
    groups := eq_of_checked hgroups
    order := eq_map_of_forall₂ (horder.imp fun _ _ ↦ order_key_eq)
    limit := limit_of_eq hlimit }

/-- A configuration that is accepted yields the query that it stands for. -/
theorem of_config_yields (h : ofConfig rules config = .ok query) : config.Yields query := by
  rw [ofConfig] at h
  split at h
  · cases h
  rename_i _ others htables
  by_cases hcolumns : config.columns = []
  · simp [hcolumns, throw, throwThe, MonadExceptOf.throw, bind, Except.bind] at h
  simp only [List.isEmpty_iff, hcolumns, if_false, pure_bind, Outcome.bind_eq_ok_iff,
    quoted_identifier_eq, identifier_eq_ok_iff, Outcome.mapM_eq_ok_iff] at h
  obtain ⟨first, ⟨rfl, _⟩, checked, hothers, selection, hselection, h⟩ := h
  have hsource : config.tables.head? = some first := by rw [htables, List.head?_cons]
  have hlength : config.tables.length = checked.length + 1 := by
    rw [htables, List.length_cons, hothers.length_eq]
  have hitems := eq_map_of_forall₂ (hselection.imp fun _ _ ↦ select_item_eq)
  split at h
  case isTrue hnone =>
    refine rest_yields h hsource hcolumns hitems ?_
    rw [ReportConfig.joinForms?, if_pos (by simp [hlength, hnone])]
  case isFalse hsome =>
    rw [Outcome.bind_eq_ok_iff] at h
    obtain ⟨joins, hjoins, h⟩ := h
    refine rest_yields h hsource hcolumns hitems ?_
    have hmany : 0 < checked.length := List.length_pos_iff.2 hsome
    rw [ReportConfig.joinForms?, if_neg (by omega)]
    exact mapM_eq_some_of_forall₂ ((Outcome.mapM_eq_ok_iff.1 hjoins).imp fun _ _ ↦ join_eq)

end Query

/-- Filters have the forms of their specifications. -/
theorem FilterSpec.forms_eq {specs : List FilterSpec} {filters : List (Query.Filter Json)}
    (h : List.Forall₂ FilterSpec.Yields specs filters) :
    filters.map Query.Filter.form = specs.map FilterSpec.form := by
  induction h with
  | nil => rfl
  | cons hfilter _ ih => rw [List.map_cons, List.map_cons, hfilter.form_eq, ih]

/-- Filters bind the values that their specifications say, in their order. -/
theorem FilterSpec.values_eq {specs : List FilterSpec} {filters : List (Query.Filter Json)}
    (h : List.Forall₂ FilterSpec.Yields specs filters) :
    filters.flatMap (fun filter ↦ filter.test.values) = specs.flatMap FilterSpec.boundValues := by
  induction h with
  | nil => rfl
  | cons hfilter _ ih => rw [List.flatMap_cons, List.flatMap_cons, hfilter.values, ih]

/-- A configuration stands for a query only if it selects something. -/
theorem ReportConfig.Yields.selection_ne_nil {config : ReportConfig} {query : Query Json}
    (h : config.Yields query) : query.selection ≠ [] := by
  rw [h.selection]
  exact fun hempty ↦ h.columns (List.map_eq_nil_iff.1 hempty)

/-- The normal form of a configuration is the form of the query that it stands for. -/
theorem ReportConfig.Yields.normal_form_eq {config : ReportConfig} {query : Query Json}
    (h : config.Yields query) : config.normalForm? = some query.form := by
  rw [normalForm?, h.source, h.joins, Query.form, h.selection, FilterSpec.forms_eq h.filters,
    h.groups, h.order, h.limit]
  rfl

namespace Query

variable {rules : Rules} {config : ReportConfig} {compiled : Compiled}

/-- A check that passes gives the text out unchanged. -/
theorem check_single_select_eq {bounds : Sql.Bounds} {text result : List Char}
    (h : checkSingleSelect bounds text = .ok result) : result = text := by
  simp only [checkSingleSelect, Outcome.bind_eq_ok_iff] at h
  obtain ⟨outlines, _, h⟩ := h
  split at h
  · exact (Except.ok.inj h).symm
  · cases h

/-- A compiled configuration has the text and the parameters of a query that it stands for, in which
every name is an identifier. -/
theorem compiled_query (h : compile rules config = .ok compiled) :
    ∃ query : Query Json, config.Yields query ∧ query.WellNamed ∧
      compiled.text.toList = query.text ∧ compiled.parameters = query.parameters := by
  rw [compile, Outcome.bind_eq_ok_iff] at h
  obtain ⟨query, hquery, h⟩ := h
  rw [assemble, Outcome.bind_eq_ok_iff] at h
  obtain ⟨text, htext, h⟩ := h
  cases h
  have hnames : Outcome.Ends (Foreseen rules config.limit) WellNamed (ofConfig rules config) :=
    of_config_ends rules config
  rw [hquery] at hnames
  refine ⟨query, of_config_yields hquery, hnames, ?_, rfl⟩
  rw [check_single_select_eq htext, String.toList_ofList]

/-- The parameters of compiled text are the values that the filters of the configuration bind. -/
theorem compiled_parameters (h : compile rules config = .ok compiled) :
    compiled.parameters = config.keptFilters.flatMap FilterSpec.boundValues := by
  obtain ⟨query, hyields, _, _, hparameters⟩ := compiled_query h
  rw [hparameters]
  exact FilterSpec.values_eq hyields.filters

end Query

/-- A report with a filter of each kind, the first of which restricts nothing. -/
def filteredReport : ReportConfig where
  tables := ["users"]
  columns := [⟨"users", "id", none, none⟩]
  joins := []
  filters := [⟨"users", "id", some "in", .list []⟩, ⟨"users", "age", some ">", .integer 7⟩,
    ⟨"users", "id", some "in", .list [.integer 1, .integer 2]⟩, ⟨"users", "gone", some "is", .null⟩]
  groups := []
  order := []
  limit := .null

theorem filtered_report_compiles : ∃ compiled, Query.compile {} filteredReport = .ok compiled := by
  have hok : (Query.compile {} filteredReport).isOk = true := by decide +kernel
  exact Outcome.exists_of_is_ok hok

end TenantReporting
