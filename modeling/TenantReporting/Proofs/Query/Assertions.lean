import TenantReporting.Proofs.Query.Refusal

/-!
# The checks of assembled queries

Compilation checks what it has put together itself: that it quotes identifiers only, and that the
text is a single statement that selects. These checks never fail (`checks_never_fail`).
-/

namespace TenantReporting

namespace Query

/-- No check of something that compilation has put together itself has failed. -/
def Unasserted (outcome : Except Failure Compiled) : Prop :=
  outcome ≠ .error .unvalidatedName ∧ outcome ≠ .error .notSingleSelect

/-- The outcome is compiled text, or the configuration has been refused. -/
def IsAnswer (outcome : Except Failure Compiled) : Prop :=
  (∃ compiled, outcome = .ok compiled) ∨
    ∃ error, ReportError.IsRefusal error ∧ outcome = .error (.report error)

/-- The names have passed the check of names, and so they can be quoted. -/
def Quotable (names : List String) : Prop :=
  ∀ name ∈ names, checkName name = .ok name ∧
    quoteName name = .ok (String.ofList (quotedName name))

theorem quotable_of_identifiers {names : List String} (h : ∀ name ∈ names, IsIdentifier name) :
    Quotable names :=
  fun name hname ↦ ⟨check_name_eq_ok_iff.2 ⟨rfl, h name hname⟩, if_pos (h name hname)⟩

/-! ### Outcomes -/

theorem compile_unasserted (rules : Rules) (config : ReportConfig) :
    Unasserted (compile rules config) := by
  have hends := compile_ends rules config
  refine ⟨fun heq ↦ ?_, fun heq ↦ ?_⟩
  · rw [heq] at hends
    cases hends
  · rw [heq] at hends
    cases hends

theorem build_unasserted (rules : Rules) (value : Json) : Unasserted (build rules value) := by
  rcases build_cases rules value with ⟨error, _, heq⟩ | ⟨config, _, heq⟩
  · rw [heq]
    exact ⟨nofun, nofun⟩
  · rw [heq]
    exact compile_unasserted rules config

section Unbounded

variable {rules : Rules} (hbounds : rules.bounds = ⟨none, none⟩)
  (hgreatest : Numeral.isWritable rules.greatestLimit = true)
include hbounds hgreatest

/-- Without bounds a configuration whose limit is not text is compiled or refused, if the greatest
limit can be written. -/
theorem compile_answers {config : ReportConfig} (hlimit : ∀ text, config.limit ≠ .text text) :
    IsAnswer (compile rules config) := by
  have hends := compile_ends rules config
  cases houtcome : compile rules config with
  | ok compiled => exact Or.inl ⟨compiled, rfl⟩
  | error failure =>
      rw [houtcome] at hends
      cases hends with
      | refusal herror => exact Or.inr ⟨_, herror, rfl⟩
      | numeral hcause =>
          rcases hcause with ⟨text, htext⟩ | ⟨-, hunwritable⟩
          · exact absurd htext (hlimit text)
          · rw [hgreatest] at hunwritable
            cases hunwritable
      | excess h => exact absurd hbounds h

/-- Without bounds a value is built or refused, if the greatest limit can be written, unless it
describes a configuration whose limit is text. -/
theorem build_answers {value : Json}
    (hlimit : ∀ config, configOf value = .ok config → ∀ text, config.limit ≠ .text text) :
    IsAnswer (build rules value) := by
  rcases build_cases rules value with ⟨error, herror, heq⟩ | ⟨config, hconfig, heq⟩
  · exact Or.inr ⟨error, herror, heq⟩
  · rw [heq]
    exact compile_answers hbounds hgreatest (hlimit config hconfig)

end Unbounded

/-! ### Names and text -/

theorem identifier_quotable {role name result : String} (h : identifier role name = .ok result) :
    Quotable [result] := by
  obtain ⟨rfl, hname⟩ := identifier_eq_ok_iff.1 h
  exact quotable_of_identifiers (List.forall_mem_singleton.2 hname)

theorem column_quotable {table column : String} {result : ColumnName}
    (h : columnName table column = .ok result) : Quotable result.names := by
  obtain ⟨rfl, htable, hcolumn⟩ := column_name_eq_ok_iff.1 h
  refine quotable_of_identifiers (List.forall_mem_cons.2 ⟨htable, ?_⟩)
  exact List.forall_mem_singleton.2 hcolumn

/-- A join condition that is accepted is given out, with all of its names quoted. -/
theorem condition_quotable {text : String} {condition : JoinCondition}
    (h : joinCondition text = .ok condition) : Quotable condition.names ∧
      renderCondition condition = .ok (String.ofList condition.text) := by
  have hends := join_condition_ends text
  rw [h] at hends
  exact ⟨quotable_of_identifiers hends, render_condition_eq hends⟩

/-- The query of a configuration that is accepted has quotable names, and its text is safe. -/
theorem query_quotable {rules : Rules} {config : ReportConfig} {query : Query Json}
    (h : ofConfig rules config = .ok query) :
    Quotable query.names ∧ ';' ∉ query.text ∧ "SELECT ".toList <+: query.text := by
  have hends : Outcome.Ends (Foreseen rules config.limit) WellNamed (ofConfig rules config) :=
    of_config_ends rules config
  rw [h] at hends
  obtain ⟨rest, hrest⟩ := text_begins query
  exact ⟨quotable_of_identifiers (names_of_well_named hends), semicolon_not_mem_text hends,
    ⟨rest, hrest.symm⟩⟩

/-- Without bounds a configuration that is accepted is compiled to the text of its query. -/
theorem compile_accepted {rules : Rules} (hbounds : rules.bounds = ⟨none, none⟩)
    {config : ReportConfig} {query : Query Json} (h : ofConfig rules config = .ok query) :
    compile rules config = .ok ⟨String.ofList query.text, query.parameters⟩ := by
  have hends : Outcome.Ends (Foreseen rules config.limit) WellNamed (ofConfig rules config) :=
    of_config_ends rules config
  rw [h] at hends
  rw [compile, h]
  show assemble rules.bounds query = _
  obtain ⟨found, hfound⟩ := Sql.outlines_unbounded query.text
  rw [assemble, hbounds, check_single_select_passes hends hfound]
  rfl

end Query

open Query

/-- The checks of what compilation has put together never fail. Every name is quoted after it has
been checked, no query text contains a semicolon, and all query text begins with the word SELECT.
Without bounds every configuration that has a query is compiled to its text, and unless the limit is
text or the greatest limit is too long to be written, every configuration is compiled or refused. -/
theorem checks_never_fail (rules : Rules) :
    (∀ config, Unasserted (compile rules config)) ∧
    (∀ value, Unasserted (build rules value)) ∧
    (∀ role name result, identifier role name = .ok result → Quotable [result]) ∧
    (∀ table column result, columnName table column = .ok result → Quotable result.names) ∧
    (∀ text condition, joinCondition text = .ok condition → Quotable condition.names ∧
      renderCondition condition = .ok (String.ofList condition.text)) ∧
    (∀ config query, ofConfig rules config = .ok query →
      Quotable query.names ∧ ';' ∉ query.text ∧ "SELECT ".toList <+: query.text) ∧
    (rules.bounds = ⟨none, none⟩ →
      (∀ config query, ofConfig rules config = .ok query →
        compile rules config = .ok ⟨String.ofList query.text, query.parameters⟩) ∧
      (Numeral.isWritable rules.greatestLimit = true →
        (∀ config : ReportConfig, (∀ text, config.limit ≠ .text text) →
          IsAnswer (compile rules config)) ∧
        ∀ value, (∀ config, configOf value = .ok config → ∀ text, config.limit ≠ .text text) →
          IsAnswer (build rules value))) := by
  refine ⟨compile_unasserted rules, build_unasserted rules, ?_, ?_, ?_, ?_, ?_⟩
  · exact fun _ _ _ ↦ identifier_quotable
  · exact fun _ _ _ ↦ column_quotable
  · exact fun _ _ ↦ condition_quotable
  · exact fun _ _ ↦ query_quotable
  · exact fun hbounds ↦ ⟨fun _ _ ↦ compile_accepted hbounds, fun hgreatest ↦
      ⟨fun _ ↦ compile_answers hbounds hgreatest, fun _ ↦ build_answers hbounds hgreatest⟩⟩

/-- A value that asks for an aggregate without a name for it. -/
def countRequest : Json :=
  .object [("tables", .list [.text "users"]),
    ("columns", .list [.object [("table", .text "users"), ("column", .text "id"),
      ("aggregate", .text "count")]])]

/-- A value that has a query is built without bounds, with a name that it does not give itself. -/
theorem count_request_answered :
    let rules : Rules := { bounds := ⟨none, none⟩ }
    ∃ config query, configOf countRequest = .ok config ∧ ofConfig rules config = .ok query ∧
      Quotable query.names ∧ ';' ∉ query.text ∧
      compile rules config = .ok ⟨String.ofList query.text, query.parameters⟩ ∧
      IsAnswer (compile rules config) ∧ IsAnswer (build rules countRequest) := by
  intro rules
  obtain ⟨config, hconfig⟩ := Outcome.exists_of_is_ok
    (by decide +kernel : (configOf countRequest).isOk = true)
  have hlimit (config : ReportConfig) (h : configOf countRequest = .ok config)
      (text : String) : config.limit ≠ .text text := by
    cases h
    exact nofun
  obtain ⟨query, hquery⟩ : ∃ query, ofConfig rules config = .ok query := by
    refine Outcome.exists_of_is_ok ?_
    cases hconfig
    decide +kernel
  obtain ⟨_, _, _, _, _, hqueries, hanswers⟩ := checks_never_fail rules
  obtain ⟨hnames, hsemicolon, _⟩ := hqueries config query hquery
  obtain ⟨haccepted, hanswered⟩ := hanswers rfl
  obtain ⟨hcompile, hbuild⟩ := hanswered (by decide +kernel)
  exact ⟨config, query, hconfig, hquery, hnames, hsemicolon, haccepted config query hquery,
    hcompile config (hlimit config hconfig), hbuild countRequest hlimit⟩

end TenantReporting
