import TenantReporting.Proofs.Query.Values

/-!
# Lenient and strict rules

Under lenient rules an operator that nobody knows stands for equality, under strict rules it is
refused. So a configuration is compiled leniently as it is compiled strictly once its unknown
operators have been replaced by the sign of equality, and if it is not refused for an operator under
strict rules, then both rules agree on it (`leniency_downgrades`). The two runs are followed
together through compilation in `of_config_same`, of which both facts are cases.
-/

namespace TenantReporting

open Query

/-- The text names an operator: without needless blanks and in capitals it is the word for one. -/
def Query.NamesOperator (text : String) : Prop :=
  ∃ operator ∈ Operator.all, operator.words = Text.capitals (Text.collapse text)

instance (text : String) : Decidable (Query.NamesOperator text) :=
  inferInstanceAs (Decidable (∃ operator ∈ Operator.all, _))

/-- The filter with the sign of equality for an operator that nobody knows. -/
def FilterSpec.downgraded (spec : FilterSpec) : FilterSpec :=
  { spec with operator := spec.operator.map fun text ↦ if NamesOperator text then text else "=" }

/-- The configuration with the sign of equality for every operator that nobody knows. -/
def ReportConfig.downgraded (config : ReportConfig) : ReportConfig :=
  { config with filters := config.filters.map FilterSpec.downgraded }

namespace Query

/-- The rules with unknown operators refused. -/
def Rules.strict (rules : Rules) : Rules :=
  { rules with strictOperators := true }

/-- The rules with unknown operators standing for equality. -/
def Rules.lenient (rules : Rules) : Rules :=
  { rules with strictOperators := false }

/-- The failure says that an operator is not valid. -/
def IsInvalidOperator (failure : Failure) : Prop :=
  ∃ error : ReportError, error.kind = .invalidOperator ∧ failure = .report error

/-! ### Operators -/

/-- A text is recognised exactly if it names an operator. -/
theorem of_text_eq_none_iff {text : String} :
    Operator.ofText? text = none ↔ ¬NamesOperator text := by
  simp [Operator.ofText?, NamesOperator]

theorem of_text_equal : Operator.ofText? "=" = some (.compare .equal) := by
  decide +kernel

variable (rules : Rules)

/-- An operator is lenient as it is strict after downgrading. -/
theorem operator_downgraded (text? : Option String) :
    operator rules.strict (text?.map fun text ↦ if NamesOperator text then text else "=") =
      operator rules.lenient text? := by
  cases text? with
  | none => rfl
  | some text =>
      rw [Option.map_some]
      by_cases hknown : NamesOperator text
      · rw [if_pos hknown]
        cases hread : Operator.ofText? text with
        | none => exact absurd hknown (of_text_eq_none_iff.1 hread)
        | some operator => simp only [Query.operator, hread]
      · have hread := of_text_eq_none_iff.2 hknown
        rw [if_neg hknown]
        simp only [operator, hread, of_text_equal]
        rfl

/-- An operator means the same under both rules unless it is refused. -/
theorem operator_same (text? : Option String) :
    Outcome.SameUnless IsInvalidOperator (operator rules.strict text?)
      (operator rules.lenient text?) := by
  cases text? with
  | none => exact .same _
  | some text =>
      cases hread : Operator.ofText? text with
      | none =>
          simp only [operator, hread]
          exact .excepted ⟨.operator text, rfl, rfl⟩ _
      | some operator =>
          simp only [Query.operator, hread]
          exact .same _

/-! ### Filters -/

/-- A filter is lenient as it is strict after downgrading. -/
theorem filter_downgraded (spec : FilterSpec) :
    filter? rules.strict spec.downgraded = filter? rules.lenient spec := by
  unfold filter?
  rw [FilterSpec.downgraded, operator_downgraded]

/-- A filter means the same under both rules unless its operator is refused. -/
theorem filter_same (spec : FilterSpec) :
    Outcome.SameUnless IsInvalidOperator (filter? rules.strict spec) (filter? rules.lenient spec) := by
  unfold filter?
  refine Outcome.SameUnless.bind (.same _) fun column ↦ ?_
  exact (operator_same rules spec.operator).bind fun operator ↦ .same _

/-- All filters are lenient as they are strict after downgrading. -/
theorem filters_downgraded (filters : List FilterSpec) :
    (filters.map FilterSpec.downgraded).mapM (filter? rules.strict) =
      filters.mapM (filter? rules.lenient) := by
  rw [List.mapM_map]
  exact congrArg filters.mapM (funext (filter_downgraded rules))

/-! ### Configurations -/

section Configurations

variable {excepted : Failure → Prop} {config other : ReportConfig}

/-- What remains to be compiled after the joins ends in the same way if the filters do. -/
theorem rest_same (hrest : other = { config with filters := other.filters })
    (h : Outcome.SameUnless excepted (config.filters.mapM (filter? rules.strict))
      (other.filters.mapM (filter? rules.lenient)))
    (selection : List SelectItem) (source : String) (joins : List Join) :
    Outcome.SameUnless excepted (restOf rules.strict config selection source joins)
      (restOf rules.lenient other selection source joins) := by
  unfold restOf
  refine h.bind fun filters ↦ ?_
  rw [hrest]
  exact .same _

/-- Configurations that differ in their filters only end in the same way, one under strict and the
other under lenient rules, if their filters do. -/
theorem of_config_same (hrest : other = { config with filters := other.filters })
    (h : Outcome.SameUnless excepted (config.filters.mapM (filter? rules.strict))
      (other.filters.mapM (filter? rules.lenient))) :
    Outcome.SameUnless excepted (ofConfig rules.strict config) (ofConfig rules.lenient other) := by
  have htables : other.tables = config.tables := by rw [hrest]
  have hcolumns : other.columns = config.columns := by rw [hrest]
  have hjoins : other.joins = config.joins := by rw [hrest]
  rw [ofConfig, ofConfig, htables, hcolumns, hjoins]
  split
  · exact .same _
  · dsimp only
    split
    · exact .same (.error (Failure.report .noColumns))
    · refine Outcome.SameUnless.bind (.same _) fun source ↦ ?_
      refine Outcome.SameUnless.bind (.same _) fun others ↦ ?_
      refine Outcome.SameUnless.bind (.same _) fun selection ↦ ?_
      split
      · exact rest_same rules hrest h selection source []
      · refine Outcome.SameUnless.bind (.same _) fun joins ↦ ?_
        exact rest_same rules hrest h selection source joins

end Configurations

/-- The query of a configuration under lenient rules is that of the downgraded one under strict
rules. -/
theorem of_config_downgraded (config : ReportConfig) :
    ofConfig rules.lenient config = ofConfig rules.strict config.downgraded := by
  have hfilters : Outcome.SameUnless (fun _ ↦ False)
      (config.downgraded.filters.mapM (filter? rules.strict))
      (config.filters.mapM (filter? rules.lenient)) := by
    rw [ReportConfig.downgraded, filters_downgraded]
    exact .same _
  exact ((of_config_same rules rfl hfilters).eq fun _ hnone ↦ hnone.elim).symm

/-- Unless an operator is refused, a configuration is compiled in the same way under both rules. -/
theorem compile_same (config : ReportConfig) :
    Outcome.SameUnless IsInvalidOperator (compile rules.strict config)
      (compile rules.lenient config) := by
  have hfilters := Outcome.SameUnless.mapM (filter_same rules) config.filters
  exact (of_config_same rules rfl hfilters).bind fun query ↦ .same _

end Query

/-- Under lenient rules a configuration is compiled, or refused, as it is under strict rules once
every operator that nobody knows has been replaced by the sign of equality. If it is not refused for
an operator under strict rules, it is compiled or refused in the same way under lenient ones. Both
hold of a JSON value that describes the configuration as well. -/
theorem leniency_downgrades (rules : Rules) (config : ReportConfig) :
    compile rules.lenient config = compile rules.strict config.downgraded ∧
    ((∀ failure, IsInvalidOperator failure → compile rules.strict config ≠ .error failure) →
      compile rules.lenient config = compile rules.strict config) ∧
    ∀ value, configOf value = .ok config →
      build rules.lenient value = compile rules.strict config.downgraded ∧
        ((∀ failure, IsInvalidOperator failure → build rules.strict value ≠ .error failure) →
          build rules.lenient value = build rules.strict value) := by
  have hdowngraded : compile rules.lenient config = compile rules.strict config.downgraded := by
    rw [compile, compile, of_config_downgraded]
    rfl
  have hsame : (∀ failure, IsInvalidOperator failure →
      compile rules.strict config ≠ .error failure) →
      compile rules.lenient config = compile rules.strict config :=
    fun hvalid ↦ ((compile_same rules config).eq hvalid).symm
  refine ⟨hdowngraded, hsame, fun value hvalue ↦ ?_⟩
  rw [build_eq hvalue, build_eq hvalue]
  exact ⟨hdowngraded, hsame⟩

/-- A report that filters by a column with an invalid name before it comes to an operator that
nobody knows. -/
def misnamedReport : ReportConfig :=
  { filteredReport with
    filters := [⟨"users", "1st", none, .null⟩, ⟨"users", "age", some "about", .integer 7⟩] }

/-- A report that filters by an operator that nobody knows, next to one that is merely written in an
unusual way. -/
def approximateReport : ReportConfig :=
  { filteredReport with
    filters := [⟨"users", "age", some "about", .integer 7⟩, ⟨"users", "gone", some " is\tNot ", .null⟩] }

/-- An unknown operator is downgraded and an unusual one is not. An unknown operator that comes
after an invalid name makes no difference. -/
theorem approximate_report_downgraded :
    approximateReport.downgraded.filters =
        [⟨"users", "age", some "=", .integer 7⟩, ⟨"users", "gone", some " is\tNot ", .null⟩] ∧
      compile (Rules.lenient {}) approximateReport =
        compile (Rules.strict {}) approximateReport.downgraded ∧
      compile (Rules.lenient {}) misnamedReport = compile (Rules.strict {}) misnamedReport := by
  have hunknown : ¬NamesOperator "about" := by decide +kernel
  have hknown : NamesOperator " is\tNot " := by decide +kernel
  have hrefused : compile (Rules.strict {}) misnamedReport =
      .error (.report (.name "column" (.malformed "1st"))) := rfl
  obtain ⟨hdowngraded, -⟩ := leniency_downgrades {} approximateReport
  obtain ⟨-, hsame, -⟩ := leniency_downgrades {} misnamedReport
  refine ⟨?_, hdowngraded, hsame ?_⟩
  · simp only [ReportConfig.downgraded, approximateReport, List.map_cons, List.map_nil,
      FilterSpec.downgraded, Option.map_some, if_pos hknown, if_neg hunknown]
  · rintro failure ⟨error, hkind, rfl⟩ hfailed
    rw [hrefused] at hfailed
    cases hfailed
    cases hkind

end TenantReporting
