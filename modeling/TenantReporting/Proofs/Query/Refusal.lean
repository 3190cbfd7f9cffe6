import TenantReporting.Proofs.Query.SingleStatement

/-!
# How compilation ends

A configuration that is not compiled is refused, as far as the bounds on query text and its limit
let it (`compile_ends`). In particular the check of the assembled text does not fail, because the
query of a configuration has only identifiers as names.
-/

namespace TenantReporting

namespace Query

/-! ### Compilation -/

/-- The last check of a query passes if its names are identifiers. Only the bounds can stop it. -/
theorem check_single_select_ends {query : Query Json} (hnames : query.WellNamed) (rules : Rules)
    (limit : Json) :
    Outcome.Ends (Foreseen rules limit) (fun _ ↦ True)
      (checkSingleSelect rules.bounds query.text) := by
  cases houtlines : Sql.outlines rules.bounds query.text with
  | error reason =>
      rw [checkSingleSelect, houtlines]
      refine .excess fun hbounds ↦ ?_
      obtain ⟨found, hfound⟩ := Sql.outlines_unbounded query.text
      rw [hbounds, hfound] at houtlines
      cases houtlines
  | ok found =>
      rw [check_single_select_passes hnames houtlines]
      trivial

theorem assemble_ends {query : Query Json} (hnames : query.WellNamed) (rules : Rules)
    (limit : Json) :
    Outcome.Ends (Foreseen rules limit) (fun _ ↦ True) (assemble rules.bounds query) :=
  (check_single_select_ends hnames rules limit).bind fun _ _ ↦ trivial

/-- A configuration is compiled or refused, as far as the bounds and its limit let it. -/
theorem compile_ends (rules : Rules) (config : ReportConfig) :
    Outcome.Ends (Foreseen rules config.limit) (fun _ ↦ True) (compile rules config) :=
  (of_config_ends rules config).bind fun _ hnames ↦ assemble_ends hnames rules config.limit

/-- A value that does not describe a configuration is refused. -/
theorem config_of_ends (value : Json) :
    Outcome.Ends (fun failure ↦ ∃ error, ReportError.IsRefusal error ∧ failure = .report error)
      (fun _ ↦ True) (configOf value) := by
  unfold configOf
  split
  next entries =>
    cases (ReportConfig.reader [] (.object entries)).toExcept with
    | error defects => exact ⟨.malformed defects, Or.inl rfl, rfl⟩
    | ok config => trivial
  next => exact ⟨.notAnObject, Or.inl rfl, rfl⟩

/-- A value is refused or built as the configuration that it describes is compiled. -/
theorem build_cases (rules : Rules) (value : Json) :
    (∃ error, ReportError.IsRefusal error ∧ build rules value = .error (.report error)) ∨
      ∃ config, configOf value = .ok config ∧ build rules value = compile rules config := by
  have hends := config_of_ends value
  rw [build]
  cases hconfig : configOf value with
  | error failure =>
      rw [hconfig] at hends
      obtain ⟨error, herror, rfl⟩ := hends
      exact Or.inl ⟨error, herror, rfl⟩
  | ok config => exact Or.inr ⟨config, rfl, rfl⟩

end Query

end TenantReporting
