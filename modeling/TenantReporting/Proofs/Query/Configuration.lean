import TenantReporting.Proofs.Query.Values
import TenantReporting.Proofs.Shape.Conformance
import TenantReporting.Proofs.Shape.Renaming

/-!
# The shape check of configurations

What is handed over as a report configuration is first checked against the grammar of
configurations: a value that the grammar accepts is compiled, and any other value is refused for all
its defects (`build_follows_grammar`).
-/

namespace TenantReporting

open Query Shape

variable {value : Json}

/-- A value is read as a configuration exactly if the grammar accepts it. -/
theorem config_accepted_iff :
    (∃ config, ReportConfig.reader [] value = .accepted config) ↔
      ReportConfig.grammar.Accepts value :=
  (config_reader_follows [] value).accepted_iff.trans
    (ReportConfig.grammar.accepts_iff [] value).symm

/-- A value that the grammar does not accept has defects, for which it is refused. -/
theorem config_refused (h : ¬ ReportConfig.grammar.Accepts value) :
    ReportConfig.grammar.defects [] value ≠ [] ∧
      ReportConfig.reader [] value = .refused (ReportConfig.grammar.defects [] value) := by
  have hdefects : ReportConfig.grammar.defects [] value ≠ [] :=
    fun hnone ↦ h ((ReportConfig.grammar.accepts_iff [] value).2 hnone)
  exact ⟨hdefects, (config_reader_follows [] value).eq_refused hdefects⟩

/-- What the reader accepts is the configuration that is compiled. -/
theorem config_of_accepted {config : ReportConfig}
    (h : ReportConfig.reader [] value = .accepted config) :
    configOf value = .ok config := by
  cases value with
  | object entries =>
      rw [configOf, h]
      rfl
  | _ => cases h

/-- A JSON value is checked before anything else: what is no object is refused as such, what the
grammar of configurations accepts is compiled, and any other object is refused for a list of
defects that is never empty and is the one that the grammar gives. Where a field has a second name,
an object with this name in the place of the first is accepted as the same configuration, or
refused for the same defects at paths that start with the second name. -/
theorem build_follows_grammar (rules : Rules) (value : Json) :
    ((∃ config, ReportConfig.reader [] value = .accepted config) ↔
      ReportConfig.grammar.Accepts value) ∧
    (∀ config, ReportConfig.reader [] value = .accepted config →
      build rules value = compile rules config) ∧
    ((∀ entries, value ≠ .object entries) →
      build rules value = .error (.report .notAnObject) ∧
        ReportError.notAnObject.kind = .configuration) ∧
    ∀ entries, value = .object entries →
      (¬ ReportConfig.grammar.Accepts value → ∃ defects, defects ≠ [] ∧
        ReportConfig.grammar.defects [] value = defects ∧
        build rules value = .error (.report (.malformed defects)) ∧
        (ReportError.malformed defects).kind = .configuration) ∧
      ∀ first other, (first, other) ∈ ReportConfig.secondNames →
        Has entries first → ¬ Has entries other →
        ReportConfig.reader [] (.object (renamedEntries first other entries)) =
          (ReportConfig.reader [] value).mapDefects (Defect.renamed first other) := by
  refine ⟨config_accepted_iff, fun config h ↦ build_eq (config_of_accepted h), fun h ↦ ?_, ?_⟩
  · cases value with
    | object entries => exact absurd rfl (h entries)
    | _ => exact ⟨rfl, rfl⟩
  · rintro entries rfl
    refine ⟨fun h ↦ ?_, fun first other hnames hfirst hother ↦
      config_reader_renamed hnames hfirst hother⟩
    obtain ⟨hdefects, hrefused⟩ := config_refused h
    refine ⟨_, hdefects, rfl, ?_, rfl⟩
    rw [build, configOf, hrefused]
    rfl

/-- An object that is no configuration for several reasons, with its grouping under a given name. -/
def misshapenRequest (groups : String) : List (String × Json) :=
  [("surprise", .null),
   ("orderBy", .list [.text "id", .object [("direction", .text "asc"), ("column", .null)]]),
   (groups, .list [.text "id", .integer 2]),
   ("filters", .list [.object [("table", .text "users"), ("column", .text "id")]])]

/-- The object is refused for the missing value of a filter, the group that is no text, the order
that is neither text nor has a column, and the unknown key, in the order of the fields. -/
theorem misshapen_request_refused :
    let filter : Json := .object [("table", .text "users"), ("column", .text "id")]
    let order : Json := .object [("direction", .text "asc"), ("column", .null)]
    let defects (groups : String) : List Defect := [
      ⟨.missing, [.key "filters", .item 0, .key "value"], filter⟩,
      ⟨.notText, [.key groups, .item 1], .integer 2⟩,
      ⟨.notText, [.key "orderBy", .item 1, .key "str"], order⟩,
      ⟨.notText, [.key "orderBy", .item 1, .key "OrderBySpec", .key "column"], .null⟩,
      ⟨.unknownKey, [.key "surprise"], .null⟩]
    build {} (.object (misshapenRequest "groupBy")) =
        .error (.report (.malformed (defects "groupBy"))) ∧
      ReportConfig.reader [] (.object (misshapenRequest "group_by")) =
        .refused (defects "group_by") ∧
      build {} .null = .error (.report .notAnObject) := by
  intro filter order defects
  have hdefects : ReportConfig.grammar.defects [] (.object (misshapenRequest "groupBy")) =
      defects "groupBy" := rfl
  have hrefused : ¬ ReportConfig.grammar.Accepts (.object (misshapenRequest "groupBy")) := by
    rw [ReportConfig.grammar.accepts_iff [], hdefects]
    exact List.cons_ne_nil _ _
  have hfirst : Has (misshapenRequest "groupBy") "groupBy" :=
    ⟨.list [.text "id", .integer 2], rfl⟩
  have hother : ¬ Has (misshapenRequest "groupBy") "group_by" := by
    rintro ⟨value, hvalue⟩
    cases (rfl : Json.entry? (misshapenRequest "groupBy") "group_by" = none).symm.trans hvalue
  obtain ⟨-, -, -, hobject⟩ := build_follows_grammar {} (.object (misshapenRequest "groupBy"))
  obtain ⟨hmalformed, hrenamed⟩ := hobject _ rfl
  obtain ⟨_, -, rfl, hbuild, -⟩ := hmalformed hrefused
  obtain ⟨-, -, hnull, -⟩ := build_follows_grammar {} .null
  refine ⟨hdefects ▸ hbuild, ?_, (hnull fun _ h ↦ by cases h).1⟩
  exact (hrenamed "groupBy" "group_by" (by decide) hfirst hother).trans rfl

end TenantReporting
