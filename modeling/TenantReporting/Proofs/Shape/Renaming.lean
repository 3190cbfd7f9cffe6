import Mathlib.Data.List.Find
import TenantReporting.Proofs.Shape.Grammar
import TenantReporting.Proofs.Shape.Place

/-!
# Fields under their other name

Two fields of a report configuration have a second name. If an object has the first name and not the
second, it makes no difference which of them it uses, apart from the paths of its defects: they
start with the name that it uses (`config_reader_renamed`).
-/

namespace TenantReporting

namespace Shape

variable {α : Type} (first other : String)

/-- A key where `other` is used in the place of `first`. -/
def renamedKey (key : String) : String :=
  if key = first then other else key

/-- The entries of an object that uses `other` in the place of `first`. -/
def renamedEntries (entries : List (String × Json)) : List (String × Json) :=
  entries.map fun entry ↦ (renamedKey first other entry.1, entry.2)

/-- A step into an object that uses `other` in the place of `first`. -/
def Step.renamed : Step → Step
  | .key name => .key (renamedKey first other name)
  | .item index => .item index

/-- A defect of an object as it shows if the object uses `other` in the place of `first`: its path
starts with the other name. -/
def Defect.renamed (defect : Defect) : Defect :=
  { defect with path := defect.path.modifyHead (Step.renamed first other) }

variable {first other} {entries : List (String × Json)} {key : String}

/-- Different keys stay different if `other` is not among them. -/
theorem renamed_key_inj {name : String} (hkey : key ≠ other) (hname : name ≠ other) :
    renamedKey first other key = renamedKey first other name ↔ key = name := by
  unfold renamedKey
  grind

theorem renamed_key_of_ne (hkey : key ≠ first) : renamedKey first other key = key :=
  if_neg hkey

theorem renamed_key_first : renamedKey first other first = other :=
  if_pos rfl

/-- An object without the name has other keys only. -/
theorem key_ne_of_not_has (h : ¬ Has entries other) {entry : String × Json} (hentry : entry ∈ entries) :
    entry.1 ≠ other :=
  fun hkey ↦ h (hkey ▸ has_of_mem hentry)

/-- The value of a key is found under its other name. -/
theorem entry_renamed (h : ¬ Has entries other) (hkey : key ≠ other) :
    Json.entry? (renamedEntries first other entries) (renamedKey first other key) =
      Json.entry? entries key := by
  have hsame : ∀ entry ∈ entries,
      (renamedKey first other entry.1 == renamedKey first other key) = (entry.1 == key) := by
    intro entry hentry
    rw [Bool.eq_iff_iff, beq_iff_eq, beq_iff_eq]
    exact renamed_key_inj (key_ne_of_not_has h hentry) hkey
  rw [Json.entry?, Json.entry?, renamedEntries, List.find?_map, Option.map_map]
  exact congrArg (Option.map _) (List.find?_congr hsame)

namespace Scope

/-- A field that may be left out is read under its other name as under its first. -/
theorem optional_renamed {reader : Reader α} {absent : α} (h : ¬ Has entries other)
    (hkey : key ≠ other) (hreader : IsRelative reader) :
    Scope.optional ⟨[], renamedEntries first other entries⟩ (renamedKey first other key) reader absent =
      (Scope.optional ⟨[], entries⟩ key reader absent).mapDefects (Defect.renamed first other) := by
  unfold Scope.optional
  dsimp only
  rw [entry_renamed h hkey]
  cases Json.entry? entries key with
  | none => rfl
  | some value =>
      have hplace (name : String) : reader ([] ++ [.key name]) value =
          (reader [] value).under [.key name] :=
        hreader [.key name] [] value
      dsimp only
      rw [hplace, hplace]
      cases reader [] value with
      | accepted value => rfl
      | refused defects =>
          simp only [Checked.mapDefects, List.map_map]
          rfl

/-- The known keys under their other names leave the same keys unknown. -/
theorem only_keys_renamed {known : List String} (h : ¬ Has entries other) (hknown : other ∉ known) :
    Scope.onlyKeys ⟨[], renamedEntries first other entries⟩ (known.map (renamedKey first other)) =
      (Scope.onlyKeys ⟨[], entries⟩ known).mapDefects (Defect.renamed first other) := by
  have hsame : ∀ entry ∈ entries,
      (!(known.map (renamedKey first other)).contains (renamedKey first other entry.1)) =
        !known.contains entry.1 := by
    intro entry hentry
    refine congrArg (! ·) ?_
    rw [Bool.eq_iff_iff, List.contains_iff_mem, List.contains_iff_mem, List.mem_map]
    constructor
    · rintro ⟨name, hname, hkey⟩
      have hne : name ≠ other := fun hother ↦ hknown (hother ▸ hname)
      exact (renamed_key_inj hne (key_ne_of_not_has h hentry)).1 hkey ▸ hname
    · exact fun hmem ↦ ⟨entry.1, hmem, rfl⟩
  have hunknown : (renamedEntries first other entries).filter
        (fun entry ↦ !(known.map (renamedKey first other)).contains entry.1) =
      renamedEntries first other (entries.filter fun entry ↦ !known.contains entry.1) := by
    rw [renamedEntries, renamedEntries, List.filter_map]
    exact congrArg _ (List.filter_congr hsame)
  unfold Scope.onlyKeys
  dsimp only
  rw [hunknown]
  cases entries.filter fun entry ↦ !known.contains entry.1 with
  | nil => rfl
  | cons entry rest =>
      simp only [renamedEntries, Checked.mapDefects, List.map_cons, List.map_map]
      rfl

variable {field second : String}

/-- The field with the two names goes by the other one. -/
theorem name_of_renamed (hne : first ≠ other) (hfirst : Has entries first)
    (h : ¬ Has entries other) :
    Scope.nameOf ⟨[], entries⟩ first other = first ∧
      Scope.nameOf ⟨[], renamedEntries first other entries⟩ first other = other := by
  obtain ⟨value, hvalue⟩ := hfirst
  have hother : Json.entry? (renamedEntries first other entries) other = some value := by
    rw [← hvalue, ← entry_renamed h hne, renamed_key_first]
  have hgone : Json.entry? (renamedEntries first other entries) first = none := by
    rw [Json.entry?, Option.map_eq_none_iff, List.find?_eq_none, renamedEntries]
    intro entry hentry hkey
    obtain ⟨before, -, rfl⟩ := List.mem_map.1 hentry
    have : renamedKey first other before.1 = first := eq_of_beq hkey
    grind [renamedKey]
  constructor
  · simp [Scope.nameOf, hvalue]
  · simp [Scope.nameOf, hother, hgone]

/-- A field with other names goes by the same name. -/
theorem name_of_kept (h : ¬ Has entries other) (hfield : field ∉ [first, other])
    (hsecond : second ∉ [first, other]) :
    Scope.nameOf ⟨[], renamedEntries first other entries⟩ field second =
      Scope.nameOf ⟨[], entries⟩ field second := by
  have hentry {name : String} (hname : name ∉ [first, other]) :
      Json.entry? (renamedEntries first other entries) name = Json.entry? entries name := by
    simp only [List.mem_cons, List.not_mem_nil, or_false, not_or] at hname
    rw [← entry_renamed h hname.2, renamed_key_of_ne hname.1]
  unfold Scope.nameOf
  dsimp only
  rw [hentry hfield, hentry hsecond]

end Scope

end Shape

open Shape

/-- The fields of a report configuration that have a second name, with both names. -/
def ReportConfig.secondNames : List (String × String) :=
  [("groupBy", "group_by"), ("orderBy", "order_by")]

variable {first other : String} {entries : List (String × Json)}

/-- The two fields with a second name go by renamed keys: the one that is renamed by its second
name, and the other one by the same name as before. -/
theorem second_names_renamed (hnames : (first, other) ∈ ReportConfig.secondNames)
    (hfirst : Has entries first) (h : ¬ Has entries other) {names : String × String}
    (hfield : names ∈ ReportConfig.secondNames) :
    Scope.nameOf ⟨[], renamedEntries first other entries⟩ names.1 names.2 =
        renamedKey first other (Scope.nameOf ⟨[], entries⟩ names.1 names.2) ∧
      Scope.nameOf ⟨[], entries⟩ names.1 names.2 ≠ other := by
  by_cases hsame : names = (first, other)
  · subst hsame
    have hne : first ≠ other := by
      revert hnames
      simp only [ReportConfig.secondNames]
      grind
    obtain ⟨hbefore, hafter⟩ := Scope.name_of_renamed hne hfirst h
    rw [hbefore, hafter, renamed_key_first]
    exact ⟨rfl, hne⟩
  · have hapart : names.1 ∉ [first, other] ∧ names.2 ∉ [first, other] := by
      simp only [ReportConfig.secondNames] at hnames hfield
      grind
    have hname : Scope.nameOf ⟨[], entries⟩ names.1 names.2 ∉ [first, other] := by
      unfold Scope.nameOf
      split
      · exact hapart.2
      · exact hapart.1
    simp only [List.mem_cons, List.not_mem_nil, or_false, not_or] at hname
    rw [Scope.name_of_kept h hapart.1 hapart.2, renamed_key_of_ne hname.1]
    exact ⟨rfl, hname.2⟩

/-- A report configuration that uses the second name of a field in the place of the first is
accepted as the same configuration, or refused for the same defects under the second name. -/
theorem config_reader_renamed (hnames : (first, other) ∈ ReportConfig.secondNames)
    (hfirst : Has entries first) (h : ¬ Has entries other) :
    ReportConfig.reader [] (.object (renamedEntries first other entries)) =
      (ReportConfig.reader [] (.object entries)).mapDefects (Defect.renamed first other) := by
  have hkept : ∀ key ∈ ["tables", "columns", "joins", "filters", "limit"],
      renamedKey first other key = key ∧ key ≠ other := by
    intro key hkey
    simp only [ReportConfig.secondNames] at hnames
    grind [renamedKey]
  have hfield {α : Type} {reader : Reader α} {absent : α} {key : String}
      (hkey : key ∈ ["tables", "columns", "joins", "filters", "limit"])
      (hreader : IsRelative reader) :
      Scope.optional ⟨[], renamedEntries first other entries⟩ key reader absent =
        (Scope.optional ⟨[], entries⟩ key reader absent).mapDefects
          (Defect.renamed first other) := by
    obtain ⟨hsame, hne⟩ := hkept key hkey
    rw [← Scope.optional_renamed h hne hreader, hsame]
  obtain ⟨hgroups, hgroups_ne⟩ := second_names_renamed hnames hfirst h
    (by decide : ("groupBy", "group_by") ∈ ReportConfig.secondNames)
  obtain ⟨horder, horder_ne⟩ := second_names_renamed hnames hfirst h
    (by decide : ("orderBy", "order_by") ∈ ReportConfig.secondNames)
  unfold ReportConfig.reader object
  dsimp only at hgroups hgroups_ne horder horder_ne ⊢
  generalize Scope.nameOf ⟨[], entries⟩ "groupBy" "group_by" = groups at hgroups hgroups_ne ⊢
  generalize Scope.nameOf ⟨[], entries⟩ "orderBy" "order_by" = order at horder horder_ne ⊢
  have hknown : ["tables", "columns", "joins", "filters", renamedKey first other groups,
        renamedKey first other order, "limit"] =
      ["tables", "columns", "joins", "filters", groups, order, "limit"].map
        (renamedKey first other) := by
    simp [hkept]
  have hother : other ∉ ["tables", "columns", "joins", "filters", groups, order, "limit"] := by
    grind
  rw [hgroups, horder, hknown, Scope.only_keys_renamed h hother]
  simp only [Checked.seq_left_map_defects, Checked.seq_map_defects, Checked.fmap_map_defects]
  rw [Scope.optional_renamed h hgroups_ne (by simp), Scope.optional_renamed h horder_ne (by simp),
    hfield (by decide) (by simp), hfield (by decide) (by simp), hfield (by decide) (by simp),
    hfield (by decide) (by simp), hfield (by decide) (by simp)]

end TenantReporting
