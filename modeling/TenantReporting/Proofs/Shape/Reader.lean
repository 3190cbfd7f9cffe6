import TenantReporting.ReportConfig

/-!
# Accepted values and their parts

A value that is combined from checked parts is accepted only if each part is. So what a reader
accepts tells what the parts of the value are: in particular, a report configuration names as many
tables as its value lists (`tables_of_accepted`).
-/

namespace TenantReporting

namespace Shape

namespace Checked

variable {α β : Type}

theorem map_eq_accepted_iff {f : α → β} {checked : Checked α} {result : β} :
    checked.map f = .accepted result ↔ ∃ value, checked = .accepted value ∧ f value = result := by
  cases checked <;> simp [map]

theorem pair_eq_accepted_iff {first : Checked α} {second : Checked β} {a : α} {b : β} :
    pair first second = .accepted (a, b) ↔ first = .accepted a ∧ second = .accepted b := by
  cases first <;> cases second <;> simp [pair]

/-- A function of a checked value is accepted if the function and the value are. -/
theorem seq_eq_accepted_iff {f : Checked (α → β)} {checked : Checked α} {result : β} :
    f <*> checked = .accepted result ↔
      ∃ g value, f = .accepted g ∧ checked = .accepted value ∧ g value = result := by
  change (pair f checked).map (fun parts ↦ parts.1 parts.2) = .accepted result ↔ _
  rw [map_eq_accepted_iff]
  constructor
  · rintro ⟨⟨g, value⟩, hpair, hresult⟩
    exact ⟨g, value, (pair_eq_accepted_iff.1 hpair).1, (pair_eq_accepted_iff.1 hpair).2, hresult⟩
  · rintro ⟨g, value, hf, hvalue, hresult⟩
    exact ⟨(g, value), pair_eq_accepted_iff.2 ⟨hf, hvalue⟩, hresult⟩

/-- The image of a checked value is accepted if the value is. -/
theorem fmap_eq_accepted_iff {f : α → β} {checked : Checked α} {result : β} :
    f <$> checked = .accepted result ↔ ∃ value, checked = .accepted value ∧ f value = result := by
  change (Checked.accepted f <*> checked) = .accepted result ↔ _
  rw [seq_eq_accepted_iff]
  simp

/-- A value that stands before a further check is accepted if it is and the check succeeds. -/
theorem seq_left_eq_accepted_iff {checked : Checked α} {further : Checked β} {result : α} :
    checked <* further = .accepted result ↔
      checked = .accepted result ∧ ∃ value, further = .accepted value := by
  change (Function.const β <$> checked) <*> further = .accepted result ↔ _
  rw [seq_eq_accepted_iff]
  simp only [fmap_eq_accepted_iff]
  constructor
  · rintro ⟨_, value, ⟨_, hchecked, rfl⟩, hfurther, rfl⟩
    exact ⟨hchecked, value, hfurther⟩
  · rintro ⟨hchecked, value, hfurther⟩
    exact ⟨_, value, ⟨result, hchecked, rfl⟩, hfurther, rfl⟩

/-- As many values are accepted together as have been checked. -/
theorem length_of_all {checked : List (Checked α)} {values : List α}
    (h : all checked = .accepted values) : values.length = checked.length := by
  induction checked generalizing values with
  | nil =>
      cases h
      rfl
  | cons first rest ih =>
      obtain ⟨⟨value, others⟩, hpair, rfl⟩ := map_eq_accepted_iff.1 h
      rw [List.length_cons, List.length_cons, ih (pair_eq_accepted_iff.1 hpair).2]

end Checked

/-- A list is read item by item. -/
theorem items_of_accepted {α : Type} {item : Reader α} {path : List Step} {value : Json}
    {values : List α} (h : listOf item path value = .accepted values) :
    ∃ items, value = .list items ∧ values.length = items.length := by
  unfold listOf at h
  split at h
  next items =>
    have hlength := Checked.length_of_all h
    rw [List.length_map, List.length_zipIdx] at hlength
    exact ⟨items, rfl, hlength⟩
  · cases h

/-- A list that may be left out has as many items as its value, none if it is left out. -/
theorem Scope.length_of_optional {α : Type} {scope : Scope} {key : String} {item : Reader α}
    {values : List α} (h : scope.optional key (listOf item) [] = .accepted values) :
    values.length = (((Json.entry? scope.entries key).bind Json.items?).getD []).length := by
  unfold optional at h
  split at h
  next value hentry =>
    obtain ⟨items, rfl, hlength⟩ := items_of_accepted h
    rw [hlength, hentry]
    rfl
  next hentry =>
    cases h
    rw [hentry]
    rfl

end Shape

open Shape

/-- A configuration has as many tables as its value lists. -/
theorem tables_of_accepted {path : List Step} {entries : List (String × Json)}
    {config : ReportConfig}
    (h : ReportConfig.reader path (.object entries) = .accepted config) :
    config.tables.length = (((Json.entry? entries "tables").bind Json.items?).getD []).length := by
  unfold ReportConfig.reader object at h
  dsimp only at h
  simp only [Checked.seq_left_eq_accepted_iff, Checked.seq_eq_accepted_iff,
    Checked.fmap_eq_accepted_iff] at h
  -- One level of the pattern for each field after the tables, from the last to the first.
  obtain ⟨⟨_, _, ⟨_, _, ⟨_, _, ⟨_, _, ⟨_, _, ⟨_, _, ⟨tables, htables, rfl⟩,
    -, rfl⟩, -, rfl⟩, -, rfl⟩, -, rfl⟩, -, rfl⟩, -, rfl⟩, -⟩ := h
  exact Scope.length_of_optional htables

end TenantReporting
