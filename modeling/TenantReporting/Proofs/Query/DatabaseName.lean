import TenantReporting.Proofs.Text.Strip
import TenantReporting.Query.DatabaseName

/-!
# Database names are read once and for all

Reading a tenant's identification strips the blanks around it, and a stripped text has none left.
So the database that an identification stands for stands for itself (`database_name_fixed`), and it
makes no difference how often a name is read before it is used.
-/

namespace TenantReporting.Query

/-- The database that a tenant stands for is the tenant's identification without blanks around it,
and it is a name that a database can have. -/
theorem database_name_eq_ok_iff {tenant database : String} :
    databaseName tenant = .ok database ↔
      database = Text.strip tenant ∧ database ≠ "" ∧ IsDatabaseName database := by
  unfold databaseName IsDatabaseName
  dsimp only
  generalize Text.strip tenant = name
  by_cases hempty : name = ""
  · simp only [hempty, if_true]
    constructor
    · intro h
      cases h
    · rintro ⟨rfl, hne, _⟩
      exact absurd rfl hne
  by_cases hlong : maxNameLength < name.toList.length
  · simp only [hempty, hlong, if_false, if_true]
    constructor
    · intro h
      cases h
    · rintro ⟨rfl, _, hshort, _⟩
      omega
  by_cases hform : isNameOver isDatabaseCharacter name.toList = true
  · by_cases hword : String.ofList (name.toList.map Char.toLower) ∈ reservedWords
    · simp only [hempty, hlong, hform, hword, if_false, if_true, Bool.not_true, Bool.false_eq_true]
      constructor
      · intro h
        cases h
      · rintro ⟨rfl, _, _, _, hfree⟩
        exact absurd hword hfree
    · simp only [hempty, hlong, hform, hword, if_false, Bool.not_true, Bool.false_eq_true,
        Except.ok.injEq]
      constructor
      · rintro rfl
        exact ⟨rfl, hempty, Nat.not_lt.1 hlong, hform, hword⟩
      · rintro ⟨rfl, _⟩
        rfl
  · rw [Bool.not_eq_true] at hform
    simp only [hempty, hlong, hform, if_false, if_true, Bool.not_false]
    constructor
    · intro h
      cases h
    · rintro ⟨rfl, _, _, htrue, _⟩
      rw [hform] at htrue
      exact absurd htrue Bool.false_ne_true

/-- The database that a tenant stands for stands for itself. -/
theorem database_name_fixed {tenant database : String} (h : databaseName tenant = .ok database) :
    databaseName database = .ok database := by
  rw [database_name_eq_ok_iff] at h ⊢
  obtain ⟨rfl, hne, hname⟩ := h
  exact ⟨(Text.strip_idempotent tenant).symm, hne, hname⟩

end TenantReporting.Query
