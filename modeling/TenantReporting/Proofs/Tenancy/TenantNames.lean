import TenantReporting.Proofs.Query.DatabaseName
import TenantReporting.Proofs.Tenancy.Runs

/-!
# The names of tenants are read once and for all

A tenant's identification is accepted exactly if it is the name of a database with blanks around it,
and it then stands for this name. The name stands for itself, and two identifications stand for the
same name exactly if they differ in the blanks only. So whoever has read a name may hand it on to be
read again: acquiring a connection finds the same pool as asking for the engine
(`tenants_named_once`).
-/

namespace TenantReporting

namespace Query

/-- A text that can be the name of a database: at most 63 ASCII letters, digits, underscores and
hyphens, the first of which is a letter or an underscore, and no reserved word in any case. -/
structure IsTenantName (name : String) : Prop where
  length : 1 ≤ name.toList.length ∧ name.toList.length ≤ 63
  form : ∃ first rest, name.toList = first :: rest ∧ (first.isAlpha = true ∨ first = '_') ∧
    ∀ c ∈ rest, c.isAlphanum = true ∨ c = '_' ∨ c = '-'
  unreserved : ∀ word ∈ reservedWords,
    name.toList.map Char.toLower ≠ word.toList.map Char.toLower

/-- Two texts are the same but for the blanks around them. -/
def SameButPadding (text other : String) : Prop :=
  ∃ core, Text.IsPadded core text.toList ∧ Text.IsPadded core other.toList

/-- Reserved words are written in small letters. -/
theorem reserved_words_small : ∀ word ∈ reservedWords,
    word.toList.map Char.toLower = word.toList := by
  decide +kernel

/-- The names that are accepted are those of tenants. -/
theorem is_tenant_name_iff {name : String} :
    IsTenantName name ↔ name ≠ "" ∧ IsDatabaseName name := by
  have hreserved : String.ofList (name.toList.map Char.toLower) ∉ reservedWords ↔
      ∀ word ∈ reservedWords, name.toList.map Char.toLower ≠ word.toList.map Char.toLower := by
    constructor
    · intro hfree word hword hsame
      rw [reserved_words_small word hword] at hsame
      rw [hsame, String.ofList_toList] at hfree
      exact hfree hword
    · intro hfree hword
      refine hfree _ hword ?_
      rw [reserved_words_small _ hword, String.toList_ofList]
  rw [IsDatabaseName, hreserved]
  constructor
  · rintro ⟨⟨hnonempty, hlength⟩, ⟨first, rest, hname, hfirst, hrest⟩, hfree⟩
    refine ⟨?_, hlength, ?_, hfree⟩
    · rintro rfl
      cases hname
    · simp only [hname, isNameOver, isNameStart, isDatabaseCharacter, isNameCharacter,
        Bool.and_eq_true, Bool.or_eq_true, beq_iff_eq, List.all_eq_true, or_assoc]
      exact ⟨hfirst, hrest⟩
  · rintro ⟨hnonempty, hlength, hform, hfree⟩
    cases hname : name.toList with
    | nil => exact absurd (String.toList_eq_nil_iff.1 hname) hnonempty
    | cons first rest =>
        simp only [hname, isNameOver, isNameStart, isDatabaseCharacter, isNameCharacter,
          Bool.and_eq_true, Bool.or_eq_true, beq_iff_eq, List.all_eq_true, or_assoc] at hform
        exact ⟨⟨by simp [hname], hlength⟩, ⟨first, rest, hname, hform⟩, hfree⟩

/-- An identification stands for a name exactly if it is the name of a tenant with blanks around it.
-/
theorem database_name_iff_stripped {text name : String} :
    databaseName text = .ok name ↔
      Text.IsStripped name.toList text.toList ∧ IsTenantName name := by
  rw [database_name_eq_ok_iff, ← is_tenant_name_iff]
  have hstrip : name = Text.strip text ↔ Text.IsStripped name.toList text.toList := by
    constructor
    · rintro rfl
      rw [Text.strip, String.toList_ofList]
      exact Text.trim_both_stripped _
    · intro h
      rw [Text.strip, h.trim_both, String.ofList_toList]
  rw [hstrip]

/-- Identifications stand for the same name exactly if they differ in the blanks around it only. -/
theorem database_names_eq_iff {text other name otherName : String}
    (h : databaseName text = .ok name) (hother : databaseName other = .ok otherName) :
    otherName = name ↔ SameButPadding text other := by
  obtain ⟨hname, -⟩ := database_name_iff_stripped.1 h
  obtain ⟨hotherName, -⟩ := database_name_iff_stripped.1 hother
  constructor
  · rintro rfl
    exact ⟨otherName.toList, hname.padded, hotherName.padded⟩
  · rintro ⟨core, hcore, hotherCore⟩
    rw [← String.toList_inj, ← hname.trim_both, ← hotherName.trim_both, hcore.trim_both,
      hotherCore.trim_both]

end Query

namespace Tenancy

open Query (databaseName)

/-- A tenant is served under the name of a database: its engine is the one that is registered under
this name, whether the name has been read before or not, and acquiring a connection leaves the same
pools as asking for the engine and connects to this engine. -/
structure Registry.ServesUnder (tenants : Tenants) (tenant database : String)
    (registry : Registry) : Prop where
  engine : registry.engine tenants tenant = registry.engineOf tenants database
  engine_again : registry.engine tenants database = registry.engineOf tenants database
  acquire_again : registry.acquire tenants database = registry.acquire tenants tenant
  pools : (registry.acquire tenants tenant).2.pools = (registry.engine tenants tenant).2.pools
  connected : ∀ connection, (registry.acquire tenants tenant).1 = .ok connection →
    (registry.engine tenants tenant).1 = .ok connection.engine

/-- Whoever reads a name that has been read from an identification serves the same tenant. -/
theorem Registry.serves_under (tenants : Tenants) {tenant database : String}
    (h : databaseName tenant = .ok database) (registry : Registry) :
    registry.ServesUnder tenants tenant database where
  engine := engine_eq tenants registry h
  engine_again := engine_eq tenants registry (Query.database_name_fixed h)
  acquire_again := by
    have hagain := Query.database_name_fixed h
    unfold acquire
    simp only [h, hagain]
  pools := by
    rcases registry.acquire_cases tenants h with
      ⟨failure, middle, hopened, hresult⟩ | ⟨engine, middle, hopened,
        ⟨fault, backend, -, -, hresult⟩ | ⟨connection, backend, -, -, hresult⟩⟩
    · rw [hopened, hresult]
    · rw [hopened, hresult]
    · rw [hopened, hresult]
      rfl
  connected := by
    intro connection hconnected
    rcases registry.acquire_cases tenants h with
      ⟨failure, middle, -, hresult⟩ | ⟨engine, middle, hopened,
        ⟨fault, backend, -, -, hresult⟩ | ⟨acquired, backend, hengine, -, hresult⟩⟩
    · rw [hresult] at hconnected
      cases hconnected
    · rw [hresult] at hconnected
      cases hconnected
    · rw [hresult] at hconnected
      cases hconnected
      rw [hopened, hengine]

/-- A tenant's identification is accepted exactly if it is the name of a tenant with blanks around
it, and it stands for this name. The name then stands for itself, other identifications stand for it
exactly if they differ from the first in the blanks around it only, and in every state of the
registry acquiring a connection finds the pool that asking for the engine finds. -/
theorem tenants_named_once (text : String) :
    (∀ name, databaseName text = .ok name ↔
      Text.IsStripped name.toList text.toList ∧ Query.IsTenantName name) ∧
    ∀ name, databaseName text = .ok name →
      databaseName name = .ok name ∧
        (∀ other otherName, databaseName other = .ok otherName →
          (otherName = name ↔ Query.SameButPadding text other)) ∧
        ∀ (tenants : Tenants) (registry : Registry), registry.ServesUnder tenants text name := by
  refine ⟨fun name ↦ Query.database_name_iff_stripped, fun name hname ↦ ?_⟩
  refine ⟨Query.database_name_fixed hname, fun other otherName hother ↦ ?_, fun tenants registry ↦ ?_⟩
  · exact Query.database_names_eq_iff hname hother
  · exact registry.serves_under tenants hname

/-- A tenant that is spelled with a tabulator and a wide space is known without them, like the same
tenant between other blanks, and a connection for it takes the pool that its name has already. -/
theorem spaced_tenant_named :
    let registry := performAll {} [.engine "agency-42"] {}
    databaseName "\tagency-42\u3000" = .ok "agency-42" ∧
      databaseName "agency-42" = .ok "agency-42" ∧
      Query.SameButPadding "\tagency-42\u3000" " agency-42" ∧
      (registry.acquire {} "\tagency-42\u3000").2.pools =
        (registry.engine {} "\tagency-42\u3000").2.pools := by
  intro registry
  have hname : databaseName "\tagency-42\u3000" = .ok "agency-42" := by decide +kernel
  have hother : databaseName " agency-42" = .ok "agency-42" := by decide +kernel
  obtain ⟨-, hnamed⟩ := tenants_named_once "\tagency-42\u3000"
  obtain ⟨hfixed, hspellings, hserves⟩ := hnamed _ hname
  exact ⟨hname, hfixed, (hspellings _ _ hother).1 rfl, (hserves {} registry).pools⟩

end Tenancy

end TenantReporting
