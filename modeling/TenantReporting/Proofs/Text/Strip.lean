import Mathlib.Data.List.DropRight
import TenantReporting.Text.Blank

/-!
# Texts without the blanks around them

Trimming takes away the blanks around a text and no others, so its result can be told without it: it
is the one text that neither begins nor ends with a blank and becomes the given text by blanks
around it (`trim_both_stripped`, `IsStripped.trim_both`). A trimmed text has nothing left to trim.
-/

namespace TenantReporting.Text

/-- Trimming drops what satisfies the condition at the front and then at the end. -/
theorem trim_both_eq (p : Char → Bool) (text : List Char) :
    trimBoth p text = (text.dropWhile p).rdropWhile p := rfl

/-- Trimming leaves nothing to drop at the front. -/
theorem drop_while_trim_both (p : Char → Bool) (text : List Char) :
    (trimBoth p text).dropWhile p = trimBoth p text := by
  rw [List.dropWhile_eq_self_iff]
  intro hlength
  have hprefix : trimBoth p text <+: text.dropWhile p := List.rdropWhile_prefix p _
  have hdrop : 0 < (text.dropWhile p).length := hlength.trans_le hprefix.length_le
  have hhead := List.dropWhile_get_zero_not p text hdrop
  have hsame : (trimBoth p text)[0] = (text.dropWhile p)[0] := hprefix.getElem hlength
  simpa only [List.get_eq_getElem, hsame] using hhead

/-- Trimming leaves nothing to trim. -/
theorem trim_both_idempotent (p : Char → Bool) (text : List Char) :
    trimBoth p (trimBoth p text) = trimBoth p text := by
  rw [trim_both_eq p (trimBoth p text), drop_while_trim_both, trim_both_eq,
    List.rdropWhile_idempotent]

/-- Stripping leaves nothing to strip. -/
theorem strip_idempotent (text : String) : strip (strip text) = strip text := by
  rw [strip, strip, String.toList_ofList, trim_both_idempotent]

/-! ### Padding -/

/-- The text consists of `core` with blanks before and after it. -/
def IsPadded (core text : List Char) : Prop :=
  ∃ before after, text = before ++ (core ++ after) ∧ (∀ c ∈ before, isBlank c = true) ∧
    ∀ c ∈ after, isBlank c = true

/-- `core` is what is left of the text without the blanks around it. -/
structure IsStripped (core text : List Char) : Prop where
  padded : IsPadded core text
  front : ∀ c ∈ core.head?, isBlank c = false
  back : ∀ c ∈ core.getLast?, isBlank c = false

variable {core text : List Char}

/-- Blanks around a padded text belong to its padding. -/
theorem IsPadded.trans {wider : List Char} (h : IsPadded core text) (hwider : IsPadded text wider) :
    IsPadded core wider := by
  obtain ⟨before, after, rfl, hbefore, hafter⟩ := h
  obtain ⟨first, last, rfl, hfirst, hlast⟩ := hwider
  refine ⟨first ++ before, after ++ last, by simp only [List.append_assoc], ?_, ?_⟩
  · exact List.forall_mem_append.2 ⟨hfirst, hbefore⟩
  · exact List.forall_mem_append.2 ⟨hafter, hlast⟩

/-- Trimming takes away the blanks around a text and no others. -/
theorem trim_both_stripped (text : List Char) : IsStripped (trimBoth isBlank text) text where
  padded := by
    refine ⟨text.takeWhile isBlank, (text.dropWhile isBlank).rtakeWhile isBlank, ?_, ?_, ?_⟩
    · rw [trim_both_eq, List.rdropWhile_append_rtakeWhile, List.takeWhile_append_dropWhile]
    · exact fun c hc ↦ List.mem_takeWhile_imp hc
    · exact fun c hc ↦ List.mem_rtakeWhile_imp hc
  front := by
    intro c hc
    obtain ⟨rest, hcore⟩ := List.head?_eq_some_iff.1 hc
    have hdrop := drop_while_trim_both isBlank text
    rw [hcore, List.dropWhile_eq_self_iff] at hdrop
    simpa using hdrop
  back := by
    intro c hc
    obtain ⟨hnonempty, rfl⟩ := List.mem_getLast?_eq_getLast hc
    rw [← Bool.not_eq_true]
    exact List.rdropWhile_last_not isBlank _ hnonempty

/-- Only one text is left without the blanks around a text. -/
theorem IsStripped.trim_both (h : IsStripped core text) : trimBoth isBlank text = core := by
  obtain ⟨⟨before, after, rfl, hbefore, hafter⟩, hfront, hback⟩ := h
  have hcore : core.rdropWhile isBlank = core := by
    rw [List.rdropWhile_eq_self_iff]
    intro hnonempty hblank
    rw [hback _ (List.getLast_mem_getLast? hnonempty)] at hblank
    cases hblank
  have hend : (core ++ after).rdropWhile isBlank = core := by
    have hreverse : ∀ c ∈ after.reverse, isBlank c = true := fun c hc ↦
      hafter c (List.mem_reverse.1 hc)
    rw [List.rdropWhile, List.reverse_append, List.dropWhile_append_of_pos hreverse]
    exact hcore
  rw [trim_both_eq, List.dropWhile_append_of_pos hbefore]
  cases core with
  | nil => rw [List.nil_append, List.dropWhile_eq_nil_iff.2 hafter, List.rdropWhile_nil]
  | cons first rest =>
      have hfirst : ¬isBlank first = true := by simpa using hfront first rfl
      rw [List.cons_append, List.dropWhile_cons_of_neg hfirst, ← List.cons_append, hend]

/-- A padded text is stripped to the same text as its core. -/
theorem IsPadded.trim_both (h : IsPadded core text) :
    trimBoth isBlank text = trimBoth isBlank core := by
  have hcore := trim_both_stripped core
  exact IsStripped.trim_both ⟨hcore.padded.trans h, hcore.front, hcore.back⟩

end TenantReporting.Text
