import TenantReporting.Numeral
import TenantReporting.Proofs.Text.Run
import TenantReporting.Proofs.Text.Strip

/-!
# Numerals as text

ASCII digits between blanks are a numeral if the blanks are those that may surround numerals and the
digits are not too many. What the reader of numerals makes of any spaced digits is told by
`integer_of_spaced`. An integer is written unless its decimal form has too many digits
(`is_writable_iff`).
-/

namespace TenantReporting.Numeral

open Text (isBlank isNumeralBlank isInformationSeparator)

/-! ### Spaced digits -/

/-- The text consists of ASCII digits with blanks before and after them. -/
structure IsSpaced (text before digits after : List Char) : Prop where
  text_eq : text = before ++ (digits ++ after)
  before_blank : ∀ c ∈ before, isBlank c = true
  digits_nonempty : digits ≠ []
  all_digits : ∀ c ∈ digits, c.isDigit = true
  after_blank : ∀ c ∈ after, isBlank c = true

/-- An ASCII digit is a decimal digit, and its value is its distance from zero. -/
theorem decimal_digit_of_is_digit {c : Char} (h : c.isDigit = true) :
    Text.decimalDigit? c = some (c.toNat - '0'.toNat) := by
  have hbounds : 48 ≤ c.toNat ∧ c.toNat ≤ 57 := Char.isDigit_iff_toNat.1 h
  have hzero : (decide (0x30 ≤ c.toNat) && decide (c.toNat < 0x30 + 10)) = true := by
    simp only [Bool.and_eq_true, decide_eq_true_eq]
    omega
  unfold Text.decimalDigit? Text.digitZeros
  rw [List.find?_cons_of_pos (by exact hzero)]
  rfl

theorem not_blank_of_is_digit {c : Char} (h : c.isDigit = true) : isBlank c = false := by
  have hbounds : 48 ≤ c.toNat ∧ c.toNat ≤ 57 := Char.isDigit_iff_toNat.1 h
  simp only [isBlank, isNumeralBlank, isInformationSeparator]
  grind

/-- The digits of every script lie between blanks. -/
theorem digit_zeros_apart : ∀ start ∈ Text.digitZeros,
    (0x21 ≤ start ∧ start + 10 ≤ 0x85) ∨ (0xA1 ≤ start ∧ start + 10 ≤ 0x1680) ∨
      (0x1681 ≤ start ∧ start + 10 ≤ 0x2000) ∨ 0x3001 ≤ start := by
  decide

/-- A blank is not part of a numeral. -/
theorem not_numeral_of_blank {c : Char} (h : isBlank c = true) :
    isDigitOrUnderscore c = false ∧ c ≠ '-' ∧ c ≠ '+' := by
  have hcode : c.toNat ≤ 0x20 ∨ c.toNat = 0x85 ∨ c.toNat = 0xA0 ∨ c.toNat = 0x1680 ∨
      (0x2000 ≤ c.toNat ∧ c.toNat ≤ 0x3000) := by
    simp only [isBlank, isNumeralBlank, isInformationSeparator] at h
    grind
  have hnone : Text.decimalDigit? c = none := by
    rw [Text.decimalDigit?, Option.map_eq_none_iff, List.find?_eq_none]
    intro start hstart
    have hapart := digit_zeros_apart start hstart
    simp only [Bool.and_eq_true, decide_eq_true_eq, not_and]
    omega
  refine ⟨?_, ?_, ?_⟩
  · have hunderscore : c ≠ '_' := by
      rintro rfl
      cases h
    simp [isDigitOrUnderscore, hnone, hunderscore]
  · rintro rfl
    cases h
  · rintro rfl
    cases h

/-- Without the blanks around them spaced digits are the digits. -/
theorem IsSpaced.trimmed {text before digits after : List Char}
    (h : IsSpaced text before digits after) : Text.trimBoth isBlank text = digits := by
  have hdigits : ∀ c ∈ digits, isBlank c = false := fun c hc ↦
    not_blank_of_is_digit (h.all_digits c hc)
  have hstripped : Text.IsStripped digits text := {
    padded := ⟨before, after, h.text_eq, h.before_blank, h.after_blank⟩
    front := fun c hc ↦ hdigits c (List.mem_of_mem_head? hc)
    back := fun c hc ↦ hdigits c (List.mem_of_mem_getLast? hc) }
  exact hstripped.trim_both

/-! ### Reading the digits -/

/-- Digits stand for the same number by their values as by their characters. -/
theorem nat_of_digits_eq (digits : List Char) :
    natOfDigits (digits.map fun c ↦ c.toNat - '0'.toNat) = Nat.ofDigitChars 10 digits 0 := by
  rw [natOfDigits, List.foldl_map]
  rfl

/-- Digits without underscores are grouped well. -/
theorem groups_digits_of_all {digits : List Char} (h : ∀ c ∈ digits, c.isDigit = true) :
    groupsDigits digits = true := by
  have hapart : '_' ∉ digits := fun hmem ↦ Bool.noConfusion (h '_' hmem)
  have hhead : digits.head? ≠ some '_' := fun heq ↦ hapart (List.mem_of_head? heq)
  have hlast : digits.getLast? ≠ some '_' := fun heq ↦ hapart (List.mem_of_getLast? heq)
  have hpairs : ∀ pair ∈ digits.zip (digits.drop 1), pair.1 ≠ '_' := by
    rintro ⟨first, second⟩ hpair rfl
    exact hapart (List.of_mem_zip hpair).1
  simp only [groupsDigits, Bool.and_eq_true, bne_iff_ne, List.all_eq_true]
  refine ⟨⟨hhead, hlast⟩, fun pair hpair ↦ ?_⟩
  simp [hpairs pair hpair]

/-- A text that begins with neither sign has no sign. -/
theorem split_sign_unsigned {c : Char} (hminus : c ≠ '-') (hplus : c ≠ '+') (rest : List Char) :
    splitSign (c :: rest) = (false, c :: rest) := by
  unfold splitSign
  split
  next heq => exact absurd (List.cons.inj heq).1 hminus
  next heq => exact absurd (List.cons.inj heq).1 hplus
  next => rfl

/-- The run of digits at the front of a text ends before blanks. -/
theorem digit_run {digits after : List Char} (hdigits : ∀ c ∈ digits, c.isDigit = true)
    (hafter : ∀ c ∈ after, isBlank c = true) :
    (digits ++ after).takeWhile isDigitOrUnderscore = digits ∧
      (digits ++ after).dropWhile isDigitOrUnderscore = after := by
  have hrun : ∀ c ∈ digits, isDigitOrUnderscore c = true := fun c hc ↦ by
    simp [isDigitOrUnderscore, decimal_digit_of_is_digit (hdigits c hc)]
  have hstops : Text.Stops isDigitOrUnderscore after := by
    intro c hc
    exact (not_numeral_of_blank (hafter c (List.mem_of_mem_head? hc))).1
  exact ⟨Text.take_while_run hrun hstops, Text.drop_while_run hrun hstops⟩

/-- Digits that come first, after blanks that may surround numerals, are read unless there are too
many of them or something else than such blanks follows. -/
theorem integer_of_digits {text : String} {digits after : List Char}
    (hbody : text.toList.dropWhile isNumeralBlank = digits ++ after) (hnonempty : digits ≠ [])
    (hdigits : ∀ c ∈ digits, c.isDigit = true) (hafter : ∀ c ∈ after, isBlank c = true) :
    integer text =
      if maxDigits < digits.length then .error (.tooManyDigits digits.length)
      else if after.all isNumeralBlank then .ok (Nat.ofDigitChars 10 digits 0)
      else .error (.malformedInteger text) := by
  have hsign : splitSign (digits ++ after) = (false, digits ++ after) := by
    cases digits with
    | nil => exact absurd rfl hnonempty
    | cons c rest =>
        have hc := hdigits c List.mem_cons_self
        refine split_sign_unsigned ?_ ?_ _
        · rintro rfl
          cases hc
        · rintro rfl
          cases hc
  have hvalues : digits.filterMap Text.decimalDigit? = digits.map fun c ↦ c.toNat - '0'.toNat := by
    rw [← List.filterMap_eq_map]
    exact List.filterMap_congr fun c hc ↦ decimal_digit_of_is_digit (hdigits c hc)
  obtain ⟨hrun, hrest⟩ := digit_run hdigits hafter
  have hsome : digits.isEmpty = false := List.isEmpty_eq_false_iff.2 hnonempty
  unfold integer
  rw [hbody, hsign]
  dsimp only
  rw [hrun, hrest, hvalues, nat_of_digits_eq, hsome, groups_digits_of_all hdigits, List.length_map]
  cases after.all isNumeralBlank <;> rfl

/-- A blank that may not surround numerals stops the reader of numerals before it finds a digit. -/
theorem integer_of_blank {text : String} {c : Char} {rest : List Char}
    (hbody : text.toList.dropWhile isNumeralBlank = c :: rest) (hc : isBlank c = true) :
    integer text = .error (.malformedInteger text) := by
  obtain ⟨hrun, hminus, hplus⟩ := not_numeral_of_blank hc
  unfold integer
  rw [hbody, split_sign_unsigned hminus hplus]
  dsimp only
  rw [List.takeWhile_cons_of_neg (by simp [hrun])]
  rfl

/-- What the reader of numerals makes of spaced digits. -/
theorem integer_of_spaced {text : String} {before digits after : List Char}
    (h : IsSpaced text.toList before digits after) :
    integer text =
      if before.all isNumeralBlank then
        if maxDigits < digits.length then .error (.tooManyDigits digits.length)
        else if after.all isNumeralBlank then .ok (Nat.ofDigitChars 10 digits 0)
        else .error (.malformedInteger text)
      else .error (.malformedInteger text) := by
  cases hbefore : before.all isNumeralBlank with
  | true =>
      have hdigits : ∀ c ∈ digits, isNumeralBlank c = false := fun c hc ↦
        (Bool.or_eq_false_iff.1 (not_blank_of_is_digit (h.all_digits c hc))).1
      have hbody : text.toList.dropWhile isNumeralBlank = digits ++ after := by
        have hstops : Text.Stops isNumeralBlank (digits ++ after) := by
          intro c hc
          rw [List.head?_append_of_ne_nil _ h.digits_nonempty] at hc
          exact hdigits c (List.mem_of_mem_head? hc)
        rw [h.text_eq, Text.drop_while_run (List.all_eq_true.1 hbefore) hstops]
      rw [integer_of_digits hbody h.digits_nonempty h.all_digits h.after_blank, if_pos rfl]
  | false =>
      rw [List.all_eq_false] at hbefore
      -- Some blank in front is no blank for numerals, so the reader stands before it and not before
      -- the digits.
      cases hrest : before.dropWhile isNumeralBlank with
      | nil =>
          obtain ⟨c, hc, hunfit⟩ := hbefore
          exact absurd (List.dropWhile_eq_nil_iff.1 hrest c hc) hunfit
      | cons c rest =>
          have hmem : c ∈ before :=
            (List.dropWhile_suffix isNumeralBlank).mem (hrest ▸ List.mem_cons_self)
          have hbody : text.toList.dropWhile isNumeralBlank = c :: (rest ++ (digits ++ after)) := by
            rw [h.text_eq, List.dropWhile_append, hrest]
            rfl
          rw [integer_of_blank hbody (h.before_blank c hmem), if_neg Bool.false_ne_true]

/-! ### Writing integers -/

section Written

variable {value : Int}

/-- The decimal form of the integer has too many digits. -/
def IsTooLong (value : Int) : Prop :=
  maxDigits < (Nat.toDigits 10 value.natAbs).length

theorem is_writable_iff : isWritable value = true ↔ ¬IsTooLong value := by
  have hpositive : 0 < maxDigits := by decide
  rw [isWritable, decide_eq_true_iff, IsTooLong, Nat.not_lt]
  unfold leastTooLong
  rw [Nat.pow_eq]
  exact (Nat.length_toDigits_le_iff (by decide) hpositive).symm

theorem is_writable_eq_false_iff : isWritable value = false ↔ IsTooLong value := by
  rw [← Bool.not_eq_true, is_writable_iff, not_not]

/-- An integer can be written if one further away from zero can. -/
theorem writable_of_le {other : Int} (hle : value.natAbs ≤ other.natAbs)
    (h : isWritable other = true) : isWritable value = true := by
  rw [isWritable, decide_eq_true_iff] at h ⊢
  exact hle.trans_lt h

theorem written_of_writable (h : ¬IsTooLong value) : written value = .ok (toString value) :=
  if_pos (is_writable_iff.2 h)

theorem IsTooLong.written (h : IsTooLong value) : written value = .error .tooLong :=
  if_neg fun hwritable ↦ is_writable_iff.1 hwritable h

theorem least_too_long : IsTooLong leastTooLong := by
  rw [← is_writable_eq_false_iff, isWritable, decide_eq_false_iff_not, Int.natAbs_natCast]
  exact lt_irrefl _

end Written

/-- The outcome depends on writing the integers: there is a result if each of them can be written,
and otherwise the first that is too long is the failure. -/
structure Writes {α : Type} (integers : List Int) (outcome : Except Fault α) : Prop where
  ok : (∀ value ∈ integers, ¬IsTooLong value) → ∃ result, outcome = .ok result
  tooLong : (∃ value ∈ integers, IsTooLong value) → outcome = .error .tooLong

namespace Writes

variable {α β : Type} {integers rest : List Int}

theorem pure (result : α) : Writes [] (.ok result) where
  ok := fun _ ↦ ⟨result, rfl⟩
  tooLong := nofun

theorem written (value : Int) : Writes [value] (Numeral.written value) where
  ok := fun h ↦ ⟨_, written_of_writable (h value (List.mem_singleton_self value))⟩
  tooLong := fun ⟨_, hmem, hlong⟩ ↦ by
    rw [List.mem_singleton.1 hmem] at hlong
    exact hlong.written

/-- Nothing but an integer that is too long makes it fail. -/
theorem fault_eq {fault : Fault} (h : Writes integers (.error fault : Except Fault α)) :
    fault = .tooLong := by
  by_cases hlong : ∃ value ∈ integers, IsTooLong value
  · exact Except.error.inj (h.tooLong hlong)
  · obtain ⟨result, hresult⟩ := h.ok fun value hmem hvalue ↦ hlong ⟨value, hmem, hvalue⟩
    cases hresult

/-- Two steps in a row write the integers of the first and then those of the second. -/
theorem bind {first : Except Fault α} {next : α → Except Fault β} (h : Writes integers first)
    (hnext : ∀ result, Writes rest (next result)) :
    Writes (integers ++ rest) (first >>= next) := by
  by_cases hlong : ∃ value ∈ integers, IsTooLong value
  · have hfailed : first >>= next = .error .tooLong := by
      rw [h.tooLong hlong]
      rfl
    obtain ⟨value, hmem, hvalue⟩ := hlong
    exact ⟨fun hshort ↦ absurd hvalue (hshort value (List.mem_append_left rest hmem)),
      fun _ ↦ hfailed⟩
  · have hshort : ∀ value ∈ integers, ¬IsTooLong value := fun value hmem hvalue ↦
      hlong ⟨value, hmem, hvalue⟩
    obtain ⟨result, rfl⟩ := h.ok hshort
    refine ⟨fun hall ↦ (hnext result).ok fun value hmem ↦
      hall value (List.mem_append_right integers hmem), fun ⟨value, hmem, hvalue⟩ ↦ ?_⟩
    refine (hnext result).tooLong ⟨value, ?_, hvalue⟩
    exact (List.mem_append.1 hmem).resolve_left fun hfirst ↦ hshort value hfirst hvalue

theorem map {outcome : Except Fault α} (h : Writes integers outcome) (f : α → β) :
    Writes integers (outcome.map f) where
  ok := fun hshort ↦ by
    obtain ⟨result, rfl⟩ := h.ok hshort
    exact ⟨f result, rfl⟩
  tooLong := fun hlong ↦ by
    rw [h.tooLong hlong]
    rfl

/-- What is built from the results of two steps takes the integers of both to be written. -/
theorem both {γ : Type} {first : Except Fault α} {second : Except Fault β}
    (hfirst : Writes integers first) (hsecond : Writes rest second) (build : α → β → γ) :
    Writes (integers ++ rest) (do let a ← first; let b ← second; return build a b) := by
  refine hfirst.bind fun a ↦ ?_
  rw [← List.append_nil rest]
  exact hsecond.bind fun b ↦ .pure (build a b)

/-- A pass over a list writes the integers of one item after the other. -/
theorem mapM {step : β → Except Fault α} {integersOf : β → List Int} (items : List β)
    (h : ∀ item, Writes (integersOf item) (step item)) :
    Writes (items.flatMap integersOf) (items.mapM step) := by
  induction items with
  | nil => exact .pure []
  | cons item items ih =>
      rw [List.mapM_cons, List.flatMap_cons]
      exact (h item).both ih List.cons

end Writes

end TenantReporting.Numeral
