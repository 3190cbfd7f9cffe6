import TenantReporting.Proofs.Binary64.Value
import TenantReporting.Proofs.Numeral
import TenantReporting.Proofs.Query.Compile
import TenantReporting.Proofs.Query.Refusal
import TenantReporting.Proofs.Query.Values

/-!
# Limits are decided by their value

A limit denotes an integer as an integer, as a number with an integral value, or as text with ASCII
digits between blanks, and it is accepted if this integer lies between one and the greatest limit
(`limits_decided_by_value`). There are two exceptions. The reader of numerals does not take every
text that may be a limit: it allows fewer characters around a numeral, and fewer digits. And
integers with as many digits cannot be written either, neither as a limit in query text nor as the
greatest limit in a refusal.
-/

namespace TenantReporting.Query

open Numeral (IsSpaced IsTooLong)
open Text (isBlank isNumeralBlank isInformationSeparator)

/-- Text is taken for a limit exactly if it consists of spaced digits. -/
theorem is_limit_text_iff {text : String} :
    isLimitText text = true ↔ ∃ before digits after, IsSpaced text.toList before digits after := by
  rw [isLimitText, Bool.and_eq_true, Bool.not_eq_true', List.isEmpty_eq_false_iff, List.all_eq_true]
  constructor
  · rintro ⟨hnonempty, hdigits⟩
    obtain ⟨before, after, htext, hbefore, hafter⟩ := (Text.trim_both_stripped text.toList).padded
    exact ⟨before, _, after, htext, hbefore, hnonempty, hdigits, hafter⟩
  · rintro ⟨before, digits, after, h⟩
    rw [h.trimmed]
    exact ⟨h.digits_nonempty, h.all_digits⟩

/-! ### What limits denote -/

/-- The integer that a limit denotes: itself, the value of a number, or the number that spaced
digits stand for. -/
inductive Denotes : Json → Int → Prop where
  | integer (n : Int) : Denotes (.integer n) n
  | real {number : Binary64} {n : Int} (h : number.value? = some (n : ℚ)) :
      Denotes (.real number) n
  | text {text : String} {before digits after : List Char}
      (h : IsSpaced text.toList before digits after) :
      Denotes (.text text) (Nat.ofDigitChars 10 digits 0)

/-- A limit denotes at most one integer. -/
theorem Denotes.unique {limit : Json} {n other : Int} (h : Denotes limit n)
    (hother : Denotes limit other) : n = other := by
  cases h with
  | integer =>
      cases hother
      rfl
  | real hvalue =>
      cases hother with
      | real hsame => exact_mod_cast Option.some.inj (hvalue.symm.trans hsame)
  | text hspaced =>
      cases hother with
      | text hsame => rw [← hspaced.trimmed, hsame.trimmed]

/-- The limit consists of spaced digits, but there is an information separator among the blanks, or
there are more digits than a numeral may have. -/
inductive IsIllegible : Json → Prop where
  | separated {text : String} {before digits after : List Char}
      (h : IsSpaced text.toList before digits after) {c : Char} (hc : c ∈ before ++ after)
      (hseparator : isInformationSeparator c = true) : IsIllegible (.text text)
  | long {text : String} {before digits after : List Char}
      (h : IsSpaced text.toList before digits after)
      (hlong : Numeral.maxDigits < digits.length) : IsIllegible (.text text)

/-- Text without information separators is legible unless it is very long. -/
theorem legible_of_plain {text : String}
    (hplain : text.toList.any isInformationSeparator = false)
    (hshort : text.toList.length ≤ Numeral.maxDigits) : ¬IsIllegible (.text text) := by
  intro h
  cases h with
  | separated hspaced hc hseparator =>
      rw [hspaced.text_eq, List.any_eq_false] at hplain
      exact hplain _ (by simp only [List.mem_append] at hc ⊢; tauto) hseparator
  | long hspaced hlong =>
      rw [hspaced.text_eq, List.length_append, List.length_append] at hshort
      omega

/-- The outcome is the refusal of a limit. -/
def RefusesLimit {α : Type} (outcome : Except Failure α) : Prop :=
  ∃ error : ReportError, error.kind = .invalidLimit ∧ outcome = .error (.report error)

theorem not_numeral_blank_of_separator {c : Char} (h : isInformationSeparator c = true) :
    isNumeralBlank c = false := by
  simp only [isInformationSeparator, isNumeralBlank] at h ⊢
  grind

theorem numeral_blank_of_no_separator {c : Char} (h : isBlank c = true)
    (hseparator : isInformationSeparator c ≠ true) : isNumeralBlank c = true :=
  (Bool.or_eq_true_iff.1 h).resolve_right hseparator

/-- A limit that denotes an integer legibly is read as this integer. -/
theorem limit_value_denoted {limit : Json} {n : Int} (h : Denotes limit n)
    (hlegible : ¬IsIllegible limit) : limitValue limit = .ok n := by
  cases h with
  | integer => rfl
  | real hvalue => rw [limitValue, Binary64.to_int_eq_some_iff.2 hvalue]
  | @text text before digits after hspaced =>
      have hlimit : isLimitText text = true := is_limit_text_iff.2 ⟨_, _, _, hspaced⟩
      have hshort : ¬Numeral.maxDigits < digits.length := fun hlong ↦
        hlegible (.long hspaced hlong)
      have hbefore : before.all isNumeralBlank = true := List.all_eq_true.2 fun c hc ↦
        numeral_blank_of_no_separator (hspaced.before_blank c hc) fun hseparator ↦
          hlegible (.separated hspaced (List.mem_append_left after hc) hseparator)
      have hafter : after.all isNumeralBlank = true := List.all_eq_true.2 fun c hc ↦
        numeral_blank_of_no_separator (hspaced.after_blank c hc) fun hseparator ↦
          hlegible (.separated hspaced (List.mem_append_right before hc) hseparator)
      rw [limitValue, if_pos hlimit, Numeral.integer_of_spaced hspaced, if_pos hbefore,
        if_neg hshort, if_pos hafter]
      rfl

/-- An illegible limit fails as a numeral. -/
theorem limit_value_illegible {limit : Json} (h : IsIllegible limit) :
    ∃ fault, limitValue limit = .error (.numeral fault) := by
  have hread {text : String} {before digits after : List Char}
      (hspaced : IsSpaced text.toList before digits after)
      (hunfit : (before.all isNumeralBlank && after.all isNumeralBlank) = false ∨
        Numeral.maxDigits < digits.length) :
      ∃ fault, limitValue (.text text) = .error (.numeral fault) := by
    rw [limitValue, if_pos (is_limit_text_iff.2 ⟨_, _, _, hspaced⟩),
      Numeral.integer_of_spaced hspaced]
    split
    next hbefore =>
      split
      · exact ⟨_, rfl⟩
      next hshort =>
        have hafter : after.all isNumeralBlank = false := by
          simpa [hbefore, hshort] using hunfit
        rw [hafter, if_neg Bool.false_ne_true]
        exact ⟨_, rfl⟩
    · exact ⟨_, rfl⟩
  cases h with
  | separated hspaced hc hseparator =>
      refine hread hspaced (.inl ?_)
      have hunfit := not_numeral_blank_of_separator hseparator
      rw [← List.all_append, List.all_eq_false]
      exact ⟨_, hc, by simp [hunfit]⟩
  | long hspaced hlong => exact hread hspaced (.inr hlong)

/-- A limit that denotes no integer is refused. -/
theorem limit_value_undenoted {limit : Json} (h : ∀ n, ¬Denotes limit n) :
    limitValue limit = .error (.report .limitNotPositive) := by
  cases limit with
  | integer n => exact absurd (.integer n) (h n)
  | real number =>
      rw [limitValue]
      cases hvalue : number.toInt? with
      | none => rfl
      | some n => exact absurd (.real (Binary64.to_int_eq_some_iff.1 hvalue)) (h n)
  | text text =>
      rw [limitValue, if_neg]
      intro hlimit
      obtain ⟨_, digits, _, hspaced⟩ := is_limit_text_iff.1 hlimit
      exact h (Nat.ofDigitChars 10 digits 0) (.text hspaced)
  | _ => rfl

/-! ### Decisions -/

section Decisions

variable {limit : Json}

/-- A limit other than null is read and then compared with the greatest one. -/
theorem limit_of_eq_check (h : limit ≠ .null) (greatest : Int) :
    limitOf greatest limit =
      (limitValue limit >>= fun value ↦ some <$> checkLimit greatest value) := by
  cases limit with
  | null => exact absurd rfl h
  | _ => rfl

/-- The limit exceeds the greatest one, which is too long to be named in a refusal. -/
def ExceedsUnwritable (greatest : Int) (limit : Json) : Prop :=
  ∃ n, Denotes limit n ∧ 1 ≤ n ∧ greatest < n ∧ IsTooLong greatest

section Denoted

variable {greatest n : Int} (h : Denotes limit n) (hlegible : ¬IsIllegible limit)
include h hlegible

/-- A limit that denotes an integer legibly is compared with the greatest one. -/
theorem limit_of_eq_denoted : limitOf greatest limit = some <$> checkLimit greatest n := by
  have hnull : limit ≠ .null := by
    rintro rfl
    cases h
  rw [limit_of_eq_check hnull, limit_value_denoted h hlegible]
  rfl

/-- The limit is accepted if it lies between one and the greatest one. -/
theorem limit_of_within (hwithin : 1 ≤ n ∧ n ≤ greatest) :
    limitOf greatest limit = .ok (some n.toNat) := by
  rw [limit_of_eq_denoted h hlegible, checkLimit, if_neg (by omega), if_neg (by omega)]
  rfl

/-- The limit is refused if it is not positive. -/
theorem limit_of_not_positive (hpositive : n ≤ 0) : RefusesLimit (limitOf greatest limit) := by
  rw [limit_of_eq_denoted h hlegible, checkLimit, if_pos hpositive]
  exact ⟨.limitNotPositive, rfl, rfl⟩

section Beyond

variable (hpositive : 1 ≤ n) (hgreatest : greatest < n)
include hpositive hgreatest

theorem limit_of_eq_beyond :
    limitOf greatest limit = some <$> refuseBeyond greatest := by
  rw [limit_of_eq_denoted h hlegible, checkLimit, if_neg (by omega), if_pos hgreatest]

/-- The limit is refused if it is greater than the greatest one and that can be named. -/
theorem limit_of_beyond (hshort : ¬IsTooLong greatest) :
    RefusesLimit (limitOf greatest limit) := by
  rw [limit_of_eq_beyond h hlegible hpositive hgreatest, refuseBeyond,
    Numeral.written_of_writable hshort]
  exact ⟨.limitTooGreat (toString greatest), rfl, rfl⟩

/-- The refusal fails if the greatest limit cannot be named. -/
theorem limit_of_unwritable (hlong : IsTooLong greatest) :
    limitOf greatest limit = .error (.numeral .tooLong) := by
  rw [limit_of_eq_beyond h hlegible hpositive hgreatest, refuseBeyond, hlong.written]
  rfl

end Beyond

/-- The limit is refused if it does not lie between one and the greatest one, unless the refusal
cannot name the greatest one. -/
theorem limit_of_outside (houtside : ¬(1 ≤ n ∧ n ≤ greatest))
    (hnamed : ¬ExceedsUnwritable greatest limit) : RefusesLimit (limitOf greatest limit) := by
  by_cases hpositive : 1 ≤ n
  · have hbeyond : greatest < n := by omega
    exact limit_of_beyond h hlegible hpositive hbeyond fun hlong ↦
      hnamed ⟨n, h, hpositive, hbeyond, hlong⟩
  · exact limit_of_not_positive h hlegible (by omega)

end Denoted

/-- A limit that is not null and denotes no integer is refused. -/
theorem limit_of_undenoted (greatest : Int) (hnull : limit ≠ .null) (h : ∀ n, ¬Denotes limit n) :
    RefusesLimit (limitOf greatest limit) := by
  rw [limit_of_eq_check hnull, limit_value_undenoted h]
  exact ⟨.limitNotPositive, rfl, rfl⟩

/-- An illegible limit fails as a numeral. -/
theorem limit_of_illegible (greatest : Int) (h : IsIllegible limit) :
    ∃ fault, limitOf greatest limit = .error (.numeral fault) := by
  have hnull : limit ≠ .null := by
    rintro rfl
    cases h
  obtain ⟨fault, hfault⟩ := limit_value_illegible h
  rw [limit_of_eq_check hnull, hfault]
  exact ⟨fault, rfl⟩

/-- How a limit may be decided. Null is no limit, an integer between one and the greatest limit is
accepted, and everything else is refused unless it fails as a numeral. -/
inductive Decision (greatest : Int) (limit : Json) : Prop where
  | absent (hnull : limit = .null) (h : limitOf greatest limit = .ok none)
  | accepted {n : Int} (hdenoted : Denotes limit n) (hlegible : ¬IsIllegible limit)
      (hwithin : 1 ≤ n ∧ n ≤ greatest) (h : limitOf greatest limit = .ok (some n.toNat))
  | refused (hlegible : ¬IsIllegible limit) (hnamed : ¬ExceedsUnwritable greatest limit)
      (houtside : ∀ n, Denotes limit n → ¬(1 ≤ n ∧ n ≤ greatest))
      (h : RefusesLimit (limitOf greatest limit))
  | failed (hcause : IsIllegible limit ∨ ExceedsUnwritable greatest limit)
      (h : ∃ fault, limitOf greatest limit = .error (.numeral fault))

/-- An illegible limit denotes an integer all the same. -/
theorem IsIllegible.denotes (h : IsIllegible limit) : ∃ n, Denotes limit n := by
  cases h with
  | separated hspaced | long hspaced => exact ⟨_, .text hspaced⟩

/-- Every limit is decided in one of these ways. -/
theorem decision_of_limit (greatest : Int) (limit : Json) : Decision greatest limit := by
  by_cases hnull : limit = .null
  · exact .absent hnull (hnull ▸ rfl)
  by_cases hdenoted : ∃ n, Denotes limit n
  · by_cases hillegible : IsIllegible limit
    · exact .failed (.inl hillegible) (limit_of_illegible greatest hillegible)
    by_cases hexceeds : ExceedsUnwritable greatest limit
    · obtain ⟨n, hn, hpositive, hbeyond, hlong⟩ := id hexceeds
      exact .failed (.inr hexceeds) ⟨_, limit_of_unwritable hn hillegible hpositive hbeyond hlong⟩
    obtain ⟨n, hn⟩ := hdenoted
    by_cases hwithin : 1 ≤ n ∧ n ≤ greatest
    · exact .accepted hn hillegible hwithin (limit_of_within hn hillegible hwithin)
    · refine .refused hillegible hexceeds (fun other hother ↦ ?_)
        (limit_of_outside hn hillegible hwithin hexceeds)
      rwa [hother.unique hn]
  · have hundenoted : ∀ n, ¬Denotes limit n := not_exists.1 hdenoted
    exact .refused (fun hillegible ↦ hdenoted hillegible.denotes)
      (fun ⟨n, hn, _⟩ ↦ hundenoted n hn) (fun n hn ↦ absurd hn (hundenoted n))
      (limit_of_undenoted greatest hnull hundenoted)

/-- A limit fails as a numeral exactly if it is illegible or exceeds a greatest limit that cannot be
named. -/
theorem limit_of_numeral_iff (greatest : Int) (limit : Json) :
    (∃ fault, limitOf greatest limit = .error (.numeral fault)) ↔
      IsIllegible limit ∨ ExceedsUnwritable greatest limit := by
  cases decision_of_limit greatest limit with
  | absent hnull h =>
      subst hnull
      exact iff_of_false nofun (Or.rec nofun nofun)
  | accepted hdenoted hlegible hwithin h =>
      refine iff_of_false (by simp [h]) (Or.rec hlegible ?_)
      rintro ⟨n, hn, _, hbeyond, _⟩
      rw [hn.unique hdenoted] at hbeyond
      omega
  | refused hlegible hnamed _ h =>
      obtain ⟨error, _, herror⟩ := h
      exact iff_of_false (by simp [herror]) (Or.rec hlegible hnamed)
  | failed hcause h => exact iff_of_true h hcause

/-! ### Limits in query text -/

/-- The lesser one of the limit and the greatest one is too long: that is written if the limit is
accepted, or else named in its refusal. -/
def IsUnwritable (greatest : Int) (limit : Json) : Prop :=
  ∃ n, Denotes limit n ∧ 1 ≤ n ∧ IsTooLong (min n greatest)

/-- A limit that exceeds a greatest one that cannot be named is unwritable. -/
theorem ExceedsUnwritable.is_unwritable {greatest : Int} (h : ExceedsUnwritable greatest limit) :
    IsUnwritable greatest limit := by
  obtain ⟨n, hn, hpositive, hbeyond, hlong⟩ := h
  exact ⟨n, hn, hpositive, by rwa [min_eq_right hbeyond.le]⟩

/-- An accepted limit is written unless it is too long. -/
theorem writable_limit_numeral_iff {n : Int} (hpositive : 1 ≤ n) :
    (∃ fault, writableLimit (some n.toNat) = .error (.numeral fault)) ↔ IsTooLong n := by
  have hcast : (n.toNat : Int) = n := Int.toNat_of_nonneg (by omega)
  rw [writableLimit, hcast]
  by_cases hlong : IsTooLong n
  · rw [hlong.written]
    exact iff_of_true ⟨_, rfl⟩ hlong
  · rw [Numeral.written_of_writable hlong]
    refine iff_of_false ?_ hlong
    rintro ⟨fault, hfault⟩
    cases hfault

/-- A limit fails as a numeral, on its own or in query text, exactly if it is illegible or
unwritable. -/
theorem written_limit_numeral_iff (greatest : Int) (limit : Json) :
    (∃ fault, (limitOf greatest limit >>= writableLimit) = .error (.numeral fault)) ↔
      IsIllegible limit ∨ IsUnwritable greatest limit := by
  cases decision_of_limit greatest limit with
  | absent hnull h =>
      subst hnull
      exact iff_of_false nofun (Or.rec nofun nofun)
  | @accepted n hdenoted hlegible hwithin h =>
      have hmin : min n greatest = n := min_eq_left hwithin.2
      rw [h, or_iff_right hlegible]
      refine (writable_limit_numeral_iff hwithin.1).trans ⟨fun hlong ↦ ?_, ?_⟩
      · exact ⟨n, hdenoted, hwithin.1, by rwa [hmin]⟩
      · rintro ⟨other, hother, _, hlong⟩
        rwa [hother.unique hdenoted, hmin] at hlong
  | refused hlegible hnamed houtside h =>
      obtain ⟨error, _, herror⟩ := h
      rw [herror]
      refine iff_of_false nofun (Or.rec hlegible ?_)
      rintro ⟨n, hn, hpositive, hlong⟩
      have hbeyond : greatest < n := by
        have := houtside n hn
        omega
      rw [min_eq_right hbeyond.le] at hlong
      exact hnamed ⟨n, hn, hpositive, hbeyond, hlong⟩
  | failed hcause h =>
      obtain ⟨fault, hfault⟩ := h
      rw [hfault]
      exact iff_of_true ⟨fault, rfl⟩ (hcause.imp_right ExceedsUnwritable.is_unwritable)

end Decisions

/-! ### Configurations -/

section Configurations

variable (rules : Rules) (config : ReportConfig)

/-- What remains to be compiled ends with the limit. -/
theorem rest_eq_limited (selection : List SelectItem) (source : String) (joins : List Join) :
    restOf rules config selection source joins =
      (restOf rules { config with limit := .null } selection source joins >>= fun query ↦
        (limitOf rules.greatestLimit config.limit >>= writableLimit) >>= fun limit ↦
          pure { query with limit }) := by
  simp only [restOf, bind_assoc]
  rfl

/-- The limit of a configuration is decided when everything else has been accepted. -/
theorem of_config_eq_limited :
    ofConfig rules config = (ofConfig rules { config with limit := .null } >>= fun query ↦
      (limitOf rules.greatestLimit config.limit >>= writableLimit) >>= fun limit ↦
        pure { query with limit }) := by
  unfold ofConfig
  dsimp only
  split
  · rfl
  · split
    · rfl
    · rw [bind_assoc]
      refine bind_congr fun source ↦ ?_
      rw [bind_assoc]
      refine bind_congr fun others ↦ ?_
      rw [bind_assoc]
      refine bind_congr fun selection ↦ ?_
      split
      · exact rest_eq_limited rules config selection source []
      · rw [bind_assoc]
        refine bind_congr fun joins ↦ ?_
        exact rest_eq_limited rules config selection source joins

variable {rules config}

/-- A configuration that is accepted without its limit is compiled as its limit says. -/
theorem compile_eq_limited {query : Query Json}
    (h : ofConfig rules { config with limit := .null } = .ok query) :
    compile rules config = ((limitOf rules.greatestLimit config.limit >>= writableLimit) >>=
      fun limit ↦ assemble rules.bounds { query with limit }) := by
  rw [compile, of_config_eq_limited, h]
  change (((limitOf rules.greatestLimit config.limit >>= writableLimit) >>= _) >>= _) = _
  rw [bind_assoc]
  rfl

/-- Without a limit nothing fails as a numeral. -/
theorem not_numeral_of_no_limit {fault : Numeral.Fault} :
    ¬Foreseen rules .null (.numeral fault) := by
  rintro (_ | ⟨⟨_, htext⟩ | ⟨hlimit, _⟩⟩)
  · cases htext
  · exact hlimit rfl

/-- Compilation fails as a numeral exactly if the limit does and nothing else is wrong. -/
theorem compile_numeral_iff :
    (∃ fault, compile rules config = .error (.numeral fault)) ↔
      (IsIllegible config.limit ∨ IsUnwritable rules.greatestLimit config.limit) ∧
        ∃ query, ofConfig rules { config with limit := .null } = .ok query := by
  rw [← written_limit_numeral_iff]
  have hends : Outcome.Ends (Foreseen rules .null) Query.WellNamed
      (ofConfig rules { config with limit := .null }) := of_config_ends rules _
  cases haccepted : ofConfig rules { config with limit := .null } with
  | error failure =>
      rw [haccepted] at hends
      have hfailed : compile rules config = .error failure := by
        rw [compile, of_config_eq_limited, haccepted]
        rfl
      rw [hfailed]
      refine iff_of_false ?_ (by simp)
      rintro ⟨fault, hfault⟩
      cases hfault
      exact not_numeral_of_no_limit hends
  | ok query =>
      rw [haccepted] at hends
      have hquery : query.WellNamed := hends
      rw [compile_eq_limited haccepted]
      cases hlimit : limitOf rules.greatestLimit config.limit >>= writableLimit with
      | error failure =>
          change (∃ fault, Except.error failure = Except.error (Failure.numeral fault)) ↔ _
          simp
      | ok limit =>
          refine iff_of_false ?_ (by simp)
          -- The text has no numeral left to read or write, so assembling it does not fail as one.
          rintro ⟨fault, hfault⟩
          have hnames : Query.WellNamed { query with limit } :=
            ⟨hquery.selection, hquery.source, hquery.joins, hquery.filters, hquery.groups,
              hquery.order⟩
          have hassembled := assemble_ends hnames rules .null
          have hfailed : assemble rules.bounds { query with limit } = .error (.numeral fault) :=
            hfault
          rw [hfailed] at hassembled
          exact not_numeral_of_no_limit hassembled

/-- The same holds for the configuration that a value describes. -/
theorem build_numeral_iff {value : Json} :
    (∃ fault, build rules value = .error (.numeral fault)) ↔
      ∃ config, configOf value = .ok config ∧
        (IsIllegible config.limit ∨ IsUnwritable rules.greatestLimit config.limit) ∧
        ∃ query, ofConfig rules { config with limit := .null } = .ok query := by
  cases hconfig : configOf value with
  | error failure =>
      have hends := config_of_ends value
      rw [hconfig] at hends
      obtain ⟨error, _, rfl⟩ := hends
      have hrefused : build rules value = .error (.report error) := by
        rw [build, hconfig]
        rfl
      rw [hrefused]
      simp
  | ok config =>
      simp only [build_eq hconfig, compile_numeral_iff, Except.ok.injEq, exists_eq_left']

end Configurations

/-- A limit is decided by the integer that it denotes. Null is no limit; an integer between one and
the greatest limit is accepted, whether it is given as such, as a number or as text, and every other
limit is refused. Only text whose digits the reader of numerals does not take fails in another way,
and so does a limit that would have to be written, or refused by naming the greatest limit, with
more digits than integers are written with. Compilation fails as a numeral for such a limit only, if
it accepts everything else. -/
theorem limits_decided_by_value (greatest : Int) (limit : Json) :
    (limit = .null → limitOf greatest limit = .ok none) ∧
      (∀ n, Denotes limit n → ¬IsIllegible limit →
        (1 ≤ n ∧ n ≤ greatest → limitOf greatest limit = .ok (some n.toNat)) ∧
          (¬(1 ≤ n ∧ n ≤ greatest) → ¬ExceedsUnwritable greatest limit →
            RefusesLimit (limitOf greatest limit))) ∧
      (limit ≠ .null → (∀ n, ¬Denotes limit n) → RefusesLimit (limitOf greatest limit)) ∧
      ((∃ fault, limitOf greatest limit = .error (.numeral fault)) ↔
        IsIllegible limit ∨ ExceedsUnwritable greatest limit) ∧
      (∀ rules config query, ofConfig rules { config with limit := .null } = .ok query →
        compile rules config = ((limitOf rules.greatestLimit config.limit >>= writableLimit) >>=
          fun limit ↦ assemble rules.bounds { query with limit })) ∧
      ∀ rules value, (∃ fault, build rules value = .error (.numeral fault)) ↔
        ∃ config, configOf value = .ok config ∧
          (IsIllegible config.limit ∨ IsUnwritable rules.greatestLimit config.limit) ∧
          ∃ query, ofConfig rules { config with limit := .null } = .ok query := by
  refine ⟨?_, ?_, limit_of_undenoted greatest, limit_of_numeral_iff greatest limit, ?_, ?_⟩
  · rintro rfl
    rfl
  · exact fun n hn hlegible ↦
      ⟨limit_of_within hn hlegible, limit_of_outside hn hlegible⟩
  · exact fun _ _ _ ↦ compile_eq_limited
  · exact fun _ _ ↦ build_numeral_iff

/-- Digits between blanks of several kinds are accepted. -/
theorem spaced_limit_accepted :
    Denotes (.text "\u00a0 250\n") 250 ∧ ¬IsIllegible (.text "\u00a0 250\n") ∧
      limitOf 10000 (.text "\u00a0 250\n") = .ok (some 250) := by
  have hspaced : IsSpaced "\u00a0 250\n".toList "\u00a0 ".toList "250".toList "\n".toList :=
    ⟨rfl, List.all_eq_true.1 rfl, by decide, List.all_eq_true.1 rfl, List.all_eq_true.1 rfl⟩
  have hlegible : ¬IsIllegible (.text "\u00a0 250\n") := legible_of_plain rfl (by decide)
  obtain ⟨_, hdenoted, _⟩ := limits_decided_by_value 10000 (.text "\u00a0 250\n")
  obtain ⟨haccepted, _⟩ := hdenoted 250 (.text hspaced) hlegible
  exact ⟨.text hspaced, hlegible, haccepted (by decide)⟩

/-- A digit before an information separator denotes an integer, and so do very many digits, but
neither is accepted or refused as a limit. Nor is an integer refused that exceeds a greatest limit
with very many digits. -/
theorem illegible_limit_not_refused :
    (Denotes (.text "7\x1c") 7 ∧
      limitOf 10000 (.text "7\x1c") = .error (.numeral (.malformedInteger "7\x1c"))) ∧
    limitOf Numeral.leastTooLong (.integer (Numeral.leastTooLong + 1)) =
      .error (.numeral .tooLong) ∧
    let digits := List.replicate 4301 '1'
    Denotes (.text (String.ofList digits)) (Nat.ofDigitChars 10 digits 0) ∧
      limitOf 10000 (.text (String.ofList digits)) = .error (.numeral (.tooManyDigits 4301)) := by
  have hseparated : IsSpaced "7\x1c".toList [] "7".toList "\x1c".toList :=
    ⟨rfl, nofun, by decide, List.all_eq_true.1 rfl, List.all_eq_true.1 rfl⟩
  have hgreatest : (Numeral.leastTooLong : Int) < Numeral.leastTooLong + 1 := by omega
  have hunnamed : limitOf Numeral.leastTooLong (.integer (Numeral.leastTooLong + 1)) =
      .error (.numeral .tooLong) :=
    limit_of_unwritable (.integer _) nofun (by omega) hgreatest Numeral.least_too_long
  refine ⟨⟨.text hseparated, by rfl⟩, hunnamed, ?_⟩
  intro digits
  have hlength : digits.length = 4301 := List.length_replicate
  have hlong : IsSpaced (String.ofList digits).toList [] digits [] :=
    { text_eq := by rw [String.toList_ofList, List.nil_append, List.append_nil]
      before_blank := nofun
      digits_nonempty := List.ne_nil_of_length_pos (by omega)
      all_digits := fun c hc ↦ by
        rw [List.eq_of_mem_replicate hc]
        rfl
      after_blank := nofun }
  have hnull : Json.text (String.ofList digits) ≠ .null := nofun
  refine ⟨.text hlong, ?_⟩
  rw [limit_of_eq_check hnull, limitValue, if_pos (is_limit_text_iff.2 ⟨_, _, _, hlong⟩),
    Numeral.integer_of_spaced hlong, hlength]
  rfl

end TenantReporting.Query
