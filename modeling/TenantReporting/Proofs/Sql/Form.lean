import Mathlib.Data.List.TakeWhile
import TenantReporting.Sql.Reader

/-!
# How far tokens reach

In query text that is written for a report, the only tokens that contain quotation marks are
quotations. Every other token takes at least one character and stops before the next mark. That no
comment, no quotation of another kind and no time zone begins in such text is seen from each
character and the one after it (`isWritten`, `fits`), and so the forms of tokens can be gone through
one by one (`forms_suit`).
-/

namespace TenantReporting.Sql

/-! ### Characters -/

/-- What holds of every ASCII code holds of every ASCII character. -/
theorem ascii_forall {P : Char → Prop} (h : ∀ code < 128, P (Char.ofNat code)) {c : Char}
    (hc : c.toNat < 128) : P c := by
  have hcode := h c.toNat hc
  rwa [Char.ofNat_toNat] at hcode

theorem digit_lt {c : Char} (h : c.isDigit = true) : c.toNat < 128 := by
  have hbounds : 48 ≤ c.toNat ∧ c.toNat ≤ 57 := by
    simpa [Char.isDigit, UInt32.le_iff_toNat_le] using h
  omega

/-- The character is not one of the two quotation marks of query text. -/
def isUnquoted (c : Char) : Bool :=
  c != '"' && c != apostrophe

/-- A character of a class that contains neither quotation mark is not one. -/
theorem is_unquoted_of {p : Char → Bool} (hquote : p '"' = false)
    (happostrophe : p apostrophe = false) (c : Char) (h : p c = true) : isUnquoted c = true := by
  simp only [isUnquoted, Bool.and_eq_true, bne_iff_ne]
  constructor
  · rintro rfl
    rw [hquote] at h
    cases h
  · rintro rfl
    rw [happostrophe] at h
    cases h

/-- There are two quotation marks. -/
theorem mark_eq {c : Char} (h : isUnquoted c = false) : c = '"' ∨ c = apostrophe := by
  rw [isUnquoted, Bool.and_eq_false_iff, bne_eq_false_iff_eq, bne_eq_false_iff_eq] at h
  exact h

variable {p q : Char → Bool} {text rest : List Char} {c : Char}

/-! ### Runs of characters -/

theorem run_length_le (h : ∀ c, p c = true → q c = true) (text : List Char) :
    runLength p text ≤ runLength q text := by
  induction text with
  | nil => exact Nat.le_refl 0
  | cons c rest ih =>
      unfold runLength at ih ⊢
      cases hp : p c with
      | false => simp [List.takeWhile_cons, hp]
      | true =>
          rw [List.takeWhile_cons_of_pos hp, List.takeWhile_cons_of_pos (h c hp)]
          exact Nat.succ_le_succ ih

/-- How many characters stand before the next quotation mark. -/
def reach (text : List Char) : Nat :=
  runLength isUnquoted text

theorem run_length_le_reach (hquote : p '"' = false) (happostrophe : p apostrophe = false)
    (text : List Char) : runLength p text ≤ reach text :=
  run_length_le (is_unquoted_of hquote happostrophe) text

theorem reach_cons (h : isUnquoted c = true) (rest : List Char) :
    reach (c :: rest) = reach rest + 1 := by
  rw [reach, runLength, List.takeWhile_cons_of_pos h, List.length_cons, reach, runLength]

theorem reach_mark (h : isUnquoted c = false) (rest : List Char) : reach (c :: rest) = 0 := by
  rw [reach, runLength, List.takeWhile_cons_of_neg (by simp [h]), List.length_nil]

/-- What comes before the next quotation mark goes on where its beginning ends. -/
theorem reach_drop {skipped : Nat} (h : skipped ≤ reach text) :
    reach (text.drop skipped) = reach text - skipped := by
  induction text generalizing skipped with
  | nil =>
      rw [List.drop_nil]
      exact (Nat.zero_sub _).symm
  | cons c rest ih =>
      cases skipped with
      | zero => rfl
      | succ skipped =>
          cases hc : isUnquoted c with
          | false =>
              rw [reach_mark hc] at h
              omega
          | true =>
              rw [reach_cons hc] at h ⊢
              rw [List.drop_succ_cons, ih (Nat.le_of_succ_le_succ h)]
              omega

theorem length_le_reach {front : List Char} (h : front.all isUnquoted = true)
    (rest : List Char) : front.length ≤ reach (front ++ rest) := by
  induction front with
  | nil => exact Nat.zero_le _
  | cons c front ih =>
      obtain ⟨hc, hfront⟩ := Bool.and_eq_true_iff.1 h
      rw [List.cons_append, reach_cons hc, List.length_cons]
      exact Nat.succ_le_succ (ih hfront)

/-- The count is positive, and none of so many characters at the front of a text is a quotation
mark. -/
structure Fine (text : List Char) (count : Nat) : Prop where
  positive : 1 ≤ count
  unquoted : count ≤ reach text

theorem positive_eq_some_iff {count taken : Nat} :
    positive? count = some taken ↔ taken = count ∧ 1 ≤ count := by
  unfold positive?
  split
  next hzero => simp [hzero]
  next hpositive =>
    simp only [Option.some.injEq]
    omega

theorem fine_one (hc : isUnquoted c = true) (rest : List Char) : Fine (c :: rest) 1 :=
  ⟨Nat.le_refl 1, by rw [reach_cons hc]; omega⟩

variable {before : Option Char} {count : Nat}

/-! ### Names -/

theorem name_length_fine (h : nameLength? text = some count) : Fine text count := by
  unfold nameLength? at h
  split at h
  next c rest =>
    split at h
    next hinitial =>
      cases h
      have hc := is_unquoted_of (by decide) (by decide) c hinitial
      have hrest : runLength Text.isWordCharacter rest ≤ reach rest :=
        run_length_le_reach (by decide) (by decide) rest
      exact ⟨by omega, by rw [reach_cons hc]; omega⟩
    next => cases h
  next => cases h

theorem name_before_fine {mark : Char} (h : nameBefore mark before text = some count) :
    Fine text count :=
  name_length_fine (Option.filter_eq_some_iff.1 h).1

theorem name_after_point_fine (h : nameAfterPoint before text = some count) : Fine text count := by
  unfold nameAfterPoint at h
  split at h
  · exact name_length_fine h
  · cases h

theorem word_length_fine (h : wordLength? text = some count) : Fine text count := by
  unfold wordLength? at h
  split at h
  next c rest =>
    dsimp only at h
    split at h
    next hword =>
      cases h
      have hc := is_unquoted_of (by decide) (by decide) c hword
      have hrest : runLength (fun c ↦ Text.isWordCharacter c || c == '$' || c == '#') rest ≤
          reach rest := run_length_le_reach (by decide) (by decide) rest
      exact ⟨by omega, by rw [reach_cons hc]; omega⟩
    next => cases h
  next => cases h

theorem named_placeholder_fine (h : namedPlaceholder before text = some count) :
    Fine text count := by
  unfold namedPlaceholder at h
  split at h
  next sign rest =>
    split at h
    next hsign =>
      obtain ⟨length, hlength, rfl⟩ := Option.map_eq_some_iff.1 h
      obtain ⟨rfl, _⟩ := positive_eq_some_iff.1 hlength
      have hc := is_unquoted_of (p := fun c ↦ c == '$' || c == ':') (by decide) (by decide)
        sign (Bool.and_eq_true_iff.1 hsign).1
      have hrest : runLength Text.isWordCharacter rest ≤ reach rest :=
        run_length_le_reach (by decide) (by decide) rest
      exact ⟨by omega, by rw [reach_cons hc]; omega⟩
    next => cases h
  next => cases h

/-! ### Numbers -/

theorem sign_length_le (text : List Char) : signLength text ≤ reach text := by
  unfold signLength
  split
  · rw [reach_cons (by decide)]
    omega
  · exact Nat.zero_le _

theorem digits_le_reach (text : List Char) : runLength isDigit text ≤ reach text :=
  run_length_le_reach (by decide) (by decide) text

theorem separable_digits_le (count : Nat) (after : List Char) :
    separableDigits count after ≤ count := by
  unfold separableDigits
  split
  · exact Nat.sub_le _ _
  · exact Nat.le_refl _

/-- A form of an unquoted letter is unquoted. -/
theorem is_unquoted_of_form {letter : Char} (hletter : isUnquoted letter = true)
    (h : isFormOf letter c = true) : isUnquoted c = true := by
  simp only [isUnquoted, Bool.and_eq_true, bne_iff_ne] at hletter
  have hquote : '"'.toUpper = '"' := by decide
  have happostrophe : apostrophe.toUpper = apostrophe := by decide
  refine is_unquoted_of (p := isFormOf letter) ?_ ?_ c h
  · have hcodes : '"'.toNat = 34 := rfl
    simp [isFormOf, hquote, hcodes, Ne.symm hletter.1]
  · have hcodes : apostrophe.toNat = 39 := rfl
    simp [isFormOf, happostrophe, hcodes, Ne.symm hletter.2]

theorem hexadecimal_fine (h : hexadecimal before text = some count) : Fine text count := by
  unfold hexadecimal at h
  dsimp only at h
  have hsign := sign_length_le text
  split at h
  next mark rest hdrop =>
    split at h
    next hmark =>
      obtain ⟨digits, hdigits, rfl⟩ := Option.map_eq_some_iff.1 h
      obtain ⟨rfl, _⟩ := positive_eq_some_iff.1 hdigits
      have hrest : runLength (fun c ↦ isDigit c || ('A' ≤ c.toUpper && c.toUpper ≤ 'F')) rest ≤
          reach rest := run_length_le_reach (by decide) (by decide) rest
      have hreach := reach_drop hsign
      rw [hdrop, reach_cons (by decide), reach_cons (is_unquoted_of_form (by decide) hmark)]
        at hreach
      exact ⟨by omega, by omega⟩
    next => cases h
  next => cases h

theorem fraction_length_le (text : List Char) : fractionLength text ≤ reach text := by
  unfold fractionLength
  split
  next rest =>
    have hrest := digits_le_reach rest
    rw [reach_cons (by decide)]
    split <;> omega
  next => exact Nat.zero_le _

theorem scientific_fine (h : scientific before text = some count) : Fine text count := by
  unfold scientific at h
  simp only [bind, Option.bind_eq_some_iff, positive_eq_some_iff] at h
  obtain ⟨whole, ⟨rfl, hwhole⟩, h⟩ := h
  have hsign := sign_length_le text
  have hdigits := digits_le_reach (text.drop (signLength text))
  rw [reach_drop hsign] at hdigits
  have hstart : signLength text + runLength isDigit (text.drop (signLength text)) ≤ reach text := by
    omega
  have hfraction := fraction_length_le
    (text.drop (signLength text + runLength isDigit (text.drop (signLength text))))
  rw [reach_drop hstart] at hfraction
  generalize hsignificand : signLength text + runLength isDigit (text.drop (signLength text)) +
    fractionLength (text.drop (signLength text + runLength isDigit (text.drop (signLength text)))) =
      significand at h
  have hreach : reach (text.drop significand) = reach text - significand := reach_drop (by omega)
  split at h
  next mark rest hdrop =>
    split at h
    next hmark =>
      simp only [Option.bind_eq_some_iff, positive_eq_some_iff] at h
      obtain ⟨exponent, ⟨rfl, hexponent⟩, h⟩ := h
      cases h
      rw [hdrop, reach_cons (is_unquoted_of_form (by decide) hmark)] at hreach
      have hexponentSign := sign_length_le rest
      have hlast := digits_le_reach (rest.drop (signLength rest))
      rw [reach_drop hexponentSign] at hlast
      exact ⟨by omega, by omega⟩
    next => cases h
  next => cases h

theorem pointed_fine (h : pointed before text = some count) : Fine text count := by
  unfold pointed at h
  dsimp only at h
  have hsign := sign_length_le text
  have hdigits := digits_le_reach (text.drop (signLength text))
  rw [reach_drop hsign] at hdigits
  generalize hstart : signLength text + runLength isDigit (text.drop (signLength text)) = start at h
  have hreach : reach (text.drop start) = reach text - start := reach_drop (by omega)
  split at h
  next rest hdrop =>
    split at h
    · cases h
    · cases h
      rw [hdrop, reach_cons (by decide)] at hreach
      have hwritten := digits_le_reach rest
      have htaken := separable_digits_le (runLength isDigit rest)
        (rest.drop (runLength isDigit rest))
      exact ⟨by omega, by omega⟩
  next => cases h

theorem whole_fine (h : whole before text = some count) : Fine text count := by
  unfold whole at h
  dsimp only at h
  obtain ⟨taken, htaken, rfl⟩ := Option.map_eq_some_iff.1 h
  obtain ⟨rfl, hpositive⟩ := positive_eq_some_iff.1 htaken
  have hsign := sign_length_le text
  have hdigits := digits_le_reach (text.drop (signLength text))
  rw [reach_drop hsign] at hdigits
  have hseparable := separable_digits_le (runLength isDigit (text.drop (signLength text)))
    (text.drop (signLength text + runLength isDigit (text.drop (signLength text))))
  exact ⟨by omega, by omega⟩

/-! ### Words and marks -/

/-- A word that a text begins with reaches as far as its letters. -/
theorem after_word_eq {letters rest : List Char} (hletters : letters.all isUnquoted = true)
    (h : afterWord? letters text = some rest) :
    letters.length ≤ reach text ∧ rest = text.drop letters.length := by
  induction letters generalizing text with
  | nil =>
      cases h
      exact ⟨Nat.zero_le _, rfl⟩
  | cons letter letters ih =>
      obtain ⟨hletter, hletters⟩ := Bool.and_eq_true_iff.1 hletters
      cases text with
      | nil => cases h
      | cons c text =>
          rw [afterWord?] at h
          split at h
          next hform =>
            obtain ⟨hlength, hrest⟩ := ih hletters h
            rw [reach_cons (is_unquoted_of_form hletter hform), List.length_cons]
            exact ⟨Nat.succ_le_succ hlength, hrest⟩
          next => cases h

/-- The words of a row are not empty and contain no quotation marks. -/
def IsPhrase (words : List String) : Prop :=
  ∀ word ∈ words, 1 ≤ word.length ∧ word.toList.all isUnquoted = true

theorem phrase_length_fine {words : List String} (hwords : IsPhrase words)
    (h : phraseLength? words text = some count) : Fine text count := by
  induction words generalizing text count with
  | nil => cases h
  | cons word words ih =>
      obtain ⟨⟨hpositive, hletters⟩, hothers⟩ := List.forall_mem_cons.1 hwords
      cases words with
      | nil =>
          simp only [phraseLength?, bind, Option.bind_eq_some_iff] at h
          obtain ⟨rest, hrest, h⟩ := h
          obtain ⟨hlength, _⟩ := after_word_eq hletters hrest
          rw [String.length_toList] at hlength
          split at h
          · cases h
          · cases h
            exact ⟨hpositive, hlength⟩
      | cons next words =>
          simp only [phraseLength?, bind, Option.bind_eq_some_iff, positive_eq_some_iff,
            Option.map_eq_some_iff] at h
          obtain ⟨rest, hrest, blanks, ⟨rfl, _⟩, length, hlength, rfl⟩ := h
          obtain ⟨hfirst, rfl⟩ := after_word_eq hletters hrest
          rw [String.length_toList] at hfirst hlength ⊢
          -- The reach of the text after the blanks is what the word and the blanks leave of it.
          have hblanks : runLength Text.isBlank (text.drop word.length) ≤
              reach (text.drop word.length) := run_length_le_reach (by decide) (by decide) _
          have hmore := (ih hothers hlength).unquoted
          rw [reach_drop hblanks, reach_drop hfirst] at hmore
          rw [reach_drop hfirst] at hblanks
          exact ⟨by omega, by omega⟩

theorem mark_fine {characters : String} (hlength : 1 ≤ characters.length)
    (hcharacters : characters.toList.all isUnquoted = true)
    (h : mark characters before text = some count) : Fine text count := by
  unfold mark at h
  split at h
  next hprefix =>
    cases h
    obtain ⟨rest, rfl⟩ := List.isPrefixOf_iff_prefix.1 hprefix
    refine ⟨hlength, ?_⟩
    rw [← String.length_toList]
    exact length_le_reach hcharacters rest
  next => cases h

theorem run_of_fine {characters : String} (hcharacters : characters.toList.all isUnquoted = true)
    (h : runOf characters before text = some count) : Fine text count := by
  obtain ⟨rfl, hpositive⟩ := positive_eq_some_iff.1 h
  refine ⟨hpositive, run_length_le (fun c hc ↦ ?_) text⟩
  exact List.all_eq_true.1 hcharacters c (List.contains_iff_mem.1 hc)

theorem one_of_fine {characters : String} (hcharacters : characters.toList.all isUnquoted = true)
    (h : oneOf characters before text = some count) : Fine text count := by
  unfold oneOf at h
  split at h
  · split at h
    next hmem =>
      cases h
      exact fine_one (List.all_eq_true.1 hcharacters _ (List.contains_iff_mem.1 hmem)) _
    next => cases h
  · cases h

theorem blank_fine (h : blank before text = some count) : Fine text count := by
  unfold blank at h
  split at h
  · split at h
    next hblank =>
      cases h
      exact fine_one (is_unquoted_of (by decide) (by decide) _ hblank) _
    next => cases h
  · cases h

/-! ### All forms -/

/-- The character may stand in query text that is written for a report. -/
def isWritten (c : Char) : Bool :=
  c.isUpper || c.isDigit || " (),.$=<>!_".toList.contains c || !isUnquoted c

/-- The two characters begin forms of a word that begins with the two letters. -/
def begins (first second c : Char) (next? : Option Char) : Bool :=
  isFormOf first c && next?.any (isFormOf second)

/-- No repetition of a batch, no time zone and no tag can begin with the character when the other
one comes next. -/
def fits (c : Char) (next? : Option Char) : Bool :=
  !begins 'G' 'O' c next? && !begins 'A' 'T' c next? && !begins 'W' 'I' c next? &&
    (c != '$' || next?.any Char.isDigit)

/-- What a form says about written text: its tokens are either fine and of an ordinary kind, or
quotations. -/
def Suits (kind : TokenKind) (form : Form) : Prop :=
  ∀ before c rest count, isWritten c = true → fits c rest.head? = true →
    form before (c :: rest) = some count → (kind ≠ .zone ∧ kind ≠ .assignment) ∧
      (Fine (c :: rest) count ∨
        isUnquoted c = false ∧ quotationLength? c true 1 rest = some count)

/-- A form suits if its tokens begin with characters that are never written. -/
theorem suits_of_unwritten {kind : TokenKind} {form : Form}
    (h : ∀ {before c rest count}, form before (c :: rest) = some count → isWritten c = false) :
    Suits kind form := by
  intro before c rest count hwritten _ hcount
  rw [h hcount] at hwritten
  cases hwritten

/-- A form of an ordinary kind suits if its tokens are fine. -/
theorem suits_of_fine {kind : TokenKind} {form : Form}
    (hkind : kind ≠ .zone ∧ kind ≠ .assignment)
    (h : ∀ {before text count}, form before text = some count → Fine text count) :
    Suits kind form :=
  fun _ _ _ _ _ _ hcount ↦ ⟨hkind, Or.inl (h hcount)⟩

theorem unwritten_of_cons {first : Char} {others : List Char} (h : c :: rest = first :: others)
    (hfirst : isWritten first = false) : isWritten c = false := by
  rw [(List.cons.inj h).1]
  exact hfirst

theorem line_hint_unwritten (h : lineHint before (c :: rest) = some count) :
    isWritten c = false := by
  unfold lineHint at h
  split at h
  next hcons => exact unwritten_of_cons hcons (by decide)
  next hcons => exact unwritten_of_cons hcons (by decide)
  next => cases h

theorem line_comment_unwritten (h : lineComment before (c :: rest) = some count) :
    isWritten c = false := by
  unfold lineComment at h
  split at h
  next hcons => exact unwritten_of_cons hcons (by decide)
  next hcons => exact unwritten_of_cons hcons (by decide)
  next => cases h

theorem block_hint_unwritten (h : blockHint before (c :: rest) = some count) :
    isWritten c = false := by
  unfold blockHint at h
  split at h
  next hcons => exact unwritten_of_cons hcons (by decide)
  next => cases h

theorem block_comment_unwritten (h : blockComment before (c :: rest) = some count) :
    isWritten c = false := by
  unfold blockComment at h
  split at h
  next hcons => exact unwritten_of_cons hcons (by decide)
  next => cases h

theorem line_break_unwritten (h : lineBreak before (c :: rest) = some count) :
    isWritten c = false := by
  unfold lineBreak at h
  split at h
  next hcons => exact unwritten_of_cons hcons (by decide)
  next hcons => exact unwritten_of_cons hcons (by decide)
  next hcons => exact unwritten_of_cons hcons (by decide)
  next => cases h

theorem mark_unwritten {characters : String} {first : Char} {others : List Char}
    (hfirst : characters.toList = first :: others) (hwritten : isWritten first = false)
    (h : mark characters before (c :: rest) = some count) : isWritten c = false := by
  unfold mark at h
  split at h
  next hprefix =>
    rw [hfirst, List.isPrefixOf_iff_prefix, List.cons_prefix_cons] at hprefix
    rw [← hprefix.1]
    exact hwritten
  next => cases h

theorem quotation_eq {first : Char} {escapes : Bool}
    (h : quotation first escapes before (c :: rest) = some count) :
    c = first ∧ quotationLength? first escapes 1 rest = some count := by
  rw [quotation] at h
  split at h
  next hfirst => exact ⟨beq_iff_eq.1 hfirst, h⟩
  next => cases h

theorem anonymous_placeholder_unwritten (h : anonymousPlaceholder before (c :: rest) = some count) :
    isWritten c = false := by
  unfold anonymousPlaceholder at h
  split at h
  next hcons => exact unwritten_of_cons hcons (by decide)
  next hcons => exact unwritten_of_cons hcons (by decide)
  next hcons => exact unwritten_of_cons hcons (by decide)
  next => cases h

theorem command_unwritten (h : command before (c :: rest) = some count) : isWritten c = false := by
  unfold command at h
  split at h
  next hcons => exact unwritten_of_cons hcons (by decide)
  next => cases h

theorem marked_name_unwritten (h : markedName before (c :: rest) = some count) :
    isWritten c = false := by
  unfold markedName at h
  split at h
  next hcons => exact unwritten_of_cons hcons (by decide)
  next hcons => exact unwritten_of_cons hcons (by decide)
  next hcons => exact unwritten_of_cons hcons (by decide)
  next => cases h

theorem bracketed_name_unwritten (h : bracketedName before (c :: rest) = some count) :
    isWritten c = false := by
  unfold bracketedName at h
  split at h
  next hcons => exact unwritten_of_cons hcons (by decide)
  next => cases h

/-- A word that two characters begin. -/
theorem begins_of_after_word {first second : Char} {letters after : List Char}
    (h : afterWord? (first :: second :: letters) (c :: rest) = some after) :
    begins first second c rest.head? = true := by
  rw [afterWord?] at h
  split at h
  next hfirst =>
    cases rest with
    | nil => cases h
    | cons d rest =>
        rw [afterWord?] at h
        split at h
        next hsecond => simp [begins, hfirst, hsecond]
        next => cases h
  next => cases h

theorem repeated_batch_begins (h : repeatedBatch before (c :: rest) = some count) :
    begins 'G' 'O' c rest.head? = true := by
  simp only [repeatedBatch, bind, Option.bind_eq_some_iff] at h
  obtain ⟨after, hafter, _⟩ := h
  exact begins_of_after_word hafter

theorem zone_begins (h : zone before (c :: rest) = some count) :
    begins 'A' 'T' c rest.head? = true ∨ begins 'W' 'I' c rest.head? = true := by
  cases hat : afterWord? ['A', 'T'] (c :: rest) with
  | some _ => exact Or.inl (begins_of_after_word hat)
  | none =>
      cases hwith : afterWord? ['W', 'I', 'T', 'H'] (c :: rest) with
      | some _ => exact Or.inr (begins_of_after_word hwith)
      | none =>
          unfold zone at h
          rw [hat, hwith] at h
          cases h

/-- A digit begins no tag, and neither does it end one. -/
theorem not_tag_of_digit (h : c.isDigit = true) :
    (isInitial c || c == '_') = false ∧ c ≠ '$' :=
  ascii_forall
    (P := fun c ↦ c.isDigit = true → (isInitial c || c == '_') = false ∧ c ≠ '$')
    (by decide) (digit_lt h) h

/-- No tag begins with a dollar sign that a digit follows. -/
theorem dollar_quotation_unfit (h : dollarQuotation before (c :: rest) = some count) :
    c = '$' ∧ rest.head?.any Char.isDigit = false := by
  unfold dollarQuotation at h
  split at h
  next others hcons =>
    obtain ⟨rfl, rfl⟩ := List.cons.inj hcons
    refine ⟨rfl, ?_⟩
    cases rest with
    | nil => rfl
    | cons d rest =>
        by_contra hdigit
        rw [List.head?_cons, Option.any_some, Bool.not_eq_false] at hdigit
        obtain ⟨htag, hsign⟩ := not_tag_of_digit hdigit
        simp only [List.head?_cons, Option.any_some, htag, Bool.false_eq_true, if_false,
          List.length_nil, List.drop_zero] at h
        split at h
        next hend => exact hsign (List.cons.inj hend).1
        next => cases h
  next => cases h

/-- Quotations of an ordinary kind suit. -/
theorem suits_quotation {kind : TokenKind} {first : Char}
    (hkind : kind ≠ .zone ∧ kind ≠ .assignment) (hfirst : isUnquoted first = false) :
    Suits kind (quotation first true) := by
  intro before c rest count _ _ hcount
  obtain ⟨rfl, hlength⟩ := quotation_eq hcount
  exact ⟨hkind, Or.inr ⟨hfirst, hlength⟩⟩

/-- No quotation begins with a mark that is never written. -/
theorem quotation_unwritten {first : Char} {escapes : Bool} (hfirst : isWritten first = false)
    (h : quotation first escapes before (c :: rest) = some count) : isWritten c = false := by
  rw [(quotation_eq h).1]
  exact hfirst

theorem suits_dollar_quotation : Suits .dollarText dollarQuotation := by
  intro before c rest count _ hfits hcount
  obtain ⟨rfl, hdigit⟩ := dollar_quotation_unfit hcount
  simp [fits, hdigit] at hfits

theorem suits_repeated_batch : Suits .keyword repeatedBatch := by
  intro before c rest count _ hfits hcount
  simp [fits, repeated_batch_begins hcount] at hfits

theorem suits_zone : Suits .zone zone := by
  intro before c rest count _ hfits hcount
  rcases zone_begins hcount with h | h <;> simp [fits, h] at hfits

/-- Every form suits. -/
theorem forms_suit : ∀ entry ∈ forms, Suits entry.1 entry.2 := by
  have hphrases : ∀ entry ∈ phrases, (entry.1 ≠ .zone ∧ entry.1 ≠ .assignment) ∧
      ∀ word ∈ entry.2, 1 ≤ word.length ∧ word.toList.all isUnquoted = true := by decide
  have hwords : ∀ word ∈ firmWords,
      1 ≤ word.length ∧ word.toList.all isUnquoted = true := by decide
  have hoperators : ∀ operator ∈ structureOperators,
      1 ≤ operator.length ∧ operator.toList.all isUnquoted = true := by decide
  simp only [forms, List.forall_mem_append, List.forall_mem_map, List.forall_mem_cons]
  refine ⟨⟨⟨⟨⟨⟨?marks, ?firm⟩, ?names⟩, ?rows⟩, ?single⟩, ?operators⟩, ?runs⟩
  case marks =>
    refine ⟨?_, ?_, ?_, ?_, ?_, ?_, ?_, ?_, ?_, ?_, ?_, ?_, ?_, ?_, ?_, fun _ h ↦ nomatch h⟩
    · exact suits_of_unwritten line_hint_unwritten
    · exact suits_of_unwritten block_hint_unwritten
    · exact suits_of_unwritten line_comment_unwritten
    · exact suits_of_unwritten block_comment_unwritten
    · exact suits_of_unwritten line_break_unwritten
    · exact suits_of_fine (by decide) blank_fine
    · exact suits_of_unwritten (mark_unwritten rfl (by decide))
    · exact suits_of_fine (by decide) (mark_fine (by decide) (by decide))
    · exact suits_of_fine (by decide) (mark_fine (by decide) (by decide))
    · exact suits_of_unwritten (quotation_unwritten (by decide))
    · exact suits_of_unwritten (quotation_unwritten (by decide))
    · exact suits_dollar_quotation
    · exact suits_of_unwritten anonymous_placeholder_unwritten
    · exact suits_of_fine (by decide) named_placeholder_fine
    · exact suits_of_unwritten command_unwritten
  case firm =>
    intro word hword
    have hrow : IsPhrase [word] := List.forall_mem_singleton.2 (hwords word hword)
    exact suits_of_fine (by decide) (phrase_length_fine hrow)
  case names =>
    refine ⟨?_, ?_, ?_, ?_, ?_, ?_, ?_, ?_, ?_, ?_, ?_, fun _ h ↦ nomatch h⟩
    · exact suits_of_unwritten marked_name_unwritten
    · exact suits_of_fine (by decide) name_before_fine
    · exact suits_of_fine (by decide) name_after_point_fine
    · exact suits_of_fine (by decide) name_before_fine
    · exact suits_of_fine (by decide) hexadecimal_fine
    · exact suits_of_fine (by decide) scientific_fine
    · exact suits_of_fine (by decide) pointed_fine
    · exact suits_of_fine (by decide) whole_fine
    · exact suits_quotation (by decide) (by decide)
    · exact suits_quotation (by decide) (by decide)
    · exact suits_of_unwritten bracketed_name_unwritten
  case rows =>
    intro entry hentry
    exact suits_of_fine (hphrases entry hentry).1 (phrase_length_fine (hphrases entry hentry).2)
  case single =>
    refine ⟨?_, ?_, ?_, fun _ h ↦ nomatch h⟩
    · exact suits_repeated_batch
    · exact suits_zone
    · exact suits_of_fine (by decide) (one_of_fine (by decide))
  case operators =>
    intro operator hoperator
    obtain ⟨hlength, hcharacters⟩ := hoperators operator hoperator
    exact suits_of_fine (by decide) (mark_fine hlength hcharacters)
  case runs =>
    refine ⟨?_, ?_, fun _ h ↦ nomatch h⟩
    · exact suits_of_fine (by decide) (run_of_fine (by decide))
    · exact suits_of_fine (by decide) (run_of_fine (by decide))

end TenantReporting.Sql
