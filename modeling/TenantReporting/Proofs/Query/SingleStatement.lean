import TenantReporting.Proofs.Query.Compile
import TenantReporting.Proofs.Query.Pervasive
import TenantReporting.Proofs.Sql.Spelling

/-!
# Query text is a single statement

The text of a query whose names are identifiers contains no semicolon (`semicolon_not_mem_text`) and
is spelled as the reader of tokens expects it (`text_spelled`). So it is a single statement that
selects (`text_single_select`), and only the bounds can keep its last check from giving it out
(`check_single_select_passes`).

Like the properties of the text outside filters, these are proved of the words, names, numbers and
placeholders that the text is made of (`Universal`). Being spelled is not kept when texts are put
together; what is kept is that a text may stand before spelled text (`Leads`).
-/

namespace TenantReporting.Query

variable {α : Type} {property : List Char → Prop}

/-! ### Properties of whole queries -/

/-- The fixed words of filters. -/
def filterWords : List String :=
  [" WHERE ", " AND ", " ", "IN (", ")", "IS NULL", "IS NOT NULL"]
    ++ Comparison.all.map fun comparison ↦ comparison.word ++ " "

/-- The property is pervasive and also holds of all that filters are made of. -/
structure Universal (property : List Char → Prop) : Prop extends Pervasive property where
  filterWord : ∀ word ∈ filterWords, property word.toList
  placeholder : ∀ number, property (placeholder number)

namespace Universal

/-- The text of a test has every universal property. -/
theorem test (h : Universal property) (test : Test α) (first : Nat) :
    property (test.text first) := by
  cases test with
  | compare comparison value =>
      have hword := h.filterWord (comparison.word ++ " ") (by cases comparison <;> decide)
      rw [String.toList_append] at hword
      have htext := h.append hword (h.placeholder first)
      rwa [List.append_assoc] at htext
  | among values =>
      have hopening := h.filterWord "IN (" (by decide)
      have hclosing := h.filterWord ")" (by decide)
      have hvalues : property (separated ", " (placeholders first values.length)) :=
        h.separated (h.word ", " (by decide)) (List.forall_mem_map.2 fun n _ ↦ h.placeholder n)
      exact h.append (h.append hopening hvalues) hclosing
  | isNull => exact h.filterWord "IS NULL" (by decide)
  | isNotNull => exact h.filterWord "IS NOT NULL" (by decide)

/-- The text of a filter has every universal property. -/
theorem filter (h : Universal property) {filter : Filter α}
    (hnames : ∀ name ∈ filter.column.names, IsIdentifier name) (first : Nat) :
    property (filter.text first) :=
  h.append (h.column hnames) (h.append (h.filterWord " " (by decide)) (h.test filter.test first))

/-- The texts of numbered filters have every universal property. -/
theorem filters (h : Universal property) {filters : List (Filter α)}
    (hnames : ∀ filter ∈ filters, ∀ name ∈ filter.column.names, IsIdentifier name) (first : Nat) :
    ∀ text ∈ filterTexts first filters, property text := by
  induction filters generalizing first with
  | nil => exact fun _ htext ↦ nomatch htext
  | cons filter filters ih =>
      obtain ⟨hfilter, hfilters⟩ := List.forall_mem_cons.1 hnames
      exact List.forall_mem_cons.2 ⟨h.filter hfilter first, ih hfilters _⟩

/-- The text of a query has every universal property. -/
theorem text (h : Universal property) {query : Query α} (hnames : query.WellNamed) :
    property query.text := by
  have hrestriction : property query.restriction :=
    h.clause (h.filterWord " WHERE " (by decide)) (h.filterWord " AND " (by decide))
      (h.filters hnames.filters 1)
  rw [text_eq]
  exact h.append (h.append (h.head hnames) hrestriction) (h.tail hnames)

end Universal

/-! ### Semicolons -/

/-- No query text contains a semicolon. -/
theorem no_semicolon_universal : Universal fun text ↦ ';' ∉ text where
  nil := by decide
  append hleft hright hmem := (List.mem_append.1 hmem).elim hleft hright
  word := by decide
  name {name} hname hmem := by
    rw [quoted_name_eq hname] at hmem
    have hinside := hname.not_mem (by decide : isNameCharacter ';' = false)
    simp [hinside] at hmem
  number number hmem := by
    have hdigit := is_digit_of_mem_digits hmem
    cases hdigit
  filterWord := by decide
  placeholder number hmem := by
    rcases List.mem_cons.1 hmem with hmem | hmem
    · cases hmem
    · cases is_digit_of_mem_digits hmem

/-! ### Spelling -/

/-- The text may stand before any spelled text. -/
def Leads (text : List Char) : Prop :=
  ∀ rest, Sql.Spelled rest → Sql.Spelled (text ++ rest)

/-- The character fits whatever comes next. -/
def fitsAll (c : Char) : Bool :=
  !Sql.isFormOf 'G' c && !Sql.isFormOf 'A' c && !Sql.isFormOf 'W' c && c != '$'

/-- The text is written without quotations, and each of its characters fits the next one. -/
def isChain : List Char → Bool
  | [] => true
  | c :: rest =>
    Sql.isWritten c && Sql.isUnquoted c && (fitsAll c || rest.head?.any (Sql.fits c ∘ some))
      && isChain rest

theorem fits_of_all {c : Char} (h : fitsAll c = true) (next? : Option Char) :
    Sql.fits c next? = true := by
  simp only [fitsAll, Bool.and_eq_true, Bool.not_eq_true', bne_iff_ne] at h
  simp [Sql.fits, Sql.begins, h]

/-- Before spelled text a chain is spelled. -/
theorem leads_of_chain {text : List Char} (h : isChain text = true) : Leads text := by
  intro rest hrest
  induction text with
  | nil => exact hrest
  | cons c text ih =>
      simp only [isChain, Bool.and_eq_true, Bool.or_eq_true] at h
      obtain ⟨⟨⟨hwritten, hunquoted⟩, hfits⟩, hchain⟩ := h
      refine .plain hwritten hunquoted ?_ (ih hchain)
      rcases hfits with hfits | hfits
      · exact fits_of_all hfits _
      · cases text with
        | nil => cases hfits
        | cons d text => exact hfits

/-- A digit is written and fits whatever comes next. -/
theorem digit_fits {c : Char} (h : c.isDigit = true) :
    Sql.isWritten c = true ∧ Sql.isUnquoted c = true ∧ fitsAll c = true :=
  Sql.ascii_forall (P := fun c ↦ c.isDigit = true →
      Sql.isWritten c = true ∧ Sql.isUnquoted c = true ∧ fitsAll c = true)
    (by decide) (Sql.digit_lt h) h

theorem digits_chain {digits : List Char} (h : ∀ c ∈ digits, c.isDigit = true) :
    isChain digits = true := by
  induction digits with
  | nil => rfl
  | cons c digits ih =>
      obtain ⟨hc, hdigits⟩ := List.forall_mem_cons.1 h
      obtain ⟨hwritten, hunquoted, hfits⟩ := digit_fits hc
      simp [isChain, hwritten, hunquoted, hfits, ih hdigits]

/-- The dollar sign of a placeholder is followed by a digit. -/
theorem placeholder_chain (number : Nat) : isChain (placeholder number) = true := by
  have hdigits : ∀ c ∈ Nat.toDigits 10 number, c.isDigit = true :=
    fun c ↦ is_digit_of_mem_digits
  have hchain := digits_chain hdigits
  cases hlist : Nat.toDigits 10 number with
  | nil => exact absurd hlist Nat.toDigits_ne_nil
  | cons c digits =>
      rw [hlist] at hchain hdigits
      -- A dollar sign begins none of the words that must not be begun.
      have hfits : Sql.fits '$' (some c) = c.isDigit := rfl
      rw [placeholder, hlist, isChain, hchain, List.head?_cons, Option.any_some,
        Function.comp_apply, hfits, hdigits c List.mem_cons_self]
      rfl

/-- A quoted identifier may stand before any spelled text. -/
theorem leads_quoted_name {name : String} (h : IsIdentifier name) : Leads (quotedName name) := by
  intro rest hrest
  rw [quoted_name_eq h, List.cons_append, List.append_assoc]
  refine .quoted (by decide) ?_ hrest
  intro d hd
  refine ⟨?_, ?_⟩
  · rintro rfl
    exact h.not_mem (by decide) hd
  · rintro rfl
    exact h.not_mem (by decide) hd

/-- The end of a concatenation holds a quotation of its own. -/
theorem leads_concatenation_closing : Leads Aggregate.concatenation.closing.toList := by
  intro rest hrest
  have hparenthesis : Sql.Spelled ([')'] ++ rest) := leads_of_chain (by decide) rest hrest
  have hseparator : Sql.Spelled (Sql.apostrophe :: ([',', ' '] ++ Sql.apostrophe :: ')' :: rest)) :=
    .quoted (by decide) (by simp [Sql.apostrophe]) hparenthesis
  exact leads_of_chain (by decide : isChain " AS TEXT), ".toList = true) _ hseparator

/-- Everything that query text is made of may stand before spelled text. -/
theorem leads_universal : Universal Leads where
  nil := fun _ hrest ↦ hrest
  append hleft hright rest hrest := by
    rw [List.append_assoc]
    exact hleft _ (hright rest hrest)
  word := by
    have hwords : ∀ word ∈ fixedWords,
        isChain word.toList = true ∨ word = Aggregate.concatenation.closing := by decide
    -- One of the fixed words contains a quotation, the separator of concatenated values.
    intro word hword
    rcases hwords word hword with hchain | rfl
    · exact leads_of_chain hchain
    · exact leads_concatenation_closing
  name := leads_quoted_name
  number number := leads_of_chain (digits_chain fun _ ↦ is_digit_of_mem_digits)
  filterWord := by
    have hwords : ∀ word ∈ filterWords, isChain word.toList = true := by decide
    exact fun word hword ↦ leads_of_chain (hwords word hword)
  placeholder number := leads_of_chain (placeholder_chain number)

/-- Query text begins with the word SELECT. -/
theorem text_begins (query : Query α) : ∃ rest, query.text = "SELECT ".toList ++ rest := by
  rw [text_eq, head_eq]
  simp only [List.append_assoc]
  exact ⟨_, rfl⟩

section WellNamed

variable {query : Query α} (hnames : query.WellNamed)
include hnames

/-- The text of a query whose names are identifiers contains no semicolon. -/
theorem semicolon_not_mem_text : ';' ∉ query.text :=
  no_semicolon_universal.text hnames

/-- The text of a query whose names are identifiers is spelled. -/
theorem text_spelled : Sql.Spelled query.text := by
  have h := leads_universal.text hnames [] .nil
  rwa [List.append_nil] at h

/-- The text of a query whose names are identifiers, if it has outlines, is a single statement that
selects. -/
theorem text_single_select {bounds : Sql.Bounds} {found : List (List Sql.Node)}
    (hfound : Sql.outlines bounds query.text = .ok found) : Sql.isSingleSelect found = true := by
  have hspelled := text_spelled hnames
  obtain ⟨rest, hrest⟩ := text_begins query
  rw [hrest] at hspelled hfound
  exact hspelled.is_single_select hfound

/-- The last check gives the text of such a query out if it has outlines. -/
theorem check_single_select_passes {bounds : Sql.Bounds} {found : List (List Sql.Node)}
    (hfound : Sql.outlines bounds query.text = .ok found) :
    checkSingleSelect bounds query.text = .ok query.text := by
  have hselects := text_single_select hnames hfound
  rw [checkSingleSelect, hfound]
  simp only [Except.mapError, bind, Except.bind, hselects, if_true]
  rfl

end WellNamed

end TenantReporting.Query
