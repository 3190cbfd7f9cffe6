import TenantReporting.Proofs.Sql.Form
import TenantReporting.Proofs.Sql.Outline

/-!
# Written text and its tokens

`Spelled text` says how query text for a report is written: characters that may stand outside of
quotations, each of which fits the next one, and quotations. Such text is cut into tokens at places
from which it is spelled again, because a token either stops before the next quotation mark or is a
quotation. So none of its tokens ends a statement (`Spelled.inner`).
-/

namespace TenantReporting.Sql

variable {text rest : List Char} {before : Option Char} {c mark : Char} {count : Nat}

/-- The text consists of written characters that fit each other and of quotations with neither their
mark nor a backslash inside. -/
inductive Spelled : List Char → Prop where
  | nil : Spelled []
  | plain {c : Char} {rest : List Char} (hwritten : isWritten c = true)
      (hunquoted : isUnquoted c = true) (hfits : fits c rest.head? = true) (h : Spelled rest) :
      Spelled (c :: rest)
  | quoted {mark : Char} {inside rest : List Char} (hmark : isUnquoted mark = false)
      (hinside : ∀ d ∈ inside, d ≠ mark ∧ d ≠ '\\') (h : Spelled rest) :
      Spelled (mark :: (inside ++ mark :: rest))

/-! ### Quotations -/

/-- A character that neither is the mark nor escapes it stands inside of a quotation. -/
theorem quotation_length_cons (hmark : c ≠ mark) (hescape : c ≠ '\\') (hrest : rest ≠ []) :
    quotationLength? mark true count (c :: rest) = quotationLength? mark true (count + 1) rest := by
  cases rest with
  | nil => exact absurd rfl hrest
  | cons d rest => simp [quotationLength?, hmark, hescape]

theorem quotation_length_inside {inside : List Char}
    (hinside : ∀ d ∈ inside, d ≠ mark ∧ d ≠ '\\') :
    quotationLength? mark true count (inside ++ mark :: rest) =
      quotationLength? mark true (count + inside.length) (mark :: rest) := by
  induction inside generalizing count with
  | nil => rfl
  | cons d inside ih =>
      obtain ⟨⟨hmark, hescape⟩, hinside⟩ := List.forall_mem_cons.1 hinside
      rw [List.cons_append, quotation_length_cons hmark hescape (by simp), ih hinside,
        List.length_cons, Nat.add_right_comm, Nat.add_assoc]

/-- A mark that a different character follows ends the quotation. -/
theorem quotation_length_end (h : rest.head? ≠ some mark) :
    quotationLength? mark true count (mark :: rest) = some (count + 1) := by
  cases rest with
  | nil => simp [quotationLength?]
  | cons d rest =>
      have hd : d ≠ mark := by simpa using h
      simp [quotationLength?, hd]

/-- A doubled mark does not end the quotation if the mark comes once more. -/
theorem quotation_length_pair (h : mark ∈ rest) :
    quotationLength? mark true count (mark :: mark :: rest) =
      quotationLength? mark true (count + 2) rest := by
  simp [quotationLength?, h]

/-- A quotation before spelled text can be closed, and what comes after it is spelled. If another
quotation with the same mark comes right after it, both are one quotation. -/
theorem Spelled.closes (hmark : isUnquoted mark = false) (h : Spelled rest) (count : Nat) :
    ∃ length, quotationLength? mark true count (mark :: rest) = some (count + length) ∧
      1 ≤ length ∧ Spelled ((mark :: rest).drop length) := by
  induction h generalizing count with
  | nil => exact ⟨1, quotation_length_end nofun, Nat.le_refl 1, .nil⟩
  | @plain c rest hwritten hunquoted hfits h _ =>
      have hne : c ≠ mark := by
        rintro rfl
        rw [hunquoted] at hmark
        cases hmark
      refine ⟨1, quotation_length_end ?_, Nat.le_refl 1, .plain hwritten hunquoted hfits h⟩
      simpa using hne
  | @quoted other inside rest hother hinside h ih =>
      by_cases heq : other = mark
      · subst heq
        obtain ⟨length, hlength, hpositive, hdrop⟩ := ih (count + 2 + inside.length)
        refine ⟨2 + inside.length + length, ?_, by omega, ?_⟩
        · rw [quotation_length_pair (by simp), quotation_length_inside hinside, hlength]
          congr 1
          omega
        · rw [← List.drop_drop, Nat.add_comm 2, List.drop_succ_cons, List.drop_succ_cons,
            List.drop_left]
          exact hdrop
      · refine ⟨1, quotation_length_end ?_, Nat.le_refl 1, .quoted hother hinside h⟩
        simpa using heq

/-! ### Tokens -/

/-- A quotation mark begins no word. -/
theorem fits_of_mark (hmark : isUnquoted mark = false) (next? : Option Char) :
    fits mark next? = true := by
  rcases mark_eq hmark with rfl | rfl
  · rfl
  · rfl

/-- The first character of spelled text is written and fits the next one. -/
theorem Spelled.first (h : Spelled (c :: rest)) :
    isWritten c = true ∧ fits c rest.head? = true := by
  cases h with
  | plain hwritten _ hfits _ => exact ⟨hwritten, hfits⟩
  | quoted hmark _ _ => exact ⟨by simp [isWritten, hmark], fits_of_mark hmark _⟩

/-- Spelled text from which unquoted characters have been cut off is spelled. -/
theorem Spelled.drop (h : Spelled text) (hcount : count ≤ reach text) :
    Spelled (text.drop count) := by
  induction h generalizing count with
  | nil =>
      rw [List.drop_nil]
      exact .nil
  | @plain c rest hwritten hunquoted hfits h ih =>
      cases count with
      | zero => exact .plain hwritten hunquoted hfits h
      | succ count =>
          rw [reach_cons hunquoted] at hcount
          exact ih (Nat.le_of_succ_le_succ hcount)
  | quoted hmark hinside h _ =>
      rw [reach_mark hmark] at hcount
      rw [Nat.le_zero.1 hcount]
      exact .quoted hmark hinside h

/-- Where a quotation begins in spelled text, its form finds its end. -/
theorem Spelled.quotation (hmark : isUnquoted mark = false) (h : Spelled (mark :: rest)) :
    ∃ count, quotationLength? mark true 1 rest = some count ∧ 1 ≤ count ∧
      Spelled ((mark :: rest).drop count) := by
  cases h with
  | plain _ hunquoted _ _ =>
      rw [hunquoted] at hmark
      cases hmark
  | @quoted _ inside rest _ hinside h =>
      obtain ⟨length, hlength, hpositive, hdrop⟩ := h.closes hmark (1 + inside.length)
      refine ⟨1 + inside.length + length, ?_, by omega, ?_⟩
      · rw [quotation_length_inside hinside, hlength]
      · rw [← List.drop_drop, Nat.add_comm 1, List.drop_succ_cons, List.drop_left]
        exact hdrop

/-- The form of quotations with the mark is among the forms. -/
theorem quotation_mem_forms (hmark : isUnquoted mark = false) :
    ∃ kind, (kind, Sql.quotation mark true) ∈ forms := by
  rcases mark_eq hmark with rfl | rfl
  · exact ⟨.symbol, by simp [forms]⟩
  · exact ⟨.text, by simp [forms]⟩

theorem word_kind_ordinary (word : String) :
    wordKind word ≠ .zone ∧ wordKind word ≠ .assignment := by
  unfold wordKind
  repeat' split
  all_goals decide

/-- The token at the front of spelled text is of an ordinary kind and leaves spelled text. -/
theorem Spelled.token {kind : TokenKind} (h : Spelled (c :: rest))
    (htoken : tokenAt before (c :: rest) = (kind, count)) :
    (kind ≠ .zone ∧ kind ≠ .assignment) ∧ 1 ≤ count ∧ Spelled ((c :: rest).drop count) := by
  obtain ⟨hwritten, hfits⟩ := h.first
  have hfine : ∀ {count}, Fine (c :: rest) count →
      1 ≤ count ∧ Spelled ((c :: rest).drop count) :=
    fun hcount ↦ ⟨hcount.positive, h.drop hcount.unquoted⟩
  unfold tokenAt at htoken
  split at htoken
  next found hfound =>
    obtain ⟨entry, hentry, hmap⟩ := List.exists_of_findSome?_eq_some hfound
    obtain ⟨length, hlength, rfl⟩ := Option.map_eq_some_iff.1 hmap
    cases htoken
    obtain ⟨hkind, hcount | ⟨hmark, hcount⟩⟩ :=
      forms_suit entry hentry before c rest count hwritten hfits hlength
    · exact ⟨hkind, hfine hcount⟩
    · obtain ⟨taken, htaken, hrest⟩ := h.quotation hmark
      cases hcount.symm.trans htaken
      exact ⟨hkind, hrest⟩
  next hnone =>
    split at htoken
    next length hlength =>
      cases htoken
      exact ⟨word_kind_ordinary _, hfine (word_length_fine hlength)⟩
    next =>
      cases htoken
      refine ⟨by decide, hfine (fine_one ?_ rest)⟩
      -- At a quotation mark the form of quotations would have fitted.
      by_contra hmark
      rw [Bool.not_eq_true] at hmark
      obtain ⟨kind, hkind⟩ := quotation_mem_forms hmark
      obtain ⟨taken, htaken, _⟩ := h.quotation hmark
      have hform := List.findSome?_eq_none_iff.1 hnone _ hkind
      simp [Sql.quotation, htaken] at hform

/-! ### Words -/

theorem head_words_after {current : List Char} (hcurrent : current ≠ []) (text : List Char) :
    (Text.wordsAfter current text).head? =
      some (current.reverse ++ text.takeWhile fun c ↦ !Text.isBlank c) := by
  induction text generalizing current with
  | nil => simp [Text.wordsAfter, hcurrent]
  | cons c text ih =>
      rw [Text.wordsAfter]
      cases hblank : Text.isBlank c with
      | true => simp [hblank, hcurrent]
      | false => simp [hblank, ih]

/-- The first word of a text that begins with no blank. -/
theorem head_words (h : Text.isBlank c = false) (text : List Char) :
    (Text.words (c :: text)).head? = some (c :: text.takeWhile fun c ↦ !Text.isBlank c) := by
  rw [Text.words, Text.wordsAfter, h]
  exact head_words_after (by simp) text

/-- Every written character is an ASCII character. -/
theorem written_lt (h : isWritten c = true) : c.toNat < 128 := by
  have hmarks : " (),.$=<>!_".toList.all (·.toNat < 128) = true := by decide
  simp only [isWritten, Bool.or_eq_true, Bool.not_eq_true', List.contains_iff_mem] at h
  rcases h with ((hupper | hdigit) | hmark) | hquote
  · have hbounds : 65 ≤ c.toNat ∧ c.toNat ≤ 90 := by
      have hrange : 65 ≤ c.val ∧ c.val ≤ 90 := of_decide_eq_true hupper
      simpa [UInt32.le_iff_toNat_le] using hrange
    omega
  · exact digit_lt hdigit
  · simpa using List.all_eq_true.1 hmarks c hmark
  · rcases mark_eq hquote with rfl | rfl <;> decide

/-- The only blank that is written is the space. -/
theorem written_blank (hwritten : isWritten c = true) (hblank : Text.isBlank c = true) :
    c = ' ' :=
  ascii_forall (P := fun c ↦ isWritten c = true → Text.isBlank c = true → c = ' ')
    (by decide) (written_lt hwritten) hwritten hblank

/-! ### All tokens -/

/-- A token that begins with a written character is no mark that begins with another one. -/
theorem not_mark {kind : TokenKind} {tail : List Char} (first : Char) (others : List Char)
    (hfirst : isWritten first = false) (hwritten : isWritten c = true) :
    Token.isMark (String.ofList (first :: others)) ⟨kind, String.ofList (c :: tail)⟩ = false := by
  rw [Token.isMark, Bool.and_eq_false_iff]
  refine Or.inr (beq_eq_false_iff_ne.2 fun heq ↦ ?_)
  have hlists := congrArg String.toList heq
  rw [String.toList_ofList, String.toList_ofList] at hlists
  rw [(List.cons.inj hlists).1, hfirst] at hwritten
  cases hwritten

/-- The first word of a token is not GO if its first character fits the next one. -/
theorem first_word_ne (hblank : Text.isBlank c = false) (hfits : fits c rest.head? = true)
    (length : Nat) : (Text.words (c :: rest.take length)).head? ≠ some ['G', 'O'] := by
  rw [head_words hblank]
  intro hword
  obtain ⟨rfl, hothers⟩ := List.cons.inj (Option.some.inj hword)
  have hunfit : fits 'G' (some 'O') = false := by decide
  cases rest with
  | nil => simp at hothers
  | cons d rest =>
      cases length with
      | zero => simp at hothers
      | succ length =>
          rw [List.take_succ_cons, List.takeWhile_cons] at hothers
          split at hothers
          next =>
            obtain ⟨rfl, _⟩ := List.cons.inj hothers
            rw [List.head?_cons, hunfit] at hfits
            cases hfits
          next => cases hothers

/-- The token at the front of spelled text ends no statement and binds nothing. -/
theorem Spelled.inner_token {kind : TokenKind} (h : Spelled (c :: rest))
    (htoken : tokenAt before (c :: rest) = (kind, count)) (length : Nat) :
    Token.Inner ⟨kind, String.ofList (c :: rest.take length)⟩ := by
  obtain ⟨⟨hzone, hassignment⟩, _⟩ := h.token htoken
  obtain ⟨hwritten, hfits⟩ := h.first
  refine ⟨?calm, not_mark ';' [] (by decide) hwritten, ?word⟩
  case calm =>
    have hcast : Token.isMark "::" ⟨kind, String.ofList (c :: rest.take length)⟩ = false :=
      not_mark ':' [':'] (by decide) hwritten
    simp only [Token.isCalm, hcast, Bool.not_false, Bool.and_true, Bool.and_eq_true, bne_iff_ne]
    exact ⟨hzone, hassignment⟩
  case word =>
    intro hkind
    change kind = .keyword at hkind
    rw [String.toList_ofList]
    cases hblank : Text.isBlank c with
    | true =>
        -- The space is a token of its own, which is no keyword.
        have hspace : tokenAt before (' ' :: rest) = (.space, 1) := rfl
        rw [written_blank hwritten hblank, hspace] at htoken
        cases htoken
        cases hkind
    | false => exact first_word_ne hblank hfits length

/-- No token of spelled text ends a statement. -/
theorem Spelled.inner (h : Spelled text) : ∀ token ∈ tokensAfter before text, token.Inner := by
  induction before, text using tokensAfter.induct with
  | case1 before => simp [tokensAfter]
  | case2 before c rest kind count htoken tail ih =>
      rw [tokensAfter, htoken]
      refine List.forall_mem_cons.2 ⟨h.inner_token htoken (count - 1), ih ?_⟩
      obtain ⟨_, hpositive, hdrop⟩ := h.token htoken
      obtain ⟨others, rfl⟩ := Nat.exists_eq_add_of_le' hpositive
      exact hdrop

/-- The word SELECT at the front of a text is a token. -/
theorem token_at_select (rest : List Char) :
    tokenAt none ("SELECT ".toList ++ rest) = (.manipulation, 6) := by
  have hforms : (forms.findSome? fun entry ↦
      (entry.2 none ("SELECT ".toList ++ rest)).map (entry.1, ·)) = none := by
    simp only [forms, List.findSome?_append, Option.or_eq_none_iff]
    refine ⟨⟨⟨⟨⟨⟨?_, ?_⟩, ?_⟩, ?_⟩, ?_⟩, ?_⟩, ?_⟩ <;> rfl
  have hlength : wordLength? ("SELECT ".toList ++ rest) = some 6 := rfl
  have hkind : wordKind (Text.capitals "SELECT") = .manipulation := by decide
  unfold tokenAt
  rw [hforms, hlength]
  exact congrArg (·, 6) hkind

/-- A text that begins with the word SELECT has it as its first token. -/
theorem head_tokens (rest : List Char) :
    (tokens ("SELECT ".toList ++ rest)).head? = some ⟨.manipulation, "SELECT"⟩ := by
  have htoken : tokenAt none ('S' :: ("ELECT ".toList ++ rest)) = (.manipulation, 6) :=
    token_at_select rest
  show (tokensAfter none ('S' :: ("ELECT ".toList ++ rest))).head? = _
  rw [tokensAfter, htoken]
  rfl

/-- Spelled text that begins with the word SELECT, if it has outlines, is a single statement that
selects. -/
theorem Spelled.is_single_select {bounds : Bounds} {found : List (List Node)}
    (h : Spelled ("SELECT ".toList ++ rest))
    (hfound : outlines bounds ("SELECT ".toList ++ rest) = .ok found) :
    isSingleSelect found = true :=
  Sql.is_single_select (head_tokens rest) h.inner hfound

end TenantReporting.Sql
