import TenantReporting.Proofs.Query.Placeholders
import TenantReporting.Query.Binding
import TenantReporting.Text.WordCharacter

/-!
# Statements with named parameters

Stores find the named parameters of a statement by a pattern: a colon that does not follow a colon,
a backslash or a word character, and then a name of word characters that no further colon follows.
`pieces` takes a statement apart in this way. In the statement made from slotted text it finds one
parameter for each placeholder and nothing else that could be taken for one (`slotted_pieces`).
-/

namespace TenantReporting.Query

variable {α : Type}

/-! ### The pattern for parameters -/

/-- A colon after this character does not begin a parameter. -/
def isShield (c : Char) : Bool :=
  c == ':' || c == '\\' || Text.isWordCharacter c

/-- The name of a parameter after its colon, empty if there is none. It is as long as possible, but
gives up its last character to keep away from a colon. -/
def nameAfterColon (rest : List Char) : List Char :=
  if (rest.dropWhile Text.isWordCharacter).head? = some ':' then
    (rest.takeWhile Text.isWordCharacter).dropLast
  else rest.takeWhile Text.isWordCharacter

/-- A piece of a statement: a character that stands for itself, or a parameter by its name. -/
inductive Piece where
  | plain (c : Char)
  | parameter (name : List Char)
deriving DecidableEq, Repr

/-- The pieces of a statement after a character. Parameters are found from left to right. -/
def pieces (previous : Option Char) : List Char → List Piece
  | [] => []
  | c :: rest =>
    -- No parameter begins inside a name, since names hold no colon.
    if c = ':' ∧ previous.any isShield = false ∧ nameAfterColon rest ≠ [] then
      .parameter (nameAfterColon rest) ::
        pieces (nameAfterColon rest).getLast? (rest.drop (nameAfterColon rest).length)
    else .plain c :: pieces (some c) rest
termination_by text => text.length
decreasing_by
  · rw [List.length_drop, List.length_cons]
    omega
  · exact Nat.lt_succ_self _

/-- The text of a piece. -/
def Piece.text : Piece → List Char
  | .plain c => [c]
  | .parameter name => ':' :: name

/-- The name of a piece that is a parameter. -/
def Piece.name? : Piece → Option (List Char)
  | .plain _ => none
  | .parameter name => some name

/-- The text of a piece with a parameter by its position. The name of a parameter is its position
after one letter. -/
def Piece.positional : Piece → List Char
  | .plain c => [c]
  | .parameter name => '$' :: name.drop 1

/-- The name of a parameter is at the front of what comes after its colon. -/
theorem name_after_colon_begins (rest : List Char) : nameAfterColon rest <+: rest := by
  have htake := List.takeWhile_prefix Text.isWordCharacter (l := rest)
  rw [nameAfterColon]
  split
  · exact (List.dropLast_prefix _).trans htake
  · exact htake

/-- The pieces of a statement make it up. -/
theorem pieces_text (previous : Option Char) (text : List Char) :
    (pieces previous text).flatMap Piece.text = text := by
  fun_induction pieces previous text with
  | case1 => rfl
  | case2 previous c rest hparameter ih =>
      obtain ⟨rfl, _⟩ := hparameter
      rw [List.flatMap_cons, Piece.text, ih, List.cons_append,
        List.prefix_iff_eq_append.1 (name_after_colon_begins rest)]
  | case3 previous c rest _ ih =>
      rw [List.flatMap_cons, ih]
      rfl

/-- Without colons every character stands for itself. -/
theorem pieces_plain {before : List Char} (h : Plain before) (previous : Option Char)
    (rest : List Char) : pieces previous (before ++ rest) =
      before.map .plain ++ pieces (before.getLast?.or previous) rest := by
  induction before generalizing previous with
  | nil => rfl
  | cons c before ih =>
      have hc : c ≠ ':' := (h c List.mem_cons_self).2
      have ih := ih (fun d hd ↦ h d (List.mem_cons_of_mem _ hd)) (some c)
      have hlast : (c :: before).getLast?.or previous = before.getLast?.or (some c) := by
        rw [List.getLast?_cons]
        cases before.getLast? <;> rfl
      rw [List.cons_append, pieces, if_neg fun hparameter ↦ hc hparameter.1, ih, hlast,
        List.map_cons, List.cons_append]

/-! ### Statements made from slotted text -/

/-- The name of the parameter for a placeholder. -/
def parameterName (number : Nat) : List Char :=
  'p' :: Nat.toDigits 10 number

/-- The name of a parameter is made of word characters. -/
theorem parameter_name_word (number : Nat) :
    ∀ c ∈ parameterName number, Text.isWordCharacter c = true := by
  intro c hc
  rcases List.mem_cons.1 hc with rfl | hc
  · decide
  have hdigit := is_digit_of_mem_digits hc
  have hsmall : c.toNat < 0x80 :=
    Nat.lt_of_le_of_lt (Char.isDigit_iff_toNat.1 hdigit).2 (by decide)
  rw [Text.isWordCharacter, if_pos hsmall, Char.isAlphanum, hdigit, Bool.or_true, Bool.true_or]

/-- What may come after a placeholder neither continues a name nor is a colon. -/
theorem closes_parameter {rest : List Char} (h : Closes rest) :
    Text.Stops Text.isWordCharacter rest ∧ rest.head? ≠ some ':' := by
  have hword : ∀ c ∈ rest.head?, Text.isWordCharacter c = false ∧ c ≠ ':' := by
    intro c hc
    have hclosing := h c hc
    simp only [Bool.or_eq_true, beq_iff_eq] at hclosing
    rcases hclosing with (rfl | rfl) | rfl <;> decide
  exact ⟨fun c hc ↦ (hword c hc).1, fun hcolon ↦ (hword ':' hcolon).2 rfl⟩

/-- A parameter for a placeholder is found after a character that opens one. -/
theorem pieces_parameter {opening : Char} (hopening : opening = ' ' ∨ opening = '(')
    (number : Nat) {rest : List Char} (h : Closes rest) :
    pieces (some opening) (':' :: (parameterName number ++ rest)) =
      .parameter (parameterName number) :: pieces (parameterName number).getLast? rest := by
  obtain ⟨hstops, hhead⟩ := closes_parameter h
  have hname : nameAfterColon (parameterName number ++ rest) = parameterName number := by
    rw [nameAfterColon, Text.take_while_run (parameter_name_word number) hstops,
      Text.drop_while_run (parameter_name_word number) hstops, if_neg hhead]
  have hshield : (some opening).any isShield = false := by
    rcases hopening with rfl | rfl <;> decide
  rw [pieces, hname, if_pos ⟨rfl, hshield, List.cons_ne_nil _ _⟩, List.drop_left]

/-- Plain text is kept when placeholders become parameters. -/
theorem bind_names_plain {before : List Char} (h : Plain before) (rest : List Char) :
    bindNames (before ++ rest) = before ++ bindNames rest := by
  induction before with
  | nil => rfl
  | cons c before ih =>
      have hc : (c == '$') = false := beq_false_of_ne (h c List.mem_cons_self).1
      rw [List.cons_append, bindNames, hc, Bool.false_and, if_neg Bool.false_ne_true,
        ih fun d hd ↦ h d (List.mem_cons_of_mem _ hd), List.cons_append]

/-- A placeholder becomes the parameter of its name. -/
theorem bind_names_placeholder (number : Nat) (rest : List Char) :
    bindNames (placeholder number ++ rest) = ':' :: (parameterName number ++ bindNames rest) := by
  have hdecimal : ((Nat.toDigits 10 number ++ rest).head?.bind Text.decimalDigit?).isSome = true := by
    cases hdigits : Nat.toDigits 10 number with
    | nil => exact absurd hdigits (Nat.toDigits_ne_nil)
    | cons c digits =>
        have hc : c ∈ Nat.toDigits 10 number := hdigits ▸ List.mem_cons_self
        exact is_decimal_of_is_digit (is_digit_of_mem_digits hc)
  rw [placeholder, List.cons_append, bindNames, hdecimal, beq_self_eq_true, Bool.true_and,
    if_pos rfl, bind_names_plain (plain_digits number), parameterName, List.cons_append]

/-- What may come after a placeholder may come after a parameter. -/
theorem bind_names_closes {rest : List Char} (h : Closes rest) : Closes (bindNames rest) := by
  cases rest with
  | nil => exact begins_nil
  | cons c rest =>
      have hclosing := h c rfl
      have hc : Plain [c] := by
        simp only [Bool.or_eq_true, beq_iff_eq] at hclosing
        rcases hclosing with (rfl | rfl) | rfl <;> decide
      have htext : bindNames (c :: rest) = c :: bindNames rest := bind_names_plain hc rest
      rw [htext]
      exact begins_cons hclosing

/-- The pieces have parameters for these numbers in this order, their text with positions is this
text, and no other piece is a dollar sign or a colon. -/
structure ReadAs (found : List Piece) (text : List Char) (numbers : List Nat) : Prop where
  names : found.filterMap Piece.name? = numbers.map parameterName
  positional : found.flatMap Piece.positional = text
  plain : ∀ c, .plain c ∈ found → c ≠ '$' ∧ c ≠ ':'

/-- Plain text is read as itself. -/
theorem ReadAs.of_plain {text : List Char} (h : Plain text) :
    ReadAs (text.map .plain) text [] where
  names := by
    rw [List.filterMap_map]
    exact List.filterMap_eq_nil_iff.2 fun c _ ↦ rfl
  positional := by
    rw [List.flatMap_map]
    exact List.flatMap_singleton' text
  plain := by
    intro c hc
    obtain ⟨d, hd, heq⟩ := List.mem_map.1 hc
    cases heq
    exact h c hd

/-- The parameter for a placeholder is read as this placeholder. -/
theorem ReadAs.parameter (number : Nat) :
    ReadAs [.parameter (parameterName number)] (placeholder number) [number] where
  names := rfl
  positional := List.append_nil _
  plain := by
    intro c hc
    cases List.mem_singleton.1 hc

theorem ReadAs.append {found others : List Piece} {text other : List Char}
    {numbers rest : List Nat} (h : ReadAs found text numbers) (hother : ReadAs others other rest) :
    ReadAs (found ++ others) (text ++ other) (numbers ++ rest) where
  names := by rw [List.filterMap_append, h.names, hother.names, List.map_append]
  positional := by rw [List.flatMap_append, h.positional, hother.positional]
  plain := by
    intro c hc
    rcases List.mem_append.1 hc with hc | hc
    · exact h.plain c hc
    · exact hother.plain c hc

/-- The statement made from a slotted text has one parameter for each placeholder. -/
theorem slotted_pieces {text : List Char} {numbers : List Nat} (h : Slotted text numbers)
    (previous : Option Char) : ReadAs (pieces previous (bindNames text)) text numbers := by
  induction h generalizing previous with
  | @plain text h =>
      have hstatement : bindNames (text ++ []) = text ++ [] := bind_names_plain h []
      have hpieces := pieces_plain h previous []
      rw [List.append_nil] at hstatement hpieces
      rw [hstatement, hpieces, pieces, List.append_nil]
      exact .of_plain h
  | @slot before rest opening number numbers hbefore hopening hrest _ ih =>
      have hplain : Plain (before ++ [opening]) := hbefore.append (plain_opening hopening)
      have hlast : (before ++ [opening]).getLast?.or previous = some opening := by
        rw [List.getLast?_concat, Option.some_or]
      have htext : before ++ opening :: (placeholder number ++ rest) =
          before ++ [opening] ++ (placeholder number ++ rest) := by
        rw [List.append_assoc, List.singleton_append]
      rw [htext, bind_names_plain hplain, bind_names_placeholder, pieces_plain hplain, hlast,
        pieces_parameter hopening number (bind_names_closes hrest)]
      exact (ReadAs.of_plain hplain).append ((ReadAs.parameter number).append (ih _))

/-- Such pieces hold no dollar sign. -/
theorem ReadAs.no_dollar {found : List Piece} {text : List Char} {numbers : List Nat}
    (h : ReadAs found text numbers) : '$' ∉ found.flatMap Piece.text := by
  intro hmem
  obtain ⟨piece, hpiece, hmem⟩ := List.mem_flatMap.1 hmem
  cases piece with
  | plain c =>
      rw [Piece.text, List.mem_singleton] at hmem
      exact (h.plain c hpiece).1 hmem.symm
  | parameter name =>
      have hname : name ∈ numbers.map parameterName := by
        rw [← h.names]
        exact List.mem_filterMap.2 ⟨_, hpiece, rfl⟩
      obtain ⟨number, _, rfl⟩ := List.mem_map.1 hname
      rcases List.mem_cons.1 hmem with hcolon | hmem
      · cases hcolon
      · exact Bool.noConfusion (parameter_name_word number '$' hmem)

/-! ### The values of parameters -/

/-- The key of the value for a placeholder. -/
def parameterKey (number : Nat) : String :=
  String.ofList (parameterName number)

/-- Parameters with different numbers have different keys. -/
theorem parameter_key_inj {number other : Nat} (h : parameterKey number = parameterKey other) :
    number = other := by
  have hnames : parameterName number = parameterName other := String.ofList_injective h
  have hdigits := (List.cons.inj hnames).2
  rw [← @Nat.ofDigitChars_ten_toDigits number, hdigits, Nat.ofDigitChars_ten_toDigits]

/-- The keys of values are numbered in a row. -/
theorem named_from_keys (number : Nat) (values : List α) :
    (namedFrom number values).map Prod.fst =
      (List.range' number values.length).map parameterKey := by
  induction values generalizing number with
  | nil => rfl
  | cons value values ih =>
      rw [namedFrom, List.map_cons, ih, List.length_cons, List.range'_succ, List.map_cons]
      rfl

/-- Under the key of a parameter stands the value at its place. -/
theorem named_from_lookup (number index : Nat) (values : List α) :
    (namedFrom number values).lookup (parameterKey (number + index)) = values[index]? := by
  induction values generalizing number index with
  | nil => rfl
  | cons value values ih =>
      show List.lookup _ ((parameterKey number, value) :: namedFrom (number + 1) values) = _
      cases index with
      | zero => rw [Nat.add_zero, List.lookup_cons_self, List.getElem?_cons_zero]
      | succ index =>
          have hne : parameterKey (number + (index + 1)) ≠ parameterKey number := by
            intro heq
            have hnumbers := parameter_key_inj heq
            omega
          have hnumber : number + (index + 1) = number + 1 + index := by omega
          rw [List.lookup_cons, beq_false_of_ne hne, hnumber, List.getElem?_cons_succ]
          exact ih (number + 1) index

/-- The statement with named parameters that is sent for a compiled query. -/
def Compiled.statement (compiled : Compiled) : String :=
  String.ofList (bindNames compiled.text.toList)

/-- The values that are sent for a compiled query by the names of their parameters. -/
def Compiled.binds (compiled : Compiled) : List (String × Json) :=
  named compiled.parameters

end TenantReporting.Query
