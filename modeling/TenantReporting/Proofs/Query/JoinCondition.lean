import TenantReporting.Proofs.Query.Assertions
import TenantReporting.Proofs.Query.Decoding
import TenantReporting.Proofs.Query.NormalForm
import TenantReporting.Proofs.Text.Run

/-!
# How join conditions are written

A text is a join condition exactly if it consists of two columns with a sign of equality between
them, where each name is an identifier and blanks stand around the columns only. It can be taken
apart in one way, and the four names that it consists of are what is read from it
(`conditions_read_as_written`).
-/

namespace TenantReporting

namespace Query

open Text (isBlank Stops)

/-! ### Spellings -/

/-- A way to write a join condition: its names, and what stands around the columns. -/
structure JoinCondition.Spelling where
  condition : JoinCondition
  front : List Char
  beforeSign : List Char
  afterSign : List Char
  back : List Char

/-- A column as it is written in a join condition. -/
def ColumnName.spelled (column : ColumnName) : List Char :=
  column.table.toList ++ '.' :: column.column.toList

namespace JoinCondition.Spelling

/-- The join condition as it is written. -/
def text (spelling : Spelling) : List Char :=
  spelling.front ++ (spelling.condition.left.spelled ++ (spelling.beforeSign ++ '=' ::
    (spelling.afterSign ++ (spelling.condition.right.spelled ++ spelling.back))))

/-- Only blanks stand around the columns. -/
structure IsSpaced (spelling : Spelling) : Prop where
  front : ∀ c ∈ spelling.front, isBlank c = true
  beforeSign : ∀ c ∈ spelling.beforeSign, isBlank c = true
  afterSign : ∀ c ∈ spelling.afterSign, isBlank c = true
  back : ∀ c ∈ spelling.back, isBlank c = true

/-- The text is a join condition: only blanks stand around the columns, and the names are
identifiers. -/
structure IsProper (spelling : Spelling) : Prop extends spelling.IsSpaced where
  names : ∀ name ∈ spelling.condition.names, IsIdentifier name

end JoinCondition.Spelling

/-- The name has the form of an identifier, whatever its length. -/
abbrev IsWord (name : String) : Prop :=
  isNameOver isNameCharacter name.toList = true

/-! ### Characters -/

/-- A character of a name is not blank. -/
theorem not_blank_of_name_character {c : Char} (h : isNameCharacter c = true) :
    isBlank c = false := by
  unfold isNameCharacter Char.isAlphanum Char.isAlpha Char.isUpper Char.isLower Char.isDigit at h
  simp only [Bool.or_eq_true, Bool.and_eq_true, decide_eq_true_eq, UInt32.le_iff_toNat_le,
    ge_iff_le, beq_iff_eq] at h
  have hbounds : 48 ≤ c.toNat ∧ c.toNat ≤ 122 := by
    rcases h with ((⟨h, h'⟩ | ⟨h, h'⟩) | ⟨h, h'⟩) | rfl
    · exact ⟨le_trans (by decide) h, le_trans h' (by decide)⟩
    · exact ⟨le_trans (by decide) h, le_trans h' (by decide)⟩
    · exact ⟨h, le_trans h' (by decide)⟩
    · decide
  simp only [isBlank, Text.isNumeralBlank, Text.isInformationSeparator]
  grind

/-- A name ends where blanks begin, if it ends where they end. -/
theorem stops_blanks {blanks rest : List Char} (h : ∀ c ∈ blanks, isBlank c = true)
    (hrest : Stops isNameCharacter rest) : Stops isNameCharacter (blanks ++ rest) := by
  cases blanks with
  | nil => exact hrest
  | cons c blanks =>
      rw [List.cons_append, Text.stops_cons]
      cases hc : isNameCharacter c with
      | false => rfl
      | true =>
          have hblank := h c List.mem_cons_self
          rw [not_blank_of_name_character hc] at hblank
          cases hblank

theorem stops_blank {blanks : List Char} (h : ∀ c ∈ blanks, isBlank c = true) :
    Stops isNameCharacter blanks := by
  have hstops := stops_blanks h (Text.stops_nil isNameCharacter)
  rwa [List.append_nil] at hstops

/-- A word begins like a name and goes on with characters of names. -/
theorem IsWord.parts {name : String} (h : IsWord name) :
    ∃ first rest, name.toList = first :: rest ∧ isNameStart first = true ∧
      ∀ c ∈ rest, isNameCharacter c = true := by
  cases hname : name.toList with
  | nil => simp [IsWord, hname, isNameOver] at h
  | cons first rest =>
      simp only [IsWord, hname, isNameOver, Bool.and_eq_true, List.all_eq_true] at h
      exact ⟨first, rest, rfl, h.1, h.2⟩

theorem IsWord.characters {name : String} (h : IsWord name) :
    ∀ c ∈ name.toList, isNameCharacter c = true := by
  obtain ⟨first, rest, hname, hfirst, hrest⟩ := h.parts
  rw [hname]
  exact List.forall_mem_cons.2 ⟨is_name_character_of_start hfirst, hrest⟩

/-- Blanks in front of a column end where it begins. -/
theorem stops_column {column : ColumnName} (h : IsWord column.table) (rest : List Char) :
    Stops isBlank (column.spelled ++ rest) := by
  obtain ⟨first, others, hname, hfirst, -⟩ := h.parts
  rw [ColumnName.spelled, hname, List.cons_append, List.cons_append, Text.stops_cons]
  exact not_blank_of_name_character (is_name_character_of_start hfirst)

/-! ### Taking a text apart -/

/-- The name at the front of a text is the longest word there. -/
theorem split_name_iff {text rest : List Char} {name : String} :
    splitName? text = some (name, rest) ↔
      text = name.toList ++ rest ∧ IsWord name ∧ Stops isNameCharacter rest := by
  constructor
  · intro h
    cases text with
    | nil => cases h
    | cons first others =>
        rw [splitName?] at h
        split at h
        next hfirst =>
          cases h
          refine ⟨?_, ?_, Text.stops_drop_while _ _⟩
          · rw [String.toList_ofList, List.cons_append, List.takeWhile_append_dropWhile]
          · rw [IsWord, String.toList_ofList, isNameOver, hfirst, Bool.true_and, List.all_eq_true]
            exact fun c hc ↦ List.mem_takeWhile_imp hc
        next => cases h
  · rintro ⟨rfl, hname, hrest⟩
    obtain ⟨first, others, hsplit, hfirst, hothers⟩ := hname.parts
    have hname : name = String.ofList (first :: others) := by rw [← hsplit, String.ofList_toList]
    rw [hsplit, List.cons_append, splitName?, if_pos hfirst, Text.take_while_run hothers hrest,
      Text.drop_while_run hothers hrest, hname]

/-- The column at the front of a text consists of two words with a point between them. -/
theorem split_column_iff {text rest : List Char} {column : ColumnName} :
    splitColumn? text = some (column, rest) ↔
      text = column.spelled ++ rest ∧ (∀ name ∈ column.names, IsWord name) ∧
        Stops isNameCharacter rest := by
  rw [ColumnName.names, List.forall_mem_cons, List.forall_mem_singleton]
  constructor
  · intro h
    unfold splitColumn? at h
    split at h
    next table others hsplit =>
      obtain ⟨rfl, htable, -⟩ := split_name_iff.1 hsplit
      obtain ⟨⟨name, last⟩, hname, heq⟩ := Option.map_eq_some_iff.1 h
      cases heq
      obtain ⟨rfl, hcolumn, hrest⟩ := split_name_iff.1 hname
      refine ⟨?_, ⟨htable, hcolumn⟩, hrest⟩
      rw [ColumnName.spelled, List.append_assoc, List.cons_append]
    next => cases h
  · rintro ⟨rfl, ⟨htable, hcolumn⟩, hrest⟩
    have hpoint : Stops isNameCharacter ('.' :: (column.column.toList ++ rest)) :=
      Text.stops_cons.2 (by decide)
    have hfirst : splitName? (column.spelled ++ rest) =
        some (column.table, '.' :: (column.column.toList ++ rest)) := by
      rw [split_name_iff, ColumnName.spelled, List.append_assoc, List.cons_append]
      exact ⟨rfl, htable, hpoint⟩
    have hsecond : splitName? (column.column.toList ++ rest) = some (column.column, rest) :=
      split_name_iff.2 ⟨rfl, hcolumn, hrest⟩
    simp only [splitColumn?, hfirst, hsecond, Option.map_some]

/-- The names of both columns are words if all names of a condition are. -/
theorem JoinCondition.words {condition : JoinCondition} :
    (∀ name ∈ condition.names, IsWord name) ↔
      (∀ name ∈ condition.left.names, IsWord name) ∧
        ∀ name ∈ condition.right.names, IsWord name := by
  rw [JoinCondition.names, List.forall_mem_append]

/-- A text that is taken apart is written as a condition whose names are words. -/
theorem spelling_of_split {text : List Char} {condition : JoinCondition}
    (h : splitCondition? text = some condition) :
    (∀ name ∈ condition.names, IsWord name) ∧ ∃ spelling : JoinCondition.Spelling,
      spelling.IsSpaced ∧ spelling.condition = condition ∧ spelling.text = text := by
  unfold splitCondition? at h
  split at h
  · cases h
  next left rest hleft =>
  split at h
  next others hsign =>
    split at h
    · cases h
    next right last hright =>
    split at h
    next hblank =>
      cases h
      obtain ⟨hfront, hwords, -⟩ := split_column_iff.1 hleft
      obtain ⟨hafter, hothers, -⟩ := split_column_iff.1 hright
      let spelling : JoinCondition.Spelling := {
        condition := ⟨left, right⟩
        front := text.takeWhile isBlank
        beforeSign := rest.takeWhile isBlank
        afterSign := others.takeWhile isBlank
        back := last }
      refine ⟨JoinCondition.words.2 ⟨hwords, hothers⟩, spelling, ?_, rfl, ?_⟩
      · exact {
          front := fun c hc ↦ List.mem_takeWhile_imp hc
          beforeSign := fun c hc ↦ List.mem_takeWhile_imp hc
          afterSign := fun c hc ↦ List.mem_takeWhile_imp hc
          back := List.all_eq_true.1 hblank }
      · show text.takeWhile isBlank ++ (left.spelled ++ (rest.takeWhile isBlank ++ '=' ::
          (others.takeWhile isBlank ++ (right.spelled ++ last)))) = text
        rw [← hafter, List.takeWhile_append_dropWhile, ← hsign, List.takeWhile_append_dropWhile,
          ← hfront, List.takeWhile_append_dropWhile]
    next => cases h
  next => cases h

/-- A condition whose names are words is found again in each text that is written for it. -/
theorem split_of_spelling {spelling : JoinCondition.Spelling} (hspaced : spelling.IsSpaced)
    (hwords : ∀ name ∈ spelling.condition.names, IsWord name) :
    splitCondition? spelling.text = some spelling.condition := by
  obtain ⟨hleft, hright⟩ := JoinCondition.words.1 hwords
  have hsign {p : Char → Bool} (hp : p '=' = false) : Stops p ('=' :: (spelling.afterSign ++
      (spelling.condition.right.spelled ++ spelling.back))) := Text.stops_cons.2 hp
  have hname_stops := stops_blanks hspaced.beforeSign (hsign (by decide))
  have hleft_split := split_column_iff.2 ⟨rfl, hleft, hname_stops⟩
  have hright_split := split_column_iff.2 ⟨rfl, hright, stops_blank hspaced.back⟩
  have hleft_start := Text.drop_while_run hspaced.front
    (stops_column (List.forall_mem_cons.1 hleft).1 (spelling.beforeSign ++ '=' ::
      (spelling.afterSign ++ (spelling.condition.right.spelled ++ spelling.back))))
  have hsign_start := Text.drop_while_run hspaced.beforeSign (hsign (by decide))
  have hright_start := Text.drop_while_run hspaced.afterSign
    (stops_column (List.forall_mem_cons.1 hright).1 spelling.back)
  have hblank := List.all_eq_true.2 hspaced.back
  simp only [splitCondition?, JoinCondition.Spelling.text, hleft_start, hleft_split, hsign_start,
    hright_start, hright_split, hblank, if_true]

/-! ### Uniqueness -/

/-- Where a column in front of a text ends does not depend on how the text has been put together. -/
theorem column_unique {column other : ColumnName} {rest others : List Char}
    (h : column.spelled ++ rest = other.spelled ++ others)
    (hwords : ∀ name ∈ column.names, IsWord name) (hrest : Stops isNameCharacter rest)
    (hother : ∀ name ∈ other.names, IsWord name) (hothers : Stops isNameCharacter others) :
    column = other ∧ rest = others := by
  have hfirst := split_column_iff.2 ⟨rfl, hwords, hrest⟩
  have hsecond := split_column_iff.2 ⟨rfl, hother, hothers⟩
  rw [h, hsecond] at hfirst
  cases hfirst
  exact ⟨rfl, rfl⟩

/-- A text is written as a join condition in one way at most. -/
theorem spelling_unique {spelling other : JoinCondition.Spelling}
    (h : spelling.text = other.text) (hspaced : spelling.IsSpaced) (hother : other.IsSpaced)
    (hwords : ∀ name ∈ spelling.condition.names, IsWord name)
    (hothers : ∀ name ∈ other.condition.names, IsWord name) : spelling = other := by
  obtain ⟨hleft, hright⟩ := JoinCondition.words.1 hwords
  obtain ⟨hleft', hright'⟩ := JoinCondition.words.1 hothers
  have hsign (rest : List Char) : Stops isNameCharacter ('=' :: rest) ∧ Stops isBlank ('=' :: rest) :=
    ⟨Text.stops_cons.2 (by decide), Text.stops_cons.2 (by decide)⟩
  unfold JoinCondition.Spelling.text at h
  -- The text is followed from the front, and each part ends where the next one begins.
  obtain ⟨hfronts, h⟩ := Text.run_unique h hspaced.front
    (stops_column (List.forall_mem_cons.1 hleft).1 _) hother.front
    (stops_column (List.forall_mem_cons.1 hleft').1 _)
  obtain ⟨hlefts, h⟩ := column_unique h hleft (stops_blanks hspaced.beforeSign (hsign _).1)
    hleft' (stops_blanks hother.beforeSign (hsign _).1)
  obtain ⟨hbefores, h⟩ := Text.run_unique h hspaced.beforeSign (hsign _).2 hother.beforeSign
    (hsign _).2
  obtain ⟨hafters, h⟩ := Text.run_unique (List.cons.inj h).2 hspaced.afterSign
    (stops_column (List.forall_mem_cons.1 hright).1 _) hother.afterSign
    (stops_column (List.forall_mem_cons.1 hright').1 _)
  obtain ⟨hrights, hbacks⟩ := column_unique h hright (stops_blank hspaced.back) hright'
    (stops_blank hother.back)
  cases spelling with
  | mk condition front beforeSign afterSign back =>
  cases other with
  | mk condition' front' beforeSign' afterSign' back' =>
  cases condition
  cases condition'
  simp only at hfronts hlefts hbefores hafters hrights hbacks
  subst hfronts hlefts hbefores hafters hrights hbacks
  rfl

/-! ### Join conditions -/

theorem JoinCondition.Spelling.IsProper.words {spelling : JoinCondition.Spelling}
    (h : spelling.IsProper) : ∀ name ∈ spelling.condition.names, IsWord name :=
  fun name hname ↦ (h.names name hname).2

/-- A column whose names are identifiers passes the check of its names. -/
theorem check_join_column_of_identifiers {column : ColumnName}
    (h : ∀ name ∈ column.names, IsIdentifier name) : checkJoinColumn column = .ok column := by
  obtain ⟨htable, hcolumn⟩ := ColumnName.identifiers h
  rw [checkJoinColumn, check_name_eq_ok_iff.2 ⟨rfl, htable⟩, check_name_eq_ok_iff.2 ⟨rfl, hcolumn⟩]
  rfl

/-- What is read from a text is what it is written from. -/
theorem join_condition_iff {text : String} {condition : JoinCondition} :
    joinCondition text = .ok condition ↔ ∃ spelling : JoinCondition.Spelling,
      spelling.IsProper ∧ spelling.condition = condition ∧ spelling.text = text.toList := by
  constructor
  · intro h
    have hnames := join_condition_ends text
    rw [h] at hnames
    obtain ⟨-, spelling, hspaced, rfl, htext⟩ := spelling_of_split (join_condition_eq h)
    exact ⟨spelling, ⟨hspaced, hnames⟩, rfl, htext⟩
  · rintro ⟨spelling, hproper, rfl, htext⟩
    have hsplit := split_of_spelling hproper.toIsSpaced hproper.words
    rw [htext] at hsplit
    obtain ⟨hleft, hright⟩ := List.forall_mem_append.1 hproper.names
    have hsign : '=' ∈ text.toList := by
      rw [← htext, JoinCondition.Spelling.text]
      simp
    have hwritten : ¬text.toList.all isBlank = true := by
      rw [List.all_eq_true]
      intro hblank
      exact absurd (hblank '=' hsign) (by decide)
    rw [joinCondition, if_neg hwritten, hsplit]
    dsimp only
    rw [check_join_column_of_identifiers hleft, check_join_column_of_identifiers hright]
    rfl

/-- The condition in query text tells its names. -/
theorem condition_text_inj {condition other : JoinCondition}
    (h : ∀ name ∈ condition.names, IsIdentifier name)
    (hother : ∀ name ∈ other.names, IsIdentifier name) (htext : condition.text = other.text) :
    condition = other := by
  obtain ⟨hleft, hright⟩ := List.forall_mem_append.1 h
  obtain ⟨hleft', hright'⟩ := List.forall_mem_append.1 hother
  unfold JoinCondition.text at htext
  rw [List.append_assoc, List.append_assoc] at htext
  have hlefts := read_column_text hleft (" = ".toList ++ condition.right.text) trivial
  rw [htext, read_column_text hleft' _ trivial] at hlefts
  obtain ⟨hsame, hrest⟩ := Prod.mk.inj (Option.some.inj hlefts)
  have hrights := read_column_text hright [] trivial
  rw [← List.append_cancel_left hrest, read_column_text hright' [] trivial] at hrights
  cases condition
  cases other
  simp only [Option.some.injEq, Prod.mk.injEq, and_true] at hsame hrights
  rw [hsame, hrights]

theorem JoinCondition.names_inj {condition other : JoinCondition} :
    condition.names = other.names ↔ condition = other := by
  obtain ⟨⟨table, column⟩, ⟨table', column'⟩⟩ := condition
  obtain ⟨⟨first, second⟩, ⟨first', second'⟩⟩ := other
  simp [names, ColumnName.names, and_assoc]

/-- Join conditions that are accepted are given out in the same text only if they are the same. -/
theorem rendered_alike_iff {text otherText : String} {condition other : JoinCondition}
    (h : joinCondition text = .ok condition) (hother : joinCondition otherText = .ok other) :
    renderCondition other = renderCondition condition ↔ other.names = condition.names := by
  have hnames := join_condition_ends text
  rw [h] at hnames
  have hotherNames := join_condition_ends otherText
  rw [hother] at hotherNames
  rw [JoinCondition.names_inj]
  constructor
  · intro hrendered
    rw [(condition_quotable h).2, (condition_quotable hother).2] at hrendered
    exact condition_text_inj hotherNames hnames (String.ofList_injective (Except.ok.inj hrendered))
  · rintro rfl
    rfl

/-- A value that is not written as a join condition is refused as one. -/
theorem refused_of_unwritten {raw : Json}
    (h : ∀ spelling : JoinCondition.Spelling, spelling.IsProper →
      raw ≠ .text (String.ofList spelling.text)) :
    ∃ defect, joinCondition raw.givenText = .error defect := by
  cases hread : joinCondition raw.givenText with
  | error defect => exact ⟨defect, rfl⟩
  | ok condition =>
      obtain ⟨spelling, hproper, -, htext⟩ := join_condition_iff.1 hread
      cases raw with
      | text text =>
          have hwritten : Json.text text = .text (String.ofList spelling.text) := by
            rw [htext, String.ofList_toList]
            rfl
          exact absurd hwritten (h spelling hproper)
      | _ => cases hread

/-- A text is a join condition exactly if it consists of two columns, whose names are identifiers,
with a sign of equality between them and blanks around the columns only, and the names that are read
are those that it is written from. It is written in this way once at most. What is read is given out
without fail, and in the same text exactly if the names are the same. Every other value, text or
not, is refused as an invalid join condition. -/
theorem conditions_read_as_written :
    (∀ text condition, joinCondition text = .ok condition ↔
      ∃ spelling : JoinCondition.Spelling,
        spelling.IsProper ∧ spelling.condition = condition ∧ spelling.text = text.toList) ∧
    (∀ spelling other : JoinCondition.Spelling, spelling.IsProper → other.IsProper →
      spelling.text = other.text → spelling = other) ∧
    (∀ text condition, joinCondition text = .ok condition →
      renderCondition condition = .ok (String.ofList condition.text) ∧
        ∀ otherText other, joinCondition otherText = .ok other →
          (renderCondition other = renderCondition condition ↔ other.names = condition.names)) ∧
    ∀ raw : Json, (∀ spelling : JoinCondition.Spelling, spelling.IsProper →
        raw ≠ .text (String.ofList spelling.text)) →
      ∃ error : ReportError, error.kind = .invalidJoinCondition ∧
        (joinCondition raw.givenText).mapError (fun defect ↦ Failure.report (.join defect)) =
          .error (.report error) := by
  refine ⟨fun text condition ↦ join_condition_iff, ?_, fun text condition h ↦ ?_, fun raw h ↦ ?_⟩
  · intro spelling other hspelling hother htext
    exact spelling_unique htext hspelling.toIsSpaced hother.toIsSpaced hspelling.words hother.words
  · exact ⟨(condition_quotable h).2, fun otherText other hother ↦ rendered_alike_iff h hother⟩
  · obtain ⟨defect, hdefect⟩ := refused_of_unwritten h
    refine ⟨.join defect, rfl, ?_⟩
    rw [hdefect]
    rfl

/-- A join condition between a wide space and a line break, written without blanks at its sign, is
read into its names, it is written in no other way, and it is given out like the same condition with
blanks. A number is refused. -/
theorem unspaced_condition_read :
    let condition : JoinCondition := ⟨⟨"projects", "client_id"⟩, ⟨"clients", "id"⟩⟩
    let spelling : JoinCondition.Spelling := ⟨condition, ['\u3000'], [], [], ['\n']⟩
    let text := "\u3000projects.client_id=clients.id\n"
    joinCondition text = .ok condition ∧
      (∀ other : JoinCondition.Spelling, other.IsProper → spelling.text = other.text →
        spelling = other) ∧
      renderCondition condition =
        .ok "\"projects\".\"client_id\" = \"clients\".\"id\"" ∧
      ∃ error : ReportError, error.kind = .invalidJoinCondition ∧
        (joinCondition (Json.integer 42).givenText).mapError
            (fun defect ↦ Failure.report (.join defect)) = .error (.report error) := by
  intro condition spelling text
  have hproper : spelling.IsProper := {
    front := List.forall_mem_singleton.2 rfl
    beforeSign := List.forall_mem_nil _
    afterSign := List.forall_mem_nil _
    back := List.forall_mem_singleton.2 rfl
    names := by decide +kernel }
  have htext : spelling.text = text.toList := by decide +kernel
  have hgiven : String.ofList condition.text =
      "\"projects\".\"client_id\" = \"clients\".\"id\"" := by decide +kernel
  obtain ⟨hread, hunique, hrendered, hrefused⟩ := conditions_read_as_written
  have hcondition := (hread text condition).2 ⟨spelling, hproper, rfl, htext⟩
  obtain ⟨error, hkind, herror⟩ := hrefused (.integer 42) fun _ _ ↦ nofun
  refine ⟨hcondition, fun other hother ↦ hunique spelling other hproper hother, ?_,
    error, hkind, herror⟩
  rw [(hrendered text condition hcondition).1, hgiven]

end Query

end TenantReporting
