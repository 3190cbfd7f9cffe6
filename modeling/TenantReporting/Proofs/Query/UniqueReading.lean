import TenantReporting.Proofs.Query.Decoding

/-!
# Query text has one reading

The reader finds in the text of a query exactly the form of the query (`read_form_text`). Since the
form of a compiled query is the normal form of its configuration, two compiled texts are equal just
when the normal forms are.

Lists are read item by item. What follows an item is the next separator or the end of the list, so
the end has to be recognizable: no separator, or else no item, may be found there.
-/

namespace TenantReporting

namespace Query

variable {α β : Type}

/-! ### Lists -/

/-- What follows an item is the next separator, or else the end of the list. -/
theorem follow_items {follow : List Char → Prop} {separator : String}
    (hnext : ∀ other, follow (separator.toList ++ other)) {rest : List Char} (hrest : follow rest)
    (texts : List (List Char)) :
    follow (texts.flatMap (fun text ↦ separator.toList ++ text) ++ rest) := by
  cases texts with
  | nil => exact hrest
  | cons text texts =>
      rw [List.flatMap_cons, List.append_assoc, List.append_assoc]
      exact hnext _

/-- Items that each come after a separator are read one by one up to where no further item is
found. -/
theorem read_more_items {read : Reading α} {follow : List Char → Prop} {separator : String}
    {texts : List (List Char)} {values : List α} (h : List.Forall₂ (Reads read follow) texts values)
    (hpositive : ∀ text ∈ texts, separator.toList ++ text ≠ [])
    (hnext : ∀ other, follow (separator.toList ++ other)) {rest : List Char} (hrest : follow rest)
    (hstop : (after? separator rest).bind read = none) :
    readMore separator read (texts.flatMap (fun text ↦ separator.toList ++ text) ++ rest) =
      (values, rest) := by
  induction h with
  | nil =>
      rw [List.flatMap_nil, List.nil_append, readMore, hstop]
  | @cons text value texts values hitem _ ih =>
      have ih := ih fun text htext ↦ hpositive text (List.mem_cons_of_mem _ htext)
      have hfollow := follow_items hnext hrest texts
      have hlength : 0 < (separator.toList ++ text).length :=
        List.length_pos_iff.2 (hpositive text List.mem_cons_self)
      rw [List.flatMap_cons, List.append_assoc, List.append_assoc, readMore, after_append,
        Option.bind_some, hitem _ hfollow]
      simp only [ih]
      -- The reader goes on only if an item brings it closer to the end of the text.
      rw [if_pos]
      rw [List.length_append] at hlength
      simp only [List.length_append]
      omega

/-- The items of a clause are read if what follows the clause is neither a separator nor, in case
the clause is missing, its keyword. -/
theorem read_clause_text (keyword separator : String) {read : Reading α}
    {follow : List Char → Prop} {texts : List (List Char)} {values : List α}
    (h : List.Forall₂ (Reads read follow) texts values) {rest : List Char}
    (hseparator : separator.toList ≠ []) (hnext : ∀ other, follow (separator.toList ++ other))
    (hrest : follow rest) (hstop : after? separator rest = none)
    (hmissing : after? keyword rest = none) :
    readClause keyword separator read (clauseText keyword separator texts ++ rest) =
      some (values, rest) := by
  have hnone : (after? separator rest).bind read = none := by rw [hstop, Option.bind_none]
  cases h with
  | nil =>
      show readClause keyword separator read rest = some ([], rest)
      rw [readClause, hmissing]
  | @cons text value texts values hitem htail =>
      have hpositive : ∀ text ∈ texts, separator.toList ++ text ≠ [] :=
        fun text _ hempty ↦ hseparator (List.append_eq_nil_iff.1 hempty).1
      have hmore := read_more_items htail hpositive hnext hrest hnone
      have hfollow := follow_items hnext hrest texts
      have htext : clauseText keyword separator (text :: texts) ++ rest = keyword.toList ++
          (text ++ (texts.flatMap (fun text ↦ separator.toList ++ text) ++ rest)) := by
        rw [clauseText, if_neg (by simp), separated_cons, List.append_assoc, List.append_assoc]
      rw [htext, readClause, after_append]
      simp only [Option.bind_eq_bind, Option.bind_some, hitem _ hfollow, hmore]
      rfl

/-- Items that are each read from their own texts are read from the list of these texts. -/
theorem forall₂_reads {read : Reading α} {follow : List Char → Prop} {items : List α}
    {text : α → List Char} (h : ∀ item ∈ items, Reads read follow (text item) item) :
    List.Forall₂ (Reads read follow) (items.map text) items := by
  rw [List.forall₂_map_left_iff, List.forall₂_same]
  exact h

/-- The texts of numbered filters are read as the forms of these filters. -/
theorem filter_texts_read {filters : List (Filter α)}
    (h : ∀ filter ∈ filters, ∀ name ∈ filter.column.names, IsIdentifier name) (first : Nat) :
    List.Forall₂ (Reads readFilter NoDigit) (filterTexts first filters)
      (filters.map Filter.form) := by
  induction filters generalizing first with
  | nil => exact .nil
  | cons filter filters ih =>
      exact .cons (read_filter_text (h filter List.mem_cons_self) first)
        (ih (fun next hnext ↦ h next (List.mem_cons_of_mem _ hnext)) _)

/-! ### Whole texts -/

/-- A limit at the end of a text is read as this limit. -/
theorem read_limit_text (limit? : Option Nat) :
    readLimit (limitText limit?) = some (limit?, []) := by
  cases limit? with
  | none => rfl
  | some limit =>
      have hdigits := take_digits begins_nil limit
      rw [List.append_nil] at hdigits
      rw [limitText, Option.toList_some, List.flatMap_singleton, readLimit, after_append]
      simp only [hdigits.1, hdigits.2, Nat.ofDigitChars_ten_toDigits]

/-- The selected items are read up to the first table. -/
theorem read_selection_text {selection : List SelectItem}
    (h : ∀ item ∈ selection, ∀ name ∈ item.names, IsIdentifier name) (hsome : selection ≠ [])
    (rest : List Char) :
    readClause "SELECT " ", " readItem ("SELECT ".toList
        ++ (separated ", " (selection.map SelectItem.text) ++ (" FROM ".toList ++ rest))) =
      some (selection, " FROM ".toList ++ rest) := by
  have hfrom (word : String) (hclash : clashes " FROM " word = true) :
      after? word (" FROM ".toList ++ rest) = none := after_clash hclash rest
  have hnext (other : List Char) : after? " AS " (", ".toList ++ other) = none :=
    after_clash (by decide) other
  have hread := read_clause_text "SELECT " ", "
    (forall₂_reads fun item hitem ↦ read_item_text (h item hitem)) (by decide) hnext
    (hfrom " AS " (by decide)) (hfrom ", " (by decide)) (hfrom "SELECT " (by decide))
  rwa [clauseText, if_neg (by simpa using hsome), List.append_assoc] at hread

/-- The joins of a query are read if no join comes next. -/
theorem read_joins_text {joins : List Join} (h : ∀ join ∈ joins, ∀ name ∈ join.names, IsIdentifier name)
    {rest : List Char} (hrest : Opens [" WHERE ", " GROUP BY ", " ORDER BY ", " LIMIT "] rest) :
    readMore "" readJoin ((joins.flatMap fun join ↦ ' ' :: join.text) ++ rest) = (joins, rest) := by
  have hreads : List.Forall₂ (Reads readJoin Anything) (joins.map fun join ↦ ' ' :: join.text)
      joins :=
    forall₂_reads fun join hjoin ↦ read_join_text (h join hjoin)
  have hpositive : ∀ text ∈ joins.map fun join ↦ ' ' :: join.text, "".toList ++ text ≠ [] := by
    intro text htext
    obtain ⟨join, _, rfl⟩ := List.mem_map.1 htext
    exact List.cons_ne_nil _ _
  have hkind : readWord JoinKind.opening JoinKind.all rest = none :=
    read_word_eq_none fun kind _ ↦ hrest.after_eq_none (by cases kind <;> decide)
      (by cases kind <;> decide)
  have hstop : (after? "" rest).bind readJoin = none := by
    show (after? "" ("".toList ++ rest)).bind readJoin = none
    rw [after_append, Option.bind_some, readJoin, hkind]
    rfl
  have hmore := read_more_items hreads hpositive (fun _ ↦ trivial) trivial hstop
  rw [List.flatMap_map] at hmore
  exact hmore

/-- The filters of a query are read. -/
theorem read_restriction_text {query : Query α} (h : query.WellNamed) {rest : List Char}
    (hrest : Opens [" GROUP BY ", " ORDER BY ", " LIMIT "] rest) :
    readClause " WHERE " " AND " readFilter (query.restriction ++ rest) =
      some (query.filters.map Filter.form, rest) := by
  have hnext (other : List Char) : NoDigit (" AND ".toList ++ other) := begins_cons (by decide)
  exact read_clause_text " WHERE " " AND " (filter_texts_read h.filters 1) (by decide) hnext
    (hrest.begins (by decide)) (hrest.after_eq_none (by decide) (by decide))
    (hrest.after_eq_none (by decide) (by decide))

/-- The names to group by are read. -/
theorem read_groups_text {groups : List String} (h : ∀ name ∈ groups, IsIdentifier name)
    {rest : List Char} (hrest : Opens [" ORDER BY ", " LIMIT "] rest) :
    readClause " GROUP BY " ", " readName
        (clauseText " GROUP BY " ", " (groups.map quotedName) ++ rest) =
      some (groups, rest) :=
  read_clause_text " GROUP BY " ", "
    (forall₂_reads fun name hname ↦ read_name_quoted (h name hname)) (by decide)
    (fun _ ↦ trivial) trivial (hrest.after_eq_none (by decide) (by decide))
    (hrest.after_eq_none (by decide) (by decide))

/-- The columns to order by are read. -/
theorem read_order_text {order : List OrderKey} (h : ∀ key ∈ order, IsIdentifier key.column)
    {rest : List Char} (hrest : Opens [" LIMIT "] rest) :
    readClause " ORDER BY " ", " readKey
        (clauseText " ORDER BY " ", " (order.map OrderKey.text) ++ rest) =
      some (order, rest) :=
  read_clause_text " ORDER BY " ", " (forall₂_reads fun key hkey ↦ read_key_text (h key hkey))
    (by decide) (fun _ ↦ trivial) trivial (hrest.after_eq_none (by decide) (by decide))
    (hrest.after_eq_none (by decide) (by decide))

/-- The reader finds in the text of a query the form of the query. -/
theorem read_form_text {query : Query α} (hnames : query.WellNamed)
    (hselection : query.selection ≠ []) : readForm query.text = some query.form := by
  -- What comes after each clause opens with the keyword of one of the later clauses.
  have hlimit := opens_limit query.limit
  have horder := (opens_clause " ORDER BY " ", " (query.order.map OrderKey.text)).append hlimit
  have hgroups := (opens_clause " GROUP BY " ", " (query.groups.map quotedName)).append horder
  have hrestriction : Opens [" WHERE "] query.restriction := opens_clause " WHERE " " AND " _
  have hfilters := hrestriction.append hgroups
  rw [text_eq, head_eq, tail, readForm]
  simp only [List.append_assoc, Option.bind_eq_bind,
    read_selection_text hnames.selection hselection, Option.bind_some, after_append,
    read_name_quoted hnames.source _ trivial, read_joins_text hnames.joins hfilters,
    read_restriction_text hnames hgroups, read_groups_text hnames.groups horder,
    read_order_text hnames.order hlimit, read_limit_text]
  rfl

end Query

/-- Query text decodes uniquely. The reader finds in a compiled text the normal form of its
configuration, so two configurations have the same text exactly when they have the same normal
form. -/
theorem compiled_text_decodes {rules others : Query.Rules} {config other : ReportConfig}
    {compiled twin : Query.Compiled} (hcompiled : Query.compile rules config = .ok compiled)
    (htwin : Query.compile others other = .ok twin) :
    (∃ form, config.normalForm? = some form ∧ Query.readForm compiled.text.toList = some form) ∧
      (compiled.text = twin.text ↔ config.normalForm? = other.normalForm?) := by
  obtain ⟨query, hyields, hnames, htext, _⟩ := Query.compiled_query hcompiled
  obtain ⟨query', hyields', hnames', htext', _⟩ := Query.compiled_query htwin
  have hread := Query.read_form_text hnames hyields.selection_ne_nil
  have hread' := Query.read_form_text hnames' hyields'.selection_ne_nil
  refine ⟨⟨query.form, hyields.normal_form_eq, by rw [htext, hread]⟩, ?_⟩
  rw [hyields.normal_form_eq, hyields'.normal_form_eq, Option.some_inj]
  constructor
  · intro heq
    rw [← Option.some_inj, ← hread, ← hread', ← htext, ← htext', heq]
  · intro hform
    have hlists : compiled.text.toList = twin.text.toList := by
      rw [htext, htext', Query.text_eq_of_form_eq hform]
    exact String.toList_inj.1 hlists

/-- A report of a single column. -/
def columnReport : ReportConfig where
  tables := ["users"]
  columns := [⟨"users", "id", none, none⟩]
  joins := []
  filters := []
  groups := []
  order := []
  limit := .null

/-- The same report with a filter that restricts nothing, and an empty label. -/
def looseColumnReport : ReportConfig where
  tables := ["users"]
  columns := [⟨"users", "id", none, some ""⟩]
  joins := []
  filters := [⟨"users", "id", some " in", .list []⟩]
  groups := []
  order := []
  limit := .null

/-- Two reports that differ only in what does not count are compiled to the same text. -/
theorem column_report_text_eq : ∃ compiled twin,
    Query.compile {} columnReport = .ok compiled ∧ Query.compile {} looseColumnReport = .ok twin ∧
      compiled.text = twin.text := by
  have hplain : (Query.compile {} columnReport).isOk = true := by decide +kernel
  have hloose : (Query.compile {} looseColumnReport).isOk = true := by decide +kernel
  obtain ⟨compiled, hcompiled⟩ := Outcome.exists_of_is_ok hplain
  obtain ⟨twin, htwin⟩ := Outcome.exists_of_is_ok hloose
  have hforms : columnReport.normalForm? = looseColumnReport.normalForm? := by decide
  exact ⟨compiled, twin, hcompiled, htwin, (compiled_text_decodes hcompiled htwin).2.2 hforms⟩

end TenantReporting
