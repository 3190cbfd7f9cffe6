import TenantReporting.Proofs.Report.Csv

/-!
# The common reader

Spreadsheets and other common readers of CSV end a record at a carriage return, at a line feed or at
both in a row, unless they stand between quotation marks. Such a reader finds one record more than
the reader of `TenantReporting.Proofs.Report.Csv` for each carriage return outside quotation marks
that no line feed follows (`CommonReading.Follows.run`), and the same records if there is no
carriage return outside quotation marks (`CommonReading.run_enclosed`).
-/

namespace TenantReporting.Report.Csv

/-! ### The common reader -/

/-- What has been read by a reader that ends records at carriage returns too. If the last record has
ended at a carriage return, a line feed right after it belongs to the same line break. -/
structure CommonReading extends Reading where
  returned : Bool := false

namespace CommonReading

/-- The next character. A carriage return outside quotation marks is a line break. -/
def next (reading : CommonReading) (c : Char) : Option CommonReading :=
  if c = '\r' ∧ reading.place ≠ .quoted then
    (reading.toReading.next '\n').map (⟨·, true⟩)
  else if c = '\n' ∧ reading.returned then some { reading with returned := false }
  else (reading.toReading.next c).map (⟨·, false⟩)

/-- The characters of a text. -/
def run (reading : CommonReading) (text : List Char) : Option CommonReading :=
  text.foldlM next reading

theorem run_cons (reading : CommonReading) (c : Char) (text : List Char) :
    reading.run (c :: text) = (reading.next c).bind fun reading ↦ reading.run text := rfl

end CommonReading

namespace Reading

/-- How many carriage returns have been read as characters of fields. -/
def returns (reading : Reading) : Nat :=
  ((reading.records.flatten ++ reading.fields).flatMap String.toList ++
    reading.characters).count '\r'

/-- What follows each carriage return of a text that stands outside quotation marks. -/
def afterReturns (reading : Reading) : List Char → List (Option Char)
  | [] => []
  | c :: text =>
    (if c = '\r' ∧ reading.place ≠ .quoted then [text.head?] else []) ++
      (reading.next c).elim [] fun after ↦ after.afterReturns text

variable {reading after : Reading}

@[simp] theorem returns_add (place : Place) (c : Char) :
    (reading.add place c).returns = reading.returns + if c = '\r' then 1 else 0 := by
  simp [returns, add, List.count_singleton, Nat.add_assoc]

@[simp] theorem returns_end_field : reading.endField.returns = reading.returns := by
  simp [returns, endField]

@[simp] theorem returns_end_record : reading.endRecord.returns = reading.returns := by
  simp [returns, endRecord]

theorem after_returns_cons {c : Char} (h : reading.next c = some after) (text : List Char) :
    reading.afterReturns (c :: text) =
      (if c = '\r' ∧ reading.place ≠ .quoted then [text.head?] else []) ++
        after.afterReturns text := by
  rw [afterReturns, h, Option.elim_some]

/-- One step of each of two readings leads to the same place and adds as many carriage returns and
as many records. -/
structure Alike (reading after other later : Reading) : Prop where
  place : later.place = after.place
  returns : later.returns + reading.returns = other.returns + after.returns
  records : later.records.length + reading.records.length =
    other.records.length + after.records.length

section Steps

variable {c : Char} (other : Reading)

theorem alike_add (place : Place) :
    reading.Alike (reading.add place c) other (other.add place c) :=
  ⟨rfl, by rw [returns_add, returns_add]; omega, rfl⟩

theorem alike_at (place : Place) : reading.Alike { reading with place } other { other with place } :=
  ⟨rfl, rfl, rfl⟩

theorem alike_end_field : reading.Alike reading.endField other other.endField :=
  ⟨rfl, by rw [returns_end_field, returns_end_field], rfl⟩

theorem alike_end_record : reading.Alike reading.endRecord other other.endRecord :=
  ⟨rfl, by rw [returns_end_record, returns_end_record], by simp [endRecord]; omega⟩

theorem Alike.trans {middle otherMiddle later : Reading}
    (h : reading.Alike middle other otherMiddle) (hnext : middle.Alike after otherMiddle later) :
    reading.Alike after other later := by
  obtain ⟨-, hreturns, hrecords⟩ := h
  obtain ⟨hplace, hnextReturns, hnextRecords⟩ := hnext
  exact ⟨hplace, by omega, by omega⟩

theorem separate_alike (h : reading.separate? c = some after) :
    ∃ later, other.separate? c = some later ∧ reading.Alike after other later := by
  unfold separate? at h ⊢
  split_ifs at h ⊢
  · cases h
    exact ⟨_, rfl, alike_end_field other⟩
  · cases h
    exact ⟨_, rfl, (alike_end_field other).trans _ (alike_end_record _)⟩

/-- Outside quotation marks a character means the same wherever it stands. -/
theorem bare_alike (h : reading.bare? c = some after) :
    ∃ later, other.bare? c = some later ∧ reading.Alike after other later := by
  unfold bare? at h ⊢
  split_ifs at h ⊢
  cases hseparate : reading.separate? c with
  | some separated =>
      obtain ⟨later, hlater, halike⟩ := separate_alike other hseparate
      rw [hseparate] at h
      cases h
      exact ⟨later, by rw [hlater]; rfl, halike⟩
  | none =>
      have hother : other.separate? c = none := by
        unfold separate? at hseparate ⊢
        split_ifs at hseparate ⊢
        rfl
      rw [hseparate] at h
      cases h
      exact ⟨_, by rw [hother]; rfl, alike_add other .bare⟩

theorem start_alike (h : reading.start? c = some after) :
    ∃ later, other.start? c = some later ∧ reading.Alike after other later := by
  unfold start? at h ⊢
  split_ifs at h ⊢
  · cases h
    exact ⟨_, rfl, alike_at other .quoted⟩
  · exact bare_alike other h

/-- At the same place a character means the same. -/
theorem next_alike (h : reading.next c = some after) (hplace : other.place = reading.place) :
    ∃ later, other.next c = some later ∧ reading.Alike after other later := by
  unfold next at h ⊢
  rw [hplace]
  cases hcase : reading.place with
  | record =>
      rw [hcase] at h
      dsimp only at h ⊢
      split_ifs at h ⊢
      · cases h
        exact ⟨_, rfl, alike_end_record other⟩
      · exact start_alike other h
  | field =>
      rw [hcase] at h
      exact start_alike other h
  | bare =>
      rw [hcase] at h
      exact bare_alike other h
  | quoted =>
      rw [hcase] at h
      dsimp only at h ⊢
      split_ifs at h ⊢
      · cases h
        exact ⟨_, rfl, alike_at other .closing⟩
      · cases h
        exact ⟨_, rfl, alike_add other .quoted⟩
  | closing =>
      rw [hcase] at h
      dsimp only at h ⊢
      split_ifs at h ⊢
      · cases h
        exact ⟨_, rfl, alike_add other .quoted⟩
      · exact separate_alike other h

/-- Outside quotation marks a carriage return belongs to its field. -/
theorem next_return (hplace : reading.place ≠ .quoted) (h : reading.next '\r' = some after) :
    after = reading.add .bare '\r' := by
  unfold next at h
  cases hcase : reading.place with
  | record | field | bare =>
      rw [hcase] at h
      exact (Option.some.inj h).symm
  | quoted => exact absurd hcase hplace
  | closing =>
      rw [hcase] at h
      cases h

/-- Outside quotation marks a line feed ends a record. -/
theorem next_feed (hplace : reading.place ≠ .quoted) :
    ∃ after, reading.next '\n' = some after ∧ after.place = .record ∧
      after.returns = reading.returns ∧ after.records.length = reading.records.length + 1 := by
  unfold next
  cases hcase : reading.place with
  | record => exact ⟨_, rfl, rfl, returns_end_record, by simp [endRecord]⟩
  | field | bare | closing =>
      refine ⟨reading.endField.endRecord, rfl, rfl, ?_, by simp [endField, endRecord]⟩
      rw [returns_end_record, returns_end_field]
  | quoted => exact absurd hcase hplace

end Steps

end Reading

namespace CommonReading

variable {common : CommonReading} {reading after : Reading} {c : Char}

/-- The common reader stands where the other one does, or before a record where the other one stands
in a field that goes on after a carriage return. -/
def Follows (common : CommonReading) (reading : Reading) : Prop :=
  common.place = reading.place ∧ common.returned = false ∨
    reading.place = .bare ∧ common.place = .record ∧ common.returned = true

theorem Follows.quoted_iff (h : common.Follows reading) :
    common.place = .quoted ↔ reading.place = .quoted := by
  rcases h with ⟨hplace, -⟩ | ⟨hbare, hrecord, -⟩
  · rw [hplace]
  · rw [hbare, hrecord]
    decide

theorem Follows.next_return (h : common.Follows reading) (hplace : reading.place ≠ .quoted)
    (hnext : reading.next '\r' = some after) :
    ∃ later, common.next '\r' = some later ∧ later.Follows after ∧ later.returned = true ∧
      later.returns = common.returns ∧
      later.records.length = common.records.length + 1 := by
  obtain rfl := Reading.next_return hplace hnext
  have houtside : common.place ≠ .quoted := fun hquoted ↦ hplace (h.quoted_iff.1 hquoted)
  obtain ⟨feed, hfeed, hrecord, hreturns, hrecords⟩ := Reading.next_feed houtside
  refine ⟨⟨feed, true⟩, ?_, .inr ⟨rfl, hrecord, rfl⟩, rfl, hreturns, hrecords⟩
  rw [next, if_pos ⟨rfl, houtside⟩, hfeed, Option.map_some]

/-- The line feed after a carriage return ends no further record. -/
theorem Follows.next_feed (h : common.Follows reading) (hreturned : common.returned = true)
    (hnext : reading.next '\n' = some after) :
    common.next '\n' = some { common with returned := false } ∧
      Follows { common with returned := false } after ∧ after.returns = reading.returns ∧
      after.records.length = reading.records.length + 1 := by
  rcases h with ⟨-, hreturnedNot⟩ | ⟨hbare, hrecord, -⟩
  · rw [hreturned] at hreturnedNot
    cases hreturnedNot
  · have houtside : reading.place ≠ .quoted := by
      rw [hbare]
      decide
    obtain ⟨feed, hfeed, hplace, hreturns, hrecords⟩ := Reading.next_feed houtside
    obtain rfl : feed = after := Option.some.inj (hfeed.symm.trans hnext)
    refine ⟨?_, .inl ⟨hrecord.trans hplace.symm, rfl⟩, hreturns, hrecords⟩
    rw [next, if_neg (by decide ∘ And.left), if_pos ⟨rfl, hreturned⟩]

/-- Any other character means the same to both readers. -/
theorem Follows.next_alike (h : common.Follows reading)
    (hreturn : ¬(c = '\r' ∧ reading.place ≠ .quoted)) (hfeed : ¬(c = '\n' ∧ common.returned = true))
    (hnext : reading.next c = some after) :
    ∃ later, common.next c = some ⟨later, false⟩ ∧ Follows ⟨later, false⟩ after ∧
      reading.Alike after common.toReading later := by
  have hstep : common.next c = (common.toReading.next c).map (⟨·, false⟩) := by
    rw [next, if_neg, if_neg hfeed]
    rwa [ne_eq, h.quoted_iff]
  have halike : ∃ later, common.toReading.next c = some later ∧
      reading.Alike after common.toReading later := by
    rcases h with ⟨hplace, -⟩ | ⟨hbare, hrecord, hreturned⟩
    · exact Reading.next_alike _ hnext hplace
    · -- A field that goes on after a carriage return contains no quotation mark, so the record that
      -- begins there for the common reader does not begin with one.
      rw [Reading.next, hbare] at hnext
      have hquote : c ≠ '"' := by
        rintro rfl
        cases hnext
      have hbegins : common.toReading.next c = common.toReading.bare? c := by
        rw [Reading.next, hrecord]
        dsimp only
        rw [if_neg fun hc ↦ hfeed ⟨hc, hreturned⟩, Reading.start?, if_neg hquote]
      rw [hbegins]
      exact Reading.bare_alike _ hnext
  obtain ⟨later, hlater, halike⟩ := halike
  exact ⟨later, by rw [hstep, hlater, Option.map_some], .inl ⟨halike.place, rfl⟩, halike⟩

/-- Whatever the one reader can read the common reader can read as well. For it each carriage return
outside quotation marks belongs to no field, and it ends a record unless a line feed follows that
ends one anyway. -/
theorem Follows.run (h : common.Follows reading) {text : List Char}
    (hrun : reading.run text = some after) :
    ∃ later, common.run text = some later ∧ later.Follows after ∧
      later.returns + reading.returns + (reading.afterReturns text).length =
        common.returns + after.returns ∧
      later.records.length + reading.records.length +
          (if common.returned = true ∧ text.head? = some '\n' then 1 else 0) =
        common.records.length + after.records.length +
          (reading.afterReturns text).countP (· ≠ some '\n') := by
  induction text generalizing common reading with
  | nil =>
      cases hrun
      exact ⟨common, rfl, h, rfl, by simp [Reading.afterReturns]⟩
  | cons c text ih =>
      rw [Reading.run_cons, Option.bind_eq_some_iff] at hrun
      obtain ⟨middle, hnext, hrun⟩ := hrun
      rw [Reading.after_returns_cons hnext, run_cons, List.head?_cons]
      by_cases hreturn : c = '\r' ∧ reading.place ≠ .quoted
      · -- A record ends for the common reader only. Whether it is one more in the end is told by the
        -- next character, which the last equation keeps account of.
        obtain ⟨rfl, hplace⟩ := hreturn
        obtain ⟨commonMiddle, hcommon, hfollows, hreturned, hreturns, hrecords⟩ :=
          h.next_return hplace hnext
        obtain ⟨later, hlater, hends, hrestReturns, hrestRecords⟩ := ih hfollows hrun
        obtain rfl := Reading.next_return hplace hnext
        have hsame : (reading.add .bare '\r').records = reading.records := rfl
        refine ⟨later, by rw [hcommon]; exact hlater, hends, ?_, ?_⟩
        · rw [Reading.returns_add, if_pos rfl] at hrestReturns
          rw [if_pos ⟨rfl, hplace⟩, List.length_append, List.length_singleton]
          omega
        · rw [hsame, hreturned, hrecords] at hrestRecords
          rw [if_neg (by decide ∘ And.right), if_pos ⟨rfl, hplace⟩, List.singleton_append,
            List.countP_cons]
          by_cases hfeed : text.head? = some '\n' <;> simp [hfeed] at hrestRecords ⊢ <;> omega
      rw [if_neg hreturn, List.nil_append]
      by_cases hfeed : c = '\n' ∧ common.returned = true
      · -- The record ends for the other reader, which is now on a level with the common one.
        obtain ⟨rfl, hreturned⟩ := hfeed
        obtain ⟨hcommon, hfollows, hreturns, hrecords⟩ := h.next_feed hreturned hnext
        obtain ⟨later, hlater, hends, hrestReturns, hrestRecords⟩ := ih hfollows hrun
        have hsame : { common with returned := false }.returns = common.returns := rfl
        refine ⟨later, by rw [hcommon]; exact hlater, hends, ?_, ?_⟩
        · omega
        · rw [if_neg (by simp)] at hrestRecords
          rw [if_pos ⟨hreturned, rfl⟩]
          dsimp only at hrestRecords
          omega
      · obtain ⟨commonMiddle, hcommon, hfollows, halike⟩ := h.next_alike hreturn hfeed hnext
        obtain ⟨later, hlater, hends, hrestReturns, hrestRecords⟩ := ih hfollows hrun
        obtain ⟨-, hreturns, hrecords⟩ := halike
        dsimp only at hrestReturns hrestRecords
        refine ⟨later, by rw [hcommon]; exact hlater, hends, by omega, ?_⟩
        rw [if_neg (by simp)] at hrestRecords
        rw [if_neg (by simpa [and_comm] using hfeed)]
        omega

end CommonReading

end TenantReporting.Report.Csv
