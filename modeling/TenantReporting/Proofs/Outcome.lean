import Mathlib.Data.List.Forall2

/-!
# Outcomes of computations that may fail

How to take a computation in `Except` apart, and how to compare two of them. `Outcome.Alike R`
says that two computations end in the same way: both fail with the same failure, or both succeed
with results related by `R`. It is kept by every step that treats related results alike, so a
comparison of two runs goes through a program one step at a time.
-/

namespace TenantReporting.Outcome

variable {ε α β γ δ : Type}

/-- Two steps in a row succeed exactly when the first succeeds and the second does on its result. -/
theorem bind_eq_ok_iff {first : Except ε α} {next : α → Except ε β} {result : β} :
    (first >>= next) = .ok result ↔ ∃ value, first = .ok value ∧ next value = .ok result := by
  cases first with
  | error failure => simp [bind, Except.bind]
  | ok value => simp [bind, Except.bind]

/-- Changing the failure does not change when a computation succeeds. -/
theorem mapError_eq_ok_iff {failure : ε → δ} {outcome : Except ε α} {result : α} :
    outcome.mapError failure = .ok result ↔ outcome = .ok result := by
  cases outcome <;> simp [Except.mapError]

/-- A check that no accepted value fails may be left out. -/
theorem checked_eq {step : Except ε α} {check : α → Except ε β}
    (h : ∀ value, step = .ok value → ∃ result, check value = .ok result) :
    (do let value ← step; let _ ← check value; return value) = step := by
  cases step with
  | error failure => rfl
  | ok value =>
      obtain ⟨result, hresult⟩ := h value rfl
      change (check value >>= fun _ ↦ pure value) = .ok value
      rw [hresult]
      rfl

/-- Forgetting the failure does not change when a computation succeeds. -/
theorem to_option_eq_some_iff {outcome : Except ε α} {result : α} :
    outcome.toOption = some result ↔ outcome = .ok result := by
  cases outcome <;> simp [Except.toOption]

/-- A computation that is seen to succeed has a result. -/
theorem exists_of_is_ok {outcome : Except ε α} (h : outcome.isOk = true) :
    ∃ result, outcome = .ok result := by
  cases outcome with
  | error failure => exact Bool.noConfusion h
  | ok result => exact ⟨result, rfl⟩

/-- A pass over a list succeeds with the results of its items in their order. -/
theorem mapM_eq_ok_iff {step : α → Except ε β} {items : List α} {results : List β} :
    items.mapM step = .ok results ↔
      List.Forall₂ (fun item result ↦ step item = .ok result) items results := by
  induction items generalizing results with
  | nil =>
      rw [List.mapM_nil, List.forall₂_nil_left_iff]
      exact ⟨fun h ↦ (Except.ok.inj h).symm, fun h ↦ h ▸ rfl⟩
  | cons item items ih =>
      rw [List.mapM_cons, List.forall₂_cons_left_iff]
      simp only [bind_eq_ok_iff, ih, pure, Except.pure, Except.ok.injEq]
      constructor
      · rintro ⟨value, hvalue, values, hvalues, rfl⟩
        exact ⟨value, values, hvalue, hvalues, rfl⟩
      · rintro ⟨value, values, hvalue, hvalues, rfl⟩
        exact ⟨value, hvalue, values, hvalues, rfl⟩

/-! ### Failures and results -/

/-- The computation fails with an allowed failure or succeeds with a good result. -/
def Ends (allowed : ε → Prop) (good : α → Prop) : Except ε α → Prop
  | .error failure => allowed failure
  | .ok value => good value

section Ends

variable {allowed : ε → Prop} {good : α → Prop}

/-- Two steps in a row end as the second one does after a good result of the first. -/
theorem Ends.bind {better : β → Prop} {first : Except ε α} {next : α → Except ε β}
    (h : Ends allowed good first) (hnext : ∀ value, good value → Ends allowed better (next value)) :
    Ends allowed better (first >>= next) := by
  cases first with
  | error failure => exact h
  | ok value => exact hnext value h

/-- A pass over a list ends with good results if the step on each item does. -/
theorem Ends.mapM {step : β → Except ε α} {items : List β}
    (h : ∀ item ∈ items, Ends allowed good (step item)) :
    Ends allowed (fun results ↦ ∀ result ∈ results, good result) (items.mapM step) := by
  induction items with
  | nil => exact fun _ hresult ↦ nomatch hresult
  | cons item items ih =>
      obtain ⟨hitem, hitems⟩ := List.forall_mem_cons.1 h
      rw [List.mapM_cons]
      refine hitem.bind fun result hresult ↦ (ih hitems).bind fun results hresults ↦ ?_
      exact List.forall_mem_cons.2 ⟨hresult, hresults⟩

/-- What is known of a result because it is the result of the computation may be added. -/
theorem Ends.of_ok {better : α → Prop} {outcome : Except ε α} (h : Ends allowed good outcome)
    (hok : ∀ value, outcome = .ok value → better value) : Ends allowed better outcome := by
  cases outcome with
  | error failure => exact h
  | ok value => exact hok value rfl

/-- What is known of the failures of a computation is known of renamed failures. -/
theorem Ends.mapError {allowedBefore : δ → Prop} {rename : δ → ε} {outcome : Except δ α}
    (h : Ends allowedBefore good outcome) (hrename : ∀ failure, allowed (rename failure)) :
    Ends allowed good (outcome.mapError rename) := by
  cases outcome with
  | error failure => exact hrename failure
  | ok value => exact h

end Ends

/-! ### Two runs -/

/-- Both computations fail with the same failure, or both succeed with related results. -/
inductive Alike (R : α → β → Prop) : Except ε α → Except ε β → Prop where
  | failed (failure : ε) : Alike R (.error failure) (.error failure)
  | done {left : α} {right : β} (h : R left right) : Alike R (.ok left) (.ok right)

/-- Every computation ends like itself. -/
theorem Alike.refl {R : α → α → Prop} (hrefl : ∀ value, R value value) (outcome : Except ε α) :
    Alike R outcome outcome := by
  cases outcome with
  | error failure => exact .failed failure
  | ok value => exact .done (hrefl value)

/-- If the first of two such computations succeeds, the second does with a related result. -/
theorem Alike.of_ok {R : α → β → Prop} {value : α} {outcome : Except ε β}
    (h : Alike R (.ok value) outcome) : ∃ other, outcome = .ok other ∧ R value other := by
  cases h with
  | done h => exact ⟨_, rfl, h⟩

/-- Steps that treat related values alike keep computations alike. -/
theorem Alike.bind {R : α → β → Prop} {S : γ → δ → Prop}
    {left : Except ε α} {right : Except ε β} {nextLeft : α → Except ε γ} {nextRight : β → Except ε δ}
    (h : Alike R left right) (hnext : ∀ a b, R a b → Alike S (nextLeft a) (nextRight b)) :
    Alike S (left >>= nextLeft) (right >>= nextRight) := by
  cases h with
  | failed failure => exact .failed failure
  | done h => exact hnext _ _ h

/-- A first step that both computations share keeps what follows it alike. -/
theorem Alike.bind_same {S : γ → δ → Prop} {first : Except ε α}
    {nextLeft : α → Except ε γ} {nextRight : α → Except ε δ}
    (hnext : ∀ value, first = .ok value → Alike S (nextLeft value) (nextRight value)) :
    Alike S (first >>= nextLeft) (first >>= nextRight) := by
  cases first with
  | error failure => exact .failed failure
  | ok value => exact hnext value rfl

/-- Passes over two lists end alike if the steps on corresponding items do. -/
theorem Alike.mapM {P : α → β → Prop} {S : γ → δ → Prop}
    {stepLeft : α → Except ε γ} {stepRight : β → Except ε δ}
    (hstep : ∀ a b, P a b → Alike S (stepLeft a) (stepRight b))
    {left : List α} {right : List β} (h : List.Forall₂ P left right) :
    Alike (List.Forall₂ S) (left.mapM stepLeft) (right.mapM stepRight) := by
  induction h with
  | nil => exact .done .nil
  | cons hitem _ ih =>
      rw [List.mapM_cons, List.mapM_cons]
      refine (hstep _ _ hitem).bind fun value other hvalue ↦ ?_
      refine ih.bind fun values others hvalues ↦ ?_
      exact .done (.cons hvalue hvalues)

/-! ### Exceptions -/

/-- The first computation fails with an excepted failure, or both end in the same way. -/
inductive SameUnless (excepted : ε → Prop) : Except ε α → Except ε α → Prop where
  | excepted {failure : ε} (h : excepted failure) (other : Except ε α) :
      SameUnless excepted (.error failure) other
  | same (outcome : Except ε α) : SameUnless excepted outcome outcome

section SameUnless

variable {excepted : ε → Prop}

/-- Two computations that end in the same way without exception are equal. -/
theorem SameUnless.eq {first other : Except ε α} (h : SameUnless excepted first other)
    (hnone : ∀ failure, excepted failure → first ≠ .error failure) : first = other := by
  cases h with
  | excepted hfailure => exact absurd rfl (hnone _ hfailure)
  | same => rfl

/-- Steps that end in the same way unless the first is excepted keep computations so. -/
theorem SameUnless.bind {first other : Except ε α} {next otherNext : α → Except ε β}
    (h : SameUnless excepted first other)
    (hnext : ∀ value, SameUnless excepted (next value) (otherNext value)) :
    SameUnless excepted (first >>= next) (other >>= otherNext) := by
  cases h with
  | excepted hfailure => exact .excepted hfailure _
  | same =>
      cases first with
      | error failure => exact .same (.error failure)
      | ok value => exact hnext value

/-- Passes over a list end in the same way unless a step of the first is excepted. -/
theorem SameUnless.mapM {step otherStep : β → Except ε α}
    (h : ∀ item, SameUnless excepted (step item) (otherStep item)) (items : List β) :
    SameUnless excepted (items.mapM step) (items.mapM otherStep) := by
  induction items with
  | nil => exact .same _
  | cons item items ih =>
      rw [List.mapM_cons, List.mapM_cons]
      exact (h item).bind fun _ ↦ ih.bind fun _ ↦ .same _

end SameUnless

end TenantReporting.Outcome
