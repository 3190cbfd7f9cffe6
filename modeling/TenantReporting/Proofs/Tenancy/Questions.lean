import TenantReporting.Tenancy.Registry

/-!
# Questions to stores

Executing a statement and listing tables are questions to the store of a connection. A question is
put only if the connection is out; then the backend is left as the question leaves it, and a fault
in answering is reported (`ask_eq`).
-/

namespace TenantReporting.Tenancy

namespace Registry

variable {α β : Type} {connection : Connection} {registry : Registry}

/-- What comes of a question: its answer and the backend after it, if the connection is out. -/
theorem ask_eq (connection : Connection) (question : Backend → Except StoreFault α × Backend)
    (make : α → β) (registry : Registry) :
    ask connection question make registry =
      if registry.isOut connection then
        (((question registry.backend).1.mapError executionFailure).map make,
          { registry with backend := (question registry.backend).2 })
      else (.error .released, registry) := by
  unfold ask
  split
  · rcases question registry.backend with ⟨fault | answer, backend⟩ <;> rfl
  · rfl

/-- A question changes the backend only. -/
theorem ask_registry (connection : Connection) (question : Backend → Except StoreFault α × Backend)
    (make : α → β) (registry : Registry) :
    (ask connection question make registry).2 =
      if registry.isOut connection then
        { registry with backend := (question registry.backend).2 }
      else registry := by
  rw [ask_eq]
  split <;> rfl

theorem ask_of_fault {question : Backend → Except StoreFault α × Backend} {make : α → β}
    {fault : StoreFault} (hout : registry.isOut connection = true)
    (hfault : (question registry.backend).1 = .error fault) :
    (ask connection question make registry).1 = .error (executionFailure fault) := by
  rw [ask_eq, if_pos hout, hfault]
  rfl

theorem ask_of_answer {question : Backend → Except StoreFault α × Backend} {make : α → β}
    {answer : α} (hout : registry.isOut connection = true)
    (hanswer : (question registry.backend).1 = .ok answer) :
    (ask connection question make registry).1 = .ok (make answer) := by
  rw [ask_eq, if_pos hout, hanswer]
  rfl

/-- Nothing can be asked on a connection that has been returned. -/
theorem ask_of_released (question : Backend → Except StoreFault α × Backend) (make : α → β)
    (hout : registry.isOut connection = false) :
    ask connection question make registry = (.error .released, registry) := by
  rw [ask_eq, hout, if_neg Bool.false_ne_true]

end Registry

end TenantReporting.Tenancy
