import TenantReporting.Proofs.Query.NamedStatement
import TenantReporting.Proofs.Tenancy.Statements
import TenantReporting.Report.Service

/-!
# What reaches the database of a tenant

Executing a compiled query sends one statement, and this statement is the compiled query: its
parameters are the placeholders of the text, and no other part of it is taken for a parameter.
-/

namespace TenantReporting

open Query

/-- Executing a compiled query sends its statement with its values if a connection is acquired, and
nothing otherwise. -/
theorem Report.Service.execute_statements (service : Report.Service) (tenant : String)
    (compiled : Compiled) (format : Report.Format) (tableCount : Nat)
    (state : Report.ServiceState) :
    (service.execute tenant compiled format tableCount state).2.registry.statements =
      if (Tenancy.Registry.acquire service.tenants tenant state.registry).1.isOk then
        state.registry.statements ++ [(compiled.statement, compiled.binds)]
      else state.registry.statements := by
  have hrun := state.registry.with_connection_statements service.tenants tenant compiled.text
    compiled.parameters
  have hnote (attempt : Report.Attempt) (finished : Report.ServiceState) :
      (service.note attempt finished).registry = finished.registry := by
    rw [note]
    split <;> rfl
  rw [execute]
  dsimp only
  split
  · rw [hnote]
    exact hrun
  · exact hrun

variable {rules : Rules} {config : ReportConfig} {compiled : Compiled}

/-- What reaches the engine of a tenant is the compiled query. The parameters found in the statement
are those with the numbers of the values, in this order, and with their positions in place of their
names the statement is the compiled text. Nothing else in it is a colon or a dollar sign. Each value
stands under the key of its parameter, and there are no other keys. This is the only statement that
an execution sends. -/
theorem compiled_statement (h : compile rules config = .ok compiled) :
    ReadAs (pieces none compiled.statement.toList) compiled.text.toList
        (List.range' 1 compiled.parameters.length) ∧
      '$' ∉ compiled.statement.toList ∧
      compiled.binds.map Prod.fst =
        (List.range' 1 compiled.parameters.length).map parameterKey ∧
      (∀ index, compiled.binds.lookup (parameterKey (1 + index)) = compiled.parameters[index]?) ∧
      ∀ (service : Report.Service) (tenant : String) (format : Report.Format) (tableCount : Nat)
        (state : Report.ServiceState),
        (service.execute tenant compiled format tableCount state).2.registry.statements =
          if (Tenancy.Registry.acquire service.tenants tenant state.registry).1.isOk then
            state.registry.statements ++ [(compiled.statement, compiled.binds)]
          else state.registry.statements := by
  obtain ⟨query, _, hnames, htext, hparameters⟩ := compiled_query h
  have hstatement : compiled.statement.toList = bindNames compiled.text.toList :=
    String.toList_ofList
  have hslotted : Slotted compiled.text.toList (List.range' 1 compiled.parameters.length) := by
    rw [htext, hparameters]
    exact query_slotted hnames
  have hpieces := slotted_pieces hslotted none
  rw [← hstatement] at hpieces
  have hdollar := hpieces.no_dollar
  rw [pieces_text] at hdollar
  exact ⟨hpieces, hdollar, named_from_keys 1 compiled.parameters,
    fun index ↦ named_from_lookup 1 index compiled.parameters,
    fun service tenant format tableCount state ↦
      service.execute_statements tenant compiled format tableCount state⟩

/-- The statement for three placeholders has three parameters. -/
theorem filtered_report_statement : ∃ compiled, compile {} filteredReport = .ok compiled ∧
    (pieces none compiled.statement.toList).filterMap Piece.name? =
      ["p1".toList, "p2".toList, "p3".toList] ∧
    compiled.binds.map Prod.fst = ["p1", "p2", "p3"] := by
  obtain ⟨compiled, hcompiled⟩ := filtered_report_compiles
  obtain ⟨hpieces, _, hkeys, _⟩ := compiled_statement hcompiled
  have hparameters : compiled.parameters = [.integer 7, .integer 1, .integer 2] :=
    compiled_parameters hcompiled
  have hnames := hpieces.names
  rw [hparameters] at hnames hkeys
  refine ⟨compiled, hcompiled, ?_, ?_⟩
  · rw [hnames]
    decide
  · rw [hkeys]
    decide

end TenantReporting
