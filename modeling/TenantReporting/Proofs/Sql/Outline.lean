import TenantReporting.Proofs.Outcome
import TenantReporting.Proofs.Sql.Clause

/-!
# Single statements that select

Tokens that begin with the word SELECT, none of which ends a statement, form one statement, and its
outline shows that it selects (`is_single_select`). Only the bounds can keep a text from having
outlines (`outlines_unbounded`).
-/

namespace TenantReporting.Sql

variable {bounds : Bounds} {nodes : List Node}

/-! ### Stages -/

namespace Stage

/-- The stage keeps that nodes select. -/
def Keeps (stage : Stage) : Prop :=
  ∀ nodes, Selects nodes → Selects (stage.apply nodes)

theorem of_pair_keeps {pair : Pair} (hopens : pair.opens selectNode = false)
    (hcloses : pair.closes selectNode = false) : (ofPair pair).Keeps := by
  intro nodes hnodes
  show Selects (everywhere _ (fun _ ↦ pair.group) nodes)
  exact hnodes.everywhere fun _ ↦ Pair.group_selects hopens hcloses

theorem of_bond_keeps {bond : Bond} (h : ∀ nodes, Selects nodes → Selects (bond.group nodes)) :
    (ofBond bond).Keeps := by
  intro nodes hnodes
  show Selects (everywhere _ (fun _ ↦ bond.group) nodes)
  exact hnodes.everywhere h

theorem of_clause_keeps {exempt? : Option GroupKind} {arrange : List Node → List Node}
    (h : ∀ nodes, Selects nodes → Selects (arrange nodes)) : (ofClause exempt? arrange).Keeps := by
  intro nodes hnodes
  refine Selects.everywhere ?_ hnodes
  exact h

end Stage

/-- Every stage keeps that nodes select. -/
theorem stages_keep : ∀ stage ∈ stages, stage.Keeps := by
  have hpairs : ∀ pair ∈ pairs,
      pair.opens selectNode = false ∧ pair.closes selectNode = false := by decide
  rw [stages, List.forall_mem_append, List.forall_mem_map]
  refine ⟨fun pair hpair ↦ Stage.of_pair_keeps (hpairs pair hpair).1 (hpairs pair hpair).2, ?_⟩
  simp only [List.forall_mem_cons]
  refine ⟨?_, ?_, ?_, ?_, ?_, ?_, ?_, ?_, ?_, ?_, ?_, ?_, ?_, ?_, ?_, ?_, ?_, ?_, ?_, ?_⟩
  · exact Stage.of_clause_keeps fun _ ↦ group_windows_selects
  · exact Stage.of_clause_keeps fun _ ↦ group_functions_selects
  · intro nodes hnodes
    refine Selects.everywhere ?_ hnodes
    exact fun _ ↦ group_restrictions_selects
  · exact Stage.of_bond_keeps fun _ ↦ qualification_gentle.group_selects
  · exact fun _ ↦ indexing_gentle.group_selects
  · exact Stage.of_clause_keeps fun _ ↦ identify_selects
  · exact Stage.of_clause_keeps fun _ ↦ group_directions_selects
  · exact Stage.of_bond_keeps fun _ ↦ type_cast_restless.group_selects
  · exact Stage.of_bond_keeps fun _ ↦ zone_cast_restless.group_selects
  · exact Stage.of_bond_keeps fun _ ↦ typed_literal_gentle.group_selects
  · exact Stage.of_bond_keeps fun _ ↦ literal_unit_gentle.group_selects
  · exact Stage.of_bond_keeps fun _ ↦ operation_gentle.group_selects
  · exact Stage.of_bond_keeps fun _ ↦ comparison_gentle.group_selects
  · exact Stage.of_bond_keeps fun _ ↦ new_name_gentle.group_selects
  · exact Stage.of_clause_keeps fun _ ↦ group_named_selects
  · exact Stage.of_bond_keeps fun _ ↦ assignment_restless.group_selects
  · exact Stage.of_clause_keeps fun _ ↦ attach_comments_selects
  · exact Stage.of_bond_keeps fun _ ↦ enumeration_gentle.group_selects
  · exact fun _ ↦ group_values_selects
  · exact fun _ h ↦ nomatch h

/-- A run of a stage, if it has a result, applies the stage. -/
theorem Stage.run_eq {stage : Stage} {result : List Node}
    (h : stage.run bounds nodes = .ok result) : result = stage.apply nodes := by
  unfold run at h
  split at h
  · split at h
    · cases h
    · exact (Except.ok.inj h).symm
  · exact (Except.ok.inj h).symm

/-- Nodes that select still do so after stages in a row. -/
theorem stages_run_select {stages : List Stage} (hstages : ∀ stage ∈ stages, stage.Keeps)
    (h : Selects nodes) {result : List Node}
    (hresult : stages.foldlM (fun nodes stage ↦ stage.run bounds nodes) nodes = .ok result) :
    Selects result := by
  induction stages generalizing nodes with
  | nil =>
      cases hresult
      exact h
  | cons stage stages ih =>
      obtain ⟨hstage, hstages⟩ := List.forall_mem_cons.1 hstages
      rw [List.foldlM_cons, Outcome.bind_eq_ok_iff] at hresult
      obtain ⟨middle, hmiddle, hresult⟩ := hresult
      refine ih hstages ?_ hresult
      rw [Stage.run_eq hmiddle]
      exact hstage nodes h

/-! ### Outlines -/

/-- The outline of a statement whose tokens select does so too. -/
theorem outline_selects {statement : List Token} (h : Selects (statement.map .leaf))
    (hnodes : outline bounds statement = .ok nodes) : Selects nodes := by
  have hcomments := group_comments_selects h
  unfold outline at hnodes
  dsimp only at hnodes
  split at hnodes
  · split at hnodes
    · cases hnodes
    · exact stages_run_select stages_keep hcomments hnodes
  · exact stages_run_select stages_keep hcomments hnodes

/-- What the outline of a statement that selects shows. -/
theorem Selects.verb_eq (h : Selects nodes) : verb? nodes = some "SELECT" := by
  obtain ⟨rest, rfl⟩ := List.head?_eq_some_iff.1 h.head
  rfl

/-- Without bounds every statement has an outline. -/
theorem outline_unbounded (statement : List Token) :
    ∃ nodes, outline ⟨none, none⟩ statement = .ok nodes := by
  have hrun : ∀ (stages : List Stage) (nodes : List Node), ∃ result,
      stages.foldlM (fun nodes stage ↦ stage.run ⟨none, none⟩ nodes) nodes = .ok result := by
    intro stages
    induction stages with
    | nil => exact fun nodes ↦ ⟨nodes, rfl⟩
    | cons stage stages ih => exact fun nodes ↦ ih (stage.apply nodes)
  exact hrun stages _

/-- Without bounds every text has outlines. -/
theorem outlines_unbounded (text : List Char) :
    ∃ found, outlines ⟨none, none⟩ text = .ok found := by
  have hall : ∀ statements : List (List Token), ∃ results,
      statements.mapM (outline ⟨none, none⟩) = .ok results := by
    intro statements
    induction statements with
    | nil => exact ⟨[], rfl⟩
    | cons statement statements ih =>
        obtain ⟨nodes, hnodes⟩ := outline_unbounded statement
        obtain ⟨results, hresults⟩ := ih
        rw [List.mapM_cons, hnodes, hresults]
        exact ⟨nodes :: results, rfl⟩
  obtain ⟨results, hresults⟩ := hall (statements (tokens text))
  rw [outlines, hresults]
  exact ⟨_, rfl⟩

/-! ### Statements -/

/-- The token ends no statement, and it does not bind just anything that stands before it. -/
structure Token.Inner (token : Token) : Prop where
  calm : token.isCalm = true
  mark : token.isMark ";" = false
  word : token.kind = .keyword → (Text.words token.text.toList).head? ≠ some ['G', 'O']

theorem Progress.ended_adjust (progress : Progress) (token : Token) :
    (progress.adjust token).ended = progress.ended := by
  unfold adjust enter
  simp only [apply_ite Progress.ended, ite_self]

/-- A statement does not end with a token inside. -/
theorem Progress.ended_advance (progress : Progress) {token : Token} (h : token.Inner) :
    (progress.advance token).ended = progress.ended := by
  unfold advance
  dsimp only
  have hword : (token.kind == .keyword &&
      (Text.words token.text.toList).head? == some ['G', 'O']) = false := by
    rw [Bool.and_eq_false_imp]
    intro hkind
    simpa using h.word (beq_iff_eq.1 hkind)
  simp only [h.mark, hword, Bool.false_eq_true, if_false, ended_adjust]

/-- Tokens inside of a statement, of which one is not blank, are one statement. -/
theorem statements_eq {tokens : List Token} (hinner : ∀ token ∈ tokens, token.Inner)
    (hfull : ∃ token ∈ tokens, token.kind.isBlank = false) : statements tokens = [tokens] := by
  have hafter : ∀ (tokens : List Token) (progress : Progress) (current : List Token),
      progress.ended = false → (∀ token ∈ tokens, token.Inner) →
        (∃ token ∈ current ++ tokens, token.kind.isBlank = false) →
          statementsAfter progress current tokens = [current.reverse ++ tokens] := by
    intro tokens
    induction tokens with
    | nil =>
        intro progress current hopen _ hfull
        rw [List.append_nil] at hfull
        obtain ⟨token, htoken, hkind⟩ := hfull
        have hsome : current.all (·.kind.isBlank) = false := by
          rw [List.all_eq_false]
          exact ⟨token, htoken, by simp [hkind]⟩
        rw [statementsAfter, hsome, List.append_nil]
        rfl
    | cons token tokens ih =>
        intro progress current hopen hinner hfull
        obtain ⟨htoken, htokens⟩ := List.forall_mem_cons.1 hinner
        rw [statementsAfter, hopen, Bool.false_and]
        simp only [Bool.false_eq_true, if_false]
        rw [ih _ _ ((progress.ended_advance htoken).trans hopen) htokens]
        · simp
        · obtain ⟨other, hother, hkind⟩ := hfull
          refine ⟨other, ?_, hkind⟩
          simp only [List.mem_append, List.mem_cons] at hother ⊢
          tauto
  exact hafter tokens {} [] rfl hinner hfull

/-- A text is one statement that selects if its tokens begin with the word SELECT and are inside of
a statement. -/
theorem is_single_select {text : List Char}
    (hhead : (tokens text).head? = some ⟨.manipulation, "SELECT"⟩)
    (hinner : ∀ token ∈ tokens text, token.Inner) {found : List (List Node)}
    (hfound : outlines bounds text = .ok found) : isSingleSelect found = true := by
  obtain ⟨rest, hrest⟩ := List.head?_eq_some_iff.1 hhead
  have hstatements : statements (tokens text) = [tokens text] :=
    statements_eq hinner ⟨⟨.manipulation, "SELECT"⟩, by rw [hrest]; exact List.mem_cons_self, rfl⟩
  have hselects : Selects ((tokens text).map .leaf) := {
    head := by
      rw [List.head?_map, hhead]
      rfl
    calm := fun token htoken ↦ by
      obtain ⟨other, hother, heq⟩ := List.mem_map.1 htoken
      cases heq
      exact (hinner token hother).calm }
  have hfull : (tokens text).all (fun token ↦ token.text.toList.all Text.isBlank) = false := by
    rw [hrest]
    rfl
  simp only [outlines, hstatements, List.mapM_cons, List.mapM_nil, bind_assoc, pure_bind,
    Outcome.bind_eq_ok_iff] at hfound
  obtain ⟨nodes, hnodes, hfound⟩ := hfound
  cases hfound
  simp [isSingleSelect, hfull, (outline_selects hselects hnodes).verb_eq]

end TenantReporting.Sql
