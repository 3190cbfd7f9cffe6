import TenantReporting.Proofs.Sql.Bond

/-!
# The first word of a statement under pairs and clauses

Like bonds, the other ways of grouping leave the first word of a statement that selects where it is.
Most of them go over the nodes once, from either end, and collect what they have read; what a step
of such a pass has to respect is said by `Selects.foldl` and `Selects.foldr`.
-/

namespace TenantReporting.Sql

variable {nodes : List Node}

/-! ### Arranging everywhere -/

theorem rearranged_all_eq_map (exempt : GroupKind → Bool)
    (arrange : Option GroupKind → List Node → List Node) (nodes : List Node) :
    rearrangedAll exempt arrange nodes = nodes.map (Node.rearranged exempt arrange) := by
  induction nodes with
  | nil => rw [rearrangedAll, List.map_nil]
  | cons node nodes ih => rw [rearrangedAll, ih, List.map_cons]

/-- What is a token after its groups have been arranged was this token before. -/
theorem Node.eq_of_rearranged_leaf {exempt : GroupKind → Bool}
    {arrange : Option GroupKind → List Node → List Node} {node : Node} {token : Token}
    (h : node.rearranged exempt arrange = .leaf token) : node = .leaf token := by
  cases node with
  | leaf other => rwa [rearranged] at h
  | group kind members =>
      rw [rearranged] at h
      split at h <;> cases h

/-- Arranging a statement everywhere keeps that it selects if arranging the top does. -/
theorem Selects.everywhere {exempt : GroupKind → Bool}
    {arrange : Option GroupKind → List Node → List Node}
    (harrange : ∀ nodes, Selects nodes → Selects (arrange none nodes)) (h : Selects nodes) :
    Selects (everywhere exempt arrange nodes) := by
  refine harrange _ (h.arrange ?_ fun token htoken ↦ ?_)
  · rw [rearranged_all_eq_map, List.head?_map, h.head, Option.map_some, selectNode, Node.rearranged]
  · rw [rearranged_all_eq_map] at htoken
    obtain ⟨node, hnode, heq⟩ := List.mem_map.1 htoken
    exact Node.eq_of_rearranged_leaf heq ▸ hnode

/-! ### Passes over nodes -/

/-- A pass that collects nodes in reverse keeps that they select, if the first node stays at the end
and each step adds no token but the one that it reads. -/
theorem Selects.foldl {σ : Type} {step : σ → Node → σ} {start : σ} (content : σ → List Node)
    (Rooted : σ → Prop) (hlast : ∀ state, Rooted state → (content state).getLast? = some selectNode)
    (hempty : content start = []) (hstart : Rooted (step start selectNode))
    (hstep : ∀ state node, Rooted state → Rooted (step state node))
    (hleaves : ∀ state node token, .leaf token ∈ content (step state node) →
      .leaf token ∈ node :: content state) (h : Selects nodes) :
    Selects (content (nodes.foldl step start)).reverse := by
  have hroot : Rooted (nodes.foldl step start) := by
    obtain ⟨rest, rfl⟩ := List.head?_eq_some_iff.1 h.head
    exact List.foldlRecOn rest step hstart fun state hstate node _ ↦ hstep state node hstate
  have hwithin : ∀ token, .leaf token ∈ content (nodes.foldl step start) → .leaf token ∈ nodes := by
    refine List.foldlRecOn (motive := fun state ↦ ∀ token, .leaf token ∈ content state →
      .leaf token ∈ nodes) nodes step ?_ fun state hstate node hnode token htoken ↦ ?_
    · simp [hempty]
    · rcases List.mem_cons.1 (hleaves state node token htoken) with rfl | hmem
      · exact hnode
      · exact hstate token hmem
  refine h.arrange ?_ fun token htoken ↦ hwithin token (List.mem_reverse.1 htoken)
  rw [List.head?_reverse]
  exact hlast _ hroot

/-- A pass that puts nodes together from the end keeps that they select, if each step adds no token
but the one that it reads and puts the word SELECT in front. -/
theorem Selects.foldr {step : Node → List Node → List Node}
    (hselect : ∀ nodes, step selectNode nodes = selectNode :: nodes)
    (hleaves : ∀ node nodes token, .leaf token ∈ step node nodes → .leaf token ∈ node :: nodes)
    (h : Selects nodes) : Selects (nodes.foldr step []) := by
  have hwithin : ∀ token, .leaf token ∈ nodes.foldr step [] → .leaf token ∈ nodes := by
    refine List.foldrRecOn (motive := fun arranged ↦ ∀ token, .leaf token ∈ arranged →
      .leaf token ∈ nodes) nodes step ?_ fun arranged harranged node hnode token htoken ↦ ?_
    · simp
    · rcases List.mem_cons.1 (hleaves node arranged token htoken) with rfl | hmem
      · exact hnode
      · exact harranged token hmem
  refine h.arrange ?_ hwithin
  obtain ⟨rest, rfl⟩ := List.head?_eq_some_iff.1 h.head
  rw [List.foldr_cons, hselect, List.head?_cons]

/-! ### Pairs -/

namespace Pair

/-- The word SELECT is the first of the nodes that have been read. -/
def Rooted : List Node → List (List Node) → Prop
  | inner, [] => inner.getLast? = some selectNode
  | _, around :: outer => Rooted around outer

/-- One more node leaves the first one in its place. -/
theorem Rooted.cons {inner : List Node} {outer : List (List Node)} (h : Rooted inner outer)
    (node : Node) : Rooted (node :: inner) outer := by
  cases outer with
  | nil =>
      rw [Rooted] at h ⊢
      rw [List.getLast?_cons, h, Option.getD_some]
  | cons around outer => exact h

theorem Rooted.get_last {inner : List Node} {outer : List (List Node)} (h : Rooted inner outer) :
    (inner ++ outer.flatten).getLast? = some selectNode := by
  induction outer generalizing inner with
  | nil =>
      rw [List.flatten_nil, List.append_nil]
      exact h
  | cons around outer ih => rw [List.flatten_cons, List.getLast?_append, ih h, Option.some_or]

/-- Reading one more node leaves the first one in its place. -/
theorem read_rooted (pair : Pair) (state : Open) (node : Node)
    (h : Rooted state.inner state.outer) :
    Rooted (pair.read state node).inner (pair.read state node).outer := by
  obtain ⟨inner, outer⟩ := state
  unfold read
  dsimp only
  split
  · exact h
  split
  · cases outer with
    | nil => exact h.cons node
    | cons around outer =>
        have haround : Rooted around outer := h
        exact haround.cons _
  · exact h.cons node

/-- Reading a node adds no other token. -/
theorem leaf_mem_read {pair : Pair} {state : Open} {node : Node} {token : Token}
    (h : .leaf token ∈ (pair.read state node).inner ++ (pair.read state node).outer.flatten) :
    .leaf token ∈ node :: (state.inner ++ state.outer.flatten) := by
  obtain ⟨inner, outer⟩ := state
  unfold read at h
  dsimp only at h
  split at h
  · simpa using h
  split at h
  · cases outer with
    | nil => simpa using h
    | cons around outer =>
        simp only [List.cons_append, List.mem_cons, reduceCtorEq, false_or] at h
        exact List.mem_cons_of_mem _ (List.mem_append_right _ h)
  · simpa using h

/-- Nodes that select still do so after pairs have been grouped. -/
theorem group_selects {pair : Pair} (hopens : pair.opens selectNode = false)
    (hcloses : pair.closes selectNode = false) (h : Selects nodes) :
    Selects (pair.group nodes) := by
  refine h.foldl (fun state : Open ↦ state.inner ++ state.outer.flatten)
    (fun state ↦ Rooted state.inner state.outer) (fun _ ↦ Rooted.get_last) rfl ?_
    pair.read_rooted fun _ _ _ ↦ leaf_mem_read
  unfold read
  rw [hopens, hcloses]
  rfl

end Pair

/-! ### Nodes before and after blanks -/

/-- The last node that is not blank, with the nodes around it. -/
theorem split_last_eq {reversed before blanks : List Node} {node : Node}
    (h : splitLast? reversed = some (before, node, blanks)) :
    reversed = blanks ++ node :: before := by
  unfold splitLast? at h
  split at h
  · cases h
  next hdrop =>
    cases h
    rw [← hdrop, List.takeWhile_append_dropWhile]

/-- A step of a pass that collects nodes in reverse: the node that is read is kept, or it is grouped
with the last node that is not blank, which is not the word SELECT. -/
inductive Collects (reversed : List Node) (node : Node) : List Node → Prop where
  | keep : Collects reversed node (node :: reversed)
  | join {before blanks : List Node} {last group : Node}
      (hsplit : splitLast? reversed = some (before, last, blanks)) (hlast : last ≠ selectNode)
      (hgroup : group.isGroup = true) : Collects reversed node (group :: before)

namespace Collects

variable {reversed collected : List Node} {node : Node}

/-- The first node stays in its place. -/
theorem get_last (h : Collects reversed node collected)
    (hfirst : reversed.getLast? = some selectNode) : collected.getLast? = some selectNode := by
  cases h with
  | keep => rw [List.getLast?_cons, hfirst, Option.getD_some]
  | @join before blanks last group hsplit hlast =>
      rw [split_last_eq hsplit, List.getLast?_append, List.getLast?_cons, Option.some_or] at hfirst
      rw [List.getLast?_cons]
      cases hbefore : before.getLast? with
      | none =>
          rw [hbefore] at hfirst
          exact absurd (Option.some.inj hfirst) hlast
      | some first =>
          rw [hbefore] at hfirst
          exact hfirst

/-- No token is added but the one that is read. -/
theorem leaf_mem (h : Collects reversed node collected) {token : Token}
    (htoken : .leaf token ∈ collected) : .leaf token ∈ node :: reversed := by
  cases h with
  | keep => exact htoken
  | join hsplit _ hgroup =>
      rcases List.mem_cons.1 htoken with rfl | hmem
      · cases hgroup
      · rw [split_last_eq hsplit]
        exact List.mem_cons_of_mem _ (List.mem_append_right _ (List.mem_cons_of_mem _ hmem))

end Collects

/-- A pass of such steps keeps that the nodes select. -/
theorem Selects.collect {σ : Type} {step : σ → Node → σ} {start : σ} (content : σ → List Node)
    (hempty : content start = [])
    (hstep : ∀ state node, Collects (content state) node (content (step state node)))
    (h : Selects nodes) : Selects (content (nodes.foldl step start)).reverse := by
  refine h.foldl content (fun state ↦ (content state).getLast? = some selectNode)
    (fun _ hlast ↦ hlast) hempty ?_ (fun state node ↦ (hstep state node).get_last)
    fun state node _ ↦ (hstep state node).leaf_mem
  have hfirst := hstep start selectNode
  rw [hempty] at hfirst
  generalize content (step start selectNode) = collected at hfirst
  cases hfirst with
  | keep => rfl
  | join hsplit => cases hsplit

/-- The nodes after the next one that is not blank are among all nodes after it. -/
theorem mem_of_split_next {condition : Node → Bool} {nodes next after : List Node} {node : Node}
    (h : splitNext? condition nodes = some (next, after)) (hnode : node ∈ after) :
    node ∈ nodes := by
  unfold splitNext? at h
  split at h
  · cases h
  next hdrop =>
    split at h
    · cases h
      refine (List.dropWhile_suffix Node.isBlank).subset ?_
      rw [hdrop]
      exact List.mem_cons_of_mem _ hnode
    · cases h

/-! ### Clauses -/

/-- Grouping comments makes no new tokens. -/
theorem leaf_mem_comments {comments nodes : List Node} {token : Token}
    (h : .leaf token ∈ groupCommentsAfter comments nodes) : .leaf token ∈ comments ++ nodes := by
  induction nodes generalizing comments with
  | nil => simpa [groupCommentsAfter] using h
  | cons node nodes ih =>
      rw [groupCommentsAfter] at h
      split at h
      · have hmem := ih h
        simp only [List.mem_append, List.mem_cons] at hmem ⊢
        tauto
      split at h
      · rcases List.mem_cons.1 h with rfl | h
        · simp
        · exact List.mem_append_right _ (List.mem_cons_of_mem _ (ih h))
      · simp only [List.mem_cons, reduceCtorEq, false_or] at h
        rcases h with rfl | h
        · simp
        · exact List.mem_append_right _ (List.mem_cons_of_mem _ (ih h))

theorem group_comments_selects (h : Selects nodes) : Selects (groupComments nodes) := by
  refine h.arrange ?_ fun token htoken ↦ leaf_mem_comments htoken
  obtain ⟨rest, rfl⟩ := List.head?_eq_some_iff.1 h.head
  rfl

theorem group_windows_selects (h : Selects nodes) : Selects (groupWindows nodes) := by
  refine h.foldr (fun _ ↦ rfl) fun node nodes token htoken ↦ ?_
  unfold openWindow at htoken
  dsimp only at htoken
  split at htoken
  next hsplit =>
    simp only [List.mem_cons, reduceCtorEq, false_or] at htoken
    exact List.mem_cons_of_mem _ (mem_of_split_next hsplit htoken)
  next => exact htoken

theorem group_functions_selects (h : Selects nodes) : Selects (groupFunctions nodes) := by
  unfold groupFunctions
  split
  · exact h
  refine h.foldr (fun _ ↦ rfl) fun node nodes token htoken ↦ ?_
  unfold applyName at htoken
  split at htoken
  next hsplit =>
    split at htoken
    next hwindow =>
      simp only [List.mem_cons, reduceCtorEq, false_or] at htoken
      exact List.mem_cons_of_mem _ (mem_of_split_next hsplit (mem_of_split_next hwindow htoken))
    next =>
      simp only [List.mem_cons, reduceCtorEq, false_or] at htoken
      exact List.mem_cons_of_mem _ (mem_of_split_next hsplit htoken)
  next => exact htoken

/-- Grouping restrictions makes no new tokens. -/
theorem leaf_mem_restrictions {current? : Option (List Node)} {nodes : List Node} {token : Token}
    (h : .leaf token ∈ groupRestrictionsAfter current? nodes) : .leaf token ∈ nodes := by
  induction nodes generalizing current? with
  | nil => cases current? <;> simp [groupRestrictionsAfter] at h
  | cons node nodes ih =>
      cases current? with
      | none =>
          rw [groupRestrictionsAfter] at h
          split at h
          · exact List.mem_cons_of_mem _ (ih h)
          · rcases List.mem_cons.1 h with rfl | h
            · exact List.mem_cons_self
            · exact List.mem_cons_of_mem _ (ih h)
      | some current =>
          rw [groupRestrictionsAfter] at h
          split at h
          · simp only [List.mem_cons, reduceCtorEq, false_or] at h
            rcases h with rfl | h
            · exact List.mem_cons_self
            · exact List.mem_cons_of_mem _ (ih h)
          · exact List.mem_cons_of_mem _ (ih h)

theorem group_restrictions_selects (h : Selects nodes) :
    Selects (groupRestrictions none nodes) := by
  refine h.arrange ?_ fun token htoken ↦ leaf_mem_restrictions htoken
  obtain ⟨rest, rfl⟩ := List.head?_eq_some_iff.1 h.head
  rfl

theorem identify_selects (h : Selects nodes) : Selects (nodes.map identify) := by
  refine h.arrange ?_ fun token htoken ↦ ?_
  · rw [List.head?_map, h.head]
    rfl
  · obtain ⟨node, hnode, heq⟩ := List.mem_map.1 htoken
    unfold identify at heq
    split at heq
    · cases heq
    · exact heq ▸ hnode

theorem group_directions_selects (h : Selects nodes) : Selects (groupDirections nodes) := by
  refine h.collect id rfl fun reversed node ↦ ?_
  unfold direct
  split
  next hsplit =>
    split
    next hordered =>
      refine .join hsplit ?_ rfl
      rintro rfl
      cases hordered
    next => exact .keep
  next => exact .keep

theorem group_named_selects (h : Selects nodes) : Selects (groupNamed nodes) := by
  refine h.collect Prod.fst rfl fun state node ↦ ?_
  unfold giveName
  dsimp only
  split
  · exact .keep
  split
  next hsplit =>
    split
    next hnamed =>
      refine .join hsplit ?_ (Node.is_group_extend _ _ _)
      rintro rfl
      cases hnamed
    next => exact .keep
  next => exact .keep

theorem attach_comments_selects (h : Selects nodes) : Selects (attachComments nodes) := by
  refine h.collect id rfl fun reversed node ↦ ?_
  unfold attachComment
  split
  next hsplit => exact .join hsplit Node.noConfusion rfl
  next => exact .keep

theorem group_values_selects (h : Selects nodes) : Selects (groupValues nodes) := by
  unfold groupValues
  dsimp only
  split
  · refine h.arrange ?_ fun token htoken ↦ ?_
    · obtain ⟨rest, rfl⟩ := List.head?_eq_some_iff.1 h.head
      rfl
    · simp only [List.mem_append, List.mem_cons, reduceCtorEq, false_or, List.mem_reverse]
        at htoken
      rcases htoken with htoken | htoken
      · exact (List.takeWhile_prefix _).subset htoken
      · have hrow := (List.takeWhile_prefix _).subset htoken
        exact (List.dropWhile_suffix _).subset (List.mem_reverse.1 hrow)
  · exact h

end TenantReporting.Sql
