import Mathlib.Data.List.Basic
import TenantReporting.Sql.Outline

/-!
# The first word of a statement under bonds

A statement that selects begins with the word SELECT, and grouping must leave this word where it
is. Most bonds cannot bind it, because it may not precede their middle nodes; the others have middle
nodes that are not calm and do not occur in reports. So nodes that select still do so after they
have been grouped (`Bond.Gentle.group_selects`, `Bond.Restless.group_selects`).

What carries the proof is where a pass over the nodes is: the nodes that have not been looked at are
the end of the list as grouped so far, except for those that a group has taken in early, of which
all but the last are blank (`Scan.Ahead`).
-/

namespace TenantReporting.Sql

/-- The word that begins statements that select. -/
def selectNode : Node :=
  .leaf ⟨.manipulation, "SELECT"⟩

/-- The token does not bind just anything that stands before it. -/
def Token.isCalm (token : Token) : Bool :=
  token.kind != .zone && token.kind != .assignment && !token.isMark "::"

/-- The nodes begin with the word SELECT, and the tokens among them are calm. -/
structure Selects (nodes : List Node) : Prop where
  head : nodes.head? = some selectNode
  calm : ∀ token, .leaf token ∈ nodes → token.isCalm = true

/-- Nodes still select if their first one stays and no new token appears among them. -/
theorem Selects.arrange {nodes arranged : List Node} (h : Selects nodes)
    (hhead : arranged.head? = some selectNode)
    (hleaves : ∀ token, .leaf token ∈ arranged → .leaf token ∈ nodes) : Selects arranged where
  head := hhead
  calm token htoken := h.calm token (hleaves token htoken)

/-! ### Groups -/

/-- A node that is joined with others is a group. -/
theorem Node.is_group_extend (kind : GroupKind) (added : List Node) (node : Node) :
    (node.extend kind added).isGroup = true := by
  unfold extend
  split
  · rfl
  · split <;> rfl

section GroupRange

variable {kind : GroupKind} {takesIn : Bool} {first last : Nat} {nodes : List Node}

/-- One group stands in the place of the nodes from the first to the last place. -/
theorem group_range_eq (kind : GroupKind) (takesIn : Bool) (first last : Nat) (nodes : List Node) :
    ∃ group : Node, group.isGroup = true ∧ groupRange kind takesIn first last nodes =
      nodes.take first ++ group :: nodes.drop (last + 1) := by
  refine ⟨_, ?_, rfl⟩
  split
  · rfl
  · split
    · exact Node.is_group_extend _ _ _
    · rfl

/-- Grouping a range makes no new tokens. -/
theorem leaf_mem_group_range {token : Token}
    (h : .leaf token ∈ groupRange kind takesIn first last nodes) : .leaf token ∈ nodes := by
  obtain ⟨group, hgroup, heq⟩ := group_range_eq kind takesIn first last nodes
  rw [heq, List.mem_append, List.mem_cons] at h
  rcases h with h | rfl | h
  · exact List.mem_of_mem_take h
  · cases hgroup
  · exact List.mem_of_mem_drop h

/-- Grouping a range after the first node keeps the first node. -/
theorem head_group_range (h : 1 ≤ first) (hnodes : nodes ≠ []) :
    (groupRange kind takesIn first last nodes).head? = nodes.head? := by
  obtain ⟨group, _, heq⟩ := group_range_eq kind takesIn first last nodes
  obtain ⟨count, rfl⟩ := Nat.exists_eq_add_of_le' h
  cases nodes with
  | nil => exact absurd rfl hnodes
  | cons node nodes => rw [heq, List.take_succ_cons, List.cons_append, List.head?_cons,
      List.head?_cons]

/-- The nodes after the group are those after the range. -/
theorem drop_group_range (h : first ≤ nodes.length) :
    (groupRange kind takesIn first last nodes).drop (first + 1) = nodes.drop (last + 1) := by
  obtain ⟨group, _, heq⟩ := group_range_eq kind takesIn first last nodes
  have hlength : (nodes.take first).length = first := List.length_take_of_le h
  have hfront : (nodes.take first).drop (first + 1) = [] := List.drop_eq_nil_of_le (by omega)
  rw [heq, List.drop_append, hlength, hfront, List.nil_append, Nat.add_sub_cancel_left]
  rfl

theorem lt_length_group_range (h : first ≤ nodes.length) :
    first < (groupRange kind takesIn first last nodes).length := by
  obtain ⟨group, _, heq⟩ := group_range_eq kind takesIn first last nodes
  rw [heq, List.length_append, List.length_take, List.length_cons]
  omega

end GroupRange

namespace Bond

/-- The bond cannot bind the word SELECT, and what it binds ends with its middle node or with the
one after that. -/
structure Gentle (bond : Bond) : Prop where
  refuses : bond.fromMiddle = true ∨ bond.mayPrecede selectNode = false
  reach : ∀ nodes middle next?, bond.lastPlace nodes middle next? = middle ∨
    next? = some (bond.lastPlace nodes middle next?)

/-- Where a pass over nodes is when `remaining` have not been looked at. From place `place` on, the
list as grouped so far is what is left of them after the first `taken`, which are in a group
already. -/
structure Scan.Ahead (scan : Scan) (remaining : List Node) (place taken : Nat) : Prop where
  head : scan.nodes.head? = some selectNode
  positive : 1 ≤ place
  within : place ≤ scan.nodes.length
  short : taken ≤ remaining.length
  counted : scan.seen + taken = scan.shift + place
  rest : scan.nodes.drop place = remaining.drop taken
  blank : ∀ node ∈ (remaining.take taken).dropLast, node.isBlank = true
  grouped : 1 ≤ taken → 2 ≤ place
  previous : ∀ before node, scan.previous? = some (before, node) →
    before + 1 ≤ place ∧ (1 ≤ before ∨ node = selectNode)

variable {bond : Bond} {scan : Scan} {node : Node} {remaining : List Node} {place taken : Nat}

/-- A node may be skipped anywhere. -/
theorem Scan.Ahead.skip (h : scan.Ahead (node :: remaining) place taken) :
    ∃ place taken, { scan with seen := scan.seen + 1 : Scan }.Ahead remaining place taken := by
  cases taken with
  | zero =>
      have hrest : scan.nodes.drop place = node :: remaining := h.rest
      have hlength := congrArg List.length hrest
      rw [List.length_drop, List.length_cons] at hlength
      refine ⟨place + 1, 0, ?_⟩
      exact {
        head := h.head
        positive := by omega
        within := by dsimp only; omega
        short := Nat.zero_le _
        counted := by have := h.counted; dsimp only; omega
        rest := by rw [← List.drop_drop, hrest]; rfl
        blank := by simp
        grouped := by omega
        previous := fun before other hbefore ↦ by
          obtain ⟨hplace, hstart⟩ := h.previous before other hbefore
          exact ⟨by omega, hstart⟩ }
  | succ taken =>
      refine ⟨place, taken, ?_⟩
      exact {
        head := h.head
        positive := h.positive
        within := h.within
        short := Nat.le_of_succ_le_succ h.short
        counted := by have := h.counted; dsimp only; omega
        rest := h.rest
        blank := fun other hother ↦ by
          refine h.blank other ?_
          rw [List.take_succ_cons]
          cases htake : remaining.take taken with
          | nil => rw [htake] at hother; cases hother
          | cons first others =>
              rw [htake] at hother
              exact List.mem_cons_of_mem _ hother
        grouped := fun _ ↦ h.grouped (by omega)
        previous := h.previous }

/-- A node that is not skipped is at its place after the first one, and the nodes after it are those
that have not been looked at. -/
theorem Scan.Ahead.at (h : scan.Ahead (node :: remaining) place taken)
    (hnode : node.isBlank = false) :
    ∃ current, 1 ≤ current ∧ current < scan.nodes.length ∧ scan.seen = scan.shift + current ∧
      scan.nodes.drop (current + 1) = remaining ∧
      ∀ before other, scan.previous? = some (before, other) →
        before ≤ current ∧ (1 ≤ before ∨ other = selectNode) := by
  have hcounted := h.counted
  have hwithin := h.within
  have hpositive := h.positive
  match taken, h with
  | 0, h =>
      have hrest : scan.nodes.drop place = node :: remaining := h.rest
      have hlength := congrArg List.length hrest
      rw [List.length_drop, List.length_cons] at hlength
      refine ⟨place, hpositive, by omega, by omega, ?_, fun before other hbefore ↦ ?_⟩
      · rw [← List.drop_drop, hrest]
        rfl
      · obtain ⟨hplace, hstart⟩ := h.previous before other hbefore
        exact ⟨by omega, hstart⟩
  | 1, h =>
      have hgrouped := h.grouped (Nat.le_refl 1)
      refine ⟨place - 1, by omega, by omega, by omega, ?_, fun before other hbefore ↦ ?_⟩
      · rw [Nat.sub_add_cancel hpositive]
        exact h.rest
      · obtain ⟨hplace, hstart⟩ := h.previous before other hbefore
        exact ⟨by omega, hstart⟩
  | taken + 2, h =>
      -- Of the nodes in a group already, only the last is not blank.
      have hfirst : node ∈ ((node :: remaining).take (taken + 2)).dropLast := by
        cases remaining with
        | nil =>
            have hshort := h.short
            simp at hshort
        | cons next remaining =>
            rw [List.take_succ_cons, List.take_succ_cons, List.dropLast_cons_cons]
            exact List.mem_cons_self
      rw [h.blank node hfirst] at hnode
      cases hnode

/-- Between a place and the next node that satisfies a condition, no node does. -/
theorem place_from_eq_some {condition : Node → Bool} {start last : Nat} {nodes : List Node}
    (h : placeFrom? condition start nodes = some last) :
    ∃ count, last = start + count ∧ count < (nodes.drop start).length ∧
      ∀ node ∈ (nodes.drop start).take count, condition node = false := by
  obtain ⟨count, hcount, rfl⟩ := Option.map_eq_some_iff.1 h
  obtain ⟨hlength, _, hbefore⟩ := List.findIdx?_eq_some_iff_getElem.1 hcount
  refine ⟨count, rfl, hlength, fun node hnode ↦ ?_⟩
  obtain ⟨index, hindex, rfl⟩ := List.mem_iff_getElem.1 hnode
  rw [List.length_take] at hindex
  rw [List.getElem_take]
  exact Bool.eq_false_iff.2 (hbefore index (by omega))

/-- What a bond binds at a place after the first node. -/
theorem Gentle.bind_at (hbond : bond.Gentle) {current : Nat} (hpositive : 1 ≤ current)
    {bound : Scan}
    (hprevious : ∀ before other, scan.previous? = some (before, other) →
      before ≤ current ∧ (1 ≤ before ∨ other = selectNode))
    (h : bond.bindAt? scan current node = some bound) :
    ∃ first last, 1 ≤ first ∧ first ≤ current ∧
      (last = current ∨
        placeFrom? (fun node ↦ !node.isBlank) (current + 1) scan.nodes = some last) ∧
      bound.nodes = groupRange bond.kind bond.takesIn first last scan.nodes ∧
      bound.seen = scan.seen ∧ bound.shift = scan.shift + (last - first) ∧
      ∀ before other, bound.previous? = some (before, other) → before = first := by
  unfold bindAt? at h
  split at h
  case isFalse => cases h
  split at h
  case h_1 => cases h
  next before other hbefore =>
    obtain ⟨hplace, hstart⟩ := hprevious before other hbefore
    dsimp only at h
    split at h
    case isFalse => cases h
    next hmay =>
      obtain ⟨hprecede, _⟩ := Bool.and_eq_true_iff.1 hmay
      have hfirst : 1 ≤ (if bond.fromMiddle then current else before) ∧
          (if bond.fromMiddle then current else before) ≤ current := by
        split
        · exact ⟨hpositive, Nat.le_refl _⟩
        next hmiddle =>
          refine ⟨hstart.resolve_right ?_, hplace⟩
          rintro rfl
          rw [hbond.refuses.resolve_left hmiddle] at hprecede
          cases hprecede
      cases h
      refine ⟨_, _, hfirst.1, hfirst.2, ?_, rfl, rfl, rfl, ?_⟩
      · exact hbond.reach _ _ _
      · intro place found hfound
        obtain ⟨_, _, heq⟩ := Option.map_eq_some_iff.1 hfound
        exact (congrArg Prod.fst heq).symm

/-- Where a pass is after a bond has bound what is between two places. -/
theorem Scan.Ahead.bind (h : scan.Ahead (node :: remaining) place taken)
    {current first last : Nat} (hwithin : current < scan.nodes.length)
    (hseen : scan.seen = scan.shift + current) (hrest : scan.nodes.drop (current + 1) = remaining)
    (hpositive : 1 ≤ first) (hfirst : first ≤ current)
    (hlast : last = current ∨
      placeFrom? (fun node ↦ !node.isBlank) (current + 1) scan.nodes = some last)
    {bound : Scan} {kind : GroupKind} {takesIn : Bool}
    (hnodes : bound.nodes = groupRange kind takesIn first last scan.nodes)
    (hboundSeen : bound.seen = scan.seen) (hshift : bound.shift = scan.shift + (last - first))
    (hprevious : ∀ before other, bound.previous? = some (before, other) → before = first) :
    { bound with seen := bound.seen + 1 : Scan }.Ahead remaining (first + 1) (last - current) := by
  obtain ⟨hreach, hshort, hblank⟩ : current ≤ last ∧ last - current ≤ remaining.length ∧
      ∀ node ∈ remaining.take (last - current - 1), node.isBlank = true := by
    rcases hlast with rfl | hnext
    · exact ⟨Nat.le_refl _, by omega, by simp⟩
    · obtain ⟨count, rfl, hcount, hbefore⟩ := place_from_eq_some hnext
      rw [hrest] at hcount hbefore
      refine ⟨by omega, by omega, fun node hnode ↦ ?_⟩
      rw [show current + 1 + count - current - 1 = count by omega] at hnode
      simpa using hbefore node hnode
  have hstart : first ≤ scan.nodes.length := by omega
  exact {
    head := by
      have hne : scan.nodes ≠ [] := List.ne_nil_of_length_pos (by omega)
      rw [hnodes, head_group_range hpositive hne]
      exact h.head
    positive := by omega
    within := by
      rw [hnodes]
      exact lt_length_group_range hstart
    short := hshort
    counted := by dsimp only; omega
    rest := by
      rw [hnodes, drop_group_range hstart, ← hrest, List.drop_drop]
      congr 1
      omega
    blank := fun node hnode ↦ by
      rw [List.dropLast_eq_take, List.take_take, List.length_take] at hnode
      exact hblank node ((List.take_sublist_take_left (by omega)).subset hnode)
    grouped := by omega
    previous := fun before other hbefore ↦ by
      obtain rfl := hprevious before other hbefore
      exact ⟨Nat.le_refl _, .inl hpositive⟩ }

/-- Looking at one more node keeps the first one in its place, and no new token appears. -/
theorem Gentle.look_ahead (hbond : bond.Gentle) (h : scan.Ahead (node :: remaining) place taken) :
    (∃ place taken, (bond.look scan node).Ahead remaining place taken) ∧
      ∀ token, .leaf token ∈ (bond.look scan node).nodes → .leaf token ∈ scan.nodes := by
  unfold look
  dsimp only
  split
  · exact ⟨h.skip, fun _ htoken ↦ htoken⟩
  next hskip =>
    have hnode : node.isBlank = false := by
      simp at hskip
      exact hskip.2
    obtain ⟨current, hpositive, hwithin, hseen, hrest, hprevious⟩ := h.at hnode
    have hplace : scan.seen - scan.shift = current := by omega
    rw [hplace]
    split
    next bound hbound =>
      obtain ⟨first, last, hone, hfirst, hlast, hnodes, hsame, hshift, hnew⟩ :=
        hbond.bind_at hpositive hprevious hbound
      refine ⟨⟨first + 1, last - current, h.bind hwithin hseen hrest hone hfirst hlast hnodes hsame
        hshift hnew⟩, fun token htoken ↦ ?_⟩
      exact leaf_mem_group_range (hnodes ▸ htoken)
    next =>
      refine ⟨⟨current + 1, 0, ?_⟩, fun _ htoken ↦ htoken⟩
      exact {
        head := h.head
        positive := by omega
        within := hwithin
        short := Nat.zero_le _
        counted := by dsimp only; omega
        rest := hrest
        blank := by simp
        grouped := by omega
        previous := fun before other hbefore ↦ by
          obtain ⟨rfl, rfl⟩ := Prod.mk.inj (Option.some.inj hbefore)
          exact ⟨Nat.le_refl _, .inl hpositive⟩ }

/-- Nodes that select still do so after a gentle bond has grouped them. -/
theorem Gentle.group_selects (hbond : bond.Gentle) {nodes : List Node} (h : Selects nodes) :
    Selects (bond.group nodes) := by
  -- The pass starts behind the first node, which has nothing before it that could be bound.
  have hpass : ∀ (remaining : List Node) (scan : Scan) (place taken : Nat),
      scan.Ahead remaining place taken →
        (remaining.foldl bond.look scan).nodes.head? = some selectNode ∧
          ∀ token, .leaf token ∈ (remaining.foldl bond.look scan).nodes →
            .leaf token ∈ scan.nodes := by
    intro remaining
    induction remaining with
    | nil => exact fun scan _ _ hscan ↦ ⟨hscan.head, fun _ htoken ↦ htoken⟩
    | cons node remaining ih =>
        intro scan place taken hscan
        obtain ⟨⟨place, taken, hnext⟩, hleaves⟩ := hbond.look_ahead hscan
        obtain ⟨hhead, hrest⟩ := ih _ _ _ hnext
        exact ⟨hhead, fun token htoken ↦ hleaves token (hrest token htoken)⟩
  obtain ⟨rest, rfl⟩ := List.head?_eq_some_iff.1 h.head
  let start : Scan := { nodes := selectNode :: rest, seen := 1, previous? := some (0, selectNode) }
  have hfirst : bond.look { nodes := selectNode :: rest } selectNode = start := by
    have hblank : selectNode.isBlank = false := rfl
    unfold look bindAt?
    simp [hblank, start]
  have hstart : start.Ahead rest 1 0 := {
    head := rfl
    positive := Nat.le_refl _
    within := Nat.le_add_left 1 _
    short := Nat.zero_le _
    counted := rfl
    rest := rfl
    blank := by simp
    grouped := by omega
    previous := fun before other hbefore ↦ by
      obtain ⟨rfl, rfl⟩ := Prod.mk.inj (Option.some.inj hbefore)
      exact ⟨Nat.le_refl _, .inr rfl⟩ }
  obtain ⟨hhead, hleaves⟩ := hpass rest start 1 0 hstart
  refine h.arrange ?_ ?_
  · rw [group, List.foldl_cons, hfirst]
    exact hhead
  · rw [group, List.foldl_cons, hfirst]
    exact hleaves

/-- Only tokens that are not calm bind by the bond. -/
def Restless (bond : Bond) : Prop :=
  ∀ node, bond.binds node = true → ∃ token, node = .leaf token ∧ token.isCalm = false

/-- Nodes that select have nothing that binds by a restless bond. -/
theorem Restless.group_selects (hbond : bond.Restless) {nodes : List Node} (h : Selects nodes) :
    Selects (bond.group nodes) := by
  have hidle : ∀ node ∈ nodes, bond.binds node = false := by
    intro node hnode
    by_contra hbinds
    obtain ⟨token, rfl, hcalm⟩ := hbond node (Bool.not_eq_false _ ▸ hbinds)
    rw [h.calm token hnode] at hcalm
    cases hcalm
  have hpass : (nodes.foldl bond.look { nodes }).nodes = nodes := by
    refine List.foldlRecOn (motive := fun scan : Scan ↦ scan.nodes = nodes) nodes bond.look rfl
      fun scan hscan node hnode ↦ ?_
    rw [← hscan]
    unfold look bindAt?
    simp only [hidle node hnode, Bool.false_eq_true, if_false]
    split <;> rfl
  rwa [group, hpass]

end Bond

/-! ### The bonds -/

theorem qualification_gentle : qualification.Gentle where
  refuses := .inr rfl
  reach nodes middle next? := by
    cases next? with
    | none => exact .inl rfl
    | some next =>
        unfold qualification
        simp only [Option.filter_some]
        split
        · exact .inr rfl
        · exact .inl rfl

theorem indexing_gentle : indexing.Gentle := ⟨.inr rfl, fun _ _ _ ↦ .inl rfl⟩

/-- A bond that ends with the node after its middle node does not reach further. -/
theorem reach_next (middle : Nat) (next? : Option Nat) :
    next?.getD middle = middle ∨ next? = some (next?.getD middle) := by
  cases next? with
  | none => exact .inl rfl
  | some next => exact .inr rfl

theorem type_cast_restless : typeCast.Restless := by
  intro node hbinds
  cases node with
  | leaf token => exact ⟨token, rfl, by simp_all [typeCast, Node.isMark, Node.isLeaf, Token.isCalm]⟩
  | group kind members => cases hbinds

theorem zone_cast_restless : zoneCast.Restless := by
  intro node hbinds
  cases node with
  | leaf token =>
      exact ⟨token, rfl, by simp_all [zoneCast, Node.hasKind, Node.isLeaf, Token.isCalm]⟩
  | group kind members => cases hbinds

theorem assignment_restless : assignment.Restless := by
  intro node hbinds
  cases node with
  | leaf token =>
      exact ⟨token, rfl, by simp_all [assignment, Node.hasKind, Node.isLeaf, Token.isCalm]⟩
  | group kind members => cases hbinds

theorem typed_literal_gentle : typedLiteral.Gentle := ⟨.inl rfl, fun _ ↦ reach_next⟩

theorem literal_unit_gentle : literalUnit.Gentle := ⟨.inl rfl, fun _ ↦ reach_next⟩

theorem operation_gentle : operation.Gentle := ⟨.inr rfl, fun _ ↦ reach_next⟩

theorem comparison_gentle : comparison.Gentle := ⟨.inr rfl, fun _ ↦ reach_next⟩

theorem new_name_gentle : newName.Gentle := ⟨.inr rfl, fun _ ↦ reach_next⟩

theorem enumeration_gentle : enumeration.Gentle := ⟨.inr rfl, fun _ ↦ reach_next⟩

end TenantReporting.Sql
