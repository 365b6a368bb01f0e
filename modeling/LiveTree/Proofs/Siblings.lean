import LiveTree.Proofs.Ancestors
import LiveTree.Query.Sibling
import Mathlib.Data.List.Chain
import Mathlib.Data.List.Nodup
import Mathlib.Logic.Function.Iterate

/-!
# Moving among siblings walks the named ones

The children of a node are named and anonymous ones in one row.  A step looks along the row, from the
place of a node on, for the nearest named one.  Where there is one, the step back leads from it to the
next named one on the other side: that is the node the step started from, if it is named itself.  So two
neighbours in the list of the named children are one step apart in either direction, and repeated steps
go through that list from one end to the other.

A node's place in the row is stored in the arena.  The links of an arena agree, so the place is inside
the row, and what stands in the row is inside the arena: no access can fail.

## Key results

- `SyntaxTree.place_eq`, `SyntaxTree.nodup_children`: a node stands at its own place, and there only
- `SyntaxTree.siblingInBounds?_eq`: no access is out of bounds
- `SyntaxTree.Nearest.back`: a named node is the nearest one on the other side of the one nearest to it
- `SyntaxTree.iterate_eq_getD`: a walk that follows a list and stays at its end
- `SyntaxTree.siblings_walked`: what a step does, and where repeated steps lead
-/

namespace LiveTree

namespace SyntaxTree

/-! ## Steps with every access checked -/

/-- The first named one of several nodes; no answer at all if one that is looked at is not in the
    tree. -/
def firstNamed? (tree : SyntaxTree) : List NodeId → Option (Option NodeId)
  | [] => some none
  | id :: rest => do
    let node ← tree.node? id
    if node.label.named then return some id
    else firstNamed? tree rest

/-- The part of a row before or after a place, from the nearest on; no answer if it ends outside of the
    row. -/
def partOfRow? (row : List NodeId) (index : Nat) : Direction → Option (List NodeId)
  | .previous => if index ≤ row.length then some (row.take index).reverse else none
  | .next => if index + 1 ≤ row.length then some (row.drop (index + 1)) else none

/-- `sibling` with every access checked: to the node, to its parent, to the parent's children and to
    those of them that are looked at. -/
def siblingInBounds? (tree : SyntaxTree) (id : NodeId) (direction : Direction) : Option NodeId := do
  let node ← tree.node? id
  match node.parent with
  | none => return id
  | some parent =>
    let above ← tree.node? parent
    let part ← partOfRow? above.children.toList node.index direction
    let found ← tree.firstNamed? part
    return found.getD id

/-! ## Rows of children -/

/-- The way from a node in a direction along its siblings leads past the ones between, in this order, to
    another. -/
def Passes (tree : SyntaxTree) (direction : Direction) (id : NodeId) (between : List NodeId)
    (other : NodeId) : Prop :=
  match direction with
  | .previous => ∃ parent before after,
      tree.children parent = before ++ other :: (between.reverse ++ id :: after)
  | .next => ∃ parent before after,
      tree.children parent = before ++ id :: (between ++ other :: after)

/-- Another node is the first named one on the way from a node in a direction. -/
structure Nearest (tree : SyntaxTree) (direction : Direction) (id other : NodeId) : Prop where
  named : tree.isNamed other = true
  passes : ∃ between, tree.Passes direction id between other ∧
    ∀ passed ∈ between, tree.isNamed passed = false

/-- The siblings of a node on one side, from the nearest on. -/
def beyond (tree : SyntaxTree) (id : NodeId) (direction : Direction) : List NodeId :=
  match tree.parent? id with
  | none => []
  | some parent => match direction with
    | .previous => ((tree.children parent).take (tree.node id).index).reverse
    | .next => (tree.children parent).drop ((tree.node id).index + 1)

variable {tree : SyntaxTree} {direction : Direction} {id other parent : NodeId}

/-- A child stands at its own place in the row. -/
theorem place_eq {k : Nat} (h : (tree.children parent)[k]? = some id) : (tree.node id).index = k := by
  have hparent := mem_children_iff.1 (List.mem_of_getElem? h)
  obtain ⟨entry, hentry, hnode⟩ := exists_entry (lt_size_of_parent hparent)
  obtain ⟨above, habove, hparentNode⟩ :=
    exists_entry (Nat.lt_trans (parent_lt hparent) (lt_size_of_parent hparent))
  unfold children at h
  -- The row is that of the node's entry in the arena, and the links of the arena agree.
  rw [hparentNode, Array.getElem?_toList] at h
  rw [hnode]
  exact ((Arena.parent_iff_child hentry parent k).2 ⟨above, habove, h⟩).2

/-- No child stands at two places. -/
theorem nodup_children (tree : SyntaxTree) (parent : NodeId) : (tree.children parent).Nodup := by
  rw [List.nodup_iff_getElem?_ne_getElem?]
  intro i j hlt hj hsame
  have hplace := place_eq (List.getElem?_eq_getElem hj)
  rw [List.getElem?_eq_getElem hj] at hsame
  have := place_eq hsame
  omega

/-- Where a row is divided at a node, the two parts are what lies beyond it on either side. -/
theorem beyond_of_children {before after : List NodeId}
    (h : tree.children parent = before ++ id :: after) :
    tree.beyond id .previous = before.reverse ∧ tree.beyond id .next = after := by
  have hmem : id ∈ tree.children parent := by
    rw [h]
    exact List.mem_append_right _ List.mem_cons_self
  have hplace : (tree.node id).index = before.length := by
    apply place_eq
    rw [h]
    simp
  unfold beyond
  rw [mem_children_iff.1 hmem, hplace]
  dsimp only
  rw [h]
  simp

/-- A node with something beyond it divides a row. -/
theorem exists_row (h : other ∈ tree.beyond id direction) :
    ∃ parent before after, tree.children parent = before ++ id :: after := by
  unfold beyond at h
  cases hparent : tree.parent? id with
  | none =>
    rw [hparent] at h
    exact nomatch h
  | some parent => exact ⟨parent, _, _, children_parent hparent⟩

/-- The way past some nodes to another is the beginning of what lies beyond a node. -/
theorem passes_iff {between : List NodeId} :
    tree.Passes direction id between other ↔
      ∃ after, tree.beyond id direction = between ++ other :: after := by
  constructor
  · intro passes
    cases direction with
    | previous =>
      obtain ⟨parent, before, after, h⟩ := passes
      rw [← List.cons_append, ← List.append_assoc] at h
      refine ⟨before.reverse, ?_⟩
      rw [(beyond_of_children h).1]
      simp
    | next =>
      obtain ⟨parent, before, after, h⟩ := passes
      exact ⟨after, (beyond_of_children h).2⟩
  · rintro ⟨after, h⟩
    have hmem : other ∈ tree.beyond id direction := by
      rw [h]
      exact List.mem_append_right _ List.mem_cons_self
    -- What lies beyond the node tells how its row is divided, up to the direction.
    obtain ⟨parent, left, right, hrow⟩ := exists_row hmem
    cases direction with
    | previous =>
      have hleft : left = after.reverse ++ other :: between.reverse := by
        have hreverse := (beyond_of_children hrow).1.symm.trans h
        rw [← List.reverse_reverse left, hreverse]
        simp
      refine ⟨parent, after.reverse, right, ?_⟩
      rw [hrow, hleft]
      simp
    | next =>
      refine ⟨parent, left, after, ?_⟩
      rw [hrow, (beyond_of_children hrow).2.symm.trans h]

/-- The way back leads past the same ones in reverse. -/
theorem Passes.back {between : List NodeId} (passes : tree.Passes direction id between other) :
    tree.Passes direction.reverse other between.reverse id := by
  cases direction with
  | previous => exact passes
  | next =>
    obtain ⟨parent, before, after, h⟩ := passes
    refine ⟨parent, before, after, ?_⟩
    rw [List.reverse_reverse]
    exact h

/-! ## The nearest named sibling -/

/-- The nearest named sibling is the first named one of those beyond the node. -/
theorem nearest_iff :
    tree.Nearest direction id other ↔
      (tree.beyond id direction).find? tree.isNamed = some other := by
  rw [List.find?_eq_some_iff_append]
  constructor
  · rintro ⟨named, between, passes, hbetween⟩
    obtain ⟨after, h⟩ := passes_iff.1 passes
    exact ⟨named, between, after, h, fun passed hpassed => by simp [hbetween passed hpassed]⟩
  · rintro ⟨named, between, after, h, hbetween⟩
    exact ⟨named, between, passes_iff.2 ⟨after, h⟩,
      fun passed hpassed => by simpa using hbetween passed hpassed⟩

/-- A named node is the nearest one on the other side of the one that is nearest to it. -/
theorem Nearest.back (nearest : tree.Nearest direction id other) (named : tree.isNamed id = true) :
    tree.Nearest direction.reverse other id := by
  obtain ⟨-, between, passes, hbetween⟩ := nearest
  exact ⟨named, between.reverse, passes.back,
    fun passed hpassed => hbetween passed (List.mem_reverse.1 hpassed)⟩

/-- A step is to the first named one of those beyond the node, if there is any. -/
theorem sibling_eq (tree : SyntaxTree) (id : NodeId) (direction : Direction) :
    tree.sibling id direction = ((tree.beyond id direction).find? tree.isNamed).getD id := by
  unfold sibling nextNamed? previousNamed? beyond
  cases direction <;> cases tree.parent? id <;> rfl

/-- So it leads to the nearest named sibling, if there is one. -/
theorem Nearest.sibling_eq (nearest : tree.Nearest direction id other) :
    tree.sibling id direction = other := by
  rw [SyntaxTree.sibling_eq, nearest_iff.1 nearest]
  rfl

/-- Siblings have the same parent, and none is its own sibling. -/
theorem Passes.siblings {between : List NodeId} (passes : tree.Passes direction id between other) :
    tree.parent? other = tree.parent? id ∧ other ≠ id := by
  -- Of two siblings one comes first, whatever the direction.
  wlog h : direction = .next generalizing direction id between other with swapped
  · have hback : direction.reverse = .next := by
      cases direction with
      | previous => rfl
      | next => exact absurd rfl h
    obtain ⟨hparent, hne⟩ := swapped passes.back hback
    exact ⟨hparent.symm, hne.symm⟩
  subst h
  obtain ⟨parent, before, after, h⟩ := passes
  have hid : id ∈ tree.children parent := by simp [h]
  have hother : other ∈ tree.children parent := by simp [h]
  refine ⟨(mem_children_iff.1 hother).trans (mem_children_iff.1 hid).symm, ?_⟩
  rintro rfl
  have hnodup := tree.nodup_children parent
  simp [h, List.nodup_append] at hnodup

/-- A step stays where it is if and only if no named sibling is on that side. -/
theorem sibling_eq_self_iff :
    tree.sibling id direction = id ↔
      ∀ between other, tree.Passes direction id between other → tree.isNamed other = false := by
  rw [sibling_eq]
  -- Either there is none beyond, or a step leads to the first one.
  cases hfind : (tree.beyond id direction).find? tree.isNamed with
  | none =>
    refine ⟨fun _ between other passes => ?_, fun _ => rfl⟩
    obtain ⟨after, h⟩ := passes_iff.1 passes
    have hnot := List.find?_eq_none.1 hfind other (by simp [h])
    simpa using hnot
  | some other =>
    obtain ⟨named, between, passes, -⟩ := nearest_iff.2 hfind
    refine ⟨fun hself => absurd hself passes.siblings.2, fun none => ?_⟩
    rw [none between other passes] at named
    exact nomatch named

/-- A step that goes anywhere goes to the nearest named sibling. -/
theorem nearest_of_sibling_ne (h : tree.sibling id direction ≠ id) :
    tree.Nearest direction id (tree.sibling id direction) := by
  rw [sibling_eq] at h ⊢
  cases hfind : (tree.beyond id direction).find? tree.isNamed with
  | none => exact absurd (by rw [hfind]; rfl) h
  | some other => exact nearest_iff.2 hfind

/-! ## Accesses -/

/-- An access inside the tree succeeds. -/
theorem node?_eq_some (inside : id < tree.size) : tree.node? id = some (tree.node id) := by
  have hentry : tree.nodes[id]? = some tree.nodes[id] := Array.getElem?_eq_getElem inside
  unfold SyntaxTree.node node?
  rw [hentry]
  rfl

/-- The search for a named node succeeds if all the nodes that it may look at are in the tree. -/
theorem firstNamed?_eq {ids : List NodeId} (inside : ∀ id ∈ ids, id < tree.size) :
    tree.firstNamed? ids = some (ids.find? tree.isNamed) := by
  -- By induction on the nodes: the search looks at the first one, and goes on with the rest.
  induction ids with
  | nil => rfl
  | cons id rest ih =>
    have hrest := ih fun other hother => inside other (List.mem_cons_of_mem _ hother)
    have hnamed : (tree.node id).label.named = tree.isNamed id := rfl
    rw [firstNamed?, node?_eq_some (inside id List.mem_cons_self), hrest]
    simp only [bind, Option.bind, pure, hnamed]
    cases h : tree.isNamed id <;> simp [h]

/-- The place of a node is inside the row, so there is a part on either side. -/
theorem partOfRow?_eq (h : tree.parent? id = some parent) (direction : Direction) :
    partOfRow? (tree.children parent) (tree.node id).index direction =
      some (tree.beyond id direction) := by
  have hplace : (tree.node id).index < (tree.children parent).length := by
    have hlength := congrArg List.length (children_parent h)
    simp only [List.length_append, List.length_take, List.length_cons, List.length_drop] at hlength
    omega
  unfold beyond
  rw [h]
  cases direction with
  | previous => exact if_pos (Nat.le_of_lt hplace)
  | next => exact if_pos hplace

/-- All siblings of a node are in the tree. -/
theorem lt_size_of_beyond (h : other ∈ tree.beyond id direction) : other < tree.size := by
  obtain ⟨between, after, hbeyond⟩ := List.append_of_mem h
  have hparent := (passes_iff.2 ⟨after, hbeyond⟩).siblings.1
  obtain ⟨parent, before, rest, hrow⟩ := exists_row h
  have hid : id ∈ tree.children parent := by simp [hrow]
  exact lt_size_of_parent (hparent.trans (mem_children_iff.1 hid))

/-- No access is out of bounds. -/
theorem siblingInBounds?_eq (inside : id < tree.size) (direction : Direction) :
    tree.siblingInBounds? id direction = some (tree.sibling id direction) := by
  have hup : (tree.node id).parent = tree.parent? id := rfl
  unfold siblingInBounds?
  -- The accesses one after the other: to the node, to its parent, to a part of the row, to those in
  -- it.
  simp only [node?_eq_some inside, hup, sibling_eq, bind, Option.bind, pure]
  cases hparent : tree.parent? id with
  | none =>
    unfold beyond
    rw [hparent]
    rfl
  | some parent =>
    have habove := node?_eq_some (Nat.lt_trans (parent_lt hparent) inside)
    have hpart := partOfRow?_eq hparent direction
    unfold children at hpart
    simp only [habove, hpart, firstNamed?_eq fun other => lt_size_of_beyond]

/-! ## Walks along a row -/

/-- A walk that follows a list is at its elements one after the other, and then stays at the last. -/
theorem iterate_eq_getD {α : Type} {f : α → α} {as : List α} {first last : α}
    (chain : as.IsChain fun a b => f a = b) (hfirst : as.head? = some first)
    (hlast : as.getLast? = some last) (stays : f last = last) (steps : Nat) :
    f^[steps] first = as[steps]?.getD last := by
  -- By induction on the list, with its first element and the number of steps free.
  induction as generalizing first steps with
  | nil => exact nomatch hfirst
  | cons a rest ih =>
    obtain rfl := Option.some.inj hfirst
    obtain ⟨hnext, hrest⟩ := List.isChain_cons.1 chain
    cases steps with
    | zero => rfl
    | succ steps =>
      rw [Function.iterate_succ_apply, List.getElem?_cons_succ]
      cases rest with
      | nil =>
        -- The list ends here, so the walk stays.
        have hsame : a = last := Option.some.inj hlast
        subst hsame
        rw [stays, Function.iterate_fixed stays]
        rfl
      | cons b others =>
        rw [hnext b rfl]
        exact ih hrest rfl (by simpa using hlast) steps

/-- Each named child is the nearest one after the one before it in their list. -/
theorem isChain_namedChildren (tree : SyntaxTree) (parent : NodeId) :
    (tree.namedChildren parent).IsChain (tree.Nearest .next) := by
  -- Along the row, with the part of it that is still to come.
  suffices ∀ before rest, tree.children parent = before ++ rest →
      (rest.filter tree.isNamed).IsChain (tree.Nearest .next) from this [] _ rfl
  intro before rest hrow
  induction rest generalizing before with
  | nil => exact .nil
  | cons id rest ih =>
    have hrest := ih (before ++ [id]) (by simp [hrow])
    -- Either the child is named and followed by the next named one, or it does not count.
    by_cases hnamed : tree.isNamed id = true
    · rw [List.filter_cons_of_pos hnamed, List.isChain_cons]
      refine ⟨fun other hother => nearest_iff.2 ?_, hrest⟩
      rw [(beyond_of_children hrow).2, ← List.head?_filter]
      exact hother
    · rw [List.filter_cons_of_neg hnamed]
      exact hrest

/-- Before the first named child there is none to step to. -/
theorem sibling_of_head? (h : (tree.namedChildren parent).head? = some id) :
    tree.sibling id .previous = id := by
  unfold namedChildren at h
  rw [List.head?_filter] at h
  obtain ⟨-, before, after, hrow, hbefore⟩ := List.find?_eq_some_iff_append.1 h
  have hnone : before.reverse.find? tree.isNamed = none :=
    List.find?_eq_none.2 fun other hother => by simpa using hbefore other (List.mem_reverse.1 hother)
  rw [sibling_eq, (beyond_of_children hrow).1, hnone]
  rfl

/-- After the last named child there is none to step to. -/
theorem sibling_of_getLast? (h : (tree.namedChildren parent).getLast? = some id) :
    tree.sibling id .next = id := by
  unfold namedChildren at h
  -- From behind, the last one is the first.
  rw [List.getLast?_eq_head?_reverse, ← List.filter_reverse, List.head?_filter] at h
  obtain ⟨-, after, before, hreverse, hafter⟩ := List.find?_eq_some_iff_append.1 h
  have hrow : tree.children parent = before.reverse ++ id :: after.reverse := by
    simpa using congrArg List.reverse hreverse
  have hnone : after.reverse.find? tree.isNamed = none :=
    List.find?_eq_none.2 fun other hother => by simpa using hafter other (List.mem_reverse.1 hother)
  rw [sibling_eq, (beyond_of_children hrow).2, hnone]
  rfl

/-- Each named child is one step after the one before it in their list, and one step before the one after
    it. -/
theorem sibling_of_succ {k : Nat} (hid : (tree.namedChildren parent)[k]? = some id)
    (hother : (tree.namedChildren parent)[k + 1]? = some other) :
    tree.sibling id .next = other ∧ tree.sibling other .previous = id := by
  obtain ⟨-, rfl⟩ := List.getElem?_eq_some_iff.1 hid
  obtain ⟨hlt, rfl⟩ := List.getElem?_eq_some_iff.1 hother
  have nearest := List.isChain_iff_getElem.1 (tree.isChain_namedChildren parent) k hlt
  have hnamed := (List.mem_filter.1 (List.getElem_mem (Nat.lt_of_succ_lt hlt))).2
  exact ⟨nearest.sibling_eq, (nearest.back hnamed).sibling_eq⟩

/-- No access of a step is out of bounds.  A step stays at a node if and only if there is no named sibling
    on that side, and otherwise it leads to the nearest one; from a named node, the step back leads to the
    node again.  So the steps from the first named child of a node on go through all of them in order, and
    then stay at the last one; and the steps back from the last one go through them in reverse. -/
theorem siblings_walked (tree : SyntaxTree) :
    (∀ id < tree.size, ∀ direction,
      tree.siblingInBounds? id direction = some (tree.sibling id direction) ∧
      (tree.sibling id direction = id ↔
        ∀ between other, tree.Passes direction id between other → tree.isNamed other = false) ∧
      (tree.sibling id direction ≠ id →
        tree.Nearest direction id (tree.sibling id direction) ∧
        tree.parent? (tree.sibling id direction) = tree.parent? id ∧
        (tree.isNamed id = true →
          tree.sibling (tree.sibling id direction) direction.reverse = id))) ∧
    ∀ parent first last, (tree.namedChildren parent).head? = some first →
      (tree.namedChildren parent).getLast? = some last → ∀ steps,
        (tree.sibling · .next)^[steps] first = (tree.namedChildren parent)[steps]?.getD last ∧
        (tree.sibling · .previous)^[steps] last =
          (tree.namedChildren parent).reverse[steps]?.getD first := by
  refine ⟨fun id inside direction => ?_, fun parent first last hfirst hlast steps => ?_⟩
  · refine ⟨siblingInBounds?_eq inside direction, sibling_eq_self_iff, fun hne => ?_⟩
    have nearest := nearest_of_sibling_ne hne
    obtain ⟨between, passes, -⟩ := nearest.passes
    exact ⟨nearest, passes.siblings.1, fun named => (nearest.back named).sibling_eq⟩
  · have hstart := sibling_of_head? hfirst
    have hend := sibling_of_getLast? hlast
    have forth : (tree.namedChildren parent).IsChain fun id other => tree.sibling id .next = other :=
      -- The chain one way comes of the steps forth, and the other way of those back.
      List.isChain_iff_getElem.2 fun k hlt =>
        (sibling_of_succ (List.getElem?_eq_getElem _) (List.getElem?_eq_getElem hlt)).1
    have back : (tree.namedChildren parent).reverse.IsChain
        fun id other => tree.sibling id .previous = other :=
      List.isChain_reverse.2 (List.isChain_iff_getElem.2 fun k hlt =>
        (sibling_of_succ (List.getElem?_eq_getElem _) (List.getElem?_eq_getElem hlt)).2)
    exact ⟨iterate_eq_getD forth hfirst hlast hend steps,
      iterate_eq_getD back (by simpa using hlast) (by simpa using hfirst) hstart steps⟩

/-- An array of three numbers. -/
def array : SyntaxTree := .ofParse "json" 0
  { root := .mk ⟨"array", true, false, false, ⟨0, 7, ⟨0, 0⟩, ⟨0, 7⟩⟩⟩ [
      .mk ⟨"[", false, false, false, ⟨0, 1, ⟨0, 0⟩, ⟨0, 1⟩⟩⟩ [],
      .mk ⟨"number", true, false, false, ⟨1, 2, ⟨0, 1⟩, ⟨0, 2⟩⟩⟩ [],
      .mk ⟨",", false, false, false, ⟨2, 3, ⟨0, 2⟩, ⟨0, 3⟩⟩⟩ [],
      .mk ⟨"number", true, false, false, ⟨3, 4, ⟨0, 3⟩, ⟨0, 4⟩⟩⟩ [],
      .mk ⟨",", false, false, false, ⟨4, 5, ⟨0, 4⟩, ⟨0, 5⟩⟩⟩ [],
      .mk ⟨"number", true, false, false, ⟨5, 6, ⟨0, 5⟩, ⟨0, 6⟩⟩⟩ [],
      .mk ⟨"]", false, false, false, ⟨6, 7, ⟨0, 6⟩, ⟨0, 7⟩⟩⟩ []]
    expression := "(array (number) (number) (number))" }

/-- The steps pass the commas, and from the second number on the way back leads to it. -/
theorem siblings_walked_array :
    4 < array.size ∧ array.sibling 4 .previous = 2 ∧ array.Nearest .previous 4 2 ∧
      array.sibling 2 .next = 4 ∧
      ∀ steps, (array.sibling · .next)^[steps] 2 = [2, 4, 6][steps]?.getD 6 := by
  have inside : 4 < array.size := by decide
  have hprevious : array.sibling 4 .previous = 2 := by decide
  obtain ⟨-, -, hstep⟩ := array.siblings_walked.1 4 inside .previous
  obtain ⟨nearest, -, back⟩ := hstep (by decide)
  rw [hprevious] at nearest back
  have walk := array.siblings_walked.2 0 2 6 (by decide) (by decide)
  exact ⟨inside, hprevious, nearest, back (by decide), fun steps => (walk steps).1⟩

end SyntaxTree

end LiveTree
