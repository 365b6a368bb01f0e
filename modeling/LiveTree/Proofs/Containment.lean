import LiveTree.Proofs.Ancestors
import LiveTree.Query.Containing

/-!
# The deepest node around a span is found

The search starts at the root and enters a child as long as one contains the span.  A step enters the
first named child that does, or the first anonymous one if no named child does.  Every step leads to a
larger name, so the search ends before it runs out of steps, at a node none of whose children contains
the span.

Where nodes lie inside their parents and siblings follow one another, a span with at least one byte has
room in one child at most.  Then there was never a choice: the nodes that contain the span are the ones
that the search came through.

## Key results

- `SyntaxTree.enter?_eq_some_iff`: which child a step enters
- `SyntaxTree.Reached.descend`, `SyntaxTree.enter?_descend`: what all steps together lead to
- `SyntaxTree.InOrder.eq_of_contains`: a span with a byte in it has room in one child only
- `SyntaxTree.containing_deepest`: the node that is found
-/

namespace LiveTree

/-- A span has room in an extent between its two ends. -/
theorem Extent.containsSpan_iff {e : Extent} {s : Span} :
    e.containsSpan s = true ↔ e.start ≤ s.start ∧ s.stop ≤ e.stop := by
  simp [containsSpan]

/-- An extent contains another if the bytes of the other have room in it. -/
theorem Extent.contains_iff {a b : Extent} :
    a.contains b = true ↔ a.start ≤ b.start ∧ b.stop ≤ a.stop := containsSpan_iff

namespace SyntaxTree

/-- The children of a node that are not named, in order. -/
def anonymousChildren (tree : SyntaxTree) (id : NodeId) : List NodeId :=
  (tree.children id).filter fun child => !tree.isNamed child

/-- A node is the first in a list that contains a span. -/
def FirstAround (tree : SyntaxTree) (span : Span) (ids : List NodeId) (id : NodeId) : Prop :=
  (tree.extent id).containsSpan span = true ∧ ∃ before after, ids = before ++ id :: after ∧
    ∀ other ∈ before, (tree.extent other).containsSpan span = false

/-- The child that is entered on the way from a node to a span. -/
inductive Enters (tree : SyntaxTree) (span : Span) (parent child : NodeId) : Prop where
  /-- A named child contains the span, and it is the first such. -/
  | named (first : tree.FirstAround span (tree.namedChildren parent) child)
  /-- No named child does, and this is the first anonymous one. -/
  | anonymous
      (noNamed : ∀ other ∈ tree.namedChildren parent, (tree.extent other).containsSpan span = false)
      (first : tree.FirstAround span (tree.anonymousChildren parent) child)

/-- A node that the search for a span comes to: it and its ancestors contain the span, and each of them
    was entered from its parent. -/
structure Reached (tree : SyntaxTree) (span : Span) (id : NodeId) : Prop where
  /-- The node is one of the tree's. -/
  inside : id < tree.size
  around : ∀ other ∈ tree.ancestors id, (tree.extent other).containsSpan span = true
  entered : ∀ child ∈ tree.ancestors id, ∀ parent, tree.parent? child = some parent →
    tree.Enters span parent child

/-- The node at which the search for a span ends. -/
structure Deepest (tree : SyntaxTree) (span : Span) (id : NodeId) : Prop extends
    tree.Reached span id where
  /-- No further step leads anywhere else. -/
  ended : ∀ steps, tree.size ≤ steps → tree.descend span steps root = id
  /-- None of its children contains the span. -/
  below : ∀ child ∈ tree.children id, (tree.extent child).containsSpan span = false

variable {tree : SyntaxTree} {span : Span} {id parent child : NodeId}

/-! ## One step -/

/-- The search through a list finds the first node around the span. -/
theorem find?_eq_some_iff_firstAround {ids : List NodeId} :
    ids.find? (fun id => (tree.extent id).containsSpan span) = some id ↔
      tree.FirstAround span ids id := by
  unfold FirstAround
  rw [List.find?_eq_some_iff_append]
  simp

/-- A step looks for a named child first, and then for an anonymous one. -/
theorem enter?_eq (tree : SyntaxTree) (span : Span) (id : NodeId) :
    tree.enter? span id =
      ((tree.namedChildren id).find? fun child => (tree.extent child).containsSpan span).or
        ((tree.anonymousChildren id).find? fun child => (tree.extent child).containsSpan span) := by
  -- To filter by the span and then look for a name is to filter by the name first.
  have hnamed : ((tree.children id).filter fun child => (tree.extent child).containsSpan span).find?
      tree.isNamed =
      (tree.namedChildren id).find? fun child => (tree.extent child).containsSpan span := by
    unfold namedChildren
    rw [← List.head?_filter, ← List.head?_filter, List.filter_filter, List.filter_filter]
    simp only [Bool.and_comm]
  unfold enter?
  dsimp only
  rw [hnamed]
  cases hfound : (tree.namedChildren id).find? fun child => (tree.extent child).containsSpan span with
  | some child => rfl
  | none =>
    -- No named child contains the span, so every child that does is anonymous.
    rw [Option.none_or, Option.none_or, ← List.head?_filter]
    congr 1
    unfold anonymousChildren
    rw [List.filter_filter]
    apply List.filter_congr
    intro child hchild
    cases hname : tree.isNamed child with
    | false => simp
    | true =>
      have hnot := List.find?_eq_none.1 hfound child (List.mem_filter.2 ⟨hchild, hname⟩)
      simpa using hnot

/-- A step enters a child exactly if it is the one to be entered. -/
theorem enter?_eq_some_iff :
    tree.enter? span parent = some child ↔ tree.Enters span parent child := by
  rw [enter?_eq, Option.or_eq_some_iff, find?_eq_some_iff_firstAround,
    find?_eq_some_iff_firstAround, List.find?_eq_none]
  constructor
  · rintro (first | ⟨none, first⟩)
    · exact .named first
    · exact .anonymous (fun other hother => by simpa using none other hother) first
  · rintro (first | ⟨none, first⟩)
    · exact .inl first
    · exact .inr ⟨fun other hother => by simpa using none other hother, first⟩

/-- The child that is entered is a child of the node. -/
theorem mem_children_of_enters (enters : tree.Enters span parent child) :
    child ∈ tree.children parent := by
  rcases enters with ⟨-, before, after, hids, -⟩ | ⟨-, -, before, after, hids, -⟩
  · have hmem : child ∈ tree.namedChildren parent := hids ▸ List.mem_append_right _ List.mem_cons_self
    exact (List.mem_filter.1 hmem).1
  · have hmem : child ∈ tree.anonymousChildren parent :=
      hids ▸ List.mem_append_right _ List.mem_cons_self
    exact (List.mem_filter.1 hmem).1

/-- The child that is entered contains the span. -/
theorem Enters.containsSpan (enters : tree.Enters span parent child) :
    (tree.extent child).containsSpan span = true := by
  rcases enters with ⟨contains, -⟩ | ⟨-, contains, -⟩ <;> exact contains

/-- No child is entered if and only if none contains the span. -/
theorem enter?_eq_none_iff :
    tree.enter? span id = none ↔
      ∀ child ∈ tree.children id, (tree.extent child).containsSpan span = false := by
  unfold enter?
  dsimp only
  rw [Option.or_eq_none_iff, List.head?_filter, List.find?_filter, List.find?_eq_none,
    List.find?_eq_none]
  constructor
  · intro h child hchild
    simpa using h.2 child hchild
  · intro h
    refine ⟨fun child hchild => ?_, fun child hchild => ?_⟩ <;> simp [h child hchild]

/-! ## All steps -/

/-- The search starts at the root, if that contains the span. -/
theorem Reached.root (h : (tree.extent root).containsSpan span = true) :
    tree.Reached span root where
  inside := tree.size_pos
  around := by
    rw [ancestors_of_none tree.parent?_root]
    intro other hother
    rw [List.mem_singleton.1 hother]
    exact h
  entered := by
    rw [ancestors_of_none tree.parent?_root]
    intro child hchild parent hparent
    rw [List.mem_singleton.1 hchild, tree.parent?_root] at hparent
    exact nomatch hparent

/-- A step from a node that the search comes to leads to another such. -/
theorem Reached.enter (reached : tree.Reached span id) (enters : tree.Enters span id child) :
    tree.Reached span child := by
  have hparent := mem_children_iff.1 (mem_children_of_enters enters)
  refine ⟨lt_size_of_parent hparent, ?_, ?_⟩
  · rw [ancestors_of_parent hparent]
    intro other hother
    rcases List.mem_cons.1 hother with rfl | hother
    · exact enters.containsSpan
    · exact reached.around other hother
  -- The last step is the one from the node; all others are the node's own.
  · rw [ancestors_of_parent hparent]
    intro below hbelow parent habove
    rcases List.mem_cons.1 hbelow with rfl | hbelow
    · obtain rfl := Option.some.inj (hparent.symm.trans habove)
      exact enters
    · exact reached.entered below hbelow parent habove

/-- However many steps are made, the search comes to a node in the way that it should. -/
theorem Reached.descend (reached : tree.Reached span id) (steps : Nat) :
    tree.Reached span (tree.descend span steps id) := by
  induction steps generalizing id with
  | zero => exact reached
  | succ steps ih =>
    rw [SyntaxTree.descend]
    cases hchild : tree.enter? span id with
    | none => exact reached
    | some child => exact ih (reached.enter (enter?_eq_some_iff.1 hchild))

/-- Every step leads to a larger name, and there are no more names than steps. -/
theorem enter?_descend (inside : id < tree.size) {steps : Nat} (enough : tree.size ≤ steps + id) :
    tree.enter? span (tree.descend span steps id) = none := by
  -- By induction on the steps, for every node: a node that none of them leaves has no child to
  -- enter.
  induction steps generalizing id with
  | zero => exact absurd inside (Nat.not_lt.2 (Nat.zero_add id ▸ enough))
  | succ steps ih =>
    rw [descend]
    cases hchild : tree.enter? span id with
    | none => exact hchild
    | some child =>
      have hparent := mem_children_iff.1 (mem_children_of_enters (enter?_eq_some_iff.1 hchild))
      -- One step fewer is left, and the name is larger by one at least.
      refine ih (lt_size_of_parent hparent) (Nat.le_trans enough ?_)
      rw [Nat.add_assoc, Nat.add_comm 1]
      exact Nat.add_le_add_left (parent_lt hparent) steps

/-- The last step may be split off instead of the first one. -/
theorem descend_succ (tree : SyntaxTree) (span : Span) (steps : Nat) (id : NodeId) :
    tree.descend span (steps + 1) id =
      (tree.enter? span (tree.descend span steps id)).getD (tree.descend span steps id) := by
  induction steps generalizing id with
  | zero =>
    rw [descend]
    cases hchild : tree.enter? span id with
    | none => simp [descend, hchild]
    | some child => simp [descend, hchild]
  | succ steps ih =>
    rw [descend, descend]
    cases hchild : tree.enter? span id with
    | none => simp [hchild]
    | some child => exact ih child

/-- Once all nodes could have been passed, further steps change nothing. -/
theorem descend_of_le {steps : Nat} (enough : tree.size ≤ steps) :
    tree.descend span steps root = tree.descend span tree.size root := by
  induction enough with
  | refl => rfl
  | @step steps enough ih =>
    -- As many steps as there are nodes end the search.
    have ended : tree.enter? span (tree.descend span steps root) = none :=
      enter?_descend tree.size_pos (Nat.le_add_right_of_le enough)
    rw [descend_succ, ended, ← ih]
    rfl

/-- After as many steps as there are nodes, the search has ended. -/
theorem deepest_descend (h : (tree.extent root).containsSpan span = true) :
    tree.Deepest span (tree.descend span tree.size root) where
  toReached := (Reached.root h).descend tree.size
  ended := fun _ enough => descend_of_le enough
  below := enter?_eq_none_iff.1 (enter?_descend tree.size_pos (Nat.le_add_right _ _))

/-- The search for a span that the root contains answers with the node at which it ends. -/
theorem containing_eq_ok (ordered : span.start ≤ span.stop)
    (inside : (tree.extent root).containsSpan span = true) :
    tree.containing span = .ok (tree.descend span tree.size root) := by
  unfold containing
  rw [if_neg (Nat.not_lt.2 ordered), inside]
  rfl

/-! ## Nodes inside their parents -/

/-- A node lies inside all its ancestors. -/
theorem Nested.ancestor (nested : tree.Nested) {node : NodeId} (h : id ∈ tree.ancestors node) :
    (tree.extent id).contains (tree.extent node) = true := by
  induction node using tree.upward_induction with
  | top node hparent =>
    rw [ancestors_of_none hparent, List.mem_singleton] at h
    rw [h, Extent.contains_iff]
    omega
  | step node parent hparent ih =>
    rw [ancestors_of_parent hparent] at h
    rcases List.mem_cons.1 h with rfl | h
    · rw [Extent.contains_iff]
      omega
    · have outer := Extent.contains_iff.1 (ih h)
      have inner := Extent.contains_iff.1 (nested.parent hparent)
      rw [Extent.contains_iff]
      omega

/-- A span with a byte in it has room in one child only. -/
theorem InOrder.eq_of_contains (inOrder : tree.InOrder) (nonempty : span.start < span.stop)
    {other : NodeId} (hchild : child ∈ tree.children parent) (hother : other ∈ tree.children parent)
    (contains : (tree.extent child).containsSpan span = true)
    (contains' : (tree.extent other).containsSpan span = true) : child = other := by
  -- Of two children the earlier one ends where the other starts, at the latest.
  have apart := List.pairwise_iff_getElem.1 (inOrder.children parent)
  rw [Extent.containsSpan_iff] at contains contains'
  obtain ⟨i, hi, rfl⟩ := List.getElem_of_mem hchild
  obtain ⟨j, hj, rfl⟩ := List.getElem_of_mem hother
  rcases Nat.lt_trichotomy i j with hlt | rfl | hlt
  · have := apart i j hi hj hlt
    omega
  · rfl
  · have := apart j i hj hi hlt
    omega

/-- The nodes that contain a span with a byte in it are those that the search came through. -/
theorem Deepest.contains_iff {node : NodeId} (deepest : tree.Deepest span node)
    (nested : tree.Nested) (inOrder : tree.InOrder) (nonempty : span.start < span.stop)
    (inside : id < tree.size) :
    (tree.extent id).containsSpan span = true ↔ id ∈ tree.ancestors node := by
  refine ⟨fun contains => ?_, deepest.around id⟩
  -- By induction on the way up from the node: its parent contains the span, so it was passed.
  induction id using tree.upward_induction with
  | top id hparent =>
    rw [(parent?_eq_none_iff inside).1 hparent]
    exact root_mem_ancestors deepest.inside
  | step id parent hparent ih =>
    have outer := Extent.contains_iff.1 (nested.parent hparent)
    have inner := Extent.containsSpan_iff.1 contains
    have around : (tree.extent parent).containsSpan span = true := by
      rw [Extent.containsSpan_iff]
      omega
    have hmem := ih (Nat.lt_trans (parent_lt hparent) inside) around
    have hchild := mem_children_iff.2 hparent
    -- The search went on from the parent, and there is room in one child only.
    rcases exists_child_of_mem_ancestors hmem with rfl | ⟨entered, hentered, habove⟩
    · rw [deepest.below id hchild] at contains
      exact nomatch contains
    · rw [inOrder.eq_of_contains nonempty hchild (mem_children_iff.2 habove) contains
        (deepest.around entered hentered)]
      exact hentered

/-- An ancestor has fewer ancestors. -/
theorem length_ancestors_lt {node : NodeId} (h : id ∈ tree.ancestors node) (other : id ≠ node) :
    (tree.ancestors id).length < (tree.ancestors node).length := by
  rcases exists_child_of_mem_ancestors h with same | ⟨child, hchild, hparent⟩
  · exact absurd same other
  · have hle := (ancestors_suffix hchild).length_le
    rw [ancestors_of_parent hparent, List.length_cons] at hle
    exact hle

/-- The search for a span fails exactly if the root does not contain it.  Otherwise it ends, at a node
    that contains the span as all its ancestors do, but none of its children; and on the way every step
    entered the first named child around the span, or the first anonymous one if no named child is.  If
    nodes lie inside their parents and siblings follow one another, then the nodes around a span with a
    byte in it are that node and its ancestors, all of which it lies inside of, and is deeper than. -/
theorem containing_deepest (tree : SyntaxTree) (span : Span) (ordered : span.start ≤ span.stop) :
    (tree.containing span = .error (.notFound span) ↔
      (tree.extent root).containsSpan span = false) ∧
    ((tree.extent root).containsSpan span = true →
      ∃ node, tree.containing span = .ok node ∧ tree.Deepest span node ∧
        (tree.Nested → tree.InOrder → span.start < span.stop →
          ∀ id < tree.size,
            ((tree.extent id).containsSpan span = true ↔ id ∈ tree.ancestors node) ∧
            ((tree.extent id).containsSpan span = true → id ≠ node →
              (tree.extent id).contains (tree.extent node) = true ∧
              (tree.ancestors id).length < (tree.ancestors node).length))) := by
  cases hroot : (tree.extent root).containsSpan span with
  | false =>
    unfold containing
    rw [if_neg (Nat.not_lt.2 ordered), hroot]
    exact ⟨⟨fun _ => rfl, fun _ => rfl⟩, nofun⟩
  | true =>
    rw [containing_eq_ok ordered hroot]
    refine ⟨⟨nofun, nofun⟩, fun _ => ?_⟩
    have deepest := deepest_descend hroot
    refine ⟨_, rfl, deepest, fun nested inOrder nonempty id inside => ?_⟩
    have around := deepest.contains_iff nested inOrder nonempty inside
    refine ⟨around, fun contains other => ?_⟩
    exact ⟨nested.ancestor (around.1 contains), length_ancestors_lt (around.1 contains) other⟩

/-- A tree whose only statement covers all of the text. -/
def lone : SyntaxTree := .ofParse "javascript" 0
  { root := .mk ⟨"program", true, false, false, ⟨0, 4, ⟨0, 0⟩, ⟨0, 4⟩⟩⟩ [
      .mk ⟨"expression_statement", true, false, false, ⟨0, 4, ⟨0, 0⟩, ⟨0, 4⟩⟩⟩ [
        .mk ⟨"call_expression", true, false, false, ⟨0, 3, ⟨0, 0⟩, ⟨0, 3⟩⟩⟩ [
          .mk ⟨"identifier", true, false, false, ⟨0, 1, ⟨0, 0⟩, ⟨0, 1⟩⟩⟩ [],
          .mk ⟨"arguments", true, false, false, ⟨1, 3, ⟨0, 1⟩, ⟨0, 3⟩⟩⟩ [
            .mk ⟨"(", false, false, false, ⟨1, 2, ⟨0, 1⟩, ⟨0, 2⟩⟩⟩ [],
            .mk ⟨")", false, false, false, ⟨2, 3, ⟨0, 2⟩, ⟨0, 3⟩⟩⟩ []]],
        .mk ⟨";", false, false, false, ⟨3, 4, ⟨0, 3⟩, ⟨0, 4⟩⟩⟩ []]]
    expression := "(program (expression_statement (call_expression (identifier) (arguments))))" }

/-- The statement is found, which is as large as the whole tree and deeper. -/
theorem containing_deepest_lone :
    lone.Nested ∧ lone.InOrder ∧ lone.containing ⟨0, 4⟩ = .ok 1 ∧ lone.Deepest ⟨0, 4⟩ 1 ∧
      ∀ id < lone.size, (lone.extent id).containsSpan ⟨0, 4⟩ = true ↔ id ∈ [1, 0] := by
  have nested : lone.Nested := by decide
  have inOrder : lone.InOrder := by decide
  obtain ⟨node, hnode, deepest, around⟩ :=
    (lone.containing_deepest ⟨0, 4⟩ (by decide)).2 (by decide)
  have hfound : lone.containing ⟨0, 4⟩ = .ok 1 := rfl
  obtain rfl : node = 1 := Except.ok.inj (hnode.symm.trans hfound)
  exact ⟨nested, inOrder, hfound, deepest,
    fun id inside => (around nested inOrder (by decide) id inside).1⟩

end SyntaxTree

end LiveTree
