import LiveTree.Proofs.Bracketing
import LiveTree.Proofs.Siblings

/-!
# A selection grows by one list element

A selection is first widened to the list elements at its two ends, and then joined with the next element
on one side.  If the elements of a list are in order, a union of some of them reaches from the start of
the first one to the stop of the last one.  Every union takes its ends, offsets and points together, from
the extents that it joins, so the ends of all these selections are ends of nodes.

## Key results

- `Extent.union_eq_left`: nothing changes when an extent that is already covered is joined
- `SyntaxTree.OnNodes.union`, `SyntaxTree.OnNodes.points`: the ends of a union are ends of nodes
- `SyntaxTree.sibling_at`: one step leads to the neighbouring position in the list of elements
- `SyntaxTree.span_extended`: what is covered when one more element is joined
- `SyntaxTree.extend_adds_one`: what a selection becomes
-/

namespace LiveTree

/-! ## Unions -/

namespace Extent

/-- A union starts where the first of the two starts. -/
theorem start_union (a b : Extent) : (a.union b).start = min a.start b.start := by
  show (if a.start ≤ b.start then a.start else b.start) = _
  split <;> omega

/-- A union stops where the last of the two stops. -/
theorem stop_union (a b : Extent) : (a.union b).stop = max a.stop b.stop := by
  show (if b.stop ≤ a.stop then a.stop else b.stop) = _
  split <;> omega

/-- Nothing changes when an extent that is already covered is joined. -/
theorem union_eq_left {a b : Extent} (h : a.contains b = true) : a.union b = a := by
  obtain ⟨hstart, hstop⟩ := contains_iff.1 h
  unfold union
  simp only [if_pos hstart, if_pos hstop]

/-- A union contains both. -/
theorem contains_union (a b : Extent) :
    (a.union b).contains a = true ∧ (a.union b).contains b = true := by
  rw [contains_iff, contains_iff, start_union, stop_union]
  omega

end Extent

/-- The element beyond which a selection grows in a direction. -/
def Bracket.edge (bracket : Bracket) : Direction → NodeId
  | .previous => bracket.first
  | .next => bracket.last

namespace SyntaxTree

/-- The extent of the elements at the two ends of a bracket and of what lies between them. -/
def snapped (tree : SyntaxTree) (bracket : Bracket) : Extent :=
  (tree.extent bracket.first).union (tree.extent bracket.last)

/-- The extent of the elements of a bracket and of the one beyond them in a direction. -/
def joined (tree : SyntaxTree) (bracket : Bracket) (direction : Direction) : Extent :=
  (tree.snapped bracket).union (tree.extent (tree.sibling (bracket.edge direction) direction))

/-- Where a run from position `i` to position `j` in a list of `count` elements reaches after one more
    element in a direction, if there is one. -/
def widen (count i j : Nat) : Direction → Nat × Nat
  | .previous => (i - 1, j)
  | .next => (i, min (j + 1) (count - 1))

/-- Of two children of a node the earlier one neither starts nor stops after the later one.  That is so if
    they do not overlap, see `InOrder.ascending`. -/
def Ascending (tree : SyntaxTree) : Prop :=
  ∀ id < tree.size, (tree.children id).Pairwise fun first second =>
    (tree.extent first).start ≤ (tree.extent second).start ∧
    (tree.extent first).stop ≤ (tree.extent second).stop

/-- Nodes that start at the same byte start at the same point, and those that stop at the same byte stop
    at the same point. -/
def PointsAgree (tree : SyntaxTree) : Prop :=
  ∀ first < tree.size, ∀ second < tree.size,
    ((tree.extent first).start = (tree.extent second).start →
      (tree.extent first).startPoint = (tree.extent second).startPoint) ∧
    ((tree.extent first).stop = (tree.extent second).stop →
      (tree.extent first).stopPoint = (tree.extent second).stopPoint)

/-- An extent starts where a node starts, and stops where a node stops; the points are those of the
    nodes. -/
structure OnNodes (tree : SyntaxTree) (extent : Extent) : Prop where
  start : ∃ id < tree.size, extent.start = (tree.extent id).start ∧
    extent.startPoint = (tree.extent id).startPoint
  stop : ∃ id < tree.size, extent.stop = (tree.extent id).stop ∧
    extent.stopPoint = (tree.extent id).stopPoint

/-- Whether offsets determine points can be tried out. -/
instance (tree : SyntaxTree) : Decidable tree.PointsAgree :=
  inferInstanceAs (Decidable (∀ first < tree.size, ∀ second < tree.size,
    ((tree.extent first).start = (tree.extent second).start →
      (tree.extent first).startPoint = (tree.extent second).startPoint) ∧
    ((tree.extent first).stop = (tree.extent second).stop →
      (tree.extent first).stopPoint = (tree.extent second).stopPoint)))

variable {tree : SyntaxTree} {list first last : NodeId} {i j : Nat}

/-! ## Ends of nodes -/

/-- The extent of a node has the ends of that node. -/
theorem onNodes_extent {id : NodeId} (inside : id < tree.size) : tree.OnNodes (tree.extent id) :=
  ⟨⟨id, inside, rfl, rfl⟩, id, inside, rfl, rfl⟩

/-- A union has an end of one extent or of the other. -/
theorem OnNodes.union {a b : Extent} (ha : tree.OnNodes a) (hb : tree.OnNodes b) :
    tree.OnNodes (a.union b) := by
  unfold Extent.union
  constructor
  · by_cases h : a.start ≤ b.start
    · simpa only [if_pos h] using ha.start
    · simpa only [if_neg h] using hb.start
  · by_cases h : b.stop ≤ a.stop
    · simpa only [if_pos h] using ha.stop
    · simpa only [if_neg h] using hb.stop

/-- Where offsets determine points, an extent between ends of nodes has the points of these nodes. -/
theorem OnNodes.points {extent : Extent} (onNodes : tree.OnNodes extent) (agree : tree.PointsAgree)
    (hfirst : first < tree.size) (hlast : last < tree.size)
    (h : extent.span = ⟨(tree.extent first).start, (tree.extent last).stop⟩) :
    extent.startPoint = (tree.extent first).startPoint ∧
      extent.stopPoint = (tree.extent last).stopPoint := by
  -- The nodes that the ends belong to start and stop at the bytes of the nodes that are meant.
  obtain ⟨hstart, hstop⟩ := Span.mk.inj h
  obtain ⟨low, hlow, hlowStart, hlowPoint⟩ := onNodes.start
  obtain ⟨high, hhigh, hhighStop, hhighPoint⟩ := onNodes.stop
  rw [hlowPoint, hhighPoint]
  exact ⟨(agree low hlow first hfirst).1 (hlowStart.symm.trans hstart),
    (agree high hhigh last hlast).2 (hhighStop.symm.trans hstop)⟩

/-! ## Elements in order -/

/-- Siblings that follow one another are ascending if none of them stops before it starts. -/
theorem InOrder.ascending (inOrder : tree.InOrder)
    (forward : ∀ id < tree.size, (tree.extent id).start ≤ (tree.extent id).stop) :
    tree.Ascending := by
  intro id inside
  refine (inOrder id inside).imp_of_mem fun {first second} hfirst hsecond apart => ?_
  have := forward first (lt_size_of_parent (mem_children_iff.1 hfirst))
  have := forward second (lt_size_of_parent (mem_children_iff.1 hsecond))
  omega

/-- An element of a list is one of the tree's nodes. -/
theorem lt_size_of_element (h : (tree.namedChildren list)[i]? = some first) : first < tree.size :=
  lt_size_of_parent (mem_children_iff.1 (List.mem_filter.1 (List.mem_of_getElem? h)).1)

/-- Of two elements of a list the later one neither starts nor stops earlier. -/
theorem Ascending.elements (ascending : tree.Ascending) (hle : i ≤ j)
    (hfirst : (tree.namedChildren list)[i]? = some first)
    (hlast : (tree.namedChildren list)[j]? = some last) :
    (tree.extent first).start ≤ (tree.extent last).start ∧
      (tree.extent first).stop ≤ (tree.extent last).stop := by
  obtain ⟨hi, rfl⟩ := List.getElem?_eq_some_iff.1 hfirst
  obtain ⟨hj, rfl⟩ := List.getElem?_eq_some_iff.1 hlast
  rcases Nat.eq_or_lt_of_le hle with rfl | hlt
  · omega
  -- The list has a child, so it is one of the tree's nodes.
  · have inside : list < tree.size := by
      have hmem := (List.mem_filter.1 (List.getElem_mem hi)).1
      have hparent := mem_children_iff.1 hmem
      exact Nat.lt_trans (parent_lt hparent) (lt_size_of_parent hparent)
    exact List.pairwise_iff_getElem.1 ((ascending list inside).filter tree.isNamed) i j hi hj hlt

/-- An element lies inside its list. -/
theorem Nested.element (nested : tree.Nested) (h : (tree.namedChildren list)[i]? = some first) :
    (tree.extent list).contains (tree.extent first) = true :=
  nested.parent (mem_children_iff.1 (List.mem_filter.1 (List.mem_of_getElem? h)).1)

/-- From the element at a position a step leads to the position beside it, or stays where it is at an end
    of the list. -/
theorem sibling_at (h : (tree.namedChildren list)[i]? = some first) :
    (tree.namedChildren list)[i - 1]? = some (tree.sibling first .previous) ∧
      (tree.namedChildren list)[min (i + 1) ((tree.namedChildren list).length - 1)]? =
        some (tree.sibling first .next) := by
  obtain ⟨hlt, -⟩ := List.getElem?_eq_some_iff.1 h
  constructor
  -- The first element has none before it, and any other follows the one before it.
  · cases i with
    | zero =>
      rw [sibling_of_head? (List.head?_eq_getElem?.trans h)]
      exact h
    | succ i =>
      have hbefore := List.getElem?_eq_getElem (Nat.lt_of_succ_lt hlt)
      rw [Nat.add_sub_cancel, (sibling_of_succ hbefore h).2]
      exact hbefore
  · by_cases hlast : i + 1 < (tree.namedChildren list).length
    · have hafter := List.getElem?_eq_getElem hlast
      rw [Nat.min_eq_left (Nat.le_sub_one_of_lt hlast), (sibling_of_succ h hafter).1]
      exact hafter
    -- The element is the last one, and the step stays at it.
    · have hend : i = (tree.namedChildren list).length - 1 := by omega
      have hgetLast : (tree.namedChildren list).getLast? = some first := by
        rw [List.getLast?_eq_getElem?, ← hend]
        exact h
      rw [sibling_of_getLast? hgetLast, Nat.min_eq_right (by omega), ← hend]
      exact h

/-! ## One more element -/

/-- A selection that has grown by one element in a direction.  The elements at positions `i` and `j`
    bracket the span, and `low` and `high` are the elements at the two ends of the selection. -/
structure Extended (tree : SyntaxTree) (span : Span) (direction : Direction) (bracket : Bracket)
    (i j : Nat) (low high : NodeId) (result : Extent) : Prop where
  /-- The run is not reversed. -/
  ordered : i ≤ j
  firstAt : (tree.namedChildren bracket.list)[i]? = some bracket.first
  lastAt : (tree.namedChildren bracket.list)[j]? = some bracket.last
  /-- Both ends of the selection are elements, one of them beyond the run if there is one. -/
  lowAt : (tree.namedChildren bracket.list)[
    (widen (tree.namedChildren bracket.list).length i j direction).1]? = some low
  highAt : (tree.namedChildren bracket.list)[
    (widen (tree.namedChildren bracket.list).length i j direction).2]? = some high
  /-- The selection reaches from the one end to the other. -/
  ends : result.span = ⟨(tree.extent low).start, (tree.extent high).stop⟩
  snapped : (tree.snapped bracket).span =
    ⟨(tree.extent bracket.first).start, (tree.extent bracket.last).stop⟩
  /-- The span, what it was snapped to and the list lie one inside the other. -/
  aroundSpan : result.containsSpan span = true
  aroundSnapped : result.contains (tree.snapped bracket) = true
  insideList : (tree.extent bracket.list).contains result = true
  /-- Where there is no further element, nothing is added. -/
  stays : widen (tree.namedChildren bracket.list).length i j direction = (i, j) →
    result = tree.snapped bracket
  /-- If offsets determine points, the selection has those of its ends. -/
  points : tree.PointsAgree → result.startPoint = (tree.extent low).startPoint ∧
    result.stopPoint = (tree.extent high).stopPoint

/-- Where a bracket is found, the selection grows by one element. -/
theorem extend_eq_ok {span : Span} {isList : String → Bool} {bracket : Bracket}
    (found : tree.bracket span isList = .ok bracket) (direction : Direction) :
    tree.extend span direction isList = .ok (tree.joined bracket direction) := by
  unfold extend
  rw [found]
  cases direction <;> rfl

/-- The selection joins extents of elements, so its ends are ends of nodes. -/
theorem onNodes_joined {bracket : Bracket}
    (hfirst : (tree.namedChildren bracket.list)[i]? = some bracket.first)
    (hlast : (tree.namedChildren bracket.list)[j]? = some bracket.last) (direction : Direction) :
    tree.OnNodes (tree.joined bracket direction) := by
  have ends := (onNodes_extent (lt_size_of_element hfirst)).union
    (onNodes_extent (lt_size_of_element hlast))
  cases direction with
  | previous => exact ends.union (onNodes_extent (lt_size_of_element (sibling_at hfirst).1))
  | next => exact ends.union (onNodes_extent (lt_size_of_element (sibling_at hlast).2))

/-- Of the elements of a run the first one starts it and the last one stops it. -/
theorem span_snapped (ascending : tree.Ascending) {bracket : Bracket} (hle : i ≤ j)
    (hfirst : (tree.namedChildren bracket.list)[i]? = some bracket.first)
    (hlast : (tree.namedChildren bracket.list)[j]? = some bracket.last) :
    (tree.snapped bracket).start = (tree.extent bracket.first).start ∧
      (tree.snapped bracket).stop = (tree.extent bracket.last).stop := by
  obtain ⟨hstart, hstop⟩ := ascending.elements hle hfirst hlast
  unfold snapped
  rw [Extent.start_union, Extent.stop_union]
  exact ⟨Nat.min_eq_left hstart, Nat.max_eq_right hstop⟩

/-- What a selection becomes when the element before it is joined, or the one after it. -/
theorem span_extended (ascending : tree.Ascending) {bracket : Bracket} (hle : i ≤ j)
    (hfirst : (tree.namedChildren bracket.list)[i]? = some bracket.first)
    (hlast : (tree.namedChildren bracket.list)[j]? = some bracket.last) (direction : Direction) :
    ∃ low high,
      (tree.namedChildren bracket.list)[
        (widen (tree.namedChildren bracket.list).length i j direction).1]? = some low ∧
      (tree.namedChildren bracket.list)[
        (widen (tree.namedChildren bracket.list).length i j direction).2]? = some high ∧
      (tree.joined bracket direction).span = ⟨(tree.extent low).start, (tree.extent high).stop⟩ ∧
      (tree.joined bracket direction).contains (tree.snapped bracket) = true ∧
      (widen (tree.namedChildren bracket.list).length i j direction = (i, j) →
        tree.joined bracket direction = tree.snapped bracket) := by
  obtain ⟨hstart, hstop⟩ := span_snapped ascending hle hfirst hlast
  obtain ⟨hcontains, -⟩ := (tree.snapped bracket).contains_union
    (tree.extent (tree.sibling (bracket.edge direction) direction))
  obtain ⟨hcontainsFirst, hcontainsLast⟩ := (tree.extent bracket.first).contains_union
    (tree.extent bracket.last)
  obtain ⟨hj, -⟩ := List.getElem?_eq_some_iff.1 hlast
  -- The element before the first one moves the start, the one after the last one the stop.
  cases direction with
  | previous =>
    have hlow := (sibling_at hfirst).1
    obtain ⟨hlowStart, hlowStop⟩ := ascending.elements (Nat.sub_le i 1) hlow hfirst
    obtain ⟨-, hfirstStop⟩ := ascending.elements hle hfirst hlast
    refine ⟨_, _, hlow, hlast, ?_, hcontains, fun hsame => Extent.union_eq_left ?_⟩
    · unfold Extent.span joined Bracket.edge
      rw [Extent.start_union, Extent.stop_union, hstart, hstop, Nat.min_eq_right hlowStart,
        Nat.max_eq_left (Nat.le_trans hlowStop hfirstStop)]
    · -- Without a further element the first one is joined again.
      have hself : i - 1 = i := (Prod.mk.inj hsame).1
      rw [hself, hfirst] at hlow
      rw [Bracket.edge, ← Option.some.inj hlow]
      exact hcontainsFirst
  | next =>
    have hhigh := (sibling_at hlast).2
    obtain ⟨hhighStart, hhighStop⟩ := ascending.elements (by omega) hlast hhigh
    obtain ⟨hlastStart, -⟩ := ascending.elements hle hfirst hlast
    refine ⟨_, _, hfirst, hhigh, ?_, hcontains, fun hsame => Extent.union_eq_left ?_⟩
    · unfold Extent.span joined Bracket.edge
      rw [Extent.start_union, Extent.stop_union, hstart, hstop,
        Nat.min_eq_left (Nat.le_trans hlastStart hhighStart), Nat.max_eq_right hhighStop]
    -- Without a further element the last one is joined again.
    · have hself : min (j + 1) ((tree.namedChildren bracket.list).length - 1) = j :=
        (Prod.mk.inj hsame).2
      rw [hself, hlast] at hhigh
      rw [Bracket.edge, ← Option.some.inj hhigh]
      exact hcontainsLast

/-- In a tree whose nodes lie inside their parents and have their children in ascending order, a span that
    is bracketed by the elements at positions `i` and `j` of a list grows into the extent from the element
    before the first one to the last one, or from the first one to the element after the last one.  It
    contains the span and both elements, and lies inside the list; at an end of the list it is the extent of
    the two elements.  If offsets determine points, its points are those of the elements at its ends. -/
theorem extend_adds_one (tree : SyntaxTree) (nested : tree.Nested) (ascending : tree.Ascending)
    (span : Span) (direction : Direction) (isList : String → Bool) (bracket : Bracket)
    (found : tree.bracket span isList = .ok bracket) :
    ∃ result, tree.extend span direction isList = .ok result ∧
      ∃ i j low high, tree.Extended span direction bracket i j low high result := by
  -- The bracket comes from a scan, which says at what positions its elements are.
  obtain ⟨-, hscan⟩ := bracket_eq_ok_iff.1 found
  obtain ⟨i, j, hfirst, hlast, tightest⟩ := scanElements_eq_some hscan
  obtain ⟨hstart, hstop⟩ := span_snapped ascending tightest.ordered hfirst hlast
  obtain ⟨low, high, hlow, hhigh, hspan, hcontains, hstays⟩ :=
    span_extended ascending tightest.ordered hfirst hlast direction
  refine ⟨_, extend_eq_ok found direction, i, j, low, high, ?_⟩
  have hsnapped : (tree.snapped bracket).span =
      ⟨(tree.extent bracket.first).start, (tree.extent bracket.last).stop⟩ := by
    unfold Extent.span
    rw [hstart, hstop]
  refine ⟨tightest.ordered, hfirst, hlast, hlow, hhigh, hspan, hsnapped, ?_, hcontains, ?_, hstays,
    fun agree => ?_⟩
  -- The first element touches the start of the span, and the last one its stop.
  · have := Extent.contains_iff.1 hcontains
    have := tightest.start.touches hfirst
    have := tightest.stop.touches hlast
    rw [Extent.containsSpan_iff]
    omega
  -- Both ends of the selection are elements, and those lie inside the list.
  · have := Extent.contains_iff.1 (nested.element hlow)
    have := Extent.contains_iff.1 (nested.element hhigh)
    obtain ⟨hresultStart, hresultStop⟩ := Span.mk.inj hspan
    rw [Extent.contains_iff]
    omega
  · exact (onNodes_joined hfirst hlast direction).points agree (lt_size_of_element hlow)
      (lt_size_of_element hhigh) hspan

/-- The second number of three grows over the comma to the third. -/
theorem extend_adds_one_array :
    array.Nested ∧ array.Ascending ∧ array.PointsAgree ∧
      array.bracket ⟨3, 4⟩ (· == "array") = .ok ⟨0, 4, 4⟩ ∧
      array.extend ⟨3, 4⟩ .next (· == "array") = .ok ⟨3, 6, ⟨0, 3⟩, ⟨0, 6⟩⟩ ∧
      ∃ i j low high, array.Extended ⟨3, 4⟩ .next ⟨0, 4, 4⟩ i j low high ⟨3, 6, ⟨0, 3⟩, ⟨0, 6⟩⟩ := by
  have nested : array.Nested := by decide
  have inOrder : array.InOrder := by decide
  have ascending := inOrder.ascending (by decide)
  have hbracket : array.bracket ⟨3, 4⟩ (· == "array") = .ok ⟨0, 4, 4⟩ := rfl
  have hextend : array.extend ⟨3, 4⟩ .next (· == "array") = .ok ⟨3, 6, ⟨0, 3⟩, ⟨0, 6⟩⟩ := rfl
  obtain ⟨result, hresult, extended⟩ :=
    array.extend_adds_one nested ascending ⟨3, 4⟩ .next (· == "array") _ hbracket
  obtain rfl := Except.ok.inj (hextend.symm.trans hresult)
  exact ⟨nested, ascending, by decide, hbracket, hextend, extended⟩

end SyntaxTree

end LiveTree
