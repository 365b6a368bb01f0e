import LiveTree.Query

/-!
# The deepest node around a span

Starting at the root, `SyntaxTree.containing` enters a child for as long as some child contains the
span, ends included.  A named child is preferred to an anonymous one, and the first to later ones.
-/

namespace LiveTree.SyntaxTree

/-- The child to enter on the way to a span: the first named child that contains it, or else the
    first anonymous one. -/
def enter? (tree : SyntaxTree) (span : Span) (id : NodeId) : Option NodeId :=
  let around := (tree.children id).filter fun child => (tree.extent child).containsSpan span
  (around.find? tree.isNamed).or around.head?

/-- Enters children towards a span, at most `steps` times. -/
def descend (tree : SyntaxTree) (span : Span) : Nat → NodeId → NodeId
  | 0, id => id
  | steps + 1, id =>
    match tree.enter? span id with
    | none => id
    | some child => descend tree span steps child

/-- The deepest node that contains a span. -/
def containing (tree : SyntaxTree) (span : Span) : Except QueryError NodeId :=
  if span.stop < span.start then .error (.invalidSpan span)
  else if !(tree.extent root).containsSpan span then .error (.notFound span)
  -- Each step goes one level down, so there are fewer of them than nodes.
  else .ok (tree.descend span tree.size root)

end LiveTree.SyntaxTree
