import LiveTree.Query.Containing

/-!
# The list elements around a span

A span inside a list is bracketed by the named elements that touch its two ends.  Which kinds of node
are lists is a parameter.
-/

namespace LiveTree

/-- A list node and the first and last of its elements that a span reaches. -/
structure Bracket where
  list : NodeId
  first : NodeId
  last : NodeId
  deriving DecidableEq, Repr

namespace SyntaxTree

/-- Scans the elements of a list in order.  The first end is the last element up to there that
    touches `start`; the scan ends with the first element that touches `stop`. -/
def scanElements (tree : SyntaxTree) (span : Span) (first : Option NodeId) :
    List NodeId → Option (NodeId × NodeId)
  | [] => none
  | child :: rest =>
    -- A later element that touches the start replaces an earlier one.
    let first := if (tree.extent child).touches span.start then some child else first
    if (tree.extent child).touches span.stop then first.map fun first => (first, child)
    else scanElements tree span first rest

/-- The node from which the list around a span is sought: the deepest node around the span, or its
    parent when that node is exactly the span. -/
def bracketBase (tree : SyntaxTree) (span : Span) : Except QueryError NodeId := do
  let node ← tree.containing span
  if (tree.extent node).spans span then
    match tree.parent? node with
    | some parent => return parent
    | none => throw (.ambiguousBoundary span)
  else return node

/-- The nearest list around a span and its elements at the two ends of the span. -/
def bracket (tree : SyntaxTree) (span : Span) (isList : String → Bool) :
    Except QueryError Bracket := do
  let base ← tree.bracketBase span
  match (tree.ancestors base).find? fun id => isList (tree.kind id) with
  | none => throw (.ambiguousBoundary span)
  | some list =>
    match tree.scanElements span none (tree.namedChildren list) with
    | none => throw (.ambiguousBoundary span)
    | some (first, last) => return ⟨list, first, last⟩

end SyntaxTree

end LiveTree
