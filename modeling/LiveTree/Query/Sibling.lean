import LiveTree.Query.Bracket

/-!
# Moving among siblings

Stepping to the neighbouring named sibling, growing a selection by one list element, and exchanging
two pieces of a document.
-/

namespace LiveTree

namespace SyntaxTree

/-- The named sibling next to a node; the node itself at the end of the row. -/
def sibling (tree : SyntaxTree) (id : NodeId) (direction : Direction) : NodeId :=
  let found := match direction with
    | .previous => tree.previousNamed? id
    | .next => tree.nextNamed? id
  found.getD id

/-- The list elements around a span and one more element in a direction. -/
def extend (tree : SyntaxTree) (span : Span) (direction : Direction) (isList : String → Bool) :
    Except QueryError Extent := do
  let bracket ← tree.bracket span isList
  let current := (tree.extent bracket.first).union (tree.extent bracket.last)
  let edge := match direction with
    | .previous => bracket.first
    | .next => bracket.last
  return current.union (tree.extent (tree.sibling edge direction))

end SyntaxTree

/-- What an exchange did: the changes in order, and where the two pieces are now. -/
structure Swap where
  changes : List Change
  left : Span
  right : Span
  deriving DecidableEq, Repr

namespace Document

/-- The byte interval of a document, as a query. -/
def sliceForQuery (doc : Document) (span : Span) : Except QueryError Text :=
  (doc.slice span).mapError .edit

/-- Exchanges the texts of two spans.  The later span is replaced first, so that the earlier one
    keeps its offsets. -/
def swap (doc : Document) (a b : Span) : Except QueryError (Document × Swap) := do
  if a.stop < a.start then throw (.invalidSpan a)
  if b.stop < b.start then throw (.invalidSpan b)
  let left := if a.start ≤ b.start then a else b
  let right := if a.start ≤ b.start then b else a
  if right.start < left.stop then throw (.overlapping left right)
  -- Both texts are read before anything is replaced.
  let leftText ← doc.sliceForQuery left
  let rightText ← doc.sliceForQuery right
  let (swapped, changes) ← (doc.applyEdits [⟨right, leftText⟩, ⟨left, rightText⟩]).mapError .edit
  let newStart := right.start + rightText.byteLength - leftText.byteLength
  return (swapped, ⟨changes, ⟨left.start, left.start + rightText.byteLength⟩,
    ⟨newStart, newStart + leftText.byteLength⟩⟩)

end Document

end LiveTree
