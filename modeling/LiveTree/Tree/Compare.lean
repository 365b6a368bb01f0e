import LiveTree.Tree

/-!
# Comparing trees

Two trees agree when they have the same shape and every pair of corresponding nodes has the same
bytes and kind.  `SyntaxTree.firstDifference?` walks both in pre-order and reports the first pair
that disagrees, by the path of child positions that leads to it.
-/

namespace LiveTree

/-- How two corresponding nodes disagree. -/
inductive Difference where
  | span (expected actual : Span)
  | kind (expected actual : String)
  | childCount (kind : String) (expected actual : Nat)
  deriving DecidableEq, Repr

/-- The wording of a difference. -/
def Difference.message : Difference → String
  | .span expected actual => s!"span {expected.render} != {actual.render}"
  | .kind expected actual => s!"kind {expected} != {actual}"
  | .childCount name expected actual => s!"{name} has {expected} children != {actual}"

/-- The first disagreement of two trees and the path to it. -/
structure Mismatch where
  path : List Nat
  difference : Difference
  deriving DecidableEq, Repr

/-- The path from the root, then the difference. -/
def Mismatch.message (m : Mismatch) : String :=
  "at root" ++ String.join (m.path.map fun index => s!"/{index}") ++ ": " ++ m.difference.message

/-- The first of span, kind and number of children in which two nodes differ. -/
def ArenaNode.difference? (expected actual : ArenaNode) : Option Difference :=
  if !expected.label.extent.sameSpan actual.label.extent then
    some (.span expected.label.extent.span actual.label.extent.span)
  else if expected.label.kind ≠ actual.label.kind then
    some (.kind expected.label.kind actual.label.kind)
  else if expected.children.size ≠ actual.children.size then
    some (.childCount expected.label.kind expected.children.size actual.children.size)
  else none

namespace SyntaxTree

/-- A pair of corresponding nodes and the path that leads to them, innermost position first. -/
structure Pair where
  expected : NodeId
  actual : NodeId
  path : List Nat

/-- The pairs of corresponding children below a pair. -/
def Pair.below (pair : Pair) (expected actual : List NodeId) : List Pair :=
  (expected.zip actual).mapIdx fun index ids => ⟨ids.1, ids.2, index :: pair.path⟩

/-- The first disagreement among the pairs on a stack and below them, visiting at most `steps`
    pairs. -/
def firstDifferenceFrom (expected actual : SyntaxTree) : Nat → List Pair → Option Mismatch
  | 0, _ => none
  | _ + 1, [] => none
  | steps + 1, pair :: stack =>
    match (expected.node pair.expected).difference? (actual.node pair.actual) with
    | some difference => some ⟨pair.path.reverse, difference⟩
    | none =>
      firstDifferenceFrom expected actual steps
        (pair.below (expected.children pair.expected) (actual.children pair.actual) ++ stack)

/-- The first disagreement of two trees in pre-order; `none` when they agree. -/
def firstDifference? (expected actual : SyntaxTree) : Option Mismatch :=
  -- Every expected node is paired at most once, so its tree's size bounds the walk.
  firstDifferenceFrom expected actual expected.size [⟨root, root, []⟩]

end SyntaxTree

end LiveTree
