import LiveTree.Document
import LiveTree.Tree

/-!
# Structural queries

The errors that the queries on a syntax tree share, and the two directions of sibling movement.  A
query error means that the query does not apply at a position; it says nothing about the tree.
-/

namespace LiveTree

/-- Why a query does not apply. -/
inductive QueryError where
  | notFound (span : Span)
  | ambiguousBoundary (span : Span)
  | overlapping (first second : Span)
  | invalidSpan (span : Span)
  | edit (error : EditError)
  deriving DecidableEq, Repr

/-- The wording of a query error. -/
def QueryError.message : QueryError → String
  | notFound span => s!"no node contains range {span.render}"
  | ambiguousBoundary span => s!"cannot determine sibling boundaries for range {span.render}"
  | overlapping first second => s!"ranges {first.render} and {second.render} overlap"
  | invalidSpan span => s!"range {span.render} is invalid"
  | edit error => error.message

/-- Which way to move among siblings. -/
inductive Direction where
  | previous
  | next
  deriving DecidableEq, Repr

/-- The opposite direction. -/
def Direction.reverse : Direction → Direction
  | previous => next
  | next => previous

end LiveTree
