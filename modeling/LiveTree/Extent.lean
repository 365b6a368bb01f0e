import LiveTree.Point

/-!
# Byte spans and extents

A `Span` is a half-open interval of byte offsets.  An `Extent` is a span together with the points
of its two ends; comparisons between extents look at the bytes only, the points travel along.
-/

namespace LiveTree

/-- The byte offsets from `start` up to, not including, `stop`. -/
structure Span where
  start : Nat
  stop : Nat
  deriving DecidableEq, Repr, Inhabited

namespace Span

/-- Both ends with two dots between. -/
def render (s : Span) : String := s!"{s.start}..{s.stop}"

end Span

/-- A byte span with the points of its ends. -/
structure Extent where
  start : Nat
  stop : Nat
  startPoint : Point
  stopPoint : Point
  deriving DecidableEq, Repr, Inhabited

namespace Extent

/-- The extent of a byte span in a text.  The offsets are kept as given; the points are clamped. -/
def ofSpan (text : Text) (span : Span) : Extent where
  start := span.start
  stop := span.stop
  startPoint := text.pointAt span.start
  stopPoint := text.pointAt span.stop

/-- The empty extent at an offset. -/
def emptyAt (offset : Nat) (point : Point) : Extent := ⟨offset, offset, point, point⟩

/-- The bytes of an extent. -/
def span (e : Extent) : Span := ⟨e.start, e.stop⟩

/-- Number of bytes covered; none when the ends are reversed. -/
def length (e : Extent) : Nat := e.stop - e.start

/-- Whether no byte is covered. -/
def isEmpty (e : Extent) : Bool := e.stop ≤ e.start

/-- Whether the extent covers exactly this span. -/
def spans (e : Extent) (s : Span) : Bool := e.start == s.start && e.stop == s.stop

/-- Whether two extents have the same bytes. -/
def sameSpan (a b : Extent) : Bool := a.spans b.span

/-- Whether a span lies inside, ends included. -/
def containsSpan (e : Extent) (s : Span) : Bool := e.start ≤ s.start && s.stop ≤ e.stop

/-- Whether another extent lies inside, ends included. -/
def contains (a b : Extent) : Bool := a.containsSpan b.span

/-- Whether another extent lies inside and is smaller. -/
def strictlyContains (a b : Extent) : Bool := a.contains b && !a.sameSpan b

/-- Whether an offset lies inside or at either end. -/
def touches (e : Extent) (offset : Nat) : Bool := e.start ≤ offset && offset ≤ e.stop

/-- Whether each extent starts before the other ends. -/
def overlaps (a b : Extent) : Bool := a.start < b.stop && b.start < a.stop

/-- The least extent around both; on equal offsets the first one's point is kept. -/
def union (a b : Extent) : Extent where
  start := if a.start ≤ b.start then a.start else b.start
  startPoint := if a.start ≤ b.start then a.startPoint else b.startPoint
  stop := if b.stop ≤ a.stop then a.stop else b.stop
  stopPoint := if b.stop ≤ a.stop then a.stopPoint else b.stopPoint

/-- Bytes as a half-open interval, then the two points. -/
def render (e : Extent) : String :=
  s!"[{e.start}..{e.stop}) ({e.startPoint.render} - {e.stopPoint.render})"

end Extent

end LiveTree
