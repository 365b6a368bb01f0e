import LiveTree.Extent

/-!
# Changes and deltas

A `Change` records one replacement in a text: where it started, how many bytes it removed, what it
inserted, and the points of both ends in the text before it.  A `Delta` is what a syntax tree has to
know about the same replacement; its new end point follows from the start point and the inserted
text alone.
-/

namespace LiveTree

/-- One replacement, described in the coordinates of the text before it. -/
structure Change where
  offset : Nat
  length : Nat
  text : Text
  startPoint : Point
  oldEndPoint : Point
  deriving DecidableEq, Repr, Inhabited

namespace Change

/-- The change that replaces a span of the text `before`. -/
def ofSpan (before : Text) (span : Span) (text : Text) : Change where
  offset := span.start
  length := span.stop - span.start
  text := text
  startPoint := before.pointAt span.start
  oldEndPoint := before.pointAt span.stop

/-- The change that replaces `length` bytes at `offset` of the text `before`, which need not lie
    inside the text; `none` when their end is no 64-bit word. -/
def ofOffsets? (before : Text) (offset length : Nat) (text : Text) : Option Change :=
  if offset + length < UInt64.size then
    some { offset, length, text
           startPoint := before.pointAt offset
           oldEndPoint := before.pointAt (offset + length) }
  else none

/-- For a span whose end is a word, both ways to describe its replacement agree. -/
theorem ofOffsets?_span (before : Text) {span : Span} (text : Text)
    (ordered : span.start ≤ span.stop) (fits : span.stop < UInt64.size) :
    ofOffsets? before span.start (span.stop - span.start) text =
      some (ofSpan before span text) := by
  have stop : span.start + (span.stop - span.start) = span.stop := by omega
  simp only [ofOffsets?, ofSpan, stop, fits, if_true]

/-- First byte after the removed ones, before the change. -/
def oldEnd (c : Change) : Nat := c.offset + c.length

/-- First byte after the inserted ones, after the change. -/
def newEnd (c : Change) : Nat := c.offset + c.text.byteLength

/-- Applies the change to a text; `none` when it does not fall on character boundaries. -/
def replay? (c : Change) (text : Text) : Option Text := text.splice? c.offset c.oldEnd c.text

end Change

/-- A replacement as a syntax tree sees it: byte offsets and points of the start, of the old end and
    of the new end. -/
structure Delta where
  start : Nat
  oldEnd : Nat
  newEnd : Nat
  startPoint : Point
  oldEndPoint : Point
  newEndPoint : Point
  deriving DecidableEq, Repr, Inhabited

/-- The delta of a change. -/
def Change.delta (c : Change) : Delta where
  start := c.offset
  oldEnd := c.oldEnd
  newEnd := c.newEnd
  startPoint := c.startPoint
  oldEndPoint := c.oldEndPoint
  newEndPoint := c.startPoint.advance c.text

/-- Whether everything that a delta is made of can be told in 64-bit words. -/
def Change.Fits (c : Change) : Prop :=
  c.oldEnd < UInt64.size ∧ c.newEnd < UInt64.size ∧ (c.startPoint.advance c.text).Fits

/-- Whether a delta fits into words can be tried out. -/
instance (c : Change) : Decidable c.Fits := inferInstanceAs (Decidable (_ ∧ _ ∧ _))

/-- The delta of a change in 64-bit words; `none` where a count leaves them. -/
def Change.delta? (c : Change) : Option Delta := if c.Fits then some c.delta else none

end LiveTree
