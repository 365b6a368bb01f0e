import LiveTree.Text

/-!
# Rows and columns

A `Point` is a zero-based row and a column counted in bytes.  Two notions of row are in use.

* Positions in a document (`Text.pointAt`, `Text.byteAt`) follow the lines of the text, which end
  at any of the line breaks of `Text.breaksLine`, a carriage return and line feed together being one
  break.
* `Point.advance` moves a point over inserted text and counts line feeds only.

Counts have no bound here.  Whoever counts in 64-bit words uses `Point.advance?`, which has no answer
where a count leaves them.
-/

namespace LiveTree

/-- A zero-based row and a column in bytes. -/
structure Point where
  row : Nat
  column : Nat
  deriving DecidableEq, Repr, Inhabited

namespace Point

/-- Row first, then column. -/
def compare (p q : Point) : Ordering :=
  (Ord.compare p.row q.row).then (Ord.compare p.column q.column)

/-- `p` is not after `q`, row first. -/
def Le (p q : Point) : Prop := p.row < q.row ∨ p.row = q.row ∧ p.column ≤ q.column

/-- Which of two points comes first can be tried out. -/
instance (p q : Point) : Decidable (Le p q) := inferInstanceAs (Decidable (_ ∨ _))

/-- Row and column with a colon between. -/
def render (p : Point) : String := s!"{p.row}:{p.column}"

/-- The point reached from `p` by writing `text`: a row down for each line feed; the column restarts
    after the last one. -/
def advance (p : Point) (text : Text) : Point where
  row := p.row + text.count '\n'
  column :=
    if '\n' ∈ text then Text.byteLength (text.reverse.takeWhile (· ≠ '\n'))
    else p.column + text.byteLength

/-- Whether a point can be told in 64-bit words. -/
def Fits (p : Point) : Prop := p.row < UInt64.size ∧ p.column < UInt64.size

/-- Whether a point is one of words can be tried out. -/
instance (p : Point) : Decidable p.Fits := inferInstanceAs (Decidable (_ ∧ _))

/-- `advance` in 64-bit words; `none` where a count leaves them. -/
def advance? (p : Point) (text : Text) : Option Point :=
  if (p.advance text).Fits then some (p.advance text) else none

end Point

namespace Text

/-- Characters that end a line. -/
def breaksLine (c : Char) : Bool :=
  c == '\n' || c == '\r' || c == '\x0b' || c == '\x0c' || c == '\u0085' || c == '\u2028' ||
    c == '\u2029'

/-- `lines` with the characters of the current line so far, last one first. -/
def linesFrom (line : List Char) : Text → List Text
  | [] => [line.reverse]
  | '\r' :: '\n' :: rest => ('\n' :: '\r' :: line).reverse :: linesFrom [] rest
  | c :: rest =>
    if breaksLine c then (c :: line).reverse :: linesFrom [] rest
    else linesFrom (c :: line) rest

/-- The lines of a text, each with the break that ends it; the last one has none and may be empty. -/
def lines (text : Text) : List Text := linesFrom [] text

/-- Finds the line that a byte offset falls on, given the lengths of the lines from row `row` on.
    An offset at or past the end of the last line stays on it. -/
def locate (row : Nat) : List Nat → Nat → Point
  | length :: next :: rest, offset =>
    if length ≤ offset then locate (row + 1) (next :: rest) (offset - length) else ⟨row, offset⟩
  | _, offset => ⟨row, offset⟩

/-- The row and column of a byte offset, clamped to the end of the text. -/
def pointAt (text : Text) (offset : Nat) : Point :=
  locate 0 (text.lines.map byteLength) (min offset text.byteLength)

/-- The byte offset of a point.  A column past the end of its line is clamped to the line with its
    break, and a row past the last line to the end of the text. -/
def byteAt (text : Text) (point : Point) : Nat :=
  match text.lines[point.row]? with
  | none => text.byteLength
  | some line =>
    byteLength (text.lines.take point.row).flatten + min point.column (byteLength line)

end Text

end LiveTree
