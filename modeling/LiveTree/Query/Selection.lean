import LiveTree.Query.Containing

/-!
# Growing selections

From a position outwards, each selection strictly contains the one before it: first the empty one,
then node by node up to the root, with the inside of a node (as a trimmer gives it) before the node
where that makes a step of its own.  `Text.trimBrackets?` is the usual trimmer: it drops blanks and
one pair of brackets or quotes.  It fails on spans that are not in the text; whatever asks it to trim
such a span comes to no good end.
-/

namespace LiveTree

namespace SyntaxTree

/-- Adds an extent at the large end of a selection list (kept largest first) if it strictly contains
    what is there. -/
def growBy (selections : List Extent) (extent : Extent) : List Extent :=
  match selections with
  | [] => [extent]
  | last :: _ => if extent.strictlyContains last then extent :: selections else selections

/-- Grows a selection list over one node: by its trimmed inside, if that is really inside, and then
    by the node. -/
def growOver (trim : Extent → Extent) (selections : List Extent) (extent : Extent) : List Extent :=
  let inner := trim extent
  growBy (if extent.strictlyContains inner then growBy selections inner else selections) extent

/-- The selections around a position, innermost first. -/
def selections (tree : SyntaxTree) (text : Text) (position : Nat) (trim : Extent → Extent) :
    Except QueryError (List Extent) := do
  let start ← tree.containing ⟨position, position⟩
  let grown := (tree.ancestors start).foldl
    (fun selections id => growOver trim selections (tree.extent id))
    [.emptyAt position (text.pointAt position)]
  return grown.reverse

/-- The selections around a position by a trimmer that cannot trim everything; `none` if it fails on a
    node around the position. -/
def selections? (tree : SyntaxTree) (text : Text) (position : Nat) (trim : Extent → Option Extent) :
    Option (Except QueryError (List Extent)) :=
  match tree.containing ⟨position, position⟩ with
  | .error error => some (.error error)
  | .ok start =>
    if (tree.ancestors start).all fun id => (trim (tree.extent id)).isSome then
      some (tree.selections text position fun extent => (trim extent).getD extent)
    else none

/-- A selection with the ones around it. -/
inductive Chain where
  | outermost (extent : Extent)
  | inside (extent : Extent) (around : Chain)
  deriving DecidableEq, Repr

/-- The chain of selections listed innermost first; `none` for an empty list. -/
def Chain.ofList? : List Extent → Option Chain
  | [] => none
  | extent :: rest =>
    match ofList? rest with
    | none => some (.outermost extent)
    | some around => some (.inside extent around)

/-- The selections of a chain, innermost first. -/
def Chain.toList : Chain → List Extent
  | outermost extent => [extent]
  | inside extent around => extent :: around.toList

/-- The selection chains around several positions; the first position that fails decides. -/
def selectionChains (tree : SyntaxTree) (text : Text) (trim : Extent → Extent) :
    List Nat → Except QueryError (List Chain)
  | [] => .ok []
  | position :: rest => do
    let ranges ← tree.selections text position trim
    match Chain.ofList? ranges with
    | none => throw (.notFound ⟨position, position⟩)
    | some chain =>
      let chains ← selectionChains tree text trim rest
      return chain :: chains

end SyntaxTree

namespace Text

/-- Blank bytes: space, tab, line feed, form feed and carriage return. -/
def isBlankByte (b : UInt8) : Bool := b == 32 || b == 9 || b == 10 || b == 12 || b == 13

/-- Pairs of brackets and quotes: round, square and curly brackets, double, single and back
    quotes. -/
def isPair (opening closing : UInt8) : Bool :=
  [(40, 41), (91, 93), (123, 125), (34, 34), (39, 39), (96, 96)].contains (opening, closing)

/-- Moves a start over the blanks among the next `count` bytes; `none` past the end. -/
def skipBlank? (bytes : Array UInt8) : Nat → Nat → Option Nat
  | 0, start => some start
  | count + 1, start =>
    match bytes[start]? with
    | none => none
    | some b => if isBlankByte b then skipBlank? bytes count (start + 1) else some start

/-- Moves the end of the `count` bytes after `start` back over blanks; `none` past the end. -/
def dropBlank? (bytes : Array UInt8) (start : Nat) : Nat → Option Nat
  | 0 => some start
  | count + 1 =>
    match bytes[start + count]? with
    | none => none
    | some b => if isBlankByte b then dropBlank? bytes start count else some (start + count + 1)

/-- A span without the blanks at its ends; `none` when that takes a byte past the end. -/
def trimBlank? (bytes : Array UInt8) (span : Span) : Option Span := do
  let start ← skipBlank? bytes (span.stop - span.start) span.start
  let stop ← dropBlank? bytes start (span.stop - start)
  return ⟨start, stop⟩

/-- A span without blanks at its ends and, if a pair of brackets or quotes is left at its ends,
    without those and the blanks inside them.  `none` for a span that ends before it starts, and when
    trimming takes a byte past the end. -/
def trimBrackets? (bytes : Array UInt8) (span : Span) : Option Span := do
  if span.stop < span.start then none
  let outer ← trimBlank? bytes span
  if outer.stop < outer.start + 2 then return outer
  let opening ← bytes[outer.start]?
  let closing ← bytes[outer.stop - 1]?
  if isPair opening closing then trimBlank? bytes ⟨outer.start + 1, outer.stop - 1⟩
  else return outer

/-- `trimBrackets?` on the extents of a text. -/
def bracketTrimmer? (text : Text) : Extent → Option Extent :=
  let bytes := text.bytes
  fun extent => (trimBrackets? bytes extent.span).map (.ofSpan text)

/-- The trimmer for extents that can be trimmed, such as those of the nodes of a text's own tree. -/
def bracketTrimmer (text : Text) : Extent → Extent :=
  let trim := text.bracketTrimmer?
  fun extent => (trim extent).getD extent

end Text

end LiveTree
