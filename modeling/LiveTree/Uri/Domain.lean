import LiveTree.Text.Composed
import LiveTree.Text.Direction
import LiveTree.Text.Joining
import LiveTree.Uri.Escape
import LiveTree.Uri.NameChar
import LiveTree.Uri.Punycode

/-!
# Domain names

The name of a host is a list of labels with dots between.  It can be spelled in many ways:
`Domain.labels?` brings it to one form in ASCII, in which labels with other letters are written after
the mark `xn--`, and refuses names whose labels could not be told apart or be read in two directions.
-/

namespace LiveTree.Uri.Domain

/-- Characters that no name of a host holds. -/
def isForbidden (c : Char) : Bool := c ≤ ' ' || c == '\x7f' || "#%/:<>?@[\\]^|".toList.contains c

/-- A name in the usual spelling: each character counts as what it is a form of, and all are
    composed. -/
def spelled? (text : Text) : Option Text := do
  return Text.composed (← text.mapM nameForm?).flatten

/-! ## Labels -/

/-- The mark in front of a label whose letters are written in ASCII. -/
def mark : Text := "xn--".toList

/-- The longest label that is written in ASCII, and the longest that is read from it. -/
def maxLength : Nat := 1000

/-- A label in its own letters.  Where it is given in ASCII, its letters have to be in the usual
    spelling, and at least one of them outside of ASCII. -/
def letters? (label : Text) : Option Text :=
  if mark.isPrefixOf label then do
    let text := label.drop mark.length
    if text.isEmpty || text.getLast? == some '-' || 2 * maxLength < text.length then none
    let letters ← Punycode.decode? text
    if spelled? letters == some letters then some letters else none
  else some label

/-- Whether every character is in ASCII. -/
def isAscii (label : Text) : Bool := label.all (·.toNat < 128)

/-- A label in ASCII. -/
def ascii (label : Text) : Text := if isAscii label then label else mark ++ Punycode.encode label

/-! ## Joiners -/

/-- Whether the characters on one side of a place join it: the first that is not transparent does. -/
def joinsAt (joins : Char → Bool) (side : Text) : Bool :=
  (side.dropWhile Text.isTransparent).head?.any joins

/-- Whether a character may stand in its place: a joiner has to follow a virama, and one that keeps
    letters apart may also stand between letters that would join.  What is before is told last
    character first. -/
def fits (before : Text) (c : Char) (after : Text) : Bool :=
  if c == '\u200c' || c == '\u200d' then
    before.head?.any Text.isVirama ||
      c == '\u200c' && joinsAt Text.joinsNext before && joinsAt Text.joinsPrevious after
  else true

/-- Whether all joiners may stand where they do; `before` is what was passed, last character first. -/
def joinersFit (before : Text) : Text → Bool
  | [] => true
  | c :: after => fits before c after && joinersFit (c :: before) after

/-- Whether a label can be told from others: it starts with no mark, and its joiners can be seen. -/
def isClear (letters : Text) : Bool :=
  !letters.head?.any Text.isMark && joinersFit [] letters &&
    (isAscii letters || letters.length ≤ maxLength)

/-! ## Directions -/

/-- Whether a direction leads from right to left. -/
def isLeftward (direction : Text.Direction) : Bool :=
  direction matches .right | .arabicLetter | .arabicNumber

/-- Whether a direction goes with either. -/
def isNeutral (direction : Text.Direction) : Bool :=
  direction matches .number | .sign | .separator | .terminator | .neutral | .boundary | .mark

/-- Whether the characters of a label are read in one direction: all are of it or go with it, it starts
    with a letter, it ends with a letter or a number, and it has numbers of one kind only. -/
def isOneWay (label : List Text.Direction) : Bool :=
  let last := (label.reverse.dropWhile (· == .mark)).head?
  match label.head? with
  | none => true
  | some .left =>
    label.all (fun direction => direction == .left || isNeutral direction) &&
      last.any (· matches .left | .number)
  | some .right | some .arabicLetter =>
    label.all (fun direction => isLeftward direction || isNeutral direction) &&
      last.any (fun direction => isLeftward direction || direction == .number) &&
      !(label.contains .number && label.contains .arabicNumber)
  | some _ => false

/-- Whether labels can be read together: as soon as one is read from right to left, all have to be
    read in one direction. -/
def areReadable (labels : List Text) : Bool :=
  let directions := labels.map (·.map Text.direction)
  !directions.any (·.any isLeftward) || directions.all isOneWay

/-! ## Names -/

/-- The labels of a name, in ASCII. -/
def labels? (text : Text) : Option (List Text) := do
  let name ← spelled? text
  if name.any isForbidden then none
  let labels := Text.fields (· == '.') name
  let letters ← labels.mapM letters?
  if letters.all isClear && areReadable letters then return labels.map ascii else none

end LiveTree.Uri.Domain
