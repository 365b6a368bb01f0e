import LiveTree.Change

/-!
# Documents

A `Document` is a text with a uri, a language and a version.  Edits are applied in order, each to
the text left by the one before it, and all or nothing: a list of edits with an invalid one changes
neither text nor version.
-/

namespace LiveTree

/-- Why a byte interval of a text cannot be read or replaced. -/
inductive EditError where
  | outOfBounds (span : Span) (length : Nat)
  | reversed (span : Span)
  | notCharBoundary (offset : Nat)
  deriving DecidableEq, Repr

/-- The wording of an edit error. -/
def EditError.message : EditError → String
  | outOfBounds span length => s!"edit range {span.render} exceeds document length {length}"
  | reversed span => s!"edit range {span.render} is reversed"
  | notCharBoundary offset => s!"byte offset {offset} is not on a character boundary"

/-- A replacement of a byte interval, in the coordinates of the text it is applied to. -/
structure Edit where
  span : Span
  text : Text
  deriving DecidableEq, Repr

namespace Edit

/-- Inserts text at an offset. -/
def insert (offset : Nat) (text : Text) : Edit := ⟨⟨offset, offset⟩, text⟩

/-- Removes a byte interval. -/
def delete (span : Span) : Edit := ⟨span, []⟩

end Edit

namespace Text

/-- Checks a byte interval: in order, inside the text, and both ends on character boundaries. -/
def checkSpan (text : Text) (span : Span) : Except EditError Unit :=
  if span.stop < span.start then .error (.reversed span)
  else if text.byteLength < span.stop then .error (.outOfBounds span text.byteLength)
  else if !text.isBoundary span.start then .error (.notCharBoundary span.start)
  else if !text.isBoundary span.stop then .error (.notCharBoundary span.stop)
  else .ok ()

/-- One edit: the text after it and the change that describes it. -/
def applyEdit (text : Text) (edit : Edit) : Except EditError (Text × Change) := do
  text.checkSpan edit.span
  match text.splice? edit.span.start edit.span.stop edit.text with
  | some new =>
    return (new, .ofSpan text edit.span edit.text)
  | none => throw (.notCharBoundary edit.span.stop)

/-- Edits in order, each on the text left by the one before it. -/
def applyEdits (text : Text) : List Edit → Except EditError (Text × List Change)
  | [] => .ok (text, [])
  | edit :: rest => do
    let (next, change) ← text.applyEdit edit
    let (last, changes) ← applyEdits next rest
    return (last, change :: changes)

/-- The text of a byte interval. -/
def slice (text : Text) (span : Span) : Except EditError Text := do
  text.checkSpan span
  match text.slice? span.start span.stop with
  | some part => return part
  | none => throw (.notCharBoundary span.stop)

end Text

/-- A text under edit.  Its version counts the changes that were made to it, up to
    `Document.lastVersion`: there is no edit after that, which would overflow. -/
structure Document where
  uri : String
  language : String
  version : Int
  text : Text
  deriving DecidableEq, Repr

namespace Document

/-- The last version that a document can have, the greatest 32-bit word with a sign. -/
def lastVersion : Nat := 2147483647

/-- A new document, at version 0. -/
def create (uri language : String) (text : Text) : Document := ⟨uri, language, 0, text⟩

/-- Applies edits in order; the version grows by one, however many edits there are. -/
def applyEdits (doc : Document) (edits : List Edit) :
    Except EditError (Document × List Change) := do
  let (text, changes) ← doc.text.applyEdits edits
  return (⟨doc.uri, doc.language, doc.version + 1, text⟩, changes)

/-- Replaces one byte interval. -/
def replace (doc : Document) (span : Span) (text : Text) :
    Except EditError (Document × Change) := do
  let (new, change) ← doc.text.applyEdit ⟨span, text⟩
  return (⟨doc.uri, doc.language, doc.version + 1, new⟩, change)

/-- Replaces the whole text. -/
def setText (doc : Document) (text : Text) : Document × Change :=
  (⟨doc.uri, doc.language, doc.version + 1, text⟩,
    .ofSpan doc.text ⟨0, doc.text.byteLength⟩ text)

/-- The text of a byte interval. -/
def slice (doc : Document) (span : Span) : Except EditError Text := doc.text.slice span

end Document

end LiveTree
