import LiveTree.Json.Record
import LiveTree.Parser

/-!
# Parsers that answer from a record

Trees made elsewhere can be used here: a `Recording` is what some parser answered for one text, and
`Parser.ofRecordings` answers by looking texts up among recordings.  A text that was never recorded
still has a tree, if only a bare root: a parse ends without one only when it takes too long.

A recording is written as a JSON object with the members `language`, `text`, `tree`, and, where they
matter, `incremental` (the tree found with the help of a previous one) and `sexp`.  A tree is the list
of its nodes in pre-order, each as an array: depth, kind, flags (1 for named, 2 for an error, 4 for a
missing node), first and last byte, and rows and columns of its two ends.
-/

namespace LiveTree

/-- What a parser answered for a text: its tree, and the tree found with the help of a previous one
    where that is another. -/
structure Recording where
  language : String
  text : Text
  tree : ParseTree
  incremental : Option ParseTree

namespace Recording

/-- Whether a tree is as long as a text. -/
def covers (tree : ParseTree) (text : Text) : Bool :=
  tree.root.label.extent.stop == text.byteLength

/-- The answer with or without a previous tree.  A tree found with the help of a previous one may have
    been recorded with a text that had changed since: a previous tree that is in step with the text
    never leads to a tree of another length. -/
def answer (recording : Recording) (previous : Option PreviousTree) : ParseTree :=
  match previous, recording.incremental with
  | some previous, some tree =>
    if covers tree recording.text || previous.text? ≠ some recording.text then tree
    else recording.tree
  | _, _ => recording.tree

/-- The kind of the root in trees of a language: as in a recorded one, or as the builtin grammars have
    it. -/
def rootKind (recordings : List Recording) (language : String) : String :=
  match recordings.find? (·.language == language) with
  | some recording => recording.tree.root.label.kind
  | none =>
    match language with
    | "javascript" => "program"
    | "rust" => "source_file"
    | _ => "document"

/-- The tree of a text that is all root. -/
def bareTree (kind : String) (text : Text) : ParseTree where
  root := .mk ⟨kind, true, false, false,
    ⟨0, text.byteLength, ⟨0, 0⟩, (⟨0, 0⟩ : Point).advance text⟩⟩ []
  expression := s!"({kind})"

/-- A tree for a text that was never recorded: one that was recorded with another text and is as long
    as this one, or one that is all root. -/
def guess (recordings : List Recording) (language : String) (text : Text) : ParseTree :=
  let trees := (recordings.filter (·.language == language)).filterMap (·.incremental)
  (trees.find? (covers · text)).getD (bareTree (rootKind recordings language) text)

end Recording

/-- The parser that answers from recordings, but not for texts of more than `longest` bytes. -/
def Parser.ofRecordings (recordings : List Recording) (longest : Option Nat) : Parser :=
  fun language text previous _ =>
    if longest.any (· < text.byteLength) then none
    else
      match recordings.find? fun r => r.language == language && r.text == text with
      | some recording => some (recording.answer previous)
      | none => some (Recording.guess recordings language text)

namespace Recording

/-- Reads one node of a walk. -/
def step? : Json → Option (Nat × Label)
  | .array [.natural depth, .string (some kind), .natural flags, .natural start, .natural stop,
      .natural startRow, .natural startColumn, .natural stopRow, .natural stopColumn] =>
    some (depth, ⟨kind, flags % 2 == 1, flags / 2 % 2 == 1, flags / 4 % 2 == 1,
      ⟨start, stop, ⟨startRow, startColumn⟩, ⟨stopRow, stopColumn⟩⟩⟩)
  | _ => none

/-- Reads a tree from its walk. -/
def node? (json : Json) : Option Node := do Node.ofWalk? (← json.listOf? step?)

/-- Reads a recording. -/
def ofJson? (json : Json) : Option Recording := do
  let members ← json.members? ["language", "text", "tree", "incremental", "sexp"]
  let language ← Json.member? members "language" none Json.string?
  let text ← Json.member? members "text" none Json.string?
  let expression ← Json.member? members "sexp" (some "") Json.string?
  let tree ← Json.member? members "tree" none node?
  let incremental ← Json.member? members "incremental" (some none) fun json => (node? json).map some
  return ⟨language, text.toList, ⟨tree, expression⟩, incremental.map (⟨·, expression⟩)⟩

/-- Reads a list of recordings. -/
def parse? (text : Text) : Option (List Recording) := do
  (← Json.read? text).listOf? ofJson?

end Recording

end LiveTree
