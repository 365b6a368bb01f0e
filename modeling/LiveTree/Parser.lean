import LiveTree.Document
import LiveTree.Tree

/-!
# Parsers

How texts are parsed is not the business of this library: a `Parser` is any function from a language
and a text to a tree, which may be helped by the previous tree of the document and may run over its
time limit.  Whether it does is not for the text alone to say: a `Pace` tells which parses are in time
for the time being, and it may be another one when a parse is tried again.

A `PreviousTree` remembers the text it was parsed from and the changes made since, in the order in
which they were applied to it.
-/

namespace LiveTree

/-- A tree kept for the next parse: what was parsed, and the changes applied to it since. -/
structure PreviousTree where
  text : Text
  tree : ParseTree
  changes : List Change

namespace PreviousTree

/-- A tree fresh from the parser. -/
def ofParse (text : Text) (tree : ParseTree) : PreviousTree := ⟨text, tree, []⟩

/-- Applies further changes to a kept tree. -/
def edit (previous : PreviousTree) (changes : List Change) : PreviousTree :=
  { previous with changes := previous.changes ++ changes }

/-- The text that the changes lead to from the one that was parsed; `none` when one of them does not
    fit the text before it. -/
def text? (previous : PreviousTree) : Option Text :=
  previous.changes.foldlM (fun text change => change.replay? text) previous.text

end PreviousTree

/-- Parses a text of a language, possibly with a previous tree, within a limit in milliseconds;
    `none` when the limit is exceeded. -/
abbrev Parser := (language : String) → Text → Option PreviousTree → (limit : Nat) → Option ParseTree

/-- Which parses are over within their limits for the time being. -/
abbrev Pace := (language : String) → Text → Option PreviousTree → (limit : Nat) → Bool

/-- The pace at which every answer of a parser is in time. -/
def Pace.steady : Pace := fun _ _ _ _ => true

/-- A parser at a pace. -/
def Parser.paced (parser : Parser) (pace : Pace) : Parser := fun language text previous limit =>
  if pace language text previous limit then parser language text previous limit else none

end LiveTree
