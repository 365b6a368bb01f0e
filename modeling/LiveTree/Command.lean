import LiveTree.Extent

/-!
# Commands

What the program can be told to do with a file.
-/

namespace LiveTree

/-- One run's task. -/
inductive Command where
  /-- Print the outline of the tree, or its expression. -/
  | tree (file : String) (expression : Bool)
  /-- Print the selections around an offset, from the innermost to the whole file. -/
  | select (file : String) (offset : Nat)
  /-- Print the list around a span and its elements at both ends of the span. -/
  | bracket (file : String) (span : Span)
  /-- Replay the file piece by piece and compare the resulting tree with a parse from scratch. -/
  | verify (file : String) (pieces : Nat)
  deriving DecidableEq, Repr

/-- The file that a command is about. -/
def Command.file : Command → String
  | tree file _ => file
  | select file _ => file
  | bracket file _ => file
  | verify file _ => file

/-- A command with the settings it is run under. -/
structure Invocation where
  command : Command
  config : Option String := none
  language : Option String := none
  logLevel : Option String := none
  noColor : Bool := false
  logFile : Bool := false
  deriving DecidableEq, Repr

/-- The paths that are read in a run. -/
def Invocation.paths (invocation : Invocation) : List String :=
  invocation.config.toList ++ [invocation.command.file]

/-- Why the arguments name no command to run. -/
inductive Stop where
  | usage
  | help
  | version
  deriving DecidableEq, Repr

end LiveTree
