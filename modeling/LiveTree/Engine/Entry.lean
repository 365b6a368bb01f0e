import LiveTree.Parser

/-!
# What is known about an open document

An `Entry` holds the syntax state of one open document: the tree that is served, the tree kept for
the next parse together with the version it has been brought up to, how the two stand to the
document, and the timer that will reparse it.

* `applyChanges` brings the kept tree up to a later version; reports that come late or twice are
  dropped, and a change that cannot be told in 64-bit words stops its report.
* `beginParse` hands out the kept tree only if it is exactly at the version to be parsed.
* `commit` and `fail` end a parse.
-/

namespace LiveTree

/-- How a document's tree stands to its text. -/
inductive SyncState where
  | noTree
  | parsing
  | upToDate
  | stale
  deriving DecidableEq, Repr, Inhabited

/-- The name of a document of the host: its position among all documents ever created. -/
abbrev DocumentId := Nat

/-- The name of a task: its position among all tasks ever spawned. -/
abbrev TaskId := Nat

/-- The reparse timer of an entry.  Every cancellation and every new timer starts a new generation,
    and a timer that fires counts only in its own. -/
structure Timer where
  handle : Option TaskId := none
  generation : Nat := 0
  deriving DecidableEq, Repr, Inhabited

namespace Timer

/-- The timer after cancelling whatever it waits for. -/
def cancelled (timer : Timer) : Timer := ⟨none, timer.generation + 1⟩

/-- The timer waiting for a task, in a new generation. -/
def armed (timer : Timer) (task : TaskId) : Timer := ⟨some task, timer.generation + 1⟩

/-- Takes note that the task of a generation has come; `none` if that generation is over. -/
def claim? (timer : Timer) (generation : Nat) : Option Timer :=
  if timer.generation = generation then some { timer with handle := none } else none

end Timer

/-- The syntax state of one open document. -/
structure Entry where
  document : DocumentId
  committed : Option SyntaxTree := none
  previous : Option PreviousTree := none
  previousVersion : Option Int := none
  state : SyncState := .noTree
  pendingEdits : Nat := 0
  timer : Timer := {}
  consecutiveFailures : Nat := 0

/-- What became of a report of changes. -/
inductive EditOutcome where
  | applied (count : Nat)
  | dropped (count : Nat)
  /-- One of the changes cannot be told in words. -/
  | stopped
  deriving DecidableEq, Repr

namespace Entry

/-- The served tree, if it is of the given version and nothing has happened since. -/
def currentTree? (entry : Entry) (version : Int) : Option SyntaxTree :=
  match entry.committed, entry.state with
  | some tree, .upToDate => if tree.version = version then some tree else none
  | _, _ => none

/-- Brings the kept tree up to a later version by the changes that led there.  A report that stops
    leaves the changes before the one that stopped it in the kept tree, and everything else as it
    was. -/
def applyChanges (entry : Entry) (changes : List Change) (version : Int) : Entry × EditOutcome :=
  match entry.previous with
  | none => (entry, .dropped changes.length)
  | some previous =>
    if entry.previousVersion.any (version ≤ ·) then (entry, .dropped changes.length)
    else if changes.any (¬ ·.Fits) then
      ({ entry with previous := some (previous.edit (changes.takeWhile (·.Fits))) }, .stopped)
    else
      ({ entry with
          previous := some (previous.edit changes)
          previousVersion := some version
          pendingEdits := entry.pendingEdits + changes.length
          consecutiveFailures := 0
          state := .stale },
        .applied changes.length)

/-- The kept tree, if it is at exactly the version to be parsed. -/
def previousFor? (entry : Entry) (version : Int) : Option PreviousTree :=
  if entry.previousVersion = some version then entry.previous else none

/-- Starts a parse of a version: the entry meanwhile, and the tree to start from. -/
def beginParse (entry : Entry) (version : Int) : Entry × Option PreviousTree :=
  ({ entry with state := .parsing }, entry.previousFor? version)

/-- Ends a parse with a tree of the given text. -/
def commit (entry : Entry) (language : String) (version : Int) (text : Text) (parse : ParseTree) :
    Entry × SyntaxTree :=
  let tree := SyntaxTree.ofParse language version parse
  ({ entry with
      committed := some tree
      previous := some (.ofParse text parse)
      previousVersion := some version
      state := .upToDate
      pendingEdits := 0
      consecutiveFailures := 0 },
    tree)

/-- Ends a parse without a tree. -/
def fail (entry : Entry) : Entry :=
  { entry with state := if entry.committed.isSome then .stale else .noTree }

end Entry

end LiveTree
