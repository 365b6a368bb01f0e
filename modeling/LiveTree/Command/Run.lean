import LiveTree.Command
import LiveTree.Command.Arguments
import LiveTree.Command.SessionLog
import LiveTree.Config.Load
import LiveTree.Library.Image
import LiveTree.Query.Selection
import LiveTree.Text.Pieces
import LiveTree.Uri
import LiveTree.Workspace.Time

/-!
# Running commands

`run` takes the arguments, the files and the logs of earlier sessions, and tells how the program ends
and what becomes of the logs.  A command opens its file in a workspace of its own.
-/

namespace LiveTree

/-- Why a command fails. -/
inductive Failure where
  | config (error : ConfigError)
  | unknownLanguage (path : String)
  | noGrammar (language : String)
  | unreadable (path : String) (reason : ReadError)
  | engine (error : EngineError)
  deriving Repr

namespace Failure

/-- The wording of a failure. -/
def message : Failure → String
  | config error => error.message
  | unknownLanguage path => s!"cannot detect the language of {path}; pass --language"
  | noGrammar language => s!"no grammar configured for '{language}'"
  | unreadable path _ => s!"failed to read {path}"
  | engine error => error.message

/-- The wording of what lies behind a failure. -/
def cause? : Failure → Option String
  | config (.unreadable _ reason) => some reason
  | unreadable _ reason => some reason.message
  | _ => none

/-- A failure as it is reported. -/
def report (failure : Failure) : String :=
  s!"Error: {failure.message}\n" ++
    failure.cause?.elim "" fun cause => s!"\nCaused by:\n    {cause}\n"

end Failure

/-- How the program ends. -/
inductive Ending where
  /-- The arguments make no sense; what is said about them is not laid down here. -/
  | usage
  /-- Help was asked for; its text is not laid down here. -/
  | help
  | printed (text : String)
  | failed (failure : Failure)
  /-- The program stopped in the middle of its work. -/
  | aborted (message : String)
  /-- The system killed the program, which asked for more memory than there is. -/
  | killed

namespace Ending

/-- The exit code of the program, if it lived to give one. -/
def exitCode : Ending → Option Nat
  | usage => some 2
  | help => some 0
  | printed _ => some 0
  | failed _ => some 1
  | aborted _ => some 101
  | killed => none

/-- The ending of a program that has no command to run. -/
def ofStop : Stop → Ending
  | .usage => usage
  | .help => help
  | .version => printed "syntax-sync 0.2.0\n"

end Ending

/-- What the program finds when it starts; the memory is told in bytes. -/
structure Surroundings where
  files : Files ByteArray
  dataHome : String
  logs : List LogFile := []
  memory : Nat := 0x800000000

/-- The answer of the engine, or the end of the program. -/
def Ending.expect {α : Type} : Except EngineError α → Except Ending α
  | .ok value => .ok value
  | .error error => .error (.failed (.engine error))

namespace Surroundings

/-- The text of a file. -/
def readFile (s : Surroundings) (path : String) : Except Ending Text :=
  match s.files.readText path with
  | .ok text => .ok text
  | .error reason => .error (.failed (.unreadable path reason))

end Surroundings

/-- The language of a file, as given or by its file type. -/
def Registry.languageOf (registry : Registry) (path : String) (given : Option String) :
    Except Ending String := do
  match given.or (registry.languageForPath? path) with
  | none => throw (.failed (.unknownLanguage path))
  | some language =>
    if registry.isSupported language then return language
    else throw (.failed (.noGrammar language))

/-- A file that a command has opened. -/
structure Opened where
  workspace : Workspace
  document : DocumentId
  uri : String

/-- Opens a file, with the given text in place of its own if there is one. -/
def Surroundings.openFile (s : Surroundings) (w : Workspace) (path : String)
    (language : Option String) (text : Option Text) : Except Ending Opened := do
  let language ← w.services.registry.languageOf path language
  let text ← match text with
    | some text => pure text
    | none => s.readFile path
  let uri := Uri.ofPlace (Path.absolute s.files.base path)
  let (w, id) := w.createDocument uri language text
  return ⟨w.openDocument id, id, uri⟩

namespace Opened

/-- Waits for the tree of an opened file. -/
def parsed (opened : Opened) (parser : Parser) : Except Ending (Opened × SyntaxTree) := do
  match opened.workspace.tree parser opened.uri with
  | (w, some result) => return ({ opened with workspace := w }, ← Ending.expect result)
  | (_, none) => throw (.aborted "there is no runtime")

/-- The opened document's text. -/
def text (opened : Opened) : Text :=
  (opened.workspace.documents[opened.document]?).elim [] (·.text)

/-- The opened document's version. -/
def version (opened : Opened) : Int :=
  (opened.workspace.documents[opened.document]?).elim 0 (·.version)

/-- Prints the outline or the expression of a file's tree. -/
def printTree (opened : Opened) (parser : Parser) (expression : Bool) : Except Ending String := do
  let (_, result) ← opened.parsed parser
  return if expression then result.source.expression ++ "\n" else result.outline

/-- Prints the selections around an offset, one a line. -/
def printSelections (opened : Opened) (parser : Parser) (offset : Nat) : Except Ending String := do
  let (opened, result) ← opened.parsed parser
  match result.selections? opened.text offset opened.text.bracketTrimmer? with
  | some (.ok extents) => return String.join (extents.map fun extent => extent.render ++ "\n")
  | some (.error error) => throw (.failed (.engine (.query error)))
  | none => throw (.aborted "a node cannot be trimmed")

/-- The extent and the quoted text of a node. -/
def excerpt (opened : Opened) (result : SyntaxTree) (id : NodeId) : String :=
  (result.extent id).render ++ " " ++ Text.quoted ((result.text? id opened.text).getD [])

/-- Prints the list around a span and its elements at both ends of the span. -/
def printBracket (opened : Opened) (parser : Parser) (span : Span) : Except Ending String := do
  let (opened, _) ← opened.parsed parser
  let (w, found) := opened.workspace.bracketingChildren parser opened.uri span
  let opened := { opened with workspace := w }
  let (result, ends) ← Ending.expect found
  return "list  " ++ result.kind ends.list ++ " " ++ (result.extent ends.list).render ++ "\n" ++
    "first " ++ opened.excerpt result ends.first ++ "\n" ++
    "last  " ++ opened.excerpt result ends.last ++ "\n"

/-- Adds a piece to the end of the document, reports it and parses the new text. -/
def append (parser : Parser) (opened : Opened) (piece : Text) : Except Ending Opened := do
  match opened.workspace.editDocument opened.document [.insert opened.text.byteLength piece] with
  | (w, some (.ok changes)) =>
    if opened.version = Document.lastVersion then throw (.aborted "attempt to add with overflow")
    let opened := { opened with workspace := w }
    let (w, reported) := w.report opened.uri opened.version changes
    if (← Ending.expect reported).isNone then throw (.aborted "a change cannot be told in words")
    let (w, result) := w.treeNow parser opened.uri
    let _ ← Ending.expect result
    return { opened with workspace := w }
  | (_, some (.error error)) => throw (.failed (.engine (.edit error)))
  | (w, none) => return { opened with workspace := w }

/-- Replays a text piece by piece in a document that was opened empty, then verifies its tree and
    prints how it was parsed. -/
def replay (opened : Opened) (parser : Parser) (path : String) (pieces : List Text) :
    Except Ending String := do
  let (opened, _) ← opened.parsed parser
  let opened ← pieces.foldlM (append parser) opened
  let (w, verdict) := opened.workspace.verify parser opened.uri
  match ← Ending.expect verdict with
  | .agrees =>
    let counters := w.services.metrics.counters
    return s!"verified {path} after {pieces.length} edits " ++
      s!"({counters.incrementalParses} incremental, {counters.fullParses} full parses)\n"
  | verdict => throw (.aborted (verdict.message opened.uri))

end Opened

/-- The least number of pieces that there can be no room for. -/
def tooManyPieces : Nat := 0x800000000000000

/-- The memory that is set aside for each piece. -/
def pieceSize : Nat := 16

/-- The memory that is set aside for each event. -/
def eventSize : Nat := 128

/-- The end of a program that asks for some memory at once; `none` if it gets it. -/
def Surroundings.refusal? (s : Surroundings) (size : Nat) : Option Ending :=
  if s.memory ≤ size then some .killed else none

/-- Runs a command in an empty workspace. -/
def Command.run (parser : Parser) (s : Surroundings) (language : Option String) (w : Workspace) :
    Command → Except Ending String
  | tree file expression => do (← s.openFile w file language none).printTree parser expression
  | select file offset => do (← s.openFile w file language none).printSelections parser offset
  | bracket file span => do (← s.openFile w file language none).printBracket parser span
  | verify file count => do
    let source ← s.readFile file
    if tooManyPieces ≤ count then throw (.aborted "capacity overflow")
    (s.refusal? (pieceSize * count)).forM throw
    let pieces := source.pieces (max count 1)
    -- The document starts empty and is fed the source afterwards.
    (← s.openFile w file language (some [])).replay parser file pieces

/-- Runs a command under its settings. -/
def Invocation.run (parser : Parser) (s : Surroundings) (invocation : Invocation) : Ending :=
  match invocation.config.elim (.ok {}) (Config.load s.files) with
  | .error error => .failed (.config error)
  | .ok config =>
    match Workspace.create? config s.dataHome (.ofFiles s.files) true with
    | none => .aborted "capacity overflow"
    | some w =>
      match s.refusal? (eventSize * w.services.events.capacity) with
      | some ending => ending
      | none =>
        match invocation.command.run parser s invocation.language w with
        | .ok text => .printed text
        | .error ending => ending

/-- How a run of the program ends, which of the earlier logs are left, and whether it keeps a log of
    its own. -/
structure Outcome where
  ending : Ending
  logs : List LogFile
  logged : Bool

/-- Runs the program. -/
def run (parser : Parser) (s : Surroundings) (args : List String) : Outcome :=
  match Arguments.parse args with
  | .error stop => ⟨.ofStop stop, s.logs, false⟩
  | .ok invocation =>
    ⟨invocation.run parser s,
      if invocation.logFile then s.logs.filter (!·.isExpired) else s.logs, invocation.logFile⟩

end LiveTree
