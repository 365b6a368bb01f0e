import LiveTree.Engine.Services
import LiveTree.Query.Sibling
import LiveTree.Tree.Outline

/-!
# Workspaces

A `Workspace` is everything that changes while a host works: the host's documents, the entries of
those that are open, and what the entries share.  An open entry refers to its document, so it sees
every edit of the host at once, reported or not.
-/

namespace LiveTree

/-- Documents, entries by the uris they were opened under, and shared services. -/
structure Workspace where
  documents : List Document := []
  entries : Table Entry := .empty
  services : Services

namespace Workspace

/-- An empty workspace. -/
def create (config : Config) (dataHome : String) (libraries : Libraries) (runtime : Bool) :
    Workspace where
  services := .create config dataHome libraries runtime

/-- An empty workspace, if there can be room for its updates. -/
def create? (config : Config) (dataHome : String) (libraries : Libraries) (runtime : Bool) :
    Option Workspace :=
  if Channel.fits config.eventCapacity then some (create config dataHome libraries runtime) else none

/-- The open entry of a uri and its document. -/
def open? (w : Workspace) (uri : String) : Option (Entry × Document) := do
  let entry ← w.entries.find? uri
  let doc ← w.documents[entry.document]?
  return (entry, doc)

/-- Puts back an entry and the services after an operation on them. -/
def put (w : Workspace) (uri : String) (services : Services) (entry : Entry) : Workspace :=
  { w with services := services, entries := w.entries.insert uri entry }

/-- Runs an operation on the open entry of a uri. -/
def onEntry {α : Type} (w : Workspace) (uri : String)
    (operation : Services → Document → Entry → Services × Entry × Except EngineError α) :
    Workspace × Except EngineError α :=
  match w.open? uri with
  | none => (w, .error (.documentNotOpen uri))
  | some (entry, doc) =>
    let (services, entry, result) := operation w.services doc entry
    (w.put uri services entry, result)

/-! ## The host's documents -/

/-- Makes a document without opening it. -/
def createDocument (w : Workspace) (uri language : String) (text : Text) :
    Workspace × DocumentId :=
  ({ w with documents := w.documents ++ [.create uri language text] }, w.documents.length)

/-- Applies edits to a document; `none` if there is no such document. -/
def editDocument (w : Workspace) (id : DocumentId) (edits : List Edit) :
    Workspace × Option (Except EditError (List Change)) :=
  match w.documents[id]? with
  | none => (w, none)
  | some doc =>
    match doc.applyEdits edits with
    | .error error => (w, some (.error error))
    | .ok (doc, changes) => ({ w with documents := w.documents.set id doc }, some (.ok changes))

/-- Replaces the whole text of a document; `none` if there is no such document. -/
def setText (w : Workspace) (id : DocumentId) (text : Text) : Workspace × Option Change :=
  match w.documents[id]? with
  | none => (w, none)
  | some doc =>
    let (doc, change) := doc.setText text
    ({ w with documents := w.documents.set id doc }, some change)

/-! ## Opening and closing -/

/-- Opens a document under its uri, in place of what was open there, and schedules its first
    parse. -/
def openDocument (w : Workspace) (id : DocumentId) : Workspace :=
  match w.documents[id]? with
  | none => w
  | some doc =>
    -- The timer of an entry that is replaced must not fire for the new one.
    let services := match w.entries.find? doc.uri with
      | some previous => (w.services.cancelTimer previous).1
      | none => w.services
    let (services, entry) := services.schedule doc.uri { document := id } 0
    w.put doc.uri services entry

/-- Closes a uri and tells whether it was open. -/
def close (w : Workspace) (uri : String) : Workspace × Bool :=
  match w.entries.find? uri with
  | none => (w, false)
  | some entry =>
    ({ w with services := (w.services.cancelTimer entry).1, entries := w.entries.erase uri }, true)

/-! ## Trees -/

/-- The current tree of a document, parsed on the spot if need be. -/
def treeNow (w : Workspace) (parser : Parser) (uri : String) :
    Workspace × Except EngineError SyntaxTree :=
  w.onEntry uri fun s doc entry => s.treeNow parser doc entry

/-- Brings a document up to date without waiting for a grammar. -/
def reparseNow (w : Workspace) (parser : Parser) (uri : String) :
    Workspace × Except EngineError (Option SyntaxTree) :=
  w.onEntry uri fun s doc entry =>
    let (s, entry, _) := s.cancelTimer entry
    s.reparse parser doc entry

/-- The tree last committed for a document, current or not. -/
def lastTree? (w : Workspace) (uri : String) : Option SyntaxTree := do
  (← w.entries.find? uri).committed

/-- Compares a document's tree with a parse from scratch. -/
def verify (w : Workspace) (parser : Parser) (uri : String) :
    Workspace × Except EngineError Services.Verdict :=
  w.onEntry uri fun s doc entry => s.verify parser doc entry

/-! ## Reports and scheduling -/

/-- The host reports the changes that led to a version; the answer is how many were applied, or
    `none` if one of them cannot be told in words. -/
def report (w : Workspace) (uri : String) (version : Int) (changes : List Change) :
    Workspace × Except EngineError (Option Nat) :=
  w.onEntry uri fun s doc entry =>
    let (s, entry, count) := s.report doc.uri entry version changes
    (s, entry, .ok count)

/-- The host shows a document: unless its tree is current, it is reparsed at once. -/
def activate (w : Workspace) (uri : String) : Workspace × Except EngineError Unit :=
  w.onEntry uri fun s doc entry =>
    if (entry.currentTree? doc.version).isSome then (s, entry, .ok ())
    else
      let (s, entry) := s.schedule doc.uri entry 0
      (s, entry, .ok ())

/-- Schedules a reparse after the debounce time. -/
def scheduleReparse (w : Workspace) (uri : String) : Workspace × Except EngineError Unit :=
  w.onEntry uri fun s doc entry =>
    let (s, entry) := s.schedule doc.uri entry s.config.debounceMs
    (s, entry, .ok ())

/-- Schedules a reparse of a document if it is open. -/
def scheduleIfOpen (w : Workspace) (uri : String) (delay : Nat) : Workspace :=
  match w.entries.find? uri with
  | none => w
  | some entry =>
    let (services, entry) := w.services.schedule uri entry delay
    w.put uri services entry

/-- Whether a document waits for a reparse. -/
def hasPendingReparse (w : Workspace) (uri : String) : Bool :=
  (w.entries.find? uri).any w.services.isPending

/-! ## Queries -/

/-- Records that an operation ran; no virtual time passes in it. -/
def time (w : Workspace) (operation : String) : Workspace :=
  { w with services := w.services.measure (·.recordTiming operation 0) }

/-- The deepest node around a span of the current tree. -/
def containingNode (w : Workspace) (parser : Parser) (uri : String) (span : Span) :
    Workspace × Except EngineError (SyntaxTree × NodeId) :=
  match w.treeNow parser uri with
  | (w, .error error) => (w, .error error)
  | (w, .ok tree) =>
    (w.time "containing_node",
      match tree.containing span with
      | .ok node => .ok (tree, node)
      | .error error => .error (.query error))

/-- The list elements around a span of the current tree. -/
def bracketingChildren (w : Workspace) (parser : Parser) (uri : String) (span : Span) :
    Workspace × Except EngineError (SyntaxTree × Bracket) :=
  match w.treeNow parser uri with
  | (w, .error error) => (w, .error error)
  | (w, .ok tree) =>
    let (services, grammar) := w.services.grammarNow tree.language
    let w := { w with services := services }
    match grammar with
    | .error error => (w, .error error)
    | .ok grammar =>
      (w.time "bracketing_children",
        match tree.bracket span grammar.isListKind with
        | .ok bracket => .ok (tree, bracket)
        | .error error => .error (.query error))

/-- Two pieces that have changed places, in the tree after the exchange. -/
structure Swapped where
  tree : SyntaxTree
  left : NodeId
  right : NodeId

/-- The nodes at the two new places of an exchange. -/
def Swapped.locate (tree : SyntaxTree) (left right : Span) : Except EngineError Swapped :=
  match tree.containing left with
  | .error error => .error (.query error)
  | .ok left =>
    match tree.containing right with
    | .error error => .error (.query error)
    | .ok right => .ok ⟨tree, left, right⟩

/-- Exchanges two pieces of a document, reports the changes and finds the pieces in the new tree;
    `none` if there is no such document, or if the changes cannot be told in words. -/
def swapSiblings (w : Workspace) (parser : Parser) (id : DocumentId) (a b : Span) :
    Workspace × Option (Except EngineError Swapped) :=
  match w.documents[id]? with
  | none => (w, none)
  | some doc =>
    let w := w.time "swap_siblings"
    match doc.swap a b with
    | .error error => (w, some (.error (.query error)))
    | .ok (doc, swap) =>
      -- From here on the exchange stands, even if the engine has no tree to show for it.
      let w := { w with documents := w.documents.set id doc }
      match w.report doc.uri doc.version swap.changes with
      | (w, .error error) => (w, some (.error error))
      | (w, .ok none) => (w, none)
      | (w, .ok (some _)) =>
        match w.treeNow parser doc.uri with
        | (w, .error error) => (w, some (.error error))
        | (w, .ok tree) => (w, some (Swapped.locate tree swap.left swap.right))

/-- Exchanges the node around a span with its neighbour; the answer is empty when there is none. -/
def swapWithSibling (w : Workspace) (parser : Parser) (id : DocumentId) (span : Span)
    (direction : Direction) : Workspace × Option (Except EngineError (Option Swapped)) :=
  match w.documents[id]? with
  | none => (w, none)
  | some doc =>
    match w.treeNow parser doc.uri with
    | (w, .error error) => (w, some (.error error))
    | (w, .ok tree) =>
      match tree.containing span with
      | .error error => (w, some (.error (.query error)))
      | .ok node =>
        let sibling := tree.sibling node direction
        if sibling = node then (w, some (.ok none))
        else
          let (w, result) :=
            w.swapSiblings parser id (tree.extent node).span (tree.extent sibling).span
          (w, result.map (·.map some))

/-! ## Subscribers, metrics and grammars -/

/-- Adds a subscriber to tree updates and answers its number. -/
def subscribe (w : Workspace) : Workspace × Nat :=
  let (events, number) := w.services.events.subscribe
  ({ w with services := { w.services with events := events } }, number)

/-- Removes a subscriber. -/
def unsubscribe (w : Workspace) (number : Nat) : Workspace :=
  { w with services := { w.services with events := w.services.events.unsubscribe number } }

/-- Everything a subscriber has not taken yet. -/
def receive (w : Workspace) (number : Nat) : Workspace × Option (List (Received Update)) :=
  let (events, received) := w.services.events.receive number
  ({ w with services := { w.services with events := events } }, received)

/-- Forgets all counters and durations. -/
def resetMetrics (w : Workspace) : Workspace :=
  { w with services := w.services.measure Metrics.reset }

/-- Changes the registry. -/
def setRegistry (w : Workspace) (registry : Registry) : Workspace :=
  { w with services := { w.services with registry := registry } }

/-- Loads a grammar without waiting for anything. -/
def loadBlocking (w : Workspace) (language : String) :
    Workspace × Except GrammarError Grammar :=
  let (registry, result) := w.services.registry.loadBlocking w.services.libraries language
  (w.setRegistry registry, result)

/-- Asks for a grammar and does not wait for it. -/
def requestGrammar (w : Workspace) (language : String) : Workspace × Reply :=
  let (registry, reply) := w.services.registry.request w.services.libraries language
  (w.setRegistry registry, reply)

/-- Whether a request for a grammar has to wait when there is no runtime to wait in. -/
def isStranded (w : Workspace) (language : String) : Bool :=
  !w.services.runtime && w.services.registry.mustWait language

/-- The host asks for a grammar and does not wait for it; `none` if even that takes a runtime and
    there is none. -/
def beginLoad (w : Workspace) (language : String) : Workspace × Option Reply :=
  if w.isStranded language then (w, none)
  else
    let (w, reply) := w.requestGrammar language
    (w, some reply)

/-- Puts a grammar library on disk, or removes it. -/
def putLibrary (w : Workspace) (path : String) (file : Option LibraryFile) : Workspace :=
  let libraries := w.services.libraries
  { w with services := { w.services with
      libraries := file.elim (libraries.erase path) (libraries.insert path) } }

end Workspace

end LiveTree
