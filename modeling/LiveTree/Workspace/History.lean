import LiveTree.Workspace.Time

/-!
# Histories

Everything that can happen in a workspace is an `Action`: what the host does to its documents, what
it asks of the engine, and the passing of time.  A history is a list of actions, performed one after
the other.
-/

namespace LiveTree

/-- Something that happens in a workspace. -/
inductive Action where
  | create (uri language : String) (text : Text)
  | edit (id : DocumentId) (edits : List Edit)
  | setText (id : DocumentId) (text : Text)
  | openDocument (id : DocumentId)
  | close (uri : String)
  | report (uri : String) (version : Int) (changes : List Change)
  | treeNow (uri : String)
  | tree (uri : String)
  | reparseNow (uri : String)
  | verify (uri : String)
  | containingNode (uri : String) (span : Span)
  | bracketingChildren (uri : String) (span : Span)
  | swapSiblings (id : DocumentId) (a b : Span)
  | swapWithSibling (id : DocumentId) (span : Span) (direction : Direction)
  | activate (uri : String)
  | scheduleReparse (uri : String)
  | subscribe
  | unsubscribe (number : Nat)
  | receive (number : Nat)
  | resetMetrics
  | loadBlocking (language : String)
  | beginLoad (language : String)
  | load (language : String)
  | putLibrary (path : String) (file : Option LibraryFile)
  | advance (ms : Nat)

namespace Workspace

/-- What an action makes of a workspace. -/
def act (parser : Parser) (w : Workspace) : Action → Workspace
  | .create uri language text => (w.createDocument uri language text).1
  | .edit id edits => (w.editDocument id edits).1
  | .setText id text => (w.setText id text).1
  | .openDocument id => w.openDocument id
  | .close uri => (w.close uri).1
  | .report uri version changes => (w.report uri version changes).1
  | .treeNow uri => (w.treeNow parser uri).1
  | .tree uri => (w.tree parser uri).1
  | .reparseNow uri => (w.reparseNow parser uri).1
  | .verify uri => (w.verify parser uri).1
  | .containingNode uri span => (w.containingNode parser uri span).1
  | .bracketingChildren uri span => (w.bracketingChildren parser uri span).1
  | .swapSiblings id a b => (w.swapSiblings parser id a b).1
  | .swapWithSibling id span direction => (w.swapWithSibling parser id span direction).1
  | .activate uri => (w.activate uri).1
  | .scheduleReparse uri => (w.scheduleReparse uri).1
  | .subscribe => w.subscribe.1
  | .unsubscribe number => w.unsubscribe number
  | .receive number => (w.receive number).1
  | .resetMetrics => w.resetMetrics
  | .loadBlocking language => (w.loadBlocking language).1
  | .beginLoad language => (w.beginLoad language).1
  | .load language => (w.load parser language).1
  | .putLibrary path file => w.putLibrary path file
  | .advance ms => w.advance parser ms

/-- What a history makes of a workspace. -/
def perform (parser : Parser) (w : Workspace) (history : List Action) : Workspace :=
  history.foldl (act parser) w

end Workspace

end LiveTree
