import LiveTree.Text.Quoted
import LiveTree.Tree.Arena

/-!
# Syntax trees

A `SyntaxTree` is the parse of one version of a document, laid out as an arena.  It carries the
ordered tree it was made from, and the proof that its arena is the arena of that tree.
-/

namespace LiveTree

/-- A parser's answer: the ordered tree and its written expression. -/
structure ParseTree where
  root : Node
  expression : String
  deriving Inhabited

/-- The tree of one version of a document. -/
structure SyntaxTree where
  language : String
  version : Int
  source : ParseTree
  nodes : Array ArenaNode
  nodes_eq : nodes = Arena.ofNode source.root

namespace SyntaxTree

/-- Lays out a parser's answer. -/
def ofParse (language : String) (version : Int) (source : ParseTree) : SyntaxTree :=
  ⟨language, version, source, Arena.ofNode source.root, rfl⟩

/-- The root is the first node. -/
def root : NodeId := 0

/-- Number of nodes. -/
def size (tree : SyntaxTree) : Nat := tree.nodes.size

/-- The node with a given name. -/
def node? (tree : SyntaxTree) (id : NodeId) : Option ArenaNode := tree.nodes[id]?

/-- The node with a given name; names from elsewhere give a blank node. -/
def node (tree : SyntaxTree) (id : NodeId) : ArenaNode := (tree.node? id).getD default

/-- Whether the parser marked some node as erroneous or missing. -/
def hasError (tree : SyntaxTree) : Bool :=
  tree.nodes.any fun node => node.label.isError || node.label.isMissing

/-- The kind of a node. -/
def kind (tree : SyntaxTree) (id : NodeId) : String := (tree.node id).label.kind

/-- Whether a node is named, as opposed to a piece of punctuation. -/
def isNamed (tree : SyntaxTree) (id : NodeId) : Bool := (tree.node id).label.named

/-- The extent of a node. -/
def extent (tree : SyntaxTree) (id : NodeId) : Extent := (tree.node id).label.extent

/-- The parent of a node. -/
def parent? (tree : SyntaxTree) (id : NodeId) : Option NodeId := (tree.node id).parent

/-- The children of a node, in order. -/
def children (tree : SyntaxTree) (id : NodeId) : List NodeId := (tree.node id).children.toList

/-- The named children of a node, in order. -/
def namedChildren (tree : SyntaxTree) (id : NodeId) : List NodeId :=
  (tree.children id).filter tree.isNamed

/-- The nearest named sibling after a node. -/
def nextNamed? (tree : SyntaxTree) (id : NodeId) : Option NodeId := do
  let parent ← tree.parent? id
  ((tree.children parent).drop ((tree.node id).index + 1)).find? tree.isNamed

/-- The nearest named sibling before a node. -/
def previousNamed? (tree : SyntaxTree) (id : NodeId) : Option NodeId := do
  let parent ← tree.parent? id
  ((tree.children parent).take (tree.node id).index).reverse.find? tree.isNamed

/-- A node followed by at most `steps` of its ancestors, innermost first. -/
def climb (tree : SyntaxTree) : Nat → NodeId → List NodeId
  | 0, id => [id]
  | steps + 1, id =>
    match tree.parent? id with
    | none => [id]
    | some parent => id :: climb tree steps parent

/-- A node and its ancestors up to the root.  Parents come before their children in an arena, so no
    path is longer than the node's own position. -/
def ancestors (tree : SyntaxTree) (id : NodeId) : List NodeId := tree.climb id id

/-- The text a node covers, its offsets clamped to the length of `source`; `none` for a node that is
    not in the tree or when an offset falls inside a character. -/
def text? (tree : SyntaxTree) (id : NodeId) (source : Text) : Option Text := do
  let node ← tree.node? id
  let stop := min node.label.extent.stop source.byteLength
  let start := min node.label.extent.start stop
  source.slice? start stop

/-- Language, version and size in one line. -/
def describe (tree : SyntaxTree) : String :=
  "SyntaxTree \x7b language_id: " ++ Text.quoted tree.language.toList ++
    s!", version: {tree.version}, nodes: {tree.size} " ++ "\x7d"

end SyntaxTree

/-- The displayed form of a node's name. -/
def NodeId.render (id : NodeId) : String := s!"#{id}"

end LiveTree
