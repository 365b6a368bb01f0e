import LiveTree.Tree.Node

/-!
# Arenas

An arena lays a tree out in an array, one element per node in pre-order, so that a node is named by
its position.  Every element knows its parent, its place among the parent's children, and its
children.  `Arena.ofNode` builds it in one pass over the walk of the tree.
-/

namespace LiveTree

/-- The name of a node inside its tree: its position in pre-order. -/
abbrev NodeId := Nat

/-- One node of an arena. -/
structure ArenaNode where
  label : Label
  parent : Option NodeId
  index : Nat
  children : Array NodeId
  deriving DecidableEq, Repr, Inhabited

namespace Arena

/-- A pass in progress: the nodes so far, and the last one with its ancestors, innermost first. -/
structure Pass where
  nodes : Array ArenaNode := #[]
  path : List NodeId := []

/-- Appends the next node of a walk.  Its parent is the innermost node of the path that is above its
    depth. -/
def Pass.add (pass : Pass) (step : Nat × Label) : Pass :=
  let id := pass.nodes.size
  -- The path has one node per level; those at the new node's depth and below are done.
  let path := pass.path.drop (pass.path.length - step.1)
  match path with
  | [] => ⟨pass.nodes.push ⟨step.2, none, 0, #[]⟩, [id]⟩
  | parent :: _ =>
    let index := ((pass.nodes[parent]?).map (·.children.size)).getD 0
    let linked := pass.nodes.modify parent fun node =>
      { node with children := node.children.push id }
    ⟨linked.push ⟨step.2, some parent, index, #[]⟩, id :: path⟩

/-- The arena of a tree. -/
def ofNode (root : Node) : Array ArenaNode :=
  ((root.walk 0).foldl Pass.add {}).nodes

end Arena

end LiveTree
