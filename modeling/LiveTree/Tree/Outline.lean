import LiveTree.Tree

/-!
# Outlines

The outline of a tree has a line for every named node, in pre-order, indented by two spaces for each
named node around it.  The arena is walked with a stack of nodes still to visit.
-/

namespace LiveTree.SyntaxTree

/-- The outline line of a named node; nothing for an anonymous one. -/
def outlineLine (label : Label) (depth : Nat) : String :=
  if label.named then
    String.join (List.replicate depth "  ") ++ label.kind ++ " " ++ label.extent.render ++ "\n"
  else ""

/-- The lines of the nodes on a stack and below them, visiting at most `steps` nodes. -/
def outlineFrom (tree : SyntaxTree) : Nat → List (NodeId × Nat) → List String
  | 0, _ => []
  | _ + 1, [] => []
  | steps + 1, (id, depth) :: stack =>
    let label := (tree.node id).label
    -- Anonymous nodes have no line and add no indentation.
    let below := if label.named then depth + 1 else depth
    outlineLine label depth ::
      outlineFrom tree steps ((tree.children id).map (fun child => (child, below)) ++ stack)

/-- The outline of a tree. -/
def outline (tree : SyntaxTree) : String :=
  String.join (tree.outlineFrom tree.size [(root, 0)])

end LiveTree.SyntaxTree
