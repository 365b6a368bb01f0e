import LiveTree.Proofs.Ancestors
import LiveTree.Tree.Outline

/-!
# The lines of an outline

An outline is written by a walk over an arena with a stack of nodes still to visit.  `Node.outline` is
the same by recursion on the tree: a named node has a line and indents what is below it, an anonymous
one does neither.  So every named node has one line, in pre-order, and its indentation counts the named
nodes above it.

The walk is compared with the recursion on whatever is on the stack: at each entry stands a subtree,
and what is still to be written are the outlines of these subtrees, one after the other.

## Key results

- `SyntaxTree.join_outlineFrom`: the walk writes the outlines of the subtrees on its stack
- `Node.outline_eq`: the recursion has a line for the path of every named node
- `SyntaxTree.outline_lists_named`: the outline, line by line
-/

namespace LiveTree

/-- The line of a named node with `depth` named nodes above it. -/
def Label.outlineLine (label : Label) (depth : Nat) : String :=
  String.join (List.replicate depth "  ") ++ label.kind ++ " " ++ label.extent.render ++ "\n"

namespace Node

mutual

/-- The outline of a tree with `depth` named nodes above it. -/
def outline (depth : Nat) : Node → List String
  | mk label children =>
    if label.named then label.outlineLine depth :: outlineAll (depth + 1) children
    else outlineAll depth children

/-- The outlines of several trees, one after the other. -/
def outlineAll (depth : Nat) : List Node → List String
  | [] => []
  | node :: rest => node.outline depth ++ outlineAll depth rest

end

/-! ## Lines and paths -/

/-- The number of named nodes above the node at a path. -/
def namedAbove (root : Node) (path : List Nat) : Nat :=
  (List.range path.length).countP fun n => (root.at? (path.take n)).any (·.label.named)

/-- The line of the node at a path, if it is named. -/
def lineAt? (root : Node) (depth : Nat) (path : List Nat) : Option String :=
  (root.at? path).bind fun node =>
    if node.label.named then some (node.label.outlineLine (depth + root.namedAbove path)) else none

/-- How much deeper a node makes what is below it. -/
def indent (label : Label) : Nat := if label.named then 1 else 0

/-- Above a node below a child are the root, if it is named, and what is named above it in the
    child. -/
theorem namedAbove_cons {label : Label} {children : List Node} {index : Nat} {child : Node}
    (found : children[index]? = some child) (rest : List Nat) :
    (mk label children).namedAbove (index :: rest) = indent label + child.namedAbove rest := by
  have hbelow : ∀ n, (mk label children).at? ((index :: rest).take (n + 1)) =
      child.at? (rest.take n) := by
    intro n
    rw [List.take_succ_cons, at?, Node.children, found]
    rfl
  unfold namedAbove
  rw [List.length_cons, List.range_succ_eq_map, List.countP_cons, List.countP_map, Nat.add_comm]
  congr 1
  congr 1
  funext n
  show Option.any _ ((mk label children).at? ((index :: rest).take (n + 1))) = _
  rw [hbelow]

/-- Above a child of a node are the named nodes above the node, and the node itself if it is named.
    -/
theorem namedAbove_snoc {root node : Node} {path : List Nat} (found : root.at? path = some node)
    (index : Nat) : root.namedAbove (path ++ [index]) = root.namedAbove path + indent node.label := by
  have hsteps : ∀ n ∈ List.range path.length, (path ++ [index]).take n = path.take n := by
    intro n hn
    exact List.take_append_of_le_length (Nat.le_of_lt (List.mem_range.1 hn))
  have hall : (path ++ [index]).take path.length = path := List.take_left
  unfold namedAbove
  rw [List.length_append, List.length_singleton, List.range_succ, List.countP_append,
    List.countP_singleton, hall, found]
  congr 1
  apply List.countP_congr
  intro n hn
  rw [hsteps n hn]

/-- A node below a child has the line that it has in the child, one step further in if the root is
    named. -/
theorem lineAt?_cons {label : Label} {children : List Node} {index : Nat} {child : Node}
    (found : children[index]? = some child) (depth : Nat) (rest : List Nat) :
    (mk label children).lineAt? depth (index :: rest) =
      child.lineAt? (depth + indent label) rest := by
  unfold lineAt?
  rw [namedAbove_cons found, at?, Node.children, found, Nat.add_assoc]
  rfl

mutual

/-- The outline of a tree has a line for every path to a named node. -/
theorem outline_eq (depth : Nat) :
    (node : Node) → node.outline depth = node.paths.filterMap (node.lineAt? depth)
  | mk label children => by
    have hbelow := outlineAll_eq label depth [] children
    have hroot : (mk label children).lineAt? depth [] =
        if label.named then some (label.outlineLine depth) else none := rfl
    rw [List.nil_append, List.length_nil] at hbelow
    rw [outline, paths, List.filterMap_cons, hroot, ← hbelow]
    unfold indent
    cases label.named with
    | true => rfl
    | false => rfl

/-- The children from one on have lines for the paths that lead through them. -/
theorem outlineAll_eq (label : Label) (depth : Nat) (front : List Node) :
    (nodes : List Node) → outlineAll (depth + indent label) nodes =
      (pathsAll front.length nodes).filterMap ((mk label (front ++ nodes)).lineAt? depth)
  -- Without children there are no lines.
  | [] => rfl
  | node :: rest => by
    have hfound : (front ++ node :: rest)[front.length]? = some node := by simp
    have hrest := outlineAll_eq label depth (front ++ [node]) rest
    rw [List.append_assoc, List.singleton_append, List.length_append, List.length_singleton] at hrest
    rw [outlineAll, pathsAll, List.filterMap_append, List.filterMap_map, ← hrest,
      outline_eq (depth + indent label) node]
    congr 2
    -- A path through this child begins with its position.
    funext path
    exact (lineAt?_cons hfound depth path).symm

end

end Node

namespace SyntaxTree

/-! ## The walk -/

/-- An entry of the stack, with the tree that stands there. -/
structure Visit where
  id : NodeId
  node : Node
  depth : Nat

/-- What is on the stack for it. -/
def Visit.entry (visit : Visit) : NodeId × Nat := (visit.id, visit.depth)

/-- What is to be written for it. -/
def Visit.outline (visit : Visit) : List String := visit.node.outline visit.depth

variable {tree : SyntaxTree} {path : List Nat} {parent : Option NodeId} {index : Nat} {id : NodeId}
  {node : Node}

/-- The children of a node that stands in the arena, each to be visited at some depth. -/
theorem exists_visits {ids : List NodeId} {nodes : List Node} (count : ids.length = nodes.length)
    (stand : ∀ (i : Nat) (id : NodeId) (node : Node), ids[i]? = some id → nodes[i]? = some node →
      Arena.Stands tree.nodes id node) (depth : Nat) :
    ∃ visits : List Visit, visits.map Visit.entry = ids.map (fun id => (id, depth)) ∧
      (∀ visit ∈ visits, Arena.Stands tree.nodes visit.id visit.node) ∧
      visits.map Visit.node = nodes ∧
      visits.flatMap Visit.outline = Node.outlineAll depth nodes := by
  -- By induction on the trees, along with their names.
  induction nodes generalizing ids with
  | nil =>
    obtain rfl := List.eq_nil_of_length_eq_zero count
    exact ⟨[], rfl, by simp, rfl, rfl⟩
  | cons node rest ih =>
    obtain ⟨id, ids, rfl⟩ := List.exists_cons_of_length_eq_add_one count
    obtain ⟨visits, hentries, hstand, hnodes, houtlines⟩ :=
      ih (Nat.succ.inj count) fun i id node hid hnode => stand (i + 1) id node hid hnode
    refine ⟨⟨id, node, depth⟩ :: visits, ?_, ?_, ?_, ?_⟩
    · rw [List.map_cons, hentries]
      rfl
    · intro visit hvisit
      rcases List.mem_cons.1 hvisit with rfl | hvisit
      · exact stand 0 id node rfl rfl
      · exact hstand visit hvisit
    · rw [List.map_cons, hnodes]
    · rw [List.flatMap_cons, houtlines]
      rfl

/-- A node is written and gives way to its children. -/
theorem outlineFrom_cons {entry : ArenaNode} (found : tree.nodes[id]? = some entry)
    (steps depth : Nat) (stack : List (NodeId × Nat)) :
    tree.outlineFrom (steps + 1) ((id, depth) :: stack) = outlineLine entry.label depth ::
      tree.outlineFrom steps (entry.children.toList.map
        (fun child => (child, depth + Node.indent entry.label)) ++ stack) := by
  have hbelow : depth + Node.indent entry.label =
      if entry.label.named then depth + 1 else depth := by
    unfold Node.indent
    split <;> rfl
  rw [outlineFrom, children, node_eq found, hbelow]

/-- An anonymous node has an empty line. -/
theorem join_outline (label : Label) (children : List Node) (depth : Nat) :
    String.join ((Node.mk label children).outline depth) =
      outlineLine label depth ++ String.join (Node.outlineAll (depth + Node.indent label) children) := by
  unfold Node.outline outlineLine Label.outlineLine Node.indent
  cases label.named with
  | true => simp only [if_true, String.join_cons]
  | false => simp

/-- With steps for all nodes of the trees on the stack, the walk writes their outlines, one after the
    other. -/
theorem join_outlineFrom (steps : Nat) (visits : List Visit)
    (stand : ∀ visit ∈ visits, Arena.Stands tree.nodes visit.id visit.node)
    (enough : Node.sizeAll (visits.map Visit.node) ≤ steps) :
    String.join (tree.outlineFrom steps (visits.map Visit.entry)) =
      String.join (visits.flatMap Visit.outline) := by
  -- By induction on the steps: each of them takes one node off the stack and puts its children on
  -- it.
  induction steps generalizing visits with
  | zero =>
    cases visits with
    | nil => rfl
    | cons visit rest =>
      have hpos := visit.node.size_pos
      rw [List.map_cons, Node.sizeAll] at enough
      omega
  | succ steps ih =>
    cases visits with
    | nil => rfl
    | cons visit rest =>
      obtain ⟨id, ⟨label, children⟩, depth⟩ := visit
      obtain ⟨hhere, hrest⟩ := List.forall_mem_cons.1 stand
      obtain ⟨entry, hentry, rfl, hcount, hbelow⟩ := hhere.found
      obtain ⟨visits, hentries, hstand, hnodes, houtlines⟩ :=
        exists_visits hcount hbelow (depth + Node.indent entry.label)
      -- The children take the place of their parent on the stack.
      have hall : ∀ other ∈ visits ++ rest, Arena.Stands tree.nodes other.id other.node := by
        intro other hother
        rcases List.mem_append.1 hother with hother | hother
        · exact hstand other hother
        · exact hrest other hother
      have htotal : Node.sizeAll ((visits ++ rest).map Visit.node) ≤ steps := by
        rw [List.map_cons, Node.sizeAll, Node.size] at enough
        rw [List.map_append, Node.sizeAll_append, hnodes, Node.children]
        omega
      have hnext := ih (visits ++ rest) hall htotal
      rw [List.map_append, hentries, List.flatMap_append, houtlines, String.join_append] at hnext
      rw [List.map_cons, Visit.entry, outlineFrom_cons hentry, String.join_cons, hnext,
        List.flatMap_cons, String.join_append, Visit.outline, join_outline, String.append_assoc]
      rfl

/-- The arena of a tree has as many entries as the tree has nodes. -/
theorem size_eq (tree : SyntaxTree) : tree.size = tree.source.root.size := by
  rw [size, tree.nodes_eq, Arena.size_ofNode]

/-- The outline is that of the tree. -/
theorem outline_eq (tree : SyntaxTree) :
    tree.outline = String.join (tree.source.root.outline 0) := by
  have hstands : ∀ visit ∈ [(⟨root, tree.source.root, 0⟩ : Visit)],
      Arena.Stands tree.nodes visit.id visit.node := by
    intro visit hvisit
    obtain rfl := List.mem_singleton.1 hvisit
    show Arena.Stands tree.nodes root tree.source.root
    rw [tree.nodes_eq]
    exact Arena.stands_root _
  have hwalk := join_outlineFrom tree.size _ hstands (by simp [tree.size_eq, Node.sizeAll])
  rw [List.flatMap_singleton] at hwalk
  exact hwalk

/-! ## Line by line -/

/-- The number of named nodes above a node. -/
def namedAbove (tree : SyntaxTree) (id : NodeId) : Nat :=
  (tree.ancestors id).tail.countP tree.isNamed

/-- The line of a node, if it is named. -/
def line? (tree : SyntaxTree) (id : NodeId) : Option String :=
  if tree.isNamed id then
    some (String.join (List.replicate (tree.namedAbove id) "  ") ++ tree.kind id ++ " " ++
      (tree.extent id).render ++ "\n")
  else none

/-- What the arena of a tree holds for a node. -/
theorem node_of_placed (h : tree.source.root.Placed path parent index id node) :
    tree.node id = ⟨node.label, parent, index, (Arena.childIds (id + 1) node.children).toArray⟩ := by
  apply node_eq
  rw [tree.nodes_eq]
  exact h.entry

/-- On the way to a node, the path and the links to the parents pass the same nodes. -/
theorem namedAbove_eq (h : tree.source.root.Placed path parent index id node) :
    tree.namedAbove id = tree.source.root.namedAbove path := by
  unfold namedAbove
  -- By induction on the path: a child has its parent above it, and all that is above the parent.
  induction h with
  | root =>
    have hparent : tree.parent? 0 = none := tree.parent?_root
    rw [ancestors_of_none hparent]
    rfl
  | @child path parent index id node child k above found ih =>
    have hparent : tree.parent? (id + 1 + Node.sizeAll (node.children.take k)) = some id := by
      rw [parent?, node_of_placed (above.child found)]
    have hnamed : tree.isNamed id = node.label.named := by rw [isNamed, node_of_placed above]
    have hself : tree.ancestors id = id :: (tree.ancestors id).tail := by
      cases hup : tree.parent? id with
      | none => rw [ancestors_of_none hup]; rfl
      | some up => rw [ancestors_of_parent hup]; rfl
    rw [ancestors_of_parent hparent, List.tail_cons, hself, List.countP_cons, ih, hnamed,
      Node.namedAbove_snoc above.at?]
    rfl

/-- The line of a node in the arena is the line at its path. -/
theorem line?_eq (h : tree.source.root.Placed path parent index id node) :
    tree.line? id = tree.source.root.lineAt? 0 path := by
  have hnode : (tree.node id).label = node.label := by rw [node_of_placed h]
  unfold line? Node.lineAt? isNamed kind extent
  rw [h.at?, hnode, namedAbove_eq h, Nat.zero_add]
  rfl

/-- The outline of a tree, as the recursion on the ordered tree writes it, is made of the lines of its
    named nodes in pre-order. -/
theorem outline_lists_named (tree : SyntaxTree) :
    tree.outline = String.join (tree.source.root.outline 0) ∧
      tree.source.root.outline 0 = (List.range tree.size).filterMap tree.line? := by
  -- The node with a name is the one at the path with its number.
  have hlines : tree.source.root.paths.map (tree.source.root.lineAt? 0) =
      (List.range tree.size).map tree.line? := by
    apply List.ext_getElem
    · rw [List.length_map, List.length_map, List.length_range, Node.length_paths, tree.size_eq]
    · intro id hid _
      rw [List.length_map] at hid
      obtain ⟨parent, index, node, hplaced⟩ :=
        Node.placed_of_path (List.getElem?_eq_getElem hid)
      rw [List.getElem_map, List.getElem_map, List.getElem_range, line?_eq hplaced]
  have hnamed := congrArg (List.filterMap id) hlines
  rw [List.filterMap_map, List.filterMap_map] at hnamed
  refine ⟨tree.outline_eq, ?_⟩
  rw [Node.outline_eq]
  exact hnamed

/-- What is named below an anonymous node is indented as the anonymous node would be. -/
example :
    (Node.mk ⟨"list", true, false, false, default⟩ [
      .mk ⟨"(", false, false, false, default⟩ [.mk ⟨"x", true, false, false, default⟩ []]]).outline 0 =
    ["list [0..0) (0:0 - 0:0)\n", "  x [0..0) (0:0 - 0:0)\n"] := by decide +kernel

end SyntaxTree

end LiveTree
