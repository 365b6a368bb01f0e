import LiveTree.Proofs.Agreement
import LiveTree.Proofs.Cursors

/-!
# Arenas are copies of their trees

A node of a tree is known by its path, the positions of the children that lead to it from the root.
Pre-order is the lexicographic order of the paths, and `Node.paths` lists them in it.  The name of a node
in an arena is the number of the paths that come before its own, so everything that an arena says about
names can be said about paths: the children of a node are the paths that are longer by one position, and
what is below it are the paths that go on from its own.

`Arena.Copies` collects what the links of an arena say in this way, and `Arena.toNode?` reads a tree back
from the links alone.

## Key results

- `Node.mem_paths_iff`, `Node.sorted_paths`: the paths of all nodes, each once and in order
- `Node.Placed.entry`, `Node.Placed.block`: what an arena holds for a node, and what lies below it
- `Arena.toNode?_ofNode`: a tree is read back from its arena
- `Arena.copies_ofNode`, `Arena.ofCursor_copies`: the arena of a tree is a copy of it, also if a cursor
  has built it
-/

namespace LiveTree

/-! ## Paths -/

namespace Node

mutual

/-- The paths of all nodes of a tree, in pre-order. -/
def paths : Node → List (List Nat)
  | mk _ children => [] :: pathsAll 0 children

/-- The paths of all nodes below a node, from the child with the position `index` on. -/
def pathsAll (index : Nat) : List Node → List (List Nat)
  | [] => []
  | node :: rest => node.paths.map (index :: ·) ++ pathsAll (index + 1) rest

end

mutual

/-- A tree has one path for each node. -/
theorem length_paths : (node : Node) → node.paths.length = node.size
  | mk label children => by
    rw [paths, List.length_cons, length_pathsAll 0 children, size]

/-- So have several trees. -/
theorem length_pathsAll (index : Nat) :
    (nodes : List Node) → (pathsAll index nodes).length = sizeAll nodes
  | [] => rfl
  | node :: rest => by
    rw [pathsAll, List.length_append, List.length_map, length_paths node,
      length_pathsAll (index + 1) rest, sizeAll]

end

/-- The paths of trees in a row follow one another, with positions that go on. -/
theorem pathsAll_append (index : Nat) (first second : List Node) :
    pathsAll index (first ++ second) =
      pathsAll index first ++ pathsAll (index + first.length) second := by
  induction first generalizing index with
  | nil => simp [pathsAll]
  | cons node rest ih =>
    have hindex : index + 1 + rest.length = index + (rest.length + 1) := by omega
    simp [pathsAll, ih, hindex]

/-- A path below a node goes to a child and on from there. -/
theorem mem_pathsAll_iff {index : Nat} {nodes : List Node} {path : List Nat} :
    path ∈ pathsAll index nodes ↔
      ∃ i rest node, path = (index + i) :: rest ∧ nodes[i]? = some node ∧ rest ∈ node.paths := by
  -- By induction on the trees: the path goes to the first one, or to one of the others.
  induction nodes generalizing index with
  | nil => simp [pathsAll]
  | cons first others ih =>
    rw [pathsAll, List.mem_append, List.mem_map, ih]
    constructor
    · rintro (⟨rest, hrest, rfl⟩ | ⟨i, rest, node, rfl, hnode, hrest⟩)
      · exact ⟨0, rest, first, rfl, rfl, hrest⟩
      · refine ⟨i + 1, rest, node, ?_, hnode, hrest⟩
        congr 1
        omega
    · rintro ⟨i, rest, node, rfl, hnode, hrest⟩
      cases i with
      | zero =>
        obtain rfl := Option.some.inj hnode
        exact .inl ⟨rest, hrest, rfl⟩
      | succ i =>
        refine .inr ⟨i, rest, node, ?_, hnode, hrest⟩
        congr 1
        omega

/-- The listed paths are those that lead to a node. -/
theorem mem_paths_iff {node : Node} {path : List Nat} :
    path ∈ node.paths ↔ ∃ found, node.at? path = some found := by
  -- By induction on the path, for every tree.
  induction path generalizing node with
  | nil =>
    cases node with
    | mk label children => simp [paths, at?]
  | cons index rest ih =>
    cases node with
    | mk label children =>
      rw [paths, List.mem_cons, mem_pathsAll_iff]
      constructor
      · rintro (h | ⟨i, others, child, h, hchild, hmem⟩)
        · simp at h
        · obtain ⟨rfl, rfl⟩ := List.cons.inj h
          obtain ⟨found, hfound⟩ := ih.1 hmem
          refine ⟨found, ?_⟩
          rw [at?, Nat.zero_add, Node.children, hchild]
          exact hfound
      · rintro ⟨found, hfound⟩
        obtain ⟨child, hchild, hfound⟩ := Option.bind_eq_some_iff.1 hfound
        refine .inr ⟨index, rest, child, ?_, hchild, ih.2 ⟨found, hfound⟩⟩
        rw [Nat.zero_add]

mutual

/-- Pre-order is the lexicographic order of the paths. -/
theorem sorted_paths : (node : Node) → node.paths.Pairwise (· < ·)
  | mk label children => by
    rw [paths, List.pairwise_cons]
    refine ⟨?_, sorted_pathsAll 0 children⟩
    intro path hpath
    obtain ⟨i, rest, node, rfl, -⟩ := mem_pathsAll_iff.1 hpath
    exact List.nil_lt_cons _ _

/-- Below a node, the paths through earlier children come first. -/
theorem sorted_pathsAll (index : Nat) :
    (nodes : List Node) → (pathsAll index nodes).Pairwise (· < ·)
  | [] => .nil
  | node :: rest => by
    rw [pathsAll, List.pairwise_append, List.pairwise_map]
    refine ⟨?_, sorted_pathsAll (index + 1) rest, ?_⟩
    -- Paths through the same child are in the order of what follows.
    · apply (sorted_paths node).imp
      intro a b hlt
      exact List.cons_lt_cons_iff.2 (.inr ⟨rfl, hlt⟩)
    -- Paths through different children are in the order of the children.
    · intro a ha b hb
      obtain ⟨path, -, rfl⟩ := List.mem_map.1 ha
      obtain ⟨i, path', child, rfl, -⟩ := mem_pathsAll_iff.1 hb
      apply List.cons_lt_cons_iff.2
      left
      omega

end

/-- Every node has one name. -/
theorem paths_inj {root : Node} {path : List Nat} {id id' : NodeId}
    (h : root.paths[id]? = some path) (h' : root.paths[id']? = some path) : id = id' := by
  -- Sorted strictly, no path comes twice.
  have hnodup : root.paths.Nodup := by
    apply root.sorted_paths.imp
    intro a b hlt heq
    rw [heq] at hlt
    exact List.lt_irrefl b hlt
  obtain ⟨hlt, -⟩ := List.getElem?_eq_some_iff.1 h
  exact (List.getElem?_inj hlt hnodup).1 (h.trans h'.symm)

/-- A path in two parts leads to where its second part leads from where the first does. -/
theorem at?_append (node : Node) (first second : List Nat) :
    node.at? (first ++ second) = (node.at? first).bind (·.at? second) := by
  induction first generalizing node with
  | nil => rfl
  | cons index rest ih =>
    rw [List.cons_append, at?, at?]
    cases node.children[index]? with
    | none => rfl
    | some child => exact ih child

/-! ## Places -/

/-- A node of a tree with its path, and with what an arena says about it: the name of its parent, its
    position there and its own name.  A child's name is found by counting what lies before it. -/
inductive Placed (root : Node) : List Nat → Option NodeId → Nat → NodeId → Node → Prop where
  | root : Placed root [] none 0 0 root
  | child {path : List Nat} {parent : Option NodeId} {index : Nat} {id : NodeId} {node child : Node}
      {k : Nat} (above : Placed root path parent index id node) (found : node.children[k]? = some child) :
      Placed root (path ++ [k]) (some id) k (id + 1 + sizeAll (node.children.take k)) child

variable {root node : Node} {path : List Nat} {parent : Option NodeId} {index : Nat} {id : NodeId}

/-- A node that has a place is where its path leads. -/
theorem Placed.at? (h : Placed root path parent index id node) : root.at? path = some node := by
  induction h with
  | root => rfl
  | child above found ih =>
    rw [at?_append, ih, Option.bind_some, Node.at?, found]
    rfl

/-- Every node has a place. -/
theorem exists_placed (h : root.at? path = some node) :
    ∃ parent index id, Placed root path parent index id node := by
  -- By induction on the length of the path, the last step of which leads to a child.
  induction hlength : path.length generalizing path node with
  | zero =>
    obtain rfl := List.length_eq_zero_iff.1 hlength
    obtain rfl := Option.some.inj h
    exact ⟨none, 0, 0, .root⟩
  | succ n ih =>
    -- The path goes to the parent first.
    obtain ⟨front, k, rfl⟩ : ∃ front k, path = front ++ [k] := by
      have hne : path ≠ [] := by
        intro hnil
        simp [hnil] at hlength
      exact ⟨path.dropLast, path.getLast hne, (List.dropLast_concat_getLast hne).symm⟩
    rw [at?_append] at h
    obtain ⟨above, habove, hchild⟩ := Option.bind_eq_some_iff.1 h
    obtain ⟨child, hfound, hchild⟩ := Option.bind_eq_some_iff.1 hchild
    obtain rfl := Option.some.inj hchild
    obtain ⟨parent, index, id, hplaced⟩ := ih habove (by simpa using hlength)
    exact ⟨some id, k, _, hplaced.child hfound⟩

/-- The children around one of them. -/
theorem split_children {children : List Node} {child : Node} {k : Nat} (h : children[k]? = some child) :
    ∃ front back, children = front ++ child :: back ∧ front.length = k := by
  obtain ⟨hlt, rfl⟩ := List.getElem?_eq_some_iff.1 h
  refine ⟨children.take k, children.drop (k + 1), ?_, ?_⟩
  · rw [← List.drop_eq_getElem_cons hlt, List.take_append_drop]
  · rw [List.length_take]
    omega

/-- The paths of a node and of what is below it stand together, from the node's name on. -/
theorem Placed.paths_eq (h : Placed root path parent index id node) :
    ∃ before after, before.length = id ∧
      root.paths = before ++ node.paths.map (path ++ ·) ++ after := by
  induction h with
  | root => exact ⟨[], [], rfl, by simp⟩
  | @child path parent index id node child k above found ih =>
    obtain ⟨before, after, hlength, hpaths⟩ := ih
    cases node with
    | mk label children =>
      -- The children before the child have their paths first, and those behind it have theirs
      -- after.
      obtain ⟨front, back, rfl, rfl⟩ := split_children found
      rw [Node.children, List.take_left]
      refine ⟨before ++ ([] :: pathsAll 0 front).map (path ++ ·),
        (pathsAll (front.length + 1) back).map (path ++ ·) ++ after, ?_, ?_⟩
      · simp only [List.length_append, List.length_map, List.length_cons, length_pathsAll, hlength]
        rw [Nat.add_comm (sizeAll front), Nat.add_assoc]
      · rw [hpaths, paths, pathsAll_append, pathsAll, Nat.zero_add]
        simp [Function.comp_def]

/-- The entries of a node and of what is below it stand together, from the node's name on. -/
theorem Placed.layout_eq (h : Placed root path parent index id node) :
    ∃ before after, before.length = id ∧
      Arena.layout none 0 0 root = before ++ Arena.layout parent index id node ++ after := by
  induction h with
  | root => exact ⟨[], [], rfl, by simp⟩
  | @child path parent index id node child k above found ih =>
    obtain ⟨before, after, hlength, hlayout⟩ := ih
    cases node with
    | mk label children =>
      -- The entry of the node comes first, then the layouts of its children in order.
      obtain ⟨front, back, rfl, rfl⟩ := split_children found
      rw [Arena.layout, Arena.layoutAll_append, Arena.layoutAll, Nat.zero_add] at hlayout
      generalize ArenaNode.mk label parent index _ = entry at hlayout
      rw [Node.children, List.take_left]
      refine ⟨before ++ entry :: Arena.layoutAll id 0 (id + 1) front,
        Arena.layoutAll id (front.length + 1) (id + 1 + sizeAll front + child.size) back ++ after,
        ?_, ?_⟩
      · simp only [List.length_append, List.length_cons, Arena.length_layoutAll, hlength]
        rw [Nat.add_comm (sizeAll front), Nat.add_assoc]
      · rw [hlayout]
        simp

/-- What the arena holds at a node's name. -/
theorem Placed.entry (h : Placed root path parent index id node) :
    (Arena.ofNode root)[id]? =
      some ⟨node.label, parent, index, (Arena.childIds (id + 1) node.children).toArray⟩ := by
  obtain ⟨before, after, rfl, hlayout⟩ := h.layout_eq
  cases node with
  | mk label children =>
    rw [Arena.ofNode_eq_layout, List.getElem?_toArray, hlayout, Arena.layout, List.append_assoc,
      List.getElem?_append_right (Nat.le_refl _), Nat.sub_self]
    rfl

/-- The name of a node is the number of the paths before its own. -/
theorem Placed.named (h : Placed root path parent index id node) : root.paths[id]? = some path := by
  obtain ⟨before, after, rfl, hpaths⟩ := h.paths_eq
  cases node with
  | mk label children =>
    rw [hpaths, paths, List.append_assoc, List.getElem?_append_right (Nat.le_refl _), Nat.sub_self]
    simp

/-- Every name belongs to a node. -/
theorem placed_of_path (h : root.paths[id]? = some path) :
    ∃ parent index node, Placed root path parent index id node := by
  obtain ⟨node, hnode⟩ := mem_paths_iff.1 (List.mem_of_getElem? h)
  obtain ⟨parent, index, id', hplaced⟩ := exists_placed hnode
  obtain rfl := paths_inj h hplaced.named
  exact ⟨parent, index, node, hplaced⟩

/-- A path that is not empty goes through the parent. -/
theorem Placed.above {k : Nat} (h : Placed root (path ++ [k]) parent index id node) :
    ∃ parent' index' id' node', Placed root path parent' index' id' node' ∧
      node'.children[k]? = some node ∧ id = id' + 1 + sizeAll (node'.children.take k) := by
  generalize hfull : path ++ [k] = full at h
  cases h with
  -- The last step of the path determines the child, and all before it the parent.
  | root => simp at hfull
  | child above found =>
    obtain ⟨rfl, hk⟩ := List.append_inj' hfull rfl
    obtain rfl := List.head_eq_of_cons_eq hk
    exact ⟨_, _, _, _, above, found, rfl⟩

/-- A path leads to one node with one name. -/
theorem Placed.unique {node' : Node} {parent' : Option NodeId} {index' : Nat} {id' : NodeId}
    (h : Placed root path parent index id node) (h' : Placed root path parent' index' id' node') :
    id = id' ∧ node = node' :=
  ⟨paths_inj h.named h'.named, Option.some.inj (h.at?.symm.trans h'.at?)⟩

/-- What lies below a node are the paths that go on from its own, and they fill as many names as there
    are nodes. -/
theorem Placed.block (h : Placed root path parent index id node) (other : NodeId) :
    -- All paths of the node's own tree stand together from its name on.
    id ≤ other ∧ other < id + node.size ↔ ∃ rest, root.paths[other]? = some (path ++ rest) := by
  obtain ⟨before, after, rfl, hpaths⟩ := h.paths_eq
  have hinside : ∀ m, m < node.size →
      root.paths[before.length + m]? = (node.paths[m]?).map (path ++ ·) := by
    intro m hm
    rw [hpaths, List.append_assoc, List.getElem?_append_right (Nat.le_add_right _ _),
      Nat.add_sub_cancel_left, List.getElem?_append_left, List.getElem?_map]
    rw [List.length_map, length_paths]
    exact hm
  constructor
  · rintro ⟨hle, hlt⟩
    obtain ⟨m, rfl⟩ := Nat.exists_eq_add_of_le hle
    have hm : m < node.paths.length := by
      rw [length_paths]
      exact Nat.lt_of_add_lt_add_left hlt
    refine ⟨node.paths[m], ?_⟩
    rw [hinside m (Nat.lt_of_add_lt_add_left hlt), List.getElem?_eq_getElem hm]
    rfl
  · rintro ⟨rest, hrest⟩
    -- The rest of the path leads on from the node, so it is one of the node's own paths.
    obtain ⟨found, hfound⟩ := mem_paths_iff.1 (List.mem_of_getElem? hrest)
    rw [at?_append, h.at?, Option.bind_some] at hfound
    obtain ⟨m, hm⟩ := List.getElem?_of_mem (mem_paths_iff.2 ⟨found, hfound⟩)
    have hlt : m < node.size := by
      rw [← length_paths]
      exact (List.getElem?_eq_some_iff.1 hm).1
    have hname := hinside m hlt
    rw [hm] at hname
    obtain rfl := paths_inj hrest hname
    exact ⟨Nat.le_add_right _ _, Nat.add_lt_add_left hlt _⟩

/-- One of several trees is no larger than all of them. -/
theorem size_le_of_mem {node : Node} {nodes : List Node} (h : node ∈ nodes) :
    node.size ≤ sizeAll nodes := by
  induction h with
  | head rest => simp [sizeAll]
  | tail other mem ih =>
    rw [sizeAll]
    omega

end Node

/-! ## Copies -/

namespace Arena

/-- Reads the tree below a name from the links to the children, at most `levels` levels deep; `none` if
    a name is not in the arena or the links go on. -/
def readFrom? (nodes : Array ArenaNode) : Nat → NodeId → Option Node
  | 0, _ => none
  | levels + 1, id => do
    let entry ← nodes[id]?
    let children ← entry.children.toList.mapM (readFrom? nodes levels)
    pure (.mk entry.label children)

/-- Reads a tree from an arena.  No path is longer than the number of nodes. -/
def toNode? (nodes : Array ArenaNode) : Option Node := readFrom? nodes nodes.size 0

/-- If each element has a value, so has the list. -/
theorem mapM_eq_some {α β : Type} {f : α → Option β} {as : List α} {bs : List β}
    (count : as.length = bs.length)
    (each : ∀ (i : Nat) (a : α) (b : β), as[i]? = some a → bs[i]? = some b → f a = some b) :
    as.mapM f = some bs := by
  induction as generalizing bs with
  | nil =>
    obtain rfl := List.length_eq_zero_iff.1 count.symm
    rfl
  | cons a rest ih =>
    cases bs with
    | nil => exact nomatch count
    | cons b others =>
      have hfirst : f a = some b := each 0 a b rfl rfl
      have hrest : rest.mapM f = some others :=
        ih (Nat.succ.inj count) fun i x y hx hy => each (i + 1) x y hx hy
      simp [hfirst, hrest]

/-- A tree is read from where it stands. -/
theorem Stands.readFrom? {nodes : Array ArenaNode} {id : NodeId} {tree : Node}
    (h : Stands nodes id tree) {levels : Nat} (deep : tree.size ≤ levels) :
    readFrom? nodes levels id = some tree := by
  -- By induction on what stands where; one level is spent on every node.
  induction h generalizing levels with
  | @mk id entry label children found same count below ih =>
    cases levels with
    | zero => exact absurd deep (Nat.not_le_of_gt (Node.size_pos _))
    | succ levels =>
      have hchildren : entry.children.toList.mapM (Arena.readFrom? nodes levels) = some children := by
        apply mapM_eq_some count
        intro i childId child hid hchild
        apply ih i childId child hid hchild
        -- The children are smaller than the node, so the levels that are left are enough for them.
        have hle := Node.size_le_of_mem (List.mem_of_getElem? hchild)
        rw [Node.size] at deep
        omega
      simp [Arena.readFrom?, found, hchildren, same]

/-- A tree is read back from its arena. -/
theorem toNode?_ofNode (root : Node) : toNode? (ofNode root) = some root := by
  unfold toNode?
  rw [size_ofNode]
  exact (stands_root root).readFrom? (Nat.le_refl _)

/-! ### Links -/

/-- What the arena holds at a name is what it holds for a node. -/
theorem placed_of_entry {root : Node} {id : NodeId} {entry : ArenaNode}
    (h : (ofNode root)[id]? = some entry) :
    ∃ path parent index node, root.Placed path parent index id node ∧
      entry = ⟨node.label, parent, index, (childIds (id + 1) node.children).toArray⟩ := by
  obtain ⟨hlt, -⟩ := Array.getElem?_eq_some_iff.1 h
  rw [size_ofNode, ← Node.length_paths] at hlt
  obtain ⟨parent, index, node, hplaced⟩ := Node.placed_of_path (List.getElem?_eq_getElem hlt)
  exact ⟨_, parent, index, node, hplaced, Option.some.inj (h.symm.trans hplaced.entry)⟩

/-- The children of a node are the nodes one step below it. -/
theorem child_iff_path {root : Node} {id : NodeId} {path : List Nat} {entry : ArenaNode}
    (named : root.paths[id]? = some path) (found : (ofNode root)[id]? = some entry) (k : Nat)
    (child : NodeId) :
    entry.children[k]? = some child ↔ root.paths[child]? = some (path ++ [k]) := by
  obtain ⟨parent, index, node, hplaced⟩ := Node.placed_of_path named
  obtain rfl := Option.some.inj (found.symm.trans hplaced.entry)
  rw [List.getElem?_toArray, getElem?_childIds, Option.map_eq_some_iff]
  constructor
  -- The child is placed below the node, so it has the path that is longer by its position.
  · rintro ⟨below, hbelow, rfl⟩
    exact (hplaced.child hbelow).named
  · intro hchild
    obtain ⟨_, _, below, hbelow⟩ := Node.placed_of_path hchild
    obtain ⟨_, _, id', node', habove, hfound, rfl⟩ := hbelow.above
    obtain ⟨rfl, rfl⟩ := habove.unique hplaced
    exact ⟨below, hfound, rfl⟩

/-- Parent and position lead back to where a node is among the children. -/
theorem parent_iff_child {root : Node} {id : NodeId} {entry : ArenaNode}
    (found : (ofNode root)[id]? = some entry) (parent : NodeId) (k : Nat) :
    entry.parent = some parent ∧ entry.index = k ↔
      ∃ above, (ofNode root)[parent]? = some above ∧ above.children[k]? = some id := by
  obtain ⟨path, up, index, node, hplaced, rfl⟩ := placed_of_entry found
  constructor
  · rintro ⟨hparent, rfl⟩
    -- The root has no parent; any other node is placed below its own.
    cases hplaced with
    | root => exact nomatch hparent
    | child above below =>
      obtain rfl := Option.some.inj hparent
      refine ⟨_, above.entry, ?_⟩
      rw [List.getElem?_toArray, getElem?_childIds, below]
      rfl
  · rintro ⟨above, habove, hid⟩
    obtain ⟨path', up', index', node', hplaced', rfl⟩ := placed_of_entry habove
    rw [List.getElem?_toArray, getElem?_childIds, Option.map_eq_some_iff] at hid
    obtain ⟨below, hbelow, rfl⟩ := hid
    -- Both entries are the one at the name, so parent and position agree.
    have hsame := found.symm.trans (hplaced'.child hbelow).entry
    injection hsame with hsame
    injection hsame with _ hparent hindex
    exact ⟨hparent, hindex⟩

/-- The root, and no other node, has no parent. -/
theorem parent_eq_none_iff {root : Node} {id : NodeId} {entry : ArenaNode}
    (found : (ofNode root)[id]? = some entry) : entry.parent = none ↔ id = 0 := by
  constructor
  · intro hparent
    obtain ⟨path, up, index, node, hplaced, rfl⟩ := placed_of_entry found
    cases hplaced with
    | root => rfl
    | child above below => exact nomatch hparent
  · rintro rfl
    have hroot : root.Placed [] none 0 0 root := .root
    obtain rfl := Option.some.inj (found.symm.trans hroot.entry)
    rfl

/-- Parents come before their children. -/
theorem parent_lt {root : Node} {id parent : NodeId} {entry : ArenaNode}
    (found : (ofNode root)[id]? = some entry) (h : entry.parent = some parent) : parent < id := by
  obtain ⟨path, up, index, node, hplaced, rfl⟩ := placed_of_entry found
  cases hplaced with
  | root => exact nomatch h
  -- The name of a child is counted from that of its parent.
  | child above below =>
    obtain rfl := Option.some.inj h
    rw [Nat.add_assoc, Nat.add_comm 1]
    exact Nat.lt_add_of_pos_right (Nat.succ_pos _)

/-! ### All together -/

/-- An arena is a copy of a tree.  The node with a given name is found by counting paths. -/
structure Copies (nodes : Array ArenaNode) (root : Node) : Prop where
  /-- There is one entry for each node. -/
  size : nodes.size = root.size
  /-- The entries have the labels of the nodes, in pre-order. -/
  label : ∀ {id : NodeId} {path : List Nat} {node : Node}, root.paths[id]? = some path →
    root.at? path = some node → (nodes[id]?).map (·.label) = some node.label
  /-- The children of a node are the nodes one step below it, in order. -/
  children : ∀ {id : NodeId} {path : List Nat} {entry : ArenaNode}, root.paths[id]? = some path →
    nodes[id]? = some entry → ∀ (k : Nat) (child : NodeId),
      entry.children[k]? = some child ↔ root.paths[child]? = some (path ++ [k])
  /-- Parent and position lead back to where a node is among the children. -/
  parent : ∀ {id : NodeId} {entry : ArenaNode}, nodes[id]? = some entry →
    ∀ (parent : NodeId) (k : Nat), entry.parent = some parent ∧ entry.index = k ↔
      ∃ above, nodes[parent]? = some above ∧ above.children[k]? = some id
  /-- The root, and no other node, has no parent. -/
  parent_none : ∀ {id : NodeId} {entry : ArenaNode}, nodes[id]? = some entry →
    (entry.parent = none ↔ id = 0)
  /-- Parents come before their children. -/
  parent_lt : ∀ {id parent : NodeId} {entry : ArenaNode}, nodes[id]? = some entry →
    entry.parent = some parent → parent < id
  /-- A node and what is below it fill a block of names. -/
  block : ∀ {id : NodeId} {path : List Nat} {node : Node}, root.paths[id]? = some path →
    root.at? path = some node → ∀ other, id ≤ other ∧ other < id + node.size ↔
      ∃ rest, root.paths[other]? = some (path ++ rest)
  /-- The tree is read back from the links to the children. -/
  read : toNode? nodes = some root

/-- The arena of a tree is a copy of it. -/
theorem copies_ofNode (root : Node) : Copies (ofNode root) root where
  size := size_ofNode root
  label := by
    intro id path node hpath hnode
    obtain ⟨parent, index, node', hplaced⟩ := Node.placed_of_path hpath
    obtain rfl := Option.some.inj (hnode.symm.trans hplaced.at?)
    rw [hplaced.entry]
    rfl
  children := child_iff_path
  parent := parent_iff_child
  parent_none := parent_eq_none_iff
  parent_lt := parent_lt
  block := by
    intro id path node hpath hnode
    obtain ⟨parent, index, node', hplaced⟩ := Node.placed_of_path hpath
    obtain rfl := Option.some.inj (hnode.symm.trans hplaced.at?)
    exact hplaced.block
  read := toNode?_ofNode root

/-- A cursor builds a copy of its tree, the one that a single pass over the walk builds, as long as the
    names of the nodes fit into 32 bits. -/
theorem ofCursor_copies {root : Node} (bound : root.size < 2 ^ 32) :
    ofCursor root = ofNode root ∧ Copies (ofCursor root) root := by
  have hsame := ofCursor_eq_ofNode (Nat.le_of_lt bound)
  refine ⟨hsame, ?_⟩
  rw [hsame]
  exact copies_ofNode root

/-- A tree with a second child of the root, to which a cursor has to climb two levels. -/
def steep : Node := .mk default [.mk default [.mk default [.mk default []]], .mk default []]

/-- The root has its children at the names 1 and 4, as three nodes lie below the first of them. -/
theorem ofCursor_copies_steep :
    steep.size < 2 ^ 32 ∧ Copies (ofCursor steep) steep ∧
      (ofCursor steep).toList.map (fun entry => (entry.parent, entry.index, entry.children.toList)) =
        [(none, 0, [1, 4]), (some 0, 0, [2]), (some 1, 0, [3]), (some 2, 0, []), (some 0, 1, [])] := by
  have hbound : steep.size < 2 ^ 32 := by decide
  obtain ⟨hsame, hcopies⟩ := ofCursor_copies hbound
  refine ⟨hbound, hcopies, ?_⟩
  rw [hsame, ofNode_eq_layout]
  decide

end Arena

end LiveTree
