import LiveTree.Tree

/-!
# How an arena is laid out

An arena is built in one pass over the walk of a tree, with nothing but the path to the last node at
hand.  `Arena.layout` says what comes out, by recursion on the tree: every node is followed by the
layouts of its children, so the name of a child is found by counting the nodes before it.

`Arena.Stands` is what the algorithms on arenas need to know of it: at a name stands a subtree, and at
the names of its children stand the children.

## Key results

- `Arena.ofNode_eq_layout`: the pass lays a tree out as the recursion does
- `Arena.stands_root`: the root of a tree stands at the root of its arena
-/

namespace LiveTree

mutual

/-- Number of nodes of a tree. -/
def Node.size : Node → Nat
  | mk _ children => sizeAll children + 1

/-- Number of nodes of several trees. -/
def Node.sizeAll : List Node → Nat
  | [] => 0
  | node :: rest => node.size + sizeAll rest

end

/-- Every tree has a root, so it has a node. -/
theorem Node.size_pos (node : Node) : 0 < node.size := by
  cases node with
  | mk label children =>
    rw [Node.size]
    omega

/-- The sizes of trees in a row add up. -/
theorem Node.sizeAll_append (first second : List Node) :
    sizeAll (first ++ second) = sizeAll first + sizeAll second := by
  induction first with
  | nil => rw [List.nil_append, sizeAll, Nat.zero_add]
  | cons node rest ih => rw [List.cons_append, sizeAll, sizeAll, ih, Nat.add_assoc]

namespace Arena

/-- The names of trees that are laid out one after the other, the first one at `base`. -/
def childIds (base : NodeId) : List Node → List NodeId
  | [] => []
  | node :: rest => base :: childIds (base + node.size) rest

mutual

/-- The arena nodes of a tree whose root has the name `base`. -/
def layout (parent : Option NodeId) (index : Nat) (base : NodeId) : Node → List ArenaNode
  | .mk label children =>
    ⟨label, parent, index, (childIds (base + 1) children).toArray⟩ ::
      layoutAll base 0 (base + 1) children

/-- The arena nodes of the children of a node, from the child with the position `index` on. -/
def layoutAll (parent : NodeId) (index : Nat) (base : NodeId) : List Node → List ArenaNode
  | [] => []
  | node :: rest =>
    layout (some parent) index base node ++ layoutAll parent (index + 1) (base + node.size) rest

end

/-- Every tree has one name. -/
@[simp] theorem length_childIds (base : NodeId) (nodes : List Node) :
    (childIds base nodes).length = nodes.length := by
  induction nodes generalizing base with
  | nil => rfl
  | cons node rest ih =>
    rw [childIds, List.length_cons, List.length_cons, ih]

mutual

/-- A tree has as many arena nodes as it has nodes. -/
theorem length_layout (parent : Option NodeId) (index : Nat) (base : NodeId) :
    (node : Node) → (layout parent index base node).length = node.size
  | .mk label children => by
    rw [layout, List.length_cons, length_layoutAll base 0 (base + 1) children, Node.size]

/-- So have several trees. -/
theorem length_layoutAll (parent : NodeId) (index : Nat) (base : NodeId) :
    (nodes : List Node) → (layoutAll parent index base nodes).length = Node.sizeAll nodes
  | [] => rfl
  | node :: rest => by
    rw [layoutAll, List.length_append, length_layout (some parent) index base node,
      length_layoutAll parent (index + 1) (base + node.size) rest, Node.sizeAll]

end

/-- The layout of trees in a row goes on, with positions and names, where that of the first ones
    ends. -/
theorem layoutAll_append (parent : NodeId) (index : Nat) (base : NodeId) (first second : List Node) :
    layoutAll parent index base (first ++ second) = layoutAll parent index base first ++
      layoutAll parent (index + first.length) (base + Node.sizeAll first) second := by
  induction first generalizing index base with
  | nil => simp [layoutAll, Node.sizeAll]
  | cons node rest ih =>
    have hindex : index + 1 + rest.length = index + (rest.length + 1) := by omega
    simp [layoutAll, Node.sizeAll, ih, hindex, Nat.add_assoc base]

/-- A child is named after all nodes of the children before it. -/
theorem getElem?_childIds (base : NodeId) (nodes : List Node) (k : Nat) :
    (childIds base nodes)[k]? =
      (nodes[k]?).map fun _ => base + Node.sizeAll (nodes.take k) := by
  induction nodes generalizing base k with
  | nil => rfl
  | cons node rest ih =>
    cases k with
    | zero => simp [childIds, Node.sizeAll]
    | succ k => simp [childIds, Node.sizeAll, ih, Nat.add_assoc]

/-! ## The pass -/

/-- Gives a node further children. -/
def adopt (ids : List NodeId) (node : ArenaNode) : ArenaNode :=
  { node with children := node.children ++ ids.toArray }

/-- Adopting one child pushes it behind the others. -/
theorem adopt_singleton (id : NodeId) :
    adopt [id] = fun node => { node with children := node.children.push id } := by
  funext node
  unfold adopt
  rw [Array.push_eq_append]

/-- The number of children that a node has so far. -/
def Pass.childCount (pass : Pass) (id : NodeId) : Nat :=
  ((pass.nodes[id]?).map (·.children.size)).getD 0

/-- A node that comes below the path `parent :: rest` is linked to `parent`. -/
theorem Pass.add_below {pass : Pass} {parent : NodeId} {rest : List NodeId}
    (under : parent :: rest <:+ pass.path) (label : Label) :
    pass.add (rest.length + 1, label) =
      ⟨(pass.nodes.modify parent (adopt [pass.nodes.size])).push
          ⟨label, some parent, pass.childCount parent, #[]⟩,
        pass.nodes.size :: parent :: rest⟩ := by
  -- The path is cut back to the depth of the new node, and what is left of it is the path to its
  -- parent.
  have hpath : pass.path.drop (pass.path.length - (rest.length + 1)) = parent :: rest :=
    (List.suffix_iff_eq_drop.1 under).symm
  unfold add
  rw [adopt_singleton]
  simp only [hpath]
  rfl

/-- What is appended does not matter to an element from before. By induction on those elements. -/
theorem modify_append_of_lt {α : Type} (f : α → α) {as : List α} {i : Nat} (bs : List α)
    (h : i < as.length) : (as ++ bs).modify i f = as.modify i f ++ bs := by
  induction as generalizing i with
  | nil => exact absurd h (Nat.not_lt_zero i)
  | cons a rest ih =>
    cases i with
    | zero => rfl
    | succ i =>
      rw [List.cons_append, List.modify_succ_cons, List.modify_succ_cons, List.cons_append,
        ih (Nat.lt_of_succ_lt_succ h)]

/-- The element after a list stands at the place that the length of the list names. -/
theorem modify_concat_length {α : Type} (f : α → α) (as : List α) (a : α) :
    (as ++ [a]).modify as.length f = as ++ [f a] := by
  induction as with
  | nil => rfl
  | cons b rest ih =>
    rw [List.cons_append, List.length_cons, List.modify_succ_cons, ih, List.cons_append]

/-- A pass has gone on below the path `parent :: rest`: `parent` has got children, and nodes have been
    added. -/
structure Pass.Grows (pass : Pass) (parent : NodeId) (rest ids : List NodeId)
    (added : List ArenaNode) (later : Pass) : Prop where
  nodes : later.nodes.toList = pass.nodes.toList.modify parent (adopt ids) ++ added
  under : parent :: rest <:+ later.path

/-- What is added below a node that was there does not change the number of its children, but for the
    new ones. -/
theorem Pass.Grows.childCount {pass later : Pass} {parent : NodeId} {rest ids : List NodeId}
    {added : List ArenaNode} (h : pass.Grows parent rest ids added later)
    (inside : parent < pass.nodes.size) :
    later.childCount parent = pass.childCount parent + ids.length := by
  have hlt : parent < pass.nodes.toList.length := inside
  unfold Pass.childCount
  rw [← Array.getElem?_toList, h.nodes, List.getElem?_append_left (by simpa using hlt),
    List.getElem?_modify_eq, ← Array.getElem?_toList, List.getElem?_eq_getElem hlt]
  simp [adopt]

/-- A pass grows by the nodes that are added. -/
theorem Pass.Grows.size {pass later : Pass} {parent : NodeId} {rest ids : List NodeId}
    {added : List ArenaNode} (h : pass.Grows parent rest ids added later) :
    later.nodes.size = pass.nodes.size + added.length := by
  have hlength := congrArg List.length h.nodes
  simpa using hlength

/-- Who adopts nobody stays as it is. -/
theorem adopt_nil : adopt [] = id := by
  funext node
  simp [adopt]

/-- Children may be adopted in two lots. -/
theorem adopt_adopt (first second : List NodeId) :
    adopt second ∘ adopt first = adopt (first ++ second) := by
  funext node
  simp [adopt]

mutual

/-- The walk of a tree below a path adds the tree's layout. -/
theorem foldl_walk {pass : Pass} {parent : NodeId} {rest : List NodeId}
    (under : parent :: rest <:+ pass.path) :
    (node : Node) → pass.Grows parent rest [pass.nodes.size]
      (layout (some parent) (pass.childCount parent) pass.nodes.size node)
      ((node.walk (rest.length + 1)).foldl Pass.add pass)
  | .mk label children => by
    rw [Node.walk, List.foldl_cons, Pass.add_below under]
    -- The pass after the root of the tree has been added, and before its children are.
    generalize hadded : Pass.mk _ _ = added
    have hsize : added.nodes.size = pass.nodes.size + 1 := by
      rw [← hadded]
      simp
    have hnodes : added.nodes.toList = pass.nodes.toList.modify parent (adopt [pass.nodes.size]) ++
        [⟨label, some parent, pass.childCount parent, #[]⟩] := by
      rw [← hadded]
      simp
    have hlength :
        (pass.nodes.toList.modify parent (adopt [pass.nodes.size])).length = pass.nodes.size := by
      simp
    have hcount : added.childCount pass.nodes.size = 0 := by
      unfold Pass.childCount
      rw [← Array.getElem?_toList, hnodes, List.getElem?_append_right (Nat.le_of_eq hlength),
        hlength, Nat.sub_self]
      rfl
    -- The children go below the new node, which is the last one so far.
    have hbelow : pass.nodes.size :: parent :: rest <:+ added.path := by
      rewrite [← hadded]
      exact List.suffix_refl _
    have hinside : pass.nodes.size < added.nodes.size := by
      rw [hsize]
      exact Nat.lt_succ_self _
    have hchildren := foldl_walkAll hbelow hinside children
    refine ⟨?_, (List.suffix_cons _ _).trans hchildren.under⟩
    have hlast := modify_concat_length (adopt (childIds (pass.nodes.size + 1) children))
      -- All children become those of the new node, which is the last one so far.
      (pass.nodes.toList.modify parent (adopt [pass.nodes.size]))
      ⟨label, some parent, pass.childCount parent, #[]⟩
    rw [hlength] at hlast
    rw [List.length_cons] at hchildren
    rw [hchildren.nodes, hcount, hsize, hnodes, hlast, layout, List.append_assoc]
    simp [adopt]

/-- The walks of several trees below a path add their layouts, one after the other. -/
theorem foldl_walkAll {pass : Pass} {parent : NodeId} {rest : List NodeId}
    (under : parent :: rest <:+ pass.path) (inside : parent < pass.nodes.size) :
    (nodes : List Node) → pass.Grows parent rest (childIds pass.nodes.size nodes)
      (layoutAll parent (pass.childCount parent) pass.nodes.size nodes)
      ((Node.walkAll (rest.length + 1) nodes).foldl Pass.add pass)
  | [] => by
    refine ⟨?_, under⟩
    rw [childIds, adopt_nil, List.modify_id, layoutAll, List.append_nil]
    rfl
  | node :: more => by
    -- The first tree goes below the parent, and the others after it.
    have hfirst := foldl_walk under node
    rw [Node.walkAll, List.foldl_append]
    generalize (node.walk (rest.length + 1)).foldl Pass.add pass = next at hfirst ⊢
    have hsize : next.nodes.size = pass.nodes.size + node.size := by
      rw [hfirst.size, length_layout]
    have hcount : next.childCount parent = pass.childCount parent + 1 :=
      hfirst.childCount inside
    have hlater : parent < next.nodes.size := by
      rw [hsize]
      exact Nat.lt_add_right _ inside
    have hothers := foldl_walkAll hfirst.under hlater more
    refine ⟨?_, hothers.under⟩
    -- The node that gets further children is among those from before.
    have hinside : parent <
        (pass.nodes.toList.modify parent (adopt [pass.nodes.size])).length := by
      rw [List.length_modify]
      exact inside
    rw [hothers.nodes, hcount, hsize, hfirst.nodes, modify_append_of_lt _ _ hinside,
      List.modify_modify_eq, adopt_adopt, List.append_assoc, childIds, layoutAll]
    rfl

end

/-- The pass lays a tree out as the recursion does. -/
theorem ofNode_eq_layout (root : Node) : ofNode root = (layout none 0 0 root).toArray := by
  cases root with
  | mk label children =>
    -- The root is added below no path at all, and its children below the root.
    let started : Pass := ⟨#[⟨label, none, 0, #[]⟩], [0]⟩
    have hunder : [0] <:+ started.path := List.suffix_refl _
    have hgrows := foldl_walkAll hunder Nat.zero_lt_one children
    apply Array.toList_inj.1
    unfold ofNode
    rw [Node.walk, List.foldl_cons]
    refine hgrows.nodes.trans ?_
    rw [layout]
    simp [started, adopt, Pass.childCount]

/-! ## What stands where -/

/-- At a name stands a tree: the label of its root, and below it, in order, the names at which its
    children stand. -/
inductive Stands (nodes : Array ArenaNode) : NodeId → Node → Prop where
  | mk {id : NodeId} {node : ArenaNode} {label : Label} {children : List Node}
      (found : nodes[id]? = some node) (same : node.label = label)
      (count : node.children.toList.length = children.length)
      (below : ∀ (i : Nat) (childId : NodeId) (child : Node),
        node.children.toList[i]? = some childId → children[i]? = some child →
          Stands nodes childId child) : Stands nodes id (.mk label children)

/-- What stands at a name, in the words of the tree. -/
theorem Stands.found {nodes : Array ArenaNode} {id : NodeId} {tree : Node}
    (h : Stands nodes id tree) :
    ∃ node, nodes[id]? = some node ∧ node.label = tree.label ∧
      node.children.toList.length = tree.children.length ∧
      ∀ (i : Nat) (childId : NodeId) (child : Node), node.children.toList[i]? = some childId →
        tree.children[i]? = some child → Stands nodes childId child := by
  cases h with
  | mk found same count below => exact ⟨_, found, same, count, below⟩

mutual

/-- A tree stands where its layout begins. -/
theorem stands_of_layout {nodes : Array ArenaNode} {parent : Option NodeId} {index : Nat}
    -- What the layout says of the root.
    {before after : List ArenaNode} : (node : Node) →
      nodes.toList = before ++ layout parent index before.length node ++ after →
        Stands nodes before.length node
  | .mk label children, h => by
    rw [layout] at h
    have hfound : nodes[before.length]? = some ⟨label, parent, index,
        (childIds (before.length + 1) children).toArray⟩ := by
      rw [← Array.getElem?_toList, h, List.append_assoc,
        List.getElem?_append_right (Nat.le_refl _), Nat.sub_self]
      rfl
    refine .mk hfound rfl (length_childIds _ _) ?_
    -- A child stands where its own layout begins, behind the root.
    intro i childId child hid hchild
    generalize (⟨label, parent, index, (childIds (before.length + 1) children).toArray⟩ :
      ArenaNode) = root at h
    have hlength : (before ++ [root]).length = before.length + 1 := by simp
    have hbelow : nodes.toList = (before ++ [root]) ++
        layoutAll before.length 0 (before ++ [root]).length children ++ after := by
      rw [h, hlength]
      simp
    refine stands_of_layoutAll children hbelow i childId child ?_ hchild
    rw [hlength]
    exact hid

/-- Several trees stand where their layouts begin. -/
theorem stands_of_layoutAll {nodes : Array ArenaNode} {parent : NodeId} {index : Nat}
    {before after : List ArenaNode} : (trees : List Node) →
      nodes.toList = before ++ layoutAll parent index before.length trees ++ after →
        ∀ (i : Nat) (id : NodeId) (tree : Node), (childIds before.length trees)[i]? = some id →
          trees[i]? = some tree → Stands nodes id tree
  | [], _, i, id, tree, hid, htree => nomatch htree
  | first :: rest, h, 0, id, tree, hid, htree => by
    rw [layoutAll, ← List.append_assoc, List.append_assoc _ _ after] at h
    obtain rfl := Option.some.inj hid
    -- The first tree stands at the beginning.
    obtain rfl := Option.some.inj htree
    exact stands_of_layout first h
  | first :: rest, h, i + 1, id, tree, hid, htree => by
    rw [layoutAll, ← List.append_assoc] at h
    -- The other trees stand behind the first one.
    have hlength : (before ++ layout (some parent) index before.length first).length =
        before.length + first.size := by
      rw [List.length_append, length_layout]
    rw [← hlength] at h
    refine stands_of_layoutAll rest h i id tree ?_ htree
    rw [hlength]
    exact hid

end

/-- The root of a tree stands at the root of its arena. -/
theorem stands_root (root : Node) : Stands (ofNode root) 0 root := by
  have hlayout : (ofNode root).toList = [] ++ layout none 0 ([] : List ArenaNode).length root ++ [] := by
    rw [ofNode_eq_layout]
    simp
  exact stands_of_layout root hlayout

/-- The arena of a tree has one node for each of the tree's. -/
theorem size_ofNode (root : Node) : (ofNode root).size = root.size := by
  rw [ofNode_eq_layout, List.size_toArray, length_layout]

end Arena

end LiveTree
