import LiveTree.Proofs.Copies

/-!
# Parents and ancestors

A node of a tree is listed among the children of its parent, at its own place, and under no other node.
Names grow from parents to children.  So the way up from a node ends, and it ends at the root: that is
how `ancestors` is found with as many steps as the node's name, and how facts about ancestors are shown.

Parsers answer with trees in which nodes lie inside their parents and siblings follow one another.  No
tree has to be like that; the properties that need it say so.

## Key results

- `SyntaxTree.mem_children_iff`: children and parents are links in both directions
- `SyntaxTree.upward_induction`: what holds without a parent and is passed on to children holds everywhere
- `SyntaxTree.ancestors_of_parent`, `SyntaxTree.ancestors_suffix`: a node in front of the ancestors of its
  parent, and the ancestors of an ancestor
- `SyntaxTree.Nested`, `SyntaxTree.InOrder`: nodes inside their parents, and siblings one after the other
-/

namespace LiveTree

/-- The names that a node lists as its children are in the arena. -/
theorem Arena.lt_size_of_child {root : Node} {id child : NodeId} {entry : ArenaNode} {k : Nat}
    (found : (ofNode root)[id]? = some entry) (h : entry.children[k]? = some child) :
    child < (ofNode root).size := by
  -- What the node lists as a child is at the end of a path, and there are as many paths as nodes.
  obtain ⟨path, up, index, node, hplaced, -⟩ := placed_of_entry found
  have hpath := (child_iff_path hplaced.named found k child).1 h
  obtain ⟨hlt, -⟩ := List.getElem?_eq_some_iff.1 hpath
  rw [size_ofNode, ← Node.length_paths]
  exact hlt

namespace SyntaxTree

/-! ## Links -/

section

variable {tree : SyntaxTree} {id parent child : NodeId}

/-- A name that is not in the arena stands for a node without links. -/
theorem node_of_size_le (h : tree.size ≤ id) : tree.node id = default := by
  unfold SyntaxTree.node node?
  rw [Array.getElem?_eq_none h]
  rfl

/-- What the arena holds for a name of the tree. -/
theorem exists_entry (inside : id < tree.size) :
    ∃ entry, (Arena.ofNode tree.source.root)[id]? = some entry ∧ tree.node id = entry := by
  have hentry : tree.nodes[id]? = some tree.nodes[id] := Array.getElem?_eq_getElem inside
  refine ⟨tree.nodes[id], ?_, node_eq hentry⟩
  rw [← tree.nodes_eq]
  exact hentry

/-- What has a parent is in the arena. -/
theorem lt_size_of_parent (h : tree.parent? id = some parent) : id < tree.size := by
  apply Nat.lt_of_not_le
  intro outside
  unfold parent? at h
  rw [node_of_size_le outside] at h
  exact nomatch h

/-- A node stands among the children of its parent, at its own place. -/
theorem children_parent (h : tree.parent? id = some parent) :
    tree.children parent = (tree.children parent).take (tree.node id).index ++
      id :: (tree.children parent).drop ((tree.node id).index + 1) := by
  obtain ⟨entry, hnodes, hnode⟩ := exists_entry (lt_size_of_parent h)
  have hparent : entry.parent = some parent := by
    rw [← hnode]
    exact h
  -- The arena was laid out from a tree, so the parent lists the node where its index says.
  obtain ⟨above, habove, hid⟩ :=
    (Arena.parent_iff_child hnodes parent entry.index).1 ⟨hparent, rfl⟩
  rw [← tree.nodes_eq] at habove
  have hchildren : tree.children parent = above.children.toList := by
    unfold children
    rw [node_eq habove]
  rw [← Array.getElem?_toList] at hid
  obtain ⟨hlt, hget⟩ := List.getElem?_eq_some_iff.1 hid
  rw [hchildren, hnode, ← hget, ← List.drop_eq_getElem_cons hlt, List.take_append_drop]

/-- The children of a node are the nodes that have it for a parent. -/
theorem mem_children_iff : child ∈ tree.children parent ↔ tree.parent? child = some parent := by
  constructor
  · intro h
    -- A name outside the arena has no children.
    have inside : parent < tree.size := by
      apply Nat.lt_of_not_le
      intro outside
      unfold children at h
      rw [node_of_size_le outside] at h
      exact nomatch h
    obtain ⟨above, habove, hnode⟩ := exists_entry inside
    unfold children at h
    rw [hnode] at h
    obtain ⟨k, hk⟩ := List.getElem?_of_mem h
    rw [Array.getElem?_toList] at hk
    -- A name that is listed is in the arena, and its entry leads back.
    have below : child < tree.size := by
      have hlt := Arena.lt_size_of_child habove hk
      rw [← tree.nodes_eq] at hlt
      exact hlt
    obtain ⟨entry, hentry, hchild⟩ := exists_entry below
    unfold parent?
    rw [hchild]
    exact ((Arena.parent_iff_child hentry parent k).2 ⟨above, habove, hk⟩).1
  · intro h
    rw [children_parent h]
    exact List.mem_append_right _ List.mem_cons_self

/-- Parents come before their children. -/
theorem parent_lt (h : tree.parent? id = some parent) : parent < id := by
  obtain ⟨entry, hentry, hnode⟩ := exists_entry (lt_size_of_parent h)
  unfold parent? at h
  rw [hnode] at h
  exact Arena.parent_lt hentry h

/-- Of the nodes of a tree, the root alone has no parent. -/
theorem parent?_eq_none_iff (inside : id < tree.size) : tree.parent? id = none ↔ id = root := by
  obtain ⟨entry, hentry, hnode⟩ := exists_entry inside
  unfold parent?
  rw [hnode]
  exact Arena.parent_eq_none_iff hentry

/-- Every tree has a root. -/
theorem size_pos (tree : SyntaxTree) : root < tree.size := by
  unfold size
  rw [tree.nodes_eq, Arena.size_ofNode]
  exact tree.source.root.size_pos

/-- The root has no parent. -/
theorem parent?_root (tree : SyntaxTree) : tree.parent? root = none :=
  (parent?_eq_none_iff tree.size_pos).2 rfl

end

/-! ## The way up -/

section

variable {tree : SyntaxTree} {id parent node : NodeId}

/-- What holds of nodes without a parent and passes from a parent to its children holds of all nodes. -/
theorem upward_induction (tree : SyntaxTree) {motive : NodeId → Prop}
    (top : ∀ id, tree.parent? id = none → motive id)
    (step : ∀ id parent, tree.parent? id = some parent → motive parent → motive id) (id : NodeId) :
    motive id := by
  -- Parents have smaller names, so strong induction on the name comes down to the two cases.
  induction id using Nat.strongRecOn with
  | ind id ih =>
    cases hparent : tree.parent? id with
    | none => exact top id hparent
    | some parent => exact step id parent hparent (ih parent (parent_lt hparent))

/-- Without a parent the way up ends at once. -/
theorem climb_of_none (h : tree.parent? id = none) (steps : Nat) : tree.climb steps id = [id] := by
  cases steps with
  | zero => rfl
  | succ steps => rw [climb, h]

/-- With a parent the way up goes on from there. -/
theorem climb_of_parent (h : tree.parent? id = some parent) (steps : Nat) :
    tree.climb (steps + 1) id = id :: tree.climb steps parent := by
  rw [climb, h]

/-- One more step finds no more ancestors than as many steps as the name says. -/
theorem climb_succ {steps : Nat} (h : id ≤ steps) :
    tree.climb (steps + 1) id = tree.climb steps id := by
  induction steps generalizing id with
  | zero =>
    obtain rfl : id = root := Nat.le_zero.1 h
    rw [climb_of_none tree.parent?_root, climb_of_none tree.parent?_root]
  | succ steps ih =>
    cases hparent : tree.parent? id with
    | none => rw [climb_of_none hparent, climb_of_none hparent]
    | some parent =>
      -- The parent has a smaller name, so one step less is enough for it.
      have hle : parent ≤ steps := Nat.le_of_lt_succ (Nat.lt_of_lt_of_le (parent_lt hparent) h)
      rw [climb_of_parent hparent, climb_of_parent hparent, ih hle]

/-- Further steps find no further ancestors. -/
theorem climb_of_le {steps : Nat} (h : id ≤ steps) : tree.climb steps id = tree.ancestors id := by
  induction h with
  | refl => rfl
  | step h ih => rw [climb_succ h, ih]

/-- A node without a parent is its only ancestor. -/
theorem ancestors_of_none (h : tree.parent? id = none) : tree.ancestors id = [id] :=
  climb_of_none h id

/-- A node comes first among its ancestors, and those of its parent follow. -/
theorem ancestors_of_parent (h : tree.parent? id = some parent) :
    tree.ancestors id = id :: tree.ancestors parent := by
  rw [← climb_of_le (Nat.le_succ id), climb_of_parent h, climb_of_le (Nat.le_of_lt (parent_lt h))]

/-- Every node is among its own ancestors. -/
theorem mem_ancestors_self (tree : SyntaxTree) (id : NodeId) : id ∈ tree.ancestors id := by
  cases hparent : tree.parent? id with
  | none => rw [ancestors_of_none hparent]; exact List.mem_singleton_self id
  | some parent => rw [ancestors_of_parent hparent]; exact List.mem_cons_self

/-- The ancestors of an ancestor are the rest of the way up. -/
theorem ancestors_suffix (h : id ∈ tree.ancestors node) :
    tree.ancestors id <:+ tree.ancestors node := by
  -- By induction on the way up; an ancestor of the node is the node, or an ancestor of its parent.
  induction node using tree.upward_induction with
  | top node hparent =>
    rw [ancestors_of_none hparent] at h
    obtain rfl := List.mem_singleton.1 h
    exact List.suffix_refl _
  | step node parent hparent ih =>
    rw [ancestors_of_parent hparent] at h
    rcases List.mem_cons.1 h with rfl | h
    · exact List.suffix_refl _
    · rw [ancestors_of_parent hparent]
      exact (ih h).trans (List.suffix_cons _ _)

/-- The way up ends at the root. -/
theorem root_mem_ancestors (inside : id < tree.size) : root ∈ tree.ancestors id := by
  -- By induction on the way up, which ends at the only node without a parent.
  induction id using tree.upward_induction with
  | top id hparent =>
    rw [(parent?_eq_none_iff inside).1 hparent]
    exact tree.mem_ancestors_self root
  | step id parent hparent ih =>
    rw [ancestors_of_parent hparent]
    exact List.mem_cons_of_mem _ (ih (Nat.lt_trans (parent_lt hparent) inside))

/-- The way up comes to an ancestor through one of its children. -/
theorem exists_child_of_mem_ancestors (h : id ∈ tree.ancestors node) :
    id = node ∨ ∃ child ∈ tree.ancestors node, tree.parent? child = some id := by
  -- By induction on the way up, where the node itself is the child that leads to its parent.
  induction node using tree.upward_induction with
  | top node hparent =>
    rw [ancestors_of_none hparent] at h
    exact .inl (List.mem_singleton.1 h)
  | step node parent hparent ih =>
    rw [ancestors_of_parent hparent] at h ⊢
    rcases List.mem_cons.1 h with rfl | h
    · exact .inl rfl
    · right
      rcases ih h with rfl | ⟨child, hchild, hid⟩
      · exact ⟨node, List.mem_cons_self, hparent⟩
      · exact ⟨child, List.mem_cons_of_mem _ hchild, hid⟩

end

/-! ## Trees as parsers give them -/

/-- Every node lies inside its parent. -/
def Nested (tree : SyntaxTree) : Prop :=
  ∀ id < tree.size, ∀ child ∈ tree.children id,
    (tree.extent id).contains (tree.extent child) = true

/-- Of two children of a node the earlier one ends before the later one starts. -/
def InOrder (tree : SyntaxTree) : Prop :=
  ∀ id < tree.size, (tree.children id).Pairwise fun first second =>
    (tree.extent first).stop ≤ (tree.extent second).start

/-- Whether nodes lie inside their parents can be tried out. -/
instance (tree : SyntaxTree) : Decidable tree.Nested :=
  inferInstanceAs (Decidable (∀ id < tree.size, ∀ child ∈ tree.children id,
    (tree.extent id).contains (tree.extent child) = true))

/-- Whether siblings follow one another can be tried out. -/
instance (tree : SyntaxTree) : Decidable tree.InOrder :=
  inferInstanceAs (Decidable (∀ id < tree.size, (tree.children id).Pairwise fun first second =>
    (tree.extent first).stop ≤ (tree.extent second).start))

variable {tree : SyntaxTree}

/-- A node lies inside its parent, as its parent lists it. -/
theorem Nested.parent (nested : tree.Nested) {child parent : NodeId}
    (h : tree.parent? child = some parent) :
    (tree.extent parent).contains (tree.extent child) = true :=
  nested parent (Nat.lt_trans (parent_lt h) (lt_size_of_parent h)) child (mem_children_iff.2 h)

/-- Siblings follow one another, also below a name that is not in the arena, as it has none. -/
theorem InOrder.children (inOrder : tree.InOrder) (id : NodeId) :
    (tree.children id).Pairwise fun first second =>
      (tree.extent first).stop ≤ (tree.extent second).start := by
  by_cases inside : id < tree.size
  · exact inOrder id inside
  · unfold SyntaxTree.children
    rw [node_of_size_le (Nat.le_of_not_lt inside)]
    exact .nil

end SyntaxTree

end LiveTree
