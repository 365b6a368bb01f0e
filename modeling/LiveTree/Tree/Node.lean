import LiveTree.Extent

/-!
# Ordered syntax trees

`Node` is the ordered tree that a parser answers with.  Its pre-order walk lists every node with its
depth; `Node.ofWalk?` reads a tree back from such a list, and `ofWalk?_walk` says that nothing is
lost on the way.
-/

namespace LiveTree

/-- What a parser says about one node. -/
structure Label where
  kind : String
  named : Bool
  isError : Bool
  isMissing : Bool
  extent : Extent
  deriving DecidableEq, Repr, Inhabited

/-- An ordered tree of labels. -/
inductive Node where
  | mk (label : Label) (children : List Node)
  deriving Inhabited, Repr

namespace Node

/-- The label of the root. -/
def label : Node → Label
  | mk label _ => label

/-- The subtrees below the root, in order. -/
def children : Node → List Node
  | mk _ children => children

mutual

/-- All nodes in pre-order, each with its depth; the root has depth `depth`. -/
def walk (depth : Nat) : Node → List (Nat × Label)
  | mk label children => (depth, label) :: walkAll (depth + 1) children

/-- The walks of several trees, one after the other. -/
def walkAll (depth : Nat) : List Node → List (Nat × Label)
  | [] => []
  | node :: rest => node.walk depth ++ walkAll depth rest

end

/-- Puts one node of a walk in front of the trees read from what follows it: it takes those of them
    that stand one level below it as its children. -/
def graft (step : Nat × Label) (trees : List (Nat × Node)) : List (Nat × Node) :=
  (step.1, mk step.2 ((trees.takeWhile (·.1 == step.1 + 1)).map (·.2))) ::
    trees.dropWhile (·.1 == step.1 + 1)

/-- Reads a tree from its pre-order walk; `none` when the depths do not form a single tree. -/
def ofWalk? (steps : List (Nat × Label)) : Option Node :=
  match steps.foldr graft [] with
  | [(0, root)] => some root
  | _ => none

/-- Trees that start above a given depth are not taken by a node at that depth. -/
theorem graft_children (depth : Nat) (label : Label) (children : List Node)
    (trees : List (Nat × Node)) (h : ∀ tree ∈ trees.head?, tree.1 ≤ depth) :
    graft (depth, label) (children.map (Prod.mk (depth + 1)) ++ trees) =
      (depth, mk label children) :: trees := by
  have hd : trees.takeWhile (·.1 == depth + 1) = [] ∧
      trees.dropWhile (·.1 == depth + 1) = trees := by
    cases trees with
    -- The trees that follow are at this depth or above, so none of them is taken.
    | nil => simp
    | cons tree rest =>
      have : tree.1 ≤ depth := h tree (by simp)
      have : ¬ tree.1 = depth + 1 := by omega
      simp [this]
  rw [graft, List.takeWhile_append_of_pos (by simp), List.dropWhile_append_of_pos (by simp), hd.1,
    hd.2, List.append_nil, List.map_map]
  simp [Function.comp_def]

mutual

/-- Reading a walk backwards puts its tree in front of the trees that were read before. -/
theorem foldr_graft_walk (depth : Nat) (trees : List (Nat × Node))
    (h : ∀ tree ∈ trees.head?, tree.1 ≤ depth) :
    (node : Node) → (node.walk depth).foldr graft trees = (depth, node) :: trees
  | mk label children => by
    rw [walk, List.foldr_cons, foldr_graft_walkAll (depth + 1) trees
      (fun tree ht => Nat.le_succ_of_le (h tree ht)) children, graft_children _ _ _ _ h]

/-- The same holds of the walks of several trees. -/
theorem foldr_graft_walkAll (depth : Nat) (trees : List (Nat × Node))
    (h : ∀ tree ∈ trees.head?, tree.1 ≤ depth) :
    (nodes : List Node) →
      (walkAll depth nodes).foldr graft trees = nodes.map (Prod.mk depth) ++ trees
  | [] => by simp [walkAll]
  | node :: rest => by
    rw [walkAll, List.foldr_append, foldr_graft_walkAll depth trees h rest,
      foldr_graft_walk depth _ _ node]
    · simp
    -- What follows the first tree is another tree at its depth, or what was there before.
    · cases rest with
      | nil => simpa using h
      | cons => simp

end

/-- A tree is read back from its walk. -/
theorem ofWalk?_walk (node : Node) : ofWalk? (node.walk 0) = some node := by
  simp [ofWalk?, foldr_graft_walk 0 [] (by simp) node]

/-- Whether the parser marked some node as erroneous or missing. -/
def hasError (root : Node) : Bool :=
  (root.walk 0).any fun step => step.2.isError || step.2.isMissing

end Node

end LiveTree
