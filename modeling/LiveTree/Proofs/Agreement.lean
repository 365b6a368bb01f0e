import LiveTree.Proofs.Layout
import LiveTree.Tree.Compare

/-!
# When trees agree

Two ordered trees agree if corresponding nodes, those that the same path of child positions leads to,
have the same bytes, the same kind and the same number of children.  Trees are compared on their
arenas, with a stack of pairs that are still to be looked at; this file shows that the comparison
finds a difference if and only if the trees do not agree.

## Key results

- `SyntaxTree.firstDifference?_eq`: the comparison on arenas does what a recursion on the trees does
- `Node.firstDifference?_eq_none_iff`: the recursion finds nothing if and only if the trees agree
- `SyntaxTree.firstDifference?_eq_none_iff`: both together
-/

namespace LiveTree

namespace Node

/-- The node that a path of child positions leads to. -/
def at? (node : Node) : List Nat → Option Node
  | [] => some node
  | index :: rest => (node.children[index]?).bind fun child => child.at? rest

/-- Two nodes have the same bytes, the same kind and the same number of children. -/
structure Alike (a b : Node) : Prop where
  span : a.label.extent.span = b.label.extent.span
  kind : a.label.kind = b.label.kind
  count : a.children.length = b.children.length

/-- All corresponding nodes of two trees are alike. -/
def Agrees (a b : Node) : Prop :=
  ∀ path x y, a.at? path = some x → b.at? path = some y → x.Alike y

/-- Every tree agrees with itself. -/
theorem Agrees.refl (node : Node) : node.Agrees node := by
  intro path x y hx hy
  obtain rfl := Option.some.inj (hx.symm.trans hy)
  exact ⟨rfl, rfl, rfl⟩

/-- Trees agree if their roots are alike and their children agree, one by one. -/
theorem agrees_iff {a b : Node} :
    a.Agrees b ↔ a.Alike b ∧
      ∀ (i : Nat) (x y : Node), a.children[i]? = some x → b.children[i]? = some y →
        x.Agrees y := by
  constructor
  -- The roots are the nodes at the empty path, and a child has the paths that start with its
  -- position.
  · intro h
    refine ⟨h [] a b rfl rfl, ?_⟩
    intro i x y hx hy path u v hu hv
    refine h (i :: path) u v ?_ ?_
    · rw [at?, hx]; exact hu
    · rw [at?, hy]; exact hv
  · rintro ⟨hroot, hchildren⟩ path u v hu hv
    -- A path ends at the root, or goes on below a child.
    cases path with
    | nil =>
      obtain rfl := Option.some.inj hu
      obtain rfl := Option.some.inj hv
      exact hroot
    | cons i rest =>
      obtain ⟨x, hx, hu⟩ := Option.bind_eq_some_iff.1 hu
      obtain ⟨y, hy, hv⟩ := Option.bind_eq_some_iff.1 hv
      exact hchildren i x y hx hy rest u v hu hv

/-- The first of span, kind and number of children in which the roots of two trees differ. -/
def difference? (expected actual : Node) : Option Difference :=
  if !expected.label.extent.sameSpan actual.label.extent then
    some (.span expected.label.extent.span actual.label.extent.span)
  else if expected.label.kind ≠ actual.label.kind then
    some (.kind expected.label.kind actual.label.kind)
  else if expected.children.length ≠ actual.children.length then
    some (.childCount expected.label.kind expected.children.length actual.children.length)
  else none

mutual

/-- The first disagreement of two trees in pre-order; `path` leads to their roots, innermost position
    first. -/
def firstDifference? (path : List Nat) : Node → Node → Option Mismatch
  | .mk label children, actual =>
    match (mk label children).difference? actual with
    | some difference => some ⟨path.reverse, difference⟩
    | none => firstDifferenceAll? path 0 children actual.children

/-- The first disagreement of corresponding children, from the position `index` on. -/
def firstDifferenceAll? (path : List Nat) (index : Nat) :
    List Node → List Node → Option Mismatch
  | expected :: others, actual :: rest =>
    (firstDifference? (index :: path) expected actual).or
      (firstDifferenceAll? path (index + 1) others rest)
  | _, _ => none

end

/-- The recursion tells the difference of the roots, or else goes on with their children. -/
theorem firstDifference?_def (path : List Nat) (expected actual : Node) :
    firstDifference? path expected actual =
      match expected.difference? actual with
      | some difference => some ⟨path.reverse, difference⟩
      | none => firstDifferenceAll? path 0 expected.children actual.children := by
  cases expected with
  | mk label children =>
    rw [firstDifference?]
    rfl

end Node

/-- Two extents have the same span if they start and end at the same bytes. -/
theorem Extent.sameSpan_iff {a b : Extent} : a.sameSpan b = true ↔ a.span = b.span := by
  unfold sameSpan spans span
  simp

namespace Node

/-- No difference is told of two nodes that are alike, and of no others. -/
theorem difference?_eq_none_iff {expected actual : Node} :
    expected.difference? actual = none ↔ expected.Alike actual := by
  unfold difference?
  constructor
  · intro h
    -- The three tests are made one after the other.
    split at h
    · exact nomatch h
    · next hspan =>
      split at h
      · exact nomatch h
      · next hkind =>
        split at h
        · exact nomatch h
        · next hcount =>
          refine ⟨Extent.sameSpan_iff.1 (by simpa using hspan), ?_, ?_⟩
          · simpa using hkind
          · simpa using hcount
  · intro h
    rw [if_neg (by simp [Extent.sameSpan_iff.2 h.span]), if_neg (by simp [h.kind]),
      if_neg (by simp [h.count])]

mutual

/-- The recursion finds nothing if and only if the trees agree. -/
theorem firstDifference?_eq_none_iff (path : List Nat) :
    (expected actual : Node) →
      (firstDifference? path expected actual = none ↔ expected.Agrees actual)
  | .mk label children, actual => by
    rw [firstDifference?, agrees_iff, ← difference?_eq_none_iff]
    cases (mk label children).difference? actual with
    | some difference => simp
    | none =>
      dsimp only
      rw [firstDifferenceAll?_eq_none_iff path 0 children actual.children]
      exact ⟨fun h => ⟨rfl, h⟩, fun h => h.2⟩

/-- For lists of children, this holds of all positions that both lists have. -/
theorem firstDifferenceAll?_eq_none_iff (path : List Nat) (index : Nat) :
    (expected actual : List Node) →
      (firstDifferenceAll? path index expected actual = none ↔
        ∀ (i : Nat) (x y : Node), expected[i]? = some x → actual[i]? = some y → x.Agrees y)
  | [], _ => by
    rw [firstDifferenceAll?.eq_def]
    simp
  | _ :: _, [] => by
    rw [firstDifferenceAll?.eq_def]
    simp
  | first :: others, second :: rest => by
    rw [firstDifferenceAll?, Option.or_eq_none_iff,
      firstDifference?_eq_none_iff (index :: path) first second,
      firstDifferenceAll?_eq_none_iff path (index + 1) others rest]
    constructor
    -- The first pair is at position zero, and the others are one further.
    · rintro ⟨hfirst, hothers⟩ i x y hx hy
      cases i with
      | zero =>
        obtain rfl := Option.some.inj hx
        obtain rfl := Option.some.inj hy
        exact hfirst
      | succ i => exact hothers i x y hx hy
    · intro h
      exact ⟨h 0 first second rfl rfl, fun i x y hx hy => h (i + 1) x y hx hy⟩

end

end Node

namespace SyntaxTree

/-! ## The stack -/

/-- A pair on the stack and the trees that stand there. -/
structure Item where
  pair : Pair
  expected : Node
  actual : Node

/-- The trees of an item stand where its pair says. -/
structure Item.Stands (expected actual : SyntaxTree) (item : Item) : Prop where
  left : Arena.Stands expected.nodes item.pair.expected item.expected
  right : Arena.Stands actual.nodes item.pair.actual item.actual

/-- The first disagreement of the trees of an item. -/
def Item.firstDifference? (item : Item) : Option Mismatch :=
  item.expected.firstDifference? item.pair.path item.actual

/-- The node with a name is the one in its place in the arena. -/
theorem node_eq {tree : SyntaxTree} {id : NodeId} {node : ArenaNode}
    (h : tree.nodes[id]? = some node) : tree.node id = node := by
  unfold SyntaxTree.node SyntaxTree.node?
  rw [h]
  rfl

/-- Arena nodes differ as the trees do that stand there. -/
theorem Item.Stands.difference?_eq {expected actual : SyntaxTree} {item : Item}
    (h : item.Stands expected actual) :
    (expected.node item.pair.expected).difference? (actual.node item.pair.actual) =
      item.expected.difference? item.actual := by
  obtain ⟨left, hleft, hleftLabel, hleftCount, -⟩ := h.left.found
  obtain ⟨right, hright, hrightLabel, hrightCount, -⟩ := h.right.found
  rw [node_eq hleft, node_eq hright]
  unfold ArenaNode.difference? Node.difference?
  rw [hleftLabel, hrightLabel, ← hleftCount, ← hrightCount]
  rfl

/-- The pairs of corresponding children, from the position `index` on, as items. -/
theorem exists_items {expected actual : SyntaxTree} {xs ys : List Node} {es as : List NodeId}
    (path : List Nat) (index : Nat) (hes : es.length = xs.length)
    (has : as.length = ys.length) (hsame : xs.length = ys.length)
    (left : ∀ (i : Nat) (id : NodeId) (x : Node), es[i]? = some id → xs[i]? = some x →
      Arena.Stands expected.nodes id x)
    (right : ∀ (i : Nat) (id : NodeId) (y : Node), as[i]? = some id → ys[i]? = some y →
      Arena.Stands actual.nodes id y) :
    ∃ items : List Item,
      items.map (·.pair) = (es.zip as).mapIdx (fun i ids => ⟨ids.1, ids.2, (index + i) :: path⟩) ∧
      (∀ item ∈ items, item.Stands expected actual) ∧
      items.map (·.expected) = xs ∧
      items.findSome? (·.firstDifference?) = Node.firstDifferenceAll? path index xs ys := by
  -- By induction on the children of the one node, along with those of the other and both lists of
  -- names.
  induction xs generalizing ys es as index with
  | nil =>
    obtain rfl := List.eq_nil_of_length_eq_zero hes
    refine ⟨[], rfl, ?_, rfl, ?_⟩
    · intro item hitem
      exact nomatch hitem
    · rw [Node.firstDifferenceAll?.eq_def]
      rfl
  | cons x xs ih =>
    obtain ⟨y, ys, rfl⟩ := List.exists_cons_of_length_eq_add_one hsame.symm
    obtain ⟨e, es, rfl⟩ := List.exists_cons_of_length_eq_add_one hes
    obtain ⟨a, as, rfl⟩ := List.exists_cons_of_length_eq_add_one has
    simp only [List.length_cons, Nat.add_right_cancel_iff] at hes has hsame
    obtain ⟨items, hpairs, hstand, hexpected, hfirst⟩ := ih (index + 1) hes has hsame
      (fun i id x hid hx => left (i + 1) id x hid hx)
      (fun i id y hid hy => right (i + 1) id y hid hy)
    refine ⟨⟨⟨e, a, index :: path⟩, x, y⟩ :: items, ?_, ?_, ?_, ?_⟩
    · rw [List.map_cons, hpairs, List.zip_cons_cons, List.mapIdx_cons]
      simp only [Nat.add_zero, Nat.add_assoc, Nat.add_comm 1]
    · intro item hitem
      rcases List.mem_cons.1 hitem with rfl | hitem
      · exact ⟨left 0 e x rfl rfl, right 0 a y rfl rfl⟩
      · exact hstand item hitem
    · rw [List.map_cons, hexpected]
    · rw [List.findSome?_cons, hfirst, Node.firstDifferenceAll?]
      unfold Item.firstDifference?
      cases Node.firstDifference? (index :: path) x y with
      | none => rfl
      | some mismatch => rfl

/-- With steps for all expected nodes that stand on the stack, the comparison finds the first
    disagreement of its items, one after the other. -/
theorem firstDifferenceFrom_eq {expected actual : SyntaxTree} (steps : Nat) (items : List Item)
    (stand : ∀ item ∈ items, item.Stands expected actual)
    (enough : Node.sizeAll (items.map (·.expected)) ≤ steps) :
    firstDifferenceFrom expected actual steps (items.map (·.pair)) =
      items.findSome? (·.firstDifference?) := by
  -- By induction on the steps: with each of them a pair leaves the stack and those below it come
  -- onto it.
  induction steps generalizing items with
  | zero =>
    cases items with
    | nil => rfl
    | cons item rest =>
      have hpos := item.expected.size_pos
      rw [List.map_cons, Node.sizeAll] at enough
      omega
  | succ steps ih =>
    cases items with
    | nil => rfl
    | cons item rest =>
      have hitem := stand item List.mem_cons_self
      have hrest : ∀ other ∈ rest, other.Stands expected actual :=
        fun other hother => stand other (List.mem_cons_of_mem _ hother)
      rw [List.map_cons, firstDifferenceFrom, hitem.difference?_eq, List.findSome?_cons]
      unfold Item.firstDifference?
      rw [Node.firstDifference?_def]
      cases hroot : item.expected.difference? item.actual with
      | some difference => rfl
      | none =>
        obtain ⟨left, hleft, -, hleftCount, hleftBelow⟩ := hitem.left.found
        obtain ⟨right, hright, -, hrightCount, hrightBelow⟩ := hitem.right.found
        have hcount := (Node.difference?_eq_none_iff.1 hroot).count
        obtain ⟨below, hpairs, hstand, hexpected, hfirst⟩ := exists_items item.pair.path 0
          hleftCount hrightCount hcount hleftBelow hrightBelow
        have hbelow : item.pair.below (expected.children item.pair.expected)
            (actual.children item.pair.actual) = below.map (·.pair) := by
          unfold Pair.below children
          rw [node_eq hleft, node_eq hright, hpairs]
          simp only [Nat.zero_add]
        -- The children take the place of their parent on the stack.
        have htotal : Node.sizeAll ((below ++ rest).map (·.expected)) ≤ steps := by
          have hparent : item.expected.size = Node.sizeAll item.expected.children + 1 := by
            cases item.expected with
            | mk label children => rw [Node.size]; rfl
          rw [List.map_cons, Node.sizeAll, hparent] at enough
          rw [List.map_append, Node.sizeAll_append, hexpected]
          omega
        dsimp only
        rw [hbelow, ← List.map_append, ih (below ++ rest) ?_ htotal, List.findSome?_append, hfirst]
        · cases Node.firstDifferenceAll? item.pair.path 0 item.expected.children
            item.actual.children with
          | none => rfl
          | some mismatch => rfl
        · intro other hother
          rcases List.mem_append.1 hother with hother | hother
          · exact hstand other hother
          · exact hrest other hother

/-- The comparison on arenas does what the recursion on the trees does. -/
theorem firstDifference?_eq (expected actual : SyntaxTree) :
    expected.firstDifference? actual =
      expected.source.root.firstDifference? [] actual.source.root := by
  have hstands : ∀ item ∈ [(⟨⟨root, root, []⟩, expected.source.root, actual.source.root⟩ : Item)],
      item.Stands expected actual := by
    intro item hitem
    -- At first the pair of the roots is alone on the stack.
    obtain rfl := List.mem_singleton.1 hitem
    refine ⟨?_, ?_⟩
    · rw [expected.nodes_eq]; exact Arena.stands_root _
    · rw [actual.nodes_eq]; exact Arena.stands_root _
  have hsize : expected.size = expected.source.root.size := by
    unfold SyntaxTree.size
    rw [expected.nodes_eq, Arena.size_ofNode]
  have hcompare := firstDifferenceFrom_eq expected.size _ hstands
    (by simp [hsize, Node.sizeAll])
  unfold firstDifference?
  refine hcompare.trans ?_
  rw [List.findSome?_singleton]
  rfl

/-- A comparison finds nothing if and only if the trees agree. -/
theorem firstDifference?_eq_none_iff {expected actual : SyntaxTree} :
    expected.firstDifference? actual = none ↔
      expected.source.root.Agrees actual.source.root := by
  rw [firstDifference?_eq, Node.firstDifference?_eq_none_iff]

end SyntaxTree

end LiveTree
