import LiveTree.Proofs.Copies

/-!
# The first difference of two trees

A comparison sees the bytes, the kind and the children of each node, the `Shape` of a tree.  It finds
nothing if and only if the shapes are equal.  Otherwise it reports the first pair of corresponding nodes
that differ.  Pairs are known by their paths, and pre-order is the lexicographic order of the paths; so
at every path before the one that is reported either both trees have a node, and these are alike, or
neither has one.  There can only be one such path, and it is the same one in whichever order the trees
are compared.

## Key results

- `Node.shape_eq_iff`: trees agree if and only if they have the same shape
- `Node.FirstDiffers.unique`: there is at most one first difference
- `Node.firstDifference?_eq_some_iff`: the recursion on the trees finds it
- `SyntaxTree.comparison_finds_first`: so does the comparison of their arenas
-/

namespace LiveTree

/-- What a comparison sees of a tree: the bytes, the kind and the children of every node. -/
inductive Shape where
  | mk (span : Span) (kind : String) (children : List Shape)

namespace Node

mutual

/-- A tree without what a comparison does not see. -/
def shape : Node → Shape
  | mk label children => .mk label.extent.span label.kind (shapeAll children)

/-- The shapes of several trees. -/
def shapeAll : List Node → List Shape
  | [] => []
  | node :: rest => node.shape :: shapeAll rest

end

/-- The first of span, kind and number of children in which two nodes differ. -/
inductive Differs (expected actual : Node) : Difference → Prop where
  /-- The spans are compared first. -/
  | span (span : expected.label.extent.span ≠ actual.label.extent.span) :
      Differs expected actual (.span expected.label.extent.span actual.label.extent.span)
  /-- The kinds are compared where the spans are the same. -/
  | kind (span : expected.label.extent.span = actual.label.extent.span)
      (kind : expected.label.kind ≠ actual.label.kind) :
      Differs expected actual (.kind expected.label.kind actual.label.kind)
  /-- The numbers of children are compared last. -/
  | childCount (span : expected.label.extent.span = actual.label.extent.span)
      (kind : expected.label.kind = actual.label.kind)
      (count : expected.children.length ≠ actual.children.length) :
      Differs expected actual
        (.childCount expected.label.kind expected.children.length actual.children.length)

/-- Where two trees differ first in pre-order, and in what. -/
structure FirstDiffers (expected actual : Node) (mismatch : Mismatch) : Prop where
  /-- The path leads to a node in both trees, and these differ as is said. -/
  here : ∃ x y, expected.at? mismatch.path = some x ∧ actual.at? mismatch.path = some y ∧
    x.Differs y mismatch.difference
  /-- Before, both trees have the same nodes, and corresponding ones are alike. -/
  before : ∀ path < mismatch.path, Option.Rel Alike (expected.at? path) (actual.at? path)

/-! ## Shapes -/

mutual

/-- Trees agree if and only if they have the same shape. -/
theorem shape_eq_iff : (a b : Node) → (a.shape = b.shape ↔ a.Agrees b)
  | mk label children, mk label' children' => by
    rw [agrees_iff, shape, shape, Shape.mk.injEq, shapeAll_eq_iff children children']
    constructor
    · rintro ⟨hspan, hkind, hcount, hbelow⟩
      exact ⟨⟨hspan, hkind, hcount⟩, hbelow⟩
    · rintro ⟨⟨hspan, hkind, hcount⟩, hbelow⟩
      exact ⟨hspan, hkind, hcount, hbelow⟩

/-- Lists of trees have the same shapes if and only if they are as long as each other and agree in
    order. -/
theorem shapeAll_eq_iff : (as bs : List Node) →
    (shapeAll as = shapeAll bs ↔ as.length = bs.length ∧
      ∀ (i : Nat) (x y : Node), as[i]? = some x → bs[i]? = some y → x.Agrees y)
  | [], [] => by simp
  | [], _ :: _ => by simp [shapeAll]
  | _ :: _, [] => by simp [shapeAll]
  | a :: as, b :: bs => by
    rw [shapeAll, shapeAll, List.cons.injEq, shape_eq_iff a b, shapeAll_eq_iff as bs,
      List.length_cons, List.length_cons, Nat.add_right_cancel_iff]
    constructor
    · rintro ⟨hfirst, hcount, hothers⟩
      -- The first trees, or two of the others.
      refine ⟨hcount, fun i x y hx hy => ?_⟩
      cases i with
      | zero =>
        obtain rfl := Option.some.inj hx
        obtain rfl := Option.some.inj hy
        exact hfirst
      | succ i => exact hothers i x y hx hy
    · rintro ⟨hcount, hall⟩
      exact ⟨hall 0 a b rfl rfl, hcount, fun i x y hx hy => hall (i + 1) x y hx hy⟩

end

/-! ## Corresponding nodes -/

variable {a b : Node}

/-- Nodes with as many children have the same nodes below if corresponding children do. -/
theorem rel_at?_cons (count : a.children.length = b.children.length) {i : Nat} {path : List Nat}
    (below : ∀ x y, a.children[i]? = some x → b.children[i]? = some y →
      Option.Rel Alike (x.at? path) (y.at? path)) :
    Option.Rel Alike (a.at? (i :: path)) (b.at? (i :: path)) := by
  rw [at?, at?]
  cases ha : a.children[i]? with
  -- There is no child at that place in one tree, so there is none in the other.
  | none =>
    rw [List.getElem?_eq_none_iff, count, ← List.getElem?_eq_none_iff] at ha
    rw [ha]
    exact .none
  | some x =>
    obtain ⟨hlt, -⟩ := List.getElem?_eq_some_iff.1 ha
    rw [count] at hlt
    have hb := List.getElem?_eq_getElem hlt
    rw [hb]
    exact below x _ ha hb

/-- Trees that agree have the same nodes, and corresponding ones are alike. -/
theorem Agrees.rel_at? (agrees : a.Agrees b) (path : List Nat) :
    Option.Rel Alike (a.at? path) (b.at? path) := by
  -- By induction on the path, for all trees that agree.
  induction path generalizing a b with
  | nil => exact .some (agrees_iff.1 agrees).1
  | cons i rest ih =>
    obtain ⟨alike, below⟩ := agrees_iff.1 agrees
    exact rel_at?_cons alike.count fun x y hx hy => ih (below i x y hx hy)

/-- Nodes that differ are not alike. -/
theorem Differs.not_alike {difference : Difference} (differs : a.Differs b difference) :
    ¬ a.Alike b := by
  intro alike
  cases differs with
  | span span => exact span alike.span
  | kind _ kind => exact kind alike.kind
  | childCount _ _ count => exact count alike.count

/-- A difference is found exactly if it is the first in which the nodes differ. -/
theorem difference?_eq_some_iff {difference : Difference} :
    a.difference? b = some difference ↔ a.Differs b difference := by
  unfold difference?
  -- The three are compared in this order, so each case knows that those before are the same.
  by_cases hspan : a.label.extent.span = b.label.extent.span
  · rw [Extent.sameSpan_iff.2 hspan, if_neg (by simp)]
    by_cases hkind : a.label.kind = b.label.kind
    · rw [if_neg (not_not_intro hkind)]
      by_cases hcount : a.children.length = b.children.length
      · rw [if_neg (not_not_intro hcount)]
        exact ⟨nofun, fun differs => absurd ⟨hspan, hkind, hcount⟩ differs.not_alike⟩
      · rw [if_pos hcount]
        constructor
        · rintro ⟨⟩
          exact .childCount hspan hkind hcount
        · rintro (⟨differ⟩ | ⟨-, differ⟩ | -)
          · exact absurd hspan differ
          · exact absurd hkind differ
          · rfl
    · rw [if_pos hkind]
      constructor
      · rintro ⟨⟩
        exact .kind hspan hkind
      · rintro (⟨differ⟩ | - | ⟨-, same, -⟩)
        · exact absurd hspan differ
        · rfl
        · exact absurd same hkind
  · rw [if_pos (by simpa [← Extent.sameSpan_iff] using hspan)]
    constructor
    · rintro ⟨⟩
      exact .span hspan
    · rintro (- | ⟨same, -⟩ | ⟨same, -, -⟩)
      · rfl
      · exact absurd same hspan
      · exact absurd same hspan

/-! ## The first difference -/

/-- Where the roots differ, the trees differ first at the root. -/
theorem FirstDiffers.root {difference : Difference} (differs : a.Differs b difference) :
    a.FirstDiffers b ⟨[], difference⟩ where
  here := ⟨a, b, rfl, rfl, differs⟩
  before := fun path hlt => absurd hlt (List.not_lt_nil path)

/-- If the roots are alike and so are all children before one of them, then the trees differ first where
    these children do. -/
theorem FirstDiffers.below {i : Nat} {x y : Node} {mismatch : Mismatch} (alike : a.Alike b)
    (hx : a.children[i]? = some x) (hy : b.children[i]? = some y)
    (earlier : ∀ k < i, ∀ x y, a.children[k]? = some x → b.children[k]? = some y → x.Agrees y)
    (differs : x.FirstDiffers y mismatch) :
    a.FirstDiffers b ⟨i :: mismatch.path, mismatch.difference⟩ where
  here := by
    obtain ⟨u, v, hu, hv, hdiffers⟩ := differs.here
    refine ⟨u, v, ?_, ?_, hdiffers⟩
    · rw [at?, hx]; exact hu
    · rw [at?, hy]; exact hv
  before := by
    intro path hlt
    -- An earlier path ends at the roots, or goes through an earlier child, or through this one to a node
    -- before the difference.
    cases path with
    | nil => exact .some alike
    | cons k rest =>
      apply rel_at?_cons alike.count
      intro u v hu hv
      rcases List.cons_lt_cons_iff.1 hlt with hlt | ⟨rfl, hinside⟩
      · exact (earlier k hlt u v hu hv).rel_at? rest
      · obtain rfl := Option.some.inj (hx.symm.trans hu)
        obtain rfl := Option.some.inj (hy.symm.trans hv)
        exact differs.before rest hinside

/-- At the first difference the nodes are not alike. -/
theorem FirstDiffers.not_rel {mismatch : Mismatch} (differs : a.FirstDiffers b mismatch) :
    ¬ Option.Rel Alike (a.at? mismatch.path) (b.at? mismatch.path) := by
  obtain ⟨x, y, hx, hy, hdiffers⟩ := differs.here
  rw [hx, hy]
  rintro (alike | -)
  exact hdiffers.not_alike alike

/-- Trees have one first difference at most: of two, the later one would come after a difference. -/
theorem FirstDiffers.unique {m m' : Mismatch} (h : a.FirstDiffers b m) (h' : a.FirstDiffers b m') :
    m = m' := by
  -- If one path came before the other, the nodes that differ there would have to be alike.
  have hpath : m.path = m'.path := List.le_antisymm
    (List.not_lt.1 fun hlt => h'.not_rel (h.before _ hlt))
    (List.not_lt.1 fun hlt => h.not_rel (h'.before _ hlt))
  obtain ⟨x, y, hx, hy, hdiffers⟩ := h.here
  obtain ⟨x', y', hx', hy', hdiffers'⟩ := h'.here
  rw [hpath] at hx hy
  obtain rfl := Option.some.inj (hx.symm.trans hx')
  obtain rfl := Option.some.inj (hy.symm.trans hy')
  rw [← difference?_eq_some_iff] at hdiffers hdiffers'
  exact congrArg₂ Mismatch.mk hpath (Option.some.inj (hdiffers.symm.trans hdiffers'))

mutual

/-- What the recursion finds is the first difference, and its path leads on from where the trees are. -/
theorem firstDiffers_of_eq_some (path : List Nat) : (a b : Node) → {m : Mismatch} →
    firstDifference? path a b = some m →
      ∃ rest, m.path = path.reverse ++ rest ∧ a.FirstDiffers b ⟨rest, m.difference⟩
  | .mk label children, b, m, h => by
    rw [firstDifference?] at h
    -- The roots differ, or the difference is further down.
    cases hroot : (mk label children).difference? b with
    | some difference =>
      rw [hroot] at h
      obtain rfl := Option.some.inj h
      exact ⟨[], (List.append_nil _).symm, .root (difference?_eq_some_iff.1 hroot)⟩
    | none =>
      rw [hroot] at h
      obtain ⟨i, rest, x, y, hpath, hx, hy, earlier, differs⟩ :=
        firstDiffersAll_of_eq_some path 0 children b.children h
      rw [Nat.zero_add] at hpath
      exact ⟨i :: rest, hpath, .below (difference?_eq_none_iff.1 hroot) hx hy earlier differs⟩

/-- What the recursion finds in lists of trees is the first difference of the first trees that
    differ. -/
theorem firstDiffersAll_of_eq_some (path : List Nat) (index : Nat) : (as bs : List Node) →
    {m : Mismatch} → firstDifferenceAll? path index as bs = some m →
      ∃ i rest x y, m.path = path.reverse ++ (index + i) :: rest ∧
        as[i]? = some x ∧ bs[i]? = some y ∧
        (∀ k < i, ∀ x y, as[k]? = some x → bs[k]? = some y → x.Agrees y) ∧
        x.FirstDiffers y ⟨rest, m.difference⟩
  | [], _, m, h => by
    rw [firstDifferenceAll?.eq_def] at h
    exact nomatch h
  | _ :: _, [], m, h => by
    rw [firstDifferenceAll?.eq_def] at h
    exact nomatch h
  | a :: as, b :: bs, m, h => by
    rw [firstDifferenceAll?, Option.or_eq_some_iff] at h
    rcases h with hfirst | ⟨hnone, hothers⟩
    -- The first pair differs.
    · obtain ⟨rest, hpath, differs⟩ := firstDiffers_of_eq_some (index :: path) a b hfirst
      refine ⟨0, rest, a, b, ?_, rfl, rfl, nofun, differs⟩
      rw [hpath, List.reverse_cons, List.append_assoc]
      rfl
    · -- Nothing was found in the first pair, so these trees agree and come before the difference.
      obtain ⟨i, rest, x, y, hpath, hx, hy, earlier, differs⟩ :=
        firstDiffersAll_of_eq_some path (index + 1) as bs hothers
      refine ⟨i + 1, rest, x, y, ?_, hx, hy, ?_, differs⟩
      · rw [hpath, Nat.add_assoc, Nat.add_comm 1]
      · intro k hk u v hu hv
        cases k with
        | zero =>
          obtain rfl := Option.some.inj hu
          obtain rfl := Option.some.inj hv
          exact (firstDifference?_eq_none_iff (index :: path) a b).1 hnone
        | succ k => exact earlier k (Nat.lt_of_succ_lt_succ hk) u v hu hv

end

/-- The recursion finds the first difference of two trees. -/
theorem firstDifference?_eq_some_iff {m : Mismatch} :
    firstDifference? [] a b = some m ↔ a.FirstDiffers b m := by
  have found : ∀ {m'}, firstDifference? [] a b = some m' → a.FirstDiffers b m' := by
    intro m' h
    obtain ⟨rest, hpath, differs⟩ := firstDiffers_of_eq_some [] a b h
    rw [List.reverse_nil, List.nil_append] at hpath
    rw [← hpath] at differs
    exact differs
  refine ⟨found, fun differs => ?_⟩
  -- Something is found, since trees that differ do not agree, and there is nothing else to be found.
  cases h : firstDifference? [] a b with
  | none =>
    have agrees := (firstDifference?_eq_none_iff [] a b).1 h
    exact absurd (agrees.rel_at? m.path) differs.not_rel
  | some m' => rw [(found h).unique differs]

/-! ## Either way round -/

/-- Being alike goes both ways. -/
theorem Alike.symm (alike : a.Alike b) : b.Alike a :=
  ⟨alike.span.symm, alike.kind.symm, alike.count.symm⟩

/-- What differs in one order differs in the other, if not in the same words. -/
theorem Differs.symm {difference : Difference} (differs : a.Differs b difference) :
    ∃ other, b.Differs a other := by
  cases differs with
  | span span => exact ⟨_, .span span.symm⟩
  | kind span kind => exact ⟨_, .kind span.symm kind.symm⟩
  | childCount span kind count => exact ⟨_, .childCount span.symm kind.symm count.symm⟩

/-- Trees differ first at the same place in whichever order they are compared. -/
theorem FirstDiffers.symm {m : Mismatch} (differs : a.FirstDiffers b m) :
    ∃ other, b.FirstDiffers a ⟨m.path, other⟩ := by
  obtain ⟨x, y, hx, hy, hdiffers⟩ := differs.here
  obtain ⟨other, hother⟩ := hdiffers.symm
  refine ⟨other, ⟨y, x, hy, hx, hother⟩, fun path hlt => ?_⟩
  have hrel := differs.before path hlt
  revert hrel
  -- The nodes on the way are alike in both orders.
  generalize a.at? path = x, b.at? path = y
  rintro (alike | -)
  · exact .some alike.symm
  · exact .none

end Node

namespace SyntaxTree

variable {expected actual : SyntaxTree}

/-- The arena of a tree reads back as the tree. -/
theorem toNode?_nodes (tree : SyntaxTree) : Arena.toNode? tree.nodes = some tree.source.root := by
  rw [tree.nodes_eq, Arena.toNode?_ofNode]

/-- Nothing is found exactly if the trees have the same shape. -/
theorem firstDifference?_eq_none_iff_shape :
    expected.firstDifference? actual = none ↔
      expected.source.root.shape = actual.source.root.shape := by
  rw [firstDifference?_eq_none_iff, Node.shape_eq_iff]

/-- A mismatch is found exactly if it is the first difference of the trees. -/
theorem firstDifference?_eq_some_iff {m : Mismatch} :
    expected.firstDifference? actual = some m ↔
      expected.source.root.FirstDiffers actual.source.root m := by
  rw [firstDifference?_eq, Node.firstDifference?_eq_some_iff]

/-- To find nothing is an equivalence, as it is to have the same shape. -/
theorem equivalence_firstDifference?_eq_none :
    Equivalence fun expected actual : SyntaxTree => expected.firstDifference? actual = none where
  refl _ := firstDifference?_eq_none_iff_shape.2 rfl
  symm h := firstDifference?_eq_none_iff_shape.2 (firstDifference?_eq_none_iff_shape.1 h).symm
  trans h h' := firstDifference?_eq_none_iff_shape.2
    ((firstDifference?_eq_none_iff_shape.1 h).trans (firstDifference?_eq_none_iff_shape.1 h'))

/-- The path of what is found does not depend on the order of the trees. -/
theorem map_path_firstDifference?_comm (expected actual : SyntaxTree) :
    (expected.firstDifference? actual).map (·.path) =
      (actual.firstDifference? expected).map (·.path) := by
  cases h : expected.firstDifference? actual with
  | none => rw [equivalence_firstDifference?_eq_none.symm h]
  | some m =>
    obtain ⟨other, differs⟩ := (firstDifference?_eq_some_iff.1 h).symm
    rw [firstDifference?_eq_some_iff.2 differs]
    rfl

/-- The comparison finds nothing if and only if the trees that are read from the two arenas have the same
    shape, and otherwise it finds their first difference.  To find nothing is an equivalence, and trees
    are found to differ at the same path in whichever order they are compared. -/
theorem comparison_finds_first (expected actual : SyntaxTree) :
    (∃ e a, Arena.toNode? expected.nodes = some e ∧ Arena.toNode? actual.nodes = some a ∧
      (expected.firstDifference? actual = none ↔ e.shape = a.shape) ∧
      ∀ m, expected.firstDifference? actual = some m ↔ e.FirstDiffers a m) ∧
    Equivalence (fun expected actual : SyntaxTree => expected.firstDifference? actual = none) ∧
    (expected.firstDifference? actual).map (·.path) =
      (actual.firstDifference? expected).map (·.path) := by
  refine ⟨?_, equivalence_firstDifference?_eq_none, map_path_firstDifference?_comm expected actual⟩
  refine ⟨_, _, expected.toNode?_nodes, actual.toNode?_nodes, ?_, fun m => ?_⟩
  · exact firstDifference?_eq_none_iff_shape
  · exact firstDifference?_eq_some_iff

end SyntaxTree

end LiveTree
