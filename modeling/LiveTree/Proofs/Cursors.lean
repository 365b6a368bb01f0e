import LiveTree.Proofs.Layout
import Mathlib.Algebra.GroupWithZero.Nat

/-!
# Arenas that are built by a cursor

A cursor is at one node of a tree at a time and moves to its first child, its next sibling or its
parent.  An arena can be built with nothing but these moves: every node is added when the cursor comes to
it, the names of its ancestors are kept on a stack, and its position among its siblings is counted.  When
the cursor has climbed back to an ancestor, the count goes on from the position of that ancestor, which is
read from the arena.

The loop ends because fewer nodes are left after every move to another node.  What comes out is the arena
of the tree, as long as the names of its nodes fit into 32 bits.

## Key results

- `Tour.build_tree`: a tour through a subtree adds its layout and then goes on from its root
- `Arena.ofCursor_eq_ofNode`: a cursor builds the arena of its tree
-/

namespace LiveTree

/-! ## Moves -/

/-- A place in a tree: the node there and its siblings to the right, and the same for each of its
    ancestors, innermost first. -/
structure Cursor where
  node : Node
  right : List Node
  above : List (Node × List Node)

namespace Cursor

/-- A cursor at the root of a tree. -/
def start (root : Node) : Cursor := ⟨root, [], []⟩

/-- Moves to the first child; `none` if there is none. -/
def firstChild? (cursor : Cursor) : Option Cursor :=
  match cursor.node.children with
  | [] => none
  | first :: rest => some ⟨first, rest, (cursor.node, cursor.right) :: cursor.above⟩

/-- Moves to the next sibling; `none` if there is none. -/
def nextSibling? (cursor : Cursor) : Option Cursor :=
  match cursor.right with
  | [] => none
  | next :: rest => some ⟨next, rest, cursor.above⟩

/-- Moves to the parent; `none` at the node that the cursor started from. -/
def parent? (cursor : Cursor) : Option Cursor :=
  match cursor.above with
  | [] => none
  | (node, right) :: above => some ⟨node, right, above⟩

/-- Number of nodes that come after the cursor's and all below it. -/
def following (cursor : Cursor) : Nat :=
  Node.sizeAll cursor.right + (cursor.above.map (Node.sizeAll ·.2)).sum

/-- Number of nodes that do not come before the cursor's. -/
def remaining (cursor : Cursor) : Nat := cursor.node.size + cursor.following

/-- Going down leaves the node behind, so fewer nodes remain. -/
theorem remaining_firstChild {cursor next : Cursor} (h : cursor.firstChild? = some next) :
    next.remaining < cursor.remaining := by
  obtain ⟨⟨label, children⟩, right, above⟩ := cursor
  cases children with
  | nil => simp [firstChild?, Node.children] at h
  | cons first rest =>
    obtain rfl := Option.some.inj h
    simp only [remaining, following, List.map_cons, List.sum_cons, Node.size, Node.sizeAll]
    omega

/-- Going on to a sibling leaves the node and all below it behind. -/
theorem remaining_nextSibling {cursor next : Cursor} (h : cursor.nextSibling? = some next) :
    next.remaining = cursor.following := by
  obtain ⟨node, right, above⟩ := cursor
  cases right with
  | nil => simp [nextSibling?] at h
  | cons first rest =>
    obtain rfl := Option.some.inj h
    simp only [remaining, following, Node.sizeAll]
    omega

/-- Nothing but the ancestors' other children comes after a last child. -/
theorem following_parent {cursor up : Cursor} (last : cursor.nextSibling? = none)
    (h : cursor.parent? = some up) : up.following = cursor.following := by
  obtain ⟨node, right, above⟩ := cursor
  cases right with
  | cons first rest => simp [nextSibling?] at last
  | nil =>
    cases above with
    | nil => simp [parent?] at h
    | cons level above =>
      obtain rfl := Option.some.inj h
      simp [following, Node.sizeAll]

end Cursor

/-! ## The loop -/

/-- A tour through a tree: the cursor, the nodes that have been added, the names of the ancestors of the
    cursor's node, innermost first, and its position among its siblings. -/
structure Tour where
  cursor : Cursor
  nodes : Array ArenaNode
  parents : List NodeId
  index : Nat

namespace Tour

/-- The name of the node that comes after so many others, in 32 bits. -/
def nameAfter (count : Nat) : NodeId := count % 2 ^ 32

/-- A name that fits into 32 bits is the number itself. -/
theorem nameAfter_of_lt {count : Nat} (h : count < 2 ^ 32) : nameAfter count = count :=
  Nat.mod_eq_of_lt h

/-- Adds the cursor's node and tells its parent. -/
def visit (tour : Tour) : Tour :=
  let added := tour.nodes.push ⟨tour.cursor.node.label, tour.parents.head?, tour.index, #[]⟩
  { tour with nodes :=
      match tour.parents.head? with
      | none => added
      | some parent => added.modify parent fun node =>
        { node with children := node.children.push (nameAfter tour.nodes.size) } }

/-- Moves down to the first child of a node that has just been added after `count` others. -/
def descend (tour : Tour) (cursor : Cursor) (count : Nat) : Tour :=
  { tour with cursor := cursor, parents := nameAfter count :: tour.parents, index := 0 }

/-- Moves up to the parent, whose position among its siblings is in the arena. -/
def ascend (tour : Tour) (cursor : Cursor) : Tour :=
  { tour with
    cursor := cursor
    parents := tour.parents.tail
    index := ((tour.parents.head?.bind fun id => tour.nodes[id]?).map (·.index)).getD 0 }

/-- Moves on to the next sibling of the node, or else of the nearest ancestor that has one; `none` if
    there is none up to the root. -/
def onward (tour : Tour) : Option Tour :=
  match tour.cursor.nextSibling? with
  | some cursor => some { tour with cursor := cursor, index := tour.index + 1 }
  | none =>
    match _h : tour.cursor.parent? with
    | none => none
    | some cursor => (tour.ascend cursor).onward
termination_by tour.cursor.above.length
decreasing_by
  obtain ⟨⟨node, right, above⟩, nodes, parents, index⟩ := tour
  cases above with
  | nil => simp [Cursor.parent?] at _h
  | cons up above =>
    obtain rfl := Option.some.inj _h
    simp [ascend]

/-- Moving on skips what is below the node and nothing else. -/
theorem remaining_onward {tour next : Tour} (h : tour.onward = some next) :
    next.cursor.remaining = tour.cursor.following := by
  -- Along the way up to the nearest ancestor that has a next sibling.
  fun_induction onward tour with
  | case1 tour cursor hnext =>
    obtain rfl := Option.some.inj h
    exact Cursor.remaining_nextSibling hnext
  | case2 tour hnext hparent => exact nomatch h
  | case3 tour hnext cursor hparent ih =>
    rw [ih h]
    exact Cursor.following_parent hnext hparent

/-- Adds the cursor's node and all that come after it. -/
def build (tour : Tour) : Array ArenaNode :=
  match _h : tour.cursor.firstChild? with
  | some cursor => (tour.visit.descend cursor tour.nodes.size).build
  | none =>
    match _h' : tour.visit.onward with
    | some next => next.build
    | none => tour.visit.nodes
termination_by tour.cursor.remaining
decreasing_by
  -- The tour comes to fewer nodes with each step, down or onward.
  · exact Cursor.remaining_firstChild _h
  · rw [remaining_onward _h']
    exact Nat.lt_add_of_pos_left tour.cursor.node.size_pos

/-- Adds all that come after the cursor's node and what is below it. -/
def finish (tour : Tour) : Array ArenaNode :=
  match tour.onward with
  | some next => next.build
  | none => tour.nodes

/-! ## What the loop builds

The induction is on the tree that the cursor goes through.  What is to the right of it and above it, and
what has been built before, can be anything; the loop comes back to where it started, one layout later. -/

/-- Gives further children to the parent of the node that a tour is at. -/
def link (parents ids : List NodeId) (nodes : Array ArenaNode) : Array ArenaNode :=
  match parents.head? with
  | none => nodes
  | some parent => nodes.modify parent (Arena.adopt ids)

/-- At the root there is no parent to give children to. -/
@[simp] theorem link_nil (ids : List NodeId) (nodes : Array ArenaNode) : link [] ids nodes = nodes :=
  rfl

/-- Anywhere else they go to the innermost ancestor. -/
@[simp] theorem link_cons (parent : NodeId) (rest ids : List NodeId) (nodes : Array ArenaNode) :
    link (parent :: rest) ids nodes = nodes.modify parent (Arena.adopt ids) :=
  rfl

/-- No nodes are added in giving children to one. -/
@[simp] theorem size_link (parents ids : List NodeId) (nodes : Array ArenaNode) :
    (link parents ids nodes).size = nodes.size := by
  unfold link
  split <;> simp

/-- A change of the last node is a change of what is pushed. -/
theorem modify_push_size (f : ArenaNode → ArenaNode) (nodes : Array ArenaNode) (node : ArenaNode) :
    (nodes.push node).modify nodes.size f = nodes.push (f node) := by
  apply Array.toList_inj.1
  simpa using Arena.modify_concat_length f nodes.toList node

/-- A node keeps its position when it gets further children. -/
theorem index_modify_adopt {nodes : Array ArenaNode} {parent : NodeId} {ids : List NodeId}
    {added : Array ArenaNode} (inside : parent < nodes.size) :
    ((nodes.modify parent (Arena.adopt ids) ++ added)[parent]?).map (·.index) =
      (nodes[parent]?).map (·.index) := by
  have hlt : parent < (nodes.modify parent (Arena.adopt ids)).size := by simpa using inside
  rw [Array.getElem?_append_left hlt]
  simp [inside, Array.getElem_modify, Arena.adopt]

/-- What a visit does, if the parent has been added and the new name fits. -/
theorem visit_eq {cursor : Cursor} {nodes : Array ArenaNode} {parents : List NodeId} {index : Nat}
    (rooted : ∀ parent ∈ parents.head?, parent < nodes.size) (bound : nodes.size < 2 ^ 32) :
    visit ⟨cursor, nodes, parents, index⟩ =
      ⟨cursor, (link parents [nodes.size] nodes).push ⟨cursor.node.label, parents.head?, index, #[]⟩,
        parents, index⟩ := by
  simp only [visit, nameAfter_of_lt bound, mk.injEq, true_and, and_true]
  cases parents with
  | nil => rfl
  | cons parent rest =>
    -- The parent is not the new node, so it makes no difference which of the two comes first.
    have hlt : parent < nodes.toList.length := rooted parent rfl
    apply Array.toList_inj.1
    simp [Arena.modify_append_of_lt _ _ hlt, Arena.adopt_singleton]

/-- From a node with a right sibling, a tour goes on there. -/
theorem finish_next (node next : Node) (right : List Node) (above : List (Node × List Node))
    (nodes : Array ArenaNode) (parents : List NodeId) (index : Nat) :
    finish ⟨⟨node, next :: right, above⟩, nodes, parents, index⟩ =
      build ⟨⟨next, right, above⟩, nodes, parents, index + 1⟩ := by
  unfold finish
  rw [onward]
  rfl

/-- From a last child, a tour goes on as from its parent. -/
theorem finish_last (node up : Node) (right : List Node) (above : List (Node × List Node))
    (nodes : Array ArenaNode) (parents : List NodeId) (index : Nat) :
    finish ⟨⟨node, [], (up, right) :: above⟩, nodes, parents, index⟩ =
      finish (ascend ⟨⟨node, [], (up, right) :: above⟩, nodes, parents, index⟩ ⟨up, right, above⟩) := by
  unfold finish
  rw [onward]
  rfl

/-- From the root there is nowhere to go on to. -/
theorem finish_start (root : Node) (nodes : Array ArenaNode) (parents : List NodeId) (index : Nat) :
    finish ⟨.start root, nodes, parents, index⟩ = nodes := by
  unfold finish
  rw [onward]
  rfl

/-- At a node with no children, a tour adds it and goes on. -/
theorem build_leaf {tour : Tour} (leaf : tour.cursor.firstChild? = none) :
    tour.build = tour.visit.finish := by
  -- The loop asks whether it can go down, and then whether it can go on.
  rw [build, finish]
  split
  · next cursor hdown => simp [leaf] at hdown
  · split
    · next other honward => simp [honward]
    · next honward => simp [honward]

/-- At a node with children, a tour adds it and goes down. -/
theorem build_parent {tour : Tour} {cursor : Cursor} (down : tour.cursor.firstChild? = some cursor) :
    tour.build = (tour.visit.descend cursor tour.nodes.size).build := by
  rw [build]
  split
  · next other hdown =>
    obtain rfl := Option.some.inj (down.symm.trans hdown)
    rfl
  · next hdown => simp [down] at hdown

mutual

/-- A tour through a subtree adds its layout and then goes on from its root. -/
theorem build_tree {nodes : Array ArenaNode} {parents : List NodeId} {right : List Node}
    {above : List (Node × List Node)} {index : Nat} :
    (node : Node) → (∀ parent ∈ parents.head?, parent < nodes.size) →
      nodes.size + node.size ≤ 2 ^ 32 →
      build ⟨⟨node, right, above⟩, nodes, parents, index⟩ =
        finish ⟨⟨node, right, above⟩, link parents [nodes.size] nodes ++
          (Arena.layout parents.head? index nodes.size node).toArray, parents, index⟩
  | .mk label [], rooted, bound => by
    -- A leaf is one node, so its name fits.
    have hsize : nodes.size < 2 ^ 32 := by
      simp only [Node.size, Node.sizeAll] at bound
      omega
    rw [build_leaf rfl, visit_eq rooted hsize, Arena.layout, Arena.layoutAll]
    simp [Node.label, Arena.childIds]
  | .mk label (first :: rest), rooted, bound => by
    have hsize : nodes.size < 2 ^ 32 := by
      simp only [Node.size] at bound
      omega
    rw [build_parent rfl, visit_eq rooted hsize, Arena.layout]
    simp only [descend, nameAfter_of_lt hsize, Node.label]
    generalize hlinked : link parents [nodes.size] nodes = linked
    have hcount : nodes.size = linked.size := by
      rw [← hlinked, size_link]
    -- The children go below the new node, which is the last one so far.
    rw [hcount, build_children first rest]
    · rw [modify_push_size, Array.size_push, Array.getElem?_push_size]
      simp [Arena.adopt]
    · simp
    · simp only [Node.size] at bound
      simp only [Array.size_push]
      omega
termination_by node => sizeOf node

/-- A tour through the last children of a node adds their layouts and then goes on from the node. -/
theorem build_children {nodes : Array ArenaNode} {parent : NodeId} {parents : List NodeId} {up : Node}
    {right : List Node} {above : List (Node × List Node)} {index : Nat} (node : Node) :
    (rest : List Node) → parent < nodes.size →
      nodes.size + Node.sizeAll (node :: rest) ≤ 2 ^ 32 →
      build ⟨⟨node, rest, (up, right) :: above⟩, nodes, parent :: parents, index⟩ =
        finish ⟨⟨up, right, above⟩,
          nodes.modify parent (Arena.adopt (Arena.childIds nodes.size (node :: rest))) ++
            (Arena.layoutAll parent index nodes.size (node :: rest)).toArray,
          parents, ((nodes[parent]?).map (·.index)).getD 0⟩
  | [], inside, bound => by
    have hbound : nodes.size + node.size ≤ 2 ^ 32 := by
      simp only [Node.sizeAll] at bound
      omega
    -- The last child: after its layout the tour goes on from the parent.
    rw [build_tree node (by simpa using inside) hbound, finish_last]
    simp only [ascend, List.head?_cons, Option.bind_some, link_cons, index_modify_adopt inside,
      Arena.layoutAll, Arena.childIds, List.append_nil, List.tail_cons]
  | next :: more, inside, bound => by
    rw [Node.sizeAll] at bound
    have hbound : nodes.size + node.size ≤ 2 ^ 32 := by omega
    -- Any other child: after its layout the tour goes on to the next one.
    rw [build_tree node (by simpa using inside) hbound, finish_next, List.head?_cons, link_cons]
    generalize hadded : (Arena.layout (some parent) index nodes.size node).toArray = added
    have hsize : (nodes.modify parent (Arena.adopt [nodes.size]) ++ added).size =
        nodes.size + node.size := by
      simp [← hadded, Arena.length_layout]
    have hlater : parent < (nodes.modify parent (Arena.adopt [nodes.size]) ++ added).size := by
      rw [hsize]
      exact Nat.lt_add_right _ inside
    rw [build_children next more hlater (by omega), index_modify_adopt inside, hsize]
    -- The node that gets further children is among those from before.
    have hinside : parent < (nodes.modify parent (Arena.adopt [nodes.size])).toList.length := by
      simpa using inside
    congr 2
    apply Array.toList_inj.1
    rw [Array.toList_append, Array.toList_modify, Array.toList_append,
      Arena.modify_append_of_lt _ _ hinside, Array.toList_modify, List.modify_modify_eq,
      Arena.adopt_adopt, ← hadded]
    simp [Arena.childIds, Arena.layoutAll]
termination_by rest => sizeOf node + sizeOf rest + 1

end

end Tour

/-! ## Arenas -/

/-- The arena that a cursor builds when it starts from the root of a tree. -/
def Arena.ofCursor (root : Node) : Array ArenaNode :=
  Tour.build ⟨.start root, #[], [], 0⟩

/-- A cursor builds the arena of its tree, as long as the names of the nodes fit into 32 bits. -/
theorem Arena.ofCursor_eq_ofNode {root : Node} (bound : root.size ≤ 2 ^ 32) :
    ofCursor root = ofNode root := by
  have hempty : (#[] : Array ArenaNode).size + root.size ≤ 2 ^ 32 := by simpa using bound
  unfold ofCursor Cursor.start
  -- The tour through the root ends with its layout, as there is nothing to go on to.
  rw [Tour.build_tree root (by simp) hempty]
  refine (Tour.finish_start root _ [] 0).trans ?_
  rw [ofNode_eq_layout]
  simp

end LiveTree
