import LiveTree.Proofs.Bracketing
import LiveTree.Query.Selection
import Mathlib.Data.List.Chain

/-!
# Selections grow from a position to the root

On the way up from the node around a position, every node offers its inside, as a trimmer gives it, and
then itself.  An offer is taken if it strictly contains what was selected last.  Whatever the trimmer gives
for a node, once the node has been offered the last selection has the node's bytes: it lay inside the node
before, since an inside is only considered if it lies inside the node, and it grows to the node unless it
fills it already.  The next node up contains this one, so the selection never stands in the way of a node.

So the invariant on the way up is that the last selection lies inside the next node, and after the last
step it is the root's.

## Key results

- `SyntaxTree.growOver_cons`: after a node has been offered the last selection is as large as the node
- `SyntaxTree.Grown.over`, `SyntaxTree.Grown.up`: selections grow, and by nothing but what is on offer
- `SyntaxTree.Climbed.up`: what is selected on the way up to the root
- `SyntaxTree.Chain.exists_ofList?`: a list with an element makes a chain
- `SyntaxTree.selectionChains_cases`: all positions have a chain, or the first that has none decides
- `SyntaxTree.selections_grow_to_root`: the selections around a position, and around several positions
-/

namespace LiveTree

namespace Extent

/-- To contain strictly is to contain and not to have the same bytes. -/
theorem strictlyContains_iff {a b : Extent} :
    a.strictlyContains b = true ↔ a.contains b = true ∧ a.span ≠ b.span := by
  unfold strictlyContains
  rw [Bool.and_eq_true, Bool.not_eq_true', Bool.eq_false_iff, Ne, sameSpan_iff]

/-- What is contained depends on its bytes alone. -/
theorem contains_congr {a b c : Extent} (h : b.span = c.span) : a.contains b = a.contains c := by
  unfold contains
  rw [h]

/-- What is strictly contained depends on its bytes alone. -/
theorem strictlyContains_congr {a b c : Extent} (h : b.span = c.span) :
    a.strictlyContains b = a.strictlyContains c := by
  unfold strictlyContains sameSpan
  rw [contains_congr h, h]

end Extent

namespace SyntaxTree

/-- Selections, the largest first, that have grown from a first one by what was on offer. -/
structure Grown (offered : Extent → Prop) (first : Extent) (selections : List Extent) : Prop where
  /-- They start with the first one. -/
  start : selections.getLast? = some first
  grows : selections.IsChain fun outer inner => outer.strictlyContains inner = true
  /-- Each of them is the first one or was on offer. -/
  taken : ∀ extent ∈ selections, extent = first ∨ offered extent

/-- What the nodes of a path offer: their insides, where they are smaller, and themselves. -/
def Offered (tree : SyntaxTree) (trim : Extent → Extent) (path : List NodeId) (extent : Extent) : Prop :=
  (∃ id ∈ path, extent = tree.extent id) ∨
    ∃ id ∈ path, extent = trim (tree.extent id) ∧
      (tree.extent id).strictlyContains extent = true

/-- The selections that have grown over a node and its ancestors. -/
def growUp (tree : SyntaxTree) (trim : Extent → Extent) (selections : List Extent) (id : NodeId) :
    List Extent :=
  (tree.ancestors id).foldl (fun selections id => growOver trim selections (tree.extent id)) selections

variable {tree : SyntaxTree} {trim : Extent → Extent} {offered : Extent → Prop}
  {first last extent : Extent} {older selections : List Extent}

/-! ## One offer -/

/-- An offer takes nothing away. -/
theorem suffix_growBy (selections : List Extent) (extent : Extent) :
    selections <:+ growBy selections extent := by
  unfold growBy
  split
  · exact List.nil_suffix
  · split
    · exact List.suffix_cons _ _
    · exact List.suffix_refl _

/-- Selections that have grown grow by an offer, or stay. -/
theorem Grown.growBy (grown : Grown offered first selections) (offer : offered extent) :
    Grown offered first (growBy selections extent) := by
  unfold SyntaxTree.growBy
  split
  · exact nomatch grown.start
  · split
    · next last older contains =>
      -- The offer was taken, so it strictly contains the last selection.
      refine ⟨?_, List.isChain_cons_cons.2 ⟨contains, grown.grows⟩, ?_⟩
      · rw [List.getLast?_cons_cons]
        exact grown.start
      · intro other hother
        rcases List.mem_cons.1 hother with rfl | hother
        · exact .inr offer
        · exact grown.taken other hother
    · exact grown

/-- An offer that contains the last selection is as large as the last selection afterwards. -/
theorem growBy_cons (contains : extent.contains last = true) :
    ∃ top rest, growBy (last :: older) extent = top :: rest ∧ top.span = extent.span := by
  unfold growBy
  dsimp only
  split
  · exact ⟨extent, _, rfl, rfl⟩
  · next hnot =>
    rw [Extent.strictlyContains_iff, not_and, not_not] at hnot
    -- It was not taken, so the last selection fills it already.
    exact ⟨last, older, rfl, (hnot contains).symm⟩

/-! ## One node -/

/-- A node that is offered takes nothing away, with its inside or without. -/
theorem suffix_growOver (trim : Extent → Extent) (selections : List Extent) (extent : Extent) :
    selections <:+ growOver trim selections extent := by
  unfold growOver
  dsimp only
  split
  · exact (suffix_growBy _ _).trans (suffix_growBy _ _)
  · exact suffix_growBy _ _

/-- After a node has been offered the last selection is as large as the node. -/
theorem growOver_cons (trim : Extent → Extent) (older : List Extent)
    (contains : extent.contains last = true) :
    ∃ top rest, growOver trim (last :: older) extent = top :: rest ∧ top.span = extent.span := by
  unfold growOver
  dsimp only
  split
  · next hinside =>
    -- The inside is the last selection now, or else the one from before still is.
    by_cases hgrows : (trim extent).strictlyContains last = true
    · rw [growBy, if_pos hgrows]
      exact growBy_cons (Extent.strictlyContains_iff.1 hinside).1
    · rw [growBy, if_neg hgrows]
      exact growBy_cons contains
  · exact growBy_cons contains

/-- The inside of a node is taken where it fits between the last selection and the node. -/
theorem inside_mem_growOver (inside : extent.strictlyContains (trim extent) = true)
    (grows : (trim extent).strictlyContains last = true) :
    trim extent ∈ growOver trim (last :: older) extent := by
  unfold growOver
  dsimp only
  rw [if_pos inside]
  refine (suffix_growBy _ extent).subset ?_
  rw [growBy, if_pos grows]
  exact List.mem_cons_self

/-- Selections that have grown grow over a node: by its inside, if that is smaller, and by itself.
    -/
theorem Grown.over (grown : Grown offered first selections) (node : offered extent)
    (inside : extent.strictlyContains (trim extent) = true → offered (trim extent)) :
    Grown offered first (growOver trim selections extent) := by
  unfold growOver
  dsimp only
  split
  · next hinside => exact (grown.growBy (inside hinside)).growBy node
  · exact grown.growBy node

/-! ## The way up -/

/-- At the top there is just the node itself to grow over. -/
theorem growUp_of_none {id : NodeId} (h : tree.parent? id = none) (selections : List Extent) :
    tree.growUp trim selections id = growOver trim selections (tree.extent id) := by
  unfold growUp
  rw [ancestors_of_none h]
  rfl

/-- Below the top, the node is grown over first, and then its parent and all above it. -/
theorem growUp_of_parent {id parent : NodeId} (h : tree.parent? id = some parent)
    (selections : List Extent) :
    tree.growUp trim selections id =
      tree.growUp trim (growOver trim selections (tree.extent id)) parent := by
  unfold growUp
  rw [ancestors_of_parent h]
  rfl

/-- On the way up nothing is taken away. -/
theorem suffix_growUp (tree : SyntaxTree) (trim : Extent → Extent) (selections : List Extent)
    (id : NodeId) : selections <:+ tree.growUp trim selections id := by
  unfold growUp
  generalize tree.ancestors id = ids
  -- By induction on the ancestors, for all selections.
  induction ids generalizing selections with
  | nil => exact List.suffix_refl _
  | cons id rest ih => exact (suffix_growOver trim selections (tree.extent id)).trans (ih _)

/-- What selections have become on the way up from a node, where `last` was the last one before. -/
structure Climbed (tree : SyntaxTree) (trim : Extent → Extent) (id : NodeId) (last : Extent)
    (selections : List Extent) : Prop where
  /-- The last selection has the bytes of the root. -/
  top : ∃ top, selections.head? = some top ∧ top.span = (tree.extent root).span
  nodes : ∀ other ∈ tree.ancestors id, ∃ extent ∈ selections, extent.span = (tree.extent other).span
  inside : (tree.extent id).strictlyContains (trim (tree.extent id)) = true →
    (trim (tree.extent id)).strictlyContains last = true → trim (tree.extent id) ∈ selections
  insides : ∀ child ∈ tree.ancestors id, ∀ other, tree.parent? child = some other →
    (tree.extent other).strictlyContains (trim (tree.extent other)) = true →
      (trim (tree.extent other)).strictlyContains (tree.extent child) = true →
        trim (tree.extent other) ∈ selections

/-- A node that contains the last selection is grown over, and so are its ancestors. -/
theorem Climbed.up (nested : tree.Nested) {id : NodeId} (inside : id < tree.size)
    (contains : (tree.extent id).contains last = true) :
    tree.Climbed trim id last (tree.growUp trim (last :: older) id) := by
  -- By induction on the way up: at the top, and from a parent to the node below it.
  induction id using tree.upward_induction generalizing last older with
  | top id hparent =>
    obtain ⟨top, rest, hgrown, hspan⟩ := growOver_cons trim older contains
    obtain rfl := (parent?_eq_none_iff inside).1 hparent
    rw [growUp_of_none hparent]
    refine ⟨⟨top, by rw [hgrown]; rfl, hspan⟩, ?_, inside_mem_growOver, ?_⟩
    · rw [ancestors_of_none hparent, hgrown]
      intro other hother
      rw [List.mem_singleton.1 hother]
      exact ⟨top, List.mem_cons_self, hspan⟩
    · rw [ancestors_of_none hparent]
      intro child hchild other hother
      rw [List.mem_singleton.1 hchild, hparent] at hother
      exact nomatch hother
  | step id parent hparent ih =>
    obtain ⟨top, rest, hgrown, hspan⟩ := growOver_cons trim older contains
    -- The parent contains the node, so it contains what was selected last.
    have hcontains : (tree.extent parent).contains top = true := by
      rw [Extent.contains_congr hspan]
      exact nested.parent hparent
    have hkept := tree.suffix_growUp trim (top :: rest) parent
    have climbed : tree.Climbed trim parent top (tree.growUp trim (top :: rest) parent) :=
      ih (Nat.lt_trans (parent_lt hparent) inside) hcontains
    rw [growUp_of_parent hparent]
    refine ⟨hgrown ▸ climbed.top, ?_, fun hinside hgrows => ?_, ?_⟩
    · rw [ancestors_of_parent hparent, hgrown]
      intro other hother
      rcases List.mem_cons.1 hother with rfl | hother
      · exact ⟨top, hkept.subset List.mem_cons_self, hspan⟩
      · exact climbed.nodes other hother
    -- The inside of the node is taken when the node is, and stays.
    · exact (tree.suffix_growUp trim _ parent).subset (inside_mem_growOver hinside hgrows)
    · rw [ancestors_of_parent hparent, hgrown]
      intro child hchild other hother hinside hgrows
      -- Either the node's own parent is meant, or a node further up.
      rcases List.mem_cons.1 hchild with rfl | hchild
      · obtain rfl := Option.some.inj (hparent.symm.trans hother)
        rw [← Extent.strictlyContains_congr hspan] at hgrows
        exact climbed.inside hinside hgrows
      · exact climbed.insides child hchild other hother hinside hgrows

/-- Selections that have grown grow on the way up by what its nodes offer. -/
theorem Grown.up {path : List NodeId} (grown : Grown (tree.Offered trim path) first selections)
    {id : NodeId} (along : ∀ other ∈ tree.ancestors id, other ∈ path) :
    Grown (tree.Offered trim path) first (tree.growUp trim selections id) := by
  unfold growUp
  generalize tree.ancestors id = ids at along
  induction ids generalizing selections with
  | nil => exact grown
  | cons other rest ih =>
    have hmem := along other List.mem_cons_self
    rw [List.foldl_cons]
    refine ih (grown.over (.inl ⟨other, hmem, rfl⟩) fun inside => .inr ⟨other, hmem, rfl, inside⟩) ?_
    exact fun above habove => along above (List.mem_cons_of_mem _ habove)

/-! ## Chains -/

/-- A list with an element makes a chain, and the chain lists the same extents. -/
theorem Chain.exists_ofList? (extent : Extent) (rest : List Extent) :
    ∃ chain, Chain.ofList? (extent :: rest) = some chain ∧ chain.toList = extent :: rest := by
  induction rest generalizing extent with
  | nil => exact ⟨.outermost extent, rfl, rfl⟩
  | cons next rest ih =>
    obtain ⟨around, haround, hlist⟩ := ih next
    refine ⟨.inside extent around, ?_, ?_⟩
    · rw [ofList?, haround]
    · rw [toList, hlist]

/-! ## The selections of a position -/

/-- The selections around a position, innermost first; `start` is the node around it, and `empty` the
    empty selection at it. -/
structure Surrounding (tree : SyntaxTree) (trim : Extent → Extent) (start : NodeId) (empty : Extent)
    (ranges : List Extent) : Prop where
  /-- The empty selection comes first. -/
  first : ranges.head? = some empty
  grows : ranges.IsChain fun inner outer => outer.strictlyContains inner = true
  last : ∃ last, ranges.getLast? = some last ∧ last.span = (tree.extent root).span
  /-- Every node around the position has a selection with its bytes. -/
  nodes : ∀ id ∈ tree.ancestors start, ∃ range ∈ ranges, range.span = (tree.extent id).span
  taken : ∀ range ∈ ranges, range = empty ∨ tree.Offered trim (tree.ancestors start) range
  /-- The inside of the first node is selected where it fits between the position and the node. -/
  inside : (tree.extent start).strictlyContains (trim (tree.extent start)) = true →
    (trim (tree.extent start)).strictlyContains empty = true → trim (tree.extent start) ∈ ranges
  /-- The inside of a further node is selected where it fits between the node below and the node. -/
  insides : ∀ child ∈ tree.ancestors start, ∀ id, tree.parent? child = some id →
    (tree.extent id).strictlyContains (trim (tree.extent id)) = true →
      (trim (tree.extent id)).strictlyContains (tree.extent child) = true →
        trim (tree.extent id) ∈ ranges

/-- The selections grow on the way up from the empty one, and are listed innermost first. -/
theorem selections_eq (tree : SyntaxTree) (text : Text) (position : Nat) (trim : Extent → Extent) :
    tree.selections text position trim = (tree.containing ⟨position, position⟩).map fun start =>
      (tree.growUp trim [.emptyAt position (text.pointAt position)] start).reverse := by
  unfold selections
  cases tree.containing ⟨position, position⟩ <;> rfl

/-- On the way up from the node around a position, the selections surround the position. -/
theorem Surrounding.growUp (nested : tree.Nested) {start : NodeId} (inside : start < tree.size)
    {empty : Extent} (contains : (tree.extent start).contains empty = true) :
    tree.Surrounding trim start empty (tree.growUp trim [empty] start).reverse := by
  -- The empty selection alone has grown from itself.
  have initial : Grown (tree.Offered trim (tree.ancestors start)) empty [empty] :=
    ⟨rfl, List.isChain_singleton _, fun extent h => .inl (List.mem_singleton.1 h)⟩
  have grown := initial.up fun _ h => h
  have climbed : tree.Climbed trim start empty (tree.growUp trim [empty] start) :=
    Climbed.up nested inside contains
  refine ⟨?_, List.isChain_reverse.2 grown.grows, ?_, ?_, ?_, ?_, ?_⟩
  · rw [List.head?_reverse]
    exact grown.start
  · rw [List.getLast?_reverse]
    exact climbed.top
  · simpa only [List.mem_reverse] using climbed.nodes
  · simpa only [List.mem_reverse] using grown.taken
  · simpa only [List.mem_reverse] using climbed.inside
  · simpa only [List.mem_reverse] using climbed.insides

/-- There is always the empty selection, so the selections around a position make a chain. -/
theorem exists_chain {text : Text} {position : Nat} {ranges : List Extent}
    (h : tree.selections text position trim = .ok ranges) :
    ∃ chain, Chain.ofList? ranges = some chain ∧ chain.toList = ranges := by
  rw [selections_eq] at h
  cases hstart : tree.containing ⟨position, position⟩ with
  | error error =>
    rw [hstart] at h
    exact nomatch h
  | ok start =>
    rw [hstart] at h
    obtain rfl := Except.ok.inj h
    -- The empty selection is the last one of the list, so the list reversed begins with it.
    obtain ⟨grown, hgrown⟩ :=
      tree.suffix_growUp trim [.emptyAt position (text.pointAt position)] start
    dsimp only
    rw [← hgrown, List.reverse_append]
    exact Chain.exists_ofList? _ _

/-- The first of several positions has no selections and decides, or its chain comes before the
    others. -/
theorem selectionChains_cons (tree : SyntaxTree) (text : Text) (trim : Extent → Extent)
    (position : Nat) (rest : List Nat) :
    (∃ error, tree.selections text position trim = .error error ∧
      tree.selectionChains text trim (position :: rest) = .error error) ∨
    ∃ chain, tree.selections text position trim = .ok chain.toList ∧
      tree.selectionChains text trim (position :: rest) =
        (tree.selectionChains text trim rest).map (chain :: ·) := by
  rw [selectionChains]
  cases hranges : tree.selections text position trim with
  | error error => exact .inl ⟨error, rfl, rfl⟩
  | ok ranges =>
    obtain ⟨chain, hchain, rfl⟩ := exists_chain hranges
    refine .inr ⟨chain, rfl, ?_⟩
    simp only [bind, Except.bind, hchain]
    cases tree.selectionChains text trim rest <;> rfl

/-- The chains around several positions are the chains around each, or else the first position that has
    none decides. -/
theorem selectionChains_cases (tree : SyntaxTree) (text : Text) (trim : Extent → Extent)
    (positions : List Nat) :
    (∃ chains, tree.selectionChains text trim positions = .ok chains ∧
      List.Forall₂ (fun position chain =>
        tree.selections text position trim = .ok chain.toList) positions chains) ∨
    ∃ before position after error, positions = before ++ position :: after ∧
      (∀ earlier ∈ before, ∃ ranges, tree.selections text earlier trim = .ok ranges) ∧
      tree.selections text position trim = .error error ∧
      tree.selectionChains text trim positions = .error error := by
  -- By induction on the positions: the first has an error, or the others decide.
  induction positions with
  | nil => exact .inl ⟨[], rfl, .nil⟩
  | cons position rest ih =>
    rcases tree.selectionChains_cons text trim position rest with
      ⟨error, herror, hchains⟩ | ⟨chain, hranges, hchains⟩
    · exact .inr ⟨[], position, rest, error, rfl, nofun, herror, hchains⟩
    · rcases ih with ⟨chains, hrest, all⟩ | ⟨before, failing, after, error, rfl, hbefore, herror, hrest⟩
      · refine .inl ⟨chain :: chains, ?_, .cons hranges all⟩
        rw [hchains, hrest]
        rfl
      · refine .inr ⟨position :: before, failing, after, error, rfl, ?_, herror, ?_⟩
        · intro earlier hearlier
          rcases List.mem_cons.1 hearlier with rfl | hearlier
          · exact ⟨_, hranges⟩
          · exact hbefore earlier hearlier
        · rw [hchains, hrest]
          rfl

/-- In a tree whose nodes lie inside their parents, the selections around a position inside the root begin
    with the empty one.  Each strictly contains the one before, whatever the trimmer does, and the last one
    has the bytes of the root.  There is one with the bytes of every node from the one around the position
    up to the root, and the others are insides of these nodes, as the trimmer gives them, strictly inside.

    The chains around several positions list these selections, position by position, or else the first
    position that has none decides; a position's selections always make a chain. -/
theorem selections_grow_to_root (tree : SyntaxTree) (nested : tree.Nested) (text : Text)
    (trim : Extent → Extent) :
    (∀ position, (tree.extent root).touches position = true →
      ∃ start ranges, tree.containing ⟨position, position⟩ = .ok start ∧
        tree.selections text position trim = .ok ranges ∧
        tree.Surrounding trim start (.emptyAt position (text.pointAt position)) ranges) ∧
    (∀ position ranges, tree.selections text position trim = .ok ranges →
      ∃ chain, Chain.ofList? ranges = some chain ∧ chain.toList = ranges) ∧
    ∀ positions,
      (∃ chains, tree.selectionChains text trim positions = .ok chains ∧
        List.Forall₂ (fun position chain =>
          tree.selections text position trim = .ok chain.toList) positions chains) ∨
      ∃ before position after error, positions = before ++ position :: after ∧
        (∀ earlier ∈ before, ∃ ranges, tree.selections text earlier trim = .ok ranges) ∧
        tree.selections text position trim = .error error ∧
        tree.selectionChains text trim positions = .error error := by
  refine ⟨fun position htouches => ?_, fun _ _ => exists_chain, tree.selectionChains_cases text trim⟩
  -- The root touches the position, so the search finds a node, and all its ancestors are around it.
  have hroot : (tree.extent root).containsSpan ⟨position, position⟩ = true := htouches
  have hstart := containing_eq_ok (Nat.le_refl position) hroot
  have deepest := deepest_descend hroot
  refine ⟨_, _, hstart, ?_, Surrounding.growUp nested deepest.inside ?_⟩
  · rw [selections_eq, hstart]
    rfl
  · exact deepest.around _ (tree.mem_ancestors_self _)

/-- A trimmer that takes a byte off either end, be there one or not. -/
def shrink (extent : Extent) : Extent :=
  { extent with start := extent.start + 1, stop := extent.stop - 1 }

/-- From the first argument of a call, the inside of the arguments is selected before the arguments; what
    the trimmer gives for the argument itself is reversed, and is not. -/
theorem selections_grow_to_root_call :
    call.Nested ∧ (call.extent root).touches 2 = true ∧
      ∃ ranges, call.selections ['f', '(', 'a', ',', 'b', ')'] 2 shrink = .ok ranges ∧
        ranges.map (·.span) = [⟨2, 2⟩, ⟨2, 3⟩, ⟨2, 5⟩, ⟨1, 6⟩, ⟨0, 6⟩] ∧
        call.Surrounding shrink 4 (.emptyAt 2 ⟨0, 2⟩) ranges := by
  have nested : call.Nested := by decide
  have htouches : (call.extent root).touches 2 = true := by decide
  obtain ⟨start, ranges, hstart, hranges, surrounding⟩ :=
    (call.selections_grow_to_root nested ['f', '(', 'a', ',', 'b', ')'] shrink).1 2 htouches
  have hfound : call.containing ⟨2, 2⟩ = .ok 4 := rfl
  obtain rfl : start = 4 := Except.ok.inj (hstart.symm.trans hfound)
  refine ⟨nested, htouches, ranges, hranges, ?_, surrounding⟩
  have hlist : call.selections ['f', '(', 'a', ',', 'b', ')'] 2 shrink =
      .ok [⟨2, 2, ⟨0, 2⟩, ⟨0, 2⟩⟩, ⟨2, 3, ⟨0, 2⟩, ⟨0, 3⟩⟩, ⟨2, 5, ⟨0, 1⟩, ⟨0, 6⟩⟩,
        ⟨1, 6, ⟨0, 1⟩, ⟨0, 6⟩⟩, ⟨0, 6, ⟨0, 0⟩, ⟨0, 6⟩⟩] := rfl
  obtain rfl := Except.ok.inj (hranges.symm.trans hlist)
  rfl

end SyntaxTree

end LiveTree
