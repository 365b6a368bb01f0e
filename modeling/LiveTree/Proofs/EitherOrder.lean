import LiveTree.Proofs.Aftermath
import LiveTree.Proofs.Ancestors

/-!
# Exchanges in either order

Which of two spans is the left one is decided by where they start.  That is enough as long as they start
apart, and then it does not matter in which order they are given.  Of two spans that start together the
first is taken for the left one; so an empty span and one that starts where it stands can be exchanged if
the empty one is given first, and are said to overlap otherwise.

Siblings of a tree are given with the node first and its neighbour second.  A neighbour that is empty and
stands right before its node is therefore said to overlap with it, and no other one ever is.

## Key results

- `Text.Tied`: the pairs of spans for which the order matters
- `Document.toOption_swap_comm_iff`: it matters for no other pair
- `Document.swap_overlapping_iff`: which spans are said to overlap
- `SyntaxTree.SiblingsApart`: trees with ordered siblings, and `swapWithSibling_overlapping_iff`
-/

namespace LiveTree

/-- The span that starts first ends before the other one starts.  Of two that start together, the first
    counts as the one that does. -/
theorem Span.apart_iff (a b : Span) :
    (a.earlier b).stop ≤ (a.later b).start ↔
      (a.start ≤ b.start ∧ a.stop ≤ b.start) ∨ (b.start < a.start ∧ b.stop ≤ a.start) := by
  by_cases order : a.start ≤ b.start
  · rw [Span.earlier_of_le order, Span.later_of_le order]
    omega
  · unfold Span.earlier Span.later
    rw [if_neg order, if_neg order]
    omega

namespace Text

/-- Two spans that can be exchanged in one order only: they start together, and one of them is empty and
    the other is not. -/
structure Tied (text : Text) (a b : Span) : Prop where
  first : text.Admits a
  second : text.Admits b
  together : a.start = b.start
  uneven : a.start = a.stop ↔ b.start < b.stop

variable {text : Text} {a b : Span}

/-- Which of the two spans is tied to which does not matter. -/
theorem Tied.symm (tied : text.Tied a b) : text.Tied b a := by
  obtain ⟨first, second, together, uneven⟩ := tied
  have ha := first.ordered
  have hb := second.ordered
  exact ⟨second, first, together.symm, by omega⟩

/-- Two spans can be exchanged exactly if both can be replaced and one of them ends before the other
    starts. -/
theorem swappable_iff :
    text.Swappable a b ↔ text.Admits a ∧ text.Admits b ∧
      ((a.start ≤ b.start ∧ a.stop ≤ b.start) ∨ (b.start < a.start ∧ b.stop ≤ a.start)) := by
  rw [← Span.apart_iff]
  constructor
  · rintro ⟨-, -, apart, left, right⟩
    unfold Span.earlier at left
    unfold Span.later at right
    by_cases order : a.start ≤ b.start
    · rw [if_pos order] at left right
      exact ⟨left, right, apart⟩
    · rw [if_neg order] at left right
      exact ⟨right, left, apart⟩
  · rintro ⟨first, second, apart⟩
    refine ⟨first.ordered, second.ordered, apart, ?_, ?_⟩
    · unfold Span.earlier
      split <;> assumption
    · unfold Span.later
      split <;> assumption

/-- Spans that are not tied can be exchanged in both orders or in none. -/
theorem Swappable.symm (h : text.Swappable a b) (untied : ¬ text.Tied a b) :
    text.Swappable b a := by
  obtain ⟨first, second, apart⟩ := swappable_iff.1 h
  have ha := first.ordered
  have hb := second.ordered
  have even : a.start = b.start → ¬ (a.start = a.stop ↔ b.start < b.stop) :=
    fun together uneven => untied ⟨first, second, together, uneven⟩
  refine swappable_iff.2 ⟨second, first, ?_⟩
  by_cases together : a.start = b.start
  · -- The first one is empty, so the other is as well.
    have := even together
    omega
  · omega

/-- Of tied spans the empty one is to be given first. -/
theorem Tied.swappable_iff_empty (tied : text.Tied a b) :
    text.Swappable a b ↔ a.start = a.stop := by
  obtain ⟨first, second, together, uneven⟩ := tied
  have ha := first.ordered
  rw [swappable_iff]
  constructor
  · rintro ⟨-, -, apart⟩
    omega
  · intro empty
    exact ⟨first, second, by omega⟩

end Text

namespace Document

variable {doc : Document} {a b : Span}

/-- Spans that can be exchanged in both orders are exchanged alike. -/
theorem swap_comm_of_swappable (h : doc.text.Swappable a b) (h' : doc.text.Swappable b a) :
    doc.swap a b = doc.swap b a := by
  have apart := (Text.swappable_iff.1 h).2.2
  have apart' := (Text.swappable_iff.1 h').2.2
  have ha := h.first
  have hb := h.second
  by_cases together : a.start = b.start
  · -- Both are empty.
    have stops : a.stop = b.stop := by omega
    obtain rfl : a = b := by
      cases a
      cases b
      simp_all
    rfl
  · have hearlier : a.earlier b = b.earlier a := by
      unfold Span.earlier
      split <;> split <;> first | rfl | omega
    have hlater : a.later b = b.later a := by
      unfold Span.later
      split <;> split <;> first | rfl | omega
    rw [swap_eq, swap_eq, hearlier, hlater]
    simp only [Nat.not_lt.2 ha, Nat.not_lt.2 hb, if_false]

/-- An exchange gives something exactly if the two spans can be exchanged. -/
theorem isSome_toOption_swap_iff :
    (doc.swap a b).toOption.isSome ↔ doc.text.Swappable a b := by
  rw [← swap_eq_ok_iff]
  cases doc.swap a b with
  | error error => simp [Except.toOption]
  | ok exchanged => exact ⟨fun _ => ⟨_, _, rfl⟩, fun _ => rfl⟩

/-- It does not depend on the order of two spans whether they are exchanged and what comes of it, unless
    they are tied. -/
theorem toOption_swap_comm_iff :
    (doc.swap a b).toOption = (doc.swap b a).toOption ↔ ¬ doc.text.Tied a b := by
  constructor
  · intro same tied
    have both : doc.text.Swappable a b ↔ doc.text.Swappable b a := by
      rw [← isSome_toOption_swap_iff, ← isSome_toOption_swap_iff, same]
    -- Both would have to be empty or none, and just one of them is.
    rw [tied.swappable_iff_empty, tied.symm.swappable_iff_empty] at both
    have uneven := tied.uneven
    have hb := tied.second.ordered
    omega
  · intro untied
    by_cases h : doc.text.Swappable a b
    · rw [swap_comm_of_swappable h (h.symm untied)]
    · have h' : ¬ doc.text.Swappable b a := fun h' => h (h'.symm fun tied => untied tied.symm)
      rw [← isSome_toOption_swap_iff, Bool.not_eq_true, Option.isSome_eq_false_iff,
        Option.isNone_iff_eq_none] at h h'
      rw [h, h']

/-- Tied spans are exchanged if the empty one is given first, and said to overlap otherwise. -/
theorem swap_of_tied (tied : doc.text.Tied a b) (empty : a.start = a.stop) :
    (∃ next swap, doc.swap a b = .ok (next, swap)) ∧ doc.swap b a = .error (.overlapping b a) := by
  constructor
  · exact swap_eq_ok_iff.2 (tied.swappable_iff_empty.2 empty)
  · have order : b.start ≤ a.start := Nat.le_of_eq tied.together.symm
    have nonempty : a.start < b.stop := by
      rw [tied.together]
      exact tied.uneven.1 empty
    have fault : doc.text.SwapFault b a (.overlapping (b.earlier a) (b.later a)) := by
      refine .overlapping tied.second.ordered tied.first.ordered ?_
      rw [Span.earlier_of_le order, Span.later_of_le order]
      exact nonempty
    rw [Span.earlier_of_le order, Span.later_of_le order] at fault
    exact swap_eq_error_iff.2 fault

/-- Of two spans in order those are said to overlap that share a byte, and besides an empty one inside
    another.  At the start of the other it is inside only if it is given second. -/
theorem swap_overlapping_iff (first : a.start ≤ a.stop) (second : b.start ≤ b.stop) :
    (∃ left right, doc.swap a b = .error (.overlapping left right)) ↔
      (∃ byte, (a.start ≤ byte ∧ byte < a.stop) ∧ b.start ≤ byte ∧ byte < b.stop) ∨
        (b.start = b.stop ∧ a.start ≤ b.start ∧ b.start < a.stop) ∨
        (a.start = a.stop ∧ b.start < a.start ∧ a.start < b.stop) := by
  have apart := Span.apart_iff a b
  have said : (∃ left right, doc.swap a b = .error (.overlapping left right)) ↔
      ¬ (a.earlier b).stop ≤ (a.later b).start := by
    simp only [swap_eq_error_iff]
    constructor
    · rintro ⟨left, right, fault⟩
      -- Of the faults this is the only one that says so.
      cases fault with
      | overlapping _ _ overlap => omega
    · intro overlap
      exact ⟨_, _, .overlapping first second (by omega)⟩
  rw [said, apart]
  constructor
  -- If one of them is empty, the claim is about its place; otherwise they share a byte.
  · intro overlap
    by_cases inside : b.start = b.stop ∨ a.start = a.stop
    · right
      omega
    · -- Both have bytes, and the later start is a byte of both.
      left
      exact ⟨max a.start b.start, by omega⟩
  · rintro (⟨byte, inFirst, inSecond⟩ | inside | inside) <;> omega

end Document

/-! ## Siblings -/

namespace SyntaxTree

/-- No node ends before it starts, and of two children of a node the earlier one ends before the later one
    starts. -/
structure SiblingsApart (tree : SyntaxTree) : Prop where
  ordered : ∀ id < tree.size, (tree.extent id).start ≤ (tree.extent id).stop
  apart : ∀ id < tree.size, (tree.children id).Pairwise fun first second =>
    (tree.extent first).stop ≤ (tree.extent second).start

variable {tree : SyntaxTree} {id parent sibling : NodeId}

/-- Also a node that is not in the tree does not end before it starts: it is empty. -/
theorem SiblingsApart.extent_ordered (apart : tree.SiblingsApart) (id : NodeId) :
    (tree.extent id).start ≤ (tree.extent id).stop := by
  by_cases inside : id < tree.size
  · exact apart.ordered id inside
  · unfold extent
    rw [node_of_size_le (Nat.le_of_not_lt inside)]
    exact Nat.le_refl 0

/-- The previous named sibling ends before the node starts. -/
theorem SiblingsApart.previousNamed? (apart : tree.SiblingsApart)
    (h : tree.previousNamed? id = some sibling) :
    (tree.extent sibling).stop ≤ (tree.extent id).start := by
  unfold SyntaxTree.previousNamed? at h
  obtain ⟨parent, hparent, hfound⟩ := Option.bind_eq_some_iff.1 h
  have before := List.mem_reverse.1 (List.mem_of_find?_eq_some hfound)
  have siblings := InOrder.children apart.apart parent
  rw [children_parent hparent] at siblings
  exact (List.pairwise_append.1 siblings).2.2 sibling before id List.mem_cons_self

/-- And the next one starts after the node ends. -/
theorem SiblingsApart.nextNamed? (apart : tree.SiblingsApart)
    (h : tree.nextNamed? id = some sibling) :
    (tree.extent id).stop ≤ (tree.extent sibling).start := by
  unfold SyntaxTree.nextNamed? at h
  obtain ⟨parent, hparent, hfound⟩ := Option.bind_eq_some_iff.1 h
  have after := List.mem_of_find?_eq_some hfound
  have siblings := InOrder.children apart.apart parent
  rw [children_parent hparent] at siblings
  have rest := (List.pairwise_append.1 siblings).2.1
  exact (List.pairwise_cons.1 rest).1 sibling after

/-- To find a node around a span may fail, but not in this way. -/
theorem containing_ne_overlapping (tree : SyntaxTree) (span left right : Span) :
    tree.containing span ≠ .error (.overlapping left right) := by
  unfold containing
  split
  · exact nofun
  · split <;> exact nofun

end SyntaxTree

namespace Workspace

variable {w : Workspace} {parser : Parser} {id : DocumentId} {doc : Document} {a b : Span}

/-- Two pieces of a document are said to overlap only by the exchange itself, not by what follows. -/
theorem swapSiblings_overlapping_iff (found : w.documents[id]? = some doc) (parser : Parser)
    (left right : Span) :
    (w.swapSiblings parser id a b).2 = some (.error (.query (.overlapping left right))) ↔
      doc.swap a b = .error (.overlapping left right) := by
  cases hswap : doc.swap a b with
  | error error =>
    rw [swapSiblings_of_refused parser found hswap]
    simp
  | ok exchanged =>
    obtain ⟨next, swap⟩ := exchanged
    refine ⟨fun failed => ?_, nofun⟩
    exact nomatch not_refusesExchange_of_swap found hswap failed

/-- Of a node and its neighbour in a tree with ordered siblings, the neighbour is said to overlap exactly
    if it is the previous one and empty, at the start of a node that is not. -/
theorem swap_sibling_overlapping_iff {tree : SyntaxTree} (apart : tree.SiblingsApart)
    (doc : Document) {node : NodeId} {direction : Direction}
    (other : tree.sibling node direction ≠ node) :
    (∃ left right, doc.swap (tree.extent node).span
        (tree.extent (tree.sibling node direction)).span = .error (.overlapping left right)) ↔
      direction = .previous ∧ ∃ sibling, tree.previousNamed? node = some sibling ∧
        (tree.extent sibling).start = (tree.extent node).start ∧
        (tree.extent sibling).stop = (tree.extent node).start ∧
        (tree.extent node).start < (tree.extent node).stop := by
  have first := apart.extent_ordered node
  have second := apart.extent_ordered (tree.sibling node direction)
  rw [Document.swap_overlapping_iff first second]
  unfold Extent.span
  dsimp only
  cases direction with
  | next =>
    cases hfound : tree.nextNamed? node with
    | none =>
      unfold SyntaxTree.sibling at other
      -- With no named sibling on that side the node would be its own neighbour.
      simp [hfound] at other
    | some sibling =>
      have hsibling : tree.sibling node .next = sibling := by
        simp [SyntaxTree.sibling, hfound]
      have order := apart.nextNamed? hfound
      rw [hsibling] at second ⊢
      simp only [reduceCtorEq, false_and, iff_false]
      rintro (⟨byte, inNode, inSibling⟩ | inside | inside) <;> omega
  | previous =>
    cases hfound : tree.previousNamed? node with
    | none =>
      unfold SyntaxTree.sibling at other
      -- Here, too.
      simp [hfound] at other
    | some sibling =>
      have hsibling : tree.sibling node .previous = sibling := by
        simp [SyntaxTree.sibling, hfound]
      have order := apart.previousNamed? hfound
      rw [hsibling] at second ⊢
      constructor
      · rintro (⟨byte, inNode, inSibling⟩ | inside | inside)
        · omega
        · exact ⟨rfl, sibling, rfl, by omega⟩
        · omega
      · rintro ⟨-, _, ⟨⟩, start, stop, nonempty⟩
        exact .inr (.inl (by omega))

/-- On a tree with ordered siblings, the exchange of the node around a span with its neighbour is refused
    as one of overlapping pieces exactly if the neighbour is the previous one and empty, at the start of a
    node that is not. -/
theorem swapWithSibling_overlapping_iff (found : w.documents[id]? = some doc) {tree : SyntaxTree}
    (looked : (w.treeNow parser doc.uri).2 = .ok tree) (apart : tree.SiblingsApart) (span : Span)
    (direction : Direction) :
    (∃ left right, (w.swapWithSibling parser id span direction).2 =
        some (.error (.query (.overlapping left right)))) ↔
      direction = .previous ∧ ∃ node sibling, tree.containing span = .ok node ∧
        tree.previousNamed? node = some sibling ∧
        (tree.extent sibling).start = (tree.extent node).start ∧
        (tree.extent sibling).stop = (tree.extent node).start ∧
        (tree.extent node).start < (tree.extent node).stop := by
  have documents := w.treeNow_documents parser doc.uri
  rw [swapWithSibling_of_document span direction found]
  cases hlook : w.treeNow parser doc.uri with
  | mk later answer =>
    rw [hlook] at looked documents
    dsimp only at looked documents ⊢
    rw [looked]
    dsimp only
    cases hnode : tree.containing span with
    | error error =>
      have hother := tree.containing_ne_overlapping span
      rw [hnode] at hother
      -- A node that is not found is no node to be exchanged.
      simp_all
    | ok node =>
      dsimp only
      by_cases hsibling : tree.sibling node direction = node
      · rw [if_pos hsibling]
        -- A node is not its own neighbour.
        refine ⟨fun ⟨_, _, h⟩ => (nomatch h), ?_⟩
        rintro ⟨rfl, _, sibling, ⟨⟩, hfound, -, stop, nonempty⟩
        obtain rfl : sibling = node := by simpa [SyntaxTree.sibling, hfound] using hsibling
        omega
      · rw [if_neg hsibling]
        -- The exchange is made on the documents as they were before the look.
        have answers (left right : Span) :
            (later.swapSiblings parser id (tree.extent node).span
              (tree.extent (tree.sibling node direction)).span).2.map (·.map some) =
                some (.error (.query (.overlapping left right))) ↔
              doc.swap (tree.extent node).span (tree.extent (tree.sibling node direction)).span =
                .error (.overlapping left right) := by
          rw [← swapSiblings_overlapping_iff (documents ▸ found) parser left right,
            Option.map_eq_some_iff]
          constructor
          · rintro ⟨result, hresult, hmapped⟩
            cases result with
            | ok swapped => exact nomatch hmapped
            | error error =>
              obtain rfl := Except.error.inj hmapped
              exact hresult
          · intro hresult
            exact ⟨_, hresult, rfl⟩
        simp only [answers, swap_sibling_overlapping_iff apart doc hsibling, Except.ok.injEq,
          exists_and_left, exists_eq_left']

/-- In which order two spans are given makes no difference to an exchange, unless they are tied; then they
    are exchanged if the empty one comes first, and said to overlap otherwise.  On a tree with ordered
    siblings, a node and its neighbour are said to overlap only for that reason.  An exchange that is
    refused leaves all documents as they are. -/
theorem exchange_order_matters (doc : Document) :
    (∀ a b, (doc.swap a b).toOption = (doc.swap b a).toOption ↔ ¬ doc.text.Tied a b) ∧
    (∀ a b, doc.text.Tied a b → a.start = a.stop →
      (∃ next swap, doc.swap a b = .ok (next, swap)) ∧ doc.swap b a = .error (.overlapping b a)) ∧
    (∀ a b : Span, a.start ≤ a.stop → b.start ≤ b.stop →
      ((∃ left right, doc.swap a b = .error (.overlapping left right)) ↔
        (∃ byte, (a.start ≤ byte ∧ byte < a.stop) ∧ b.start ≤ byte ∧ byte < b.stop) ∨
        (b.start = b.stop ∧ a.start ≤ b.start ∧ b.start < a.stop) ∨
        (a.start = a.stop ∧ b.start < a.start ∧ a.start < b.stop))) ∧
    ∀ (w : Workspace) (parser : Parser) (id : DocumentId), w.documents[id]? = some doc →
      (∀ a b error, doc.swap a b = .error error →
        (w.swapSiblings parser id a b).1.documents = w.documents) ∧
      ∀ tree, (w.treeNow parser doc.uri).2 = .ok tree → tree.SiblingsApart →
        ∀ span direction,
          (∃ left right, (w.swapWithSibling parser id span direction).2 =
              some (.error (.query (.overlapping left right)))) ↔
            direction = .previous ∧ ∃ node sibling, tree.containing span = .ok node ∧
              tree.previousNamed? node = some sibling ∧
              (tree.extent sibling).start = (tree.extent node).start ∧
              (tree.extent sibling).stop = (tree.extent node).start ∧
              (tree.extent node).start < (tree.extent node).stop := by
  refine ⟨fun a b => Document.toOption_swap_comm_iff, fun a b => Document.swap_of_tied,
    fun a b => Document.swap_overlapping_iff, fun w parser id found => ⟨?_, ?_⟩⟩
  · intro a b error refused
    unfold swapSiblings
    simp only [found, refused]
    rfl
  · exact fun tree looked apart span direction =>
      swapWithSibling_overlapping_iff found looked apart span direction

/-- A tree in which something is missing right before a word. -/
def missingBefore : ParseTree where
  root := .mk ⟨"program", true, false, false, ⟨0, 2, ⟨0, 0⟩, ⟨0, 2⟩⟩⟩ [
    .mk ⟨"identifier", true, false, true, ⟨0, 0, ⟨0, 0⟩, ⟨0, 0⟩⟩⟩ [],
    .mk ⟨"identifier", true, false, false, ⟨0, 2, ⟨0, 0⟩, ⟨0, 2⟩⟩⟩ []]
  expression := "(program (MISSING identifier) (identifier))"

/-- A parser that finds it. -/
def missingParser : Parser :=
  .ofRecordings [⟨"javascript", ['a', 'b'], missingBefore, none⟩] none

/-- The word cannot be exchanged with what is missing before it. -/
theorem exchange_order_matters_missing :
    ∃ w, (create {} "/home" {} false).play missingParser
        [.create "file:///a.js" "javascript" ['a', 'b'], .openDocument 0] = w ∧
      ∃ left right, (w.swapWithSibling missingParser 0 ⟨0, 1⟩ .previous).2 =
        some (.error (.query (.overlapping left right))) := by
  refine ⟨_, rfl, ?_⟩
  refine (((exchange_order_matters (.create "file:///a.js" "javascript" ['a', 'b'])).2.2.2 _
    missingParser 0 rfl).2 (.ofParse "javascript" 0 missingBefore) rfl ⟨by decide, by decide⟩
    ⟨0, 1⟩ .previous).2 ?_
  exact ⟨rfl, 2, 1, rfl, rfl, rfl, rfl, by decide⟩

/-- A word and the empty span before it are exchanged in one order and said to overlap in the other. -/
theorem exchange_order_tied :
    ∃ doc : Document, doc.text = ['f', 'o', 'o', '(', 'a', ',', ' ', 'b', ')', ';'] ∧
      (∃ next swap, doc.swap ⟨4, 4⟩ ⟨4, 5⟩ = .ok (next, swap)) ∧
      doc.swap ⟨4, 5⟩ ⟨4, 4⟩ = .error (.overlapping ⟨4, 5⟩ ⟨4, 4⟩) :=
  ⟨.create "file:///a.js" "javascript" ['f', 'o', 'o', '(', 'a', ',', ' ', 'b', ')', ';'], rfl,
    ⟨_, _, rfl⟩, rfl⟩

end Workspace

end LiveTree
