import LiveTree.Proofs.Containment
import LiveTree.Query.Bracket

/-!
# The tightest run of list elements around a span

The elements of the nearest list are scanned once, from the first on.  The scan remembers the last element
that touches the start of the span and ends with the first one that touches its stop.  So it finds the
two ends of a run only if the elements are in order: if one touches the stop and a later one the start,
then both stand at an empty span, and the earlier one touches the start as well.

## Key results

- `SyntaxTree.scanElements_append`: what a scan finds that ends with a given element
- `SyntaxTree.InOrder.touchedAt`: an element that touches the stop touches the start if a later one does
- `SyntaxTree.Tightest.le`: the run that is found is as short as any
- `SyntaxTree.bracket_tightest`: which elements bracket a span, and when there are any
-/

namespace LiveTree

/-- An extent spans what its span is. -/
theorem Extent.spans_iff {e : Extent} {s : Span} : e.spans s = true ↔ e.span = s := by
  cases s
  simp [spans, span]

/-- An extent touches an offset if it starts there at the latest and ends there at the soonest. -/
theorem Extent.touches_iff {e : Extent} {offset : Nat} :
    e.touches offset = true ↔ e.start ≤ offset ∧ offset ≤ e.stop := by
  simp [touches]

namespace SyntaxTree

/-- The node from which the list around a span is sought upwards: the deepest node around the span, or
    its parent if that node is the span and no more. -/
def SoughtFrom (tree : SyntaxTree) (span : Span) (id : NodeId) : Prop :=
  ∃ node, tree.containing span = .ok node ∧
    ((tree.extent node).span ≠ span ∧ id = node ∨
      (tree.extent node).span = span ∧ tree.parent? node = some id)

/-- The first list on the way up from there. -/
def NearestList (tree : SyntaxTree) (span : Span) (isList : String → Bool) (list : NodeId) : Prop :=
  ∃ base, tree.SoughtFrom span base ∧ isList (tree.kind list) = true ∧
    ∃ below above, tree.ancestors base = below ++ list :: above ∧
      ∀ id ∈ below, isList (tree.kind id) = false

/-- The element at a position touches an offset. -/
def TouchedAt (tree : SyntaxTree) (elements : List NodeId) (offset position : Nat) : Prop :=
  ∃ id, elements[position]? = some id ∧ (tree.extent id).touches offset = true

/-- The elements from position `i` to position `j` reach from the start of a span to its stop. -/
structure Reaches (tree : SyntaxTree) (span : Span) (elements : List NodeId) (i j : Nat) : Prop where
  ordered : i ≤ j
  start : tree.TouchedAt elements span.start i
  stop : tree.TouchedAt elements span.stop j

/-- They do, from the last element up to there that touches the start, to the first one that touches the
    stop. -/
structure Tightest (tree : SyntaxTree) (span : Span) (elements : List NodeId) (i j : Nat) : Prop
    extends tree.Reaches span elements i j where
  lastStart : ∀ k, i < k → k ≤ j → ¬ tree.TouchedAt elements span.start k
  firstStop : ∀ k, k < j → ¬ tree.TouchedAt elements span.stop k

variable {tree : SyntaxTree} {span : Span} {elements : List NodeId}

/-! ## The scan -/

/-- A scan that comes to no element touching the stop ends with nothing. -/
theorem scanElements_of_none (first : Option NodeId)
    (none : ∀ id ∈ elements, (tree.extent id).touches span.stop = false) :
    tree.scanElements span first elements = .none := by
  -- By induction on the elements, with what the scan has free: it may change with each one.
  induction elements generalizing first with
  | nil => rfl
  | cons id rest ih =>
    rw [scanElements, none id List.mem_cons_self, if_neg Bool.false_ne_true]
    exact ih _ fun other hother => none other (List.mem_cons_of_mem _ hother)

/-- A scan that ends with an element has found the last one up to it that touches the start, or else what
    it had before. -/
theorem scanElements_append (first : Option NodeId) {before : List NodeId} {last : NodeId}
    (after : List NodeId) (none : ∀ id ∈ before, (tree.extent id).touches span.stop = false)
    (stop : (tree.extent last).touches span.stop = true) :
    tree.scanElements span first (before ++ last :: after) =
      (((before ++ [last]).reverse.find? fun id => (tree.extent id).touches span.start).or first).map
        fun first => (first, last) := by
  -- By induction on the elements before, again with what the scan has free.
  induction before generalizing first with
  | nil =>
    rw [List.nil_append, scanElements, if_pos stop]
    cases hstart : (tree.extent last).touches span.start <;> simp [hstart]
  | cons id rest ih =>
    rw [List.cons_append, scanElements, none id List.mem_cons_self, if_neg Bool.false_ne_true,
      ih _ fun other hother => none other (List.mem_cons_of_mem _ hother)]
    -- From behind, this element comes after the others and before what the scan had.
    rw [List.cons_append, List.reverse_cons, List.find?_append, Option.or_assoc]
    cases hstart : (tree.extent id).touches span.start <;> simp [hstart]

/-- The first element that touches the stop divides the elements. -/
theorem exists_split (tree : SyntaxTree) (span : Span) (elements : List NodeId) :
    (∀ id ∈ elements, (tree.extent id).touches span.stop = false) ∨
      ∃ before last after, elements = before ++ last :: after ∧
        (∀ id ∈ before, (tree.extent id).touches span.stop = false) ∧
        (tree.extent last).touches span.stop = true := by
  cases hfind : elements.find? fun id => (tree.extent id).touches span.stop with
  | none => exact .inl fun id hid => by simpa using List.find?_eq_none.1 hfind id hid
  | some last =>
    obtain ⟨hstop, before, after, helements, hbefore⟩ := List.find?_eq_some_iff_append.1 hfind
    exact .inr ⟨before, last, after, helements, fun id hid => by simpa using hbefore id hid, hstop⟩

/-- What is found first from behind is the last one that there is. -/
theorem last_of_find?_reverse {α : Type} {p : α → Bool} {as : List α} {a : α}
    (h : as.reverse.find? p = some a) :
    ∃ i : Nat, as[i]? = some a ∧ p a = true ∧
      ∀ (k : Nat) (b : α), i < k → as[k]? = some b → p b = false := by
  -- From behind, what is found is followed by others of which it is not true.
  obtain ⟨hp, later, earlier, hreverse, hlater⟩ := List.find?_eq_some_iff_append.1 h
  have has : as = earlier.reverse ++ a :: later.reverse := by
    simpa using congrArg List.reverse hreverse
  refine ⟨earlier.length, by simp [has], hp, fun k b hlt hb => ?_⟩
  obtain ⟨m, rfl⟩ := Nat.exists_eq_add_of_lt hlt
  have hposition : earlier.length + m + 1 - earlier.reverse.length = m + 1 := by
    rw [List.length_reverse]
    omega
  rw [has, List.getElem?_append_right (by rw [List.length_reverse]; omega), hposition,
    List.getElem?_cons_succ] at hb
  simpa using hlater b (List.mem_reverse.1 (List.mem_of_getElem? hb))

/-- The elements that a scan finds are the ends of the tightest run. -/
theorem scanElements_eq_some {first last : NodeId}
    (h : tree.scanElements span none elements = some (first, last)) :
    ∃ i j, elements[i]? = some first ∧ elements[j]? = some last ∧
      tree.Tightest span elements i j := by
  -- The scan ends at the first element that touches the stop, if there is one.
  rcases tree.exists_split span elements with hnone | ⟨before, found, after, rfl, hbefore, hstop⟩
  · rw [scanElements_of_none none hnone] at h
    exact nomatch h
  · rw [scanElements_append none after hbefore hstop, Option.or_none, Option.map_eq_some_iff] at h
    obtain ⟨_, hfind, heq⟩ := h
    obtain ⟨rfl, rfl⟩ := Prod.mk.inj heq.symm
    obtain ⟨i, hi, hstart, hlater⟩ := last_of_find?_reverse hfind
    -- Up to the last one, the elements are those that were scanned.
    have hscanned : ∀ k, k ≤ before.length →
        (before ++ last :: after)[k]? = (before ++ [last])[k]? := by
      intro k hk
      rw [List.append_cons, List.getElem?_append_left]
      rw [List.length_append, List.length_singleton]
      exact Nat.lt_succ_of_le hk
    have hle : i ≤ before.length := by
      obtain ⟨hlt, -⟩ := List.getElem?_eq_some_iff.1 hi
      rw [List.length_append, List.length_singleton] at hlt
      exact Nat.le_of_lt_succ hlt
    have hfirst := (hscanned i hle).trans hi
    have hlast : (before ++ last :: after)[before.length]? = some last := by simp
    refine ⟨i, before.length, hfirst, hlast, ⟨hle, ⟨_, hfirst, hstart⟩, ⟨_, hlast, hstop⟩⟩, ?_, ?_⟩
    · rintro k hlt hk ⟨id, hid, htouches⟩
      rw [hlater k id hlt ((hscanned k hk).symm.trans hid)] at htouches
      exact nomatch htouches
    · rintro k hlt ⟨id, hid, htouches⟩
      rw [List.getElem?_append_left hlt] at hid
      rw [hbefore id (List.mem_of_getElem? hid)] at htouches
      exact nomatch htouches

/-- The element at a touched position does touch the offset. -/
theorem TouchedAt.touches {offset position : Nat} {id : NodeId}
    (touched : tree.TouchedAt elements offset position) (h : elements[position]? = some id) :
    (tree.extent id).start ≤ offset ∧ offset ≤ (tree.extent id).stop := by
  obtain ⟨other, hother, htouches⟩ := touched
  obtain rfl := Option.some.inj (h.symm.trans hother)
  exact Extent.touches_iff.1 htouches

/-! ## Elements in order -/

/-- An element that touches the stop of a span touches its start if a later one does.  The later one
    starts where the earlier one ends at the soonest, so the span is empty and stands between them. -/
theorem InOrder.touchedAt (inOrder : tree.InOrder) (ordered : span.start ≤ span.stop) {list : NodeId}
    {p q : Nat} (hlt : p < q) (stop : tree.TouchedAt (tree.namedChildren list) span.stop p)
    (start : tree.TouchedAt (tree.namedChildren list) span.start q) :
    tree.TouchedAt (tree.namedChildren list) span.start p := by
  obtain ⟨earlier, hearlier, hstop⟩ := stop
  obtain ⟨later, hlater, hstart⟩ := start
  obtain ⟨hp, hearlier'⟩ := List.getElem?_eq_some_iff.1 hearlier
  obtain ⟨hq, hlater'⟩ := List.getElem?_eq_some_iff.1 hlater
  have apart := List.pairwise_iff_getElem.1 ((inOrder.children list).filter tree.isNamed) p q hp hq hlt
  unfold namedChildren at hearlier' hlater'
  rw [hearlier', hlater'] at apart
  rw [Extent.touches_iff] at hstop hstart
  refine ⟨earlier, hearlier, ?_⟩
  rw [Extent.touches_iff]
  omega

/-- No run that reaches over a span is shorter than the tightest one. -/
theorem Tightest.le (inOrder : tree.InOrder) (ordered : span.start ≤ span.stop) {list : NodeId}
    {i j i' j' : Nat} (tightest : tree.Tightest span (tree.namedChildren list) i j)
    (reaches : tree.Reaches span (tree.namedChildren list) i' j') : j - i ≤ j' - i' := by
  have hle : j ≤ j' := Nat.le_of_not_lt fun hlt => tightest.firstStop j' hlt reaches.stop
  by_cases hstart : i < i'
  · -- The other run starts after the tightest one, which is then a single element.
    have hlt : j < i' := Nat.lt_of_not_le fun hk => tightest.lastStart i' hstart hk reaches.start
    have htouched := inOrder.touchedAt ordered hlt tightest.stop reaches.start
    have hsingle : ¬ i < j := fun hk => tightest.lastStart j hk (Nat.le_refl j) htouched
    omega
  · omega

/-- The scan of the elements of a list finds something if and only if both ends of the span are
    touched. -/
theorem InOrder.isSome_scanElements_iff (inOrder : tree.InOrder) (ordered : span.start ≤ span.stop)
    (list : NodeId) :
    (tree.scanElements span none (tree.namedChildren list)).isSome ↔
      (∃ child ∈ tree.namedChildren list, (tree.extent child).touches span.start = true) ∧
      ∃ child ∈ tree.namedChildren list, (tree.extent child).touches span.stop = true := by
  constructor
  · intro h
    obtain ⟨⟨first, last⟩, hsome⟩ := Option.isSome_iff_exists.1 h
    obtain ⟨i, j, -, -, tightest⟩ := scanElements_eq_some hsome
    obtain ⟨child, hchild, hstart⟩ := tightest.start
    obtain ⟨child', hchild', hstop⟩ := tightest.stop
    exact ⟨⟨child, List.mem_of_getElem? hchild, hstart⟩, child', List.mem_of_getElem? hchild', hstop⟩
  · rintro ⟨⟨child, hchild, hstart⟩, child', hchild', hstop⟩
    rcases tree.exists_split span (tree.namedChildren list) with
      hnone | ⟨before, last, after, helements, hbefore, hlast⟩
    · rw [hnone child' hchild'] at hstop
      exact nomatch hstop
    · have hposition : (tree.namedChildren list)[before.length]? = some last := by simp [helements]
      -- Some element up to the last one touches the start, if not an earlier one then the last itself.
      have hexists : ∃ first ∈ before ++ [last], (tree.extent first).touches span.start = true := by
        rw [helements, List.append_cons] at hchild
        rcases List.mem_append.1 hchild with hscanned | hlater
        · exact ⟨child, hscanned, hstart⟩
        · obtain ⟨k, hk⟩ := List.getElem?_of_mem hlater
          have hchildAt : (tree.namedChildren list)[before.length + 1 + k]? = some child := by
            rw [helements, List.append_cons, List.getElem?_append_right (by simp)]
            simpa using hk
          obtain ⟨id, hid, htouches⟩ := inOrder.touchedAt ordered (by omega)
            ⟨last, hposition, hlast⟩ ⟨child, hchildAt, hstart⟩
          obtain rfl := Option.some.inj (hposition.symm.trans hid)
          exact ⟨last, by simp, htouches⟩
      rw [helements, scanElements_append none after hbefore hlast, Option.or_none, Option.isSome_map,
        List.find?_isSome]
      obtain ⟨first, hfirst, htouches⟩ := hexists
      exact ⟨first, List.mem_reverse.2 hfirst, htouches⟩

/-! ## The list -/

section

variable {isList : String → Bool}

/-- The search for a list starts where it should, or not at all. -/
theorem bracketBase_eq_ok_iff {base : NodeId} :
    tree.bracketBase span = .ok base ↔ tree.SoughtFrom span base := by
  unfold bracketBase SoughtFrom
  cases hnode : tree.containing span with
  | error error => simp [bind, Except.bind]
  | ok node =>
    simp only [bind, Except.bind, Except.ok.injEq, exists_eq_left']
    by_cases hspan : (tree.extent node).span = span
    · rw [if_pos (Extent.spans_iff.2 hspan)]
      cases hparent : tree.parent? node <;>
        simp [hspan, pure, Except.pure, throw, throwThe, MonadExceptOf.throw]
    · rw [if_neg (mt Extent.spans_iff.1 hspan)]
      simp [hspan, pure, Except.pure, eq_comm]

/-- The first list among the ancestors is the nearest one. -/
theorem find?_ancestors_eq_some_iff {base list : NodeId} :
    (tree.ancestors base).find? (fun id => isList (tree.kind id)) = some list ↔
      isList (tree.kind list) = true ∧
        ∃ below above, tree.ancestors base = below ++ list :: above ∧
          ∀ id ∈ below, isList (tree.kind id) = false := by
  rw [List.find?_eq_some_iff_append]
  simp

/-- A span is bracketed by what the scan of the nearest list finds. -/
theorem bracket_eq_ok_iff {bracket : Bracket} :
    tree.bracket span isList = .ok bracket ↔
      tree.NearestList span isList bracket.list ∧
      tree.scanElements span none (tree.namedChildren bracket.list) =
        some (bracket.first, bracket.last) := by
  unfold SyntaxTree.bracket NearestList
  simp only [← bracketBase_eq_ok_iff, ← find?_ancestors_eq_some_iff]
  -- The steps of the search one after the other: where it starts, the list, and the scan of its
  -- elements.
  cases hbase : tree.bracketBase span with
  | error error => simp [bind, Except.bind]
  | ok base =>
    simp only [bind, Except.bind, Except.ok.injEq, exists_eq_left']
    cases hlist : (tree.ancestors base).find? fun id => isList (tree.kind id) with
    | none => simp [throw, throwThe, MonadExceptOf.throw]
    | some list =>
      cases hscan : tree.scanElements span none (tree.namedChildren list) with
      | none =>
        simp only [hscan, throw, throwThe, MonadExceptOf.throw, reduceCtorEq, false_iff,
          Option.some.injEq]
        rintro ⟨rfl, hsome⟩
        exact nomatch hscan.symm.trans hsome
      | some ends =>
        obtain ⟨first, last⟩ := ends
        simp only [hscan, pure, Except.pure, Except.ok.injEq, Option.some.injEq]
        constructor
        · rintro rfl
          exact ⟨rfl, hscan⟩
        · rintro ⟨rfl, hsome⟩
          obtain ⟨rfl, rfl⟩ := Prod.mk.inj (Option.some.inj (hscan.symm.trans hsome))
          rfl

/-- If there is a node around the span, then nothing else goes wrong than that no elements bracket it. -/
theorem bracket_eq_error {error : QueryError} {node : NodeId} (found : tree.containing span = .ok node)
    (h : tree.bracket span isList = .error error) : error = .ambiguousBoundary span := by
  unfold SyntaxTree.bracket bracketBase at h
  rw [found] at h
  simp only [bind, Except.bind, pure, Except.pure, throw, throwThe, MonadExceptOf.throw] at h
  -- What is left is to look at each way in which the search can end.
  grind

end

/-- In a tree whose siblings follow one another, elements bracket a span if and only if there is a list
    around it with an element that touches the start and one that touches the stop.  Then they are the
    ends of the tightest run: the last element up to the other end that touches the start, and the first
    one that touches the stop.  No shorter run reaches over the span.  Otherwise the boundary is
    ambiguous. -/
theorem bracket_tightest (tree : SyntaxTree) (inOrder : tree.InOrder) (span : Span)
    (ordered : span.start ≤ span.stop) (inside : (tree.extent root).containsSpan span = true)
    (isList : String → Bool) :
    ((∃ bracket, tree.bracket span isList = .ok bracket) ↔
      ∃ list, tree.NearestList span isList list ∧
        (∃ child ∈ tree.namedChildren list, (tree.extent child).touches span.start = true) ∧
        ∃ child ∈ tree.namedChildren list, (tree.extent child).touches span.stop = true) ∧
    (∀ bracket, tree.bracket span isList = .ok bracket →
      tree.NearestList span isList bracket.list ∧
      ∃ i j, (tree.namedChildren bracket.list)[i]? = some bracket.first ∧
        (tree.namedChildren bracket.list)[j]? = some bracket.last ∧
        tree.Tightest span (tree.namedChildren bracket.list) i j ∧
        (tree.extent bracket.first).start ≤ span.start ∧
        span.stop ≤ (tree.extent bracket.last).stop ∧
        ∀ i' j', tree.Reaches span (tree.namedChildren bracket.list) i' j' → j - i ≤ j' - i') ∧
    ∀ error, tree.bracket span isList = .error error → error = .ambiguousBoundary span := by
  refine ⟨?_, fun bracket hbracket => ?_, fun error herror => ?_⟩
  · constructor
    -- A scan that finds something has found elements at both ends.
    · rintro ⟨bracket, hbracket⟩
      obtain ⟨nearest, hscan⟩ := bracket_eq_ok_iff.1 hbracket
      refine ⟨bracket.list, nearest, (inOrder.isSome_scanElements_iff ordered bracket.list).1 ?_⟩
      rw [hscan]
      rfl
    · rintro ⟨list, nearest, htouched⟩
      have hsome := (inOrder.isSome_scanElements_iff ordered list).2 htouched
      obtain ⟨⟨first, last⟩, hscan⟩ := Option.isSome_iff_exists.1 hsome
      exact ⟨⟨list, first, last⟩, bracket_eq_ok_iff.2 ⟨nearest, hscan⟩⟩
  · obtain ⟨nearest, hscan⟩ := bracket_eq_ok_iff.1 hbracket
    obtain ⟨i, j, hfirst, hlast, tightest⟩ := scanElements_eq_some hscan
    refine ⟨nearest, i, j, hfirst, hlast, tightest, ?_, ?_, fun _ _ => tightest.le inOrder ordered⟩
    · exact (tightest.start.touches hfirst).1
    · exact (tightest.stop.touches hlast).2
  · exact bracket_eq_error (containing_eq_ok ordered inside) herror

/-- A call with two arguments. -/
def call : SyntaxTree := .ofParse "javascript" 0
  { root := .mk ⟨"call_expression", true, false, false, ⟨0, 6, ⟨0, 0⟩, ⟨0, 6⟩⟩⟩ [
      .mk ⟨"identifier", true, false, false, ⟨0, 1, ⟨0, 0⟩, ⟨0, 1⟩⟩⟩ [],
      .mk ⟨"arguments", true, false, false, ⟨1, 6, ⟨0, 1⟩, ⟨0, 6⟩⟩⟩ [
        .mk ⟨"(", false, false, false, ⟨1, 2, ⟨0, 1⟩, ⟨0, 2⟩⟩⟩ [],
        .mk ⟨"identifier", true, false, false, ⟨2, 3, ⟨0, 2⟩, ⟨0, 3⟩⟩⟩ [],
        .mk ⟨",", false, false, false, ⟨3, 4, ⟨0, 3⟩, ⟨0, 4⟩⟩⟩ [],
        .mk ⟨"identifier", true, false, false, ⟨4, 5, ⟨0, 4⟩, ⟨0, 5⟩⟩⟩ [],
        .mk ⟨")", false, false, false, ⟨5, 6, ⟨0, 5⟩, ⟨0, 6⟩⟩⟩ []]]
    expression := "(call_expression (identifier) (arguments (identifier) (identifier)))" }

/-- A span from one argument into the other is bracketed by the two, and by no single one. -/
theorem bracket_tightest_call :
    call.InOrder ∧ call.bracket ⟨2, 5⟩ (· == "arguments") = .ok ⟨2, 4, 6⟩ ∧
      call.NearestList ⟨2, 5⟩ (· == "arguments") 2 ∧
      ∀ i j, call.Reaches ⟨2, 5⟩ (call.namedChildren 2) i j → 1 ≤ j - i := by
  have inOrder : call.InOrder := by decide
  have hbracket : call.bracket ⟨2, 5⟩ (· == "arguments") = .ok ⟨2, 4, 6⟩ := rfl
  obtain ⟨nearest, i, j, hfirst, hlast, tightest, -, -, shortest⟩ :=
    (call.bracket_tightest inOrder ⟨2, 5⟩ (by decide) (by decide) (· == "arguments")).2.1 _ hbracket
  refine ⟨inOrder, hbracket, nearest, fun i' j' reaches => ?_⟩
  -- The two ends are different elements.
  have hne : i ≠ j := by
    rintro rfl
    exact absurd (Option.some.inj (hfirst.symm.trans hlast)) (by decide)
  have := tightest.ordered
  have := shortest i' j' reaches
  omega

end SyntaxTree

end LiveTree
