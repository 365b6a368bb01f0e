import LiveTree.Proofs.Points

/-!
# What deltas say about both texts

The delta of a change is made from the text before it alone: the new end point is found by writing the
inserted text from the start point on.  That way counts line feeds, as syntax trees do, while the other
two points follow the lines of the text.

In texts whose only line breaks are line feeds, alone or after a carriage return, the two ways agree, and
edits that keep such pairs whole lead from such texts to such texts.  Then a delta has the points of both
texts, along a whole list of edits.  In any other text the points of a delta are those of the syntax tree
up to the first line that ends without a line feed, and never after it.

## Key results

- `Text.exists_stage`: the texts before and after each of several edits
- `Text.Plain.splice`: plain texts stay plain
- `Document.deltas_match_texts`: deltas of edits in plain texts match the texts on both sides
- `Document.delta_points_iff`: when the points of a delta are those of the syntax tree
-/

namespace LiveTree

namespace Text

/-! ## Edits one by one -/

/-- The edit with the position `i` of a list: the ones before it have led to the text `before`, it leads
    on to the text `after`, and `change` tells of it. -/
structure Stage (text : Text) (edits : List Edit) (i : Nat) (before : Text) (edit : Edit)
    (after : Text) (change : Change) : Prop where
  found : edits[i]? = some edit
  led : ∃ earlier, text.applyEdits (edits.take i) = .ok (before, earlier)
  applied : before.applyEdit edit = .ok (after, change)

variable {text next last before after : Text} {edit other : Edit} {edits rest : List Edit}
  {change told : Change} {changes : List Change} {i : Nat}

/-- The first edit of a list is made to the text that the list starts from. -/
theorem Stage.here (h : text.applyEdit edit = .ok (next, change)) :
    text.Stage (edit :: rest) 0 text edit next change :=
  ⟨rfl, ⟨[], rfl⟩, h⟩

/-- An edit of the rest of a list comes one place later in the whole list. -/
theorem Stage.later (h : text.applyEdit edit = .ok (next, change))
    (stage : next.Stage rest i before other after told) :
    text.Stage (edit :: rest) (i + 1) before other after told := by
  obtain ⟨earlier, hearlier⟩ := stage.led
  refine ⟨stage.found, ⟨change :: earlier, ?_⟩, stage.applied⟩
  rw [List.take_succ_cons, applyEdits_cons_of_ok h, hearlier]
  rfl

/-- A property of texts that each of several edits keeps holds before and after all of them. -/
theorem stage_induction {P : Text → Prop} (start : P text)
    (step : ∀ i before edit after change, text.Stage edits i before edit after change →
      P before → P after)
    (h : text.applyEdits edits = .ok (last, changes)) :
    changes.length = edits.length ∧ ∀ i change, changes[i]? = some change →
      ∃ before edit after, text.Stage edits i before edit after change ∧ P before ∧ P after := by
  -- By induction on the edits, with the texts and changes free, as the rest starts from the next
  -- text.
  induction edits generalizing text changes with
  | nil =>
    obtain ⟨-, rfl⟩ := Prod.mk.inj (Except.ok.inj h)
    exact ⟨rfl, fun i change hchange => nomatch hchange⟩
  | cons edit rest ih =>
    obtain ⟨next, first, others, hfirst, hrest, rfl⟩ := exists_applyEdit_of_cons h
    have hnext : P next := step 0 text edit next first (.here hfirst) start
    obtain ⟨hlength, hothers⟩ := ih hnext
      (fun i before other after change stage => step (i + 1) _ _ _ _ (stage.later hfirst)) hrest
    refine ⟨by simp [hlength], ?_⟩
    intro i change hchange
    cases i with
    | zero =>
      obtain rfl := Option.some.inj hchange
      exact ⟨text, edit, next, .here hfirst, start, hnext⟩
    | succ i =>
      obtain ⟨before, other, after, stage, hbefore, hafter⟩ := hothers i change hchange
      exact ⟨before, other, after, stage.later hfirst, hbefore, hafter⟩

/-- Each change of a list of edits tells of the edit with its position. -/
theorem exists_stage (h : text.applyEdits edits = .ok (last, changes)) :
    changes.length = edits.length ∧ ∀ i change, changes[i]? = some change →
      ∃ before edit after, text.Stage edits i before edit after change := by
  obtain ⟨hlength, hstages⟩ := stage_induction (P := fun _ => True) trivial (by simp) h
  refine ⟨hlength, fun i change hchange => ?_⟩
  obtain ⟨before, edit, after, stage, -⟩ := hstages i change hchange
  exact ⟨before, edit, after, stage⟩

/-- What an edit is made of: it keeps what is before and after its span. -/
theorem applyEdit_parts (h : text.applyEdit edit = .ok (next, change)) :
    ∃ first middle rest, text = first ++ middle ++ rest ∧ next = first ++ edit.text ++ rest ∧
      edit.span = ⟨byteLength first, byteLength (first ++ middle)⟩ ∧
      change = .ofSpan text edit.span edit.text := by
  obtain ⟨hsplice, hchange⟩ := applyEdit_eq_ok h
  obtain ⟨hordered, first, middle, rest, htext, hfirst, hmiddle, hnext⟩ := splice?_eq_some hsplice
  refine ⟨first, middle, rest, htext, hnext, ?_, hchange⟩
  have hstop : edit.span.stop = byteLength (first ++ middle) := by
    rw [byteLength_append]
    omega
  rw [hfirst, ← hstop]

end Text

/-- The ends of a delta, in terms of what its change keeps, takes out and puts in. -/
theorem Change.delta_ofSpan (text first middle new : Text) :
    (Change.ofSpan text ⟨first.byteLength, Text.byteLength (first ++ middle)⟩ new).delta =
      { start := first.byteLength
        oldEnd := Text.byteLength (first ++ middle)
        newEnd := Text.byteLength (first ++ new)
        startPoint := text.pointAt first.byteLength
        oldEndPoint := text.pointAt (Text.byteLength (first ++ middle))
        newEndPoint := (text.pointAt first.byteLength).advance new } := by
  simp [Change.delta, Change.ofSpan, Change.oldEnd, Change.newEnd]

namespace Text

/-! ## Plain texts -/

/-- The only line breaks of a text are line feeds, alone or after a carriage return, and every carriage
    return is before a line feed. -/
structure Plain (text : Text) : Prop where
  paired : ∀ before after, text = before ++ '\r' :: after → ∃ rest, after = '\n' :: rest
  breaks : ∀ c ∈ text, breaksLine c = true → c = '\n' ∨ c = '\r'

/-- An offset is between a carriage return and the line feed after it. -/
def SplitsPair (text : Text) (offset : Nat) : Prop :=
  ∃ before after, text = before ++ '\r' :: '\n' :: after ∧ offset = byteLength before + 1

/-- A text is plain if its first character breaks no line, or is a line feed, or is followed by one that
    it belongs to, and the rest is plain. -/
theorem plain_cons_iff {c : Char} {rest : Text} :
    Plain (c :: rest) ↔
      (breaksLine c = true → c = '\n' ∨ c = '\r' ∧ rest.head? = some '\n') ∧ rest.Plain := by
  constructor
  · intro h
    refine ⟨fun hbreaks => ?_, ?_, fun d hd => h.breaks d (List.mem_cons_of_mem _ hd)⟩
    · rcases h.breaks c List.mem_cons_self hbreaks with rfl | rfl
      · exact .inl rfl
      · obtain ⟨more, rfl⟩ := h.paired [] rest rfl
        exact .inr ⟨rfl, rfl⟩
    · rintro before after rfl
      exact h.paired (c :: before) after rfl
  · rintro ⟨hfirst, hrest⟩
    constructor
    · intro before after heq
      cases before with
      | nil =>
        obtain ⟨rfl, rfl⟩ := List.cons.inj heq
        obtain hfeed | ⟨-, hhead⟩ := hfirst (by decide)
        · exact absurd hfeed (by decide)
        · exact List.head?_eq_some_iff.1 hhead
      | cons d before => exact hrest.paired before after (List.cons.inj heq).2
    · intro d hd hbreaks
      rcases List.mem_cons.1 hd with rfl | hd
      · rcases hfirst hbreaks with hfeed | ⟨hreturn, -⟩
        · exact .inl hfeed
        · exact .inr hreturn
      · exact hrest.breaks d hd hbreaks

/-- Whether a text is plain can be tried out, character by character. -/
instance decidablePlain : (text : Text) → Decidable text.Plain
  | [] => .isTrue ⟨fun before after h => by simp at h, fun c hc => by simp at hc⟩
  | _ :: rest =>
    have := decidablePlain rest
    decidable_of_iff _ plain_cons_iff.symm

/-- An offset splits a pair if the text can be cut before it, in front of a carriage return and a
    line feed. -/
theorem splitsPair_iff {text : Text} {offset : Nat} :
    text.SplitsPair offset ↔
      0 < offset ∧ (text.cut? (offset - 1)).any (['\r', '\n'].isPrefixOf ·.2) = true := by
  rw [Option.any_eq_true]
  constructor
  · rintro ⟨before, after, rfl, rfl⟩
    refine ⟨by omega, (before, '\r' :: '\n' :: after), ?_, rfl⟩
    rw [Nat.add_sub_cancel]
    exact cut?_append before _
  · rintro ⟨hpos, parts, hcut, hpair⟩
    obtain ⟨htext, hlength⟩ := cut?_eq_some hcut
    obtain ⟨after, hafter⟩ := List.isPrefixOf_iff_prefix.1 hpair
    refine ⟨parts.1, after, ?_, by omega⟩
    rw [htext, ← hafter]
    rfl

/-- Whether an offset splits a pair can be tried out. -/
instance (text : Text) (offset : Nat) : Decidable (text.SplitsPair offset) :=
  decidable_of_iff _ splitsPair_iff.symm

variable {text first middle rest new : Text}

/-- In a plain text lines end with line feeds only. -/
theorem Plain.not_strayBreak (plain : text.Plain) (offset : Nat) : ¬ text.StrayBreak offset := by
  rintro ⟨before, c, after, rfl, -, hends, hc⟩
  simp only [endsLine, Bool.and_eq_true, Bool.not_eq_true', Bool.and_eq_false_iff] at hends
  rcases plain.breaks c (by simp) hends.1 with rfl | rfl
  · exact hc rfl
  · obtain ⟨more, rfl⟩ := plain.paired before after rfl
    simp at hends

/-- In a plain text the point of an offset is reached by writing all that is before it. -/
theorem Plain.pointAt_append (plain : (first ++ rest).Plain) :
    pointAt (first ++ rest) (byteLength first) = Point.advance ⟨0, 0⟩ first := by
  rw [(pointAt_eq_treePoint_iff ⟨first, rest, rfl, rfl⟩).2 (plain.not_strayBreak _), treePoint_append]

/-- Two plain texts make a plain one. -/
theorem Plain.append (hfirst : first.Plain) (hrest : rest.Plain) : (first ++ rest).Plain := by
  constructor
  · intro before after heq
    -- The carriage return is in the first text or in the second.
    rcases List.append_eq_append_iff.1 heq with ⟨more, rfl, hmore⟩ | ⟨more, rfl, hmore⟩
    · exact hrest.paired more after hmore
    · cases more with
      | nil => exact hrest.paired [] after hmore.symm
      | cons c more =>
        obtain ⟨rfl, rfl⟩ := List.cons.inj hmore
        obtain ⟨others, rfl⟩ := hfirst.paired before more rfl
        exact ⟨others ++ rest, rfl⟩
  · intro c hc
    rcases List.mem_append.1 hc with hc | hc
    · exact hfirst.breaks c hc
    · exact hrest.breaks c hc

/-- What is behind an offset in a plain text is plain. -/
theorem Plain.of_append_right (h : (first ++ rest).Plain) : rest.Plain := by
  constructor
  · intro before after heq
    exact h.paired (first ++ before) after (by rw [heq, List.append_assoc])
  · intro c hc
    exact h.breaks c (List.mem_append_right _ hc)

/-- What is before an offset in a plain text is plain, unless the offset is inside a pair. -/
theorem Plain.of_append_left (h : (first ++ rest).Plain)
    (whole : ¬ (first ++ rest).SplitsPair (byteLength first)) : first.Plain := by
  constructor
  · rintro before after rfl
    obtain ⟨more, hmore⟩ := h.paired before (after ++ rest) (by simp)
    cases after with
    | nil =>
      -- The carriage return is the last character, and its line feed is on the other side.
      refine absurd ⟨before, more, ?_, ?_⟩ whole
      · rw [List.append_assoc, ← hmore]
        rfl
      · have hreturn : '\r'.utf8Size = 1 := by decide
        simp [hreturn]
    | cons c after =>
      obtain ⟨rfl, -⟩ := List.cons.inj hmore
      exact ⟨after, rfl⟩
  · intro c hc
    exact h.breaks c (List.mem_append_left _ hc)

/-- Replacing a part of a plain text by a plain text leaves a plain text, if no pair is cut at its
    start. -/
theorem Plain.splice (h : (first ++ middle ++ rest).Plain) (inserted : new.Plain)
    (whole : ¬ (first ++ middle ++ rest).SplitsPair (byteLength first)) :
    (first ++ new ++ rest).Plain := by
  rw [List.append_assoc] at h whole
  exact ((h.of_append_left whole).append inserted).append h.of_append_right.of_append_right

end Text

/-! ## Deltas of plain texts -/

/-- A delta says of the texts before and after an edit what is the case: it has their points, and its
    offsets are inside them, in order, and as far from the end in both texts. -/
structure Delta.Matches (delta : Delta) (before after : Text) : Prop where
  start_before : delta.startPoint = before.pointAt delta.start
  start_after : delta.startPoint = after.pointAt delta.start
  oldEnd : delta.oldEndPoint = before.pointAt delta.oldEnd
  newEnd : delta.newEndPoint = after.pointAt delta.newEnd
  start_le_oldEnd : delta.start ≤ delta.oldEnd
  oldEnd_le : delta.oldEnd ≤ before.byteLength
  start_le_newEnd : delta.start ≤ delta.newEnd
  newEnd_le : delta.newEnd ≤ after.byteLength
  tail : after.byteLength - delta.newEnd = before.byteLength - delta.oldEnd
  old_order : delta.startPoint.compare delta.oldEndPoint = compare delta.start delta.oldEnd
  new_order : delta.startPoint.compare delta.newEndPoint = compare delta.start delta.newEnd

namespace Text

variable {text next : Text} {edit : Edit} {change : Change}

/-- An edit that puts in a plain text, and does not start inside a pair, keeps a text plain. -/
theorem Plain.applyEdit (plain : text.Plain) (inserted : edit.text.Plain)
    (whole : ¬ text.SplitsPair edit.span.start) (h : text.applyEdit edit = .ok (next, change)) :
    next.Plain := by
  obtain ⟨first, middle, rest, rfl, rfl, hspan, -⟩ := applyEdit_parts h
  rw [hspan] at whole
  exact plain.splice inserted whole

/-- The delta of an edit between plain texts matches them. -/
theorem Plain.delta_matches (plain : text.Plain) (plainNext : next.Plain)
    (h : text.applyEdit edit = .ok (next, change)) : change.delta.Matches text next := by
  obtain ⟨first, middle, rest, rfl, rfl, hspan, rfl⟩ := applyEdit_parts h
  rw [hspan, Change.delta_ofSpan]
  -- All points are reached by writing what is before them.
  have hold : pointAt (first ++ middle ++ rest) (byteLength (first ++ middle)) =
      Point.advance ⟨0, 0⟩ (first ++ middle) := plain.pointAt_append
  have hnew : pointAt (first ++ edit.text ++ rest) (byteLength (first ++ edit.text)) =
      Point.advance ⟨0, 0⟩ (first ++ edit.text) := plainNext.pointAt_append
  have hstart : pointAt (first ++ middle ++ rest) (byteLength first) =
      Point.advance ⟨0, 0⟩ first := by
    rw [List.append_assoc] at plain ⊢
    exact plain.pointAt_append
  have hstartNext : pointAt (first ++ edit.text ++ rest) (byteLength first) =
      Point.advance ⟨0, 0⟩ first := by
    rw [List.append_assoc] at plainNext ⊢
    exact plainNext.pointAt_append
  have hlength (part : Text) : byteLength (first ++ part) = byteLength first + byteLength part :=
    byteLength_append first part
  constructor
  case start_before => rfl
  case start_after => exact hstart.trans hstartNext.symm
  case oldEnd => rfl
  -- The new end is reached by writing what is put in from the start, and all of it is before the
  -- end.
  case newEnd =>
    show Point.advance (pointAt _ _) edit.text = _
    rw [hstart, hnew, Point.advance_append]
  case old_order =>
    show (pointAt _ (byteLength first)).compare (pointAt _ (byteLength (first ++ middle))) =
      compare (byteLength first) (byteLength (first ++ middle))
    rw [hold, Point.advance_append, hstart, hlength, Point.compare_advance]
  case new_order =>
    show (pointAt _ (byteLength first)).compare (Point.advance (pointAt _ _) edit.text) =
      compare (byteLength first) (byteLength (first ++ edit.text))
    rw [hlength, Point.compare_advance]
  all_goals
    simp only [byteLength_append]
    omega

/-- A delta of an edit between texts of fewer than 2^64 bytes fits into words. -/
theorem delta?_of_applyEdit (h : text.applyEdit edit = .ok (next, change))
    (small : text.byteLength < UInt64.size) (smallNext : next.byteLength < UInt64.size) :
    change.delta? = some change.delta := by
  obtain ⟨first, middle, rest, rfl, rfl, hspan, rfl⟩ := applyEdit_parts h
  have hfits : (Change.ofSpan (first ++ middle ++ rest) edit.span edit.text).Fits := by
    rw [hspan]
    simp only [byteLength_append] at small smallNext
    apply Change.fits_ofSpan <;> simp only [byteLength_append] <;> omega
  unfold Change.delta?
  rw [if_pos hfits]

end Text

namespace Document

variable {doc next : Document} {edits : List Edit} {changes : List Change}

/-- In a document whose only line breaks are line feeds, alone or after a carriage return, edits that put
    in such texts and do not come between a carriage return and its line feed have deltas that match
    the texts before and after them. -/
theorem deltas_match_texts (applied : doc.applyEdits edits = .ok (next, changes))
    (plain : doc.text.Plain) (inserted : ∀ edit ∈ edits, edit.text.Plain)
    (whole : ∀ i before edit after change, doc.text.Stage edits i before edit after change →
      ¬ before.SplitsPair edit.span.start ∧ ¬ before.SplitsPair edit.span.stop) :
    changes.length = edits.length ∧ ∀ i change, changes[i]? = some change →
      ∃ before edit after, doc.text.Stage edits i before edit after change ∧
        change.delta.Matches before after ∧
        (before.byteLength < UInt64.size → after.byteLength < UInt64.size →
          change.delta? = some change.delta) := by
  obtain ⟨text, hedits, -⟩ := Revision.applyEdits_eq_ok applied
  have hkept : ∀ i before edit after change, doc.text.Stage edits i before edit after change →
      before.Plain → after.Plain := by
    intro i before edit after change stage hbefore
    exact hbefore.applyEdit (inserted edit (List.mem_of_getElem? stage.found))
      (whole i before edit after change stage).1 stage.applied
  obtain ⟨hlength, hstages⟩ := Text.stage_induction plain hkept hedits
  refine ⟨hlength, fun i change hchange => ?_⟩
  obtain ⟨before, edit, after, stage, hbefore, hafter⟩ := hstages i change hchange
  exact ⟨before, edit, after, stage, hbefore.delta_matches hafter stage.applied,
    Text.delta?_of_applyEdit stage.applied⟩

/-- Two lines that end with pairs, and characters of two bytes. -/
def pairedDocument : Document :=
  .create "file:///a.txt" "text" ['é', '\r', '\n', 'b', '\r', '\n']

/-- A first edit that puts in a line, and a second one in the text after it that takes out two pairs. -/
def pairedEdits : List Edit :=
  [⟨⟨4, 5⟩, ['x', '\r', '\n', 'ü']⟩, ⟨⟨2, 7⟩, ['\n']⟩]

/-- Both edits respect the pairs, and the delta of the second one is what it should be in the text
    that the first one has led to. -/
theorem deltas_match_texts_paired :
    pairedDocument.applyEdits pairedEdits =
        .ok ({ pairedDocument with version := 1, text := ['é', '\n', 'ü', '\r', '\n'] },
          [⟨4, 1, ['x', '\r', '\n', 'ü'], ⟨1, 0⟩, ⟨1, 1⟩⟩, ⟨2, 5, ['\n'], ⟨0, 2⟩, ⟨2, 0⟩⟩]) ∧
      (∀ i before edit after change,
        pairedDocument.text.Stage pairedEdits i before edit after change →
          ¬ before.SplitsPair edit.span.start ∧ ¬ before.SplitsPair edit.span.stop) ∧
      (⟨2, 7, 3, ⟨0, 2⟩, ⟨2, 0⟩, ⟨1, 0⟩⟩ : Delta).Matches
        ['é', '\r', '\n', 'x', '\r', '\n', 'ü', '\r', '\n'] ['é', '\n', 'ü', '\r', '\n'] := by
  have happlied : pairedDocument.applyEdits pairedEdits =
      .ok ({ pairedDocument with version := 1, text := ['é', '\n', 'ü', '\r', '\n'] },
        [⟨4, 1, ['x', '\r', '\n', 'ü'], ⟨1, 0⟩, ⟨1, 1⟩⟩, ⟨2, 5, ['\n'], ⟨0, 2⟩, ⟨2, 0⟩⟩]) :=
    rfl
  have hwhole : ∀ i before edit after change,
      pairedDocument.text.Stage pairedEdits i before edit after change →
        ¬ before.SplitsPair edit.span.start ∧ ¬ before.SplitsPair edit.span.stop := by
    rintro i before edit after change ⟨found, ⟨earlier, led⟩, -⟩
    match i, found, led with
    | 0, found, led =>
      obtain rfl := Option.some.inj found
      obtain ⟨rfl, -⟩ := Prod.mk.inj (Except.ok.inj led)
      decide
    | 1, found, led =>
      obtain rfl := Option.some.inj found
      obtain ⟨rfl, -⟩ := Prod.mk.inj (Except.ok.inj led)
      decide
    | i + 2, found, _ => exact nomatch found
  obtain ⟨-, hmatch⟩ := deltas_match_texts happlied (by decide) (by decide) hwhole
  obtain ⟨before, edit, after, ⟨found, ⟨earlier, led⟩, applied⟩, hmatches, -⟩ := hmatch 1 _ rfl
  obtain rfl := Option.some.inj found
  obtain ⟨rfl, -⟩ := Prod.mk.inj (Except.ok.inj led)
  obtain ⟨rfl, -⟩ := Prod.mk.inj (Except.ok.inj applied)
  exact ⟨happlied, hwhole, hmatches⟩

end Document

/-! ## Deltas of any texts -/

/-- A delta has the points of syntax trees: of the text before an edit for its start and its old end, of
    the text after it for its new end. -/
structure Delta.OfTrees (delta : Delta) (before after : Text) : Prop where
  start : delta.startPoint = before.treePoint delta.start
  oldEnd : delta.oldEndPoint = before.treePoint delta.oldEnd
  newEnd : delta.newEndPoint = after.treePoint delta.newEnd

namespace Text

variable {text next : Text} {edit : Edit} {change : Change}

/-- Writing from the point of an offset leads to the trees' point of the end of what is written if and
    only if it started from the trees' point: what was a row too many stays so. -/
theorem advance_eq_treePoint_iff (first rest new last : Text) :
    (pointAt (first ++ rest) (byteLength first)).advance new =
        treePoint (first ++ new ++ last) (byteLength (first ++ new)) ↔
      ¬ (first ++ rest).StrayBreak (byteLength first) := by
  have hboundary : (first ++ rest).Boundary (byteLength first) := ⟨first, rest, rfl, rfl⟩
  have htree : treePoint (first ++ new ++ last) (byteLength (first ++ new)) =
      (treePoint (first ++ rest) (byteLength first)).advance new := by
    rw [treePoint_append, treePoint_append, Point.advance_append]
  rw [htree]
  -- If the start is a row too far, so is what is reached from it: writing adds the same rows to
  -- both.
  constructor
  · intro h stray
    have hlt := treePoint_row_lt hboundary stray
    have hrow := congrArg Point.row h
    simp only [Point.advance] at hrow
    omega
  · intro hnone
    rw [(pointAt_eq_treePoint_iff hboundary).2 hnone]

/-- Each point of a delta is right if and only if no line ends without a line feed before it; what
    matters for the new end is what is before the start. -/
theorem applyEdit_points_iff (h : text.applyEdit edit = .ok (next, change)) :
    (change.delta.startPoint = text.treePoint change.delta.start ↔
      ¬ text.StrayBreak change.delta.start) ∧
    (change.delta.oldEndPoint = text.treePoint change.delta.oldEnd ↔
      ¬ text.StrayBreak change.delta.oldEnd) ∧
    (change.delta.newEndPoint = next.treePoint change.delta.newEnd ↔
      ¬ text.StrayBreak change.delta.start) := by
  obtain ⟨first, middle, rest, rfl, rfl, hspan, rfl⟩ := applyEdit_parts h
  rw [hspan, Change.delta_ofSpan]
  refine ⟨pointAt_eq_treePoint_iff ⟨first, middle ++ rest, by simp, rfl⟩,
    pointAt_eq_treePoint_iff ⟨first ++ middle, rest, rfl, rfl⟩, ?_⟩
  have hnew := advance_eq_treePoint_iff first (middle ++ rest) edit.text rest
  rw [← List.append_assoc] at hnew
  exact hnew

/-- All points of a delta are right if the one furthest behind in the text before the edit is. -/
theorem ofTrees_iff (h : text.applyEdit edit = .ok (next, change)) :
    change.delta.OfTrees text next ↔ ¬ text.StrayBreak change.delta.oldEnd := by
  obtain ⟨hstart, hold, hnew⟩ := applyEdit_points_iff h
  have hle : change.delta.start ≤ change.delta.oldEnd := Nat.le_add_right _ _
  constructor
  · intro points
    exact hold.1 points.oldEnd
  -- The start is not behind the old end, so a stray break before it is one before the old end too.
  · intro hnone
    have hnoneStart : ¬ text.StrayBreak change.delta.start := fun stray => hnone (stray.mono hle)
    exact ⟨hstart.2 hnoneStart, hold.2 hnone, hnew.2 hnoneStart⟩

end Text

namespace Document

variable {doc next : Document} {edits : List Edit} {changes : List Change}

/-- The points of a delta are those of the syntax trees of the texts before and after its edit exactly as
    long as no line of the text before it has ended without a line feed, at a lone carriage return or at
    any other break. -/
theorem delta_points_iff (applied : doc.applyEdits edits = .ok (next, changes)) :
    changes.length = edits.length ∧ ∀ i change, changes[i]? = some change →
      ∃ before edit after, doc.text.Stage edits i before edit after change ∧
        (change.delta.startPoint = before.treePoint change.delta.start ↔
          ¬ before.StrayBreak change.delta.start) ∧
        (change.delta.oldEndPoint = before.treePoint change.delta.oldEnd ↔
          ¬ before.StrayBreak change.delta.oldEnd) ∧
        (change.delta.newEndPoint = after.treePoint change.delta.newEnd ↔
          ¬ before.StrayBreak change.delta.start) ∧
        (change.delta.OfTrees before after ↔ ¬ before.StrayBreak change.delta.oldEnd) := by
  obtain ⟨text, hedits, -⟩ := Revision.applyEdits_eq_ok applied
  obtain ⟨hlength, hstages⟩ := Text.exists_stage hedits
  refine ⟨hlength, fun i change hchange => ?_⟩
  obtain ⟨before, edit, after, stage⟩ := hstages i change hchange
  obtain ⟨hstart, hold, hnew⟩ := Text.applyEdit_points_iff stage.applied
  exact ⟨before, edit, after, stage, hstart, hold, hnew, Text.ofTrees_iff stage.applied⟩

/-- A line separator that is put between a carriage return and its line feed: the delta still has the
    points of the trees, though the text has more lines than they have rows. -/
theorem delta_points_iff_separated :
    pairedDocument.applyEdits [⟨⟨3, 3⟩, ['\u2028']⟩] =
        .ok ({ pairedDocument with
            version := 1, text := ['é', '\r', '\u2028', '\n', 'b', '\r', '\n'] },
          [⟨3, 0, ['\u2028'], ⟨0, 3⟩, ⟨0, 3⟩⟩]) ∧
      ¬ pairedDocument.text.StrayBreak 3 ∧
      (⟨3, 3, 6, ⟨0, 3⟩, ⟨0, 3⟩, ⟨0, 6⟩⟩ : Delta).OfTrees pairedDocument.text
        ['é', '\r', '\u2028', '\n', 'b', '\r', '\n'] := by
  have happlied : pairedDocument.applyEdits [⟨⟨3, 3⟩, ['\u2028']⟩] =
      .ok ({ pairedDocument with
          version := 1, text := ['é', '\r', '\u2028', '\n', 'b', '\r', '\n'] },
        [⟨3, 0, ['\u2028'], ⟨0, 3⟩, ⟨0, 3⟩⟩]) := rfl
  obtain ⟨-, hpoints⟩ := delta_points_iff happlied
  obtain ⟨before, edit, after, ⟨found, ⟨earlier, led⟩, applied⟩, hstart, -, -, htrees⟩ :=
    hpoints 0 _ rfl
  obtain rfl := Option.some.inj found
  obtain ⟨rfl, -⟩ := Prod.mk.inj (Except.ok.inj led)
  obtain ⟨rfl, -⟩ := Prod.mk.inj (Except.ok.inj applied)
  have hnone : ¬ pairedDocument.text.StrayBreak 3 := hstart.1 (by decide)
  exact ⟨happlied, hnone, htrees.2 hnone⟩

/-- After a form feed all three points are a row too low. -/
theorem delta_points_astray :
    (Document.create "file:///a.js" "javascript" ['a', '\x0c', 'b']).applyEdits
        [⟨⟨2, 3⟩, ['c']⟩] =
      .ok (⟨"file:///a.js", "javascript", 1, ['a', '\x0c', 'c']⟩,
        [⟨2, 1, ['c'], ⟨1, 0⟩, ⟨1, 1⟩⟩]) ∧
    (⟨2, 1, ['c'], ⟨1, 0⟩, ⟨1, 1⟩⟩ : Change).delta = ⟨2, 3, 3, ⟨1, 0⟩, ⟨1, 1⟩, ⟨1, 1⟩⟩ ∧
    Text.treePoint ['a', '\x0c', 'b'] 2 = ⟨0, 2⟩ ∧
    Text.treePoint ['a', '\x0c', 'b'] 3 = ⟨0, 3⟩ ∧
    Text.treePoint ['a', '\x0c', 'c'] 3 = ⟨0, 3⟩ ∧
    ¬ (⟨2, 3, 3, ⟨1, 0⟩, ⟨1, 1⟩, ⟨1, 1⟩⟩ : Delta).OfTrees ['a', '\x0c', 'b']
      ['a', '\x0c', 'c'] := by
  refine ⟨rfl, by decide, by decide, by decide, by decide, ?_⟩
  intro points
  exact absurd points.start (by decide)

end Document

end LiveTree
