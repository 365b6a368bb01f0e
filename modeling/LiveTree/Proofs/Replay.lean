import LiveTree.Proofs.Runs

/-!
# Changes replay revisions

The changes that an operation on a document answers with say all about it: replaying them on the text
before gives the text after.  As long as all texts on the way are of fewer than 2^64 bytes, as they
are in the memory of any machine, the changes can be told in 64-bit words.

## Key results

- `Document.Revision.replay`: the changes of a revision lead from its text to the next
- `Document.Revision.fits`: they fit into words if all texts on the way do
-/

namespace LiveTree

/-- Applies changes in order, each to the text left by the one before it. -/
def Change.replayAll? (changes : List Change) (text : Text) : Option Text :=
  changes.foldlM (fun text change => change.replay? text) text

namespace Change

/-- No changes leave a text as it is. -/
@[simp] theorem replayAll?_nil (text : Text) : replayAll? [] text = some text := rfl

/-- The first change is replayed before the others. -/
@[simp] theorem replayAll?_cons (change : Change) (rest : List Change) (text : Text) :
    replayAll? (change :: rest) text = (change.replay? text).bind (replayAll? rest) := rfl

/-- Changes in two lots are replayed one lot after the other. -/
theorem replayAll?_append (before after : List Change) (text : Text) :
    replayAll? (before ++ after) text = (replayAll? before text).bind (replayAll? after) := by
  unfold replayAll?
  rw [List.foldlM_append]
  rfl

end Change

/-- The text of a kept tree is what its changes make of the text that was parsed. -/
theorem PreviousTree.text?_eq (previous : PreviousTree) :
    previous.text? = Change.replayAll? previous.changes previous.text := rfl

namespace Text

/-! ## Cuts and splices -/

/-- A text can be cut before its first character. -/
theorem cut?_zero (text : Text) : text.cut? 0 = some ([], text) := by
  unfold cut? cutFrom
  cases text <;> rfl

/-- Cutting goes on from what has been passed. By induction on the part before the cut. -/
theorem cutFrom_append (passed before after : List Char) :
    cutFrom passed (before ++ after) (byteLength before) =
      some (passed.reverse ++ before, after) := by
  induction before generalizing passed with
  | nil => cases after <;> simp [cutFrom]
  | cons c rest ih =>
    have hpos : 0 < c.utf8Size := c.utf8Size_pos
    -- The first character is of some length, so the cut is not at once.
    obtain ⟨n, hn⟩ : ∃ n, byteLength (c :: rest) = n + 1 :=
      ⟨byteLength (c :: rest) - 1, by rw [byteLength_cons]; omega⟩
    have hrest : n + 1 - c.utf8Size = byteLength rest := by
      rw [← hn, byteLength_cons]
      omega
    have hle : c.utf8Size ≤ n + 1 := by
      rw [← hn, byteLength_cons]
      omega
    rw [hn, List.cons_append, cutFrom, if_pos hle, hrest, ih]
    simp

/-- A text can be cut after any of its characters. -/
theorem cut?_append (before after : Text) :
    cut? (before ++ after) (byteLength before) = some (before, after) :=
  cutFrom_append [] before after

/-- The end of a text is a boundary. -/
theorem cut?_byteLength (text : Text) : text.cut? text.byteLength = some (text, []) := by
  have h := cut?_append text []
  rwa [List.append_nil] at h

/-- What a splice is made of. -/
theorem splice?_eq_some {text next new : Text} {start stop : Nat}
    (h : text.splice? start stop new = some next) :
    start ≤ stop ∧ ∃ before middle after, text = before ++ middle ++ after ∧
      byteLength before = start ∧ byteLength middle = stop - start ∧
      next = before ++ new ++ after := by
  unfold splice? at h
  by_cases hreversed : stop < start
  · simp [hreversed] at h
  · cases hfirst : text.cut? start with
    | none => simp [hfirst] at h
    | some first =>
      obtain ⟨before, rest⟩ := first
      cases hsecond : cut? rest (stop - start) with
      | none => simp [hreversed, hfirst, hsecond] at h
      | some second =>
        obtain ⟨middle, after⟩ := second
        simp only [hreversed, hfirst, hsecond, if_false, bind, Option.bind, pure,
          Option.some.injEq] at h
        -- Both cuts have been made, one in what the other has left.
        obtain ⟨htext, hbefore⟩ := cut?_eq_some hfirst
        obtain ⟨hrest, hmiddle⟩ := cut?_eq_some hsecond
        refine ⟨by omega, before, middle, after, ?_, hbefore, hmiddle, h.symm⟩
        rw [htext, hrest, List.append_assoc]

/-- What is put in by a splice ends inside the new text. -/
theorem splice?_newEnd_le {text next new : Text} {start stop : Nat}
    (h : text.splice? start stop new = some next) :
    start + new.byteLength ≤ next.byteLength := by
  obtain ⟨-, before, middle, after, -, hbefore, -, rfl⟩ := splice?_eq_some h
  simp only [byteLength_append]
  omega

/-- What is taken out by a splice ends inside the old text. -/
theorem splice?_stop_le {text next new : Text} {start stop : Nat}
    (h : text.splice? start stop new = some next) : stop ≤ text.byteLength := by
  obtain ⟨hordered, before, middle, after, rfl, hbefore, hmiddle, -⟩ := splice?_eq_some h
  simp only [byteLength_append]
  omega

/-- A whole text is a span that can be replaced. -/
theorem splice?_all (text new : Text) : text.splice? 0 text.byteLength new = some new := by
  unfold splice?
  simp [cut?_zero, cut?_byteLength]

/-! ## Replaying edits -/

/-- An edit that is applied has been checked; it splices the text. -/
theorem applyEdit_eq_ok {text next : Text} {edit : Edit} {change : Change}
    (h : text.applyEdit edit = .ok (next, change)) :
    text.splice? edit.span.start edit.span.stop edit.text = some next ∧
      change = .ofSpan text edit.span edit.text := by
  unfold applyEdit at h
  cases hcheck : text.checkSpan edit.span with
  | error error => rw [hcheck] at h; exact nomatch h
  | ok =>
    rw [hcheck] at h
    cases hsplice : text.splice? edit.span.start edit.span.stop edit.text with
    | none => simp only [hsplice] at h; exact nomatch h
    | some new =>
      simp only [hsplice] at h
      obtain ⟨rfl, rfl⟩ := Prod.mk.inj (Except.ok.inj h)
      exact ⟨rfl, rfl⟩

end Text

/-- A change that describes a splice replays it. -/
theorem Change.replay?_ofSpan {text next new : Text} {span : Span}
    (h : text.splice? span.start span.stop new = some next) :
    (Change.ofSpan text span new).replay? text = some next := by
  -- The old end of the change is the stop of the span.
  have hordered := (Text.splice?_eq_some h).1
  have hend : (Change.ofSpan text span new).oldEnd = span.stop := by
    show span.start + (span.stop - span.start) = span.stop
    omega
  unfold replay?
  rw [hend]
  exact h

namespace Text

/-- Edits that succeed are a first one that succeeds, and others that succeed on the text it leads
    to. -/
theorem exists_applyEdit_of_cons {text last : Text} {edit : Edit} {rest : List Edit}
    {changes : List Change} (h : text.applyEdits (edit :: rest) = .ok (last, changes)) :
    ∃ next change others, text.applyEdit edit = .ok (next, change) ∧
      next.applyEdits rest = .ok (last, others) ∧ changes = change :: others := by
  unfold applyEdits at h
  cases hfirst : text.applyEdit edit with
  | error error => rw [hfirst] at h; exact nomatch h
  | ok first =>
    rw [hfirst] at h
    cases hrest : first.1.applyEdits rest with
    | error error => simp only [bind, Except.bind, hrest] at h; exact nomatch h
    | ok others =>
      simp only [bind, Except.bind, hrest] at h
      obtain ⟨rfl, rfl⟩ := Prod.mk.inj (Except.ok.inj h)
      exact ⟨first.1, first.2, others.2, rfl, hrest, rfl⟩

/-- The first of several edits splices the text, and the others go on from there. -/
theorem applyEdits_cons_eq_ok {text last : Text} {edit : Edit} {rest : List Edit}
    {changes : List Change} (h : text.applyEdits (edit :: rest) = .ok (last, changes)) :
    ∃ next others, text.splice? edit.span.start edit.span.stop edit.text = some next ∧
      next.applyEdits rest = .ok (last, others) ∧
      changes = .ofSpan text edit.span edit.text :: others := by
  obtain ⟨next, change, others, hfirst, hrest, rfl⟩ := exists_applyEdit_of_cons h
  obtain ⟨hsplice, rfl⟩ := applyEdit_eq_ok hfirst
  exact ⟨next, others, hsplice, hrest, rfl⟩

/-- The changes of edits replay them. -/
theorem applyEdits_replay {text last : Text} {edits : List Edit} {changes : List Change}
    (h : text.applyEdits edits = .ok (last, changes)) :
    Change.replayAll? changes text = some last := by
  -- By induction on the edits, over all texts.
  induction edits generalizing text changes with
  | nil =>
    obtain ⟨rfl, rfl⟩ := Prod.mk.inj (Except.ok.inj h)
    rfl
  | cons edit rest ih =>
    obtain ⟨next, others, hsplice, hrest, rfl⟩ := applyEdits_cons_eq_ok h
    rw [Change.replayAll?_cons, Change.replay?_ofSpan hsplice]
    exact ih hrest

end Text

/-! ## Changes in words -/

namespace Text

/-- A text with a character in it has a byte. -/
theorem byteLength_pos {c : Char} {text : Text} (h : c ∈ text) : 0 < text.byteLength := by
  induction text with
  | nil => exact nomatch h
  | cons d rest ih =>
    have hpos : 0 < d.utf8Size := d.utf8Size_pos
    rw [byteLength_cons]
    omega

/-- Every text has a line. -/
theorem linesFrom_ne_nil (line text : List Char) : linesFrom line text ≠ [] := by
  fun_induction linesFrom line text with
  | case1 line => simp
  | case2 line rest ih => simp
  | case3 line c rest hcrlf hbreak ih => simp
  | case4 line c rest hcrlf hbreak ih => exact ih

/-- Every line but the last has a break in it. -/
theorem linesFrom_dropLast_pos (line text : List Char) :
    ∀ row ∈ (linesFrom line text).dropLast, 0 < byteLength row := by
  fun_induction linesFrom line text with
  | case1 line => simp
  | case2 line rest ih =>
    intro row hrow
    -- The line that was ended is not the last one, since there are lines after it.
    rw [List.dropLast_cons_of_ne_nil (linesFrom_ne_nil _ _)] at hrow
    rcases List.mem_cons.1 hrow with rfl | hrow
    · exact byteLength_pos (by simp : '\n' ∈ _)
    · exact ih row hrow
  | case3 line c rest hcrlf hbreak ih =>
    intro row hrow
    rw [List.dropLast_cons_of_ne_nil (linesFrom_ne_nil _ _)] at hrow
    rcases List.mem_cons.1 hrow with rfl | hrow
    · exact byteLength_pos (by simp : c ∈ _)
    · exact ih row hrow
  | case4 line c rest hcrlf hbreak ih => exact ih

/-- Each row that is passed takes a byte at least. -/
theorem locate_le {lengths : List Nat} (row offset : Nat)
    (h : ∀ length ∈ lengths.dropLast, 0 < length) :
    (locate row lengths offset).row + (locate row lengths offset).column ≤ row + offset := by
  -- By the recursion that looks for the row; each row that it passes is taken off the offset.
  fun_induction locate row lengths offset with
  | case1 row length next rest offset hle ih =>
    rw [List.dropLast_cons_of_ne_nil (by simp)] at h
    have hpos := h length List.mem_cons_self
    have hrest := ih fun other hother => h other (List.mem_cons_of_mem _ hother)
    omega
  | case2 row length next rest offset hle => exact Nat.le_refl _
  | case3 row offset => exact Nat.le_refl _

/-- Row and column of an offset are no greater than it, not even together. -/
theorem pointAt_le (text : Text) (offset : Nat) :
    (text.pointAt offset).row + (text.pointAt offset).column ≤ offset := by
  -- Only the last line may be empty.
  have hlines : ∀ length ∈ (text.lines.map byteLength).dropLast, 0 < length := by
    intro length hlength
    rw [← List.map_dropLast] at hlength
    obtain ⟨line, hline, rfl⟩ := List.mem_map.1 hlength
    exact linesFrom_dropLast_pos [] text line hline
  have hle := locate_le 0 (min offset text.byteLength) hlines
  unfold pointAt
  omega

/-- Every character has a byte at least. -/
theorem length_le_byteLength (text : Text) : text.length ≤ text.byteLength := by
  induction text with
  | nil => exact Nat.le_refl _
  | cons c rest ih =>
    have hpos : 0 < c.utf8Size := c.utf8Size_pos
    rw [List.length_cons, byteLength_cons]
    omega

/-- A part of a text is no longer than the text. -/
theorem byteLength_takeWhile_le (p : Char → Bool) (text : Text) :
    byteLength (text.takeWhile p) ≤ byteLength text := by
  have hsplit := congrArg byteLength (List.takeWhile_append_dropWhile (p := p) (l := text))
  rw [byteLength_append] at hsplit
  omega

end Text

/-- Writing a text moves a point by no more rows, and no more columns, than the text has bytes. -/
theorem Point.advance_le (p : Point) (text : Text) :
    (p.advance text).row ≤ p.row + text.byteLength ∧
      (p.advance text).column ≤ p.column + text.byteLength := by
  constructor
  · have hcount : text.count '\n' ≤ text.length := List.count_le_length
    have hlength := text.length_le_byteLength
    show p.row + text.count '\n' ≤ _
    omega
  · show (if '\n' ∈ text then _ else _) ≤ _
    -- With a line feed the column counts the bytes behind it; without one it grows by the text.
    split
    · have hle := Text.byteLength_takeWhile_le (· ≠ '\n') text.reverse
      rw [Text.byteLength_reverse] at hle
      omega
    · exact Nat.le_refl _

/-- A change whose ends are words can be told in words altogether: its points need no more bits than
    its offsets. -/
theorem Change.fits_ofSpan (text : Text) {span : Span} {new : Text}
    (ordered : span.start ≤ span.stop) (old : span.stop < UInt64.size)
    (inserted : span.start + new.byteLength < UInt64.size) :
    (Change.ofSpan text span new).Fits := by
  have hpoint := text.pointAt_le span.start
  obtain ⟨hrow, hcolumn⟩ := (text.pointAt span.start).advance_le new
  -- The points are bounded by the ends, which are words.
  have hend : (Change.ofSpan text span new).oldEnd = span.stop := by
    show span.start + (span.stop - span.start) = span.stop
    omega
  refine ⟨by rw [hend]; exact old, inserted, ?_, ?_⟩
  · show ((text.pointAt span.start).advance new).row < _
    omega
  · show ((text.pointAt span.start).advance new).column < _
    omega

/-- Every text on the way from a text through changes is of fewer than 2^64 bytes. -/
def Text.SmallAlong (text : Text) : List Change → Prop
  | [] => text.byteLength < UInt64.size
  | change :: rest =>
    text.byteLength < UInt64.size ∧
      match change.replay? text with
      | none => True
      | some next => SmallAlong next rest

/-- Whether all texts on the way are small can be tried out. -/
instance Text.SmallAlong.decidable :
    (text : Text) → (changes : List Change) → Decidable (text.SmallAlong changes)
  | text, [] => inferInstanceAs (Decidable (text.byteLength < UInt64.size))
  | _, _ :: rest =>
    have (replayed : Option Text) :
        Decidable (match replayed with | none => True | some next => next.SmallAlong rest) :=
      match replayed with
      | none => .isTrue trivial
      | some next => decidable next rest
    inferInstanceAs (Decidable (_ ∧ _))

/-- The first text on the way is small. -/
theorem Text.SmallAlong.here {text : Text} {changes : List Change}
    (small : text.SmallAlong changes) : text.byteLength < UInt64.size := by
  cases changes with
  | nil => exact small
  | cons change rest => exact small.1

/-- The texts on the rest of the way are small. -/
theorem Text.SmallAlong.of_cons {text next : Text} {change : Change} {rest : List Change}
    (small : text.SmallAlong (change :: rest)) (replay : change.replay? text = some next) :
    next.SmallAlong rest := by
  have hnext := small.2
  rw [replay] at hnext
  exact hnext

/-- The change of a splice between small texts fits into words. -/
theorem Text.SmallAlong.fits {text next new : Text} {span : Span} {rest : List Change}
    (small : text.SmallAlong (.ofSpan text span new :: rest))
    (splice : text.splice? span.start span.stop new = some next) :
    (Change.ofSpan text span new).Fits := by
  have hold := small.here
  have hnew := (small.of_cons (Change.replay?_ofSpan splice)).here
  -- Both texts are small, and the span ends inside the one as the insertion does inside the other.
  have hstop := splice?_stop_le splice
  have hinserted := splice?_newEnd_le splice
  exact Change.fits_ofSpan text (splice?_eq_some splice).1 (by omega) (by omega)

namespace Text

/-- The changes of edits fit into words if all texts on the way do. -/
theorem applyEdits_fits {text last : Text} {edits : List Edit} {changes : List Change}
    (h : text.applyEdits edits = .ok (last, changes)) (small : text.SmallAlong changes) :
    ∀ change ∈ changes, change.Fits := by
  -- By induction on the edits, over all texts: a splice and then the others.
  induction edits generalizing text changes with
  | nil =>
    obtain ⟨rfl, rfl⟩ := Prod.mk.inj (Except.ok.inj h)
    intro change hchange
    exact nomatch hchange
  | cons edit rest ih =>
    obtain ⟨next, others, hsplice, hrest, rfl⟩ := applyEdits_cons_eq_ok h
    intro change hchange
    rcases List.mem_cons.1 hchange with rfl | hchange
    · exact small.fits hsplice
    · exact ih hrest (small.of_cons (Change.replay?_ofSpan hsplice)) change hchange

end Text

/-! ## Revisions -/

namespace Document.Revision

variable {doc next : Document} {changes : List Change}

/-- The changes of a revision lead from its text to the next. -/
theorem replay (h : doc.Revision next changes) :
    Change.replayAll? changes doc.text = some next.text := by
  cases h with
  | edits edited =>
    obtain ⟨text, hedits, rfl⟩ := applyEdits_eq_ok edited
    exact Text.applyEdits_replay hedits
  | setText text =>
    show Change.replayAll? [.ofSpan doc.text ⟨0, doc.text.byteLength⟩ text] doc.text = some text
    rw [Change.replayAll?_cons, Change.replay?_ofSpan (doc.text.splice?_all text)]
    rfl

/-- The changes of a revision fit into words if all texts on the way do. -/
theorem fits (h : doc.Revision next changes) (small : doc.text.SmallAlong changes) :
    ∀ change ∈ changes, change.Fits := by
  cases h with
  | edits edited =>
    obtain ⟨text, hedits, rfl⟩ := applyEdits_eq_ok edited
    exact Text.applyEdits_fits hedits small
  -- A new text is the splice of all there is.
  | setText text =>
    intro change hchange
    obtain rfl := List.mem_singleton.1 hchange
    exact Text.SmallAlong.fits small (doc.text.splice?_all text)

end Document.Revision

end LiveTree
