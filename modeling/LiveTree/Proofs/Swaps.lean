import LiveTree.Proofs.Edits

/-!
# Exchanging two pieces of a text

Two pieces of a text that do not overlap cut it into five: what is before them, the left piece, what is
between them, the right piece, and what is after them.  An exchange puts the same five together with the
two pieces in each other's place.  So it is its own inverse, at the spans that it answers with.

## Key results

- `Text.exists_pieces`: the five parts of a text
- `Document.swap_of_pieces`: what an exchange does, in terms of the five parts
- `Document.swap_eq_ok_iff`, `Document.swap_eq_error_iff`: when there is an exchange, and what is said
  otherwise
- `Document.swap_exchanges`: all of it, on the bytes of the text
-/

namespace LiveTree

/-- Of two spans the one that starts first; of two that start together, the first. -/
def Span.earlier (a b : Span) : Span := if a.start ≤ b.start then a else b

/-- The other one. -/
def Span.later (a b : Span) : Span := if a.start ≤ b.start then b else a

/-- Of two spans in order the first one starts first. -/
theorem Span.earlier_of_le {a b : Span} (h : a.start ≤ b.start) : a.earlier b = a := if_pos h

/-- The other one of two spans in order is the second. -/
theorem Span.later_of_le {a b : Span} (h : a.start ≤ b.start) : a.later b = b := if_pos h

namespace Text

/-- Two spans of a text can be exchanged: each can be replaced, and the one ends before the other
    starts. -/
structure Swappable (text : Text) (a b : Span) : Prop where
  first : a.start ≤ a.stop
  second : b.start ≤ b.stop
  apart : (a.earlier b).stop ≤ (a.later b).start
  left : text.Admits (a.earlier b)
  right : text.Admits (a.later b)

/-- What is wrong with two spans of a text that are to be exchanged.  Of several faults the one that comes
    first here is told. -/
inductive SwapFault (text : Text) (a b : Span) : QueryError → Prop where
  | first (reversed : a.stop < a.start) : SwapFault text a b (.invalidSpan a)
  | second (ordered : a.start ≤ a.stop) (reversed : b.stop < b.start) :
      SwapFault text a b (.invalidSpan b)
  | overlapping (first : a.start ≤ a.stop) (second : b.start ≤ b.stop)
      (overlap : (a.later b).start < (a.earlier b).stop) :
      SwapFault text a b (.overlapping (a.earlier b) (a.later b))
  | left {error : EditError} (first : a.start ≤ a.stop) (second : b.start ≤ b.stop)
      (apart : (a.earlier b).stop ≤ (a.later b).start) (fault : text.Fault (a.earlier b) error) :
      SwapFault text a b (.edit error)
  | right {error : EditError} (first : a.start ≤ a.stop) (second : b.start ≤ b.stop)
      (apart : (a.earlier b).stop ≤ (a.later b).start) (left : text.Admits (a.earlier b))
      (fault : text.Fault (a.later b) error) : SwapFault text a b (.edit error)

/-! ## Parts of a text -/

/-- A span whose ends are between parts of a text can be replaced. -/
theorem admits_append (first middle rest : Text) :
    Admits (first ++ middle ++ rest) ⟨byteLength first, byteLength (first ++ middle)⟩ := by
  refine ⟨?_, ?_, ⟨first, middle ++ rest, by simp, rfl⟩, ⟨first ++ middle, rest, rfl, rfl⟩⟩
  · show byteLength first ≤ byteLength (first ++ middle)
    rw [byteLength_append]
    omega
  · show byteLength (first ++ middle) ≤ byteLength (first ++ middle ++ rest)
    rw [byteLength_append (first ++ middle)]
    omega

/-- A text is cut at the two ends of a part of it. -/
theorem cut?_parts (first middle rest : Text) :
    cut? (first ++ middle ++ rest) (byteLength first) = some (first, middle ++ rest) ∧
      cut? (middle ++ rest) (byteLength (first ++ middle) - byteLength first) =
        some (middle, rest) ∧
      ¬ byteLength (first ++ middle) < byteLength first := by
  rw [byteLength_append, Nat.add_sub_cancel_left, List.append_assoc]
  exact ⟨cut?_append _ _, cut?_append _ _, by omega⟩

/-- At the ends of its middle part a text reads that part. -/
theorem slice_append (first middle rest : Text) :
    slice (first ++ middle ++ rest) ⟨byteLength first, byteLength (first ++ middle)⟩ =
      .ok middle := by
  obtain ⟨hstart, hstop, hordered⟩ := cut?_parts first middle rest
  have hslice : slice? (first ++ middle ++ rest) (byteLength first)
      (byteLength (first ++ middle)) = some middle := by
    unfold slice?
    simp only [hordered, if_false, bind, Option.bind, pure, hstart, hstop]
  unfold slice
  rw [checkSpan_eq_ok_iff.2 (admits_append first middle rest)]
  simp only [hslice]
  rfl

/-- Only a span that can be replaced can be read. -/
theorem admits_of_slice {text piece : Text} {span : Span} (h : text.slice span = .ok piece) :
    text.Admits span := by
  apply checkSpan_eq_ok_iff.1
  unfold slice at h
  cases hcheck : text.checkSpan span with
  | error error => rw [hcheck] at h; exact nomatch h
  | ok => rfl

/-- A span with a fault is not read, and the fault is told. -/
theorem slice_of_fault {text : Text} {span : Span} {error : EditError}
    (h : text.Fault span error) : text.slice span = .error error := by
  unfold slice
  rw [checkSpan_eq_error_iff.2 h]
  rfl

/-- An edit of the middle part of a text puts the new text in its place. -/
theorem applyEdit_append (first middle rest new : Text) :
    applyEdit (first ++ middle ++ rest) ⟨⟨byteLength first, byteLength (first ++ middle)⟩, new⟩ =
      .ok (first ++ new ++ rest,
        .ofSpan (first ++ middle ++ rest) ⟨byteLength first, byteLength (first ++ middle)⟩ new) := by
  obtain ⟨hstart, hstop, hordered⟩ := cut?_parts first middle rest
  have hsplice : splice? (first ++ middle ++ rest) (byteLength first)
      (byteLength (first ++ middle)) new = some (first ++ new ++ rest) := by
    unfold splice?
    simp only [hordered, if_false, bind, Option.bind, pure, hstart, hstop]
  exact applyEdit_eq_ok_iff.2 ⟨admits_append first middle rest, bytes_of_splice? hsplice, rfl⟩

/-- The bytes of a text from `start` to `stop`. -/
def part (text : Text) (start stop : Nat) : List UInt8 := (text.bytes.toList.take stop).drop start

/-- The bytes between the ends of the middle part are its own. -/
theorem part_append (first middle rest : Text) :
    part (first ++ middle ++ rest) (byteLength first) (byteLength (first ++ middle)) =
      middle.bytes.toList := by
  have htake : (first ++ middle ++ rest).bytes.toList.take (byteLength (first ++ middle)) =
      first.bytes.toList ++ middle.bytes.toList := by
    rw [toList_bytes_append, List.take_left' (length_bytes _), toList_bytes_append]
  unfold part
  rw [htake, List.drop_left' (length_bytes first)]

/-- The bytes of five parts of a text. -/
theorem part_pieces {text first left between right last : Text}
    (h : text = first ++ left ++ between ++ right ++ last) :
    part text 0 (byteLength first) = first.bytes.toList ∧
      part text (byteLength first) (byteLength (first ++ left)) = left.bytes.toList ∧
      part text (byteLength (first ++ left)) (byteLength (first ++ left ++ between)) =
        between.bytes.toList ∧
      part text (byteLength (first ++ left ++ between))
        (byteLength (first ++ left ++ between ++ right)) = right.bytes.toList ∧
      part text (byteLength (first ++ left ++ between ++ right)) (byteLength text) =
        last.bytes.toList := by
  subst h
  -- Each of the five is the middle part of the text, with what is before and after it.
  have hfirst := part_append [] first (left ++ between ++ right ++ last)
  have hleft := part_append first left (between ++ right ++ last)
  have hbetween := part_append (first ++ left) between (right ++ last)
  have hright := part_append (first ++ left ++ between) right last
  have hlast := part_append (first ++ left ++ between ++ right) last []
  simp only [List.nil_append, List.append_nil, byteLength_nil, ← List.append_assoc]
    at hfirst hleft hbetween hright hlast
  exact ⟨hfirst, hleft, hbetween, hright, hlast⟩

/-- At the spans of the second and the fourth part these parts are read. -/
theorem slice_pieces {text first left between right last : Text}
    (h : text = first ++ left ++ between ++ right ++ last) :
    slice text ⟨byteLength first, byteLength (first ++ left)⟩ = .ok left ∧
      slice text ⟨byteLength (first ++ left ++ between),
        byteLength (first ++ left ++ between ++ right)⟩ = .ok right := by
  subst h
  have hleft := slice_append first left (between ++ right ++ last)
  simp only [← List.append_assoc] at hleft
  exact ⟨hleft, slice_append (first ++ left ++ between) right last⟩

/-- Two spans of which the one ends before the other starts cut a text into five parts. -/
theorem exists_pieces {text : Text} {a b : Span} (ha : text.Admits a) (hb : text.Admits b)
    (apart : a.stop ≤ b.start) :
    ∃ first left between right last, text = first ++ left ++ between ++ right ++ last ∧
      a = ⟨byteLength first, byteLength (first ++ left)⟩ ∧
      b = ⟨byteLength (first ++ left ++ between),
        byteLength (first ++ left ++ between ++ right)⟩ := by
  obtain ⟨first, left, rest, htext, rfl⟩ := ha.pieces
  obtain ⟨upto, right, last, hupto, rfl⟩ := hb.pieces
  -- The right piece starts in what follows the left one.
  have hcut : (first ++ left) ++ rest = upto ++ (right ++ last) := by
    rw [← htext, hupto, List.append_assoc]
  obtain ⟨between, rfl, -⟩ := exists_between hcut apart
  exact ⟨first, left, between, right, last, hupto, rfl, rfl⟩

/-- Two edits exchange two pieces of a text.  The right one is replaced first, which leaves the left one
    where it is. -/
theorem applyEdits_exchange (first left between right last : Text) :
    applyEdits (first ++ left ++ between ++ right ++ last)
        [⟨⟨byteLength (first ++ left ++ between), byteLength (first ++ left ++ between ++ right)⟩,
            left⟩,
          ⟨⟨byteLength first, byteLength (first ++ left)⟩, right⟩] =
      .ok (first ++ right ++ between ++ left ++ last,
        [.ofSpan (first ++ left ++ between ++ right ++ last)
            ⟨byteLength (first ++ left ++ between), byteLength (first ++ left ++ between ++ right)⟩
            left,
          .ofSpan (first ++ left ++ between ++ left ++ last)
            ⟨byteLength first, byteLength (first ++ left)⟩ right]) := by
  have hreplaced : first ++ left ++ (between ++ left ++ last) =
      first ++ left ++ between ++ left ++ last := by simp
  have hresult : first ++ right ++ (between ++ left ++ last) =
      first ++ right ++ between ++ left ++ last := by simp
  have hlater := applyEdit_append (first ++ left ++ between) right last left
  have hearlier := applyEdit_append first left (between ++ left ++ last) right
  rw [hreplaced, hresult] at hearlier
  rw [applyEdits_cons_of_ok hlater, applyEdits_cons_of_ok hearlier]
  rfl

/-- Two spans can be exchanged, or something is wrong with them. -/
theorem swappable_or_fault (text : Text) (a b : Span) :
    text.Swappable a b ∨ ∃ error, text.SwapFault a b error := by
  -- The faults are tried in the order in which they are told.
  by_cases hfirst : a.stop < a.start
  · exact .inr ⟨_, .first hfirst⟩
  by_cases hsecond : b.stop < b.start
  · exact .inr ⟨_, .second (by omega) hsecond⟩
  by_cases hoverlap : (a.later b).start < (a.earlier b).stop
  · exact .inr ⟨_, .overlapping (by omega) (by omega) hoverlap⟩
  cases hleft : text.checkSpan (a.earlier b) with
  | error error =>
    exact .inr ⟨_, .left (by omega) (by omega) (by omega) (checkSpan_eq_error_iff.1 hleft)⟩
  | ok =>
    have hadmits := checkSpan_eq_ok_iff.1 hleft
    cases hright : text.checkSpan (a.later b) with
    | error error =>
      exact .inr ⟨_, .right (by omega) (by omega) (by omega) hadmits
        (checkSpan_eq_error_iff.1 hright)⟩
    | ok => exact .inl ⟨by omega, by omega, by omega, hadmits, checkSpan_eq_ok_iff.1 hright⟩

end Text

namespace Document

/-! ## One exchange -/

/-- The tests of an exchange, the two readings and the two edits, one after the other. -/
theorem swap_eq (doc : Document) (a b : Span) :
    doc.swap a b =
      if a.stop < a.start then .error (.invalidSpan a)
      else if b.stop < b.start then .error (.invalidSpan b)
      else if (a.later b).start < (a.earlier b).stop then
        .error (.overlapping (a.earlier b) (a.later b))
      else
        match doc.text.slice (a.earlier b) with
        | .error error => .error (.edit error)
        | .ok left =>
          match doc.text.slice (a.later b) with
          | .error error => .error (.edit error)
          | .ok right =>
            match doc.applyEdits [⟨a.later b, left⟩, ⟨a.earlier b, right⟩] with
            | .error error => .error (.edit error)
            | .ok (next, changes) =>
              .ok (next, ⟨changes,
                ⟨(a.earlier b).start, (a.earlier b).start + right.byteLength⟩,
                ⟨(a.later b).start + right.byteLength - left.byteLength,
                  (a.later b).start + right.byteLength - left.byteLength + left.byteLength⟩⟩) := by
  have hearlier : (if a.start ≤ b.start then a else b) = a.earlier b := rfl
  have hlater : (if a.start ≤ b.start then b else a) = a.later b := rfl
  unfold swap sliceForQuery slice
  simp only [bind, Except.bind, pure, Except.pure, throw, throwThe, MonadExceptOf.throw, hearlier,
    hlater]
  -- The two spans are named, so that the tests can be taken one by one.
  generalize a.earlier b = left
  generalize a.later b = right
  split
  · rfl
  split
  · rfl
  split
  · rfl
  cases doc.text.slice left with
  | error error => rfl
  | ok leftText =>
    cases doc.text.slice right with
    | error error => rfl
    | ok rightText =>
      have hread (piece : Text) : Except.mapError QueryError.edit (.ok piece) = .ok piece := rfl
      simp only [hread]
      cases doc.applyEdits [⟨right, leftText⟩, ⟨left, rightText⟩] with
      | error error => rfl
      | ok edited => rfl

/-- An exchange that something is wrong with is not made. -/
theorem swap_of_fault {doc : Document} {a b : Span} {error : QueryError}
    (h : doc.text.SwapFault a b error) : doc.swap a b = .error error := by
  rw [swap_eq]
  cases h with
  | first reversed => rw [if_pos reversed]
  | second ordered reversed => rw [if_neg (by omega), if_pos reversed]
  | overlapping first second overlap =>
    rw [if_neg (by omega), if_neg (by omega), if_pos overlap]
  | left first second apart fault =>
    rw [if_neg (by omega), if_neg (by omega), if_neg (by omega), Text.slice_of_fault fault]
  -- The left piece has been read before, which succeeds.
  | right first second apart left fault =>
    obtain ⟨before, piece, after, htext, hspan⟩ := left.pieces
    rw [if_neg (by omega), if_neg (by omega), if_neg (by omega), Text.slice_of_fault fault]
    rw [hspan, htext, Text.slice_append]

/-- An exchange puts two pieces in each other's place and leaves what is before, between and after
    them. -/
theorem swap_of_pieces {doc : Document} {a b : Span} {first left between right last : Text}
    (text : doc.text = first ++ left ++ between ++ right ++ last)
    (ordered : a.start ≤ a.stop ∧ b.start ≤ b.stop)
    (earlier : a.earlier b = ⟨first.byteLength, Text.byteLength (first ++ left)⟩)
    (later : a.later b = ⟨Text.byteLength (first ++ left ++ between),
      Text.byteLength (first ++ left ++ between ++ right)⟩) :
    ∃ changes,
      doc.text.applyEdits [⟨a.later b, left⟩, ⟨a.earlier b, right⟩] =
        .ok (first ++ right ++ between ++ left ++ last, changes) ∧
      doc.swap a b =
        .ok ({ doc with
            version := doc.version + 1, text := first ++ right ++ between ++ left ++ last },
          ⟨changes, ⟨first.byteLength, Text.byteLength (first ++ right)⟩,
            ⟨Text.byteLength (first ++ right ++ between),
              Text.byteLength (first ++ right ++ between ++ left)⟩⟩) := by
  have hedits := Text.applyEdits_exchange first left between right last
  rw [← text, ← earlier, ← later] at hedits
  refine ⟨_, hedits, ?_⟩
  obtain ⟨hleft, hright⟩ := Text.slice_pieces text
  rw [← earlier] at hleft
  rw [← later] at hright
  have hapart : ¬ (a.later b).start < (a.earlier b).stop := by
    rw [earlier, later]
    simp only [Text.byteLength_append]
    omega
  -- The new place of the left piece is counted from the old place of the right one.
  have hstart : (a.later b).start + right.byteLength - left.byteLength =
      Text.byteLength (first ++ right ++ between) := by
    rw [later]
    simp only [Text.byteLength_append]
    omega
  have hfirst : (a.earlier b).start = first.byteLength := by rw [earlier]
  rw [swap_eq, if_neg (by omega), if_neg (by omega), if_neg hapart]
  simp only [hleft, hright, applyEdits_of_ok hedits, hstart, hfirst, Text.byteLength_append]

/-- There is an exchange if and only if both spans can be replaced and do not overlap. -/
theorem swap_eq_ok_iff {doc : Document} {a b : Span} :
    (∃ next swap, doc.swap a b = .ok (next, swap)) ↔ doc.text.Swappable a b := by
  constructor
  · rintro ⟨next, swap, h⟩
    rcases doc.text.swappable_or_fault a b with hswappable | ⟨error, hfault⟩
    · exact hswappable
    · rw [swap_of_fault hfault] at h
      exact nomatch h
  -- Two admitted spans that are apart cut the text into five parts, of which two change places.
  · intro h
    obtain ⟨first, left, between, right, last, htext, hearlier, hlater⟩ :=
      Text.exists_pieces h.left h.right h.apart
    obtain ⟨changes, -, hswap⟩ := swap_of_pieces htext ⟨h.first, h.second⟩ hearlier hlater
    exact ⟨_, _, hswap⟩

/-- Otherwise it is said what is wrong. -/
theorem swap_eq_error_iff {doc : Document} {a b : Span} {error : QueryError} :
    doc.swap a b = .error error ↔ doc.text.SwapFault a b error := by
  constructor
  · intro h
    -- Either there is an exchange, which is no error, or there is a fault, and each fault has its
    -- own error.
    rcases doc.text.swappable_or_fault a b with hswappable | ⟨found, hfault⟩
    · obtain ⟨next, swap, hswap⟩ := swap_eq_ok_iff.2 hswappable
      rw [hswap] at h
      exact nomatch h
    · rw [swap_of_fault hfault] at h
      obtain rfl := Except.error.inj h
      exact hfault
  · exact swap_of_fault

/-! ## Both texts and the way back -/

/-- What an exchange of the spans `left` and `right` of a document makes of it. -/
structure Exchanged (doc : Document) (left right : Span) (next : Document) (swap : Swap) : Prop where
  /-- The bytes of the two spans have changed places, and all others are where they were. -/
  bytes : next.text.bytes.toList =
    doc.text.part 0 left.start ++ doc.text.part right.start right.stop ++
      doc.text.part left.stop right.start ++ doc.text.part left.start left.stop ++
      doc.text.part right.stop doc.text.byteLength
  /-- At the spans that are answered stand the texts that stood at the other span. -/
  leftPiece : ∃ piece, doc.slice right = .ok piece ∧ next.slice swap.left = .ok piece ∧
    piece.bytes.toList = doc.text.part right.start right.stop
  rightPiece : ∃ piece, doc.slice left = .ok piece ∧ next.slice swap.right = .ok piece ∧
    piece.bytes.toList = doc.text.part left.start left.stop
  version : next = { doc with version := doc.version + 1, text := next.text }
  count : swap.changes.length = 2
  replay : Change.replayAll? swap.changes doc.text = some next.text
  replayBytes : swap.changes.foldl Change.onBytes doc.text.bytes.toList = next.text.bytes.toList
  /-- Nothing is taken from less, so that the new start of the right span is what it is meant to be. -/
  room : left.stop - left.start ≤ right.start + (right.stop - right.start)
  start : swap.right.start + (left.stop - left.start) = right.start + (right.stop - right.start)
  undo : ∃ changes, next.swap swap.left swap.right =
    .ok ({ doc with version := doc.version + 2 }, ⟨changes, left, right⟩)

/-- All of this is found by cutting the text into five parts. -/
theorem exchanged_of_ok {doc next : Document} {a b : Span} {swap : Swap}
    (h : doc.swap a b = .ok (next, swap)) : doc.Exchanged (a.earlier b) (a.later b) next swap := by
  have hswappable := swap_eq_ok_iff.1 ⟨next, swap, h⟩
  obtain ⟨first, left, between, right, last, htext, hearlier, hlater⟩ :=
    Text.exists_pieces hswappable.left hswappable.right hswappable.apart
  obtain ⟨changes, hedits, hswap⟩ :=
    swap_of_pieces htext ⟨hswappable.first, hswappable.second⟩ hearlier hlater
  obtain ⟨rfl, rfl⟩ := Prod.mk.inj (Except.ok.inj (hswap.symm.trans h))
  have hsame := Text.map_toEdit_of_applyEdits hedits
  have htakes := Text.exists_applyEdits_iff.1 ⟨changes, hedits⟩
  obtain ⟨hfirstPart, hleftPart, hbetweenPart, hrightPart, hlastPart⟩ := Text.part_pieces htext
  obtain ⟨hleft, hright⟩ := Text.slice_pieces htext
  -- The new text has five parts as well, with the two pieces in each other's place.
  have hnext := Text.slice_pieces (rfl : first ++ right ++ between ++ left ++ last = _)
  rw [hearlier, hlater]
  constructor
  case bytes =>
    rw [hfirstPart, hleftPart, hbetweenPart, hrightPart, hlastPart]
    simp only [Text.toList_bytes_append]
  case leftPiece => exact ⟨right, hright, hnext.1, hrightPart.symm⟩
  case rightPiece => exact ⟨left, hleft, hnext.2, hleftPart.symm⟩
  case version => rfl
  case count => simpa using congrArg List.length hsame
  case replay => exact Text.applyEdits_replay hedits
  case replayBytes =>
    rw [Change.foldl_onBytes, hsame]
    exact htakes.bytes_eq.symm
  -- The way back is an exchange in the new text, whose spans are in order as well.
  case undo =>
    have hle : first.byteLength ≤ Text.byteLength (first ++ right ++ between) := by
      simp only [Text.byteLength_append]
      omega
    have hordered : first.byteLength ≤ Text.byteLength (first ++ right) ∧
        Text.byteLength (first ++ right ++ between) ≤
          Text.byteLength (first ++ right ++ between ++ left) := by
      simp only [Text.byteLength_append]
      omega
    obtain ⟨back, -, hback⟩ := @swap_of_pieces { doc with
        version := doc.version + 1, text := first ++ right ++ between ++ left ++ last }
      _ _ first right between left last rfl hordered (Span.earlier_of_le hle) (Span.later_of_le hle)
    refine ⟨back, hback.trans ?_⟩
    rw [htext, Int.add_assoc]
    rfl
  all_goals
    simp only [Text.byteLength_append]
    omega

/-- Once both pieces have been read, they are replaced. -/
theorem applyEdits_of_slices {doc : Document} {a b : Span} {left right : Text}
    (apart : a.stop ≤ b.start) (hleft : doc.slice a = .ok left) (hright : doc.slice b = .ok right) :
    ∃ edited, doc.applyEdits [⟨b, left⟩, ⟨a, right⟩] = .ok edited := by
  obtain ⟨first, leftPiece, between, rightPiece, last, htext, rfl, rfl⟩ :=
    Text.exists_pieces (Text.admits_of_slice hleft) (Text.admits_of_slice hright) apart
  obtain ⟨hreadLeft, hreadRight⟩ := Text.slice_pieces htext
  obtain rfl := Except.ok.inj (hreadLeft.symm.trans hleft)
  obtain rfl := Except.ok.inj (hreadRight.symm.trans hright)
  have hedits := Text.applyEdits_exchange first leftPiece between rightPiece last
  rw [← htext] at hedits
  exact ⟨_, applyEdits_of_ok hedits⟩

/-- Two spans of a document are exchanged exactly if both can be replaced and the one that starts first
    ends before the other starts.  Then their texts change places, and another exchange at the spans that
    are answered puts everything back.  Otherwise it is said what is wrong, and no document is touched. -/
theorem swap_exchanges (doc : Document) (a b : Span) :
    ((∃ next swap, doc.swap a b = .ok (next, swap)) ↔ doc.text.Swappable a b) ∧
    (∀ next swap, doc.swap a b = .ok (next, swap) →
      doc.Exchanged (a.earlier b) (a.later b) next swap) ∧
    (∀ error, doc.swap a b = .error error ↔ doc.text.SwapFault a b error) ∧
    (∀ left right, (a.earlier b).stop ≤ (a.later b).start → doc.slice (a.earlier b) = .ok left →
      doc.slice (a.later b) = .ok right →
        ∃ edited, doc.applyEdits [⟨a.later b, left⟩, ⟨a.earlier b, right⟩] = .ok edited) ∧
    ∀ (w : Workspace) (parser : Parser) (id : DocumentId) (error : QueryError),
      w.documents[id]? = some doc → doc.swap a b = .error error →
        (w.swapSiblings parser id a b).2 = some (.error (.query error)) ∧
          (w.swapSiblings parser id a b).1.documents = w.documents := by
  refine ⟨swap_eq_ok_iff, fun next swap => exchanged_of_ok, fun error => swap_eq_error_iff,
    fun left right => applyEdits_of_slices, ?_⟩
  intro w parser id error found hswap
  unfold Workspace.swapSiblings
  simp only [found, hswap]
  exact ⟨trivial, rfl⟩

/-- Pieces of five and of four bytes, given in reverse order, and an exchange back. -/
theorem swap_exchanges_accented :
    (Document.create "file:///a.js" "javascript" ['f', '(', 'é', 'é', 'x', ',', 'ü', 'z', 'z', ')']).swap
        ⟨8, 12⟩ ⟨2, 7⟩ =
      .ok (⟨"file:///a.js", "javascript", 1,
          ['f', '(', 'ü', 'z', 'z', ',', 'é', 'é', 'x', ')']⟩,
        ⟨[⟨8, 4, ['é', 'é', 'x'], ⟨0, 8⟩, ⟨0, 12⟩⟩, ⟨2, 5, ['ü', 'z', 'z'], ⟨0, 2⟩, ⟨0, 7⟩⟩],
          ⟨2, 6⟩, ⟨7, 12⟩⟩) ∧
    ∃ changes,
      (⟨"file:///a.js", "javascript", 1,
          ['f', '(', 'ü', 'z', 'z', ',', 'é', 'é', 'x', ')']⟩ : Document).swap ⟨2, 6⟩ ⟨7, 12⟩ =
        .ok (⟨"file:///a.js", "javascript", 2,
            ['f', '(', 'é', 'é', 'x', ',', 'ü', 'z', 'z', ')']⟩,
          ⟨changes, ⟨2, 7⟩, ⟨8, 12⟩⟩) := by
  obtain ⟨-, hexchanged, -⟩ := swap_exchanges
    (.create "file:///a.js" "javascript" ['f', '(', 'é', 'é', 'x', ',', 'ü', 'z', 'z', ')'])
    ⟨8, 12⟩ ⟨2, 7⟩
  refine ⟨rfl, ?_⟩
  exact (hexchanged _ _ rfl).undo

end Document

end LiveTree
