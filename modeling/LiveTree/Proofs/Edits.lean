import LiveTree.Proofs.Replay
import LiveTree.Workspace

/-!
# Edits are applied in order or not at all

A list of edits is read from left to right: every edit speaks of the text that the ones before it have
led to.  What that text is, is told here by its bytes alone.  Offsets count bytes, so an edit cuts the
bytes of a text at two places and puts other bytes between; it is admitted if both places are between
two characters, or at an end of the text.

## Key results

- `Text.checkSpan_eq_ok_iff`, `Text.checkSpan_eq_error_iff`: which spans are admitted, and what is said
  of the others
- `Text.applyEdit_eq_ok_iff`: an admitted edit replaces the bytes of its span
- `Text.exists_applyEdits_iff`, `Text.applyEdits_eq_error_iff`: when a list of edits is applied, and
  which of its faults is told otherwise
- `edits_all_or_none`: what becomes of a document and its changes in both cases
-/

namespace LiveTree

namespace Text

/-- An offset is between two characters of a text, or at one of its ends. -/
def Boundary (text : Text) (offset : Nat) : Prop :=
  ∃ before after, text = before ++ after ∧ byteLength before = offset

/-- A span of a text that can be replaced. -/
structure Admits (text : Text) (span : Span) : Prop where
  ordered : span.start ≤ span.stop
  inside : span.stop ≤ text.byteLength
  start : text.Boundary span.start
  stop : text.Boundary span.stop

/-- What is wrong with a span of a text.  Of several faults the one that comes first here is told. -/
inductive Fault (text : Text) (span : Span) : EditError → Prop where
  | reversed (reversed : span.stop < span.start) : Fault text span (.reversed span)
  | outOfBounds (ordered : span.start ≤ span.stop) (outside : text.byteLength < span.stop) :
      Fault text span (.outOfBounds span text.byteLength)
  | start (ordered : span.start ≤ span.stop) (inside : span.stop ≤ text.byteLength)
      (astray : ¬ text.Boundary span.start) : Fault text span (.notCharBoundary span.start)
  | stop (ordered : span.start ≤ span.stop) (inside : span.stop ≤ text.byteLength)
      (start : text.Boundary span.start) (astray : ¬ text.Boundary span.stop) :
      Fault text span (.notCharBoundary span.stop)

/-! ## Checks -/

/-- The check of an offset tells whether the text can be cut there. -/
theorem isBoundary_iff {text : Text} {offset : Nat} :
    text.isBoundary offset = true ↔ text.Boundary offset := by
  unfold isBoundary
  constructor
  · intro h
    obtain ⟨parts, hparts⟩ := Option.isSome_iff_exists.1 h
    obtain ⟨htext, hlength⟩ := cut?_eq_some hparts
    exact ⟨parts.1, parts.2, htext, hlength⟩
  · rintro ⟨before, after, rfl, rfl⟩
    rw [cut?_append]
    rfl

variable {text : Text} {span : Span}

/-- A span passes the check exactly if it is admitted. -/
theorem checkSpan_eq_ok_iff : text.checkSpan span = .ok () ↔ text.Admits span := by
  unfold checkSpan
  constructor
  -- Four checks, one after the other: what is left when all have passed is what `Admits` asks for.
  · intro h
    split at h
    · exact nomatch h
    · split at h
      · exact nomatch h
      · split at h
        · exact nomatch h
        · split at h
          · exact nomatch h
          · next ordered inside start stop =>
            exact ⟨by omega, by omega, isBoundary_iff.1 (by simpa using start),
              isBoundary_iff.1 (by simpa using stop)⟩
  · intro h
    have hordered := h.ordered
    have hinside := h.inside
    rw [if_neg (by omega), if_neg (by omega), isBoundary_iff.2 h.start, isBoundary_iff.2 h.stop]
    rfl

/-- The check tells of the first fault of a span. -/
theorem checkSpan_eq_error_iff {error : EditError} :
    text.checkSpan span = .error error ↔ text.Fault span error := by
  unfold checkSpan
  constructor
  · intro h
    split at h
    · next reversed =>
      obtain rfl := Except.error.inj h
      exact .reversed reversed
    · split at h
      · next ordered outside =>
        obtain rfl := Except.error.inj h
        exact .outOfBounds (by omega) outside
      · split at h
        · next ordered inside astray =>
          obtain rfl := Except.error.inj h
          refine .start (by omega) (by omega) fun boundary => ?_
          rw [isBoundary_iff.2 boundary] at astray
          exact absurd astray (by simp)
        · split at h
          · next ordered inside start astray =>
            obtain rfl := Except.error.inj h
            refine .stop (by omega) (by omega) (isBoundary_iff.1 (by simpa using start))
              fun boundary => ?_
            rw [isBoundary_iff.2 boundary] at astray
            exact absurd astray (by simp)
          · exact nomatch h
  -- Conversely, every fault passes the checks before its own and fails at that one.
  · intro h
    cases h with
    | reversed reversed => rw [if_pos reversed]
    | outOfBounds ordered outside => rw [if_neg (by omega), if_pos outside]
    | start ordered inside astray =>
      have hstart : text.isBoundary span.start = false :=
        Bool.eq_false_iff.2 fun h => astray (isBoundary_iff.1 h)
      rw [if_neg (by omega), if_neg (by omega), hstart]
      rfl
    | stop ordered inside start astray =>
      have hstop : text.isBoundary span.stop = false :=
        Bool.eq_false_iff.2 fun h => astray (isBoundary_iff.1 h)
      rw [if_neg (by omega), if_neg (by omega), isBoundary_iff.2 start, hstop]
      rfl

/-- Between two boundaries there are whole characters. -/
theorem Admits.parts (h : text.Admits span) :
    ∃ before middle after, text = before ++ middle ++ after ∧ byteLength before = span.start ∧
      byteLength middle = span.stop - span.start := by
  obtain ⟨before, rest, htext, hbefore⟩ := h.start
  obtain ⟨upto, after, hupto, hlength⟩ := h.stop
  have hordered := h.ordered
  -- Both cuts are of one text, so one of the two parts in front is the beginning of the other.
  rcases List.append_eq_append_iff.1 (htext.symm.trans hupto) with
    ⟨middle, rfl, hrest⟩ | ⟨extra, rfl, hafter⟩
  · refine ⟨before, middle, after, hupto, hbefore, ?_⟩
    rw [byteLength_append] at hlength
    omega
  · -- The second boundary is not before the first, so nothing is between them.
    refine ⟨upto ++ extra, [], rest, by rw [List.append_nil]; exact htext, hbefore, ?_⟩
    rw [byteLength_append] at hbefore
    rw [byteLength_nil]
    omega

/-- Of two ways to cut a text in two, the second cuts what the first leaves. -/
theorem exists_between {first rest second last : Text} (h : first ++ rest = second ++ last)
    (le : byteLength first ≤ byteLength second) :
    ∃ between, second = first ++ between ∧ rest = between ++ last := by
  rcases List.append_eq_append_iff.1 h with ⟨between, hsecond, hrest⟩ | ⟨extra, hfirst, hlast⟩
  · exact ⟨between, hsecond, hrest⟩
  · cases extra with
    -- Nothing is left of the first part, and the two cuts are the same.
    | nil => exact ⟨[], by simpa using hfirst.symm, by simpa using hlast.symm⟩
    | cons c extra =>
      have hpos : 0 < byteLength (c :: extra) := byteLength_pos List.mem_cons_self
      rw [hfirst, byteLength_append] at le
      omega

/-- A span that can be replaced is that of a part of the text. -/
theorem Admits.pieces (h : text.Admits span) :
    ∃ first middle rest, text = first ++ middle ++ rest ∧
      span = ⟨byteLength first, byteLength (first ++ middle)⟩ := by
  obtain ⟨first, middle, rest, htext, hfirst, hmiddle⟩ := h.parts
  have hordered := h.ordered
  have hstop : span.stop = byteLength (first ++ middle) := by
    rw [byteLength_append]
    omega
  exact ⟨first, middle, rest, htext, by rw [hfirst, ← hstop]⟩

/-- An admitted span can be spliced out. -/
theorem Admits.splice (h : text.Admits span) (new : Text) :
    ∃ next, text.splice? span.start span.stop new = some next := by
  obtain ⟨before, middle, after, rfl, hbefore, hmiddle⟩ := h.parts
  have hordered := h.ordered
  unfold splice?
  rw [List.append_assoc, ← hbefore, cut?_append]
  have hcut : cut? (middle ++ after) (span.stop - byteLength before) = some (middle, after) := by
    rw [hbefore, ← hmiddle, cut?_append]
  refine ⟨before ++ new ++ after, ?_⟩
  simp only [hbefore, Nat.not_lt.2 hordered, if_false, bind, Option.bind, pure]
  rw [← hbefore, hcut]

/-! ## Bytes -/

/-- The bytes of a text are those of its characters. -/
theorem toList_bytes (text : Text) : text.bytes.toList = text.flatMap String.utf8EncodeChar := rfl

/-- The bytes of two texts in a row are in a row too. -/
theorem toList_bytes_append (before after : Text) :
    (before ++ after).bytes.toList = before.bytes.toList ++ after.bytes.toList :=
  List.flatMap_append

/-- The byte length of a text is the number of its bytes. -/
theorem length_bytes (text : Text) : text.bytes.toList.length = text.byteLength := by
  rw [toList_bytes]
  induction text with
  | nil => rfl
  | cons c rest ih =>
    rw [List.flatMap_cons, List.length_append, String.length_utf8EncodeChar, ih, byteLength_cons]

/-- A byte of seven bits stands for a character of its own. -/
theorem utf8EncodeChar_of_mem {b : UInt8} {c : Char} (h : b ∈ String.utf8EncodeChar c)
    (ascii : b.toNat < 128) : c.utf8Size = 1 ∧ b = c.val.toUInt8 := by
  have hbyte : ∀ n : Nat, b = UInt8.ofNat n → n % 256 < 128 := by
    rintro n rfl
    simpa using ascii
  -- The first byte of a longer character has its high bit set, and so have the others.
  have hval : c.val.toNat ≤ 127 := by
    unfold String.utf8EncodeChar at h
    grind
  have hsize : c.utf8Size = 1 := Char.utf8Size_eq_one_iff.2 (UInt32.le_iff_toNat_le.2 hval)
  rw [String.utf8EncodeChar_eq_singleton hsize] at h
  exact ⟨hsize, List.mem_singleton.1 h⟩

/-- A character of a single byte is known by that byte. -/
theorem eq_iff_byte {b : UInt8} {c d : Char} (h : b ∈ String.utf8EncodeChar c) (single : d.utf8Size = 1) :
    b = d.val.toUInt8 ↔ c = d := by
  have hd : d.val.toNat ≤ 127 := UInt32.le_iff_toNat_le.1 (Char.utf8Size_eq_one_iff.1 single)
  have hbyte : d.val.toUInt8.toNat = d.val.toNat := by
    rw [UInt32.toNat_toUInt8]
    omega
  constructor
  -- The byte has seven bits, so the character has no other.
  · rintro rfl
    obtain ⟨hsize, hsame⟩ := utf8EncodeChar_of_mem h (by omega)
    have hc : c.val.toNat ≤ 127 := UInt32.le_iff_toNat_le.1 (Char.utf8Size_eq_one_iff.1 hsize)
    have hvals := congrArg UInt8.toNat hsame
    rw [hbyte, UInt32.toNat_toUInt8] at hvals
    apply Char.ext
    apply UInt32.toNat_inj.1
    omega
  · rintro rfl
    rw [String.utf8EncodeChar_eq_singleton single] at h
    exact List.mem_singleton.1 h

/-- A text is known by its bytes. -/
theorem eq_of_bytes {text other : Text} (h : text.bytes.toList = other.bytes.toList) :
    text = other := by
  -- Decoding takes the bytes back to the text.
  have hencoded : text.utf8Encode = other.utf8Encode := congrArg List.toByteArray h
  have hdecoded := congrArg ByteArray.utf8Decode? hencoded
  rw [List.utf8Decode?_utf8Encode, List.utf8Decode?_utf8Encode] at hdecoded
  simpa using hdecoded

end Text

/-- Bytes with those from `start` to `stop` replaced. -/
def replaceBytes (bytes : List UInt8) (start stop : Nat) (new : Text) : List UInt8 :=
  bytes.take start ++ new.bytes.toList ++ bytes.drop stop

/-- What an edit makes of the bytes of a text. -/
def Edit.onBytes (bytes : List UInt8) (edit : Edit) : List UInt8 :=
  replaceBytes bytes edit.span.start edit.span.stop edit.text

/-- What a change makes of the bytes of a text: so many of them, from its offset on, are replaced. -/
def Change.onBytes (bytes : List UInt8) (change : Change) : List UInt8 :=
  replaceBytes bytes change.offset (change.offset + change.length) change.text

namespace Text

/-- A splice replaces bytes. -/
theorem bytes_of_splice? {text next new : Text} {start stop : Nat}
    (h : text.splice? start stop new = some next) :
    next.bytes.toList = replaceBytes text.bytes.toList start stop new := by
  obtain ⟨hordered, before, middle, after, rfl, hbefore, hmiddle, rfl⟩ := splice?_eq_some h
  have htake : (before ++ middle ++ after).bytes.toList.take start = before.bytes.toList := by
    rw [List.append_assoc, toList_bytes_append]
    exact List.take_left' (by rw [length_bytes, hbefore])
  have hdrop : (before ++ middle ++ after).bytes.toList.drop stop = after.bytes.toList := by
    rw [toList_bytes_append]
    refine List.drop_left' ?_
    rw [length_bytes, byteLength_append]
    omega
  unfold replaceBytes
  rw [htake, hdrop, toList_bytes_append, toList_bytes_append]

/-! ## One edit -/

variable {text next : Text} {edit : Edit} {change : Change}

/-- An edit is applied if its span is admitted, and what comes out has the bytes that it should. -/
theorem applyEdit_eq_ok_iff :
    text.applyEdit edit = .ok (next, change) ↔
      text.Admits edit.span ∧ next.bytes.toList = edit.onBytes text.bytes.toList ∧
        change = .ofSpan text edit.span edit.text := by
  constructor
  · intro h
    -- The check was passed, or there would be no answer.
    obtain ⟨hsplice, hchange⟩ := applyEdit_eq_ok h
    refine ⟨?_, bytes_of_splice? hsplice, hchange⟩
    unfold applyEdit at h
    cases hcheck : text.checkSpan edit.span with
    | error error => rw [hcheck] at h; exact nomatch h
    | ok => exact checkSpan_eq_ok_iff.1 hcheck
  · rintro ⟨admits, hbytes, rfl⟩
    obtain ⟨spliced, hsplice⟩ := admits.splice edit.text
    -- The splice is determined by its bytes, so it is the text that is meant.
    obtain rfl : next = spliced := eq_of_bytes (hbytes.trans (bytes_of_splice? hsplice).symm)
    unfold applyEdit
    rw [checkSpan_eq_ok_iff.2 admits]
    simp only [hsplice]
    rfl

/-- An edit is refused for what is wrong with its span. -/
theorem applyEdit_eq_error_iff {error : EditError} :
    text.applyEdit edit = .error error ↔ text.Fault edit.span error := by
  rw [← checkSpan_eq_error_iff]
  unfold applyEdit
  cases hcheck : text.checkSpan edit.span with
  | error found => simp only [bind, Except.bind, Except.error.injEq]
  | ok =>
    -- After the check there is nothing left to go wrong.
    obtain ⟨spliced, hsplice⟩ := (checkSpan_eq_ok_iff.1 hcheck).splice edit.text
    simp only [hsplice, bind, Except.bind, pure, Except.pure, reduceCtorEq]

/-! ## Several edits -/

/-- Edits that are all admitted, each by the text that the ones before it have led to, and the text
    that they lead to.  The texts on the way are given by their bytes. -/
inductive Takes : Text → List Edit → Text → Prop where
  | nil {text : Text} : Takes text [] text
  | cons {text next last : Text} {edit : Edit} {rest : List Edit} (admits : text.Admits edit.span)
      (bytes : next.bytes.toList = edit.onBytes text.bytes.toList)
      (others : Takes next rest last) : Takes text (edit :: rest) last

/-- One of several edits is the first that is not admitted, and this is wrong with it. -/
def Refuses (text : Text) (edits : List Edit) (error : EditError) : Prop :=
  ∃ before edit after reached, edits = before ++ edit :: after ∧ text.Takes before reached ∧
    reached.Fault edit.span error

variable {last : Text} {rest edits : List Edit} {changes : List Change} {error : EditError}

/-- Where admitted edits lead is told by the bytes alone. -/
theorem Takes.bytes_eq (h : text.Takes edits last) :
    last.bytes.toList = edits.foldl Edit.onBytes text.bytes.toList := by
  induction h with
  | nil => rfl
  | cons admits bytes others ih => rw [List.foldl_cons, ← bytes, ih]

/-- When the first edit is admitted, the others are applied to what it leads to. -/
theorem applyEdits_cons_of_ok (h : text.applyEdit edit = .ok (next, change)) :
    text.applyEdits (edit :: rest) =
      (next.applyEdits rest).map fun others => (others.1, change :: others.2) := by
  rw [applyEdits, h]
  cases hrest : next.applyEdits rest with
  | error error => simp only [bind, Except.bind, hrest, Except.map]
  | ok others => simp only [bind, Except.bind, hrest, Except.map, pure, Except.pure]

/-- When the first edit is refused, so are all. -/
theorem applyEdits_cons_of_error (h : text.applyEdit edit = .error error) :
    text.applyEdits (edit :: rest) = .error error := by
  rw [applyEdits, h]
  rfl

/-- Edits are applied if all of them are admitted, and lead where they should. -/
theorem exists_applyEdits_iff :
    (∃ changes, text.applyEdits edits = .ok (last, changes)) ↔ text.Takes edits last := by
  constructor
  · rintro ⟨changes, h⟩
    -- By induction on the edits, over all texts: the first is admitted, the others are by the
    -- hypothesis.
    induction edits generalizing text changes with
    | nil =>
      obtain ⟨rfl, -⟩ := Prod.mk.inj (Except.ok.inj h)
      exact .nil
    | cons edit rest ih =>
      obtain ⟨next, change, others, hfirst, hrest, -⟩ := exists_applyEdit_of_cons h
      obtain ⟨admits, bytes, -⟩ := applyEdit_eq_ok_iff.1 hfirst
      exact .cons admits bytes (ih others hrest)
  · intro h
    -- By induction on how the edits are taken, which names the text at every stage.
    induction h with
    | nil => exact ⟨[], rfl⟩
    | cons admits bytes others ih =>
      obtain ⟨changes, hrest⟩ := ih
      rw [applyEdits_cons_of_ok (applyEdit_eq_ok_iff.2 ⟨admits, bytes, rfl⟩), hrest]
      exact ⟨_, rfl⟩

/-- Edits are refused for what is wrong with the first of them that is not admitted. -/
theorem applyEdits_eq_error_iff : text.applyEdits edits = .error error ↔ text.Refuses edits error := by
  constructor
  · intro h
    -- By induction on the edits, over all texts.
    induction edits generalizing text with
    | nil => exact nomatch h
    | cons edit rest ih =>
      cases hfirst : text.applyEdit edit with
      | error found =>
        rw [applyEdits_cons_of_error hfirst] at h
        obtain rfl := Except.error.inj h
        -- The first edit is the faulty one.
        exact ⟨[], edit, rest, text, rfl, .nil, applyEdit_eq_error_iff.1 hfirst⟩
      | ok edited =>
        rw [applyEdits_cons_of_ok hfirst] at h
        cases hrest : edited.1.applyEdits rest with
        | ok others => rw [hrest] at h; exact nomatch h
        | error found =>
          rw [hrest] at h
          obtain rfl := Except.error.inj h
          obtain ⟨before, faulty, after, reached, rfl, takes, fault⟩ := ih hrest
          obtain ⟨admits, bytes, -⟩ := applyEdit_eq_ok_iff.1 hfirst
          -- The faulty edit is one of the others, and the first is taken before it.
          exact ⟨edit :: before, faulty, after, reached, rfl, .cons admits bytes takes, fault⟩
  · rintro ⟨before, faulty, after, reached, rfl, takes, fault⟩
    induction takes with
    | nil => exact applyEdits_cons_of_error (applyEdit_eq_error_iff.2 fault)
    | cons admits bytes others ih =>
      rw [List.cons_append,
        applyEdits_cons_of_ok (applyEdit_eq_ok_iff.2 ⟨admits, bytes, rfl⟩), ih fault]
      rfl

end Text

/-! ## Their changes -/

/-- The edit that a change stands for. -/
def Change.toEdit (change : Change) : Edit :=
  ⟨⟨change.offset, change.offset + change.length⟩, change.text⟩

/-- The change of an edit stands for that edit. -/
theorem Change.toEdit_ofSpan {span : Span} (ordered : span.start ≤ span.stop) (text new : Text) :
    (Change.ofSpan text span new).toEdit = ⟨span, new⟩ := by
  have hstop : span.start + (span.stop - span.start) = span.stop := by omega
  show Edit.mk ⟨span.start, span.start + (span.stop - span.start)⟩ new = _
  rw [hstop]

/-- Changes act on bytes as the edits do that they stand for. -/
theorem Change.foldl_onBytes (changes : List Change) (bytes : List UInt8) :
    changes.foldl Change.onBytes bytes = (changes.map Change.toEdit).foldl Edit.onBytes bytes := by
  rw [List.foldl_map]
  rfl

namespace Text

variable {text last : Text} {edits : List Edit} {changes : List Change}

/-- The changes of edits stand for these edits. -/
theorem map_toEdit_of_applyEdits (h : text.applyEdits edits = .ok (last, changes)) :
    changes.map Change.toEdit = edits := by
  -- By induction on the edits, as they are applied one by one.
  induction edits generalizing text changes with
  | nil =>
    obtain ⟨-, rfl⟩ := Prod.mk.inj (Except.ok.inj h)
    rfl
  | cons edit rest ih =>
    obtain ⟨next, others, hsplice, hrest, rfl⟩ := applyEdits_cons_eq_ok h
    rw [List.map_cons, Change.toEdit_ofSpan (splice?_eq_some hsplice).1, ih hrest]

end Text

/-! ## Documents -/

namespace Document

variable {doc : Document} {last : Text} {edits : List Edit} {changes : List Change}

/-- Edits that are applied make the next version of a document. -/
theorem applyEdits_of_ok (h : doc.text.applyEdits edits = .ok (last, changes)) :
    doc.applyEdits edits = .ok ({ doc with version := doc.version + 1, text := last }, changes) := by
  unfold applyEdits
  rw [h]
  rfl

/-- Edits that are refused make no version of it. -/
theorem applyEdits_of_error {error : EditError} (h : doc.text.applyEdits edits = .error error) :
    doc.applyEdits edits = .error error := by
  unfold applyEdits
  rw [h]
  rfl

/-- A new text is an edit of all there is. -/
theorem applyEdits_all (doc : Document) (text : Text) :
    doc.text.applyEdits [⟨⟨0, doc.text.byteLength⟩, text⟩] = .ok (text, [(doc.setText text).2]) := by
  have hadmits : doc.text.Admits ⟨0, doc.text.byteLength⟩ :=
    ⟨Nat.zero_le _, Nat.le_refl _, ⟨[], doc.text, rfl, rfl⟩, ⟨doc.text, [], by simp, rfl⟩⟩
  have hbytes := Text.bytes_of_splice? (doc.text.splice?_all text)
  have hedit : doc.text.applyEdit ⟨⟨0, doc.text.byteLength⟩, text⟩ =
      .ok (text, .ofSpan doc.text ⟨0, doc.text.byteLength⟩ text) :=
    Text.applyEdit_eq_ok_iff.2 ⟨hadmits, hbytes, rfl⟩
  rw [Text.applyEdits_cons_of_ok hedit]
  rfl

end Document

namespace Workspace

variable {w : Workspace} {id : DocumentId} {doc : Document} {edits : List Edit}

/-- The workspace puts the next version in the place of the document. -/
theorem editDocument_of_ok {last : Text} {changes : List Change}
    (found : w.documents[id]? = some doc)
    (h : doc.text.applyEdits edits = .ok (last, changes)) :
    w.editDocument id edits =
      ({ w with documents :=
          w.documents.set id { doc with version := doc.version + 1, text := last } },
        some (.ok changes)) := by
  unfold editDocument
  simp only [found, Document.applyEdits_of_ok h]

/-- The workspace is left as it was by edits that are refused. -/
theorem editDocument_of_error {error : EditError} (found : w.documents[id]? = some doc)
    (h : doc.text.applyEdits edits = .error error) :
    w.editDocument id edits = (w, some (.error error)) := by
  unfold editDocument
  simp only [found, Document.applyEdits_of_error h]

/-- A list of edits is applied to a document exactly if each of them is admitted by the text that the
    ones before it have led to.  Then the bytes of the text are replaced from edit to edit, the version
    grows by one, and the changes say the same as the edits.  Otherwise the first edit that is not
    admitted decides the error, and nothing has changed.  A new text for the whole document is such an
    edit. -/
theorem edits_all_or_none (w : Workspace) {id : DocumentId} {doc : Document}
    (found : w.documents[id]? = some doc) (edits : List Edit) (text : Text) :
    ((∃ changes, (w.editDocument id edits).2 = some (.ok changes)) ↔
      ∃ last, doc.text.Takes edits last) ∧
    (∀ last, doc.text.Takes edits last → ∃ changes,
      w.editDocument id edits =
        ({ w with documents :=
            w.documents.set id { doc with version := doc.version + 1, text := last } },
          some (.ok changes)) ∧
      last.bytes.toList = edits.foldl Edit.onBytes doc.text.bytes.toList ∧
      last.bytes.toList = changes.foldl Change.onBytes doc.text.bytes.toList ∧
      Change.replayAll? changes doc.text = some last ∧ changes.map Change.toEdit = edits) ∧
    (∀ error, (w.editDocument id edits).2 = some (.error error) ↔ doc.text.Refuses edits error) ∧
    (∀ error, (w.editDocument id edits).2 = some (.error error) →
      (w.editDocument id edits).1 = w) ∧
    ∃ later change,
      later.documents[id]? = some { doc with version := doc.version + 1, text := text } ∧
      w.setText id text = (later, some change) ∧
      w.editDocument id [⟨⟨0, doc.text.byteLength⟩, text⟩] = (later, some (.ok [change])) := by
  refine ⟨?_, ?_, ?_, ?_, ?_⟩
  · constructor
    -- The text of the document answers for the workspace.
    · rintro ⟨changes, hanswer⟩
      cases h : doc.text.applyEdits edits with
      | error error => rw [editDocument_of_error found h] at hanswer; exact nomatch hanswer
      | ok edited => exact ⟨edited.1, Text.exists_applyEdits_iff.1 ⟨edited.2, h⟩⟩
    · rintro ⟨last, takes⟩
      obtain ⟨changes, h⟩ := Text.exists_applyEdits_iff.2 takes
      exact ⟨changes, by rw [editDocument_of_ok found h]⟩
  · intro last takes
    obtain ⟨changes, h⟩ := Text.exists_applyEdits_iff.2 takes
    -- The changes that are answered stand for the edits, so they act on bytes in the same way.
    have hsame := Text.map_toEdit_of_applyEdits h
    refine ⟨changes, editDocument_of_ok found h, takes.bytes_eq, ?_, Text.applyEdits_replay h, hsame⟩
    rw [Change.foldl_onBytes, hsame]
    exact takes.bytes_eq
  · intro error
    -- The answer is an error exactly if the edits are refused with it.
    rw [← Text.applyEdits_eq_error_iff]
    constructor
    · intro hanswer
      cases h : doc.text.applyEdits edits with
      | error told =>
        rw [editDocument_of_error found h] at hanswer
        exact congrArg _ (Except.error.inj (Option.some.inj hanswer))
      | ok edited => rw [editDocument_of_ok found h] at hanswer; exact nomatch hanswer
    · intro h
      rw [editDocument_of_error found h]
  · intro error hanswer
    cases h : doc.text.applyEdits edits with
    | error told => rw [editDocument_of_error found h]
    | ok edited => rw [editDocument_of_ok found h] at hanswer; exact nomatch hanswer
  -- A new text is the one edit of all there is, and that is always admitted.
  · have hlt : id < w.documents.length := (List.getElem?_eq_some_iff.1 found).1
    refine ⟨{ w with documents := w.documents.set id (doc.setText text).1 }, (doc.setText text).2,
      List.getElem?_set_self hlt, ?_, editDocument_of_ok found (doc.applyEdits_all text)⟩
    unfold setText
    rw [found]

/-- A document of six bytes in five characters. -/
def accentedWorkspace : Workspace :=
  ((create {} "/home" {} false).createDocument "file:///a.txt" "text" ['h', 'é', 'l', 'l', 'o']).1

/-- Two edits of which the second would cut a character in two: neither of them is applied. -/
theorem edits_all_or_none_accented :
    accentedWorkspace.documents[0]? = some ⟨"file:///a.txt", "text", 0, ['h', 'é', 'l', 'l', 'o']⟩ ∧
      (accentedWorkspace.editDocument 0 [⟨⟨0, 1⟩, ['H']⟩, .delete ⟨2, 3⟩]).2 =
        some (.error (.notCharBoundary 2)) ∧
      Text.Refuses ['h', 'é', 'l', 'l', 'o'] [⟨⟨0, 1⟩, ['H']⟩, .delete ⟨2, 3⟩] (.notCharBoundary 2) ∧
      (accentedWorkspace.editDocument 0 [⟨⟨0, 1⟩, ['H']⟩, .delete ⟨2, 3⟩]).1 = accentedWorkspace := by
  obtain ⟨-, -, hrefuses, hsame, -⟩ :=
    @edits_all_or_none accentedWorkspace 0 _ rfl [⟨⟨0, 1⟩, ['H']⟩, .delete ⟨2, 3⟩] []
  have herror : (accentedWorkspace.editDocument 0 [⟨⟨0, 1⟩, ['H']⟩, .delete ⟨2, 3⟩]).2 =
      some (.error (.notCharBoundary 2)) := rfl
  exact ⟨rfl, herror, (hrefuses _).1 herror, hsame _ herror⟩

end Workspace

end LiveTree
