import LiveTree.Proofs.Swaps
import LiveTree.Text.Pieces

/-!
# A text is cut up without loss

A text is cut by its characters: each piece takes characters until it has enough bytes.  The same can
be said of byte offsets.  A piece that starts at some offset ends at the first character boundary that
is far enough behind it, or at the end of the text, and there the next one starts.  All pieces but the
last have enough bytes, so there are not more of them than asked for.

## Key results

- `IsPiece`: what a piece takes of a text, and `piecesOfSize_cons`: how it goes on from there
- `cutFrom_piecesOfSize`: the cuts in byte offsets
- `cutInto_pieces`: nothing is lost, no piece is empty, and there are at most as many as asked for
-/

namespace LiveTree.Text

variable {text piece rest : Text} {size : Nat}

/-- Only the empty text has no bytes. -/
theorem byteLength_pos_of_ne_nil (h : text ≠ []) : 0 < text.byteLength := by
  obtain ⟨c, hc⟩ := List.exists_mem_of_ne_nil text h
  exact byteLength_pos hc

/-- A piece of at least `size` bytes is taken from the start of a text, or all that there is; no shorter
    piece would do. -/
structure IsPiece (size : Nat) (text piece rest : Text) : Prop where
  whole : text = piece ++ rest
  enough : rest ≠ [] → size ≤ piece.byteLength
  least : ∀ before after, piece = before ++ after → after ≠ [] → before.byteLength < size

/-- A character that is taken leaves less to take. -/
theorem IsPiece.cons {c : Char} (h : IsPiece (size - c.utf8Size) text piece rest)
    (hpos : 0 < size) : IsPiece size (c :: text) (c :: piece) rest where
  whole := by rw [h.whole, List.cons_append]
  enough hrest := by
    have henough := h.enough hrest
    rw [byteLength_cons]
    omega
  -- What is cut off in front either is empty, or starts with the character that was taken.
  least before after hcut hafter := by
    cases before with
    | nil => exact hpos
    | cons d before =>
      rw [List.cons_append] at hcut
      obtain ⟨rfl, htail⟩ := List.cons.inj hcut
      have hleast := h.least before after htail hafter
      rw [byteLength_cons]
      omega

/-- The recursion takes a piece from the start of a text, behind what it had passed before. -/
theorem exists_takeFrom (passed : List Char) (text : Text) (size : Nat) :
    ∃ piece, (takeFrom passed text size).1 = passed.reverse ++ piece ∧
      IsPiece size text piece (takeFrom passed text size).2 := by
  -- The three cases of the recursion: enough has been taken, there is nothing left, or a character
  -- is taken.
  fun_induction takeFrom passed text size with
  | case1 passed text =>
    refine ⟨[], by simp, rfl, fun _ => Nat.le_refl 0, fun before after hcut hafter => ?_⟩
    exact absurd (List.append_eq_nil_iff.1 hcut.symm).2 hafter
  | case2 passed n =>
    refine ⟨[], by simp, rfl, fun hrest => absurd rfl hrest, fun before after hcut hafter => ?_⟩
    exact absurd (List.append_eq_nil_iff.1 hcut.symm).2 hafter
  | case3 passed c text n ih =>
    obtain ⟨piece, htaken, hpiece⟩ := ih
    exact ⟨c :: piece, by rw [htaken]; simp, hpiece.cons (Nat.succ_pos n)⟩

/-- The first piece of a text is taken from its start, and the others are those of the rest. -/
theorem piecesOfSize_cons (hpos : 0 < size) (c : Char) (text : Text) :
    ∃ piece rest, piecesOfSize size (c :: text) = piece :: piecesOfSize size rest ∧ piece ≠ [] ∧
      rest = (takeFrom [c] text (size - c.utf8Size)).2 ∧ IsPiece size (c :: text) piece rest := by
  obtain ⟨piece, htaken, hpiece⟩ := exists_takeFrom [c] text (size - c.utf8Size)
  refine ⟨c :: piece, (takeFrom [c] text (size - c.utf8Size)).2, ?_, by simp, rfl,
    hpiece.cons hpos⟩
  rw [piecesOfSize, htaken]
  rfl

/-- Facts about pieces follow from what a piece takes of a text. -/
theorem piecesOfSize_induction (hpos : 0 < size) {motive : Text → List Text → Prop}
    (nil : motive [] [])
    (cons : ∀ text piece rest, IsPiece size text piece rest → piece ≠ [] →
      motive rest (piecesOfSize size rest) → motive text (piece :: piecesOfSize size rest))
    (text : Text) : motive text (piecesOfSize size text) := by
  induction text using piecesOfSize.induct size with
  | case1 =>
    rw [piecesOfSize]
    exact nil
  | case2 c text parts ih =>
    obtain ⟨piece, rest, hpieces, hne, rfl, hpiece⟩ := piecesOfSize_cons hpos c text
    rw [hpieces]
    exact cons _ piece _ hpiece hne ih

/-- The pieces of a text make up the text. -/
theorem flatten_piecesOfSize (hpos : 0 < size) (text : Text) :
    (piecesOfSize size text).flatten = text := by
  refine piecesOfSize_induction (motive := fun text pieces => pieces.flatten = text) hpos rfl ?_ text
  intro text piece rest hpiece _ ih
  rw [List.flatten_cons, ih, hpiece.whole]

/-- No piece of a text is empty. -/
theorem ne_nil_of_mem_piecesOfSize (hpos : 0 < size) (text : Text) :
    ∀ piece ∈ piecesOfSize size text, piece ≠ [] := by
  refine piecesOfSize_induction (motive := fun _ pieces => ∀ piece ∈ pieces, piece ≠ []) hpos
    (by simp) ?_ text
  intro text piece rest _ hne ih
  exact List.forall_mem_cons.2 ⟨hne, ih⟩

/-- Only the last piece may have less than `size` bytes, and it has some. -/
theorem mul_length_piecesOfSize_le (hpos : 0 < size) (text : Text) :
    size * (piecesOfSize size text).length ≤ text.byteLength + (size - 1) := by
  refine piecesOfSize_induction
    (motive := fun text pieces => size * pieces.length ≤ text.byteLength + (size - 1)) hpos
    (by simp) ?_ text
  intro text piece rest hpiece hne ih
  have hsome := byteLength_pos_of_ne_nil hne
  rw [hpiece.whole, byteLength_append, List.length_cons, Nat.mul_succ]
  -- Either this is the last piece, or it is as long as it should be.
  cases rest with
  | nil =>
    rw [piecesOfSize, List.length_nil, byteLength_nil]
    omega
  | cons c rest =>
    have henough := hpiece.enough (List.cons_ne_nil c rest)
    omega

/-! ## Byte offsets -/

/-- From an offset on, a text is cut at the first character boundary that is `size` bytes or more
    behind the last cut, and finally at its end. -/
inductive CutFrom (text : Text) (size : Nat) : Nat → List Text → Prop where
  | done : CutFrom text size text.byteLength []
  | cut {start stop : Nat} {piece : Text} {pieces : List Text} (inside : start < text.byteLength)
      (far : min (start + size) text.byteLength ≤ stop) (boundary : text.Boundary stop)
      (first : ∀ earlier, min (start + size) text.byteLength ≤ earlier → earlier < stop →
        ¬ text.Boundary earlier)
      (slice : text.slice ⟨start, stop⟩ = .ok piece) (next : CutFrom text size stop pieces) :
      CutFrom text size start (piece :: pieces)

/-- Inside a piece there is no boundary at which it could have ended. -/
theorem IsPiece.not_boundary {before : Text} (h : IsPiece size text piece rest) {offset : Nat}
    (far : before.byteLength + size ≤ offset) (inside : offset < (before ++ piece).byteLength) :
    ¬ (before ++ text).Boundary offset := by
  rintro ⟨first, last, hcut, rfl⟩
  -- A boundary inside the piece would cut it in two, the first part of which is too short.
  obtain ⟨part, rfl, hrest⟩ := exists_between hcut (by omega)
  rw [h.whole] at hrest
  rw [byteLength_append] at far inside
  obtain ⟨after, rfl, -⟩ := exists_between hrest.symm (by rw [byteLength_append] at inside; omega)
  have hafter : after ≠ [] := by
    rintro rfl
    simp at inside
  have hleast := h.least part after rfl hafter
  omega

/-- The pieces of a text are those between the cuts. -/
theorem cutFrom_piecesOfSize (hpos : 0 < size) (before text : Text) :
    (before ++ text).CutFrom size before.byteLength (piecesOfSize size text) := by
  -- The text before is free in the induction: behind a piece it has become longer by the piece.
  revert before
  refine piecesOfSize_induction
    (motive := fun text pieces =>
      ∀ before : Text, (before ++ text).CutFrom size before.byteLength pieces)
    hpos ?_ ?_ text
  · intro before
    rw [List.append_nil]
    exact .done
  · intro text piece rest hpiece hne ih before
    have hwhole : before ++ text = before ++ piece ++ rest := by rw [hpiece.whole, List.append_assoc]
    have hsome := byteLength_pos_of_ne_nil hne
    have hlength := congrArg byteLength hwhole
    simp only [byteLength_append] at hlength
    have hnext := ih (before ++ piece)
    rw [← hwhole] at hnext
    refine .cut ?_ ?_ ⟨before ++ piece, rest, hwhole, rfl⟩ ?_ ?_ hnext
    · rw [byteLength_append]
      omega
    · simp only [byteLength_append]
      cases rest with
      | nil =>
        rw [byteLength_nil] at hlength
        omega
      | cons c rest =>
        have henough := hpiece.enough (List.cons_ne_nil c rest)
        omega
    · intro earlier far inside
      refine hpiece.not_boundary ?_ inside
      simp only [byteLength_append] at far inside
      omega
    · rw [hwhole]
      exact slice_append before piece rest

/-! ## At most so many pieces -/

/-- A text is cut into pieces: together they are the text, there are at most `most` of them, none is
    empty, and each is the part of the text that starts where the ones before it end. -/
structure CutInto (text : Text) (most : Nat) (pieces : List Text) : Prop where
  whole : pieces.flatten = text
  few : pieces.length ≤ most
  nonempty : ∀ piece ∈ pieces, piece ≠ []
  slices : ∀ i piece, pieces[i]? = some piece →
    text.slice ⟨byteLength (pieces.take i).flatten, byteLength (pieces.take (i + 1)).flatten⟩ =
      .ok piece

/-- Pieces that are not empty are not more than the bytes in them. -/
theorem length_le_byteLength_flatten {pieces : List Text}
    (nonempty : ∀ piece ∈ pieces, piece ≠ []) : pieces.length ≤ byteLength pieces.flatten := by
  -- By induction on the pieces: each one has at least one byte.
  induction pieces with
  | nil => exact Nat.le_refl 0
  | cons piece rest ih =>
    have hsome := byteLength_pos_of_ne_nil (nonempty piece List.mem_cons_self)
    have hrest := ih fun other among => nonempty other (List.mem_cons_of_mem _ among)
    rw [List.length_cons, List.flatten_cons, byteLength_append]
    omega

/-- A piece is what stands between the ends of the pieces before it and those up to it. -/
theorem slice_flatten {pieces : List Text} {i : Nat} (found : pieces[i]? = some piece) :
    slice pieces.flatten
        ⟨byteLength (pieces.take i).flatten, byteLength (pieces.take (i + 1)).flatten⟩ =
      .ok piece := by
  obtain ⟨hlt, rfl⟩ := List.getElem?_eq_some_iff.1 found
  have hnext : (pieces.take (i + 1)).flatten = (pieces.take i).flatten ++ pieces[i] := by
    rw [List.take_succ_eq_append_getElem hlt, List.flatten_append, List.flatten_singleton]
  have hwhole : pieces.flatten =
      (pieces.take i).flatten ++ pieces[i] ++ (pieces.drop (i + 1)).flatten := by
    rw [← hnext, ← List.flatten_append, List.take_append_drop]
  rw [hnext, hwhole]
  exact slice_append _ _ _

/-- The number of bytes that every piece but the last is to have. -/
def pieceBytes (text : Text) (most : Nat) : Nat := max ((text.byteLength + most - 1) / most) 1

/-- So many pieces of that size are enough for the text. -/
theorem byteLength_le_mul_pieceBytes {most : Nat} (hpos : 0 < most) (text : Text) :
    text.byteLength ≤ most * text.pieceBytes most := by
  have hdiv := Nat.div_add_mod (text.byteLength + most - 1) most
  have hmod := Nat.mod_lt (text.byteLength + most - 1) hpos
  have hmax : most * ((text.byteLength + most - 1) / most) ≤ most * text.pieceBytes most :=
    Nat.mul_le_mul_left most (Nat.le_max_left _ _)
  omega

/-- Pieces are as many as asked for, or fewer. -/
theorem length_pieces_le {most : Nat} (hpos : 0 < most) (text : Text) :
    (text.pieces most).length ≤ most := by
  have hsize : 0 < text.pieceBytes most := Nat.le_max_right _ 1
  have hcount : text.pieceBytes most * (text.pieces most).length ≤
      text.byteLength + (text.pieceBytes most - 1) := mul_length_piecesOfSize_le hsize text
  have hbytes := text.byteLength_le_mul_pieceBytes hpos
  have hlt : text.pieceBytes most * (text.pieces most).length < text.pieceBytes most * (most + 1) := by
    rw [Nat.mul_succ, Nat.mul_comm _ most]
    omega
  exact Nat.le_of_lt_succ (Nat.lt_of_mul_lt_mul_left hlt)

/-- Cutting a text up loses nothing. -/
theorem cutInto_pieces {most : Nat} (hpos : 0 < most) (text : Text) :
    text.CutInto most (text.pieces most) where
  whole := flatten_piecesOfSize (Nat.le_max_right _ 1) text
  few := text.length_pieces_le hpos
  nonempty := ne_nil_of_mem_piecesOfSize (Nat.le_max_right _ 1) text
  slices i piece found := by
    have hslice := slice_flatten found
    rwa [show (text.pieces most).flatten = text from
      flatten_piecesOfSize (Nat.le_max_right _ 1) text] at hslice

/-- And the cuts are where they should be, from the start of the text on. -/
theorem cutFrom_pieces (text : Text) (most : Nat) :
    text.CutFrom (text.pieceBytes most) 0 (text.pieces most) :=
  cutFrom_piecesOfSize (Nat.le_max_right _ 1) [] text

end LiveTree.Text
