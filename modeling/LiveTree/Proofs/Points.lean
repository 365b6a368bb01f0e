import LiveTree.Proofs.Edits

/-!
# Points of a text, counted in two ways

A text has lines of its own, which end at any of its line breaks, and `Text.pointAt` counts those.
Syntax trees know of line feeds only: `Text.treePoint` says on the bytes of a text what point an offset
has for them, and `Point.advance` moves a point over a text in their way.

Both counts go through a text character by character.  They part where a line ends without a line
feed, and from there on they never meet again, as the rows are then too many for good.

## Key results

- `Point.advance_append`: a text can be written in parts
- `Text.treePoint_append`: the trees' point of an offset is reached by writing what is before it
- `Text.pointAt_append`: the text's own point of an offset, character by character
- `Text.pointAt_eq_treePoint_iff`: both are the same if and only if no line has ended without a line
  feed
-/

namespace LiveTree

namespace Point

/-! ## Writing a text in parts -/

/-- Nothing to write leads nowhere. -/
@[simp] theorem advance_nil (p : Point) : p.advance [] = p := by
  simp [advance]

/-- A line feed leads to the start of the next row. -/
theorem advance_feed (p : Point) : p.advance ['\n'] = ⟨p.row + 1, 0⟩ := by
  simp [advance]

/-- Any other character leads on by its bytes. -/
theorem advance_other (p : Point) {c : Char} (h : c ≠ '\n') :
    p.advance [c] = ⟨p.row, p.column + c.utf8Size⟩ := by
  simp [advance, h, Ne.symm h]

/-- A text that is written in two parts leads where it leads when written at once. -/
theorem advance_append (p : Point) (first second : Text) :
    p.advance (first ++ second) = (p.advance first).advance second := by
  have hrow : (p.advance (first ++ second)).row = ((p.advance first).advance second).row := by
    simp only [advance, List.count_append]
    omega
  have hcolumn :
      (p.advance (first ++ second)).column = ((p.advance first).advance second).column := by
    by_cases hsecond : '\n' ∈ second
    · -- The last line feed is in the second part, which decides the column alone.
      have hstops : ¬ (second.reverse.takeWhile (· ≠ '\n')).length = second.reverse.length := by
        intro hall
        have hself : second.reverse.takeWhile (· ≠ '\n') = second.reverse :=
          (List.takeWhile_prefix _).eq_of_length hall
        have hfeed : '\n' ∈ second.reverse.takeWhile (· ≠ '\n') := by
          rw [hself]
          exact List.mem_reverse.2 hsecond
        simpa using List.all_eq_true.1 List.all_takeWhile _ hfeed
      simp only [advance, List.mem_append, hsecond, or_true, if_true, List.reverse_append,
        List.takeWhile_append, hstops, if_false]
    -- There is none in the second part, so its bytes come on top of the column of the first.
    · have hall : ∀ c ∈ second.reverse, decide (c ≠ '\n') = true := by
        intro c hc
        exact decide_eq_true fun h => hsecond (h ▸ List.mem_reverse.1 hc)
      by_cases hfirst : '\n' ∈ first
      · simp only [advance, List.mem_append, hfirst, hsecond, or_false, if_true, if_false,
          List.reverse_append, List.takeWhile_append_of_pos hall, Text.byteLength_append,
          Text.byteLength_reverse]
        omega
      · simp only [advance, List.mem_append, hfirst, hsecond, or_false, if_false,
          Text.byteLength_append]
        omega
  -- Points are the same if their rows and columns are.
  cases hleft : p.advance (first ++ second)
  cases hright : (p.advance first).advance second
  simp_all

/-- A text can be written character by character. -/
theorem advance_cons (p : Point) (c : Char) (text : Text) :
    p.advance (c :: text) = (p.advance [c]).advance text :=
  p.advance_append [c] text

/-- Writing moves a point on, and stands still only if there is nothing to write: points come in the
    order of their offsets. -/
theorem compare_advance (p : Point) (text : Text) (offset : Nat) :
    p.compare (p.advance text) = Ord.compare offset (offset + text.byteLength) := by
  cases text with
  | nil => simp [compare]
  | cons c rest =>
    have hpos : 0 < Text.byteLength (c :: rest) := Text.byteLength_pos (List.mem_cons_self)
    have hoffset : Ord.compare offset (offset + Text.byteLength (c :: rest)) = .lt :=
      Nat.compare_eq_lt.2 (by omega)
    rw [hoffset]
    unfold compare
    -- A line feed moves the row on, and anything else the column.
    by_cases hfeed : '\n' ∈ c :: rest
    · have hcount : 0 < (c :: rest).count '\n' := List.count_pos_iff.2 hfeed
      have hrow : Ord.compare p.row (p.advance (c :: rest)).row = .lt := by
        apply Nat.compare_eq_lt.2
        simp only [advance]
        omega
      rw [hrow]
      rfl
    · have hrow : (p.advance (c :: rest)).row = p.row := by
        simp only [advance, List.count_eq_zero.2 hfeed, Nat.add_zero]
      have hcolumn : Ord.compare p.column (p.advance (c :: rest)).column = .lt := by
        apply Nat.compare_eq_lt.2
        simp only [advance, hfeed, if_false]
        omega
      rw [hrow, hcolumn, Nat.compare_eq_eq.2 rfl]
      rfl

end Point

namespace Text

/-! ## Points of syntax trees -/

/-- The point of an offset as syntax trees count: a row for each line feed before it, and a column for
    each byte after the last of them. -/
def treePoint (text : Text) (offset : Nat) : Point where
  row := (text.bytes.toList.take offset).count 10
  column := ((text.bytes.toList.take offset).reverse.takeWhile (· ≠ 10)).length

/-- In UTF-8 the byte of a line feed stands for nothing but a line feed. -/
theorem feed_mem_utf8EncodeChar {c : Char} : 10 ∈ String.utf8EncodeChar c ↔ c = '\n' := by
  constructor
  · intro h
    have hsingle : '\n'.utf8Size = 1 := rfl
    exact (eq_iff_byte h hsingle).1 rfl
  · rintro rfl
    decide

/-- Line feeds can be counted by their bytes. -/
theorem count_bytes (text : Text) : text.bytes.toList.count 10 = text.count '\n' := by
  rw [toList_bytes]
  induction text with
  | nil => rfl
  | cons c rest ih =>
    rw [List.flatMap_cons, List.count_append, ih]
    by_cases hc : c = '\n'
    · subst hc
      have hone : (String.utf8EncodeChar '\n').count 10 = 1 := by decide
      rw [hone, List.count_cons_self]
      omega
    -- Another character has no byte that counts.
    · rw [List.count_eq_zero.2 fun h => hc (feed_mem_utf8EncodeChar.1 h), List.count_cons_of_ne hc]
      omega

/-- The bytes of a text after its last line feed; the text is given from its end. -/
theorem length_takeWhile_bytes (reversed : List Char) :
    ((reversed.reverse.flatMap String.utf8EncodeChar).reverse.takeWhile (· ≠ 10)).length =
      byteLength (reversed.takeWhile (· ≠ '\n')) := by
  -- By induction on the text from its end: a line feed stops the count, any other character goes
  -- into it.
  induction reversed with
  | nil => rfl
  | cons c rest ih =>
    rw [List.reverse_cons, List.flatMap_append, List.reverse_append, List.flatMap_singleton]
    by_cases hc : c = '\n'
    · subst hc
      have hfeed : (String.utf8EncodeChar '\n').reverse = [10] := by decide
      simp [hfeed]
    · have hall : ∀ b ∈ (String.utf8EncodeChar c).reverse, decide (b ≠ 10) = true := by
        intro b hb
        apply decide_eq_true
        rintro rfl
        exact hc (feed_mem_utf8EncodeChar.1 (List.mem_reverse.1 hb))
      rw [List.takeWhile_append_of_pos hall, List.length_append, List.length_reverse, ih,
        String.length_utf8EncodeChar]
      simp [hc]

/-- The trees' point of an offset is reached by writing what is before it. -/
theorem treePoint_append (before after : Text) :
    treePoint (before ++ after) (byteLength before) = Point.advance ⟨0, 0⟩ before := by
  -- What is before the offset are the bytes of the part before.
  have htake : (before ++ after).bytes.toList.take (byteLength before) = before.bytes.toList := by
    rw [toList_bytes_append]
    exact List.take_left' (length_bytes before)
  have hcolumn := length_takeWhile_bytes before.reverse
  rw [List.reverse_reverse, ← toList_bytes] at hcolumn
  unfold treePoint Point.advance
  rw [htake, count_bytes, hcolumn, Nat.zero_add, Nat.zero_add]
  by_cases hfeed : '\n' ∈ before
  · rw [if_pos hfeed]
  · -- Without a line feed everything is on the first row.
    have hall : ∀ c ∈ before.reverse, decide (c ≠ '\n') = true := by
      intro c hc
      exact decide_eq_true fun h => hfeed (h ▸ List.mem_reverse.1 hc)
    have hself : (before.reverse ++ []).takeWhile (· ≠ '\n') = before.reverse ++ [] := by
      rw [List.takeWhile_append_of_pos hall, List.takeWhile_nil]
    rw [List.append_nil] at hself
    rw [if_neg hfeed, hself, byteLength_reverse]

/-! ## Points of lines -/

/-- Whether a line ends with a character, given what follows it: a carriage return leaves that to the
    line feed after it. -/
def endsLine (c : Char) (after : Text) : Bool :=
  breaksLine c && !(c == '\r' && after.head? == some '\n')

/-- A line feed ends its line, whatever follows. -/
theorem endsLine_feed (after : Text) : endsLine '\n' after = true := by
  simp [endsLine, breaksLine]

/-- Lines are found character by character. -/
theorem linesFrom_cons (line : List Char) (c : Char) (rest : Text) :
    linesFrom line (c :: rest) =
      if endsLine c rest then (c :: line).reverse :: linesFrom [] rest
      else linesFrom (c :: line) rest := by
  by_cases hpair : c = '\r' ∧ rest.head? = some '\n'
  · -- The line feed of a pair ends the line, with the carriage return before it.
    obtain ⟨rfl, hhead⟩ := hpair
    obtain ⟨more, rfl⟩ : ∃ more, rest = '\n' :: more := by
      cases rest with
      | nil => simp at hhead
      | cons d more => exact ⟨more, by simpa using hhead⟩
    have hstays : endsLine '\r' ('\n' :: more) = false := by simp [endsLine, breaksLine]
    have hfeed : breaksLine '\n' = true := by decide
    have hnext : linesFrom ('\r' :: line) ('\n' :: more) =
        ('\n' :: '\r' :: line).reverse :: linesFrom [] more := by
      rw [linesFrom.eq_def]
      simp [hfeed]
    rw [hstays, hnext, linesFrom]
    simp
  -- There is no pair, so the character decides alone.
  · have hends : endsLine c rest = breaksLine c := by
      unfold endsLine
      by_cases hc : c = '\r'
      · have hnext : ¬ rest.head? = some '\n' := fun h => hpair ⟨hc, h⟩
        simp [hnext]
      · simp [hc]
    rw [hends, linesFrom.eq_def]
    split
    · next heq => exact nomatch heq
    · next more heq =>
      obtain ⟨rfl, rfl⟩ := List.cons.inj heq
      exact absurd ⟨rfl, rfl⟩ hpair
    · next d more hno heq =>
      obtain ⟨rfl, rfl⟩ := List.cons.inj heq
      rfl

/-- The line that is being read comes first, and is longer if another one follows. -/
theorem exists_linesFrom (line : List Char) (text : Text) :
    ∃ first more, linesFrom line text = first :: more ∧
      (more ≠ [] → byteLength line < byteLength first) := by
  -- By induction on the text: the line is ended by the first character, or goes on with it.
  induction text generalizing line with
  | nil => exact ⟨line.reverse, [], rfl, fun h => absurd rfl h⟩
  | cons c rest ih =>
    have hpos : 0 < c.utf8Size := c.utf8Size_pos
    rw [linesFrom_cons]
    split
    · refine ⟨_, _, rfl, fun _ => ?_⟩
      rw [byteLength_reverse, byteLength_cons]
      omega
    · obtain ⟨first, more, hlines, hlonger⟩ := ih (c :: line)
      refine ⟨first, more, hlines, fun hmore => ?_⟩
      have := hlonger hmore
      rw [byteLength_cons] at this
      omega

/-- The point at which `before` ends, if it starts at the point `p` and `after` follows it. -/
def pointFrom (p : Point) : Text → Text → Point
  | [], _ => p
  | c :: before, after =>
    pointFrom (if endsLine c (before ++ after) then ⟨p.row + 1, 0⟩
      else ⟨p.row, p.column + c.utf8Size⟩) before after

/-- The row that an offset is on is found as the lines are, character by character. -/
theorem locate_linesFrom (row : Nat) (line : List Char) (before after : Text) :
    locate row ((linesFrom line (before ++ after)).map byteLength)
        (byteLength line + byteLength before) =
      pointFrom ⟨row, byteLength line⟩ before after := by
  induction before generalizing row line with
  -- By induction on the part before the offset, for every row and every line so far.
  | nil =>
    obtain ⟨first, more, hlines, hlonger⟩ := exists_linesFrom line after
    rw [List.nil_append, hlines, pointFrom, byteLength_nil, Nat.add_zero]
    cases more with
    | nil => rfl
    | cons second others =>
      -- The line goes on behind the offset, so the offset is before its end.
      have hlt := hlonger (by simp)
      rw [List.map_cons, List.map_cons, locate, if_neg (by omega)]
  | cons c before ih =>
    rw [List.cons_append, linesFrom_cons, pointFrom, byteLength_cons]
    split
    · -- The rest is on the lines that follow, and there are some.
      obtain ⟨first, more, hlines, -⟩ := exists_linesFrom [] (before ++ after)
      have hnext := ih (row + 1) []
      rw [byteLength_nil, Nat.zero_add, hlines, List.map_cons] at hnext
      have hlength : byteLength (c :: line).reverse = byteLength line + c.utf8Size := by
        rw [byteLength_reverse, byteLength_cons, Nat.add_comm]
      have hrest : byteLength line + (c.utf8Size + byteLength before) -
          (byteLength line + c.utf8Size) = byteLength before := by
        omega
      rw [hlines, List.map_cons, List.map_cons, locate, hlength, if_pos (by omega), hrest]
      exact hnext
    -- The line goes on with the character, on the same row.
    · have hnext := ih row (c :: line)
      rw [byteLength_cons, Nat.add_comm c.utf8Size] at hnext
      rw [← Nat.add_assoc]
      exact hnext

/-- The text's own point of an offset. -/
theorem pointAt_append (before after : Text) :
    pointAt (before ++ after) (byteLength before) = pointFrom ⟨0, 0⟩ before after := by
  have hmin : min (byteLength before) (byteLength (before ++ after)) = byteLength before := by
    rw [byteLength_append]
    omega
  have hlocate := locate_linesFrom 0 [] before after
  rw [byteLength_nil, Nat.zero_add] at hlocate
  unfold pointAt lines
  rw [hmin, hlocate]

/-! ## Where they part -/

/-- Number of lines that end in `before`, if `after` follows it, without a line feed. -/
def strayEnds : Text → Text → Nat
  | [], _ => 0
  | c :: before, after =>
    (if endsLine c (before ++ after) ∧ c ≠ '\n' then 1 else 0) + strayEnds before after

/-- Every line that ends without a line feed is one row more. -/
theorem pointFrom_row (p : Point) (before after : Text) :
    (pointFrom p before after).row = p.row + before.count '\n' + strayEnds before after := by
  induction before generalizing p with
  -- By induction on the characters: one that ends its line counts as a feed or as a stray end.
  | nil => simp [pointFrom, strayEnds]
  | cons c before ih =>
    rw [pointFrom, strayEnds, ih]
    by_cases hc : c = '\n'
    · subst hc
      simp only [endsLine_feed, if_true, List.count_cons_self, ne_eq, not_true, and_false, if_false]
      omega
    · rw [List.count_cons_of_ne hc]
      by_cases hends : endsLine c (before ++ after) = true
      · simp only [hends, hc, if_true, ne_eq, not_false_eq_true, and_self]
        omega
      · simp only [hends, false_and, Bool.false_eq_true, if_false]
        omega

/-- Where no line ends without a line feed, the text's point is reached by writing. -/
theorem pointFrom_of_strayEnds (p : Point) {before after : Text}
    (h : strayEnds before after = 0) : pointFrom p before after = p.advance before := by
  induction before generalizing p with
  | nil => rw [pointFrom, Point.advance_nil]
  | cons c before ih =>
    rw [strayEnds] at h
    rw [pointFrom, Point.advance_cons, ih _ (by omega)]
    by_cases hc : c = '\n'
    · subst hc
      rw [if_pos (endsLine_feed _), Point.advance_feed]
    -- Were it to end the line, it would be counted.
    · have hends : ¬ endsLine c (before ++ after) = true := by
        intro hends
        simp [hends, hc] at h
      rw [if_neg hends, Point.advance_other p hc]

/-- The text's point is reached by writing exactly if no line has ended without a line feed. -/
theorem pointFrom_eq_advance_iff (p : Point) (before after : Text) :
    pointFrom p before after = p.advance before ↔ strayEnds before after = 0 := by
  -- Each such end is one row more, and writing counts only the feeds.
  constructor
  · intro h
    have hrow := congrArg Point.row h
    rw [pointFrom_row] at hrow
    simp only [Point.advance] at hrow
    omega
  · exact pointFrom_of_strayEnds p

/-- There is a line that ends without a line feed exactly if there is such an end to be found. -/
theorem strayEnds_pos_iff (before after : Text) :
    0 < strayEnds before after ↔
      ∃ first c rest, before = first ++ c :: rest ∧ endsLine c (rest ++ after) = true ∧
        c ≠ '\n' := by
  -- By induction on the characters: the first one is such an end, or a later one is.
  induction before with
  | nil => simp [strayEnds]
  | cons d before ih =>
    rw [strayEnds, Nat.add_pos_iff_pos_or_pos, ih]
    constructor
    · rintro (hhere | ⟨first, c, rest, rfl, hends, hc⟩)
      · by_cases h : endsLine d (before ++ after) = true ∧ d ≠ '\n'
        · exact ⟨[], d, before, rfl, h.1, h.2⟩
        · rw [if_neg h] at hhere
          omega
      · exact ⟨d :: first, c, rest, rfl, hends, hc⟩
    · rintro ⟨first, c, rest, heq, hends, hc⟩
      cases first with
      | nil =>
        obtain ⟨rfl, rfl⟩ := List.cons.inj heq
        exact .inl (by simp [hends, hc])
      | cons e first => exact .inr ⟨first, c, rest, (List.cons.inj heq).2, hends, hc⟩

/-- A line of a text has ended by an offset, and not with a line feed. -/
def StrayBreak (text : Text) (offset : Nat) : Prop :=
  ∃ before c after, text = before ++ c :: after ∧ byteLength before + c.utf8Size ≤ offset ∧
    endsLine c after = true ∧ c ≠ '\n'

/-- What has ended by an offset has ended by any later one. -/
theorem StrayBreak.mono {text : Text} {offset later : Nat} (h : text.StrayBreak offset)
    (le : offset ≤ later) : text.StrayBreak later := by
  obtain ⟨before, c, after, htext, hbefore, hends, hc⟩ := h
  exact ⟨before, c, after, htext, Nat.le_trans hbefore le, hends, hc⟩

/-- What has ended by the end of `before` has ended in `before`. -/
theorem strayBreak_append_iff (before after : Text) :
    StrayBreak (before ++ after) (byteLength before) ↔ 0 < strayEnds before after := by
  rw [strayEnds_pos_iff]
  constructor
  · rintro ⟨first, c, rest, htext, hle, hends, hc⟩
    have hsplit : (first ++ [c]) ++ rest = before ++ after := by
      rw [List.append_assoc, List.singleton_append]
      exact htext.symm
    -- The end lies in the part before, as it is no later than that part's end.
    obtain ⟨more, hbefore, hrest⟩ := exists_between hsplit (by simpa using hle)
    exact ⟨first, c, more, by rw [hbefore]; simp, hrest ▸ hends, hc⟩
  · rintro ⟨first, c, rest, rfl, hends, hc⟩
    refine ⟨first, c, rest ++ after, by simp, ?_, hends, hc⟩
    rw [byteLength_append, byteLength_cons]
    omega

/-- A text and its syntax trees give an offset the same point if and only if no line has ended by it
    without a line feed. -/
theorem pointAt_eq_treePoint_iff {text : Text} {offset : Nat} (h : text.Boundary offset) :
    text.pointAt offset = text.treePoint offset ↔ ¬ text.StrayBreak offset := by
  obtain ⟨before, after, rfl, rfl⟩ := h
  rw [pointAt_append, treePoint_append, pointFrom_eq_advance_iff, strayBreak_append_iff]
  omega

/-- Otherwise the rows are too many. -/
theorem treePoint_row_lt {text : Text} {offset : Nat} (h : text.Boundary offset)
    (stray : text.StrayBreak offset) : (text.treePoint offset).row < (text.pointAt offset).row := by
  obtain ⟨before, after, rfl, rfl⟩ := h
  have hstray := (strayBreak_append_iff before after).1 stray
  rw [pointAt_append, treePoint_append, pointFrom_row]
  simp only [Point.advance]
  omega

end Text

end LiveTree
