import LiveTree.Proofs.Points
import Mathlib.Algebra.GroupWithZero.Nat

/-!
# Offsets and points correspond

The lines of a text lie end to end, so a row and a column say an offset, and an offset says a row and
a column.  What lines are is told by `Text.Rows`, from the breaks that end them; all the rest follows
from their lengths.  A point is found at an offset (`Text.FoundAt`) if its column is on its row, and
such points come in the order of their offsets.

## Key results

- `Text.rows_iff`: a text has lines of just one kind, and those are `Text.lines`
- `Text.locate_foundAt`: the point that is looked for is found at its offset
- `Text.FoundAt.compare_eq`: points come in the order of their offsets
- `Text.offsets_correspond_to_points`: the laws of `Text.pointAt` and `Text.byteAt`
-/

namespace LiveTree

/-- Points are compared row first. -/
theorem Point.isLE_compare_iff (p q : Point) : (p.compare q).isLE = true ↔ p.Le q := by
  unfold compare Le
  -- An earlier row, the same row, and a later one.
  rcases Nat.lt_trichotomy p.row q.row with hrow | hrow | hrow
  · simp [Nat.compare_eq_lt.2 hrow, hrow]
  · simp [hrow, Nat.isLE_compare]
  · simp [Nat.compare_eq_gt.2 hrow, Nat.not_lt_of_lt hrow, Nat.ne_of_gt hrow]

namespace Text

/-! ## Lines -/

/-- What ends a line. -/
def lineEnds : List Text :=
  [['\n'], ['\r'], ['\r', '\n'], ['\x0b'], ['\x0c'], ['\u0085'], ['\u2028'], ['\u2029']]

/-- A text and its lines: all but the last have an end, and none has one before that.  A carriage
    return and a line feed are one end, not two. -/
inductive Rows : Text → List Text → Prop where
  | last {line : Text} (plain : ∀ c ∈ line, [c] ∉ lineEnds) : Rows line [line]
  | next {line stop rest : Text} {rows : List Text} (plain : ∀ c ∈ line, [c] ∉ lineEnds)
      (ends : stop ∈ lineEnds) (whole : stop = ['\r'] → rest.head? ≠ some '\n')
      (others : Rows rest rows) : Rows (line ++ stop ++ rest) ((line ++ stop) :: rows)

/-- A character breaks a line exactly if it is an end of one character. -/
theorem breaksLine_iff (c : Char) : breaksLine c = true ↔ [c] ∈ lineEnds := by
  simp [breaksLine, lineEnds, or_assoc]

/-- A character breaks no line exactly if it is no such end. -/
theorem breaksLine_eq_false_iff (c : Char) : breaksLine c = false ↔ [c] ∉ lineEnds := by
  rw [← breaksLine_iff, Bool.not_eq_true]

/-- Characters that end no line are added to the current one. -/
theorem linesFrom_plain (passed : List Char) {line : Text} (plain : ∀ c ∈ line, [c] ∉ lineEnds)
    -- By induction on the line, for whatever has been passed before it.
    (rest : Text) : linesFrom passed (line ++ rest) = linesFrom (line.reverse ++ passed) rest := by
  induction line generalizing passed with
  | nil => rfl
  | cons c line ih =>
    obtain ⟨hc, hline⟩ := List.forall_mem_cons.1 plain
    have hstays : endsLine c (line ++ rest) = false := by
      simp [endsLine, (breaksLine_eq_false_iff c).2 hc]
    rw [List.cons_append, linesFrom_cons, hstays, if_neg Bool.false_ne_true, ih _ hline]
    simp

/-- An end that is taken whole ends the current line. -/
theorem linesFrom_ends (passed : List Char) {stop rest : Text} (ends : stop ∈ lineEnds)
    (whole : stop = ['\r'] → rest.head? ≠ some '\n') :
    linesFrom passed (stop ++ rest) = (passed.reverse ++ stop) :: linesFrom [] rest := by
  -- The pair of a carriage return and a line feed is the one end of two characters.
  by_cases hpair : stop = ['\r', '\n']
  · subst hpair
    simp [linesFrom]
  · obtain ⟨c, rfl⟩ : ∃ c, stop = [c] := by
      simp only [lineEnds, List.mem_cons, List.not_mem_nil, or_false] at ends
      rcases ends with h | h | h | h | h | h | h | h
      · exact ⟨_, h⟩
      · exact ⟨_, h⟩
      · exact absurd h hpair
      all_goals exact ⟨_, h⟩
    have hends : endsLine c rest = true := by
      unfold endsLine
      rw [(breaksLine_iff c).2 ends]
      by_cases hc : c = '\r'
      · subst hc
        simp [whole rfl]
      · simp [hc]
    rw [List.singleton_append, linesFrom_cons, hends, if_pos rfl, List.reverse_cons]

/-- The lines of a text are the rows that it has. -/
theorem Rows.eq_lines {text : Text} {rows : List Text} (h : text.Rows rows) : rows = text.lines := by
  unfold lines
  -- By induction on the rows, the last one and then each before it.
  induction h with
  | last plain =>
    have hall := linesFrom_plain [] plain []
    rw [List.append_nil, List.append_nil, linesFrom, List.reverse_reverse] at hall
    exact hall.symm
  | next plain ends whole others ih =>
    rw [List.append_assoc, linesFrom_plain [] plain, linesFrom_ends _ ends whole, ← ih]
    simp

/-- The lines that are found are lines, the current one with what it has got so far. -/
theorem rows_linesFrom (passed text : Text) (plain : ∀ c ∈ passed, [c] ∉ lineEnds) :
    Rows (passed.reverse ++ text) (linesFrom passed text) := by
  -- The characters passed are kept in reverse.
  have hpassed : ∀ {line : List Char}, (∀ c ∈ line, [c] ∉ lineEnds) →
      ∀ c ∈ line.reverse, [c] ∉ lineEnds := fun h c hc => h c (List.mem_reverse.1 hc)
  fun_induction linesFrom passed text with
  | case1 passed =>
    rw [List.append_nil]
    exact .last (hpassed plain)
  | case2 passed rest ih =>
    have hends : ['\r', '\n'] ∈ lineEnds := by decide
    have hrows := Rows.next (hpassed plain) hends (by simp) (ih (by simp))
    simpa using hrows
  | case3 passed c rest hpair hbreaks ih =>
    have hends : [c] ∈ lineEnds := (breaksLine_iff c).1 hbreaks
    -- A carriage return with a line feed behind it has been dealt with before.
    have hwhole : [c] = ['\r'] → rest.head? ≠ some '\n' := by
      rintro hc hhead
      obtain ⟨more, rfl⟩ := List.head?_eq_some_iff.1 hhead
      exact hpair more (List.singleton_inj.1 hc) rfl
    have hrows := Rows.next (hpassed plain) hends hwhole (ih (by simp))
    simpa using hrows
  | case4 passed c rest hpair hbreaks ih =>
    have hc : [c] ∉ lineEnds := (breaksLine_eq_false_iff c).1 (by simpa using hbreaks)
    have hrows := ih (List.forall_mem_cons.2 ⟨hc, plain⟩)
    simpa using hrows

/-- A text has lines of just one kind. -/
theorem rows_iff {text : Text} {rows : List Text} : text.Rows rows ↔ rows = text.lines := by
  constructor
  · exact Rows.eq_lines
  · rintro rfl
    exact rows_linesFrom [] text (by simp)

/-- The rows of a text make up the text. -/
theorem Rows.flatten_eq {text : Text} {rows : List Text} (h : text.Rows rows) :
    rows.flatten = text := by
  induction h with
  | last => simp
  | next plain ends whole others ih => rw [List.flatten_cons, ih]

/-- The lines of a text make up the text. -/
theorem flatten_lines (text : Text) : text.lines.flatten = text := (rows_iff.2 rfl).flatten_eq

/-- Every text has a line, if only an empty one. -/
theorem lines_ne_nil (text : Text) : text.lines ≠ [] := by
  obtain ⟨first, more, hlines, -⟩ := exists_linesFrom [] text
  rw [lines, hlines]
  exact List.cons_ne_nil _ _

/-- Rows together are as long as all of them one by one. -/
theorem byteLength_flatten (rows : List Text) :
    byteLength rows.flatten = (rows.map byteLength).sum := by
  induction rows with
  | nil => rfl
  | cons row rest ih => rw [List.flatten_cons, byteLength_append, ih, List.map_cons, List.sum_cons]

/-! ## Points on lines of given lengths -/

/-- More rows are longer. -/
theorem sum_take_le (lengths : List Nat) {m n : Nat} (h : m ≤ n) :
    (lengths.take m).sum ≤ (lengths.take n).sum := by
  obtain ⟨k, rfl⟩ := Nat.exists_eq_add_of_le h
  rw [List.take_add, List.sum_append]
  omega

/-- One more row adds its length. -/
theorem sum_take_succ (lengths : List Nat) (row : Nat) :
    (lengths.take (row + 1)).sum = (lengths.take row).sum + lengths[row]?.getD 0 := by
  rw [List.take_add_one, List.sum_append]
  cases lengths[row]? with
  | none => rfl
  | some length => simp

/-- No number of rows is longer than all of them. -/
theorem sum_take_le_sum (lengths : List Nat) (n : Nat) : (lengths.take n).sum ≤ lengths.sum := by
  have hall : lengths.take (n + lengths.length) = lengths := List.take_of_length_le (by omega)
  have hle := sum_take_le lengths (Nat.le_add_right n lengths.length)
  rwa [hall] at hle

/-- The point is on a line and has the offset, where the lines have the lengths.  The end of a line
    belongs to the next one, if there is one. -/
structure FoundAt (lengths : List Nat) (p : Point) (offset : Nat) : Prop where
  offset_eq : offset = (lengths.take p.row).sum + p.column
  on_row : ∃ length, lengths[p.row]? = some length ∧
    (p.column < length ∨ p.row + 1 = lengths.length ∧ p.column ≤ length)

variable {lengths : List Nat} {p q : Point} {offset later : Nat}

/-- The point that is looked for is found at its offset. -/
theorem locate_foundAt (row : Nat) (nonempty : lengths ≠ []) (inside : offset ≤ lengths.sum) :
    ∃ p, locate row lengths offset = ⟨row + p.row, p.column⟩ ∧ FoundAt lengths p offset := by
  -- By induction on the lengths: each row but the last takes the offsets before its end.
  induction lengths generalizing row offset with
  | nil => exact absurd rfl nonempty
  | cons length rest ih =>
    rw [List.sum_cons] at inside
    cases rest with
    | nil =>
      refine ⟨⟨0, offset⟩, rfl, by simp, length, rfl, .inr ⟨rfl, ?_⟩⟩
      simpa using inside
    | cons next others =>
      rw [locate]
      split
      · next hle =>
        have hrest : offset - length ≤ (next :: others).sum := by omega
        obtain ⟨p, hp, hfound⟩ := ih (row + 1) (by simp) hrest
        have hoffset := hfound.offset_eq
        refine ⟨⟨p.row + 1, p.column⟩, ?_, ?_, ?_⟩
        · rw [hp, Nat.add_assoc, Nat.add_comm 1]
        · show offset = (List.take (p.row + 1) (length :: next :: others)).sum + p.column
          rw [List.take_succ_cons, List.sum_cons]
          omega
        · simpa using hfound.on_row
      -- The offset is before the end of the first row, so it is on that row.
      · next hlt => exact ⟨⟨0, offset⟩, rfl, by simp, length, rfl, .inl (Nat.lt_of_not_le hlt)⟩

/-- A point that is found later is not on an earlier row. -/
theorem FoundAt.row_le (hp : FoundAt lengths p offset) (hq : FoundAt lengths q later)
    (h : offset ≤ later) : p.row ≤ q.row := by
  apply Nat.le_of_not_lt
  intro hlt
  -- If it were, the row of the later point would have ended before the earlier one.
  obtain ⟨length, hrow, hcolumn⟩ := hq.on_row
  obtain ⟨_, hlast, -⟩ := hp.on_row
  have hinside : p.row < lengths.length := (List.getElem?_eq_some_iff.1 hlast).1
  -- The row of `q` is not the last one, so it ends after `q` and before the row of `p`.
  have hends := sum_take_succ lengths q.row
  rw [hrow, Option.getD_some] at hends
  have hbefore : (lengths.take (q.row + 1)).sum ≤ (lengths.take p.row).sum := sum_take_le lengths hlt
  have hoffset := hp.offset_eq
  have hlater := hq.offset_eq
  omega

/-- Points come in the order of their offsets. -/
theorem FoundAt.compare_eq (hp : FoundAt lengths p offset) (hq : FoundAt lengths q later) :
    p.compare q = compare offset later := by
  have hoffset := hp.offset_eq
  have hlater := hq.offset_eq
  unfold Point.compare
  rcases Nat.lt_trichotomy p.row q.row with hrow | hrow | hrow
  · have hlt : offset < later := by
      apply Nat.lt_of_not_le
      intro hle
      have := hq.row_le hp hle
      omega
    rw [Nat.compare_eq_lt.2 hrow, Nat.compare_eq_lt.2 hlt]
    rfl
  · -- On one row the columns decide.
    rw [hrow] at hoffset ⊢
    rw [Nat.compare_eq_eq.2 rfl, hoffset, hlater]
    show compare p.column q.column = _
    rcases Nat.lt_trichotomy p.column q.column with hcolumn | hcolumn | hcolumn
    · rw [Nat.compare_eq_lt.2 hcolumn, Nat.compare_eq_lt.2 (Nat.add_lt_add_left hcolumn _)]
    · rw [hcolumn]
      simp
    · rw [Nat.compare_eq_gt.2 hcolumn, Nat.compare_eq_gt.2 (Nat.add_lt_add_left hcolumn _)]
  · have hlt : later < offset := by
      apply Nat.lt_of_not_le
      intro hle
      have := hp.row_le hq hle
      omega
    rw [Nat.compare_eq_gt.2 hrow, Nat.compare_eq_gt.2 hlt]
    rfl

/-- One point only is found at an offset. -/
theorem FoundAt.unique (hp : FoundAt lengths p offset) (hq : FoundAt lengths q offset) : p = q := by
  -- Points that are at one offset compare as equal.
  have hsame : p.compare q = .eq := by rw [hp.compare_eq hq, Nat.compare_eq_eq.2 rfl]
  obtain ⟨hrow, hcolumn⟩ := Ordering.then_eq_eq.1 hsame
  cases p
  cases q
  simp_all

/-! ## Points of a text -/

/-- The lengths of the lines add up to that of the text. -/
theorem sum_lengths (text : Text) : (text.lines.map byteLength).sum = text.byteLength := by
  rw [← byteLength_flatten, flatten_lines]

/-- The point of an offset is found at it. -/
theorem pointAt_foundAt (text : Text) (offset : Nat) :
    FoundAt (text.lines.map byteLength) (text.pointAt offset) (min offset text.byteLength) := by
  have hlines : text.lines.map byteLength ≠ [] := by simpa using text.lines_ne_nil
  have hinside : min offset text.byteLength ≤ (text.lines.map byteLength).sum := by
    rw [sum_lengths]
    exact Nat.min_le_right _ _
  obtain ⟨p, hp, hfound⟩ := locate_foundAt 0 hlines hinside
  rw [Nat.zero_add] at hp
  rw [pointAt, hp]
  exact hfound

/-- A row past the last line is a line without a length. -/
theorem byteAt_eq (text : Text) (p : Point) :
    text.byteAt p = ((text.lines.map byteLength).take p.row).sum +
      min p.column ((text.lines.map byteLength)[p.row]?.getD 0) := by
  rw [byteAt, List.getElem?_map]
  cases hrow : text.lines[p.row]? with
  | none =>
    have hpast : (text.lines.map byteLength).length ≤ p.row := by
      rw [List.length_map]
      exact List.getElem?_eq_none_iff.1 hrow
    simp [List.take_of_length_le hpast, sum_lengths]
  | some line => simp [byteLength_flatten]

/-- A point that is found at an offset has that offset. -/
theorem byteAt_of_foundAt {text : Text} (h : FoundAt (text.lines.map byteLength) p offset) :
    text.byteAt p = offset := by
  obtain ⟨length, hrow, hcolumn⟩ := h.on_row
  have hoffset := h.offset_eq
  rw [byteAt_eq, hrow, Option.getD_some]
  omega

/-- A row takes no offset past its end, which is where the next one starts. -/
theorem byteAt_le_sum_take (text : Text) (p : Point) :
    text.byteAt p ≤ ((text.lines.map byteLength).take (p.row + 1)).sum := by
  rw [byteAt_eq, sum_take_succ]
  omega

/-- No point is past the end of the text. -/
theorem byteAt_le (text : Text) (p : Point) : text.byteAt p ≤ text.byteLength := by
  rw [← sum_lengths]
  exact Nat.le_trans (text.byteAt_le_sum_take p) (sum_take_le_sum _ _)

/-- Offsets come in the order of their points, also of points that are nowhere in the text. -/
theorem byteAt_mono (text : Text) (h : p.Le q) : text.byteAt p ≤ text.byteAt q := by
  rcases h with hrow | ⟨hrow, hcolumn⟩
  -- A row ends where the next one starts at the latest.
  · have hbetween : ((text.lines.map byteLength).take (p.row + 1)).sum ≤
        ((text.lines.map byteLength).take q.row).sum := sum_take_le _ hrow
    have hend := text.byteAt_le_sum_take p
    have hstart := text.byteAt_eq q
    omega
  · rw [byteAt_eq, byteAt_eq, hrow]
    omega

/-- The point is on a line, before the end of its break or at the end of the text. -/
def On (text : Text) (p : Point) : Prop :=
  ∃ line, text.lines[p.row]? = some line ∧ (p.column < line.byteLength ∨
    p.row + 1 = text.lines.length ∧ p.column ≤ line.byteLength)

/-- A point on a line is found at its offset. -/
theorem foundAt_byteAt {text : Text} (h : text.On p) :
    FoundAt (text.lines.map byteLength) p (text.byteAt p) := by
  obtain ⟨line, hrow, hcolumn⟩ := h
  have hlength : (text.lines.map byteLength)[p.row]? = some line.byteLength := by
    rw [List.getElem?_map, hrow]
    rfl
  refine ⟨?_, line.byteLength, hlength, ?_⟩
  · rw [byteAt_eq, hlength, Option.getD_some]
    omega
  · rwa [List.length_map]

/-- Offsets of a text and points on its lines correspond, in their orders.  An offset past the end
    counts as the end, and a point that is on no line as the end of its row or of the text. -/
theorem offsets_correspond_to_points (text : Text) :
    (∀ rows, text.Rows rows ↔ rows = text.lines) ∧
      (∀ offset, text.byteAt (text.pointAt offset) = min offset text.byteLength) ∧
      (∀ offset later, offset < later → later ≤ text.byteLength →
        (text.pointAt offset).compare (text.pointAt later) = .lt) ∧
      (∀ p, text.On p → text.pointAt (text.byteAt p) = p) ∧
      (∀ p q, (p.compare q).isLE = true → text.byteAt p ≤ text.byteAt q) ∧
      ∀ p, text.byteAt p ≤ text.byteLength := by
  refine ⟨fun rows => rows_iff, ?_, ?_, ?_, ?_, text.byteAt_le⟩
  · intro offset
    exact byteAt_of_foundAt (text.pointAt_foundAt offset)
  · intro offset later hlt inside
    have hfound := text.pointAt_foundAt offset
    have hlater := text.pointAt_foundAt later
    rw [hfound.compare_eq hlater, Nat.min_eq_left inside, Nat.min_eq_left (by omega)]
    exact Nat.compare_eq_lt.2 hlt
  · intro p on
    have hfound := text.pointAt_foundAt (text.byteAt p)
    rw [Nat.min_eq_left (text.byteAt_le p)] at hfound
    exact hfound.unique (foundAt_byteAt on)
  · intro p q hle
    exact text.byteAt_mono ((p.isLE_compare_iff q).1 hle)

/-- A line that ends with a pair, one that ends with a break of three bytes and one that ends with a
    break of two. -/
def variouslyBroken : Text := ['a', '\r', '\n', 'é', '\u2028', 'b', '\u0085']

/-- The three breaks are three ends, and the points around them correspond to their offsets. -/
theorem offsets_correspond_to_points_broken :
    Rows variouslyBroken [['a', '\r', '\n'], ['é', '\u2028'], ['b', '\u0085'], []] ∧
      variouslyBroken.byteAt (variouslyBroken.pointAt 6) = 6 ∧
      (variouslyBroken.pointAt 2).compare (variouslyBroken.pointAt 3) = .lt ∧
      variouslyBroken.pointAt (variouslyBroken.byteAt ⟨1, 4⟩) = ⟨1, 4⟩ ∧
      variouslyBroken.byteAt ⟨0, 9⟩ ≤ variouslyBroken.byteAt ⟨1, 0⟩ ∧
      variouslyBroken.pointAt 2 = ⟨0, 2⟩ ∧ variouslyBroken.pointAt 11 = ⟨3, 0⟩ := by
  obtain ⟨hrows, hoffset, hstrict, hpoint, hmono, -⟩ :=
    offsets_correspond_to_points variouslyBroken
  refine ⟨(hrows _).2 (by decide), hoffset 6, hstrict 2 3 (by decide) (by decide),
    hpoint ⟨1, 4⟩ ?_, hmono ⟨0, 9⟩ ⟨1, 0⟩ (by decide), by decide, by decide⟩
  exact ⟨['é', '\u2028'], by decide, .inl (by decide)⟩

end Text

end LiveTree
