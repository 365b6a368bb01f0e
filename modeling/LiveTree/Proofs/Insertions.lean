import LiveTree.Proofs.Points

/-!
# Texts act on points

Writing a text moves a point.  Where it leads to can be told from the text alone (`Point.EndsAt`): a
row down for each line feed, and behind the last of them a column for each byte.  It is found in two
passes over the bytes of the text, one that looks for the last line feed from the end and one that
counts them all.

A text that is written in parts leads where it leads when written at once, and so a long insertion has
the new end point of the last of several short ones, each of which starts where the one before has
ended.

Points are told in 64-bit words.  A row or a column that is no word has no answer, and then the parts
are not the whole: a line may become too long before a line feed ends it.

## Key results

- `Text.lastFeed?_eq_some_iff`: what the search from the end finds
- `Point.advanceInPasses?_eq`: the two passes agree with `Point.advance?`
- `Point.advance?_bind_advance?`: a text written in two parts, in words
- `Change.exists_last_insertion`, `Change.fits_insertions_iff`: insertions one behind the other
- `Point.writing_acts_on_points`: all of it together
-/

namespace LiveTree

namespace Text

variable {text : Text}

/-! ## The last line feed -/

/-- The last line feed among the first bytes, as many as given, searched from the end. -/
def lastFeed? (bytes : Array UInt8) : Nat → Option Nat
  | 0 => none
  | n + 1 => if bytes[n]? = some 10 then some n else lastFeed? bytes n

/-- Nothing is found exactly if none of the first bytes is a line feed. -/
theorem lastFeed?_eq_none_iff {bytes : Array UInt8} {n : Nat} :
    lastFeed? bytes n = none ↔ ∀ i < n, bytes[i]? ≠ some 10 := by
  -- By induction on the number of bytes; the last of them is looked at first.
  induction n with
  | zero => simp [lastFeed?]
  | succ n ih =>
    rw [lastFeed?]
    split
    · next hfeed =>
      constructor
      · intro heq
        exact nomatch heq
      · intro hnone
        exact absurd hfeed (hnone n (Nat.lt_succ_self n))
    · next hother => rw [ih, Nat.forall_lt_succ_right, and_iff_left hother]

/-- A line feed is found exactly if it is the last of the first bytes. -/
theorem lastFeed?_eq_some_iff {bytes : Array UInt8} {n i : Nat} :
    lastFeed? bytes n = some i ↔
      i < n ∧ bytes[i]? = some 10 ∧ ∀ j, i < j → j < n → bytes[j]? ≠ some 10 := by
  induction n with
  | zero => simp [lastFeed?]
  | succ n ih =>
    rw [lastFeed?]
    split
    · next hfeed =>
      constructor
      · intro heq
        obtain rfl := Option.some.inj heq
        exact ⟨Nat.lt_succ_self _, hfeed, fun j hlt hle => by omega⟩
      · rintro ⟨hlt, -, hlast⟩
        -- Were it another one, the last byte would be a line feed behind it.
        rcases Nat.lt_succ_iff_lt_or_eq.1 hlt with hlt | rfl
        · exact absurd hfeed (hlast n hlt (Nat.lt_succ_self n))
        · rfl
    · next hother =>
      rw [ih]
      constructor
      · rintro ⟨hlt, hfeed, hlast⟩
        refine ⟨by omega, hfeed, fun j hj hn => ?_⟩
        rcases Nat.lt_succ_iff_lt_or_eq.1 hn with hn | rfl
        · exact hlast j hj hn
        · exact hother
      · rintro ⟨hlt, hfeed, hlast⟩
        have hne : i ≠ n := fun heq => hother (heq ▸ hfeed)
        exact ⟨by omega, hfeed, fun j hj hn => hlast j hj (by omega)⟩

/-- The byte of a line feed is part of no other character. -/
theorem feed_mem_bytes : 10 ∈ text.bytes.toList ↔ '\n' ∈ text := by
  rw [← List.count_pos_iff, count_bytes, List.count_pos_iff]

/-- The bytes of a text are as many as its byte length says. -/
theorem size_bytes (text : Text) : text.bytes.size = text.byteLength := length_bytes text

/-- In a text without line feeds none is found. -/
theorem lastFeed?_of_not_mem (h : '\n' ∉ text) : lastFeed? text.bytes text.bytes.size = none := by
  refine lastFeed?_eq_none_iff.2 fun i _ hfeed => h (feed_mem_bytes.1 ?_)
  rw [← Array.getElem?_toList] at hfeed
  exact List.mem_of_getElem? hfeed

/-- The search stops behind the last line feed. -/
theorem lastFeed?_of_split (before : Text) {after : Text} (h : '\n' ∉ after) :
    lastFeed? (before ++ '\n' :: after).bytes (before ++ '\n' :: after).bytes.size =
      some before.byteLength := by
  have hbytes : (before ++ '\n' :: after).bytes.toList =
      before.bytes.toList ++ 10 :: after.bytes.toList := toList_bytes_append before _
  have hlength := length_bytes before
  -- What is behind the line feed are the bytes of the rest.
  have hbehind : ∀ j, before.byteLength < j →
      (before ++ '\n' :: after).bytes[j]? = after.bytes.toList[j - before.byteLength - 1]? := by
    intro j hj
    obtain ⟨k, rfl⟩ : ∃ k, j = before.byteLength + (k + 1) :=
      ⟨j - before.byteLength - 1, by omega⟩
    rw [← Array.getElem?_toList, hbytes, List.getElem?_append_right (by omega), hlength,
      Nat.add_sub_cancel_left, List.getElem?_cons_succ, Nat.add_sub_cancel]
  rw [lastFeed?_eq_some_iff]
  refine ⟨?_, ?_, fun j hj _ hfeed => h (feed_mem_bytes.1 ?_)⟩
  · rw [size_bytes, byteLength_append, byteLength_cons]
    have hsize : '\n'.utf8Size = 1 := rfl
    omega
  · rw [← Array.getElem?_toList, hbytes, List.getElem?_append_right (by omega), hlength,
      Nat.sub_self]
    rfl
  · rw [hbehind j hj] at hfeed
    exact List.mem_of_getElem? hfeed

/-- A text with a line feed has a last one. -/
theorem exists_split_at_last_feed (h : '\n' ∈ text) :
    ∃ before after, text = before ++ '\n' :: after ∧ '\n' ∉ after := by
  -- The first line feed of the text read backwards is the last one.
  obtain ⟨after, before, hreversed, hafter⟩ := List.eq_append_cons_of_mem (List.mem_reverse.2 h)
  refine ⟨before.reverse, after.reverse, ?_, fun hmem => hafter (List.mem_reverse.1 hmem)⟩
  have htext := congrArg List.reverse hreversed
  simpa using htext

end Text

namespace Point

open Text (byteLength)

variable {p q r : Point} {text : Text}

/-! ## Where a text leads to -/

/-- Writing a text from a point `p` ends at the point `q`: rows are counted by line feeds, and columns
    by bytes, from the last line feed on or, if there is none, from `p`. -/
structure EndsAt (p : Point) (text : Text) (q : Point) : Prop where
  row : q.row = p.row + text.count '\n'
  behind : ∀ before after, text = before ++ '\n' :: after → '\n' ∉ after →
    q.column = byteLength after
  along : '\n' ∉ text → q.column = p.column + byteLength text

/-- A text has one end. -/
theorem EndsAt.unique (h : p.EndsAt text q) (hother : p.EndsAt text r) : q = r := by
  -- The row is counted in both; the column depends on whether there is a line feed.
  have hrow : q.row = r.row := h.row.trans hother.row.symm
  have hcolumn : q.column = r.column := by
    by_cases hfeed : '\n' ∈ text
    · obtain ⟨before, after, rfl, hafter⟩ := Text.exists_split_at_last_feed hfeed
      exact (h.behind before after rfl hafter).trans (hother.behind before after rfl hafter).symm
    · exact (h.along hfeed).trans (hother.along hfeed).symm
  cases q
  cases r
  simp_all

/-- Without a line feed the row stays, and the column grows by the bytes. -/
theorem advance_along (p : Point) (h : '\n' ∉ text) :
    p.advance text = ⟨p.row, p.column + byteLength text⟩ := by
  simp [advance, h, List.count_eq_zero.2 h]

/-- With a last line feed, the column is what is behind it. -/
theorem advance_behind (p : Point) (before : Text) {after : Text} (h : '\n' ∉ after) :
    p.advance (before ++ '\n' :: after) =
      ⟨p.row + (before ++ '\n' :: after).count '\n', byteLength after⟩ := by
  rw [advance_append, advance_cons, advance_feed, advance_along _ h]
  simp [advance, List.count_eq_zero.2 h, Nat.add_assoc]

/-- A text ends where it leads to. -/
theorem endsAt_advance (p : Point) (text : Text) : p.EndsAt text (p.advance text) where
  row := rfl
  behind before after heq hafter := by rw [heq, advance_behind p before hafter]
  along h := by rw [advance_along p h]

/-- Writing never leads back. -/
theorem le_advance (p : Point) (text : Text) : p.Le (p.advance text) := by
  by_cases hfeed : '\n' ∈ text
  -- Either a row is ended, or the column does not shrink.
  · have hcount : 0 < text.count '\n' := List.count_pos_iff.2 hfeed
    exact .inl (Nat.lt_add_of_pos_right hcount)
  · rw [advance_along p hfeed]
    exact .inr ⟨rfl, Nat.le_add_right _ _⟩

/-! ## Two passes -/

/-- The end of a text by its bytes, in 64-bit words.  The last line feed is looked for from the end,
    and only if there is one they are counted.  No sum may leave the words, and no difference be
    negative. -/
def advanceInPasses? (p : Point) (text : Text) : Option Point :=
  let bytes := text.bytes
  match Text.lastFeed? bytes bytes.size with
  | none =>
    if p.column + bytes.size < UInt64.size then some ⟨p.row, p.column + bytes.size⟩ else none
  | some last =>
    let rows := (bytes.toList.filter (· == 10)).length
    if p.row + rows < UInt64.size ∧ last + 1 ≤ bytes.size then
      some ⟨p.row + rows, bytes.size - last - 1⟩
    else none

/-- Both passes together find the end of a text. -/
theorem advanceInPasses?_eq (fits : p.Fits) (small : byteLength text < UInt64.size) :
    p.advanceInPasses? text = p.advance? text := by
  unfold advanceInPasses? advance?
  dsimp only
  by_cases hfeed : '\n' ∈ text
  · obtain ⟨before, after, rfl, hafter⟩ := Text.exists_split_at_last_feed hfeed
    -- line feeds are single bytes of no other character, so that bytes can be counted for them
    have hrows : ((before ++ '\n' :: after).bytes.toList.filter (· == 10)).length =
        (before ++ '\n' :: after).count '\n' := by
      rw [← List.countP_eq_length_filter, ← Text.count_bytes]
      rfl
    have hsize : (before ++ '\n' :: after).bytes.size = byteLength before + (1 + byteLength after) := by
      rw [Text.size_bytes, Text.byteLength_append, Text.byteLength_cons]
      rfl
    have hcolumn : byteLength after < UInt64.size := by
      rw [← Text.size_bytes, hsize] at small
      omega
    have hrest : byteLength before + (1 + byteLength after) - byteLength before - 1 =
        byteLength after := by omega
    have hinside : byteLength before + 1 ≤ byteLength before + (1 + byteLength after) := by omega
    rw [Text.lastFeed?_of_split before hafter, advance_behind p before hafter]
    simp only [hrows, hsize, hrest, Fits, hinside, hcolumn, and_true]
  · rw [Text.lastFeed?_of_not_mem hfeed, advance_along p hfeed]
    simp only [Text.size_bytes, Fits, fits.1, true_and]

/-! ## Writing in parts, in words -/

/-- Nothing to write leads nowhere, in words. -/
theorem advance?_nil (fits : p.Fits) : p.advance? [] = some p := by
  rw [advance?, advance_nil, if_pos fits]

/-- If the first part of a text has an end in words, the second part leads on from there as the whole
    text does from the start. -/
theorem advance?_bind_advance? (p : Point) (first second : Text) :
    (p.advance? first).bind (·.advance? second) =
      (p.advance? first).bind fun _ => p.advance? (first ++ second) := by
  unfold advance?
  rw [advance_append]
  split <;> rfl

end Point

namespace Change

open Text (byteLength)

variable {offset : Nat} {point : Point} {part : Text} {parts : List Text}

/-! ## Insertions one behind the other -/

/-- A text is put in at an offset, which has the given point. -/
def insertion (offset : Nat) (point : Point) (text : Text) : Change :=
  ⟨offset, 0, text, point, point⟩

/-- Several texts are put in, each where the one before has ended. -/
def insertions (offset : Nat) (point : Point) : List Text → List Change
  | [] => []
  | part :: rest =>
    let first := insertion offset point part
    first :: insertions first.delta.newEnd first.delta.newEndPoint rest

/-- The delta of a change is told exactly if the change fits into words. -/
theorem delta?_eq_some_iff {c : Change} : c.delta? = some c.delta ↔ c.Fits := by
  unfold delta?
  split <;> simp [*]

/-- What is inserted behind a first part ends where it would have ended together with it. -/
theorem delta_insertion_append (offset : Nat) (point : Point) (part rest : Text) :
    let first := (insertion offset point part).delta
    let second := (insertion first.newEnd first.newEndPoint rest).delta
    let whole := (insertion offset point (part ++ rest)).delta
    second.newEnd = whole.newEnd ∧ second.newEndPoint = whole.newEndPoint := by
  constructor
  · show offset + byteLength part + byteLength rest = offset + byteLength (part ++ rest)
    rw [Text.byteLength_append, Nat.add_assoc]
  · exact (point.advance_append part rest).symm

/-- The last of several insertions ends where one insertion of the whole text does. -/
theorem exists_last_insertion (offset : Nat) (point : Point) (part : Text) (rest : List Text) :
    ∃ last, (insertions offset point (part :: rest)).getLast? = some last ∧
      last.delta.newEnd = (insertion offset point (part :: rest).flatten).delta.newEnd ∧
      last.delta.newEndPoint = (insertion offset point (part :: rest).flatten).delta.newEndPoint := by
  -- By induction on the further parts, for every place to start from.
  induction rest generalizing offset point part with
  | nil =>
    rw [List.flatten_singleton]
    exact ⟨_, rfl, rfl, rfl⟩
  | cons next rest ih =>
    obtain ⟨last, hlast, hend, hpoint⟩ := ih (insertion offset point part).delta.newEnd
      (insertion offset point part).delta.newEndPoint next
    obtain ⟨hwhole, hwholePoint⟩ := delta_insertion_append offset point part (next :: rest).flatten
    refine ⟨last, ?_, hend.trans hwhole, hpoint.trans hwholePoint⟩
    rw [← hlast, insertions, insertions, List.getLast?_cons_cons]

/-- The whole fits into words exactly if the second part does, from where the first one ends. -/
theorem fits_insertion_append (offset : Nat) (point : Point) (part rest : Text) :
    let first := (insertion offset point part).delta
    let second := (insertion first.newEnd first.newEndPoint rest).delta
    (insertion offset point (part ++ rest)).Fits ↔
      offset < UInt64.size ∧ second.newEnd < UInt64.size ∧ second.newEndPoint.Fits := by
  obtain ⟨hend, hpoint⟩ := delta_insertion_append offset point part rest
  dsimp only
  rw [hend, hpoint]
  rfl

/-- Several insertions can be told in words if and only if one insertion of the whole text can, and
    none of them starts beyond words. -/
theorem fits_insertions_iff (fits : point.Fits) (part : Text) (rest : List Text) :
    (∀ c ∈ insertions offset point (part :: rest), c.Fits) ↔
      (insertion offset point (part :: rest).flatten).Fits ∧
        ∀ c ∈ insertions offset point (part :: rest), c.startPoint.Fits := by
  -- By induction on the further parts: the second one starts where the first ends.
  induction rest generalizing offset point part with
  | nil => simpa [insertions, insertion] using fun _ => fits
  | cons next rest ih =>
    have hwhole := fits_insertion_append offset point part (next :: rest).flatten
    dsimp only at hwhole
    rw [List.flatten_cons, hwhole]
    constructor
    · intro hall
      obtain ⟨hfirst, hothers⟩ := List.forall_mem_cons.1 hall
      -- The hypothesis is used at the second part, which starts in words as the first has ended in
      -- them.
      obtain ⟨hrest, hstarts⟩ := (ih hfirst.2.2 next).1 hothers
      exact ⟨⟨hfirst.1, hrest.2⟩, List.forall_mem_cons.2 ⟨fits, hstarts⟩⟩
    · rintro ⟨⟨hoffset, hrest⟩, hstarts⟩
      obtain ⟨-, hothers⟩ := List.forall_mem_cons.1 hstarts
      -- The second insertion starts where the first one ends.
      have hmiddle : (insertion offset point part).delta.newEndPoint.Fits :=
        hothers _ List.mem_cons_self
      have hnewEnd : (insertion offset point part).newEnd < UInt64.size :=
        Nat.lt_of_le_of_lt (Nat.le_add_right _ _) hrest.1
      have hfirst : (insertion offset point part).Fits := ⟨hoffset, hnewEnd, hmiddle⟩
      exact List.forall_mem_cons.2 ⟨hfirst, (ih hmiddle next).2 ⟨⟨hnewEnd, hrest⟩, hothers⟩⟩

end Change

namespace Point

variable {p : Point}

/-- Texts act on points.  A text has an end wherever it is written, not before its start, and the two
    passes over its bytes find it, unless it cannot be told in words.  Nothing to write leads nowhere,
    and if a first part of a text has an end in words, the second part leads from there to the end of
    the whole.

    So the last of several insertions, each of which starts where the one before has ended, has the new
    end point of one insertion of the whole text.  All of them can be told in words if that one can,
    and none of them starts beyond words. -/
theorem writing_acts_on_points (fits : p.Fits) :
    p.advance? [] = some p ∧
      (∀ text : Text, ∃ q, p.EndsAt text q ∧ p.Le q ∧
        p.advance? text = (if q.Fits then some q else none) ∧
        (text.byteLength < UInt64.size → p.advanceInPasses? text = p.advance? text)) ∧
      (∀ first second : Text, (p.advance? first).bind (·.advance? second) =
        (p.advance? first).bind fun _ => p.advance? (first ++ second)) ∧
      ∀ (offset : Nat) (part : Text) (rest : List Text),
        let several := Change.insertions offset p (part :: rest)
        let whole := Change.insertion offset p (part :: rest).flatten
        (∃ last, several.getLast? = some last ∧ last.delta.newEnd = whole.delta.newEnd ∧
            last.delta.newEndPoint = whole.delta.newEndPoint) ∧
          ((∀ c ∈ several, c.delta? = some c.delta) ↔
            whole.delta? = some whole.delta ∧ ∀ c ∈ several, c.startPoint.Fits) := by
  refine ⟨advance?_nil fits, ?_, p.advance?_bind_advance?, ?_⟩
  · intro text
    exact ⟨p.advance text, p.endsAt_advance text, p.le_advance text, rfl, advanceInPasses?_eq fits⟩
  · intro offset part rest
    refine ⟨Change.exists_last_insertion offset p part rest, ?_⟩
    simp only [Change.delta?_eq_some_iff]
    exact Change.fits_insertions_iff fits part rest

/-- A line is filled up to the last column that is a word, and then ended. -/
theorem writing_acts_on_points_full :
    let p : Point := ⟨1, 18446744073709551613⟩
    p.Fits ∧ p.advance? ['é'] = some ⟨1, 18446744073709551615⟩ ∧
      (p.advance? ['é']).bind (·.advance? ['\n', 'b']) = some ⟨2, 1⟩ ∧
      p.advanceInPasses? ['é', '\n', 'b'] = some ⟨2, 1⟩ ∧
      (∀ c ∈ Change.insertions 7 p [['é'], ['\n', 'b']], c.delta? = some c.delta) := by
  dsimp only
  have hfits : Point.Fits ⟨1, 18446744073709551613⟩ := by decide
  obtain ⟨-, hends, hparts, hinsertions⟩ := writing_acts_on_points hfits
  obtain ⟨-, -, -, -, hpasses⟩ := hends ['é', '\n', 'b']
  refine ⟨hfits, by decide, (hparts ['é'] ['\n', 'b']).trans (by decide),
    (hpasses (by decide)).trans (by decide), ?_⟩
  exact (hinsertions 7 ['é'] [['\n', 'b']]).2.2 (by decide)

/-- Behind the last column that is a word nothing can be written, but a letter and a line feed together
    can. -/
theorem letter_beyond_words :
    let p : Point := ⟨0, 18446744073709551615⟩
    p.Fits ∧ p.EndsAt ['x'] ⟨0, 18446744073709551616⟩ ∧ p.advance? ['x'] = none ∧
      p.advance? ['x', '\n'] = some ⟨1, 0⟩ ∧
      (p.advance? ['x']).bind (·.advance? ['\n']) = none := by
  exact ⟨by decide, endsAt_advance _ _, by decide, by decide, by decide⟩

end Point

end LiveTree
