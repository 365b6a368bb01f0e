import LiveTree.Proofs.Swaps
import LiveTree.Query.Selection
import Mathlib.Data.List.DropRight

/-!
# Trimming takes off blanks and one pair of brackets

Trimming reads a text byte by byte, from both ends of a span.  Blanks, brackets and quotes are single bytes
in UTF-8, and no byte of another character looks like one of them, so a byte is a blank or a bracket if and
only if the character that it belongs to is.  That lets every loop over bytes be told as one over
characters: what is trimmed off are whole characters, and what is left stands between two of them.

## Key results

- `Text.isBlankByte_iff`, `Text.isPair_iff`: what a byte is, its character is
- `Text.skipBlank?_eq`, `Text.dropBlank?_eq`: the two loops, in characters
- `Text.exists_trimBlank?`: blanks are trimmed off both ends, and nothing else
- `Text.exists_trimBrackets?`: then at most one pair, and the blanks inside it
- `Text.selections?_of_admits`: selections in a text's own tree grow without a failure to trim
- `Text.trimming_exact`: what is trimmed off, and where the rest stands
-/

namespace LiveTree

namespace Text

/-- The blank characters. -/
def blanks : List Char := [' ', '\t', '\n', '\x0c', '\r']

/-- The pairs of brackets and quotes. -/
def brackets : List (Char × Char) :=
  [('(', ')'), ('[', ']'), ('\x7b', '\x7d'), ('"', '"'), ('\'', '\''), ('\x60', '\x60')]

/-- Nothing but blanks. -/
def Blank (text : Text) : Prop := ∀ c ∈ text, c ∈ blanks

/-- Neither the first nor the last character is a blank. -/
def Neat (text : Text) : Prop :=
  (∀ c, text.head? = some c → c ∉ blanks) ∧ ∀ c, text.getLast? = some c → c ∉ blanks

/-- What is left when a piece of text is trimmed, and how many bytes come before it. -/
inductive Trimmed : Text → Nat → Text → Prop where
  /-- Nothing but blanks is taken off, and no pair is left around the rest. -/
  | blanks {before rest after : Text} (hbefore : Blank before) (hafter : Blank after)
      (bare : ∀ opening closing inner, (opening, closing) ∈ brackets →
        rest ≠ opening :: (inner ++ [closing])) :
      Trimmed (before ++ rest ++ after) (byteLength before) rest
  /-- Blanks are taken off, then a pair, and then blanks inside it. -/
  | pair {before inside rest after outside : Text} {opening closing : Char} (hbefore : Blank before)
      (pair : (opening, closing) ∈ brackets) (hinside : Blank inside) (hafter : Blank after)
      (houtside : Blank outside) :
      Trimmed (before ++ opening :: (inside ++ rest ++ after) ++ closing :: outside)
        (byteLength before + 1 + byteLength inside) rest

/-! ## Blanks, brackets and their bytes -/

/-- A blank is a single byte. -/
theorem utf8Size_of_mem_blanks {c : Char} (h : c ∈ blanks) : c.utf8Size = 1 := by
  simp only [blanks, List.mem_cons, List.not_mem_nil, or_false] at h
  rcases h with rfl | rfl | rfl | rfl | rfl <;> rfl

/-- So are brackets and quotes. -/
theorem utf8Size_of_mem_brackets {opening closing : Char} (h : (opening, closing) ∈ brackets) :
    opening.utf8Size = 1 ∧ closing.utf8Size = 1 := by
  have hall : ∀ pair ∈ brackets, pair.1.utf8Size = 1 ∧ pair.2.utf8Size = 1 := by decide
  exact hall _ h

/-- A byte is a blank if its character is. -/
theorem isBlankByte_iff {b : UInt8} {c : Char} (h : b ∈ String.utf8EncodeChar c) :
    isBlankByte b = true ↔ c ∈ blanks := by
  have hbytes : blanks.map (·.val.toUInt8) = [32, 9, 10, 12, 13] := by decide
  have hblank : isBlankByte b = true ↔ b ∈ blanks.map (·.val.toUInt8) := by
    rw [hbytes]
    simp [isBlankByte, or_assoc]
  rw [hblank, List.mem_map]
  constructor
  · rintro ⟨d, hd, hbyte⟩
    -- A byte of a character is that of a blank only if the character is the blank.
    rw [(eq_iff_byte h (utf8Size_of_mem_blanks hd)).1 hbyte.symm]
    exact hd
  · intro hc
    exact ⟨c, hc, ((eq_iff_byte h (utf8Size_of_mem_blanks hc)).2 rfl).symm⟩

/-- Two bytes are a pair if their characters are. -/
theorem isPair_iff {a b : UInt8} {opening closing : Char} (ha : a ∈ String.utf8EncodeChar opening)
    (hb : b ∈ String.utf8EncodeChar closing) :
    isPair a b = true ↔ (opening, closing) ∈ brackets := by
  have hpair : isPair a b = true ↔
      (a, b) ∈ brackets.map fun pair => (pair.1.val.toUInt8, pair.2.val.toUInt8) :=
    List.contains_iff_mem
  rw [hpair, List.mem_map]
  constructor
  · rintro ⟨pair, hmem, hbytes⟩
    obtain ⟨hfirst, hsecond⟩ := Prod.mk.inj hbytes
    obtain ⟨hopening, hclosing⟩ := utf8Size_of_mem_brackets hmem
    -- The pair of bytes comes of a pair in the list, and each byte tells its character.
    rw [(eq_iff_byte ha hopening).1 hfirst.symm, (eq_iff_byte hb hclosing).1 hsecond.symm]
    exact hmem
  · intro hmem
    obtain ⟨hopening, hclosing⟩ := utf8Size_of_mem_brackets hmem
    rw [(eq_iff_byte ha hopening).2 rfl, (eq_iff_byte hb hclosing).2 rfl]
    exact ⟨_, hmem, rfl⟩

/-- The bytes of a character stand where the text before it ends. -/
theorem exists_byte (before : Text) (c : Char) (after : Text) {k : Nat} (h : k < c.utf8Size) :
    ∃ b ∈ String.utf8EncodeChar c, (before ++ c :: after).bytes[byteLength before + k]? = some b := by
  have hlt : k < (String.utf8EncodeChar c).length := by
    rw [String.length_utf8EncodeChar]
    exact h
  refine ⟨(String.utf8EncodeChar c)[k], List.getElem_mem hlt, ?_⟩
  rw [← Array.getElem?_toList, toList_bytes_append, ← length_bytes before,
    List.getElem?_append_right (Nat.le_add_right _ _), Nat.add_sub_cancel_left, toList_bytes,
    List.flatMap_cons, List.getElem?_append_left hlt, List.getElem?_eq_getElem hlt]

/-! ## Blanks -/

/-- The first loop moves over the blanks in front. -/
theorem skipBlank?_eq (before middle after : Text) :
    skipBlank? (before ++ middle ++ after).bytes (byteLength middle) (byteLength before) =
      some (byteLength (before ++ middle.takeWhile (· ∈ blanks))) := by
  -- By induction on the characters in front of the loop, with those it has passed free.
  induction middle generalizing before with
  | nil => simp [skipBlank?]
  | cons c rest ih =>
    obtain ⟨b, hb, hbyte⟩ := exists_byte before c (rest ++ after) c.utf8Size_pos
    have htext : before ++ (c :: rest) ++ after = before ++ c :: (rest ++ after) := by simp
    obtain ⟨n, hn⟩ : ∃ n, byteLength (c :: rest) = n + 1 := by
      have := c.utf8Size_pos
      exact ⟨byteLength (c :: rest) - 1, by rw [byteLength_cons]; omega⟩
    rw [Nat.add_zero] at hbyte
    rw [hn, skipBlank?, htext, hbyte]
    dsimp only
    by_cases hc : c ∈ blanks
    · -- A blank is a single byte, so the loop is at the next character.
      have hsize := utf8Size_of_mem_blanks hc
      have hrest : n = byteLength rest := by
        rw [byteLength_cons, hsize] at hn
        omega
      have hnext := ih (before ++ [c])
      rw [byteLength_append before [c], byteLength_cons, hsize, byteLength_nil] at hnext
      rw [if_pos ((isBlankByte_iff hb).2 hc), hrest]
      simpa [hc] using hnext
    · rw [if_neg (mt (isBlankByte_iff hb).1 hc)]
      simp [hc]

/-- The second loop moves back over the blanks behind. -/
theorem dropBlank?_eq (before middle after : Text) :
    dropBlank? (before ++ middle ++ after).bytes (byteLength before) (byteLength middle) =
      some (byteLength (before ++ middle.rdropWhile (· ∈ blanks))) := by
  -- By induction from the last character, with what comes after it free.
  induction middle using List.reverseRecOn generalizing after with
  | nil => simp [dropBlank?]
  | append_singleton rest c ih =>
    have hpos := c.utf8Size_pos
    obtain ⟨b, hb, hbyte⟩ := exists_byte (before ++ rest) c after
      (Nat.sub_lt hpos Nat.zero_lt_one)
    have htext : before ++ (rest ++ [c]) ++ after = before ++ rest ++ c :: after := by simp
    have hlength : byteLength (rest ++ [c]) = byteLength rest + (c.utf8Size - 1) + 1 := by
      rw [byteLength_append, byteLength_cons, byteLength_nil]
      omega
    rw [byteLength_append, Nat.add_assoc] at hbyte
    rw [hlength, dropBlank?, htext, hbyte]
    dsimp only
    by_cases hc : c ∈ blanks
    · have hsize := utf8Size_of_mem_blanks hc
      have hnext := ih (c :: after)
      rw [if_pos ((isBlankByte_iff hb).2 hc), hsize]
      simpa [hc] using hnext
    · rw [if_neg (mt (isBlankByte_iff hb).1 hc)]
      simp [hc]
      omega

/-- What a prefix begins with, the whole begins with. -/
theorem head?_of_prefix {α : Type} {as bs : List α} {a : α} (h : as <+: bs) (ha : as.head? = some a) :
    bs.head? = some a := by
  obtain ⟨rest, rfl⟩ := h
  rw [List.head?_append, ha]
  rfl

/-- What is between the blanks at the two ends of a text. -/
theorem neat_core (text : Text) :
    Neat ((text.dropWhile (· ∈ blanks)).rdropWhile (· ∈ blanks)) := by
  -- What is left begins with a character that the first loop has stopped at, and ends with one of
  -- the second.
  constructor
  · intro c hc
    have hhead := head?_of_prefix (List.rdropWhile_prefix _ _) hc
    have hnot := List.head?_dropWhile_not (· ∈ blanks) text
    rw [hhead] at hnot
    simpa using hnot
  · intro c hc
    obtain ⟨hne, rfl⟩ := List.mem_getLast?_eq_getLast hc
    simpa using List.rdropWhile_last_not _ _ hne

/-- Blanks are trimmed off both ends, and nothing else. -/
theorem exists_trimBlank? (before middle after : Text) :
    ∃ lead core trail, middle = lead ++ core ++ trail ∧ Blank lead ∧ Blank trail ∧ Neat core ∧
      trimBlank? (before ++ middle ++ after).bytes
          ⟨byteLength before, byteLength (before ++ middle)⟩ =
        some ⟨byteLength (before ++ lead), byteLength (before ++ lead ++ core)⟩ := by
  have hmiddle := List.takeWhile_append_dropWhile (p := (· ∈ blanks)) (l := middle)
  have hrest := List.rdropWhile_append_rtakeWhile (p := (· ∈ blanks))
    (l := middle.dropWhile (· ∈ blanks))
  refine ⟨middle.takeWhile (· ∈ blanks), (middle.dropWhile (· ∈ blanks)).rdropWhile (· ∈ blanks),
    (middle.dropWhile (· ∈ blanks)).rtakeWhile (· ∈ blanks), ?_, ?_, ?_, neat_core middle, ?_⟩
  · rw [List.append_assoc, hrest, hmiddle]
  · intro c hc
    simpa using List.mem_takeWhile_imp hc
  · intro c hc
    simpa using List.mem_rtakeWhile_imp hc
  · have hskip := skipBlank?_eq before middle after
    -- The second loop reads what the first one has not moved over.
    have hdrop := dropBlank?_eq (before ++ middle.takeWhile (· ∈ blanks))
      (middle.dropWhile (· ∈ blanks)) after
    rw [List.append_assoc before, hmiddle] at hdrop
    have hcount : byteLength (before ++ middle) - byteLength before = byteLength middle := by
      rw [byteLength_append, Nat.add_sub_cancel_left]
    have hleft : byteLength (before ++ middle) - byteLength (before ++ middle.takeWhile (· ∈ blanks)) =
        byteLength (middle.dropWhile (· ∈ blanks)) := by
      have hlength := congrArg byteLength hmiddle
      rw [byteLength_append] at hlength
      rw [byteLength_append, byteLength_append]
      omega
    unfold trimBlank?
    simp only [hcount, hskip, hleft, hdrop, bind, Option.bind, pure]

/-! ## Pairs -/

/-- The bytes at the two ends of a piece of text belong to its first and its last character. -/
theorem exists_end_bytes (before after : Text) {piece others front : Text} {first last : Char}
    (hfirst : piece = first :: others) (hlast : piece = front ++ [last]) :
    (∃ b ∈ String.utf8EncodeChar first,
      (before ++ piece ++ after).bytes[byteLength before]? = some b) ∧
    ∃ b ∈ String.utf8EncodeChar last,
      (before ++ piece ++ after).bytes[byteLength (before ++ piece) - 1]? = some b := by
  constructor
  · obtain ⟨b, hb, hbyte⟩ := exists_byte before first (others ++ after) first.utf8Size_pos
    refine ⟨b, hb, ?_⟩
    rw [hfirst, List.append_assoc]
    exact hbyte
  · have hpos := last.utf8Size_pos
    obtain ⟨b, hb, hbyte⟩ := exists_byte (before ++ front) last after
      (Nat.sub_lt hpos Nat.zero_lt_one)
    refine ⟨b, hb, ?_⟩
    have hindex : byteLength (before ++ piece) - 1 =
        byteLength (before ++ front) + (last.utf8Size - 1) := by
      rw [hlast, byteLength_append, byteLength_append, byteLength_append, byteLength_cons,
        byteLength_nil]
      omega
    have htext : before ++ piece ++ after = before ++ front ++ last :: after := by simp [hlast]
    rw [hindex, htext]
    exact hbyte

/-- If no pair is around a piece of two bytes or more, its ends are no pair. -/
theorem not_mem_brackets {piece others front : Text} {first last : Char}
    (hfirst : piece = first :: others) (hlast : piece = front ++ [last]) (long : 2 ≤ byteLength piece)
    (bare : ∀ opening closing inner, (opening, closing) ∈ brackets →
      piece ≠ opening :: (inner ++ [closing])) :
    (first, last) ∉ brackets := by
  intro hpair
  obtain ⟨-, hsize⟩ := utf8Size_of_mem_brackets hpair
  cases front with
  | nil =>
    -- One character of one byte would be both ends.
    rw [hlast] at long
    simp [hsize] at long
  | cons c inner =>
    obtain rfl : c = first := (List.cons.inj (hlast.symm.trans hfirst)).1
    exact bare c last inner hpair hlast

/-- A piece of fewer than two bytes is no pair, so it stays. -/
theorem trimBrackets?_of_short {bytes : Array UInt8} {span : Span} {start stop : Nat}
    (ordered : span.start ≤ span.stop) (trimmed : trimBlank? bytes span = some ⟨start, stop⟩)
    (short : stop < start + 2) : trimBrackets? bytes span = some ⟨start, stop⟩ := by
  unfold trimBrackets?
  rw [if_neg (Nat.not_lt.2 ordered), trimmed]
  exact if_pos short

/-- Otherwise its two end bytes decide whether a pair is taken off. -/
theorem trimBrackets?_of_long {bytes : Array UInt8} {span : Span} {start stop : Nat}
    {opening closing : UInt8} (ordered : span.start ≤ span.stop)
    (trimmed : trimBlank? bytes span = some ⟨start, stop⟩) (long : start + 2 ≤ stop)
    (hopening : bytes[start]? = some opening) (hclosing : bytes[stop - 1]? = some closing) :
    trimBrackets? bytes span =
      if isPair opening closing then trimBlank? bytes ⟨start + 1, stop - 1⟩
      else some ⟨start, stop⟩ := by
  unfold trimBrackets?
  rw [if_neg (Nat.not_lt.2 ordered), trimmed]
  simp only [bind, Option.bind, pure, if_neg (Nat.not_lt.2 long), hopening, hclosing]

/-- Where no pair is left, nothing but blanks is trimmed off. -/
theorem trimBrackets?_of_bare {before core after : Text} {span : Span}
    (ordered : span.start ≤ span.stop)
    (trimmed : trimBlank? (before ++ core ++ after).bytes span =
      some ⟨byteLength before, byteLength (before ++ core)⟩)
    (bare : ∀ opening closing inner, (opening, closing) ∈ brackets →
      core ≠ opening :: (inner ++ [closing])) :
    trimBrackets? (before ++ core ++ after).bytes span =
      some ⟨byteLength before, byteLength (before ++ core)⟩ := by
  have hlength : byteLength (before ++ core) = byteLength before + byteLength core :=
    byteLength_append before core
  -- With two bytes or more the ends are looked at, and they are no pair; with fewer they are not.
  by_cases hlong : 2 ≤ byteLength core
  · have hne : core ≠ [] := by
      rintro rfl
      exact absurd hlong (by simp)
    obtain ⟨first, others, hfirst⟩ := List.exists_cons_of_ne_nil hne
    obtain ⟨front, last, hlast⟩ := (List.eq_nil_or_concat' core).resolve_left hne
    obtain ⟨⟨a, ha, hopening⟩, b, hb, hclosing⟩ := exists_end_bytes before after hfirst hlast
    have hends := not_mem_brackets hfirst hlast hlong bare
    rw [trimBrackets?_of_long ordered trimmed (by omega) hopening hclosing,
      if_neg (mt (isPair_iff ha hb).1 hends)]
  · exact trimBrackets?_of_short ordered trimmed (by omega)

/-- Where a pair is left, it is trimmed off with the blanks inside it. -/
theorem exists_trimBrackets?_of_pair {before inner after : Text} {opening closing : Char} {span : Span}
    (ordered : span.start ≤ span.stop) (pair : (opening, closing) ∈ brackets)
    (trimmed : trimBlank? (before ++ opening :: (inner ++ [closing]) ++ after).bytes span =
      some ⟨byteLength before, byteLength (before ++ opening :: (inner ++ [closing]))⟩) :
    ∃ inside rest outside, inner = inside ++ rest ++ outside ∧ Blank inside ∧ Blank outside ∧
      Neat rest ∧
      trimBrackets? (before ++ opening :: (inner ++ [closing]) ++ after).bytes span =
        some ⟨byteLength (before ++ opening :: inside),
          byteLength (before ++ opening :: inside ++ rest)⟩ := by
  obtain ⟨hopeningSize, hclosingSize⟩ := utf8Size_of_mem_brackets pair
  have hlength : byteLength (before ++ opening :: (inner ++ [closing])) =
      byteLength (before ++ [opening] ++ inner) + 1 := by
    simp [hopeningSize, hclosingSize]
    omega
  have hstart : byteLength (before ++ [opening]) = byteLength before + 1 := by simp [hopeningSize]
  have hends : opening :: (inner ++ [closing]) = (opening :: inner) ++ [closing] := rfl
  obtain ⟨⟨a, ha, hopening⟩, b, hb, hclosing⟩ := exists_end_bytes before after rfl hends
  have hlong : byteLength before + 2 ≤ byteLength (before ++ opening :: (inner ++ [closing])) := by
    rw [hlength, byteLength_append (before ++ [opening]), hstart]
    omega
  -- Between the two ends of the pair is the piece that is trimmed again.
  have htext : before ++ opening :: (inner ++ [closing]) ++ after =
      before ++ [opening] ++ inner ++ closing :: after := by simp
  obtain ⟨inside, rest, outside, hinner, hinside, houtside, hrest, htrim⟩ :=
    exists_trimBlank? (before ++ [opening]) inner (closing :: after)
  refine ⟨inside, rest, outside, hinner, hinside, houtside, hrest, ?_⟩
  rw [trimBrackets?_of_long ordered trimmed hlong hopening hclosing,
    if_pos ((isPair_iff ha hb).2 pair), htext, hlength, Nat.add_sub_cancel, ← hstart, htrim]
  simp

/-- A piece of text is trimmed to a part of it, with blanks and at most one pair around. -/
theorem exists_trimBrackets? (before middle after : Text) :
    ∃ front rest back, middle = front ++ rest ++ back ∧ Trimmed middle (byteLength front) rest ∧
      Neat rest ∧
      trimBrackets? (before ++ middle ++ after).bytes
          ⟨byteLength before, byteLength (before ++ middle)⟩ =
        some ⟨byteLength (before ++ front), byteLength (before ++ front ++ rest)⟩ := by
  obtain ⟨lead, core, trail, rfl, hlead, htrail, hneat, htrim⟩ := exists_trimBlank? before middle after
  have hordered : byteLength before ≤ byteLength (before ++ (lead ++ core ++ trail)) := by
    rw [byteLength_append]
    exact Nat.le_add_right _ _
  have htext : before ++ (lead ++ core ++ trail) ++ after =
      before ++ lead ++ core ++ (trail ++ after) := by simp
  rw [htext] at htrim ⊢
  -- Either no pair is left around what is between the blanks, or one is.
  by_cases hbare : ∀ opening closing inner, (opening, closing) ∈ brackets →
      core ≠ opening :: (inner ++ [closing])
  · exact ⟨lead, core, trail, rfl, .blanks hlead htrail hbare, hneat,
      trimBrackets?_of_bare hordered htrim hbare⟩
  · obtain ⟨opening, closing, inner, hpair, rfl⟩ : ∃ opening closing inner,
        (opening, closing) ∈ brackets ∧ core = opening :: (inner ++ [closing]) := by
      simpa using hbare
    obtain ⟨inside, rest, outside, rfl, hinside, houtside, hrest, htrim'⟩ :=
      exists_trimBrackets?_of_pair hordered hpair htrim
    have hpiece : lead ++ opening :: (inside ++ rest ++ outside ++ [closing]) ++ trail =
        lead ++ opening :: (inside ++ rest ++ outside) ++ closing :: trail := by simp
    have hoffset : byteLength (lead ++ opening :: inside) =
        byteLength lead + 1 + byteLength inside := by
      rw [byteLength_append, byteLength_cons, (utf8Size_of_mem_brackets hpair).1, Nat.add_assoc]
    refine ⟨lead ++ opening :: inside, rest, outside ++ closing :: trail, by simp, ?_, hrest, ?_⟩
    · rw [hpiece, hoffset]
      exact .pair hlead hpair hinside houtside htrail
    · rw [htrim', List.append_assoc before]

/-- An extent between two characters can be trimmed. -/
theorem bracketTrimmer?_of_admits {text : Text} {extent : Extent} (admits : text.Admits extent.span) :
    text.bracketTrimmer? extent = some (text.bracketTrimmer extent) := by
  obtain ⟨before, piece, after, rfl, hbefore, hpiece⟩ := admits.parts
  obtain ⟨front, rest, back, -, -, -, htrim⟩ := exists_trimBrackets? before piece after
  have hspan : extent.span = ⟨byteLength before, byteLength (before ++ piece)⟩ := by
    rw [byteLength_append, hbefore, hpiece, Nat.add_sub_cancel' admits.ordered]
  unfold bracketTrimmer bracketTrimmer?
  rw [hspan, htrim]
  rfl

/-- In a tree whose nodes around a position stand between characters of the text, growing selections
    there never fails to trim. -/
theorem selections?_of_admits {tree : SyntaxTree} {text : Text} {position : Nat}
    (admits : ∀ start, tree.containing ⟨position, position⟩ = .ok start →
      ∀ id ∈ tree.ancestors start, text.Admits (tree.extent id).span) :
    tree.selections? text position text.bracketTrimmer? =
      some (tree.selections text position text.bracketTrimmer) := by
  unfold SyntaxTree.selections?
  cases hstart : tree.containing ⟨position, position⟩ with
  | error error =>
    unfold SyntaxTree.selections
    rw [hstart]
    rfl
  | ok start =>
    -- Every extent on the way up can be trimmed.
    have hall : ((tree.ancestors start).all fun id =>
        (text.bracketTrimmer? (tree.extent id)).isSome) = true := by
      refine List.all_eq_true.2 fun id hid => ?_
      rw [bracketTrimmer?_of_admits (admits start hstart id hid)]
      rfl
    dsimp only
    rw [if_pos hall]
    rfl

/-- A span between two characters is trimmed without a byte taken past the end of the text, and no end
    comes before its start on the way.  What is left lies in the span and between two characters too; it
    neither begins nor ends with a blank, and around it are blanks and one pair, or blanks only and no
    pair is left. -/
theorem trimming_exact {text : Text} {extent : Extent} (admits : text.Admits extent.span) :
    let inner := text.bracketTrimmer extent
    trimBrackets? text.bytes extent.span = some inner.span ∧
    (∃ outer, trimBlank? text.bytes extent.span = some outer ∧ outer.start ≤ outer.stop) ∧
    inner = .ofSpan text inner.span ∧
    extent.start ≤ inner.start ∧ inner.stop ≤ extent.stop ∧ text.Admits inner.span ∧
    ∃ piece rest offset, text.slice extent.span = .ok piece ∧ text.slice inner.span = .ok rest ∧
      inner.start = extent.start + offset ∧ Trimmed piece offset rest ∧ Neat rest := by
  obtain ⟨before, piece, after, rfl, hbefore, hpiece⟩ := admits.parts
  have hspan : extent.span = ⟨byteLength before, byteLength (before ++ piece)⟩ := by
    have hordered := admits.ordered
    rw [byteLength_append, hbefore, hpiece, Nat.add_sub_cancel' hordered]
  obtain ⟨hstart, hstop⟩ := Span.mk.inj hspan
  obtain ⟨lead, core, -, -, -, -, -, houter⟩ := exists_trimBlank? before piece after
  obtain ⟨front, rest, back, rfl, htrimmed, hneat, htrim⟩ := exists_trimBrackets? before piece after
  rw [← hspan] at houter htrim
  -- The text is cut where what is left begins and ends.
  have htext : before ++ (front ++ rest ++ back) ++ after =
      before ++ front ++ rest ++ (back ++ after) := by simp
  have hadmits := admits_append (before ++ front) rest (back ++ after)
  have hslice := slice_append (before ++ front) rest (back ++ after)
  rw [← htext] at hadmits hslice
  have htrimmer : bracketTrimmer (before ++ (front ++ rest ++ back) ++ after) extent =
      .ofSpan (before ++ (front ++ rest ++ back) ++ after)
        ⟨byteLength (before ++ front), byteLength (before ++ front ++ rest)⟩ := by
    unfold bracketTrimmer bracketTrimmer?
    simp only [htrim, Option.map_some, Option.getD_some]
  intro inner
  simp only [inner, htrimmer]
  refine ⟨htrim, ⟨_, houter, ?_⟩, rfl, ?_, ?_, hadmits, front ++ rest ++ back, rest, byteLength front, ?_,
    hslice, ?_, htrimmed, hneat⟩
  · rw [byteLength_append (before ++ lead)]
    exact Nat.le_add_right _ _
  · show extent.start ≤ byteLength (before ++ front)
    rw [hstart, byteLength_append]
    exact Nat.le_add_right _ _
  · show byteLength (before ++ front ++ rest) ≤ extent.stop
    rw [hstop]
    simp only [byteLength_append]
    omega
  · rw [hspan]
    exact slice_append before _ after
  · show byteLength (before ++ front) = extent.start + byteLength front
    rw [hstart, byteLength_append]

/-- Of two pairs only the one outside is taken off, and characters of two bytes are left whole. -/
theorem trimming_exact_accented :
    let text : Text := ['é', ' ', '(', ' ', '[', 'é', ']', '\n', ')', 'é']
    let extent : Extent := .ofSpan text ⟨2, 11⟩
    text.Admits extent.span ∧ (text.bracketTrimmer extent).span = ⟨5, 9⟩ ∧
      text.Admits ⟨5, 9⟩ ∧ ∃ piece rest offset, text.slice ⟨2, 11⟩ = .ok piece ∧
        text.slice ⟨5, 9⟩ = .ok rest ∧ 5 = 2 + offset ∧ Trimmed piece offset rest ∧ Neat rest := by
  intro text extent
  have admits : text.Admits extent.span := checkSpan_eq_ok_iff.1 rfl
  obtain ⟨htrim, -, -, -, -, hadmits, hparts⟩ := trimming_exact admits
  have hspan : (text.bracketTrimmer extent).span = ⟨5, 9⟩ :=
    Option.some.inj (htrim.symm.trans (by decide))
  have hstart : (text.bracketTrimmer extent).start = 5 := congrArg Span.start hspan
  rw [hspan] at hadmits hparts
  rw [hstart] at hparts
  exact ⟨admits, hspan, hadmits, hparts⟩

end Text

end LiveTree
