/-!
# Texts addressed by byte offsets

A text is the list of its characters.  Every offset into it counts UTF-8 bytes, so an offset may
fall inside a character; `Text.cut?` is the one place where that matters, and the operations that
need a character boundary are all written with it.

* `cut?` splits a text at an offset, or answers `none` off a boundary or past the end.
* `slice?` and `splice?` read and replace a byte interval by way of two cuts.
* `bytes` is the UTF-8 form, for the few operations that look at single bytes.
-/

namespace LiveTree

/-- A text: its characters in order. -/
abbrev Text := List Char

namespace Text

/-- Length in UTF-8 bytes. -/
def byteLength (text : Text) : Nat := text.foldl (fun length c => length + c.utf8Size) 0

/-- Counting on from `init` adds the length of the text. -/
theorem foldl_utf8Size (text : Text) (init : Nat) :
    text.foldl (fun length c => length + c.utf8Size) init = init + byteLength text := by
  -- By induction on the text, with the count so far free.
  induction text generalizing init with
  | nil => rfl
  | cons c rest ih =>
    have h : byteLength (c :: rest) = 0 + c.utf8Size + byteLength rest := ih (0 + c.utf8Size)
    rw [List.foldl_cons, ih, h]
    omega

/-- The empty text has no bytes. -/
@[simp] theorem byteLength_nil : byteLength [] = 0 := rfl

/-- The first character has its own bytes, and the rest follows. -/
@[simp] theorem byteLength_cons (c : Char) (text : Text) :
    byteLength (c :: text) = c.utf8Size + byteLength text := by
  rw [byteLength, List.foldl_cons, foldl_utf8Size]; omega

/-- Two texts have the bytes of both. -/
@[simp] theorem byteLength_append (a b : Text) :
    byteLength (a ++ b) = byteLength a + byteLength b := by
  induction a with
  | nil => simp
  | cons c rest ih => simp only [List.cons_append, byteLength_cons, ih]; omega

/-- Backwards a text has as many bytes. -/
@[simp] theorem byteLength_reverse (text : Text) : byteLength text.reverse = byteLength text := by
  induction text with
  | nil => rfl
  | cons c rest ih =>
    simp only [List.reverse_cons, byteLength_append, byteLength_cons, byteLength_nil, ih]; omega

/-- `cut?` with the characters already passed, last one first. -/
def cutFrom (passed : List Char) : Text → Nat → Option (Text × Text)
  | rest, 0 => some (passed.reverse, rest)
  | [], _ + 1 => none
  | c :: rest, n + 1 =>
    if c.utf8Size ≤ n + 1 then cutFrom (c :: passed) rest (n + 1 - c.utf8Size) else none

/-- The two parts of a text before and after a byte offset; `none` when the offset is past the end
    or inside a character. -/
def cut? (text : Text) (offset : Nat) : Option (Text × Text) := cutFrom [] text offset

/-- The characters that have been passed and the rest are those of the text. -/
theorem cutFrom_eq_some {passed text : List Char} {n : Nat} {parts : Text × Text}
    (h : cutFrom passed text n = some parts) :
    passed.reverse ++ text = parts.1 ++ parts.2 ∧
      byteLength parts.1 = byteLength passed + n := by
  -- By induction on the text, with what has been passed and the bytes to go free.
  induction text generalizing passed n with
  | nil =>
    cases n with
    | zero =>
      simp only [cutFrom, Option.some.injEq] at h
      subst h
      simp
    | succ n => simp [cutFrom] at h
  | cons c rest ih =>
    cases n with
    | zero =>
      simp only [cutFrom, Option.some.injEq] at h
      subst h
      simp
    | succ n =>
      simp only [cutFrom] at h
      split at h
      -- The character ends at the offset or before it, so it is passed.
      · next hle =>
        obtain ⟨h₁, h₂⟩ := ih h
        refine ⟨by simpa using h₁, ?_⟩
        simp only [byteLength_cons] at h₂
        omega
      · exact absurd h (by simp)

/-- A cut loses nothing, and its first part is as long as the offset says. -/
theorem cut?_eq_some {text : Text} {n : Nat} {parts : Text × Text}
    (h : cut? text n = some parts) :
    text = parts.1 ++ parts.2 ∧ byteLength parts.1 = n := by
  have := cutFrom_eq_some h
  simpa using this

/-- Whether a byte offset lies on a character boundary of the text, its two ends included. -/
def isBoundary (text : Text) (offset : Nat) : Bool := (cut? text offset).isSome

/-- The characters between two byte offsets; `none` unless both are boundaries and in order. -/
def slice? (text : Text) (start stop : Nat) : Option Text := do
  if stop < start then none
  let (_, rest) ← cut? text start
  let (middle, _) ← cut? rest (stop - start)
  return middle

/-- The text with the bytes from `start` to `stop` replaced by `new`; `none` unless both are
    boundaries and in order. -/
def splice? (text : Text) (start stop : Nat) (new : Text) : Option Text := do
  if stop < start then none
  let (before, rest) ← cut? text start
  let (_, after) ← cut? rest (stop - start)
  return before ++ new ++ after

/-- The UTF-8 bytes of a text. -/
def bytes (text : Text) : Array UInt8 := (text.flatMap String.utf8EncodeChar).toArray

end Text

end LiveTree
