import LiveTree.Text

/-!
# Cutting a text into pieces

A text is cut into pieces of about the same number of bytes, only between characters: a piece that
would end inside a character goes on to the end of that character.
-/

namespace LiveTree.Text

/-- The shortest beginning of a text that has at least the given number of bytes, behind what has
    already been passed (last character first), and the rest of the text. -/
def takeFrom (passed : List Char) : Text → Nat → Text × Text
  | rest, 0 => (passed.reverse, rest)
  | [], _ + 1 => (passed.reverse, [])
  | c :: rest, n + 1 => takeFrom (c :: passed) rest (n + 1 - c.utf8Size)

/-- What is left behind the first piece is no longer than the text. -/
theorem length_takeFrom_le (passed : List Char) (text : Text) (n : Nat) :
    (takeFrom passed text n).2.length ≤ text.length := by
  fun_induction takeFrom passed text n with
  | case1 => exact Nat.le_refl _
  | case2 => exact Nat.le_refl _
  | case3 passed c rest n ih => exact Nat.le_succ_of_le ih

/-- The pieces of a text, each the shortest one with at least `size` bytes and at least one character;
    the last may be shorter. -/
def piecesOfSize (size : Nat) : Text → List Text
  | [] => []
  | c :: rest =>
    let parts := takeFrom [c] rest (size - c.utf8Size)
    parts.1 :: piecesOfSize size parts.2
termination_by text => text.length
decreasing_by
  -- At least one character has been taken.
  have := length_takeFrom_le [c] rest (size - c.utf8Size)
  simp only [List.length_cons]
  omega

/-- A text in at most `count` pieces. -/
def pieces (text : Text) (count : Nat) : List Text :=
  text.piecesOfSize (max ((text.byteLength + count - 1) / count) 1)

end LiveTree.Text
