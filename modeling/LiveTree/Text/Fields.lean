import LiveTree.Text

/-!
# Fields and numbers in a text

A text is cut into fields at separators, or into words at blanks, and the digits of a field are read
as a number.
-/

namespace LiveTree.Text

/-- The parts of a text between the places of a separator. -/
def fields (separates : Char → Bool) : Text → List Text
  | [] => [[]]
  | c :: rest =>
    if separates c then [] :: fields separates rest
    else
      match fields separates rest with
      | [] => [[c]]
      | first :: others => (c :: first) :: others

/-- The parts with a separator between them. -/
def joined (separator : Text) (parts : List Text) : Text := (parts.intersperse separator).flatten

/-- The parts of a text between blanks. -/
def words (text : Text) : List Text :=
  (text.splitBy fun a b => a.isWhitespace == b.isWhitespace).filter (·.any (!·.isWhitespace))

/-- The value of a digit in a base of at most sixteen. -/
def digit? (base : Nat) (c : Char) : Option Nat :=
  let value :=
    if '0' ≤ c ∧ c ≤ '9' then c.toNat - '0'.toNat
    else if 'a' ≤ c ∧ c ≤ 'f' then c.toNat - 'a'.toNat + 10
    else if 'A' ≤ c ∧ c ≤ 'F' then c.toNat - 'A'.toNat + 10
    else base
  if value < base then some value else none

/-- The value of digits in a base; no digits are worth nothing. -/
def number? (base : Nat) (digits : Text) : Option Nat := do
  return (← digits.mapM (digit? base)).foldl (fun value digit => value * base + digit) 0

end LiveTree.Text
