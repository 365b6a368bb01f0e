import LiveTree.Uri.Escape

/-!
# Punycode

A label of a host name with letters outside of ASCII is written with ASCII letters and digits: first
its ASCII characters, then, in the order of their code points, where each of the others is to be
inserted.  An insertion is told as the number of places passed since the last one, written with digits
of varying weight, lowest first; the `bias` keeps usual numbers short.  `Punycode.encode` writes a label
so, and `Punycode.decode?` reads it.
-/

namespace LiveTree.Uri.Punycode

/-- The digit of a value below 36: letters first, then digits. -/
def digit (value : Nat) : Char :=
  if value < 26 then Char.ofNat ('a'.toNat + value) else Char.ofNat ('0'.toNat + (value - 26))

/-- The least value of a last digit, for the digit at position `position`. -/
def threshold (bias position : Nat) : Nat := min 26 (max 1 (36 * (position + 1) - bias))

/-- There is always a digit that can stand last, and one that cannot. -/
theorem threshold_bounds (bias position : Nat) :
    1 ≤ threshold bias position ∧ threshold bias position ≤ 26 := by
  unfold threshold
  omega

/-- A number, with the digits from position `position` on. -/
def numeral (bias position : Nat) (value : Nat) : Text :=
  let least := threshold bias position
  if value < least then [digit value]
  else
    digit (least + (value - least) % (36 - least)) ::
      numeral bias (position + 1) ((value - least) / (36 - least))
termination_by value
decreasing_by
  have bounds := threshold_bounds bias position
  have : (value - threshold bias position) / (36 - threshold bias position) ≤
      value - threshold bias position := Nat.div_le_self _ _
  omega

/-- The bias for numbers about as large as `size`, counting from `bias` on. -/
def biasFrom (bias : Nat) (size : Nat) : Nat :=
  if 455 < size then biasFrom (bias + 36) (size / 35) else bias + 36 * size / (size + 38)
termination_by size
decreasing_by omega

/-- The bias after a number, when there are `count` characters; the first number is usually much
    larger than the others. -/
def adapted (number count : Nat) (first : Bool) : Nat :=
  let scaled := if first then number / 700 else number / 2
  biasFrom 0 (scaled + scaled / count)

/-- A label half written: the next code point to insert, the places passed, the bias, the number of
    characters told so far, and the digits, last one first. -/
structure Progress where
  next : Nat
  passed : Nat
  bias : Nat
  told : Nat
  first : Bool
  digits : Text

/-- Passes one character of the label while those of code point `next` are inserted. -/
def Progress.pass (progress : Progress) (c : Char) : Progress :=
  if c.toNat < progress.next then { progress with passed := progress.passed + 1 }
  else if c.toNat = progress.next then
    { progress with
      passed := 0
      bias := adapted progress.passed (progress.told + 1) progress.first
      told := progress.told + 1
      first := false
      digits := progress.digits ++ numeral progress.bias 0 progress.passed }
  else progress

/-- Inserts all characters with a code point. -/
def Progress.insert (label : Text) (progress : Progress) (point : Nat) : Progress :=
  let ready := { progress with
    next := point
    passed := progress.passed + (point - progress.next) * (progress.told + 1) }
  let done := label.foldl Progress.pass ready
  { done with next := point + 1, passed := done.passed + 1 }

/-- A label in ASCII. -/
def encode (label : Text) : Text :=
  let basic := label.filter (·.toNat < 128)
  let others := ((label.filter (128 ≤ ·.toNat)).map Char.toNat).eraseDups.mergeSort
  let start : Progress := ⟨128, 0, 72, basic.length, true, []⟩
  (if basic.isEmpty then [] else basic ++ ['-']) ++ (others.foldl (Progress.insert label) start).digits

/-! ## Reading -/

/-- The value of a digit. -/
def value? (c : Char) : Option Nat :=
  if 'a' ≤ c ∧ c ≤ 'z' then some (c.toNat - 'a'.toNat)
  else if '0' ≤ c ∧ c ≤ '9' then some (c.toNat - '0'.toNat + 26)
  else none

/-- Adds the number in front of a text to `sum`, from the digit at `position` on, and answers what
    follows it.  Sums and weights have 32 bits. -/
def add? (bias position weight sum : Nat) : Text → Option (Nat × Text)
  | [] => none
  | c :: rest => do
    let value ← value? c
    let sum := sum + value * weight
    let least := threshold bias position
    if UInt32.size ≤ sum then none
    else if value < least then some (sum, rest)
    else if UInt32.size ≤ weight * (36 - least) then none
    else add? bias (position + 1) (weight * (36 - least)) sum rest

/-- Every number has a digit. -/
theorem length_of_add? {bias position weight sum total : Nat} {digits rest : Text}
    (h : add? bias position weight sum digits = some (total, rest)) : rest.length < digits.length := by
  induction digits generalizing position weight sum with
  | nil => cases h
  | cons c digits ih =>
    simp only [add?, Option.bind_eq_bind, Option.bind_eq_some_iff] at h
    obtain ⟨value, _, h⟩ := h
    split at h
    · cases h
    · split at h
      · simp only [Option.some.injEq, Prod.mk.injEq] at h
        simp [h.2]
      · split at h
        · cases h
        · exact Nat.lt_succ_of_lt (ih h)

/-- A label half read: the code point of the last insertion, the place where the search for the next one
    starts, the bias, and the characters so far. -/
structure Reading where
  point : Nat
  place : Nat
  bias : Nat
  label : Text

/-- Makes an insertion, given the places passed since the start; `none` if there is no such
    character. -/
def Reading.insert? (reading : Reading) (total : Nat) : Option Reading :=
  let count := reading.label.length + 1
  let point := reading.point + total / count
  let place := total % count
  if point.isValidChar then
    some {
      point
      place := place + 1
      bias := adapted (total - reading.place) count (reading.place == 0)
      label := reading.label.insertIdx place (Char.ofNat point) }
  else none

/-- Makes the insertions that digits tell. -/
def Reading.run? (reading : Reading) (digits : Text) : Option Text :=
  if digits.isEmpty then some reading.label
  else
    match _h : add? reading.bias 0 1 reading.place digits with
    | none => none
    | some (total, rest) =>
      match reading.insert? total with
      | none => none
      | some reading => reading.run? rest
termination_by digits.length
decreasing_by exact length_of_add? _h

/-- The label that is written in ASCII as a text.  The ASCII characters stand before the last hyphen; a
    hyphen with nothing before it is none that divides. -/
def decode? (text : Text) : Option Text :=
  let digits := (text.reverse.takeWhile (· ≠ '-')).reverse
  let basic := (text.take (text.length - digits.length)).dropLast
  if text.all (·.toNat < 128) then
    Reading.run? ⟨128, 0, 72, basic⟩ (if basic.isEmpty then text else digits)
  else none

end LiveTree.Uri.Punycode
