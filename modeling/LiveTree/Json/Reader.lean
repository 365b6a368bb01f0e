import LiveTree.Json
import LiveTree.Text.Fields

/-!
# Reading JSON

A recursive-descent reader for JSON texts.  `Json.read?` accepts a text if it is one value between
blanks.  The reader takes a bound on the number of steps; every two steps consume a character, so
twice the length of the text is enough.
-/

namespace LiveTree.Json

/-- Drops blanks. -/
def skipBlanks (text : List Char) : List Char :=
  text.dropWhile fun c => c == ' ' || c == '\n' || c == '\t' || c == '\r'

/-- The value of four hexadecimal digits. -/
def hexCode? (a b c d : Char) : Option Nat := Text.number? 16 [a, b, c, d]

/-- The character of a one-letter escape. -/
def simpleEscape? (c : Char) : Option Char :=
  if c == '"' || c == '\\' || c == '/' then some c
  else if c == 'b' then some '\x08'
  else if c == 'f' then some '\x0c'
  else if c == 'n' then some '\n'
  else if c == 'r' then some '\r'
  else if c == 't' then some '\t'
  else none

/-- Whether a code is the first half of a surrogate pair. -/
def isHighHalf (code : Nat) : Bool := 0xd800 ≤ code && code ≤ 0xdbff

/-- Whether a code is the second half of a surrogate pair. -/
def isLowHalf (code : Nat) : Bool := 0xdc00 ≤ code && code ≤ 0xdfff

/-- The character of a surrogate pair. -/
def joinHalves (high low : Nat) : Char :=
  Char.ofNat (0x10000 + (high - 0xd800) * 0x400 + (low - 0xdc00))

/-- A string in progress: its characters so far, last one first, or nothing once an escape denoted
    no character; and the first half of a surrogate pair that waits for its second. -/
structure Spelling where
  chars : Option (List Char) := some []
  high : Option Nat := none

namespace Spelling

/-- Adds a character.  A waiting half of a pair is then lost. -/
def add (s : Spelling) (c : Char) : Spelling :=
  ⟨if s.high.isSome then none else s.chars.map (c :: ·), none⟩

/-- Adds a numeric escape, which may be half of a pair. -/
def addCode (s : Spelling) (code : Nat) : Spelling :=
  match s.high with
  | some high =>
    if isLowHalf code then ⟨s.chars.map (joinHalves high code :: ·), none⟩
    else ⟨none, none⟩
  | none =>
    if isHighHalf code then ⟨s.chars, some code⟩
    else if isLowHalf code then ⟨none, none⟩
    else s.add (Char.ofNat code)

/-- The text of a finished string, if it has one. -/
def text? (s : Spelling) : Option String :=
  if s.high.isSome then none else s.chars.map fun chars => String.ofList chars.reverse

end Spelling

/-- Reads a string after its opening quote. -/
def readString (s : Spelling) : List Char → Option (Option String × List Char)
  | [] => none
  | '"' :: rest => some (s.text?, rest)
  | '\\' :: 'u' :: a :: b :: c :: d :: rest =>
    match hexCode? a b c d with
    | some code => readString (s.addCode code) rest
    | none => none
  | '\\' :: c :: rest =>
    match simpleEscape? c with
    | some c => readString (s.add c) rest
    | none => none
  | c :: rest => if c < ' ' then none else readString (s.add c) rest

/-- Splits off the digits at the front of a text. -/
def digits (text : List Char) : List Char × List Char :=
  (text.takeWhile Char.isDigit, text.dropWhile Char.isDigit)

/-- Reads the fraction of a number, if there is one. -/
def readFraction : List Char → Option (Bool × List Char)
  | '.' :: rest =>
    let (figures, rest) := digits rest
    if figures.isEmpty then none else some (true, rest)
  | rest => some (false, rest)

/-- Reads the exponent of a number, if there is one. -/
def readExponent : List Char → Option (Bool × List Char)
  | c :: rest =>
    if c == 'e' || c == 'E' then
      let unsigned := match rest with
        | '+' :: rest => rest
        | '-' :: rest => rest
        | rest => rest
      let (figures, rest) := digits unsigned
      if figures.isEmpty then none else some (true, rest)
    else some (false, c :: rest)
  | [] => some (false, [])

/-- Reads a number.  A minus sign, a fraction or an exponent makes it other than natural, whatever
    its value. -/
def readNumber (text : List Char) : Option (Json × List Char) := do
  let (negative, text) := match text with
    | '-' :: rest => (true, rest)
    | text => (false, text)
  let (figures, rest) := digits text
  if figures.isEmpty then none
  -- A leading zero stands alone.
  if figures.head? == some '0' && figures.length ≠ 1 then none
  let (fraction, rest) ← readFraction rest
  let (scaled, rest) ← readExponent rest
  if negative || fraction || scaled then return (.otherNumber, rest)
  return (.natural (figures.foldl (fun n c => n * 10 + (c.toNat - '0'.toNat)) 0), rest)

mutual

/-- Reads a value after any blanks. -/
def readValue : Nat → List Char → Option (Json × List Char)
  | 0, _ => none
  | steps + 1, text =>
    match skipBlanks text with
    | 'n' :: 'u' :: 'l' :: 'l' :: rest => some (.null, rest)
    | 't' :: 'r' :: 'u' :: 'e' :: rest => some (.bool true, rest)
    | 'f' :: 'a' :: 'l' :: 's' :: 'e' :: rest => some (.bool false, rest)
    | '"' :: rest => (readString {} rest).map fun (text, rest) => (.string text, rest)
    | '[' :: rest =>
      match skipBlanks rest with
      | ']' :: rest => some (.array [], rest)
      | _ => (readItems steps rest).map fun (items, rest) => (.array items, rest)
    | '\x7b' :: rest =>
      match skipBlanks rest with
      | '\x7d' :: rest => some (.object [], rest)
      | _ => (readMembers steps rest).map fun (members, rest) => (.object members, rest)
    | other => readNumber other

/-- Reads the items of an array up to its closing bracket. -/
def readItems : Nat → List Char → Option (List Json × List Char)
  | 0, _ => none
  | steps + 1, text => do
    let (item, rest) ← readValue steps text
    match skipBlanks rest with
    | ',' :: rest =>
      let (items, rest) ← readItems steps rest
      return (item :: items, rest)
    | ']' :: rest => return ([item], rest)
    | _ => none

/-- Reads the members of an object up to its closing brace. -/
def readMembers : Nat → List Char → Option (List (Option String × Json) × List Char)
  | 0, _ => none
  | steps + 1, text => do
    match skipBlanks text with
    | '"' :: rest =>
      let (name, rest) ← readString {} rest
      match skipBlanks rest with
      | ':' :: rest =>
        let (value, rest) ← readValue steps rest
        match skipBlanks rest with
        | ',' :: rest =>
          let (members, rest) ← readMembers steps rest
          return ((name, value) :: members, rest)
        | '\x7d' :: rest => return ([(name, value)], rest)
        | _ => none
      | _ => none
    | _ => none

end

/-- Reads a text that holds one value and nothing else. -/
def read? (text : List Char) : Option Json :=
  match readValue (2 * text.length + 2) text with
  | some (value, rest) => if (skipBlanks rest).isEmpty then some value else none
  | none => none

end LiveTree.Json
