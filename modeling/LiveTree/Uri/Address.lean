import LiveTree.Uri.Escape

/-!
# Numeric addresses

Hosts can be given by number.  An address of 32 bits is up to four numbers with dots between, of which
the last takes all bytes that the others leave; an address of 128 bits is eight groups of hexadecimal
digits with colons between, where two colons stand for as many groups of zeros as are missing.
-/

namespace LiveTree.Uri

/-! ## 32 bits -/

/-- A number of an address: hexadecimal after `0x`, octal after another zero, else decimal. -/
def addressNumber? : Text → Option Nat
  | [] => none
  | '0' :: 'x' :: digits => Text.number? 16 digits
  | '0' :: 'X' :: digits => Text.number? 16 digits
  | '0' :: digit :: digits => Text.number? 8 (digit :: digits)
  | digits => Text.number? 10 digits

/-- The labels of a name without the empty one at its end. -/
def withoutRoot (labels : List Text) : List Text :=
  if labels.getLast? = some [] then labels.dropLast else labels

/-- Whether a name can only be an address: its last label is a number, or would be. -/
def endsInNumber (labels : List Text) : Bool :=
  match (withoutRoot labels).getLast? with
  | none | some [] => false
  | some label => label.all Char.isDigit || (addressNumber? label).isSome

/-- The address that labels stand for. -/
def ipv4? (labels : List Text) : Option Nat := do
  let numbers ← (withoutRoot labels).mapM addressNumber?
  let last ← numbers.getLast?
  let front := numbers.dropLast
  -- Each number but the last takes one byte, from the highest on.
  let (weight, value) := front.foldl
    (fun (weight, value) number => (weight / 256, value + number * weight)) (0x1000000, 0)
  if 3 < front.length ∨ front.any (255 < ·) ∨ 256 * weight ≤ last then none
  else some (value + last)

/-- An address as four decimal numbers. -/
def renderIpv4 (address : Nat) : Text :=
  Text.joined ['.'] <| [0x1000000, 0x10000, 0x100, 1].map fun weight =>
    Nat.toDigits 10 (address / weight % 256)

/-! ## 128 bits -/

/-- A group of one to four hexadecimal digits. -/
def group? (text : Text) : Option Nat :=
  if text.isEmpty || 4 < text.length then none else Text.number? 16 text

/-- A decimal byte, without leading zeros. -/
def byte? (text : Text) : Option Nat := do
  let value ← Text.number? 10 text
  if text.isEmpty || (1 < text.length && text.head? == some '0') || 255 < value then none
  else some value

/-- Two groups written as four decimal bytes. -/
def quad? (text : Text) : Option (List Nat) :=
  match Text.fields (· == '.') text with
  | [a, b, c, d] => do
    return [256 * (← byte? a) + (← byte? b), 256 * (← byte? c) + (← byte? d)]
  | _ => none

/-- Groups with colons between; at the end of an address the last two may be decimal. -/
def groups? (atEnd : Bool) (text : Text) : Option (List Nat) :=
  if text.isEmpty then some []
  else
    let parts := Text.fields (· == ':') text
    let last := parts.getLast?.getD []
    if atEnd && last.contains '.' then do
      return (← parts.dropLast.mapM group?) ++ (← quad? last)
    else parts.mapM group?

/-- The texts before and after the first two colons in a row. -/
def splitGap? : Text → Option (Text × Text)
  | ':' :: ':' :: rest => some ([], rest)
  | c :: rest => (splitGap? rest).map fun (before, after) => (c :: before, after)
  | [] => none

/-- The eight groups of an address. -/
def ipv6? (text : Text) : Option (List Nat) :=
  match splitGap? text with
  | none => do
    let groups ← groups? true text
    if groups.length = 8 then some groups else none
  | some (before, after) => do
    let front ← groups? false before
    let back ← groups? true after
    if front.length + back.length < 8 then
      some (front ++ List.replicate (8 - (front.length + back.length)) 0 ++ back)
    else none

/-- The number of zeros in front of a list. -/
def leadingZeros (groups : List Nat) : Nat := (groups.takeWhile (· == 0)).length

/-- Groups with colons between. -/
def renderGroups (groups : List Nat) : Text := Text.joined [':'] (groups.map (Nat.toDigits 16))

/-- An address with its longest run of at least two zeros, the first of several, as two colons. -/
def renderIpv6 (groups : List Nat) : Text :=
  let runs := (List.range groups.length).map fun start => leadingZeros (groups.drop start)
  let longest := runs.foldl max 0
  if longest < 2 then renderGroups groups
  else
    let start := runs.findIdx (· == longest)
    renderGroups (groups.take start) ++ "::".toList ++ renderGroups (groups.drop (start + longest))

end LiveTree.Uri
