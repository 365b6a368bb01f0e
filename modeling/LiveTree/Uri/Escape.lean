import LiveTree.Text.Fields

/-!
# Escaped characters

A character that would be misread in a uri is written as its UTF-8 bytes, each as a percent sign and
two hexadecimal digits.  Which characters have to be escaped depends on the part of the uri; the ones
that are not visible ASCII always have to be.
-/

namespace LiveTree.Uri

/-- What is escaped in the part after the number sign. -/
def fragmentReserved : List Char := " \"<>`".toList

/-- What is escaped in a path. -/
def pathReserved : List Char := fragmentReserved ++ "#?\x7b\x7d".toList

/-- What is escaped in a single component of a path. -/
def componentReserved : List Char := pathReserved ++ "/%\\".toList

/-- What is escaped in names and passwords. -/
def userReserved : List Char := pathReserved ++ "/:;=@[\\]^|".toList

/-- What is escaped in the part after the question mark. -/
def queryReserved : List Char := " \"#<>".toList

/-- Whether a character stands for itself where the given ones do not. -/
def isPlain (reserved : List Char) (c : Char) : Bool :=
  ' ' ≤ c && c ≤ '~' && !reserved.contains c

/-- A hexadecimal digit, in upper case. -/
def hexDigit (n : Nat) : Char := (Nat.digitChar n).toUpper

/-- A byte as a percent sign and two digits. -/
def escapeByte (byte : UInt8) : List Char :=
  ['%', hexDigit (byte.toNat / 16), hexDigit (byte.toNat % 16)]

/-- One character, escaped if need be. -/
def escapeChar (reserved : List Char) (c : Char) : List Char :=
  if isPlain reserved c then [c] else (String.utf8EncodeChar c).flatMap escapeByte

/-- A text with every character escaped that has to be. -/
def escape (reserved : List Char) (text : Text) : Text := text.flatMap (escapeChar reserved)

/-- The bytes of a text, with every escaped byte in its place; a percent sign without two digits after
    it stands for itself. -/
def unescapedBytes : Text → List UInt8
  | '%' :: high :: low :: rest =>
    match Text.digit? 16 high, Text.digit? 16 low with
    | some high, some low => UInt8.ofNat (16 * high + low) :: unescapedBytes rest
    | _, _ => 37 :: unescapedBytes (high :: low :: rest)
  | c :: rest => String.utf8EncodeChar c ++ unescapedBytes rest
  | [] => []

/-- A text with every escaped byte in its place; `none` if the bytes are no text. -/
def unescape? (text : Text) : Option Text :=
  (String.fromUTF8? ⟨(unescapedBytes text).toArray⟩).map String.toList

end LiveTree.Uri
