import LiveTree.Uri.Address
import LiveTree.Uri.Domain

/-!
# Hosts

The host of a uri is a name or a numeric address.  Schemes that are known to name hosts have them
checked and brought to one form: escapes are undone, names are written in ASCII, and numbers become
addresses.  For other schemes a name is taken as it is.
-/

namespace LiveTree.Uri

/-- The host of a uri.  The empty name is no host. -/
inductive Host where
  | name (text : Text)
  | ipv4 (address : Nat)
  | ipv6 (groups : List Nat)
  deriving DecidableEq, Repr

namespace Host

/-- A host as it is written. -/
def render : Host → Text
  | name text => text
  | ipv4 address => renderIpv4 address
  | ipv6 groups => ['['] ++ renderIpv6 groups ++ [']']

/-- Whether there is no host. -/
def isEmpty (host : Host) : Bool := host == .name []

/-- Characters that may not stand in a name that is taken as it is. -/
def isDelimiter (c : Char) : Bool :=
  "\x00\t\n\r #/:<>?@[\\]^|".toList.contains c

/-- Reads a name or address whose form is checked. -/
def domain? (text : Text) : Option Host := do
  let labels ← Domain.labels? (← unescape? text)
  let name := Text.joined ['.'] labels
  if name.isEmpty then none
  else if endsInNumber labels then return .ipv4 (← ipv4? labels)
  else return .name name

/-- Reads an address in brackets. -/
def bracketed? (text : Text) : Option Host := do
  if text.getLast? = some ']' then return .ipv6 (← ipv6? text.dropLast) else none

/-- Reads a host.  Only some schemes are known to name hosts. -/
def parse? (known : Bool) (text : Text) : Option Host :=
  match text with
  | '[' :: rest => bracketed? rest
  | _ =>
    if known then domain? text
    else if text.any isDelimiter then none
    else some (.name (escape [] text))

end Host

end LiveTree.Uri
