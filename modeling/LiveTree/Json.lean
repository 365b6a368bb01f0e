/-!
# JSON values

A value as it is written: the members of an object keep their order and may repeat a name.  Of
numbers only the non-negative integers matter here.  A string whose escapes denote no text (a lone
half of a surrogate pair) is legal to write but has no text, so the text of a string is optional.
-/

namespace LiveTree

/-- A JSON value. -/
inductive Json where
  | null
  | bool (value : Bool)
  | natural (value : Nat)
  | otherNumber
  | string (text : Option String)
  | array (items : List Json)
  | object (members : List (Option String × Json))
  deriving Inhabited, Repr

namespace Json

/-- A string value. -/
def str (text : String) : Json := .string (some text)

/-- An object with the given members. -/
def record (members : List (String × Json)) : Json :=
  .object (members.map fun member => (some member.1, member.2))

end Json

end LiveTree
