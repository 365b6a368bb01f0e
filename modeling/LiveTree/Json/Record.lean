import LiveTree.Json.Reader

/-!
# Records in JSON

A record is written as an object.  When it is read, unknown members are ignored, and a known member
given twice is an error.  A record may also be written as an array of its members in order, where the
missing ones at the end are absent.
-/

namespace LiveTree.Json

/-- Members of a record that was written as an array: the names in order, for as many items as there
    are; `none` if there are too many items. -/
def named? (names : List String) (items : List Json) : Option (List (String × Json)) :=
  if names.length < items.length then none else some (names.zip items)

/-- The known members of a record, written as an object or as an array; `none` if a known member is
    repeated, or if some member's name is no text. -/
def members? (names : List String) : Json → Option (List (String × Json))
  | .array items => named? names items
  | .object members => do
    let texts ← members.mapM fun member => member.1.map fun name => (name, member.2)
    let known := texts.filter fun member => names.contains member.1
    if (known.map (·.1)).eraseDups.length = known.length then some known else none
  | _ => none

/-- Reads one member, or takes its default when it is absent. -/
def member? {α : Type} (members : List (String × Json)) (name : String) (absent : Option α)
    (read : Json → Option α) : Option α :=
  match members.lookup name with
  | some value => read value
  | none => absent

/-- A natural number below a limit. -/
def naturalBelow? (limit : Nat) : Json → Option Nat
  | .natural n => if n < limit then some n else none
  | _ => none

/-- A truth value. -/
def bool? : Json → Option Bool
  | .bool b => some b
  | _ => none

/-- The text of a string. -/
def string? : Json → Option String
  | .string text => text
  | _ => none

/-- A string or nothing. -/
def optionalString? : Json → Option (Option String)
  | .null => some none
  | value => value.string?.map some

/-- A list of which every item can be read. -/
def listOf? {α : Type} (read : Json → Option α) : Json → Option (List α)
  | .array items => items.mapM read
  | _ => none

/-- A text or nothing, written. -/
def ofOption : Option String → Json
  | some text => .str text
  | none => .null

/-- A list of texts, written. -/
def ofStrings (texts : List String) : Json := .array (texts.map .str)

end LiveTree.Json
