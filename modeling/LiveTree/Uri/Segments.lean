import LiveTree.Uri.Escape

/-!
# Paths of uris

The path of a uri is a list of segments.  Single dots mean nothing and double dots lead one segment
up, also when a dot is escaped; a path that ends in such a segment ends in a slash.  A segment that
looks like the letter of a drive is never left upwards.
-/

namespace LiveTree.Uri

/-- Whether a text is a letter and a colon, or a bar in place of the colon. -/
def isDrive : Text → Bool
  | [letter, mark] => letter.isAlpha && (mark == ':' || mark == '|')
  | _ => false

/-- A segment with its escaped dots unescaped, if it holds nothing but dots. -/
def dots (segment : Text) : Text :=
  match segment.map Char.toLower with
  | ['%', '2', 'e'] => ".".toList
  | ['%', '2', 'e', '.'] => "..".toList
  | ['.', '%', '2', 'e'] => "..".toList
  | ['%', '2', 'e', '%', '2', 'e'] => "..".toList
  | _ => segment

/-- Leads one segment up; `done` are the segments so far, last one first. -/
def parent (done : List Text) : List Text :=
  match done with
  | [] => []
  | last :: above => if isDrive last then last :: above else above

/-- A segment as it is kept: escaped, and with a colon after the letter of a drive where drives are
    looked for. -/
def kept (drives : Bool) (segment : Text) : Text :=
  match isDrive segment && drives, segment with
  | true, letter :: _ => [letter, ':']
  | _, _ => escape pathReserved segment

/-- Walks over segments; `done` are those kept so far, last one first.  Drives are looked for only
    in front. -/
def walk (drives : Bool) (done : List Text) : List Text → List Text
  | [] => done
  | segment :: rest =>
    let next :=
      if dots segment = "..".toList then parent done
      else if dots segment = ".".toList then done
      else kept (drives && done.isEmpty) segment :: done
    -- A path that ends in dots ends in a slash.
    let next := if rest.isEmpty && dots segment ∈ [".".toList, "..".toList] then [] :: next else next
    walk drives next rest

/-- The segments that a path leads through, given what follows its first slash. -/
def resolve (special drives : Bool) (text : Text) : List Text :=
  (walk drives [] (Text.fields (fun c => c == '/' || special && c == '\\') text)).reverse

/-- Segments as they are written. -/
def renderSegments (segments : List Text) : Text := segments.flatMap ('/' :: ·)

/-- Segments without the empty ones in front; one is left in any case. -/
def trimmed (segments : List Text) : List Text :=
  match segments.dropWhile List.isEmpty with
  | [] => [[]]
  | segments => segments

end LiveTree.Uri
