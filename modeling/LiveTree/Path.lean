/-!
# Paths

Paths are strings of components separated by slashes; empty components and single dots mean
nothing.  A place is the list of components that lead to it from the root.
-/

namespace LiveTree.Path

/-- The components of a path, without the empty ones and the single dots. -/
def components (path : String) : List String :=
  ((path.splitOn "/").filter fun part => part ≠ "" && part ≠ ".")

/-- A path inside a directory. -/
def join (directory name : String) : String :=
  if directory = "" then name
  else if directory.endsWith "/" then directory ++ name
  else directory ++ "/" ++ name

/-- The last component, unless it leads upwards. -/
def fileName? (path : String) : Option String :=
  match (components path).getLast? with
  | some name => if name = ".." then none else some name
  | none => none

/-- What follows the last dot of the file name; a dot in front of the name does not count. -/
def extension? (path : String) : Option String := do
  let name ← fileName? path
  let ending := name.toList.reverse.takeWhile (· ≠ '.')
  if ending.length + 1 < name.length then some (String.ofList ending.reverse) else none

/-- Whether a path starts at the root. -/
def isAbsolute (path : String) : Bool := path.startsWith "/"

/-- Whether a path can only lead to a directory. -/
def endsInFolder (path : String) : Bool := path.endsWith "/" || path.endsWith "/."

/-- The components of a path from the root on, where a relative path starts at `base`. -/
def absolute (base : List String) (path : String) : List String :=
  if isAbsolute path then components path else base ++ components path

/-- The place that components lead to: every step upwards is taken. -/
def resolve (parts : List String) : List String :=
  parts.foldl (fun place part => if part = ".." then place.dropLast else place ++ [part]) []

/-- The place that a path leads to. -/
def locate (base : List String) (path : String) : List String := resolve (absolute base path)

/-- The places that a path leads through. -/
def passed (base : List String) (path : String) : List (List String) :=
  let parts := absolute base path
  (List.range parts.length).map fun n => resolve (parts.take n)

end LiveTree.Path
