import LiveTree.Path
import LiveTree.Text

/-!
# Files

`Files` is what a program can see of a file system: what stands in each file, and the directories
that exist even when they are empty.  `Files.find` follows a path as the system does, one component
after the other, so a path that leads through a file or through nothing is refused.  Paths and the
names in them have a greatest length.
-/

namespace LiveTree

/-- Why a path cannot be read as text. -/
inductive ReadError where
  | nullInPath
  | nameTooLong
  | missing
  | notDirectory
  | isDirectory
  | notUtf8
  deriving DecidableEq, Repr

/-- The system's wording of a read error. -/
def ReadError.message : ReadError → String
  | nullInPath => "file name contained an unexpected NUL byte"
  | nameTooLong => "File name too long (os error 36)"
  | missing => "No such file or directory (os error 2)"
  | notDirectory => "Not a directory (os error 20)"
  | isDirectory => "Is a directory (os error 21)"
  | notUtf8 => "stream did not contain valid UTF-8"

/-- Files and directories by their places, and the working directory. -/
structure Files (α : Type) where
  base : List String := []
  files : List (List String × α) := []
  folders : List (List String) := []

/-- What a path leads to. -/
inductive Found (α : Type) where
  | folder
  | file (content : α)

namespace Files

variable {α : Type}

/-- Whether there is a directory at a place. -/
def isFolder (fs : Files α) (place : List String) : Bool :=
  place.isPrefixOf fs.base || fs.folders.any (place.isPrefixOf ·) ||
    fs.files.any fun file => place.isPrefixOf file.1 && place ≠ file.1

/-- The greatest length of a path in bytes. -/
def maxPath : Nat := 4095

/-- The greatest length of a single name in bytes. -/
def maxName : Nat := 255

/-- Follows components from a place; all but the last must be directories.  A name is looked at only
    once its directory has been found. -/
def follow (fs : Files α) (place : List String) : List String → Except ReadError (List String)
  | [] => .ok place
  | part :: rest =>
    if (fs.files.lookup place).isSome then .error .notDirectory
    else if !fs.isFolder place then .error .missing
    else if maxName < part.utf8ByteSize then .error .nameTooLong
    else fs.follow (if part = ".." then place.dropLast else place ++ [part]) rest

/-- What a path leads to. -/
def find (fs : Files α) (path : String) : Except ReadError (Found α) := do
  if path.contains '\x00' then throw .nullInPath
  if path = "" then throw .missing
  if maxPath < path.utf8ByteSize then throw .nameTooLong
  let place ← fs.follow [] (Path.absolute fs.base path)
  match fs.files.lookup place with
  | some content => if Path.endsInFolder path then throw .notDirectory else return .file content
  | none => if fs.isFolder place then return .folder else throw .missing

/-- Removes the file at a path. -/
def erase (fs : Files α) (path : String) : Files α :=
  { fs with files := fs.files.filter (·.1 ≠ Path.locate fs.base path) }

/-- Puts a file at a path, in place of the one there, with all directories on the way. -/
def insert (fs : Files α) (path : String) (content : α) : Files α :=
  { fs with
    files := (Path.locate fs.base path, content) :: (fs.erase path).files
    folders := Path.passed fs.base path ++ fs.folders }

/-- Reads a file as text. -/
def readText (fs : Files ByteArray) (path : String) : Except ReadError Text := do
  match ← fs.find path with
  | .folder => throw .isDirectory
  | .file bytes =>
    match String.fromUTF8? bytes with
    | some text => return text.toList
    | none => throw .notUtf8

end Files

end LiveTree
