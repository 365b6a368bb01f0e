import LiveTree.Files

/-!
# Shared libraries

A shared library exports grammars under symbols.  `Libraries` is what stands on disk, and
`Libraries.open?` is what the system makes of a path: a library that somebody keeps open is handed out
again under every path it was opened by, whatever has become of the file since.  Another path to the
same file is one more path to the library.
-/

namespace LiveTree

/-- Why the system does not open a file as a library. -/
inductive LibraryFault where
  | tooShort
  | notElf
  | wrongClass
  | wrongByteOrder
  | wrongIdentVersion
  | wrongAbi
  | wrongAbiVersion
  | dirtyIdent
  | wrongVersion
  | wrongType
  | wrongEntrySize
  | unreadable
  | unseekable
  | misaligned
  | nothingToLoad
  | executable
  | notDynamic
  | isFolder
  /-- Nothing that the system can use was found anywhere it looked. -/
  | notFound
  deriving DecidableEq, Repr

/-- The system's wording of a fault. -/
def LibraryFault.message : LibraryFault → String
  | tooShort => "file too short"
  | notElf => "invalid ELF header"
  | wrongClass => "wrong ELF class: ELFCLASS32"
  | wrongByteOrder => "ELF file data encoding not little-endian"
  | wrongIdentVersion => "ELF file version ident does not match current one"
  | wrongAbi => "ELF file OS ABI invalid"
  | wrongAbiVersion => "ELF file ABI version invalid"
  | dirtyIdent => "nonzero padding in e_ident"
  | wrongVersion => "ELF file version does not match current one"
  | wrongType => "only ET_DYN and ET_EXEC can be loaded"
  | wrongEntrySize => "ELF file's phentsize not the expected size"
  | unreadable => "cannot read file data"
  | unseekable => "cannot read file data: Invalid argument"
  | misaligned => "ELF load command address/offset not page-aligned"
  | nothingToLoad => "object file has no loadable segments"
  | executable => "cannot dynamically load executable"
  | notDynamic => "object file has no dynamic section"
  | isFolder => "cannot read file data: Is a directory"
  | notFound => "cannot open shared object file: No such file or directory"

/-- A file that is taken for a grammar library: one that cannot be opened, or one that exports
    grammars by their symbols, each with the reason why parsers reject it, if they do. -/
inductive LibraryFile where
  | damaged (fault : LibraryFault)
  | exporting (grammars : List (String × Option String))
  deriving DecidableEq, Repr

/-- A file on disk, told from all others by a number: a file that is written anew stays the same, and
    one that is made after another was removed is a different one. -/
structure StoredLibrary where
  serial : Nat
  file : LibraryFile
  deriving DecidableEq, Repr

/-- The grammar libraries on disk, and how many files were made so far. -/
structure Libraries where
  files : Files StoredLibrary := {}
  made : Nat := 0

/-- A library that is kept open: the paths it was opened by, the number of its file, and what it
    exports. -/
structure OpenLibrary where
  paths : List String
  serial : Nat
  grammars : List (String × Option String)
  deriving DecidableEq, Repr

namespace OpenLibrary

/-- The name under which a symbol is looked up: a null character at its end only ends it. -/
def lookupName (symbol : String) : String :=
  if symbol.endsWith "\x00" then String.ofList symbol.toList.dropLast else symbol

/-- What a library exports under a symbol: a grammar with the reason why parsers reject it, if they
    do. -/
def export? (library : OpenLibrary) (symbol : String) : Option (Option String) :=
  library.grammars.lookup (lookupName symbol)

/-- The open libraries once one of them has got another path; a library that is not open is not added. -/
def renew (kept : List OpenLibrary) (library : OpenLibrary) : List OpenLibrary :=
  kept.map fun other => if other.serial = library.serial then library else other

/-- The open libraries when one more is kept open. -/
def keep (kept : List OpenLibrary) (library : OpenLibrary) : List OpenLibrary :=
  if kept.any (·.serial == library.serial) then renew kept library else kept ++ [library]

end OpenLibrary

namespace Libraries

/-- What a path leads to. -/
def find (libraries : Libraries) (path : String) : Except ReadError (Found StoredLibrary) :=
  libraries.files.find path

/-- Removes the file at a path. -/
def erase (libraries : Libraries) (path : String) : Libraries :=
  { libraries with files := libraries.files.erase path }

/-- Writes a file at a path; without one there it is made. -/
def insert (libraries : Libraries) (path : String) (file : LibraryFile) : Libraries :=
  match libraries.find path with
  | .ok (.file stored) =>
    { libraries with files := libraries.files.insert path { stored with file } }
  | _ =>
    { files := libraries.files.insert path ⟨libraries.made, file⟩
      made := libraries.made + 1 }

/-- Opens a file by a path, where `kept` are the libraries that are open. -/
def openFile (kept : List OpenLibrary) (path : String) (stored : StoredLibrary) :
    Except LibraryFault OpenLibrary :=
  match stored.file with
  | .damaged fault => .error fault
  | .exporting grammars =>
    match kept.find? (·.serial == stored.serial) with
    | some library => .ok { library with paths := path :: library.paths }
    | none => .ok ⟨[path], stored.serial, grammars⟩

/-- Opens what was found at a path.  A bare file name is not taken for a path but sought among the
    libraries of the system, where there are no grammars. -/
def openFound (kept : List OpenLibrary) (path : String) (found : Found StoredLibrary) :
    Except LibraryFault OpenLibrary :=
  if !path.contains '/' then .error .notFound
  else
    match found with
    | .folder => .error .isFolder
    | .file stored => openFile kept path stored

/-- Opens the library at a path, where `kept` are those that are open; `none` if there is nothing at
    the path. -/
def open? (libraries : Libraries) (kept : List OpenLibrary) (path : String) :
    Option (Except LibraryFault OpenLibrary) :=
  match libraries.find path with
  | .error _ => none
  | .ok found =>
    match kept.find? (·.paths.contains path) with
    | some library => some (.ok library)
    | none => some (openFound kept path found)

end Libraries

end LiveTree
