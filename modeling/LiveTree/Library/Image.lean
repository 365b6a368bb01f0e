import LiveTree.Library

/-!
# Library images

Before the system maps a library into memory it checks the image in the file: the identification in
front, the rest of the header, and the table of segments that the header points to.  `Image.fault?`
is the first check that fails.  Numbers in an image stand with their lowest byte first.
-/

namespace LiveTree

/-- The bytes of a file that is taken for a library. -/
structure Image where
  bytes : ByteArray

namespace Image

/-- The size of an image in bytes. -/
def size (image : Image) : Nat := image.bytes.size

/-- The byte at an offset; past the end there are zeros. -/
def byte (image : Image) (offset : Nat) : Nat := (image.bytes.data[offset]?.getD 0).toNat

/-- The number in the `width` bytes from an offset on. -/
def number (image : Image) (offset : Nat) : Nat → Nat
  | 0 => 0
  | width + 1 => image.byte offset + 256 * image.number (offset + 1) width

/-- The size of the header. -/
def headerSize : Nat := 64

/-- The size of an entry of the segment table. -/
def entrySize : Nat := 56

/-- How much of a file is read at first. -/
def windowSize : Nat := 832

/-- The size of a page of memory. -/
def pageSize : Nat := 4096

/-- One segment: its kind, where it stands in the file, where it belongs in memory, and how many
    bytes of the file it takes. -/
structure Segment where
  kind : Nat
  offset : Nat
  address : Nat
  fileSize : Nat

/-- Where the segment table starts. -/
def tableStart (image : Image) : Nat := image.number 32 8

/-- The number of entries of the segment table. -/
def tableLength (image : Image) : Nat := image.number 56 2

/-- The offset after the segment table. -/
def tableStop (image : Image) : Nat := image.tableStart + image.tableLength * entrySize

/-- The entries of the segment table. -/
def segments (image : Image) : List Segment :=
  (List.range image.tableLength).map fun n =>
    let start := image.tableStart + n * entrySize
    ⟨image.number start 4, image.number (start + 8) 8, image.number (start + 16) 8,
      image.number (start + 32) 8⟩

/-- Segments that are mapped into memory. -/
def Segment.isLoaded (segment : Segment) : Bool := segment.kind == 1

/-- Segments that tell what the library exports. -/
def Segment.isDynamic (segment : Segment) : Bool := segment.kind == 2 && segment.fileSize != 0

/-- Whether a segment's place in memory and its place in the file differ by whole pages. -/
def Segment.isAligned (segment : Segment) : Bool :=
  segment.address % pageSize == segment.offset % pageSize

/-- Whether an image is for another machine. -/
def isForeign (image : Image) : Bool := image.number 18 2 != 62

/-- The checks that tell whether a file is an image at all, each with the fault that it finds, in the
    order in which they are made. -/
def formatChecks (image : Image) : List (Bool × LibraryFault) := [
  (image.size < headerSize, .tooShort),
  (image.number 0 4 != 0x464c457f, .notElf),
  (image.byte 4 != 2, .wrongClass)]

/-- The checks of the rest of the identification. -/
def identChecks (image : Image) : List (Bool × LibraryFault) := [
  (image.byte 5 != 1, .wrongByteOrder),
  (image.byte 6 != 1, .wrongIdentVersion),
  (image.byte 7 != 0 && image.byte 7 != 3, .wrongAbi),
  (image.byte 8 != 0 && !(image.byte 7 == 3 && image.byte 8 < 4), .wrongAbiVersion),
  (image.number 9 7 != 0, .dirtyIdent)]

/-- The checks of the rest of the header. -/
def headerChecks (image : Image) : List (Bool × LibraryFault) := [
  (image.number 20 4 != 1, .wrongVersion),
  (image.isForeign, .notFound),
  (image.number 16 2 != 2 && image.number 16 2 != 3, .wrongType),
  (image.number 54 2 != entrySize, .wrongEntrySize)]

/-- Whether the segment table has to be read separately. -/
def tableIsApart (image : Image) : Bool :=
  min image.size windowSize < image.tableStop % UInt64.size

/-- The checks of the segment table. -/
def segmentChecks (image : Image) : List (Bool × LibraryFault) := [
  (image.tableIsApart && UInt64.size / 2 ≤ image.tableStart, .unseekable),
  (image.tableIsApart && image.tableLength != 0 && image.size < image.tableStop, .unreadable),
  (image.segments.any fun segment => segment.isLoaded && !segment.isAligned, .misaligned),
  (image.segments.all (!·.isLoaded), .nothingToLoad),
  (image.number 16 2 == 2, .executable),
  (image.segments.all (!·.isDynamic), .notDynamic)]

/-- All checks of an image.  One for another machine is passed over as if it were not there, at the
    latest when its identification turns out to be unusual. -/
def checks (image : Image) : List (Bool × LibraryFault) :=
  image.formatChecks ++ [(image.isForeign && image.identChecks.any (·.1), .notFound)] ++
    image.identChecks ++ image.headerChecks ++ image.segmentChecks

/-- The first check that an image fails. -/
def fault? (image : Image) : Option LibraryFault := (image.checks.find? (·.1)).map (·.2)

end Image

/-- A file of no known grammar, taken for a library: if it can be opened it exports nothing. -/
def LibraryFile.ofBytes (bytes : ByteArray) : LibraryFile :=
  match Image.fault? ⟨bytes⟩ with
  | some fault => .damaged fault
  | none => .exporting []

/-- Plain files as they appear to whoever looks for libraries. -/
def Libraries.ofFiles (fs : Files ByteArray) : Libraries where
  files := {
    base := fs.base
    files := fs.files.mapIdx fun serial file => (file.1, ⟨serial, .ofBytes file.2⟩)
    folders := fs.folders }
  made := fs.files.length

end LiveTree
