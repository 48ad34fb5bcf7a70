/-
`Folder.lean` -- opening files in a folder that is held as data.

A folder is the list of its files under their paths. A path is followed part by part from the folder
itself: a point stays, two points go back, and nothing can be followed through a file. What lies above the
folder can be reached and not looked into.
-/
import KernelShader.CommandLine.SourceFile

set_option autoImplicit false

namespace KernelShader.CommandLine

/-- A path as the names on it. -/
abbrev Path := List String

/-- The files of a folder. -/
abbrev Folder := List (Path × ByteArray)

/-- Where a path has led so far: to a folder inside, to one above, or to a file. -/
inductive Place where
  | inside (path : Path)
  | above
  | file (bytes : ByteArray)

namespace Folder

/-- The names of a path between slashes. -/
def parts (path : String) : Path :=
  (Text.fields (· == '/') path.toList).map String.ofList

/-- The part does not lead anywhere. -/
def stays (part : String) : Bool := part.isEmpty || part == "."

/-- The file at a path. A file put there later replaces an earlier one. -/
def file? (folder : Folder) (path : Path) : Option ByteArray :=
  (folder.reverse.find? fun entry => entry.1 == path).map Prod.snd

/-- There is a folder at the path: some file lies further on. -/
def hasFolder (folder : Folder) (path : Path) : Bool :=
  folder.any fun entry => path.isPrefixOf entry.1 && path != entry.1

/-- The greatest length of a name, in bytes. -/
def longestName : Nat := 255

/-- The greatest length of a path, in bytes. -/
def longestPath : Nat := 4095

/-- Follows a name inside the folder. -/
def enter (folder : Folder) (path : Path) (name : String) : Except FileAnswer Place :=
  if longestName < name.utf8ByteSize then .error .tooLong
  else match folder.file? (path ++ [name]) with
    | some bytes => .ok (.file bytes)
    | none => if folder.hasFolder (path ++ [name]) then .ok (.inside (path ++ [name])) else .error .missing

/-- Follows one part of a path. -/
def follow (folder : Folder) (place : Place) (part : String) : Except FileAnswer Place :=
  match place with
  | .file _ => .error .notDirectory
  | .above => if stays part || part == ".." then .ok .above else .error .missing
  | .inside path =>
    if stays part then .ok place
    else if part == ".." then .ok (if path.isEmpty then .above else .inside path.dropLast)
    else folder.enter path part

/-- Opens the file at a path. -/
def openFile (folder : Folder) (path : String) : FileAnswer :=
  if longestPath < path.utf8ByteSize then .tooLong
  else
    let start := if path.startsWith "/" then Place.above else .inside []
    match (parts path).foldlM folder.follow start with
    | .ok (.file bytes) => .content bytes
    | .ok _ => .directory
    | .error answer => answer

end Folder

end KernelShader.CommandLine
