import Labeling.Files
import Labeling.Text

/-!
# A directory of text files

The plain model of a working directory: text files by their paths. A path is followed part by part
as the system does it, so that `..` goes up from a directory that is there, and the first part that
leads nowhere says why. Of what is around the directory only a few places are known that every
system has.
-/
namespace Labeling

/-- Where a path leads: the names from the working directory on. A place around it begins with
`..` for each level up, one that is reached from the root with `/`. -/
abbrev Place := List String

namespace Place

/-- The place of the working directory. -/
def here : Place := []

/-- The place of the root. -/
def root : Place := ["/"]

/-- The place that a part of a path leads to. -/
def enter (place : Place) (part : String) : Place :=
  if part = "." then place
  else if part = ".." then
    match place.getLast? with
    | none => [".."]
    | some ".." => place ++ [".."]
    | some "/" => place
    | some _ => place.dropLast
  else place ++ [part]

/-- Whether a directory is at the place on every system. -/
def isEverywhere (place : Place) : Bool :=
  place.all (· == "..") || place == root
    || ["bin", "dev", "etc", "home", "lib", "opt", "proc", "sbin", "sys", "tmp", "usr", "var"].any
      fun name => place == ["/", name]

/-- The file that is empty and stays so. -/
def void : Place := ["/", "dev", "null"]

end Place

/-- A path: where it begins, its parts, and whether a slash ends it. -/
structure Path where
  /-- Where it begins. -/
  start : Place
  /-- The parts. -/
  parts : List String
  /-- Whether a slash is behind the last part. -/
  endsOpen : Bool
deriving DecidableEq, Repr

namespace Path

/-- The path that a text writes. -/
def ofText (text : String) : Path where
  start := if text.startsWith "/" then Place.root else Place.here
  parts := ((Text.pieces '/' text.toList).map String.ofList).filter (· != "")
  endsOpen := text.endsWith "/"

/-- The place that the path leads to if everything on it is a directory. -/
def place (path : Path) : Place := path.parts.foldl Place.enter path.start

/-- The longest name, in bytes. -/
def nameLimit : Nat := 255

/-- The longest path, in bytes. -/
def lengthLimit : Nat := 4095

/-- Whether a part only goes on or up. -/
def isDots (part : String) : Bool := part == "." || part == ".."

end Path

/-- The text files in and below a directory by their paths. -/
abbrev Directory := List (String × String)

namespace Directory

/-- The text of the file at a place. -/
def textAt (directory : Directory) (place : Place) : Option String :=
  if place == Place.void then some ""
  else (directory.find? fun entry => (Path.ofText entry.1).place == place).map (·.2)

/-- Whether a directory is at a place. -/
def isDirectoryAt (directory : Directory) (place : Place) : Bool :=
  place.isEverywhere || directory.any fun entry =>
    let other := (Path.ofText entry.1).place
    place.isPrefixOf other && other != place

/-- Go from a directory along parts of a path, each of which must be a directory. -/
def walk (directory : Directory) : Place → List String → Except FileFault Place
  | place, [] => .ok place
  | place, part :: parts =>
    let next := place.enter part
    if Path.nameLimit < part.utf8ByteSize then .error .tooLong
    else if directory.isDirectoryAt next then directory.walk next parts
    else if (directory.textAt next).isSome then .error .notDirectory
    else .error .missing

/-- The directory that a path leads through and the part behind it, if there is one. -/
def approach (directory : Directory) (text : String) :
    Except FileFault (Place × Option String × Path) := do
  let path := Path.ofText text
  if text.isEmpty then throw .missing
  if Path.lengthLimit < text.utf8ByteSize then throw .tooLong
  let place ← directory.walk path.start path.parts.dropLast
  return (place, path.parts.getLast?, path)

/-- Read a path. -/
def read (directory : Directory) : FileReader := fun text => do
  let (place, last, path) ← directory.approach text
  let some part := last | throw .isDirectory
  let target := place.enter part
  if Path.nameLimit < part.utf8ByteSize then throw .tooLong
  if directory.isDirectoryAt target then throw .isDirectory
  match directory.textAt target with
  | some content => if path.endsOpen then throw .notDirectory else return content
  | none => throw .missing

/-- Write a text to a path. The file is made if its directory exists. -/
def write (directory : Directory) (text content : String) : Except FileFault Directory := do
  let (place, last, path) ← directory.approach text
  let some part := last | throw .isDirectory
  let target := place.enter part
  if path.endsOpen || Path.isDots part then throw .isDirectory
  if Path.nameLimit < part.utf8ByteSize then throw .tooLong
  if directory.isDirectoryAt target then throw .isDirectory
  if target == Place.void then return directory
  return (text, content) :: directory.filter fun entry => (Path.ofText entry.1).place != target

end Directory
end Labeling
