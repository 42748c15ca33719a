/-!
# Files

What a command sees of the files around it: reading a path gives a text or the reason why there is
none.
-/
namespace Labeling

/-- Why a file cannot be read or written. -/
inductive FileFault where
  /-- There is no such file. -/
  | missing
  /-- A part of the path that should be a directory is a file. -/
  | notDirectory
  /-- The path names a directory. -/
  | isDirectory
  /-- The path or one of its parts is too long. -/
  | tooLong
  /-- The content is no text. -/
  | notText
  /-- Anything else, in words. -/
  | other (reason : String)
deriving DecidableEq, Repr

namespace FileFault

/-- The fault in words. -/
def reason : FileFault → String
  | .missing => "No such file or directory (os error 2)"
  | .notDirectory => "Not a directory (os error 20)"
  | .isDirectory => "Is a directory (os error 21)"
  | .tooLong => "File name too long (os error 36)"
  | .notText => "stream did not contain valid UTF-8"
  | .other reason => reason

/-- Whether the file can be opened for reading nevertheless, so that only its content is at
fault. -/
def isOfContent : FileFault → Bool
  | .isDirectory => true
  | .notText => true
  | _ => false

end FileFault

/-- The text of a path, or why there is none. -/
abbrev FileReader := String → Except FileFault String

end Labeling
