/-!
# File faults

What an operation on files can fail with.
-/

namespace Framecast.Files

inductive FileFault where
  | missing
  | exists
  | notDirectory
  | isDirectory
  /-- A name, or the whole path text, is too long. -/
  | nameTooLong
  /-- The path text holds a character that no name may hold. -/
  | zeroInName
  /-- The contents are not text. -/
  | notText
deriving Repr, DecidableEq

def FileFault.message : FileFault → String
  | .missing => "No such file or directory (os error 2)"
  | .exists => "File exists (os error 17)"
  | .notDirectory => "Not a directory (os error 20)"
  | .isDirectory => "Is a directory (os error 21)"
  | .nameTooLong => "File name too long (os error 36)"
  | .zeroInName => "file name contained an unexpected NUL byte"
  | .notText => "stream did not contain valid UTF-8"

end Framecast.Files
