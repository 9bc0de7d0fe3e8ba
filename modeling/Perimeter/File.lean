import Perimeter.Bytes

/-!
# `Perimeter.File`: what becomes of a file that is asked for

Configurations and key material lie in files. What the library decides about them
depends on the content alone or on the reason why there is none, which the system
gives in its own words.
-/

set_option autoImplicit false

namespace Perimeter

/-- Why a file cannot be read or written. -/
inductive FileFault where
  | notFound
  | isDirectory
  /-- The content is not UTF-8. -/
  | notText
  /-- A directory is to be made where a file lies. -/
  | exists
deriving DecidableEq

/-- The fault in the words of the system. -/
def FileFault.message : FileFault → String
  | .notFound => "No such file or directory (os error 2)"
  | .isDirectory => "Is a directory (os error 21)"
  | .notText => "stream did not contain valid UTF-8"
  | .exists => "File exists (os error 17)"

/-- What reading a file gives. -/
abbrev FileContent := Except FileFault Bytes

end Perimeter
