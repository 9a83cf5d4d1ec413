import PythonStyle.FileSystem.Basic

/-!
# Why a file is not fully checked

Main definitions:

- `CheckError`: the three causes, each with the label of the file.
- `CheckError.isUnread`: whether the text of the file is not known at all.
-/

namespace PythonStyle

/-- Why a file is not fully checked. -/
inductive CheckError where
  /-- The file cannot be read. -/
  | unreadable (path : String) (cause : FileError)
  /-- The bytes of the file are no text. -/
  | undecodable (path : String)
  /-- The text of the file is no program. -/
  | unparsable (path : String)
  deriving DecidableEq, Repr, Inhabited

namespace CheckError

/-- What is said about a file that is not fully checked. -/
def message : CheckError → String
  | unreadable path cause => "cannot read " ++ path ++ ": " ++ cause.message
  | undecodable path => path ++ " is not valid UTF-8"
  | unparsable path => path ++ " does not parse as Python"

/-- Whether the text of the file is not known at all.  That is a matter for whoever gave the file to
be checked. -/
def isUnread : CheckError → Bool
  | unreadable .. | undecodable _ => true
  | unparsable _ => false

end CheckError

end PythonStyle
