import RadioFlash.Text.Ascii
/-!
# File names and extensions of slash-separated paths

A path is split at slashes; empty parts (from repeated or trailing slashes) and `.` parts name
no file. The file name is the last part unless that part is `..` or there is none. Its extension
is what follows the last dot, provided something precedes that dot: `.ebl` has no extension,
`a.` has the empty one, and `a.b.ebl` has `ebl`.
-/

namespace RadioFlash.Text

/-- The last part of a path that names a file, if any. -/
def fileName? (path : String) : Option String :=
  let parts := (path.splitOn "/").filter fun p => p ≠ "" ∧ p ≠ "."
  match parts.getLast? with
  | some ".." => none
  | other => other

/-- The text after the last dot of a file name, when the dot is not its first character. -/
def extensionOfName? (name : String) : Option String :=
  match (name.splitOn ".").reverse with
  | after :: before@(_ :: _) =>
    if String.intercalate "." before.reverse = "" then none else some after
  | _ => none

/-- The extension of the file a path names. -/
def extension? (path : String) : Option String :=
  (fileName? path).bind extensionOfName?

end RadioFlash.Text
