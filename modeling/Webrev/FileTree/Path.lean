/-!
# Paths of files

Paths as they are written. A path is absolute when it begins with a slash; nothing is normalised.

## Main definitions

* `FilePath.steps` : the names that a path leads through.
* `FilePath.join` : a path relative to another one.
* `FilePath.fileName?` : the name of the file that a path ends in.
* `FilePath.ofNames` : the absolute path that leads through names.
-/

namespace Webrev.FilePath

/-- The pieces of a text between slashes. -/
def pieces (path : String) : List String := (path.toList.splitOn '/').map String.ofList

/-- A path begins at the root. -/
def isAbsolute (path : String) : Bool := path.toList.head? == some '/'

/-- A path ends in a slash. -/
def endsInSlash (path : String) : Bool := path.toList.getLast? == some '/'

/-- The names that a path leads through. -/
def names (path : String) : List String := (pieces path).filter (· ≠ "")

/-- The names that a path leads through. A slash at the end leads to what lies in the last one
itself. -/
def steps (path : String) : List String :=
  if endsInSlash path then names path ++ ["."] else names path

/-- A path relative to another one. An absolute path stands for itself. -/
def join (base path : String) : String :=
  if isAbsolute path then path
  else if base.isEmpty || endsInSlash base then base ++ path
  else base ++ "/" ++ path

/-- The name of the file that a path ends in. A path that ends in `..` names no file, and a path `.`
neither; elsewhere a name `.` stands for nothing. -/
def fileName? (path : String) : Option String :=
  match ((names path).filter (· ≠ ".")).getLast? with
  | some ".." => none
  | last => last

/-- The absolute path that leads through names. -/
def ofNames (names : List String) : String := "/" ++ String.intercalate "/" names

end Webrev.FilePath
