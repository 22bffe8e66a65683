import Webrev.FileTree.Walk

/-!
# Removing directories

A directory is removed with all that lies in it. Links inside are removed and not gone through. In
the end the directory itself is removed under the path that it was given by, which may be refused
although what lay in it is gone.

## Main definitions

* `FileTree.removeDirectory` : an empty directory removed.
* `FileTree.removeAll` : a directory removed with all that lies in it.
-/

namespace Webrev.FileTree

open Machine (Fault)

/-- A tree without the empty directory that a path names. The last name is not walked through, so it
cannot be `.` or `..`. -/
def removeDirectory (tree : FileTree) (directory : Place) (path : String) :
    Except Fault FileTree := do
  let names := FilePath.names path
  match names.getLast? with
  | none => .error .busy
  | some name =>
    let start := if FilePath.isAbsolute path then [] else directory
    let (above, node) ← tree.walk true linkLimit start names.dropLast
    if node ≠ .directory then .error .notADirectory
    else if name = "." then .error .invalidArgument
    else if name = ".." then .error .notEmpty
    else
      let place := above ++ [name]
      match tree.node? place with
      | none => .error .noEntry
      | some .directory => if tree.isEmptyAt place then .ok (tree.erase place) else .error .notEmpty
      | some _ => .error .notADirectory

/-- The removal of an emptied directory, which may be gone already. -/
def removeEmptied (tree : FileTree) (directory : Place) (path : String) :
    Except Fault Unit × FileTree :=
  match tree.removeDirectory directory path with
  | .ok tree => (.ok (), tree)
  | .error .noEntry => (.ok (), tree)
  | .error fault => (.error fault, tree)

/-- The removal of the directory at a path with all that lies in it, and of a link at the path
without what it leads to. The second component is the tree after it, also when the removal fails. -/
def removeAll (tree : FileTree) (directory : Place) (path : String) :
    Except Fault Unit × FileTree :=
  match tree.locateFrom directory false path with
  | .error fault => (.error fault, tree)
  | .ok (place, .link _) => (.ok (), tree.erase place)
  | .ok (_, .file ..) => (.error .notADirectory, tree)
  | .ok (place, .directory) => (tree.clear place).removeEmptied directory path

end Webrev.FileTree
