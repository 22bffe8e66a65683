import Webrev.FileTree.Basic
import Webrev.FileTree.Path
import Webrev.Machine.Fault

/-!
# Walking through a file tree

A path is followed name by name. `.` stays, `..` goes to the directory above, and a symbolic link
leads on along its target; no walk goes through more than forty links.

## Main definitions

* `FileTree.walk` : the entry that names lead to.
* `FileTree.locateFrom` : the entry that a path leads to from a directory.
-/

namespace Webrev.FileTree

open Machine (Fault)

/-- The number of links that a walk may go through. -/
def linkLimit : Nat := 40

/-- The longest name of an entry, in octets. -/
def nameLimit : Nat := 255

/-- The longest path, in octets. -/
def pathLimit : Nat := 4095

/-- The entry that names lead to from a directory. Whether a link that the last name names is gone
through is the caller's choice; `links` more links may be gone through. -/
def walk (tree : FileTree) (through : Bool) (links : Nat) (directory : Place) (steps : List String) :
    Except Fault (Place × Node) :=
  match steps with
  | [] => .ok (directory, .directory)
  | "." :: rest => walk tree through links directory rest
  | ".." :: rest => walk tree through links directory.dropLast rest
  | name :: rest =>
    if nameLimit < name.utf8ByteSize then .error .nameTooLong
    else
      let place := directory ++ [name]
      match tree.node? place with
      | none => .error .noEntry
      | some .directory => walk tree through links place rest
      | some (.file contents executable) =>
        if rest.isEmpty then .ok (place, .file contents executable) else .error .notADirectory
      | some (.link target) =>
        if rest.isEmpty && !through then .ok (place, .link target)
        else
          match links with
          | 0 => .error .tooManyLinks
          | links + 1 =>
            walk tree through links (if FilePath.isAbsolute target then [] else directory)
              (FilePath.steps target ++ rest)
termination_by (links, steps.length)

/-- The entry that a path leads to for a process in a directory. -/
def locateFrom (tree : FileTree) (directory : Place) (through : Bool) (path : String) :
    Except Fault (Place × Node) :=
  if path.toList.contains '\x00' then .error .nulInPath
  else if path.isEmpty then .error .noEntry
  else if pathLimit < path.utf8ByteSize then .error .nameTooLong
  else
    tree.walk through linkLimit (if FilePath.isAbsolute path then [] else directory)
      (FilePath.steps path)

end Webrev.FileTree
