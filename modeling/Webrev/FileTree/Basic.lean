/-!
# File trees

A tree of directories, files and symbolic links. An entry is known by the names that lead to it from
the root; the root itself is always a directory.

## Main definitions

* `FileTree.Node` : what an entry is.
* `FileTree` : a tree as the list of its entries.
* `FileTree.node?` : the entry at a place.
* `FileTree.put` : a tree with an entry.
* `FileTree.clear` : a tree without what lies in a directory.
* `FileTree.erase` : a tree without an entry.
-/

namespace Webrev

/-- What an entry of a file tree is. -/
inductive FileTree.Node where
  | directory
  | file (contents : List UInt8) (executable : Bool)
  | link (target : String)
  deriving DecidableEq, Repr

/-- A tree of directories, files and symbolic links, as the list of its entries. -/
structure FileTree where
  entries : List (List String × FileTree.Node)
  deriving DecidableEq, Repr

namespace FileTree

/-- The names that lead to an entry from the root. -/
abbrev Place := List String

/-- A place lies in a directory, at any depth. -/
def isBelow (directory place : Place) : Bool :=
  directory.isPrefixOf place && directory.length < place.length

/-- The tree with nothing but the root. -/
def empty : FileTree := ⟨[]⟩

/-- The entry at a place. -/
def node? (tree : FileTree) (place : Place) : Option Node :=
  if place.isEmpty then some .directory else tree.entries.lookup place

/-- A tree with an entry, which replaces the one at its place. -/
def put (tree : FileTree) (place : Place) (node : Node) : FileTree :=
  ⟨tree.entries.filter (·.1 ≠ place) ++ [(place, node)]⟩

/-- A tree with a directory, if nothing is at its place. -/
def putDirectory (tree : FileTree) (place : Place) : FileTree :=
  if (tree.node? place).isSome then tree else tree.put place .directory

/-- A tree with a directory and those that lead to it. -/
def putDirectories (tree : FileTree) (place : Place) : FileTree :=
  ((List.range place.length).map fun n => place.take (n + 1)).foldl putDirectory tree

/-- A tree without what lies in a directory. -/
def clear (tree : FileTree) (directory : Place) : FileTree :=
  ⟨tree.entries.filter fun entry => !isBelow directory entry.1⟩

/-- A tree without the entry at a place. -/
def erase (tree : FileTree) (place : Place) : FileTree :=
  ⟨tree.entries.filter fun entry => entry.1 ≠ place⟩

/-- A directory has no entries. -/
def isEmptyAt (tree : FileTree) (directory : Place) : Bool :=
  !tree.entries.any fun entry => isBelow directory entry.1

end FileTree

end Webrev
