/-!
# Downloaded patches

A patch is downloaded into a file of a directory for temporary files. The file is removed when it is
released. Files are written piece by piece, and each time the device may fail; what it answers is
given beforehand.

## Main definitions

* `PatchFile` : a downloaded patch.
* `Spool` : the temporary files.
* `Spool.create` : a fresh file.
* `Spool.write`, `Spool.flush` : octets written at the end of a file.
* `Spool.remove` : a file taken away.
-/

namespace Webrev

/-- A downloaded patch, and where it lies. -/
structure PatchFile where
  path : String
  contents : List UInt8
  deriving DecidableEq, Repr

/-- What a device answers when it is to store something: it does, or it fails after so many
octets. -/
inductive Spool.Reply where
  | done
  | failed (written : Nat)
  deriving DecidableEq, Repr

/-- The temporary files in a directory, which may be missing, and the number that is tried first for
the next one. Each request to store something takes the next of the replies, and a request without a
reply is carried out. -/
structure Spool where
  directory : String
  available : Bool
  files : List PatchFile
  made : Nat
  replies : List Spool.Reply
  deriving DecidableEq, Repr

namespace Spool

/-- The six characters that tell the temporary files apart. -/
def mark (n : Nat) : String :=
  let digits := String.ofList (Nat.toDigits 10 n)
  String.ofList (List.replicate (6 - digits.length) '0') ++ digits

/-- The path of the file with a number. -/
def pathOf (spool : Spool) (n : Nat) : String :=
  spool.directory ++ "/patch" ++ mark n ++ ".patch"

/-- The file at a path is there. -/
def exists? (spool : Spool) (path : String) : Bool := spool.files.any fun file => file.path == path

/-- How many names are tried for a file. -/
def tries : Nat := 65536

/-- The first number whose path is free, of those that are tried. -/
def freeNumber? (spool : Spool) : Option Nat :=
  (List.range' spool.made tries).find? fun n => !spool.exists? (spool.pathOf n)

/-- The path of a fresh file without an octet in it. There is none when the directory is missing, or
when no name is free. -/
def create (spool : Spool) : Option (String × Spool) :=
  if spool.available then
    spool.freeNumber?.map fun n =>
      (spool.pathOf n,
        { spool with files := spool.files ++ [⟨spool.pathOf n, []⟩], made := n + 1 })
  else none

/-- The files when octets stand after the others in the one at a path. -/
def extend (spool : Spool) (path : String) (octets : List UInt8) : Spool :=
  { spool with
    files := spool.files.map fun file =>
      if file.path = path then { file with contents := file.contents ++ octets } else file }

/-- The temporary files when a reply is taken. -/
def answered (spool : Spool) : Spool := { spool with replies := spool.replies.drop 1 }

/-- Octets are written at the end of a file; whether all of them are. The device is not asked to
write none. -/
def write (spool : Spool) (path : String) (octets : List UInt8) : Bool × Spool :=
  if octets.isEmpty then (true, spool)
  else
    match spool.replies.headD .done with
    | .done => (true, spool.answered.extend path octets)
    | .failed written => (false, spool.answered.extend path (octets.take written))

/-- What was written is to be stored; whether it is. -/
def flush (spool : Spool) : Bool × Spool := (spool.replies.headD .done == .done, spool.answered)

/-- The file at a path, as far as it is written. -/
def fileAt (spool : Spool) (path : String) : PatchFile :=
  ⟨path, ((spool.files.find? fun file => file.path == path).map PatchFile.contents).getD []⟩

/-- The files without the one at a path. -/
def remove (spool : Spool) (path : String) : Spool :=
  { spool with files := spool.files.filter fun file => file.path != path }

end Spool

end Webrev
