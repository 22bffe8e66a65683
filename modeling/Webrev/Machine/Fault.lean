/-!
# Faults of the system

What the system answers when it cannot do what it is asked for.

## Main definitions

* `Machine.Fault` : a fault of the system.
* `Machine.Fault.message` : its description.
-/

namespace Webrev.Machine

/-- A fault of the system. -/
inductive Fault where
  | noEntry
  | permission
  | busy
  | notADirectory
  | isADirectory
  | invalidArgument
  | nameTooLong
  | notEmpty
  | tooManyLinks
  | nulInPath
  | nulInArgument
  | notUtf8
  deriving DecidableEq, Repr

/-- A description with the number of the fault. -/
def numbered (text : String) (number : Nat) : String :=
  text ++ " (os error " ++ toString number ++ ")"

/-- The description of a fault. -/
def Fault.message : Fault → String
  | .noEntry => numbered "No such file or directory" 2
  | .permission => numbered "Permission denied" 13
  | .busy => numbered "Device or resource busy" 16
  | .notADirectory => numbered "Not a directory" 20
  | .isADirectory => numbered "Is a directory" 21
  | .invalidArgument => numbered "Invalid argument" 22
  | .nameTooLong => numbered "File name too long" 36
  | .notEmpty => numbered "Directory not empty" 39
  | .tooManyLinks => numbered "Too many levels of symbolic links" 40
  | .nulInPath => "file name contained an unexpected NUL byte"
  | .nulInArgument => "nul byte found in provided data"
  | .notUtf8 => "stream did not contain valid UTF-8"

end Webrev.Machine
