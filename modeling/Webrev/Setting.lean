import Webrev.Repository.Basic

/-!
# Settings

A setting is what the command line says, and else what the configuration of the repository says, if
it says exactly one thing.

## Main definitions

* `Setting.key` : the configuration key of a setting.
* `Setting.theOnly` : the value of a key that has exactly one.
* `Queries.setting` : a setting.
-/

namespace Webrev

namespace Setting

/-- The configuration key of a setting. -/
def key (name : String) : String := "webrev." ++ name

/-- The value of a key that has exactly one. -/
def theOnly : List String → Option String
  | [value] => some value
  | _ => none

end Setting

/-- The setting with a name, which a flag may give. -/
def Queries.setting {ω : Type} (queries : Queries ω) (flag : Option String) (name : String) :
    Attempt ω RepositoryError (Option String) := do
  match flag with
  | some value => return some value
  | none => return Setting.theOnly (← queries.query (.config (Setting.key name)))

end Webrev
