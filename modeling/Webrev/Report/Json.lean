import Webrev.Metadata.Basic

/-!
# Reports in JSON

The metadata of a webrev as a JSON object, one field a line. Absent fields are `null`.

## Main definitions

* `Report.Json.quoted` : a text as a JSON string.
* `Report.Json.metadata` : the metadata of a webrev.
-/

namespace Webrev.Report.Json

/-- A hexadecimal digit in lower case. -/
def hexDigit (n : Nat) : Char := Nat.digitChar n

/-- A character within a JSON string. -/
def escaped (c : Char) : List Char :=
  match c with
  | '"' => "\\\"".toList
  | '\\' => "\\\\".toList
  | '\x08' => "\\b".toList
  | '\x0C' => "\\f".toList
  | '\n' => "\\n".toList
  | '\r' => "\\r".toList
  | '\t' => "\\t".toList
  | c =>
    if c.toNat < 0x20 then "\\u00".toList ++ [hexDigit (c.toNat / 16), hexDigit (c.toNat % 16)]
    else [c]

/-- A text as a JSON string. -/
def quoted (text : String) : String :=
  String.ofList ('"' :: text.toList.flatMap escaped ++ ['"'])

/-- A text that may be absent. -/
def optional : Option String → String
  | some text => quoted text
  | none => "null"

/-- An object whose fields stand in lines of their own, within so many levels. -/
def object (level : Nat) (fields : List (String × String)) : String :=
  let inner := String.ofList (List.replicate (2 * (level + 1)) ' ')
  let outer := String.ofList (List.replicate (2 * level) ' ')
  "\x7b\n" ++
    String.intercalate ",\n"
      (fields.map fun (label, value) => inner ++ quoted label ++ ": " ++ value) ++
    "\n" ++ outer ++ "\x7d"

/-- The counts of a change. -/
def summary (s : Summary) : String :=
  object 1
    [("insertions", toString s.insertions), ("deletions", toString s.deletions),
      ("modifications", toString s.modifications), ("lines_changed", toString s.linesChanged)]

/-- The metadata of a webrev. -/
def metadata (m : Metadata) : String :=
  object 0
    [("source_uri", quoted m.sourceUri.text), ("branch", optional m.branch),
      ("author", optional m.author), ("summary", (m.summary.map summary).getD "null"),
      ("workspace", optional m.workspace),
      ("repository_uri", optional (m.repositoryUri.map UriReference.text)),
      ("compare_against", optional m.compareAgainst),
      ("compare_against_version", optional m.compareAgainstVersion),
      ("compare_against_revision", optional m.compareAgainstRevision),
      ("patch_uri", optional (m.patchUri.map Url.text)),
      ("changeset_uri", optional (m.changesetUri.map Url.text))]

end Webrev.Report.Json
