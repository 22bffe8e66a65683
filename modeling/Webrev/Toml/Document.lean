import Webrev.Toml.Number
import Webrev.Toml.Value

/-!
# TOML documents

A document is a sequence of lines, each of which opens a header, gives a key a value, or is blank but
for a comment.

## Main definitions

* `Toml.keyPath?` : reads a key, which may be dotted.
* `Toml.value?` : reads a value.
* `Toml.parse?` : the entries of a document.
-/

namespace Webrev.Toml

/-! ### Blanks, comments and line ends -/

/-- A blank within a line. -/
def isSpace (c : Char) : Bool := c == ' ' || c == '\t'

/-- A text without the blanks at its front. -/
def skipSpaces (text : List Char) : List Char := text.dropWhile isSpace

/-- A text without the comment at its front. -/
def skipComment : List Char → List Char
  | '#' :: rest => rest.dropWhile isTextChar
  | text => text

/-- Reads the end of a line, or that of the text. -/
def lineEnd? : Reader Unit
  | [] => some ((), [])
  | '\n' :: rest => some ((), rest)
  | '\r' :: '\n' :: rest => some ((), rest)
  | _ => none

/-- Reads the rest of a line, which holds nothing but blanks and a comment. -/
def restOfLine? (text : List Char) : Option (Unit × List Char) :=
  lineEnd? (skipComment (skipSpaces text))

/-- A text without the blanks, the line ends and the comments at its front. `inComment` says that the
text begins within a comment. -/
def skipLinesFrom (inComment : Bool) : List Char → List Char
  | [] => []
  | '\r' :: '\n' :: rest => skipLinesFrom false rest
  | c :: rest =>
    if c = '\n' then skipLinesFrom false rest
    else if inComment then
      if isTextChar c then skipLinesFrom true rest else c :: rest
    else if isSpace c then skipLinesFrom false rest
    else if c = '#' then skipLinesFrom true rest
    else c :: rest

/-- A text without the blanks, the line ends and the comments at its front. -/
def skipLines (text : List Char) : List Char := skipLinesFrom false text

/-! ### Sequences -/

/-- Reads what comes between separators, at least once. -/
def separated {α : Type} (item : Reader α) (separator : Char) (text : List Char) :
    Option (List α × List Char) :=
  match item text with
  | none => none
  | some (a, rest) =>
    match rest with
    | c :: next =>
      if c = separator then
        if next.length < text.length then
          (separated item separator next).map fun (more, rest) => (a :: more, rest)
        else none
      else some ([a], rest)
    | [] => some ([a], [])
termination_by text.length

/-! ### Keys -/

/-- The number of keys in a dotted key, and of values within one another, is less than this. -/
def depthLimit : Nat := 80

/-- A character of a key that stands without quotes. -/
def isBareChar (c : Char) : Bool := c.isAlphanum || c == '-' || c == '_'

/-- Reads a key between quotes or without them. -/
def simpleKey? (text : List Char) : Option (String × List Char) :=
  match shortString? text with
  | some (key, rest) => some (String.ofList key, rest)
  | none =>
    match text.takeWhile isBareChar with
    | [] => none
    | key => some (String.ofList key, text.dropWhile isBareChar)

/-- Reads one key of a dotted key, with the blanks around it. -/
def keyPart? (text : List Char) : Option (String × List Char) :=
  (simpleKey? (skipSpaces text)).map fun (key, rest) => (key, skipSpaces rest)

/-- Reads a key, which may be dotted; the keys that lead to it, and itself. -/
def keyPath? (text : List Char) : Option ((List String × String) × List Char) :=
  (separated keyPart? '.' text).bind fun (keys, rest) =>
    if keys.length < depthLimit then keys.getLast?.map fun key => ((keys.dropLast, key), rest)
    else none

/-! ### Values -/

/-- Reads an array after its bracket. -/
def array? (item : Reader Value) (text : List Char) : Option (Value × List Char) :=
  let spaced : Reader (Option Value) := fun text =>
    match skipLines text with
    | ']' :: rest => some (none, ']' :: rest)
    | text => (item text).map fun (value, rest) => (some value, skipLines rest)
  (separated spaced ',' text).bind fun (items, rest) =>
    match rest with
    | ']' :: rest => some (.array (items.filterMap id), rest)
    | _ => none

/-- Reads a key with its value, and the blanks after it. -/
def assignment? (item : Reader Value) (text : List Char) :
    Option ((List String × String × Value) × List Char) := do
  let ((path, key), rest) ← keyPath? text
  let (_, rest) ← mark? '=' rest
  let (value, rest) ← item (skipSpaces rest)
  return ((path, key, value), skipSpaces rest)

/-- The table that assignments between braces make. -/
def inlineTable? (assignments : List (List String × String × Value)) : Option Value :=
  (assignments.foldlM
    (fun entries (path, key, value) => Entries.assign .inlined entries path key value) []).map
      (.table .inlined)

/-- Reads a table after its brace. -/
def braces? (item : Reader Value) (text : List Char) : Option (Value × List Char) :=
  match skipSpaces text with
  | '\x7d' :: rest => some (.table .inlined [], rest)
  | text =>
    (separated (assignment? item) ',' text).bind fun (assignments, rest) =>
      match rest with
      | '\x7d' :: rest => (inlineTable? assignments).map fun table => (table, rest)
      | _ => none

/-- Reads a number or a date. -/
def number? (text : List Char) : Option (Value × List Char) :=
  ((dateTime? text).map fun (_, rest) => (.dateTime, rest)).or
    (((float? text).map fun (_, rest) => (.float, rest)).or
      ((integer? text).map fun (n, rest) => (.integer n, rest)))

/-- Reads a value that holds no others. -/
def scalar? : Reader Value
  | 't' :: 'r' :: 'u' :: 'e' :: rest => some (.boolean true, rest)
  | 'f' :: 'a' :: 'l' :: 's' :: 'e' :: rest => some (.boolean false, rest)
  | '"' :: rest =>
    (string? ('"' :: rest)).map fun (text, rest) => (.string (String.ofList text), rest)
  | '\'' :: rest =>
    (string? ('\'' :: rest)).map fun (text, rest) => (.string (String.ofList text), rest)
  | text => number? text

/-- Reads a value within which so many may stand within one another. -/
def valueWithin? : Nat → Reader Value
  | 0, text => if text.head? = some '[' ∨ text.head? = some '\x7b' then none else scalar? text
  | depth + 1, text =>
    match text with
    | '[' :: rest => array? (valueWithin? depth) rest
    | '\x7b' :: rest => braces? (valueWithin? depth) rest
    | text => scalar? text

/-- Reads a value. -/
def value? : Reader Value := valueWithin? (depthLimit - 1)

/-! ### Documents -/

/-- A document as far as it is read, and the keys of the header that is open. -/
structure Draft where
  entries : Entries
  header : List String

/-- Reads the header of a table of an array, after its brackets. -/
def arrayHeader? (draft : Draft) (text : List Char) : Option (Draft × List Char) := do
  let ((path, key), rest) ← keyPath? text
  let (_, rest) ← mark? ']' rest
  let (_, rest) ← mark? ']' rest
  let (_, rest) ← restOfLine? rest
  let entries ← draft.entries.openArrayHeader path key
  return (⟨entries, path ++ [key]⟩, rest)

/-- Reads the header of a table, after its bracket. -/
def header? (draft : Draft) (text : List Char) : Option (Draft × List Char) := do
  let ((path, key), rest) ← keyPath? text
  let (_, rest) ← mark? ']' rest
  let (_, rest) ← restOfLine? rest
  let entries ← draft.entries.openHeader path key
  return (⟨entries, path ++ [key]⟩, rest)

/-- Reads a line that gives a key a value. -/
def assignmentLine? (draft : Draft) (text : List Char) : Option (Draft × List Char) := do
  let ((path, key, value), rest) ← assignment? value? text
  let (_, rest) ← restOfLine? rest
  let entries ← draft.entries.assignUnder draft.header path key value
  return (⟨entries, draft.header⟩, rest)

/-- Reads a line, from its first character that is not blank on. -/
def line? (draft : Draft) : Reader Draft
  | '[' :: '[' :: rest => arrayHeader? draft rest
  | '[' :: rest => header? draft rest
  | '#' :: rest => (restOfLine? ('#' :: rest)).map fun (_, rest) => (draft, rest)
  | '\n' :: rest => some (draft, rest)
  | '\r' :: rest => (lineEnd? ('\r' :: rest)).map fun (_, rest) => (draft, rest)
  | text => assignmentLine? draft text

/-- The entries of the rest of a document. -/
def parseFrom? (draft : Draft) (text : List Char) : Option Entries :=
  match skipSpaces text with
  | [] => some draft.entries
  | c :: rest =>
    match line? draft (c :: rest) with
    | none => none
    | some (draft, next) =>
      if next.length < text.length then parseFrom? draft next else none
termination_by text.length

/-- The entries of a document, which may begin with a mark of the order of octets. -/
def parse? (text : List Char) : Option Entries :=
  parseFrom? ⟨[], []⟩ (match text with
    | '\uFEFF' :: rest => rest
    | text => text)

end Webrev.Toml
