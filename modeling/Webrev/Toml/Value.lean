/-!
# TOML values

The values of a TOML document. A table remembers how it came about, since that decides whether it may
be extended later on.

## Main definitions

* `Toml.Kind` : how a table came about.
* `Toml.Value` : a value.
* `Toml.Value.openHeader`, `Toml.Value.openArrayHeader` : a document in which a header is opened.
* `Toml.Value.assign` : a document in which a key under a header is given a value.
-/

namespace Webrev.Toml

/-- How a table came about: by its own header, by the header of a table below it, by a dotted key, or
between braces. -/
inductive Kind where
  | header
  | implied
  | dotted
  | inlined
  deriving DecidableEq, Repr

/-- A value. An array of tables is written with headers, and any other array between brackets. -/
inductive Value where
  | string (text : String)
  | integer (n : Int)
  | float
  | boolean (b : Bool)
  | dateTime
  | array (items : List Value)
  | table (kind : Kind) (entries : List (String × Value))
  | tables (items : List (List (String × Value)))

/-- The entries of a table, no key standing twice. -/
abbrev Entries := List (String × Value)

/-- The entries of a table with another value for a key. -/
def Entries.set (entries : Entries) (key : String) (value : Value) : Entries :=
  if (entries.lookup key).isSome then
    entries.map fun entry => if entry.1 = key then (key, value) else entry
  else entries ++ [(key, value)]

/-! ### Tables below a table -/

/-- Keys lead on through a table that came about in some way. Dotted keys lead only through tables
without a header, and nothing leads into what stands between braces. -/
def Kind.leadsOn (kind : Kind) (dotted : Bool) : Bool :=
  match kind with
  | .header => !dotted
  | .implied | .dotted => true
  | .inlined => false

/-- The entries of a table in which the table that keys lead to is changed. Tables that are missing
on the way are made. -/
def Entries.update (dotted : Bool) (change : Kind → Entries → Option Entries) (kind : Kind)
    (entries : Entries) : List String → Option Entries
  | [] => change kind entries
  | key :: rest =>
    match entries.lookup key with
    | none => do
      let made := if dotted then Kind.dotted else Kind.implied
      let child ← Entries.update dotted change made [] rest
      return entries.set key (.table made child)
    | some (.table kind child) =>
      if kind.leadsOn dotted then do
        let child ← Entries.update dotted change kind child rest
        return entries.set key (.table kind child)
      else none
    | some (.tables items) =>
      match items.getLast? with
      | some child => do
        let child ← Entries.update dotted change .header child rest
        return entries.set key (.tables (items.dropLast ++ [child]))
      | none => none
    | some _ => none

/-- The entries of a table in which a key, which may be dotted, is given a value. No key is given a
value twice, and a dotted key adds only to tables that dotted keys made. -/
def Entries.assign (kind : Kind) (entries : Entries) (path : List String) (key : String)
    (value : Value) : Option Entries :=
  Entries.update true
    (fun kind entries =>
      if (kind == .dotted) == path.isEmpty then none
      else if (entries.lookup key).isSome then none
      else some (entries.set key value))
    kind entries path

/-! ### Documents -/

/-- A document in which the header of a table is opened. -/
def Entries.openHeader (document : Entries) (path : List String) (key : String) : Option Entries :=
  Entries.update false
    (fun _ entries =>
      match entries.lookup key with
      | none => some (entries.set key (.table .header []))
      | some (.table .implied child) => some (entries.set key (.table .header child))
      | some _ => none)
    .header document path

/-- A document in which the header of one more table of an array is opened. -/
def Entries.openArrayHeader (document : Entries) (path : List String) (key : String) :
    Option Entries :=
  Entries.update false
    (fun _ entries =>
      match entries.lookup key with
      | none => some (entries.set key (.tables [[]]))
      | some (.tables items) => some (entries.set key (.tables (items ++ [[]])))
      | some _ => none)
    .header document path

/-- A document in which a key under a header is given a value. -/
def Entries.assignUnder (document : Entries) (header path : List String) (key : String)
    (value : Value) : Option Entries :=
  Entries.update false (fun kind entries => Entries.assign kind entries path key value) .header
    document header

end Webrev.Toml
