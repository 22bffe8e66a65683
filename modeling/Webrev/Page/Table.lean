import Webrev.Page.Header
import Webrev.Page.Row

/-!
# Reading the metadata table

The lines of a page are read one after the other. Those before the first line that begins with
`<table>` do not count; from that one on the rows are collected, until a line begins with
`</table>`. Nothing after that line counts.

## Main definitions

* `Page.TableReader` : how far the table of a page is read.
* `Page.TableReader.feed`, `Page.TableReader.answer` : the reader after one more line, and whether it
  goes on.
* `Page.readTable` : the table of a page, and the number of lines that were looked at.
-/

namespace Webrev.Page

/-- Where a reader stands relative to the table. -/
inductive Phase where
  | before
  | inside
  | done
  deriving DecidableEq, Repr

/-- How far the table of a page is read, and its rows so far. -/
structure TableReader where
  phase : Phase
  header : Header
  deriving DecidableEq, Repr

/-- A line that the table begins with. -/
def opensTable (line : Line) : Bool := "<table>".toList.isPrefixOf line

/-- A line that ends the table. -/
def closesTable (line : Line) : Bool := "</table>".toList.isPrefixOf line

/-- A table with the row of a line, if the line has one. -/
def Header.addLine (header : Header) (line : Line) : Header :=
  match Row.ofLine? line with
  | some row => header.insert (String.ofList row.label) (String.ofList row.cell)
  | none => header

namespace TableReader

/-- A reader that has seen no line. -/
def empty : TableReader := ⟨.before, .empty⟩

/-- The end of the table has been seen. -/
def isDone (reader : TableReader) : Bool := reader.phase == .done

/-- The reader, inside the table, after one more line. -/
def collect (reader : TableReader) (line : Line) : TableReader :=
  if closesTable line then ⟨.done, reader.header⟩ else ⟨.inside, reader.header.addLine line⟩

/-- The reader after one more line. -/
def feed (reader : TableReader) (line : Line) : TableReader :=
  match reader.phase with
  | .before => if opensTable line then reader.collect line else reader
  | .inside => reader.collect line
  | .done => reader

/-- Whether the reader goes on after one more line: not at the line that ends the table, and not after
it. -/
def answer (reader : TableReader) (line : Line) : Bool :=
  match reader.phase with
  | .before => if opensTable line then !closesTable line else true
  | .inside => !closesTable line
  | .done => false

/-- The reader after lines, of which it takes none past the end of the table, and the number of lines
that it took. -/
def feedUntilDone (reader : TableReader) : List Line → TableReader × Nat
  | [] => (reader, 0)
  | line :: rest =>
    let next := reader.feed line
    if next.isDone then (next, 1)
    else
      let (last, count) := next.feedUntilDone rest
      (last, count + 1)

/-- A reader that is done takes no more lines into account. -/
theorem feed_of_isDone {reader : TableReader} (h : reader.isDone = true) (line : Line) :
    reader.feed line = reader := by
  have hp : reader.phase = .done := by simpa [isDone] using h
  simp [feed, hp]

end TableReader

/-- The table of a page, and the number of lines that were looked at. -/
def readTable (lines : List Line) : Header × Nat :=
  let (reader, count) := TableReader.empty.feedUntilDone lines
  (reader.header, count)

end Webrev.Page
