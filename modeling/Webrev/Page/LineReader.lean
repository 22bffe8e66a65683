import Webrev.Text.Lines
import Webrev.Text.Utf8

/-!
# Lines of a body that arrives in chunks

A body is cut into lines as its octets arrive. Only the octets of the unfinished line are kept, so
a chunk may end anywhere, also inside a character or between a carriage return and its line feed.

## Main definitions

* `Page.Line` : a line of a page.
* `Page.LineReader` : the octets of the unfinished line.
* `Page.LineReader.push` : the lines that a chunk completes.
* `Page.LineReader.finish` : the last line of a body that does not end in a line feed.

## Main results

* `Page.LineReader.push_append` : pushing a chunk in two parts completes the same lines.
-/

namespace Webrev.Page

/-- A line of a page, without its end mark. -/
abbrev Line := List Char

/-- The octet that ends a line. -/
def lineFeed : UInt8 := 0x0A

/-- The octet that a line may have before the one that ends it. -/
def carriageReturn : UInt8 := 0x0D

/-- The text of the octets of a line. A carriage return at the end is part of the end mark. -/
def decodeLine (octets : List UInt8) : Line :=
  Utf8.decodeLossy
    (if octets.getLast? = some carriageReturn then octets.dropLast else octets)

/-- The octets of the unfinished line, last one first. -/
structure LineReader where
  pending : List UInt8
  deriving DecidableEq, Repr

namespace LineReader

/-- A reader that has seen no octet. -/
def empty : LineReader := ⟨[]⟩

/-- The lines that a chunk completes, and the reader after it. -/
def push (reader : LineReader) : List UInt8 → List Line × LineReader
  | [] => ([], reader)
  | b :: rest =>
    if b = lineFeed then
      let (lines, last) := push empty rest
      (decodeLine reader.pending.reverse :: lines, last)
    else push ⟨b :: reader.pending⟩ rest

/-- The last line of a body that does not end in a line feed. -/
def finish (reader : LineReader) : Option Line :=
  if reader.pending.isEmpty then none else some (decodeLine reader.pending.reverse)

/-- The lines that each of several chunks completes, and the reader after them. -/
def pushAll (reader : LineReader) : List (List UInt8) → List (List Line) × LineReader
  | [] => ([], reader)
  | chunk :: rest =>
    let (lines, next) := reader.push chunk
    let (more, last) := pushAll next rest
    (lines :: more, last)

/-- Pushing a chunk in two parts completes the same lines. -/
theorem push_append (reader : LineReader) (front rest : List UInt8) :
    reader.push (front ++ rest) =
      ((reader.push front).1 ++ ((reader.push front).2.push rest).1,
        ((reader.push front).2.push rest).2) := by
  induction front generalizing reader with
  | nil => rfl
  | cons b front ih =>
    rw [List.cons_append, push, push]
    split
    · simp [ih]
    · exact ih _

/-- Pushing chunks one after the other completes the lines of all of them together. -/
theorem pushAll_flatten (reader : LineReader) (chunks : List (List UInt8)) :
    reader.push chunks.flatten = ((reader.pushAll chunks).1.flatten, (reader.pushAll chunks).2) := by
  induction chunks generalizing reader with
  | nil => rfl
  | cons chunk chunks ih => simp [push_append, pushAll, ih]

end LineReader

end Webrev.Page
