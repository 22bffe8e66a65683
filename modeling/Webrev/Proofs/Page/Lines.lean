import Webrev.Page.LineReader

/-!
# The lines of a whole body

A body is cut at its line feeds. All pieces but the last one are lines; the last one, which no line
feed ends, is a line only when there is something in it. A reader that gets the body in chunks
completes the lines that have an end, and keeps the last piece: it holds the octets since the last
line feed in the order in which the cutting accumulates them, so one octet of a chunk is one step of
the cutting.

## Main definitions

* `Page.endedLines` : the lines of a body that a line feed ends.
* `Page.bodyLines` : all lines of a body.

## Main results

* `Page.LineReader.push_eq` : what a reader completes is what cutting gives.
* `Page.LineReader.push_empty` : the same for a reader that starts with the body.
* `Page.endedLines_prefix_append` : more octets do not change the lines that have an end.
-/

namespace Webrev.Page

/-- The pieces of a body between its line feeds, of which there is at least one. -/
def pieces (body : List UInt8) : List (List UInt8) := body.splitOn lineFeed

/-- The octets after the last line feed. -/
def lastPiece (body : List UInt8) : List UInt8 := (pieces body).getLastD []

/-- The lines of a body that a line feed ends. -/
def endedLines (body : List UInt8) : List Line := (pieces body).dropLast.map decodeLine

/-- All lines of a body, the last one of which may have no end. -/
def bodyLines (body : List UInt8) : List Line :=
  endedLines body ++ if lastPiece body = [] then [] else [decodeLine (lastPiece body)]

namespace LineReader

/-- What a reader completes, and what it keeps, is what cutting gives when the octets that it has
kept stand before the chunk. -/
theorem push_eq (reader : LineReader) (chunk : List UInt8) :
    reader.push chunk =
      (((chunk.splitOnPPrepend (· == lineFeed) reader.pending).dropLast.map decodeLine),
        ⟨((chunk.splitOnPPrepend (· == lineFeed) reader.pending).getLastD []).reverse⟩) := by
  -- A line feed ends the piece that the reader keeps, and any other octet makes it longer by one.
  induction chunk generalizing reader with
  | nil => simp [push]
  | cons b rest ih =>
    rw [push]
    by_cases hb : b = lineFeed
    · have hne : rest.splitOnP (· == lineFeed) ≠ [] := List.splitOnP_ne_nil _ rest
      rw [if_pos hb, List.splitOnPPrepend_cons_pos (by simpa using hb), ih empty]
      obtain ⟨piece, more, hmore⟩ := List.exists_cons_of_ne_nil hne
      simp [empty, hmore]
    · rw [if_neg hb, List.splitOnPPrepend_cons_neg (by simpa using hb), ih]

/-- A reader that starts with a body completes its ended lines and keeps its last piece. -/
theorem push_empty (body : List UInt8) :
    empty.push body = (endedLines body, ⟨(lastPiece body).reverse⟩) :=
  push_eq empty body

/-- The last line of a body is the one without an end. -/
theorem endedLines_append_finish (body : List UInt8) :
    endedLines body ++ (finish ⟨(lastPiece body).reverse⟩).toList = bodyLines body := by
  unfold finish bodyLines
  by_cases h : lastPiece body = []
  · simp [h]
  · simp [h]

end LineReader

/-- The lines that a part of a body ends are the first ones of the whole body. -/
theorem endedLines_prefix_append (front rest : List UInt8) :
    endedLines front <+: endedLines (front ++ rest) := by
  have hpush := LineReader.push_append .empty front rest
  rw [LineReader.push_empty, LineReader.push_empty] at hpush
  exact ⟨_, (congrArg Prod.fst hpush).symm⟩

end Webrev.Page
