import Webrev.Proofs.Page.Lines
import Webrev.Proofs.Page.Row
import Webrev.Proofs.Page.Table
import Webrev.Proofs.Text.Utf8

/-!
# Rendered pages

A page with a table is rendered line by line: lines before the table, the line that begins it, a
line for each row, the line that ends it, and then any octets whatsoever. A line is ended by a line
feed, with or without a carriage return before it. Lines other than rows are given by their octets,
which need not be those of a text. The tags that the reader of a table looks for are ASCII words, so
whether a line has them is seen in its octets.

## Main definitions

* `Page.SentLine` : a line as it is sent.
* `Page.Rendered` : a rendered page.
* `Page.Rendered.header` : the table that a page is rendered from.

## Main results

* `Page.Header.get?_ofList` : the last row with a label counts.
* `Page.LineReader.push_sent` : the lines that were sent are the lines that are completed.
* `Page.Rendered.foldl_feed` : the lines of a rendered page give its table, and end it.
-/

namespace Webrev.Page

/-- The last row with a label counts. -/
theorem Header.get?_ofList (rows : List (String × String)) (label : String) :
    (Header.ofList rows).get? label = rows.reverse.lookup label := by
  induction rows using List.reverseRecOn with
  | nil => rfl
  | append_singleton rows row ih =>
    rw [ofList, List.foldl_append, List.foldl_cons, List.foldl_nil, get?_insert, ← ofList, ih,
      List.reverse_concat, List.lookup_cons]
    by_cases h : label = row.1
    · simp [h]
    · simp [h, beq_eq_false_iff_ne.mpr h]

/-! ### Lines as they are sent -/

/-- What ends a line. -/
inductive EndMark where
  | lineFeed
  | returnAndLineFeed
  deriving DecidableEq, Repr

/-- What of an end mark stands before the line feed. -/
def EndMark.beforeLineFeed : EndMark → List UInt8
  | .lineFeed => []
  | .returnAndLineFeed => [carriageReturn]

/-- A line as it is sent: octets without a line feed, and what ends the line. -/
structure SentLine where
  octets : List UInt8
  mark : EndMark
  octets_line : lineFeed ∉ octets
  deriving DecidableEq, Repr

namespace SentLine

variable (line : SentLine)

/-- The octets of a line up to its line feed. -/
def piece : List UInt8 := line.octets ++ line.mark.beforeLineFeed

/-- The octets that are sent for a line. -/
def sent : List UInt8 := line.piece ++ [lineFeed]

/-- What a line is read as. -/
def text : Line := decodeLine line.piece

theorem lineFeed_notMem_piece : lineFeed ∉ line.piece := by
  have hmark : lineFeed ∉ line.mark.beforeLineFeed := by cases line.mark <;> decide
  simpa [piece, hmark] using line.octets_line

/-- A line is read as the text of its octets, or of all but a carriage return at their end. -/
theorem text_cases :
    line.text = Utf8.decodeLossy line.octets ∨
      ∃ front, line.octets = front ++ [carriageReturn] ∧ line.text = Utf8.decodeLossy front := by
  unfold text decodeLine piece
  cases line.mark with
  | returnAndLineFeed => simp [EndMark.beforeLineFeed]
  | lineFeed =>
    rw [EndMark.beforeLineFeed, List.append_nil]
    split
    · next h =>
      exact .inr ⟨line.octets.dropLast, (List.dropLast_append_getLast? _ h).symm, rfl⟩
    · exact .inl rfl

/-- A line begins with an ASCII word when its octets do. -/
theorem prefix_text_iff {word : List Char} (hword : Utf8.IsAscii word)
    (hreturn : carriageReturn ∉ Utf8.encode word) :
    word <+: line.text ↔ Utf8.encode word <+: line.octets := by
  rcases line.text_cases with htext | ⟨front, hoctets, htext⟩
  · rw [htext, Utf8.prefix_decodeLossy_iff hword]
  · rw [htext, Utf8.prefix_decodeLossy_iff hword, hoctets, List.prefix_concat_iff]
    constructor
    · exact .inr
    · rintro (he | h)
      · exact absurd (he ▸ List.mem_append_right front List.mem_cons_self) hreturn
      · exact h

/-- An ASCII word that a line has is one that its octets have. -/
theorem infix_octets {word : List Char} (hword : Utf8.IsAscii word) (h : word <:+: line.text) :
    Utf8.encode word <:+: line.octets := by
  rcases line.text_cases with htext | ⟨front, hoctets, htext⟩
  · exact Utf8.infix_of_infix_decodeLossy hword (htext ▸ h)
  · rw [hoctets]
    exact (Utf8.infix_of_infix_decodeLossy hword (htext ▸ h)).trans
      (List.prefix_append ..).isInfix

/-- The octets of the line begin the table. -/
def Opens : Prop := Utf8.encode "<table>".toList <+: line.octets

/-- The octets of the line end the table. -/
def Closes : Prop := Utf8.encode "</table>".toList <+: line.octets

/-- The octets of the line hold the tag that ends a row. -/
def HasRowEnd : Prop := Utf8.encode "</tr>".toList <:+: line.octets

instance : Decidable line.Opens := inferInstanceAs (Decidable (_ <+: _))

instance : Decidable line.Closes := inferInstanceAs (Decidable (_ <+: _))

instance : Decidable line.HasRowEnd := inferInstanceAs (Decidable (_ <:+: _))

theorem opensTable_text_iff : opensTable line.text ↔ line.Opens := by
  rw [opensTable, List.isPrefixOf_iff_prefix]
  exact line.prefix_text_iff (by decide) (by decide)

theorem closesTable_text_iff : closesTable line.text ↔ line.Closes := by
  rw [closesTable, List.isPrefixOf_iff_prefix]
  exact line.prefix_text_iff (by decide) (by decide)

/-- A line without the tag that ends a row adds no row. -/
theorem addLine_text {header : Header} (h : ¬line.HasRowEnd) :
    header.addLine line.text = header := by
  unfold Header.addLine
  split
  · next row hrow => exact absurd (line.infix_octets (by decide) (Row.infix_of_ofLine? hrow)) h
  · rfl

end SentLine

/-! ### Lines that are completed -/

namespace LineReader

theorem push_append_lineFeed (pending octets rest : List UInt8) (h : lineFeed ∉ octets) :
    push ⟨pending⟩ (octets ++ lineFeed :: rest) =
      (decodeLine (pending.reverse ++ octets) :: (empty.push rest).1, (empty.push rest).2) := by
  induction octets generalizing pending with
  | nil => simp [push]
  | cons b octets ih =>
    have hb : b ≠ lineFeed := fun e => h (e ▸ List.mem_cons_self)
    rw [List.cons_append, push, if_neg hb, ih _ fun hm => h (List.mem_cons_of_mem b hm)]
    simp

/-- The lines that were sent are the lines that are completed. -/
theorem push_sent (lines : List SentLine) (rest : List UInt8) :
    empty.push (lines.flatMap SentLine.sent ++ rest) =
      (lines.map SentLine.text ++ (empty.push rest).1, (empty.push rest).2) := by
  induction lines with
  | nil => rfl
  | cons line lines ih =>
    have hline := push_append_lineFeed [] line.piece (lines.flatMap SentLine.sent ++ rest)
      line.lineFeed_notMem_piece
    rw [List.flatMap_cons, SentLine.sent, List.append_assoc, List.append_assoc,
      List.singleton_append]
    exact hline.trans (by rw [ih]; rfl)

end LineReader

/-! ### Rendered pages -/

/-- The line of a row as it is sent. -/
def Row.sentLine (row : Row) (h : row.Legible) (mark : EndMark) : SentLine where
  octets := Utf8.encode row.written
  mark := mark
  octets_line hm := h.lineFeed_notMem_written (Utf8.mem_of_mem_encode (by decide) hm)

/-- The line of a row is read as it was written. -/
theorem Row.text_sentLine (row : Row) (h : row.Legible) (mark : EndMark) :
    (row.sentLine h mark).text = row.written := by
  rcases (row.sentLine h mark).text_cases with htext | ⟨front, hoctets, -⟩
  · rw [htext, sentLine, Utf8.decodeLossy_encode]
  · -- The line does not end in a carriage return.
    have hlast : (Utf8.encode row.written).getLast? = some carriageReturn := by
      rw [show Utf8.encode row.written = _ from hoctets, List.getLast?_concat]
    obtain ⟨front, hwritten⟩ := row.exists_written_eq_append
    have hend : (Utf8.encode ">".toList).getLast? = some 0x3E := by decide
    rw [hwritten, Utf8.encode_append, List.getLast?_append, hend, Option.some_or] at hlast
    exact absurd hlast (by decide)

/-- A rendered page. No line before the table begins it, and the line that begins it has no row. -/
structure Rendered where
  preamble : List SentLine
  opening : SentLine
  rows : List ({row : Row // row.Legible} × EndMark)
  closing : SentLine
  rest : List UInt8
  preamble_opens : ∀ line ∈ preamble, ¬line.Opens
  opening_opens : opening.Opens
  opening_hasRowEnd : ¬opening.HasRowEnd
  closing_closes : closing.Closes

namespace Rendered

variable (page : Rendered)

/-- The lines of a page up to the end of its table. -/
def lines : List SentLine :=
  page.preamble ++ page.opening ::
    (page.rows.map (fun (row, mark) => row.1.sentLine row.2 mark) ++ [page.closing])

/-- The octets that are sent for a page. -/
def octets : List UInt8 := page.lines.flatMap SentLine.sent ++ page.rest

/-- The labels of a page, each with the contents next to it. -/
def pairs : List (String × String) :=
  page.rows.map fun (row, _) => (String.ofList row.1.label, String.ofList row.1.cell)

/-- The table that a page is rendered from. -/
def header : Header := .ofList page.pairs

end Rendered

namespace TableReader

/-- Lines that do not begin the table do not count before it. -/
theorem foldl_feed_before {lines : List SentLine} (h : ∀ line ∈ lines, ¬line.Opens)
    (header : Header) :
    (lines.map SentLine.text).foldl feed ⟨.before, header⟩ = ⟨.before, header⟩ := by
  induction lines with
  | nil => rfl
  | cons line lines ih =>
    obtain ⟨hline, hlines⟩ := List.forall_mem_cons.mp h
    have hopens : opensTable line.text = false :=
      Bool.eq_false_iff.mpr fun ho => hline (line.opensTable_text_iff.mp ho)
    rw [List.map_cons, List.foldl_cons, feed_before_of_not_opens header hopens, ih hlines]

/-- The line that begins the table, and has no row. -/
theorem feed_opening {line : SentLine} (hopens : line.Opens) (hrow : ¬line.HasRowEnd)
    (header : Header) : feed ⟨.before, header⟩ line.text = ⟨.inside, header⟩ := by
  have htext : opensTable line.text = true := line.opensTable_text_iff.mpr hopens
  rw [feed_before_of_opens header htext,
    feed_inside_of_not_closes header (closesTable_eq_false_of_opensTable htext),
    line.addLine_text hrow]

/-- The line that ends the table. -/
theorem feed_closing {line : SentLine} (h : line.Closes) (header : Header) :
    feed ⟨.inside, header⟩ line.text = ⟨.done, header⟩ :=
  feed_inside_of_closes header (line.closesTable_text_iff.mpr h)

theorem feed_row {row : Row} (h : row.Legible) (header : Header) :
    feed ⟨.inside, header⟩ row.written =
      ⟨.inside, header.insert (String.ofList row.label) (String.ofList row.cell)⟩ := by
  have hcloses : closesTable row.written = false := rfl
  rw [feed_inside_of_not_closes header hcloses, Header.addLine, Row.ofLine?_written h]

/-- The rows of a page are collected one after the other. -/
theorem foldl_feed_rows (rows : List ({row : Row // row.Legible} × EndMark)) (header : Header) :
    ((rows.map fun (row, mark) => row.1.sentLine row.2 mark).map SentLine.text).foldl feed
        ⟨.inside, header⟩ =
      ⟨.inside, (rows.map fun (row, _) =>
        (String.ofList row.1.label, String.ofList row.1.cell)).foldl
          (fun header pair => header.insert pair.1 pair.2) header⟩ := by
  induction rows generalizing header with
  | nil => rfl
  | cons row rows ih =>
    obtain ⟨row, mark⟩ := row
    simp only [List.map_cons, List.foldl_cons, Row.text_sentLine, feed_row row.2, ih]

end TableReader

/-- The lines of a rendered page give its table, and end it. -/
theorem Rendered.foldl_feed (page : Rendered) :
    (page.lines.map SentLine.text).foldl TableReader.feed .empty = ⟨.done, page.header⟩ := by
  rw [lines, List.map_append, List.map_cons, List.map_append, List.foldl_append,
    TableReader.empty, TableReader.foldl_feed_before page.preamble_opens, List.foldl_cons,
    TableReader.feed_opening page.opening_opens page.opening_hasRowEnd, List.foldl_append,
    TableReader.foldl_feed_rows]
  exact TableReader.feed_closing page.closing_closes _

end Webrev.Page
