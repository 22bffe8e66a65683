import Webrev.Proofs.Page.Table

/-!
# What lines make of the cells of a table

Inside a table each line with a row says what the cell with its label holds, and nothing about any
other cell. What a cell holds in the end is therefore what the last line with its label says, and
what it held before if there is none.

## Main definitions

* `Page.labelOf?` : the label of the row in a line.
* `Page.labelsInside` : the labels in the lines up to the end of the table.

## Main results

* `Page.Header.get?_foldl_addLine_congr`, `Page.Header.get?_foldl_addLine_of_mem` : what lines make
  of a cell.
* `Page.TableReader.foldl_feed_before_of_open` : lines that begin a table and do not end it.
* `Page.readTable_append_of_open` : the table of a page that such lines are the front of.
-/

namespace Webrev.Page

/-- The label of the row in a line. -/
def labelOf? (line : Line) : Option String :=
  (Row.ofLine? line).map fun row => String.ofList row.label

/-- The labels of the rows in the lines before the first one that ends the table. -/
def labelsInside (lines : List Line) : List String :=
  (lines.takeWhile (!closesTable ·)).filterMap labelOf?

namespace Header

variable {header header' : Header} {line : Line} {label : String}

/-- A line without a row with a label leaves the cell with that label as it is. -/
theorem get?_addLine_of_ne (header : Header) (h : labelOf? line ≠ some label) :
    (header.addLine line).get? label = header.get? label := by
  unfold addLine
  cases hrow : Row.ofLine? line with
  | none => rfl
  | some row =>
    have hne : label ≠ String.ofList row.label := fun he => h (by rw [labelOf?, hrow, he]; rfl)
    rw [get?_insert, if_neg hne]

/-- What the cell with the label of the row in a line held before does not count. -/
theorem get?_addLine_of_eq (header header' : Header) (h : labelOf? line = some label) :
    (header.addLine line).get? label = (header'.addLine line).get? label := by
  unfold addLine
  cases hrow : Row.ofLine? line with
  | none => exact nomatch (congrArg (Option.map _) hrow).symm.trans h
  | some row =>
    rw [labelOf?, hrow] at h
    rw [get?_insert, get?_insert, if_pos (Option.some.inj h).symm, if_pos (Option.some.inj h).symm]

/-- Lines make the same of a cell in any two tables in which it holds the same. -/
theorem get?_foldl_addLine_congr (lines : List Line) (h : header.get? label = header'.get? label) :
    (lines.foldl addLine header).get? label = (lines.foldl addLine header').get? label := by
  induction lines generalizing header header' with
  | nil => exact h
  | cons line lines ih =>
    refine ih ?_
    by_cases hlabel : labelOf? line = some label
    · exact get?_addLine_of_eq header header' hlabel
    · rw [get?_addLine_of_ne header hlabel, get?_addLine_of_ne header' hlabel, h]

/-- What a cell held before lines with its label does not count. -/
theorem get?_foldl_addLine_of_mem (header header' : Header) {lines : List Line}
    (h : label ∈ lines.filterMap labelOf?) :
    (lines.foldl addLine header).get? label = (lines.foldl addLine header').get? label := by
  induction lines generalizing header header' with
  | nil => exact nomatch h
  | cons line lines ih =>
    by_cases hlabel : labelOf? line = some label
    · exact get?_foldl_addLine_congr lines (get?_addLine_of_eq header header' hlabel)
    · refine ih _ _ ?_
      obtain ⟨other, hother, hl⟩ := List.mem_filterMap.mp h
      obtain rfl | hother := List.mem_cons.mp hother
      · exact absurd hl hlabel
      · exact List.mem_filterMap.mpr ⟨other, hother, hl⟩

end Header

namespace TableReader

/-- Inside the table the lines before the next one that ends it count. -/
theorem header_foldl_inside (header : Header) (lines : List Line) :
    (lines.foldl feed ⟨.inside, header⟩).header =
      (lines.takeWhile (!closesTable ·)).foldl Header.addLine header := by
  induction lines generalizing header with
  | nil => rfl
  | cons line lines ih =>
    rw [List.foldl_cons]
    cases hc : closesTable line with
    | true =>
      rw [feed_inside_of_closes header hc, foldl_feed_of_isDone rfl,
        List.takeWhile_cons_of_neg (by simp [hc])]
      rfl
    | false =>
      rw [feed_inside_of_not_closes header hc, ih, List.takeWhile_cons_of_pos (by simp [hc]),
        List.foldl_cons]

/-- Inside the table lines that do not end it leave a reader there. -/
theorem foldl_feed_inside (header : Header) {lines : List Line}
    (h : lines.any closesTable = false) :
    lines.foldl feed ⟨.inside, header⟩ = ⟨.inside, lines.foldl Header.addLine header⟩ := by
  induction lines generalizing header with
  | nil => rfl
  | cons line lines ih =>
    rw [List.any_cons, Bool.or_eq_false_iff] at h
    rw [List.foldl_cons, feed_inside_of_not_closes header h.1, ih _ h.2, List.foldl_cons]

/-- Lines that begin a table and do not end it leave a reader inside it. -/
theorem foldl_feed_before_of_open (header : Header) {lines : List Line}
    (hopens : lines.any opensTable = true) (hcloses : closesAmong lines = false) :
    lines.foldl feed ⟨.before, header⟩ =
      ⟨.inside, (lines.dropWhile (!opensTable ·)).foldl Header.addLine header⟩ := by
  induction lines with
  | nil => exact nomatch hopens
  | cons line lines ih =>
    cases ho : opensTable line with
    | true =>
      rw [closesAmong, List.dropWhile_cons_of_neg (by simp [ho])] at hcloses
      rw [List.foldl_cons, feed_before_of_opens header ho, ← List.foldl_cons,
        foldl_feed_inside header hcloses, List.dropWhile_cons_of_neg (by simp [ho])]
    | false =>
      rw [closesAmong, List.dropWhile_cons_of_pos (by simp [ho])] at hcloses
      rw [List.any_cons, ho, Bool.false_or] at hopens
      rw [List.foldl_cons, feed_before_of_not_opens header ho, ih hopens hcloses,
        List.dropWhile_cons_of_pos (by simp [ho])]

end TableReader

/-- The table of a page whose first lines begin a table and do not end it: their rows, and then
those of the lines that follow up to the end of the table. -/
theorem readTable_append_of_open {front : List Line} (hopens : front.any opensTable = true)
    (hcloses : closesAmong front = false) (rest : List Line) :
    (readTable (front ++ rest)).1 =
      (rest.takeWhile (!closesTable ·)).foldl Header.addLine (readTable front).1 := by
  rw [readTable_fst, readTable_fst, List.foldl_append, TableReader.empty,
    TableReader.foldl_feed_before_of_open _ hopens hcloses, TableReader.header_foldl_inside]

end Webrev.Page
