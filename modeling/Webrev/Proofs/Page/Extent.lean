import Webrev.Proofs.Page.Cells
import Mathlib.Data.List.Induction

/-!
# Where the table of a page begins and ends

What a reader of a table has to know of the lines so far are two places: that of the first line that
begins the table, and that of the first line from there on that ends it. As long as the first one is
not known nothing is collected; from then on every line is, the one that begins the table among
them; and once the second one is known nothing changes any more, neither when a line begins another
table nor when one ends it. Each of the three phases of a reader says which of the places are known
and what has been collected. One more line keeps this, and so it holds after any lines.

## Main definitions

* `Page.tableStart?`, `Page.tableEnd?` : the places of the lines that begin and end the table.
* `Page.tableLines` : the lines from the one up to the other.
* `Page.TableReader.HasRead` : what a reader knows of the lines so far.

## Main results

* `Page.TableReader.HasRead.feed` : one more line.
* `Page.TableReader.hasRead_foldl_feed` : any lines.
* `Page.Header.get?_foldl_addLine_empty` : the last row with a label counts.
* `Page.feed_extent` : the table of a page, and the answers on the way.
-/

namespace Webrev.Page

/-- The place of the first line that begins the table. -/
def tableStart? (lines : List Line) : Option Nat := lines.findIdx? opensTable

/-- The place of the first line that ends the table, from the line on that begins it. -/
def tableEnd? (lines : List Line) : Option Nat :=
  (tableStart? lines).bind fun i => ((lines.drop i).findIdx? closesTable).map (i + ·)

/-- The lines of the table: from the one that begins it up to the one that ends it, or up to the
last one when none ends it; none when no line begins it. -/
def tableLines (lines : List Line) : List Line :=
  match tableStart? lines with
  | none => []
  | some i => (lines.take ((tableEnd? lines).getD lines.length)).drop i

/-! ### One more line -/

section Concat

variable {lines : List Line} {line : Line} {i j : Nat}

theorem lt_length_of_tableStart? (h : tableStart? lines = some i) : i < lines.length :=
  (List.findIdx?_eq_some_iff_getElem.mp h).1

theorem tableEnd?_eq_some_iff :
    tableEnd? lines = some j ↔
      ∃ i k, tableStart? lines = some i ∧ (lines.drop i).findIdx? closesTable = some k ∧
        i + k = j := by
  simp only [tableEnd?, Option.bind_eq_some_iff, Option.map_eq_some_iff]
  constructor
  · rintro ⟨i, hi, k, hk, hj⟩
    exact ⟨i, k, hi, hk, hj⟩
  · rintro ⟨i, k, hi, hk, hj⟩
    exact ⟨i, hi, k, hk, hj⟩

theorem lt_length_of_tableEnd? (h : tableEnd? lines = some j) : j < lines.length := by
  obtain ⟨i, k, -, hk, rfl⟩ := tableEnd?_eq_some_iff.mp h
  have hlt := (List.findIdx?_eq_some_iff_getElem.mp hk).1
  rw [List.length_drop] at hlt
  omega

theorem tableStart?_concat (lines : List Line) (line : Line) :
    tableStart? (lines ++ [line]) =
      (tableStart? lines).or (if opensTable line then some lines.length else none) := by
  rw [tableStart?, List.findIdx?_append, ← tableStart?, List.findIdx?_cons, List.findIdx?_nil]
  cases opensTable line with
  | true => simp
  | false => simp

theorem tableEnd?_concat (hstart : tableStart? lines = some i) (line : Line) :
    tableEnd? (lines ++ [line]) =
      (tableEnd? lines).or (if closesTable line then some lines.length else none) := by
  have hi := lt_length_of_tableStart? hstart
  have hlength : i + (lines.length - i) = lines.length := by omega
  rw [tableEnd?, tableStart?_concat, tableEnd?, hstart, Option.some_or, Option.bind_some,
    Option.bind_some, List.drop_append_of_le_length (Nat.le_of_lt hi), List.findIdx?_append,
    List.length_drop, List.findIdx?_cons, List.findIdx?_nil]
  cases (lines.drop i).findIdx? closesTable with
  | some k => rfl
  | none =>
    cases closesTable line with
    | true => simp [hlength]
    | false => simp

end Concat

namespace TableReader

/-- Where a reader stands after lines, and what it has collected: nothing before the table, the rows
of the lines since it began inside it, and the rows of the lines of the table once it has ended. -/
inductive HasRead (lines : List Line) : TableReader → Prop
  | before (hstart : tableStart? lines = none) : HasRead lines .empty
  | inside {i : Nat} (hstart : tableStart? lines = some i) (hend : tableEnd? lines = none) :
      HasRead lines ⟨.inside, (lines.drop i).foldl Header.addLine .empty⟩
  | done {i j : Nat} (hstart : tableStart? lines = some i) (hend : tableEnd? lines = some j) :
      HasRead lines ⟨.done, ((lines.take j).drop i).foldl Header.addLine .empty⟩

/-- A reader knows of one more line what it knew of the lines before. -/
theorem HasRead.feed {lines : List Line} {reader : TableReader} (h : HasRead lines reader)
    (line : Line) : HasRead (lines ++ [line]) (reader.feed line) := by
  cases h with
  | before hstart =>
    by_cases hopens : opensTable line = true
    · have hcloses := closesTable_eq_false_of_opensTable hopens
      have hstart' : tableStart? (lines ++ [line]) = some lines.length := by
        rw [tableStart?_concat, hstart, if_pos hopens, Option.none_or]
      have hend' : tableEnd? (lines ++ [line]) = none := by
        simp [tableEnd?, hstart', List.findIdx?_cons, hcloses]
      have hinside := HasRead.inside hstart' hend'
      rw [List.drop_left] at hinside
      rw [empty, feed_before_of_opens _ hopens, feed_inside_of_not_closes _ hcloses]
      exact hinside
    · have hstart' : tableStart? (lines ++ [line]) = none := by
        rw [tableStart?_concat, hstart, if_neg hopens, Option.none_or]
      rw [empty, feed_before_of_not_opens _ (Bool.eq_false_iff.mpr hopens)]
      exact .before hstart'
  | @inside i hstart hend =>
    have hi := lt_length_of_tableStart? hstart
    have hstart' : tableStart? (lines ++ [line]) = some i := by
      rw [tableStart?_concat, hstart, Option.some_or]
    by_cases hcloses : closesTable line = true
    · have hend' : tableEnd? (lines ++ [line]) = some lines.length := by
        rw [tableEnd?_concat hstart, hend, if_pos hcloses, Option.none_or]
      have hdone := HasRead.done hstart' hend'
      rw [List.take_left] at hdone
      rw [feed_inside_of_closes _ hcloses]
      exact hdone
    · have hend' : tableEnd? (lines ++ [line]) = none := by
        rw [tableEnd?_concat hstart, hend, if_neg hcloses, Option.none_or]
      have hinside := HasRead.inside hstart' hend'
      rw [List.drop_append_of_le_length (Nat.le_of_lt hi), List.foldl_append] at hinside
      rw [feed_inside_of_not_closes _ (Bool.eq_false_iff.mpr hcloses)]
      exact hinside
  | @done i j hstart hend =>
    have hj := lt_length_of_tableEnd? hend
    have hstart' : tableStart? (lines ++ [line]) = some i := by
      rw [tableStart?_concat, hstart, Option.some_or]
    have hend' : tableEnd? (lines ++ [line]) = some j := by
      rw [tableEnd?_concat hstart, hend, Option.some_or]
    have hdone := HasRead.done hstart' hend'
    rw [List.take_append_of_le_length (Nat.le_of_lt hj)] at hdone
    exact hdone

/-- A new reader knows of any lines where the table begins and ends in them. -/
theorem hasRead_foldl_feed (lines : List Line) : HasRead lines (lines.foldl feed .empty) := by
  induction lines using List.reverseRecOn with
  | nil => exact .before rfl
  | append_singleton lines line ih =>
    rw [List.foldl_append, List.foldl_cons, List.foldl_nil]
    exact ih.feed line

/-- What a reader has collected is what the lines of the table make of an empty one. -/
theorem HasRead.header_eq {lines : List Line} {reader : TableReader} (h : HasRead lines reader) :
    reader.header = (tableLines lines).foldl Header.addLine .empty := by
  cases h with
  | before hstart => simp [tableLines, hstart, empty]
  | inside hstart hend => simp [tableLines, hstart, hend]
  | done hstart hend => simp [tableLines, hstart, hend]

/-- A reader is done when the end of the table is among the lines. -/
theorem HasRead.isDone_iff {lines : List Line} {reader : TableReader} (h : HasRead lines reader) :
    reader.isDone = true ↔ ∃ j, tableEnd? lines = some j := by
  cases h with
  | before hstart => simp [isDone, empty, tableEnd?, hstart]
  | inside hstart hend => simp [isDone, hend]
  | done hstart hend => simp [isDone, hend]

/-- A reader goes on after a line as long as it is not done with it. -/
theorem answer_eq (reader : TableReader) (line : Line) :
    reader.answer line = !(reader.feed line).isDone := by
  obtain ⟨phase, header⟩ := reader
  cases phase with
  | before =>
    by_cases hopens : opensTable line = true
    · by_cases hcloses : closesTable line = true
      · simp [answer, feed, collect, isDone, hopens, hcloses]
      · simp [answer, feed, collect, isDone, hopens, hcloses]
    · simp [answer, feed, isDone, hopens]
  | inside =>
    by_cases hcloses : closesTable line = true
    · simp [answer, feed, collect, isDone, hcloses]
    · simp [answer, feed, collect, isDone, hcloses]
  | done => rfl

/-- The number of lines that are taken: not fewer than all unless the reader is done after them, and
it is not done after any fewer. -/
theorem feedUntilDone_snd (reader : TableReader) (lines : List Line) :
    (reader.feedUntilDone lines).2 ≤ lines.length ∧
      ((reader.feedUntilDone lines).2 < lines.length →
        ((lines.take (reader.feedUntilDone lines).2).foldl feed reader).isDone = true) ∧
      ∀ n, 0 < n → n < (reader.feedUntilDone lines).2 →
        ((lines.take n).foldl feed reader).isDone = false := by
  induction lines generalizing reader with
  | nil => simp [feedUntilDone]
  | cons line lines ih =>
    rw [feedUntilDone]
    by_cases hdone : (reader.feed line).isDone = true
    · rw [if_pos hdone]
      refine ⟨Nat.succ_le_succ (Nat.zero_le _), fun _ => hdone, fun n hpos hlt => ?_⟩
      omega
    · rw [if_neg hdone]
      obtain ⟨hle, hend, hbefore⟩ := ih (reader.feed line)
      refine ⟨Nat.succ_le_succ hle, fun hlt => hend (Nat.lt_of_succ_lt_succ hlt), ?_⟩
      intro n hpos hlt
      obtain ⟨n, rfl⟩ := Nat.exists_eq_succ_of_ne_zero (Nat.ne_of_gt hpos)
      by_cases hn : n = 0
      · subst hn
        simpa using hdone
      · exact hbefore n (Nat.pos_of_ne_zero hn) (Nat.lt_of_succ_lt_succ hlt)

end TableReader

/-! ### All lines -/

/-- The end of the table is among the first lines of a page when it is one of them. -/
theorem tableEnd?_take_eq_some_iff {lines : List Line} {n j : Nat} :
    tableEnd? (lines.take n) = some j ↔ tableEnd? lines = some j ∧ j < n := by
  have hstart {i : Nat} : tableStart? (lines.take n) = some i ↔
      tableStart? lines = some i ∧ i < n := by
    simp [tableStart?, List.findIdx?_take, Option.bind_eq_some_iff, Option.guard_eq_some_iff]
  simp only [tableEnd?_eq_some_iff, hstart, List.drop_take, List.findIdx?_take,
    Option.bind_eq_some_iff, Option.guard_eq_some_iff, decide_eq_true_eq]
  constructor
  · rintro ⟨i, k, ⟨hi, hin⟩, ⟨k, hk, rfl, hkn⟩, rfl⟩
    exact ⟨⟨i, k, hi, hk, rfl⟩, by omega⟩
  · rintro ⟨⟨i, k, hi, hk, rfl⟩, hn⟩
    exact ⟨i, k, ⟨hi, by omega⟩, ⟨k, hk, rfl, by omega⟩, rfl⟩

/-- A reader is done after some lines of a page when the end of the table is among them. -/
theorem isDone_foldl_feed_take (lines : List Line) (n : Nat) :
    ((lines.take n).foldl TableReader.feed .empty).isDone = true ↔
      ∃ j, tableEnd? lines = some j ∧ j < n := by
  rw [(TableReader.hasRead_foldl_feed (lines.take n)).isDone_iff]
  simp only [tableEnd?_take_eq_some_iff]

/-! ### The last row with a label -/

namespace Header

variable {lines : List Line} {line : Line} {label cell : String}

theorem get?_addLine_of_row (header : Header)
    (h : Row.ofLine? line = some ⟨label.toList, cell.toList⟩) :
    (header.addLine line).get? label = some cell := by
  simp [addLine, h]

/-- Lines without a row with a label leave the cell with that label as it is. -/
theorem get?_foldl_addLine_of_forall_ne (header : Header)
    (h : ∀ line ∈ lines, labelOf? line ≠ some label) :
    (lines.foldl addLine header).get? label = header.get? label := by
  induction lines generalizing header with
  | nil => rfl
  | cons line lines ih =>
    obtain ⟨hline, hlines⟩ := List.forall_mem_cons.mp h
    rw [List.foldl_cons, ih _ hlines, get?_addLine_of_ne header hline]

/-- The last row with a label in lines says what the cell with the label holds, and nothing else
does. -/
theorem get?_foldl_addLine_empty :
    (lines.foldl addLine empty).get? label = some cell ↔
      ∃ front line back, lines = front ++ line :: back ∧
        Row.ofLine? line = some ⟨label.toList, cell.toList⟩ ∧
        ∀ later ∈ back, labelOf? later ≠ some label := by
  constructor
  · intro h
    induction lines using List.reverseRecOn with
    | nil => exact nomatch h
    | append_singleton lines line ih =>
      rw [List.foldl_append, List.foldl_cons, List.foldl_nil] at h
      by_cases hlabel : labelOf? line = some label
      · obtain ⟨row, hrow, hl⟩ := Option.map_eq_some_iff.mp hlabel
        have hcell : String.ofList row.cell = cell := by
          simpa [addLine, hrow, hl] using h
        refine ⟨lines, line, [], rfl, ?_, List.forall_mem_nil _⟩
        rw [hrow, ← hl, ← hcell, String.toList_ofList, String.toList_ofList]
      · rw [get?_addLine_of_ne _ hlabel] at h
        obtain ⟨front, row, back, rfl, hrow, hback⟩ := ih h
        refine ⟨front, row, back ++ [line], by rw [List.append_assoc, List.cons_append], hrow, ?_⟩
        exact List.forall_mem_append.mpr ⟨hback, List.forall_mem_singleton.mpr hlabel⟩
  · rintro ⟨front, line, back, rfl, hrow, hback⟩
    rw [List.foldl_append, List.foldl_cons, get?_foldl_addLine_of_forall_ne _ hback,
      get?_addLine_of_row _ hrow]

end Header

/-- The number of lines of a page that are looked at. -/
theorem readTable_snd (lines : List Line) :
    (readTable lines).2 =
      match tableEnd? lines with
      | some j => j + 1
      | none => lines.length := by
  obtain ⟨hle, hend, hbefore⟩ := TableReader.feedUntilDone_snd .empty lines
  have hcount : (TableReader.empty.feedUntilDone lines).2 = (readTable lines).2 := rfl
  rw [hcount, isDone_foldl_feed_take] at hend
  rw [hcount] at hle hbefore
  cases hj : tableEnd? lines with
  | none =>
    rw [hj] at hend
    by_contra hne
    obtain ⟨j, hj, -⟩ := hend (Nat.lt_of_le_of_ne hle hne)
    cases hj
  | some j =>
    have hlt := lt_length_of_tableEnd? hj
    have hlow : j < (readTable lines).2 := by
      by_contra hge
      obtain ⟨other, hother, hlow⟩ := hend (by omega)
      obtain rfl := Option.some.inj (hj.symm.trans hother)
      omega
    have hhigh : ¬j + 1 < (readTable lines).2 := fun hgt => by
      have hnot := hbefore (j + 1) (Nat.succ_pos j) hgt
      rw [Bool.eq_false_iff, Ne, isDone_foldl_feed_take] at hnot
      exact hnot ⟨j, hj, Nat.lt_succ_self j⟩
    exact Nat.le_antisymm (Nat.not_lt.mp hhigh) hlow

/-- **The table of a page is what stands between its marks.** Lines are fed to a new reader. It goes
on after each line before the one that ends the table, and neither after that line nor after a later
one; it is done exactly when that line is among those that it was fed. What it has in the end under
a label is what the last row with that label says among the lines from the one that begins the table
up to the one that ends it, and nothing when there is no such row. The table of the page is the
same, and the lines that are looked at for it are those up to the one that ends it, that one
included, or all of them when none does. -/
theorem feed_extent (lines : List Line) :
    (∀ k : Fin lines.length, ((lines.take k).foldl TableReader.feed .empty).answer lines[k] = true ↔
      ∀ j, tableEnd? lines = some j → k < j) ∧
    (∀ n, ((lines.take n).foldl TableReader.feed .empty).isDone = true ↔
      ∃ j, tableEnd? lines = some j ∧ j < n) ∧
    (∀ label cell, (lines.foldl TableReader.feed .empty).header.get? label = some cell ↔
      ∃ front line back, tableLines lines = front ++ line :: back ∧
        Row.ofLine? line = some ⟨label.toList, cell.toList⟩ ∧
        ∀ later ∈ back, labelOf? later ≠ some label) ∧
    readTable lines = ((lines.foldl TableReader.feed .empty).header,
      match tableEnd? lines with
      | some j => j + 1
      | none => lines.length) := by
  refine ⟨fun k => ?_, isDone_foldl_feed_take lines, fun label cell => ?_, ?_⟩
  · have htake : (lines.take (k + 1)).foldl TableReader.feed .empty =
        ((lines.take k).foldl TableReader.feed .empty).feed lines[k] := by
      rw [← List.take_append_getElem k.isLt, List.foldl_append]
      rfl
    rw [TableReader.answer_eq, ← htake, Bool.not_eq_true', Bool.eq_false_iff, Ne,
      isDone_foldl_feed_take]
    constructor
    · intro h j hj
      by_contra hge
      exact h ⟨j, hj, by omega⟩
    · rintro h ⟨j, hj, hlt⟩
      have := h j hj
      omega
  · rw [(TableReader.hasRead_foldl_feed lines).header_eq, Header.get?_foldl_addLine_empty]
  · exact Prod.ext (readTable_fst lines) (readTable_snd lines)

example :
    readTable ["</table>".toList, "<table><tr><th>A:</th><td>1</td></tr>".toList,
      "</table>".toList, "<table><tr><th>A:</th><td>2</td></tr>".toList] =
      (Header.empty.insert "A" "1", 3) := by decide +kernel

end Webrev.Page
