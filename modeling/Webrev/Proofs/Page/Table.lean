import Webrev.Page.Table

/-!
# Reading a table line by line

A reader that is done takes no more lines into account, so reading until the end of the table is
reading all lines. The end is seen when a line that ends the table stands at or after the first line
that begins one.

## Main definitions

* `Page.closesAmong` : the end of the table is among the lines.

## Main results

* `Page.TableReader.feed_before_of_opens`, `Page.TableReader.feed_inside_of_not_closes` and their
  likes : what one line does to a reader.
* `Page.TableReader.feedUntilDone_fst` : no line is lost when reading stops at the end of the table.
* `Page.isDone_foldl_feed` : when the end of the table is seen.
* `Page.readTable_of_closesAmong` : nothing after the end of the table counts.
-/

namespace Webrev.Page

/-- A line that ends the table stands at or after the first line that begins one. -/
def closesAmong (lines : List Line) : Bool := (lines.dropWhile (!opensTable ·)).any closesTable

/-- A line does not both begin and end the table. -/
theorem closesTable_eq_false_of_opensTable {line : Line} (h : opensTable line = true) :
    closesTable line = false := by
  rw [opensTable, List.isPrefixOf_iff_prefix] at h
  rw [closesTable, Bool.eq_false_iff, Ne, List.isPrefixOf_iff_prefix]
  intro hc
  rcases List.prefix_or_prefix_of_prefix h hc with hword | hword
  · exact absurd hword (by decide)
  · exact absurd hword (by decide)

namespace TableReader

/-! ### One line -/

section Feed

variable {line : Line} (header : Header)

theorem feed_before_of_not_opens (h : opensTable line = false) :
    feed ⟨.before, header⟩ line = ⟨.before, header⟩ :=
  if_neg (Bool.eq_false_iff.mp h)

/-- The line that begins the table is itself read like one inside. -/
theorem feed_before_of_opens (h : opensTable line = true) :
    feed ⟨.before, header⟩ line = feed ⟨.inside, header⟩ line :=
  if_pos h

theorem feed_inside_of_not_closes (h : closesTable line = false) :
    feed ⟨.inside, header⟩ line = ⟨.inside, header.addLine line⟩ :=
  if_neg (Bool.eq_false_iff.mp h)

theorem feed_inside_of_closes (h : closesTable line = true) :
    feed ⟨.inside, header⟩ line = ⟨.done, header⟩ :=
  if_pos h

end Feed

/-! ### All lines -/

variable {reader : TableReader}

theorem foldl_feed_of_isDone (h : reader.isDone = true) (lines : List Line) :
    lines.foldl feed reader = reader := by
  induction lines with
  | nil => rfl
  | cons line lines ih => rw [List.foldl_cons, feed_of_isDone h, ih]

/-- No line is lost when reading stops at the end of the table. -/
theorem feedUntilDone_fst (reader : TableReader) (lines : List Line) :
    (reader.feedUntilDone lines).1 = lines.foldl feed reader := by
  induction lines generalizing reader with
  | nil => rfl
  | cons line lines ih =>
    rw [feedUntilDone, List.foldl_cons]
    cases hd : (reader.feed line).isDone with
    | true => simp [foldl_feed_of_isDone hd]
    | false => simp [ih]

/-- Inside the table the next line that ends it is the end. -/
theorem isDone_foldl_inside (header : Header) (lines : List Line) :
    (lines.foldl feed ⟨.inside, header⟩).isDone = lines.any closesTable := by
  induction lines generalizing header with
  | nil => rfl
  | cons line lines ih =>
    rw [List.foldl_cons, List.any_cons]
    cases hc : closesTable line with
    | true =>
      rw [feed_inside_of_closes header hc, foldl_feed_of_isDone rfl, Bool.true_or]
      rfl
    | false => rw [feed_inside_of_not_closes header hc, ih, Bool.false_or]

/-- Before the table only a line that begins it counts. -/
theorem isDone_foldl_before (header : Header) (lines : List Line) :
    (lines.foldl feed ⟨.before, header⟩).isDone = closesAmong lines := by
  induction lines with
  | nil => rfl
  | cons line lines ih =>
    cases ho : opensTable line with
    | true =>
      rw [List.foldl_cons, feed_before_of_opens header ho, ← List.foldl_cons, isDone_foldl_inside,
        closesAmong, List.dropWhile_cons_of_neg (by simp [ho])]
    | false =>
      rw [List.foldl_cons, feed_before_of_not_opens header ho, ih, closesAmong, closesAmong,
        List.dropWhile_cons_of_pos (by simp [ho])]

end TableReader

/-- The end of the table is seen when it is among the lines. -/
theorem isDone_foldl_feed (lines : List Line) :
    (lines.foldl TableReader.feed .empty).isDone = closesAmong lines :=
  TableReader.isDone_foldl_before .empty lines

/-- The table of a page is what is read when all lines are fed. -/
theorem readTable_fst (lines : List Line) :
    (readTable lines).1 = (lines.foldl TableReader.feed .empty).header := by
  rw [← TableReader.feedUntilDone_fst]
  rfl

/-- Nothing after the end of the table counts. -/
theorem readTable_of_closesAmong {lines : List Line} (h : closesAmong lines = true)
    (more : List Line) : (readTable (lines ++ more)).1 = (readTable lines).1 := by
  rw [readTable_fst, readTable_fst, List.foldl_append, TableReader.foldl_feed_of_isDone]
  rw [isDone_foldl_feed, h]

/-- More lines do not take the end of the table away. -/
theorem closesAmong_append {lines : List Line} (h : closesAmong lines = true) (more : List Line) :
    closesAmong (lines ++ more) = true := by
  have hdone : (lines.foldl TableReader.feed .empty).isDone = true := by rw [isDone_foldl_feed, h]
  rw [← isDone_foldl_feed, List.foldl_append, TableReader.foldl_feed_of_isDone hdone, hdone]

end Webrev.Page
