import Webrev.Proofs.Page.Row
import Webrev.Proofs.Page.Table

/-!
# The row that is chosen

A line may hold several rows, and its tags may be cut into a row in several ways. The row that is
read is the first one, of those the one with the longest label, and of those the one with the
longest contents. The choice is made part by part and is none the worse for it: a row is read
wherever one stands, since each part is given up as long as nothing can follow it.

What stands between the parts leaves no choice. A text is cut into a label and contents in one way
only once it is known how long the label is and how long the contents are, because the tag that ends
the blanks before it does not begin with a blank.

## Main definitions

* `Page.Row.StandsIn` : a row in a line, after what stands before it.
* `Page.Row.Chosen` : the row that counts in a line.
* `Page.Row.Cut` : a text cut into the parts of a row, as they are read.

## Main results

* `Page.Row.Chosen.unique` : one row counts in a line.
* `Page.Row.ofLine?_eq_some_iff` : the row that is read is the one that counts.
* `Page.TableReader.feed_chosen` : what a line makes of a table.
-/

namespace Webrev.Page

open Scan

namespace Row

/-- A row stands in a line after a front: its tags with blanks between them, and the label and the
contents between the tags. -/
def StandsIn (row : Row) (front line : Line) : Prop :=
  ∃ w₁ w₂ w₃ back, Blanks w₁ ∧ Blanks w₂ ∧ Blanks w₃ ∧
    line = front ++ "<tr>".toList ++ w₁ ++ "<th>".toList ++ row.label ++ ":</th>".toList ++ w₂ ++
      "<td>".toList ++ row.cell ++ "</td>".toList ++ w₃ ++ "</tr>".toList ++ back

/-- Of the rows in a line the first one, with the longest label and then the longest contents. -/
structure Chosen (row : Row) (front line : Line) : Prop where
  stands : row.StandsIn front line
  first : ∀ other front', StandsIn other front' line → front.length ≤ front'.length
  label_longest : ∀ other, StandsIn other front line → other.label.length ≤ row.label.length
  cell_longest : ∀ other, StandsIn other front line → other.label.length = row.label.length →
    other.cell.length ≤ row.cell.length

/-! ### The parts of a row -/

/-- Reads what begins a row. -/
def rowStart (text : List Char) : Option (List Char) :=
  (expect "<tr>".toList text).bind fun rest => expect "<th>".toList (Text.trimStart rest)

theorem rowStart_eq_some_iff {text rest : List Char} :
    rowStart text = some rest ↔
      ∃ blanks, Blanks blanks ∧ text = "<tr>".toList ++ (blanks ++ ("<th>".toList ++ rest)) :=
  expect_bind_trimStart_eq_some_iff rfl

/-- A text cut into the parts of a row: `rest` from its label on, `afterKey` from what ends the
label on, `inner` from its contents on, `tail` from what ends the contents on, and what stands
behind it. -/
structure Cut (row : Row) (text : List Char) where
  rest : List Char
  afterKey : List Char
  inner : List Char
  tail : List Char
  back : List Char
  start : rowStart text = some rest
  label_cut : rest = row.label ++ afterKey
  label_end : labelEnd afterKey = some inner
  cell_cut : inner = row.cell ++ tail
  cell_end : afterCell tail = some back

/-- A row stands in a line where the line is cut into its parts. -/
theorem standsIn_iff {row : Row} {front line : Line} (h : '\n' ∉ line) :
    row.StandsIn front line ↔ ∃ text, line = front ++ text ∧ Nonempty (Cut row text) := by
  constructor
  · rintro ⟨w₁, w₂, w₃, back, h₁, h₂, h₃, rfl⟩
    simp only [List.append_assoc] at h ⊢
    refine ⟨_, rfl, ⟨⟨_, _, _, _, back, rowStart_eq_some_iff.mpr ⟨w₁, h₁, rfl⟩, rfl,
      labelEnd_eq_some_iff.mpr ⟨w₂, h₂, rfl⟩, rfl, (afterCell_eq_some_iff ?_).mpr ⟨w₃, h₃, rfl⟩⟩⟩⟩
    simp only [List.mem_append, not_or] at h ⊢
    tauto
  · rintro ⟨text, rfl, ⟨⟨rest, afterKey, inner, tail, back, hstart, rfl, hend, rfl, htail⟩⟩⟩
    obtain ⟨w₁, h₁, rfl⟩ := rowStart_eq_some_iff.mp hstart
    obtain ⟨w₂, h₂, rfl⟩ := labelEnd_eq_some_iff.mp hend
    have hline : '\n' ∉ tail := fun hm => h (by simp [hm])
    obtain ⟨w₃, h₃, rfl⟩ := (afterCell_eq_some_iff hline).mp htail
    exact ⟨w₁, w₂, w₃, back, h₁, h₂, h₃, by simp only [List.append_assoc]⟩

namespace Cut

variable {row other : Row} {text : List Char}

theorem notMem_rest (cut : Cut row text) (h : '\n' ∉ text) : '\n' ∉ cut.rest := by
  obtain ⟨blanks, -, htext⟩ := rowStart_eq_some_iff.mp cut.start
  exact fun hm => h (by simp [htext, hm])

theorem notMem_afterKey (cut : Cut row text) (h : '\n' ∉ text) : '\n' ∉ cut.afterKey := fun hm =>
  cut.notMem_rest h (cut.label_cut ▸ List.mem_append_right row.label hm)

theorem notMem_inner (cut : Cut row text) (h : '\n' ∉ text) : '\n' ∉ cut.inner := by
  obtain ⟨blanks, -, hafter⟩ := labelEnd_eq_some_iff.mp cut.label_end
  exact fun hm => cut.notMem_afterKey h (by simp [hafter, hm])

/-- The labels of two rows begin at one place. -/
theorem rest_eq (cut : Cut row text) (cut' : Cut other text) : cut.rest = cut'.rest :=
  Option.some.inj (cut.start.symm.trans cut'.start)

/-- Two labels of one length are one label, and the contents after them begin at one place. -/
theorem label_eq (cut : Cut row text) (cut' : Cut other text)
    (h : row.label.length = other.label.length) :
    row.label = other.label ∧ cut.inner = cut'.inner := by
  have hrest : row.label ++ cut.afterKey = other.label ++ cut'.afterKey := by
    rw [← cut.label_cut, ← cut'.label_cut, cut.rest_eq cut']
  obtain ⟨hlabel, hafter⟩ := List.append_inj hrest h
  have hend := cut.label_end
  rw [hafter, cut'.label_end] at hend
  exact ⟨hlabel, (Option.some.inj hend).symm⟩

/-- Two rows are one when their labels and their contents have one length. -/
theorem row_eq (cut : Cut row text) (cut' : Cut other text)
    (hlabels : row.label.length = other.label.length)
    (hcells : row.cell.length = other.cell.length) : row = other := by
  obtain ⟨hlabel, hinner⟩ := cut.label_eq cut' hlabels
  rw [cut.cell_cut, cut'.cell_cut] at hinner
  exact congrArg₂ Row.mk hlabel (List.append_inj hinner hcells).1

end Cut

/-! ### What is read -/

theorem afterLabel_eq {text : List Char} (h : '\n' ∉ text) :
    afterLabel text = (labelEnd text).bind fun rest => (longest afterCell rest).map Prod.fst := by
  ext cell
  rw [afterLabel_eq_some_iff h, Option.bind_eq_some_iff]
  constructor
  · rintro ⟨blanks, rest, hblanks, htext, hcell⟩
    exact ⟨rest, labelEnd_eq_some_iff.mpr ⟨blanks, hblanks, htext⟩, hcell⟩
  · rintro ⟨rest, hrest, hcell⟩
    obtain ⟨blanks, hblanks, htext⟩ := labelEnd_eq_some_iff.mp hrest
    exact ⟨blanks, rest, hblanks, htext, hcell⟩

theorem atFront?_eq {text : List Char} (h : '\n' ∉ text) :
    atFront? text = (rowStart text).bind fun rest =>
      (longest afterLabel rest).map fun (label, cell) => ⟨label, cell⟩ := by
  have hread : atFront? text = (rowStart text).bind fun rest =>
      (longest afterLabel (skipLineFeed rest)).map fun (label, cell) => ⟨label, cell⟩ := by
    rw [rowStart, Option.bind_assoc]
    rfl
  rw [hread]
  cases hstart : rowStart text with
  | none => rfl
  | some rest =>
    obtain ⟨blanks, -, rfl⟩ := rowStart_eq_some_iff.mp hstart
    have hrest : '\n' ∉ rest := fun hm => h (by simp [hm])
    rw [Option.bind_some, Option.bind_some, skipLineFeed_of_notMem hrest]

namespace Cut

variable {row : Row} {text : List Char}

/-- Something is read after the label of a row. -/
theorem afterLabel_ne_none (cut : Cut row text) (h : '\n' ∉ text) :
    afterLabel cut.afterKey ≠ none := by
  have hcell : '\n' ∉ row.cell := fun hm =>
    cut.notMem_inner h (cut.cell_cut ▸ List.mem_append_left cut.tail hm)
  rw [afterLabel_eq (cut.notMem_afterKey h), cut.label_end, Option.bind_some, Ne,
    Option.map_eq_none_iff, longest_eq_none_iff]
  intro hnone
  exact nomatch (hnone row.cell cut.tail cut.cell_cut hcell).symm.trans cut.cell_end

/-- Something is read at the front of a row. -/
theorem atFront?_ne_none (cut : Cut row text) (h : '\n' ∉ text) : atFront? text ≠ none := by
  have hlabel : '\n' ∉ row.label := fun hm =>
    cut.notMem_rest h (cut.label_cut ▸ List.mem_append_left cut.afterKey hm)
  rw [atFront?_eq h, cut.start, Option.bind_some, Ne, Option.map_eq_none_iff, longest_eq_none_iff]
  intro hnone
  exact cut.afterLabel_ne_none h (hnone row.label cut.afterKey cut.label_cut hlabel)

end Cut

/-- A row is read in a line in which one stands. -/
theorem StandsIn.ofLine?_ne_none {row : Row} {front line : Line} (h : '\n' ∉ line)
    (hstands : row.StandsIn front line) : ofLine? line ≠ none := by
  obtain ⟨text, rfl, ⟨cut⟩⟩ := (standsIn_iff h).mp hstands
  have htext : '\n' ∉ text := fun hm => h (List.mem_append_right _ hm)
  intro hnone
  exact cut.atFront?_ne_none htext (leftmost_eq_none_iff.mp hnone front text rfl)

/-- The label that is read is the longest one, and the contents are the longest ones after it. -/
theorem exists_cut_of_atFront? {text : List Char} {row : Row} (h : '\n' ∉ text)
    (hread : atFront? text = some row) :
    ∃ cut : Cut row text,
      (∀ label other, cut.rest = label ++ other → afterLabel other ≠ none →
        label.length ≤ row.label.length) ∧
      ∀ cell other, cut.inner = cell ++ other → afterCell other ≠ none →
        cell.length ≤ row.cell.length := by
  rw [atFront?_eq h] at hread
  obtain ⟨rest, hstart, hrow⟩ := Option.bind_eq_some_iff.mp hread
  obtain ⟨⟨label, cell⟩, hlabel, rfl⟩ := Option.map_eq_some_iff.mp hrow
  have hrest : '\n' ∉ rest := by
    obtain ⟨blanks, -, rfl⟩ := rowStart_eq_some_iff.mp hstart
    exact fun hm => h (by simp [hm])
  obtain ⟨afterKey, rfl, hafter, hlabel_max⟩ := (longest_eq_some_iff hrest).mp hlabel
  have hkey : '\n' ∉ afterKey := fun hm => hrest (List.mem_append_right _ hm)
  rw [afterLabel_eq hkey] at hafter
  obtain ⟨inner, hend, hcell⟩ := Option.bind_eq_some_iff.mp hafter
  obtain ⟨⟨contents, back⟩, hcontents, rfl⟩ := Option.map_eq_some_iff.mp hcell
  have hinner : '\n' ∉ inner := by
    obtain ⟨blanks, -, rfl⟩ := labelEnd_eq_some_iff.mp hend
    exact fun hm => hkey (by simp [hm])
  obtain ⟨tail, rfl, htail, hcell_max⟩ := (longest_eq_some_iff hinner).mp hcontents
  exact ⟨⟨_, afterKey, _, tail, back, hstart, rfl, hend, rfl, htail⟩, hlabel_max, hcell_max⟩

/-- The row that is read is the chosen one. -/
theorem exists_chosen_of_ofLine? {row : Row} {line : Line} (h : '\n' ∉ line)
    (hread : ofLine? line = some row) : ∃ front, row.Chosen front line := by
  obtain ⟨front, text, rfl, htext, hfirst⟩ := leftmost_eq_some_iff.mp hread
  have hline : '\n' ∉ text := fun hm => h (List.mem_append_right _ hm)
  obtain ⟨cut, hlabel_max, hcell_max⟩ := exists_cut_of_atFront? hline htext
  refine ⟨front, (standsIn_iff h).mpr ⟨text, rfl, ⟨cut⟩⟩, fun other front' hother => ?_,
    fun other hother => ?_, fun other hother hlabels => ?_⟩
  · obtain ⟨text', hcut, ⟨cut'⟩⟩ := (standsIn_iff h).mp hother
    have htext' : '\n' ∉ text' := fun hm => h (hcut ▸ List.mem_append_right _ hm)
    exact hfirst front' text' hcut (cut'.atFront?_ne_none htext')
  · obtain ⟨text', hcut, ⟨cut'⟩⟩ := (standsIn_iff h).mp hother
    obtain rfl := List.append_cancel_left hcut
    exact hlabel_max other.label cut'.afterKey ((cut.rest_eq cut').trans cut'.label_cut)
      (cut'.afterLabel_ne_none hline)
  · obtain ⟨text', hcut, ⟨cut'⟩⟩ := (standsIn_iff h).mp hother
    obtain rfl := List.append_cancel_left hcut
    obtain ⟨-, hinner⟩ := cut.label_eq cut' hlabels.symm
    refine hcell_max other.cell cut'.tail (hinner.trans cut'.cell_cut) ?_
    rw [cut'.cell_end]
    exact Option.some_ne_none _

/-- One row is chosen. -/
theorem Chosen.unique {row other : Row} {front front' line : Line} (h : '\n' ∉ line)
    (hrow : row.Chosen front line) (hother : other.Chosen front' line) : row = other := by
  obtain ⟨text, hcut, ⟨cut⟩⟩ := (standsIn_iff h).mp hrow.stands
  obtain ⟨text', hcut', ⟨cut'⟩⟩ := (standsIn_iff h).mp hother.stands
  have hfront : front.length = front'.length :=
    Nat.le_antisymm (hrow.first other front' hother.stands) (hother.first row front hrow.stands)
  obtain ⟨rfl, rfl⟩ := List.append_inj (hcut.symm.trans hcut') hfront
  have hlabels : row.label.length = other.label.length :=
    Nat.le_antisymm (hother.label_longest row hrow.stands) (hrow.label_longest other hother.stands)
  have hcells : row.cell.length = other.cell.length :=
    Nat.le_antisymm (hother.cell_longest row hrow.stands hlabels)
      (hrow.cell_longest other hother.stands hlabels.symm)
  exact cut.row_eq cut' hlabels hcells

/-- The row in a line is the chosen one. -/
theorem ofLine?_eq_some_iff {row : Row} {line : Line} (h : '\n' ∉ line) :
    ofLine? line = some row ↔ ∃ front, row.Chosen front line := by
  refine ⟨exists_chosen_of_ofLine? h, ?_⟩
  rintro ⟨front, hchosen⟩
  obtain ⟨other, hother⟩ := Option.ne_none_iff_exists'.mp (hchosen.stands.ofLine?_ne_none h)
  obtain ⟨front', hother'⟩ := exists_chosen_of_ofLine? h hother
  rw [hother, hchosen.unique h hother']

/-- A row is chosen in a line in which one stands. -/
theorem StandsIn.exists_chosen {row : Row} {front line : Line} (h : '\n' ∉ line)
    (hstands : row.StandsIn front line) : ∃ chosen front', Chosen chosen front' line := by
  obtain ⟨chosen, hchosen⟩ := Option.ne_none_iff_exists'.mp (hstands.ofLine?_ne_none h)
  exact ⟨chosen, exists_chosen_of_ofLine? h hchosen⟩

/-- Nothing is read in a line in which no row stands. -/
theorem ofLine?_eq_none {line : Line} (h : '\n' ∉ line)
    (hnone : ∀ (row : Row) front, ¬row.StandsIn front line) : ofLine? line = none := by
  rw [Option.eq_none_iff_forall_not_mem]
  intro row hread
  obtain ⟨front, hchosen⟩ := (ofLine?_eq_some_iff h).mp hread
  exact hnone row front hchosen.stands

end Row

namespace TableReader

/-- **The chosen row of a line goes into the table.** Inside the table a line that does not end it
adds a row exactly when one stands in it. Of those that do one is chosen, the first one with the
longest label and then the longest contents, and it is the one that is added; the table holds its
contents under its label, and is else as it was. -/
theorem feed_chosen (header : Header) {line : Line} (hline : '\n' ∉ line)
    (hcloses : closesTable line = false) :
    ((∃ (row : Row) (front : Line), row.StandsIn front line) →
      ∃! row : Row, ∃ front, row.Chosen front line) ∧
    (∀ (row : Row) (front : Line), row.Chosen front line →
      feed ⟨.inside, header⟩ line =
        ⟨.inside, header.insert (String.ofList row.label) (String.ofList row.cell)⟩) ∧
    ((∀ (row : Row) (front : Line), ¬row.StandsIn front line) →
      feed ⟨.inside, header⟩ line = ⟨.inside, header⟩) := by
  rw [feed_inside_of_not_closes header hcloses]
  refine ⟨?_, fun row front hchosen => ?_, fun hnone => ?_⟩
  · rintro ⟨row, front, hstands⟩
    obtain ⟨chosen, front', hchosen⟩ := hstands.exists_chosen hline
    refine ⟨chosen, ⟨front', hchosen⟩, ?_⟩
    rintro other ⟨front'', hother⟩
    exact hother.unique hline hchosen
  · rw [Header.addLine, (Row.ofLine?_eq_some_iff hline).mpr ⟨front, hchosen⟩]
  · rw [Header.addLine, Row.ofLine?_eq_none hline hnone]

/-- A line with two rows, blanks between the tags of the second one, and the end of a row behind
them. -/
def crowdedLine : Line :=
  "<b><tr><th>A:</th><td>1</td></tr><tr> <th>B:</th>\t<td>2</td></tr></td></tr>".toList

/-- The label of the row reaches to where the last label ends, and the contents to the end of the
line. -/
theorem feed_chosen_crowdedLine :
    '\n' ∉ crowdedLine ∧ closesTable crowdedLine = false ∧
    feed ⟨.inside, .empty⟩ crowdedLine =
      ⟨.inside, Header.empty.insert "A:</th><td>1</td></tr><tr> <th>B" "2</td></tr>"⟩ := by
  have hline : '\n' ∉ crowdedLine := by decide
  have hcloses : closesTable crowdedLine = false := by decide
  have hread : Row.ofLine? crowdedLine =
      some ⟨"A:</th><td>1</td></tr><tr> <th>B".toList, "2</td></tr>".toList⟩ := by
    decide +kernel
  obtain ⟨front, hchosen⟩ := (Row.ofLine?_eq_some_iff hline).mp hread
  have hfeed := (feed_chosen .empty hline hcloses).2.1 _ front hchosen
  rw [String.ofList_toList, String.ofList_toList] at hfeed
  exact ⟨hline, hcloses, hfeed⟩

end TableReader

end Webrev.Page
