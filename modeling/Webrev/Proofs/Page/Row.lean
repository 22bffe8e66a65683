import Webrev.Page.Row
import Webrev.Proofs.Text.Scan
import Mathlib.Data.List.Infix

/-!
# Rows that were written

A row is written with its parts one after the other in one line. It is read back even when its label
or its contents hold what looks like the tags between them: the label is the longest one, so it can
only be missed when what ends a label stands in the contents; and the contents are the longest ones,
so they reach to the end of the line. What ends a label cannot begin in the contents and end in the
tags after them, because those tags do not begin as `<td>` ends.

## Main definitions

* `Page.Row.written` : the line of a row.
* `Page.Row.HasLabelEnd` : a text in which something stands that ends a label.
* `Page.Row.Legible` : a row that is read back.

## Main results

* `Page.Row.afterCell_eq_some_iff`, `Page.Row.afterLabel_eq_some_iff` : what follows the contents
  and the label in a row of one line.
* `Page.Row.infix_of_ofLine?` : a line with a row has the tag that ends a row.
* `Page.Row.ofLine?_written` : a legible row is read back.
-/

namespace Webrev.Page.Row

open Scan

/-- The line of a row. -/
def written (row : Row) : Line :=
  "<tr><th>".toList ++ (row.label ++ (":</th><td>".toList ++ (row.cell ++ "</td></tr>".toList)))

theorem written_eq (row : Row) :
    row.written = "<tr><th>".toList ++
      (row.label ++ (":</th><td>".toList ++ (row.cell ++ "</td></tr>".toList))) := rfl

theorem exists_written_eq_append (row : Row) : ∃ front, row.written = front ++ ">".toList :=
  ⟨"<tr><th>".toList ++ (row.label ++ (":</th><td>".toList ++ (row.cell ++ "</td></tr".toList))),
    by rw [written_eq]; simp⟩

/-- Blanks. -/
def Blanks (text : List Char) : Prop := ∀ c ∈ text, Text.isBlank c = true

/-- Something stands in a text that ends a label. -/
def HasLabelEnd (text : List Char) : Prop :=
  ∃ blanks, Blanks blanks ∧ ":</th>".toList ++ (blanks ++ "<td>".toList) <:+: text

/-- A row in one line, in whose contents nothing stands that ends a label. -/
structure Legible (row : Row) : Prop where
  label_line : '\n' ∉ row.label
  cell_line : '\n' ∉ row.cell
  cell_label : ¬HasLabelEnd row.cell

/-- Reads what ends a label. -/
def labelEnd (text : List Char) : Option (List Char) :=
  (expect ":</th>".toList text).bind fun rest => expect "<td>".toList (Text.trimStart rest)

theorem labelEnd_eq_some_iff {text rest : List Char} :
    labelEnd text = some rest ↔
      ∃ blanks, Blanks blanks ∧ text = ":</th>".toList ++ (blanks ++ ("<td>".toList ++ rest)) :=
  expect_bind_trimStart_eq_some_iff rfl

theorem hasLabelEnd_iff {text : List Char} :
    HasLabelEnd text ↔ leftmost labelEnd text ≠ none := by
  constructor
  · rintro ⟨blanks, hblanks, front, back, rfl⟩ hnone
    have hread := leftmost_eq_none_iff.mp hnone front
      (":</th>".toList ++ (blanks ++ ("<td>".toList ++ back))) (by simp only [List.append_assoc])
    rw [labelEnd_eq_some_iff.mpr ⟨blanks, hblanks, rfl⟩] at hread
    cases hread
  · intro hsome
    obtain ⟨rest, hread⟩ := Option.ne_none_iff_exists'.mp hsome
    obtain ⟨front, more, rfl, hread, -⟩ := leftmost_eq_some hread
    obtain ⟨blanks, hblanks, rfl⟩ := labelEnd_eq_some_iff.mp hread
    exact ⟨blanks, hblanks, front, rest, by simp only [List.append_assoc]⟩

instance : DecidablePred HasLabelEnd := fun _ => decidable_of_iff _ hasLabelEnd_iff.symm

instance (row : Row) : Decidable row.Legible :=
  decidable_of_iff ('\n' ∉ row.label ∧ '\n' ∉ row.cell ∧ ¬HasLabelEnd row.cell)
    ⟨fun h => ⟨h.1, h.2.1, h.2.2⟩, fun h => ⟨h.label_line, h.cell_line, h.cell_label⟩⟩

/-! ### The readers within one line -/

theorem afterCell_eq_some_iff {text rest : List Char} (h : '\n' ∉ text) :
    afterCell text = some rest ↔
      ∃ blanks, Blanks blanks ∧ text = "</td>".toList ++ (blanks ++ ("</tr>".toList ++ rest)) := by
  rw [afterCell, skipLineFeed_of_notMem h]
  exact expect_bind_trimStart_eq_some_iff rfl

theorem afterLabel_eq_some_iff {text : List Char} {cell : Line} (h : '\n' ∉ text) :
    afterLabel text = some cell ↔
      ∃ blanks rest, Blanks blanks ∧
        text = ":</th>".toList ++ (blanks ++ ("<td>".toList ++ rest)) ∧
        (longest afterCell rest).map Prod.fst = some cell := by
  simp only [afterLabel, Option.bind_eq_some_iff]
  constructor
  · rintro ⟨afterColon, hcolon, afterTag, htag, rest, hrest, hcell⟩
    obtain rfl := expect_eq_some_iff.mp hcolon
    rw [skipLineFeed_of_notMem (by grind)] at htag
    obtain rfl := expect_eq_some_iff.mp htag
    obtain ⟨blanks, hblanks, rfl⟩ := (expect_trimStart_eq_some_iff rfl).mp hrest
    rw [skipLineFeed_of_notMem (by grind)] at hcell
    exact ⟨blanks, rest, hblanks, rfl, hcell⟩
  · rintro ⟨blanks, rest, hblanks, rfl, hcell⟩
    refine ⟨"</th>".toList ++ (blanks ++ ("<td>".toList ++ rest)), expect_append ..,
      blanks ++ ("<td>".toList ++ rest), ?_, rest,
      (expect_trimStart_eq_some_iff rfl).mpr ⟨blanks, hblanks, rfl⟩, ?_⟩
    · rw [skipLineFeed_of_notMem (by grind), expect_append]
    · rwa [skipLineFeed_of_notMem (by grind)]

/-! ### A row is read back -/

/-- The line of a row is one line. -/
theorem Legible.lineFeed_notMem_written {row : Row} (h : row.Legible) : '\n' ∉ row.written := by
  rw [written_eq]
  simp [h.label_line, h.cell_line]

/-- What follows the contents of a row. -/
theorem afterCell_end : afterCell "</td></tr>".toList = some [] := by decide

/-- In what follows the contents of a row there is no other place where they could end. -/
theorem afterCell_eq_none_of_append {more rest : List Char}
    (h : "</td></tr>".toList = more ++ rest) (hmore : more ≠ []) : afterCell rest = none := by
  cases hr : afterCell rest with
  | none => rfl
  | some last =>
    obtain ⟨blanks, -, rfl⟩ := (afterCell_eq_some_iff fun hn => by
      have : '\n' ∈ "</td></tr>".toList := h ▸ List.mem_append_right more hn
      simp at this).mp hr
    have hlength := congrArg List.length h
    have hpos := List.length_pos_of_ne_nil hmore
    simp at hlength
    omega

/-- The contents of a row reach to its last tags. -/
theorem longest_afterCell {cell : Line} (h : '\n' ∉ cell) :
    longest afterCell (cell ++ "</td></tr>".toList) = some (cell, []) :=
  longest_append h afterCell_end fun _ _ => afterCell_eq_none_of_append

/-- The tags after the contents do not begin as the tag before them ends. -/
theorem not_suffix_of_prefix_end : ∀ more ∈ "</td></tr>".toList.inits, more ≠ [] →
    ¬more <:+ "<td>".toList ∧ ¬"<td>".toList <:+ more := by decide

/-- What ends a label stands in the contents, when it begins in them. -/
theorem hasLabelEnd_of_append {cell front blanks rest : List Char} (hblanks : Blanks blanks)
    (h : cell ++ "</td></tr>".toList =
      front ++ (":</th>".toList ++ (blanks ++ ("<td>".toList ++ rest)))) : HasLabelEnd cell := by
  rw [← List.append_assoc blanks, ← List.append_assoc _ _ rest, ← List.append_assoc front] at h
  rcases List.append_eq_append_iff.mp h with ⟨more, hfront, hend⟩ | ⟨more, rfl, -⟩
  · by_cases hmore : more = []
    · exact ⟨blanks, hblanks, front, [], by rw [List.append_nil, hfront, hmore, List.append_nil]⟩
    · -- The text up to the end of the label's end would end both in its tag and in `more`.
      have htag : "<td>".toList <:+ cell ++ more := by
        rw [← hfront]
        exact ⟨front ++ (":</th>".toList ++ blanks), by simp only [List.append_assoc]⟩
      obtain ⟨hshort, hlong⟩ := not_suffix_of_prefix_end more
        ((List.mem_inits ..).mpr ⟨rest, hend.symm⟩) hmore
      rcases List.suffix_or_suffix_of_suffix htag (List.suffix_append cell more) with hs | hs
      · exact absurd hs hlong
      · exact absurd hs hshort
  · exact ⟨blanks, hblanks, front, more, rfl⟩

/-- What follows the label of a row. -/
theorem afterLabel_end {cell : Line} (h : '\n' ∉ cell) :
    afterLabel (":</th><td>".toList ++ (cell ++ "</td></tr>".toList)) = some cell :=
  (afterLabel_eq_some_iff (by simp [h])).mpr
    ⟨[], cell ++ "</td></tr>".toList, nofun, rfl, by rw [longest_afterCell h]; rfl⟩

/-- In what follows the label of a row there is no other place where the label could end. -/
theorem afterLabel_eq_none_of_append {cell more rest : List Char} (hline : '\n' ∉ cell)
    (hcell : ¬HasLabelEnd cell)
    (h : ":</th><td>".toList ++ (cell ++ "</td></tr>".toList) = more ++ rest) (hmore : more ≠ []) :
    afterLabel rest = none := by
  cases hr : afterLabel rest with
  | none => rfl
  | some other =>
    have hrest : '\n' ∉ rest := fun hn => by
      have : '\n' ∈ ":</th><td>".toList ++ (cell ++ "</td></tr>".toList) :=
        h ▸ List.mem_append_right more hn
      simp [hline] at this
    obtain ⟨blanks, back, hblanks, rfl, -⟩ := (afterLabel_eq_some_iff hrest).mp hr
    -- The colon of the other place stands after the first one, and the tags in between have none.
    obtain ⟨c, more, rfl⟩ := List.exists_cons_of_ne_nil hmore
    have htail : "</th><td>".toList ++ (cell ++ "</td></tr>".toList) =
        more ++ ':' :: ("</th>".toList ++ (blanks ++ ("<td>".toList ++ back))) :=
      (List.cons.inj h).2
    obtain ⟨front, -, hfront⟩ := exists_of_append_eq_append_cons (by decide) htail
    exact absurd (hasLabelEnd_of_append hblanks hfront) hcell

/-- The label of a row reaches to its tags. -/
theorem longest_afterLabel {row : Row} (h : row.Legible) :
    longest afterLabel
        (row.label ++ (":</th><td>".toList ++ (row.cell ++ "</td></tr>".toList))) =
      some (row.label, row.cell) :=
  longest_append h.label_line (afterLabel_end h.cell_line) fun _ _ =>
    afterLabel_eq_none_of_append h.cell_line h.cell_label

theorem atFront?_append {text : List Char} (h : '\n' ∉ text) :
    atFront? ("<tr><th>".toList ++ text) =
      (longest afterLabel text).map fun (label, cell) => ⟨label, cell⟩ := by
  have hcut : "<tr><th>".toList = "<tr>".toList ++ "<th>".toList := by decide
  have hlabel : expect "<th>".toList (Text.trimStart ("<th>".toList ++ text)) = some text :=
    (expect_trimStart_eq_some_iff rfl).mpr ⟨[], nofun, (List.nil_append _).symm⟩
  rw [atFront?, hcut, List.append_assoc, expect_append, Option.bind_some, hlabel, Option.bind_some,
    skipLineFeed_of_notMem h]

/-- A legible row is read back. -/
theorem ofLine?_written {row : Row} (h : row.Legible) : ofLine? row.written = some row := by
  have hline : '\n' ∉
      row.label ++ (":</th><td>".toList ++ (row.cell ++ "</td></tr>".toList)) := by
    simp [h.label_line, h.cell_line]
  have hrow : atFront? row.written = some row :=
    (atFront?_append hline).trans (by rw [longest_afterLabel h, Option.map_some])
  exact leftmost_of_front hrow

/-! ### Lines with a row -/

theorem infix_of_expect {word text rest : List Char} (h : expect word text = some rest) :
    word <:+: text ∧ rest <:+: text := by
  obtain rfl := expect_eq_some_iff.mp h
  exact ⟨(List.prefix_append ..).isInfix, (List.suffix_append ..).isInfix⟩

theorem infix_of_longest {α : Type} {accepts : List Char → Option α} {text word : List Char}
    (ha : ∀ rest a, accepts rest = some a → word <:+: rest) (h : longest accepts text ≠ none) :
    word <:+: text := by
  obtain ⟨⟨stretch, a⟩, hl⟩ := Option.ne_none_iff_exists'.mp h
  obtain ⟨rest, rfl, -, hrest, -⟩ := longest_eq_some hl
  exact (ha rest a hrest).trans (List.suffix_append ..).isInfix

theorem infix_of_afterCell {text rest : List Char} (h : afterCell text = some rest) :
    "</tr>".toList <:+: text := by
  obtain ⟨more, hmore, hrest⟩ := Option.bind_eq_some_iff.mp h
  calc "</tr>".toList <:+: Text.trimStart more := (infix_of_expect hrest).1
    _ <:+: more := (List.dropWhile_suffix _).isInfix
    _ <:+: skipLineFeed text := (infix_of_expect hmore).2
    _ <:+: text := (skipLineFeed_suffix text).isInfix

theorem infix_of_afterLabel {text : List Char} {cell : Line} (h : afterLabel text = some cell) :
    "</tr>".toList <:+: text := by
  obtain ⟨afterColon, hcolon, h⟩ := Option.bind_eq_some_iff.mp h
  obtain ⟨afterTag, htag, h⟩ := Option.bind_eq_some_iff.mp h
  obtain ⟨rest, hrest, h⟩ := Option.bind_eq_some_iff.mp h
  have hcell : "</tr>".toList <:+: skipLineFeed rest :=
    infix_of_longest (fun _ _ => infix_of_afterCell) fun hn => by simp [hn] at h
  calc "</tr>".toList <:+: skipLineFeed rest := hcell
    _ <:+: rest := (skipLineFeed_suffix rest).isInfix
    _ <:+: Text.trimStart afterTag := (infix_of_expect hrest).2
    _ <:+: afterTag := (List.dropWhile_suffix _).isInfix
    _ <:+: skipLineFeed afterColon := (infix_of_expect htag).2
    _ <:+: afterColon := (skipLineFeed_suffix afterColon).isInfix
    _ <:+: text := (infix_of_expect hcolon).2

/-- A line with a row has the tag that ends a row. -/
theorem infix_of_ofLine? {line : Line} {row : Row} (h : ofLine? line = some row) :
    "</tr>".toList <:+: line := by
  obtain ⟨front, text, rfl, hfront, -⟩ := leftmost_eq_some h
  obtain ⟨afterTag, htag, hfront⟩ := Option.bind_eq_some_iff.mp hfront
  obtain ⟨rest, hrest, hfront⟩ := Option.bind_eq_some_iff.mp hfront
  have hlabel : "</tr>".toList <:+: skipLineFeed rest :=
    infix_of_longest (fun _ _ => infix_of_afterLabel) fun hn => by simp [hn] at hfront
  calc "</tr>".toList <:+: skipLineFeed rest := hlabel
    _ <:+: rest := (skipLineFeed_suffix rest).isInfix
    _ <:+: Text.trimStart afterTag := (infix_of_expect hrest).2
    _ <:+: afterTag := (List.dropWhile_suffix _).isInfix
    _ <:+: text := (infix_of_expect htag).2
    _ <:+: front ++ text := (List.suffix_append ..).isInfix

end Webrev.Page.Row
