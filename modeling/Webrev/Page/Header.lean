/-!
# The metadata table of a page

A table gives each of its labels the contents of a cell. When a label is repeated, the last row
counts.

## Main definitions

* `Page.Header` : the labels of a table with the contents of their cells.
* `Page.Header.insert` : a table with one more row.
* `Page.Header.get?` : the contents of the cell with a label.

## Main results

* `Page.Header.get?_insert` : a row changes the cell with its label and no other.
-/

namespace Webrev.Page

/-- The labels of a table with the contents of their cells. No label stands twice. -/
structure Header where
  entries : List (String × String)
  labels_nodup : (entries.map Prod.fst).Nodup
  deriving DecidableEq, Repr

namespace Header

/-- A table without rows. -/
def empty : Header := ⟨[], List.nodup_nil⟩

/-- The rows of a table other than those with a label. -/
def others (entries : List (String × String)) (label : String) : List (String × String) :=
  entries.filter fun entry => entry.1 != label

theorem labels_nodup_insert {entries : List (String × String)} (label cell : String)
    (h : (entries.map Prod.fst).Nodup) :
    ((others entries label ++ [(label, cell)]).map Prod.fst).Nodup := by
  rw [List.map_append, List.nodup_append]
  refine ⟨(List.filter_sublist.map Prod.fst).nodup h, by simp, fun a ha b hb => ?_⟩
  obtain ⟨entry, hentry, rfl⟩ := List.mem_map.mp ha
  have hne : entry.1 ≠ label := by simpa using (List.mem_filter.mp hentry).2
  rw [List.map_cons, List.map_nil, List.mem_singleton] at hb
  exact hb ▸ hne

/-- A table with one more row, which replaces an earlier row with its label. -/
def insert (header : Header) (label cell : String) : Header :=
  ⟨others header.entries label ++ [(label, cell)],
    labels_nodup_insert label cell header.labels_nodup⟩

/-- The table of rows in order. -/
def ofList (rows : List (String × String)) : Header :=
  rows.foldl (fun header row => header.insert row.1 row.2) empty

/-- The contents of the cell with a label. -/
def get? (header : Header) (label : String) : Option String := header.entries.lookup label

/-! ### Cells -/

theorem lookup_others (entries : List (String × String)) (label other : String) :
    (others entries label).lookup other = if other = label then none else entries.lookup other := by
  induction entries with
  | nil => simp [others]
  | cons entry entries ih =>
    unfold others at ih ⊢
    by_cases he : entry.1 = label
    · rw [List.filter_cons_of_neg (by simp [he]), ih]
      split
      · rfl
      · next h => rw [List.lookup_cons, beq_eq_false_iff_ne.mpr (he ▸ h)]
    · rw [List.filter_cons_of_pos (by simp [he]), List.lookup_cons, List.lookup_cons, ih]
      by_cases ho : other = entry.1
      · simp [ho, he]
      · rw [beq_eq_false_iff_ne.mpr ho]

@[simp]
theorem get?_empty (label : String) : empty.get? label = none := rfl

/-- A row changes the cell with its label and no other. -/
@[simp]
theorem get?_insert (header : Header) (label cell other : String) :
    (header.insert label cell).get? other =
      if other = label then some cell else header.get? other := by
  unfold get? insert
  rw [List.lookup_append, lookup_others]
  by_cases h : other = label
  · simp [h]
  · simp [h]

end Header

end Webrev.Page
