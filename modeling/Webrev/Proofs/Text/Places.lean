import Webrev.Proofs.Text.Scan

/-!
# Places in a text

A pattern is read from the place in a text that was reached. Within one line what is read there can
be said by places alone: a word stands at a place or not, the longest stretch goes on up to the last
place from which the rest can be read, and the first answer is the one of the first place that has
one.

## Main definitions

* `Scan.StandsAt` : a word stands in a text at a place.
* `Scan.slice` : the text between two places.

## Main results

* `Scan.expect_drop_eq_some_iff` : a word is read where it stands.
* `Scan.longest_drop`, `Scan.longest_drop_ne_none` : the place up to which the longest stretch goes.
* `Scan.leftmost_eq_some_at`, `Scan.leftmost_ne_none` : the place of the first answer.
-/

namespace Webrev.Scan

variable {α : Type}

/-- A word stands in a text at a place. -/
def StandsAt (word text : List Char) (i : Nat) : Prop := word <+: text.drop i

instance (word text : List Char) (i : Nat) : Decidable (StandsAt word text i) :=
  inferInstanceAs (Decidable (_ <+: _))

theorem standsAt_drop {word text : List Char} {k i : Nat} :
    StandsAt word (text.drop k) i ↔ StandsAt word text (k + i) := by
  rw [StandsAt, StandsAt, List.drop_drop]

/-- A word stands where it was put. -/
theorem standsAt_append (front word back : List Char) :
    StandsAt word (front ++ (word ++ back)) front.length := by
  rw [StandsAt, List.drop_left]
  exact List.prefix_append word back

/-- A word that ends before a text goes on stands in what came before. -/
theorem StandsAt.of_append {word front back : List Char} {i : Nat}
    (h : StandsAt word (front ++ back) i) (hi : i + word.length ≤ front.length) :
    StandsAt word front i := by
  have hdrop : (front ++ back).drop i = front.drop i ++ back :=
    List.drop_append_of_le_length (by omega)
  refine List.prefix_of_prefix_length_le h (hdrop ▸ List.prefix_append ..) ?_
  rw [List.length_drop]
  omega

/-- A word stands where it stood when the text goes on. -/
theorem StandsAt.append {word text : List Char} {i : Nat} (h : StandsAt word text i)
    (hi : i ≤ text.length) (back : List Char) : StandsAt word (text ++ back) i := by
  rw [StandsAt, List.drop_append_of_le_length hi]
  exact List.IsPrefix.trans h (List.prefix_append ..)

/-- A word that stands in a text is a part of it. -/
theorem StandsAt.isInfix {word text : List Char} {i : Nat} (h : StandsAt word text i) :
    word <:+: text :=
  List.IsInfix.trans (List.IsPrefix.isInfix h) (List.drop_suffix i text).isInfix

theorem StandsAt.add_length_le {word text : List Char} {i : Nat} (h : StandsAt word text i)
    (hword : word ≠ []) : i + word.length ≤ text.length := by
  have hle := h.length_le
  have hpos := List.length_pos_of_ne_nil hword
  rw [List.length_drop] at hle
  omega

/-- The text between two places. -/
def slice (text : List Char) (i j : Nat) : List Char := (text.drop i).take (j - i)

theorem length_slice_le (text : List Char) (i j : Nat) : (slice text i j).length ≤ j - i :=
  List.length_take_le ..

/-- What follows a place is the text up to a later one and what follows that. -/
theorem slice_append_drop (text : List Char) {i j : Nat} (h : i ≤ j) :
    slice text i j ++ text.drop j = text.drop i := by
  have hdrop : text.drop j = (text.drop i).drop (j - i) := by
    rw [List.drop_drop, Nat.add_sub_cancel' h]
  rw [slice, hdrop, List.take_append_drop]

/-- A word is read exactly where it stands. -/
theorem expect_drop_eq_some_iff {word text rest : List Char} {i : Nat} :
    expect word (text.drop i) = some rest ↔
      StandsAt word text i ∧ rest = text.drop (i + word.length) := by
  rw [expect_eq_some_iff, ← List.drop_drop]
  constructor
  · intro h
    exact ⟨⟨rest, h.symm⟩, by rw [h, List.drop_left]⟩
  · rintro ⟨h, rfl⟩
    exact List.prefix_iff_eq_append.mp h |>.symm

theorem expect_drop {word text : List Char} {i : Nat} (h : StandsAt word text i) :
    expect word (text.drop i) = some (text.drop (i + word.length)) :=
  expect_drop_eq_some_iff.mpr ⟨h, rfl⟩

theorem expect_drop_ne_none {word text : List Char} {i : Nat} (h : StandsAt word text i) :
    expect word (text.drop i) ≠ none := by
  rw [expect_drop h]
  exact Option.some_ne_none _

/-- The longest stretch ends at the last place from which the rest is accepted. -/
theorem longest_drop {accepts : List Char → Option α} {text stretch : List Char} {k : Nat} {a : α}
    (hline : '\n' ∉ text) (h : longest accepts (text.drop k) = some (stretch, a)) :
    ∃ i, k ≤ i ∧ stretch = slice text k i ∧ accepts (text.drop i) = some a ∧
      ∀ j, k ≤ j → j ≤ text.length → accepts (text.drop j) ≠ none → j ≤ i := by
  obtain ⟨rest, hcut, ha, hmax⟩ :=
    (longest_eq_some_iff fun hm => hline (List.mem_of_mem_drop hm)).mp h
  have hrest : text.drop (k + stretch.length) = rest := by
    rw [← List.drop_drop, hcut, List.drop_left]
  refine ⟨k + stretch.length, Nat.le_add_right .., ?_, by rw [hrest, ha], fun j hk hj haccept => ?_⟩
  · rw [slice, Nat.add_sub_cancel_left, hcut, List.take_left]
  · have hle := hmax (slice text k j) (text.drop j) (slice_append_drop text hk).symm haccept
    rw [slice, List.length_take, List.length_drop] at hle
    omega

/-- A stretch is chosen when what follows some place is accepted. -/
theorem longest_drop_ne_none {accepts : List Char → Option α} {text : List Char} {k i : Nat}
    (hline : '\n' ∉ text) (hk : k ≤ i) (h : accepts (text.drop i) ≠ none) :
    longest accepts (text.drop k) ≠ none := by
  intro hnone
  refine h (longest_eq_none_iff.mp hnone (slice text k i) _ (slice_append_drop text hk).symm ?_)
  exact fun hm => hline (List.mem_of_mem_drop (List.mem_of_mem_take hm))

/-- The first answer is that of the first place that has one. -/
theorem leftmost_eq_some_at {reader : List Char → Option α} {text : List Char} {a : α}
    (h : leftmost reader text = some a) :
    ∃ i, reader (text.drop i) = some a ∧
      ∀ j, j ≤ text.length → reader (text.drop j) ≠ none → i ≤ j := by
  obtain ⟨front, rest, rfl, ha, hmin⟩ := leftmost_eq_some_iff.mp h
  refine ⟨front.length, by rw [List.drop_left, ha], fun j hj hread => ?_⟩
  have hle := hmin ((front ++ rest).take j) ((front ++ rest).drop j)
    (List.take_append_drop ..).symm hread
  rw [List.length_take] at hle
  omega

/-- There is an answer when there is one at some place. -/
theorem leftmost_ne_none {reader : List Char → Option α} {text : List Char} {i : Nat}
    (h : reader (text.drop i) ≠ none) : leftmost reader text ≠ none := by
  intro hnone
  exact h (leftmost_eq_none_iff.mp hnone (text.take i) _ (List.take_append_drop ..).symm)

end Webrev.Scan
