import Webrev.Text.Blank
import Webrev.Text.Scan
import Mathlib.Data.List.Basic

/-!
# Scanning what was written

The converse of what is known of the pieces of a pattern: a text that was put together from a
stretch and something accepted is taken apart in the same way, unless what is accepted stands later
as well.

## Main results

* `Scan.exists_of_append_eq_append_cons` : a character that a word does not have stands after it.
* `Scan.append_cons_inj_of_first` : a list is cut in one way at an element.
* `Scan.mem_of_mem_intercalate` : what stands in a text that is put together from parts.
* `Scan.dropWhile_cases` : where a text is cut.
* `Scan.longest_append` : the stretch that was written is the longest one.
* `Scan.longest_eq_some_iff`, `Scan.leftmost_eq_some_iff` : the stretch and the place that are
  chosen.
* `Scan.expect_bind_trimStart_eq_some_iff` : a word and, after blanks, another one.
-/

namespace Webrev.Scan

variable {α : Type}

/-- A character that a word does not have stands after the word. -/
theorem exists_of_append_eq_append_cons {word rest front back : List α} {c : α} (hc : c ∉ word)
    (h : word ++ rest = front ++ c :: back) :
    ∃ more, front = word ++ more ∧ rest = more ++ c :: back := by
  rcases List.append_eq_append_iff.mp h with hafter | ⟨more, hword, hmore⟩
  · exact hafter
  · cases more with
    | nil => exact ⟨[], by rw [hword, List.append_nil, List.append_nil], hmore.symm⟩
    | cons d more =>
      rw [(List.cons.inj hmore).1, hword] at hc
      exact absurd (List.mem_append_right _ List.mem_cons_self) hc

/-- A list is cut in one way at the first of its elements that are as `p` says. -/
theorem append_cons_inj_of_first {p : α → Prop} {front front' back back' : List α}
    {a a' : α} (h : front ++ a :: back = front' ++ a' :: back') (hfront : ∀ b ∈ front, ¬p b)
    (ha : p a) (hfront' : ∀ b ∈ front', ¬p b) (ha' : p a') :
    front = front' ∧ a = a' ∧ back = back' := by
  rcases List.append_eq_append_iff.mp h with ⟨_ | ⟨b, more⟩, hl, hr⟩ | ⟨_ | ⟨b, more⟩, hl, hr⟩
  · obtain ⟨rfl, rfl⟩ := List.cons.inj hr
    exact ⟨(List.append_nil front).symm.trans hl.symm, rfl, rfl⟩
  · obtain ⟨rfl, -⟩ := List.cons.inj hr
    exact absurd ha (hfront' _ (hl ▸ List.mem_append_right _ List.mem_cons_self))
  · obtain ⟨rfl, rfl⟩ := List.cons.inj hr
    exact ⟨hl.trans (List.append_nil front'), rfl, rfl⟩
  · obtain ⟨rfl, -⟩ := List.cons.inj hr
    exact absurd ha' (hfront _ (hl ▸ List.mem_append_right _ List.mem_cons_self))

/-- What stands in a text that is put together from parts stands in a part or between two. -/
theorem mem_of_mem_intercalate {between : List α} {parts : List (List α)} {a : α}
    (h : a ∈ List.intercalate between parts) : a ∈ between ∨ ∃ part ∈ parts, a ∈ part := by
  induction parts with
  | nil => exact absurd h List.not_mem_nil
  | cons part parts ih =>
    cases parts with
    | nil => exact .inr ⟨part, List.mem_cons_self, by simpa using h⟩
    | cons next parts =>
      rw [List.intercalate_cons_cons, List.append_assoc, List.mem_append, List.mem_append] at h
      rcases h with hpart | hbetween | hlater
      · exact .inr ⟨part, List.mem_cons_self, hpart⟩
      · exact .inl hbetween
      · exact (ih hlater).imp_right fun ⟨later, hmem, ha⟩ =>
          ⟨later, List.mem_cons_of_mem part hmem, ha⟩

/-- A text is cut at the first character that fails a condition, or not at all. -/
theorem dropWhile_cases (holds : α → Bool) (text : List α) :
    text.dropWhile holds = [] ∧ text.takeWhile holds = text ∨
      ∃ c rest, text.dropWhile holds = c :: rest ∧ holds c = false ∧
        text = text.takeWhile holds ++ c :: rest := by
  have hcut := List.takeWhile_append_dropWhile (p := holds) (l := text)
  cases hdrop : text.dropWhile holds with
  | nil => exact .inl ⟨rfl, by rwa [hdrop, List.append_nil] at hcut⟩
  | cons c rest =>
    have hc := List.head?_dropWhile_not holds text
    rw [hdrop] at hc hcut
    exact .inr ⟨c, rest, rfl, hc, hcut.symm⟩

/-- A text that a reader takes is taken at its front. -/
theorem leftmost_of_front {reader : List Char → Option α} {text : List Char} {a : α}
    (h : reader text = some a) : leftmost reader text = some a := by
  cases text with
  | nil => exact h
  | cons c text => rw [leftmost, h]

/-- The stretch that was written is the longest one, when nothing is accepted after it but what
follows it at once. -/
theorem longest_append {accepts : List Char → Option α} {stretch rest : List Char} {a : α}
    (hn : '\n' ∉ stretch) (ha : accepts rest = some a)
    (hmax : ∀ more rest', rest = more ++ rest' → more ≠ [] → accepts rest' = none) :
    longest accepts (stretch ++ rest) = some (stretch, a) := by
  cases hl : longest accepts (stretch ++ rest) with
  | none =>
    have hnone := longest_eq_none_iff.mp hl stretch rest rfl hn
    rw [ha] at hnone
    cases hnone
  | some chosen =>
    obtain ⟨stretch', b⟩ := chosen
    obtain ⟨rest', hcut, -, hb, hmax'⟩ := longest_eq_some hl
    -- Of the two stretches the longer one is refused by what is known of the other.
    rcases List.append_eq_append_iff.mp hcut with ⟨more, rfl, hrest⟩ | ⟨more, rfl, hrest⟩
    · cases more with
      | nil =>
        rw [List.nil_append] at hrest
        rw [← hrest, ha] at hb
        rw [List.append_nil, Option.some.inj hb]
      | cons c more =>
        have hnone := hmax (c :: more) rest' hrest (List.cons_ne_nil c more)
        rw [hb] at hnone
        cases hnone
    · cases more with
      | nil =>
        rw [List.nil_append] at hrest
        rw [hrest, ha] at hb
        rw [List.append_nil, Option.some.inj hb]
      | cons c more =>
        have hnone := hmax' (c :: more) rest hrest (List.cons_ne_nil c more)
          fun hm => hn (List.mem_append_right _ hm)
        rw [ha] at hnone
        cases hnone

/-- Within a line the longest stretch is chosen after which something is accepted. -/
theorem longest_eq_some_iff {accepts : List Char → Option α} {text stretch : List Char} {a : α}
    (h : '\n' ∉ text) :
    longest accepts text = some (stretch, a) ↔
      ∃ rest, text = stretch ++ rest ∧ accepts rest = some a ∧
        ∀ stretch' rest', text = stretch' ++ rest' → accepts rest' ≠ none →
          stretch'.length ≤ stretch.length := by
  constructor
  · intro hl
    obtain ⟨rest, rfl, -, ha, hmax⟩ := longest_eq_some hl
    refine ⟨rest, rfl, ha, fun stretch' rest' hcut hrest' => ?_⟩
    by_contra hlt
    rcases List.append_eq_append_iff.mp hcut with ⟨more, rfl, rfl⟩ | ⟨more, rfl, -⟩
    · have hmore : more ≠ [] := fun hnil => hlt (by simp [hnil])
      have hline : '\n' ∉ more := fun hm =>
        h (List.mem_append_right _ (List.mem_append_left _ hm))
      exact hrest' (hmax more rest' rfl hmore hline)
    · rw [List.length_append] at hlt
      omega
  · rintro ⟨rest, rfl, ha, hmax⟩
    refine longest_append (fun hm => h (List.mem_append_left _ hm)) ha ?_
    intro more rest' hrest hmore
    by_contra hrest'
    have hle := hmax (stretch ++ more) rest' (by rw [hrest, List.append_assoc]) hrest'
    have hpos := List.length_pos_of_ne_nil hmore
    rw [List.length_append] at hle
    omega

/-- The first place is chosen at which a reader has an answer. -/
theorem leftmost_eq_some_iff {reader : List Char → Option α} {text : List Char} {a : α} :
    leftmost reader text = some a ↔
      ∃ front rest, text = front ++ rest ∧ reader rest = some a ∧
        ∀ front' rest', text = front' ++ rest' → reader rest' ≠ none →
          front.length ≤ front'.length := by
  constructor
  · intro h
    obtain ⟨front, rest, rfl, ha, hmin⟩ := leftmost_eq_some h
    refine ⟨front, rest, rfl, ha, fun front' rest' hcut hrest' => ?_⟩
    by_contra hlt
    exact hrest' (hmin front' rest' hcut (Nat.lt_of_not_le hlt))
  · rintro ⟨front, rest, rfl, ha, hmin⟩
    cases hl : leftmost reader (front ++ rest) with
    | none => exact absurd (leftmost_eq_none_iff.mp hl front rest rfl) (by simp [ha])
    | some b =>
      obtain ⟨front', rest', hcut, hb, hmin'⟩ := leftmost_eq_some hl
      have hle := hmin front' rest' hcut (by simp [hb])
      have hge : ¬front.length < front'.length := fun hlt =>
        absurd (hmin' front rest rfl hlt) (by simp [ha])
      obtain ⟨-, rfl⟩ := List.append_inj hcut (by omega)
      exact hb.symm.trans ha

/-- A word that does not begin with a blank, after blanks. -/
theorem expect_trimStart_eq_some_iff {w : Char} {word text rest : List Char}
    (hw : Text.isBlank w = false) :
    expect (w :: word) (Text.trimStart text) = some rest ↔
      ∃ blanks, (∀ c ∈ blanks, Text.isBlank c = true) ∧ text = blanks ++ (w :: word ++ rest) := by
  rw [expect_eq_some_iff]
  constructor
  · intro h
    refine ⟨text.takeWhile Text.isBlank, List.all_eq_true.mp List.all_takeWhile, ?_⟩
    rw [← h]
    exact List.takeWhile_append_dropWhile.symm
  · rintro ⟨blanks, hblanks, rfl⟩
    rw [Text.trimStart, List.dropWhile_append_of_pos hblanks]
    exact List.dropWhile_cons_of_neg (by simp [hw])

/-- A word and, after blanks, one that does not begin with a blank. -/
theorem expect_bind_trimStart_eq_some_iff {w : Char} {first word text rest : List Char}
    (hw : Text.isBlank w = false) :
    ((expect first text).bind fun more => expect (w :: word) (Text.trimStart more)) = some rest ↔
      ∃ blanks, (∀ c ∈ blanks, Text.isBlank c = true) ∧
        text = first ++ (blanks ++ (w :: word ++ rest)) := by
  rw [Option.bind_eq_some_iff]
  constructor
  · rintro ⟨more, hmore, hrest⟩
    obtain rfl := expect_eq_some_iff.mp hmore
    obtain ⟨blanks, hblanks, rfl⟩ := (expect_trimStart_eq_some_iff hw).mp hrest
    exact ⟨blanks, hblanks, rfl⟩
  · rintro ⟨blanks, hblanks, rfl⟩
    exact ⟨_, expect_append .., (expect_trimStart_eq_some_iff hw).mpr ⟨blanks, hblanks, rfl⟩⟩

theorem skipLineFeed_suffix (text : List Char) : skipLineFeed text <:+ text := by
  unfold skipLineFeed
  split
  · exact List.suffix_cons ..
  · exact List.suffix_rfl

theorem skipLineFeed_of_notMem {text : List Char} (h : '\n' ∉ text) : skipLineFeed text = text := by
  cases text with
  | nil => rfl
  | cons c text =>
    have hc : c ≠ '\n' := fun e => h (e ▸ List.mem_cons_self)
    unfold skipLineFeed
    split
    · next heq => exact absurd (List.cons.inj heq).1 hc
    · rfl

end Webrev.Scan
