import Webrev.Proofs.Metadata.Fields
import Webrev.Proofs.Text.Scan

/-!
# Who prepared a change

The table of a page names whoever prepared the change, and may go on with an address. Only the first
word counts. A name that is missing and one that is blank are alike: both leave it to the repository
who the author is.

## Main definitions

* `Text.IsFirstWord` : the first word of a text.
* `Page.Header.PreparedBy` : whoever prepared a change, by the table of its page.

## Main results

* `Text.firstWord_eq_some_iff`, `Text.firstWord_eq_none_iff` : the first word, and when there is
  none.
* `Metadata.preparedBy_iff` : the author in the metadata is whoever prepared the change.
-/

namespace Webrev

/-! ### First words -/

namespace Text

/-- A word stands in a text after blanks, and before a blank or the end of the text. -/
structure IsFirstWord (text word : List Char) : Prop where
  ne_nil : word ≠ []
  no_blank : ∀ c ∈ word, isBlank c = false
  stands : ∃ blanks rest, text = blanks ++ (word ++ rest) ∧ (∀ c ∈ blanks, isBlank c = true) ∧
    ∀ c, rest.head? = some c → isBlank c = true

variable {text word : List Char}

theorem takeWhile_word {rest : List Char} (hword : ∀ c ∈ word, isBlank c = false)
    (hrest : ∀ c, rest.head? = some c → isBlank c = true) :
    (word ++ rest).takeWhile (fun c => !isBlank c) = word := by
  rw [List.takeWhile_append_of_pos fun c hc => by rw [hword c hc, Bool.not_false]]
  cases rest with
  | nil => rw [List.takeWhile_nil, List.append_nil]
  | cons c rest =>
    rw [List.takeWhile_cons_of_neg (by rw [hrest c rfl]; decide), List.append_nil]

theorem IsFirstWord.firstWord_eq (h : IsFirstWord text word) : firstWord text = some word := by
  obtain ⟨hne, hword, blanks, rest, rfl, hblanks, hrest⟩ := h
  cases word with
  | nil => exact absurd rfl hne
  | cons c word =>
    have hc : isBlank c = false := hword c List.mem_cons_self
    rw [firstWord, trimStart, List.dropWhile_append_of_pos hblanks, List.cons_append,
      List.dropWhile_cons_of_neg (by rw [hc]; decide), ← List.cons_append,
      takeWhile_word hword hrest]

/-- A text is blank, or it has a first word. -/
theorem firstWord_cases (text : List Char) :
    (firstWord text = none ∧ ∀ c ∈ text, isBlank c = true) ∨
      ∃ word, firstWord text = some word ∧ IsFirstWord text word := by
  rcases Scan.dropWhile_cases isBlank text with ⟨hdrop, htake⟩ | ⟨c, rest, -, hc, hcut⟩
  · refine .inl ⟨by rw [firstWord, trimStart, hdrop]; rfl, fun c hc => ?_⟩
    rw [← htake] at hc
    exact List.all_eq_true.mp List.all_takeWhile c hc
  · have hfirst : IsFirstWord text ((c :: rest).takeWhile fun c => !isBlank c) := {
      ne_nil := by
        rw [List.takeWhile_cons_of_pos (by rw [hc]; decide)]
        exact List.cons_ne_nil _ _
      no_blank := fun d hd => by
        simpa using List.all_eq_true.mp List.all_takeWhile d hd
      stands := by
        refine ⟨text.takeWhile isBlank, (c :: rest).dropWhile fun c => !isBlank c, ?_,
          List.all_eq_true.mp List.all_takeWhile, fun d hd => ?_⟩
        · rw [List.takeWhile_append_dropWhile]
          exact hcut
        · have hstop := List.head?_dropWhile_not (fun c => !isBlank c) (c :: rest)
          rw [hd] at hstop
          simpa using hstop }
    exact .inr ⟨_, hfirst.firstWord_eq, hfirst⟩

/-- The word that is read is the first one. -/
theorem firstWord_eq_some_iff : firstWord text = some word ↔ IsFirstWord text word := by
  refine ⟨fun h => ?_, IsFirstWord.firstWord_eq⟩
  rcases firstWord_cases text with ⟨hnone, -⟩ | ⟨other, hother, hfirst⟩
  · exact nomatch hnone.symm.trans h
  · obtain rfl := Option.some.inj (hother.symm.trans h)
    exact hfirst

/-- There is no word to be read in a blank text. -/
theorem firstWord_eq_none_iff : firstWord text = none ↔ ∀ c ∈ text, isBlank c = true := by
  rcases firstWord_cases text with ⟨hnone, hblank⟩ | ⟨word, hword, hfirst⟩
  · exact iff_of_true hnone hblank
  · refine iff_of_false (by rw [hword]; exact nofun) fun hblank => ?_
    obtain ⟨hne, hno, blanks, rest, rfl, -, -⟩ := hfirst
    obtain ⟨c, hc⟩ := List.exists_mem_of_ne_nil word hne
    have hmem : c ∈ blanks ++ (word ++ rest) :=
      List.mem_append_right _ (List.mem_append_left _ hc)
    exact nomatch (hno c hc).symm.trans (hblank c hmem)

end Text

/-! ### Authors -/

/-- Whoever prepared a change is the first word of its cell. Without such a cell, and with one that
is blank, the name is empty. -/
def Page.Header.PreparedBy (header : Page.Header) (author : String) : Prop :=
  (∃ cell, header.get? "Prepared by" = some cell ∧
      Text.IsFirstWord cell.toList author.toList) ∨
    author = "" ∧ ∀ cell, header.get? "Prepared by" = some cell →
      ∀ c ∈ cell.toList, Text.isBlank c = true

namespace Metadata

variable {header : Page.Header} {source : Url} {metadata : Metadata}

theorem author?_eq_none_iff {cell : String} :
    author? cell = none ↔ ∀ c ∈ cell.toList, Text.isBlank c = true := by
  rw [author?, Option.map_eq_none_iff, Text.firstWord_eq_none_iff]

theorem author?_eq_some_iff {cell author : String} :
    author? cell = some author ↔ Text.IsFirstWord cell.toList author.toList := by
  rw [author?, Option.map_eq_some_iff, ← Text.firstWord_eq_some_iff]
  constructor
  · rintro ⟨word, hword, rfl⟩
    rwa [String.toList_ofList]
  · exact fun h => ⟨author.toList, h, String.ofList_toList⟩

/-- The name that is read from a table is that of whoever prepared the change. -/
theorem preparedBy_iff {author : String} :
    header.PreparedBy author ↔ ((header.get? "Prepared by").bind author?).getD "" = author := by
  constructor
  · rintro (⟨cell, hcell, hword⟩ | ⟨rfl, hblank⟩)
    · rw [hcell, Option.bind_some, author?_eq_some_iff.mpr hword, Option.getD_some]
    · have hnone : (header.get? "Prepared by").bind author? = none :=
        Option.bind_eq_none_iff.mpr fun cell hcell => author?_eq_none_iff.mpr (hblank cell hcell)
      rw [hnone, Option.getD_none]
  · rintro rfl
    cases hread : (header.get? "Prepared by").bind author? with
    | none =>
      exact .inr ⟨rfl, fun cell hcell =>
        author?_eq_none_iff.mp (Option.bind_eq_none_iff.mp hread cell hcell)⟩
    | some name =>
      obtain ⟨cell, hcell, hname⟩ := Option.bind_eq_some_iff.mp hread
      exact .inl ⟨cell, hcell, author?_eq_some_iff.mp hname⟩

/-- The author in the metadata. -/
theorem author_of_ofHeader (h : ofHeader header source = .ok metadata) :
    metadata.author = (header.get? "Prepared by").bind author? := by
  rw [ofHeader_eq] at h
  cases hn : namedRepository header with
  | error e => exact nomatch (congrArg (Except.map _) hn).symm.trans h
  | ok uri =>
    rw [hn] at h
    cases h
    rfl

theorem preparedBy_of_ofHeader (h : ofHeader header source = .ok metadata) :
    header.PreparedBy (metadata.author.getD "") :=
  preparedBy_iff.mpr (by rw [author_of_ofHeader h])

end Metadata

end Webrev
