import Webrev.Metadata.Summary
import Webrev.Proofs.Text.Numeral
import Webrev.Proofs.Text.Places

/-!
# Which sentence sums a change up

A sentence stands in a text at a place when its numerals are runs of decimal digits and the words of
the sentence stand between them. A place has one such sentence, because no word begins with a digit.
The sentence at the first place counts, and no other is tried when its numerals are too large or not
written in ASCII digits. The number of unchanged lines is only there to be passed over.

## Main definitions

* `Summary.Sentence.written` : the text of a sentence.
* `Summary.Sentence.OccursAt` : a sentence stands in a text at a place.
* `Summary.Sentence.IsFirst` : no sentence stands in the text before it.
* `Summary.Sentence.Denotes` : the counts that the numerals of a sentence denote.
* `Summary.Sentence.ofCounts` : the sentence that is printed for counts.

## Main results

* `Summary.Sentence.atFront?_drop_eq_some_iff` : a sentence is read where it stands.
* `Summary.parse?_eq_some_iff_isFirst` : the counts in a text.
* `Summary.parse?_grammar` : the counts in a text, and in a sentence that was printed.
-/

namespace Webrev.Summary

open Scan

variable {digits text rest back : List Char} {c : Char}

/-! ### Runs of digits -/

/-- A run of digits is read up to the word that follows it. -/
theorem numeral?_append (hrun : Numeral.IsRun digits) (word rest : List Char)
    (hword : word.head?.map Numeral.isDecimalDigit = some false) :
    numeral? (digits ++ (word ++ rest)) = some (digits, word ++ rest) := by
  obtain ⟨c, hhead, hc⟩ := Option.map_eq_some_iff.mp hword
  obtain ⟨word, rfl⟩ : ∃ word', word = c :: word' := ⟨_, (List.eq_cons_of_mem_head? hhead)⟩
  have htake : (digits ++ (c :: word ++ rest)).takeWhile Numeral.isDecimalDigit = digits := by
    rw [List.takeWhile_append_of_pos hrun.2, List.cons_append,
      List.takeWhile_cons_of_neg (by simp [hc]), List.append_nil]
  have hdrop : (digits ++ (c :: word ++ rest)).dropWhile Numeral.isDecimalDigit =
      c :: word ++ rest := by
    rw [List.dropWhile_append_of_pos hrun.2, List.cons_append,
      List.dropWhile_cons_of_neg (by simp [hc])]
  rw [numeral?, htake, hdrop]
  obtain ⟨d, digits, rfl⟩ := List.exists_cons_of_ne_nil hrun.1
  rfl

theorem numeral?_eq_some (h : numeral? text = some (digits, rest)) :
    Numeral.IsRun digits ∧ text = digits ++ rest := by
  unfold numeral? at h
  split at h
  · cases h
  next hne =>
    obtain ⟨rfl, rfl⟩ := Prod.mk.inj (Option.some.inj h)
    refine ⟨⟨fun hnil => hne hnil, List.all_eq_true.mp List.all_takeWhile⟩, ?_⟩
    exact List.takeWhile_append_dropWhile.symm

theorem exists_of_skipPlural (text : List Char) :
    ∃ plural : Bool, text = (if plural then ['s'] else []) ++ skipPlural text := by
  unfold skipPlural
  split
  · exact ⟨true, rfl⟩
  · exact ⟨false, rfl⟩

/-! ### Sentences -/

namespace Sentence

variable {sentence sentence' : Sentence} {plural : Bool} {summary : Summary} {place place' : Nat}

/-- The text of a sentence, with the letter of the plural or without it. -/
def written (sentence : Sentence) (plural : Bool) : List Char :=
  sentence.linesChanged ++ " line".toList ++ (if plural then ['s'] else []) ++
    " changed: ".toList ++ sentence.insertions ++ " ins; ".toList ++ sentence.deletions ++
    " del; ".toList ++ sentence.modifications ++ " mod; ".toList ++ sentence.unchanged ++
    " unchg".toList

/-- The numerals of a sentence are runs of decimal digits, of any script. -/
structure HasRuns (sentence : Sentence) : Prop where
  linesChanged : Numeral.IsRun sentence.linesChanged
  insertions : Numeral.IsRun sentence.insertions
  deletions : Numeral.IsRun sentence.deletions
  modifications : Numeral.IsRun sentence.modifications
  unchanged : Numeral.IsRun sentence.unchanged

/-- A sentence stands in a text at a place. -/
def OccursAt (sentence : Sentence) (text : List Char) (place : Nat) : Prop :=
  sentence.HasRuns ∧ ∃ plural, StandsAt (sentence.written plural) text place

/-- No sentence stands in the text before this one. -/
def IsFirst (sentence : Sentence) (text : List Char) (place : Nat) : Prop :=
  sentence.OccursAt text place ∧
    ∀ sentence' : Sentence, ∀ place', sentence'.OccursAt text place' → place ≤ place'

/-- The counts that the numerals of a sentence denote. -/
structure Denotes (sentence : Sentence) (summary : Summary) : Prop where
  linesChanged : Numeral.Denotes sentence.linesChanged summary.linesChanged
  insertions : Numeral.Denotes sentence.insertions summary.insertions
  deletions : Numeral.Denotes sentence.deletions summary.deletions
  modifications : Numeral.Denotes sentence.modifications summary.modifications

/-- A sentence that was written is read. -/
theorem atFront?_written (h : sentence.HasRuns) (plural : Bool) (back : List Char) :
    atFront? (sentence.written plural ++ back) = some sentence := by
  have hplural : ∀ rest : List Char, skipPlural
      ((if plural then ['s'] else []) ++ (" changed: ".toList ++ rest)) =
        " changed: ".toList ++ rest := by
    intro rest
    cases plural <;> rfl
  simp only [written, List.append_assoc, atFront?, Option.bind_eq_bind, Option.bind_some,
    numeral?_append h.linesChanged " line".toList _ rfl, expect_append, hplural,
    numeral?_append h.insertions " ins; ".toList _ rfl,
    numeral?_append h.deletions " del; ".toList _ rfl,
    numeral?_append h.modifications " mod; ".toList _ rfl,
    numeral?_append h.unchanged " unchg".toList _ rfl]
  rfl

/-- What is read at the front of a text was written there. -/
theorem exists_of_atFront? (h : atFront? text = some sentence) :
    sentence.HasRuns ∧ ∃ plural back, text = sentence.written plural ++ back := by
  simp only [atFront?, Option.bind_eq_bind, Option.bind_eq_some_iff, Prod.exists] at h
  obtain ⟨linesChanged, rest₁, hlines, rest₂, hline, rest₃, hchanged, insertions, rest₄, hins,
    rest₅, hinsWord, deletions, rest₆, hdel, rest₇, hdelWord, modifications, rest₈, hmod, rest₉,
    hmodWord, unchanged, rest₁₀, hunchg, back, hunchgWord, hsentence⟩ := h
  obtain rfl := Option.some.inj hsentence
  obtain ⟨plural, hplural⟩ := exists_of_skipPlural rest₂
  obtain ⟨hrun₁, rfl⟩ := numeral?_eq_some hlines
  obtain ⟨hrun₂, rfl⟩ := numeral?_eq_some hins
  obtain ⟨hrun₃, rfl⟩ := numeral?_eq_some hdel
  obtain ⟨hrun₄, rfl⟩ := numeral?_eq_some hmod
  obtain ⟨hrun₅, rfl⟩ := numeral?_eq_some hunchg
  rw [expect_eq_some_iff] at hline hchanged hinsWord hdelWord hmodWord hunchgWord
  refine ⟨⟨hrun₁, hrun₂, hrun₃, hrun₄, hrun₅⟩, plural, back, ?_⟩
  rw [hline, hplural, hchanged, hinsWord, hdelWord, hmodWord, hunchgWord]
  simp only [written, List.append_assoc]

/-- A sentence is read where it stands. -/
theorem atFront?_drop_eq_some_iff :
    atFront? (text.drop place) = some sentence ↔ sentence.OccursAt text place := by
  constructor
  · intro h
    obtain ⟨hruns, plural, back, hdrop⟩ := exists_of_atFront? h
    exact ⟨hruns, plural, ⟨back, hdrop.symm⟩⟩
  · rintro ⟨hruns, plural, back, hdrop⟩
    rw [← hdrop]
    exact atFront?_written hruns plural back

theorem written_ne_nil (sentence : Sentence) (plural : Bool) : sentence.written plural ≠ [] := by
  simp [written]

theorem OccursAt.le_length (h : sentence.OccursAt text place) : place ≤ text.length := by
  obtain ⟨-, plural, hstands⟩ := h
  have hle := hstands.add_length_le (written_ne_nil sentence plural)
  omega

/-- At most one sentence is the first one. -/
theorem IsFirst.unique (h : sentence.IsFirst text place) (h' : sentence'.IsFirst text place') :
    sentence = sentence' ∧ place = place' := by
  obtain rfl : place = place' := le_antisymm (h.2 _ _ h'.1) (h'.2 _ _ h.1)
  have hread := atFront?_drop_eq_some_iff.mpr h.1
  rw [atFront?_drop_eq_some_iff.mpr h'.1] at hread
  exact ⟨(Option.some.inj hread).symm, rfl⟩

/-- The first sentence of a text is the one that is looked for. -/
theorem leftmost_atFront?_eq_some_iff :
    leftmost atFront? text = some sentence ↔ ∃ place, sentence.IsFirst text place := by
  constructor
  · intro h
    obtain ⟨place, hread, hfirst⟩ := leftmost_eq_some_at h
    refine ⟨place, atFront?_drop_eq_some_iff.mp hread, fun sentence' place' hoccurs => ?_⟩
    refine hfirst place' hoccurs.le_length ?_
    rw [atFront?_drop_eq_some_iff.mpr hoccurs]
    exact Option.some_ne_none _
  · rintro ⟨place, hfirst⟩
    have hread := atFront?_drop_eq_some_iff.mpr hfirst.1
    obtain ⟨chosen, hchosen⟩ := Option.ne_none_iff_exists'.mp <|
      leftmost_ne_none (hread ▸ Option.some_ne_none sentence)
    obtain ⟨place', hread', hfirst'⟩ := leftmost_eq_some_at hchosen
    have hoccurs := atFront?_drop_eq_some_iff.mp hread'
    have hisFirst : chosen.IsFirst text place' := by
      refine ⟨hoccurs, fun other place'' hother => hfirst' place'' hother.le_length ?_⟩
      rw [atFront?_drop_eq_some_iff.mpr hother]
      exact Option.some_ne_none _
    rw [hchosen, (hisFirst.unique hfirst).1]

/-- The counts of a sentence are what its numerals denote. -/
theorem counts?_eq_some_iff : sentence.counts? = some summary ↔ sentence.Denotes summary := by
  simp only [counts?, Option.bind_eq_bind, Option.bind_eq_some_iff, Numeral.counter?_eq_some_iff]
  constructor
  · rintro ⟨insertions, hins, deletions, hdel, modifications, hmod, linesChanged, hlines, heq⟩
    obtain rfl := Option.some.inj heq
    exact ⟨hlines, hins, hdel, hmod⟩
  · rintro ⟨hlines, hins, hdel, hmod⟩
    exact ⟨_, hins, _, hdel, _, hmod, _, hlines, rfl⟩

/-! ### Sentences that were printed -/

/-- The sentence that is printed for counts. -/
def ofCounts (linesChanged insertions deletions modifications : Nat) (unchanged : List Char) :
    Sentence :=
  ⟨Numeral.decimal linesChanged, Numeral.decimal insertions, Numeral.decimal deletions,
    Numeral.decimal modifications, unchanged⟩

variable {n i d m : Nat} {unchanged : List Char}

theorem hasRuns_ofCounts (h : Numeral.IsRun unchanged) : (ofCounts n i d m unchanged).HasRuns := by
  have hrun : ∀ k, Numeral.IsRun (Numeral.decimal k) := fun k =>
    Numeral.isRun_of_isDigit (Numeral.decimal_ne_nil k) fun _ => Numeral.isDigit_of_mem_decimal
  exact ⟨hrun n, hrun i, hrun d, hrun m, h⟩

/-- The counts that were printed are those of the sentence, unless a counter does not hold one. -/
theorem counts?_ofCounts : (ofCounts n i d m unchanged).counts? =
    if n < 2 ^ 64 ∧ i < 2 ^ 64 ∧ d < 2 ^ 64 ∧ m < 2 ^ 64 then some ⟨i, d, m, n⟩ else none := by
  split
  next hfit =>
    obtain ⟨hn, hi, hd, hm⟩ := hfit
    exact counts?_eq_some_iff.mpr ⟨Numeral.denotes_decimal_iff.mpr ⟨rfl, hn⟩,
      Numeral.denotes_decimal_iff.mpr ⟨rfl, hi⟩, Numeral.denotes_decimal_iff.mpr ⟨rfl, hd⟩,
      Numeral.denotes_decimal_iff.mpr ⟨rfl, hm⟩⟩
  next hlarge =>
    rw [Option.eq_none_iff_forall_ne_some]
    intro summary hsome
    obtain ⟨hn, hi, hd, hm⟩ := counts?_eq_some_iff.mp hsome
    exact hlarge ⟨(Numeral.denotes_decimal_iff.mp hn).2, (Numeral.denotes_decimal_iff.mp hi).2,
      (Numeral.denotes_decimal_iff.mp hd).2, (Numeral.denotes_decimal_iff.mp hm).2⟩

end Sentence

/-! ### Texts -/

/-- The counts in a text are those that the first sentence denotes. -/
theorem parse?_eq_some_iff_isFirst {text : String} {summary : Summary} :
    parse? text = some summary ↔
      ∃ sentence : Sentence, (∃ place, sentence.IsFirst text.toList place) ∧
        sentence.Denotes summary := by
  simp only [parse?, Option.bind_eq_some_iff, Sentence.leftmost_atFront?_eq_some_iff,
    Sentence.counts?_eq_some_iff]

/-- **The summary of a change is read by its grammar, and its numbers as they are written.** A text
has counts exactly when a sentence stands in it and the numerals of the first one denote numbers
that a counter holds, and these are the counts; when they do not, no later sentence is tried. The
sentence that is printed for counts, with any text after it, gives back these counts, or nothing
when one of them is too large. -/
theorem parse?_grammar :
    (∀ text summary, parse? text = some summary ↔
      ∃ sentence : Sentence, (∃ place, sentence.IsFirst text.toList place) ∧
        sentence.Denotes summary) ∧
    (∀ text (sentence : Sentence) place, sentence.IsFirst text.toList place →
      (∀ summary, ¬sentence.Denotes summary) → parse? text = none) ∧
    ∀ n i d m unchanged plural back, Numeral.IsRun unchanged →
      parse? (String.ofList ((Sentence.ofCounts n i d m unchanged).written plural ++ back)) =
        if n < 2 ^ 64 ∧ i < 2 ^ 64 ∧ d < 2 ^ 64 ∧ m < 2 ^ 64 then some ⟨i, d, m, n⟩ else none := by
  refine ⟨fun text summary => parse?_eq_some_iff_isFirst, ?_, ?_⟩
  · intro text sentence place hfirst hnone
    rw [Option.eq_none_iff_forall_ne_some]
    intro summary hsome
    obtain ⟨sentence', ⟨place', hfirst'⟩, hdenotes⟩ := parse?_eq_some_iff_isFirst.mp hsome
    obtain ⟨rfl, -⟩ := hfirst.unique hfirst'
    exact hnone summary hdenotes
  · intro n i d m unchanged plural back hrun
    rw [parse?, String.toList_ofList,
      leftmost_of_front (Sentence.atFront?_written (Sentence.hasRuns_ofCounts hrun) plural back),
      Option.bind_some, Sentence.counts?_ofCounts]

/-- A sentence whose first numeral is not written in ASCII digits. -/
def foreignSentence : Sentence := ⟨['٣'], ['1'], ['0'], ['2'], ['0']⟩

theorem parse?_grammar_of_foreign :
    (foreignSentence.IsFirst
        (foreignSentence.written true ++ (Sentence.ofCounts 3 1 0 2 ['0']).written true) 0 ∧
      (∀ summary, ¬foreignSentence.Denotes summary) ∧
      parse? (String.ofList
        (foreignSentence.written true ++ (Sentence.ofCounts 3 1 0 2 ['0']).written true)) = none) ∧
    Numeral.IsRun ['٣'] ∧
      parse? "3 lines changed: 1 ins; 0 del; 2 mod; ٣ unchg, and more" = some ⟨1, 0, 2, 3⟩ := by
  obtain ⟨-, hnone, hprinted⟩ := parse?_grammar
  have hrun : Numeral.IsRun ['٣'] := ⟨by decide, List.forall_mem_singleton.mpr (by decide)⟩
  have hfirst : foreignSentence.IsFirst
      (foreignSentence.written true ++ (Sentence.ofCounts 3 1 0 2 ['0']).written true) 0 := by
    have hruns : foreignSentence.HasRuns := by
      constructor <;> exact ⟨by decide, List.forall_mem_singleton.mpr (by decide)⟩
    exact ⟨⟨hruns, true, List.prefix_append _ _⟩, fun _ _ _ => Nat.zero_le _⟩
  have hforeign : ∀ summary, ¬foreignSentence.Denotes summary := fun summary hdenotes =>
    absurd (hdenotes.linesChanged.isDigit '٣' (by decide)) (by decide)
  refine ⟨⟨hfirst, hforeign, ?_⟩, hrun, ?_⟩
  · exact hnone _ foreignSentence 0 (by rwa [String.toList_ofList]) hforeign
  · have hread := hprinted 3 1 0 2 ['٣'] true ", and more".toList hrun
    rw [if_pos (by decide)] at hread
    exact hread

end Webrev.Summary
