import Mathlib.Data.List.DropRight
import Webrev.Proofs.Text.Scan
import Webrev.Text.Blank
import Webrev.Text.Lines

/-!
# Blanks at the ends of what is printed

A list of names is printed with a line feed after each of them. Cut into lines, the text gives the
names back. When the blanks at its two ends are dropped before it is cut, the last line feed goes,
and with it the blanks that the last name ends in and those that the first one begins with.

## Main definitions

* `Text.StartsBare`, `Text.EndsBare` : a text has no blank at its front, or at its end.
* `Text.printed` : a line feed after each name.

## Main results

* `Text.trim_eq_self_iff` : the texts that are their own trimmed forms.
* `Text.trim_append_blanks` : blanks at the end of a text do not count.
* `Text.printed_inj` : names are printed in one way.
* `Text.lines_printed` : the lines of what is printed are the names.
* `Text.filter_lines_trim_printed_iff` : when they still are after the blanks are dropped.
-/

namespace Webrev.Text

/-! ### Blanks at the ends -/

/-- A text begins with no blank. -/
def StartsBare (text : List Char) : Prop := ∀ c ∈ text.head?, isBlank c = false

/-- A text ends in no blank. -/
def EndsBare (text : List Char) : Prop := ∀ c ∈ text.getLast?, isBlank c = false

instance : DecidablePred StartsBare := fun text =>
  decidable_of_iff (text.head?.all fun c => !isBlank c) (by simp [StartsBare, Option.all_eq_true])

instance : DecidablePred EndsBare := fun text =>
  decidable_of_iff (text.getLast?.all fun c => !isBlank c) (by simp [EndsBare, Option.all_eq_true])

theorem not_startsBare_iff {text : List Char} :
    ¬StartsBare text ↔ ∃ c rest, text = c :: rest ∧ isBlank c = true := by
  cases text <;> simp [StartsBare]

theorem not_endsBare_iff {text : List Char} :
    ¬EndsBare text ↔ ∃ front c, text = front ++ [c] ∧ isBlank c = true := by
  constructor
  · intro h
    obtain ⟨c, hc, hblank⟩ : ∃ c, text.getLast? = some c ∧ isBlank c = true := by
      simpa [EndsBare] using h
    exact ⟨text.dropLast, c, (List.dropLast_append_getLast? c hc).symm, hblank⟩
  · rintro ⟨front, c, rfl, hblank⟩ h
    rw [h c (by simp)] at hblank
    cases hblank

theorem trim_cons_blank {c : Char} (h : isBlank c = true) (text : List Char) :
    trim (c :: text) = trim text := by
  rw [trim, trimStart, List.dropWhile_cons_of_pos h]
  rfl

/-- Blanks at the end of a text do not count. -/
theorem trim_append_blanks (text : List Char) {blanks : List Char}
    (h : ∀ c ∈ blanks, isBlank c = true) : trim (text ++ blanks) = trim text := by
  unfold trim trimStart
  rw [List.dropWhile_append]
  split
  · next hempty =>
    rw [List.isEmpty_iff.mp hempty, List.dropWhile_eq_nil_iff.mpr h]
  · exact trimEnd_append_blanks _ h

theorem trim_append_lineFeed (text : List Char) : trim (text ++ ['\n']) = trim text :=
  trim_append_blanks text (List.forall_mem_singleton.mpr (by decide))

theorem trim_sublist (text : List Char) : (trim text).Sublist text :=
  (List.rdropWhile_prefix isBlank _).sublist.trans (List.dropWhile_sublist isBlank)

/-- The texts that are their own trimmed forms. -/
theorem trim_eq_self_iff {text : List Char} :
    trim text = text ↔ StartsBare text ∧ EndsBare text := by
  constructor
  · intro h
    have hlength {shorter : List Char} (hshorter : trim text = trim shorter) :
        text.length ≤ shorter.length :=
      (congrArg List.length (h.symm.trans hshorter)).trans_le (trim_sublist shorter).length_le
    constructor
    · by_contra hblank
      obtain ⟨c, rest, rfl, hc⟩ := not_startsBare_iff.mp hblank
      have hle := hlength (trim_cons_blank hc rest)
      rw [List.length_cons] at hle
      omega
    · by_contra hblank
      obtain ⟨front, c, rfl, hc⟩ := not_endsBare_iff.mp hblank
      have hle := hlength (trim_append_blanks front (List.forall_mem_singleton.mpr hc))
      rw [List.length_append, List.length_singleton] at hle
      omega
  · rintro ⟨hstart, hend⟩
    exact trim_eq_self hstart hend

/-! ### Names that are printed -/

/-- A line feed after each name. -/
def printed (names : List (List Char)) : List Char := names.flatMap (· ++ ['\n'])

theorem printed_cons (name : List Char) (names : List (List Char)) :
    printed (name :: names) = name ++ '\n' :: printed names := by
  simp [printed]

/-- Names without line feeds are printed in one way. -/
theorem printed_inj {names names' : List (List Char)} (hfeed : ∀ name ∈ names, '\n' ∉ name)
    (hfeed' : ∀ name ∈ names', '\n' ∉ name) (h : printed names = printed names') :
    names = names' := by
  induction names generalizing names' with
  | nil =>
    cases names' with
    | nil => rfl
    | cons name' names' => exact absurd h (by simp [printed])
  | cons name names ih =>
    cases names' with
    | nil => exact absurd h (by simp [printed])
    | cons name' names' =>
      obtain ⟨hname, hnames⟩ := List.forall_mem_cons.mp hfeed
      obtain ⟨hname', hnames'⟩ := List.forall_mem_cons.mp hfeed'
      have hnone {name : List Char} (h : '\n' ∉ name) : ∀ c ∈ name, ¬c = '\n' :=
        fun c hc heq => h (heq ▸ hc)
      rw [printed_cons, printed_cons] at h
      obtain ⟨rfl, -, hrest⟩ :=
        Scan.append_cons_inj_of_first h (hnone hname) rfl (hnone hname') rfl
      exact congrArg (name :: ·) (ih hnames hnames' hrest)

theorem printed_concat (names : List (List Char)) (name : List Char) :
    printed (names ++ [name]) = printed names ++ (name ++ ['\n']) := by
  simp [printed]

/-- The lines of a text hold no more than its characters other than line feeds. -/
theorem length_flatten_linesFrom_le (pending text : List Char) :
    (linesFrom pending text).flatten.length ≤ pending.length + text.countP (· ≠ '\n') := by
  have hreturn (line : List Char) : (dropReturn line).length ≤ line.length := by
    unfold dropReturn
    split
    · exact (List.dropLast_sublist line).length_le
    · exact Nat.le_refl _
  induction text generalizing pending with
  | nil => cases pending <;> simp [linesFrom]
  | cons c text ih =>
    rw [linesFrom]
    split_ifs with hc
    · have hline := hreturn pending.reverse
      have hrest := ih []
      rw [List.length_reverse] at hline
      rw [List.length_nil, Nat.zero_add] at hrest
      rw [List.flatten_cons, List.length_append, List.countP_cons_of_neg (by simp [hc])]
      exact Nat.add_le_add hline hrest
    · have hrest := ih (c :: pending)
      rw [List.length_cons] at hrest
      rw [List.countP_cons_of_pos (by simp [hc])]
      omega

theorem length_flatten_lines_le (text : List Char) :
    (lines text).flatten.length ≤ text.countP (· ≠ '\n') := by
  simpa [lines] using length_flatten_linesFrom_le [] text

theorem linesFrom_of_notMem {text : List Char} (h : '\n' ∉ text) (pending : List Char) :
    linesFrom pending text = linesFrom (text.reverse ++ pending) [] := by
  induction text generalizing pending with
  | nil => rfl
  | cons c text ih =>
    have hc : c ≠ '\n' := fun heq => h (heq ▸ List.mem_cons_self)
    rw [linesFrom.eq_2, if_neg hc, ih fun hmem => h (List.mem_cons_of_mem c hmem),
      List.reverse_cons, List.append_assoc, List.singleton_append]

/-- A text without a line feed is a line. -/
theorem lines_of_notMem {text : List Char} (h : '\n' ∉ text) (hne : text ≠ []) :
    lines text = [text] := by
  rw [lines, linesFrom_of_notMem h]
  simp [linesFrom, hne]

section Names

variable {names : List (List Char)}

/-- The lines of what is printed are the names, and those of what is printed after them. A carriage
return counts only at the end of a name. -/
theorem lines_printed_append (hfeed : ∀ name ∈ names, '\n' ∉ name)
    (hreturn : ∀ name ∈ names, name.getLast? ≠ some '\r') (rest : List Char) :
    lines (printed names ++ rest) = names ++ lines rest := by
  induction names with
  | nil => rfl
  | cons name names ih =>
    obtain ⟨hname, hfeed⟩ := List.forall_mem_cons.mp hfeed
    obtain ⟨hend, hreturn⟩ := List.forall_mem_cons.mp hreturn
    have hkept : dropReturn name = name := if_neg hend
    rw [printed_cons, List.append_assoc, List.cons_append, lines_append_lineFeed _ hname,
      ih hfeed hreturn, hkept, List.cons_append]

/-- Names that are printed are read back line by line. -/
theorem lines_printed (hfeed : ∀ name ∈ names, '\n' ∉ name)
    (hreturn : ∀ name ∈ names, name.getLast? ≠ some '\r') : lines (printed names) = names := by
  simpa [lines, linesFrom] using lines_printed_append hfeed hreturn []

theorem countP_printed (hfeed : ∀ name ∈ names, '\n' ∉ name) :
    (printed names).countP (· ≠ '\n') = names.flatten.length := by
  have hall {name : List Char} (h : '\n' ∉ name) : name.countP (· ≠ '\n') = name.length :=
    List.countP_eq_length.mpr fun c hc => decide_eq_true fun heq => h (heq ▸ hc)
  induction names with
  | nil => rfl
  | cons name names ih =>
    obtain ⟨hname, hfeed⟩ := List.forall_mem_cons.mp hfeed
    rw [printed_cons, List.countP_append, hall hname, List.countP_cons_of_neg (by simp), ih hfeed,
      List.flatten_cons, List.length_append]

/-- What is printed, without the line feed at its end, begins and ends as the first and the last
name do. -/
theorem trim_printed_concat {front : List (List Char)} {last : List Char}
    (hne : ∀ name ∈ front ++ [last], name ≠ [])
    (hstart : ∀ name ∈ (front ++ [last]).head?, StartsBare name) (hend : EndsBare last) :
    trim (printed (front ++ [last])) = printed front ++ last := by
  have hlast : last ≠ [] := hne last (by simp)
  have hstarts : StartsBare (printed front ++ last) := by
    cases front with
    | nil => exact hstart last rfl
    | cons first more =>
      obtain ⟨c, rest, rfl⟩ := List.exists_cons_of_ne_nil (hne first List.mem_cons_self)
      rw [printed_cons]
      exact hstart (c :: rest) rfl
  have hends : EndsBare (printed front ++ last) := by
    rw [EndsBare, List.getLast?_append_of_ne_nil _ hlast]
    exact hend
  rw [printed_concat, ← List.append_assoc, trim_append_lineFeed]
  exact trim_eq_self_iff.mpr ⟨hstarts, hends⟩

/-- Whatever is dropped at the ends, names that are read back have no more characters than what is
left. -/
theorem countP_printed_le (hfeed : ∀ name ∈ names, '\n' ∉ name)
    (hread : (lines (trim (printed names))).filter (· ≠ []) = names) {rest : List Char}
    (hrest : trim (printed names) = trim rest) :
    (printed names).countP (· ≠ '\n') ≤ rest.countP (· ≠ '\n') :=
  calc (printed names).countP (· ≠ '\n')
    _ = ((lines (trim (printed names))).filter (· ≠ [])).flatten.length := by
      rw [hread, countP_printed hfeed]
    _ = (lines (trim rest)).flatten.length := by rw [List.flatten_filter_ne_nil, hrest]
    _ ≤ (trim rest).countP (· ≠ '\n') := length_flatten_lines_le _
    _ ≤ rest.countP (· ≠ '\n') := (trim_sublist rest).countP_le

/-- If the names are read back, the first one begins with no blank. -/
theorem startsBare_of_read (hfeed : ∀ name ∈ names, '\n' ∉ name)
    (hread : (lines (trim (printed names))).filter (· ≠ []) = names) :
    ∀ name ∈ names.head?, StartsBare name := by
  intro name hname
  by_contra hblank
  obtain ⟨c, rest, rfl, hc⟩ := not_startsBare_iff.mp hblank
  obtain ⟨more, rfl⟩ := List.head?_eq_some_iff.mp hname
  have hcut : printed ((c :: rest) :: more) = c :: (rest ++ '\n' :: printed more) :=
    printed_cons (c :: rest) more
  have hle := countP_printed_le hfeed hread (hcut ▸ trim_cons_blank hc _)
  have hkept : c ≠ '\n' := fun heq =>
    hfeed _ List.mem_cons_self (heq ▸ List.mem_cons_self)
  rw [hcut, List.countP_cons_of_pos (by simp [hkept])] at hle
  omega

/-- If the names are read back, the last one ends in no blank. -/
theorem endsBare_of_read (hfeed : ∀ name ∈ names, '\n' ∉ name)
    (hread : (lines (trim (printed names))).filter (· ≠ []) = names) :
    ∀ name ∈ names.getLast?, EndsBare name := by
  intro name hname
  by_contra hblank
  obtain ⟨rest, c, rfl, hc⟩ := not_endsBare_iff.mp hblank
  obtain ⟨front, rfl⟩ := List.getLast?_eq_some_iff.mp hname
  have hcut : printed (front ++ [rest ++ [c]]) = printed front ++ rest ++ [c, '\n'] := by
    simp [printed_concat]
  have hblanks : ∀ d ∈ [c, '\n'], isBlank d = true :=
    List.forall_mem_cons.mpr ⟨hc, List.forall_mem_singleton.mpr (by decide)⟩
  have hle := countP_printed_le hfeed hread (hcut ▸ trim_append_blanks _ hblanks)
  have hkept : c ≠ '\n' := fun heq =>
    hfeed _ (List.mem_append_right _ List.mem_cons_self)
      (heq ▸ List.mem_append_right _ List.mem_cons_self)
  rw [hcut, List.countP_append, List.countP_cons_of_pos (by simp [hkept])] at hle
  omega

/-- When the blanks at the two ends of what is printed are dropped, its lines are still the names
exactly if the first name begins with no blank and the last one ends in none. -/
theorem filter_lines_trim_printed_iff (hne : ∀ name ∈ names, name ≠ [])
    (hfeed : ∀ name ∈ names, '\n' ∉ name) (hreturn : ∀ name ∈ names, '\r' ∉ name) :
    (lines (trim (printed names))).filter (· ≠ []) = names ↔
      (∀ name ∈ names.head?, StartsBare name) ∧ ∀ name ∈ names.getLast?, EndsBare name := by
  constructor
  · intro hread
    exact ⟨startsBare_of_read hfeed hread, endsBare_of_read hfeed hread⟩
  · rintro ⟨hstart, hend⟩
    rcases List.eq_nil_or_concat' names with rfl | ⟨front, last, rfl⟩
    · rfl
    · obtain ⟨hfeeds, hfeed⟩ := List.forall_mem_append.mp hfeed
      have hlines : lines last = [last] :=
        lines_of_notMem (hfeed last List.mem_cons_self) (hne last (by simp))
      have hreturns : ∀ name ∈ front, name.getLast? ≠ some '\r' := fun name hname h =>
        hreturn name (List.mem_append_left _ hname) (List.mem_of_getLast? h)
      rw [trim_printed_concat hne hstart (hend last (by simp)),
        lines_printed_append hfeeds hreturns, hlines]
      exact List.filter_eq_self.mpr fun name hname => decide_eq_true (hne name hname)

end Names

end Webrev.Text
