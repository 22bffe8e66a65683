/-!
# Blank characters

The characters that separate words, and the removal of blanks from the ends of a text.

## Main definitions

* `Text.isBlank` : the Unicode property `White_Space`.
* `Text.trim` : a text without the blanks at its two ends.
* `Text.firstWord` : the first word of a text, if it has one.

## Main results

* `Text.trimEnd_append_blanks` : blanks at the end of a text do not change `trimEnd`.
* `Text.trim_eq_self` : a text whose ends are not blank is its own trimmed form.
-/

namespace Webrev.Text

/-- The characters with the Unicode property `White_Space`. -/
def isBlank (c : Char) : Bool :=
  let n := c.toNat
  (0x9 ≤ n && n ≤ 0xD) || n == 0x20 || n == 0x85 || n == 0xA0 || n == 0x1680 ||
    (0x2000 ≤ n && n ≤ 0x200A) || n == 0x2028 || n == 0x2029 || n == 0x202F || n == 0x205F ||
    n == 0x3000

/-- A text without the blanks at its front. -/
def trimStart (text : List Char) : List Char := text.dropWhile isBlank

/-- A text without the blanks at its end. -/
def trimEnd (text : List Char) : List Char := (text.reverse.dropWhile isBlank).reverse

/-- A text without the blanks at its two ends. -/
def trim (text : List Char) : List Char := trimEnd (trimStart text)

/-- A string without the blanks at its two ends. -/
def trimmed (s : String) : String := String.ofList (trim s.toList)

/-- The first word of a text: the non-blank characters after the blanks at its front. -/
def firstWord (text : List Char) : Option (List Char) :=
  match (trimStart text).takeWhile fun c => !isBlank c with
  | [] => none
  | word => some word

/-! ### Trimmed texts -/

theorem trimEnd_append_blanks (text : List Char) {blanks : List Char}
    (h : ∀ c ∈ blanks, isBlank c = true) : trimEnd (text ++ blanks) = trimEnd text := by
  have hd : ∀ l rest : List Char, (∀ c ∈ l, isBlank c = true) →
      (l ++ rest).dropWhile isBlank = rest.dropWhile isBlank := by
    intro l rest hl
    induction l with
    | nil => rfl
    | cons c l ih =>
      rw [List.cons_append, List.dropWhile_cons_of_pos (hl c List.mem_cons_self)]
      exact ih fun d hd => hl d (List.mem_cons_of_mem _ hd)
  unfold trimEnd
  rw [List.reverse_append, hd _ _ fun c hc => h c (List.mem_reverse.mp hc)]

theorem trimStart_eq_self {c : Char} {rest : List Char} (h : isBlank c = false) :
    trimStart (c :: rest) = c :: rest :=
  List.dropWhile_cons_of_neg (by simp [h])

theorem trimEnd_eq_self {front : List Char} {c : Char} (h : isBlank c = false) :
    trimEnd (front ++ [c]) = front ++ [c] := by
  unfold trimEnd
  rw [List.reverse_append, List.reverse_cons, List.reverse_nil, List.nil_append,
    List.singleton_append, List.dropWhile_cons_of_neg (by simp [h])]
  simp

/-- A text whose first and last characters are not blank is its own trimmed form. -/
theorem trim_eq_self {text : List Char} (hfirst : ∀ c, text.head? = some c → isBlank c = false)
    (hlast : ∀ c, text.getLast? = some c → isBlank c = false) : trim text = text := by
  unfold trim
  cases text with
  | nil => rfl
  | cons c rest =>
    rw [trimStart_eq_self (hfirst c rfl)]
    obtain ⟨front, last, h⟩ : ∃ front last, c :: rest = front ++ [last] :=
      ⟨_, _, (List.dropLast_concat_getLast (List.cons_ne_nil c rest)).symm⟩
    rw [h]
    exact trimEnd_eq_self (hlast last (by rw [h]; simp))

end Webrev.Text
