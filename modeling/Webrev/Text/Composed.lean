import Webrev.Text.Composed.Table

/-!
# Canonical composition

The composed normal form of a text (Normalization Form C): characters are taken apart, marks are put
in the order of their classes, and what composes is put together again.

## Main definitions

* `Composed.decompose` : a text taken apart.
* `Composed.arrange` : marks in the order of their classes.
* `Composed.compose` : a text put together.
* `Composed.normalize` : the composed normal form of a text.

## Main results

* `Composed.normalize_of_ascii` : an ASCII text is its own composed normal form.
-/

namespace Webrev.Composed

/-- The canonical combining class of a character. -/
def combiningClass (c : Char) : Nat :=
  if c.toNat < 0x300 then 0
  else
    match CodeTable.image? classRows c.toNat with
    | some [n] => n
    | _ => 0

/-! ### Hangul syllables -/

/-- A Hangul syllable as its jamo. -/
def jamo? (c : Char) : Option (List Char) :=
  if 0xAC00 ≤ c.toNat ∧ c.toNat ≤ 0xD7A3 then
    let index := c.toNat - 0xAC00
    let lead := Char.ofNat (0x1100 + index / 588)
    let vowel := Char.ofNat (0x1161 + index % 588 / 28)
    some (if index % 28 = 0 then [lead, vowel]
      else [lead, vowel, Char.ofNat (0x11A7 + index % 28)])
  else none

/-- The Hangul syllable of a syllable or jamo and a jamo. -/
def syllable? (a b : Char) : Option Char :=
  let a := a.toNat
  let b := b.toNat
  if 0x1100 ≤ a ∧ a ≤ 0x1112 ∧ 0x1161 ≤ b ∧ b ≤ 0x1175 then
    some (Char.ofNat (0xAC00 + ((a - 0x1100) * 21 + (b - 0x1161)) * 28))
  else if 0xAC00 ≤ a ∧ a ≤ 0xD7A3 ∧ (a - 0xAC00) % 28 = 0 ∧ 0x11A8 ≤ b ∧ b ≤ 0x11C2 then
    some (Char.ofNat (a + (b - 0x11A7)))
  else none

/-! ### Taking apart and putting together -/

/-- A character as the two that it is composed of. -/
def halves (c : Char) : List Char :=
  if c.toNat < 0xC0 then [c]
  else
    match CodeTable.image? pairRows c.toNat with
    | some image => image.map Char.ofNat
    | none => [c]

/-- A text taken apart. No character is composed in more than three steps. -/
def decompose (text : List Char) : List Char :=
  text.flatMap fun c =>
    match jamo? c with
    | some jamo => jamo
    | none => ((halves c).flatMap halves).flatMap halves

/-- A character put behind the marks in hand, last one first, in the order of the classes. -/
def insertMark (c : Char) : List Char → List Char
  | [] => [c]
  | mark :: marks =>
    if combiningClass c < combiningClass mark then mark :: insertMark c marks else c :: mark :: marks

/-- Marks in the order of their classes; `marks` are those in hand, last one first. -/
def arrangeFrom (marks : List Char) : List Char → List Char
  | [] => marks.reverse
  | c :: rest =>
    if combiningClass c = 0 then marks.reverse ++ c :: arrangeFrom [] rest
    else arrangeFrom (insertMark c marks) rest

/-- Marks in the order of their classes. -/
def arrange (text : List Char) : List Char := arrangeFrom [] text

/-- The character composed of two. -/
def pair? (a b : Char) : Option Char :=
  match syllable? a b with
  | some c => some c
  | none =>
    (pairRows.find? fun row => row.image = [a.toNat, b.toNat]).map fun row => Char.ofNat row.first

/-- A text put together after a starter and the marks that did not compose with it, last one
first. -/
def composeAfter (starter : Char) (marks : List Char) : List Char → List Char
  | [] => starter :: marks.reverse
  | c :: rest =>
    let blocked := match marks with
      | [] => false
      | mark :: _ => combiningClass c ≤ combiningClass mark
    match if blocked then none else pair? starter c with
    | some composed => composeAfter composed marks rest
    | none =>
      if combiningClass c = 0 then starter :: marks.reverse ++ composeAfter c [] rest
      else composeAfter starter (c :: marks) rest

/-- A text put together. Marks before the first starter stay as they are. -/
def compose : List Char → List Char
  | [] => []
  | c :: rest => if combiningClass c = 0 then composeAfter c [] rest else c :: compose rest

/-- The composed normal form of a text. -/
def normalize (text : List Char) : List Char :=
  if text.all (·.toNat < 0x80) then text else compose (arrange (decompose text))

/-- An ASCII text is its own composed normal form. -/
theorem normalize_of_ascii {text : List Char} (h : ∀ c ∈ text, c.toNat < 0x80) :
    normalize text = text :=
  if_pos (List.all_eq_true.mpr fun c hc => decide_eq_true (h c hc))

end Webrev.Composed
