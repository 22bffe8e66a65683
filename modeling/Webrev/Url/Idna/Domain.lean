import Webrev.Text.Utf8
import Webrev.Text.Composed
import Webrev.Text.Scan
import Webrev.Url.Idna.Mapping
import Webrev.Url.Idna.Classes
import Webrev.Url.Idna.Punycode

/-!
# Host names in ASCII

A host name may be written in any script. Its ASCII form is found in steps: characters are mapped,
the text is composed, each label between full stops is checked, and a label that is not ASCII is
written in Punycode after `xn--`. A label that begins with `xn--` is read first, so that it is
checked like any other.

## Main definitions

* `Idna.isForbidden` : the ASCII characters that no host name has.
* `Idna.readLabel?` : a label as it is to be checked.
* `Idna.labelAllowed` : the rules for a label on its own.
* `Idna.directionAllowed` : the rules for labels in a name with right-to-left text.
* `Idna.toAscii?` : the ASCII form of a host name.

## Main results

* `Idna.mapText_of_ascii` : mapping makes ASCII letters small and leaves the rest of ASCII alone.
-/

namespace Webrev.Idna

/-- The ASCII characters that no host name has. -/
def isForbidden (c : Char) : Bool :=
  c.toNat ≤ 0x20 || c.toNat == 0x7F ||
    ['%', '#', '/', ':', '<', '>', '?', '@', '[', '\\', ']', '^', '|'].contains c

/-- An ASCII text. -/
def isAscii (text : List Char) : Bool := text.all (·.toNat < 0x80)

/-- A text with its characters mapped. -/
def mapText? : List Char → Option (List Char)
  | [] => some []
  | c :: rest =>
    match status c with
    | .valid => (mapText? rest).map (c :: ·)
    | .mapped image => (mapText? rest).map (image ++ ·)
    | .disallowed => none

/-- Mapping makes ASCII letters small and leaves the rest of ASCII alone. -/
theorem mapText_of_ascii {text : List Char} (h : ∀ c ∈ text, c.toNat < 0x80) :
    mapText? text = some (text.map Char.toLower) := by
  induction text with
  | nil => rfl
  | cons c text ih =>
    have hc := h c List.mem_cons_self
    have ht := ih fun d hd => h d (List.mem_cons_of_mem _ hd)
    by_cases hu : c.isUpper
    · simp [mapText?, status, hc, hu, ht]
    · have hl : c.toLower = c := by
        unfold Char.toLower
        rw [dif_neg]
        intro hx
        exact hu (decide_eq_true hx)
      simp [mapText?, status, hc, hu, ht, hl]

/-! ### Labels -/

/-- What a label in Punycode begins with. -/
def acePrefix : List Char := "xn--".toList

/-- The longest label that is written in Punycode, and the longest one that is read. -/
def longestLabel : Nat := 1000

/-- A label as it is to be checked: one in Punycode is read, and has to hold more than ASCII and to
be mapped and composed already. -/
def readLabel? (label : List Char) : Option (List Char) :=
  match Scan.expect acePrefix label with
  | none => some label
  | some form =>
    if !isAscii form || 2 * longestLabel < form.length then none
    else
      match Punycode.decode? form with
      | none => none
      | some decoded =>
        if !isAscii decoded && decoded.all (status · == .valid) &&
            Composed.normalize decoded == decoded then some decoded
        else none

/-- A label as it is written. -/
def writeLabel? (label : List Char) : Option (List Char) :=
  if isAscii label then some label
  else if longestLabel < label.length then none
  else some (acePrefix ++ Punycode.encode label)

/-- A character forms a ligature with the one after it. -/
def isVirama (c : Char) : Bool := Composed.combiningClass c == 9

/-- A zero-width joiner or non-joiner follows characters, last one first, and precedes others in a
way that it has an effect on. -/
def joinerAllowed (before : List Char) (c : Char) (after : List Char) : Bool :=
  let skip := List.dropWhile fun d => joining d == .transparent
  let afterVirama := (before.head?.map isVirama).getD false
  if c = '\u200d' then afterVirama
  else if c = '\u200c' then
    afterVirama ||
      ((((skip before).head?.map joining).map fun j => j == .left || j == .dual).getD false &&
        (((skip after).head?.map joining).map fun j => j == .right || j == .dual).getD false)
  else true

/-- The joiners of a label have an effect; `before` is its front, last character first. -/
def joinersAllowed (before : List Char) : List Char → Bool
  | [] => true
  | c :: rest => joinerAllowed before c rest && joinersAllowed (c :: before) rest

/-- The rules for a label on its own: it does not begin with a mark, and its joiners have an
effect. -/
def labelAllowed (label : List Char) : Bool :=
  !((label.head?.map isMark).getD false) && joinersAllowed [] label

/-! ### Right-to-left text -/

/-- A label holds right-to-left text. -/
def isRightToLeft (label : List Char) : Bool :=
  label.any fun c =>
    0x590 ≤ c.toNat && [.rightToLeft, .arabicLetter, .arabicNumber].contains (direction c)

/-- The classes that a label may have whatever its direction. -/
def neutralDirections : List Direction :=
  [.europeanNumber, .europeanSeparator, .commonSeparator, .europeanTerminator, .otherNeutral,
    .boundaryNeutral, .nonspacingMark]

/-- A label runs in one direction: it begins with a letter of it, holds nothing of the other, and
ends in a letter or number of it, marks apart. -/
def directionAllowed (label : List Char) : Bool :=
  let directions := label.map direction
  let last := (directions.reverse.dropWhile (· == .nonspacingMark)).head?
  match directions.head? with
  | none => true
  | some .leftToRight =>
    directions.all (fun d => d == .leftToRight || neutralDirections.contains d) &&
      [some .leftToRight, some .europeanNumber].contains last
  | some d =>
    (d == .rightToLeft || d == .arabicLetter) &&
      directions.all (fun d =>
        [.rightToLeft, .arabicLetter, .arabicNumber].contains d || neutralDirections.contains d) &&
      [some .rightToLeft, some .arabicLetter, some .europeanNumber, some .arabicNumber].contains
        last &&
      !(directions.contains .europeanNumber && directions.contains .arabicNumber)

/-! ### Host names -/

/-- The labels of a host name, checked. -/
def labels? (name : List Char) : Option (List (List Char)) := do
  let mapped ← mapText? name
  let labels ← ((Composed.normalize mapped).splitOn '.').mapM readLabel?
  if labels.all labelAllowed && (!labels.any isRightToLeft || labels.all directionAllowed) then
    some labels
  else none

/-- The ASCII form of a host name. -/
def toAscii? (name : List Char) : Option (List Char) := do
  let written ← (← labels? name).mapM writeLabel?
  let ascii := List.intercalate ['.'] written
  if ascii.any isForbidden then none else some ascii

end Webrev.Idna
