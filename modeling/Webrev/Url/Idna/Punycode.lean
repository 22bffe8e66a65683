import Webrev.Text.Numeral

/-!
# Punycode

The ASCII form of a label: its ASCII characters, a hyphen, and then, character by character in the
order of the code points, how far it is to the next place where one is put in. The distances are
written with digits of changing weights.

## Main definitions

* `Punycode.encode` : the ASCII form of a label.
* `Punycode.decode?` : the label of an ASCII form.

## Main results

* `Punycode.threshold_pos`, `Punycode.threshold_le` : the last digit of a distance is bounded.
-/

namespace Webrev.Punycode

/-- The number of digits. -/
def base : Nat := 36

/-- The distances that either side of an exchange can hold. -/
def bound : Nat := 0x100000000

/-- The code point before which all characters are ASCII. -/
def firstCode : Nat := 0x80

/-- The bias at the beginning. -/
def firstBias : Nat := 72

/-- The least digit in place `k` that is not the last one of its distance. -/
def threshold (bias k : Nat) : Nat := min 26 (max 1 (k - bias))

theorem threshold_pos (bias k : Nat) : 0 < threshold bias k := by
  unfold threshold; omega

theorem threshold_le (bias k : Nat) : threshold bias k ≤ 26 := by
  unfold threshold; omega

/-- How often a distance is divided until it is small, and what remains of it. -/
def damp (k delta : Nat) : Nat × Nat :=
  if 455 < delta then damp (k + base) (delta / 35) else (k, delta)
termination_by delta
decreasing_by omega

/-- The bias for the next distance. -/
def adapt (delta points : Nat) (isFirst : Bool) : Nat :=
  let delta := if isFirst then delta / 700 else delta / 2
  let (k, delta) := damp 0 (delta + delta / points)
  k + 36 * delta / (delta + 38)

/-- A digit as a character. -/
def digit (d : Nat) : Char :=
  if d < 26 then Char.ofNat ('a'.toNat + d) else Char.ofNat ('0'.toNat + (d - 26))

/-- A character as a digit. -/
def digit? (c : Char) : Option Nat :=
  if 'a' ≤ c ∧ c ≤ 'z' then some (c.toNat - 'a'.toNat)
  else if 'A' ≤ c ∧ c ≤ 'Z' then some (c.toNat - 'A'.toNat)
  else if '0' ≤ c ∧ c ≤ '9' then some (c.toNat - '0'.toNat + 26)
  else none

/-! ### Encoding -/

/-- A distance in digits, from place `k` on. -/
def distance (bias k q : Nat) : List Char :=
  let t := threshold bias k
  if q < t then [digit q]
  else digit (t + (q - t) % (base - t)) :: distance bias (k + base) ((q - t) / (base - t))
termination_by q
decreasing_by
  have h1 := threshold_pos bias k
  have h2 := threshold_le bias k
  have h3 : (q - threshold bias k) / (base - threshold bias k) ≤ q - threshold bias k :=
    Nat.div_le_self _ _
  omega

/-- The state of an encoder: the distance so far, the bias, and the number of characters written. -/
structure Encoder where
  delta : Nat
  bias : Nat
  handled : Nat

/-- The digits for the places of one code point in a label. -/
def encodeCode (basic code : Nat) (encoder : Encoder) : List Char → List Char × Encoder
  | [] => ([], encoder)
  | c :: rest =>
    if c.toNat < code then
      encodeCode basic code { encoder with delta := encoder.delta + 1 } rest
    else if c.toNat = code then
      let bias := adapt encoder.delta (encoder.handled + 1) (encoder.handled == basic)
      let (digits, last) := encodeCode basic code ⟨0, bias, encoder.handled + 1⟩ rest
      (distance encoder.bias base encoder.delta ++ digits, last)
    else encodeCode basic code encoder rest

/-- The digits for the places of code points given in order, `code` being the one reached. -/
def encodeCodes (label : List Char) (basic code : Nat) (encoder : Encoder) :
    List Nat → List Char
  | [] => []
  | next :: codes =>
    let delta := encoder.delta + (next - code) * (encoder.handled + 1)
    let (digits, last) := encodeCode basic next { encoder with delta := delta } label
    digits ++ encodeCodes label basic (next + 1) { last with delta := last.delta + 1 } codes

/-- The code points of a label beyond ASCII, each once, in order. -/
def codes (label : List Char) : List Nat :=
  ((label.map Char.toNat).filter (firstCode ≤ ·)).mergeSort.eraseReps

/-- The ASCII form of a label. -/
def encode (label : List Char) : List Char :=
  let basic := label.filter (·.toNat < firstCode)
  (if basic.isEmpty then [] else basic ++ ['-']) ++
    encodeCodes label basic.length firstCode ⟨0, firstBias, basic.length⟩ (codes label)

/-! ### Decoding -/

/-- The state of a decoder: the label so far, the code point and the place reached, the bias, and the
distance in hand with its place before it, its weight and its digit place. -/
structure Decoder where
  label : List Char
  code : Nat
  place : Nat
  bias : Nat
  start : Nat
  weight : Nat
  k : Nat

/-- The beginning of a distance. -/
def Decoder.atStart (decoder : Decoder) : Bool := decoder.k == base && decoder.weight == 1

/-- Takes the last digit of a distance: a character is put in. -/
def Decoder.insert? (decoder : Decoder) (place : Nat) : Option Decoder :=
  let points := decoder.label.length + 1
  let code := decoder.code + place / points
  let place' := place % points
  if code < bound ∧ code.isValidChar then
    some
      { label := decoder.label.take place' ++ Char.ofNat code :: decoder.label.drop place'
        code
        place := place' + 1
        bias := adapt (place - decoder.start) points (decoder.start == 0)
        start := place' + 1
        weight := 1
        k := base }
  else none

/-- Takes a digit. -/
def Decoder.step? (decoder : Decoder) (c : Char) : Option Decoder :=
  match digit? c with
  | none => none
  | some d =>
    let place := decoder.place + d * decoder.weight
    if bound ≤ place then none
    else
      let t := threshold decoder.bias decoder.k
      if d < t then decoder.insert? place
      else
        let weight := decoder.weight * (base - t)
        if bound ≤ weight then none
        else some { decoder with place := place, weight := weight, k := decoder.k + base }

/-- The ASCII part of a form and its digits: what stands before and after the last hyphen. A hyphen
in front belongs to the digits. -/
def splitForm (form : List Char) : List Char × List Char :=
  let digits := (form.reverse.takeWhile (· ≠ '-')).reverse
  let front := form.take (form.length - digits.length - 1)
  if front.isEmpty then ([], form) else (front, digits)

/-- The label of an ASCII form. -/
def decode? (form : List Char) : Option (List Char) :=
  let (basic, digits) := splitForm form
  let decoder : Decoder := ⟨basic, firstCode, 0, firstBias, 0, 1, base⟩
  match digits.foldlM Decoder.step? decoder with
  | some last => if last.atStart then some last.label else none
  | none => none

end Webrev.Punycode
