import Webrev.Text.Numeral

/-!
# IPv6 addresses in URLs

An address is eight pieces of 16 bits, written in hexadecimal between colons. One `::` may stand for
pieces that are zero, and the last two pieces may be written as an IPv4 address.

## Main definitions

* `Ipv6.parse?` : the pieces of an address.
* `Ipv6.text` : an address with its first longest stretch of two or more zero pieces left out.

## Main results

* `Ipv6.length_of_parse?` : an address has eight pieces.
-/

namespace Webrev.Ipv6

/-- A piece: one to four hexadecimal digits. -/
def piece? (digits : List Char) : Option Nat :=
  if digits.isEmpty || 4 < digits.length || !digits.all (Numeral.isDigit 16) then none
  else some (Numeral.value 16 digits)

/-- An octet of an IPv4 address: a decimal number without leading zeros. -/
def octet? (digits : List Char) : Option Nat :=
  if digits.isEmpty || !digits.all (Numeral.isDigit 10) then none
  else if 1 < digits.length && digits.head? = some '0' then none
  else if Numeral.value 10 digits < 256 then some (Numeral.value 10 digits)
  else none

/-- The two pieces of an IPv4 address. -/
def dotted? (text : List Char) : Option (List Nat) :=
  match (text.splitOn '.').mapM octet? with
  | some [a, b, c, d] => some [a * 256 + b, c * 256 + d]
  | _ => none

/-- The pieces of the last part of an address. -/
def lastPieces? (text : List Char) : Option (List Nat) :=
  if text.contains '.' then dotted? text else (piece? text).map ([·])

/-- The pieces of parts, the last of which may be an IPv4 address. -/
def pieces? : List (List Char) → Option (List Nat)
  | [] => some []
  | [last] => lastPieces? last
  | part :: parts => do
    let piece ← piece? part
    let pieces ← pieces? parts
    return piece :: pieces

/-- What stands before and after the first `::`. -/
def splitGap : List Char → Option (List Char × List Char)
  | ':' :: ':' :: rest => some ([], rest)
  | c :: rest => (splitGap rest).map fun (before, after) => (c :: before, after)
  | [] => none

/-- The parts between colons; an empty text has none. -/
def parts (text : List Char) : List (List Char) :=
  if text.isEmpty then [] else text.splitOn ':'

/-- The pieces of an address. -/
def parse? (text : List Char) : Option (List Nat) :=
  match splitGap text with
  | none => do
    let pieces ← pieces? (parts text)
    if pieces.length = 8 then some pieces else none
  | some (before, after) => do
    let front ← (parts before).mapM piece?
    let back ← pieces? (parts after)
    if front.length + back.length < 8 then
      some (front ++ List.replicate (8 - (front.length + back.length)) 0 ++ back)
    else none

/-- An address has eight pieces. -/
theorem length_of_parse? {text : List Char} {pieces : List Nat} (h : parse? text = some pieces) :
    pieces.length = 8 := by
  unfold parse? at h
  split at h
  · obtain ⟨p, -, h⟩ := Option.bind_eq_some_iff.mp h
    split at h
    · obtain rfl := Option.some.inj h
      assumption
    · cases h
  · obtain ⟨front, -, h⟩ := Option.bind_eq_some_iff.mp h
    obtain ⟨back, -, h⟩ := Option.bind_eq_some_iff.mp h
    split at h
    · obtain rfl := Option.some.inj h
      simp
      omega
    · cases h

/-! ### The written form -/

/-- The number of zero pieces at the front. -/
def zeroRun (pieces : List Nat) : Nat := (pieces.takeWhile (· = 0)).length

/-- Where the first longest stretch of zero pieces begins, and its length; `place` pieces stand
before the ones given. -/
def longestRun (place : Nat) : List Nat → Nat × Nat
  | [] => (place, 0)
  | piece :: rest =>
    let later := longestRun (place + 1) rest
    let here := zeroRun (piece :: rest)
    if later.2 ≤ here then (place, here) else later

/-- Pieces between colons. -/
def joined (pieces : List Nat) : List Char :=
  List.intercalate [':'] (pieces.map Numeral.hexadecimal)

/-- An address with its first longest stretch of two or more zero pieces left out. -/
def text (pieces : List Nat) : List Char :=
  let (place, length) := longestRun 0 pieces
  if length < 2 then joined pieces
  else joined (pieces.take place) ++ [':', ':'] ++ joined (pieces.drop (place + length))

end Webrev.Ipv6
