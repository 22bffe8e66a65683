/-!
# Numerals

Digits and numbers in the bases 8, 10 and 16, the decimal digits of all scripts, and the numbers
that a 64-bit counter can hold.

## Main definitions

* `Numeral.digit?` : the value of an ASCII digit in a base.
* `Numeral.value` : the number that digits denote.
* `Numeral.decimal`, `Numeral.hexadecimal` : the digits of a number.
* `Numeral.isDecimalDigit` : the Unicode property `Nd`.
* `Numeral.counter?` : the number of a counter.

## Main results

* `Numeral.isDecimalDigit_of_digit?` : the ASCII digits are decimal digits.
-/

namespace Webrev.Numeral

/-- The value of an ASCII digit or letter, as a digit of the largest base. -/
def letterValue? (c : Char) : Option Nat :=
  if '0' ≤ c ∧ c ≤ '9' then some (c.toNat - '0'.toNat)
  else if 'a' ≤ c ∧ c ≤ 'z' then some (c.toNat - 'a'.toNat + 10)
  else if 'A' ≤ c ∧ c ≤ 'Z' then some (c.toNat - 'A'.toNat + 10)
  else none

/-- The value of an ASCII digit in a base of at most 36. -/
def digit? (base : Nat) (c : Char) : Option Nat :=
  match letterValue? c with
  | some n => if n < base then some n else none
  | none => none

/-- A character is a digit in a base. -/
def isDigit (base : Nat) (c : Char) : Bool := (digit? base c).isSome

/-- The number that digits denote after the number in hand. -/
def valueFrom (base acc : Nat) (digits : List Char) : Nat :=
  digits.foldl (fun n c => n * base + (digit? base c).getD 0) acc

/-- The number that digits denote. -/
def value (base : Nat) (digits : List Char) : Nat := valueFrom base 0 digits

/-- The decimal digits of a number. -/
def decimal (n : Nat) : List Char := Nat.toDigits 10 n

/-- The hexadecimal digits of a number, in lower case. -/
def hexadecimal (n : Nat) : List Char := Nat.toDigits 16 n

/-- The hexadecimal digit of a number below 16, in upper case. -/
def upperHexDigit (n : Nat) : Char :=
  if n < 10 then Char.ofNat ('0'.toNat + n) else Char.ofNat ('A'.toNat + (n - 10))

/-! ### Decimal digits of all scripts -/

/-- The digits zero. The digits of a script follow its zero in order. -/
def zeros : List Nat :=
  [0x30, 0x660, 0x6F0, 0x7C0, 0x966, 0x9E6, 0xA66, 0xAE6, 0xB66, 0xBE6, 0xC66, 0xCE6, 0xD66,
    0xDE6, 0xE50, 0xED0, 0xF20, 0x1040, 0x1090, 0x17E0, 0x1810, 0x1946, 0x19D0, 0x1A80, 0x1A90,
    0x1B50, 0x1BB0, 0x1C40, 0x1C50, 0xA620, 0xA8D0, 0xA900, 0xA9D0, 0xA9F0, 0xAA50, 0xABF0,
    0xFF10, 0x104A0, 0x10D30, 0x10D40, 0x11066, 0x110F0, 0x11136, 0x111D0, 0x112F0, 0x11450,
    0x114D0, 0x11650, 0x116C0, 0x116D0, 0x116DA, 0x11730, 0x118E0, 0x11950, 0x11BF0, 0x11C50,
    0x11D50, 0x11DA0, 0x11F50, 0x16130, 0x16A60, 0x16AC0, 0x16B50, 0x16D70, 0x1CCF0, 0x1D7CE,
    0x1D7D8, 0x1D7E2, 0x1D7EC, 0x1D7F6, 0x1E140, 0x1E2F0, 0x1E4F0, 0x1E5F1, 0x1E950, 0x1FBF0]

/-- The characters with the Unicode property `Nd`. -/
def isDecimalDigit (c : Char) : Bool :=
  zeros.any fun z => z ≤ c.toNat && c.toNat < z + 10

/-- The ASCII digits are decimal digits. -/
theorem isDecimalDigit_of_digit? {c : Char} (h : '0' ≤ c ∧ c ≤ '9') : isDecimalDigit c = true := by
  have h0 : 0x30 ≤ c.toNat := h.1
  have h9 : c.toNat ≤ 0x39 := h.2
  simp only [isDecimalDigit, zeros, List.any_cons, Bool.or_eq_true, Bool.and_eq_true,
    decide_eq_true_eq]
  exact Or.inl ⟨h0, by omega⟩

/-! ### Counters -/

/-- One more than the largest number of a counter. -/
def counterBound : Nat := 0x10000000000000000

/-- The number that a text denotes, if it consists of ASCII digits and a counter holds it. -/
def counter? (digits : List Char) : Option Nat :=
  if digits.isEmpty || !digits.all (isDigit 10) then none
  else if value 10 digits < counterBound then some (value 10 digits)
  else none

end Webrev.Numeral
