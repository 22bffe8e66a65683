import Webrev.Toml.Text

/-!
# Numbers and dates in TOML

## Main definitions

* `Toml.integer?`, `Toml.float?` : read a number.
* `Toml.dateTime?` : reads a date, a time or both.

An integer is one that 64 bits hold. A float may be too large for a double only when it is negative.
A date is one of the calendar.
-/

namespace Webrev.Toml

/-! ### Digits -/

/-- Reads the digits that follow a digit. An underscore may stand between two digits. -/
def moreDigits (isDigit : Char → Bool) : Reader (List Char)
  | '_' :: c :: rest =>
    if isDigit c then (moreDigits isDigit rest).map fun (digits, rest) => (c :: digits, rest)
    else none
  | ['_'] => none
  | c :: rest =>
    if isDigit c then (moreDigits isDigit rest).map fun (digits, rest) => (c :: digits, rest)
    else some ([], c :: rest)
  | [] => some ([], [])

/-- Reads a digit and those that follow it. -/
def digits? (isDigit : Char → Bool) : Reader (List Char)
  | c :: rest =>
    if isDigit c then (moreDigits isDigit rest).map fun (digits, rest) => (c :: digits, rest)
    else none
  | [] => none

/-- A decimal digit. -/
def isDecimal (c : Char) : Bool := Numeral.isDigit 10 c

/-- Reads a sign, if there is one. A number with a minus sign is negative. -/
def sign : List Char → Bool × List Char
  | '+' :: rest => (false, rest)
  | '-' :: rest => (true, rest)
  | text => (false, text)

/-- Reads decimal digits, the first of which is no zero unless it is the only one. -/
def wholeDigits? : Reader (List Char)
  | '0' :: rest => some (['0'], rest)
  | text => digits? isDecimal text

/-! ### Integers -/

/-- The number from which on integers are too large. -/
def integerBound : Nat := 0x8000000000000000

/-- Reads the digits of an integer in a base, after the mark of the base. -/
def inBase? (base : Nat) (text : List Char) : Option (Int × List Char) :=
  (digits? (Numeral.isDigit base) text).bind fun (digits, rest) =>
    if Numeral.value base digits < integerBound then
      some ((Numeral.value base digits : Int), rest)
    else none

/-- Reads a decimal integer. -/
def decimal? (text : List Char) : Option (Int × List Char) :=
  let (negative, text) := sign text
  (wholeDigits? text).bind fun (digits, rest) =>
    let n := Numeral.value 10 digits
    if n < integerBound ∨ (negative ∧ n = integerBound) then
      some (if negative then -(n : Int) else n, rest)
    else none

/-- Reads an integer. -/
def integer? : Reader Int
  | '0' :: 'x' :: rest => inBase? 16 rest
  | '0' :: 'o' :: rest => inBase? 8 rest
  | '0' :: 'b' :: rest => inBase? 2 rest
  | text => decimal? text

/-! ### Floats -/

/-- Half a unit beyond the largest double: from here on a number is too large for one. -/
def doubleBound : Nat := Nat.pow 2 1024 - Nat.pow 2 970

/-- A number with digits before and after its point, times a power of ten, is too large for a
double. -/
def isTooLarge (whole fraction : List Char) (exponent : Int) : Bool :=
  let n := Numeral.value 10 (whole ++ fraction)
  let e := exponent - fraction.length
  if n = 0 then false
  else if (309 : Int) < (Numeral.decimal n).length + e then true
  else if (Numeral.decimal n).length + e < 309 then false
  else if 0 ≤ e then doubleBound ≤ n * Nat.pow 10 e.toNat
  else doubleBound * Nat.pow 10 (-e).toNat ≤ n

/-- Reads a fraction, if there is one. -/
def fraction? : Reader (Option (List Char))
  | '.' :: rest => (digits? isDecimal rest).map fun (digits, rest) => (some digits, rest)
  | text => some (none, text)

/-- Reads an exponent, if there is one. -/
def exponent? : Reader (Option Int)
  | c :: rest =>
    if c = 'e' ∨ c = 'E' then
      let (negative, rest) := sign rest
      (digits? isDecimal rest).map fun (digits, rest) =>
        let n := Numeral.value 10 digits
        (some (if negative then -(n : Int) else n), rest)
    else some (none, c :: rest)
  | [] => some (none, [])

/-- Reads what a float is when it is not a number with a fraction or an exponent. -/
def namedFloat? : Reader Unit
  | 'i' :: 'n' :: 'f' :: rest => some ((), rest)
  | 'n' :: 'a' :: 'n' :: rest => some ((), rest)
  | _ => none

/-- Reads a number with a fraction or an exponent. -/
def pointFloat? (text : List Char) : Option (Unit × List Char) := do
  let (negative, text) := sign text
  let (whole, text) ← wholeDigits? text
  let (fraction, text) ← fraction? text
  let (exponent, text) ← exponent? text
  if fraction.isNone && exponent.isNone then none
  else if !negative && isTooLarge whole (fraction.getD []) (exponent.getD 0) then none
  else some ((), text)

/-- Reads a float. -/
def float? (text : List Char) : Option (Unit × List Char) :=
  (pointFloat? text).or (namedFloat? (sign text).2)

/-! ### Dates and times -/

/-- Reads a number of so many digits between two bounds. -/
def field? (length low high : Nat) (text : List Char) : Option (Nat × List Char) :=
  let digits := text.take length
  let n := Numeral.value 10 digits
  if digits.length = length ∧ digits.all isDecimal ∧ low ≤ n ∧ n ≤ high then
    some (n, text.drop length)
  else none

/-- Reads a character. -/
def mark? (mark : Char) : Reader Unit
  | c :: rest => if c = mark then some ((), rest) else none
  | [] => none

/-- The number of days of a month. -/
def daysOf (year month : Nat) : Nat :=
  if month = 2 then
    if year % 4 = 0 ∧ (year % 100 ≠ 0 ∨ year % 400 = 0) then 29 else 28
  else if [4, 6, 9, 11].contains month then 30
  else 31

/-- Reads a date. -/
def date? (text : List Char) : Option (Unit × List Char) := do
  let (year, text) ← field? 4 0 9999 text
  let (_, text) ← mark? '-' text
  let (month, text) ← field? 2 1 12 text
  let (_, text) ← mark? '-' text
  let (_, text) ← field? 2 1 (daysOf year month) text
  return ((), text)

/-- A text without the fraction of a second at its front. -/
def skipSecondFraction : List Char → List Char
  | '.' :: c :: rest => if isDecimal c then rest.dropWhile isDecimal else '.' :: c :: rest
  | text => text

/-- Reads a time of day. -/
def time? (text : List Char) : Option (Unit × List Char) := do
  let (_, text) ← field? 2 0 23 text
  let (_, text) ← mark? ':' text
  let (_, text) ← field? 2 0 59 text
  let (_, text) ← mark? ':' text
  let (_, text) ← field? 2 0 60 text
  return ((), skipSecondFraction text)

/-- Reads an offset from the time of the prime meridian, if there is one. -/
def offset? : Reader Unit
  | c :: rest =>
    if c = 'Z' ∨ c = 'z' then some ((), rest)
    else if c = '+' ∨ c = '-' then do
      let (_, rest) ← field? 2 0 23 rest
      let (_, rest) ← mark? ':' rest
      let (_, rest) ← field? 2 0 59 rest
      return ((), rest)
    else some ((), c :: rest)
  | [] => some ((), [])

/-- Reads the time that follows a date, if there is one. -/
def timeAfterDate? : Reader Unit
  | c :: rest =>
    if c = 'T' ∨ c = 't' ∨ c = ' ' then
      match time? rest with
      | some (_, rest) => offset? rest
      | none => some ((), c :: rest)
    else some ((), c :: rest)
  | [] => some ((), [])

/-- Reads a date, a time or both. -/
def dateTime? (text : List Char) : Option (Unit × List Char) :=
  match date? text with
  | some (_, rest) => timeAfterDate? rest
  | none => time? text

end Webrev.Toml
