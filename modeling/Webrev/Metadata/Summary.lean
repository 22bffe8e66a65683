import Webrev.Text.Numeral
import Webrev.Text.Scan

/-!
# The summary of a change

A page sums a change up in a sentence such as
`12 lines changed: 8 ins; 2 del; 2 mod; 0 unchg`. The first such sentence in a text counts. The
number of lines changed is the one that the sentence gives; it is not checked against the others.

## Main definitions

* `Summary` : the counts of a change.
* `Summary.Sentence` : a sentence with its numerals as they are written.
* `Summary.parse?` : the counts in a text.
-/

namespace Webrev

open Scan

/-- The counts of a change. -/
structure Summary where
  insertions : Nat
  deletions : Nat
  modifications : Nat
  linesChanged : Nat
  deriving DecidableEq, Repr

namespace Summary

/-- A sentence with its numerals as they are written. -/
structure Sentence where
  linesChanged : List Char
  insertions : List Char
  deletions : List Char
  modifications : List Char
  unchanged : List Char
  deriving DecidableEq, Repr

/-- Reads the longest run of decimal digits, of any script, if there is one. -/
def numeral? (text : List Char) : Option (List Char × List Char) :=
  match text.takeWhile Numeral.isDecimalDigit with
  | [] => none
  | digits => some (digits, text.dropWhile Numeral.isDecimalDigit)

/-- What follows the letter of the plural. -/
def skipPlural : List Char → List Char
  | 's' :: rest => rest
  | text => text

/-- Reads the sentence that a text begins with. -/
def Sentence.atFront? (text : List Char) : Option Sentence := do
  let (linesChanged, rest) ← numeral? text
  let rest ← expect " line".toList rest
  let rest ← expect " changed: ".toList (skipPlural rest)
  let (insertions, rest) ← numeral? rest
  let rest ← expect " ins; ".toList rest
  let (deletions, rest) ← numeral? rest
  let rest ← expect " del; ".toList rest
  let (modifications, rest) ← numeral? rest
  let rest ← expect " mod; ".toList rest
  let (unchanged, rest) ← numeral? rest
  let _ ← expect " unchg".toList rest
  return ⟨linesChanged, insertions, deletions, modifications, unchanged⟩

/-- The counts of a sentence, if counters hold them. -/
def Sentence.counts? (sentence : Sentence) : Option Summary := do
  let insertions ← Numeral.counter? sentence.insertions
  let deletions ← Numeral.counter? sentence.deletions
  let modifications ← Numeral.counter? sentence.modifications
  let linesChanged ← Numeral.counter? sentence.linesChanged
  return ⟨insertions, deletions, modifications, linesChanged⟩

/-- The counts in a text. -/
def parse? (text : String) : Option Summary :=
  (leftmost Sentence.atFront? text.toList).bind Sentence.counts?

end Summary

end Webrev
