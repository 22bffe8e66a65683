import Mathlib.Data.Nat.Digits.Defs
import Webrev.Proofs.Text.Scan
import Webrev.Text.Numeral

/-!
# What numerals denote

The decimal numerals of a counter are runs of ASCII digits, read as usual: with leading zeros or
without, and never beyond what the counter holds.

## Main definitions

* `Numeral.IsRun` : a run of decimal digits, of any script.
* `Numeral.Denotes` : the number that a counter reads in a numeral.

## Main results

* `Numeral.counter?_eq_some_iff` : a counter holds the number that a numeral denotes.
* `Numeral.decimal_append_inj` : a number that was written ends where its digits do.
* `Numeral.denotes_decimal_iff` : a number that was written is read back, unless it is too large.
-/

namespace Webrev.Numeral

variable {c : Char} {digits : List Char} {n : Nat}

/-- A run of decimal digits, of any script. -/
def IsRun (digits : List Char) : Prop :=
  digits ≠ [] ∧ ∀ c ∈ digits, isDecimalDigit c = true

/-- A numeral of ASCII digits denotes a number that a counter holds. -/
structure Denotes (digits : List Char) (n : Nat) : Prop where
  ne_nil : digits ≠ []
  isDigit : ∀ c ∈ digits, c.isDigit = true
  value_eq : Nat.ofDigitChars 10 digits 0 = n
  lt_bound : n < 2 ^ 64

theorem isDigit_iff_le : c.isDigit = true ↔ '0' ≤ c ∧ c ≤ '9' := by
  rw [Char.isDigit, Bool.and_eq_true, decide_eq_true_eq, decide_eq_true_eq]
  rfl

/-- The value of an ASCII digit. -/
theorem digit?_of_isDigit (h : c.isDigit = true) : digit? 10 c = some (c.toNat - '0'.toNat) := by
  have hle := isDigit_iff_le.mp h
  have h9 : c.toNat ≤ 57 := hle.2
  have hlt : c.toNat - '0'.toNat < 10 := by
    change c.toNat - 48 < 10
    omega
  rw [digit?, letterValue?, if_pos hle]
  exact if_pos hlt

/-- The decimal digits are the ASCII ones. -/
theorem isDigit_ten_iff : isDigit 10 c = true ↔ c.isDigit = true := by
  constructor
  · intro h
    by_contra hno
    rw [isDigit_iff_le] at hno
    -- The value of a letter is ten or more.
    have hnone : digit? 10 c = none := by
      unfold digit? letterValue?
      rw [if_neg hno]
      split_ifs <;> simp
    rw [isDigit, hnone] at h
    cases h
  · intro h
    rw [isDigit, digit?_of_isDigit h]
    rfl

theorem valueFrom_eq (h : ∀ c ∈ digits, c.isDigit = true) (acc : Nat) :
    valueFrom 10 acc digits = Nat.ofDigitChars 10 digits acc := by
  induction digits generalizing acc with
  | nil => rfl
  | cons c digits ih =>
    have hc := digit?_of_isDigit (h c List.mem_cons_self)
    have hstep : valueFrom 10 acc (c :: digits) =
        valueFrom 10 (10 * acc + (c.toNat - '0'.toNat)) digits := by
      rw [valueFrom, List.foldl_cons, hc, Option.getD_some, Nat.mul_comm, ← valueFrom]
    rw [hstep, Nat.ofDigitChars_cons, ih fun d hd => h d (List.mem_cons_of_mem c hd)]

/-- A counter holds the number that a numeral denotes. -/
theorem counter?_eq_some_iff : counter? digits = some n ↔ Denotes digits n := by
  have hdigits : (digits.isEmpty || !digits.all (isDigit 10)) = true ↔
      ¬(digits ≠ [] ∧ ∀ c ∈ digits, c.isDigit = true) := by
    simp only [Bool.or_eq_true, List.isEmpty_iff, Bool.not_eq_true', ← Bool.not_eq_true,
      List.all_eq_true, isDigit_ten_iff]
    tauto
  unfold counter?
  by_cases h : digits ≠ [] ∧ ∀ c ∈ digits, c.isDigit = true
  · rw [if_neg fun hno => hdigits.mp hno h, value, valueFrom_eq h.2]
    constructor
    · intro hsome
      split at hsome
      next hlt =>
        obtain rfl := Option.some.inj hsome
        exact ⟨h.1, h.2, rfl, hlt⟩
      · cases hsome
    · rintro ⟨-, -, rfl, hlt⟩
      exact if_pos hlt
  · rw [if_pos (hdigits.mpr h)]
    exact ⟨nofun, fun hdenotes => absurd ⟨hdenotes.ne_nil, hdenotes.isDigit⟩ h⟩

theorem isRun_of_isDigit (hne : digits ≠ []) (h : ∀ c ∈ digits, c.isDigit = true) : IsRun digits :=
  ⟨hne, fun c hc => isDecimalDigit_of_digit? (isDigit_iff_le.mp (h c hc))⟩

theorem isDigit_of_mem_decimal (h : c ∈ decimal n) : c.isDigit = true :=
  Nat.isDigit_of_mem_toDigits (by decide) (by decide) h

/-- The hexadecimal digits are letters and digits. -/
theorem isAlphanum_of_mem_hexadecimal {n : Nat} (h : c ∈ hexadecimal n) :
    c.isAlphanum = true := by
  have hdigit : ∀ d < 16, (Nat.digitChar d).isAlphanum = true := by decide
  unfold hexadecimal at h
  induction n using Nat.strongRecOn with
  | _ n ih =>
    rw [Nat.toDigits_eq_if (by decide)] at h
    split at h
    next hlt =>
      obtain rfl := List.mem_singleton.mp h
      exact hdigit n hlt
    next hle =>
      rcases List.mem_append.mp h with hfront | hlast
      · exact ih (n / 16) (Nat.div_lt_self (by omega) (by decide)) hfront
      · obtain rfl := List.mem_singleton.mp hlast
        exact hdigit _ (Nat.mod_lt n (by decide))

theorem decimal_ne_nil (n : Nat) : decimal n ≠ [] := Nat.toDigits_ne_nil

theorem ofDigitChars_decimal (n : Nat) : Nat.ofDigitChars 10 (decimal n) 0 = n :=
  Nat.ofDigitChars_toDigits (by decide) (by decide)

/-- A number that was written ends where its digits do. -/
theorem decimal_append_inj {m : Nat} {mark mark' : Char} {rest rest' : List Char}
    (h : decimal m ++ mark :: rest = decimal n ++ mark' :: rest') (hmark : mark.isDigit = false)
    (hmark' : mark'.isDigit = false) : m = n ∧ rest = rest' := by
  have hdigits {n : Nat} : ∀ c ∈ decimal n, ¬c.isDigit = false := fun c hc => by
    rw [isDigit_of_mem_decimal hc]
    exact Bool.noConfusion
  obtain ⟨hnumber, -, hrest⟩ := Scan.append_cons_inj_of_first h hdigits hmark hdigits hmark'
  refine ⟨?_, hrest⟩
  rw [← ofDigitChars_decimal m, hnumber, ofDigitChars_decimal]

/-- What is written for a number denotes it, unless it is too large for a counter. -/
theorem denotes_decimal_iff {m : Nat} : Denotes (decimal n) m ↔ m = n ∧ n < 2 ^ 64 := by
  have hvalue := ofDigitChars_decimal n
  constructor
  · rintro ⟨-, -, rfl, hlt⟩
    rw [hvalue] at hlt ⊢
    exact ⟨rfl, hlt⟩
  · rintro ⟨rfl, hlt⟩
    exact ⟨decimal_ne_nil m, fun _ => isDigit_of_mem_decimal, hvalue, hlt⟩

end Webrev.Numeral
