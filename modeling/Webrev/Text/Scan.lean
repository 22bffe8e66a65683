/-!
# Scanning a text for a pattern

The pieces that the patterns of this library are made of. A reader takes the characters in front of
it and answers what they hold, or that they are not what it looks for. Among several places where a
pattern fits, the first one counts; among several lengths of a stretch, the longest one.

## Main definitions

* `Scan.expect` : a fixed word.
* `Scan.skipLineFeed` : a line feed, if there is one.
* `Scan.longest` : the longest stretch within a line after which a reader succeeds.
* `Scan.leftmost` : the first place at which a reader succeeds.

## Main results

* `Scan.expect_eq_some_iff` : a fixed word is read exactly where it stands.
* `Scan.longest_eq_some` : the stretch chosen fits, and no longer one does.
* `Scan.leftmost_eq_some` : the place chosen fits, and no earlier one does.
-/

namespace Webrev.Scan

variable {α : Type}

/-- Reads a fixed word; what follows it. -/
def expect : List Char → List Char → Option (List Char)
  | [], text => some text
  | _ :: _, [] => none
  | w :: word, c :: text => if w = c then expect word text else none

/-- What follows a line feed, if the text starts with one, and else the text. -/
def skipLineFeed : List Char → List Char
  | '\n' :: rest => rest
  | text => text

/-- The longest stretch within a line after which `accepts` takes what follows, and its answer. -/
def longest (accepts : List Char → Option α) : List Char → Option (List Char × α)
  | [] => (accepts []).map fun a => ([], a)
  | c :: rest =>
    match if c = '\n' then none else longest accepts rest with
    | some (stretch, a) => some (c :: stretch, a)
    | none => (accepts (c :: rest)).map fun a => ([], a)

/-- The answer of `reader` at the first place of the text at which it has one. -/
def leftmost (reader : List Char → Option α) : List Char → Option α
  | [] => reader []
  | c :: rest =>
    match reader (c :: rest) with
    | some a => some a
    | none => leftmost reader rest

/-! ### What the pieces read -/

theorem expect_eq_some_iff {word text rest : List Char} :
    expect word text = some rest ↔ text = word ++ rest := by
  induction word generalizing text with
  | nil => simp [expect]
  | cons w word ih =>
    cases text with
    | nil => simp [expect]
    | cons c text =>
      by_cases h : w = c
      · subst h; simp [expect, ih]
      · simp [expect, h, Ne.symm h]

theorem expect_append (word rest : List Char) : expect word (word ++ rest) = some rest :=
  expect_eq_some_iff.mpr rfl

/-- No stretch is chosen exactly where what follows a stretch is never accepted. -/
theorem longest_eq_none_iff {accepts : List Char → Option α} {text : List Char} :
    longest accepts text = none ↔
      ∀ stretch rest, text = stretch ++ rest → '\n' ∉ stretch → accepts rest = none := by
  induction text with
  | nil =>
    simp only [longest, Option.map_eq_none_iff]
    constructor
    · intro h stretch rest he _
      rw [(List.append_eq_nil_iff.mp he.symm).2, h]
    · intro h
      exact h [] [] rfl List.not_mem_nil
  | cons c text ih =>
    by_cases hc : c = '\n'
    · simp only [longest, hc, ↓reduceIte, Option.map_eq_none_iff]
      constructor
      · intro h stretch rest he hn
        cases stretch with
        | nil => rw [← List.nil_append rest, ← he, h]
        | cons d stretch => exact absurd (List.cons.inj he).1.symm fun e => hn (by simp [e])
      · intro h
        exact h [] _ rfl List.not_mem_nil
    · simp only [longest, if_neg hc]
      cases hl : longest accepts text with
      | some p =>
        simp only [reduceCtorEq, false_iff]
        intro h
        have : longest accepts text = none :=
          ih.mpr fun stretch rest he hn =>
            h (c :: stretch) rest (by rw [he, List.cons_append])
              (by simp [hn, Ne.symm hc])
        rw [hl] at this
        cases this
      | none =>
        simp only [Option.map_eq_none_iff]
        constructor
        · intro h stretch rest he hn
          cases stretch with
          | nil => rw [← List.nil_append rest, ← he, h]
          | cons d stretch =>
            exact ih.mp hl stretch rest (List.cons.inj he).2 fun hm =>
              hn (List.mem_cons_of_mem _ hm)
        · intro h
          exact h [] _ rfl List.not_mem_nil

/-- The stretch chosen lies within a line and is followed by something accepted, and no longer
stretch is. -/
theorem longest_eq_some {accepts : List Char → Option α} {text stretch : List Char} {a : α}
    (h : longest accepts text = some (stretch, a)) :
    ∃ rest, text = stretch ++ rest ∧ '\n' ∉ stretch ∧ accepts rest = some a ∧
      ∀ more rest', rest = more ++ rest' → more ≠ [] → '\n' ∉ more → accepts rest' = none := by
  induction text generalizing stretch with
  | nil =>
    obtain ⟨b, hb, he⟩ := Option.map_eq_some_iff.mp h
    obtain ⟨rfl, rfl⟩ := Prod.mk.inj he
    exact ⟨[], rfl, List.not_mem_nil, hb, fun more _ hr hm =>
      absurd (List.append_eq_nil_iff.mp hr.symm).1 hm⟩
  | cons c text ih =>
    by_cases hc : c = '\n'
    · simp only [longest, hc, ↓reduceIte, Option.map_eq_some_iff] at h
      obtain ⟨b, hb, he⟩ := h
      obtain ⟨rfl, rfl⟩ := Prod.mk.inj he
      refine ⟨'\n' :: text, by simp [hc], List.not_mem_nil, hb, fun more rest' hr hm hn => ?_⟩
      cases more with
      | nil => exact absurd rfl hm
      | cons d more => exact absurd (List.cons.inj hr).1.symm fun e => hn (by simp [e])
    · simp only [longest, if_neg hc] at h
      cases hl : longest accepts text with
      | some p =>
        simp only [hl, Option.some.injEq, Prod.mk.injEq] at h
        obtain ⟨rfl, rfl⟩ := h
        obtain ⟨rest, hr, hn, ha, hmax⟩ := ih hl
        exact ⟨rest, by rw [hr, List.cons_append], by simp [hn, Ne.symm hc], ha, hmax⟩
      | none =>
        simp only [hl, Option.map_eq_some_iff] at h
        obtain ⟨b, hb, he⟩ := h
        obtain ⟨rfl, rfl⟩ := Prod.mk.inj he
        refine ⟨c :: text, rfl, List.not_mem_nil, hb, fun more rest' hr hm hn => ?_⟩
        cases more with
        | nil => exact absurd rfl hm
        | cons d more =>
          exact longest_eq_none_iff.mp hl more rest' (List.cons.inj hr).2 fun hx =>
            hn (List.mem_cons_of_mem _ hx)

/-- The place chosen is one at which the reader succeeds, and it fails at every earlier one. -/
theorem leftmost_eq_some {reader : List Char → Option α} {text : List Char} {a : α}
    (h : leftmost reader text = some a) :
    ∃ front rest, text = front ++ rest ∧ reader rest = some a ∧
      ∀ front' rest', text = front' ++ rest' → front'.length < front.length →
        reader rest' = none := by
  induction text with
  | nil => exact ⟨[], [], rfl, h, fun _ _ _ hl => absurd hl (Nat.not_lt_zero _)⟩
  | cons c text ih =>
    simp only [leftmost] at h
    cases hr : reader (c :: text) with
    | some b =>
      simp only [hr, Option.some.injEq] at h
      exact ⟨[], c :: text, rfl, h ▸ hr, fun _ _ _ hl => absurd hl (Nat.not_lt_zero _)⟩
    | none =>
      simp only [hr] at h
      obtain ⟨front, rest, he, ha, hmin⟩ := ih h
      refine ⟨c :: front, rest, by rw [he, List.cons_append], ha, fun front' rest' he' hl => ?_⟩
      cases front' with
      | nil => rw [← List.nil_append rest', ← he', hr]
      | cons d front' =>
        exact hmin front' rest' (List.cons.inj he').2 (Nat.lt_of_succ_lt_succ hl)

/-- A reader that succeeds at no place has no answer. -/
theorem leftmost_eq_none_iff {reader : List Char → Option α} {text : List Char} :
    leftmost reader text = none ↔ ∀ front rest, text = front ++ rest → reader rest = none := by
  induction text with
  | nil =>
    constructor
    · intro h front rest he
      rw [(List.append_eq_nil_iff.mp he.symm).2]
      exact h
    · intro h
      exact h [] [] rfl
  | cons c text ih =>
    simp only [leftmost]
    cases hr : reader (c :: text) with
    | some b =>
      simp only [reduceCtorEq, false_iff]
      intro h
      rw [h [] _ rfl] at hr
      cases hr
    | none =>
      simp only
      rw [ih]
      constructor
      · intro h front rest he
        cases front with
        | nil => rw [← List.nil_append rest, ← he, hr]
        | cons d front => exact h front rest (List.cons.inj he).2
      · intro h front rest he
        exact h (c :: front) rest (by rw [he, List.cons_append])

end Webrev.Scan
