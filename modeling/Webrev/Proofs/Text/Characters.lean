import Webrev.Proofs.Text.Utf8

/-!
# What a character is read from

The octets that are written for a character are the only ones that it is read from. The first octet
of a character says how many more there are and bounds the second one, so that no shorter way of
writing the character, and no value that is not a character, is ever read. Octets of two characters
are therefore never one the front of the other.

## Main results

* `Utf8.Reads.eq_of_append` : no character is read from the front of what another one is read from.
* `Utf8.reads_between_iff` : a character is read from what is written for it, and from nothing else.
-/

namespace Webrev.Utf8

/-! ### Octets that a state reads a character from -/

theorem reads_cons_iff {state : State} {b : UInt8} {octets : List UInt8} {c : Char} :
    Reads state (b :: octets) c ↔
      (octets = [] ∧ state.step b = .character c) ∨
        ∃ next, state.step b = .more next ∧ Reads next octets c := by
  constructor
  · intro h
    cases h with
    | last hc => exact .inl ⟨rfl, hc⟩
    | more hmore rest => exact .inr ⟨_, hmore, rest⟩
  · rintro (⟨rfl, hc⟩ | ⟨next, hmore, rest⟩)
    · exact .last hc
    · exact .more hmore rest

theorem Reads.ne_nil {state : State} {octets : List UInt8} {c : Char} (h : Reads state octets c) :
    octets ≠ [] := by
  cases h <;> exact List.cons_ne_nil _ _

/-- What a character is read from is not the front of what another one is read from. -/
theorem Reads.eq_of_append {state : State} {octets more : List UInt8} {c other : Char}
    (h : Reads state octets c) (hmore : Reads state (octets ++ more) other) :
    more = [] ∧ other = c := by
  induction h with
  | last hstep =>
    rcases reads_cons_iff.mp hmore with ⟨hnil, hother⟩ | ⟨next, hnext, -⟩
    · exact ⟨hnil, Outcome.character.inj (hother.symm.trans hstep)⟩
    · exact nomatch hnext.symm.trans hstep
  | more hstep _ ih =>
    rcases reads_cons_iff.mp hmore with ⟨-, hother⟩ | ⟨next, hnext, hrest⟩
    · exact nomatch hother.symm.trans hstep
    · exact ih (Outcome.more.inj (hnext.symm.trans hstep) ▸ hrest)

/-- Inside a character the next octet is in the bounds of the state, and is the last one or not. -/
theorem reads_inside_cons_iff {seen owed : Nat} {low high b : UInt8} {value : Nat}
    {octets : List UInt8} {c : Char} :
    Reads (.inside seen owed low high value) (b :: octets) c ↔
      (low.toNat ≤ b.toNat ∧ b.toNat ≤ high.toNat) ∧
        if owed ≤ 1 then octets = [] ∧ Char.ofNat (value * 64 + (b.toNat - 0x80)) = c
        else Reads (.inside (seen + 1) (owed - 1) 0x80 0xBF (value * 64 + (b.toNat - 0x80)))
          octets c := by
  rw [reads_cons_iff]
  simp only [State.step, UInt8.le_iff_toNat_le]
  split_ifs with hin howed <;> simp [hin]

/-- One more octet completes the character. -/
theorem Reads.exists_one {seen value : Nat} {low high : UInt8} {octets : List UInt8} {c : Char}
    (h : Reads (.inside seen 1 low high value) octets c) :
    ∃ b, octets = [b] ∧ (low.toNat ≤ b.toNat ∧ b.toNat ≤ high.toNat) ∧
      c = Char.ofNat (value * 64 + (b.toNat - 0x80)) := by
  obtain ⟨b, rest, rfl⟩ := List.exists_cons_of_ne_nil h.ne_nil
  obtain ⟨hb, rfl, rfl⟩ := reads_inside_cons_iff.mp h
  exact ⟨b, rfl, hb, rfl⟩

/-- Two more octets complete the character. -/
theorem Reads.exists_two {seen value : Nat} {low high : UInt8} {octets : List UInt8} {c : Char}
    (h : Reads (.inside seen 2 low high value) octets c) :
    ∃ b₁ b₂, octets = [b₁, b₂] ∧ (low.toNat ≤ b₁.toNat ∧ b₁.toNat ≤ high.toNat) ∧
      (0x80 ≤ b₂.toNat ∧ b₂.toNat ≤ 0xBF) ∧
      c = Char.ofNat ((value * 64 + (b₁.toNat - 0x80)) * 64 + (b₂.toNat - 0x80)) := by
  obtain ⟨b₁, rest, rfl⟩ := List.exists_cons_of_ne_nil h.ne_nil
  obtain ⟨h₁, hrest⟩ := reads_inside_cons_iff.mp h
  obtain ⟨b₂, rfl, h₂, hc⟩ := Reads.exists_one hrest
  exact ⟨b₁, b₂, rfl, h₁, h₂, hc⟩

/-- Three more octets complete the character. -/
theorem Reads.exists_three {seen value : Nat} {low high : UInt8} {octets : List UInt8} {c : Char}
    (h : Reads (.inside seen 3 low high value) octets c) :
    ∃ b₁ b₂ b₃, octets = [b₁, b₂, b₃] ∧ (low.toNat ≤ b₁.toNat ∧ b₁.toNat ≤ high.toNat) ∧
      (0x80 ≤ b₂.toNat ∧ b₂.toNat ≤ 0xBF) ∧ (0x80 ≤ b₃.toNat ∧ b₃.toNat ≤ 0xBF) ∧
      c = Char.ofNat (((value * 64 + (b₁.toNat - 0x80)) * 64 + (b₂.toNat - 0x80)) * 64 +
        (b₃.toNat - 0x80)) := by
  obtain ⟨b₁, rest, rfl⟩ := List.exists_cons_of_ne_nil h.ne_nil
  obtain ⟨h₁, hrest⟩ := reads_inside_cons_iff.mp h
  obtain ⟨b₂, b₃, rfl, h₂, h₃, hc⟩ := Reads.exists_two hrest
  exact ⟨b₁, b₂, b₃, rfl, h₁, h₂, h₃, hc⟩

/-! ### Octets that are written for a character -/

/-- An ASCII octet is written for its character. -/
theorem eq_encodeChar_of_one {b : UInt8} (hb : b.toNat < 0x80) :
    [b] = String.utf8EncodeChar (Char.ofNat b.toNat) := by
  rw [encodeChar_eq, toNat_charOfNat (by unfold Nat.isValidChar; omega), if_pos (by omega),
    UInt8.ofNat_toNat]

/-- Two octets in the bounds that the first one gives are those of a character; so are three and
four. -/
theorem eq_encodeChar_of_two {b b₁ : UInt8} (hb : 0xC2 ≤ b.toNat ∧ b.toNat < 0xE0)
    (h₁ : 0x80 ≤ b₁.toNat ∧ b₁.toNat ≤ 0xBF) :
    [b, b₁] = String.utf8EncodeChar
      (Char.ofNat ((b.toNat - 0xC0) * 64 + (b₁.toNat - 0x80))) := by
  rw [encodeChar_eq, toNat_charOfNat (by unfold Nat.isValidChar; omega), if_neg (by omega),
    if_pos (by omega)]
  simp only [List.cons.injEq, ← UInt8.toNat_inj, UInt8.toNat_ofNat', and_true]
  omega

theorem eq_encodeChar_of_three {b b₁ b₂ : UInt8} (hb : 0xE0 ≤ b.toNat ∧ b.toNat < 0xF0)
    (h₁ : (if b.toNat = 0xE0 then 0xA0 else 0x80) ≤ b₁.toNat ∧
      b₁.toNat ≤ if b.toNat = 0xED then 0x9F else 0xBF)
    (h₂ : 0x80 ≤ b₂.toNat ∧ b₂.toNat ≤ 0xBF) :
    [b, b₁, b₂] = String.utf8EncodeChar (Char.ofNat
      (((b.toNat - 0xE0) * 64 + (b₁.toNat - 0x80)) * 64 + (b₂.toNat - 0x80))) := by
  split_ifs at h₁
  all_goals
    rw [encodeChar_eq, toNat_charOfNat (by unfold Nat.isValidChar; omega), if_neg (by omega),
      if_neg (by omega), if_pos (by omega)]
    simp only [List.cons.injEq, ← UInt8.toNat_inj, UInt8.toNat_ofNat', and_true]
    omega

theorem eq_encodeChar_of_four {b b₁ b₂ b₃ : UInt8} (hb : 0xF0 ≤ b.toNat ∧ b.toNat ≤ 0xF4)
    (h₁ : (if b.toNat = 0xF0 then 0x90 else 0x80) ≤ b₁.toNat ∧
      b₁.toNat ≤ if b.toNat = 0xF4 then 0x8F else 0xBF)
    (h₂ : 0x80 ≤ b₂.toNat ∧ b₂.toNat ≤ 0xBF) (h₃ : 0x80 ≤ b₃.toNat ∧ b₃.toNat ≤ 0xBF) :
    [b, b₁, b₂, b₃] = String.utf8EncodeChar (Char.ofNat
      ((((b.toNat - 0xF0) * 64 + (b₁.toNat - 0x80)) * 64 + (b₂.toNat - 0x80)) * 64 +
        (b₃.toNat - 0x80))) := by
  split_ifs at h₁
  all_goals
    rw [encodeChar_eq, toNat_charOfNat (by unfold Nat.isValidChar; omega), if_neg (by omega),
      if_neg (by omega), if_neg (by omega)]
    simp only [List.cons.injEq, ← UInt8.toNat_inj, UInt8.toNat_ofNat', and_true]
    omega

/-- An octet that no character begins with. -/
theorem first_of_misplaced {b : UInt8} (h : 0x80 ≤ b.toNat ∧ b.toNat < 0xC2 ∨ 0xF4 < b.toNat) :
    first b = .misplaced := by
  simp only [first, UInt8.lt_iff_toNat_lt, ← UInt8.toNat_inj, UInt8.reduceToNat]
  split_ifs <;> first | rfl | omega

/-- Octets that a character is read from are those that are written for it. -/
theorem Reads.eq_encodeChar {octets : List UInt8} {c : Char} (h : Reads .between octets c) :
    octets = String.utf8EncodeChar c := by
  obtain ⟨b, rest, rfl⟩ := List.exists_cons_of_ne_nil h.ne_nil
  rcases reads_cons_iff.mp h with ⟨rfl, hc⟩ | ⟨next, hnext, hrest⟩
  · have hb : b.toNat < 0x80 := by
      by_contra hb
      rw [State.step] at hc
      rcases first_cases_of_not_ascii (Nat.le_of_not_lt hb) with hf | ⟨next, hf, -⟩
      · rw [hf] at hc
        cases hc
      · rw [hf] at hc
        cases hc
    rw [← Outcome.character.inj ((first_of_ascii hb).symm.trans hc)]
    exact eq_encodeChar_of_one hb
  · rw [State.step] at hnext
    -- The first octet says how many more there are.
    by_cases hascii : b.toNat < 0x80
    · rw [first_of_ascii hascii] at hnext
      cases hnext
    by_cases hout : b.toNat < 0xC2 ∨ 0xF4 < b.toNat
    · rw [first_of_misplaced (by omega)] at hnext
      cases hnext
    by_cases htwo : b.toNat < 0xE0
    · rw [first_of_two (by omega) htwo, Outcome.more.injEq] at hnext
      subst hnext
      obtain ⟨b₁, rfl, h₁, hc⟩ := hrest.exists_one
      simp only [UInt8.reduceToNat] at h₁
      rw [hc]
      exact eq_encodeChar_of_two (by omega) h₁
    by_cases hthree : b.toNat < 0xF0
    · rw [first_of_three (by omega) hthree, Outcome.more.injEq] at hnext
      subst hnext
      obtain ⟨b₁, b₂, rfl, h₁, h₂, hc⟩ := hrest.exists_two
      simp only [apply_ite UInt8.toNat, UInt8.reduceToNat] at h₁
      rw [hc]
      exact eq_encodeChar_of_three (by omega) h₁ h₂
    · rw [first_of_four (by omega) (by omega), Outcome.more.injEq] at hnext
      subst hnext
      obtain ⟨b₁, b₂, b₃, rfl, h₁, h₂, h₃, hc⟩ := hrest.exists_three
      simp only [apply_ite UInt8.toNat, UInt8.reduceToNat] at h₁
      rw [hc]
      exact eq_encodeChar_of_four (by omega) h₁ h₂ h₃

/-- A character is read from what is written for it, and from nothing else. -/
theorem reads_between_iff {octets : List UInt8} {c : Char} :
    Reads .between octets c ↔ octets = String.utf8EncodeChar c :=
  ⟨Reads.eq_encodeChar, fun h => h ▸ reads_encodeChar c⟩

end Webrev.Utf8
