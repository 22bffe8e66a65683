import Webrev.Proofs.Text.Scan
import Webrev.Text.Utf8
import Mathlib.Algebra.Group.Nat.Defs

/-!
# Texts and their octets

What is written is read back, whatever octets come after it. An octet that is an ASCII character
stands for itself wherever it stands: it ends the character in hand, and what comes before it and
after it is read on its own. So ASCII words may be looked for in the octets as well as in the text.
For this the reader must never be on its way to an ASCII character when it is inside a character;
`State.Sound` says so, and every octet keeps it.

## Main definitions

* `Utf8.State.Sound` : the characters that a state leads to are not ASCII.
* `Utf8.IsAscii` : a text of ASCII characters.

## Main results

* `Utf8.decodeLossy_encode_append`, `Utf8.decode_encode` : what is written is read back.
* `Utf8.decodeLossy_append_ascii` : an ASCII character cuts the octets where it cuts the text.
* `Utf8.exists_of_decodeLossy_eq` : an ASCII word in a text is a word in its octets.
-/

namespace Webrev.Utf8

/-! ### Sound states -/

/-- The least value of a character that a state leads to. -/
def leastValue (owed : Nat) (low : UInt8) (value : Nat) : Nat :=
  (value * 64 + (low.toNat - 0x80)) * 64 ^ (owed - 1)

/-- The first value above those of the characters that a state leads to. -/
def valueBound (owed : Nat) (high : UInt8) (value : Nat) : Nat :=
  (value * 64 + (high.toNat - 0x80) + 1) * 64 ^ (owed - 1)

/-- The octets that a state waits for are not ASCII, and neither are the characters that it leads
to. -/
def State.Sound : State → Prop
  | .between => True
  | .inside _ owed low high value =>
    1 ≤ owed ∧ owed ≤ 3 ∧ 0x80 ≤ low.toNat ∧ high.toNat ≤ 0xBF ∧
      0x80 ≤ leastValue owed low value ∧
      (valueBound owed high value ≤ 0xD800 ∨
        0xE000 ≤ leastValue owed low value ∧ valueBound owed high value ≤ 0x110000)

theorem State.sound_between : State.between.Sound := trivial

theorem toNat_charOfNat {n : Nat} (h : n.isValidChar) : (Char.ofNat n).toNat = n := by
  rw [Char.ofNat, dif_pos h]
  rfl

theorem ofNat_toNat_charOfNat {b : UInt8} (h : b.toNat < 0x80) :
    UInt8.ofNat (Char.ofNat b.toNat).toNat = b := by
  rw [toNat_charOfNat (.inl (by omega)), UInt8.ofNat_toNat]

theorem first_of_ascii {b : UInt8} (h : b.toNat < 0x80) :
    first b = .character (Char.ofNat b.toNat) :=
  if_pos (UInt8.lt_iff_toNat_lt.mpr h)

/-- An octet that is not ASCII begins a character soundly, or none. -/
theorem first_cases_of_not_ascii {b : UInt8} (h : 0x80 ≤ b.toNat) :
    first b = .misplaced ∨ ∃ next, first b = .more next ∧ next.Sound := by
  have hb := b.toNat_lt
  simp only [first, UInt8.lt_iff_toNat_lt, ← UInt8.toNat_inj, UInt8.reduceToNat]
  rw [if_neg (by omega)]
  -- The rows of the table of first octets, each of which bounds `b`.
  split_ifs with h1 h2 h3 h4 h5 h6 h7 h8
  · exact .inl rfl
  iterate 7
    refine .inr ⟨_, rfl, ?_⟩
    simp only [State.Sound, leastValue, valueBound, UInt8.reduceToNat, Nat.reduceSub, Nat.reducePow]
    omega
  · exact .inl rfl

/-- An octet that is not ASCII leads from a sound state to a sound state or to a character that is
not ASCII. -/
theorem State.Sound.step_cases {state : State} (hs : state.Sound) {b : UInt8}
    (hb : 0x80 ≤ b.toNat) :
    state.step b = .misplaced ∨ (∃ next, state.step b = .more next ∧ next.Sound) ∨
      ∃ c, state.step b = .character c ∧ 0x80 ≤ c.toNat := by
  cases state with
  | between => exact (first_cases_of_not_ascii hb).imp_right .inl
  | inside seen owed low high value =>
    obtain ⟨howed, howed', hlow, hhigh, hleast, hbound⟩ := hs
    simp only [State.step, UInt8.le_iff_toNat_le]
    by_cases hin : low.toNat ≤ b.toNat ∧ b.toNat ≤ high.toNat
    · rw [if_pos hin]
      obtain rfl | rfl | rfl : owed = 1 ∨ owed = 2 ∨ owed = 3 := by omega
      · -- The last octet: the bounds are those of the character itself.
        refine .inr (.inr ⟨_, rfl, ?_⟩)
        simp only [leastValue, valueBound, Nat.sub_self, Nat.pow_zero, Nat.mul_one]
          at hleast hbound
        rw [toNat_charOfNat (by unfold Nat.isValidChar; omega)]
        omega
      iterate 2
        refine .inr (.inl ⟨_, rfl, ?_⟩)
        simp only [leastValue, valueBound, State.Sound, UInt8.reduceToNat, Nat.reduceSub,
          Nat.reducePow] at hleast hbound ⊢
        omega
    · rw [if_neg hin]
      exact .inl rfl

/-! ### Reading any octets -/

/-- An ASCII octet ends the character in hand and is a character of its own. -/
theorem State.Sound.stepLossy_of_ascii {state : State} (hs : state.Sound) {b : UInt8}
    (hb : b.toNat < 0x80) :
    state.stepLossy b = (state.finish ++ [Char.ofNat b.toNat], .between) := by
  cases state with
  | between => simp only [stepLossy, State.step, first_of_ascii hb, finish, List.nil_append]
  | inside seen owed low high value =>
    have hlow := hs.2.2.1
    have hout : ¬(low ≤ b ∧ b ≤ high) := by
      rw [UInt8.le_iff_toNat_le]
      omega
    simp only [stepLossy, State.step, if_neg hout, restart, first_of_ascii hb, finish,
      List.cons_append, List.nil_append]

/-- Any other octet adds nothing that is ASCII, and leads to a sound state. -/
theorem State.Sound.stepLossy_of_not_ascii {state : State} (hs : state.Sound) {b : UInt8}
    (hb : 0x80 ≤ b.toNat) :
    (∀ c ∈ (state.stepLossy b).1, 0x80 ≤ c.toNat) ∧ (state.stepLossy b).2.Sound := by
  have hrepl : 0x80 ≤ replacement.toNat := by decide
  rcases hs.step_cases hb with h | ⟨next, h, hnext⟩ | ⟨c, h, hc⟩
  · cases state with
    | between => simpa [stepLossy, h, Sound] using hrepl
    | inside =>
      rcases first_cases_of_not_ascii hb with hf | ⟨next, hf, hnext⟩
      · simpa [stepLossy, h, restart, hf, Sound] using hrepl
      · simpa [stepLossy, h, restart, hf, hnext] using hrepl
  · simpa [stepLossy, h] using hnext
  · simpa [stepLossy, h, Sound] using hc

theorem State.finish_not_ascii {state : State} : ∀ c ∈ state.finish, 0x80 ≤ c.toNat := by
  cases state with
  | between => exact fun c hc => nomatch hc
  | inside => exact List.forall_mem_singleton.mpr (by decide)

/-- The states in which a reader can be are sound. -/
theorem State.Sound.decodeFrom {state : State} (hs : state.Sound) (octets : List UInt8) :
    (Utf8.decodeFrom state octets).2.Sound := by
  induction octets generalizing state with
  | nil => exact hs
  | cons b octets ih =>
    have hnext : (state.stepLossy b).2.Sound := by
      by_cases hb : b.toNat < 0x80
      · rw [hs.stepLossy_of_ascii hb]
        exact sound_between
      · exact (hs.stepLossy_of_not_ascii (Nat.le_of_not_lt hb)).2
    exact ih hnext

/-- Octets that are not ASCII have no ASCII character. -/
theorem State.Sound.decodeFrom_not_ascii {state : State} (hs : state.Sound) {octets : List UInt8}
    (h : ∀ b ∈ octets, 0x80 ≤ b.toNat) :
    ∀ c ∈ (Utf8.decodeFrom state octets).1, 0x80 ≤ c.toNat := by
  induction octets generalizing state with
  | nil => exact fun c hc => nomatch hc
  | cons b octets ih =>
    obtain ⟨hwritten, hnext⟩ := hs.stepLossy_of_not_ascii (h b List.mem_cons_self)
    exact List.forall_mem_append.mpr
      ⟨hwritten, ih hnext fun other ho => h other (List.mem_cons_of_mem _ ho)⟩

theorem decodeLossy_nil : decodeLossy [] = [] := rfl

theorem decodeLossy_not_ascii {octets : List UInt8} (h : ∀ b ∈ octets, 0x80 ≤ b.toNat) :
    ∀ c ∈ decodeLossy octets, 0x80 ≤ c.toNat :=
  List.forall_mem_append.mpr
    ⟨State.sound_between.decodeFrom_not_ascii h, State.finish_not_ascii⟩

/-- An ASCII octet cuts the octets where its character cuts the text. -/
theorem decodeLossy_append_ascii (front rest : List UInt8) {b : UInt8} (hb : b.toNat < 0x80) :
    decodeLossy (front ++ b :: rest) =
      decodeLossy front ++ Char.ofNat b.toNat :: decodeLossy rest := by
  have hs : (decodeFrom .between front).2.Sound := State.sound_between.decodeFrom front
  simp only [decodeLossy, decodeFrom_append, decodeFrom, hs.stepLossy_of_ascii hb,
    List.append_assoc, List.cons_append, List.nil_append]

theorem State.step_ne_more_between (state : State) (b : UInt8) : state.step b ≠ .more .between := by
  cases state with
  | between =>
    simp only [step, first]
    split_ifs <;> exact nofun
  | inside =>
    simp only [step]
    split_ifs <;> exact nofun

/-- A reader that is inside a character writes something. -/
theorem decodeFrom_ne_nil {state : State} (h : state ≠ .between) (octets : List UInt8) :
    (decodeFrom state octets).1 ++ (decodeFrom state octets).2.finish ≠ [] := by
  induction octets generalizing state with
  | nil =>
    cases state with
    | between => exact absurd rfl h
    | inside => exact List.cons_ne_nil _ _
  | cons b octets ih =>
    simp only [decodeFrom, State.stepLossy]
    cases hstep : state.step b with
    | character => exact List.cons_ne_nil _ _
    | more next => exact ih fun hn => state.step_ne_more_between b (hn ▸ hstep)
    | misplaced => cases state <;> exact List.cons_ne_nil _ _

/-- Only no octets have no characters. -/
theorem decodeLossy_eq_nil_iff {octets : List UInt8} : decodeLossy octets = [] ↔ octets = [] := by
  refine ⟨fun h => ?_, fun h => h ▸ rfl⟩
  cases octets with
  | nil => rfl
  | cons b octets =>
    refine absurd h ?_
    simp only [decodeLossy, decodeFrom, State.stepLossy]
    cases hstep : State.between.step b with
    | character | misplaced => exact List.cons_ne_nil _ _
    | more next =>
      have hnext : next ≠ .between := fun hn => State.between.step_ne_more_between b (hn ▸ hstep)
      exact decodeFrom_ne_nil hnext octets

/-! ### ASCII words -/

/-- The characters are ASCII. -/
def IsAscii (text : List Char) : Prop := ∀ c ∈ text, c.toNat < 0x80

instance : DecidablePred IsAscii := fun text =>
  show Decidable (∀ c ∈ text, c.toNat < 0x80) from List.decidableBAll _ text

/-- An ASCII octet is a character of the text. -/
theorem mem_decodeLossy {octets : List UInt8} {b : UInt8} (hb : b.toNat < 0x80) (h : b ∈ octets) :
    Char.ofNat b.toNat ∈ decodeLossy octets := by
  obtain ⟨front, rest, rfl⟩ := List.append_of_mem h
  rw [decodeLossy_append_ascii front rest hb]
  exact List.mem_append_right _ List.mem_cons_self

/-- An ASCII character of a text is an octet, and cuts the octets where it cuts the text. -/
theorem exists_of_decodeLossy_eq_cons {octets : List UInt8} {front back : List Char} {c : Char}
    (hc : c.toNat < 0x80) (h : decodeLossy octets = front ++ c :: back) :
    ∃ before after, octets = before ++ UInt8.ofNat c.toNat :: after ∧
      decodeLossy before = front ∧ decodeLossy after = back := by
  -- The octets are looked through for an ASCII one; `high` are those before it.
  suffices hgen : ∀ high rest : List UInt8, (∀ b ∈ high, 0x80 ≤ b.toNat) → ∀ front : List Char,
      decodeLossy (high ++ rest) = front ++ c :: back →
      ∃ before after, high ++ rest = before ++ UInt8.ofNat c.toNat :: after ∧
        decodeLossy before = front ∧ decodeLossy after = back from
    hgen [] octets (List.forall_mem_nil _) front h
  intro high rest
  induction rest generalizing high with
  | nil =>
    intro hhigh front h
    rw [List.append_nil] at h
    have hmem : c ∈ decodeLossy high := h ▸ List.mem_append_right _ List.mem_cons_self
    exact absurd (decodeLossy_not_ascii hhigh c hmem) (Nat.not_le_of_lt hc)
  | cons b rest ih =>
    intro hhigh front h
    by_cases hb : b.toNat < 0x80
    · rw [decodeLossy_append_ascii high rest hb] at h
      have hnot : c ∉ decodeLossy high := fun hm =>
        absurd (decodeLossy_not_ascii hhigh c hm) (Nat.not_le_of_lt hc)
      obtain ⟨more, rfl, hmore⟩ := Scan.exists_of_append_eq_append_cons hnot h
      cases more with
      | nil =>
        obtain ⟨rfl, rfl⟩ := List.cons.inj hmore
        exact ⟨high, rest, by rw [ofNat_toNat_charOfNat hb], (List.append_nil _).symm, rfl⟩
      | cons d more =>
        obtain ⟨rfl, hrest⟩ := List.cons.inj hmore
        obtain ⟨before, after, rfl, rfl, hafter⟩ := ih [] (List.forall_mem_nil _) more hrest
        refine ⟨high ++ b :: before, after, ?_, decodeLossy_append_ascii high before hb, hafter⟩
        rw [List.append_assoc, List.cons_append]
    · have hstep := ih (high ++ [b])
        (List.forall_mem_append.mpr ⟨hhigh, List.forall_mem_singleton.mpr (Nat.le_of_not_lt hb)⟩)
        front
      rw [List.append_assoc, List.singleton_append] at hstep
      exact hstep h

/-! ### Writing -/

/-- The octets are those of a character, the first of which a reader in the state takes up. -/
inductive Reads : State → List UInt8 → Char → Prop
  | last {state : State} {b : UInt8} {c : Char} (h : state.step b = .character c) :
      Reads state [b] c
  | more {state next : State} {b : UInt8} {octets : List UInt8} {c : Char}
      (h : state.step b = .more next) (rest : Reads next octets c) : Reads state (b :: octets) c

/-- A character that is read is what the reader writes. -/
theorem Reads.decodeFrom_append {state : State} {octets : List UInt8} {c : Char}
    (h : Reads state octets c) (rest : List UInt8) :
    decodeFrom state (octets ++ rest) =
      (c :: (decodeFrom .between rest).1, (decodeFrom .between rest).2) := by
  induction h with
  | last h => simp [decodeFrom, State.stepLossy, h]
  | more h _ ih => simp [decodeFrom, State.stepLossy, h, ih]

theorem first_of_two {b : UInt8} (hl : 0xC2 ≤ b.toNat) (hh : b.toNat < 0xE0) :
    first b = .more (.inside 1 1 0x80 0xBF (b.toNat - 0xC0)) := by
  simp only [first, UInt8.lt_iff_toNat_lt, UInt8.reduceToNat]
  rw [if_neg (by omega), if_neg (by omega), if_pos hh]

theorem first_of_three {b : UInt8} (hl : 0xE0 ≤ b.toNat) (hh : b.toNat < 0xF0) :
    first b = .more (.inside 1 2 (if b.toNat = 0xE0 then 0xA0 else 0x80)
      (if b.toNat = 0xED then 0x9F else 0xBF) (b.toNat - 0xE0)) := by
  simp only [first, UInt8.lt_iff_toNat_lt, ← UInt8.toNat_inj, UInt8.reduceToNat]
  rw [if_neg (by omega), if_neg (by omega), if_neg (by omega)]
  by_cases h0 : b.toNat = 0xE0
  · simp [h0]
  by_cases hD : b.toNat = 0xED
  · simp [hD]
  simp [h0, hD, hh]

theorem first_of_four {b : UInt8} (hl : 0xF0 ≤ b.toNat) (hh : b.toNat ≤ 0xF4) :
    first b = .more (.inside 1 3 (if b.toNat = 0xF0 then 0x90 else 0x80)
      (if b.toNat = 0xF4 then 0x8F else 0xBF) (b.toNat - 0xF0)) := by
  simp only [first, UInt8.lt_iff_toNat_lt, ← UInt8.toNat_inj, UInt8.reduceToNat]
  rw [if_neg (by omega), if_neg (by omega), if_neg (by omega), if_neg (by omega),
    if_neg (by omega), if_neg (by omega)]
  by_cases h0 : b.toNat = 0xF0
  · simp [h0]
  by_cases h4 : b.toNat = 0xF4
  · simp [h4]
  rw [if_neg h0, if_pos (by omega), if_neg h0, if_neg h4]

/-- An octet that a state waits for, the last one. -/
theorem Reads.last_inside {seen : Nat} {low high b : UInt8} {value : Nat} {c : Char}
    (hl : low.toNat ≤ b.toNat) (hh : b.toNat ≤ high.toNat)
    (hc : value * 64 + (b.toNat - 0x80) = c.toNat) :
    Reads (.inside seen 1 low high value) [b] c := by
  refine .last ?_
  simp only [State.step, UInt8.le_iff_toNat_le, hl, hh, and_self, ↓reduceIte, Nat.le_refl, hc,
    Char.ofNat_toNat]

/-- An octet that a state waits for, with more to come. -/
theorem Reads.more_inside {seen owed : Nat} {low high b : UInt8} {value : Nat} {c : Char}
    {octets : List UInt8} (hl : low.toNat ≤ b.toNat) (hh : b.toNat ≤ high.toNat) (ho : 1 < owed)
    (rest : Reads (.inside (seen + 1) (owed - 1) 0x80 0xBF (value * 64 + (b.toNat - 0x80)))
      octets c) :
    Reads (.inside seen owed low high value) (b :: octets) c := by
  refine .more ?_ rest
  simp only [State.step, UInt8.le_iff_toNat_le, hl, hh, and_self, ↓reduceIte,
    if_neg (Nat.not_le.mpr ho)]

/-- The octets of a character, by its code. -/
theorem encodeChar_eq (c : Char) :
    String.utf8EncodeChar c =
      if c.toNat ≤ 127 then [UInt8.ofNat c.toNat]
      else if c.toNat ≤ 2047 then
        [UInt8.ofNat (c.toNat / 64 % 32 + 192), UInt8.ofNat (c.toNat % 64 + 128)]
      else if c.toNat ≤ 65535 then
        [UInt8.ofNat (c.toNat / 4096 % 16 + 224), UInt8.ofNat (c.toNat / 64 % 64 + 128),
          UInt8.ofNat (c.toNat % 64 + 128)]
      else
        [UInt8.ofNat (c.toNat / 262144 % 8 + 240), UInt8.ofNat (c.toNat / 4096 % 64 + 128),
          UInt8.ofNat (c.toNat / 64 % 64 + 128), UInt8.ofNat (c.toNat % 64 + 128)] := rfl

/-- The octets that are written for a character are read as the character. -/
theorem reads_encodeChar (c : Char) : Reads .between (String.utf8EncodeChar c) c := by
  have hvalid : c.toNat < 0xD800 ∨ 0xDFFF < c.toNat ∧ c.toNat < 0x110000 := c.valid
  have hoctet {n : Nat} (h : n < 0x100) : (UInt8.ofNat n).toNat = n := by
    rw [UInt8.toNat_ofNat']
    omega
  rw [encodeChar_eq]
  have hlast : (UInt8.ofNat (c.toNat % 64 + 128)).toNat = c.toNat % 64 + 128 := hoctet (by omega)
  have hnext : (UInt8.ofNat (c.toNat / 64 % 64 + 128)).toNat = c.toNat / 64 % 64 + 128 :=
    hoctet (by omega)
  split_ifs with h1 h2 h3
  · have hb : (UInt8.ofNat c.toNat).toNat = c.toNat := hoctet (by omega)
    refine .last ?_
    rw [State.step, first_of_ascii (by omega), hb, Char.ofNat_toNat]
  · have hb : (UInt8.ofNat (c.toNat / 64 % 32 + 192)).toNat = c.toNat / 64 % 32 + 192 :=
      hoctet (by omega)
    refine .more (first_of_two (by omega) (by omega)) (.last_inside ?_ ?_ ?_)
    all_goals simp only [UInt8.reduceToNat, hb, hlast]; omega
  · have hb : (UInt8.ofNat (c.toNat / 4096 % 16 + 224)).toNat = c.toNat / 4096 % 16 + 224 :=
      hoctet (by omega)
    refine .more (first_of_three (by omega) (by omega))
      (.more_inside ?_ ?_ (by omega) (.last_inside ?_ ?_ ?_))
    iterate 2 rw [hb, hnext]; split_ifs <;> simp only [UInt8.reduceToNat] <;> omega
    all_goals simp only [UInt8.reduceToNat, hb, hnext, hlast]; omega
  · have hb : (UInt8.ofNat (c.toNat / 262144 % 8 + 240)).toNat = c.toNat / 262144 % 8 + 240 :=
      hoctet (by omega)
    have hsecond : (UInt8.ofNat (c.toNat / 4096 % 64 + 128)).toNat = c.toNat / 4096 % 64 + 128 :=
      hoctet (by omega)
    refine .more (first_of_four (by omega) (by omega))
      (.more_inside ?_ ?_ (by omega) (.more_inside ?_ ?_ (by omega) (.last_inside ?_ ?_ ?_)))
    iterate 2 rw [hb, hsecond]; split_ifs <;> simp only [UInt8.reduceToNat] <;> omega
    all_goals simp only [UInt8.reduceToNat, hb, hsecond, hnext, hlast]; omega

theorem encode_cons (c : Char) (text : List Char) :
    encode (c :: text) = String.utf8EncodeChar c ++ encode text := rfl

theorem encode_append (front back : List Char) :
    encode (front ++ back) = encode front ++ encode back :=
  List.flatMap_append

/-- What is written is read back, whatever comes after it. -/
theorem decodeFrom_encode_append (text : List Char) (octets : List UInt8) :
    decodeFrom .between (encode text ++ octets) =
      (text ++ (decodeFrom .between octets).1, (decodeFrom .between octets).2) := by
  induction text with
  | nil => rfl
  | cons c text ih =>
    rw [encode_cons, List.append_assoc, (reads_encodeChar c).decodeFrom_append, ih]
    rfl

/-- What is written is read back, whatever comes after it. -/
theorem decodeLossy_encode_append (text : List Char) (octets : List UInt8) :
    decodeLossy (encode text ++ octets) = text ++ decodeLossy octets := by
  simp only [decodeLossy, decodeFrom_encode_append, List.append_assoc]

/-- What is written is read back. -/
@[simp]
theorem decodeLossy_encode (text : List Char) : decodeLossy (encode text) = text := by
  have h := decodeLossy_encode_append text []
  rwa [List.append_nil, decodeLossy_nil, List.append_nil] at h

theorem Reads.exists_decodeAt_append {state : State} {octets : List UInt8} {c : Char}
    (h : Reads state octets c) (index : Nat) (rest : List UInt8) :
    ∃ next, decodeAt state index (octets ++ rest) = (decodeAt .between next rest).map (c :: ·) := by
  induction h with
  | last h => exact ⟨_, by rw [List.singleton_append, decodeAt, h]⟩
  | more h _ ih =>
    obtain ⟨next, hnext⟩ := ih
    exact ⟨next, by rw [List.cons_append, decodeAt, h, ← hnext]⟩

/-- What is written is well-formed, and read back. -/
@[simp]
theorem decode_encode (text : List Char) : decode (encode text) = .ok text := by
  suffices h : ∀ index, decodeAt .between index (encode text) = .ok text from h 0
  induction text with
  | nil => exact fun _ => rfl
  | cons c text ih =>
    intro index
    obtain ⟨next, hnext⟩ := (reads_encodeChar c).exists_decodeAt_append index (encode text)
    rw [encode_cons, hnext, ih]
    rfl

/-- An ASCII octet is written only for its character. -/
theorem mem_of_mem_encode {text : List Char} {b : UInt8} (hb : b.toNat < 0x80)
    (h : b ∈ encode text) : Char.ofNat b.toNat ∈ text :=
  decodeLossy_encode text ▸ mem_decodeLossy hb h

/-! ### Words in octets -/

theorem encode_cons_of_ascii {c : Char} (hc : c.toNat < 0x80) (text : List Char) :
    encode (c :: text) = UInt8.ofNat c.toNat :: encode text := by
  have hle : c.val.toNat ≤ 127 := Nat.le_of_lt_succ hc
  simp only [encode_cons, String.utf8EncodeChar, if_pos hle, List.cons_append, List.nil_append]
  rfl

/-- An ASCII word in a text is a word in its octets. -/
theorem exists_of_decodeLossy_eq {octets : List UInt8} {front word back : List Char}
    (hword : IsAscii word) (hne : word ≠ []) (h : decodeLossy octets = front ++ (word ++ back)) :
    ∃ before after, octets = before ++ (encode word ++ after) ∧
      decodeLossy before = front ∧ decodeLossy after = back := by
  induction word generalizing octets front with
  | nil => exact absurd rfl hne
  | cons c word ih =>
    obtain ⟨hc, htail⟩ := List.forall_mem_cons.mp hword
    obtain ⟨before, after, rfl, rfl, hafter⟩ := exists_of_decodeLossy_eq_cons hc h
    rw [encode_cons_of_ascii hc]
    cases word with
    | nil => exact ⟨before, after, rfl, rfl, hafter⟩
    | cons d word =>
      -- The rest of the word follows at once, since nothing is read before it.
      obtain ⟨between, rest, rfl, hbetween, hrest⟩ := ih htail (List.cons_ne_nil d word)
        (hafter.trans (List.nil_append _).symm)
      rw [decodeLossy_eq_nil_iff.mp hbetween]
      exact ⟨before, rest, rfl, rfl, hrest⟩

/-- A text begins with an ASCII word when its octets do. -/
theorem prefix_decodeLossy_iff {octets : List UInt8} {word : List Char} (hword : IsAscii word) :
    word <+: decodeLossy octets ↔ encode word <+: octets := by
  constructor
  · rintro ⟨back, h⟩
    cases word with
    | nil => exact List.nil_prefix
    | cons c word =>
      obtain ⟨before, after, rfl, hbefore, -⟩ := exists_of_decodeLossy_eq hword
        (List.cons_ne_nil c word) (h.symm.trans (List.nil_append _).symm)
      rw [decodeLossy_eq_nil_iff.mp hbefore]
      exact ⟨after, rfl⟩
  · rintro ⟨after, rfl⟩
    rw [decodeLossy_encode_append]
    exact List.prefix_append ..

/-- An ASCII word that a text has is one that its octets have. -/
theorem infix_of_infix_decodeLossy {octets : List UInt8} {word : List Char} (hword : IsAscii word)
    (h : word <:+: decodeLossy octets) : encode word <:+: octets := by
  obtain ⟨front, back, h⟩ := h
  cases word with
  | nil => exact List.nil_infix
  | cons c word =>
    obtain ⟨before, after, rfl, -, -⟩ := exists_of_decodeLossy_eq hword (List.cons_ne_nil c word)
      (h.symm.trans (List.append_assoc ..))
    exact ⟨before, after, List.append_assoc ..⟩

end Webrev.Utf8
