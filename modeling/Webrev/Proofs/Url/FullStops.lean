import Webrev.Proofs.Text.Utf8
import Webrev.Url.Path

/-!
# Full stops in segments

A segment that takes another one away, or stands for nothing, consists of full stops, each of which
may be written by number. Percent encoding keeps a full stop, and a full stop written by number, and
it writes nothing else in that way, so that a segment is one of these after it exactly when it was
one before.

## Main results

* `Url.skipStop_encode` : percent encoding neither makes nor hides a full stop.
* `Url.isHere_encode`, `Url.isUp_encode` : nor a segment of full stops.
-/

namespace Webrev

theorem Percent.encode_cons (reserved : Reserved) (c : Char) (text : List Char) :
    encode reserved (c :: text) = encodeChar reserved c ++ encode reserved text := by
  simp [encode]

namespace Url

theorem skipStop_eq_some_iff {text rest : List Char} :
    skipStop text = some rest ↔ text = '.' :: rest ∨ text = '%' :: '2' :: 'e' :: rest ∨
      text = '%' :: '2' :: 'E' :: rest := by
  constructor
  · intro h
    unfold skipStop at h
    split at h
    · exact .inl (by rw [Option.some.inj h])
    · exact .inr (.inl (by rw [Option.some.inj h]))
    · exact .inr (.inr (by rw [Option.some.inj h]))
    · cases h
  · rintro (rfl | rfl | rfl) <;> rfl

/-- A character that is not kept is written by number, and not as a full stop may be. -/
theorem exists_encodeChar_of_not_keeps {reserved : Percent.Reserved} {c : Char}
    (hstop : Percent.keeps reserved '.' = true) (h : Percent.keeps reserved c = false) :
    ∃ high low rest, Percent.encodeChar reserved c = '%' :: high :: low :: rest ∧
      low ≠ 'e' ∧ ¬(high = '2' ∧ low = 'E') := by
  have hlower : ∀ n < 16, Numeral.upperHexDigit n ≠ 'e' := by decide
  have htwo : ∀ n < 16, Numeral.upperHexDigit n = '2' → n = 2 := by decide
  have hfourteen : ∀ n < 16, Numeral.upperHexDigit n = 'E' → n = 14 := by decide
  have hoctets : Utf8.encode [c] ≠ [] := by simp [Utf8.encode]
  obtain ⟨b, octets, hb⟩ := List.exists_cons_of_ne_nil hoctets
  have hhigh : b.toNat / 16 < 16 := Nat.div_lt_of_lt_mul b.toNat_lt
  have hlow : b.toNat % 16 < 16 := Nat.mod_lt _ (by decide)
  refine ⟨Numeral.upperHexDigit (b.toNat / 16), Numeral.upperHexDigit (b.toNat % 16),
    octets.flatMap Percent.encodeOctet, ?_, hlower _ hlow, ?_⟩
  · rw [Percent.encodeChar, if_neg (by simp [h]), hb]
    rfl
  · rintro ⟨hhigh', hlow'⟩
    have hbyte : b.toNat = 0x2E := by
      have := htwo _ hhigh hhigh'
      have := hfourteen _ hlow hlow'
      omega
    have hmem : Char.ofNat b.toNat ∈ [c] :=
      Utf8.mem_of_mem_encode (by omega) (hb ▸ List.mem_cons_self)
    rw [hbyte] at hmem
    obtain rfl : '.' = c := List.mem_singleton.mp hmem
    rw [hstop] at h
    cases h

/-- What begins with a kept character that is no percent sign began with it before. -/
theorem encode_eq_cons_iff {c : Char} {text written : List Char}
    (hkept : Percent.keeps .path c = true) (hne : c ≠ '%') :
    Percent.encode .path text = c :: written ↔
      ∃ rest, text = c :: rest ∧ written = Percent.encode .path rest := by
  cases text with
  | nil => exact ⟨nofun, fun ⟨_, h, _⟩ => nomatch h⟩
  | cons d text =>
    rw [Percent.encode_cons]
    cases hd : Percent.keeps .path d with
    | true =>
      rw [Percent.encodeChar, if_pos hd, List.singleton_append, List.cons.injEq]
      constructor
      · rintro ⟨rfl, rfl⟩
        exact ⟨text, rfl, rfl⟩
      · rintro ⟨rest, heq, rfl⟩
        obtain ⟨rfl, rfl⟩ := List.cons.inj heq
        exact ⟨rfl, rfl⟩
    | false =>
      obtain ⟨high, low, rest, hwritten, -⟩ := exists_encodeChar_of_not_keeps (by decide) hd
      rw [hwritten]
      constructor
      · intro heq
        exact absurd (List.cons.inj heq).1.symm hne
      · rintro ⟨rest, heq, -⟩
        rw [(List.cons.inj heq).1, hkept] at hd
        cases hd

/-- What begins with a full stop written by number began with it before. -/
theorem exists_of_encode_eq_stop {e : Char} (he : e = 'e' ∨ e = 'E') {text written : List Char}
    (h : Percent.encode .path text = '%' :: '2' :: e :: written) :
    ∃ rest, text = '%' :: '2' :: e :: rest ∧ written = Percent.encode .path rest := by
  cases text with
  | nil => cases h
  | cons d text =>
    rw [Percent.encode_cons] at h
    cases hd : Percent.keeps .path d with
    | true =>
      rw [Percent.encodeChar, if_pos hd, List.singleton_append] at h
      obtain ⟨rfl, htwo⟩ := List.cons.inj h
      obtain ⟨more, rfl, hmore⟩ := (encode_eq_cons_iff (by decide) (by decide)).mp htwo
      have hkept : Percent.keeps .path e = true ∧ e ≠ '%' := by
        rcases he with rfl | rfl <;> decide
      obtain ⟨rest, rfl, rfl⟩ := (encode_eq_cons_iff hkept.1 hkept.2).mp hmore.symm
      exact ⟨rest, rfl, rfl⟩
    | false =>
      obtain ⟨high, low, rest, hwritten, hlower, hupper⟩ :=
        exists_encodeChar_of_not_keeps (by decide) hd
      simp only [hwritten, List.cons_append, List.cons.injEq, true_and] at h
      obtain ⟨hhigh, rfl, -⟩ := h
      exact he.elim (fun he => absurd he hlower) fun he => absurd ⟨hhigh, he⟩ hupper

/-- Percent encoding neither makes nor hides a full stop. -/
theorem skipStop_encode (text : List Char) :
    skipStop (Percent.encode .path text) = (skipStop text).map (Percent.encode .path) := by
  refine Option.ext fun written => ?_
  rw [skipStop_eq_some_iff, Option.map_eq_some_iff]
  constructor
  · rintro (h | h | h)
    · obtain ⟨rest, rfl, rfl⟩ := (encode_eq_cons_iff (by decide) (by decide)).mp h
      exact ⟨rest, rfl, rfl⟩
    · obtain ⟨rest, rfl, rfl⟩ := exists_of_encode_eq_stop (.inl rfl) h
      exact ⟨rest, rfl, rfl⟩
    · obtain ⟨rest, rfl, rfl⟩ := exists_of_encode_eq_stop (.inr rfl) h
      exact ⟨rest, rfl, rfl⟩
  · rintro ⟨rest, h, rfl⟩
    rcases skipStop_eq_some_iff.mp h with rfl | rfl | rfl
    · exact .inl rfl
    · exact .inr (.inl rfl)
    · exact .inr (.inr rfl)

theorem encode_eq_nil_iff {text : List Char} : Percent.encode .path text = [] ↔ text = [] := by
  refine ⟨fun h => ?_, fun h => by rw [h]; rfl⟩
  cases text with
  | nil => rfl
  | cons c text =>
    rw [Percent.encode_cons, List.append_eq_nil_iff] at h
    cases hc : Percent.keeps .path c with
    | true =>
      rw [Percent.encodeChar, if_pos hc] at h
      cases h.1
    | false =>
      obtain ⟨high, low, rest, hwritten, -⟩ := exists_encodeChar_of_not_keeps (by decide) hc
      rw [hwritten] at h
      cases h.1

theorem isHere_iff {text : List Char} : isHere text = true ↔ skipStop text = some [] := by
  rw [isHere, beq_iff_eq]

theorem isUp_iff {text : List Char} :
    isUp text = true ↔ ∃ rest, skipStop text = some rest ∧ isHere rest = true := by
  simp only [isUp, beq_iff_eq, Option.bind_eq_some_iff, isHere_iff]

theorem isHere_encode (text : List Char) :
    isHere (Percent.encode .path text) = isHere text := by
  rw [Bool.eq_iff_iff, isHere_iff, isHere_iff, skipStop_encode, Option.map_eq_some_iff]
  simp only [encode_eq_nil_iff, exists_eq_right]

theorem isUp_encode (text : List Char) : isUp (Percent.encode .path text) = isUp text := by
  rw [Bool.eq_iff_iff, isUp_iff, isUp_iff, skipStop_encode]
  simp only [Option.map_eq_some_iff]
  constructor
  · rintro ⟨_, ⟨rest, h, rfl⟩, hhere⟩
    exact ⟨rest, h, (isHere_encode rest).symm.trans hhere⟩
  · rintro ⟨rest, h, hhere⟩
    exact ⟨_, ⟨rest, h, rfl⟩, (isHere_encode rest).trans hhere⟩

end Url

end Webrev
