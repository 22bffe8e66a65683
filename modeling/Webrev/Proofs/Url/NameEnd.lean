import Mathlib.Data.List.DropRight
import Webrev.Url.Percent

/-!
# The name at the end of a text

The name of a document, such as `index.html`, consists of small letters and full stops. Every part
of a URL keeps these characters, and none of them ends a part. So what becomes of a name when a text
is taken apart into a URL and written again can be said without the parts: two texts end alike when
the same name stands at their ends, and when the second one ends in a colon if the first one does.
The colon counts because a port number that is left out takes its colon with it.

## Main definitions

* `Url.isNameChar` : the characters of a name.
* `Url.nameEnd` : the longest name at the end of a text.
* `Url.EndAlike` : two texts with the same end.
* `Url.Closed` : a text that ends in a slash or a colon.
* `Url.Ending` : how what is written of a URL ends, after the text that was read.

## Main results

* `Url.suffix_iff_nameEnd` : a name at the end of a text is one at the end of the longest one there.
* `Url.endAlike_of_mark`, `Url.endAlike_append_mark` : what stands up to a mark does not count.
* `Url.endAlike_encode` : percent encoding changes no end.
* `Url.Ending.suffix_iff` : which names are at the end of what is written.
-/

namespace Webrev.Url

/-- A character of a name: a small letter or a full stop. -/
def isNameChar (c : Char) : Bool := c.isLower || c == '.'

theorem isNameChar_iff {c : Char} :
    isNameChar c = true ↔ (97 ≤ c.toNat ∧ c.toNat ≤ 122) ∨ c = '.' := by
  have hlower : c.isLower = true ↔ 97 ≤ c.toNat ∧ c.toNat ≤ 122 :=
    Bool.and_eq_true_iff.trans (and_congr decide_eq_true_iff decide_eq_true_iff)
  rw [isNameChar, Bool.or_eq_true, beq_iff_eq, hlower]

/-- The longest name at the end of a text. -/
def nameEnd (text : List Char) : List Char := text.rtakeWhile isNameChar

@[simp] theorem nameEnd_nil : nameEnd [] = [] := rfl

theorem nameEnd_append_of_name {c : Char} (hc : isNameChar c = true) (text : List Char) :
    nameEnd (text ++ [c]) = nameEnd text ++ [c] := List.rtakeWhile_concat_pos _ _ _ hc

theorem nameEnd_append_of_mark {mark : Char} (hmark : isNameChar mark = false)
    (text : List Char) : nameEnd (text ++ [mark]) = [] :=
  List.rtakeWhile_concat_neg _ _ _ (by simp [hmark])

/-- A name is at the end of a text when it is at the end of the longest one there. -/
theorem suffix_iff_nameEnd {name text : List Char} (hname : ∀ c ∈ name, isNameChar c = true) :
    name <:+ text ↔ name <:+ nameEnd text := by
  constructor
  · rintro ⟨front, rfl⟩
    induction name using List.reverseRecOn with
    | nil => exact List.nil_suffix
    | append_singleton name c ih =>
      obtain ⟨more, hmore⟩ := ih fun d hd => hname d (List.mem_append_left _ hd)
      rw [← List.append_assoc, nameEnd_append_of_name (hname c (by simp))]
      exact ⟨more, by rw [← List.append_assoc, hmore]⟩
  · intro h
    exact h.trans (List.rtakeWhile_suffix isNameChar text)

/-- What stands up to a mark is not part of the name. -/
theorem nameEnd_append_cons {mark : Char} (hmark : isNameChar mark = false)
    (front back : List Char) : nameEnd (front ++ mark :: back) = nameEnd back := by
  induction back using List.reverseRecOn with
  | nil => exact nameEnd_append_of_mark hmark front
  | append_singleton back c ih =>
    rw [← List.cons_append, ← List.append_assoc]
    cases hc : isNameChar c with
    | false => rw [nameEnd_append_of_mark hc, nameEnd_append_of_mark hc]
    | true => rw [nameEnd_append_of_name hc, nameEnd_append_of_name hc, ih]

/-! ### Texts that end alike -/

/-- Two texts have the same name at their ends, and the second one ends in a colon if the first one
does. -/
structure EndAlike (first second : List Char) : Prop where
  name : nameEnd second = nameEnd first
  colon : first.getLast? = some ':' → second.getLast? = some ':'

theorem EndAlike.refl (text : List Char) : EndAlike text text := ⟨rfl, id⟩

theorem EndAlike.trans {first second third : List Char} (h : EndAlike first second)
    (h' : EndAlike second third) : EndAlike first third :=
  ⟨h'.name.trans h.name, h'.colon ∘ h.colon⟩

theorem getLast?_append_cons {front back : List Char} {mark : Char} (hback : back ≠ []) :
    (front ++ mark :: back).getLast? = back.getLast? := by
  rw [List.getLast?_append_of_ne_nil _ (List.cons_ne_nil _ _), List.getLast?_cons_of_ne_nil hback]

/-- What stands up to a mark does not count, unless nothing follows it. -/
theorem endAlike_of_mark {mark : Char} (hmark : isNameChar mark = false) (front : List Char)
    {back : List Char} (hback : back ≠ []) : EndAlike (front ++ mark :: back) back where
  name := (nameEnd_append_cons hmark front back).symm
  colon h := getLast?_append_cons hback ▸ h

/-- A mark and anything before it may stand in front of a text. -/
theorem endAlike_append_mark {mark : Char} (hmark : isNameChar mark = false)
    (front back : List Char) : EndAlike back (front ++ mark :: back) where
  name := nameEnd_append_cons hmark front back
  colon h := by
    have hback : back ≠ [] := by
      rintro rfl
      cases h
    rw [getLast?_append_cons hback, h]

/-- Anything may stand in front of a text with a mark. -/
theorem endAlike_append {mark : Char} (hmark : isNameChar mark = false) (front : List Char)
    {text : List Char} (hmem : mark ∈ text) : EndAlike text (front ++ text) where
  name := by
    obtain ⟨before, back, rfl⟩ := List.append_of_mem hmem
    rw [← List.append_assoc, nameEnd_append_cons hmark, nameEnd_append_cons hmark]
  colon h := by rw [List.getLast?_append_of_ne_nil _ (List.ne_nil_of_mem hmem), h]

/-- What stands before a text with a mark does not count. -/
theorem endAlike_of_append {mark : Char} (hmark : isNameChar mark = false) (front : List Char)
    {text : List Char} (hmem : mark ∈ text) : EndAlike (front ++ text) text := by
  have h := endAlike_append hmark front hmem
  refine ⟨h.name.symm, fun hcolon => ?_⟩
  rwa [List.getLast?_append_of_ne_nil _ (List.ne_nil_of_mem hmem)] at hcolon

/-! ### Percent encoding -/

/-- A part of a URL keeps the characters of names and the colon. -/
def KeepsNames (reserved : Percent.Reserved) : Prop :=
  ∀ c ∈ reserved, isNameChar c = false ∧ c ≠ ':'

instance (reserved : Percent.Reserved) : Decidable (KeepsNames reserved) :=
  List.decidableBAll _ reserved

theorem KeepsNames.keeps {reserved : Percent.Reserved} (h : KeepsNames reserved) {c : Char}
    (hc : isNameChar c = true ∨ c = ':') : Percent.keeps reserved c = true := by
  have hout : c ∉ reserved := fun hmem =>
    hc.elim (fun hname => by rw [(h c hmem).1] at hname; cases hname) (h c hmem).2
  have hrange : 0x20 ≤ c.toNat ∧ c.toNat < 0x7F := by
    rcases hc with hname | rfl
    · obtain ⟨hlow, hhigh⟩ | rfl := isNameChar_iff.mp hname
      · omega
      · decide
    · decide
  simp [Percent.keeps, hrange, hout]

/-- An octet written by number ends in a digit or a capital letter. -/
theorem exists_encodeOctet_eq (b : UInt8) :
    ∃ front mark, Percent.encodeOctet b = front ++ [mark] ∧ isNameChar mark = false := by
  refine ⟨['%', Numeral.upperHexDigit (b.toNat / 16)], _, rfl, ?_⟩
  have hdigits : ∀ n < 16, isNameChar (Numeral.upperHexDigit n) = false := by decide
  exact hdigits _ (Nat.mod_lt _ (by decide))

/-- A character that is not kept is written with a mark at the end. -/
theorem exists_encodeChar_eq {reserved : Percent.Reserved} {c : Char}
    (hc : Percent.keeps reserved c = false) :
    ∃ front mark, Percent.encodeChar reserved c = front ++ [mark] ∧ isNameChar mark = false := by
  have hoctets : Utf8.encode [c] ≠ [] := by simp [Utf8.encode]
  obtain ⟨octets, b, hb⟩ := (List.eq_nil_or_concat' _).resolve_left hoctets
  obtain ⟨front, mark, hmark, hname⟩ := exists_encodeOctet_eq b
  refine ⟨octets.flatMap Percent.encodeOctet ++ front, mark, ?_, hname⟩
  rw [Percent.encodeChar, if_neg (by simp [hc]), hb, List.flatMap_append, List.flatMap_singleton,
    hmark, List.append_assoc]

/-- Percent encoding changes no end of a text. -/
theorem endAlike_encode {reserved : Percent.Reserved} (h : KeepsNames reserved)
    (text : List Char) : EndAlike text (Percent.encode reserved text) := by
  induction text using List.reverseRecOn with
  | nil => exact .refl []
  | append_singleton text c ih =>
    have hsnoc : Percent.encode reserved (text ++ [c]) =
        Percent.encode reserved text ++ Percent.encodeChar reserved c := by
      rw [Percent.encode_append]
      simp [Percent.encode]
    rw [hsnoc]
    cases hkept : Percent.keeps reserved c with
    | true =>
      rw [Percent.encodeChar, if_pos hkept]
      refine ⟨?_, by simp⟩
      cases hc : isNameChar c with
      | true => rw [nameEnd_append_of_name hc, nameEnd_append_of_name hc, ih.name]
      | false => rw [nameEnd_append_of_mark hc, nameEnd_append_of_mark hc]
    | false =>
      have hc : isNameChar c = false ∧ c ≠ ':' := by
        constructor
        · by_contra hname
          rw [h.keeps (.inl (by simpa using hname))] at hkept
          cases hkept
        · rintro rfl
          rw [h.keeps (.inr rfl)] at hkept
          cases hkept
      obtain ⟨front, mark, hmark, hname⟩ := exists_encodeChar_eq hkept
      refine ⟨?_, fun hcolon => absurd hcolon (by simp [hc.2])⟩
      rw [hmark, ← List.append_assoc, nameEnd_append_of_mark hname, nameEnd_append_of_mark hc.1]

/-- A part that follows a mark ends as it did before it was encoded. -/
theorem endAlike_encode_of_mark {reserved : Percent.Reserved} (h : KeepsNames reserved)
    {mark : Char} (hmark : isNameChar mark = false) (hcolon : mark ≠ ':') (front text : List Char)
    (written : List Char) :
    EndAlike (front ++ mark :: text) (written ++ mark :: Percent.encode reserved text) := by
  cases text with
  | nil =>
    refine ⟨?_, fun hlast => absurd hlast (by simp [hcolon])⟩
    rw [nameEnd_append_cons hmark, nameEnd_append_cons hmark]
    rfl
  | cons c text =>
    exact ((endAlike_of_mark hmark front (List.cons_ne_nil c text)).trans
      (endAlike_encode h _)).trans (endAlike_append_mark hmark written _)

/-! ### Endings -/

/-- A text that ends in a slash or a colon. -/
def Closed (text : List Char) : Prop :=
  text.getLast? = some '/' ∨ text.getLast? = some ':'

theorem Closed.ne_nil {text : List Char} (h : Closed text) : text ≠ [] := by
  rintro rfl
  rcases h with h | h <;> cases h

theorem Closed.append {text : List Char} (h : Closed text) (front : List Char) :
    Closed (front ++ text) := by
  rwa [Closed, List.getLast?_append_of_ne_nil _ h.ne_nil]

/-- How what is written ends, after a text that was read: closed, like the text, or like what stands
before the colon at its end. -/
inductive Ending (text written : List Char) : Prop
  | closed (h : Closed written)
  | alike (h : EndAlike text written)
  | port (front : List Char) (h : text = front ++ [':']) (hname : nameEnd written = nameEnd front)

/-- No name is at the end of a closed text. -/
theorem Closed.not_suffix {name text : List Char} (hname : ∀ c ∈ name, isNameChar c = true)
    (hne : name ≠ []) (h : Closed text) : ¬name <:+ text := by
  rintro ⟨front, rfl⟩
  obtain ⟨start, c, rfl⟩ := (List.eq_nil_or_concat' name).resolve_left hne
  have hc := hname c (by simp)
  rw [Closed, ← List.append_assoc, List.getLast?_concat, Option.some_inj, Option.some_inj] at h
  rcases h with rfl | rfl <;> exact absurd hc (by decide)

/-- What is written ends in a name when the text ends in it, with or without a colon after it, and
nothing closes what is written. -/
theorem Ending.suffix_iff {name text written : List Char}
    (hname : ∀ c ∈ name, isNameChar c = true) (hne : name ≠ []) (h : Ending text written) :
    name <:+ written ↔ (name <:+ text ∨ name ++ [':'] <:+ text) ∧ ¬Closed written := by
  have hopen : name <:+ written → ¬Closed written :=
    fun hsuffix hclosed => hclosed.not_suffix hname hne hsuffix
  cases h with
  | closed hclosed =>
    exact ⟨fun hsuffix => absurd hclosed (hopen hsuffix), fun h => absurd hclosed h.2⟩
  | alike halike =>
    have hsame : name <:+ written ↔ name <:+ text := by
      rw [suffix_iff_nameEnd hname, halike.name, ← suffix_iff_nameEnd hname]
    refine ⟨fun hsuffix => ⟨.inl (hsame.mp hsuffix), hopen hsuffix⟩, ?_⟩
    rintro ⟨hsuffix | ⟨front, rfl⟩, hnot⟩
    · exact hsame.mpr hsuffix
    · exact absurd (.inr (halike.colon (by simp))) hnot
  | port front htext hend =>
    subst htext
    have hsame : name <:+ written ↔ name ++ [':'] <:+ front ++ [':'] := by
      rw [suffix_iff_nameEnd hname, hend, ← suffix_iff_nameEnd hname, List.suffix_append_self_iff]
    refine ⟨fun hsuffix => ⟨.inr (hsame.mp hsuffix), hopen hsuffix⟩, ?_⟩
    rintro ⟨hsuffix | hsuffix, -⟩
    · exact absurd hsuffix (Closed.not_suffix hname hne (.inr (by simp)))
    · exact hsame.mpr hsuffix

end Webrev.Url
