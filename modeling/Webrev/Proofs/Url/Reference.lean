import Webrev.Location
import Webrev.Proofs.Url.Characters

/-!
# URI references read again

The characters of a reference are checked as it is written, before it is read as a URL. What is read
keeps to those characters in its parts, so that a URL passes the check that its text passed. The
name of its host is the exception: it may be written by number or in another script, and is a
quotation mark or a brace only afterwards.

## Main definitions

* `UriReference.strayMarks` : the marks of host names that a reference does not have.

## Main results

* `UriReference.forall_isUriChar_text_iff` : which URLs pass the check as they are written.
* `UriReference.parse_text_iff` : which references are read back from their text.
-/

namespace Webrev.UriReference

/-- The marks that a host name in ASCII may have and a URI reference may not. -/
def strayMarks : List Char := ['"', '\x60', '\x7b', '\x7d']

theorem admits_isUriChar : Url.Admits (isUriChar · = true) Url.marks where
  alphanum h := by rw [isUriChar, h, Bool.true_or, Bool.true_or]
  mark := List.all_eq_true.mp (by decide)

theorem isUriChar_eq_false_of_mem_strayMarks : ∀ c ∈ strayMarks, isUriChar c = false := by
  have hall : ∀ c ∈ strayMarks, (!isUriChar c) = true := List.all_eq_true.mp (by decide)
  simpa using hall

/-- Of the characters of host names only the stray marks are no characters of references. -/
theorem isUriChar_of_isNameChar {c : Char} (h : Idna.isNameChar c = true)
    (hno : c ∉ strayMarks) : isUriChar c = true := by
  have hall : ∀ n < 0x80, Idna.isNameChar (Char.ofNat n) = true →
      Char.ofNat n ∉ strayMarks → isUriChar (Char.ofNat n) = true := by decide +kernel
  have hascii : c.toNat < 0x80 := of_decide_eq_true (Bool.and_eq_true_iff.mp h).1
  exact Url.forall_of_ascii
    (P := fun c => Idna.isNameChar c = true → c ∉ strayMarks → isUriChar c = true) hall hascii h hno

/-- What is read has only characters of references, and a URL is read by the reader of URLs. -/
theorem parse_absolute_iff {text : String} {url : Url} :
    parse text = .ok (.absolute url) ↔
      (∀ c ∈ text.toList, isUriChar c = true) ∧ Url.parse text = .ok url := by
  have hcheck : (text.toList.find? fun c => !isUriChar c) = none ↔
      ∀ c ∈ text.toList, isUriChar c = true := by simp
  unfold parse
  constructor
  · intro h
    split at h
    · cases h
    next hnone =>
      refine ⟨hcheck.mp hnone, ?_⟩
      split at h
      next hread =>
        obtain rfl := UriReference.absolute.inj (Except.ok.inj h)
        exact hread
      · cases h
      · cases h
  · rintro ⟨hall, hread⟩
    rw [hcheck.mpr hall, hread]

theorem eq_of_parse_relative {raw text : String} (h : parse raw = .ok (.relative text)) :
    text = raw := by
  unfold parse at h
  split at h
  · cases h
  split at h
  · cases h
  · exact (UriReference.relative.inj (Except.ok.inj h)).symm
  · cases h

/-- A URL that was read from a reference passes the check as it is written, unless a stray mark is
in the name of its host. -/
theorem forall_isUriChar_text_iff {raw : String} {url : Url}
    (h : parse raw = .ok (.absolute url)) :
    (∀ c ∈ url.text.toList, isUriChar c = true) ↔
      ∀ host ∈ url.hostText, ∀ c ∈ host.toList, c ∉ strayMarks := by
  obtain ⟨hall, hread⟩ := parse_absolute_iff.mp h
  have hwithin : url.Within (isUriChar · = true) :=
    Url.parse_within admits_isUriChar (fun c hc _ => hall c hc) hread
  constructor
  · intro hpass host hhost c hc hstray
    have hchar := hpass c (Url.mem_text_of_mem_hostText hhost hc)
    rw [isUriChar_eq_false_of_mem_strayMarks c hstray] at hchar
    cases hchar
  · intro hno c hc
    rcases hwithin.text admits_isUriChar c hc with hchar | ⟨hname, host, hhost, hc⟩
    · exact hchar
    · exact isUriChar_of_isNameChar hname (hno host hhost c hc)

/-- A relative reference is kept as it is written and read back. A URL that the reader of URLs reads
back from its text is read back as a reference exactly when no stray mark is in the name of its
host. -/
theorem parse_text_iff {raw : String} {reference : UriReference} (h : parse raw = .ok reference)
    (hread : ∀ url, reference = .absolute url → Url.parse url.text = .ok url) :
    (∀ text, reference = .relative text → text = raw) ∧
      (parse reference.text = .ok reference ↔
        ∀ url, reference = .absolute url →
          ∀ host ∈ url.hostText, ∀ c ∈ host.toList, c ∉ strayMarks) := by
  cases reference with
  | relative text =>
    obtain rfl := eq_of_parse_relative h
    exact ⟨fun _ heq => (UriReference.relative.inj heq).symm, fun _ => nofun, fun _ => h⟩
  | absolute url =>
    refine ⟨nofun, ?_⟩
    have hback : parse url.text = .ok (.absolute url) ↔ ∀ c ∈ url.text.toList, isUriChar c = true :=
      parse_absolute_iff.trans (and_iff_left (hread url rfl))
    refine hback.trans ((forall_isUriChar_text_iff h).trans ?_)
    constructor
    · rintro hno _ ⟨⟩
      exact hno
    · exact fun hno => hno url rfl

/-- A URL of the host `name`. -/
def atHost (name path : String) : Url :=
  ⟨"http", some ⟨"", "", .domain name, none⟩, path, none, none⟩

theorem parse_text_of_escapes :
    parse "HTTP://Example.ORG:80/a/../b%22" = .ok (.absolute (atHost "example.org" "/b%22")) ∧
      parse "http://example.org/b%22" = .ok (.absolute (atHost "example.org" "/b%22")) := by
  have h : parse "HTTP://Example.ORG:80/a/../b%22" =
      .ok (.absolute (atHost "example.org" "/b%22")) := by decide +kernel
  have hread : Url.parse (atHost "example.org" "/b%22").text =
      .ok (atHost "example.org" "/b%22") := by decide +kernel
  have hno : ∀ c ∈ "example.org".toList, c ∉ strayMarks := by simp [strayMarks]
  have hiff := (parse_text_iff h (by rintro _ ⟨⟩; exact hread)).2
  refine ⟨h, hiff.mpr ?_⟩
  rintro _ ⟨⟩ host ⟨⟩
  exact hno

/-- A quotation mark that is written by number in the name of a host is refused afterwards. -/
theorem exists_parse_text_ne :
    ∃ url, parse "http://a%22b/" = .ok (.absolute url) ∧ url.text = "http://a\"b/" ∧
      Url.parse url.text = .ok url ∧ parse url.text = .error (.illegalCharacter '"') :=
  ⟨atHost "a\"b" "/", by decide +kernel⟩

end Webrev.UriReference
