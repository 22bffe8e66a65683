import Webrev.Location
import Webrev.Proofs.Url.Ending

/-!
# Sanitized locations

The name of the document is cut from the end of a location as it is written, before the location is
read as a URL. Reading it drops blanks, controls, line ends and an empty port number, so the name of
a document can come to the end of the URL afterwards. Otherwise a URL that is sanitized has no
document name at its end, and sanitizing it again changes nothing.

## Main results

* `Location.suffix_text_iff` : when the name of the document is at the end of a sanitized URL.
* `Location.sanitize_text_iff` : when sanitizing a sanitized URL changes nothing.
-/

namespace Webrev.Location

theorem isNameChar_of_mem_indexDocument : ∀ c ∈ indexDocument, Url.isNameChar c = true :=
  List.all_eq_true.mp (by decide)

/-- A document name stays at the end of a text that is not cut there. -/
theorem withoutDocument_of_not_suffix {text : List Char} (h : ¬indexDocument <:+ text) :
    withoutDocument text = text := by
  rw [withoutDocument, if_neg (by simpa using h)]

theorem parse_of_sanitize {s : String} {url : Url} (h : sanitize s = .ok url) :
    Url.parse (String.ofList (withoutDocument s.toList)) = .ok url := by
  unfold sanitize at h
  cases hparse : Url.parse (String.ofList (withoutDocument s.toList)) with
  | error reason =>
    rw [hparse] at h
    cases h
  | ok read =>
    rw [hparse] at h
    rw [Except.ok.inj h]

theorem sanitize_of_not_suffix {s : String} {url : Url} (h : ¬indexDocument <:+ s.toList)
    (hparse : Url.parse s = .ok url) : sanitize s = .ok url := by
  rw [sanitize, withoutDocument_of_not_suffix h, String.ofList_toList, hparse]
  rfl

/-- The name of a document is at the end of a sanitized URL when it is at the end of what counts of
the location without the name that was cut, be it with an empty port number, and the URL is not
closed by a slash or a colon. -/
theorem suffix_text_iff {s : String} {url : Url} (h : sanitize s = .ok url) :
    indexDocument <:+ url.text.toList ↔
      (indexDocument <:+ Url.clean (withoutDocument s.toList) ∨
        indexDocument ++ [':'] <:+ Url.clean (withoutDocument s.toList)) ∧
      ¬Url.Closed url.text.toList := by
  have hending := Url.parse_ending (parse_of_sanitize h)
  rw [String.toList_ofList] at hending
  exact hending.suffix_iff isNameChar_of_mem_indexDocument (by decide)

/-- Sanitizing is a projection at a location, onto a URL without a document name, exactly when what
counts of the location without the name that was cut does not end in that name again, be it with an
empty port number, or the URL is closed by a slash or a colon. That the text of the URL is read back
as the URL is all that is asked of the reader. -/
theorem sanitize_text_iff {s : String} {url : Url} (h : sanitize s = .ok url)
    (hread : Url.parse url.text = .ok url) :
    (¬indexDocument <:+ url.text.toList ∧ sanitize url.text = .ok url) ↔
      (indexDocument <:+ Url.clean (withoutDocument s.toList) ∨
        indexDocument ++ [':'] <:+ Url.clean (withoutDocument s.toList)) →
      Url.Closed url.text.toList := by
  have hsuffix := suffix_text_iff h
  constructor
  · rintro ⟨hnot, -⟩ hcounted
    by_contra hopen
    exact hnot (hsuffix.mpr ⟨hcounted, hopen⟩)
  · intro hclosed
    have hnot : ¬indexDocument <:+ url.text.toList := fun hmem =>
      (hsuffix.mp hmem).2 (hclosed (hsuffix.mp hmem).1)
    exact ⟨hnot, sanitize_of_not_suffix hnot hread⟩

/-- A URL of the host `h`. -/
def atHost (path : String) : Url := ⟨"http", some ⟨"", "", .domain "h", none⟩, path, none, none⟩

theorem sanitize_text_of_index :
    sanitize "http://h/w/index.html" = .ok (atHost "/w/") ∧
      Url.parse (atHost "/w/").text = .ok (atHost "/w/") ∧
      ¬indexDocument <:+ (atHost "/w/").text.toList ∧
      sanitize (atHost "/w/").text = .ok (atHost "/w/") := by
  have h : sanitize "http://h/w/index.html" = .ok (atHost "/w/") := by decide +kernel
  have hread : Url.parse (atHost "/w/").text = .ok (atHost "/w/") := by decide +kernel
  exact ⟨h, hread, (sanitize_text_iff h hread).mpr fun _ => .inl (by decide +kernel)⟩

/-- Of a name that is written twice one stays. -/
theorem exists_sanitize_text_ne :
    ∃ url, sanitize "http://h/index.htmlindex.html" = .ok url ∧ Url.parse url.text = .ok url ∧
      indexDocument <:+ url.text.toList ∧ sanitize url.text ≠ .ok url :=
  ⟨atHost "/index.html", by decide +kernel⟩

end Webrev.Location
