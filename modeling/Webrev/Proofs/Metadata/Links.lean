import Webrev.Metadata.Link
import Webrev.Proofs.Metadata.Fields
import Webrev.Proofs.Text.Places
import Mathlib.Order.Bounds.Basic

/-!
# Which link of a cell counts

The cell of a file may hold several links, and the marks of a link may stand in its address and in
its text as well. The text that is read ends at the last place where it can end. It begins after the
last mark before that place that ends an address, and some place before that mark must begin a link.
The address is never looked at: it only has to be there.

A link that was written is therefore read the same whatever its address is, even when the address
holds a link to another file. Only the text decides which file is downloaded.

## Main definitions

* `Metadata.LinkAt` : the places at which the link of a cell begins, its address ends and its text
  ends.
* `Metadata.anchor` : the link with an address and a text.
* `Metadata.LinkedFile` : the files that a page links to.

## Main results

* `Metadata.LinkAt.unique` : a cell has one such link.
* `Metadata.linkText?_eq_some_iff` : the text that is read is that of the link.
* `Metadata.linkAt_anchor` : the places in a link that was written.
* `Metadata.uri_of_link` : where a file is.
-/

namespace Webrev.Metadata

open Scan

/-- The link of a cell begins at `a`, its address ends at `b`, and its text goes on from there up to
the ending of the file's name, which stands at `e`: the last place at which the ending stands before
a closing tag, the last one before it at which an address ends, and the first one before that at
which a link begins. -/
structure LinkAt (ending cell : List Char) (a b e : Nat) : Prop where
  ending_last : IsGreatest {e | StandsAt (ending ++ "</a>".toList) cell e} e
  text_last : IsGreatest {b | StandsAt "\">".toList cell b ∧ b + 2 ≤ e} b
  tag_first : IsLeast {a | StandsAt "<a href=\"".toList cell a ∧ a + 9 ≤ b} a

/-! ### The text of a link -/

section LinkText

variable {ending cell text : List Char} {a b e : Nat}

/-- Reads the text of a link, up to the ending of the file's name. -/
def nameReader (ending : List Char) (rest : List Char) : Option (List Char × List Char) :=
  longest (expect (ending ++ "</a>".toList)) rest

/-- Reads what ends the address of a link, and after it the text. -/
def textReader (ending : List Char) (rest : List Char) : Option (List Char) :=
  (expect "\">".toList rest).bind fun rest => (nameReader ending rest).map Prod.fst

theorem linkAtFront?_eq (ending text : List Char) :
    linkAtFront? ending text = (expect "<a href=\"".toList text).bind fun rest =>
      (longest (textReader ending) rest).map fun (_, name) => name ++ ending := rfl

/-- A text is read at a mark that ends an address when its ending stands behind. -/
theorem textReader_ne_none (hline : '\n' ∉ cell) (hb : StandsAt "\">".toList cell b)
    (he : StandsAt (ending ++ "</a>".toList) cell e) (hbe : b + 2 ≤ e) :
    textReader ending (cell.drop b) ≠ none := by
  rw [textReader, expect_drop hb, Option.bind_some, Ne, Option.map_eq_none_iff]
  exact longest_drop_ne_none hline hbe (expect_drop_ne_none he)

/-- A link is read where one begins when a mark and the ending of its text stand behind. -/
theorem linkAtFront?_ne_none (hline : '\n' ∉ cell) (ha : StandsAt "<a href=\"".toList cell a)
    (hb : StandsAt "\">".toList cell b) (he : StandsAt (ending ++ "</a>".toList) cell e)
    (hab : a + 9 ≤ b) (hbe : b + 2 ≤ e) : linkAtFront? ending (cell.drop a) ≠ none := by
  rw [linkAtFront?_eq, expect_drop ha, Option.bind_some, Ne, Option.map_eq_none_iff]
  exact longest_drop_ne_none hline hab (textReader_ne_none hline hb he hbe)

/-- The text that is read stands in the link of the cell. The address goes on for as long as a text
can be read behind it, and the text goes on for as long as its ending stands behind it; the ending
does not depend on where the text began, so it is the last one of the whole cell. -/
theorem exists_linkAt (hline : '\n' ∉ cell) (h : linkText? ending cell = some text) :
    ∃ a b e, LinkAt ending cell a b e ∧ text = slice cell (b + 2) e ++ ending := by
  obtain ⟨a, hread, hfirst⟩ := leftmost_eq_some_at h
  rw [linkAtFront?_eq] at hread
  obtain ⟨rest, htag, hread⟩ := Option.bind_eq_some_iff.mp hread
  obtain ⟨ha, rfl⟩ := expect_drop_eq_some_iff.mp htag
  obtain ⟨⟨address, name⟩, haddress, rfl⟩ := Option.map_eq_some_iff.mp hread
  obtain ⟨b, hab, -, hread, hb_max⟩ := longest_drop hline haddress
  replace hab : a + 9 ≤ b := hab
  obtain ⟨rest, hquote, hread⟩ := Option.bind_eq_some_iff.mp hread
  obtain ⟨hb, rfl⟩ := expect_drop_eq_some_iff.mp hquote
  obtain ⟨⟨name, back⟩, hname, rfl⟩ := Option.map_eq_some_iff.mp hread
  obtain ⟨e, hbe, rfl, hread, he_max⟩ := longest_drop hline hname
  replace hbe : b + 2 ≤ e := hbe
  obtain ⟨he, -⟩ := expect_drop_eq_some_iff.mp hread
  have hlast : ∀ e', StandsAt (ending ++ "</a>".toList) cell e' → e' ≤ e := fun e' he' => by
    by_contra hlt
    have hlength := he'.add_length_le (by simp)
    exact hlt (he_max e' (show b + 2 ≤ e' by omega) (by omega) (expect_drop_ne_none he'))
  refine ⟨a, b, e, ⟨⟨he, hlast⟩, ⟨⟨hb, hbe⟩, ?_⟩, ⟨⟨ha, hab⟩, ?_⟩⟩, rfl⟩
  · rintro b' ⟨hb', hbe'⟩
    by_contra hlt
    have hlength := hb'.add_length_le (by simp)
    exact hlt (hb_max b' (show a + 9 ≤ b' by omega) (by omega)
      (textReader_ne_none hline hb' he hbe'))
  · rintro a' ⟨ha', hab'⟩
    have hlength := ha'.add_length_le (by simp)
    exact hfirst a' (by omega) (linkAtFront?_ne_none hline ha' hb he hab' hbe)

/-- A cell has one link that counts. -/
theorem LinkAt.unique {a' b' e' : Nat} (h : LinkAt ending cell a b e)
    (h' : LinkAt ending cell a' b' e') : a = a' ∧ b = b' ∧ e = e' := by
  obtain rfl := h.ending_last.unique h'.ending_last
  obtain rfl := h.text_last.unique h'.text_last
  exact ⟨h.tag_first.unique h'.tag_first, rfl, rfl⟩

/-- The text of a link is followed by the ending of the file's name. -/
theorem LinkAt.slice_eq (h : LinkAt ending cell a b e) :
    slice cell (b + 2) (e + ending.length) = slice cell (b + 2) e ++ ending := by
  obtain ⟨back, hback⟩ := h.ending_last.1
  have hbe : b + 2 ≤ e := h.text_last.1.2
  have hlength : e + ending.length - (b + 2) = e - (b + 2) + ending.length := by omega
  rw [slice, slice, hlength, List.take_add, List.drop_drop, Nat.add_sub_cancel' hbe, ← hback,
    List.append_assoc, List.take_left]

/-- A text is read exactly when there is a link, and it is that of the link. -/
theorem linkText?_eq_some_iff (hline : '\n' ∉ cell) :
    linkText? ending cell = some text ↔
      ∃ a b e, LinkAt ending cell a b e ∧ text = slice cell (b + 2) (e + ending.length) := by
  constructor
  · intro h
    obtain ⟨a, b, e, hlink, rfl⟩ := exists_linkAt hline h
    exact ⟨a, b, e, hlink, hlink.slice_eq.symm⟩
  · rintro ⟨a, b, e, hlink, rfl⟩
    obtain ⟨ha, hab⟩ := hlink.tag_first.1
    obtain ⟨hb, hbe⟩ := hlink.text_last.1
    obtain ⟨other, hother⟩ := Option.ne_none_iff_exists'.mp (leftmost_ne_none
      (linkAtFront?_ne_none hline ha hb hlink.ending_last.1 hab hbe))
    have hread : linkText? ending cell = some other := hother
    obtain ⟨a', b', e', hlink', rfl⟩ := exists_linkAt hline hread
    obtain ⟨rfl, rfl, rfl⟩ := hlink.unique hlink'
    rw [hread, hlink.slice_eq]

/-- No mark that ends an address stands in the text of a link. -/
theorem LinkAt.not_infix (h : LinkAt ending cell a b e) (hending : '>' ∉ ending) :
    ¬"\">".toList <:+: slice cell (b + 2) (e + ending.length) := by
  rw [h.slice_eq]
  rintro ⟨front, back, hcut⟩
  have hbe : b + 2 ≤ e := h.text_last.1.2
  have hlength := length_slice_le cell (b + 2) e
  by_cases hfit : front.length + 2 ≤ (slice cell (b + 2) e).length
  · -- The mark would stand in the cell after the last place where it does.
    have hstands : StandsAt "\">".toList (slice cell (b + 2) e ++ ending) front.length := by
      rw [← hcut, List.append_assoc]
      exact standsAt_append ..
    have hcell := (hstands.of_append hfit).append (by omega) (cell.drop e)
    rw [slice_append_drop cell hbe, standsAt_drop] at hcell
    have hle := h.text_last.2 ⟨hcell, by omega⟩
    omega
  · -- The end of the mark would stand in the ending.
    have hmark : (slice cell (b + 2) e ++ ending).drop (front.length + 1) = '>' :: back := by
      rw [← hcut, List.append_assoc, ← List.drop_drop, List.drop_left]
      rfl
    rw [List.drop_append, List.drop_eq_nil_of_le (by omega), List.nil_append] at hmark
    exact hending (List.mem_of_mem_drop (hmark ▸ List.mem_cons_self))

end LinkText

/-! ### Links with an address and a text -/

/-- The link with an address and a text. -/
def anchor (address name : String) : String := "<a href=\"" ++ address ++ "\">" ++ name ++ "</a>"

section Anchor

variable {address name ending : String}

theorem toList_anchor (address name : String) :
    (anchor address name).toList = "<a href=\"".toList ++
      (address.toList ++ ("\">".toList ++ (name.toList ++ "</a>".toList))) := by
  simp only [anchor, String.toList_append, List.append_assoc]

/-- A link stands in one line when its address and its text do. -/
theorem newline_mem_toList_anchor :
    '\n' ∈ (anchor address name).toList ↔ '\n' ∈ address.toList ∨ '\n' ∈ name.toList := by
  have htag : '\n' ∉ "<a href=\"".toList := by decide
  have hmark : '\n' ∉ "\">".toList := by decide
  have hclose : '\n' ∉ "</a>".toList := by decide
  simp only [toList_anchor, List.mem_append, htag, hmark, hclose, false_or, or_false]

/-- The mark that ends an address stands once before a text that does not hold it: its two
characters differ, so it does not begin with its own end. -/
theorem eq_zero_of_standsAt {text : List Char} {i : Nat} (htext : ¬"\">".toList <:+: text)
    (h : StandsAt "\">".toList ("\">".toList ++ text) i) : i = 0 := by
  match i with
  | 0 => rfl
  | 1 => exact absurd (List.cons_prefix_cons.mp h).1 (by decide)
  | i + 2 =>
    have hstands : StandsAt "\">".toList text i := h
    exact absurd hstands.isInfix htext

/-- What follows the address in a link. -/
theorem drop_toList_anchor (address name ending : String) :
    (anchor address (name ++ ending)).toList.drop (9 + address.toList.length) =
      ("\">".toList ++ name.toList) ++ (ending.toList ++ "</a>".toList) := by
  have htag : "<a href=\"".toList.length = 9 := by decide
  rw [toList_anchor, ← List.drop_drop, List.drop_left' htag, List.drop_left,
    String.toList_append, List.append_assoc, List.append_assoc]

/-- What follows the text in a link. -/
theorem drop_text_toList_anchor (address name ending : String) :
    (anchor address (name ++ ending)).toList.drop
      (9 + address.toList.length + 2 + name.toList.length) = ending.toList ++ "</a>".toList := by
  have hlength : ("\">".toList ++ name.toList).length = 2 + name.toList.length := by
    rw [List.length_append]
    rfl
  rw [Nat.add_assoc, ← List.drop_drop, drop_toList_anchor, List.drop_left' hlength]

/-- The text stands between the mark and its ending. -/
theorem slice_toList_anchor (address name ending : String) :
    slice (anchor address (name ++ ending)).toList (9 + address.toList.length + 2)
      (9 + address.toList.length + 2 + name.toList.length) = name.toList := by
  have hmark : "\">".toList.length = 2 := by decide
  rw [slice, Nat.add_sub_cancel_left, ← List.drop_drop, drop_toList_anchor, List.append_assoc,
    List.drop_left' hmark, List.take_left]

/-- The parts of a link stand where they were put, unless the text holds what ends an address. -/
theorem linkAt_anchor (address ending : String) (hname : ¬"\">".toList <:+: name.toList) :
    LinkAt ending.toList (anchor address (name ++ ending)).toList 0 (9 + address.toList.length)
      (9 + address.toList.length + 2 + name.toList.length) := by
  have hdrop := drop_toList_anchor address name ending
  have htag : StandsAt "<a href=\"".toList (anchor address (name ++ ending)).toList 0 :=
    toList_anchor .. ▸ List.prefix_append ..
  have hmark : StandsAt "\">".toList (anchor address (name ++ ending)).toList
      (9 + address.toList.length) := by
    rw [StandsAt, hdrop, List.append_assoc]
    exact List.prefix_append ..
  have hend : StandsAt (ending.toList ++ "</a>".toList) (anchor address (name ++ ending)).toList
      (9 + address.toList.length + 2 + name.toList.length) :=
    drop_text_toList_anchor address name ending ▸ List.prefix_rfl
  refine ⟨⟨hend, fun e he => ?_⟩, ⟨⟨hmark, by omega⟩, fun b hb => ?_⟩,
    ⟨⟨htag, by omega⟩, fun a _ => Nat.zero_le a⟩⟩
  · -- Nothing follows the ending but the closing tag.
    have hle := StandsAt.add_length_le he (by simp)
    have hlength := congrArg List.length (drop_text_toList_anchor address name ending)
    rw [List.length_drop] at hlength
    omega
  · by_contra hlt
    obtain ⟨i, rfl⟩ := Nat.exists_eq_add_of_le (show 9 + address.toList.length ≤ b by omega)
    have hstands := standsAt_drop.mpr hb.1
    rw [hdrop] at hstands
    have hbound : i + "\">".toList.length ≤ ("\">".toList ++ name.toList).length := by
      have htwo : "\">".toList.length = 2 := by decide
      have hbe := hb.2
      rw [List.length_append, htwo]
      omega
    have hzero := eq_zero_of_standsAt hname (hstands.of_append hbound)
    omega

/-- A link leads to the file that its text names, whatever its address is. -/
theorem linkTarget?_anchor (source : Url) (hline : '\n' ∉ (anchor address (name ++ ending)).toList)
    (hname : ¬"\">".toList <:+: name.toList) :
    linkTarget? ending (anchor address (name ++ ending)) source =
      (source.join (name ++ ending)).toOption := by
  have hlink := linkAt_anchor address ending hname
  have hread : linkText? ending.toList (anchor address (name ++ ending)).toList =
      some (name ++ ending).toList := by
    refine (linkText?_eq_some_iff hline).mpr ⟨_, _, _, hlink, ?_⟩
    rw [hlink.slice_eq, slice_toList_anchor, String.toList_append]
  rw [linkTarget?, hread, Option.bind_some, String.ofList_toList]

end Anchor

theorem toOption_eq_some_iff {ε α : Type} {x : Except ε α} {a : α} :
    x.toOption = some a ↔ x = .ok a := by
  cases x <;> simp [Except.toOption]

/-- A cell links to a URL exactly when it has a link whose text leads there from the page. -/
theorem linkTarget?_eq_some_iff {ending cell : String} {source uri : Url}
    (hline : '\n' ∉ cell.toList) :
    linkTarget? ending cell source = some uri ↔
      ∃ a b e, LinkAt ending.toList cell.toList a b e ∧
        source.join (String.ofList
          (slice cell.toList (b + 2) (e + ending.toList.length))) = .ok uri := by
  rw [linkTarget?, Option.bind_eq_some_iff]
  constructor
  · rintro ⟨name, hname, huri⟩
    obtain ⟨a, b, e, hlink, rfl⟩ := (linkText?_eq_some_iff hline).mp hname
    exact ⟨a, b, e, hlink, toOption_eq_some_iff.mp huri⟩
  · rintro ⟨a, b, e, hlink, huri⟩
    exact ⟨_, (linkText?_eq_some_iff hline).mpr ⟨a, b, e, hlink, rfl⟩,
      toOption_eq_some_iff.mpr huri⟩

/-! ### The files of a webrev -/

/-- The files that a page links to, each in a cell of its own. -/
inductive LinkedFile where
  | patch
  | changeset
  deriving DecidableEq, Repr

namespace LinkedFile

/-- The field that says where a file is. -/
def field : LinkedFile → Field
  | patch => .patch
  | changeset => .changeset

/-- How the name of a file ends. -/
def ending : LinkedFile → String
  | patch => ".patch"
  | changeset => ".changeset"

/-- Where a record says that a file is. -/
def uri : LinkedFile → Metadata → Option Url
  | patch, m => m.patchUri
  | changeset, m => m.changesetUri

theorem not_mem_ending (file : LinkedFile) : '>' ∉ file.ending.toList := by
  cases file <;> decide

/-- A file is where the cell with its label links to. -/
theorem uri_eq (file : LinkedFile) {header : Page.Header} {source : Url} {m : Metadata}
    (h : ofHeader header source = .ok m) :
    file.uri m = (header.get? file.field.label).bind
      fun cell => linkTarget? file.ending cell source := by
  rw [ofHeader_eq] at h
  cases hnamed : namedRepository header with
  | error e => exact nomatch (congrArg (Except.map _) hnamed).symm.trans h
  | ok named =>
    rw [hnamed] at h
    cases h
    cases file with
    | patch => rfl
    | changeset => rfl

end LinkedFile

/-- **The text of a link decides, and its address does not.** In a record whose file has a cell of
one line, the file is at a URL exactly when the cell has a link whose text, with the ending of the
file's name, leads from the page to that URL. No mark that ends an address stands in that text. Two
records of one page, in which the cells of the file are links that differ in their addresses alone,
have the file at one URL, or both have none. -/
theorem uri_of_link {file : LinkedFile} {header : Page.Header} {source : Url} {m : Metadata}
    {cell : String} (hm : ofHeader header source = .ok m)
    (hcell : header.get? file.field.label = some cell) (hline : '\n' ∉ cell.toList) :
    (∀ uri, file.uri m = some uri ↔
      ∃ a b e, LinkAt file.ending.toList cell.toList a b e ∧
        source.join (String.ofList
          (slice cell.toList (b + 2) (e + file.ending.toList.length))) = .ok uri) ∧
    (∀ a b e, LinkAt file.ending.toList cell.toList a b e →
      ¬"\">".toList <:+: slice cell.toList (b + 2) (e + file.ending.toList.length)) ∧
    ∀ (address address' name : String) (header' : Page.Header) (m' : Metadata),
      cell = anchor address (name ++ file.ending) →
      ¬"\">".toList <:+: name.toList → '\n' ∉ address'.toList →
      ofHeader header' source = .ok m' →
      header'.get? file.field.label = some (anchor address' (name ++ file.ending)) →
      file.uri m' = file.uri m := by
  refine ⟨fun uri => ?_, fun a b e hlink => hlink.not_infix file.not_mem_ending, ?_⟩
  · rw [file.uri_eq hm, hcell, Option.bind_some, linkTarget?_eq_some_iff hline]
  · rintro address address' name header' m' rfl hname haddress' hm' hcell'
    have hline' : '\n' ∉ (anchor address' (name ++ file.ending)).toList := fun h =>
      (newline_mem_toList_anchor.mp h).elim haddress' fun h =>
        hline (newline_mem_toList_anchor.mpr (.inr h))
    rw [file.uri_eq hm, file.uri_eq hm', hcell, hcell', Option.bind_some, Option.bind_some,
      linkTarget?_anchor source hline hname, linkTarget?_anchor source hline' hname]

/-- The link to a patch whose address holds a link to another one. -/
def nestedLink : String := anchor "a\">b.patch</a><a href=\"x" ("c" ++ LinkedFile.patch.ending)

/-- A table with the cell of a patch. -/
def patchHeader (cell : String) : Page.Header := Page.Header.empty.insert Field.patch.label cell

/-- The link in the address does not count. -/
theorem uri_of_link_nestedLink :
    ∃ m m', ofHeader (patchHeader nestedLink) samplePage = .ok m ∧
      ofHeader (patchHeader (anchor "y" "c.patch")) samplePage = .ok m' ∧
      m.patchUri = some { samplePage with path := "/w/c.patch" } ∧ m'.patchUri = m.patchUri := by
  obtain ⟨m, hm⟩ : ∃ m, ofHeader (patchHeader nestedLink) samplePage = .ok m := ⟨_, rfl⟩
  obtain ⟨m', hm'⟩ : ∃ m, ofHeader (patchHeader (anchor "y" "c.patch")) samplePage = .ok m :=
    ⟨_, rfl⟩
  have hcell : (patchHeader nestedLink).get? LinkedFile.patch.field.label = some nestedLink := by
    decide
  have hcell' : (patchHeader (anchor "y" "c.patch")).get? LinkedFile.patch.field.label =
      some (anchor "y" "c.patch") := by decide
  have hline : '\n' ∉ nestedLink.toList := by decide +kernel
  have hname : ¬"\">".toList <:+: "c".toList := by decide
  obtain ⟨hread, -, hsame⟩ := uri_of_link hm hcell hline
  refine ⟨m, m', hm, hm', ?_, hsame _ "y" "c" _ m' rfl hname (by decide) hm' hcell'⟩
  refine (hread _).mpr ⟨_, _, _, linkAt_anchor _ _ hname, ?_⟩
  decide +kernel
end Webrev.Metadata
