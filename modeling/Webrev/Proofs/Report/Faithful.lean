import Webrev.Proofs.Text.Margins
import Webrev.Proofs.Text.Numeral
import Webrev.Proofs.Url.Characters
import Webrev.Report.Text

/-!
# What a report tells of the metadata

The report on the metadata of a webrev has a line for its source and, in one order, a line for every
field that is there. The labels are padded to one width, which the longest of them does not fill, so
that a line tells its label and its value whatever they look like; and a label is the same for one
field only, so that the lines tell which fields are there. Two reports are the same exactly when the
metadata say the same.

## Main definitions

* `Metadata.IsLegible` : metadata whose texts have no line feeds.
* `Metadata.Alike` : metadata that say the same.
* `Metadata.IsReadBack` : metadata whose URLs are read back from their texts.
* `Report.fieldLine`, `Report.fieldLines` : the lines of fields.

## Main results

* `Metadata.Alike.eq` : metadata that say the same and are read back are the same.
* `Report.fieldLine_inj` : a line tells its label and its value.
* `Report.eq_of_fieldLines_eq` : the lines tell the fields.
* `Report.summary_injective` : the counts of a change are told by what is printed of them.
* `Report.metadata_eq_iff` : the report tells the metadata.
-/

namespace Webrev

/-- A reference that was read as a URL, or a text without line feeds. -/
def UriReference.IsLegible : UriReference → Prop
  | .absolute url => url.IsRead
  | .relative text => '\n' ∉ text.toList

namespace Metadata

/-- The texts of the fields have no line feeds, and the URLs were read. -/
structure IsLegible (m : Metadata) : Prop where
  sourceUri : m.sourceUri.IsRead
  author : ∀ text ∈ m.author, '\n' ∉ text.toList
  branch : ∀ text ∈ m.branch, '\n' ∉ text.toList
  workspace : ∀ text ∈ m.workspace, '\n' ∉ text.toList
  repositoryUri : ∀ reference ∈ m.repositoryUri, reference.IsLegible
  compareAgainst : ∀ text ∈ m.compareAgainst, '\n' ∉ text.toList
  compareAgainstVersion : ∀ text ∈ m.compareAgainstVersion, '\n' ∉ text.toList
  compareAgainstRevision : ∀ text ∈ m.compareAgainstRevision, '\n' ∉ text.toList
  patchUri : ∀ url ∈ m.patchUri, url.IsRead
  changesetUri : ∀ url ∈ m.changesetUri, url.IsRead

/-- Every field is there in both or in neither, with the same text or the same counts. URLs are
compared as they are written. -/
structure Alike (m m' : Metadata) : Prop where
  sourceUri : m.sourceUri.text = m'.sourceUri.text
  author : m.author = m'.author
  branch : m.branch = m'.branch
  workspace : m.workspace = m'.workspace
  repositoryUri : m.repositoryUri.map UriReference.text = m'.repositoryUri.map UriReference.text
  compareAgainst : m.compareAgainst = m'.compareAgainst
  compareAgainstVersion : m.compareAgainstVersion = m'.compareAgainstVersion
  compareAgainstRevision : m.compareAgainstRevision = m'.compareAgainstRevision
  summary : m.summary = m'.summary
  patchUri : m.patchUri.map Url.text = m'.patchUri.map Url.text
  changesetUri : m.changesetUri.map Url.text = m'.changesetUri.map Url.text

/-- The URLs and the references of a record are read back from their texts. -/
structure IsReadBack (m : Metadata) : Prop where
  sourceUri : Url.parse m.sourceUri.text = .ok m.sourceUri
  repositoryUri : ∀ reference ∈ m.repositoryUri, UriReference.parse reference.text = .ok reference
  patchUri : ∀ url ∈ m.patchUri, Url.parse url.text = .ok url
  changesetUri : ∀ url ∈ m.changesetUri, Url.parse url.text = .ok url

theorem eq_of_map_text_eq {α ε : Type} {text : α → String} {read : String → Except ε α}
    {value value' : Option α} (h : value.map text = value'.map text)
    (hread : ∀ a ∈ value, read (text a) = .ok a) (hread' : ∀ a ∈ value', read (text a) = .ok a) :
    value = value' := by
  cases value with
  | none => exact (Option.map_eq_none_iff.mp h.symm).symm
  | some a =>
    obtain ⟨a', rfl, htext⟩ := Option.map_eq_some_iff.mp h.symm
    have ha := hread' a' rfl
    rw [htext, hread a rfl] at ha
    rw [Except.ok.inj ha]

/-- Metadata that say the same are the same, where texts are read back. -/
theorem Alike.eq {m m' : Metadata} (h : m.Alike m') (hm : m.IsReadBack) (hm' : m'.IsReadBack) :
    m = m' := by
  have hsource : some m.sourceUri = some m'.sourceUri :=
    eq_of_map_text_eq (congrArg some h.sourceUri) (by rintro _ ⟨⟩; exact hm.sourceUri)
      (by rintro _ ⟨⟩; exact hm'.sourceUri)
  have hrepository :=
    eq_of_map_text_eq h.repositoryUri hm.repositoryUri hm'.repositoryUri
  have hpatch := eq_of_map_text_eq h.patchUri hm.patchUri hm'.patchUri
  have hchangeset := eq_of_map_text_eq h.changesetUri hm.changesetUri hm'.changesetUri
  cases m
  cases m'
  rw [Metadata.mk.injEq]
  exact ⟨Option.some.inj hsource, h.branch, h.author, h.summary, h.workspace, hrepository,
    h.compareAgainst, h.compareAgainstVersion, h.compareAgainstRevision, hpatch, hchangeset⟩

end Metadata

namespace Report

/-! ### Lines of fields -/

/-- The line of a field that is there, without its line feed. -/
def fieldLine (label value : String) : List Char :=
  "  ".toList ++ (Style.padded labelWidth (label ++ ":").toList ++ value.toList)

/-- The lines of the fields that are there. -/
def fieldLines (fields : List (String × Option String)) : List (List Char) :=
  fields.filterMap fun (label, value) => value.map (fieldLine label)

theorem fieldLines_cons_none (label : String) (fields : List (String × Option String)) :
    fieldLines ((label, none) :: fields) = fieldLines fields := rfl

theorem fieldLines_cons_some (label value : String) (fields : List (String × Option String)) :
    fieldLines ((label, some value) :: fields) = fieldLine label value :: fieldLines fields := rfl

/-- A label leaves room for the colon after it. -/
def Fits (label : String) : Prop := label.toList.length < labelWidth

theorem length_padded {width : Nat} {text : List Char} (h : text.length ≤ width) :
    (Style.padded width text).length = width := by
  rw [Style.padded, List.length_append, List.length_replicate, Nat.add_sub_cancel' h]

theorem trimEnd_padded_colon (width : Nat) (label : List Char) :
    Text.trimEnd (Style.padded width (label ++ [':'])) = label ++ [':'] := by
  have hblanks : ∀ c ∈ List.replicate (width - (label ++ [':']).length) ' ',
      Text.isBlank c = true := fun c hc => by
    obtain rfl := List.eq_of_mem_replicate hc
    decide
  rw [Style.padded, Text.trimEnd_append_blanks _ hblanks, Text.trimEnd_eq_self (by decide)]

/-- A line tells its label and its value. -/
theorem fieldLine_inj {label label' value value' : String} (hfits : Fits label)
    (hfits' : Fits label') (h : fieldLine label value = fieldLine label' value') :
    label = label' ∧ value = value' := by
  have hcolon (label : String) : (label ++ ":").toList = label.toList ++ [':'] := by simp
  have hlength {label : String} (hfits : Fits label) :
      (Style.padded labelWidth (label ++ ":").toList).length = labelWidth := by
    refine length_padded ?_
    rw [hcolon, List.length_append]
    exact hfits
  obtain ⟨hpadded, hvalue⟩ := List.append_inj (List.append_cancel_left h)
    ((hlength hfits).trans (hlength hfits').symm)
  have hlabel := congrArg Text.trimEnd hpadded
  rw [hcolon, hcolon, trimEnd_padded_colon, trimEnd_padded_colon] at hlabel
  exact ⟨String.toList_injective (List.append_cancel_right hlabel), String.toList_injective hvalue⟩

theorem exists_of_mem_fieldLines {fields : List (String × Option String)} {line : List Char}
    (h : line ∈ fieldLines fields) :
    ∃ label value, (label, some value) ∈ fields ∧ line = fieldLine label value := by
  obtain ⟨⟨label, value⟩, hmem, hline⟩ := List.mem_filterMap.mp h
  obtain ⟨text, rfl, rfl⟩ := Option.map_eq_some_iff.mp hline
  exact ⟨label, text, hmem, rfl⟩

/-- A field is not told by the lines of fields with other labels. -/
theorem fieldLine_notMem {label value : String} {fields : List (String × Option String)}
    (hfits : Fits label) (hall : ∀ other ∈ fields.map Prod.fst, Fits other)
    (hlabel : label ∉ fields.map Prod.fst) : fieldLine label value ∉ fieldLines fields := by
  intro h
  obtain ⟨label', value', hmem, hline⟩ := exists_of_mem_fieldLines h
  have hlabel' := List.mem_map_of_mem (f := Prod.fst) hmem
  obtain ⟨rfl, -⟩ := fieldLine_inj hfits (hall _ hlabel') hline
  exact hlabel hlabel'

/-- The lines of fields with different labels tell which of them are there, and their values. -/
theorem eq_of_fieldLines_eq {fields fields' : List (String × Option String)}
    (hlabels : fields.map Prod.fst = fields'.map Prod.fst) (hnodup : (fields.map Prod.fst).Nodup)
    (hfits : ∀ label ∈ fields.map Prod.fst, Fits label)
    (h : fieldLines fields = fieldLines fields') : fields = fields' := by
  induction fields generalizing fields' with
  | nil => exact (List.map_eq_nil_iff.mp hlabels.symm).symm
  | cons field fields ih =>
    cases fields' with
    | nil => cases hlabels
    | cons field' fields' =>
      obtain ⟨label, value⟩ := field
      obtain ⟨label', value'⟩ := field'
      obtain ⟨rfl, hothers⟩ := List.cons.inj hlabels
      obtain ⟨hnew, hdistinct⟩ := List.nodup_cons.mp hnodup
      obtain ⟨hlabel, hall⟩ := List.forall_mem_cons.mp hfits
      have hnew' : label ∉ fields'.map Prod.fst := hothers ▸ hnew
      have hall' : ∀ other ∈ fields'.map Prod.fst, Fits other := hothers ▸ hall
      -- A field that is there on one side only would have to be told by a line of another one.
      cases value with
      | none =>
        cases value' with
        | none =>
          rw [fieldLines_cons_none, fieldLines_cons_none] at h
          rw [ih hothers hdistinct hall h]
        | some value' =>
          rw [fieldLines_cons_none, fieldLines_cons_some] at h
          exact absurd (h ▸ List.mem_cons_self) (fieldLine_notMem hlabel hall hnew)
      | some value =>
        cases value' with
        | none =>
          rw [fieldLines_cons_none, fieldLines_cons_some] at h
          exact absurd (h ▸ List.mem_cons_self) (fieldLine_notMem hlabel hall' hnew')
        | some value' =>
          rw [fieldLines_cons_some, fieldLines_cons_some] at h
          obtain ⟨hline, hrest⟩ := List.cons.inj h
          obtain ⟨-, rfl⟩ := fieldLine_inj hlabel hlabel hline
          rw [ih hothers hdistinct hall hrest]

/-- What is printed of fields is their lines. -/
theorem toList_join_field (fields : List (String × Option String)) :
    (String.join (fields.map fun (label, value) => field false label value)).toList =
      Text.printed (fieldLines fields) := by
  rw [String.toList_join, List.flatMap_map]
  induction fields with
  | nil => rfl
  | cons f fields ih =>
    obtain ⟨label, value⟩ := f
    rw [List.flatMap_cons, ih]
    cases value with
    | none => rfl
    | some value =>
      rw [fieldLines_cons_some, Text.printed_cons]
      simp [field, fieldLine, Style.paintPadded]

/-! ### The counts of a change -/

theorem toList_number (n : Nat) : (number n).toList = Numeral.decimal n := String.toList_ofList

theorem toList_paint (style : Style) (text : String) :
    (style.paint false text).toList = text.toList := by
  simp [Style.paint, Style.paintPadded, Style.padded]

/-- What is printed of the counts of a change, each of them with a mark after it. -/
theorem toList_summary (s : Summary) :
    (summary false s).toList =
      Numeral.decimal s.linesChanged ++ ' ' :: ("lines changed (+".toList ++
        (Numeral.decimal s.insertions ++ ',' :: (" -".toList ++
          (Numeral.decimal s.deletions ++ ',' :: (" ~".toList ++
            (Numeral.decimal s.modifications ++ [')'])))))) := by
  simp [summary, toList_number, toList_paint]

/-- The counts of a change are told by what is printed of them. -/
theorem summary_injective : Function.Injective (summary false) := by
  intro s s' h
  have htext := congrArg String.toList h
  rw [toList_summary, toList_summary] at htext
  obtain ⟨hlines, htext⟩ := Numeral.decimal_append_inj htext (by decide) (by decide)
  obtain ⟨hinsertions, htext⟩ :=
    Numeral.decimal_append_inj (List.append_cancel_left htext) (by decide) (by decide)
  obtain ⟨hdeletions, htext⟩ :=
    Numeral.decimal_append_inj (List.append_cancel_left htext) (by decide) (by decide)
  obtain ⟨hmodifications, -⟩ :=
    Numeral.decimal_append_inj (List.append_cancel_left htext) (by decide) (by decide)
  obtain ⟨insertions, deletions, modifications, linesChanged⟩ := s
  obtain rfl : _ = s' := by
    rw [Summary.mk.injEq]
    exact ⟨hinsertions, hdeletions, hmodifications, hlines⟩
  rfl

theorem lineFeed_notMem_summary (s : Summary) : '\n' ∉ (summary false s).toList := by
  have hdecimal (n : Nat) : '\n' ∉ Numeral.decimal n := fun h =>
    absurd (Numeral.isDigit_of_mem_decimal h) (by decide)
  simp [toList_summary, hdecimal]

/-! ### The metadata -/

/-- The report is the line of the source and the lines of the fields. -/
theorem toList_metadata (m : Metadata) :
    (metadata false m).toList = Text.printed
      (("Webrev: ".toList ++ m.sourceUri.text.toList) :: fieldLines (fields false m)) := by
  rw [Text.printed_cons, ← toList_join_field]
  simp [metadata, toList_paint]

/-- The labels of the fields, in the order of their lines. -/
def labels : List String :=
  ["Prepared by", "Branch", "Workspace", "Repository", "Compare against", "Compare against version",
    "Compare against revision", "Summary", "Patch", "Changeset"]

theorem map_fst_fields (styled : Bool) (m : Metadata) :
    (fields styled m).map Prod.fst = labels := rfl

theorem nodup_labels : labels.Nodup := by decide

theorem fits_of_mem_labels : ∀ label ∈ labels, Fits label := by
  unfold Fits
  decide

theorem lineFeed_notMem_labels :
    ∀ label ∈ labels, '\n' ∉ "  ".toList ++ Style.padded labelWidth (label ++ ":").toList := by
  decide

theorem lineFeed_notMem_text {url : Url} (h : url.IsRead) : '\n' ∉ url.text.toList := fun hmem =>
  absurd (h.printable '\n' hmem).1 (by decide)

/-- The values of the fields have no line feeds. -/
theorem lineFeed_notMem_value {m : Metadata} (hm : m.IsLegible) {label value : String}
    (h : (label, some value) ∈ fields false m) : '\n' ∉ value.toList := by
  have htext {uri : Option Url} (huri : ∀ url ∈ uri, url.IsRead) {value : String}
      (hvalue : some value = uri.map Url.text) : '\n' ∉ value.toList := by
    obtain ⟨url, hurl, rfl⟩ := Option.map_eq_some_iff.mp hvalue.symm
    exact lineFeed_notMem_text (huri url hurl)
  simp only [fields, List.mem_cons, Prod.mk.injEq, List.not_mem_nil, or_false] at h
  rcases h with ⟨-, h⟩ | ⟨-, h⟩ | ⟨-, h⟩ | ⟨-, h⟩ | ⟨-, h⟩ | ⟨-, h⟩ | ⟨-, h⟩ | ⟨-, h⟩ | ⟨-, h⟩ |
    ⟨-, h⟩
  · exact hm.author value h.symm
  · exact hm.branch value h.symm
  · exact hm.workspace value h.symm
  · obtain ⟨reference, hreference, rfl⟩ := Option.map_eq_some_iff.mp h.symm
    have hlegible := hm.repositoryUri reference hreference
    cases reference with
    | absolute url => exact lineFeed_notMem_text hlegible
    | relative text => exact hlegible
  · exact hm.compareAgainst value h.symm
  · exact hm.compareAgainstVersion value h.symm
  · exact hm.compareAgainstRevision value h.symm
  · obtain ⟨s, -, rfl⟩ := Option.map_eq_some_iff.mp h.symm
    exact lineFeed_notMem_summary s
  · exact htext hm.patchUri h
  · exact htext hm.changesetUri h

/-- No line of a report has a line feed in it. -/
theorem lineFeed_notMem_lines {m : Metadata} (hm : m.IsLegible) :
    ∀ line ∈ ("Webrev: ".toList ++ m.sourceUri.text.toList) :: fieldLines (fields false m),
      '\n' ∉ line := by
  refine List.forall_mem_cons.mpr ⟨?_, fun line hline => ?_⟩
  · rw [List.mem_append, not_or]
    exact ⟨by decide, lineFeed_notMem_text hm.sourceUri⟩
  · obtain ⟨label, value, hmem, rfl⟩ := exists_of_mem_fieldLines hline
    have hlabel : label ∈ labels := List.mem_map_of_mem (f := Prod.fst) hmem
    rw [fieldLine, ← List.append_assoc, List.mem_append, not_or]
    exact ⟨lineFeed_notMem_labels label hlabel, lineFeed_notMem_value hm hmem⟩

/-- **The report tells the metadata.** Two reports are the same exactly when every field is there in
both metadata or in neither, and says the same. -/
theorem metadata_eq_iff {m m' : Metadata} (hm : m.IsLegible) (hm' : m'.IsLegible) :
    metadata false m = metadata false m' ↔ m.Alike m' := by
  constructor
  · intro h
    have htext := congrArg String.toList h
    rw [toList_metadata, toList_metadata] at htext
    obtain ⟨hsource, hlines⟩ := List.cons.inj
      (Text.printed_inj (lineFeed_notMem_lines hm) (lineFeed_notMem_lines hm') htext)
    have hfields : fields false m = fields false m' :=
      eq_of_fieldLines_eq ((map_fst_fields false m).trans (map_fst_fields false m').symm)
        nodup_labels fits_of_mem_labels hlines
    simp only [fields, List.cons.injEq, Prod.mk.injEq, true_and, and_true] at hfields
    obtain ⟨hauthor, hbranch, hworkspace, hrepository, hagainst, hversion, hrevision, hsummary,
      hpatch, hchangeset⟩ := hfields
    exact ⟨String.toList_injective (List.append_cancel_left hsource), hauthor, hbranch, hworkspace,
      hrepository, hagainst, hversion, hrevision, Option.map_injective summary_injective hsummary,
      hpatch, hchangeset⟩
  · intro h
    simp only [metadata, fields, h.sourceUri, h.author, h.branch, h.workspace, h.repositoryUri,
      h.compareAgainst, h.compareAgainstVersion, h.compareAgainstRevision, h.summary, h.patchUri,
      h.changesetUri]

/-- Metadata that say nothing but where they are from. -/
def bare : Metadata where
  sourceUri := ⟨"http", some ⟨"", "", .domain "h", none⟩, "/w/", none, none⟩
  author := none
  branch := none
  workspace := none
  repositoryUri := none
  compareAgainst := none
  compareAgainstVersion := none
  compareAgainstRevision := none
  summary := none
  patchUri := none
  changesetUri := none

/-- A value that goes on like another label does not pass for the field with that label. -/
theorem metadata_ne_of_lookalike :
    metadata false { bare with compareAgainst := some "version:  9" } ≠
      metadata false { bare with compareAgainstVersion := some "9" } := by
  have hparse : Url.parse "http://h/w/" = .ok bare.sourceUri := by decide +kernel
  have hsource : bare.sourceUri.IsRead := .parse hparse
  have hagainst : Metadata.IsLegible { bare with compareAgainst := some "version:  9" } :=
    ⟨hsource, nofun, nofun, nofun, nofun, by rintro _ ⟨⟩; decide, nofun, nofun, nofun, nofun⟩
  have hversion : Metadata.IsLegible { bare with compareAgainstVersion := some "9" } :=
    ⟨hsource, nofun, nofun, nofun, nofun, nofun, by rintro _ ⟨⟩; decide, nofun, nofun, nofun⟩
  intro h
  exact nomatch ((metadata_eq_iff hagainst hversion).mp h).compareAgainst

end Report

end Webrev
