import Webrev.Metadata.Basic
import Webrev.Proofs.Page.Cells

/-!
# One row affects one field

The metadata of a webrev has ten fields that are read from the table of its page, each from the cell
with its own label. A line that is added inside the table changes at most the cell with the label of
its row, and so at most one field. Only the repository decides whether there is a record at all.

## Main definitions

* `Metadata.Field` : the fields that are read from a table.
* `Metadata.AgreesExcept` : two records say the same, one field apart.
* `Metadata.ofLines` : the metadata of the page with given lines.
* `Metadata.Idle` : a line that no field is read from.

## Main results

* `Metadata.ofHeader_congr` : the ten cells are all that is read.
* `Metadata.withRepository_agreesExcept` : a cell affects its own field.
* `Metadata.ofLines_insert` : a line inside the table affects the field of its row.
-/

namespace Webrev.Metadata

open Page

/-- The fields that are read from a table. -/
inductive Field where
  | branch
  | author
  | summary
  | workspace
  | repository
  | compareAgainst
  | compareAgainstVersion
  | compareAgainstRevision
  | patch
  | changeset
  deriving DecidableEq, Repr

/-- The label of the row that a field is read from. -/
def Field.label : Field → String
  | branch => "Branch"
  | author => "Prepared by"
  | summary => "Summary of changes"
  | workspace => "Workspace"
  | repository => "Repository"
  | compareAgainst => "Compare against"
  | compareAgainstVersion => "Compare against version"
  | compareAgainstRevision => "Compare against revision"
  | patch => "Patch of changes"
  | changeset => "Changeset"

/-- No two fields are read from one row. -/
theorem Field.label_injective : Function.Injective label := by
  intro field other h
  cases field <;> cases other <;> first | rfl | exact absurd h (by decide)

/-- Two records say the same in a field. -/
def Field.Same : Field → Metadata → Metadata → Prop
  | branch, m, m' => m.branch = m'.branch
  | author, m, m' => m.author = m'.author
  | summary, m, m' => m.summary = m'.summary
  | workspace, m, m' => m.workspace = m'.workspace
  | repository, m, m' => m.repositoryUri = m'.repositoryUri
  | compareAgainst, m, m' => m.compareAgainst = m'.compareAgainst
  | compareAgainstVersion, m, m' => m.compareAgainstVersion = m'.compareAgainstVersion
  | compareAgainstRevision, m, m' => m.compareAgainstRevision = m'.compareAgainstRevision
  | patch, m, m' => m.patchUri = m'.patchUri
  | changeset, m, m' => m.changesetUri = m'.changesetUri

/-- Two records are those of one page and say the same, one field apart. -/
def AgreesExcept (field : Field) (m m' : Metadata) : Prop :=
  m.sourceUri = m'.sourceUri ∧ ∀ other, other ≠ field → other.Same m m'

/-- The ten fields and the page make a record. -/
theorem eq_of_same {m m' : Metadata} (hsource : m.sourceUri = m'.sourceUri)
    (h : ∀ field : Field, field.Same m m') : m = m' := by
  obtain ⟨source, branch, author, summary, workspace, repository, against, version, revision, patch,
    changeset⟩ := m
  cases hsource
  cases h .branch
  cases h .author
  cases h .summary
  cases h .workspace
  cases h .repository
  cases h .compareAgainst
  cases h .compareAgainstVersion
  cases h .compareAgainstRevision
  cases h .patch
  cases h .changeset
  rfl

/-! ### Cells and fields -/

/-- The repository that a table names, if it names one. -/
def namedRepository (header : Header) : Except AccessError (Option UriReference) :=
  match header.get? Field.repository.label with
  | none => .ok none
  | some cell => (repository cell).map some

/-- The metadata of a table, by the repository that it names. -/
theorem ofHeader_eq (header : Header) (source : Url) :
    ofHeader header source = (namedRepository header).map (withRepository header source) := by
  simp only [ofHeader, namedRepository, Field.label]
  cases header.get? "Repository" with
  | none => rfl
  | some cell =>
    dsimp only
    cases repository cell <;> rfl

section Cells

variable {header header' : Header} {field : Field}

theorem namedRepository_congr
    (h : header.get? Field.repository.label = header'.get? Field.repository.label) :
    namedRepository header = namedRepository header' := by
  rw [namedRepository, namedRepository, h]

/-- A field is read from its own cell; the repository is handed over. -/
theorem same_withRepository (source : Url) {uri uri' : Option UriReference}
    (hcell : header.get? field.label = header'.get? field.label)
    (huri : field = .repository → uri = uri') :
    field.Same (withRepository header source uri) (withRepository header' source uri') := by
  cases field <;> simp_all [Field.Same, withRepository, Field.label]

/-- The ten cells are all that is read from a table. -/
theorem ofHeader_congr (source : Url)
    (h : ∀ field : Field, header.get? field.label = header'.get? field.label) :
    ofHeader header source = ofHeader header' source := by
  have hwith : withRepository header source = withRepository header' source :=
    funext fun uri => eq_of_same rfl fun field => same_withRepository source (h field) fun _ => rfl
  rw [ofHeader_eq, ofHeader_eq, namedRepository_congr (h .repository), hwith]

/-- A cell affects its own field. -/
theorem withRepository_agreesExcept (source : Url) {uri uri' : Option UriReference}
    (hcells : ∀ other : Field, other ≠ field → header.get? other.label = header'.get? other.label)
    (huri : field ≠ .repository → uri = uri') :
    AgreesExcept field (withRepository header source uri) (withRepository header' source uri') := by
  refine ⟨rfl, fun other hother => same_withRepository source (hcells other hother) ?_⟩
  rintro rfl
  exact huri hother.symm

/-- The cell of a field other than the repository does not decide whether there is a record. -/
theorem ofHeader_cases_of_ne_repository (source : Url) (hfield : field ≠ .repository)
    (hcells : ∀ other : Field, other ≠ field → header.get? other.label = header'.get? other.label) :
    (∃ e, ofHeader header source = .error e ∧ ofHeader header' source = .error e) ∨
      ∃ m m', ofHeader header source = .ok m ∧ ofHeader header' source = .ok m' ∧
        AgreesExcept field m m' := by
  rw [ofHeader_eq, ofHeader_eq, ← namedRepository_congr (hcells .repository hfield.symm)]
  cases namedRepository header with
  | error e => exact .inl ⟨e, rfl, rfl⟩
  | ok uri =>
    exact .inr ⟨_, _, rfl, rfl, withRepository_agreesExcept source hcells fun _ => rfl⟩

/-- Records that are there with and without a cell for the repository differ in nothing else. -/
theorem agreesExcept_repository {source : Url} {m m' : Metadata}
    (hcells : ∀ other : Field, other ≠ .repository →
      header.get? other.label = header'.get? other.label)
    (h : ofHeader header source = .ok m) (h' : ofHeader header' source = .ok m') :
    AgreesExcept .repository m m' := by
  rw [ofHeader_eq] at h h'
  cases hn : namedRepository header with
  | error e => exact nomatch (congrArg (Except.map _) hn).symm.trans h
  | ok uri =>
    cases hn' : namedRepository header' with
    | error e => exact nomatch (congrArg (Except.map _) hn').symm.trans h'
    | ok uri' =>
      rw [hn] at h
      rw [hn'] at h'
      cases h
      cases h'
      exact withRepository_agreesExcept source hcells fun hne => absurd rfl hne

end Cells

/-! ### Lines and fields -/

/-- The metadata of the page with given lines. -/
def ofLines (lines : List Line) (source : Url) : Except AccessError Metadata :=
  ofHeader (readTable lines).1 source

/-- No field is read from a line that stands inside a table before other lines: it has no row, or
one with a label that no field is read from, or the label stands once more before the end of the
table. -/
def Idle (line : Line) (rest : List Line) : Prop :=
  ∀ label, labelOf? line = some label →
    (∀ field : Field, field.label ≠ label) ∨ label ∈ labelsInside rest

section Lines

variable {front rest : List Line} {line : Line}

/-- A line inside a table leaves every cell but that of its row as it is. -/
theorem get?_readTable_insert (hopens : front.any opensTable = true)
    (hcloses : closesAmong front = false) (hline : closesTable line = false) {label : String}
    (h : labelOf? line = some label → label ∈ labelsInside rest) :
    (readTable (front ++ [line] ++ rest)).1.get? label =
      (readTable (front ++ rest)).1.get? label := by
  rw [List.append_assoc, readTable_append_of_open hopens hcloses,
    readTable_append_of_open hopens hcloses, List.singleton_append,
    List.takeWhile_cons_of_pos (by simp [hline]), List.foldl_cons]
  by_cases hlabel : labelOf? line = some label
  · exact Header.get?_foldl_addLine_of_mem _ _ (h hlabel)
  · exact Header.get?_foldl_addLine_congr _ (Header.get?_addLine_of_ne _ hlabel)

/-- The page of a webrev. -/
def samplePage : Url := ⟨"http", some ⟨"", "", .domain "h", none⟩, "/w/", none, none⟩

/-- The front of a page, with a link to the patch. -/
def sampleFront : List Line :=
  ["<html>".toList, "<table>".toList,
    "<tr><th>Patch of changes:</th><td><a href=\"x\">w.patch</a></td></tr>".toList]

/-- A line that takes the link away. -/
def unlinkedLine : Line := "<tr><th>Patch of changes:</th><td>none</td></tr>".toList

/-- The rest of the page. -/
def sampleRest : List Line :=
  ["<tr><th>Branch:</th><td>main</td></tr>".toList, "</table>".toList]

/-- **One row affects one field.** A line is added to a page inside its table. When no field is read
from it, nothing changes, be it a record or a failure. Else it has the label of a field: if that is
not the repository, both pages fail alike, or both give records that say the same in all other
fields; if it is the repository, and both pages give records, these say the same in all other
fields. -/
theorem ofLines_insert (source : Url) (hopens : front.any opensTable = true)
    (hcloses : closesAmong front = false) (hline : closesTable line = false) :
    (Idle line rest → ofLines (front ++ [line] ++ rest) source = ofLines (front ++ rest) source) ∧
      ∀ field : Field, labelOf? line = some field.label →
        (field ≠ .repository →
          (∃ e, ofLines (front ++ rest) source = .error e ∧
            ofLines (front ++ [line] ++ rest) source = .error e) ∨
          ∃ m m', ofLines (front ++ rest) source = .ok m ∧
            ofLines (front ++ [line] ++ rest) source = .ok m' ∧ AgreesExcept field m m') ∧
        (field = .repository → ∀ m m', ofLines (front ++ rest) source = .ok m →
          ofLines (front ++ [line] ++ rest) source = .ok m' → AgreesExcept .repository m m') := by
  refine ⟨fun hidle => ofHeader_congr source fun field => ?_, fun field hfield => ?_⟩
  · refine get?_readTable_insert hopens hcloses hline fun hlabel => ?_
    exact (hidle field.label hlabel).resolve_left fun h => h field rfl
  · have hcells (other : Field) (hother : other ≠ field) :
        (readTable (front ++ rest)).1.get? other.label =
          (readTable (front ++ [line] ++ rest)).1.get? other.label := by
      refine (get?_readTable_insert hopens hcloses hline fun hlabel => ?_).symm
      exact absurd (Field.label_injective (Option.some.inj (hlabel.symm.trans hfield))) hother
    refine ⟨fun hne => ofHeader_cases_of_ne_repository source hne hcells, ?_⟩
    rintro rfl m m' h h'
    exact agreesExcept_repository hcells h h'

theorem ofLines_insert_of_unlinked :
    labelOf? unlinkedLine = some Field.patch.label ∧
      ∃ m m', ofLines (sampleFront ++ sampleRest) samplePage = .ok m ∧
        ofLines (sampleFront ++ [unlinkedLine] ++ sampleRest) samplePage = .ok m' ∧
        AgreesExcept .patch m m' ∧ m.patchUri.isSome = true ∧ m'.patchUri = none := by
  have hlabel : labelOf? unlinkedLine = some Field.patch.label := by decide +kernel
  have hlinked : (ofLines (sampleFront ++ sampleRest) samplePage).toOption.any
      (·.patchUri.isSome) = true := by decide +kernel
  have hunlinked : (ofLines (sampleFront ++ [unlinkedLine] ++ sampleRest) samplePage).toOption.any
      (·.patchUri.isNone) = true := by decide +kernel
  refine ⟨hlabel, ?_⟩
  rcases ((@ofLines_insert sampleFront sampleRest unlinkedLine samplePage (by decide +kernel)
    (by decide +kernel) (by decide +kernel)).2 .patch hlabel).1 (by decide) with
    ⟨e, he, -⟩ | ⟨m, m', hm, hm', hagrees⟩
  · rw [he] at hlinked
    exact nomatch hlinked
  · rw [hm] at hlinked
    rw [hm'] at hunlinked
    exact ⟨m, m', hm, hm', hagrees, hlinked, Option.isNone_iff_eq_none.mp hunlinked⟩

end Lines

end Webrev.Metadata
