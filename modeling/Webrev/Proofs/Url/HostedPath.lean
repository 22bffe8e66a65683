import Webrev.Proofs.Url.Ending
import Webrev.Proofs.Url.Folders
import Webrev.Proofs.Url.PlainPath

/-!
# Paths of URLs with a host

A URL that names a host has an authority, and its path begins after that: it is empty, which is so
for other schemes than the special ones only, or read from its first slash on. So it is settled, its
characters are those that a path keeps, and none of them is a backslash if the scheme reads
backslashes as slashes.

## Main definitions

* `Url.IsAfterAuthority` : a URL whose path begins after an authority.
* `Url.IsHostedPath` : what the path of a URL with a host is like.

## Main results

* `Url.isAfterAuthority_of_parse` : so does the path of any URL with a host.
* `Url.isHostedPath_of_parse` : the path of a URL with a host that was read.
-/

namespace Webrev.Url

/-! ### URLs with a host -/

/-- The path of a URL begins after an authority. -/
def IsAfterAuthority (url : Url) : Prop :=
  ∃ scheme authority rest, url = withPath scheme (some authority)
    (pathStart (Scheme.of scheme) rest).1 (pathStart (Scheme.of scheme) rest).2

variable {url : Url}

theorem isAfterAuthority_of_afterSlashes {scheme text : List Char}
    (h : afterSlashes scheme text = .ok url) : url.IsAfterAuthority := by
  obtain ⟨authority, rest, -, heq⟩ := afterSlashes_eq_ok h
  exact ⟨scheme, authority, rest, heq⟩

theorem hostText_withoutHost (path text : List Char) : (withoutHost path text).hostText = none :=
  rfl

theorem afterFileSlash_none (rest : List Char) :
    afterFileSlash none rest = withoutHost [] ('/' :: rest) := by
  simp [afterFileSlash]

/-- A `file` URL names a host only after two slashes. -/
theorem isAfterAuthority_of_readFile {text : List Char} (h : readFile none text = .ok url)
    (hhost : url.hostText ≠ none) : url.IsAfterAuthority := by
  have hlost {path text : List Char}
      (h : (.ok (withoutHost path text) : Except ParseError Url) = .ok url) :
      url.IsAfterAuthority := by
    obtain rfl := Except.ok.inj h
    exact absurd (hostText_withoutHost path text) hhost
  unfold readFile at h
  split at h
  next c rest =>
    split at h
    next =>
      split at h
      · exact hlost (afterFileSlash_none [] ▸ h)
      next d after =>
        split at h
        next =>
          unfold afterFileSlashes at h
          cases hread : readFileHost after with
          | error reason =>
            rw [hread] at h
            cases h
          | ok read =>
            obtain ⟨host, rest⟩ := read
            rw [hread] at h
            cases host with
            | none => exact hlost h
            | some host =>
              simp only [bind, Except.bind, pure, Except.pure] at h
              split at h
              · obtain rfl := Except.ok.inj h
                exact ⟨fileScheme, ⟨"", "", host, none⟩, rest, rfl⟩
              · exact hlost h
        next => exact hlost (afterFileSlash_none (d :: after) ▸ h)
    next => exact hlost h
  next => exact hlost h

/-- The path of a URL with a host begins after its authority. -/
theorem isAfterAuthority_of_parse {text : String} (h : parse text = .ok url)
    (hhost : url.hostText ≠ none) : url.IsAfterAuthority := by
  unfold parse read at h
  dsimp only at h
  split at h
  next scheme rest hscheme =>
    unfold readWithScheme at h
    simp only [Option.filter_none] at h
    split at h
    · exact isAfterAuthority_of_readFile h hhost
    · contradiction
    · exact isAfterAuthority_of_afterSlashes h
    · unfold readOther at h
      split at h
      · exact isAfterAuthority_of_afterSlashes h
      · obtain rfl := Except.ok.inj h
        exact absurd rfl hhost
      · obtain rfl := Except.ok.inj h
        exact absurd rfl hhost
  next => cases h

/-! ### Their paths -/

/-- The path of a URL with a host: settled if there is one, of the characters that a path keeps, and
without backslashes where these are slashes. -/
structure IsHostedPath (kind : Scheme) (path : List Char) : Prop where
  settled : path = [] ∨ IsSettled path
  keeps : ∀ c ∈ path, Percent.keeps .path c = true
  backslash : kind.isSpecial = true → '\\' ∉ path

theorem isHostedPath_nil (kind : Scheme) : IsHostedPath kind [] :=
  ⟨.inl rfl, List.forall_mem_nil _, fun _ => List.not_mem_nil⟩

/-- A path that is read from its first slash on is like that of a URL with a host. -/
theorem isHostedPath_readPath (kind : Scheme) (text : List Char) (hasHost : Bool) :
    IsHostedPath kind (readPath kind ⟨['/'], hasHost⟩ text).path := by
  let P := fun c => Percent.keeps .path c = true ∧ (kind.isSpecial = true → c ≠ '\\')
  have hadmits : Admits P pathMarks := by
    refine ⟨fun {c} hc => ⟨keeps_of_isPlain (by rw [isPlain, hc, Bool.true_or]), ?_⟩, ?_⟩
    · rintro - rfl
      exact absurd hc (by decide)
    · have hmarks : ∀ c ∈ pathMarks, (Percent.keeps .path c && c != '\\') = true :=
        List.all_eq_true.mp (by decide)
      intro c hc
      have hmark := Bool.and_eq_true_iff.mp (hmarks c hc)
      exact ⟨hmark.1, fun _ => bne_iff_ne.mp hmark.2⟩
  have hslash : ∀ c ∈ ['/'], P c := List.forall_mem_singleton.mpr (hadmits.mark '/' (by decide))
  have htext : ∀ c ∈ text, kind.isSlash c = false → Percent.keeps .path c = true → P c := by
    rintro c - hno hkept
    refine ⟨hkept, ?_⟩
    rintro hkind rfl
    simp [Scheme.isSlash, hkind] at hno
  have hall := forall_mem_readPath hadmits hasHost hslash htext
  exact ⟨.inr (isSettled_readPath kind text hasHost), fun c hc => (hall c hc).1,
    fun hkind hmem => (hall '\\' hmem).2 hkind rfl⟩

/-- Another scheme may have nothing after its authority. -/
theorem readPath_other_nil (hasHost : Bool) : readPath .other ⟨[], hasHost⟩ [] = ⟨[], hasHost⟩ := by
  simp [readPath, segments, segmentsFrom, Trail.add, isUp, isHere, skipStop, openDrive, oneSlash,
    Percent.encode]

/-- Another scheme may have its first slash in the text. -/
theorem readPath_other_slash (text : List Char) (hasHost : Bool) :
    readPath .other ⟨[], hasHost⟩ ('/' :: text) = readPath .other ⟨['/'], hasHost⟩ text := by
  have hsegments : segments .other ('/' :: text) = ⟨[], true⟩ :: segments .other text := rfl
  have hadd : Trail.add .other ⟨[], hasHost⟩ ⟨[], true⟩ = ⟨['/'], hasHost⟩ := by
    simp [Trail.add, isUp, isHere, skipStop, openDrive, Percent.encode]
  rw [readPath, hsegments, List.foldl_cons, hadd, readPath]

/-- The path of a URL with a host that was read. -/
theorem isHostedPath_of_parse {text : String} (h : parse text = .ok url)
    (hhost : url.hostText ≠ none) :
    IsHostedPath (Scheme.of url.scheme.toList) url.path.toList := by
  obtain ⟨scheme, authority, rest, rfl⟩ := isAfterAuthority_of_parse h hhost
  have hscheme (path text : List Char) :
      (withPath scheme (some authority) path text).scheme.toList = scheme := String.toList_ofList
  have hpath (path text : List Char) :
      (withPath scheme (some authority) path text).path.toList =
        (readPath (Scheme.of scheme) ⟨path, true⟩ (pathText text)).path := String.toList_ofList
  rw [hscheme, hpath]
  generalize Scheme.of scheme = kind
  cases hkind : kind.isSpecial with
  | true =>
    have hstart : (pathStart kind rest).1 = ['/'] := by
      cases rest <;> simp [pathStart, hkind]
    rw [hstart]
    exact isHostedPath_readPath kind _ true
  | false =>
    obtain rfl : kind = .other := by cases kind <;> first | rfl | cases hkind
    cases rest with
    | nil => exact (readPath_other_nil true).symm ▸ isHostedPath_nil .other
    | cons c rest =>
      by_cases hc : c = '/' ∨ isPathEnd c = true
      · have hstart : pathStart .other (c :: rest) = ([], c :: rest) := by
          simp [pathStart, Scheme.isSpecial, hc]
        rw [hstart]
        rcases hc with rfl | hend
        · have htext : pathText ('/' :: rest) = '/' :: pathText rest := rfl
          rw [htext, readPath_other_slash]
          exact isHostedPath_readPath .other _ true
        · have htext : pathText (c :: rest) = [] :=
            List.takeWhile_cons_of_neg (by simp [hend])
          rw [htext, readPath_other_nil]
          exact isHostedPath_nil .other
      · have hstart : pathStart .other (c :: rest) = (['/'], c :: rest) := by
          simp [pathStart, Scheme.isSpecial, hc]
        rw [hstart]
        exact isHostedPath_readPath .other _ true

end Webrev.Url
