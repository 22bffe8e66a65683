import Webrev.Generation.Plan
import Mathlib.Data.String.Basic

/-!
# The title of a webrev

Without a title that is asked for, a webrev is called after its issue: the last segment of the path
of the page, segments that are empty not counting. When there is no such segment it is called after
the published repository, and when that does not end in a name, after the working directory.

## Main definitions

* `Plan.EndsInSegment`, `Plan.EndsInName` : a URL and a text with a name at the end.
* `Plan.Titled` : the titles that are not asked for.

## Main results

* `Plan.lastSegment?_eq_some_iff`, `Plan.afterSlash?_eq_some_iff` : what the two names are.
* `Plan.titled_titleOf` : the title that is chosen when none is asked for.
-/

namespace Webrev.Plan

/-- A URL whose last segment that is not empty is a name. -/
def EndsInSegment (uri name : String) : Prop :=
  name ≠ "" ∧ ∃ url front blanks, Url.parse uri = .ok url ∧
    url.pathSegments = some (front ++ name.toList :: blanks) ∧ ∀ segment ∈ blanks, segment = []

/-- A text that ends in a slash and a name. -/
def EndsInName (text name : String) : Prop :=
  name ≠ "" ∧ '/' ∉ name.toList ∧ ∃ front, text = front ++ "/" ++ name

/-- The last element with a property has none with it after it. -/
theorem getLast?_filter_eq_some_iff {α : Type} {p : α → Bool} {l : List α} {a : α} :
    (l.filter p).getLast? = some a ↔
      p a = true ∧ ∃ front back, l = front ++ a :: back ∧ ∀ b ∈ back, p b = false := by
  rw [← List.head?_reverse, ← List.filter_reverse, List.head?_filter,
    List.find?_eq_some_iff_append]
  refine and_congr_right fun _ => ⟨?_, ?_⟩
  · rintro ⟨before, after, hl, hbefore⟩
    refine ⟨after.reverse, before.reverse, ?_, fun b hb => ?_⟩
    · simpa using congrArg List.reverse hl
    · simpa using hbefore b (List.mem_reverse.mp hb)
  · rintro ⟨front, back, rfl, hback⟩
    exact ⟨back.reverse, front.reverse, by simp, fun b hb => by
      simpa using hback b (List.mem_reverse.mp hb)⟩

/-- The last segment is that of the URL. -/
theorem lastSegment?_eq_some_iff {uri name : String} :
    lastSegment? uri = some name ↔ EndsInSegment uri name := by
  constructor
  · intro h
    unfold lastSegment? at h
    split at h
    · cases h
    next url hparse =>
      obtain ⟨segments, hsegments, h⟩ := Option.bind_eq_some_iff.mp h
      obtain ⟨segment, hlast, rfl⟩ := Option.map_eq_some_iff.mp h
      obtain ⟨hne, front, blanks, rfl, hblanks⟩ := getLast?_filter_eq_some_iff.mp hlast
      exact ⟨by simpa using hne, url, front, blanks, hparse, by simpa using hsegments,
        by simpa using hblanks⟩
  · rintro ⟨hne, url, front, blanks, hparse, hsegments, hblanks⟩
    have hlast : ((front ++ name.toList :: blanks).filter (· ≠ [])).getLast? = some name.toList :=
      getLast?_filter_eq_some_iff.mpr
        ⟨by simpa using hne, front, blanks, rfl, by simpa using hblanks⟩
    rw [lastSegment?, hparse]
    simp only [hsegments, Option.bind_some, hlast, Option.map_some, String.ofList_toList]

theorem exists_eq_append_slash {text : String} (h : '/' ∈ text.toList) :
    ∃ front tail, text = front ++ "/" ++ tail ∧ '/' ∉ tail.toList := by
  obtain ⟨tail, front, htext, htail⟩ := List.eq_append_cons_of_mem (List.mem_reverse.mpr h)
  refine ⟨String.ofList front.reverse, String.ofList tail.reverse, ?_, by simpa using htail⟩
  rw [← String.toList_inj]
  simpa using congrArg List.reverse htext

theorem afterSlash?_append {front tail : String} (h : '/' ∉ tail.toList) :
    afterSlash? (front ++ "/" ++ tail) = if tail = "" then none else some tail := by
  have hrest : ((front ++ "/" ++ tail).toList.reverse.takeWhile (· ≠ '/')).reverse =
      tail.toList := by
    have hkept : ∀ c ∈ tail.toList.reverse, decide (c ≠ '/') = true := fun c hc =>
      decide_eq_true fun heq => h (heq ▸ List.mem_reverse.mp hc)
    have hcut : (front ++ "/" ++ tail).toList.reverse =
        tail.toList.reverse ++ '/' :: front.toList.reverse := by simp
    rw [hcut, List.takeWhile_append_of_pos hkept, List.takeWhile_cons_of_neg (by simp),
      List.append_nil, List.reverse_reverse]
  rw [afterSlash?, if_pos (by simp), hrest]
  split_ifs with hempty
  · rw [hempty]
    rfl
  · split
    next htail => exact absurd (String.toList_eq_nil_iff.mp htail) hempty
    · rw [String.ofList_toList]

/-- What follows the last slash is the name that a text ends in. -/
theorem afterSlash?_eq_some_iff {text name : String} :
    afterSlash? text = some name ↔ EndsInName text name := by
  constructor
  · intro h
    have hslash : '/' ∈ text.toList := by
      by_contra hno
      rw [afterSlash?, if_neg (by simpa using hno)] at h
      cases h
    obtain ⟨front, tail, rfl, htail⟩ := exists_eq_append_slash hslash
    rw [afterSlash?_append htail] at h
    split_ifs at h with hempty
    obtain rfl := Option.some.inj h
    exact ⟨hempty, htail, front, rfl⟩
  · rintro ⟨hempty, htail, front, rfl⟩
    rw [afterSlash?_append htail, if_neg hempty]

/-! ### Titles -/

/-- The title of a webrev for which none is asked. -/
inductive Titled (cwd : String) (issue repository : Option String) : String → Prop
  /-- The name of the issue. -/
  | issue {uri name} (huri : issue = some uri) (hname : EndsInSegment uri name) :
      Titled cwd issue repository name
  /-- The name of the published repository, when the issue has none. -/
  | repository {text name} (hissue : ∀ uri ∈ issue, ∀ name, ¬EndsInSegment uri name)
      (htext : repository = some text) (hname : EndsInName text name) :
      Titled cwd issue repository name
  /-- The name of the working directory, when neither has one. -/
  | directory (hissue : ∀ uri ∈ issue, ∀ name, ¬EndsInSegment uri name)
      (hrepository : ∀ text ∈ repository, ∀ name, ¬EndsInName text name) :
      Titled cwd issue repository ((FilePath.fileName? cwd).getD "")

/-- The title that is chosen when none is asked for. -/
theorem titled_titleOf (issue repository : Option String) (cwd : String) :
    Titled cwd issue repository (titleOf none issue repository cwd) := by
  unfold titleOf
  cases hissue : issue.bind lastSegment? with
  | some name =>
    obtain ⟨uri, huri, hname⟩ := Option.bind_eq_some_iff.mp hissue
    exact .issue huri (lastSegment?_eq_some_iff.mp hname)
  | none =>
    have hunnamed : ∀ uri ∈ issue, ∀ name, ¬EndsInSegment uri name := fun uri huri name hname =>
      nomatch (Option.bind_eq_none_iff.mp hissue uri huri).symm.trans
        (lastSegment?_eq_some_iff.mpr hname)
    cases hrepository : repository.bind afterSlash? with
    | some name =>
      obtain ⟨text, htext, hname⟩ := Option.bind_eq_some_iff.mp hrepository
      exact .repository hunnamed htext (afterSlash?_eq_some_iff.mp hname)
    | none =>
      refine .directory hunnamed fun text htext name hname => ?_
      exact nomatch (Option.bind_eq_none_iff.mp hrepository text htext).symm.trans
        (afterSlash?_eq_some_iff.mpr hname)

end Webrev.Plan
