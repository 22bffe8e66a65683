import Webrev.Url.Parse
import Webrev.Proofs.Text.Scan
import Webrev.Proofs.Url.NameEnd

/-!
# How the paths of URLs end

A path is written segment by segment, and only its last segment is at the end. The segments `.` and
`..` and an empty one leave a slash there, a drive letter leaves its colon, and any other segment is
written as it is, percent encoding apart. A query or a fragment after the path ends as it is written
down in the text.

## Main results

* `Url.Trail.add_last` : what the last segment of a path leaves.
* `Url.readPath_ending` : the end of a path.
* `Url.withTail_ending` : the end of a query or a fragment.
* `Url.withPath_ending` : the end of a URL that goes on with a path.
-/

namespace Webrev.Url

/-! ### Paths -/

theorem isNameChar_of_isSlash {kind : Scheme} {c : Char} (h : kind.isSlash c = true) :
    isNameChar c = false := by
  simp only [Scheme.isSlash, Bool.or_eq_true, beq_iff_eq, Bool.and_eq_true] at h
  rcases h with rfl | ⟨rfl, -⟩ <;> decide

theorem isNameChar_of_isPathEnd {c : Char} (h : isPathEnd c = true) : isNameChar c = false := by
  simp only [isPathEnd, Bool.or_eq_true, beq_iff_eq] at h
  rcases h with rfl | rfl <;> decide

/-- The last segment of a path has no slash after it, every other one has. It is the whole path or
stands after a slash. -/
theorem exists_segmentsFrom_eq (kind : Scheme) (pending path : List Char) :
    ∃ init last, segmentsFrom kind pending path = init ++ [⟨last, false⟩] ∧
      (∀ segment ∈ init, segment.slash = true) ∧
      (init = [] ∧ last = pending.reverse ++ path ∧ (∀ c ∈ path, kind.isSlash c = false) ∨
        init ≠ [] ∧ ∃ front slash, kind.isSlash slash = true ∧ path = front ++ slash :: last) := by
  induction path generalizing pending with
  | nil => exact ⟨[], _, rfl, by simp, .inl ⟨rfl, by simp, by simp⟩⟩
  | cons c path ih =>
    rw [segmentsFrom]
    cases hc : kind.isSlash c with
    | true =>
      obtain ⟨init, last, heq, hinit, hcases⟩ := ih []
      refine ⟨⟨pending.reverse, true⟩ :: init, last, by rw [if_pos rfl, heq]; rfl, ?_, .inr ?_⟩
      · rintro segment (_ | ⟨_, hmem⟩)
        · rfl
        · exact hinit segment hmem
      · refine ⟨List.cons_ne_nil _ _, ?_⟩
        rcases hcases with ⟨-, hlast, -⟩ | ⟨-, front, slash, hslash, rfl⟩
        · exact ⟨[], c, hc, by simpa using hlast.symm⟩
        · exact ⟨c :: front, slash, hslash, rfl⟩
    | false =>
      obtain ⟨init, last, heq, hinit, hcases⟩ := ih (c :: pending)
      refine ⟨init, last, by rw [if_neg Bool.false_ne_true, heq], hinit, ?_⟩
      rcases hcases with ⟨hnil, hlast, hno⟩ | ⟨hne, front, slash, hslash, rfl⟩
      · refine .inl ⟨hnil, by simpa using hlast, ?_⟩
        rintro d (_ | ⟨_, hmem⟩)
        · exact hc
        · exact hno d hmem
      · exact .inr ⟨hne, c :: front, slash, hslash, rfl⟩

theorem endsInSlash_append (path : List Char) : endsInSlash (path ++ ['/']) = true := by
  simp [endsInSlash]

theorem endsInSlash_withSlash (path : List Char) : endsInSlash (withSlash path) = true := by
  unfold withSlash
  split
  · assumption
  · exact endsInSlash_append path

theorem closed_of_endsInSlash {path : List Char} (h : endsInSlash path = true) : Closed path :=
  .inl (by simpa [endsInSlash] using h)

/-- A segment with a slash after it leaves a slash at the end of the path. -/
theorem Trail.endsInSlash_add {kind : Scheme} {trail : Trail} {segment : Segment}
    (h : segment.slash = true) : endsInSlash (trail.add kind segment).path = true := by
  simp only [Trail.add, h, if_true]
  split
  · exact endsInSlash_withSlash _
  split
  · exact endsInSlash_withSlash _
  split
  · rw [← List.append_assoc]
    exact endsInSlash_append _
  · rw [← List.append_assoc]
    exact endsInSlash_append _

theorem Trail.endsInSlash_foldl (kind : Scheme) {init : List Segment}
    (hinit : ∀ segment ∈ init, segment.slash = true) {trail : Trail}
    (h : init ≠ [] ∨ endsInSlash trail.path = true) :
    endsInSlash (init.foldl (Trail.add kind) trail).path = true := by
  induction init generalizing trail with
  | nil => exact h.resolve_left fun hne => hne rfl
  | cons segment init ih =>
    rw [List.foldl_cons]
    exact ih (fun s hs => hinit s (List.mem_cons_of_mem _ hs))
      (.inr (Trail.endsInSlash_add (hinit segment List.mem_cons_self)))

/-- Up to its last slash a path ends in one. -/
theorem endsInSlash_uptoSlash {path : List Char} (h : '/' ∈ path) :
    endsInSlash (uptoSlash path) = true := by
  rcases Scan.dropWhile_cases (fun c => decide (c ≠ '/')) path.reverse with
    ⟨-, hall⟩ | ⟨c, rest, hdrop, hc, -⟩
  · have hno := List.takeWhile_eq_self_iff.mp hall '/' (List.mem_reverse.mpr h)
    simp at hno
  · obtain rfl : c = '/' := by simpa using hc
    rw [uptoSlash, hdrop, List.reverse_cons]
    exact endsInSlash_append rest.reverse

/-- A drive letter and a slash begin with a drive letter. -/
theorem startsWithDrive_of_isPlainDrive {segment : List Char} (h : isPlainDrive segment = true) :
    startsWithDrive (segment ++ ['/']) = true := by
  unfold isPlainDrive at h
  split at h
  · simp [startsWithDrive, isDrive, isAnySlash, h]
  · cases h

/-- The segment before the slash at the end of a path is taken away up to its own slash: a drive
letter there keeps the slash after it. -/
theorem endsInSlash_goUp {kind : Scheme} {path : List Char} (h : endsInSlash path = true) :
    endsInSlash (goUp kind path) = true := by
  obtain ⟨front, rfl⟩ : ∃ front, path = front ++ ['/'] := by
    rw [endsInSlash, beq_iff_eq, List.getLast?_eq_some_iff] at h
    exact h
  have hself : endsInSlash (pop kind (front ++ ['/'])) = true := by
    unfold pop
    split
    · exact h
    · exact endsInSlash_uptoSlash (by simp)
  rw [goUp, if_pos h, dropSlash, List.dropLast_concat]
  split
  next hfront =>
    rw [Bool.and_eq_true, List.contains_iff_mem, Bool.not_eq_true'] at hfront
    unfold pop
    split
    next hdrive =>
      rw [startsWithDrive_of_isPlainDrive hdrive.2] at hfront
      exact absurd hfront.2 (by decide)
    · exact endsInSlash_uptoSlash hfront.1
  · exact hself

/-- The last segment is written at the end of a path that ends in a slash, or the path is closed. -/
theorem Trail.add_last (kind : Scheme) {trail : Trail} {last : List Char}
    (h : endsInSlash trail.path = true) :
    let path := (trail.add kind ⟨last, false⟩).path
    Closed path ∨ last ≠ [] ∧ '/' ∈ path ∧ EndAlike last path := by
  have hopen : endsInSlash (openDrive kind trail.path last) = true := by
    unfold openDrive
    split
    · exact endsInSlash_append _
    · exact h
  obtain ⟨front, hfront⟩ : ∃ front, openDrive kind trail.path last = front ++ ['/'] := by
    rw [endsInSlash, beq_iff_eq, List.getLast?_eq_some_iff] at hopen
    exact hopen
  simp only [Trail.add, Bool.false_eq_true, if_false]
  split
  · exact .inl (closed_of_endsInSlash (endsInSlash_goUp hopen))
  split
  · exact .inl (closed_of_endsInSlash (endsInSlash_withSlash _))
  split
  · exact .inl (.inr (by simp))
  · cases last with
    | nil => exact .inl (closed_of_endsInSlash (by simpa [Percent.encode] using hopen))
    | cons c last =>
      refine .inr ⟨List.cons_ne_nil c last, by simp [hfront], ?_⟩
      rw [hfront, List.append_assoc]
      exact (endAlike_encode (by decide) _).trans (endAlike_append_mark (by decide) front _)

/-- A path ends as before when the slashes at its front are made one, or it is that slash. -/
theorem endAlike_slash_dropWhile (path : List Char) :
    Closed ('/' :: path.dropWhile (· = '/')) ∨
      ¬Closed path ∧ EndAlike path ('/' :: path.dropWhile (· = '/')) := by
  induction path with
  | nil => exact .inl (.inl rfl)
  | cons c path ih =>
    by_cases hc : c = '/'
    · subst hc
      rw [List.dropWhile_cons_of_pos (by simp)]
      by_cases hpath : path = []
      · exact .inl (.inl (by rw [hpath]; rfl))
      · refine ih.imp_right fun ⟨hopen, halike⟩ => ⟨?_, ?_⟩
        · rwa [Closed, List.getLast?_cons_of_ne_nil hpath]
        · exact (endAlike_of_mark (by decide) [] hpath).trans halike
    · rw [List.dropWhile_cons_of_neg (by simpa using hc)]
      by_cases hclosed : Closed (c :: path)
      · exact .inl (hclosed.append ['/'])
      · exact .inr ⟨hclosed, endAlike_append_mark (by decide) [] _⟩

/-- The end of a path that is read after a slash, or begins with one. -/
theorem readPath_ending {kind : Scheme} {path text : List Char} (hasHost : Bool)
    (hpath : endsInSlash path = true ∨ text.head?.any kind.isSlash = true) :
    let written := (readPath kind ⟨path, hasHost⟩ text).path
    Closed written ∨ text ≠ [] ∧ '/' ∈ written ∧ EndAlike text written := by
  obtain ⟨init, last, hsegments, hinit, hcases⟩ := exists_segmentsFrom_eq kind [] text
  have hfront : init ≠ [] ∨ endsInSlash (Trail.mk path hasHost).path = true := by
    rcases hpath with hpath | hhead
    · exact .inr hpath
    rcases hcases with ⟨-, -, hno⟩ | ⟨hne, -⟩
    · cases text with
      | nil => cases hhead
      | cons c text =>
        rw [List.head?_cons, Option.any_some, hno c List.mem_cons_self] at hhead
        cases hhead
    · exact .inl hne
  have hlast : last ≠ [] → text ≠ [] ∧ EndAlike text last := by
    intro hne
    rcases hcases with ⟨-, rfl, -⟩ | ⟨-, front, slash, hslash, rfl⟩
    · exact ⟨hne, .refl _⟩
    · exact ⟨by simp, endAlike_of_mark (isNameChar_of_isSlash hslash) front hne⟩
  simp only [readPath, segments, hsegments, List.foldl_append, List.foldl_cons, List.foldl_nil]
  have hread : _ ∨ last ≠ [] ∧ _ := Trail.add_last kind (Trail.endsInSlash_foldl kind hinit hfront)
  unfold oneSlash
  split
  · rcases endAlike_slash_dropWhile _ with hclosed | ⟨hopen, halike⟩
    · exact .inl hclosed
    · obtain ⟨hne, -, hread⟩ := hread.resolve_left hopen
      exact .inr ⟨(hlast hne).1, List.mem_cons_self, ((hlast hne).2.trans hread).trans halike⟩
  · exact hread.imp_right fun ⟨hne, hmem, halike⟩ =>
      ⟨(hlast hne).1, hmem, (hlast hne).2.trans halike⟩

/-! ### Queries and fragments -/

theorem toList_text (url : Url) :
    url.text.toList = (url.scheme ++ ":" ++ hierarchy url.authority url.path).toList ++
      url.path.toList ++ (marked "?" url.query).toList ++ (marked "#" url.fragment).toList := by
  simp [text]

/-- A query or a fragment is written at the end of a URL. -/
theorem withTail_ending {url : Url} {front tail : List Char}
    (hhead : tail.head?.any isPathEnd = true) :
    EndAlike (front ++ tail) (url.withTail tail).text.toList := by
  cases tail with
  | nil => cases hhead
  | cons c rest =>
    simp only [List.head?_cons, Option.any_some, isPathEnd, Bool.or_eq_true, beq_iff_eq] at hhead
    rw [toList_text, withTail]
    rcases hhead with rfl | rfl
    · rcases Scan.dropWhile_cases (fun c => decide (c ≠ '#')) rest with
        ⟨hdrop, hall⟩ | ⟨mark, fragment, hdrop, hmark, hcut⟩
      · simp only [readTail, hdrop, hall, marked, String.toList_append, String.toList_ofList]
        rw [String.toList_empty, List.append_nil]
        exact endAlike_encode_of_mark (by split <;> decide) (by decide) (by decide) ..
      · obtain rfl : mark = '#' := by simpa using hmark
        simp only [readTail, hdrop, marked, readFragment, String.toList_append,
          String.toList_ofList]
        rw [hcut, ← List.cons_append, ← List.append_assoc]
        exact endAlike_encode_of_mark (by decide) (by decide) (by decide) ..
    · simp only [readTail, readFragment, marked, String.toList_append, String.toList_ofList]
      exact endAlike_encode_of_mark (by decide) (by decide) (by decide) ..

/-- Without a query and a fragment a URL stays as it is. -/
theorem withTail_nil {url : Url} (hquery : url.query = none) (hfragment : url.fragment = none) :
    url.withTail [] = url := by
  cases url
  subst hquery hfragment
  rfl

/-- The end of a URL that goes on with a path after a slash, or with one that begins with a slash.
Nothing of the text before the path counts. -/
theorem withPath_ending {scheme : List Char} {authority : Option Authority}
    {path counted text : List Char} (hcounted : text ≠ [] → EndAlike counted text)
    (hpath : endsInSlash path = true ∨
      text.head?.any (fun c => (Scheme.of scheme).isSlash c || isPathEnd c) = true) :
    Ending counted (withPath scheme authority path text).text.toList := by
  rcases Scan.dropWhile_cases (fun c => !isPathEnd c) text with
    ⟨hafter, htext⟩ | ⟨mark, tail, hafter, hmark, hcut⟩
  · have hslash : endsInSlash path = true ∨ text.head?.any (Scheme.of scheme).isSlash = true := by
      refine hpath.imp_right fun hhead => ?_
      cases text with
      | nil => cases hhead
      | cons c text =>
        have hc := List.takeWhile_eq_self_iff.mp htext c List.mem_cons_self
        simp only [List.head?_cons, Option.any_some, Bool.or_eq_true] at hhead ⊢
        exact hhead.resolve_right (by simpa using hc)
    rw [withPath, afterPath, hafter, pathText, htext, withTail_nil rfl rfl, toList_text]
    simp only [marked, String.toList_ofList, String.toList_empty, List.append_nil]
    rcases readPath_ending true hslash with hclosed | ⟨hne, hmem, halike⟩
    · exact .closed (hclosed.append _)
    · exact .alike (((hcounted hne).trans halike).trans (endAlike_append (by decide) _ hmem))
  · have hne : text ≠ [] := by
      rintro rfl
      cases hafter
    refine .alike ((hcounted hne).trans ?_)
    rw [withPath, afterPath, hafter, hcut]
    exact withTail_ending (by simpa using hmark)

end Webrev.Url
