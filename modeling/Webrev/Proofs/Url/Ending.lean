import Webrev.Proofs.Url.AuthorityEnding

/-!
# How URLs end

The written form of a URL against the text that it was read from. It ends in a slash or a colon, or
like the text; only where an empty port number goes, it ends like what stands before the colon.

## Main results

* `Url.afterSlashes_ending`, `Url.readOther_ending`, `Url.readFile_ending` : the ends of URLs of the
  kinds of schemes.
* `Url.parse_ending` : the end of any URL.
-/

namespace Webrev.Url

/-! ### URLs -/

/-- An authority of another scheme that nothing follows is the end of the URL. -/
theorem withPath_nil_of_other {scheme : List Char} (hkind : Scheme.of scheme = .other)
    (authority : Option Authority) :
    withPath scheme authority [] [] = ⟨String.ofList scheme, authority, "", none, none⟩ := by
  simp [withPath, hkind, readPath, pathText, segments, segmentsFrom, Trail.add, isUp, isHere,
    skipStop, openDrive, isDrive, oneSlash, Percent.encode, afterPath, withTail, readTail]

/-- The end of a URL whose path begins after an authority, if there is anything to begin it with. -/
theorem withPath_pathStart_ending {scheme counted rest : List Char} {authority : Option Authority}
    (hcounted : rest ≠ [] → EndAlike counted rest)
    (hhead : ∀ c ∈ rest.head?, isNameChar c = false)
    (hrest : rest ≠ [] ∨ (Scheme.of scheme).isSpecial = true) :
    Ending counted (withPath scheme authority (pathStart (Scheme.of scheme) rest).1
      (pathStart (Scheme.of scheme) rest).2).text.toList := by
  cases rest with
  | nil =>
    rw [pathStart, if_pos (hrest.resolve_left fun hne => hne rfl)]
    exact withPath_ending (fun hne => absurd rfl hne) (.inl rfl)
  | cons c rest =>
    have hc : isNameChar c = false := hhead c rfl
    replace hcounted := hcounted (List.cons_ne_nil c rest)
    cases hkind : (Scheme.of scheme).isSpecial with
    | true =>
      simp only [pathStart, hkind, if_true]
      refine withPath_ending (fun hne => ?_) (.inl rfl)
      split
      next hslash =>
        rw [if_pos hslash] at hne
        exact hcounted.trans (endAlike_of_mark hc [] hne)
      · exact hcounted
    | false =>
      simp only [pathStart, hkind, Bool.false_eq_true, if_false]
      refine withPath_ending (fun _ => hcounted) ?_
      split
      next hstart =>
        refine .inr ?_
        rcases hstart with rfl | hend
        · simp [Scheme.isSlash]
        · simp [hend]
      · exact .inl rfl

theorem afterSlashes_eq_ok {scheme text : List Char} {url : Url}
    (h : afterSlashes scheme text = .ok url) :
    ∃ authority rest, readAuthority scheme text = .ok (authority, rest) ∧
      url = withPath scheme (some authority) (pathStart (Scheme.of scheme) rest).1
        (pathStart (Scheme.of scheme) rest).2 := by
  unfold afterSlashes at h
  cases hread : readAuthority scheme text with
  | error reason =>
    rw [hread] at h
    cases h
  | ok read =>
    rw [hread] at h
    exact ⟨read.1, read.2, rfl, (Except.ok.inj h).symm⟩

/-- The end of a URL with an authority. -/
theorem afterSlashes_ending {scheme text front : List Char} {mark : Char} {url : Url}
    (hmark : isNameChar mark = false) (h : afterSlashes scheme text = .ok url) :
    Ending (front ++ mark :: text) url.text.toList := by
  obtain ⟨authority, rest, hread, rfl⟩ := afterSlashes_eq_ok h
  obtain ⟨⟨before, hbefore⟩, hhead⟩ := exists_of_readAuthority hread
  replace hhead : ∀ c ∈ rest.head?, isNameChar c = false := fun c hc =>
    (hhead c hc).elim isNameChar_of_isAnySlash isNameChar_of_isPathEnd
  by_cases hrest : rest ≠ [] ∨ (Scheme.of scheme).isSpecial = true
  · refine withPath_pathStart_ending (fun hne => ?_) hhead hrest
    obtain ⟨c, more, rfl⟩ := List.exists_cons_of_ne_nil hne
    rw [hbefore, ← List.cons_append, ← List.append_assoc]
    exact endAlike_of_append (hhead c rfl) _ List.mem_cons_self
  · obtain ⟨hnil, hkind⟩ := not_or.mp hrest
    obtain rfl := not_not.mp hnil
    have hother : Scheme.of scheme = .other := by simpa [Scheme.isSpecial] using hkind
    have hending : Ending (front ++ mark :: text) _ :=
      readAuthority_ending hother hmark hread (String.ofList scheme ++ ":/").toList
    rw [pathStart, if_neg hkind, withPath_nil_of_other hother, toList_text]
    simpa [hierarchy, marked] using hending

/-- The end of a URL without an authority that has no query and no fragment. -/
theorem withoutAuthority_ending (scheme : String) (path : List Char) :
    let url : Url := ⟨scheme, none, String.ofList path, none, none⟩
    Closed url.text.toList ∨ path ≠ [] ∧ EndAlike path url.text.toList := by
  dsimp only
  rw [toList_text]
  simp only [hierarchy, marked, String.toList_ofList, String.toList_empty, List.append_nil]
  split
  next hslashes =>
    obtain ⟨rest, rfl⟩ := List.isPrefixOf_iff_prefix.mp hslashes
    exact .inr ⟨by simp, endAlike_append (show isNameChar '/' = false by decide) _ (by simp)⟩
  · cases path with
    | nil => exact .inl (.inr (by simp))
    | cons c path =>
      refine .inr ⟨List.cons_ne_nil c path, ?_⟩
      have hmark : isNameChar ':' = false := by decide
      simpa using endAlike_append_mark hmark scheme.toList (c :: path)

/-- The end of a URL of another scheme. -/
theorem readOther_ending {scheme text front : List Char} {url : Url}
    (h : readOther scheme text = .ok url) : Ending (front ++ ':' :: text) url.text.toList := by
  unfold readOther at h
  split at h
  next rest =>
    have hending : Ending ((front ++ [':', '/']) ++ '/' :: rest) url.text.toList :=
      afterSlashes_ending (by decide) h
    simpa using hending
  next rest _ =>
    obtain rfl := Except.ok.inj h
    refine withPath_ending (fun hne => ?_) (.inl rfl)
    rw [List.append_cons]
    exact endAlike_of_mark (by decide) _ hne
  next =>
    obtain rfl := Except.ok.inj h
    rcases Scan.dropWhile_cases (fun c => !isPathEnd c) text with
      ⟨hafter, htext⟩ | ⟨mark, tail, hafter, hmark, hcut⟩
    · rw [afterPath, hafter, pathText, htext, withTail_nil rfl rfl]
      rcases withoutAuthority_ending _ _ with hclosed | ⟨hne, halike⟩
      · exact .closed hclosed
      · refine .alike (((endAlike_of_mark (by decide) front ?_).trans
          (endAlike_encode (by decide) text)).trans halike)
        rintro rfl
        exact hne rfl
    · rw [afterPath, hafter, hcut, ← List.cons_append, ← List.append_assoc]
      exact .alike (withTail_ending (by simpa using hmark))

/-! ### `file` URLs -/

/-- What follows the host of a `file` URL is the whole text, or the rest of it from a slash or an
end on. -/
theorem readFileHost_cases {text rest : List Char} {host : Option Host}
    (h : readFileHost text = .ok (host, rest)) :
    host = none ∧ rest = text ∨
      (∃ before, text = before ++ rest) ∧ ∀ c ∈ rest.head?, isNameChar c = false := by
  have hrest : (∃ before, text = before ++ text.dropWhile fun c => !endsAuthority .file c) ∧
      ∀ c ∈ (text.dropWhile fun c => !endsAuthority .file c).head?, isNameChar c = false := by
    rcases Scan.dropWhile_cases (fun c => !endsAuthority .file c) text with
      ⟨hdrop, -⟩ | ⟨mark, rest, hdrop, hmark, hcut⟩
    · rw [hdrop]
      exact ⟨⟨text, (List.append_nil text).symm⟩, by simp⟩
    · rw [hdrop]
      refine ⟨⟨_, hcut⟩, ?_⟩
      rintro c ⟨⟩
      rw [Bool.not_eq_false', endsAuthority, Bool.or_eq_true] at hmark
      exact hmark.elim isNameChar_of_isSlash isNameChar_of_isPathEnd
  unfold readFileHost at h
  simp only [bind, Except.bind, pure, Except.pure] at h
  split at h
  · obtain ⟨rfl, rfl⟩ := Prod.mk.inj (Except.ok.inj h)
    exact .inl ⟨rfl, rfl⟩
  split at h
  · obtain ⟨-, rfl⟩ := Prod.mk.inj (Except.ok.inj h)
    exact .inr hrest
  split at h
  · cases h
  · obtain ⟨-, rfl⟩ := Prod.mk.inj (Except.ok.inj h)
    exact .inr hrest

/-- The end of a `file` URL after the two slashes of its authority. -/
theorem afterFileSlashes_ending {text front : List Char} {mark : Char} {url : Url}
    (hmark : isNameChar mark = false) (h : afterFileSlashes text = .ok url) :
    Ending (front ++ mark :: text) url.text.toList := by
  unfold afterFileSlashes at h
  cases hread : readFileHost text with
  | error reason =>
    rw [hread] at h
    cases h
  | ok read =>
    obtain ⟨host, rest⟩ := read
    rw [hread] at h
    have hcounted : rest ≠ [] → EndAlike (front ++ mark :: text) rest := by
      intro hne
      rcases readFileHost_cases hread with ⟨-, rfl⟩ | ⟨⟨before, rfl⟩, hhead⟩
      · exact endAlike_of_mark hmark front hne
      · obtain ⟨c, more, rfl⟩ := List.exists_cons_of_ne_nil hne
        rw [← List.cons_append, ← List.append_assoc]
        exact endAlike_of_append (hhead c rfl) _ List.mem_cons_self
    cases host with
    | none =>
      obtain rfl := Except.ok.inj h
      exact withPath_ending hcounted (.inl rfl)
    | some host =>
      have hhead : ∀ c ∈ rest.head?, isNameChar c = false := by
        rcases readFileHost_cases hread with ⟨hnone, -⟩ | ⟨-, hhead⟩
        · cases hnone
        · exact hhead
      have hending : ∀ authority, Ending (front ++ mark :: text) (withPath fileScheme authority
          (pathStart .file rest).1 (pathStart .file rest).2).text.toList :=
        fun _ => withPath_pathStart_ending hcounted hhead (.inr rfl)
      simp only [bind, Except.bind, pure, Except.pure] at h
      split at h
      · obtain rfl := Except.ok.inj h
        exact hending _
      · obtain rfl := Except.ok.inj h
        exact hending _

/-- The end of a `file` URL that is relative to no base. -/
theorem readFile_ending {text front : List Char} {url : Url}
    (h : readFile none text = .ok url) : Ending (front ++ ':' :: text) url.text.toList := by
  have hslash : ∀ {slash : Char} (rest : List Char), isNameChar slash = false →
      Ending (front ++ ':' :: slash :: rest) (afterFileSlash none rest).text.toList := by
    intro slash rest hmark
    simp only [afterFileSlash, ite_self]
    by_cases hrest : rest = []
    · rw [hrest]
      exact .closed (.inl (by decide +kernel))
    · refine withPath_ending (fun _ => ?_) (.inr rfl)
      rw [List.append_cons]
      exact (endAlike_of_mark hmark _ hrest).trans (endAlike_append_mark (by decide) [] rest)
  unfold readFile at h
  split at h
  next c rest =>
    split at h
    next hc =>
      split at h
      · obtain rfl := Except.ok.inj h
        exact hslash [] (isNameChar_of_isAnySlash hc)
      next d after =>
        split at h
        next hd =>
          have hending : Ending ((front ++ [':', c]) ++ d :: after) url.text.toList :=
            afterFileSlashes_ending (isNameChar_of_isAnySlash hd) h
          simpa using hending
        · obtain rfl := Except.ok.inj h
          exact hslash _ (isNameChar_of_isAnySlash hc)
    · obtain rfl := Except.ok.inj h
      exact withPath_ending (endAlike_of_mark (by decide) front) (.inl rfl)
  · obtain rfl := Except.ok.inj h
    exact withPath_ending (endAlike_of_mark (by decide) front) (.inl rfl)

/-! ### Any text -/

/-- The end of a URL of a special scheme. -/
theorem afterSlashes_dropWhile_ending {scheme text front : List Char} {url : Url}
    (h : afterSlashes scheme (text.dropWhile isAnySlash) = .ok url) :
    Ending (front ++ ':' :: text) url.text.toList := by
  obtain ⟨before, mark, hmark, htext⟩ : ∃ before mark, isNameChar mark = false ∧
      front ++ ':' :: text = before ++ mark :: text.dropWhile isAnySlash := by
    have hcut := List.takeWhile_append_dropWhile (p := isAnySlash) (l := text)
    rcases List.eq_nil_or_concat' (text.takeWhile isAnySlash) with hnil | ⟨slashes, slash, hslashes⟩
    · rw [hnil, List.nil_append] at hcut
      exact ⟨front, ':', by decide, by rw [hcut]⟩
    · have hmem : slash ∈ text.takeWhile isAnySlash := by simp [hslashes]
      refine ⟨front ++ ':' :: slashes, slash, ?_, ?_⟩
      · exact isNameChar_of_isAnySlash (List.mem_takeWhile_imp hmem)
      · nth_rewrite 1 [← hcut]
        rw [hslashes]
        simp
  rw [htext]
  exact afterSlashes_ending hmark h

/-- A scheme stands with its colon in front of a text. -/
theorem exists_of_splitScheme?_eq_some {text scheme rest : List Char}
    (h : splitScheme? text = some (scheme, rest)) : ∃ front, text = front ++ ':' :: rest := by
  unfold splitScheme? at h
  dsimp only at h
  split at h
  next hdrop =>
    split at h
    · obtain ⟨-, rfl⟩ := Prod.mk.inj (Option.some.inj h)
      exact ⟨text.takeWhile isSchemeChar, by rw [← hdrop, List.takeWhile_append_dropWhile]⟩
    · cases h
  · cases h

/-- The end of any URL. -/
theorem parse_ending {text : String} {url : Url} (h : parse text = .ok url) :
    Ending (clean text.toList) url.text.toList := by
  unfold parse read at h
  dsimp only at h
  split at h
  next scheme rest hscheme =>
    obtain ⟨front, hfront⟩ := exists_of_splitScheme?_eq_some hscheme
    rw [hfront]
    unfold readWithScheme at h
    simp only [Option.filter_none] at h
    split at h
    · exact readFile_ending h
    · contradiction
    · exact afterSlashes_dropWhile_ending h
    · exact readOther_ending h
  next => cases h

end Webrev.Url
