import Mathlib.Data.List.TakeWhile
import Webrev.Proofs.Url.Folders

/-!
# Paths of plain names

A name of ASCII letters, digits and hyphens is kept when it is read in the path of a URL: nothing in
it is a mark, nothing of it is written by number, and it is neither `.` nor `..`, so a path of such
names is settled. A text that is a host and such a path, after the scheme, is read as just that
URL.

## Main definitions

* `Url.isPlain` : the characters of plain names.

## Main results

* `Url.readPath_plain` : a path of plain names is kept.
* `Url.parse_https_append` : the URL of a host and of what comes after it.
* `Url.parse_https` : the URL that a host and a path of plain names are.
* `Url.pathSegments_plain` : the names are the segments of its path.
-/

namespace Webrev.Url

/-- A character of a plain name. -/
def isPlain (c : Char) : Bool := c.isAlphanum || c == '-'

/-! ### Plain characters -/

variable {c : Char}

theorem ne_of_holds {holds : Char → Bool} {d : Char} (h : holds c = true) (hd : holds d = false) :
    c ≠ d := by
  rintro rfl
  rw [h] at hd
  cases hd

theorem toNat_of_isPlain (h : isPlain c = true) : 0x20 < c.toNat ∧ c.toNat < 0x7F := by
  rcases Bool.or_eq_true_iff.mp h with halphanum | hhyphen
  · exact toNat_of_isAlphanum halphanum
  · obtain rfl := beq_iff_eq.mp hhyphen
    decide

theorem keeps_of_isPlain (h : isPlain c = true) : Percent.keeps .path c = true := by
  obtain ⟨hlow, hhigh⟩ := toNat_of_isPlain h
  have hnot : c ∉ Percent.Reserved.path := by
    intro hmem
    have hno : ∀ d ∈ Percent.Reserved.path, (!isPlain d) = true := List.all_eq_true.mp (by decide)
    have hc := hno c hmem
    rw [h] at hc
    cases hc
  simp [Percent.keeps, hnot, hhigh, Nat.le_of_lt hlow]

/-! ### Paths -/

/-- A path of plain names is settled: a name grows at its front by a plain character. -/
theorem isSettled_plain {path : List Char} (h : ∀ c ∈ path, isPlain c = true ∨ c = '/') :
    IsSettled ('/' :: path) := by
  induction path with
  | nil => exact ⟨[], [], rfl, List.forall_mem_nil _, settles_nil⟩
  | cons c path ih =>
    obtain ⟨hc, hpath⟩ := List.forall_mem_cons.mp h
    obtain ⟨folders, name, heq, hfolders, hname⟩ := ih hpath
    have hrest : path = folders.flatMap (· ++ ['/']) ++ name := (List.cons.inj heq).2
    rcases hc with hc | rfl
    · have hgrown {segment : List Char} (hsegment : Settles segment) : Settles (c :: segment) :=
        settles_cons (by simp [hsegment.slash, (ne_of_holds hc (d := '/') (by decide)).symm])
          (ne_of_holds hc (by decide)) (ne_of_holds hc (by decide))
      cases folders with
      | nil => exact ⟨[], c :: name, by rw [hrest]; rfl, List.forall_mem_nil _, hgrown hname⟩
      | cons folder folders =>
        obtain ⟨hfolder, hmore⟩ := List.forall_mem_cons.mp hfolders
        exact ⟨(c :: folder) :: folders, name, by rw [hrest]; rfl,
          List.forall_mem_cons.mpr ⟨hgrown hfolder, hmore⟩, hname⟩
    · exact ⟨[] :: folders, name, by rw [hrest]; rfl,
        List.forall_mem_cons.mpr ⟨settles_nil, hfolders⟩, hname⟩

theorem readPath_plain {path : List Char} (h : ∀ c ∈ path, isPlain c = true ∨ c = '/')
    (hasHost : Bool) : (readPath .special ⟨['/'], hasHost⟩ path).path = '/' :: path := by
  have hkept : ∀ c ∈ '/' :: path, Percent.keeps .path c = true :=
    List.forall_mem_cons.mpr ⟨by decide, fun c hc =>
      (h c hc).elim keeps_of_isPlain fun hslash => hslash ▸ by decide⟩
  have hback : '\\' ∉ '/' :: path := fun hmem => by
    rcases List.mem_cons.mp hmem with heq | hmem
    · cases heq
    · rcases h '\\' hmem with hplain | heq
      · cases hplain
      · cases heq
  exact readPath_settled (isSettled_plain h) hkept hback hasHost

/-! ### Authorities -/

/-- A character of a name that a full stop may stand in. -/
def isDotted (c : Char) : Bool := isPlain c || c == '.'

theorem splitUserinfo_dotted {host rest : List Char} (h : ∀ c ∈ host, isDotted c = true)
    (hrest : ∀ c ∈ rest.head?, c = '/') :
    splitUserinfo .special (host ++ rest) = (none, host ++ rest) := by
  have hends : ∀ c ∈ host, (!endsAuthority .special c) = true := fun c hc => by
    simp [endsAuthority, Scheme.isSlash, isPathEnd, ne_of_holds (h c hc) (d := '/') (by decide),
      ne_of_holds (h c hc) (d := '\\') (by decide),
      ne_of_holds (h c hc) (d := '?') (by decide),
      ne_of_holds (h c hc) (d := '#') (by decide)]
  have hstops : rest.takeWhile (fun c => !endsAuthority .special c) = [] := by
    cases rest with
    | nil => rfl
    | cons c rest =>
      obtain rfl := hrest c rfl
      rfl
  have hat : ¬host.contains '@' = true := by
    rw [List.contains_iff_mem]
    exact fun hmem => ne_of_holds (h '@' hmem) (by decide) rfl
  rw [splitUserinfo, List.takeWhile_append_of_pos hends, hstops, List.append_nil, if_neg hat]

theorem splitHost_dotted {host rest : List Char} (h : ∀ c ∈ host, isDotted c = true)
    (hrest : ∀ c ∈ rest.head?, c = '/') :
    splitHost .special false (host ++ rest) = (host, rest) := by
  induction host with
  | nil =>
    cases rest with
    | nil => rfl
    | cons c rest =>
      obtain rfl := hrest c rfl
      rfl
  | cons c host ih =>
    obtain ⟨hc, hhost⟩ := List.forall_mem_cons.mp h
    have hne {d : Char} (hd : isDotted d = false) : c ≠ d := ne_of_holds hc hd
    have hgoes : ¬(c == ':' && !false || Scheme.special.isSlash c || isPathEnd c) = true := by
      simp [Scheme.isSlash, isPathEnd, hne (d := ':') (by decide), hne (d := '/') (by decide),
        hne (d := '\\') (by decide), hne (d := '?') (by decide), hne (d := '#') (by decide)]
    rw [List.cons_append, splitHost, if_neg hgoes, if_neg (hne (by decide)),
      if_neg (hne (by decide)), ih hhost]

/-- A host without a user and a port number. -/
theorem readAuthority_dotted {host rest : List Char} {name : Host}
    (h : ∀ c ∈ host, isDotted c = true) (hhost : readHost host = .ok name)
    (hname : name ≠ .domain "") (hrest : ∀ c ∈ rest.head?, c = '/') :
    readAuthority "https".toList (host ++ rest) = .ok (⟨"", "", name, none⟩, rest) := by
  have hkind : Scheme.of "https".toList = .special := by decide
  have hnil : host ≠ [] := by
    rintro rfl
    cases hhost
  have huser : readUserinfo [] = ("", "") := by decide
  have hport : readPort "https".toList rest = .ok (none, rest) := by
    cases rest with
    | nil => rfl
    | cons c rest =>
      obtain rfl := hrest c rfl
      rfl
  simp only [readAuthority, hkind, splitUserinfo_dotted h hrest, splitHost_dotted h hrest, hhost,
    hname, hnil, huser, hport, Option.getD_none, reduceCtorEq, false_and, and_false, if_false, bind,
    Except.bind, pure, Except.pure]
  exact if_pos rfl

/-! ### URLs -/

theorem clean_eq_self {text : List Char} (h : ∀ c ∈ text, 0x20 < c.toNat) : clean text = text := by
  have hmargin : ∀ c ∈ text, isMargin c = false := fun c hc =>
    decide_eq_false (Nat.not_le.mpr (h c hc))
  have hdrop {l : List Char} (hl : ∀ c ∈ l, isMargin c = false) : l.dropWhile isMargin = l := by
    cases l with
    | nil => rfl
    | cons c l => rw [List.dropWhile_cons_of_neg (by simp [hl c List.mem_cons_self])]
  rw [clean, hdrop hmargin, hdrop fun c hc => hmargin c (List.mem_reverse.mp hc),
    List.reverse_reverse, List.filter_eq_self]
  intro c hc
  have hne {d : Char} (hd : d.toNat ≤ 0x20) : c ≠ d := by
    rintro rfl
    exact absurd (h c hc) (Nat.not_lt.mpr hd)
  simp [hne (d := '\t') (by decide), hne (d := '\n') (by decide), hne (d := '\r') (by decide)]

/-- A URL that ends with its path. -/
theorem withPath_of_not_isPathEnd {text : List Char} (h : ∀ c ∈ text, isPathEnd c = false)
    (scheme : List Char) (authority : Option Authority) (path : List Char) :
    withPath scheme authority path text = ⟨String.ofList scheme, authority,
      String.ofList (readPath (Scheme.of scheme) ⟨path, true⟩ text).path, none, none⟩ := by
  have hgoes : ∀ c ∈ text, (!isPathEnd c) = true := fun c hc => by rw [h c hc, Bool.not_false]
  rw [withPath, pathText, afterPath, List.takeWhile_eq_self_iff.mpr hgoes,
    List.dropWhile_eq_nil_iff.mpr hgoes]
  rfl

theorem withPath_plain {path : List Char} (h : ∀ c ∈ path, isPlain c = true ∨ c = '/')
    (authority : Option Authority) :
    withPath "https".toList authority ['/'] path =
      ⟨"https", authority, String.ofList ('/' :: path), none, none⟩ := by
  have hkind : Scheme.of "https".toList = .special := by decide
  have hgoes : ∀ c ∈ path, isPathEnd c = false := by
    intro c hc
    rcases h c hc with hplain | rfl
    · simp [isPathEnd, ne_of_holds hplain (d := '?') (by decide),
        ne_of_holds hplain (d := '#') (by decide)]
    · decide
  rw [withPath_of_not_isPathEnd hgoes, hkind, readPath_plain h, String.ofList_toList]

theorem toNat_of_isDotted (h : isDotted c = true) : 0x20 < c.toNat := by
  rcases Bool.or_eq_true_iff.mp h with hplain | hstop
  · exact (toNat_of_isPlain hplain).1
  · obtain rfl := beq_iff_eq.mp hstop
    decide

/-- No slash is skipped in front of a host. -/
theorem dropWhile_isAnySlash_dotted {host : List Char} (h : ∀ c ∈ host, isDotted c = true)
    (hne : host ≠ []) (rest : List Char) :
    (host ++ rest).dropWhile isAnySlash = host ++ rest := by
  obtain ⟨c, host, rfl⟩ := List.exists_cons_of_ne_nil hne
  have hc := h c List.mem_cons_self
  have hstops : ¬isAnySlash c = true := by
    simp [isAnySlash, ne_of_holds hc (d := '/') (by decide),
      ne_of_holds hc (d := '\\') (by decide)]
  exact List.dropWhile_cons_of_neg hstops

/-- The URL of a host and of what comes after it from a slash on. -/
theorem parse_https_append {host rest : List Char} {name : Host}
    (h : ∀ c ∈ host, isDotted c = true) (hhost : readHost host = .ok name)
    (hname : name ≠ .domain "") (hrest : ∀ c ∈ rest.head?, c = '/')
    (hblank : ∀ c ∈ rest, 0x20 < c.toNat) :
    parse (String.ofList ("https://".toList ++ (host ++ rest))) =
      .ok (withPath "https".toList (some ⟨"", "", name, none⟩) ['/'] (rest.drop 1)) := by
  have hscheme (rest : List Char) :
      splitScheme? ("https://".toList ++ rest) = some ("https".toList, "//".toList ++ rest) := rfl
  have hne : host ≠ [] := by
    rintro rfl
    cases hhost
  have hclean : clean ("https://".toList ++ (host ++ rest)) = "https://".toList ++ (host ++ rest) :=
    clean_eq_self (List.forall_mem_append.mpr ⟨by simp, List.forall_mem_append.mpr
      ⟨fun c hc => toNat_of_isDotted (h c hc), hblank⟩⟩)
  have hslashes : ("//".toList ++ (host ++ rest)).dropWhile isAnySlash = host ++ rest :=
    dropWhile_isAnySlash_dotted h hne rest
  have hkind : Scheme.of "https".toList = .special := by decide
  have hstart : pathStart .special rest = (['/'], rest.drop 1) := by
    cases rest with
    | nil => rfl
    | cons c rest =>
      obtain rfl := hrest c rfl
      rfl
  rw [parse, read, String.toList_ofList, hclean, hscheme]
  simp only [readWithScheme, hkind, hslashes, Option.filter_none]
  rw [afterSlashes, readAuthority_dotted h hhost hname hrest]
  simp only [bind, Except.bind, pure, Except.pure, hkind, hstart]

/-- The URL that a host and a path of plain names are. -/
theorem parse_https {host path : List Char} {name : Host} (h : ∀ c ∈ host, isDotted c = true)
    (hhost : readHost host = .ok name) (hname : name ≠ .domain "")
    (hpath : ∀ c ∈ path, isPlain c = true ∨ c = '/') :
    parse (String.ofList ("https://".toList ++ (host ++ '/' :: path))) =
      .ok ⟨"https", some ⟨"", "", name, none⟩, String.ofList ('/' :: path), none, none⟩ := by
  have hblank : ∀ c ∈ '/' :: path, 0x20 < c.toNat := by
    refine List.forall_mem_cons.mpr ⟨by decide, fun c hc => ?_⟩
    rcases hpath c hc with hplain | rfl
    · exact (toNat_of_isPlain hplain).1
    · decide
  rw [parse_https_append h hhost hname (by simp) hblank]
  exact congrArg Except.ok (withPath_plain hpath _)

/-- The names are the segments of its path. -/
theorem pathSegments_plain {url : Url} {front name : List Char}
    (hpath : url.path = String.ofList ('/' :: (front ++ '/' :: name))) (hfront : '/' ∉ front)
    (hname : '/' ∉ name) : url.pathSegments = some [front, name] := by
  simp only [pathSegments, hpath, String.toList_ofList]
  rw [List.splitOn_append_cons_self_of_not_mem hfront, List.splitOn_eq_singleton hname]

end Webrev.Url
