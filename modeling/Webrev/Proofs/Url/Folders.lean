import Webrev.Proofs.Url.FullStops
import Webrev.Proofs.Url.PathCharacters
import Webrev.Proofs.Url.PathEnding

/-!
# Folders of paths

A path that is read from its first slash on is a list of folders, each with a slash after it, and a
last name, which may be empty. A segment `.` stays in the folder in hand, `..` leaves it, unless it
looks like a drive letter, and any other segment goes on to a folder, or is the last name. The
folders and the name are written as they are kept, and none of them is `.` or `..`, however written.
So a path that was read is read again as it stands, provided that no backslash in it is taken for a
slash.

## Main definitions

* `Url.folderPath` : a path up to the slash of its last folder.
* `Url.leave`, `Url.enter` : the folders after a segment.
* `Url.foldersOf`, `Url.nameOf` : the folders that a path leads to, and the last name.
* `Url.Settles` : a segment that neither stays nor leaves.

## Main results

* `Url.foldl_segments` : a path that is read is its folders and its last name, which settle.
* `Url.isSettled_readPath` : what is read is settled.
* `Url.readPath_settled` : a settled path without backslashes is read as it stands.
* `Url.folderPath_prefix_iff` : a path begins with its first folder.
-/

namespace Webrev.Url

/-! ### Folders -/

/-- A path up to the slash of its last folder. -/
def folderPath (folders : List (List Char)) : List Char := '/' :: folders.flatMap (· ++ ['/'])

/-- The folders without the last one, which stays if it looks like a drive letter. -/
def leave (folders : List (List Char)) : List (List Char) :=
  match folders.getLast? with
  | some last => if startsWithDrive (last ++ ['/']) then folders else folders.dropLast
  | none => []

/-- A segment as it stands in a path. A drive letter at the front of a `file` URL has a colon. -/
def written (kind : Scheme) (folders : List (List Char)) (segment : List Char) : List Char :=
  if kind = .file ∧ folders = [] ∧ isDrive segment then segment.take 1 ++ [':']
  else Percent.encode .path segment

/-- The folders after a segment. -/
def enter (kind : Scheme) (folders : List (List Char)) (segment : Segment) : List (List Char) :=
  if isUp segment.text then leave folders
  else if isHere segment.text then folders
  else if segment.slash then folders ++ [written kind folders segment.text]
  else folders

/-- What stands after the folders when a segment is read. -/
def nameAfter (kind : Scheme) (folders : List (List Char)) (segment : Segment) : List Char :=
  if segment.slash ∨ isUp segment.text ∨ isHere segment.text then []
  else written kind folders segment.text

/-- The folders that a path leads to. -/
def foldersOf (kind : Scheme) (path : List Char) : List (List Char) :=
  (segments kind path).foldl (enter kind) []

/-- What stands after the folders that a path leads to. -/
def nameOf (kind : Scheme) (path : List Char) : List Char :=
  nameAfter kind ((segments kind path).dropLast.foldl (enter kind) [])
    ((segments kind path).getLast?.getD ⟨[], false⟩)

theorem folderPath_concat (folders : List (List Char)) (last : List Char) :
    folderPath (folders ++ [last]) = folderPath folders ++ last ++ ['/'] := by
  simp [folderPath]

theorem exists_folderPath_eq (folders : List (List Char)) :
    ∃ front, folderPath folders = front ++ ['/'] := by
  rcases List.eq_nil_or_concat' folders with rfl | ⟨folders, last, rfl⟩
  · exact ⟨[], rfl⟩
  · exact ⟨_, folderPath_concat folders last⟩

theorem endsInSlash_folderPath (folders : List (List Char)) :
    endsInSlash (folderPath folders) = true := by
  obtain ⟨front, hfront⟩ := exists_folderPath_eq folders
  rw [hfront]
  exact endsInSlash_append front

theorem withSlash_folderPath (folders : List (List Char)) :
    withSlash (folderPath folders) = folderPath folders := if_pos (endsInSlash_folderPath folders)

/-- Behind its last slash a path has its name. -/
theorem lastSegment_folderPath (folders : List (List Char)) {name : List Char} (h : '/' ∉ name) :
    lastSegment (folderPath folders ++ name) = name := by
  have hname : ∀ c ∈ name.reverse, decide (c ≠ '/') = true := fun c hc =>
    decide_eq_true fun heq => h (heq ▸ List.mem_reverse.mp hc)
  obtain ⟨front, hfront⟩ := exists_folderPath_eq folders
  rw [lastSegment, hfront, List.reverse_append, List.reverse_concat,
    List.takeWhile_append_of_pos hname, List.takeWhile_cons_of_neg (by simp), List.append_nil,
    List.reverse_reverse]

/-- Up to its last slash a path has its folders. -/
theorem uptoSlash_folderPath (folders : List (List Char)) {name : List Char} (h : '/' ∉ name) :
    uptoSlash (folderPath folders ++ name) = folderPath folders := by
  have hname : ∀ c ∈ name.reverse, decide (c ≠ '/') = true := fun c hc =>
    decide_eq_true fun heq => h (heq ▸ List.mem_reverse.mp hc)
  obtain ⟨front, hfront⟩ := exists_folderPath_eq folders
  rw [uptoSlash, hfront, List.reverse_append, List.reverse_concat,
    List.dropWhile_append_of_pos hname, List.dropWhile_cons_of_neg (by simp), List.reverse_cons,
    List.reverse_reverse]

theorem pop_folderPath (kind : Scheme) (folders : List (List Char)) :
    pop kind (folderPath folders) = folderPath folders := by
  have hlast := lastSegment_folderPath folders List.not_mem_nil
  have hup := uptoSlash_folderPath folders List.not_mem_nil
  rw [List.append_nil] at hlast hup
  rw [pop, hlast, if_neg (by simp [isPlainDrive]), hup]

/-- The folder above. -/
theorem goUp_folderPath (kind : Scheme) {folders : List (List Char)}
    (h : ∀ folder ∈ folders, '/' ∉ folder) :
    goUp kind (folderPath folders) = folderPath (leave folders) := by
  rw [goUp, if_pos (endsInSlash_folderPath folders)]
  rcases List.eq_nil_or_concat' folders with rfl | ⟨folders, last, rfl⟩
  · exact pop_folderPath kind []
  · have hlast : '/' ∉ last := h last (by simp)
    have hfront : (folderPath folders ++ last).contains '/' = true := by simp [folderPath]
    rw [dropSlash, folderPath_concat, List.dropLast_concat, hfront, Bool.true_and,
      lastSegment_folderPath folders hlast, leave, List.getLast?_concat, ← folderPath_concat]
    dsimp only
    cases hdrive : startsWithDrive (last ++ ['/']) with
    | true => exact pop_folderPath kind (folders ++ [last])
    | false =>
      have hplain : ¬isPlainDrive last = true := fun hplain => by
        rw [startsWithDrive_of_isPlainDrive hplain] at hdrive
        cases hdrive
      rw [if_pos (by rfl), if_neg Bool.false_ne_true, pop, lastSegment_folderPath folders hlast,
        if_neg (fun hp => hplain hp.2), uptoSlash_folderPath folders hlast, List.dropLast_concat]

theorem openDrive_folderPath (kind : Scheme) (folders : List (List Char)) (segment : List Char) :
    openDrive kind (folderPath folders) segment = folderPath folders := by
  refine if_neg fun hdrive => ?_
  have hplain := hdrive.2.1
  rcases List.eq_nil_or_concat' folders with rfl | ⟨folders, last, rfl⟩
  · cases hplain
  · unfold isPlainDrive at hplain
    split at hplain
    next c heq =>
      have hcolon := congrArg List.getLast? heq
      simp [folderPath] at hcolon
    · cases hplain

/-- A segment is read after the folders. -/
theorem Trail.add_folderPath (kind : Scheme) {folders : List (List Char)}
    (h : ∀ folder ∈ folders, '/' ∉ folder) (segment : Segment) (hasHost : Bool) :
    (Trail.add kind ⟨folderPath folders, hasHost⟩ segment).path =
      folderPath (enter kind folders segment) ++ nameAfter kind folders segment := by
  have hfirst : (folderPath folders).length = 1 ↔ folders = [] := by
    cases folders <;> simp [folderPath]
  obtain ⟨text, slash⟩ := segment
  simp only [Trail.add, enter, nameAfter, openDrive_folderPath, hfirst]
  cases hup : isUp text with
  | true => simp [goUp_folderPath kind h, withSlash_folderPath]
  | false =>
    cases hhere : isHere text with
    | true => simp [withSlash_folderPath]
    | false =>
      by_cases hdrive : kind = .file ∧ folders = [] ∧ isDrive text = true
      · cases slash <;> simp [written, hdrive, folderPath]
      · cases slash <;> simp [written, hdrive, folderPath]

/-! ### Settled paths -/

/-- A segment without slashes that neither stays nor leaves. -/
structure Settles (segment : List Char) : Prop where
  slash : '/' ∉ segment
  up : isUp segment = false
  here : isHere segment = false

/-- A path of folders and a last name that settle. -/
def IsSettled (path : List Char) : Prop :=
  ∃ folders name, path = folderPath folders ++ name ∧ (∀ folder ∈ folders, Settles folder) ∧
    Settles name

theorem settles_nil : Settles [] := ⟨List.not_mem_nil, rfl, rfl⟩

theorem slash_notMem_of_isSlash {kind : Scheme} {segment : List Char}
    (h : ∀ c ∈ segment, kind.isSlash c = false) : '/' ∉ segment := fun hmem =>
  nomatch (h '/' hmem).symm.trans (show kind.isSlash '/' = true from Bool.true_or _)

/-- A segment settles that begins with none of the marks of full stops. -/
theorem settles_cons {c : Char} {segment : List Char} (hslash : '/' ∉ c :: segment)
    (hstop : c ≠ '.') (hnumber : c ≠ '%') : Settles (c :: segment) := by
  have hskip : skipStop (c :: segment) = none := by
    rw [Option.eq_none_iff_forall_ne_some]
    intro rest hrest
    rcases skipStop_eq_some_iff.mp hrest with heq | heq | heq
    · exact hstop (List.cons.inj heq).1
    · exact hnumber (List.cons.inj heq).1
    · exact hnumber (List.cons.inj heq).1
  refine ⟨hslash, ?_, ?_⟩
  · rw [isUp, hskip]
    rfl
  · rw [isHere, hskip]
    rfl

/-- A drive letter with its colon settles. -/
theorem settles_drive {c : Char} (h : c.isAlpha = true) : Settles [c, ':'] := by
  have hne {d : Char} (hd : d.isAlpha = false) : c ≠ d := by
    rintro rfl
    rw [h] at hd
    cases hd
  refine settles_cons ?_ (hne (by decide)) (hne (by decide))
  simp [(hne (d := '/') (by decide)).symm]

theorem settles_written {kind : Scheme} {folders : List (List Char)} {segment : List Char}
    (hslash : ∀ c ∈ segment, kind.isSlash c = false) (hup : isUp segment = false)
    (hhere : isHere segment = false) : Settles (written kind folders segment) := by
  unfold written
  split
  next hdrive =>
    obtain ⟨c, mark, rfl, hc⟩ := exists_of_isDrive hdrive.2.2
    exact settles_drive hc
  next =>
    refine ⟨fun hmem => ?_, (isUp_encode segment).trans hup, (isHere_encode segment).trans hhere⟩
    have hno : ∀ c ∈ Percent.encode .path segment, c ≠ '/' := by
      refine forall_mem_encode ⟨?_, List.forall_mem_singleton.mpr (by decide)⟩ fun c hc _ heq =>
        slash_notMem_of_isSlash hslash (heq ▸ hc)
      rintro c halphanum rfl
      exact absurd halphanum (by decide)
    exact hno '/' hmem rfl

theorem leave_subset (folders : List (List Char)) : leave folders ⊆ folders := by
  unfold leave
  split
  · split
    · exact List.Subset.refl folders
    · exact folders.dropLast_subset
  · exact List.nil_subset folders

theorem settles_enter {kind : Scheme} {folders : List (List Char)} {segment : Segment}
    (h : ∀ folder ∈ folders, Settles folder)
    (hslash : ∀ c ∈ segment.text, kind.isSlash c = false) :
    ∀ folder ∈ enter kind folders segment, Settles folder := by
  unfold enter
  split
  · exact fun folder hmem => h folder (leave_subset folders hmem)
  next hup =>
    split
    · exact h
    next hhere =>
      split
      · exact List.forall_mem_append.mpr ⟨h, List.forall_mem_singleton.mpr
          (settles_written hslash (by simpa using hup) (by simpa using hhere))⟩
      · exact h

theorem settles_nameAfter {kind : Scheme} (folders : List (List Char)) {segment : Segment}
    (hslash : ∀ c ∈ segment.text, kind.isSlash c = false) :
    Settles (nameAfter kind folders segment) := by
  unfold nameAfter
  split
  · exact settles_nil
  next hno =>
    simp only [not_or, Bool.not_eq_true] at hno
    exact settles_written hslash hno.2.1 hno.2.2

/-- The folders that segments lead to settle, and before the last segment they are the path. -/
theorem foldl_add_folderPath (kind : Scheme) {init : List Segment}
    (hinit : ∀ segment ∈ init, segment.slash = true)
    (hslash : ∀ segment ∈ init, ∀ c ∈ segment.text, kind.isSlash c = false)
    {folders : List (List Char)} (h : ∀ folder ∈ folders, Settles folder) (hasHost : Bool) :
    (∀ folder ∈ init.foldl (enter kind) folders, Settles folder) ∧
      (init.foldl (Trail.add kind) ⟨folderPath folders, hasHost⟩).path =
        folderPath (init.foldl (enter kind) folders) := by
  induction init generalizing folders hasHost with
  | nil => exact ⟨h, rfl⟩
  | cons segment init ih =>
    obtain ⟨hsegment, hinit⟩ := List.forall_mem_cons.mp hinit
    obtain ⟨htext, hslash⟩ := List.forall_mem_cons.mp hslash
    have hadd := Trail.add_folderPath kind (fun folder hmem => (h folder hmem).slash) segment
      hasHost
    -- A segment before the last one has a slash after it, so it leaves no name behind.
    have hname : nameAfter kind folders segment = [] := if_pos (.inl hsegment)
    rw [hname, List.append_nil] at hadd
    obtain ⟨hsettles, hpath⟩ := ih hinit hslash (settles_enter h htext)
      (Trail.add kind ⟨folderPath folders, hasHost⟩ segment).hasHost
    refine ⟨hsettles, ?_⟩
    rw [List.foldl_cons, List.foldl_cons, ← hpath, ← hadd]

theorem isSlash_of_mem_segments {kind : Scheme} {path : List Char} {segment : Segment}
    (h : segment ∈ segments kind path) : ∀ c ∈ segment.text, kind.isSlash c = false := fun c hc =>
  ((mem_of_mem_segmentsFrom h c hc).resolve_left List.not_mem_nil).2

/-- The folders and the name that a path leads to settle, and its segments are read to them. -/
theorem foldl_segments (kind : Scheme) (path : List Char) (hasHost : Bool) :
    (∀ folder ∈ foldersOf kind path, Settles folder) ∧ Settles (nameOf kind path) ∧
      ((segments kind path).foldl (Trail.add kind) ⟨['/'], hasHost⟩).path =
        folderPath (foldersOf kind path) ++ nameOf kind path := by
  obtain ⟨init, last, hsegments, hinit, -⟩ := exists_segmentsFrom_eq kind [] path
  replace hsegments : segments kind path = init ++ [⟨last, false⟩] := hsegments
  have hslash : ∀ segment ∈ init ++ [⟨last, false⟩], ∀ c ∈ segment.text, kind.isSlash c = false :=
    fun segment hmem => isSlash_of_mem_segments (hsegments ▸ hmem)
  obtain ⟨hslashInit, hslashLast⟩ := List.forall_mem_append.mp hslash
  replace hslashLast := List.forall_mem_singleton.mp hslashLast
  obtain ⟨hsettles, hpath⟩ :=
    foldl_add_folderPath kind hinit hslashInit (List.forall_mem_nil _) hasHost
  have hlast := Trail.add_folderPath kind (fun folder hmem => (hsettles folder hmem).slash)
    ⟨last, false⟩ (init.foldl (Trail.add kind) ⟨folderPath [], hasHost⟩).hasHost
  rw [← hpath] at hlast
  rw [foldersOf, nameOf, hsegments, List.dropLast_concat, List.getLast?_concat, List.foldl_append,
    List.foldl_append]
  exact ⟨settles_enter hsettles hslashLast, settles_nameAfter _ hslashLast, hlast⟩

/-- Slashes at the front are made one, and the path stays settled. -/
theorem IsSettled.oneSlash {path : List Char} (h : IsSettled path) (kind : Scheme) :
    IsSettled (oneSlash kind path) := by
  unfold Url.oneSlash
  split
  next =>
    obtain ⟨folders, name, rfl, hfolders, hname⟩ := h
    have hdrop {text : List Char} (htext : ∀ c ∈ text.head?, c ≠ '/') :
        text.dropWhile (· = '/') = text := by
      cases text with
      | nil => rfl
      | cons c text => exact List.dropWhile_cons_of_neg (by simpa using htext c rfl)
    -- Empty folders at the front go with the slashes, and the first other one stops them.
    induction folders with
    | nil =>
      refine ⟨[], name, ?_, hfolders, hname⟩
      rw [folderPath, List.flatMap_nil, List.cons_append, List.dropWhile_cons_of_pos (by simp),
        List.nil_append, hdrop fun c hc heq => hname.slash (heq ▸ List.mem_of_mem_head? hc)]
    | cons folder folders ih =>
      obtain ⟨hfolder, hmore⟩ := List.forall_mem_cons.mp hfolders
      cases folder with
      | nil =>
        rw [folderPath, List.flatMap_cons, List.nil_append, List.singleton_append, List.cons_append,
          List.dropWhile_cons_of_pos (by simp)]
        exact ih hmore
      | cons c folder =>
        refine ⟨(c :: folder) :: folders, name, ?_, hfolders, hname⟩
        have hc : c ≠ '/' := fun heq => hfolder.slash (heq ▸ List.mem_cons_self)
        rw [folderPath, List.flatMap_cons, List.cons_append, List.dropWhile_cons_of_pos (by simp)]
        exact congrArg _ (hdrop (by simpa using hc))
  next => exact h

/-- A path that is read from its first slash on is settled. -/
theorem isSettled_readPath (kind : Scheme) (path : List Char) (hasHost : Bool) :
    IsSettled (readPath kind ⟨['/'], hasHost⟩ path).path := by
  obtain ⟨hfolders, hname, hpath⟩ := foldl_segments kind path hasHost
  exact IsSettled.oneSlash ⟨_, _, hpath, hfolders, hname⟩ kind

/-- The path of a URL of a special scheme is its folders and its last name. -/
theorem path_readPath_special (path : List Char) (hasHost : Bool) :
    (readPath .special ⟨['/'], hasHost⟩ path).path =
      folderPath (foldersOf .special path) ++ nameOf .special path :=
  (foldl_segments .special path hasHost).2.2

/-! ### Reading settled paths -/

theorem segmentsFrom_append {kind : Scheme} {text : List Char}
    (h : ∀ c ∈ text, kind.isSlash c = false) (pending rest : List Char) :
    segmentsFrom kind pending (text ++ rest) =
      segmentsFrom kind (text.reverse ++ pending) rest := by
  induction text generalizing pending with
  | nil => rfl
  | cons c text ih =>
    obtain ⟨hc, htext⟩ := List.forall_mem_cons.mp h
    rw [List.cons_append, segmentsFrom, if_neg (by simp [hc]), ih htext]
    simp

/-- The segments of folders and a name are the folders and the name. -/
theorem segments_folders (kind : Scheme) {folders : List (List Char)} {name : List Char}
    (hfolders : ∀ folder ∈ folders, ∀ c ∈ folder, kind.isSlash c = false)
    (hname : ∀ c ∈ name, kind.isSlash c = false) :
    segments kind (folders.flatMap (· ++ ['/']) ++ name) =
      folders.map (⟨·, true⟩) ++ [⟨name, false⟩] := by
  have hslash : kind.isSlash '/' = true := Bool.true_or _
  induction folders with
  | nil =>
    have hsegment := segmentsFrom_append hname [] []
    rw [List.append_nil, List.append_nil] at hsegment
    rw [List.flatMap_nil, List.nil_append, segments, hsegment, segmentsFrom, List.reverse_reverse]
    rfl
  | cons folder folders ih =>
    obtain ⟨hfolder, hfolders⟩ := List.forall_mem_cons.mp hfolders
    rw [List.flatMap_cons, List.append_assoc, List.append_assoc, segments,
      segmentsFrom_append hfolder, List.singleton_append, segmentsFrom, if_pos hslash,
      ← segments, ih hfolders, List.append_nil, List.reverse_reverse]
    rfl

/-- A settled segment is entered as it stands. -/
theorem enter_settled {folders : List (List Char)} {segment : List Char} (h : Settles segment)
    (hkept : ∀ c ∈ segment, Percent.keeps .path c = true) :
    enter .special folders ⟨segment, true⟩ = folders ++ [segment] := by
  simp [enter, h.up, h.here, written, Percent.encode_eq_self hkept]

/-- Settled folders are entered one after the other. -/
theorem foldl_enter_settled {folders : List (List Char)} (front : List (List Char))
    (h : ∀ folder ∈ folders, Settles folder)
    (hkept : ∀ folder ∈ folders, ∀ c ∈ folder, Percent.keeps .path c = true) :
    (folders.map (Segment.mk · true)).foldl (enter .special) front = front ++ folders := by
  induction folders generalizing front with
  | nil => exact (List.append_nil front).symm
  | cons folder folders ih =>
    obtain ⟨hfolder, hmore⟩ := List.forall_mem_cons.mp h
    obtain ⟨hkeptHere, hkeptMore⟩ := List.forall_mem_cons.mp hkept
    rw [List.map_cons, List.foldl_cons, enter_settled hfolder hkeptHere, ih _ hmore hkeptMore,
      List.append_assoc, List.singleton_append]

/-- A settled path without backslashes is read as it stands. -/
theorem readPath_settled {path : List Char} (h : IsSettled path)
    (hkept : ∀ c ∈ path, Percent.keeps .path c = true) (hno : '\\' ∉ path) (hasHost : Bool) :
    (readPath .special ⟨['/'], hasHost⟩ (path.drop 1)).path = path := by
  obtain ⟨folders, name, rfl, hfolders, hname⟩ := h
  have hfolder : ∀ folder ∈ folders, folder ⊆ folderPath folders ++ name := by
    intro folder hmem c hc
    have hin : c ∈ folders.flatMap (· ++ ['/']) :=
      List.mem_flatMap.mpr ⟨folder, hmem, List.mem_append_left _ hc⟩
    exact List.mem_append_left _ (List.mem_cons_of_mem _ hin)
  have hlast : name ⊆ folderPath folders ++ name := List.subset_append_right _ _
  have hplain {segment : List Char} (hsettles : Settles segment)
      (hsub : segment ⊆ folderPath folders ++ name) :
      ∀ c ∈ segment, Scheme.special.isSlash c = false := fun c hc => by
    have hslash : c ≠ '/' := fun heq => hsettles.slash (heq ▸ hc)
    have hback : c ≠ '\\' := fun heq => hno (heq ▸ hsub hc)
    simp [Scheme.isSlash, hslash, hback]
  have hsegments : segments .special ((folderPath folders ++ name).drop 1) =
      folders.map (Segment.mk · true) ++ [⟨name, false⟩] :=
    segments_folders .special
      (fun folder hmem => hplain (hfolders folder hmem) (hfolder folder hmem))
      (hplain hname hlast)
  have hentered := foldl_enter_settled [] hfolders
    fun folder hmem c hc => hkept c (hfolder folder hmem hc)
  rw [path_readPath_special, foldersOf, nameOf, hsegments, List.dropLast_concat,
    List.getLast?_concat, List.foldl_append, hentered]
  simp [enter, nameAfter, hname.up, hname.here, written,
    Percent.encode_eq_self fun c hc => hkept c (hlast hc)]

/-! ### The first folder -/

/-- A path begins with a folder exactly when that is its first one. -/
theorem folderPath_prefix_iff {folders : List (List Char)} {first name : List Char}
    (hfirst : '/' ∉ first) (hfolders : ∀ folder ∈ folders, Settles folder) (hname : Settles name) :
    folderPath [first] <+: folderPath folders ++ name ↔ folders.head? = some first := by
  have hnone {text : List Char} (h : '/' ∉ text) : ∀ c ∈ text, ¬c = '/' :=
    fun c hc heq => h (heq ▸ hc)
  cases folders with
  | nil =>
    refine ⟨fun h => absurd ?_ hname.slash, nofun⟩
    have hbegins : first ++ ['/'] <+: name := by
      simpa [folderPath, List.cons_prefix_cons] using h
    exact hbegins.subset (by simp)
  | cons folder folders =>
    rw [List.head?_cons, Option.some_inj]
    constructor
    · rintro ⟨rest, hrest⟩
      have hslash := (hfolders folder List.mem_cons_self).slash
      simp only [folderPath, List.flatMap_cons, List.flatMap_nil, List.append_nil, List.cons_append,
        List.append_assoc, List.nil_append, List.cons.injEq, true_and] at hrest
      exact (Scan.append_cons_inj_of_first hrest (hnone hfirst) rfl (hnone hslash) rfl).1.symm
    · rintro rfl
      exact ⟨folders.flatMap (· ++ ['/']) ++ name, by simp [folderPath]⟩

end Webrev.Url
