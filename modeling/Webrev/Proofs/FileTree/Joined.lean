import Webrev.Proofs.FileTree.Emptied

/-!
# Paths from a directory

A path that is joined to that of a directory leads through the directory, unless it is absolute. So
when what it leads to is emptied, and the directory does not lie there, the rest of the path starts
outside of what was emptied, and no step leads back into it. Of the ways in which a path can end
elsewhere this leaves two: its last name is `.`, or that of a link.

## Main definitions

* `FileTree.EndsLoosely` : a path whose names lead somewhere by `.` or by the name of a link.

## Main results

* `FilePath.names_join` : the names of a joined path.
* `FileTree.Walks.not_isBelow_of_clear` : no walk leads into what was emptied.
* `FileTree.endsElsewhere_join_iff` : how a joined path can end elsewhere.
-/

namespace Webrev

namespace FilePath

variable {base path : String}

theorem names_append_slash (base path : String) :
    names (base ++ "/" ++ path) = names base ++ names path := by
  have hslash : (base ++ "/" ++ path).toList = base.toList ++ '/' :: path.toList := by
    simp
  rw [names, pieces, hslash, List.splitOn_append_cons_self, List.map_append, List.filter_append]
  rfl

theorem exists_of_endsInSlash (h : endsInSlash base = true) : ∃ front, base = front ++ "/" := by
  rw [endsInSlash, beq_iff_eq] at h
  obtain ⟨front, hfront⟩ := List.getLast?_eq_some_iff.mp h
  exact ⟨String.ofList front, String.toList_injective (by simp [hfront])⟩

/-- The names of a joined path are those of both parts. -/
theorem names_join (hbase : base ≠ "") (hrelative : isAbsolute path = false) :
    names (join base path) = names base ++ names path := by
  rw [join, if_neg (by simp [hrelative])]
  cases hslash : endsInSlash base with
  | true =>
    obtain ⟨front, rfl⟩ := exists_of_endsInSlash hslash
    have hfront : names (front ++ "/") = names front := by
      have h := names_append_slash front ""
      simpa [names, pieces] using h
    rw [if_pos (by simp), names_append_slash, hfront]
  | false =>
    rw [if_neg (by simpa using hbase), names_append_slash]

theorem isAbsolute_join (hbase : base ≠ "") (hrelative : isAbsolute path = false) :
    isAbsolute (join base path) = isAbsolute base := by
  obtain ⟨c, rest, hrest⟩ : ∃ c rest, base.toList = c :: rest :=
    List.exists_cons_of_ne_nil (by simpa using hbase)
  rw [join, if_neg (by simp [hrelative])]
  split <;> simp [isAbsolute, hrest]

/-- A path without a name is empty or begins at the root. -/
theorem isAbsolute_of_names_eq_nil (hpath : path ≠ "") (h : names path = []) :
    isAbsolute path = true := by
  obtain ⟨c, rest, hrest⟩ : ∃ c rest, path.toList = c :: rest :=
    List.exists_cons_of_ne_nil (by simpa using hpath)
  by_contra hrelative
  have hc : ¬(c == '/') = true := by simpa [isAbsolute, hrest] using hrelative
  obtain ⟨piece, pieces', hpieces⟩ := List.exists_cons_of_ne_nil (List.splitOn_ne_nil '/' rest)
  rw [names, pieces, hrest, List.splitOn_cons_eq_if_modifyHead, if_neg hc, hpieces] at h
  simp at h

end FilePath

namespace FileTree

variable {tree : FileTree} {through : Bool} {links : Nat} {directory place working emptied : Place}
  {steps front : List String} {node : Node} {base path : String}

/-- A slash at the end of a path to a directory changes nothing. -/
theorem Walks.steps_of_names
    (h : Walks tree true links directory (FilePath.names path) place .directory) :
    Walks tree true links directory (FilePath.steps path) place .directory := by
  rw [FilePath.steps]
  split
  · obtain ⟨links', happend⟩ := h.append (List.cons_ne_nil "." [])
    exact happend _ _ _ (.stay .arrive)
  · exact h

theorem ne_empty_of_locateFrom {result : Place × Node}
    (h : tree.locateFrom directory through path = .ok result) : path ≠ "" := by
  rintro rfl
  cases h

/-! ### What was emptied -/

theorem isBelow_iff :
    isBelow emptied place = true ↔ ∃ name rest, place = emptied ++ name :: rest := by
  rw [isBelow, Bool.and_eq_true, List.isPrefixOf_iff_prefix, decide_eq_true_eq]
  constructor
  · rintro ⟨⟨rest, rfl⟩, hlength⟩
    have hrest : rest ≠ [] := by
      rintro rfl
      simp at hlength
    obtain ⟨name, rest, rfl⟩ := List.exists_cons_of_ne_nil hrest
    exact ⟨name, rest, rfl⟩
  · rintro ⟨name, rest, rfl⟩
    simp

theorem not_isBelow_nil : ¬isBelow emptied [] = true := by
  simp [isBelow_iff]

theorem not_isBelow_of_outside (h : ¬emptied <+: place) : ¬isBelow emptied place = true := by
  rw [isBelow_iff]
  rintro ⟨name, rest, rfl⟩
  exact h (List.prefix_append _ _)

/-- What has an entry after a directory was emptied does not lie in it. -/
theorem not_isBelow_of_node?_clear (h : (tree.clear emptied).node? place = some node) :
    ¬isBelow emptied place = true := by
  rw [node?_clear] at h
  split at h
  · cases h
  · assumption

theorem not_isBelow_dropLast (h : ¬isBelow emptied place = true) :
    ¬isBelow emptied place.dropLast = true := by
  rw [isBelow_iff] at h ⊢
  rintro ⟨name, rest, hdropped⟩
  have hplace : place ≠ [] := by
    rintro rfl
    simp at hdropped
  refine h ⟨name, rest ++ [place.getLast hplace], ?_⟩
  calc
    place = place.dropLast ++ [place.getLast hplace] := (List.dropLast_append_getLast hplace).symm
    _ = emptied ++ name :: (rest ++ [place.getLast hplace]) := by simp [hdropped]

/-- No walk leads into what was emptied. -/
theorem Walks.not_isBelow_of_clear
    (h : Walks (tree.clear emptied) through links directory steps place node)
    (hstart : ¬isBelow emptied directory = true) : ¬isBelow emptied place = true := by
  induction h with
  | arrive => exact hstart
  | stay _ ih => exact ih hstart
  | up _ ih => exact ih (not_isBelow_dropLast hstart)
  | enter _ _ hnode _ ih => exact ih (not_isBelow_of_node?_clear hnode)
  | file _ _ hnode => exact not_isBelow_of_node?_clear hnode
  | stop _ _ hnode _ => exact not_isBelow_of_node?_clear hnode
  | follow _ _ _ _ _ ih =>
    refine ih ?_
    split
    · exact not_isBelow_nil
    · exact hstart

/-- A walk that goes up to the directory that was emptied, from elsewhere, goes up to the root. -/
theorem Walks.eq_nil_of_up
    (h : Walks (tree.clear place) through links directory (front ++ [".."]) place node)
    (hstart : ¬isBelow place directory = true) : place = [] := by
  obtain ⟨above, links', hfront, hback⟩ := h.split (List.cons_ne_nil ".." [])
  have habove := hfront.not_isBelow_of_clear hstart
  have hup : place = above.dropLast := (hback.unique (.up .arrive)).1
  by_contra hplace
  have hne : above ≠ [] := fun hnil => hplace (by rw [hup, hnil]; rfl)
  refine habove (isBelow_iff.mpr ⟨above.getLast hne, [], ?_⟩)
  rw [hup, List.dropLast_append_getLast]

/-! ### Joined paths -/

/-- The names of a path lead somewhere by `.` or by the name of a link. -/
def EndsLoosely (tree : FileTree) (directory : Place) (path : String) : Prop :=
  ∃ named node,
    tree.walk false linkLimit (if FilePath.isAbsolute path then [] else directory)
      (FilePath.names path) = .ok (named, node) ∧
    ((FilePath.names path).getLast? = some "." ∨ ∃ target, node = .link target)

theorem EndsLoosely.endsElsewhere (h : EndsLoosely tree directory path) :
    EndsElsewhere tree directory path := by
  obtain ⟨named, node, hwalk, hends⟩ := h
  refine ⟨named, node, hwalk, hends.imp_left fun hdot name hname => .inl ?_⟩
  exact Option.some.inj (hname.symm.trans hdot)

section Outside

variable (hbase : tree.locateFrom directory true base = .ok (working, node))
  (houtside : ¬place <+: working)

include hbase houtside

/-- In a tree in which it was emptied, a joined path does not go up to the place, when the path that
it is joined to leads elsewhere. -/
theorem not_walks_join_up (hnames : FilePath.names (FilePath.join base path) = front ++ [".."]) :
    ¬Walks (tree.clear place) true linkLimit
      (if FilePath.isAbsolute (FilePath.join base path) then [] else directory)
      (FilePath.names (FilePath.join base path)) place .directory := by
  intro hwalks
  have hroot : place ≠ [] := fun hnil => houtside (hnil ▸ List.nil_prefix)
  cases habsolute : FilePath.isAbsolute path with
  | true =>
    have hjoin : FilePath.join base path = path := by rw [FilePath.join, if_pos habsolute]
    rw [hjoin] at hwalks hnames
    rw [hnames, if_pos habsolute] at hwalks
    exact hroot (hwalks.eq_nil_of_up not_isBelow_nil)
  | false =>
    have hne := ne_empty_of_locateFrom hbase
    rw [FilePath.names_join hne habsolute] at hwalks hnames
    rw [FilePath.isAbsolute_join hne habsolute] at hwalks
    -- The names of the base lead to the working directory also where the place was emptied.
    have hworking : ∀ {middle}, Walks (tree.clear place) true linkLimit
        (if FilePath.isAbsolute base then [] else directory) (FilePath.names base) middle
          .directory → middle = working := fun h =>
      ((h.of_isPart (isPart_clear tree place)).steps_of_names.unique (walks_of_locateFrom hbase)).1
    rcases List.eq_nil_or_concat' (FilePath.names path) with hnone | ⟨front', last, hlast⟩
    · rw [hnone, List.append_nil] at hwalks
      exact houtside (hworking hwalks ▸ List.prefix_rfl)
    · rw [hlast, ← List.append_assoc] at hnames
      obtain ⟨-, hup⟩ := List.append_inj' hnames rfl
      rw [hlast, hup] at hwalks
      obtain ⟨middle, links', hfront, hback⟩ := hwalks.split (by simp)
      rw [hworking hfront] at hback
      exact hroot (hback.eq_nil_of_up (not_isBelow_of_outside houtside))

/-- A joined path ends elsewhere, after the directory that it leads to was emptied, exactly when its
last name is `.` or that of a link: the path that it is joined to leads elsewhere. -/
theorem endsElsewhere_join_iff
    (hpath : tree.locateFrom directory true (FilePath.join base path) = .ok (place, .directory)) :
    EndsElsewhere (tree.clear place) directory (FilePath.join base path) ↔
      EndsLoosely (tree.clear place) directory (FilePath.join base path) := by
  refine ⟨fun hends => ?_, EndsLoosely.endsElsewhere⟩
  obtain ⟨named, node, hwalk, hends⟩ := hends
  refine ⟨named, node, hwalk, hends.imp_left fun hname => ?_⟩
  have hwalks := walks_of_walk_eq_ok hwalk
  rcases List.eq_nil_or_concat' (FilePath.names (FilePath.join base path)) with
    hnone | ⟨front, last, hlast⟩
  · have habsolute := FilePath.isAbsolute_of_names_eq_nil (ne_empty_of_locateFrom hpath) hnone
    have hroot : Walks tree true linkLimit
        (if FilePath.isAbsolute (FilePath.join base path) then [] else directory)
        (FilePath.names (FilePath.join base path)) [] .directory := by
      rw [hnone, if_pos habsolute]
      exact .arrive
    have hplace := (hroot.steps_of_names.unique (walks_of_locateFrom hpath)).1
    exact absurd (hplace ▸ List.nil_prefix) houtside
  · rcases hname last (by rw [hlast, List.getLast?_concat]) with rfl | rfl
    · rw [hlast, List.getLast?_concat]
    · have hdirectory : node = .directory := by
        rw [hlast] at hwalks
        obtain ⟨above, links', -, hback⟩ := hwalks.split (List.cons_ne_nil ".." [])
        exact (hback.unique (.up .arrive)).2
      obtain rfl := hdirectory
      have hthrough := hwalks.through_of_stop nofun
      have hthere := (hthrough.of_isPart (isPart_clear tree place)).steps_of_names
      obtain rfl := (hthere.unique (walks_of_locateFrom hpath)).1
      exact absurd hthrough (not_walks_join_up hbase houtside hlast)

end Outside

end FileTree

end Webrev
