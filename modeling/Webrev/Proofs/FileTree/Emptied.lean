import Webrev.Proofs.FileTree.Remove

/-!
# Removals that end halfway

A directory is emptied before it is removed itself, and the second step looks at the path once more.
It fails when the names of the path still lead somewhere in the emptied tree, and not by a name of
the directory: there is no name, or the last one stays or goes up, or it is that of a link, which
only a slash after it leads through. A path that led through what was taken is none of these; there
is nothing left at it, and the removal succeeds.

## Main definitions

* `FileTree.EndsElsewhere` : a path whose names lead somewhere, and not by the name of a directory.

## Main results

* `FileTree.Walks.walk_of_isPart` : with fewer entries a walk arrives or fails for want of an entry.
* `FileTree.Walks.append` : a walk that comes to a directory goes on there.
* `FileTree.removeAll_error_iff` : when a directory is emptied and not removed.
-/

namespace Webrev.FileTree

open Machine (Fault)

variable {tree part : FileTree} {through : Bool} {links : Nat} {directory place named : Place}
  {steps : List String} {node : Node} {path : String}

/-! ### Walks with fewer entries -/

theorem IsPart.node?_cases (hpart : IsPart part tree) (h : tree.node? place = some node) :
    part.node? place = some node ∨ part.node? place = none := by
  cases hnode : part.node? place with
  | none => exact .inr rfl
  | some other =>
    rw [hpart _ _ hnode] at h
    exact .inl h

/-- The step of a walk along the name of a link that is gone through. -/
theorem walk_cons_link {name target : String} {rest : List String}
    (hname : name ≠ "." ∧ name ≠ "..") (hsize : ¬nameLimit < name.utf8ByteSize)
    (hnode : tree.node? (directory ++ [name]) = some (.link target))
    (hthrough : rest ≠ [] ∨ through = true) :
    tree.walk through (links + 1) directory (name :: rest) =
      tree.walk through links (if FilePath.isAbsolute target then [] else directory)
        (FilePath.steps target ++ rest) := by
  have hgo : ¬(rest.isEmpty && !through) = true := by
    rw [Bool.and_eq_true, List.isEmpty_iff, Bool.not_eq_true', not_and_or]
    exact hthrough.imp_right fun htrue => by simp [htrue]
  rw [walk_cons hname hsize, hnode]
  exact if_neg hgo

/-- With fewer entries a walk arrives where it arrives with more, or fails for want of an entry. -/
theorem Walks.walk_of_isPart (h : Walks tree through links directory steps place node)
    (hpart : IsPart part tree) :
    part.walk through links directory steps = .ok (place, node) ∨
      part.walk through links directory steps = .error .noEntry := by
  induction h with
  | arrive => exact .inl Walks.arrive.walk_eq_ok
  | stay _ ih | up _ ih =>
    rw [walk]
    exact ih
  | enter hname hsize hnode _ ih =>
    rw [walk_cons hname hsize]
    rcases hpart.node?_cases hnode with hkept | htaken
    · rw [hkept]
      exact ih
    · rw [htaken]
      exact .inr rfl
  | file hname hsize hnode =>
    rcases hpart.node?_cases hnode with hkept | htaken
    · exact .inl (Walks.file hname hsize hkept).walk_eq_ok
    · rw [walk_cons hname hsize, htaken]
      exact .inr rfl
  | stop hname hsize hnode hthrough =>
    rcases hpart.node?_cases hnode with hkept | htaken
    · exact .inl (Walks.stop hname hsize hkept hthrough).walk_eq_ok
    · rw [walk_cons hname hsize, htaken]
      exact .inr rfl
  | follow hname hsize hnode hthrough _ ih =>
    rcases hpart.node?_cases hnode with hkept | htaken
    · rw [walk_cons_link hname hsize hkept hthrough]
      exact ih
    · rw [walk_cons hname hsize, htaken]
      exact .inr rfl

/-- A walk that comes to a directory goes on there, with the links that are left to it. -/
theorem Walks.append {front rest : List String} (hrest : rest ≠ [])
    (h : Walks tree true links directory front named .directory) :
    ∃ links', ∀ through place node, Walks tree through links' named rest place node →
      Walks tree through links directory (front ++ rest) place node := by
  generalize hnode : Node.directory = middle at h
  induction h with
  | @arrive links => exact ⟨links, fun _ _ _ h => h⟩
  | stay _ ih =>
    obtain ⟨links', hback⟩ := ih hnode
    exact ⟨links', fun _ _ _ h => .stay (hback _ _ _ h)⟩
  | up _ ih =>
    obtain ⟨links', hback⟩ := ih hnode
    exact ⟨links', fun _ _ _ h => .up (hback _ _ _ h)⟩
  | enter hname hsize henter _ ih =>
    obtain ⟨links', hback⟩ := ih hnode
    exact ⟨links', fun _ _ _ h => .enter hname hsize henter (hback _ _ _ h)⟩
  | file | stop => cases hnode
  | @follow _ _ _ next target _ _ hname hsize hlink _ _ ih =>
    obtain ⟨links', hback⟩ := ih hnode
    refine ⟨links', fun _ _ _ h => .follow hname hsize hlink (.inl ?_) ?_⟩
    · exact fun hnil => hrest (List.append_eq_nil_iff.mp hnil).2
    · exact List.append_assoc (FilePath.steps target) next rest ▸ hback _ _ _ h

/-- A walk along one name that stops at a link stops at that of the name. -/
theorem Walks.node?_of_stop {name target : String} (hname : name ≠ "." ∧ name ≠ "..")
    (h : Walks tree false links directory [name] named (.link target)) :
    tree.node? (directory ++ [name]) = some (.link target) := by
  cases h with
  | stay => exact absurd rfl hname.1
  | up => exact absurd rfl hname.2
  | enter _ _ _ h => cases h
  | stop _ _ hnode _ => exact hnode
  | follow _ _ _ hgo _ => exact absurd hgo (by simp)

/-! ### Removing an emptied directory -/

/-- The removal of an empty directory, where the walk before the last name of its path comes to a
directory. -/
theorem removeDirectory_of_walk {above : Place} {name : String}
    (hlast : (FilePath.names path).getLast? = some name)
    (hwalk : tree.walk true linkLimit (if FilePath.isAbsolute path then [] else directory)
      (FilePath.names path).dropLast = .ok (above, .directory)) :
    tree.removeDirectory directory path =
      if name = "." then .error .invalidArgument
      else if name = ".." then .error .notEmpty
      else
        match tree.node? (above ++ [name]) with
        | none => .error .noEntry
        | some .directory =>
          if tree.isEmptyAt (above ++ [name]) then .ok (tree.erase (above ++ [name]))
          else .error .notEmpty
        | some _ => .error .notADirectory := by
  rw [removeDirectory, hlast]
  exact (congrArg (· >>= _) hwalk).trans rfl

theorem removeDirectory_of_walk_error {name : String} {fault : Fault}
    (hlast : (FilePath.names path).getLast? = some name)
    (hwalk : tree.walk true linkLimit (if FilePath.isAbsolute path then [] else directory)
      (FilePath.names path).dropLast = .error fault) :
    tree.removeDirectory directory path = .error fault := by
  simp only [removeDirectory, hlast, bind, Except.bind, hwalk]

theorem isEmptyAt_clear (tree : FileTree) (directory : Place) :
    (tree.clear directory).isEmptyAt directory = true := by
  simp [isEmptyAt, clear]

/-- The names of a path lead somewhere, and not by the name of a directory: there is no name, or the
last one stays or goes up, or it is the name of a link. -/
def EndsElsewhere (tree : FileTree) (directory : Place) (path : String) : Prop :=
  ∃ named node,
    tree.walk false linkLimit (if FilePath.isAbsolute path then [] else directory)
      (FilePath.names path) = .ok (named, node) ∧
    ((∀ name, (FilePath.names path).getLast? = some name → name = "." ∨ name = "..") ∨
      ∃ target, node = .link target)

/-- A path with names ends in the last one. -/
theorem names_eq_of_getLast? {name : String} (h : (FilePath.names path).getLast? = some name) :
    FilePath.names path = (FilePath.names path).dropLast ++ [name] := by
  obtain ⟨front, hfront⟩ := List.getLast?_eq_some_iff.mp h
  rw [hfront, List.dropLast_concat]

/-- A path ends elsewhere when the walk before its last name comes to a directory, and the last name
stays or goes up or is that of a link. -/
theorem endsElsewhere_of_walk {above : Place} {name : String}
    (hlast : (FilePath.names path).getLast? = some name)
    (hfront : Walks tree true linkLimit (if FilePath.isAbsolute path then [] else directory)
      (FilePath.names path).dropLast above .directory)
    (hname : name = "." ∨ name = ".." ∨ (name ≠ "." ∧ name ≠ "..") ∧
      ¬nameLimit < name.utf8ByteSize ∧ ∃ target, tree.node? (above ++ [name]) =
        some (.link target)) :
    EndsElsewhere tree directory path := by
  obtain ⟨links, happend⟩ := hfront.append (List.cons_ne_nil name [])
  unfold EndsElsewhere
  rw [hlast, names_eq_of_getLast? hlast]
  rcases hname with rfl | rfl | ⟨hname, hsize, target, hnode⟩
  · refine ⟨above, .directory, (happend _ _ _ (.stay .arrive)).walk_eq_ok, .inl ?_⟩
    exact fun name hsome => .inl (Option.some.inj hsome).symm
  · refine ⟨above.dropLast, .directory, (happend _ _ _ (.up .arrive)).walk_eq_ok, .inl ?_⟩
    exact fun name hsome => .inr (Option.some.inj hsome).symm
  · exact ⟨_, _, (happend _ _ _ (.stop hname hsize hnode rfl)).walk_eq_ok, .inr ⟨target, rfl⟩⟩

/-- An empty directory is not removed under a path that ends elsewhere. -/
theorem removeDirectory_of_endsElsewhere (h : EndsElsewhere tree directory path) :
    ∃ fault, fault ≠ .noEntry ∧ tree.removeDirectory directory path = .error fault := by
  obtain ⟨named, node, hwalk, hends⟩ := h
  cases hlast : (FilePath.names path).getLast? with
  | none => exact ⟨.busy, nofun, by simp only [removeDirectory, hlast]⟩
  | some name =>
    have hwalks := walks_of_walk_eq_ok hwalk
    rw [names_eq_of_getLast? hlast] at hwalks
    obtain ⟨above, links, hfront, hback⟩ := hwalks.split (List.cons_ne_nil name [])
    rw [removeDirectory_of_walk hlast hfront.walk_eq_ok]
    by_cases hdot : name = "."
    · exact ⟨.invalidArgument, nofun, if_pos hdot⟩
    by_cases hdots : name = ".."
    · exact ⟨.notEmpty, nofun, by rw [if_neg hdot, if_pos hdots]⟩
    obtain ⟨target, rfl⟩ : ∃ target, node = .link target :=
      hends.resolve_left fun hall => (hall name hlast).elim hdot hdots
    refine ⟨.notADirectory, nofun, ?_⟩
    rw [if_neg hdot, if_neg hdots, hback.node?_of_stop ⟨hdot, hdots⟩]

/-- The last name of a path that leads to a directory is the name of the directory, or that of a
link. -/
theorem Walks.node?_last {name : String} {rest : List String} (hrest : rest = [] ∨ rest = ["."])
    (hname : name ≠ "." ∧ name ≠ "..")
    (h : Walks tree through links directory (name :: rest) place .directory) :
    ¬nameLimit < name.utf8ByteSize ∧
      (place = directory ++ [name] ∧ tree.node? (directory ++ [name]) = some .directory ∨
        ∃ target, tree.node? (directory ++ [name]) = some (.link target)) := by
  cases h with
  | stay => exact absurd rfl hname.1
  | up => exact absurd rfl hname.2
  | enter _ hsize hnode h =>
    have hhere : Walks tree through links (directory ++ [name]) rest (directory ++ [name])
        .directory := by
      rcases hrest with rfl | rfl
      · exact .arrive
      · exact .stay .arrive
    exact ⟨hsize, .inl ⟨(h.unique hhere).1, hnode⟩⟩
  | follow _ hsize hnode _ _ => exact ⟨hsize, .inr ⟨_, hnode⟩⟩

/-- When an emptied directory is not removed, and something is there, its path ends elsewhere. -/
theorem endsElsewhere_of_removeDirectory_error {fault : Fault}
    (h : tree.locateFrom directory false path = .ok (place, .directory))
    (hentry : fault ≠ .noEntry)
    (hfails : (tree.clear place).removeDirectory directory path = .error fault) :
    EndsElsewhere (tree.clear place) directory path := by
  cases hlast : (FilePath.names path).getLast? with
  | none =>
    unfold EndsElsewhere
    rw [hlast, List.getLast?_eq_none_iff.mp hlast]
    exact ⟨_, _, Walks.arrive.walk_eq_ok, .inl nofun⟩
  | some name =>
    obtain ⟨above, links, rest, hrest, hfront, hback⟩ := exists_of_locateFrom hlast h
    rcases hfront.walk_of_isPart (isPart_clear tree place) with hkept | hmissing
    · refine endsElsewhere_of_walk hlast (walks_of_walk_eq_ok hkept) ?_
      by_cases hdot : name = "."
      · exact .inl hdot
      by_cases hdots : name = ".."
      · exact .inr (.inl hdots)
      rw [removeDirectory_of_walk hlast hkept, if_neg hdot, if_neg hdots] at hfails
      obtain ⟨hsize, ⟨rfl, hnode⟩ | ⟨target, hnode⟩⟩ := hback.node?_last hrest ⟨hdot, hdots⟩
      -- The directory itself is still there and empty, and so it would have been removed.
      · rw [node?_clear, if_neg (by simp [isBelow]), hnode, isEmptyAt_clear] at hfails
        cases hfails
      · refine .inr (.inr ⟨⟨hdot, hdots⟩, hsize, target, ?_⟩)
        refine ((isPart_clear tree place).node?_cases hnode).resolve_right fun htaken => ?_
        rw [htaken] at hfails
        exact hentry (Except.error.inj hfails).symm
    · rw [removeDirectory_of_walk_error hlast hmissing] at hfails
      exact absurd (Except.error.inj hfails).symm hentry

/-- A directory is emptied and not removed under the paths that end elsewhere in the emptied
tree. -/
theorem removeAll_error_iff (h : tree.locateFrom directory false path = .ok (place, .directory)) :
    (∃ fault, (tree.removeAll directory path).1 = .error fault) ↔
      EndsElsewhere (tree.clear place) directory path := by
  have hremove : tree.removeAll directory path =
      (tree.clear place).removeEmptied directory path := by
    rw [removeAll, h]
  rw [hremove]
  constructor
  · rintro ⟨fault, hfault⟩
    unfold removeEmptied at hfault
    split at hfault
    · cases hfault
    · cases hfault
    next fault' hentry hfails => exact endsElsewhere_of_removeDirectory_error h hentry hfails
  · intro hends
    obtain ⟨fault, hentry, hfails⟩ := removeDirectory_of_endsElsewhere hends
    refine ⟨fault, ?_⟩
    unfold removeEmptied
    rw [hfails]
    cases fault <;> first | rfl | exact absurd rfl hentry

end Webrev.FileTree
