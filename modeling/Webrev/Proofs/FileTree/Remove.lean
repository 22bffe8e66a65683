import Webrev.FileTree.Remove
import Webrev.Proofs.FileTree.Walk

/-!
# What a removal takes

The removal of what is at a path takes the entry that the path names, and what lies in it if that is
a directory. Links that lie there are taken and not gone through, and of a link at the path nothing
but the link is taken. When the removal succeeds, the path leads nowhere any more, be it that the
removal took the directory or that the path led through what was taken.

## Main results

* `FileTree.removeDirectory_place` : an empty directory is removed where the path leads.
* `FileTree.removeAll_isPart` : a removal adds and changes nothing.
* `FileTree.exists_of_node?_removeAll_ne` : what a removal takes.
* `FileTree.locateFrom_removeAll` : a path that was cleared leads nowhere.
-/

namespace Webrev.FileTree

open Machine (Fault)

variable {tree part : FileTree} {directory place named : Place} {path : String} {node : Node}

/-! ### Entries -/

theorem lookup_filter {entries : List (Place × Node)} (keeps : Place → Bool) (place : Place) :
    (entries.filter fun entry => keeps entry.1).lookup place =
      if keeps place then entries.lookup place else none := by
  induction entries with
  | nil => simp
  | cons entry entries ih =>
    obtain ⟨key, value⟩ := entry
    by_cases hkey : place = key
    · subst hkey
      cases hkeep : keeps place with
      | true => simp [hkeep]
      | false => simpa [hkeep] using ih
    · have hne : (place == key) = false := by simpa using hkey
      cases hkeep : keeps key with
      | true => simp [hkeep, List.lookup_cons, hne, ih]
      | false => simp [hkeep, List.lookup_cons, hne, ih]

theorem node?_of_ne_nil (tree : FileTree) (h : place ≠ []) :
    tree.node? place = tree.entries.lookup place := by
  rw [node?, if_neg (by simpa using h)]

theorem node?_clear (tree : FileTree) (directory place : Place) :
    (tree.clear directory).node? place =
      if isBelow directory place then none else tree.node? place := by
  by_cases hplace : place = []
  · rw [hplace, if_neg (by simp [isBelow])]
    rfl
  · rw [node?_of_ne_nil _ hplace, node?_of_ne_nil _ hplace, clear,
      lookup_filter fun place => !isBelow directory place]
    cases isBelow directory place <;> rfl

theorem node?_erase (tree : FileTree) (h : place ≠ []) :
    (tree.erase named).node? place = if place = named then none else tree.node? place := by
  rw [node?_of_ne_nil _ h, node?_of_ne_nil _ h, erase,
    lookup_filter fun place => decide (place ≠ named)]
  by_cases hnamed : place = named <;> simp [hnamed]

theorem isPart_clear (tree : FileTree) (directory : Place) :
    IsPart (tree.clear directory) tree := by
  intro place node h
  rw [node?_clear] at h
  split at h
  · cases h
  · exact h

theorem isPart_erase (tree : FileTree) (named : Place) : IsPart (tree.erase named) tree := by
  intro place node h
  by_cases hplace : place = []
  · subst hplace
    exact h
  · rw [node?_erase tree hplace] at h
    split at h
    · cases h
    · exact h

/-! ### Removing an empty directory -/

/-- A path that leads somewhere comes to a directory before its last name. -/
theorem exists_of_locateFrom {through : Bool} {name : String}
    (hlast : (FilePath.names path).getLast? = some name)
    (h : tree.locateFrom directory through path = .ok (place, node)) :
    ∃ above links rest, (rest = [] ∨ rest = ["."]) ∧
      Walks tree true linkLimit (if FilePath.isAbsolute path then [] else directory)
        (FilePath.names path).dropLast above .directory ∧
      Walks tree through links above (name :: rest) place node := by
  obtain ⟨rest, hsteps, hrest⟩ : ∃ rest,
      FilePath.steps path = (FilePath.names path).dropLast ++ name :: rest ∧
        (rest = [] ∨ rest = ["."]) := by
    obtain ⟨front, hfront⟩ := List.getLast?_eq_some_iff.mp hlast
    rw [FilePath.steps, hfront, List.dropLast_concat]
    split
    · exact ⟨["."], by simp, .inr rfl⟩
    · exact ⟨[], rfl, .inl rfl⟩
  have hwalks := walks_of_locateFrom h
  rw [hsteps] at hwalks
  obtain ⟨above, links, hfront, hback⟩ := hwalks.split (List.cons_ne_nil name rest)
  exact ⟨above, links, rest, hrest, hfront, hback⟩

/-- How the removal of an empty directory succeeds: the walk through all names but the last comes to
a directory, in which the last one names a directory. -/
theorem exists_of_removeDirectory_ok (h : tree.removeDirectory directory path = .ok part) :
    ∃ above name, (FilePath.names path).getLast? = some name ∧ (name ≠ "." ∧ name ≠ "..") ∧
      Walks tree true linkLimit (if FilePath.isAbsolute path then [] else directory)
        (FilePath.names path).dropLast above .directory ∧
      tree.node? (above ++ [name]) = some .directory ∧ part = tree.erase (above ++ [name]) := by
  unfold removeDirectory at h
  dsimp only at h
  cases hlast : (FilePath.names path).getLast? with
  | none =>
    rw [hlast] at h
    cases h
  | some name =>
    simp only [hlast, bind, Except.bind] at h
    -- Each check that fails ends the removal, so all of them have passed.
    split at h
    · cases h
    next walked hwalk =>
    obtain ⟨above, node⟩ := walked
    dsimp only at h
    split at h
    · cases h
    next hdirectory =>
    obtain rfl := not_not.mp hdirectory
    split at h
    · cases h
    next hdot =>
    split at h
    · cases h
    next hdots =>
    split at h
    · cases h
    next hnode =>
      split at h
      · obtain rfl := Except.ok.inj h
        exact ⟨above, name, rfl, ⟨hdot, hdots⟩, walks_of_walk_eq_ok hwalk, hnode, rfl⟩
      · cases h
    · cases h

/-- An empty directory is removed where the path leads to in a tree with more entries. -/
theorem removeDirectory_place {removed : FileTree} {through : Bool} (hpart : IsPart part tree)
    (h : part.removeDirectory directory path = .ok removed)
    (hlocate : tree.locateFrom directory through path = .ok (place, node)) :
    removed = part.erase place := by
  obtain ⟨above, name, hlast, hname, hwalk, hnode, rfl⟩ := exists_of_removeDirectory_ok h
  obtain ⟨middle, links, rest, hrest, hfront, hback⟩ := exists_of_locateFrom hlast hlocate
  obtain ⟨rfl, -⟩ := hfront.unique (hwalk.of_isPart hpart)
  obtain ⟨entry, hentry, henter⟩ := hback.exists_of_cons hname
  rw [hpart _ _ hnode] at hentry
  have hdone := (henter (Option.some.inj hentry).symm).walk_eq_ok
  -- Nothing or the name of the directory itself is left to go.
  rcases hrest with rfl | rfl
  · rw [walk] at hdone
    rw [(Prod.mk.inj (Except.ok.inj hdone)).1]
  · rw [walk, walk] at hdone
    rw [(Prod.mk.inj (Except.ok.inj hdone)).1]

/-- After an empty directory was removed the path leads nowhere. -/
theorem locateFrom_of_removeDirectory_ok {removed : FileTree} {through : Bool}
    (h : tree.removeDirectory directory path = .ok removed) (entry : Place × Node) :
    removed.locateFrom directory through path ≠ .ok entry := by
  intro hlocate
  obtain ⟨above, name, hlast, hname, hwalk, -, rfl⟩ := exists_of_removeDirectory_ok h
  obtain ⟨middle, links, rest, -, hfront, hback⟩ := exists_of_locateFrom hlast hlocate
  obtain ⟨rfl, -⟩ := (hfront.of_isPart (isPart_erase tree _)).unique hwalk
  obtain ⟨entry, hentry, -⟩ := hback.exists_of_cons hname
  rw [node?_erase _ (by simp), if_pos rfl] at hentry
  cases hentry

/-- The removal of an empty directory fails for want of an entry only when the path leads
nowhere. -/
theorem locateFrom_of_removeDirectory_noEntry {through : Bool}
    (h : tree.removeDirectory directory path = .error .noEntry) (entry : Place × Node) :
    tree.locateFrom directory through path ≠ .ok entry := by
  intro hlocate
  unfold removeDirectory at h
  dsimp only at h
  cases hlast : (FilePath.names path).getLast? with
  | none =>
    rw [hlast] at h
    cases h
  | some name =>
    obtain ⟨above, links, rest, -, hfront, hback⟩ := exists_of_locateFrom hlast hlocate
    simp only [hlast, bind, Except.bind, hfront.walk_eq_ok] at h
    split at h
    · cases h
    split at h
    · cases h
    next hdot =>
    split at h
    · cases h
    next hdots =>
    obtain ⟨entry, hentry, -⟩ := hback.exists_of_cons ⟨hdot, hdots⟩
    rw [hentry] at h
    split at h
    · contradiction
    · split at h <;> cases h
    · cases h

/-! ### Removing everything -/

theorem removeEmptied_cases (tree : FileTree) (directory : Place) (path : String) :
    (∃ removed, tree.removeDirectory directory path = .ok removed ∧
        tree.removeEmptied directory path = (.ok (), removed)) ∨
      (tree.removeDirectory directory path = .error .noEntry ∧
        tree.removeEmptied directory path = (.ok (), tree)) ∨
      ∃ fault, tree.removeEmptied directory path = (.error fault, tree) := by
  unfold removeEmptied
  split
  next removed h => exact .inl ⟨removed, h, rfl⟩
  next h => exact .inr (.inl ⟨h, rfl⟩)
  next fault _ h => exact .inr (.inr ⟨fault, rfl⟩)

/-- What the removal of an emptied directory leaves: the tree as it is, or without the directory. -/
theorem removeEmptied_eq_or (hpart : IsPart part tree) {through : Bool}
    (hlocate : tree.locateFrom directory through path = .ok (place, node)) :
    (part.removeEmptied directory path).2 = part ∨
      (part.removeEmptied directory path).2 = part.erase place := by
  rcases removeEmptied_cases part directory path with
    ⟨removed, h, heq⟩ | ⟨-, heq⟩ | ⟨fault, heq⟩
  · exact .inr (by rw [heq, removeDirectory_place hpart h hlocate])
  · exact .inl (by rw [heq])
  · exact .inl (by rw [heq])

/-- A removal adds no entry and changes none. -/
theorem removeAll_isPart (tree : FileTree) (directory : Place) (path : String) :
    IsPart (tree.removeAll directory path).2 tree := by
  unfold removeAll
  split
  · exact .refl tree
  · exact isPart_erase tree _
  · exact .refl tree
  next place hlocate =>
    rcases removeEmptied_eq_or (isPart_clear tree place) hlocate with heq | heq
    · rw [heq]
      exact isPart_clear tree place
    · rw [heq]
      exact (isPart_erase _ place).trans (isPart_clear tree place)

theorem prefix_of_node?_clear_ne (h : (tree.clear named).node? place ≠ tree.node? place) :
    named <+: place := by
  rw [node?_clear] at h
  split at h
  next hbelow =>
    rw [isBelow, Bool.and_eq_true, List.isPrefixOf_iff_prefix] at hbelow
    exact hbelow.1
  · exact absurd rfl h

theorem eq_of_node?_erase_ne (h : (tree.erase named).node? place ≠ tree.node? place) :
    place = named := by
  by_cases hplace : place = []
  · subst hplace
    exact absurd rfl h
  · rw [node?_erase tree hplace] at h
    split at h
    · assumption
    · exact absurd rfl h

/-- What a removal takes is the entry that the path names, or lies in it. Of a link nothing but the
link is taken. -/
theorem exists_of_node?_removeAll_ne
    (h : (tree.removeAll directory path).2.node? place ≠ tree.node? place) :
    ∃ named node, tree.locateFrom directory false path = .ok (named, node) ∧
      (node = .directory ∧ named <+: place ∨ (∃ target, node = .link target) ∧ place = named) := by
  unfold removeAll at h
  split at h
  · exact absurd rfl h
  next named target hlocate =>
    exact ⟨named, .link target, hlocate, .inr ⟨⟨target, rfl⟩, eq_of_node?_erase_ne h⟩⟩
  · exact absurd rfl h
  next named hlocate =>
    refine ⟨named, .directory, hlocate, .inl ⟨rfl, ?_⟩⟩
    rcases removeEmptied_eq_or (isPart_clear tree named) hlocate with heq | heq
    · rw [heq] at h
      exact prefix_of_node?_clear_ne h
    · rw [heq] at h
      by_cases herased : ((tree.clear named).erase named).node? place =
          (tree.clear named).node? place
      · rw [herased] at h
        exact prefix_of_node?_clear_ne h
      · exact eq_of_node?_erase_ne herased ▸ List.prefix_rfl

/-- A path to a link that was removed leads nowhere. -/
theorem locateFrom_erase_link {target : String} {through : Bool}
    (h : tree.locateFrom directory false path = .ok (named, .link target))
    (entry : Place × Node) : (tree.erase named).locateFrom directory through path ≠ .ok entry := by
  intro hlocate
  obtain ⟨place, node, hstop⟩ : ∃ place node,
      (tree.erase named).locateFrom directory false path = .ok (place, node) := by
    cases through with
    | false => exact ⟨entry.1, entry.2, hlocate⟩
    | true =>
      rcases locateFrom_stop hlocate with hsame | ⟨place, target, hlink⟩
      · exact ⟨_, _, hsame⟩
      · exact ⟨_, _, hlink⟩
  have hsame := (locateFrom_of_isPart (isPart_erase tree named) hstop).symm.trans h
  obtain ⟨rfl, rfl⟩ := Prod.mk.inj (Except.ok.inj hsame)
  have hnode := (walks_of_locateFrom hstop).node?_eq nofun
  have hplace : place ≠ [] := by
    rintro rfl
    cases hnode
  rw [node?_erase tree hplace, if_pos rfl] at hnode
  cases hnode

/-- A path whose removal succeeded leads nowhere. -/
theorem locateFrom_removeAll (h : (tree.removeAll directory path).1 = .ok ()) (through : Bool)
    (entry : Place × Node) :
    (tree.removeAll directory path).2.locateFrom directory through path ≠ .ok entry := by
  unfold removeAll at h ⊢
  split
  next hlocate =>
    rw [hlocate] at h
    cases h
  next named target hlocate => exact locateFrom_erase_link hlocate entry
  next hlocate =>
    rw [hlocate] at h
    cases h
  next named hlocate =>
    rw [hlocate] at h
    rcases removeEmptied_cases (tree.clear named) directory path with
      ⟨removed, hremove, heq⟩ | ⟨hremove, heq⟩ | ⟨fault, heq⟩
    · rw [heq]
      exact locateFrom_of_removeDirectory_ok hremove entry
    · rw [heq]
      exact locateFrom_of_removeDirectory_noEntry hremove entry
    · dsimp only at h
      rw [heq] at h
      cases h

end Webrev.FileTree
