import Mathlib.Data.List.Infix
import Webrev.FileTree.Walk

/-!
# Walks that arrive

A walk through a file tree as a relation: how a walk arrives at an entry, step by step. What a walk
that arrives has gone through is in the tree, so it arrives at the same entry in every tree that has
more entries, and whoever removes entries only makes walks fail.

## Main definitions

* `FileTree.Walks` : a walk that arrives at an entry.
* `FileTree.HasDirectory` : a place at which there is a directory, and above it as well.
* `FileTree.IsPart` : a tree with some of the entries of another one.

## Main results

* `FileTree.walk_eq_ok_iff` : the walks that arrive are those that the relation says.
* `FileTree.Walks.hasDirectory`, `FileTree.Walks.node?_eq` : what a walk arrives at is in the tree.
* `FileTree.Walks.of_isPart` : a walk arrives where it arrives with fewer entries.
* `FileTree.Walks.split` : a walk can be cut at any of its steps.
* `FileTree.Walks.stop_of_through`, `FileTree.Walks.through_of_stop` : a link at the end.
-/

namespace Webrev.FileTree

open Machine (Fault)

/-- A walk through a tree arrives at an entry. Every step is a case: nothing is left to go, a name
stays or goes up, leads into a directory, is a file at the end, is a link at the end that is not
gone through, or a link that is. -/
inductive Walks (tree : FileTree) (through : Bool) :
    Nat → Place → List String → Place → Node → Prop
  | arrive {links directory} : Walks tree through links directory [] directory .directory
  | stay {links directory rest place node}
      (h : Walks tree through links directory rest place node) :
      Walks tree through links directory ("." :: rest) place node
  | up {links directory rest place node}
      (h : Walks tree through links directory.dropLast rest place node) :
      Walks tree through links directory (".." :: rest) place node
  | enter {links directory name rest place node} (hname : name ≠ "." ∧ name ≠ "..")
      (hsize : ¬nameLimit < name.utf8ByteSize)
      (hnode : tree.node? (directory ++ [name]) = some .directory)
      (h : Walks tree through links (directory ++ [name]) rest place node) :
      Walks tree through links directory (name :: rest) place node
  | file {links directory name contents executable} (hname : name ≠ "." ∧ name ≠ "..")
      (hsize : ¬nameLimit < name.utf8ByteSize)
      (hnode : tree.node? (directory ++ [name]) = some (.file contents executable)) :
      Walks tree through links directory [name] (directory ++ [name]) (.file contents executable)
  | stop {links directory name target} (hname : name ≠ "." ∧ name ≠ "..")
      (hsize : ¬nameLimit < name.utf8ByteSize)
      (hnode : tree.node? (directory ++ [name]) = some (.link target))
      (hthrough : through = false) :
      Walks tree through links directory [name] (directory ++ [name]) (.link target)
  | follow {links directory name rest target place node} (hname : name ≠ "." ∧ name ≠ "..")
      (hsize : ¬nameLimit < name.utf8ByteSize)
      (hnode : tree.node? (directory ++ [name]) = some (.link target))
      (hthrough : rest ≠ [] ∨ through = true)
      (h : Walks tree through links (if FilePath.isAbsolute target then [] else directory)
        (FilePath.steps target ++ rest) place node) :
      Walks tree through (links + 1) directory (name :: rest) place node

variable {tree part : FileTree} {through : Bool} {links : Nat} {directory place : Place}
  {steps : List String} {node : Node}

theorem walks_of_walk_eq_ok (h : tree.walk through links directory steps = .ok (place, node)) :
    Walks tree through links directory steps place node := by
  fun_induction walk tree through links directory steps with
  | case1 directory =>
    obtain ⟨rfl, rfl⟩ := Prod.mk.inj (Except.ok.inj h)
    exact .arrive
  | case2 links directory rest ih => exact .stay (ih h)
  | case3 links directory rest ih => exact .up (ih h)
  | case6 links directory name rest hdot hdots hsize here hnode ih =>
    exact .enter ⟨hdot, hdots⟩ hsize hnode (ih h)
  | case7 links directory name rest hdot hdots hsize here contents executable hnode hlast =>
    obtain ⟨rfl, rfl⟩ := Prod.mk.inj (Except.ok.inj h)
    obtain rfl := List.isEmpty_iff.mp hlast
    exact .file ⟨hdot, hdots⟩ hsize hnode
  | case9 links directory name rest hdot hdots hsize here target hnode hstop =>
    obtain ⟨rfl, rfl⟩ := Prod.mk.inj (Except.ok.inj h)
    rw [Bool.and_eq_true, List.isEmpty_iff, Bool.not_eq_true'] at hstop
    obtain ⟨rfl, hthrough⟩ := hstop
    exact .stop ⟨hdot, hdots⟩ hsize hnode hthrough
  | case11 directory name rest hdot hdots hsize here target hnode hgo links ih =>
    refine .follow ⟨hdot, hdots⟩ hsize hnode ?_ (ih h)
    rw [Bool.and_eq_true, List.isEmpty_iff, Bool.not_eq_true', not_and_or] at hgo
    exact hgo.imp_right fun hthrough => by simpa using hthrough
  | case4 | case5 | case8 | case10 => cases h

/-- The step of a walk along a name that stands for an entry. -/
theorem walk_cons {name : String} {rest : List String} (hname : name ≠ "." ∧ name ≠ "..")
    (hsize : ¬nameLimit < name.utf8ByteSize) :
    tree.walk through links directory (name :: rest) =
      match tree.node? (directory ++ [name]) with
      | none => .error .noEntry
      | some .directory => tree.walk through links (directory ++ [name]) rest
      | some (.file contents executable) =>
        if rest.isEmpty then .ok (directory ++ [name], .file contents executable)
        else .error .notADirectory
      | some (.link target) =>
        if rest.isEmpty && !through then .ok (directory ++ [name], .link target)
        else
          match links with
          | 0 => .error .tooManyLinks
          | links + 1 =>
            tree.walk through links (if FilePath.isAbsolute target then [] else directory)
              (FilePath.steps target ++ rest) :=
  (walk.eq_4 tree through links directory name rest hname.1 hname.2).trans (if_neg hsize)

theorem Walks.walk_eq_ok (h : Walks tree through links directory steps place node) :
    tree.walk through links directory steps = .ok (place, node) := by
  induction h with
  | arrive => rw [walk]
  | stay _ ih => rw [walk, ih]
  | up _ ih => rw [walk, ih]
  | enter hname hsize hnode _ ih => rw [walk_cons hname hsize, hnode, ← ih]
  | file hname hsize hnode =>
    rw [walk_cons hname hsize, hnode]
    rfl
  | stop hname hsize hnode hthrough =>
    rw [walk_cons hname hsize, hnode, hthrough]
    rfl
  | @follow _ _ _ rest _ _ _ hname hsize hnode hthrough _ ih =>
    have hgo : ¬(rest.isEmpty && !through) = true := by
      rw [Bool.and_eq_true, List.isEmpty_iff, Bool.not_eq_true', not_and_or]
      exact hthrough.imp_right fun htrue => by simp [htrue]
    rw [walk_cons hname hsize, hnode, ← ih]
    exact if_neg hgo

/-- The walks that arrive are those that the relation says. -/
theorem walk_eq_ok_iff :
    tree.walk through links directory steps = .ok (place, node) ↔
      Walks tree through links directory steps place node :=
  ⟨walks_of_walk_eq_ok, Walks.walk_eq_ok⟩

/-- A walk arrives at one entry only. -/
theorem Walks.unique {place' : Place} {node' : Node}
    (h : Walks tree through links directory steps place node)
    (h' : Walks tree through links directory steps place' node') :
    place = place' ∧ node = node' :=
  Prod.mk.inj (Except.ok.inj (h.walk_eq_ok.symm.trans h'.walk_eq_ok))

/-! ### What a walk arrives at -/

/-- There is a directory at a place, and at every place above it. -/
def HasDirectory (tree : FileTree) (place : Place) : Prop :=
  ∀ above, above <+: place → tree.node? above = some .directory

instance (tree : FileTree) (place : Place) : Decidable (HasDirectory tree place) :=
  decidable_of_iff (∀ above ∈ place.inits, tree.node? above = some .directory) <|
    forall_congr' fun above => by rw [List.mem_inits]

theorem HasDirectory.nil : HasDirectory tree [] := by
  intro above h
  obtain rfl := List.prefix_nil.mp h
  rfl

theorem HasDirectory.dropLast (h : HasDirectory tree place) : HasDirectory tree place.dropLast :=
  fun above habove => h above (habove.trans (List.dropLast_prefix place))

theorem HasDirectory.concat {name : String} (h : HasDirectory tree directory)
    (hnode : tree.node? (directory ++ [name]) = some .directory) :
    HasDirectory tree (directory ++ [name]) := by
  intro above habove
  rcases List.prefix_concat_iff.mp habove with rfl | habove
  · exact hnode
  · exact h above habove

/-- A walk that arrives at a directory arrives at one with all the directories above it. -/
theorem Walks.hasDirectory (h : Walks tree through links directory steps place .directory)
    (hstart : HasDirectory tree directory) : HasDirectory tree place := by
  generalize hnode : Node.directory = node at h
  induction h with
  | arrive => exact hstart
  | stay _ ih => exact ih hstart hnode
  | up _ ih => exact ih hstart.dropLast hnode
  | enter _ _ henter _ ih => exact ih (hstart.concat henter) hnode
  | file => cases hnode
  | stop => cases hnode
  | follow _ _ _ _ _ ih =>
    refine ih ?_ hnode
    split
    · exact .nil
    · exact hstart

/-- A file or a link that a walk arrives at is in the tree. -/
theorem Walks.node?_eq (h : Walks tree through links directory steps place node)
    (hnode : node ≠ .directory) : tree.node? place = some node := by
  induction h with
  | arrive => exact absurd rfl hnode
  | stay _ ih | up _ ih | enter _ _ _ _ ih | follow _ _ _ _ _ ih => exact ih hnode
  | file _ _ hfile => exact hfile
  | stop _ _ hlink _ => exact hlink

/-! ### Fewer entries -/

/-- A tree with some of the entries of another one. -/
def IsPart (part tree : FileTree) : Prop :=
  ∀ place node, part.node? place = some node → tree.node? place = some node

theorem IsPart.refl (tree : FileTree) : IsPart tree tree := fun _ _ h => h

theorem IsPart.trans {middle : FileTree} (h : IsPart part middle) (h' : IsPart middle tree) :
    IsPart part tree := fun place node hnode => h' place node (h place node hnode)

/-- With more entries a walk arrives where it arrives with fewer. -/
theorem Walks.of_isPart (h : Walks part through links directory steps place node)
    (hpart : IsPart part tree) : Walks tree through links directory steps place node := by
  induction h with
  | arrive => exact .arrive
  | stay _ ih => exact .stay ih
  | up _ ih => exact .up ih
  | enter hname hsize hnode _ ih => exact .enter hname hsize (hpart _ _ hnode) ih
  | file hname hsize hnode => exact .file hname hsize (hpart _ _ hnode)
  | stop hname hsize hnode hthrough => exact .stop hname hsize (hpart _ _ hnode) hthrough
  | follow hname hsize hnode hthrough _ ih =>
    exact .follow hname hsize (hpart _ _ hnode) hthrough ih

/-! ### Links at the end -/

/-- A walk that goes through every link goes as far when the last one is not gone through: it stops
there, or arrives at the same entry. -/
theorem Walks.stop_of_through (h : Walks tree true links directory steps place node) :
    Walks tree false links directory steps place node ∨
      ∃ place' target, Walks tree false links directory steps place' (.link target) := by
  induction h with
  | arrive => exact .inl .arrive
  | stay _ ih => exact ih.imp .stay fun ⟨place', target, h⟩ => ⟨place', target, .stay h⟩
  | up _ ih => exact ih.imp .up fun ⟨place', target, h⟩ => ⟨place', target, .up h⟩
  | enter hname hsize hnode _ ih =>
    exact ih.imp (.enter hname hsize hnode)
      fun ⟨place', target, h⟩ => ⟨place', target, .enter hname hsize hnode h⟩
  | file hname hsize hnode => exact .inl (.file hname hsize hnode)
  | stop _ _ _ hthrough => cases hthrough
  | @follow _ _ _ rest _ _ _ hname hsize hnode _ _ ih =>
    cases rest with
    | nil => exact .inr ⟨_, _, .stop hname hsize hnode rfl⟩
    | cons next rest =>
      have hgo : next :: rest ≠ [] ∨ false = true := .inl (List.cons_ne_nil next rest)
      exact ih.imp (.follow hname hsize hnode hgo)
        fun ⟨place', target, h⟩ => ⟨place', target, .follow hname hsize hnode hgo h⟩

/-- A walk that does not end at a link goes through every link that it comes to. -/
theorem Walks.through_of_stop (h : Walks tree false links directory steps place node)
    (hnode : ∀ target, node ≠ .link target) : Walks tree true links directory steps place node := by
  induction h with
  | arrive => exact .arrive
  | stay _ ih => exact .stay (ih hnode)
  | up _ ih => exact .up (ih hnode)
  | enter hname hsize henter _ ih => exact .enter hname hsize henter (ih hnode)
  | file hname hsize hfile => exact .file hname hsize hfile
  | stop => exact absurd rfl (hnode _)
  | follow hname hsize hlink _ _ ih => exact .follow hname hsize hlink (.inr rfl) (ih hnode)

/-! ### Walks in parts -/

/-- A walk is cut before steps that are left: up to there it goes through every link and comes to a
directory. -/
theorem Walks.split {front rest : List String} (hrest : rest ≠ [])
    (h : Walks tree through links directory (front ++ rest) place node) :
    ∃ middle links', Walks tree true links directory front middle .directory ∧
      Walks tree through links' middle rest place node := by
  generalize hsteps : front ++ rest = steps at h
  induction h generalizing front with
  | arrive => exact absurd (List.append_eq_nil_iff.mp hsteps).2 hrest
  | stay h ih =>
    rcases List.append_eq_cons_iff.mp hsteps with ⟨rfl, rfl⟩ | ⟨front, rfl, hback⟩
    · exact ⟨_, _, .arrive, .stay h⟩
    · obtain ⟨middle, links', hfront, hback⟩ := ih hback.symm
      exact ⟨middle, links', .stay hfront, hback⟩
  | up h ih =>
    rcases List.append_eq_cons_iff.mp hsteps with ⟨rfl, rfl⟩ | ⟨front, rfl, hback⟩
    · exact ⟨_, _, .arrive, .up h⟩
    · obtain ⟨middle, links', hfront, hback⟩ := ih hback.symm
      exact ⟨middle, links', .up hfront, hback⟩
  | enter hname hsize hnode h ih =>
    rcases List.append_eq_cons_iff.mp hsteps with ⟨rfl, rfl⟩ | ⟨front, rfl, hback⟩
    · exact ⟨_, _, .arrive, .enter hname hsize hnode h⟩
    · obtain ⟨middle, links', hfront, hback⟩ := ih hback.symm
      exact ⟨middle, links', .enter hname hsize hnode hfront, hback⟩
  | @file links _ _ _ _ hname hsize hnode =>
    rcases List.append_eq_cons_iff.mp hsteps with ⟨rfl, rfl⟩ | ⟨front, rfl, hback⟩
    · exact ⟨_, links, .arrive, .file hname hsize hnode⟩
    · exact absurd (List.append_eq_nil_iff.mp hback.symm).2 hrest
  | @stop links _ _ _ hname hsize hnode hthrough =>
    rcases List.append_eq_cons_iff.mp hsteps with ⟨rfl, rfl⟩ | ⟨front, rfl, hback⟩
    · exact ⟨_, links, .arrive, .stop hname hsize hnode hthrough⟩
    · exact absurd (List.append_eq_nil_iff.mp hback.symm).2 hrest
  | @follow _ _ _ _ target _ _ hname hsize hnode hthrough h ih =>
    rcases List.append_eq_cons_iff.mp hsteps with ⟨rfl, rfl⟩ | ⟨front, rfl, rfl⟩
    · exact ⟨_, _, .arrive, .follow hname hsize hnode hthrough h⟩
    · obtain ⟨middle, links', hfront, hback⟩ := ih (List.append_assoc (FilePath.steps target) ..)
      exact ⟨middle, links', .follow hname hsize hnode (.inr rfl) hfront, hback⟩

/-- The first step of a walk along a name leads to an entry, and goes on in it if that is a
directory. -/
theorem Walks.exists_of_cons {name : String} {rest : List String}
    (hname : name ≠ "." ∧ name ≠ "..")
    (h : Walks tree through links directory (name :: rest) place node) :
    ∃ entry, tree.node? (directory ++ [name]) = some entry ∧
      (entry = .directory → Walks tree through links (directory ++ [name]) rest place node) := by
  cases h with
  | stay => exact absurd rfl hname.1
  | up => exact absurd rfl hname.2
  | enter _ _ hnode h => exact ⟨_, hnode, fun _ => h⟩
  | file _ _ hnode => exact ⟨_, hnode, nofun⟩
  | stop _ _ hnode _ => exact ⟨_, hnode, nofun⟩
  | follow _ _ hnode _ _ => exact ⟨_, hnode, nofun⟩

/-! ### Paths -/

variable {path : String}

/-- Where a path leads to is where its steps lead to, unless it is no path at all. -/
theorem locateFrom_eq_walk {result : Place × Node}
    (h : tree.locateFrom directory through path = .ok result) (tree' : FileTree) (through' : Bool) :
    tree'.locateFrom directory through' path =
      tree'.walk through' linkLimit (if FilePath.isAbsolute path then [] else directory)
        (FilePath.steps path) := by
  unfold locateFrom at h ⊢
  split at h
  · cases h
  next hnul =>
  split at h
  · cases h
  next hempty =>
  split at h
  · cases h
  next hsize => rw [if_neg hnul, if_neg hempty, if_neg hsize]

theorem walks_of_locateFrom (h : tree.locateFrom directory through path = .ok (place, node)) :
    Walks tree through linkLimit (if FilePath.isAbsolute path then [] else directory)
      (FilePath.steps path) place node :=
  walks_of_walk_eq_ok (locateFrom_eq_walk h tree through ▸ h)

/-- With more entries a path leads where it leads with fewer. -/
theorem locateFrom_of_isPart (hpart : IsPart part tree)
    (h : part.locateFrom directory through path = .ok (place, node)) :
    tree.locateFrom directory through path = .ok (place, node) := by
  rw [locateFrom_eq_walk h]
  exact ((walks_of_locateFrom h).of_isPart hpart).walk_eq_ok

/-- A path that leads somewhere through all links names an entry: the same one, or a link. -/
theorem locateFrom_stop (h : tree.locateFrom directory true path = .ok (place, node)) :
    tree.locateFrom directory false path = .ok (place, node) ∨
      ∃ place' target, tree.locateFrom directory false path = .ok (place', .link target) := by
  rw [locateFrom_eq_walk h]
  exact (walks_of_locateFrom h).stop_of_through.imp Walks.walk_eq_ok
    fun ⟨place', target, h⟩ => ⟨place', target, h.walk_eq_ok⟩

/-- A path that does not name a link leads to the entry that it names. -/
theorem locateFrom_through (h : tree.locateFrom directory false path = .ok (place, node))
    (hnode : ∀ target, node ≠ .link target) :
    tree.locateFrom directory true path = .ok (place, node) := by
  rw [locateFrom_eq_walk h]
  exact ((walks_of_locateFrom h).through_of_stop hnode).walk_eq_ok

/-- A path leads to a directory with all the directories above it. -/
theorem hasDirectory_of_locateFrom (hstart : HasDirectory tree directory)
    (h : tree.locateFrom directory through path = .ok (place, .directory)) :
    HasDirectory tree place := by
  refine (walks_of_locateFrom h).hasDirectory ?_
  split
  · exact .nil
  · exact hstart

end Webrev.FileTree
