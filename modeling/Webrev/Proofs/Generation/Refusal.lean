import Webrev.Proofs.FileTree.Joined
import Webrev.Proofs.Generation.Output

/-!
# Outputs that are emptied and refused

An output that cannot be cleared is refused, and nothing is generated. Nearly always the files are
then as they were: the checks come before the removal. But the removal empties a directory before it
looks at the path again, and the output is written as the command line or the configuration has it.
When its last name is `.` or that of a link, with a slash or a dot after it, the contents are gone
when the directory itself is refused.

## Main definitions

* `Generation.LeftEmpty` : an output that is emptied and then refused.

## Main results

* `Plan.exists_output_eq_join` : the output of a plan is written from the working directory.
* `Generation.clearOutput_leftEmpty_iff` : the outputs for which clearing takes something and fails.
* `Generation.generation_leftEmpty_iff` : the generations that are refused after something was
  taken.
-/

namespace Webrev

namespace FileTree

variable {tree : FileTree} {directory place : Place} {path : String}

theorem clear_eq_self_iff : tree.clear place = tree ↔ tree.isEmptyAt place = true := by
  simp only [clear, isEmptyAt, Bool.not_eq_true', List.any_eq_false]
  constructor
  · intro h entry hentry
    have hself := List.filter_eq_self.mp (congrArg entries h) entry hentry
    simpa using hself
  · intro h
    refine congrArg FileTree.mk (List.filter_eq_self.mpr fun entry hentry => ?_)
    simpa using h entry hentry

/-- When a directory is not removed, it was emptied all the same. -/
theorem removeAll_of_error {fault : Machine.Fault}
    (h : tree.locateFrom directory false path = .ok (place, .directory))
    (hfails : (tree.removeAll directory path).1 = .error fault) :
    (tree.removeAll directory path).2 = tree.clear place := by
  have hremove : tree.removeAll directory path =
      (tree.clear place).removeEmptied directory path := by
    rw [removeAll, h]
  rw [hremove] at hfails ⊢
  rcases removeEmptied_cases (tree.clear place) directory path with
    ⟨removed, -, heq⟩ | ⟨-, heq⟩ | ⟨fault', heq⟩
  · rw [heq] at hfails
    cases hfails
  · rw [heq] at hfails
    cases hfails
  · rw [heq]

/-- A removal that fails takes something only from a directory. -/
theorem exists_of_removeAll_ne {fault : Machine.Fault}
    (hfails : (tree.removeAll directory path).1 = .error fault)
    (hchanged : (tree.removeAll directory path).2 ≠ tree) :
    ∃ place, tree.locateFrom directory false path = .ok (place, .directory) := by
  unfold removeAll at hfails hchanged
  split at hchanged
  · exact absurd rfl hchanged
  next hlocate =>
    rw [hlocate] at hfails
    cases hfails
  · exact absurd rfl hchanged
  next place hlocate => exact ⟨place, hlocate⟩

end FileTree

namespace Plan

variable {ω : Type} {queries : Queries ω} {options : Options} {baseRef : String}
  {defaults : Defaults} {world planned : ω} {plan : Plan}

/-- The output of a plan is written from the working directory. -/
theorem exists_output_eq_join
    (h : (make queries options baseRef defaults).runAt world = (.ok plan, planned)) :
    ∃ output, plan.output = FilePath.join defaults.cwd output := by
  obtain ⟨repository, _, -, h⟩ := Attempt.exists_of_runAt_bind_ok h
  obtain ⟨base, _, -, h⟩ := Attempt.exists_of_runAt_bind_ok h
  obtain ⟨issue, _, -, h⟩ := Attempt.exists_of_runAt_bind_ok h
  obtain ⟨output, _, -, h⟩ := Attempt.exists_of_runAt_bind_ok h
  obtain ⟨username, _, -, h⟩ := Attempt.exists_of_runAt_bind_ok h
  obtain ⟨hplan, -⟩ := Prod.mk.inj h
  obtain rfl := Except.ok.inj hplan
  exact ⟨_, rfl⟩

end Plan

namespace Generation

open FileTree

/-! ### Clearing -/

/-- An output that is emptied and then refused: it leads to a directory that something lies in, and
in which the working directory does not lie, and in the emptied tree it still leads somewhere, by
`.` or by the name of a link. -/
structure LeftEmpty (machine : Machine) (output cwd : String) (place : Place) : Prop where
  locate : machine.tree.locateFrom machine.directory false output = .ok (place, .directory)
  outside : ∃ working node,
    machine.tree.locateFrom machine.directory true cwd = .ok (working, node) ∧ ¬place <+: working
  filled : machine.tree.isEmptyAt place = false
  ends : EndsLoosely (machine.tree.clear place) machine.directory output

variable {machine : Machine} {output cwd : String} {place cleared : Place} {node : Node}

theorem checkOutput_eq_ok_iff
    (hout : machine.tree.locateFrom machine.directory true output = .ok (cleared, node)) :
    checkOutput machine output cwd = .ok () ↔ ∃ working node,
      machine.tree.locateFrom machine.directory true cwd = .ok (working, node) ∧
        ¬cleared <+: working := by
  cases hcwd : machine.tree.locateFrom machine.directory true cwd with
  | error fault =>
    have hcheck : checkOutput machine output cwd = .error (.clearOutput cwd fault) := by
      simp only [checkOutput, placeOf, hcwd]
      rfl
    rw [hcheck]
    constructor
    · intro h
      cases h
    · rintro ⟨working, node', h, -⟩
      cases h
  | ok found =>
    obtain ⟨working, node'⟩ := found
    have hcheck : checkOutput machine output cwd =
        if cleared.isPrefixOf working then .error (.unsafeOutput output) else .ok () := by
      simp only [checkOutput, placeOf, hcwd, hout]
      rfl
    rw [hcheck]
    by_cases hinside : cleared <+: working
    · rw [if_pos (List.isPrefixOf_iff_prefix.mpr hinside)]
      constructor
      · intro h
        cases h
      · rintro ⟨_, _, h, houtside⟩
        cases h
        exact absurd hinside houtside
    · rw [if_neg fun h => hinside (List.isPrefixOf_iff_prefix.mp h)]
      exact iff_of_true rfl ⟨working, node', rfl, hinside⟩

/-- An output that is emptied and then refused is cleared up to the directory itself. -/
theorem LeftEmpty.clearOutput_eq (h : LeftEmpty machine output cwd place) :
    ∃ fault, clearOutput output cwd machine =
      (.error (.clearOutput output fault), { machine with tree := machine.tree.clear place }) := by
  obtain ⟨hlocate, houtside, -, hends⟩ := h
  have hthrough := locateFrom_through hlocate nofun
  have hcheck := (checkOutput_eq_ok_iff hthrough).mpr houtside
  obtain ⟨fault, hfault⟩ := (removeAll_error_iff hlocate).mpr hends.endsElsewhere
  refine ⟨fault, ?_⟩
  simp only [clearOutput, hthrough, hcheck, removeAll_of_error hlocate hfault, hfault]
  rfl

/-- Clearing that takes something and fails has come to the directory, and has not removed it. -/
theorem exists_of_clearOutput_ne {error : Error}
    (herror : (clearOutput output cwd machine).1 = .error error)
    (hchanged : (clearOutput output cwd machine).2.tree ≠ machine.tree) :
    ∃ found fault, machine.tree.locateFrom machine.directory true output = .ok found ∧
      checkOutput machine output cwd = .ok () ∧
      (machine.tree.removeAll machine.directory output).1 = .error fault ∧
      (machine.tree.removeAll machine.directory output).2 ≠ machine.tree := by
  cases hout : machine.tree.locateFrom machine.directory true output with
  | error fault =>
    rw [clearOutput, hout] at hchanged
    exact absurd rfl hchanged
  | ok found =>
  cases hcheck : checkOutput machine output cwd with
  | error error =>
    simp only [clearOutput, hout, hcheck, ne_eq, not_true_eq_false] at hchanged
  | ok =>
  simp only [clearOutput, hout, hcheck] at herror hchanged
  cases hremoved : (machine.tree.removeAll machine.directory output).1 with
  | error fault => exact ⟨found, fault, rfl, rfl, rfl, hchanged⟩
  | ok =>
    rw [hremoved] at herror
    cases herror

/-- Clearing takes something and fails exactly when the output is emptied and then refused. -/
theorem clearOutput_leftEmpty_iff {relative : String}
    (hjoin : output = FilePath.join cwd relative) :
    ((∃ error, (clearOutput output cwd machine).1 = .error error) ∧
        (clearOutput output cwd machine).2.tree ≠ machine.tree) ↔
      ∃ place, LeftEmpty machine output cwd place := by
  constructor
  · rintro ⟨⟨error, herror⟩, hchanged⟩
    obtain ⟨⟨cleared, node⟩, fault, hout, hcheck, hfails, hremoved⟩ :=
      exists_of_clearOutput_ne herror hchanged
    obtain ⟨working, node', hcwd, houtside⟩ := (checkOutput_eq_ok_iff hout).mp hcheck
    obtain ⟨place, hlocate⟩ := exists_of_removeAll_ne hfails hremoved
    have hthrough := locateFrom_through hlocate nofun
    obtain ⟨rfl, rfl⟩ := Prod.mk.inj (Except.ok.inj (hthrough.symm.trans hout))
    have hends := (removeAll_error_iff hlocate).mp ⟨fault, hfails⟩
    rw [removeAll_of_error hlocate hfails, ne_eq, clear_eq_self_iff, Bool.not_eq_true] at hremoved
    rw [hjoin] at hends hthrough
    refine ⟨place, hlocate, ⟨working, node', hcwd, houtside⟩, hremoved, ?_⟩
    rw [hjoin]
    exact (endsElsewhere_join_iff hcwd houtside hthrough).mp hends
  · rintro ⟨place, h⟩
    obtain ⟨fault, heq⟩ := h.clearOutput_eq
    rw [heq]
    refine ⟨⟨_, rfl⟩, fun hsame => ?_⟩
    have hempty := clear_eq_self_iff.mp hsame
    rw [h.filled] at hempty
    cases hempty

/-! ### Generations -/

section Generation

variable {ω : Type} {part : Part ω Machine} {queries : Queries ω}
  {generator : Plan → Attempt ω Error Unit} {options : Plan.Options} {baseRef : String}
  {defaults : Plan.Defaults} {world planned : ω} {plan : Plan}

section

variable (hqueries : queries.Keep fun world => (part.get world).files)
  (hplan : planning queries options baseRef defaults world = (.ok plan, planned))

include hqueries hplan

/-- What is planned is planned on the files of the world before. -/
theorem files_planned : (part.get planned).tree = (part.get world).tree ∧
    (part.get planned).directory = (part.get world).directory := by
  have hfiles := Plan.make_keeps hqueries options baseRef defaults world
  rw [← planning, hplan] at hfiles
  exact Prod.mk.inj hfiles

theorem leftEmpty_planned_iff {output cwd : String} :
    LeftEmpty (part.get planned) output cwd place ↔
      LeftEmpty (part.get world) output cwd place := by
  obtain ⟨htree, hdirectory⟩ := files_planned hqueries hplan
  constructor
  · rintro ⟨hlocate, houtside, hfilled, hends⟩
    rw [htree, hdirectory] at *
    exact ⟨hlocate, houtside, hfilled, hends⟩
  · rintro ⟨hlocate, houtside, hfilled, hends⟩
    rw [← htree, ← hdirectory] at *
    exact ⟨hlocate, houtside, hfilled, hends⟩

/-- A generation into an output that is emptied and then refused. -/
theorem LeftEmpty.generation (h : LeftEmpty (part.get world) plan.output defaults.cwd place) :
    (∃ fault, (generation part queries generator options baseRef defaults world).1 =
        .error (.clearOutput plan.output fault)) ∧
      (part.get (generation part queries generator options baseRef defaults world).2).tree =
        (part.get world).tree.clear place := by
  have htree := (files_planned hqueries hplan).1
  obtain ⟨fault, heq⟩ := ((leftEmpty_planned_iff hqueries hplan).mpr h).clearOutput_eq
  have hcourse := course_generation part queries generator options baseRef defaults world
  generalize (Generation.generation part queries generator options baseRef defaults world).1 =
    outcome, (Generation.generation part queries generator options baseRef defaults world).2 =
    last at hcourse ⊢
  cases hcourse with
  | unplanned hplan' => cases hplan.symm.trans hplan'
  | uncleared hplan' hclear =>
    obtain ⟨⟨⟩, ⟨⟩⟩ := hplan.symm.trans hplan'
    obtain ⟨⟨⟩, ⟨⟩⟩ := heq.symm.trans hclear
    rw [part.get_set]
    exact ⟨⟨fault, rfl⟩, congrArg (FileTree.clear · place) htree⟩
  | run hplan' hclear =>
    obtain ⟨⟨⟩, ⟨⟩⟩ := hplan.symm.trans hplan'
    cases heq.symm.trans hclear

end

/-- **An output that cannot be cleared was emptied all the same, if its last name stays or is that
of a link.** With a generator that does not clear outputs, and for every file tree, working
directory and setting: a generation is refused because its output was not cleared, and the files are
not what they were, exactly when the output leads to a directory that something lies in and the
working directory does not, and in the emptied tree its names still lead somewhere, by `.` or by the
name of a link. Then everything that lay in the directory is gone. -/
theorem generation_leftEmpty_iff (hqueries : queries.Keep fun world => (part.get world).files)
    (hgenerator : ∀ plan world path fault,
      ((generator plan).runAt world).1 ≠ .error (.clearOutput path fault)) :
    ((∃ path fault, (generation part queries generator options baseRef defaults world).1 =
          .error (.clearOutput path fault)) ∧
        (part.get (generation part queries generator options baseRef defaults world).2).tree ≠
          (part.get world).tree) ↔
      ∃ plan planned place, planning queries options baseRef defaults world = (.ok plan, planned) ∧
        LeftEmpty (part.get world) plan.output defaults.cwd place ∧
        (part.get (generation part queries generator options baseRef defaults world).2).tree =
          (part.get world).tree.clear place := by
  constructor
  · rintro ⟨⟨path, fault, hrefused⟩, hchanged⟩
    suffices h : ∃ plan planned place,
        planning queries options baseRef defaults world = (.ok plan, planned) ∧
          LeftEmpty (part.get world) plan.output defaults.cwd place by
      obtain ⟨plan, planned, place, hplan, hempty⟩ := h
      exact ⟨plan, planned, place, hplan, hempty, (hempty.generation hqueries hplan).2⟩
    have hcourse := course_generation part queries generator options baseRef defaults world
    generalize (generation part queries generator options baseRef defaults world).1 = outcome,
      (generation part queries generator options baseRef defaults world).2 = last
      at hcourse hrefused hchanged
    cases hcourse with
    | unplanned => cases hrefused
    | @uncleared plan planned error machine hplan hclear =>
      obtain ⟨output, hjoin⟩ := Plan.exists_output_eq_join hplan
      rw [part.get_set, ← (files_planned hqueries hplan).1] at hchanged
      obtain ⟨place, hempty⟩ := (clearOutput_leftEmpty_iff hjoin).mp
        ⟨⟨error, congrArg Prod.fst hclear⟩, by rw [hclear]; exact hchanged⟩
      exact ⟨plan, planned, place, hplan, (leftEmpty_planned_iff hqueries hplan).mp hempty⟩
    | @run plan planned machine hplan hclear =>
      refine absurd ?_ (hgenerator plan (part.set machine planned) path fault)
      cases hran : ((generator plan).runAt (part.set machine planned)).1 with
      | error error =>
        rw [hran] at hrefused
        exact congrArg _ (Except.error.inj hrefused)
      | ok =>
        rw [hran] at hrefused
        cases hrefused
  · rintro ⟨plan, planned, place, hplan, hempty, htree⟩
    obtain ⟨⟨fault, hrefused⟩, -⟩ := hempty.generation hqueries hplan
    refine ⟨⟨plan.output, fault, hrefused⟩, ?_⟩
    rw [htree, ne_eq, clear_eq_self_iff, hempty.filled]
    exact nofun

end Generation

/-! ### Outputs that are left empty -/

/-- A generator that does nothing. -/
def idle (_ : Plan) : Attempt (Machine × Memory) Error Unit := pure ()

/-- The options that name an output, and nothing else. -/
def optionsInto (output : String) : Plan.Options := { linkOptions with output := some output }

/-- The generation of `linkWorld` into an output, by a generator that does nothing. -/
def generationInto (output : String) : Except Error Plan × (Machine × Memory) :=
  generation besideMemory memoryQueries idle (optionsInto output) "upstream" ⟨"/w", none⟩ linkWorld

theorem exists_of_planning {ω : Type} {queries : Queries ω} {options : Plan.Options}
    {baseRef output : String} {defaults : Plan.Defaults} {world : ω}
    (h : (planning queries options baseRef defaults world).1.map Plan.output = .ok output) :
    ∃ plan planned, planning queries options baseRef defaults world = (.ok plan, planned) ∧
      plan.output = output := by
  rcases hplan : planning queries options baseRef defaults world with ⟨error | plan, planned⟩
  · rw [hplan] at h
    cases h
  · rw [hplan] at h
    exact ⟨plan, planned, rfl, Except.ok.inj h⟩

theorem locateFrom_of_walks {tree : FileTree} {through : Bool} {directory : Place} {path : String}
    {steps : List String} (habsolute : FilePath.isAbsolute path = true)
    (hnul : ¬path.toList.contains '\x00' = true) (hsize : ¬pathLimit < path.utf8ByteSize)
    (hsteps : FilePath.steps path = steps) (h : Walks tree through linkLimit [] steps place node) :
    tree.locateFrom directory through path = .ok (place, node) := by
  have hempty : ¬path.isEmpty = true := by
    rw [String.isEmpty_iff]
    rintro rfl
    cases habsolute
  rw [locateFrom, if_neg hnul, if_neg hempty, if_neg hsize, if_pos habsolute, hsteps, h.walk_eq_ok]

/-- A directory whose path ends in a dot is left empty. -/
theorem leftEmpty_of_dot : LeftEmpty linkMachine "/w/old/." "/w" ["w", "old"] where
  locate := locateFrom_of_walks (by decide) (by decide) (by decide +kernel)
    (by decide +kernel : _ = ["w", "old", "."]) <|
      .enter (by decide) (by decide +kernel) (by decide) <|
        .enter (by decide) (by decide +kernel) (by decide) (.stay .arrive)
  outside := ⟨["w"], .directory, locateFrom_linkMachine, by decide⟩
  filled := by decide
  ends := by
    have hnames : FilePath.names "/w/old/." = ["w", "old", "."] := by decide +kernel
    have hwalks : Walks (linkMachine.tree.clear ["w", "old"]) false linkLimit []
        ["w", "old", "."] ["w", "old"] .directory :=
      .enter (by decide) (by decide +kernel) (by decide) <|
        .enter (by decide) (by decide +kernel) (by decide) (.stay .arrive)
    refine ⟨["w", "old"], .directory, ?_, .inl (by rw [hnames]; rfl)⟩
    rw [hnames, if_pos (by decide)]
    exact hwalks.walk_eq_ok

/-- A generation into a directory whose path ends in a dot is refused when what lay in the directory
is gone. -/
theorem generationInto_dot :
    (∃ fault, (generationInto "old/.").1 = .error (.clearOutput "/w/old/." fault)) ∧
      linkMachine.tree.node? ["w", "old", "index.html"] = some (.file [] false) ∧
      (generationInto "old/.").2.1.tree.node? ["w", "old", "index.html"] = none := by
  obtain ⟨plan, planned, hplan, houtput⟩ := exists_of_planning <|
    (by decide +kernel : (planning memoryQueries (optionsInto "old/.") "upstream" ⟨"/w", none⟩
      linkWorld).1.map Plan.output = .ok "/w/old/.")
  have hempty : LeftEmpty (besideMemory.get linkWorld) plan.output "/w" ["w", "old"] := by
    rw [houtput]
    exact leftEmpty_of_dot
  have hgenerated :
      (∃ fault, (generationInto "old/.").1 = .error (.clearOutput plan.output fault)) ∧
      (generationInto "old/.").2.1.tree = linkMachine.tree.clear ["w", "old"] :=
    hempty.generation (fun _ _ => rfl) hplan
  refine ⟨houtput ▸ hgenerated.1, by decide, ?_⟩
  rw [hgenerated.2]
  decide

/-- A directory that a link leads to, with a slash after the link, is left empty. -/
theorem leftEmpty_of_slash : LeftEmpty linkMachine "/w/out/" "/w" ["w", "old"] where
  locate := by
    have hlink : linkMachine.tree.node? ["w", "out"] = some (.link "old") := by decide
    have hold : Walks linkMachine.tree false 39 ["w"] ["old", "."] ["w", "old"] .directory :=
      .enter (by decide) (by decide +kernel) (by decide) (.stay .arrive)
    have hwalks : Walks linkMachine.tree false linkLimit [] ["w", "out", "."] ["w", "old"]
        .directory :=
      .enter (by decide) (by decide +kernel) (by decide) <|
        .follow (by decide) (by decide +kernel) hlink (.inl (by decide)) hold
    exact locateFrom_of_walks (by decide) (by decide) (by decide +kernel) (by decide +kernel) hwalks
  outside := ⟨["w"], .directory, locateFrom_linkMachine, by decide⟩
  filled := by decide
  ends := by
    have hnames : FilePath.names "/w/out/" = ["w", "out"] := by decide +kernel
    have hwalks : Walks (linkMachine.tree.clear ["w", "old"]) false linkLimit []
        ["w", "out"] ["w", "out"] (.link "old") :=
      .enter (by decide) (by decide +kernel) (by decide) <|
        .stop (by decide) (by decide +kernel) (by decide) rfl
    refine ⟨["w", "out"], .link "old", ?_, .inr ⟨"old", rfl⟩⟩
    rw [hnames, if_pos (by decide)]
    exact hwalks.walk_eq_ok

/-- A generation through a link with a slash after it is refused when what lay in the directory that
the link leads to is gone. -/
theorem generationInto_slash :
    (memoryQueries.Keep fun world => (besideMemory.get world).files) ∧
      (∀ plan world path fault, ((idle plan).runAt world).1 ≠ .error (.clearOutput path fault)) ∧
      (∃ path fault, (generationInto "out/").1 = .error (.clearOutput path fault)) ∧
      (generationInto "out/").2.1.tree ≠ linkMachine.tree := by
  have hqueries : memoryQueries.Keep fun world => (besideMemory.get world).files := fun _ _ => rfl
  have hgenerator : ∀ plan world path fault,
      ((idle plan).runAt world).1 ≠ .error (.clearOutput path fault) := fun _ _ _ _ => nofun
  obtain ⟨plan, planned, hplan, houtput⟩ := exists_of_planning <|
    (by decide +kernel : (planning memoryQueries (optionsInto "out/") "upstream" ⟨"/w", none⟩
      linkWorld).1.map Plan.output = .ok "/w/out/")
  have hempty : LeftEmpty (besideMemory.get linkWorld) plan.output "/w" ["w", "old"] := by
    rw [houtput]
    exact leftEmpty_of_slash
  refine ⟨hqueries, hgenerator, ?_⟩
  exact (generation_leftEmpty_iff hqueries hgenerator).mpr
    ⟨plan, planned, ["w", "old"], hplan, hempty, (hempty.generation hqueries hplan).2⟩

end Generation

end Webrev
