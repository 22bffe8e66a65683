import Webrev.Proofs.Generation.Clearing
import Webrev.Proofs.Generation.Planning
import Webrev.Proofs.Git.Refinement
import Webrev.Repository.Memory

/-!
# The output of a generation

A webrev is planned, its output is cleared and the generator is run, in this order and up to the
first failure. With a generator that writes nothing but a record of its runs, a generation says what
clearing alone does to the files, and when the generator is run.

## Main definitions

* `Generation.Recording` : a generator that writes nothing but a record of its runs.
* `Generation.Course` : the courses that a generation can take.
* `Generation.Harmless` : what a generation leaves of the files, and when it runs the generator.
* `Generation.Settled` : a generation with a plan, by what clearing the output did.
* `Generation.Watched`, `Generation.watched` : a world and a generator with a record of the runs.

## Main results

* `Generation.course_generation` : every generation takes one of the courses.
* `Generation.generation_harmless` : no generation endangers the working directory.
* `Generation.recording_watched` : a generator that leaves the files as they are can be recorded.
* `Generation.recording_program` : so can the generations of the program.
-/

namespace Webrev.Generation

open FileTree

variable {ω : Type}

/-- A generator that leaves the files as they are and records its runs, each with its plan and the
file tree that it finds, in a world in which nothing else is recorded there and questions leave the
files as they are. -/
structure Recording (part : Part ω Machine) (queries : Queries ω)
    (generator : Plan → Attempt ω Error Unit) (runs : ω → List (Plan × FileTree)) : Prop where
  files_query : queries.Keep fun world => (part.get world).files
  runs_query : queries.Keep runs
  runs_set : ∀ machine world, runs (part.set machine world) = runs world
  files_generator : ∀ plan, (generator plan).Keeps fun world => (part.get world).files
  runs_generator : ∀ plan world,
    runs ((generator plan).runAt world).2 = runs world ++ [(plan, (part.get world).tree)]

section Course

variable (part : Part ω Machine) (queries : Queries ω) (generator : Plan → Attempt ω Error Unit)
  (options : Plan.Options) (baseRef : String) (defaults : Plan.Defaults) (world : ω)

/-- What a plan is made to be, and the world after that. -/
def planning : Except Plan.Error Plan × ω :=
  (Plan.make queries options baseRef defaults).runAt world

/-- The courses that a generation can take: there is no plan, or the output is not cleared, or the
generator is run. -/
inductive Course : Except Error Plan → ω → Prop
  | unplanned {error planned}
      (hplan : planning queries options baseRef defaults world = (.error error, planned)) :
      Course (.error (.plan error)) planned
  | uncleared {plan planned error machine}
      (hplan : planning queries options baseRef defaults world = (.ok plan, planned))
      (hclear : clearOutput plan.output defaults.cwd (part.get planned) = (.error error, machine)) :
      Course (.error error) (part.set machine planned)
  | run {plan planned machine}
      (hplan : planning queries options baseRef defaults world = (.ok plan, planned))
      (hclear : clearOutput plan.output defaults.cwd (part.get planned) = (.ok (), machine)) :
      Course (((generator plan).runAt (part.set machine planned)).1.map fun _ => plan)
        ((generator plan).runAt (part.set machine planned)).2

/-- A generation from a world: its outcome, and the world that it leaves. -/
def generation : Except Error Plan × ω :=
  (generate part.get part.set queries generator options baseRef defaults).runAt world

theorem runAt_clearing {part : Part ω Machine} {output cwd : String} {world : ω}
    {outcome : Except Error Unit} {machine : Machine}
    (h : clearOutput output cwd (part.get world) = (outcome, machine)) :
    Attempt.runAt (Attempt.zoom part.get part.set (ExceptT.mk (clearOutput output cwd))) world =
      (outcome, part.set machine world) := by
  rw [Attempt.runAt_zoom]
  exact congrArg (fun cleared => (cleared.1, part.set cleared.2 world)) h

/-- Every generation takes one of the courses. -/
theorem course_generation :
    Course part queries generator options baseRef defaults world
      (generation part queries generator options baseRef defaults world).1
      (generation part queries generator options baseRef defaults world).2 := by
  unfold generation generate
  have hmade := Attempt.runAt_mapError Error.plan (Plan.make queries options baseRef defaults) world
  rw [← planning] at hmade
  rcases hplan : planning queries options baseRef defaults world with ⟨error | plan, planned⟩
  · rw [hplan] at hmade
    rw [Attempt.runAt_bind_of_error hmade]
    exact .unplanned hplan
  rw [hplan] at hmade
  rw [Attempt.runAt_bind_of_ok hmade]
  rcases hclear : clearOutput plan.output defaults.cwd (part.get planned) with
    ⟨error | ⟨⟩, machine⟩
  · rw [Attempt.runAt_bind_of_error (runAt_clearing hclear)]
    exact .uncleared hplan hclear
  rw [Attempt.runAt_bind_of_ok (runAt_clearing hclear)]
  have hrun : Course part queries generator options baseRef defaults world _ _ :=
    .run hplan hclear
  rcases hgenerated : (generator plan).runAt (part.set machine planned) with ⟨error | ⟨⟩, last⟩
  · rw [hgenerated] at hrun
    rw [Attempt.runAt_bind_of_error hgenerated]
    exact hrun
  · rw [hgenerated] at hrun
    rw [Attempt.runAt_bind_of_ok hgenerated]
    exact hrun

/-- What a generation leaves of the files, and when it runs the generator, where `working` is the
working directory with all links followed. -/
structure Harmless (runs : ω → List (Plan × FileTree)) (working : Place)
    (outcome : Except Error Plan) (last : ω) : Prop where
  /-- An output that leads to the working directory or to one above it is refused. -/
  refused : ∀ plan planned cleared node,
    planning queries options baseRef defaults world = (.ok plan, planned) →
    (part.get world).tree.locateFrom (part.get world).directory true plan.output =
      .ok (cleared, node) → cleared <+: working →
    outcome = .error (.unsafeOutput plan.output) ∧
      (part.get last).tree = (part.get world).tree ∧ runs last = runs world
  /-- The working directory and all the directories above it stay. -/
  standing : HasDirectory (part.get last).tree working
  /-- No entry is added or changed. -/
  isPart : IsPart (part.get last).tree (part.get world).tree
  /-- What is taken is a link that the output names, or the directory that it leads to, named by no
  link, and what lies in it. -/
  taken : ∀ place, (part.get last).tree.node? place ≠ (part.get world).tree.node? place →
    ∃ plan planned named,
      planning queries options baseRef defaults world = (.ok plan, planned) ∧
      ((∀ through, (part.get world).tree.locateFrom (part.get world).directory through plan.output =
          .ok (named, .directory)) ∧ named <+: place ∨
        (∃ target, (part.get world).tree.locateFrom (part.get world).directory false plan.output =
          .ok (named, .link target)) ∧ place = named)
  /-- When the output is cleared the generator is run once. -/
  once : ∀ plan planned machine,
    planning queries options baseRef defaults world = (.ok plan, planned) →
    clearOutput plan.output defaults.cwd (part.get planned) = (.ok (), machine) →
    runs last = runs world ++ [(plan, machine.tree)]
  /-- Without a plan, or when the output is not cleared, the generator is not run. -/
  idle : (∀ plan planned machine,
      planning queries options baseRef defaults world = (.ok plan, planned) →
      clearOutput plan.output defaults.cwd (part.get planned) ≠ (.ok (), machine)) →
    runs last = runs world
  /-- When the generator is run the output leads nowhere, and does not name a link either if it led
  somewhere before. -/
  gone : ∀ plan tree, runs last = runs world ++ [(plan, tree)] →
    (∀ entry, tree.locateFrom (part.get world).directory true plan.output ≠ .ok entry) ∧
      ((∃ entry, (part.get world).tree.locateFrom (part.get world).directory true plan.output =
          .ok entry) →
        ∀ entry, tree.locateFrom (part.get world).directory false plan.output ≠ .ok entry)

end Course

variable {part : Part ω Machine} {queries : Queries ω} {generator : Plan → Attempt ω Error Unit}
  {runs : ω → List (Plan × FileTree)}

variable {options : Plan.Options} {baseRef : String} {defaults : Plan.Defaults} {world : ω}
  {working : Place} {outcome : Except Error Plan} {last : ω}

/-- Without a plan nothing happens. -/
theorem harmless_of_unplanned {error : Plan.Error} {planned : ω}
    (hplan : planning queries options baseRef defaults world = (.error error, planned))
    (hworking : HasDirectory (part.get world).tree working)
    (htree : (part.get last).tree = (part.get world).tree) (hruns : runs last = runs world) :
    Harmless part queries options baseRef defaults world runs working outcome last := by
  have hno : ∀ plan planned,
      planning queries options baseRef defaults world ≠ (.ok plan, planned) := by
    intro plan planned hother
    rw [hplan] at hother
    cases hother
  exact {
    refused := fun plan planned _ _ hplanned => absurd hplanned (hno plan planned)
    standing := htree ▸ hworking
    isPart := htree ▸ .refl _
    taken := fun place hne => absurd (congrArg (FileTree.node? · place) htree) hne
    once := fun plan planned _ hplanned => absurd hplanned (hno plan planned)
    idle := fun _ => hruns
    gone := fun plan tree hmore => by
      rw [hruns] at hmore
      simp at hmore }

section Settled

variable (part queries runs options baseRef defaults world) in
/-- With a plan the files are left as clearing the output leaves them, and the generator is run once
or, when the output is not cleared, not at all. -/
structure Settled (plan : Plan) (planned : ω) (outcome : Except Error Plan) (last : ω) : Prop where
  plan_eq : planning queries options baseRef defaults world = (.ok plan, planned)
  files_eq : (part.get planned).files = (part.get world).files
  tree_eq : (part.get last).tree =
    (clearOutput plan.output defaults.cwd (part.get planned)).2.tree
  course : (∃ error,
      (clearOutput plan.output defaults.cwd (part.get planned)).1 = .error error ∧
        outcome = .error error ∧ runs last = runs world) ∨
    (clearOutput plan.output defaults.cwd (part.get planned)).1 = .ok () ∧
      runs last = runs world ++
        [(plan, (clearOutput plan.output defaults.cwd (part.get planned)).2.tree)]

variable {plan : Plan} {planned : ω}
  (h : Settled part queries runs options baseRef defaults world plan planned outcome last)

include h

theorem Settled.unique {plan' : Plan} {planned' : ω}
    (hplan : planning queries options baseRef defaults world = (.ok plan', planned')) :
    plan' = plan ∧ planned' = planned := by
  obtain ⟨hsame, hstart⟩ := Prod.mk.inj (h.plan_eq.symm.trans hplan)
  exact ⟨(Except.ok.inj hsame).symm, hstart.symm⟩

/-- What is planned is planned on the files of the world before. -/
theorem Settled.tree_planned : (part.get planned).tree = (part.get world).tree :=
  congrArg Prod.fst h.files_eq

theorem Settled.directory_planned :
    (part.get planned).directory = (part.get world).directory :=
  congrArg Prod.snd h.files_eq

theorem Settled.runs_of_cleared {machine : Machine}
    (hclear : clearOutput plan.output defaults.cwd (part.get planned) = (.ok (), machine)) :
    runs last = runs world ++ [(plan, machine.tree)] := by
  have hcourse := h.course
  rw [hclear] at hcourse
  rcases hcourse with ⟨error, herror, -⟩ | ⟨-, hruns⟩
  · cases herror
  · exact hruns

theorem Settled.runs_of_not_cleared (hnever : ∀ machine,
      clearOutput plan.output defaults.cwd (part.get planned) ≠ (.ok (), machine)) :
    runs last = runs world := by
  rcases h.course with ⟨error, -, -, hruns⟩ | ⟨hok, -⟩
  · exact hruns
  · exact (hnever _ (Prod.ext hok rfl)).elim

section Working

variable (hcwd : (part.get planned).tree.locateFrom (part.get planned).directory true defaults.cwd =
  .ok (working, .directory))

include hcwd

/-- An output that the working directory lies in is refused. -/
theorem Settled.refused {cleared : Place} {node : Node}
    (hout : (part.get planned).tree.locateFrom (part.get planned).directory true plan.output =
      .ok (cleared, node))
    (hinside : cleared <+: working) :
    outcome = .error (.unsafeOutput plan.output) ∧
      (part.get last).tree = (part.get planned).tree ∧ runs last = runs world := by
  have hcourse := h.course
  have htree := h.tree_eq
  rw [clearOutput_of_inside hcwd hout hinside] at hcourse htree
  rcases hcourse with ⟨error, herror, houtcome, hruns⟩ | ⟨hok, -⟩
  · rw [houtcome, ← Except.error.inj herror]
    exact ⟨rfl, htree, hruns⟩
  · cases hok

/-- What is taken is a link that the output names, or the directory that it leads to and what lies
in it. -/
theorem Settled.taken {place : Place}
    (hne : (part.get last).tree.node? place ≠ (part.get planned).tree.node? place) :
    ∃ named,
      (∀ through,
          (part.get planned).tree.locateFrom (part.get planned).directory through plan.output =
            .ok (named, .directory)) ∧ named <+: place ∨
        (∃ target,
          (part.get planned).tree.locateFrom (part.get planned).directory false plan.output =
            .ok (named, .link target)) ∧ place = named := by
  rw [h.tree_eq] at hne
  obtain ⟨named, node, hnamed, ⟨rfl, hbelow, -⟩ | ⟨⟨target, rfl⟩, hplace⟩⟩ :=
    exists_of_node?_clearOutput_ne hcwd hne
  · refine ⟨named, .inl ⟨fun through => ?_, hbelow⟩⟩
    cases through with
    | false => exact hnamed
    | true => exact locateFrom_through hnamed nofun
  · exact ⟨named, .inr ⟨⟨target, hnamed⟩, hplace⟩⟩

/-- Where the output led to, the generator finds nothing. -/
theorem Settled.gone {plan' : Plan} {tree : FileTree}
    (hmore : runs last = runs world ++ [(plan', tree)]) :
    (∀ entry, tree.locateFrom (part.get planned).directory true plan'.output ≠ .ok entry) ∧
      ((∃ entry, (part.get planned).tree.locateFrom (part.get planned).directory true
          plan'.output = .ok entry) →
        ∀ entry, tree.locateFrom (part.get planned).directory false plan'.output ≠
          .ok entry) := by
  rcases h.course with ⟨error, -, -, hruns⟩ | ⟨hok, hruns⟩
  · rw [hruns] at hmore
    simp at hmore
  · obtain ⟨rfl, rfl⟩ : plan' = plan ∧
        tree = (clearOutput plan.output defaults.cwd (part.get planned)).2.tree := by
      simpa using (List.append_cancel_left (hruns.symm.trans hmore)).symm
    exact locateFrom_clearOutput hcwd hok

end Working

/-- A settled generation endangers nothing. -/
theorem Settled.harmless
    (hdirectory : HasDirectory (part.get world).tree (part.get world).directory)
    (hcwd : (part.get world).tree.locateFrom (part.get world).directory true defaults.cwd =
      .ok (working, .directory)) :
    Harmless part queries options baseRef defaults world runs working outcome last := by
  have htree := h.tree_eq
  rw [← h.tree_planned, ← h.directory_planned] at hdirectory hcwd
  constructor
  case refused =>
    intro plan' planned' cleared node hplan hout hinside
    obtain ⟨rfl, rfl⟩ := h.unique hplan
    rw [← h.tree_planned, ← h.directory_planned] at hout
    rw [← h.tree_planned]
    exact h.refused hcwd hout hinside
  case standing => exact htree ▸ hasDirectory_clearOutput hcwd hdirectory
  case isPart => exact htree ▸ h.tree_planned ▸ isPart_clearOutput hcwd
  case taken =>
    intro place hne
    rw [← h.tree_planned] at hne
    rw [← h.tree_planned, ← h.directory_planned]
    obtain ⟨named, hnamed⟩ := h.taken hcwd hne
    exact ⟨plan, planned, named, h.plan_eq, hnamed⟩
  case once =>
    intro plan' planned' machine hplan hclear
    obtain ⟨rfl, rfl⟩ := h.unique hplan
    exact h.runs_of_cleared hclear
  case idle =>
    exact fun hnever => h.runs_of_not_cleared fun machine => hnever plan planned machine h.plan_eq
  case gone =>
    intro plan' tree hmore
    rw [← h.tree_planned, ← h.directory_planned]
    exact h.gone hcwd hmore

end Settled

/-- **Clearing the output never endangers the working directory.** With a generator that writes
nothing but a record of its runs, and for every file tree, working directory and output: an output
that leads to the working directory or to one above it is refused, nothing is taken but what the
output names, and the generator is run exactly when a plan was made and its output cleared, once and
with nothing where the output leads. -/
theorem generation_harmless (hrecording : Recording part queries generator runs)
    (hdirectory : HasDirectory (part.get world).tree (part.get world).directory)
    (hcwd : (part.get world).tree.locateFrom (part.get world).directory true defaults.cwd =
      .ok (working, .directory)) :
    Harmless part queries options baseRef defaults world runs working
      (generation part queries generator options baseRef defaults world).1
      (generation part queries generator options baseRef defaults world).2 := by
  have hfiles := Plan.make_keeps hrecording.files_query options baseRef defaults world
  have hruns := Plan.make_keeps hrecording.runs_query options baseRef defaults world
  rw [← planning] at hfiles hruns
  have hcourse := course_generation part queries generator options baseRef defaults world
  generalize (generation part queries generator options baseRef defaults world).1 = outcome,
    (generation part queries generator options baseRef defaults world).2 = last at hcourse ⊢
  cases hcourse with
  | unplanned hplan =>
    rw [hplan] at hfiles hruns
    exact harmless_of_unplanned hplan (hasDirectory_of_locateFrom hdirectory hcwd)
      (congrArg Prod.fst hfiles) hruns
  | uncleared hplan hclear =>
    rw [hplan] at hfiles hruns
    refine Settled.harmless ⟨hplan, hfiles, ?_, .inl ?_⟩ hdirectory hcwd
    · rw [part.get_set, hclear]
    · exact ⟨_, by rw [hclear], rfl, (hrecording.runs_set ..).trans hruns⟩
  | run hplan hclear =>
    rw [hplan] at hfiles hruns
    refine Settled.harmless ⟨hplan, hfiles, ?_, .inr ?_⟩ hdirectory hcwd
    · refine (congrArg Prod.fst (hrecording.files_generator _ _)).trans ?_
      dsimp only [Machine.files]
      rw [part.get_set, hclear]
    · refine ⟨by rw [hclear], ?_⟩
      rw [hrecording.runs_generator, hrecording.runs_set, part.get_set, hclear]
      exact congrArg (· ++ _) hruns

/-! ### Any generator -/

section Watched

/-- A world in which the runs of a generator are recorded. -/
abbrev Watched (ω : Type) := ω × List (Plan × FileTree)

/-- The world apart from the record. -/
def unwatched (ω : Type) : Part (Watched ω) ω where
  get := Prod.fst
  set world watched := (world, watched.2)
  get_set _ _ := rfl
  set_get _ := rfl
  set_set _ _ _ := rfl

/-- The machine of a world in which runs are recorded. -/
def watchedMachine (part : Part ω Machine) : Part (Watched ω) Machine where
  get watched := part.get watched.1
  set machine watched := (part.set machine watched.1, watched.2)
  get_set machine watched := part.get_set machine watched.1
  set_get watched := by rw [part.set_get]
  set_set machine machine' watched := by rw [part.set_set]

/-- The answers to questions in a world in which runs are recorded. -/
def watchedQueries (queries : Queries ω) : Queries (Watched ω) where
  query question := (queries.query question).zoom (unwatched ω).get (unwatched ω).set

/-- A generator whose runs are recorded. -/
def watched (part : Part ω Machine) (generator : Plan → Attempt ω Error Unit) (plan : Plan) :
    Attempt (Watched ω) Error Unit := do
  modify fun watched => (watched.1, watched.2 ++ [(plan, (part.get watched.1).tree)])
  (generator plan).zoom (unwatched ω).get (unwatched ω).set

/-- Every generator that leaves the files as they are can be recorded. -/
theorem recording_watched (hqueries : queries.Keep fun world => (part.get world).files)
    (hgenerator : ∀ plan, (generator plan).Keeps fun world => (part.get world).files) :
    Recording (watchedMachine part) (watchedQueries queries) (watched part generator)
      Prod.snd where
  files_query question := (hqueries question).zoom (unwatched ω)
  runs_query _ _ := rfl
  runs_set _ _ := rfl
  files_generator plan world :=
    (hgenerator plan).zoom (unwatched ω) (world.1, world.2 ++ [(plan, (part.get world.1).tree)])
  runs_generator _ _ := rfl

/-- A generator that is a program leaves the files as they are. -/
theorem external_keeps (program workdir : String) (plan : Plan) :
    Attempt.Keeps Machine.files
      (ExceptT.mk (external program workdir plan) : Attempt Machine Error Unit) := by
  intro machine
  have hfiles := machine.files_run ⟨program, arguments plan, some workdir, []⟩
  change (external program workdir plan machine).2.files = machine.files
  unfold external
  split
  next heq =>
    rw [heq] at hfiles
    exact hfiles
  next heq =>
    rw [heq] at hfiles
    exact hfiles

/-- The generations of the program, in which `git` answers the questions and the generator is a
program as well, can be recorded. -/
theorem recording_program (root program workdir : String) :
    Recording (watchedMachine Git.machinePart)
      (watchedQueries (Program.repositoryAt root).toQueries)
      (watched Git.machinePart fun plan => Attempt.zoom Program.World.machine
        Program.World.setMachine (ExceptT.mk (external program workdir plan)))
      Prod.snd :=
  recording_watched (fun question => (Git.query_keeps root question).zoom Git.machinePart)
    fun plan => (external_keeps program workdir plan).zoom Git.machinePart

end Watched

/-! ### A generation into a link -/

/-- A machine with a directory `/w` in which a link leads to another directory. -/
def linkMachine : Machine where
  tree := ⟨[(["w"], .directory), (["w", "out"], .link "old"), (["w", "old"], .directory),
    (["w", "old", "index.html"], .file [] false)]⟩
  directory := ["w"]
  searchPath := []
  replies := []
  runs := []

/-- The machine, and a repository that knows one commit. -/
def linkWorld : Machine × Memory :=
  (linkMachine, ⟨[("HEAD", ⟨"c1"⟩)], [], none, [], true, [], none, ⟨"c2"⟩, fun _ _ => none, []⟩)

/-- The machine of such a world. -/
def besideMemory : Part (Machine × Memory) Machine where
  get := Prod.fst
  set machine world := (machine, world.2)
  get_set _ _ := rfl
  set_get _ := rfl
  set_set _ _ _ := rfl

/-- The answers of the repository of such a world. -/
def memoryQueries : Queries (Machine × Memory) :=
  (Memory.repository.zoom Prod.snd fun memory world => (world.1, memory)).toQueries

/-- The options that name the link. -/
def linkOptions : Plan.Options := ⟨none, some "out", none, none, none, none, true⟩

/-- The generation into the link by a generator that does nothing. -/
def linkGeneration : Except Error Plan × Watched (Machine × Memory) :=
  generation (watchedMachine besideMemory) (watchedQueries memoryQueries)
    (watched besideMemory fun _ => pure ()) linkOptions "upstream" ⟨"/w", none⟩ (linkWorld, [])

theorem locateFrom_linkMachine :
    linkMachine.tree.locateFrom linkMachine.directory true "/w" = .ok (["w"], .directory) := by
  have hsteps : FilePath.steps "/w" = ["w"] := by decide +kernel
  have hwalks : Walks linkMachine.tree true linkLimit [] ["w"] ["w"] .directory :=
    .enter (by decide) (by decide +kernel) (by decide) .arrive
  rw [locateFrom, if_neg (by decide), if_neg (by decide +kernel), if_neg (by decide +kernel),
    if_pos (by decide), hsteps, hwalks.walk_eq_ok]

theorem generation_harmless_of_link :
    HasDirectory linkMachine.tree linkMachine.directory ∧
      linkMachine.tree.locateFrom linkMachine.directory true "/w" = .ok (["w"], .directory) ∧
      (planning (watchedQueries memoryQueries) linkOptions "upstream" ⟨"/w", none⟩
        (linkWorld, [])).1.map Plan.output = .ok "/w/out" ∧
      Harmless (watchedMachine besideMemory) (watchedQueries memoryQueries) linkOptions "upstream"
        ⟨"/w", none⟩ (linkWorld, []) Prod.snd ["w"] linkGeneration.1 linkGeneration.2 := by
  have hdirectory : HasDirectory linkMachine.tree linkMachine.directory := by decide
  refine ⟨hdirectory, locateFrom_linkMachine, by decide +kernel, ?_⟩
  exact generation_harmless (recording_watched (fun _ _ => rfl) fun _ _ => rfl) hdirectory
    locateFrom_linkMachine

end Webrev.Generation
