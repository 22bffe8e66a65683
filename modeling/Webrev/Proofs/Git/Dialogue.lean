import Webrev.Proofs.Attempt
import Webrev.Repository.Git

/-!
# Dialogues with `git`

What `git` is asked next depends on what it has answered so far. A dialogue is the tree of all
questions, with a branch for each answer; it knows neither a machine nor a world. Played on a
machine, it takes one way through the tree, and leaves the exchanges on this way. What the tree
says of every way therefore holds of every play, whatever the replies.

The words of a question carry their source, so that it can be said where the text of an outsider
gets to. Only their texts are handed to `git`.

## Main definitions

* `Git.Word`, `Git.Question`, `Git.Exchange` : what `git` is asked, and with what answer.
* `Git.Dialogue` : the tree of all questions.
* `Git.Dialogue.play` : the way that is taken on a machine.
* `Git.Dialogue.Way` : the ways through a tree.
* `Git.Course` : what exchanges make of a machine.

## Main results

* `Git.Dialogue.way_play`, `Git.Dialogue.course_play` : a play is a way and a course.
* `Git.Dialogue.way_bind_iff` : the ways through composed dialogues.
* `Git.Course.runs_eq` : the runs on a course.
* `Git.Course.exchange_cases` : the run that an exchange on a course makes, and its reply.
* `Git.Dialogue.play_eq_answered` : a play where every question makes a run.
-/

namespace Webrev.Git

/-- Where a word comes from: the program itself, the request, the reference that is asked for, the
page of the webrev, its patch, or `git`. -/
inductive Source where
  | program
  | request
  | reference
  | page
  | patch
  | git
  deriving DecidableEq, Repr

/-- A word of a command line and where it comes from. -/
structure Word where
  text : String
  source : Source
  deriving DecidableEq, Repr

instance : Coe String Word := ⟨fun text => ⟨text, .program⟩⟩

/-- What `git` is run with. -/
structure Question where
  words : List Word
  environment : List (String × String)
  deriving DecidableEq, Repr

/-- The arguments of a run. -/
def Question.args (question : Question) : List String := question.words.map Word.text

/-- The run of `git` in the working copy at `root`. -/
def Question.command (root : String) (question : Question) : Machine.Command :=
  ⟨"git", question.args, some root, question.environment⟩

/-- What comes of a question: a reply, or a fault when no run took place. -/
abbrev Answer := Except Machine.Fault Machine.Reply

/-- A question and what came of it. -/
structure Exchange where
  question : Question
  answer : Answer

/-- All questions of a dialogue, with a branch for each answer. -/
inductive Dialogue (α : Type) where
  | done (outcome : α)
  | ask (question : Question) (next : Answer → Dialogue α)

namespace Dialogue

variable {α β : Type}

/-- A dialogue after another. -/
def bind : Dialogue α → (α → Dialogue β) → Dialogue β
  | .done outcome, next => next outcome
  | .ask question rest, next => .ask question fun answer => (rest answer).bind next

instance : Monad Dialogue where
  pure := .done
  bind := .bind

theorem bind_done (dialogue : Dialogue α) : dialogue.bind .done = dialogue := by
  induction dialogue with
  | done => rfl
  | ask question rest ih => exact congrArg (Dialogue.ask question) (funext ih)

theorem bind_assoc {γ : Type} (dialogue : Dialogue α) (next : α → Dialogue β)
    (last : β → Dialogue γ) :
    (dialogue.bind next).bind last = dialogue.bind fun a => (next a).bind last := by
  induction dialogue with
  | done => rfl
  | ask question rest ih => exact congrArg (Dialogue.ask question) (funext ih)

instance : LawfulMonad Dialogue :=
  LawfulMonad.mk' Dialogue bind_done (fun _ _ => rfl) bind_assoc

/-! ### Ways -/

/-- A way through a dialogue, with its outcome. -/
inductive Way : Dialogue α → List Exchange → α → Prop
  | done (outcome : α) : Way (.done outcome) [] outcome
  | ask {question : Question} {next : Answer → Dialogue α} {answer : Answer}
      {exchanges : List Exchange} {outcome : α} (rest : Way (next answer) exchanges outcome) :
      Way (.ask question next) (⟨question, answer⟩ :: exchanges) outcome

theorem way_pure_iff {a outcome : α} {exchanges : List Exchange} :
    Way (pure a : Dialogue α) exchanges outcome ↔ exchanges = [] ∧ outcome = a := by
  constructor
  · rintro ⟨⟩
    exact ⟨rfl, rfl⟩
  · rintro ⟨rfl, rfl⟩
    exact .done _

/-- The ways through composed dialogues. -/
theorem way_bind_iff {dialogue : Dialogue α} {next : α → Dialogue β} {exchanges : List Exchange}
    {outcome : β} :
    Way (dialogue >>= next) exchanges outcome ↔
      ∃ a front rest, exchanges = front ++ rest ∧ Way dialogue front a ∧
        Way (next a) rest outcome := by
  constructor
  · intro h
    induction dialogue generalizing exchanges with
    | done a => exact ⟨a, [], exchanges, rfl, .done a, h⟩
    | ask question rest ih =>
      cases h with
      | @ask _ _ answer _ _ h =>
        obtain ⟨a, front, back, rfl, hfront, hback⟩ := ih answer h
        exact ⟨a, ⟨question, answer⟩ :: front, back, rfl, .ask hfront, hback⟩
  · rintro ⟨a, front, rest, rfl, hfront, hrest⟩
    induction hfront with
    | done => exact hrest
    | ask _ ih => exact .ask (ih hrest)

theorem way_map_iff {f : α → β} {dialogue : Dialogue α} {exchanges : List Exchange}
    {outcome : β} :
    Way (f <$> dialogue) exchanges outcome ↔ ∃ a, outcome = f a ∧ Way dialogue exchanges a := by
  rw [map_eq_pure_bind, way_bind_iff]
  constructor
  · rintro ⟨a, front, rest, rfl, hfront, hrest⟩
    obtain ⟨rfl, rfl⟩ := way_pure_iff.mp hrest
    exact ⟨a, rfl, (List.append_nil front).symm ▸ hfront⟩
  · rintro ⟨a, rfl, h⟩
    exact ⟨a, exchanges, [], (List.append_nil exchanges).symm, h, way_pure_iff.mpr ⟨rfl, rfl⟩⟩

theorem way_ask_done_iff {question : Question} {f : Answer → α} {exchanges : List Exchange}
    {outcome : α} :
    Way (.ask question fun answer => .done (f answer)) exchanges outcome ↔
      ∃ answer, exchanges = [⟨question, answer⟩] ∧ outcome = f answer := by
  constructor
  · rintro ⟨⟩
    next answer exchanges rest =>
      cases rest
      exact ⟨answer, rfl, rfl⟩
  · rintro ⟨answer, rfl, rfl⟩
    exact .ask (.done _)

/-! ### Plays -/

/-- What a play of a dialogue leaves. -/
structure Played (α : Type) where
  outcome : α
  exchanges : List Exchange
  machine : Machine

/-- A dialogue played on a machine, in the working copy at `root`. -/
def play (root : String) : Dialogue α → Machine → Played α
  | .done outcome, machine => ⟨outcome, [], machine⟩
  | .ask question next, machine =>
    let (answer, machine) := machine.run (question.command root)
    let rest := (next answer).play root machine
    ⟨rest.outcome, ⟨question, answer⟩ :: rest.exchanges, rest.machine⟩

theorem play_pure (root : String) (a : α) (machine : Machine) :
    (pure a : Dialogue α).play root machine = ⟨a, [], machine⟩ := rfl

theorem play_bind (root : String) (dialogue : Dialogue α) (next : α → Dialogue β)
    (machine : Machine) :
    (dialogue >>= next).play root machine =
      let front := dialogue.play root machine
      let rest := (next front.outcome).play root front.machine
      ⟨rest.outcome, front.exchanges ++ rest.exchanges, rest.machine⟩ := by
  induction dialogue generalizing machine with
  | done => rfl
  | ask question rest ih =>
    have hrest := ih (machine.run (question.command root)).1
      (machine.run (question.command root)).2
    change play root (.ask question fun answer => rest answer >>= next) machine = _
    rw [play, play]
    dsimp only
    rw [hrest]
    rfl

theorem play_bind_of_eq {root : String} {dialogue : Dialogue α} {machine middle : Machine} {a : α}
    {exchanges : List Exchange} (h : dialogue.play root machine = ⟨a, exchanges, middle⟩)
    (next : α → Dialogue β) :
    (dialogue >>= next).play root machine =
      ⟨((next a).play root middle).outcome, exchanges ++ ((next a).play root middle).exchanges,
        ((next a).play root middle).machine⟩ := by
  rw [play_bind, h]

theorem play_map (root : String) (f : α → β) (dialogue : Dialogue α) (machine : Machine) :
    (f <$> dialogue).play root machine =
      ⟨f (dialogue.play root machine).outcome, (dialogue.play root machine).exchanges,
        (dialogue.play root machine).machine⟩ := by
  rw [map_eq_pure_bind, play_bind]
  simp only [play_pure, List.append_nil]

/-- A play is a way. -/
theorem way_play (root : String) (dialogue : Dialogue α) (machine : Machine) :
    dialogue.Way (dialogue.play root machine).exchanges (dialogue.play root machine).outcome := by
  induction dialogue generalizing machine with
  | done outcome => exact .done outcome
  | ask question next ih => exact .ask (ih _ _)

end Dialogue

/-! ### Courses of a machine -/

/-- Exchanges that lead from one machine to another. -/
inductive Course (root : String) : Machine → List Exchange → Machine → Prop
  | nil (machine : Machine) : Course root machine [] machine
  | cons {machine next last : Machine} {exchange : Exchange} {exchanges : List Exchange}
      (first : machine.run (exchange.question.command root) = (exchange.answer, next))
      (rest : Course root next exchanges last) : Course root machine (exchange :: exchanges) last

/-- A play is a course. -/
theorem Dialogue.course_play {α : Type} (root : String) (dialogue : Dialogue α)
    (machine : Machine) :
    Course root machine (dialogue.play root machine).exchanges
      (dialogue.play root machine).machine := by
  induction dialogue generalizing machine with
  | done => exact .nil machine
  | ask question next ih => exact .cons rfl (ih _ _)

/-- Where programs are looked for and run. -/
def whereabouts (machine : Machine) : FileTree × FileTree.Place × List String :=
  (machine.tree, machine.directory, machine.searchPath)

theorem locateCommand_congr {machine other : Machine}
    (h : whereabouts machine = whereabouts other) (command : Machine.Command) :
    machine.locateCommand command = other.locateCommand command := by
  obtain ⟨tree, directory, searchPath, _, _⟩ := machine
  cases h
  rfl

/-- A machine after one more run, which took a reply. -/
def afterRun (machine : Machine) (run : Machine.Run) : Machine :=
  { machine with replies := machine.replies.drop 1, runs := machine.runs ++ [run] }

theorem run_of_locateCommand_ok {machine : Machine} {command : Machine.Command} {run : Machine.Run}
    (h : machine.locateCommand command = .ok run) :
    machine.run command =
      (.ok (machine.replies.head?.getD Machine.silence), afterRun machine run) := by
  rw [Machine.run, h]
  rfl

theorem run_of_locateCommand_error {machine : Machine} {command : Machine.Command}
    {fault : Machine.Fault} (h : machine.locateCommand command = .error fault) :
    machine.run command = (.error fault, machine) := by
  rw [Machine.run, h]

/-- The run that a question makes, if it can be made. -/
def Question.run? (root : String) (machine : Machine) (question : Question) : Option Machine.Run :=
  (machine.locateCommand (question.command root)).toOption

/-- A command is run when none of its texts holds a NUL and its directory and its program are
found. -/
theorem locateCommand_ok_iff {machine : Machine} {command : Machine.Command} {run : Machine.Run} :
    machine.locateCommand command = .ok run ↔
      command.hasNul = false ∧ ∃ directory place, machine.directoryOf command = .ok directory ∧
        machine.findProgram directory command.program = .ok place ∧
        run = ⟨place.getLast?.getD "", directory, command.args, command.environment⟩ := by
  unfold Machine.locateCommand
  cases command.hasNul with
  | true => exact ⟨nofun, nofun⟩
  | false =>
    cases machine.directoryOf command with
    | error fault => exact ⟨nofun, nofun⟩
    | ok directory =>
      cases hp : machine.findProgram directory command.program with
      | error fault => simp [hp, bind, Except.bind]
      | ok place => simp [hp, bind, Except.bind, pure, Except.pure, eq_comm]

theorem run?_eq_some_iff {root : String} {machine : Machine} {question : Question}
    {run : Machine.Run} :
    question.run? root machine = some run ↔
      machine.locateCommand (question.command root) = .ok run := by
  rw [Question.run?]
  cases machine.locateCommand (question.command root) <;> simp [Except.toOption]

/-- A run has the arguments and the environment of its question. -/
theorem args_of_run? {root : String} {machine : Machine} {question : Question} {run : Machine.Run}
    (h : question.run? root machine = some run) :
    run.args = question.args ∧ run.environment = question.environment := by
  obtain ⟨-, directory, place, -, -, rfl⟩ := locateCommand_ok_iff.mp (run?_eq_some_iff.mp h)
  exact ⟨rfl, rfl⟩

/-- The runs that exchanges make. -/
def runsOf (root : String) (machine : Machine) (exchanges : List Exchange) : List Machine.Run :=
  exchanges.filterMap fun exchange => exchange.question.run? root machine

theorem runsOf_congr {root : String} {machine other : Machine}
    (h : whereabouts machine = whereabouts other) : runsOf root machine = runsOf root other := by
  funext exchanges
  simp only [runsOf, Question.run?, locateCommand_congr h]

theorem runsOf_cons_some {root : String} {machine : Machine} {exchange : Exchange}
    {run : Machine.Run} (h : exchange.question.run? root machine = some run)
    (rest : List Exchange) :
    runsOf root machine (exchange :: rest) = run :: runsOf root machine rest :=
  List.filterMap_cons_some h

theorem runsOf_cons_none {root : String} {machine : Machine} {exchange : Exchange}
    (h : exchange.question.run? root machine = none) (rest : List Exchange) :
    runsOf root machine (exchange :: rest) = runsOf root machine rest :=
  List.filterMap_cons_none h

theorem runsOf_append (root : String) (machine : Machine) (front rest : List Exchange) :
    runsOf root machine (front ++ rest) =
      runsOf root machine front ++ runsOf root machine rest :=
  List.filterMap_append

/-- A run takes place, or nothing changes. -/
theorem run_cases {root : String} {machine next : Machine} {exchange : Exchange}
    (h : machine.run (exchange.question.command root) = (exchange.answer, next)) :
    (∃ run, exchange.question.run? root machine = some run ∧
        exchange.answer = .ok (machine.replies.head?.getD Machine.silence) ∧
        next = afterRun machine run) ∨
      exchange.question.run? root machine = none ∧ (∃ fault, exchange.answer = .error fault) ∧
        next = machine := by
  cases hl : machine.locateCommand (exchange.question.command root) with
  | ok run =>
    obtain ⟨hanswer, hnext⟩ := Prod.mk.inj ((run_of_locateCommand_ok hl).symm.trans h)
    exact .inl ⟨run, by rw [Question.run?, hl]; rfl, hanswer.symm, hnext.symm⟩
  | error fault =>
    obtain ⟨hanswer, hnext⟩ := Prod.mk.inj ((run_of_locateCommand_error hl).symm.trans h)
    exact .inr ⟨by rw [Question.run?, hl]; rfl, ⟨fault, hanswer.symm⟩, hnext.symm⟩

/-! ### Machines on which every question makes a run -/

section Answered

variable {α : Type}

/-- The outcome of a dialogue each of whose questions takes the next reply, and the exchanges. -/
def Dialogue.answered : Dialogue α → List Machine.Reply → α × List Exchange
  | .done outcome, _ => (outcome, [])
  | .ask question next, replies =>
    let reply := replies.head?.getD Machine.silence
    let rest := (next (.ok reply)).answered (replies.drop 1)
    (rest.1, ⟨question, .ok reply⟩ :: rest.2)

/-- When every question makes a run, a play depends on the replies only. -/
theorem Dialogue.play_eq_answered {root : String} {dialogue : Dialogue α} {machine : Machine}
    (h : ∀ exchange ∈ (dialogue.answered machine.replies).2,
      (exchange.question.run? root machine).isSome) :
    (dialogue.play root machine).outcome = (dialogue.answered machine.replies).1 ∧
      (dialogue.play root machine).exchanges = (dialogue.answered machine.replies).2 := by
  induction dialogue generalizing machine with
  | done => exact ⟨rfl, rfl⟩
  | ask question next ih =>
    obtain ⟨hfirst, hrest⟩ := List.forall_mem_cons.mp h
    obtain ⟨run, hrun⟩ := Option.isSome_iff_exists.mp hfirst
    let answer : Answer := .ok (machine.replies.head?.getD Machine.silence)
    obtain ⟨houtcome, hexchanges⟩ := @ih answer (afterRun machine run) hrest
    rw [play, run_of_locateCommand_ok (run?_eq_some_iff.mp hrun)]
    exact ⟨houtcome, congrArg (⟨question, answer⟩ :: ·) hexchanges⟩

end Answered

namespace Course

variable {root : String} {machine last : Machine} {exchanges : List Exchange}

/-- What a course leaves of a machine: its runs are made, each takes a reply, and nothing else
changes. -/
theorem leaves (h : Course root machine exchanges last) :
    whereabouts last = whereabouts machine ∧
      last.runs = machine.runs ++ runsOf root machine exchanges ∧
      last.replies = machine.replies.drop (runsOf root machine exchanges).length := by
  induction h with
  | nil => simp [runsOf]
  | @cons machine next last exchange exchanges first _ ih =>
    obtain ⟨hplace, hruns, hreplies⟩ := ih
    rcases run_cases first with ⟨run, hrun, -, rfl⟩ | ⟨hrun, -, rfl⟩
    · have hcongr : runsOf root (afterRun machine run) = runsOf root machine := runsOf_congr rfl
      rw [hcongr] at hruns hreplies
      rw [hruns, hreplies, runsOf_cons_some hrun]
      refine ⟨hplace, ?_, ?_⟩
      · rw [afterRun, List.append_assoc, List.singleton_append]
      · rw [afterRun, List.drop_drop, List.length_cons, Nat.add_comm]
    · rw [runsOf_cons_none hrun]
      exact ⟨hplace, hruns, hreplies⟩

/-- The runs on a course. -/
theorem runs_eq (h : Course root machine exchanges last) :
    last.runs = machine.runs ++ runsOf root machine exchanges := h.leaves.2.1

/-- A course is cut at any of its exchanges. -/
theorem split {front rest : List Exchange} (h : Course root machine (front ++ rest) last) :
    ∃ middle, Course root machine front middle ∧ Course root middle rest last := by
  induction front generalizing machine with
  | nil => exact ⟨machine, .nil machine, h⟩
  | cons exchange front ih =>
    cases h with
    | cons first rest =>
      obtain ⟨middle, hfront, hrest⟩ := ih rest
      exact ⟨middle, .cons first hfront, hrest⟩

/-- An exchange on a course makes a run and takes its reply, or makes none. -/
theorem exchange_cases {front rest : List Exchange} {exchange : Exchange}
    (h : Course root machine (front ++ exchange :: rest) last) :
    (∃ run, exchange.question.run? root machine = some run ∧
        exchange.answer =
          .ok (machine.replies[(runsOf root machine front).length]?.getD Machine.silence)) ∨
      exchange.question.run? root machine = none ∧ ∃ fault, exchange.answer = .error fault := by
  obtain ⟨middle, hfront, hrest⟩ := h.split
  obtain ⟨hplace, -, hreplies⟩ := hfront.leaves
  have hrun : exchange.question.run? root middle = exchange.question.run? root machine := by
    rw [Question.run?, Question.run?, locateCommand_congr hplace]
  cases hrest with
  | cons first _ =>
    rw [← hrun]
    rcases run_cases first with ⟨run, hmade, hanswer, -⟩ | ⟨hmade, hanswer, -⟩
    · exact .inl ⟨run, hmade, by rw [hanswer, hreplies, List.head?_drop]⟩
    · exact .inr ⟨hmade, hanswer⟩

end Course

end Webrev.Git
