import Webrev.Proofs.Git.Refinement
import Webrev.Proofs.Git.Ways
import Mathlib.Data.List.Basic

/-!
# Where the texts of outsiders get to

A page and the reference that is asked for are texts of outsiders, and a text that begins with `-`
is an option to `git` wherever a revision is expected. What is looked up is never such a text: a
revision is asked for only when it does not begin so. What is found is a word of `git` itself. The
revision that a page says it was compared against is not looked up, though, and the branch is made
at it as it stands. So the words of outsiders are followed through the pipeline with what each part
gives to the next: a commit that is a word of an outsider is the revision of the page.

## Main definitions

* `Git.Word.IsForeign`, `Git.Question.IsSafe` : words of outsiders, and that none would be an
  option.
* `Git.Question.IsLook` : questions that change nothing.
* `Git.Chosen` : where the branch is made.
* `Git.HasDashedRevision` : the page says a revision that would be an option.

## Main results

* `Git.Talk.Keeps.prepare` : no word of an outsider is an option before the branch is made.
* `Git.isSafe_iff_of_isFetching` : nor after that, but for the revision of the page.
* `Git.fetch_words_safe_iff` : the same for the runs of a fetch.
-/

namespace Webrev.Git

open Integration

/-! ### Words of outsiders -/

/-- The word is a text of the page or the reference that is asked for. -/
def Word.IsForeign (word : Word) : Prop := word.source = .page ∨ word.source = .reference

/-- No word of an outsider begins as an option does. -/
def Question.IsSafe (question : Question) : Prop :=
  ∀ word ∈ question.words, word.IsForeign → ¬word.IsDashed

instance (word : Word) : Decidable word.IsForeign := inferInstanceAs (Decidable (_ ∨ _))

instance (question : Question) : Decidable question.IsSafe :=
  inferInstanceAs (Decidable (∀ word ∈ question.words, _))

theorem isForeign_mk_iff (text : String) (source : Source) :
    (⟨text, source⟩ : Word).IsForeign ↔ source = .page ∨ source = .reference := Iff.rfl

/-- A revision that is looked up does not begin as an option does. -/
theorem not_isDashed_revision {word : Word} (h : ¬(word.text = "" ∨ word.IsDashed))
    (suffix : String) : ¬(⟨word.text ++ suffix, word.source⟩ : Word).IsDashed := by
  obtain ⟨hne, hhead⟩ := not_or.mp h
  obtain ⟨c, rest, hcons⟩ := List.exists_cons_of_ne_nil (mt String.toList_eq_nil_iff.mp hne)
  rw [Word.IsDashed, hcons] at hhead
  rwa [Word.IsDashed, String.toList_append, hcons]

/-! ### Before the branch is made -/

/-- The commands that change nothing. -/
def looks : List String := ["status", "rev-parse", "for-each-ref", "symbolic-ref"]

/-- The question changes nothing. -/
def Question.IsLook (question : Question) : Prop :=
  ∃ command ∈ looks, question.args.head? = some command

instance (question : Question) : Decidable question.IsLook :=
  inferInstanceAs (Decidable (∃ command ∈ looks, _))

theorem Question.IsLook.head?_ne {question : Question} (h : question.IsLook) {command : String}
    (hc : command ∉ looks) : question.args.head? ≠ some command := by
  intro hhead
  obtain ⟨look, hlook, hl⟩ := h
  exact hc (Option.some.inj (hhead.symm.trans hl) ▸ hlook)

/-- The question is safe and changes nothing. -/
def Question.IsPreparing (question : Question) : Prop := question.IsSafe ∧ question.IsLook

/-- Where the branch is made: at a word that is not an outsider's, or at the revision of the page,
and there if the page has one and no reference is asked for. -/
structure Chosen (metadata : Metadata) (reference : Option String) (start : Word) : Prop where
  of_isForeign : start.IsForeign →
    reference = none ∧ metadata.compareAgainstRevision = some start.text
  eq_revision : reference = none → ∀ revision, metadata.compareAgainstRevision = some revision →
    start = ⟨revision, .page⟩

/-- What is checked out is not said by an outsider. -/
def Place.IsOwn : Place → Prop
  | .branch name => ¬name.IsForeign
  | .detached commit => ¬commit.IsForeign

/-- What is known when the branch is made comes from the download, and the branch is made where it
says. -/
structure Prepared.Follows (prepared : Prepared) (request : Request)
    (found : Except Error (Metadata × PatchFile)) : Prop where
  downloaded : ∃ patch, found = .ok (prepared.metadata, patch)
  chosen : Chosen prepared.metadata request.reference prepared.start
  place : prepared.place.IsOwn

namespace Talk.Keeps

theorem revision (word : Word) :
    (Git.revision word).Keeps Question.IsPreparing
      fun found => ∀ commit ∈ found, ¬commit.IsForeign := by
  unfold Git.revision
  by_cases hr : word.text = "" ∨ word.IsDashed
  · rw [if_pos hr]
    exact pure nofun
  · rw [if_neg hr]
    refine bind (ask ⟨?_, "rev-parse", by decide, rfl⟩) fun reply _ => ?_
    · simp only [Question.IsSafe, List.forall_mem_cons, isForeign_mk_iff, reduceCtorEq, or_self,
        false_implies, List.not_mem_nil, implies_true, and_true, true_and]
      exact fun _ => not_isDashed_revision hr _
    · split
      · refine bind (ofExcept fun text _ => trivial) fun text _ => pure ?_
        simp [isForeign_mk_iff]
      · exact pure nofun

theorem commitOf (word : Word) :
    (Git.commitOf word).Keeps Question.IsPreparing fun commit => ¬commit.IsForeign := by
  unfold Git.commitOf
  refine bind (mapError (revision word)) fun found hfound => ?_
  cases found with
  | none => exact throw _
  | some commit => exact pure (hfound commit rfl)

theorem commitOfBranch (word : Word) :
    (Git.commitOfBranch word).Keeps Question.IsPreparing fun commit => ¬commit.IsForeign := by
  unfold Git.commitOfBranch
  refine bind (mapError (take ⟨by decide, by decide⟩)) fun branches _ => ?_
  split
  · exact commitOf word
  · exact throw _

theorem checkedOut :
    Git.checkedOut.Keeps Question.IsPreparing fun found => ∀ name ∈ found, ¬name.IsForeign := by
  unfold Git.checkedOut
  refine bind (ask ⟨by decide, by decide⟩) fun reply _ => ?_
  split
  · refine bind (ofExcept fun text _ => trivial) fun text _ => pure ?_
    split <;> simp [isForeign_mk_iff]
  · exact pure nofun

theorem target (metadata : Metadata) (reference : Option String) :
    (Git.target metadata reference).Keeps Question.IsPreparing
      fun chosen => Chosen metadata reference chosen.1 := by
  unfold Git.target
  rcases reference with _ | reference
  · rcases hr : metadata.compareAgainstRevision with _ | revision
    · rcases metadata.branch with _ | name
      · exact throw _
      · refine bind (commitOfBranch ⟨name, .page⟩) fun commit hcommit => pure ?_
        exact ⟨fun hf => absurd hf hcommit, fun _ revision h => nomatch hr.symm.trans h⟩
    · refine pure ⟨fun _ => ⟨rfl, hr⟩, fun _ other h => ?_⟩
      rw [Option.some.inj (hr.symm.trans h)]
  · refine bind (commitOf ⟨reference, .reference⟩) fun commit hcommit => pure ?_
    exact ⟨fun hf => absurd hf hcommit, nofun⟩

theorem place : Git.place.Keeps Question.IsPreparing Place.IsOwn := by
  unfold Git.place
  refine bind (mapError checkedOut) fun name hname => ?_
  cases name with
  | some name => exact pure (hname name rfl)
  | none =>
    refine bind (mapError (revision "HEAD")) fun commit hcommit => ?_
    cases commit with
    | some commit => exact pure (hcommit commit rfl)
    | none => exact throw _

/-- No word of an outsider is an option before the branch is made, and what is known then comes from
the download. -/
theorem prepare (request : Request) (found : Except Error (Metadata × PatchFile)) :
    (Git.prepare request found).Keeps Question.IsPreparing
      fun prepared => prepared.Follows request found := by
  unfold Git.prepare
  refine bind (mapError (take ⟨by decide, by decide⟩)) fun changes _ => ?_
  cases changes.isEmpty with
  | false => exact throw _
  | true =>
    refine bind (ofExcept fun webrev hwebrev => hwebrev) fun webrev hwebrev => ?_
    refine bind (mapError (target webrev.1 request.reference)) fun chosen hchosen => ?_
    exact bind place fun place hplace => pure ⟨⟨webrev.2, hwebrev⟩, hchosen, hplace⟩

end Talk.Keeps

/-! ### From the branch on -/

/-- The run that makes the branch, wherever. -/
def Question.MakesBranch (request : Request) (question : Question) : Prop :=
  ∃ start, question = (branchStep request start).question

theorem isSafe_branchStep_iff {request : Request} {start : Word} :
    (branchStep request start).question.IsSafe ↔ ¬(start.IsForeign ∧ start.IsDashed) := by
  simp only [branchStep, Step.printed, Question.IsSafe, List.forall_mem_cons, isForeign_mk_iff,
    reduceCtorEq, or_self, false_implies, List.not_mem_nil, implies_true, and_true, true_and,
    not_and]

/-- The question is safe, or it makes the branch where the preparation says. -/
def Question.IsFetching (request : Request) (found : Except Error (Metadata × PatchFile))
    (question : Question) : Prop :=
  (∃ prepared : Prepared, prepared.Follows request found ∧
      question = (branchStep request prepared.start).question) ∨
    question.IsSafe ∧ ¬question.MakesBranch request

theorem not_makesBranch_of_head? {request : Request} {question : Question}
    (h : question.args.head? ≠ some "branch") : ¬question.MakesBranch request := by
  rintro ⟨start, rfl⟩
  exact h rfl

theorem isFetching_commitSteps (request : Request) (patch : PatchFile) (author : String)
    (found : Except Error (Metadata × PatchFile)) :
    ∀ step ∈ commitSteps request patch author, step.question.IsFetching request found := by
  intro step hstep
  refine .inr ⟨?_, not_makesBranch_of_head? ?_⟩
  · revert step
    simp [commitSteps, Step.printed, Step.silent, Question.IsSafe, isForeign_mk_iff]
  · revert step
    simp [commitSteps, Step.printed, Step.silent, Question.args]

/-- The branch is deleted by its name, which is not an outsider's. -/
theorem isFetching_takeBackSteps (request : Request) {place : Place} (h : place.IsOwn)
    (found : Except Error (Metadata × PatchFile)) :
    ∀ step ∈ takeBackSteps request place, step.question.IsFetching request found := by
  have hreset : resetStep.question.IsFetching request found :=
    .inr ⟨by decide, not_makesBranch_of_head? (by decide)⟩
  have hrestore : place.restoreStep.question.IsFetching request found := by
    refine .inr ⟨?_, not_makesBranch_of_head? ?_⟩
    · cases place with
      | branch name =>
        simp [Place.restoreStep, Step.printed, Question.IsSafe, isForeign_mk_iff,
          show ¬name.IsForeign from h]
      | detached commit =>
        simp [Place.restoreStep, Step.printed, Question.IsSafe, isForeign_mk_iff,
          show ¬commit.IsForeign from h]
    · cases place <;> simp [Place.restoreStep, Step.printed, Question.args]
  have hdelete : (Step.printed ["branch", "-D", ⟨request.branch, .request⟩]).question.IsFetching
      request found := by
    refine .inr ⟨by simp [Step.printed, Question.IsSafe, isForeign_mk_iff], ?_⟩
    simp [Question.MakesBranch, Step.printed, branchStep]
  exact List.forall_mem_cons.mpr ⟨hreset, List.forall_mem_cons.mpr ⟨hrestore,
    List.forall_mem_singleton.mpr hdelete⟩⟩

namespace Talk.Keeps

theorem bring {request : Request} {found : Except Error (Metadata × PatchFile)}
    {prepared : Prepared} (h : prepared.Follows request found) :
    (Git.bring request prepared).Keeps (Question.IsFetching request found) fun _ => True := by
  unfold Git.bring
  refine bind (mapError (take (.inl ⟨prepared, h, rfl⟩))) fun text _ => ?_
  refine bind (commitOrTakeBack (isFetching_commitSteps request prepared.patch _ found)
    (isFetching_takeBackSteps request h.place found)) fun commit _ => pure trivial

/-- Every question of the pipeline is safe, or it makes the branch where the preparation says. -/
theorem pipeline (request : Request) (found : Except Error (Metadata × PatchFile)) :
    (Git.pipeline request found).Keeps (Question.IsFetching request found) fun _ => True := by
  unfold Git.pipeline
  refine bind (imp (prepare request found) fun question hq => ?_) fun prepared h => bring h
  exact .inr ⟨hq.1, not_makesBranch_of_head? (hq.2.head?_ne (by decide))⟩

end Talk.Keeps

/-! ### A fetch with given replies -/

/-- A network with a page that says the given revision, and with a patch. -/
def sessionWith (revision : String) : Http.Session where
  network :=
    { reachable := true
      responses :=
        [⟨⟨200⟩, [Utf8.encode ("<table>\n<tr><th>Compare against revision:</th><td>" ++ revision ++
            "</td></tr>\n<tr><th>Patch of changes:</th><td>" ++
            "<a href=\"w.patch\">w.patch</a></td></tr>\n</table>\n").toList], none, false⟩,
          ⟨⟨200⟩, [[0x2B]], none, false⟩]
      wire := [] }
  spool := ⟨"/tmp", true, [], 0, []⟩
  visits := []

/-- A tree with `git` and a working copy. -/
def workTree : FileTree :=
  ⟨[(["bin"], .directory), (["bin", "git"], .file [] true), (["work"], .directory)]⟩

/-- A machine with the tree and the given replies of `git`. -/
def machineWith (replies : List Machine.Reply) : Machine := ⟨workTree, [], ["/bin"], replies, []⟩

/-- A run that ended well and wrote a text. -/
def printing (text : String) : Machine.Reply := ⟨.exited 0, Utf8.encode text.toList, []⟩

/-- The fetch of the page. -/
def pageRequest : Request := ⟨"http://h/w/", "fetched", none⟩

theorem locateFrom_work : workTree.locateFrom [] true "/work" = .ok (["work"], .directory) := by
  have hsteps : FilePath.steps "/work" = ["work"] := by decide +kernel
  have hsize : "work".utf8ByteSize = 4 ∧ "/work".utf8ByteSize = 5 := by decide +kernel
  simp [FileTree.locateFrom, hsteps, hsize, FileTree.walk, workTree, FileTree.node?,
    FileTree.nameLimit, FileTree.pathLimit, List.lookup_cons]

theorem locateFrom_git (directory : List String) :
    workTree.locateFrom directory true "/bin/git" = .ok (["bin", "git"], .file [] true) := by
  have hsteps : FilePath.steps "/bin/git" = ["bin", "git"] := by decide +kernel
  have hsize : "bin".utf8ByteSize = 3 ∧ "git".utf8ByteSize = 3 ∧ "/bin/git".utf8ByteSize = 8 := by
    decide +kernel
  simp [FileTree.locateFrom, hsteps, hsize, FileTree.walk, workTree, FileTree.node?,
    FileTree.nameLimit, FileTree.pathLimit, List.lookup_cons, FilePath.isAbsolute]

/-- A `git` lies there wherever a run takes place. -/
theorem findProgram_machineWith (replies : List Machine.Reply) (directory : FileTree.Place) :
    (machineWith replies).findProgram directory "git" = .ok ["bin", "git"] := by
  have hjoin : FilePath.join "/bin" "git" = "/bin/git" := by decide +kernel
  simp [Machine.findProgram, Machine.programAt, machineWith, hjoin, locateFrom_git]

/-- Every command without a NUL makes a run in the working copy. -/
theorem locateCommand_machineWith (replies : List Machine.Reply) {args : List String}
    {environment : List (String × String)}
    (h : Machine.Command.hasNul ⟨"git", args, some "/work", environment⟩ = false) :
    (machineWith replies).locateCommand ⟨"git", args, some "/work", environment⟩ =
      .ok ⟨"git", ["work"], args, environment⟩ := by
  refine locateCommand_ok_iff.mpr ⟨h, ["work"], ["bin", "git"], ?_,
    findProgram_machineWith replies ["work"], rfl⟩
  simp [Machine.directoryOf, machineWith, locateFrom_work]

/-- Every question without a NUL makes a run there. -/
theorem run?_machineWith (replies : List Machine.Reply) {question : Question}
    (h : (question.command "/work").hasNul = false) :
    question.run? "/work" (machineWith replies) =
      some ⟨"git", ["work"], question.args, question.environment⟩ :=
  run?_eq_some_iff.mpr (locateCommand_machineWith replies h)

/-- A world with a page that says the revision, and with the given replies of `git`. -/
def pageWorld (revision : String) (replies : List Machine.Reply) : Program.World :=
  ⟨machineWith replies, sessionWith revision⟩

/-- The outcome of the fetch of the page when each question takes the next reply, and the
exchanges. -/
def pageAnswered (revision : String) (replies : List Machine.Reply) :
    Except Error Fetched × List Exchange :=
  (pipeline pageRequest (downloaded (Http.client "agent") pageRequest
    (pageWorld revision replies))).run.answered replies

/-- A run in the working copy with nothing added to the environment. -/
def gitRun (args : List String) : Machine.Run := ⟨"git", ["work"], args, []⟩

/-- The play of its pipeline depends on the replies only. -/
theorem fetchPlay_pageWorld (revision : String) (replies : List Machine.Reply)
    (h : ∀ exchange ∈ (pageAnswered revision replies).2,
      (exchange.question.command "/work").hasNul = false) :
    (fetchPlay (Http.client "agent") "/work" pageRequest (pageWorld revision replies)).outcome =
        (pageAnswered revision replies).1 ∧
      (fetchPlay (Http.client "agent") "/work" pageRequest
        (pageWorld revision replies)).exchanges = (pageAnswered revision replies).2 := by
  refine Dialogue.play_eq_answered fun exchange he => ?_
  rw [pageWorld, run?_machineWith _ (h exchange he)]
  rfl

/-- Each of its questions makes a run. -/
theorem runsOf_pageWorld {revision : String} {replies : List Machine.Reply}
    {exchanges : List Exchange}
    (h : ∀ exchange ∈ exchanges, (exchange.question.command "/work").hasNul = false) :
    runsOf "/work" (pageWorld revision replies).machine exchanges = exchanges.map fun exchange =>
      ⟨"git", ["work"], exchange.question.args, exchange.question.environment⟩ :=
  List.filterMap_eq_map_iff_forall_eq_some.mpr fun exchange he =>
    run?_machineWith replies (h exchange he)

/-- Such a fetch depends on the replies only. -/
theorem fetch_pageWorld (revision : String) (replies : List Machine.Reply)
    (h : ∀ exchange ∈ (pageAnswered revision replies).2,
      (exchange.question.command "/work").hasNul = false) :
    (fetchPlay (Http.client "agent") "/work" pageRequest (pageWorld revision replies)).exchanges =
        (pageAnswered revision replies).2 ∧
      (fetchAt (Http.client "agent") "/work" pageRequest (pageWorld revision replies)).1 =
        (pageAnswered revision replies).1 ∧
      (fetchAt (Http.client "agent") "/work" pageRequest
        (pageWorld revision replies)).2.machine.runs =
        (pageAnswered revision replies).2.map fun exchange =>
          ⟨"git", ["work"], exchange.question.args, exchange.question.environment⟩ := by
  obtain ⟨houtcome, hexchanges⟩ := fetchPlay_pageWorld revision replies h
  refine ⟨hexchanges, (outcome_fetchAt ..).trans houtcome, ?_⟩
  rw [runs_fetchAt, hexchanges, runsOf_pageWorld h]
  rfl

/-- The replies of `git` in a clean working copy. -/
def cleanReplies : List Machine.Reply := [printing "", printing "main\n", printing ""]

/-! ### The runs of a fetch -/

/-- The page says that it was compared against a revision which begins as an option does, and no
reference is asked for. -/
def HasDashedRevision (request : Request) (found : Except Error (Metadata × PatchFile)) : Prop :=
  request.reference = none ∧ ∃ metadata patch revision, found = .ok (metadata, patch) ∧
    metadata.compareAgainstRevision = some revision ∧ revision.toList.head? = some '-'

theorem Prepared.Follows.hasDashedRevision_iff {prepared : Prepared} {request : Request}
    {found : Except Error (Metadata × PatchFile)} (h : prepared.Follows request found) :
    prepared.start.IsForeign ∧ prepared.start.IsDashed ↔ HasDashedRevision request found := by
  obtain ⟨patch, hfound⟩ := h.downloaded
  constructor
  · rintro ⟨hf, hd⟩
    obtain ⟨hreference, hrevision⟩ := h.chosen.of_isForeign hf
    exact ⟨hreference, prepared.metadata, patch, prepared.start.text, hfound, hrevision, hd⟩
  · rintro ⟨hreference, metadata, patch', revision, hfound', hrevision, hd⟩
    obtain ⟨rfl, -⟩ := Prod.mk.inj (Except.ok.inj (hfound.symm.trans hfound'))
    rw [h.chosen.eq_revision hreference revision hrevision]
    exact ⟨.inl rfl, hd⟩

/-- Of the questions of a fetch only the one that makes the branch can be unsafe, and it is when the
page says a revision that begins as an option does. -/
theorem isSafe_iff_of_isFetching {request : Request}
    {found : Except Error (Metadata × PatchFile)} {question : Question}
    (h : question.IsFetching request found) :
    question.IsSafe ↔ ¬(HasDashedRevision request found ∧ question.MakesBranch request) := by
  rcases h with ⟨prepared, hfollows, rfl⟩ | ⟨hsafe, hnot⟩
  · rw [isSafe_branchStep_iff, hfollows.hasDashedRevision_iff]
    exact not_congr (and_iff_left ⟨prepared.start, rfl⟩).symm
  · exact iff_of_true hsafe fun hboth => hnot hboth.2

section Fetch

variable (client : Client Http.Session) (root : String) (request : Request)
  (world : Program.World)

/-- **Words of outsiders in the runs of a fetch.** The runs of a fetch are those that the questions
of its pipeline make. In each of them no word of the page, nor the reference, begins as an option
does; unless the branch is made when no reference is asked for and the page says a revision that
begins so. -/
theorem fetch_words_safe_iff :
    (fetchAt client root request world).2.machine.runs = world.machine.runs ++
        runsOf root world.machine (fetchPlay client root request world).exchanges ∧
      ((∀ exchange ∈ (fetchPlay client root request world).exchanges,
          (exchange.question.run? root world.machine).isSome → exchange.question.IsSafe) ↔
        ¬(HasDashedRevision request (downloaded client request world) ∧
          ∃ exchange ∈ (fetchPlay client root request world).exchanges,
            (exchange.question.run? root world.machine).isSome ∧
              exchange.question.MakesBranch request)) := by
  refine ⟨runs_fetchAt client root request world, ?_⟩
  have hsafe : ∀ exchange ∈ (fetchPlay client root request world).exchanges,
      (exchange.question.IsSafe ↔ ¬(HasDashedRevision request (downloaded client request world) ∧
        exchange.question.MakesBranch request)) := fun exchange he =>
    isSafe_iff_of_isFetching
      ((Talk.Keeps.pipeline _ _ _ _ (way_fetchPlay client root request world)).1 exchange he)
  constructor
  · rintro hall ⟨hdashed, exchange, he, hrun, hmakes⟩
    exact (hsafe exchange he).mp (hall exchange he hrun) ⟨hdashed, hmakes⟩
  · intro hnone exchange he hrun
    refine (hsafe exchange he).mpr fun hboth => hnone ⟨hboth.1, exchange, he, hrun, hboth.2⟩

/-- An option of the page is one of the run that makes the branch. -/
theorem fetch_not_safe_of_dashed :
    (∃ run ∈ (fetchAt (Http.client "agent") "/work" pageRequest
          (pageWorld "-D" cleanReplies)).2.machine.runs, run.args = ["branch", "fetched", "-D"]) ∧
      ¬∀ exchange ∈ (fetchPlay (Http.client "agent") "/work" pageRequest
          (pageWorld "-D" cleanReplies)).exchanges,
        (exchange.question.run? "/work" (pageWorld "-D" cleanReplies).machine).isSome →
          exchange.question.IsSafe := by
  have hnul : ∀ exchange ∈ (pageAnswered "-D" cleanReplies).2,
      (exchange.question.command "/work").hasNul = false := by decide +kernel
  have hasked : ∃ exchange ∈ (pageAnswered "-D" cleanReplies).2,
      exchange.question.args = ["branch", "fetched", "-D"] ∧ ¬exchange.question.IsSafe := by
    decide +kernel
  obtain ⟨hexchanges, -, hruns⟩ := fetch_pageWorld _ _ hnul
  obtain ⟨exchange, he, hargs, hunsafe⟩ := hasked
  rw [hexchanges, hruns]
  refine ⟨⟨_, List.mem_map_of_mem he, hargs⟩, fun hall => hunsafe (hall exchange he ?_)⟩
  rw [pageWorld, run?_machineWith _ (hnul exchange he)]
  rfl

end Fetch

end Webrev.Git
