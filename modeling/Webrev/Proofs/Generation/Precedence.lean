import Webrev.Proofs.Generation.Known
import Webrev.Proofs.Generation.Title

/-!
# What a plan takes from where

A flag goes before the configuration of the repository, and the configuration before what is taken
otherwise. What comes later is not looked at: when two repositories differ there only, their plans
agree. A key of the configuration with many values says no more than one with none.

## Main definitions

* `Answers.AgreeBut` : two repositories that differ only in the answers to some questions.
* `Plan.Source` : the questions that a part of a plan is taken from.
* `Plan.Precedence` : what two plans agree on.

## Main results

* `Answers.plan_congr` : what a plan hangs on.
* `Plan.make_precedence` : the plans of two repositories agree where they must.
-/

namespace Webrev

/-! ### Repositories that differ in some answers -/

/-- The answers differ at most at some questions. -/
def Answers.AgreeBut (questions : List Query) (known known' : Answers) : Prop :=
  ∀ question, question ∉ questions → known question = known' question

namespace Plan.Source

/-- A setting in the configuration. -/
def setting (name : String) : List Query := [.config (Setting.key name)]

/-- Where the remote `origin` is fetched from. -/
def origin : List Query := [.pullPath "origin", .config "remote.origin.url"]

/-- The name of the committer. -/
def committer : List Query := [.username, .config "user.name"]

/-- The branch that is checked out. -/
def branch : List Query := [.currentBranch]

end Plan.Source

namespace Answers

variable {known known' : Answers} {options : Plan.Options} {baseRef : String}
  {defaults : Plan.Defaults}

theorem setting_congr {flag : Option String} {name : String}
    (h : Setting.theOnly (known (.config (Setting.key name))) =
      Setting.theOnly (known' (.config (Setting.key name)))) :
    known.setting flag name = known'.setting flag name := by
  rw [setting, setting, h]

/-- A flag is the setting. -/
theorem setting_of_flag {flag : Option String} {value : String} (h : flag = some value)
    (name : String) : known.setting flag name = some value := by
  rw [h]
  rfl

/-- One value in the configuration is a setting. -/
theorem setting_of_one {name value : String}
    (h : known (.config (Setting.key name)) = ([value] : List String)) (flag : Option String) :
    known.setting flag name = some (flag.getD value) := by
  rw [setting, h]
  cases flag <;> rfl

theorem repository_of_setting {value : String}
    (h : known.setting options.repository "repository" = some value) :
    known.repository options = some value := by
  rw [repository, h, Option.some_or]

theorem username_of_setting {value : String}
    (h : known.setting options.username "username" = some value) :
    known.username options defaults = some value := by
  rw [username, h, Option.some_or]

theorem base_of_rev {rev : String} (h : options.rev = some rev) :
    known.base options baseRef = (known.commitOf rev).mapError .resolve := by
  rw [base, revision, h, Option.getD_some]

/-- The settings that are looked up for a plan. -/
def settings : List String := ["output", "repository", "username", "no-outgoing"]

/-- A plan hangs on the settings with exactly one value, and on what is not configuration. -/
theorem plan_congr
    (hsettings : ∀ name ∈ settings, Setting.theOnly (known (.config (Setting.key name))) =
      Setting.theOnly (known' (.config (Setting.key name))))
    (hothers : ∀ question, (∀ key, question ≠ .config key) → known question = known' question) :
    known.plan options baseRef defaults = known'.plan options baseRef defaults := by
  have hrepository : known.repository options = known'.repository options := by
    rw [repository, repository, setting_congr (hsettings "repository" (by decide)),
      hothers (.pullPath "origin") (by simp)]
  have hissue : known.issue options = known'.issue options := by
    rw [issue, issue, hothers .currentBranch (by simp)]
  have husername : known.username options defaults = known'.username options defaults := by
    rw [username, username, setting_congr (hsettings "username" (by decide)),
      hothers .username (by simp)]
  have hrevision : known.revision options baseRef = known'.revision options baseRef := by
    rw [revision, revision, noOutgoing, noOutgoing, hsettings "no-outgoing" (by decide)]
  have hbase : known.base options baseRef = known'.base options baseRef := by
    rw [base, base, commitOf, commitOf, hrevision, hothers (.resolve _) (by simp)]
  rw [plan, plan, hbase]
  refine congrArg (Except.map · _) (funext fun base => ?_)
  rw [planAt, planAt, hrepository, hissue, husername,
    setting_congr (hsettings "output" (by decide))]

theorem theOnly_of_many {values : List String} (h : 2 ≤ values.length) :
    Setting.theOnly values = none := by
  match values, h with
  | _ :: _ :: _, _ => rfl

/-- A setting with many values is a setting with none. -/
theorem plan_congr_of_many {name : String}
    (h : AgreeBut (Plan.Source.setting name) known known')
    (hnone : known (.config (Setting.key name)) = ([] : List String))
    (hmany : 2 ≤ List.length (known' (.config (Setting.key name)))) :
    known.plan options baseRef defaults = known'.plan options baseRef defaults := by
  refine plan_congr (fun other _ => ?_) fun question hquestion => h question fun hmem => ?_
  · by_cases heq : Setting.key other = Setting.key name
    · rw [heq, hnone, theOnly_of_many hmany]
      rfl
    · rw [h (.config (Setting.key other)) (by simpa [Plan.Source.setting] using heq)]
  · exact hquestion _ (List.mem_singleton.mp hmem)

end Answers

/-! ### Agreement -/

namespace Plan

/-- What the plans of two repositories agree on, by what the repositories differ in. -/
structure Precedence (options : Options) (defaults : Defaults) (known known' : Answers)
    (plan plan' : Plan) : Prop where
  /-- With `--output`, the setting is not looked at. -/
  output : options.output.isSome → known.AgreeBut (Source.setting "output") known' →
    plan.output = plan'.output
  /-- With `--repository`, neither the setting nor the remote is. -/
  repository_of_flag : options.repository.isSome →
    known.AgreeBut (Source.setting "repository" ++ Source.origin) known' →
    plan.repository = plan'.repository
  /-- With a setting that has one value, the remote is not. -/
  repository_of_setting :
    (∃ value, known (.config (Setting.key "repository")) = [value]) →
    known.AgreeBut Source.origin known' → plan.repository = plan'.repository
  /-- With `--username`, neither the setting nor the committer is. -/
  username_of_flag : options.username.isSome →
    known.AgreeBut (Source.setting "username" ++ Source.committer) known' →
    plan.username = plan'.username
  /-- With a setting that has one value, the committer is not. -/
  username_of_setting :
    (∃ value, known (.config (Setting.key "username")) = [value]) →
    known.AgreeBut Source.committer known' → plan.username = plan'.username
  /-- With `--rev`, it does not matter whether the remote is compared against. -/
  base : options.rev.isSome → known.AgreeBut (Source.setting "no-outgoing") known' →
    plan.base = plan'.base
  /-- With `--title`, nothing of all this matters. -/
  title : options.title.isSome →
    known.AgreeBut (Source.setting "output" ++ Source.setting "repository" ++ Source.origin ++
      Source.setting "username" ++ Source.committer ++ Source.setting "no-outgoing" ++
      Source.branch) known' →
    plan.title = plan'.title
  /-- Without `--title`, a webrev is called after its issue, the repository or the directory. -/
  titled : options.title = none → Titled defaults.cwd plan.issue plan.repository plan.title

/-- Plans that are made of the answers agree where they must. -/
theorem precedence_of_plan {known known' : Answers} {options : Options} {baseRef : String}
    {defaults : Defaults} {plan plan' : Plan}
    (hplan : known.plan options baseRef defaults = .ok plan)
    (hplan' : known'.plan options baseRef defaults = .ok plan') :
    Precedence options defaults known known' plan plan' := by
  obtain ⟨hbase, heq⟩ := Answers.eq_planAt_of_plan hplan
  obtain ⟨hbase', heq'⟩ := Answers.eq_planAt_of_plan hplan'
  constructor
  case output =>
    intro hflag _
    obtain ⟨value, hvalue⟩ := Option.isSome_iff_exists.mp hflag
    rw [heq, heq', Answers.planAt, Answers.planAt, Answers.setting_of_flag hvalue,
      Answers.setting_of_flag hvalue]
  case repository_of_flag =>
    intro hflag _
    obtain ⟨value, hvalue⟩ := Option.isSome_iff_exists.mp hflag
    rw [heq, heq', Answers.planAt, Answers.planAt,
      Answers.repository_of_setting (Answers.setting_of_flag hvalue _),
      Answers.repository_of_setting (Answers.setting_of_flag hvalue _)]
  case repository_of_setting =>
    rintro ⟨value, hvalue⟩ hagree
    have hsame : known (.config (Setting.key "repository")) =
        known' (.config (Setting.key "repository")) := hagree _ (by decide +kernel)
    rw [heq, heq', Answers.planAt, Answers.planAt,
      Answers.repository_of_setting (Answers.setting_of_one hvalue _),
      Answers.repository_of_setting (Answers.setting_of_one (hsame.symm.trans hvalue) _)]
  case username_of_flag =>
    intro hflag _
    obtain ⟨value, hvalue⟩ := Option.isSome_iff_exists.mp hflag
    rw [heq, heq', Answers.planAt, Answers.planAt,
      Answers.username_of_setting (Answers.setting_of_flag hvalue _),
      Answers.username_of_setting (Answers.setting_of_flag hvalue _)]
  case username_of_setting =>
    rintro ⟨value, hvalue⟩ hagree
    have hsame : known (.config (Setting.key "username")) =
        known' (.config (Setting.key "username")) := hagree _ (by decide +kernel)
    rw [heq, heq', Answers.planAt, Answers.planAt,
      Answers.username_of_setting (Answers.setting_of_one hvalue _),
      Answers.username_of_setting (Answers.setting_of_one (hsame.symm.trans hvalue) _)]
  case base =>
    intro hflag hagree
    obtain ⟨rev, hrev⟩ := Option.isSome_iff_exists.mp hflag
    rw [Answers.base_of_rev hrev, Answers.commitOf,
      hagree (.resolve rev) (by simp [Source.setting])] at hbase
    rw [Answers.base_of_rev hrev, Answers.commitOf] at hbase'
    exact Except.ok.inj (hbase.symm.trans hbase')
  case title =>
    intro hflag _
    obtain ⟨title, htitle⟩ := Option.isSome_iff_exists.mp hflag
    rw [heq, heq', Answers.planAt, Answers.planAt, htitle]
    rfl
  case titled =>
    intro hflag
    rw [heq, Answers.planAt, hflag]
    exact titled_titleOf _ _ _

variable {ω ω' : Type} {queries : Queries ω} {queries' : Queries ω'} {world : ω} {world' : ω'}
  {known known' : Answers}

/-- **What comes later is not looked at.** The plans of two repositories agree where the options, or
the configuration of both, decide; and a setting with many values makes the plan that it makes with
none. -/
theorem make_precedence (h : queries.Knows world known) (h' : queries'.Knows world' known')
    (options : Options) (baseRef : String) (defaults : Defaults) :
    (∀ plan plan', ((make queries options baseRef defaults).runAt world).1 = .ok plan →
      ((make queries' options baseRef defaults).runAt world').1 = .ok plan' →
      Precedence options defaults known known' plan plan') ∧
    ∀ name ∈ Answers.settings, known.AgreeBut (Source.setting name) known' →
      known (.config (Setting.key name)) = ([] : List String) →
      2 ≤ List.length (known' (.config (Setting.key name))) →
      ((make queries options baseRef defaults).runAt world).1 =
        ((make queries' options baseRef defaults).runAt world').1 := by
  rw [fst_make_of_knows options baseRef defaults h, fst_make_of_knows options baseRef defaults h']
  exact ⟨fun plan plan' hplan hplan' => precedence_of_plan hplan hplan',
    fun name _ hagree hnone hmany => Answers.plan_congr_of_many hagree hnone hmany⟩

/-! ### Repositories with a configuration -/

/-- The options that send a webrev to `out`. -/
def outOptions : Options := ⟨none, some "out", none, none, none, none, true⟩

/-- The plan of a webrev that goes to `out`. -/
def planInto (config : List (String × List String)) : Except Error Plan :=
  planFor (.simple none config) outOptions

theorem agreeBut_simple (name : String) (values : List String) :
    Answers.AgreeBut (Source.setting name) (Memory.simple none []).answer
      (Memory.simple none [(Setting.key name, values)]).answer := by
  intro question hquestion
  cases question with
  | config key =>
    have hkey : (key == Setting.key name) = false := by
      simpa [Source.setting] using hquestion
    rw [Memory.answer, Memory.answer, Memory.simple, Memory.simple, List.lookup_cons, hkey]
  | resolve | branches | currentBranch | isClean | pullPath | username => rfl

/-- The output that is asked for is not changed by the configuration, and two user names in the
configuration are none. -/
theorem planInto_eq_of_configured :
    (∃ plan plan', planInto [] = .ok plan ∧
      planInto [(Setting.key "output", ["elsewhere"])] = .ok plan' ∧ plan.output = plan'.output ∧
      Titled "/w" plan.issue plan.repository plan.title) ∧
    planInto [] = planInto [(Setting.key "username", ["a", "b"])] := by
  have hknows := Memory.knows_simple none
  constructor
  · obtain ⟨plan, hplan⟩ : ∃ plan, planInto [] = .ok plan :=
      exists_planFor_simple none _ rfl rfl
    obtain ⟨plan', hplan'⟩ : ∃ plan, planInto [(Setting.key "output", ["elsewhere"])] = .ok plan :=
      exists_planFor_simple none _ rfl rfl
    have h := (make_precedence (hknows []) (hknows _) outOptions "upstream" ⟨"/w", none⟩).1
      plan plan' hplan hplan'
    exact ⟨plan, plan', hplan, hplan', h.output rfl (agreeBut_simple "output" ["elsewhere"]),
      h.titled rfl⟩
  · exact (make_precedence (hknows []) (hknows _) outOptions "upstream" ⟨"/w", none⟩).2 "username"
      (by decide) (agreeBut_simple "username" ["a", "b"]) rfl (by decide +kernel)

end Plan

end Webrev
