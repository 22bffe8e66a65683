import Webrev.Proofs.Generation.IssueName
import Webrev.Proofs.Generation.Known
import Webrev.Proofs.Generation.Title
import Webrev.Proofs.Url.PlainPath

/-!
# Plans of branches that are named after issues

The page of an issue is a URL whose last segment is the name of the issue, so a webrev is called
after the issue that it belongs to. The issue that a branch is named after is the one that the
command line would name, and makes the same plan.

## Main definitions

* `Plan.BelongsTo` : a plan that belongs to an issue and is called after it.

## Main results

* `Issue.endsInSegment_page` : the page of an issue ends in its name.
* `Plan.make_issue` : the plans of branches that are named after issues, and of issues that the
  command line names.
-/

namespace Webrev

/-! ### The page of an issue -/

namespace Issue

variable {project digits : List Char}

theorem isPlain_of_mem_projects : ∀ project ∈ projects, ∀ c ∈ project, Url.isPlain c = true :=
  forall_mem_projects.mpr ⟨List.all_eq_true.mp (by decide), List.all_eq_true.mp (by decide),
    List.all_eq_true.mp (by decide)⟩

theorem isPlain_of_isNumber (h : IsNumber digits) : ∀ c ∈ digits, Url.isPlain c = true := by
  intro c hc
  simp [Url.isPlain, Char.isAlphanum, h.2 c hc]

theorem isPlain_name (hproject : project ∈ projects) (hnumber : IsNumber digits) :
    ∀ c ∈ project ++ '-' :: digits, Url.isPlain c = true :=
  List.forall_mem_append.mpr ⟨isPlain_of_mem_projects project hproject,
    List.forall_mem_cons.mpr ⟨by decide, isPlain_of_isNumber hnumber⟩⟩

/-- The page of an issue as a URL. -/
theorem parse_page (hproject : project ∈ projects) (hnumber : IsNumber digits) :
    Url.parse (page project digits) =
      .ok ⟨"https", some ⟨"", "", .domain "bugs.openjdk.java.net", none⟩,
        String.ofList ('/' :: ("browse".toList ++ '/' :: (project ++ '-' :: digits))), none,
        none⟩ := by
  have hbrowse : ∀ c ∈ "browse".toList, Url.isPlain c = true := List.all_eq_true.mp (by decide)
  have hpath : ∀ c ∈ "browse".toList ++ '/' :: (project ++ '-' :: digits),
      Url.isPlain c = true ∨ c = '/' :=
    List.forall_mem_append.mpr ⟨fun c hc => .inl (hbrowse c hc), List.forall_mem_cons.mpr
      ⟨.inr rfl, fun c hc => .inl (isPlain_name hproject hnumber c hc)⟩⟩
  have hhost : Url.readHost "bugs.openjdk.java.net".toList =
      .ok (.domain "bugs.openjdk.java.net") := by decide +kernel
  have htracker : tracker.toList = "https://".toList ++
      ("bugs.openjdk.java.net".toList ++ '/' :: ("browse".toList ++ ['/'])) := by decide +kernel
  have hpage : page project digits = String.ofList ("https://".toList ++
      ("bugs.openjdk.java.net".toList ++ '/' ::
        ("browse".toList ++ '/' :: (project ++ '-' :: digits)))) := by
    rw [page_eq, ← String.toList_inj, String.toList_append, htracker]
    simp
  rw [hpage]
  exact Url.parse_https (List.all_eq_true.mp (by decide)) hhost (by decide) hpath

/-- The page of an issue ends in its name. -/
theorem endsInSegment_page (hproject : project ∈ projects) (hnumber : IsNumber digits) :
    Plan.EndsInSegment (page project digits) (String.ofList (project ++ '-' :: digits)) := by
  have hslash : '/' ∉ project ++ '-' :: digits := fun hmem =>
    Url.ne_of_holds (isPlain_name hproject hnumber '/' hmem) (by decide) rfl
  have hname : (String.ofList (project ++ '-' :: digits)).toList = project ++ '-' :: digits :=
    String.toList_ofList
  refine ⟨by simp, _, ["browse".toList], [], parse_page hproject hnumber, ?_,
    List.forall_mem_nil _⟩
  rw [Url.pathSegments_plain rfl (by decide) hslash, hname]
  rfl

end Issue

/-! ### Plans -/

namespace Plan

/-- A plan belongs to an issue, and is called after it unless a title is asked for. -/
def BelongsTo (options : Options) (plan : Plan) (project digits : List Char) : Prop :=
  plan.issue =
      some ("https://bugs.openjdk.java.net/browse/" ++ String.ofList (project ++ '-' :: digits)) ∧
    (options.title = none → plan.title = String.ofList (project ++ '-' :: digits))

section Answers

variable {known : Answers} {options : Options} {baseRef : String} {defaults : Defaults}
  {plan : Plan} {project digits : List Char}

theorem belongsTo_of_issue (hproject : project ∈ Issue.projects) (hnumber : Issue.IsNumber digits)
    (hissue : known.issue options = some (Issue.page project digits))
    (hplan : known.plan options baseRef defaults = .ok plan) :
    BelongsTo options plan project digits := by
  obtain ⟨-, heq⟩ := Answers.eq_planAt_of_plan hplan
  have hsegment := lastSegment?_eq_some_iff.mpr (Issue.endsInSegment_page hproject hnumber)
  rw [heq, Answers.planAt, hissue]
  refine ⟨congrArg some (Issue.page_eq project digits), fun htitle => ?_⟩
  simp only [titleOf, htitle, Option.bind_some, hsegment, Option.none_or, Option.some_or,
    Option.getD_some]

theorem issue_of_flag {flag : String} (hcr : options.cr = some flag) :
    known.issue options = some (Issue.ofFlag flag) := by
  rw [Answers.issue, hcr]
  rfl

theorem issue_of_branch {branch : Branch} (hcr : options.cr = none)
    (hbranch : known .currentBranch = some branch) :
    known.issue options = Issue.ofBranch? branch.name := by
  rw [Answers.issue, hcr, hbranch]
  rfl

/-- Options that name the issue make the plan that it is found for. -/
theorem plan_congr_of_issue {flag : String}
    (hissue : known.issue options = some (Issue.ofFlag flag)) :
    known.plan { options with cr := some flag } baseRef defaults =
      known.plan options baseRef defaults := by
  have hsame : known.issue { options with cr := some flag } = known.issue options :=
    (issue_of_flag rfl).trans hissue.symm
  rw [Answers.plan, Answers.plan]
  refine congrArg (Except.map · (known.base options baseRef)) (funext fun base => ?_)
  rw [Answers.planAt, hsame]
  rfl

end Answers

variable {ω : Type} {queries : Queries ω} {world : ω} {known : Answers}

/-- **A branch that is named after an issue has the plan of that issue.** Without `--cr`, a plan
belongs to an issue exactly if the branch is named after one, and it is the plan that is made when
the command line names that issue. -/
theorem make_issue (h : queries.Knows world known) (options : Options) (baseRef : String)
    (defaults : Defaults) :
    (options.cr = none → ∀ branch : Branch, known .currentBranch = some branch → ∀ plan,
      ((make queries options baseRef defaults).runAt world).1 = .ok plan →
      (plan.issue.isSome ↔ '\n' ∉ Text.upper branch.name.toList ∧
        ∃ project front digits rest, Text.upper branch.name.toList = front ++ (digits ++ rest) ∧
          Issue.Leads project front ∧ Issue.IsNumber digits) ∧
      ∀ project digits, Issue.Names (Text.upper branch.name.toList) project digits →
        BelongsTo options plan project digits ∧
        ∀ flag, Issue.IsFlag project digits flag →
          ((make queries { options with cr := some flag } baseRef defaults).runAt world).1 =
            .ok plan) ∧
    ∀ project digits flag, Issue.IsNumber digits → Issue.IsFlag project digits flag →
      options.cr = some flag → ∀ plan,
      ((make queries options baseRef defaults).runAt world).1 = .ok plan →
        BelongsTo options plan project digits := by
  simp only [fst_make_of_knows _ _ _ h]
  constructor
  · intro hcr branch hbranch plan hplan
    have hissue := issue_of_branch hcr hbranch
    constructor
    · obtain ⟨-, heq⟩ := Answers.eq_planAt_of_plan hplan
      rw [heq, Answers.planAt, hissue, Issue.ofBranch?, Option.isSome_map]
      exact Issue.isSome_ofName?_iff
    · intro project digits hnames
      have hread : known.issue options = some (Issue.page project digits) := by
        rw [hissue, Issue.ofBranch?, Issue.ofName?_eq_some_iff.mpr hnames]
        rfl
      obtain ⟨front, rest, -, hleads, -⟩ := hnames.split
      refine ⟨belongsTo_of_issue hleads.mem_projects hnames.isNumber hread hplan,
        fun flag hflag => ?_⟩
      rw [← Issue.ofFlag_of_isFlag hnames.isNumber hflag] at hread
      rw [plan_congr_of_issue hread, hplan]
  · intro project digits flag hnumber hflag hcr plan hplan
    have hread : known.issue options = some (Issue.page project digits) := by
      rw [issue_of_flag hcr, Issue.ofFlag_of_isFlag hnumber hflag]
    obtain ⟨front, -, hleads⟩ := hflag
    exact belongsTo_of_issue hleads.mem_projects hnumber hread hplan

/-! ### A branch of an issue -/

/-- The options that name an issue or none. -/
def issueOptions (cr : Option String) : Options := ⟨none, none, none, none, none, cr, true⟩

/-- The plan on a branch. -/
def planOn (name : String) (cr : Option String) : Except Error Plan :=
  planFor (.simple (some ⟨name⟩) []) (issueOptions cr)

/-- The branch `jmc-7000-fix` belongs to the issue that is named `JMC-7000`. -/
theorem planOn_jmc : ∃ plan, planOn "jmc-7000-fix" none = .ok plan ∧ plan.issue.isSome ∧
    BelongsTo (issueOptions none) plan "JMC".toList "7000".toList ∧
    planOn "jmc-7000-fix" (some "JMC-7000") = .ok plan ∧
    BelongsTo (issueOptions (some "JMC-7000")) plan "JMC".toList "7000".toList := by
  have hknows := Memory.knows_simple (some ⟨"jmc-7000-fix"⟩) []
  obtain ⟨plan, hplan⟩ : ∃ plan, planOn "jmc-7000-fix" none = .ok plan :=
    exists_planFor_simple _ _ rfl rfl
  have hupper : Text.upper "jmc-7000-fix".toList =
      "JMC-".toList ++ ("7000".toList ++ "-FIX".toList) := by decide +kernel
  have hleads : Issue.Leads "JMC".toList "JMC-".toList := .inl ⟨by decide, by decide⟩
  have hnumber : Issue.IsNumber "7000".toList := ⟨by decide, List.all_eq_true.mp (by decide)⟩
  have hnames : Issue.Names (Text.upper "jmc-7000-fix".toList) "JMC".toList "7000".toList :=
    ⟨by rw [hupper]; decide, hnumber, _, _, hupper, hleads, by simp⟩
  have hflag : Issue.IsFlag "JMC".toList "7000".toList "JMC-7000" :=
    ⟨_, by decide +kernel, hleads⟩
  obtain ⟨hsome, hbelongs⟩ := (make_issue hknows (issueOptions none) "upstream" ⟨"/w", none⟩).1 rfl
    ⟨"jmc-7000-fix"⟩ rfl plan hplan
  obtain ⟨hplanned, hsame⟩ := hbelongs _ _ hnames
  have hflagged : planOn "jmc-7000-fix" (some "JMC-7000") = .ok plan := hsame _ hflag
  refine ⟨plan, hplan, hsome.mpr ?_, hplanned, hflagged, ?_⟩
  · exact ⟨hnames.oneLine, _, _, _, _, hupper, hleads, hnumber⟩
  · exact (make_issue hknows (issueOptions (some "JMC-7000")) "upstream" ⟨"/w", none⟩).2 _ _ _
      hnumber hflag rfl plan hflagged

end Plan

end Webrev
