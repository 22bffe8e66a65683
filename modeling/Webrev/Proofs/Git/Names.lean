import Webrev.Proofs.Git.ForeignWords
import Webrev.Proofs.Text.Margins
import Webrev.Proofs.Text.Utf8
import Mathlib.Data.String.Basic

/-!
# Names that `git` prints

`git` prints a name on a line of its own, and a list of names one after the other. What it prints is
read without the blanks at its two ends. So the line feed at its end goes; but a name may begin or
end in a blank itself, beyond ASCII, and so may a path. A name at the front or at the end of what is
printed is then cut, and one in between is not.

## Main definitions

* `Git.IsRefName` : the texts that may name a branch.
* `Git.Prints` : a run of `git` that ended well and wrote a text.

## Main results

* `Git.branches_printed_iff`, `Git.currentBranch_printed_iff`, `Git.discover_printed_iff` : when the
  names of branches, the branch that is checked out and the root are what was printed.
* `Git.names_kept_iff` : the three together.
-/

namespace Webrev.Git

open Text (StartsBare EndsBare printed trim)

/-- A text that may name a branch: it has a character, and no space and no control of ASCII. -/
def IsRefName (name : String) : Prop :=
  name ≠ "" ∧ ∀ c ∈ name.toList, 0x20 < c.toNat ∧ c.toNat ≠ 0x7F

instance : DecidablePred IsRefName := fun name =>
  decidable_of_iff (name ≠ "" ∧ name.toList.all fun c => 0x20 < c.toNat && c.toNat != 0x7F)
    (by simp [IsRefName])

theorem IsRefName.notMem {name : String} (h : IsRefName name) {c : Char} (hc : c.toNat ≤ 0x20) :
    c ∉ name.toList :=
  fun hmem => Nat.not_lt.mpr hc (h.2 c hmem).1

/-- A run of `git` that ended well and wrote a text. -/
def Prints (directory : Option String) (args : List String) (text : List Char)
    (machine left : Machine) : Prop :=
  ∃ err, machine.run ⟨"git", args, directory, []⟩ = (.ok ⟨.exited 0, Utf8.encode text, err⟩, left)

theorem isSuccess_exited : (Machine.ExitStatus.exited 0).isSuccess = true := rfl

theorem trimmedText_encode (text : List Char) :
    trimmedText (Utf8.encode text) = .ok (String.ofList (trim text)) := by
  rw [trimmedText, textOf, Utf8.decode_encode]
  rfl

namespace Prints

variable {root directory : String} {text : List Char} {machine left : Machine}

theorem exists_runAt_run {directory : Option String} {args : List String}
    (h : Prints directory args text machine left) :
    ∃ err, (run directory args []).runAt machine =
      (.ok ⟨.exited 0, Utf8.encode text, err⟩, left) := by
  obtain ⟨err, herr⟩ := h
  refine ⟨err, ?_⟩
  change ((machine.run ⟨"git", args, directory, []⟩).1.mapError RepositoryError.notRun,
    (machine.run ⟨"git", args, directory, []⟩).2) = _
  rw [herr]
  rfl

/-- What is printed is read without the blanks at its ends. -/
theorem runAt_checked {args : List String} (h : Prints (some root) args text machine left) :
    (checked root args).runAt machine = (.ok (String.ofList (trim text)), left) := by
  obtain ⟨err, herr⟩ := h.exists_runAt_run
  rw [checked, Attempt.runAt_bind_of_ok herr, if_pos isSuccess_exited, Attempt.runAt_ofExcept,
    trimmedText_encode]

/-- The branches are the lines of what is printed. -/
theorem runAt_branches
    (h : Prints (some root) ["for-each-ref", "--format=%(refname:short)", "refs/heads/"] text
      machine left) :
    (branches root).runAt machine =
      (.ok (((Text.lines (trim text)).filter (· ≠ [])).map fun line => ⟨String.ofList line⟩),
        left) := by
  rw [branches, Attempt.runAt_bind_of_ok h.runAt_checked, String.toList_ofList, Attempt.runAt_pure]

/-- The branch that is checked out is what is printed, if that is something. -/
theorem runAt_currentBranch
    (h : Prints (some root) ["symbolic-ref", "--quiet", "--short", "HEAD"] text machine left) :
    (currentBranch root).runAt machine =
      (.ok (if trim text = [] then none else some ⟨String.ofList (trim text)⟩), left) := by
  obtain ⟨err, herr⟩ := h.exists_runAt_run
  have hread : (Attempt.ofExcept (trimmedText (Utf8.encode text)) :
      Attempt Machine RepositoryError String).runAt left =
        (.ok (String.ofList (trim text)), left) := by
    rw [Attempt.runAt_ofExcept, trimmedText_encode]
  rw [currentBranch, Attempt.runAt_bind_of_ok herr, if_pos isSuccess_exited,
    Attempt.runAt_bind_of_ok hread, Attempt.runAt_pure]
  simp only [String.isEmpty_iff, String.ofList_eq_empty_iff]

/-- The root of a working copy is what is printed. -/
theorem runAt_discover
    (h : Prints none ["-C", directory, "rev-parse", "--show-toplevel"] text machine left) :
    (discover directory).runAt machine = (.ok (String.ofList (trim text)), left) := by
  obtain ⟨err, herr⟩ := h.exists_runAt_run
  rw [discover, Attempt.runAt_bind_of_ok herr, if_pos isSuccess_exited, Attempt.runAt_ofExcept,
    trimmedText_encode]

end Prints

/-! ### What is kept of the names -/

theorem trim_printed_eq_iff {name : List Char} :
    trim (printed [name]) = name ↔ StartsBare name ∧ EndsBare name := by
  rw [show printed [name] = name ++ ['\n'] by simp [printed],
    Text.trim_append_lineFeed, Text.trim_eq_self_iff]

theorem map_branch_eq_iff {lines : List (List Char)} {names : List String} :
    (lines.map fun line => (⟨String.ofList line⟩ : Branch)) = names.map Branch.mk ↔
      lines = names.map String.toList := by
  constructor
  · intro heq
    simpa [Function.comp_def] using congrArg (List.map fun branch => branch.name.toList) heq
  · rintro rfl
    simp [Function.comp_def]

/-- The names that `git` printed are the branches exactly if the first one begins with no blank and
the last one ends in none. -/
theorem branches_printed_iff {root : String} {names : List String} {machine left : Machine}
    (hnames : ∀ name ∈ names, IsRefName name)
    (h : Prints (some root) ["for-each-ref", "--format=%(refname:short)", "refs/heads/"]
      (printed (names.map String.toList)) machine left) :
    (branches root).runAt machine = (.ok (names.map Branch.mk), left) ↔
      (∀ name ∈ names.head?, StartsBare name.toList) ∧
        ∀ name ∈ names.getLast?, EndsBare name.toList := by
  have hne : ∀ name ∈ names.map String.toList, name ≠ [] :=
    List.forall_mem_map.mpr fun name hname => mt String.toList_eq_nil_iff.mp (hnames name hname).1
  have hbare {c : Char} (hc : c.toNat ≤ 0x20) : ∀ name ∈ names.map String.toList, c ∉ name :=
    List.forall_mem_map.mpr fun name hname => (hnames name hname).notMem hc
  have hlines := Text.filter_lines_trim_printed_iff hne (hbare (c := '\n') (by decide))
    (hbare (c := '\r') (by decide))
  rw [h.runAt_branches, Prod.mk.injEq, and_iff_left rfl, Except.ok.injEq, map_branch_eq_iff,
    hlines, List.head?_map, List.getLast?_map]
  simp

/-- The name that `git` printed is the branch exactly if it neither begins nor ends in a blank. -/
theorem currentBranch_printed_iff {root name : String} {machine left : Machine}
    (hname : IsRefName name)
    (h : Prints (some root) ["symbolic-ref", "--quiet", "--short", "HEAD"] (printed [name.toList])
      machine left) :
    (currentBranch root).runAt machine = (.ok (some ⟨name⟩), left) ↔
      StartsBare name.toList ∧ EndsBare name.toList := by
  have hne : name.toList ≠ [] := mt String.toList_eq_nil_iff.mp hname.1
  rw [h.runAt_currentBranch, ← trim_printed_eq_iff]
  split_ifs with hnone
  · simp [hnone, hne.symm]
  · simp [String.ofList_eq]

/-- The path that `git` printed is the root exactly if it neither begins nor ends in a blank. -/
theorem discover_printed_iff {directory path : String} {machine left : Machine}
    (h : Prints none ["-C", directory, "rev-parse", "--show-toplevel"] (printed [path.toList])
      machine left) :
    (discover directory).runAt machine = (.ok path, left) ↔
      StartsBare path.toList ∧ EndsBare path.toList := by
  rw [h.runAt_discover, ← trim_printed_eq_iff]
  simp [String.ofList_eq]

/-- A run in the working copy of a machine prints what the next reply says. -/
theorem prints_work (args : List String) (text : String)
    (hnul : Machine.Command.hasNul ⟨"git", args, some "/work", []⟩ = false) :
    ∃ left, Prints (some "/work") args text.toList (machineWith [printing text]) left :=
  ⟨_, [], run_of_locateCommand_ok (locateCommand_machineWith _ hnul)⟩

/-- And so does the run that looks for the working copy. -/
theorem prints_discover (text : String) :
    ∃ left, Prints none ["-C", "/work", "rev-parse", "--show-toplevel"] text.toList
      (machineWith [printing text]) left :=
  ⟨_, [], run_of_locateCommand_ok (locateCommand_ok_iff.mpr ⟨by decide +kernel, [], ["bin", "git"],
    rfl, findProgram_machineWith _ [], rfl⟩)⟩

/-- Names of branches, and the path of a working copy, are read as `git` printed them, but for those
that the printed text begins or ends with: these must not begin, or end, in a blank. -/
theorem names_kept_iff (root directory : String) (machine left : Machine) :
    (∀ names : List String, (∀ name ∈ names, IsRefName name) →
      Prints (some root) ["for-each-ref", "--format=%(refname:short)", "refs/heads/"]
        (printed (names.map String.toList)) machine left →
      ((branches root).runAt machine = (.ok (names.map Branch.mk), left) ↔
        (∀ name ∈ names.head?, StartsBare name.toList) ∧
          ∀ name ∈ names.getLast?, EndsBare name.toList)) ∧
    (∀ name : String, IsRefName name →
      Prints (some root) ["symbolic-ref", "--quiet", "--short", "HEAD"] (printed [name.toList])
        machine left →
      ((currentBranch root).runAt machine = (.ok (some ⟨name⟩), left) ↔
        StartsBare name.toList ∧ EndsBare name.toList)) ∧
    ∀ path : String,
      Prints none ["-C", directory, "rev-parse", "--show-toplevel"] (printed [path.toList])
        machine left →
      ((discover directory).runAt machine = (.ok path, left) ↔
        StartsBare path.toList ∧ EndsBare path.toList) :=
  ⟨fun _ hnames h => branches_printed_iff hnames h,
    fun _ hname h => currentBranch_printed_iff hname h, fun _ h => discover_printed_iff h⟩

/-- A blank of another script may end a name in the middle, and a space may stand inside a path. -/
theorem names_kept_of_bare :
    (∃ machine left, (branches "/work").runAt machine =
      (.ok [⟨"main"⟩, ⟨"wide\u3000"⟩, ⟨"fix/7"⟩], left)) ∧
    (∃ machine left, (currentBranch "/work").runAt machine = (.ok (some ⟨"fix/7"⟩), left)) ∧
    ∃ machine left, (discover "/work").runAt machine = (.ok "/home/a b", left) := by
  refine ⟨?_, ?_, ?_⟩
  · obtain ⟨left, h⟩ := prints_work
      ["for-each-ref", "--format=%(refname:short)", "refs/heads/"]
      "main\nwide\u3000\nfix/7\n" (by decide +kernel)
    exact ⟨_, left, ((names_kept_iff "/work" "" _ left).1 ["main", "wide\u3000", "fix/7"]
      (by decide +kernel) h).mpr (by decide +kernel)⟩
  · obtain ⟨left, h⟩ := prints_work ["symbolic-ref", "--quiet", "--short", "HEAD"]
      "fix/7\n" (by decide +kernel)
    exact ⟨_, left, ((names_kept_iff "/work" "" _ left).2.1 "fix/7" (by decide +kernel) h).mpr
      (by decide +kernel)⟩
  · obtain ⟨left, h⟩ := prints_discover "/home/a b\n"
    exact ⟨_, left, ((names_kept_iff "" "/work" _ left).2.2 "/home/a b" h).mpr (by decide +kernel)⟩

/-- The name of a branch may end in the wide blank, and a path in a space. Printed last, they are
cut. -/
theorem exists_name_cut :
    IsRefName "release\u3000" ∧
    (∃ machine left, Prints (some "/work") ["for-each-ref", "--format=%(refname:short)",
        "refs/heads/"] (printed ["main".toList, "release\u3000".toList]) machine left ∧
      (branches "/work").runAt machine = (.ok [⟨"main"⟩, ⟨"release"⟩], left)) ∧
    (∃ machine left, Prints (some "/work") ["symbolic-ref", "--quiet", "--short", "HEAD"]
        (printed ["release\u3000".toList]) machine left ∧
      (currentBranch "/work").runAt machine = (.ok (some ⟨"release"⟩), left)) ∧
    ∃ machine left, Prints none ["-C", "/work", "rev-parse", "--show-toplevel"]
        (printed ["/work ".toList]) machine left ∧
      (discover "/work").runAt machine = (.ok "/work", left) := by
  refine ⟨by decide +kernel, ?_, ?_, ?_⟩
  · obtain ⟨left, h⟩ := prints_work
      ["for-each-ref", "--format=%(refname:short)", "refs/heads/"]
      "main\nrelease\u3000\n" (by decide +kernel)
    exact ⟨_, left, h, h.runAt_branches⟩
  · obtain ⟨left, h⟩ := prints_work ["symbolic-ref", "--quiet", "--short", "HEAD"]
      "release\u3000\n" (by decide +kernel)
    exact ⟨_, left, h, h.runAt_currentBranch⟩
  · obtain ⟨left, h⟩ := prints_discover "/work \n"
    exact ⟨_, left, h, h.runAt_discover⟩

end Webrev.Git
