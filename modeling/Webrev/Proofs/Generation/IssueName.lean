import Webrev.Generation.Issue
import Webrev.Proofs.Text.Numeral
import Mathlib.Data.List.TakeWhile
import Mathlib.Data.String.Basic

/-!
# The names of issues

An issue is named by its project and its number, with a hyphen between them, or by its number alone
when it is one of the first project. A branch is named after an issue when its name in upper case
is one line that begins so. The command line names an issue by just such a name.

## Main definitions

* `Issue.IsNumber` : the numbers of issues.
* `Issue.Leads` : what stands before the number of an issue of a project.
* `Issue.Names` : a line that begins with the name of an issue.
* `Issue.IsFlag` : the texts by which the command line names an issue.

## Main results

* `Issue.ofName?_eq_some_iff` : the issue that is read in a line.
* `Issue.isSome_ofName?_iff` : the lines in which one is read.
* `Issue.ofFlag_of_isFlag` : the page of the issue that the command line names.
-/

namespace Webrev.Issue

/-- The number of an issue: ASCII digits. -/
def IsNumber (digits : List Char) : Prop := digits ≠ [] ∧ ∀ c ∈ digits, c.isDigit = true

/-- What stands before the number of an issue of a project: nothing, if it is the first project. -/
def Leads (project front : List Char) : Prop :=
  project ∈ projects ∧ front = project ++ ['-'] ∨ project = "JDK".toList ∧ front = []

/-- A line that begins with the name of an issue, whose number ends where the digits end. -/
structure Names (name project digits : List Char) : Prop where
  oneLine : '\n' ∉ name
  isNumber : IsNumber digits
  split : ∃ front rest, name = front ++ (digits ++ rest) ∧ Leads project front ∧
    ∀ c ∈ rest.head?, c.isDigit = false

/-- A text by which the command line names an issue. -/
def IsFlag (project digits : List Char) (flag : String) : Prop :=
  ∃ front, flag = String.ofList (front ++ digits) ∧ Leads project front

variable {name project digits rest front : List Char}

theorem Leads.mem_projects (h : Leads project front) : project ∈ projects := by
  rcases h with ⟨hmem, -⟩ | ⟨rfl, -⟩
  · exact hmem
  · exact List.mem_cons_self

/-! ### Reading a name -/

theorem forall_mem_projects {p : List Char → Prop} :
    (∀ project ∈ projects, p project) ↔
      p "JDK".toList ∧ p "CODETOOLS".toList ∧ p "JMC".toList := by
  simp [projects]

theorem project?_eq_some_iff :
    project? name = some (project, rest) ↔ project ∈ projects ∧ name = project ++ '-' :: rest := by
  constructor
  · intro h
    obtain ⟨found, hmem, hfound⟩ := List.exists_of_findSome?_eq_some h
    obtain ⟨after, hafter, heq⟩ := Option.map_eq_some_iff.mp hfound
    obtain ⟨rfl, rfl⟩ := Prod.mk.inj heq
    exact ⟨hmem, by simpa using Scan.expect_eq_some_iff.mp hafter⟩
  · have hread : ∀ project ∈ projects,
        project? (project ++ '-' :: rest) = some (project, rest) :=
      forall_mem_projects.mpr ⟨rfl, rfl, rfl⟩
    rintro ⟨hmem, rfl⟩
    exact hread project hmem

/-- A text that begins with a digit begins with no project. -/
theorem project?_eq_none_of_isDigit {c : Char} (h : c.isDigit = true) (rest : List Char) :
    project? (c :: rest) = none := by
  rw [Option.eq_none_iff_forall_ne_some]
  rintro ⟨project, after⟩ hsome
  obtain ⟨hmem, heq⟩ := project?_eq_some_iff.mp hsome
  have hletter : ∀ project ∈ projects, c :: rest = project ++ '-' :: after → c.isDigit = false :=
    forall_mem_projects.mpr ⟨fun h => (List.cons.inj h).1 ▸ rfl, fun h => (List.cons.inj h).1 ▸ rfl,
      fun h => (List.cons.inj h).1 ▸ rfl⟩
  rw [hletter project hmem heq] at h
  cases h

/-- The digits at the front of a text are those up to what is no digit. -/
theorem number_append (hdigits : ∀ c ∈ digits, c.isDigit = true)
    (hrest : ∀ c ∈ rest.head?, c.isDigit = false) : number (digits ++ rest) = digits := by
  rw [number, List.takeWhile_append_of_pos fun c hc => Numeral.isDigit_ten_iff.mpr (hdigits c hc)]
  cases rest with
  | nil => simp
  | cons c rest =>
    have hc : ¬Numeral.isDigit 10 c = true := by
      rw [Numeral.isDigit_ten_iff, hrest c rfl]
      decide
    rw [List.takeWhile_cons_of_neg hc, List.append_nil]

theorem isDigit_of_mem_number {text : List Char} : ∀ c ∈ number text, c.isDigit = true :=
  fun _ hc => Numeral.isDigit_ten_iff.mp (List.mem_takeWhile_imp hc)

/-- A text is the digits at its front and what follows, which begins with no digit. -/
theorem exists_eq_number_append (text : List Char) :
    ∃ rest, text = number text ++ rest ∧ ∀ c ∈ rest.head?, c.isDigit = false := by
  refine ⟨text.dropWhile (Numeral.isDigit 10), List.takeWhile_append_dropWhile.symm, fun c hc => ?_⟩
  have hnot := List.head?_dropWhile_not (Numeral.isDigit 10) text
  rw [Option.mem_def.mp hc] at hnot
  exact Bool.eq_false_iff.mpr fun hdigit =>
    Bool.eq_false_iff.mp hnot (Numeral.isDigit_ten_iff.mpr hdigit)

theorem ofName?_eq_some_iff_number :
    ofName? name = some (project, digits) ↔
      '\n' ∉ name ∧ digits ≠ [] ∧ ∃ rest,
        (project? name).getD ("JDK".toList, name) = (project, rest) ∧ number rest = digits := by
  unfold ofName?
  split_ifs with hfeed
  · simp [List.contains_iff_mem.mp hfeed]
  · rw [List.contains_iff_mem] at hfeed
    obtain ⟨project', rest⟩ := (project? name).getD ("JDK".toList, name)
    dsimp only
    split_ifs with hempty
    · rw [List.isEmpty_iff] at hempty
      refine ⟨nofun, ?_⟩
      rintro ⟨-, hne, rest', heq, rfl⟩
      rw [← (Prod.mk.inj heq).2] at hne
      exact absurd hempty hne
    · rw [List.isEmpty_iff] at hempty
      constructor
      · intro h
        obtain ⟨rfl, rfl⟩ := Prod.mk.inj (Option.some.inj h)
        exact ⟨hfeed, hempty, rest, rfl, rfl⟩
      · rintro ⟨-, -, rest', heq, rfl⟩
        obtain ⟨rfl, rfl⟩ := Prod.mk.inj heq
        rfl

/-- The issue that is read in a line is the one that the line begins with the name of. -/
theorem ofName?_eq_some_iff :
    ofName? name = some (project, digits) ↔ Names name project digits := by
  rw [ofName?_eq_some_iff_number]
  constructor
  · rintro ⟨hfeed, hne, text, hread, rfl⟩
    obtain ⟨rest, htext, hrest⟩ := exists_eq_number_append text
    refine ⟨hfeed, ⟨hne, isDigit_of_mem_number⟩, ?_⟩
    cases hproject : project? name with
    | some found =>
      rw [hproject, Option.getD_some] at hread
      subst hread
      obtain ⟨hmem, hname⟩ := project?_eq_some_iff.mp hproject
      refine ⟨project ++ ['-'], rest, ?_, .inl ⟨hmem, rfl⟩, hrest⟩
      rw [← htext, hname, List.append_assoc, List.singleton_append]
    | none =>
      rw [hproject, Option.getD_none] at hread
      obtain ⟨rfl, rfl⟩ := Prod.mk.inj hread
      exact ⟨[], rest, htext, .inr ⟨rfl, rfl⟩, hrest⟩
  · rintro ⟨hfeed, ⟨hne, hdigits⟩, front, rest, rfl, ⟨hmem, rfl⟩ | ⟨rfl, rfl⟩, hrest⟩
    · have hproject : project? (project ++ ['-'] ++ (digits ++ rest)) =
          some (project, digits ++ rest) :=
        project?_eq_some_iff.mpr ⟨hmem, by simp⟩
      exact ⟨hfeed, hne, digits ++ rest, by rw [hproject, Option.getD_some],
        number_append hdigits hrest⟩
    · have hproject : project? ([] ++ (digits ++ rest)) = none := by
        obtain ⟨c, more, rfl⟩ := List.exists_cons_of_ne_nil hne
        exact project?_eq_none_of_isDigit (hdigits c List.mem_cons_self) _
      exact ⟨hfeed, hne, digits ++ rest, by rw [hproject, Option.getD_none]; rfl,
        number_append hdigits hrest⟩

/-- An issue is read in every line that begins with the name of one, wherever its number is taken to
end. -/
theorem isSome_ofName?_iff :
    (ofName? name).isSome ↔
      '\n' ∉ name ∧ ∃ project front digits rest,
        name = front ++ (digits ++ rest) ∧ Leads project front ∧ IsNumber digits := by
  constructor
  · intro h
    obtain ⟨⟨project, digits⟩, hread⟩ := Option.isSome_iff_exists.mp h
    obtain ⟨hfeed, hnumber, front, rest, hname, hleads, -⟩ := ofName?_eq_some_iff.mp hread
    exact ⟨hfeed, project, front, digits, rest, hname, hleads, hnumber⟩
  · rintro ⟨hfeed, project, front, digits, rest, rfl, hleads, hne, hdigits⟩
    -- The number goes on as long as there are digits.
    obtain ⟨rest', hrest', hends⟩ := exists_eq_number_append rest
    refine Option.isSome_iff_exists.mpr ⟨(project, digits ++ number rest), ofName?_eq_some_iff.mpr
      ⟨hfeed, ⟨List.append_ne_nil_of_left_ne_nil hne _, ?_⟩, front, rest', ?_, hleads, hends⟩⟩
    · exact List.forall_mem_append.mpr ⟨hdigits, isDigit_of_mem_number⟩
    · rw [List.append_assoc, ← hrest']

/-! ### Pages -/

theorem page_eq (project digits : List Char) :
    page project digits = tracker ++ String.ofList (project ++ '-' :: digits) := by
  rw [page, ← String.toList_inj]
  simp

/-- The command line names an issue by its project and its number, or by its number. -/
theorem ofFlag_of_isFlag {flag : String} (hnumber : IsNumber digits)
    (h : IsFlag project digits flag) : ofFlag flag = page project digits := by
  have hread {c : Char} (hc : c ≠ 'h') (more : List Char) :
      ofFlag (String.ofList (c :: more)) =
        if Numeral.isDigit 10 c then tracker ++ "JDK-" ++ String.ofList (c :: more)
        else tracker ++ String.ofList (c :: more) := by
    have hlist : (String.ofList (c :: more)).toList = c :: more := String.toList_ofList
    have hhttp : ¬"http".toList.isPrefixOf (c :: more) = true := by
      simp [List.isPrefixOf, hc.symm]
    rw [ofFlag, hlist, if_neg hhttp, List.head?_cons, Option.any_some]
  obtain ⟨front, rfl, ⟨hmem, rfl⟩ | ⟨rfl, rfl⟩⟩ := h
  · have hletter : ∀ project ∈ projects, ∃ c letters, project = c :: letters ∧ c ≠ 'h' ∧
        Numeral.isDigit 10 c = false :=
      forall_mem_projects.mpr ⟨⟨'J', _, rfl, by decide, by decide⟩,
        ⟨'C', _, rfl, by decide, by decide⟩, ⟨'J', _, rfl, by decide, by decide⟩⟩
    obtain ⟨c, letters, rfl, hh, hdigit⟩ := hletter project hmem
    rw [List.append_assoc, List.cons_append, hread hh, hdigit, page_eq]
    rfl
  · obtain ⟨c, more, rfl⟩ := List.exists_cons_of_ne_nil hnumber.1
    have hdigit : c.isDigit = true := hnumber.2 c List.mem_cons_self
    have hh : c ≠ 'h' := by
      rintro rfl
      cases hdigit
    rw [List.nil_append, hread hh, if_pos (Numeral.isDigit_ten_iff.mpr hdigit), page_eq,
      ← String.toList_inj]
    simp

end Webrev.Issue
