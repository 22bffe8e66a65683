import Webrev.Proofs.Git.ForeignWords
import Webrev.Proofs.Text.Lossy
import Webrev.Proofs.Text.Margins
import Webrev.Setting

/-!
# Settings that `git` prints

A setting that no flag gives is asked of `git`, which prints the values of its key one below the
other and ends with the status 0, or ends with the status 1 when the key has none. Unlike names, the
values are read without dropping blanks, so every value is kept character by character, an empty one
too. Any other status is a failure, and its description says something even if the run wrote
nothing.

## Main definitions

* `Git.valuesCommand` : the run that asks for the values of a key.
* `Git.IsValue` : the values that stand on a line of their own.

## Main results

* `Git.runAt_config_of_zero`, `Git.runAt_config_of_one`, `Git.runAt_config_of_failed` : the values
  of a key after each status.
* `Git.exists_failed_eq` : a failure is described.
* `Git.setting_read` : a setting after each flag and each reply.
-/

namespace Webrev.Git

open Text (lines printed trim)

/-- The run that asks for the values of a key. -/
def valuesCommand (root key : String) : Machine.Command :=
  ⟨"git", ["config", "--get-all", key], some root, []⟩

/-- A value that stands on a line of its own: it holds no line feed, and ends in no carriage
return. -/
def IsValue (value : String) : Prop :=
  '\n' ∉ value.toList ∧ value.toList.getLast? ≠ some '\r'

instance : DecidablePred IsValue := fun value =>
  inferInstanceAs (Decidable ('\n' ∉ value.toList ∧ value.toList.getLast? ≠ some '\r'))

/-! ### Failures -/

theorem text_ne_empty (status : Machine.ExitStatus) : status.text ≠ "" := by
  cases status with
  | exited code => simp [Machine.ExitStatus.text, ← String.toList_inj]
  | killed signal => simp [Machine.ExitStatus.text, ← String.toList_inj]

/-- A run that failed is described by something, whatever it wrote. -/
theorem exists_failed_eq (command : String) (args : List String) (reply : Machine.Reply) :
    ∃ detail, failed (command :: args) reply = .commandFailed command detail ∧ detail ≠ "" := by
  refine ⟨_, rfl, ?_⟩
  split_ifs with herr hout
  · simpa using herr
  · simpa using hout
  · exact text_ne_empty reply.status

/-! ### The values of a key -/

section Reply

variable {root key : String} {machine : Machine} {run : Machine.Run} {reply : Machine.Reply}

/-- What a run answers when `git` is found. -/
theorem runAt_run_of_located (hrun : machine.locateCommand (valuesCommand root key) = .ok run)
    (hreply : machine.replies.head?.getD Machine.silence = reply) :
    (Git.run (some root) ["config", "--get-all", key] []).runAt machine =
      (.ok reply, afterRun machine run) := by
  have hmade := run_of_locateCommand_ok hrun
  change ((machine.run (valuesCommand root key)).1.mapError RepositoryError.notRun,
    (machine.run (valuesCommand root key)).2) = _
  rw [hmade, hreply]
  rfl

/-- The status 0 says that the key has the values on the lines of what is printed. -/
theorem runAt_config_of_zero (hrun : machine.locateCommand (valuesCommand root key) = .ok run)
    (hreply : machine.replies.head?.getD Machine.silence = reply)
    (hstatus : reply.status = .exited 0) :
    (config root key).runAt machine =
      ((textOf reply.out).map fun text => (lines text).map String.ofList,
        afterRun machine run) := by
  rw [config, Attempt.runAt_bind_of_ok (runAt_run_of_located hrun hreply), if_pos hstatus]
  cases textOf reply.out with
  | error reason => exact Attempt.runAt_bind_of_error rfl
  | ok text => exact Attempt.runAt_bind_of_ok rfl

/-- The status 1 says that the key has no value. -/
theorem runAt_config_of_one (hrun : machine.locateCommand (valuesCommand root key) = .ok run)
    (hreply : machine.replies.head?.getD Machine.silence = reply)
    (hstatus : reply.status = .exited 1) :
    (config root key).runAt machine = (.ok [], afterRun machine run) := by
  rw [config, Attempt.runAt_bind_of_ok (runAt_run_of_located hrun hreply), hstatus,
    if_neg (by decide), if_pos rfl, Attempt.runAt_pure]

/-- Any other status is a failure. -/
theorem runAt_config_of_failed (hrun : machine.locateCommand (valuesCommand root key) = .ok run)
    (hreply : machine.replies.head?.getD Machine.silence = reply)
    (hzero : reply.status ≠ .exited 0) (hone : reply.status ≠ .exited 1) :
    (config root key).runAt machine =
      (.error (failed ["config", "--get-all", key] reply), afterRun machine run) := by
  rw [config, Attempt.runAt_bind_of_ok (runAt_run_of_located hrun hreply), if_neg hzero,
    if_neg hone, Attempt.runAt_throw]

end Reply

/-- Values that were printed are the values of the key. -/
theorem lines_printed_values {values : List String} (h : ∀ value ∈ values, IsValue value) :
    (lines (printed (values.map String.toList))).map String.ofList = values := by
  rw [Text.lines_printed (List.forall_mem_map.mpr fun value hvalue => (h value hvalue).1)
    (List.forall_mem_map.mpr fun value hvalue => (h value hvalue).2)]
  simp

/-! ### Settings -/

section Setting

variable {root name : String} {machine : Machine} {run : Machine.Run} {reply : Machine.Reply}

/-- A setting that no flag gives is what the values of its key say. -/
theorem runAt_setting (root name : String) (machine : Machine) :
    ((repository root).setting none name).runAt machine =
      (((config root (Setting.key name)).runAt machine).1.map Setting.theOnly,
        ((config root (Setting.key name)).runAt machine).2) := by
  rw [← Attempt.runAt_map, map_eq_pure_bind]
  rfl

/-- The values that were printed decide. -/
theorem runAt_setting_of_printed
    (hrun : machine.locateCommand (valuesCommand root (Setting.key name)) = .ok run)
    (hreply : machine.replies.head?.getD Machine.silence = reply)
    (hstatus : reply.status = .exited 0) {values : List String}
    (hvalues : ∀ value ∈ values, IsValue value)
    (hout : reply.out = Utf8.encode (printed (values.map String.toList))) :
    ((repository root).setting none name).runAt machine =
      (.ok (Setting.theOnly values), afterRun machine run) := by
  rw [runAt_setting, runAt_config_of_zero hrun hreply hstatus, textOf, hout, Utf8.decode_encode]
  simp only [Except.mapError, Except.map, lines_printed_values hvalues]

/-- Octets that are no text are a failure. -/
theorem exists_runAt_setting_of_malformed
    (hrun : machine.locateCommand (valuesCommand root (Setting.key name)) = .ok run)
    (hreply : machine.replies.head?.getD Machine.silence = reply)
    (hstatus : reply.status = .exited 0) (hout : ∀ text, reply.out ≠ Utf8.encode text) :
    ∃ reason, ((repository root).setting none name).runAt machine =
      (.error (.malformedOutput reason), afterRun machine run) := by
  cases hdecode : Utf8.decode reply.out with
  | ok text => exact absurd (Utf8.decode_eq_ok_iff.mp hdecode) (hout text)
  | error reason =>
    refine ⟨reason, ?_⟩
    rw [runAt_setting, runAt_config_of_zero hrun hreply hstatus, textOf, hdecode]
    rfl

end Setting

/-- **Settings are read exactly.** A flag is the setting, and nothing is run. Without one, `git` is
run once, for the values of the key, and its reply decides: a single value that it printed is the
setting as it stands, while none or several are no setting, and neither is the status 1. Another
status is a failure with a description, and octets that are no text are one too. -/
theorem setting_read (root name : String) (machine : Machine) :
    (∀ flag, ((repository root).setting (some flag) name).runAt machine =
      (.ok (some flag), machine)) ∧
    ∀ run reply, machine.locateCommand (valuesCommand root ("webrev." ++ name)) = .ok run →
      machine.replies.head?.getD Machine.silence = reply →
      (run.args = ["config", "--get-all", "webrev." ++ name] ∧
        (((repository root).setting none name).runAt machine).2 = afterRun machine run) ∧
      (reply.status = .exited 0 → ∀ values : List String, (∀ value ∈ values, IsValue value) →
        reply.out = Utf8.encode (printed (values.map String.toList)) →
        (∀ value, values = [value] →
          (((repository root).setting none name).runAt machine).1 = .ok (some value)) ∧
        (values.length ≠ 1 →
          (((repository root).setting none name).runAt machine).1 = .ok none)) ∧
      (reply.status = .exited 1 →
        (((repository root).setting none name).runAt machine).1 = .ok none) ∧
      (reply.status ≠ .exited 0 → reply.status ≠ .exited 1 → ∃ detail, detail ≠ "" ∧
        (((repository root).setting none name).runAt machine).1 =
          .error (.commandFailed "config" detail)) ∧
      (reply.status = .exited 0 → (∀ text, reply.out ≠ Utf8.encode text) → ∃ reason,
        (((repository root).setting none name).runAt machine).1 =
          .error (.malformedOutput reason)) := by
  refine ⟨fun flag => rfl, fun run reply hrun hreply => ?_⟩
  change machine.locateCommand (valuesCommand root (Setting.key name)) = .ok run at hrun
  refine ⟨⟨?_, ?_⟩, ?_, ?_, ?_, ?_⟩
  · obtain ⟨-, directory, place, -, -, rfl⟩ := locateCommand_ok_iff.mp hrun
    rfl
  · rw [runAt_setting]
    by_cases hzero : reply.status = .exited 0
    · exact congrArg Prod.snd (runAt_config_of_zero hrun hreply hzero)
    by_cases hone : reply.status = .exited 1
    · exact congrArg Prod.snd (runAt_config_of_one hrun hreply hone)
    · exact congrArg Prod.snd (runAt_config_of_failed hrun hreply hzero hone)
  · intro hzero values hvalues hout
    rw [runAt_setting_of_printed hrun hreply hzero hvalues hout]
    constructor
    · rintro value rfl
      rfl
    · intro hlength
      match values, hlength with
      | [], _ => rfl
      | [_], hone => exact absurd rfl hone
      | _ :: _ :: _, _ => rfl
  · intro hone
    rw [runAt_setting, runAt_config_of_one hrun hreply hone]
    rfl
  · intro hzero hone
    obtain ⟨detail, hfailed, hdetail⟩ :=
      exists_failed_eq "config" ["--get-all", Setting.key name] reply
    refine ⟨detail, hdetail, ?_⟩
    rw [runAt_setting, runAt_config_of_failed hrun hreply hzero hone, hfailed]
    rfl
  · intro hzero hout
    obtain ⟨reason, hreason⟩ := exists_runAt_setting_of_malformed hrun hreply hzero hout
    exact ⟨reason, congrArg Prod.fst hreason⟩

/-! ### A working copy whose settings are asked for -/

theorem locateCommand_values (replies : List Machine.Reply) :
    (machineWith replies).locateCommand (valuesCommand "/work" "webrev.output") =
      .ok ⟨"git", ["work"], ["config", "--get-all", "webrev.output"], []⟩ :=
  locateCommand_machineWith replies (by decide +kernel)

/-- The setting `output` when `git` gives a reply. -/
def outputAfter (reply : Machine.Reply) : Except RepositoryError (Option String) :=
  (((repository "/work").setting none "output").runAt (machineWith [reply])).1

/-- A blank value is kept, with a carriage return in its middle. Two values are none, a status 1
does not count what is printed, and a run that was killed and wrote blanks is described. -/
theorem setting_read_of_blank :
    outputAfter (printing " \r \n") = .ok (some " \r ") ∧
      outputAfter (printing "a\n\n") = .ok none ∧
      outputAfter ⟨.exited 1, Utf8.encode "a\n".toList, []⟩ = .ok none ∧
      (∃ detail, detail ≠ "" ∧ outputAfter ⟨.killed 9, [], Utf8.encode " \n".toList⟩ =
        .error (.commandFailed "config" detail)) ∧
      ∃ reason, outputAfter ⟨.exited 0, [0xFF], []⟩ = .error (.malformedOutput reason) := by
  have hread (reply : Machine.Reply) := (setting_read "/work" "output" (machineWith [reply])).2 _
    reply (locateCommand_values [reply]) rfl
  refine ⟨?_, ?_, ?_, ?_, ?_⟩
  · exact ((hread (printing " \r \n")).2.1 rfl [" \r "] (by decide) (by decide)).1 _ rfl
  · exact ((hread (printing "a\n\n")).2.1 rfl ["a", ""] (by decide) (by decide)).2 (by decide)
  · exact (hread ⟨.exited 1, Utf8.encode "a\n".toList, []⟩).2.2.1 rfl
  · exact (hread ⟨.killed 9, [], Utf8.encode " \n".toList⟩).2.2.2.1 (by decide) (by decide)
  · have hdecode : Utf8.decode [0xFF] = .error (.sequence 1 0) := by decide
    refine (hread ⟨.exited 0, [0xFF], []⟩).2.2.2.2 rfl fun text htext => ?_
    exact nomatch hdecode.symm.trans (Utf8.decode_eq_ok_iff.mpr htext)

end Webrev.Git
