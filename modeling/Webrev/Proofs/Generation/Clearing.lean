import Webrev.Generation.Generate
import Webrev.Proofs.FileTree.Remove

/-!
# Clearing the output

What lies where a webrev goes is removed, unless the working directory lies there. The check follows
every link of both paths and compares real directories; the removal follows no link at the end.
Where the two come apart, the path is a link, and then the removal takes the link alone, which is no
directory and so not among those that the working directory lies in.

## Main results

* `Generation.clearOutput_cases` : all ways in which the output is cleared or not.
* `Generation.exists_of_node?_clearOutput_ne` : what is taken.
* `Generation.hasDirectory_clearOutput` : the working directory stays.
* `Generation.locateFrom_clearOutput` : where the output led to, nothing is left.
-/

namespace Webrev.Generation

open FileTree

variable {machine : Machine} {output cwd : String} {working : Place}

variable (hcwd : machine.tree.locateFrom machine.directory true cwd = .ok (working, .directory))

include hcwd

/-- The output leads nowhere, or to a place that the working directory lies in, or is removed. -/
theorem clearOutput_cases :
    ((∀ entry, machine.tree.locateFrom machine.directory true output ≠ .ok entry) ∧
        clearOutput output cwd machine = (.ok (), machine)) ∨
      ∃ cleared node, machine.tree.locateFrom machine.directory true output = .ok (cleared, node) ∧
        ((cleared <+: working ∧
            clearOutput output cwd machine = (.error (.unsafeOutput output), machine)) ∨
          (¬cleared <+: working ∧
            clearOutput output cwd machine =
              ((machine.tree.removeAll machine.directory output).1.mapError (.clearOutput output),
                { machine with
                  tree := (machine.tree.removeAll machine.directory output).2 }))) := by
  unfold clearOutput
  cases hout : machine.tree.locateFrom machine.directory true output with
  | error fault => exact .inl ⟨nofun, rfl⟩
  | ok found =>
    obtain ⟨cleared, node⟩ := found
    refine .inr ⟨cleared, node, rfl, ?_⟩
    have hcheck : checkOutput machine output cwd =
        if cleared.isPrefixOf working then .error (.unsafeOutput output) else .ok () := by
      simp only [checkOutput, placeOf, hcwd, hout]
      rfl
    by_cases hinside : cleared <+: working
    · refine .inl ⟨hinside, ?_⟩
      rw [if_pos (List.isPrefixOf_iff_prefix.mpr hinside)] at hcheck
      simp only [hcheck]
    · refine .inr ⟨hinside, ?_⟩
      rw [if_neg fun h => hinside (List.isPrefixOf_iff_prefix.mp h)] at hcheck
      simp only [hcheck]

/-- A place that the working directory lies in is not cleared. -/
theorem clearOutput_of_inside {cleared : Place} {node : Node}
    (hout : machine.tree.locateFrom machine.directory true output = .ok (cleared, node))
    (hinside : cleared <+: working) :
    clearOutput output cwd machine = (.error (.unsafeOutput output), machine) := by
  rcases clearOutput_cases hcwd with ⟨hnowhere, -⟩ | ⟨cleared', node', hout', hcases⟩
  · exact absurd hout (hnowhere _)
  · obtain ⟨rfl, rfl⟩ := Prod.mk.inj (Except.ok.inj (hout.symm.trans hout'))
    rcases hcases with ⟨-, heq⟩ | ⟨houtside, -⟩
    · exact heq
    · exact absurd hinside houtside

/-- Clearing adds no entry and changes none. -/
theorem isPart_clearOutput : IsPart (clearOutput output cwd machine).2.tree machine.tree := by
  rcases clearOutput_cases hcwd with ⟨-, heq⟩ | ⟨cleared, node, -, ⟨-, heq⟩ | ⟨-, heq⟩⟩
  · rw [heq]
    exact .refl machine.tree
  · rw [heq]
    exact .refl machine.tree
  · rw [heq]
    exact removeAll_isPart machine.tree machine.directory output

/-- What is taken is the entry that the output names, or lies in it, and the working directory does
not lie in the place that the output leads to. Of a link nothing but the link is taken. -/
theorem exists_of_node?_clearOutput_ne {place : Place}
    (h : (clearOutput output cwd machine).2.tree.node? place ≠ machine.tree.node? place) :
    ∃ named node, machine.tree.locateFrom machine.directory false output = .ok (named, node) ∧
      (node = .directory ∧ named <+: place ∧ ¬named <+: working ∨
        (∃ target, node = .link target) ∧ place = named) := by
  rcases clearOutput_cases hcwd with ⟨-, heq⟩ | ⟨cleared, node, hout, ⟨-, heq⟩ | ⟨houtside, heq⟩⟩
  · rw [heq] at h
    exact absurd rfl h
  · rw [heq] at h
    exact absurd rfl h
  · rw [heq] at h
    obtain ⟨named, node, hnamed, hcases⟩ := exists_of_node?_removeAll_ne h
    refine ⟨named, node, hnamed, hcases.imp_left fun ⟨hnode, hbelow⟩ => ⟨hnode, hbelow, ?_⟩⟩
    -- A directory is where the path leads to, with all links followed or not.
    have hthrough := locateFrom_through hnamed (by rw [hnode]; exact nofun)
    obtain ⟨rfl, -⟩ := Prod.mk.inj (Except.ok.inj (hthrough.symm.trans hout))
    exact houtside

/-- The working directory and all the directories above it stay. -/
theorem hasDirectory_clearOutput (hdirectory : HasDirectory machine.tree machine.directory) :
    HasDirectory (clearOutput output cwd machine).2.tree working := by
  have hworking := hasDirectory_of_locateFrom hdirectory hcwd
  intro above habove
  by_contra hgone
  rw [← hworking above habove] at hgone
  obtain ⟨named, node, hnamed, ⟨-, hbelow, houtside⟩ | ⟨⟨target, rfl⟩, rfl⟩⟩ :=
    exists_of_node?_clearOutput_ne hcwd hgone
  · exact houtside (hbelow.trans habove)
  · have hlink := (walks_of_locateFrom hnamed).node?_eq nofun
    rw [hworking above habove] at hlink
    cases hlink

/-- When clearing succeeded the output leads nowhere, and if it led somewhere before, it does not
even name a link any more. -/
theorem locateFrom_clearOutput (h : (clearOutput output cwd machine).1 = .ok ()) :
    (∀ entry, (clearOutput output cwd machine).2.tree.locateFrom machine.directory true output ≠
        .ok entry) ∧
      ((∃ entry, machine.tree.locateFrom machine.directory true output = .ok entry) →
        ∀ entry, (clearOutput output cwd machine).2.tree.locateFrom machine.directory false output ≠
          .ok entry) := by
  rcases clearOutput_cases hcwd with ⟨hnowhere, heq⟩ | ⟨cleared, node, -, ⟨-, heq⟩ | ⟨-, heq⟩⟩
  · rw [heq]
    exact ⟨hnowhere, fun ⟨entry, hentry⟩ => absurd hentry (hnowhere entry)⟩
  · rw [heq] at h
    cases h
  · have hremoved : (machine.tree.removeAll machine.directory output).1 = .ok () := by
      rw [heq] at h
      cases hremove : (machine.tree.removeAll machine.directory output).1 with
      | ok => rfl
      | error fault =>
        rw [hremove] at h
        cases h
    rw [heq]
    exact ⟨locateFrom_removeAll hremoved true, fun _ => locateFrom_removeAll hremoved false⟩

end Webrev.Generation
