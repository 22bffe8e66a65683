import Webrev.Proofs.Generation.Inquiry
import Webrev.Proofs.Generation.Output

/-!
# Planning stops at the first failure

The questions that are asked for a plan are put down, and any of them can be made to fail. Then
there is no plan, the failure is told, and no further question is asked: the questions up to the
failure are those that are asked when nothing fails. What would come after the planning does not
come either, so no generator is run.

The account of the questions of a tree is that of the way which the answers lead. A failure cuts the
way off, by induction on the tree; and a plan is made by going through one.

## Main definitions

* `Asked`, `Queries.faulty` : questions that are put down, some of which fail.
* `Generation.questions` : the questions that are asked for a plan.

## Main results

* `Plan.Inquiry.runAt_faulty_of_some` : a failure cuts the way through a tree off.
* `Generation.planning_faulty_none` : putting the questions down changes nothing.
* `Generation.planning_failStop` : planning stops at the first failure, and so does a generation.
-/

namespace Webrev

/-- A world and the questions that were asked in it. -/
structure Asked (ω : Type) where
  world : ω
  questions : List Query
  deriving DecidableEq, Repr

variable {ω : Type}

namespace Queries

/-- Every question is put down, and a question with the number of a fault fails. -/
def faulty (queries : Queries ω) (fault : Nat → Option RepositoryError) : Queries (Asked ω) where
  query question := ExceptT.mk fun asked =>
    match fault asked.questions.length with
    | some error => (.error error, ⟨asked.world, asked.questions ++ [question]⟩)
    | none =>
      let (outcome, world) := (queries.query question).runAt asked.world
      (outcome, ⟨world, asked.questions ++ [question]⟩)

variable {queries : Queries ω} {fault : Nat → Option RepositoryError}

theorem runAt_faulty_of_some {error : RepositoryError} {asked : Asked ω}
    (h : fault asked.questions.length = some error) (question : Query) :
    ((queries.faulty fault).query question).runAt asked =
      (.error error, ⟨asked.world, asked.questions ++ [question]⟩) := by
  simp only [faulty, Attempt.runAt, ExceptT.run, ExceptT.mk, h]

theorem runAt_faulty_of_none (queries : Queries ω) (fault : Nat → Option RepositoryError)
    (asked : Asked ω) (h : fault asked.questions.length = none) (question : Query) :
    ((queries.faulty fault).query question).runAt asked =
      (((queries.query question).runAt asked.world).1,
        ⟨((queries.query question).runAt asked.world).2, asked.questions ++ [question]⟩) := by
  simp only [faulty, Attempt.runAt, ExceptT.run, ExceptT.mk, h]

/-- A question that fails leaves the world as it is. -/
theorem Keep.faulty {σ : Type} {see : ω → σ} (h : queries.Keep see)
    (fault : Nat → Option RepositoryError) :
    (queries.faulty fault).Keep fun asked => see asked.world := by
  intro question asked
  cases hfault : fault asked.questions.length with
  | some error => rw [runAt_faulty_of_some hfault]
  | none =>
    rw [runAt_faulty_of_none _ _ _ hfault]
    exact h question asked.world

end Queries

/-! ### The way through a tree -/

namespace Plan.Inquiry

variable {α : Type} {queries : Queries ω} {fault : Nat → Option RepositoryError}

/-- The questions on the way that the answers of a repository lead. -/
def questions (queries : Queries ω) : Inquiry α → ω → List Query
  | .done _, _ => []
  | .ask query next, world =>
    query :: match (queries.query query).runAt world with
      | (.ok answer, world) => (next answer).questions queries world
      | (.error _, _) => []

theorem questions_ask_of_ok {query : Query} {next : query.Answer → Inquiry α} {world world' : ω}
    {answer : query.Answer} (h : (queries.query query).runAt world = (.ok answer, world')) :
    (Inquiry.ask query next).questions queries world =
      query :: (next answer).questions queries world' := by
  rw [questions, h]

theorem questions_ask_of_error {query : Query} {next : query.Answer → Inquiry α} {world world' : ω}
    {error : RepositoryError} (h : (queries.query query).runAt world = (.error error, world')) :
    (Inquiry.ask query next).questions queries world = [query] := by
  rw [questions, h]

/-- An answer leads on. -/
theorem runAt_ask_of_ok {query : Query} {next : query.Answer → Inquiry α} {world world' : ω}
    {answer : query.Answer} (h : (queries.query query).runAt world = (.ok answer, world')) :
    ((Inquiry.ask query next).run queries).runAt world =
      ((next answer).run queries).runAt world' := by
  rw [run]
  refine Attempt.runAt_bind_of_ok ?_
  rw [Attempt.runAt_mapError, h]
  rfl

/-- A question that fails ends an inquiry. -/
theorem runAt_ask_of_error {query : Query} {next : query.Answer → Inquiry α} {world world' : ω}
    {error : RepositoryError} (h : (queries.query query).runAt world = (.error error, world')) :
    ((Inquiry.ask query next).run queries).runAt world =
      (.error (.ofQuery query error), world') := by
  rw [run]
  refine Attempt.runAt_bind_of_error ?_
  rw [Attempt.runAt_mapError, h]
  rfl

/-- Without a fault the questions on the way are put down. -/
theorem runAt_faulty_none (inquiry : Inquiry α) (asked : Asked ω) :
    (inquiry.run (queries.faulty fun _ => none)).runAt asked =
      (((inquiry.run queries).runAt asked.world).1,
        ⟨((inquiry.run queries).runAt asked.world).2,
          asked.questions ++ inquiry.questions queries asked.world⟩) := by
  induction inquiry generalizing asked with
  | done outcome => simp [run, questions]
  | ask query next ih =>
    have hput := Queries.runAt_faulty_of_none queries (fun _ => none) asked rfl query
    rcases hquery : (queries.query query).runAt asked.world with ⟨error | answer, world'⟩
    · rw [hquery] at hput
      rw [runAt_ask_of_error hput, runAt_ask_of_error hquery, questions_ask_of_error hquery]
    · rw [hquery] at hput
      rw [runAt_ask_of_ok hput, runAt_ask_of_ok hquery, questions_ask_of_ok hquery, ih answer]
      simp

/-- A failure cuts the way through a tree off, and is told. -/
theorem runAt_faulty_of_some (inquiry : Inquiry α) (asked : Asked ω) {k : Nat}
    (hk : k < (inquiry.questions queries asked.world).length) {error : RepositoryError}
    (hbefore : ∀ n < k, fault (asked.questions.length + n) = none)
    (hfault : fault (asked.questions.length + k) = some error) :
    ∃ left, (inquiry.run (queries.faulty fault)).runAt asked =
      (.error (.ofQuery (inquiry.questions queries asked.world)[k] error),
        ⟨left, asked.questions ++ (inquiry.questions queries asked.world).take (k + 1)⟩) := by
  induction inquiry generalizing asked k with
  | done outcome => exact absurd hk (Nat.not_lt_zero k)
  | ask query next ih =>
    cases k with
    | zero =>
      obtain ⟨rest, hrest⟩ : ∃ rest,
          (Inquiry.ask query next).questions queries asked.world = query :: rest :=
        ⟨_, questions.eq_2 ..⟩
      simp only [hrest]
      exact ⟨asked.world, runAt_ask_of_error (Queries.runAt_faulty_of_some hfault query)⟩
    | succ k =>
      rcases hquery : (queries.query query).runAt asked.world with ⟨fails | answer, world'⟩
      · -- The way would have ended here, before the fault.
        rw [questions_ask_of_error hquery, List.length_singleton] at hk
        exact absurd (Nat.lt_of_succ_lt_succ hk) (Nat.not_lt_zero k)
      simp only [questions_ask_of_ok hquery] at hk ⊢
      have hput := Queries.runAt_faulty_of_none queries fault asked (hbefore 0 (Nat.succ_pos k))
        query
      rw [hquery] at hput
      -- The question is put down, so the numbers that are left begin one later.
      have hlater (n : Nat) : (asked.questions ++ [query]).length + n =
          asked.questions.length + (n + 1) := by
        rw [List.length_append, List.length_singleton]
        omega
      obtain ⟨left, hleft⟩ := ih answer ⟨world', asked.questions ++ [query]⟩
        (Nat.lt_of_succ_lt_succ hk) (fun n hn => hlater n ▸ hbefore (n + 1) (Nat.succ_lt_succ hn))
        (hlater k ▸ hfault)
      refine ⟨left, ?_⟩
      rw [runAt_ask_of_ok hput, hleft]
      simp

end Plan.Inquiry

/-! ### Planning -/

namespace Generation

section Planning

variable (queries : Queries ω) (options : Plan.Options) (baseRef : String)
  (defaults : Plan.Defaults) (world : ω)

/-- The questions that are asked for a plan. -/
def questions : List Query :=
  (planning (queries.faulty fun _ => none) options baseRef defaults ⟨world, []⟩).2.questions

/-- The machine of a world in which questions are put down. -/
def askedMachine (part : Part ω Machine) : Part (Asked ω) Machine where
  get asked := part.get asked.world
  set machine asked := ⟨part.set machine asked.world, asked.questions⟩
  get_set machine asked := part.get_set machine asked.world
  set_get asked := by rw [part.set_get]
  set_set machine machine' asked := by rw [part.set_set]

/-- A planning that a failure stopped, and with it every generation. -/
structure Stopped (fault : Nat → Option RepositoryError) (error : Plan.Error) (asked : List Query)
    (left : ω) : Prop where
  planned : planning (queries.faulty fault) options baseRef defaults ⟨world, []⟩ =
    (.error error, ⟨left, asked⟩)
  /-- No generator is run: whatever the generator is, the world is as the planning left it. -/
  generated : ∀ part generator,
    generation (askedMachine part) (queries.faulty fault) generator options baseRef defaults
      ⟨world, []⟩ = (.error (.plan error), ⟨left, asked⟩)
  /-- The file tree is as it was. -/
  files : ∀ part : Part ω Machine, (queries.Keep fun world => (part.get world).files) →
    (part.get left).files = (part.get world).files
  /-- A record of the runs of a generator is as it was. -/
  idle : ∀ runs : ω → List (Plan × FileTree), queries.Keep runs → runs left = runs world

end Planning

variable {queries : Queries ω} {options : Plan.Options} {baseRef : String}
  {defaults : Plan.Defaults} {world : ω} {fault : Nat → Option RepositoryError}

/-- Without a plan nothing more is done. -/
theorem generation_of_unplanned {part : Part ω Machine}
    {generator : Plan → Attempt ω Error Unit} {error : Plan.Error} {planned : ω}
    (hplan : planning queries options baseRef defaults world = (.error error, planned)) :
    generation part queries generator options baseRef defaults world =
      (.error (.plan error), planned) := by
  have hmade := Attempt.runAt_mapError Error.plan (Plan.make queries options baseRef defaults) world
  rw [← planning, hplan] at hmade
  exact Attempt.runAt_bind_of_error hmade

/-- The questions for a plan are those on the way through its tree. -/
theorem questions_eq_of_make {inquiry : Plan.Inquiry Plan}
    (h : ∀ {ω : Type} (queries : Queries ω),
      Plan.make queries options baseRef defaults = inquiry.run queries) :
    questions queries options baseRef defaults world = inquiry.questions queries world := by
  rw [questions, planning, h, Plan.Inquiry.runAt_faulty_none]
  rfl

/-- Putting the questions down changes nothing. -/
theorem planning_faulty_none :
    planning (queries.faulty fun _ => none) options baseRef defaults ⟨world, []⟩ =
      ((planning queries options baseRef defaults world).1,
        ⟨(planning queries options baseRef defaults world).2,
          questions queries options baseRef defaults world⟩) := by
  obtain ⟨inquiry, hinquiry⟩ := Plan.asks_make options defaults baseRef
  rw [questions_eq_of_make hinquiry]
  dsimp only at hinquiry
  simp only [planning, hinquiry, Plan.Inquiry.runAt_faulty_none, List.nil_append]

/-- **Planning stops at the first failure.** When one of the questions that are asked for a plan is
made to fail, be it any of them, there is no plan because of that question, and the questions up to
it are all that is asked. A generation then ends with the same failure. -/
theorem planning_failStop {k : Nat}
    (hk : k < (questions queries options baseRef defaults world).length) {error : RepositoryError}
    (hbefore : ∀ n < k, fault n = none) (hfault : fault k = some error) :
    ∃ left, Stopped queries options baseRef defaults world fault
      (.ofQuery (questions queries options baseRef defaults world)[k] error)
      ((questions queries options baseRef defaults world).take (k + 1)) left := by
  obtain ⟨inquiry, hinquiry⟩ := Plan.asks_make options defaults baseRef
  simp only [questions_eq_of_make hinquiry] at hk ⊢
  dsimp only at hinquiry
  obtain ⟨left, hleft⟩ := Plan.Inquiry.runAt_faulty_of_some inquiry ⟨world, []⟩ hk
    (fun n hn => (Nat.zero_add n).symm ▸ hbefore n hn) ((Nat.zero_add k).symm ▸ hfault)
  have hplanned : planning (queries.faulty fault) options baseRef defaults ⟨world, []⟩ =
      (.error (.ofQuery (inquiry.questions queries world)[k] error),
        ⟨left, (inquiry.questions queries world).take (k + 1)⟩) := by
    rw [planning, hinquiry]
    exact hleft
  have hkept {σ : Type} {see : ω → σ} (hkeep : queries.Keep see) : see left = see world := by
    have hmake := Plan.make_keeps (hkeep.faulty fault) options baseRef defaults ⟨world, []⟩
    rw [← planning, hplanned] at hmake
    exact hmake
  exact ⟨left, hplanned, fun part generator => generation_of_unplanned hplanned,
    fun part => hkept, fun runs => hkept⟩

/-! ### A planning that is stopped -/

/-- The options that say nothing. -/
def plainOptions : Plan.Options := ⟨none, none, none, none, none, none, false⟩

/-- The revision cannot be looked up. -/
def resolveFault (n : Nat) : Option RepositoryError :=
  if n = 3 then some (.notARepository "/w") else none

theorem questions_plainOptions :
    questions memoryQueries plainOptions "HEAD" ⟨"/w", none⟩ linkWorld =
      [.config "webrev.repository", .pullPath "origin", .config "webrev.no-outgoing",
        .resolve "HEAD", .currentBranch, .config "webrev.output", .config "webrev.username",
        .username] := by
  decide +kernel

/-- The fourth question is the one for a revision, and with it the planning stops. -/
theorem planning_stopped_of_resolve :
    3 < (questions memoryQueries plainOptions "HEAD" ⟨"/w", none⟩ linkWorld).length ∧
      (∀ n < 3, resolveFault n = none) ∧ resolveFault 3 = some (.notARepository "/w") ∧
      ∃ left, Stopped memoryQueries plainOptions "HEAD" ⟨"/w", none⟩ linkWorld resolveFault
        (.resolve (.repository (.notARepository "/w")))
        [.config "webrev.repository", .pullPath "origin", .config "webrev.no-outgoing",
          .resolve "HEAD"] left := by
  have hk : 3 < (questions memoryQueries plainOptions "HEAD" ⟨"/w", none⟩ linkWorld).length := by
    rw [questions_plainOptions]
    decide
  have hbefore : ∀ n < 3, resolveFault n = none := by decide
  have hfault : resolveFault 3 = some (.notARepository "/w") := rfl
  refine ⟨hk, hbefore, hfault, ?_⟩
  have h := planning_failStop hk hbefore hfault
  simp only [questions_plainOptions] at h
  exact h

end Generation

end Webrev
