import Webrev.Proofs.Integration.Rollback
import Webrev.Proofs.Integration.Run
import Webrev.Proofs.Journal.Beside
import Webrev.Proofs.Metadata.Fields

/-!
# Evidence for a target

What a webrev applies to is said by a reference that is asked for, by the revision on its page, or
by the branch on its page. The strongest evidence decides alone: it is followed, or there is an
error, and nothing weaker is ever looked at. So a page that is fetched onto a given reference may
say about its branch and its revision what it likes; the repository is asked and told the same.

Whatever can be said of every repository can be said of one that puts down its calls, so what two
runs leave of a repository also says which calls they made.

## Main definitions

* `Target.choice` : the choice of a target with the calls that it makes.
* `Target.Decided` : the strongest evidence decides alone.
* `Metadata.Field.isHint` : the fields that a page hints at its target with.
* `Integration.fetchBeside`, `Integration.repositoryCalls` : a fetch of a client and a repository
  side by side, and its calls to the repository.

## Main results

* `Target.decided_choice` : every choice of a target is so decided.
* `Integration.map_report_fetchPatch` : with a reference, hints change neither calls nor report.
* `Integration.fetch_evidence` : weaker evidence never influences the target.
-/

namespace Webrev

/-! ### One choice -/

namespace Target

/-- What becomes of a name, by the answer of the repository. -/
def ofAnswer (name : String) (origin : Origin) :
    Except RepositoryError (Option CommitHash) → Except ResolveError Target
  | .error e => .error (.repository e)
  | .ok none => .error (.unresolvableReference name)
  | .ok (some commit) => .ok ⟨commit, origin⟩

/-- The strongest evidence decides alone. -/
structure Decided (metadata : Metadata) (reference : Option String)
    (outcome : Except ResolveError Target) (calls : List Event) : Prop where
  /-- A reference that is asked for is looked up, and nothing else. -/
  override : ∀ name, reference = some name →
    ∃ answer, calls = [.query (.resolve name) answer] ∧ outcome = ofAnswer name .override answer
  /-- Without one, the revision on the page is taken as it stands. -/
  revision : ∀ revision, reference = none → metadata.compareAgainstRevision = some revision →
    calls = [] ∧ outcome = .ok ⟨⟨revision⟩, .compareAgainstRevision⟩
  /-- Without either, the branch on the page is looked up if the repository lists it. -/
  branch : ∀ name, reference = none → metadata.compareAgainstRevision = none →
    metadata.branch = some name →
    (∃ e, calls = [.query .branches (.error e)] ∧ outcome = .error (.repository e)) ∨
      ∃ known : List Branch,
        (name ∉ known.map Branch.name ∧ calls = [.query .branches (.ok known)] ∧
            outcome = .error (.unknownBranch name)) ∨
          name ∈ known.map Branch.name ∧ ∃ answer,
            calls = [.query .branches (.ok known), .query (.resolve name) answer] ∧
              outcome = ofAnswer name .branch answer
  /-- There is nothing to go by exactly when there is none of the three. -/
  nowhere : outcome = .error .noResolutionPath ↔
    reference = none ∧ metadata.compareAgainstRevision = none ∧ metadata.branch = none
  /-- Then the repository is not asked. -/
  unasked : outcome = .error .noResolutionPath → calls = []

theorem ofAnswer_ne_noResolutionPath (name : String) (origin : Origin)
    (answer : Except RepositoryError (Option CommitHash)) :
    ofAnswer name origin answer ≠ .error .noResolutionPath := by
  rcases answer with _ | _ | _ <;> exact nofun

end Target

/-- The lookup of a name is one question, and its answer decides. -/
theorem CommitLookup.exists_answer {name : String} {outcome : Except ResolveError CommitHash}
    {calls : List Event} (h : CommitLookup name outcome calls) (origin : Target.Origin) :
    ∃ answer, calls = [.query (.resolve name) answer] ∧
      (outcome.map fun commit => ⟨commit, origin⟩) = Target.ofAnswer name origin answer := by
  cases h with
  | failed e => exact ⟨.error e, rfl, rfl⟩
  | unknown => exact ⟨.ok none, rfl, rfl⟩
  | found commit => exact ⟨.ok (some commit), rfl, rfl⟩

/-- The branch of a page is looked up if the repository lists it, and else unknown. -/
theorem BranchLookup.cases_listed {name : String} {outcome : Except ResolveError CommitHash}
    {calls : List Event} (h : BranchLookup name outcome calls) (origin : Target.Origin) :
    (∃ e, calls = [.query .branches (.error e)] ∧
        (outcome.map fun commit => (⟨commit, origin⟩ : Target)) = .error (.repository e)) ∨
      ∃ known : List Branch,
        (name ∉ known.map Branch.name ∧ calls = [.query .branches (.ok known)] ∧
            (outcome.map fun commit => (⟨commit, origin⟩ : Target)) =
              .error (.unknownBranch name)) ∨
          name ∈ known.map Branch.name ∧ ∃ answer,
            calls = [.query .branches (.ok known), .query (.resolve name) answer] ∧
              (outcome.map fun commit => ⟨commit, origin⟩) =
                Target.ofAnswer name origin answer := by
  cases h with
  | failed e => exact .inl ⟨e, rfl, rfl⟩
  | unknown known hunknown =>
    refine .inr ⟨known, .inl ⟨fun hmem => ?_, rfl, rfl⟩⟩
    exact nomatch hunknown.symm.trans (any_name_iff.mpr hmem)
  | listed known hknown lookup =>
    obtain ⟨answer, rfl, hanswer⟩ := lookup.exists_answer origin
    exact .inr ⟨known, .inr ⟨any_name_iff.mp hknown, answer, rfl, hanswer⟩⟩

namespace Target

variable {metadata : Metadata} {reference : Option String} {outcome : Except ResolveError Target}
  {calls : List Event}

/-- A reference that is asked for is looked up, and nothing else. -/
theorem Resolution.of_override {name : String}
    (h : Resolution metadata (some name) outcome calls) :
    ∃ answer, calls = [.query (.resolve name) answer] ∧
      outcome = ofAnswer name .override answer := by
  cases h with
  | override lookup ht =>
    rw [ht]
    exact lookup.exists_answer .override

/-- Without a reference the revision on the page is taken as it stands. -/
theorem Resolution.of_revision {revision : String} (h : Resolution metadata none outcome calls)
    (hr : metadata.compareAgainstRevision = some revision) :
    calls = [] ∧ outcome = .ok ⟨⟨revision⟩, .compareAgainstRevision⟩ := by
  cases h with
  | revision hr' =>
    obtain rfl := Option.some.inj (hr'.symm.trans hr)
    exact ⟨rfl, rfl⟩
  | branch hnone | nowhere hnone => exact nomatch hnone.symm.trans hr

/-- Without a reference and a revision the branch on the page is looked up if it is listed. -/
theorem Resolution.of_branch {name : String} (h : Resolution metadata none outcome calls)
    (hr : metadata.compareAgainstRevision = none) (hb : metadata.branch = some name) :
    (∃ e, calls = [.query .branches (.error e)] ∧ outcome = .error (.repository e)) ∨
      ∃ known : List Branch,
        (name ∉ known.map Branch.name ∧ calls = [.query .branches (.ok known)] ∧
            outcome = .error (.unknownBranch name)) ∨
          name ∈ known.map Branch.name ∧ ∃ answer,
            calls = [.query .branches (.ok known), .query (.resolve name) answer] ∧
              outcome = ofAnswer name .branch answer := by
  cases h with
  | revision hsome => exact nomatch hr.symm.trans hsome
  | branch _ hb' lookup ht =>
    obtain rfl := Option.some.inj (hb'.symm.trans hb)
    rw [ht]
    exact lookup.cases_listed .branch
  | nowhere _ hnone => exact nomatch hnone.symm.trans hb

/-- There is nothing to go by when there is none of the three. -/
theorem Resolution.of_nowhere (h : Resolution metadata none outcome calls)
    (hr : metadata.compareAgainstRevision = none) (hb : metadata.branch = none) :
    calls = [] ∧ outcome = .error .noResolutionPath := by
  cases h with
  | revision hsome => exact nomatch hr.symm.trans hsome
  | branch _ hsome => exact nomatch hb.symm.trans hsome
  | nowhere => exact ⟨rfl, rfl⟩

/-- There is something to go by when there is one of the three. -/
theorem Resolution.eq_none_of_nowhere
    (h : Resolution metadata reference (.error .noResolutionPath) calls) :
    reference = none ∧ metadata.compareAgainstRevision = none ∧ metadata.branch = none := by
  cases reference with
  | some name =>
    obtain ⟨answer, -, hanswer⟩ := h.of_override
    exact absurd hanswer.symm (ofAnswer_ne_noResolutionPath _ _ _)
  | none =>
    cases h with
    | nowhere hr hb => exact ⟨rfl, hr, hb⟩
    | branch hr hb lookup ht =>
      rcases lookup.cases_listed .branch with ⟨e, -, h⟩ | ⟨known, ⟨-, -, h⟩ | ⟨-, answer, -, h⟩⟩
      · exact nomatch ht.trans h
      · exact nomatch ht.trans h
      · exact absurd (ht.trans h).symm (ofAnswer_ne_noResolutionPath _ _ _)

/-- A choice that is made in one of its ways is decided by the strongest evidence. -/
theorem Resolution.decided (h : Resolution metadata reference outcome calls) :
    Decided metadata reference outcome calls where
  override := by
    rintro name rfl
    exact h.of_override
  revision := by
    rintro revision rfl hr
    exact h.of_revision hr
  branch := by
    rintro name rfl hr hb
    exact h.of_branch hr hb
  nowhere := by
    refine ⟨fun ho => ?_, ?_⟩
    · rw [ho] at h
      exact h.eq_none_of_nowhere
    · rintro ⟨rfl, hr, hb⟩
      exact (h.of_nowhere hr hb).2
  unasked := by
    rintro rfl
    obtain ⟨rfl, hr, hb⟩ := h.eq_none_of_nowhere
    exact (h.of_nowhere hr hb).1

variable {ω : Type}

/-- The choice of a target from a world, with the calls that it makes. -/
def choice (repository : Repository ω) (metadata : Metadata) (reference : Option String)
    (world : ω) : Except ResolveError Target × List Event :=
  let run := (resolve repository.journaled.toQueries metadata reference).runAt ⟨world, []⟩
  (run.1, run.2.events)

/-- Every choice of a target is decided by the strongest evidence. -/
theorem decided_choice (repository : Repository ω) (metadata : Metadata) (reference : Option String)
    (world : ω) :
    (choice repository metadata reference world).1 =
        ((resolve repository.toQueries metadata reference).runAt world).1 ∧
      Decided metadata reference (choice repository metadata reference world).1
        (choice repository metadata reference world).2 := by
  -- No client takes part in the choice.
  have htold : Told (⟨fun _ => throw .client, fun _ => throw .client, fun _ => pure ()⟩ : Client ω)
      repository _ _ _ := Told.resolve metadata reference
  obtain ⟨houtcome, -, -, hresolution⟩ := htold.run world
  rw [← houtcome] at hresolution
  exact ⟨houtcome, hresolution.decided⟩

end Target

/-! ### Hints on a page -/

namespace Metadata

/-- The fields that a page hints at its target with. -/
def Field.isHint : Field → Bool
  | .branch | .compareAgainst | .compareAgainstVersion | .compareAgainstRevision => true
  | .author | .summary | .workspace | .repository | .patch | .changeset => false

/-- Two tables say the same, the hints apart. -/
def AgreeButHints (header header' : Page.Header) : Prop :=
  ∀ label, (∀ field : Field, field.isHint = true → label ≠ field.label) →
    header.get? label = header'.get? label

variable {header header' : Page.Header}

theorem AgreeButHints.get?_eq (h : AgreeButHints header header') {field : Field}
    (hfield : field.isHint = false) : header.get? field.label = header'.get? field.label := by
  refine h field.label fun other hother hlabel => ?_
  rw [Field.label_injective hlabel, hother] at hfield
  cases hfield

/-- Tables that say the same, the hints apart, fail alike or give records that say the same, the
hints apart. -/
theorem ofHeader_cases_of_agreeButHints (source : Url) (h : AgreeButHints header header') :
    (∃ e, ofHeader header source = .error e ∧ ofHeader header' source = .error e) ∨
      ∃ m m', ofHeader header source = .ok m ∧ ofHeader header' source = .ok m' ∧
        m.sourceUri = m'.sourceUri ∧ ∀ field : Field, field.isHint = false → field.Same m m' := by
  have hrepository : header.get? Field.repository.label = header'.get? Field.repository.label :=
    h.get?_eq rfl
  rw [ofHeader_eq, ofHeader_eq, ← namedRepository_congr hrepository]
  cases namedRepository header with
  | error e => exact .inl ⟨e, rfl, rfl⟩
  | ok uri =>
    exact .inr ⟨_, _, rfl, rfl, rfl, fun field hfield =>
      same_withRepository source (h.get?_eq hfield) fun _ => rfl⟩

end Metadata

/-! ### Two fetches -/

namespace Integration

/-- What a fetch reports of the repository. -/
def Fetched.report (fetched : Fetched) : Target × Branch × CommitHash :=
  (fetched.target, fetched.branch, fetched.commit)

section Parts

variable {ω : Type} {client : Client ω} {repository : Repository ω} {location : String}
  {request : Request} {world next : ω} {metadata metadata' : Metadata}

/-- With a reference that is asked for, of a record nothing but the author counts. -/
theorem map_report_fetchPatch {reference : String} (hreference : request.reference = some reference)
    (hauthor : metadata.author = metadata'.author) (patch : PatchFile) :
    Fetched.report <$> fetchPatch repository request metadata patch =
      Fetched.report <$> fetchPatch repository request metadata' patch := by
  have hresolve : Target.resolve repository.toQueries metadata request.reference =
      Target.resolve repository.toQueries metadata' request.reference := by
    rw [hreference]
    rfl
  simp only [fetchPatch, hresolve, hauthor, map_bind, map_pure, Fetched.report]

/-- What a step with a patch gives back, told in another way. -/
theorem map_withPatch {α β : Type} (f : α → β) (uri : Url)
    (step : PatchFile → Attempt ω Error α) :
    f <$> withPatch client uri step = withPatch client uri fun patch => f <$> step patch := by
  rw [withPatch, map_bind]
  refine congrArg _ (funext fun patch => Attempt.runAt_ext fun world => ?_)
  rw [Attempt.runAt_map, Attempt.runAt_mk_bind, Attempt.runAt_mk_bind, Attempt.runAt_map]
  rfl

/-- With a reference that is asked for, records that say the same, the hints apart, lead to the same
report. -/
theorem map_report_withRecord {reference : String}
    (hreference : request.reference = some reference)
    (hsource : metadata.sourceUri = metadata'.sourceUri)
    (hsame : ∀ field : Metadata.Field, field.isHint = false → field.Same metadata metadata') :
    Fetched.report <$> withRecord client (fun metadata _ patch =>
        fetchPatch repository request metadata patch) metadata =
      Fetched.report <$> withRecord client (fun metadata _ patch =>
        fetchPatch repository request metadata patch) metadata' := by
  have hpatch : metadata.patchUri = metadata'.patchUri := hsame .patch rfl
  rw [withRecord, withRecord, hpatch, hsource]
  cases metadata'.patchUri with
  | none => rfl
  | some uri =>
    dsimp only
    rw [map_withPatch, map_withPatch]
    have hauthor : metadata.author = metadata'.author := hsame .author rfl
    exact congrArg _ (funext fun patch => map_report_fetchPatch hreference hauthor patch)

end Parts

section Beside

variable {ρ σ : Type} (client : Client σ) (repository : Repository ρ) (request : Request)

/-- A fetch of a client and a repository side by side. -/
def fetchBeside (world : ρ) (session : σ) : Except Error Fetched × (ρ × σ) :=
  (fetch client.second repository.first request).runAt (world, session)

/-- The calls to the repository that such a fetch makes. -/
def repositoryCalls (world : ρ) (session : σ) : List Event :=
  (fetchBeside client repository.journaled request ⟨world, []⟩ session).2.1.events

variable {client repository request} {world : ρ} {session session' next : σ}
  {header header' : Page.Header} {reference : String}

theorem runAt_first_query {question : Query} {outcome : Except RepositoryError question.Answer}
    {asked : ρ} (h : (repository.query question).runAt world = (outcome, asked)) (outside : σ) :
    (repository.first.query question).runAt (world, outside) = (outcome, asked, outside) := by
  rw [Repository.first, Repository.zoom, Attempt.runAt_zoom, h]

theorem runAt_second_fetchHeader {url : Url} {outcome : Except AccessError Page.Header}
    (h : (client.fetchHeader url).runAt session = (outcome, next)) (beside : ρ) :
    (client.second.fetchHeader url).runAt (beside, session) = (outcome, beside, next) := by
  rw [Client.second, Client.zoom, Attempt.runAt_zoom, h]

/-- Two pages that say the same, the hints apart, are fetched alike onto a reference. -/
theorem fetchBeside_alike (repository : Repository ρ) (world : ρ)
    (hreference : request.reference = some reference)
    (hpages : ∀ source, Location.sanitize request.location = .ok source →
      (client.fetchHeader source).runAt session = (.ok header, next) ∧
        (client.fetchHeader source).runAt session' = (.ok header', next))
    (hagree : Metadata.AgreeButHints header header') :
    (fetchBeside client repository request world session).1.map Fetched.report =
        (fetchBeside client repository request world session').1.map Fetched.report ∧
      (fetchBeside client repository request world session).2.1 =
        (fetchBeside client repository request world session').2.1 := by
  unfold fetchBeside
  rcases hclean : (repository.query .isClean).runAt world with ⟨e | clean, asked⟩
  · rw [runAt_fetch_of_error (runAt_first_query hclean session),
      runAt_fetch_of_error (runAt_first_query hclean session')]
    exact ⟨rfl, rfl⟩
  cases clean with
  | false =>
    rw [runAt_fetch_of_dirty (runAt_first_query hclean session),
      runAt_fetch_of_dirty (runAt_first_query hclean session')]
    exact ⟨rfl, rfl⟩
  | true =>
  rw [runAt_fetch_of_clean (runAt_first_query hclean session),
    runAt_fetch_of_clean (runAt_first_query hclean session')]
  cases hs : Location.sanitize request.location with
  | error fault =>
    rw [runAt_withWebrev_of_error (runAt_metadataAt_of_malformed hs _),
      runAt_withWebrev_of_error (runAt_metadataAt_of_malformed hs _)]
    exact ⟨rfl, rfl⟩
  | ok source =>
  -- From here on there is one world, in which two tables were read.
  obtain ⟨hheader, hheader'⟩ := hpages source hs
  have hread := runAt_metadataAt_of_header hs (runAt_second_fetchHeader hheader asked)
  have hread' := runAt_metadataAt_of_header hs (runAt_second_fetchHeader hheader' asked)
  rcases Metadata.ofHeader_cases_of_agreeButHints source hagree with
    ⟨e, he, he'⟩ | ⟨m, m', hm, hm', hsource, hsame⟩
  · rw [he] at hread
    rw [he'] at hread'
    rw [runAt_withWebrev_of_error hread, runAt_withWebrev_of_error hread']
    exact ⟨rfl, rfl⟩
  · rw [hm] at hread
    rw [hm'] at hread'
    rw [runAt_withWebrev_of_ok hread, runAt_withWebrev_of_ok hread']
    have hstep : Fetched.report <$> withRecord client.second (fun metadata _ patch =>
          fetchPatch repository.first request metadata patch) m =
        Fetched.report <$> withRecord client.second (fun metadata _ patch =>
          fetchPatch repository.first request metadata patch) m' :=
      map_report_withRecord hreference hsource hsame
    have hreport := congrArg (Attempt.runAt · (asked, next)) hstep
    rw [Attempt.runAt_map, Attempt.runAt_map] at hreport
    obtain ⟨houtcome, hworld⟩ := Prod.mk.inj hreport
    exact ⟨houtcome, congrArg Prod.fst hworld⟩

/-- **Weaker evidence never influences the target.** For every repository and every client, whatever
fails: a reference that is asked for is looked up and decides, without one the revision on the page
is taken as it stands, without either the branch on the page is looked up if the repository lists
it, and there is nothing to go by exactly when there is none of the three. And when a reference is
asked for, two pages whose tables differ in hints only are fetched with the same calls to the
repository, which are left in the same state, and with the same report or the same error. -/
theorem fetch_evidence :
    (∀ (repository : Repository ρ) metadata reference world,
      (Target.choice repository metadata reference world).1 =
          ((Target.resolve repository.toQueries metadata reference).runAt world).1 ∧
        Target.Decided metadata reference (Target.choice repository metadata reference world).1
          (Target.choice repository metadata reference world).2) ∧
    ∀ (client : Client σ) (repository : Repository ρ) (request : Request) (reference : String)
      (session session' next : σ) (header header' : Page.Header) (world : ρ),
      request.reference = some reference →
      (∀ source, Location.sanitize request.location = .ok source →
        (client.fetchHeader source).runAt session = (.ok header, next) ∧
          (client.fetchHeader source).runAt session' = (.ok header', next)) →
      Metadata.AgreeButHints header header' →
      repositoryCalls client repository request world session =
          repositoryCalls client repository request world session' ∧
        (fetchBeside client repository request world session).2.1 =
          (fetchBeside client repository request world session').2.1 ∧
        (fetchBeside client repository request world session).1.map Fetched.report =
          (fetchBeside client repository request world session').1.map Fetched.report := by
  refine ⟨Target.decided_choice, ?_⟩
  intro client repository request reference session session' next header header' world hreference
    hpages hagree
  obtain ⟨hreport, hworld⟩ := fetchBeside_alike repository world hreference hpages hagree
  -- A repository that puts down its calls is a repository as well.
  obtain ⟨-, hjournal⟩ :=
    fetchBeside_alike repository.journaled ⟨world, []⟩ hreference hpages hagree
  exact ⟨congrArg Journal.events hjournal, hworld, hreport⟩

end Beside

/-! ### Two pages with other hints -/

/-- The page of `refusedSession` with other hints. -/
def hintedPage : List UInt8 :=
  Utf8.encode ("<table>\n<tr><th>Branch:</th><td>main</td></tr>\n" ++
    "<tr><th>Compare against revision:</th><td>c9</td></tr>\n" ++
    "<tr><th>Patch of changes:</th><td><a href=\"w.patch\">w.patch</a></td></tr>\n" ++
    "</table>\n").toList

/-- The network of `refusedSession` with that page. -/
def hintedSession : Http.Session :=
  ⟨⟨true, [⟨⟨200⟩, [hintedPage], none, false⟩, ⟨⟨200⟩, [[0x2B]], none, false⟩], []⟩,
    ⟨"/tmp", true, [], 0, []⟩, []⟩

/-- The tables of the two pages. -/
def plainHeader : Page.Header :=
  .ofList [("Compare against revision", "c0"),
    ("Patch of changes", "<a href=\"w.patch\">w.patch</a>")]

@[inherit_doc plainHeader]
def hintedHeader : Page.Header :=
  .ofList [("Branch", "main"), ("Compare against revision", "c9"),
    ("Patch of changes", "<a href=\"w.patch\">w.patch</a>")]

/-- The fetch of such a page onto what is checked out. -/
def ontoHead : Request := ⟨"http://h/w/", "fetched", some "HEAD"⟩

theorem agreeButHints_plainHeader : Metadata.AgreeButHints plainHeader hintedHeader := by
  intro label hlabel
  have hbranch : label ≠ "Branch" := hlabel .branch rfl
  have hrevision : label ≠ "Compare against revision" := hlabel .compareAgainstRevision rfl
  simp [plainHeader, hintedHeader, Page.Header.ofList, hbranch, hrevision]

theorem fetch_evidence_of_hints :
    Metadata.AgreeButHints plainHeader hintedHeader ∧
      (fetchBeside (Http.client "agent") Memory.repository ontoHead (refusing none []).1
          refusedSession).1.isOk = true ∧
      (fetchBeside (Http.client "agent") Memory.repository ontoHead (refusing none []).1
          refusedSession).1.map Fetched.report =
        (fetchBeside (Http.client "agent") Memory.repository ontoHead (refusing none []).1
          hintedSession).1.map Fetched.report := by
  have hpages : ∀ source, Location.sanitize ontoHead.location = .ok source →
      ((Http.client "agent").fetchHeader source).runAt refusedSession =
          (.ok plainHeader,
            (((Http.client "agent").fetchHeader Metadata.samplePage).runAt refusedSession).2) ∧
        ((Http.client "agent").fetchHeader source).runAt hintedSession =
          (.ok hintedHeader,
            (((Http.client "agent").fetchHeader Metadata.samplePage).runAt refusedSession).2) := by
    intro source hs
    have hsample : Location.sanitize ontoHead.location = .ok Metadata.samplePage := by
      decide +kernel
    obtain rfl := Except.ok.inj (hs.symm.trans hsample)
    exact ⟨Prod.ext (by decide +kernel) rfl, Prod.ext (by decide +kernel) (by decide +kernel)⟩
  refine ⟨agreeButHints_plainHeader, by decide +kernel, ?_⟩
  exact (fetch_evidence.2 (Http.client "agent") Memory.repository ontoHead "HEAD" refusedSession
    hintedSession _ plainHeader hintedHeader _ rfl hpages agreeButHints_plainHeader).2.2

end Integration

end Webrev
