/-
What the release preflight has seen when it returns, and that it starts a run
only if it must: for every forge, whatever it answers, and however the preflight
ends.
-/

import OxideWorkloads.Ci.ReleaseProof

namespace ReleasePreflight

open Foundation
open Foundation.Checks
open Foundation.CrashRun
open Registry (Members at_ get?)

variable {forge : Forge} {py : Language}

/-! ### The runs of the first listing -/

section Listed

variable {before after : History} {repo sha : String} {wf : Members}

theorem wrapping_returned {α : Type} {kinds : List ErrorKind} {text : String}
    {program : Talk α} {value : α}
    (ends : wrapping kinds text program before = (.ok value, after)) :
    program before = (.ok value, after) := by
  obtain ⟨result, middle, tried, ends⟩ := bind_returned.mp ends
  cases result with
  | error failure => cases ends
  | ok other =>
      obtain ⟨rfl, rfl⟩ := pure_returned.mp ends
      unfold attempt at tried
      cases ending : program before with
      | mk outcome last =>
          rw [ending] at tried
          cases outcome <;> simp_all

/-- The run of a row was seen to prove exactly the candidate. -/
def RowProven (py : Language) (history : History) (repo sha : String)
    (wf row : Members) : Prop :=
  ∃ id, idOf row = .ok id ∧ Exact history sha id ∧
    Proven py history repo sha wf id

/-- The evidence of the run of a row was seen to be lost. -/
def RowLost (py : Language) (history : History) (repo sha : String)
    (wf row : Members) : Prop :=
  ∃ id, idOf row = .ok id ∧ Lost py history repo sha wf id

/-- Each row is proven or lost, and the count tells whether all are lost. -/
theorem reuse_returned {rows : List Members} {count total : Nat}
    (ends : reuse forge py repo sha wf rows count before =
      (.ok total, after)) :
    before <+: after ∧ count ≤ total ∧
      (∀ row ∈ rows, RowProven py after repo sha wf row ∨
        RowLost py after repo sha wf row) ∧
      (total = count → ∀ row ∈ rows, RowLost py after repo sha wf row) ∧
      (count < total → ∃ row ∈ rows, RowProven py after repo sha wf row) := by
  induction rows generalizing before count with
  | nil =>
      obtain ⟨rfl, rfl⟩ := pure_returned.mp ends
      exact ⟨List.prefix_refl _, le_refl _, by simp, by simp, by omega⟩
  | cons row rest ih =>
      obtain ⟨id, named, ends⟩ := checked_returned ends
      obtain ⟨available, middle, judged, ends⟩ := bind_returned.mp ends
      obtain ⟨found, seen, looked, judged⟩ :=
        bind_returned.mp (wrapping_returned judged)
      obtain ⟨run, finished, same, grownSeen⟩ :=
        evidenceAvailable_returned looked
      cases found with
      | false =>
          obtain ⟨rfl, rfl⟩ := pure_returned.mp judged
          obtain ⟨grown, bound, each, allLost, anyProven⟩ := ih ends
          have lost : RowLost py after repo sha wf row :=
            ⟨id, named, run, finished.later grown, same⟩
          refine ⟨grownSeen.trans grown, bound, ?_, ?_, ?_⟩
          · exact List.forall_mem_cons.mpr ⟨.inr lost, each⟩
          · exact fun none =>
              List.forall_mem_cons.mpr ⟨lost, allLost none⟩
          · intro some
            obtain ⟨other, member, proven⟩ := anyProven some
            exact ⟨other, List.mem_cons_of_mem _ member, proven⟩
      | true =>
          obtain ⟨_, last, inspected, judged⟩ := bind_returned.mp judged
          obtain ⟨rfl, rfl⟩ := pure_returned.mp judged
          obtain ⟨proven, grownLast⟩ := inspect_returned inspected
          obtain ⟨grown, bound, each, -, -⟩ := ih ends
          have rowProven : RowProven py after repo sha wf row :=
            ⟨id, named, ⟨run, finished.answered.later
              (grownLast.trans grown), same⟩, proven.later grown⟩
          simp only [if_true] at bound
          refine ⟨grownSeen.trans (grownLast.trans grown), by omega, ?_,
            by omega, fun _ => ⟨row, List.mem_cons_self, rowProven⟩⟩
          exact List.forall_mem_cons.mpr ⟨.inl rowProven, each⟩

/-- The workflow was seen to be the expected one, and active. -/
def ActiveWorkflow (history : History) (wf : Members) : Prop :=
  Answered history (.api .workflow) (Json.object wf) ∧
    isText workflowPath (at_ wf "path") = true ∧
    isText "active" (at_ wf "state") = true

theorem workflow_returned
    (ends : workflow forge py before = (.ok wf, after)) :
    ActiveWorkflow after wf := by
  obtain ⟨value, middle, got, ends⟩ := bind_returned.mp ends
  obtain ⟨_, passed, ends⟩ := checked_returned ends
  obtain ⟨rfl, rfl⟩ := pure_returned.mp ends
  obtain ⟨-, path, state⟩ := ensure_eq_ok.mp passed
  exact ⟨(api_returned got).1, path, state⟩

/-- The main branch was seen to hold the candidate, and the active workflow to
have these runs. -/
def Listed (forge : Forge) (py : Language) (history : History)
    (repo sha : String) (wf : Members) (rows : List Members) : Prop :=
  Reachable history sha ∧ ActiveWorkflow history wf ∧
    ∃ first last, candidates forge py repo wf first = (.ok rows, last) ∧
      last <+: history

/-- No run of the listing speaks against the candidate: what is finished has
succeeded, and it is proven unless its evidence is lost. -/
def Clean (py : Language) (history : History) (repo sha : String)
    (wf : Members) (rows : List Members) : Prop :=
  ∀ row ∈ rows, exact row sha = true → firstAttempt py row = true ∧
    (completed row = true → succeeded row = true ∧
      (RowProven py history repo sha wf row ∨
        RowLost py history repo sha wf row))

/-- Every exact run of the listing is finished, and has lost its evidence. -/
def Expired (py : Language) (history : History) (repo sha : String)
    (wf : Members) (rows : List Members) : Prop :=
  ∀ row ∈ rows, exact row sha = true → firstAttempt py row = true ∧
    completed row = true ∧ succeeded row = true ∧
    RowLost py history repo sha wf row

/-- What the preflight knows before its first effect. -/
def Prepared (forge : Forge) (py : Language) (history : History)
    (repo sha : String) (wf : Members) : Plan → Prop
  | .proven => ∃ rows, Listed forge py history repo sha wf rows ∧
      Clean py history repo sha wf rows ∧
      ∃ row ∈ rows, RowProven py history repo sha wf row
  | .join _ => ∃ rows, Listed forge py history repo sha wf rows ∧
      Clean py history repo sha wf rows
  | .start => ∃ rows, Listed forge py history repo sha wf rows ∧
      Expired py history repo sha wf rows

theorem checkListed_eq_ok {rows : List Members}
    (passed : checkListed py rows = .ok ()) :
    (∀ run ∈ rows, firstAttempt py run = true) ∧
      (∀ run ∈ rows, completed run = true → succeeded run = true) ∧
      ((∀ run ∈ rows, completed run = true) ∨
        ∀ run ∈ rows, completed run = false) := by
  simp only [checkListed, bind_eq_ok, ensure_eq_ok, List.length_eq_zero_iff,
    List.filter_eq_nil_iff, List.mem_filter] at passed
  obtain ⟨_, first, _, -, _, good, apart⟩ := passed
  refine ⟨first, fun run member done => good run ⟨member, done⟩, ?_⟩
  exact apart.imp (fun none run member => by simpa using none run member)
    (fun none run member => by simpa using none run member)

theorem prepare_returned {token : Bool} {ids : List Int} {plan : Plan}
    (ends : prepare forge py token repo sha before =
      (.ok (wf, ids, plan), after)) :
    Prepared forge py after repo sha wf plan := by
  obtain ⟨_, -, ends⟩ := checked_returned ends
  obtain ⟨main, first, confirmed, ends⟩ := bind_returned.mp ends
  obtain ⟨found, second, isActive, ends⟩ := bind_returned.mp ends
  obtain ⟨rows, middle, listing, ends⟩ := bind_returned.mp ends
  have grownSecond := grows (keeps_workflow (quiet_growth first)) isActive
  have grownMiddle := grows (keeps_candidates (quiet_growth second)) listing
  have listed : ∀ later, middle <+: later →
      Listed forge py later repo sha found rows := by
    intro later grown
    obtain ⟨answered, known⟩ := workflow_returned isActive
    exact ⟨(ancestry_returned confirmed).1.later
        (grownSecond.trans (grownMiddle.trans grown)),
      ⟨answered.later (grownMiddle.trans grown), known⟩,
      second, middle, listing, grown⟩
  obtain ⟨_, passed, ends⟩ := checked_returned ends
  obtain ⟨once, good, apart⟩ := checkListed_eq_ok passed
  simp only [List.mem_filter, and_imp] at once good apart
  obtain ⟨chosen, last, planned, ends⟩ := bind_returned.mp ends
  obtain ⟨same, rfl⟩ := pure_returned.mp ends
  obtain ⟨rfl, -, rfl⟩ : wf = found ∧ ids = _ ∧ plan = chosen := by
    simpa only [Prod.mk.injEq] using same
  unfold planFor at planned
  cases active : (rows.filter (fun row => exact row sha)).filter
      (fun row => !completed row) with
  | cons run others =>
    rw [active] at planned
    -- one run is active, so that none is finished
    obtain ⟨id, -, ends⟩ := checked_returned planned
    obtain ⟨rfl, rfl⟩ := pure_returned.mp ends
    have unsettled : run ∈ (rows.filter (fun row => exact row sha)).filter
        (fun row => !completed row) := by
      rw [active]
      exact List.mem_cons_self
    simp only [List.mem_filter, Bool.not_eq_true'] at unsettled
    have unfinished : ∀ row ∈ rows, exact row sha = true →
        completed row = false := by
      rcases apart with all | none
      · have := all run unsettled.1.1 unsettled.1.2
        simp [unsettled.2] at this
      · exact none
    refine ⟨rows, listed _ (List.prefix_refl _), ?_⟩
    intro row member same
    refine ⟨once row member same, fun done => ?_⟩
    simp [unfinished row member same] at done
  | nil =>
    rw [active] at planned
    obtain ⟨total, _, reused, ends⟩ := bind_returned.mp planned
    obtain ⟨rfl, rfl⟩ := pure_returned.mp ends
    obtain ⟨grown, -, each, allLost, anyProven⟩ := reuse_returned reused
    simp only [List.mem_filter, and_imp] at each allLost anyProven
    simp only [List.filter_eq_nil_iff, List.mem_filter, and_imp,
      Bool.not_eq_true', Bool.not_eq_false] at active
    by_cases lost : total = 0
    · rw [if_pos lost]
      refine ⟨rows, listed _ grown, ?_⟩
      intro row member same
      have done := active row member same
      exact ⟨once row member same, done, good row member same done,
        allLost lost row member same done⟩
    · rw [if_neg lost]
      refine ⟨rows, listed _ grown, ?_, ?_⟩
      · intro row member same
        exact ⟨once row member same, fun done =>
          ⟨good row member same done, each row member same done⟩⟩
      · obtain ⟨row, ⟨⟨member, -⟩, -⟩, proven⟩ := anyProven (by omega)
        exact ⟨row, member, proven⟩

end Listed

/-! ### Waiting -/

section Waiting

variable {before after : History} {repo sha : String} {wf : Members}
  {ids : List Int}

/-- A poll that ends the wait has seen the proof of the run it selected. -/
theorem poll_returned {selected chosen : Json}
    (ends : poll forge py repo sha wf ids selected before =
      (.ok (chosen, true), after)) :
    Exact after sha chosen ∧ Proven py after repo sha wf chosen := by
  obtain ⟨_, _, -, ends⟩ := bind_returned.mp ends
  obtain ⟨_, _, -, ends⟩ := bind_returned.mp ends
  obtain ⟨_, -, ends⟩ := checked_returned ends
  obtain ⟨found, -, ends⟩ := checked_returned ends
  by_cases absent : found.isNull = true
  · rw [if_pos absent] at ends
    obtain ⟨same, -⟩ := pure_returned.mp ends
    simp at same
  · rw [if_neg absent] at ends
    obtain ⟨state, _, polled, ends⟩ := bind_returned.mp ends
    obtain ⟨_, same, ends⟩ := checked_returned ends
    obtain ⟨_, -, ends⟩ := checked_returned ends
    by_cases done : completed state = true
    · rw [if_pos done] at ends
      obtain ⟨_, -, ends⟩ := checked_returned ends
      obtain ⟨_, _, inspected, ends⟩ := bind_returned.mp ends
      obtain ⟨chosen_eq, rfl⟩ := pure_returned.mp ends
      obtain rfl : chosen = found := by simpa using chosen_eq
      obtain ⟨proven, grown⟩ := inspect_returned inspected
      obtain ⟨answered, -⟩ := api_returned (wrapping_returned polled)
      exact ⟨⟨state, answered.later grown, ensure_eq_ok.mp same⟩, proven⟩
    · rw [if_neg done] at ends
      obtain ⟨same, -⟩ := pure_returned.mp ends
      simp at same

theorem wait_returned {deadline : Int} {pollSeconds fuel : Nat}
    {selected : Json}
    (ends : wait forge py repo sha wf ids deadline pollSeconds fuel selected
      before = (.ok (), after)) :
    ∃ id, Exact after sha id ∧ Proven py after repo sha wf id := by
  induction fuel generalizing selected before with
  | zero => cases ends
  | succ fuel ih =>
      obtain ⟨now, _, -, ends⟩ := bind_returned.mp ends
      by_cases early : now < deadline
      · rw [if_pos early] at ends
        obtain ⟨⟨chosen, proven⟩, _, polled, ends⟩ := bind_returned.mp ends
        cases proven with
        | true =>
            obtain ⟨-, rfl⟩ := pure_returned.mp ends
            exact ⟨chosen, poll_returned polled⟩
        | false =>
            obtain ⟨_, _, -, ends⟩ := bind_returned.mp ends
            exact ih ends
      · rw [if_neg early] at ends
        cases ends

theorem await_returned {timeoutSeconds pollSeconds fuel : Nat}
    {selected : Json}
    (ends : await forge py repo sha wf ids timeoutSeconds pollSeconds fuel
      selected before = (.ok (), after)) :
    before <+: after ∧
      ∃ id, Exact after sha id ∧ Proven py after repo sha wf id := by
  have grown := grows (keeps_await (quiet_growth before)) ends
  obtain ⟨now, _, -, ends⟩ := bind_returned.mp ends
  exact ⟨grown, wait_returned ends⟩

theorem keeps_prefix_start (base : History) :
    Keeps (base <+: ·) (start forge py repo sha wf ids) := by
  refine keeps_bind (keeps_prefix_ask base _) ?_
  intro _
  refine keeps_bind (keeps_candidates (quiet_growth base)) ?_
  intro rows
  exact keeps_check _

end Waiting

/-! ### Starting a run -/

/-- The candidates for which a run was started, or may have been. -/
def dispatches (history : History) : List String :=
  history.filterMap fun exchange =>
    match exchange.call with
    | .dispatch sha => some sha
    | _ => none

theorem quiet_dispatches (started : List String) :
    Quiet forge (fun history => dispatches history = started) := by
  intro call quiet history same
  change dispatches (history ++ [_]) = started
  cases call with
  | dispatch sha => cases quiet
  | _ => simpa [dispatches] using same

theorem dispatches_ask (forge : Forge) (sha : String) (history : History) :
    dispatches (ask forge (.dispatch sha) history).2 =
      dispatches history ++ [sha] := by
  simp [ask, dispatches]

/-- A start makes one dispatch, however it ends. -/
theorem dispatches_start {repo sha : String} {wf : Members} {ids : List Int}
    {next : Json → Talk Unit} {history : History} {started : List String}
    (rest : ∀ selected, Keeps (fun later => dispatches later = started ++ [sha])
      (next selected)) (same : dispatches history = started) :
    dispatches ((start forge py repo sha wf ids >>= next) history).2 =
      started ++ [sha] := by
  unfold start
  rw [bind_bind]
  have dispatched := dispatches_ask forge sha history
  rw [same] at dispatched
  rcases bind_ends (ask forge (.dispatch sha)) _ history with
    ⟨answer, middle, ending, goes⟩ | stops
  · rw [goes]
    rw [ending] at dispatched
    refine keeps_bind (keeps_bind
      (keeps_candidates (quiet_dispatches _)) ?_) rest middle dispatched
    intro rows
    exact keeps_check _
  · rw [stops]
    exact dispatched

/-! ### The preflight -/

theorem dispatches_prepare (forge : Forge) (py : Language) (token : Bool)
    (repo sha : String) :
    dispatches (prepare forge py token repo sha []).2 = [] :=
  keeps_prepare (quiet_dispatches []) [] rfl

/-- Known from the exchanges before any run was started. -/
def KnownFirst (known : History → Prop) (history : History) : Prop :=
  ∃ early, early <+: history ∧ dispatches early = [] ∧ known early

/-- The workflow was seen with runs that let the candidate pass or wait. -/
def ListedClean (forge : Forge) (py : Language) (repo sha : String)
    (wf : Members) (history : History) : Prop :=
  ∃ rows, Listed forge py history repo sha wf rows ∧
    Clean py history repo sha wf rows

/-- The workflow was seen with no run that proves the candidate or will. -/
def ListedExpired (forge : Forge) (py : Language) (repo sha : String)
    (wf : Members) (history : History) : Prop :=
  ∃ rows, Listed forge py history repo sha wf rows ∧
    Expired py history repo sha wf rows

/-- Whatever the forge does and however the preflight ends, it starts a run at
most once, of the candidate, and only if it has seen before that every exact
run has finished well and lost its evidence. -/
theorem dispatches_once (forge : Forge) (py : Language) (token : Bool)
    (repo sha : String) (timeoutSeconds pollSeconds fuel : Nat) :
    let last := (verifyLive forge py token repo sha timeoutSeconds pollSeconds
      fuel []).2
    dispatches last = [] ∨
      (dispatches last = [sha] ∧ ∃ wf,
        KnownFirst (ListedExpired forge py repo sha wf) last) := by
  have quiet := dispatches_prepare forge py token repo sha
  unfold verifyLive
  rcases bind_ends (prepare forge py token repo sha) _ [] with
    ⟨⟨wf, ids, plan⟩, early, prepared, goes⟩ | stops
  · rw [goes]
    rw [prepared] at quiet
    have known := prepare_returned prepared
    cases plan with
    | proven => exact .inl quiet
    | join id => exact .inl (keeps_await (quiet_dispatches []) early quiet)
    | start =>
        have keeps : Keeps (early <+: ·)
            (start forge py repo sha wf ids >>= fun selected =>
              await forge py repo sha wf ids timeoutSeconds pollSeconds fuel
                selected) :=
          keeps_bind (keeps_prefix_start early)
            (fun selected => keeps_await (quiet_growth early))
        exact .inr ⟨dispatches_start
          (fun selected => keeps_await (quiet_dispatches _)) quiet,
          wf, early, keeps early (List.prefix_refl early), quiet, known⟩
  · rw [stops]
    exact .inl quiet

/-- The runs that were seen let the candidate pass: those of a listing from
before any start are clean, and a run of exactly this candidate is proven. -/
def Passed (forge : Forge) (py : Language) (history : History)
    (repo sha : String) : Prop :=
  ∃ wf, KnownFirst (ListedClean forge py repo sha wf) history ∧
    ∃ id, Exact history sha id ∧ Proven py history repo sha wf id

theorem Expired.clean {history : History} {repo sha : String} {wf : Members}
    {rows : List Members} (seen : Expired py history repo sha wf rows) :
    Clean py history repo sha wf rows := by
  intro row listed same
  obtain ⟨first, -, good, lost⟩ := seen row listed same
  exact ⟨first, fun _ => ⟨good, .inr lost⟩⟩

/-- A preflight that returns has seen everything that a release asks for. -/
theorem verifyLive_sound (forge : Forge) (py : Language) (token : Bool)
    (repo sha : String) (timeoutSeconds pollSeconds fuel : Nat)
    (last : History)
    (ends : verifyLive forge py token repo sha timeoutSeconds pollSeconds fuel
      [] = (.ok (), last)) : Passed forge py last repo sha := by
  obtain ⟨⟨wf, ids, plan⟩, early, prepared, ends⟩ := bind_returned.mp ends
  have known := prepare_returned prepared
  have quiet := dispatches_prepare forge py token repo sha
  rw [prepared] at quiet
  cases plan with
  | proven =>
      obtain ⟨-, rfl⟩ := pure_returned.mp ends
      obtain ⟨rows, listed, clean, row, -, id, -, same, proven⟩ := known
      exact ⟨wf, ⟨last, List.prefix_refl _, quiet, rows, listed, clean⟩,
        id, same, proven⟩
  | join id =>
      obtain ⟨grown, proven⟩ := await_returned ends
      exact ⟨wf, ⟨early, grown, quiet, known⟩, proven⟩
  | start =>
      obtain ⟨selected, started, begun, ends⟩ := bind_returned.mp ends
      have grownStart := grows (keeps_prefix_start early) begun
      obtain ⟨grown, proven⟩ := await_returned ends
      obtain ⟨rows, listed, expired⟩ := known
      exact ⟨wf, ⟨early, grownStart.trans grown, quiet, rows, listed,
        expired.clean⟩, proven⟩

/-! ### A proven candidate -/

def candidateSha : String := "aaaaaaaaaaaaaaaaaaaaaaaaaaaaaaaaaaaaaaaa"
def mainSha : String := "bbbbbbbbbbbbbbbbbbbbbbbbbbbbbbbbbbbbbbbb"
def treeSha : String := "cccccccccccccccccccccccccccccccccccccccc"

def repository : String := "owner/repo"

def provenRun : Members :=
  [("id", .integer 7), ("workflow_id", .integer 42),
    ("path", .string workflowPath), ("event", .string "workflow_dispatch"),
    ("head_repository", .object [("full_name", .string repository)]),
    ("head_branch", .string "main"), ("head_sha", .string mainSha),
    ("display_title", .string ("CodeQL source " ++ candidateSha)),
    ("status", .string "completed"), ("conclusion", .string "success"),
    ("run_attempt", .integer 1),
    ("created_at", .string "2026-10-15T00:00:00Z")]

def provenJobs : Members :=
  [("total_count", .integer 4),
    ("jobs", .array (expectedJobs.map fun name =>
      .object [("name", .string name), ("status", .string "completed"),
        ("conclusion", .string "success")]))]

def provenArtifacts : Members :=
  [("total_count", .integer 8),
    ("artifacts", .array ((expectedArtifacts candidateSha).map fun name =>
      .object [("name", .string name), ("id", .integer 1),
        ("size_in_bytes", .integer 100), ("expired", .bool false),
        ("workflow_run", .object [("head_sha", .string mainSha)])]))]

def provenManifest (artifact : String) : Members :=
  match languages.find? (fun language =>
    artifact = "codeql-source-" ++ candidateSha ++ "-" ++ language) with
  | some language =>
      expectedManifest repository provenRun candidateSha treeSha language
  | none => []

/-- A forge with one finished run that proves the candidate. -/
def provenForge : Forge
  | .api .mainRef, _ =>
      .ok (Json.object [("object", .object [("sha", .string mainSha)])])
  | .api (.compare sha _), _ =>
      .ok (Json.object [("status", .string "ahead"),
        ("base_commit", .object [("sha", .string sha)]),
        ("merge_base_commit", .object [("sha", .string sha)])])
  | .api .workflow, _ =>
      .ok (Json.object [("id", .integer 42), ("path", .string workflowPath),
        ("state", .string "active")])
  | .api (.runs event _), _ =>
      .ok (Json.object [("workflow_runs", .array
        (if event = "schedule" then [] else [.object provenRun]))])
  | .api (.run _), _ => .ok (Json.object provenRun)
  | .api (.jobs _), _ => .ok (Json.object provenJobs)
  | .api (.artifacts _), _ => .ok (Json.object provenArtifacts)
  | .api (.commit sha), _ =>
      .ok (Json.object [("sha", .string sha),
        ("tree", .object [("sha", .string treeSha)])])
  | .dispatch _, _ => .ok ()
  | .download _ artifact, _ => .ok [.ok (Json.object (provenManifest artifact))]
  | .verdict _ _ _, _ => .ok ()
  | .utcNow, _ => .ok (1792022400000001 : Int)
  | .monotonic, _ => .ok (0 : Int)
  | .sleep _, _ => .ok ()

def plainLanguage : Language :=
  { floatIs := fun _ _ => false
    floatsAgree := fun left right => left = right
    floatLess := fun _ _ => false
    show_ := fun _ => "7"
    instant := fun _ => some (true, 1792022400000000) }

theorem isOk_unit {outcome : Outcome Failure Unit}
    (returned : outcome.isOk = true) : outcome = .ok () := by
  cases outcome with
  | ok value => rfl
  | error failure => cases returned
  | killed => cases returned

theorem verifyLive_proven :
    verifyLive provenForge plainLanguage true repository candidateSha 4200 15 1
      [] = (.ok (), (verifyLive provenForge plainLanguage true repository
        candidateSha 4200 15 1 []).2) := by
  have returned : (verifyLive provenForge plainLanguage true repository
      candidateSha 4200 15 1 []).1.isOk = true := by decide +kernel
  exact Prod.ext (isOk_unit returned) rfl

/-- The preflight of this candidate passes. -/
theorem verifyLive_sound_proven :
    Passed provenForge plainLanguage
      (verifyLive provenForge plainLanguage true repository candidateSha 4200
        15 1 []).2 repository candidateSha :=
  verifyLive_sound provenForge plainLanguage true repository candidateSha 4200
    15 1 _ verifyLive_proven

end ReleasePreflight
