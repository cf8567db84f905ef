/-
What the release preflight has seen of one run when it has inspected it.

A program is followed by the exchanges that it adds.  What was seen stays seen,
so each part reports the answers that it stands on.
-/

import OxideWorkloads.Ci.ReleasePreflightKeeps

namespace ReleasePreflight

open Foundation
open Foundation.Checks
open Foundation.CrashRun
open Registry (Members at_ get?)

variable {forge : Forge} {py : Language}

/-! ### What the calls leave behind -/

/-- The call was made and answered so. -/
def Answered (history : History) (call : Call) (value : call.Answer) : Prop :=
  ({ call, outcome := .ok value } : Exchange) ∈ history

theorem Answered.later {before after : History} {call : Call}
    {value : call.Answer} (answered : Answered before call value)
    (grown : before <+: after) : Answered after call value :=
  grown.subset answered

/-- Every call adds to the history. -/
theorem keeps_prefix_ask (base : History) (call : Call) :
    Keeps (base <+: ·) (ask forge call) := by
  intro history grown
  exact grown.trans (List.prefix_append history _)

theorem quiet_growth (base : History) : Quiet forge (base <+: ·) :=
  fun call _ => keeps_prefix_ask base call

theorem grows {α : Type} {program : Talk α} {before after : History}
    {outcome : Outcome Failure α} (keeps : Keeps (before <+: ·) program)
    (ends : program before = (outcome, after)) : before <+: after := by
  have grown := keeps before (List.prefix_refl before)
  rwa [ends] at grown

theorem ask_returned {call : Call} {value : call.Answer}
    {before after : History} (ends : ask forge call before = (.ok value, after)) :
    Answered after call value ∧ before <+: after := by
  have grown := grows (keeps_prefix_ask before call) ends
  injection ends with answer growth
  rw [← growth, answer]
  exact ⟨by simp [Answered], List.prefix_append before _⟩

theorem check_returned {α : Type} {result : Except Failure α} {value : α}
    {before after : History} (ends : check result before = (.ok value, after)) :
    result = .ok value ∧ before = after := by
  obtain ⟨passed, same⟩ := ofExcept_returned.mp ends
  exact ⟨passed, same.symm⟩

/-- Behind a check that passes, the program goes on where it was. -/
theorem checked_returned {α β : Type} {result : Except Failure α}
    {next : α → Talk β} {value : β} {before after : History}
    (ends : (check result >>= next) before = (.ok value, after)) :
    ∃ middle, result = .ok middle ∧
      next middle before = (.ok value, after) := by
  obtain ⟨middle, last, checked, ends⟩ := bind_returned.mp ends
  obtain ⟨passed, rfl⟩ := check_returned checked
  exact ⟨middle, passed, ends⟩

theorem objectAt_eq_ok {name : String} {value : Json} {document : Members}
    (accepted : objectAt name value = .ok document) :
    value = .object document := by
  cases value <;> simp_all [objectAt]

theorem api_returned {path : Path} {document : Members}
    {before after : History}
    (ends : api forge py path before = (.ok document, after)) :
    Answered after (.api path) (Json.object document) ∧
      before <+: after := by
  obtain ⟨value, middle, asked, ends⟩ := bind_returned.mp ends
  obtain ⟨accepted, rfl⟩ := check_returned ends
  obtain ⟨answered, grown⟩ := ask_returned asked
  rw [objectAt_eq_ok accepted] at answered
  exact ⟨answered, grown⟩

/-! ### Evidence -/

/-- The main branch was seen to hold the candidate. -/
def Reachable (history : History) (sha : String) : Prop :=
  ∃ ref found main compare,
    Answered history (.api .mainRef) (Json.object ref) ∧
    below ref "object" "sha" = .ok found ∧ isSha found = some main ∧
    Answered history (.api (.compare sha main)) (Json.object compare) ∧
    reachable compare sha = .ok ()

/-- The commit was seen to have this tree. -/
def TreeOf (history : History) (sha candidateTree : String) : Prop :=
  ∃ commit found,
    Answered history (.api (.commit sha)) (Json.object commit) ∧
    below commit "tree" "sha" = .ok found ∧
    isText sha (at_ commit "sha") = true ∧
    isSha found = some candidateTree

/-- The run was seen to be finished, trusted and complete but for its
artifacts. -/
structure Finished (py : Language) (history : History) (repo sha : String)
    (wf run : Members) (id : Json) (complete : Bool) : Prop where
  answered : Answered history (.api (.run id)) (Json.object run)
  trusted : checkRun py repo wf run = .ok ()
  created : ∃ instant now, createdAt py run = .ok instant ∧
    Answered history .utcNow now ∧ instant ≤ now
  jobs : ∃ jobs, Answered history (.api (.jobs id)) (Json.object jobs) ∧
    checkJobs py jobs = .ok ()
  artifacts : ∃ artifacts,
    Answered history (.api (.artifacts id)) (Json.object artifacts) ∧
    checkArtifacts py sha run artifacts = .ok complete

/-- The findings of one language passed, and so did their source. -/
def LanguageProven (py : Language) (history : History) (repo sha : String)
    (run : Members) (id : Json) (candidateTree language : String) : Prop :=
  Answered history (.verdict id language sha) () ∧
    ∃ files,
      Answered history
        (.download id ("codeql-source-" ++ sha ++ "-" ++ language)) files ∧
      manifest py files repo run sha candidateTree language = .ok ()

/-- The run was seen to prove the candidate. -/
def Proven (py : Language) (history : History) (repo sha : String)
    (wf : Members) (id : Json) : Prop :=
  ∃ run candidateTree, Finished py history repo sha wf run id true ∧
    TreeOf history sha candidateTree ∧
    (∀ language ∈ languages,
      LanguageProven py history repo sha run id candidateTree language) ∧
    Reachable history sha

/-- The run scans exactly the candidate, as it was seen. -/
def Exact (history : History) (sha : String) (id : Json) : Prop :=
  ∃ run, Answered history (.api (.run id)) (Json.object run) ∧
    exact run sha = true

/-- The run is as it should be, but its evidence is lost. -/
def Lost (py : Language) (history : History) (repo sha : String)
    (wf : Members) (id : Json) : Prop :=
  ∃ run, Finished py history repo sha wf run id false ∧
    exact run sha = true

section Later

variable {before after : History} {repo sha : String} {wf run : Members}
  {id : Json} {complete : Bool}

theorem Reachable.later (seen : Reachable before sha)
    (grown : before <+: after) : Reachable after sha := by
  obtain ⟨ref, found, main, compare, first, named, main_eq, second, passed⟩ :=
    seen
  exact ⟨ref, found, main, compare, first.later grown, named, main_eq,
    second.later grown, passed⟩

theorem TreeOf.later {candidateTree : String}
    (seen : TreeOf before sha candidateTree) (grown : before <+: after) :
    TreeOf after sha candidateTree := by
  obtain ⟨commit, found, answered, named, same, isTree⟩ := seen
  exact ⟨commit, found, answered.later grown, named, same, isTree⟩

theorem Finished.later (seen : Finished py before repo sha wf run id complete)
    (grown : before <+: after) :
    Finished py after repo sha wf run id complete := by
  obtain ⟨instant, now, parsed, clock, past⟩ := seen.created
  obtain ⟨jobs, listed, passed⟩ := seen.jobs
  obtain ⟨artifacts, found, checked⟩ := seen.artifacts
  exact
    { answered := seen.answered.later grown
      trusted := seen.trusted
      created := ⟨instant, now, parsed, clock.later grown, past⟩
      jobs := ⟨jobs, listed.later grown, passed⟩
      artifacts := ⟨artifacts, found.later grown, checked⟩ }

theorem LanguageProven.later {candidateTree language : String}
    (seen : LanguageProven py before repo sha run id candidateTree language)
    (grown : before <+: after) :
    LanguageProven py after repo sha run id candidateTree language := by
  obtain ⟨verdict, files, downloaded, checked⟩ := seen
  exact ⟨verdict.later grown, files, downloaded.later grown, checked⟩

theorem Proven.later (seen : Proven py before repo sha wf id)
    (grown : before <+: after) : Proven py after repo sha wf id := by
  obtain ⟨run, candidateTree, finished, isTree, each, reached⟩ := seen
  exact ⟨run, candidateTree, finished.later grown, isTree.later grown,
    fun language member => (each language member).later grown,
    reached.later grown⟩

end Later

/-! ### What the parts have seen when they return -/

section Returned

variable {before after : History} {repo sha : String} {wf : Members}
  {id : Json}

theorem ancestry_returned {main : String}
    (ends : ancestry forge py repo sha before = (.ok main, after)) :
    Reachable after sha ∧ before <+: after := by
  have grown := grows (keeps_ancestry (quiet_growth before) _ _) ends
  obtain ⟨_, -, ends⟩ := checked_returned ends
  obtain ⟨ref, middle, gotRef, ends⟩ := bind_returned.mp ends
  obtain ⟨found, named, ends⟩ := checked_returned ends
  obtain ⟨other, isMain, ends⟩ := checked_returned ends
  obtain ⟨compare, later, compared, ends⟩ := bind_returned.mp ends
  obtain ⟨_, passed, ends⟩ := checked_returned ends
  obtain ⟨-, rfl⟩ := pure_returned.mp ends
  obtain ⟨answeredRef, -⟩ := api_returned gotRef
  obtain ⟨answeredCompare, grownCompare⟩ := api_returned compared
  exact ⟨⟨ref, found, other, compare, answeredRef.later grownCompare, named,
    require_eq_ok.mp isMain, answeredCompare, passed⟩, grown⟩

theorem tree_returned {candidateTree : String}
    (ends : tree forge py sha before = (.ok candidateTree, after)) :
    TreeOf after sha candidateTree ∧ before <+: after := by
  have grown := grows (keeps_tree (quiet_growth before) _) ends
  obtain ⟨commit, middle, got, ends⟩ := bind_returned.mp ends
  obtain ⟨found, named, ends⟩ := checked_returned ends
  obtain ⟨_, same, ends⟩ := checked_returned ends
  obtain ⟨isTree, rfl⟩ := check_returned ends
  exact ⟨⟨commit, found, (api_returned got).1, named, ensure_eq_ok.mp same,
    require_eq_ok.mp isTree⟩, grown⟩

/-- The documents of a run, read one after the other, pass the checks. -/
theorem metadata_returned {run jobs artifacts : Members}
    {allowMissing complete : Bool}
    (gotRun : Answered before (.api (.run id)) (Json.object run))
    (gotJobs : Answered before (.api (.jobs id)) (Json.object jobs))
    (gotArtifacts :
      Answered before (.api (.artifacts id)) (Json.object artifacts))
    (ends : metadata forge py repo sha wf run jobs artifacts allowMissing
      before = (.ok complete, after)) :
    Finished py after repo sha wf run id complete ∧ before <+: after ∧
      (allowMissing = false → complete = true) := by
  have grown := grows (keeps_metadata (quiet_growth before)) ends
  obtain ⟨_, trusted, ends⟩ := checked_returned ends
  obtain ⟨instant, created, ends⟩ := checked_returned ends
  obtain ⟨now, later, asked, ends⟩ := bind_returned.mp ends
  obtain ⟨_, past, ends⟩ := checked_returned ends
  obtain ⟨_, passed, ends⟩ := checked_returned ends
  obtain ⟨found, checked, ends⟩ := checked_returned ends
  have outcome : complete = found ∧ after = later ∧
      (allowMissing = false → complete = true) := by
    cases found with
    | true =>
        obtain ⟨rfl, rfl⟩ := pure_returned.mp ends
        exact ⟨rfl, rfl, fun _ => rfl⟩
    | false =>
        cases allowMissing with
        | true =>
            obtain ⟨rfl, rfl⟩ := pure_returned.mp ends
            exact ⟨rfl, rfl, by simp⟩
        | false => cases ends
  obtain ⟨rfl, rfl, whole⟩ := outcome
  exact ⟨
    { answered := gotRun.later grown
      trusted := trusted
      created := ⟨instant, now, created, (ask_returned asked).1,
        ensure_eq_ok.mp past⟩
      jobs := ⟨jobs, gotJobs.later grown, passed⟩
      artifacts := ⟨artifacts, gotArtifacts.later grown, checked⟩ },
    grown, whole⟩

theorem evidenceAvailable_returned {complete : Bool}
    (ends : evidenceAvailable forge py repo sha wf id before =
      (.ok complete, after)) :
    ∃ run, Finished py after repo sha wf run id complete ∧
      exact run sha = true ∧ before <+: after := by
  obtain ⟨run, first, gotRun, ends⟩ := bind_returned.mp ends
  obtain ⟨_, same, ends⟩ := checked_returned ends
  obtain ⟨jobs, second, gotJobs, ends⟩ := bind_returned.mp ends
  obtain ⟨artifacts, third, gotArtifacts, ends⟩ := bind_returned.mp ends
  obtain ⟨run_seen, grownRun⟩ := api_returned gotRun
  obtain ⟨jobs_seen, grownJobs⟩ := api_returned gotJobs
  obtain ⟨artifacts_seen, grownArtifacts⟩ := api_returned gotArtifacts
  obtain ⟨finished, grown, -⟩ := metadata_returned
    (run_seen.later (grownJobs.trans grownArtifacts))
    (jobs_seen.later grownArtifacts) artifacts_seen ends
  exact ⟨run, finished, ensure_eq_ok.mp same,
    grownRun.trans (grownJobs.trans (grownArtifacts.trans grown))⟩

theorem inspectLanguage_returned {run : Members}
    {candidateTree language : String}
    (ends : inspectLanguage forge py repo sha id run candidateTree language
      before = (.ok (), after)) :
    LanguageProven py after repo sha run id candidateTree language ∧
      before <+: after := by
  have grown := grows (keeps_inspectLanguage (quiet_growth before)) ends
  obtain ⟨_, first, -, ends⟩ := bind_returned.mp ends
  obtain ⟨_, second, judged, ends⟩ := bind_returned.mp ends
  obtain ⟨files, third, downloaded, ends⟩ := bind_returned.mp ends
  obtain ⟨checked, rfl⟩ := check_returned ends
  obtain ⟨files_seen, grownFiles⟩ := ask_returned downloaded
  exact ⟨⟨(ask_returned judged).1.later grownFiles, files, files_seen,
    checked⟩, grown⟩

theorem inspectLanguages_returned {run : Members} {candidateTree : String}
    {values : List String}
    (ends : CrashRun.forEach
      (inspectLanguage forge py repo sha id run candidateTree) values before =
        (.ok (), after)) :
    (∀ language ∈ values,
      LanguageProven py after repo sha run id candidateTree language) ∧
      before <+: after := by
  induction values generalizing before with
  | nil =>
      obtain ⟨-, rfl⟩ := pure_returned.mp ends
      exact ⟨by simp, List.prefix_refl _⟩
  | cons language rest ih =>
      obtain ⟨_, middle, one, ends⟩ := bind_returned.mp ends
      obtain ⟨proven, grown⟩ := inspectLanguage_returned one
      obtain ⟨others, grownRest⟩ := ih ends
      refine ⟨?_, grown.trans grownRest⟩
      intro other member
      rcases List.mem_cons.mp member with rfl | member
      · exact proven.later grownRest
      · exact others other member

theorem inspect_returned
    (ends : inspect forge py repo sha wf id before = (.ok (), after)) :
    Proven py after repo sha wf id ∧ before <+: after := by
  have grown := grows (keeps_inspect (quiet_growth before)) ends
  obtain ⟨run, first, gotRun, ends⟩ := bind_returned.mp ends
  obtain ⟨jobs, second, gotJobs, ends⟩ := bind_returned.mp ends
  obtain ⟨artifacts, third, gotArtifacts, ends⟩ := bind_returned.mp ends
  obtain ⟨complete, fourth, checked, ends⟩ := bind_returned.mp ends
  obtain ⟨candidateTree, fifth, gotTree, ends⟩ := bind_returned.mp ends
  obtain ⟨_, sixth, each, ends⟩ := bind_returned.mp ends
  obtain ⟨main, seventh, confirmed, ends⟩ := bind_returned.mp ends
  obtain ⟨-, rfl⟩ := pure_returned.mp ends
  obtain ⟨run_seen, -⟩ := api_returned gotRun
  obtain ⟨jobs_seen, grownJobs⟩ := api_returned gotJobs
  obtain ⟨artifacts_seen, grownArtifacts⟩ := api_returned gotArtifacts
  obtain ⟨finished, -, whole⟩ := metadata_returned
    (run_seen.later (grownJobs.trans grownArtifacts))
    (jobs_seen.later grownArtifacts) artifacts_seen checked
  rw [whole rfl] at finished
  obtain ⟨isTree, grownTree⟩ := tree_returned gotTree
  obtain ⟨proven, grownEach⟩ := inspectLanguages_returned each
  obtain ⟨reached, grownMain⟩ := ancestry_returned confirmed
  exact ⟨⟨run, candidateTree,
    finished.later (grownTree.trans (grownEach.trans grownMain)),
    isTree.later (grownEach.trans grownMain),
    fun language member => (proven language member).later grownMain,
    reached⟩, grown⟩

end Returned

end ReleasePreflight
