/-
The aggregate verdict is good exactly for a complete set of good results.

No check makes a failed verdict good again, so a verdict is good when all of
its checks hold; together they say that the results and the expected shards
correspond one to one.
-/

import Mathlib.Data.List.OfFn
import Mathlib.Data.List.FinRange
import Mathlib.Data.List.Perm.Basic
import Mathlib.Data.Set.Function
import OxideWorkloads.Ci.AggregateVerdict

namespace Aggregate

open Foundation

/-! ### Verdicts -/

theorem check_ok (verdict : Verdict) (holds : Bool) (reason : String) :
    (verdict.check holds reason).ok = (verdict.ok && holds) := by
  cases holds with
  | true => exact (Bool.and_true verdict.ok).symm
  | false => exact (Bool.and_false verdict.ok).symm

/-- A loop of checks is good when each of them is. -/
theorem foldl_ok {α : Type} {step : Verdict → α → Verdict} (good : α → Bool)
    (each : ∀ verdict entry,
      (step verdict entry).ok = (verdict.ok && good entry))
    (verdict : Verdict) (entries : List α) :
    (entries.foldl step verdict).ok = (verdict.ok && entries.all good) := by
  induction entries generalizing verdict with
  | nil => exact (Bool.and_true verdict.ok).symm
  | cons entry rest ih =>
      rw [List.foldl_cons, ih, each, List.all_cons, Bool.and_assoc]

theorem fails_ok (verdict : Verdict) (errors : List String) :
    (errors.foldl (fun verdict error =>
      verdict.fail s!"malformed result: {error}") verdict).ok =
      (verdict.ok && errors.isEmpty) := by
  have each : ∀ (verdict : Verdict) (error : String),
      (verdict.fail s!"malformed result: {error}").ok =
        (verdict.ok && false) :=
    fun verdict _ => (Bool.and_false verdict.ok).symm
  rw [foldl_ok (fun _ => false) each]
  cases errors with
  | nil => rfl
  | cons error rest => rfl

section Names

variable {β : Type}

theorem mem_sortByName {entries : List (String × β)} {entry : String × β} :
    entry ∈ sortByName entries ↔ entry ∈ entries :=
  List.mem_mergeSort

end Names

/-! ### The expected shards -/

section Listing

variable (repr : String → String)

theorem listed_keys (expected : List ExpectedShard)
    (state : Verdict × Dict String ExpectedShard) (name : String) :
    name ∈ (expected.foldl (listExpected repr) state).2.keys ↔
      name ∈ state.2.keys ∨ ∃ entry ∈ expected, entry.name = name := by
  induction expected generalizing state with
  | nil =>
      constructor
      · exact Or.inl
      · rintro (before | ⟨entry, member, _⟩)
        · exact before
        · cases member
  | cons entry rest ih =>
      rw [List.foldl_cons, ih, listExpected, Dict.mem_keys_set,
        List.exists_mem_cons_iff]
      tauto

theorem listed_ok (expected : List ExpectedShard)
    (state : Verdict × Dict String ExpectedShard) :
    (expected.foldl (listExpected repr) state).1.ok = true ↔
      state.1.ok = true ∧ (expected.map ExpectedShard.name).Nodup ∧
        ∀ entry ∈ expected, entry.name ∉ state.2.keys := by
  induction expected generalizing state with
  | nil =>
      constructor
      · intro good
        refine ⟨good, List.nodup_nil, ?_⟩
        intro entry member
        cases member
      · exact And.left
  | cons entry rest ih =>
      rw [List.foldl_cons, ih, List.map_cons, List.nodup_cons,
        List.forall_mem_cons]
      simp only [listExpected, check_ok, Bool.and_eq_true, decide_eq_true_eq,
        Dict.mem_keys_set, not_or, List.mem_map, not_exists, not_and]
      constructor
      · rintro ⟨⟨good, new⟩, distinct, later⟩
        refine ⟨good, ⟨?_, distinct⟩, new, fun other behind =>
          (later other behind).2⟩
        intro other behind same
        exact (later other behind).1 same.symm
      · rintro ⟨good, ⟨unlike, distinct⟩, new, later⟩
        refine ⟨⟨good, new⟩, distinct, fun other behind => ⟨?_,
          later other behind⟩⟩
        intro same
        exact unlike other behind same.symm

theorem listed_other {name : String} {expected : List ExpectedShard}
    (absent : ∀ entry ∈ expected, entry.name ≠ name)
    (state : Verdict × Dict String ExpectedShard) :
    (expected.foldl (listExpected repr) state).2.get? name =
      state.2.get? name := by
  induction expected generalizing state with
  | nil => rfl
  | cons entry rest ih =>
      obtain ⟨here, later⟩ := List.forall_mem_cons.mp absent
      rw [List.foldl_cons, ih later, listExpected, Dict.get?_set, if_neg here]

theorem listed_own {expected : List ExpectedShard}
    (distinct : (expected.map ExpectedShard.name).Nodup)
    (state : Verdict × Dict String ExpectedShard) {entry : ExpectedShard}
    (member : entry ∈ expected) :
    (expected.foldl (listExpected repr) state).2.get? entry.name =
      some entry := by
  induction expected generalizing state with
  | nil => cases member
  | cons first rest ih =>
      rw [List.map_cons, List.nodup_cons] at distinct
      rw [List.foldl_cons]
      rcases List.mem_cons.mp member with same | later
      · have absent : ∀ other ∈ rest, other.name ≠ entry.name := by
          intro other behind equal
          apply distinct.1
          rw [← same, ← equal]
          exact List.mem_map_of_mem behind
        rw [listed_other repr absent, listExpected, Dict.get?_set,
          if_pos (congrArg ExpectedShard.name same.symm), same]
      · exact ih distinct.2 _ later

end Listing

/-! ### The results -/

theorem grouped_get (results : List ShardResult)
    (groups : Dict String (List ShardResult)) (name : String) :
    ((results.foldl (fun groups result => groups.set result.workload
      ((groups.get? result.workload).getD [] ++ [result])) groups).get?
        name).getD [] =
      (groups.get? name).getD [] ++
        results.filter (fun result => result.workload = name) := by
  induction results generalizing groups with
  | nil => exact (List.append_nil _).symm
  | cons result rest ih =>
      rw [List.foldl_cons, ih, Dict.get?_set, List.filter_cons]
      by_cases same : result.workload = name
      · rw [if_pos same, if_pos (decide_eq_true same), same,
          Option.getD_some, List.append_assoc, List.singleton_append]
      · rw [if_neg same, if_neg (by rw [decide_eq_true_eq]; exact same)]

theorem grouped_keys (results : List ShardResult)
    (groups : Dict String (List ShardResult)) (name : String) :
    name ∈ (results.foldl (fun groups result => groups.set result.workload
      ((groups.get? result.workload).getD [] ++ [result])) groups).keys ↔
      name ∈ groups.keys ∨ ∃ result ∈ results, result.workload = name := by
  induction results generalizing groups with
  | nil =>
      constructor
      · exact Or.inl
      · rintro (before | ⟨result, member, _⟩)
        · exact before
        · cases member
  | cons result rest ih =>
      rw [List.foldl_cons, ih, Dict.mem_keys_set, List.exists_mem_cons_iff]
      tauto

/-! ### The verdict -/

/-- The single result of a workload is good. -/
def goodShard (byWorkload : Dict String (List ShardResult))
    (shard : String × ExpectedShard) : Bool :=
  match (byWorkload.get? shard.1).getD [] with
  | [] => false
  | entry :: _ =>
      decide (entry.status = "success" ∧
        entry.outcome = shard.2.expectedOutcome)

theorem checkGroup_ok (repr : String → String)
    (expectedByName : Dict String ExpectedShard) (verdict : Verdict)
    (group : String × List ShardResult) :
    (checkGroup repr expectedByName verdict group).ok =
      (verdict.ok && decide (group.2.length ≤ 1 ∧
        group.1 ∈ expectedByName.keys)) := by
  rw [checkGroup, check_ok, check_ok, Bool.and_assoc, Bool.decide_and]

theorem checkShard_ok (repr : String → String)
    (byWorkload : Dict String (List ShardResult))
    (jobStatuses : List (String × String)) (verdict : Verdict)
    (shard : String × ExpectedShard) :
    (checkShard repr byWorkload jobStatuses verdict shard).ok =
      (verdict.ok && goodShard byWorkload shard) := by
  unfold checkShard goodShard
  cases (byWorkload.get? shard.1).getD [] with
  | nil => exact (Bool.and_false verdict.ok).symm
  | cons entry rest =>
      by_cases success : entry.status = "success"
      · simp only [success, ne_eq, not_true_eq_false, if_false, check_ok,
          true_and]
      · simp only [success, ne_eq, not_false_eq_true, if_true, false_and,
          decide_false, Bool.and_false]
        rfl

/-- The expected shards by name, after their loop. -/
def expectedByName (repr : String → String) (expected : List ExpectedShard)
    (verdict : Verdict) : Dict String ExpectedShard :=
  (expected.foldl (listExpected repr) (verdict, Dict.empty)).2

theorem empty_keys {β : Type} (name : String) :
    name ∉ (Dict.empty : Dict String β).keys :=
  List.not_mem_nil

/-- The results of one workload, as they are grouped. -/
theorem groupResults_get (results : List ShardResult) (name : String) :
    ((groupResults results).get? name).getD [] =
      results.filter (fun result => result.workload = name) :=
  grouped_get results Dict.empty name

theorem groupResults_keys (results : List ShardResult) (name : String) :
    name ∈ (groupResults results).keys ↔
      ∃ result ∈ results, result.workload = name :=
  (grouped_keys results Dict.empty name).trans
    (or_iff_right (empty_keys name))

theorem expectedByName_keys (repr : String → String)
    (expected : List ExpectedShard) (verdict : Verdict) (name : String) :
    name ∈ (expectedByName repr expected verdict).keys ↔
      ∃ entry ∈ expected, entry.name = name :=
  (listed_keys repr expected (verdict, Dict.empty) name).trans
    (or_iff_right (empty_keys name))

/-- No workload has more results than one, and each of them is expected. -/
theorem groups_good {repr : String → String} {expected : List ExpectedShard}
    {results : List ShardResult} {verdict : Verdict} :
    (sortByName (groupResults results).entries).all (fun group =>
        decide (group.2.length ≤ 1 ∧
          group.1 ∈ (expectedByName repr expected verdict).keys)) = true ↔
      ∀ result ∈ results,
        (results.filter (fun other =>
          other.workload = result.workload)).length ≤ 1 ∧
        ∃ entry ∈ expected, entry.name = result.workload := by
  rw [List.all_eq_true]
  constructor
  · intro good result member
    have key := (groupResults_keys results result.workload).mpr
      ⟨result, member, rfl⟩
    obtain ⟨group, taken⟩ := Option.isSome_iff_exists.mp
      (Dict.mem_keys_iff.mp key)
    have here := good (result.workload, group)
      (mem_sortByName.mpr (Dict.mem_entries_iff.mpr taken))
    rw [decide_eq_true_eq, expectedByName_keys] at here
    rw [← groupResults_get, taken]
    exact here
  · intro good group member
    obtain ⟨name, entries⟩ := group
    have taken := Dict.mem_entries_iff.mp (mem_sortByName.mp member)
    have key := Dict.mem_keys_iff.mpr (Option.isSome_of_eq_some taken)
    obtain ⟨result, inside, same⟩ := (groupResults_keys results name).mp key
    have here := good result inside
    rw [same, ← groupResults_get, taken] at here
    rw [decide_eq_true_eq, expectedByName_keys]
    exact here

theorem goodShard_iff {results : List ShardResult}
    {shard : String × ExpectedShard} :
    goodShard (groupResults results) shard = true ↔
      ∃ result rest,
        results.filter (fun other => other.workload = shard.1) =
          result :: rest ∧
        result.status = "success" ∧
        result.outcome = shard.2.expectedOutcome := by
  unfold goodShard
  rw [groupResults_get]
  cases results.filter (fun other => other.workload = shard.1) with
  | nil =>
      constructor
      · intro impossible
        cases impossible
      · rintro ⟨_, _, impossible, _⟩
        cases impossible
  | cons first others =>
      constructor
      · intro good
        exact ⟨first, others, rfl, of_decide_eq_true good⟩
      · rintro ⟨_, _, same, good⟩
        cases same
        exact decide_eq_true good

theorem mem_expectedByName {repr : String → String}
    {expected : List ExpectedShard}
    (distinct : (expected.map ExpectedShard.name).Nodup) {verdict : Verdict}
    {name : String} {entry : ExpectedShard} :
    (name, entry) ∈ (expectedByName repr expected verdict).entries ↔
      entry ∈ expected ∧ entry.name = name := by
  rw [Dict.mem_entries_iff]
  constructor
  · intro taken
    have key := Dict.mem_keys_iff.mpr (Option.isSome_of_eq_some taken)
    obtain ⟨other, member, same⟩ :=
      (expectedByName_keys repr expected verdict name).mp key
    have own := listed_own repr distinct (verdict, Dict.empty) member
    rw [same] at own
    have equal := Option.some.inj (own.symm.trans taken)
    rw [equal] at member same
    exact ⟨member, same⟩
  · rintro ⟨member, same⟩
    rw [← same]
    exact listed_own repr distinct (verdict, Dict.empty) member

/-- Each expected workload has a first result, and it is good. -/
theorem shards_good {repr : String → String} {expected : List ExpectedShard}
    {results : List ShardResult} {verdict : Verdict}
    (distinct : (expected.map ExpectedShard.name).Nodup) :
    (sortByName (expectedByName repr expected verdict).entries).all
        (goodShard (groupResults results)) = true ↔
      ∀ entry ∈ expected, ∃ result rest,
        results.filter (fun other => other.workload = entry.name) =
          result :: rest ∧
        result.status = "success" ∧
        result.outcome = entry.expectedOutcome := by
  rw [List.all_eq_true]
  constructor
  · intro good entry member
    apply goodShard_iff.mp (good (entry.name, entry) ?_)
    exact mem_sortByName.mpr ((mem_expectedByName distinct).mpr
      ⟨member, rfl⟩)
  · intro good shard member
    obtain ⟨name, entry⟩ := shard
    obtain ⟨inside, same⟩ :=
      (mem_expectedByName distinct).mp (mem_sortByName.mp member)
    rw [goodShard_iff, ← same]
    exact good entry inside

/-! ### The contract -/

/-- A complete set of good results: they correspond one to one to the expected
shards, and nothing else went wrong. -/
structure Complete (expected : List ExpectedShard)
    (results : List ShardResult) (upstream : Upstream) : Prop where
  discovery : upstream.discoveryOk = true
  job : upstream.upstreamJobOk = true
  parsed : upstream.parseErrors.getD [] = []
  nonempty : expected ≠ []
  distinct : (expected.map ExpectedShard.name).Nodup
  matched : Set.BijOn
    (fun index : Fin results.length => (results.get index).workload)
    Set.univ {name | ∃ entry ∈ expected, entry.name = name}
  successful : ∀ result ∈ results, result.status = "success"
  required : ∀ result ∈ results, ∀ entry ∈ expected,
    entry.name = result.workload → result.outcome = entry.expectedOutcome

theorem nodup_iff_filter (results : List ShardResult) :
    (results.map ShardResult.workload).Nodup ↔
      ∀ name, (results.filter (fun other =>
        other.workload = name)).length ≤ 1 := by
  rw [List.nodup_iff_count_le_one]
  apply forall_congr'
  intro name
  rw [List.count_eq_countP, List.countP_map, List.countP_eq_length_filter]
  rfl

theorem injective_iff (results : List ShardResult) :
    Set.InjOn (fun index : Fin results.length =>
        (results.get index).workload) Set.univ ↔
      (results.map ShardResult.workload).Nodup := by
  rw [Set.injOn_univ, ← List.nodup_ofFn, ← List.ofFn_getElem_eq_map]
  rfl

theorem image_eq (results : List ShardResult) :
    (fun index : Fin results.length => (results.get index).workload) ''
        Set.univ =
      {name | ∃ result ∈ results, result.workload = name} := by
  ext name
  constructor
  · rintro ⟨index, _, same⟩
    exact ⟨results.get index, List.get_mem results index, same⟩
  · rintro ⟨result, member, same⟩
    obtain ⟨index, here⟩ := List.get_of_mem member
    exact ⟨index, trivial, by rw [← same, ← here]⟩

/-- Each workload's only result is the one it has. -/
theorem filter_singleton {results : List ShardResult}
    (distinct : (results.map ShardResult.workload).Nodup)
    {result : ShardResult} (member : result ∈ results) :
    results.filter (fun other => other.workload = result.workload) =
      [result] := by
  have few := (nodup_iff_filter results).mp distinct result.workload
  have inside : result ∈ results.filter (fun other =>
      other.workload = result.workload) :=
    List.mem_filter.mpr ⟨member, decide_eq_true rfl⟩
  obtain ⟨only, here⟩ := List.length_eq_one_iff.mp
    (Nat.le_antisymm few (List.length_pos_of_mem inside))
  rw [here] at inside ⊢
  rw [List.mem_singleton.mp inside]

/-- The checks of the results hold when the results are matched, successful
and as required. -/
theorem checks_iff {expected : List ExpectedShard}
    {results : List ShardResult} :
    ((∀ result ∈ results,
        (results.filter (fun other =>
          other.workload = result.workload)).length ≤ 1 ∧
        ∃ entry ∈ expected, entry.name = result.workload) ∧
      ∀ entry ∈ expected, ∃ result rest,
        results.filter (fun other => other.workload = entry.name) =
          result :: rest ∧
        result.status = "success" ∧
        result.outcome = entry.expectedOutcome) ↔
      Set.BijOn
          (fun index : Fin results.length => (results.get index).workload)
          Set.univ {name | ∃ entry ∈ expected, entry.name = name} ∧
        (∀ result ∈ results, result.status = "success") ∧
        ∀ result ∈ results, ∀ entry ∈ expected,
          entry.name = result.workload →
            result.outcome = entry.expectedOutcome := by
  constructor
  · rintro ⟨groups, shards⟩
    have distinct : (results.map ShardResult.workload).Nodup := by
      rw [nodup_iff_filter]
      intro name
      cases group : results.filter (fun other => other.workload = name) with
      | nil => exact Nat.zero_le 1
      | cons first rest =>
          have member : first ∈ results.filter (fun other =>
              other.workload = name) := by
            rw [group]
            exact List.mem_cons_self
          obtain ⟨inside, same⟩ := List.mem_filter.mp member
          have few := (groups first inside).1
          rw [of_decide_eq_true same, group] at few
          exact few
    have own : ∀ result ∈ results, ∀ entry ∈ expected,
        entry.name = result.workload → result.status = "success" ∧
          result.outcome = entry.expectedOutcome := by
      intro result member entry inside same
      obtain ⟨first, rest, here, good⟩ := shards entry inside
      rw [same, filter_singleton distinct member] at here
      cases here
      exact good
    refine ⟨⟨?_, (injective_iff results).mpr distinct, ?_⟩, ?_, ?_⟩
    · intro index _
      exact (groups _ (List.get_mem results index)).2
    · rw [Set.SurjOn, image_eq]
      rintro name ⟨entry, inside, same⟩
      obtain ⟨first, rest, here, _⟩ := shards entry inside
      have member : first ∈ results.filter (fun other =>
          other.workload = entry.name) := by
        rw [here]
        exact List.mem_cons_self
      obtain ⟨present, equal⟩ := List.mem_filter.mp member
      exact ⟨first, present, (of_decide_eq_true equal).trans same⟩
    · intro result member
      obtain ⟨entry, inside, same⟩ := (groups result member).2
      exact (own result member entry inside same).1
    · intro result member entry inside same
      exact (own result member entry inside same).2
  · rintro ⟨⟨maps, injective, covers⟩, successful, required⟩
    have distinct := (injective_iff results).mp injective
    constructor
    · intro result member
      constructor
      · rw [filter_singleton distinct member]
        exact Nat.le_refl 1
      · obtain ⟨index, here⟩ := List.get_of_mem member
        rw [← here]
        exact maps (Set.mem_univ index)
    · intro entry inside
      rw [Set.SurjOn, image_eq] at covers
      obtain ⟨result, member, same⟩ := covers ⟨entry, inside, rfl⟩
      refine ⟨result, [], ?_, successful result member,
        required result member entry inside same.symm⟩
      rw [← same]
      exact filter_singleton distinct member

/-- All checks of a verdict hold, whatever was checked before them. -/
theorem all_checks_iff (repr : String → String)
    (expected : List ExpectedShard) (results : List ShardResult)
    (upstream : Upstream) (verdict : Verdict) :
    (((((expected.foldl (listExpected repr)
            (verdict, Dict.empty)).1.ok = true ∧
          (upstream.parseErrors.getD []).isEmpty = true) ∧
        (sortByName (groupResults results).entries).all (fun group =>
          decide (group.2.length ≤ 1 ∧
            group.1 ∈ (expectedByName repr expected verdict).keys)) =
              true) ∧
      (sortByName (expectedByName repr expected verdict).entries).all
        (goodShard (groupResults results)) = true) ∧
      upstream.upstreamJobOk = true) ↔
    verdict.ok = true ∧ upstream.upstreamJobOk = true ∧
      upstream.parseErrors.getD [] = [] ∧
      (expected.map ExpectedShard.name).Nodup ∧
      Set.BijOn
        (fun index : Fin results.length => (results.get index).workload)
        Set.univ {name | ∃ entry ∈ expected, entry.name = name} ∧
      (∀ result ∈ results, result.status = "success") ∧
      ∀ result ∈ results, ∀ entry ∈ expected,
        entry.name = result.workload →
          result.outcome = entry.expectedOutcome := by
  rw [listed_ok, List.isEmpty_iff, groups_good, ← checks_iff]
  constructor
  · rintro ⟨⟨⟨⟨⟨good, distinct, _⟩, parsed⟩, groups⟩, shards⟩, job⟩
    exact ⟨good, job, parsed, distinct, groups,
      (shards_good distinct).mp shards⟩
  · rintro ⟨good, job, parsed, distinct, groups, shards⟩
    exact ⟨⟨⟨⟨⟨good, distinct, fun _ _ => empty_keys _⟩, parsed⟩, groups⟩,
      (shards_good distinct).mpr shards⟩, job⟩

/-- A verdict is good exactly for a complete set of good results. -/
theorem computeVerdict_ok (repr : String → String)
    (expected : List ExpectedShard) (results : List ShardResult)
    (upstream : Upstream) :
    (computeVerdict repr expected results upstream).ok = true ↔
      Complete expected results upstream := by
  unfold computeVerdict
  simp only [check_ok, foldl_ok _ (checkShard_ok repr _ _),
    foldl_ok _ (checkGroup_ok repr _), fails_ok, Bool.and_eq_true]
  refine (all_checks_iff repr expected results upstream _).trans ?_
  rw [check_ok, check_ok, Bool.true_and, Bool.and_eq_true,
    decide_eq_true_eq]
  constructor
  · rintro ⟨⟨discovery, nonempty⟩, job, parsed, distinct, matched,
      successful, required⟩
    exact { discovery, job, parsed, nonempty, distinct, matched, successful,
            required }
  · intro complete
    exact ⟨⟨complete.discovery, complete.nonempty⟩, complete.job,
      complete.parsed, complete.distinct, complete.matched,
      complete.successful, complete.required⟩

/-! ### Order and additions -/

/-- The names of the results are those of the expected shards, once each. -/
theorem Complete.perm {expected : List ExpectedShard}
    {results : List ShardResult} {upstream : Upstream}
    (complete : Complete expected results upstream) :
    (results.map ShardResult.workload).Perm
      (expected.map ExpectedShard.name) := by
  have distinct := (injective_iff results).mp complete.matched.injOn
  have names := complete.matched.image_eq
  rw [image_eq] at names
  rw [List.perm_ext_iff_of_nodup distinct complete.distinct]
  intro name
  rw [List.mem_map, List.mem_map]
  exact Set.ext_iff.mp names name

/-- Neither the order of the lists nor the job statuses matter. -/
theorem Complete.reorder {expected expected' : List ExpectedShard}
    {results results' : List ShardResult} {upstream : Upstream}
    (shards : expected.Perm expected') (records : results.Perm results')
    (jobStatuses : Option (List (String × String)))
    (complete : Complete expected results upstream) :
    Complete expected' results' { upstream with jobStatuses } where
  discovery := complete.discovery
  job := complete.job
  parsed := complete.parsed
  nonempty := by
    intro empty
    rw [empty] at shards
    exact complete.nonempty (List.perm_nil.mp shards)
  distinct := (shards.map ExpectedShard.name).nodup_iff.mp complete.distinct
  matched := by
    have distinct := (injective_iff results).mp complete.matched.injOn
    have names := complete.matched.image_eq
    have same : {name | ∃ result ∈ results', result.workload = name} =
        {name | ∃ entry ∈ expected', entry.name = name} := by
      rw [image_eq] at names
      ext name
      have here := Set.ext_iff.mp names name
      constructor
      · rintro ⟨result, member, equal⟩
        obtain ⟨entry, inside, named⟩ :=
          here.mp ⟨result, records.mem_iff.mpr member, equal⟩
        exact ⟨entry, shards.mem_iff.mp inside, named⟩
      · rintro ⟨entry, inside, named⟩
        obtain ⟨result, member, equal⟩ :=
          here.mpr ⟨entry, shards.mem_iff.mpr inside, named⟩
        exact ⟨result, records.mem_iff.mp member, equal⟩
    rw [← same, ← image_eq]
    exact Set.InjOn.bijOn_image ((injective_iff results').mpr
      ((records.map ShardResult.workload).nodup_iff.mp distinct))
  successful := fun result member =>
    complete.successful result (records.mem_iff.mpr member)
  required := fun result member entry inside =>
    complete.required result (records.mem_iff.mpr member) entry
      (shards.mem_iff.mpr inside)

/-- The verdict is good exactly for a complete set of good results; it depends
neither on the order of the lists nor on the job statuses, and one more result
spoils a good verdict. -/
theorem computeVerdict_exact (repr : String → String)
    (expected : List ExpectedShard) (results : List ShardResult)
    (upstream : Upstream) :
    ((computeVerdict repr expected results upstream).ok = true ↔
      Complete expected results upstream) ∧
    (∀ expected' results' jobStatuses, expected.Perm expected' →
      results.Perm results' →
        (computeVerdict repr expected' results'
            { upstream with jobStatuses }).ok =
          (computeVerdict repr expected results upstream).ok) ∧
    ∀ result results' jobStatuses,
      (computeVerdict repr expected results upstream).ok = true →
        results'.Perm (result :: results) →
          (computeVerdict repr expected results'
            { upstream with jobStatuses }).ok = false := by
  have exact := computeVerdict_ok repr expected results upstream
  refine ⟨exact, ?_, ?_⟩
  · intro expected' results' jobStatuses shards records
    rw [Bool.eq_iff_iff, computeVerdict_ok, exact]
    constructor
    · intro complete
      exact complete.reorder shards.symm records.symm upstream.jobStatuses
    · exact Complete.reorder shards records jobStatuses
  · intro result results' jobStatuses good more
    rw [Bool.eq_false_iff]
    intro still
    have before := (exact.mp good).perm.length_eq
    have after := ((computeVerdict_ok repr expected results' _).mp
      still).perm.length_eq
    have longer := more.length_eq
    rw [List.length_map, List.length_map] at before after
    rw [List.length_cons] at longer
    omega

end Aggregate
