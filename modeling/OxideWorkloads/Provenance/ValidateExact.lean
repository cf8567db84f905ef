/-
What an accepted manifest and an accepted lockfile say together.

Every dependency that is visited is read, and the first-party ones among them
are collected under their exact versions; the lockfile is searched for each of
these.
-/

import OxideWorkloads.Provenance.Validate

namespace Provenance

open Foundation
open Foundation.Checks

variable {repr : Value → String}

/-! ### Declarations -/

/-- The dependencies of a manifest, table by table. -/
def dependencies (order : List String) (manifest : Document) :
    List (String × Value) :=
  (iterDependencyTables order manifest).flatMap Prod.snd

/-- A dependency names this package at exactly this version, and no other
place to take it from. -/
def DeclaresExactly (repr : Value → String) (entry : String × Value)
    (package version : String) : Prop :=
  isExactVersion ("=" ++ version) = true ∧
    ∃ detailed, dependencyPackage repr entry.1 entry.2 =
        .ok (package, some ("=" ++ version), detailed) ∧
      forbiddenFields detailed = []

/-- The manifest declares a first-party package at exactly this version. -/
def Declares (repr : Value → String) (manifest : Document)
    (package version : String) : Prop :=
  isFirstParty package = true ∧
    ∃ entry ∈ dependencies dependencyTables manifest,
      DeclaresExactly repr entry package version

/-- The manifest replaces the source of a package. -/
def Overrides (manifest : Document) (package : String) : Prop :=
  (∃ sections, table? manifest "patch" = some sections ∧
    ∃ registry ∈ sections, ∃ entries, registry.2 = .table entries ∧
      ∃ entry ∈ entries, patchedPackage entry.1 entry.2 = package) ∨
    ∃ entries, table? manifest "replace" = some entries ∧
      ∃ entry ∈ entries, replacedPackage entry.1 = package

/-- The subjects are the first-party packages of the dependencies that were
visited, each at one version. -/
structure Collected (repr : Value → String) (seen : List (String × Value))
    (subjects : List (String × String)) : Prop where
  functional : ∀ one ∈ subjects, ∀ other ∈ subjects, one.1 = other.1 →
    one.2 = other.2
  declared : ∀ subject ∈ subjects, isFirstParty subject.1 = true ∧
    ∃ entry ∈ seen, DeclaresExactly repr entry subject.1 subject.2
  covered : ∀ entry ∈ seen, ∃ package version detailed,
    dependencyPackage repr entry.1 entry.2 = .ok (package, version, detailed) ∧
      (isFirstParty package = true →
        ∃ exact, DeclaresExactly repr entry package exact ∧
          (package, exact) ∈ subjects)

theorem collected_nil : Collected repr [] [] := by
  constructor
  · intro one member
    cases member
  · intro one member
    cases member
  · intro entry member
    cases member

/-! ### The manifest -/

theorem afterEquals {version : String}
    (exact : isExactVersion version = true) :
    "=" ++ String.ofList (version.toList.drop 1) = version := by
  unfold isExactVersion at exact
  split at exact
  · rename_i rest chars
    apply String.toList_inj.mp
    simp only [chars, String.toList_append, String.toList_ofList,
      List.drop_succ_cons, List.drop_zero]
    rfl
  · cases exact

theorem mem_of_lookup {subjects : List (String × String)}
    {package version : String}
    (found : subjects.lookup package = some version) :
    (package, version) ∈ subjects := by
  induction subjects with
  | nil => cases found
  | cons first rest ih =>
      rw [List.lookup_cons] at found
      split at found
      · rename_i same
        cases found
        rw [beq_iff_eq.mp same]
        exact List.mem_cons_self
      · exact List.mem_cons_of_mem _ (ih found)

theorem lookup_isSome {subjects : List (String × String)}
    {subject : String × String} (member : subject ∈ subjects) :
    ∃ version, subjects.lookup subject.1 = some version := by
  induction subjects with
  | nil => cases member
  | cons first rest ih =>
      rw [List.lookup_cons]
      split
      · exact ⟨_, rfl⟩
      · rename_i different
        rcases List.mem_cons.mp member with here | later
        · rw [here, beq_self_eq_true] at different
          cases different
        · exact ih later

/-- A version that no other version conflicts with. -/
theorem mem_update {subjects : List (String × String)}
    {package version : String} {subject : String × String}
    (agrees : ∀ other ∈ subjects, other.1 = package → other.2 = version) :
    subject ∈ update subjects package version ↔
      subject ∈ subjects ∨ subject = (package, version) := by
  unfold update
  split
  · rename_i present
    obtain ⟨other, listed, same⟩ := List.any_eq_true.mp present
    have key := beq_iff_eq.mp same
    have there : (package, version) ∈ subjects := by
      have pair : other = (package, version) :=
        Prod.ext key (agrees other listed key)
      rw [← pair]
      exact listed
    have unchanged : subjects.map (fun entry =>
        if entry.1 = package then (package, version) else entry) =
          subjects := by
      conv => rhs; rw [← List.map_id subjects]
      apply List.map_congr_left
      intro entry here
      by_cases named : entry.1 = package
      · rw [if_pos named]
        exact (Prod.ext named (agrees entry here named)).symm
      · rw [if_neg named]
        rfl
    rw [unchanged]
    constructor
    · intro member
      exact Or.inl member
    · intro member
      rcases member with before | new
      · exact before
      · rw [new]
        exact there
  · rw [List.mem_append, List.mem_singleton]

theorem Collected.step {seen : List (String × Value)}
    {subjects after : List (String × String)} {entry : String × Value}
    {tableName : String} (collected : Collected repr seen subjects)
    (validated : validateDependency repr tableName subjects entry =
      .ok after) : Collected repr (seen ++ [entry]) after := by
  unfold validateDependency at validated
  rw [bind_eq_ok] at validated
  obtain ⟨⟨package, version, detailed⟩, reads, validated⟩ := validated
  dsimp only at validated
  have wider : ∀ {subject : String × String}, subject ∈ subjects →
      isFirstParty subject.1 = true ∧ ∃ other ∈ seen ++ [entry],
        DeclaresExactly repr other subject.1 subject.2 := by
    intro subject member
    obtain ⟨first, other, listed, declares⟩ := collected.declared subject member
    exact ⟨first, other, List.mem_append_left _ listed, declares⟩
  by_cases first : isFirstParty package = false
  · rw [if_pos first] at validated
    cases validated
    constructor
    · exact collected.functional
    · intro subject member
      exact wider member
    · intro other member
      rcases List.mem_append.mp member with before | here
      · exact collected.covered other before
      · rw [List.mem_singleton.mp here]
        refine ⟨package, version, detailed, reads, ?_⟩
        intro impossible
        rw [first] at impossible
        cases impossible
  · rw [if_neg first] at validated
    simp only [bind_eq_ok, ensure_eq_ok, require_eq_ok, exists_const,
      pure_eq_ok] at validated
    obtain ⟨noPlace, exact, given, exactForm, agrees, same⟩ := validated
    rw [given] at reads
    let resolved := String.ofList (exact.toList.drop 1)
    have whole : "=" ++ resolved = exact := afterEquals exactForm
    have one : ∀ other ∈ subjects, other.1 = package →
        other.2 = resolved := by
      intro other listed named
      obtain ⟨previous, found⟩ := lookup_isSome listed
      rw [named] at found
      have there := agrees previous found
      rw [collected.functional other listed _ (mem_of_lookup found) named]
      exact there
    have declares : DeclaresExactly repr entry package resolved := by
      unfold DeclaresExactly
      rw [whole]
      exact ⟨exactForm, detailed, reads, noPlace⟩
    rw [← same]
    constructor
    · intro left leftIn right rightIn names
      rcases (mem_update one).mp leftIn with leftOld | leftNew
      · rcases (mem_update one).mp rightIn with rightOld | rightNew
        · exact collected.functional left leftOld right rightOld names
        · rw [rightNew] at names ⊢
          exact one left leftOld names
      · rcases (mem_update one).mp rightIn with rightOld | rightNew
        · rw [leftNew] at names ⊢
          exact (one right rightOld names.symm).symm
        · rw [leftNew, rightNew]
    · intro subject member
      rcases (mem_update one).mp member with before | new
      · exact wider before
      · rw [new]
        exact ⟨Bool.not_eq_false _ ▸ first, entry,
          List.mem_append_right _ List.mem_cons_self, declares⟩
    · intro other member
      rcases List.mem_append.mp member with before | here
      · obtain ⟨name, range, fields, readsOther, cover⟩ :=
          collected.covered other before
        refine ⟨name, range, fields, readsOther, ?_⟩
        intro firstParty
        obtain ⟨pinned, declaresOther, listed⟩ := cover firstParty
        exact ⟨pinned, declaresOther, (mem_update one).mpr (Or.inl listed)⟩
      · rw [List.mem_singleton.mp here]
        refine ⟨package, some exact, detailed, reads, ?_⟩
        intro _
        exact ⟨resolved, declares, (mem_update one).mpr (Or.inr rfl)⟩

theorem Collected.entries {seen entries : List (String × Value)}
    {subjects after : List (String × String)} {tableName : String}
    (collected : Collected repr seen subjects)
    (validated : entries.foldlM (validateDependency repr tableName) subjects =
      .ok after) : Collected repr (seen ++ entries) after := by
  induction entries generalizing seen subjects with
  | nil =>
      rw [List.foldlM_nil, pure_eq_ok] at validated
      rw [← validated, List.append_nil]
      exact collected
  | cons entry rest ih =>
      rw [List.foldlM_cons, bind_eq_ok] at validated
      obtain ⟨middle, first, others⟩ := validated
      have behind := ih (collected.step first) others
      rw [List.append_assoc, List.singleton_append] at behind
      exact behind

theorem Collected.tables {seen : List (String × Value)}
    {tables : List (String × Document)}
    {subjects after : List (String × String)}
    (collected : Collected repr seen subjects)
    (validated : tables.foldlM (validateTable repr) subjects = .ok after) :
    Collected repr (seen ++ tables.flatMap Prod.snd) after := by
  induction tables generalizing seen subjects with
  | nil =>
      rw [List.foldlM_nil, pure_eq_ok] at validated
      rw [← validated, List.flatMap_nil, List.append_nil]
      exact collected
  | cons table rest ih =>
      rw [List.foldlM_cons, bind_eq_ok] at validated
      obtain ⟨middle, first, others⟩ := validated
      rw [List.flatMap_cons, ← List.append_assoc]
      exact ih (collected.entries first) others

theorem checkPatch_eq_ok {manifest : Document} {value : Unit} :
    checkPatch manifest = .ok value ↔
      ∀ registry ∈ (table? manifest "patch").getD [], ∀ entries,
        registry.2 = .table entries → ∀ entry ∈ entries,
          isFirstParty (patchedPackage entry.1 entry.2) = false := by
  unfold checkPatch
  rw [forM_eq_ok]
  apply forall₂_congr
  intro registry _
  split
  · rename_i entries same
    rw [forM_eq_ok, same]
    constructor
    · intro checked others equal entry member
      cases equal
      exact ensure_eq_ok.mp (checked entry member)
    · intro checked entry member
      exact ensure_eq_ok.mpr (checked entries rfl entry member)
  · rename_i other
    constructor
    · intro _ entries same
      exact absurd same (other entries)
    · intro _
      rfl

theorem checkReplace_eq_ok {manifest : Document} {value : Unit} :
    checkReplace manifest = .ok value ↔
      ∀ entry ∈ (table? manifest "replace").getD [],
        isFirstParty (replacedPackage entry.1) = false := by
  unfold checkReplace
  rw [forM_eq_ok]
  apply forall₂_congr
  intro entry _
  rw [ensure_eq_ok]

/-- The order in which the tables are visited does not matter. -/
theorem mem_dependencies {order : List String}
    (perm : order.Perm dependencyTables) {manifest : Document}
    {entry : String × Value} :
    entry ∈ dependencies order manifest ↔
      entry ∈ dependencies dependencyTables manifest := by
  have tables : ∀ (name : String → String) (document : Document)
      (table : String × Document),
      table ∈ tablesOf order name document ↔
        table ∈ tablesOf dependencyTables name document := by
    intro name document table
    exact (perm.filterMap _).mem_iff
  have iterated : ∀ table, table ∈ iterDependencyTables order manifest ↔
      table ∈ iterDependencyTables dependencyTables manifest := by
    intro table
    unfold iterDependencyTables
    rw [List.mem_append, List.mem_append, tables, List.mem_flatMap,
      List.mem_flatMap]
    apply or_congr Iff.rfl
    apply exists_congr
    intro target
    apply and_congr Iff.rfl
    split
    · exact tables _ _ table
    · exact Iff.rfl
  unfold dependencies
  rw [List.mem_flatMap, List.mem_flatMap]
  apply exists_congr
  intro table
  rw [iterated]

/-- What an accepted manifest declares. -/
theorem validateManifest_ok {order : List String} {manifestPath : String}
    {manifest : Document} {subjects : List (String × String)}
    (accepted : validateManifest repr order manifestPath manifest =
      .ok subjects) :
    Collected repr (dependencies order manifest) subjects ∧
      ∀ package, Overrides manifest package →
        isFirstParty package = false := by
  unfold validateManifest at accepted
  simp only [bind_eq_ok, exists_const, pure_eq_ok, ensure_eq_ok] at accepted
  obtain ⟨_, patch, _, replace, collected, loop, _, same⟩ := accepted
  rw [same] at loop
  constructor
  · exact (@collected_nil repr).tables loop
  · intro package overrides
    rcases overrides with patched | replaced
    · obtain ⟨sections, present, registry, listed, entries, table, entry,
        member, names⟩ := patched
      rw [← names]
      rw [checkPatch_eq_ok, present] at patch
      exact patch registry listed entries table entry member
    · obtain ⟨entries, present, entry, member, names⟩ := replaced
      rw [← names]
      rw [checkReplace_eq_ok, present] at replace
      exact replace entry member

/-! ### The lockfile -/

/-- A package of the lockfile comes from the canonical registry, with its
checksum. -/
def Canonical (package : Document) : Prop :=
  (∃ source ∈ cratesIoSources, get? package "source" = some (.text source)) ∧
    ∃ checksum, text? package "checksum" = some checksum ∧
      isChecksum checksum = true

theorem validateSubject_ok {packages : List Value}
    {subject : String × String} {value : Unit}
    (validated : validateSubject repr packages subject = .ok value) :
    ∃ package, matchesOf packages subject = [package] ∧
      Canonical package := by
  unfold validateSubject at validated
  split at validated
  · rename_i package only
    rw [bind_eq_ok] at validated
    obtain ⟨_, source, checksum⟩ := validated
    rw [ensure_eq_ok] at checksum
    obtain ⟨text, found, valid⟩ := checksum
    refine ⟨package, only, ?_, text, found, valid⟩
    unfold checkSource at source
    split at source
    · cases source
    · cases source
    · rename_i given present
      exact ⟨given, ensure_eq_ok.mp source, present⟩
    · cases source
    · cases source
  · cases validated

theorem validateLockfile_ok {lockfilePath : String} {lockfile : Document}
    {subjects : List (String × String)} {value : Unit}
    (validated : validateLockfile repr lockfilePath lockfile subjects =
      .ok value) :
    ∃ packages, get? lockfile "package" = some (.array packages) ∧
      ∀ subject ∈ subjects, ∃ package,
        matchesOf packages subject = [package] ∧ Canonical package := by
  unfold validateLockfile at validated
  split at validated
  · rename_i packages present
    refine ⟨packages, present, ?_⟩
    intro subject member
    have sorted : subject ∈ sortedItems subjects :=
      (List.perm_insertionSort _ subjects).mem_iff.mpr member
    exact validateSubject_ok (forM_eq_ok.mp validated subject sorted)
  · cases validated

/-! ### Both together -/

theorem DeclaresExactly.unique {entry : String × Value}
    {package other version : String} {given : Option String}
    {detailed : Option Document}
    (declares : DeclaresExactly repr entry package version)
    (reads : dependencyPackage repr entry.1 entry.2 =
      .ok (other, given, detailed)) :
    other = package ∧ given = some ("=" ++ version) := by
  obtain ⟨_, fields, same, _⟩ := declares
  rw [same, Except.ok.injEq, Prod.mk.injEq, Prod.mk.injEq] at reads
  exact ⟨reads.1.symm, reads.2.1.symm⟩

theorem equals_append_injective {left right : String}
    (same : "=" ++ left = "=" ++ right) : left = right := by
  have chars := congrArg String.toList same
  rw [String.toList_append, String.toList_append,
    List.append_cancel_left_eq] at chars
  exact String.toList_inj.mp chars

theorem Collected.mem {order : List String}
    (perm : order.Perm dependencyTables) {manifest : Document}
    {subjects : List (String × String)}
    (collected : Collected repr (dependencies order manifest) subjects)
    {name version : String} (declares : Declares repr manifest name version) :
    (name, version) ∈ subjects := by
  obtain ⟨firstParty, entry, listed, exactly⟩ := declares
  obtain ⟨package, range, detailed, reads, cover⟩ :=
    collected.covered entry ((mem_dependencies perm).mpr listed)
  have same := exactly.unique reads
  rw [same.1] at cover
  obtain ⟨pinned, declaresPinned, member⟩ := cover firstParty
  have versions := declaresPinned.unique reads
  rw [same.2, Option.some.injEq] at versions
  rw [equals_append_injective versions.2]
  exact member

/-- The manifest declares no first-party package at two versions. -/
theorem Collected.unique {order : List String}
    (perm : order.Perm dependencyTables) {manifest : Document}
    {subjects : List (String × String)}
    (collected : Collected repr (dependencies order manifest) subjects)
    {name left right : String} (one : Declares repr manifest name left)
    (other : Declares repr manifest name right) : left = right :=
  collected.functional _ (collected.mem perm one) _
    (collected.mem perm other) rfl

/-- In an accepted lockfile every package with the name and version of a
declared first-party dependency is the only one and comes from the canonical
registry; the accepted manifest declares each of its first-party packages at
exactly one version and overrides none. -/
theorem acceptedProvenance_exact {order : List String}
    (perm : order.Perm dependencyTables) {manifestPath lockfilePath : String}
    {manifest lockfile : Document} {subjects : List (String × String)}
    (accepted : validateManifest repr order manifestPath manifest =
      .ok subjects)
    (locked : validateLockfile repr lockfilePath lockfile subjects = .ok ()) :
    ∃ packages, get? lockfile "package" = some (.array packages) ∧
      (∀ package ∈ lockedPackages packages, ∀ name version,
        isLocked name version package = true →
        Declares repr manifest name version →
          Canonical package ∧ matchesOf packages (name, version) =
            [package]) ∧
      (∀ entry ∈ dependencies dependencyTables manifest,
        ∃ package version detailed,
          dependencyPackage repr entry.1 entry.2 =
            .ok (package, version, detailed) ∧
          (isFirstParty package = true →
            ∃ exact, DeclaresExactly repr entry package exact ∧
              ∃ only, matchesOf packages (package, exact) = [only])) ∧
      (∀ package left right, Declares repr manifest package left →
        Declares repr manifest package right → left = right) ∧
      ∀ package, Overrides manifest package →
        isFirstParty package = false := by
  obtain ⟨collected, noOverride⟩ := validateManifest_ok accepted
  obtain ⟨packages, present, found⟩ := validateLockfile_ok locked
  refine ⟨packages, present, ?_, ?_,
    fun _ _ _ one other => collected.unique perm one other, noOverride⟩
  · intro package listed name version here declares
    obtain ⟨only, matched, canonical⟩ :=
      found (name, version) (collected.mem perm declares)
    have member : package ∈ matchesOf packages (name, version) :=
      List.mem_filter.mpr ⟨listed, here⟩
    rw [matched, List.mem_singleton] at member
    rw [member]
    exact ⟨canonical, matched⟩
  · intro entry listed
    obtain ⟨package, version, detailed, reads, cover⟩ :=
      collected.covered entry ((mem_dependencies perm).mpr listed)
    refine ⟨package, version, detailed, reads, ?_⟩
    intro firstParty
    obtain ⟨exact, declares, member⟩ := cover firstParty
    obtain ⟨only, matched, _⟩ := found (package, exact) member
    exact ⟨exact, declares, only, matched⟩

/-! ### A workload -/

def render : Value → String
  | .text value => "'" ++ value ++ "'"
  | .scalar rendered => rendered
  | .array _ => "[...]"
  | .table _ => "dict(...)"

def frameworkSpec : Value :=
  .table [("version", .text "=0.6.0"),
    ("features", .array [.text "postgres"])]

def workloadManifest : Document :=
  [("dependencies", .table [("oxide-batch", frameworkSpec),
      ("csv", .text "1.3")]),
    ("dev-dependencies", .table [("oxide-batch-test", .text "=0.6.0")])]

def published (name checksum : String) : Document :=
  [("name", .text name), ("version", .text "0.6.0"),
    ("source",
      .text "registry+https://github.com/rust-lang/crates.io-index"),
    ("checksum", .text checksum)]

def framework : Document := published "oxide-batch"
  "eb44a43551fbf5c70d11cc54d4c14ec8a40ebaf917a1d5ff1a158556e1fe093b"

def frameworkCore : Document := published "oxide-batch-core"
  "3b63311721adf30b20ef5293a2ee9fe1759211464a833295e6d490fda8d0c631"

def frameworkTest : Document := published "oxide-batch-test"
  "8bad1e49c191f276402c7092b441c2a38dc33ff57b49d5911c801eafa42cb49e"

def workloadPackages : List Value :=
  [.table framework, .table frameworkCore, .table frameworkTest]

def workloadLockfile : Document :=
  [("version", .scalar "4"), ("package", .array workloadPackages)]

def workloadSubjects : List (String × String) :=
  [("oxide-batch", "0.6.0"), ("oxide-batch-test", "0.6.0")]

theorem workload_accepted :
    validateManifest render dependencyTables "Cargo.toml" workloadManifest =
      .ok workloadSubjects := by
  rfl

theorem workload_locked :
    validateLockfile render "Cargo.lock" workloadLockfile workloadSubjects =
      .ok () := by
  rfl

theorem acceptedProvenance_exact_workload :
    Canonical framework ∧
      matchesOf workloadPackages ("oxide-batch", "0.6.0") = [framework] := by
  obtain ⟨packages, present, sources, _⟩ :=
    acceptedProvenance_exact (List.Perm.refl dependencyTables)
      workload_accepted workload_locked
  cases present
  apply sources framework List.mem_cons_self "oxide-batch" "0.6.0" rfl
  constructor
  · rfl
  · refine ⟨("oxide-batch", frameworkSpec), List.mem_cons_self, rfl, ?_⟩
    exact ⟨_, rfl, rfl⟩

/-- The lockfile of the workload has a first-party package that only another
package depends on. -/
theorem frameworkCore_undeclared :
    validateManifest render dependencyTables "Cargo.toml" workloadManifest =
        .ok workloadSubjects ∧
      validateLockfile render "Cargo.lock" workloadLockfile
        workloadSubjects = .ok () ∧
      frameworkCore ∈ lockedPackages workloadPackages ∧
      isLocked "oxide-batch-core" "0.6.0" frameworkCore = true ∧
      isFirstParty "oxide-batch-core" = true ∧
      ∀ version, ¬ Declares render workloadManifest "oxide-batch-core"
        version := by
  refine ⟨workload_accepted, workload_locked,
    List.mem_cons_of_mem _ List.mem_cons_self, rfl, rfl, ?_⟩
  intro version declares
  have collected := (validateManifest_ok workload_accepted).1
  have member := collected.mem (List.Perm.refl dependencyTables) declares
  have name : "oxide-batch-core" ∈ workloadSubjects.map Prod.fst :=
    List.mem_map.mpr ⟨_, member, rfl⟩
  exact absurd name (by decide)

end Provenance
