/-
The registry is accepted exactly when its three lists describe the Cargo
projects at the top level of the tree, each once.
-/

import OxideWorkloads.Ci.Registry

namespace Registry

open Foundation
open Foundation.Checks

/-! ### What an entry is -/

/-- The version that a manifest declares, if it declares one. -/
inductive ManifestVersion (project : Project) : Option String → Prop where
  | absent {document package : Provenance.Document}
      (parsed : project.manifest = some (.ok document))
      (table : Provenance.table? document "package" = some package)
      (nothing : Provenance.get? package "rust-version" = none) :
      ManifestVersion project none
  | present {document package : Provenance.Document} {version : String}
      (parsed : project.manifest = some (.ok document))
      (table : Provenance.table? document "package" = some package)
      (found : Provenance.get? package "rust-version" = some (.text version))
      (nonblank : isBlank version = false) :
      ManifestVersion project (some version)

/-- The MSRV policy of an entry agrees with the manifest of its project. -/
inductive IsMsrv (project : Project) (members : Members) : Msrv → Prop where
  | declared {version : String} (keys : HasKeys members ["declared"])
      (flag : get? members "declared" = some (.bool true))
      (manifest : ManifestVersion project (some version)) :
      IsMsrv project members
        { declared := true, version := some version, policyReason := none }
  | undeclared {reason : String}
      (keys : HasKeys members ["declared", "policy_reason"])
      (flag : get? members "declared" = some (.bool false))
      (why : get? members "policy_reason" = some (.string reason))
      (nonblank : isBlank reason = false)
      (manifest : ManifestVersion project none) :
      IsMsrv project members
        { declared := false, version := none, policyReason := some reason }

/-- A name that can stand as one component of a path. -/
structure PlainName (name : String) : Prop where
  nonempty : name ≠ ""
  single : '/' ∉ name.toList
  proper : name ≠ "." ∧ name ≠ ".."

/-- A path of one component below the root. -/
structure TopLevel (path : String) : Prop where
  nonempty : path ≠ ""
  relative : isAbsolute path = false
  single : (pathParts path).length = 1
  below : pathParts path ≠ [".."]

/-- An entry of the registry, and what is made of it. -/
structure IsEntry (root : Root) (kind : String) (members : Members)
    (parsed : Entry) (project : Project) (msrv : Members) : Prop where
  kind : parsed.kind = kind
  keys : HasKeys members requiredEntryKeys
  name : get? members "name" = some (.string parsed.name)
  plain : PlainName parsed.name
  path : get? members "path" = some (.string parsed.path)
  topLevel : TopLevel parsed.path
  directory : root.directory parsed.path = some project
  manifest : project.manifest.isSome = true
  executable : project.entrypoint = some true
  policy : get? members "msrv" = some (.object msrv)
  agrees : IsMsrv project msrv parsed.msrv

/-- A reserved project of the registry. -/
structure IsReserved (root : Root) (members : Members) (path : String) :
    Prop where
  keys : HasKeys members ["path", "reason"]
  location : get? members "path" = some (.string path)
  topLevel : TopLevel path
  reason : ∃ reason, get? members "reason" = some (.string reason) ∧
    isBlank reason = false
  project : ∃ project, root.directory path = some project ∧
    project.manifest.isSome = true

/-! ### Single checks -/

variable {repr : Json → String} {floatIs : String → Int → Bool} {root : Root}

theorem at_eq_string {members : Members} {key text : String} :
    at_ members key = .string text ↔
      get? members key = some (.string text) := by
  unfold at_
  cases get? members key with
  | none => simp
  | some value => simp

theorem at_asString {members : Members} {key text : String} :
    (at_ members key).asString = some text ↔
      get? members key = some (.string text) := by
  unfold at_
  cases get? members key with
  | none => simp [Json.asString]
  | some value => cases value <;> simp [Json.asString]

theorem at_asBool {members : Members} {key : String} {value : Bool} :
    (at_ members key).asBool = some value ↔
      get? members key = some (.bool value) := by
  unfold at_
  cases get? members key with
  | none => simp [Json.asBool]
  | some found => cases found <;> simp [Json.asBool]

theorem validateName_eq_ok {value : Json} {name : String} :
    validateName repr value = .ok name ↔
      value = .string name ∧ PlainName name := by
  cases value with
  | string text =>
      simp only [validateName, bind_eq_ok, ensure_eq_ok, pure_eq_ok,
        exists_const, not_or]
      constructor
      · intro checked
        obtain ⟨nonempty, ⟨single, dot, dots⟩, same⟩ := checked
        rw [← same]
        exact ⟨rfl, nonempty, single, dot, dots⟩
      · intro plain
        obtain ⟨same, nonempty, single, dot, dots⟩ := plain
        cases same
        exact ⟨nonempty, ⟨single, dot, dots⟩, rfl⟩
  | _ => simp [validateName]

theorem validateTopLevelPath_eq_ok {value : Json} {kind path : String} :
    validateTopLevelPath repr value kind = .ok path ↔
      value = .string path ∧ TopLevel path := by
  cases value with
  | string text =>
      simp only [validateTopLevelPath, bind_eq_ok, ensure_eq_ok, pure_eq_ok,
        exists_const, Bool.not_eq_true]
      constructor
      · intro checked
        obtain ⟨nonempty, ⟨relative, single, below⟩, same⟩ := checked
        rw [← same]
        exact ⟨rfl, nonempty, relative, single, below⟩
      · intro top
        obtain ⟨same, nonempty, relative, single, below⟩ := top
        cases same
        exact ⟨nonempty, ⟨relative, single, below⟩, rfl⟩
  | _ => simp [validateTopLevelPath]

theorem readRustVersion_eq_ok {name : String} {project : Project}
    {version : Option String} :
    readRustVersion repr name project = .ok version ↔
      ManifestVersion project version := by
  constructor
  · intro read
    unfold readRustVersion at read
    cases manifest : project.manifest with
    | none =>
        rw [manifest] at read
        cases read
    | some content =>
        rw [manifest] at read
        cases content with
        | error error => cases read
        | ok document =>
            dsimp only at read
            cases table : Provenance.table? document "package" with
            | none =>
                rw [table] at read
                cases read
            | some package =>
                rw [table] at read
                dsimp only at read
                cases found : Provenance.get? package "rust-version" with
                | none =>
                    rw [found] at read
                    cases read
                    exact ManifestVersion.absent manifest table found
                | some value =>
                    rw [found] at read
                    cases value with
                    | text text =>
                        simp only [bind_eq_ok, ensure_eq_ok, pure_eq_ok,
                          exists_const] at read
                        rw [← read.2]
                        exact ManifestVersion.present manifest table found
                          read.1
                    | _ => cases read
  · intro declared
    unfold readRustVersion
    cases declared with
    | absent parsed table nothing =>
        rw [parsed]
        dsimp only
        rw [table]
        dsimp only
        rw [nothing]
    | present parsed table found nonblank =>
        rw [parsed]
        dsimp only
        rw [table]
        dsimp only
        rw [found]
        simp only [bind_eq_ok, ensure_eq_ok, exists_const]
        exact ⟨nonblank, rfl⟩

theorem validateMsrv_eq_ok {name : String} {value : Json} {project : Project}
    {msrv : Msrv} :
    validateMsrv repr name value project = .ok msrv ↔
      ∃ members, value = .object members ∧ IsMsrv project members msrv := by
  cases value with
  | object members =>
      simp only [validateMsrv, bind_eq_ok, require_eq_ok, at_asBool,
        readRustVersion_eq_ok, Json.object.injEq, exists_eq_left']
      constructor
      · intro checked
        obtain ⟨declared, flag, version, manifest, rest⟩ := checked
        cases declared with
        | true =>
            simp only [validateDeclared, if_true, bind_eq_ok, ensure_eq_ok,
              require_eq_ok, pure_eq_ok, exists_const] at rest
            obtain ⟨keys, text, same, isMsrv⟩ := rest
            rw [← isMsrv]
            rw [same] at manifest
            exact IsMsrv.declared keys flag manifest
        | false =>
            simp only [validateUndeclared, Bool.false_eq_true, if_false,
              bind_eq_ok, ensure_eq_ok, require_eq_ok, pure_eq_ok,
              exists_const, at_asString] at rest
            obtain ⟨keys, reason, why, nonblank, nothing, isMsrv⟩ := rest
            rw [← isMsrv]
            rw [nothing] at manifest
            exact IsMsrv.undeclared keys flag why nonblank manifest
      · intro agrees
        cases agrees with
        | declared keys flag manifest =>
            refine ⟨true, flag, _, manifest, ?_⟩
            simp only [validateDeclared, if_true, bind_eq_ok, ensure_eq_ok,
              require_eq_ok, pure_eq_ok, exists_const]
            exact ⟨keys, _, rfl, rfl⟩
        | undeclared keys flag why nonblank manifest =>
            refine ⟨false, flag, _, manifest, ?_⟩
            simp only [validateUndeclared, Bool.false_eq_true, if_false,
              bind_eq_ok, ensure_eq_ok, require_eq_ok, pure_eq_ok,
              exists_const, at_asString]
            exact ⟨keys, _, why, nonblank, trivial, rfl⟩
  | _ => simp [validateMsrv]

theorem validateContractEntrypoint_eq_ok {name path : String}
    {project : Project} {value : Unit} :
    validateContractEntrypoint repr name path project = .ok value ↔
      project.entrypoint = some true := by
  simp only [validateContractEntrypoint, bind_eq_ok, require_eq_ok,
    ensure_eq_ok]
  constructor
  · intro checked
    obtain ⟨executable, found, same⟩ := checked
    rw [found, same]
  · intro found
    exact ⟨true, found, rfl⟩

/-! ### Lists of entries -/

theorem validateEntry_eq_ok {kind : String} {seen after : Seen}
    {entry : Json} {parsed : Entry} :
    validateEntry repr root kind seen entry = .ok (parsed, after) ↔
      (∃ members project msrv, entry = .object members ∧
        IsEntry root kind members parsed project msrv) ∧
      parsed.name ∉ seen.names ∧ parsed.path ∉ seen.paths ∧
      after = { names := seen.names ++ [parsed.name]
                paths := seen.paths ++ [parsed.path] } := by
  cases entry with
  | object members =>
      simp only [validateEntry, bind_eq_ok, ensure_eq_ok, require_eq_ok,
        pure_eq_ok, exists_const, validateName_eq_ok,
        validateTopLevelPath_eq_ok, validateContractEntrypoint_eq_ok,
        validateMsrv_eq_ok, Prod.mk.injEq, Json.object.injEq,
        exists_and_left, exists_eq_left']
      constructor
      · intro checked
        obtain ⟨keys, name, ⟨named, plain⟩, path, ⟨located, topLevel⟩,
          newName, newPath, project, directory, manifest, executable, msrv,
          ⟨policyMembers, policy, agrees⟩, isParsed, isAfter⟩ := checked
        rw [at_eq_string] at named located
        have policySays : get? members "msrv" =
            some (.object policyMembers) := by
          unfold at_ at policy
          cases found : get? members "msrv" with
          | none =>
              rw [found] at policy
              cases policy
          | some value =>
              rw [found] at policy
              exact congrArg some policy
        rw [← isParsed]
        exact ⟨⟨project, policyMembers, rfl, keys, named, plain, located,
          topLevel, directory, manifest, executable, policySays, agrees⟩,
          newName, newPath, isAfter.symm⟩
      · intro described
        obtain ⟨⟨project, msrv, isEntry⟩, newName, newPath, isAfter⟩ :=
          described
        refine ⟨isEntry.keys, parsed.name, ⟨at_eq_string.mpr isEntry.name,
          isEntry.plain⟩, parsed.path, ⟨at_eq_string.mpr isEntry.path,
          isEntry.topLevel⟩, newName, newPath, project, isEntry.directory,
          isEntry.manifest, isEntry.executable, parsed.msrv, ⟨msrv, ?_,
          isEntry.agrees⟩, ?_, isAfter.symm⟩
        · rw [at_, isEntry.policy]
          rfl
        · rw [← isEntry.kind]
  | _ => simp [validateEntry]

/-- The entry of a registry, whatever is read besides. -/
def Parses (root : Root) (kind : String) (entry : Json) (parsed : Entry) :
    Prop :=
  ∃ members project msrv, entry = .object members ∧
    IsEntry root kind members parsed project msrv

/-- New texts, each once. -/
def New (known texts : List String) : Prop :=
  texts.Nodup ∧ ∀ text ∈ texts, text ∉ known

theorem new_nil (known : List String) : New known [] := by
  refine ⟨List.nodup_nil, ?_⟩
  intro text member
  cases member

theorem new_cons {known rest : List String} {text : String} :
    New known (text :: rest) ↔ text ∉ known ∧ New (known ++ [text]) rest := by
  unfold New
  rw [List.nodup_cons]
  constructor
  · intro fresh
    obtain ⟨⟨absent, distinct⟩, apart⟩ := fresh
    refine ⟨apart text List.mem_cons_self, distinct, ?_⟩
    intro other member inKnown
    rcases List.mem_append.mp inKnown with before | same
    · exact apart other (List.mem_cons_of_mem _ member) before
    · rw [List.mem_singleton.mp same] at member
      exact absent member
  · intro fresh
    obtain ⟨first, distinct, apart⟩ := fresh
    refine ⟨⟨?_, distinct⟩, ?_⟩
    · intro member
      exact apart text member (List.mem_append_right _ List.mem_cons_self)
    · intro other member inKnown
      rcases List.mem_cons.mp member with same | later
      · rw [same] at inKnown
        exact first inKnown
      · exact apart other later (List.mem_append_left _ inKnown)

theorem validateEntries_eq_ok {kind : String} {items : List Json}
    {seen after : Seen} {entries : List Entry} :
    validateEntries repr root kind seen items = .ok (entries, after) ↔
      List.Forall₂ (Parses root kind) items entries ∧
        New seen.names (entries.map Entry.name) ∧
        New seen.paths (entries.map Entry.path) ∧
        after = { names := seen.names ++ entries.map Entry.name
                  paths := seen.paths ++ entries.map Entry.path } := by
  induction items generalizing seen after entries with
  | nil =>
      rw [validateEntries, Except.ok.injEq, Prod.mk.injEq,
        List.forall₂_nil_left_iff]
      constructor
      · intro same
        rw [← same.1, ← same.2]
        refine ⟨rfl, new_nil _, new_nil _, ?_⟩
        simp
      · intro described
        obtain ⟨empty, _, _, same⟩ := described
        rw [empty] at same ⊢
        simp [same]
  | cons item rest ih =>
      simp only [validateEntries, bind_eq_ok, pure_eq_ok, Prod.mk.injEq,
        Prod.exists, validateEntry_eq_ok, ih, List.forall₂_cons_left_iff]
      constructor
      · intro checked
        obtain ⟨first, middle, ⟨parses, newName, newPath, isMiddle⟩, others,
          last, ⟨related, names, paths, isLast⟩, isEntries, isAfter⟩ := checked
        rw [isMiddle] at names paths isLast
        rw [← isEntries, ← isAfter, isLast]
        refine ⟨⟨first, others, parses, related, rfl⟩,
          new_cons.mpr ⟨newName, names⟩, new_cons.mpr ⟨newPath, paths⟩, ?_⟩
        simp
      · intro described
        obtain ⟨⟨first, others, parses, related, isEntries⟩, names, paths,
          isAfter⟩ := described
        rw [isEntries, List.map_cons, new_cons] at names paths
        refine ⟨first, _, ⟨parses, names.1, paths.1, rfl⟩, others, after,
          ⟨related, names.2, paths.2, ?_⟩, isEntries.symm, rfl⟩
        rw [isAfter, isEntries]
        simp

theorem validateReserved_eq_ok {seen : Seen} {before after : List String}
    {entry : Json} :
    validateReserved repr root seen before entry = .ok after ↔
      ∃ path, after = before ++ [path] ∧ path ∉ before ∧
        path ∉ seen.paths ∧
        ∃ members, entry = .object members ∧ IsReserved root members path := by
  cases entry with
  | object members =>
      simp only [validateReserved, bind_eq_ok, ensure_eq_ok, require_eq_ok,
        pure_eq_ok, exists_const, validateTopLevelPath_eq_ok, at_asString,
        at_eq_string, Json.object.injEq, exists_eq_left', Option.any_eq_true]
      constructor
      · intro checked
        obtain ⟨keys, path, ⟨location, topLevel⟩, reason, why, nonblank, newest,
          apart, project, isAfter⟩ := checked
        exact ⟨path, isAfter.symm, newest, apart, keys, location, topLevel,
          ⟨reason, why, nonblank⟩, project⟩
      · intro described
        obtain ⟨path, isAfter, newest, apart, isReserved⟩ := described
        obtain ⟨reason, why, nonblank⟩ := isReserved.reason
        exact ⟨isReserved.keys, path, ⟨isReserved.location,
          isReserved.topLevel⟩, reason, why, nonblank, newest, apart,
          isReserved.project, isAfter.symm⟩
  | _ => simp [validateReserved]

theorem reserved_eq_ok {seen : Seen} {items : List Json}
    {before after : List String} :
    items.foldlM (validateReserved repr root seen) before = .ok after ↔
      ∃ paths, after = before ++ paths ∧
        List.Forall₂ (fun item path => ∃ members, item = .object members ∧
          IsReserved root members path) items paths ∧
        New before paths ∧ ∀ path ∈ paths, path ∉ seen.paths := by
  induction items generalizing before with
  | nil =>
      rw [List.foldlM_nil, pure_eq_ok]
      constructor
      · intro same
        refine ⟨[], ?_, List.Forall₂.nil, new_nil _, ?_⟩
        · rw [← same, List.append_nil]
        · intro path member
          cases member
      · intro described
        obtain ⟨paths, isAfter, related, _⟩ := described
        rw [List.forall₂_nil_left_iff.mp related, List.append_nil] at isAfter
        exact isAfter.symm
  | cons item rest ih =>
      rw [List.foldlM_cons, bind_eq_ok]
      simp only [validateReserved_eq_ok, ih, List.forall₂_cons_left_iff]
      constructor
      · intro checked
        obtain ⟨middle, ⟨path, isMiddle, newest, apart, parses⟩, paths,
          isAfter, related, fresh, others⟩ := checked
        rw [isMiddle] at isAfter fresh
        refine ⟨path :: paths, ?_, ⟨path, paths, parses, related, rfl⟩,
          new_cons.mpr ⟨newest, fresh⟩, ?_⟩
        · rw [isAfter, List.append_assoc, List.singleton_append]
        · intro other member
          rcases List.mem_cons.mp member with same | later
          · rw [same]
            exact apart
          · exact others other later
      · intro described
        obtain ⟨all, isAfter, ⟨path, paths, parses, related, isAll⟩, fresh,
          others⟩ := described
        rw [isAll] at isAfter fresh others
        obtain ⟨newest, later⟩ := new_cons.mp fresh
        refine ⟨before ++ [path], ⟨path, rfl, newest,
          others path List.mem_cons_self, parses⟩, paths, ?_, related, later,
          ?_⟩
        · rw [isAfter, List.append_assoc, List.singleton_append]
        · intro other member
          exact others other (List.mem_cons_of_mem _ member)

/-! ### The whole registry -/

theorem loadRegistry_eq_ok {registry : Option (Except String Json)}
    {members : Members} :
    loadRegistry floatIs registry = .ok members ↔
      registry = some (.ok (.object members)) ∧
        isSchemaVersion floatIs (get? members "schema_version") = true := by
  constructor
  · intro loaded
    unfold loadRegistry at loaded
    split at loaded
    · cases loaded
    · cases loaded
    · rename_i found
      simp only [bind_eq_ok, ensure_eq_ok, pure_eq_ok, exists_const] at loaded
      rw [← loaded.2]
      exact ⟨rfl, loaded.1⟩
    · cases loaded
  · intro loaded
    rw [loaded.1, loadRegistry]
    simp only [bind_eq_ok, ensure_eq_ok, exists_const]
    exact ⟨loaded.2, rfl⟩

theorem arrayOf_eq_ok {members : Members} {key message : String}
    {default : Option (List Json)} {items : List Json} :
    arrayOf members key default message = .ok items ↔
      get? members key = some (.array items) ∨
        (get? members key = none ∧ default = some items) := by
  unfold arrayOf
  cases get? members key with
  | none => simp
  | some value => cases value <;> simp

theorem sortTexts_eq_nil {texts : List String} :
    sortTexts texts = [] ↔ texts = [] := by
  rw [← List.length_eq_zero_iff, sortTexts, List.length_mergeSort,
    List.length_eq_zero_iff]

/-- The three lists of a registry describe the Cargo projects at the top level
of a tree, each of them once. -/
structure Describes (floatIs : String → Int → Bool) (root : Root)
    (members : Members) (workloads fixtures : List Entry)
    (reserved : List String) : Prop where
  version : isSchemaVersion floatIs (get? members "schema_version") = true
  workloadList : ∃ items, get? members "workloads" = some (.array items) ∧
    items ≠ [] ∧ List.Forall₂ (Parses root "workload") items workloads
  fixtureList : ∃ items, (get? members "fixtures" = some (.array items) ∨
      get? members "fixtures" = none ∧ items = []) ∧
    List.Forall₂ (Parses root "fixture") items fixtures
  reservedList : ∃ items,
    (get? members "reserved_top_level_cargo_projects" =
        some (.array items) ∨
      get? members "reserved_top_level_cargo_projects" = none ∧
        items = []) ∧
    List.Forall₂ (fun item path => ∃ members, item = .object members ∧
      IsReserved root members path) items reserved
  names : ((workloads ++ fixtures).map Entry.name).Nodup
  paths : ((workloads ++ fixtures).map Entry.path ++ reserved).Nodup
  complete : ∀ name, name ∈ root.candidates ↔
    name ∈ (workloads ++ fixtures).map Entry.path ++ reserved

theorem nodup_append_new {known texts : List String} :
    (known ++ texts).Nodup ↔ known.Nodup ∧ New known texts := by
  unfold New
  rw [List.nodup_append]
  constructor
  · intro distinct
    refine ⟨distinct.1, distinct.2.1, ?_⟩
    intro text member inKnown
    exact distinct.2.2 text inKnown text member rfl
  · intro fresh
    refine ⟨fresh.1, fresh.2.1, ?_⟩
    intro first inKnown second member same
    rw [same] at inKnown
    exact fresh.2.2 second member inKnown

theorem filter_not_mem_eq_nil {texts known : List String} :
    texts.filter (fun text => text ∉ known) = [] ↔
      ∀ text ∈ texts, text ∈ known := by
  rw [List.filter_eq_nil_iff]
  simp

theorem validateRepository_eq_ok {registry : Option (Except String Json)}
    {found : Discovered} :
    validateRepository repr floatIs root registry = .ok found ↔
      ∃ members workloads fixtures reserved,
        registry = some (.ok (.object members)) ∧
        Describes floatIs root members workloads fixtures reserved ∧
        found = { workloads := sortByPath workloads
                  fixtures := sortByPath fixtures } := by
  simp only [validateRepository, bind_eq_ok, ensure_eq_ok, pure_eq_ok,
    exists_const, loadRegistry_eq_ok, arrayOf_eq_ok, Prod.exists,
    validateEntries_eq_ok, reserved_eq_ok, sortTexts_eq_nil,
    filter_not_mem_eq_nil, List.nil_append]
  constructor
  · intro accepted
    obtain ⟨members, ⟨isRegistry, version⟩, workloadItems, inWorkloads,
      nonempty, fixtureItems, inFixtures, reservedItems, inReserved, workloads,
      seen, ⟨parsedWorkloads, workloadNames, workloadPaths, isSeen⟩, fixtures,
      last, ⟨parsedFixtures, fixtureNames, fixturePaths, isLast⟩, after,
      ⟨reserved, isAfter, parsedReserved, freshReserved, apartReserved⟩,
      registered, notStale, isFound⟩ := accepted
    rw [isSeen] at fixtureNames fixturePaths isLast
    rw [isLast] at apartReserved registered notStale
    rw [isAfter] at registered notStale
    dsimp only at fixtureNames fixturePaths apartReserved registered notStale
    rw [← List.map_append] at registered notStale
    refine ⟨members, workloads, fixtures, reserved, isRegistry, ?_,
      isFound.symm⟩
    constructor
    · exact version
    · refine ⟨workloadItems, ?_, ?_, parsedWorkloads⟩
      · rcases inWorkloads with present | absent
        · exact present
        · cases absent.2
      · intro empty
        rw [empty] at nonempty
        exact nonempty rfl
    · refine ⟨fixtureItems, ?_, parsedFixtures⟩
      rcases inFixtures with present | absent
      · exact Or.inl present
      · exact Or.inr ⟨absent.1, (Option.some.inj absent.2).symm⟩
    · refine ⟨reservedItems, ?_, parsedReserved⟩
      rcases inReserved with present | absent
      · exact Or.inl present
      · exact Or.inr ⟨absent.1, (Option.some.inj absent.2).symm⟩
    · rw [List.map_append, nodup_append_new]
      exact ⟨workloadNames.1, fixtureNames⟩
    · rw [nodup_append_new, List.map_append, nodup_append_new]
      exact ⟨⟨workloadPaths.1, fixturePaths⟩, freshReserved.1, apartReserved⟩
    · intro name
      exact ⟨registered name, notStale name⟩
  · intro described
    obtain ⟨members, workloads, fixtures, reserved, isRegistry, describes,
      isFound⟩ := described
    obtain ⟨workloadItems, inWorkloads, nonempty, parsedWorkloads⟩ :=
      describes.workloadList
    obtain ⟨fixtureItems, inFixtures, parsedFixtures⟩ :=
      describes.fixtureList
    obtain ⟨reservedItems, inReserved, parsedReserved⟩ :=
      describes.reservedList
    have names := describes.names
    have paths := describes.paths
    rw [List.map_append, nodup_append_new] at names
    rw [nodup_append_new, List.map_append, nodup_append_new] at paths
    have registered : ∀ name ∈ root.candidates,
        name ∈ workloads.map Entry.path ++ fixtures.map Entry.path ++
          reserved := by
      intro name member
      rw [← List.map_append]
      exact (describes.complete name).mp member
    have notStale : ∀ name ∈ workloads.map Entry.path ++
        fixtures.map Entry.path ++ reserved, name ∈ root.candidates := by
      intro name member
      rw [← List.map_append] at member
      exact (describes.complete name).mpr member
    have fresh : ∀ texts : List String, texts.Nodup → New [] texts :=
      fun texts distinct => ⟨distinct, fun _ _ absent => by cases absent⟩
    refine ⟨members, ⟨isRegistry, describes.version⟩, workloadItems,
      Or.inl inWorkloads, ?_, fixtureItems, ?_, reservedItems, ?_, workloads,
      _, ⟨parsedWorkloads, fresh _ names.1, fresh _ paths.1.1, rfl⟩, fixtures,
      _, ⟨parsedFixtures, names.2, paths.1.2, rfl⟩, _,
      ⟨reserved, rfl, parsedReserved, fresh _ paths.2.1, paths.2.2⟩, ?_, ?_,
      isFound.symm⟩
    · intro zero
      exact nonempty (List.length_eq_zero_iff.mp zero)
    · rcases inFixtures with present | absent
      · exact Or.inl present
      · exact Or.inr ⟨absent.1, congrArg some absent.2.symm⟩
    · rcases inReserved with present | absent
      · exact Or.inl present
      · exact Or.inr ⟨absent.1, congrArg some absent.2.symm⟩
    · exact registered
    · exact notStale

/-! ### The lists that are given out -/

theorem sortByPath_perm (entries : List Entry) :
    (sortByPath entries).Perm entries :=
  List.mergeSort_perm entries _

theorem sortByPath_ordered {entries : List Entry}
    (distinct : (entries.map Entry.path).Nodup) :
    (sortByPath entries).Pairwise (fun left right => left.path < right.path) := by
  have ordered : (sortByPath entries).Pairwise (fun left right =>
      decide (left.path ≤ right.path) = true) := by
    apply List.pairwise_mergeSort
    · intro first second third before after
      rw [decide_eq_true_eq] at before after ⊢
      exact le_trans before after
    · intro first second
      rw [Bool.or_eq_true, decide_eq_true_eq, decide_eq_true_eq]
      exact le_total _ _
  have apart : ((sortByPath entries).map Entry.path).Nodup :=
    ((sortByPath_perm entries).map Entry.path).nodup_iff.mpr distinct
  rw [List.Nodup, List.pairwise_map] at apart
  refine (ordered.and apart).imp ?_
  intro left right both
  exact lt_of_le_of_ne (of_decide_eq_true both.1) both.2

/-- Only one order of the entries is the order of their paths. -/
theorem eq_sortByPath {entries sorted : List Entry}
    (distinct : (entries.map Entry.path).Nodup) (same : sorted.Perm entries)
    (ordered : sorted.Pairwise (fun left right => left.path < right.path)) :
    sorted = sortByPath entries := by
  have exchange := same.trans (sortByPath_perm entries).symm
  refine exchange.eq_of_pairwise ?_ ordered (sortByPath_ordered distinct)
  intro left right _ _ before after
  exact absurd before (lt_asymm after)

/-- A registry is accepted exactly when its lists describe the Cargo projects
at the top level, each once; the entries are then given out, none left out and
none added, in the order of their paths. -/
theorem registry_exact (repr : Json → String)
    (floatIs : String → Int → Bool) (root : Root)
    (registry : Option (Except String Json)) (found : Discovered) :
    validateRepository repr floatIs root registry = .ok found ↔
      ∃ members workloads fixtures reserved,
        registry = some (.ok (.object members)) ∧
        Describes floatIs root members workloads fixtures reserved ∧
        found.workloads.Perm workloads ∧ found.fixtures.Perm fixtures ∧
        found.workloads.Pairwise (fun left right => left.path < right.path) ∧
        found.fixtures.Pairwise (fun left right => left.path < right.path) := by
  rw [validateRepository_eq_ok]
  constructor
  · intro accepted
    obtain ⟨members, workloads, fixtures, reserved, isRegistry, describes,
      isFound⟩ := accepted
    have paths := describes.paths
    rw [List.map_append, List.nodup_append, List.nodup_append] at paths
    refine ⟨members, workloads, fixtures, reserved, isRegistry, describes, ?_⟩
    rw [isFound]
    exact ⟨sortByPath_perm workloads, sortByPath_perm fixtures,
      sortByPath_ordered paths.1.1, sortByPath_ordered paths.1.2.1⟩
  · intro described
    obtain ⟨members, workloads, fixtures, reserved, isRegistry, describes,
      sameWorkloads, sameFixtures, workloadsOrdered, fixturesOrdered⟩ :=
      described
    have paths := describes.paths
    rw [List.map_append, List.nodup_append, List.nodup_append] at paths
    refine ⟨members, workloads, fixtures, reserved, isRegistry, describes, ?_⟩
    rw [← eq_sortByPath paths.1.1 sameWorkloads workloadsOrdered,
      ← eq_sortByPath paths.1.2.1 sameFixtures fixturesOrdered]

end Registry
