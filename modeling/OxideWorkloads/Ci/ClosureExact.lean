/-
Selection and parsing of a closure agree: what the selectors select is
accepted as it is, and what is accepted is what they select.
-/

import Mathlib.Data.List.TakeWhile
import OxideWorkloads.Ci.Closure
import OxideWorkloads.Foundation.Separated

namespace Closure

open Foundation
open Foundation.Checks
open Foundation.SortedKeys

/-! ### Paths -/

/-- The selector is the path or a directory above it. -/
def Covers (selector path : String) : Prop :=
  selector.toList.splitOn '/' <+: path.toList.splitOn '/'

instance (selector path : String) : Decidable (Covers selector path) :=
  inferInstanceAs (Decidable (_ <+: _))

/-- A normalised relative path: no part of it is empty or stays where it
is. -/
def Normal (path : String) : Prop :=
  ∀ part ∈ path.toList.splitOn '/', part ∉ [[], ['.'], ['.', '.']]

theorem strip_eq_nil {text : List Char} :
    Python.strip text = [] ↔ ∀ char ∈ text, Python.isSpace char = true := by
  unfold Python.strip Python.rstrip
  rw [List.reverse_eq_nil_iff, List.dropWhile_eq_nil_iff]
  constructor
  · intro blank char member
    rw [← @List.takeWhile_append_dropWhile _ Python.isSpace text] at member
    rcases List.mem_append.mp member with front | back
    · exact List.mem_takeWhile_imp front
    · exact blank char (List.mem_reverse.mpr back)
  · intro blank char member
    exact blank char ((List.dropWhile_sublist _).mem
      (List.mem_reverse.mp member))

theorem splitOn_singleton_end (text : List Char) :
    (text ++ ['/']).splitOn '/' = text.splitOn '/' ++ [[]] :=
  List.splitOn_append_cons_self text []

/-- A text whose last part is not empty ends with no slash. -/
theorem rstripSlash_of_splitOn {text : List Char}
    (parts : ∀ part ∈ text.splitOn '/', part ≠ []) :
    rstripSlash text = text := by
  unfold rstripSlash
  rcases List.eq_nil_or_concat text with empty | ⟨front, last, whole⟩
  · rw [empty]
    rfl
  · have solid : last ≠ '/' := by
      intro slash
      rw [whole, slash, List.concat_eq_append, splitOn_singleton_end] at parts
      exact parts [] (List.mem_append_right _ List.mem_cons_self) rfl
    rw [whole, List.concat_eq_append, List.reverse_append]
    change (List.dropWhile _ (last :: front.reverse)).reverse = _
    rw [List.dropWhile_cons_of_neg (by simp [solid]), List.reverse_cons,
      List.reverse_reverse]

/-- A selector of whole parts selects what it covers. -/
theorem selects_iff_covers {selector path : String}
    (parts : ∀ part ∈ selector.toList.splitOn '/', part ≠ []) :
    selects selector path = true ↔ Covers selector path := by
  unfold selects Covers
  rw [Separated.splitOn_initial_iff, rstripSlash_of_splitOn parts,
    Bool.or_eq_true, decide_eq_true_eq, List.isPrefixOf_iff_prefix]
  constructor
  · rintro (same | below)
    · rw [same]
      exact Or.inl rfl
    · exact Or.inr below
  · rintro (same | below)
    · exact Or.inl (String.toList_injective same).symm
    · exact Or.inr below

section SafePaths

variable {repr : String → String} {field path : String}

theorem requireString_eq_ok {text result : String} :
    requireString (some (.string text)) field = .ok result ↔
      Python.strip text.toList ≠ [] ∧ text = result := by
  simp only [requireString]
  by_cases blank : Python.strip text.toList = []
  · rw [if_pos blank]
    apply iff_of_false
    · intro impossible
      cases impossible
    · intro both
      exact both.1 blank
  · rw [if_neg blank, Except.ok.injEq]
    exact (and_iff_right blank).symm

theorem safePath_eq_ok {text : String} :
    safePath repr (some (.string text)) field = .ok path ↔
      Python.strip text.toList ≠ [] ∧
        (text.toList.head? ≠ some '/' ∧
          ∀ part ∈ pathParts text.toList,
            part ∉ [[], ['.'], ['.', '.']]) ∧
        String.ofList (asPosix text.toList) = path := by
  simp only [safePath, bind_eq_ok, requireString_eq_ok, ensure_eq_ok,
    pure_eq_ok]
  constructor
  · rintro ⟨_, ⟨solid, rfl⟩, _, safe, same⟩
    exact ⟨solid, safe, same⟩
  · rintro ⟨solid, safe, same⟩
    exact ⟨text, ⟨solid, rfl⟩, (), safe, same⟩

theorem mem_pathParts {text part : List Char} :
    part ∈ pathParts text ↔
      part ∈ text.splitOn '/' ∧ part ≠ [] ∧ part ≠ ['.'] := by
  unfold pathParts
  rw [List.mem_filter, decide_eq_true_eq]

/-- A path that is taken as it is has only parts that count, or stays where it
is. -/
theorem normal_of_unchanged {text : String}
    (unchanged : safePath repr (some (.string text)) field = .ok text) :
    text = "." ∨ Normal text := by
  obtain ⟨_, safe, same⟩ := safePath_eq_ok.mp unchanged
  have whole := congrArg String.toList same
  rw [String.toList_ofList] at whole
  unfold asPosix at whole
  by_cases none : pathParts text.toList = []
  · rw [if_pos none] at whole
    apply Or.inl
    apply String.toList_injective
    rw [← whole]
    rfl
  · rw [if_neg none] at whole
    apply Or.inr
    intro part member
    rw [← whole, List.splitOn_intercalate '/' _ none] at member
    · exact safe.2 part member
    · intro other inParts
      exact Separated.not_mem_of_mem_splitOn (mem_pathParts.mp inParts).1

theorem safePath_unchanged {text : String}
    (solid : Python.strip text.toList ≠ []) (normal : Normal text) :
    safePath repr (some (.string text)) field = .ok text := by
  have all : pathParts text.toList = text.toList.splitOn '/' := by
    apply List.filter_eq_self.mpr
    intro part member
    have counts := normal part member
    simp only [List.mem_cons, not_or] at counts
    exact decide_eq_true ⟨counts.1, counts.2.1⟩
  apply safePath_eq_ok.mpr
  refine ⟨solid, ⟨?_, ?_⟩, ?_⟩
  · intro absolute
    obtain ⟨rest, whole⟩ := List.head?_eq_some_iff.mp absolute
    have first := normal []
    rw [whole] at first
    exact first (by
      rw [← List.nil_append ('/' :: rest), List.splitOn_append_cons_self]
      exact List.mem_append_left _ List.mem_cons_self) List.mem_cons_self
  · rw [all]
    exact normal
  · rw [asPosix, all, if_neg (List.splitOn_ne_nil _ _),
      List.intercalate_splitOn, String.ofList_toList]

end SafePaths

/-! ### Selection -/

section Selection

variable {tree : Tree}

/-- What is selected is in the tree. -/
def Within (tree selected : Tree) : Prop :=
  ∀ path identity, selected.get? path = some identity →
    tree.get? path = some identity

theorem update_within {matched : List (String × String × String)}
    (listed : ∀ entry ∈ matched, tree.get? entry.1 = some entry.2)
    {selected : Tree} (within : Within tree selected) :
    Within tree (update selected matched) := by
  induction matched generalizing selected with
  | nil => exact within
  | cons entry matched ih =>
      apply ih fun other member => listed other (List.mem_cons_of_mem _ member)
      intro path identity found
      rw [Dict.get?_set] at found
      split at found
      · rename_i same
        rw [← same, ← found]
        exact listed entry List.mem_cons_self
      · exact within path identity found

theorem mem_keys_update {matched : List (String × String × String)}
    {selected : Tree} {path : String} :
    path ∈ (update selected matched).keys ↔
      path ∈ selected.keys ∨ ∃ entry ∈ matched, entry.1 = path := by
  induction matched generalizing selected with
  | nil =>
      constructor
      · exact Or.inl
      · rintro (old | ⟨entry, member, _⟩)
        · exact old
        · cases member
  | cons entry matched ih =>
      have step : update selected (entry :: matched) =
        update (selected.set entry.1 entry.2) matched := rfl
      rw [step, ih, Dict.mem_keys_set]
      constructor
      · rintro ((same | old) | ⟨other, member, same⟩)
        · exact Or.inr ⟨entry, List.mem_cons_self, same⟩
        · exact Or.inl old
        · exact Or.inr ⟨other, List.mem_cons_of_mem _ member, same⟩
      · rintro (old | ⟨other, member, same⟩)
        · exact Or.inl (Or.inr old)
        · rcases List.mem_cons.mp member with here | later
          · rw [here] at same
            exact Or.inl (Or.inl same)
          · exact Or.inr ⟨other, later, same⟩

/-- The selector selects a path of the tree. -/
def Matches (tree : Tree) (selector : String) : Prop :=
  ∃ path ∈ tree.keys, selects selector path = true

theorem mem_matched {selector path : String} :
    (∃ entry ∈ tree.entries.filter (fun entry => selects selector entry.1),
        entry.1 = path) ↔
      path ∈ tree.keys ∧ selects selector path = true := by
  unfold Dict.keys
  rw [List.mem_map]
  constructor
  · rintro ⟨entry, member, same⟩
    obtain ⟨inTree, selected⟩ := List.mem_filter.mp member
    rw [← same]
    exact ⟨⟨entry, inTree, rfl⟩, selected⟩
  · rintro ⟨⟨entry, inTree, same⟩, selected⟩
    rw [← same] at selected ⊢
    exact ⟨entry, List.mem_filter.mpr ⟨inTree, selected⟩, rfl⟩

theorem matched_eq_nil {selector : String} :
    tree.entries.filter (fun entry => selects selector entry.1) = [] ↔
      ¬Matches tree selector := by
  rw [List.eq_nil_iff_forall_not_mem]
  unfold Matches
  constructor
  · rintro none ⟨path, both⟩
    obtain ⟨entry, member, _⟩ := mem_matched.mpr both
    exact none entry member
  · intro unmatched entry member
    exact unmatched ⟨entry.1, mem_matched.mp ⟨entry, member, rfl⟩⟩

theorem selectAll_eq_none {includes : List String} {selected : Tree} :
    selectAll tree includes selected = none ↔
      ∃ selector ∈ includes, ¬Matches tree selector := by
  induction includes generalizing selected with
  | nil =>
      constructor
      · intro impossible
        cases impossible
      · rintro ⟨selector, member, _⟩
        cases member
  | cons selector includes ih =>
      simp only [selectAll]
      by_cases found : Matches tree selector
      · rw [if_neg (fun nothing => matched_eq_nil.mp nothing found), ih]
        constructor
        · rintro ⟨other, member, unmatched⟩
          exact ⟨other, List.mem_cons_of_mem _ member, unmatched⟩
        · rintro ⟨other, member, unmatched⟩
          rcases List.mem_cons.mp member with here | later
          · rw [here] at unmatched
            exact absurd found unmatched
          · exact ⟨other, later, unmatched⟩
      · rw [if_pos (matched_eq_nil.mpr found)]
        exact iff_of_true rfl ⟨selector, List.mem_cons_self, found⟩

theorem selectAll_spec {includes : List String} {selected result : Tree}
    (selects_ : selectAll tree includes selected = some result)
    (within : Within tree selected) :
    Within tree result ∧
      ∀ path, path ∈ result.keys ↔
        path ∈ selected.keys ∨
          path ∈ tree.keys ∧ ∃ selector ∈ includes,
            selects selector path = true := by
  induction includes generalizing selected with
  | nil =>
      cases selects_
      refine ⟨within, fun path => ?_⟩
      constructor
      · exact Or.inl
      · rintro (old | ⟨_, selector, member, _⟩)
        · exact old
        · cases member
  | cons selector includes ih =>
      simp only [selectAll] at selects_
      split at selects_
      · cases selects_
      · have listed : ∀ entry ∈ tree.entries.filter
            (fun entry => selects selector entry.1),
            tree.get? entry.1 = some entry.2 := by
          intro entry member
          exact Dict.mem_entries_iff.mp (List.mem_filter.mp member).1
        obtain ⟨withinResult, keys⟩ := ih selects_
          (update_within listed within)
        refine ⟨withinResult, fun path => ?_⟩
        rw [keys, mem_keys_update, mem_matched]
        constructor
        · rintro ((old | ⟨inTree, here⟩) | ⟨inTree, other, member, there⟩)
          · exact Or.inl old
          · exact Or.inr ⟨inTree, selector, List.mem_cons_self, here⟩
          · exact Or.inr ⟨inTree, other, List.mem_cons_of_mem _ member, there⟩
        · rintro (old | ⟨inTree, other, member, selected_⟩)
          · exact Or.inl (Or.inl old)
          · rcases List.mem_cons.mp member with here | later
            · rw [here] at selected_
              exact Or.inl (Or.inr ⟨inTree, selected_⟩)
            · exact Or.inr ⟨inTree, other, later, selected_⟩

/-- The entries that the selectors select, in the order of their paths. -/
structure Selected (tree : Tree) (includes : List String)
    (entries : List Entry) : Prop where
  matched : ∀ selector ∈ includes, Matches tree selector
  increasing : Increasing Entry.path entries
  mem_iff : ∀ entry, entry ∈ entries ↔
    tree.get? entry.path = some (entry.mode, entry.gitBlobOid) ∧
      ∃ selector ∈ includes, selects selector entry.path = true

theorem mem_map_toEntry {items : List (String × String × String)}
    {entry : Entry} :
    entry ∈ items.map toEntry ↔
      (entry.path, entry.mode, entry.gitBlobOid) ∈ items := by
  rw [List.mem_map]
  constructor
  · rintro ⟨item, member, same⟩
    rw [← same]
    exact member
  · intro member
    exact ⟨_, member, rfl⟩

theorem selected_of_trySelectClosure {includes : List String}
    {entries : List Entry}
    (selection : trySelectClosure tree includes = some entries) :
    Selected tree includes entries := by
  obtain ⟨result, selects_, same⟩ := Option.map_eq_some_iff.mp selection
  have empty : Within tree Dict.empty := by
    intro path identity found
    cases found
  obtain ⟨within, keys⟩ := selectAll_spec selects_ empty
  refine ⟨?_, ?_, ?_⟩
  · intro selector member
    by_contra unmatched
    have none := (@selectAll_eq_none tree includes Dict.empty).mpr
      ⟨selector, member, unmatched⟩
    rw [none] at selects_
    cases selects_
  · rw [← same]
    exact List.pairwise_map.mpr (sortBy_increasing result.distinct)
  · intro entry
    rw [← same, mem_map_toEntry, mem_sortBy, Dict.mem_entries_iff]
    have isKey := keys entry.path
    constructor
    · intro found
      have inKeys := Dict.mem_keys_iff.mpr (Option.isSome_iff_exists.mpr
        ⟨_, found⟩)
      rcases isKey.mp inKeys with old | ⟨_, selected⟩
      · cases old
      · exact ⟨within _ _ found, selected⟩
    · rintro ⟨inTree, selected⟩
      have treeKey := Dict.mem_keys_iff.mpr (Option.isSome_iff_exists.mpr
        ⟨_, inTree⟩)
      have inKeys := isKey.mpr (Or.inr ⟨treeKey, selected⟩)
      obtain ⟨identity, found⟩ := Option.isSome_iff_exists.mp
        (Dict.mem_keys_iff.mp inKeys)
      have identities := within _ _ found
      rw [inTree, Option.some.injEq] at identities
      rw [found, identities]

theorem trySelectClosure_eq_none {includes : List String} :
    trySelectClosure tree includes = none ↔
      ∃ selector ∈ includes, ¬Matches tree selector := by
  unfold trySelectClosure
  rw [Option.map_eq_none_iff, selectAll_eq_none]

/-- Nothing but the selected entries in their order is the result. -/
theorem trySelectClosure_eq_some {includes : List String}
    {entries : List Entry} :
    trySelectClosure tree includes = some entries ↔
      Selected tree includes entries := by
  constructor
  · exact selected_of_trySelectClosure
  · intro selected
    cases selection : trySelectClosure tree includes with
    | none =>
        obtain ⟨selector, member, unmatched⟩ :=
          trySelectClosure_eq_none.mp selection
        exact absurd (selected.matched selector member) unmatched
    | some others =>
        have same := selected_of_trySelectClosure selection
        have ext := same.increasing.ext selected.increasing
          (fun entry => (same.mem_iff entry).trans (selected.mem_iff entry).symm)
        rw [ext]

end Selection

/-! ### Recorded entries -/

/-- An entry as it is recorded. -/
def Entry.toJson (entry : Entry) : Json :=
  .object
    [("path", .string entry.path), ("mode", .string entry.mode),
      ("git_blob_oid", .string entry.gitBlobOid)]

/-- What a selection with regular files has to be. -/
structure Acceptable (includes : List String) (entry : Entry) : Prop where
  regular : entry.mode ∈ regularGitModes
  hex : isHex40 entry.gitBlobOid = true
  covered : ∃ selector ∈ includes, selects selector entry.path = true

section Parsing

variable {repr : String → String} {includes : List String}

theorem requireHex40_eq_ok {value : Option Json} {field text : String} :
    requireHex40 value field = .ok text ↔
      value = some (.string text) ∧ isHex40 text = true := by
  constructor
  · intro required
    unfold requireHex40 at required
    split at required
    · split at required
      · rename_i hex
        cases required
        exact ⟨rfl, hex⟩
      · cases required
    · cases required
  · rintro ⟨rfl, hex⟩
    exact if_pos hex

theorem parseEntry_acceptable {entries : List Entry} {index : Nat}
    {item : Json} {entry : Entry}
    (parses : parseEntry repr includes entries index item = .ok entry) :
    entry.path ∉ entries.map Entry.path ∧ Acceptable includes entry := by
  unfold parseEntry at parses
  simp only [bind_eq_ok, ensure_eq_ok, pure_eq_ok, requireHex40_eq_ok]
    at parses
  obtain ⟨_, _, path, _, _, new, mode, _, _, regular, oid, ⟨_, hex⟩, _,
    covered, same⟩ := parses
  rw [← same]
  exact ⟨new,
    { regular := regular
      hex := hex
      covered := covered }⟩

theorem regular_solid {mode : String} (regular : mode ∈ regularGitModes) :
    Python.strip mode.toList ≠ [] := by
  revert mode
  decide

theorem parseEntry_toJson {entries : List Entry} {entry : Entry}
    (index : Nat)
    (unchanged : ∀ field,
      safePath repr (some (.string entry.path)) field = .ok entry.path)
    (new : entry.path ∉ entries.map Entry.path)
    (acceptable : Acceptable includes entry) :
    parseEntry repr includes entries index entry.toJson = .ok entry := by
  unfold parseEntry Entry.toJson
  simp only [bind_eq_ok, ensure_eq_ok, pure_eq_ok, requireHex40_eq_ok]
  exact ⟨_, rfl, entry.path, unchanged _, (), new, entry.mode,
    requireString_eq_ok.mpr ⟨regular_solid acceptable.regular, rfl⟩, (),
    acceptable.regular, entry.gitBlobOid, ⟨rfl, acceptable.hex⟩, (),
    acceptable.covered, rfl⟩

/-- What the loop over the entries keeps: different paths, and entries that are
acceptable. -/
theorem parseItems_acceptable {entries result : List Entry} {index : Nat}
    {items : List Json}
    (parses : parseItems repr includes entries index items = .ok result)
    (distinct : (entries.map Entry.path).Nodup)
    (acceptable : ∀ entry ∈ entries, Acceptable includes entry) :
    (result.map Entry.path).Nodup ∧
      (∀ entry ∈ result, Acceptable includes entry) ∧
      result.length = entries.length + items.length := by
  induction items generalizing entries index with
  | nil =>
      cases parses
      exact ⟨distinct, acceptable, rfl⟩
  | cons item items ih =>
      rw [parseItems, bind_eq_ok] at parses
      obtain ⟨entry, first, rest⟩ := parses
      obtain ⟨new, good⟩ := parseEntry_acceptable first
      have parts := ih rest ?_ ?_
      · rw [List.length_append, List.length_singleton] at parts
        refine ⟨parts.1, parts.2.1, ?_⟩
        rw [parts.2.2, List.length_cons]
        omega
      · rw [List.map_append, List.map_singleton]
        apply List.Nodup.append distinct (List.nodup_singleton _)
        intro path member here
        rw [List.mem_singleton.mp here] at member
        exact new member
      · intro other member
        rcases List.mem_append.mp member with old | here
        · exact acceptable other old
        · rw [List.mem_singleton.mp here]
          exact good

theorem parseItems_toJson {more : List Entry}
    (unchanged : ∀ entry ∈ more, ∀ field,
      safePath repr (some (.string entry.path)) field = .ok entry.path)
    (acceptable : ∀ entry ∈ more, Acceptable includes entry)
    (entries : List Entry) (index : Nat)
    (distinct : ((entries ++ more).map Entry.path).Nodup) :
    parseItems repr includes entries index (more.map Entry.toJson) =
      .ok (entries ++ more) := by
  induction more generalizing entries index with
  | nil =>
      rw [List.append_nil]
      rfl
  | cons entry more ih =>
      have new : entry.path ∉ entries.map Entry.path := by
        intro member
        rw [List.map_append, List.nodup_append] at distinct
        exact distinct.2.2 _ member _ List.mem_cons_self rfl
      have parsed := parseEntry_toJson index
        (unchanged entry List.mem_cons_self) new
        (acceptable entry List.mem_cons_self)
      have whole : entries ++ entry :: more = entries ++ [entry] ++ more := by
        rw [List.append_assoc, List.singleton_append]
      rw [whole] at distinct ⊢
      rw [List.map_cons, parseItems, parsed, ok_bind]
      exact ih
        (fun other member => unchanged other (List.mem_cons_of_mem _ member))
        (fun other member => acceptable other (List.mem_cons_of_mem _ member))
        (entries ++ [entry]) (index + 1) distinct

/-- What is recorded and accepted: sorted acceptable entries, with one for each
selector. -/
structure Recorded (includes : List String) (entries : List Entry) :
    Prop where
  nonempty : entries ≠ []
  increasing : Increasing Entry.path entries
  acceptable : ∀ entry ∈ entries, Acceptable includes entry
  complete : ∀ selector ∈ includes,
    ∃ entry ∈ entries, selects selector entry.path = true

theorem increasing_of_sorted {entries : List Entry}
    (distinct : (entries.map Entry.path).Nodup)
    (sorted : entries.map Entry.path = sortBy id (entries.map Entry.path)) :
    Increasing Entry.path entries := by
  apply List.pairwise_map.mp
  have ids : ((entries.map Entry.path).map id).Nodup := by
    rw [List.map_id]
    exact distinct
  have increasing := sortBy_increasing ids
  rw [← sorted] at increasing
  exact increasing

theorem parseClosureEntries_recorded {value : Json} {entries : List Entry}
    (parses : parseClosureEntries repr value includes = .ok entries) :
    Recorded includes entries := by
  unfold parseClosureEntries at parses
  split at parses
  · rename_i first rest
    simp only [bind_eq_ok, ensure_eq_ok, pure_eq_ok] at parses
    obtain ⟨parsed, items, _, sorted, _, checks, same⟩ := parses
    rw [same] at items sorted checks
    obtain ⟨distinct, acceptable, length⟩ := parseItems_acceptable items
      List.nodup_nil (fun _ member => absurd member List.not_mem_nil)
    refine ⟨?_, increasing_of_sorted distinct sorted, acceptable, ?_⟩
    · intro none
      rw [none] at length
      simp only [List.length_nil, List.length_cons] at length
      omega
    · intro selector member
      have check := forM_eq_ok.mp checks selector member
      exact ensure_eq_ok.mp check
  · cases parses

theorem parseClosureEntries_toJson {entries : List Entry}
    (recorded : Recorded includes entries)
    (unchanged : ∀ entry ∈ entries, ∀ field,
      safePath repr (some (.string entry.path)) field = .ok entry.path) :
    parseClosureEntries repr (.array (entries.map Entry.toJson)) includes =
      .ok entries := by
  have items := parseItems_toJson unchanged recorded.acceptable [] 0
    recorded.increasing.distinct
  obtain ⟨first, rest, whole⟩ :=
    List.exists_cons_of_ne_nil recorded.nonempty
  have sorted : entries.map Entry.path =
      sortBy id (entries.map Entry.path) := by
    apply (sortBy_eq_self _).symm
    exact List.pairwise_map.mpr recorded.increasing
  rw [List.nil_append] at items
  unfold parseClosureEntries
  rw [whole] at items sorted ⊢
  rw [List.map_cons] at items ⊢
  simp only [bind_eq_ok, ensure_eq_ok, pure_eq_ok]
  refine ⟨_, items, (), sorted, (), forM_eq_ok.mpr ?_, rfl⟩
  intro selector member
  apply ensure_eq_ok.mpr
  rw [← whole]
  exact recorded.complete selector member

end Parsing

/-! ### Agreement -/

/-- A selector that the manifest may hold as it is. -/
def Accepted (repr : String → String) (selector : String) : Prop :=
  safePath repr (some (.string selector)) "semantic_closure.includes[]" =
    .ok selector

section Agreement

variable {repr : String → String} {includes : List String} {tree : Tree}

theorem Accepted.selects_iff {selector : String}
    (accepted : Accepted repr selector) (path : String) :
    selects selector path = true ↔ Covers selector path := by
  apply selects_iff_covers
  intro part member empty
  rcases normal_of_unchanged accepted with stays | normal
  · rw [stays, empty] at member
    revert member
    decide
  · rw [empty] at member
    exact normal [] member List.mem_cons_self

/-- What an accepted selector selects is no blank text. -/
theorem Accepted.solid {selector path : String}
    (accepted : Accepted repr selector)
    (selected : selects selector path = true) :
    Python.strip path.toList ≠ [] := by
  unfold selects at selected
  rw [Bool.or_eq_true, decide_eq_true_eq] at selected
  rcases selected with same | below
  · rw [same]
    exact (safePath_eq_ok.mp accepted).1
  · intro blank
    have slash : '/' ∈ path.toList :=
      (List.isPrefixOf_iff_prefix.mp below).subset
        (List.mem_append_right _ List.mem_cons_self)
    have space := strip_eq_nil.mp blank '/' slash
    cases space

/-- What is selected with regular files can be recorded as it is. -/
theorem Selected.recorded {entries : List Entry}
    (selected : Selected tree includes entries) (nonempty : includes ≠ [])
    (regular : ∀ entry ∈ entries,
      entry.mode ∈ regularGitModes ∧ isHex40 entry.gitBlobOid = true) :
    Recorded includes entries := by
  have complete : ∀ selector ∈ includes,
      ∃ entry ∈ entries, selects selector entry.path = true := by
    intro selector member
    obtain ⟨path, inTree, found⟩ := selected.matched selector member
    obtain ⟨identity, value⟩ := Option.isSome_iff_exists.mp
      (Dict.mem_keys_iff.mp inTree)
    exact ⟨toEntry (path, identity), (selected.mem_iff _).mpr
      ⟨value, selector, member, found⟩, found⟩
  refine ⟨?_, selected.increasing, ?_, complete⟩
  · intro none
    obtain ⟨selector, rest, whole⟩ := List.exists_cons_of_ne_nil nonempty
    obtain ⟨entry, member, _⟩ := complete selector (by
      rw [whole]
      exact List.mem_cons_self)
    rw [none] at member
    cases member
  · intro entry member
    exact
      { regular := (regular entry member).1
        hex := (regular entry member).2
        covered := ((selected.mem_iff entry).mp member).2 }

/-- What is recorded is what the selectors select of it. -/
theorem Recorded.selected {entries : List Entry}
    (recorded : Recorded includes entries)
    (exactly : ∀ entry, entry ∈ entries ↔
      tree.get? entry.path = some (entry.mode, entry.gitBlobOid)) :
    Selected tree includes entries := by
  refine ⟨?_, recorded.increasing, ?_⟩
  · intro selector member
    obtain ⟨entry, inEntries, found⟩ := recorded.complete selector member
    refine ⟨entry.path, ?_, found⟩
    exact Dict.mem_keys_iff.mpr (Option.isSome_iff_exists.mpr
      ⟨_, (exactly entry).mp inEntries⟩)
  · intro entry
    rw [← exactly entry]
    constructor
    · intro member
      exact ⟨member, (recorded.acceptable entry member).covered⟩
    · exact fun both => both.1

end Agreement

/-- Selection and parsing agree in both directions. -/
theorem trySelectClosure_agrees (repr : String → String)
    (includes : List String) :
    (∀ tree : Tree, includes ≠ [] →
      (∀ selector ∈ includes, Accepted repr selector) →
      (∀ path ∈ tree.keys, Normal path) →
      (∀ path mode oid, tree.get? path = some (mode, oid) →
        (∃ selector ∈ includes, Covers selector path) →
          mode ∈ regularGitModes ∧ isHex40 oid = true) →
      (trySelectClosure tree includes = none ↔
        ∃ selector ∈ includes, ∀ path ∈ tree.keys,
          ¬Covers selector path) ∧
      ∀ entries, trySelectClosure tree includes = some entries →
        Increasing Entry.path entries ∧
        (∀ others, (∀ selector, selector ∈ others ↔ selector ∈ includes) →
          trySelectClosure tree others = some entries) ∧
        (∀ entry, entry ∈ entries ↔
          tree.get? entry.path = some (entry.mode, entry.gitBlobOid) ∧
            ∃ selector ∈ includes, Covers selector entry.path) ∧
        parseClosureEntries repr (.array (entries.map Entry.toJson))
          includes = .ok entries) ∧
    ∀ value entries (tree : Tree),
      parseClosureEntries repr value includes = .ok entries →
      (∀ entry, entry ∈ entries ↔
        tree.get? entry.path = some (entry.mode, entry.gitBlobOid)) →
      trySelectClosure tree includes = some entries := by
  constructor
  · intro tree nonempty accepted normal regular
    have covers : ∀ path, (∃ selector ∈ includes,
        selects selector path = true) ↔
        ∃ selector ∈ includes, Covers selector path := by
      intro path
      constructor
      · rintro ⟨selector, member, found⟩
        exact ⟨selector, member,
          ((accepted selector member).selects_iff path).mp found⟩
      · rintro ⟨selector, member, covered⟩
        exact ⟨selector, member,
          ((accepted selector member).selects_iff path).mpr covered⟩
    constructor
    · rw [trySelectClosure_eq_none]
      constructor
      · rintro ⟨selector, member, unmatched⟩
        refine ⟨selector, member, fun path inTree covered => unmatched ?_⟩
        exact ⟨path, inTree,
          ((accepted selector member).selects_iff path).mpr covered⟩
      · rintro ⟨selector, member, uncovered⟩
        refine ⟨selector, member, ?_⟩
        rintro ⟨path, inTree, found⟩
        exact uncovered path inTree
          (((accepted selector member).selects_iff path).mp found)
    · intro entries selection
      have selected := trySelectClosure_eq_some.mp selection
      have recorded := selected.recorded nonempty (by
        intro entry member
        obtain ⟨inTree, found⟩ := (selected.mem_iff entry).mp member
        exact regular entry.path _ _ inTree ((covers entry.path).mp found))
      refine ⟨selected.increasing, ?_, ?_, ?_⟩
      · intro others same
        apply trySelectClosure_eq_some.mpr
        refine ⟨?_, selected.increasing, ?_⟩
        · intro selector member
          exact selected.matched selector ((same selector).mp member)
        · intro entry
          simp only [same]
          exact selected.mem_iff entry
      · intro entry
        rw [selected.mem_iff, covers]
      · apply parseClosureEntries_toJson recorded
        intro entry member field
        obtain ⟨inTree, selector, isSelector, found⟩ :=
          (selected.mem_iff entry).mp member
        apply safePath_unchanged
        · exact (accepted selector isSelector).solid found
        · exact normal entry.path (Dict.mem_keys_iff.mpr
            (Option.isSome_iff_exists.mpr ⟨_, inTree⟩))
  · intro value entries tree parses exactly
    exact trySelectClosure_eq_some.mpr
      ((parseClosureEntries_recorded parses).selected exactly)

/-- A file of the source directory with an object id of so many digits. -/
def libraryEntry (path : String) (digits : Nat) : Entry :=
  { path := path
    mode := "100644"
    gitBlobOid := String.ofList (List.replicate digits '0') }

def treeOf (entry : Entry) : Tree :=
  Dict.empty.set entry.path (entry.mode, entry.gitBlobOid)

/-- Two files of a source directory and one beside it. -/
def libraryTree : Tree :=
  ((treeOf (libraryEntry "src/main.rs" 40)).set "src/lib.rs"
    ("100644", (libraryEntry "src/lib.rs" 40).gitBlobOid)).set "README.md"
      ("100644", (libraryEntry "README.md" 40).gitBlobOid)

/-- Selectors that overlap. -/
theorem trySelectClosure_agrees_library :
    trySelectClosure libraryTree ["src", "src/lib.rs"] =
        some [libraryEntry "src/lib.rs" 40, libraryEntry "src/main.rs" 40] ∧
      parseClosureEntries id (.array [(libraryEntry "src/lib.rs" 40).toJson,
        (libraryEntry "src/main.rs" 40).toJson]) ["src", "src/lib.rs"] =
          .ok [libraryEntry "src/lib.rs" 40,
            libraryEntry "src/main.rs" 40] :=
  have keys : libraryTree.keys = ["src/main.rs", "src/lib.rs", "README.md"] :=
    by decide +kernel
  have selection : trySelectClosure libraryTree ["src", "src/lib.rs"] =
      some [libraryEntry "src/lib.rs" 40, libraryEntry "src/main.rs" 40] := by
    decide +kernel
  have regular : ∀ path mode oid, libraryTree.get? path = some (mode, oid) →
      mode ∈ regularGitModes ∧ isHex40 oid = true := by
    intro path mode oid found
    rw [libraryTree, treeOf, Dict.get?_set, Dict.get?_set,
      Dict.get?_set] at found
    split at found
    · cases found
      decide +kernel
    · split at found
      · cases found
        decide +kernel
      · split at found
        · cases found
          decide +kernel
        · cases found
  ⟨selection, (((trySelectClosure_agrees id ["src", "src/lib.rs"]).1
    libraryTree (by decide)
    (by unfold Accepted; decide +kernel)
    (by rw [keys]; unfold Normal; decide +kernel)
    (fun path mode oid found _ => regular path mode oid found)).2 _
      selection).2.2.2⟩

/-- A selected object id of another length is not accepted, and what is
accepted of a path that is not normalised is another path. -/
theorem trySelectClosure_disagrees :
    Accepted id "src" ∧ Normal "src/lib.rs" ∧
      trySelectClosure (treeOf (libraryEntry "src/lib.rs" 64)) ["src"] =
        some [libraryEntry "src/lib.rs" 64] ∧
      (∀ entries, parseClosureEntries id
        (.array [(libraryEntry "src/lib.rs" 64).toJson]) ["src"] ≠
          .ok entries) ∧
      parseClosureEntries id
        (.array [(libraryEntry "./src/lib.rs" 40).toJson]) ["src"] =
          .ok [libraryEntry "src/lib.rs" 40] ∧
      trySelectClosure (treeOf (libraryEntry "./src/lib.rs" 40)) ["src"] =
        none := by
  have rejected : (parseClosureEntries id
      (.array [(libraryEntry "src/lib.rs" 64).toJson]) ["src"]).isOk =
        false := by
    decide +kernel
  refine ⟨by unfold Accepted; decide +kernel,
    by unfold Normal; decide +kernel, by decide +kernel, ?_,
    by decide +kernel, by decide +kernel⟩
  intro entries accepted
  rw [accepted] at rejected
  cases rejected

end Closure
