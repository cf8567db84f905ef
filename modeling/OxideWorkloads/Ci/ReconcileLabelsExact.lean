/-
Reconciled labels are a fixed point: the labels of people stay in their order,
one type at most leads them, and a second run changes nothing.
-/

import OxideWorkloads.Ci.ReconcileLabels
import OxideWorkloads.Foundation.Distinct

namespace Labels

open Foundation
open Foundation.Checks
open Foundation.Distinct

/-- The inferred types belong to the group of the types, and the areas do
not. -/
structure Policy.Consistent (policy : Policy) : Prop where
  types : ∀ rule ∈ typeRules, policy.isType rule.2 = true
  areas : ∀ area ∈ referencedAreas, policy.isType area = false

theorem Policy.Consistent.not_empty {policy : Policy}
    (consistent : policy.Consistent) {label : String}
    (isType : policy.isType label = true) : label ≠ "" := by
  intro empty
  have area := consistent.areas "area:ci" (by decide)
  unfold Policy.isType startsWith at isType area
  rw [empty] at isType
  have none : policy.typePrefix.toList = [] :=
    List.prefix_nil.mp (List.isPrefixOf_iff_prefix.mp isType)
  rw [none] at area
  cases area

/-! ### The areas -/

section Areas

variable (policy : Policy)

theorem foldl_addArea (desired areas : List String) :
    ∃ added, areas.foldl (addArea policy) desired = desired ++ added ∧
      (∀ area ∈ added, area ∈ areas ∧ area ∈ policy.known ∧
        area ∉ desired) ∧
      added.Nodup ∧
      ∀ area ∈ areas, area ∈ policy.known →
        area ∈ desired ++ added := by
  induction areas generalizing desired with
  | nil =>
      refine ⟨[], (List.append_nil _).symm, ?_, List.nodup_nil, ?_⟩
      · intro area member
        cases member
      · intro area member
        cases member
  | cons area areas ih =>
      rw [List.foldl_cons, addArea]
      by_cases new : area ∈ policy.known ∧ area ∉ desired
      · rw [if_pos new]
        obtain ⟨added, whole, sources, distinct, complete⟩ :=
          ih (desired ++ [area])
        refine ⟨area :: added, ?_, ?_, ?_, ?_⟩
        · rw [whole, List.append_assoc, List.singleton_append]
        · intro other member
          rcases List.mem_cons.mp member with here | later
          · rw [here]
            exact ⟨List.mem_cons_self, new⟩
          · obtain ⟨inAreas, known, absent⟩ := sources other later
            exact ⟨List.mem_cons_of_mem _ inAreas, known, fun old =>
              absent (List.mem_append_left _ old)⟩
        · apply List.nodup_cons.mpr
          constructor
          · intro again
            exact (sources area again).2.2
              (List.mem_append_right _ List.mem_cons_self)
          · exact distinct
        · intro other member known
          have kept : ∀ element, element ∈ desired ++ [area] ++ added →
              element ∈ desired ++ area :: added := by
            intro element inside
            rw [List.append_assoc, List.singleton_append] at inside
            exact inside
          rcases List.mem_cons.mp member with here | later
          · rw [here]
            exact List.mem_append_right _ List.mem_cons_self
          · exact kept other (complete other later known)
      · rw [if_neg new]
        obtain ⟨added, whole, sources, distinct, complete⟩ := ih desired
        refine ⟨added, whole, ?_, distinct, ?_⟩
        · intro other member
          obtain ⟨inAreas, rest⟩ := sources other member
          exact ⟨List.mem_cons_of_mem _ inAreas, rest⟩
        · intro other member known
          rcases List.mem_cons.mp member with here | later
          · rw [here] at known ⊢
            by_cases old : area ∈ desired
            · exact List.mem_append_left _ old
            · exact absurd ⟨known, old⟩ new
          · exact complete other later known

/-- Areas that are all there already change nothing. -/
theorem foldl_addArea_fixed {desired areas : List String}
    (complete : ∀ area ∈ areas, area ∈ policy.known → area ∈ desired) :
    areas.foldl (addArea policy) desired = desired := by
  induction areas with
  | nil => rfl
  | cons area areas ih =>
      have old : ¬(area ∈ policy.known ∧ area ∉ desired) := by
        intro new
        exact new.2 (complete area List.mem_cons_self new.1)
      rw [List.foldl_cons, addArea, if_neg old]
      exact ih fun other member =>
        complete other (List.mem_cons_of_mem _ member)

theorem addAreas_fixed {desired areas : List String}
    (complete : ∀ area ∈ areas, area ∈ policy.known → area ∈ desired) :
    addAreas policy desired areas = desired := by
  apply foldl_addArea_fixed
  intro area member known
  exact complete area (List.mem_insertionSort _ |>.mp member) known

theorem addAreas_spec (desired areas : List String) :
    ∃ added, addAreas policy desired areas = desired ++ added ∧
      (∀ area ∈ added, area ∈ areas ∧ area ∈ policy.known ∧
        area ∉ desired) ∧
      added.Nodup ∧
      ∀ area ∈ areas, area ∈ policy.known → area ∈ desired ++ added := by
  obtain ⟨added, whole, sources, distinct, complete⟩ :=
    foldl_addArea policy desired
      (areas.insertionSort (fun left right => left ≤ right))
  refine ⟨added, whole, ?_, distinct, ?_⟩
  · intro area member
    obtain ⟨inAreas, rest⟩ := sources area member
    exact ⟨(List.mem_insertionSort _).mp inAreas, rest⟩
  · intro area member known
    exact complete area ((List.mem_insertionSort _).mpr member) known

end Areas

/-! ### The type -/

/-- Two different labels of the list are such labels. -/
def Two (holds : String → Bool) (labels : List String) : Prop :=
  ∃ one ∈ labels, ∃ other ∈ labels,
    one ≠ other ∧ holds one = true ∧ holds other = true

theorem two_iff {holds : String → Bool} {labels : List String} :
    2 ≤ (labels.eraseDups.filter holds).length ↔ Two holds labels := by
  rw [two_le_length_iff ((nodup_eraseDups labels).filter holds)]
  unfold Two
  simp only [List.mem_filter, List.mem_eraseDups]
  constructor
  · rintro ⟨one, oneIn, other, otherIn, different⟩
    exact ⟨one, oneIn.1, other, otherIn.1, different, oneIn.2, otherIn.2⟩
  · rintro ⟨one, oneIn, other, otherIn, different, oneHolds, otherHolds⟩
    exact ⟨one, ⟨oneIn, oneHolds⟩, other, ⟨otherIn, otherHolds⟩, different⟩

def Policy.isStructural (policy : Policy) (label : String) : Bool :=
  policy.isType label && decide (label ∈ policy.structural)

theorem structural_filter (policy : Policy) (labels : List String) :
    (labels.filter policy.isType).filter
        (fun label => label ∈ policy.structural) =
      labels.filter policy.isStructural := by
  rw [List.filter_filter]
  apply List.filter_congr
  intro label _
  exact Bool.and_comm _ _

theorem truthy_of_ne {label : String} (present : label ≠ "") :
    truthy (some label) = some label := by
  simp [truthy, present]

/-- A type is never the empty text. -/
theorem truthy_selected {policy : Policy} (consistent : policy.Consistent)
    {selected : Option String}
    (isType : ∀ label, selected = some label →
      policy.isType label = true) : truthy selected = selected := by
  cases selected with
  | none => rfl
  | some label =>
      exact truthy_of_ne (consistent.not_empty (isType label rfl))

section Selecting

variable {repr : String → String} {policy : Policy}
  {inferredType : Option String}

/-- The inferred type belongs to the group of the types. -/
def Carries (policy : Policy) (inferredType : Option String) : Prop :=
  ∀ label, inferredType = some label → policy.isType label = true

theorem selectType_isType (consistent : policy.Consistent)
    (carries : Carries policy inferredType) {labels : List String}
    {selected : Option String}
    (selects : selectType repr (labels.filter policy.isType)
      (labels.filter policy.isStructural) inferredType = .ok selected) :
    ∀ label, selected = some label →
      policy.isType label = true ∧
        (label ∈ labels ∨ inferredType = some label) := by
  intro label same
  unfold selectType at selects
  rw [truthy_selected consistent carries] at selects
  cases structural : labels.filter policy.isStructural with
  | cons first rest =>
      rw [structural] at selects
      cases selects
      cases same
      have member : label ∈ labels.filter policy.isStructural := by
        rw [structural]
        exact List.mem_cons_self
      have parts := List.mem_filter.mp member
      unfold Policy.isStructural at parts
      rw [Bool.and_eq_true] at parts
      exact ⟨parts.2.1, Or.inl parts.1⟩
  | nil =>
      rw [structural] at selects
      cases inferredType with
      | some inferred =>
          cases selects
          cases same
          exact ⟨carries label rfl, Or.inr rfl⟩
      | none =>
          by_cases few : (labels.filter policy.isType).length ≤ 1
          · simp only [if_pos few] at selects
            cases selects
            have parts := List.mem_filter.mp (List.mem_of_mem_head? same)
            exact ⟨parts.2, Or.inl parts.1⟩
          · simp only [if_neg few] at selects
            cases selects

/-- No type is selected exactly where several could be. -/
theorem selectType_isOk (consistent : policy.Consistent)
    (carries : Carries policy inferredType) (types structural : List String) :
    (∃ selected, selectType repr types structural inferredType =
        .ok selected) ↔
      ¬(structural = [] ∧ inferredType = none ∧ 2 ≤ types.length) := by
  unfold selectType
  rw [truthy_selected consistent carries]
  cases structural with
  | cons first rest => exact iff_of_true ⟨_, rfl⟩ (fun all => by cases all.1)
  | nil =>
      cases inferredType with
      | some inferred =>
          exact iff_of_true ⟨_, rfl⟩ (fun all => by cases all.2.1)
      | none =>
          by_cases few : types.length ≤ 1
          · simp only [if_pos few]
            exact iff_of_true ⟨_, rfl⟩ (fun all => by omega)
          · simp only [if_neg few]
            apply iff_of_false
            · rintro ⟨selected, impossible⟩
              cases impossible
            · intro unambiguous
              exact unambiguous ⟨trivial, trivial, by omega⟩

/-- Once it stands in the list, the selected type is selected again. -/
theorem selectType_again (consistent : policy.Consistent)
    (carries : Carries policy inferredType) {types structural : List String}
    {selected : Option String}
    (among : ∀ label ∈ structural, policy.isStructural label = true)
    (selects : selectType repr types structural inferredType = .ok selected)
    (absent : structural = [] → ∀ label ∈ types,
      policy.isStructural label = false) :
    selectType repr selected.toList
        (selected.toList.filter policy.isStructural) inferredType =
      .ok selected := by
  unfold selectType at selects ⊢
  rw [truthy_selected consistent carries] at selects ⊢
  cases structural with
  | cons first rest =>
      cases selects
      rw [Option.toList_some, List.filter_cons_of_pos
        (among first List.mem_cons_self)]
  | nil =>
      cases inferredType with
      | some inferred =>
          cases selects
          rw [Option.toList_some]
          by_cases again : policy.isStructural inferred = true
          · rw [List.filter_cons_of_pos again]
          · rw [List.filter_cons_of_neg again]
            rfl
      | none =>
          by_cases few : types.length ≤ 1
          · simp only [if_pos few] at selects
            cases types with
            | nil =>
                cases selects
                rfl
            | cons only rest =>
                cases selects
                have plain := absent rfl only List.mem_cons_self
                rw [List.head?_cons, Option.toList_some,
                  List.filter_cons_of_neg (by rw [plain]; decide)]
                rfl
          · simp only [if_neg few] at selects
            cases selects

end Selecting

/-! ### The result -/

section Results

variable {repr : String → String} {policy : Policy}
  {inferredType : Option String} {inferredAreas : List String}

/-- No inferred area belongs to the group of the types. -/
def Plain (policy : Policy) (inferredAreas : List String) : Prop :=
  ∀ area ∈ inferredAreas, policy.isType area = false

/-- The labels that are no types, in their order. -/
def Policy.others (policy : Policy) (labels : List String) : List String :=
  labels.eraseDups.filter (fun label => !policy.isType label)

theorem reconcileLabels_eq_ok {current result : List String} :
    reconcileLabels repr current inferredType inferredAreas policy =
        .ok result ↔
      (current.eraseDups.filter policy.isStructural).length ≤ 1 ∧
        ∃ selected,
          selectType repr (current.eraseDups.filter policy.isType)
              (current.eraseDups.filter policy.isStructural) inferredType =
            .ok selected ∧
          (addAreas policy
              ((truthy selected).toList ++ policy.others current)
              inferredAreas).eraseDups = result := by
  unfold reconcileLabels Policy.others
  simp only [bind_eq_ok, ensure_eq_ok, pure_eq_ok, structural_filter]
  constructor
  · rintro ⟨_, single, selected, selects, same⟩
    exact ⟨single, selected, selects, same⟩
  · rintro ⟨single, selected, selects, same⟩
    exact ⟨(), single, selected, selects, same⟩

/-- A result is one type at most, the other labels, and new areas. -/
structure Settled (policy : Policy) (current : List String)
    (inferredType : Option String) (inferredAreas result : List String)
    (selected : Option String) (added : List String) : Prop where
  whole : result = selected.toList ++ policy.others current ++ added
  source : ∀ label, selected = some label →
    policy.isType label = true ∧
      (label ∈ current ∨ inferredType = some label)
  areas : ∀ area ∈ added, area ∈ inferredAreas ∧ area ∈ policy.known
  distinct : result.Nodup
  complete : ∀ area ∈ inferredAreas, area ∈ policy.known → area ∈ result

theorem addAreas_settled (consistent : policy.Consistent)
    {current : List String} {selected : Option String}
    (source : ∀ label, selected = some label →
      policy.isType label = true ∧
        (label ∈ current ∨ inferredType = some label)) :
    ∃ added, Settled policy current inferredType inferredAreas
      (addAreas policy ((truthy selected).toList ++ policy.others current)
        inferredAreas).eraseDups selected added := by
  have kept := truthy_selected consistent fun label same =>
    (source label same).1
  obtain ⟨added, whole, sources, distinctAdded, complete⟩ :=
    addAreas_spec policy ((truthy selected).toList ++ policy.others current)
      inferredAreas
  have first : (selected.toList ++ policy.others current).Nodup := by
    apply List.Nodup.append
    · cases selected with
      | none => exact List.nodup_nil
      | some label => exact List.nodup_singleton label
    · exact (nodup_eraseDups current).filter _
    · intro label isSelected isOther
      have isType := (source label (Option.mem_toList.mp isSelected)).1
      have notType := (List.mem_filter.mp isOther).2
      rw [isType] at notType
      cases notType
  rw [kept] at whole sources complete ⊢
  have distinct : (selected.toList ++ policy.others current ++ added).Nodup :=
    List.Nodup.append first distinctAdded
      (fun area old new => (sources area new).2.2 old)
  rw [whole, eraseDups_of_nodup distinct]
  exact ⟨added,
    { whole := rfl
      source := source
      areas := fun area member =>
        ⟨(sources area member).1, (sources area member).2.1⟩
      distinct := distinct
      complete := complete }⟩

theorem Settled.types {current result added : List String}
    {selected : Option String}
    (settled : Settled policy current inferredType inferredAreas result
      selected added) (plain : Plain policy inferredAreas) :
    result.filter policy.isType = selected.toList := by
  have noOthers : (policy.others current).filter policy.isType = [] := by
    apply List.filter_eq_nil_iff.mpr
    intro label member isType
    have notType := (List.mem_filter.mp member).2
    rw [isType] at notType
    cases notType
  have noAreas : added.filter policy.isType = [] := by
    apply List.filter_eq_nil_iff.mpr
    intro area member isType
    rw [plain area (settled.areas area member).1] at isType
    cases isType
  have all : selected.toList.filter policy.isType = selected.toList := by
    apply List.filter_eq_self.mpr
    intro label member
    exact (settled.source label (Option.mem_toList.mp member)).1
  rw [settled.whole, List.filter_append, List.filter_append, noOthers,
    noAreas, all, List.append_nil, List.append_nil]

theorem Settled.others {current result added : List String}
    {selected : Option String}
    (settled : Settled policy current inferredType inferredAreas result
      selected added) (plain : Plain policy inferredAreas) :
    policy.others result = policy.others current ++ added := by
  have noType : selected.toList.filter
      (fun label => !policy.isType label) = [] := by
    apply List.filter_eq_nil_iff.mpr
    intro label member notType
    rw [(settled.source label (Option.mem_toList.mp member)).1] at notType
    cases notType
  have allOthers : (policy.others current).filter
      (fun label => !policy.isType label) = policy.others current := by
    apply List.filter_eq_self.mpr
    intro label member
    exact (List.mem_filter.mp member).2
  have allAreas : added.filter (fun label => !policy.isType label) =
      added := by
    apply List.filter_eq_self.mpr
    intro area member
    rw [plain area (settled.areas area member).1]
    rfl
  have same : policy.others result =
      result.filter (fun label => !policy.isType label) := by
    unfold Policy.others
    rw [eraseDups_of_nodup settled.distinct]
  rw [same, settled.whole, List.filter_append, List.filter_append, noType,
    allOthers, allAreas, List.nil_append]

theorem structural_of_types (policy : Policy) (labels : List String) :
    labels.filter policy.isStructural =
      (labels.filter policy.isType).filter policy.isStructural := by
  rw [List.filter_filter]
  apply List.filter_congr
  intro label _
  unfold Policy.isStructural
  cases policy.isType label with
  | false => rfl
  | true => exact (Bool.and_true _).symm

theorem reconcileLabels_settled (consistent : policy.Consistent)
    (carries : Carries policy inferredType) {current result : List String}
    (reconciles : reconcileLabels repr current inferredType inferredAreas
      policy = .ok result) :
    ∃ selected added,
      selectType repr (current.eraseDups.filter policy.isType)
          (current.eraseDups.filter policy.isStructural) inferredType =
        .ok selected ∧
      Settled policy current inferredType inferredAreas result selected
        added := by
  obtain ⟨_, selected, selects, same⟩ := reconcileLabels_eq_ok.mp reconciles
  have source : ∀ label, selected = some label →
      policy.isType label = true ∧
        (label ∈ current ∨ inferredType = some label) := by
    intro label isSelected
    have parts := selectType_isType consistent carries selects label isSelected
    rw [List.mem_eraseDups] at parts
    exact parts
  obtain ⟨added, settled⟩ : ∃ added, Settled policy current inferredType
      inferredAreas _ selected added := addAreas_settled consistent source
  rw [same] at settled
  exact ⟨selected, added, selects, settled⟩

/-- A result is its own result. -/
theorem reconcileLabels_again (consistent : policy.Consistent)
    (carries : Carries policy inferredType)
    (plain : Plain policy inferredAreas) {current result : List String}
    (reconciles : reconcileLabels repr current inferredType inferredAreas
      policy = .ok result) :
    reconcileLabels repr result inferredType inferredAreas policy =
      .ok result := by
  obtain ⟨selected, added, selects, settled⟩ :=
    reconcileLabels_settled consistent carries reconciles
  have types := settled.types plain
  have again : selectType repr selected.toList
      (selected.toList.filter policy.isStructural) inferredType =
        .ok selected := by
    apply selectType_again consistent carries _ selects
    · intro none label member
      have inLabels := (List.mem_filter.mp member).1
      exact Bool.eq_false_iff.mpr (List.filter_eq_nil_iff.mp none label inLabels)
    · intro label member
      exact (List.mem_filter.mp member).2
  have kept := truthy_selected consistent fun label same =>
    (settled.source label same).1
  apply reconcileLabels_eq_ok.mpr
  rw [eraseDups_of_nodup settled.distinct, structural_of_types, types]
  constructor
  · apply Nat.le_trans (List.length_filter_le _ _)
    cases selected with
    | none => exact Nat.zero_le 1
    | some label => exact Nat.le_refl 1
  · refine ⟨selected, again, ?_⟩
    rw [kept, settled.others plain, ← List.append_assoc, ← settled.whole,
      addAreas_fixed policy settled.complete,
      eraseDups_of_nodup settled.distinct]

/-- What the labels do not decide: two structural types, or two types and
nothing that says which. -/
def Policy.Ambiguous (policy : Policy) (current : List String)
    (inferredType : Option String) : Prop :=
  Two policy.isStructural current ∨
    (∀ label ∈ current, policy.isStructural label = false) ∧
      inferredType = none ∧ Two policy.isType current

theorem reconcileLabels_isOk (consistent : policy.Consistent)
    (carries : Carries policy inferredType) (current : List String) :
    (∃ result, reconcileLabels repr current inferredType inferredAreas
        policy = .ok result) ↔
      ¬policy.Ambiguous current inferredType := by
  have none : current.eraseDups.filter policy.isStructural = [] ↔
      ∀ label ∈ current, policy.isStructural label = false := by
    rw [List.filter_eq_nil_iff]
    simp only [List.mem_eraseDups, Bool.not_eq_true]
  have selectable := @selectType_isOk repr policy inferredType consistent
    carries (current.eraseDups.filter policy.isType)
    (current.eraseDups.filter policy.isStructural)
  unfold Policy.Ambiguous
  rw [not_or, ← two_iff, ← two_iff, ← none, ← selectable, Nat.not_le]
  constructor
  · rintro ⟨result, reconciles⟩
    obtain ⟨single, selected, selects, _⟩ :=
      reconcileLabels_eq_ok.mp reconciles
    exact ⟨Nat.lt_succ_of_le single, selected, selects⟩
  · rintro ⟨single, selected, selects⟩
    exact ⟨_, reconcileLabels_eq_ok.mpr
      ⟨Nat.le_of_lt_succ single, selected, selects, rfl⟩⟩

end Results

/-! ### What is inferred -/

section Inferred

variable {lower : String → String} {policy : Policy}

theorem labelsIf_referenced {condition : Bool} {labels : List String}
    (referenced : labels ⊆ referencedAreas) :
    labelsIf condition labels ⊆ referencedAreas := by
  unfold labelsIf
  split
  · exact referenced
  · exact List.nil_subset _

theorem strongTypeFromTitle_carries (consistent : policy.Consistent)
    (title : String) : Carries policy (strongTypeFromTitle lower title) := by
  intro label inferred
  obtain ⟨rule, found, same⟩ := Option.map_eq_some_iff.mp inferred
  rw [← same]
  exact consistent.types rule (List.mem_of_find?_eq_some found)

theorem inferTitleAreas_subset (title : String) :
    inferTitleAreas lower title ⊆ referencedAreas := by
  have ruled : ∀ rule ∈ areaPrefixRules, rule.2 ∈ referencedAreas := by decide
  unfold inferTitleAreas
  simp only [List.append_subset]
  refine ⟨⟨⟨?_, labelsIf_referenced (by decide)⟩,
    labelsIf_referenced (by decide)⟩, labelsIf_referenced (by decide)⟩
  intro area member
  obtain ⟨rule, inRules, same⟩ := List.mem_map.mp member
  rw [← same]
  exact ruled rule (List.mem_filter.mp inRules).1

theorem workloadAreas_subset (path : String) (workload : String × String) :
    workloadAreas lower path workload ⊆ referencedAreas := by
  apply labelsIf_referenced
  apply List.cons_subset.mpr
  exact ⟨by decide, labelsIf_referenced (by decide)⟩

theorem pathAreas_subset (policy : Policy) (rawPath : String) :
    pathAreas lower policy rawPath ⊆ referencedAreas := by
  unfold pathAreas
  simp only [List.append_subset]
  refine ⟨⟨⟨⟨⟨?_, labelsIf_referenced (by decide)⟩,
    labelsIf_referenced (by decide)⟩, labelsIf_referenced (by decide)⟩,
    labelsIf_referenced (by decide)⟩, ?_⟩
  · split
    · decide
    · exact labelsIf_referenced (by decide)
  · intro area member
    obtain ⟨workload, _, inside⟩ := List.mem_flatMap.mp member
    exact workloadAreas_subset _ workload inside

theorem inferAreas_plain (consistent : policy.Consistent) {item : Item}
    {client : Option Client} {areas : List String}
    (infers : inferAreas lower item policy client = .ok areas) :
    Plain policy areas := by
  have referenced : areas ⊆ referencedAreas := by
    unfold inferAreas at infers
    split at infers
    · simp only [bind_eq_ok, pure_eq_ok] at infers
      obtain ⟨request, _, paths, _, same⟩ := infers
      rw [← same]
      apply List.append_subset.mpr
      refine ⟨inferTitleAreas_subset item.title, ?_⟩
      intro area member
      obtain ⟨path, _, inside⟩ := List.mem_flatMap.mp member
      exact pathAreas_subset policy path inside
    · cases infers
      exact inferTitleAreas_subset item.title
  intro area member
  exact consistent.areas area (referenced member)

end Inferred

/-! ### Two runs -/

theorem alreadyReconciled_self (labels : List String) :
    alreadyReconciled labels labels = true := by
  simp [alreadyReconciled]

theorem applyItem_again {lower repr : String → String} {policy : Policy}
    (consistent : policy.Consistent) {client : Client} {item : Item}
    {changed : Bool} {labels : List String} (dryRun : Bool)
    (applies : applyItem lower repr client item policy false =
      .ok (changed, labels)) :
    applyItem lower repr client { item with labels := labels } policy
        dryRun = .ok (false, labels) := by
  unfold applyItem classifyItem at applies
  simp only [bind_eq_ok, pure_eq_ok] at applies
  obtain ⟨desired, ⟨areas, infers, reconciles⟩, result⟩ := applies
  have plain := inferAreas_plain consistent infers
  have carries : Carries policy (strongTypeFromTitle lower item.title) :=
    strongTypeFromTitle_carries consistent item.title
  have second : reconcileLabels repr labels
      (strongTypeFromTitle lower item.title) areas policy = .ok desired ∧
      alreadyReconciled desired labels = true := by
    by_cases same : alreadyReconciled desired item.labels = true
    · rw [if_pos same] at result
      cases result
      exact ⟨reconciles, same⟩
    · rw [if_neg same, if_neg Bool.false_ne_true] at result
      cases result
      exact ⟨reconcileLabels_again consistent carries plain reconciles,
        alreadyReconciled_self _⟩
  unfold applyItem classifyItem
  simp only [bind_eq_ok, pure_eq_ok]
  refine ⟨desired, ⟨areas, infers, second.1⟩, ?_⟩
  rw [if_pos second.2]

/-- Labels that could be reconciled are reconciled for good. -/
theorem reconcileLabels_spec (repr : String → String) (policy : Policy)
    (consistent : policy.Consistent) :
    (∀ current inferredType inferredAreas, Carries policy inferredType →
      Plain policy inferredAreas →
      (∀ result,
        reconcileLabels repr current inferredType inferredAreas policy =
            .ok result →
          result.Nodup ∧ (result.filter policy.isType).length ≤ 1 ∧
          (policy.others current).Sublist result ∧
          (∀ area ∈ inferredAreas, area ∈ policy.known → area ∈ result) ∧
          (∀ label ∈ result, label ∈ current ∨ inferredType = some label ∨
            label ∈ inferredAreas ∧ label ∈ policy.known) ∧
          reconcileLabels repr result inferredType inferredAreas policy =
            .ok result) ∧
      ((∃ error, reconcileLabels repr current inferredType inferredAreas
          policy = .error error) ↔
        policy.Ambiguous current inferredType)) ∧
    ∀ lower client item changed labels dryRun,
      applyItem lower repr client item policy false =
          .ok (changed, labels) →
        applyItem lower repr client { item with labels := labels } policy
          dryRun = .ok (false, labels) := by
  constructor
  · intro current inferredType inferredAreas carries plain
    constructor
    · intro result reconciles
      obtain ⟨selected, added, _, settled⟩ :=
        reconcileLabels_settled consistent carries reconciles
      refine ⟨settled.distinct, ?_, ?_, settled.complete, ?_,
        reconcileLabels_again consistent carries plain reconciles⟩
      · rw [settled.types plain]
        cases selected with
        | none => exact Nat.zero_le 1
        | some label => exact Nat.le_refl 1
      · rw [settled.whole]
        exact (List.sublist_append_right _ _).trans
          (List.sublist_append_left _ _)
      · intro label member
        rw [settled.whole] at member
        rcases List.mem_append.mp member with front | isAdded
        · rcases List.mem_append.mp front with isSelected | isOther
          · have source := settled.source label
              (Option.mem_toList.mp isSelected)
            rcases source.2 with old | inferred
            · exact Or.inl old
            · exact Or.inr (Or.inl inferred)
          · exact Or.inl (List.mem_eraseDups.mp
              (List.mem_filter.mp isOther).1)
        · exact Or.inr (Or.inr (settled.areas label isAdded))
    · have isOk := @reconcileLabels_isOk repr policy inferredType
        inferredAreas consistent carries current
      cases reconciles : reconcileLabels repr current inferredType
          inferredAreas policy with
      | ok result =>
          rw [reconciles] at isOk
          apply iff_of_false
          · rintro ⟨error, impossible⟩
            cases impossible
          · exact isOk.mp ⟨result, rfl⟩
      | error error =>
          rw [reconciles] at isOk
          apply iff_of_true ⟨error, rfl⟩
          by_contra unambiguous
          obtain ⟨result, impossible⟩ := isOk.mpr unambiguous
          cases impossible
  · intro lower client item changed labels dryRun applies
    exact applyItem_again consistent dryRun applies

/-- The canonical taxonomy. -/
def canonicalPolicy : Policy :=
  { known := referencedAreas
    structural := ["type:epic", "type:track", "type:campaign"]
    typePrefix := "type:"
    workloadPaths := [("postgres-postgres", "postgres-postgres/")] }

theorem canonicalPolicy_consistent : canonicalPolicy.Consistent :=
  { types := by decide
    areas := by decide }

theorem reconcileLabels_spec_canonical :
    Carries canonicalPolicy (some "type:bug") ∧
      Plain canonicalPolicy ["area:ci"] ∧
      reconcileLabels id ["help wanted", "type:task"] (some "type:bug")
          ["area:ci"] canonicalPolicy =
        .ok ["type:bug", "help wanted", "area:ci"] ∧
      reconcileLabels id ["type:bug", "help wanted", "area:ci"]
          (some "type:bug") ["area:ci"] canonicalPolicy =
        .ok ["type:bug", "help wanted", "area:ci"] :=
  have carries : Carries canonicalPolicy (some "type:bug") := by
    intro label same
    cases same
    decide
  have plain : Plain canonicalPolicy ["area:ci"] := by
    unfold Plain
    decide
  have first : reconcileLabels id ["help wanted", "type:task"]
      (some "type:bug") ["area:ci"] canonicalPolicy =
        .ok ["type:bug", "help wanted", "area:ci"] := by
    decide +kernel
  ⟨carries, plain, first,
    (((reconcileLabels_spec id canonicalPolicy canonicalPolicy_consistent).1
      ["help wanted", "type:task"] (some "type:bug") ["area:ci"] carries
      plain).1 _ first).2.2.2.2.2⟩

end Labels
