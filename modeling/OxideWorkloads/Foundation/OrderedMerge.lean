/-
Walking two lists with a common key side by side.

Both lists are strictly ascending by the key.  Each step takes the entry with
the smaller key, or both entries when the keys agree, so that the entries of
the walk are what an ordered merge meets.
-/

import Mathlib.Data.List.Pairwise
import Mathlib.Order.Lattice

namespace Foundation

/-- One step of the walk. -/
inductive Side (α β : Type) where
  | left (value : α)
  | right (value : β)
  | both (first : α) (second : β)
  deriving DecidableEq

namespace Side

variable {α β κ : Type}

def left? : Side α β → Option α
  | left value => some value
  | right _ => none
  | both first _ => some first

def right? : Side α β → Option β
  | left _ => none
  | right value => some value
  | both _ second => some second

variable [LinearOrder κ] (leftKey : α → κ) (rightKey : β → κ)

/-- The key of an entry; both sides of a common entry have the same. -/
def key : Side α β → κ
  | left value => leftKey value
  | right value => rightKey value
  | both first _ => leftKey first

/-- The entries of two lists, side by side. -/
def pairUp : List α → List β → List (Side α β)
  | [], rights => rights.map right
  | first :: lefts, [] => (first :: lefts).map left
  | first :: lefts, second :: rights =>
      if leftKey first = rightKey second then
        both first second :: pairUp lefts rights
      else if leftKey first < rightKey second then
        left first :: pairUp lefts (second :: rights)
      else right second :: pairUp (first :: lefts) rights
termination_by lefts rights => lefts.length + rights.length

/-- No entry of the left list is lost or repeated. -/
theorem filterMap_left (lefts : List α) (rights : List β) :
    (pairUp leftKey rightKey lefts rights).filterMap left? = lefts := by
  induction lefts, rights using pairUp.induct leftKey rightKey with
  | case1 rights =>
      rw [pairUp, List.filterMap_map]
      exact List.filterMap_eq_nil_iff.mpr (fun _ _ => rfl)
  | case2 first lefts =>
      rw [pairUp, List.filterMap_map]
      exact List.filterMap_some
  | case3 first lefts second rights same ih =>
      simp [pairUp, same, left?, ih]
  | case4 first lefts second rights different below ih =>
      simp [pairUp, different, below, left?, ih]
  | case5 first lefts second rights different above ih =>
      rw [pairUp, if_neg different, if_neg above,
        List.filterMap_cons_none rfl, ih]

theorem filterMap_right (lefts : List α) (rights : List β) :
    (pairUp leftKey rightKey lefts rights).filterMap right? = rights := by
  induction lefts, rights using pairUp.induct leftKey rightKey with
  | case1 rights =>
      rw [pairUp, List.filterMap_map]
      exact List.filterMap_some
  | case2 first lefts =>
      rw [pairUp, List.filterMap_map]
      exact List.filterMap_eq_nil_iff.mpr (fun _ _ => rfl)
  | case3 first lefts second rights same ih =>
      simp [pairUp, same, right?, ih]
  | case4 first lefts second rights different below ih =>
      rw [pairUp, if_neg different, if_pos below,
        List.filterMap_cons_none rfl, ih]
  | case5 first lefts second rights different above ih =>
      simp [pairUp, different, above, right?, ih]

variable {leftKey rightKey}

/-- A common entry joins equal keys. -/
theorem both_key {lefts : List α} {rights : List β} {first : α} {second : β}
    (member : both first second ∈ pairUp leftKey rightKey lefts rights) :
    leftKey first = rightKey second := by
  induction lefts, rights using pairUp.induct leftKey rightKey with
  | case1 rights => simp [pairUp] at member
  | case2 head lefts => simp [pairUp] at member
  | case3 head lefts other rights same ih =>
      simp only [pairUp, same, if_true, List.mem_cons, both.injEq] at member
      rcases member with ⟨rfl, rfl⟩ | inRest
      · exact same
      · exact ih inRest
  | case4 head lefts other rights different below ih =>
      simp only [pairUp, different, below, if_true, if_false, List.mem_cons,
        reduceCtorEq, false_or] at member
      exact ih member
  | case5 head lefts other rights different above ih =>
      simp only [pairUp, different, above, if_false, List.mem_cons,
        reduceCtorEq, false_or] at member
      exact ih member

/-- Every entry comes from one of the lists. -/
theorem mem_source {lefts : List α} {rights : List β} {entry : Side α β}
    (member : entry ∈ pairUp leftKey rightKey lefts rights) :
    (∀ value, entry.left? = some value → value ∈ lefts) ∧
      ∀ value, entry.right? = some value → value ∈ rights := by
  constructor
  · intro value same
    rw [← filterMap_left leftKey rightKey lefts rights]
    exact List.mem_filterMap.mpr ⟨entry, member, same⟩
  · intro value same
    rw [← filterMap_right leftKey rightKey lefts rights]
    exact List.mem_filterMap.mpr ⟨entry, member, same⟩

theorem above_of_mem {lefts : List α} {rights : List β} {entry : Side α β}
    {bound : κ} (member : entry ∈ pairUp leftKey rightKey lefts rights)
    (aboveLeft : ∀ value ∈ lefts, bound < leftKey value)
    (aboveRight : ∀ value ∈ rights, bound < rightKey value) :
    bound < entry.key leftKey rightKey := by
  have sources := mem_source member
  cases entry with
  | left value => exact aboveLeft value (sources.1 value rfl)
  | right value => exact aboveRight value (sources.2 value rfl)
  | both first second => exact aboveLeft first (sources.1 first rfl)

/-- The walk ascends strictly. -/
theorem pairUp_ascending {lefts : List α} {rights : List β}
    (leftAscends : lefts.Pairwise (fun x y => leftKey x < leftKey y))
    (rightAscends : rights.Pairwise (fun x y => rightKey x < rightKey y)) :
    (pairUp leftKey rightKey lefts rights).Pairwise
      (fun x y => x.key leftKey rightKey < y.key leftKey rightKey) := by
  induction lefts, rights using pairUp.induct leftKey rightKey with
  | case1 rights =>
      rw [pairUp, List.pairwise_map]
      exact rightAscends
  | case2 first lefts =>
      rw [pairUp, List.pairwise_map]
      exact leftAscends
  | case3 first lefts second rights same ih =>
      rw [List.pairwise_cons] at leftAscends rightAscends
      simp only [pairUp, same, if_true, List.pairwise_cons]
      refine ⟨fun entry member => ?_, ih leftAscends.2 rightAscends.2⟩
      refine above_of_mem member leftAscends.1 (fun value inRights => ?_)
      rw [key, same]
      exact rightAscends.1 value inRights
  | case4 first lefts second rights different below ih =>
      have rightHead := (List.pairwise_cons.mp rightAscends).1
      rw [List.pairwise_cons] at leftAscends
      simp only [pairUp, different, below, if_true, if_false,
        List.pairwise_cons]
      refine ⟨fun entry member => ?_, ih leftAscends.2 rightAscends⟩
      refine above_of_mem member leftAscends.1 (fun value inRights => ?_)
      rcases List.mem_cons.mp inRights with rfl | inRest
      · exact below
      · exact lt_trans below (rightHead value inRest)
  | case5 first lefts second rights different above ih =>
      have leftHead := (List.pairwise_cons.mp leftAscends).1
      rw [List.pairwise_cons] at rightAscends
      have greater : rightKey second < leftKey first :=
        lt_of_le_of_ne (not_lt.mp above) (Ne.symm different)
      simp only [pairUp, different, above, if_false, List.pairwise_cons]
      refine ⟨fun entry member => ?_, ih leftAscends rightAscends.2⟩
      refine above_of_mem member (fun value inLefts => ?_) rightAscends.1
      rcases List.mem_cons.mp inLefts with rfl | inRest
      · exact greater
      · exact lt_trans greater (leftHead value inRest)

section Ascending

variable {lefts : List α} {rights : List β}
variable (leftAscends : lefts.Pairwise (fun x y => leftKey x < leftKey y))
variable (rightAscends : rights.Pairwise (fun x y => rightKey x < rightKey y))

include leftAscends rightAscends

theorem eq_of_key {first second : Side α β}
    (inFirst : first ∈ pairUp leftKey rightKey lefts rights)
    (inSecond : second ∈ pairUp leftKey rightKey lefts rights)
    (same : first.key leftKey rightKey = second.key leftKey rightKey) :
    first = second := by
  have ascends := pairUp_ascending leftAscends rightAscends
  by_contra different
  have distinct : (pairUp leftKey rightKey lefts rights).Pairwise
      (fun x y => x.key leftKey rightKey ≠ y.key leftKey rightKey) :=
    ascends.imp (fun below => ne_of_lt below)
  have symmetric : Std.Symm (fun x y : Side α β =>
      x.key leftKey rightKey ≠ y.key leftKey rightKey) :=
    ⟨fun _ _ unequal => Ne.symm unequal⟩
  exact distinct.forall inFirst inSecond different same

/-- A key that only the left list has. -/
theorem mem_left_iff {value : α} :
    left value ∈ pairUp leftKey rightKey lefts rights ↔
      value ∈ lefts ∧ ∀ other ∈ rights, rightKey other ≠ leftKey value := by
  constructor
  · intro member
    refine ⟨(mem_source member).1 value rfl, ?_⟩
    intro other inRights same
    rw [← filterMap_right leftKey rightKey lefts rights] at inRights
    obtain ⟨entry, inWalk, found⟩ := List.mem_filterMap.mp inRights
    have sameKey : entry.key leftKey rightKey = leftKey value := by
      cases entry with
      | left _ => cases found
      | right right =>
          cases found
          exact same
      | both first second =>
          cases found
          exact (both_key inWalk).trans same
    have equal := eq_of_key leftAscends rightAscends inWalk member sameKey
    rw [equal] at found
    cases found
  · rintro ⟨inLefts, nowhere⟩
    rw [← filterMap_left leftKey rightKey lefts rights] at inLefts
    obtain ⟨entry, inWalk, found⟩ := List.mem_filterMap.mp inLefts
    cases entry with
    | left _ =>
        cases found
        exact inWalk
    | right _ => cases found
    | both first second =>
        cases found
        exact absurd (both_key inWalk).symm
          (nowhere second ((mem_source inWalk).2 second rfl))

theorem mem_right_iff {value : β} :
    right value ∈ pairUp leftKey rightKey lefts rights ↔
      value ∈ rights ∧ ∀ other ∈ lefts, leftKey other ≠ rightKey value := by
  constructor
  · intro member
    refine ⟨(mem_source member).2 value rfl, ?_⟩
    intro other inLefts same
    rw [← filterMap_left leftKey rightKey lefts rights] at inLefts
    obtain ⟨entry, inWalk, found⟩ := List.mem_filterMap.mp inLefts
    have sameKey : entry.key leftKey rightKey = rightKey value := by
      cases entry with
      | left _ =>
          cases found
          exact same
      | right _ => cases found
      | both first second =>
          cases found
          exact same
    have equal := eq_of_key leftAscends rightAscends inWalk member sameKey
    rw [equal] at found
    cases found
  · rintro ⟨inRights, nowhere⟩
    rw [← filterMap_right leftKey rightKey lefts rights] at inRights
    obtain ⟨entry, inWalk, found⟩ := List.mem_filterMap.mp inRights
    cases entry with
    | left _ => cases found
    | right _ =>
        cases found
        exact inWalk
    | both first second =>
        cases found
        exact absurd (both_key inWalk)
          (nowhere first ((mem_source inWalk).1 first rfl))

theorem mem_both_iff {first : α} {second : β} :
    both first second ∈ pairUp leftKey rightKey lefts rights ↔
      first ∈ lefts ∧ second ∈ rights ∧
        leftKey first = rightKey second := by
  constructor
  · intro member
    exact ⟨(mem_source member).1 first rfl, (mem_source member).2 second rfl,
      both_key member⟩
  · rintro ⟨inLefts, inRights, same⟩
    have onLeft := inLefts
    have onRight := inRights
    rw [← filterMap_left leftKey rightKey lefts rights] at onLeft
    rw [← filterMap_right leftKey rightKey lefts rights] at onRight
    obtain ⟨entry, inWalk, found⟩ := List.mem_filterMap.mp onLeft
    obtain ⟨other, alsoInWalk, alsoFound⟩ := List.mem_filterMap.mp onRight
    have entryKey : entry.key leftKey rightKey = leftKey first := by
      cases entry with
      | left _ => cases found; rfl
      | right _ => cases found
      | both _ _ => cases found; rfl
    have otherKey : other.key leftKey rightKey = rightKey second := by
      cases other with
      | left _ => cases alsoFound
      | right _ => cases alsoFound; rfl
      | both _ _ =>
          cases alsoFound
          have agrees := both_key alsoInWalk
          exact agrees
    have equal := eq_of_key leftAscends rightAscends inWalk alsoInWalk
      (by rw [entryKey, otherKey, same])
    subst equal
    cases entry with
    | left _ => cases alsoFound
    | right _ => cases found
    | both _ _ =>
        cases found
        cases alsoFound
        exact inWalk

end Ascending

end Side

end Foundation
