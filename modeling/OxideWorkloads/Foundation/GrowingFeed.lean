/-
A feed that is read page by page while it grows at its front.

New items push the others back, so a reader who goes on to the next page may
meet an item again, but never misses one that was there when it began.

Nothing here mentions a particular item.
-/

import Mathlib.Data.List.Infix

namespace Foundation.GrowingFeed

variable {α β : Type}

/-- A page of a feed; the pages count from one. -/
def page (size number : Nat) (feed : List α) : List α :=
  (feed.drop (size * (number - 1))).take size

/-- What a reader has not read who goes on with a page. -/
def unread (size number : Nat) (feed : List α) : List α :=
  feed.drop (size * (number - 1))

theorem unread_one (size : Nat) (feed : List α) :
    unread size 1 feed = feed := by
  rw [unread, Nat.sub_self, Nat.mul_zero, List.drop_zero]

theorem page_map (change : α → β) (size number : Nat) (feed : List α) :
    page size number (feed.map change) =
      (page size number feed).map change := by
  rw [page, page, List.map_take, List.map_drop]

theorem page_subset {size number : Nat} {feed : List α} :
    page size number feed ⊆ feed := by
  intro item member
  exact List.mem_of_mem_drop (List.mem_of_mem_take member)

/-- A new item hides nothing that has not been read. -/
theorem unread_grow {size number : Nat} {feed : List α} {item new : α}
    (member : item ∈ unread size number feed) :
    item ∈ unread size number (new :: feed) := by
  unfold unread at member ⊢
  cases read : size * (number - 1) with
  | zero =>
      rw [read] at member
      exact List.mem_cons_of_mem _ member
  | succ before =>
      rw [read, ← List.drop_drop] at member
      rw [List.drop_succ_cons]
      exact List.mem_of_mem_drop member

/-- What has not been read is on the page, or the page is full and the item is
behind it. -/
theorem unread_page {size number : Nat} {feed : List α} {item : α}
    (counted : 1 ≤ number) (member : item ∈ unread size number feed) :
    item ∈ page size number feed ∨
      (page size number feed).length = size ∧
        item ∈ unread size (number + 1) feed := by
  have read : size * (number + 1 - 1) = size * (number - 1) + size := by
    obtain ⟨before, rfl⟩ := Nat.exists_eq_add_of_le counted
    rw [Nat.add_sub_cancel, Nat.add_sub_cancel_left, Nat.add_comm 1,
      Nat.mul_succ]
  unfold page unread at *
  rw [read, ← List.drop_drop]
  rw [← List.take_append_drop size (feed.drop (size * (number - 1)))] at member
  rcases List.mem_append.mp member with onPage | behind
  · exact Or.inl onPage
  · have full : size ≤ (feed.drop (size * (number - 1))).length := by
      by_contra short
      rw [List.drop_eq_nil_of_le (by omega)] at behind
      exact absurd behind List.not_mem_nil
    exact Or.inr ⟨List.length_take_of_le full, behind⟩

/-- A short page is the last one. -/
theorem unread_last {size number : Nat} {feed : List α} {item : α}
    (counted : 1 ≤ number) (short : (page size number feed).length < size)
    (member : item ∈ unread size number feed) :
    item ∈ page size number feed := by
  rcases unread_page counted member with onPage | behind
  · exact onPage
  · omega

end Foundation.GrowingFeed
