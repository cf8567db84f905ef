/-
The words of a text: its maximal runs of elements that separate nothing.
-/

import Mathlib.Data.List.Basic

namespace Foundation

namespace Words

variable {α : Type} (separates : α → Bool)

/-- The words after the start of one. -/
def scan : List α → List α → List (List α)
  | current, [] => if current = [] then [] else [current]
  | current, element :: rest =>
      if separates element then
        if current = [] then scan [] rest else current :: scan [] rest
      else scan (current ++ [element]) rest

def words (text : List α) : List (List α) := scan separates [] text

/-- A word that a text may have. -/
def Solid (word : List α) : Prop :=
  word ≠ [] ∧ ∀ element ∈ word, separates element = false

variable {separates}

theorem scan_separated {separator : α} (separated : separates separator = true)
    (current text rest : List α) :
    scan separates current (text ++ separator :: rest) =
      scan separates current text ++ words separates rest := by
  induction text generalizing current with
  | nil =>
      rw [List.nil_append, scan, scan, if_pos separated]
      split
      · rfl
      · rfl
  | cons element text ih =>
      rw [List.cons_append, scan, scan]
      split
      · split
        · exact ih []
        · rw [ih, List.cons_append]
      · exact ih _

theorem words_separated {separator : α}
    (separated : separates separator = true) (text rest : List α) :
    words separates (text ++ separator :: rest) =
      words separates text ++ words separates rest :=
  scan_separated separated [] text rest

theorem words_nil : words separates [] = [] := rfl

theorem words_cons {separator : α} (separated : separates separator = true)
    (rest : List α) :
    words separates (separator :: rest) = words separates rest :=
  words_separated separated [] rest

theorem scan_solid (current : List α) {word : List α}
    (solid : ∀ element ∈ word, separates element = false) :
    scan separates current word =
      if current ++ word = [] then [] else [current ++ word] := by
  induction word generalizing current with
  | nil => rw [scan, List.append_nil]
  | cons element rest ih =>
      have inside := solid element List.mem_cons_self
      have outside : ¬separates element = true := by
        rw [inside]
        exact Bool.false_ne_true
      rw [scan, if_neg outside,
        ih _ (fun other member => solid other (List.mem_cons_of_mem _ member)),
        List.append_assoc, List.singleton_append]

theorem words_solid {word : List α} (solid : Solid separates word) :
    words separates word = [word] := by
  unfold words
  rw [scan_solid [] solid.2, List.nil_append, if_neg solid.1]

theorem words_blank {text : List α}
    (blank : ∀ element ∈ text, separates element = true) :
    words separates text = [] := by
  induction text with
  | nil => rfl
  | cons element rest ih =>
      rw [words_cons (blank element List.mem_cons_self)]
      exact ih (fun other member => blank other (List.mem_cons_of_mem _ member))

/-- A word that has begun ends somewhere. -/
theorem scan_begun {current : List α} (begun : current ≠ [])
    (text : List α) : scan separates current text ≠ [] := by
  induction text generalizing current with
  | nil =>
      rw [scan, if_neg begun]
      exact List.cons_ne_nil _ _
  | cons element rest ih =>
      rw [scan, if_neg begun]
      split
      · exact List.cons_ne_nil _ _
      · exact ih (List.append_ne_nil_of_left_ne_nil begun _)

theorem blank_of_words {text : List α} (none : words separates text = []) :
    ∀ element ∈ text, separates element = true := by
  induction text with
  | nil =>
      intro element member
      cases member
  | cons first rest ih =>
      unfold words at none
      rw [scan] at none
      split at none
      · rename_i blank
        rw [if_pos rfl] at none
        intro element member
        rcases List.mem_cons.mp member with here | later
        · rw [here]
          exact blank
        · exact ih none element later
      · exact absurd none (scan_begun (List.cons_ne_nil _ _) rest)

theorem words_blank_append {gap : List α}
    (blank : ∀ element ∈ gap, separates element = true) (rest : List α) :
    words separates (gap ++ rest) = words separates rest := by
  induction gap with
  | nil => rfl
  | cons separator gap ih =>
      rw [List.cons_append, words_cons (blank separator List.mem_cons_self)]
      exact ih (fun other member => blank other (List.mem_cons_of_mem _ member))

/-- A gap ends a word, however wide it is. -/
theorem words_gap {gap : List α} (nonempty : gap ≠ [])
    (blank : ∀ element ∈ gap, separates element = true)
    (text rest : List α) :
    words separates (text ++ (gap ++ rest)) =
      words separates text ++ words separates rest := by
  cases gap with
  | nil => exact absurd rfl nonempty
  | cons separator gap =>
      rw [List.cons_append,
        words_separated (blank separator List.mem_cons_self),
        words_blank_append
          (fun other member => blank other (List.mem_cons_of_mem _ member))]

theorem words_append_blank (text : List α) {rest : List α}
    (blank : ∀ element ∈ rest, separates element = true) :
    words separates (text ++ rest) = words separates text := by
  cases rest with
  | nil => rw [List.append_nil]
  | cons separator rest =>
      rw [words_separated (blank separator List.mem_cons_self), words_blank
          (fun other member => blank other (List.mem_cons_of_mem _ member)),
        List.append_nil]

/-- Words in front of which a separator stands, one after another. -/
theorem words_flatMap {separator : α}
    (separated : separates separator = true) {entries : List (List α)}
    (solid : ∀ word ∈ entries, Solid separates word) (rest : List α)
    (blank : ∀ element ∈ rest, separates element = true) :
    words separates
        (entries.flatMap (fun word => separator :: word) ++ rest) =
      entries := by
  induction entries with
  | nil => exact words_blank blank
  | cons word entries ih =>
      have solidWord := solid word List.mem_cons_self
      have remaining := ih fun other member =>
        solid other (List.mem_cons_of_mem _ member)
      rw [List.flatMap_cons, List.cons_append, List.cons_append,
        words_cons separated]
      cases entries with
      | nil =>
          rw [List.flatMap_nil, List.append_nil]
          rw [words_append_blank word blank, words_solid solidWord]
      | cons next entries =>
          rw [List.flatMap_cons, List.cons_append, List.cons_append,
            words_cons separated] at remaining
          rw [List.flatMap_cons, List.append_assoc, List.cons_append,
            List.cons_append, words_separated separated, remaining,
            words_solid solidWord, List.singleton_append]

theorem scan_append_length (current text rest : List α) :
    (scan separates current text).length ≤
      (scan separates current (text ++ rest)).length := by
  induction text generalizing current with
  | nil =>
      rw [scan, List.nil_append]
      split
      · exact Nat.zero_le _
      · rename_i begun
        exact List.length_pos_of_ne_nil (scan_begun begun rest)
  | cons element text ih =>
      rw [List.cons_append, scan, scan]
      split
      · split
        · exact ih []
        · rw [List.length_cons, List.length_cons]
          exact Nat.succ_le_succ (ih [])
      · exact ih _

/-- A beginning of a text has no more words than the text. -/
theorem words_initial_length {part text : List α} (initial : part <+: text) :
    (words separates part).length ≤ (words separates text).length := by
  obtain ⟨rest, whole⟩ := initial
  rw [← whole]
  exact scan_append_length [] part rest

theorem scan_begun_length {left right : List α} (leftBegun : left ≠ [])
    (rightBegun : right ≠ []) (text : List α) :
    (scan separates left text).length =
      (scan separates right text).length := by
  induction text generalizing left right with
  | nil => rw [scan, scan, if_neg leftBegun, if_neg rightBegun]; rfl
  | cons element rest ih =>
      rw [scan, scan, if_neg leftBegun, if_neg rightBegun]
      split
      · rfl
      · exact ih (List.append_ne_nil_of_left_ne_nil leftBegun _)
          (List.append_ne_nil_of_left_ne_nil rightBegun _)

/-- What is in front of a text takes no word away. -/
theorem words_cons_length (element : α) (text : List α) :
    (words separates text).length ≤
      (words separates (element :: text)).length := by
  unfold words
  rw [scan]
  split
  · exact Nat.le_refl _
  · rw [List.nil_append]
    cases text with
    | nil => exact Nat.zero_le _
    | cons next rest =>
        rw [scan, scan]
        split
        · rw [if_pos rfl, if_neg (List.cons_ne_nil _ _), List.length_cons]
          exact Nat.le_succ _
        · exact Nat.le_of_eq (scan_begun_length (List.cons_ne_nil _ _)
            (List.cons_ne_nil _ _) rest)

/-- The end of a text has no more words than the text. -/
theorem words_final_length {part text : List α} (final : part <:+ text) :
    (words separates part).length ≤ (words separates text).length := by
  obtain ⟨before, whole⟩ := final
  induction before generalizing text with
  | nil =>
      rw [← whole]
      exact Nat.le_refl _
  | cons element before ih =>
      rw [← whole]
      exact Nat.le_trans (ih rfl) (words_cons_length element _)

end Words

end Foundation
