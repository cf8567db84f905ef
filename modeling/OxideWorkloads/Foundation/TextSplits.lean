/-
When a text splits, and into what; and decimal numbers read digit by digit,
with the error that the first bad digit makes.
-/

import OxideWorkloads.Foundation.TextFunctions

namespace Foundation.Text

/-! ### Splitting -/

theorem stripSuffix_eq_some {text ending start : String} :
    stripSuffix text ending = some start ↔ text = start ++ ending := by
  constructor
  · intro strips
    unfold stripSuffix at strips
    by_cases ends : ending.toList.isSuffixOf text.toList = true
    · rw [if_pos ends, Option.some.injEq] at strips
      obtain ⟨front, whole⟩ := List.isSuffixOf_iff_suffix.mp ends
      have initial : text.toList.take
          (text.toList.length - ending.toList.length) = front := by
        rw [← whole, List.length_append, Nat.add_sub_cancel, List.take_left]
      rw [initial] at strips
      apply String.toList_injective
      rw [String.toList_append, ← strips, String.toList_ofList, whole]
    · rw [if_neg ends] at strips
      cases strips
  · intro whole
    rw [whole]
    exact stripSuffix_append start ending

theorem splitOnce_eq_some {text before after : String} {separator : Char} :
    splitOnce text separator = some (before, after) ↔
      text = before ++ String.singleton separator ++ after ∧
        separator ∉ before.toList := by
  constructor
  · intro splits
    unfold splitOnce at splits
    have whole := List.takeWhile_append_dropWhile
      (p := fun char => decide (char ≠ separator)) (l := text.toList)
    cases remaining : text.toList.dropWhile
        (fun char => decide (char ≠ separator)) with
    | nil =>
        rw [remaining] at splits
        cases splits
    | cons first rest =>
        rw [remaining] at splits whole
        simp only [Option.some.injEq, Prod.mk.injEq] at splits
        obtain ⟨front, back⟩ := splits
        have stopped : first = separator := by
          have head := List.head_dropWhile_not
            (fun char => decide (char ≠ separator)) (l := text.toList)
            (by rw [remaining]; exact List.cons_ne_nil _ _)
          simp only [remaining, List.head_cons] at head
          simpa using head
        rw [stopped] at whole
        rw [← front, ← back]
        constructor
        · apply String.toList_injective
          rw [String.toList_append, String.toList_append,
            String.toList_singleton, String.toList_ofList,
            String.toList_ofList, List.append_assoc]
          exact whole.symm
        · rw [String.toList_ofList]
          intro member
          have kept := List.all_eq_true.mp List.all_takeWhile _ member
          exact of_decide_eq_true kept rfl
  · intro parts
    rw [parts.1]
    exact splitOnce_append before after separator parts.2

/-! ### Reading digit by digit -/

def parseDigits (limit : Nat) : Nat → List Char → Except String Nat
  | value, [] => .ok value
  | value, char :: rest =>
      if char.isDigit = true then
        if 10 * value + (char.toNat - '0'.toNat) ≤ limit then
          parseDigits limit (10 * value + (char.toNat - '0'.toNat)) rest
        else .error "number too large to fit in target type"
      else .error "invalid digit found in string"

/-- `parseUnsigned`, with the error that stops it. -/
def parseInteger (limit : Nat) (text : String) : Except String Nat :=
  match text.toList with
  | [] => .error "cannot parse integer from empty string"
  | ['+'] => .error "invalid digit found in string"
  | '+' :: rest => parseDigits limit 0 rest
  | chars => parseDigits limit 0 chars

theorem ofDigitChars_le (chars : List Char) (value : Nat) :
    value ≤ Nat.ofDigitChars 10 chars value := by
  rw [Nat.ofDigitChars_eq_ofDigitChars_zero]
  have factor := Nat.le_mul_of_pos_left value
    (Nat.pow_pos (n := chars.length) (by decide : 0 < 10))
  omega

theorem parseDigits_eq_ok {limit value result : Nat} {chars : List Char}
    (bounded : value ≤ limit) :
    parseDigits limit value chars = .ok result ↔
      chars.all Char.isDigit = true ∧ result ≤ limit ∧
        Nat.ofDigitChars 10 chars value = result := by
  induction chars generalizing value with
  | nil =>
      rw [parseDigits, Nat.ofDigitChars_nil, Except.ok.injEq]
      constructor
      · intro same
        exact ⟨rfl, same ▸ bounded, same⟩
      · exact fun holds => holds.2.2
  | cons char rest ih =>
      rw [parseDigits, List.all_cons, Nat.ofDigitChars_cons]
      cases digit : char.isDigit with
      | false => simp
      | true =>
          rw [if_pos rfl, Bool.true_and]
          by_cases fits : 10 * value + (char.toNat - '0'.toNat) ≤ limit
          · rw [if_pos fits]
            exact ih fits
          · rw [if_neg fits]
            have grows := ofDigitChars_le rest
              (10 * value + (char.toNat - '0'.toNat))
            constructor
            · intro impossible
              cases impossible
            · intro holds
              obtain ⟨_, small, same⟩ := holds
              omega

theorem parseDigits_zero {limit result : Nat} {chars : List Char}
    (nonempty : chars ≠ []) :
    parseDigits limit 0 chars = .ok result ↔
      readDigits chars = some result ∧ result ≤ limit := by
  rw [parseDigits_eq_ok (Nat.zero_le limit), readDigits]
  by_cases digits : chars.all Char.isDigit = true
  · rw [if_pos ⟨nonempty, digits⟩, Option.some.injEq]
    simp only [digits, true_and]
    exact and_comm
  · rw [if_neg (fun both => digits both.2)]
    simp [digits]

/-- The digits of an unsigned number, without one leading plus sign. -/
def unsignedDigits : List Char → List Char
  | '+' :: rest => rest
  | chars => chars

theorem parseUnsigned_eq_some {limit result : Nat} {text : String} :
    parseUnsigned limit text = some result ↔
      readDigits (unsignedDigits text.toList) = some result ∧
        result ≤ limit := by
  have digits : parseUnsigned limit text =
      (readDigits (unsignedDigits text.toList)).bind
        (fun value => if value ≤ limit then some value else none) := by
    unfold parseUnsigned unsignedDigits
    simp only
    generalize readDigits _ = read
    cases read <;> rfl
  rw [digits]
  cases readDigits (unsignedDigits text.toList) with
  | none => simp
  | some value =>
      by_cases fits : value ≤ limit
      · simp only [Option.bind_some, fits, if_true, Option.some.injEq]
        constructor
        · intro same
          exact ⟨same, same ▸ fits⟩
        · exact fun both => both.1
      · simp only [Option.bind_some, fits, if_false, Option.some.injEq]
        constructor
        · intro impossible
          cases impossible
        · intro both
          exact absurd (both.1 ▸ both.2) fits

theorem parseInteger_eq_ok {limit result : Nat} {text : String} :
    parseInteger limit text = .ok result ↔
      parseUnsigned limit text = some result := by
  rw [parseUnsigned_eq_some]
  unfold parseInteger
  cases text.toList with
  | nil => simp [unsignedDigits, readDigits]
  | cons char rest =>
      by_cases plus : char = '+'
      · subst plus
        cases rest with
        | nil => simp [unsignedDigits, readDigits]
        | cons second rest =>
            exact parseDigits_zero (List.cons_ne_nil second rest)
      · have digits : unsignedDigits (char :: rest) = char :: rest := by
          simp [unsignedDigits, plus]
        rw [digits, ← parseDigits_zero (List.cons_ne_nil char rest)]
        simp [plus]

/-- A text of digits only. -/
def isNumber (text : String) : Prop :=
  text ≠ "" ∧ isAsciiDigits text = true

theorem readDigits_number {chars : List Char} {value : Nat}
    (reads : readDigits chars = some value) :
    chars ≠ [] ∧ chars.all Char.isDigit = true := by
  unfold readDigits at reads
  by_cases digits : chars ≠ [] ∧ chars.all Char.isDigit = true
  · exact digits
  · rw [if_neg digits] at reads
    cases reads

theorem unsignedDigits_of_all {chars : List Char}
    (digits : chars.all Char.isDigit = true) :
    unsignedDigits chars = chars := by
  cases chars with
  | nil => rfl
  | cons char rest =>
      have unsigned : char ≠ '+' := by
        intro plus
        rw [plus] at digits
        cases digits
      simp [unsignedDigits, unsigned]

/-- What is read as a number is one, or is one behind a plus sign. -/
theorem parseUnsigned_isSome {limit : Nat} {text : String} :
    (parseUnsigned limit text).isSome = true ↔
      (isNumber text ∧ (parseUnsigned limit text).isSome = true) ∨
        ∃ digits, text = "+" ++ digits ∧ isNumber digits ∧
          (parseUnsigned limit digits).isSome = true := by
  constructor
  · intro readable
    obtain ⟨value, reads⟩ := Option.isSome_iff_exists.mp readable
    obtain ⟨digits, bounded⟩ := parseUnsigned_eq_some.mp reads
    obtain ⟨nonempty, all⟩ := readDigits_number digits
    cases chars : text.toList with
    | nil =>
        rw [chars] at nonempty
        exact absurd rfl nonempty
    | cons char rest =>
        by_cases plus : char = '+'
        · rw [chars, plus] at digits nonempty all
          change rest ≠ [] at nonempty
          change rest.all Char.isDigit = true at all
          change readDigits rest = some value at digits
          refine Or.inr ⟨String.ofList rest, ?_, ⟨?_, ?_⟩, ?_⟩
          · apply String.toList_injective
            rw [chars, plus, String.toList_append, String.toList_ofList,
              String.toList_ofList]
            rfl
          · intro empty
            apply nonempty
            have same := congrArg String.toList empty
            rw [String.toList_ofList] at same
            exact same
          · unfold isAsciiDigits
            rw [String.toList_ofList]
            exact all
          · apply Option.isSome_iff_exists.mpr
            refine ⟨value, parseUnsigned_eq_some.mpr ⟨?_, bounded⟩⟩
            rw [String.toList_ofList, unsignedDigits_of_all all]
            exact digits
        · have unsigned : unsignedDigits text.toList = text.toList := by
            rw [chars]
            simp [unsignedDigits, plus]
          rw [unsigned] at nonempty all
          refine Or.inl ⟨⟨?_, all⟩, readable⟩
          intro empty
          rw [empty] at nonempty
          exact nonempty rfl
  · intro either
    rcases either with number | signed
    · exact number.2
    · obtain ⟨digits, whole, number, readable⟩ := signed
      obtain ⟨value, reads⟩ := Option.isSome_iff_exists.mp readable
      obtain ⟨read, bounded⟩ := parseUnsigned_eq_some.mp reads
      rw [unsignedDigits_of_all number.2] at read
      apply Option.isSome_iff_exists.mpr
      refine ⟨value, parseUnsigned_eq_some.mpr ⟨?_, bounded⟩⟩
      rw [whole, String.toList_append]
      exact read

end Foundation.Text
