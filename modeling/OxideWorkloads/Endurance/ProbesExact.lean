/-
The ticks of a process are those of its `utime` and `stime` fields, whatever
its name is; the columns of `df` are those of the table only where the name of
the filesystem is one word, or where what is read in their place is no number.
-/

import OxideWorkloads.Endurance.Probes
import OxideWorkloads.Foundation.DecimalOrder

namespace Endurance

open Foundation
open Foundation.Checks
open Foundation.Text (splitWhitespace)
open Foundation.Words (words Solid)

/-! ### Numbers as words -/

theorem not_whitespace_of_isDigit {char : Char}
    (digit : char.isDigit = true) : Text.isWhitespace char = false := by
  have range := Text.isDigit_range digit
  simp only [Text.isWhitespace, Bool.or_eq_false_iff, Bool.and_eq_false_iff,
    decide_eq_false_iff_not]
  omega

theorem decimal_solid (value : Nat) :
    Solid Text.isWhitespace (Text.decimal value).toList := by
  constructor
  · rw [Text.decimal_eq_zeroPadded]
    exact Text.zeroPadded_ne_nil 0 value
  · intro char member
    exact not_whitespace_of_isDigit (Text.decimal_isDigit member)

theorem signed_solid (value : Int) :
    Solid Text.isWhitespace (Text.signed value).toList := by
  unfold Text.signed
  split
  · rw [String.toList_append]
    constructor
    · exact List.append_ne_nil_of_right_ne_nil _ (decimal_solid _).1
    · intro char member
      rcases List.mem_append.mp member with sign | digit
      · rw [List.mem_singleton.mp sign]
        rfl
      · exact (decimal_solid _).2 char digit
  · exact decimal_solid _

theorem parseUnsigned_decimal {limit value result : Nat} :
    Text.parseUnsigned limit (Text.decimal value) = some result ↔
      value = result ∧ value ≤ limit := by
  rw [Text.decimal_eq_zeroPadded]
  constructor
  · intro reads
    obtain ⟨read, bounded⟩ := Text.parseUnsigned_eq_some.mp reads
    rw [Text.unsignedDigits_of_all (Text.zeroPadded_isAsciiDigits 0 value),
      Text.readDigits_zeroPadded, Option.some.injEq] at read
    exact ⟨read, read ▸ bounded⟩
  · intro both
    rw [Text.parseUnsigned_zeroPadded 0 both.2, both.1]

theorem parseUnsigned_signed {limit result : Nat} {value : Int} :
    Text.parseUnsigned limit (Text.signed value) = some result ↔
      value = result ∧ result ≤ limit := by
  unfold Text.signed
  split
  · rename_i negative
    constructor
    · intro reads
      have read := (Text.parseUnsigned_eq_some.mp reads).1
      rw [String.toList_append] at read
      have digits := (Text.readDigits_number read).2
      cases digits
    · intro both
      omega
  · rename_i positive
    rw [parseUnsigned_decimal]
    omega

theorem parseU64_signed {value : Int} {word : UInt64} :
    parseU64 (Text.signed value).toList = .ok word ↔
      value = word.toNat := by
  have limit : u64Max = 18446744073709551615 := rfl
  have bound := word.toNat_lt
  rw [parseU64_eq_ok, String.ofList_toList, parseUnsigned_signed]
  constructor
  · exact fun both => both.1
  · intro same
    exact ⟨same, by omega⟩

/-! ### The line of a process -/

/-- The words behind the command: the state, and the fields after it. -/
def statWords (state : Char) (fields : List Int) : List (List Char) :=
  [state] :: fields.map (fun field => (Text.signed field).toList)

def statTail (state : Char) (fields : List Int) : String :=
  String.ofList
    ((statWords state fields).flatMap (fun word => ' ' :: word))

def statLine (pid : Nat) (comm tail : String) : String :=
  Text.decimal pid ++ " (" ++ comm ++ ")" ++ tail

/-- The last parenthesis of the line is that of the command, or is behind
it. -/
theorem rsplitOnce_statLine (pid : Nat) (comm tail : String) :
    ∃ before after, Text.rsplitOnce (statLine pid comm tail) ')' =
        some (before, after) ∧
      after.toList <:+ tail.toList := by
  by_cases later : ')' ∈ tail.toList
  · obtain ⟨back, front, whole, absent⟩ :=
      List.eq_append_cons_of_mem (List.mem_reverse.mpr later)
    have parts : tail = String.ofList front.reverse ++ String.singleton ')' ++
        String.ofList back.reverse := by
      apply String.toList_injective
      rw [String.toList_append, String.toList_append, String.toList_singleton,
        String.toList_ofList, String.toList_ofList,
        ← List.reverse_reverse tail.toList, whole, List.reverse_append,
        List.reverse_cons]
    refine ⟨Text.decimal pid ++ " (" ++ comm ++ ")" ++
      String.ofList front.reverse, String.ofList back.reverse, ?_, ?_⟩
    · unfold statLine
      rw [parts, ← String.append_assoc, ← String.append_assoc]
      apply Text.rsplitOnce_append
      rw [String.toList_ofList, List.mem_reverse]
      exact absent
    · rw [parts, String.toList_append]
      exact List.suffix_append _ _
  · exact ⟨_, tail, Text.rsplitOnce_append _ tail ')' later,
      List.suffix_refl _⟩

theorem words_statTail {state : Char} {fields : List Int} {ending : String}
    (solid : Text.isWhitespace state = false)
    (blank : Text.isBlank ending = true) :
    splitWhitespace (statTail state fields ++ ending) =
      statWords state fields := by
  unfold splitWhitespace statTail
  rw [String.toList_append, String.toList_ofList]
  apply Words.words_flatMap (by decide)
  · intro word member
    rcases List.mem_cons.mp member with first | field
    · rw [first]
      constructor
      · exact List.cons_ne_nil _ _
      · intro char inside
        rw [List.mem_singleton.mp inside]
        exact solid
    · obtain ⟨value, _, same⟩ := List.mem_map.mp field
      rw [← same]
      exact signed_solid value
  · exact List.all_eq_true.mp blank

theorem words_statTail_length (state : Char) (fields : List Int) :
    (splitWhitespace (statTail state fields)).length ≤
      fields.length + 1 := by
  have fieldsSolid : ∀ word ∈ fields.map
      (fun field => (Text.signed field).toList),
      Solid Text.isWhitespace word := by
    intro word member
    obtain ⟨value, _, same⟩ := List.mem_map.mp member
    rw [← same]
    exact signed_solid value
  cases solid : Text.isWhitespace state with
  | false =>
      have all : splitWhitespace (statTail state fields ++ "") =
          statWords state fields := words_statTail solid rfl
      rw [String.append_empty] at all
      rw [all, statWords, List.length_cons, List.length_map]
  | true =>
      have all : words Text.isWhitespace ((fields.map
          (fun field => (Text.signed field).toList)).flatMap
            (fun word => ' ' :: word) ++ []) = _ :=
        Words.words_flatMap (by decide) fieldsSolid []
          (fun _ member => absurd member List.not_mem_nil)
      unfold splitWhitespace statTail statWords
      rw [String.toList_ofList, List.flatMap_cons, List.cons_append,
        List.cons_append, List.nil_append, Words.words_cons (by decide),
        Words.words_cons solid]
      rw [List.append_nil] at all
      rw [all, List.length_map]
      exact Nat.le_succ _

theorem parseCpuTicks_eq_ok {stat : String} {ticks : UInt64} :
    parseCpuTicks stat = .ok ticks ↔
      ∃ before after rest,
        Text.rsplitOnce stat ')' = some (before, after) ∧
        afterSecondByte after.toList = some rest ∧
        12 < (words Text.isWhitespace rest).length ∧
        ∃ userTicks systemTicks,
          parseU64 ((words Text.isWhitespace rest).getD 11 []) =
            .ok userTicks ∧
          parseU64 ((words Text.isWhitespace rest).getD 12 []) =
            .ok systemTicks ∧
          userTicks.toNat + systemTicks.toNat = ticks.toNat := by
  unfold parseCpuTicks
  simp only [bind_eq_ok, require_eq_ok, ensure_eq_ok, context_eq_ok,
    Word.checkedAdd_eq_some]
  constructor
  · rintro ⟨⟨before, after⟩, split, rest, behind, _, enough, user, userReads,
      system, systemReads, sum⟩
    exact ⟨before, after, rest, split, behind, enough, user, system,
      userReads, systemReads, sum⟩
  · rintro ⟨before, after, rest, split, behind, enough, user, system,
      userReads, systemReads, sum⟩
    exact ⟨(before, after), split, rest, behind, (), enough, user, userReads,
      system, systemReads, sum⟩

theorem afterSecondByte_suffix {chars rest : List Char}
    (behind : afterSecondByte chars = some rest) : rest <:+ chars := by
  cases chars with
  | nil => cases behind
  | cons char more =>
      rw [afterSecondByte] at behind
      split at behind
      · cases behind
        exact List.suffix_cons char rest
      · cases behind

/-- Whatever is read in a line that has too few words behind the command is
too short. -/
theorem parseCpuTicks_few {pid : Nat} {comm tail : String}
    (few : (splitWhitespace tail).length ≤ 12) :
    ∃ error, parseCpuTicks (statLine pid comm tail) = .error error := by
  cases result : parseCpuTicks (statLine pid comm tail) with
  | error error => exact ⟨error, rfl⟩
  | ok ticks =>
      obtain ⟨before, after, rest, split, behind, enough, _⟩ :=
        parseCpuTicks_eq_ok.mp result
      obtain ⟨_, last, splitLast, final⟩ := rsplitOnce_statLine pid comm tail
      rw [splitLast] at split
      cases split
      have fewer : (words Text.isWhitespace rest).length ≤
          (words Text.isWhitespace tail.toList).length :=
        Words.words_final_length ((afterSecondByte_suffix behind).trans final)
      unfold splitWhitespace at few
      omega

/-- The line ends before the field that would be the next one. -/
theorem words_initial_statTail {state : Char} {fields : List Int}
    {part ending : String}
    (initial : part.toList <+: (statTail state fields ++ " ").toList)
    (blank : Text.isBlank ending = true) :
    (splitWhitespace (part ++ ending)).length ≤ fields.length + 1 := by
  have bound := words_statTail_length state fields
  have space : Text.isBlank " " = true := rfl
  have shorter : (words Text.isWhitespace part.toList).length ≤
      (words Text.isWhitespace
        (statTail state fields ++ " ").toList).length :=
    Words.words_initial_length initial
  unfold splitWhitespace at bound ⊢
  rw [String.toList_append] at shorter
  rw [String.toList_append,
    Words.words_append_blank _ (List.all_eq_true.mp blank)]
  rw [Words.words_append_blank _ (List.all_eq_true.mp space)] at shorter
  exact Nat.le_trans shorter bound

theorem parenthesis_not_mem_statTail {state : Char} {fields : List Int}
    {ending : String} (other : state ≠ ')')
    (blank : Text.isBlank ending = true) :
    ')' ∉ (statTail state fields ++ ending).toList := by
  intro member
  rw [String.toList_append] at member
  rcases List.mem_append.mp member with inTail | inEnding
  · rw [statTail, String.toList_ofList, statWords] at inTail
    obtain ⟨word, inWords, inside⟩ := List.mem_flatMap.mp inTail
    rcases List.mem_cons.mp inside with space | inWord
    · cases space
    · rcases List.mem_cons.mp inWords with first | field
      · rw [first, List.mem_singleton] at inWord
        exact other inWord.symm
      · obtain ⟨value, _, same⟩ := List.mem_map.mp field
        rw [← same] at inWord
        rcases Text.signed_chars inWord with minus | digit
        · cases minus
        · cases digit
  · have white := List.all_eq_true.mp blank _ inEnding
    cases white

/-- Where the state is one word and no parenthesis, the words that are read are
those behind the command. -/
theorem behind_statLine {pid : Nat} {comm : String} {state : Char}
    {fields : List Int} {ending : String}
    (other : state ≠ ')') (solid : Text.isWhitespace state = false)
    (blank : Text.isBlank ending = true) :
    ∃ before after rest,
      Text.rsplitOnce
          (statLine pid comm (statTail state fields ++ ending)) ')' =
        some (before, after) ∧
      afterSecondByte after.toList = some rest ∧
      words Text.isWhitespace rest = statWords state fields := by
  have all : splitWhitespace (statTail state fields ++ ending) =
      statWords state fields := words_statTail solid blank
  obtain ⟨rest, whole⟩ : ∃ rest,
      (statTail state fields ++ ending).toList = ' ' :: rest := by
    unfold statTail statWords
    rw [String.toList_append, String.toList_ofList, List.flatMap_cons,
      List.cons_append, List.cons_append]
    exact ⟨_, rfl⟩
  refine ⟨_, statTail state fields ++ ending, rest,
    Text.rsplitOnce_append _ _ ')' (parenthesis_not_mem_statTail other blank),
    ?_, ?_⟩
  · rw [whole]
    rfl
  · unfold splitWhitespace at all
    rw [whole, Words.words_cons (by decide)] at all
    exact all

theorem getD_statWords (state : Char) (fields : List Int) (position : Nat) :
    (statWords state fields).getD (position + 1) [] =
      (fields[position]?.map (fun field => (Text.signed field).toList)).getD
        [] := by
  unfold statWords
  rw [List.getD_cons_succ, List.getD_eq_getElem?_getD, List.getElem?_map]

theorem parseU64_field {field : Option Int} {word : UInt64}
    (reads : parseU64
      ((field.map (fun field => (Text.signed field).toList)).getD []) =
        .ok word) : field = some (word.toNat : Int) := by
  cases field with
  | none => cases reads
  | some value => rw [parseU64_signed.mp reads]

/-- The ticks of a whole line are those of its `utime` and `stime` fields, and
a line that ends before the latter has none. -/
theorem parseCpuTicks_statLine (pid : Nat) (comm ending : String)
    (state : Char) (fields : List Int)
    (blank : Text.isBlank ending = true) :
    (state ≠ ')' → Text.isWhitespace state = false →
      ∀ ticks : UInt64,
        parseCpuTicks
            (statLine pid comm (statTail state fields ++ ending)) =
              .ok ticks ↔
          ∃ utime stime : Nat, fields[10]? = some (utime : Int) ∧
            fields[11]? = some (stime : Int) ∧
            utime + stime = ticks.toNat) ∧
      ∀ part : String,
        part.toList <+:
            (statTail state (fields.take 11) ++ " ").toList →
          ∃ error, parseCpuTicks
            (statLine pid comm (part ++ ending)) = .error error := by
  constructor
  · intro other solid ticks
    obtain ⟨before, after, rest, split, behind, all⟩ :=
      @behind_statLine pid comm state fields ending other solid blank
    constructor
    · intro read
      obtain ⟨_, _, _, splits, behinds, _, user, system, userReads,
        systemReads, sum⟩ := parseCpuTicks_eq_ok.mp read
      rw [split] at splits
      cases splits
      rw [behind] at behinds
      cases behinds
      rw [all, getD_statWords] at userReads systemReads
      exact ⟨user.toNat, system.toNat, parseU64_field userReads,
        parseU64_field systemReads, sum⟩
    · intro present
      obtain ⟨utime, stime, userField, systemField, sum⟩ := present
      have long := (List.getElem?_eq_some_iff.mp systemField).1
      have bound := ticks.toNat_lt
      apply parseCpuTicks_eq_ok.mpr
      refine ⟨before, after, rest, split, behind, ?_, UInt64.ofNat utime,
        UInt64.ofNat stime, ?_, ?_, ?_⟩
      · rw [all, statWords, List.length_cons, List.length_map]
        omega
      · rw [all, getD_statWords, userField]
        apply parseU64_signed.mpr
        rw [UInt64.toNat_ofNat_of_lt' (by change utime < 2 ^ 64; omega)]
      · rw [all, getD_statWords, systemField]
        apply parseU64_signed.mpr
        rw [UInt64.toNat_ofNat_of_lt' (by change stime < 2 ^ 64; omega)]
      · rw [UInt64.toNat_ofNat_of_lt' (by change utime < 2 ^ 64; omega),
          UInt64.toNat_ofNat_of_lt' (by change stime < 2 ^ 64; omega)]
        exact sum
  · intro part initial
    apply parseCpuTicks_few
    have few := words_initial_statTail initial blank
    have taken := List.length_take_le 11 fields
    omega

theorem parseCpuTicks_statLine_shell :
    parseCpuTicks (statLine 7 "sh) S 1 ("
        (statTail 'S' [0, 1, 2, 3, 4, 5, 6, 7, 8, 9, 10, 11] ++ "\n")) =
      .ok 21 ∧
    ∃ error, parseCpuTicks (statLine 7 "sh) S 1 (" (" S 0 1" ++ "\n")) =
      .error error :=
  have line := parseCpuTicks_statLine 7 "sh) S 1 (" "\n" 'S'
    [0, 1, 2, 3, 4, 5, 6, 7, 8, 9, 10, 11] (by decide)
  ⟨(line.1 (by decide) (by decide) 21).mpr ⟨10, 11, rfl, rfl, rfl⟩,
    line.2 " S 0 1" (by decide)⟩

/-- A state that is itself a closing parenthesis is taken for that of the
command. -/
theorem parseCpuTicks_shifted :
    parseCpuTicks (statLine 7 "sh"
        (statTail ')' [0, 1, 2, 3, 4, 5, 6, 7, 8, 9, 10, 11, 12] ++ "\n")) =
      .ok 23 ∧
    ¬∃ utime stime : Nat,
      ([0, 1, 2, 3, 4, 5, 6, 7, 8, 9, 10, 11, 12] : List Int)[10]? =
        some (utime : Int) ∧
      ([0, 1, 2, 3, 4, 5, 6, 7, 8, 9, 10, 11, 12] : List Int)[11]? =
        some (stime : Int) ∧
      utime + stime = (23 : UInt64).toNat := by
  constructor
  · decide +kernel
  · rintro ⟨utime, stime, user, system, sum⟩
    cases user
    cases system
    cases sum

/-! ### The table of a filesystem -/

/-- The space between two columns; a column may be padded. -/
def gap (width : Nat) : List Char := List.replicate (width + 1) ' '

structure DfRow where
  filesystem : String
  blocks : Nat
  used : Nat
  available : Nat
  capacity : Nat
  mountPoint : String

/-- The columns behind the name of the filesystem. -/
def DfRow.numbers (row : DfRow) : List (List Char) :=
  [(Text.decimal row.blocks).toList, (Text.decimal row.used).toList,
    (Text.decimal row.available).toList]

def DfRow.capacityColumn (row : DfRow) : List Char :=
  (Text.decimal row.capacity).toList ++ ['%']

/-- The line of the table, with the width of each gap. -/
def DfRow.line (row : DfRow) (widths : Fin 5 → Nat) : String :=
  String.ofList
    (row.filesystem.toList ++ (gap (widths 0) ++
      ((Text.decimal row.blocks).toList ++ (gap (widths 1) ++
        ((Text.decimal row.used).toList ++ (gap (widths 2) ++
          ((Text.decimal row.available).toList ++ (gap (widths 3) ++
            (row.capacityColumn ++ (gap (widths 4) ++
              row.mountPoint.toList))))))))))

/-- The observation is that of the columns of the row. -/
def DfRow.Shows (row : DfRow) (observation : FilesystemObservation) : Prop :=
  observation.totalBytes.toNat = row.blocks * 1024 ∧
    observation.usedBytes.toNat = row.used * 1024 ∧
    observation.availableBytes.toNat = row.available * 1024

/-- A number of kibibytes whose bytes fit 64 bits. -/
def readKib (word : List Char) : Option Nat :=
  Text.parseUnsigned (u64Max / 1024) (String.ofList word)

/-- What is read in place of the numbers: the three words behind the first one
of the row. -/
def DfRow.readColumns (row : DfRow) : List (List Char) :=
  ((splitWhitespace row.filesystem).tail ++ row.numbers).take 3

/-- The name has several words, and what is read in place of the numbers are
other numbers. -/
def DfRow.Shifted (row : DfRow) : Prop :=
  2 ≤ (splitWhitespace row.filesystem).length ∧
    ∃ total used available : Nat,
      row.readColumns.map readKib =
        [some total, some used, some available] ∧
      ¬(total = row.blocks ∧ used = row.used ∧ available = row.available)

theorem gap_ne_nil (width : Nat) : gap width ≠ [] :=
  List.cons_ne_nil _ _

theorem gap_blank (width : Nat) :
    ∀ char ∈ gap width, Text.isWhitespace char = true := by
  intro char member
  rw [List.eq_of_mem_replicate member]
  rfl

theorem DfRow.capacityColumn_solid (row : DfRow) :
    Solid Text.isWhitespace row.capacityColumn := by
  constructor
  · exact List.append_ne_nil_of_right_ne_nil _ (List.cons_ne_nil _ _)
  · intro char member
    rcases List.mem_append.mp member with digit | percent
    · exact (decimal_solid _).2 char digit
    · rw [List.mem_singleton.mp percent]
      rfl

theorem DfRow.words_line (row : DfRow) (widths : Fin 5 → Nat) :
    splitWhitespace (row.line widths) =
      splitWhitespace row.filesystem ++ (row.numbers ++
        row.capacityColumn :: splitWhitespace row.mountPoint) := by
  unfold splitWhitespace DfRow.line DfRow.numbers
  rw [String.toList_ofList]
  simp only [Words.words_gap (gap_ne_nil _) (gap_blank _),
    Words.words_solid (decimal_solid _),
    Words.words_solid row.capacityColumn_solid, List.cons_append,
    List.nil_append]

/-- A column and its bytes. -/
theorem column_eq_ok {word : List Char} {bytes : UInt64} :
    (∃ kib, parseU64 word = .ok kib ∧ kibToBytes kib = .ok bytes) ↔
      ∃ number, readKib word = some number ∧
        bytes.toNat = number * 1024 := by
  have limit : u64Max = 18446744073709551615 := rfl
  unfold readKib kibToBytes
  simp only [parseU64_eq_ok, require_eq_ok, Word.checkedMul_eq_some,
    Text.parseUnsigned_eq_some]
  constructor
  · rintro ⟨kib, ⟨reads, _⟩, product⟩
    have bound := bytes.toNat_lt
    change kib.toNat * 1024 = bytes.toNat at product
    exact ⟨kib.toNat, ⟨reads, by omega⟩, product.symm⟩
  · rintro ⟨number, ⟨reads, small⟩, product⟩
    have same : (UInt64.ofNat number).toNat = number :=
      UInt64.toNat_ofNat_of_lt' (by change number < 2 ^ 64; omega)
    refine ⟨UInt64.ofNat number, ⟨?_, ?_⟩, ?_⟩
    · rw [same]
      exact reads
    · omega
    · rw [same]
      exact product.symm

theorem exists_columns {columns : List (List Char)}
    (enough : 6 ≤ columns.length) :
    ∃ name total used available rest,
      columns = name :: total :: used :: available :: rest := by
  rcases columns with _ | ⟨name, _ | ⟨total, _ | ⟨used, _ | ⟨available, rest⟩⟩⟩⟩
  · cases enough
  · contradiction
  · contradiction
  · contradiction
  · exact ⟨name, total, used, available, rest, rfl⟩

theorem observeRow_eq_ok {line : String}
    {observation : FilesystemObservation} :
    observeRow line = .ok observation ↔
      6 ≤ (splitWhitespace line).length ∧
        ∃ total used available : Nat,
          ((splitWhitespace line).tail.take 3).map readKib =
            [some total, some used, some available] ∧
          observation.totalBytes.toNat = total * 1024 ∧
          observation.usedBytes.toNat = used * 1024 ∧
          observation.availableBytes.toNat = available * 1024 := by
  unfold observeRow
  simp only [bind_eq_ok, ensure_eq_ok, context_eq_ok, pure_eq_ok]
  generalize splitWhitespace line = columns
  constructor
  · rintro ⟨_, enough, totalKib, totalReads, usedKib, usedReads, availableKib,
      availableReads, totalBytes, totalFits, usedBytes, usedFits,
      availableBytes, availableFits, same⟩
    obtain ⟨total, totalRead, totalSame⟩ :=
      column_eq_ok.mp ⟨totalKib, totalReads, totalFits⟩
    obtain ⟨used, usedRead, usedSame⟩ :=
      column_eq_ok.mp ⟨usedKib, usedReads, usedFits⟩
    obtain ⟨available, availableRead, availableSame⟩ :=
      column_eq_ok.mp ⟨availableKib, availableReads, availableFits⟩
    refine ⟨enough, total, used, available, ?_, ?_⟩
    · obtain ⟨_, _, _, _, _, columnsSame⟩ := exists_columns enough
      rw [columnsSame] at totalRead usedRead availableRead ⊢
      simp only [List.getD_cons_succ, List.getD_cons_zero]
        at totalRead usedRead availableRead
      simp only [List.tail_cons, List.take_succ_cons, List.take_zero,
        List.map_cons, List.map_nil, totalRead, usedRead, availableRead]
    · rw [← same]
      exact ⟨totalSame, usedSame, availableSame⟩
  · rintro ⟨enough, total, used, available, reads, totalSame, usedSame,
      availableSame⟩
    obtain ⟨_, _, _, _, _, columnsSame⟩ := exists_columns enough
    rw [columnsSame] at reads enough ⊢
    simp only [List.tail_cons, List.take_succ_cons, List.take_zero,
      List.map_cons, List.map_nil, List.cons.injEq, and_true] at reads
    obtain ⟨totalKib, totalReads, totalFits⟩ :=
      column_eq_ok.mpr ⟨total, reads.1, totalSame⟩
    obtain ⟨usedKib, usedReads, usedFits⟩ :=
      column_eq_ok.mpr ⟨used, reads.2.1, usedSame⟩
    obtain ⟨availableKib, availableReads, availableFits⟩ :=
      column_eq_ok.mpr ⟨available, reads.2.2, availableSame⟩
    exact ⟨(), enough, totalKib, totalReads, usedKib, usedReads, availableKib,
      availableReads, _, totalFits, _, usedFits, _, availableFits, rfl⟩

/-- The output of a run of `df` that printed a row behind something else. -/
def DfRow.output (row : DfRow) (widths : Fin 5 → Nat)
    (status header stderr : String) : DfOutput :=
  { success := true
    status := status
    stdout := .ok (header ++ "\n" ++ row.line widths ++ "\n")
    stderr := stderr }

theorem DfRow.line_oneLine {row : DfRow}
    (nameLine : '\n' ∉ row.filesystem.toList)
    (mountLine : '\n' ∉ row.mountPoint.toList) (widths : Fin 5 → Nat) :
    '\n' ∉ (row.line widths).toList := by
  have inGap : ∀ width, '\n' ∉ gap width := by
    intro width member
    have space := List.eq_of_mem_replicate member
    cases space
  have inNumber : ∀ value, '\n' ∉ (Text.decimal value).toList := by
    intro value member
    have digit := Text.decimal_isDigit member
    cases digit
  unfold DfRow.line DfRow.capacityColumn
  rw [String.toList_ofList]
  simp only [List.mem_append, not_or, List.mem_singleton]
  exact ⟨nameLine, inGap _, inNumber _, inGap _, inNumber _, inGap _,
    inNumber _, inGap _, ⟨inNumber _, by decide⟩, inGap _, mountLine⟩

/-- The last line of the table is what is observed. -/
theorem filesystemObservationDf_output {row : DfRow}
    (nameLine : '\n' ∉ row.filesystem.toList)
    (mountLine : '\n' ∉ row.mountPoint.toList) (widths : Fin 5 → Nat)
    (path status header stderr : String)
    (observation : FilesystemObservation) :
    filesystemObservationDf path
        (.ok (row.output widths status header stderr)) = .ok observation ↔
      observeRow (row.line widths) = .ok observation := by
  have last := Text.lines_append_line header
    (row.line_oneLine nameLine mountLine widths)
  have written : Text.isBlank (Text.stripReturn (row.line widths)) = false := by
    rw [← Bool.not_eq_true, Text.isBlank_eq_true,
      Text.splitWhitespace_stripReturn, DfRow.words_line]
    exact List.append_ne_nil_of_right_ne_nil _ (List.cons_ne_nil _ _)
  have row_ : observeRow (Text.stripReturn (row.line widths)) =
        .ok observation ↔
      observeRow (row.line widths) = .ok observation := by
    rw [observeRow_eq_ok, observeRow_eq_ok, Text.splitWhitespace_stripReturn]
  unfold filesystemObservationDf DfRow.output
  simp only [bind_eq_ok, context_eq_ok, ensure_eq_ok, require_eq_ok,
    Except.ok.injEq]
  rw [← row_]
  constructor
  · rintro ⟨output, printed, _, _, stdout, text, line, found, observed⟩
    rw [← printed] at text
    cases text
    rw [last, List.reverse_append, List.reverse_singleton,
      List.singleton_append, List.find?_cons_of_pos (by rw [written]; rfl),
      Option.some.injEq] at found
    rw [found]
    exact observed
  · intro observed
    refine ⟨_, rfl, (), rfl, _, rfl, _, ?_, observed⟩
    rw [last, List.reverse_append, List.reverse_singleton,
      List.singleton_append, List.find?_cons_of_pos (by rw [written]; rfl)]

theorem mem_unsignedDigits {char : Char} {chars : List Char}
    (other : char ≠ '+') (member : char ∈ chars) :
    char ∈ Text.unsignedDigits chars := by
  unfold Text.unsignedDigits
  split
  · rcases List.mem_cons.mp member with plus | later
    · exact absurd plus other
    · exact later
  · exact member

theorem DfRow.capacity_unreadable (row : DfRow) :
    readKib row.capacityColumn = none := by
  cases reads : readKib row.capacityColumn with
  | none => rfl
  | some number =>
      have read := (Text.parseUnsigned_eq_some.mp reads).1
      have digits := (Text.readDigits_number read).2
      rw [String.toList_ofList, List.all_eq_true] at digits
      have percent := digits '%' (mem_unsignedDigits (by decide)
        (List.mem_append_right _ List.mem_cons_self))
      cases percent

theorem readKib_decimal {value number : Nat} :
    readKib (Text.decimal value).toList = some number ↔
      value = number ∧ value ≤ u64Max / 1024 := by
  unfold readKib
  rw [String.ofList_toList]
  exact parseUnsigned_decimal

theorem readKib_bytes {word : List Char} {number : Nat}
    (reads : readKib word = some number) :
    (UInt64.ofNat (number * 1024)).toNat = number * 1024 := by
  have limit : u64Max = 18446744073709551615 := rfl
  have small := (Text.parseUnsigned_eq_some.mp reads).2
  apply UInt64.toNat_ofNat_of_lt'
  change number * 1024 < 2 ^ 64
  omega

/-- Behind a name, the three words that are read are those of the row. -/
theorem DfRow.readColumns_line {row : DfRow} (widths : Fin 5 → Nat)
    (named : splitWhitespace row.filesystem ≠ []) :
    (splitWhitespace (row.line widths)).tail.take 3 = row.readColumns := by
  rw [DfRow.words_line]
  unfold DfRow.readColumns
  obtain ⟨first, rest, whole⟩ := List.exists_cons_of_ne_nil named
  rw [whole, List.cons_append, List.tail_cons, List.tail_cons,
    ← List.append_assoc, List.take_append_of_le_length]
  rw [List.length_append]
  exact Nat.le_add_left 3 rest.length

/-- A name of one word or none is read right, or not at all. -/
theorem DfRow.shows_of_short {row : DfRow} {widths : Fin 5 → Nat}
    {observation : FilesystemObservation}
    (short : (splitWhitespace row.filesystem).length < 2)
    (observed : observeRow (row.line widths) = .ok observation) :
    row.Shows observation := by
  obtain ⟨_, total, used, available, reads, totalSame, usedSame,
    availableSame⟩ := observeRow_eq_ok.mp observed
  cases name : splitWhitespace row.filesystem with
  | nil =>
      rw [DfRow.words_line, name, DfRow.numbers] at reads
      simp only [List.nil_append, List.cons_append, List.tail_cons,
        List.take_succ_cons, List.take_zero, List.map_cons, List.map_nil,
        List.cons.injEq, row.capacity_unreadable] at reads
      cases reads.2.2.1
  | cons word rest =>
      cases rest with
      | nil =>
          have named : splitWhitespace row.filesystem ≠ [] := by
            rw [name]
            exact List.cons_ne_nil _ _
          rw [row.readColumns_line widths named, DfRow.readColumns, name,
            DfRow.numbers] at reads
          simp only [List.nil_append, List.tail_cons, List.take_succ_cons,
            List.take_zero, List.map_cons, List.map_nil, List.cons.injEq,
            readKib_decimal] at reads
          unfold DfRow.Shows
          rw [totalSame, usedSame, availableSame, reads.1.1, reads.2.1.1,
            reads.2.2.1.1]
          exact ⟨rfl, rfl, rfl⟩
      | cons next more =>
          rw [name] at short
          simp only [List.length_cons] at short
          omega

/-- The columns of the table are read exactly where nothing is read in their
place. -/
theorem filesystemObservationDf_shows_iff (row : DfRow)
    (nameLine : '\n' ∉ row.filesystem.toList)
    (mountLine : '\n' ∉ row.mountPoint.toList) (widths : Fin 5 → Nat)
    (path status header stderr : String) :
    (∀ observation, filesystemObservationDf path
        (.ok (row.output widths status header stderr)) = .ok observation →
          row.Shows observation) ↔
      ¬row.Shifted := by
  simp only [filesystemObservationDf_output nameLine mountLine]
  constructor
  · rintro shows ⟨several, total, used, available, reads, different⟩
    have named : splitWhitespace row.filesystem ≠ [] := by
      intro none
      rw [none] at several
      cases several
    have enough : 6 ≤ (splitWhitespace (row.line widths)).length := by
      rw [DfRow.words_line, DfRow.numbers]
      simp only [List.length_append, List.length_cons]
      omega
    have bytes : ∀ number,
        some number ∈ row.readColumns.map readKib →
          (UInt64.ofNat (number * 1024)).toNat = number * 1024 := by
      intro number member
      obtain ⟨word, _, read⟩ := List.mem_map.mp member
      exact readKib_bytes read
    rw [reads] at bytes
    have shown := shows
      { totalBytes := UInt64.ofNat (total * 1024)
        usedBytes := UInt64.ofNat (used * 1024)
        availableBytes := UInt64.ofNat (available * 1024) }
      (observeRow_eq_ok.mpr ⟨enough, total, used, available,
        by rw [row.readColumns_line widths named, reads],
        bytes total (by simp), bytes used (by simp),
        bytes available (by simp)⟩)
    unfold DfRow.Shows at shown
    rw [bytes total (by simp), bytes used (by simp),
      bytes available (by simp)] at shown
    exact different (by omega)
  · intro straight observation observed
    by_cases short : (splitWhitespace row.filesystem).length < 2
    · exact DfRow.shows_of_short short observed
    · have several := Nat.not_lt.mp short
      have named : splitWhitespace row.filesystem ≠ [] := by
        intro none
        rw [none] at several
        cases several
      obtain ⟨_, total, used, available, reads, totalSame, usedSame,
        availableSame⟩ := observeRow_eq_ok.mp observed
      rw [row.readColumns_line widths named] at reads
      by_cases same : total = row.blocks ∧ used = row.used ∧
          available = row.available
      · unfold DfRow.Shows
        rw [totalSame, usedSame, availableSame, same.1, same.2.1, same.2.2]
        exact ⟨rfl, rfl, rfl⟩
      · exact absurd ⟨several, total, used, available, reads, same⟩ straight

def diskRow : DfRow :=
  { filesystem := "/dev/sda1"
    blocks := 100
    used := 60
    available := 40
    capacity := 60
    mountPoint := "/srv/my media" }

def diskObservation : FilesystemObservation :=
  { totalBytes := 100 * 1024
    usedBytes := 60 * 1024
    availableBytes := 40 * 1024 }

theorem filesystemObservationDf_shows_iff_disk :
    filesystemObservationDf "/srv" (.ok (diskRow.output (fun _ => 0)
        "exit status: 0" "Filesystem 1024-blocks" "")) =
      .ok diskObservation ∧
    diskRow.Shows diskObservation :=
  have observed : filesystemObservationDf "/srv"
      (.ok (diskRow.output (fun _ => 0) "exit status: 0"
        "Filesystem 1024-blocks" "")) = .ok diskObservation := by
    decide +kernel
  ⟨observed, (filesystemObservationDf_shows_iff diskRow (by decide)
    (by decide) (fun _ => 0) "/srv" "exit status: 0" "Filesystem 1024-blocks"
    "").mpr (fun shifted => absurd shifted.1 (by decide)) _ observed⟩

/-- A filesystem whose name ends in a number. -/
def mediaRow : DfRow := { diskRow with filesystem := "media 5" }

def mediaObservation : FilesystemObservation :=
  { totalBytes := 5 * 1024
    usedBytes := 100 * 1024
    availableBytes := 60 * 1024 }

/-- The number in the name is taken for the blocks, and the blocks for what is
used. -/
theorem filesystemObservationDf_shifted :
    filesystemObservationDf "/srv" (.ok (mediaRow.output (fun _ => 0)
        "exit status: 0" "Filesystem 1024-blocks" "")) =
      .ok mediaObservation ∧
    ¬mediaRow.Shows mediaObservation := by
  constructor
  · decide +kernel
  · unfold DfRow.Shows
    decide

end Endurance
