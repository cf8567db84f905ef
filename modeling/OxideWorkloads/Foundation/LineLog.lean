/-
Append-only logs of one record a line, written without any protection against
interruption.

A writer appends the text of a record and a newline; an interruption may let
any beginning of those bytes through.  Nobody repairs the log, so the next
record lands right behind the remains.  The library says what a reader of the
lines can see after such appends: never a record that was not written, and
everything from the last whole log on if the log can be read at all.
-/

import Mathlib.Data.List.Basic
import Mathlib.Data.List.Infix

namespace Foundation

namespace LineLog

abbrev Bytes := List UInt8

def newline : UInt8 := 0x0A

/-! ### Lines -/

/-- The lines that a newline closes, and the bytes after the last newline. -/
def split : Bytes → List Bytes × Bytes
  | [] => ([], [])
  | byte :: rest =>
      match split rest with
      | (closed, tail) =>
          if byte = newline then ([] :: closed, tail)
          else
            match closed with
            | [] => ([], byte :: tail)
            | line :: more => ((byte :: line) :: more, tail)

/-- A carriage return in front of the newline belongs to the line ending. -/
def stripReturn (line : Bytes) : Bytes :=
  if line.getLast? = some 0x0D then line.dropLast else line

/-- The lines a reader sees.  The last line may lack its newline; it is then
read as it stands. -/
def lines (log : Bytes) : List Bytes :=
  (split log).1.map stripReturn ++
    (if (split log).2 = [] then [] else [(split log).2])

/-- The log is empty or ends with a newline. -/
def Terminated (log : Bytes) : Prop := (split log).2 = []

instance (log : Bytes) : Decidable (Terminated log) :=
  inferInstanceAs (Decidable ((split log).2 = []))

theorem split_append_line (log piece : Bytes)
    (oneLine : ∀ byte ∈ piece, byte ≠ newline) :
    split (log ++ piece) = ((split log).1, (split log).2 ++ piece) := by
  induction log with
  | nil =>
      induction piece with
      | nil => rfl
      | cons byte rest ih =>
          have restLine := ih
            (fun other member => oneLine other (List.mem_cons_of_mem _ member))
          have notNewline := oneLine byte List.mem_cons_self
          simp only [List.nil_append] at restLine ⊢
          simp [split, restLine, notNewline]
  | cons byte rest ih =>
      simp only [List.cons_append, split, ih]
      by_cases isNewline : byte = newline
      · simp [isNewline]
      · simp only [isNewline, if_false]
        cases (split rest).1 <;> rfl

theorem split_append_newline (log : Bytes) :
    split (log ++ [newline]) = ((split log).1 ++ [(split log).2], []) := by
  induction log with
  | nil => rfl
  | cons byte rest ih =>
      simp only [List.cons_append, split, ih]
      by_cases isNewline : byte = newline
      · simp [isNewline]
      · simp only [isNewline, if_false]
        cases (split rest).1 <;> rfl

/-- The text and its newline: one line is closed, made of what was left and
the text. -/
theorem split_append_record (log text : Bytes)
    (oneLine : ∀ byte ∈ text, byte ≠ newline) :
    split (log ++ (text ++ [newline])) =
      ((split log).1 ++ [(split log).2 ++ text], []) := by
  rw [← List.append_assoc, split_append_newline,
    split_append_line log text oneLine]

/-! ### Record texts -/

/-- What the texts of records have in common.  `finished` holds of every text
that some reader accepts, `stuck` of remains that no further record can turn
into one. -/
structure Framing where
  record : Bytes → Prop
  finished : Bytes → Prop
  stuck : Bytes → Prop
  record_finished : ∀ {text}, record text → finished text
  record_line : ∀ {text}, record text → ∀ byte ∈ text, byte ≠ newline
  record_end : ∀ {text}, record text → stripReturn text = text
  record_ne_nil : ∀ {text}, record text → text ≠ []
  stuck_end : ∀ {remains text}, record text →
    stripReturn (remains ++ text) = remains ++ text
  stuck_ne_nil : ∀ {text}, stuck text → text ≠ []
  stuck_not_finished : ∀ {text}, stuck text → ¬finished text
  stuck_take : ∀ {text}, record text → ∀ {count}, 0 < count →
    count < text.length → stuck (text.take count)
  stuck_append : ∀ {remains text}, stuck remains → record text →
    ∀ count, stuck (remains ++ text.take count)
  stuck_finished : ∀ {before text}, finished before → record text →
    ∀ {count}, 0 < count → stuck (before ++ text.take count)

/-- The bytes of one append of which the first `landed` get through. -/
def piece (text : Bytes) (landed : Nat) : Bytes :=
  (text ++ [newline]).take landed

theorem piece_zero (text : Bytes) : piece text 0 = [] :=
  rfl

theorem piece_torn {text : Bytes} {landed : Nat}
    (torn : landed ≤ text.length) : piece text landed = text.take landed := by
  unfold piece
  rw [List.take_append_of_le_length torn]

theorem piece_whole {text : Bytes} {landed : Nat}
    (whole : text.length < landed) : piece text landed = text ++ [newline] := by
  unfold piece
  apply List.take_of_length_le
  simp
  omega

namespace Framing

variable (framing : Framing)

/-- What the log ends with is nothing, one finished text or stuck remains. -/
def Framed (log : Bytes) : Prop :=
  (split log).2 = [] ∨ framing.finished (split log).2 ∨
    framing.stuck (split log).2

/-- Some closed line is not a finished text. -/
def Broken (log : Bytes) : Prop :=
  ∃ line ∈ (split log).1, ¬framing.finished (stripReturn line)

/-- The four ways in which an append can go. -/
inductive Landing (log text : Bytes) : Bytes → Prop where
  | nothing : Landing log text log
  | clean (terminated : Terminated log) :
      Landing log text (log ++ (text ++ [newline]))
  | dangling (terminated : Terminated log) : Landing log text (log ++ text)
  | remains (after : Bytes) (closed : (split after).1 = (split log).1)
      (stuck : framing.stuck (split after).2) : Landing log text after
  | merged (after : Bytes) (line : Bytes)
      (split_eq : split after = ((split log).1 ++ [line], []))
      (stuck : framing.stuck (stripReturn line)) : Landing log text after

variable {framing}

/-- Behind an unterminated log the beginning of a record is stuck. -/
theorem stuck_tail_append {log text : Bytes} (framed : framing.Framed log)
    (unterminated : ¬Terminated log) (isRecord : framing.record text)
    {count : Nat} (positive : 0 < count) :
    framing.stuck ((split log).2 ++ text.take count) := by
  rcases framed with terminated | finished | stuck
  · exact absurd terminated unterminated
  · exact framing.stuck_finished finished isRecord positive
  · exact framing.stuck_append stuck isRecord count

theorem landing {log text : Bytes} (framed : framing.Framed log)
    (isRecord : framing.record text) (landed : Nat) :
    framing.Landing log text (log ++ piece text landed) := by
  have oneLine := framing.record_line isRecord
  have takeLine : ∀ count, ∀ byte ∈ text.take count, byte ≠ newline :=
    fun count byte member => oneLine byte (List.mem_of_mem_take member)
  by_cases none : landed = 0
  · subst none
    rw [piece_zero, List.append_nil]
    exact .nothing
  have positive : 0 < landed := Nat.pos_of_ne_zero none
  by_cases terminated : Terminated log
  · have tail : (split log).2 = [] := terminated
    by_cases whole : text.length < landed
    · rw [piece_whole whole]
      exact .clean terminated
    · rw [piece_torn (Nat.le_of_not_lt whole)]
      by_cases exact_ : landed = text.length
      · rw [exact_, List.take_length]
        exact .dangling terminated
      · have splits := split_append_line log (text.take landed) (takeLine landed)
        refine .remains _ (by rw [splits]) ?_
        rw [splits, tail, List.nil_append]
        exact framing.stuck_take isRecord positive (by omega)
  · by_cases whole : text.length < landed
    · have poisoned := stuck_tail_append framed terminated isRecord
        (List.length_pos_of_ne_nil (framing.record_ne_nil isRecord))
      rw [List.take_length] at poisoned
      rw [piece_whole whole]
      refine .merged _ ((split log).2 ++ text)
        (split_append_record log text oneLine) ?_
      rw [framing.stuck_end isRecord]
      exact poisoned
    · rw [piece_torn (Nat.le_of_not_lt whole)]
      have splits := split_append_line log (text.take landed) (takeLine landed)
      refine .remains _ (by rw [splits]) ?_
      rw [splits]
      exact stuck_tail_append framed terminated isRecord positive

theorem Landing.framed {log text after : Bytes}
    (landing : framing.Landing log text after)
    (isRecord : framing.record text) (framed : framing.Framed log) :
    framing.Framed after := by
  cases landing with
  | nothing => exact framed
  | clean =>
      left
      rw [split_append_record log text (framing.record_line isRecord)]
  | dangling terminated =>
      right
      left
      rw [split_append_line log text (framing.record_line isRecord),
        show (split log).2 = [] from terminated, List.nil_append]
      exact framing.record_finished isRecord
  | remains _ _ stuck => exact Or.inr (Or.inr stuck)
  | merged _ line split_eq _ => exact Or.inl (by rw [split_eq])

end Framing

/-! ### Readers -/

section Reader

variable {framing : Framing} {ρ : Type} (read : Bytes → Option ρ)

/-- What a reader that skips unreadable lines finds. -/
def readable (log : Bytes) : List ρ := (lines log).filterMap read

/-- No line is unreadable. -/
def AllReadable (log : Bytes) : Prop :=
  ∀ line ∈ lines log, (read line).isSome

variable {read}

theorem lines_of_split {log : Bytes} {closed : List Bytes} {tail : Bytes}
    (split_eq : split log = (closed, tail)) :
    lines log = closed.map stripReturn ++ (if tail = [] then [] else [tail]) := by
  rw [lines, split_eq]

theorem lines_clean {log text : Bytes} (terminated : Terminated log)
    (isRecord : framing.record text) :
    lines (log ++ (text ++ [newline])) = lines log ++ [text] := by
  have tail : (split log).2 = [] := terminated
  rw [lines_of_split (split_append_record log text
    (framing.record_line isRecord)), lines, tail]
  simp [framing.record_end isRecord]

theorem lines_dangling {log text : Bytes} (terminated : Terminated log)
    (isRecord : framing.record text) :
    lines (log ++ text) = lines log ++ [text] := by
  have tail : (split log).2 = [] := terminated
  rw [lines_of_split (split_append_line log text
    (framing.record_line isRecord)), lines, tail]
  simp [framing.record_ne_nil isRecord]

/-- Whole records behind a terminated log are so many more lines. -/
theorem lines_texts {log : Bytes} {texts : List Bytes}
    (terminated : Terminated log)
    (records : ∀ text ∈ texts, framing.record text) :
    Terminated (log ++ texts.flatMap (fun text => text ++ [newline])) ∧
      lines (log ++ texts.flatMap (fun text => text ++ [newline])) =
        lines log ++ texts := by
  induction texts generalizing log with
  | nil => simpa using terminated
  | cons text rest ih =>
      have isRecord := records text List.mem_cons_self
      have closed : Terminated (log ++ (text ++ [newline])) := by
        rw [Terminated, split_append_record log text
          (framing.record_line isRecord)]
      have all := ih closed
        (fun other member => records other (List.mem_cons_of_mem _ member))
      rw [lines_clean terminated isRecord] at all
      simpa using all

variable (sound : ∀ {text value}, read text = some value →
  framing.finished text)

include sound in
theorem read_stuck {text : Bytes} (stuck : framing.stuck text) :
    read text = none := by
  cases reads : read text with
  | none => rfl
  | some value => exact absurd (sound reads) (framing.stuck_not_finished stuck)

include sound in
/-- An append shows a reader at most the record it wrote, and may hide the
last record of the log. -/
theorem readable_landing {log text after : Bytes}
    (landing : framing.Landing log text after)
    (isRecord : framing.record text) :
    (readable read after).Sublist
      (readable read log ++ (read text).toList) := by
  have keepsClosed : ((split log).1.map stripReturn).filterMap read
      |>.Sublist (readable read log ++ (read text).toList) := by
    unfold readable lines
    rw [List.filterMap_append, List.append_assoc]
    exact List.sublist_append_left _ _
  cases landing with
  | nothing => exact List.sublist_append_left _ _
  | clean terminated =>
      unfold readable
      rw [lines_clean terminated isRecord, List.filterMap_append]
      cases reads : read text <;> simp [reads]
  | dangling terminated =>
      unfold readable
      rw [lines_dangling terminated isRecord, List.filterMap_append]
      cases reads : read text <;> simp [reads]
  | remains _ closed stuck =>
      have hidden : (if (split after).2 = [] then []
          else [(split after).2]).filterMap read = [] := by
        split
        · rfl
        · simp [read_stuck sound stuck]
      have same : readable read after =
          ((split log).1.map stripReturn).filterMap read := by
        rw [readable, lines, List.filterMap_append, hidden, closed,
          List.append_nil]
      rw [same]
      exact keepsClosed
  | merged _ line split_eq stuck =>
      have same : readable read after =
          ((split log).1.map stripReturn).filterMap read := by
        rw [readable, lines_of_split split_eq]
        simp [read_stuck sound stuck]
      rw [same]
      exact keepsClosed

include sound in
/-- If the log can be read after an append, nothing was appended or a whole
record was put behind a terminated log. -/
theorem lines_landing_of_allReadable {log text after : Bytes}
    (landing : framing.Landing log text after)
    (isRecord : framing.record text) (readsAll : AllReadable read after) :
    after = log ∨ Terminated log ∧ lines after = lines log ++ [text] := by
  cases landing with
  | nothing => exact Or.inl rfl
  | clean terminated => exact Or.inr ⟨terminated, lines_clean terminated isRecord⟩
  | dangling terminated =>
      exact Or.inr ⟨terminated, lines_dangling terminated isRecord⟩
  | remains _ _ stuck =>
      have shown := readsAll (split after).2
        (by simp [lines, framing.stuck_ne_nil stuck])
      rw [read_stuck sound stuck] at shown
      cases shown
  | merged _ line split_eq stuck =>
      have shown := readsAll (stripReturn line)
        (by rw [lines_of_split split_eq]; simp)
      rw [read_stuck sound stuck] at shown
      cases shown

include sound in
theorem framed_of_allReadable {log : Bytes} (readsAll : AllReadable read log) :
    framing.Framed log := by
  by_cases terminated : (split log).2 = []
  · exact Or.inl terminated
  · have shown := readsAll (split log).2 (by simp [lines, terminated])
    obtain ⟨value, reads⟩ := Option.isSome_iff_exists.mp shown
    exact Or.inr (Or.inl (sound reads))

include sound in
theorem not_allReadable_of_broken {log : Bytes}
    (isBroken : framing.Broken log) : ¬AllReadable read log := by
  obtain ⟨line, member, unfinished⟩ := isBroken
  intro readsAll
  have shown := readsAll (stripReturn line)
    (List.mem_append_left _ (List.mem_map_of_mem member))
  obtain ⟨value, reads⟩ := Option.isSome_iff_exists.mp shown
  exact unfinished (sound reads)

end Reader

/-! ### Runs of appends -/

/-- One log is left by a run of appends, each of which may be cut short, of
records of one kind. -/
inductive Appended (framing : Framing) (writes : Bytes → Prop) (log : Bytes) :
    Bytes → Prop where
  | start : Appended framing writes log log
  | write {before text : Bytes} (earlier : Appended framing writes log before)
      (isRecord : framing.record text) (kind : writes text) (landed : Nat) :
      Appended framing writes log (before ++ piece text landed)

namespace Appended

variable {framing : Framing} {writes : Bytes → Prop} {log after : Bytes}

theorem trans {last : Bytes} (first : Appended framing writes log after)
    (second : Appended framing writes after last) :
    Appended framing writes log last := by
  induction second with
  | start => exact first
  | write _ isRecord kind landed ih => exact .write ih isRecord kind landed

/-- Whole records, one after the other. -/
theorem texts {texts : List Bytes}
    (records : ∀ text ∈ texts, framing.record text ∧ writes text) :
    Appended framing writes log
      (log ++ texts.flatMap (fun text => text ++ [newline])) := by
  induction texts generalizing log with
  | nil =>
      rw [List.flatMap_nil, List.append_nil]
      exact .start
  | cons text rest ih =>
      have first := records text List.mem_cons_self
      have written : Appended framing writes log (log ++ (text ++ [newline])) := by
        rw [← piece_whole (Nat.lt_succ_self text.length)]
        exact .write .start first.1 first.2 _
      rw [List.flatMap_cons, ← List.append_assoc]
      exact written.trans (ih (fun other member =>
        records other (List.mem_cons_of_mem _ member)))

theorem mono {others : Bytes → Prop}
    (weaker : ∀ text, writes text → others text)
    (appended : Appended framing writes log after) :
    Appended framing others log after := by
  induction appended with
  | start => exact .start
  | write _ isRecord kind landed ih =>
      exact .write ih isRecord (weaker _ kind) landed

theorem framed (appended : Appended framing writes log after)
    (framedLog : framing.Framed log) : framing.Framed after := by
  induction appended with
  | start => exact framedLog
  | write _ isRecord _ landed ih =>
      exact (Framing.landing ih isRecord landed).framed isRecord ih

/-- A closed line stays as it is. -/
theorem closed_prefix (appended : Appended framing writes log after) :
    (split log).1 <+: (split after).1 := by
  induction appended with
  | start => exact List.prefix_rfl
  | @write before text _ isRecord _ landed ih =>
      have oneLine := framing.record_line isRecord
      by_cases whole : text.length < landed
      · rw [piece_whole whole, split_append_record before text oneLine]
        exact ih.trans (List.prefix_append _ _)
      · rw [piece_torn (Nat.le_of_not_lt whole), split_append_line before _
          (fun byte member => oneLine byte (List.mem_of_mem_take member))]
        exact ih

theorem broken (appended : Appended framing writes log after)
    (isBroken : framing.Broken log) : framing.Broken after := by
  obtain ⟨line, member, unfinished⟩ := isBroken
  exact ⟨line, appended.closed_prefix.subset member, unfinished⟩

variable {ρ : Type} {read : Bytes → Option ρ}
variable (sound : ∀ {text value}, read text = some value →
  framing.finished text)

include sound in
/-- Records that a run of appends does not write do not become visible. -/
theorem readable_filter {kind : ρ → Bool}
    (excluded : ∀ text value, writes text → read text = some value →
      kind value = false)
    (framedLog : framing.Framed log)
    (appended : Appended framing writes log after) :
    ((readable read after).filter kind).Sublist
      ((readable read log).filter kind) := by
  induction appended with
  | start => exact List.Sublist.refl _
  | @write before text earlier isRecord isKind landed ih =>
      have shown := readable_landing sound
        (Framing.landing (earlier.framed framedLog) isRecord landed) isRecord
      have filtered := shown.filter kind
      rw [List.filter_append] at filtered
      have nothing : (read text).toList.filter kind = [] := by
        cases reads : read text with
        | none => rfl
        | some value => simp [excluded text value isKind reads]
      rw [nothing, List.append_nil] at filtered
      exact filtered.trans ih

include sound in
/-- If the log can be read in the end, it shows the lines it had and, behind
them, records of the run. -/
theorem lines_of_allReadable (framedLog : framing.Framed log)
    (appended : Appended framing writes log after)
    (readsAll : AllReadable read after) :
    ∃ added, lines after = lines log ++ added ∧
      (∀ text ∈ added, framing.record text ∧ writes text) ∧
      (added = [] → after = log) ∧ (added ≠ [] → Terminated log) := by
  induction appended with
  | start => exact ⟨[], by simp, by simp, by simp, by simp⟩
  | @write before text earlier isRecord isKind landed ih =>
      rcases lines_landing_of_allReadable sound
          (Framing.landing (earlier.framed framedLog) isRecord landed)
          isRecord readsAll with same | ⟨terminated, shown⟩
      · rw [same] at readsAll ⊢
        exact ih readsAll
      · have readsBefore : AllReadable read before := by
          intro line member
          exact readsAll line (by rw [shown]; exact List.mem_append_left _ member)
        obtain ⟨added, addedLines, addedKind, unchanged, needed⟩ :=
          ih readsBefore
        refine ⟨added ++ [text], ?_, ?_, by simp, ?_⟩
        · rw [shown, addedLines, List.append_assoc]
        · intro other member
          rcases List.mem_append.mp member with inAdded | last
          · exact addedKind other inAdded
          · rw [List.mem_singleton.mp last]
            exact ⟨isRecord, isKind⟩
        · intro _
          by_cases empty : added = []
          · rw [← unchanged empty]
            exact terminated
          · exact needed empty

end Appended

/-- A whole record behind an unterminated log closes a line that no reader
accepts. -/
theorem broken_of_unterminated {framing : Framing} {log text : Bytes}
    (framed : framing.Framed log) (unterminated : ¬Terminated log)
    (isRecord : framing.record text) :
    framing.Broken (log ++ (text ++ [newline])) := by
  have poisoned := Framing.stuck_tail_append framed unterminated isRecord
    (List.length_pos_of_ne_nil (framing.record_ne_nil isRecord))
  rw [List.take_length] at poisoned
  refine ⟨(split log).2 ++ text, ?_, ?_⟩
  · rw [split_append_record log text (framing.record_line isRecord)]
    exact List.mem_append_right _ List.mem_cons_self
  · rw [framing.stuck_end isRecord]
    exact framing.stuck_not_finished poisoned

end LineLog

end Foundation
