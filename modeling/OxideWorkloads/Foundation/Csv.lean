/-
Texts of records whose fields may be quoted.

A reader goes through a text mark by mark; a step says what one mark does in
each place of a field.  Inside quotes only a quote is special: it is doubled,
or it closes the field.  That written records are read back follows field by
field and line by line.
-/

import OxideWorkloads.Foundation.Checks

namespace Foundation

namespace Csv

open Checks (exists_of_forall₂)

/-- The special marks of the records. -/
structure Dialect (α : Type) where
  quote : α
  separator : α
  ending : α
  separator_ne_quote : separator ≠ quote
  ending_ne_quote : ending ≠ quote
  ending_ne_separator : ending ≠ separator

/-- Where a reader is in a field; `closed` is behind a quote inside quotes. -/
inductive Place where
  | opening
  | bare
  | quoted
  | closed
  deriving DecidableEq

/-- What has been read: whole records, whole fields of the next record, and
the start of the next field. -/
structure Reading (α : Type) where
  records : List (List (List α))
  fields : List (List α)
  field : List α
  place : Place

variable {α : Type}

theorem mem_intercalate {texts : List (List α)} {separator mark : α}
    (member : mark ∈ [separator].intercalate texts) :
    mark = separator ∨ ∃ text ∈ texts, mark ∈ text := by
  induction texts with
  | nil =>
      rw [List.intercalate_nil] at member
      cases member
  | cons first rest ih =>
      cases rest with
      | nil =>
          rw [List.intercalate_singleton] at member
          exact Or.inr ⟨first, List.mem_cons_self, member⟩
      | cons second others =>
          rw [List.intercalate_cons_cons, List.append_assoc] at member
          rcases List.mem_append.mp member with inFirst | behind
          · exact Or.inr ⟨first, List.mem_cons_self, inFirst⟩
          · rcases List.mem_cons.mp behind with between | later
            · exact Or.inl between
            · rcases ih later with between | ⟨text, listed, inside⟩
              · exact Or.inl between
              · exact Or.inr ⟨text, List.mem_cons_of_mem _ listed, inside⟩

namespace Reading

def start : Reading α :=
  { records := [], fields := [], field := [], place := .opening }

def take (reading : Reading α) (place : Place) (mark : α) : Reading α :=
  { reading with field := reading.field ++ [mark], place }

def endField (reading : Reading α) : Reading α :=
  { reading with
    fields := reading.fields ++ [reading.field]
    field := []
    place := .opening }

def endRecord (reading : Reading α) : Reading α :=
  { records := reading.records ++ [reading.fields ++ [reading.field]]
    fields := []
    field := []
    place := .opening }

/-- The records at the end of the text.  The last one may lack its ending,
but not its closing quote. -/
def finish (reading : Reading α) : Option (List (List (List α))) :=
  match reading.place, reading.fields with
  | .quoted, _ => none
  | .opening, [] => some reading.records
  | _, fields => some (reading.records ++ [fields ++ [reading.field]])

end Reading

namespace Dialect

variable [DecidableEq α] (dialect : Dialect α)

/-- A mark behind a closed field. -/
def stepOver (reading : Reading α) (mark : α) : Option (Reading α) :=
  if mark = dialect.separator then some reading.endField
  else if mark = dialect.ending then some reading.endRecord
  else none

/-- A mark outside of quotes. -/
def stepBare (reading : Reading α) (mark : α) : Option (Reading α) :=
  if mark = dialect.separator ∨ mark = dialect.ending then
    dialect.stepOver reading mark
  else if mark = dialect.quote then none
  else some (reading.take .bare mark)

def step (reading : Reading α) (mark : α) : Option (Reading α) :=
  match reading.place with
  | .opening =>
      if mark = dialect.quote then some { reading with place := .quoted }
      else dialect.stepBare reading mark
  | .bare => dialect.stepBare reading mark
  | .quoted =>
      if mark = dialect.quote then some { reading with place := .closed }
      else some (reading.take .quoted mark)
  | .closed =>
      if mark = dialect.quote then some (reading.take .quoted mark)
      else dialect.stepOver reading mark

def run (reading : Reading α) (text : List α) : Option (Reading α) :=
  text.foldlM dialect.step reading

/-- The records of a text, if it is well formed. -/
def parse (text : List α) : Option (List (List (List α))) :=
  (dialect.run Reading.start text).bind Reading.finish

/-! ### Writing -/

/-- The marks of a value inside quotes. -/
def escape (value : List α) : List α :=
  value.flatMap fun mark =>
    if mark = dialect.quote then [mark, mark] else [mark]

theorem escape_append (first second : List α) :
    dialect.escape (first ++ second) =
      dialect.escape first ++ dialect.escape second :=
  List.flatMap_append

def quoted (value : List α) : List α :=
  dialect.quote :: (dialect.escape value ++ [dialect.quote])

/-- A value that needs no quotes. -/
def Free (value : List α) : Prop :=
  dialect.quote ∉ value ∧ dialect.separator ∉ value ∧ dialect.ending ∉ value

/-- The texts that a value may be written as. -/
inductive Written (value : List α) : List α → Prop where
  | bare (free : dialect.Free value) : Written value value
  | quoted : Written value (dialect.quoted value)

def line (texts : List (List α)) : List α :=
  [dialect.separator].intercalate texts ++ [dialect.ending]

/-- A line on which a record is written. -/
def Shows (record : List (List α)) (text : List α) : Prop :=
  ∃ texts, texts ≠ [] ∧ List.Forall₂ dialect.Written record texts ∧
    text = dialect.line texts

/-! ### What one field does -/

variable {dialect}

theorem run_append (reading : Reading α) (first second : List α) :
    dialect.run reading (first ++ second) =
      (dialect.run reading first).bind fun next =>
        dialect.run next second :=
  List.foldlM_append

theorem run_cons (reading : Reading α) (mark : α) (rest : List α) :
    dialect.run reading (mark :: rest) =
      (dialect.step reading mark).bind fun next => dialect.run next rest :=
  List.foldlM_cons

/-- Outside of open quotes, a separator ends the field. -/
theorem step_separator {reading : Reading α}
    (ready : reading.place ≠ .quoted) :
    dialect.step reading dialect.separator = some reading.endField := by
  have apart := dialect.separator_ne_quote
  unfold step
  cases place : reading.place with
  | opening => simp only [apart, stepBare, stepOver, true_or, if_true, if_false]
  | bare => simp only [stepBare, stepOver, true_or, if_true]
  | quoted => exact absurd place ready
  | closed => simp only [apart, stepOver, if_true, if_false]

/-- Outside of open quotes, an ending ends the record. -/
theorem step_ending {reading : Reading α}
    (ready : reading.place ≠ .quoted) :
    dialect.step reading dialect.ending = some reading.endRecord := by
  have apart := dialect.ending_ne_quote
  have other := dialect.ending_ne_separator
  unfold step
  cases place : reading.place with
  | opening =>
      simp only [apart, other, stepBare, stepOver, or_true, if_true, if_false]
  | bare => simp only [other, stepBare, stepOver, or_true, if_true, if_false]
  | quoted => exact absurd place ready
  | closed => simp only [apart, other, stepOver, if_true, if_false]

/-- Marks that are not special are taken as they stand. -/
theorem run_bare {value : List α} (free : dialect.Free value)
    {reading : Reading α}
    (outside : reading.place = .opening ∨ reading.place = .bare) :
    ∃ place, place ≠ .quoted ∧ dialect.run reading value =
      some { reading with field := reading.field ++ value, place } := by
  induction value generalizing reading with
  | nil =>
      refine ⟨reading.place, ?_, ?_⟩
      · rcases outside with same | same
        · rw [same]
          exact Place.noConfusion
        · rw [same]
          exact Place.noConfusion
      · rw [List.append_nil]
        rfl
  | cons mark rest ih =>
      obtain ⟨noQuote, noSeparator, noEnding⟩ := free
      rw [List.mem_cons, not_or] at noQuote noSeparator noEnding
      have taken :
          dialect.step reading mark = some (reading.take .bare mark) := by
        unfold step
        rcases outside with same | same
        · simp only [same, stepBare, Ne.symm noQuote.1,
            Ne.symm noSeparator.1, Ne.symm noEnding.1, or_false, if_false]
        · simp only [same, stepBare, Ne.symm noQuote.1,
            Ne.symm noSeparator.1, Ne.symm noEnding.1, or_false, if_false]
      obtain ⟨place, ready, runs⟩ :=
        @ih ⟨noQuote.2, noSeparator.2, noEnding.2⟩
          (reading.take .bare mark) (Or.inr rfl)
      refine ⟨place, ready, ?_⟩
      rw [run_cons, taken, Option.bind_some, runs, Reading.take,
        List.append_assoc, List.singleton_append]

/-- Inside quotes, an escaped value is taken back to itself. -/
theorem run_escape (value : List α) {reading : Reading α}
    (inside : reading.place = .quoted) :
    dialect.run reading (dialect.escape value) =
      some { reading with field := reading.field ++ value } := by
  induction value generalizing reading with
  | nil =>
      rw [List.append_nil]
      rfl
  | cons mark rest ih =>
      have taken : dialect.run reading (dialect.escape [mark]) =
          some (reading.take .quoted mark) := by
        unfold escape
        rw [List.flatMap_singleton]
        split
        · rename_i special
          simp only [run_cons, step, inside, special, if_true,
            Option.bind_some]
          rfl
        · rename_i plain
          simp only [run_cons, step, inside, plain, if_false,
            Option.bind_some]
          rfl
      have parts : dialect.escape (mark :: rest) =
          dialect.escape [mark] ++ dialect.escape rest :=
        escape_append dialect [mark] rest
      have later := @ih (reading.take .quoted mark) rfl
      rw [parts, run_append, taken, Option.bind_some, later]
      simp only [Reading.take, inside, List.append_assoc,
        List.singleton_append]

/-- A written value is read back, up to where its field is ended. -/
theorem run_written {value text : List α}
    (written : dialect.Written value text)
    (records : List (List (List α))) (fields : List (List α)) :
    ∃ place, place ≠ .quoted ∧
      dialect.run
          { records, fields, field := [], place := .opening } text =
        some { records, fields, field := value, place } := by
  cases written with
  | bare free => exact run_bare free (Or.inl rfl)
  | quoted =>
      refine ⟨.closed, Place.noConfusion, ?_⟩
      have opened : dialect.step
          { records, fields, field := [], place := .opening }
          dialect.quote =
          some { records, fields, field := [], place := .quoted } :=
        if_pos rfl
      have closed : dialect.step
          { records, fields, field := value, place := .quoted }
          dialect.quote =
          some { records, fields, field := value, place := .closed } :=
        if_pos rfl
      unfold quoted
      rw [run_cons, opened, Option.bind_some, run_append, run_escape value rfl,
        Option.bind_some, List.nil_append, run_cons, closed]
      rfl

/-! ### Lines -/

theorem run_texts {values texts : List (List α)}
    (written : List.Forall₂ dialect.Written values texts)
    (nonempty : texts ≠ []) (records : List (List (List α)))
    (fields : List (List α)) :
    dialect.run { records, fields, field := [], place := .opening }
        (dialect.line texts) =
      some { records := records ++ [fields ++ values], fields := []
             field := [], place := .opening } := by
  induction written generalizing fields with
  | nil => exact absurd rfl nonempty
  | @cons value text values texts first rest ih =>
      obtain ⟨place, ready, runs⟩ := run_written first records fields
      unfold line
      cases rest with
      | nil =>
          rw [List.intercalate_singleton, run_append, runs, Option.bind_some,
            run_cons, step_ending ready]
          rfl
      | cons second others =>
          have tail := ih (List.cons_ne_nil _ _) (fields ++ [value])
          unfold line at tail
          rw [List.intercalate_cons_cons, List.append_assoc, List.append_assoc,
            run_append, runs, Option.bind_some, List.singleton_append,
            run_cons, step_separator ready, Option.bind_some]
          rw [List.append_assoc, List.singleton_append] at tail
          exact tail

/-- The marks of a written value are those of the value, and quotes. -/
theorem Written.mem {value text : List α}
    (written : dialect.Written value text) {mark : α} (member : mark ∈ text) :
    mark ∈ value ∨ mark = dialect.quote := by
  cases written with
  | bare free => exact Or.inl member
  | quoted =>
      unfold Dialect.quoted escape at member
      rcases List.mem_cons.mp member with first | rest
      · exact Or.inr first
      · rcases List.mem_append.mp rest with inside | last
        · obtain ⟨source, listed, copied⟩ := List.mem_flatMap.mp inside
          have same : mark = source := by
            split at copied
            · simp only [List.mem_cons, List.not_mem_nil, or_false,
                or_self] at copied
              exact copied
            · exact List.mem_singleton.mp copied
          rw [same]
          exact Or.inl listed
        · exact Or.inr (List.mem_singleton.mp last)

/-- A line ends with an ending.  Before it are the marks of the fields,
separators and quotes. -/
theorem Shows.marks {record : List (List α)} {text : List α}
    (shown : dialect.Shows record text) :
    ∃ before, text = before ++ [dialect.ending] ∧ ∀ mark ∈ before,
      (∃ field ∈ record, mark ∈ field) ∨ mark = dialect.separator ∨
        mark = dialect.quote := by
  obtain ⟨texts, _, written, same⟩ := shown
  refine ⟨[dialect.separator].intercalate texts, same, ?_⟩
  intro mark member
  rcases mem_intercalate member with between | ⟨part, listed, inside⟩
  · exact Or.inr (Or.inl between)
  · obtain ⟨field, fieldListed, fieldWritten⟩ :=
      exists_of_forall₂ written listed
    rcases fieldWritten.mem inside with own | special
    · exact Or.inl ⟨field, fieldListed, own⟩
    · exact Or.inr (Or.inr special)

theorem run_shows {records : List (List (List α))} {lines : List (List α)}
    (shown : List.Forall₂ dialect.Shows records lines)
    (before : List (List (List α))) :
    dialect.run
        { records := before, fields := [], field := [], place := .opening }
        lines.flatten =
      some { records := before ++ records, fields := [], field := []
             place := .opening } := by
  induction shown generalizing before with
  | nil =>
      rw [List.append_nil]
      rfl
  | @cons record text records lines first rest ih =>
      obtain ⟨texts, nonempty, written, same⟩ := first
      rw [List.flatten_cons, run_append, same,
        run_texts written nonempty before [], Option.bind_some,
        List.nil_append, ih, List.append_assoc, List.singleton_append]

/-- The records that are written on lines are read back. -/
theorem parse_shows {records : List (List (List α))} {lines : List (List α)}
    (shown : List.Forall₂ dialect.Shows records lines) :
    dialect.parse lines.flatten = some records := by
  have runs := run_shows shown []
  unfold parse Reading.start
  rw [runs]
  rfl

end Dialect

end Csv

end Foundation
