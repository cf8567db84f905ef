/-
What the failure evidence says of an error no longer contains the database
URL.

A replacement is put in from the left, so no occurrence is left between two
replacements.  None is formed across the border of a replacement either: the
brackets around it are not in the URL.
-/

import OxideWorkloads.Endurance.Readiness
import OxideWorkloads.Foundation.Phrases

namespace Endurance

open Foundation
open Foundation.CrashRun

section Replacing

variable {pattern inner : List Char} {first last : Char}

/-- What precedes the first replacement is as it was. -/
theorem initial_replaceChars {part more text : List Char}
    (free : first ∉ part)
    (initial : part <+: replaceChars pattern (first :: more) 0 text) :
    part <+: text := by
  induction text generalizing part with
  | nil =>
      rw [replaceChars] at initial
      exact initial
  | cons char rest ih =>
      cases part with
      | nil => exact List.nil_prefix
      | cons head tail =>
          rw [replaceChars] at initial
          rw [List.mem_cons, not_or] at free
          split at initial
          · rw [List.cons_append, List.cons_prefix_cons] at initial
            exact absurd initial.1.symm free.1
          · rw [List.cons_prefix_cons] at initial
            rw [List.cons_prefix_cons]
            exact ⟨initial.1, ih free.2 initial.2⟩

/-- A bracketed replacement leaves no occurrence and forms none, if the
brackets do not occur in the pattern. -/
theorem replaceChars_absent (nonempty : pattern ≠ []) (opens : first ∉ pattern)
    (closes : last ∉ pattern) (absent : ¬pattern <:+: inner) (skip : Nat)
    (text : List Char) :
    ¬pattern <:+: replaceChars pattern (first :: (inner ++ [last])) skip
      text := by
  induction text generalizing skip with
  | nil =>
      rw [replaceChars, List.infix_nil]
      exact nonempty
  | cons char rest ih =>
      cases skip with
      | succ skip =>
          rw [replaceChars]
          exact ih skip
      | zero =>
          rw [replaceChars]
          split
          · have whole : (first :: (inner ++ [last])) ++
                replaceChars pattern (first :: (inner ++ [last]))
                  (pattern.length - 1) rest =
                [] ++ first :: (inner ++ last ::
                  replaceChars pattern (first :: (inner ++ [last]))
                    (pattern.length - 1) rest) := by
              rw [List.cons_append, List.append_assoc, List.singleton_append,
                List.nil_append]
            rw [whole, Phrases.infix_separated opens,
              Phrases.infix_separated closes, List.infix_nil]
            rintro (empty | inside | behind)
            · exact nonempty empty
            · exact absent inside
            · exact ih _ behind
          · rename_i unmatched
            rw [List.infix_cons_iff]
            rintro (here | later)
            · apply unmatched
              rw [List.isPrefixOf_iff_prefix]
              cases pattern with
              | nil => exact List.nil_prefix
              | cons head tail =>
                  rw [List.mem_cons, not_or] at opens
                  rw [List.cons_prefix_cons] at here ⊢
                  exact ⟨here.1, initial_replaceChars opens.2 here.2⟩
            · exact ih 0 later

end Replacing

/-- The replacement text without its brackets. -/
def replacementWord : String := "REDACTED_DATABASE_URL"

theorem redactDatabaseUrl_absent {message databaseUrl : String}
    (scheme : "://".toList <:+: databaseUrl.toList)
    (opens : '[' ∉ databaseUrl.toList) (closes : ']' ∉ databaseUrl.toList) :
    ¬databaseUrl.toList <:+:
      (redactDatabaseUrl message databaseUrl).toList := by
  have colon : ':' ∈ databaseUrl.toList :=
    scheme.subset (by decide)
  have nonempty : databaseUrl.toList ≠ [] := List.ne_nil_of_mem colon
  have named : databaseUrl ≠ "" := by
    intro empty
    rw [empty] at nonempty
    exact nonempty rfl
  have replacement : "[REDACTED_DATABASE_URL]".toList =
      '[' :: (replacementWord.toList ++ [']']) := by decide
  have absent : ¬databaseUrl.toList <:+: replacementWord.toList :=
    Phrases.not_infix_of_foreign colon (by decide)
  unfold redactDatabaseUrl
  rw [if_neg named, String.toList_ofList, replacement]
  exact replaceChars_absent nonempty opens closes absent 0 message.toList

/-- A failure is recorded with an error text in which the database URL does
not occur. -/
theorem finalizeFailure_redacted (setting : Setting) (store : EvidenceStore)
    (sequence : Nat) (error : String)
    (scheme : "://".toList <:+: setting.databaseUrl.toList)
    (opens : '[' ∉ setting.databaseUrl.toList)
    (closes : ']' ∉ setting.databaseUrl.toList) :
    ∃ stored, ¬setting.databaseUrl.toList <:+: stored.toList ∧
      finalizeFailure setting store sequence error =
        (store.writeFailure setting sequence (classifyFailure error) stored >>=
          fun failurePath => store.recordEvent setting sequence
            terminalFailurePhase
            (.object
              [("failure_class", .string (classifyFailure error).name),
                ("failure_path", .string failurePath)])) :=
  ⟨redactDatabaseUrl error setting.databaseUrl,
    redactDatabaseUrl_absent scheme opens closes, rfl⟩

/-- A store of the example setting. -/
def exampleStore : EvidenceStore :=
  { campaign := expectedCampaign "endurance" 0
      { path := "target/release/postgres-postgres"
        sizeBytes := 1
        sha256 := "00" } }

theorem finalizeFailure_redacted_twice :
    ∃ stored, ¬exampleSetting.databaseUrl.toList <:+: stored.toList ∧
      finalizeFailure exampleSetting exampleStore 1
          "connect postgres://localhost/benchpostgres://localhost/bench" =
        (exampleStore.writeFailure exampleSetting 1 .harnessEnvironment
            stored >>=
          fun failurePath => exampleStore.recordEvent exampleSetting 1
            terminalFailurePhase
            (.object
              [("failure_class", .string FailureClass.harnessEnvironment.name),
                ("failure_path", .string failurePath)])) :=
  finalizeFailure_redacted exampleSetting exampleStore 1
    "connect postgres://localhost/benchpostgres://localhost/bench"
    ⟨"postgres".toList, "localhost/bench".toList, by decide⟩ (by decide)
    (by decide)

end Endurance
