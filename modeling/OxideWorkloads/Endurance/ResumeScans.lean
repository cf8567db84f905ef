/-
What the three scans accept, and the evidence they collect.

The error texts mention paths and line numbers; whether a line or an entry is
accepted does not depend on them.  The collected evidence is the tally of the
accepted records.
-/

import OxideWorkloads.Endurance.ResumeClassification

namespace Endurance

open Foundation
open Foundation.LineLog (Bytes)
open Foundation.Checks
open Foundation.JsonGrammar (decodeUtf8 accepts)

variable {setting : Setting} {campaignId : String}

/-! ### Accepted lines and entries -/

theorem validateCommonRecord_eq_ok {schema expectedSchema : String}
    {version : Nat} {recordCampaignId expectedCampaignId : String}
    {sequence : Nat} {source : String} {value : Unit} :
    validateCommonRecord schema expectedSchema version recordCampaignId
        expectedCampaignId sequence source = .ok value ↔
      schema = expectedSchema ∧ version = schemaVersion ∧
        recordCampaignId = expectedCampaignId ∧ sequence ≠ 0 := by
  simp [validateCommonRecord]

/-- A line of the event log that the scan accepts. -/
structure AcceptedEvent (setting : Setting) (campaignId : String)
    (line : Bytes) (record : EventRecord) : Prop where
  text : ∃ text, decodeUtf8 line = some text ∧ Text.isBlank text = false
  parsed : setting.parseRecord EventRecord.deserialize line = .ok record
  schema : record.schema = eventSchema
  version : record.schemaVersion = schemaVersion
  campaign : record.campaignId = campaignId
  sequence : record.sequence ≠ 0
  phase : record.phase ≠ ""

theorem readEventLine_eq_ok {path : String} {lineNumber : Nat} {line : Bytes}
    {record : EventRecord} :
    readEventLine setting path campaignId lineNumber line = .ok record ↔
      AcceptedEvent setting campaignId line record := by
  simp only [readEventLine, bind_eq_ok, require_eq_ok, ensure_eq_ok,
    context_eq_ok, validateCommonRecord_eq_ok, pure_eq_ok]
  constructor
  · rintro ⟨text, decoded, _, notBlank, parsedRecord, parsed, _,
      ⟨schema, version, campaign, sequence⟩, _, phase, rfl⟩
    exact ⟨⟨text, decoded, notBlank⟩, parsed, schema, version, campaign,
      sequence, phase⟩
  · rintro ⟨⟨text, decoded, notBlank⟩, parsed, schema, version, campaign,
      sequence, phase⟩
    exact ⟨text, decoded, (), notBlank, record, parsed, (),
      ⟨schema, version, campaign, sequence⟩, (), phase, rfl⟩

/-- The event that a line holds, for a reader that skips other lines. -/
def readEvent (setting : Setting) (campaignId : String) (line : Bytes) :
    Option EventRecord :=
  (readEventLine setting "" campaignId 0 line).toOption

theorem readEvent_eq_some {line : Bytes} {record : EventRecord} :
    readEvent setting campaignId line = some record ↔
      AcceptedEvent setting campaignId line record := by
  have reads : readEventLine setting "" campaignId 0 line = .ok record ↔
      AcceptedEvent setting campaignId line record := readEventLine_eq_ok
  rw [← reads, readEvent]
  cases readEventLine setting "" campaignId 0 line <;>
    simp [Except.toOption]

theorem parseRecord_accepts {α : Type} {deserialize : Json → Except String α}
    {bytes : Bytes} {value : α}
    (parsed : setting.parseRecord deserialize bytes = .ok value) :
    accepts bytes = true := by
  unfold Setting.parseRecord at parsed
  cases reads : setting.serde.record.read bytes with
  | error failure =>
      rw [reads] at parsed
      cases parsed
  | ok document => exact setting.serde.record.sound reads

/-- A reader of events accepts nothing but finished texts. -/
theorem readEvent_finished {line : Bytes} {record : EventRecord}
    (reads : readEvent setting campaignId line = some record) :
    JsonGrammar.objectFraming.finished line :=
  parseRecord_accepts (readEvent_eq_some.mp reads).parsed

theorem decodeUnsigned_bounded {limit value : Nat} {document : Json}
    (decoded : decodeUnsigned limit document = .ok value) :
    value ≤ limit := by
  unfold decodeUnsigned at decoded
  split at decoded
  · split at decoded
    · cases decoded
      omega
    · cases decoded
  · cases decoded

theorem eventRecord_bounded {document : Json} {record : EventRecord}
    (parsed : EventRecord.deserialize document = .ok record) :
    record.sequence ≤ u64Max := by
  unfold EventRecord.deserialize at parsed
  simp only [bind_eq_ok] at parsed
  obtain ⟨fields, _, rest⟩ := parsed
  split at rest
  · simp only [bind_eq_ok, pure_eq_ok] at rest
    obtain ⟨_, _, _, _, _, _, sequence, decoded, _, _, rfl⟩ := rest
    exact decodeUnsigned_bounded decoded
  · cases rest

theorem AcceptedEvent.bounded {line : Bytes} {record : EventRecord}
    (accepted : AcceptedEvent setting campaignId line record) :
    record.sequence ≤ u64Max := by
  have parsed := accepted.parsed
  unfold Setting.parseRecord at parsed
  split at parsed
  · cases parsed
  · exact eventRecord_bounded parsed

theorem utf8FileName_eq_ok {path : String} {fileName : FileName}
    {name : String} :
    utf8FileName path fileName = .ok name ↔ fileName = .utf8 name := by
  cases fileName <;> simp [utf8FileName]

theorem parseUnsigned_bounded {limit value : Nat} {text : String}
    (parsed : Text.parseUnsigned limit text = some value) :
    value ≤ limit := by
  unfold Text.parseUnsigned at parsed
  simp only at parsed
  split at parsed
  · cases parsed
  · split at parsed
    · cases parsed
      assumption
    · cases parsed

theorem parseSequenceText_range {text path : String} {sequence : Nat}
    (parsed : parseSequenceText text path = .ok sequence) :
    1 ≤ sequence ∧ sequence ≤ u64Max := by
  simp only [parseSequenceText, bind_eq_ok, ensure_eq_ok, require_eq_ok,
    pure_eq_ok] at parsed
  obtain ⟨_, _, value, number, _, nonzero, rfl⟩ := parsed
  exact ⟨Nat.pos_of_ne_zero nonzero, parseUnsigned_bounded number⟩

theorem parseSequenceText_zeroPadded {sequence : Nat} (path : String)
    (positive : 1 ≤ sequence) (bounded : sequence ≤ u64Max) :
    parseSequenceText (Text.zeroPadded 6 sequence) path = .ok sequence := by
  have nonempty : Text.zeroPadded 6 sequence ≠ "" := by
    intro empty
    apply Text.zeroPadded_ne_nil 6 sequence
    rw [empty]
    rfl
  simp only [parseSequenceText, bind_eq_ok, ensure_eq_ok, require_eq_ok,
    pure_eq_ok]
  exact ⟨(), ⟨nonempty, Text.zeroPadded_isAsciiDigits 6 sequence⟩, sequence,
    Text.parseUnsigned_zeroPadded 6 bounded, (), by omega, rfl⟩

theorem parseIterationFileName_eq_ok {path : String} {fileName : FileName}
    {sequence : Nat} :
    parseIterationFileName path fileName = .ok sequence ↔
      fileName = .utf8 (iterationFileName sequence) ∧ 1 ≤ sequence ∧
        sequence ≤ u64Max := by
  simp only [parseIterationFileName, bind_eq_ok, utf8FileName_eq_ok,
    require_eq_ok, ensure_eq_ok, pure_eq_ok]
  constructor
  · rintro ⟨name, rfl, stem, _, parsed, number, _, canonical, rfl⟩
    exact ⟨by rw [canonical], parseSequenceText_range number⟩
  · rintro ⟨rfl, positive, bounded⟩
    exact ⟨iterationFileName sequence, rfl, Text.zeroPadded 6 sequence,
      Text.stripSuffix_append _ _, sequence,
      parseSequenceText_zeroPadded path positive bounded, (), rfl, rfl⟩

/-- An entry of the iteration directory that the scan accepts. -/
structure AcceptedIteration (setting : Setting) (campaignId : String)
    (entry : Entry) (sequence : Nat) : Prop where
  name : entry.1 = .utf8 (iterationFileName sequence)
  range : 1 ≤ sequence ∧ sequence ≤ u64Max
  content : ∃ bytes record, entry.2 = some bytes ∧
    setting.parseRecord IterationRecord.deserialize bytes = .ok record ∧
    record.schema = iterationSchema ∧ record.schemaVersion = schemaVersion ∧
    record.campaignId = campaignId ∧ record.sequence = sequence ∧
    record.terminal = "success" ∧
    ((record.execution.get "result").bind (fun result =>
      result.get "sequence")).bind Json.asU64 = some sequence

theorem readIterationEntry_eq_ok {dir : String} {entry : Entry}
    {sequence : Nat} :
    readIterationEntry setting dir campaignId entry = .ok sequence ↔
      AcceptedIteration setting campaignId entry sequence := by
  simp only [readIterationEntry, bind_eq_ok, require_eq_ok, ensure_eq_ok,
    context_eq_ok, validateCommonRecord_eq_ok, pure_eq_ok,
    parseIterationFileName_eq_ok]
  constructor
  · rintro ⟨bytes, content, other, ⟨name, range⟩, record, parsed, _,
      ⟨schema, version, campaign, _⟩, _, agrees, _, terminal, number, found,
      _, same, rfl⟩
    subst same
    exact ⟨name, range, bytes, record, content, parsed, schema, version,
      campaign, agrees, terminal, found⟩
  · rintro ⟨name, range, bytes, record, content, parsed, schema, version,
      campaign, agrees, terminal, found⟩
    exact ⟨bytes, content, sequence, ⟨name, range⟩, record, parsed, (),
      ⟨schema, version, campaign, by omega⟩, (), agrees, (), terminal,
      sequence, found, (), rfl, rfl⟩

/-- An entry of the failure directory that the scan accepts. -/
structure AcceptedFailure (setting : Setting) (campaignId : String)
    (entry : Entry) (sequence : Nat) : Prop where
  name : ∃ path, parseFailureFileName path entry.1 = .ok sequence
  range : 1 ≤ sequence ∧ sequence ≤ u64Max
  content : ∃ bytes record, entry.2 = some bytes ∧
    setting.parseRecord FailureRecord.deserialize bytes = .ok record ∧
    record.schema = failureSchema ∧ record.schemaVersion = schemaVersion ∧
    record.campaignId = campaignId ∧ record.sequence = sequence ∧
    record.terminal = "failure"

theorem parseFailureFileName_range {path : String} {fileName : FileName}
    {sequence : Nat}
    (parsed : parseFailureFileName path fileName = .ok sequence) :
    1 ≤ sequence ∧ sequence ≤ u64Max := by
  simp only [parseFailureFileName, bind_eq_ok, ensure_eq_ok, pure_eq_ok]
    at parsed
  obtain ⟨_, _, _, _, ⟨_, _⟩, _, number, text, _, _, _, _, rfl⟩ := parsed
  exact parseSequenceText_range text

theorem readFailureEntry_ok {dir : String} {entry : Entry} {sequence : Nat}
    (reads : readFailureEntry setting dir campaignId entry = .ok sequence) :
    AcceptedFailure setting campaignId entry sequence := by
  simp only [readFailureEntry, bind_eq_ok, require_eq_ok, ensure_eq_ok,
    context_eq_ok, validateCommonRecord_eq_ok, pure_eq_ok] at reads
  obtain ⟨bytes, content, number, name, record, parsed, _,
    ⟨schema, version, campaign, _⟩, _, agrees, _, terminal, rfl⟩ := reads
  exact ⟨⟨_, name⟩, parseFailureFileName_range name, bytes, record, content,
    parsed, schema, version, campaign, agrees, terminal⟩

/-! ### The tally -/

/-- The evidence for one sequence in lists of accepted records. -/
def tally (records : List EventRecord) (iterations failures : List Nat)
    (sequence : Nat) : Option SequenceEvidence :=
  if sequence ∈ records.map (fun record => record.sequence) ∨
      sequence ∈ iterations ∨ sequence ∈ failures then
    some
      { lifecycleEvents :=
          records.countP (fun record => record.sequence = sequence)
        terminalSuccessEvents := records.countP (fun record =>
          record.sequence = sequence ∧ record.phase = terminalSuccessPhase)
        terminalFailureEvents := records.countP (fun record =>
          record.sequence = sequence ∧ record.phase = terminalFailurePhase)
        iterationSuccess := decide (sequence ∈ iterations)
        failureFiles := failures.count sequence }
  else none

/-- A map that holds the tally of some records. -/
def Tallies (evidence : Evidence) (records : List EventRecord)
    (iterations failures : List Nat) : Prop :=
  ∀ sequence, evidence.get? sequence =
    tally records iterations failures sequence

theorem tallies_empty : Tallies .empty [] [] [] := by
  intro sequence
  simp [tally]

theorem tally_getD (records : List EventRecord)
    (iterations failures : List Nat) (sequence : Nat) :
    (tally records iterations failures sequence).getD .default =
      { lifecycleEvents :=
          records.countP (fun record => record.sequence = sequence)
        terminalSuccessEvents := records.countP (fun record =>
          record.sequence = sequence ∧ record.phase = terminalSuccessPhase)
        terminalFailureEvents := records.countP (fun record =>
          record.sequence = sequence ∧ record.phase = terminalFailurePhase)
        iterationSuccess := decide (sequence ∈ iterations)
        failureFiles := failures.count sequence } := by
  unfold tally
  split
  · rfl
  · rename_i absent
    simp only [not_or] at absent
    obtain ⟨noRecord, noIteration, noFailure⟩ := absent
    have none : ∀ property : EventRecord → Bool,
        (∀ record, property record = true → record.sequence = sequence) →
          records.countP property = 0 := by
      intro property implies
      rw [List.countP_eq_zero]
      intro record member holds
      exact noRecord (List.mem_map.mpr ⟨record, member, implies record holds⟩)
    simp only [Option.getD_none, SequenceEvidence.default]
    rw [none _ (by simp), none _ (by simp +contextual),
      none _ (by simp +contextual), List.count_eq_zero.mpr noFailure]
    simp [noIteration]

theorem Tallies.recordEvidence {evidence : Evidence}
    {records : List EventRecord} {iterations failures : List Nat}
    (tallies : Tallies evidence records iterations failures)
    (record : EventRecord) :
    Tallies (recordEvidence evidence record) (records ++ [record]) iterations
      failures := by
  intro sequence
  rw [Endurance.recordEvidence, OrderedMap.get?_update]
  by_cases same : sequence = record.sequence
  · subst same
    rw [if_pos rfl, tallies record.sequence, tally_getD]
    have present : record.sequence ∈
        (records ++ [record]).map (fun record => record.sequence) := by simp
    rw [tally, if_pos (Or.inl present)]
    have different : terminalFailurePhase ≠ terminalSuccessPhase := by decide
    by_cases success : record.phase = terminalSuccessPhase
    · have notFailure : record.phase ≠ terminalFailurePhase := by
        rw [success]
        exact different.symm
      simp [SequenceEvidence.addEvent, success, List.countP_append,
        different.symm]
    · by_cases failure : record.phase = terminalFailurePhase
      · simp [SequenceEvidence.addEvent, failure, List.countP_append,
          different]
      · simp [SequenceEvidence.addEvent, success, failure, List.countP_append]
  · rw [if_neg same, tallies sequence]
    have other : record.sequence ≠ sequence := Ne.symm same
    simp [tally, List.countP_append, other, same]

theorem Tallies.addIteration {evidence : Evidence}
    {records : List EventRecord} {iterations failures : List Nat}
    (tallies : Tallies evidence records iterations failures)
    (sequence : Nat) :
    Tallies (evidence.update sequence .default
        (fun current => { current with iterationSuccess := true }))
      records (iterations ++ [sequence]) failures := by
  intro other
  rw [OrderedMap.get?_update]
  by_cases same : other = sequence
  · subst same
    rw [if_pos rfl, tallies other, tally_getD]
    simp [tally]
  · rw [if_neg same, tallies other]
    simp [tally, same]

theorem Tallies.addFailure {evidence : Evidence}
    {records : List EventRecord} {iterations failures : List Nat}
    (tallies : Tallies evidence records iterations failures)
    (sequence : Nat) :
    Tallies (evidence.update sequence .default
        (fun current =>
          { current with failureFiles := current.failureFiles + 1 }))
      records iterations (failures ++ [sequence]) := by
  intro other
  rw [OrderedMap.get?_update]
  by_cases same : other = sequence
  · subst same
    rw [if_pos rfl, tallies other, tally_getD]
    simp [tally, List.count_append]
  · rw [if_neg same, tallies other]
    have different : sequence ≠ other := Ne.symm same
    simp [tally, same, List.count_append, different]

/-! ### The scans tally what they accept -/

theorem scanEventLines_eq_ok {path : String} {lineNumber : Nat}
    {lines : List Bytes} {before after : Evidence} :
    scanEventLines setting path campaignId lineNumber lines before =
        .ok after ↔
      (∀ line ∈ lines, (readEvent setting campaignId line).isSome) ∧
        after = (lines.filterMap (readEvent setting campaignId)).foldl
          recordEvidence before := by
  induction lines generalizing lineNumber before with
  | nil =>
      simp only [scanEventLines, Except.ok.injEq]
      exact ⟨fun same => ⟨by simp, same.symm⟩, fun both => both.2.symm⟩
  | cons line rest ih =>
      simp only [scanEventLines, bind_eq_ok, ih, List.forall_mem_cons]
      constructor
      · rintro ⟨record, reads, restReads, rfl⟩
        have shown := readEvent_eq_some.mpr (readEventLine_eq_ok.mp reads)
        refine ⟨⟨by rw [shown]; rfl, restReads⟩, ?_⟩
        simp [shown]
      · rintro ⟨⟨reads, restReads⟩, rfl⟩
        obtain ⟨record, shown⟩ := Option.isSome_iff_exists.mp reads
        refine ⟨record, readEventLine_eq_ok.mpr (readEvent_eq_some.mp shown),
          restReads, ?_⟩
        simp [shown]

theorem tallies_foldl (added : List EventRecord) {evidence : Evidence}
    {records : List EventRecord} {iterations failures : List Nat}
    (tallies : Tallies evidence records iterations failures) :
    Tallies (added.foldl recordEvidence evidence) (records ++ added)
      iterations failures := by
  induction added generalizing evidence records with
  | nil => simpa using tallies
  | cons record rest ih =>
      have next := ih (tallies.recordEvidence record)
      rw [List.append_assoc] at next
      exact next

theorem scanIterations_eq_ok {dir : String} {entries : Entries}
    {before after : Evidence} {records : List EventRecord}
    {iterations failures : List Nat}
    (tallies : Tallies before records iterations failures)
    (distinct : iterations.Nodup) :
    scanIterations setting dir campaignId entries before = .ok after →
      ∃ sequences, List.Forall₂ (AcceptedIteration setting campaignId)
          entries sequences ∧ (iterations ++ sequences).Nodup ∧
        Tallies after records (iterations ++ sequences) failures := by
  induction entries generalizing before iterations with
  | nil =>
      intro scanned
      cases scanned
      exact ⟨[], .nil, by simpa using distinct, by simpa using tallies⟩
  | cons entry rest ih =>
      intro scanned
      simp only [scanIterations, bind_eq_ok, ensure_eq_ok,
        readIterationEntry_eq_ok] at scanned
      obtain ⟨sequence, accepted, _, fresh, more⟩ := scanned
      have absent : sequence ∉ iterations := by
        rw [tallies sequence, tally_getD] at fresh
        simpa using fresh
      have stillDistinct : (iterations ++ [sequence]).Nodup := by
        rw [List.nodup_append]
        refine ⟨distinct, by simp, ?_⟩
        intro one inIterations other inSingle same
        rw [List.mem_singleton.mp inSingle] at same
        exact absent (same ▸ inIterations)
      obtain ⟨sequences, acceptedRest, nodup, final⟩ :=
        ih (tallies.addIteration sequence) stillDistinct more
      rw [List.append_assoc] at nodup final
      exact ⟨sequence :: sequences, .cons accepted acceptedRest, nodup, final⟩

theorem scanIterations_of_accepted {dir : String} {entries : Entries}
    {before : Evidence} {records : List EventRecord}
    {iterations failures sequences : List Nat}
    (tallies : Tallies before records iterations failures)
    (accepted : List.Forall₂ (AcceptedIteration setting campaignId) entries
      sequences)
    (distinct : (iterations ++ sequences).Nodup) :
    ∃ after, scanIterations setting dir campaignId entries before =
        .ok after ∧
      Tallies after records (iterations ++ sequences) failures := by
  induction accepted generalizing before iterations with
  | nil => exact ⟨before, rfl, by simpa using tallies⟩
  | @cons entry sequence rest sequences first _ ih =>
      have shifted : (iterations ++ [sequence] ++ sequences).Nodup := by
        rw [List.append_assoc]
        exact distinct
      have absent : sequence ∉ iterations := by
        intro member
        have parts := List.nodup_append.mp distinct
        exact parts.2.2 sequence member sequence List.mem_cons_self rfl
      obtain ⟨after, scanned, final⟩ := ih (tallies.addIteration sequence)
        shifted
      rw [List.append_assoc] at final
      refine ⟨after, ?_, final⟩
      simp only [scanIterations, bind_eq_ok, ensure_eq_ok,
        readIterationEntry_eq_ok]
      refine ⟨sequence, first, (), ?_, scanned⟩
      rw [tallies sequence, tally_getD]
      simpa using absent

theorem scanFailures_ok {dir : String} {entries : Entries}
    {before after : Evidence} {records : List EventRecord}
    {iterations failures : List Nat}
    (tallies : Tallies before records iterations failures) :
    scanFailures setting dir campaignId entries before = .ok after →
      ∃ sequences, List.Forall₂ (AcceptedFailure setting campaignId)
          entries sequences ∧
        Tallies after records iterations (failures ++ sequences) := by
  induction entries generalizing before failures with
  | nil =>
      intro scanned
      cases scanned
      exact ⟨[], .nil, by simpa using tallies⟩
  | cons entry rest ih =>
      intro scanned
      simp only [scanFailures, bind_eq_ok] at scanned
      obtain ⟨sequence, reads, more⟩ := scanned
      obtain ⟨sequences, acceptedRest, final⟩ :=
        ih (tallies.addFailure sequence) more
      rw [List.append_assoc] at final
      exact ⟨sequence :: sequences,
        .cons (readFailureEntry_ok reads) acceptedRest, final⟩

/-- What a successful scan has seen. -/
structure Scanned (setting : Setting) (campaignId : String) (log : Bytes)
    (iterations failures : Entries) (evidence : Evidence)
    (records : List EventRecord) (done failed : List Nat) : Prop where
  allReadable : LineLog.AllReadable (readEvent setting campaignId) log
  records_eq : records =
    LineLog.readable (readEvent setting campaignId) log
  iterations_accepted :
    List.Forall₂ (AcceptedIteration setting campaignId) iterations done
  done_nodup : done.Nodup
  failures_accepted :
    List.Forall₂ (AcceptedFailure setting campaignId) failures failed
  tallies : Tallies evidence records done failed

theorem scanEvents_eq_ok {path : String} {log : Bytes}
    {before after : Evidence} :
    scanEvents setting path campaignId log before = .ok after ↔
      LineLog.AllReadable (readEvent setting campaignId) log ∧
        after = (LineLog.readable (readEvent setting campaignId) log).foldl
          recordEvidence before :=
  scanEventLines_eq_ok

theorem scanEvidence_scanned {log : Bytes} {iterations failures : Entries}
    {evidence : Evidence}
    (scans : scanEvidence setting campaignId log iterations failures =
      .ok evidence) :
    ∃ records done failed, Scanned setting campaignId log iterations failures
      evidence records done failed := by
  simp only [scanEvidence, bind_eq_ok] at scans
  obtain ⟨events, eventScan, singletons, iterationScan, failureScan⟩ := scans
  obtain ⟨allReadable, rfl⟩ := scanEvents_eq_ok.mp eventScan
  have counted := tallies_foldl (LineLog.readable
    (readEvent setting campaignId) log) tallies_empty
  obtain ⟨done, acceptedDone, nodup, withDone⟩ :=
    scanIterations_eq_ok counted List.nodup_nil iterationScan
  obtain ⟨failed, acceptedFailed, final⟩ := scanFailures_ok withDone
    failureScan
  exact ⟨_, done, failed, allReadable, rfl, acceptedDone, by simpa using nodup,
    acceptedFailed, by simpa using final⟩

/-- The sequence numbers of scanned evidence are positive and fit 64 bits. -/
theorem Scanned.numbered {log : Bytes} {iterations failures : Entries}
    {evidence : Evidence} {records : List EventRecord} {done failed : List Nat}
    (scanned : Scanned setting campaignId log iterations failures evidence
      records done failed) : Numbered evidence := by
  intro sequence present
  rw [OrderedMap.Present, scanned.tallies sequence, tally] at present
  split at present
  · rename_i somewhere
    rcases somewhere with inRecords | inDone | inFailed
    · obtain ⟨record, member, rfl⟩ := List.mem_map.mp inRecords
      rw [scanned.records_eq, LineLog.readable] at member
      obtain ⟨line, _, reads⟩ := List.mem_filterMap.mp member
      have accepted := readEvent_eq_some.mp reads
      exact ⟨Nat.pos_of_ne_zero accepted.sequence, accepted.bounded⟩
    · obtain ⟨entry, _, accepted⟩ :=
        exists_of_forall₂ scanned.iterations_accepted inDone
      exact accepted.range
    · obtain ⟨entry, _, accepted⟩ :=
        exists_of_forall₂ scanned.failures_accepted inFailed
      exact accepted.range
  · cases present

/-! ### Reading the tally -/

theorem tally_present {records : List EventRecord}
    {iterations failures : List Nat} {sequence : Nat} :
    (tally records iterations failures sequence).isSome ↔
      (∃ record ∈ records, record.sequence = sequence) ∨
        sequence ∈ iterations ∨ sequence ∈ failures := by
  unfold tally
  split
  · rename_i somewhere
    simpa [List.mem_map] using somewhere
  · rename_i nowhere
    simpa [List.mem_map] using nowhere

end Endurance
