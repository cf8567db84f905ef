/-
The evidence directory of one campaign as it lies on disk, and the read-only
check of its identity.

A directory is a list of entries in the order in which it is read.  Reading
never fails for reasons outside the content; what the content can do wrong,
such as an entry that is no file or a name that is no text, is kept.
-/

import OxideWorkloads.Endurance.Records

namespace Endurance

open Foundation
open Foundation.LineLog (Bytes)

/-- The name of a directory entry.  A name that is not UTF-8 has only a lossy
display. -/
inductive FileName where
  | utf8 (text : String)
  | other (shown : String)
  deriving DecidableEq, Repr

def FileName.display : FileName → String
  | .utf8 text => text
  | .other shown => shown

/-- One entry; the content is absent when the entry is not a regular file. -/
abbrev Entry := FileName × Option Bytes

abbrev Entries := List Entry

/-- The content of a regular file under a name. -/
def fileContent (name : String) (entries : Entries) : Option Bytes :=
  match entries.find? (fun entry => entry.1 = .utf8 name) with
  | some (_, content) => content
  | none => none

def hasEntry (name : String) (entries : Entries) : Bool :=
  entries.any (fun entry => entry.1 = .utf8 name)

/-- Create a file, or replace the one under its name. -/
def putFile (name : String) (content : Bytes) : Entries → Entries
  | [] => [(.utf8 name, some content)]
  | entry :: rest =>
      if entry.1 = .utf8 name then (.utf8 name, some content) :: rest
      else entry :: putFile name content rest

def removeFile (name : String) (entries : Entries) : Entries :=
  entries.filter (fun entry => entry.1 ≠ .utf8 name)

/-- A campaign directory.  `top` holds the files directly in it apart from the
two logs; an absent log or directory has not been created. -/
structure CampaignDir where
  top : Entries
  events : Option Bytes
  samples : Option Bytes
  iterations : Option Entries
  failures : Option Entries
  deriving DecidableEq

/-- No campaign was ever opened here. -/
def CampaignDir.absent : CampaignDir :=
  { top := []
    events := none
    samples := none
    iterations := none
    failures := none }

/-- What stays the same over all invocations of one campaign: the JSON
library, the evidence root, the workload binary as `binary_identity` sees it,
and the database. -/
structure Setting where
  serde : SerdeJson
  evidenceRoot : String
  binary : Except String BinaryIdentity
  databaseUrl : String

/-- Join a path and one relative name. -/
def joinPath (base name : String) : String :=
  if base.toList = [] ∨ base.toList.getLast? = some '/' then base ++ name
  else base ++ "/" ++ name

namespace Setting

variable (setting : Setting) (campaignId : String)

def campaignDir : String := joinPath setting.evidenceRoot campaignId

def campaignPath : String :=
  joinPath (setting.campaignDir campaignId) "campaign.json"

def eventsPath : String :=
  joinPath (setting.campaignDir campaignId) "events.jsonl"

def samplesPath : String :=
  joinPath (setting.campaignDir campaignId) "samples.jsonl"

def iterationsDir : String :=
  joinPath (setting.campaignDir campaignId) "iterations"

def failuresDir : String :=
  joinPath (setting.campaignDir campaignId) "failures"

/-- Read a typed record from the bytes of a file or a line. -/
def parseRecord {α : Type} (deserialize : Json → Except String α)
    (bytes : Bytes) : Except String α :=
  match setting.serde.record.read bytes with
  | .error error => .error error
  | .ok document => deserialize document

end Setting

/-- The record that a campaign of this harness has to have. -/
def expectedCampaign (campaignId : String) (createdAt : Nat)
    (binary : BinaryIdentity) : CampaignRecord :=
  { schema := campaignSchema
    schemaVersion := schemaVersion
    createdAtUnixNanosUtc := createdAt
    campaignId := campaignId
    workload := workloadName
    oxideBatchVersion := oxideBatchVersion
    sourceRows := canonicalSourceRows
    seed := canonicalSeed
    chunkSize := canonicalChunkSize
    cursorFetchSize := canonicalCursorFetchSize
    pagingPageSize := canonicalPagingPageSize
    workloadBinary := binary }

def sameCampaignIdentity (existing expected : CampaignRecord) : Bool :=
  existing.schema = expected.schema &&
    existing.schemaVersion = expected.schemaVersion &&
    existing.campaignId = expected.campaignId &&
    existing.workload = expected.workload &&
    existing.oxideBatchVersion = expected.oxideBatchVersion &&
    existing.sourceRows = expected.sourceRows &&
    existing.seed = expected.seed &&
    existing.chunkSize = expected.chunkSize &&
    existing.cursorFetchSize = expected.cursorFetchSize &&
    existing.pagingPageSize = expected.pagingPageSize &&
    existing.workloadBinary = expected.workloadBinary

def loadExistingCampaignReadonly (setting : Setting) (campaignId : String)
    (disk : CampaignDir) : Except String CampaignRecord :=
  match planIteration campaignId 1 with
  | .error error => .error error
  | .ok _ =>
      let path := setting.campaignPath campaignId
      match fileContent "campaign.json" disk.top with
      | none => .error s!"existing campaign metadata is missing: {path}"
      | some bytes =>
          match setting.parseRecord CampaignRecord.deserialize bytes with
          | .error error => .error s!"parse {path}: {error}"
          | .ok existing =>
              match setting.binary with
              | .error error => .error error
              | .ok binary =>
                  let expected := expectedCampaign campaignId
                    existing.createdAtUnixNanosUtc binary
                  if sameCampaignIdentity existing expected then .ok existing
                  else
                    .error ("existing campaign metadata conflicts with " ++
                      s!"requested campaign identity: {path}")

/-- An accepted record is the expected one with its own creation time. -/
theorem sameCampaignIdentity_eq {existing expected : CampaignRecord}
    (same : sameCampaignIdentity existing expected = true) :
    existing = { expected with
      createdAtUnixNanosUtc := existing.createdAtUnixNanosUtc } := by
  cases existing
  cases expected
  simpa [sameCampaignIdentity, and_assoc] using same

theorem loadExisting_valid {setting : Setting} {campaignId : String}
    {disk : CampaignDir} {campaign : CampaignRecord}
    (loads : loadExistingCampaignReadonly setting campaignId disk =
      .ok campaign) :
    ValidCampaignId campaignId ∧ ∃ bytes binary,
      fileContent "campaign.json" disk.top = some bytes ∧
        setting.parseRecord CampaignRecord.deserialize bytes = .ok campaign ∧
        setting.binary = .ok binary ∧
        campaign = expectedCampaign campaignId
          campaign.createdAtUnixNanosUtc binary := by
  unfold loadExistingCampaignReadonly at loads
  cases plans : planIteration campaignId 1 with
  | error failure =>
      rw [plans] at loads
      cases loads
  | ok plan =>
      simp only [plans] at loads
      refine ⟨(planIteration_eq_ok.mp plans).1, ?_⟩
      split at loads
      · cases loads
      · rename_i bytes content
        split at loads
        · cases loads
        · rename_i existing parsed
          split at loads
          · cases loads
          · rename_i binary known
            split at loads
            · rename_i same
              cases loads
              exact ⟨bytes, binary, content, parsed, known,
                sameCampaignIdentity_eq same⟩
            · cases loads

/-- Only the files directly in the campaign directory decide the identity. -/
theorem loadExisting_congr {setting : Setting} {campaignId : String}
    {disk other : CampaignDir} (same : other.top = disk.top) :
    loadExistingCampaignReadonly setting campaignId other =
      loadExistingCampaignReadonly setting campaignId disk := by
  simp only [loadExistingCampaignReadonly, same]

end Endurance
