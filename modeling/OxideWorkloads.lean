import OxideWorkloads.Endurance.Readiness
import OxideWorkloads.Endurance.BatchSpec
import OxideWorkloads.Endurance.CampaignSpec
import OxideWorkloads.Endurance.SamplingExact
import OxideWorkloads.Endurance.FailureClassExact
import OxideWorkloads.Endurance.ImportIdentity
import OxideWorkloads.Endurance.FailureNames
import OxideWorkloads.Projection.VerifyExact
import OxideWorkloads.Projection.RawSqlxExact
import OxideWorkloads.Projection.StableReadExact
import OxideWorkloads.Projection.RawJdbcSchedule
import OxideWorkloads.Projection.JBeretReader
import OxideWorkloads.Projection.EngineTables
import OxideWorkloads.Partition.FrameworkPlan
import OxideWorkloads.Partition.BusinessExact
import OxideWorkloads.Partition.AdmissionSpec
import OxideWorkloads.Failpoint.FiresExact
import OxideWorkloads.Failpoint.MarkersExact
import OxideWorkloads.Failpoint.CsvLaunchExact
import OxideWorkloads.CsvImport.LaunchesExact
import OxideWorkloads.Provenance.ValidateExact
import OxideWorkloads.CsvImport.Launches
import OxideWorkloads.CsvImport.ImportExact
import OxideWorkloads.CsvImport.Writer
import OxideWorkloads.Foundation.WideningDraws
import OxideWorkloads.Generator.Seed
import OxideWorkloads.Generator.SeedExact
import OxideWorkloads.Ci.AggregateVerdict
import OxideWorkloads.Ci.AggregateVerdictExact
import OxideWorkloads.Benchmark.WorkCounts
import OxideWorkloads.Benchmark.WorkCountsExact
import OxideWorkloads.Endurance.Probes
import OxideWorkloads.Endurance.ProbesExact
import OxideWorkloads.Endurance.Redaction
import OxideWorkloads.Ci.ReconcileLabels
import OxideWorkloads.Ci.ReconcileLabelsExact
import OxideWorkloads.Ci.Closure
import OxideWorkloads.Ci.ClosureDigest
import OxideWorkloads.Foundation.Csv
import OxideWorkloads.Generator.CsvDataset
import OxideWorkloads.Generator.CsvDatasetExact
import OxideWorkloads.Endurance.Invocations
import OxideWorkloads.Endurance.Summary
import OxideWorkloads.Endurance.SummaryAccepted
import OxideWorkloads.Ci.AggregateJobs
import OxideWorkloads.Ci.AggregateJobsExact
import OxideWorkloads.Ci.ShardRuns
import OxideWorkloads.Foundation.KeyedRows
import OxideWorkloads.Foundation.PrefixRace
import OxideWorkloads.Projection.Rivals
import OxideWorkloads.Projection.RivalsExact
import OxideWorkloads.Projection.RivalsRecovered
import OxideWorkloads.Partition.Recovery
import OxideWorkloads.Ci.AuditIssue
import OxideWorkloads.Ci.AuditIssueRuns
import OxideWorkloads.Ci.AuditIssueSettled
import OxideWorkloads.Ci.AuditLives
import OxideWorkloads.Partition.Relaunch
import OxideWorkloads.Partition.RelaunchExact
import OxideWorkloads.Ci.ScheduledAudit
import OxideWorkloads.Ci.ScheduledAuditExact
import OxideWorkloads.Ci.WeeklyIssue
import OxideWorkloads.Ci.ReleasePreflightExact
