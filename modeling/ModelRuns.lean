import ModelRuns.Main
import ModelRuns.Memory.Connection
import ModelRuns.Proofs.Command.Interleaved
import ModelRuns.Proofs.Command.Resumable
import ModelRuns.Proofs.Command.Formats
import ModelRuns.Proofs.Command.RoundTrip
import ModelRuns.Proofs.Command.Extension
import ModelRuns.Proofs.Run.Provenance
import ModelRuns.Proofs.Pipeline.Resuming
import ModelRuns.Proofs.Pipeline.WriteAhead
import ModelRuns.Proofs.Run.Reuse
import ModelRuns.Settings.Document
import ModelRuns.Proofs.Path.Names
import ModelRuns.Proofs.Pipeline.Outputs
import ModelRuns.Proofs.Run.Ledger
import ModelRuns.Proofs.Run.Intact
import ModelRuns.Proofs.Run.Rejected
import ModelRuns.Proofs.Pipeline.Bodies
import ModelRuns.Proofs.Pipeline.Stages
import ModelRuns.Proofs.Run.Objections
import ModelRuns.Proofs.Pipeline.Centroids
import ModelRuns.Proofs.Run.Places
import ModelRuns.Proofs.Pipeline.Evaluating
import ModelRuns.Proofs.Run.Closing
import ModelRuns.Proofs.Pipeline.Samples
import ModelRuns.Proofs.Pipeline.Kinds
import ModelRuns.Proofs.Run.Isolation
import ModelRuns.Proofs.Pipeline.Summary
import ModelRuns.Proofs.Pipeline.Publishing
import ModelRuns.Proofs.Pipeline.Acting
import ModelRuns.Proofs.Invocation.Scanned
import ModelRuns.Proofs.Resource.Settling
import ModelRuns.Proofs.Category.Filters
import ModelRuns.Proofs.Evaluation.Averages
import ModelRuns.Proofs.Evaluation.MetricLines
import ModelRuns.Proofs.Pipeline.Saving
import ModelRuns.Proofs.Run.Inputs
import ModelRuns.Proofs.Checkpoint.Readers
import ModelRuns.Proofs.Pipeline.Merging
import ModelRuns.Proofs.Http.Status
import ModelRuns.Proofs.Stage.Operations
import ModelRuns.Proofs.RunLog.Lines
