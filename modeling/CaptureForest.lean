import CaptureForest.Fault.Build
import CaptureForest.Log.Placeholder
import CaptureForest.Main
import CaptureForest.Proofs.FirstFailure
import CaptureForest.Proofs.Rules
import CaptureForest.Proofs.Shape
import CaptureForest.Proofs.Walk
import CaptureForest.Registry.Dispatch
import CaptureForest.Proofs.Resolution
import CaptureForest.Proofs.Compilation
import CaptureForest.Proofs.Layout
import CaptureForest.Proofs.Audit
import CaptureForest.Proofs.Agreement
import CaptureForest.Proofs.Grammar
import CaptureForest.Proofs.Unreportable
import CaptureForest.Proofs.Batch
import CaptureForest.Proofs.History
import CaptureForest.Proofs.Signals
import CaptureForest.Proofs.Tracking
import CaptureForest.Proofs.Deleting
import CaptureForest.Proofs.Refinement
import CaptureForest.Proofs.CompileOrder
import CaptureForest.Proofs.Firing
import CaptureForest.Proofs.Declaring
import CaptureForest.Proofs.Sorting
import CaptureForest.Proofs.Questions
import CaptureForest.Proofs.Mirroring
import CaptureForest.Proofs.Presorting
import CaptureForest.Proofs.Naming
import CaptureForest.Proofs.Spelling
import CaptureForest.Proofs.Requests
import CaptureForest.Proofs.Reentry
import CaptureForest.Proofs.Loading
import CaptureForest.Proofs.Records
import CaptureForest.Proofs.Removal
import CaptureForest.Proofs.Conflicts
import CaptureForest.Proofs.SetAttributes
import CaptureForest.Proofs.AttributeOrder
import CaptureForest.Proofs.Heeding
import CaptureForest.Proofs.Partition
import CaptureForest.Proofs.Structure
import CaptureForest.Proofs.Renderings
import CaptureForest.Proofs.TargetRecords
import CaptureForest.Proofs.Configuring
import CaptureForest.Proofs.Rebuilding
import CaptureForest.Proofs.Stability
import CaptureForest.Proofs.LoadedForest
import CaptureForest.Proofs.Refusals
import CaptureForest.Proofs.Merging
import CaptureForest.Proofs.Tables
import CaptureForest.Proofs.Rounding
import CaptureForest.Proofs.TableWidth
import CaptureForest.Proofs.Descriptions
import CaptureForest.Proofs.Timing
