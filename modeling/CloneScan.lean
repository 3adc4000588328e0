import CloneScan.Main
import CloneScan.Proofs.Words
import CloneScan.Proofs.Gaps
import CloneScan.Proofs.Spacing
import CloneScan.Proofs.Comments
import CloneScan.Proofs.Marks
import CloneScan.Proofs.NormalForm
import CloneScan.Proofs.Layout
import CloneScan.Proofs.Insertion
import CloneScan.Proofs.Scanning
import CloneScan.Proofs.Utf8
import CloneScan.Proofs.Assembly
import CloneScan.Proofs.Buckets
import CloneScan.Proofs.Grouping
import CloneScan.Proofs.Pipeline
import CloneScan.Proofs.Soundness
import CloneScan.Proofs.Completeness
import CloneScan.Proofs.Specimen
import CloneScan.Proofs.Coherence
import CloneScan.Proofs.Hollow
import CloneScan.Proofs.Ranking
import CloneScan.Proofs.Completion
import CloneScan.Proofs.Balance
import CloneScan.Proofs.Json.Scalar
import CloneScan.Proofs.Json.Text
import CloneScan.Proofs.Json.RoundTrip
import CloneScan.Proofs.Files
import CloneScan.Proofs.Storage
import CloneScan.Proofs.Atomicity
import CloneScan.Proofs.Search
import CloneScan.Proofs.Independence
import CloneScan.Proofs.LineEnds
import CloneScan.Proofs.Isolation
import CloneScan.Proofs.Running
import CloneScan.Proofs.FileChanges
import CloneScan.Proofs.Analyzing
import CloneScan.Proofs.Footprint
import CloneScan.Proofs.Directories
import CloneScan.Proofs.Creation
import CloneScan.Proofs.Number.Nearest
import CloneScan.Proofs.Number.Shortest
import CloneScan.Proofs.Json.Number
import CloneScan.Proofs.Loading
import CloneScan.Proofs.Consumption
import CloneScan.Proofs.Results
import CloneScan.Proofs.Validity
import CloneScan.Proofs.Acceptance
import CloneScan.Proofs.Configuration
import CloneScan.Proofs.Answering
import CloneScan.Proofs.History
import CloneScan.Proofs.Windows
import CloneScan.Proofs.Reduction
import CloneScan.Proofs.Renewal
import CloneScan.Proofs.Steadiness
import CloneScan.Proofs.Repetition
import CloneScan.Proofs.Succession
import CloneScan.Proofs.Extension
import CloneScan.Proofs.CanonicalOrder
import CloneScan.Proofs.LiveText
import CloneScan.Proofs.Findings
import CloneScan.Proofs.Stubs
import CloneScan.Proofs.Templates
import CloneScan.Proofs.Exports
import CloneScan.Proofs.Target
import CloneScan.Proofs.SettingsTable
import CloneScan.Proofs.Showing
import CloneScan.Proofs.Overriding
import CloneScan.Proofs.Patterns
import CloneScan.Proofs.Traits
import CloneScan.Proofs.Labels
import CloneScan.Proofs.WordRuns
import CloneScan.Proofs.Variables
import CloneScan.Proofs.Places
import CloneScan.Proofs.Nearest
