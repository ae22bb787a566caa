import DocSearch.Argument.Builders
import DocSearch.Index.Sandbox
import DocSearch.Main
import DocSearch.Proofs.Builders.Run
import DocSearch.Proofs.Defaults.Lifecycle
import DocSearch.Proofs.Defaults.Race
import DocSearch.Proofs.Index.Command
import DocSearch.Proofs.Index.Guard
import DocSearch.Proofs.Index.Pending
import DocSearch.Proofs.Index.Retry
import DocSearch.Proofs.Query.Lossless
import DocSearch.Proofs.Query.Rendered
import DocSearch.Proofs.Record.NormalForm
import DocSearch.Proofs.Search.Calls
import DocSearch.Proofs.Search.Failure
import DocSearch.Proofs.Search.JournalText
import DocSearch.Proofs.Search.Presence
import DocSearch.Proofs.Settings.IndexName
import DocSearch.Proofs.Index.Polling
import DocSearch.Proofs.Datum.Layers
import DocSearch.Proofs.Query.Overlay
import DocSearch.Proofs.Query.Bounds
import DocSearch.Proofs.Query.Rings
import DocSearch.Proofs.Search.Bounded
import DocSearch.Proofs.Builders.Nesting
import DocSearch.Proofs.Query.ScoreRoles
import DocSearch.Proofs.Demo.Closing
