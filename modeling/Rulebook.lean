import Rulebook.Edit
import Rulebook.Http.Script
import Rulebook.Main
import Rulebook.Report
import Rulebook.Proofs.Compile.Expansion
import Rulebook.Proofs.Compile.FirstFailure
import Rulebook.Proofs.Compile.Overflow
import Rulebook.Proofs.Http.Resolution
import Rulebook.Proofs.Json.Reals
import Rulebook.Proofs.Compile.Unknown
import Rulebook.Proofs.Compile.Readable
import Rulebook.Proofs.Compile.Texts
import Rulebook.Proofs.Compile.Order
import Rulebook.Proofs.Edit.Run
import Rulebook.Proofs.Edit.Identity
import Rulebook.Proofs.Edit.Independence
import Rulebook.Proofs.Http.Addresses
import Rulebook.Proofs.Http.Issued
import Rulebook.Proofs.Http.Segments
import Rulebook.Proofs.Service.Routes
import Rulebook.Proofs.Service.Update
import Rulebook.Proofs.Service.Save
import Rulebook.Proofs.Service.Stored
import Rulebook.Proofs.Http.DotSegments
import Rulebook.Proofs.Http.Settled
import Rulebook.Proofs.Service.Places
import Rulebook.Proofs.Service.Members
import Rulebook.Proofs.Service.Execute
import Rulebook.Proofs.Text.Utf8
import Rulebook.Proofs.Text.Percent
import Rulebook.Proofs.Settings.Merging
import Rulebook.Proofs.Settings.Loading
import Rulebook.Proofs.Settings.Saving
import Rulebook.Proofs.Number.Rounding
import Rulebook.Proofs.Number.Shortest
import Rulebook.Proofs.Json.Layout
import Rulebook.Proofs.Toml.Numbers
import Rulebook.Proofs.Toml.Literals
import Rulebook.Proofs.Toml.Values
import Rulebook.Proofs.Toml.Documents
import Rulebook.Proofs.Envelope
import Rulebook.Proofs.CommandLine.Runs
import Rulebook.Proofs.Settings.Keys
import Rulebook.Proofs.Number.Proper
import Rulebook.Proofs.CommandLine.Secrets
import Rulebook.Proofs.Settings.Sources
import Rulebook.Proofs.CommandLine.Changes
import Rulebook.Proofs.Compile.TypedLists
import Rulebook.Proofs.Query.Search
import Rulebook.Proofs.Service.Providers
import Rulebook.Proofs.Http.Echo
import Rulebook.Proofs.Settings.Layers
import Rulebook.Proofs.Text.LeadingNumber
import Rulebook.Proofs.Compile.Conditions
