import Startup.Application.Run
import Startup.Config.Form
import Startup.Json.Document
import Startup.Web.Report
import Startup.Proofs.Move
import Startup.Proofs.Path
import Startup.Proofs.Operations
import Startup.Proofs.Execution
import Startup.Proofs.Protocol
import Startup.Proofs.Turns
import Startup.Proofs.Closing
import Startup.Proofs.Layering
import Startup.Proofs.Quiet
import Startup.Proofs.FailureDelivery
import Startup.Proofs.RunFailure
import Startup.Proofs.Hearing
import Startup.Proofs.Stages
import Startup.Proofs.Course
import Startup.Proofs.Sequence
import Startup.Proofs.Delivering
import Startup.Proofs.Routing
import Startup.Proofs.Ranking
import Startup.Proofs.Handoff
import Startup.Proofs.Interplay
import Startup.Proofs.Channels
import Startup.Proofs.Conduct
import Startup.Proofs.ErrorExit
import Startup.Proofs.Callbacks
import Startup.Proofs.Refreshing
import Startup.Proofs.Shutdown
import Startup.Proofs.Switching
import Startup.Proofs.Documents
import Startup.Proofs.Pieces
import Startup.Proofs.Flattening
import Startup.Proofs.Pairs
import Startup.Proofs.Spelling
import Startup.Proofs.Rendering
import Startup.Proofs.Binding
import Startup.Proofs.Mappings
import Startup.Proofs.Configuring
import Startup.Proofs.Records
import Startup.Proofs.Console
import Startup.Proofs.Listing
import Startup.Proofs.Numerals
import Startup.Proofs.Locales
import Startup.Proofs.Publishing
import Startup.Proofs.Causes
import Startup.Proofs.ProfileFiles
import Startup.Proofs.Additions
