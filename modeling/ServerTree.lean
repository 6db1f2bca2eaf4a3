import ServerTree.Text.Case
import ServerTree.Text.Quoted
import ServerTree.Text.Integer
import ServerTree.Text.Pattern
import ServerTree.Text.Encoding
import ServerTree.Text.Hex
import ServerTree.Decimal.Shortest
import ServerTree.Decimal.Reading
import ServerTree.Http.Message
import ServerTree.Value
import ServerTree.Value.Display
import ServerTree.Value.Equality
import ServerTree.Json.Writer
import ServerTree.Json.Reader
import ServerTree.Routing.Router
import ServerTree.Config.Derive
import ServerTree.Log
import ServerTree.Sanitize
import ServerTree.CommandLine
import ServerTree.RateLimit
import ServerTree.Http.Wire
import ServerTree.Http.Body
import ServerTree.Pipeline.Signal
import ServerTree.Pipeline.Reply
import ServerTree.App.Catalogue
import ServerTree.App.Client
import ServerTree.App.Start
import ServerTree.Script.Application
import ServerTree.Main
import ServerTree.Proofs.Routing.Conflicts
import ServerTree.Proofs.Routing.Listing
import ServerTree.Proofs.Routing.Misses
import ServerTree.Proofs.Walk.Fatal
import ServerTree.Proofs.Pipeline.Sights
import ServerTree.Proofs.Directory.Discovery
import ServerTree.Proofs.RateLimit.Requests
import ServerTree.Proofs.Serving.HttpErrors
import ServerTree.Proofs.Directory.Agreement
import ServerTree.Proofs.Serving.CrossOrigin
import ServerTree.Proofs.Serving.Enforced
import ServerTree.Proofs.Node.Traversal
import ServerTree.Proofs.Walk.Runaway
import ServerTree.Proofs.Serving.Bodies
import ServerTree.Proofs.Serving.Freezing
import ServerTree.Proofs.Pipeline.Harmless
import ServerTree.Proofs.Directory.Isolation
import ServerTree.Proofs.Serving.Announcements
import ServerTree.Proofs.Concurrency.Late
import ServerTree.Proofs.Node.Calling
import ServerTree.Proofs.Walk.Completeness
import ServerTree.Proofs.Serving.Invariants
import ServerTree.Proofs.Logging.Functions
import ServerTree.Proofs.Logging.Thresholds
import ServerTree.Proofs.Logging.Lines
import ServerTree.Proofs.Serving.Messages
import ServerTree.Proofs.Pipeline.Recognition
import ServerTree.Proofs.Pipeline.HeaderWrites
import ServerTree.Proofs.Serving.ReadBack
import ServerTree.Proofs.Directory.Extent
import ServerTree.Proofs.Directory.Translation
import ServerTree.Proofs.Http.Fields
import ServerTree.Proofs.Serving.Admission
import ServerTree.Proofs.RateLimit.Waiting
import ServerTree.Proofs.RateLimit.Windows
import ServerTree.Proofs.Http.Multipart
import ServerTree.Proofs.Serving.BodyBound
import ServerTree.Proofs.Serving.Head
import ServerTree.Proofs.Routing.Undone
import ServerTree.Proofs.Routing.Digits
import ServerTree.Proofs.Pipeline.Interpretation
import ServerTree.Proofs.Serving.Layers
import ServerTree.Proofs.RateLimit.Sweeps
import ServerTree.Proofs.Directory.Joining
import ServerTree.Proofs.CommandLine
import ServerTree.Proofs.Serving.ContentType
import ServerTree.Proofs.Http.Grouping
import ServerTree.Proofs.InputChecks
