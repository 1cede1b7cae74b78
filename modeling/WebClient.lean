import WebClient.Client.Builder
import WebClient.Client.Document
import WebClient.Config.Document
import WebClient.Interface.Writing
import WebClient.Json.Data
import WebClient.Json.TypeSchema
import WebClient.Service.Factory
import WebClient.View
import WebClient.Proofs.Text.Replacement
import WebClient.Proofs.Percent.Alphabet
import WebClient.Proofs.Outcome
import WebClient.Proofs.Template.Substitution
import WebClient.Proofs.Service.Building
import WebClient.Proofs.Draft.Extension
import WebClient.Proofs.Service.Contribution
import WebClient.Proofs.Service.Assembly
import WebClient.Proofs.Service.PathSubstitution
import WebClient.Proofs.Service.Configuring
import WebClient.Proofs.Text.Cutting
import WebClient.Proofs.Text.Splitting
import WebClient.Proofs.Text.Utf8
import WebClient.Proofs.Percent.Decoding
import WebClient.Proofs.Directive.Handling
import WebClient.Proofs.Service.Resolving
import WebClient.Proofs.Service.Acceptance
import WebClient.Proofs.Url.Path
import WebClient.Proofs.Url.Resolution
import WebClient.Proofs.Service.Confinement
import WebClient.Proofs.Service.Taking
import WebClient.Proofs.Service.Refusal
import WebClient.Proofs.Service.ParameterOrder
import WebClient.Proofs.Service.PathResolution
import WebClient.Proofs.Service.Climbing
import WebClient.Proofs.Url.Query
import WebClient.Proofs.Service.ReadingBack
import WebClient.Proofs.Service.Rejection
import WebClient.Proofs.Service.Trace
import WebClient.Proofs.Multipart.Reading
import WebClient.Proofs.Multipart.RoundTrip
import WebClient.Proofs.Interface.Placeholder
import WebClient.Proofs.Directive.Refusing
import WebClient.Proofs.Service.Calling
import WebClient.Proofs.Service.Dispatch
import WebClient.Proofs.Draft.Boundary
import WebClient.Proofs.Service.Mode
import WebClient.Proofs.Service.Twin
import WebClient.Proofs.Directive.Failing
import WebClient.Proofs.Service.Fault
import WebClient.Proofs.Service.FirstFault
import WebClient.Proofs.Interface.Generating
import WebClient.Proofs.Interface.Dispatching
import WebClient.Proofs.Multipart.PartMap
import WebClient.Proofs.Draft.Calls
import WebClient.Proofs.Json.NumberReading
import WebClient.Proofs.Json.Grammar
import WebClient.Proofs.Json.Reading
import WebClient.Proofs.Json.Document
import WebClient.Proofs.Json.RoundTrip
import WebClient.Proofs.Url.Cutting
import WebClient.Proofs.Service.Marks
import WebClient.Proofs.Directive.Registering
import WebClient.Proofs.Service.Extending
import WebClient.Proofs.Interface.Ownership
import WebClient.Proofs.Interface.Declaring
import WebClient.Proofs.Interface.Roles
import WebClient.Proofs.Interface.Cleaning
import WebClient.Proofs.Client.Layering
import WebClient.Proofs.Client.Precedence
import WebClient.Proofs.Disk
import WebClient.Proofs.Service.Visiting
import WebClient.Proofs.Service.Deferring
import WebClient.Proofs.Directive.Stepping
import WebClient.Proofs.Service.Shadowing
import WebClient.Proofs.Interface.Options
import WebClient.Proofs.Interface.Naming
import WebClient.Proofs.Percent.Reversing
