import SuggestGateway.Bytes.Base64
import SuggestGateway.Bytes.Charset
import SuggestGateway.Bytes.Codec
import SuggestGateway.Bytes.CodecName
import SuggestGateway.Bytes.Escape
import SuggestGateway.Bytes.Hz
import SuggestGateway.Bytes.Iso2022
import SuggestGateway.Bytes.Multibyte
import SuggestGateway.Bytes.Multibyte.Codes
import SuggestGateway.Bytes.Multibyte.Rows1
import SuggestGateway.Bytes.Multibyte.Rows2
import SuggestGateway.Bytes.Multibyte.Rows3
import SuggestGateway.Bytes.Multibyte.Rows4
import SuggestGateway.Bytes.Multibyte.Rows5
import SuggestGateway.Bytes.SingleByte
import SuggestGateway.Bytes.Utf7
import SuggestGateway.Bytes.Utf8
import SuggestGateway.Bytes.Wide
import SuggestGateway.Client.Basic
import SuggestGateway.Client.EnvFile
import SuggestGateway.Client.Settings
import SuggestGateway.Detection.Candidates
import SuggestGateway.Detection.Coherence
import SuggestGateway.Detection.Languages
import SuggestGateway.Detection.Mess
import SuggestGateway.Detection.Search
import SuggestGateway.Gateway.Route
import SuggestGateway.Gateway.Validate
import SuggestGateway.Http.Content
import SuggestGateway.Http.Message
import SuggestGateway.Http.Wire
import SuggestGateway.Json.Display
import SuggestGateway.Json.Layout
import SuggestGateway.Json.Lemmas
import SuggestGateway.Json.Reader
import SuggestGateway.Json.Value
import SuggestGateway.Json.Writer
import SuggestGateway.Main
import SuggestGateway.Number.Arithmetic
import SuggestGateway.Number.Binary64
import SuggestGateway.Number.Literal
import SuggestGateway.Number.Notation
import SuggestGateway.Number.Rounding
import SuggestGateway.Number.Shortest
import SuggestGateway.Proofs.Body
import SuggestGateway.Proofs.Decoding
import SuggestGateway.Proofs.Endpoint
import SuggestGateway.Proofs.Execution
import SuggestGateway.Proofs.RoundTrip
import SuggestGateway.Server.Call
import SuggestGateway.Server.CommandLine
import SuggestGateway.Server.Reply
import SuggestGateway.Service.Builder
import SuggestGateway.Service.Execute
import SuggestGateway.Service.Trace
import SuggestGateway.Suggester.Basic
import SuggestGateway.Suggester.Build
import SuggestGateway.Suggester.Registry
import SuggestGateway.Suggestion.Basic
import SuggestGateway.Suggestion.Decode
import SuggestGateway.Text.Alnum
import SuggestGateway.Text.Bidi
import SuggestGateway.Text.Blank
import SuggestGateway.Text.Blocks
import SuggestGateway.Text.Case
import SuggestGateway.Text.CommonHan
import SuggestGateway.Text.Digit
import SuggestGateway.Text.Normalize
import SuggestGateway.Text.Printable
import SuggestGateway.Text.RunTable
import SuggestGateway.Text.Traits
import SuggestGateway.Url.Host
import SuggestGateway.Url.Idna
import SuggestGateway.Url.IdnaData
import SuggestGateway.Url.Netloc
import SuggestGateway.Url.Percent
import SuggestGateway.Url.Prepare
import SuggestGateway.Url.Punycode
import SuggestGateway.Url.Suggest
import SuggestGateway.Proofs.Utf8
import SuggestGateway.Proofs.Debugging
import SuggestGateway.Proofs.Configuration
import SuggestGateway.Proofs.Rounding
import SuggestGateway.Proofs.Scores
import SuggestGateway.Proofs.PreparedText
import SuggestGateway.Proofs.SuggestUrl
import SuggestGateway.Proofs.Escaping
import SuggestGateway.Proofs.QueryString
import SuggestGateway.Proofs.SuggesterBuilding
import SuggestGateway.Proofs.SetterCalls
import SuggestGateway.Proofs.PayloadValidation
import SuggestGateway.Proofs.EnvLoading
import SuggestGateway.Proofs.StatusCheck
import SuggestGateway.Proofs.Registration
import SuggestGateway.Proofs.Timeout
