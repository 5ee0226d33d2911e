import SuggestGateway.Http.Message
import SuggestGateway.Text.Blank
/-!
# Request and response dumps

What a builder in debug mode writes about one exchange: the request before it is sent and the
response after it arrives. Headers are written `name: value`, one to a line; an
`Authorization` header, in any case, shows `***` instead of its value. Contents are decoded
as UTF-8 with replacement.
-/
namespace SuggestGateway

namespace Trace

def headerLines (hs : Headers) : String :=
  "\n".intercalate (hs.map fun (k, v) =>
    k ++ ": " ++ (if Headers.key k == "authorization" then "***" else v))

def request (r : Request) : String :=
  "Outbound request:\n" ++ r.method ++ " " ++ r.url ++ "\n" ++ headerLines r.headers ++ "\n\n" ++
    r.body.getD ""

/-- The dump of a response just received; the status line loses trailing blanks. -/
def response (r : Response) : String :=
  "Inbound response:\n" ++ stripEnd ("HTTP " ++ toString r.status ++ " " ++ r.reason) ++ "\n" ++
    headerLines r.headers ++ "\n\n" ++ Utf8.decodeText r.content

end Trace

end SuggestGateway
