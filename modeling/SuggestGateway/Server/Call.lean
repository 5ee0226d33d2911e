import SuggestGateway.Server.Reply
/-!
# Calls to the server

A call is what reaches the server: a method, a request target, the host it names, a content
type and a body. The gateway answers it with the standard suggesters and a client configured
from the environment. `HEAD` is answered as `GET`, without the body.

The request the gateway sends to the search service, if any, depends on the call alone and not
on the service's answer, so a call is served in two steps: `Call.outbound` says what to send,
and `Call.reply` answers once the outcome of sending it is known.
-/
namespace SuggestGateway

/-- A call as the server receives it. -/
structure Call where
  method : String
  target : String
  /-- The host the call names, for absolute redirects. -/
  host : String
  contentType : Option String
  body : List UInt8
deriving Repr

namespace Call

def verb (c : Call) : String := c.method.toUpper

def request (c : Call) : HttpRequest :=
  ⟨if c.verb == "HEAD" then "GET" else c.verb, c.target, c.contentType, c.body⟩

def client (env : Environment) : Client := Client.create env none none .null

/-- The gateway's answer to a call, with the outcome of its request to the search service. -/
def answer (env : Environment) (c : Call) (o : Outcome) : HttpAnswer :=
  handle Registry.standard (client env) o c.request

/-- The request the gateway sends for a call, if it sends one. -/
def outbound (env : Environment) (c : Call) : Option Request :=
  (c.answer env (.fail "")).sent.head?

/-- What the gateway sends for a call does not depend on the outcome of sending it. -/
theorem answer_sent (env : Environment) (c : Call) (o o' : Outcome) :
    (c.answer env o).sent = (c.answer env o').sent :=
  handle_sent _ _ o o' _

/-- The reply to a call, with the outcome of its request to the search service; a reply to
`HEAD` has no body. -/
def reply (env : Environment) (debug : Bool) (c : Call) (o : Outcome) : Reply :=
  let r := Reply.ofAnswer debug c.host c.request (c.answer env o)
  if c.verb == "HEAD" then r.withoutBody else r

end Call

end SuggestGateway
