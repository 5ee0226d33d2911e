import SuggestGateway.Service.Builder
import SuggestGateway.Service.Trace
import SuggestGateway.Client.Basic
import SuggestGateway.Suggestion.Decode
/-!
# Running a suggest request

Executing a builder sends one `POST` of its URL and body through the client and decodes the
answer. The transport's part is given as data: the response it returns, or the text of its
failure. In order: the URL and body are built and the request prepared; in debug mode the
request is dumped; the transport is used; in debug mode the response is dumped; the status is
checked; the body is decoded. The first failure ends the run, and the requests handed to the
transport and the dumps written so far are part of the outcome.
-/
namespace SuggestGateway

/-- What the transport does with a request. -/
inductive Outcome where
  | respond (r : Response)
  | fail (message : String)
deriving Repr

/-- Why an execution failed. -/
inductive ExecuteError where
  /-- An index or type name cannot be placed in the path. -/
  | path (e : SegmentError)
  | request (e : RequestError)
  | transport (message : String)
  | status (e : StatusError)
  | decode (e : DecodeError)
deriving Repr

def transportMessage (m : String) : String := "Search API request failed: " ++ m

/-- The outcome of one execution. -/
structure Execution where
  sent : List Request
  dumps : List String
  result : Except ExecuteError SuggestResult
deriving Repr

/-- The suggestions of a response that passed its status check. -/
def decodeBody (r : Response) : Except DecodeError SuggestResult :=
  match r.json with
  | .ok v => decodeResponse v
  | .error e =>
    match e.nesting? with
    | some array => .error (.nestedTooDeep array)
    | none => .error (.notJson e.message)

namespace Builder

/-- Execute the request the builder holds, with the client and the transport's outcome. -/
def execute (b : Builder) (c : Client) (o : Outcome) : Execution :=
  match b.url with
  | .error e => ⟨[], [], .error (.path e)⟩
  | .ok url =>
    match c.newRequest "POST" url b.body with
    | .error e => ⟨[], [], .error (.request e)⟩
    | .ok req =>
      let debug := b.debug.truthy
      let dumps := if debug then [Trace.request req] else []
      match o with
      | .fail m => ⟨[req], dumps, .error (.transport m)⟩
      | .respond r =>
        let dumps := if debug then dumps ++ [Trace.response r] else dumps
        match checkResponse r with
        | .error (.status e) => ⟨[req], dumps, .error (.status e)⟩
        | .error (.nestedTooDeep array) => ⟨[req], dumps, .error (.decode (.nestedTooDeep array))⟩
        | .ok () => ⟨[req], dumps, (decodeBody r).mapError .decode⟩

/-- The request an execution hands to the transport: the client's `POST` of the builder's URL
and body, when both can be made. -/
def outbound (b : Builder) (c : Client) : Option Request :=
  match b.url with
  | .ok url => (c.newRequest "POST" url b.body).toOption
  | .error _ => none

/-- The outbound request is the client's `POST` of the builder's URL and body. -/
theorem outbound_eq_some {b : Builder} {c : Client} {req : Request} (h : b.outbound c = some req) :
    ∃ url, b.url = .ok url ∧ c.newRequest "POST" url b.body = .ok req := by
  unfold outbound at h
  cases hurl : b.url with
  | error e => rw [hurl] at h; cases h
  | ok url =>
    rw [hurl] at h
    dsimp only at h
    cases hnew : c.newRequest "POST" url b.body with
    | error e => rw [hnew] at h; cases h
    | ok r =>
      rw [hnew] at h
      cases h
      exact ⟨url, rfl, hnew⟩

/-- An execution hands the transport exactly the builder's outbound request, whatever the
transport then does. -/
theorem execute_sent (b : Builder) (c : Client) (o : Outcome) :
    (b.execute c o).sent = (b.outbound c).toList := by
  unfold execute outbound
  cases b.url with
  | error e => rfl
  | ok url =>
    simp only
    cases c.newRequest "POST" url b.body with
    | error e => rfl
    | ok req =>
      cases o with
      | fail m => rfl
      | respond r =>
        simp only
        cases checkResponse r with
        | error e => cases e <;> rfl
        | ok u => rfl

end Builder

end SuggestGateway
