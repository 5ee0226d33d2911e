import SuggestGateway.Gateway.Route
import SuggestGateway.Json.Layout
/-!
# Replies

The HTTP response the server sends for an answer of the gateway. An answer with a JSON value
is sent as `application/json`, its keys sorted, compact or, in debug mode, indented by two. The
answers without a value are the ones the web framework writes itself: the automatic reply to
`OPTIONS` (empty, with the allowed methods in `Allow`), the permanent redirect to the path with
single slashes, and the page of an internal error. Every reply allows any origin.

A reply to `HEAD` is the reply to `GET` without its body.
-/
namespace SuggestGateway

/-- An HTTP response as the server sends it. -/
structure Reply where
  status : Nat
  headers : List (String × String)
  body : List UInt8
deriving DecidableEq, Repr

namespace Reply

/-- Text with the characters that HTML gives a meaning escaped. -/
def escapeHtml (s : String) : String :=
  String.join (s.toList.map fun c =>
    match c with
    | '&' => "&amp;"
    | '<' => "&lt;"
    | '>' => "&gt;"
    | '"' => "&quot;"
    | '\'' => "&#x27;"
    | c => c.toString)

def htmlType : String := "text/html; charset=utf-8"

def originHeader : String × String := ("Access-Control-Allow-Origin", "*")

def internalErrorPage : String :=
  "<!doctype html>\n<html lang=en>\n<title>500 Internal Server Error</title>\n" ++
    "<h1>Internal Server Error</h1>\n<p>The server encountered an internal error and was " ++
    "unable to complete your request. Either the server is overloaded or there is an error " ++
    "in the application.</p>\n"

def redirectPage (location : String) : String :=
  let shown := escapeHtml location
  "<!doctype html>\n<html lang=en>\n<title>Redirecting...</title>\n<h1>Redirecting...</h1>\n" ++
    "<p>You should be redirected automatically to the target URL: <a href=\"" ++ shown ++
    "\">" ++ shown ++ "</a>. If not, click the link.\n"

/-- Where a request with repeated slashes is redirected: the path with single slashes, with
the query kept, on the host the request named. -/
def redirectLocation (host target : String) : String :=
  let path := targetPath target
  let query := match target.toList.dropWhile (· != '?') with
    | [] => ""
    | q => String.ofList q
  "http://" ++ host ++ mergeSlashes path ++ query

/-- The reply for an answer to a request, given the host the request named. -/
def ofAnswer (debug : Bool) (host : String) (req : HttpRequest) (a : HttpAnswer) : Reply :=
  match a.json, dispatch req with
  | .null, .options e =>
    let allowed := ", ".intercalate (e.methods.mergeSort fun x y => decide (x ≤ y))
    ⟨200, [("Content-Type", htmlType), ("Allow", allowed), originHeader], []⟩
  | .null, .redirect _ =>
    let location := redirectLocation host req.path
    ⟨308, [("Content-Type", htmlType), ("Location", location), originHeader],
      Utf8.encode (redirectPage location)⟩
  | .null, _ =>
    ⟨a.status.toNat, [("Content-Type", htmlType), originHeader], Utf8.encode internalErrorPage⟩
  | v, _ =>
    let layout := if debug then Layout.indented 2 else Layout.compact
    ⟨a.status.toNat, [("Content-Type", "application/json"), originHeader],
      Utf8.encode (v.render layout)⟩

def withoutBody (r : Reply) : Reply := { r with body := [] }

end Reply

end SuggestGateway
