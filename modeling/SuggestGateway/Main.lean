import Std.Http
import Std.Async.DNS
import SuggestGateway.Client.EnvFile
import SuggestGateway.Http.Wire
import SuggestGateway.Server.CommandLine
import SuggestGateway.Server.Call
/-!
# The server

The program: it loads `.env` from the working directory into the environment it reads its
settings from, reads the command line, and serves the gateway over HTTP/1.1 on the host and
port given. Each call is served in two steps: the gateway says what it sends to the search
service, the request goes out over TCP, and the gateway replies with what came back (or with
the failure to get it).

Everything here is input and output; the decisions are made by the gateway and the modules it
uses.
-/
namespace SuggestGateway

namespace Server

open Std.Async Std.Http Std.Net

/-- The variables the settings come from, as the process has them. -/
def processEnvironment (names : List String) : IO Environment :=
  names.filterMapM fun n => do
    match ← IO.getEnv n with
    | some v => return some (n, v)
    | none => return none

def settingNames : List String := ["SEARCH_API_ROOT", "SEARCH_API_TOKEN", "SEARCH_API_TIMEOUT"]

/-- Load `.env` over the process environment. A file that cannot be read sets nothing; a
variable that cannot be set ends the program. -/
def loadEnvironment : IO (Except String Environment) := do
  let bytes ← try
      pure (some (← IO.FS.readBinFile ".env"))
    catch _ => pure none
  let mut file : Option String := none
  if let some bytes := bytes then
    match Utf8.decodeStrict? bytes.toList with
    | none => return .error "UnicodeDecodeError: '.env' is not valid UTF-8"
    | some cs => file := some (String.ofList cs)
  let names := (file.map EnvFile.names).getD []
  let env ← processEnvironment (settingNames ++ names.filter (!settingNames.contains ·))
  let loaded := EnvFile.loadFile file env
  match loaded.error with
  | some e => return .error ("ValueError: " ++ e.message)
  | none => return .ok loaded.env

def resolve (host : String) (port : UInt16) : Async SocketAddress := do
  let addresses : Array IPAddr ← DNS.getAddrInfo host ""
  match addresses.toList with
  | IPAddr.v4 a :: _ => return .v4 ⟨a, port⟩
  | IPAddr.v6 a :: _ => return .v6 ⟨a, port⟩
  | [] => throw (IO.userError ("no address for " ++ host))

/-- Everything the peer sends until it closes the connection. -/
partial def receiveAll (client : TCP.Socket.Client) (acc : ByteArray) : Async ByteArray := do
  match ← client.recv? 65536 with
  | some chunk => if chunk.isEmpty then return acc else receiveAll client (acc ++ chunk)
  | none => return acc

/-- Send a request to the search service and read its answer. -/
def exchange (req : Request) : Async Outcome := do
  match Wire.Destination.ofUrl req.url with
  | .error m => return .fail m
  | .ok d =>
    if d.secure then
      return .fail (d.failure "SSLError('secured connections are not supported')")
    else
      try
        let address ← resolve d.host d.port.toUInt16
        let client ← TCP.Socket.Client.mk
        client.connect address
        client.send (ByteArray.mk (Wire.encodeRequest req d).toArray)
        let bytes ← receiveAll client .empty
        match Wire.decodeResponse bytes.toList with
        | .ok r => return .respond r
        | .error e => return .fail e.message
      catch e =>
        return .fail (d.failure
          ("NewConnectionError('Failed to establish a new connection: " ++ toString e ++ "')"))

instance : Inhabited Outcome := ⟨.fail ""⟩

/-- The exchange, or a timeout after the given number of milliseconds. -/
def exchangeWithin (req : Request) (millis : Nat) : Async Outcome :=
  Async.race (exchange req) (do
    sleep (Std.Time.Millisecond.Offset.ofNat millis)
    return .fail "Read timed out.")

def headerText (headers : Std.Http.Headers) (name : String) : Option String := do
  let n ← Header.Name.ofString? name
  let v ← headers.get? n
  return toString v

/-- Serve one request: learn what the gateway sends, send it, and reply with the outcome. The
dumps of a traced request go to the error stream. -/
def serveRequest (env : Environment) (debug : Bool) (request : Std.Http.Request Body.Stream) :
    ContextAsync (Std.Http.Response Body.Any) := do
  let body : ByteArray ← request.body.readAll
  let call : Call := {
    method := toString request.line.method,
    target := toString request.line.uri,
    host := (headerText request.line.headers "Host").getD "localhost",
    contentType := headerText request.line.headers "Content-Type",
    body := body.toList }
  let outcome ← match call.outbound env with
    | some sent => exchangeWithin sent (Call.client env).timeoutMillis
    | none => pure (.fail "")
  for d in (call.answer env outcome).dumps do
    IO.eprintln d
  let reply := call.reply env debug outcome
  let status := (Status.ofCode none reply.status.toUInt16).getD .internalServerError
  let builder := reply.headers.foldl (fun b (n, v) =>
    match Header.Name.ofString? n, Header.Value.ofString? v with
    | some n, some v => b.header n v
    | _, _ => b) (Std.Http.Response.withStatus status)
  let full ← builder.fromBytes (ByteArray.mk reply.body.toArray)
  return { full with body := Body.Any.ofBody full.body }

def listenAddress (o : CommandLine.Options) : Async SocketAddress :=
  resolve o.host o.port.toNat.toUInt16

end Server

end SuggestGateway

open SuggestGateway in
/-- Load `.env`, read the command line and serve until stopped. -/
def main (args : List String) : IO UInt32 := do
  match ← Server.loadEnvironment with
  | .error m =>
    IO.eprintln m
    return 1
  | .ok env =>
    match CommandLine.read args with
    | .showHelp =>
      IO.print CommandLine.help
      return 0
    | .fail m =>
      IO.eprint (CommandLine.errorText m)
      return 2
    | .serve o =>
      if let some m := o.listenError? then
        IO.eprintln m
        return 1
      let handler := Std.Http.Server.Handler.ofFn (Server.serveRequest env o.debug)
      let server ← (do
        let address ← Server.listenAddress o
        Std.Http.Server.serve address handler).block
      IO.eprintln (" * Running on http://" ++ o.host ++ ":" ++ toString o.port)
      IO.eprintln "Press CTRL+C to quit"
      server.waitShutdown.block
      return 0
