import ReplayCalculator.Json.Writer
import ReplayCalculator.Launch
import ReplayCalculator.Web.Service
import Std.Http

/-!
# The program

Launches the service: reads the environment, announces the address, and answers requests over HTTP.
Everything that decides an answer is in the library; this file moves bytes and keeps the store
between requests.
-/

namespace ReplayCalculator.Program

open Std Std.Async

/-- The environment as far as settings look into it. -/
def readEnvironment : IO (String → Option String) := do
  let names := ["STEPCALC_LOG_LEVEL", "STEPCALC_HOST", "STEPCALC_PORT", "STEPCALC_MAX_SESSIONS"]
  let values ← names.mapM fun name => return (name, ← IO.getEnv name)
  return fun name => (values.lookup name).join

/-- A number made of random bytes. -/
def randomNumber : IO Nat := do
  return (← IO.getRandomBytes 16).foldl (fun n byte => 256 * n + byte.toNat) 0

/-- The service of a running program. Its session names start anywhere and are far apart; an odd
step keeps them different from each other. -/
def startService (limit : Int) : IO (Web.Service StdGen × Web.Store StdGen) := do
  let base ← randomNumber
  let step ← randomNumber
  let table := Table.standard fun lo hi source => randNat source lo hi
  let name := fun n => Web.hexName ((base + n * (2 * step + 1)) % (1 <<< 128))
  return ({ table, limit, name }, { source := mkStdGen (← randomNumber) })

/-- The server's part of the program: the service and the store between two requests. -/
structure Listener where
  service : Web.Service StdGen
  store : IO.Ref (Web.Store StdGen)

/-- The request that arrives, with its whole body. -/
def readRequest (request : Http.Request Http.Body.Stream) : ContextAsync Web.Request := do
  let body : ByteArray ← request.body.readAll
  let contentType := request.line.headers.get? (.mk "content-type")
  return {
    method := toString request.line.method
    target := toString request.line.uri
    contentType := contentType.map (·.value)
    body := body.toList }

/-- The reply that goes out. -/
def writeReply (reply : Web.Reply) : ContextAsync (Http.Response Http.Body.Any) := do
  let status := (Http.Status.ofCode none reply.status.toUInt16).getD .internalServerError
  let response := (Http.Response.withStatus status).header! "Access-Control-Allow-Origin" "*"
  match reply.body with
  | none => return (← response.text "")
  | some body =>
    return (← (response.header! "Content-Type" "application/json").bytes
      (body.write ++ "\n").toUTF8)

instance : Http.Server.Handler Listener where
  onRequest listener request := do
    let request ← readRequest request
    let reply ← (listener.store.modifyGet (listener.service.handle · request) : IO Web.Reply)
    writeReply reply

/-- The address of a host and a port, if there is one. -/
def socketAddress? (host : String) (port : Int) : Async (Option Net.SocketAddress) := do
  if port < 0 ∨ 65535 < port then return none
  let addresses ← DNS.getAddrInfo host (toString port)
  return addresses[0]?.map fun
    | .v4 addr => .v4 ⟨addr, port.toNat.toUInt16⟩
    | .v6 addr => .v6 ⟨addr, port.toNat.toUInt16⟩

/-- Serves until the server is shut down. -/
def serve (options : Launch.ServerOptions) (listener : Listener) : Async UInt32 := do
  match ← socketAddress? options.host options.port with
  | none =>
    IO.eprintln ("Cannot listen on " ++ options.host ++ ":" ++ toString options.port)
    return 1
  | some address =>
    let server ← Http.Server.serve address listener
    server.waitShutdown
    return 0

end ReplayCalculator.Program

open ReplayCalculator in
/-- Launches the service under the settings of the environment. -/
def main : IO UInt32 := do
  match Launch.ofEnvironment (← Program.readEnvironment) with
  | .error e =>
    IO.eprintln e.message
    return 1
  | .ok plan =>
    IO.print plan.output
    (← IO.getStdout).flush
    let (service, store) ← Program.startService plan.settings.maxSessions
    let listener : Program.Listener := { service, store := ← IO.mkRef store }
    (Program.serve plan.server listener).block
