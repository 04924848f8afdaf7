import ReplayCalculator.Settings

/-!
# Launching the service

A launch reads the settings, announces where the service listens, and says how the server is to run.
A setting that cannot be used is found before anything is announced.
-/

namespace ReplayCalculator.Launch

/-- How the server is to run: where it listens, and that it answers one request at a time. -/
structure ServerOptions where
  host : String
  port : Int
  debug : Bool := false
  threaded : Bool := false
  deriving DecidableEq, Repr

/-- A launch: its settings, what is announced, line by line, and how the server is to run. -/
structure Plan where
  settings : Settings
  announcement : List String
  server : ServerOptions
  deriving DecidableEq, Repr

/-- The text of the announcement. -/
def Plan.output (plan : Plan) : String :=
  String.join (plan.announcement.map (· ++ "\n"))

/-- Why a launch fails. -/
inductive Failure
  | setting (e : Settings.NumberError)
  | unknownLevel (level : String)
  deriving DecidableEq, Repr

/-- The failure in words. -/
def Failure.message : Failure → String
  | setting e => e.message
  | unknownLevel level => "Unknown level: " ++ Text.quoted level

/-- The names of the log levels. -/
def logLevels : List String :=
  ["CRITICAL", "FATAL", "ERROR", "WARN", "WARNING", "INFO", "DEBUG", "NOTSET"]

/-- The line above and below the announced address. -/
def rule : String := String.ofList (List.replicate 60 '=')

/-- The launch with the given settings. -/
def plan (s : Settings) : Except Failure Plan :=
  if s.logLevel ∈ logLevels then
    let address := "http://" ++ s.host ++ ":" ++ toString s.port
    .ok {
      settings := s
      announcement := [
        "Starting " ++ Settings.appName ++ " v" ++ Settings.version ++ "...",
        rule,
        "Server starting on " ++ address,
        "API index:          " ++ address ++ "/api",
        rule]
      server := { host := s.host, port := s.port } }
  else .error (.unknownLevel s.logLevel)

/-- The launch under an environment. -/
def ofEnvironment (env : String → Option String) : Except Failure Plan :=
  match Settings.read env with
  | .error e => .error (.setting e)
  | .ok s => plan s

end ReplayCalculator.Launch
