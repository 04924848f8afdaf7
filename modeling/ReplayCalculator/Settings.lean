import ReplayCalculator.Json.Basic
import ReplayCalculator.Keypad.Basic
import ReplayCalculator.Text.Integer
import ReplayCalculator.Text.Quoted

/-!
# Settings

What can be chosen from outside: how much is logged, where the service listens and how many sessions
it keeps. Each setting is a variable of the environment with a default. The listing gives the
settings together with the fixed values of the program, each under its name.
-/

namespace ReplayCalculator

/-- What can be chosen from outside. -/
structure Settings where
  logLevel : String := "INFO"
  host : String := "127.0.0.1"
  port : Int := 8888
  maxSessions : Int := 100
  deriving DecidableEq, Repr

namespace Settings

/-- The name of the program. -/
def appName : String := "StepCalc Replay Calculator"

/-- The version of the program. -/
def version : String := "1.0.0"

/-- The form of a line of the log. -/
def logFormat : String := "%(asctime)s %(levelname)s %(name)s: %(message)s"

/-- A text that should be a whole number and is none, and why. -/
structure NumberError where
  text : String
  cause : Text.IntegerError
  deriving DecidableEq, Repr

/-- The error in words. The quoted text is cut off after two hundred characters. -/
def NumberError.message (e : NumberError) : String :=
  match e.cause with
  | .malformed =>
    "invalid literal for int() with base 10: " ++
      String.ofList ((Text.quoted e.text).toList.take 200)
  | .tooLong digits =>
    "Exceeds the limit (" ++ toString Text.digitLimit ++
      " digits) for integer string conversion: value has " ++ toString digits ++
      " digits; use sys.set_int_max_str_digits() to increase the limit"

/-- A setting that is a whole number. -/
def readNumber (text : Option String) (default : Int) : Except NumberError Int :=
  match text with
  | none => .ok default
  | some text => (Text.readInteger text).mapError (⟨text, ·⟩)

/-- The settings under an environment. Of two texts that are no numbers the port is noticed first.
-/
def read (env : String → Option String) : Except NumberError Settings := do
  let defaults : Settings := {}
  let port ← readNumber (env "STEPCALC_PORT") defaults.port
  let maxSessions ← readNumber (env "STEPCALC_MAX_SESSIONS") defaults.maxSessions
  return {
    logLevel := (env "STEPCALC_LOG_LEVEL").getD defaults.logLevel
    host := (env "STEPCALC_HOST").getD defaults.host
    port
    maxSessions }

/-- All values by which the program runs, by name. -/
def listing (s : Settings) : List (String × Json) := [
  ("APP_NAME", .text appName),
  ("VERSION", .text version),
  ("MAX_FRACTION_DIGITS", .integer Number.maxFractionDigits),
  ("RANDOM_SCALE", .integer Table.randomScale),
  ("RANDOM_UPPER_BOUND", .integer Table.randomUpperBound),
  ("MEMORY_VARIABLE", .text Keypad.memoryVariable),
  ("DISPLAY_PLACEHOLDER", .text Keypad.displayPlaceholder),
  ("DESCRIPTION_PLACEHOLDER", .text Keypad.descriptionPlaceholder),
  ("PENDING_SUFFIX", .text Keypad.pendingSuffix),
  ("RESOLVED_SUFFIX", .text Keypad.resolvedSuffix),
  ("DIGIT_KEYS", .text Keypad.digitKeys),
  ("ERROR_PREFIX", .text Keypad.errorLabel),
  ("LOG_LEVEL", .text s.logLevel),
  ("LOG_FORMAT", .text logFormat),
  ("WEB_HOST", .text s.host),
  ("WEB_PORT", .integer s.port),
  ("MAX_SESSIONS", .integer s.maxSessions)]

end Settings

end ReplayCalculator
