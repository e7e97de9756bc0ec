import SmbExchange.Config.Environment
import SmbExchange.Event
import SmbExchange.Json.Writer
import SmbExchange.Logging.Filter
import SmbExchange.Storage.Files

/-!
# Loggers

A process has one logger at most.  Once it is installed, events that its filter lets through become
lines, on the console or in a file.  A line says when it is written.
-/

namespace SmbExchange.Logging

/-! ## Lines -/

def valueJson : Event.Value → Json.Value
  | .number value => .ofNat value
  | .text value => .ofText value

def eventJson (time target : String) (event : Event) : Json.Value :=
  let values := event.values.map fun value => (some value.1, valueJson value.2)
  .object [(some "timestamp", .ofText time), (some "level", .ofText event.level.name),
    (some "fields", .object ((some "message", .ofText event.message) :: values)),
    (some "target", .ofText target)]

def levelWidth : Nat := 5

/-- The name of a level with blanks in front, all of one width. -/
def levelColumn (level : Level) : String :=
  String.ofList (List.replicate (levelWidth - level.name.length) ' ') ++ level.name

def eventWords (time target : String) (event : Event) : String :=
  let values := event.values.map fun value => " " ++ value.1 ++ "=" ++ value.2.toText
  time ++ " " ++ levelColumn event.level ++ " " ++ target ++ ": " ++ event.message
    ++ String.join values

def line (asJson : Bool) (time target : String) (event : Event) : String :=
  if asJson then (eventJson time target event).toText else eventWords time target event

/-! ## The logger -/

structure Logger where
  filter : Filter
  asJson : Bool
  /-- The file that lines go to, or else the console. -/
  path : Option String
  deriving DecidableEq, Repr

structure Journal where
  /-- The logger, once it is installed. -/
  logger : Option Logger
  console : List String
  storage : Storage
  /-- The time, as lines show it. -/
  time : String
  deriving DecidableEq, Repr

/-- The target of what the logger itself reports. -/
def loggerTarget : String := "smb_protocol::utils::logging"

def metricsTarget : String := "smb_protocol::utils::metrics"

/-- The environment variable that overrides the level of a configuration. -/
def filterVariable : String := "RUST_LOG"

/-- The filter of a logging.  What the environment says counts, if it is a filter. -/
def filterOf (environment : Environment) (logging : Config.Logging) : Filter :=
  ((environment.text? filterVariable).bind Filter.ofText?).getD (.ofLevel logging.level)

/-- The file of a logging, if lines go to one. -/
def pathOf (logging : Config.Logging) : Option String :=
  if logging.toFile then logging.path else none

namespace Journal

def new (storage : Storage) (time : String) : Journal :=
  ⟨none, [], storage, time⟩

def write (journal : Journal) (path : Option String) (line : String) : Journal :=
  match path with
  | none => { journal with console := journal.console ++ [line] }
  | some path =>
    match journal.storage.append path (line ++ "\n") with
    | .ok storage => { journal with storage := storage }
    | .error _ => journal

/-- Reports an event, if there is a logger that lets it through. -/
def report (journal : Journal) (target : String) (event : Event) : Journal :=
  match journal.logger with
  | none => journal
  | some logger =>
    if logger.filter.allows target ("message" :: event.values.map Prod.fst) event.level then
      journal.write logger.path (line logger.asJson journal.time target event)
    else journal

/-- The files once the file of a logging is open.  It is made if it is not there. -/
def openFile (journal : Journal) (logging : Config.Logging) : Except Fault Storage :=
  match pathOf logging with
  | none => .ok journal.storage
  | some path =>
    (journal.storage.append path "").mapError fun fault =>
      .config ("Failed to open log file: " ++ fault.message)

/-- Installs the logger of a configuration.  It fails when the file cannot be opened, and when there
is a logger already. -/
def install (journal : Journal) (environment : Environment) (logging : Config.Logging) :
    Except Fault Unit × Journal :=
  match journal.openFile logging with
  | .error fault => (.error fault, journal)
  | .ok storage =>
    let opened := { journal with storage := storage }
    match journal.logger with
    | some _ =>
      (.error (.config ("Failed to install logger: "
        ++ "a global default trace dispatcher has already been set")), opened)
    | none =>
      let logger : Logger := ⟨filterOf environment logging, logging.asJson, pathOf logging⟩
      (.ok (), { opened with logger := some logger }.report loggerTarget
        (.loggingInitialized logging.application logging.level))

/-- Reports counters, so many seconds after they were set up. -/
def reportMetrics (journal : Journal) (metrics : Metrics) (uptime : Nat) : Journal :=
  journal.report metricsTarget (.metricsSnapshot metrics uptime)

end Journal

end SmbExchange.Logging
