import ServerTree.Value.Display
import ServerTree.Text.Case
import ServerTree.Assoc

/-!
# Logging

Records go to named loggers that share one threshold. A route has a logger of its own that puts
the route's name in front of each record and drops those below the level the route was declared with,
whatever the threshold is.
-/

namespace ServerTree

/-- The number of each level. -/
def levelNumbers : List (String × Int) :=
  [("trace", 10), ("debug", 10), ("info", 20), ("warn", 30), ("warning", 30), ("error", 40),
    ("fatal", 50), ("critical", 50), ("silent", 60)]

/-- A level as a number: the number of a name; what counts as a number already is itself. -/
def levelValue : Value → Attempt Value
  | .int i => .ok (.int i)
  | .bool b => .ok (.bool b)
  | .str s =>
    match Assoc.get? (Text.lower s) levelNumbers with
    | some n => .ok (.int n)
    | none => refuse (.unknownLevel (Text.quoted s))
  | .bytes b => refuse (.unknownLevel (Text.quotedBytes b))
  | v => refuse (noAttribute v "lower")

/-- What a level that is a value counts as. -/
def Value.asLevel : Value → Int
  | .int i => i
  | v => if v.truthy then 1 else 0

/-- The number of a level given by name, or by itself. -/
def levelNumber (level : Value) : Attempt Int := (levelValue level).map Value.asLevel

/-- The severities at which records are made. -/
inductive Severity where
  | debug | info | warning | error | critical
deriving DecidableEq, Repr

namespace Severity

/-- The number of a severity. -/
def number : Severity → Int
  | debug => 10
  | info => 20
  | warning => 30
  | error => 40
  | critical => 50

/-- The name of a severity in a record. -/
def label : Severity → String
  | debug => "DEBUG"
  | info => "INFO"
  | warning => "WARNING"
  | error => "ERROR"
  | critical => "CRITICAL"

/-- The severity of a name. -/
def ofName? (s : String) : Option Severity :=
  if s = "debug" then some debug
  else if s = "info" then some info
  else if s = "warning" then some warning
  else if s = "error" then some error
  else if s = "critical" then some critical
  else none

end Severity

/-- The loggers. -/
inductive Logger where
  | tree | files | pipeline | server | access | route
deriving DecidableEq, Repr

/-- The name of a logger. -/
def Logger.name : Logger → String
  | .tree => "arbor.tree"
  | .files => "arbor.files"
  | .pipeline => "arbor.pipeline"
  | .server => "arbor.server"
  | .access => "arbor.access"
  | .route => "arbor.route"

/-- A record that was let through. It has no message when the message could not be formatted. -/
structure LogRecord where
  logger : Logger
  severity : Severity
  message : Option String
deriving DecidableEq, Repr

/-- The log: its level, whether a handler is attached, and the records so far. -/
structure Log where
  /-- The level as it was set. Zero stands for a level that is not set. -/
  level : Value := .int 0
  attached : Bool := false
  records : Array LogRecord := #[]

namespace Log

/-- The number of the level. -/
def threshold (l : Log) : Int := l.level.asLevel

/-- The least number that is let through. A threshold that is not set lets warnings through. -/
def effective (l : Log) : Int := if l.threshold = 0 then 30 else l.threshold

/-- Whether records of a number are let through. Those without severity never are. -/
def enabled (l : Log) (number : Int) : Bool := decide (0 < number) && decide (l.effective ≤ number)

/-- Makes a record, whose message may be missing. -/
def append (l : Log) (logger : Logger) (severity : Severity) (message : Option String) : Log :=
  if l.enabled severity.number then { l with records := l.records.push ⟨logger, severity, message⟩ }
  else l

/-- Makes a record. -/
def emit (l : Log) (logger : Logger) (severity : Severity) (message : String) : Log :=
  l.append logger severity (some message)

/-- Sets the threshold of every logger. -/
def setThreshold (l : Log) (level : Value) : Attempt Log := do
  let n ← levelValue level
  return { l with level := n }

/-- Attaches a handler, once, and sets the threshold. A handler stays attached when the level is
refused. -/
def configure (l : Log) (level : Value) : Log × Attempt Unit :=
  let l := { l with attached := true }
  match levelValue level with
  | .ok n => ({ l with level := n }, .ok ())
  | .error e => (l, .error e)

end Log

/-! ## Routes -/

/-- A route's name is the beginning of a format, in which two percent signs stand for one. Any other
conversion asks for a value that there is none of. -/
def formattedName? : List Char → Option (List Char)
  | [] => some []
  | '%' :: '%' :: r => (formattedName? r).map ('%' :: ·)
  | '%' :: _ => none
  | c :: r => (formattedName? r).map (c :: ·)

namespace RouteLogger

/-- The logger of a route, with its level when it has one. -/
def make (route : String) (level : Value) : Attempt RouteLogger :=
  match level with
  | .none => .ok ⟨route, none⟩
  | v => (levelNumber v).map fun n => ⟨route, some n⟩

/-- Whether records of a number are let through by the route and the log. -/
def enabled (r : RouteLogger) (l : Log) (number : Int) : Bool :=
  (match r.level with
    | some level => decide (level ≤ number)
    | none => true) && l.enabled number

/-- A message with the route's name in front. -/
def format? (r : RouteLogger) (message : Value) : Option String := do
  let name := ("[" ++ r.route ++ "] ").toList
  let name ← formattedName? name
  let text ← message.text.toOption
  return String.ofList name ++ text

/-- Makes a record with the route's name in front. -/
def emit (r : RouteLogger) (severity : Severity) (message : Value) (l : Log) : Log :=
  if r.enabled l severity.number then l.append .route severity (r.format? message) else l

end RouteLogger

end ServerTree
