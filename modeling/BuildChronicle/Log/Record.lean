import BuildChronicle.Event.Kind

/-!
# Log records

A log record has a severity, the name of the logger that wrote it and a message. It may
also carry the kind of the event that was being processed. Five severities have names; any
other number is a level without one.
-/

namespace BuildChronicle

/-- The levels that a threshold can be set to. -/
inductive Level where
  | debug
  | info
  | warning
  | error
  | critical
deriving DecidableEq, Repr

namespace Level

/-- All levels, the least severe first. -/
def all : List Level := [debug, info, warning, error, critical]

/-- The name of a level. -/
def name : Level → String
  | debug => "DEBUG"
  | info => "INFO"
  | warning => "WARNING"
  | error => "ERROR"
  | critical => "CRITICAL"

/-- The severity of a level. -/
def severity : Level → Int
  | debug => 10
  | info => 20
  | warning => 30
  | error => 40
  | critical => 50

/-- The level of the given name. -/
def ofName? (name : String) : Option Level := all.find? (·.name == name)

end Level

/-- The name of a severity. -/
def severityName (severity : Int) : String :=
  match Level.all.find? (·.severity == severity) with
  | some level => level.name
  | none => if severity = 0 then "NOTSET" else "Level " ++ toString severity

/-- A message in the log. -/
structure Record where
  /-- How severe the matter is. -/
  severity : Int
  /-- The logger that wrote it. -/
  logger : String
  /-- What it says. -/
  message : String
  /-- The event kind it was given along, if any. -/
  eventKind : Option Value := none

namespace Record

/-- A record at a level. -/
def of (level : Level) (logger message : String) : Record :=
  { severity := level.severity, logger, message }

/-- The name of the severity. -/
def levelName (record : Record) : String := severityName record.severity

end Record

/-- The name from which the names of all loggers of the library derive. -/
def rootLogger : String := "event_spy"

/-- Is the first logger the second one, or below it? -/
def isLoggerBelow (logger above : String) : Bool :=
  logger == above || (above ++ ".").toList.isPrefixOf logger.toList

/-- Is this logger the root of the library's loggers, or one below it? -/
def isOwnLogger (logger : String) : Bool := isLoggerBelow logger rootLogger

/-- The name from which the names of the loggers of the reader of environment files derive. -/
def envFileLogger : String := "dotenv"

/-- Are the records of this logger kept from view? -/
def isHiddenLogger (logger : String) : Bool := isLoggerBelow logger envFileLogger

/-- The name of the logger that is asked for by a name; without one it is that of all. -/
def loggerNamed (name : String) : String := if name.isEmpty then "root" else name

end BuildChronicle
