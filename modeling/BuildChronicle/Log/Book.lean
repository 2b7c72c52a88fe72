import BuildChronicle.Log.Folder
import BuildChronicle.Log.Template
import BuildChronicle.Settings

/-!
# The log book

The log book receives every record and decides where it goes. Records of the library's own
loggers go nowhere if they are below the threshold; the others are passed on, and are
written to the console and to the current file once the book has been set up. Records of
foreign loggers are only passed on, except for the loggers of the reader of environment
files, whose records are kept from view. Setting the book up again changes the threshold and
the file; what was written stays written. If the file cannot be had, threshold and file stay
what they were.

A message may be handed in as a template with its arguments. Whether they fit is found out
only if the record goes anywhere.
-/

namespace BuildChronicle

/-- The threshold, where records go, and what has gone there. -/
structure LogBook where
  /-- The least severity that is passed on. -/
  threshold : Int := Level.debug.severity
  /-- Has the book been set up to write records? -/
  isSetUp : Bool := false
  /-- The file that records are written to besides the console. -/
  file : Option Place := none
  /-- The records passed on, in order. -/
  passed : List Record := []
  /-- The records written to the console, in order. -/
  console : List Record := []
  /-- The files that records were written to. -/
  folder : LogFolder := {}

/-- A record that is handed in as a template with its arguments. -/
structure Submission where
  /-- How severe the matter is. -/
  severity : Int
  /-- The logger that hands it in. -/
  logger : String
  /-- The message, with places for the arguments. -/
  template : String
  /-- The arguments of the message. -/
  arguments : List Value := []
  /-- The event kind it is given along, if any. -/
  eventKind : Option Value := none

namespace LogBook

instance : Inhabited LogBook := ⟨{}⟩

/-- The number of bytes a log file takes before another one is begun. -/
def fileCapacity : Nat := 10485760

/-- The number of full log files that are kept. -/
def keptFiles : Nat := 5

/-- The encoding of log files. -/
def fileEncoding : String := "utf-8"

/-- The file that settings ask for. An empty name asks for none. -/
def askedFile (settings : Settings) : Option Path :=
  (settings.logFile.filter (· != "")).map Path.parse

/-- The book with a threshold and a file to write to. -/
def arranged (book : LogBook) (settings : Settings) (file : Option Place) : LogBook :=
  { book with threshold := settings.logLevel.severity, isSetUp := true, file }

/-- Set the book up. A file that is asked for exists from then on. -/
def setUp (book : LogBook) (settings : Settings) : LogBook × Except LogFileError Unit :=
  match askedFile settings with
  | none => (book.arranged settings none, .ok ())
  | some path =>
    match book.folder.request path with
    | (folder, .error error) => ({ book with folder }, .error error)
    | (folder, .ok file) => ({ book with folder }.arranged settings (some file), .ok ())

/-- Does a record of this severity and logger go anywhere? -/
def admits (book : LogBook) (severity : Int) (logger : String) : Bool :=
  if isOwnLogger logger then book.threshold ≤ severity
  else Level.debug.severity ≤ severity && !isHiddenLogger logger

/-- Does the book write the records of a logger to the console and the file? -/
def writes (book : LogBook) (logger : String) : Bool := book.isSetUp && isOwnLogger logger

/-- Write a record at the end of the current file, if there is one. -/
def inFile (book : LogBook) (record : Record) : LogFolder :=
  match book.file with
  | some file => book.folder.append file record
  | none => book.folder

/-- Receive a record. -/
def receive (book : LogBook) (record : Record) : LogBook :=
  if book.admits record.severity record.logger then
    { book with
      passed := book.passed ++ [record]
      console := if book.writes record.logger then book.console ++ [record] else book.console
      folder := if book.writes record.logger then book.inFile record else book.folder }
  else book

/-- Receive several records in order. -/
def receiveAll (book : LogBook) (records : List Record) : LogBook :=
  records.foldl receive book

/-- Receive a record that is handed in as a template. -/
def submit (book : LogBook) (submission : Submission) :
    Except Template.TemplateError LogBook :=
  let logger := loggerNamed submission.logger
  if book.admits submission.severity logger then
    (Template.fill submission.template submission.arguments).map fun message =>
      book.receive
        { severity := submission.severity, logger, message, eventKind := submission.eventKind }
  else .ok book

/-- Receiving records leaves the threshold as it is. -/
theorem threshold_receive (book : LogBook) (record : Record) :
    (book.receive record).threshold = book.threshold := by
  unfold receive
  split <;> rfl

/-- Exactly the admitted records are passed on. -/
theorem passed_receive (book : LogBook) (record : Record) :
    (book.receive record).passed =
      book.passed ++ [record].filter fun record => book.admits record.severity record.logger := by
  unfold receive
  split <;> rename_i admitted <;> simp [admitted]

end LogBook

end BuildChronicle
