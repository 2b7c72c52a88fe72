import BuildChronicle.Proofs.Course

/-!
# What the log level is hidden from

A session is told its log level and never looks at it, and nobody who asks for a log file looks
at what was written before. So a call comes out the same for two monitors whose sessions differ
in the level only, and whose log folders differ in the records of the files only: it ends in the
same way, writes the same records, and leaves two such monitors behind.

The level is hidden by setting it to the lowest one, and the records by forgetting them. Each
operation is shown to commute with this.
-/

namespace BuildChronicle

/-- The settings with the lowest level in place of their own. -/
def Settings.levelless (settings : Settings) : Settings := { settings with logLevel := .debug }

/-- The session with the lowest level in place of its own. -/
def Session.levelless (session : Session) : Session :=
  { session with settings := session.settings.levelless }

/-- The move with the lowest level in the session it leads to. -/
def Move.levelless {α : Type} (move : Move Session Fault α) : Move Session Fault α :=
  ⟨move.state.levelless, move.records, move.outcome⟩

namespace Session

/-- A way for sessions to move that does not look at the level. -/
def LevelBlind {α : Type} (act : Session → Move Session Fault α) : Prop :=
  ∀ session : Session, act session.levelless = (act session).levelless

/-- Starting does not look at the level. -/
theorem levelBlind_start (time : String) (context : Table Value) :
    LevelBlind fun session => session.start time context := by
  intro session
  change session.levelless.start time context = (session.start time context).levelless
  have sameSwitch : session.levelless.settings.disabled = session.settings.disabled := rfl
  have sameReport : session.levelless.report? = session.report? := rfl
  have sameTypes : session.levelless.types = session.types := rfl
  cases disabled : session.settings.disabled with
  | true => simp [start, sameSwitch, disabled, Move.levelless]
  | false =>
    rw [start, start, sameSwitch, sameReport, sameTypes, disabled]
    -- What the new desk and the report are plays no part.
    generalize newDesk (session.types.getD TypeRegistry.stock) = made
    generalize session.report?.getD (Report.openAt time) = report
    cases outcome : (report.add (firstNode time context)).outcome <;>
      simp [outcome, Move.levelless, levelless]

/-- Receiving does not look at the level. -/
theorem levelBlind_receive (time : String) (files : FileSystem) (event : Event) :
    LevelBlind fun session => session.receive time files event := by
  rintro ⟨⟨disabled, level, file⟩, types, stage⟩
  cases disabled with
  | true => rfl
  | false =>
    cases stage with
    | fresh report => rfl
    | wired report desk =>
      cases outcome : (desk.receive report time files event).outcome <;>
        simp [receive, levelless, Settings.levelless, Move.levelless, outcome]

/-- Closing does not look at the level. -/
theorem levelBlind_close (time : String) : LevelBlind fun session => session.close time := by
  rintro ⟨⟨disabled, level, file⟩, types, stage⟩
  cases disabled with
  | true => rfl
  | false => rcases stage with (_ | report) | ⟨report, desk⟩ <;> rfl

/-- Printing past the session does not look at the level. -/
theorem levelBlind_print (node : Node) : LevelBlind fun session => session.print node := by
  rintro ⟨settings, types, stage⟩
  rcases stage with (_ | report) | ⟨report, desk⟩
  · rfl
  all_goals
    cases outcome : (report.add node).outcome <;>
      simp [print, report?, levelless, withReport, Move.levelless, outcome]

/-- Closing past the session does not look at the level. -/
theorem levelBlind_closeReport (time : String) :
    LevelBlind fun session => session.closeReport time := by
  rintro ⟨settings, types, stage⟩
  rcases stage with (_ | report) | ⟨report, desk⟩ <;> rfl

end Session

namespace LogFolder

/-- The folder with its files as they were before anything was written to them. -/
def unwritten (folder : LogFolder) : LogFolder :=
  { folder with files := folder.files.map fun (place, _) => (place, []) }

variable (folder : LogFolder)

/-- Files are where they are, whatever is in them. -/
@[simp] theorem hasFile_unwritten (place : Place) :
    folder.unwritten.hasFile place = folder.hasFile place := by
  rw [hasFile, hasFile, unwritten, List.any_map]
  rfl

/-- So are folders. -/
@[simp] theorem hasFolder_unwritten (place : Place) :
    folder.unwritten.hasFolder place = folder.hasFolder place := rfl

/-- Going through folders does not look into files. -/
@[simp] theorem reach_unwritten (start : Place) (components : List String) :
    folder.unwritten.reach start components = folder.reach start components := by
  have entered : folder.unwritten.enter = folder.enter := by
    funext place component
    rw [enter, enter, hasFolder_unwritten, hasFile_unwritten]
  rw [reach, reach, entered]

/-- Making a single folder does not look into files. -/
theorem makeOne_unwritten (path : Path) (components : List String) :
    folder.unwritten.makeOne path components = (folder.makeOne path components).map unwritten := by
  cases components with
  | nil => rfl
  | cons last above =>
    rw [makeOne_cons, makeOne_cons, reach_unwritten]
    split
    · rfl
    · cases folder.reach (startOf path) above.reverse with
      | error trouble => rfl
      | ok parent =>
        dsimp only
        rw [hasFolder_unwritten, hasFile_unwritten]
        split
        · rfl
        · split
          · rfl
          · split <;> rfl

/-- Whether a folder is as good as made does not depend on what is in files. -/
theorem settle_unwritten (path : Path) (outcome : Except StepTrouble LogFolder) :
    folder.unwritten.settle path (outcome.map unwritten) =
      ((folder.settle path outcome).1.unwritten, (folder.settle path outcome).2) := by
  cases outcome with
  | ok made => rfl
  | error trouble =>
    rw [Except.map, settle, settle, reach_unwritten]
    split <;> rfl

/-- Making folders does not look into files. -/
theorem make_unwritten (origin : Origin) (components : List String) :
    make origin folder.unwritten components =
      ((make origin folder components).1.unwritten, (make origin folder components).2) := by
  induction components with
  | nil => rfl
  | cons last above inductionHypothesis =>
    rw [make, make, makeOne_unwritten]
    cases made : folder.makeOne ⟨origin, (last :: above).reverse⟩ (last :: above) with
    | ok other => rfl
    | error trouble =>
      by_cases missing : trouble = .notFound
      · subst missing
        rw [Except.map, inductionHypothesis]
        cases make origin folder above with
        | mk other outcome =>
          cases outcome with
          | error error => rfl
          | ok done =>
            dsimp only
            rw [makeOne_unwritten]
            exact settle_unwritten other _ _
      · have settled := settle_unwritten folder ⟨origin, (last :: above).reverse⟩ (.error trouble)
        cases trouble with
        | notFound => exact (missing rfl).elim
        | occupied | notFolder | nameTooLong => exact settled

/-- Opening a file does not look into files. -/
theorem openFile_unwritten (path : Path) :
    folder.unwritten.openFile path =
      ((folder.openFile path).1.unwritten, (folder.openFile path).2) := by
  have admitted : folder.unwritten.admits path = folder.admits path := rfl
  rw [openFile, openFile, admitted]
  dsimp only
  rw [hasFile_unwritten]
  split
  · split
    · rfl
    · simp [unwritten]
  · rfl

/-- Asking for a file does not look into files. -/
theorem request_unwritten (path : Path) :
    folder.unwritten.request path =
      ((folder.request path).1.unwritten, (folder.request path).2) := by
  rw [request, request]
  split
  · rfl
  · rw [make_unwritten]
    cases make path.origin folder (path.components.reverse.drop 1) with
    | mk made outcome =>
      cases outcome with
      | error error => rfl
      | ok done => exact openFile_unwritten made path

/-- Writing to a file is not looked at. -/
@[simp] theorem unwritten_append (place : Place) (record : Record) :
    (folder.append place record).unwritten = folder.unwritten := by
  simp [append, unwritten]

end LogFolder

namespace LogBook

/-- What a book receives changes nothing but what is in its files. -/
theorem unwritten_receiveAll (book : LogBook) (records : List Record) :
    (book.receiveAll records).folder.unwritten = book.folder.unwritten := by
  induction records generalizing book with
  | nil => rfl
  | cons record rest inductionHypothesis =>
    have received : (book.receive record).folder.unwritten = book.folder.unwritten := by
      rw [receive]
      split
      · dsimp only
        split
        · rw [inFile]
          split
          · exact LogFolder.unwritten_append _ _ _
          · rfl
        · rfl
      · rfl
    exact (inductionHypothesis (book.receive record)).trans received

/-- Setting up two books whose folders differ in what is in the files only, with settings that
differ in the level only, ends in the same way and leaves two such folders. -/
theorem setUp_alike (first second : LogBook) (settings other : Settings)
    (sameFolder : first.folder.unwritten = second.folder.unwritten)
    (sameSettings : settings.levelless = other.levelless) :
    (first.setUp settings).2 = (second.setUp other).2 ∧
      (first.setUp settings).1.folder.unwritten = (second.setUp other).1.folder.unwritten := by
  have asked : askedFile settings.levelless = askedFile other.levelless :=
    congrArg askedFile sameSettings
  change askedFile settings = askedFile other at asked
  rw [setUp, setUp, asked]
  cases askedFile other with
  | none => exact ⟨rfl, sameFolder⟩
  | some path =>
    have requested := first.folder.request_unwritten path
    rw [sameFolder, second.folder.request_unwritten path] at requested
    dsimp only
    cases firstRequested : first.folder.request path with
    | mk folder outcome =>
      cases secondRequested : second.folder.request path with
      | mk otherFolder otherOutcome =>
        rw [firstRequested, secondRequested] at requested
        obtain ⟨sameUnwritten, sameOutcome⟩ := Prod.mk.inj requested
        dsimp only at sameUnwritten sameOutcome
        subst sameOutcome
        cases otherOutcome with
        | error error => exact ⟨rfl, sameUnwritten.symm⟩
        | ok place => exact ⟨rfl, sameUnwritten.symm⟩

end LogBook

namespace Monitor

/-- Two monitors that differ in the log level and in what is written in the log only. -/
structure Alike (first second : Monitor) : Prop where
  /-- The sessions differ in the level only. -/
  session : first.session.levelless = second.session.levelless
  /-- The folders differ in what is in the files only. -/
  folder : first.book.folder.unwritten = second.book.folder.unwritten

section Alike

variable {first second : Monitor}

/-- The settings of such monitors differ in the level only. -/
theorem Alike.settings (alike : first.Alike second) :
    first.session.settings.levelless = second.session.settings.levelless :=
  congrArg Session.settings alike.session

/-- Such monitors have the same report. -/
theorem Alike.report? (alike : first.Alike second) : first.report? = second.report? := by
  have same : first.session.levelless.report? = second.session.levelless.report? :=
    congrArg Session.report? alike.session
  exact same

/-- A move of both that does not look at the level ends in the same way, writes the same records
and leaves such monitors behind. -/
theorem Alike.move {α : Type} {act : Session → Move Session Fault α}
    (alike : first.Alike second) (blind : Session.LevelBlind act) :
    (act first.session).outcome = (act second.session).outcome ∧
      (act first.session).records = (act second.session).records ∧
      (first.after (act first.session)).Alike (second.after (act second.session)) := by
  have same : (act first.session).levelless = (act second.session).levelless := by
    rw [← blind, ← blind, alike.session]
  obtain ⟨sameSession, sameRecords, sameOutcome⟩ := Move.mk.inj same
  refine ⟨sameOutcome, sameRecords, sameSession, ?_⟩
  rw [after, after, LogBook.unwritten_receiveAll, LogBook.unwritten_receiveAll, alike.folder]

/-- A call of such monitors. -/
structure PerformAlike (first second : Monitor) (call : Call) : Prop where
  /-- It ends in the same way. -/
  outcome : (first.perform call).outcome = (second.perform call).outcome
  /-- It writes the same records. -/
  records : (first.perform call).records = (second.perform call).records
  /-- It leaves such monitors behind. -/
  state : (first.perform call).state.Alike (second.perform call).state

/-- Starting does not look at the level. -/
theorem Alike.start (alike : first.Alike second) (time : String) (context : Table Value) :
    PerformAlike first second (.start time context) := by
  have ready := LogBook.setUp_alike first.book second.book first.session.settings
    second.session.settings alike.folder alike.settings
  cases firstSetUp : first.book.setUp first.session.settings with
  | mk book outcome =>
    cases secondSetUp : second.book.setUp second.session.settings with
    | mk otherBook otherOutcome =>
      rw [firstSetUp, secondSetUp] at ready
      obtain ⟨sameOutcome, sameFolder⟩ := ready
      dsimp only at sameOutcome
      subst sameOutcome
      have readied : Alike { first with book } { second with book := otherBook } :=
        ⟨alike.session, sameFolder⟩
      cases outcome with
      | error error =>
        constructor <;> simp only [perform, Monitor.start, firstSetUp, secondSetUp]
        exact readied
      | ok done =>
        obtain ⟨ended, records, state⟩ := readied.move (Session.levelBlind_start time context)
        constructor <;> simp only [perform, Monitor.start, firstSetUp, secondSetUp]
        · rw [ended]
        · exact records
        · exact state

/-- Calls do not look at the level. -/
theorem Alike.perform (alike : first.Alike second) (call : Call) :
    PerformAlike first second call := by
  cases call with
  | start time context => exact alike.start time context
  | receive time files event =>
    obtain ⟨ended, records, state⟩ := alike.move (Session.levelBlind_receive time files event)
    exact ⟨congrArg (Except.map Value.bool) ended, records, state⟩
  | close time =>
    obtain ⟨ended, records, state⟩ := alike.move (Session.levelBlind_close time)
    exact ⟨congrArg (Except.map fun _ => Value.null) ended, records, state⟩
  | print node =>
    obtain ⟨ended, records, state⟩ := alike.move (Session.levelBlind_print node)
    exact ⟨congrArg (Except.map fun _ => Value.null) ended, records, state⟩
  | closeReport time =>
    obtain ⟨ended, records, state⟩ := alike.move (Session.levelBlind_closeReport time)
    exact ⟨congrArg (Except.map fun _ => Value.null) ended, records, state⟩

/-- Runs do not look at the level. -/
theorem Alike.run (alike : first.Alike second) (calls : List Call) :
    (first.run calls).Alike (second.run calls) := by
  induction calls generalizing first second with
  | nil => exact alike
  | cons call rest inductionHypothesis => exact inductionHypothesis (alike.perform call).state

end Alike

end Monitor

end BuildChronicle
