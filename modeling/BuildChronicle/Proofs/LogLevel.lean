import BuildChronicle.Proofs.LogDelivery

/-!
# What the log level does

The level of the settings takes effect when a call first gets the log set up. Until then the log
book is the same whichever level is set, and it delivers records by the threshold it had before.
From then on it delivers, of all records that are written, those that reach the level. As calls
write the same records whatever the level is, the log with a higher level is the log with a
lower one, less the records below the higher level.
-/

namespace BuildChronicle

namespace Monitor

/-- Does this call get the log set up? -/
def setsUp (monitor : Monitor) : Call → Bool
  | .start _ _ => (monitor.book.setUp monitor.session.settings).2.toBool
  | _ => false

/-- The calls before the first one that gets the log set up. -/
def preparation (monitor : Monitor) : List Call → List Call
  | [] => []
  | call :: rest =>
    if monitor.setsUp call then [] else call :: (monitor.perform call).state.preparation rest

/-- The book when the log is about to be set up for the first time. -/
def bookBefore (monitor : Monitor) (calls : List Call) : LogBook :=
  (monitor.run (monitor.preparation calls)).book

/-- What calls write, whether or not the book passes it on. -/
def written (monitor : Monitor) : List Call → List Record
  | [] => []
  | call :: rest => (monitor.perform call).records ++ (monitor.perform call).state.written rest

/-- What is written by the first call that gets the log set up and by the calls after it. -/
def writtenSince (monitor : Monitor) : List Call → List Record
  | [] => []
  | call :: rest =>
    if monitor.setsUp call then monitor.written (call :: rest)
    else (monitor.perform call).state.writtenSince rest

section OneRun

variable {settings : Settings} {types : TypeRegistry} {monitor : Monitor}

/-- A start that gets the log set up, or finds it set up before, delivers what it writes. -/
theorem start_delivered (time : String) (context : Table Value)
    (regular : monitor.Regular settings types)
    (ready : monitor.setsUp (.start time context) = true ∨ monitor.book.IsSetUpFor settings) :
    (monitor.perform (.start time context)).state.book.IsSetUpFor settings ∧
      LogBook.Delivered settings monitor.book (monitor.perform (.start time context)).records
        (monitor.perform (.start time context)).state.book := by
  have own := allOwn_perform (.start time context) regular
  rw [← regular.sameSettings] at ready ⊢
  cases done : monitor.book.setUp monitor.session.settings with
  | mk book outcome =>
    cases outcome with
    | error error =>
      obtain ⟨⟨folder, rfl, sameFiles⟩, _⟩ :=
        LogBook.setUp_failed monitor.book book monitor.session.settings _ error rfl done
      have kept := ready.resolve_left (by simp [setsUp, done, Except.toBool])
      simp only [perform, start, done]
      refine ⟨⟨kept.threshold, kept.isSetUp, kept.file, ?_⟩, by simp, by simp, ?_⟩
      · intro place given
        rw [LogFolder.hasFile, sameFiles]
        exact kept.there place given
      · intro place
        simp [LogFolder.recordsAt, sameFiles]
    | ok _ =>
      obtain ⟨arranged, begun⟩ := LogBook.setUp_delivered monitor.book book _ done
      simp only [perform, start, done] at own ⊢
      obtain ⟨reached, delivered⟩ := LogBook.receiveAll_delivered _ book _ arranged own
      exact ⟨reached, begun.trans delivered⟩

/-- Once the log was set up, or where a call gets it set up, the call delivers what it writes. -/
theorem perform_delivered (call : Call) (regular : monitor.Regular settings types)
    (ready : monitor.setsUp call = true ∨ monitor.book.IsSetUpFor settings) :
    (monitor.perform call).state.book.IsSetUpFor settings ∧
      LogBook.Delivered settings monitor.book (monitor.perform call).records
        (monitor.perform call).state.book := by
  have own := allOwn_perform call regular
  cases call with
  | start time context => exact start_delivered time context regular ready
  | receive _ _ _ | close _ | print _ | closeReport _ =>
    exact LogBook.receiveAll_delivered _ _ _ (ready.resolve_left Bool.false_ne_true) own

/-- Once the log was set up, whatever calls write is delivered. -/
theorem run_delivered (calls : List Call) (regular : monitor.Regular settings types)
    (ready : monitor.book.IsSetUpFor settings) :
    LogBook.Delivered settings monitor.book (monitor.written calls) (monitor.run calls).book := by
  induction calls generalizing monitor with
  | nil => exact LogBook.Delivered.refl _ _
  | cons call rest inductionHypothesis =>
    obtain ⟨readyNext, next⟩ := perform_delivered call regular (.inr ready)
    exact next.trans (inductionHypothesis (regular_perform call regular) readyNext)

/-- From when the log is set up for the first time, whatever is written is delivered. -/
theorem run_since (calls : List Call) (regular : monitor.Regular settings types) :
    LogBook.Delivered settings (monitor.bookBefore calls) (monitor.writtenSince calls)
      (monitor.run calls).book := by
  induction calls generalizing monitor with
  | nil => exact LogBook.Delivered.refl _ _
  | cons call rest inductionHypothesis =>
    have regularNext := regular_perform call regular
    rw [bookBefore, preparation, writtenSince]
    cases first : monitor.setsUp call with
    | true =>
      obtain ⟨readyNext, next⟩ := perform_delivered call regular (.inl first)
      exact next.trans (run_delivered rest regularNext readyNext)
    | false => exact inductionHypothesis regularNext

end OneRun

section TwoRuns

variable {first second : Monitor}

/-- The same calls get the log set up. -/
theorem Alike.setsUp (alike : first.Alike second) (call : Call) :
    first.setsUp call = second.setsUp call := by
  cases call with
  | start time context =>
    have ready := LogBook.setUp_alike first.book second.book first.session.settings
      second.session.settings alike.folder alike.settings
    rw [Monitor.setsUp, Monitor.setsUp, ready.1]
  | receive _ _ _ | close _ | print _ | closeReport _ => rfl

/-- The same calls come before the log is set up. -/
theorem Alike.preparation (alike : first.Alike second) (calls : List Call) :
    first.preparation calls = second.preparation calls := by
  induction calls generalizing first second with
  | nil => rfl
  | cons call rest inductionHypothesis =>
    rw [Monitor.preparation, Monitor.preparation, alike.setsUp call,
      inductionHypothesis (alike.perform call).state]

/-- The same records are written. -/
theorem Alike.written (alike : first.Alike second) (calls : List Call) :
    first.written calls = second.written calls := by
  induction calls generalizing first second with
  | nil => rfl
  | cons call rest inductionHypothesis =>
    rw [Monitor.written, Monitor.written, (alike.perform call).records,
      inductionHypothesis (alike.perform call).state]

/-- The same records are written from when the log is set up. -/
theorem Alike.writtenSince (alike : first.Alike second) (calls : List Call) :
    first.writtenSince calls = second.writtenSince calls := by
  induction calls generalizing first second with
  | nil => rfl
  | cons call rest inductionHypothesis =>
    rw [Monitor.writtenSince, Monitor.writtenSince, alike.setsUp call, alike.written,
      inductionHypothesis (alike.perform call).state]

/-- A call that does not get the log set up leaves the same book behind for both. -/
theorem Alike.book_perform (alike : first.Alike second) (same : first.book = second.book)
    (call : Call) (unprepared : first.setsUp call = false) :
    (first.perform call).state.book = (second.perform call).state.book := by
  have records := (alike.perform call).records
  cases call with
  | start time context =>
    cases done : first.book.setUp first.session.settings with
    | mk book outcome =>
      cases outcome with
      | error error =>
        obtain ⟨_, doneToo⟩ :=
          LogBook.setUp_failed first.book book _ _ error alike.settings done
        rw [same] at doneToo
        simp only [Monitor.perform, Monitor.start, done, doneToo]
      | ok _ => simp [Monitor.setsUp, done, Except.toBool] at unprepared
  | receive _ _ _ | close _ | print _ | closeReport _ =>
    have received := congr (congrArg LogBook.receiveAll same) records
    exact received

/-- Two monitors with the same book have the same book when the log is about to be set up. -/
theorem Alike.bookBefore (alike : first.Alike second) (same : first.book = second.book)
    (calls : List Call) : first.bookBefore calls = second.bookBefore calls := by
  induction calls generalizing first second with
  | nil => exact same
  | cons call rest inductionHypothesis =>
    rw [Monitor.bookBefore, Monitor.bookBefore, Monitor.preparation, Monitor.preparation,
      ← alike.setsUp call]
    cases prepared : first.setsUp call with
    | true => exact same
    | false =>
      exact inductionHypothesis (alike.perform call).state
        (alike.book_perform same call prepared)

end TwoRuns

/-- What the level changes in a session: the calls are made of two monitors whose settings differ
in the level only, that of the second being the higher one. -/
structure OnlyFiltered (lax strict : Settings) (first second : Monitor) (calls : List Call) :
    Prop where
  /-- Any further call ends in the same way. -/
  outcome : ∀ call,
    ((first.run calls).perform call).outcome = ((second.run calls).perform call).outcome
  /-- The reports are the same. -/
  root : (first.run calls).root? = (second.run calls).root?
  /-- A start at the beginning gets the log set up, or fails because the log file cannot be had. -/
  prompt : ∀ time context rest, calls = .start time context :: rest →
    first.preparation calls = [] ∨
      ∃ error, (first.perform (.start time context)).outcome = .error (.logFile error)
  /-- The same calls come before the log is set up. -/
  preparation : first.preparation calls = second.preparation calls
  /-- The books are the same until the log is set up. -/
  before : first.bookBefore calls = second.bookBefore calls
  /-- From then on, the first book delivers the records that reach the lower level. -/
  shown : LogBook.Delivered lax (first.bookBefore calls) (first.writtenSince calls)
    (first.run calls).book
  /-- The second book delivers exactly those of them that reach the higher level. -/
  filtered : LogBook.Delivered strict (second.bookBefore calls)
    ((first.writtenSince calls).filter (Record.reaches lax.logLevel)) (second.run calls).book

/-- A start that does not get the log set up fails because the log file cannot be had. -/
theorem outcome_start_unprepared (monitor : Monitor) (time : String) (context : Table Value)
    (unprepared : monitor.setsUp (.start time context) = false) :
    ∃ error, (monitor.perform (.start time context)).outcome = .error (.logFile error) := by
  cases done : monitor.book.setUp monitor.session.settings with
  | mk book outcome =>
    cases outcome with
    | error error => exact ⟨error, by simp [perform, start, done, Except.map]⟩
    | ok _ => simp [setsUp, done, Except.toBool] at unprepared

/-- The level of a session only decides which records are delivered, once the log is set up.

Proof: the two monitors differ in the level only, and stay so call by call. Each of them delivers
what reaches its own level, and what is written is the same for both. -/
theorem level_only_filters (settings : Settings) (lax strict : Level)
    (laxer : lax.severity ≤ strict.severity) (types : Option TypeRegistry)
    (report : Option Report) (book : LogBook) (calls : List Call) :
    OnlyFiltered { settings with logLevel := lax } { settings with logLevel := strict }
      (new { settings with logLevel := lax } types report book)
      (new { settings with logLevel := strict } types report book) calls := by
  have alike : (new { settings with logLevel := lax } types report book).Alike
      (new { settings with logLevel := strict } types report book) := ⟨rfl, rfl⟩
  have after := alike.run calls
  have laxly := run_since calls
    (regular_new { settings with logLevel := lax } types report book)
  have strictly := run_since calls
    (regular_new { settings with logLevel := strict } types report book)
  constructor
  case outcome => exact fun call => (after.perform call).outcome
  case root => exact congrArg (Option.map Report.root) after.report?
  case prompt =>
    rintro time context rest rfl
    rw [preparation]
    split
    · exact .inl rfl
    · rename_i unprepared
      exact .inr (outcome_start_unprepared _ time context (Bool.eq_false_iff.mpr unprepared))
  case preparation => exact alike.preparation calls
  case before => exact alike.bookBefore rfl calls
  case shown => exact laxly
  case filtered =>
    have same := Record.filter_reaches lax strict laxer
    rw [← alike.writtenSince calls] at strictly
    constructor
    · rw [strictly.passed, same]
    · rw [strictly.console, same]
    · intro place
      rw [strictly.files, same]

/-- The project of a result has a descriptor of an unexpected name. At the level of warnings,
the warning is all that is shown. -/
theorem level_only_filters_warning :
    let project : Project :=
      { groupId := none, artifactId := none, version := none, file := some ⟨.root, ["odd.xml"]⟩ }
    let calls : List Call :=
      [.start "0" .empty, .receive "1" {} (.result (some project) []), .close "2"]
    Level.debug.severity ≤ Level.warning.severity ∧
      OnlyFiltered { logLevel := .debug } { logLevel := .warning }
        (new { logLevel := .debug } none none {}) (new { logLevel := .warning } none none {})
        calls ∧
      ((new { logLevel := .warning } none none {}).run calls).book.passed.map Record.message =
        [Element.unexpectedName ⟨.root, ["odd.xml"]⟩] := by
  intro project calls
  have laxer : Level.debug.severity ≤ Level.warning.severity := by decide
  exact ⟨laxer, level_only_filters {} .debug .warning laxer none none {} calls, by decide +kernel⟩

/-- Where the log file is a folder, the log is never set up, and a record below the level is
shown at that level as it is at the lowest one. -/
theorem unfiltered_without_log :
    let quiet := new { logLevel := .error, logFile := some "." } none (some (Report.openAt "0")) {}
    let full := new { logLevel := .debug, logFile := some "." } none (some (Report.openAt "0")) {}
    let calls : List Call := [.start "1" .empty, .close "2"]
    ∃ record, (quiet.run calls).book.passed = [record] ∧
      (full.run calls).book.passed = [record] ∧ record.reaches .error = false :=
  ⟨_, rfl, rfl, rfl⟩

end Monitor

end BuildChronicle
