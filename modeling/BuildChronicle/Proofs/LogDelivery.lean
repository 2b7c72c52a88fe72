import BuildChronicle.Proofs.LevelBlindness
import BuildChronicle.Proofs.OwnRecords

/-!
# Where the log book delivers records

Once it was set up, the log book delivers every record of the library's own loggers that reaches
its level: it passes it on, writes it to the console and, if there is one, to the log file. It
delivers no other record of theirs. Setting the book up delivers nothing and takes nothing back,
and where the log file cannot be had, the book stays as it was but for its folder.
-/

namespace BuildChronicle

/-- The record is at least as severe as the level. -/
def Record.reaches (level : Level) (record : Record) : Bool :=
  decide (level.severity ≤ record.severity)

/-- What reaches a higher level is found among what reaches a lower one. -/
theorem Record.filter_reaches (lax strict : Level) (laxer : lax.severity ≤ strict.severity)
    (records : List Record) :
    (records.filter (reaches lax)).filter (reaches strict) = records.filter (reaches strict) := by
  rw [List.filter_filter]
  apply List.filter_congr
  intro record _
  cases reaching : reaches strict record with
  | false => rfl
  | true =>
    rw [reaches, decide_eq_true_eq] at reaching
    rw [reaches, decide_eq_true (Int.le_trans laxer reaching)]
    rfl

namespace LogFolder

/-- The records in the file at a place, none if there is no file. -/
def recordsAt (folder : LogFolder) (place : Place) : List Record :=
  (folder.files.lookup place).getD []

/-- A file is there exactly if it is listed under its place. -/
theorem hasFile_iff (folder : LogFolder) (place : Place) :
    folder.hasFile place = true ↔ ∃ records, folder.files.lookup place = some records := by
  rw [hasFile]
  induction folder.files with
  | nil => simp
  | cons file files inductionHypothesis =>
    obtain ⟨other, records⟩ := file
    rw [List.any_cons, List.lookup_cons, Bool.or_eq_true, inductionHypothesis]
    by_cases same : place = other
    · simp [same]
    · have different : (place == other) = false := beq_eq_false_iff_ne.mpr same
      simp [different, Ne.symm same]

/-- A record is written to the file that is asked for, if that is there, and to no other. -/
theorem recordsAt_append (folder : LogFolder) (place other : Place) (record : Record)
    (there : folder.hasFile place = true) :
    (folder.append place record).recordsAt other =
      folder.recordsAt other ++ if place = other then [record] else [] := by
  have written : (folder.append place record).files.lookup other =
      (folder.files.lookup other).map fun records =>
        if other = place then records ++ [record] else records := by
    rw [append]
    induction folder.files with
    | nil => rfl
    | cons file files inductionHypothesis =>
      obtain ⟨first, records⟩ := file
      rw [List.map_cons, List.lookup_cons, List.lookup_cons, inductionHypothesis]
      by_cases asked : other = first
      · simp [asked]
      · have different : (other == first) = false := beq_eq_false_iff_ne.mpr asked
        rw [different]
  rw [recordsAt, recordsAt, written]
  by_cases same : place = other
  · obtain ⟨records, found⟩ := (folder.hasFile_iff place).mp there
    rw [← same, found]
    simp
  · simp [same, Ne.symm same]

/-- Writing to a file takes none away. -/
theorem hasFile_append (folder : LogFolder) (place other : Place) (record : Record) :
    (folder.append place record).hasFile other = folder.hasFile other := by
  rw [hasFile, hasFile, append, List.any_map]
  rfl

/-- Making folders does not touch the files. -/
theorem files_make (origin : Origin) (folder : LogFolder) (components : List String) :
    (make origin folder components).1.files = folder.files := by
  have settled (folder : LogFolder) (path : Path) (components : List String) :
      (folder.settle path (folder.makeOne path components)).1.files = folder.files := by
    cases outcome : folder.makeOne path components with
    | ok made =>
      obtain ⟨_, _, _, _, _, _, _, rfl⟩ := makeOne_eq_ok folder made path components outcome
      rfl
    | error trouble =>
      rw [settle]
      split <;> rfl
  induction components with
  | nil => rfl
  | cons last above inductionHypothesis =>
    rw [make]
    split
    · split
      · rename_i made
        rw [made] at inductionHypothesis
        exact inductionHypothesis
      · rename_i made
        rw [made] at inductionHypothesis
        exact (settled _ _ _).trans inductionHypothesis
    · exact settled folder _ _

/-- Opening a file writes nothing. -/
theorem recordsAt_openFile (folder : LogFolder) (path : Path) (other : Place) :
    (folder.openFile path).1.recordsAt other = folder.recordsAt other := by
  rw [openFile]
  split
  · dsimp only
    split
    · rfl
    · rw [recordsAt, recordsAt, List.lookup_append]
      cases folder.files.lookup other with
      | some records => rfl
      | none =>
        rw [List.lookup_cons]
        cases other == placeOf path <;> rfl
  · rfl

/-- A file that was opened is there, at the place that its path amounts to. -/
theorem hasFile_openFile (folder opened : LogFolder) (path : Path) (place : Place)
    (done : folder.openFile path = (opened, .ok place)) :
    place = placeOf path ∧ opened.hasFile place = true := by
  rw [openFile] at done
  split at done
  · dsimp only at done
    cases done
    refine ⟨rfl, ?_⟩
    split
    · assumption
    · simp [hasFile]
  · cases done

/-- Asking for a file writes nothing. -/
theorem recordsAt_request (folder : LogFolder) (path : Path) (other : Place) :
    (folder.request path).1.recordsAt other = folder.recordsAt other := by
  have making := files_make path.origin folder (path.components.reverse.drop 1)
  rw [request]
  split
  · rfl
  · split
    · rename_i made _ failed
      rw [failed] at making
      rw [recordsAt, recordsAt, making]
    · rename_i made done
      rw [done] at making
      rw [recordsAt_openFile, recordsAt, recordsAt, making]

/-- A file that was had is there, at the place that its path amounts to. -/
theorem hasFile_request (folder next : LogFolder) (path : Path) (place : Place)
    (done : folder.request path = (next, .ok place)) :
    place = placeOf path ∧ next.hasFile place = true := by
  rw [request] at done
  split at done
  · cases done
  · split at done
    · cases done
    · exact hasFile_openFile _ next path place done

/-- Where a file cannot be had, the files stay what they are. -/
theorem files_request (folder next : LogFolder) (path : Path) (error : LogFileError)
    (failed : folder.request path = (next, .error error)) : next.files = folder.files := by
  have making := files_make path.origin folder (path.components.reverse.drop 1)
  rw [request] at failed
  split at failed
  · cases failed
    rfl
  · split at failed
    · rename_i made _ failing
      rw [failing] at making
      cases failed
      exact making
    · rename_i made done
      rw [done] at making
      rw [openFile] at failed
      split at failed
      · cases failed
      · cases failed
        exact making

end LogFolder

namespace LogBook

/-- The place of the log file that settings ask for, if they ask for one. -/
def askedPlace (settings : Settings) : Option Place :=
  (askedFile settings).map LogFolder.placeOf

/-- A book that was set up as settings ask. -/
structure IsSetUpFor (settings : Settings) (book : LogBook) : Prop where
  /-- The threshold is the level of the settings. -/
  threshold : book.threshold = settings.logLevel.severity
  /-- Records of own loggers are written. -/
  isSetUp : book.isSetUp = true
  /-- They are written to the log file that is asked for. -/
  file : book.file = askedPlace settings
  /-- The file is there. -/
  there : ∀ place, book.file = some place → book.folder.hasFile place = true

/-- Of these records, a book delivers those that reach the level of settings, in order. -/
structure Delivered (settings : Settings) (book : LogBook) (records : List Record)
    (next : LogBook) : Prop where
  /-- They are passed on. -/
  passed : next.passed = book.passed ++ records.filter (Record.reaches settings.logLevel)
  /-- They are written to the console. -/
  console : next.console = book.console ++ records.filter (Record.reaches settings.logLevel)
  /-- They are written to the log file that is asked for, and nothing to any other. -/
  files : ∀ place, next.folder.recordsAt place = book.folder.recordsAt place ++
    if askedPlace settings = some place then records.filter (Record.reaches settings.logLevel)
    else []

/-- Without records nothing is delivered. -/
theorem Delivered.refl (settings : Settings) (book : LogBook) :
    Delivered settings book [] book :=
  ⟨by simp, by simp, by simp⟩

/-- A book that delivers records and then later ones delivers all of them. -/
theorem Delivered.trans {settings : Settings} {book next last : LogBook}
    {records later : List Record} (first : Delivered settings book records next)
    (second : Delivered settings next later last) :
    Delivered settings book (records ++ later) last := by
  constructor
  · rw [second.passed, first.passed, List.append_assoc, List.filter_append]
  · rw [second.console, first.console, List.append_assoc, List.filter_append]
  · intro place
    rw [second.files, first.files, List.append_assoc, List.filter_append]
    split <;> simp

/-- A book that was set up stays so when it receives an own record, and delivers it if it reaches
the level. -/
theorem receive_delivered (settings : Settings) (book : LogBook) (record : Record)
    (ready : book.IsSetUpFor settings) (own : record.IsOwn) :
    (book.receive record).IsSetUpFor settings ∧
      Delivered settings book [record] (book.receive record) := by
  have ownLogger : isOwnLogger record.logger = true := own
  have admitted : book.admits record.severity record.logger =
      record.reaches settings.logLevel := by
    rw [admits, if_pos ownLogger, ready.threshold, Record.reaches]
  have written : book.writes record.logger = true := by
    rw [writes, ready.isSetUp, ownLogger]
    rfl
  cases reaching : record.reaches settings.logLevel with
  | false =>
    have same : book.receive record = book := by simp [receive, admitted, reaching]
    rw [same]
    exact ⟨ready, by simp [reaching], by simp [reaching], by simp [reaching]⟩
  | true =>
    have next : book.receive record =
        { book with
          passed := book.passed ++ [record]
          console := book.console ++ [record]
          folder := book.inFile record } := by
      simp [receive, admitted, written, reaching]
    rw [next]
    refine ⟨⟨ready.threshold, ready.isSetUp, ready.file, ?_⟩, ?_, ?_, ?_⟩
    · intro place given
      have there := ready.there place given
      change (book.inFile record).hasFile place = true
      rw [inFile]
      split
      · rw [LogFolder.hasFile_append]
        exact there
      · exact there
    · simp [reaching]
    · simp [reaching]
    · intro place
      change (book.inFile record).recordsAt place = _
      rw [← ready.file, inFile]
      cases given : book.file with
      | none => simp
      | some file =>
        rw [LogFolder.recordsAt_append _ _ _ _ (ready.there file given)]
        simp [reaching]

/-- A book that was set up stays so when it receives own records, and delivers those that reach
the level. -/
theorem receiveAll_delivered (settings : Settings) (book : LogBook) (records : List Record)
    (ready : book.IsSetUpFor settings) (own : AllOwn records) :
    (book.receiveAll records).IsSetUpFor settings ∧
      Delivered settings book records (book.receiveAll records) := by
  induction records generalizing book with
  | nil => exact ⟨ready, Delivered.refl settings book⟩
  | cons record rest inductionHypothesis =>
    obtain ⟨readyNext, next⟩ :=
      receive_delivered settings book record ready (own record List.mem_cons_self)
    obtain ⟨readyLast, last⟩ := inductionHypothesis (book.receive record) readyNext
      fun other member => own other (List.mem_cons_of_mem _ member)
    exact ⟨readyLast, next.trans last⟩

/-- A book that is set up is set up as the settings ask. Nothing is delivered for that. -/
theorem setUp_delivered (book arranged : LogBook) (settings : Settings)
    (done : book.setUp settings = (arranged, .ok ())) :
    arranged.IsSetUpFor settings ∧ Delivered settings book [] arranged := by
  rw [setUp] at done
  split at done
  · rename_i missing
    cases done
    refine ⟨⟨rfl, rfl, ?_, ?_⟩, ?_, ?_, ?_⟩
    · rw [askedPlace, missing]
      rfl
    · intro place given
      cases given
    · simp [LogBook.arranged]
    · simp [LogBook.arranged]
    · simp [LogBook.arranged]
  · rename_i path asked
    split at done
    · cases done
    · rename_i folder file had
      cases done
      obtain ⟨atPlace, there⟩ := LogFolder.hasFile_request book.folder folder path file had
      have kept := book.folder.recordsAt_request path
      rw [had] at kept
      refine ⟨⟨rfl, rfl, ?_, ?_⟩, ?_, ?_, ?_⟩
      · rw [askedPlace, asked, atPlace]
        rfl
      · intro place given
        cases given
        exact there
      · simp [LogBook.arranged]
      · simp [LogBook.arranged]
      · simpa [LogBook.arranged] using kept

/-- Where a book cannot be set up, nothing but its folder changes and nothing is delivered; with
settings that differ in the level only, it could not be set up either. -/
theorem setUp_failed (book failed : LogBook) (settings other : Settings) (error : LogFileError)
    (sameSettings : settings.levelless = other.levelless)
    (failing : book.setUp settings = (failed, .error error)) :
    (∃ folder, failed = { book with folder } ∧ folder.files = book.folder.files) ∧
      book.setUp other = (failed, .error error) := by
  have asked : askedFile settings.levelless = askedFile other.levelless :=
    congrArg askedFile sameSettings
  change askedFile settings = askedFile other at asked
  rw [setUp, asked] at failing
  rw [setUp]
  split at failing
  · cases failing
  · split at failing
    · rename_i missed
      cases failing
      exact ⟨⟨_, rfl, LogFolder.files_request book.folder _ _ _ missed⟩, rfl⟩
    · cases failing

end LogBook

end BuildChronicle
