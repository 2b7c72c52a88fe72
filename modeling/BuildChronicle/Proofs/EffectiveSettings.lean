import BuildChronicle.Proofs.AdoptedVariables
import BuildChronicle.Proofs.NamedLevels

/-!
# Settings by the variables that count

What the settings are, or that there are none, depends only on what three variables are set to
when the settings are read, and each of them is set to what counts for it: its value in the
environment, else its last one in the file. An empty switch is a word like any other, whereas an
empty level or file name is none.

All of this is shown for any library that tells truth values and for any that adds the variables
of a file to those of the environment. Loading leaves variables of the file behind in the
environment. It settles what a second loading of the same file finds, but not what it makes of
it.
-/

namespace BuildChronicle

namespace Settings

/-- The switch that a variable stands for, given the truth values of words: it is off if the
variable is not set. -/
inductive Switch (truthOf? : String → Option Bool) : Option String → Bool → Prop where
  /-- The variable is not set. -/
  | unset : Switch truthOf? none false
  /-- It is set to a word for a truth value. -/
  | word (word : String) (truth : Bool) (known : truthOf? word = some truth) :
    Switch truthOf? (some word) truth

/-- The level that a variable stands for. -/
inductive Threshold : Option String → Level → Prop where
  /-- The variable is not set. -/
  | unset : Threshold none .info
  /-- It is set to nothing. -/
  | empty : Threshold (some "") .info
  /-- It is set to the name of the level, in any case. -/
  | named (given : String) (level : Level) (nonempty : given ≠ "")
    (known : level.NamedBy given) : Threshold (some given) level

/-- The log file that a variable stands for. -/
inductive Destination : Option String → Option String → Prop where
  /-- The variable is not set. -/
  | unset : Destination none none
  /-- It is set to nothing. -/
  | empty : Destination (some "") none
  /-- It is set to the name of the file. -/
  | named (file : String) (nonempty : file ≠ "") : Destination (some file) (some file)

/-- The settings that variables with these values stand for. -/
structure StandFor (truthOf? : String → Option Bool) (value? : String → Option String)
    (settings : Settings) : Prop where
  /-- The switch. -/
  disabled : Switch truthOf? (value? "MAVEN_SPY_DISABLED") settings.disabled
  /-- The level. -/
  logLevel : Threshold (value? "LOG_LEVEL") settings.logLevel
  /-- The file. -/
  logFile : Destination (value? "LOG_FILE") settings.logFile

/-- A switch that is set to a word for no truth value, perhaps the empty word. -/
def WrongSwitch (truthOf? : String → Option Bool) (value : Option String) : Prop :=
  ∃ word, value = some word ∧ truthOf? word = none

/-- A level that is set to a text, not an empty one, that names none in any case. -/
def WrongLevel (value : Option String) : Prop :=
  ∃ given, value = some given ∧ given ≠ "" ∧ ∀ level : Level, ¬ level.NamedBy given

/-- The values of the variables decide what loading settings comes to. -/
structure DecidedBy (truthOf? : String → Option Bool) (value? : String → Option String)
    (outcome : Except LoadError Settings) : Prop where
  /-- The settings are refused exactly if the switch or the level is wrong. -/
  refused : (∃ complaints, outcome = .error (.invalid complaints)) ↔
    WrongSwitch truthOf? (value? "MAVEN_SPY_DISABLED") ∨ WrongLevel (value? "LOG_LEVEL")
  /-- Otherwise they are what the variables stand for. -/
  accepted :
    ¬ (WrongSwitch truthOf? (value? "MAVEN_SPY_DISABLED") ∨ WrongLevel (value? "LOG_LEVEL")) →
      ∃ settings, outcome = .ok settings ∧ StandFor truthOf? value? settings

section Readings

variable (truthOf? : String → Option Bool)

/-- A switch is read as what it stands for, unless it is wrong. -/
theorem readOr_switch (value : Option String) :
    (∃ truth, readOr false (readTruth truthOf?) (value.map Value.text) = .ok truth ∧
      Switch truthOf? value truth ∧ ¬ WrongSwitch truthOf? value) ∨
    ∃ complaint, readOr false (readTruth truthOf?) (value.map Value.text) = .error complaint ∧
      WrongSwitch truthOf? value := by
  cases value with
  | none => exact .inl ⟨false, rfl, .unset, nofun⟩
  | some word =>
    rw [Option.map_some, readOr, readTruth]
    cases known : truthOf? word with
    | none => exact .inr ⟨.notTruthWord, rfl, word, rfl, known⟩
    | some truth =>
      refine .inl ⟨truth, rfl, .word word truth known, ?_⟩
      rintro ⟨_, same, unknown⟩
      cases same
      cases known.symm.trans unknown

/-- A text that is not empty counts as given. -/
theorem filter_nonempty (text : String) (nonempty : text ≠ "") :
    (some text).filter (· != "") = some text := by
  rw [Option.filter_some, if_pos (bne_iff_ne.mpr nonempty)]

/-- A level that is not empty is read as the one it names, unless it is wrong. -/
theorem readOr_level (value : Option String) :
    (∃ level, readOr .info readLevel ((value.filter (· != "")).map Value.text) = .ok level ∧
      Threshold value level ∧ ¬ WrongLevel value) ∨
    ∃ complaint, readOr .info readLevel ((value.filter (· != "")).map Value.text) =
      .error complaint ∧ WrongLevel value := by
  cases value with
  | none => exact .inl ⟨.info, rfl, .unset, nofun⟩
  | some given =>
    by_cases nonempty : given = ""
    · subst nonempty
      refine .inl ⟨.info, rfl, .empty, ?_⟩
      rintro ⟨_, same, nonempty, _⟩
      cases same
      exact nonempty rfl
    · rw [filter_nonempty given nonempty, Option.map_some, readOr, readLevel]
      cases known : Level.ofName? (Text.capitals given) with
      | none =>
        have unnamed := (Level.ofName?_capitals_eq_none_iff given).mp known
        exact .inr ⟨_, rfl, given, rfl, nonempty, unnamed⟩
      | some level =>
        have named := (Level.ofName?_capitals_eq_some_iff given level).mp known
        refine .inl ⟨level, rfl, .named given level nonempty named, ?_⟩
        rintro ⟨_, same, _, unknown⟩
        cases same
        exact unknown level named

/-- A file name that is not empty is read as it is. -/
theorem readOr_file (value : Option String) :
    ∃ file, readOr none readFile ((value.filter (· != "")).map Value.text) = .ok file ∧
      Destination value file := by
  cases value with
  | none => exact ⟨none, rfl, .unset⟩
  | some file =>
    by_cases nonempty : file = ""
    · subst nonempty
      exact ⟨none, rfl, .empty⟩
    · rw [filter_nonempty file nonempty]
      exact ⟨some file, rfl, .named file nonempty⟩

variable (environment : Environment)

/-- Each setting is given the value of its variable, the level and the file only if they are not
empty. -/
theorem get?_given :
    (given environment).get? "disabled" =
        (environment.get? "MAVEN_SPY_DISABLED").map Value.text ∧
      (given environment).get? "log_level" =
        ((environment.get? "LOG_LEVEL").filter (· != "")).map Value.text ∧
      (given environment).get? "log_file" =
        ((environment.get? "LOG_FILE").filter (· != "")).map Value.text := by
  simp only [given, nonEmpty?, Table.get?_ofList]
  cases environment.get? "MAVEN_SPY_DISABLED" <;>
    cases (environment.get? "LOG_LEVEL").filter (· != "") <;>
    cases (environment.get? "LOG_FILE").filter (· != "") <;>
    simp [List.lookup_cons]

/-- What the settings of an environment are is decided by its own variables. -/
theorem read_given :
    DecidedBy truthOf? environment.get?
      ((readBy truthOf? (given environment)).mapError .invalid) := by
  obtain ⟨givenSwitch, givenLevel, givenFile⟩ := get?_given environment
  obtain ⟨logFile, fileRead, file⟩ := readOr_file (environment.get? "LOG_FILE")
  rw [readBy, givenSwitch, givenLevel, givenFile, fileRead]
  rcases readOr_switch truthOf? (environment.get? "MAVEN_SPY_DISABLED") with
    ⟨disabled, switchRead, switch, rightSwitch⟩ | ⟨complaint, switchRead, wrongSwitch⟩
  · rcases readOr_level (environment.get? "LOG_LEVEL") with
      ⟨logLevel, levelRead, level, rightLevel⟩ | ⟨complaint, levelRead, wrongLevel⟩
    · rw [switchRead, levelRead]
      exact ⟨⟨nofun, fun wrong => (wrong.elim rightSwitch rightLevel).elim⟩,
        fun _ => ⟨⟨disabled, logLevel, logFile⟩, rfl, ⟨switch, level, file⟩⟩⟩
    · rw [switchRead, levelRead]
      exact ⟨⟨fun _ => .inr wrongLevel, fun _ => ⟨_, rfl⟩⟩,
        fun right => (right (.inr wrongLevel)).elim⟩
  · rw [switchRead]
    exact ⟨⟨fun _ => .inl wrongSwitch, fun _ => ⟨_, rfl⟩⟩,
      fun right => (right (.inl wrongSwitch)).elim⟩

/-- Environments with the same variables give the same to the settings. -/
theorem given_congr (first second : Environment)
    (same : ∀ name, first.get? name = second.get? name) : given first = given second := by
  simp only [given, nonEmpty?, same]

end Readings

section Loading

variable {libraries : Libraries} {environment : Environment} {file : Option String}
  {bindings again : List (String × Option String)}

/-- Loading settings leaves the environment that loading the file leaves. -/
theorem environment_loadWith :
    (loadWith libraries environment file).1 = (libraries.loadFile environment file).1 := by
  rw [loadWith]
  cases libraries.loadFile environment file with
  | mk after outcome => cases outcome <;> rfl

/-- Settings are read from that environment. -/
theorem outcome_loadWith (adds : libraries.Adds environment file bindings) :
    (loadWith libraries environment file).2 =
      (readBy libraries.truthOf?
        (given (libraries.loadFile environment file).1)).mapError .invalid := by
  have loaded : libraries.loadFile environment file =
      ((libraries.loadFile environment file).1, .ok ()) := Prod.ext rfl adds.done
  rw [loadWith, loaded]

/-- The values that count decide what loading comes to. -/
theorem loadWith_decided (adds : libraries.Adds environment file bindings) :
    DecidedBy libraries.truthOf? (effective? environment bindings)
      (loadWith libraries environment file).2 := by
  have counts : (libraries.loadFile environment file).1.get? = effective? environment bindings :=
    funext adds.get?_after
  rw [outcome_loadWith adds, ← counts]
  exact read_given libraries.truthOf? (libraries.loadFile environment file).1

/-- Loading the same file again comes to the same. -/
theorem loadWith_again (adds : libraries.Adds environment file bindings)
    (addsAgain : libraries.Adds (loadWith libraries environment file).1 file again)
    (within : BindsWithin again bindings) :
    (loadWith libraries (loadWith libraries environment file).1 file).2 =
      (loadWith libraries environment file).2 := by
  rw [outcome_loadWith addsAgain, outcome_loadWith adds]
  rw [environment_loadWith] at addsAgain ⊢
  rw [given_congr _ _ (adds.get?_again addsAgain within)]

end Loading

/-- With the known libraries settings are loaded like this, if the process can have the variables
of the file, and loaded again they come to the same. -/
theorem loadFrom_decided (environment : Environment) (file : Option String)
    (adoptable : Adoptable environment file) :
    DecidedBy truthOfWord? (effective? environment (bindingsOf environment file))
        (loadFrom environment file) ∧
      loadFrom (loadWith .known environment file).1 file = loadFrom environment file := by
  have adds := known_adds environment file adoptable
  refine ⟨loadWith_decided adds, loadWith_again adds ?_ (bindsWithin_again environment file)⟩
  rw [environment_loadWith]
  exact known_adds_again environment file adoptable

/-- What loading settings comes to is decided by the values that count: those of the environment,
even empty ones, else the last ones that the file gives. Loading leaves these values behind as
variables, and loading the file again comes to the same, although it may give other values then,
as its references are resolved in what the first loading left. -/
theorem load_decided (libraries : Libraries) (environment : Environment) (file : Option String)
    (bindings : List (String × Option String))
    (adds : libraries.Adds environment file bindings) :
    (∀ name, (loadWith libraries environment file).1.get? name =
        effective? environment bindings name) ∧
      DecidedBy libraries.truthOf? (effective? environment bindings)
        (loadWith libraries environment file).2 ∧
      ∀ again, libraries.Adds (loadWith libraries environment file).1 file again →
        BindsWithin again bindings →
          (loadWith libraries (loadWith libraries environment file).1 file).2 =
            (loadWith libraries environment file).2 := by
  refine ⟨?_, loadWith_decided adds, fun again => loadWith_again adds⟩
  rw [environment_loadWith]
  exact adds.get?_after

/-- An environment in which the log file is set to nothing. -/
def fileless : Environment := Table.ofList [("LOG_FILE", "")]

/-- A file that names a log file in vain, and whose switch refers to a variable that is bound to a
truth value before and to the other one after it. -/
def wavering : String :=
  "A=off\nMAVEN_SPY_DISABLED=$\x7bA\x7d\nA=on\nLOG_LEVEL=debug\nLOG_FILE=spy.log\n"

/-- The switch is off and stays off, although the file says that it is on when it is read again. -/
theorem load_decided_wavering :
    let first := loadWith .known fileless (some wavering)
    let before := bindingsOf fileless (some wavering)
    let again := bindingsOf first.1 (some wavering)
    Libraries.known.Adds fileless (some wavering) before ∧
      Libraries.known.Adds first.1 (some wavering) again ∧ BindsWithin again before ∧
      bound? before "MAVEN_SPY_DISABLED" = some "off" ∧
      bound? again "MAVEN_SPY_DISABLED" = some "on" ∧
      first.2.toOption = some ⟨false, .debug, none⟩ ∧
      (loadWith .known first.1 (some wavering)).2.toOption = some ⟨false, .debug, none⟩ := by
  intro first before again
  have adoptable : Adoptable fileless (some wavering) :=
    adoptable_of_forall fileless (some wavering) (by decide +kernel)
  have adds : Libraries.known.Adds fileless (some wavering) before :=
    known_adds fileless (some wavering) adoptable
  have left : first.1 = (loadFile fileless (some wavering)).1 := environment_loadWith
  have addsAgain : Libraries.known.Adds first.1 (some wavering) again := by
    have readAgain := known_adds_again fileless (some wavering) adoptable
    rwa [← left] at readAgain
  have within : BindsWithin again before := by
    have fewer := bindsWithin_again fileless (some wavering)
    rwa [← left] at fewer
  have loaded : first.2.toOption = some ⟨false, .debug, none⟩ := by decide +kernel
  obtain ⟨_, _, same⟩ := load_decided .known fileless (some wavering) before adds
  refine ⟨adds, addsAgain, within, by decide +kernel, by decide +kernel, loaded, ?_⟩
  rw [same again addsAgain within]
  exact loaded

end Settings

end BuildChronicle
