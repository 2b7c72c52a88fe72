import BuildChronicle.Artifact

/-!
# Versions with a build time

A version with a build time is put together from a stem, a dash, a date and a time of day with a
point between them, a dash and a build number; a line feed may follow. Reading such a version
backwards is no guess: the build number ends where the first character comes that is no digit,
and everything in front of it has a fixed length. So there is one stem at most, also where the
stem itself holds dashes, digits or what looks like another build time.

The main statement says what the base version of every version is, and that finding it once is
enough. Artifacts that differ in nothing but the build time share their identifier.
-/

namespace BuildChronicle

namespace Version

/-- When a snapshot was built: the date, the time of day, and the number of the build. -/
structure BuildTime where
  /-- The date. -/
  date : List Char
  /-- The time of day. -/
  time : List Char
  /-- The number of the build. -/
  number : List Char
  /-- Dates have eight digits. -/
  dated : date.length = 8
  /-- Times have six. -/
  timed : time.length = 6
  /-- Build numbers have at least one. -/
  numbered : number ≠ []
  /-- All three are written in digits of any script. -/
  digits : ∀ c ∈ date ++ time ++ number, Text.isDecimalDigit c = true

/-- How a build time is written behind the stem of a version. -/
def BuildTime.written (built : BuildTime) : List Char :=
  '-' :: built.date ++ '.' :: built.time ++ '-' :: built.number

/-- A version of a build: the stem and a build time, perhaps with a line feed at the end. No other
line feed stands in it. -/
def IsBuildOf (stem version : String) : Prop :=
  '\n' ∉ stem.toList ∧ ∃ built : BuildTime,
    version.toList = stem.toList ++ built.written ∨
      version.toList = stem.toList ++ built.written ++ ['\n']

section Reading

variable (text rest : List Char)

/-- Taking digits takes exactly so many digits and nothing else. -/
theorem takeDigits_eq_some_iff (count : Nat) :
    takeDigits count text = some rest ↔ ∃ digits, digits.length = count ∧
      (∀ c ∈ digits, Text.isDecimalDigit c = true) ∧ text = digits ++ rest := by
  induction count generalizing text with
  | zero => simp [takeDigits]
  | succ count inductionHypothesis =>
    cases text with
    | nil =>
      constructor
      · exact nofun
      · rintro ⟨digits, counted, -, written⟩
        obtain ⟨rfl, -⟩ := List.append_eq_nil_iff.mp written.symm
        cases counted
    | cons c text =>
      rw [takeDigits]
      constructor
      · intro taken
        split at taken
        · rename_i digit
          obtain ⟨digits, counted, allDigits, rfl⟩ := (inductionHypothesis text).mp taken
          exact ⟨c :: digits, by simp [counted], List.forall_mem_cons.mpr ⟨digit, allDigits⟩, rfl⟩
        · cases taken
      · rintro ⟨digits, counted, allDigits, written⟩
        cases digits with
        | nil => cases counted
        | cons first digits =>
          obtain ⟨rfl, rfl⟩ := List.cons.inj written
          rw [List.forall_mem_cons] at allDigits
          rw [if_pos allDigits.1]
          exact (inductionHypothesis _).mpr ⟨digits, Nat.succ.inj counted, allDigits.2, rfl⟩

/-- Taking a character takes that character. -/
theorem takeChar_eq_some_iff (expected : Char) :
    takeChar expected text = some rest ↔ text = expected :: rest := by
  cases text with
  | nil => simp [takeChar]
  | cons c text =>
    by_cases same : c = expected <;> simp [takeChar, same]

/-- A number in front of a dash is taken whole, since a dash is no digit. -/
theorem takeNumber_eq_some_iff :
    takeNumber text = some ('-' :: rest) ↔ ∃ number, number ≠ [] ∧
      (∀ c ∈ number, Text.isDecimalDigit c = true) ∧ text = number ++ '-' :: rest := by
  have dash : Text.isDecimalDigit '-' = false := by decide
  cases text with
  | nil => simp [takeNumber]
  | cons c text =>
    rw [takeNumber]
    constructor
    · intro taken
      split at taken
      · rename_i digit
        rw [Option.some.injEq] at taken
        refine ⟨c :: text.takeWhile Text.isDecimalDigit, List.cons_ne_nil _ _, ?_, ?_⟩
        · rw [List.forall_mem_cons]
          exact ⟨digit, List.all_eq_true.mp List.all_takeWhile⟩
        · rw [← taken, List.cons_append, List.takeWhile_append_dropWhile]
      · cases taken
    · rintro ⟨number, nonempty, allDigits, written⟩
      cases number with
      | nil => exact absurd rfl nonempty
      | cons first number =>
        rw [List.cons_append, List.cons.injEq] at written
        obtain ⟨rfl, rfl⟩ := written
        rw [List.forall_mem_cons] at allDigits
        rw [if_pos allDigits.1, List.dropWhile_append_of_pos allDigits.2,
          List.dropWhile_cons_of_neg (by simp [dash])]

/-- At most one line feed is ignored. -/
theorem skipLineFeed_cases : text = skipLineFeed text ∨ text = '\n' :: skipLineFeed text := by
  rw [skipLineFeed.eq_def]
  split
  · exact .inr rfl
  · exact .inl rfl

/-- A build time read backwards: first the number, last the dash behind the stem. -/
theorem BuildTime.backwards (built : BuildTime) :
    built.written.reverse ++ rest =
      built.number.reverse ++ '-' :: (built.time.reverse ++ '.' :: (built.date.reverse ++
        '-' :: rest)) := by
  simp [written]

/-- No line feed is ignored in front of a build time that is read backwards: it begins with a
digit. -/
theorem BuildTime.skipLineFeed_backwards (built : BuildTime) :
    skipLineFeed (built.written.reverse ++ rest) = built.written.reverse ++ rest := by
  have feed : Text.isDecimalDigit '\n' = false := by decide
  rcases skipLineFeed_cases (built.written.reverse ++ rest) with same | skipped
  · exact same.symm
  · rw [built.backwards] at skipped
    cases backwards : built.number.reverse with
    | nil => exact absurd (List.reverse_eq_nil_iff.mp backwards) built.numbered
    | cons last others =>
      rw [backwards, List.cons_append, List.cons.injEq] at skipped
      have member : last ∈ built.number := by
        rw [← List.mem_reverse, backwards]
        exact List.mem_cons_self
      have digit := built.digits last (List.mem_append_right _ member)
      rw [skipped.1, feed] at digit
      cases digit

/-- What is found before a build time is the text in front of it, if no line feed stands there. -/
theorem beforeBuildTime?_written (built : BuildTime) (fed : '\n' ∉ rest) :
    beforeBuildTime? (built.written.reverse ++ rest) = some rest := by
  have digits := built.digits
  simp only [List.forall_mem_append] at digits
  obtain ⟨⟨date, time⟩, number⟩ := digits
  have numberTaken := fun rest => (takeNumber_eq_some_iff _ rest).mpr ⟨built.number.reverse,
    mt List.reverse_eq_nil_iff.mp built.numbered, by simpa using number, rfl⟩
  have timeTaken := fun rest => (takeDigits_eq_some_iff _ rest 6).mpr
    ⟨built.time.reverse, by simp [built.timed], by simpa using time, rfl⟩
  have dateTaken := fun rest => (takeDigits_eq_some_iff _ rest 8).mpr
    ⟨built.date.reverse, by simp [built.dated], by simpa using date, rfl⟩
  rw [beforeBuildTime?, built.skipLineFeed_backwards, built.backwards, numberTaken]
  simp [takeChar, timeTaken, dateTaken, fed]

/-- Whatever is found stands in front of a build time, and no line feed stands in it. -/
theorem written_of_beforeBuildTime? (found : beforeBuildTime? text = some rest) :
    '\n' ∉ rest ∧ ∃ built : BuildTime, skipLineFeed text = built.written.reverse ++ rest := by
  simp only [beforeBuildTime?, Option.bind_eq_bind, Option.bind_eq_some_iff,
    takeChar_eq_some_iff] at found
  obtain ⟨_, numberTaken, _, rfl, _, timeTaken, _, rfl, _, dateTaken, _, rfl, kept⟩ := found
  obtain ⟨number, numbered, numberDigits, written⟩ := (takeNumber_eq_some_iff _ _).mp numberTaken
  obtain ⟨time, timed, timeDigits, rfl⟩ := (takeDigits_eq_some_iff _ _ _).mp timeTaken
  obtain ⟨date, dated, dateDigits, rfl⟩ := (takeDigits_eq_some_iff _ _ _).mp dateTaken
  split at kept
  · cases kept
  · rename_i fed
    cases kept
    refine ⟨by simpa using fed, ⟨date.reverse, time.reverse, number.reverse, by simp [dated],
      by simp [timed], by simp [numbered], ?_⟩, ?_⟩
    · simp only [List.forall_mem_append, List.mem_reverse]
      exact ⟨⟨dateDigits, timeDigits⟩, numberDigits⟩
    · rw [BuildTime.backwards, written]
      simp

end Reading

section Folding

variable (stem other version : String)

/-- The stem that is found of a version is the one it is a build of. -/
theorem stem?_eq_some_iff : stem? version = some stem ↔ IsBuildOf stem version := by
  rw [stem?, Option.map_eq_some_iff]
  constructor
  · rintro ⟨text, found, rfl⟩
    obtain ⟨fed, built, written⟩ := written_of_beforeBuildTime? _ _ found
    refine ⟨by simpa using fed, built, ?_⟩
    have forwards := congrArg List.reverse written
    rw [List.reverse_append, List.reverse_reverse] at forwards
    rw [String.toList_ofList, ← forwards]
    rcases skipLineFeed_cases version.toList.reverse with same | skipped
    · left
      rw [← same, List.reverse_reverse]
    · right
      rw [← List.reverse_cons, ← skipped, List.reverse_reverse]
  · rintro ⟨fed, built, written⟩
    have found := beforeBuildTime?_written stem.toList.reverse built (by simpa using fed)
    refine ⟨stem.toList.reverse, ?_, by simp⟩
    rcases written with written | written
    · rw [written, List.reverse_append, found]
    · rw [written, List.reverse_append, List.reverse_append]
      -- Only the line feed in front of what is read backwards is to be ignored.
      rw [beforeBuildTime?] at found ⊢
      rw [built.skipLineFeed_backwards] at found
      exact found

/-- A version is a build of one stem at most. -/
theorem isBuildOf_unique (build : IsBuildOf stem version) (otherwise : IsBuildOf other version) :
    other = stem := by
  rw [← stem?_eq_some_iff] at build otherwise
  exact Option.some.inj (otherwise.symm.trans build)

/-- The base version of a build is the stem with the word for snapshots behind it. -/
theorem base_of_isBuildOf (build : IsBuildOf stem version) :
    base version = stem ++ snapshotEnding := by
  rw [← stem?_eq_some_iff] at build
  rw [base, build]

/-- A version without a build time is its own base version. -/
theorem base_untimed (untimed : stem? version = none) : base version = version := by
  rw [base, untimed]

/-- A version that is no build of anything is its own base version. -/
theorem base_of_not_isBuildOf (unbuilt : ∀ stem, ¬ IsBuildOf stem version) :
    base version = version := by
  cases found : stem? version with
  | none => exact base_untimed version found
  | some stem => exact absurd ((stem?_eq_some_iff stem version).mp found) (unbuilt stem)

/-- A version that ends like those under development ends in the word. -/
theorem isSnapshot_of_ends (ends : endsAsSnapshot version = true) : isSnapshot version = true := by
  rw [endsAsSnapshot, List.isSuffixOf_iff_suffix] at ends
  rw [isSnapshot, List.isSuffixOf_iff_suffix]
  have word : snapshotWord.toList <:+ snapshotEnding.toList := by decide
  exact word.trans ends

/-- Where a build time stands, the word does not: one ends in a digit and the other does not. -/
theorem isSnapshot_of_timed (timed : (stem? version).isSome = true) :
    isSnapshot version = false := by
  rw [Bool.eq_false_iff]
  intro snapshot
  rw [isSnapshot, List.isSuffixOf_iff_suffix] at snapshot
  obtain ⟨front, written⟩ := snapshot
  have backwards : version.toList.reverse = 'T' :: ("SNAPSHO".toList.reverse ++ front.reverse) := by
    rw [← written]
    simp [snapshotWord]
  have untimed : stem? version = none := by
    rw [stem?, backwards]
    have noDigit : Text.isDecimalDigit 'T' = false := by decide
    simp [beforeBuildTime?, skipLineFeed, takeNumber, noDigit]
  rw [untimed] at timed
  cases timed

/-- A base version denotes a snapshot if the version carries a build time or ends in the word. -/
theorem isSnapshot_base :
    isSnapshot (base version) = ((stem? version).isSome || isSnapshot version) := by
  rw [base]
  cases stem? version with
  | none => rfl
  | some stem =>
    have marked : endsAsSnapshot (stem ++ snapshotEnding) = true := by
      rw [endsAsSnapshot, List.isSuffixOf_iff_suffix, String.toList_append]
      exact List.suffix_append _ _
    simpa using isSnapshot_of_ends _ marked

/-- A base version is its own base version: no build time is left in it. -/
theorem base_base : base (base version) = base version := by
  cases found : stem? version with
  | none => rw [base_untimed version found, base_untimed version found]
  | some stem =>
    apply base_untimed
    have snapshot : isSnapshot (base version) = true := by
      rw [isSnapshot_base, found]
      rfl
    cases again : stem? (base version) with
    | none => rfl
    | some other =>
      have denied := isSnapshot_of_timed (base version) (by rw [again, Option.isSome_some])
      rw [snapshot] at denied
      cases denied

end Folding

end Version

namespace Artifact

open Version

/-- Do two artifacts agree in group, name, type and classifier? -/
structure SharesCoordinates (artifact other : Artifact) : Prop where
  /-- The groups are the same. -/
  groupId : other.groupId = artifact.groupId
  /-- The names are the same. -/
  artifactId : other.artifactId = artifact.artifactId
  /-- The types are the same. -/
  type : other.type = artifact.type
  /-- The classifiers are the same. -/
  classifier : other.classifier = artifact.classifier

/-- Artifacts that agree in these and in the base version have the same identifier. -/
theorem id_eq (artifact other : Artifact) (shared : artifact.SharesCoordinates other)
    (base : other.baseVersion = artifact.baseVersion) : other.id = artifact.id := by
  simp only [id, effectiveClassifier, shared.groupId, shared.artifactId, shared.type,
    shared.classifier, base]

/-- An artifact that is given no base version has the one of its version. It exists for every
version. If the version is a build of a stem, that stem is the only one, the base version is the
stem with `-SNAPSHOT` behind it, and the artifact is a snapshot; all other versions are their own
base versions. The base version of a base version is that base version. Artifacts with the same
coordinates whose versions are builds of one stem have the same identifier. -/
theorem baseVersion_folded (version : String) :
    ∃ base, baseFor none (some version) = .ok base ∧
      (∀ stem, IsBuildOf stem version →
        (∀ other, IsBuildOf other version → other = stem) ∧ base = stem ++ "-SNAPSHOT") ∧
      ((∀ stem, ¬ IsBuildOf stem version) → base = version) ∧
      baseFor none (some base) = .ok base ∧
      ∀ artifact : Artifact, artifact.version = some version → artifact.baseVersion = base →
        ∀ stem, IsBuildOf stem version → artifact.isSnapshot = true ∧
          ∀ (other : Artifact) (otherVersion : String), other.version = some otherVersion →
            baseFor none other.version = .ok other.baseVersion → IsBuildOf stem otherVersion →
            artifact.SharesCoordinates other → other.id = artifact.id := by
  refine ⟨base version, rfl, ?_, base_of_not_isBuildOf version, ?_, ?_⟩
  · intro stem build
    exact ⟨fun other => isBuildOf_unique stem other version build,
      base_of_isBuildOf stem version build⟩
  · exact congrArg Except.ok (base_base version)
  · intro artifact versioned based stem build
    constructor
    · rw [isSnapshot, based, isSnapshot_base, (stem?_eq_some_iff stem version).mpr build]
      rfl
    · intro other otherVersion otherVersioned otherBased otherBuild shared
      apply id_eq artifact other shared
      rw [otherVersioned] at otherBased
      rw [based, ← Except.ok.inj otherBased, base_of_isBuildOf stem version build,
        base_of_isBuildOf stem otherVersion otherBuild]

/-- A build of a version that looks like a build itself: only the last build time is left out. -/
theorem baseVersion_folded_twice :
    let version := "2.1-20230101.000000-1-20231115.101112-42\n"
    IsBuildOf "2.1-20230101.000000-1" version ∧
      baseFor none (some version) = .ok "2.1-20230101.000000-1-SNAPSHOT" ∧
      baseFor none (some "2.1-20230101.000000-1-SNAPSHOT") =
        .ok "2.1-20230101.000000-1-SNAPSHOT" := by
  intro version
  let built : BuildTime := {
    date := "20231115".toList
    time := "101112".toList
    number := "42".toList
    dated := by decide
    timed := by decide
    numbered := by decide
    digits := List.all_eq_true.mp (by decide) }
  have build : IsBuildOf "2.1-20230101.000000-1" version := by
    refine ⟨by decide, built, .inr ?_⟩
    decide +kernel
  obtain ⟨base, based, folded, -, again, -⟩ := baseVersion_folded version
  obtain ⟨-, same⟩ := folded _ build
  have expected : base = "2.1-20230101.000000-1-SNAPSHOT" := by
    rw [same]
    decide +kernel
  rw [expected] at based again
  exact ⟨build, based, again⟩

end Artifact

end BuildChronicle
