import BuildChronicle.Handler.Standard
import BuildChronicle.Project.Descriptor
import BuildChronicle.Proofs.ArtifactIdentity
import BuildChronicle.Proofs.Offers

/-!
# Goals and plugins told apart by their keys

A key joins fields with colons, and the fields of what is delivered may hold colons themselves.
Still no wrong fields can be passed off as the right ones: a key without colons in its fields has
as few colons as a key can have, and any field with a colon in it would put one more into the
joined text. So a key of this kind is cut in one way only, and it is matched field by field.
-/

namespace BuildChronicle

namespace Text

/-- A joined text has the separators of its fields, and one between any two neighbours. -/
theorem count_join (separator : Char) (fields : List (List Char)) (some : fields ≠ []) :
    (join separator fields).count separator + 1 =
      fields.flatten.count separator + fields.length := by
  induction fields with
  | nil => exact absurd rfl some
  | cons field others inductionHypothesis =>
    cases others with
    | nil => simp [join]
    | cons other more =>
      have later := inductionHypothesis (List.cons_ne_nil other more)
      rw [join, List.count_append, List.count_cons_self, List.flatten_cons, List.count_append,
        List.length_cons]
      omega

/-- Fields that are joined to the same text as equally many fields without separators have no
separators either. -/
theorem separator_not_mem_of_join (separator : Char) (fields whole : List (List Char))
    (nonempty : whole ≠ []) (many : fields.length = whole.length)
    (unseparated : ∀ field ∈ whole, separator ∉ field)
    (same : join separator fields = join separator whole) :
    ∀ field ∈ fields, separator ∉ field := by
  have some : fields ≠ [] := by
    rintro rfl
    exact nonempty (List.length_eq_zero_iff.mp many.symm)
  have none : whole.flatten.count separator = 0 := by
    rw [List.count_eq_zero, List.mem_flatten]
    rintro ⟨field, member, separated⟩
    exact unseparated field member separated
  have counted := count_join separator fields some
  rw [same, count_join separator whole nonempty, none] at counted
  have uncounted : fields.flatten.count separator = 0 := by omega
  rw [List.count_eq_zero] at uncounted
  intro field member separated
  exact uncounted (List.mem_flatten_of_mem member separated)

/-- Equally many texts are joined to a text that was joined from texts without the character
between them only if they are those texts. They may hold the character themselves. -/
theorem interpose_eq_iff (between : Char) (parts whole : List String) (nonempty : whole ≠ [])
    (many : parts.length = whole.length) (unseparated : ∀ part ∈ whole, between ∉ part.toList) :
    interpose (String.ofList [between]) parts = interpose (String.ofList [between]) whole ↔
      parts = whole := by
  constructor
  · intro same
    have some : parts ≠ [] := by
      rintro rfl
      exact nonempty (List.length_eq_zero_iff.mp many.symm)
    have joined : join between (parts.map String.toList) =
        join between (whole.map String.toList) := by
      rw [← toList_interpose, ← toList_interpose, same]
    have unseparatedToo := separator_not_mem_of_join between _ _ (by simpa using nonempty)
      (by simpa using many) (by simpa using unseparated) joined
    exact (interpose_inj between parts whole some nonempty (by simpa using unseparatedToo)
      unseparated).mp same
  · rintro rfl
    rfl

end Text

/-- All fields that the key of a plugin goal joins are there. -/
structure MojoExecution.IsGiven (mojo : MojoExecution) : Prop where
  /-- The group is known. -/
  groupId : mojo.groupId.isSome = true
  /-- So is the plugin's name within it. -/
  artifactId : mojo.artifactId.isSome = true
  /-- So is the goal. -/
  goal : mojo.goal.isSome = true

/-- All fields that the key of a plugin joins are there. -/
structure Plugin.IsGiven (plugin : Plugin) : Prop where
  /-- The group is known. -/
  groupId : plugin.groupId.isSome = true
  /-- So is the name within it. -/
  artifactId : plugin.artifactId.isSome = true

/-- A key of three fields without colons is the key of a plugin goal only if the goal has these
fields. -/
theorem MojoExecution.key_eq_iff (mojo : MojoExecution) (given : mojo.IsGiven)
    (group name goal : String) (groupWhole : ':' ∉ group.toList) (nameWhole : ':' ∉ name.toList)
    (goalWhole : ':' ∉ goal.toList) :
    mojo.key = group ++ ":" ++ name ++ ":" ++ goal ↔
      mojo.groupId = some group ∧ mojo.artifactId = some name ∧ mojo.goal = some goal := by
  obtain ⟨ownGroup, grouped⟩ := Option.isSome_iff_exists.mp given.groupId
  obtain ⟨ownName, named⟩ := Option.isSome_iff_exists.mp given.artifactId
  obtain ⟨ownGoal, aimed⟩ := Option.isSome_iff_exists.mp given.goal
  have law := Text.interpose_eq_iff ':' [ownGroup, ownName, ownGoal] [group, name, goal]
    (by simp) rfl (by simp [groupWhole, nameWhole, goalWhole])
  simpa [key, grouped, named, aimed, Text.orMissing, Text.interpose, String.append_assoc] using law

/-- A key of two fields without colons is the key of a plugin only if the plugin has these
fields. -/
theorem Plugin.key_eq_iff (plugin : Plugin) (given : plugin.IsGiven) (group name : String)
    (groupWhole : ':' ∉ group.toList) (nameWhole : ':' ∉ name.toList) :
    plugin.key = group ++ ":" ++ name ↔
      plugin.groupId = some group ∧ plugin.artifactId = some name := by
  obtain ⟨ownGroup, grouped⟩ := Option.isSome_iff_exists.mp given.groupId
  obtain ⟨ownName, named⟩ := Option.isSome_iff_exists.mp given.artifactId
  have law := Text.interpose_eq_iff ':' [ownGroup, ownName] [group, name] (by simp) rfl
    (by simp [groupWhole, nameWhole])
  simpa [key, grouped, named, Text.orMissing, Text.interpose, String.append_assoc] using law

/-- The key of the flatten plugin joins its group and its name. -/
theorem Descriptor.flattenPlugin_eq :
    flattenPlugin = "org.codehaus.mojo" ++ ":" ++ "flatten-maven-plugin" := by
  decide +kernel

/-- Keys cannot be spoofed. Where no field of a key holds a colon, a plugin goal with any texts as
its fields has this key only if the fields are the same one by one. So a handler that declares the
key as its goal accepts the goal of an event of its kind exactly if all three fields are the right
ones, and a plugin counts as the flatten plugin exactly if its group and its name are. -/
theorem Handler.accepts_fields (group name goal : String) (groupWhole : ':' ∉ group.toList)
    (nameWhole : ':' ∉ name.toList) (goalWhole : ':' ∉ goal.toList) :
    (∀ mojo : MojoExecution, mojo.IsGiven →
      (mojo.key = group ++ ":" ++ name ++ ":" ++ goal ↔
        mojo.groupId = some group ∧ mojo.artifactId = some name ∧ mojo.goal = some goal)) ∧
    (∀ (handler : Handler) (event : ExecutionEvent) (mojo : MojoExecution),
      handler.MatchesGoal → handler.goal? = some (some (group ++ ":" ++ name ++ ":" ++ goal)) →
      event.mojoExecution = some mojo → mojo.IsGiven →
      ∃ accepted, handler.accepts (.execution event) = .ok accepted ∧
        (accepted = true ↔ handler.fitsKind (.execution event) = true ∧
          mojo.groupId = some group ∧ mojo.artifactId = some name ∧ mojo.goal = some goal)) ∧
    ∀ plugin : Plugin, plugin.IsGiven →
      (plugin.key = Descriptor.flattenPlugin ↔
        plugin.groupId = some "org.codehaus.mojo" ∧
          plugin.artifactId = some "flatten-maven-plugin") ∧
      Descriptor.pluginSetting? plugin =
        if plugin.groupId = some "org.codehaus.mojo" ∧
            plugin.artifactId = some "flatten-maven-plugin" then
          plugin.executions.findSome? Descriptor.executionSetting? <|>
            Descriptor.settingIn? plugin.configuration
        else none := by
  have keyed (mojo : MojoExecution) (given : mojo.IsGiven) :=
    mojo.key_eq_iff given group name goal groupWhole nameWhole goalWhole
  refine ⟨keyed, ?_, ?_⟩
  · intro handler event mojo matchesGoal declared executed given
    have asked : (Event.execution event).mojoExecution? = some (some mojo) :=
      congrArg some executed
    refine ⟨_, Dispatcher.accepts_qualified _ handler _ matchesGoal declared _ asked, ?_⟩
    rw [Bool.and_eq_true, beq_iff_eq, Event.goal?_execution, executed, Option.map_some,
      Option.some_inj, keyed mojo given]
  · intro plugin given
    have recognized := plugin.key_eq_iff given "org.codehaus.mojo" "flatten-maven-plugin"
      (by decide) (by decide)
    rw [← Descriptor.flattenPlugin_eq] at recognized
    refine ⟨recognized, ?_⟩
    rw [Descriptor.pluginSetting?]
    simp only [recognized]

/-- The goal that runs unit tests is accepted under its own name, and not under a group that holds
the name of the plugin as well. -/
theorem Handler.accepts_fields_spoofed :
    let handler := forGoal none "SurefireTestExecutionHandler" unitTestGoal [] noDetails
    let genuine : ExecutionEvent := {
      kind := .mojoSucceeded, isExecution := rfl
      mojoExecution := some {
        groupId := some "org.apache.maven.plugins", artifactId := some "maven-surefire-plugin"
        version := none, goal := some "test" } }
    let spoofed : ExecutionEvent := { genuine with
      mojoExecution := some {
        groupId := some "org.apache.maven.plugins:maven-surefire-plugin"
        artifactId := some "test", version := none, goal := some "" } }
    handler.accepts (.execution genuine) = .ok true ∧
      handler.accepts (.execution spoofed) = .ok false := by
  intro handler genuine spoofed
  have declared : handler.goal? = some (some
      ("org.apache.maven.plugins" ++ ":" ++ "maven-surefire-plugin" ++ ":" ++ "test")) := by
    decide +kernel
  obtain ⟨-, decides, -⟩ := accepts_fields "org.apache.maven.plugins" "maven-surefire-plugin" "test"
    (by decide) (by decide) (by decide)
  obtain ⟨accepted, outcome, law⟩ := decides handler genuine _ (by decide) declared rfl
    ⟨rfl, rfl, rfl⟩
  obtain ⟨acceptedToo, outcomeToo, lawToo⟩ := decides handler spoofed _ (by decide) declared rfl
    ⟨rfl, rfl, rfl⟩
  constructor
  · rw [outcome, law.mpr ⟨by decide, rfl, rfl, rfl⟩]
  · have refused : acceptedToo ≠ true := by
      rw [Ne, lawToo]
      rintro ⟨-, grouped, -⟩
      exact absurd grouped (by decide)
    rw [outcomeToo, Bool.eq_false_iff.mpr refused]

end BuildChronicle
