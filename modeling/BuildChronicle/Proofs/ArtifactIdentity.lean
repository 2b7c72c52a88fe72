import BuildChronicle.Artifact
import BuildChronicle.Proofs.WrittenPaths

/-!
# Artifacts told apart by their identifiers

An identifier joins the coordinates of an artifact with colons. As long as no coordinate holds a
colon itself, it can be cut again, and what it was joined from is found: four coordinates without a
classifier, five with one. So artifacts share an identifier exactly if they share all coordinates,
a missing classifier and an empty one being the same.
-/

namespace BuildChronicle

/-- Texts joined with a character between them are the same only if they were joined from the same
texts, provided that the character stands in none of them. -/
theorem Text.interpose_inj (between : Char) (parts others : List String) (some : parts ≠ [])
    (someToo : others ≠ []) (whole : ∀ part ∈ parts, between ∉ part.toList)
    (wholeToo : ∀ part ∈ others, between ∉ part.toList) :
    interpose (String.ofList [between]) parts = interpose (String.ofList [between]) others ↔
      parts = others := by
  constructor
  · intro same
    have joined : join between (parts.map String.toList) =
        join between (others.map String.toList) := by
      rw [← toList_interpose, ← toList_interpose, same]
    have cut := split_join between (parts.map String.toList) (by simpa using some)
      (by simpa using whole)
    have cutToo := split_join between (others.map String.toList) (by simpa using someToo)
      (by simpa using wholeToo)
    rw [joined, cutToo] at cut
    exact (List.map_injective_iff.mpr fun _ _ => String.toList_inj.mp) cut.symm
  · rintro rfl
    rfl

namespace Artifact

/-- All coordinates that an identifier takes are there, and no coordinate holds a colon. -/
structure IsColonless (artifact : Artifact) : Prop where
  /-- The group is known. -/
  groupId : ∃ text, artifact.groupId = some text ∧ ':' ∉ text.toList
  /-- So is the name within it. -/
  artifactId : ∃ text, artifact.artifactId = some text ∧ ':' ∉ text.toList
  /-- So is the type. -/
  type : ∃ text, artifact.type = some text ∧ ':' ∉ text.toList
  /-- A classifier may be missing. -/
  classifier : ∀ text, artifact.classifier = some text → ':' ∉ text.toList
  /-- The base version is always known. -/
  baseVersion : ':' ∉ artifact.baseVersion.toList

/-- The classifier that counts holds no colon. -/
theorem IsColonless.classifierWhole {artifact : Artifact} (colonless : artifact.IsColonless) :
    ':' ∉ (artifact.classifier.getD "").toList := by
  cases given : artifact.classifier with
  | none => simp
  | some text => exact colonless.classifier text given

/-- What an identifier joins: a classifier takes part only if it says something. -/
def identifying (groupId artifactId type classifier baseVersion : String) : List String :=
  [groupId, artifactId, type] ++ (if classifier = "" then [] else [classifier]) ++ [baseVersion]

/-- A missing classifier counts like an empty one. -/
theorem toList_effectiveClassifier (artifact : Artifact) :
    artifact.effectiveClassifier.toList =
      if artifact.classifier.getD "" = "" then [] else [artifact.classifier.getD ""] := by
  rw [effectiveClassifier]
  cases artifact.classifier with
  | none => rfl
  | some text => by_cases empty : text = "" <;> simp [Option.filter, empty]

/-- Coordinates that are there are joined. -/
theorem id_eq_interpose (artifact : Artifact) (groupId artifactId type : String)
    (group : artifact.groupId = some groupId) (name : artifact.artifactId = some artifactId)
    (typed : artifact.type = some type) :
    artifact.id = .ok (Text.interpose ":" (identifying groupId artifactId type
      (artifact.classifier.getD "") artifact.baseVersion)) := by
  have given : [artifact.groupId, artifact.artifactId, artifact.type] ++
      artifact.effectiveClassifier.toList.map some ++ [some artifact.baseVersion] =
      (identifying groupId artifactId type (artifact.classifier.getD "")
        artifact.baseVersion).map some := by
    rw [group, name, typed, toList_effectiveClassifier, identifying, List.map_append,
      List.map_append]
    rfl
  rw [id, given, Text.allGiven_map_some]
  rfl

/-- What identifiers are joined from tells the coordinates: with a classifier there is one part
more than without. -/
theorem identifying_inj
    (groupId artifactId type classifier baseVersion : String)
    (otherGroupId otherArtifactId otherType otherClassifier otherBaseVersion : String) :
    identifying groupId artifactId type classifier baseVersion =
        identifying otherGroupId otherArtifactId otherType otherClassifier otherBaseVersion ↔
      groupId = otherGroupId ∧ artifactId = otherArtifactId ∧ type = otherType ∧
        classifier = otherClassifier ∧ baseVersion = otherBaseVersion := by
  by_cases bare : classifier = "" <;> by_cases bareToo : otherClassifier = ""
  · simp [identifying, bare, bareToo]
  · simp [identifying, bare, bareToo, Ne.symm bareToo]
  · simp [identifying, bare, bareToo]
  · simp [identifying, bare, bareToo]

/-- No part of an identifier without colons in its coordinates holds one. -/
theorem colonless_identifying (groupId artifactId type classifier baseVersion : String)
    (group : ':' ∉ groupId.toList) (name : ':' ∉ artifactId.toList) (typed : ':' ∉ type.toList)
    (classified : ':' ∉ classifier.toList) (based : ':' ∉ baseVersion.toList) :
    ∀ part ∈ identifying groupId artifactId type classifier baseVersion, ':' ∉ part.toList := by
  by_cases bare : classifier = "" <;>
    simp [identifying, bare, group, name, typed, classified, based]

/-- Artifacts whose coordinates hold no colons have identifiers, and these are the same exactly if
all coordinates are, a missing classifier counting like an empty one. With a classifier and
without one, identifiers are never the same. -/
theorem id_eq_iff (artifact other : Artifact) (colonless : artifact.IsColonless)
    (colonlessToo : other.IsColonless) :
    ∃ identifier otherIdentifier,
      artifact.id = .ok identifier ∧ other.id = .ok otherIdentifier ∧
      (identifier = otherIdentifier ↔
        artifact.groupId = other.groupId ∧ artifact.artifactId = other.artifactId ∧
          artifact.type = other.type ∧
          artifact.classifier.getD "" = other.classifier.getD "" ∧
          artifact.baseVersion = other.baseVersion) ∧
      (artifact.classifier.getD "" ≠ "" → other.classifier.getD "" = "" →
        identifier ≠ otherIdentifier) := by
  obtain ⟨groupId, group, groupWhole⟩ := colonless.groupId
  obtain ⟨artifactId, name, nameWhole⟩ := colonless.artifactId
  obtain ⟨type, typed, typeWhole⟩ := colonless.type
  obtain ⟨otherGroupId, groupToo, groupWholeToo⟩ := colonlessToo.groupId
  obtain ⟨otherArtifactId, nameToo, nameWholeToo⟩ := colonlessToo.artifactId
  obtain ⟨otherType, typedToo, typeWholeToo⟩ := colonlessToo.type
  have whole := colonless_identifying groupId artifactId type _ _ groupWhole nameWhole typeWhole
    colonless.classifierWhole colonless.baseVersion
  have wholeToo := colonless_identifying otherGroupId otherArtifactId otherType _ _ groupWholeToo
    nameWholeToo typeWholeToo colonlessToo.classifierWhole colonlessToo.baseVersion
  have same := Text.interpose_inj ':' _ _ (by simp [identifying]) (by simp [identifying]) whole
    wholeToo
  rw [identifying_inj] at same
  refine ⟨_, _, artifact.id_eq_interpose groupId artifactId type group name typed,
    other.id_eq_interpose otherGroupId otherArtifactId otherType groupToo nameToo typedToo, ?_, ?_⟩
  · rw [group, groupToo, name, nameToo, typed, typedToo, Option.some_inj, Option.some_inj,
      Option.some_inj]
    exact same
  · intro classified bare equal
    have sameClassifier := (same.mp equal).2.2.2.1
    exact classified (sameClassifier.trans bare)

/-- An empty classifier makes no difference, any other does. -/
theorem id_eq_iff_classified :
    let bare : Artifact := {
      groupId := some "org.example", artifactId := some "app", version := some "1.0",
      baseVersion := "1.0" }
    let empty : Artifact := { bare with classifier := some "" }
    let sources : Artifact := { bare with classifier := some "sources" }
    bare.IsColonless ∧ empty.IsColonless ∧ sources.IsColonless ∧
      bare.id = empty.id ∧ sources.id ≠ bare.id := by
  intro bare empty sources
  have group : ∃ text, bare.groupId = some text ∧ ':' ∉ text.toList := ⟨_, rfl, by decide⟩
  have name : ∃ text, bare.artifactId = some text ∧ ':' ∉ text.toList := ⟨_, rfl, by decide⟩
  have typed : ∃ text, bare.type = some text ∧ ':' ∉ text.toList := ⟨_, rfl, by decide⟩
  have based : ':' ∉ bare.baseVersion.toList := by decide
  have bareWhole : bare.IsColonless := ⟨group, name, typed, nofun, based⟩
  have emptyWhole : empty.IsColonless := by
    refine ⟨group, name, typed, ?_, based⟩
    rintro _ ⟨⟩
    decide
  have sourcesWhole : sources.IsColonless := by
    refine ⟨group, name, typed, ?_, based⟩
    rintro _ ⟨⟩
    decide
  obtain ⟨identifier, other, found, foundToo, law, -⟩ := id_eq_iff bare empty bareWhole emptyWhole
  obtain ⟨classified, unclassified, foundThere, foundHere, -, apart⟩ :=
    id_eq_iff sources bare sourcesWhole bareWhole
  have same : identifier = other := law.mpr ⟨rfl, rfl, rfl, rfl, rfl⟩
  refine ⟨bareWhole, emptyWhole, sourcesWhole, by rw [found, foundToo, same], ?_⟩
  rw [foundThere, foundHere]
  intro equal
  exact apart (by decide) rfl (Except.ok.inj equal)

end Artifact

end BuildChronicle
