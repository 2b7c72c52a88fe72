import Mathlib.Logic.Relation
import BuildChronicle.Project.Descriptor

/-!
# The name of the flattened descriptor

The name is set in some of many places: the configurations of the executions that flatten, and
of the plugin itself. All of them are consulted in one order, a plugin's executions coming before
the plugin, and the first configuration that has a setting decides, by its first one. What is
consulted never again is the rest: other plugins, executions of other goals, and everything
behind a setting. So a project can be edited there in any way, and the name stays the same.
-/

namespace BuildChronicle.Descriptor

/-- The children of a configuration that set the name of the flattened descriptor. -/
def settings (configuration : Option Node) : List Node :=
  ((configuration.map Node.children).getD []).filter (·.name = flattenSetting)

/-- The configurations of a plugin for the flattening goal: those of the executions that run it, in
their order, and then its own. -/
def scopes (plugin : Plugin) : List (Option Node) :=
  (plugin.executions.filter (flattenGoal ∈ ·.goals)).map PluginExecution.configuration ++
    [plugin.configuration]

/-- The first setting of every configuration that has one, in the order of the configurations. -/
def firstSettings (configurations : List (Option Node)) : List Node :=
  configurations.flatMap fun configuration => (settings configuration).take 1

/-- The settings that can decide: of every plugin that flattens, in the order of declaration, the
first one of each of its configurations. -/
def candidates (plugins : List Plugin) : List Node :=
  firstSettings ((plugins.filter (·.key = flattenPlugin)).flatMap scopes)

/-- Changes to the declared plugins that do not concern the name of the flattened descriptor. -/
inductive Edited : List Plugin → List Plugin → Prop where
  /-- Other plugins come, go or change. -/
  | otherPlugins (before old new after : List Plugin)
      (oldOther : ∀ plugin ∈ old, plugin.key ≠ flattenPlugin)
      (newOther : ∀ plugin ∈ new, plugin.key ≠ flattenPlugin) :
      Edited (before ++ old ++ after) (before ++ new ++ after)
  /-- Executions that do not flatten come, go or change. -/
  | otherExecutions (before after : List Plugin) (plugin other : Plugin)
      (earlier old new later : List PluginExecution)
      (sameKey : other.key = plugin.key)
      (sameConfiguration : other.configuration = plugin.configuration)
      (executions : plugin.executions = earlier ++ old ++ later)
      (executionsToo : other.executions = earlier ++ new ++ later)
      (oldOther : ∀ execution ∈ old, flattenGoal ∉ execution.goals)
      (newOther : ∀ execution ∈ new, flattenGoal ∉ execution.goals) :
      Edited (before ++ plugin :: after) (before ++ other :: after)
  /-- Anything changes behind a setting for an execution that flattens: in the rest of that
  configuration, in later executions, in the configuration of the plugin and at later plugins. -/
  | behindExecution (before after otherAfter : List Plugin) (plugin other : Plugin)
      (earlier later otherLater : List PluginExecution) (execution otherExecution : PluginExecution)
      (front back otherBack : List Node) (setting : Node)
      (flattens : plugin.key = flattenPlugin) (flattensToo : other.key = flattenPlugin)
      (executions : plugin.executions = earlier ++ execution :: later)
      (executionsToo : other.executions = earlier ++ otherExecution :: otherLater)
      (runs : flattenGoal ∈ execution.goals) (runsToo : flattenGoal ∈ otherExecution.goals)
      (children : execution.configuration.map Node.children = some (front ++ setting :: back))
      (childrenToo :
        otherExecution.configuration.map Node.children = some (front ++ setting :: otherBack))
      (sets : setting.name = flattenSetting) :
      Edited (before ++ plugin :: after) (before ++ other :: otherAfter)
  /-- Anything changes behind a setting for the plugin: in the rest of its configuration and at
  later plugins. -/
  | behindPlugin (before after otherAfter : List Plugin) (plugin other : Plugin)
      (front back otherBack : List Node) (setting : Node)
      (flattens : plugin.key = flattenPlugin) (flattensToo : other.key = flattenPlugin)
      (sameExecutions : other.executions = plugin.executions)
      (children : plugin.configuration.map Node.children = some (front ++ setting :: back))
      (childrenToo :
        other.configuration.map Node.children = some (front ++ setting :: otherBack))
      (sets : setting.name = flattenSetting) :
      Edited (before ++ plugin :: after) (before ++ other :: otherAfter)

section Candidates

@[simp] theorem firstSettings_append (configurations others : List (Option Node)) :
    firstSettings (configurations ++ others) =
      firstSettings configurations ++ firstSettings others :=
  List.flatMap_append

@[simp] theorem candidates_append (plugins others : List Plugin) :
    candidates (plugins ++ others) = candidates plugins ++ candidates others := by
  rw [candidates, List.filter_append, List.flatMap_append, firstSettings_append]
  rfl

/-- The candidates of a plugin that flattens come from its configurations. -/
theorem candidates_singleton (plugin : Plugin) :
    candidates [plugin] =
      if plugin.key = flattenPlugin then firstSettings (scopes plugin) else [] := by
  by_cases flattens : plugin.key = flattenPlugin <;> simp [candidates, firstSettings, flattens]

end Candidates

section Search

/-- The setting that is found in a configuration is the first one. -/
theorem settingIn?_eq_head? (configuration : Option Node) :
    settingIn? configuration = ((settings configuration).take 1).head? := by
  cases configuration with
  | none => rfl
  | some configuration =>
    rw [List.head?_take, if_neg (by decide), settings, Option.map_some, Option.getD_some,
      List.head?_filter]
    rfl

/-- What is found in several configurations, one after the other, is the first setting of them. -/
theorem findSome?_settingIn? (configurations : List (Option Node)) :
    configurations.findSome? settingIn? = (firstSettings configurations).head? := by
  rw [firstSettings, List.head?_flatMap, funext settingIn?_eq_head?]

/-- Only executions that run the goal are searched, each in its configuration. -/
theorem findSome?_executionSetting? (executions : List PluginExecution) :
    executions.findSome? executionSetting? =
      ((executions.filter (flattenGoal ∈ ·.goals)).map PluginExecution.configuration).findSome?
        settingIn? := by
  induction executions with
  | nil => rfl
  | cons execution executions inductionHypothesis =>
    by_cases runs : flattenGoal ∈ execution.goals <;>
      simp [List.findSome?_cons, executionSetting?, runs, inductionHypothesis]

/-- What is found for a plugin is its first candidate. -/
theorem pluginSetting?_eq_head? (plugin : Plugin) :
    pluginSetting? plugin = (candidates [plugin]).head? := by
  rw [candidates_singleton, pluginSetting?]
  by_cases flattens : plugin.key = flattenPlugin
  · rw [if_pos flattens, if_pos flattens, findSome?_executionSetting?, ← findSome?_settingIn?,
      scopes, List.findSome?_append, List.findSome?_singleton, Option.orElse_eq_orElse,
      Option.orElse_eq_or]
  · rw [if_neg flattens, if_neg flattens]
    rfl

/-- What is found in a project is the first candidate. -/
theorem findSome?_pluginSetting? (plugins : List Plugin) :
    plugins.findSome? pluginSetting? = (candidates plugins).head? := by
  induction plugins with
  | nil => rfl
  | cons plugin plugins inductionHypothesis =>
    rw [← List.singleton_append, candidates_append, List.head?_append, ← inductionHypothesis,
      ← pluginSetting?_eq_head?, List.findSome?_append, List.findSome?_singleton]

end Search

section Edits

/-- Other plugins have no candidates. -/
theorem candidates_others (plugins : List Plugin)
    (other : ∀ plugin ∈ plugins, plugin.key ≠ flattenPlugin) : candidates plugins = [] := by
  have nothing : plugins.filter (·.key = flattenPlugin) = [] := by
    simpa [List.filter_eq_nil_iff] using other
  rw [candidates, nothing]
  rfl

/-- A configuration with a setting has a first one, and that does not depend on what follows the
setting. -/
theorem exists_firstSetting (front : List Node) (setting : Node)
    (sets : setting.name = flattenSetting) :
    ∃ first, ∀ configuration back,
      configuration.map Node.children = some (front ++ setting :: back) →
      firstSettings [configuration] = [first] := by
  have parted (configuration : Option Node) (back : List Node)
      (children : configuration.map Node.children = some (front ++ setting :: back)) :
      firstSettings [configuration] = (front.filter (·.name = flattenSetting) ++
          setting :: back.filter (·.name = flattenSetting)).take 1 := by
    simp [firstSettings, settings, children, sets]
  cases before : front.filter (·.name = flattenSetting) with
  | nil => exact ⟨setting, fun _ back children => by rw [parted _ back children, before]; rfl⟩
  | cons first others =>
    exact ⟨first, fun _ back children => by rw [parted _ back children, before]; rfl⟩

/-- A configuration that has a setting decides, unless something in front of it does. -/
theorem head?_candidates_parted (before after : List Plugin) (plugin : Plugin)
    (earlier later : List (Option Node)) (configuration : Option Node) (first : Node)
    (flattens : plugin.key = flattenPlugin)
    (ordered : scopes plugin = earlier ++ configuration :: later)
    (decides : firstSettings [configuration] = [first]) :
    (candidates (before ++ plugin :: after)).head? =
      (candidates before ++ firstSettings earlier).head?.or (some first) := by
  have own : candidates [plugin] = firstSettings earlier ++ first :: firstSettings later := by
    rw [candidates_singleton, if_pos flattens, ordered, firstSettings_append,
      ← List.singleton_append, firstSettings_append, decides, List.singleton_append]
  have parted : candidates (before ++ plugin :: after) =
      (candidates before ++ firstSettings earlier) ++
        first :: (firstSettings later ++ candidates after) := by
    rw [candidates_append, ← List.singleton_append, candidates_append, own, List.append_assoc,
      List.append_assoc, List.cons_append]
  rw [parted, List.head?_append, List.head?_cons]

/-- The configurations for the goal, an execution that runs it being told apart. -/
theorem scopes_parted (plugin : Plugin) (earlier later : List PluginExecution)
    (execution : PluginExecution) (runs : flattenGoal ∈ execution.goals)
    (executions : plugin.executions = earlier ++ execution :: later) :
    scopes plugin =
      (earlier.filter (flattenGoal ∈ ·.goals)).map PluginExecution.configuration ++
        execution.configuration ::
          ((later.filter (flattenGoal ∈ ·.goals)).map PluginExecution.configuration ++
            [plugin.configuration]) := by
  simp [scopes, executions, runs]

/-- Executions of other goals leave no trace in the configurations for this one. -/
theorem scopes_others (plugin : Plugin) (earlier others later : List PluginExecution)
    (other : ∀ execution ∈ others, flattenGoal ∉ execution.goals)
    (executions : plugin.executions = earlier ++ others ++ later) :
    scopes plugin =
      ((earlier ++ later).filter (flattenGoal ∈ ·.goals)).map PluginExecution.configuration ++
        [plugin.configuration] := by
  have nothing : others.filter (flattenGoal ∈ ·.goals) = [] := by
    simpa [List.filter_eq_nil_iff] using other
  simp [scopes, executions, nothing]

/-- An edit leaves the first candidate as it is. -/
theorem head?_candidates_edited (plugins others : List Plugin) (edited : Edited plugins others) :
    (candidates others).head? = (candidates plugins).head? := by
  cases edited with
  | otherPlugins before old new after oldOther newOther =>
    simp only [candidates_append, candidates_others old oldOther, candidates_others new newOther]
  | otherExecutions before after plugin other earlier old new later sameKey sameConfiguration
      executions executionsToo oldOther newOther =>
    have scopesOf := scopes_others plugin earlier old later oldOther executions
    have scopesOfOther := scopes_others other earlier new later newOther executionsToo
    rw [sameConfiguration, ← scopesOf] at scopesOfOther
    have same : candidates [other] = candidates [plugin] := by
      rw [candidates_singleton, candidates_singleton, sameKey, scopesOfOther]
    rw [candidates_append, candidates_append, ← List.singleton_append, candidates_append, same,
      ← candidates_append, List.singleton_append]
  | behindExecution before after otherAfter plugin other earlier later otherLater execution
      otherExecution front back otherBack setting flattens flattensToo executions executionsToo
      runs runsToo children childrenToo sets =>
    obtain ⟨first, decides⟩ := exists_firstSetting front setting sets
    have parted := head?_candidates_parted before after plugin _ _ _ first flattens
      (scopes_parted plugin earlier later execution runs executions) (decides _ back children)
    have otherParted := head?_candidates_parted before otherAfter other _ _ _ first flattensToo
      (scopes_parted other earlier otherLater otherExecution runsToo executionsToo)
      (decides _ otherBack childrenToo)
    rw [parted, otherParted]
  | behindPlugin before after otherAfter plugin other front back otherBack setting flattens
      flattensToo sameExecutions children childrenToo sets =>
    obtain ⟨first, decides⟩ := exists_firstSetting front setting sets
    have parted := head?_candidates_parted before after plugin _ [] _ first flattens rfl
      (decides _ back children)
    have otherParted := head?_candidates_parted before otherAfter other _ [] _ first flattensToo rfl
      (decides _ otherBack childrenToo)
    rw [parted, otherParted, sameExecutions]

/-- So do edits one after the other. -/
theorem head?_candidates_edits (plugins others : List Plugin)
    (edits : Relation.ReflTransGen Edited plugins others) :
    (candidates others).head? = (candidates plugins).head? := by
  induction edits with
  | refl => rfl
  | tail _ edited inductionHypothesis =>
    exact (head?_candidates_edited _ _ edited).trans inductionHypothesis

/-- Of a plugin without candidates in front of it, the first execution with a setting decides,
whatever the plugin itself sets. -/
theorem head?_candidates_execution (before after : List Plugin) (plugin : Plugin)
    (earlier later : List PluginExecution) (execution : PluginExecution) (setting : Node)
    (others : List Node) (nothing : candidates before = []) (flattens : plugin.key = flattenPlugin)
    (executions : plugin.executions = earlier ++ execution :: later)
    (bare : ∀ other ∈ earlier, flattenGoal ∈ other.goals → settings other.configuration = [])
    (runs : flattenGoal ∈ execution.goals)
    (sets : settings execution.configuration = setting :: others) :
    (candidates (before ++ plugin :: after)).head? = some setting := by
  have decides : firstSettings [execution.configuration] = [setting] := by
    simp [firstSettings, sets]
  have silent : firstSettings ((earlier.filter (flattenGoal ∈ ·.goals)).map
      PluginExecution.configuration) = [] := by
    simp only [firstSettings, List.flatMap_eq_nil_iff, List.forall_mem_map, List.mem_filter,
      decide_eq_true_eq, and_imp]
    intro other member runsToo
    rw [bare other member runsToo, List.take_nil]
  rw [head?_candidates_parted before after plugin _ _ _ setting flattens
    (scopes_parted plugin earlier later execution runs executions) decides, nothing, silent]
  rfl

end Edits

/-- The first candidate decides on the name of the flattened descriptor, even if it has no text;
without candidates there is no name. So what an execution sets comes before whatever its plugin
sets, and edits that do not concern the name leave it as it is, in any number. -/
theorem flattenedName?_decided (project : Project) :
    (∀ first others, candidates project.plugins = first :: others →
        flattenedName? project = first.value) ∧
      (candidates project.plugins = [] → flattenedName? project = none) ∧
      (∀ before plugin after earlier execution later setting others,
        project.plugins = before ++ plugin :: after → candidates before = [] →
        plugin.key = flattenPlugin → plugin.executions = earlier ++ execution :: later →
        (∀ other ∈ earlier, flattenGoal ∈ other.goals → settings other.configuration = []) →
        flattenGoal ∈ execution.goals → settings execution.configuration = setting :: others →
        flattenedName? project = setting.value) ∧
      ∀ other : Project, Relation.ReflTransGen Edited project.plugins other.plugins →
        flattenedName? other = flattenedName? project := by
  have decided (project : Project) :
      flattenedName? project = (candidates project.plugins).head?.bind Node.value := by
    rw [flattenedName?, findSome?_pluginSetting?]
  refine ⟨?_, ?_, ?_, ?_⟩
  · intro first others begins
    rw [decided, begins]
    rfl
  · intro nothing
    rw [decided, nothing]
    rfl
  · intro before plugin after earlier execution later setting others parted nothing flattens
      executions bare runs sets
    rw [decided, parted, head?_candidates_execution before after plugin earlier later execution
      setting others nothing flattens executions bare runs sets]
    rfl
  · intro other edits
    rw [decided, decided, head?_candidates_edits _ _ edits]

/-- What the second execution sets is the name. It stays when an execution of another goal goes,
when the setting of the plugin gives way to a further execution, and when another plugin is
declared in front. -/
theorem flattenedName?_decided_edited :
    let configuration (name : String) : Option Node :=
      some ((Node.leaf "configuration").add (Node.text flattenSetting (some name)))
    let cleaning : PluginExecution := { goals := ["clean"], configuration := configuration "a.xml" }
    let flattening : PluginExecution :=
      { goals := ["validate", "flatten"], configuration := configuration "b.xml" }
    let further : PluginExecution :=
      { goals := ["flatten"], configuration := configuration "c.xml" }
    let plugin : Plugin :=
      { groupId := some "org.codehaus.mojo", artifactId := some "flatten-maven-plugin",
        executions := [cleaning, flattening], configuration := configuration "d.xml" }
    let shading : Plugin :=
      { groupId := some "org.apache.maven.plugins", artifactId := some "maven-shade-plugin",
        configuration := configuration "e.xml" }
    let project : Project :=
      { groupId := none, artifactId := none, version := none,
        build := some { plugins := [plugin] } }
    let edited : Project :=
      { project with build := some { plugins :=
          [shading, { plugin with executions := [flattening, further], configuration := none }] } }
    flattenedName? project = some "b.xml" ∧ flattenedName? edited = flattenedName? project := by
  intro configuration cleaning flattening further plugin shading project edited
  have flattens : plugin.key = flattenPlugin := by decide +kernel
  have fewer : Edited [plugin] [{ plugin with executions := [flattening] }] :=
    .otherExecutions [] [] _ _ [] [cleaning] [] [flattening] rfl rfl rfl rfl (by decide) (by simp)
  have behind : Edited [{ plugin with executions := [flattening] }]
      [{ plugin with executions := [flattening, further], configuration := none }] :=
    .behindExecution [] [] [] _ _ [] [] [further] flattening flattening [] [] []
      (Node.text flattenSetting (some "b.xml")) flattens flattens rfl rfl (by decide) (by decide)
      rfl rfl rfl
  have inFront : Edited [{ plugin with executions := [flattening, further], configuration := none }]
      [shading, { plugin with executions := [flattening, further], configuration := none }] :=
    .otherPlugins [] [] [shading] [_] (by simp) (by decide +kernel)
  have edits : Relation.ReflTransGen Edited project.plugins edited.plugins :=
    ((Relation.ReflTransGen.single fewer).tail behind).tail inFront
  have law := flattenedName?_decided project
  refine ⟨?_, law.2.2.2 edited edits⟩
  exact law.2.2.1 [] plugin [] [cleaning] flattening [] (Node.text flattenSetting (some "b.xml")) []
    rfl rfl flattens rfl (by decide) (by decide) rfl

end BuildChronicle.Descriptor
