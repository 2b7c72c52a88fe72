import BuildChronicle.Artifact
import BuildChronicle.Artifact.Version
import BuildChronicle.Desk
import BuildChronicle.Dispatcher
import BuildChronicle.Element
import BuildChronicle.Event
import BuildChronicle.Event.Kind
import BuildChronicle.Handler
import BuildChronicle.Handler.Exchange
import BuildChronicle.Handler.Execution
import BuildChronicle.Handler.Standard
import BuildChronicle.Log.Attempt
import BuildChronicle.Log.Book
import BuildChronicle.Log.Fault
import BuildChronicle.Log.Folder
import BuildChronicle.Log.Line
import BuildChronicle.Log.Record
import BuildChronicle.Log.Template
import BuildChronicle.Log.Template.Directive
import BuildChronicle.Log.Template.Style
import BuildChronicle.Log.Template.Supply
import BuildChronicle.Monitor
import BuildChronicle.Node
import BuildChronicle.Node.Markup
import BuildChronicle.Node.Workbench
import BuildChronicle.Number.Binary64
import BuildChronicle.Number.Layout
import BuildChronicle.Number.Rounding
import BuildChronicle.Number.Word
import BuildChronicle.Path
import BuildChronicle.Path.Resolution
import BuildChronicle.Project
import BuildChronicle.Project.Descriptor
import BuildChronicle.Project.Expression
import BuildChronicle.Proofs.AdoptedVariables
import BuildChronicle.Proofs.AmbientProject
import BuildChronicle.Proofs.ArtifactIdentity
import BuildChronicle.Proofs.Atomicity
import BuildChronicle.Proofs.BuildTimes
import BuildChronicle.Proofs.CanonicalPaths
import BuildChronicle.Proofs.CircularLinks
import BuildChronicle.Proofs.ColourPositions
import BuildChronicle.Proofs.ColourSequences
import BuildChronicle.Proofs.Completeness
import BuildChronicle.Proofs.Course
import BuildChronicle.Proofs.Deeds
import BuildChronicle.Proofs.DeploymentTarget
import BuildChronicle.Proofs.DescriptorNames
import BuildChronicle.Proofs.Dispatch
import BuildChronicle.Proofs.EffectiveSettings
import BuildChronicle.Proofs.Evaluation
import BuildChronicle.Proofs.ExecutionOutlines
import BuildChronicle.Proofs.FaithfulMarkup
import BuildChronicle.Proofs.FirstNode
import BuildChronicle.Proofs.FlattenedName
import BuildChronicle.Proofs.FrozenReport
import BuildChronicle.Proofs.GivenLoggers
import BuildChronicle.Proofs.GoalKeys
import BuildChronicle.Proofs.InterruptedColours
import BuildChronicle.Proofs.LevelBlindness
import BuildChronicle.Proofs.LinkResolution
import BuildChronicle.Proofs.ListedItems
import BuildChronicle.Proofs.LogDelivery
import BuildChronicle.Proofs.LogFile
import BuildChronicle.Proofs.LogLevel
import BuildChronicle.Proofs.LoopReports
import BuildChronicle.Proofs.MetLinks
import BuildChronicle.Proofs.NamedLevels
import BuildChronicle.Proofs.Offers
import BuildChronicle.Proofs.OwnRecords
import BuildChronicle.Proofs.Reevaluation
import BuildChronicle.Proofs.References
import BuildChronicle.Proofs.Registration
import BuildChronicle.Proofs.Shelves
import BuildChronicle.Proofs.StandardDesk
import BuildChronicle.Proofs.Treatment
import BuildChronicle.Proofs.WrittenPaths
import BuildChronicle.Report
import BuildChronicle.Session
import BuildChronicle.Settings
import BuildChronicle.Settings.EnvFile
import BuildChronicle.Settings.Environment
import BuildChronicle.Settings.Loading
import BuildChronicle.Table
import BuildChronicle.Text.Blank
import BuildChronicle.Text.Capital
import BuildChronicle.Text.Colour
import BuildChronicle.Text.DecimalDigit
import BuildChronicle.Text.Fields
import BuildChronicle.Text.Hexadecimal
import BuildChronicle.Text.Missing
import BuildChronicle.Text.Printable
import BuildChronicle.Text.Quoted
import BuildChronicle.Thrown
import BuildChronicle.Thrown.Class
import BuildChronicle.Thrown.Coding
import BuildChronicle.Thrown.Refusal
import BuildChronicle.Thrown.Source
import BuildChronicle.Thrown.Trace
import BuildChronicle.Value
