import Scenario.Assoc
import Scenario.Browser
import Scenario.Browser.Http
import Scenario.Browser.Remote
import Scenario.Browser.Scripted
import Scenario.Browser.Wire
import Scenario.Calendar
import Scenario.Case
import Scenario.Cel.Eval
import Scenario.Cel.Function
import Scenario.Cel.Parser
import Scenario.Cel.Period
import Scenario.Cel.Token
import Scenario.Cel.Value
import Scenario.CommandLine
import Scenario.Csv
import Scenario.Cursor
import Scenario.DataSource
import Scenario.Decimal.Reading
import Scenario.Decimal.Shortest
import Scenario.Discovery
import Scenario.Document
import Scenario.Document.Reading
import Scenario.Domain
import Scenario.Domain.Mapping
import Scenario.Domain.Punycode
import Scenario.Expression
import Scenario.Fault
import Scenario.Files
import Scenario.Json.Basic
import Scenario.Json.Parser
import Scenario.Json.Spelling
import Scenario.Loading
import Scenario.Main
import Scenario.Options
import Scenario.Path
import Scenario.Pointcut
import Scenario.Proofs.ActEnds
import Scenario.Proofs.ActionEffects
import Scenario.Proofs.AdviceEffects
import Scenario.Proofs.AdviceTransparency
import Scenario.Proofs.AttributeSelectors
import Scenario.Proofs.BrowserCalls
import Scenario.Proofs.BrowserQuits
import Scenario.Proofs.CaseDisciplines
import Scenario.Proofs.ChainModes
import Scenario.Proofs.ChainVariables
import Scenario.Proofs.ChildNames
import Scenario.Proofs.CursorAdvance
import Scenario.Proofs.CursorMoves
import Scenario.Proofs.DescendantRuns
import Scenario.Proofs.DistinctSuiteNames
import Scenario.Proofs.ErrorEvents
import Scenario.Proofs.EventNesting
import Scenario.Proofs.FailedSteps
import Scenario.Proofs.FailedVerifications
import Scenario.Proofs.FailureAdvice
import Scenario.Proofs.FilePlaces
import Scenario.Proofs.FrozenPointcuts
import Scenario.Proofs.InheritedAdvice
import Scenario.Proofs.InlineRows
import Scenario.Proofs.LastRowCases
import Scenario.Proofs.LoadFaultEvents
import Scenario.Proofs.LoadFaultNames
import Scenario.Proofs.LoadedChains
import Scenario.Proofs.LoadingCycles
import Scenario.Proofs.LoadingFetches
import Scenario.Proofs.LoopCounts
import Scenario.Proofs.NumericTexts
import Scenario.Proofs.ObservedWorlds
import Scenario.Proofs.OmittedSteps
import Scenario.Proofs.PartLaws
import Scenario.Proofs.PointcutSelection
import Scenario.Proofs.ProblemAccounts
import Scenario.Proofs.ProgramRuns
import Scenario.Proofs.QuotedTexts
import Scenario.Proofs.RecordedProblems
import Scenario.Proofs.RelatedRuns
import Scenario.Proofs.RelatedSteps
import Scenario.Proofs.RelatedTrees
import Scenario.Proofs.ReportSuccess
import Scenario.Proofs.ReportedSteps
import Scenario.Proofs.ReportedSuites
import Scenario.Proofs.ResultConjunction
import Scenario.Proofs.RunClosing
import Scenario.Proofs.RunExtent
import Scenario.Proofs.RunFrame
import Scenario.Proofs.RunTreeLaws
import Scenario.Proofs.SharedSessions
import Scenario.Proofs.SignalForest
import Scenario.Proofs.SingleRowModes
import Scenario.Proofs.StartCoverage
import Scenario.Proofs.StepLaws
import Scenario.Proofs.StepParameters
import Scenario.Proofs.StepVisits
import Scenario.Proofs.StepsUnderAdvice
import Scenario.Proofs.StopFailures
import Scenario.Proofs.StopScope
import Scenario.Proofs.StoppedRuns
import Scenario.Proofs.StoppedStep
import Scenario.Proofs.SuiteGrammar
import Scenario.Proofs.SuiteNames
import Scenario.Proofs.TemplateExpansion
import Scenario.Proofs.ToldProblems
import Scenario.Proofs.UniformLaws
import Scenario.Proofs.UnseenDifferences
import Scenario.Regex.Parser
import Scenario.Regex.Pattern
import Scenario.Regex.Property
import Scenario.Regex.Size
import Scenario.Report
import Scenario.Report.File
import Scenario.Row
import Scenario.Run
import Scenario.Run.Action
import Scenario.Run.Execution
import Scenario.Runner
import Scenario.Settings
import Scenario.Step
import Scenario.Step.Edit
import Scenario.Step.Kind
import Scenario.Stop
import Scenario.Template
import Scenario.Text.Age
import Scenario.Text.Base64
import Scenario.Text.Blank
import Scenario.Text.Break
import Scenario.Text.CaseFold
import Scenario.Text.Category
import Scenario.Text.CharSet
import Scenario.Text.CodeMap
import Scenario.Text.Direction
import Scenario.Text.Integer
import Scenario.Text.Joining
import Scenario.Text.Lowercase
import Scenario.Text.Normal
import Scenario.Text.Normal.Table
import Scenario.Text.Property
import Scenario.Text.Property.Table
import Scenario.Text.Quoted
import Scenario.Text.Script
import Scenario.Text.Script.Extension
import Scenario.Text.Url
import Scenario.Text.Utf8
import Scenario.Url
import Scenario.World
import Scenario.Yaml.Node
import Scenario.Yaml.Printer
import Scenario.Yaml.Scalar
import Scenario.Yaml.Tag
import Scenario.Yaml.Token
import Scenario.Yaml.Value
