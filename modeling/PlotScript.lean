import PlotScript.Execution.Recorder
import PlotScript.Main
import PlotScript.Proofs.CommandFile.Unrolling
import PlotScript.Proofs.Coercion.Rendering
import PlotScript.Proofs.FrontEnds
import PlotScript.Proofs.Session.Replay
import PlotScript.Proofs.Variables.Deferral
import PlotScript.Proofs.Variables.Substitution
import PlotScript.Proofs.Variables.Resolution
import PlotScript.Proofs.CommandLine.Cutting
import PlotScript.Proofs.Execution.Confined
import PlotScript.Proofs.Session.Refinement
import PlotScript.Proofs.CommandFile.Joining
import PlotScript.Proofs.CommandFile.Statement
import PlotScript.Proofs.Variables.Names
import PlotScript.Proofs.CommandFile.LegacyCalls
import PlotScript.Proofs.CommandFile.Sequence
import PlotScript.Proofs.Execution.Recording
import PlotScript.Proofs.CommandFile.LineNumbers
import PlotScript.Proofs.CommandFile.Composition
import PlotScript.Proofs.CommandFile.Places
import PlotScript.Proofs.Session.Includes
import PlotScript.Proofs.Coercion.Bijection
import PlotScript.Proofs.Variables.WordLists
import PlotScript.Proofs.CommandFile.LiteralAssignment
import PlotScript.Proofs.CommandFile.PhysicalLines
import PlotScript.Proofs.Session.Calls
import PlotScript.Proofs.Session.Origins
import PlotScript.Proofs.Variables.WordBoundaries
import PlotScript.Proofs.Variables.InertValues
import PlotScript.Proofs.Command.OptionReaders
import PlotScript.Proofs.Command.OptionForms
import PlotScript.Proofs.CommandFile.TrailingBlanks
import PlotScript.Proofs.Variables.TwoReadings
import PlotScript.Proofs.CommandFile.SoftAssignment
import PlotScript.Proofs.CommandFile.Layout
import PlotScript.Proofs.CommandFile.ScriptBlocks
import PlotScript.Proofs.CommandFile.LineGroups
import PlotScript.Proofs.CommandFile.Passes
import PlotScript.Proofs.CommandFile.Enclosed
import PlotScript.Proofs.CommandFile.Locations
import PlotScript.Proofs.CommandFile.OpenBlocks
import PlotScript.Proofs.CommandLine.Composition
import PlotScript.Proofs.CommandLine.Bundles
import PlotScript.Proofs.CommandLine.DeclaredFlags
import PlotScript.Proofs.Coercion.Histories
import PlotScript.Proofs.Coercion.Stages
import PlotScript.Proofs.Coercion.WellFormed
import PlotScript.Proofs.Session.LegacyRuns
import PlotScript.Proofs.Session.TypedCalls
import PlotScript.Proofs.Coercion.BoxGrammar
import PlotScript.Proofs.Coercion.EscapedColons
import PlotScript.Proofs.Number.Characters
import PlotScript.Proofs.Text.Quoted
import PlotScript.Proofs.Output.FieldBoundaries
import PlotScript.Proofs.Output.JsonForm
import PlotScript.Proofs.Output.OperationLines
import PlotScript.Proofs.Output.GroupedListing
import PlotScript.Proofs.Positions.InRange
