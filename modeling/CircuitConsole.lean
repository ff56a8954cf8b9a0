import CircuitConsole.Main
import CircuitConsole.Proofs.Console.CurrentResults
import CircuitConsole.Proofs.Console.SafeExecution
import CircuitConsole.Proofs.Console.ClassicalCircuits
import CircuitConsole.Proofs.Console.StraightLines
import CircuitConsole.Proofs.Console.Tallies
import CircuitConsole.Proofs.Console.Snapshots
import CircuitConsole.Proofs.Console.Limits
import CircuitConsole.Proofs.Console.LoadedFiles
import CircuitConsole.Proofs.Simulation.Conditions
import CircuitConsole.Proofs.Console.ConditionalStatements
import CircuitConsole.Proofs.Statement.Overloads
import CircuitConsole.Proofs.Workspace.Overloads
import CircuitConsole.Proofs.Console.Escapes
import CircuitConsole.Proofs.Console.Completion
import CircuitConsole.Proofs.Console.Relabelling
import CircuitConsole.Proofs.Console.LaterDeclarations
import CircuitConsole.Proofs.Simulation.RepeatedMeasurement
import CircuitConsole.Proofs.Console.Quitting
import CircuitConsole.Proofs.Text.Trimming
import CircuitConsole.Proofs.Statement.JoinedTexts
import CircuitConsole.Proofs.Console.JoinedTexts
import CircuitConsole.Proofs.Console.FailingLines
import CircuitConsole.Proofs.Expression.Numerals
import CircuitConsole.Proofs.Expression.Layout
import CircuitConsole.Proofs.Statement.Meanings
import CircuitConsole.Proofs.Statement.Layout
import CircuitConsole.Proofs.Statement.Blocks
import CircuitConsole.Proofs.Statement.CondensedStatements
import CircuitConsole.Proofs.Workspace.Layout
import CircuitConsole.Proofs.Simulation.Tensors
import CircuitConsole.Proofs.Simulation.KernelEntries
import CircuitConsole.Proofs.Statement.ExpansionFaults
import CircuitConsole.Proofs.Workspace.DefinitionChains
import CircuitConsole.Proofs.Workspace.DefinitionTables
import CircuitConsole.Proofs.CommandLine.Startup
import CircuitConsole.Proofs.Simulation.ControlledMatrices
import CircuitConsole.Proofs.Simulation.Collapse
import CircuitConsole.Proofs.Simulation.DisjointGates
import CircuitConsole.Proofs.Simulation.Resetting
import CircuitConsole.Proofs.Expression.FormulaValues
import CircuitConsole.Proofs.Statement.FormalNames
import CircuitConsole.Proofs.Workspace.DefinedCalls
import CircuitConsole.Proofs.Statement.MovedCalls
import CircuitConsole.Proofs.Workspace.LaterStatements
import CircuitConsole.Proofs.Workspace.Descriptions
import CircuitConsole.Proofs.Workspace.Broadcasting
import CircuitConsole.Proofs.Statement.Splitting
import CircuitConsole.Proofs.Console.ClosingLines
import CircuitConsole.Proofs.Console.InlineLoops
import CircuitConsole.Proofs.Console.NestedLoops
import CircuitConsole.Proofs.Console.BraceCounts
import CircuitConsole.Proofs.Console.Draws
import CircuitConsole.Proofs.Console.PrintedValues
import CircuitConsole.Proofs.Console.IncludeLines
import CircuitConsole.Proofs.Console.ReaderShapes
import CircuitConsole.Proofs.Statement.DecomposedCalls
import CircuitConsole.Proofs.Console.DirectiveLines
