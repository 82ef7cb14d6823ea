import EditorAnalysis.CommandLine.Directory
import EditorAnalysis.Main
import EditorAnalysis.Proofs.Classifier.Reload
import EditorAnalysis.Proofs.Python.Scans
import EditorAnalysis.Proofs.Token.Tiling
import EditorAnalysis.Replay
import EditorAnalysis.Workspace.Call
import EditorAnalysis.Proofs.Python.Tiling
import EditorAnalysis.Proofs.Classifier.Painting
import EditorAnalysis.Proofs.Python.Blocks
import EditorAnalysis.Proofs.Python.Displacement
import EditorAnalysis.Proofs.Python.Composition
import EditorAnalysis.Proofs.Classifier.Ranks
import EditorAnalysis.Proofs.Python.Depth
import EditorAnalysis.Proofs.Python.FinalBreak
import EditorAnalysis.Proofs.Python.Locality
import EditorAnalysis.Proofs.Classifier.Shape
import EditorAnalysis.Proofs.Diagnostic.Overlay
import EditorAnalysis.Proofs.Workspace.Run
import EditorAnalysis.Proofs.Workspace.Visibility
import EditorAnalysis.Proofs.Python.Sessions
import EditorAnalysis.Proofs.Python.Reanalysis
import EditorAnalysis.Proofs.Python.Landing
import EditorAnalysis.Proofs.Python.Rejection
import EditorAnalysis.Proofs.Workspace.Names
import EditorAnalysis.Proofs.Python.Offside
import EditorAnalysis.Proofs.Python.LineEnds
import EditorAnalysis.Proofs.Classifier.Precedence
import EditorAnalysis.Proofs.Workspace.Independence
import EditorAnalysis.Proofs.Python.Failures
import EditorAnalysis.Proofs.Python.LexicalGrammar
import EditorAnalysis.Proofs.Python.ImportNames
import EditorAnalysis.Proofs.Python.Exports
import EditorAnalysis.Proofs.Python.FutureImports
import EditorAnalysis.Proofs.Python.UnreadImports
import EditorAnalysis.Proofs.Python.SymbolTables
import EditorAnalysis.Proofs.Python.ScopeIsolation
import EditorAnalysis.Proofs.Python.Outline
import EditorAnalysis.Proofs.Scope.Rebuilding
import EditorAnalysis.Proofs.Checker.Rounds
import EditorAnalysis.Proofs.Python.MarkedText
import EditorAnalysis.Proofs.Python.Layout
import EditorAnalysis.Proofs.Python.CarriageReturns
import EditorAnalysis.Proofs.Python.Closers
import EditorAnalysis.Proofs.CommandLine.Replacement
import EditorAnalysis.Proofs.Report.Columns
import EditorAnalysis.Proofs.Exchange
