import PythonStyle.CommandLine.Run
import PythonStyle.FileSystem.Tree
import PythonStyle.Language.Parse
import PythonStyle.Main
import PythonStyle.Proofs.Encoding
import PythonStyle.Proofs.Sorting
import PythonStyle.Proofs.Contributions
import PythonStyle.Proofs.Batches
import PythonStyle.Proofs.Isolation
import PythonStyle.Proofs.BlankLines
import PythonStyle.Proofs.TabWidths
import PythonStyle.Proofs.Pieces
import PythonStyle.Proofs.ByteOrder
import PythonStyle.Proofs.Accounting
import PythonStyle.Proofs.JsonReader
import PythonStyle.Proofs.JsonRoundTrip
import PythonStyle.Proofs.PlainNames
import PythonStyle.Proofs.OneLine
import PythonStyle.Proofs.TextRoundTrip
import PythonStyle.Proofs.Addresses
import PythonStyle.Proofs.Walk
import PythonStyle.Proofs.ParameterSections
import PythonStyle.Proofs.FunctionPlaces
import PythonStyle.Proofs.LineNumbers
import PythonStyle.Proofs.TargetNames
import PythonStyle.Proofs.ChainedTargets
import PythonStyle.Proofs.Matching
import PythonStyle.Proofs.Remarks
import PythonStyle.Proofs.VariableNames
import PythonStyle.Proofs.Cuts
import PythonStyle.Proofs.CapitalNames
import PythonStyle.Proofs.FunctionNames
import PythonStyle.Proofs.Newlines
import PythonStyle.Proofs.LineSearches
import PythonStyle.Proofs.ScanOrder
import PythonStyle.Proofs.FinalNewline
import PythonStyle.Proofs.FunctionFindings
import PythonStyle.Proofs.Messages
import PythonStyle.Proofs.DirectoryEntries
import PythonStyle.Proofs.FilePlaces
import PythonStyle.Proofs.UnhandledEntries
import PythonStyle.Proofs.DirectoryOrder
import PythonStyle.Proofs.ClassNames
import PythonStyle.Proofs.CursorPlaces
import PythonStyle.Proofs.TreeSearch
