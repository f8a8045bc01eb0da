import LineShell.Main
import LineShell.Proofs.QuotedLines
import LineShell.Proofs.PipeEnds
import LineShell.Proofs.PipelineReport
import LineShell.Proofs.FailedLines
import LineShell.Proofs.ScriptLines
import LineShell.Proofs.LaunchedPipelines
import LineShell.Proofs.SessionFrame
import LineShell.Proofs.AliasSubstitution
import LineShell.Proofs.RedirectedWords
import LineShell.Proofs.LineCuts
import LineShell.Proofs.SignalRelay
import LineShell.Proofs.ClosedDescriptors
import LineShell.Proofs.AliasDefinitions
import LineShell.Proofs.WorkingDirectory
import LineShell.Proofs.FailedCommands
import LineShell.Proofs.CommandOperands
import LineShell.Proofs.SegmentPadding
import LineShell.Proofs.WordCaps
import LineShell.Proofs.LineDecoding
import LineShell.Proofs.SearchOrder
import LineShell.Proofs.WholeStrings
import LineShell.Proofs.SegmentComposition
import LineShell.Proofs.ForegroundGuards
import LineShell.Proofs.RecentLines
import LineShell.Proofs.FailureReports
import LineShell.Proofs.PiecewiseInput
