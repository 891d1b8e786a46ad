import TreeShell.Main
import TreeShell.Proofs.ArgumentTargets
import TreeShell.Proofs.ChangeRelevance
import TreeShell.Proofs.ClimbingOut
import TreeShell.Proofs.ColourErasure
import TreeShell.Proofs.CompletionAliases
import TreeShell.Proofs.CompletionStability
import TreeShell.Proofs.DepthLimits
import TreeShell.Proofs.DirectoryChanges
import TreeShell.Proofs.DirectoryImage
import TreeShell.Proofs.DisplayedRuns
import TreeShell.Proofs.DocumentRoundTrip
import TreeShell.Proofs.FailedLines
import TreeShell.Proofs.FlagValues
import TreeShell.Proofs.ListingOrder
import TreeShell.Proofs.LoggingPrecedence
import TreeShell.Proofs.LookupAnswers
import TreeShell.Proofs.MarkupDecoding
import TreeShell.Proofs.MarkupOutput
import TreeShell.Proofs.NodePaths
import TreeShell.Proofs.PathComposition
import TreeShell.Proofs.ReachableNodes
import TreeShell.Proofs.RecalledLines
import TreeShell.Proofs.ScriptedSessions
import TreeShell.Proofs.SettingPrecedence
import TreeShell.Proofs.SlotDependence
import TreeShell.Proofs.SlotHistory
import TreeShell.Proofs.TerminalOutput
import TreeShell.Proofs.TreeStatistics
import TreeShell.Proofs.TreeTruncation
import TreeShell.Proofs.TreeValidation
import TreeShell.Proofs.VariableTexts
import TreeShell.Proofs.WatchedSources
import TreeShell.Proofs.WorkingDirectory
import TreeShell.Proofs.WrittenDocuments
import TreeShell.Settings.Json
import TreeShell.Text.Runs
