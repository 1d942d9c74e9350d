import GrammarFlow.Main
import GrammarFlow.Process.Script
import GrammarFlow.Proofs.LineIndex
import GrammarFlow.Proofs.PatternMatching
import GrammarFlow.Transcript.TokenDump
import GrammarFlow.Proofs.ReportReading
import GrammarFlow.Proofs.SyntaxErrors
import GrammarFlow.Proofs.MarkInsertion
import GrammarFlow.Proofs.MarkReading
import GrammarFlow.Proofs.MarkRegions
import GrammarFlow.Proofs.MarkRoundTrip
import GrammarFlow.Proofs.MarkRecognition
import GrammarFlow.Proofs.MarkRestoration
import GrammarFlow.Proofs.TranscriptLines
import GrammarFlow.Proofs.TreeLine
import GrammarFlow.Proofs.TokenLine
import GrammarFlow.Proofs.ParserRun
import GrammarFlow.Proofs.Interleaving
import GrammarFlow.Proofs.CopiedActions
import GrammarFlow.Proofs.GeneratorErrors
import GrammarFlow.Proofs.CompilerErrors
import GrammarFlow.Process.Schedule
import GrammarFlow.Proofs.LineAccounting
import GrammarFlow.Proofs.ScheduledRuns
import GrammarFlow.Proofs.LineDelivery
import GrammarFlow.Proofs.StageCourses
import GrammarFlow.Proofs.ToolFailures
import GrammarFlow.Proofs.TextEncoding
import GrammarFlow.Proofs.FileWrites
import GrammarFlow.Proofs.StrippedFiles
import GrammarFlow.Proofs.RepeatedMessages
import GrammarFlow.Proofs.Recompilation
import GrammarFlow.Proofs.StateChains
import GrammarFlow.Proofs.StageRecords
import GrammarFlow.Proofs.WorkflowRuns
import GrammarFlow.Proofs.LiveReports
import GrammarFlow.Proofs.FailureViews
import GrammarFlow.Proofs.LinePositions
import GrammarFlow.Proofs.BoundedArithmetic
import GrammarFlow.Proofs.BoundedPlaces
import GrammarFlow.Proofs.BoundedReading
import GrammarFlow.Proofs.BoundedReports
import GrammarFlow.Proofs.FragmentLookup
import GrammarFlow.Proofs.PlainOffsets
import GrammarFlow.Marks.Builder
import GrammarFlow.Proofs.MarkedText
import GrammarFlow.Proofs.MarkCalls
import GrammarFlow.Proofs.LineMessages
import GrammarFlow.Proofs.ReindentedActions
import GrammarFlow.Proofs.LeftMarks
import GrammarFlow.Proofs.ActionRanges
import GrammarFlow.Proofs.MarkableGrammars
import GrammarFlow.Text.LineScan
import GrammarFlow.Proofs.MarkedOrder
import GrammarFlow.Proofs.LineStarts
import GrammarFlow.Proofs.TextLines
import GrammarFlow.Proofs.QuotedTokens
import GrammarFlow.Proofs.TrailingInput
import GrammarFlow.Proofs.MaskedGrammar
import GrammarFlow.Proofs.HiddenComments
import GrammarFlow.Proofs.DeclaredRules
import GrammarFlow.Process.ShellReader
import GrammarFlow.Grammar.RuleIndex
import GrammarFlow.Proofs.DigitValues
import GrammarFlow.Proofs.TreeShapes
import GrammarFlow.Proofs.CommandLines
import GrammarFlow.Transcript.DurationPatterns
import GrammarFlow.Proofs.WholeTexts
import GrammarFlow.Proofs.ClockDurations
import GrammarFlow.Proofs.ClockPattern
import GrammarFlow.Proofs.DurationPatterns
import GrammarFlow.Proofs.RuleTables
import GrammarFlow.Proofs.ArgumentTemplates
import GrammarFlow.Proofs.RootRules
import GrammarFlow.Proofs.StateLookups
import GrammarFlow.Marks.LookUpByOffset
import GrammarFlow.Proofs.CheckedLookup
import GrammarFlow.Process.LineReader
import GrammarFlow.Proofs.DecodedLines
import GrammarFlow.Proofs.GrammarNames
import GrammarFlow.Proofs.WorkingFolders
import GrammarFlow.Text.WordSlice
import GrammarFlow.Proofs.SlicedTexts
