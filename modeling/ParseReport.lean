import ParseReport.DeadEnd
import ParseReport.Main
import ParseReport.Proofs.Histories
import ParseReport.Proofs.Reading
import ParseReport.Proofs.Rounds
import ParseReport.Proofs.Cascades
import ParseReport.Proofs.Limits
import ParseReport.Proofs.Feeding
import ParseReport.Proofs.Termination
import ParseReport.Proofs.Lines
import ParseReport.Proofs.Positions
import ParseReport.Proofs.Grouping
import ParseReport.Proofs.SourceBlocks
import ParseReport.Proofs.FirstError
import ParseReport.Proofs.FilteredReport
import ParseReport.Proofs.Fragments
import ParseReport.Proofs.HtmlReading
import ParseReport.Proofs.MarkdownReading
import ParseReport.Proofs.StyledSpans
import ParseReport.Proofs.Causes
import ParseReport.Proofs.Coordinates
import ParseReport.Proofs.Sessions
import ParseReport.Proofs.Carets
import ParseReport.Proofs.TerminalColumns
import ParseReport.Proofs.ExpectedEnd
import ParseReport.Proofs.Stretches
import ParseReport.Proofs.ReportLaws
import ParseReport.Proofs.NewFiles
import ParseReport.Proofs.ExitCodes
import ParseReport.Proofs.Windows
import ParseReport.Proofs.FirstFault
import ParseReport.Proofs.ExpectingLines
import ParseReport.Proofs.DescriptionLines
import ParseReport.Proofs.Conversions
import ParseReport.Proofs.Diagnoses
import ParseReport.Proofs.Partings
import ParseReport.Proofs.Literals
import ParseReport.Proofs.Encoding
import ParseReport.Proofs.SettingsFiles
import ParseReport.Proofs.SettingsLayers
import ParseReport.Proofs.ContextHeaders
