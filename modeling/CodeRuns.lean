import CodeRuns.Text.Hex
import CodeRuns.Text.Stretch
import CodeRuns.Text.Blank
import CodeRuns.Text.Invisible
import CodeRuns.Text.Alphanumeric
import CodeRuns.Text.Terminal
import CodeRuns.Text.Line
import CodeRuns.CodePoint
import CodeRuns.Role
import CodeRuns.RunTable
import CodeRuns.RunTable.Fault
import CodeRuns.RunTable.Search
import CodeRuns.Classifier
import CodeRuns.Token
import CodeRuns.Event
import CodeRuns.UnicodeData
import CodeRuns.RunTable.Build
import CodeRuns.RunTable.Stats
import CodeRuns.Listing.Fill
import CodeRuns.Listing
import CodeRuns.Text.Bytes
import CodeRuns.Listing.Sink
import CodeRuns.Telemetry.Filter
import CodeRuns.Telemetry
import CodeRuns.Disk
import CodeRuns.UnicodeData.Load
import CodeRuns.Command.Options
import CodeRuns.Command
import CodeRuns.Main
import CodeRuns.Proofs.Classifier.Cover
import CodeRuns.Proofs.RunTable.Lookup
import CodeRuns.Proofs.Listing.Literals
import CodeRuns.Proofs.Listing.Tokens
import CodeRuns.Proofs.Listing.RoundTrip
import CodeRuns.Proofs.Text.Layout
import CodeRuns.Proofs.Text.Numeral
import CodeRuns.Proofs.UnicodeData.Grammar
import CodeRuns.Proofs.UnicodeData.Reading
import CodeRuns.Proofs.Pipeline
import CodeRuns.Proofs.RunTable.Shape
import CodeRuns.Proofs.RunTable.Image
import CodeRuns.Proofs.Classifier.Changes
import CodeRuns.Proofs.RunTable.Agreement
import CodeRuns.Proofs.Disk.Replacement
import CodeRuns.Proofs.Command.Stages
import CodeRuns.Proofs.RunTable.Merged
import CodeRuns.Proofs.Token.Category
import CodeRuns.Proofs.Listing.Report
import CodeRuns.Proofs.Telemetry.Attempts
import CodeRuns.Proofs.Descent
import CodeRuns.Proofs.RunTable.Faults
import CodeRuns.Proofs.Classifier.Scan
import CodeRuns.Proofs.RunTable.BuildFaults
import CodeRuns.Proofs.UnicodeData.Faults
import CodeRuns.Proofs.UnicodeData.Lockstep
import CodeRuns.Proofs.UnicodeData.Concatenation
import CodeRuns.Proofs.UnicodeData.Layout
import CodeRuns.Proofs.UnicodeData.Ranges
import CodeRuns.Proofs.Listing.Comments
import CodeRuns.Proofs.Listing.Lines
import CodeRuns.Proofs.UnicodeData.Ascension
import CodeRuns.Proofs.Listing.Truncation
import CodeRuns.Proofs.Token.Overlaps
import CodeRuns.Proofs.Token.Editions
