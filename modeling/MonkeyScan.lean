import MonkeyScan.About
import MonkeyScan.Editor.Workspace
import MonkeyScan.Main
import MonkeyScan.Number.Shortest
import MonkeyScan.Reader
import MonkeyScan.Proofs.Places
import MonkeyScan.Proofs.CursorState
import MonkeyScan.Proofs.Munch
import MonkeyScan.Proofs.TokenPlaces
import MonkeyScan.Proofs.IllegalCharacters
import MonkeyScan.Proofs.Encoding
import MonkeyScan.Proofs.DiagnosticRanges
import MonkeyScan.Proofs.SharedCursor
import MonkeyScan.Proofs.Concatenation
import MonkeyScan.Proofs.LineEnds
import MonkeyScan.Proofs.Reporting
import MonkeyScan.Proofs.TwoReadings
import MonkeyScan.Proofs.Writing
import MonkeyScan.Proofs.SinglePass
import MonkeyScan.Proofs.Delivery
import MonkeyScan.Proofs.Outcome
import MonkeyScan.Proofs.Journal
import MonkeyScan.Proofs.Polls
import MonkeyScan.Proofs.Sessions
import MonkeyScan.Proofs.Rescans
import MonkeyScan.Proofs.Endurance
import MonkeyScan.Proofs.Spellings
import MonkeyScan.Proofs.Renderings
import MonkeyScan.Proofs.Configuration
import MonkeyScan.Proofs.Precedence
import MonkeyScan.Proofs.Refusals
import MonkeyScan.Proofs.Numerals
import MonkeyScan.Proofs.QuotedText
import MonkeyScan.Proofs.Snippets
import MonkeyScan.Proofs.JsonReader
import MonkeyScan.Proofs.JsonListings
import MonkeyScan.Proofs.TextListings
import MonkeyScan.Proofs.TokenTables
import MonkeyScan.Proofs.WrittenScans
import MonkeyScan.Proofs.Resumption
import MonkeyScan.Proofs.Recovery
import MonkeyScan.Proofs.Progress
import MonkeyScan.Proofs.Runs
