import PullNotes.Main
import PullNotes.Proofs.Adjacency
import PullNotes.Proofs.Independence
import PullNotes.Proofs.Markdown.Blocks
import PullNotes.Proofs.TwoReviewers
import PullNotes.Proofs.Json.Values
import PullNotes.Proofs.Framing
import PullNotes.Proofs.Files
import PullNotes.Proofs.Json.Lines
import PullNotes.Proofs.Checking
import PullNotes.Proofs.Settings
import PullNotes.Proofs.SettingChange
import PullNotes.Proofs.SettingsKept
import PullNotes.Proofs.Readability
import PullNotes.Proofs.Markdown.LineFeeds
import PullNotes.Proofs.Limit
import PullNotes.Proofs.Strictness
import PullNotes.Proofs.Sections
import PullNotes.Proofs.Change.QuotedPaths
import PullNotes.Proofs.Literal.Meaning
import PullNotes.Proofs.BareObject
import PullNotes.Proofs.Markdown.Spans
import PullNotes.Proofs.SettingFields
import PullNotes.Proofs.Messages
import PullNotes.Proofs.SettingsFaults
import PullNotes.Proofs.Markdown.Clipping
import PullNotes.Proofs.FirstError
import PullNotes.Proofs.Silence
import PullNotes.Proofs.Acceptance
import PullNotes.Proofs.Console.Verbatim
import PullNotes.Proofs.Traversal
import PullNotes.Proofs.WaitingScript
import PullNotes.Proofs.ContextFaults
