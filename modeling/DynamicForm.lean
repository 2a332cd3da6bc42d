import DynamicForm.Autosave.Basic
import DynamicForm.Autosave.Session
import DynamicForm.Backend.Basic
import DynamicForm.Backend.Content
import DynamicForm.Backend.Forms
import DynamicForm.Backend.Message
import DynamicForm.Backend.Origins
import DynamicForm.Backend.Samples
import DynamicForm.Backend.Shelf
import DynamicForm.Check.Address
import DynamicForm.Check.Basic
import DynamicForm.Check.OfField
import DynamicForm.Coercion
import DynamicForm.Date.Calendar
import DynamicForm.Date.Members
import DynamicForm.Date.Reader
import DynamicForm.Date.Token
import DynamicForm.Date.Words
import DynamicForm.Definition.Basic
import DynamicForm.Definition.Issue
import DynamicForm.Definition.Problems
import DynamicForm.Definition.Reader
import DynamicForm.Definition.Writer
import DynamicForm.Display
import DynamicForm.Editor.Basic
import DynamicForm.Editor.Command
import DynamicForm.Editor.Edit
import DynamicForm.Editor.Position
import DynamicForm.Error
import DynamicForm.Fault
import DynamicForm.Form.Basic
import DynamicForm.Form.Control
import DynamicForm.Form.Initial
import DynamicForm.Form.Loading
import DynamicForm.Json.Reader
import DynamicForm.Json.Strict
import DynamicForm.Json.Token
import DynamicForm.Json.Writer
import DynamicForm.Notice
import DynamicForm.Notification
import DynamicForm.Number.Binary64
import DynamicForm.Number.Lenient
import DynamicForm.Number.Literal
import DynamicForm.Number.Shortest
import DynamicForm.Pattern.Expr
import DynamicForm.Pattern.Letter
import DynamicForm.Pattern.Matcher
import DynamicForm.Pattern.Node
import DynamicForm.Pattern.Reader
import DynamicForm.Pattern.Track
import DynamicForm.Proofs.Autosave.Advice
import DynamicForm.Proofs.Autosave.Bursts
import DynamicForm.Proofs.Autosave.Closing
import DynamicForm.Proofs.Autosave.Completion
import DynamicForm.Proofs.Autosave.Exclusion
import DynamicForm.Proofs.Autosave.Flight
import DynamicForm.Proofs.Autosave.Jobs
import DynamicForm.Proofs.Autosave.Latest
import DynamicForm.Proofs.Autosave.Ledger
import DynamicForm.Proofs.Autosave.Naming
import DynamicForm.Proofs.Autosave.Order
import DynamicForm.Proofs.Autosave.Passage
import DynamicForm.Proofs.Backend.Agreement
import DynamicForm.Proofs.Backend.Review
import DynamicForm.Proofs.Check.Addresses
import DynamicForm.Proofs.Check.Amounts
import DynamicForm.Proofs.Check.Faults
import DynamicForm.Proofs.Check.Omission
import DynamicForm.Proofs.Check.Tightening
import DynamicForm.Proofs.Comparison
import DynamicForm.Proofs.Containment
import DynamicForm.Proofs.Date.Amounts
import DynamicForm.Proofs.Definition.Dependency
import DynamicForm.Proofs.Definition.Leading
import DynamicForm.Proofs.Definition.Reading
import DynamicForm.Proofs.Definition.RoundTrip
import DynamicForm.Proofs.Definition.Soundness
import DynamicForm.Proofs.Editor.Announcement
import DynamicForm.Proofs.Editor.Dangling
import DynamicForm.Proofs.Editor.Generation
import DynamicForm.Proofs.Editor.Listeners
import DynamicForm.Proofs.Editor.Reachable
import DynamicForm.Proofs.Editor.Recycling
import DynamicForm.Proofs.Editor.Reordering
import DynamicForm.Proofs.Editor.Revision
import DynamicForm.Proofs.Editor.Snapshot
import DynamicForm.Proofs.Equality
import DynamicForm.Proofs.Form.Assignment
import DynamicForm.Proofs.Form.Atomicity
import DynamicForm.Proofs.Form.Consistency
import DynamicForm.Proofs.Form.Construction
import DynamicForm.Proofs.Form.Influence
import DynamicForm.Proofs.Form.Leniency
import DynamicForm.Proofs.Form.Loading
import DynamicForm.Proofs.Form.Marks
import DynamicForm.Proofs.Form.Passes
import DynamicForm.Proofs.Form.Reachable
import DynamicForm.Proofs.Form.Rearrangement
import DynamicForm.Proofs.Form.Recollection
import DynamicForm.Proofs.Form.Relabelling
import DynamicForm.Proofs.Form.Renewal
import DynamicForm.Proofs.Form.Restoring
import DynamicForm.Proofs.Form.Settling
import DynamicForm.Proofs.Form.Submission
import DynamicForm.Proofs.Listening.Course
import DynamicForm.Proofs.Listening.Order
import DynamicForm.Proofs.Listening.Replay
import DynamicForm.Proofs.Listening.Subjects
import DynamicForm.Proofs.Number.Integers
import DynamicForm.Proofs.Number.Rounding
import DynamicForm.Proofs.Pattern.Groups
import DynamicForm.Proofs.Pattern.Spans
import DynamicForm.Proofs.Pattern.Words
import DynamicForm.Proofs.Slug
import DynamicForm.Proofs.Storage.Drafts
import DynamicForm.Proofs.Storage.Foresight
import DynamicForm.Proofs.Storage.Reference
import DynamicForm.Proofs.Storage.Refusal
import DynamicForm.Proofs.Storage.Verdict
import DynamicForm.Proofs.Subscribers
import DynamicForm.Proofs.Text.Lowering
import DynamicForm.Proofs.Timer
import DynamicForm.Proofs.Visibility
import DynamicForm.Settings
import DynamicForm.Slug
import DynamicForm.Storage.Client
import DynamicForm.Storage.Exchange
import DynamicForm.Storage.Route
import DynamicForm.Submission
import DynamicForm.Subscribers
import DynamicForm.Text.Blank
import DynamicForm.Text.Case
import DynamicForm.Text.Composition
import DynamicForm.Text.Digits
import DynamicForm.Text.Encoding
import DynamicForm.Text.Identifier
import DynamicForm.Text.Letters
import DynamicForm.Text.Name.Alphabets
import DynamicForm.Text.Name.Further
import DynamicForm.Text.Name.Hangul
import DynamicForm.Text.Name.Lookup
import DynamicForm.Text.Name.Pictures
import DynamicForm.Text.Name.Run
import DynamicForm.Text.Name.Scripts
import DynamicForm.Text.Name.Signs
import DynamicForm.Text.Name.Syllables
import DynamicForm.Text.Name.Symbols
import DynamicForm.Text.Parts
import DynamicForm.Text.Printable
import DynamicForm.Text.Punycode
import DynamicForm.Text.Quoted
import DynamicForm.Text.Ranges
import DynamicForm.Timer
import DynamicForm.Value
import DynamicForm.Visibility
import DynamicForm.Web.Coding
import DynamicForm.Web.Domain
import DynamicForm.Web.Domain.Joining
import DynamicForm.Web.Domain.Kind
import DynamicForm.Web.Host
import DynamicForm.Web.Inflate
import DynamicForm.Web.Url
