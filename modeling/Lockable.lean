import Lockable.ActionBar.Bench
import Lockable.Client.Bench
import Lockable.Desk.Bench
import Lockable.Main
import Lockable.Note.Bench
import Lockable.Proofs.ActionBar
import Lockable.Proofs.Gating
import Lockable.Proofs.Calls
import Lockable.Proofs.Desk.Table
import Lockable.Proofs.Desk.AtRest
import Lockable.Proofs.Desk.Acts
import Lockable.Proofs.Desk.Reachable
import Lockable.Proofs.Command.Part
import Lockable.Proofs.Permissions
import Lockable.Proofs.Command.Checked
import Lockable.Proofs.Command.Gating
import Lockable.Proofs.Desk.Reload
import Lockable.Proofs.Panel.Visibility
import Lockable.Proofs.Panel.EmptySelection
import Lockable.Proofs.Panel.Monotone
import Lockable.Proofs.Crumb
import Lockable.Proofs.Listing
import Lockable.Proofs.Integration
import Lockable.Proofs.Form
import Lockable.Proofs.Address
import Lockable.Proofs.Intact
import Lockable.Proofs.Note.Tasks
import Lockable.Proofs.Note.LatestRequest
import Lockable.Proofs.Note.Thread
import Lockable.Proofs.Note.Separation
import Lockable.Proofs.Configuration
import Lockable.Proofs.Secrecy
import Lockable.Proofs.Command.Secrecy
import Lockable.Proofs.Trail.File
import Lockable.Proofs.Trail.Records
import Lockable.Proofs.Desk.Contacts
import Lockable.Proofs.Trail.Status
import Lockable.Proofs.Panel.Failure
import Lockable.Proofs.Batch
import Lockable.Proofs.Spelling
import Lockable.Proofs.Desk.Redraw
import Lockable.Proofs.Keeper
import Lockable.Proofs.Component
import Lockable.Proofs.Derivation
import Lockable.Proofs.Number.Nearest
import Lockable.Proofs.Number.Shortest
import Lockable.Proofs.Tracker
import Lockable.Proofs.Json.Numeral
import Lockable.Proofs.Json.RoundTrip
import Lockable.Proofs.Trail.Line
import Lockable.Proofs.Trail.Rotation
