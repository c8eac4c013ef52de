import Multiworld.AuditLog
import Multiworld.Binary64
import Multiworld.Binary64.Layout
import Multiworld.Binary64.Literal
import Multiworld.Binary64.Shortest
import Multiworld.Bounce
import Multiworld.Cause
import Multiworld.Client
import Multiworld.Client.Settings
import Multiworld.Color
import Multiworld.DeathNotice
import Multiworld.DeathScope
import Multiworld.Delivery
import Multiworld.Fragment
import Multiworld.Fragment.Wire
import Multiworld.Frame
import Multiworld.Frame.Assembler
import Multiworld.Hub
import Multiworld.Instant
import Multiworld.Json
import Multiworld.Json.Fault
import Multiworld.Json.Reader
import Multiworld.Json.Shape
import Multiworld.Json.Skim
import Multiworld.Json.TextRecord
import Multiworld.Json.Token
import Multiworld.Json.Writer
import Multiworld.Link
import Multiworld.Link.Bridge
import Multiworld.Link.Connection
import Multiworld.Link.Error
import Multiworld.Link.Settings
import Multiworld.LogFilter
import Multiworld.LogLine
import Multiworld.NameSet
import Multiworld.Packet
import Multiworld.Packet.Batch
import Multiworld.Packet.Wire
import Multiworld.Player
import Multiworld.Segment
import Multiworld.Session
import Multiworld.Slot
import Multiworld.Text.Blank
import Multiworld.Text.Integer
import Multiworld.Text.Quoted
import Multiworld.Text.Unprintable
import Multiworld.Text.Utf8
import Multiworld.World
import Multiworld.Proofs.Json.Token
import Multiworld.Proofs.Binary64.Layout
import Multiworld.Proofs.Json.Reader
import Multiworld.Proofs.Json.Shape
import Multiworld.Proofs.Packet.Wire
import Multiworld.Proofs.Packet.RoundTrip
import Multiworld.Proofs.Packet.Batch
import Multiworld.Proofs.Text.Utf8
import Multiworld.Proofs.Binary64.Rounding
import Multiworld.Proofs.Frame.Assembler
import Multiworld.Proofs.Frame.Stream
import Multiworld.Proofs.DeathNotice.Time
import Multiworld.Proofs.DeathNotice.RoundTrip
import Multiworld.Proofs.DeathNotice.Acceptance
import Multiworld.Proofs.Session.Tags
import Multiworld.Proofs.Bounce.History
import Multiworld.Proofs.Hub
import Multiworld.Proofs.Hub.Bounces
import Multiworld.Proofs.DeathScope
import Multiworld.Proofs.Hub.Deaths
import Multiworld.Proofs.Frame
import Multiworld.Proofs.Link.Life
import Multiworld.Proofs.Frame.Splitting
import Multiworld.Proofs.Link.Sending
import Multiworld.Proofs.Client.Writer
import Multiworld.Proofs.Client.Outbox
import Multiworld.Proofs.Client.Departure
import Multiworld.Proofs.Client.Failure
import Multiworld.Proofs.Hub.Batching
import Multiworld.Proofs.Link.Reading
import Multiworld.Proofs.LogLine.Players
import Multiworld.Proofs.Session.Deaths
import Multiworld.Proofs.Binary64.Interval
import Multiworld.Proofs.Binary64.Literal
import Multiworld.Proofs.Binary64.Shortest
import Multiworld.Proofs.Json.Float
import Multiworld.Proofs.DeathNotice.Seconds
import Multiworld.Proofs.Session.Echo
import Multiworld.Proofs.LogLine.Selection
import Multiworld.Proofs.LogLine.Views
import Multiworld.Proofs.Packet.Lenient
import Multiworld.Proofs.LogLine.Items
import Multiworld.Proofs.World
import Multiworld.Proofs.Segment.Numbers
import Multiworld.Proofs.Segment.Footprint
import Multiworld.Proofs.Text.Numeral
import Multiworld.Proofs.AuditLog
import Multiworld.Proofs.Link.Callbacks
import Multiworld.Proofs.Hub.Newcomers
import Multiworld.Proofs.Client.Settings
import Multiworld.Proofs.DeathScope.Keys
