import Courier.Announcement
import Courier.Backoff
import Courier.Broadcast
import Courier.Catalog
import Courier.Channel
import Courier.Delivery
import Courier.Event
import Courier.Failure
import Courier.Http.Api
import Courier.Http.Query
import Courier.Http.Route
import Courier.Http.Target
import Courier.Json
import Courier.Json.Parser
import Courier.Json.Printer
import Courier.Json.Record
import Courier.Json.Skim
import Courier.Message.Email
import Courier.Message.Html
import Courier.Message.Labels
import Courier.Message.Renderer
import Courier.Message.Subject
import Courier.Message.Telegram
import Courier.Message.Webhook
import Courier.Metrics
import Courier.Metrics.Exposition
import Courier.Notification
import Courier.Number.Decimal
import Courier.Number.Double
import Courier.Number.Shortest
import Courier.Order
import Courier.Outcome
import Courier.Payload
import Courier.Payload.Elapsed
import Courier.Pool
import Courier.Program
import Courier.Proofs.Announcement.Accounts
import Courier.Proofs.Announcement.Bureau
import Courier.Proofs.Announcement.Delivered
import Courier.Proofs.Announcement.Handler
import Courier.Proofs.Announcement.Items
import Courier.Proofs.Announcement.Lookup
import Courier.Proofs.Announcement.Recipients
import Courier.Proofs.Announcement.Snapshot
import Courier.Proofs.Backoff
import Courier.Proofs.Backoff.Growth
import Courier.Proofs.Backoff.Overflow
import Courier.Proofs.Broadcast
import Courier.Proofs.Course
import Courier.Proofs.Crew.Address
import Courier.Proofs.Crew.Budget
import Courier.Proofs.Crew.Cover
import Courier.Proofs.Crew.Custody
import Courier.Proofs.Crew.Delivered
import Courier.Proofs.Crew.Lined
import Courier.Proofs.Crew.Machine
import Courier.Proofs.Crew.Pause
import Courier.Proofs.Crew.Reach
import Courier.Proofs.Crew.Scene
import Courier.Proofs.Crew.Setbacks
import Courier.Proofs.Crew.Tally
import Courier.Proofs.Crew.Tenure
import Courier.Proofs.Crew.Vouched
import Courier.Proofs.Crew.Wording
import Courier.Proofs.Delivery.Apart
import Courier.Proofs.Delivery.Batch
import Courier.Proofs.Delivery.Portions
import Courier.Proofs.Delivery.Retry
import Courier.Proofs.Delivery.Round
import Courier.Proofs.Delivery.Stage
import Courier.Proofs.Delivery.Tally
import Courier.Proofs.Delivery.Verdict
import Courier.Proofs.Http.Api
import Courier.Proofs.Json.Codec
import Courier.Proofs.Json.Skim
import Courier.Proofs.Json.Text
import Courier.Proofs.Json.Written
import Courier.Proofs.Message.Escape
import Courier.Proofs.Message.Fit
import Courier.Proofs.Message.Limit
import Courier.Proofs.Message.Markup
import Courier.Proofs.Message.Renderer
import Courier.Proofs.Message.Tags
import Courier.Proofs.Message.Telegram
import Courier.Proofs.Metrics
import Courier.Proofs.Number.Bounds
import Courier.Proofs.Number.Double
import Courier.Proofs.Office.Machine
import Courier.Proofs.Office.Order
import Courier.Proofs.Order
import Courier.Proofs.Payload
import Courier.Proofs.Payload.Elapsed
import Courier.Proofs.Pool.Start
import Courier.Proofs.Pool.Stop
import Courier.Proofs.Queue.Attempts
import Courier.Proofs.Queue.Claim
import Courier.Proofs.Queue.Count
import Courier.Proofs.Queue.Due
import Courier.Proofs.Queue.History
import Courier.Proofs.Queue.Line
import Courier.Proofs.Queue.Listing
import Courier.Proofs.Queue.Recovery
import Courier.Proofs.Queue.Rows
import Courier.Proofs.Registry
import Courier.Proofs.Repository
import Courier.Proofs.Rules
import Courier.Proofs.Sender.Complaint
import Courier.Proofs.Sender.Excerpt
import Courier.Proofs.Sender.Exchange
import Courier.Proofs.Settings
import Courier.Proofs.Settings.Environment
import Courier.Proofs.Store.Channels
import Courier.Proofs.Store.Edit
import Courier.Proofs.Store.Subscribers
import Courier.Proofs.Text.Digits
import Courier.Proofs.Text.Reading
import Courier.Proofs.Time.Calendar
import Courier.Proofs.Time.Instant
import Courier.Proofs.Time.Rfc3339
import Courier.Proofs.Uuid
import Courier.Proofs.World
import Courier.Queue.Item
import Courier.Queue.Stats
import Courier.Registry
import Courier.Sender
import Courier.Sender.Email
import Courier.Sender.Exchange
import Courier.Sender.Telegram
import Courier.Settings
import Courier.Settings.Environment
import Courier.Store
import Courier.Store.Call
import Courier.Table
import Courier.Text.Base64
import Courier.Text.Blank
import Courier.Text.Hex
import Courier.Text.Integer
import Courier.Text.Percent
import Courier.Text.Utf8
import Courier.Time.Calendar
import Courier.Time.Instant
import Courier.Time.Rfc3339
import Courier.Time.Seconds
import Courier.Url
import Courier.Url.Domain
import Courier.Url.Host
import Courier.Url.Ipv4
import Courier.Url.Ipv6
import Courier.Url.Punycode
import Courier.Uuid
import Courier.World
