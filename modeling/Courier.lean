import Courier.Acknowledgement
import Courier.Batcher
import Courier.Binary64
import Courier.Binary64.Reading
import Courier.Binary64.Shortest
import Courier.Broker
import Courier.Broker.Mailbox
import Courier.Broker.Opening
import Courier.Broker.Queue
import Courier.Broker.Session
import Courier.Closing
import Courier.Code
import Courier.Directory
import Courier.Document.Calendar
import Courier.Document.Json
import Courier.Document.Numeral
import Courier.Document.Toml
import Courier.Document.Value
import Courier.Document.Yaml
import Courier.Document.Yaml.Cursor
import Courier.Document.Yaml.Name
import Courier.Document.Yaml.Node
import Courier.Document.Yaml.Scalar
import Courier.Document.Yaml.Token
import Courier.Duration
import Courier.Fault
import Courier.Flow
import Courier.Limits
import Courier.Message
import Courier.Metadata
import Courier.Outbox
import Courier.Power
import Courier.Proofs.Acknowledgement
import Courier.Proofs.Batcher.Answers
import Courier.Proofs.Batcher.Drains
import Courier.Proofs.Batcher.Moves
import Courier.Proofs.Batcher.Order
import Courier.Proofs.Batcher.Panics
import Courier.Proofs.Batcher.Tasks
import Courier.Proofs.Batcher.Waking
import Courier.Proofs.Binary64.Grid
import Courier.Proofs.Binary64.Places
import Courier.Proofs.Binary64.Power
import Courier.Proofs.Binary64.Relative
import Courier.Proofs.Broker
import Courier.Proofs.Broker.Acts
import Courier.Proofs.Broker.FanOut
import Courier.Proofs.Broker.Opening
import Courier.Proofs.Broker.Waking
import Courier.Proofs.Cancelling
import Courier.Proofs.Closing
import Courier.Proofs.Duration
import Courier.Proofs.Flow
import Courier.Proofs.Flow.Monotone
import Courier.Proofs.Graceful
import Courier.Proofs.Keyed
import Courier.Proofs.Metadata
import Courier.Proofs.Outbox.Batches
import Courier.Proofs.Outbox.Calls
import Courier.Proofs.Outbox.Moves
import Courier.Proofs.Outbox.Replies
import Courier.Proofs.Outbox.Spent
import Courier.Proofs.Outbox.Stopped
import Courier.Proofs.Queue.Accounted
import Courier.Proofs.Queue.InOrder
import Courier.Proofs.Queue.Moves
import Courier.Proofs.Queue.Redelivery
import Courier.Proofs.Queue.Table
import Courier.Proofs.Queue.Turns
import Courier.Proofs.Registry
import Courier.Proofs.Retry.Backoff
import Courier.Proofs.Retry.Formula
import Courier.Proofs.Retry.Moves
import Courier.Proofs.Retry.Stopping
import Courier.Proofs.Run
import Courier.Proofs.Session.Acts
import Courier.Proofs.Session.AtLeastOnce
import Courier.Proofs.Session.InOrder
import Courier.Proofs.Session.Linked
import Courier.Proofs.Session.Moves
import Courier.Proofs.Session.Waking
import Courier.Proofs.Settings.Fields
import Courier.Proofs.Settings.Layers
import Courier.Proofs.Settings.Names
import Courier.Proofs.Settings.Places
import Courier.Proofs.Settings.Rules
import Courier.Proofs.Subscription.Acknowledged
import Courier.Proofs.Subscription.Acks
import Courier.Proofs.Subscription.Answers
import Courier.Proofs.Subscription.Cancellations
import Courier.Proofs.Subscription.Changes
import Courier.Proofs.Subscription.Deliveries
import Courier.Proofs.Subscription.Failures
import Courier.Proofs.Subscription.Fetches
import Courier.Proofs.Subscription.Flushing
import Courier.Proofs.Subscription.Moves
import Courier.Proofs.Subscription.OneShot
import Courier.Proofs.Subscription.Ownership
import Courier.Proofs.Subscription.Permanent
import Courier.Proofs.Subscription.Refusing
import Courier.Proofs.Subscription.Sizes
import Courier.Proofs.Subscription.Waiting
import Courier.Proofs.Topic.Calls
import Courier.Proofs.Topic.Closed
import Courier.Proofs.Topic.Failures
import Courier.Proofs.Topic.Moves
import Courier.Proofs.Topic.Outcomes
import Courier.Proofs.Topic.Sends
import Courier.Proofs.Wrapping
import Courier.Provider
import Courier.Registry
import Courier.Rehearsal.Batching
import Courier.Rehearsal.Brokering
import Courier.Rehearsal.Consuming
import Courier.Rehearsal.Publishing
import Courier.Rehearsal.Recording
import Courier.Rehearsal.Retrying
import Courier.Rehearsal.Script
import Courier.Rehearsal.Settle
import Courier.Retry.Call
import Courier.Retry.Policy
import Courier.Settings
import Courier.Settings.Layers
import Courier.Settings.Place
import Courier.Settings.Written
import Courier.Subscription
import Courier.Text.Composed
import Courier.Text.Composites
import Courier.Text.Direction
import Courier.Text.Joining
import Courier.Text.Mark
import Courier.Text.Quoted
import Courier.Text.Table
import Courier.Text.Unprintable
import Courier.Text.Utf8
import Courier.Token
import Courier.Topic
import Courier.Url
import Courier.Url.Address
import Courier.Url.Folding
import Courier.Url.Name
import Courier.Url.Percent
import Courier.Url.Punycode
