import EventBroker.Backoff
import EventBroker.Base64
import EventBroker.Binary64
import EventBroker.Boot
import EventBroker.Bytes
import EventBroker.Call
import EventBroker.Config
import EventBroker.Config.Json
import EventBroker.Config.Load
import EventBroker.Config.Path
import EventBroker.Config.Value
import EventBroker.Config.Yaml
import EventBroker.Config.Yaml.Block
import EventBroker.Config.Yaml.Nesting
import EventBroker.Config.Yaml.Node
import EventBroker.Config.Yaml.Place
import EventBroker.Config.Yaml.Plain
import EventBroker.Config.Yaml.Scalar
import EventBroker.Config.Yaml.Tag
import EventBroker.Config.Yaml.Token
import EventBroker.Config.Yaml.Tokens
import EventBroker.Event
import EventBroker.Event.Draft
import EventBroker.Event.Filter
import EventBroker.Event.Hops
import EventBroker.Event.Http
import EventBroker.Event.Message
import EventBroker.Event.Structured
import EventBroker.Handler
import EventBroker.Http
import EventBroker.Ingress
import EventBroker.Json
import EventBroker.Json.Decode
import EventBroker.Json.Node
import EventBroker.Key
import EventBroker.Loader
import EventBroker.Main
import EventBroker.Message
import EventBroker.Network
import EventBroker.Pipeline
import EventBroker.Plane
import EventBroker.Pool
import EventBroker.Pool.Flavor
import EventBroker.Process
import EventBroker.Proofs.Queue.Conservation
import EventBroker.Proofs.Queue.Sound
import EventBroker.Proofs.Queue.Subscription
import EventBroker.Proofs.TextMap
import EventBroker.Queue
import EventBroker.Queue.Error
import EventBroker.Queue.Script
import EventBroker.Queue.Settings
import EventBroker.Queue.Subscription
import EventBroker.Request
import EventBroker.Site
import EventBroker.Snapshot
import EventBroker.Snapshot.Same
import EventBroker.Snapshot.Text
import EventBroker.Snapshot.Wire
import EventBroker.Text.Blank
import EventBroker.Text.Composition
import EventBroker.Text.Direction
import EventBroker.Text.Integer
import EventBroker.Text.Invisible
import EventBroker.Text.Joining
import EventBroker.Text.Mark
import EventBroker.Text.Quoted
import EventBroker.Text.Ranges
import EventBroker.TextMap
import EventBroker.Timestamp
import EventBroker.Url
import EventBroker.Url.Host
import EventBroker.Url.Name
import EventBroker.Url.Name.Refused
import EventBroker.Url.Name.Spelling
import EventBroker.Url.Percent
import EventBroker.Url.Punycode
import EventBroker.Wire
import EventBroker.Proofs.Integer
import EventBroker.Proofs.Timestamp
import EventBroker.Proofs.Event.Transport
import EventBroker.Proofs.Ingress
import EventBroker.Proofs.HopBudget
import EventBroker.Proofs.Queue.Ids
import EventBroker.Proofs.Queue.Live
import EventBroker.Proofs.Call
import EventBroker.Proofs.Call.Owing
import EventBroker.Proofs.Plane.Change
import EventBroker.Proofs.Plane.Pools
import EventBroker.Proofs.Plane.Run
import EventBroker.Proofs.Plane.NoLoss
import EventBroker.Proofs.Handler
import EventBroker.Proofs.Pool.Registry
import EventBroker.Proofs.Pool.WakeUp
import EventBroker.Proofs.Plane.Reload
import EventBroker.Proofs.Handler.Pump
import EventBroker.Proofs.Event.Readable
import EventBroker.Proofs.Key
import EventBroker.Proofs.Queue.Counters
import EventBroker.Proofs.Pool.Readers
import EventBroker.Proofs.Event.Attributes
import EventBroker.Proofs.Ingress.Filtering
import EventBroker.Proofs.Queue.Stock
import EventBroker.Proofs.Call.Origin
import EventBroker.Proofs.Plane.Guarded
import EventBroker.Proofs.Plane.Isolation
import EventBroker.Proofs.Key.RoundTrip
import EventBroker.Proofs.Queue.Generations
import EventBroker.Proofs.Wire
import EventBroker.Proofs.Snapshot.Wire
import EventBroker.Proofs.Json
import EventBroker.Proofs.Json.Decode
import EventBroker.Proofs.Snapshot.Text
import EventBroker.Proofs.Pool.Convergence
import EventBroker.Proofs.Pool.Listing
import EventBroker.Proofs.Plane.Loading
import EventBroker.Proofs.Event.Agreement
import EventBroker.Proofs.Call.Run
import EventBroker.Proofs.Call.Outcome
import EventBroker.Proofs.Call.Strands
import EventBroker.Proofs.Call.Passage
import EventBroker.Proofs.Plane.Routing
import EventBroker.Proofs.Plane.Swap
import EventBroker.Proofs.Queue.Publishing
import EventBroker.Proofs.Queue.Backlog
import EventBroker.Proofs.Queue.Order
import EventBroker.Proofs.Ingress.Sending
import EventBroker.Proofs.Key.Grammar
import EventBroker.Proofs.Event.Reading
import EventBroker.Proofs.Snapshot.Lookup
import EventBroker.Proofs.Pool.Pace
import EventBroker.Proofs.Pool.Restarts
import EventBroker.Proofs.Pool.Backoff
import EventBroker.Proofs.Handler.Ending
import EventBroker.Proofs.Pipeline
import EventBroker.Proofs.Call.Chain
import EventBroker.Proofs.Handler.Pauses
import EventBroker.Proofs.Pool.Reports
