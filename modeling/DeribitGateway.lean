import DeribitGateway.Lib.Transducer
import DeribitGateway.Lib.LossyFeed
import DeribitGateway.Lib.PriceLevels
import DeribitGateway.Multicast.Channel
import DeribitGateway.Multicast.GapDetection
import DeribitGateway.Multicast.Gateway
import DeribitGateway.Multicast.UdpEvents
import DeribitGateway.Multicast.UdpSnapshot
import DeribitGateway.Multicast.BookCompleteness
import DeribitGateway.Multicast.SnapshotCompleteness
import DeribitGateway.Multicast.Duplicates
import DeribitGateway.Multicast.Trades
import DeribitGateway.Multicast.TradeLoss
import DeribitGateway.Fix.Message
import DeribitGateway.Fix.Download
import DeribitGateway.Fix.OrderEntry
import DeribitGateway.Fix.Handlers
import DeribitGateway.Fix.LostActions
import DeribitGateway.Fix.RejectCorrelation
import DeribitGateway.Fix.OrderDownload
import DeribitGateway.Fix.Fills
import DeribitGateway.Fix.MarketData
import DeribitGateway.Fix.Relations
import DeribitGateway.Lib.Numbering
import DeribitGateway.Fix.Numbering
import DeribitGateway.Fix.Timeouts
import DeribitGateway.Fix.LoggedOut
import DeribitGateway.Fix.BookRecovery
import DeribitGateway.Json.DropCopy
import DeribitGateway.Json.WebSocket
import DeribitGateway.Json.OwnTrades
import DeribitGateway.Json.DropCopyHandlers
import DeribitGateway.Json.Currencies
import DeribitGateway.Json.WebSocketHandlers
import DeribitGateway.Json.Authenticated
import DeribitGateway.Controller.Controller
import DeribitGateway.Fix.MarketDataHandlers
import DeribitGateway.Json.RestHandlers
import DeribitGateway.Controller.Handlers
import DeribitGateway.Controller.Announcements
import DeribitGateway.Controller.Subscriptions
import DeribitGateway.Controller.Latch
import DeribitGateway.Tools.Throttle
import DeribitGateway.Lib.Decimal
import DeribitGateway.Tools.Crypto
import DeribitGateway.Fix.Batching
import DeribitGateway.Fix.DownloadLabels
import DeribitGateway.Multicast.EmptySnapshots
import DeribitGateway.Json.Channel
import DeribitGateway.Json.Parser
import DeribitGateway.Lib.Framing
import DeribitGateway.Fix.Reading
import DeribitGateway.Lib.Flyweight
import DeribitGateway.Sbe.Parser
import DeribitGateway.Sbe.Decoding
import DeribitGateway.Sbe.Malformed
import DeribitGateway.Lib.SerialNumber
import DeribitGateway.Multicast.SerialNumbers
import DeribitGateway.Fix.LastTraded
import DeribitGateway.Json.ChartData
import DeribitGateway.Fix.MassCancel
import DeribitGateway.Json.Lookback
import DeribitGateway.Controller.Multipliers
import DeribitGateway.Fix.BookReplica
import DeribitGateway.Strategy.Controller
import DeribitGateway.Lib.Parallel
import DeribitGateway.Controller.OrderActions
import DeribitGateway.Lib.Outbox
import DeribitGateway.Json.Relations
import DeribitGateway.Json.Requests
import DeribitGateway.Controller.Watching
import DeribitGateway.Fix.RequestIds
import DeribitGateway.Lib.Bursts
import DeribitGateway.Fix.Refreshes
import DeribitGateway.Controller.Sharing
import DeribitGateway.Controller.StreamIds
import DeribitGateway.Fix.Sessions
import DeribitGateway.Lib.Changes
import DeribitGateway.Json.Prices
import DeribitGateway.Controller.Currencies
import DeribitGateway.Controller.Pricing
