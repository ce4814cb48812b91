import RtMessage.Header
import RtMessage.Os
import RtMessage.Json
import RtMessage.Connection
import RtMessage.Router
import RtMessage.Lib.Loop
import RtMessage.Sending
import RtMessage.SendAccepted
import RtMessage.Framing
import RtMessage.Forwarding
import RtMessage.Dispatch
import RtMessage.ReaderBounds
import RtMessage.Scripted
import RtMessage.Termination
import RtMessage.Isolation
import RtMessage.Receiving
import RtMessage.FrameDelivery
import RtMessage.TimedDispatch
import RtMessage.Lib.Run
import RtMessage.Listeners
import RtMessage.Requests
import RtMessage.RouterSpec
import RtMessage.FrameReader
import RtMessage.ReaderRuns
import RtMessage.Routing
import RtMessage.Refinement
import RtMessage.ErrorReply
import RtMessage.HeaderCodec
import RtMessage.TopicGrammar
import RtMessage.NoDangling
import RtMessage.TwoReaders
import RtMessage.OwnBytes
import RtMessage.Truncation
import RtMessage.DataProvider.Utility
import RtMessage.DataProvider.Database
import RtMessage.DataProvider.Provider
import RtMessage.DataProvider.Host
import RtMessage.DataProvider.AccessControl
import RtMessage.DataProvider.Query
import RtMessage.Reregistration
import RtMessage.Session
import RtMessage.Subscribers
import RtMessage.PublishSubscribe
import RtMessage.Consumption
import RtMessage.DataProvider.Assignments
import RtMessage.DataProvider.Answers
import RtMessage.DataProvider.Paths
import RtMessage.DataProvider.Tree
import RtMessage.Lib.Calls
import RtMessage.DataProvider.Client
import RtMessage.DataProvider.GetSuccess
import RtMessage.DataProvider.GetSafety
import RtMessage.DataProvider.Forest
import RtMessage.Lib.Preorder
import RtMessage.DataProvider.Traversal
import RtMessage.MessageStore
import RtMessage.Lib.NodeStore
import RtMessage.MessageNodes
import RtMessage.MessageOwnership
import RtMessage.DataProvider.ListGets
import RtMessage.DataProvider.SetTrimming
import RtMessage.DataProvider.Registrations
import RtMessage.DataProvider.Constructions
import RtMessage.ControlMessages
import RtMessage.Reconnection
import RtMessage.SendingTasks
import RtMessage.ConnectReports
import RtMessage.SendTermination
import RtMessage.DataProvider.SplitParams
import RtMessage.Lib.DataRefinement
import RtMessage.Vector
import RtMessage.RouteRemoval
import RtMessage.StringGetters
import RtMessage.Lib.Decimal
import RtMessage.Lib.ByteOrder
import RtMessage.SocketAddress
import RtMessage.DataProvider.NumericText
import RtMessage.DataProvider.SplitString
import RtMessage.MainLoop
import RtMessage.Membership
import RtMessage.Creation
import RtMessage.DataProvider.HostRun
import RtMessage.DataProvider.RoundTrip
import RtMessage.Draining
import RtMessage.Startup
import RtMessage.DataProvider.Service
import RtMessage.DataProvider.Registers
import RtMessage.SocketText
import RtMessage.ConnectedTable
import RtMessage.DataProvider.ServiceStart
