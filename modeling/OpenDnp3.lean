import OpenDnp3.Lib.Run
import OpenDnp3.Serialization
import OpenDnp3.Link.Crc
import OpenDnp3.Link.Frame
import OpenDnp3.Link.Parser
import OpenDnp3.Link.Scan
import OpenDnp3.Link.ParserSpec
import OpenDnp3.Link.ParserSafety
import OpenDnp3.Link.CrcSpec
import OpenDnp3.Link.Format
import OpenDnp3.Link.FormatSpec
import OpenDnp3.Link.Context
import OpenDnp3.Link.Service
import OpenDnp3.Link.ServiceInvariant
import OpenDnp3.Link.ServiceFrames
import OpenDnp3.Link.ServiceSpec
import OpenDnp3.Link.Events
import OpenDnp3.Link.Arbitration
import OpenDnp3.Link.StatusReports
import OpenDnp3.Link.StatusEvents
import OpenDnp3.Link.Status
import OpenDnp3.App.GroupVariation
import OpenDnp3.App.Parser
import OpenDnp3.App.ParserReaders
import OpenDnp3.App.ParserSpec
import OpenDnp3.App.CheckedParser
import OpenDnp3.App.CheckedParserSpec
import OpenDnp3.Outstation.EventStorage
import OpenDnp3.Outstation.EventRecords
import OpenDnp3.Outstation.EventStorageSpec
import OpenDnp3.Outstation.EventWriting
import OpenDnp3.App.HeaderWriter
import OpenDnp3.App.Encoding
import OpenDnp3.App.Bitfield
import OpenDnp3.Outstation.Database
import OpenDnp3.Outstation.DatabaseSpec
import OpenDnp3.Outstation.StaticSelection
import OpenDnp3.Outstation.StaticReport
import OpenDnp3.Outstation.OctetReport
import OpenDnp3.Outstation.IndexSearch
import OpenDnp3.Outstation.Bitfields
import OpenDnp3.Outstation.BitfieldReport
import OpenDnp3.App.Apdu
import OpenDnp3.Transport.Transport
import OpenDnp3.Transport.TransportSpec
import OpenDnp3.Outstation.EventBuffer
import OpenDnp3.Outstation.EventVariation
import OpenDnp3.Outstation.EventEncoding
import OpenDnp3.Outstation.EventDecoding
import OpenDnp3.Outstation.EventOverflow
import OpenDnp3.Outstation.Handlers
import OpenDnp3.Outstation.Context
import OpenDnp3.Outstation.HandlersSpec
import OpenDnp3.Outstation.ResponseSpec
import OpenDnp3.Outstation.ContextSpec
import OpenDnp3.Outstation.ConfirmWait
import OpenDnp3.Outstation.Transmission
import OpenDnp3.Outstation.SingleTransmission
import OpenDnp3.Outstation.EventDelivery
import OpenDnp3.Outstation.SelectOperate
import OpenDnp3.Outstation.Retransmission
import OpenDnp3.Outstation.CommandCalls
import OpenDnp3.Outstation.CommandHeaders
import OpenDnp3.Outstation.CommandEcho
import OpenDnp3.Master.Confirms
import OpenDnp3.Master.Scheduler
import OpenDnp3.Master.Turns
import OpenDnp3.Master.Acts
import OpenDnp3.Master.Session
import OpenDnp3.Master.Books
import OpenDnp3.Master.SchedulerSpec
import OpenDnp3.Master.Selection
import OpenDnp3.Master.Bookkeeping
import OpenDnp3.Master.Blocking
import OpenDnp3.Master.CommandStages
import OpenDnp3.Master.SelectBeforeOperate
import OpenDnp3.EndToEnd.Delivery
import OpenDnp3.EndToEnd.CommonTime
import OpenDnp3.Outstation.ClassAssignment
import OpenDnp3.Outstation.VariationLoads
import OpenDnp3.Outstation.VariationReport
import OpenDnp3.Lib.DoublyLinked
import OpenDnp3.Master.Backoff
import OpenDnp3.Outstation.LinkedList
import OpenDnp3.Outstation.LinkedListSpec
import OpenDnp3.Outstation.LinkedListPool
import OpenDnp3.Master.CommandEncoding
import OpenDnp3.Outstation.Measurements
import OpenDnp3.Outstation.BinaryState
import OpenDnp3.Outstation.Deadband
import OpenDnp3.Master.FragmentChain
import OpenDnp3.Master.ChainInvariant
import OpenDnp3.Master.PollChain
import OpenDnp3.Channel.IOHandler
import OpenDnp3.Channel.IOHandlerSpec
import OpenDnp3.Channel.CallLog
import OpenDnp3.Channel.Calls
import OpenDnp3.Channel.LifeCycle
import OpenDnp3.Channel.Connecting
import OpenDnp3.Channel.SharedQueue
import OpenDnp3.Channel.Completions
import OpenDnp3.Link.Progress
import OpenDnp3.Link.Unconfirmed
import OpenDnp3.Transport.Layer
import OpenDnp3.Transport.LayerSpec
import OpenDnp3.Link.Stream
import OpenDnp3.Transport.Reassembly
import OpenDnp3.Transport.Traffic
import OpenDnp3.EndToEnd.Line
import OpenDnp3.EndToEnd.LineSpec
import OpenDnp3.Outstation.LoadProgress
import OpenDnp3.Outstation.ContextDatabase
import OpenDnp3.Outstation.ResponseRound
import OpenDnp3.Outstation.ResponseSeries
import OpenDnp3.Lib.Picking
import OpenDnp3.Outstation.EventSelection
import OpenDnp3.Outstation.LoadReport
import OpenDnp3.Outstation.LoadSeries
