import KszDriver.Nic.SourcesKept
import KszDriver.Nic.EndianMode
import KszDriver.Nic.Acknowledge
import KszDriver.Device.Closing
import KszDriver.Device.QuickRequests
import KszDriver.Device.Flushing
import KszDriver.Device.OrphanRule
import KszDriver.Device.Expunge
import KszDriver.Device.Padding
import KszDriver.Device.Aborting
import KszDriver.Device.EventWaiters
import KszDriver.Device.AccessDiscipline
import KszDriver.Device.StationAddress
import KszDriver.Device.WorkingOnline
import KszDriver.Device.OpenCount
import KszDriver.Device.ExclusiveAccess
import KszDriver.Device.WriterAlone
import KszDriver.Device.MixedFrames
import KszDriver.Nic.TxMemory
import KszDriver.Nic.RxBuffer
import KszDriver.Device.Delivery
import KszDriver.Device.ShortFrames
import KszDriver.Device.FixedMtu
import KszDriver.Device.RawAndCooked
import KszDriver.Nic.RxQueue
import KszDriver.Device.Dispatch
import KszDriver.Device.ReadQueues
import KszDriver.Device.Bystanders
import KszDriver.Device.DeliveryOrder
import KszDriver.Device.EndToEnd
import KszDriver.Device.Metadata
import KszDriver.Device.ResourceBalance
import KszDriver.Nic.BusProtocol
import KszDriver.Nic.MulticastFilter
import KszDriver.Core.Tokens
import KszDriver.Config.MacAddress
import KszDriver.Config.ConfigFile
import KszDriver.Config.LineTexts
import KszDriver.Nic.ResetPulse
import KszDriver.Device.TrackedTypes
import KszDriver.Device.Callbacks
import KszDriver.Device.BufferErrors
import KszDriver.Device.HandlerWork
import KszDriver.Device.EventReports
import KszDriver.Device.FailedOpen
import KszDriver.Device.MulticastCrc
import KszDriver.Nic.FifoPort
import KszDriver.Config.Registry
import KszDriver.Device.QueryBuffers
import KszDriver.Device.ServiceRuns
import KszDriver.Device.HandshakeRuns
import KszDriver.Device.TwoStations
import KszDriver.Device.LockOrder
import KszDriver.Nic.TxLog
import KszDriver.Device.ServiceDelay
