import IndoorLogger.Lib.CString
import IndoorLogger.Lib.FixedCodec
import IndoorLogger.Lib.RecordFile
import IndoorLogger.Lib.ReferenceClock
import IndoorLogger.Lib.RingBuffer
import IndoorLogger.Lib.RingFile
import IndoorLogger.Server.DataStore
import IndoorLogger.Server.DataStoreRing
import IndoorLogger.Server.BoundedLog
import IndoorLogger.Lib.LowerBound
import IndoorLogger.Lib.Grouping
import IndoorLogger.Server.ReadSince
import IndoorLogger.Server.Aggregation
import IndoorLogger.Server.AppendFaults
import IndoorLogger.Client.DataStorage
import IndoorLogger.Lib.Machine
import IndoorLogger.Client.Queue
import IndoorLogger.Client.AckFaults
import IndoorLogger.Client.Fifo
import IndoorLogger.Client.WifiSync
import IndoorLogger.Lib.SlotArray
import IndoorLogger.Lib.KeyedList
import IndoorLogger.Server.ClientRegistry
import IndoorLogger.Server.RegistryMap
import IndoorLogger.Server.RegistryRuns
import IndoorLogger.Lib.Decimal
import IndoorLogger.Lib.Json
import IndoorLogger.Lib.Binary64
import IndoorLogger.Lib.JsonParse
import IndoorLogger.Server.Readings
import IndoorLogger.Client.ServerConfig
import IndoorLogger.Server.HttpServer
import IndoorLogger.Lib.PercentEncoding
import IndoorLogger.Server.QueryString
import IndoorLogger.Server.DataFiles
import IndoorLogger.Server.FileRename
import IndoorLogger.Server.ServerRuns
import IndoorLogger.Server.Restart
import IndoorLogger.Server.Responses
import IndoorLogger.Server.CsvExport
import IndoorLogger.Server.DataQuery
import IndoorLogger.Server.InterruptedSave
import IndoorLogger.Server.Membership
import IndoorLogger.Server.RenameTable
import IndoorLogger.Server.AddressBinding
import IndoorLogger.Server.Correspondence
import IndoorLogger.Server.Upload
import IndoorLogger.Server.RenameFaults
import IndoorLogger.Server.RenameProtocol
import IndoorLogger.Lib.Snprintf
import IndoorLogger.Sync.UploadBody
import IndoorLogger.Sync.UploadBuffer
import IndoorLogger.Sync.Acknowledgement
import IndoorLogger.Sync.ReadingRoundTrip
import IndoorLogger.Sync.SortedUploads
import IndoorLogger.Sync.ConfigPush
import IndoorLogger.Wifi.WifiManager
import IndoorLogger.Wifi.ActiveNetwork
import IndoorLogger.Wifi.Failover
import IndoorLogger.Wifi.Backoff
import IndoorLogger.Wifi.NetworkSwitch
import IndoorLogger.Client.ClientTask
import IndoorLogger.Client.Cadence
import IndoorLogger.Lib.Runs
import IndoorLogger.Client.Button
import IndoorLogger.Client.SleepClock
import IndoorLogger.Client.SleepTicks
import IndoorLogger.Client.WrapAround
import IndoorLogger.Sync.SyncInterval
import IndoorLogger.Lib.BitMap
import IndoorLogger.Lib.PackedRows
import IndoorLogger.Display.Font
import IndoorLogger.Display.Text
import IndoorLogger.Display.FontTool
import IndoorLogger.Sensors.Aht21
import IndoorLogger.Sensors.Ens160
import IndoorLogger.Sensors.ReadSensors
import IndoorLogger.Sync.SensorRange
import IndoorLogger.Lib.ByteMemory
import IndoorLogger.Server.UrlDecode
import IndoorLogger.Lib.CharArray
import IndoorLogger.Client.DeviceMemory
import IndoorLogger.Client.ServerConnection
import IndoorLogger.Lib.CachedValue
import IndoorLogger.Client.ServerUrl
import IndoorLogger.Lib.StoreForward
import IndoorLogger.Server.ClientFile
import IndoorLogger.Sync.Delivery
import IndoorLogger.Server.AggregatedQuery
import IndoorLogger.Sync.ApiDocuments
import IndoorLogger.Lib.Heartbeat
import IndoorLogger.Server.Entries
import IndoorLogger.Server.Presence
import IndoorLogger.Sync.ClientDocuments
import IndoorLogger.Sync.Discovery
import IndoorLogger.Server.Settings
import IndoorLogger.Server.Store
import IndoorLogger.Server.History
import IndoorLogger.Sync.ServerTime
import IndoorLogger.Sync.Charts
import IndoorLogger.Client.Identity
import IndoorLogger.Client.Progress
import IndoorLogger.Client.DisplayPower
import IndoorLogger.Wifi.Reconnect
import IndoorLogger.Server.CsvTable
