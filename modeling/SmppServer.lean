import SmppServer.Machinery.Exec
import SmppServer.Machinery.History
import SmppServer.Machinery.Arena
import SmppServer.Machinery.Table
import SmppServer.Machinery.Ledger
import SmppServer.Machinery.Custody
import SmppServer.Machinery.Fifo
import SmppServer.Machinery.Buffer
import SmppServer.Machinery.Locks
import SmppServer.Machinery.Sql
import SmppServer.Machinery.Layout
import SmppServer.Machinery.Clock
import SmppServer.Machinery.Shell
import SmppServer.Machinery.RateWindow
import SmppServer.Machinery.InStep
import SmppServer.Machinery.Segments
import SmppServer.Machinery.Lines
import SmppServer.Machinery.HashTable
import SmppServer.Machinery.Stream
import SmppServer.Machinery.Purge
import SmppServer.Machinery.Drain
import SmppServer.Gwlib.Date
import SmppServer.Gwlib.Scanf
import SmppServer.Gwlib.Charset
import SmppServer.Gwlib.InPlace
import SmppServer.Gwlib.Dict
import SmppServer.Gwlib.Cfg
import SmppServer.Gwlib.CfgRead
import SmppServer.Gwlib.CfgInclude
import SmppServer.Gwlib.CfgBlocks
import SmppServer.Gwlib.Conn
import SmppServer.Gwlib.ConnLink
import SmppServer.Gwlib.PduStream
import SmppServer.Gwlib.DbPool
import SmppServer.Esme.Concurrent
import SmppServer.Esme.Bind
import SmppServer.Esme.BindRead
import SmppServer.Esme.Submit
import SmppServer.Esme.RoutPdu
import SmppServer.Esme.NumberType
import SmppServer.Esme.SessionStatus
import SmppServer.Esme.Authenticate
import SmppServer.Esme.VerifyPdu
import SmppServer.Esme.WellFormed
import SmppServer.Esme.Accounting
import SmppServer.Esme.MessageId
import SmppServer.Esme.UpdateInfo
import SmppServer.Esme.Rewriting
import SmppServer.Esme.SenderApi
import SmppServer.Esme.ListLock
import SmppServer.Esme.StopEsme
import SmppServer.Esme.AccountLife
import SmppServer.Esme.SenderMemory
import SmppServer.Esme.UnsetLimits
import SmppServer.Esme.Throughput
import SmppServer.Esme.UnconnectedQuota
import SmppServer.Esme.Backlog
import SmppServer.Esme.Config
import SmppServer.Esme.SessionThread
import SmppServer.Esme.Shutdown
import SmppServer.Esme.SaveQueues
import SmppServer.Dbbox.Receipt
import SmppServer.Dbbox.Dnd
import SmppServer.Esme.ExtractEsme
import SmppServer.Dbbox.MsgProcess
import SmppServer.Dbbox.DndContent
import SmppServer.Dbbox.SqlText
import SmppServer.Dbbox.EsmeClient
import SmppServer.Smsc.Route
import SmppServer.Smsc.Selection
import SmppServer.Smsc.Transmit
import SmppServer.Smsc.System
import SmppServer.Smsc.SystemInfo
import SmppServer.Smsc.DbboxStatus
import SmppServer.Smsc.FlowControl
import SmppServer.Smsc.Receiver
import SmppServer.Smsc.Retransmit
import SmppServer.Smsc.Terminal
import SmppServer.Smsc.Merge
import SmppServer.Smsc.Throttling
import SmppServer.Smsc.Expiry
import SmppServer.Smsc.Window
import SmppServer.Smsc.Status
import SmppServer.Smsc.DeliverSm
import SmppServer.Smsc.ReceiptLink
import SmppServer.Smsc.DualPort
import SmppServer.Smsc.LifeCycle
import SmppServer.Smsc.RoutingLists
import SmppServer.Smsc.ListLock
import SmppServer.Smsc.Records
import SmppServer.Smsc.Filing
import SmppServer.Smsc.Resend
import SmppServer.Dbbox.MisContent
import SmppServer.DndChecker.Checker
import SmppServer.DndChecker.ReplaceWord
import SmppServer.Dbbox.CreateTables
import SmppServer.Gwlib.ManageLog
import SmppServer.Dbbox.EsmeFile
import SmppServer.Esme.RowGroup
import SmppServer.Esme.ConfigFile
import SmppServer.Admin.HttpAdmin
