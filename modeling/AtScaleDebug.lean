import AtScaleDebug.Lib.Machine
import AtScaleDebug.Lib.RecentWindow
import AtScaleDebug.Lib.ByteBuffer
import AtScaleDebug.Lib.Framing
import AtScaleDebug.Lib.PollLoop
import AtScaleDebug.Lib.PrefixCode
import AtScaleDebug.Lib.WrapCounter
import AtScaleDebug.Lib.LastWrite
import AtScaleDebug.Lib.CString
import AtScaleDebug.Lib.RingSlots
import AtScaleDebug.Lib.LittleEndian
import AtScaleDebug.Lib.Ledger
import AtScaleDebug.Common
import AtScaleDebug.Server.Session
import AtScaleDebug.Server.SessionInvariant
import AtScaleDebug.Server.AuthPam
import AtScaleDebug.Server.Lockout
import AtScaleDebug.Target.Lifecycle
import AtScaleDebug.Server.RequestLoop
import AtScaleDebug.Server.LoopActions
import AtScaleDebug.Server.TargetAgreement
import AtScaleDebug.Server.IdleTimeout
import AtScaleDebug.Server.PendingData
import AtScaleDebug.Server.HandshakeAgreement
import AtScaleDebug.Server.Admission
import AtScaleDebug.Target.Message
import AtScaleDebug.Target.MessageRead
import AtScaleDebug.Target.BusHandlers
import AtScaleDebug.Target.I2cMessages
import AtScaleDebug.Target.BusMonitor
import AtScaleDebug.Target.BusSelect
import AtScaleDebug.Target.BusAttribution
import AtScaleDebug.Target.I2cReport
import AtScaleDebug.Target.I2cEncoding
import AtScaleDebug.Target.BusLock
import AtScaleDebug.Target.I2cConsistency
import AtScaleDebug.Target.I3cTransfer
import AtScaleDebug.Target.JtagHandler
import AtScaleDebug.Target.JtagEquivalence
import AtScaleDebug.Target.ScanPadding
import AtScaleDebug.Target.JtagMessage
import AtScaleDebug.Target.JtagGrammar
import AtScaleDebug.Target.JtagRun
import AtScaleDebug.Target.LookAhead
import AtScaleDebug.Target.ShiftEndState
import AtScaleDebug.Target.ResetWaits
import AtScaleDebug.Target.ShiftRetry
import AtScaleDebug.Target.JtagResponse
import AtScaleDebug.Target.JtagSplit
import AtScaleDebug.Target.JtagParser
import AtScaleDebug.Target.WriteConfig
import AtScaleDebug.Target.SppHandler
import AtScaleDebug.Target.SppMessage
import AtScaleDebug.Target.SppResponse
import AtScaleDebug.Target.SppBulk
import AtScaleDebug.Target.SppSession
import AtScaleDebug.Target.BulkLeftover
import AtScaleDebug.Target.BulkCapacity
import AtScaleDebug.Target.BulkCodec
import AtScaleDebug.Target.BulkMode
import AtScaleDebug.Target.AutocmdCount
import AtScaleDebug.Target.GenuineEvents
import AtScaleDebug.Target.SppStatus
import AtScaleDebug.Target.SppEntries
import AtScaleDebug.Target.AgentControl
import AtScaleDebug.Target.Dispatch
import AtScaleDebug.Target.AgentSettings
import AtScaleDebug.Server.RemoteLog
import AtScaleDebug.Target.ClientSession
import AtScaleDebug.Target.DriverMode
import AtScaleDebug.Target.AgentQueries
import AtScaleDebug.Target.DefaultBus
import AtScaleDebug.Target.SessionAlike
import AtScaleDebug.Target.SessionIsolation
import AtScaleDebug.Target.SppDevices
import AtScaleDebug.Target.DrainLoops
import AtScaleDebug.Target.SentPackets
import AtScaleDebug.Target.ClientStream
import AtScaleDebug.Target.BusOptions
import AtScaleDebug.Target.PlatformConfig
import AtScaleDebug.Target.DownstreamVersion
import AtScaleDebug.Target.PowerState
import AtScaleDebug.Target.TargetGpio
import AtScaleDebug.Target.TargetInit
import AtScaleDebug.Target.PinEvents
import AtScaleDebug.Target.SpdMapping
import AtScaleDebug.Target.I2cMsgBuilder
import AtScaleDebug.Target.WaitPrdy
import AtScaleDebug.Target.PolledPins
import AtScaleDebug.Server.CommandLine
import AtScaleDebug.Server.LogStreams
import AtScaleDebug.Server.HexLog
import AtScaleDebug.Server.ExtNet
import AtScaleDebug.JtagTest.IrCommand
import AtScaleDebug.JtagTest.Discovery
import AtScaleDebug.JtagTest.TestLoop
