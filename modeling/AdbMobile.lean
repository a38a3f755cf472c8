import AdbMobile.Lib.Run
import AdbMobile.Lib.ByteString
import AdbMobile.Lib.Prog
import AdbMobile.Lib.PosixPath
import AdbMobile.Lib.Stream
import AdbMobile.Lib.Batches
import AdbMobile.Lib.Table
import AdbMobile.Lib.Monitor
import AdbMobile.Lib.Dialect
import AdbMobile.Features
import AdbMobile.Packet
import AdbMobile.Transport
import AdbMobile.FdConnection
import AdbMobile.Client.Capture
import AdbMobile.Client.ReadAndDump
import AdbMobile.Client.FeatureSet
import AdbMobile.Client.Sync.Protocol
import AdbMobile.Client.Sync.Connection
import AdbMobile.Client.Sync.Receive
import AdbMobile.Server.Fdevent
import AdbMobile.Server.Host
import AdbMobile.Server.Listeners
import AdbMobile.Server.HandlePacket
import AdbMobile.Server.Looper
import AdbMobile.Server.Frame
import AdbMobile.Server.ListenerRegistry
import AdbMobile.Negotiation
import AdbMobile.Server.ReadThread
import AdbMobile.Server.ConnectionAdapter
import AdbMobile.Server.AdapterThreads
import AdbMobile.Server.AdapterProgress
import AdbMobile.Server.PacketLink
import AdbMobile.Server.PollLoop
import AdbMobile.Server.Timeouts
import AdbMobile.Server.Dispatch
import AdbMobile.Server.LoopThreads
import AdbMobile.Server.RunQueue
import AdbMobile.Server.LoopExit
import AdbMobile.Server.PostPoll
import AdbMobile.Server.FreshStart
import AdbMobile.Server.Relaunch
import AdbMobile.Server.Detached
import AdbMobile.Server.Trace
import AdbMobile.Server.Release
import AdbMobile.Server.Keys
import AdbMobile.Server.PacketFrame
import AdbMobile.Server.ReverseForward
import AdbMobile.Server.ForwardRequest
import AdbMobile.Server.ForwardTable
import AdbMobile.Server.ReverseForwards
import AdbMobile.Server.LaunchServer
import AdbMobile.Server.ReconnectHandler
import AdbMobile.Server.StopReconnect
import AdbMobile.Server.ReconnectAttempts
import AdbMobile.Server.ReconnectPace
import AdbMobile.Server.Registration
import AdbMobile.Server.Transports
import AdbMobile.Server.Stages
import AdbMobile.Server.Custody
import AdbMobile.Server.Orphans
import AdbMobile.Server.Kicked
import AdbMobile.Server.Serials
import AdbMobile.Server.Ownership
import AdbMobile.Server.Acquire
import AdbMobile.Server.QualMatch
import AdbMobile.Server.HostRequest
import AdbMobile.Server.HostReplies
import AdbMobile.Server.HostAnswers
import AdbMobile.Server.TransportList
import AdbMobile.Server.TrackerFrame
import AdbMobile.Server.DeviceTracker
import AdbMobile.Server.Banner
import AdbMobile.Client.Sync.Bounds
import AdbMobile.Client.Sync.Pull
import AdbMobile.Client.Sync.Device
import AdbMobile.Client.Sync.RemoteTree
import AdbMobile.Client.Sync.DeviceStream
import AdbMobile.Client.Sync.Attributes
import AdbMobile.Client.Sync.SendPaths
import AdbMobile.Client.Sync.Emits
import AdbMobile.Client.Sync.PullEmits
import AdbMobile.Client.Sync.DataSize
import AdbMobile.Client.Sync.StatReplies
import AdbMobile.Client.Sync.StatEmulation
import AdbMobile.Client.Sync.Push
import AdbMobile.Client.Sync.Destination
import AdbMobile.Client.Sync.Acknowledgements
import AdbMobile.Client.Sync.Responses
import AdbMobile.Client.Sync.Walk
import AdbMobile.Client.Sync.MkdirCommands
import AdbMobile.Client.Sync.EmptyPaths
import AdbMobile.Client.Sync.InTurn
import AdbMobile.Client.Sync.PushComplete
import AdbMobile.Client.Sync.Phases
import AdbMobile.Client.Sync.ReadBack
import AdbMobile.Client.Sync.SyncPartition
import AdbMobile.Client.Bugreport
import AdbMobile.Client.BugreportProgress
import AdbMobile.Client.AdbClient
import AdbMobile.Client.SwitchTransport
import AdbMobile.Client.Commandline.Options
import AdbMobile.Client.Commandline.Services
import AdbMobile.Client.Commandline.Sideload
import AdbMobile.Client.Commandline.Device
import AdbMobile.Client.Commandline.EscapeChar
import AdbMobile.Client.Commandline.Files
import AdbMobile.Client.Commandline.Backup
import AdbMobile.Client.Commandline.Install
import AdbMobile.Client.Commandline.CopyToFile
import AdbMobile.Client.Commandline.Sessions
import AdbMobile.Client.Commandline.Shell
import AdbMobile.Client.Commandline.Commands
import AdbMobile.Client.Commandline.EarlierCalls
import AdbMobile.Client.Commandline.Incremental
import AdbMobile.Client.HostService
