import GomukuServer.Base.Runs
import GomukuServer.Base.Store
import GomukuServer.Base.Cpp
import GomukuServer.Base.Returns
import GomukuServer.Base.Cells
import GomukuServer.Base.Pipe
import GomukuServer.Base.Framing
import GomukuServer.Base.Lines
import GomukuServer.Base.Shared
import GomukuServer.Base.Alarms
import GomukuServer.Base.Owned
import GomukuServer.Base.Printf
import GomukuServer.Base.Quoted
import GomukuServer.Base.PairingOff
import GomukuServer.Base.LockOrder
import GomukuServer.Base.Monitor
import GomukuServer.Base.TextFile
import GomukuServer.MyMuduo.Buffer
import GomukuServer.MyMuduo.Channel
import GomukuServer.MyMuduo.TcpConnection
import GomukuServer.MyMuduo.BufferMemory
import GomukuServer.MyMuduo.EventLoop
import GomukuServer.MyMuduo.EventLoopThread
import GomukuServer.MyMuduo.ConnectionLoop
import GomukuServer.MyMuduo.TimerWheel
import GomukuServer.MyMuduo.InactiveRelease
import GomukuServer.MyMuduo.ConnectionEvents
import GomukuServer.MyMuduo.Registry
import GomukuServer.MyMuduo.Polling
import GomukuServer.MyMuduo.TcpServer
import GomukuServer.MyMuduo.ConnectionLifetime
import GomukuServer.Net.Json
import GomukuServer.Net.ProtocolDispatcher
import GomukuServer.Model.GameRoomInfo
import GomukuServer.Model.Table
import GomukuServer.Model.FairGame
import GomukuServer.Manager.UserManager
import GomukuServer.Manager.GameRoomManager
import GomukuServer.Db.UserDB
import GomukuServer.Db.MysqlConnectionPool
import GomukuServer.Db.UserStatements
import GomukuServer.Db.PoolThreads
import GomukuServer.Db.ConfigFile
import GomukuServer.Module.Server
import GomukuServer.Module.UserHandler
import GomukuServer.Module.MatchHandler
import GomukuServer.Module.GameRoomHandler
import GomukuServer.Module.GameServer
import GomukuServer.Module.Threads
import GomukuServer.Module.MatchMonitor
import GomukuServer.Module.Dispatch
import GomukuServer.Module.ByteServer
import GomukuServer.Module.SendMsg
import GomukuServer.Module.Locks
import GomukuServer.Proofs.WinDetection
import GomukuServer.Proofs.RoomReclaim
import GomukuServer.Proofs.OnlineTables
import GomukuServer.Proofs.OutgoingStream
import GomukuServer.Proofs.StreamReassembly
import GomukuServer.Proofs.Settlement
import GomukuServer.Proofs.Scores
import GomukuServer.Proofs.RoomIsolation
import GomukuServer.Proofs.MatchPoolSync
import GomukuServer.Proofs.GamingRooms
import GomukuServer.Proofs.BufferRefinement
import GomukuServer.Proofs.PendingFunctors
import GomukuServer.Proofs.TimerExactness
import GomukuServer.Proofs.FrameBounds
import GomukuServer.Proofs.DisconnectFrame
import GomukuServer.Proofs.MatchSender
import GomukuServer.Proofs.ConnectionLife
import GomukuServer.Proofs.PoolAccounting
import GomukuServer.Proofs.PollerRegistry
import GomukuServer.Proofs.MessageSafety
import GomukuServer.Proofs.BadFrames
import GomukuServer.Proofs.AbsentPlayers
import GomukuServer.Proofs.Answers
import GomukuServer.Proofs.LegalMoves
import GomukuServer.Proofs.CancelLeaves
import GomukuServer.Proofs.RefusedRequests
import GomukuServer.Proofs.AtomicSettlement
import GomukuServer.Proofs.DbFailures
import GomukuServer.Proofs.Credentials
import GomukuServer.Proofs.FairPairing
import GomukuServer.Proofs.LockCycles
import GomukuServer.Proofs.ScannerFront
import GomukuServer.Proofs.WireRoundTrip
import GomukuServer.Proofs.TimerIds
import GomukuServer.Proofs.InactivityTimeout
import GomukuServer.Proofs.LostQuit
import GomukuServer.Proofs.HalfClose
import GomukuServer.Proofs.ConnectionTables
import GomukuServer.Proofs.LineScan
import GomukuServer.Proofs.IdleQueue
import GomukuServer.Proofs.SqlBuffers
import GomukuServer.Proofs.PoolSections
import GomukuServer.Proofs.PoolWakeups
import GomukuServer.Proofs.MatchWakeups
import GomukuServer.Proofs.ByteStreams
import GomukuServer.Proofs.ConnectionTeardown
import GomukuServer.Proofs.SendersInOrder
import GomukuServer.Proofs.PartedPlayers
import GomukuServer.Proofs.PlayersAgree
import GomukuServer.Proofs.OneTable
import GomukuServer.Proofs.FairPlay
import GomukuServer.Proofs.EndToEnd
import GomukuServer.Proofs.Books
import GomukuServer.Proofs.Configuration
import GomukuServer.Proofs.LoopTurns
import GomukuServer.Proofs.ActiveChannels
import GomukuServer.Proofs.LifetimeRefinement
import GomukuServer.Proofs.LifetimeEnds
