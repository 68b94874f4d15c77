import HyperionWebos.SettingsUpdates
import HyperionWebos.AppFilter
import HyperionWebos.ThreadBookkeeping
import HyperionWebos.BackendPairing
import HyperionWebos.BackendProtocol
import HyperionWebos.OutgoingFrames
import HyperionWebos.IncomingFrames
import HyperionWebos.RpcQuoting
import HyperionWebos.LutOwnership
import HyperionWebos.AutoResume
import HyperionWebos.ReplyBounds
import HyperionWebos.Registration
import HyperionWebos.PayloadSafety
import HyperionWebos.DaemonMatch
import HyperionWebos.SettingsRoundTrip
import HyperionWebos.AddressLifetime
import HyperionWebos.VideoSessions
import HyperionWebos.BackendResources
import HyperionWebos.HandlerPhases
import HyperionWebos.VideoPhases
import HyperionWebos.VtcaptureWait
import HyperionWebos.ByteBlocks
import HyperionWebos.CStrings
import HyperionWebos.FixedBuffers
import HyperionWebos.FrameBlend
import HyperionWebos.HdrChoice
import HyperionWebos.InstancePosts
import HyperionWebos.PartialUpdates
import HyperionWebos.SettingsRestart
import HyperionWebos.ThreadStarts
import HyperionWebos.VideoMessages
import HyperionWebos.FrameAccounting
import HyperionWebos.ChromaPaths
import HyperionWebos.LutGrading
import HyperionWebos.ElapsedTime
import HyperionWebos.OptionPrecedence
import HyperionWebos.SocketBalance
import HyperionWebos.SettingsStore
import HyperionWebos.RetryGates
import HyperionWebos.Redelivery
import HyperionWebos.ClientAtomicity
import HyperionWebos.CaptureProgress
import HyperionWebos.HandlersReturn
import HyperionWebos.PixelPath
import HyperionWebos.DaemonScript
import HyperionWebos.SettingsInForce
import HyperionWebos.MappedReads
import HyperionWebos.BackendFrames
import HyperionWebos.FrozenOutput
import HyperionWebos.ConnectionTurns
import HyperionWebos.Recovery
import HyperionWebos.FramePacing
import HyperionWebos.HeapPointers
import HyperionWebos.PixelBuffers
import HyperionWebos.FrameDumps
import HyperionWebos.StatusReply
