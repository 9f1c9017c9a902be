import SnapcastSync.Lib.Rounding
import SnapcastSync.Lib.FloatRounding
import SnapcastSync.Lib.ReweightedMean
import SnapcastSync.Lib.Run
import SnapcastSync.Lib.OneSlot
import SnapcastSync.ClockSync.ConsensusMath
import SnapcastSync.ClockSync.TsfSync
import SnapcastSync.ClockSync.Mapping
import SnapcastSync.ClockSync.GroupDelta
import SnapcastSync.ClockSync.Consensus
import SnapcastSync.ClockSync.Beacon
import SnapcastSync.Player.Ledger
import SnapcastSync.Player.ResyncGate
import SnapcastSync.Player.DepthMirror
import SnapcastSync.ClockSync.Contribution
import SnapcastSync.Engine.Step
import SnapcastSync.Engine.Calls
import SnapcastSync.Player.TimingStep
import SnapcastSync.Player.Push
import SnapcastSync.Player.Loop
import SnapcastSync.Player.Arbiter
import SnapcastSync.Player.Unanchored
import SnapcastSync.Control.ControlSession
import SnapcastSync.Player.Delivery
import SnapcastSync.Player.ExternalMoves
import SnapcastSync.Control.LoneClient
import SnapcastSync.Engine.OneCorrection
import SnapcastSync.Engine.Compensation
import SnapcastSync.Engine.Slew
import SnapcastSync.ClockSync.Convergence
import SnapcastSync.ClockSync.OffsetFilter
import SnapcastSync.ClockSync.SharedDeadline
import SnapcastSync.ClockSync.ServerIsolation
import SnapcastSync.Player.DeltaAge
import SnapcastSync.ClockSync.EpochIsolation
import SnapcastSync.ClockSync.CommonReports
import SnapcastSync.ClockSync.SharedError
import SnapcastSync.Wifi.BssidSelect
import SnapcastSync.Lib.Conveyor
import SnapcastSync.Player.PcmRing
import SnapcastSync.Player.PcmConservation
import SnapcastSync.Lib.Words
import SnapcastSync.Media.Transport
import SnapcastSync.Media.Volume
import SnapcastSync.Protocol.Views
import SnapcastSync.ClockSync.PacketBytes
import SnapcastSync.Lib.TruncatedPeriod
import SnapcastSync.Engine.FrameSizing
import SnapcastSync.Engine.Justified
import SnapcastSync.Engine.Bounds
import SnapcastSync.Engine.MissingDelta
import SnapcastSync.Lib.SlotRing
import SnapcastSync.Lib.OrderStatistic
import SnapcastSync.Player.PlayoutHistory
import SnapcastSync.RateLock.FracSelect
import SnapcastSync.RateLock.Lock
import SnapcastSync.RateLock.DoubleTrim
import SnapcastSync.RateLock.Baseline
import SnapcastSync.Engine.Attribution
import SnapcastSync.Engine.SharedDrain
import SnapcastSync.Player.SplitPublished
import SnapcastSync.Engine.Reset
import SnapcastSync.Engine.SpikeImmunity
import SnapcastSync.Protocol.CodecHeader
import SnapcastSync.Control.LineFraming
import SnapcastSync.Player.PushCount
import SnapcastSync.Player.EmitBound
import SnapcastSync.Player.StartupWait
import SnapcastSync.Player.PlayoutEpoch
import SnapcastSync.Player.SplitEvidence
import SnapcastSync.Player.DriftMedian
import SnapcastSync.Player.Accounting
import SnapcastSync.Player.UnmuteGate
import SnapcastSync.Player.BlockTimestamps
import SnapcastSync.ClockSync.TimeFilter
import SnapcastSync.ClockSync.TimeReply
import SnapcastSync.ClockSync.SandwichTrust
import SnapcastSync.Player.PreTrace
import SnapcastSync.Media.ClientInfo
import SnapcastSync.ClockSync.PeerSlots
import SnapcastSync.ClockSync.PeerOrigins
import SnapcastSync.Player.ServoParams
import SnapcastSync.Lib.FloatValue
import SnapcastSync.Player.RenderAlign
import SnapcastSync.Lib.CText
import SnapcastSync.Control.ServerSelect
import SnapcastSync.Lib.ByteMemory
import SnapcastSync.Protocol.WireCodec
import SnapcastSync.Lib.Announced
import SnapcastSync.Protocol.Session
import SnapcastSync.Protocol.SendMessage
import SnapcastSync.Protocol.DeadSession
import SnapcastSync.Protocol.TimeSyncCadence
import SnapcastSync.Player.AudioPath
import SnapcastSync.Lib.Smoothing
import SnapcastSync.Player.Prediction
import SnapcastSync.Player.TagMeasure
import SnapcastSync.Player.TagTrust
import SnapcastSync.Lib.AnchoredWindow
import SnapcastSync.Player.Muting
import SnapcastSync.RateLock.Delivered
import SnapcastSync.Control.ControlLink
import SnapcastSync.ClockSync.SampleTsf
import SnapcastSync.Player.RenderPhase
import SnapcastSync.ClockSync.PacketRoundTrip
import SnapcastSync.ClockSync.ReplyError
import SnapcastSync.Lib.Conformance
import SnapcastSync.Protocol.Lifecycle
import SnapcastSync.Protocol.StreamIsolation
import SnapcastSync.Control.Reconnect
import SnapcastSync.Player.SplitRamp
import SnapcastSync.Player.Reanchor
import SnapcastSync.Player.CrystalStore
