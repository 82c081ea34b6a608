import RtmpCore.Chunk.RoundTrip
import RtmpCore.Chunk.Interleaving
import RtmpCore.Live.RouterGate
import RtmpCore.Live.Publishers
import RtmpCore.Live.Wakeup
import RtmpCore.Live.Replay
import RtmpCore.Transcode.VideoClock
import RtmpCore.Dash.AudioClock
import RtmpCore.Dash.DecodeTime
import RtmpCore.Http.Postponed
import RtmpCore.Auth.ViewerLimit
import RtmpCore.Net.Teardown
import RtmpCore.Net.Sends
import RtmpCore.Net.HandshakeReads
import RtmpCore.Dispatch.Holders
import RtmpCore.Recording.Published
import RtmpCore.Media.FragmentRoundTrip
import RtmpCore.Puller.Runs
import RtmpCore.SourceJobs.Writers
import RtmpCore.Http.Fragmentation
import RtmpCore.Http.InputBound
import RtmpCore.Hls.Numbering
import RtmpCore.Hls.ResponseHeads
import RtmpCore.Hls.Timeline
import RtmpCore.Management.Tokens
import RtmpCore.Transcode.PresetNames
import RtmpCore.Transcode.SourceHandshake
import RtmpCore.Cluster.Placement
import RtmpCore.Settings.Saving
import RtmpCore.Media.SpsDimensions
import RtmpCore.Media.SequenceHeader
import RtmpCore.Media.Resync
import RtmpCore.Control.SessionTracker
import RtmpCore.Relay.PushClient
import RtmpCore.Relay.RtmpUrl
