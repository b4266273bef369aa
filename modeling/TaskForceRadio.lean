import TaskForceRadio.Foundation.Dictionary
import TaskForceRadio.Foundation.Execution
import TaskForceRadio.Foundation.KeyedList
import TaskForceRadio.Foundation.Pulling
import TaskForceRadio.Foundation.Replication
import TaskForceRadio.Foundation.Resampling
import TaskForceRadio.Foundation.Single
import TaskForceRadio.Foundation.Rounding
import TaskForceRadio.Foundation.Utf8
import TaskForceRadio.Wire.Protocol
import TaskForceRadio.Wire.ClientCodec
import TaskForceRadio.Wire.Truncation
import TaskForceRadio.Wire.ServerCodec
import TaskForceRadio.Relay.Server
import TaskForceRadio.Relay.Tables
import TaskForceRadio.Client.VoiceNetworkClient
import TaskForceRadio.Client.ConnectionLoop
import TaskForceRadio.Client.Phases
import TaskForceRadio.Relay.Announcement
import TaskForceRadio.Relay.Answer
import TaskForceRadio.Relay.Capacity
import TaskForceRadio.Relay.Broadcast
import TaskForceRadio.Relay.Sweep
import TaskForceRadio.System.Reconnect
import TaskForceRadio.Client.VoiceSession
import TaskForceRadio.Client.Audibility
import TaskForceRadio.Client.StartCue
import TaskForceRadio.Client.RemoteVoiceSource
import TaskForceRadio.Client.Talkspurt
import TaskForceRadio.Client.Render
import TaskForceRadio.Client.Transmit
import TaskForceRadio.Client.Mixer
import TaskForceRadio.Client.WasapiCaptureEngine
import TaskForceRadio.Client.PlaybackResampler
import TaskForceRadio.System.Roster
import TaskForceRadio.System.RosterIndex
import TaskForceRadio.System.KeepAlive
import TaskForceRadio.System.Authentication
import TaskForceRadio.Extension.Util
import TaskForceRadio.Extension.State
import TaskForceRadio.Extension.Solver
import TaskForceRadio.Extension.Paths
import TaskForceRadio.Extension.CommandProcessor
import TaskForceRadio.Extension.Tick
import TaskForceRadio.Extension.Announcer
import TaskForceRadio.Extension.RemoteTx
import TaskForceRadio.Extension.Command
import TaskForceRadio.Extension.Tokens
import TaskForceRadio.Extension.Hint
import TaskForceRadio.Extension.HalfDuplex
import TaskForceRadio.Extension.Arithmetic
import TaskForceRadio.Extension.Underwater
import TaskForceRadio.Extension.Antennas
import TaskForceRadio.Extension.MissionIsolation
import TaskForceRadio.Addon.Keys
import TaskForceRadio.Addon.ExternalIntercom
import TaskForceRadio.Addon.Records
import TaskForceRadio.Addon.RadioIds
import TaskForceRadio.Addon.SpeakingQuery
import TaskForceRadio.Addon.Positions
import TaskForceRadio.Addon.Pacing
import TaskForceRadio.Addon.Towers
import TaskForceRadio.System.Transmission
import TaskForceRadio.System.Mute
import TaskForceRadio.System.Identity
import TaskForceRadio.System.Frequency
import TaskForceRadio.System.Range
import TaskForceRadio.System.Codec
import TaskForceRadio.System.Nickname
import TaskForceRadio.System.Records
import TaskForceRadio.System.Freshness
import TaskForceRadio.System.Towers
import TaskForceRadio.Relay.Provenance
import TaskForceRadio.System.Attribution
import TaskForceRadio.System.Sequence
