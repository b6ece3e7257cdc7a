import OrcTorrent.StrMap
import OrcTorrent.State
import OrcTorrent.Bencode
import OrcTorrent.Bencode.RoundTrip
import OrcTorrent.Json
import OrcTorrent.Bencode.InfoHash
import OrcTorrent.Bencode.Limits
import OrcTorrent.Ingest
import OrcTorrent.Ingest.Paths
import OrcTorrent.Ingest.Magnet
import OrcTorrent.Registry
import OrcTorrent.Registry.Effects
import OrcTorrent.Policy
import OrcTorrent.Tick
import OrcTorrent.Peers
import OrcTorrent.System
import OrcTorrent.Registry.Invariants
import OrcTorrent.Registry.Independence
import OrcTorrent.Heartbeat
import OrcTorrent.PeerSamples
import OrcTorrent.RowSnapshot
import OrcTorrent.Views
import OrcTorrent.RunningFlag
import OrcTorrent.Availability
import OrcTorrent.Handlers
import OrcTorrent.KillSwitch
import OrcTorrent.Handlers.Sanitize
import OrcTorrent.Daemon
import OrcTorrent.HandlerRuns
import OrcTorrent.RequestChecks
import OrcTorrent.EngineIds
