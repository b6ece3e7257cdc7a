import OrcTorrent.StrMap

/-! The in-memory state of the core (`OrcState` of `orc-core/src/lib.rs`), field by
field. Byte counts, times and counters are `Nat`; an `Instant` is a reading of the
monotonic clock in nanoseconds. The engine handle and the GeoIP reader are left out:
the engine is an input of the operations that call it. -/

namespace OrcTorrent

inductive TorrentMode
  | standard | «private» | anonymous | torAssist
  deriving DecidableEq, Repr

structure TorrentProfile where
  mode : TorrentMode
  hops : Nat
  deriving DecidableEq, Repr

/-- The public record of a torrent. -/
structure Torrent where
  id : String
  name : String
  addedAtMs : Nat
  running : Bool
  profile : TorrentProfile
  infoHashHex : Option String
  savePath : Option String
  deriving DecidableEq, Repr

inductive TorrentState
  | stopped | downloading | seeding | checking | error
  deriving DecidableEq, Repr

structure TorrentFileEntry where
  path : List String
  size : Nat
  priority : String
  downloaded : Bool
  deriving DecidableEq, Repr

structure TrackerRuntimeState where
  lastAnnounceMs : Option Nat := none
  nextAnnounceMs : Option Nat := none
  announceCount : Nat := 0
  scrapeCount : Nat := 0
  lastError : Option String := none
  deriving DecidableEq, Repr

structure PeerSample where
  downloaded : Nat
  uploaded : Nat
  lastSeenMs : Nat
  «at» : Nat
  deriving DecidableEq, Repr

structure StateOverride where
  «until» : Nat
  state : TorrentState
  deriving DecidableEq, Repr

/-- An `f32` value, by its bit pattern. -/
abbrev F32 := UInt32

/-- What the core knows of a torrent from the engine, and its own samples. -/
structure TorrentRuntime where
  rqbitId : Nat
  totalBytes : Nat
  downloadedBytes : Nat
  uploadedBytes : Nat
  running : Bool
  state : TorrentState
  downRateBps : Nat
  upRateBps : Nat
  peersSeen : Nat
  files : List TorrentFileEntry
  lastError : Option String
  trackers : List String
  trackerState : StrMap TrackerRuntimeState
  peerSamples : StrMap PeerSample
  stateOverride : Option StateOverride
  lastSample : Nat
  lastDownloadedBytes : Nat
  lastUploadedBytes : Nat
  heartbeatSamples : List Nat
  heartbeatLastSample : Nat
  heartbeatLastBytes : Nat
  totalPiecesEstimate : Nat
  pieceAvailability : List Nat
  peerProgressCache : StrMap F32

structure TorrentRecord where
  torrent : Torrent
  runtime : TorrentRuntime

def MAX_TORRENTS : Nat := 10000
def MAX_PEER_SAMPLES_PER_TORRENT : Nat := 1000

/-! ## Policy and kill switch -/

inductive TriState
  | off | prefer | require
  deriving DecidableEq, Repr

inductive PaddingLevel
  | off | low | high
  deriving DecidableEq, Repr

inductive PolicyProfile
  | standard | hardened | anonymous
  deriving DecidableEq, Repr

structure DesiredPolicy where
  anonymousMode : Bool
  peerEncryption : TriState
  dhtHardening : Bool
  enforcePrivateTorrents : Bool
  ipBlocklist : Bool
  killSwitch : Bool
  bindInterfaceOnly : Bool
  overlayPadding : PaddingLevel
  sybilResistance : Bool
  relayPowRequired : Bool
  relaySubnetDiversity : Bool
  relayReputationWeighting : Bool
  ipv6Enabled : Bool
  upnpNatpmpEnabled : Bool
  circuitRotationEnabled : Bool
  denyDirectExits : Bool
  minimizeFingerprinting : Bool
  profile : Option PolicyProfile
  deriving DecidableEq, Repr

structure EffectivePolicy where
  anonymousMode : Bool
  peerEncryption : TriState
  dhtHardening : Bool
  enforcePrivateTorrents : Bool
  ipBlocklist : Bool
  killSwitch : Bool
  bindInterfaceOnly : Bool
  overlayPadding : PaddingLevel
  sybilResistance : Bool
  relayPowRequired : Bool
  relaySubnetDiversity : Bool
  relayReputationWeighting : Bool
  ipv6Enabled : Bool
  upnpNatpmpEnabled : Bool
  circuitRotationEnabled : Bool
  denyDirectExits : Bool
  minimizeFingerprinting : Bool
  profile : Option PolicyProfile
  networkAllowed : Bool
  discoveryAllowed : Bool
  directPeerAllowed : Bool
  deriving DecidableEq, Repr

inductive PolicyWarningSeverity
  | info | warn | block
  deriving DecidableEq, Repr

structure PolicyWarning where
  code : String
  message : String
  severity : PolicyWarningSeverity
  deriving DecidableEq, Repr

structure ToggleDisabled where
  disabled : Bool
  reason : Option String
  deriving DecidableEq, Repr

structure PolicyState where
  desired : DesiredPolicy
  effective : EffectivePolicy
  warnings : List PolicyWarning
  disabled : StrMap ToggleDisabled
  version : Nat
  lastUpdatedMs : Nat

inductive KillSwitchState
  | disarmed | armed | engaged | releasing
  deriving DecidableEq, Repr

inductive KillSwitchScope
  | torrentOnly | appLevel
  deriving DecidableEq, Repr

structure VpnSource where
  autoDetect : Bool
  allowedAdapters : List String
  deriving DecidableEq, Repr

structure KillSwitchTriggers where
  pauseAllTorrents : Bool
  stopSeeding : Bool
  disableDhtPexLpd : Bool
  blockOutbound : Bool
  deriving DecidableEq, Repr

structure KillSwitchConfig where
  enabled : Bool
  scope : KillSwitchScope
  vpnSource : VpnSource
  gracePeriodSec : Nat
  triggers : KillSwitchTriggers
  enforcementState : KillSwitchState
  lastEnforcementMs : Option Nat
  deriving DecidableEq, Repr

/-- The process-wide state behind the daemon's one lock. -/
structure OrcState where
  startedAt : Nat
  downloadDir : String
  downloadDirPath : String
  torrents : StrMap TorrentRecord
  policy : PolicyState
  killSwitch : KillSwitchConfig

/-! ## `new_state` -/

def newStateDesired : DesiredPolicy where
  anonymousMode := false
  peerEncryption := .prefer
  dhtHardening := true
  enforcePrivateTorrents := false
  ipBlocklist := false
  killSwitch := false
  bindInterfaceOnly := false
  overlayPadding := .off
  sybilResistance := false
  relayPowRequired := false
  relaySubnetDiversity := false
  relayReputationWeighting := false
  ipv6Enabled := true
  upnpNatpmpEnabled := true
  circuitRotationEnabled := false
  denyDirectExits := false
  minimizeFingerprinting := false
  profile := some .standard

def newStateEffective (desired : DesiredPolicy) : EffectivePolicy where
  anonymousMode := desired.anonymousMode
  peerEncryption := desired.peerEncryption
  dhtHardening := desired.dhtHardening
  enforcePrivateTorrents := desired.enforcePrivateTorrents
  ipBlocklist := desired.ipBlocklist
  killSwitch := desired.killSwitch
  bindInterfaceOnly := desired.bindInterfaceOnly
  overlayPadding := desired.overlayPadding
  sybilResistance := desired.sybilResistance
  relayPowRequired := desired.relayPowRequired
  relaySubnetDiversity := desired.relaySubnetDiversity
  relayReputationWeighting := desired.relayReputationWeighting
  ipv6Enabled := desired.ipv6Enabled
  upnpNatpmpEnabled := desired.upnpNatpmpEnabled
  circuitRotationEnabled := desired.circuitRotationEnabled
  denyDirectExits := desired.denyDirectExits
  minimizeFingerprinting := desired.minimizeFingerprinting
  profile := desired.profile
  networkAllowed := true
  discoveryAllowed := true
  directPeerAllowed := true

/-- The toggles listed in `new_state`, each marked enabled. -/
def newStateDisabled : StrMap ToggleDisabled :=
  ["anonymous_mode", "peer_encryption", "dht_hardening", "enforce_private_torrents",
    "ip_blocklist", "kill_switch", "bind_interface_only", "overlay_padding",
    "sybil_resistance", "relay_pow_required", "relay_subnet_diversity",
    "relay_reputation_weighting", "ipv6_enabled", "upnp_natpmp_enabled",
    "circuit_rotation_enabled", "deny_direct_exits", "minimize_fingerprinting",
    "profile"].foldl (fun m k => m.insert k ⟨false, none⟩) StrMap.empty

def newStateKillSwitch : KillSwitchConfig where
  enabled := false
  scope := .torrentOnly
  vpnSource := ⟨true, []⟩
  gracePeriodSec := 10
  triggers := ⟨true, false, false, false⟩
  enforcementState := .disarmed
  lastEnforcementMs := none

/-- The state `new_state` builds once the download directory and the engine session
exist; `nowMs` is its `now_ms()` reading and `startedAt` its `Instant::now()`. -/
def newState (downloadDir downloadDirPath : String) (startedAt nowMs : Nat) : OrcState where
  startedAt := startedAt
  downloadDir := downloadDir
  downloadDirPath := downloadDirPath
  torrents := StrMap.empty
  policy :=
    { desired := newStateDesired
      effective := newStateEffective newStateDesired
      warnings := []
      disabled := newStateDisabled
      version := 1
      lastUpdatedMs := nowMs }
  killSwitch := newStateKillSwitch

end OrcTorrent
