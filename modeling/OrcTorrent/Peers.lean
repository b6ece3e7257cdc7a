import OrcTorrent.Tick

/-! `peers_for` of `orc-core/src/lib.rs`: the peer table built from the engine's peer
snapshot, the per-peer rate samples with their pruning and cap, and the piece
availability kept from the peers' progress (`update_piece_availability_from_peers`,
`remove_peer_from_availability`). Availability counters are `u32`s.

`peers_for` changes only the record it finds, as `peersRecord` (`peersFor_state`), and in
that record's runtime only the peer samples, the availability counters and the progress cache
(`peersRuntime_frame`). The availability counters are followed through every run in
`Availability`, the samples in `PeerSamples`. -/

namespace OrcTorrent

/-! ## Piece availability -/

/-- `for i in 0..n { a[i] = f(a[i]) }`. -/
def mapPrefix (f : Nat → Nat) : Nat → List Nat → List Nat
  | 0, xs => xs
  | _, [] => []
  | n + 1, x :: xs => f x :: mapPrefix f n xs

/-- `Vec::resize(n, 0)`. -/
def resizeZero (n : Nat) (xs : List Nat) : List Nat :=
  xs.take n ++ List.replicate (n - xs.length) 0

/-- `(progress * total_pieces as f32).ceil() as usize`, then `.min(total_pieces)`: the
pieces a peer at `progress` is counted for. -/
def coveredPieces (p : Platform) (progress : F32) (n : Nat) : Nat :=
  min (p.f32CeilMul progress n) n

def updatePieceAvailabilityFromPeers (p : Platform) (rt : TorrentRuntime) (progress : F32)
    (peerId : String) : TorrentRuntime :=
  let n := rt.totalPiecesEstimate
  if n = 0 then rt
  else
    let avail := if rt.pieceAvailability.length ≠ n then resizeZero n rt.pieceAvailability
      else rt.pieceAvailability
    let avail := match rt.peerProgressCache.get? peerId with
      | some old => mapPrefix (· - 1) (coveredPieces p old n) avail
      | none => avail
    { rt with
      pieceAvailability := mapPrefix satIncU32 (coveredPieces p progress n) avail
      peerProgressCache := rt.peerProgressCache.insert peerId progress }

def removePeerFromAvailability (p : Platform) (rt : TorrentRuntime) (peerId : String) :
    TorrentRuntime :=
  match rt.peerProgressCache.get? peerId with
  | none => rt
  | some progress =>
    let n := rt.totalPiecesEstimate
    let rt := { rt with peerProgressCache := rt.peerProgressCache.erase peerId }
    if rt.pieceAvailability.length = n then
      { rt with pieceAvailability :=
          mapPrefix (· - 1) (coveredPieces p progress n) rt.pieceAvailability }
    else rt

/-! ## The peer table -/

/-- What `api_peer_stats` gives; a snapshot that does not serialize is `ok .null`. -/
inductive PeerStatsReply
  | failed (msg : String)
  | ok (v : JsonValue)

/-- The readings of one `peers_for`: the engine's reply, `Instant::now()`, `now_ms()`. -/
structure PeersEnv where
  reply : PeerStatsReply
  now : Nat
  nowMs : Nat

structure PeerRow where
  id : String
  ip : String
  port : Nat
  downRate : Int
  upRate : Int
  downloaded : Nat
  uploaded : Nat
  client : Option String
  flags : Option String
  progress : Option F32
  snubbed : Bool
  choked : Bool
  interested : Option Bool
  optimistic : Option Bool
  incoming : Option Bool
  encrypted : Option Bool
  rttMs : Option Nat
  country : Option String
  lastSeenMs : Nat
  deriving DecidableEq, Repr

/-- `addr.rsplit_once(':')`. -/
def rsplitOnceColon (addr : List Char) : Option (List Char × List Char) :=
  match addr.reverse.span (· ≠ ':') with
  | (portRev, _ :: hostRev) => some (hostRev.reverse, portRev.reverse)
  | (_, []) => none

/-- `split_addr`: a socket address, else `host:port` with a `u16` port, else port 0. -/
def splitAddr (p : Platform) (addr : String) : String × Nat :=
  match p.parseSocketAddr addr with
  | some ipPort => ipPort
  | none =>
    match rsplitOnceColon addr.data with
    | some (host, port) =>
      match parseUnsigned (2 ^ 16) (utf8Bytes port) with
      | some n => (⟨host⟩, n)
      | none => (addr, 0)
    | none => (addr, 0)

/-- `synth_peer_flags`. -/
def synthPeerFlags (v : JsonValue) : String :=
  let b (k : String) : Bool := ((v.get k).bind JsonValue.asBool).getD false
  let flags := (if b "encrypted" || b "is_encrypted" then "E" else "") ++
    (if b "is_seed" || b "seed" then "S" else "") ++
    (if b "choked" || b "is_choked" then "C" else "") ++
    (if b "interested" || b "is_interested" then "I" else "")
  if flags.isEmpty then "—" else flags

/-- `(x as f64 / secs) as i64`, for `x ≥ 0`. -/
def rateI64 (x : Nat) (secs : Float) : Int := Int.ofNat (min (rateOf x secs) (2 ^ 63 - 1))

/-- The row of one snapshot entry, and the sample it leaves behind. -/
def peerRow (p : Platform) (env : PeersEnv) (samples : StrMap PeerSample) (addr : String)
    (pv : JsonValue) : PeerRow × PeerSample :=
  let (ip, port) := splitAddr p addr
  let downloaded :=
    (pickU64 pv ["downloaded", "downloaded_bytes", "total_downloaded", "dl_bytes"]).getD 0
  let uploaded := (pickU64 pv ["uploaded", "uploaded_bytes", "total_uploaded", "ul_bytes"]).getD 0
  let (downRate, upRate) := match samples.get? addr with
    | some prev =>
      let dt := max (secsF64 (env.now - prev.at)) 0.25
      (rateI64 (downloaded - prev.downloaded) dt, rateI64 (uploaded - prev.uploaded) dt)
    | none => (0, 0)
  ({ id := addr, ip := ip, port := port, downRate := downRate, upRate := upRate
     downloaded := downloaded, uploaded := uploaded
     client := pickStr pv ["client", "client_name", "user_agent", "client_id"]
     flags := some ((pickStr pv ["flags"]).getD (synthPeerFlags pv))
     progress := pickF32 p pv ["progress", "peer_progress"]
     snubbed := (pickBool pv ["snubbed", "is_snubbed"]).getD false
     choked := (pickBool pv ["choked", "is_choked"]).getD false
     interested := pickBool pv ["interested", "is_interested"]
     optimistic := (pickBool pv ["optimistic"]).orElse fun _ => pickBool pv ["optimistic_unchoke"]
     incoming := pickBool pv ["incoming", "is_incoming"]
     encrypted := pickBool pv ["encrypted", "is_encrypted"]
     rttMs := (pickU64 pv ["rtt_ms", "rtt", "ping_ms"]).map (min · (2 ^ 32 - 1))
     country := (pickStr pv ["country", "country_code"]).orElse fun _ => p.lookupCountry ip
     lastSeenMs := env.nowMs },
   ⟨downloaded, uploaded, env.nowMs, env.now⟩)

/-- The loop over the snapshot's entries: the samples, the addresses seen, the rows. -/
def scanPeers (p : Platform) (env : PeersEnv) (entries : List (String × JsonValue))
    (samples : StrMap PeerSample) : StrMap PeerSample × List String × List PeerRow :=
  entries.foldl (fun (acc : StrMap PeerSample × List String × List PeerRow) e =>
    let (row, sample) := peerRow p env acc.1 e.1 e.2
    (acc.1.insert e.1 sample, acc.2.1 ++ [e.1], acc.2.2 ++ [row])) (samples, [], [])

/-- The availability loop over the rows with a progress. -/
def applyPeerProgress (p : Platform) (rows : List PeerRow) (rt : TorrentRuntime) :
    TorrentRuntime :=
  rows.foldl (fun rt row => match row.progress with
    | some progress => updatePieceAvailabilityFromPeers p rt progress row.id
    | none => rt) rt

/-- The loop over the cached peers that are not in the snapshot. -/
def removeAbsentPeers (p : Platform) (current : List String) (rt : TorrentRuntime) :
    TorrentRuntime :=
  rt.peerProgressCache.keys.foldl (fun rt peerId =>
    if current.contains peerId then rt else removePeerFromAvailability p rt peerId) rt

/-- Keep at most `MAX_PEER_SAMPLES_PER_TORRENT` samples, dropping the least recently seen. -/
def capPeerSamples (samples : StrMap PeerSample) : StrMap PeerSample :=
  if samples.size > MAX_PEER_SAMPLES_PER_TORRENT then
    let sorted := samples.entries.mergeSort fun a b => a.2.lastSeenMs ≤ b.2.lastSeenMs
    let keysToRemove := (sorted.take (samples.size - MAX_PEER_SAMPLES_PER_TORRENT)).map (·.1)
    keysToRemove.foldl (fun m k => m.erase k) samples
  else samples

/-- `out.sort_by`: by download rate, then by uploaded bytes, both descending. -/
def sortPeerRows (rows : List PeerRow) : List PeerRow :=
  rows.mergeSort fun a b =>
    decide (a.downRate > b.downRate) || (decide (a.downRate = b.downRate) && decide (a.uploaded ≥ b.uploaded))

/-- `peers_for` on a record's runtime, after the engine answered with `v`. -/
def peersRuntime (p : Platform) (env : PeersEnv) (v : JsonValue) (rt : TorrentRuntime) :
    TorrentRuntime × List PeerRow :=
  let scan := scanPeers p env (peerEntriesFromSnapshot v) rt.peerSamples
  let rt := applyPeerProgress p scan.2.2 { rt with peerSamples := scan.1 }
  let rt := removeAbsentPeers p (scan.2.2.map (·.id)) rt
  let kept := capPeerSamples (rt.peerSamples.retain fun k _ => scan.2.1.contains k)
  ({ rt with peerSamples := kept }, sortPeerRows scan.2.2)

def peersFor (p : Platform) (s : OrcState) (id : String) (env : PeersEnv) :
    Except String (OrcState × List PeerRow) :=
  match s.torrents.get? id with
  | none => .error "torrent not found"
  | some r =>
    match env.reply with
    | .failed msg =>
      let r' := { r with runtime := { r.runtime with lastError := some msg } }
      .ok ({ s with torrents := s.torrents.insert id r' }, [])
    | .ok v =>
      let out := peersRuntime p env v r.runtime
      .ok ({ s with torrents := s.torrents.insert id { r with runtime := out.1 } }, out.2)

/-- What `peers_for` makes of the record it finds. -/
def peersRecord (p : Platform) (env : PeersEnv) (r : TorrentRecord) : TorrentRecord :=
  match env.reply with
  | .failed msg => { r with runtime := { r.runtime with lastError := some msg } }
  | .ok v => { r with runtime := (peersRuntime p env v r.runtime).1 }

theorem peersFor_state (p : Platform) (s : OrcState) (id : String) (env : PeersEnv) :
    (peersFor p s id env).map Prod.fst = updateRecord "torrent not found" (peersRecord p env) s id := by
  unfold peersFor updateRecord peersRecord
  cases s.torrents.get? id with
  | none => rfl
  | some r => cases env.reply <;> rfl

/-! ## What `peers_for` changes -/

/-- `x` differs from `base` at most in the availability counters and the progress cache. -/
def AvailFrame (base x : TorrentRuntime) : Prop :=
  ∃ avail cache, x = { base with pieceAvailability := avail, peerProgressCache := cache }

theorem AvailFrame.refl (rt : TorrentRuntime) : AvailFrame rt rt := ⟨_, _, rfl⟩

theorem AvailFrame.trans {a b c : TorrentRuntime} (h₁ : AvailFrame a b) (h₂ : AvailFrame b c) :
    AvailFrame a c := by
  obtain ⟨_, _, rfl⟩ := h₁; obtain ⟨_, _, rfl⟩ := h₂; exact ⟨_, _, rfl⟩

theorem availFrame_update (p : Platform) (rt : TorrentRuntime) (progress : F32)
    (peerId : String) : AvailFrame rt (updatePieceAvailabilityFromPeers p rt progress peerId) := by
  unfold updatePieceAvailabilityFromPeers; dsimp only; split
  exacts [.refl rt, ⟨_, _, rfl⟩]

theorem availFrame_remove (p : Platform) (rt : TorrentRuntime) (peerId : String) :
    AvailFrame rt (removePeerFromAvailability p rt peerId) := by
  unfold removePeerFromAvailability; split
  · exact .refl rt
  · dsimp only; split <;> exact ⟨_, _, rfl⟩

theorem availFrame_applyPeerProgress (p : Platform) (rows : List PeerRow) (rt : TorrentRuntime) :
    AvailFrame rt (applyPeerProgress p rows rt) :=
  List.foldlRecOn rows _ rt (.refl rt) fun x hx row _ => by
    split
    exacts [hx.trans (availFrame_update ..), hx]

theorem availFrame_removeAbsentPeers (p : Platform) (current : List String)
    (rt : TorrentRuntime) : AvailFrame rt (removeAbsentPeers p current rt) :=
  List.foldlRecOn _ _ rt (.refl rt) fun x hx peerId _ => by
    split
    exacts [hx, hx.trans (availFrame_remove ..)]

/-- `peers_for` changes a runtime in its peer samples, availability counters and
progress cache only. -/
theorem peersRuntime_frame (p : Platform) (env : PeersEnv) (v : JsonValue)
    (rt : TorrentRuntime) : ∃ samples, AvailFrame { rt with peerSamples := samples }
      (peersRuntime p env v rt).1 := by
  let scan := scanPeers p env (peerEntriesFromSnapshot v) rt.peerSamples
  obtain ⟨a₁, c₁, h₁⟩ := availFrame_applyPeerProgress p scan.2.2 { rt with peerSamples := scan.1 }
  obtain ⟨a₂, c₂, h₂⟩ := availFrame_removeAbsentPeers p (scan.2.2.map (·.id))
    (applyPeerProgress p scan.2.2 { rt with peerSamples := scan.1 })
  simp only [peersRuntime]
  rw [h₂, h₁]
  exact ⟨_, _, _, rfl⟩

/-- The size of a record's progress cache after the availability loop of `peers_for`,
the largest it reaches in the call. -/
def peersForPeakCache (p : Platform) (s : OrcState) (id : String) (env : PeersEnv) : Nat :=
  match s.torrents.get? id, env.reply with
  | some r, .ok v =>
    let scan := scanPeers p env (peerEntriesFromSnapshot v) r.runtime.peerSamples
    (applyPeerProgress p scan.2.2 { r.runtime with peerSamples := scan.1 }).peerProgressCache.size
  | _, _ => 0

end OrcTorrent
