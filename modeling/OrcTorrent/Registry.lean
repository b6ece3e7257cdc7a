import OrcTorrent.Ingest

/-! The registry operations of `orc-core/src/lib.rs` on `OrcState`: adding the engine's
torrent (`integrate_added_torrent`), the per-torrent mutations, and the lookups the
daemon's handlers make. Each mutation that looks a record up returns `Except String`,
and on `Err` the state is the one it was given. The inputs the Rust code reads from the
system (the fresh UUID, `now_ms()`, `Instant::now()`) are arguments. -/

namespace OrcTorrent

/-! ## Requests and engine responses -/

structure AddTorrentRequest where
  magnet : Option String
  torrentB64 : Option String
  nameHint : Option String
  savePath : Option String
  deriving DecidableEq, Repr

/-- A file of the engine's torrent details. -/
structure ApiTorrentFile where
  name : String
  length : Nat
  deriving DecidableEq, Repr

/-- The fields of the engine's torrent details that the core reads. -/
structure ApiTorrentDetails where
  infoHash : String
  name : Option String
  outputFolder : String
  files : Option (List ApiTorrentFile)
  deriving DecidableEq, Repr

structure ApiAddTorrentResponse where
  id : Option Nat
  details : ApiTorrentDetails
  deriving DecidableEq, Repr

structure PatchFilePriorityRequest where
  paths : List (List String)
  priority : String
  deriving DecidableEq, Repr

/-- `!matches!(state, Stopped | Error)`: the states in which a torrent runs. -/
def TorrentState.isActive : TorrentState → Bool
  | .stopped | .error => false
  | _ => true

/-! ## `integrate_added_torrent` -/

/-- `s` unless it is blank. -/
def nonBlank (s : Option String) : Option String := s.filter fun x => !trimIsEmpty x

/-- The tiered piece size of the availability estimate. -/
def pieceSizeFor (totalBytes : Nat) : Nat :=
  if totalBytes > 4 * 1024 * 1024 * 1024 then 4 * 1024 * 1024
  else if totalBytes > 500 * 1024 * 1024 then 2 * 1024 * 1024
  else if totalBytes > 50 * 1024 * 1024 then 512 * 1024
  else 256 * 1024

/-- `total_pieces_estimate`, as a `u32`. -/
def totalPiecesEstimateFor (totalBytes : Nat) : Nat :=
  let pieceSize := pieceSizeFor totalBytes
  if pieceSize > 0 then min (max (totalBytes / pieceSize) 1) (2 ^ 32 - 1) else 100

/-- The trackers of the request: the magnet's, then the `.torrent` file's, deduplicated. -/
def requestTrackers (p : Platform) (req : AddTorrentRequest) : List String :=
  dedupPreserve ((req.magnet.map (parseTrackersFromMagnet p)).getD [] ++
    ((req.torrentB64.bind p.decodeBase64).map (parseTrackersFromTorrentBytes p)).getD [])

/-- The record `integrate_added_torrent` inserts. -/
def addedRecord (p : Platform) (req : AddTorrentRequest) (details : ApiTorrentDetails)
    (rqbitId : Nat) (id : String) (addedAtMs now : Nat) : TorrentRecord :=
  let files := (details.files.getD []).map fun f =>
    { path := splitPathComponents p f.name, size := f.length, priority := "normal",
      downloaded := false : TorrentFileEntry }
  let trackers := requestTrackers p req
  let totalBytes := files.foldl (fun acc f => acc + f.size) 0 % 2 ^ 64
  let totalPieces := totalPiecesEstimateFor totalBytes
  { torrent :=
      { id := id
        name := ((nonBlank req.nameHint).orElse fun _ => nonBlank details.name).getD
          ("torrent-" ++ ⟨details.infoHash.data.take 8⟩)
        addedAtMs := addedAtMs
        running := true
        profile := ⟨.standard, 0⟩
        infoHashHex := some details.infoHash
        savePath := some details.outputFolder }
    runtime :=
      { rqbitId := rqbitId, totalBytes := totalBytes, downloadedBytes := 0, uploadedBytes := 0
        running := true, state := .checking, downRateBps := 0, upRateBps := 0, peersSeen := 0
        files := files, lastError := none, trackers := trackers
        trackerState := trackers.foldl (fun m u => m.insert u {}) StrMap.empty
        peerSamples := StrMap.empty, stateOverride := none, lastSample := now
        lastDownloadedBytes := 0, lastUploadedBytes := 0, heartbeatSamples := []
        heartbeatLastSample := now, heartbeatLastBytes := 0
        totalPiecesEstimate := totalPieces
        pieceAvailability := List.replicate totalPieces 0
        peerProgressCache := StrMap.empty } }

/-- `integrate_added_torrent`, with `id` the fresh UUID, `addedAtMs` its `now_ms()` and
`now` its `Instant::now()`; on success the new state and the id. -/
def integrateAddedTorrent (p : Platform) (s : OrcState) (req : AddTorrentRequest)
    (resp : ApiAddTorrentResponse) (id : String) (addedAtMs now : Nat) :
    Except String (OrcState × String) :=
  if s.torrents.size ≥ MAX_TORRENTS then .error "Maximum number of torrents (10000) reached"
  else match resp.id with
    | none => .error "rqbit did not return a torrent id"
    | some rqbitId =>
      let r := addedRecord p req resp.details rqbitId id addedAtMs now
      .ok ({ s with torrents := s.torrents.insert id r }, id)

theorem integrateAddedTorrent_ok {p : Platform} {s : OrcState} {req : AddTorrentRequest}
    {resp : ApiAddTorrentResponse} {rqbitId : Nat} (hcap : s.torrents.size < MAX_TORRENTS)
    (hid : resp.id = some rqbitId) (id : String) (addedAtMs now : Nat) :
    integrateAddedTorrent p s req resp id addedAtMs now =
      .ok ({ s with
        torrents := s.torrents.insert id (addedRecord p req resp.details rqbitId id addedAtMs now) },
        id) := by
  simp [integrateAddedTorrent, hid, Nat.not_le.mpr hcap]

/-! ## Mutations of one record -/

/-- `state.torrents.get_mut(id).ok_or_else(|| anyhow!(msg))?`, then `f` on the record. -/
def updateRecord (msg : String) (f : TorrentRecord → TorrentRecord) (s : OrcState)
    (id : String) : Except String OrcState :=
  match s.torrents.get? id with
  | none => .error msg
  | some rec => .ok { s with torrents := s.torrents.insert id (f rec) }

def setRunningRecord (running : Bool) (rec : TorrentRecord) : TorrentRecord :=
  { torrent := { rec.torrent with running := running }
    runtime :=
      if running then
        { rec.runtime with
          running := true
          state := if rec.runtime.downloadedBytes ≥ rec.runtime.totalBytes then .seeding
            else .downloading }
      else
        { rec.runtime with
          running := false, downRateBps := 0, upRateBps := 0, state := .stopped } }

def setRunning (s : OrcState) (id : String) (running : Bool) : Except String OrcState :=
  updateRecord "Not found" (setRunningRecord running) s id

def removeTorrent (s : OrcState) (id : String) : Except String OrcState :=
  if s.torrents.contains id then .ok { s with torrents := s.torrents.erase id }
  else .error "Not found"

def setProfileRecord (profile : TorrentProfile) (r : TorrentRecord) : TorrentRecord :=
  { r with torrent := { r.torrent with profile := profile } }

/-- `set_profile`, which also returns the updated torrent. -/
def setProfile (s : OrcState) (id : String) (profile : TorrentProfile) :
    Except String (OrcState × Torrent) :=
  match s.torrents.get? id with
  | none => .error "Not found"
  | some r =>
    let r' := setProfileRecord profile r
    .ok ({ s with torrents := s.torrents.insert id r' }, r'.torrent)

/-- The loop of `set_file_priority`: every file whose path is one of `paths`. -/
def setFilePriorityFiles (req : PatchFilePriorityRequest) (files : List TorrentFileEntry) :
    List TorrentFileEntry :=
  if files = [] then files
  else req.paths.foldl (fun fs path => fs.map fun f =>
    if f.path = path then { f with priority := req.priority } else f) files

/-- A property of every file's priority and of the requested one holds of every priority
after the loop. -/
theorem setFilePriorityFiles_priority {Q : String → Prop} (req : PatchFilePriorityRequest)
    {files : List TorrentFileEntry} (hfiles : ∀ f ∈ files, Q f.priority) (hreq : Q req.priority) :
    ∀ f ∈ setFilePriorityFiles req files, Q f.priority := by
  unfold setFilePriorityFiles
  split
  · exact hfiles
  · next hne =>
    clear hne
    induction req.paths generalizing files with
    | nil => exact hfiles
    | cons path paths ih =>
      refine ih fun f hf => ?_
      obtain ⟨g, hg, rfl⟩ := List.mem_map.mp hf
      split
      exacts [hreq, hfiles g hg]

def setFilePriorityRecord (req : PatchFilePriorityRequest) (r : TorrentRecord) :
    TorrentRecord :=
  { r with runtime := { r.runtime with files := setFilePriorityFiles req r.runtime.files } }

def setFilePriority (s : OrcState) (id : String) (req : PatchFilePriorityRequest) :
    Except String OrcState :=
  updateRecord "Not found" (setFilePriorityRecord req) s id

/-- Show `Checking` for four seconds of the monotonic clock. -/
def forceCheckingRecord (now : Nat) (r : TorrentRecord) : TorrentRecord :=
  { r with runtime := { r.runtime with stateOverride := some ⟨now + 4 * 10 ^ 9, .checking⟩ } }

def forceChecking (s : OrcState) (id : String) (now : Nat) : Except String OrcState :=
  updateRecord "torrent not found" (forceCheckingRecord now) s id

/-- `u32::saturating_add(1)`. -/
def satIncU32 (n : Nat) : Nat := min (n + 1) (2 ^ 32 - 1)

def markAnnounceTrackers (nowMs : Nat) (trackers : List String)
    (ts : StrMap TrackerRuntimeState) : StrMap TrackerRuntimeState :=
  trackers.foldl (fun ts t =>
    let st := (ts.get? t).getD {}
    ts.insert t { st with
      lastAnnounceMs := some nowMs
      nextAnnounceMs := some ((nowMs + 30 * 60 * 1000) % 2 ^ 64)
      announceCount := satIncU32 st.announceCount }) ts

def markAnnounceRecord (nowMs : Nat) (r : TorrentRecord) : TorrentRecord :=
  { r with runtime := { r.runtime with
      trackerState := markAnnounceTrackers nowMs r.runtime.trackers r.runtime.trackerState } }

def markAnnounce (s : OrcState) (id : String) (nowMs : Nat) : Except String OrcState :=
  updateRecord "torrent not found" (markAnnounceRecord nowMs) s id

/-! ## Lookups -/

/-- `str::eq_ignore_ascii_case`. -/
def eqIgnoreAsciiCase (a b : String) : Bool := a.data.map Char.toLower = b.data.map Char.toLower

/-- `find_torrent_by_info_hash`: the first record in iteration order whose info hash
matches, with whether it is complete and whether it runs. -/
def findTorrentByInfoHash (s : OrcState) (infoHash : String) : Option (String × Bool × Bool) :=
  (s.torrents.entries.find? fun e =>
      (e.2.torrent.infoHashHex.map fun h => eqIgnoreAsciiCase h infoHash).getD false).map
    fun e => (e.1, decide (e.2.runtime.downloadedBytes ≥ e.2.runtime.totalBytes) &&
      decide (e.2.runtime.totalBytes > 0), e.2.runtime.running)

def rqbitIdFor (s : OrcState) (id : String) : Option Nat :=
  (s.torrents.get? id).map (·.runtime.rqbitId)

/-- `only_files_for`: the indices of the files not marked `skip`. -/
def onlyFilesFor (s : OrcState) (id : String) : Option (List Nat) :=
  (s.torrents.get? id).map fun rec =>
    (rec.runtime.files.enum.filter fun e => e.2.priority ≠ "skip").map (·.1)

structure TrackerRow where
  url : String
  tier : Option Nat
  status : String
  seeders : Option Nat
  leechers : Option Nat
  lastAnnounceMs : Option Nat
  nextAnnounceMs : Option Nat
  error : Option String
  announceCount : Option Nat
  scrapeCount : Option Nat
  deriving DecidableEq, Repr

/-- The row of a peer source that is not a tracker (DHT, PeX, LSD). -/
def sourceRow (url : String) (running : Bool) : TrackerRow :=
  ⟨url, some 0, if running then "working" else "disabled", none, none, none, none, none, none,
    none⟩

def trackerRow (running : Bool) (ts : StrMap TrackerRuntimeState) (i : Nat) (url : String) :
    TrackerRow :=
  let st := (ts.get? url).getD {}
  { url := url, tier := some (i % 2 ^ 32)
    status := if st.lastError.isSome then "not_working" else if running then "updating"
      else "disabled"
    seeders := none, leechers := none, lastAnnounceMs := st.lastAnnounceMs
    nextAnnounceMs := st.nextAnnounceMs, error := st.lastError
    announceCount := some st.announceCount, scrapeCount := some st.scrapeCount }

/-- The first loop of `trackers_for`: give every tracker a state entry. -/
def ensureTrackerStates (r : TorrentRecord) : TorrentRecord :=
  { r with runtime := { r.runtime with
      trackerState := r.runtime.trackers.foldl
        (fun ts t => if ts.contains t then ts else ts.insert t {}) r.runtime.trackerState } }

def trackersFor (s : OrcState) (id : String) : Except String (OrcState × List TrackerRow) :=
  match s.torrents.get? id with
  | none => .error "torrent not found"
  | some r =>
    let r' := ensureTrackerStates r
    let running := r.runtime.running && r.runtime.state.isActive
    let rows := ["** DHT **", "** PeX **", "** LSD **"].map (sourceRow · running) ++
      r.runtime.trackers.enum.map fun e => trackerRow running r'.runtime.trackerState e.1 e.2
    .ok ({ s with torrents := s.torrents.insert id r' }, rows)

/-! ## Sample inputs

A magnet with two trackers, and the engine's details of a torrent of two files, to run the
model on concrete adds. -/

def sampleHash : String := "0123456789abcdef0123456789abcdef01234567"

def otherHash : String := "fedcba9876543210fedcba9876543210fedcba98"

/-- A magnet for `hash` with a display name and two trackers, the first one percent-encoded. -/
def sampleMagnet (hash : String) : String :=
  "magnet:?xt=urn:btih:" ++ hash ++
    "&dn=sample&tr=udp%3A%2F%2Ftracker.one%3A6969&tr=http://tracker.two/announce"

def sampleRequest (hash : String) : AddTorrentRequest := ⟨some (sampleMagnet hash), none, none, none⟩

/-- The engine's details of the torrent `hash`: files `a` and `b` of 300000 bytes each, two
pieces of the estimate. -/
def sampleDetails (hash : String) : ApiTorrentDetails :=
  ⟨hash, some "sample", "/downloads/sample", some [⟨"a", 300000⟩, ⟨"b", 300000⟩]⟩

end OrcTorrent
