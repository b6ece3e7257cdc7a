import OrcTorrent.Registry
import OrcTorrent.Policy

/-! `tick` of `orc-core/src/lib.rs`: the heartbeat samples of every record, then the
kill-switch state machine and the policy's `network_allowed`, then the reconciliation of
every record with the engine's stats. The readings `tick` takes (the monotonic clock,
`is_vpn_connected()`, `now_ms()` and one `api_stats_v1` reply per record) are the fields
of a `TickEnv`. Rates are `f64` computations, as `Float`. -/

namespace OrcTorrent

/-- What `api_stats_v1` and `serde_json::to_value` give for one record. -/
inductive StatsReply
  | failed (msg : String)
  | unserializable
  | ok (v : JsonValue)

/-- The readings of one `tick`. -/
structure TickEnv where
  /-- `Instant::now()` at the start, in nanoseconds -/
  now : Nat
  /-- the clock that `heartbeat_last_sample.elapsed()` reads for each record -/
  heartbeatNow : String → Nat
  vpnConnected : Bool
  /-- `now_ms()` for `last_enforcement_ms` -/
  enforcementMs : Nat
  /-- `now_ms()` for the policy's `last_updated_ms` -/
  policyMs : Nat
  stats : String → StatsReply

/-! ## Heartbeat -/

def HEARTBEAT_SAMPLE_INTERVAL_MS : Nat := 200
def HEARTBEAT_MAX_SAMPLES : Nat := 120

/-- `push`, then `remove(0)` past the maximum. -/
def pushHeartbeatSample (x : Nat) (samples : List Nat) : List Nat :=
  let samples := samples ++ [x]
  if samples.length > HEARTBEAT_MAX_SAMPLES then samples.drop 1 else samples

/-- `(x as f64 / secs) as u64`. -/
def rateOf (x : Nat) (secs : Float) : Nat := (x.toFloat / secs).toUInt64.toNat

/-- The heartbeat pass for one record, `clock` being the reading of `elapsed()`. -/
def heartbeatRuntime (now clock : Nat) (rt : TorrentRuntime) : TorrentRuntime :=
  let elapsedMs := (clock - rt.heartbeatLastSample) / 10 ^ 6
  if elapsedMs ≥ HEARTBEAT_SAMPLE_INTERVAL_MS then
    if rt.running then
      let bytesDelta := rt.downloadedBytes - rt.heartbeatLastBytes
      let elapsedSec := elapsedMs.toFloat / 1000
      let bytesPerSec := if elapsedSec > 0 then rateOf bytesDelta elapsedSec else 0
      { rt with
        heartbeatSamples := pushHeartbeatSample bytesPerSec rt.heartbeatSamples
        heartbeatLastSample := now
        heartbeatLastBytes := rt.downloadedBytes }
    else
      { rt with
        heartbeatSamples := pushHeartbeatSample 0 rt.heartbeatSamples
        heartbeatLastSample := now }
  else rt

/-- The heartbeat pass changes only the heartbeat fields. -/
theorem heartbeatRuntime_frame (now clock : Nat) (rt : TorrentRuntime) :
    ∃ samples last bytes, heartbeatRuntime now clock rt =
      { rt with heartbeatSamples := samples, heartbeatLastSample := last,
                heartbeatLastBytes := bytes } := by
  unfold heartbeatRuntime; dsimp only
  split
  · split <;> exact ⟨_, _, _, rfl⟩
  · exact ⟨_, _, _, rfl⟩

/-! ## Kill switch -/

/-- What the `Armed → Engaged` transition does to a record. -/
def killSwitchStop (r : TorrentRecord) : TorrentRecord :=
  if r.runtime.running then
    { torrent := { r.torrent with running := false }
      runtime := { r.runtime with
        running := false, state := .stopped, downRateBps := 0, upRateBps := 0 } }
  else r

/-- The enforcement state machine, for an enabled kill switch. -/
def advanceKillSwitch (env : TickEnv) (s : OrcState) : OrcState :=
  let engage := { s.killSwitch with
    enforcementState := .engaged, lastEnforcementMs := some env.enforcementMs }
  let rearm := { s.killSwitch with
    enforcementState := .armed, lastEnforcementMs := some env.enforcementMs }
  match s.killSwitch.enforcementState with
  | .armed =>
    if !env.vpnConnected then
      { s with
        killSwitch := engage
        torrents := s.torrents.mapEntries fun _ r => killSwitchStop r }
    else s
  | .engaged | .releasing | .disarmed =>
    if env.vpnConnected then { s with killSwitch := rearm } else s

/-- The kill-switch block of `tick`, with the update of `network_allowed`. -/
def killSwitchTick (env : TickEnv) (s : OrcState) : OrcState :=
  if s.killSwitch.enabled then
    let s := advanceKillSwitch env s
    if s.policy.effective.networkAllowed ≠ env.vpnConnected then
      { s with policy := s.policy.flipNetworkAllowed env.vpnConnected env.policyMs }
    else s
  else if !s.policy.effective.networkAllowed then
    { s with policy := s.policy.flipNetworkAllowed true env.policyMs }
  else s

/-! ## Reconciliation with the engine -/

def u64Field (v : JsonValue) (k : String) : Option Nat := (v.get k).bind JsonValue.asU64

/-- The `match state_str` of `tick`. -/
def stateFromEngine (stateStr : String) (finished : Bool) : TorrentState :=
  match stateStr with
  | "paused" => .stopped
  | "initializing" => .checking
  | "error" => .error
  | "live" => if finished then .seeding else .downloading
  | _ => if finished then .seeding else .downloading

/-- `Duration::as_secs_f64` of a span of nanoseconds. -/
def secsF64 (nanos : Nat) : Float :=
  (nanos / 10 ^ 9).toFloat + (nanos % 10 ^ 9).toFloat / 1000000000

/-- The `file_progress` loop: file `i` is downloaded when its progress reaches its size,
unless it is skipped. -/
def applyFileProgress : List JsonValue → List TorrentFileEntry → List TorrentFileEntry
  | fp :: arr, f :: files =>
    { f with downloaded := decide (fp.asU64.getD 0 ≥ f.size) && f.priority != "skip" } ::
      applyFileProgress arr files
  | _, files => files

/-- The state after the override: it wins until its deadline, and is dropped after. -/
def applyStateOverride (now : Nat) (state : TorrentState) :
    Option StateOverride → TorrentState × Option StateOverride
  | some ov => if now < ov.until then (ov.state, some ov) else (state, none)
  | none => (state, none)

/-- One record of the stats loop, on a serialized stats value `v`. -/
def reconcileRecord (now : Nat) (v : JsonValue) (r : TorrentRecord) : TorrentRecord :=
  let rt := r.runtime
  let totalBytes := (u64Field v "total_bytes").getD 0
  let progressBytes :=
    ((u64Field v "progress_bytes").orElse fun _ => u64Field v "downloaded_bytes").getD 0
  let uploadedBytes := (u64Field v "uploaded_bytes").getD 0
  let finished := ((v.get "finished").bind JsonValue.asBool).getD false
  let stateStr := ((v.get "state").bind JsonValue.asStr).getD "error"
  let dt := max (secsF64 (now - rt.lastSample)) 0.001
  let (state, stateOverride) :=
    applyStateOverride now (stateFromEngine stateStr finished) rt.stateOverride
  let running := state.isActive
  let files := match (v.get "file_progress").bind JsonValue.asArray with
    | some arr => applyFileProgress arr rt.files
    | none =>
      if finished then rt.files.map fun f =>
        if f.priority ≠ "skip" then { f with downloaded := true } else f
      else rt.files
  { torrent := { r.torrent with running := running }
    runtime := { rt with
      downRateBps := rateOf (progressBytes - rt.lastDownloadedBytes) dt
      upRateBps := rateOf (uploadedBytes - rt.lastUploadedBytes) dt
      lastSample := now
      lastDownloadedBytes := progressBytes
      lastUploadedBytes := uploadedBytes
      totalBytes := totalBytes
      downloadedBytes := progressBytes
      uploadedBytes := uploadedBytes
      lastError := (v.get "error").bind JsonValue.asStr
      state := state
      stateOverride := stateOverride
      running := running
      files := files } }

/-- One record of the stats loop. -/
def statsRecord (now : Nat) (reply : StatsReply) (r : TorrentRecord) : TorrentRecord :=
  match reply with
  | .failed msg =>
    { r with runtime := { r.runtime with
        lastError := some msg, state := .error, running := false, downRateBps := 0,
        upRateBps := 0 } }
  | .unserializable => r
  | .ok v => reconcileRecord now v r

theorem applyFileProgress_priorities (arr : List JsonValue) (files : List TorrentFileEntry) :
    (applyFileProgress arr files).map (·.priority) = files.map (·.priority) := by
  induction files generalizing arr with
  | nil => cases arr <;> rfl
  | cons f files ih =>
    cases arr with
    | nil => rfl
    | cons fp arr => simp only [applyFileProgress, List.map_cons, ih]

/-- The stats loop keeps a record's profile and its files' priorities. -/
theorem statsRecord_choices (now : Nat) (reply : StatsReply) (r : TorrentRecord) :
    (statsRecord now reply r).torrent.profile = r.torrent.profile ∧
      (statsRecord now reply r).runtime.files.map (·.priority) =
        r.runtime.files.map (·.priority) := by
  unfold statsRecord
  split
  · exact ⟨rfl, rfl⟩
  · exact ⟨rfl, rfl⟩
  · refine ⟨rfl, ?_⟩
    simp only [reconcileRecord]
    split
    · exact applyFileProgress_priorities ..
    · split
      · simp only [List.map_map]
        exact List.map_congr_left fun f _ => by dsimp only [Function.comp]; split <;> rfl
      · rfl

/-- The heartbeat loop of `tick`. -/
def heartbeatTick (env : TickEnv) (s : OrcState) : OrcState :=
  { s with torrents := s.torrents.mapEntries fun id r =>
    { r with runtime := heartbeatRuntime env.now (env.heartbeatNow id) r.runtime } }

@[simp] theorem heartbeatTick_killSwitch (env : TickEnv) (s : OrcState) :
    (heartbeatTick env s).killSwitch = s.killSwitch := rfl

@[simp] theorem heartbeatTick_policy (env : TickEnv) (s : OrcState) :
    (heartbeatTick env s).policy = s.policy := rfl

/-- The stats loop of `tick`. -/
def statsTick (env : TickEnv) (s : OrcState) : OrcState :=
  { s with torrents := s.torrents.mapEntries fun id r => statsRecord env.now (env.stats id) r }

def tick (env : TickEnv) (s : OrcState) : OrcState :=
  statsTick env (killSwitchTick env (heartbeatTick env s))

/-! ## What `tick` does to the policy -/

theorem advanceKillSwitch_policy (env : TickEnv) (s : OrcState) :
    (advanceKillSwitch env s).policy = s.policy := by
  unfold advanceKillSwitch; split <;> (try split) <;> rfl

theorem killSwitchTick_policy (env : TickEnv) (s : OrcState) :
    (killSwitchTick env s).policy = s.policy ∨
      ∃ b, (killSwitchTick env s).policy = s.policy.flipNetworkAllowed b env.policyMs := by
  unfold killSwitchTick
  dsimp only
  split
  · split
    · exact .inr ⟨_, by rw [advanceKillSwitch_policy]⟩
    · exact .inl (advanceKillSwitch_policy env s)
  · split
    · exact .inr ⟨_, rfl⟩
    · exact .inl rfl

theorem tick_policy (env : TickEnv) (s : OrcState) :
    (tick env s).policy = s.policy ∨
      ∃ b, (tick env s).policy = s.policy.flipNetworkAllowed b env.policyMs :=
  killSwitchTick_policy env (heartbeatTick env s)

/-! ## What `tick` does to the kill switch -/

/-- `tick` moves the kill switch's enforcement state and keeps its configuration. -/
theorem tick_killSwitch (env : TickEnv) (s : OrcState) :
    ∃ st ms, (tick env s).killSwitch =
      { s.killSwitch with enforcementState := st, lastEnforcementMs := ms } := by
  have hadv : ∃ st ms, (advanceKillSwitch env (heartbeatTick env s)).killSwitch =
      { s.killSwitch with enforcementState := st, lastEnforcementMs := ms } := by
    unfold advanceKillSwitch; split <;> (try split) <;> exact ⟨_, _, rfl⟩
  unfold tick statsTick killSwitchTick; dsimp only
  split
  · split <;> exact hadv
  · split <;> exact ⟨_, _, rfl⟩

end OrcTorrent
