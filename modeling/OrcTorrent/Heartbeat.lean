import OrcTorrent.System
import Mathlib.Data.List.DropRight

/-! The heartbeat window of a record. Each `tick` appends at most one sample
(`heartbeatSample`), and the window is the last `HEARTBEAT_MAX_SAMPLES` of everything
appended: pushing onto a window of at most 120 samples and dropping the first past 120 is
`rtake 120` of the extended list. Every reachable state keeps every window within the cap
(`Reachable.heartbeatBounded`), so along any run of ticks a record's window is the last 120
of its samples followed by the values the ticks appended, oldest first
(`heartbeatSamples_fifo`). -/

namespace OrcTorrent

/-! ## One heartbeat pass -/

/-- The sample the heartbeat pass appends for a record whose `elapsed()` reads `clock`,
when the interval has passed. -/
def heartbeatSample (clock : Nat) (rt : TorrentRuntime) : Option Nat :=
  let elapsedMs := (clock - rt.heartbeatLastSample) / 10 ^ 6
  if elapsedMs ≥ HEARTBEAT_SAMPLE_INTERVAL_MS then
    if rt.running then
      let bytesDelta := rt.downloadedBytes - rt.heartbeatLastBytes
      let elapsedSec := elapsedMs.toFloat / 1000
      some (if elapsedSec > 0 then rateOf bytesDelta elapsedSec else 0)
    else some 0
  else none

theorem rtake_append_rtake {α : Type} (l m : List α) (n : Nat) :
    (l.rtake n ++ m).rtake n = (l ++ m).rtake n := by
  simp only [List.rtake, List.length_append, List.length_drop, List.drop_append_eq_append_drop,
    List.drop_drop]
  congr 2 <;> omega

theorem rtake_of_length_le {α : Type} {l : List α} {n : Nat} (h : l.length ≤ n) : l.rtake n = l := by
  rw [List.rtake, Nat.sub_eq_zero_of_le h, List.drop_zero]

theorem length_rtake_le {α : Type} (l : List α) (n : Nat) : (l.rtake n).length ≤ n := by
  simp only [List.rtake, List.length_drop]
  omega

/-- On a window within the cap, `push` then `remove(0)` past the cap keeps the last 120. -/
theorem pushHeartbeatSample_eq_rtake (x : Nat) {samples : List Nat}
    (h : samples.length ≤ HEARTBEAT_MAX_SAMPLES) :
    pushHeartbeatSample x samples = (samples ++ [x]).rtake HEARTBEAT_MAX_SAMPLES := by
  simp only [pushHeartbeatSample, List.length_append, List.length_singleton]
  split
  · rw [List.rtake, List.length_append, List.length_singleton]
    congr 1; omega
  · exact (rtake_of_length_le (by rw [List.length_append, List.length_singleton]; omega)).symm

theorem heartbeatRuntime_samples (now clock : Nat) {rt : TorrentRuntime}
    (h : rt.heartbeatSamples.length ≤ HEARTBEAT_MAX_SAMPLES) :
    (heartbeatRuntime now clock rt).heartbeatSamples =
      (rt.heartbeatSamples ++ (heartbeatSample clock rt).toList).rtake HEARTBEAT_MAX_SAMPLES := by
  unfold heartbeatRuntime heartbeatSample
  dsimp only
  split
  · split <;> exact pushHeartbeatSample_eq_rtake _ h
  · rw [Option.toList, List.append_nil, rtake_of_length_le h]

/-! ## What the other passes and steps keep -/

theorem killSwitchStop_heartbeatSamples (r : TorrentRecord) :
    (killSwitchStop r).runtime.heartbeatSamples = r.runtime.heartbeatSamples := by
  unfold killSwitchStop; split <;> rfl

theorem statsRecord_heartbeatSamples (now : Nat) (reply : StatsReply) (r : TorrentRecord) :
    (statsRecord now reply r).runtime.heartbeatSamples = r.runtime.heartbeatSamples := by
  unfold statsRecord; split <;> rfl

theorem recordUpdate_heartbeatSamples {op : Op} {r r' : TorrentRecord} (h : RecordUpdate op r r') :
    r'.runtime.heartbeatSamples = r.runtime.heartbeatSamples := by
  cases h with
  | setRunning _ running r => cases running <;> rfl
  | _ => rfl

/-- One `tick`: record `id` keeps its place, and its window is the last 120 of the window
and the sample the tick appends. -/
theorem tick_heartbeatSamples (env : TickEnv) {s : OrcState} {id : String} {r : TorrentRecord}
    (hr : s.torrents.get? id = some r)
    (hlen : r.runtime.heartbeatSamples.length ≤ HEARTBEAT_MAX_SAMPLES) :
    ∃ r', (tick env s).torrents.get? id = some r' ∧
      r'.runtime.heartbeatSamples = (r.runtime.heartbeatSamples ++
        (heartbeatSample (env.heartbeatNow id) r.runtime).toList).rtake HEARTBEAT_MAX_SAMPLES := by
  let r₁ : TorrentRecord := { r with runtime := heartbeatRuntime env.now (env.heartbeatNow id) r.runtime }
  have h₁ : (heartbeatTick env s).torrents.get? id = some r₁ := by
    simp only [heartbeatTick, StrMap.get?_mapEntries, hr, Option.map_some']
  have h₂ : ∃ r₂, (killSwitchTick env (heartbeatTick env s)).torrents.get? id = some r₂ ∧
      r₂.runtime.heartbeatSamples = r₁.runtime.heartbeatSamples := by
    rcases killSwitchTick_torrents env (heartbeatTick env s) with h | h <;> rw [h]
    · exact ⟨r₁, h₁, rfl⟩
    · exact ⟨_, by rw [StrMap.get?_mapEntries, h₁]; rfl, killSwitchStop_heartbeatSamples r₁⟩
  obtain ⟨r₂, hr₂, hs₂⟩ := h₂
  refine ⟨_, by rw [tick, statsTick, StrMap.get?_mapEntries, hr₂]; rfl, ?_⟩
  rw [statsRecord_heartbeatSamples, hs₂]
  exact heartbeatRuntime_samples env.now (env.heartbeatNow id) hlen

/-! ## Runs of ticks -/

/-- `tick` applied along a run, first reading first. -/
def tickRun : List TickEnv → OrcState → OrcState
  | [], s => s
  | env :: envs, s => tickRun envs (tick env s)

/-- The samples the ticks of a run append to record `id`, oldest first. -/
def heartbeatLog (id : String) : List TickEnv → OrcState → List Nat
  | [], _ => []
  | env :: envs, s =>
    ((s.torrents.get? id).bind fun r => heartbeatSample (env.heartbeatNow id) r.runtime).toList ++
      heartbeatLog id envs (tick env s)

theorem tickRun_heartbeatSamples (envs : List TickEnv) {s : OrcState} {id : String}
    {r : TorrentRecord} (hr : s.torrents.get? id = some r)
    (hlen : r.runtime.heartbeatSamples.length ≤ HEARTBEAT_MAX_SAMPLES) :
    ∃ r', (tickRun envs s).torrents.get? id = some r' ∧
      r'.runtime.heartbeatSamples =
        (r.runtime.heartbeatSamples ++ heartbeatLog id envs s).rtake HEARTBEAT_MAX_SAMPLES := by
  induction envs generalizing s r with
  | nil =>
    exact ⟨r, hr, by rw [heartbeatLog, List.append_nil, rtake_of_length_le hlen]⟩
  | cons env envs ih =>
    obtain ⟨r₁, hr₁, hs₁⟩ := tick_heartbeatSamples env hr hlen
    obtain ⟨r', hr', hs'⟩ := ih hr₁ (hs₁ ▸ length_rtake_le _ _)
    refine ⟨r', hr', ?_⟩
    rw [hs', hs₁, rtake_append_rtake, heartbeatLog, hr, Option.some_bind, List.append_assoc]

/-! ## Every reachable state -/

/-- Every record's window is within the cap. -/
def HeartbeatBounded (s : OrcState) : Prop :=
  s.torrents.Forall fun r => r.runtime.heartbeatSamples.length ≤ HEARTBEAT_MAX_SAMPLES

theorem heartbeatBounded_tick (env : TickEnv) {s : OrcState} (hs : HeartbeatBounded s) :
    HeartbeatBounded (tick env s) := by
  refine forall_tick env hs (fun id r hr => ?_) (fun r hr => ?_) fun id r hr => ?_
  · show (heartbeatRuntime env.now (env.heartbeatNow id) r.runtime).heartbeatSamples.length ≤ _
    rw [heartbeatRuntime_samples _ _ hr]
    exact length_rtake_le _ _
  · rwa [killSwitchStop_heartbeatSamples]
  · rwa [statsRecord_heartbeatSamples]

theorem heartbeatBounded_step (p : Platform) {s : OrcState} (hs : HeartbeatBounded s) (op : Op) :
    HeartbeatBounded (step p s op) := by
  cases hreg : op.isRegistry
  · cases op with
    | patchKillSwitch req nowMs => exact hs
    | patchPolicy desired vpn nowMs => exact hs
    | tick env => exact heartbeatBounded_tick env hs
    | _ => cases hreg
  · refine forall_step_registry p hs hreg (fun _ _ hu hr => ?_) (fun _ env r v _ _ _ hr => ?_)
      fun _ _ _ _ _ _ => Nat.zero_le _
    · rwa [recordUpdate_heartbeatSamples hu]
    · obtain ⟨_, _, _, h⟩ := peersRuntime_frame p env v r.runtime
      show (peersRuntime p env v r.runtime).1.heartbeatSamples.length ≤ _
      rw [h]; exact hr

theorem Reachable.heartbeatBounded {p : Platform} {s : OrcState} (hs : Reachable p s) :
    HeartbeatBounded s :=
  hs.inv HeartbeatBounded (fun _ _ _ _ => StrMap.forall_empty _)
    fun _ op _ h => heartbeatBounded_step p h op

/-- From every reachable state, along every run of ticks, a record's heartbeat window has at
most 120 samples and is the last 120 of its window followed by the samples the ticks
appended, in the order they were appended. -/
theorem heartbeatSamples_fifo {p : Platform} {s : OrcState} (hs : Reachable p s)
    (envs : List TickEnv) {id : String} {r : TorrentRecord} (hr : s.torrents.get? id = some r) :
    ∃ r', (tickRun envs s).torrents.get? id = some r' ∧
      r'.runtime.heartbeatSamples.length ≤ HEARTBEAT_MAX_SAMPLES ∧
      r'.runtime.heartbeatSamples =
        (r.runtime.heartbeatSamples ++ heartbeatLog id envs s).rtake HEARTBEAT_MAX_SAMPLES := by
  obtain ⟨r', hr', hs'⟩ := tickRun_heartbeatSamples envs hr (hs.heartbeatBounded.get? hr)
  exact ⟨r', hr', hs' ▸ length_rtake_le _ _, hs'⟩

/-- A tick `i` seconds into the run, with the VPN up and stats that do not serialize. -/
def tickAtSecond (i : Nat) : TickEnv :=
  ⟨i * 10 ^ 9, fun _ => i * 10 ^ 9, true, i * 1000, i * 1000, fun _ => .unserializable⟩

set_option maxRecDepth 8000 in
/-- The sample torrent, then 125 ticks a second apart: each appends a sample, and the
window keeps the last 120 of them. -/
theorem heartbeatSamples_fifo_after_125_ticks :
    let s := step Platform.ascii (newState "" "" 0 0) (sampleAdd sampleHash 0 "t")
    let envs := (List.range 125).map fun i => tickAtSecond (i + 1)
    Reachable Platform.ascii s ∧ (heartbeatLog "t" envs s).length = 125 ∧
      ((tickRun envs s).torrents.get? "t").map (·.runtime.heartbeatSamples.length) = some 120 ∧
      ∃ r, s.torrents.get? "t" = some r ∧
        ∃ r', (tickRun envs s).torrents.get? "t" = some r' ∧
          r'.runtime.heartbeatSamples.length ≤ HEARTBEAT_MAX_SAMPLES ∧
          r'.runtime.heartbeatSamples =
            (r.runtime.heartbeatSamples ++ heartbeatLog "t" envs s).rtake HEARTBEAT_MAX_SAMPLES :=
  have hs : Reachable Platform.ascii _ := (ReachableUnder.init "" "" 0 0).step _ trivial
  ⟨hs, by decide, by decide, _, rfl, heartbeatSamples_fifo hs _ rfl⟩

end OrcTorrent
