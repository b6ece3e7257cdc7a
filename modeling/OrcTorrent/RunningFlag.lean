import OrcTorrent.System

/-! The two running flags of a record (`torrent.running`, shown to clients, and
`runtime.running`) and its state. Every registry operation and every branch of `tick`
keeps them in agreement, except the branch for a failed `api_stats_v1` call, which
clears `runtime.running` and leaves `torrent.running` as it was
(`stats_failure_desyncs_running`); along runs whose stats calls all answer they agree in
every state (`runningSynced_of_statsAnswered`). Independently of that, the stats loop runs after the
kill-switch block in the same `tick`, so a torrent the kill switch has just stopped runs
again as soon as the engine reports it `live` (`tick_engages_yet_live_torrent_runs`). -/

namespace OrcTorrent

/-- The two running flags agree, and say whether the state is an active one. -/
def RunningSynced (r : TorrentRecord) : Prop :=
  r.torrent.running = r.runtime.running ∧ r.runtime.running = r.runtime.state.isActive

theorem runningSynced_setRunningRecord (running : Bool) (r : TorrentRecord) :
    RunningSynced (setRunningRecord running r) := by
  cases running
  · exact ⟨rfl, rfl⟩
  · refine ⟨rfl, ?_⟩
    simp only [setRunningRecord, if_true]
    split <;> rfl

theorem runningSynced_recordUpdate {op : Op} {r r' : TorrentRecord}
    (h : RecordUpdate op r r') (hr : RunningSynced r) : RunningSynced r' := by
  cases h with
  | setRunning _ running r => exact runningSynced_setRunningRecord running r
  | _ => exact hr

theorem runningSynced_peersRuntime (p : Platform) (env : PeersEnv) (v : JsonValue)
    {r : TorrentRecord} (hr : RunningSynced r) :
    RunningSynced { r with runtime := (peersRuntime p env v r.runtime).1 } := by
  obtain ⟨_, _, _, h⟩ := peersRuntime_frame p env v r.runtime
  simp only [RunningSynced, h]; exact hr

theorem runningSynced_addedRecord (p : Platform) (req : AddTorrentRequest)
    (d : ApiTorrentDetails) (rqbitId : Nat) (id : String) (addedAtMs now : Nat) :
    RunningSynced (addedRecord p req d rqbitId id addedAtMs now) :=
  ⟨rfl, rfl⟩

theorem runningSynced_killSwitchStop {r : TorrentRecord} (hr : RunningSynced r) :
    RunningSynced (killSwitchStop r) := by
  unfold killSwitchStop; split
  exacts [⟨rfl, rfl⟩, hr]

theorem runningSynced_reconcileRecord (now : Nat) (v : JsonValue) (r : TorrentRecord) :
    RunningSynced (reconcileRecord now v r) :=
  ⟨rfl, rfl⟩

/-- A tick whose stats calls all answer keeps the flags in agreement. -/
theorem runningSynced_tick (env : TickEnv) {s : OrcState}
    (hs : s.torrents.Forall RunningSynced) (hok : ∀ id msg, env.stats id ≠ .failed msg) :
    (tick env s).torrents.Forall RunningSynced := by
  refine forall_tick env hs (fun id r hr => ?_) (fun _ => runningSynced_killSwitchStop)
    fun id r hr => ?_
  · obtain ⟨_, _, _, h⟩ := heartbeatRuntime_frame env.now (env.heartbeatNow id) r.runtime
    simp only [RunningSynced, h]; exact hr
  unfold statsRecord
  split
  · exact absurd ‹_› (hok id _)
  · exact hr
  · exact runningSynced_reconcileRecord ..

/-- The ticks whose stats calls all answer. -/
def Op.statsAnswered : Op → Prop
  | .tick env => ∀ id msg, env.stats id ≠ .failed msg
  | _ => True

/-- **The flags agree when the engine answers.** In every state reached by steps whose
stats calls all answer, every record's flags agree with each other and its state. -/
theorem runningSynced_of_statsAnswered (p : Platform) {s : OrcState}
    (hs : ReachableUnder p (fun _ op => op.statsAnswered) s) :
    s.torrents.Forall RunningSynced :=
  hs.inv (fun s => s.torrents.Forall RunningSynced) (fun _ _ _ _ => StrMap.forall_empty _)
    fun s op hop h => by
      cases hreg : op.isRegistry
      · cases op with
        | patchKillSwitch req nowMs => exact h
        | patchPolicy desired vpn nowMs => exact h
        | tick env => exact runningSynced_tick env h hop
        | _ => cases hreg
      · exact forall_step_registry p h hreg (fun _ _ hu hr => runningSynced_recordUpdate hu hr)
          (fun _ env _ v _ _ _ hr => runningSynced_peersRuntime p env v hr)
          fun _ _ _ _ _ _ => runningSynced_addedRecord ..

/-- A tick in which the engine reports every torrent live. -/
def liveTick : TickEnv :=
  ⟨0, fun _ => 0, true, 0, 0, fun _ => .ok (.object [("state", .string "live")])⟩

/-- The sample torrent added, paused, then a tick in which the engine reports it live: the core
runs it again, and both flags say so. -/
theorem runningSynced_of_statsAnswered_after_live_tick :
    let s := runOps Platform.ascii (newState "" "" 0 0)
      [sampleAdd sampleHash 0 "t", .setRunning "t" false, .tick liveTick]
    ReachableUnder Platform.ascii (fun _ op => op.statsAnswered) s ∧
      (s.torrents.get? "t").map (fun r => (r.torrent.running, r.runtime.running)) = some (true, true) ∧
      s.torrents.Forall RunningSynced :=
  have hs : ReachableUnder Platform.ascii (fun _ op => op.statsAnswered) _ :=
    (((ReachableUnder.init "" "" 0 0).step (sampleAdd sampleHash 0 "t") trivial).step
      (.setRunning "t" false) trivial).step (.tick liveTick) fun _ _ h => nomatch h
  ⟨hs, by decide, runningSynced_of_statsAnswered Platform.ascii hs⟩

/-! ## A failed stats call -/

theorem killSwitchTick_torrents_of_disabled (env : TickEnv) (s : OrcState)
    (h : s.killSwitch.enabled = false) : (killSwitchTick env s).torrents = s.torrents := by
  unfold killSwitchTick; rw [if_neg (by simp [h])]; split <;> rfl

/-- After `new_state` and one `integrate_added_torrent`, a tick whose stats call for the
new torrent fails leaves a reachable state in which that torrent is shown running
(`torrent.running`) while the core has marked it not running and in error. -/
theorem stats_failure_desyncs_running (p : Platform) (downloadDir downloadDirPath : String)
    (startedAt nowMs : Nat) (req : AddTorrentRequest) (resp : ApiAddTorrentResponse)
    (rqbitId : Nat) (id : String) (addedAtMs now : Nat) (env : TickEnv) (msg : String)
    (hid : resp.id = some rqbitId) (hfail : env.stats id = .failed msg) :
    let s := step p (step p (newState downloadDir downloadDirPath startedAt nowMs)
      (.integrateAddedTorrent req resp id addedAtMs now)) (.tick env)
    Reachable p s ∧ ∃ r, s.torrents.get? id = some r ∧ r.torrent.running = true ∧
      r.runtime.running = false ∧ r.runtime.state = .error := by
  intro s
  refine ⟨((ReachableUnder.init _ _ _ _).step _ trivial).step _ trivial, ?_⟩
  have hs : s = tick env { newState downloadDir downloadDirPath startedAt nowMs with
      torrents := StrMap.empty.insert id
        (addedRecord p req resp.details rqbitId id addedAtMs now) } := by
    simp only [s, step, integrateAddedTorrent, hid]; rfl
  rw [hs, tick, statsTick, killSwitchTick_torrents_of_disabled env _ rfl]
  simp only [heartbeatTick, StrMap.get?_mapEntries, StrMap.get?_insert, if_true,
    Option.map_some', hfail, statsRecord]
  exact ⟨_, rfl, rfl, rfl, rfl⟩

/-- A request with nothing but the engine's answer to go by. -/
def addRequestFixture : AddTorrentRequest := ⟨none, none, none, none⟩

def addResponseFixture : ApiAddTorrentResponse := ⟨some 0, ⟨"", none, "", none⟩⟩

/-- A tick in which every stats call fails. -/
def statsDownTick : TickEnv := ⟨0, fun _ => 0, true, 0, 0, fun _ => .failed "engine unreachable"⟩

theorem stats_failure_desyncs_running_at_first_add :
    addResponseFixture.id = some 0 ∧ statsDownTick.stats "t" = .failed "engine unreachable" ∧
      let s := step Platform.constant (step Platform.constant (newState "" "" 0 0)
        (.integrateAddedTorrent addRequestFixture addResponseFixture "t" 0 0)) (.tick statsDownTick)
      Reachable Platform.constant s ∧ ∃ r, s.torrents.get? "t" = some r ∧
        r.torrent.running = true ∧ r.runtime.running = false ∧ r.runtime.state = .error :=
  ⟨rfl, rfl, stats_failure_desyncs_running Platform.constant "" "" 0 0 addRequestFixture
    addResponseFixture 0 "t" 0 0 statsDownTick "engine unreachable" rfl rfl⟩

/-! ## The kill switch and a live torrent -/

theorem advanceKillSwitch_engage (env : TickEnv) (s : OrcState)
    (harm : s.killSwitch.enforcementState = .armed) (hvpn : env.vpnConnected = false) :
    advanceKillSwitch env s =
      { s with
        killSwitch := { s.killSwitch with
          enforcementState := .engaged, lastEnforcementMs := some env.enforcementMs }
        torrents := s.torrents.mapEntries fun _ r => killSwitchStop r } := by
  simp [advanceKillSwitch, harm, hvpn]

/-- The kill-switch block engages the switch, blocks the network and stops every record. -/
theorem killSwitchTick_engage (env : TickEnv) (s : OrcState) (hen : s.killSwitch.enabled = true)
    (harm : s.killSwitch.enforcementState = .armed) (hvpn : env.vpnConnected = false) :
    (killSwitchTick env s).killSwitch.enforcementState = .engaged ∧
      (killSwitchTick env s).policy.effective.networkAllowed = false ∧
      (killSwitchTick env s).torrents = s.torrents.mapEntries fun _ r => killSwitchStop r := by
  unfold killSwitchTick
  rw [if_pos hen]; dsimp only
  rw [advanceKillSwitch_engage env s harm hvpn]
  split
  · exact ⟨rfl, hvpn, rfl⟩
  · next h => exact ⟨rfl, by simpa [hvpn] using h, rfl⟩

theorem killSwitchStop_stateOverride (r : TorrentRecord) :
    (killSwitchStop r).runtime.stateOverride = r.runtime.stateOverride := by
  unfold killSwitchStop; split <;> rfl

theorem reconcileRecord_live (now : Nat) (v : JsonValue) (r : TorrentRecord)
    (hlive : (v.get "state").bind JsonValue.asStr = some "live")
    (hov : r.runtime.stateOverride = none) : (reconcileRecord now v r).runtime.running = true := by
  simp only [reconcileRecord, hlive, Option.getD_some, hov, applyStateOverride, stateFromEngine]
  split <;> rfl

/-- A tick that finds the VPN down engages an armed kill switch and stops every torrent,
and then, in its stats loop, marks running again every torrent the engine reports
`live` (with no `Checking` override pending). -/
theorem tick_engages_yet_live_torrent_runs (s : OrcState) (env : TickEnv) (id : String)
    (r : TorrentRecord) (v : JsonValue) (hen : s.killSwitch.enabled = true)
    (harm : s.killSwitch.enforcementState = .armed) (hvpn : env.vpnConnected = false)
    (hr : s.torrents.get? id = some r) (hov : r.runtime.stateOverride = none)
    (hv : env.stats id = .ok v) (hlive : (v.get "state").bind JsonValue.asStr = some "live") :
    (tick env s).killSwitch.enforcementState = .engaged ∧
      (tick env s).policy.effective.networkAllowed = false ∧
      ∃ r', (tick env s).torrents.get? id = some r' ∧ r'.runtime.running = true ∧
        r'.torrent.running = true := by
  obtain ⟨hk₁, hk₂, hk₃⟩ := killSwitchTick_engage env (heartbeatTick env s) hen harm hvpn
  refine ⟨hk₁, hk₂, ?_⟩
  let r₁ := killSwitchStop
    { r with runtime := heartbeatRuntime env.now (env.heartbeatNow id) r.runtime }
  have hget : (tick env s).torrents.get? id = some (reconcileRecord env.now v r₁) := by
    rw [tick, statsTick]; dsimp only
    rw [StrMap.get?_mapEntries, hk₃]
    simp [heartbeatTick, hr, hv, statsRecord, r₁]
  have hov₁ : r₁.runtime.stateOverride = none := by
    obtain ⟨_, _, _, h⟩ := heartbeatRuntime_frame env.now (env.heartbeatNow id) r.runtime
    simp only [r₁, killSwitchStop_stateOverride, h]; exact hov
  have hrun := reconcileRecord_live env.now v r₁ hlive hov₁
  exact ⟨_, hget, hrun, hrun⟩

/-- `new_state`, then the kill switch enabled, then one torrent added. -/
def armedWithTorrent : OrcState :=
  step Platform.constant (step Platform.constant (newState "" "" 0 0)
    (.patchKillSwitch ⟨some true, none, none, none⟩ 0))
    (.integrateAddedTorrent addRequestFixture addResponseFixture "t" 0 0)

/-- A tick that finds the VPN down while the engine reports every torrent live. -/
def vpnDownLiveTick : TickEnv :=
  ⟨0, fun _ => 0, false, 0, 0, fun _ => .ok (.object [("state", .string "live")])⟩

theorem tick_engages_yet_live_torrent_runs_after_add :
    Reachable Platform.constant armedWithTorrent ∧
      (tick vpnDownLiveTick armedWithTorrent).killSwitch.enforcementState = .engaged ∧
      (tick vpnDownLiveTick armedWithTorrent).policy.effective.networkAllowed = false ∧
      ∃ r', (tick vpnDownLiveTick armedWithTorrent).torrents.get? "t" = some r' ∧
        r'.runtime.running = true ∧ r'.torrent.running = true :=
  ⟨((ReachableUnder.init _ _ _ _).step _ trivial).step _ trivial,
    tick_engages_yet_live_torrent_runs armedWithTorrent vpnDownLiveTick "t"
      (addedRecord Platform.constant addRequestFixture addResponseFixture.details 0 "t" 0 0)
      (.object [("state", .string "live")]) rfl rfl rfl rfl rfl rfl rfl⟩

end OrcTorrent
