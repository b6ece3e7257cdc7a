import OrcTorrent.Handlers

/-! The kill switch of `orc-core/src/lib.rs` over whole runs. `patch_kill_switch` arms or
disarms it; each `tick` moves an enabled switch between `Armed` and `Engaged` on the VPN
reading and sets the policy's `network_allowed`, which the gate of the daemon's
`h_start`, `h_recheck` and `h_announce` reads.

Main result: in every reachable state the switch is never `Releasing` and is `Disarmed`
exactly when it is disabled; right after any tick it is `Engaged` exactly when it is
enabled and the VPN was down, and that is exactly when the daemon's gate is closed
(`killSwitch_enforcement`). -/

namespace OrcTorrent

/-- The enforcement state agrees with `enabled`. -/
structure KillSwitchCoherent (ks : KillSwitchConfig) : Prop where
  not_releasing : ks.enforcementState ≠ .releasing
  disarmed_iff : ks.enforcementState = .disarmed ↔ ks.enabled = false

theorem killSwitchCoherent_newState (downloadDir downloadDirPath : String) (startedAt nowMs : Nat) :
    KillSwitchCoherent (newState downloadDir downloadDirPath startedAt nowMs).killSwitch :=
  ⟨nofun, by simp [newState, newStateKillSwitch]⟩

theorem killSwitchCoherent_patch {ks : KillSwitchConfig} (h : KillSwitchCoherent ks)
    (req : PatchKillSwitchRequest) (nowMs : Nat) :
    KillSwitchCoherent (patchKillSwitchConfig ks req nowMs) := by
  unfold patchKillSwitchConfig
  split
  · next enabled _ => cases enabled <;> exact ⟨nofun, by simp⟩
  · exact ⟨h.not_releasing, h.disarmed_iff⟩

/-! ## What `tick` does to the switch -/

/-- The enforcement state after `advanceKillSwitch`, read off its match. -/
def advancedState (st : KillSwitchState) (vpnConnected : Bool) : KillSwitchState :=
  match st, vpnConnected with
  | .armed, false => .engaged
  | _, true => .armed
  | st, false => st

theorem advanceKillSwitch_killSwitch (env : TickEnv) (s : OrcState) :
    (advanceKillSwitch env s).killSwitch.enabled = s.killSwitch.enabled ∧
      (advanceKillSwitch env s).killSwitch.enforcementState =
        advancedState s.killSwitch.enforcementState env.vpnConnected := by
  unfold advanceKillSwitch
  split <;> cases env.vpnConnected <;> simp_all [advancedState]

/-- After a tick, `network_allowed` is the VPN reading if the switch is enabled, and true
otherwise. -/
theorem tick_networkAllowed (env : TickEnv) (s : OrcState) :
    (tick env s).policy.effective.networkAllowed = (!s.killSwitch.enabled || env.vpnConnected) := by
  show (killSwitchTick env (heartbeatTick env s)).policy.effective.networkAllowed = _
  rw [← heartbeatTick_killSwitch env s]
  generalize heartbeatTick env s = t
  unfold killSwitchTick
  dsimp only
  split <;> split <;> simp_all [advanceKillSwitch_policy, PolicyState.flipNetworkAllowed]

theorem tick_killSwitch_state (env : TickEnv) (s : OrcState) :
    (tick env s).killSwitch.enabled = s.killSwitch.enabled ∧
      (tick env s).killSwitch.enforcementState =
        if s.killSwitch.enabled then advancedState s.killSwitch.enforcementState env.vpnConnected
        else s.killSwitch.enforcementState := by
  show (killSwitchTick env (heartbeatTick env s)).killSwitch.enabled = _ ∧
    (killSwitchTick env (heartbeatTick env s)).killSwitch.enforcementState = _
  have hadv := advanceKillSwitch_killSwitch env (heartbeatTick env s)
  rw [heartbeatTick_killSwitch] at hadv
  unfold killSwitchTick
  dsimp only
  rw [heartbeatTick_killSwitch]
  split
  · split <;> exact hadv
  · split <;> exact ⟨rfl, rfl⟩

/-- Under coherence, a tick leaves an enabled switch `Armed` if the VPN is up and
`Engaged` if it is down. -/
theorem tick_enforcementState {s : OrcState} (h : KillSwitchCoherent s.killSwitch)
    (env : TickEnv) :
    (tick env s).killSwitch.enforcementState =
      if s.killSwitch.enabled then (if env.vpnConnected then .armed else .engaged)
      else .disarmed := by
  obtain ⟨-, hst⟩ := tick_killSwitch_state env s
  rw [hst]
  have hnr := h.not_releasing
  have hd := h.disarmed_iff
  cases hen : s.killSwitch.enabled <;> cases hv : env.vpnConnected <;>
    cases hs : s.killSwitch.enforcementState <;> simp_all [advancedState]

theorem killSwitchCoherent_tick {s : OrcState} (h : KillSwitchCoherent s.killSwitch)
    (env : TickEnv) : KillSwitchCoherent (tick env s).killSwitch := by
  have hst := tick_enforcementState h env
  constructor
  · rw [hst]; split <;> (try split) <;> nofun
  · rw [hst, (tick_killSwitch_state env s).1]
    cases s.killSwitch.enabled <;> cases env.vpnConnected <;> decide

/-! ## Over whole runs -/

theorem killSwitchCoherent_step (p : Platform) {s : OrcState} (h : KillSwitchCoherent s.killSwitch)
    (op : Op) : KillSwitchCoherent (step p s op).killSwitch := by
  cases hop : op.isRegistry
  · cases op with
    | patchKillSwitch req nowMs => exact killSwitchCoherent_patch h req nowMs
    | patchPolicy desired vpn nowMs => exact h
    | tick env => exact killSwitchCoherent_tick h env
    | _ => cases hop
  · obtain ⟨t, h'⟩ := step_registry_torrents p s hop
    rw [h']; exact h

theorem Reachable.killSwitchCoherent {p : Platform} {s : OrcState} (hs : Reachable p s) :
    KillSwitchCoherent s.killSwitch :=
  hs.inv (fun s => KillSwitchCoherent s.killSwitch) killSwitchCoherent_newState
    fun _ op _ h => killSwitchCoherent_step p h op

/-- **The kill switch over runs.** In every reachable state the switch is never
`Releasing`, and it is `Disarmed` exactly when it is disabled. After a tick from such a
state it is `Engaged` exactly when it is enabled and the VPN reading was down, and the
daemon's gate (`networkBlocked`) is closed exactly when it is `Engaged`. -/
theorem killSwitch_enforcement {p : Platform} {s : OrcState} (hs : Reachable p s)
    (env : TickEnv) :
    s.killSwitch.enforcementState ≠ .releasing ∧
      (s.killSwitch.enforcementState = .disarmed ↔ s.killSwitch.enabled = false) ∧
      ((tick env s).killSwitch.enforcementState = .engaged ↔
        s.killSwitch.enabled = true ∧ env.vpnConnected = false) ∧
      (networkBlocked (tick env s) = true ↔ (tick env s).killSwitch.enforcementState = .engaged) := by
  have h := hs.killSwitchCoherent
  refine ⟨h.not_releasing, h.disarmed_iff, ?_, ?_⟩
  · rw [tick_enforcementState h]
    cases s.killSwitch.enabled <;> cases env.vpnConnected <;> decide
  · rw [tick_enforcementState h, networkBlocked, tick_networkAllowed, (tick_killSwitch_state env s).1]
    cases s.killSwitch.enabled <;> cases env.vpnConnected <;> decide

/-- A tick that reads the VPN as down. -/
def vpnLostTick : TickEnv := ⟨0, fun _ => 0, false, 0, 0, fun _ => .unserializable⟩

theorem killSwitch_enforcement_after_enabling :
    let s := step Platform.constant (newState "" "" 0 0) (.patchKillSwitch ⟨some true, none, none, none⟩ 0)
    Reachable Platform.constant s ∧
      (s.killSwitch.enforcementState ≠ .releasing ∧
        (s.killSwitch.enforcementState = .disarmed ↔ s.killSwitch.enabled = false) ∧
        ((tick vpnLostTick s).killSwitch.enforcementState = .engaged ↔
          s.killSwitch.enabled = true ∧ vpnLostTick.vpnConnected = false) ∧
        (networkBlocked (tick vpnLostTick s) = true ↔
          (tick vpnLostTick s).killSwitch.enforcementState = .engaged)) :=
  have hs : Reachable Platform.constant _ :=
    Reachable.step (ReachableUnder.init "" "" 0 0) (.patchKillSwitch ⟨some true, none, none, none⟩ 0)
  ⟨hs, killSwitch_enforcement hs vpnLostTick⟩

end OrcTorrent
