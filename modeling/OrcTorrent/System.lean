import OrcTorrent.Peers

/-! The core as a state machine: every public operation of `orc-core/src/lib.rs` that
changes `OrcState`, with the readings it takes, is an `Op`; `step` applies one, and an
operation that returns `Err` leaves the state as it was. `ReachableUnder ok` holds of the
states reached from `new_state` by steps that `ok` admits; `Reachable` admits every step.

Main results: the registry operations touch only the torrent map
(`step_registry_torrents`), and the policy is derived from the desired policy in every
reachable state, with a version that grows whenever the policy changes
(`policy_derived_and_versioned`). -/

namespace OrcTorrent

inductive Op
  | integrateAddedTorrent (req : AddTorrentRequest) (resp : ApiAddTorrentResponse) (id : String)
      (addedAtMs now : Nat)
  | setRunning (id : String) (running : Bool)
  | removeTorrent (id : String)
  | setProfile (id : String) (profile : TorrentProfile)
  | setFilePriority (id : String) (req : PatchFilePriorityRequest)
  | forceChecking (id : String) (now : Nat)
  | markAnnounce (id : String) (nowMs : Nat)
  | peersFor (id : String) (env : PeersEnv)
  | trackersFor (id : String)
  | patchKillSwitch (req : PatchKillSwitchRequest) (nowMs : Nat)
  | patchPolicy (desired : DesiredPolicy) (vpnConnected : Bool) (nowMs : Nat)
  | tick (env : TickEnv)

/-- The state after an operation that returns `Result`: unchanged on `Err`. -/
def orKeep (s : OrcState) : Except String OrcState → OrcState
  | .ok s' => s'
  | .error _ => s

def step (p : Platform) (s : OrcState) : Op → OrcState
  | .integrateAddedTorrent req resp id addedAtMs now =>
    orKeep s ((integrateAddedTorrent p s req resp id addedAtMs now).map Prod.fst)
  | .setRunning id running => orKeep s (setRunning s id running)
  | .removeTorrent id => orKeep s (removeTorrent s id)
  | .setProfile id profile => orKeep s ((setProfile s id profile).map Prod.fst)
  | .setFilePriority id req => orKeep s (setFilePriority s id req)
  | .forceChecking id now => orKeep s (forceChecking s id now)
  | .markAnnounce id nowMs => orKeep s (markAnnounce s id nowMs)
  | .peersFor id env => orKeep s ((peersFor p s id env).map Prod.fst)
  | .trackersFor id => orKeep s ((trackersFor s id).map Prod.fst)
  | .patchKillSwitch req nowMs => (patchKillSwitch s req nowMs).1
  | .patchPolicy desired vpn nowMs => (patchPolicy s desired vpn nowMs).1
  | .tick env => tick env s

inductive ReachableUnder (p : Platform) (ok : OrcState → Op → Prop) : OrcState → Prop
  | init (downloadDir downloadDirPath : String) (startedAt nowMs : Nat) :
      ReachableUnder p ok (newState downloadDir downloadDirPath startedAt nowMs)
  | step {s : OrcState} (op : Op) :
      ReachableUnder p ok s → ok s op → ReachableUnder p ok (step p s op)

def Reachable (p : Platform) : OrcState → Prop := ReachableUnder p fun _ _ => True

theorem Reachable.step {p : Platform} {s : OrcState} (h : Reachable p s) (op : Op) :
    Reachable p (OrcTorrent.step p s op) :=
  ReachableUnder.step op h trivial

/-- A state reached by admitted steps is reachable. -/
theorem ReachableUnder.reachable {p : Platform} {ok : OrcState → Op → Prop} {s : OrcState}
    (h : ReachableUnder p ok s) : Reachable p s := by
  induction h with
  | init d dp sa nm => exact .init d dp sa nm
  | step op _ _ ih => exact ih.step op

/-- The state after the operations of `ops`, in order. -/
def runOps (p : Platform) (s : OrcState) (ops : List Op) : OrcState := ops.foldl (step p) s

theorem reachable_runOps {p : Platform} {s : OrcState} (h : Reachable p s) (ops : List Op) :
    Reachable p (runOps p s ops) := by
  induction ops generalizing s with
  | nil => exact h
  | cons op ops ih => exact ih (h.step op)

/-- The add of the sample torrent `hash`, numbered `rqbitId` by the engine and recorded as
`id`. -/
def sampleAdd (hash : String) (rqbitId : Nat) (id : String) : Op :=
  .integrateAddedTorrent (sampleRequest hash) ⟨some rqbitId, sampleDetails hash⟩ id 0 0

/-- The engine's peer snapshot at time `t` seconds: one peer at `addr`, which has downloaded
and uploaded `bytes` bytes and reports progress 1. -/
def samplePeers (addr : String) (bytes t : Nat) : PeersEnv :=
  ⟨.ok (.object [("peers", .object [(addr, .object [("downloaded", .number (.posInt bytes)),
    ("uploaded", .number (.posInt bytes)), ("progress", .number (.posInt 1))])])]),
    t * 10 ^ 9, t * 1000⟩

/-- **Induction over runs.** An invariant of `new_state` that every admitted step keeps
holds in every state reached. -/
theorem ReachableUnder.inv {p : Platform} {ok : OrcState → Op → Prop} (Inv : OrcState → Prop)
    (init : ∀ d dp sa nm, Inv (newState d dp sa nm))
    (step : ∀ s op, ok s op → Inv s → Inv (OrcTorrent.step p s op)) {s : OrcState}
    (hs : ReachableUnder p ok s) : Inv s := by
  induction hs with
  | init d dp sa nm => exact init d dp sa nm
  | step op _ hok ih => exact step _ op hok ih

/-! ## Frames -/

/-- The registry operations, which change only the torrent map. -/
def Op.isRegistry : Op → Bool
  | .patchKillSwitch .. | .patchPolicy .. | .tick .. => false
  | _ => true

/-- A result whose successful state differs from `s` at most in the torrent map. -/
def TorrentsOnly {β : Type} (s : OrcState) (r : Except String (OrcState × β)) : Prop :=
  ∀ s' b, r = .ok (s', b) → ∃ t, s' = { s with torrents := t }

theorem orKeep_torrentsOnly {β : Type} {s : OrcState} {r : Except String (OrcState × β)}
    (h : TorrentsOnly s r) : ∃ t, orKeep s (r.map Prod.fst) = { s with torrents := t } := by
  rcases r with _ | ⟨s', b⟩
  · exact ⟨s.torrents, rfl⟩
  · exact h s' b rfl

theorem updateRecord_torrentsOnly (msg : String) (f : TorrentRecord → TorrentRecord)
    (s : OrcState) (id : String) : TorrentsOnly s ((updateRecord msg f s id).map (·, ())) := by
  intro s' b h
  unfold updateRecord at h
  split at h <;> cases h
  exact ⟨_, rfl⟩

theorem orKeep_updateRecord (msg : String) (f : TorrentRecord → TorrentRecord) (s : OrcState)
    (id : String) : ∃ t, orKeep s (updateRecord msg f s id) = { s with torrents := t } := by
  have := orKeep_torrentsOnly (updateRecord_torrentsOnly msg f s id)
  rcases h : updateRecord msg f s id with _ | s' <;> simp_all [Except.map]

theorem setProfile_state (s : OrcState) (id : String) (profile : TorrentProfile) :
    (setProfile s id profile).map Prod.fst =
      updateRecord "Not found" (setProfileRecord profile) s id := by
  unfold setProfile updateRecord; split <;> rfl

theorem trackersFor_state (s : OrcState) (id : String) :
    (trackersFor s id).map Prod.fst = updateRecord "torrent not found" ensureTrackerStates s id := by
  unfold trackersFor updateRecord; split <;> rfl

theorem step_registry_torrents (p : Platform) (s : OrcState) {op : Op} (hop : op.isRegistry) :
    ∃ t, step p s op = { s with torrents := t } := by
  cases op with
  | integrateAddedTorrent req resp id ms now =>
    refine orKeep_torrentsOnly fun s' b h => ?_
    unfold integrateAddedTorrent at h
    split at h
    · cases h
    · split at h <;> cases h; exact ⟨_, rfl⟩
  | setRunning id running => exact orKeep_updateRecord _ _ s id
  | removeTorrent id =>
    show ∃ t, orKeep s (removeTorrent s id) = _
    unfold removeTorrent; split <;> exact ⟨_, rfl⟩
  | setProfile id profile => rw [step, setProfile_state]; exact orKeep_updateRecord _ _ s id
  | setFilePriority id req => exact orKeep_updateRecord _ _ s id
  | forceChecking id now => exact orKeep_updateRecord _ _ s id
  | markAnnounce id nowMs => exact orKeep_updateRecord _ _ s id
  | peersFor id env =>
    refine orKeep_torrentsOnly fun s' b h => ?_
    unfold peersFor at h
    split at h
    · cases h
    · split at h <;> cases h <;> exact ⟨_, rfl⟩
  | trackersFor id => rw [step, trackersFor_state]; exact orKeep_updateRecord _ _ s id
  | patchKillSwitch | patchPolicy | tick => cases hop

/-! ## What a step does to the records -/

/-- How the registry operation `op` rewrites an existing record. -/
inductive RecordUpdate : Op → TorrentRecord → TorrentRecord → Prop
  | setRunning (id : String) (running : Bool) (r : TorrentRecord) :
      RecordUpdate (.setRunning id running) r (setRunningRecord running r)
  | setProfile (id : String) (profile : TorrentProfile) (r : TorrentRecord) :
      RecordUpdate (.setProfile id profile) r (setProfileRecord profile r)
  | setFilePriority (id : String) (req : PatchFilePriorityRequest) (r : TorrentRecord) :
      RecordUpdate (.setFilePriority id req) r (setFilePriorityRecord req r)
  | forceChecking (id : String) (now : Nat) (r : TorrentRecord) :
      RecordUpdate (.forceChecking id now) r (forceCheckingRecord now r)
  | markAnnounce (id : String) (nowMs : Nat) (r : TorrentRecord) :
      RecordUpdate (.markAnnounce id nowMs) r (markAnnounceRecord nowMs r)
  | peersFailed (id : String) (env : PeersEnv) (msg : String) (r : TorrentRecord) :
      RecordUpdate (.peersFor id env) r
        { r with runtime := { r.runtime with lastError := some msg } }
  | trackers (id : String) (r : TorrentRecord) :
      RecordUpdate (.trackersFor id) r (ensureTrackerStates r)

section Records

variable {P : TorrentRecord → Prop} {s : OrcState}

theorem forall_orKeep {r : Except String OrcState} (hs : s.torrents.Forall P)
    (h : ∀ s', r = .ok s' → s'.torrents.Forall P) : (orKeep s r).torrents.Forall P := by
  rcases r with _ | s'
  exacts [hs, h s' rfl]

theorem forall_updateRecord (hs : s.torrents.Forall P) (msg : String)
    {f : TorrentRecord → TorrentRecord} (hf : ∀ r, P r → P (f r)) (id : String) :
    (orKeep s (updateRecord msg f s id)).torrents.Forall P := by
  refine forall_orKeep hs fun s' h => ?_
  unfold updateRecord at h
  split at h
  · cases h
  · next r hr => cases h; exact hs.insert id (hf r (hs.get? hr))

/-- **Registry steps.** A property of records that the `RecordUpdate`s of `op` keep, that the
peer-table update of `peers_for` keeps on the record it updates, and that every record
`integrate_added_torrent` builds has, holds of every record after a registry step. -/
theorem forall_step_registry (p : Platform) (hs : s.torrents.Forall P) {op : Op}
    (hop : op.isRegistry) (hupd : ∀ r r', RecordUpdate op r r' → P r → P r')
    (hpeers : ∀ id env r v, op = .peersFor id env → s.torrents.get? id = some r →
      env.reply = .ok v → P r → P { r with runtime := (peersRuntime p env v r.runtime).1 })
    (hadd : ∀ req d rqbitId id addedAtMs now, P (addedRecord p req d rqbitId id addedAtMs now)) :
    (step p s op).torrents.Forall P := by
  cases op with
  | integrateAddedTorrent req resp id addedAtMs now =>
    refine forall_orKeep hs fun s' h => ?_
    unfold integrateAddedTorrent at h
    split at h
    · cases h
    · split at h
      · cases h
      · cases h; exact hs.insert id (hadd ..)
  | setRunning id running => exact forall_updateRecord hs _ (fun r => hupd _ _ (.setRunning id running r)) id
  | removeTorrent id =>
    refine forall_orKeep hs fun s' h => ?_
    unfold removeTorrent at h
    split at h <;> cases h
    exact hs.retain _
  | setProfile id profile =>
    rw [step, setProfile_state]
    exact forall_updateRecord hs _ (fun r => hupd _ _ (.setProfile id profile r)) id
  | setFilePriority id req => exact forall_updateRecord hs _ (fun r => hupd _ _ (.setFilePriority id req r)) id
  | forceChecking id now => exact forall_updateRecord hs _ (fun r => hupd _ _ (.forceChecking id now r)) id
  | markAnnounce id nowMs => exact forall_updateRecord hs _ (fun r => hupd _ _ (.markAnnounce id nowMs r)) id
  | peersFor id env =>
    refine forall_orKeep hs fun s' h => ?_
    unfold peersFor at h
    split at h
    · cases h
    · next r hr =>
      split at h <;> cases h
      · exact hs.insert id (hupd _ _ (.peersFailed id env _ r) (hs.get? hr))
      · next v hv => exact hs.insert id (hpeers id env r v rfl hr hv (hs.get? hr))
  | trackersFor id =>
    rw [step, trackersFor_state]
    exact forall_updateRecord hs _ (fun r => hupd _ _ (.trackers id r)) id
  | patchKillSwitch | patchPolicy | tick => cases hop

theorem killSwitchTick_torrents (env : TickEnv) (s : OrcState) :
    (killSwitchTick env s).torrents = s.torrents ∨
      (killSwitchTick env s).torrents = s.torrents.mapEntries fun _ r => killSwitchStop r := by
  have hadv : (advanceKillSwitch env s).torrents = s.torrents ∨
      (advanceKillSwitch env s).torrents = s.torrents.mapEntries fun _ r => killSwitchStop r := by
    unfold advanceKillSwitch; split <;> (try split) <;> simp
  unfold killSwitchTick; dsimp only
  split
  · split <;> exact hadv
  · split <;> exact .inl rfl

/-- **Ticks.** A property of records kept by the heartbeat, the kill-switch stop and the
stats update of every record holds of every record after `tick`. -/
theorem forall_tick (env : TickEnv) (hs : s.torrents.Forall P)
    (hbeat : ∀ id r, P r → P { r with runtime := heartbeatRuntime env.now (env.heartbeatNow id) r.runtime })
    (hstop : ∀ r, P r → P (killSwitchStop r))
    (hstats : ∀ id r, P r → P (statsRecord env.now (env.stats id) r)) :
    (tick env s).torrents.Forall P := by
  have h1 : (heartbeatTick env s).torrents.Forall P := hs.mapEntries hbeat
  have h2 : (killSwitchTick env (heartbeatTick env s)).torrents.Forall P := by
    rcases killSwitchTick_torrents env (heartbeatTick env s) with h | h <;> rw [h]
    exacts [h1, h1.mapEntries fun _ r => hstop r]
  exact h2.mapEntries hstats

end Records

/-! ## What a step does to the policy -/

/-- A step keeps the policy, or bumps its version. -/
theorem step_policy (p : Platform) (s : OrcState) (op : Op) :
    (step p s op).policy = s.policy ∨
      (step p s op).policy.version = bumpVersion s.policy.version := by
  cases hop : op.isRegistry
  · cases op with
    | patchKillSwitch req nowMs => exact .inl rfl
    | patchPolicy desired vpn nowMs => exact .inr rfl
    | tick env =>
      rcases tick_policy env s with h | ⟨b, h⟩
      · exact .inl h
      · exact .inr (by simp only [step, h, PolicyState.flipNetworkAllowed])
    | _ => cases hop
  · obtain ⟨t, h⟩ := step_registry_torrents p s hop
    exact .inl (by rw [h])

theorem policyDerived_step (p : Platform) {s : OrcState} (h : PolicyDerived s.policy)
    (op : Op) : PolicyDerived (step p s op).policy := by
  cases hop : op.isRegistry
  · cases op with
    | patchKillSwitch req nowMs => exact h
    | patchPolicy desired vpn nowMs => exact policyDerived_patchPolicy s desired vpn nowMs
    | tick env =>
      rcases tick_policy env s with h' | ⟨b, h'⟩
      · simpa only [step, h'] using h
      · simpa only [step, h'] using policyDerived_flipNetworkAllowed h b env.policyMs
    | _ => cases hop
  · obtain ⟨t, h'⟩ := step_registry_torrents p s hop
    rw [h']; exact h

theorem Reachable.policyDerived {p : Platform} {s : OrcState} (hs : Reachable p s) :
    PolicyDerived s.policy :=
  hs.inv (fun s => PolicyDerived s.policy) (fun d dp sa nm => policyDerived_newState d dp sa nm)
    fun _ op _ h => policyDerived_step p h op

/-- **The policy invariant.** In every reachable state the effective policy is the one
derived from the desired policy (its `network_allowed` aside), the `anon_upnp` warning is
listed exactly when anonymous mode and port mapping are both desired, and a step that
changes the desired or the effective policy increases the version, as long as the
version does not wrap. -/
theorem policy_derived_and_versioned (p : Platform) {s : OrcState} (hs : Reachable p s) :
    s.policy.effective = effectiveOf s.policy.desired s.policy.effective.networkAllowed ∧
      ((∃ w ∈ s.policy.warnings, w.code = "anon_upnp") ↔
        s.policy.desired.anonymousMode = true ∧ s.policy.desired.upnpNatpmpEnabled = true) ∧
      ∀ op, s.policy.version + 1 < 2 ^ 64 →
        ((step p s op).policy.desired ≠ s.policy.desired ∨
          (step p s op).policy.effective ≠ s.policy.effective) →
        s.policy.version < (step p s op).policy.version := by
  have hd := hs.policyDerived
  refine ⟨hd.effective, anonUpnp_mem_iff hd, fun op hv hchg => ?_⟩
  rcases step_policy p s op with h | h
  · rw [h] at hchg; simp at hchg
  · rw [h, bumpVersion, Nat.mod_eq_of_lt hv]; omega

/-- A policy asking for anonymous mode and port mapping, the kill switch enabled, then a tick
with the VPN down, which takes the network away. -/
theorem policy_derived_and_versioned_after_flip :
    let s := runOps Platform.constant (newState "" "" 0 0)
      [.patchPolicy { newStateDesired with anonymousMode := true } true 0,
        .patchKillSwitch ⟨some true, none, none, none⟩ 0,
        .tick ⟨0, fun _ => 0, false, 0, 0, fun _ => .unserializable⟩]
    Reachable Platform.constant s ∧ s.policy.desired.anonymousMode = true ∧
      s.policy.desired.upnpNatpmpEnabled = true ∧ s.policy.effective.networkAllowed = false ∧
      s.policy.version = 3 ∧
      (s.policy.effective = effectiveOf s.policy.desired s.policy.effective.networkAllowed ∧
        ((∃ w ∈ s.policy.warnings, w.code = "anon_upnp") ↔
          s.policy.desired.anonymousMode = true ∧ s.policy.desired.upnpNatpmpEnabled = true) ∧
        ∀ op, s.policy.version + 1 < 2 ^ 64 →
          ((step Platform.constant s op).policy.desired ≠ s.policy.desired ∨
            (step Platform.constant s op).policy.effective ≠ s.policy.effective) →
          s.policy.version < (step Platform.constant s op).policy.version) :=
  have hs := reachable_runOps (.init "" "" 0 0) _
  ⟨hs, rfl, rfl, rfl, rfl, policy_derived_and_versioned Platform.constant hs⟩

end OrcTorrent
