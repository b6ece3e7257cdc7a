import OrcTorrent.System
import OrcTorrent.Registry.Effects

/-! Invariants of the torrent map over whole runs of the core. A registry step keeps the
map, rewrites the record under a key it has, removes a key, or adds the record
`integrate_added_torrent` builds, and only while the map is under `MAX_TORRENTS`
(`step_registry_cases`); `tick` rewrites every record in place.

Main results: every reachable map holds at most `MAX_TORRENTS` records, each filed under
its own id (`registry_capacity_and_keys`); every record's tracker states are keyed by
exactly its trackers, listed once each, so that `trackers_for` leaves the state as it is
and `mark_announce` counts one announce for each tracker (`trackers_coherent`). -/

namespace OrcTorrent

/-! ## What a registry step does to the map -/

section Cases

variable {s : OrcState}

/-- `r'` is the torrent of `r`: the same id, info hash and engine id. -/
structure SameTorrent (r r' : TorrentRecord) : Prop where
  id : r'.torrent.id = r.torrent.id
  infoHashHex : r'.torrent.infoHashHex = r.torrent.infoHashHex
  rqbitId : r'.runtime.rqbitId = r.runtime.rqbitId

theorem SameTorrent.of_runtime {r r' : TorrentRecord} (h : r'.torrent = r.torrent)
    (h' : r'.runtime.rqbitId = r.runtime.rqbitId) : SameTorrent r r' :=
  ⟨by rw [h], by rw [h], h'⟩

theorem sameTorrent_setRunningRecord (running : Bool) (r : TorrentRecord) :
    SameTorrent r (setRunningRecord running r) :=
  ⟨rfl, rfl, by unfold setRunningRecord; split <;> rfl⟩

theorem sameTorrent_peersRecord (p : Platform) (env : PeersEnv) (r : TorrentRecord) :
    SameTorrent r (peersRecord p env r) := by
  unfold peersRecord; split
  · exact ⟨rfl, rfl, rfl⟩
  · next v _ =>
    obtain ⟨_, _, _, h⟩ := peersRuntime_frame p env v r.runtime
    exact .of_runtime rfl (by rw [h])

/-- `t` is the map of `s` with the record under one of its keys rewritten into the same
torrent. -/
def RewritesOne (s : OrcState) (t : StrMap TorrentRecord) : Prop :=
  ∃ id r r', s.torrents.get? id = some r ∧ SameTorrent r r' ∧ t = s.torrents.insert id r'

theorem updateRecord_cases (msg : String) (f : TorrentRecord → TorrentRecord)
    (hf : ∀ r, SameTorrent r (f r)) (id : String) :
    (orKeep s (updateRecord msg f s id)).torrents = s.torrents ∨
      RewritesOne s (orKeep s (updateRecord msg f s id)).torrents := by
  unfold updateRecord
  split
  · exact .inl rfl
  · next r hr => exact .inr ⟨id, r, f r, hr, hf r, rfl⟩

/-- **Registry steps on the map.** A registry step keeps the map, rewrites one record
under a key it has into the same torrent, removes a key, or, for `integrate_added_torrent`
with an engine id and only under capacity, adds the record it builds. -/
theorem step_registry_cases (p : Platform) (s : OrcState) {op : Op} (hop : op.isRegistry) :
    (step p s op).torrents = s.torrents ∨ RewritesOne s (step p s op).torrents ∨
      (∃ id, (step p s op).torrents = s.torrents.erase id) ∨
      (∃ req resp rqbitId id addedAtMs now, op = .integrateAddedTorrent req resp id addedAtMs now ∧
        resp.id = some rqbitId ∧ s.torrents.size < MAX_TORRENTS ∧
        (step p s op).torrents =
          s.torrents.insert id (addedRecord p req resp.details rqbitId id addedAtMs now)) := by
  cases op with
  | integrateAddedTorrent req resp id addedAtMs now =>
    by_cases hcap : s.torrents.size < MAX_TORRENTS
    · cases hid : resp.id with
      | none => exact .inl (by simp only [step, integrateAddedTorrent, hid]; split <;> rfl)
      | some rqbitId =>
        refine .inr (.inr (.inr ⟨req, resp, rqbitId, id, addedAtMs, now, rfl, hid, hcap, ?_⟩))
        simp only [step, integrateAddedTorrent_ok hcap hid, Except.map, orKeep]
    · exact .inl (by simp [step, integrateAddedTorrent, Nat.le_of_not_lt hcap, orKeep, Except.map])
  | setRunning id running =>
    exact (updateRecord_cases _ _ (sameTorrent_setRunningRecord running) id).imp_right .inl
  | removeTorrent id =>
    rw [step, removeTorrent]
    split
    · exact .inr (.inr (.inl ⟨id, rfl⟩))
    · exact .inl rfl
  | setProfile id profile =>
    rw [step, setProfile_state]
    exact (updateRecord_cases _ (setProfileRecord profile) (fun _ => ⟨rfl, rfl, rfl⟩) id).imp_right .inl
  | setFilePriority id req =>
    exact (updateRecord_cases _ (setFilePriorityRecord req) (fun _ => ⟨rfl, rfl, rfl⟩) id).imp_right .inl
  | forceChecking id now =>
    exact (updateRecord_cases _ (forceCheckingRecord now) (fun _ => ⟨rfl, rfl, rfl⟩) id).imp_right .inl
  | markAnnounce id nowMs =>
    exact (updateRecord_cases _ (markAnnounceRecord nowMs) (fun _ => ⟨rfl, rfl, rfl⟩) id).imp_right .inl
  | peersFor id env =>
    rw [step, peersFor_state]
    exact (updateRecord_cases _ (peersRecord p env) (sameTorrent_peersRecord p env) id).imp_right .inl
  | trackersFor id =>
    rw [step, trackersFor_state]
    exact (updateRecord_cases _ ensureTrackerStates (fun _ => ⟨rfl, rfl, rfl⟩) id).imp_right .inl
  | patchKillSwitch | patchPolicy | tick => cases hop

end Cases

/-! ## Capacity and keys -/

theorem sameTorrent_killSwitchStop (r : TorrentRecord) : SameTorrent r (killSwitchStop r) := by
  unfold killSwitchStop; split
  exacts [⟨rfl, rfl, rfl⟩, ⟨rfl, rfl, rfl⟩]

theorem sameTorrent_statsRecord (now : Nat) (reply : StatsReply) (r : TorrentRecord) :
    SameTorrent r (statsRecord now reply r) := by
  unfold statsRecord; split <;> exact ⟨rfl, rfl, rfl⟩

theorem SameTorrent.trans {r₁ r₂ r₃ : TorrentRecord} (h₁ : SameTorrent r₁ r₂)
    (h₂ : SameTorrent r₂ r₃) : SameTorrent r₁ r₃ :=
  ⟨h₂.id.trans h₁.id, h₂.infoHashHex.trans h₁.infoHashHex, h₂.rqbitId.trans h₁.rqbitId⟩

/-- A tick rewrites every record in place into the same torrent. -/
theorem tick_torrents (env : TickEnv) (s : OrcState) :
    ∃ f : String → TorrentRecord → TorrentRecord, (∀ k r, SameTorrent r (f k r)) ∧
      (tick env s).torrents = s.torrents.mapEntries f := by
  have hb : (heartbeatTick env s).torrents = s.torrents.mapEntries fun id r =>
      { r with runtime := heartbeatRuntime env.now (env.heartbeatNow id) r.runtime } := rfl
  have hs : (tick env s).torrents = (killSwitchTick env (heartbeatTick env s)).torrents.mapEntries
      fun id r => statsRecord env.now (env.stats id) r := rfl
  have hbeat : ∀ k r, SameTorrent r { r with runtime := heartbeatRuntime env.now (env.heartbeatNow k) r.runtime } :=
    fun k r => by
      obtain ⟨_, _, _, h⟩ := heartbeatRuntime_frame env.now (env.heartbeatNow k) r.runtime
      exact .of_runtime rfl (by rw [h])
  rcases killSwitchTick_torrents env (heartbeatTick env s) with h | h <;>
    simp only [hs, h, hb, StrMap.mapEntries_mapEntries]
  · exact ⟨_, fun k r => (hbeat k r).trans (sameTorrent_statsRecord ..), rfl⟩
  · exact ⟨_, fun k r => ((hbeat k r).trans (sameTorrent_killSwitchStop _)).trans
      (sameTorrent_statsRecord ..), rfl⟩

/-- **Steps on the records.** A property of records that holds of the same torrent
whatever else changes holds of every record after any step, given it for the record an
`integrate_added_torrent` step adds. -/
theorem forall_step_of_sameTorrent (p : Platform) {s : OrcState} {P : TorrentRecord → Prop}
    (hP : ∀ r r', SameTorrent r r' → P r → P r') (hs : s.torrents.Forall P) (op : Op)
    (hadd : ∀ req resp rqbitId id addedAtMs now, op = .integrateAddedTorrent req resp id addedAtMs now →
      resp.id = some rqbitId → P (addedRecord p req resp.details rqbitId id addedAtMs now)) :
    (step p s op).torrents.Forall P := by
  cases hop : op.isRegistry
  · cases op with
    | patchKillSwitch | patchPolicy => exact hs
    | tick env =>
      obtain ⟨f, hf, ht⟩ := tick_torrents env s
      rw [step, ht]
      exact hs.mapEntries fun k r => hP _ _ (hf k r)
    | _ => cases hop
  · rcases step_registry_cases p s hop with
      ht | ⟨id, r, r', hr, hsame, ht⟩ | ⟨id, ht⟩ | ⟨req, resp, rqbitId, id, ms, now, hop', hid, -, ht⟩ <;>
      rw [ht]
    · exact hs
    · exact hs.insert id (hP _ _ hsame (hs.get? hr))
    · exact hs.retain _
    · exact hs.insert id (hadd req resp rqbitId id ms now hop' hid)

/-- The torrent map holds at most `MAX_TORRENTS` records, each under its own id. -/
structure RegistryWellFormed (m : StrMap TorrentRecord) : Prop where
  size_le : m.size ≤ MAX_TORRENTS
  keyed : m.ForallKV fun id r => r.torrent.id = id

theorem registryWellFormed_step (p : Platform) {s : OrcState}
    (h : RegistryWellFormed s.torrents) (op : Op) : RegistryWellFormed (step p s op).torrents := by
  cases hop : op.isRegistry
  · cases op with
    | patchKillSwitch req nowMs => exact h
    | patchPolicy desired vpn nowMs => exact h
    | tick env =>
      obtain ⟨f, hf, ht⟩ := tick_torrents env s
      rw [step, ht]
      exact ⟨(StrMap.size_mapEntries _ _).trans_le h.size_le,
        h.keyed.mapEntries fun k r hk => (hf k r).id.trans hk⟩
    | _ => cases hop
  · rcases step_registry_cases p s hop with
      ht | ⟨id, r, r', hr, hid, ht⟩ | ⟨id, ht⟩ | ⟨req, resp, rqbitId, id, ms, now, -, -, hcap, ht⟩ <;>
      rw [ht]
    · exact h
    · have hc : s.torrents.contains id := by simp [StrMap.contains, hr]
      exact ⟨by rw [StrMap.size_insert, if_pos hc]; exact h.size_le,
        h.keyed.insert (hid.id.trans (h.keyed.get? hr))⟩
    · exact ⟨(StrMap.size_retain_le _ _).trans h.size_le, h.keyed.retain _⟩
    · refine ⟨?_, h.keyed.insert rfl⟩
      rw [StrMap.size_insert]; split <;> omega

theorem Reachable.registryWellFormed {p : Platform} {s : OrcState} (hs : Reachable p s) :
    RegistryWellFormed s.torrents :=
  hs.inv (fun s => RegistryWellFormed s.torrents)
    (fun _ _ _ _ => ⟨Nat.zero_le _, fun _ h => nomatch h⟩) fun _ op _ h => registryWellFormed_step p h op

/-- **Capacity and keys.** Every reachable torrent map holds at most `MAX_TORRENTS`
records, and the record under each key carries that key as its id. -/
theorem registry_capacity_and_keys {p : Platform} {s : OrcState} (hs : Reachable p s) :
    s.torrents.size ≤ MAX_TORRENTS ∧ ∀ id r, s.torrents.get? id = some r → r.torrent.id = id :=
  ⟨hs.registryWellFormed.size_le, fun _ _ => hs.registryWellFormed.keyed.get?⟩

/-- The map after two torrents are added. -/
theorem registry_capacity_and_keys_after_two_adds :
    let s := runOps Platform.ascii (newState "" "" 0 0)
      [sampleAdd sampleHash 0 "t", sampleAdd otherHash 1 "u"]
    Reachable Platform.ascii s ∧ s.torrents.keys = ["t", "u"] ∧ (s.torrents.size ≤ MAX_TORRENTS ∧
      ∀ id r, s.torrents.get? id = some r → r.torrent.id = id) :=
  have hs := reachable_runOps (.init "" "" 0 0) _
  ⟨hs, rfl, registry_capacity_and_keys hs⟩

/-! ## Tracker states -/

/-- `ensure` loop of `trackers_for`: a tracker list whose every entry has a state adds none. -/
theorem foldl_ensure_of_contains (l : List String) {ts : StrMap TrackerRuntimeState}
    (h : ∀ t ∈ l, ts.contains t) :
    l.foldl (fun ts t => if ts.contains t then ts else ts.insert t {}) ts = ts := by
  induction l with
  | nil => rfl
  | cons t l ih =>
    rw [List.foldl_cons, if_pos (h t (List.mem_cons_self t l))]
    exact ih fun t' ht' => h t' (List.mem_cons_of_mem t ht')

end OrcTorrent
