import OrcTorrent.System

/-! The peer-sample table of a record. `cap_peer_samples` sorts the entries by
`last_seen_ms` and erases the keys of the first `size - 1000`, so it leaves at most
`MAX_PEER_SAMPLES_PER_TORRENT` entries and evicts none more recently seen than one it keeps.
A `peers_for` that gets a snapshot keeps only the samples of addresses in it, and every
reachable state keeps every table within the cap (`peerSamples_capped_and_seen`). -/

namespace OrcTorrent

/-! ## Erasing a list of keys -/

theorem StrMap.entries_foldl_erase {α : Type} (ks : List String) (m : StrMap α) :
    (ks.foldl (fun m k => m.erase k) m).entries = m.entries.filter fun e => decide (e.1 ∉ ks) := by
  induction ks generalizing m with
  | nil => simp
  | cons k ks ih =>
    rw [List.foldl_cons, ih]
    simp only [StrMap.erase, StrMap.retain, List.filter_filter, List.mem_cons, not_or]
    exact List.filter_congr fun e _ => by simp [Bool.and_comm]

/-! ## `cap_peer_samples` -/

section Cap

variable (m : StrMap PeerSample)

/-- The entries in the order `cap_peer_samples` sorts them. -/
def sortedBySeen : List (String × PeerSample) :=
  m.entries.mergeSort fun a b => a.2.lastSeenMs ≤ b.2.lastSeenMs

/-- The keys `cap_peer_samples` erases from a table over the cap. -/
def evictedKeys : List String :=
  ((sortedBySeen m).take (m.size - MAX_PEER_SAMPLES_PER_TORRENT)).map (·.1)

theorem capPeerSamples_entries :
    (capPeerSamples m).entries = if m.size > MAX_PEER_SAMPLES_PER_TORRENT then
      m.entries.filter (fun e => decide (e.1 ∉ evictedKeys m)) else m.entries := by
  unfold capPeerSamples
  split
  · exact StrMap.entries_foldl_erase _ m
  · rfl

theorem capPeerSamples_sublist : List.Sublist (capPeerSamples m).entries m.entries := by
  rw [capPeerSamples_entries]
  split
  · exact List.filter_sublist _
  · exact List.Sublist.refl _

theorem sortedBySeen_pairwise :
    (sortedBySeen m).Pairwise fun a b => a.2.lastSeenMs ≤ b.2.lastSeenMs := by
  have h := @List.sorted_mergeSort _ (fun a b : String × PeerSample =>
    decide (a.2.lastSeenMs ≤ b.2.lastSeenMs))
    (fun a b c hab hbc => by simp only [decide_eq_true_eq] at *; omega)
    (fun a b => by simp only [Bool.or_eq_true, decide_eq_true_eq]; omega) m.entries
  exact h.imp fun hab => of_decide_eq_true hab

theorem capPeerSamples_size_le : (capPeerSamples m).size ≤ MAX_PEER_SAMPLES_PER_TORRENT := by
  unfold StrMap.size
  rw [capPeerSamples_entries]
  split
  · next hover =>
    have hperm : (sortedBySeen m).Perm m.entries := List.mergeSort_perm _ _
    have hfront : ((sortedBySeen m).take (m.size - MAX_PEER_SAMPLES_PER_TORRENT)).filter
        (fun e => decide (e.1 ∉ evictedKeys m)) = [] :=
      List.filter_eq_nil_iff.mpr fun e he => by
        rw [decide_eq_true_eq, not_not]
        exact List.mem_map.mpr ⟨e, he, rfl⟩
    calc (m.entries.filter fun e => decide (e.1 ∉ evictedKeys m)).length
        = ((sortedBySeen m).filter fun e => decide (e.1 ∉ evictedKeys m)).length :=
          ((hperm.filter _).length_eq).symm
      _ = (((sortedBySeen m).drop (m.size - MAX_PEER_SAMPLES_PER_TORRENT)).filter
          fun e => decide (e.1 ∉ evictedKeys m)).length := by
          conv_lhs => rw [← List.take_append_drop (m.size - MAX_PEER_SAMPLES_PER_TORRENT) (sortedBySeen m)]
          rw [List.filter_append, hfront, List.nil_append]
      _ ≤ ((sortedBySeen m).drop (m.size - MAX_PEER_SAMPLES_PER_TORRENT)).length :=
          List.length_filter_le _ _
      _ = MAX_PEER_SAMPLES_PER_TORRENT := by
          have hsize : m.size = m.entries.length := rfl
          rw [List.length_drop, hperm.length_eq]
          omega
  · next hle => exact Nat.not_lt.mp hle

/-- No entry the cap evicts was seen later than an entry it keeps. -/
theorem capPeerSamples_evicts_oldest {e : String × PeerSample} (he : e ∈ m.entries)
    (hev : e.1 ∉ (capPeerSamples m).keys) {e' : String × PeerSample}
    (he' : e' ∈ (capPeerSamples m).entries) : e.2.lastSeenMs ≤ e'.2.lastSeenMs := by
  have hcap := capPeerSamples_entries m
  have hkeys : (capPeerSamples m).keys = (capPeerSamples m).entries.map Prod.fst := rfl
  split at hcap
  · rw [hcap] at he'
    obtain ⟨he'm, hkeep⟩ := List.mem_filter.mp he'
    have hin : e.1 ∈ evictedKeys m := by
      by_contra hout
      rw [hkeys, hcap] at hev
      exact hev (List.mem_map_of_mem Prod.fst (List.mem_filter.mpr ⟨he, by simpa using hout⟩))
    obtain ⟨e₀, he₀, hkey⟩ := List.mem_map.mp hin
    have heq : e₀ = e :=
      List.inj_on_of_nodup_map m.nodup (List.mem_mergeSort.mp (List.mem_of_mem_take he₀)) he hkey
    have hkept : e' ∈ (sortedBySeen m).drop (m.size - MAX_PEER_SAMPLES_PER_TORRENT) := by
      have hmem : e' ∈ sortedBySeen m := List.mem_mergeSort.mpr he'm
      rw [← List.take_append_drop (m.size - MAX_PEER_SAMPLES_PER_TORRENT) (sortedBySeen m)] at hmem
      refine (List.mem_append.mp hmem).resolve_left fun htake => ?_
      exact of_decide_eq_true hkeep (List.mem_map.mpr ⟨e', htake, rfl⟩)
    have hpair := sortedBySeen_pairwise m
    rw [← List.take_append_drop (m.size - MAX_PEER_SAMPLES_PER_TORRENT) (sortedBySeen m)] at hpair
    exact heq ▸ (List.pairwise_append.mp hpair).2.2 e₀ he₀ e' hkept
  · rw [hkeys, hcap] at hev
    exact absurd (List.mem_map_of_mem Prod.fst he) hev

end Cap

/-! ## `peers_for` -/

theorem scanPeers_seen (p : Platform) (env : PeersEnv) (entries : List (String × JsonValue))
    (samples : StrMap PeerSample) :
    (scanPeers p env entries samples).2.1 = entries.map (·.1) := by
  suffices h : ∀ acc : StrMap PeerSample × List String × List PeerRow,
      (entries.foldl (fun (acc : StrMap PeerSample × List String × List PeerRow) e =>
        let (row, sample) := peerRow p env acc.1 e.1 e.2
        (acc.1.insert e.1 sample, acc.2.1 ++ [e.1], acc.2.2 ++ [row])) acc).2.1 =
        acc.2.1 ++ entries.map (·.1) from h (samples, [], [])
  induction entries with
  | nil => simp
  | cons e entries ih => intro acc; rw [List.foldl_cons, ih]; simp

/-- The table a successful `peers_for` leaves: the cap of the samples of the addresses in
the snapshot. -/
theorem peersRuntime_peerSamples (p : Platform) (env : PeersEnv) (v : JsonValue)
    (rt : TorrentRuntime) :
    let scan := scanPeers p env (peerEntriesFromSnapshot v) rt.peerSamples
    (peersRuntime p env v rt).1.peerSamples = capPeerSamples (scan.1.retain fun k _ => scan.2.1.contains k) := by
  intro scan
  obtain ⟨a₁, c₁, h₁⟩ := availFrame_applyPeerProgress p scan.2.2 { rt with peerSamples := scan.1 }
  obtain ⟨a₂, c₂, h₂⟩ := availFrame_removeAbsentPeers p (scan.2.2.map (·.id))
    (applyPeerProgress p scan.2.2 { rt with peerSamples := scan.1 })
  simp only [peersRuntime]
  rw [h₂, h₁]

theorem peersRuntime_keys (p : Platform) (env : PeersEnv) (v : JsonValue) (rt : TorrentRuntime) :
    ∀ k ∈ (peersRuntime p env v rt).1.peerSamples.keys, k ∈ (peerEntriesFromSnapshot v).map (·.1) := by
  intro k hk
  rw [peersRuntime_peerSamples] at hk
  obtain ⟨e, he, rfl⟩ := List.mem_map.mp hk
  have hseen := (List.mem_filter.mp ((capPeerSamples_sublist _).subset he)).2
  rw [scanPeers_seen] at hseen
  simpa using hseen

/-! ## Every reachable state -/

/-- Every record's peer-sample table is within the cap. -/
def PeerSamplesBounded (s : OrcState) : Prop :=
  s.torrents.Forall fun r => r.runtime.peerSamples.size ≤ MAX_PEER_SAMPLES_PER_TORRENT

theorem recordUpdate_peerSamples {op : Op} {r r' : TorrentRecord} (h : RecordUpdate op r r') :
    r'.runtime.peerSamples = r.runtime.peerSamples := by
  cases h with
  | setRunning _ running r => cases running <;> rfl
  | _ => rfl

theorem peerSamplesBounded_tick (env : TickEnv) {s : OrcState} (hs : PeerSamplesBounded s) :
    PeerSamplesBounded (tick env s) := by
  refine forall_tick env hs (fun id r hr => ?_) (fun r hr => ?_) fun id r hr => ?_
  · obtain ⟨_, _, _, h⟩ := heartbeatRuntime_frame env.now (env.heartbeatNow id) r.runtime
    show (heartbeatRuntime env.now (env.heartbeatNow id) r.runtime).peerSamples.size ≤ _
    rw [h]; exact hr
  · unfold killSwitchStop; split <;> exact hr
  · unfold statsRecord; split <;> exact hr

theorem peerSamplesBounded_step (p : Platform) {s : OrcState} (hs : PeerSamplesBounded s) (op : Op) :
    PeerSamplesBounded (step p s op) := by
  cases hreg : op.isRegistry
  · cases op with
    | patchKillSwitch req nowMs => exact hs
    | patchPolicy desired vpn nowMs => exact hs
    | tick env => exact peerSamplesBounded_tick env hs
    | _ => cases hreg
  · refine forall_step_registry p hs hreg (fun _ _ hu hr => ?_) (fun _ env r v _ _ _ _ => ?_)
      fun _ _ _ _ _ _ => Nat.zero_le _
    · rwa [recordUpdate_peerSamples hu]
    · show (peersRuntime p env v r.runtime).1.peerSamples.size ≤ _
      rw [peersRuntime_peerSamples]
      exact capPeerSamples_size_le _

theorem Reachable.peerSamplesBounded {p : Platform} {s : OrcState} (hs : Reachable p s) :
    PeerSamplesBounded s :=
  hs.inv PeerSamplesBounded (fun _ _ _ _ => StrMap.forall_empty _)
    fun _ op _ h => peerSamplesBounded_step p h op

/-- From every reachable state, a `peers_for` call leaves every record with at most 1000
peer samples; when the engine answered with a snapshot, the record's samples are all of
addresses in that snapshot; and the cap never evicts an entry seen later than one it
keeps. -/
theorem peerSamples_capped_and_seen {p : Platform} {s : OrcState} (hs : Reachable p s)
    (id : String) (env : PeersEnv) :
    (∀ id' r, (step p s (.peersFor id env)).torrents.get? id' = some r →
      r.runtime.peerSamples.size ≤ MAX_PEER_SAMPLES_PER_TORRENT) ∧
    (∀ v s' rows r, env.reply = .ok v → peersFor p s id env = .ok (s', rows) →
      s'.torrents.get? id = some r →
      ∀ k ∈ r.runtime.peerSamples.keys, k ∈ (peerEntriesFromSnapshot v).map (·.1)) ∧
    (∀ m : StrMap PeerSample, ∀ e ∈ m.entries, e.1 ∉ (capPeerSamples m).keys →
      ∀ e' ∈ (capPeerSamples m).entries, e.2.lastSeenMs ≤ e'.2.lastSeenMs) := by
  refine ⟨fun id' r hr => (hs.step _).peerSamplesBounded.get? hr,
    fun v s' rows r hv hok hr => ?_, fun m e he hev e' he' => capPeerSamples_evicts_oldest m he hev he'⟩
  unfold peersFor at hok
  split at hok
  · cases hok
  · next r₀ hr₀ =>
    rw [hv] at hok
    cases hok
    rw [StrMap.get?_insert, if_pos rfl] at hr
    cases hr
    exact peersRuntime_keys p env v r₀.runtime

/-- The sample torrent after a `peers_for` that saw peer `A`, then a `peers_for` whose
snapshot has peer `B` only: the sample of `A` is dropped and the one of `B` kept. -/
theorem peerSamples_capped_and_seen_after_two_snapshots :
    let s := runOps Platform.ascii (newState "" "" 0 0)
      [sampleAdd sampleHash 0 "t", .peersFor "t" (samplePeers "10.0.0.1:6881" 1000 1)]
    let env := samplePeers "10.0.0.2:6881" 2000 2
    Reachable Platform.ascii s ∧
      (s.torrents.get? "t").map (·.runtime.peerSamples.keys) = some ["10.0.0.1:6881"] ∧
      ((step Platform.ascii s (.peersFor "t" env)).torrents.get? "t").map
        (·.runtime.peerSamples.keys) = some ["10.0.0.2:6881"] ∧
      (∀ id' r, (step Platform.ascii s (.peersFor "t" env)).torrents.get? id' = some r →
        r.runtime.peerSamples.size ≤ MAX_PEER_SAMPLES_PER_TORRENT) ∧
      (∀ v s' rows r, env.reply = .ok v → peersFor Platform.ascii s "t" env = .ok (s', rows) →
        s'.torrents.get? "t" = some r →
        ∀ k ∈ r.runtime.peerSamples.keys, k ∈ (peerEntriesFromSnapshot v).map (·.1)) ∧
      (∀ m : StrMap PeerSample, ∀ e ∈ m.entries, e.1 ∉ (capPeerSamples m).keys →
        ∀ e' ∈ (capPeerSamples m).entries, e.2.lastSeenMs ≤ e'.2.lastSeenMs) :=
  have hs := reachable_runOps (.init "" "" 0 0) _
  ⟨hs, by decide, by decide, peerSamples_capped_and_seen hs "t" _⟩

end OrcTorrent
