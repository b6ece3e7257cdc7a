import OrcTorrent.System

/-! The piece-availability counters of a record against its progress cache. A cached peer
with progress `x` counts for the first `coveredPieces p x n` of the `n` estimated pieces;
`availabilityOf` gives, piece by piece, how many cached peers count for it. Every
operation keeps the counters equal to it (`piece_availability_counts_cached_peers`),
provided the cache stays below `2^32` entries, where the `u32` counters could saturate. -/

namespace OrcTorrent

section Counters

variable (p : Platform)

/-- The number of cached peers that count for piece `k` of `n`. -/
def coverCount (cache : StrMap F32) (n k : Nat) : Nat :=
  cache.entries.countP fun e => decide (k < coveredPieces p e.2 n)

/-- One counter per piece, as the cache accounts for them. -/
def availabilityOf (cache : StrMap F32) (n : Nat) : List Nat :=
  (List.range n).map (coverCount p cache n)

/-- The availability counters are exactly those the progress cache accounts for. -/
def AvailabilityExact (rt : TorrentRuntime) : Prop :=
  rt.pieceAvailability = availabilityOf p rt.peerProgressCache rt.totalPiecesEstimate

theorem length_availabilityOf (cache : StrMap F32) (n : Nat) :
    (availabilityOf p cache n).length = n := by
  simp [availabilityOf]

theorem mapPrefix_getElem? (f : Nat → Nat) (m : Nat) (xs : List Nat) (k : Nat) :
    (mapPrefix f m xs)[k]? = xs[k]?.map fun x => if k < m then f x else x := by
  induction xs generalizing m k with
  | nil => cases m <;> simp [mapPrefix]
  | cons x xs ih =>
    cases m with
    | zero => simp [mapPrefix]
    | succ m => cases k <;> simp [mapPrefix, ih]

theorem mapPrefix_availabilityOf (f : Nat → Nat) (m : Nat) (cache : StrMap F32) (n : Nat) :
    mapPrefix f m (availabilityOf p cache n) = (List.range n).map fun k =>
      if k < m then f (coverCount p cache n k) else coverCount p cache n k := by
  refine List.ext_getElem? fun k => ?_
  rw [mapPrefix_getElem?, availabilityOf, List.getElem?_map, List.getElem?_map]
  rcases Nat.lt_or_ge k n with hk | hk
  · rw [List.getElem?_range hk]; rfl
  · rw [List.getElem?_eq_none (by simpa using hk)]; rfl

theorem coverCount_of_get? {cache : StrMap F32} {id : String} {x : F32}
    (h : cache.get? id = some x) (n k : Nat) :
    coverCount p cache n k =
      coverCount p (cache.erase id) n k + if k < coveredPieces p x n then 1 else 0 := by
  simp only [coverCount, StrMap.countP_of_get? h, decide_eq_true_eq]

theorem coverCount_insert (cache : StrMap F32) (id : String) (x : F32) (n k : Nat) :
    coverCount p (cache.insert id x) n k =
      coverCount p (cache.erase id) n k + if k < coveredPieces p x n then 1 else 0 := by
  rw [coverCount_of_get? p ((StrMap.get?_insert cache id id x).trans (if_pos rfl)), coverCount,
    coverCount, StrMap.erase_insert_entries]

theorem availabilityOf_erase_of_none {cache : StrMap F32} {id : String}
    (h : cache.get? id = none) (n : Nat) :
    availabilityOf p (cache.erase id) n = availabilityOf p cache n := by
  simp [availabilityOf, coverCount, StrMap.erase_entries_of_get?_none h]

/-- Taking a cached peer's count off leaves the counters of the cache without it. -/
theorem mapPrefix_dec_availabilityOf {cache : StrMap F32} {id : String} {x : F32}
    (h : cache.get? id = some x) (n : Nat) :
    mapPrefix (· - 1) (coveredPieces p x n) (availabilityOf p cache n) =
      availabilityOf p (cache.erase id) n := by
  rw [mapPrefix_availabilityOf]
  refine List.map_congr_left fun k _ => ?_
  rw [coverCount_of_get? p h]
  split <;> simp_all

/-- Adding a peer's count to the counters of the cache without it gives the counters of
the cache with it, as long as no counter saturates. -/
theorem mapPrefix_inc_availabilityOf {cache : StrMap F32} {id : String} {x : F32} {n : Nat}
    (hsize : (cache.insert id x).size < 2 ^ 32) :
    mapPrefix satIncU32 (coveredPieces p x n) (availabilityOf p (cache.erase id) n) =
      availabilityOf p (cache.insert id x) n := by
  rw [mapPrefix_availabilityOf]
  refine List.map_congr_left fun k _ => ?_
  have hle : coverCount p (cache.erase id) n k ≤ (cache.erase id).size :=
    List.countP_le_length _
  rw [StrMap.size_insert_eq_size_erase] at hsize
  rw [coverCount_insert]
  split
  · simp only [satIncU32, if_true]; omega
  · simp only [if_false, Nat.add_zero]

end Counters

/-! ## The two cache operations -/

section Operations

variable (p : Platform) {rt : TorrentRuntime}

/-- The invariant does not read the peer samples. -/
theorem availabilityExact_setPeerSamples (samples : StrMap PeerSample) :
    AvailabilityExact p { rt with peerSamples := samples } ↔ AvailabilityExact p rt := Iff.rfl

theorem cacheSize_le_update (rt : TorrentRuntime) (progress : F32) (id : String) :
    rt.peerProgressCache.size ≤
      (updatePieceAvailabilityFromPeers p rt progress id).peerProgressCache.size := by
  unfold updatePieceAvailabilityFromPeers; dsimp only
  split
  · exact Nat.le_refl _
  · rw [StrMap.size_insert]; split <;> omega

theorem availabilityExact_update (hr : AvailabilityExact p rt) (progress : F32) (id : String)
    (hsize : (updatePieceAvailabilityFromPeers p rt progress id).peerProgressCache.size < 2 ^ 32) :
    AvailabilityExact p (updatePieceAvailabilityFromPeers p rt progress id) := by
  unfold updatePieceAvailabilityFromPeers at hsize ⊢; dsimp only at hsize ⊢
  split
  · exact hr
  · next hn =>
    rw [if_neg hn] at hsize
    have hlen : ¬rt.pieceAvailability.length ≠ rt.totalPiecesEstimate := by
      rw [hr, length_availabilityOf]; exact not_not.mpr rfl
    rw [if_neg hlen]
    split
    · next old hold =>
      show mapPrefix satIncU32 _ (mapPrefix _ _ rt.pieceAvailability) = availabilityOf p _ _
      rw [hr, mapPrefix_dec_availabilityOf p hold]; exact mapPrefix_inc_availabilityOf p hsize
    · next hnone =>
      show mapPrefix satIncU32 _ rt.pieceAvailability = availabilityOf p _ _
      rw [hr, ← availabilityOf_erase_of_none p hnone]; exact mapPrefix_inc_availabilityOf p hsize

theorem availabilityExact_remove (hr : AvailabilityExact p rt) (id : String) :
    AvailabilityExact p (removePeerFromAvailability p rt id) := by
  unfold removePeerFromAvailability
  split
  · exact hr
  · next x hx =>
    dsimp only
    rw [if_pos (by rw [hr, length_availabilityOf])]
    show _ = _
    rw [hr]; exact mapPrefix_dec_availabilityOf p hx _

theorem availabilityExact_removeAbsentPeers (hr : AvailabilityExact p rt) (current : List String) :
    AvailabilityExact p (removeAbsentPeers p current rt) :=
  List.foldlRecOn _ _ rt hr fun x hx peerId _ => by
    split
    exacts [hx, availabilityExact_remove p hx peerId]

theorem cacheSize_le_applyPeerProgress (rows : List PeerRow) (rt : TorrentRuntime) :
    rt.peerProgressCache.size ≤ (applyPeerProgress p rows rt).peerProgressCache.size := by
  induction rows generalizing rt with
  | nil => exact Nat.le_refl _
  | cons row rows ih =>
    simp only [applyPeerProgress, List.foldl_cons] at ih ⊢
    refine Nat.le_trans ?_ (ih _)
    split
    exacts [cacheSize_le_update p rt _ _, Nat.le_refl _]

theorem availabilityExact_applyPeerProgress (rows : List PeerRow) (rt : TorrentRuntime)
    (hr : AvailabilityExact p rt)
    (hsize : (applyPeerProgress p rows rt).peerProgressCache.size < 2 ^ 32) :
    AvailabilityExact p (applyPeerProgress p rows rt) := by
  induction rows generalizing rt with
  | nil => exact hr
  | cons row rows ih =>
    have hle := cacheSize_le_applyPeerProgress p rows
    simp only [applyPeerProgress, List.foldl_cons] at ih hle hsize ⊢
    refine ih _ ?_ hsize
    rcases hprog : row.progress with _ | x
    · exact hr
    · simp only [hprog] at hsize
      exact availabilityExact_update p hr _ _ (Nat.lt_of_le_of_lt (hle _) hsize)

theorem availabilityExact_peersRuntime (env : PeersEnv) (v : JsonValue)
    (hr : AvailabilityExact p rt)
    (hsize : (applyPeerProgress p (scanPeers p env (peerEntriesFromSnapshot v) rt.peerSamples).2.2
      { rt with peerSamples := (scanPeers p env (peerEntriesFromSnapshot v) rt.peerSamples).1 }
      ).peerProgressCache.size < 2 ^ 32) :
    AvailabilityExact p (peersRuntime p env v rt).1 :=
  (availabilityExact_setPeerSamples p _).mpr <| availabilityExact_removeAbsentPeers p
    (availabilityExact_applyPeerProgress p _ _ ((availabilityExact_setPeerSamples p _).mpr hr) hsize) _

end Operations

/-! ## Every reachable state -/

/-- The steps whose `peers_for` keeps the progress cache below `2^32` entries. -/
def PeersCacheBounded (p : Platform) (s : OrcState) : Op → Prop
  | .peersFor id env => peersForPeakCache p s id env < 2 ^ 32
  | _ => True

theorem availabilityOf_empty (p : Platform) (n : Nat) :
    availabilityOf p StrMap.empty n = List.replicate n 0 := by
  unfold availabilityOf
  rw [show coverCount p StrMap.empty n = fun _ => 0 from funext fun _ => rfl]
  simp

theorem availabilityExact_addedRecord (p : Platform) (req : AddTorrentRequest)
    (d : ApiTorrentDetails) (rqbitId : Nat) (id : String) (addedAtMs now : Nat) :
    AvailabilityExact p (addedRecord p req d rqbitId id addedAtMs now).runtime :=
  (availabilityOf_empty p _).symm

theorem availabilityExact_step (p : Platform) {s : OrcState}
    (hs : s.torrents.Forall fun r => AvailabilityExact p r.runtime) (op : Op)
    (hok : PeersCacheBounded p s op) :
    (step p s op).torrents.Forall fun r => AvailabilityExact p r.runtime := by
  cases hreg : op.isRegistry
  · cases op with
    | patchKillSwitch req nowMs => exact hs
    | patchPolicy desired vpn nowMs => exact hs
    | tick env =>
      refine forall_tick env hs (fun id r hr => ?_) (fun r hr => ?_) fun id r hr => ?_
      · obtain ⟨_, _, _, h⟩ := heartbeatRuntime_frame env.now (env.heartbeatNow id) r.runtime
        simp only [h]; exact hr
      · unfold killSwitchStop; split <;> exact hr
      · unfold statsRecord; split <;> exact hr
    | _ => cases hreg
  · refine forall_step_registry p hs hreg (fun r r' hu hr => ?_) (fun id env r v hop hr hv hx => ?_)
      (availabilityExact_addedRecord p)
    · cases hu with
      | setRunning _ running r => cases running <;> exact hr
      | _ => exact hr
    · subst hop
      simp only [PeersCacheBounded, peersForPeakCache, hr, hv] at hok
      exact availabilityExact_peersRuntime p env v hx hok

/-- **Piece availability.** In every state reached by steps whose `peers_for` keeps the
progress cache below `2^32` entries, every record has one counter per estimated piece,
counter `k` is the number of cached peers whose progress covers piece `k`, and so every
counter that a cached peer's removal decrements is at least one. -/
theorem piece_availability_counts_cached_peers (p : Platform) {s : OrcState}
    (hs : ReachableUnder p (PeersCacheBounded p) s) (id : String) (r : TorrentRecord)
    (hr : s.torrents.get? id = some r) :
    r.runtime.pieceAvailability.length = r.runtime.totalPiecesEstimate ∧
      (∀ k < r.runtime.totalPiecesEstimate, r.runtime.pieceAvailability[k]? =
        some (r.runtime.peerProgressCache.entries.countP fun e =>
          decide (k < coveredPieces p e.2 r.runtime.totalPiecesEstimate))) ∧
      ∀ e ∈ r.runtime.peerProgressCache.entries,
        ∀ k < coveredPieces p e.2 r.runtime.totalPiecesEstimate,
          ∃ c, r.runtime.pieceAvailability[k]? = some c ∧ 1 ≤ c := by
  have hinv := hs.inv (fun s => s.torrents.Forall fun r => AvailabilityExact p r.runtime)
    (fun _ _ _ _ => StrMap.forall_empty _) fun s op hok h => availabilityExact_step p h op hok
  have hex : AvailabilityExact p r.runtime := hinv.get? hr
  have hget : ∀ k < r.runtime.totalPiecesEstimate, r.runtime.pieceAvailability[k]? =
      some (coverCount p r.runtime.peerProgressCache r.runtime.totalPiecesEstimate k) := by
    intro k hk; rw [hex, availabilityOf, List.getElem?_map, List.getElem?_range hk]; rfl
  refine ⟨by rw [hex, length_availabilityOf], hget, fun e he k hk => ⟨_, hget k ?_, ?_⟩⟩
  · exact Nat.lt_of_lt_of_le hk (Nat.min_le_right _ _)
  · exact List.countP_pos_iff.mpr ⟨e, he, by simpa using hk⟩

/-- A platform on which every peer's progress reads as `1.0` (the `f32` bits `0x3F800000`),
and `(1.0 * n).ceil()` is `n`: faithful on snapshots whose peers all report progress 1. -/
def Platform.completePeers : Platform :=
  { Platform.ascii with f64ToF32 := fun _ => 0x3F800000, f32CeilMul := fun _ n => n }

/-- The sample torrent, of two pieces, after a `peers_for` that saw one peer with all of
them: the peer is cached and each piece counts it once. -/
theorem piece_availability_counts_cached_peers_after_peers_for :
    let p := Platform.completePeers
    let s := runOps p (newState "" "" 0 0)
      [sampleAdd sampleHash 0 "t", .peersFor "t" (samplePeers "10.0.0.1:6881" 1000 1)]
    ReachableUnder p (PeersCacheBounded p) s ∧ ∃ r, s.torrents.get? "t" = some r ∧
      r.runtime.peerProgressCache.keys = ["10.0.0.1:6881"] ∧ r.runtime.pieceAvailability = [1, 1] ∧
      (r.runtime.pieceAvailability.length = r.runtime.totalPiecesEstimate ∧
        (∀ k < r.runtime.totalPiecesEstimate, r.runtime.pieceAvailability[k]? =
          some (r.runtime.peerProgressCache.entries.countP fun e =>
            decide (k < coveredPieces p e.2 r.runtime.totalPiecesEstimate))) ∧
        ∀ e ∈ r.runtime.peerProgressCache.entries,
          ∀ k < coveredPieces p e.2 r.runtime.totalPiecesEstimate,
            ∃ c, r.runtime.pieceAvailability[k]? = some c ∧ 1 ≤ c) :=
  have hs : ReachableUnder Platform.completePeers (PeersCacheBounded Platform.completePeers) _ :=
    ((ReachableUnder.init "" "" 0 0).step (sampleAdd sampleHash 0 "t") trivial).step
      (.peersFor "t" (samplePeers "10.0.0.1:6881" 1000 1))
      (show peersForPeakCache _ _ _ _ < 2 ^ 32 by decide)
  ⟨hs, _, rfl, by decide, by decide,
    piece_availability_counts_cached_peers Platform.completePeers hs "t" _ rfl⟩

end OrcTorrent
