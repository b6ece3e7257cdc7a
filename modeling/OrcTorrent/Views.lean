import OrcTorrent.Registry.Invariants
import OrcTorrent.RowSnapshot

/-! The read-only views of the torrent map in `orc-core/src/lib.rs`: `list_torrents`,
`get_torrent`, `get_status` with `torrent_status_from_record`, and `get_content`. The
`f64` progress of a status is the `RowF64` expression of `get_row_snapshot`, which
computes it the same way.

Main result: in every reachable state `list_torrents` returns torrents with distinct ids,
a torrent is listed exactly when `get_torrent` returns it
under its id, and `get_torrent` and `get_status` answer for the id they are asked
(`views_agree`). -/

namespace OrcTorrent

/-- `TorrentStatus`, with `progress` an `f64` value of type `F`. -/
structure TorrentStatus (F : Type) where
  id : String
  state : TorrentState
  progress : F
  downRateBps : Nat
  upRateBps : Nat
  etaSec : Nat
  totalBytes : Nat
  downloadedBytes : Nat
  peersSeen : Nat
  error : Option String

section Views

variable {F : Type} (ops : RowF64 F)

def torrentStatusFromRecord (r : TorrentRecord) : TorrentStatus F :=
  let remaining := r.runtime.totalBytes - r.runtime.downloadedBytes
  let etaSec := if r.runtime.downRateBps > 0 then min (remaining / r.runtime.downRateBps) (2 ^ 64 - 1)
    else 0
  { id := r.torrent.id
    state := r.runtime.state
    progress := rowProgress ops r.runtime
    downRateBps := r.runtime.downRateBps
    upRateBps := r.runtime.upRateBps
    etaSec := etaSec
    totalBytes := r.runtime.totalBytes
    downloadedBytes := r.runtime.downloadedBytes
    peersSeen := r.runtime.peersSeen
    error := r.runtime.lastError }

def listTorrents (s : OrcState) : List Torrent := s.torrents.entries.map (·.2.torrent)

def getTorrent (s : OrcState) (id : String) : Option Torrent := (s.torrents.get? id).map (·.torrent)

def getStatus (s : OrcState) (id : String) : Option (TorrentStatus F) :=
  (s.torrents.get? id).map (torrentStatusFromRecord ops)

/-- `get_content`: the record's files. -/
def getContent (s : OrcState) (id : String) : Option (List TorrentFileEntry) :=
  (s.torrents.get? id).map (·.runtime.files)

end Views

/-! ## The views of a well-formed map -/

section WellFormed

variable {s : OrcState} (h : RegistryWellFormed s.torrents)
include h

theorem listTorrents_ids : (listTorrents s).map (·.id) = s.torrents.keys := by
  rw [listTorrents, List.map_map, StrMap.keys]
  exact List.map_congr_left fun e he => h.keyed e he

theorem mem_listTorrents_iff (t : Torrent) : t ∈ listTorrents s ↔ getTorrent s t.id = some t := by
  simp only [listTorrents, getTorrent, List.mem_map, Option.map_eq_some']
  constructor
  · rintro ⟨e, he, rfl⟩
    exact ⟨e.2, by rw [h.keyed e he]; exact StrMap.get?_of_mem he, rfl⟩
  · rintro ⟨r, hr, rfl⟩
    exact ⟨(r.torrent.id, r), StrMap.mem_of_get? hr, rfl⟩

end WellFormed

/-- **The views agree.** In every reachable state `list_torrents` returns torrents with
pairwise distinct ids; a torrent is listed exactly when
`get_torrent` returns it for its id; and `get_torrent` and `get_status` return a torrent or
status whose id is the one asked for. -/
theorem views_agree {F : Type} (ops : RowF64 F) {p : Platform} {s : OrcState}
    (hs : Reachable p s) :
    ((listTorrents s).map (·.id)).Nodup ∧
      (∀ t, t ∈ listTorrents s ↔ getTorrent s t.id = some t) ∧
      (∀ id t, getTorrent s id = some t → t.id = id) ∧
      (∀ id st, getStatus ops s id = some st → st.id = id) := by
  have h := hs.registryWellFormed
  refine ⟨listTorrents_ids h ▸ s.torrents.nodup,
    mem_listTorrents_iff h, fun id t ht => ?_, fun id st hst => ?_⟩
  · obtain ⟨r, hr, rfl⟩ := Option.map_eq_some'.mp ht
    exact h.keyed.get? hr
  · obtain ⟨r, hr, rfl⟩ := Option.map_eq_some'.mp hst
    exact h.keyed.get? hr

/-- Two torrents added: `list_torrents` lists both, and each view agrees on them. -/
theorem views_agree_after_two_adds :
    let s := runOps Platform.ascii (newState "" "" 0 0)
      [sampleAdd sampleHash 0 "t", sampleAdd otherHash 1 "u"]
    Reachable Platform.ascii s ∧ (listTorrents s).map (·.id) = ["t", "u"] ∧
      (((listTorrents s).map (·.id)).Nodup ∧
        (∀ t, t ∈ listTorrents s ↔ getTorrent s t.id = some t) ∧
        (∀ id t, getTorrent s id = some t → t.id = id) ∧
        (∀ id st, getStatus RowF64.exact s id = some st → st.id = id)) :=
  have hs := reachable_runOps (.init "" "" 0 0) _
  ⟨hs, by decide, views_agree RowF64.exact hs⟩

end OrcTorrent
