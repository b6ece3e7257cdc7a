import Mathlib.Algebra.Order.Ring.Nat
import OrcTorrent.Registry

/-! What two registry operations leave in the record they write. `integrate_added_torrent`
accepts every file list the engine reports and stores the sum of the file lengths as a
`u64`, modulo `2^64` (`integrateAddedTorrent_totalBytes`). Its tracker list goes through
`dedup_preserve`, which keeps the first occurrence of every string in order, the
`List.eraseDups` of its input (`dedupPreserve_eq_eraseDups`), so the record has one tracker
state per listed tracker (`addedRecord_trackers`). `set_file_priority` gives the
request's priority to exactly the files whose path the request names, changes nothing
else, and `only_files_for` then lists the files not marked `skip`
(`setFilePriority_frame`). -/

namespace OrcTorrent

/-! ## `integrate_added_torrent` -/

theorem foldl_add_map {α : Type} (f : α → Nat) (l : List α) (a : Nat) :
    l.foldl (fun acc x => acc + f x) a = a + (l.map f).sum := by
  induction l generalizing a with
  | nil => simp
  | cons x l ih => simp only [List.foldl_cons, ih, List.map_cons, List.sum_cons]; omega

theorem addedRecord_totalBytes (p : Platform) (req : AddTorrentRequest) (d : ApiTorrentDetails)
    (rqbitId : Nat) (id : String) (addedAtMs now : Nat) :
    (addedRecord p req d rqbitId id addedAtMs now).runtime.totalBytes =
      ((d.files.getD []).map (·.length)).sum % 2 ^ 64 := by
  simp only [addedRecord, List.foldl_map, foldl_add_map, Nat.zero_add]

/-- Whatever files the engine reports, an add within the registry's capacity that the
engine gave an id is accepted, and the record stores the sum of the file lengths modulo
`2^64` as its size, from which the piece estimate is derived. -/
theorem integrateAddedTorrent_totalBytes (p : Platform) (s : OrcState) (req : AddTorrentRequest)
    (resp : ApiAddTorrentResponse) (rqbitId : Nat) (id : String) (addedAtMs now : Nat)
    (hcap : s.torrents.size < MAX_TORRENTS) (hid : resp.id = some rqbitId) :
    ∃ s' r, integrateAddedTorrent p s req resp id addedAtMs now = .ok (s', id) ∧
      s'.torrents.get? id = some r ∧
      r.runtime.totalBytes = ((resp.details.files.getD []).map (·.length)).sum % 2 ^ 64 ∧
      r.runtime.totalPiecesEstimate = totalPiecesEstimateFor r.runtime.totalBytes := by
  refine ⟨_, _, integrateAddedTorrent_ok hcap hid id addedAtMs now,
    by rw [StrMap.get?_insert, if_pos rfl], addedRecord_totalBytes .., rfl⟩

/-- Two files of `2^63` bytes: the add is accepted and stores a size of 0. -/
theorem integrateAddedTorrent_totalBytes_of_two_halves :
    let resp : ApiAddTorrentResponse :=
      ⟨some 0, ⟨"", none, "", some [⟨"a", 2 ^ 63⟩, ⟨"b", 2 ^ 63⟩]⟩⟩
    ((resp.details.files.getD []).map (·.length)).sum = 2 ^ 64 ∧
      ∃ s' r, integrateAddedTorrent Platform.constant (newState "" "" 0 0)
          ⟨none, none, none, none⟩ resp "t" 0 0 = .ok (s', "t") ∧
        s'.torrents.get? "t" = some r ∧
        r.runtime.totalBytes = ((resp.details.files.getD []).map (·.length)).sum % 2 ^ 64 ∧
        r.runtime.totalPiecesEstimate = totalPiecesEstimateFor r.runtime.totalBytes :=
  ⟨by decide, integrateAddedTorrent_totalBytes Platform.constant _ _ _ 0 "t" 0 0
    (by decide) rfl⟩

/-! ## The tracker list

`dedup_preserve` keeps a string when `seen.insert` reports it new. `dedupPreserveFrom seen`
is the loop from a set `seen`; `List.eraseDups` runs the same loop with the kept strings
accumulated in reverse. -/

theorem eraseDups_loop_eq (seen v : List String) :
    List.eraseDups.loop v seen = seen.reverse ++ dedupPreserveFrom seen v := by
  induction v generalizing seen with
  | nil => rw [List.eraseDups.loop, dedupPreserveFrom, List.append_nil]
  | cons s rest ih =>
    rw [List.eraseDups.loop, List.elem_eq_mem, dedupPreserveFrom]
    by_cases h : s ∈ seen
    · rw [decide_eq_true h, if_pos h]; exact ih seen
    · rw [decide_eq_false h, if_neg h]
      exact (ih (s :: seen)).trans
        (by rw [List.reverse_cons, List.append_assoc, List.singleton_append])

theorem mem_dedupPreserveFrom {x : String} (seen v : List String) :
    x ∈ dedupPreserveFrom seen v ↔ x ∈ v ∧ x ∉ seen := by
  induction v generalizing seen with
  | nil => simp [dedupPreserveFrom]
  | cons s rest ih =>
    rw [dedupPreserveFrom]
    by_cases h : s ∈ seen
    · rw [if_pos h, ih, List.mem_cons]
      exact ⟨fun ⟨hx, hs⟩ => ⟨.inr hx, hs⟩,
        fun ⟨hx, hs⟩ => ⟨hx.resolve_left (by rintro rfl; exact hs h), hs⟩⟩
    · rw [if_neg h, List.mem_cons, ih, List.mem_cons, List.mem_cons]
      by_cases hx : x = s
      · subst hx; simp [h]
      · simp [hx]

theorem dedupPreserveFrom_nodup (seen v : List String) : (dedupPreserveFrom seen v).Nodup := by
  induction v generalizing seen with
  | nil => exact List.nodup_nil
  | cons s rest ih =>
    rw [dedupPreserveFrom]
    split
    · exact ih seen
    · exact List.nodup_cons.mpr
        ⟨fun hs => ((mem_dedupPreserveFrom _ _).mp hs).2 (List.mem_cons_self s seen), ih _⟩

theorem dedupPreserveFrom_sublist (seen v : List String) : (dedupPreserveFrom seen v).Sublist v := by
  induction v generalizing seen with
  | nil => exact List.Sublist.slnil
  | cons s rest ih =>
    rw [dedupPreserveFrom]
    split
    · exact (ih seen).cons s
    · exact (ih _).cons₂ s

/-- For every list of strings, `dedup_preserve` returns the first occurrence of each string in
the original order: it is `List.eraseDups`, it has no duplicates, it is a subsequence of its
input, and it keeps every string of its input. -/
theorem dedupPreserve_eq_eraseDups (v : List String) :
    dedupPreserve v = v.eraseDups ∧ (dedupPreserve v).Nodup ∧ (dedupPreserve v).Sublist v ∧
      ∀ s ∈ v, s ∈ dedupPreserve v :=
  ⟨(eraseDups_loop_eq [] v).symm, dedupPreserveFrom_nodup [] v, dedupPreserveFrom_sublist [] v,
    fun _ hs => (mem_dedupPreserveFrom [] v).mpr ⟨hs, List.not_mem_nil _⟩⟩

/-- The request's priority on every file whose path it names. -/
def prioritized (req : PatchFilePriorityRequest) (f : TorrentFileEntry) : TorrentFileEntry :=
  if f.path ∈ req.paths then { f with priority := req.priority } else f

theorem foldl_prioritize_of_mem (req : PatchFilePriorityRequest) (paths : List (List String))
    (files : List TorrentFileEntry) :
    paths.foldl (fun fs path => fs.map fun f =>
        if f.path = path then { f with priority := req.priority } else f) files =
      files.map fun f => if f.path ∈ paths then { f with priority := req.priority } else f := by
  induction paths generalizing files with
  | nil => simp
  | cons path paths ih =>
    rw [List.foldl_cons, ih, List.map_map]
    refine List.map_congr_left fun f _ => ?_
    by_cases hp : f.path = path <;> by_cases hm : f.path ∈ paths <;> simp [hp, hm]

/-- The loop of `set_file_priority` is `prioritized` on every file. -/
theorem setFilePriorityFiles_eq (req : PatchFilePriorityRequest) (files : List TorrentFileEntry) :
    setFilePriorityFiles req files = files.map (prioritized req) := by
  unfold setFilePriorityFiles
  split
  · next h => rw [h]; rfl
  · exact foldl_prioritize_of_mem req req.paths files

/-- After a successful `set_file_priority`, the record's files are its old files with the
request's priority on exactly those whose path the request names, the rest of the state is
as it was, and `only_files_for` lists the files whose resulting priority is not `skip`. -/
theorem setFilePriority_frame {s s' : OrcState} {id : String} {req : PatchFilePriorityRequest}
    (h : setFilePriority s id req = .ok s') :
    ∃ r, s.torrents.get? id = some r ∧
      s' = { s with
        torrents := s.torrents.insert id
          { r with runtime := { r.runtime with files := r.runtime.files.map (prioritized req) } } } ∧
      ∃ only, onlyFilesFor s' id = some only ∧
        ∀ i, i ∈ only ↔ ∃ f, r.runtime.files[i]? = some f ∧ (prioritized req f).priority ≠ "skip" := by
  unfold setFilePriority updateRecord at h
  split at h
  · cases h
  · next r hr =>
    cases h
    have hget : onlyFilesFor { s with
        torrents := s.torrents.insert id (setFilePriorityRecord req r) } id =
        some ((((r.runtime.files.map (prioritized req)).enum.filter
          fun e => e.2.priority ≠ "skip").map (·.1))) := by
      simp only [onlyFilesFor, StrMap.get?_insert, ↓reduceIte, Option.map_some',
        setFilePriorityRecord, setFilePriorityFiles_eq]
    refine ⟨r, hr, by rw [setFilePriorityRecord, setFilePriorityFiles_eq], _, hget, fun i => ?_⟩
    simp only [List.mem_map, List.mem_filter, List.mem_enum_iff_getElem?, List.getElem?_map,
      decide_eq_true_eq]
    constructor
    · rintro ⟨⟨j, g⟩, ⟨hj, hg⟩, rfl⟩
      obtain ⟨f, hf, rfl⟩ := Option.map_eq_some'.mp hj
      exact ⟨f, hf, hg⟩
    · rintro ⟨f, hf, hg⟩
      exact ⟨⟨i, prioritized req f⟩, ⟨by rw [hf]; rfl, hg⟩, rfl⟩

/-- Skipping file `a` of the sample torrent: the engine is then asked for file `b` only. -/
theorem setFilePriority_frame_on_added :
    let s := (integrateAddedTorrent Platform.ascii (newState "" "" 0 0) (sampleRequest sampleHash)
      ⟨some 0, sampleDetails sampleHash⟩ "t" 0 0).map Prod.fst
    let req : PatchFilePriorityRequest := ⟨[["a"]], "skip"⟩
    ∃ s₀ s', s = .ok s₀ ∧ setFilePriority s₀ "t" req = .ok s' ∧ onlyFilesFor s' "t" = some [1] ∧
      ∃ r, s₀.torrents.get? "t" = some r ∧
        s' = { s₀ with
          torrents := s₀.torrents.insert "t"
            { r with runtime := { r.runtime with files := r.runtime.files.map (prioritized req) } } } ∧
        ∃ only, onlyFilesFor s' "t" = some only ∧
          ∀ i, i ∈ only ↔ ∃ f, r.runtime.files[i]? = some f ∧ (prioritized req f).priority ≠ "skip" :=
  ⟨_, _, rfl, rfl, rfl, setFilePriority_frame rfl⟩

/-! ## Two patches of one torrent -/

/-- Two `set_file_priority` calls on one torrent are one pass of both requests, the second
after the first, over each file. -/
theorem setFilePriority_bind (s : OrcState) (id : String) (req₁ req₂ : PatchFilePriorityRequest) :
    (setFilePriority s id req₁ >>= fun s => setFilePriority s id req₂) =
      updateRecord "Not found" (fun r => { r with runtime := { r.runtime with
        files := r.runtime.files.map fun f => prioritized req₂ (prioritized req₁ f) } }) s id := by
  unfold setFilePriority updateRecord
  split
  · rfl
  · next r _ =>
    simp only [bind, Except.bind, StrMap.get?_insert, ↓reduceIte, StrMap.insert_insert,
      setFilePriorityRecord, setFilePriorityFiles_eq, List.map_map]
    rfl

theorem prioritized_comm {req₁ req₂ : PatchFilePriorityRequest}
    (hdisj : ∀ path ∈ req₁.paths, path ∉ req₂.paths) (f : TorrentFileEntry) :
    prioritized req₂ (prioritized req₁ f) = prioritized req₁ (prioritized req₂ f) := by
  by_cases h₁ : f.path ∈ req₁.paths
  · simp [prioritized, h₁, hdisj _ h₁]
  · by_cases h₂ : f.path ∈ req₂.paths <;> simp [prioritized, h₁, h₂]

theorem prioritized_absorb {req₁ req₂ : PatchFilePriorityRequest}
    (hsub : ∀ path ∈ req₁.paths, path ∈ req₂.paths) (f : TorrentFileEntry) :
    prioritized req₂ (prioritized req₁ f) = prioritized req₂ f := by
  by_cases h₁ : f.path ∈ req₁.paths
  · simp [prioritized, h₁, hsub _ h₁]
  · simp [prioritized, h₁]

/-- **Order of two patches.** Two `set_file_priority` calls on one torrent whose requests
name no path in common give the same result in either order; and a call whose request
names every path of an earlier one undoes the earlier one entirely. -/
theorem setFilePriority_order (s : OrcState) (id : String) (req₁ req₂ : PatchFilePriorityRequest) :
    ((∀ path ∈ req₁.paths, path ∉ req₂.paths) →
      (setFilePriority s id req₁ >>= fun s => setFilePriority s id req₂) =
        (setFilePriority s id req₂ >>= fun s => setFilePriority s id req₁)) ∧
    ((∀ path ∈ req₁.paths, path ∈ req₂.paths) →
      (setFilePriority s id req₁ >>= fun s => setFilePriority s id req₂) =
        setFilePriority s id req₂) := by
  refine ⟨fun hdisj => ?_, fun hsub => ?_⟩ <;> rw [setFilePriority_bind]
  · rw [setFilePriority_bind]
    simp only [prioritized_comm hdisj]
  · simp only [prioritized_absorb hsub]
    unfold setFilePriority updateRecord
    split
    · rfl
    · simp only [setFilePriorityRecord, setFilePriorityFiles_eq]

/-- The priorities of the files of record `id`, in the state a patch returns. -/
def filePriorities (id : String) (r : Except String OrcState) : Except String (Option (List String)) :=
  r.map fun s => (s.torrents.get? id).map fun r => r.runtime.files.map (·.priority)

/-- On the sample torrent: skipping file `a`, then raising file `b`, in either order; and
raising both after skipping `a`. -/
theorem setFilePriority_order_of_two_files :
    let skipA : PatchFilePriorityRequest := ⟨[["a"]], "skip"⟩
    let highB : PatchFilePriorityRequest := ⟨[["b"]], "high"⟩
    let highAB : PatchFilePriorityRequest := ⟨[["a"], ["b"]], "high"⟩
    ∃ s, (integrateAddedTorrent Platform.ascii (newState "" "" 0 0) (sampleRequest sampleHash)
        ⟨some 0, sampleDetails sampleHash⟩ "t" 0 0).map Prod.fst = .ok s ∧
      filePriorities "t" (setFilePriority s "t" skipA >>= fun s => setFilePriority s "t" highB) =
        .ok (some ["skip", "high"]) ∧
      filePriorities "t" (setFilePriority s "t" highAB) = .ok (some ["high", "high"]) ∧
      ((∀ path ∈ skipA.paths, path ∉ highB.paths) ∧
        (setFilePriority s "t" skipA >>= fun s => setFilePriority s "t" highB) =
          (setFilePriority s "t" highB >>= fun s => setFilePriority s "t" skipA)) ∧
      ((∀ path ∈ skipA.paths, path ∈ highAB.paths) ∧
        (setFilePriority s "t" skipA >>= fun s => setFilePriority s "t" highAB) =
          setFilePriority s "t" highAB) :=
  ⟨_, rfl, rfl, rfl, ⟨by decide, (setFilePriority_order _ "t" _ _).1 (by decide)⟩,
    ⟨by decide, (setFilePriority_order _ "t" _ _).2 (by decide)⟩⟩

end OrcTorrent
