import OrcTorrent.Registry.Invariants

/-! The operations of `orc-core/src/lib.rs` that address one torrent: `set_running`,
`remove_torrent`, `set_profile`, `set_file_priority`, `force_checking`, `mark_announce`,
`peers_for` and `trackers_for`. Each finds the record under its id (`torrents.get_mut(id)`,
`torrents.get(id)` or `torrents.remove(id)`) and rewrites or removes that record; it reads
nothing else of the state. `RecordOp` is that shape, and `Op.step_eq_apply` puts each of
the eight operations in it.

Main result: two such operations on different torrents commute, and each leaves every other
torrent's record as it was (`step_independent`). So the order in which the daemon's
handlers for different torrents take the lock does not change the registry. -/

namespace OrcTorrent

/-- The torrent an operation addresses, for the operations that read and write that
torrent's record only. -/
def Op.torrentId? : Op → Option String
  | .setRunning id _ | .removeTorrent id | .setProfile id _ | .setFilePriority id _
  | .forceChecking id _ | .markAnnounce id _ | .peersFor id _ | .trackersFor id => some id
  | _ => none

/-! ## One record, in place -/

/-- What an operation on one record does: it finds the record under `key` and rewrites it
(`some`) or removes it (`none`); without a record it changes nothing. -/
structure RecordOp where
  key : String
  update : TorrentRecord → Option TorrentRecord

namespace RecordOp

/-- A write under a key the map has. -/
def write (k : String) : Option TorrentRecord → StrMap TorrentRecord → StrMap TorrentRecord
  | some r, m => m.modify k fun _ => r
  | none, m => m.erase k

def apply (o : RecordOp) (m : StrMap TorrentRecord) : StrMap TorrentRecord :=
  (m.get? o.key).elim m fun r => write o.key (o.update r) m

theorem get?_write_of_ne {k k' : String} (h : k' ≠ k) (x : Option TorrentRecord)
    (m : StrMap TorrentRecord) : (write k x m).get? k' = m.get? k' := by
  cases x with
  | some r => rw [write, StrMap.get?_modify, if_neg h]
  | none => rw [write, StrMap.get?_erase, if_neg h]

theorem write_comm {k₁ k₂ : String} (hne : k₁ ≠ k₂) (x y : Option TorrentRecord)
    (m : StrMap TorrentRecord) : write k₂ y (write k₁ x m) = write k₁ x (write k₂ y m) := by
  cases x <;> cases y <;> simp only [write]
  · exact StrMap.erase_erase_comm m k₁ k₂
  · exact (StrMap.erase_modify_comm m k₂ k₁ _).symm
  · exact StrMap.erase_modify_comm m k₁ k₂ _
  · exact StrMap.modify_comm m hne _ _

/-- The frame: a record operation leaves every other key's record as it was. -/
theorem get?_apply_of_ne (o : RecordOp) (m : StrMap TorrentRecord) {k : String}
    (h : k ≠ o.key) : (o.apply m).get? k = m.get? k := by
  unfold apply
  cases m.get? o.key with
  | none => rfl
  | some r => exact get?_write_of_ne h _ m

theorem apply_comm {o₁ o₂ : RecordOp} (hne : o₁.key ≠ o₂.key) (m : StrMap TorrentRecord) :
    o₂.apply (o₁.apply m) = o₁.apply (o₂.apply m) := by
  have h₂ := get?_apply_of_ne o₁ m (Ne.symm hne)
  have h₁ := get?_apply_of_ne o₂ m hne
  unfold apply at h₁ h₂ ⊢
  rw [h₁, h₂]
  cases m.get? o₁.key <;> cases m.get? o₂.key <;> simp only [Option.elim]
  exact write_comm hne _ _ m

/-- An operation whose rewrite is a fixpoint once applied gives nothing more when repeated. -/
theorem apply_apply {o : RecordOp} (hu : ∀ r r', o.update r = some r' → o.update r' = some r')
    (m : StrMap TorrentRecord) : o.apply (o.apply m) = o.apply m := by
  cases hm : m.get? o.key with
  | none => simp only [apply, hm, Option.elim]
  | some r =>
    cases hr : o.update r with
    | none => simp [apply, hm, hr, write, StrMap.get?_erase]
    | some r' =>
      have hg : (m.modify o.key fun _ => r').get? o.key = some r' := by
        rw [StrMap.get?_modify, if_pos rfl, hm]; rfl
      simp only [apply, hm, hr, write, Option.elim, hg, hu r r' hr, StrMap.modify_modify]

end RecordOp

/-! ## The operations of the core in that shape -/

theorem orKeep_updateRecord_apply (msg : String) (f : TorrentRecord → TorrentRecord)
    (s : OrcState) (id : String) :
    orKeep s (updateRecord msg f s id) =
      { s with torrents := (RecordOp.mk id fun r => some (f r)).apply s.torrents } := by
  unfold updateRecord RecordOp.apply
  cases h : s.torrents.get? id with
  | none => rfl
  | some r =>
    simp only [orKeep, Option.elim, RecordOp.write]
    rw [StrMap.insert_eq_modify (by simp [StrMap.contains, h])]

theorem orKeep_removeTorrent_apply (s : OrcState) (id : String) :
    orKeep s (removeTorrent s id) =
      { s with torrents := (RecordOp.mk id fun _ => none).apply s.torrents } := by
  rw [removeTorrent]
  unfold RecordOp.apply
  cases hr : s.torrents.get? id <;> simp [StrMap.contains, hr, orKeep, RecordOp.write]

/-- Each operation on one torrent is a `RecordOp` on the torrent map. -/
theorem Op.step_eq_apply (p : Platform) {op : Op} {id : String} (h : op.torrentId? = some id) :
    ∃ u, ∀ s, step p s op = { s with torrents := (RecordOp.mk id u).apply s.torrents } := by
  cases op <;> simp only [Op.torrentId?, Option.some.injEq, reduceCtorEq] at h <;> subst h
  case setRunning => exact ⟨_, fun s => orKeep_updateRecord_apply _ _ s _⟩
  case removeTorrent => exact ⟨_, fun s => orKeep_removeTorrent_apply s _⟩
  case setProfile =>
    exact ⟨_, fun s => by rw [step, setProfile_state]; exact orKeep_updateRecord_apply _ _ s _⟩
  case setFilePriority | forceChecking | markAnnounce =>
    exact ⟨_, fun s => orKeep_updateRecord_apply _ _ s _⟩
  case peersFor =>
    exact ⟨_, fun s => by rw [step, peersFor_state]; exact orKeep_updateRecord_apply _ _ s _⟩
  case trackersFor =>
    exact ⟨_, fun s => by rw [step, trackersFor_state]; exact orKeep_updateRecord_apply _ _ s _⟩

/-- **Operations on different torrents are independent.** Two operations that address
different torrents give the same state in either order, and each leaves the record of every
other torrent as it was. -/
theorem step_independent (p : Platform) (s : OrcState) {op₁ op₂ : Op} {id₁ id₂ : String}
    (h₁ : op₁.torrentId? = some id₁) (h₂ : op₂.torrentId? = some id₂) (hne : id₁ ≠ id₂) :
    step p (step p s op₁) op₂ = step p (step p s op₂) op₁ ∧
      ∀ id, id ≠ id₁ → (step p s op₁).torrents.get? id = s.torrents.get? id := by
  obtain ⟨u₁, hs₁⟩ := Op.step_eq_apply p h₁
  obtain ⟨u₂, hs₂⟩ := Op.step_eq_apply p h₂
  refine ⟨?_, fun id hid => ?_⟩
  · simp only [hs₁, hs₂]
    rw [@RecordOp.apply_comm ⟨id₁, u₁⟩ ⟨id₂, u₂⟩ hne]
  · rw [hs₁]; exact RecordOp.get?_apply_of_ne _ _ hid

theorem step_independent_on_two_torrents :
    let p := Platform.constant
    let s := step p (step p (newState "" "" 0 0)
      (.integrateAddedTorrent ⟨none, none, none, none⟩ ⟨some 0, ⟨"", none, "", none⟩⟩ "a" 0 0))
      (.integrateAddedTorrent ⟨none, none, none, none⟩ ⟨some 1, ⟨"", none, "", none⟩⟩ "b" 0 0)
    (Op.setRunning "a" false).torrentId? = some "a" ∧ (Op.removeTorrent "b").torrentId? = some "b" ∧
      "a" ≠ "b" ∧
      (step p (step p s (.setRunning "a" false)) (.removeTorrent "b") =
          step p (step p s (.removeTorrent "b")) (.setRunning "a" false) ∧
        ∀ id, id ≠ "a" → (step p s (.setRunning "a" false)).torrents.get? id = s.torrents.get? id) :=
  ⟨rfl, rfl, by decide, step_independent Platform.constant _ rfl rfl (by decide)⟩

/-! ## Repeating an operation -/

section Repeat

theorem contains_foldl_ensure_of_contains {l : List String} {ts : StrMap TrackerRuntimeState}
    {t : String} (h : ts.contains t) :
    (l.foldl (fun ts t => if ts.contains t then ts else ts.insert t {}) ts).contains t := by
  induction l generalizing ts with
  | nil => exact h
  | cons u l ih =>
    refine ih ?_
    dsimp only
    split
    · exact h
    · rw [StrMap.contains_insert, h, Bool.or_true]

theorem contains_foldl_ensure {l : List String} {t : String} (ht : t ∈ l)
    (ts : StrMap TrackerRuntimeState) :
    (l.foldl (fun ts t => if ts.contains t then ts else ts.insert t {}) ts).contains t := by
  induction l generalizing ts with
  | nil => cases ht
  | cons u l ih =>
    rw [List.foldl_cons]
    rcases List.mem_cons.mp ht with rfl | ht
    · refine contains_foldl_ensure_of_contains ?_
      dsimp only
      split
      · assumption
      · rw [StrMap.contains_insert]; simp
    · exact ih ht _

theorem setRunningRecord_idem (running : Bool) (r : TorrentRecord) :
    setRunningRecord running (setRunningRecord running r) = setRunningRecord running r := by
  cases running <;> rfl

theorem setFilePriorityRecord_idem (req : PatchFilePriorityRequest) (r : TorrentRecord) :
    setFilePriorityRecord req (setFilePriorityRecord req r) = setFilePriorityRecord req r := by
  simp only [setFilePriorityRecord, setFilePriorityFiles_eq, List.map_map]
  rw [show prioritized req ∘ prioritized req = prioritized req from
    funext (prioritized_absorb fun _ h => h)]

theorem ensureTrackerStates_idem (r : TorrentRecord) :
    ensureTrackerStates (ensureTrackerStates r) = ensureTrackerStates r := by
  simp only [ensureTrackerStates]
  rw [foldl_ensure_of_contains _ fun t ht => contains_foldl_ensure ht _]

theorem orKeep_updateRecord_idem (msg : String) {f : TorrentRecord → TorrentRecord}
    (hf : ∀ r, f (f r) = f r) (s : OrcState) (id : String) :
    orKeep (orKeep s (updateRecord msg f s id))
        (updateRecord msg f (orKeep s (updateRecord msg f s id)) id) =
      orKeep s (updateRecord msg f s id) := by
  rw [orKeep_updateRecord_apply msg f s id, orKeep_updateRecord_apply]
  show { s with torrents := _ } = _
  rw [RecordOp.apply_apply fun r r' h => by cases h; exact congrArg some (hf r)]

/-- The operations on one torrent that, repeated, leave the state as the first call left it.
`mark_announce` is not among them: each call counts one more announce. -/
def Op.repeatable : Op → Bool
  | .setRunning .. | .removeTorrent _ | .setProfile .. | .setFilePriority ..
  | .forceChecking .. | .trackersFor _ => true
  | _ => false

/-- **Repeating an operation.** `set_running`, `remove_torrent`, `set_profile`,
`set_file_priority`, `force_checking` (at the same instant) and `trackers_for`, applied a
second time, change nothing more. -/
theorem step_repeat (p : Platform) (s : OrcState) {op : Op} (h : op.repeatable) :
    step p (step p s op) op = step p s op := by
  cases op <;> simp only [Op.repeatable, Bool.false_eq_true] at h
  case setRunning id running => exact orKeep_updateRecord_idem _ (setRunningRecord_idem running) s id
  case removeTorrent id =>
    show orKeep (orKeep s (removeTorrent s id)) (removeTorrent (orKeep s (removeTorrent s id)) id) =
      orKeep s (removeTorrent s id)
    rw [orKeep_removeTorrent_apply, orKeep_removeTorrent_apply]
    show { s with torrents := _ } = _
    rw [RecordOp.apply_apply fun _ _ h => by cases h]
  case setProfile id profile =>
    simp only [step, setProfile_state]
    exact @orKeep_updateRecord_idem _ (setProfileRecord profile) (fun _ => rfl) s id
  case setFilePriority id req => exact orKeep_updateRecord_idem _ (setFilePriorityRecord_idem req) s id
  case forceChecking id now =>
    exact @orKeep_updateRecord_idem _ (forceCheckingRecord now) (fun _ => rfl) s id
  case trackersFor id =>
    simp only [step, trackersFor_state]
    exact orKeep_updateRecord_idem _ ensureTrackerStates_idem s id

/-- Skipping file `a` of the sample torrent, twice: the first patch leaves the engine file `b`
only, and the second changes nothing. -/
theorem step_repeat_setFilePriority :
    let p := Platform.ascii
    let s := step p (newState "" "" 0 0) (sampleAdd sampleHash 0 "t")
    let op : Op := .setFilePriority "t" ⟨[["a"]], "skip"⟩
    onlyFilesFor s "t" = some [0, 1] ∧ onlyFilesFor (step p s op) "t" = some [1] ∧
      op.repeatable ∧ step p (step p s op) op = step p s op :=
  ⟨rfl, rfl, rfl, step_repeat Platform.ascii _ rfl⟩

end Repeat

end OrcTorrent
