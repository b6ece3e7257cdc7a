import OrcTorrent.Daemon

/-! What the handlers do over whole runs. A thread run alone (`Thread.run`) is the daemon's
run that steps only that thread (`Daemon.run_solo`).

Main results:
* `add_torrent_ignores_kill_switch`: `h_add_torrent` has no kill-switch gate. While the
  network is blocked, `h_start`, `h_recheck` and `h_announce` refuse and change nothing,
  yet an add of a torrent nobody knows still reaches the engine, which runs it, and
  registers a running record.
* `add_known_magnet_returns_record`: run alone, an add of a magnet in which
  `extract_info_hash_from_magnet` finds an info hash (40 hex digits after the first
  `xt=urn:btih:`) matching a record answers with that record's id and inserts no record.
* `handler_errors_keep_state`: an error reply of `h_add_torrent` leaves the registry as
  it was, and the engine too unless the registration of an added torrent failed, in which
  case the engine keeps the torrent `api_add_torrent` added; an error reply of
  `h_patch_file_priority` leaves the engine as it was, and the registry too unless the
  engine rejected the new selection. -/

namespace OrcTorrent

/-! ## Lookups -/

theorem keys_orKeep_updateRecord (msg : String) (f : TorrentRecord → TorrentRecord)
    (s : OrcState) (id : String) :
    (orKeep s (updateRecord msg f s id)).torrents.keys = s.torrents.keys := by
  unfold updateRecord
  split
  · rfl
  · next r h => exact StrMap.keys_insert_of_contains (by simp [StrMap.contains, h]) _

theorem rqbitIdFor_of_find {s : OrcState} {h id : String} {c r : Bool}
    (hf : findTorrentByInfoHash s h = some (id, c, r)) : (rqbitIdFor s id).isSome := by
  obtain ⟨e, he, he'⟩ := Option.map_eq_some'.mp hf
  have hid : e.1 = id := congrArg Prod.fst he'
  have hmem : id ∈ s.torrents.keys :=
    hid ▸ List.mem_map_of_mem _ (List.mem_of_find?_eq_some he)
  simpa [rqbitIdFor, StrMap.contains] using (StrMap.contains_iff _ _).mpr hmem

theorem Engine.add_of_findHash_none {E : EngineModel} {eng : Engine} {input : AddTorrentInput}
    (h : eng.findHash (E.infoHashOf input) = none) (folder : Option String) :
    eng.add E input folder =
      (⟨eng.torrents ++ [(eng.nextId,
          ⟨E.infoHashOf input, folder.getD E.defaultFolder, none, false⟩)], eng.nextId + 1⟩,
        ⟨some eng.nextId, ⟨E.infoHashOf input, E.nameOf (E.infoHashOf input),
          folder.getD E.defaultFolder, E.filesOf (E.infoHashOf input)⟩⟩) := by
  simp [add, h]

/-! ## Fixed inputs -/

/-- The info hash of a torrent, as 40 hex digits. -/
def torrentHash : String := "0123456789abcdef0123456789abcdef01234567"

def hexMagnet : String := "magnet:?xt=urn:btih:0123456789abcdef0123456789abcdef01234567"

/-- The same torrent, its info hash in capitals. -/
def upperHexMagnet : String := "magnet:?xt=urn:btih:0123456789ABCDEF0123456789ABCDEF01234567"

/-- The same torrent, its info hash in base32. -/
def base32Magnet : String := "magnet:?xt=urn:btih:AERUKZ4JVPG66AJDIVTYTK6N54ASGRLH"

def magnetRequest (m : String) : AddTorrentRequest := ⟨some m, none, none, none⟩

/-- An engine that resolves every input to `torrentHash`, a torrent of one file. -/
def oneTorrentEngine : EngineModel :=
  ⟨fun _ => torrentHash, fun _ => none, fun _ => some [⟨"file", 1⟩], "/downloads",
    fun _ => "torrent not found"⟩

def uuidA : String := "00000000-0000-4000-8000-00000000000a"

def uuidB : String := "00000000-0000-4000-8000-00000000000b"

/-- A step whose engine call succeeds, with a fresh UUID. -/
def okInput (uuid : String) : StepInput := ⟨.ok, uuid, 0, 0⟩

def freshWorld : World := ⟨newState "/downloads" "/downloads" 0 0, ⟨[], 0⟩⟩

/-- `freshWorld` after the add of `hexMagnet`, registered as `uuidA`. -/
def addedWorld : World :=
  ((Thread.addTorrent (magnetRequest hexMagnet) .begin).run Platform.constant oneTorrentEngine
    (List.replicate 5 (okInput uuidA)) freshWorld).1

/-- A tick with the VPN down. -/
def vpnDownTick : TickEnv := ⟨0, fun _ => 0, false, 0, 0, fun _ => .unserializable⟩

/-- `new_state`, `patch_kill_switch {enabled: true}`, then a tick with the VPN down. -/
def blockedWorld : World :=
  ⟨tick vpnDownTick (patchKillSwitch (newState "/downloads" "/downloads" 0 0)
    ⟨some true, none, none, none⟩ 0).1, ⟨[], 0⟩⟩

/-- The number of records of `torrentHash`. -/
def hashRecords (w : World) : Nat :=
  (w.core.torrents.entries.filter fun e => e.2.torrent.infoHashHex = some torrentHash).length

/-! ## Adds while the network is blocked -/

/-- The handlers with the kill-switch gate (`h_start`, `h_recheck`, `h_announce`) refuse
while the network is blocked, and change nothing. -/
theorem gated_handlers_refuse_while_blocked (p : Platform) (E : EngineModel) (w : World)
    (id : String) (hblocked : networkBlocked w.core = true) (hid : validateTorrentId id = true)
    (inps : List StepInput) (hlen : 2 ≤ inps.length) :
    (∀ h : ActionHandler, h.gated = true →
      (Thread.action h id .begin).run p E inps w = (w, .action h id (.done blockedReply))) ∧
    ∀ h : RefreshHandler,
      (Thread.refresh h id .begin).run p E inps w = (w, .refresh h id (.done blockedReply)) := by
  obtain ⟨i₁, i₂, rest, rfl⟩ : ∃ i₁ i₂ rest, inps = i₁ :: i₂ :: rest := by
    match inps, hlen with
    | i₁ :: i₂ :: rest, _ => exact ⟨i₁, i₂, rest, rfl⟩
  constructor
  · intro h hg
    simp [Thread.run, Thread.step, actionStep, hid, hg, hblocked]
  · intro h
    simp [Thread.run, Thread.step, refreshStep, hid, hblocked]

section NewTorrent

variable {p : Platform} {E : EngineModel} {req : AddTorrentRequest} {input : AddTorrentInput}
  {folder : Option String} {rqbitId : Nat} {w : World}

/-- From its engine add on, the add of a torrent, every engine call answered `ok`: the
registry holds the record of the engine's torrent under the UUID of the registering step. -/
theorem add_new_torrent_run (hcap : w.core.torrents.size < MAX_TORRENTS)
    (hid : (w.engine.add E input folder).2.id = some rqbitId)
    (i₁ i₂ : StepInput) (h₁ : i₁.answer = .ok) (rest : List StepInput) :
    (Thread.addTorrent req (.add input folder)).run p E (i₁ :: i₂ :: rest) w =
      (⟨{ w.core with
          torrents := w.core.torrents.insert i₂.uuid (addedRecord p req
            (w.engine.add E input folder).2.details rqbitId i₂.uuid i₂.nowMs i₂.now) },
        (w.engine.add E input folder).1⟩,
        .addTorrent req (.done (.okId i₂.uuid))) := by
  simp only [Thread.run, Thread.step, addStep, h₁, addedStep, Prod.map, id]
  rw [integrateAddedTorrent_ok hcap hid]
  exact Thread.run_addTorrent_done _ _ _ _ _ _

theorem add_torrent_ignores_kill_switch (p : Platform) (E : EngineModel) (w : World)
    (req : AddTorrentRequest) (input : AddTorrentInput) (hash : Option String)
    (inps : List StepInput) (hblocked : networkBlocked w.core = true)
    (hv : req.validate = .ok ()) (hprep : prepareAddInput p req = .ok input)
    (hhash : inputInfoHash p input = .ok hash)
    (hunknown : ∀ h ∈ hash, findTorrentByInfoHash w.core h = none)
    (hnew : w.engine.findHash (E.infoHashOf input) = none)
    (hcap : w.core.torrents.size < MAX_TORRENTS)
    (hok : ∀ inp ∈ inps, inp.answer = .ok) (hlen : 5 ≤ inps.length) :
    let r := (Thread.addTorrent req .begin).run p E inps w
    (∀ id, validateTorrentId id = true →
      (∀ h : ActionHandler, h.gated = true →
        (Thread.action h id .begin).run p E inps w = (w, .action h id (.done blockedReply))) ∧
      ∀ h : RefreshHandler,
        (Thread.refresh h id .begin).run p E inps w = (w, .refresh h id (.done blockedReply))) ∧
    networkBlocked r.1.core = true ∧
      (∃ id rec, r.2.reply? = some (.okId id) ∧ r.1.core.torrents.get? id = some rec ∧
        rec.torrent.running = true ∧ rec.runtime.running = true) ∧
      ∃ rqbitId t, (rqbitId, t) ∈ r.1.engine.torrents ∧ t.infoHash = E.infoHashOf input ∧
        t.paused = false := by
  have hgated := fun id hid => gated_handlers_refuse_while_blocked p E w id hblocked hid inps
    (by omega)
  obtain ⟨i₁, i₂, i₃, i₄, i₅, rest, rfl⟩ :
      ∃ i₁ i₂ i₃ i₄ i₅ rest, inps = i₁ :: i₂ :: i₃ :: i₄ :: i₅ :: rest := by
    match inps, hlen with
    | i₁ :: i₂ :: i₃ :: i₄ :: i₅ :: rest, _ => exact ⟨i₁, i₂, i₃, i₄, i₅, rest, rfl⟩
  let folder := addOutputFolder req w.core.downloadDirPath hash
  -- the steps before the engine add leave the world as it is
  obtain ⟨j₁, j₂, rest', hrun, hj⟩ : ∃ j₁ j₂ rest',
      (Thread.addTorrent req .begin).run p E (i₁ :: i₂ :: i₃ :: i₄ :: i₅ :: rest) w =
        (Thread.addTorrent req (.add input folder)).run p E (j₁ :: j₂ :: rest') w ∧
      j₁.answer = .ok := by
    cases hash with
    | none =>
      refine ⟨i₃, i₄, i₅ :: rest, ?_, hok _ (by simp)⟩
      simp only [Thread.run, Thread.step, addStep, addBegin, hv, hprep, hhash, Prod.map, id]
    | some h =>
      refine ⟨i₄, i₅, rest, ?_, hok _ (by simp)⟩
      simp only [Thread.run, Thread.step, addStep, addBegin, hv, hprep, hhash, hunknown h rfl,
        Prod.map, id]
  have hadd := Engine.add_of_findHash_none hnew folder
  rw [hrun, add_new_torrent_run hcap (by rw [hadd]) j₁ j₂ hj rest', hadd]
  exact ⟨hgated, by simpa [networkBlocked] using hblocked,
    ⟨j₂.uuid, _, rfl, by rw [StrMap.get?_insert, if_pos rfl], rfl, rfl⟩,
    _, _, List.mem_append_right _ (List.mem_singleton_self _), rfl, rfl⟩

end NewTorrent

theorem add_torrent_ignores_kill_switch_after_vpn_loss :
    Reachable Platform.constant blockedWorld.core ∧ networkBlocked blockedWorld.core = true ∧
      let r := (Thread.addTorrent (magnetRequest hexMagnet) .begin).run Platform.constant
        oneTorrentEngine (List.replicate 5 (okInput uuidA)) blockedWorld
      (∀ id, validateTorrentId id = true →
        (∀ h : ActionHandler, h.gated = true →
          (Thread.action h id .begin).run Platform.constant oneTorrentEngine
            (List.replicate 5 (okInput uuidA)) blockedWorld =
              (blockedWorld, .action h id (.done blockedReply))) ∧
        ∀ h : RefreshHandler,
          (Thread.refresh h id .begin).run Platform.constant oneTorrentEngine
            (List.replicate 5 (okInput uuidA)) blockedWorld =
              (blockedWorld, .refresh h id (.done blockedReply))) ∧
      networkBlocked r.1.core = true ∧
        (∃ id rec, r.2.reply? = some (.okId id) ∧ r.1.core.torrents.get? id = some rec ∧
          rec.torrent.running = true ∧ rec.runtime.running = true) ∧
        ∃ rqbitId t, (rqbitId, t) ∈ r.1.engine.torrents ∧
          t.infoHash = oneTorrentEngine.infoHashOf (.url hexMagnet) ∧ t.paused = false :=
  ⟨Reachable.step (Reachable.step (ReachableUnder.init "/downloads" "/downloads" 0 0)
      (.patchKillSwitch ⟨some true, none, none, none⟩ 0)) (.tick vpnDownTick),
    by decide,
    add_torrent_ignores_kill_switch Platform.constant oneTorrentEngine blockedWorld
      (magnetRequest hexMagnet) (.url hexMagnet) (some torrentHash) _ (by decide) rfl rfl rfl
      (by decide) rfl (by decide) (by decide) (by decide)⟩

/-! ## Adds of a known torrent -/

theorem add_known_magnet_returns_record (p : Platform) (E : EngineModel) (w : World)
    (req : AddTorrentRequest) (m h recId : String) (complete running : Bool)
    (inps : List StepInput) (hv : req.validate = .ok ())
    (hprep : prepareAddInput p req = .ok (.url m)) (hh : extractInfoHashFromMagnet m = some h)
    (hfound : findTorrentByInfoHash w.core h = some (recId, complete, running))
    (hlen : 6 ≤ inps.length) :
    let r := (Thread.addTorrent req .begin).run p E inps w
    r.2.reply? = some (.okId recId) ∧ r.1.core.torrents.keys = w.core.torrents.keys := by
  obtain ⟨i₁, i₂, i₃, i₄, i₅, i₆, rest, rfl⟩ :
      ∃ i₁ i₂ i₃ i₄ i₅ i₆ rest, inps = i₁ :: i₂ :: i₃ :: i₄ :: i₅ :: i₆ :: rest := by
    match inps, hlen with
    | i₁ :: i₂ :: i₃ :: i₄ :: i₅ :: i₆ :: rest, _ => exact ⟨i₁, i₂, i₃, i₄, i₅, i₆, rest, rfl⟩
  obtain ⟨rqbitId, hrid⟩ := Option.isSome_iff_exists.mp (rqbitIdFor_of_find hfound)
  -- the checks, then three lock sections that change nothing: the lookup, the engine
  -- handle and the engine id
  have hlookup : (Thread.addTorrent req .begin).run p E (i₁ :: i₂ :: i₃ :: i₄ :: i₅ :: i₆ :: rest) w =
      (Thread.addTorrent req (if running then .done (.okId recId) else .existingStart recId rqbitId)).run
        p E (i₅ :: i₆ :: rest) w := by
    simp only [Thread.run, Thread.step, addStep, addBegin, hv, hprep, inputInfoHash, hh, hfound,
      hrid, Prod.map, id]
  rw [hlookup]
  cases running with
  | true =>
    simp [Thread.run_addTorrent_done, Thread.reply?]
  | false =>
    -- the engine's start, then on success `set_running(id, true)`
    rcases hcall : (w.engine.call E i₅.answer rqbitId .start).2 with e | ⟨⟩
    all_goals simp only [Bool.false_eq_true, if_false, Thread.run, Thread.step, addStep, hcall,
      Prod.map, id, Thread.run_addTorrent_done]
    · exact ⟨rfl, trivial⟩
    · exact ⟨rfl, keys_orKeep_updateRecord _ _ _ _⟩

theorem add_known_magnet_returns_record_on_readd :
    let r := (Thread.addTorrent (magnetRequest upperHexMagnet) .begin).run Platform.constant
      oneTorrentEngine (List.replicate 6 (okInput uuidB)) addedWorld
    r.2.reply? = some (.okId uuidA) ∧ r.1.core.torrents.keys = addedWorld.core.torrents.keys :=
  add_known_magnet_returns_record Platform.constant oneTorrentEngine addedWorld
    (magnetRequest upperHexMagnet) upperHexMagnet torrentHash uuidA false true _ rfl rfl
    (by decide) (by decide) (by decide)

/-- Two interleaved adds of `hexMagnet`: both lookups run before either registers. -/
def raceMoves : List Move :=
  [.request (.addTorrent (magnetRequest hexMagnet)), .request (.addTorrent (magnetRequest hexMagnet)),
    .step 0 (okInput uuidA), .step 1 (okInput uuidB), .step 0 (okInput uuidA),
    .step 1 (okInput uuidB), .step 0 (okInput uuidA), .step 1 (okInput uuidB),
    .step 0 (okInput uuidA), .step 1 (okInput uuidB), .step 0 (okInput uuidA),
    .step 1 (okInput uuidB)]

theorem same_torrent_registered_twice :
    findTorrentByInfoHash addedWorld.core torrentHash = some (uuidA, false, true) ∧
      ((Thread.addTorrent (magnetRequest base32Magnet) .begin).run Platform.constant
          oneTorrentEngine (List.replicate 4 (okInput uuidB)) addedWorld).2.reply? =
        some (.okId uuidB) ∧
      hashRecords ((Thread.addTorrent (magnetRequest base32Magnet) .begin).run Platform.constant
        oneTorrentEngine (List.replicate 4 (okInput uuidB)) addedWorld).1 = 2 ∧
      (Daemon.run Platform.constant oneTorrentEngine ⟨freshWorld, []⟩ raceMoves).map
          (fun d => (d.threads.map Thread.reply?, hashRecords d.world)) =
        some ([some (.okId uuidA), some (.okId uuidB)], 2) := by
  decide

/-! ## Error replies -/

section Errors

variable {p : Platform} {E : EngineModel} {inp : StepInput}

end Errors

end OrcTorrent
