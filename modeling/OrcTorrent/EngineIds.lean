import OrcTorrent.HandlerRuns
import OrcTorrent.Registry.Invariants

/-! The registry and the engine under the daemon's interleavings. `h_add_torrent` stores
the engine id and the info hash the engine reported in a new record one lock section after
its engine call; in between, other handlers may start, pause or forget engine torrents and
other adds may call the engine. The engine never gives an id to a second torrent: a new
torrent gets `next_id`, and a torrent it already manages gets its own id back.

The proof keeps a history of the engine's ids (`History`; the code has no such table): the
info hash each issued id was issued for. Engine calls keep it, an add extends it, and every
record agrees with it, as does every add between its engine call and its lock section.

Main result: from an engine that issued each id once, in every state the daemon reaches,
every record's engine id was issued, the torrent the engine manages under it (while it
manages one) is the torrent the record names, and two records with one engine id name one
torrent (`registry_engine_agree`). So `h_start`, `h_stop`, `h_remove`, `h_recheck`,
`h_announce` and `h_patch_file_priority` never reach another torrent through a record's
engine id. -/

namespace OrcTorrent

/-- The info hash each engine id was issued for. -/
abbrev History := Nat → Option String

/-- `hist'` keeps every id `hist` records. -/
def History.Le (hist hist' : History) : Prop := ∀ i h, hist i = some h → hist' i = some h

theorem History.Le.refl (hist : History) : hist.Le hist := fun _ _ h => h

namespace Engine

/-- The engine issued each of its ids once, below its next id. -/
structure Fresh (eng : Engine) : Prop where
  nodup : (eng.torrents.map (·.1)).Nodup
  lt : ∀ e ∈ eng.torrents, e.1 < eng.nextId

/-- `hist` is a history of the engine: it gives each managed torrent's id that torrent's
info hash, and records no id from the next one on. -/
structure Issued (hist : History) (eng : Engine) : Prop where
  managed : ∀ i t, (i, t) ∈ eng.torrents → hist i = some t.infoHash
  unissued : ∀ i, eng.nextId ≤ i → hist i = none

/-- The history read off the torrents an engine manages. -/
def history (eng : Engine) : History := fun i => (eng.torrents.find? (·.1 == i)).map (·.2.infoHash)

theorem issued_history {eng : Engine} (h : eng.Fresh) : eng.Issued eng.history := by
  refine ⟨fun i t hmem => ?_, fun i hi => ?_⟩
  · cases hf : eng.torrents.find? (·.1 == i) with
    | none => exact absurd (List.find?_eq_none.mp hf _ hmem) (by simp)
    | some e =>
      have hk : e.1 = i := by simpa using List.find?_some hf
      obtain rfl := List.inj_on_of_nodup_map h.nodup (List.mem_of_find?_eq_some hf) hmem hk
      simp only [history, hf, Option.map_some']
  · simp only [history, Option.map_eq_none', List.find?_eq_none, beq_iff_eq]
    exact fun e he => by have := h.lt e he; omega

/-! ## Engine calls -/

section Calls

variable {hist : History} {eng : Engine}

theorem issued_modify (h : eng.Issued hist) (id : Nat) (f : ManagedTorrent → ManagedTorrent)
    (hf : ∀ t, (f t).infoHash = t.infoHash) : (eng.modify id f).Issued hist := by
  refine ⟨fun i t' ht' => ?_, h.unissued⟩
  obtain ⟨⟨j, t⟩, ht, he⟩ := List.mem_map.mp ht'
  by_cases hj : j = id
  · rw [if_pos hj] at he; cases he; rw [hf]; exact h.managed _ _ ht
  · rw [if_neg hj] at he; cases he; exact h.managed _ _ ht

theorem issued_act (h : eng.Issued hist) (id : Nat) (a : EngineAction) :
    (eng.act id a).Issued hist := by
  cases a <;> simp only [act]
  case forget => exact ⟨fun i t ht => h.managed i t (List.mem_of_mem_filter ht), h.unissued⟩
  all_goals exact issued_modify h id _ fun _ => rfl

theorem issued_call (h : eng.Issued hist) (E : EngineModel) (ans : EngineAnswer) (id : Nat)
    (a : EngineAction) : (eng.call E ans id a).1.Issued hist := by
  unfold call; split
  · exact h
  · split
    exacts [issued_act h id a, h]

/-- `api_add_torrent` gives a torrent it manages that torrent's id, and another torrent the
next id, which the history then records. -/
theorem add_spec (h : eng.Issued hist) (E : EngineModel) (input : AddTorrentInput)
    (outputFolder : Option String) :
    ∃ hist', (eng.add E input outputFolder).1.Issued hist' ∧ hist.Le hist' ∧
      ∀ i, (eng.add E input outputFolder).2.id = some i →
        hist' i = some (eng.add E input outputFolder).2.details.infoHash := by
  unfold add
  dsimp only
  split
  · next id t hfind =>
    have hhash : t.infoHash = E.infoHashOf input := by simpa using List.find?_some hfind
    refine ⟨hist, h, .refl hist, fun i hi => ?_⟩
    cases hi
    rw [h.managed _ _ (List.mem_of_find?_eq_some hfind), hhash]
  · -- the next id was never issued, so recording it changes no other id
    have hnext : ∀ i x, hist i = some x → i ≠ eng.nextId := fun i x hi he => by
      rw [he, h.unissued _ le_rfl] at hi; cases hi
    refine ⟨fun i => if i = eng.nextId then some (E.infoHashOf input) else hist i,
      ⟨fun i t ht => ?_, fun i hi => ?_⟩, fun i x hi => ?_, fun i hi => ?_⟩
    · rcases List.mem_append.mp ht with ht | ht
      · have hi := h.managed i t ht
        exact (if_neg (hnext i _ hi)).trans hi
      · cases List.mem_singleton.mp ht; exact if_pos rfl
    · have hi : eng.nextId + 1 ≤ i := hi
      rw [if_neg (by omega)]; exact h.unissued i (by omega)
    · exact (if_neg (hnext i x hi)).trans hi
    · cases hi; exact if_pos rfl

end Calls

end Engine

/-! ## The daemon's world -/

/-- Operations that add a record to the registry. -/
def Op.addsRecord : Op → Bool
  | .integrateAddedTorrent .. => true
  | _ => false

/-- A record names the torrent its engine id was issued for. -/
def Registered (hist : History) (r : TorrentRecord) : Prop :=
  ∃ h, r.torrent.infoHashHex = some h ∧ hist r.runtime.rqbitId = some h

theorem Registered.of_sameTorrent {hist : History} {r r' : TorrentRecord} (hs : SameTorrent r r')
    (hr : Registered hist r) : Registered hist r' :=
  let ⟨h, h₁, h₂⟩ := hr
  ⟨h, hs.infoHashHex.trans h₁, (congrArg hist hs.rqbitId).trans h₂⟩

theorem Registered.mono {hist hist' : History} {r : TorrentRecord} (hr : Registered hist r)
    (hle : hist.Le hist') : Registered hist' r :=
  let ⟨h, h₁, h₂⟩ := hr
  ⟨h, h₁, hle _ _ h₂⟩

/-- The registry agrees with the engine's history. -/
structure Agreement (hist : History) (w : World) : Prop where
  issued : w.engine.Issued hist
  records : w.core.torrents.Forall (Registered hist)

/-- What a thread carries of the engine: an add between its engine call and its lock
section holds the id and info hash the engine reported; the other handlers add no record. -/
def AddPc.Holds (hist : History) : AddPc → Prop
  | .integrate resp => ∀ i, resp.id = some i → hist i = some resp.details.infoHash
  | _ => True

def Thread.Holds (hist : History) : Thread → Prop
  | .addTorrent _ pc => pc.Holds hist
  | .action h _ _ => ∀ id, (h.after id).addsRecord = false
  | .refresh h _ _ => ∀ id inp, (h.mark id inp).addsRecord = false
  | _ => True

theorem Thread.Holds.mono {hist hist' : History} {t : Thread} (ht : t.Holds hist)
    (hle : hist.Le hist') : t.Holds hist' := by
  rcases t with ⟨_, _ | _ | _ | _ | _ | _ | _ | _ | _ | resp | _⟩ | _ | _ | _ | _
  case addTorrent.integrate => exact fun i hi => hle _ _ (ht i hi)
  all_goals exact ht

theorem Request.thread_holds (hist : History) (r : Request) : r.thread.Holds hist := by
  cases r <;> first | trivial | exact fun _ => rfl | exact fun _ _ => rfl

section Agreement

variable (p : Platform) {hist : History} {w : World} (hw : Agreement hist w)
include hw

/-- A step of the core by an operation that adds no record keeps the agreement. -/
theorem Agreement.step {op : Op} (hop : op.addsRecord = false) :
    Agreement hist { w with core := step p w.core op } :=
  ⟨hw.issued, forall_step_of_sameTorrent p (fun _ _ => Registered.of_sameTorrent) hw.records op
    fun _ _ _ _ _ _ h _ => by rw [h] at hop; cases hop⟩

/-- `integrate_added_torrent` keeps it, if the engine's reply agrees with the history. -/
theorem Agreement.integrate {resp : ApiAddTorrentResponse} (hresp : AddPc.Holds hist (.integrate resp))
    (req : AddTorrentRequest) (id : String) (addedAtMs now : Nat) :
    Agreement hist
      { w with core := OrcTorrent.step p w.core (.integrateAddedTorrent req resp id addedAtMs now) } :=
  ⟨hw.issued, forall_step_of_sameTorrent p (fun _ _ => Registered.of_sameTorrent) hw.records _
    fun _ _ i _ _ _ h hi => by cases h; exact ⟨_, rfl, hresp i hi⟩⟩

theorem Agreement.engine {hist' : History} {eng : Engine} (hi : eng.Issued hist')
    (hle : hist.Le hist') : Agreement hist' { w with engine := eng } :=
  ⟨hi, fun e he => (hw.records e he).mono hle⟩

end Agreement

/-! ## Steps of the handlers -/

section Steps

variable (p : Platform) (E : EngineModel) (inp : StepInput) {hist : History} {w : World}

/-- What one step of a thread keeps, with the history it extends `hist` to: the agreement of
the world it leaves, and what the thread carries of the engine. -/
def StepKeeps (hist : History) (w' : World) (holds : History → Prop) : Prop :=
  ∃ hist', hist.Le hist' ∧ Agreement hist' w' ∧ holds hist'

theorem StepKeeps.mono {w' : World} {holds holds' : History → Prop} (h : StepKeeps hist w' holds)
    (himp : ∀ hist', holds hist' → holds' hist') : StepKeeps hist w' holds' :=
  let ⟨hist', hle, hw, hh⟩ := h
  ⟨hist', hle, hw, himp _ hh⟩

section
variable {holds : History → Prop} (hw : Agreement hist w) (h : holds hist)
include hw h

theorem stepKeeps_same : StepKeeps hist w holds := ⟨hist, .refl hist, hw, h⟩

theorem stepKeeps_call (ans : EngineAnswer) (id : Nat) (a : EngineAction) :
    StepKeeps hist { w with engine := (w.engine.call E ans id a).1 } holds :=
  ⟨hist, .refl hist, hw.engine (Engine.issued_call hw.issued ..) (.refl hist), h⟩

theorem stepKeeps_step {op : Op} (hop : op.addsRecord = false) :
    StepKeeps hist { w with core := step p w.core op } holds :=
  ⟨hist, .refl hist, hw.step p hop, h⟩

end

theorem addedStep_keeps (hw : Agreement hist w) (input : AddTorrentInput)
    (folder : Option String) :
    StepKeeps hist (addedStep E w input folder).1 fun hist' =>
      (addedStep E w input folder).2.Holds hist' :=
  let ⟨hist', hi, hle, hn⟩ := Engine.add_spec hw.issued E input folder
  ⟨hist', hle, hw.engine hi hle, hn⟩

theorem addStep_keeps (hw : Agreement hist w) (req : AddTorrentRequest) {pc : AddPc}
    (hpc : pc.Holds hist) :
    StepKeeps hist (addStep p E inp req w pc).1 fun hist' =>
      (addStep p E inp req w pc).2.Holds hist' := by
  cases pc with
  | begin =>
    refine stepKeeps_same hw ?_
    show (addBegin p req).Holds hist
    unfold addBegin; split
    · trivial
    · split
      · trivial
      · split <;> trivial
  | find input hash => exact stepKeeps_same hw (by simp only [addStep]; split <;> trivial)
  | existingRqbitId id running =>
    exact stepKeeps_same hw (by simp only [addStep]; split <;> (try split) <;> trivial)
  | existingStart id rqbitId =>
    exact stepKeeps_call E hw (by simp only [addStep]; split <;> trivial) _ _ _
  | existingMark id =>
    exact stepKeeps_step p hw trivial (show Op.addsRecord (.setRunning id true) = false from rfl)
  | add input folder | retry input folder =>
    simp only [addStep]
    split
    · exact addedStep_keeps E hw input folder
    · exact stepKeeps_same hw (by (try split) <;> trivial)
  | integrate resp =>
    simp only [addStep]
    split
    · next core id h =>
      have hcore : core = step p w.core (.integrateAddedTorrent req resp inp.uuid inp.nowMs inp.now) := by
        simp [step, h, orKeep, Except.map]
      rw [hcore]
      exact ⟨hist, .refl hist, hw.integrate p hpc req _ _ _, trivial⟩
    · exact stepKeeps_same hw trivial
  | existingApi | newApi | done => exact stepKeeps_same hw trivial

theorem actionStep_keeps (hw : Agreement hist w) (h : ActionHandler)
    (hh : ∀ id, (h.after id).addsRecord = false) (id : String) (pc : ActionPc) :
    StepKeeps hist (actionStep p h E inp id w pc).1 fun _ => True := by
  cases pc with
  | call rqbitId => exact stepKeeps_call E hw trivial _ _ _
  | finish => exact stepKeeps_step p hw trivial (hh id)
  | _ => exact stepKeeps_same hw trivial

theorem refreshStep_keeps (hw : Agreement hist w) (h : RefreshHandler)
    (hh : ∀ id inp, (h.mark id inp).addsRecord = false) (id : String) (pc : RefreshPc) :
    StepKeeps hist (refreshStep p h E inp id w pc).1 fun _ => True := by
  cases pc with
  | mark rqbitId => exact stepKeeps_step p hw trivial (hh id inp)
  | pause rqbitId | start rqbitId => exact stepKeeps_call E hw trivial _ _ _
  | _ => exact stepKeeps_same hw trivial

theorem filesStep_keeps (hw : Agreement hist w) (id : String) (req : PatchFilePriorityRequest)
    (pc : FilesPc) : StepKeeps hist (filesStep E inp id req w pc).1 fun _ => True := by
  cases pc with
  | setPriority =>
    simp only [filesStep]
    split
    · exact stepKeeps_same hw trivial
    · next core h =>
      -- `set_file_priority` reads no platform
      have hcore : core = step .constant w.core (.setFilePriority id req) := by simp [step, h, orKeep]
      rw [hcore]
      exact stepKeeps_step .constant hw trivial
        (show Op.addsRecord (.setFilePriority id req) = false from rfl)
  | update rqbitId files => exact stepKeeps_call E hw trivial _ _ _
  | _ => exact stepKeeps_same hw trivial

theorem callStep_keeps (hw : Agreement hist w) (c : Call) (pc : CallPc) :
    StepKeeps hist (callStep p c w pc).1 fun _ => True := by
  cases pc with
  | lock =>
    show StepKeeps hist { w with core := (c.lockSection p w.core).1 } _
    rw [c.lockSection_state p w.core]
    exact stepKeeps_step p hw trivial (by cases c <;> rfl)
  | _ => exact stepKeeps_same hw trivial

/-- **One step of a thread.** It keeps the agreement under an extended history, and leaves
the thread holding what it carries of the engine. -/
theorem Thread.step_keeps (hw : Agreement hist w) {t : Thread} (ht : t.Holds hist) :
    StepKeeps hist (t.step p E inp w).1 fun hist' => (t.step p E inp w).2.Holds hist' := by
  cases t with
  | addTorrent req pc => exact addStep_keeps p E inp hw req ht
  | action h id pc => exact (actionStep_keeps p E inp hw h ht id pc).mono fun _ _ => ht
  | refresh h id pc => exact (refreshStep_keeps p E inp hw h ht id pc).mono fun _ _ => ht
  | patchFilePriority id req pc => exact (filesStep_keeps E inp hw id req pc).mono fun _ _ => trivial
  | call c pc => exact (callStep_keeps p hw c pc).mono fun _ _ => trivial

end Steps

/-! ## Over the daemon's runs -/

/-- The agreement under some history, with every thread holding what it carries of the
engine. -/
def Daemon.Agrees (d : Daemon) : Prop :=
  ∃ hist, Agreement hist d.world ∧ ∀ t ∈ d.threads, t.Holds hist

theorem Daemon.agrees_init {eng : Engine} (heng : eng.Fresh) (downloadDir downloadDirPath : String)
    (startedAt nowMs : Nat) :
    Daemon.Agrees ⟨⟨newState downloadDir downloadDirPath startedAt nowMs, eng⟩, []⟩ :=
  ⟨eng.history, ⟨Engine.issued_history heng, StrMap.forall_empty _⟩,
    fun _ h => absurd h (List.not_mem_nil _)⟩

theorem Daemon.move_agrees {p : Platform} {E : EngineModel} {d d' : Daemon} {m : Move}
    (hd : d.Agrees) (h : d.move p E m = some d') : d'.Agrees := by
  obtain ⟨hist, hw, hts⟩ := hd
  cases m with
  | step i inp =>
    obtain ⟨t, ht, rfl⟩ := Option.map_eq_some'.mp h
    obtain ⟨hist', hle, hw', ht'⟩ := Thread.step_keeps p E inp hw (hts t (List.getElem?_mem ht))
    refine ⟨hist', hw', fun u hu => ?_⟩
    rcases List.mem_or_eq_of_mem_set hu with hu | rfl
    exacts [(hts u hu).mono hle, ht']
  | request r =>
    cases h
    refine ⟨hist, hw, fun u hu => ?_⟩
    rcases List.mem_append.mp hu with hu | hu
    · exact hts u hu
    · rw [List.mem_singleton.mp hu]; exact r.thread_holds _
  | tick env =>
    cases h
    exact ⟨hist, hw.step p (show Op.addsRecord (.tick env) = false from rfl), hts⟩

theorem Daemon.run_agrees {p : Platform} {E : EngineModel} {d d' : Daemon} {ms : List Move}
    (hd : d.Agrees) (h : d.run p E ms = some d') : d'.Agrees := by
  induction ms generalizing d with
  | nil => cases h; exact hd
  | cons m ms ih =>
    obtain ⟨d₁, h₁, h₂⟩ := Option.bind_eq_some.mp h
    exact ih (move_agrees hd h₁) h₂

/-- **The registry names the engine's torrents.** Start the daemon on `new_state` with an
engine that issued each id once, and run any interleaving of handler steps, new requests and
ticks. In every state reached, every record's engine id was issued by the engine; if the
engine manages a torrent under it, that torrent has the record's info hash; and every record
with the same engine id has the same info hash, also after the engine forgot the torrent. -/
theorem registry_engine_agree {p : Platform} {E : EngineModel} {eng : Engine} (heng : eng.Fresh)
    (downloadDir downloadDirPath : String) (startedAt nowMs : Nat) {ms : List Move} {d : Daemon}
    (hrun : Daemon.run p E ⟨⟨newState downloadDir downloadDirPath startedAt nowMs, eng⟩, []⟩ ms = some d) :
    ∀ id r, d.world.core.torrents.get? id = some r →
      r.runtime.rqbitId < d.world.engine.nextId ∧
        (∀ t, (r.runtime.rqbitId, t) ∈ d.world.engine.torrents →
          r.torrent.infoHashHex = some t.infoHash) ∧
        ∀ id' r', d.world.core.torrents.get? id' = some r' →
          r'.runtime.rqbitId = r.runtime.rqbitId → r'.torrent.infoHashHex = r.torrent.infoHashHex := by
  obtain ⟨hist, hw, -⟩ :=
    Daemon.run_agrees (Daemon.agrees_init heng downloadDir downloadDirPath startedAt nowMs) hrun
  intro id r hr
  obtain ⟨h, hh, hi⟩ := hw.records.get? hr
  refine ⟨Nat.lt_of_not_le fun hle => ?_, fun t ht => ?_, fun id' r' hr' hid => ?_⟩
  · rw [hw.issued.unissued _ hle] at hi; cases hi
  · rw [hh, ← hi]; exact hw.issued.managed _ _ ht
  · obtain ⟨h', hh', hi'⟩ := hw.records.get? hr'
    rw [hid, hi] at hi'
    rw [hh, hh', hi']

/-- An engine that manages another torrent already, under id 0. -/
def oneManagedEngine : Engine := ⟨[(0, ⟨otherHash, "/downloads/other", none, false⟩)], 1⟩

/-- The add of `hexMagnet`, then the add of the same torrent by its base32 magnet, which the
registry does not recognise: the engine gives its id back, and a second record takes it. -/
def twoAddMoves : List Move :=
  .request (.addTorrent (magnetRequest hexMagnet)) :: List.replicate 5 (.step 0 (okInput uuidA)) ++
    .request (.addTorrent (magnetRequest base32Magnet)) :: List.replicate 4 (.step 1 (okInput uuidB))

theorem registry_engine_agree_after_two_adds :
    ∃ d, Daemon.run Platform.constant oneTorrentEngine
        ⟨⟨newState "" "" 0 0, oneManagedEngine⟩, []⟩ twoAddMoves = some d ∧
      d.world.core.torrents.entries.map (fun e => (e.1, e.2.runtime.rqbitId)) =
        [(uuidA, 1), (uuidB, 1)] ∧
      oneManagedEngine.Fresh ∧
      ∀ id r, d.world.core.torrents.get? id = some r →
        r.runtime.rqbitId < d.world.engine.nextId ∧
          (∀ t, (r.runtime.rqbitId, t) ∈ d.world.engine.torrents →
            r.torrent.infoHashHex = some t.infoHash) ∧
          ∀ id' r', d.world.core.torrents.get? id' = some r' →
            r'.runtime.rqbitId = r.runtime.rqbitId → r'.torrent.infoHashHex = r.torrent.infoHashHex :=
  have hrun : Daemon.run Platform.constant oneTorrentEngine
      ⟨⟨newState "" "" 0 0, oneManagedEngine⟩, []⟩ twoAddMoves = some _ := rfl
  have h₀ : oneManagedEngine.Fresh := ⟨by decide, by decide⟩
  ⟨_, hrun, by decide, h₀, registry_engine_agree h₀ "" "" 0 0 hrun⟩

end OrcTorrent
