import OrcTorrent.HandlerRuns

/-! What the handlers' request checks keep. A handler applies `set_profile`,
`set_file_priority` and `patch_kill_switch` only once its request has passed its checks,
so every operation the daemon applies to the registry is `Op.Checked`, and under any
interleaving the registry is a state the core reaches by such operations
(`DaemonReachable.checkedReachable`).

Main result: in every state the daemon reaches, every profile has at most 10 hops, every
file's priority is one of `skip`, `low`, `normal`, `high`, and the kill switch's grace
period is at most an hour (`DaemonReachable.requestsChecked`). The core accepts any value:
only the checks of `h_patch_profile`, `h_patch_file_priority` and `h_patch_kill_switch`
keep these bounds. -/

namespace OrcTorrent

/-! ## The operations the handlers apply -/

/-- An operation within the bounds the request checks enforce. -/
def Op.Checked : Op → Prop
  | .setProfile _ profile => profile.hops ≤ 10
  | .setFilePriority _ req => req.priority ∈ validPriorities
  | .patchKillSwitch req _ => ∀ gp, req.gracePeriodSec = some gp → gp ≤ 3600
  | _ => True

/-- The states the core reaches by checked operations. -/
def CheckedReachable (p : Platform) : OrcState → Prop := ReachableUnder p fun _ op => op.Checked

/-- The registry after a step is the one before, or the one a checked operation made of it. -/
def CoreStep (p : Platform) (s s' : OrcState) : Prop :=
  s' = s ∨ ∃ op, op.Checked ∧ s' = step p s op

theorem CheckedReachable.of_coreStep {p : Platform} {s s' : OrcState}
    (hs : CheckedReachable p s) (h : CoreStep p s s') : CheckedReachable p s' := by
  rcases h with rfl | ⟨op, hop, rfl⟩
  · exact hs
  · exact .step op hs hop

/-- The lock section of a handler whose checks passed applies a checked operation. -/
theorem Call.op_checked {c : Call} (h : c.refusal = none) : c.op.Checked := by
  cases c with
  | patchProfile id req =>
    simp only [refusal] at h
    split at h
    · cases h
    · split at h
      · cases h
      · next hv => exact PatchTorrentProfileRequest.validate_eq_ok.mp hv
  | patchKillSwitch req nowMs =>
    simp only [refusal] at h
    split at h
    · cases h
    · next hv => exact PatchKillSwitchRequest.validate_eq_ok.mp hv
  | _ => trivial

/-- A thread whose checks are done for the operations left at its program point. -/
def Thread.Checked : Thread → Prop
  | .addTorrent _ _ => True
  | .action h _ _ => ∀ id, (h.after id).Checked
  | .refresh h _ _ => ∀ id inp, (h.mark id inp).Checked
  | .patchFilePriority _ req pc => pc = .setPriority → req.priority ∈ validPriorities
  | .call c pc => pc = .lock → c.op.Checked

theorem Request.thread_checked (r : Request) : r.thread.Checked := by
  cases r with
  | addTorrent => trivial
  | start | stop | remove => exact fun _ => trivial
  | recheck | announce => exact fun _ _ => trivial
  | patchFilePriority | call => exact fun h => nomatch h

section Steps

variable (p : Platform) (E : EngineModel) (inp : StepInput) (w : World)

theorem addStep_core (req : AddTorrentRequest) (pc : AddPc) :
    CoreStep p w.core (addStep p E inp req w pc).1.core := by
  cases pc
  case existingMark id => exact .inr ⟨.setRunning id true, trivial, rfl⟩
  case integrate resp =>
    simp only [addStep]
    split
    · next core id h =>
      exact .inr ⟨.integrateAddedTorrent req resp inp.uuid inp.nowMs inp.now, trivial,
        by simp [step, h, orKeep, Except.map]⟩
    · exact .inl rfl
  all_goals exact .inl (by simp only [addStep]; try (split <;> rfl))

theorem actionStep_core (h : ActionHandler) (hh : ∀ id, (h.after id).Checked) (id : String)
    (pc : ActionPc) : CoreStep p w.core (actionStep p h E inp id w pc).1.core := by
  cases pc
  case finish => exact .inr ⟨h.after id, hh id, rfl⟩
  all_goals exact .inl rfl

theorem refreshStep_core (h : RefreshHandler) (hh : ∀ id inp, (h.mark id inp).Checked)
    (id : String) (pc : RefreshPc) : CoreStep p w.core (refreshStep p h E inp id w pc).1.core := by
  cases pc
  case mark => exact .inr ⟨h.mark id inp, hh id inp, rfl⟩
  all_goals exact .inl rfl

theorem filesStep_core (id : String) (req : PatchFilePriorityRequest) (pc : FilesPc)
    (hpc : pc = .setPriority → req.priority ∈ validPriorities) :
    CoreStep p w.core (filesStep E inp id req w pc).1.core := by
  cases pc
  case setPriority =>
    simp only [filesStep]
    split
    · exact .inl rfl
    · next core h => exact .inr ⟨.setFilePriority id req, hpc rfl, by simp [step, h, orKeep]⟩
  all_goals exact .inl (by simp only [filesStep])

/-- `h_patch_file_priority` reaches its lock section only with a valid priority. -/
theorem filesStep_checked (id : String) (req : PatchFilePriorityRequest) (pc : FilesPc)
    (h : (filesStep E inp id req w pc).2 = .setPriority) : req.priority ∈ validPriorities := by
  cases pc with
  | begin =>
    simp only [filesStep] at h
    split at h
    · cases h
    · split at h
      · cases h
      · next hv => exact PatchFilePriorityRequest.priority_of_validate hv
  | setPriority =>
    simp only [filesStep] at h
    split at h
    · cases h
    · split at h <;> cases h
  | update => simp only [filesStep] at h; split at h <;> cases h
  | done => cases h

theorem callStep_core (c : Call) (pc : CallPc) (hpc : pc = .lock → c.op.Checked) :
    CoreStep p w.core (callStep p c w pc).1.core := by
  cases pc
  case lock => exact .inr ⟨c.op, hpc rfl, c.lockSection_state p w.core⟩
  all_goals exact .inl rfl

theorem callStep_checked (c : Call) (pc : CallPc) (h : (callStep p c w pc).2 = .lock) :
    c.op.Checked := by
  cases pc with
  | begin =>
    simp only [callStep] at h
    split at h
    · cases h
    · next hr => exact Call.op_checked hr
  | lock | done => cases h

/-- **One step of a thread.** A checked thread stays checked, and the registry moves by at
most one checked operation. -/
theorem Thread.step_checked {t : Thread} (ht : t.Checked) :
    (t.step p E inp w).2.Checked ∧ CoreStep p w.core (t.step p E inp w).1.core := by
  cases t with
  | addTorrent req pc => exact ⟨trivial, addStep_core p E inp w req pc⟩
  | action h id pc => exact ⟨ht, actionStep_core p E inp w h ht id pc⟩
  | refresh h id pc => exact ⟨ht, refreshStep_core p E inp w h ht id pc⟩
  | patchFilePriority id req pc =>
    exact ⟨filesStep_checked E inp w id req pc, filesStep_core p E inp w id req pc ht⟩
  | call c pc => exact ⟨callStep_checked p w c pc, callStep_core p w c pc ht⟩

end Steps

/-- Every thread of the daemon is checked. -/
def Daemon.Checked (d : Daemon) : Prop := ∀ t ∈ d.threads, t.Checked

theorem Daemon.move_checked {p : Platform} {E : EngineModel} {d d' : Daemon} {m : Move}
    (hd : d.Checked) (h : d.move p E m = some d') :
    d'.Checked ∧ CoreStep p d.world.core d'.world.core := by
  cases m with
  | step i inp =>
    obtain ⟨t, ht, rfl⟩ := Option.map_eq_some'.mp h
    have hstep := Thread.step_checked p E inp d.world (hd t (List.getElem?_mem ht))
    refine ⟨fun u hu => ?_, hstep.2⟩
    rcases List.mem_or_eq_of_mem_set hu with hu | rfl
    exacts [hd u hu, hstep.1]
  | request r =>
    cases h
    refine ⟨fun u hu => ?_, .inl rfl⟩
    rcases List.mem_append.mp hu with hu | hu
    · exact hd u hu
    · rw [List.mem_singleton.mp hu]; exact r.thread_checked
  | tick env => cases h; exact ⟨hd, .inr ⟨.tick env, trivial, rfl⟩⟩

theorem Daemon.run_checked {p : Platform} {E : EngineModel} {d d' : Daemon} {ms : List Move}
    (hd : d.Checked) (hs : CheckedReachable p d.world.core) (h : d.run p E ms = some d') :
    d'.Checked ∧ CheckedReachable p d'.world.core := by
  induction ms generalizing d with
  | nil => cases h; exact ⟨hd, hs⟩
  | cons m ms ih =>
    obtain ⟨d₁, h₁, h₂⟩ := Option.bind_eq_some.mp h
    have hm := move_checked hd h₁
    exact ih hm.1 (hs.of_coreStep hm.2) h₂

/-- **Refinement.** Under any interleaving of handlers, requests and ticks, the registry is
a state the core reaches by checked operations. -/
theorem DaemonReachable.checkedReachable {p : Platform} {E : EngineModel} {d : Daemon}
    (h : DaemonReachable p E d) : CheckedReachable p d.world.core := by
  obtain ⟨dd, dp, sa, nm, eng, ms, hrun⟩ := h
  exact (@Daemon.run_checked p E ⟨⟨newState dd dp sa nm, eng⟩, []⟩ d ms (fun _ h => nomatch h)
    (.init dd dp sa nm) hrun).2

theorem DaemonReachable.core_reachable {p : Platform} {E : EngineModel} {d : Daemon}
    (h : DaemonReachable p E d) : Reachable p d.world.core :=
  h.checkedReachable.reachable

/-- The policy invariant holds in every daemon state. -/
theorem DaemonReachable.policyDerived {p : Platform} {E : EngineModel} {d : Daemon}
    (h : DaemonReachable p E d) : PolicyDerived d.world.core.policy :=
  h.core_reachable.policyDerived

/-! ## What the checks keep -/

/-- The bounds of the request checks on a record. -/
structure RecordChecked (r : TorrentRecord) : Prop where
  hops : r.torrent.profile.hops ≤ 10
  priorities : ∀ f ∈ r.runtime.files, f.priority ∈ validPriorities

/-- The bounds of the request checks on the state. -/
structure StateChecked (s : OrcState) : Prop where
  records : s.torrents.Forall RecordChecked
  gracePeriod : s.killSwitch.gracePeriodSec ≤ 3600

/-- A record with the profile and the files' priorities of a checked one is checked. -/
theorem RecordChecked.of_choices {r r' : TorrentRecord} (hr : RecordChecked r)
    (hprofile : r'.torrent.profile = r.torrent.profile)
    (hfiles : r'.runtime.files.map (·.priority) = r.runtime.files.map (·.priority)) :
    RecordChecked r' := by
  refine ⟨hprofile ▸ hr.hops, fun f hf => ?_⟩
  have hmem : f.priority ∈ r.runtime.files.map (·.priority) := by
    rw [← hfiles]; exact List.mem_map_of_mem _ hf
  obtain ⟨g, hg, he⟩ := List.mem_map.mp hmem
  rw [← he]; exact hr.priorities g hg

theorem recordChecked_recordUpdate {op : Op} {r r' : TorrentRecord} (h : RecordUpdate op r r')
    (hop : op.Checked) (hr : RecordChecked r) : RecordChecked r' := by
  cases h with
  | setRunning _ running r => cases running <;> exact ⟨hr.hops, hr.priorities⟩
  | setProfile => exact ⟨hop, hr.priorities⟩
  | setFilePriority _ req r => exact ⟨hr.hops, setFilePriorityFiles_priority req hr.priorities hop⟩
  | _ => exact ⟨hr.hops, hr.priorities⟩

theorem recordChecked_addedRecord (p : Platform) (req : AddTorrentRequest)
    (d : ApiTorrentDetails) (rqbitId : Nat) (id : String) (addedAtMs now : Nat) :
    RecordChecked (addedRecord p req d rqbitId id addedAtMs now) := by
  refine ⟨Nat.zero_le _, fun f hf => ?_⟩
  obtain ⟨g, -, rfl⟩ := List.mem_map.mp hf
  show "normal" ∈ validPriorities; decide

theorem stateChecked_newState (downloadDir downloadDirPath : String) (startedAt nowMs : Nat) :
    StateChecked (newState downloadDir downloadDirPath startedAt nowMs) :=
  ⟨StrMap.forall_empty _, by show 10 ≤ 3600; decide⟩

theorem stateChecked_tick (env : TickEnv) {s : OrcState} (hs : StateChecked s) :
    StateChecked (tick env s) := by
  refine ⟨forall_tick env hs.records (fun id r hr => ?_) (fun r hr => ?_) fun id r hr => ?_, ?_⟩
  · obtain ⟨_, _, _, h⟩ := heartbeatRuntime_frame env.now (env.heartbeatNow id) r.runtime
    rw [h]; exact ⟨hr.hops, hr.priorities⟩
  · unfold killSwitchStop; split <;> exact ⟨hr.hops, hr.priorities⟩
  · exact hr.of_choices (statsRecord_choices ..).1 (statsRecord_choices ..).2
  · obtain ⟨_, _, h⟩ := tick_killSwitch env s
    rw [h]; exact hs.gracePeriod

/-- **One step of the core.** A checked operation keeps the bounds. -/
theorem stateChecked_step (p : Platform) {s : OrcState} (hs : StateChecked s) {op : Op}
    (hop : op.Checked) : StateChecked (step p s op) := by
  cases hreg : op.isRegistry
  · cases op with
    | patchKillSwitch req nowMs =>
      refine ⟨hs.records, ?_⟩
      show (patchKillSwitchConfig s.killSwitch req nowMs).gracePeriodSec ≤ 3600
      rw [patchKillSwitchConfig_gracePeriodSec]
      cases hg : req.gracePeriodSec with
      | none => exact hs.gracePeriod
      | some gp => exact hop gp hg
    | patchPolicy desired vpn nowMs => exact ⟨hs.records, hs.gracePeriod⟩
    | tick env => exact stateChecked_tick env hs
    | _ => cases hreg
  · obtain ⟨t, h⟩ := step_registry_torrents p s hreg
    refine ⟨forall_step_registry p hs.records hreg
      (fun _ _ hu hr => recordChecked_recordUpdate hu hop hr) (fun _ env r v _ _ _ hr => ?_)
      (recordChecked_addedRecord p), by rw [h]; exact hs.gracePeriod⟩
    obtain ⟨_, _, _, h⟩ := peersRuntime_frame p env v r.runtime
    rw [h]; exact ⟨hr.hops, hr.priorities⟩

theorem CheckedReachable.stateChecked {p : Platform} {s : OrcState} (hs : CheckedReachable p s) :
    StateChecked s :=
  hs.inv StateChecked stateChecked_newState fun _ _ hop h => stateChecked_step p h hop

/-- **What the request checks keep.** In every state the daemon reaches, under any
interleaving of its handlers and ticks, every torrent's profile has at most 10 hops, every
file's priority is one of `skip`, `low`, `normal`, `high`, and the kill switch's grace period
is at most 3600 seconds. -/
theorem DaemonReachable.requestsChecked {p : Platform} {E : EngineModel} {d : Daemon}
    (h : DaemonReachable p E d) :
    (∀ id r, d.world.core.torrents.get? id = some r →
      r.torrent.profile.hops ≤ 10 ∧ ∀ f ∈ r.runtime.files, f.priority ∈ validPriorities) ∧
      d.world.core.killSwitch.gracePeriodSec ≤ 3600 := by
  have hc := h.checkedReachable.stateChecked
  exact ⟨fun _ _ hr => ⟨(hc.records.get? hr).hops, (hc.records.get? hr).priorities⟩,
    hc.gracePeriod⟩

/-- The add of `hexMagnet`, then three requests on its record taken in turns: its file set to
`high`, its profile set to 3 hops, and a profile of 11 hops, which the checks refuse. -/
def checkedMoves : List Move :=
  .request (.addTorrent (magnetRequest hexMagnet)) :: List.replicate 5 (.step 0 (okInput uuidA)) ++
    [.request (.patchFilePriority uuidA ⟨[["file"]], "high"⟩),
      .request (.call (.patchProfile uuidA ⟨.anonymous, 3⟩)),
      .request (.call (.patchProfile uuidA ⟨.anonymous, 11⟩)),
      .step 1 (okInput uuidB), .step 2 (okInput uuidB), .step 3 (okInput uuidB),
      .step 1 (okInput uuidB), .step 2 (okInput uuidB), .step 1 (okInput uuidB)]

theorem requestsChecked_after_patches :
    ∃ d, Daemon.run Platform.constant oneTorrentEngine ⟨freshWorld, []⟩ checkedMoves = some d ∧
      (d.world.core.torrents.get? uuidA).map
        (fun r => (r.torrent.profile.hops, r.runtime.files.map (·.priority))) = some (3, ["high"]) ∧
      d.threads[3]?.bind Thread.reply? =
        some (.error 400 (.sanitized "Invalid profile request" "Hops value too large (max 10)")) ∧
      DaemonReachable Platform.constant oneTorrentEngine d ∧
      ((∀ id r, d.world.core.torrents.get? id = some r →
        r.torrent.profile.hops ≤ 10 ∧ ∀ f ∈ r.runtime.files, f.priority ∈ validPriorities) ∧
        d.world.core.killSwitch.gracePeriodSec ≤ 3600) :=
  have hrun : Daemon.run Platform.constant oneTorrentEngine ⟨freshWorld, []⟩ checkedMoves = some _ :=
    rfl
  have h : DaemonReachable Platform.constant oneTorrentEngine _ :=
    ⟨"/downloads", "/downloads", 0, 0, ⟨[], 0⟩, checkedMoves, hrun⟩
  ⟨_, hrun, by decide, by decide, h, h.requestsChecked⟩

/-- The core alone keeps none of these bounds: `set_profile` takes any number of hops. -/
example : ∃ s, Reachable Platform.constant s ∧
    (s.torrents.get? "t").map (·.torrent.profile.hops) = some 11 :=
  let add : Op := .integrateAddedTorrent ⟨none, none, none, none⟩
    ⟨some 0, ⟨"", none, "", none⟩⟩ "t" 0 0
  ⟨_, ((ReachableUnder.init "" "" 0 0).step add trivial).step (.setProfile "t" ⟨.standard, 11⟩)
    trivial, by decide⟩

end OrcTorrent
