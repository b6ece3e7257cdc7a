import OrcTorrent.System
import OrcTorrent.Bencode.InfoHash

/-! The handlers of `orc-daemon/src/main.rs` that call the engine, as threads over the
shared state. A handler waits at a program point (`AddPc`, `ActionPc`, `RefreshPc`,
`FilesPc`) before each of its atomic steps: one lock section (`ctx.state.lock().await`)
or one engine call (`api.api_...().await`), in the order of the handler's code; the checks
before the first of them are one step of their own. The engine is abstract: the torrents
it manages under its own ids (`Engine`), and an `EngineModel` of what an add input hashes
to. The scheduler answers every engine call and supplies the fresh UUID and the clock
readings of a lock section (`StepInput`). -/

namespace OrcTorrent

/-! ## Requests -/

/-- `validate_torrent_id`: a dashed UUID or 32 hex digits. A part's length in bytes is its
length in characters once its characters are hex digits. -/
def validateTorrentId (id : String) : Bool :=
  if id.utf8ByteSize = 36 then
    match splitBy (· == '-') id.data with
    | [a, b, c, d, e] =>
      [(a, 8), (b, 4), (c, 4), (d, 4), (e, 12)].all fun part =>
        part.1.length == part.2 && part.1.all isAsciiHexDigit
    | _ => false
  else if id.utf8ByteSize = 32 then id.data.all isAsciiHexDigit
  else false

/-- `AddTorrentRequest::validate`. -/
def AddTorrentRequest.validate (req : AddTorrentRequest) : Except String Unit := do
  if let some hint := req.nameHint then
    if hint.utf8ByteSize > 1000 then throw "Name hint too long (max 1000 chars)"
  if let some path := req.savePath then
    let trimmed := rustTrim path.data
    if trimmed.isEmpty then throw "save_path cannot be empty"
    if (String.mk trimmed).utf8ByteSize > 4096 then throw "save_path too long (max 4096 chars)"
    if trimmed.contains '\x00' then throw "save_path cannot contain null bytes"
  if req.magnet.isNone && req.torrentB64.isNone then
    throw "Must provide either magnet or torrent_b64"
  if req.magnet.isSome && req.torrentB64.isSome then
    throw "Cannot provide both magnet and torrent_b64"

inductive AddTorrentInput
  | url (u : String)
  | torrentBytes (bytes : List UInt8)
  deriving DecidableEq, Repr

def prepareAddInput (p : Platform) (req : AddTorrentRequest) : Except String AddTorrentInput :=
  match req.torrentB64, req.magnet with
  | some b64, _ =>
    if b64.utf8ByteSize > 13 * 1024 * 1024 then .error "Torrent file too large (max 10MB)"
    else match p.decodeBase64 b64 with
      | none => .error "Invalid base64 torrent"
      | some bytes =>
        if bytes.length > 10 * 1024 * 1024 then .error "Decoded torrent file too large (max 10MB)"
        else .ok (.torrentBytes bytes)
  | none, some m =>
    if m.utf8ByteSize > 8192 then .error "Magnet link too long"
    else if !"magnet:?".data.isPrefixOf m.data then .error "Invalid magnet link format"
    else .ok (.url m)
  | none, none => .error "Missing magnet or torrent_b64"

/-- The `info_hash_hex` of `h_add_torrent`, or the panic that ends its task. -/
def inputInfoHash (p : Platform) : AddTorrentInput → Except Panic (Option String)
  | .url u => .ok (extractInfoHashFromMagnet u)
  | .torrentBytes bytes => extractInfoHashFromTorrentBytes p.sha1Hex bytes

def validPriorities : List String := ["skip", "low", "normal", "high"]

/-- The checks of `PatchFilePriorityRequest::validate` on one path. -/
def pathError (path : List String) : Option String :=
  if path.length > 100 then some "Path depth too large (max 100 components)"
  else if path.any (fun c => c.utf8ByteSize > 255) then
    some "Path component too long (max 255 chars)"
  else none

def PatchFilePriorityRequest.validate (req : PatchFilePriorityRequest) : Except String Unit :=
  if req.paths.length > 10000 then .error "Too many paths (max 10000)"
  else if req.priority ∉ validPriorities then
    .error "Invalid priority: must be one of [\"skip\", \"low\", \"normal\", \"high\"]"
  else match req.paths.findSome? pathError with
    | some e => .error e
    | none => .ok ()

theorem PatchFilePriorityRequest.priority_of_validate {req : PatchFilePriorityRequest}
    (h : req.validate = .ok ()) : req.priority ∈ validPriorities := by
  unfold validate at h
  split at h
  · cases h
  · split at h
    · cases h
    · next hp => exact not_not.mp hp

structure PatchTorrentProfileRequest where
  mode : TorrentMode
  hops : Nat
  deriving DecidableEq, Repr

def PatchTorrentProfileRequest.validate (req : PatchTorrentProfileRequest) :
    Except String Unit :=
  if req.hops > 10 then .error "Hops value too large (max 10)" else .ok ()

theorem PatchTorrentProfileRequest.validate_eq_ok {req : PatchTorrentProfileRequest} :
    req.validate = .ok () ↔ req.hops ≤ 10 := by
  unfold validate; split <;> simp <;> omega

def PatchKillSwitchRequest.validate (req : PatchKillSwitchRequest) : Except String Unit :=
  match req.gracePeriodSec with
  | some gp => if gp > 3600 then .error "Grace period too large (max 3600 seconds)" else .ok ()
  | none => .ok ()

theorem PatchKillSwitchRequest.validate_eq_ok {req : PatchKillSwitchRequest} :
    req.validate = .ok () ↔ ∀ gp, req.gracePeriodSec = some gp → gp ≤ 3600 := by
  unfold validate
  split
  · next gp hgp => split <;> simp [hgp] <;> omega
  · next hgp => simp [hgp]

/-- `DesiredPolicy::validate`, which accepts every policy. -/
def DesiredPolicy.validate (_ : DesiredPolicy) : Except String Unit := .ok ()

/-! ## The engine -/

/-- A torrent the engine manages. -/
structure ManagedTorrent where
  infoHash : String
  outputFolder : String
  onlyFiles : Option (List Nat)
  paused : Bool
  deriving DecidableEq, Repr

/-- The engine's session: its torrents under their engine ids, and the next id. -/
structure Engine where
  torrents : List (Nat × ManagedTorrent)
  nextId : Nat
  deriving DecidableEq, Repr

/-- What the engine makes of its inputs: the info hash an add input resolves to (one hash
for one torrent, whatever the form of the input), the name and files of the torrent with
a hash, its default output folder, and its error for an id it does not manage. -/
structure EngineModel where
  infoHashOf : AddTorrentInput → String
  nameOf : String → Option String
  filesOf : String → Option (List ApiTorrentFile)
  defaultFolder : String
  notManaged : Nat → String

/-- The scheduler's answer to one engine call. -/
inductive EngineAnswer
  | ok
  | err (msg : String)
  deriving DecidableEq, Repr

inductive EngineAction
  | start
  | pause
  | forget
  | updateOnlyFiles (files : List Nat)
  deriving DecidableEq, Repr

namespace Engine

def manages (eng : Engine) (id : Nat) : Bool := eng.torrents.any (·.1 == id)

def findHash (eng : Engine) (h : String) : Option (Nat × ManagedTorrent) :=
  eng.torrents.find? (·.2.infoHash == h)

/-- `api_add_torrent` answered `ok`: a torrent the engine manages already gives its id
back (`AlreadyManaged`); another is added, running, under a fresh id. -/
def add (E : EngineModel) (eng : Engine) (input : AddTorrentInput)
    (outputFolder : Option String) : Engine × ApiAddTorrentResponse :=
  let h := E.infoHashOf input
  match eng.findHash h with
  | some (id, t) => (eng, ⟨some id, ⟨h, E.nameOf h, t.outputFolder, E.filesOf h⟩⟩)
  | none =>
    let folder := outputFolder.getD E.defaultFolder
    ({ torrents := eng.torrents ++ [(eng.nextId, ⟨h, folder, none, false⟩)]
       nextId := eng.nextId + 1 },
     ⟨some eng.nextId, ⟨h, E.nameOf h, folder, E.filesOf h⟩⟩)

def modify (eng : Engine) (id : Nat) (f : ManagedTorrent → ManagedTorrent) : Engine :=
  { eng with torrents := eng.torrents.map fun t => if t.1 = id then (t.1, f t.2) else t }

def act (eng : Engine) (id : Nat) : EngineAction → Engine
  | .start => eng.modify id fun t => { t with paused := false }
  | .pause => eng.modify id fun t => { t with paused := true }
  | .forget => { eng with torrents := eng.torrents.filter (·.1 != id) }
  | .updateOnlyFiles files => eng.modify id fun t => { t with onlyFiles := some files }

/-- An engine call on torrent `id`. It fails on an `err` answer or an id the engine does
not manage, and then changes nothing. -/
def call (E : EngineModel) (ans : EngineAnswer) (eng : Engine) (id : Nat) (a : EngineAction) :
    Engine × Except String Unit :=
  match ans with
  | .err msg => (eng, .error msg)
  | .ok => if eng.manages id then (eng.act id a, .ok ()) else (eng, .error (E.notManaged id))

end Engine

/-! ## Steps and replies -/

/-- What the scheduler supplies to one step: the engine's answer, if the step calls the
engine, and the fresh UUID and clock readings, if it reads them. -/
structure StepInput where
  answer : EngineAnswer
  uuid : String
  nowMs : Nat
  now : Nat
  deriving DecidableEq, Repr

/-- The text of an error body: a fixed message, or `sanitize_error(cause, context)`. -/
inductive ErrorText
  | fixed (msg : String)
  | sanitized (context cause : String)
  deriving DecidableEq, Repr

inductive Reply
  /-- `StatusCode::OK` with no body -/
  | ok
  /-- `StatusCode::OK` with `{"id": id}` -/
  | okId (id : String)
  /-- `StatusCode::OK` with the JSON of the core function's result -/
  | json
  /-- a bare status code -/
  | status (code : Nat)
  /-- a status code with `{"error": text}` -/
  | error (code : Nat) (text : ErrorText)
  /-- the handler's task panicked -/
  | aborted
  deriving DecidableEq, Repr

/-- The variables `sanitize_error` reads: `HOME`, `APPDATA`, `USERPROFILE`. -/
structure ProcessEnv where
  home : Option String
  appdata : Option String
  userprofile : Option String
  deriving DecidableEq, Repr

/-- `msg.lines().take(1).collect::<String>()`: the text before the first line feed, without
the carriage return of a `\r\n` ending. -/
def firstLine (msg : List Char) : List Char :=
  let line := msg.takeWhile (· ≠ '\n')
  if line.length < msg.length ∧ line.getLast? = some '\r' then line.dropLast else line

/-- `s.replace(pat, rep)` for a non-empty `pat`: every occurrence, left to right, without
overlaps. Each replacement consumes at least one character, so `fuel = |s|` is enough. -/
def replaceAllFuel (pat rep : List Char) : Nat → List Char → List Char
  | 0, s => s
  | _ + 1, [] => []
  | fuel + 1, c :: cs =>
    if pat.isPrefixOf (c :: cs) then rep ++ replaceAllFuel pat rep fuel ((c :: cs).drop pat.length)
    else c :: replaceAllFuel pat rep fuel cs

/-- The replacement of one variable's value, when it is set and not empty. -/
def redact (value : Option String) (marker : String) (s : List Char) : List Char :=
  match value with
  | some v => if v.isEmpty then s else replaceAllFuel v.data marker.data s.length s
  | none => s

/-- The first `n` bytes of a string, when byte `n` is a character boundary. -/
def takeBytes : List Char → Nat → Option (List Char)
  | _, 0 => some []
  | [], _ + 1 => none
  | c :: cs, n + 1 =>
    if c.utf8Size ≤ n + 1 then (takeBytes cs (n + 1 - c.utf8Size)).map (c :: ·) else none

/-- `sanitize_error`: the first line of the cause, with the values of `HOME`, `APPDATA`
and `USERPROFILE` redacted, replaced as a whole if it mentions a token or a secret, and
cut to 200 bytes (`&sanitized[..200]`, which panics inside a character). The context
only goes to the log. -/
def sanitizeError (p : Platform) (env : ProcessEnv) (cause : String) : Except Panic String :=
  let s := redact env.userprofile "[USERPROFILE]" (redact env.appdata "[APPDATA]"
    (redact env.home "[HOME]" (firstLine cause.data)))
  let lower := (p.toLowercase (String.mk s)).data
  let s := if (findSub "token".data lower).isSome || (findSub "secret".data lower).isSome
    then "An error occurred".data else s
  if (String.mk s).utf8ByteSize > 200 then
    match takeBytes s 200 with
    | some pre => .ok (String.mk pre ++ "...")
    | none => .error (.notCharBoundary 200)
  else .ok (String.mk s)

/-- The text of an error body as the handler sends it. -/
def ErrorText.render (p : Platform) (env : ProcessEnv) : ErrorText → Except Panic String
  | .fixed msg => .ok msg
  | .sanitized _ cause => sanitizeError p env cause

/-- The registry and the engine. -/
structure World where
  core : OrcState
  engine : Engine

/-- The gate of `h_start`, `h_recheck` and `h_announce`. -/
def networkBlocked (s : OrcState) : Bool :=
  s.killSwitch.enabled && !s.policy.effective.networkAllowed

def invalidIdReply : Reply := .error 400 (.fixed "Invalid torrent ID format")

def blockedReply : Reply :=
  .error 403 (.fixed
    "Network blocked: VPN kill switch is engaged. Please connect to VPN to resume torrents.")

/-! ## `h_add_torrent` -/

inductive AddPc
  | begin
  | find (input : AddTorrentInput) (hash : String)
  | existingApi (id : String) (running : Bool)
  | existingRqbitId (id : String) (running : Bool)
  | existingStart (id : String) (rqbitId : Nat)
  | existingMark (id : String)
  | newApi (input : AddTorrentInput) (hash : Option String)
  | add (input : AddTorrentInput) (outputFolder : Option String)
  | retry (input : AddTorrentInput) (outputFolder : Option String)
  | integrate (resp : ApiAddTorrentResponse)
  | done (reply : Reply)
  deriving DecidableEq, Repr

/-- The checks before the first lock section. -/
def addBegin (p : Platform) (req : AddTorrentRequest) : AddPc :=
  match req.validate with
  | .error e => .done (.error 400 (.sanitized "Invalid add torrent request" e))
  | .ok () => match prepareAddInput p req with
    | .error e => .done (.error 400 (.sanitized "Failed to prepare torrent input" e))
    | .ok input => match inputInfoHash p input with
      | .error _ => .done .aborted
      | .ok (some hash) => .find input hash
      | .ok none => .newApi input none

/-- `default_download_path.join(h)` on Unix. -/
def joinPath (base part : String) : String :=
  if base.isEmpty || base.data.getLast? == some '/' then base ++ part else base ++ "/" ++ part

/-- `opts.output_folder`: the trimmed `save_path`, else the default download path joined
with the info hash. -/
def addOutputFolder (req : AddTorrentRequest) (downloadDirPath : String)
    (hash : Option String) : Option String :=
  ((req.savePath.map fun s => rustTrim s.data).bind fun t =>
      if t.isEmpty then none else some (String.mk t)).orElse
    fun _ => hash.map (joinPath downloadDirPath)

def fileExistsPatterns : List String :=
  ["file exists", "already exists", "the file exists",
    "cannot create a file when that file already exists", "eexist", "file already exists"]

def isFileExistsError (p : Platform) (msg : String) : Bool :=
  fileExistsPatterns.any fun pat => (findSub pat.data (p.toLowercase msg).data).isSome

/-- A successful `api_add_torrent`. -/
def addedStep (E : EngineModel) (w : World) (input : AddTorrentInput)
    (outputFolder : Option String) : World × AddPc :=
  let r := w.engine.add E input outputFolder
  ({ w with engine := r.1 }, .integrate r.2)

def addStep (p : Platform) (E : EngineModel) (inp : StepInput) (req : AddTorrentRequest)
    (w : World) : AddPc → World × AddPc
  | .begin => (w, addBegin p req)
  | .find input hash => (w, match findTorrentByInfoHash w.core hash with
      | some (id, _, running) => .existingApi id running
      | none => .newApi input (some hash))
  | .existingApi id running => (w, .existingRqbitId id running)
  | .existingRqbitId id running => (w, match rqbitIdFor w.core id with
      | some rqbitId => if running then .done (.okId id) else .existingStart id rqbitId
      | none => .done (.okId id))
  | .existingStart id rqbitId =>
    let r := w.engine.call E inp.answer rqbitId .start
    ({ w with engine := r.1 }, match r.2 with
      | .ok () => .existingMark id
      | .error _ => .done (.okId id))
  | .existingMark id =>
    ({ w with core := orKeep w.core (setRunning w.core id true) }, .done (.okId id))
  | .newApi input hash => (w, .add input (addOutputFolder req w.core.downloadDirPath hash))
  | .add input folder => match inp.answer with
    | .ok => addedStep E w input folder
    | .err msg => (w, if isFileExistsError p msg then .retry input folder
        else .done (.error 400 (.sanitized "Failed to add torrent" msg)))
  | .retry input folder => match inp.answer with
    | .ok => addedStep E w input folder
    | .err msg => (w, .done (.error 400 (.sanitized "Failed to add torrent (retry failed)" msg)))
  | .integrate resp =>
    match integrateAddedTorrent p w.core req resp inp.uuid inp.nowMs inp.now with
    | .ok (core, id) => ({ w with core := core }, .done (.okId id))
    | .error e => (w, .done (.error 500 (.sanitized "Failed to integrate torrent" e)))
  | .done reply => (w, .done reply)

/-! ## `h_start`, `h_stop`, `h_remove` -/

/-- A handler that checks the id, refuses while the kill switch blocks the network (if
`gated`), reads the engine id, makes one engine call, then applies one core operation. -/
structure ActionHandler where
  gated : Bool
  action : EngineAction
  context : String
  after : String → Op

def hStart : ActionHandler :=
  ⟨true, .start, "Failed to start torrent", fun id => .setRunning id true⟩

def hStop : ActionHandler :=
  ⟨false, .pause, "Failed to stop torrent", fun id => .setRunning id false⟩

def hRemove : ActionHandler := ⟨false, .forget, "Failed to remove torrent", .removeTorrent⟩

inductive ActionPc
  | begin
  | gate
  | lookup
  | call (rqbitId : Nat)
  | finish
  | done (reply : Reply)
  deriving DecidableEq, Repr

def actionStep (p : Platform) (h : ActionHandler) (E : EngineModel) (inp : StepInput)
    (id : String) (w : World) : ActionPc → World × ActionPc
  | .begin =>
    (w, if !validateTorrentId id then .done invalidIdReply else if h.gated then .gate else .lookup)
  | .gate => (w, if networkBlocked w.core then .done blockedReply else .lookup)
  | .lookup => (w, match rqbitIdFor w.core id with
      | some rqbitId => .call rqbitId
      | none => .done (.status 404))
  | .call rqbitId =>
    let r := w.engine.call E inp.answer rqbitId h.action
    ({ w with engine := r.1 }, match r.2 with
      | .ok () => .finish
      | .error e => .done (.error 400 (.sanitized h.context e)))
  | .finish => ({ w with core := step p w.core (h.after id) }, .done .ok)
  | .done reply => (w, .done reply)

/-! ## `h_recheck`, `h_announce` -/

/-- A handler that checks the id, refuses while the kill switch blocks the network, reads
the engine id, marks the record by one core operation, then pauses and starts the engine's
torrent, ignoring both results. -/
structure RefreshHandler where
  mark : String → StepInput → Op

def hRecheck : RefreshHandler := ⟨fun id inp => .forceChecking id inp.now⟩

def hAnnounce : RefreshHandler := ⟨fun id inp => .markAnnounce id inp.nowMs⟩

inductive RefreshPc
  | begin
  | gate
  | lookup
  | mark (rqbitId : Nat)
  | pause (rqbitId : Nat)
  | start (rqbitId : Nat)
  | done (reply : Reply)
  deriving DecidableEq, Repr

def refreshStep (p : Platform) (h : RefreshHandler) (E : EngineModel) (inp : StepInput)
    (id : String) (w : World) : RefreshPc → World × RefreshPc
  | .begin => (w, if !validateTorrentId id then .done invalidIdReply else .gate)
  | .gate => (w, if networkBlocked w.core then .done blockedReply else .lookup)
  | .lookup => (w, match rqbitIdFor w.core id with
      | some rqbitId => .mark rqbitId
      | none => .done (.status 404))
  | .mark rqbitId => ({ w with core := step p w.core (h.mark id inp) }, .pause rqbitId)
  | .pause rqbitId =>
    ({ w with engine := (w.engine.call E inp.answer rqbitId .pause).1 }, .start rqbitId)
  | .start rqbitId =>
    ({ w with engine := (w.engine.call E inp.answer rqbitId .start).1 }, .done .ok)
  | .done reply => (w, .done reply)

/-! ## `h_patch_file_priority` -/

inductive FilesPc
  | begin
  | setPriority
  | update (rqbitId : Nat) (onlyFiles : List Nat)
  | done (reply : Reply)
  deriving DecidableEq, Repr

def filesStep (E : EngineModel) (inp : StepInput) (id : String) (req : PatchFilePriorityRequest)
    (w : World) : FilesPc → World × FilesPc
  | .begin => (w, if !validateTorrentId id then .done invalidIdReply else
      match req.validate with
      | .error e => .done (.error 400 (.sanitized "Invalid file priority request" e))
      | .ok () => .setPriority)
  | .setPriority => match setFilePriority w.core id req with
    | .error _ => (w, .done (.status 404))
    | .ok core => ({ w with core := core }, match rqbitIdFor core id, onlyFilesFor core id with
      | some rqbitId, some files => .update rqbitId files
      | _, _ => .done .ok)
  | .update rqbitId files =>
    let r := w.engine.call E inp.answer rqbitId (.updateOnlyFiles files)
    ({ w with engine := r.1 }, match r.2 with
      | .ok () => .done .ok
      | .error e => .done (.error 400 (.sanitized "Failed to update file priority" e)))
  | .done reply => (w, .done reply)

/-! ## `h_patch_profile`, `h_peers`, `h_trackers`, `h_patch_policy`, `h_patch_kill_switch` -/

/-- A handler whose work after its request checks is one lock section, with the readings
that section takes. -/
inductive Call
  | patchProfile (id : String) (req : PatchTorrentProfileRequest)
  | peers (id : String) (env : PeersEnv)
  | trackers (id : String)
  | patchPolicy (desired : DesiredPolicy) (vpnConnected : Bool) (nowMs : Nat)
  | patchKillSwitch (req : PatchKillSwitchRequest) (nowMs : Nat)

namespace Call

/-- The reply of the request checks, when they refuse. -/
def refusal : Call → Option Reply
  | .patchProfile id req =>
    if !validateTorrentId id then some invalidIdReply
    else match req.validate with
      | .error e => some (.error 400 (.sanitized "Invalid profile request" e))
      | .ok () => none
  | .peers id _ | .trackers id => if !validateTorrentId id then some invalidIdReply else none
  | .patchPolicy desired _ _ => match desired.validate with
    | .error e => some (.error 400 (.sanitized "Invalid policy request" e))
    | .ok () => none
  | .patchKillSwitch req _ => match req.validate with
    | .error e => some (.error 400 (.sanitized "Invalid kill switch request" e))
    | .ok () => none

/-- `match f(&mut guard, ..) { Ok(x) => (OK, Json(x)), Err(_) => NOT_FOUND }`. -/
def found {β : Type} (s : OrcState) : Except String (OrcState × β) → OrcState × Reply
  | .ok (s', _) => (s', .json)
  | .error _ => (s, .status 404)

/-- The lock section: the core function on the locked state, and the reply. -/
def lockSection (p : Platform) (s : OrcState) : Call → OrcState × Reply
  | .patchProfile id req => found s (setProfile s id ⟨req.mode, req.hops⟩)
  | .peers id env => found s (peersFor p s id env)
  | .trackers id => found s (trackersFor s id)
  | .patchPolicy desired vpnConnected nowMs =>
    ((OrcTorrent.patchPolicy s desired vpnConnected nowMs).1, .json)
  | .patchKillSwitch req nowMs => ((OrcTorrent.patchKillSwitch s req nowMs).1, .json)

/-- The core operation of the lock section. -/
def op : Call → Op
  | .patchProfile id req => .setProfile id ⟨req.mode, req.hops⟩
  | .peers id env => .peersFor id env
  | .trackers id => .trackersFor id
  | .patchPolicy desired vpnConnected nowMs => .patchPolicy desired vpnConnected nowMs
  | .patchKillSwitch req nowMs => .patchKillSwitch req nowMs

theorem found_state {β : Type} (s : OrcState) (r : Except String (OrcState × β)) :
    (found s r).1 = orKeep s (r.map Prod.fst) := by
  rcases r with _ | ⟨s', b⟩ <;> rfl

/-- The lock section changes the state as its core operation does. -/
theorem lockSection_state (p : Platform) (s : OrcState) (c : Call) :
    (c.lockSection p s).1 = step p s c.op := by
  cases c <;> first | rfl | exact found_state s _

end Call

inductive CallPc
  | begin
  | lock
  | done (reply : Reply)
  deriving DecidableEq, Repr

def callStep (p : Platform) (c : Call) (w : World) : CallPc → World × CallPc
  | .begin => (w, match c.refusal with
      | some reply => .done reply
      | none => .lock)
  | .lock =>
    let r := c.lockSection p w.core
    ({ w with core := r.1 }, .done r.2)
  | .done reply => (w, .done reply)

/-! ## Threads -/

inductive Thread
  | addTorrent (req : AddTorrentRequest) (pc : AddPc)
  | action (h : ActionHandler) (id : String) (pc : ActionPc)
  | refresh (h : RefreshHandler) (id : String) (pc : RefreshPc)
  | patchFilePriority (id : String) (req : PatchFilePriorityRequest) (pc : FilesPc)
  | call (c : Call) (pc : CallPc)

namespace Thread

def step (p : Platform) (E : EngineModel) (inp : StepInput) (w : World) : Thread → World × Thread
  | .addTorrent req pc => (addStep p E inp req w pc).map id (.addTorrent req)
  | .action h tid pc => (actionStep p h E inp tid w pc).map id (.action h tid)
  | .refresh h tid pc => (refreshStep p h E inp tid w pc).map id (.refresh h tid)
  | .patchFilePriority tid req pc => (filesStep E inp tid req w pc).map id (.patchFilePriority tid req)
  | .call c pc => (callStep p c w pc).map id (.call c)

/-- The reply of a finished thread. -/
def reply? : Thread → Option Reply
  | .addTorrent _ (.done r) | .action _ _ (.done r) | .refresh _ _ (.done r)
  | .patchFilePriority _ _ (.done r) | .call _ (.done r) => some r
  | _ => none

/-- A thread run alone, one step per input. -/
def run (p : Platform) (E : EngineModel) : List StepInput → World → Thread → World × Thread
  | [], w, t => (w, t)
  | inp :: inps, w, t => run p E inps (t.step p E inp w).1 (t.step p E inp w).2

theorem step_of_reply {p : Platform} {E : EngineModel} {t : Thread} {r : Reply}
    (h : t.reply? = some r) (inp : StepInput) (w : World) : t.step p E inp w = (w, t) := by
  rcases t with ⟨_, _ | _⟩ | ⟨_, _, _ | _⟩ | ⟨_, _, _ | _⟩ | ⟨_, _, _ | _⟩ | ⟨_, _ | _⟩ <;>
    first | rfl | cases h

theorem run_of_reply {p : Platform} {E : EngineModel} {t : Thread} {r : Reply}
    (h : t.reply? = some r) (inps : List StepInput) (w : World) : t.run p E inps w = (w, t) := by
  induction inps with
  | nil => rfl
  | cons inp inps ih => rw [run, step_of_reply h]; exact ih

@[simp] theorem run_addTorrent_done (p : Platform) (E : EngineModel) (inps : List StepInput)
    (w : World) (req : AddTorrentRequest) (r : Reply) :
    (Thread.addTorrent req (.done r)).run p E inps w = (w, .addTorrent req (.done r)) := by
  apply run_of_reply
  rfl

@[simp] theorem run_action_done (p : Platform) (E : EngineModel) (inps : List StepInput)
    (w : World) (h : ActionHandler) (id : String) (r : Reply) :
    (Thread.action h id (.done r)).run p E inps w = (w, .action h id (.done r)) := by
  apply run_of_reply
  rfl

@[simp] theorem run_refresh_done (p : Platform) (E : EngineModel) (inps : List StepInput)
    (w : World) (h : RefreshHandler) (id : String) (r : Reply) :
    (Thread.refresh h id (.done r)).run p E inps w = (w, .refresh h id (.done r)) := by
  apply run_of_reply
  rfl

theorem run_append (p : Platform) (E : EngineModel) (inps inps' : List StepInput) (w : World)
    (t : Thread) : t.run p E (inps ++ inps') w = (t.run p E inps w).2.run p E inps' (t.run p E inps w).1 := by
  induction inps generalizing w t with
  | nil => rfl
  | cons inp inps ih => exact ih _ _

end Thread

end OrcTorrent
