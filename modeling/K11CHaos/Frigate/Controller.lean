import Mathlib.Data.List.Sort
import K11CHaos.Lib.Prog
import K11CHaos.Lib.Sha256

/-!
# Native preparation of Frigate

The controller that prepares the Frigate Full Access App (`frigate-native/controller.py`). `reconcile`
is a program over the requests it sends to the Docker API, the clock, its own output and its state:
the dictionary `state` that it changes in place and the file that `save_state` replaces. Every
question may be answered by an exception, or by the `SystemExit` of the signal handler, which
`except Exception` does not catch but `finally` sees.

What the standard library decodes (JSON texts, base64, tar members) is a parameter, `Decoders`;
responses are raw. A request is named by its method and path, `/containers/<id>/archive?path=<path>`
for one; quoting of the path is left out.
-/

namespace K11CHaos.Frigate

/-- A decoded JSON value. Of a float only matters whether it is zero. -/
inductive Value where
  | null
  | bool (b : Bool)
  | int (n : Int)
  | float (zero : Bool)
  | str (s : String)
  | list (xs : List Value)
  | dict (fs : List (String × Value))

/-- What an operation raises: an exception with its message, or `SystemExit`. -/
inductive Raised where
  | exception (message : String)
  | exit
deriving DecidableEq

namespace Value

/-- `bool(v)`. -/
def truthy : Value → Bool
  | null => false
  | bool b => b
  | int n => n != 0
  | float zero => !zero
  | str s => s != ""
  | list xs => !xs.isEmpty
  | dict fs => !fs.isEmpty

/-- `v == 0`. -/
def isZero : Value → Bool
  | bool b => !b
  | int n => n == 0
  | float zero => zero
  | _ => false

/-- `v == s`. -/
def isStr (v : Value) (s : String) : Bool :=
  match v with
  | str t => t == s
  | _ => false

/-- `v[k]`. -/
def item (v : Value) (k : String) : Except Raised Value :=
  match v with
  | dict fs =>
    match fs.lookup k with
    | some x => .ok x
    | none => .error (.exception ("KeyError " ++ k))
  | _ => .error (.exception "TypeError")

/-- `v.get(k, default)`. -/
def get (v : Value) (k : String) (default : Value) : Except Raised Value :=
  match v with
  | dict fs => .ok ((fs.lookup k).getD default)
  | _ => .error (.exception "AttributeError")

/-- The string that `v + ':'` and a regular expression ask for. -/
def asStr : Value → Except Raised String
  | str s => .ok s
  | _ => .error (.exception "TypeError")

/-- `v.startswith(p)`. -/
def startsWith (v : Value) (p : String) : Except Raised Bool :=
  match v with
  | str s => .ok (p.toList.isPrefixOf s.toList)
  | _ => .error (.exception "AttributeError")

/-- `s in v` for `v = d.get(k) or []`. -/
def contains (v : Value) (s : String) : Except Raised Bool :=
  if v.truthy then
    match v with
    | list xs => .ok (xs.any (·.isStr s))
    | dict fs => .ok (fs.any (·.1 == s))
    | str t => .ok (decide (s.toList <:+: t.toList))
    | _ => .error (.exception "TypeError")
  else .ok false

/-- The bit `i` of an integer value, as `v & (1 << i)` reads it. -/
def bit (v : Value) (i : Nat) : Except Raised Bool :=
  match v with
  | int n => .ok (n / 2 ^ i % 2 == 1)
  | bool b => .ok (b && i == 0)
  | _ => .error (.exception "TypeError")

/-- `v & 0o111 == 0o111`. -/
def executes (v : Value) : Except Raised Bool := do
  let other ← v.bit 0
  let group ← v.bit 3
  let owner ← v.bit 6
  return other && group && owner

end Value

/-- A member of a tar archive. -/
structure Member where
  isfile : Bool
  data : Bytes
deriving DecidableEq

/-- The decoders of the standard library, and `'%s' % v` for values that are no strings. -/
structure Decoders where
  loads : Bytes → Except Raised Value
  b64decode : String → Except Raised Bytes
  getmembers : Bytes → Except Raised (List Member)
  decode : Bytes → String
  format : Value → String

/-- `'%s' % v`. -/
def Decoders.show (c : Decoders) : Value → String
  | .str s => s
  | v => c.format v

/-- The status, the headers and the body of a response. -/
structure Response where
  status : Nat
  headers : List (String × String)
  data : Bytes
deriving DecidableEq

/-- Files by their path, in the order of the dictionary. -/
abbrev Files :=
  List (String × Bytes)

/-- An entry of the archive that `put` sends. -/
inductive Entry where
  | directory (name : String) (mode : Nat)
  | file (name : String) (mode : Nat) (data : Bytes)
deriving DecidableEq

/-- What the state says of a container and a payload. -/
inductive Mark where
  | preparing
  | ready
  | failed
deriving DecidableEq

/-- The questions of the controller. -/
inductive Op where
  | create (name : String) (config : Value)
  | start (cid : String)
  | stop (cid : String)
  | inspect (cid : String)
  | logs (cid : String)
  | delete (cid : String)
  | archiveGet (cid path : String)
  | archiveHead (cid path : String)
  | archivePut (cid : String) (files : Files) (entries : List Entry)
  | uuid
  | monotonic
  | sleep
  | print (line : String)
  | has (key : String)
  | set (key : String) (mark : Mark)
  | pop (key : String)
  | save

/-- What a question is answered with, when it does not raise. Clock readings are in nanoseconds. -/
def Reply : Op → Type
  | .uuid => String
  | .monotonic => Nat
  | .has _ => Bool
  | .sleep | .print _ | .set _ _ | .pop _ | .save => Unit
  | _ => Response

/-- Programs of the controller. -/
abbrev Ctl (α : Type) :=
  Prog Op (fun o => Except Raised (Reply o)) Raised α

/-- A question that may raise. -/
def ask (o : Op) : Ctl (Reply o) :=
  Prog.call o

/-- A question with its answer. -/
abbrev Event :=
  Prog.Ev Op (fun o => Except Raised (Reply o))

/-- `require`. -/
def require (ok : Bool) (message : String) : Ctl Unit :=
  if ok then pure () else throw (.exception message)

/-- `digest`. -/
def digest (data : Bytes) : String :=
  hashBytes data

/-- `PREFIX`. -/
def nativePrefix : String :=
  "/opt/k11c-native/"

/-- `MANIFEST`. -/
def manifest : String :=
  nativePrefix ++ "manifest.json"

/-- `FFMPEG_PREFIX`. -/
def ffmpegPrefix : String :=
  "/config/k11c-ffmpeg-vpu-r1/"

/-- `executable`. -/
def executable (path : String) : Bool :=
  ["bin/ffmpeg", "bin/ffprobe", "libexec/ffmpeg", "libexec/ffprobe"].any
    fun name => path == ffmpegPrefix ++ name

/-! ## Requests -/

/-- `require` on decoded values. -/
def check (ok : Bool) (message : String) : Except Raised Unit :=
  if ok then .ok () else .error (.exception message)

/-- `Docker.call`, after the request: a status of 2xx, and the decoded body. -/
def accept (c : Decoders) (r : Response) (what : String) : Except Raised Value := do
  check (decide (200 ≤ r.status ∧ r.status < 300)) ("Docker operation failed: " ++ what)
  if r.data.isEmpty then return .null else c.loads r.data

/-- `POST /containers/create`. -/
def create (c : Decoders) (name : String) (config : Value) : Ctl Value := do
  let r : Response ← ask (.create name config)
  .ofExcept (accept c r "POST /containers/create")

/-- `POST /containers/<cid>/start`. -/
def start (c : Decoders) (cid : String) : Ctl Value := do
  let r : Response ← ask (.start cid)
  .ofExcept (accept c r ("POST /containers/" ++ cid ++ "/start"))

/-- `POST /containers/<cid>/stop?t=30`. -/
def stop (c : Decoders) (cid : String) : Ctl Value := do
  let r : Response ← ask (.stop cid)
  .ofExcept (accept c r ("POST /containers/" ++ cid ++ "/stop"))

/-- `GET /containers/<cid>/json`. -/
def inspect (c : Decoders) (cid : String) : Ctl Value := do
  let r : Response ← ask (.inspect cid)
  .ofExcept (accept c r ("GET /containers/" ++ cid ++ "/json"))

/-- `DELETE /containers/<cid>?force=1`. -/
def delete (c : Decoders) (cid : String) : Ctl Value := do
  let r : Response ← ask (.delete cid)
  .ofExcept (accept c r ("DELETE /containers/" ++ cid))

/-- The header that describes a path, decoded. -/
def pathStatHeader (c : Decoders) (headers : List (String × String)) : Except Raised Value :=
  match headers.find? (fun h => h.1.toLower == "x-docker-container-path-stat") with
  | none => .error (.exception "StopIteration")
  | some h => c.b64decode h.2 >>= c.loads

/-- The file of an archive response: one regular member. -/
def regular (c : Decoders) (data : Bytes) : Except Raised Bytes := do
  match ← c.getmembers data with
  | [m] =>
    if m.isfile then return m.data
    else throw (.exception "Expected a regular preparation file")
  | _ => throw (.exception "Expected a regular preparation file")

/-- The body of `read_file` after the request. -/
def fileOf (c : Decoders) (r : Response) : Except Raised (Option Bytes) :=
  if r.status = 404 then .ok none
  else if r.status ≠ 200 then .error (.exception "Cannot read preparation path")
  else do
    let stat ← pathStatHeader c r.headers
    let link ← stat.get "linkTarget" .null
    if link.truthy then throw (.exception "Refusing symlink preparation target")
    else return some (← regular c r.data)

/-- `Docker.read_file`. -/
def readFile (c : Decoders) (cid path : String) : Ctl (Option Bytes) := do
  let r : Response ← ask (.archiveGet cid path)
  .ofExcept (fileOf c r)

/-- The body of `path_stat` after the request. -/
def statOf (c : Decoders) (r : Response) : Except Raised (Option Value) :=
  if r.status = 404 then .ok none
  else if r.status ≠ 200 then .error (.exception "Cannot inspect preparation path")
  else some <$> pathStatHeader c r.headers

/-- `Docker.path_stat`. -/
def pathStat (c : Decoders) (cid path : String) : Ctl (Option Value) := do
  let r : Response ← ask (.archiveHead cid path)
  .ofExcept (statOf c r)

/-- `Path(path).parents` as names without the leading slash, the outermost first. -/
def parents (path : String) : List String :=
  let parts := (path.splitOn "/").filter fun p => p != "" && p != "."
  (List.range parts.length).map fun n => "/".intercalate (parts.take n)

/-- A directory that belongs to the preparation. -/
def owned (name : String) : Bool :=
  ["opt/k11c-native", "config/k11c-ffmpeg-vpu-r1"].any fun dir =>
    name == dir || (dir ++ "/").toList.isPrefixOf name.toList

/-- The archive of `put`: the files by path, each after the owned directories not yet listed. -/
def entriesFrom (seen : List String) : Files → List Entry
  | [] => []
  | (path, data) :: files =>
    let fresh := (parents path).filter fun name => owned name && !seen.contains name
    fresh.map (fun name => .directory name 0o755) ++
      .file (String.ofList (path.toList.dropWhile (· == '/')))
        (if executable path then 0o755 else 0o644) data ::
      entriesFrom (seen ++ fresh) files

/-- The archive of `put`. -/
def entries (files : Files) : List Entry :=
  entriesFrom [] (files.mergeSort fun a b => decide (a.1 ≤ b.1))

/-- `Docker.put`. -/
def putFiles (cid : String) (files : Files) : Ctl Unit := do
  let r : Response ← ask (.archivePut cid files (entries files))
  require (r.status == 200) "Docker preparation copy failed"

/-! ## Checks of the target -/

/-- `re.fullmatch('[a-z0-9]+_frigate-fa', slug)`. -/
def validSlug (slug : String) : Bool :=
  let cs := slug.toList
  let n := cs.length - 11
  0 < n && cs.drop n == "_frigate-fa".toList &&
    (cs.take n).all fun c => ('a' ≤ c && c ≤ 'z') || ('0' ≤ c && c ≤ '9')

/-- White space of a regular expression. -/
def space (c : Char) : Bool :=
  let n := c.toNat
  (9 ≤ n && n ≤ 13) || (28 ≤ n && n ≤ 32) || (0x2000 ≤ n && n ≤ 0x200a) ||
    [0x85, 0xa0, 0x1680, 0x2028, 0x2029, 0x202f, 0x205f, 0x3000].contains n

/-- A tag `:[^/@\s]+` or a digest `@sha256:[a-f0-9]{64}`. -/
def validReference : List Char → Bool
  | ':' :: tag => !tag.isEmpty && tag.all fun c => c != '/' && c != '@' && !space c
  | cs => cs.take 8 == "@sha256:".toList && (cs.drop 8).length == 64 &&
      (cs.drop 8).all fun c => ('a' ≤ c && c ≤ 'f') || ('0' ≤ c && c ≤ '9')

/-- The image of the official App. The dot of `ghcr.io` stands for any character of a line. -/
def validImage (image : String) : Bool :=
  let cs := image.toList
  cs.take 4 == "ghcr".toList && (cs.drop 4).head? != none && (cs.drop 4).head? != some '\n' &&
    (cs.drop 5).take 26 == "io/blakeblackshear/frigate".toList && validReference (cs.drop 31)

/-- `validate_target`. -/
def validateTarget (info : Value) (slug : String) : Except Raised Unit := do
  check (validSlug slug) "Select the official Frigate Full Access App slug"
  let name ← info.item "Name"
  check (name.isStr ("/app_" ++ slug) || name.isStr ("/addon_" ++ slug))
    "Unexpected target container name"
  let config ← info.item "Config"
  let image ← config.item "Image" >>= Value.asStr
  check (validImage image) "Target is not the official Frigate image"
  let host ← info.item "HostConfig"
  let rules ← host.get "DeviceCgroupRules" .null
  let rule ← rules.contains "a *:* rwm"
  let privileged ← host.get "Privileged" .null
  check (rule || privileged.truthy) "Frigate Full Access protection must be disabled"

/-- The FFmpeg directories of a payload. The set has no order among names of one length. -/
def directories (files : Files) : List String :=
  let all := (files.filter fun f => ffmpegPrefix.toList.isPrefixOf f.1.toList).flatMap fun f =>
    ((parents f.1).map ("/" ++ ·)).filter fun d =>
      "/config/k11c-ffmpeg-vpu-r1".toList.isPrefixOf d.toList
  all.eraseDups.insertionSort fun a b => a.length ≤ b.length

/-- A directory that is no link, or nothing. -/
def directoryOk : Option Value → Except Raised Bool
  | none => .ok true
  | some stat => do
    let link ← stat.get "linkTarget" .null
    if link.truthy then return false
    else
      let mode ← stat.item "mode"
      mode.bit 31

/-- The directories of `check_collisions`. -/
def checkDirectories (c : Decoders) (cid : String) : List String → Ctl Unit
  | [] => pure ()
  | path :: paths => do
    let stat ← pathStat c cid path
    let ok ← .ofExcept (directoryOk stat)
    require ok ("Expected a non-symlink FFmpeg directory: " ++ path)
    checkDirectories c cid paths

/-- `json.loads(previous_bytes) if previous_bytes else {}`. -/
def previousOf (c : Decoders) : Option Bytes → Except Raised Value
  | none => .ok (.dict [])
  | some b => if b.isEmpty then .ok (.dict []) else c.loads b

/-- A file that is absent, the same or the one of an earlier payload. -/
def replaceable (previous : Value) (path : String) (data : Bytes) :
    Option Bytes → Except Raised Bool
  | none => .ok true
  | some existing =>
    if existing = data then .ok true
    else do
      let hash ← previous.get path .null
      return hash.isStr (digest existing)

/-- The mode of a description is executable. -/
def modeOk : Option Value → Except Raised Bool
  | none => .ok false
  | some stat => stat.item "mode" >>= Value.executes

/-- The mode of a file that is already there. -/
def checkMode (c : Decoders) (cid path : String) (existing : Option Bytes) : Ctl Bool :=
  if existing.isSome && executable path then do
    let stat ← pathStat c cid path
    .ofExcept (modeOk stat)
  else pure true

/-- The files of `check_collisions` that have to be copied. -/
def pendingFiles (c : Decoders) (cid : String) (previous : Value) : Files → Ctl Files
  | [] => pure []
  | (path, data) :: files =>
    if path = manifest then pendingFiles c cid previous files
    else do
      let existing ← readFile c cid path
      let ok ← .ofExcept (replaceable previous path data existing)
      require ok ("Existing non-owned/modified file: " ++ path)
      let mode ← checkMode c cid path existing
      let pending ← pendingFiles c cid previous files
      pure (if existing ≠ some data ∨ mode = false then (path, data) :: pending else pending)

/-- `files[path]`. -/
def fileAt (files : Files) (path : String) : Except Raised Bytes :=
  match files.lookup path with
  | some data => .ok data
  | none => .error (.exception ("KeyError " ++ path))

/-- `check_collisions`. -/
def checkCollisions (c : Decoders) (cid : String) (files : Files) : Ctl Files := do
  checkDirectories c cid (directories files)
  let previousBytes ← readFile c cid manifest
  let previous ← .ofExcept (previousOf c previousBytes)
  let pending ← pendingFiles c cid previous files
  let data ← .ofExcept (fileAt files manifest)
  pure (if previousBytes ≠ some data then pending ++ [(manifest, data)] else pending)

/-- The FFmpeg files of a payload. -/
def ffmpegCount (files : Files) : Nat :=
  (files.filter fun f => ffmpegPrefix.toList.isPrefixOf f.1.toList).length

/-- `print`. -/
def print (line : String) : Ctl Unit :=
  ask (.print line)

/-- `report_ffmpeg`. -/
def reportFfmpeg (files pending : Files) : Ctl Unit :=
  if ffmpegCount files = 0 then pure ()
  else print ("K11C_FFMPEG_READY path=/config/k11c-ffmpeg-vpu-r1 copied=" ++
    toString (ffmpegCount pending) ++ " reused=" ++
    toString (ffmpegCount files - ffmpegCount pending))

/-! ## The isolated probe -/

/-- The container of the probe. -/
def probeConfig (image : Value) : Value :=
  .dict [("Image", image),
    ("Entrypoint", .list [.str "/usr/bin/python3", .str "-B", .str (nativePrefix ++ "preflight.py")]),
    ("Cmd", .list []),
    ("Env", .list [.str "PYTHONDONTWRITEBYTECODE=1", .str "OPENBLAS_NUM_THREADS=1",
      .str "OMP_NUM_THREADS=1"]),
    ("Labels", .dict [("k11c.native.probe", .str "1")]),
    ("HostConfig", .dict [("NetworkMode", .str "none"), ("CapDrop", .list [.str "ALL"]),
      ("SecurityOpt", .list [.str "no-new-privileges"]), ("Memory", .int (768 * 1024 * 1024)),
      ("PidsLimit", .int 96)])]

/-- The payloads of the log frames, headers of eight bytes dropped. -/
def logLines (raw : Bytes) : Bytes :=
  if raw.length < 8 then []
  else
    let size := fromLe ((raw.drop 4).take 4).reverse
    (raw.drop 8).take size ++ logLines (raw.drop (8 + size))
termination_by raw.length
decreasing_by simp only [List.length_drop]; omega

/-- The log of a probe that failed. -/
def printLogs (c : Decoders) (cid : String) : Ctl Unit := do
  let r : Response ← ask (.logs cid)
  let lines := logLines r.data
  print (c.decode (lines.drop (lines.length - 6000)))

/-- The probe has ended: its exit code decides. -/
def exited (c : Decoders) (cid : String) (state : Value) : Ctl Unit := do
  let code ← .ofExcept (state.item "ExitCode")
  if code.isZero then pure ()
  else do
    printLogs c cid
    throw (.exception "Official image native preflight failed; target left untouched")

/-- The polling loop. It sleeps one second between two readings of the clock, so the minute has
    passed after sixty rounds. -/
def poll (c : Decoders) (cid : String) (deadline : Nat) : Nat → Ctl Unit
  | 0 => throw (.exception "Native preflight timed out; target left untouched")
  | n + 1 => do
    let now : Nat ← ask (.monotonic)
    if deadline ≤ now then throw (.exception "Native preflight timed out; target left untouched")
    else do
      let info ← inspect c cid
      let state ← .ofExcept (info.item "State")
      let running ← .ofExcept (state.item "Running")
      if running.truthy then do
        ask (.sleep)
        poll c cid deadline n
      else exited c cid state

/-- The body of the `try` of `preflight`. -/
def probe (c : Decoders) (cid : String) (files : Files) : Ctl Unit := do
  let _ ← checkCollisions c cid files
  putFiles cid files
  let _ ← start c cid
  let now : Nat ← ask (.monotonic)
  poll c cid (now + 60 * 1000000000) 60

/-- `preflight`. -/
def preflight (c : Decoders) (image : Value) (files : Files) : Ctl Unit := do
  let hex : String ← ask (.uuid)
  let created ← create c ("k11c-native-probe-" ++ hex) (probeConfig image)
  let id ← .ofExcept (created.item "Id")
  let r ← (probe c (c.show id) files).attempt
  let _ ← delete c (c.show id)
  .ofExcept r

/-! ## One pass -/

/-- `not Running and ExitCode == 0`: a clean stop by the user, or a container that never ran. -/
def cleanlyStopped (info : Value) : Except Raised Bool := do
  let state ← info.item "State"
  let running ← state.item "Running"
  let code ← state.get "ExitCode" (.int 0)
  return !running.truthy && code.isZero

/-- `fresh['State']['Running']`. -/
def isRunning (info : Value) : Except Raised Bool := do
  let state ← info.item "State"
  let running ← state.item "Running"
  return running.truthy

/-- `should_start`. -/
def shouldStart (info : Value) : Except Raised Bool := do
  let state ← info.item "State"
  let startedAt ← state.get "StartedAt" (.str "")
  let never ← startedAt.startsWith "0001-"
  let running ← state.item "Running"
  let code ← state.get "ExitCode" (.int 0)
  return running.truthy || (!never && !code.isZero)

/-- The readback of `reconcile`: every file of the payload, executables with their mode. -/
def readback (c : Decoders) (cid : String) : Files → Ctl Unit
  | [] => pure ()
  | (path, data) :: files => do
    let found ← readFile c cid path
    require (decide (found = some data)) ("Installed payload mismatch: " ++ path)
    if executable path then do
      let stat ← pathStat c cid path
      let ok ← .ofExcept (modeOk stat)
      require ok ("Installed FFmpeg is not executable: " ++ path)
      readback c cid files
    else readback c cid files

/-- The stop of a running target. -/
def stopRunning (c : Decoders) (cid : String) (running : Bool) : Ctl Unit :=
  if running then do
    let _ ← stop c cid
    pure ()
  else pure ()

/-- A concurrent clean stop ends the attempt without a trace of it. -/
def giveUp (key : String) : Ctl Bool := do
  ask (.pop key)
  ask (.save)
  pure false

/-- The copy, its readback and the start. -/
def copyAndStart (c : Decoders) (slug : String) (files : Files) (cid key : String)
    (pending : Files) : Ctl Bool := do
  putFiles cid pending
  readback c cid files
  let _ ← start c cid
  ask (.set key .ready)
  ask (.save)
  reportFfmpeg files pending
  print ("K11C_NATIVE_PREPARED app=" ++ slug ++ " container=" ++
    String.ofList (cid.toList.take 12) ++ " restart=once")
  pure true

/-- The restart of the target, from the inspection that precedes it. -/
def restart (c : Decoders) (slug : String) (files : Files) (cid key : String)
    (fresh : Value) : Ctl Bool := do
  let pending ← checkCollisions c cid files
  let running ← .ofExcept (isRunning fresh)
  stopRunning c cid running
  copyAndStart c slug files cid key pending

/-- The body of the `try` of `reconcile`. -/
def install (c : Decoders) (info : Value) (slug : String) (files : Files) (cid key : String) :
    Ctl Bool := do
  let image ← .ofExcept (info.item "Image")
  preflight c image files
  let fresh ← inspect c cid
  .ofExcept (validateTarget fresh slug)
  let stopped ← .ofExcept (cleanlyStopped fresh)
  if stopped then giveUp key else restart c slug files cid key fresh

/-- The `except Exception` of `reconcile`. -/
def caught (key : String) : Except Raised Bool → Ctl Bool
  | .ok b => pure b
  | .error .exit => throw .exit
  | .error e => do
    ask (.set key .failed)
    ask (.save)
    throw e

/-- An attempt: the intent is saved before anything else. -/
def prepare (c : Decoders) (info : Value) (slug : String) (files : Files) (cid key : String) :
    Ctl Bool := do
  ask (.set key .preparing)
  ask (.save)
  let r ← (install c info slug files cid key).attempt
  caught key r

/-- The manifest of an installation that is already complete. -/
def putManifest (c : Decoders) (cid : String) (files pending : Files) : Ctl Unit :=
  if pending.isEmpty then pure ()
  else do
    putFiles cid pending
    let found ← readFile c cid manifest
    let data ← .ofExcept (fileAt files manifest)
    require (decide (found = some data)) "Installed manifest mismatch"

/-- A byte-identical installation is adopted without a restart. -/
def adopt (c : Decoders) (files : Files) (cid key : String) (pending : Files) : Ctl Bool := do
  putManifest c cid files pending
  ask (.set key .ready)
  ask (.save)
  reportFfmpeg files pending
  pure false

/-- A pass over a target that is to run and is not yet decided. -/
def decideTarget (c : Decoders) (info : Value) (slug : String) (files : Files)
    (cid key : String) : Ctl Bool := do
  let pending ← checkCollisions c cid files
  if pending.all (·.1 == manifest) then adopt c files cid key pending
  else prepare c info slug files cid key

/-- `key`. -/
def keyOf (cid : String) (data : Bytes) : String :=
  cid ++ ":" ++ digest data

/-- `reconcile`. -/
def reconcile (c : Decoders) (info : Value) (slug : String) (files : Files) : Ctl Bool := do
  .ofExcept (validateTarget info slug)
  let cid ← .ofExcept (info.item "Id" >>= Value.asStr)
  let data ← .ofExcept (fileAt files manifest)
  let known : Bool ← ask (.has (keyOf cid data))
  if known then pure false
  else do
    let wanted ← .ofExcept (shouldStart info)
    if wanted then decideTarget c info slug files cid (keyOf cid data) else pure false

end K11CHaos.Frigate
