import K11CHaos.Engine.Components
import K11CHaos.Lib.KeyMap
import Mathlib.Data.String.Basic

/-!
# Maintenance of the app

`maintenance.rs`: the app is removed or installed again on a running system, over the API of its
supervisor (`Api`). A plan records what was found (`plan`), and `execute` carries it out: it finds the
same again, checks the release that is to be installed, takes a backup and checks that it holds the app;
only then the app is uninstalled. Every answer of the API is arbitrary, an error or any value.

What a question does is told by its method and its path (`Call.At`). The calls that change something
are `POST` calls; the parts of `execute` in front of them only ask `GET` calls and the backup.
-/

namespace K11CHaos.Engine.Maintenance

open Prog

/-- `Api::call`, its arguments. -/
structure Call where
  method : String
  path : String
  body : Json

/-- Programs over the API. -/
abbrev Api := Prog Call (fun _ => Result Json) Failure

/-- A call with its answer. -/
abbrev Ev := Prog.Ev Call fun _ => Result Json

/-- Ask the API. -/
def request (c : Call) : Api Json :=
  asked c id

def get (path : String) : Call :=
  ⟨"GET", path, .null⟩

def post (path : String) (body : Json) : Call :=
  ⟨"POST", path, body⟩

/-- Two calls of one method on one path. -/
def Call.At (c d : Call) : Prop :=
  c.method = d.method ∧ c.path = d.path

instance (c d : Call) : Decidable (c.At d) :=
  inferInstanceAs (Decidable (_ ∧ _))

/-- `REPOSITORY`. -/
def repository : String := "https://github.com/David2766/K11C-HAOS"

def osInfo : Call := get "os/info"

def hostInfo : Call := get "host/info"

def appList : Call := get "addons"

def repositoryInfo : Call := get "store/repositories/157e89e9"

def storeInfo : Call := get "store/addons/157e89e9_k11c_connectivity"

def newBackup : Call :=
  post "backups/new/partial" (.obj [("addons", .arr [.str Components.slug]),
    ("background", .bool false), ("folders", .arr []), ("homeassistant", .bool false),
    ("name", .str "K11C Connectivity before maintenance")])

def backupInfo (id : String) : Call := get ("backups/" ++ id ++ "/info")

def uninstall : Call :=
  post "addons/157e89e9_k11c_connectivity/uninstall" (.obj [("remove_config", .bool true)])

def install : Call :=
  post "store/addons/157e89e9_k11c_connectivity/install" (.obj [("background", .bool false)])

def appInfo : Call := get "addons/157e89e9_k11c_connectivity/info"

def setOptions (options : Json) : Call :=
  post "addons/157e89e9_k11c_connectivity/options"
    (.obj [("boot", .str "auto"), ("options", options)])

def unprotect : Call :=
  post "addons/157e89e9_k11c_connectivity/security" (.obj [("protected", .bool false)])

def start : Call :=
  post "addons/157e89e9_k11c_connectivity/start" (.obj [])

/-- `Value::as_str`. -/
def asStr : Json → Option String
  | .str s => some s
  | _ => none

/-- `Value::as_array`. -/
def asArray : Json → Option (List Json)
  | .arr xs => some xs
  | _ => none

/-- A field has a value. -/
def has (v : Json) (key : String) (w : Json) : Bool :=
  Components.same (Components.field v key) w

/-- `str_value`. -/
def strValue (v : Json) (key : String) : Result String :=
  match asStr (Components.field v key) with
  | some s => .ok s
  | none => .error (fail "HA_API" ("Missing " ++ key))

/-- The list of apps in an answer, under its new or its old name. -/
def listOf (v : Json) (code detail : String) : Result (List Json) :=
  match (asArray (Components.field v "addons")).or (asArray (Components.field v "apps")) with
  | some xs => .ok xs
  | none => .error (fail code detail)

/-- An entry of a list is the app. -/
def isApp (v : Json) : Bool :=
  has v "slug" (.str Components.slug)

/-- `struct Target`. -/
structure Target where
  haos : String
  kernel : String
  hostname : String
  installed : Bool
  version : Option String
deriving DecidableEq

/-- `target`, from its three answers. -/
def readTarget (os host apps : Json) : Result Target := do
  let list ← listOf apps "HA_API" "Missing app list"
  let app := list.find? isApp
  deny (!has os "board" (.str "generic-aarch64")) "HA_TARGET" "Expected K11C generic-aarch64 HAOS"
  let haos ← strValue os "version"
  let kernel ← strValue host "kernel"
  let hostname ← strValue host "hostname"
  return ⟨haos, kernel, hostname, app.isSome,
    app.bind fun a => asStr (Components.field a "version")⟩

/-- `target`. -/
def target : Api Target := do
  let os ← request osInfo
  let host ← request hostInfo
  let apps ← request appList
  Prog.ofExcept (readTarget os host apps)

/-- The app of the store is the one of a release. -/
def isRelease (s : Seed) (info : Json) : Bool :=
  has info "version_latest" (.str s.appVersion) && has info "repository" (.str "157e89e9") &&
    has info "slug" (.str Components.slug) &&
    ((asArray (Components.field info "arch")).any fun a => a.any (Components.same · (.str "aarch64")))

/-- `store_candidate`. -/
def storeCandidate (s : Seed) : Api Unit := do
  let repo ← request repositoryInfo
  Prog.ofExcept (deny (!has repo "source" (.str repository)) "HA_CATALOG_CHANGED"
    "Repository identity changed")
  let info ← request storeInfo
  Prog.ofExcept (deny (!isRelease s info) "HA_CATALOG_CHANGED"
    "Store app differs from the compatible release; refresh before reinstalling")

/-- `struct Plan`. -/
structure Plan where
  target : Target
  operation : String
  candidate : Option Seed

/-- The release of a catalog for a system. -/
def release (X : Crates) (catalog : Option Catalog) (t : Target) : Result Seed := do
  let catalog ← match catalog with
    | some c => .ok c
    | none => .error (fail "COMPONENT_UNAVAILABLE"
        "Compatible release catalog required for reinstall")
  Components.validate X catalog
  match catalog.seeds.find? fun s => s.haos == t.haos && s.kernel == t.kernel with
  | some s => .ok s
  | none => .error (fail "COMPONENT_INCOMPATIBLE" "No matching HAOS/kernel release")

/-- `plan`. -/
def plan (X : Crates) (catalog : Option Catalog) (operation : String) : Api Plan := do
  Prog.ofExcept (deny (operation ∉ ["remove", "reinstall"]) "COMMAND_NOT_ALLOWED"
    "Select remove or reinstall")
  let t ← target
  if operation = "reinstall" then
    let s ← Prog.ofExcept (release X catalog t)
    storeCandidate s
    return ⟨t, operation, some s⟩
  else
    return ⟨t, operation, none⟩

/-- The release that `execute` is to install is still in the store. -/
def checkCandidate (p : Plan) : Api Unit :=
  match p.candidate with
  | some s => storeCandidate s
  | none => Prog.ofExcept (deny (p.operation = "reinstall") "COMPONENT_INCOMPATIBLE"
      "Candidate missing")

/-- The name of a backup, from the answer to its request. -/
def backupId (b : Json) : Result String := do
  let id ← strValue b "slug"
  deny (id.isEmpty || !id.toList.all fun c => c.isAlphanum || c == '-') "HA_BACKUP"
    "Invalid backup identifier"
  return id

/-- The backup holds the app. -/
def holdsApp (info : Json) : Result Unit := do
  let list ← listOf info "HA_BACKUP" "Backup contains no app information"
  deny (!list.any isApp) "HA_BACKUP" "Connectivity missing from backup"

/-- The backup in front of a removal. -/
def backupApp : Api String := do
  let b ← request newBackup
  let id ← Prog.ofExcept (backupId b)
  let info ← request (backupInfo id)
  Prog.ofExcept (holdsApp info)
  return id

/-- The backup of an app that is installed. -/
def takeBackup (p : Plan) : Api (Option String) :=
  if p.target.installed then do
    let id ← backupApp
    return some id
  else
    return none

/-- The removal of an app that is installed. -/
def removeApp (p : Plan) : Api Unit :=
  if p.target.installed then do
    let _ ← request uninstall
    return ()
  else
    return ()

/-- The app that was installed is the one of a release. -/
def installedRelease (s : Seed) (fresh : Json) : Bool :=
  has fresh "version" (.str s.appVersion) && has fresh "repository" (.str "157e89e9")

/-- The options of a new app with the app enabled. -/
def enabledOptions (fresh : Json) : Result Json :=
  match Components.field fresh "options" with
  | .obj fs => .ok (.obj (KeyMap.insert "enabled" (.bool true) fs))
  | _ => .error (fail "HA_API" "Missing fresh default options")

/-- The app runs, starts with the system, is enabled and not protected. -/
def isStarted (after : Json) : Bool :=
  has after "state" (.str "started") && has after "boot" (.str "auto") &&
    has (Components.field after "options") "enabled" (.bool true) &&
    has after "protected" (.bool false)

/-- The app that was installed is looked at and set up. -/
def configure (s : Seed) : Api Unit := do
  let fresh ← request appInfo
  Prog.ofExcept (deny (!installedRelease s fresh) "HA_CATALOG_CHANGED"
    "Installed version changed; app left stopped")
  let defaults ← Prog.ofExcept (enabledOptions fresh)
  let _ ← request (setOptions defaults)
  let _ ← request unprotect
  return ()

/-- The app is started and looked at again. -/
def launch : Api Unit := do
  let _ ← request start
  let after ← request appInfo
  Prog.ofExcept (deny (!isStarted after) "HA_VERIFY" "App has not reached the requested state")

/-- The installation of a release and its start. -/
def reinstall (s : Seed) : Api Unit := do
  storeCandidate s
  let _ ← request install
  configure s
  launch

/-- The app is gone. -/
def checkRemoved : Api Unit := do
  let now ← target
  Prog.ofExcept (deny now.installed "HA_VERIFY" "App still installed")

/-- What follows the removal. The candidate of a reinstallation is there: `checkCandidate` has seen it. -/
def finish (p : Plan) : Api Unit :=
  if p.operation = "reinstall" then
    match p.candidate with
    | some s => reinstall s
    | none => throw (fail "PANIC" "Option::unwrap on a None value")
  else
    checkRemoved

/-- The part of `execute` whose errors name the backup. -/
def work (p : Plan) (backup : Option String) : Api Json := do
  removeApp p
  finish p
  return .obj [("backup", (backup.map Json.str).getD .null), ("operation", .str p.operation),
    ("reboot_recommended", .bool true)]

/-- An error after the backup. -/
def recovery (backup : Option String) (e : Failure) : Failure :=
  fail e.code (e.detail ++ "; recovery backup=" ++ backup.getD "none (not previously installed)")

/-- `work` with the backup in its errors. -/
def named (p : Plan) (backup : Option String) : Api Json := do
  let r ← (work p backup).attempt
  Prog.ofExcept (r.mapError (recovery backup))

/-- `execute`. -/
def execute (p : Plan) (confirmed : Bool) : Api Json := do
  Prog.ofExcept (deny (!confirmed) "CONFIRM_WRITE" "Confirm K11C and the app data removal")
  Prog.ofExcept (deny (p.operation ∉ ["remove", "reinstall"]) "COMMAND_NOT_ALLOWED"
    "Unknown maintenance operation")
  let now ← target
  Prog.ofExcept (deny (now ≠ p.target) "HA_TARGET"
    "HAOS or app changed after confirmation; refresh first")
  checkCandidate p
  let backup ← takeBackup p
  named p backup

/-! ## What each part asks -/

/-- A call that only reads. -/
def Call.Reads (c : Call) : Prop :=
  c.method = "GET"

/-- The target is only looked at. -/
lemma target_reads : target.Only Call.Reads :=
  .bind (only_asked.mpr rfl) fun _ => .bind (only_asked.mpr rfl) fun _ =>
    .bind (only_asked.mpr rfl) fun _ => only_ofExcept

/-- The store is only looked at. -/
lemma storeCandidate_reads {s : Seed} : (storeCandidate s).Only Call.Reads :=
  .bind (only_asked.mpr rfl) fun _ => .bind only_ofExcept fun _ =>
    .bind (only_asked.mpr rfl) fun _ => only_ofExcept

/-- The candidate is only looked at. -/
lemma checkCandidate_reads {p : Plan} : (checkCandidate p).Only Call.Reads := by
  unfold checkCandidate
  cases p.candidate with
  | some s => exact storeCandidate_reads
  | none => exact only_ofExcept

/-- A call other than one that posts. -/
lemma Call.Reads.away {c x : Call} (h : c.Reads) (hx : x.method = "POST") : ¬ c.At x := by
  rintro ⟨m, -⟩
  rw [h, hx] at m
  exact absurd m (by decide)

/-- A backup makes no call but the one of a new backup. -/
lemma takeBackup_away {p : Plan} {x : Call} (hx : x.method = "POST") (hb : ¬ newBackup.At x) :
    (takeBackup p).Only fun c => ¬ c.At x := by
  unfold takeBackup
  split_ifs
  · have reads : ∀ id, (backupInfo id).Reads := fun _ => rfl
    exact .bind (.bind (only_asked.mpr hb) fun b => .bind only_ofExcept fun id =>
      .bind (only_asked.mpr ((reads id).away hx)) fun info => .bind only_ofExcept fun _ => only_pure)
      fun id => only_pure
  · exact only_pure

/-- A removal makes no call but the uninstallation. -/
lemma removeApp_away {p : Plan} {x : Call} (hx : ¬ uninstall.At x) :
    (removeApp p).Only fun c => ¬ c.At x := by
  unfold removeApp
  split_ifs
  · exact .bind (only_asked.mpr hx) fun _ => only_pure
  · exact only_pure

/-- Configuring sets the options and the protection, nothing else. -/
lemma configure_away {s : Seed} {x : Call} (hx : x.method = "POST")
    (ho : ¬ (setOptions .null).At x) (hu : ¬ unprotect.At x) :
    (configure s).Only fun c => ¬ c.At x :=
  .bind (only_asked.mpr (Call.Reads.away rfl hx)) fun _ => .bind only_ofExcept fun _ =>
    .bind only_ofExcept fun _ => .bind (only_asked.mpr ho) fun _ =>
    .bind (only_asked.mpr hu) fun _ => only_pure

/-- A launch makes no call but the start. -/
lemma launch_away {x : Call} (hx : x.method = "POST") (hs : ¬ start.At x) :
    launch.Only fun c => ¬ c.At x :=
  .bind (only_asked.mpr hs) fun _ => .bind (only_asked.mpr (Call.Reads.away rfl hx)) fun _ =>
    only_ofExcept

/-- The calls after the removal. -/
lemma finish_away {p : Plan} {x : Call} (hx : x.method = "POST") (hi : ¬ install.At x)
    (ho : ¬ (setOptions .null).At x) (hu : ¬ unprotect.At x) (hs : ¬ start.At x) :
    (finish p).Only fun c => ¬ c.At x := by
  have reads : ∀ c : Call, c.Reads → ¬ c.At x := fun _ h => h.away hx
  unfold finish
  split_ifs
  · cases p.candidate with
    | none => exact only_throw
    | some s =>
      exact .bind (storeCandidate_reads.mono reads) fun _ => .bind (only_asked.mpr hi) fun _ =>
        .bind (configure_away hx ho hu) fun _ => launch_away hx hs
  · exact .bind (target_reads.mono reads) fun _ => only_ofExcept

/-! ## What the parts have seen -/

/-- The target was read, and it was this one. -/
def Reread (x : Target) (t : List Ev) : Prop :=
  ∃ os host apps, t = [⟨osInfo, .ok os⟩, ⟨hostInfo, .ok host⟩, ⟨appList, .ok apps⟩] ∧
    readTarget os host apps = .ok x

/-- The store was asked, and it has this release. -/
def Matched (s : Seed) (t : List Ev) : Prop :=
  ∃ repo info, t = [⟨repositoryInfo, .ok repo⟩, ⟨storeInfo, .ok info⟩] ∧
    has repo "source" (.str repository) = true ∧ isRelease s info = true

/-- A backup was taken, and what it tells of itself lists the app. -/
def BackedUp (id : String) (t : List Ev) : Prop :=
  ∃ b info, t = [⟨newBackup, .ok b⟩, ⟨backupInfo id, .ok info⟩] ∧ backupId b = .ok id ∧
    holdsApp info = .ok ()

/-- A target that is accepted was read again. -/
lemma target_ok {t x} (h : Runs target t (.ok x)) : Reread x t := by
  obtain ⟨_, os, t1, rfl, rfl, h1⟩ := runs_asked_bind_ok.mp h
  obtain ⟨_, host, t2, rfl, rfl, h2⟩ := runs_asked_bind_ok.mp h1
  obtain ⟨_, apps, t3, rfl, rfl, h3⟩ := runs_asked_bind_ok.mp h2
  obtain ⟨rfl, hx⟩ := runs_ofExcept.mp h3
  exact ⟨os, host, apps, rfl, hx.symm⟩

/-- A candidate that is accepted is in the store. -/
lemma storeCandidate_ok {s t u} (h : Runs (storeCandidate s) t (.ok u)) : Matched s t := by
  obtain ⟨_, repo, t1, rfl, rfl, h1⟩ := runs_asked_bind_ok.mp h
  obtain ⟨_, hr, h2⟩ := runs_ofExcept_bind_ok.mp h1
  obtain ⟨_, info, t2, rfl, rfl, h3⟩ := runs_asked_bind_ok.mp h2
  obtain ⟨rfl, hi⟩ := runs_ofExcept.mp h3
  refine ⟨repo, info, rfl, ?_, ?_⟩
  · simpa using deny_ok.mp hr
  · simpa using deny_ok.mp hi.symm

/-- What `checkCandidate` has seen: the release in the store, where there is one to install. -/
lemma checkCandidate_ok {p t u} (h : Runs (checkCandidate p) t (.ok u)) :
    (∃ s, p.candidate = some s ∧ Matched s t) ∨
      p.candidate = none ∧ p.operation ≠ "reinstall" ∧ t = [] := by
  unfold checkCandidate at h
  cases hc : p.candidate with
  | some s =>
    rw [hc] at h
    exact .inl ⟨s, rfl, storeCandidate_ok h⟩
  | none =>
    rw [hc] at h
    obtain ⟨rfl, hd⟩ := runs_ofExcept.mp h
    exact .inr ⟨rfl, deny_ok.mp hd.symm, rfl⟩

/-- A backup that is reported was made. -/
lemma backupApp_ok {t id} (h : Runs backupApp t (.ok id)) : BackedUp id t := by
  obtain ⟨_, b, t1, rfl, rfl, h1⟩ := runs_asked_bind_ok.mp h
  obtain ⟨id', hb, h2⟩ := runs_ofExcept_bind_ok.mp h1
  obtain ⟨_, info, t2, rfl, rfl, h3⟩ := runs_asked_bind_ok.mp h2
  obtain ⟨_, hi, h4⟩ := runs_ofExcept_bind_ok.mp h3
  obtain ⟨rfl, hx⟩ := runs_pure.mp h4
  cases hx
  exact ⟨b, info, rfl, hb, hi⟩

/-! ## Whole traces -/

/-- What stands in front of the backup: the target and the release, in two traces. -/
structure Checked (p : Plan) (confirmed : Bool) (t1 t2 : List Ev) : Prop where
  confirmed : confirmed = true
  known : p.operation ∈ ["remove", "reinstall"]
  target : Reread p.target t1
  candidate : (∃ s, p.candidate = some s ∧ Matched s t2) ∨
    p.candidate = none ∧ p.operation ≠ "reinstall" ∧ t2 = []

/-- The backup of an app that is installed. -/
def Backup (p : Plan) (backup : Option String) (t : List Ev) : Prop :=
  (p.target.installed = true ∧ ∃ id, backup = some id ∧ BackedUp id t) ∨
    p.target.installed = false ∧ backup = none ∧ t = []

/-- A plan that wants a backup gets one. -/
lemma takeBackup_ok {p : Plan} {t backup} (h : Runs (takeBackup p) t (.ok backup)) :
    Backup p backup t := by
  unfold takeBackup at h
  split_ifs at h with inst
  · obtain ⟨t1, id, t2, h1, h2, rfl⟩ := runs_bind_ok.mp h
    obtain ⟨rfl, hx⟩ := runs_pure.mp h2
    cases hx
    rw [List.append_nil]
    exact .inl ⟨inst, id, rfl, backupApp_ok h1⟩
  · obtain ⟨rfl, hx⟩ := runs_pure.mp h
    cases hx
    exact .inr ⟨eq_false_of_ne_true inst, rfl, rfl⟩

/-- The trace of `named` is one of `work`. -/
lemma named_begins {p : Plan} {backup t r} (h : Traces (named p backup) t r) :
    Begins (work p backup) t := by
  obtain ⟨-, hb⟩ | ⟨t1, x, t2, h1, h2, rfl⟩ := Traces.attempt h
  · exact hb
  · rw [begins_ofExcept.mp h2.begins, List.append_nil]
    exact h1.whole

/-- A call that only follows the checks: where it stands. -/
lemma execute_front {p : Plan} {confirmed t r b e u} {x : Call}
    (h : Traces (execute p confirmed) t r) (ht : t = b ++ e :: u) (he : e.1.At x)
    (hx : x.method = "POST") :
    ∃ t1 t2 b1, b = t1 ++ (t2 ++ b1) ∧ Checked p confirmed t1 t2 ∧
      Traces (takeBackup p >>= named p) (b1 ++ e :: u) r := by
  have hp : ¬ ¬ e.1.At x := not_not.mpr he
  have reads : ∀ c : Call, c.Reads → ¬ c.At x := fun _ h => h.away hx
  have pure_away : ∀ {x' : Result Unit},
      (Prog.ofExcept x' : Api Unit).Only fun c => ¬ c.At x := only_ofExcept
  obtain ⟨_, _, b1, r1, rfl, h1⟩ := h.reached_at pure_away ht hp
  obtain ⟨_, _, b2, r2, rfl, h2⟩ := h1.reached_at pure_away rfl hp
  obtain ⟨t1, now, b3, r3, rfl, h3⟩ := h2.reached_at (target_reads.mono reads) rfl hp
  obtain ⟨_, _, b4, r4, rfl, h4⟩ := h3.reached_at pure_away rfl hp
  obtain ⟨t2, _, b5, r5, rfl, h5⟩ := h4.reached_at (checkCandidate_reads.mono reads) rfl hp
  obtain ⟨rfl, d1⟩ := runs_ofExcept.mp r1
  obtain ⟨rfl, d2⟩ := runs_ofExcept.mp r2
  obtain ⟨rfl, d4⟩ := runs_ofExcept.mp r4
  obtain rfl : now = p.target := not_not.mp (deny_ok.mp d4.symm)
  refine ⟨t1, t2, b5, rfl, ?_, h5⟩
  exact ⟨by simpa using deny_ok.mp d1.symm, not_not.mp (deny_ok.mp d2.symm), target_ok r3,
    checkCandidate_ok r5⟩

/-- A call that the parts in front never make is one of `work`. -/
lemma execute_at {p : Plan} {confirmed t r b e u} {x : Call}
    (h : Traces (execute p confirmed) t r) (ht : t = b ++ e :: u) (he : e.1.At x)
    (hx : x.method = "POST") (hb : ¬ newBackup.At x) :
    ∃ backup t1 t2 t3 b1, b = t1 ++ (t2 ++ (t3 ++ b1)) ∧ Checked p confirmed t1 t2 ∧
      Backup p backup t3 ∧ Begins (work p backup) (b1 ++ e :: u) := by
  obtain ⟨t1, t2, b1, rfl, checked, h1⟩ := execute_front h ht he hx
  obtain ⟨t3, backup, b2, r3, rfl, h2⟩ :=
    h1.reached_at (takeBackup_away hx hb) rfl (not_not.mpr he)
  exact ⟨backup, t1, t2, t3, b2, rfl, checked, takeBackup_ok r3, named_begins h2⟩

/-- What an uninstallation needs: everything in front of it, and a backup of the app. -/
structure Cleared (p : Plan) (confirmed : Bool) (before : List Ev) : Prop where
  confirmed : confirmed = true
  parts : ∃ t1 t2 t3, before = t1 ++ (t2 ++ t3) ∧ Reread p.target t1 ∧
    (p.operation = "reinstall" → ∃ s, p.candidate = some s ∧ Matched s t2) ∧
    ∃ id, BackedUp id t3

/-- The removal is asked for at the front of the work. -/
lemma removeApp_front {p : Plan} {k : Unit → Api Json} {b e u}
    (h : Begins (removeApp p >>= k) (b ++ e :: u)) (he : e.1.At uninstall)
    (later : ∀ a, (k a).Only fun c => ¬ c.At uninstall) : p.target.installed = true ∧ b = [] := by
  have hp : ¬ ¬ e.1.At uninstall := not_not.mpr he
  unfold removeApp at h
  split_ifs at h with inst
  · rw [bind_assoc] at h
    exact ⟨inst, h.asked_front (fun _ => later ()) hp⟩
  · exact absurd ((later ()).begins h e (List.mem_append_right b List.mem_cons_self)) hp

/-- The app is uninstalled right after what it needs. -/
lemma uninstall_at {p : Plan} {confirmed t r b e u} (h : Traces (execute p confirmed) t r)
    (ht : t = b ++ e :: u) (he : e.1.At uninstall) : Cleared p confirmed b := by
  obtain ⟨backup, t1, t2, t3, b1, rfl, checked, hb, h1⟩ := execute_at h ht he rfl (by decide)
  have later : (finish p).Only fun c => ¬ c.At uninstall :=
    finish_away rfl (by decide) (by decide) (by decide) (by decide)
  obtain ⟨inst, rfl⟩ := removeApp_front h1 he fun _ => later.bind fun _ => only_pure
  obtain ⟨_, id, _, hid⟩ | ⟨not, _⟩ := hb
  · refine ⟨checked.confirmed, t1, t2, t3, by rw [List.append_nil], checked.target, ?_, id, hid⟩
    intro op
    obtain hs | ⟨_, no, _⟩ := checked.candidate
    · exact hs
    · exact absurd op no
  · rw [inst] at not
    cases not

/-- The removal of an app that is installed was answered. -/
def Removed (p : Plan) (t : List Ev) : Prop :=
  (p.target.installed = true ∧ ∃ v, t = [⟨uninstall, .ok v⟩]) ∨
    p.target.installed = false ∧ t = []

/-- A removal that succeeds is known to the supervisor. -/
lemma removeApp_ok {p : Plan} {t u} (h : Runs (removeApp p) t (.ok u)) : Removed p t := by
  unfold removeApp at h
  split_ifs at h with inst
  · obtain ⟨_, v, t1, rfl, rfl, h1⟩ := runs_asked_bind_ok.mp h
    obtain ⟨rfl, -⟩ := runs_pure.mp h1
    exact .inl ⟨inst, v, rfl⟩
  · obtain ⟨rfl, -⟩ := runs_pure.mp h
    exact .inr ⟨eq_false_of_ne_true inst, rfl⟩

/-- A call of the second half of the work is one of a reinstallation. -/
lemma reinstall_at {p : Plan} {backup b e u} {x : Call} (h : Begins (work p backup) (b ++ e :: u))
    (he : e.1.At x) (hx : x.method = "POST") (hu : ¬ uninstall.At x) :
    ∃ s t1 b1, p.operation = "reinstall" ∧ p.candidate = some s ∧ b = t1 ++ b1 ∧ Removed p t1 ∧
      Begins (reinstall s) (b1 ++ e :: u) := by
  have hp : ¬ ¬ e.1.At x := not_not.mpr he
  have h : Traces (work p backup) (b ++ e :: u) none := h
  obtain ⟨t1, _, b1, r1, rfl, h1⟩ := h.reached_at (removeApp_away hu) rfl hp
  have mem : e ∈ b1 ++ e :: u := List.mem_append_right b1 List.mem_cons_self
  have inner : Begins (finish p) (b1 ++ e :: u) := by
    obtain hb | ⟨t2, _, t3, r2, h2, eq⟩ := h1.bind_inv
    · exact hb
    · cases h2
      rw [eq, List.append_nil]
      exact r2.whole
  unfold finish at inner
  split_ifs at inner with op
  · cases hc : p.candidate with
    | none =>
      rw [hc] at inner
      have none_away : (throw (fail "PANIC" "Option::unwrap on a None value") : Api Unit).Only
          fun c => ¬ c.At x := only_throw
      exact absurd (none_away.begins inner e mem) hp
    | some s =>
      rw [hc] at inner
      exact ⟨s, t1, b1, op, rfl, rfl, removeApp_ok r1, inner⟩
  · have away : checkRemoved.Only fun c => ¬ c.At x :=
      .bind (target_reads.mono fun _ h => h.away hx) fun _ => only_ofExcept
    exact absurd (away.begins inner e mem) hp

/-- What an installation needs: the removal was answered, and the store was asked again after it. -/
structure Rechecked (p : Plan) (before : List Ev) : Prop where
  reinstall : p.operation = "reinstall"
  parts : ∃ s t0 t1 t2, p.candidate = some s ∧ before = t0 ++ (t1 ++ t2) ∧ Removed p t1 ∧
    Matched s t2

/-- What a start needs: what was installed is the release. -/
def Installed (p : Plan) (before : List Ev) : Prop :=
  ∃ s t0 v fresh o a c, p.candidate = some s ∧ installedRelease s fresh = true ∧
    before = t0 ++ [⟨install, .ok v⟩, ⟨appInfo, .ok fresh⟩, ⟨setOptions o, .ok a⟩,
      ⟨unprotect, .ok c⟩]

/-- Configuring looks at the installed release first. -/
lemma configure_ok {s t u} (h : Runs (configure s) t (.ok u)) :
    ∃ fresh o a c, installedRelease s fresh = true ∧
      t = [⟨appInfo, .ok fresh⟩, ⟨setOptions o, .ok a⟩, ⟨unprotect, .ok c⟩] := by
  obtain ⟨_, fresh, t1, rfl, rfl, h1⟩ := runs_asked_bind_ok.mp h
  obtain ⟨_, hr, h2⟩ := runs_ofExcept_bind_ok.mp h1
  obtain ⟨o, _, h3⟩ := runs_ofExcept_bind_ok.mp h2
  obtain ⟨_, a, t2, rfl, rfl, h4⟩ := runs_asked_bind_ok.mp h3
  obtain ⟨_, c, t3, rfl, rfl, h5⟩ := runs_asked_bind_ok.mp h4
  obtain ⟨rfl, -⟩ := runs_pure.mp h5
  exact ⟨fresh, o, a, c, by simpa using deny_ok.mp hr, rfl⟩

/-- The app is installed right after the second look at the store. -/
lemma install_at {p : Plan} {confirmed t r b e u} (h : Traces (execute p confirmed) t r)
    (ht : t = b ++ e :: u) (he : e.1.At install) : Rechecked p b := by
  have hp : ¬ ¬ e.1.At install := not_not.mpr he
  have reads : ∀ c : Call, c.Reads → ¬ c.At install := fun _ h => h.away rfl
  obtain ⟨backup, a1, a2, a3, b1, rfl, -, -, h1⟩ := execute_at h ht he rfl (by decide)
  obtain ⟨s, t1, b2, op, hc, rfl, removed, h2⟩ := reinstall_at h1 he rfl (by decide)
  have h2 : Traces (reinstall s) (b2 ++ e :: u) none := h2
  obtain ⟨t2, _, b3, r2, rfl, h3⟩ := h2.reached_at (storeCandidate_reads.mono reads) rfl hp
  have later : ∀ v : Json, (configure s >>= fun _ => launch).Only fun c => ¬ c.At install :=
    fun _ => .bind (configure_away rfl (by decide) (by decide)) fun _ => launch_away rfl (by decide)
  obtain rfl := Begins.asked_front h3 later hp
  refine ⟨op, s, a1 ++ (a2 ++ a3), t1, t2, hc, ?_, removed, storeCandidate_ok r2⟩
  simp only [List.append_nil, List.append_assoc]

/-- The app is started right after it was looked at and set up. -/
lemma start_at {p : Plan} {confirmed t r b e u} (h : Traces (execute p confirmed) t r)
    (ht : t = b ++ e :: u) (he : e.1.At start) : Installed p b := by
  have hp : ¬ ¬ e.1.At start := not_not.mpr he
  have reads : ∀ c : Call, c.Reads → ¬ c.At start := fun _ h => h.away rfl
  obtain ⟨backup, a1, a2, a3, b1, rfl, -, -, h1⟩ := execute_at h ht he rfl (by decide)
  obtain ⟨s, t1, b2, -, hc, rfl, -, h2⟩ := reinstall_at h1 he rfl (by decide)
  have h2 : Traces (reinstall s) (b2 ++ e :: u) none := h2
  obtain ⟨t2, _, b4, -, rfl, h3⟩ := h2.reached_at (storeCandidate_reads.mono reads) rfl hp
  have install_away : (request install).Only fun c => ¬ c.At start := only_asked.mpr (by decide)
  obtain ⟨t3, v, b5, r3, rfl, h4⟩ := h3.reached_at install_away rfl hp
  obtain ⟨t4, _, b6, r4, rfl, h5⟩ :=
    h4.reached_at (configure_away rfl (by decide) (by decide)) rfl hp
  have later : ∀ v : Json, (do
      let after ← request appInfo
      Prog.ofExcept (deny (!isStarted after) "HA_VERIFY"
        "App has not reached the requested state") : Api Unit).Only fun c => ¬ c.At start :=
    fun _ => .bind (only_asked.mpr (Call.Reads.away rfl rfl)) fun _ => only_ofExcept
  obtain rfl := Begins.asked_front h5 later hp
  obtain ⟨_, rfl, rfl⟩ := runs_asked.mp r3
  obtain ⟨fresh, o, a, c, hf, rfl⟩ := configure_ok r4
  refine ⟨s, a1 ++ (a2 ++ (a3 ++ (t1 ++ t2))), v, fresh, o, a, c, hc, hf, ?_⟩
  simp only [List.append_assoc, List.append_nil]
  rfl

/-- The app is uninstalled at most once. -/
lemma uninstall_once {p : Plan} {confirmed} :
    (execute p confirmed).AtMost (fun c => decide (c.At uninstall)) 1 := by
  have never : ∀ {α : Type} {m : Api α}, m.Only (fun c => ¬ c.At uninstall) →
      m.Only fun c => decide (c.At uninstall) = false :=
    fun h => h.mono fun _ => decide_eq_false
  have reads : ∀ {α : Type} {m : Api α}, m.Only Call.Reads →
      m.Only fun c => decide (c.At uninstall) = false :=
    fun h => never (h.mono fun _ h => h.away rfl)
  have once : (removeApp p).AtMost (fun c => decide (c.At uninstall)) 1 := by
    unfold removeApp
    split_ifs
    · exact AtMost.bind (n := 0) atMost_asked fun _ => only_pure.atMost
    · exact only_pure.atMost.mono (Nat.zero_le 1)
  refine Only.bind_atMost only_ofExcept fun _ => Only.bind_atMost only_ofExcept fun _ =>
    Only.bind_atMost (reads target_reads) fun _ => Only.bind_atMost only_ofExcept fun _ =>
    Only.bind_atMost (reads checkCandidate_reads) fun _ =>
    Only.bind_atMost (never (takeBackup_away rfl (by decide))) fun backup => ?_
  refine AtMost.bind (n := 0) (AtMost.attempt (AtMost.bind (n := 0) once fun _ => ?_))
    fun _ => only_ofExcept.atMost
  exact (never (.bind (finish_away rfl (by decide) (by decide) (by decide) (by decide))
    fun _ => only_pure)).atMost

/-- The last answer shows the app running, starting with the system, enabled and not protected. -/
def Started (t : List Ev) : Prop :=
  ∃ t0 v after, t = t0 ++ [⟨start, .ok v⟩, ⟨appInfo, .ok after⟩] ∧
    Components.field after "state" = .str "started" ∧ Components.field after "boot" = .str "auto" ∧
    Components.field (Components.field after "options") "enabled" = .bool true ∧
    Components.field after "protected" = .bool false

/-- The last answer lists the apps, and the app is not among them. -/
def Gone (t : List Ev) : Prop :=
  ∃ t0 apps list, t = t0 ++ [⟨appList, .ok apps⟩] ∧
    listOf apps "HA_API" "Missing app list" = .ok list ∧
    ∀ a ∈ list, Components.field a "slug" ≠ .str Components.slug

/-- A field that is there. -/
lemma has_iff {v w : Json} {key : String} : has v key w = true ↔ Components.field v key = w :=
  Components.same_iff

/-- An app that was started stays started in a longer trace. -/
lemma Started.after {t u : List Ev} (h : Started u) : Started (t ++ u) := by
  obtain ⟨t0, v, after, rfl, h⟩ := h
  exact ⟨t ++ t0, v, after, (List.append_assoc t t0 _).symm, h⟩

/-- An app that was gone stays gone in a longer trace. -/
lemma Gone.after {t u : List Ev} (h : Gone u) : Gone (t ++ u) := by
  obtain ⟨t0, apps, list, rfl, h⟩ := h
  exact ⟨t ++ t0, apps, list, (List.append_assoc t t0 _).symm, h⟩

/-- A launch that succeeds has seen the app running. -/
lemma launch_ok {t u} (h : Runs launch t (.ok u)) : Started t := by
  obtain ⟨_, v, t1, rfl, rfl, h1⟩ := runs_asked_bind_ok.mp h
  obtain ⟨_, after, t2, rfl, rfl, h2⟩ := runs_asked_bind_ok.mp h1
  obtain ⟨rfl, hd⟩ := runs_ofExcept.mp h2
  have running : isStarted after = true := by simpa using deny_ok.mp hd.symm
  simp only [isStarted, Bool.and_eq_true, has_iff] at running
  obtain ⟨⟨⟨state, boot⟩, enabled⟩, unprotected⟩ := running
  exact ⟨[], v, after, rfl, state, boot, enabled, unprotected⟩

/-- A reinstallation that succeeds has seen the app running. -/
lemma reinstall_ok {s t u} (h : Runs (reinstall s) t (.ok u)) : Started t := by
  obtain ⟨t1, _, t2, -, h2, rfl⟩ := runs_bind_ok.mp h
  obtain ⟨t3, _, t4, -, h4, rfl⟩ := runs_bind_ok.mp h2
  obtain ⟨t5, _, t6, -, h6, rfl⟩ := runs_bind_ok.mp h4
  exact (launch_ok h6).after.after.after

/-- A target without the app was read from a list without it. -/
lemma readTarget_gone {os host apps x} (h : readTarget os host apps = .ok x)
    (gone : x.installed = false) :
    ∃ list, listOf apps "HA_API" "Missing app list" = .ok list ∧
      ∀ a ∈ list, Components.field a "slug" ≠ .str Components.slug := by
  simp only [readTarget, bind_ok, deny_ok] at h
  obtain ⟨list, hl, _, _, _, _, _, _, _, _, hx⟩ := h
  cases hx
  refine ⟨list, hl, fun a ha hslug => ?_⟩
  have none := List.find?_eq_none.mp (Option.isSome_eq_false_iff.mp gone |> Option.isNone_iff_eq_none.mp)
  exact none a ha (has_iff.mpr hslug)

/-- A removal that succeeds has seen the app gone. -/
lemma checkRemoved_ok {t u} (h : Runs checkRemoved t (.ok u)) : Gone t := by
  obtain ⟨t1, now, t2, h1, h2, rfl⟩ := runs_bind_ok.mp h
  obtain ⟨rfl, hd⟩ := runs_ofExcept.mp h2
  obtain ⟨os, host, apps, rfl, hx⟩ := target_ok h1
  have gone : now.installed = false := eq_false_of_ne_true (deny_ok.mp hd.symm)
  obtain ⟨list, hl, none⟩ := readTarget_gone hx gone
  exact ⟨[⟨osInfo, .ok os⟩, ⟨hostInfo, .ok host⟩], apps, list, rfl, hl, none⟩

/-- How an execution that succeeds ends. -/
lemma execute_ok {p : Plan} {confirmed t v} (h : Runs (execute p confirmed) t (.ok v)) :
    (p.operation = "reinstall" ∧ Started t) ∨ (p.operation = "remove" ∧ Gone t) := by
  obtain ⟨_, _, h1⟩ := runs_ofExcept_bind_ok.mp h
  obtain ⟨_, known, h2⟩ := runs_ofExcept_bind_ok.mp h1
  obtain ⟨t1, now, t2, -, h3, rfl⟩ := runs_bind_ok.mp h2
  obtain ⟨_, _, h4⟩ := runs_ofExcept_bind_ok.mp h3
  obtain ⟨t3, _, t4, -, h5, rfl⟩ := runs_bind_ok.mp h4
  obtain ⟨t5, backup, t6, -, h6, rfl⟩ := runs_bind_ok.mp h5
  obtain ⟨t7, r, t8, h7, h8, rfl⟩ := runs_bind_ok.mp h6
  obtain ⟨_, h9, hr⟩ := runs_attempt.mp h7
  cases hr
  obtain ⟨rfl, hv⟩ := runs_ofExcept.mp h8
  cases r with
  | error e => cases hv
  | ok v' =>
    obtain ⟨t9, _, t10, -, h10, rfl⟩ := runs_bind_ok.mp h9
    obtain ⟨t11, _, t12, h11, h12, rfl⟩ := runs_bind_ok.mp h10
    obtain ⟨rfl, -⟩ := runs_pure.mp h12
    simp only [List.append_nil]
    unfold finish at h11
    split_ifs at h11 with op
    · cases hc : p.candidate with
      | none =>
        rw [hc] at h11
        cases h11
      | some s =>
        rw [hc] at h11
        exact .inl ⟨op, (reinstall_ok h11).after.after.after.after⟩
    · have remove : p.operation = "remove" := by
        have mem := not_not.mp (deny_ok.mp known)
        simpa [op] using mem
      exact .inr ⟨remove, (checkRemoved_ok h11).after.after.after.after⟩

/-- The parts of a backup, one after the other. -/
lemma takeBackup_bind {p : Plan} (inst : p.target.installed = true) :
    takeBackup p >>= named p = (request newBackup >>= fun b =>
      Prog.ofExcept (backupId b) >>= fun id => request (backupInfo id) >>= fun info =>
      Prog.ofExcept (holdsApp info) >>= fun _ => named p (some id)) := by
  unfold takeBackup
  rw [if_pos inst]
  simp only [backupApp, bind_assoc]
  rfl

/-- An error that names the backup makes no new one. -/
lemma named_away {p : Plan} {backup} : (named p backup).Only fun c => ¬ c.At newBackup :=
  .bind (Only.attempt (.bind (removeApp_away (by decide)) fun _ =>
    .bind (finish_away rfl (by decide) (by decide) (by decide) (by decide)) fun _ => only_pure))
    fun _ => only_ofExcept

/-- An error of the part behind the backup names it. -/
lemma named_error {p : Plan} {id t e} (h : Runs (named p (some id)) t (.error e)) :
    ∃ detail, e.detail = detail ++ "; recovery backup=" ++ id := by
  obtain h1 | ⟨t1, r, t2, h1, h2, rfl⟩ := runs_bind_error.mp h
  · obtain ⟨_, _, hr⟩ := runs_attempt.mp h1
    cases hr
  · obtain ⟨-, he⟩ := runs_ofExcept.mp h2
    cases r with
    | ok v => cases he
    | error e' =>
      cases he
      exact ⟨e'.detail, rfl⟩

/-- The backup and what follows it: an error after the backup was verified names it. -/
lemma backup_error {p : Plan} {e id b info t1 t2}
    (h : Runs (takeBackup p >>= named p)
      (t1 ++ ⟨newBackup, .ok b⟩ :: ⟨backupInfo id, .ok info⟩ :: t2) (.error e))
    (hid : backupId b = .ok id) (holds : holdsApp info = .ok ()) :
    ∃ detail, e.detail = detail ++ "; recovery backup=" ++ id := by
  have hp : ¬ ¬ newBackup.At newBackup := not_not.mpr ⟨rfl, rfl⟩
  cases inst : p.target.installed with
  | false =>
    unfold takeBackup at h
    rw [inst] at h
    have h : Runs (named p none)
        (t1 ++ ⟨newBackup, .ok b⟩ :: ⟨backupInfo id, .ok info⟩ :: t2) (.error e) := h
    exact absurd (named_away.runs h _ (List.mem_append_right t1 List.mem_cons_self)) hp
  | true =>
    rw [takeBackup_bind inst] at h
    -- no other backup is asked for, so this one stands at the front
    have later : ∀ b : Json, (Prog.ofExcept (backupId b) >>= fun id => request (backupInfo id) >>=
        fun info => Prog.ofExcept (holdsApp info) >>= fun _ => named p (some id)).Only
          fun c => ¬ c.At newBackup :=
      fun b => .bind only_ofExcept fun id => .bind (only_asked.mpr (Call.Reads.away rfl rfl))
        fun _ => .bind only_ofExcept fun _ => named_away
    obtain rfl : t1 = [] := Begins.asked_front h.whole later hp
    obtain ⟨x, u, eq, ⟨_, _, rfl, _⟩ | ⟨b', hb, h1⟩⟩ := Runs.asked h
    · cases eq
    cases eq
    cases hb
    rw [hid] at h1
    obtain ⟨x, u, eq, ⟨_, hx, _, _⟩ | ⟨info', hi, h2⟩⟩ := Runs.asked h1
    · cases eq
      cases hx
    cases eq
    cases hi
    rw [holds] at h2
    exact named_error h2

/-- An error after the backup was verified names it. -/
lemma execute_error {p : Plan} {confirmed t e id t1 t2 t3}
    (h : Runs (execute p confirmed) t (.error e)) (ht : t = t1 ++ (t2 ++ t3))
    (hb : BackedUp id t2) : ∃ detail, e.detail = detail ++ "; recovery backup=" ++ id := by
  obtain ⟨b, info, rfl, hid, holds⟩ := hb
  have h : Traces (execute p confirmed) t (some (.error e)) := h
  obtain ⟨_, _, b1, -, -, h1⟩ := execute_front h ht ⟨rfl, rfl⟩ rfl
  exact backup_error h1 hid holds

/-- Whatever the API answers: the app is uninstalled at most once and only after every check and a
    backup; it is installed only after another look at the store, started only when it is the release,
    and an execution that succeeds has seen what was asked for. -/
theorem execute_safe {p : Plan} {confirmed t r} (h : Traces (execute p confirmed) t r) :
    t.countP (fun e => decide (e.1.At uninstall)) ≤ 1 ∧
      (∀ before e after, t = before ++ e :: after →
        (e.1.At uninstall → Cleared p confirmed before) ∧
        (e.1.At install → Rechecked p before) ∧
        (e.1.At start → Installed p before)) ∧
      (∀ v, r = some (.ok v) →
        (p.operation = "reinstall" ∧ Started t) ∨ (p.operation = "remove" ∧ Gone t)) ∧
      ∀ e id t1 t2 t3, r = some (.error e) → t = t1 ++ (t2 ++ t3) → BackedUp id t2 →
        ∃ detail, e.detail = detail ++ "; recovery backup=" ++ id := by
  refine ⟨uninstall_once t h.begins, ?_, ?_, ?_⟩
  · intro before e after ht
    exact ⟨uninstall_at h ht, install_at h ht, start_at h ht⟩
  · rintro v rfl
    exact execute_ok h
  · rintro e id t1 t2 t3 rfl ht hb
    exact execute_error h ht hb

section Sample

def sampleOs : Json :=
  .obj [("board", .str "generic-aarch64"), ("version", .str "18.3")]

def sampleHost : Json :=
  .obj [("hostname", .str "k11c"), ("kernel", .str "6.18.52-haos")]

/-- A list of apps with this one alone, and the empty list. -/
def sampleApps : Json :=
  .obj [("addons", .arr [.obj [("slug", .str "157e89e9_k11c_connectivity"),
    ("version", .str "0.5.6")]])]

def noApps : Json :=
  .obj [("addons", .arr [])]

/-- The removal of an installed app. -/
def samplePlan : Plan :=
  ⟨⟨"18.3", "6.18.52-haos", "k11c", true, some "0.5.6"⟩, "remove", none⟩

def sampleTrace : List Ev :=
  [⟨osInfo, .ok sampleOs⟩, ⟨hostInfo, .ok sampleHost⟩, ⟨appList, .ok sampleApps⟩,
    ⟨newBackup, .ok (.obj [("slug", .str "abc123")])⟩, ⟨backupInfo "abc123", .ok sampleApps⟩,
    ⟨uninstall, .ok (.obj [])⟩, ⟨osInfo, .ok sampleOs⟩, ⟨hostInfo, .ok sampleHost⟩,
    ⟨appList, .ok noApps⟩]

def sampleResult : Result Json :=
  .ok (.obj [("backup", .str "abc123"), ("operation", .str "remove"),
    ("reboot_recommended", .bool true)])

/-- The run of the sample. -/
lemma sample_runs : Runs (execute samplePlan true) sampleTrace sampleResult :=
  .ask (.ask (.ask (.ask (.ask (.ask (.ask (.ask (.ask .ret))))))))

/-- `execute_safe` at this removal. -/
theorem execute_safe_sample :
    sampleTrace.countP (fun e => decide (e.1.At uninstall)) ≤ 1 ∧
      (∀ before e after, sampleTrace = before ++ e :: after →
        (e.1.At uninstall → Cleared samplePlan true before) ∧
        (e.1.At install → Rechecked samplePlan before) ∧
        (e.1.At start → Installed samplePlan before)) ∧
      (∀ v, some sampleResult = some (.ok v) →
        (samplePlan.operation = "reinstall" ∧ Started sampleTrace) ∨
          (samplePlan.operation = "remove" ∧ Gone sampleTrace)) ∧
      ∀ e id t1 t2 t3, some sampleResult = some (.error e) → sampleTrace = t1 ++ (t2 ++ t3) →
        BackedUp id t2 → ∃ detail, e.detail = detail ++ "; recovery backup=" ++ id :=
  execute_safe (r := some sampleResult) sample_runs

end Sample

end K11CHaos.Engine.Maintenance
