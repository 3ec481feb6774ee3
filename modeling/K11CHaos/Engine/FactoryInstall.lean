import K11CHaos.Engine.Execute
import K11CHaos.Engine.FactoryReadback
import K11CHaos.Engine.Quiet
import K11CHaos.Engine.Reading
import K11CHaos.Engine.Saves

/-!
# Installation of a manufacturer image

`factory::execute` with the USB functions around it. The vendor tool writes to the only Rockchip device that
is connected, so the program asks for the connected devices besides what the engine asks (`Ask`). Every run
claims its plan before the tool starts, and starts it only on the planned device (`Preflight`,
`begins_execute`); a run that succeeds has read the package back from that device (`runs_execute_ok`).
-/

namespace K11CHaos.Engine.Factory

open Prog

/-! ## The program -/

/-- Questions of an installation: those of the engine, the connected devices with the vendor's USB ID, and
    the transport to one of them. -/
inductive Ask where
  | engine (o : Op)
  | devices
  | connect (device : Device)

/-- What a successful answer holds. -/
def Ask.Out : Ask → Type
  | engine o => o.Out
  | devices => List Device
  | connect _ => Unit

/-- Answers. -/
abbrev Ask.Ans (o : Ask) : Type := Except Failure o.Out

/-- Installations. -/
abbrev Install := Prog Ask Ask.Ans Failure

/-- A question of an installation with its answer. -/
abbrev Event' := Prog.Ev Ask Ask.Ans

instance (o : Ask) : Inhabited o.Ans := ⟨.error ⟨"", ""⟩⟩

/-- An engine function in an installation. -/
def engine {α : Type} (m : Eng α) : Install α :=
  Prog.lift Ask.engine m

/-- The questions of an engine function in an installation. -/
def engineTrace (t : List Ev) : List Event' :=
  Prog.liftTrace Ask.engine t

/-- `usb::devices`. -/
def devices : Install (List Device) :=
  call Ask.devices

/-- `WindowsIo::open`. -/
def connect (device : Device) : Install Unit :=
  call (Ask.connect device)

/-- `usb::factory_device`. -/
def factoryDevice (all : List Device) (expected : Device) (reconnected : Bool) : Result Device :=
  match all with
  | [d] => do
    guard d
    deny (d.location ≠ expected.location ∨
        (reconnected = false ∧ d.instanceId ≠ expected.instanceId))
      "DEVICE_CHANGED" "Manufacturer installation USB target changed"
    return d
  | _ => throw (fail "AMBIGUOUS_DEVICE"
      "Connect only one Rockchip device for manufacturer installation")

/-- `usb::selected`. -/
def selected (id : String) : Install Device := do
  let all ← devices
  match all.find? fun d => d.instanceId == id with
  | none => throw (fail "DEVICE_GONE" "Selected device disconnected")
  | some d =>
    Prog.ofExcept (guard d)
    connect d
    return d

/-- The device that a plan is for, opened. -/
def opened (expected : Device) (reconnected : Bool) : Install Unit := do
  let all ← devices
  let d ← Prog.ofExcept (factoryDevice all expected reconnected)
  let _ ← selected d.instanceId

/-- `usb::factory_identity` on the opened device. -/
def sameTarget (identity : Identity) (headers : String) : Eng Unit := do
  let now : Identity ← ask .identity
  check (deny (now ≠ identity) "DEVICE_CHANGED" "Manufacturer target identity changed")
  let _ ← requireFullRead
  let digest ← headersDigest identity
  check (deny (digest ≠ headers) "DEVICE_CHANGED"
    "Target partition headers changed since preview")

/-- `usb::factory_identity`. -/
def factoryIdentity (expected : Device) (identity : Identity) (headers : String) : Install Unit := do
  opened expected false
  engine (sameTarget identity headers)

/-- `usb::factory_readback`. -/
def factoryReadback (expected : Device) (identity : Identity) (image : Image) (file : Bytes)
    (checks : List Check) : Install Unit := do
  opened expected true
  engine (readback identity image file checks)

/-- `TOOL_SHA256`. -/
def toolSha256 : String :=
  "789c509dde39206d27b2f8915a5a169ff5eafb5b21fdb2108d0709bdda9ebde0"

/-- `CONFIG_SHA256`. -/
def configSha256 : String :=
  "f08ed32575209de48aca01cf3e88337bc72dd8ed2191921f80c62390400c4c08"

/-- Pinned digests of the vendor tool and its configuration. -/
structure Pins where
  tool : String
  config : String

/-- The pins of the source. What is proved of an installation holds for any pins. -/
def Pins.source : Pins :=
  ⟨toolSha256, configSha256⟩

/-- `verify_file`. -/
def verifyFile (path expected : String) : Eng Unit := do
  let b : Bytes ← askAs "RESOURCE_MISSING" (.load (.outside path))
  check (deny (hashBytes b ≠ expected) "RESOURCE_HASH" path)

/-- `tool_bundle`. -/
def toolBundle (pins : Pins) : Eng Unit := do
  verifyFile "resources/rockchip/upgrade_tool.exe" pins.tool
  verifyFile "resources/rockchip/config.ini" pins.config

/-- `enum ToolAction`. -/
inductive ToolAction where
  | info
  | install
deriving DecidableEq, Repr

/-- `tool_success`. -/
def toolSuccess (action : ToolAction) (exit : Bool) (text : String) : Bool :=
  let text := text.toList.map Char.toLower
  exit && !Str.contains text "fail".toList && !Str.contains text "error".toList &&
    match action with
    | .info => Str.contains text "type:update firmware".toList &&
        Str.contains text "entry count:".toList
    | .install => Str.contains text "upgrade firmware ok.".toList

/-- `run_tool` for an installation. The answer is the output of a tool that has ended without an error
    status; a tool that does not start, fails, takes too long or writes too much is an error. -/
def runTool (pins : Pins) (image : String) : Eng String := do
  toolBundle pins
  let text : String ← ask (.tool image)
  check (deny (!toolSuccess .install true text) "FACTORY_TOOL" text)
  return text

/-- `file_name` of a canonical path to a file: what stands behind its last separator. -/
def fileName (path : String) : String :=
  String.ofList (path.toList.reverse.takeWhile fun c => c ≠ '/' ∧ c ≠ '\\').reverse

/-- A partition in a report, with its keys in the order of a sorted map. -/
def reported (p : Partition) : Json :=
  .obj [("lba", .num p.lba.toNat), ("name", .str p.name),
    ("sectors", (p.sectors.map fun n => Json.num n.toNat).getD .null)]

/-- `Image::report`. -/
def report (image : Image) : Json :=
  .obj [("bytes", .num image.bytes), ("filename", .str (fileName image.path)),
    ("format", .str image.format), ("id", .str image.sha256), ("os", .str image.os),
    ("partitions", .arr (image.partitions.map reported)), ("path", .str image.path),
    ("sha256", .str image.sha256),
    ("tool", .str (if image.format = "RKFW" then "Rockchip upgrade_tool" else "RockUSB"))]

/-- Values with the same text are the same. -/
instance : DecidableEq Json := fun v w =>
  decidable_of_iff (v.bytes = w.bytes) ⟨Json.bytes_inj, congrArg Json.bytes⟩

/-- `load_plan`. -/
def loadPlan (X : Crates) (id : String) : Eng FactoryPlan := do
  check (deny (!hashId id) "PLAN_ID" "Invalid manufacturer plan")
  let b : Bytes ← askAs "FACTORY_IMAGE" (.load (.plan .factory id))
  check (deny (b.length > 256 * 1024) "PLAN_CHANGED" "Invalid manufacturer plan")
  check (deny (hashBytes b ≠ id) "PLAN_CHANGED" "Manufacturer plan changed")
  let p ← check (parsed "FACTORY_IMAGE" (X.parseFactoryPlan b))
  check (deny (p.format ≠ 1 ∨ p.operation ≠ "factory" ∨ !hashId p.source) "PLAN_CHANGED"
    "Invalid manufacturer plan")
  return p

/-- What an installation has established before it claims its plan. -/
structure Clearance where
  plan : FactoryPlan
  image : Image
  file : Bytes
  checks : List Check

/-- The part of `execute` that only looks at files. -/
def prepare (X : Crates) (id : String) : Eng Clearance := do
  let p ← loadPlan X id
  let st : Store ← ask .sources
  let (image, file) ← check (openImage X st p.source)
  check (deny (report image ≠ p.sourceReport) "PLAN_CHANGED" "Manufacturer image metadata changed")
  check (validateCapacity image p.identity.sectors)
  let checks ← check (verification image file p.identity.sectors)
  return ⟨p, image, file, checks⟩

/-- The part of `execute` that only looks. -/
def clear (X : Crates) (id : String) (confirmed : Bool) : Install Clearance := do
  Prog.ofExcept (deny (!confirmed) "CONFIRM_WRITE" "Explicit confirmation required")
  let c ← engine (prepare X id)
  factoryIdentity c.plan.device c.plan.identity c.plan.targetHeaders
  return c

/-- One line of the journal, on disk. -/
def journal (id : String) (e : Event) : Eng Unit :=
  askAs "FACTORY_IMAGE" (.note (.journal .factory id) e)

/-- Claim the plan and open its journal. -/
def claim (id : String) (p : FactoryPlan) : Eng Unit := do
  askAs "FACTORY_IMAGE" (.rename (.plan .factory id) (.used .factory id))
  createNew "FACTORY_IMAGE" (.journal .factory id)
  journal id (.started p.json none)

/-- Run the tool and note down that it has ended. -/
def write (pins : Pins) (id : String) (image : String) : Eng Unit := do
  let text ← runTool pins image
  journal id (.vendorComplete text)

/-- The part of `execute` whose errors are journaled. -/
def install (pins : Pins) (id : String) (c : Clearance) : Install Json := do
  engine (write pins id c.image.path)
  factoryReadback c.plan.device c.plan.identity c.image c.file c.checks
  return report c.image

/-- The end of `execute`: the last line of the journal. -/
def finish (id : String) : Result Json → Install Json
  | .ok value => do
    engine (journal id .complete)
    return value
  | .error e => do
    let _ ← (engine (journal id (.failed e))).attempt
    throw (fail e.code s!"{e.detail}; journal={id}.journal.jsonl")

/-- `execute`: the report of the image that was installed. -/
def execute (pins : Pins) (X : Crates) (id : String) (confirmed : Bool) : Install Json := do
  let c ← clear X id confirmed
  -- a plan is claimed before the tool starts, so it is never used again
  engine (claim id c.plan)
  let run ← (install pins id c).attempt
  finish id run

/-! ## The order of a run -/

/-- Questions that change nothing. -/
def Ask.Observes : Ask → Prop
  | engine o => o.Observes
  | _ => True

/-- Questions that do not write to the device, nor let the tool do it. -/
def Ask.Quiet : Ask → Prop
  | engine o => o.Quiet
  | _ => True

/-- What observes touches no plan. -/
lemma Ask.Observes.quiet {o : Ask} (h : o.Observes) : o.Quiet := by
  cases o with
  | engine o => exact Op.Observes.quiet h
  | devices => trivial
  | connect d => trivial

/-- The only connected device is the one of a plan: at its port, and with its instance unless it was
    disconnected by the tool. -/
structure Target (all : List Device) (expected : Device) (reconnected : Bool) (d : Device) : Prop where
  only : all = [d]
  sound : guard d = .ok ()
  location : d.location = expected.location
  instanceId : reconnected = false → d.instanceId = expected.instanceId

/-- The trace of `opened`: the device of a plan is alone, and the one of its instance is connected to. -/
inductive Opened (expected : Device) (reconnected : Bool) : List Event' → Prop where
  | mk {all again : List Device} {d d' : Device} :
    Target all expected reconnected d →
    d' ∈ again →
    d'.instanceId = d.instanceId →
    guard d' = .ok () →
    Opened expected reconnected
      [⟨.devices, .ok all⟩, ⟨.devices, .ok again⟩, ⟨.connect d', .ok ()⟩]

section
variable {expected : Device} {reconnected : Bool}

/-- A device that is accepted is the target. -/
lemma factoryDevice_ok {all : List Device} {d : Device}
    (h : factoryDevice all expected reconnected = .ok d) : Target all expected reconnected d := by
  unfold factoryDevice at h
  split at h
  · obtain ⟨_, sound, h1⟩ := bind_ok.mp h
    obtain ⟨_, place, h2⟩ := bind_ok.mp h1
    cases h2
    simp only [deny_ok, not_or, not_and, ne_eq, not_not] at place
    exact ⟨rfl, sound, place.1, place.2⟩
  · cases h

/-- A run of the engine's part is a run of the engine. -/
lemma runs_engine {α : Type} {m : Eng α} {u : List Event'} {r : Result α} :
    Runs (engine m) u r ↔ ∃ t, u = engineTrace t ∧ Runs m t r :=
  runs_lift

/-- The device was found before and after the loader was sent. -/
lemma runs_opened_ok {t : List Event'} (h : Runs (opened expected reconnected) t (.ok ())) :
    Opened expected reconnected t := by
  obtain ⟨t1, all, t2, h1, h2, rfl⟩ := runs_bind_ok.mp h
  obtain rfl := runs_call.mp h1
  obtain ⟨d, hd, h3⟩ := runs_ofExcept_bind_ok.mp h2
  obtain ⟨t3, d', t4, h4, h5, rfl⟩ := runs_bind_ok.mp h3
  obtain ⟨rfl, -⟩ := runs_pure.mp h5
  obtain ⟨t5, again, t6, h6, h7, rfl⟩ := runs_bind_ok.mp h4
  obtain rfl := runs_call.mp h6
  cases found : again.find? fun x => x.instanceId == d.instanceId with
  | none =>
    rw [found] at h7
    obtain ⟨-, e⟩ := runs_throw.mp h7
    cases e
  | some x =>
    rw [found] at h7
    obtain ⟨_, sound, h8⟩ := runs_ofExcept_bind_ok.mp h7
    obtain ⟨t7, _, t8, h9, h10, rfl⟩ := runs_bind_ok.mp h8
    obtain rfl := runs_call.mp h9
    obtain ⟨rfl, e⟩ := runs_pure.mp h10
    exact .mk (factoryDevice_ok hd) (List.mem_of_find?_eq_some found)
      (by simpa using List.find?_some found) sound

end

/-- The headers of a device, as they were read. -/
inductive HeadersSeen (identity : Identity) : List Ev → Bytes → Bytes → Prop where
  | mk {n m : UInt32} {a : { b : Bytes // b.length = 34 * 512 }}
      {b : { b : Bytes // b.length = 33 * 512 }} :
    n.toNat = 34 * 512 →
    m.toNat = 33 * 512 →
    requireGptBytes (a.1.drop 512) = .ok () →
    requireGptBytes b.1 = .ok () →
    HeadersSeen identity
      [⟨.read 0 (34 * 512), .ok (n, a)⟩, ⟨.read (identity.sectors - 33) (33 * 512), .ok (m, b)⟩]
      a.1 b.1

/-- The trace of the part of an installation that only looks: every check between two questions has
    passed. -/
inductive Preflight (X : Crates) (id : String) : List Event' → Clearance → Prop where
  | mk {text : Bytes} {st : Store} {c : Clearance} {caps : Vector UInt8 8} {tu th primary tail} :
    hashBytes text = id →
    text.length ≤ 256 * 1024 →
    X.parseFactoryPlan text = .ok c.plan →
    c.plan.format = 1 ∧ c.plan.operation = "factory" →
    openImage X st c.plan.source = .ok (c.image, c.file) →
    report c.image = c.plan.sourceReport →
    validateCapacity c.image c.plan.identity.sectors = .ok () →
    verification c.image c.file c.plan.identity.sectors = .ok c.checks →
    Opened c.plan.device false tu →
    Flash.fullRead caps →
    HeadersSeen c.plan.identity th primary tail →
    hashBytes (primary ++ tail) = c.plan.targetHeaders →
    Preflight X id
      (engineTrace [⟨.load (.plan .factory id), .ok text⟩, ⟨.sources, .ok st⟩] ++ (tu ++
        engineTrace (⟨.identity, .ok c.plan.identity⟩ :: ⟨.capability, .ok caps⟩ :: th))) c

section
variable {X : Crates} {id : String} {identity : Identity} {t : List Ev}

/-- Only accepted values pass. -/
lemma parsed_ok {α : Type} {code : String} {x : Except String α} {a : α}
    (h : parsed code x = .ok a) : x = .ok a := by
  cases x with
  | error e => cases h
  | ok b =>
    cases h
    rfl

/-- A plan that is loaded has the digest it was asked for. -/
lemma runs_loadPlan_ok {p : FactoryPlan} (h : Runs (loadPlan X id) t (.ok p)) :
    ∃ text, t = [⟨.load (.plan .factory id), .ok text⟩] ∧ hashBytes text = id ∧
      text.length ≤ 256 * 1024 ∧ X.parseFactoryPlan text = .ok p ∧
      p.format = 1 ∧ p.operation = "factory" := by
  obtain ⟨_, -, h1⟩ := runs_check_bind_ok.mp h
  obtain ⟨text, t1, rfl, h2⟩ := runs_askAs_bind_ok.mp h1
  obtain ⟨_, small, h3⟩ := runs_check_bind_ok.mp h2
  obtain ⟨_, hash, h4⟩ := runs_check_bind_ok.mp h3
  obtain ⟨q, parse, h5⟩ := runs_check_bind_ok.mp h4
  obtain ⟨_, sound, h6⟩ := runs_check_bind_ok.mp h5
  obtain ⟨rfl, e⟩ := runs_pure.mp h6
  cases e
  simp only [deny_ok, not_or, ne_eq, not_not] at hash sound
  exact ⟨text, rfl, hash, Nat.not_lt.mp (deny_ok.mp small), parsed_ok parse, sound.1, sound.2.1⟩

/-- Both copies were read where they lie. -/
lemma runs_headers_ok {pair : Bytes × Bytes}
    (h : Runs (Archive.headers identity) t (.ok pair)) :
    HeadersSeen identity t pair.1 pair.2 := by
  obtain ⟨_, -, h1⟩ := runs_check_bind_ok.mp h
  obtain ⟨t1, a, t2, ha, h2, rfl⟩ := runs_bind_ok.mp h1
  obtain ⟨n, buf, rfl, full, rfl⟩ := runs_readExact_ok ha
  obtain ⟨t3, b, t4, hb, h3, rfl⟩ := runs_bind_ok.mp h2
  obtain ⟨m, buf', rfl, full', rfl⟩ := runs_readExact_ok hb
  obtain ⟨_, first, h4⟩ := runs_check_bind_ok.mp h3
  obtain ⟨_, second, h5⟩ := runs_check_bind_ok.mp h4
  obtain ⟨rfl, e⟩ := runs_pure.mp h5
  cases e
  exact .mk full full' first second

/-- The device is still the one that was planned for. -/
lemma runs_sameTarget_ok {headers : String}
    (h : Runs (sameTarget identity headers) t (.ok ())) :
    ∃ caps th primary tail,
      t = ⟨.identity, .ok identity⟩ :: ⟨.capability, .ok caps⟩ :: th ∧ Flash.fullRead caps ∧
      HeadersSeen identity th primary tail ∧ hashBytes (primary ++ tail) = headers := by
  obtain ⟨now, t1, rfl, h1⟩ := runs_ask_bind_ok.mp h
  obtain ⟨_, same, h2⟩ := runs_check_bind_ok.mp h1
  have same : @Eq Identity now identity := by simpa using same
  obtain ⟨t3, _, t4, h3, h4, rfl⟩ := runs_bind_ok.mp h2
  obtain ⟨caps, rfl, full⟩ := Flash.runs_requireFullRead_ok h3
  obtain ⟨th, digest, t6, h5, h6, rfl⟩ := runs_bind_ok.mp h4
  obtain ⟨rfl, e⟩ := runs_check.mp h6
  obtain ⟨t7, pair, t8, h7, h8, rfl⟩ := runs_bind_ok.mp h5
  obtain ⟨_, -, h9⟩ := runs_check_bind_ok.mp h8
  obtain ⟨_, -, h10⟩ := runs_check_bind_ok.mp h9
  obtain ⟨rfl, e'⟩ := runs_pure.mp h10
  cases e'
  have hash := deny_ok.mp e.symm
  rw [ne_eq, not_not] at hash
  refine ⟨caps, t7, pair.1, pair.2, ?_, full, runs_headers_ok h7, hash⟩
  rw [same, List.append_nil, List.append_nil]
  rfl

/-- What is known before the installation was loaded, opened and checked. -/
lemma runs_prepare_ok {c : Clearance} (h : Runs (prepare X id) t (.ok c)) :
    ∃ text st, t = [⟨.load (.plan .factory id), .ok text⟩, ⟨.sources, .ok st⟩] ∧
      hashBytes text = id ∧ text.length ≤ 256 * 1024 ∧ X.parseFactoryPlan text = .ok c.plan ∧
      (c.plan.format = 1 ∧ c.plan.operation = "factory") ∧
      openImage X st c.plan.source = .ok (c.image, c.file) ∧
      report c.image = c.plan.sourceReport ∧
      validateCapacity c.image c.plan.identity.sectors = .ok () ∧
      verification c.image c.file c.plan.identity.sectors = .ok c.checks := by
  obtain ⟨t1, p, t2, h1, h2, rfl⟩ := runs_bind_ok.mp h
  obtain ⟨text, rfl, hash, small, parse, sound⟩ := runs_loadPlan_ok h1
  obtain ⟨st, t3, rfl, h3⟩ := runs_ask_bind_ok.mp h2
  obtain ⟨⟨image, file⟩, opened, h4⟩ := runs_check_bind_ok.mp h3
  obtain ⟨_, same, h5⟩ := runs_check_bind_ok.mp h4
  obtain ⟨_, fits, h6⟩ := runs_check_bind_ok.mp h5
  obtain ⟨checks, planned, h7⟩ := runs_check_bind_ok.mp h6
  obtain ⟨rfl, e⟩ := runs_pure.mp h7
  cases e
  rw [deny_ok, ne_eq, not_not] at same
  exact ⟨text, st, rfl, hash, small, parse, sound, opened, same, fits, planned⟩

/-- The part of an installation that only looks ends after every check. -/
lemma runs_clear_ok {confirmed : Bool} {u : List Event'} {c : Clearance}
    (h : Runs (clear X id confirmed) u (.ok c)) : confirmed = true ∧ Preflight X id u c := by
  obtain ⟨_, sure, h1⟩ := runs_ofExcept_bind_ok.mp h
  obtain ⟨t1, c', t2, h2, h3, rfl⟩ := runs_bind_ok.mp h1
  obtain ⟨t3, ⟨⟩, t4, h4, h5, rfl⟩ := runs_bind_ok.mp h3
  obtain ⟨rfl, e⟩ := runs_pure.mp h5
  cases e
  obtain ⟨t5, rfl, h6⟩ := runs_engine.mp h2
  obtain ⟨text, st, rfl, hash, small, parse, sound, opened', same, fits, planned⟩ :=
    runs_prepare_ok h6
  obtain ⟨tu, ⟨⟩, t6, h7, h8, rfl⟩ := runs_bind_ok.mp h4
  obtain ⟨t7, rfl, h9⟩ := runs_engine.mp h8
  obtain ⟨caps, th, primary, tail, rfl, full, seen, digest⟩ := runs_sameTarget_ok h9
  rw [List.append_nil]
  exact ⟨by simpa using sure, .mk hash small parse sound opened' same fits planned
    (runs_opened_ok h7) full seen digest⟩

end

/-- Finding the device changes nothing. -/
lemma opened_observes {expected reconnected} : (opened expected reconnected).Only Ask.Observes := by
  refine .bind (only_call.mpr trivial) fun _ => .bind only_ofExcept fun d => .bind ?_ fun _ => only_pure
  refine .bind (only_call.mpr trivial) fun all => ?_
  cases all.find? fun x => x.instanceId == d.instanceId with
  | none => exact only_throw
  | some x =>
    exact .bind only_ofExcept fun _ => .bind (only_call.mpr trivial) fun _ => only_pure

/-- The checks before the claim change nothing. -/
lemma clear_observes {X id confirmed} : (clear X id confirmed).Only Ask.Observes := by
  refine .bind only_ofExcept fun _ => .bind (Only.lift ?_) fun c =>
    .bind (.bind opened_observes fun _ => Only.lift ?_) fun _ => only_pure
  · refine .bind (.bind only_check fun _ => .bind (only_askAs.mpr trivial) fun _ => ?_) fun p => ?_
    · exact .bind only_check fun _ => .bind only_check fun _ => .bind only_check fun _ =>
        .bind only_check fun _ => only_pure
    · exact .bind (only_ask.mpr trivial) fun _ => .bind only_check fun _ => .bind only_check fun _ =>
        .bind only_check fun _ => .bind only_check fun _ => only_pure
  · refine .bind (only_ask.mpr trivial) fun _ => .bind only_check fun _ => ?_
    refine .bind requireFullRead_observes fun _ => .bind (.bind Archive.headers_observes fun _ => ?_) fun _ => only_check
    exact .bind only_check fun _ => .bind only_check fun _ => only_pure

/-- The read-back changes nothing. -/
lemma readback_observes {identity image file checks} :
    (readback identity image file checks).Only Op.Observes := by
  refine .bind requireFullRead_observes fun _ => .bind (only_ask.mpr trivial) fun _ =>
    .bind only_check fun _ => .bind ?_ fun _ => .bind Archive.headers_observes fun _ => only_check
  induction checks with
  | nil => exact only_pure
  | cons c checks ih =>
    refine .bind ?_ fun _ => ih
    generalize blocks chunk c.bytes 0 = bs
    induction bs with
    | nil => exact only_pure
    | cons x bs ih' =>
      exact .bind only_check fun _ => .bind readExact_observes fun _ => .bind only_check fun _ => ih'

/-- The journal is no plan. -/
lemma journal_quiet {id e} : (journal id e).Only Op.Quiet :=
  only_askAs.mpr trivial

/-- The pinned tool and its configuration, as they were read. -/
inductive Bundle (pins : Pins) : List Ev → Prop where
  | mk {exe config : Bytes} :
    hashBytes exe = pins.tool →
    hashBytes config = pins.config →
    Bundle pins [⟨.load (.outside "resources/rockchip/upgrade_tool.exe"), .ok exe⟩,
      ⟨.load (.outside "resources/rockchip/config.ini"), .ok config⟩]

section
variable {pins : Pins} {t : List Ev}

/-- A verified file has its digest. -/
lemma runs_verifyFile_ok {path expected : String} (h : Runs (verifyFile path expected) t (.ok ())) :
    ∃ b, t = [⟨.load (.outside path), .ok b⟩] ∧ hashBytes b = expected := by
  obtain ⟨b, t1, rfl, h1⟩ := runs_askAs_bind_ok.mp h
  obtain ⟨rfl, e⟩ := runs_check.mp h1
  have hash := deny_ok.mp e.symm
  rw [ne_eq, not_not] at hash
  exact ⟨b, rfl, hash⟩

/-- Both files of the tool were verified. -/
lemma runs_toolBundle_ok (h : Runs (toolBundle pins) t (.ok ())) : Bundle pins t := by
  obtain ⟨t1, ⟨⟩, t2, h1, h2, rfl⟩ := runs_bind_ok.mp h
  obtain ⟨exe, rfl, first⟩ := runs_verifyFile_ok h1
  obtain ⟨config, rfl, second⟩ := runs_verifyFile_ok h2
  exact .mk first second

/-- Verifying the tool changes nothing. -/
lemma toolBundle_observes : (toolBundle pins).Only Op.Observes :=
  .bind (.bind (only_askAs.mpr trivial) fun _ => only_check) fun _ =>
    .bind (only_askAs.mpr trivial) fun _ => only_check

/-- The tool starts after its files were checked, and once. -/
lemma begins_write {id image : String} {b : List Ev} {e : Ev} {u : List Ev}
    (h : Begins (write pins id image) (b ++ e :: u)) (loud : ¬ e.1.Quiet) :
    e.1 = .tool image ∧ Bundle pins b ∧ ∀ x ∈ u, x.1.Quiet := by
  obtain ⟨u1, u2, rfl, h1, later⟩ := h.asked_before (fun text => journal_quiet) loud
  obtain ⟨t1, ⟨⟩, b2, hb, rfl, h2⟩ := Traces.reached_at (r := none) h1
    (toolBundle_observes.mono fun o ho => ho.quiet) rfl loud
  obtain ⟨v1, v2, rfl, h3, later'⟩ := Begins.asked_before h2
    (fun text => .bind only_check fun _ => only_pure) loud
  obtain h3 | ⟨r, h3⟩ := begins_call h3
  · exact absurd h3 (List.append_ne_nil_of_right_ne_nil _ (List.cons_ne_nil _ _))
  · cases b2 with
    | nil =>
      cases h3
      rw [List.append_nil]
      refine ⟨rfl, runs_toolBundle_ok hb, fun x hx => ?_⟩
      obtain hx | hx := List.mem_append.mp hx
      · exact later' x hx
      · exact later x hx
    | cons y b2 =>
      exact absurd (List.cons.inj h3).2
        (List.append_ne_nil_of_right_ne_nil _ (List.cons_ne_nil _ _))

/-- The claim of a plan, and its opened journal. -/
def claimed (id : String) (p : FactoryPlan) : List Ev :=
  [⟨.rename (.plan .factory id) (.used .factory id), .ok ()⟩, ⟨.create (.journal .factory id), .ok true⟩,
    ⟨.note (.journal .factory id) (.started p.json none), .ok ()⟩]

/-- A claim writes one file. -/
lemma runs_claim_ok {id : String} {p : FactoryPlan} (h : Runs (claim id p) t (.ok ())) :
    t = claimed id p := by
  obtain ⟨_, t1, rfl, h1⟩ := runs_askAs_bind_ok.mp h
  obtain ⟨t2, _, t3, h2, h3, rfl⟩ := runs_bind_ok.mp h1
  obtain rfl := runs_createNew_ok.mp h2
  obtain rfl := runs_askAs_ok.mp h3
  rfl

/-- A claim is not a plan that is written. -/
lemma claim_quiet {id : String} {p : FactoryPlan} : (claim id p).Only Op.Quiet :=
  .bind (only_askAs.mpr trivial) fun _ => .bind createNew_quiet fun _ => journal_quiet

/-- What follows the tool only looks. -/
lemma factoryReadback_quiet {expected identity image file checks} :
    (factoryReadback expected identity image file checks).Only Ask.Quiet :=
  .bind (opened_observes.mono fun _ h => h.quiet) fun _ =>
    Only.lift (readback_observes.mono fun _ h => h.quiet)

/-- A question of a lifted program stands where the program asks it. -/
lemma engineTrace_split {u : List Ev} {b : List Event'} {e : Event'} {v : List Event'}
    (h : b ++ e :: v = engineTrace u) :
    ∃ b' e' v', u = b' ++ e' :: v' ∧ b = engineTrace b' ∧ e = ⟨.engine e'.1, e'.2⟩ ∧
      v = engineTrace v' := by
  obtain ⟨b', rest, rfl, e1, e2⟩ := List.map_eq_append_iff.mp h.symm
  obtain ⟨e', v', rfl, e3, e4⟩ := List.map_eq_cons_iff.mp e2
  exact ⟨b', e', v', rfl, e1.symm, e3.symm, e4.symm⟩

end

section
variable {pins : Pins} {X : Crates} {id : String} {confirmed : Bool}

/-- Where the tool starts in a part that is journaled. -/
lemma begins_install {c : Clearance} {b : List Event'} {e : Event'} {u : List Event'}
    (h : Begins (install pins id c) (b ++ e :: u)) (loud : ¬ e.1.Quiet) :
    e.1 = .engine (.tool c.image.path) ∧ (∃ tb, Bundle pins tb ∧ b = engineTrace tb) ∧
      ∀ x ∈ u, x.1.Quiet := by
  obtain ⟨u1, u2, rfl, h1, later⟩ := h.asked_before
    (fun _ => .bind factoryReadback_quiet fun _ => only_pure) loud
  obtain ⟨t, eq, h2⟩ := begins_lift h1
  obtain ⟨b', e', v', rfl, rfl, rfl, rfl⟩ := engineTrace_split eq
  obtain ⟨tool, bundle, rest⟩ := begins_write h2 loud
  refine ⟨congrArg Ask.engine tool, ⟨b', bundle, rfl⟩, fun x hx => ?_⟩
  obtain hx | hx := List.mem_append.mp hx
  · obtain ⟨y, hy, rfl⟩ := List.mem_map.mp hx
    exact rest y hy
  · exact later x hx

/-- The end of an installation only writes to the journal. -/
lemma finish_quiet {run : Result Json} : (finish id run).Only Ask.Quiet := by
  cases run with
  | ok v => exact .bind (Only.lift journal_quiet) fun _ => only_pure
  | error e => exact .bind (Only.attempt (Only.lift journal_quiet)) fun _ => only_throw

/-- Every run, wherever it stops, only looks, or it has cleared its plan and asked for its claim. After
    the claim the tool is the only thing that touches the device: it starts behind the journal and the
    check of its own files, on the image of the plan, and never again. -/
lemma begins_execute {t : List Event'} (h : Begins (execute pins X id confirmed) t) :
    (∀ e ∈ t, e.1.Observes) ∨
      ∃ tp c a tx,
        confirmed = true ∧
        Preflight X id tp c ∧
        (∀ e ∈ tp, e.1.Observes) ∧
        t = tp ++ ⟨.engine (.rename (.plan .factory id) (.used .factory id)), a⟩ :: tx ∧
        ∀ b e u, tx = b ++ e :: u → ¬ e.1.Quiet →
          e.1 = .engine (.tool c.image.path) ∧
          (∃ tb, Bundle pins tb ∧ ⟨.engine (.rename (.plan .factory id) (.used .factory id)), a⟩ :: b =
            engineTrace (claimed id c.plan ++ tb)) ∧
          ∀ x ∈ u, x.1.Quiet := by
  obtain h1 | ⟨tp, c, t1, hc, h1, rfl⟩ := begins_bind h
  · exact .inl (clear_observes.begins h1)
  obtain ⟨sure, pre⟩ := runs_clear_ok hc
  have looks := clear_observes.runs hc
  cases t1 with
  | nil =>
    rw [List.append_nil]
    exact .inl looks
  | cons first tx =>
    -- the first question behind the checks is the claim
    obtain ⟨a, rfl⟩ : ∃ a : Ask.Ans (.engine (.rename (.plan .factory id) (.used .factory id))),
        first = ⟨.engine (.rename (.plan .factory id) (.used .factory id)), a⟩ := by
      cases h1 with
      | ask h2 => exact ⟨_, rfl⟩
    refine .inr ⟨tp, c, a, tx, sure, pre, looks, rfl, fun b e u eq loud => ?_⟩
    obtain rfl := eq
    obtain ⟨t2, ⟨⟩, b2, hcl, eq, h2⟩ := Traces.reached_at (r := none) h1 (Only.lift claim_quiet)
      (List.cons_append ..).symm loud
    obtain ⟨t3, rfl, h3⟩ := runs_engine.mp hcl
    obtain rfl := runs_claim_ok h3
    obtain ⟨u1, u2, rfl, h4, later⟩ := Begins.asked_before h2 (fun run => finish_quiet) loud
    obtain ⟨tool, ⟨tb, bundle, rfl⟩, rest⟩ := begins_install (begins_attempt.mp h4) loud
    refine ⟨tool, ⟨tb, bundle, ?_⟩, fun x hx => ?_⟩
    · rw [eq]
      exact (List.map_append ..).symm
    · obtain hx | hx := List.mem_append.mp hx
      · exact rest x hx
      · exact later x hx

/-- The trace of an installation that succeeds. -/
structure Installed (pins : Pins) (X : Crates) (id : String) (t : List Event') (c : Clearance) : Prop where
  mk ::
  parts : ∃ tp tb text tu tr,
    Preflight X id tp c ∧
    Bundle pins tb ∧
    toolSuccess .install true text = true ∧
    Opened c.plan.device true tu ∧
    Runs (readback c.plan.identity c.image c.file c.checks) tr (.ok ()) ∧
    t = tp ++ (engineTrace (claimed id c.plan) ++
      (engineTrace (tb ++ [⟨.tool c.image.path, .ok text⟩,
          ⟨.note (.journal .factory id) (.vendorComplete text), .ok ()⟩]) ++
        (tu ++ (engineTrace tr ++
          engineTrace [⟨.note (.journal .factory id) .complete, .ok ()⟩]))))

/-- The tool ran after it was verified, and reported success. -/
lemma runs_write_ok {image : String} {t : List Ev} (h : Runs (write pins id image) t (.ok ())) :
    ∃ tb text, Bundle pins tb ∧ toolSuccess .install true text = true ∧
      t = tb ++ [⟨.tool image, .ok text⟩,
        ⟨.note (.journal .factory id) (.vendorComplete text), .ok ()⟩] := by
  obtain ⟨t1, text, t2, h1, h2, rfl⟩ := runs_bind_ok.mp h
  obtain rfl := runs_askAs_ok.mp h2
  obtain ⟨tb, ⟨⟩, t3, h3, h4, rfl⟩ := runs_bind_ok.mp h1
  obtain ⟨said, t4, rfl, h5⟩ := runs_ask_bind_ok.mp h4
  obtain ⟨_, success, h6⟩ := runs_check_bind_ok.mp h5
  obtain ⟨rfl, e⟩ := runs_pure.mp h6
  cases e
  have success : toolSuccess .install true text = true := by simpa using success
  exact ⟨tb, text, runs_toolBundle_ok h3, success, List.append_assoc ..⟩

/-- An installation that succeeds took all its steps. -/
lemma runs_execute_ok {t : List Event'} {v : Json} (h : Runs (execute pins X id confirmed) t (.ok v)) :
    ∃ c, v = report c.image ∧ Installed pins X id t c := by
  obtain ⟨tp, c, t1, hc, h1, rfl⟩ := runs_bind_ok.mp h
  obtain ⟨t2, ⟨⟩, t3, hcl, h2, rfl⟩ := runs_bind_ok.mp h1
  obtain ⟨t4, rfl, h3⟩ := runs_engine.mp hcl
  obtain rfl := runs_claim_ok h3
  obtain ⟨t5, run, t6, hr, h4, rfl⟩ := runs_bind_ok.mp h2
  obtain ⟨res, h5, e⟩ := runs_attempt.mp hr
  cases e
  cases run with
  | error e =>
    obtain ⟨_, _, _, _, h6, _⟩ := runs_bind_ok.mp h4
    obtain ⟨_, e⟩ := runs_throw.mp h6
    cases e
  | ok w =>
    obtain ⟨t7, ⟨⟩, t8, h6, h7, rfl⟩ := runs_bind_ok.mp h4
    obtain ⟨rfl, e⟩ := runs_pure.mp h7
    cases e
    obtain ⟨t9, rfl, h8⟩ := runs_engine.mp h6
    obtain rfl := runs_askAs_ok.mp h8
    obtain ⟨t10, ⟨⟩, t11, hw, h9, rfl⟩ := runs_bind_ok.mp h5
    obtain ⟨t12, rfl, h10⟩ := runs_engine.mp hw
    obtain ⟨tb, text, bundle, success, rfl⟩ := runs_write_ok h10
    obtain ⟨t13, ⟨⟩, t14, hb, h11, rfl⟩ := runs_bind_ok.mp h9
    obtain ⟨rfl, e⟩ := runs_pure.mp h11
    cases e
    obtain ⟨tu, ⟨⟩, t15, ho, h12, rfl⟩ := runs_bind_ok.mp hb
    obtain ⟨tr, rfl, h13⟩ := runs_engine.mp h12
    refine ⟨c, rfl, ⟨tp, tb, text, tu, tr, (runs_clear_ok hc).2, bundle, success,
      runs_opened_ok ho, h13, ?_⟩⟩
    simp only [List.append_nil, List.append_assoc]

/-- The order of an installation. -/
structure Ordered (pins : Pins) (X : Crates) (id : String) (confirmed : Bool) (t : List Event') : Prop where
  /-- A run only looks until it has passed every check and asks for the claim of its plan. -/
  looks : (∀ e ∈ t, e.1.Observes) ∨
    ∃ tp c a tx,
      confirmed = true ∧
      Preflight X id tp c ∧
      (∀ e ∈ tp, e.1.Observes) ∧
      t = tp ++ ⟨.engine (.rename (.plan .factory id) (.used .factory id)), a⟩ :: tx
  /-- What touches the device is the tool, on the image of the plan, behind the claim, the journal and the
  check of the files of the tool, and never again. -/
  writes : ∀ b e u, t = b ++ e :: u → ¬ e.1.Quiet →
    ∃ tp c tb,
      Preflight X id tp c ∧
      e.1 = .engine (.tool c.image.path) ∧
      Bundle pins tb ∧
      b = tp ++ engineTrace (claimed id c.plan ++ tb) ∧
      ∀ x ∈ u, x.1.Quiet

end

/-! ## The installed disk -/

/-- The device of an installation. The vendor tool may leave anything behind. -/
def OnDevice (who : Identity) (caps : Vector UInt8 8) (d : Disk) (e : Event') (d' : Disk) : Prop :=
  match e with
  | ⟨.engine o, a⟩ => Faithful who caps d ⟨o, a⟩ d'
  | _ => d' = d

section
variable {pins : Pins} {X : Crates} {who : Identity} {caps : Vector UInt8 8} {d d' : Disk}

/-- A quiet question leaves the device alone. -/
lemma OnDevice.quiet {e : Event'} (h : OnDevice who caps d e d') (q : e.1.Quiet) : d' = d := by
  obtain ⟨o, a⟩ := e
  cases o with
  | engine o => exact Faithful.quiet (e := ⟨o, a⟩) h q
  | devices => exact h
  | connect x => exact h

/-- Without the tool the disk stays as it is. -/
lemma onDevice_quiet {t : List Event'} (p : Lts.Path (OnDevice who caps) d t d')
    (q : ∀ e ∈ t, e.1.Quiet) : d' = d := by
  induction p with
  | nil => rfl
  | cons st _ ih =>
    rw [ih fun e he => q e (List.mem_cons_of_mem _ he), st.quiet (q _ List.mem_cons_self)]

/-- The disk of an engine function. -/
lemma onDevice_engine {t : List Ev} (p : Lts.Path (OnDevice who caps) d (engineTrace t) d') :
    Lts.Path (Faithful who caps) d t d' := by
  induction t generalizing d with
  | nil =>
    cases p
    exact .nil
  | cons e t ih =>
    cases p with
    | cons st p => exact .cons st (ih p)

/-- An image is opened by inspecting its file. -/
lemma openImage_inspected {st : Store} {id : String} {image : Image} {file : Bytes}
    (h : openImage X st id = .ok (image, file)) : inspect X image.path file = .ok image := by
  obtain ⟨_, -, h1⟩ := bind_ok.mp h
  obtain ⟨text, -, h2⟩ := bind_ok.mp h1
  obtain ⟨_, -, h3⟩ := bind_ok.mp h2
  obtain ⟨image', -, h4⟩ := bind_ok.mp h3
  obtain ⟨file', -, h5⟩ := bind_ok.mp h4
  obtain ⟨actual, inspected, h6⟩ := bind_ok.mp h5
  obtain ⟨_, same, h7⟩ := bind_ok.mp h6
  cases h7
  rw [deny_ok, not_or, not_not, not_not] at same
  rwa [same.2] at inspected

/-- Only firmware packages have a payload. -/
lemma inspect_format {path : String} {file : Bytes} {image : Image} {sectors : UInt32}
    {checks : List Check} (h : inspect X path file = .ok image)
    (planned : verification image file sectors = .ok checks) : image.format = "RKFW" := by
  obtain ⟨_, -, h1⟩ := bind_ok.mp h
  obtain ⟨header, -, h2⟩ := bind_ok.mp h1
  split_ifs at h2 with kind
  · obtain ⟨r, -, h3⟩ := bind_ok.mp h2
    obtain ⟨full, -, h4⟩ := bind_ok.mp h3
    cases h4
    rfl
  · obtain ⟨r, -, h3⟩ := bind_ok.mp h2
    obtain ⟨full, -, h4⟩ := bind_ok.mp h3
    cases h4
    obtain ⟨out, h5, h6⟩ := bind_ok.mp planned
    cases h5
    obtain ⟨_, some', -⟩ := bind_ok.mp h6
    exact absurd rfl (deny_ok.mp some')

/-- A clearance and a read-back that passed certify the disk. -/
lemma Preflight.certifies {id : String} {tp : List Event'} {c : Clearance}
    {tool : Bytes → Result String} {tr : List Ev} (reads : X.rkfw = rkfw tool)
    (h : Preflight X id tp c)
    (back : Runs (readback c.plan.identity c.image c.file c.checks) tr (.ok ()))
    (p : Lts.Path (Faithful who caps) d tr d') :
    d' = d ∧ who = c.plan.identity ∧ Certified c.image c.file c.plan.identity.sectors d := by
  cases h with
  | mk _ _ _ _ opened _ fits planned =>
    have inspected := openImage_inspected opened
    exact readback_certified reads (inspect_format inspected planned) inspected fits planned back p

end

end K11CHaos.Engine.Factory
