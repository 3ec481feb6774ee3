import K11CHaos.Engine.Factory
import K11CHaos.Engine.Workflow

/-!
# Storage transactions

`flash.rs`: what an operation will write (`build`), the one-use plan of it (`planInner`, `savePlan`,
`loadPlan`) and its execution (`executeWithGate`). An execution first only looks, then claims its plan by
renaming it, and then writes and rereads one segment after the other (`transfer`).
-/

namespace K11CHaos.Engine

/-- The storage operations. -/
inductive Operation where
  | install
  | uboot
  | gptRepair
  | restore
  | restoreArchive
  | factoryRaw
deriving DecidableEq, Repr

/-- The name of an operation. -/
def Operation.name : Operation → String
  | install => "install"
  | uboot => "uboot"
  | gptRepair => "gpt-repair"
  | restore => "restore"
  | restoreArchive => "restore-archive"
  | factoryRaw => "factory-raw"

/-- All operations. -/
def Operation.all : List Operation :=
  [.install, .uboot, .gptRepair, .restore, .restoreArchive, .factoryRaw]

/-- The operation of a name. -/
def Operation.ofName (s : String) : Option Operation :=
  all.find? fun op => op.name == s

/-- `enum Payload`: the content of an image payload is what its locked file holds. -/
inductive Payload where
  | bytes (b : Bytes)
  | image (file : Bytes) (offset count : Nat)
  | archive
deriving DecidableEq

/-- `struct Segment`. -/
structure Segment where
  range : Range
  payload : Payload
deriving DecidableEq

/-- `struct Work`. -/
structure Work where
  segments : List Segment
  primary : Bytes
  tail : Bytes
  archive : Option Archive

/-- The ranges of a work, in order. -/
def Work.ranges (w : Work) : List Range :=
  w.segments.map Segment.range

namespace Flash

/-- `bytes`: a segment of given bytes. -/
def bytesSegment (label : String) (lba : UInt32) (b : Bytes) : Segment :=
  ⟨⟨label, lba, b.length, hashBytes b⟩, .bytes b⟩

/-- First sector and sector after the last of a range. -/
def extent (r : Range) : Nat × Nat :=
  (r.lba.toNat, r.lba.toNat + r.bytes / 512)

/-- `validate_ranges`. -/
def validateRanges (ranges : List Range) (sectors : UInt32) : Result Unit := do
  deny (ranges.any fun r =>
      decide (r.bytes = 0 ∨ r.bytes % 512 ≠ 0 ∨ (extent r).2 > sectors.toNat))
    "WRITE_RANGE" "Write outside selected eMMC or unaligned length"
  deny ((Gpt.windows2 (Gpt.sortSpans (ranges.map extent))).any fun r => decide (r.1.2 > r.2.1))
    "WRITE_RANGE" "Overlapping write ranges"

/-- The loop of `image_hashes`: what both digests have taken in. -/
def imageBlocks (file : Bytes) (offset stop : Nat) : List (Nat × Nat) → Bytes × Bytes → Bytes × Bytes
  | [], acc => acc
  | (done, n) :: bs, (whole, payload) =>
    let data := slice file done n
    let start := max done offset
    let last := min (done + n) stop
    imageBlocks file offset stop bs
      (whole ++ data,
        if start < last then payload ++ slice data (start - done) (last - start) else payload)

/-- `image_hashes`. -/
def imageHashes (file : Bytes) (offset count : Nat) : Result (String × String) := do
  deny (offset + count > file.length) "WRITE_RANGE" "Invalid image payload"
  let acc := imageBlocks file offset (offset + count) (blocks chunk file.length 0) ([], [])
  return (hashBytes acc.1, hashBytes acc.2)

/-- `hash_range`. -/
def hashRange (file : Bytes) (offset count : Nat) : Result String := do
  deny (offset + count > file.length) "TRANSACTION_IO" "failed to fill whole buffer"
  return hashBytes (slice file offset count)

/-- `build`, the arm of `factory-raw`. -/
def buildFactoryRaw (X : Crates) (st : Store) (source : String) (identity : Identity) :
    Result Work := do
  let (image, file) ← Factory.openImage X st source
  deny (image.format ≠ "RAW") "FACTORY_FORMAT" "Expected a full disk image"
  let (a, b, size) ← Factory.rawLayout file
  deny (size > identity.sectors) "CAPACITY" "Manufacturer image does not fit the eMMC"
  if slice a 512 8 = Gpt.efiPart then
    let pair ← Gpt.resized a b size identity.sectors
    let count := (size.toNat - 67) * 512
    let hash ← hashRange file (34 * 512) count
    let cleared :=
      if size < identity.sectors then
        [bytesSegment "Old image GPT cleared" (size - 33)
          (zeros ((min (identity.sectors - size) 33).toNat * 512))]
      else []
    return ⟨⟨⟨"Manufacturer system", 34, count, hash⟩, .image file (34 * 512) count⟩ :: cleared ++
      [bytesSegment "Backup GPT" (identity.sectors - 33) pair.2,
        bytesSegment "Primary GPT" 0 pair.1], pair.1, pair.2, none⟩
  else
    let count := image.bytes
    let hash ← hashRange file 0 count
    let tailStart := identity.sectors - 33
    let tail :=
      if size > tailStart then
        let n := (size - tailStart).toNat * 512
        put (zeros (33 * 512)) 0 (slice file (tailStart.toNat * 512) n)
      else zeros (33 * 512)
    let cleared :=
      if size < identity.sectors then
        let start := max size tailStart
        [bytesSegment "Old GPT cleared" start (zeros ((identity.sectors - start).toNat * 512))]
      else []
    return ⟨⟨⟨"Manufacturer system", 0, count, hash⟩, .image file 0 count⟩ :: cleared, a, tail, none⟩

/-- `build`, the arm of `install`. -/
def buildInstall (X : Crates) (st : Store) (source : String) (identity : Identity) :
    Result Work := do
  deny (!hashId source) "IMAGE_ID" "Select a prepared HAOS image"
  let file ← st.file "TRANSACTION_IO" (.prepared source)
  let len := file.length
  deny (len % 512 ≠ 0 ∨ len ≤ 34849 * 512 ∨ len > 32 * 1024 * 1024 * 1024) "IMAGE_SIZE"
    "Invalid prepared image size"
  let offset := 2048 * 512
  let count := len - offset - 33 * 512
  let (whole, hash) ← imageHashes file offset count
  deny (whole ≠ source) "IMAGE_HASH" "Prepared image changed"
  Images.inspect X file
  let a := slice file 0 (34 * 512)
  let b := slice file (len - 33 * 512) (33 * 512)
  let size := UInt32.ofNat (len / 512)
  let pair ← Gpt.relocated a b size identity.sectors
  let selection ← Components.selection X st source
  let fw ← Components.bootBytes X st selection.boot.asset.sha256
  let reserved := put (zeros (reserve - 34 * 512)) (30 * 512) fw
  let oldTail := size + 32768 - 33
  -- the backup GPT of the image would be a third copy: it is cleared, not left behind
  let cleared :=
    if oldTail < identity.sectors - 33 then
      [bytesSegment "Old image GPT cleared" oldTail
        (zeros (min (identity.sectors - 33 - oldTail) 33 * 512).toNat)]
    else []
  return ⟨⟨⟨"HAOS partitions", 34816, count, hash⟩, .image file offset count⟩ :: cleared ++
    [bytesSegment "K11C boot firmware" 34 reserved,
      bytesSegment "Backup GPT" (identity.sectors - 33) pair.2,
      bytesSegment "Primary GPT" 0 pair.1], pair.1, pair.2, none⟩

/-- The firmware of a U-Boot update: a prepared release, or the one that comes with the program. -/
def ubootFirmware (X : Crates) (st : Store) (source : String) : Result Bytes :=
  if source = "" then firmware st else Components.bootBytes X st source

/-- `build`, the arm of `uboot`. -/
def buildUboot (X : Crates) (st : Store) (source : String) (identity : Identity)
    (current : Snapshot) : Result Work := do
  Gpt.requireK11c current.primary current.tail identity.sectors
  let fw ← ubootFirmware X st source
  return ⟨[bytesSegment "K11C U-Boot" 64 fw], current.primary, current.tail, none⟩

/-- The archive to restore; its payload is checked when it is about to be written. -/
def openSource (X : Crates) (st : Store) (source : String) (verifySource : Bool) : Result Archive :=
  if verifySource then Archive.openVerified X st source else Archive.openMetadata X st source

/-- A partial restore keeps the partition layout. -/
def sameLayout (identity : Identity) (current : Snapshot) (m : Meta) : Result Unit :=
  if m.kind = "FULL" then .ok ()
  else do
    Gpt.requireK11c current.primary current.tail identity.sectors
    deny (current.primary.drop 1024 ≠ m.primary.drop 1024) "RESTORE_LAYOUT"
      ("Partial restore requires the same HAOS partition layout; " ++
        "select FULL to replace the OS")

/-- `build`, the arm of `restore-archive`. -/
def buildRestoreArchive (X : Crates) (st : Store) (source : String) (identity : Identity)
    (current : Snapshot) (verifySource : Bool) : Result Work := do
  let a ← openSource X st source verifySource
  let m := a.metadata
  deny (m.identity.sectors ≠ identity.sectors) "RESTORE_CAPACITY"
    "Full and partial backups require the original eMMC user-area capacity"
  sameLayout identity current m
  let pair := if m.kind = "HAOS" then (current.primary, current.tail) else (m.primary, m.tail)
  return ⟨m.ranges.map fun r => ⟨r, .archive⟩, pair.1, pair.2, some a⟩

/-- `build`, the arm of `restore`. -/
def buildRestore (X : Crates) (st : Store) (source : String) (identity : Identity)
    (current : Snapshot) : Result Work := do
  let saved ← snapshot X st source identity
  Gpt.requireK11c saved.primary saved.tail identity.sectors
  let active ← Gpt.repaired current.primary current.tail identity.sectors
  deny (active.1.drop 1024 ≠ saved.primary.drop 1024) "RESTORE_LAYOUT"
    "Partition layout changed; boot backup cannot restore the previous OS or user data"
  return ⟨[bytesSegment "Reserved gap" 34 (saved.reserved.take (30 * 512)),
    bytesSegment "U-Boot backup" 64 (saved.reserved.drop (30 * 512)),
    bytesSegment "Backup GPT" (identity.sectors - 33) saved.tail,
    bytesSegment "Primary GPT" 0 saved.primary], saved.primary, saved.tail, none⟩

/-- `build`, the arm of `gpt-repair`. -/
def buildGptRepair (source : String) (identity : Identity) (current : Snapshot) :
    Result Work := do
  deny (source ≠ "") "SOURCE_ID" "GPT repair has no source file"
  let pair ← Gpt.repaired current.primary current.tail identity.sectors
  return ⟨(if pair.2 ≠ current.tail then
      [bytesSegment "Backup GPT" (identity.sectors - 33) pair.2] else []) ++
    (if pair.1 ≠ current.primary then [bytesSegment "Primary GPT" 0 pair.1] else []),
    pair.1, pair.2, none⟩

/-- The arms of `build`. -/
def buildArm (X : Crates) (st : Store) (op source : String) (identity : Identity)
    (current : Snapshot) (verifySource : Bool) : Result Work :=
  match Operation.ofName op with
  | some .factoryRaw => buildFactoryRaw X st source identity
  | some .install => buildInstall X st source identity
  | some .uboot => buildUboot X st source identity current
  | some .restoreArchive => buildRestoreArchive X st source identity current verifySource
  | some .restore => buildRestore X st source identity current
  | some .gptRepair => buildGptRepair source identity current
  | none => .error (fail "COMMAND_NOT_ALLOWED" "Unknown storage operation")

/-- `build`. -/
def build (X : Crates) (st : Store) (op source : String) (identity : Identity)
    (current : Snapshot) (verifySource : Bool) : Result Work := do
  let work ← buildArm X st op source identity current verifySource
  validateRanges work.ranges identity.sectors
  return work

/-- `capture`. -/
def capture (identity : Identity) : Eng Snapshot := do
  let head ← readBlocks 0 (blocks chunk reserve 0)
  let tail ← readExact (identity.sectors - 33) (33 * 512)
  check (requireGptBytes (slice head 512 (33 * 512)))
  check (requireGptBytes tail)
  return ⟨head.take (34 * 512), head.drop (34 * 512), tail⟩

/-- The bound of `load_plan` and `save_plan` on the text of a plan. -/
def maxPlan : Nat := 128 * 1024

/-- `read_bounded` of a file of the plan directory. -/
def readBounded (p : Path) (max : Nat) : Eng Bytes := do
  let b : Bytes ← askAs "TRANSACTION_IO" (.load p)
  check (deny (b.length > max) "SOURCE_FILE" "File exceeds expected size")
  return b

/-- The checks of `load_plan` on a plan it has read. -/
def planSound (p : Plan) : Result Unit := do
  deny (p.format ≠ 1) "PLAN_ID" "Unsupported plan format"
  match p.targetBootSha256 with
  | some hash =>
    deny (Operation.ofName p.operation = none ∨ !hashId hash ∨
        (p.backup ≠ "" ∧ !Archive.validId p.backup))
      "PLAN_ID" "Invalid fingerprint plan"
  | none => deny (p.backup = "") "PLAN_ID" "Missing recovery backup"

/-- `load_plan`. -/
def loadPlan (X : Crates) (id : String) : Eng Plan := do
  check (deny (!hashId id) "PLAN_ID" "Invalid plan ID")
  let b ← readBounded (.plan .flash id) maxPlan
  check (deny (hashBytes b ≠ id) "PLAN_CHANGED" "Storage plan changed")
  let p ← check (parsed "TRANSACTION_IO" (X.parsePlan b))
  check (planSound p)
  return p

/-- The loop of `save_plan`. -/
def savePlanFrom (p : Plan) : Eng (String × Plan) := do
  let bytes := p.json.bytes
  let id := hashBytes bytes
  let consumed : Bool ← ask (.present (.used .flash id))
  if consumed then
    if _ : p.attempt.getD 0 + 1 < 2 ^ 64 then
      savePlanFrom { p with attempt := some (p.attempt.getD 0 + 1) }
    else
      reject "PLAN_CHANGED" "Transaction attempt counter exhausted"
  else
    let pending : Bool ← ask (.present (.plan .flash id))
    if pending then
      let b ← readBounded (.plan .flash id) maxPlan
      check (deny (b ≠ bytes) "PLAN_CHANGED" "Pending plan changed")
    else
      Workflow.saveNew "TRANSACTION_IO" (.plan .flash id) bytes
    return (id, p)
termination_by 2 ^ 64 - p.attempt.getD 0
decreasing_by simp only [Option.getD_some]; omega

/-- `save_plan`. -/
def savePlan (p : Plan) : Eng (String × Plan) := do
  let _ ← askAs "TRANSACTION_IO" (.makeDir (.plan .flash ""))
  savePlanFrom p

/-- `enum Recovery`. -/
inductive Recovery where
  | legacy
  | backed (id : String)
  | directRestore
  | skipBackup
deriving DecidableEq, Repr

/-- What planning reports: nothing to do, or the plan with the firmware it brings. -/
inductive Planned where
  | noChanges (gpt : Gpt.Report)
  | plan (id : String) (p : Plan) (firmware : Option String) (erases : Bool)

/-- The recovery backup of a plan: its name, and whether the plan carries a fingerprint. -/
def recoveryBackup (X : Crates) (device : Device) (operation : Option Operation)
    (identity : Identity) (current : Snapshot) : Recovery → Eng (String × Option String)
  | .directRestore | .skipBackup => pure ("", some current.digest)
  | .legacy => do
    let name ← Workflow.backup X device
    let st : Store ← ask .sources
    let checked ← check (snapshot X st name identity)
    check (deny (checked.head ≠ current.head ∨ checked.tail ≠ current.tail) "DEVICE_CHANGED"
      "Boot area changed during planning")
    return (name, none)
  | .backed id => do
    if id = "" then
      let partialKind := operation = some .uboot ∨ operation = some .gptRepair ∨
        operation = some .restore
      let kind :=
        if partialKind ∧ Gpt.requireK11c current.primary current.tail identity.sectors = .ok () then
          "BOOT"
        else "FULL"
      let made ← Archive.create X kind
      return (made.1, some current.digest)
    else
      check (deny ("raw-".toList.isPrefixOf id.toList) "BACKUP_VERIFY"
        "A raw import is not a current-device recovery backup")
      let st : Store ← ask .sources
      let a ← check (Archive.openMetadata X st id)
      check (deny (a.metadata.kind ≠ "FULL" ∨ a.metadata.identity ≠ identity ∨
          !a.metadata.usbRereadVerified)
        "BACKUP_DEVICE" "Select the verified FULL backup of the current device")
      return (id, some current.digest)

/-- The firmware that a plan brings. -/
def revisionOf (X : Crates) (op : Option Operation) (source : String) : Eng (Option String) :=
  match op with
  | some .install => do
    let st : Store ← ask .sources
    let s ← check (Components.selection X st source)
    return some s.boot.revision
  | some .uboot => pure (some (if source = "" then firmwareSha256 else source))
  | _ => pure none

/-- `plan_inner` after the work is known: the recovery backup, then the plan. -/
def planWork (X : Crates) (device : Device) (operation source : String) (identity : Identity)
    (current : Snapshot) (work : Work) (recovery : Recovery) : Eng Planned := do
  let op := Operation.ofName operation
  let backup ← recoveryBackup X device op identity current recovery
  let (id, p) ← savePlan
    ⟨1, operation, source, device, identity, backup.1, work.ranges, backup.2, none⟩
  let revision ← revisionOf X op source
  return .plan id p revision (op = some .install || op = some .factoryRaw ||
    work.archive.any fun a => a.metadata.kind == "FULL")

/-- `plan_inner`. -/
def planInner (X : Crates) (device : Device) (operation source : String) (recovery : Recovery) :
    Eng Planned := do
  let op := Operation.ofName operation
  check (deny (recovery = .directRestore ∧ op ≠ some .restore ∧ op ≠ some .restoreArchive ∧
      op ≠ some .factoryRaw)
    "COMMAND_NOT_ALLOWED" "Direct restore is only available for restoration")
  check (guard device)
  let identity : Identity ← ask .identity
  check (requireEmmc identity.storage)
  let _ ← requireFullRead
  check (deny (identity.sectors ≤ 34849) "INVALID_CAPACITY" (toString identity.sectors))
  let current ← capture identity
  let st : Store ← ask .sources
  let work ← check (build X st operation source identity current false)
  check (deny (recovery = .skipBackup ∧ work.archive.any fun a => a.metadata.kind != "FULL")
    "BACKUP_KIND" "Wizard restore requires FULL")
  if work.segments = [] then
    return .noChanges (Gpt.check work.primary work.tail identity.sectors)
  else
    planWork X device operation source identity current work recovery

/-- `plan`. -/
def plan (X : Crates) (device : Device) (operation source : String) : Eng Planned :=
  planInner X device operation source .legacy

/-- `plan_backed`. -/
def planBacked (X : Crates) (device : Device) (operation source recovery : String) : Eng Planned :=
  planInner X device operation source (.backed recovery)

/-- `plan_restore_direct`. -/
def planRestoreDirect (X : Crates) (device : Device) (operation source : String) : Eng Planned :=
  planInner X device operation source .directRestore

/-- `plan_without_backup`. -/
def planWithoutBackup (X : Crates) (device : Device) (operation source : String) :
    Eng Planned := do
  let op := Operation.ofName operation
  check (deny (op ≠ some .install ∧ op ≠ some .restoreArchive) "COMMAND_NOT_ALLOWED"
    "Skipping backup is available for wizard installation and full restore")
  planInner X device operation source .skipBackup

/-- `journal`: one line, on disk. -/
def journal (id : String) (e : Event) : Eng Unit :=
  askAs "TRANSACTION_IO" (.note (.journal .flash id) e)

/-- Where the bytes of a segment come from: memory, or a file that is open under a lock. -/
structure Source where
  inMemory : Bool
  rest : Bytes

/-- `ReadAhead::next` with its worker: the next block of a source. -/
def nextBlock (src : Source) (n : Nat) : Eng Bytes :=
  if src.rest.length < n then
    reject "TRANSACTION_IO" "failed to fill whole buffer"
  else if src.inMemory then
    pure (src.rest.take n)
  else do
    let b : { b : Bytes // b.length = (src.rest.take n).length } ←
      askAs "TRANSACTION_IO" (.stream (src.rest.take n))
    return b.1

/-- The writing loop of a segment: the bytes handed to the device, and the source behind them. -/
def writeBlocks (lba : UInt32) : List (Nat × Nat) → Source → Eng (Bytes × Source)
  | [], src => pure ([], src)
  | (offset, n) :: bs, src => do
    let block ← nextBlock src n
    let transferred : UInt32 ← ask (.write (lba + UInt32.ofNat (offset / 512)) block)
    check (deny (transferred.toNat ≠ n) "SHORT_WRITE"
      s!"LBA {lba + UInt32.ofNat (offset / 512)}: {transferred}/{n}")
    let rest ← writeBlocks lba bs { src with rest := src.rest.drop n }
    return (block ++ rest.1, rest.2)

/-- The source of a payload; the archive stream is handed over from segment to segment. -/
def payloadSource (r : Range) (stream : Option Bytes) : Payload → Result Source
  | .bytes b => .ok ⟨true, b⟩
  | .image file offset count => do
    deny (count ≠ r.bytes) "WRITE_RANGE" "Image segment size changed"
    return ⟨false, slice file offset count⟩
  | .archive =>
    match stream with
    | some s => .ok ⟨false, s⟩
    | none => .error (fail "SOURCE_FILE" "Missing archive stream")

/-- The seek of an opened image to the start of its segment. -/
def seekImage : Payload → Eng Unit
  | .image _ _ _ => askAs "TRANSACTION_IO" .reader
  | _ => pure ()

/-- Write one segment and reread it in full; the archive stream behind it. -/
def writeSegment (id : String) (seg : Segment) (stream : Option Bytes) : Eng (Option Bytes) := do
  let r := seg.range
  let src ← check (payloadSource r stream seg.payload)
  seekImage seg.payload
  journal id (.writing r)
  let written ← writeBlocks r.lba (blocks chunk r.bytes 0) src
  check (deny (hashBytes written.1 ≠ r.sha256) "SOURCE_CHANGED"
    "Source differs from validated write plan")
  let actual ← readDigest r.lba r.bytes
  check (deny (actual ≠ r.sha256) "WRITE_VERIFY" s!"Readback mismatch: {r.label}")
  journal id (.verified r)
  return if seg.payload = .archive then some written.2.rest else stream

/-- The loop over the segments. -/
def writeSegments (id : String) : List Segment → Option Bytes → Eng Unit
  | [], _ => pure ()
  | seg :: segs, stream => do
    let stream ← writeSegment id seg stream
    writeSegments id segs stream

/-- The layout that every operation but the two image restorations must leave behind. -/
def layoutCheck (p : Plan) (identity : Identity) (after : Snapshot) : Result Unit :=
  let op := Operation.ofName p.operation
  if op = some .restoreArchive ∨ op = some .factoryRaw then .ok ()
  else Gpt.requireK11c after.primary after.tail identity.sectors

/-- A U-Boot update leaves the rest of the reserved area alone. -/
def ubootCheck (p : Plan) (saved after : Snapshot) : Result Unit :=
  if Operation.ofName p.operation = some .uboot then
    match p.ranges.find? fun r => r.lba == 64 with
    | none => .error (fail "PLAN_CHANGED" "U-Boot range missing")
    | some r =>
      let start := 30 * 512
      deny (after.reserved.take start ≠ saved.reserved.take start ∨
          after.reserved.drop (start + r.bytes) ≠ saved.reserved.drop (start + r.bytes))
        "WRITE_VERIFY" "U-Boot update modified bytes outside its range"
  else .ok ()

/-- The checks of the area around the written ranges, for the operations that leave it alone. -/
def frameChecks (p : Plan) (identity : Identity) (saved after : Snapshot) : Result Unit := do
  layoutCheck p identity after
  ubootCheck p saved after
  deny (Operation.ofName p.operation = some .gptRepair ∧ after.reserved ≠ saved.reserved)
    "WRITE_VERIFY" "GPT repair modified reserved firmware"

/-- What a finished transaction reports. -/
structure Outcome where
  operation : String
  writtenBytes : Nat
  gpt : Gpt.Report

/-- Open the archive stream that the segments of a restored archive share. -/
def openStream (X : Crates) (work : Work) : Eng (Option Bytes) :=
  match work.archive with
  | some a => do
    askAs "BACKUP_VERIFY" .reader
    return some (a.reader X).out
  | none => pure none

/-- The part of an execution after its plan is claimed and its journal opened. -/
def transfer (X : Crates) (id : String) (p : Plan) (identity : Identity) (saved : Snapshot)
    (work : Work) : Eng Outcome := do
  let stream ← openStream X work
  writeSegments id work.segments stream
  let after ← capture identity
  check (deny (after.primary ≠ work.primary ∨ after.tail ≠ work.tail) "WRITE_VERIFY"
    "GPT differs from intended pair")
  check (frameChecks p identity saved after)
  let last : Identity ← ask .identity
  check (deny (last ≠ identity) "DEVICE_CHANGED" "Identity changed during storage transaction")
  journal id .timings
  journal id .complete
  return ⟨p.operation, (work.ranges.map Range.bytes).sum,
    Gpt.check after.primary after.tail identity.sectors⟩

/-- What the boot area must hold: the fingerprint of the plan, or the legacy recovery backup. -/
def expectedArea (X : Crates) (p : Plan) (identity : Identity) : Eng Snapshot :=
  match p.targetBootSha256 with
  | some expected => do
    let observed ← capture identity
    check (deny (observed.digest ≠ expected) "DEVICE_CHANGED"
      "Boot/GPT data changed after the preview; prepare a new plan")
    return observed
  | none => do
    let st : Store ← ask .sources
    check (snapshot X st p.backup identity)

/-- What an execution has established before it claims its plan. -/
structure Cleared where
  plan : Plan
  identity : Identity
  saved : Snapshot
  work : Work

/-- The part of an execution that only looks. -/
def clear (X : Crates) (device : Device) (id : String) (confirmed : Bool) : Eng Cleared := do
  check (deny (!confirmed) "CONFIRM_WRITE" "Confirm the selected K11C storage operation")
  check (guard device)
  let p ← loadPlan X id
  check (deny (p.device.instanceId ≠ device.instanceId ∨ p.device.location ≠ device.location)
    "DEVICE_CHANGED" "Selected USB instance or physical port changed")
  let identity : Identity ← ask .identity
  check (requireEmmc identity.storage)
  let _ ← requireFullRead
  check (deny (identity.sectors ≤ 34849) "INVALID_CAPACITY" (toString identity.sectors))
  check (deny (identity ≠ p.identity) "DEVICE_CHANGED" "eMMC identity or capacity changed")
  let saved ← expectedArea X p identity
  let st : Store ← ask .sources
  let work ← check (build X st p.operation p.source identity saved true)
  check (deny (work.ranges ≠ p.ranges) "PLAN_CHANGED"
    "Inputs no longer match the confirmed write plan")
  let current ← capture identity
  check (deny (current.head ≠ saved.head ∨ current.tail ≠ saved.tail) "DEVICE_CHANGED"
    "Boot/GPT data changed after the preview; prepare a new plan")
  let again : Identity ← ask .identity
  check (deny (again ≠ identity) "DEVICE_CHANGED" "Device changed before write")
  let _ ← requireFullRead
  ask .gate
  return ⟨p, identity, saved, work⟩

/-- The recovery backup as the error of a transaction names it, by its file. -/
def backupName (backup : String) : String :=
  if backup = "" then "none (direct restore)" else backup

/-- `execute_with_gate`. -/
def executeWithGate (X : Crates) (device : Device) (id : String) (confirmed : Bool) :
    Eng Outcome := do
  let c ← clear X device id confirmed
  -- claim before the first write: a failed transaction cannot be replayed
  askAs "TRANSACTION_IO" (.rename (.plan .flash id) (.used .flash id))
  createNew "TRANSACTION_IO" (.journal .flash id)
  journal id (.started c.plan.json (if c.plan.backup = "" then none else some c.plan.backup))
  let run ← (transfer X id c.plan c.identity c.saved c.work).attempt
  match run with
  | .ok v => return v
  | .error e => do
    let _ ← (journal id (.failed e)).attempt
    throw (fail e.code (s!"{e.detail}; backup={backupName c.plan.backup}; " ++
      s!"journal={id}.journal.jsonl; stop and inspect before retrying"))

/-- `target`. -/
def target (X : Crates) (id : String) : Eng Device := do
  let p ← loadPlan X id
  return p.device

end Flash

end K11CHaos.Engine
