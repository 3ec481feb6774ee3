import K11CHaos.Engine.Archive

/-!
# Boot backups

`workflow.rs` and `flash::snapshot`: the backup of the boot area and both GPT copies as four files with
a manifest (`backup`), and the boot area that a recovery backup of either kind holds (`snapshot`).
-/

namespace K11CHaos.Engine

/-- `usb::guard`. -/
def guard (d : Device) : Result Unit := do
  deny (d.vid ≠ 0x2207 ∨ (d.pid ≠ 0x350a ∧ d.pid ≠ 0x300a)) "UNSUPPORTED_DEVICE"
    "Not an RK356x USB ID"
  deny (d.mode ≠ "Maskrom" ∧ d.mode ≠ "Loader") "USB_MODE" "Unknown USB descriptor mode"
  deny (!d.binding) "DRIVER_BINDING" "Device is not accessible through official Rockusb"

/-- `struct Snapshot`: the primary GPT, the reserved area up to the first partition, the tail. -/
structure Snapshot where
  primary : Bytes
  reserved : Bytes
  tail : Bytes
deriving DecidableEq

/-- `Snapshot::head`. -/
def Snapshot.head (s : Snapshot) : Bytes :=
  s.primary ++ s.reserved

/-- `Snapshot::digest`. -/
def Snapshot.digest (s : Snapshot) : String :=
  hashBytes (s.primary ++ s.reserved ++ s.tail)

namespace Workflow

/-- `flash::backup_id`. -/
def backupId (s : String) : Bool :=
  "k11c-".toList.isPrefixOf s.toList && decide (s.toList.length < 120) &&
    s.toList.all fun c => c.isAlphanum || c == '-'

/-- `workflow::CHUNK`. -/
def chunk : Nat := 128 * 512

/-- `plan`: the four parts of a backup. -/
def plan (sectors : UInt32) : Result (List Part) := do
  deny (sectors.toNat ≤ 34816 + 33) "INVALID_CAPACITY" (toString sectors)
  return [⟨"gpt-primary.bin", 0, 34, 34 * 512, ""⟩, ⟨"reserved-gap.bin", 34, 30, 30 * 512, ""⟩,
    ⟨"uboot-reserved.bin", 64, 34752, 34752 * 512, ""⟩,
    ⟨"gpt-backup.bin", sectors - 33, 33, 33 * 512, ""⟩]

/-- `save_new`. -/
def saveNew (code : String) (p : Path) (b : Bytes) : Eng Unit := do
  createNew code p
  askAs code (.append p b)

/-- The loop of `new_directory`, with the suffixes that are left. -/
def newDirectoryFrom (stamp : String) : List Nat → Eng String
  | [] => reject "BACKUP_IO" "Could not reserve a new backup directory"
  | n :: ns => do
    let id := s!"k11c-{stamp}-{n}"
    let made : Bool ← askAs "BACKUP_IO" (.makeDir (.backupPartial id ""))
    if made then return id
    else newDirectoryFrom stamp ns

/-- `new_directory`. -/
def newDirectory : Eng String := do
  let _ ← askAs "BACKUP_IO" (.makeDir (.backup "" ""))
  let stamp : String ← ask .stamp
  newDirectoryFrom stamp (List.range 100)

/-- The blocks of a part, read and appended to its file. -/
def copyBlocks (p : Path) (lba : UInt32) : List (Nat × Nat) → Eng Bytes
  | [] => pure []
  | (offset, len) :: bs => do
    let b ← readExact (lba + UInt32.ofNat (offset / 512)) len
    askAs "BACKUP_IO" (.append p b)
    let rest ← copyBlocks p lba bs
    return b ++ rest

/-- The first pass of `backup`: every part into its file. -/
def copyParts (id : String) : List Part → Eng (List Part)
  | [] => pure []
  | part :: parts => do
    createNew "BACKUP_IO" (.backupPartial id part.file)
    let b ← copyBlocks (.backupPartial id part.file) part.lba (blocks chunk part.bytes 0)
    let rest ← copyParts id parts
    return { part with sha256 := hashBytes b } :: rest

/-- The second pass of `backup`: the device still holds what was read. -/
def rereadParts : List Part → Eng Unit
  | [] => pure ()
  | part :: parts => do
    let b ← readBlocks part.lba (blocks chunk part.bytes 0)
    check (deny (hashBytes b ≠ part.sha256) "DEVICE_CHANGED" "Repeated USB reads differ")
    rereadParts parts

/-- `verify_saved`. -/
def verifySaved (id : String) : List Part → Eng Unit
  | [] => pure ()
  | part :: parts => do
    let b : Bytes ← askAs "BACKUP_VERIFY" (.load (.backupPartial id part.file))
    check (deny (b.length ≠ part.bytes ∨ hashBytes b ≠ part.sha256) "BACKUP_VERIFY" part.file)
    verifySaved id parts

/-- The report of `gpt::check` as the manifest holds it. -/
def reportJson (r : Gpt.Report) : Json :=
  if r.issues = ["capture_size"] then
    .obj [("healthy", .bool false), ("issues", .arr [.str "capture_size"])]
  else
    .obj [("healthy", .bool r.healthy), ("issues", .arr (r.issues.map .str)),
      ("layout", .str "128x128"), ("partitions", .num r.partitions)]

/-- The part of `backup` that may leave an incomplete directory. -/
def backupBody (X : Crates) (id : String) (device : Device) (identity : Identity) (caps : String)
    (parts : List Part) : Eng Unit := do
  let parts ← copyParts id parts
  rereadParts parts
  verifySaved id parts
  let after : Identity ← ask .identity
  check (deny (after ≠ identity) "DEVICE_CHANGED"
    "Device identity/storage changed during backup")
  let primary : Bytes ← askAs "BACKUP_IO" (.load (.backupPartial id "gpt-primary.bin"))
  let tail : Bytes ← askAs "BACKUP_IO" (.load (.backupPartial id "gpt-backup.bin"))
  check (requireGptBytes (primary.drop 512))
  check (requireGptBytes tail)
  let _ ← requireFullRead
  let report := reportJson (Gpt.check primary tail identity.sectors)
  saveNew "BACKUP_IO" (.backupPartial id "manifest.json")
    (X.pretty (manifestJson identity device caps parts report))
  saveNew "BACKUP_IO" (.backupPartial id "SHA256SUMS")
    (Json.utf8 (parts.flatMap fun p => (p.sha256 ++ "  " ++ p.file ++ "\n").toList))
  askAs "BACKUP_IO" (.remove (.backupPartial id "incomplete.json"))
  askAs "BACKUP_IO" (.renameBackup id)

/-- `backup`: the name of the finished backup. -/
def backup (X : Crates) (device : Device) : Eng String := do
  check (guard device)
  let identity : Identity ← ask .identity
  check (requireEmmc identity.storage)
  let caps ← requireFullRead
  let parts ← check (plan identity.sectors)
  let id ← newDirectory
  saveNew "BACKUP_IO" (.backupPartial id "incomplete.json")
    (X.pretty (.obj [("complete", .bool false), ("device", device.json),
      ("identity", identity.json)]))
  let run ← (backupBody X id device identity caps parts).attempt
  check (run.mapError fun e => fail e.code s!"{e.detail}; incomplete backup: {id}.partial")
  return id

/-- The value of a hexadecimal digit. -/
def hexValue (c : Char) : Nat :=
  if c.isDigit then c.toNat - '0'.toNat
  else if 'a' ≤ c then c.toNat - 'a'.toNat + 10
  else c.toNat - 'A'.toNat + 10

/-- The recorded capabilities show `Read LBA`. -/
def fullReadRecorded (caps : String) : Bool :=
  match caps.toList with
  | a :: b :: cs =>
    cs.length == 14 && (a :: b :: cs).all Archive.isHexDigit &&
      (16 * hexValue a + hexValue b) &&& 8 != 0
  | _ => false

/-- The loop of `snapshot` over the files of a backup. -/
def readParts (st : Store) (id : String) :
    List (Part × String × UInt32 × UInt32) → Result (List Bytes)
  | [] => .ok []
  | (p, name, lba, sectors) :: ps => do
    deny (p.file ≠ name ∨ p.lba ≠ lba ∨ p.sectors ≠ sectors ∨ p.bytes ≠ sectors.toNat * 512)
      "BACKUP_VERIFY" "Backup ranges were changed"
    let b ← st.bounded (.backup id name) (sectors.toNat * 512)
    deny (b.length ≠ p.bytes ∨ hashBytes b ≠ p.sha256) "BACKUP_VERIFY" name
    let rest ← readParts st id ps
    return b :: rest

/-- `snapshot` of a boot backup. -/
def snapshotBackup (X : Crates) (st : Store) (id : String) (identity : Identity) :
    Result Snapshot := do
  deny (!backupId id) "BACKUP_ID" "Select a completed backup"
  let text ← st.bounded (.backup id "manifest.json") (128 * 1024)
  let m ← parsed "TRANSACTION_IO" (X.parseManifest text)
  let saved ← parsed "TRANSACTION_IO" m.identity
  deny ((m.format ≠ some 1 ∧ m.format ≠ some 2) ∨ !m.complete ∨
      m.kind ≠ some "k11c-boot-and-gpt" ∨ !m.usbRereadVerified ∨ saved ≠ identity)
    "BACKUP_DEVICE" "Backup does not match the selected USB device and eMMC capacity"
  deny (m.format = some 2 ∧ !fullReadRecorded m.readCapabilityHex) "BACKUP_VERIFY"
    "Backup lacks full-read capability evidence"
  let parts ← parsed "TRANSACTION_IO" m.files
  let expected : List (String × UInt32 × UInt32) :=
    [("gpt-primary.bin", 0, 34), ("reserved-gap.bin", 34, 30), ("uboot-reserved.bin", 64, 34752),
      ("gpt-backup.bin", identity.sectors - 33, 33)]
  deny (parts.length ≠ expected.length) "BACKUP_VERIFY" "Incomplete backup file list"
  let payloads ← readParts st id (parts.zip expected)
  match payloads with
  | [primary, gap, uboot, tail] => do
    requireGptBytes (primary.drop 512)
    requireGptBytes tail
    -- a legacy manifest has no evidence of full reads: only a valid pair establishes its bytes
    deny (m.format = some 1 ∧ ¬ (Gpt.check primary tail identity.sectors).healthy) "BACKUP_VERIFY"
      "Legacy backup cannot establish valid disk reads; take a new backup"
    return ⟨primary, gap ++ uboot, tail⟩
  | _ => throw (fail "BACKUP_VERIFY" "Incomplete backup file list")

end Workflow

/-- `snapshot`: the boot area that a recovery backup holds. -/
def snapshot (X : Crates) (st : Store) (id : String) (identity : Identity) : Result Snapshot :=
  if Archive.validId id then do
    let a ← Archive.openVerified X st id
    deny (a.metadata.identity.sectors ≠ identity.sectors) "BACKUP_DEVICE"
      "Recovery capacity differs"
    let pair ← a.bootSnapshot X
    return ⟨pair.1.take (34 * 512), pair.1.drop (34 * 512), pair.2⟩
  else
    Workflow.snapshotBackup X st id identity

end K11CHaos.Engine
