import K11CHaos.Lib.Hex
import K11CHaos.Scripts.GptImage

/-!
# The U-Boot installation plan

`source/scripts/prepare-emmc-install.py`: `prepare` computes the patched MBR, both GPT headers and
the checksums to compare, `command_sections` the U-Boot commands that realise them.
-/

namespace K11CHaos.Scripts.PrepareEmmc
open Engine.Gpt (u32at u64at put32 put64 crcByte)
open GptImage (Info ValueError require sector entryBytes crcHeader inspectImage)

/-- `IMAGE_RAM`. -/
def imageRam : Nat := 0x40000000

/-- `TAIL_RAM`. -/
def tailRam : Nat := 0x80000000

/-- `zlib.crc32(data, value)`. -/
def crc32 (data : Bytes) (value : UInt32) : UInt32 :=
  ~~~ data.foldl crcByte (~~~ value)

/-- What `file.read(1024 * 1024)` gives until the end. -/
def fileBlocks (file : Bytes) : List Bytes :=
  if file = [] then []
  else file.take (1024 * 1024) :: fileBlocks (file.drop (1024 * 1024))
termination_by file.length
decreasing_by
  rename_i h
  have := List.length_pos_iff.mpr h
  rw [List.length_drop]
  omega

/-- The variables of the loop of `prepare`: `hashed` is what the digest was updated with. -/
structure Scan where
  offset : Nat
  hashed : Bytes
  originalCrc : UInt32
  patchedCrc : UInt32

/-- One round of the loop of `prepare`. -/
def scanBlock (mbr primary : Bytes) (s : Scan) (block : Bytes) : Scan :=
  let patched := if s.offset = 0 then mbr ++ primary ++ block.drop 1024 else block
  ⟨s.offset + patched.length, s.hashed ++ block, crc32 block s.originalCrc,
    crc32 patched s.patchedCrc⟩

/-- What `prepare` returns. -/
structure Plan extends Info where
  newMbr : Bytes
  newPrimary : Bytes
  newBackup : Bytes
  tail : Bytes
  target : Nat
  sha256 : String
  originalCrc : UInt32
  patchedCrc : UInt32
  tailCrc : UInt32
deriving DecidableEq, Repr

/-- `prepare`: `path` as in `inspectImage`. -/
def prepare (path : Option Bytes) (expectedSha256 : String) (targetSectors : Int) :
    Except ValueError Plan := do
  let info ← inspectImage path true
  let size := info.sectors * sector
  require (size < tailRam - imageRam) "Image exceeds tested non-overlapping RAM buffers"
  require (info.sectors + 33 ≤ targetSectors ∧ targetSectors ≤ 0xFFFFFFFF)
    "Target capacity is too small or unsupported"
  let target := targetSectors.toNat
  require (∀ part ∈ info.parts.getLast?, (part.stop : Int) < targetSectors - 33)
    "Partition would overlap destination GPT"
  require (expectedSha256.length = 64 ∧
      expectedSha256.toList.all fun c => "0123456789abcdefABCDEF".toList.contains c)
    "Supply the decompressed image SHA-256 from its release manifest"
  let mbr := put32 info.mbr 458 (target - 1)
  let primary := put64 info.primary 32 (target - 1)
  let primary := put64 primary 48 (target - 34)
  let primary ← crcHeader primary
  let backup := put64 primary 24 (target - 1)
  let backup := put64 backup 32 1
  let backup := put64 backup 72 (target - 33)
  let backup ← crcHeader backup
  let tail := info.entries ++ backup
  let scan := (fileBlocks (path.getD [])).foldl (scanBlock mbr primary) ⟨0, [], 0, 0⟩
  require (hashBytes scan.hashed = expectedSha256.toLower)
    "Source SHA-256 does not match release manifest"
  return { info with
    newMbr := mbr, newPrimary := primary, newBackup := backup, tail := tail, target := target,
    sha256 := hashBytes scan.hashed, originalCrc := scan.originalCrc,
    patchedCrc := scan.patchedCrc, tailCrc := crc32 tail 0 }

/-- `word_changes`. -/
def wordChanges (address : Nat) (original changed : Bytes) : List String :=
  ((List.range' 0 ((original.length + 3) / 4) 4).filter fun offset =>
      slice original offset 4 ≠ slice changed offset 4).map fun offset =>
    line ["mw.l", hex (address + offset), hexPad 8 (u32at changed offset)]

/-- The loop of `command_sections` over the bytes of the MBR. -/
def byteChanges (address : Nat) (original changed : Bytes) : List String :=
  ((original.zip changed).zipIdx.filter fun p => p.1.1 ≠ p.1.2).map fun p =>
    line ["mw.b", hex (address + p.2), hexPad 2 p.1.2.toNat]

/-- `read_source` of `command_sections`. -/
def readSource (plan : Plan) : List String :=
  ["mmc dev 1", "mmc info", "mmc part",
    line ["mmc", "read", hex imageRam, "0", hex plan.sectors],
    line ["crc32", hex imageRam, hex (plan.sectors * sector)]]

/-- `patch` of `command_sections`. -/
def patch (plan : Plan) : List String :=
  byteChanges imageRam plan.mbr plan.newMbr ++
  wordChanges (imageRam + sector) plan.primary plan.newPrimary ++
  [line ["cp.b", hex (imageRam + 2 * sector), hex tailRam, hex entryBytes],
    line ["cp.b", hex (imageRam + sector), hex (tailRam + entryBytes), hex sector]] ++
  wordChanges (tailRam + entryBytes) plan.newPrimary plan.newBackup ++
  [line ["crc32", hex imageRam, hex (plan.sectors * sector)],
    line ["crc32", hex tailRam, hex plan.tail.length]]

/-- `identity` of `command_sections`. -/
def identity : List String :=
  ["mmc dev 0", "mmc info", "mmc part"]

/-- `write` of `command_sections`. -/
def write (plan : Plan) : List String :=
  [line ["mmc", "write", hex imageRam, "0", hex plan.sectors],
    line ["mmc", "write", hex tailRam, hex (plan.target - 33), "21"],
    line ["mmc", "read", hex imageRam, "0", hex plan.sectors],
    line ["crc32", hex imageRam, hex (plan.sectors * sector)],
    line ["mmc", "read", hex tailRam, hex (plan.target - 33), "21"],
    line ["crc32", hex tailRam, hex plan.tail.length],
    "gpt verify mmc 0", "mmc part"]

/-- `command_sections`. -/
def commandSections (plan : Plan) : List (List String) :=
  [readSource plan, patch plan, identity, write plan]

/-- The expected values `render` prints above each section. -/
def expectedCrcs (plan : Plan) : List (List UInt32) :=
  [[plan.originalCrc], [plan.patchedCrc, plan.tailCrc], [], [plan.patchedCrc, plan.tailCrc]]

end K11CHaos.Scripts.PrepareEmmc
