import K11CHaos.Engine.Gpt
import K11CHaos.Lib.Sha256

/-!
# The GPT inspection of installation images

`source/scripts/gpt_image.py`: `inspect_image` and what it calls, as functions of the content of the
file. `zlib.crc32` is the CRC of `Engine/Gpt.lean` and `decode("utf-16-le")` its strict decoder.
-/

namespace K11CHaos.Scripts.GptImage
open Engine.Gpt (u32at u64at put32 crc crcByte efiPart entries fromUtf16 windows2)

/-- A raised `ValueError`: from `require`, with its message, or from a decoder. -/
inductive ValueError where
  | message (text : String)
  | unicode
deriving DecidableEq, Repr

/-- `require`. -/
def require (condition : Prop) [Decidable condition] (message : String) :
    Except ValueError Unit :=
  if condition then .ok () else .error (.message message)

/-- A requirement passes when it holds. -/
@[simp] lemma require_ok {condition : Prop} [Decidable condition] {message : String} {u : Unit} :
    require condition message = .ok u ↔ condition := by
  unfold require
  split_ifs with h <;> simp [h]

/-- `SECTOR`. -/
def sector : Nat := 512

/-- `ENTRY_BYTES`. -/
def entryBytes : Nat := 16384

/-- `LABELS`. -/
def labels : List String :=
  ["hassos-boot", "hassos-kernel0", "hassos-system0", "hassos-kernel1",
    "hassos-system1", "hassos-bootstate", "hassos-overlay", "hassos-data"]

/-- `crc_header`. -/
def crcHeader (header : Bytes) : Except ValueError Bytes := do
  let size := u32at header 12
  require (92 ≤ size ∧ size ≤ sector) "Unsupported GPT header size"
  let result := put header 16 (zeros 4)
  return put32 result 16 (crc (result.take size))

/-- `read_at`. -/
def readAt (file : Bytes) (offset count : Nat) : Except ValueError Bytes := do
  let data := slice file offset count
  require (data.length = count) "Short image read"
  return data

/-- What `header_fields` returns. -/
structure Fields where
  first : Nat
  last : Nat
  entriesLba : Nat
  entriesCrc : Nat
deriving DecidableEq, Repr

/-- `header_fields`. -/
def headerFields (raw : Bytes) (lba sectors : Nat) : Except ValueError Fields := do
  require (slice raw 0 8 = efiPart) "GPT signature missing"
  require (u32at raw 8 = 0x10000) "GPT revision changed"
  let sealed ← crcHeader raw
  require (slice raw 16 4 = slice sealed 16 4) "GPT header CRC mismatch"
  let own := u64at raw 24
  let other := u64at raw 32
  let first := u64at raw 40
  let last := u64at raw 48
  let entriesLba := u64at raw 72
  require (own = lba ∧ other = if lba = 1 then sectors - 1 else 1)
    "GPT reciprocal header locations differ"
  require (u32at raw 80 = 128 ∧ u32at raw 84 = 128) "Expected 128 GPT entries of 128 bytes"
  require (entriesLba = if lba = 1 then 2 else sectors - 33) "Unexpected GPT entry location"
  require (34 ≤ first ∧ first ≤ last ∧ last ≤ sectors - 34) "GPT usable bounds overlap metadata"
  require (slice raw 20 4 = zeros 4) "GPT reserved field is nonzero"
  return ⟨first, last, entriesLba, u32at raw 88⟩

/-- A row of `parts`: the number of the entry, its first and last sector and its name. -/
structure Part where
  row : Nat
  start : Nat
  stop : Nat
  name : String
deriving DecidableEq, Repr

/-- `entry[56:128].decode("utf-16-le").split("\0", 1)[0]`. -/
def partName (entry : Bytes) : Except ValueError String :=
  match fromUtf16 ((List.range 36).map fun i => fromLe (slice entry (56 + 2 * i) 2)) with
  | none => .error .unicode
  | some text => .ok (String.ofList (text.toList.takeWhile (· ≠ Char.ofNat 0)))

/-- The loop of `inspect_image` over the entries, from an index on. -/
def partRows (first last : Nat) : Nat → List Bytes → Except ValueError (List Part)
  | _, [] => .ok []
  | index, entry :: rest =>
    if slice entry 0 16 = zeros 16 then partRows first last (index + 1) rest
    else do
      let start := u64at entry 32
      let stop := u64at entry 40
      require (first ≤ start ∧ start ≤ stop ∧ stop ≤ last) "Partition outside usable bounds"
      let name ← partName entry
      let parts ← partRows first last (index + 1) rest
      return ⟨index + 1, start, stop, name⟩ :: parts

/-- `sorted(parts, key=lambda row: row[1])`. -/
def ordered (parts : List Part) : List Part :=
  parts.mergeSort fun a b => decide (a.start ≤ b.start)

/-- `str(uuid.UUID(bytes_le=raw)).upper()`. -/
def uuidText (raw : Bytes) : String :=
  let groups := [(slice raw 0 4).reverse, (slice raw 4 2).reverse, (slice raw 6 2).reverse,
    slice raw 8 2, slice raw 10 6]
  String.ofList ((List.intercalate ['-'] (groups.map hexChars)).map Char.toUpper)

/-- What `inspect_image` returns. -/
structure Info where
  sectors : Nat
  mbr : Bytes
  primary : Bytes
  backup : Bytes
  entries : Bytes
  parts : List Part
  guid : String
deriving DecidableEq, Repr

/-- The K11C part of `inspect_image`. -/
def requireK11c (parts : List Part) : Except ValueError Unit := do
  require (parts.map (·.row) = (List.range 8).map (· + 1) ∧ parts.map (·.name) = labels)
    "Expected the eight HAOS partitions"
  require ((parts.map (·.start)).head? = some 34816) "K11C U-Boot reservation is missing"

/-- `inspect_image`: a file is its content, `none` what is not a regular file. -/
def inspectImage (path : Option Bytes) (k11c : Bool) : Except ValueError Info := do
  require path.isSome "Expected a regular image file"
  let file := path.getD []
  let length := file.length
  require (length % sector = 0 ∧ 68 * sector ≤ length) "Image size is not sector aligned"
  let sectors := length / sector
  let mbr ← readAt file 0 sector
  let primary ← readAt file sector sector
  let backup ← readAt file ((sectors - 1) * sector) sector
  let p ← headerFields primary 1 sectors
  let b ← headerFields backup (sectors - 1) sectors
  require (slice primary 56 16 = slice backup 56 16) "Primary/backup disk GUID mismatch"
  require (slice primary 8 8 = slice backup 8 8 ∧ p.first = b.first ∧ p.last = b.last)
    "GPT header policy differs"
  let entries ← readAt file (p.entriesLba * sector) entryBytes
  let backupEntries ← readAt file (b.entriesLba * sector) entryBytes
  require (crc entries = p.entriesCrc ∧ crc backupEntries = b.entriesCrc)
    "GPT partition-array CRC mismatch"
  require (entries = backupEntries) "Primary/backup partition arrays differ"
  require (slice mbr 510 2 = [0x55, 0xaa] ∧ mbr[450]? = some 0xee) "Protective MBR missing"
  require (u32at mbr 454 = 1 ∧ u32at mbr 458 = min (sectors - 1) 0xFFFFFFFF)
    "Protective MBR capacity differs"
  require (slice mbr 462 48 = zeros 48) "Hybrid MBR is not supported"
  let parts ← partRows p.first p.last 0 (Engine.Gpt.entries entries)
  require (∀ r ∈ windows2 (ordered parts), r.1.stop < r.2.start) "Partitions overlap"
  (if k11c then requireK11c parts else .ok ())
  return ⟨sectors, mbr, primary, backup, entries, parts, uuidText (slice primary 56 16)⟩

end K11CHaos.Scripts.GptImage
