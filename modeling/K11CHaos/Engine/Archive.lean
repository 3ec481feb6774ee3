import K11CHaos.Engine.Components
import K11CHaos.Engine.Pipeline

/-!
# Backup archives

`archive.rs`: the ranges of a backup, its metadata, the container (`openBytes`), the check of its whole
payload (`verify`) and the backup of a device (`create`). A payload is read from a decoder stream in
blocks; every block is laid over the windows of the primary and the tail sectors (`overlay`), which must
come out as the metadata has them.
-/

namespace K11CHaos.Engine.Archive

/-- `MAGIC_XZ`. -/
def magicXz : Bytes := [0x4b, 0x31, 0x31, 0x43, 0x42, 0x4b, 0x30, 0x33]

/-- `MAGIC_ZSTD`. -/
def magicZstd : Bytes := [0x4b, 0x31, 0x31, 0x43, 0x42, 0x4b, 0x30, 0x34]

/-- `MAX_META`. -/
def maxMeta : Nat := 256 * 1024

/-- `err`. -/
def err (detail : String) : Failure :=
  fail "BACKUP_VERIFY" detail

/-- `magic`. -/
def magic (format : Nat) : Result Bytes :=
  if format = 3 then .ok magicXz
  else if format = 4 then .ok magicZstd
  else .error (err "Unsupported archive version")

/-- `is_ascii_hexdigit`. -/
def isHexDigit (c : Char) : Bool :=
  c.isDigit || (decide ('a' ≤ c) && decide (c ≤ 'f')) || (decide ('A' ≤ c) && decide (c ≤ 'F'))

/-- `valid_id`. -/
def validId (id : String) : Bool :=
  let cs := id.toList
  decide (cs.length < 120) && decide (¬ ['.', '.'] <:+: cs) &&
    cs.all (fun c => c.isAlphanum || c == '-' || c == '.' || c == '_') &&
    ((["FULL-", "BOOT-", "HAOS-"].any (fun p => p.toList.isPrefixOf cs) &&
        ".k11cbackup".toList.isSuffixOf cs) ||
      ("raw-".toList.isPrefixOf cs && cs.length == 68 && (cs.drop 4).all isHexDigit))

/-- `kind`. -/
def kindOf (s : String) : Result Unit :=
  deny (s ≠ "FULL" ∧ s ≠ "BOOT" ∧ s ≠ "HAOS") "BACKUP_KIND" "Select FULL, BOOT or HAOS"

/-- `classify`. -/
def classify (primary tail : Bytes) (sectors : UInt32) : String :=
  if Gpt.requireK11c primary tail sectors = .ok () then "HAOS"
  else if (Gpt.check primary tail sectors).healthy then "other"
  else "unknown"

/-- The range of a HAOS partition; the arithmetic is that of `u64`, the LBA is cut to `u32`. -/
def partitionRange (e : Bytes) : Range :=
  let start := Gpt.u64at e 32
  let last := Gpt.u64at e 40
  ⟨Gpt.fromUtf16Lossy (Gpt.nameUnits e), UInt32.ofNat start,
    ((UInt64.ofNat last - UInt64.ofNat start + 1) * 512).toNat, ""⟩

/-- `ranges`. -/
def ranges (kind : String) (primary tail : Bytes) (sectors : UInt32) : Result (List Range) := do
  kindOf kind
  deny (sectors ≤ 34849) "INVALID_CAPACITY" (toString sectors)
  if kind = "FULL" then
    return [⟨"Full eMMC user area", 0, sectors.toNat * 512, ""⟩]
  Gpt.requireK11c primary tail sectors
  if kind = "BOOT" then
    return [⟨"Boot firmware and primary GPT", 0, 34816 * 512, ""⟩,
      ⟨"Backup GPT", sectors - 33, 33 * 512, ""⟩]
  return ((Gpt.entries (primary.drop 1024)).take 8).map partitionRange

/-- Same place, with a well-formed hash. -/
def rangeMatches (a b : Range) : Bool :=
  a.lba == b.lba && a.bytes == b.bytes && b.sha256.toList.length == 64 &&
    b.sha256.toList.all isHexDigit

/-- `validate`. -/
def validate (m : Meta) : Result Unit := do
  let _ ← magic m.format
  deny (m.identity.storage ≠ "emmc" ∨ m.primary.length ≠ 34 * 512 ∨ m.tail.length ≠ 33 * 512)
    "BACKUP_VERIFY" "Invalid metadata"
  let expected ← ranges m.kind m.primary m.tail m.identity.sectors
  deny (m.os ≠ classify m.primary m.tail m.identity.sectors) "BACKUP_VERIFY"
    "OS classification differs from saved sectors"
  deny (expected.length ≠ m.ranges.length) "BACKUP_VERIFY" "Incomplete range list"
  deny ((expected.zip m.ranges).any fun r => !rangeMatches r.1 r.2) "BACKUP_VERIFY"
    "Invalid range/hash"
  requireGptBytes (m.primary.drop 512)
  requireGptBytes m.tail

end Archive

/-- `struct Archive`: the locked file, its metadata, the length of its payload, and whether it is a raw
    image. -/
structure Archive where
  file : Bytes
  metadata : Meta
  payload : Nat
  raw : Bool

namespace Archive

/-- `Archive::open`. -/
def openBytes (X : Crates) (file : Bytes) : Result Archive := do
  deny (file.length < 56) "BACKUP_VERIFY" "Truncated archive"
  let signature := slice file 0 8
  deny (signature ≠ magicXz ∧ signature ≠ magicZstd) "BACKUP_VERIFY" "Not a K11C backup"
  let footer := slice file (file.length - 48) 48
  deny (footer.drop 40 ≠ signature) "BACKUP_VERIFY" "Incomplete archive footer"
  let n := fromLe (slice footer 32 8)
  deny (n > maxMeta ∨ n > file.length - 56) "BACKUP_VERIFY" "Invalid metadata length"
  let payload := file.length - 48 - n - 8
  let bytes := slice file (8 + payload) n
  deny (Sha256.digest bytes ≠ footer.take 32) "BACKUP_VERIFY" "Metadata checksum mismatch"
  let m ← parsed "BACKUP_VERIFY" (X.parseMeta bytes)
  validate m
  deny (m.format ≠ if signature = magicXz then 3 else 4) "BACKUP_VERIFY"
    "Archive version does not match payload signature"
  return ⟨file, m, payload, false⟩

/-- `Archive::reader`: what the decoder makes of the payload. -/
def reader (X : Crates) (a : Archive) : Decoded :=
  if a.raw then ⟨a.file.take a.payload, true, a.payload⟩
  else if a.metadata.format = 3 then X.decode .xz (slice a.file 8 a.payload)
  else X.decode .zstd (slice a.file 8 a.payload)

/-- `overlay`: lay the bytes of a disk offset over a window of the disk. -/
def overlay (src : Bytes) (offset : Nat) (dst : Bytes) (target : Nat) : Bytes :=
  let start := max offset target
  let stop := min (offset + src.length) (target + dst.length)
  if start < stop then put dst (start - target) (slice src (start - offset) (stop - start))
  else dst

/-- The stream still to be read and the two windows so far. -/
structure Windows where
  rest : Bytes
  primary : Bytes
  tail : Bytes

/-- The inner loop of `verify`, with the bytes of the range so far. -/
def verifyBlocks (lba : Nat) (tailAt : Nat) : List (Nat × Nat) → Windows → Bytes →
    Result (Windows × Bytes)
  | [], w, data => .ok (w, data)
  | (offset, n) :: bs, w, data =>
    if w.rest.length < n then
      .error (err "failed to fill whole buffer")
    else
      let buf := w.rest.take n
      verifyBlocks lba tailAt bs
        ⟨w.rest.drop n, overlay buf (lba * 512 + offset) w.primary 0,
          overlay buf (lba * 512 + offset) w.tail tailAt⟩ (data ++ buf)

/-- The outer loop of `verify`. -/
def verifyRanges (tailAt : Nat) : List Range → Windows → Result Windows
  | [], w => .ok w
  | r :: rs, w => do
    let (w, data) ← verifyBlocks r.lba.toNat tailAt (blocks chunk r.bytes 0) w []
    deny (hashBytes data ≠ r.sha256) "BACKUP_VERIFY" "Backup payload checksum mismatch"
    verifyRanges tailAt rs w

/-- `Archive::verify`. -/
def verify (X : Crates) (a : Archive) : Result Unit := do
  let stream := a.reader X
  let w ← verifyRanges ((a.metadata.identity.sectors.toNat - 33) * 512) a.metadata.ranges
    ⟨stream.out, zeros (34 * 512), zeros (33 * 512)⟩
  deny (w.rest ≠ []) "BACKUP_VERIFY" "Unexpected extra backup payload"
  deny (!stream.ended) "BACKUP_VERIFY" "Invalid compressed payload"
  deny (!a.raw ∧ stream.consumed ≠ a.payload) "BACKUP_VERIFY" "Trailing compressed payload"
  deny (a.metadata.kind ≠ "HAOS" ∧ (w.primary ≠ a.metadata.primary ∨ w.tail ≠ a.metadata.tail))
    "BACKUP_VERIFY" "GPT metadata does not match payload"

/-- `Archive::boot_snapshot`. -/
def bootSnapshot (X : Crates) (a : Archive) : Result (Bytes × Bytes) := do
  deny (a.metadata.kind = "HAOS") "BACKUP_VERIFY" "HAOS archive has no boot firmware"
  let stream := a.reader X
  deny (stream.out.length < 34816 * 512) "BACKUP_VERIFY" "failed to fill whole buffer"
  return (stream.out.take (34816 * 512), a.metadata.tail)

/-- `raw_headers`. The time of creation that it notes down is not read again. -/
def rawHeaders (file : Bytes) (sha256 : String) : Result Archive := do
  deny (file.length % 512 ≠ 0 ∨ file.length ≤ 34849 * 512 ∨ file.length / 512 > 2 ^ 32 - 1)
    "BACKUP_FORMAT" "Expected full sector-aligned raw disk image"
  let a := slice file 0 (34 * 512)
  deny (slice a 0 4 = [0x52, 0x4b, 0x46, 0x57] ∨ slice a 0 4 = [0x52, 0x4b, 0x41, 0x46] ∨
      slice a 0 4 = [0x3a, 0xff, 0x26, 0xed])
    "BACKUP_FORMAT" "Firmware package/sparse image is not a full raw disk dump"
  let b := slice file (file.length - 33 * 512) (33 * 512)
  requireGptBytes (a.drop 512)
  requireGptBytes b
  let sectors := UInt32.ofNat (file.length / 512)
  let m : Meta := ⟨3, "FULL", ⟨sectors, "emmc", "", ""⟩,
    [⟨"Full eMMC user area", 0, file.length, sha256⟩], a, b, classify a b sectors, "", "", false⟩
  validate m
  return ⟨file, m, file.length, true⟩

/-- `raw_path`. -/
def rawPath (X : Crates) (st : Store) (id : String) : Result String := do
  let b ← st.file "BACKUP_IO" (.rawReceipt id)
  deny (b.length > maxMeta) "BACKUP_VERIFY" "Import receipt too large"
  let receipt ← parsed "BACKUP_VERIFY" (X.parseReceipt b)
  match receipt with
  | some p => return p
  | none => throw (err "Missing raw path")

/-- `open_metadata`. -/
def openMetadata (X : Crates) (st : Store) (id : String) : Result Archive := do
  deny (!validId id) "BACKUP_ID" "Select a backup file"
  if "raw-".toList.isPrefixOf id.toList then
    let p ← rawPath X st id
    let file ← st.file "BACKUP_IO" (.outside p)
    rawHeaders file (String.ofList (id.toList.drop 4))
  else
    let file ← st.file "BACKUP_IO" (.archive id)
    openBytes X file

/-- `open`. -/
def openVerified (X : Crates) (st : Store) (id : String) : Result Archive := do
  let a ← openMetadata X st id
  verify X a
  return a

end Archive

/-- `usb::require_emmc`. -/
def requireEmmc (storage : String) : Result Unit :=
  deny (storage ≠ "emmc") "NOT_EMMC"
    s!"Selected storage is {storage}; no storage switch was sent"

namespace Archive

/-- `headers`. -/
def headers (identity : Identity) : Eng (Bytes × Bytes) := do
  check (deny (identity.sectors ≤ 34849) "INVALID_CAPACITY" (toString identity.sectors))
  let primary ← readExact 0 (34 * 512)
  let tail ← readExact (identity.sectors - 33) (33 * 512)
  check (requireGptBytes (primary.drop 512))
  check (requireGptBytes tail)
  return (primary, tail)

/-- The name of the `n`-th attempt of `reserve`. -/
def reservedId (kind stamp : String) (n : Nat) : String :=
  kind ++ "-" ++ stamp ++ (if n = 0 then "" else "-" ++ toString n) ++ ".k11cbackup"

/-- The loop of `reserve`, with the names that are left. -/
def reserveFrom (kind stamp : String) : List Nat → Eng String
  | [] => reject "BACKUP_IO" "Could not create unique backup name"
  | n :: ns => do
    let id := reservedId kind stamp n
    let there : Bool ← ask (.present (.archive id))
    if there then reserveFrom kind stamp ns
    else
      let made : Bool ← askAs "BACKUP_IO" (.create (.archivePartial id))
      if made then return id
      else reserveFrom kind stamp ns

/-- `reserve`. -/
def reserve (kind : String) : Eng String := do
  let _ ← askAs "BACKUP_IO" (.makeDir (.archive ""))
  let stamp : String ← ask .stamp
  reserveFrom kind stamp (List.range 10000)

/-- The reading loop of `create`: the ranges with their hashes, and the bytes for the encoder. -/
def readRanges : List Range → Eng (List Range × Bytes)
  | [] => pure ([], [])
  | r :: rs => do
    let b ← readBlocks r.lba (blocks chunk r.bytes 0)
    let rest ← readRanges rs
    return ({ r with sha256 := hashBytes b } :: rest.1, b ++ rest.2)

/-- `compare_device`. -/
def compareDevice : List Range → Eng Unit
  | [] => pure ()
  | r :: rs => do
    let actual ← readDigest r.lba r.bytes
    check (deny (actual ≠ r.sha256) "DEVICE_CHANGED"
      "Device contents do not match the recovery backup")
    compareDevice rs

/-- `append_footer`. -/
def appendFooter (p : Path) (m : Meta) : Eng Unit := do
  let bytes := m.json.bytes
  check (deny (bytes.length > maxMeta) "BACKUP_VERIFY" "Metadata exceeds bound")
  askAs "BACKUP_IO" (.append p bytes)
  askAs "BACKUP_IO" (.append p (Sha256.digest bytes))
  askAs "BACKUP_IO" (.append p (toLe 8 bytes.length))
  let m ← check (magic m.format)
  askAs "BACKUP_IO" (.append p m)

/-- `report`, as far as it can fail: the size of the stored file. -/
def report (id : String) : Eng Nat := do
  let file : Bytes ← askAs "BACKUP_IO" (.load (.archive id))
  return file.length

/-- The part of `create` that may leave an incomplete file. The encoder hands its output to the file as
    it goes; here the file gets it in one piece. -/
def createBody (X : Crates) (id kind : String) (identity : Identity) (caps : String)
    (primary tail : Bytes) (selected : List Range) : Eng Meta := do
  let read ← readRanges selected
  askAs "BACKUP_IO" (.append (.archivePartial id) (X.encode read.2))
  let created : String ← ask .stamp
  let m : Meta := ⟨4, kind, identity, read.1, primary, tail,
    classify primary tail identity.sectors, created, caps, true⟩
  compareDevice m.ranges
  let again : Identity ← ask .identity
  check (deny (again ≠ identity) "DEVICE_CHANGED" "Identity changed during backup")
  let _ ← requireFullRead
  appendFooter (.archivePartial id) m
  let file : Bytes ← askAs "BACKUP_IO" (.load (.archivePartial id))
  let a ← check (openBytes X file)
  check (verify X a)
  askAs "BACKUP_IO" (.rename (.archivePartial id) (.archive id))
  let _ ← report id
  return m

/-- `create`: the name of the published archive and its metadata. -/
def create (X : Crates) (kind : String) : Eng (String × Meta) := do
  let identity : Identity ← ask .identity
  check (requireEmmc identity.storage)
  let caps ← requireFullRead
  let pair ← headers identity
  let selected ← check (ranges kind pair.1 pair.2 identity.sectors)
  let id ← reserve kind
  askAs "BACKUP_IO" (.append (.archivePartial id) magicZstd)
  let run ← (createBody X id kind identity caps pair.1 pair.2 selected).attempt
  let m ← check (run.mapError fun e =>
    fail e.code s!"{e.detail}; incomplete backup={id}.partial")
  return (id, m)

end Archive

end K11CHaos.Engine
