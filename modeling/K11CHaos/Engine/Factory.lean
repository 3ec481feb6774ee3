import K11CHaos.Engine.Archive

/-!
# Manufacturer images

The image half of `factory.rs`: the layout of a raw disk image (`rawLayout`), the opening of an image
through its receipt (`openImage`), the payload checks of a firmware package (`verification`, with the
sparse expansion in `sparse`) and the comparison of the device with it (`readback`).
-/

namespace K11CHaos.Engine.Factory

/-- `error`. -/
def error (detail : String) : Failure :=
  fail "FACTORY_IMAGE" detail

/-- `bounded`. -/
def bounded (file : Bytes) (offset len : Nat) : Result Bytes := do
  deny (len > 64 * 1024 ∨ offset + len > file.length) "FACTORY_IMAGE"
    "Invalid firmware metadata bounds"
  return slice file offset len

/-- What was read is a part of the file. -/
lemma bounded_ok {file b : Bytes} {offset len : Nat} (h : bounded file offset len = .ok b) :
    offset + len ≤ file.length ∧ slice file offset len = b := by
  obtain ⟨_, h1, h2⟩ := bind_ok.mp h
  cases h2
  simp only [deny_ok, not_or, Nat.not_lt] at h1
  exact ⟨h1.2, rfl⟩

/-- `b"h\0a\0s\0s\0o\0s\0"`. -/
def hassosName : Bytes :=
  [0x68, 0, 0x61, 0, 0x73, 0, 0x73, 0, 0x6f, 0, 0x73, 0]

/-- `windows(12).any(..)`. -/
def mentionsHassos (b : Bytes) : Bool :=
  (List.range (b.length - 11)).any fun i => slice b i 12 == hassosName

/-- The loop of `raw_layout` over the MBR entries. -/
def mbrSpans (sectors : Nat) : List Bytes → Result (List (Nat × Nat))
  | [] => .ok []
  | e :: es =>
    let kind := (slice e 4 1).headD 0
    if kind = 0 then mbrSpans sectors es
    else do
      let start := Gpt.u32at e 8
      let count := Gpt.u32at e 12
      deny (kind = 0xee ∨ kind = 0x05 ∨ kind = 0x0f ∨ kind = 0x85 ∨ start = 0 ∨ count = 0 ∨
          start + count > sectors)
        "FACTORY_FORMAT" "Invalid full disk partition table"
      let rest ← mbrSpans sectors es
      return (start, start + count) :: rest

/-- `raw_layout`: the first 34 and last 33 sectors of a full disk image, and its size. -/
def rawLayout (file : Bytes) : Result (Bytes × Bytes × UInt32) := do
  let refused := "Select a complete manufacturer system image"
  deny (file.length % 512 ≠ 0 ∨ file.length ≤ 34849 * 512 ∨ file.length / 512 > 2 ^ 32 - 1)
    "FACTORY_FORMAT" refused
  let a ← bounded file 0 (34 * 512)
  let b ← bounded file (file.length - 33 * 512) (33 * 512)
  let sectors := UInt32.ofNat (file.length / 512)
  deny (slice a 510 2 ≠ [0x55, 0xaa]) "FACTORY_FORMAT" refused
  if slice a 512 8 = Gpt.efiPart then
    deny (¬ (Gpt.check a b sectors).healthy) "FACTORY_FORMAT" "Invalid full disk image"
    deny (mentionsHassos (a.drop 1024)) "FACTORY_FORMAT"
      "Use HAOS installation for official HAOS images"
  else
    let spans ← mbrSpans sectors.toNat
      ((List.range 4).map fun i => slice a (446 + 16 * i) 16)
    let sorted := Gpt.sortSpans spans
    deny (spans = [] ∨ (Gpt.windows2 sorted).any fun p => decide (p.1.2 > p.2.1))
      "FACTORY_FORMAT" refused
  return (a, b, sectors)

/-- `inspect`. -/
def inspect (X : Crates) (path : String) (file : Bytes) : Result Image := do
  deny (file.length < 512 ∨ file.length > 128 * 1024 * 1024 * 1024) "FACTORY_FORMAT"
    "Select a complete manufacturer system image"
  let header ← bounded file 0 512
  if slice header 0 4 = [0x52, 0x4b, 0x46, 0x57] then
    let (os, entries, partitions) ← X.rkfw file
    let full ← parsed "FACTORY_IMAGE" (X.canonicalize path)
    return ⟨hashBytes file, full, file.length, "RKFW", os, entries, partitions⟩
  else
    let _ ← rawLayout file
    let full ← parsed "FACTORY_IMAGE" (X.canonicalize path)
    return ⟨hashBytes file, full, file.length, "RAW", "Linux / other", [], []⟩

/-- `open`. -/
def openImage (X : Crates) (st : Store) (id : String) : Result (Image × Bytes) := do
  deny (!hashId id) "FACTORY_IMAGE" "Invalid manufacturer image ID"
  let text ← st.file "FACTORY_IMAGE" (.factoryImage id)
  deny (text.length > 128 * 1024) "FACTORY_IMAGE" "Invalid image receipt"
  let image ← parsed "FACTORY_IMAGE" (X.parseImage text)
  let file ← st.file "FACTORY_IMAGE" (.outside image.path)
  let actual ← inspect X image.path file
  deny (image.sha256 ≠ id ∨ actual ≠ image) "SOURCE_CHANGED"
    "Manufacturer image or receipt changed"
  return (image, file)

/-- `struct Check`. -/
structure Check where
  lba : UInt32
  bytes : Nat
  offset : Nat
  fill : Option Bytes
deriving DecidableEq

/-- `validate_capacity`. -/
def validateCapacity (image : Image) (sectors : UInt32) : Result Unit :=
  deny (sectors ≤ 34849 ∨ image.partitions.any fun p =>
      decide (p.lba.toNat + (p.sectors.getD 1).toNat > sectors.toNat - 33))
    "CAPACITY" "Firmware partitions do not fit the eMMC"

/-- The parameters of a sparse image that its loop reads. -/
structure SparseHeader where
  chunkHeader : Nat
  block : Nat
  total : Nat
  stop : Nat

/-- The loop of `sparse`: `n` chunks from a file position, with the bytes expanded so far. -/
def sparseChunks (file : Bytes) (h : SparseHeader) (lba : UInt32) :
    Nat → Nat → Nat → List Check → Result (Nat × Nat × List Check)
  | 0, pos, expanded, out => .ok (pos, expanded, out)
  | k + 1, pos, expanded, out => do
    deny (pos + h.chunkHeader > h.stop) "FACTORY_IMAGE" "Truncated sparse image"
    let c ← bounded file pos h.chunkHeader
    let kind := fromLe (slice c 0 2)
    let n := Gpt.u32at c 4 * h.block
    let count := Gpt.u32at c 8
    deny (count < h.chunkHeader) "FACTORY_IMAGE" "Invalid sparse chunk"
    let payload := count - h.chunkHeader
    deny (pos + count > h.stop ∨ expanded + n > h.total * h.block) "FACTORY_IMAGE"
      "Sparse chunk exceeds bounds"
    let at' := lba + UInt32.ofNat (expanded / 512)
    let out ←
      if kind = 0xcac1 ∧ payload = n ∧ n > 0 then
        pure (out ++ [⟨at', n, pos + h.chunkHeader, none⟩])
      else if kind = 0xcac2 ∧ payload = 4 ∧ n > 0 then do
        let b ← bounded file (pos + h.chunkHeader) 4
        pure (out ++ [⟨at', n, 0, some b⟩])
      else if kind = 0xcac3 ∧ payload = 0 ∧ n > 0 then pure out
      else if kind = 0xcac4 ∧ payload = 4 ∧ n = 0 then pure out
      else throw (error "Invalid sparse chunk type/length")
    deny (out.length > 100000) "FACTORY_IMAGE" "Too many sparse payload ranges"
    sparseChunks file h lba k (pos + count) (expanded + n) out

/-- `sparse`. -/
def sparse (file : Bytes) (entry : Entry) (lba : UInt32) (capacity : Nat) (out : List Check) :
    Result (List Check) := do
  let h ← bounded file entry.offset 28
  let fileHeader := fromLe (slice h 8 2)
  let chunkHeader := fromLe (slice h 10 2)
  let block := Gpt.u32at h 12
  let total := Gpt.u32at h 16
  let chunks := Gpt.u32at h 20
  deny (slice h 0 4 ≠ [0x3a, 0xff, 0x26, 0xed] ∨ fromLe (slice h 4 2) ≠ 1 ∨ fileHeader < 28 ∨
      fileHeader > 4096 ∨ chunkHeader < 12 ∨ chunkHeader > 4096 ∨ block = 0 ∨ block % 512 ≠ 0 ∨
      total * block > capacity ∨ chunks > 1000000)
    "FACTORY_IMAGE" "Invalid sparse system image"
  let stop := entry.offset + entry.bytes
  let (pos, expanded, out) ← sparseChunks file ⟨chunkHeader, block, total, stop⟩ lba chunks
    (entry.offset + fileHeader) 0 out
  deny (pos ≠ stop ∨ expanded ≠ total * block) "FACTORY_IMAGE" "Sparse image length mismatch"
  return out

/-- The loop of `verification`. -/
def verifyEntries (image : Image) (file : Bytes) (sectors : UInt32) :
    List Entry → List Check → Result (List Check)
  | [], out => .ok out
  | entry :: entries, out =>
    match image.partitions.find? fun p => p.name == entry.name with
    | none => verifyEntries image file sectors entries out
    | some part => do
      let capacity := (part.sectors.getD (sectors - 33 - part.lba)).toNat * 512
      let out ←
        if entry.sparse then sparse file entry part.lba capacity out
        else do
          deny (entry.bytes % 512 ≠ 0 ∨ entry.bytes > capacity) "FACTORY_IMAGE"
            "Partition payload exceeds its range"
          pure (out ++ [⟨part.lba, entry.bytes, entry.offset, none⟩])
      verifyEntries image file sectors entries out

/-- `verification`. -/
def verification (image : Image) (file : Bytes) (sectors : UInt32) : Result (List Check) := do
  let out ← verifyEntries image file sectors image.entries []
  deny (out = []) "FACTORY_IMAGE" "No firmware payload"
  return out

/-- The expected size of a partition, as Rust's `{:?}` prints an option. -/
def sizeText : Option UInt32 → String
  | some n => s!"Some({n})"
  | none => "None"

/-- The rows of `verify_layout`: the partitions with the sizes that the device has. -/
def layoutRows (fullEnd count : Nat) : Nat → List (Bytes × Partition) → Result (List Partition)
  | _, [] => .ok []
  | i, (e, p) :: rows => do
    let name := Gpt.fromUtf16Lossy (Gpt.nameUnits e)
    let start := Gpt.u64at e 32
    let last := Gpt.u64at e 40
    -- the vendor tool may round the end of the last, growing partition down to 64 sectors
    let endMatches :=
      match p.sectors with
      | some n => decide (last + 1 = p.lba.toNat + n.toNat)
      | none => decide (i + 1 = count ∧
          (last = fullEnd ∨ last + 1 = (fullEnd + 1) / 64 * 64))
    deny (name ≠ p.name ∨ start ≠ p.lba.toNat ∨ !endMatches) "WRITE_VERIFY"
      (s!"Manufacturer partition layout changed: {p.name} expected start={p.lba}, " ++
        s!"size={sizeText p.sectors}; actual {name} start={start}, end={last}")
    let rest ← layoutRows fullEnd count (i + 1) rows
    return { p with sectors := some (UInt32.ofNat (last - start + 1)) } :: rest

/-- `verify_layout`. -/
def verifyLayout (primary tail : Bytes) (sectors : UInt32) (image : Image) (file : Bytes) :
    Result Unit := do
  deny (¬ (Gpt.check primary tail sectors).healthy) "WRITE_VERIFY"
    "Manufacturer GPT verification failed"
  let rows := (Gpt.entries (primary.drop 1024)).filter Gpt.inUse
  deny (rows.length ≠ image.partitions.length) "WRITE_VERIFY"
    "Manufacturer partition count changed"
  let partitions ← layoutRows (sectors.toNat - 34) image.partitions.length 0
    (rows.zip image.partitions)
  let _ ← (verification { image with partitions } file sectors).mapError fun e =>
    fail "WRITE_VERIFY" s!"Manufacturer payload exceeds actual partition: {e.detail}"
  return ()

/-- The expected bytes of a block of a check. -/
def expectedBlock (file : Bytes) (c : Check) (offset len : Nat) : Bytes :=
  match c.fill with
  | some fill => (List.range len).map fun i => fill.getD (i % 4) 0
  | none => slice file (c.offset + offset) len

/-- The blocks of a check, compared with the device. -/
def compareBlocks (file : Bytes) (c : Check) : List (Nat × Nat) → Eng Unit
  | [] => pure ()
  | (offset, len) :: bs => do
    let expected := expectedBlock file c offset len
    check (deny (expected.length ≠ len) "FACTORY_IMAGE" "failed to fill whole buffer")
    let actual ← readExact (c.lba + UInt32.ofNat (offset / 512)) len
    check (deny (expected ≠ actual) "WRITE_VERIFY"
      s!"Manufacturer payload mismatch at LBA {c.lba + UInt32.ofNat offset / 512}")
    compareBlocks file c bs

/-- The checks, compared with the device. -/
def compareChecks (file : Bytes) : List Check → Eng Unit
  | [] => pure ()
  | c :: cs => do
    compareBlocks file c (blocks chunk c.bytes 0)
    compareChecks file cs

/-- `readback`. -/
def readback (identity : Identity) (image : Image) (file : Bytes) (checks : List Check) :
    Eng Unit := do
  let _ ← requireFullRead
  let now : Identity ← ask .identity
  check (deny (now ≠ identity) "DEVICE_CHANGED" "Device identity changed")
  compareChecks file checks
  let pair ← Archive.headers identity
  check (verifyLayout pair.1 pair.2 identity.sectors image file)

/-- `headers_digest`. -/
def headersDigest (identity : Identity) : Eng String := do
  let pair ← Archive.headers identity
  check (requireGptBytes (pair.1.drop 512))
  check (requireGptBytes pair.2)
  return hashBytes (pair.1 ++ pair.2)

end K11CHaos.Engine.Factory
