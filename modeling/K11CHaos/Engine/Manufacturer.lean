import K11CHaos.Engine.LateChecks
import K11CHaos.Engine.Reading

/-!
# A manufacturer image without GPT

Disk images with one Linux partition in their MBR and one byte in all other sectors (`plainImage`). They
pass `raw_layout` whatever that byte is, so they are opened, planned and written like any other image
without GPT; only the final capture looks at the sectors where the GPT would be. Every image that
`raw_layout` accepts is opened through its receipt (`raw_openImage`).
-/

namespace K11CHaos.Engine

open Prog World Factory

/-- A Linux partition of 2048 sectors from LBA 2048. -/
def mbrEntry : Bytes :=
  [0, 0, 0, 0, 0x83, 0, 0, 0, 0, 8, 0, 0, 0, 8, 0, 0]

/-- An MBR with one entry. -/
def mbrSector : Bytes :=
  zeros 446 ++ mbrEntry ++ zeros 48 ++ [0x55, 0xaa]

/-- A disk image with an MBR and one byte everywhere else. -/
def plainImage (sectors : Nat) (x : UInt8) : Bytes :=
  mbrSector ++ List.replicate ((sectors - 1) * 512) x

section Plain

variable {n : Nat} {x : UInt8}

/-- The MBR is one sector. -/
lemma length_mbrSector : mbrSector.length = 512 := by
  simp [mbrSector, mbrEntry]

/-- The image has as many sectors as asked for. -/
lemma length_plainImage (pos : 0 < n) : (plainImage n x).length = n * 512 := by
  rw [plainImage, List.length_append, length_mbrSector, List.length_replicate]
  omega

/-- The first sector of the image. -/
lemma slice_mbr {o l : Nat} (h : o + l ≤ 512) :
    slice (plainImage n x) o l = slice mbrSector o l := by
  refine List.ext_getElem? fun i => ?_
  rw [getElem?_slice, getElem?_slice, plainImage]
  split_ifs
  · rw [List.getElem?_append_left (by rw [length_mbrSector]; omega)]
  · rfl

/-- The other sectors of the image. -/
lemma slice_fill {o l : Nat} (h : 512 ≤ o) (h' : o + l ≤ n * 512) :
    slice (plainImage n x) o l = List.replicate l x := by
  refine List.ext_getElem? fun i => ?_
  rw [getElem?_slice, plainImage, List.getElem?_replicate]
  split_ifs
  · rw [List.getElem?_append_right (by rw [length_mbrSector]; omega), length_mbrSector,
      List.getElem?_replicate, if_pos (by omega)]
  · rfl

/-- The entries of the MBR. -/
lemma mbr_entries :
    (List.range 4).map (fun i => slice mbrSector (446 + 16 * i) 16) =
      [mbrEntry, zeros 16, zeros 16, zeros 16] := by
  decide +kernel

/-- The MBR describes one partition. -/
lemma plain_mbrSpans (big : 34849 < n) :
    mbrSpans n [mbrEntry, zeros 16, zeros 16, zeros 16] = .ok [(2048, 4096)] := by
  have kind : (slice mbrEntry 4 1).headD 0 = 0x83 := by decide +kernel
  have start : Gpt.u32at mbrEntry 8 = 2048 := by decide +kernel
  have count : Gpt.u32at mbrEntry 12 = 2048 := by decide +kernel
  have empty : (slice (zeros 16) 4 1).headD 0 = 0 := by decide +kernel
  have none : mbrSpans n [zeros 16, zeros 16, zeros 16] = .ok [] := by
    rw [mbrSpans, if_pos empty, mbrSpans, if_pos empty, mbrSpans, if_pos empty, mbrSpans]
  rw [mbrSpans, kind, if_neg (by decide), start, count, none]
  refine bind_ok.mpr ⟨(), deny_ok.mpr ?_, rfl⟩
  rintro (h | h | h | h | h | h | h)
  · exact absurd h (by decide)
  · exact absurd h (by decide)
  · exact absurd h (by decide)
  · exact absurd h (by decide)
  · exact absurd h (by decide)
  · exact absurd h (by decide)
  · omega

/-- Bytes that are all the same are not the signature of a GPT header. -/
lemma fill_plain : List.replicate 8 x ≠ Gpt.efiPart := by
  intro e
  have h1 := congrArg (·[0]?) e
  have h2 := congrArg (·[1]?) e
  simp only [List.getElem?_replicate, Gpt.efiPart] at h1 h2
  have h1 : x = 0x45 := Option.some.inj h1
  have h2 : x = 0x46 := Option.some.inj h2
  rw [h1] at h2
  exact absurd h2 (by decide)

/-- The layout of the image is accepted, whatever fills it. -/
lemma plain_rawLayout (big : 34849 < n) (small : n < 2 ^ 32) :
    rawLayout (plainImage n x) = .ok (slice (plainImage n x) 0 (34 * 512),
      slice (plainImage n x) (n * 512 - 33 * 512) (33 * 512), UInt32.ofNat n) := by
  have len : (plainImage n x).length = n * 512 := length_plainImage (by omega)
  have sectors : n * 512 / 512 = n := by omega
  have num : (UInt32.ofNat n).toNat = n := by
    rw [UInt32.toNat_ofNat']
    exact Nat.mod_eq_of_lt small
  have window {o l : Nat} (h : o + l ≤ 512) :
      slice (slice (plainImage n x) 0 (34 * 512)) o l = slice mbrSector o l := by
    rw [slice_slice (by omega), Nat.zero_add, slice_mbr h]
  have head : bounded (plainImage n x) 0 (34 * 512) =
      .ok (slice (plainImage n x) 0 (34 * 512)) :=
    bind_ok.mpr ⟨(), deny_ok.mpr (by rw [len]; omega), rfl⟩
  have last : bounded (plainImage n x) (n * 512 - 33 * 512) (33 * 512) =
      .ok (slice (plainImage n x) (n * 512 - 33 * 512) (33 * 512)) :=
    bind_ok.mpr ⟨(), deny_ok.mpr (by rw [len]; omega), rfl⟩
  have signature : slice mbrSector 510 2 = [0x55, 0xaa] := by decide +kernel
  have plain : slice (slice (plainImage n x) 0 (34 * 512)) 512 8 ≠ Gpt.efiPart := by
    rw [slice_slice (by decide), slice_fill (by decide) (by omega)]
    exact fill_plain
  have entries : ((List.range 4).map fun i =>
      slice (slice (plainImage n x) 0 (34 * 512)) (446 + 16 * i) 16) =
      [mbrEntry, zeros 16, zeros 16, zeros 16] := by
    rw [← mbr_entries]
    refine List.map_congr_left fun i hi => window ?_
    have := List.mem_range.mp hi
    omega
  refine bind_ok.mpr ⟨(), deny_ok.mpr (by rw [len]; omega), ?_⟩
  refine bind_ok.mpr ⟨_, head, ?_⟩
  refine bind_ok.mpr ⟨_, by rw [len]; exact last, ?_⟩
  dsimp only
  refine bind_ok.mpr ⟨(), deny_ok.mpr (by rw [window (by omega), signature]; decide), ?_⟩
  rw [if_neg plain, entries, len, sectors, num]
  refine bind_ok.mpr ⟨_, plain_mbrSpans big, bind_ok.mpr ⟨(), deny_ok.mpr ?_, rfl⟩⟩
  simp [Gpt.sortSpans, Gpt.windows2]

/-- The receipt of a disk image. -/
def rawReceipt (file : Bytes) : Image :=
  ⟨hashBytes file, "system.img", file.length, "RAW", "Linux / other", [], []⟩

/-- A receipt is a short text. -/
lemma rawReceipt_short {file : Bytes} (small : file.length ≤ 128 * 1024 * 1024 * 1024) :
    (rawReceipt file).json.bytes.length ≤ 1024 := by
  have digits : (Nat.toDigits 10 file.length).length ≤ 12 :=
    (Nat.length_toDigits_le_iff (by decide) (by decide)).mpr (by omega)
  have hash := (Json.quoteSize_bounds (hashBytes file)).2
  rw [(hashBytes_hex _).1] at hash
  rw [Json.length_bytes]
  simp (disch := (apply forall_of_all; decide)) only [rawReceipt, Image.json, Json.size, Json.sizeFields, List.map_nil,
    Json.quoteSize_plain]
  simp
  omega

/-- The files of a base directory with a disk image. -/
def rawFiles (file : Bytes) : Files := fun p =>
  if p = .factoryImage (hashBytes file) then some (rawReceipt file).json.bytes
  else if p = .outside "system.img" then some file
  else none

/-- A disk image is opened through its receipt when `raw_layout` accepts it. -/
lemma raw_openImage {file : Bytes} {layout : Bytes × Bytes × UInt32}
    (accepted : rawLayout file = .ok layout) (plain : slice file 0 4 ≠ [0x52, 0x4b, 0x46, 0x57])
    (small : file.length ≤ 128 * 1024 * 1024 * 1024) :
    openImage .reference (rawFiles file).store (hashBytes file) = .ok (rawReceipt file, file) := by
  obtain ⟨-, big, -⟩ := Flash.rawLayout_ok accepted
  have hex : hashId (hashBytes file) = true := decide_eq_true (hashBytes_hex _)
  have text : (rawFiles file).store.file "FACTORY_IMAGE" (.factoryImage (hashBytes file)) =
      .ok (rawReceipt file).json.bytes := by
    simp only [Store.file, Files.store, rawFiles, if_true, Except.mapError]
  have held : (rawFiles file).store.file "FACTORY_IMAGE" (.outside "system.img") = .ok file := by
    simp only [Store.file, Files.store, rawFiles, reduceCtorEq, if_false, if_true, Except.mapError]
  have short := rawReceipt_short small
  have head : bounded file 0 512 = .ok (slice file 0 512) :=
    bind_ok.mpr ⟨(), deny_ok.mpr (by omega), rfl⟩
  refine bind_ok.mpr ⟨(), deny_ok.mpr (by rw [hex]; decide), ?_⟩
  refine bind_ok.mpr ⟨_, text, bind_ok.mpr ⟨(), deny_ok.mpr (by omega), ?_⟩⟩
  refine bind_ok.mpr ⟨rawReceipt file, ?_, bind_ok.mpr ⟨_, held, ?_⟩⟩
  · rw [parsed, show Crates.reference.parseImage (rawReceipt file).json.bytes =
      .ok (rawReceipt file) from reader_bytes (rawReceipt file).ofJson_json]
    rfl
  refine bind_ok.mpr ⟨rawReceipt file, ?_, bind_ok.mpr ⟨(), deny_ok.mpr ?_, rfl⟩⟩
  · refine bind_ok.mpr ⟨(), deny_ok.mpr (by omega), bind_ok.mpr ⟨_, head, ?_⟩⟩
    rw [slice_slice (by decide), if_neg plain]
    exact bind_ok.mpr ⟨_, accepted, bind_ok.mpr ⟨"system.img", rfl, rfl⟩⟩
  · simp [rawReceipt]

/-- The files of a base directory with the image. -/
def plainFiles (n : Nat) (x : UInt8) : Files :=
  rawFiles (plainImage n x)

/-- The image is opened through its receipt. -/
lemma plain_openImage (big : 34849 < n) (small : n < 2 ^ 28) :
    openImage .reference (plainFiles n x).store (hashBytes (plainImage n x)) =
      .ok (rawReceipt (plainImage n x), plainImage n x) := by
  have plain : slice mbrSector 0 4 ≠ [0x52, 0x4b, 0x46, 0x57] := by decide +kernel
  refine raw_openImage (plain_rawLayout big (by omega)) ?_ ?_
  · rw [slice_mbr (by decide)]
    exact plain
  · rw [length_plainImage (by omega)]
    omega

/-- The work of an image that fills the eMMC: one range, the whole disk. -/
def plainWork (n : Nat) (x : UInt8) : Work :=
  ⟨[⟨⟨"Manufacturer system", 0, n * 512, hashBytes (slice (plainImage n x) 0 (n * 512))⟩,
      .image (plainImage n x) 0 (n * 512)⟩],
    slice (plainImage n x) 0 (34 * 512),
    put (zeros (33 * 512)) 0 (slice (plainImage n x) ((n - 33) * 512) (33 * 512)), none⟩

lemma plain_build {identity : Identity} {current : Snapshot} {verifySource : Bool}
    (big : 34849 < n) (small : n < 2 ^ 28) (fills : identity.sectors = UInt32.ofNat n) :
    Flash.build .reference (plainFiles n x).store "factory-raw" (hashBytes (plainImage n x)) identity
      current verifySource = .ok (plainWork n x) := by
  have len : (plainImage n x).length = n * 512 := length_plainImage (by omega)
  have num : (UInt32.ofNat n).toNat = n := by
    rw [UInt32.toNat_ofNat']
    exact Nat.mod_eq_of_lt (by omega)
  have large : 34849 < UInt32.ofNat n := UInt32.lt_iff_toNat_lt.mpr (by rw [num]; exact big)
  have start : (UInt32.ofNat n - 33).toNat = n - 33 := by rw [Flash.sectors_sub large, num]
  have beyond : UInt32.ofNat n > UInt32.ofNat n - 33 := by
    show UInt32.ofNat n - 33 < UInt32.ofNat n
    rw [UInt32.lt_iff_toNat_lt, start, num]
    omega
  have own : (UInt32.ofNat n - (UInt32.ofNat n - 33)).toNat = 33 := by
    rw [UInt32.toNat_sub_of_le, start, num]
    · omega
    · rw [UInt32.le_iff_toNat_le, start, num]
      omega
  have plain : slice (slice (plainImage n x) 0 (34 * 512)) 512 8 ≠ Gpt.efiPart := by
    rw [slice_slice (by decide), slice_fill (by decide) (by omega)]
    exact fill_plain
  refine bind_ok.mpr ⟨plainWork n x, ?_, bind_ok.mpr ⟨(), ?_, rfl⟩⟩
  · show Flash.buildFactoryRaw _ _ _ _ = _
    refine bind_ok.mpr ⟨_, plain_openImage big small, bind_ok.mpr ⟨(), deny_ok.mpr ?_, ?_⟩⟩
    · exact not_not.mpr rfl
    refine bind_ok.mpr ⟨_, plain_rawLayout big (by omega), bind_ok.mpr ⟨(), deny_ok.mpr ?_, ?_⟩⟩
    · rw [fills]
      exact UInt32.not_lt.mpr (UInt32.le_refl _)
    dsimp only
    rw [if_neg plain, fills, if_pos beyond, own, start, if_neg (UInt32.lt_irrefl _)]
    rw [show (rawReceipt (plainImage n x)).bytes = n * 512 from len]
    refine bind_ok.mpr ⟨_, bind_ok.mpr ⟨(), deny_ok.mpr ?_, rfl⟩, rfl⟩
    rw [len]
    exact Nat.not_lt.mpr (Nat.le_of_eq (Nat.zero_add _))
  · refine bind_ok.mpr ⟨(), deny_ok.mpr ?_, deny_ok.mpr ?_⟩
    · simp only [plainWork, Work.ranges, List.map_cons, List.map_nil, List.any_cons, List.any_nil,
        Bool.or_false, decide_eq_true_eq, Flash.extent, fills, num, UInt32.toNat_zero]
      omega
    · simp [plainWork, Work.ranges, Gpt.sortSpans, Gpt.windows2]

end Plain

end K11CHaos.Engine
