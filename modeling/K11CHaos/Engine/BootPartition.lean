import K11CHaos.Engine.FixturePair
import K11CHaos.Engine.PartitionView
import K11CHaos.Engine.Reading

/-!
# The boot partition of an image

The view that `images::inspect` opens for a FAT reader is the first partition of the image
(`bootView_sound`). Whatever the reader asks for, it is served bytes of that partition only, it changes
nothing, and its reads and seeks are counted (`bootView_served`). Images with the HAOS layout around a FAT
volume with an ARM64 boot file are accepted (`haosImage_inspected`).
-/

namespace K11CHaos.Engine.Images

section View
variable {image : Bytes}

/-- The view that `inspect` opens, of the first partition. -/
def bootView (image : Bytes) : Partition :=
  let primary := slice image 0 (34 * 512)
  let start := UInt64.ofNat (Gpt.u64at primary (1024 + 32)) * 512
  let length := (UInt64.ofNat (Gpt.u64at primary (1024 + 40)) + 1) * 512 - start
  ⟨image, start, length, 0, 100000⟩

/-- The view that `inspect` opens is the first partition, and inside the image. -/
theorem bootView_sound (k : Checked image) :
    let first := Gpt.u64at (slice image 0 (34 * 512)) (1024 + 32)
    let last := Gpt.u64at (slice image 0 (34 * 512)) (1024 + 40)
    34 ≤ first ∧ first ≤ last ∧ (bootView image).Sound ∧ (bootView image).start.toNat = first * 512 ∧
      (bootView image).length.toNat = (last + 1) * 512 - first * 512 ∧
      (bootView image).start.toNat + (bootView image).length.toNat ≤ image.length := by
  intro first last
  have entry (o : Nat) (h : o + 8 ≤ 128) : Gpt.u64at (Gpt.entryAt (slice image 0 (34 * 512)) 0) o =
      Gpt.u64at (slice image 0 (34 * 512)) (1024 + o) := by
    rw [Gpt.u64at, Gpt.entryAt, slice_slice h, Gpt.u64at]
  have span := k.span (i := 0) (by decide)
  rw [entry 32 (by decide), entry 40 (by decide)] at span
  change 34 ≤ first ∧ first ≤ last ∧ last + 33 < image.length / 512 at span
  have small := k.small
  rw [maxImage] at small
  have start : (UInt64.ofNat first * 512).toNat = first * 512 := by
    rw [UInt64.toNat_mul, UInt64.toNat_ofNat', Nat.mod_eq_of_lt (show first < 2 ^ 64 by omega),
      show UInt64.toNat 512 = 512 from rfl]
    omega
  have stop : ((UInt64.ofNat last + 1) * 512).toNat = (last + 1) * 512 := by
    rw [UInt64.toNat_mul, UInt64.toNat_add, UInt64.toNat_ofNat',
      Nat.mod_eq_of_lt (show last < 2 ^ 64 by omega), show UInt64.toNat 512 = 512 from rfl,
      show UInt64.toNat 1 = 1 from rfl]
    omega
  have length : (bootView image).length.toNat = (last + 1) * 512 - first * 512 := by
    show ((UInt64.ofNat last + 1) * 512 - UInt64.ofNat first * 512).toNat = _
    rw [UInt64.toNat_sub_of_le, start, stop]
    rw [UInt64.le_iff_toNat_le, start, stop]
    omega
  refine ⟨span.1, span.2.1, ⟨Nat.zero_le _, ?_⟩, start, length, ?_⟩
  · rw [length, show (bootView image).start.toNat = _ from start]
    omega
  · rw [length, show (bootView image).start.toNat = _ from start]
    omega

/-- What a reader of the boot partition gets from a run of requests. -/
structure Served (image : Bytes) (ls : List (Request × Answer)) : Prop where
  /-- Reads deliver bytes of the first partition. -/
  inside : ∀ x ∈ ls, ∀ b, x.2 = .bytes b → ∃ k,
    Gpt.u64at (slice image 0 (34 * 512)) (1024 + 32) * 512 + k + b.length ≤
      (Gpt.u64at (slice image 0 (34 * 512)) (1024 + 40) + 1) * 512 ∧
    b = slice image (Gpt.u64at (slice image 0 (34 * 512)) (1024 + 32) * 512 + k) b.length
  readOnly : ∀ x ∈ ls, ∀ b, x.1 = .write b → Partition.Answer.success x.2 = false
  bounded : ls.countP Partition.paid ≤ 100000

end View

/-! ## An image with a boot partition -/

section Sample
open Scripts.GptImage (nameField)

/-- The type GUID of a Linux filesystem, as it stands on disk. -/
def linuxData : Bytes :=
  [0xaf, 0x3d, 0xc6, 0x0f, 0x83, 0x84, 0x72, 0x47, 0x8e, 0x79, 0x3d, 0x69, 0xd8, 0x47, 0x7d, 0xe4]

/-- A GUID of its own for each number. -/
def guidOf (x : UInt8) : Bytes :=
  x :: zeros 15

/-- It has 16 bytes. -/
@[simp] lemma length_guidOf {x : UInt8} : (guidOf x).length = 16 := by
  simp [guidOf]

/-- A partition entry: its type, its own GUID, its span and its name. -/
def haosEntry (row : String × Bytes × UInt8) (span : Nat × Nat) : Bytes :=
  row.2.1 ++ guidOf row.2.2 ++ toLe 8 span.1 ++ toLe 8 span.2 ++ zeros 8 ++ nameField row.1

/-- The rows of the eight HAOS partitions. -/
def haosRows : List (String × Bytes × UInt8) :=
  Gpt.labels.zip [(efiSystem, 1), (linuxData, 2), (linuxData, 3), (linuxData, 4), (linuxData, 5),
    (linuxData, 6), (linuxData, 7), (linuxData, 8)]

/-- Six sectors for the boot partition, one for each of the others, and the rest for the data. -/
def haosSpans (last : Nat) : List (Nat × Nat) :=
  [(34, 39), (40, 40), (41, 41), (42, 42), (43, 43), (44, 44), (45, 45), (46, last)]

/-- The blocks of the partition array. -/
def haosBlocks (last : Nat) : List Bytes :=
  (haosRows.zip (haosSpans last)).map (fun p => haosEntry p.1 p.2) ++ List.replicate 120 (zeros 128)

/-- The partition array. -/
def haosArray (last : Nat) : Bytes :=
  (haosBlocks last).flatten

/-- The fields of an entry. -/
lemma haosEntry_fields {row : String × Bytes × UInt8} {span : Nat × Nat} (h : row ∈ haosRows) :
    (haosEntry row span).length = 128 ∧ slice (haosEntry row span) 0 16 = row.2.1 ∧
      slice (haosEntry row span) 16 16 = guidOf row.2.2 ∧
      slice (haosEntry row span) 32 8 = toLe 8 span.1 ∧
      slice (haosEntry row span) 40 8 = toLe 8 span.2 ∧
      ∀ i, slice (haosEntry row span) (56 + i) 2 = slice (nameField row.1) i 2 := by
  have sizes : ∀ r ∈ haosRows, r.2.1.length = 16 ∧ (nameField r.1).length = 72 := by decide +kernel
  obtain ⟨type, name⟩ := sizes row h
  refine ⟨?_, ?_, ?_, ?_, ?_, fun i => ?_⟩
  · simp [haosEntry, type, name]
  · simp (disch := simp [type]) [haosEntry, slice_append_left, slice_full]
  · simp (disch := simp [type]) [haosEntry, slice_append_left, slice_append_right, slice_full, type]
  · simp (disch := simp [type]) [haosEntry, slice_append_left, slice_append_right, slice_full, type]
  · simp (disch := simp [type]) [haosEntry, slice_append_left, slice_append_right, slice_full, type]
  · have front : (row.2.1 ++ guidOf row.2.2 ++ toLe 8 span.1 ++ toLe 8 span.2 ++ zeros 8).length = 56 := by
      simp [type]
    rw [haosEntry, slice_append_right (by omega), front, Nat.add_sub_cancel_left]

/-- An entry has its name, a type and a GUID. -/
lemma haosEntry_named {row : String × Bytes × UInt8} {span : Nat × Nat} (h : row ∈ haosRows) :
    Gpt.fromUtf16 (Gpt.nameUnits (haosEntry row span)) = some row.1 ∧
      Gpt.inUse (haosEntry row span) = true ∧
      (slice (haosEntry row span) 16 16).all (· == 0) = false := by
  have known : ∀ r ∈ haosRows, Gpt.fromUtf16 (Gpt.nameUnits (haosEntry r (0, 0))) = some r.1 ∧
      r.2.1.any (· != 0) = true ∧ (guidOf r.2.2).all (· == 0) = false := by decide +kernel
  obtain ⟨name, type, guid⟩ := known row h
  obtain ⟨_, f1, f2, _, _, unit⟩ := @haosEntry_fields row span h
  obtain ⟨_, _, _, _, _, unit'⟩ := @haosEntry_fields row (0, 0) h
  refine ⟨?_, ?_, ?_⟩
  · rw [← name]
    unfold Gpt.nameUnits
    simp only [unit, unit']
  · rw [Gpt.inUse, f1]
    exact type
  · rw [f2]
    exact guid

/-- Entries that are named as expected pass the inspection. -/
lemma inspectEntries_ok {l : List (String × Bytes)}
    (h : ∀ e ∈ l, Gpt.fromUtf16 (Gpt.nameUnits e.2) = some e.1 ∧ Gpt.inUse e.2 = true ∧
      (slice e.2 16 16).all (· == 0) = false) : inspectEntries l = .ok () := by
  induction l with
  | nil => rfl
  | cons e l ih =>
    obtain ⟨name, used, guid⟩ := h e List.mem_cons_self
    refine bind_ok.mpr ⟨(), deny_ok.mpr ?_, ih fun e' he => h e' (List.mem_cons_of_mem _ he)⟩
    rw [guid, used, name]
    simp

/-- Every block is an entry or empty. -/
lemma haosBlocks_each {last : Nat} : ∀ b ∈ haosBlocks last, b.length = 128 := by
  intro b hb
  obtain hb | hb := List.mem_append.mp hb
  · obtain ⟨p, hp, rfl⟩ := List.mem_map.mp hb
    exact (haosEntry_fields (List.of_mem_zip hp).1).1
  · rw [(List.mem_replicate.mp hb).2, length_zeros]

/-- The partitions of the array pass the inspection. -/
lemma haosArray_inspected {last : Nat} :
    inspectEntries (Gpt.labels.zip (Gpt.entries (haosArray last))) = .ok () := by
  rw [haosArray, Scripts.GptImage.entries_flatten haosBlocks_each]
  have eight : Gpt.labels.zip (haosBlocks last) =
      (haosRows.zip (haosSpans last)).map fun p => (p.1.1, haosEntry p.1 p.2) := rfl
  rw [eight]
  refine inspectEntries_ok fun e he => ?_
  obtain ⟨p, hp, rfl⟩ := List.mem_map.mp he
  exact haosEntry_named (List.of_mem_zip hp).1

/-- The spans of the array. -/
lemma haosArray_spans {last : Nat} (small : last < 2 ^ 64) :
    Gpt.spans (haosArray last) = haosSpans last := by
  have used : ((haosRows.zip (haosSpans last)).map fun p => haosEntry p.1 p.2).filter Gpt.inUse =
      (haosRows.zip (haosSpans last)).map fun p => haosEntry p.1 p.2 := by
    refine List.filter_eq_self.mpr fun e he => ?_
    obtain ⟨p, hp, rfl⟩ := List.mem_map.mp he
    exact (haosEntry_named (List.of_mem_zip hp).1).2.1
  have empty : (List.replicate 120 (zeros 128)).filter Gpt.inUse = [] :=
    List.filter_replicate_of_neg (by rw [Gpt.inUse_zeros]; exact Bool.false_ne_true)
  rw [Gpt.spans, haosArray, Scripts.GptImage.entries_flatten haosBlocks_each, haosBlocks,
    List.filter_append, used, empty, List.append_nil, List.map_map]
  have bounds : ∀ s ∈ haosSpans last, s.1 < 2 ^ 64 ∧ s.2 < 2 ^ 64 := by
    simp only [haosSpans, List.forall_mem_cons]
    exact ⟨by decide, by decide, by decide, by decide, by decide, by decide, by decide,
      ⟨by decide, small⟩, List.forall_mem_nil _⟩
  have each : ∀ p ∈ haosRows.zip (haosSpans last),
      ((fun e => (Gpt.u64at e 32, Gpt.u64at e 40)) ∘ fun p => haosEntry p.1 p.2) p = p.2 := by
    intro p hp
    obtain ⟨row, span⟩ := List.of_mem_zip hp
    obtain ⟨_, _, _, start, stop, _⟩ := @haosEntry_fields p.1 p.2 row
    obtain ⟨b1, b2⟩ := bounds p.2 span
    have first : fromLe (toLe 8 p.2.1) = p.2.1 := fromLe_toLe_of_lt b1
    have last : fromLe (toLe 8 p.2.2) = p.2.2 := fromLe_toLe_of_lt b2
    simp only [Function.comp_apply, Gpt.u64at, start, stop, first, last]
  rw [List.map_congr_left each]
  rfl

/-- The array fits between two copies. -/
lemma haosArray_fitting {n last : Nat} (big : 34849 < n) (small : n < 2 ^ 32)
    (order : 46 ≤ last) (room : last ≤ n - 34) : Gpt.Fitting n (haosArray last) := by
  refine ⟨big, small, ?_, ?_, ?_⟩
  · rw [haosArray, Scripts.GptImage.flatten_length haosBlocks_each, haosBlocks, List.length_append,
      List.length_replicate]
    rfl
  · rw [haosArray_spans (by omega)]
    simp only [haosSpans, List.forall_mem_cons]
    exact ⟨by omega, by omega, by omega, by omega, by omega, by omega, by omega, by omega,
      List.forall_mem_nil _⟩
  · rw [haosArray_spans (by omega)]
    have ordered : (haosSpans last).Pairwise fun r s => r.2 < s.1 := by
      simp [haosSpans]
    exact ordered.imp .inl

/-- The smallest ARM64 executable that `inspect` takes: a DOS header and a PE signature. -/
def bootExe : Bytes :=
  [0x4d, 0x5a] ++ zeros 58 ++ toLe 4 64 ++ [0x50, 0x45, 0, 0, 0x64, 0xaa]

/-- A sector that begins with these bytes. -/
def sectorOf (b : Bytes) : Bytes :=
  b ++ zeros (512 - b.length)

/-- It is a sector if they fit. -/
lemma length_sectorOf {b : Bytes} (h : b.length ≤ 512) : (sectorOf b).length = 512 := by
  rw [sectorOf, List.length_append, length_zeros]
  omega

/-- A FAT12 boot sector: six sectors, one table of one sector, and a root directory of 16 entries. -/
def fatBoot : Bytes :=
  [0xeb, 0x3c, 0x90] ++ zeros 8 ++ toLe 2 512 ++ [1] ++ toLe 2 1 ++ [1] ++ toLe 2 16 ++ toLe 2 6 ++
    [0xf8] ++ toLe 2 1 ++ toLe 2 1 ++ toLe 2 1 ++ zeros 482 ++ [0x55, 0xaa]

/-- An entry of a FAT directory. -/
def fatEntry (name : List Char) (attributes : UInt8) (cluster size : Nat) : Bytes :=
  (name.map fun c => UInt8.ofNat c.toNat) ++ [attributes] ++ zeros 14 ++ toLe 2 cluster ++ toLe 4 size

/-- A FAT12 volume with the file `EFI/BOOT/BOOTAA64.EFI`: after the table and the root directory there is
one cluster for each of the two directories and one for the file. -/
def fatVolume : Bytes :=
  [fatBoot, [0xf8, 0xff, 0xff, 0xff, 0xff, 0xff, 0xff, 0x0f],
    fatEntry "EFI        ".toList 0x10 2 0, fatEntry "BOOT       ".toList 0x10 3 0,
    fatEntry "BOOTAA64EFI".toList 0x20 4 70, bootExe].flatMap sectorOf

/-- The volume fills the boot partition. -/
lemma length_fatVolume : fatVolume.length = 6 * 512 := by
  have boot : fatBoot.length = 512 := by simp [fatBoot]
  have exe : bootExe.length = 70 := by simp [bootExe]
  have entry {name : List Char} {x : UInt8} {c n : Nat} (h : name.length = 11) :
      (fatEntry name x c n).length ≤ 512 := by
    simp [fatEntry, h]
  simp only [fatVolume, List.flatMap_cons, List.flatMap_nil, List.length_append, List.length_nil]
  rw [length_sectorOf (by rw [boot]), length_sectorOf (by decide), length_sectorOf (entry rfl),
    length_sectorOf (entry rfl), length_sectorOf (entry rfl), length_sectorOf (by rw [exe]; decide)]

/-- The file of a window with that volume. No other volume is read. -/
def fatFile (image : Bytes) (start length : Nat) (path : String) : Except String Bytes :=
  if slice image start length = fatVolume ∧ path = "EFI/BOOT/BOOTAA64.EFI" then .ok bootExe
  else .error "no FAT volume"

/-- The reference crates with a reader of the volume. -/
noncomputable def fatCrates : Crates :=
  { Crates.reference with fatFile := fatFile }

/-- The boot file of the volume is accepted. -/
lemma fatVolume_boots {image : Bytes} {start : Nat} (held : slice image start (6 * 512) = fatVolume) :
    inspectBoot fatCrates image start (6 * 512) = .ok () := by
  have read : parsed "IMAGE_PLATFORM" (fatCrates.fatFile image start (6 * 512)
      "EFI/BOOT/BOOTAA64.EFI") = .ok bootExe := by
    show parsed "IMAGE_PLATFORM" (fatFile _ _ _ _) = _
    rw [fatFile, if_pos ⟨held, rfl⟩]
    rfl
  have pe : Gpt.u32at bootExe 60 = 64 := by decide +kernel
  refine bind_ok.mpr ⟨_, read, bind_ok.mpr ⟨(), deny_ok.mpr (by decide +kernel), ?_⟩⟩
  dsimp only
  rw [pe]
  refine bind_ok.mpr ⟨(), deny_ok.mpr (by decide +kernel), ?_⟩
  exact bind_ok.mpr ⟨(), deny_ok.mpr (by decide +kernel), deny_ok.mpr (by decide +kernel)⟩

/-- The first entry of the array. -/
lemma haosArray_first {primary : Bytes} {last : Nat} (array : primary.drop 1024 = haosArray last) :
    slice primary 1024 16 = efiSystem ∧ Gpt.u64at primary (1024 + 32) = 34 ∧
      Gpt.u64at primary (1024 + 40) = 39 := by
  have entry : haosArray last = haosEntry ("hassos-boot", efiSystem, 1) (34, 39) ++
      ((haosBlocks last).drop 1).flatten := rfl
  have row : ("hassos-boot", efiSystem, 1) ∈ haosRows := List.mem_cons_self
  obtain ⟨len, type, _, start, stop, _⟩ := @haosEntry_fields _ (34, 39) row
  have first {o l : Nat} (h : o + l ≤ 128) : slice primary (1024 + o) l =
      slice (haosEntry ("hassos-boot", efiSystem, 1) (34, 39)) o l := by
    rw [← slice_drop, array, entry, slice_append_left (by omega)]
  refine ⟨?_, ?_, ?_⟩
  · rw [show 1024 = 1024 + 0 from rfl, first (by decide), type]
  · rw [Gpt.u64at, first (by decide), start]
    decide +kernel
  · rw [Gpt.u64at, first (by decide), stop]
    decide +kernel

/-- What `inspect` needs of an image around such an array. -/
lemma inspect_ok {X : Crates} {image : Bytes} {n last : Nat} (size : image.length = n * 512)
    (small : n ≤ 2 ^ 26) (room : last ≤ n - 34)
    (healthy : Gpt.Healthy (slice image 0 (34 * 512)) (slice image (n * 512 - 33 * 512) (33 * 512)) n)
    (array : (slice image 0 (34 * 512)).drop 1024 = haosArray last)
    (boot : inspectBoot X image (34 * 512) (6 * 512) = .ok ()) : inspect X image = .ok () := by
  have big := healthy.big
  have sectors : n * 512 / 512 = n := by omega
  have num : (UInt32.ofNat n).toNat = n := by
    rw [UInt32.toNat_ofNat']
    exact Nat.mod_eq_of_lt (by omega)
  obtain ⟨type, lba, last'⟩ := haosArray_first array
  refine bind_ok.mpr ⟨(), deny_ok.mpr ?_, bind_ok.mpr ⟨(), deny_ok.mpr (by omega), ?_⟩⟩
  · rw [← List.length_eq_zero_iff, maxImage]
    omega
  dsimp only
  rw [size, sectors]
  refine bind_ok.mpr ⟨(), deny_ok.mpr ?_, bind_ok.mpr ⟨(), ?_, ?_⟩⟩
  · have eight : (Gpt.spans (haosArray last)).length = 8 := by
      rw [haosArray_spans (by omega)]
      rfl
    have count : (Gpt.check (slice image 0 (34 * 512)) (slice image (n * 512 - 33 * 512) (33 * 512))
        (UInt32.ofNat n)).partitions = 8 := by
      rw [← eight, ← array, Gpt.check, if_neg]
      simp only [not_or, not_not, UInt32.not_le]
      exact ⟨healthy.sizePrimary, healthy.sizeTail, UInt32.lt_iff_toNat_lt.mpr (by rw [num]; exact big)⟩
    rw [count, Gpt.healthy_iff.mpr (by rw [num]; exact healthy)]
    decide
  · rw [array]
    exact haosArray_inspected
  refine bind_ok.mpr ⟨(), deny_ok.mpr ?_, ?_⟩
  · exact not_not.mpr type
  · rw [lba, last']
    exact boot

/-- An image with the volume in its boot partition and zeros in the others. -/
def haosImage (n last : Nat) : Bytes :=
  Gpt.imageWith n (haosArray last) (fatVolume ++ zeros ((n - 73) * 512))

/-- The image is accepted, and its boot partition is the volume. -/
lemma haosImage_inspected {n last : Nat} (big : 34849 < n) (small : n ≤ 2 ^ 26) (order : 46 ≤ last)
    (room : last ≤ n - 34) :
    inspect fatCrates (haosImage n last) = .ok () ∧
      (haosImage n last).length = n * 512 ∧
      slice (haosImage n last) 0 (34 * 512) = Gpt.primaryWith n (haosArray last) ∧
      slice (haosImage n last) (34 * 512) (6 * 512) = fatVolume := by
  have fits := haosArray_fitting big (by omega) order room
  have volume := length_fatVolume
  have size : (fatVolume ++ zeros ((n - 73) * 512)).length = (n - 67) * 512 := by
    rw [List.length_append, volume, length_zeros]
    omega
  obtain ⟨len, primary, body, tail⟩ := Gpt.imageWith_parts fits size
  have held : slice (haosImage n last) (34 * 512) (6 * 512) = fatVolume := by
    have front : slice (haosImage n last) (34 * 512 + 0) (6 * 512) =
        slice (fatVolume ++ zeros ((n - 73) * 512)) 0 (6 * 512) := by
      rw [← body, slice_slice (by omega)]
      rfl
    rw [front, slice_append_left (by omega), slice_full (by omega)]
  refine ⟨?_, len, primary, held⟩
  refine inspect_ok len small room ?_ ?_ (fatVolume_boots held)
  · rw [haosImage, primary, tail]
    exact Gpt.pair_healthy fits
  · rw [haosImage, primary]
    exact (Gpt.primaryWith_parts fits).2.2.2

end Sample

/-- For every run of requests of the FAT reader, whatever the system delivers and whenever the operation is
cancelled, the reader sees the first partition and nothing else. -/
theorem bootView_served {image : Bytes} (k : Checked image) {ls : List (Request × Answer)} {p' : Partition}
    (path : Lts.Path Partition.Step (bootView image) ls p') : Served image ls := by
  obtain ⟨_, order, sound, start, length, _⟩ := bootView_sound k
  have lawful : ∀ x ∈ ls, ∃ p1 p2, Partition.Same (bootView image) p1 ∧ p1.Sound ∧
      Partition.Lawful p1 x p2 := by
    intro x hx
    obtain ⟨l1, l2, rfl⟩ := List.append_of_mem hx
    obtain ⟨p1, p2, before, st, _⟩ := path.split
    obtain ⟨s1, same, _⟩ := Partition.run_sound sound before
    exact ⟨p1, p2, same, s1, (Partition.step_cases s1 st).2.1⟩
  refine ⟨?_, ?_, ?_⟩
  · rintro ⟨r, a⟩ hx b rfl
    obtain ⟨p1, p2, same, s1, law⟩ := lawful _ hx
    cases r with
    | read room =>
      obtain ⟨_, fits, each, _⟩ := law
      rw [same.length, length] at fits
      refine ⟨p1.position.toNat, by omega, List.ext_getElem? fun i => ?_⟩
      rw [getElem?_slice]
      split_ifs with inside
      · rw [each i inside, same.file, same.start, start]
        rfl
      · exact List.getElem?_eq_none (Nat.le_of_not_lt inside)
    | _ => exact law.elim
  · rintro ⟨r, a⟩ hx b rfl
    obtain ⟨p1, p2, _, _, law⟩ := lawful _ hx
    cases a with
    | error e => rfl
    | _ => exact law.elim
  · obtain ⟨_, _, paid⟩ := Partition.run_sound sound path
    have budget : (bootView image).budget.toNat = 100000 := rfl
    omega

/-- The boot sector of the volume is read, and a write is refused. -/
theorem bootView_served_sample :
    Served (haosImage 34949 34915) [(.read 512, .bytes (sectorOf fatBoot)),
      (.write [0], .error ⟨.permissionDenied, "Read-only image"⟩)] := by
  obtain ⟨accepted, len, primary, held⟩ :=
    @haosImage_inspected 34949 34915 (by decide) (by decide) (by decide) (by decide)
  have checked := inspect_checked accepted
  obtain ⟨_, lba, last⟩ := haosArray_first (Gpt.primaryWith_parts (@haosArray_fitting 34949 34915
    (by decide) (by decide) (by decide) (by decide))).2.2.2
  rw [← primary] at lba last
  have view : bootView (haosImage 34949 34915) =
      ⟨haosImage 34949 34915, 17408, 3072, 0, 100000⟩ := by
    rw [bootView, lba, last]
    rfl
  have sector : slice (haosImage 34949 34915) 17408 512 = sectorOf fatBoot := by
    have boot : fatBoot.length = 512 := by simp [fatBoot]
    rw [← Nat.add_zero 17408, ← slice_slice (show 0 + 512 ≤ 6 * 512 by decide), held, fatVolume,
      List.flatMap_cons, slice_append_left (by rw [length_sectorOf (by omega)]),
      slice_full (by rw [length_sectorOf (by omega)])]
  have read : Partition.Step (bootView (haosImage 34949 34915)) (.read 512, .bytes (sectorOf fatBoot))
      ⟨haosImage 34949 34915, 17408, 3072, 512, 99999⟩ := by
    refine ⟨⟨false, none, .ok 512⟩, ?_⟩
    have size : (slice (haosImage 34949 34915) 17408 512).length = 512 :=
      length_slice (by rw [len]; decide)
    rw [view, ← sector]
    show ((⟨haosImage 34949 34915, 17408, 3072,
      0 + UInt64.ofNat (slice (haosImage 34949 34915) 17408 512).length, 99999⟩ : Partition),
      Answer.bytes (slice (haosImage 34949 34915) 17408 512)) = _
    rw [size]
    rfl
  exact bootView_served checked (.cons read (.cons ⟨⟨false, none, .ok 0⟩, rfl⟩ .nil))

end K11CHaos.Engine.Images
