import K11CHaos.Engine.FixturePair
import K11CHaos.Engine.FactoryReadback
import K11CHaos.Engine.Reading
import K11CHaos.Lib.Text

/-!
# Firmware packages

The smallest package that the vendor's listing can describe: a loader, an unwrapped `parameter` text and
one sector each for `uboot`, `boot` and `rootfs`, filled with any three bytes. It is opened through its
receipt (`package_opened`), it fits an eMMC of 40000 sectors (`package_planned`), and a disk with its
partition table and its sectors in their places passes the read-back (`packageDisk_laid`,
`packageDisk_stored`).
-/

namespace K11CHaos.Engine.Factory
open Scripts.GptImage (entryOf entryOf_start entryOf_stop entries_flatten flatten_length)

/-! ## The package -/

/-- The `parameter` text. -/
def packageParameter : List Char :=
  ["TYPE: GPT\n", "mtdparts=rk:", "0x2000@0x4000(uboot),", "0x2000@0x6000(boot),",
    "-@0x8000(rootfs:grow)"].flatMap String.toList

/-- Its bytes, which are its characters. -/
def parameterBytes : Bytes :=
  packageParameter.map fun c => UInt8.ofNat c.toNat

/-- Its partitions. -/
def packageParts : List Partition :=
  [⟨"uboot", 0x4000, some 0x2000⟩, ⟨"boot", 0x6000, some 0x2000⟩, ⟨"rootfs", 0x8000, none⟩]

/-- What the vendor tool says of the package. -/
def packageListing : List Char :=
  ["Chip Tag:3568\n", "Entry Count:5\n",
    "EntryNo=0;", "partition=loader;", "offset=0x10;", "size=0x10\n",
    "EntryNo=1;", "file=parameter;", "offset=0x200;", "size=0x54\n",
    "EntryNo=2;", "file=uboot;", "offset=0x400;", "size=0x200\n",
    "EntryNo=3;", "file=boot;", "offset=0x600;", "size=0x200\n",
    "EntryNo=4;", "file=rootfs;", "offset=0x800;", "size=0x200\n"].flatMap String.toList

/-- Its entries. -/
def packageEntries : List Entry :=
  [⟨"MiniLoaderAll.bin", 0x10, 0x10, false⟩, ⟨"parameter", 0x200, 0x54, false⟩,
    ⟨"uboot", 0x400, 0x200, false⟩, ⟨"boot", 0x600, 0x200, false⟩, ⟨"rootfs", 0x800, 0x200, false⟩]

/-- A sector that is filled with a byte. -/
def filled (x : UInt8) : Bytes :=
  List.replicate 512 x

/-- The first two sectors: the header of the package and its parameter text. -/
def packageHead : Bytes :=
  [0x52, 0x4b, 0x46, 0x57] ++ List.replicate 508 0 ++ parameterBytes ++ List.replicate 428 0

/-- The package. -/
def package (x y z : UInt8) : Bytes :=
  packageHead ++ filled x ++ filled y ++ filled z

/-- Its receipt. -/
def packageImage (x y z : UInt8) : Image :=
  ⟨hashBytes (package x y z), "system.img", 2560, "RKFW", "Linux", packageEntries, packageParts⟩

/-- Crates with a vendor tool that lists the package. -/
noncomputable def packageCrates : Crates :=
  { Crates.reference with rkfw := rkfw fun _ => .ok (String.ofList packageListing) }

/-- The files of a base directory with the package. -/
def packageStore (x y z : UInt8) : Store := fun p =>
  if p = .factoryImage (hashBytes (package x y z)) then .ok (packageImage x y z).json.bytes
  else if p = .outside "system.img" then .ok (package x y z)
  else .error "File not found"

/-- What the read-back compares. -/
def packageChecks : List Check :=
  [⟨0x4000, 512, 0x400, none⟩, ⟨0x6000, 512, 0x600, none⟩, ⟨0x8000, 512, 0x800, none⟩]

section
variable {x y z : UInt8}

/-- A filled sector. -/
lemma length_filled : (filled x).length = 512 :=
  List.length_replicate

/-- The length of the parameter text with its frame. -/
lemma length_parameterBytes : parameterBytes.length = 84 := by
  have chars : packageParameter.length = 84 := by decide
  rw [parameterBytes, List.length_map, chars]

/-- The front of the package. -/
lemma length_packageHead : packageHead.length = 1024 := by
  simp only [packageHead, List.length_append, List.length_replicate, length_parameterBytes]
  rfl

/-- The package is five sectors. -/
lemma length_package : (package x y z).length = 2560 := by
  simp only [package, List.length_append, length_packageHead, length_filled]

/-- The parts of the package. -/
lemma slice_package :
    slice (package x y z) 0x400 512 = filled x ∧ slice (package x y z) 0x600 512 = filled y ∧
      slice (package x y z) 0x800 512 = filled z := by
  have head := length_packageHead
  refine ⟨?_, ?_, ?_⟩
  · rw [package, List.append_assoc]
    exact slice_middle head length_filled
  · refine slice_middle ?_ length_filled
    rw [List.length_append, head, length_filled]
  · rw [package, slice_append_right]
    · rw [List.length_append, List.length_append, head, length_filled, length_filled]
      exact slice_full (Nat.le_of_eq length_filled)
    · rw [List.length_append, List.length_append, head, length_filled, length_filled]

/-- A window of the first two sectors. -/
lemma slice_head {o l : Nat} (h : o + l ≤ 1024) :
    slice (package x y z) o l = slice packageHead o l := by
  have head := length_packageHead
  rw [package, List.append_assoc, List.append_assoc, slice_append_left (by omega)]

/-- A read inside the front. -/
lemma package_bounded {o l : Nat} (h : o + l ≤ 1024) :
    bounded (package x y z) o l = .ok (slice packageHead o l) := by
  refine bind_ok.mpr ⟨(), deny_ok.mpr ?_, by rw [slice_head h]; rfl⟩
  rw [length_package]
  omega

/-- The listing is read. -/
lemma package_entries : entries (String.ofList packageListing) 2560 = .ok packageEntries := by
  have sorted : Gpt.sortSpans (packageEntries.map spanOf) = packageEntries.map spanOf :=
    List.mergeSort_of_pairwise (by decide)
  have read : entryLines 2560 (Str.lines packageListing) [] none = .ok (packageEntries, some 5) := by
    decide
  have tagged : Str.contains packageListing "Chip Tag:3568".toList = true := by decide
  rw [entries, String.toList_ofList]
  refine bind_ok.mpr ⟨(), deny_ok.mpr ?_, bind_ok.mpr ⟨_, read, ?_⟩⟩
  · rw [tagged, Bool.not_true, Bool.and_false]
    exact Bool.false_ne_true
  refine bind_ok.mpr ⟨(), deny_ok.mpr (by decide), bind_ok.mpr ⟨(), deny_ok.mpr ?_, rfl⟩⟩
  rw [sorted]
  decide

/-- The parameter text is read. -/
lemma package_parameter :
    parameterPayload (slice packageHead 0x200 0x54) = .ok packageParameter ∧
      parameter (String.ofList (trimNul packageParameter)) = .ok packageParts := by
  have text : slice packageHead 0x200 0x54 = parameterBytes := by
    refine slice_middle ?_ length_parameterBytes
    rw [List.length_append, List.length_replicate]
    rfl
  have plain : slice parameterBytes 0 4 ≠ [0x50, 0x41, 0x52, 0x4d] := by
    rw [slice, List.drop_zero]
    decide
  have utf : String.fromUTF8? ⟨parameterBytes.toArray⟩ = some (String.ofList packageParameter) :=
    fromUTF8_ascii (forall_of_all (by decide))
  have trimmed : Str.trim packageParameter = packageParameter := by decide
  constructor
  · rw [text, parameterPayload, if_neg plain]
    refine bind_ok.mpr ⟨parameterBytes, rfl, ?_⟩
    dsimp only
    rw [utf]
    dsimp only
    rw [String.toList_ofList, trimmed]
    rfl
  · rw [parameter, String.toList_ofList]
    decide

/-- The vendor's part of an inspection. -/
lemma package_rkfw :
    packageCrates.rkfw (package x y z) = .ok ("Linux", packageEntries, packageParts) := by
  have named : packageEntries.find? (fun e => e.name == "parameter") =
      some ⟨"parameter", 0x200, 0x54, false⟩ := by decide
  obtain ⟨payload, table⟩ := package_parameter
  refine bind_ok.mpr ⟨_, rfl, bind_ok.mpr ⟨packageEntries, ?_, ?_⟩⟩
  · rw [length_package]
    exact package_entries
  rw [named]
  refine bind_ok.mpr ⟨_, package_bounded (by decide), bind_ok.mpr ⟨_, payload, ?_⟩⟩
  exact bind_ok.mpr ⟨_, table, bind_ok.mpr ⟨(), deny_ok.mpr (by decide), rfl⟩⟩

/-- The package is what its receipt says. -/
lemma package_inspected : inspect packageCrates "system.img" (package x y z) = .ok (packageImage x y z) := by
  refine bind_ok.mpr ⟨(), deny_ok.mpr (by rw [length_package]; decide), ?_⟩
  refine bind_ok.mpr ⟨_, package_bounded (by decide), ?_⟩
  have kind : slice (slice packageHead 0 512) 0 4 = [0x52, 0x4b, 0x46, 0x57] := by
    rw [slice_slice (by decide), slice, List.drop_zero]
    rfl
  rw [if_pos kind]
  refine bind_ok.mpr ⟨_, package_rkfw, bind_ok.mpr ⟨"system.img", rfl, ?_⟩⟩
  rw [packageImage, length_package]
  rfl

/-- The text of a receipt is as long as its hash makes it. -/
lemma size_receipt (image : Image) (hash : String) :
    { image with sha256 := hash }.json.size + Json.quoteSize "" =
      { image with sha256 := "" }.json.size + Json.quoteSize hash := by
  simp only [Image.json, Json.size, Json.sizeFields]
  omega

/-- The text of the receipt is short, whatever the hash in it is. -/
lemma packageImage_short : (packageImage x y z).json.bytes.length ≤ 128 * 1024 := by
  have hash := (Json.quoteSize_bounds (hashBytes (package x y z))).2
  rw [(hashBytes_hex _).1] at hash
  have rest : Json.size (Image.json ⟨"", "system.img", 2560, "RKFW", "Linux", packageEntries,
      packageParts⟩) ≤ 2048 := by
    decide
  have total := size_receipt ⟨"", "system.img", 2560, "RKFW", "Linux", packageEntries, packageParts⟩
    (hashBytes (package x y z))
  rw [Json.length_bytes]
  dsimp only at total
  rw [packageImage]
  omega

/-- The package is opened through its receipt. -/
lemma package_opened :
    openImage packageCrates (packageStore x y z) (hashBytes (package x y z)) =
      .ok (packageImage x y z, package x y z) := by
  have hex : hashId (hashBytes (package x y z)) = true := decide_eq_true (hashBytes_hex _)
  have receipt : packageStore x y z (.factoryImage (hashBytes (package x y z))) =
      .ok (packageImage x y z).json.bytes := if_pos rfl
  have text : (packageStore x y z).file "FACTORY_IMAGE" (.factoryImage (hashBytes (package x y z))) =
      .ok (packageImage x y z).json.bytes := by
    rw [Store.file, receipt]
    rfl
  have file : (packageStore x y z).file "FACTORY_IMAGE" (.outside "system.img") =
      .ok (package x y z) := by
    simp only [Store.file, packageStore, reduceCtorEq, if_false, if_true, Except.mapError]
  have read : parsed "FACTORY_IMAGE" (packageCrates.parseImage (packageImage x y z).json.bytes) =
      .ok (packageImage x y z) := by
    rw [parsed, show packageCrates.parseImage (packageImage x y z).json.bytes =
      .ok (packageImage x y z) from reader_bytes (packageImage x y z).ofJson_json]
    rfl
  refine bind_ok.mpr ⟨(), deny_ok.mpr (by rw [hex]; decide), bind_ok.mpr ⟨_, text, ?_⟩⟩
  refine bind_ok.mpr ⟨(), deny_ok.mpr (Nat.not_lt.mpr packageImage_short), bind_ok.mpr ⟨_, read, ?_⟩⟩
  refine bind_ok.mpr ⟨_, file, bind_ok.mpr ⟨_, package_inspected, bind_ok.mpr ⟨(), deny_ok.mpr ?_, rfl⟩⟩⟩
  simp [packageImage]

/-- The partitions fit 40000 sectors. -/
lemma package_fits : validateCapacity (packageImage x y z) 40000 = .ok () := by
  have room : ¬ ((40000 : UInt32) ≤ 34849 ∨ packageParts.any fun p =>
      decide (p.lba.toNat + (p.sectors.getD 1).toNat > UInt32.toNat 40000 - 33)) := by decide
  exact deny_ok.mpr room

/-- The partitions with the sizes that an eMMC of 40000 sectors gives them. -/
def packageSized : List Partition :=
  [⟨"uboot", 0x4000, some 0x2000⟩, ⟨"boot", 0x6000, some 0x2000⟩, ⟨"rootfs", 0x8000, some 7199⟩]

/-- An entry that no partition holds is not checked. -/
lemma verifyEntries_none {image : Image} {file : Bytes} {sectors : UInt32} {entry : Entry}
    {entries : List Entry} {out : List Check}
    (found : (image.partitions.find? fun p => p.name == entry.name) = none) :
    verifyEntries image file sectors (entry :: entries) out =
      verifyEntries image file sectors entries out := by
  rw [verifyEntries, found]

/-- An entry in its partition adds one check. -/
lemma verifyEntries_raw {image : Image} {file : Bytes} {sectors : UInt32} {entry : Entry}
    {entries : List Entry} {out : List Check} {part : Partition}
    (found : (image.partitions.find? fun p => p.name == entry.name) = some part)
    (raw : entry.sparse = false)
    (fits : entry.bytes % 512 = 0 ∧
      entry.bytes ≤ (part.sectors.getD (sectors - 33 - part.lba)).toNat * 512) :
    verifyEntries image file sectors (entry :: entries) out =
      verifyEntries image file sectors entries (out ++ [⟨part.lba, entry.bytes, entry.offset, none⟩]) := by
  have ok : ¬ (entry.bytes % 512 ≠ 0 ∨
      entry.bytes > (part.sectors.getD (sectors - 33 - part.lba)).toNat * 512) := by omega
  have pass : deny (entry.bytes % 512 ≠ 0 ∨
      entry.bytes > (part.sectors.getD (sectors - 33 - part.lba)).toNat * 512) "FACTORY_IMAGE"
      "Partition payload exceeds its range" = .ok () := deny_ok.mpr ok
  rw [verifyEntries, found]
  dsimp only
  rw [raw, if_neg Bool.false_ne_true, pass]
  rfl

/-- The checks of the package, with its own sizes and with those of the device. -/
lemma package_checks {file : Bytes} {image : Image} (listed : image.entries = packageEntries)
    (placed : image.partitions = packageParts ∨ image.partitions = packageSized) :
    verification image file 40000 = .ok packageChecks := by
  have all : verifyEntries image file 40000 packageEntries [] = .ok packageChecks := by
    unfold packageEntries
    obtain placed | placed := placed
    · rw [verifyEntries_none (by rw [placed]; decide), verifyEntries_none (by rw [placed]; decide),
        verifyEntries_raw (by rw [placed]; rfl) rfl (by decide),
        verifyEntries_raw (by rw [placed]; rfl) rfl (by decide),
        verifyEntries_raw (by rw [placed]; rfl) rfl (by decide)]
      rfl
    · rw [verifyEntries_none (by rw [placed]; decide), verifyEntries_none (by rw [placed]; decide),
        verifyEntries_raw (by rw [placed]; rfl) rfl (by decide),
        verifyEntries_raw (by rw [placed]; rfl) rfl (by decide),
        verifyEntries_raw (by rw [placed]; rfl) rfl (by decide)]
      rfl
  refine bind_ok.mpr ⟨_, ?_, bind_ok.mpr ⟨(), deny_ok.mpr (by decide), rfl⟩⟩
  rw [listed]
  exact all

/-- The checks of the package as it was opened. -/
lemma package_planned :
    verification (packageImage x y z) (package x y z) 40000 = .ok packageChecks :=
  package_checks rfl (.inl rfl)

end

/-! ## The disk -/

/-- The spans of the three partitions on 40000 sectors. -/
def packageSpans : List (Nat × Nat) :=
  [(0x4000, 0x5fff), (0x6000, 0x7fff), (0x8000, 39966)]

/-- The rows of the partition table. -/
def packageRows : List Bytes :=
  List.zipWith entryOf ["uboot", "boot", "rootfs"] packageSpans

/-- The partition array. -/
def packageArray : Bytes :=
  (packageRows ++ List.replicate 125 (zeros 128)).flatten

/-- Every row is 128 bytes. -/
lemma packageRows_each : ∀ b ∈ packageRows ++ List.replicate 125 (zeros 128), b.length = 128 := by
  intro b hb
  obtain hb | hb := List.mem_append.mp hb
  · have rows : ∀ r ∈ packageRows, r.length = 128 := by decide +kernel
    exact rows b hb
  · rw [(List.mem_replicate.mp hb).2, length_zeros]

/-- The rows are read back. -/
lemma packageArray_rows : (Gpt.entries packageArray).filter Gpt.inUse = packageRows := by
  rw [packageArray, entries_flatten packageRows_each, List.filter_append, List.filter_replicate_of_neg]
  · rw [List.append_nil]
    exact List.filter_eq_self.mpr (by simp [packageRows, packageSpans, Gpt.inUse_entryOf])
  · rw [Gpt.inUse_zeros]
    exact Bool.false_ne_true

/-- The partitions fit between the two copies. -/
lemma packageArray_fitting : Gpt.Fitting 40000 packageArray := by
  have read : Gpt.spans packageArray = packageSpans := by
    rw [Gpt.spans, packageArray, entries_flatten packageRows_each]
    exact Gpt.spans_labelled rfl (by decide)
  refine ⟨by decide, by decide, ?_, ?_, ?_⟩
  · rw [packageArray, flatten_length packageRows_each, List.length_append, List.length_replicate]
    rfl
  · rw [read]
    decide
  · rw [read]
    decide

/-- What the vendor tool writes. -/
def packageWrites (x y z : UInt8) : List (Nat × Bytes) :=
  [(0, Gpt.primaryWith 40000 packageArray), (512 * 0x4000, filled x), (512 * 0x6000, filled y),
    (512 * 0x8000, filled z), (512 * 39967, Gpt.tailWith 40000 packageArray)]

/-- An empty eMMC with the package. -/
def packageDisk (x y z : UInt8) : Disk :=
  writeAll (fun _ => 0) (packageWrites x y z)

section
variable {x y z : UInt8}

/-- What is written between two headers does not meet. -/
lemma writes_apart {primary tail : Bytes} (h : primary.length = 34 * 512) :
    [(0, primary), (512 * 0x4000, filled x), (512 * 0x6000, filled y), (512 * 0x8000, filled z),
      (512 * 39967, tail)].Pairwise
        fun v w => w.1 + w.2.length ≤ v.1 ∨ v.1 + v.2.length ≤ w.1 := by
  simp only [List.pairwise_cons, List.mem_cons, List.not_mem_nil, or_false, forall_eq_or_imp,
    forall_eq, h, length_filled]
  simp

/-- Everything that was written is there. -/
lemma packageDisk_reads {w : Nat × Bytes} (hw : w ∈ packageWrites x y z) :
    readAt (packageDisk x y z) w.1 w.2.length = w.2 := by
  obtain ⟨primary, -, -, -⟩ := Gpt.primaryWith_parts packageArray_fitting
  exact readAt_writeAll (writes_apart primary) hw

/-- The headers of the disk. -/
lemma packageDisk_headers :
    readAt (packageDisk x y z) 0 (34 * 512) = Gpt.primaryWith 40000 packageArray ∧
      readAt (packageDisk x y z) (512 * (40000 - 33 : UInt32).toNat) (33 * 512) =
        Gpt.tailWith 40000 packageArray := by
  obtain ⟨primary, -, -, -⟩ := Gpt.primaryWith_parts packageArray_fitting
  obtain ⟨tail, -, -⟩ := Gpt.tailWith_parts packageArray_fitting
  have first := @packageDisk_reads x y z (0, Gpt.primaryWith 40000 packageArray) (by simp [packageWrites])
  have last := @packageDisk_reads x y z (512 * 39967, Gpt.tailWith 40000 packageArray)
    (by simp [packageWrites])
  rw [primary] at first
  rw [tail] at last
  exact ⟨first, last⟩

/-- The sectors of the package are in their places. -/
lemma packageDisk_stored {k : Check} (hk : k ∈ packageChecks) :
    ∀ b ∈ blocks chunk k.bytes 0,
      readAt (packageDisk x y z) (512 * (k.lba + UInt32.ofNat (b.1 / 512)).toNat) b.2 =
        expectedBlock (package x y z) k b.1 b.2 := by
  have one : blocks chunk 512 0 = [(0, 512)] := by
    rw [blocks, dif_pos (by decide)]
    dsimp only
    rw [blocks, dif_neg (by decide)]
    rfl
  have reads {a : Nat} {v : UInt8} (h : (a, filled v) ∈ packageWrites x y z) :
      readAt (packageDisk x y z) a 512 = filled v := by
    have here := packageDisk_reads h
    rwa [length_filled] at here
  obtain ⟨uboot, boot, rootfs⟩ := @slice_package x y z
  intro b hb
  simp only [packageChecks, List.mem_cons, List.not_mem_nil, or_false] at hk
  obtain rfl | rfl | rfl := hk
  all_goals
    rw [one] at hb
    obtain rfl := List.mem_singleton.mp hb
    rw [expectedBlock]
  · exact (reads (by simp [packageWrites])).trans uboot.symm
  · exact (reads (by simp [packageWrites])).trans boot.symm
  · exact (reads (by simp [packageWrites])).trans rootfs.symm

/-- The partition table of the disk is the one of the package. -/
lemma packageDisk_laid :
    verifyLayout (Gpt.primaryWith 40000 packageArray) (Gpt.tailWith 40000 packageArray) 40000
      (packageImage x y z) (package x y z) = .ok () := by
  obtain ⟨-, -, -, array⟩ := Gpt.primaryWith_parts packageArray_fitting
  have healthy : (Gpt.check (Gpt.primaryWith 40000 packageArray) (Gpt.tailWith 40000 packageArray)
      40000).healthy = true := Gpt.healthy_iff.mpr (Gpt.pair_healthy packageArray_fitting)
  have count : packageRows.length = packageParts.length := by decide
  have rows : layoutRows 39966 3 0 (packageRows.zip packageParts) = .ok packageSized := by
    decide +kernel
  refine bind_ok.mpr ⟨(), deny_ok.mpr (not_not.mpr healthy), ?_⟩
  dsimp only
  rw [array, packageArray_rows]
  refine bind_ok.mpr ⟨(), deny_ok.mpr (not_not.mpr count), ?_⟩
  refine bind_ok.mpr ⟨packageSized, rows, bind_ok.mpr ⟨packageChecks, ?_, rfl⟩⟩
  rw [package_checks rfl (.inr rfl)]
  rfl

end

end K11CHaos.Engine.Factory
