import K11CHaos.Engine.Supply

/-!
# What `build` returns

One lemma for each arm of `build`: the checks that it has made, and its segments with the intended GPT
pair. A segment that is not fed from an archive stream is `Steady`: it has what it announces, whatever the
stream is.
-/

namespace K11CHaos.Engine.Flash

/-- A segment that has its bytes of its own. -/
structure Steady (seg : Segment) : Prop where
  own : seg.payload ≠ .archive
  supplies : ∀ stream, Supplies seg stream

/-- Bytes that are held in memory. -/
lemma steady_bytes {label lba b} : Steady (bytesSegment label lba b) :=
  ⟨nofun, fun _ => supplies_bytes⟩

/-- A window of an image with the digest that was planned. -/
lemma steady_image {label lba file offset count hash} (fits : offset + count ≤ file.length)
    (h : hash = hashBytes (slice file offset count)) :
    Steady ⟨⟨label, lba, count, hash⟩, .image file offset count⟩ :=
  ⟨nofun, fun _ => supplies_image fits h⟩

/-- Steady segments are supplied whatever the stream holds. -/
lemma allSupplied_steady {segs : List Segment} {stream} (h : ∀ seg ∈ segs, Steady seg) :
    AllSupplied segs stream := by
  induction segs generalizing stream with
  | nil => trivial
  | cons seg segs ih =>
    exact ⟨(h _ List.mem_cons_self).supplies _, ih fun s hs => h s (List.mem_cons_of_mem _ hs)⟩

/-- Only an archive is read from the stream. -/
lemma source_own {pl : Payload} {stream} (h : pl ≠ .archive) : pl.source stream = pl.source none := by
  cases pl with
  | archive => exact absurd rfl h
  | _ => rfl

/-- The bytes of a segment that has its own are among the contents. -/
lemma mem_contents {segs : List Segment} {seg : Segment} {stream} (h : seg ∈ segs)
    (own : seg.payload ≠ .archive) :
    (seg.range, (seg.payload.source none).take seg.range.bytes) ∈
      (segs.map Segment.range).zip (contents segs stream) := by
  induction segs generalizing stream with
  | nil => exact absurd h List.not_mem_nil
  | cons s segs ih =>
    obtain rfl | h := List.mem_cons.mp h
    · rw [contents, source_own own]
      exact .head _
    · exact .tail _ (ih h)

section Stored

variable {d : Disk} {segs : List Segment} {stream : Option Bytes} {sectors : UInt32}

/-- Given bytes are on the disk in the end. -/
lemma stored_bytes {label lba b} (supplied : AllSupplied segs stream)
    (laid : Laid (segs.map Segment.range) sectors) (h : bytesSegment label lba b ∈ segs) :
    readAt (imageOf d segs stream) (512 * lba.toNat) b.length = b := by
  have e := (imageOf_stored (d := d) supplied laid _ (mem_contents h nofun)).2
  exact e.trans List.take_length

/-- The window of an image file is on the disk in the end. -/
lemma stored_image {label lba file offset count hash} (supplied : AllSupplied segs stream)
    (laid : Laid (segs.map Segment.range) sectors) (fits : offset + count ≤ file.length)
    (h : ⟨⟨label, lba, count, hash⟩, .image file offset count⟩ ∈ segs) :
    readAt (imageOf d segs stream) (512 * lba.toNat) count = slice file offset count := by
  have e := (imageOf_stored (d := d) supplied laid _ (mem_contents h nofun)).2
  exact e.trans (List.take_of_length_le (Nat.le_of_eq (length_slice fits)))

end Stored

/-- The zone where the image's own backup GPT would land, cleared but for the part that the new one
    takes. -/
def installCleared (size sectors : UInt32) : List Segment :=
  let oldTail := size + 32768 - 33
  if oldTail < sectors - 33 then
    [bytesSegment "Old image GPT cleared" oldTail
      (zeros (min (sectors - 33 - oldTail) 33 * 512).toNat)]
  else []

/-- What an installation has checked, and what it writes. -/
structure Install (X : Crates) (st : Store) (source : String) (identity : Identity) (work : Work)
    (file : Bytes) (pair : Bytes × Bytes) (fw : Bytes) : Prop where
  prepared : st (.prepared source) = .ok file
  aligned : file.length % 512 = 0
  big : 34849 * 512 < file.length
  small : file.length ≤ 32 * 1024 * 1024 * 1024
  whole : hashBytes file = source
  inspected : Images.inspect X file = .ok ()
  relocated : Gpt.relocated (slice file 0 (34 * 512))
    (slice file (file.length - 33 * 512) (33 * 512)) (UInt32.ofNat (file.length / 512))
    identity.sectors = .ok pair
  firmware : ∃ s, Components.selection X st source = .ok s ∧
    Components.bootBytes X st s.boot.asset.sha256 = .ok fw
  segments : work.segments =
    ⟨⟨"HAOS partitions", 34816, file.length - 2048 * 512 - 33 * 512,
        hashBytes (slice file (2048 * 512) (file.length - 2048 * 512 - 33 * 512))⟩,
      .image file (2048 * 512) (file.length - 2048 * 512 - 33 * 512)⟩ ::
    installCleared (UInt32.ofNat (file.length / 512)) identity.sectors ++
    [bytesSegment "K11C boot firmware" 34 (put (zeros (reserve - 34 * 512)) (30 * 512) fw),
      bytesSegment "Backup GPT" (identity.sectors - 33) pair.2,
      bytesSegment "Primary GPT" 0 pair.1]
  primary : work.primary = pair.1
  tail : work.tail = pair.2
  archive : work.archive = none

/-- A file that was opened is there. -/
lemma file_ok {st : Store} {code p b} (h : st.file code p = .ok b) : st p = .ok b := by
  unfold Store.file at h
  cases hp : st p with
  | error e =>
    rw [hp] at h
    cases h
  | ok c =>
    rw [hp] at h
    cases h
    rfl

/-- What the arm of `install` has checked. -/
lemma buildInstall_ok {X st source identity work}
    (h : buildInstall X st source identity = .ok work) :
    ∃ file pair fw, Install X st source identity work file pair fw := by
  obtain ⟨_, _, h1⟩ := bind_ok.mp h
  obtain ⟨file, hf, h2⟩ := bind_ok.mp h1
  obtain ⟨_, size, h3⟩ := bind_ok.mp h2
  obtain ⟨⟨whole, hash⟩, hh, h4⟩ := bind_ok.mp h3
  obtain ⟨_, same, h5⟩ := bind_ok.mp h4
  obtain ⟨_, insp, h6⟩ := bind_ok.mp h5
  obtain ⟨pair, hr, h7⟩ := bind_ok.mp h6
  obtain ⟨s, hs, h8⟩ := bind_ok.mp h7
  obtain ⟨fw, hfw, h9⟩ := bind_ok.mp h8
  obtain ⟨fits, e1, e2⟩ := imageHashes_ok hh
  simp only [deny_ok, not_or, not_not] at size same
  dsimp only at e1 e2
  subst e2
  cases h9
  exact ⟨file, pair, fw, file_ok hf, size.1, by omega, by omega, by rw [← e1, same], insp, hr,
    ⟨s, hs, hfw⟩, rfl, rfl, rfl, rfl⟩

/-- A raw disk image that is opened through its receipt and fits the eMMC. -/
structure RawDisk (X : Crates) (st : Store) (source : String) (identity : Identity)
    (file : Bytes) : Prop where
  opened : ∃ image, Factory.openImage X st source = .ok (image, file) ∧ image.format = "RAW"
  aligned : file.length % 512 = 0
  big : 34849 * 512 < file.length
  fits : file.length / 512 ≤ identity.sectors.toNat

/-- The size of a raw disk image in sectors. -/
def imageSectors (file : Bytes) : UInt32 :=
  UInt32.ofNat (file.length / 512)

/-- What the restoration of a GPT disk image writes. -/
structure RawGpt (identity : Identity) (work : Work) (file : Bytes) (pair : Bytes × Bytes) : Prop where
  resized : Gpt.resized (slice file 0 (34 * 512)) (slice file (file.length - 33 * 512) (33 * 512))
    (imageSectors file) identity.sectors = .ok pair
  fits : 34 * 512 + ((imageSectors file).toNat - 67) * 512 ≤ file.length
  segments : work.segments =
    ⟨⟨"Manufacturer system", 34, ((imageSectors file).toNat - 67) * 512,
        hashBytes (slice file (34 * 512) (((imageSectors file).toNat - 67) * 512))⟩,
      .image file (34 * 512) (((imageSectors file).toNat - 67) * 512)⟩ ::
    (if imageSectors file < identity.sectors then
      [bytesSegment "Old image GPT cleared" (imageSectors file - 33)
        (zeros ((min (identity.sectors - imageSectors file) 33).toNat * 512))]
    else []) ++
    [bytesSegment "Backup GPT" (identity.sectors - 33) pair.2,
      bytesSegment "Primary GPT" 0 pair.1]
  primary : work.primary = pair.1
  tail : work.tail = pair.2

/-- The last sectors that a disk image without GPT leaves: what it has of them itself, then zeros. -/
def mbrTail (file : Bytes) (sectors : UInt32) : Bytes :=
  if imageSectors file > sectors - 33 then
    put (zeros (33 * 512)) 0
      (slice file ((sectors - 33).toNat * 512) ((imageSectors file - (sectors - 33)).toNat * 512))
  else zeros (33 * 512)

/-- What the restoration of a disk image without GPT writes. -/
structure RawMbr (identity : Identity) (work : Work) (file : Bytes) : Prop where
  segments : work.segments =
    ⟨⟨"Manufacturer system", 0, file.length, hashBytes (slice file 0 file.length)⟩,
      .image file 0 file.length⟩ ::
    (if imageSectors file < identity.sectors then
      [bytesSegment "Old GPT cleared" (max (imageSectors file) (identity.sectors - 33))
        (zeros ((identity.sectors - max (imageSectors file) (identity.sectors - 33)).toNat * 512))]
    else [])
  primary : work.primary = slice file 0 (34 * 512)
  tail : work.tail = mbrTail file identity.sectors

/-- What `raw_layout` has checked. -/
lemma rawLayout_ok {file a b size} (h : Factory.rawLayout file = .ok (a, b, size)) :
    file.length % 512 = 0 ∧ 34849 * 512 < file.length ∧ file.length / 512 < 2 ^ 32 ∧
      slice file 0 (34 * 512) = a ∧ slice file (file.length - 33 * 512) (33 * 512) = b ∧
      imageSectors file = size := by
  obtain ⟨_, hs, h1⟩ := bind_ok.mp h
  obtain ⟨a', ha, h2⟩ := bind_ok.mp h1
  obtain ⟨b', hb, h3⟩ := bind_ok.mp h2
  obtain ⟨_, _, h4⟩ := bind_ok.mp h3
  obtain ⟨_, ea⟩ := Factory.bounded_ok ha
  obtain ⟨_, eb⟩ := Factory.bounded_ok hb
  subst ea eb
  simp only [deny_ok, not_or, not_not] at hs
  refine ⟨hs.1, by omega, by omega, ?_⟩
  split_ifs at h4 with gpt
  · obtain ⟨_, _, h5⟩ := bind_ok.mp h4
    obtain ⟨_, _, h6⟩ := bind_ok.mp h5
    cases h6
    exact ⟨rfl, rfl, rfl⟩
  · obtain ⟨spans, _, h5⟩ := bind_ok.mp h4
    obtain ⟨_, _, h6⟩ := bind_ok.mp h5
    cases h6
    exact ⟨rfl, rfl, rfl⟩

/-- The receipt of an image has its length. -/
lemma openImage_bytes {X st id image file} (h : Factory.openImage X st id = .ok (image, file)) :
    image.bytes = file.length := by
  obtain ⟨_, _, h1⟩ := bind_ok.mp h
  obtain ⟨text, _, h2⟩ := bind_ok.mp h1
  obtain ⟨_, _, h3⟩ := bind_ok.mp h2
  obtain ⟨i, _, h4⟩ := bind_ok.mp h3
  obtain ⟨f, _, h5⟩ := bind_ok.mp h4
  obtain ⟨actual, ha, h6⟩ := bind_ok.mp h5
  obtain ⟨_, same, h7⟩ := bind_ok.mp h6
  cases h7
  simp only [deny_ok, not_or, not_not] at same
  rw [← same.2]
  obtain ⟨_, _, h8⟩ := bind_ok.mp ha
  obtain ⟨header, _, h9⟩ := bind_ok.mp h8
  split_ifs at h9
  · obtain ⟨⟨os, entries, partitions⟩, _, h10⟩ := bind_ok.mp h9
    obtain ⟨_, _, h11⟩ := bind_ok.mp h10
    cases h11
    rfl
  · obtain ⟨_, _, h10⟩ := bind_ok.mp h9
    obtain ⟨_, _, h11⟩ := bind_ok.mp h10
    cases h11
    rfl

/-- What the arm of `factory-raw` has checked, with a GPT and without. -/
lemma buildFactoryRaw_ok {X st source identity work}
    (h : buildFactoryRaw X st source identity = .ok work) :
    work.archive = none ∧ ∃ file,
      RawDisk X st source identity file ∧
      (slice file 512 8 = Gpt.efiPart ∧ (∃ pair, RawGpt identity work file pair) ∨
        slice file 512 8 ≠ Gpt.efiPart ∧ RawMbr identity work file) := by
  obtain ⟨⟨image, file⟩, ho, h1⟩ := bind_ok.mp h
  obtain ⟨_, raw, h2⟩ := bind_ok.mp h1
  obtain ⟨⟨a, b, size⟩, hl, h3⟩ := bind_ok.mp h2
  obtain ⟨_, cap, h4⟩ := bind_ok.mp h3
  obtain ⟨al, big, small, ea, eb, es⟩ := rawLayout_ok hl
  subst ea eb es
  dsimp only at h4
  rw [slice_slice (by decide), Nat.zero_add, openImage_bytes ho] at h4
  have fits : file.length / 512 ≤ identity.sectors.toNat := by
    have := UInt32.le_iff_toNat_le.mp (UInt32.not_lt.mp (deny_ok.mp cap))
    rwa [imageSectors, UInt32.toNat_ofNat', Nat.mod_eq_of_lt small] at this
  have disk : RawDisk X st source identity file :=
    ⟨⟨image, ho, by simpa using raw⟩, al, big, fits⟩
  by_cases gpt : slice file 512 8 = Gpt.efiPart
  · rw [if_pos gpt] at h4
    obtain ⟨pair, hr, h5⟩ := bind_ok.mp h4
    obtain ⟨hash, hh, h6⟩ := bind_ok.mp h5
    obtain ⟨inside, rfl⟩ := hashRange_ok hh
    cases h6
    exact ⟨rfl, file, disk, .inl ⟨gpt, pair, hr, inside, rfl, rfl, rfl⟩⟩
  · rw [if_neg gpt] at h4
    obtain ⟨hash, hh, h5⟩ := bind_ok.mp h4
    obtain ⟨_, rfl⟩ := hashRange_ok hh
    cases h5
    exact ⟨rfl, file, disk, .inr ⟨gpt, rfl, rfl, rfl⟩⟩

/-- What a U-Boot update writes. -/
structure Uboot (identity : Identity) (current : Snapshot) (work : Work) (fw : Bytes) : Prop where
  layout : Gpt.requireK11c current.primary current.tail identity.sectors = .ok ()
  sized : fw ≠ [] ∧ fw.length % 512 = 0 ∧ fw.length ≤ (34816 - 64) * 512
  segments : work.segments = [bytesSegment "K11C U-Boot" 64 fw]
  primary : work.primary = current.primary
  tail : work.tail = current.tail
  archive : work.archive = none

/-- What the arm of `uboot` has checked. -/
lemma buildUboot_ok {X st source identity current work}
    (h : buildUboot X st source identity current = .ok work) :
    ∃ fw, Uboot identity current work fw := by
  obtain ⟨_, layout, h1⟩ := bind_ok.mp h
  obtain ⟨fw, hf, h2⟩ := bind_ok.mp h1
  cases h2
  refine ⟨fw, layout, ?_, rfl, rfl, rfl, rfl⟩
  unfold ubootFirmware at hf
  split_ifs at hf
  · exact firmware_fits hf
  · exact Components.bootBytes_fits hf

/-- The metadata of every archive that opens is valid. -/
lemma openMetadata_valid {X st source a} (h : Archive.openMetadata X st source = .ok a) :
    Archive.validate a.metadata = .ok () := by
  obtain ⟨_, _, h1⟩ := bind_ok.mp h
  split_ifs at h1
  · obtain ⟨_, _, h2⟩ := bind_ok.mp h1
    obtain ⟨file, _, h3⟩ := bind_ok.mp h2
    obtain ⟨_, _, h4⟩ := bind_ok.mp h3
    obtain ⟨_, _, h5⟩ := bind_ok.mp h4
    obtain ⟨_, _, h6⟩ := bind_ok.mp h5
    obtain ⟨_, _, h7⟩ := bind_ok.mp h6
    obtain ⟨_, valid, h8⟩ := bind_ok.mp h7
    cases h8
    exact valid
  · obtain ⟨file, _, h2⟩ := bind_ok.mp h1
    obtain ⟨_, _, h3⟩ := bind_ok.mp h2
    obtain ⟨_, _, h4⟩ := bind_ok.mp h3
    obtain ⟨_, _, h5⟩ := bind_ok.mp h4
    obtain ⟨_, _, h6⟩ := bind_ok.mp h5
    obtain ⟨_, _, h7⟩ := bind_ok.mp h6
    obtain ⟨m, _, h8⟩ := bind_ok.mp h7
    obtain ⟨_, valid, h9⟩ := bind_ok.mp h8
    obtain ⟨_, _, h10⟩ := bind_ok.mp h9
    cases h10
    exact valid

/-- Valid metadata: saved sectors of the right size that are not the read denial, and ranges in the places
    that `ranges` computes. -/
structure Valid (m : Meta) (expected : List Range) : Prop where
  format : m.format = 3 ∨ m.format = 4
  storage : m.identity.storage = "emmc"
  sizePrimary : m.primary.length = 34 * 512
  sizeTail : m.tail.length = 33 * 512
  computed : Archive.ranges m.kind m.primary m.tail m.identity.sectors = .ok expected
  os : m.os = Archive.classify m.primary m.tail m.identity.sectors
  places : List.Forall₂ (fun r s => r.lba = s.lba ∧ r.bytes = s.bytes) expected m.ranges
  undeniedPrimary : requireGptBytes (m.primary.drop 512) = .ok ()
  undeniedTail : requireGptBytes m.tail = .ok ()

/-- Two lists of one length whose pairs are related. -/
lemma forall₂_of_zip {α β : Type} {R : α → β → Prop} {l : List α} {m : List β}
    (len : l.length = m.length) (h : ∀ r ∈ l.zip m, R r.1 r.2) : List.Forall₂ R l m := by
  induction l generalizing m with
  | nil =>
    cases m with
    | nil => exact .nil
    | cons b m => cases len
  | cons a l ih =>
    cases m with
    | nil => cases len
    | cons b m =>
      exact .cons (h (a, b) (.head _)) (ih (Nat.succ.inj len) fun r hr => h r (.tail _ hr))

/-- What `validate` has checked. -/
lemma validate_valid {m : Meta} {u} (h : Archive.validate m = .ok u) :
    ∃ expected, Valid m expected := by
  obtain ⟨_, hm, h1⟩ := bind_ok.mp h
  obtain ⟨_, sizes, h2⟩ := bind_ok.mp h1
  obtain ⟨expected, he, h3⟩ := bind_ok.mp h2
  obtain ⟨_, os, h4⟩ := bind_ok.mp h3
  obtain ⟨_, len, h5⟩ := bind_ok.mp h4
  obtain ⟨_, same, h6⟩ := bind_ok.mp h5
  obtain ⟨_, u1, u2⟩ := bind_ok.mp h6
  simp only [deny_ok, not_or, not_not] at sizes os len
  refine ⟨expected, ?_, sizes.1, sizes.2.1, sizes.2.2, he, os, forall₂_of_zip len ?_, u1, u2⟩
  · unfold Archive.magic at hm
    split_ifs at hm with h3 h4
    · exact .inl h3
    · exact .inr h4
  · intro r hr
    have e := deny_ok.mp same
    simp only [List.any_eq_true, not_exists, not_and, Bool.not_eq_true', Bool.not_eq_false] at e
    have e := e r hr
    simp only [Archive.rangeMatches, Bool.and_eq_true, beq_iff_eq] at e
    exact e.1.1

/-- The ranges of each kind of backup. -/
lemma ranges_ok {kind : String} {primary tail : Bytes} {sectors : UInt32} {rs}
    (h : Archive.ranges kind primary tail sectors = .ok rs) :
    34849 < sectors ∧
      (kind = "FULL" ∧ rs = [⟨"Full eMMC user area", 0, sectors.toNat * 512, ""⟩] ∨
        kind = "BOOT" ∧ Gpt.requireK11c primary tail sectors = .ok () ∧
          rs = [⟨"Boot firmware and primary GPT", 0, 34816 * 512, ""⟩,
            ⟨"Backup GPT", sectors - 33, 33 * 512, ""⟩] ∨
        kind = "HAOS" ∧ Gpt.requireK11c primary tail sectors = .ok () ∧
          rs = ((Gpt.entries (primary.drop 1024)).take 8).map Archive.partitionRange) := by
  obtain ⟨_, kinds, h1⟩ := bind_ok.mp h
  obtain ⟨_, size, h2⟩ := bind_ok.mp h1
  simp only [Archive.kindOf, deny_ok, not_and_or, not_not] at kinds
  refine ⟨UInt32.not_le.mp (deny_ok.mp size), ?_⟩
  by_cases full : kind = "FULL"
  · rw [if_pos full] at h2
    cases h2
    exact .inl ⟨full, rfl⟩
  rw [if_neg full] at h2
  obtain ⟨_, layout, h3⟩ := bind_ok.mp h2
  by_cases boot : kind = "BOOT"
  · rw [if_pos boot] at h3
    cases h3
    exact .inr (.inl ⟨boot, layout, rfl⟩)
  · rw [if_neg boot] at h3
    cases h3
    obtain h | h | h := kinds
    · exact absurd h full
    · exact absurd h boot
    · exact .inr (.inr ⟨h, layout, rfl⟩)

/-- The ranges of a FULL or BOOT archive cover the first and last sectors. -/
lemma Valid.covers {m : Meta} {expected} (h : Valid m expected) (part : m.kind ≠ "HAOS") {x : Nat}
    (hx : Inside x (0, 34 * 512) ∨
      Inside x (512 * (m.identity.sectors - 33).toNat, 33 * 512)) :
    ∃ r ∈ m.ranges, Inside x r.window := by
  obtain ⟨big, cases⟩ := ranges_ok h.computed
  have bigN : 34849 < m.identity.sectors.toNat := UInt32.lt_iff_toNat_lt.mp big
  have start := sectors_sub big
  have places := h.places
  generalize m.ranges = rs at places ⊢
  have zero : (0 : UInt32).toNat = 0 := rfl
  obtain ⟨_, rfl⟩ | ⟨_, _, rfl⟩ | ⟨haos, _⟩ := cases
  · obtain _ | ⟨⟨e1, e2⟩, _⟩ := places
    refine ⟨_, .head _, ?_⟩
    simp only [Inside, Range.window, ← e1, ← e2] at hx ⊢
    omega
  · obtain _ | ⟨⟨e1, e2⟩, _ | ⟨⟨e3, e4⟩, _⟩⟩ := places
    simp only [Inside, Range.window] at hx ⊢
    by_cases first : x < 34816 * 512
    · refine ⟨_, .head _, ?_⟩
      dsimp only at e1 e2
      rw [← e1, ← e2]
      omega
    · refine ⟨_, .tail _ (.head _), ?_⟩
      dsimp only at e3 e4
      rw [← e3, ← e4]
      omega
  · exact absurd haos part

/-- What a restored archive writes. -/
structure Restored (identity : Identity) (current : Snapshot) (work : Work) (a : Archive) : Prop where
  capacity : a.metadata.identity.sectors = identity.sectors
  layout : a.metadata.kind ≠ "FULL" →
    Gpt.requireK11c current.primary current.tail identity.sectors = .ok () ∧
      current.primary.drop 1024 = a.metadata.primary.drop 1024
  segments : work.segments = a.metadata.ranges.map archived
  primary : work.primary =
    if a.metadata.kind = "HAOS" then current.primary else a.metadata.primary
  tail : work.tail = if a.metadata.kind = "HAOS" then current.tail else a.metadata.tail
  archive : work.archive = some a

/-- A source is verified when it should be. -/
lemma openSource_ok {X st source verifySource a}
    (h : openSource X st source verifySource = .ok a) :
    Archive.openMetadata X st source = .ok a ∧
      (verifySource = true → Archive.verify X a = .ok ()) := by
  unfold openSource at h
  split_ifs at h with hv
  · obtain ⟨a', hm, h1⟩ := bind_ok.mp h
    obtain ⟨_, verified, h2⟩ := bind_ok.mp h1
    cases h2
    exact ⟨hm, fun _ => verified⟩
  · exact ⟨h, fun h => absurd h hv⟩

/-- A partial archive needs the layout it was made of. -/
lemma sameLayout_ok {identity current m u} (h : sameLayout identity current m = .ok u)
    (part : m.kind ≠ "FULL") :
    Gpt.requireK11c current.primary current.tail identity.sectors = .ok () ∧
      current.primary.drop 1024 = m.primary.drop 1024 := by
  rw [sameLayout, if_neg part] at h
  obtain ⟨_, layout, same⟩ := bind_ok.mp h
  exact ⟨layout, by simpa using same⟩

/-- What the arm of `restore` has checked for an archive. -/
lemma buildRestoreArchive_ok {X st source identity current verifySource work}
    (h : buildRestoreArchive X st source identity current verifySource = .ok work) :
    ∃ a, Archive.openMetadata X st source = .ok a ∧
      (verifySource = true → Archive.verify X a = .ok ()) ∧
      Restored identity current work a := by
  obtain ⟨a, ha, h1⟩ := bind_ok.mp h
  obtain ⟨opened, verified⟩ := openSource_ok ha
  obtain ⟨_, capacity, h2⟩ := bind_ok.mp h1
  obtain ⟨_, layout, h3⟩ := bind_ok.mp h2
  cases h3
  refine ⟨a, opened, verified, by simpa using capacity, sameLayout_ok layout, rfl, ?_, ?_, rfl⟩
  · dsimp only
    split_ifs <;> rfl
  · dsimp only
    split_ifs <;> rfl

/-- What a restored boot backup writes. -/
structure RestoredBoot (identity : Identity) (current saved : Snapshot) (work : Work) : Prop where
  layout : Gpt.requireK11c saved.primary saved.tail identity.sectors = .ok ()
  active : ∃ pair, Gpt.repaired current.primary current.tail identity.sectors = .ok pair ∧
    pair.1.drop 1024 = saved.primary.drop 1024
  segments : work.segments =
    [bytesSegment "Reserved gap" 34 (saved.reserved.take (30 * 512)),
      bytesSegment "U-Boot backup" 64 (saved.reserved.drop (30 * 512)),
      bytesSegment "Backup GPT" (identity.sectors - 33) saved.tail,
      bytesSegment "Primary GPT" 0 saved.primary]
  primary : work.primary = saved.primary
  tail : work.tail = saved.tail
  archive : work.archive = none

/-- What the arm of `restore` has checked for a backup directory. -/
lemma buildRestore_ok {X st source identity current work}
    (h : buildRestore X st source identity current = .ok work) :
    ∃ saved, snapshot X st source identity = .ok saved ∧
      RestoredBoot identity current saved work := by
  obtain ⟨saved, hs, h1⟩ := bind_ok.mp h
  obtain ⟨_, layout, h2⟩ := bind_ok.mp h1
  obtain ⟨active, ha, h3⟩ := bind_ok.mp h2
  obtain ⟨_, same, h4⟩ := bind_ok.mp h3
  cases h4
  exact ⟨saved, hs, layout, ⟨active, ha, by simpa using same⟩, rfl, rfl, rfl, rfl⟩

/-- What a GPT repair writes: the copies that differ. -/
structure Repaired (identity : Identity) (current : Snapshot) (work : Work)
    (pair : Bytes × Bytes) : Prop where
  repaired : Gpt.repaired current.primary current.tail identity.sectors = .ok pair
  segments : work.segments =
    (if pair.2 ≠ current.tail then [bytesSegment "Backup GPT" (identity.sectors - 33) pair.2]
      else []) ++
    (if pair.1 ≠ current.primary then [bytesSegment "Primary GPT" 0 pair.1] else [])
  primary : work.primary = pair.1
  tail : work.tail = pair.2
  archive : work.archive = none

/-- What the arm of `gpt-repair` has checked. -/
lemma buildGptRepair_ok {source identity current work}
    (h : buildGptRepair source identity current = .ok work) :
    source = "" ∧ ∃ pair, Repaired identity current work pair := by
  obtain ⟨_, empty, h1⟩ := bind_ok.mp h
  obtain ⟨pair, hp, h2⟩ := bind_ok.mp h1
  cases h2
  exact ⟨by simpa using empty, pair, hp, rfl, rfl, rfl, rfl⟩

/-- `build` is one of its arms. -/
lemma build_arm {X st op source identity current verifySource work}
    (h : build X st op source identity current verifySource = .ok work) :
    buildArm X st op source identity current verifySource = .ok work := by
  obtain ⟨w, ha, h1⟩ := bind_ok.mp h
  obtain ⟨_, _, h2⟩ := bind_ok.mp h1
  cases h2
  exact ha

/-- What `build` has checked and what it writes, operation by operation. -/
inductive Built (X : Crates) (st : Store) (source : String) (identity : Identity)
    (current : Snapshot) (verifySource : Bool) (work : Work) : Operation → Prop where
  | install {file pair fw} :
    Install X st source identity work file pair fw →
    Built X st source identity current verifySource work .install
  | uboot {fw} :
    Uboot identity current work fw →
    Built X st source identity current verifySource work .uboot
  | gptRepair {pair} :
    source = "" →
    Repaired identity current work pair →
    Built X st source identity current verifySource work .gptRepair
  | restore {saved} :
    snapshot X st source identity = .ok saved →
    RestoredBoot identity current saved work →
    Built X st source identity current verifySource work .restore
  | restoreArchive {a} :
    Archive.openMetadata X st source = .ok a →
    (verifySource = true → Archive.verify X a = .ok ()) →
    Restored identity current work a →
    Built X st source identity current verifySource work .restoreArchive
  | factoryGpt {file pair} :
    work.archive = none →
    RawDisk X st source identity file →
    slice file 512 8 = Gpt.efiPart →
    RawGpt identity work file pair →
    Built X st source identity current verifySource work .factoryRaw
  | factoryMbr {file} :
    work.archive = none →
    RawDisk X st source identity file →
    slice file 512 8 ≠ Gpt.efiPart →
    RawMbr identity work file →
    Built X st source identity current verifySource work .factoryRaw

/-- Every accepted work was built by the arm of its operation. -/
lemma build_built {X st op source identity current verifySource work}
    (h : build X st op source identity current verifySource = .ok work) :
    ∃ o, Operation.ofName op = some o ∧
      Built X st source identity current verifySource work o := by
  have arm := build_arm h
  unfold buildArm at arm
  cases ho : Operation.ofName op with
  | none =>
    rw [ho] at arm
    cases arm
  | some o =>
    rw [ho] at arm
    refine ⟨o, rfl, ?_⟩
    cases o with
    | install =>
      obtain ⟨_, _, _, h⟩ := buildInstall_ok arm
      exact .install h
    | uboot =>
      obtain ⟨_, h⟩ := buildUboot_ok arm
      exact .uboot h
    | gptRepair =>
      obtain ⟨empty, _, h⟩ := buildGptRepair_ok arm
      exact .gptRepair empty h
    | restore =>
      obtain ⟨_, saved, h⟩ := buildRestore_ok arm
      exact .restore saved h
    | restoreArchive =>
      obtain ⟨_, opened, verified, h⟩ := buildRestoreArchive_ok arm
      exact .restoreArchive opened verified h
    | factoryRaw =>
      obtain ⟨none, _, disk, ⟨gpt, _, h⟩ | ⟨mbr, h⟩⟩ := buildFactoryRaw_ok arm
      · exact .factoryGpt none disk gpt h
      · exact .factoryMbr none disk mbr h

end K11CHaos.Engine.Flash
