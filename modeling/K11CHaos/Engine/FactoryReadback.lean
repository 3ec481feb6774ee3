import K11CHaos.Engine.FinalDisk
import K11CHaos.Engine.Firmware
import K11CHaos.Engine.SparseImage

/-!
# What a read-back certifies

`inspect` reads a firmware package through the listing of the vendor tool (`rkfw`) and its wrapped
`parameter` entry (`parameterPayload`). After the tool has written, `readback` compares the device with the
checks of the package and then looks at the partition table that is there. A read-back that succeeds
certifies the disk (`Certified`): the partitions of the package stand in its GPT in order, and the content
of every entry, its bytes or the expansion of its sparse image, is in the partition of its name.
-/

namespace K11CHaos.Engine.Factory

open Prog

/-! ## The package -/

/-- One byte of the checksum of a parameter wrapper: most significant bit first. -/
def crcByte (crc : UInt32) (b : UInt8) : UInt32 :=
  (List.range 8).foldl
    (fun c _ => (c <<< 1) ^^^ (if c &&& 0x80000000 ≠ 0 then 0x04c10db7 else 0))
    (crc ^^^ (b.toUInt32 <<< 24))

/-- The checksum of a parameter wrapper. -/
def parameterCrc (data : Bytes) : UInt32 :=
  data.foldl crcByte 0

/-- `parameter_payload`. -/
def parameterPayload (bytes : Bytes) : Result (List Char) := do
  let text ←
    if slice bytes 0 4 = [0x50, 0x41, 0x52, 0x4d] then do
      deny (bytes.length < 12) "FACTORY_IMAGE" "Truncated parameter wrapper"
      let len := Gpt.u32at bytes 4
      deny (len + 12 ≠ bytes.length) "FACTORY_IMAGE" "Invalid parameter wrapper length"
      let data := slice bytes 8 len
      deny ((parameterCrc data).toNat ≠ Gpt.u32at bytes (8 + len)) "FACTORY_IMAGE"
        "Invalid parameter wrapper checksum"
      pure data
    else pure bytes
  match String.fromUTF8? ⟨text.toArray⟩ with
  | none => throw (error "invalid utf-8 sequence")
  | some s => return Str.trim s.toList

/-- `trim_end_matches('\0')`. -/
def trimNul (s : List Char) : List Char :=
  (s.reverse.dropWhile (· == Char.ofNat 0)).reverse

/-- The entries that have no partition. -/
def unhoused : List String :=
  ["package-file", "MiniLoaderAll.bin", "parameter"]

/-- The arm of `inspect` for a firmware package: what it makes of the listing that the vendor tool gives
    for the file. -/
def rkfw (tool : Bytes → Result String) (file : Bytes) :
    Result (String × List Entry × List Partition) := do
  let output ← tool file
  let rows ← entries output file.length
  match rows.find? fun e => e.name == "parameter" with
  | none => throw (error "Missing firmware entry name")  -- `entries` accepts no listing without one
  | some p =>
    let data ← bounded file p.offset p.bytes
    let text ← parameterPayload data
    let partitions ← parameter (String.ofList (trimNul text))
    deny (rows.any fun e => !unhoused.contains e.name && !partitions.any fun p => p.name == e.name)
      "FACTORY_IMAGE" "Firmware entry has no partition"
    let os := if rows.any fun e => e.name == "rootfs" then "Linux" else "Android"
    return (os, rows, partitions)

/-- What is known of a package that `inspect` accepts. -/
structure Package (file : Bytes) (image : Image) : Prop where
  size : file.length ≤ 2 ^ 37
  table : Table image.partitions
  inside : ∀ e ∈ image.entries, e.offset + e.bytes ≤ file.length
  /-- Every entry but the loader and the two descriptions has a partition. -/
  housed : ∀ e ∈ image.entries, e.name ∉ unhoused → ∃ p ∈ image.partitions, p.name = e.name

section
variable {tool : Bytes → Result String} {file : Bytes} {image : Image}

/-- What an accepted package has been checked for. -/
lemma rkfw_ok {os : String} {rows : List Entry} {partitions : List Partition}
    (h : rkfw tool file = .ok (os, rows, partitions)) :
    Table partitions ∧
      (∀ e ∈ rows, e.offset + e.bytes ≤ file.length) ∧
      ∀ e ∈ rows, e.name ∉ unhoused → ∃ p ∈ partitions, p.name = e.name := by
  obtain ⟨output, -, h1⟩ := bind_ok.mp h
  obtain ⟨rows', listed, h2⟩ := bind_ok.mp h1
  have listing := entries_listing listed
  cases found : rows'.find? fun e => e.name == "parameter" with
  | none =>
    rw [found] at h2
    cases h2
  | some p =>
    rw [found] at h2
    obtain ⟨data, -, h3⟩ := bind_ok.mp h2
    obtain ⟨text, -, h4⟩ := bind_ok.mp h3
    obtain ⟨parts, table, h5⟩ := bind_ok.mp h4
    obtain ⟨_, housed, h6⟩ := bind_ok.mp h5
    cases h6
    refine ⟨parameter_table table, fun e he => (listing.inside e he).2, fun e he out => ?_⟩
    simp only [deny_ok, List.any_eq_true, Bool.and_eq_true, Bool.not_eq_true', not_exists,
      not_and] at housed
    have named := housed e he (by simpa using out)
    simpa using named

/-- What is known of a package that `inspect` has accepted. -/
lemma inspect_package {X : Crates} {path : String} (reads : X.rkfw = rkfw tool)
    (format : image.format = "RKFW") (h : inspect X path file = .ok image) : Package file image := by
  obtain ⟨_, size, h1⟩ := bind_ok.mp h
  obtain ⟨header, -, h2⟩ := bind_ok.mp h1
  simp only [deny_ok, not_or, Nat.not_lt, gt_iff_lt] at size
  split_ifs at h2 with kind
  · obtain ⟨⟨os, entries, partitions⟩, read, h3⟩ := bind_ok.mp h2
    obtain ⟨full, -, h4⟩ := bind_ok.mp h3
    cases h4
    rw [reads] at read
    obtain ⟨table, inside, housed⟩ := rkfw_ok read
    exact ⟨by omega, table, inside, housed⟩
  · obtain ⟨layout, -, h3⟩ := bind_ok.mp h2
    obtain ⟨full, -, h4⟩ := bind_ok.mp h3
    cases h4
    exact absurd format (by decide : "RAW" ≠ "RKFW")

end

/-! ## The checks of an entry -/

/-- What an entry holds: its bytes, or the expansion of the sparse image that they are. -/
def Expands (file : Bytes) (e : Entry) (content : List (Option UInt8)) : Prop :=
  if e.sparse then
    ∃ chunks, Sparse.Image (slice file e.offset e.bytes) chunks ∧ content = Sparse.expand chunks
  else content = (slice file e.offset e.bytes).map some

/-- An entry holds one thing. -/
lemma Expands.unique {file : Bytes} {e : Entry} {content content' : List (Option UInt8)}
    (h : Expands file e content) (h' : Expands file e content') : content = content' := by
  unfold Expands at h h'
  split_ifs at h h'
  · obtain ⟨chunks, image, rfl⟩ := h
    obtain ⟨chunks', image', rfl⟩ := h'
    rw [image.unique image']
  · rw [h, h']

/-- The checks that `verification` adds for an entry in a partition. -/
structure Payload (file : Bytes) (e : Entry) (lba : UInt32) (capacity : Nat) (added : List Check) :
    Prop where
  content : ∃ content, Expands file e content ∧ content.length ≤ capacity ∧
    described file added lba.toNat content.length = content
  /-- Each check is whole sectors of the partition, and its bytes are in the file. -/
  sound : ∀ c ∈ added, 512 ∣ c.bytes ∧ c.lba.toNat * 512 + c.bytes ≤ lba.toNat * 512 + capacity ∧
    (c.fill = none → c.offset + c.bytes ≤ file.length)

section
variable {file : Bytes}

/-- A check among tiles lies between their ends. -/
lemma Tiles.member {a b : Nat} {tiles : List Tile} (h : Tiles a b tiles) {c : Check}
    (hc : .check c ∈ tiles) : 512 ∣ c.bytes ∧ c.lba.toNat * 512 + c.bytes ≤ b * 512 := by
  induction h with
  | nil => cases hc
  | @cons a b t ts first some' whole rest ih =>
    cases List.mem_cons.mp hc with
    | inl e =>
      obtain rfl := e
      obtain rfl : c.lba.toNat = a := first
      have dvd := whole c rfl
      have le := rest.le
      have sectors : (Tile.check c).sectors = c.bytes / 512 := rfl
      refine ⟨dvd, ?_⟩
      omega
    | inr hc => exact ih hc

/-- The checks of a sparse entry. -/
lemma Expanded.payload {e : Entry} {lba : UInt32} {capacity : Nat} {added : List Check}
    (sparse : e.sparse = true) (inside : e.offset + e.bytes ≤ file.length)
    (h : Expanded file e lba capacity added) : Payload file e lba capacity added := by
  obtain ⟨chunks, image⟩ := h.image
  obtain ⟨tiles, rfl, placed⟩ := h.tiled
  obtain ⟨fits, whole⟩ := h.fits
  refine ⟨⟨Sparse.expand chunks, ?_, ?_, ?_⟩, fun c hc => ?_⟩
  · rw [Expands, if_pos sparse]
    exact ⟨chunks, image, rfl⟩
  · rw [image.total]
    exact fits
  · rw [image.total]
    exact h.expands chunks image
  · obtain ⟨dvd, le⟩ := placed.member (mem_checksOf hc)
    refine ⟨dvd, ?_, fun raw => Nat.le_trans (h.inside c hc raw).2 inside⟩
    rw [Nat.add_mul] at le
    exact Nat.le_trans le (Nat.add_le_add_left (Nat.le_trans (Nat.div_mul_le_self _ _) fits) _)

/-- The check of an entry that is stored as it is. -/
lemma payload_raw {e : Entry} {lba : UInt32} {capacity : Nat} (raw : e.sparse = false)
    (inside : e.offset + e.bytes ≤ file.length) (aligned : e.bytes % 512 = 0)
    (fits : e.bytes ≤ capacity) :
    Payload file e lba capacity [⟨lba, e.bytes, e.offset, none⟩] := by
  have len : (slice file e.offset e.bytes).length = e.bytes := length_slice inside
  refine ⟨⟨(slice file e.offset e.bytes).map some, ?_, ?_, ?_⟩, fun c hc => ?_⟩
  · rw [Expands, if_neg (by rw [raw]; decide)]
  · rw [List.length_map, len]
    exact fits
  · rw [List.length_map, len, described]
    refine List.ext_getElem? fun i => ?_
    rw [List.getElem?_map, List.getElem?_map]
    rcases Nat.lt_or_ge i e.bytes with small | large
    · have here := @byteOf_inside file ⟨lba, e.bytes, e.offset, none⟩ [] i small fun _ => inside
      rw [List.getElem?_range small, List.getElem?_eq_getElem (by rw [len]; exact small)]
      rw [expectedBlock, Nat.add_zero, List.getElem?_eq_getElem (by rw [len]; exact small)] at here
      exact congrArg some here
    · rw [List.getElem?_eq_none (by rw [List.length_range]; exact large),
        List.getElem?_eq_none (by rw [len]; exact large)]
      rfl
  · obtain rfl := List.mem_singleton.mp hc
    exact ⟨Nat.dvd_of_mod_eq_zero aligned, Nat.add_le_add_left fits _, fun _ => inside⟩

/-- The capacity of a partition on a device. -/
def capacityOf (sectors : UInt32) (p : Partition) : Nat :=
  (p.sectors.getD (sectors - 33 - p.lba)).toNat

/-- What `verifyEntries` adds: the checks of each entry whose partition is found. -/
lemma verifyEntries_ok {image : Image} {sectors : UInt32} {entries : List Entry}
    {out out' : List Check} (length : file.length < 2 ^ 63)
    (inside : ∀ e ∈ entries, e.offset + e.bytes ≤ file.length)
    (room : ∀ p ∈ image.partitions, p.lba.toNat + capacityOf sectors p < 2 ^ 32)
    (h : verifyEntries image file sectors entries out = .ok out') :
    out ⊆ out' ∧
      (∀ c ∈ out', c ∈ out ∨ ∃ e ∈ entries, ∃ p ∈ image.partitions, ∃ added, c ∈ added ∧
        Payload file e p.lba (capacityOf sectors p * 512) added) ∧
      ∀ e ∈ entries, ∀ p, (image.partitions.find? fun p => p.name == e.name) = some p →
        ∃ added, added ⊆ out' ∧ Payload file e p.lba (capacityOf sectors p * 512) added := by
  induction entries generalizing out with
  | nil =>
    cases h
    exact ⟨fun _ hc => hc, fun c hc => .inl hc, fun e he => absurd he List.not_mem_nil⟩
  | cons e entries ih =>
    have tail (x : Entry) (hx : x ∈ entries) := inside x (List.mem_cons_of_mem _ hx)
    rw [verifyEntries] at h
    cases found : image.partitions.find? fun p => p.name == e.name with
    | none =>
      rw [found] at h
      obtain ⟨k1, k2, k3⟩ := ih tail h
      refine ⟨k1, fun c hc => ?_, fun x hx p hp => ?_⟩
      · obtain hc | ⟨x, hx, rest⟩ := k2 c hc
        · exact .inl hc
        · exact .inr ⟨x, List.mem_cons_of_mem _ hx, rest⟩
      · cases List.mem_cons.mp hx with
        | inl eq =>
          rw [eq, found] at hp
          cases hp
        | inr hx => exact k3 x hx p hp
    | some part =>
      rw [found] at h
      have mem := List.mem_of_find?_eq_some found
      have fits := room part mem
      have here := inside e List.mem_cons_self
      -- the checks of the first entry
      obtain ⟨added, pay, h2⟩ : ∃ added,
          Payload file e part.lba (capacityOf sectors part * 512) added ∧
            verifyEntries image file sectors entries (out ++ added) = .ok out' := by
        dsimp only at h
        split_ifs at h with kind
        · obtain ⟨out1, h1, h2⟩ := bind_ok.mp h
          obtain ⟨added, rfl, expanded⟩ := sparse_expanded here length fits h1
          exact ⟨added, expanded.payload kind here, h2⟩
        · obtain ⟨_, ok, h2⟩ := bind_ok.mp h
          simp only [deny_ok, not_or, not_not, ne_eq, gt_iff_lt, Nat.not_lt] at ok
          exact ⟨_, payload_raw (Bool.eq_false_of_not_eq_true kind) here ok.1 ok.2, h2⟩
      obtain ⟨k1, k2, k3⟩ := ih tail h2
      refine ⟨fun c hc => k1 (List.mem_append_left _ hc), fun c hc => ?_, fun x hx p hp => ?_⟩
      · obtain hc | ⟨x, hx, rest⟩ := k2 c hc
        · cases List.mem_append.mp hc with
          | inl hc => exact .inl hc
          | inr hc => exact .inr ⟨e, List.mem_cons_self, part, mem, added, hc, pay⟩
        · exact .inr ⟨x, List.mem_cons_of_mem _ hx, rest⟩
      · cases List.mem_cons.mp hx with
        | inl eq =>
          rw [eq, found] at hp
          cases hp
          exact ⟨added, fun c hc => k1 (List.mem_append_right _ hc), eq ▸ pay⟩
        | inr hx => exact k3 x hx p hp

end

/-! ## The comparison -/

section
variable {file : Bytes} {c : Check}

/-- The expected bytes of neighbouring blocks. A repeated value starts again at each block, which does not
    show because blocks are whole sectors. -/
lemma expectedBlock_append {offset m n : Nat} (aligned : 4 ∣ m) :
    expectedBlock file c offset m ++ expectedBlock file c (offset + m) n =
      expectedBlock file c offset (m + n) := by
  unfold expectedBlock
  cases c.fill with
  | none =>
    dsimp only
    rw [← Nat.add_assoc, slice_append_slice]
  | some fill =>
    dsimp only
    rw [List.range_add, List.map_append, List.map_map]
    refine congrArg (_ ++ ·) (List.map_congr_left fun i _ => ?_)
    have same : (m + i) % 4 = i % 4 := by omega
    rw [Function.comp_apply, same]

/-- An expected block of no bytes. -/
lemma expectedBlock_zero {offset : Nat} : expectedBlock file c offset 0 = [] := by
  unfold expectedBlock
  cases c.fill with
  | none => exact slice_zero
  | some fill => rfl

variable {who identity : Identity} {caps : Vector UInt8 8} {d d' : Disk} {t : List Ev}

/-- Blocks that compare equal are on the disk. -/
lemma compareBlocks_faithful {bs : List (Nat × Nat)} {offset total : Nat}
    (h : Runs (compareBlocks file c bs) t (.ok ())) (tl : Engine.Tiles chunk offset total bs)
    (al : ∀ x ∈ bs, 512 ∣ x.1 ∧ 512 ∣ x.2) (fits : c.lba.toNat + total / 512 < 2 ^ 32)
    (p : Lts.Path (Faithful who caps) d t d') :
    d' = d ∧ readAt d (512 * c.lba.toNat + offset) (total - offset) =
      expectedBlock file c offset (total - offset) := by
  induction bs generalizing t offset with
  | nil =>
    obtain ⟨rfl, -⟩ := runs_pure.mp h
    cases tl
    cases p
    rw [Nat.sub_self, readAt_zero, expectedBlock_zero]
    exact ⟨rfl, rfl⟩
  | cons x bs ih =>
    cases tl with
    | @cons _ n _ _ pos _ tl =>
      have le := tl.le
      have here := al (offset, n) List.mem_cons_self
      obtain ⟨_, -, h1⟩ := runs_check_bind_ok.mp h
      obtain ⟨t1, b, t2, hr, h2, rfl⟩ := runs_bind_ok.mp h1
      obtain ⟨k, buf, rfl, full, rfl⟩ := runs_readExact_ok hr
      obtain ⟨_, equal, h3⟩ := runs_check_bind_ok.mp h2
      obtain ⟨d1, p1, p2⟩ := p.append_inv
      cases p1 with
      | cons st p1 =>
        cases p1
        obtain ⟨rfl, hb⟩ := st
        obtain ⟨rfl, rest⟩ := ih h3 tl (fun y hy => al y (List.mem_cons_of_mem _ hy)) p2
        refine ⟨rfl, ?_⟩
        have split : total - offset = n + (total - (offset + n)) := by omega
        have first := hb full
        rw [lba_add here.1 (by omega)] at first
        have same := not_not.mp (deny_ok.mp equal)
        rw [split, ← readAt_append, ← first, ← same, Nat.add_assoc, rest,
          expectedBlock_append (Nat.dvd_trans (by decide) here.2)]

/-- Checks that compare equal are on the disk. -/
lemma compareChecks_faithful {checks : List Check} (h : Runs (compareChecks file checks) t (.ok ()))
    (sound : ∀ c ∈ checks, 512 ∣ c.bytes ∧ c.lba.toNat + c.bytes / 512 < 2 ^ 32)
    (p : Lts.Path (Faithful who caps) d t d') :
    d' = d ∧ ∀ c ∈ checks,
      readAt d (512 * c.lba.toNat) c.bytes = expectedBlock file c 0 c.bytes := by
  induction checks generalizing t with
  | nil =>
    obtain ⟨rfl, -⟩ := runs_pure.mp h
    cases p
    exact ⟨rfl, fun c hc => absurd hc List.not_mem_nil⟩
  | cons c checks ih =>
    obtain ⟨t1, ⟨⟩, t2, h1, h2, rfl⟩ := runs_bind_ok.mp h
    obtain ⟨d1, p1, p2⟩ := p.append_inv
    obtain ⟨whole, fits⟩ := sound c List.mem_cons_self
    obtain ⟨rfl, equal⟩ := compareBlocks_faithful h1 chunk_tiles (chunk_aligned whole) fits p1
    obtain ⟨rfl, rest⟩ := ih h2 (fun x hx => sound x (List.mem_cons_of_mem _ hx)) p2
    refine ⟨rfl, fun x hx => ?_⟩
    cases List.mem_cons.mp hx with
    | inl e =>
      rw [e]
      exact equal
    | inr hx => exact rest x hx

/-- The headers that are read are those of the disk. -/
lemma headers_faithful {pair : Bytes × Bytes} (h : Runs (Archive.headers identity) t (.ok pair))
    (p : Lts.Path (Faithful who caps) d t d') :
    d' = d ∧ pair.1 = readAt d 0 (34 * 512) ∧
      pair.2 = readAt d (512 * (identity.sectors - 33).toNat) (33 * 512) := by
  obtain ⟨_, -, h1⟩ := runs_check_bind_ok.mp h
  obtain ⟨t1, a, t2, ha, h2, rfl⟩ := runs_bind_ok.mp h1
  obtain ⟨n, buf, rfl, full, rfl⟩ := runs_readExact_ok ha
  obtain ⟨t3, b, t4, hb, h3, rfl⟩ := runs_bind_ok.mp h2
  obtain ⟨m, buf', rfl, full', rfl⟩ := runs_readExact_ok hb
  obtain ⟨_, -, h4⟩ := runs_check_bind_ok.mp h3
  obtain ⟨_, -, h5⟩ := runs_check_bind_ok.mp h4
  obtain ⟨rfl, e⟩ := runs_pure.mp h5
  cases e
  cases p with
  | cons st p =>
    cases p with
    | cons st' p =>
      cases p
      obtain ⟨rfl, first⟩ := st
      obtain ⟨rfl, second⟩ := st'
      refine ⟨rfl, ?_, second full'⟩
      have zero : 512 * UInt32.toNat 0 = 0 := rfl
      rw [← zero]
      exact first full

/-- What a read-back has seen of the disk. -/
lemma readback_faithful {image : Image} {checks : List Check}
    (h : Runs (readback identity image file checks) t (.ok ()))
    (sound : ∀ c ∈ checks, 512 ∣ c.bytes ∧ c.lba.toNat + c.bytes / 512 < 2 ^ 32)
    (p : Lts.Path (Faithful who caps) d t d') :
    d' = d ∧ who = identity ∧
      (∀ c ∈ checks, readAt d (512 * c.lba.toNat) c.bytes = expectedBlock file c 0 c.bytes) ∧
      verifyLayout (readAt d 0 (34 * 512))
        (readAt d (512 * (identity.sectors - 33).toNat) (33 * 512)) identity.sectors image file =
          .ok () := by
  obtain ⟨t1, caps', t2, h1, h2, rfl⟩ := runs_bind_ok.mp h
  obtain ⟨now, t3, rfl, h3⟩ := runs_ask_bind_ok.mp h2
  obtain ⟨_, same, h4⟩ := runs_check_bind_ok.mp h3
  have same : @Eq Identity now identity := by simpa using same
  obtain ⟨t4, ⟨⟩, t5, h5, h6, rfl⟩ := runs_bind_ok.mp h4
  obtain ⟨t6, pair, t7, h7, h8, rfl⟩ := runs_bind_ok.mp h6
  obtain ⟨rfl, layout⟩ := runs_check.mp h8
  obtain ⟨d1, p1, p2⟩ := p.append_inv
  obtain rfl := path_quiet p1 fun e he => (requireFullRead_observes.runs h1 e he).quiet
  cases p2 with
  | cons st p2 =>
    obtain ⟨rfl, rfl⟩ := st
    obtain ⟨d2, p3, p4⟩ := p2.append_inv
    obtain ⟨rfl, equal⟩ := compareChecks_faithful h5 sound p3
    rw [List.append_nil] at p4
    obtain ⟨rfl, first, second⟩ := headers_faithful h7 p4
    rw [first, second] at layout
    exact ⟨rfl, same, equal, layout.symm⟩

end

/-! ## The certificate -/

/-- The rows in use of the partition table on a disk. -/
def diskRows (d : Disk) : List Bytes :=
  (Gpt.entries ((readAt d 0 (34 * 512)).drop 1024)).filter Gpt.inUse

/-- The name of a row. -/
def rowName (row : Bytes) : String :=
  Gpt.fromUtf16Lossy (Gpt.nameUnits row)

/-- A row holds a partition of a package: its name, its start and its end. Only the last partition may
    have no end of its own; it reaches the end of the device or the last multiple of 64 sectors. -/
structure RowOf (fullEnd : Nat) (final : Prop) (row : Bytes) (p : Partition) : Prop where
  name : rowName row = p.name
  start : Gpt.u64at row 32 = p.lba.toNat
  fixed : ∀ n, p.sectors = some n → Gpt.u64at row 40 + 1 = p.lba.toNat + n.toNat
  grown : p.sectors = none →
    final ∧ (Gpt.u64at row 40 = fullEnd ∨ Gpt.u64at row 40 + 1 = (fullEnd + 1) / 64 * 64)

/-- A partition with the size that its row has. -/
def sized (row : Bytes) (p : Partition) : Partition :=
  { p with sectors := some (UInt32.ofNat (Gpt.u64at row 40 - Gpt.u64at row 32 + 1)) }

/-- What a disk holds after a package was installed and read back. -/
structure Certified (image : Image) (file : Bytes) (sectors : UInt32) (d : Disk) : Prop where
  /-- Both copies of the table are sound. -/
  pair : Gpt.Healthy (readAt d 0 (34 * 512)) (readAt d (512 * (sectors - 33).toNat) (33 * 512))
    sectors.toNat
  /-- The rows of the table are the partitions of the package, in order. -/
  count : (diskRows d).length = image.partitions.length
  rows : ∀ i row p, (diskRows d)[i]? = some row → image.partitions[i]? = some p →
    RowOf (sectors.toNat - 34) (i + 1 = image.partitions.length) row p
  /-- Every entry but the loader and the two descriptions has a row of its name. -/
  housed : ∀ e ∈ image.entries, e.name ∉ unhoused → ∃ row ∈ diskRows d, rowName row = e.name
  /-- An entry fits the row of its name, and all its bytes that matter are there. -/
  stored : ∀ e ∈ image.entries, ∀ row ∈ diskRows d, rowName row = e.name →
    ∃ content, Expands file e content ∧
      content.length ≤ (Gpt.u64at row 40 - Gpt.u64at row 32 + 1) * 512 ∧
      ∀ i b, content[i]? = some (some b) → d (512 * Gpt.u64at row 32 + i) = b

section
variable {file : Bytes} {image : Image} {sectors : UInt32}

/-- The rows that `verify_layout` accepts. -/
lemma layoutRows_ok {fullEnd count i : Nat} {rows : List (Bytes × Partition)}
    {actual : List Partition} (h : layoutRows fullEnd count i rows = .ok actual) :
    actual = rows.map (fun r => sized r.1 r.2) ∧
      ∀ j row p, rows[j]? = some (row, p) → RowOf fullEnd (i + j + 1 = count) row p := by
  induction rows generalizing i actual with
  | nil =>
    cases h
    exact ⟨rfl, fun j row p hj => by cases hj⟩
  | cons r rows ih =>
    obtain ⟨row, p⟩ := r
    obtain ⟨_, matches', h1⟩ := bind_ok.mp h
    obtain ⟨rest, h2, h3⟩ := bind_ok.mp h1
    cases h3
    obtain ⟨rfl, each⟩ := ih h2
    refine ⟨rfl, fun j row' p' hj => ?_⟩
    cases j with
    | succ j =>
      have here := each j row' p' hj
      rwa [Nat.add_right_comm i 1 j] at here
    | zero =>
      cases hj
      simp only [deny_ok, not_or, not_not, ne_eq, Bool.not_eq_true', Bool.not_eq_false] at matches'
      obtain ⟨name, start, ends⟩ := matches'
      refine ⟨name, start, fun n hn => ?_, fun hn => ?_⟩
      · rw [hn] at ends
        exact of_decide_eq_true ends
      · rw [hn] at ends
        exact of_decide_eq_true ends

/-- What `verify_layout` accepts. -/
lemma verifyLayout_ok {primary tail : Bytes}
    (h : verifyLayout primary tail sectors image file = .ok ()) :
    Gpt.Healthy primary tail sectors.toNat ∧
      ((Gpt.entries (primary.drop 1024)).filter Gpt.inUse).length = image.partitions.length ∧
      ∃ actual checks,
        layoutRows (sectors.toNat - 34) image.partitions.length 0
          (((Gpt.entries (primary.drop 1024)).filter Gpt.inUse).zip image.partitions) =
            .ok actual ∧
        verification { image with partitions := actual } file sectors = .ok checks := by
  obtain ⟨_, healthy, h1⟩ := bind_ok.mp h
  obtain ⟨_, count, h2⟩ := bind_ok.mp h1
  obtain ⟨actual, rows, h3⟩ := bind_ok.mp h2
  obtain ⟨checks, again, -⟩ := bind_ok.mp h3
  refine ⟨Gpt.healthy_iff.mp (by simpa using healthy), by simpa using count, actual, checks, rows, ?_⟩
  cases e : verification { image with partitions := actual } file sectors with
  | error e' =>
    rw [e] at again
    cases again
  | ok checks' =>
    rw [e] at again
    cases again
    rfl

/-- The first partition of a name is the only one. -/
lemma find?_named {l : List Partition} (named : (l.map Partition.name).Nodup) {p : Partition}
    (hp : p ∈ l) : (l.find? fun q => q.name == p.name) = some p := by
  induction l with
  | nil => cases hp
  | cons q l ih =>
    rw [List.map_cons, List.nodup_cons] at named
    cases List.mem_cons.mp hp with
    | inl e =>
      rw [e, List.find?_cons_of_pos (by simp)]
    | inr hp =>
      have other : q.name ≠ p.name := fun e => named.1 (e ▸ List.mem_map_of_mem hp)
      rw [List.find?_cons_of_neg (by simpa using other)]
      exact ih named.2 hp

/-- A byte that matters in the content of an entry is expected by one of its checks. -/
lemma expected_byte {added : List Check} {lba : UInt32} {content : List (Option UInt8)}
    (described' : described file added lba.toNat content.length = content) {i : Nat} {b : UInt8}
    (hb : content[i]? = some (some b)) :
    ∃ c ∈ added, c.byteAt file (lba.toNat * 512 + i) = some b := by
  have small : i < content.length := (List.getElem?_eq_some_iff.mp hb).1
  rw [← described', described, List.getElem?_map, List.getElem?_range small] at hb
  exact List.exists_of_findSome?_eq_some (Option.some.inj hb)

/-- A check whose bytes are on the disk. -/
lemma byteAt_disk {c : Check} {d : Disk} {x : Nat} {b : UInt8}
    (equal : readAt d (512 * c.lba.toNat) c.bytes = expectedBlock file c 0 c.bytes)
    (h : c.byteAt file x = some b) : d x = b := by
  unfold Check.byteAt at h
  split_ifs at h with inside
  rw [← equal, getElem?_readAt, if_pos (by omega)] at h
  have place : 512 * c.lba.toNat + (x - c.lba.toNat * 512) = x := by omega
  rw [place] at h
  exact Option.some.inj h

/-- The partitions of a table with room end before the last 33 sectors. -/
lemma Room.capacity (room : Room image.partitions sectors) {p : Partition}
    (hp : p ∈ image.partitions) : p.lba.toNat + capacityOf sectors p < 2 ^ 32 := by
  have small := sectors.toNat_lt
  have fits := room.2 p hp
  unfold capacityOf
  cases e : p.sectors with
  | some n =>
    rw [e] at fits
    simp only [Option.getD_some] at fits ⊢
    omega
  | none =>
    rw [e] at fits
    simp only [Option.getD_none] at fits ⊢
    have one : UInt32.toNat 1 = 1 := rfl
    have low : p.lba.toNat + 33 ≤ sectors.toNat := by omega
    rw [grown low]
    omega

/-- An accepted verification comes from the entries. -/
lemma verification_ok {checks : List Check} (h : verification image file sectors = .ok checks) :
    verifyEntries image file sectors image.entries [] = .ok checks := by
  obtain ⟨out, h1, h2⟩ := bind_ok.mp h
  obtain ⟨_, -, h3⟩ := bind_ok.mp h2
  cases h3
  exact h1

/-- The table of a disk is the one of a package. -/
structure Laid (image : Image) (sectors : UInt32) (d : Disk) : Prop where
  pair : Gpt.Healthy (readAt d 0 (34 * 512)) (readAt d (512 * (sectors - 33).toNat) (33 * 512))
    sectors.toNat
  count : (diskRows d).length = image.partitions.length
  rows : ∀ i row p, (diskRows d)[i]? = some row → image.partitions[i]? = some p →
    RowOf (sectors.toNat - 34) (i + 1 = image.partitions.length) row p

/-- The partitions of a package with the sizes that their rows have. -/
def sizedAll (d : Disk) (partitions : List Partition) : List Partition :=
  ((diskRows d).zip partitions).map fun r => sized r.1 r.2

variable {d : Disk}

/-- A table that `verify_layout` accepts, and its second look at the payload. -/
lemma verifyLayout_laid
    (h : verifyLayout (readAt d 0 (34 * 512)) (readAt d (512 * (sectors - 33).toNat) (33 * 512))
      sectors image file = .ok ()) :
    Laid image sectors d ∧ ∃ checks,
      verification { image with partitions := sizedAll d image.partitions } file sectors =
        .ok checks := by
  obtain ⟨healthy, count, actual, checks, rows, again⟩ := verifyLayout_ok h
  obtain ⟨rfl, each⟩ := layoutRows_ok rows
  refine ⟨⟨healthy, count, fun i row p hr hp => ?_⟩, checks, again⟩
  have here := each i row p (List.getElem?_zip_eq_some.mpr ⟨hr, hp⟩)
  rwa [Nat.zero_add] at here

/-- Every row has its partition. -/
lemma Laid.partition (h : Laid image sectors d) {row : Bytes} (hrow : row ∈ diskRows d) :
    ∃ p ∈ image.partitions, rowName row = p.name ∧ Gpt.u64at row 32 = p.lba.toNat ∧
      sized row p ∈ sizedAll d image.partitions := by
  obtain ⟨i, small, hi⟩ := List.getElem_of_mem hrow
  have count := h.count
  have hr : (diskRows d)[i]? = some row := by rw [List.getElem?_eq_getElem small, hi]
  obtain ⟨p, hp⟩ : ∃ p, image.partitions[i]? = some p :=
    ⟨_, List.getElem?_eq_getElem (count ▸ small)⟩
  have here := h.rows i row p hr hp
  have both : (row, p) ∈ (diskRows d).zip image.partitions :=
    List.mem_of_getElem? (List.getElem?_zip_eq_some.mpr ⟨hr, hp⟩)
  exact ⟨p, List.mem_of_getElem? hp, here.name, here.start,
    List.mem_map_of_mem (f := fun r : Bytes × Partition => sized r.1 r.2) both⟩

/-- Every partition has its row. -/
lemma Laid.row (h : Laid image sectors d) {p : Partition} (hp : p ∈ image.partitions) :
    ∃ row ∈ diskRows d, rowName row = p.name := by
  obtain ⟨i, small, hi⟩ := List.getElem_of_mem hp
  have count := h.count
  obtain ⟨r, hr⟩ : ∃ r, (diskRows d)[i]? = some r := ⟨_, List.getElem?_eq_getElem (count ▸ small)⟩
  exact ⟨_, List.mem_of_getElem? hr,
    (h.rows i _ p hr (by rw [List.getElem?_eq_getElem small, hi])).name⟩

/-- A row lies on the device, before the last 33 sectors. -/
lemma Laid.inside (h : Laid image sectors d) {row : Bytes} (hrow : row ∈ diskRows d) :
    Gpt.u64at row 32 ≤ Gpt.u64at row 40 ∧ Gpt.u64at row 40 < sectors.toNat - 33 := by
  have inside := h.pair.inside (Gpt.u64at row 32, Gpt.u64at row 40)
    (List.mem_map_of_mem (f := fun e => (Gpt.u64at e 32, Gpt.u64at e 40)) hrow)
  exact ⟨inside.2.1, Nat.lt_of_le_of_lt inside.2.2 h.pair.bounds.2.2⟩

/-- The size of a row is the capacity of its partition. -/
lemma Laid.capacity (h : Laid image sectors d) {row : Bytes} (hrow : row ∈ diskRows d)
    {p : Partition} :
    capacityOf sectors (sized row p) = Gpt.u64at row 40 - Gpt.u64at row 32 + 1 := by
  have small := sectors.toNat_lt
  have inside := h.inside hrow
  rw [capacityOf, sized, Option.getD_some, UInt32.toNat_ofNat']
  exact Nat.mod_eq_of_lt (by omega)

/-- The partitions with the sizes of their rows are on the device. -/
lemma Laid.room (h : Laid image sectors d) {q : Partition}
    (hq : q ∈ sizedAll d image.partitions) : q.lba.toNat + capacityOf sectors q < 2 ^ 32 := by
  obtain ⟨⟨row, p⟩, hr, rfl⟩ := List.mem_map.mp hq
  obtain ⟨i, hi⟩ := List.mem_iff_getElem?.mp hr
  obtain ⟨hi1, hi2⟩ := List.getElem?_zip_eq_some.mp hi
  have hrow := List.mem_of_getElem? hi1
  have start : Gpt.u64at row 32 = p.lba.toNat := (h.rows i row p hi1 hi2).start
  have small := sectors.toNat_lt
  have inside : Gpt.u64at row 32 ≤ Gpt.u64at row 40 ∧ Gpt.u64at row 40 < sectors.toNat - 33 :=
    h.inside hrow
  rw [h.capacity hrow]
  show p.lba.toNat + (Gpt.u64at row 40 - Gpt.u64at row 32 + 1) < 2 ^ 32
  omega

/-- Sizes do not change the names. -/
lemma sizedAll_names {partitions : List Partition} (count : (diskRows d).length = partitions.length) :
    (sizedAll d partitions).map Partition.name = partitions.map Partition.name := by
  have second : ((diskRows d).zip partitions).map Prod.snd = partitions :=
    List.map_snd_zip (Nat.le_of_eq count.symm)
  calc (sizedAll d partitions).map Partition.name
      = (((diskRows d).zip partitions).map Prod.snd).map Partition.name := by
        rw [sizedAll, List.map_map, List.map_map]
        rfl
    _ = partitions.map Partition.name := by rw [second]

/-- A disk on which the checks of a package compare equal, and whose table is accepted. -/
lemma certified {checks : List Check} (package : Package file image)
    (room : Room image.partitions sectors)
    (planned : verification image file sectors = .ok checks)
    (equal : ∀ c ∈ checks,
      readAt d (512 * c.lba.toNat) c.bytes = expectedBlock file c 0 c.bytes)
    (layout : verifyLayout (readAt d 0 (34 * 512))
      (readAt d (512 * (sectors - 33).toNat) (33 * 512)) sectors image file = .ok ()) :
    Certified image file sectors d := by
  have length : file.length < 2 ^ 63 := Nat.lt_of_le_of_lt package.size (by decide)
  obtain ⟨laid, checks', again⟩ := verifyLayout_laid layout
  refine ⟨laid.pair, laid.count, laid.rows, fun e he out => ?_, fun e he row hrow name => ?_⟩
  · obtain ⟨p, hp, name⟩ := package.housed e he out
    obtain ⟨row, hrow, rname⟩ := laid.row hp
    exact ⟨row, hrow, rname.trans name⟩
  · obtain ⟨p, mem, rname, start, mem'⟩ := laid.partition hrow
    have pname : p.name = e.name := rname.symm.trans name
    -- the checks of the plan are on the disk
    have found : (image.partitions.find? fun q => q.name == e.name) = some p :=
      pname ▸ find?_named package.table.named mem
    obtain ⟨-, -, plan⟩ := verifyEntries_ok length package.inside (fun p hp => room.capacity hp)
      (verification_ok planned)
    obtain ⟨added, sub, pay⟩ := plan e he p found
    obtain ⟨content, expands, -, shown⟩ := pay.content
    -- the second look gives the sizes that the device has
    have found' : ((sizedAll d image.partitions).find? fun q => q.name == e.name) =
        some (sized row p) :=
      pname ▸ find?_named (sizedAll_names laid.count ▸ package.table.named) mem'
    have again := verification_ok again
    obtain ⟨-, -, real⟩ := verifyEntries_ok length package.inside
      (fun q (hq : q ∈ sizedAll d image.partitions) => laid.room hq) again
    obtain ⟨added', -, pay'⟩ := real e he (sized row p) found'
    obtain ⟨content', expands', fits, -⟩ := pay'.content
    obtain rfl := expands.unique expands'
    refine ⟨content, expands, laid.capacity hrow ▸ fits, fun i b hb => ?_⟩
    obtain ⟨c, hc, expected⟩ := expected_byte shown hb
    rw [start, Nat.mul_comm]
    exact byteAt_disk (equal c (sub hc)) expected

/-- A read-back that succeeds certifies the disk. -/
theorem readback_certified {X : Crates} {tool : Bytes → Result String} {path : String}
    {who identity : Identity} {caps : Vector UInt8 8} {checks : List Check} {t : List Ev}
    {d' : Disk}
    (reads : X.rkfw = rkfw tool)
    (format : image.format = "RKFW")
    (opened : inspect X path file = .ok image)
    (fits : validateCapacity image identity.sectors = .ok ())
    (planned : verification image file identity.sectors = .ok checks)
    (h : Runs (readback identity image file checks) t (.ok ()))
    (p : Lts.Path (Faithful who caps) d t d') :
    d' = d ∧ who = identity ∧ Certified image file identity.sectors d := by
  have package := inspect_package reads format opened
  have room := validateCapacity_room fits
  have length : file.length < 2 ^ 63 := Nat.lt_of_le_of_lt package.size (by decide)
  obtain ⟨-, origin, -⟩ := verifyEntries_ok length package.inside (fun p hp => room.capacity hp)
    (verification_ok planned)
  have sound : ∀ c ∈ checks, 512 ∣ c.bytes ∧ c.lba.toNat + c.bytes / 512 < 2 ^ 32 := by
    intro c hc
    obtain hc | ⟨e, he, q, hq, added, hc, pay⟩ := origin c hc
    · cases hc
    · obtain ⟨whole, within, -⟩ := pay.sound c hc
      have device := room.capacity hq
      exact ⟨whole, by omega⟩
  obtain ⟨rfl, same, equal, layout⟩ := readback_faithful h sound p
  exact ⟨rfl, same, certified package room planned equal layout⟩

end

end K11CHaos.Engine.Factory
