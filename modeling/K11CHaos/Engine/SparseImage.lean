import K11CHaos.Engine.Factory
import K11CHaos.Lib.Sparse
import K11CHaos.Lib.Words

/-!
# Sparse firmware entries

`sparse` of `factory.rs` reads an entry as an Android sparse image (`Sparse.Image`) and adds a check for
every chunk with data. Each chunk that is accepted is one encoding and at most one tile of the partition
(`Scanned`), so the checks and the gaps between them are the expansion of the image, in order. The same
loop with its arithmetic in machine words (`sparseIn`) takes the same way: nothing wraps.
-/

namespace K11CHaos.Engine.Factory
open Words (Watched lift add mul narrow add_fits mul_fits narrow_fits ok_bind lift_bind)
open Sparse (Chunk Encodes)

/-- The loop of `sparse` in words of 64 and 32 bits. -/
def sparseChunksIn (file : Bytes) (h : SparseHeader) (lba : UInt32) :
    Nat → Nat → Nat → List Check → Watched Failure (Nat × Nat × List Check)
  | 0, pos, expanded, out => .ok (pos, expanded, out)
  | k + 1, pos, expanded, out => do
    let front ← add 64 pos h.chunkHeader
    lift (deny (front > h.stop) "FACTORY_IMAGE" "Truncated sparse image")
    let c ← lift (bounded file pos h.chunkHeader)
    let kind := fromLe (slice c 0 2)
    let n ← mul 64 (Gpt.u32at c 4) h.block
    let count := Gpt.u32at c 8
    lift (deny (count < h.chunkHeader) "FACTORY_IMAGE" "Invalid sparse chunk")
    let payload := count - h.chunkHeader
    let extent ← mul 64 h.total h.block
    -- the two sums of this test are checked ones in the source, which refuse what does not fit
    lift (deny (pos + count > h.stop ∨ expanded + n > extent) "FACTORY_IMAGE"
      "Sparse chunk exceeds bounds")
    let out ←
      if kind = 0xcac1 ∧ payload = n ∧ n > 0 then do
        let skip ← narrow 32 (expanded / 512)
        let at' ← add 32 lba.toNat skip
        pure (out ++ [⟨UInt32.ofNat at', n, front, none⟩])
      else if kind = 0xcac2 ∧ payload = 4 ∧ n > 0 then do
        let b ← lift (bounded file front 4)
        let skip ← narrow 32 (expanded / 512)
        let at' ← add 32 lba.toNat skip
        pure (out ++ [⟨UInt32.ofNat at', n, 0, some b⟩])
      else if kind = 0xcac3 ∧ payload = 0 ∧ n > 0 then pure out
      else if kind = 0xcac4 ∧ payload = 4 ∧ n = 0 then pure out
      else lift (throw (error "Invalid sparse chunk type/length"))
    lift (deny (out.length > 100000) "FACTORY_IMAGE" "Too many sparse payload ranges")
    let expanded ← add 64 expanded n
    let pos ← add 64 pos count
    sparseChunksIn file h lba k pos expanded out

/-- `sparse` in machine words. -/
def sparseIn (file : Bytes) (entry : Entry) (lba : UInt32) (capacity : Nat) (out : List Check) :
    Watched Failure (List Check) := do
  let h ← lift (bounded file entry.offset 28)
  let fileHeader := fromLe (slice h 8 2)
  let chunkHeader := fromLe (slice h 10 2)
  let block := Gpt.u32at h 12
  let total := Gpt.u32at h 16
  let chunks := Gpt.u32at h 20
  lift (deny (slice h 0 4 ≠ [0x3a, 0xff, 0x26, 0xed] ∨ fromLe (slice h 4 2) ≠ 1 ∨ fileHeader < 28 ∨
      fileHeader > 4096 ∨ chunkHeader < 12 ∨ chunkHeader > 4096 ∨ block = 0 ∨ block % 512 ≠ 0 ∨
      total * block > capacity ∨ chunks > 1000000)
    "FACTORY_IMAGE" "Invalid sparse system image")
  let stop ← add 64 entry.offset entry.bytes
  let first ← add 64 entry.offset fileHeader
  let (pos, expanded, out) ← sparseChunksIn file ⟨chunkHeader, block, total, stop⟩ lba chunks
    first 0 out
  let extent ← mul 64 total block
  lift (deny (pos ≠ stop ∨ expanded ≠ extent) "FACTORY_IMAGE" "Sparse image length mismatch")
  return out

section
variable {file : Bytes} {h : SparseHeader} {lba : UInt32}

/-- A word is below 2^32. -/
lemma u32at_lt {b : Bytes} {o : Nat} : Gpt.u32at b o < 2 ^ 32 := by
  have short : (slice b o 4).length ≤ 4 := by
    unfold slice
    exact List.length_take_le _ _
  calc Gpt.u32at b o < 256 ^ (slice b o 4).length := fromLe_lt
    _ ≤ 256 ^ 4 := Nat.pow_le_pow_right (by decide) short

/-- The bounds under which no value of the loop leaves its width: the header passed the tests of
`sparse`, and the partition lies on a device. -/
structure Bounded (h : SparseHeader) (lba : UInt32) (room : Nat) : Prop where
  header : h.chunkHeader ≤ 4096
  block : h.block < 2 ^ 32
  extent : h.total * h.block ≤ room * 512
  device : lba.toNat + room < 2 ^ 32
  stop : h.stop < 2 ^ 63

/-- The block numbers do not wrap. -/
lemma ofNat_add_toNat {n : Nat} (fits : lba.toNat + n < 2 ^ 32) :
    UInt32.ofNat (lba.toNat + n) = lba + UInt32.ofNat n := by
  apply UInt32.toNat_inj.mp
  rw [UInt32.toNat_add, UInt32.toNat_ofNat', UInt32.toNat_ofNat', Nat.mod_eq_of_lt fits,
    Nat.mod_eq_of_lt (show n < 2 ^ 32 by omega), Nat.mod_eq_of_lt fits]

/-- In machine words the loop takes the same way. -/
lemma sparseChunksIn_eq {room k pos expanded : Nat} {out : List Check} (b : Bounded h lba room)
    (low : pos < 2 ^ 63 + 4096) (part : expanded ≤ h.total * h.block) :
    sparseChunksIn file h lba k pos expanded out =
      lift (sparseChunks file h lba k pos expanded out) := by
  induction k generalizing pos expanded out with
  | zero => rfl
  | succ k ih =>
    have hh := b.header
    have he := b.extent
    have hd := b.device
    have hs := b.stop
    rw [sparseChunksIn, sparseChunks, add_fits (by omega), ok_bind]
    refine lift_bind fun _ h1 => lift_bind fun c _ => ?_
    have wide : Gpt.u32at c 4 * h.block < 2 ^ 64 :=
      calc Gpt.u32at c 4 * h.block < 2 ^ 32 * 2 ^ 32 := Nat.mul_lt_mul'' u32at_lt b.block
        _ = 2 ^ 64 := by decide
    dsimp only
    rw [mul_fits wide, ok_bind]
    refine lift_bind fun _ _ => ?_
    rw [mul_fits (by omega), ok_bind]
    refine lift_bind fun _ h2 => ?_
    simp only [deny_ok, not_or, Nat.not_lt, gt_iff_lt] at h1 h2
    obtain ⟨h3, h4⟩ := h2
    generalize Gpt.u32at c 4 * h.block = n at *
    have next (out : List Check) :
        (lift (deny (out.length > 100000) "FACTORY_IMAGE" "Too many sparse payload ranges") >>=
          fun _ => add 64 expanded n >>= fun e => add 64 pos (Gpt.u32at c 8) >>= fun p =>
            sparseChunksIn file h lba k p e out) =
        lift (deny (out.length > 100000) "FACTORY_IMAGE" "Too many sparse payload ranges" >>=
          fun _ => sparseChunks file h lba k (pos + Gpt.u32at c 8) (expanded + n) out) := by
      refine lift_bind fun _ _ => ?_
      rw [add_fits (by omega), ok_bind, add_fits (by omega), ok_bind]
      exact ih (by omega) h4
    -- the first sector of the chunk is one of the device
    have skip : (narrow 32 (expanded / 512) : Watched Failure Nat) = .ok (expanded / 512) :=
      narrow_fits (by omega)
    have place : (add 32 lba.toNat (expanded / 512) : Watched Failure Nat) =
        .ok (lba.toNat + expanded / 512) :=
      add_fits (by omega)
    have same := @ofNat_add_toNat lba (expanded / 512) (by omega)
    split_ifs
    · rw [skip, ok_bind, place, ok_bind, same]
      exact next _
    · refine lift_bind fun v _ => ?_
      rw [skip, ok_bind, place, ok_bind, same]
      exact next _
    · exact next _
    · exact next _
    · rfl

/-- `sparse` in machine words is `sparse`. -/
lemma sparseIn_eq {entry : Entry} {room : Nat} {out : List Check}
    (inside : entry.offset + entry.bytes ≤ file.length) (length : file.length < 2 ^ 63)
    (device : lba.toNat + room < 2 ^ 32) :
    sparseIn file entry lba (room * 512) out = lift (sparse file entry lba (room * 512) out) := by
  rw [sparseIn, sparse]
  refine lift_bind fun c _ => ?_
  dsimp only
  refine lift_bind fun _ h1 => ?_
  simp only [deny_ok, not_or, Nat.not_lt, gt_iff_lt] at h1
  obtain ⟨-, -, -, h2, -, h3, -, -, h4, -⟩ := h1
  rw [add_fits (by omega), ok_bind, add_fits (by omega), ok_bind]
  rw [sparseChunksIn_eq ⟨h3, u32at_lt, h4, device, by dsimp only; omega⟩ (by omega)
    (Nat.zero_le _)]
  refine lift_bind fun r _ => ?_
  obtain ⟨pos, expanded, out⟩ := r
  rw [mul_fits (by omega), ok_bind]
  exact lift_bind fun _ _ => rfl

end

/-- A part of a partition: what a check compares, or a gap. -/
inductive Tile where
  | check (c : Check)
  | gap (first sectors : Nat)

def Tile.first : Tile → Nat
  | .check c => c.lba.toNat
  | .gap first _ => first

def Tile.sectors : Tile → Nat
  | .check c => c.bytes / 512
  | .gap _ sectors => sectors

/-- The checks among the tiles. -/
def checksOf : List Tile → List Check
  | [] => []
  | .check c :: ts => c :: checksOf ts
  | .gap _ _ :: ts => checksOf ts

/-- The checks of tiles, one list after another. -/
lemma checksOf_append {ts us : List Tile} : checksOf (ts ++ us) = checksOf ts ++ checksOf us := by
  induction ts with
  | nil => rfl
  | cons t ts ih =>
    cases t with
    | check c => exact congrArg (c :: ·) ih
    | gap first sectors => exact ih

/-- Tiles that fill the sectors from `a` to `b`, one after the other. -/
inductive Tiles : Nat → Nat → List Tile → Prop where
  | nil {a} : Tiles a a []
  | cons {a b t ts} :
    t.first = a →
    0 < t.sectors →
    (∀ c, t = .check c → 512 ∣ c.bytes) →
    Tiles (a + t.sectors) b ts →
    Tiles a b (t :: ts)

/-- The bytes that the checks expect from an address of the device on. -/
def Check.byteAt (file : Bytes) (c : Check) (p : Nat) : Option UInt8 :=
  if c.lba.toNat * 512 ≤ p ∧ p < c.lba.toNat * 512 + c.bytes then
    (expectedBlock file c 0 c.bytes)[p - c.lba.toNat * 512]?
  else none

/-- The byte that a list of checks expects at an address. -/
def byteOf (file : Bytes) (checks : List Check) (p : Nat) : Option UInt8 :=
  checks.findSome? (·.byteAt file p)

/-- What the checks say about `count` bytes from a sector on. -/
def described (file : Bytes) (checks : List Check) (lba count : Nat) : List (Option UInt8) :=
  (List.range count).map fun i => byteOf file checks (lba * 512 + i)

/-- What a tile stands for. -/
def Tile.expand (file : Bytes) : Tile → List (Option UInt8)
  | .check c => (expectedBlock file c 0 c.bytes).map some
  | .gap _ sectors => List.replicate (sectors * 512) none

section
variable {file : Bytes} {h : SparseHeader} {lba : UInt32}

/-- One chunk of the loop: its encoding and the tile that it adds, if any. -/
structure Step (file : Bytes) (h : SparseHeader) (lba : UInt32) (pos expanded n count : Nat)
    (c : Chunk) (tiles : List Tile) : Prop where
  code : Encodes h.chunkHeader h.block c (slice file pos count)
  read : pos + count ≤ h.stop
  size : c.expand.length = n
  extent : expanded + n ≤ h.total * h.block
  placed : Tiles (lba.toNat + expanded / 512) (lba.toNat + (expanded + n) / 512) tiles
  expand : tiles.flatMap (Tile.expand file) = c.expand
  inside : ∀ d, .check d ∈ tiles → d.fill = none →
    pos ≤ d.offset ∧ d.offset + d.bytes ≤ pos + count

/-- A repeated value, byte by byte. -/
lemma fill_expand {v : Bytes} {t : Nat} (sized : v.length = 4) :
    ((List.range (t * 4)).map fun i => v.getD (i % 4) 0).map some =
      (Chunk.fill v t).expand := by
  rw [Chunk.expand]
  induction t with
  | zero => rfl
  | succ t ih =>
    rw [List.replicate_succ', List.flatten_append, ← ih, Nat.add_mul, Nat.one_mul, List.range_add,
      List.map_append, List.map_append, List.map_map]
    congr 1
    obtain ⟨a, b, c, d, rfl⟩ := List.length_eq_four.mp sized
    simp [List.range_succ, Nat.add_mod]

/-- What the loop has checked of a chunk before it looks at the kind. -/
structure Front (file : Bytes) (h : SparseHeader) (pos n count : Nat) : Prop where
  header : 12 ≤ h.chunkHeader
  size : h.chunkHeader ≤ count
  blocks : fromLe (slice (slice file pos h.chunkHeader) 4 4) * h.block = n
  length : fromLe (slice (slice file pos h.chunkHeader) 8 4) = count
  inFile : pos + count ≤ file.length

/-- A chunk is encoded in the file when its kind, its size and its payload are there. -/
lemma Front.encodes {pos n count : Nat} {c : Chunk} (f : Front file h pos n count)
    (sized : c.Sized) (kind : fromLe (slice (slice file pos h.chunkHeader) 0 2) = c.kind)
    (size : c.expand.length = n)
    (payload : slice file (pos + h.chunkHeader) (count - h.chunkHeader) = c.payload) :
    Encodes h.chunkHeader h.block c (slice file pos count) := by
  have hh := f.header
  have hc := f.size
  have same {o l : Nat} (d : o + l ≤ 12) :
      slice (slice file pos count) o l = slice (slice file pos h.chunkHeader) o l := by
    rw [slice_slice (by omega), slice_slice (by omega)]
  have len := length_slice f.inFile
  refine ⟨sized, by omega, ?_, ?_, ?_, ?_⟩
  · rw [same (by decide), kind]
  · rw [same (by decide), f.blocks, size]
  · rw [same (by decide), f.length, len]
  · obtain ⟨k, rfl⟩ := Nat.exists_eq_add_of_le hc
    rw [drop_slice]
    rwa [Nat.add_sub_cancel_left] at payload

/-- One tile with all sectors of a chunk. -/
lemma Tiles.one {t : Tile} {a n : Nat} (first : t.first = a) (size : t.sectors = n / 512)
    (some' : 0 < n) (aligned : n % 512 = 0) (whole : ∀ c, t = .check c → 512 ∣ c.bytes)
    {b : Nat} (next : b = a + n / 512) : Tiles a b [t] := by
  refine .cons first (by omega) whole ?_
  rw [size, next]
  exact .nil

/-- A chunk whose front was read, inside the file and the partition and of whole sectors. -/
structure Begun (file : Bytes) (h : SparseHeader) (pos expanded n count : Nat) : Prop extends
    Front file h pos n count where
  read : pos + count ≤ h.stop
  extent : expanded + n ≤ h.total * h.block
  aligned : expanded % 512 = 0
  multiple : n % 512 = 0

section Kinds
variable {pos expanded n count : Nat} {at' : UInt32}

/-- The sectors behind a chunk. -/
lemma Begun.next (f : Begun file h pos expanded n count) :
    lba.toNat + (expanded + n) / 512 = lba.toNat + expanded / 512 + n / 512 := by
  have aligned := f.aligned
  omega

/-- A chunk of raw data is one check of its bytes in the file. -/
lemma Begun.raw (f : Begun file h pos expanded n count)
    (place : at'.toNat = lba.toNat + expanded / 512)
    (kind : fromLe (slice (slice file pos h.chunkHeader) 0 2) = 0xcac1)
    (size : count - h.chunkHeader = n) (some' : 0 < n) :
    Step file h lba pos expanded n count (.raw (slice file (pos + h.chunkHeader) n))
      [.check ⟨at', n, pos + h.chunkHeader, none⟩] := by
  have inFile := f.inFile
  have header := f.toFront.size
  have len : (slice file (pos + h.chunkHeader) n).length = n := length_slice (by omega)
  have whole : (Chunk.raw (slice file (pos + h.chunkHeader) n)).expand.length = n := by
    rw [Chunk.expand, List.length_map, len]
  refine ⟨f.encodes trivial kind whole (by rw [size]; rfl), f.read, whole, f.extent, ?_, ?_, ?_⟩
  · refine .one ?_ rfl some' f.multiple ?_ f.next
    · exact place
    · rintro _ ⟨⟩
      exact Nat.dvd_of_mod_eq_zero f.multiple
  · rw [List.flatMap_singleton]
    rfl
  · intro d hd _
    obtain rfl := Tile.check.inj (List.mem_singleton.mp hd)
    exact ⟨Nat.le_add_right _ _, by dsimp only; omega⟩

/-- A chunk of a repeated value is one check against the value. -/
lemma Begun.fill (f : Begun file h pos expanded n count)
    (place : at'.toNat = lba.toNat + expanded / 512)
    (kind : fromLe (slice (slice file pos h.chunkHeader) 0 2) = 0xcac2)
    (size : count - h.chunkHeader = 4) (some' : 0 < n) :
    Step file h lba pos expanded n count (.fill (slice file (pos + h.chunkHeader) 4) (n / 4))
      [.check ⟨at', n, 0, some (slice file (pos + h.chunkHeader) 4)⟩] := by
  have inFile := f.inFile
  have multiple := f.multiple
  have sized : (slice file (pos + h.chunkHeader) 4).length = 4 := length_slice (by omega)
  have times : n = n / 4 * 4 := by omega
  have whole : (Chunk.fill (slice file (pos + h.chunkHeader) 4) (n / 4)).expand.length = n := by
    rw [Sparse.length_fill sized, ← times]
  refine ⟨f.encodes sized kind whole (by rw [size]; rfl), f.read, whole, f.extent, ?_, ?_, ?_⟩
  · refine .one ?_ rfl some' multiple ?_ f.next
    · exact place
    · rintro _ ⟨⟩
      exact Nat.dvd_of_mod_eq_zero multiple
  · rw [List.flatMap_singleton, ← fill_expand sized, ← times]
    rfl
  · intro d hd none'
    obtain rfl := Tile.check.inj (List.mem_singleton.mp hd)
    cases none'

/-- A chunk whose bytes do not matter is a gap. -/
lemma Begun.dontCare (f : Begun file h pos expanded n count)
    (kind : fromLe (slice (slice file pos h.chunkHeader) 0 2) = 0xcac3)
    (size : count - h.chunkHeader = 0) (some' : 0 < n) :
    Step file h lba pos expanded n count (.dontCare n)
      [.gap (lba.toNat + expanded / 512) (n / 512)] := by
  refine ⟨f.encodes trivial kind List.length_replicate ?_, f.read, List.length_replicate, f.extent,
    ?_, ?_, ?_⟩
  · rw [size, slice_zero]
    rfl
  · refine .one ?_ rfl some' f.multiple ?_ f.next
    · rfl
    · rintro _ ⟨⟩
  · rw [List.flatMap_singleton, Tile.expand,
      Nat.div_mul_cancel (Nat.dvd_of_mod_eq_zero f.multiple)]
    rfl
  · intro d hd
    cases List.mem_singleton.mp hd

/-- A checksum stands for no bytes. -/
lemma Begun.checksum (f : Begun file h pos expanded 0 count)
    (kind : fromLe (slice (slice file pos h.chunkHeader) 0 2) = 0xcac4)
    (size : count - h.chunkHeader = 4) :
    Step file h lba pos expanded 0 count (.checksum (slice file (pos + h.chunkHeader) 4)) [] := by
  have inFile := f.inFile
  have sized : (slice file (pos + h.chunkHeader) 4).length = 4 := length_slice (by omega)
  exact ⟨f.encodes sized kind rfl (by rw [size]; rfl), f.read, rfl, f.extent, .nil, rfl,
    fun d hd => absurd hd List.not_mem_nil⟩

end Kinds

/-- A chunk that the loop accepts is encoded at its place in the file and is at most one tile. -/
lemma sparseChunks_step {room k pos expanded : Nat} {out : List Check}
    {r : Nat × Nat × List Check} (b : Bounded h lba room) (header : 12 ≤ h.chunkHeader)
    (block : h.block % 512 = 0) (inFile : h.stop ≤ file.length) (aligned : expanded % 512 = 0)
    (ok : sparseChunks file h lba (k + 1) pos expanded out = .ok r) :
    ∃ n count c tiles, Step file h lba pos expanded n count c tiles ∧ n % 512 = 0 ∧
      sparseChunks file h lba k (pos + count) (expanded + n)
        (out ++ checksOf tiles) = .ok r := by
  rw [sparseChunks] at ok
  obtain ⟨_, h1, ok1⟩ := bind_ok.mp ok
  obtain ⟨head, hb, ok2⟩ := bind_ok.mp ok1
  obtain ⟨-, rfl⟩ := bounded_ok hb
  obtain ⟨_, h2, ok3⟩ := bind_ok.mp ok2
  obtain ⟨_, h3, ok4⟩ := bind_ok.mp ok3
  simp only [deny_ok, not_or, Nat.not_lt, gt_iff_lt] at h1 h2 h3
  obtain ⟨read, extent⟩ := h3
  have he := b.extent
  have hd := b.device
  have multiple : Gpt.u32at (slice file pos h.chunkHeader) 4 * h.block % 512 = 0 := by
    rw [Nat.mul_mod, block, Nat.mul_zero, Nat.zero_mod]
  have begun : Begun file h pos expanded (Gpt.u32at (slice file pos h.chunkHeader) 4 * h.block)
      (Gpt.u32at (slice file pos h.chunkHeader) 8) :=
    ⟨⟨header, h2, rfl, rfl, Nat.le_trans read inFile⟩, read, extent, aligned, multiple⟩
  have place : (lba + UInt32.ofNat (expanded / 512)).toNat = lba.toNat + expanded / 512 := by
    rw [← ofNat_add_toNat (by omega), UInt32.toNat_ofNat', Nat.mod_eq_of_lt (by omega)]
  dsimp only at ok4
  split_ifs at ok4 with k1 k2 k3 k4
  · -- raw data
    obtain ⟨_, ⟨⟩, ok5⟩ := bind_ok.mp ok4
    obtain ⟨_, -, ok6⟩ := bind_ok.mp ok5
    exact ⟨_, _, _, _, begun.raw place k1.1 k1.2.1 k1.2.2, multiple, ok6⟩
  · -- a repeated value
    obtain ⟨v, hv, ok5⟩ := bind_ok.mp ok4
    obtain ⟨_, ⟨⟩, ok6⟩ := bind_ok.mp ok5
    obtain ⟨_, -, ok7⟩ := bind_ok.mp ok6
    obtain ⟨-, rfl⟩ := bounded_ok hv
    exact ⟨_, _, _, _, begun.fill place k2.1 k2.2.1 k2.2.2, multiple, ok7⟩
  · -- bytes that do not matter
    obtain ⟨_, ⟨⟩, ok5⟩ := bind_ok.mp ok4
    obtain ⟨_, -, ok6⟩ := bind_ok.mp ok5
    refine ⟨_, _, _, _, begun.dontCare k3.1 k3.2.1 k3.2.2, multiple, ?_⟩
    rw [checksOf, checksOf, List.append_nil]
    exact ok6
  · -- a checksum
    obtain ⟨kind, size, none'⟩ := k4
    obtain ⟨_, ⟨⟩, ok5⟩ := bind_ok.mp ok4
    obtain ⟨_, -, ok6⟩ := bind_ok.mp ok5
    rw [none'] at begun ok6
    refine ⟨0, _, _, [], begun.checksum kind size, rfl, ?_⟩
    rw [checksOf, List.append_nil]
    exact ok6
  · cases ok4

/-- One stretch of tiles after another. -/
lemma Tiles.append {a b c : Nat} {ts us : List Tile} (h : Tiles a b ts) (k : Tiles b c us) :
    Tiles a c (ts ++ us) := by
  induction h with
  | nil => exact k
  | cons first some' whole _ ih => exact .cons first some' whole (ih k)

/-- What the loop has read and added between two of its positions. -/
structure Scanned (file : Bytes) (h : SparseHeader) (lba : UInt32) (pos expanded pos' expanded' : Nat)
    (chunks : List Chunk) (tiles : List Tile) : Prop where
  encoded : ∃ codes, List.Forall₂ (Encodes h.chunkHeader h.block) chunks codes ∧
    slice file pos (pos' - pos) = codes.flatten
  forward : pos ≤ pos'
  size : expanded' = expanded + (Sparse.expand chunks).length
  placed : Tiles (lba.toNat + expanded / 512) (lba.toNat + expanded' / 512) tiles
  expand : tiles.flatMap (Tile.expand file) = Sparse.expand chunks
  inside : ∀ d, .check d ∈ tiles → d.fill = none → pos ≤ d.offset ∧ d.offset + d.bytes ≤ pos'

/-- No chunk scans nothing. -/
lemma Scanned.nil {pos expanded : Nat} : Scanned file h lba pos expanded pos expanded [] [] where
  encoded := ⟨[], .nil, by rw [Nat.sub_self, slice_zero]; rfl⟩
  forward := Nat.le_refl pos
  size := rfl
  placed := .nil
  expand := rfl
  inside := nofun

/-- A chunk and what was scanned after it. -/
lemma Step.scanned {pos expanded n count pos' expanded' : Nat} {c : Chunk} {chunks : List Chunk}
    {ts tiles : List Tile} (st : Step file h lba pos expanded n count c ts)
    (rest : Scanned file h lba (pos + count) (expanded + n) pos' expanded' chunks tiles) :
    Scanned file h lba pos expanded pos' expanded' (c :: chunks) (ts ++ tiles) := by
  obtain ⟨codes, each, all⟩ := rest.encoded
  have forward := rest.forward
  refine ⟨⟨slice file pos count :: codes, .cons st.code each, ?_⟩, by omega, ?_,
    st.placed.append rest.placed, ?_, fun d hd raw => ?_⟩
  · rw [List.flatten_cons, ← all, slice_append_slice]
    congr 1
    omega
  · rw [rest.size, Sparse.expand, Sparse.expand, List.flatMap_cons, List.length_append, st.size,
      Nat.add_assoc]
  · rw [List.flatMap_append, st.expand, rest.expand]
    rfl
  · cases List.mem_append.mp hd with
    | inl hd =>
      have := st.inside d hd raw
      omega
    | inr hd =>
      have := rest.inside d hd raw
      omega

/-- A loop that succeeds has read one encoding for each chunk, up to its last position. -/
lemma sparseChunks_scanned {room k pos expanded : Nat} {out : List Check} {pos' expanded' : Nat}
    {out' : List Check} (b : Bounded h lba room) (header : 12 ≤ h.chunkHeader)
    (block : h.block % 512 = 0) (inFile : h.stop ≤ file.length) (aligned : expanded % 512 = 0)
    (ok : sparseChunks file h lba k pos expanded out = .ok (pos', expanded', out')) :
    ∃ chunks tiles, chunks.length = k ∧
      Scanned file h lba pos expanded pos' expanded' chunks tiles ∧
      out' = out ++ checksOf tiles := by
  induction k generalizing pos expanded out with
  | zero =>
    cases ok
    exact ⟨[], [], rfl, .nil, (List.append_nil _).symm⟩
  | succ k ih =>
    obtain ⟨n, count, c, ts, st, whole, ok'⟩ :=
      sparseChunks_step b header block inFile aligned ok
    obtain ⟨chunks, tiles, len, rest, e⟩ := ih (by omega) ok'
    refine ⟨c :: chunks, ts ++ tiles, congrArg Nat.succ len, st.scanned rest, ?_⟩
    rw [e, checksOf_append, List.append_assoc]

end

section
variable {file : Bytes}

/-- A block that is expected has the length of its check. -/
lemma expectedBlock_length {c : Check} (inFile : c.fill = none → c.offset + c.bytes ≤ file.length) :
    (expectedBlock file c 0 c.bytes).length = c.bytes := by
  unfold expectedBlock
  split
  case h_1 fill e => rw [List.length_map, List.length_range]
  case h_2 e => exact length_slice (inFile e)

/-- A byte inside the first check. -/
lemma byteOf_inside {c : Check} {cs : List Check} {i : Nat} (small : i < c.bytes)
    (inFile : c.fill = none → c.offset + c.bytes ≤ file.length) :
    byteOf file (c :: cs) (c.lba.toNat * 512 + i) = (expectedBlock file c 0 c.bytes)[i]? := by
  have here : c.byteAt file (c.lba.toNat * 512 + i) = (expectedBlock file c 0 c.bytes)[i]? := by
    rw [Check.byteAt, if_pos (by omega), Nat.add_sub_cancel_left]
  rw [byteOf, List.findSome?_cons, here,
    List.getElem?_eq_getElem (by rw [expectedBlock_length inFile]; exact small)]

/-- A byte outside the first check. -/
lemma byteOf_outside {c : Check} {cs : List Check} {p : Nat}
    (out : p < c.lba.toNat * 512 ∨ c.lba.toNat * 512 + c.bytes ≤ p) :
    byteOf file (c :: cs) p = byteOf file cs p := by
  have off : c.byteAt file p = none := if_neg (by omega)
  rw [byteOf, List.findSome?_cons, off, byteOf]

/-- Tiles go forward. -/
lemma Tiles.le {a b : Nat} {tiles : List Tile} (h : Tiles a b tiles) : a ≤ b := by
  induction h with
  | nil => exact Nat.le_refl _
  | cons _ _ _ _ ih => omega

/-- Tiles say nothing about the bytes before them. -/
lemma Tiles.before {a b p : Nat} {tiles : List Tile} (h : Tiles a b tiles) (low : p < a * 512) :
    byteOf file (checksOf tiles) p = none := by
  induction h with
  | nil => rfl
  | @cons a b t ts first some' whole _ ih =>
    have rest := ih (Nat.lt_of_lt_of_le low (Nat.mul_le_mul_right 512 (Nat.le_add_right a _)))
    cases t with
    | gap f n => exact rest
    | check c =>
      obtain rfl : c.lba.toNat = a := first
      exact (byteOf_outside (.inl low)).trans rest

/-- The checks of a list of tiles describe what the tiles stand for. -/
lemma Tiles.described_expand {a b : Nat} {tiles : List Tile} (h : Tiles a b tiles)
    (inFile : ∀ c, .check c ∈ tiles → c.fill = none → c.offset + c.bytes ≤ file.length) :
    described file (checksOf tiles) a ((b - a) * 512) = tiles.flatMap (Tile.expand file) := by
  induction h with
  | nil =>
    rw [Nat.sub_self, Nat.zero_mul]
    rfl
  | @cons a b t ts first some' whole rest ih =>
    have tail := ih fun c hc => inFile c (List.mem_cons_of_mem _ hc)
    have le := rest.le
    have cut : (b - a) * 512 = t.sectors * 512 + (b - (a + t.sectors)) * 512 := by
      rw [← Nat.add_mul]
      congr 1
      omega
    have split : described file (checksOf (t :: ts)) a ((b - a) * 512) =
        described file (checksOf (t :: ts)) a (t.sectors * 512) ++
          (List.range ((b - (a + t.sectors)) * 512)).map fun i =>
            byteOf file (checksOf (t :: ts)) (a * 512 + (t.sectors * 512 + i)) := by
      rw [described, cut, List.range_add, List.map_append, List.map_map]
      rfl
    rw [split, List.flatMap_cons, ← tail]
    refine congrArg₂ (· ++ ·) ?_ ?_
    · -- the bytes of the first tile
      cases t with
      | gap f n =>
        refine List.eq_replicate_iff.mpr ⟨by rw [described, List.length_map, List.length_range]; rfl, ?_⟩
        intro x hx
        obtain ⟨i, hi, rfl⟩ := List.mem_map.mp hx
        have small := List.mem_range.mp hi
        refine rest.before ?_
        rw [Nat.add_mul]
        exact Nat.add_lt_add_left small _
      | check c =>
        obtain rfl : c.lba.toNat = a := first
        have sectors : (Tile.check c).sectors * 512 = c.bytes := Nat.div_mul_cancel (whole c rfl)
        have inside := inFile c List.mem_cons_self
        refine List.ext_getElem? fun i => ?_
        rw [sectors, described, Tile.expand, List.getElem?_map, List.getElem?_map]
        rcases Nat.lt_or_ge i c.bytes with small | large
        · have len := expectedBlock_length inside
          rw [List.getElem?_range small, List.getElem?_eq_getElem (by omega)]
          have at' := @byteOf_inside file c (checksOf ts) i small inside
          rw [List.getElem?_eq_getElem (by omega)] at at'
          exact congrArg some at'
        · rw [List.getElem?_eq_none (by rw [List.length_range]; exact large),
            List.getElem?_eq_none (by rw [expectedBlock_length inside]; exact large)]
          rfl
    · -- the first check says nothing about the bytes behind it
      refine List.map_congr_left fun i _ => ?_
      have shift : a * 512 + (t.sectors * 512 + i) = (a + t.sectors) * 512 + i := by
        rw [Nat.add_mul, Nat.add_assoc]
      show byteOf file (checksOf (t :: ts)) (a * 512 + (t.sectors * 512 + i)) =
        byteOf file (checksOf ts) ((a + t.sectors) * 512 + i)
      rw [shift]
      cases t with
      | gap f n => rfl
      | check c =>
        obtain rfl : c.lba.toNat = a := first
        have sectors : (Tile.check c).sectors * 512 = c.bytes := Nat.div_mul_cancel (whole c rfl)
        refine byteOf_outside (.inr ?_)
        rw [Nat.add_mul]
        omega

end

/-- The checks added for an entry are the expansion of its sparse image. -/
structure Expanded (file : Bytes) (entry : Entry) (lba : UInt32) (capacity : Nat)
    (checks : List Check) : Prop where
  /-- The headers and the payloads of the chunks use the entry up. -/
  image : ∃ chunks, Sparse.Image (slice file entry.offset entry.bytes) chunks
  /-- The checks and the gaps between them are the sectors of the extent, one after the other. -/
  tiled : ∃ tiles, checks = checksOf tiles ∧ Tiles lba.toNat
    (lba.toNat + Sparse.extent (slice file entry.offset entry.bytes) / 512) tiles
  /-- The extent is whole sectors of the partition. -/
  fits : Sparse.extent (slice file entry.offset entry.bytes) ≤ capacity ∧
    512 ∣ Sparse.extent (slice file entry.offset entry.bytes)
  /-- Raw checks read bytes of the entry. -/
  inside : ∀ c ∈ checks, c.fill = none →
    entry.offset ≤ c.offset ∧ c.offset + c.bytes ≤ entry.offset + entry.bytes
  /-- What the checks describe is the expansion of the image; gaps are the bytes that do not
  matter. -/
  expands : ∀ chunks, Sparse.Image (slice file entry.offset entry.bytes) chunks →
    described file checks lba.toNat (Sparse.extent (slice file entry.offset entry.bytes)) =
      Sparse.expand chunks

section
variable {file : Bytes}

/-- A check comes from a tile. -/
lemma mem_checksOf {c : Check} {tiles : List Tile} (h : c ∈ checksOf tiles) :
    .check c ∈ tiles := by
  induction tiles with
  | nil => cases h
  | cons t ts ih =>
    cases t with
    | gap first sectors => exact List.mem_cons_of_mem _ (ih h)
    | check d =>
      cases List.mem_cons.mp h with
      | inl e =>
        rw [e]
        exact List.mem_cons_self
      | inr h => exact List.mem_cons_of_mem _ (ih h)

/-- A sparse entry that is accepted is expanded. -/
lemma sparse_expanded {entry : Entry} {lba : UInt32} {room : Nat} {out out' : List Check}
    (inside : entry.offset + entry.bytes ≤ file.length) (length : file.length < 2 ^ 63)
    (device : lba.toNat + room < 2 ^ 32)
    (ok : sparse file entry lba (room * 512) out = .ok out') :
    ∃ added, out' = out ++ added ∧ Expanded file entry lba (room * 512) added := by
  rw [sparse] at ok
  obtain ⟨head, hb, ok1⟩ := bind_ok.mp ok
  obtain ⟨-, rfl⟩ := bounded_ok hb
  dsimp only at ok1
  obtain ⟨_, h1, ok2⟩ := bind_ok.mp ok1
  obtain ⟨⟨pos, expanded, out1⟩, chunked, ok3⟩ := bind_ok.mp ok2
  obtain ⟨_, h2, ok4⟩ := bind_ok.mp ok3
  cases ok4
  simp only [deny_ok, not_or, Nat.not_lt, gt_iff_lt, ne_eq, not_not] at h1 h2
  obtain ⟨magic, version, large, -, header, small, -, aligned, extent, -⟩ := h1
  obtain ⟨rfl, rfl⟩ := h2
  obtain ⟨chunks, tiles, count, scan, rfl⟩ := sparseChunks_scanned
    ⟨small, u32at_lt, extent, device, by dsimp only; omega⟩ header aligned inside rfl chunked
  -- the fields of the header lie inside the entry, because the scan ends at its end
  have forward := scan.forward
  have field {o l : Nat} (d : o + l ≤ 28) : slice (slice file entry.offset 28) o l =
      slice (slice file entry.offset entry.bytes) o l := by
    rw [slice_slice d, slice_slice (by omega)]
  have len := length_slice inside
  simp only [Gpt.u32at, field (show 0 + 4 ≤ 28 by decide), field (show 4 + 2 ≤ 28 by decide),
    field (show 8 + 2 ≤ 28 by decide), field (show 10 + 2 ≤ 28 by decide),
    field (show 12 + 4 ≤ 28 by decide), field (show 16 + 4 ≤ 28 by decide),
    field (show 20 + 4 ≤ 28 by decide)] at *
  obtain ⟨codes, each, all⟩ := scan.encoded
  have size : (Sparse.expand chunks).length =
      Sparse.extent (slice file entry.offset entry.bytes) :=
    (Nat.zero_add _).symm.trans scan.size.symm
  have whole : 512 ∣ Sparse.extent (slice file entry.offset entry.bytes) :=
    Nat.dvd_mul_left_of_dvd (Nat.dvd_of_mod_eq_zero aligned) _
  have image : Sparse.Image (slice file entry.offset entry.bytes) chunks := by
    have within : Sparse.fileHeader (slice file entry.offset entry.bytes) ≤ entry.bytes :=
      Nat.le_of_add_le_add_left forward
    refine ⟨magic, version, ⟨large, by rw [len]; exact within⟩, header, ⟨codes, each, ?_⟩, count,
      size⟩
    have cut := @drop_slice file entry.offset
      (Sparse.fileHeader (slice file entry.offset entry.bytes))
      (entry.bytes - Sparse.fileHeader (slice file entry.offset entry.bytes))
    rw [Nat.add_sub_cancel' within] at cut
    rw [cut, ← all, Sparse.fileHeader]
    congr 1
    omega
  have placed : Tiles lba.toNat
      (lba.toNat + Sparse.extent (slice file entry.offset entry.bytes) / 512) tiles := scan.placed
  refine ⟨checksOf tiles, rfl, ⟨chunks, image⟩, ⟨tiles, rfl, placed⟩, ⟨extent, whole⟩,
    fun c hc raw => ?_, fun chunks' image' => ?_⟩
  · have := scan.inside c (mem_checksOf hc) raw
    omega
  · obtain rfl := image.unique image'
    rw [← scan.expand, ← placed.described_expand fun c hc raw =>
      Nat.le_trans (scan.inside c hc raw).2 inside, Nat.add_sub_cancel_left,
      Nat.div_mul_cancel whole]

end

/-- For every file and entry inside it, and a partition on a device of `u32` sectors: no sum, product
or cast of `sparse` leaves its width, and when `sparse` succeeds the checks that it adds are the
expansion of the entry's sparse image. -/
theorem sparse_sound (file : Bytes) (entry : Entry) (lba room sectors : UInt32) (out : List Check)
    (inside : entry.offset + entry.bytes ≤ file.length) (length : file.length < 2 ^ 63)
    (device : lba.toNat + room.toNat ≤ sectors.toNat) :
    sparseIn file entry lba (room.toNat * 512) out =
        lift (sparse file entry lba (room.toNat * 512) out) ∧
      ∀ out', sparse file entry lba (room.toNat * 512) out = .ok out' →
        ∃ added, out' = out ++ added ∧ Expanded file entry lba (room.toNat * 512) added := by
  have device' : lba.toNat + room.toNat < 2 ^ 32 := Nat.lt_of_le_of_lt device sectors.toNat_lt
  exact ⟨sparseIn_eq inside length device', fun _ ok => sparse_expanded inside length device' ok⟩

/-- A sparse image of a raw block, a repeated value and a block that does not matter. -/
def sampleSparse : Bytes :=
  [0x3a, 0xff, 0x26, 0xed, 1, 0, 0, 0, 28, 0, 12, 0] ++ toLe 4 512 ++ toLe 4 3 ++ toLe 4 3 ++
    zeros 4 ++
  ([0xc1, 0xca, 0, 0] ++ toLe 4 1 ++ toLe 4 524 ++ List.replicate 512 0x77) ++
  ([0xc2, 0xca, 0, 0] ++ toLe 4 1 ++ toLe 4 16 ++ [1, 2, 3, 4]) ++
  ([0xc3, 0xca, 0, 0] ++ toLe 4 1 ++ toLe 4 12)

/-- The checks of the sample. -/
def sampleChecks : List Check :=
  [⟨34816, 512, 40, none⟩, ⟨34817, 512, 0, some [1, 2, 3, 4]⟩]

/-- A raw chunk, a filled one and one to skip. -/
theorem sparse_sound_sample :
    sparse sampleSparse ⟨"super", 0, 580, true⟩ 34816 (3 * 512) [] = .ok sampleChecks ∧
      ∃ added, sampleChecks = [] ++ added ∧
        Expanded sampleSparse ⟨"super", 0, 580, true⟩ 34816 (3 * 512) added := by
  have ok : sparse sampleSparse ⟨"super", 0, 580, true⟩ 34816 (3 * 512) [] = .ok sampleChecks := by
    decide +kernel
  have sound := sparse_sound sampleSparse ⟨"super", 0, 580, true⟩ 34816 3 40000 [] (by decide +kernel)
    (by decide +kernel) (by decide)
  exact ⟨ok, sound.2 sampleChecks ok⟩

end K11CHaos.Engine.Factory
