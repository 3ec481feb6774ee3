import K11CHaos.Engine.Io

/-!
# Bounded reads

`pipeline.rs` and the checked reads of `workflow.rs`. A range is worked through in blocks of at most
one chunk (`blocks`); the source and hash workers hand these blocks over in order, so a range that is
read through them is the concatenation of its blocks, and its digest the hash of that.

`ReadAll` describes the trace of a complete read, `blocks_tiles` the blocks of a range: they start where
the previous one ends, are not empty, hold at most one chunk and end with the range.
-/

namespace K11CHaos.Engine

open Prog

/-- `pipeline::CHUNK`. -/
def chunk : Nat := 1024 * 1024

/-- Offset and length of the blocks from an offset on. -/
def blocks (size total offset : Nat) : List (Nat × Nat) :=
  if _ : 0 < size ∧ offset < total then
    let n := min (total - offset) size
    (offset, n) :: blocks size total (offset + n)
  else
    []
termination_by total - offset

/-- `require_full_read`: the capability byte must show `Read LBA`. -/
def requireFullRead : Eng String := do
  let caps : Vector UInt8 8 ← ask .capability
  check (deny (caps[0] &&& 8 = 0) "LOADER_READ_RESTRICTED"
    ("Read LBA On is disabled. Power-cycle into MASKROM and prepare with this Installer; " ++
      "no storage operation was started"))
  return String.ofList (hexChars caps.toList)

/-- `require_gpt_bytes`: a block of nothing but `0xCC` is the vendor's read denial. -/
def requireGptBytes (b : Bytes) : Result Unit :=
  deny (b ≠ [] ∧ ∀ x ∈ b, x = 0xcc) "USB_READ_UNTRUSTED"
    ("GPT read contains only the vendor 0xCC sentinel; actual disk contents are not " ++
      "established")

/-- `workflow::read_exact`. -/
def readExact (lba : UInt32) (len : Nat) : Eng Bytes := do
  let r : UInt32 × { b : Bytes // b.length = len } ← ask (.read lba len)
  check (deny (r.1.toNat ≠ len) "SHORT_READ" s!"LBA {lba}: {r.1}/{len} bytes")
  return r.2.1

/-- Read blocks of a range in order. -/
def readBlocks (lba : UInt32) : List (Nat × Nat) → Eng Bytes
  | [] => pure []
  | (offset, len) :: bs => do
    let b ← readExact (lba + UInt32.ofNat (offset / 512)) len
    let rest ← readBlocks lba bs
    return b ++ rest

/-- `pipeline::read_digest`. -/
def readDigest (lba : UInt32) (total : Nat) : Eng String := do
  let b ← readBlocks lba (blocks chunk total 0)
  return hashBytes b

/-- Blocks that follow each other from an offset to the end of a range. -/
inductive Tiles (size : Nat) : Nat → Nat → List (Nat × Nat) → Prop where
  | nil {total} :
    Tiles size total total []
  | cons {offset n total bs} :
    0 < n →
    n ≤ size →
    Tiles size (offset + n) total bs →
    Tiles size offset total ((offset, n) :: bs)

/-- The blocks of a range tile it. -/
lemma blocks_tiles {size total offset : Nat} (pos : 0 < size) (le : offset ≤ total) :
    Tiles size offset total (blocks size total offset) := by
  induction h : total - offset using Nat.strongRecOn generalizing offset with
  | _ k ih =>
    rw [blocks]
    split_ifs with hlt
    · refine .cons (by omega) (by omega) (ih (total - (offset + min (total - offset) size))
        (by omega) (by omega) rfl)
    · obtain rfl : offset = total := by omega
      exact .nil

/-- Blocks go forward. -/
lemma Tiles.le {size offset total bs} (h : Tiles size offset total bs) : offset ≤ total := by
  induction h with
  | nil => exact Nat.le_refl _
  | cons _ _ _ ih => omega

/-- No block is larger than a chunk. -/
lemma Tiles.size_le {size offset total bs} (h : Tiles size offset total bs) :
    ∀ b ∈ bs, b.2 ≤ size := by
  induction h with
  | nil => nofun
  | cons _ le _ ih =>
    intro b hb
    obtain rfl | hb := List.mem_cons.mp hb
    · exact le
    · exact ih b hb

/-- The blocks of a range are aligned when the range and the chunk are. -/
lemma blocks_aligned {size total offset : Nat}
    (ds : 512 ∣ size) (dt : 512 ∣ total) (d : 512 ∣ offset) :
    ∀ b ∈ blocks size total offset, 512 ∣ b.1 ∧ 512 ∣ b.2 := by
  induction h : total - offset using Nat.strongRecOn generalizing offset with
  | _ k ih =>
    rw [blocks]
    split_ifs with hlt
    · have dn : 512 ∣ min (total - offset) size := by
        obtain e | e := Nat.le_total (total - offset) size
        · rw [Nat.min_eq_left e]
          exact Nat.dvd_sub dt d
        · rw [Nat.min_eq_right e]
          exact ds
      intro b hb
      obtain rfl | hb := List.mem_cons.mp hb
      · exact ⟨d, dn⟩
      · exact ih (total - (offset + min (total - offset) size)) (by omega)
          (Nat.dvd_add d dn) rfl b hb
    · nofun

/-- The chunks of a range tile it. -/
lemma chunk_tiles {total : Nat} : Tiles chunk 0 total (blocks chunk total 0) :=
  blocks_tiles (by decide) (Nat.zero_le total)

/-- The chunks of a range of whole sectors start and end at sectors. -/
lemma chunk_aligned {total : Nat} (al : 512 ∣ total) :
    ∀ b ∈ blocks chunk total 0, 512 ∣ b.1 ∧ 512 ∣ b.2 :=
  blocks_aligned ⟨2048, rfl⟩ al (Nat.dvd_zero 512)

/-- The trace of a complete read of blocks, with the bytes that were read. -/
inductive ReadAll (lba : UInt32) : List (Nat × Nat) → List Ev → Bytes → Prop where
  | nil :
    ReadAll lba [] [] []
  | cons {offset len bs t b n} {buf : { b : Bytes // b.length = len }} :
    UInt32.toNat n = len →
    ReadAll lba bs t b →
    ReadAll lba ((offset, len) :: bs)
      (⟨.read (lba + UInt32.ofNat (offset / 512)) len, .ok (n, buf)⟩ :: t) (buf.1 ++ b)

/-- A read that succeeds has read everything. -/
lemma runs_readExact_ok {lba len t b} (h : Runs (readExact lba len) t (.ok b)) :
    ∃ (n : UInt32) (buf : { b : Bytes // b.length = len }),
      t = [⟨.read lba len, .ok (n, buf)⟩] ∧ n.toNat = len ∧ b = buf.1 := by
  obtain ⟨r, t1, rfl, h1⟩ := runs_ask_bind_ok.mp h
  obtain ⟨_, hn, h2⟩ := runs_check_bind_ok.mp h1
  obtain ⟨rfl, e⟩ := runs_pure.mp h2
  cases e
  exact ⟨r.1, r.2, rfl, by simpa using hn, rfl⟩

/-- The trace of `readBlocks` when it ends with bytes. -/
lemma runs_readBlocks_ok {lba bs t b} (h : Runs (readBlocks lba bs) t (.ok b)) :
    ReadAll lba bs t b := by
  induction bs generalizing t b with
  | nil =>
    obtain ⟨rfl, e⟩ := runs_pure.mp h
    cases e
    exact .nil
  | cons x bs ih =>
    obtain ⟨t1, b1, t2, h1, h2, rfl⟩ := runs_bind_ok.mp h
    obtain ⟨t3, b2, t4, h3, h4, rfl⟩ := runs_bind_ok.mp h2
    obtain ⟨n, buf, rfl, hn, rfl⟩ := runs_readExact_ok h1
    obtain ⟨rfl, e⟩ := runs_pure.mp h4
    cases e
    rw [List.append_nil]
    exact .cons hn (ih h3)

/-- The trace of `readDigest` when it ends with a digest. -/
lemma runs_readDigest_ok {lba total t s} (h : Runs (readDigest lba total) t (.ok s)) :
    ∃ b, ReadAll lba (blocks chunk total 0) t b ∧ s = hashBytes b := by
  obtain ⟨t1, b, t2, h1, h2, rfl⟩ := runs_bind_ok.mp h
  obtain ⟨rfl, e⟩ := runs_pure.mp h2
  cases e
  rw [List.append_nil]
  exact ⟨b, runs_readBlocks_ok h1, rfl⟩

/-- All blocks together have the length of the stretch. -/
lemma ReadAll.length {lba bs t b size offset total} (h : ReadAll lba bs t b)
    (tl : Tiles size offset total bs) : b.length = total - offset := by
  induction h generalizing offset with
  | nil => cases tl; simp
  | @cons _ _ _ _ _ _ buf _ _ ih =>
    cases tl with
    | cons _ _ tl =>
      have le := tl.le
      rw [List.length_append, ih tl, buf.2]
      omega

/-- Questions that leave the device and the files as they are. -/
def Op.Observes : Op → Prop
  | identity | capability | read _ _ | gate | sources | reader | stream _ | stamp | present _
  | load _ => True
  | _ => False

/-- Asking what the loader reads changes nothing. -/
lemma requireFullRead_observes : requireFullRead.Only Op.Observes :=
  .bind (only_ask.mpr trivial) fun _ => .bind only_check fun _ => only_pure

/-- One read changes nothing. -/
lemma readExact_observes {lba len} : (readExact lba len).Only Op.Observes :=
  .bind (only_ask.mpr trivial) fun _ => .bind only_check fun _ => only_pure

/-- Reading blocks changes nothing. -/
lemma readBlocks_observes {lba bs} : (readBlocks lba bs).Only Op.Observes := by
  induction bs with
  | nil => exact only_pure
  | cons x bs ih => exact .bind readExact_observes fun _ => .bind ih fun _ => only_pure

/-- Hashing a stretch changes nothing. -/
lemma readDigest_observes {lba total} : (readDigest lba total).Only Op.Observes :=
  .bind readBlocks_observes fun _ => only_pure

end K11CHaos.Engine
