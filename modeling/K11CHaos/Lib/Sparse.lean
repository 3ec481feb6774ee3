import K11CHaos.Lib.Bytes
import Mathlib.Data.List.Basic

/-!
# Android sparse images

A sparse image is a file header and then chunks, each a chunk header and a payload. A chunk stands for
the bytes of its payload, for a repeated value of four bytes, for bytes that nothing is said about, or
for none (a checksum). `Image` says which chunks a byte string is made of, and `expand` what it stands
for; the chunks are unique (`Image.unique`).
-/

namespace K11CHaos.Sparse

/-- The chunks. -/
inductive Chunk where
  | raw (data : Bytes)
  | fill (value : Bytes) (times : Nat)
  | dontCare (length : Nat)
  | checksum (sum : Bytes)

/-- What a chunk stands for; `none` is a byte that does not matter. -/
def Chunk.expand : Chunk → List (Option UInt8)
  | .raw data => data.map some
  | .fill value times => (List.replicate times (value.map some)).flatten
  | .dontCare length => List.replicate length none
  | .checksum _ => []

/-- `chunk_type`. -/
def Chunk.kind : Chunk → Nat
  | .raw _ => 0xcac1
  | .fill _ _ => 0xcac2
  | .dontCare _ => 0xcac3
  | .checksum _ => 0xcac4

/-- What follows the header of a chunk. -/
def Chunk.payload : Chunk → Bytes
  | .raw data => data
  | .fill value _ => value
  | .dontCare _ => []
  | .checksum sum => sum

/-- The value of a fill and a checksum have four bytes. -/
def Chunk.Sized : Chunk → Prop
  | .fill value _ => value.length = 4
  | .checksum sum => sum.length = 4
  | _ => True

/-- A byte string is the encoding of a chunk: `chunk_type`, `chunk_sz` in blocks, `total_sz`. -/
structure Encodes (chunkHeader block : Nat) (c : Chunk) (b : Bytes) : Prop where
  sized : c.Sized
  header : chunkHeader ≤ b.length
  kind : fromLe (slice b 0 2) = c.kind
  blocks : fromLe (slice b 4 4) * block = c.expand.length
  total : fromLe (slice b 8 4) = b.length
  payload : b.drop chunkHeader = c.payload

/-- `file_hdr_sz`. -/
def fileHeader (b : Bytes) : Nat :=
  fromLe (slice b 8 2)

/-- `chunk_hdr_sz`. -/
def chunkHeader (b : Bytes) : Nat :=
  fromLe (slice b 10 2)

/-- `blk_sz`. -/
def block (b : Bytes) : Nat :=
  fromLe (slice b 12 4)

/-- `total_blks`. -/
def totalBlocks (b : Bytes) : Nat :=
  fromLe (slice b 16 4)

/-- `total_chunks`. -/
def totalChunks (b : Bytes) : Nat :=
  fromLe (slice b 20 4)

/-- The length of the expansion. -/
def extent (b : Bytes) : Nat :=
  totalBlocks b * block b

/-- The bytes that chunks stand for. -/
def expand (chunks : List Chunk) : List (Option UInt8) :=
  chunks.flatMap Chunk.expand

/-- A byte string is a sparse image of these chunks: the headers and payloads use it up. -/
structure Image (b : Bytes) (chunks : List Chunk) : Prop where
  magic : slice b 0 4 = [0x3a, 0xff, 0x26, 0xed]
  version : fromLe (slice b 4 2) = 1
  header : 28 ≤ fileHeader b ∧ fileHeader b ≤ b.length
  chunkHeader : 12 ≤ chunkHeader b
  encoded : ∃ codes, List.Forall₂ (Encodes (Sparse.chunkHeader b) (block b)) chunks codes ∧
    b.drop (fileHeader b) = codes.flatten
  count : chunks.length = totalChunks b
  total : (expand chunks).length = extent b

/-- A filled chunk expands to its value so often. -/
lemma length_fill {value : Bytes} {times : Nat} (sized : value.length = 4) :
    (Chunk.fill value times).expand.length = times * 4 := by
  rw [Chunk.expand, List.length_flatten, List.map_replicate, List.length_map, sized,
    List.sum_replicate_nat]

/-- A chunk is read back from its encoding. -/
lemma Encodes.unique {h n : Nat} {c d : Chunk} {b : Bytes} (hc : Encodes h n c b)
    (hd : Encodes h n d b) : c = d := by
  have kind := hc.kind.symm.trans hd.kind
  have blocks := hc.blocks.symm.trans hd.blocks
  have payload := hc.payload.symm.trans hd.payload
  cases c with
  | raw data =>
    cases d with
    | raw data' => exact congrArg Chunk.raw payload
    | fill | dontCare | checksum => cases kind
  | fill value times =>
    cases d with
    | fill value' times' =>
      obtain rfl : value = value' := payload
      have sized : value.length = 4 := hc.sized
      rw [length_fill sized, length_fill sized] at blocks
      rw [Nat.eq_of_mul_eq_mul_right (by decide) blocks]
    | raw | dontCare | checksum => cases kind
  | dontCare length =>
    cases d with
    | dontCare length' =>
      simp only [Chunk.expand, List.length_replicate] at blocks
      rw [blocks]
    | raw | fill | checksum => cases kind
  | checksum sum =>
    cases d with
    | checksum sum' => exact congrArg Chunk.checksum payload
    | raw | fill | dontCare => cases kind

/-- Where the first encoding ends is in its header. -/
lemma Encodes.cut {h n : Nat} {c d : Chunk} {a a' s s' : Bytes} (big : 12 ≤ h)
    (ha : Encodes h n c a) (ha' : Encodes h n d a') (e : a ++ s = a' ++ s') : a = a' ∧ s = s' := by
  have front (x : Bytes) {y : Bytes} (long : h ≤ x.length) : slice (x ++ y) 8 4 = slice x 8 4 :=
    slice_append_left (by omega)
  have len : a.length = a'.length := by
    rw [← ha.total, ← ha'.total, ← front a ha.header, e, front a' ha'.header]
  exact List.append_inj e len

/-- All chunks of a file are known by their bytes. -/
lemma Encodes.unique_all {h n : Nat} {cs ds : List Chunk} {codes codes' : List Bytes}
    (big : 12 ≤ h) (hc : List.Forall₂ (Encodes h n) cs codes)
    (hd : List.Forall₂ (Encodes h n) ds codes') (e : codes.flatten = codes'.flatten)
    (len : cs.length = ds.length) : cs = ds := by
  induction hc generalizing ds codes' with
  | nil => exact (List.eq_nil_of_length_eq_zero len.symm).symm
  | cons first rest ih =>
    cases hd with
    | nil => cases len
    | cons first' rest' =>
      simp only [List.flatten_cons] at e
      obtain ⟨rfl, e'⟩ := first.cut big first' e
      rw [first.unique first', ih rest' e' (Nat.succ.inj len)]

/-- A byte string is the sparse image of one list of chunks at most. -/
theorem Image.unique {b : Bytes} {cs ds : List Chunk} (hc : Image b cs) (hd : Image b ds) :
    cs = ds := by
  obtain ⟨codes, all, e⟩ := hc.encoded
  obtain ⟨codes', all', e'⟩ := hd.encoded
  exact Encodes.unique_all hc.chunkHeader all all' (e.symm.trans e')
    (hc.count.trans hd.count.symm)

end K11CHaos.Sparse
