import K11CHaos.Engine.Failure
import K11CHaos.Lib.Bytes

/-!
# GPT pairs

`installer/engine/src/gpt.rs`: the check of a captured pair (34 primary and 33 tail sectors), the
K11C layout on top of it, and the three functions that write a new pair (`relocated`, `resized`,
`repaired`). Numbers in headers and entries are read as natural numbers and written modulo the width
of their field, which is what the wrapping additions of the source come to.
-/

namespace K11CHaos.Engine.Gpt

/-- `u32at`. -/
def u32at (b : Bytes) (o : Nat) : Nat :=
  fromLe (slice b o 4)

/-- `u64at`. -/
def u64at (b : Bytes) (o : Nat) : Nat :=
  fromLe (slice b o 8)

/-- One byte of `crc`. -/
def crcByte (c : UInt32) (x : UInt8) : UInt32 :=
  (List.range 8).foldl
    (fun c _ => (c >>> 1) ^^^ (if c &&& 1 ≠ 0 then 0xedb88320 else 0)) (c ^^^ x.toUInt32)

/-- `crc`. -/
def crc (b : Bytes) : Nat :=
  (~~~ b.foldl crcByte (~~~ 0)).toNat

/-- `b"EFI PART"`. -/
def efiPart : Bytes :=
  [0x45, 0x46, 0x49, 0x20, 0x50, 0x41, 0x52, 0x54]

/-- `put32`. -/
def put32 (b : Bytes) (o n : Nat) : Bytes :=
  put b o (toLe 4 n)

/-- `put64`. -/
def put64 (b : Bytes) (o n : Nat) : Bytes :=
  put b o (toLe 8 n)

/-- `header`. -/
def header (h : Bytes) (current other entries : Nat) : Bool :=
  if h.length ≠ 512 ∨ slice h 0 8 ≠ efiPart then
    false
  else
    let size := u32at h 12
    if ¬ (92 ≤ size ∧ size ≤ 512) then
      false
    else
      let bytes := put (h.take size) 16 (zeros 4)
      crc bytes == u32at h 16 && u32at h 8 == 0x10000 && u32at h 20 == 0 &&
        u64at h 24 == current && u64at h 32 == other && u64at h 72 == entries &&
        u32at h 80 == 128 && u32at h 84 == 128

/-- `seal`. -/
def sealHeader (h : Bytes) : Bytes :=
  let h := put32 h 16 0
  let size := u32at h 12
  put32 h 16 (crc (h.take size))

/-- `chunks_exact(128)`: the partition entries. -/
def entries (x : Bytes) : List Bytes :=
  (List.range (x.length / 128)).map fun i => slice x (128 * i) 128

/-- An entry whose type GUID is not zero. -/
def inUse (e : Bytes) : Bool :=
  (slice e 0 16).any (· != 0)

/-- Spans in rising order, as `sort_unstable` leaves pairs. -/
def sortSpans (l : List (Nat × Nat)) : List (Nat × Nat) :=
  l.mergeSort fun a b => decide (a.1 < b.1 ∨ a.1 = b.1 ∧ a.2 ≤ b.2)

/-- `windows(2)`. -/
def windows2 {α : Type} (l : List α) : List (α × α) :=
  l.zip l.tail

/-- First and last sector of the entries in use. -/
def spans (x : Bytes) : List (Nat × Nat) :=
  ((entries x).filter inUse).map fun e => (u64at e 32, u64at e 40)

/-- Two inclusive spans meet. -/
def overlap (l : List (Nat × Nat)) : Bool :=
  (windows2 (sortSpans l)).any fun r => decide (r.1.2 ≥ r.2.1)

/-- What `check` reports: the issues and the number of partitions. -/
structure Report where
  issues : List String
  partitions : Nat
deriving DecidableEq, Repr

/-- `["healthy"]` of a report. -/
def Report.healthy (r : Report) : Bool :=
  r.issues.isEmpty

/-- An issue that is reported when a test fails. -/
def issue (bad : Bool) (name : String) : List String :=
  if bad then [name] else []

/-- `check`. -/
def check (primary tail : Bytes) (sectors : UInt32) : Report :=
  if primary.length ≠ 34 * 512 ∨ tail.length ≠ 33 * 512 ∨ sectors ≤ 34849 then
    ⟨["capture_size"], 0⟩
  else
    let a := slice primary 512 512
    let b := tail.drop (32 * 512)
    let x := primary.drop 1024
    let y := tail.take (32 * 512)
    let last := sectors.toNat - 1
    let first := u64at a 40
    let usable := u64at a 48
    ⟨issue (!header a 1 last 2) "primary_header" ++
      issue (!header b last 1 (last - 32)) "backup_header" ++
      issue (crc x != u32at a 88 || crc y != u32at b 88) "entries_crc" ++
      issue (x != y || slice a 56 16 != slice b 56 16 || slice a 40 16 != slice b 40 16)
        "copies_differ" ++
      issue (slice primary 510 2 != [0x55, 0xaa] || primary[450]? != some 0xee)
        "protective_mbr" ++
      issue (decide (first < 34 ∨ usable ≥ last - 32 ∨ first > usable)) "usable_bounds" ++
      (spans x).flatMap (fun r =>
        issue (decide (r.1 < first ∨ r.2 > usable ∨ r.1 > r.2)) "partition_bounds") ++
      issue (overlap (spans x)) "partition_overlap",
      (spans x).length⟩

/-- The UTF-16 units of the name of an entry, up to the first zero. -/
def nameUnits (e : Bytes) : List Nat :=
  ((List.range 36).map fun i => fromLe (slice e (56 + 2 * i) 2)).takeWhile (· ≠ 0)

/-- `char::decode_utf16`: `none` for an unpaired surrogate. -/
def decodeUtf16 : List Nat → List (Option Char)
  | [] => []
  | u :: l :: us =>
    if u < 0xd800 ∨ 0xdfff < u then
      some (Char.ofNat u) :: decodeUtf16 (l :: us)
    else if u < 0xdc00 ∧ 0xdc00 ≤ l ∧ l ≤ 0xdfff then
      some (Char.ofNat (0x10000 + (u - 0xd800) * 0x400 + (l - 0xdc00))) :: decodeUtf16 us
    else
      none :: decodeUtf16 (l :: us)
  | [u] => if u < 0xd800 ∨ 0xdfff < u then [some (Char.ofNat u)] else [none]

/-- `String::from_utf16(..).ok()`. -/
def fromUtf16 (us : List Nat) : Option String :=
  ((decodeUtf16 us).mapM id).map String.ofList

/-- `String::from_utf16_lossy`. -/
def fromUtf16Lossy (us : List Nat) : String :=
  String.ofList ((decodeUtf16 us).map fun c => c.getD (Char.ofNat 0xfffd))

/-- The partition names of HAOS, in order. -/
def labels : List String :=
  ["hassos-boot", "hassos-kernel0", "hassos-system0", "hassos-kernel1", "hassos-system1",
    "hassos-bootstate", "hassos-overlay", "hassos-data"]

/-- The loop of `require_k11c` over the entries, from index `i` on. -/
def requireEntries : Nat → List Bytes → Result Unit
  | _, [] => .ok ()
  | i, e :: es =>
    match labels[i]? with
    | none =>
      if e.any (· != 0) then .error (fail "GPT_LAYOUT" "Unexpected additional partition")
      else requireEntries (i + 1) es
    | some label =>
      if fromUtf16 (nameUnits e) ≠ some label ∨ u64at e 32 < 34816 then
        .error (fail "GPT_LAYOUT" "K11C reserved boot region or HAOS partitions missing")
      else requireEntries (i + 1) es

/-- `require_k11c`. -/
def requireK11c (primary tail : Bytes) (sectors : UInt32) : Result Unit := do
  deny (¬ (check primary tail sectors).healthy) "GPT_INVALID" "A healthy GPT pair is required"
  requireEntries 0 (entries (primary.drop 1024))
  deny (u64at primary (1024 + 32) ≠ 34816) "GPT_LAYOUT"
    "Expected K11C first partition at LBA 34816"

/-- The backup copy of a primary: its entries, then its header with the fields of the last sector. -/
def backupOf (a : Bytes) (last : Nat) : Bytes :=
  let h := slice a 512 512
  let h := put64 h 24 last
  let h := put64 h 32 1
  let h := put64 h 72 (last - 32)
  a.drop 1024 ++ sealHeader h

/-- An entry in use moved by the 32768 sectors of the K11C boot region. -/
def moveEntry (e : Bytes) : Bytes :=
  if inUse e then
    let e := put64 e 32 (u64at e 32 + 32768)
    put64 e 40 (u64at e 40 + 32768)
  else
    e

/-- The new primary of `relocated`. -/
def relocatedPrimary (primary : Bytes) (target : UInt32) : Bytes :=
  let a := primary.take 1024 ++ (entries (primary.drop 1024)).flatMap moveEntry
  let a := put32 a 458 (target.toNat - 1)
  let h := slice a 512 512
  let h := put64 h 32 (target.toNat - 1)
  let h := put64 h 48 (target.toNat - 34)
  let h := put32 h 88 (crc (a.drop 1024))
  put a 512 (sealHeader h)

/-- `relocated`. -/
def relocated (primary tail : Bytes) (source target : UInt32) : Result (Bytes × Bytes) := do
  deny (¬ (check primary tail source).healthy) "IMAGE_GPT" "Invalid source GPT"
  deny (u64at primary (1024 + 32) ≠ 2048) "IMAGE_LAYOUT"
    "Use an unmodified official image (first partition LBA 2048)"
  deny (u32at primary 454 ≠ 1 ∨ u32at primary 458 ≠ source.toNat - 1 ∨
      (slice primary 462 48).any (· != 0)) "IMAGE_GPT" "Unsupported protective MBR"
  deny (target.toNat < min (source.toNat + 32768) (2 ^ 32 - 1)) "CAPACITY"
    "Image does not fit the selected eMMC"
  let a := relocatedPrimary primary target
  let b := backupOf a (target.toNat - 1)
  requireK11c a b target
  return (a, b)

/-- The new primary of `resized`. -/
def resizedPrimary (primary : Bytes) (target : UInt32) : Bytes :=
  let a := put32 primary 458 (target.toNat - 1)
  let h := slice a 512 512
  let h := put64 h 32 (target.toNat - 1)
  let h := put64 h 48 (target.toNat - 34)
  put a 512 (sealHeader h)

/-- `resized`. -/
def resized (primary tail : Bytes) (source target : UInt32) : Result (Bytes × Bytes) := do
  deny (target < source ∨ ¬ (check primary tail source).healthy) "FACTORY_FORMAT"
    "Invalid full disk GPT or insufficient capacity"
  let a := resizedPrimary primary target
  let b := backupOf a (target.toNat - 1)
  deny (¬ (check a b target).healthy) "FACTORY_FORMAT" "Invalid resized manufacturer GPT"
  return (a, b)

/-- The closure `valid` of `repaired`: one copy is sound on its own. -/
def validCopy (last : Nat) (h x : Bytes) (current other at' : Nat) : Bool :=
  if !header h current other at' || crc x != u32at h 88 then
    false
  else
    let first := u64at h 40
    let usable := u64at h 48
    if first < 34 ∨ usable > last - 33 ∨ first > usable then
      false
    else
      (spans x).all (fun r => decide (¬ (r.1 < first ∨ r.2 > usable ∨ r.1 > r.2))) &&
        !overlap (spans x)

/-- The primary rebuilt from a tail in `repaired`. -/
def primaryOf (primary tail : Bytes) (last : Nat) : Bytes :=
  let h := tail.drop 16384
  let h := put64 h 24 1
  let h := put64 h 32 last
  let h := put64 h 72 2
  primary.take 512 ++ sealHeader h ++ tail.take 16384

/-- `repaired`. -/
def repaired (primary tail : Bytes) (sectors : UInt32) : Result (Bytes × Bytes) := do
  deny (primary.length ≠ 34 * 512 ∨ tail.length ≠ 33 * 512 ∨ sectors ≤ 34849) "GPT_INVALID"
    "Invalid GPT capture"
  let last := sectors.toNat - 1
  let a := slice primary 512 512
  let b := tail.drop 16384
  let av := validCopy last a (primary.drop 1024) 1 last 2
  let bv := validCopy last b (tail.take 16384) last 1 (last - 32)
  deny (¬ av ∧ ¬ bv) "GPT_NO_VALID_COPY" "Neither GPT copy is valid"
  deny (av ∧ bv ∧ (primary.drop 1024 ≠ tail.take 16384 ∨ slice a 40 16 ≠ slice b 40 16))
    "GPT_AMBIGUOUS" "Valid copies disagree on partition layout"
  let p := if av then primary else primaryOf primary tail last
  let t := if av then backupOf primary last else tail
  requireK11c p t sectors
  return (p, t)

end K11CHaos.Engine.Gpt
