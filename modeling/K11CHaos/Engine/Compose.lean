import K11CHaos.Engine.PartitionView
import K11CHaos.Engine.Rewrite
import K11CHaos.Lib.Hoare

/-!
# Composed installation images

`components::compose` with the parts of `images.rs` that it calls: the hash of a file, the copy of a
stream, the inspection and the publication of the result. A stream may be read in pieces of any size
(`Step`), so both loops are proved for every way in which the reads split it.

The image is made of four pieces: the new primary copy, the official system up to the data partition,
the data file and the new backup (`assembled_composed`). A file that is already there under the same name
is taken for the new one by its length and its SHA-256 (`Published`).
-/

namespace K11CHaos.Engine.Compose

open Prog

/-- The files: the official image, the prepared data, the temporary file and the published images. -/
inductive Handle where
  | raw
  | data
  | temp
  | installed (hash : String)
deriving DecidableEq, Repr

/-- What `compose` asks of the outside. A reader is opened at an offset, perhaps with a limit, and then
    read piece by piece. -/
inductive Op where
  | cancelled
  | length (f : Handle)
  | contents (f : Handle)
  | exact (f : Handle) (offset count : Nat)
  | stream (f : Handle) (offset : Nat) (take : Option Nat)
  | read (count : Nat)
  | create
  | write (b : Bytes)
  | sync
  | exists' (hash : String)
  | remove (hash : String)
  | rename (hash : String)
  | discard
deriving DecidableEq, Repr

/-- What an operation gives back if it does not fail. -/
abbrev Value : Op → Type
  | .cancelled | .exists' _ => Bool
  | .length _ => Nat
  | .contents _ | .exact _ _ _ | .read _ => Bytes
  | _ => Unit

/-- The answers. An error has the code that its caller gives it. -/
abbrev Ans (o : Op) : Type := Except Failure (Value o)

abbrev M := Prog Op Ans Failure

/-- An operation, whose error ends the function. -/
def op (o : Op) : M (Value o) := call o

/-- A check of what was read. -/
def lift {α : Type} (r : Result α) : M α := Prog.ofExcept r

/-- `CHUNK`. -/
def chunk : Nat := 256 * 1024

/-- `Job::check`. -/
def checkJob : M Unit := do
  if ← op .cancelled then
    throw (fail "IMAGE_CANCELLED" "Image operation cancelled")

/-- The loop of `file_hash`, with the bytes that were hashed. -/
def hashLoop (seen : Bytes) : M Bytes := do
  checkJob
  let b : Bytes ← op (.read chunk)
  if _ : b = [] then
    return seen
  else if _ : Images.maxImage < seen.length + b.length then
    throw (fail "IMAGE_SIZE" "Image exceeds 32 GiB")
  else
    hashLoop (seen ++ b)
termination_by Images.maxImage - seen.length
decreasing_by
  have := List.length_pos_iff.mpr ‹¬ b = []›
  rw [List.length_append]
  omega

/-- `open_regular` and the length of the file. -/
def openRegular (f : Handle) : M Nat := do
  let total : Nat ← op (.length f)
  lift (deny (total = 0 ∨ Images.maxImage < total) "IMAGE_FILE"
    "Expected a nonempty regular image file, at most 32 GiB")
  return total

/-- `file_hash`. -/
def fileHash (f : Handle) : M (Nat × String) := do
  let total ← openRegular f
  op (.stream f 0 none)
  let seen ← hashLoop []
  checkJob
  lift (deny (seen.length ≠ total) "IMAGE_CHANGED" "Image length changed while reading")
  return (seen.length, hashBytes seen)

/-- The loop of `stream_copy`, with the bytes that were copied. -/
def copyLoop (limit : Nat) (expected : Option Nat) (copied : Bytes) : M Bytes := do
  checkJob
  let b : Bytes ← op (.read chunk)
  if _ : b = [] then
    return copied
  else if _ : 2 ^ 64 ≤ copied.length + b.length then
    throw (fail "IMAGE_SIZE" "Size overflow")
  else if limit < copied.length + b.length ∨
      expected.any (· < copied.length + b.length) then
    throw (fail "IMAGE_SIZE" "Image exceeds expected size")
  else
    op (.write b)
    copyLoop limit expected (copied ++ b)
termination_by 2 ^ 64 - copied.length
decreasing_by
  have := List.length_pos_iff.mpr ‹¬ b = []›
  rw [List.length_append]
  omega

/-- `stream_copy`. -/
def streamCopy (limit : Nat) (expected : Option Nat) : M (Nat × String) := do
  let copied ← copyLoop limit expected []
  checkJob
  lift (deny (copied = [] ∨ expected.any (copied.length ≠ ·)) "IMAGE_SIZE"
    "Incomplete image transfer")
  op .sync
  return (copied.length, hashBytes copied)

/-- `inspect` of a file. -/
def inspect (X : Crates) (f : Handle) : M Unit := do
  let image : Bytes ← op (.contents f)
  lift (Images.inspect X image)

/-- `publish`. -/
def publish (length : Nat) (hash : String) : M Bool := do
  checkJob
  if ← op (.exists' hash) then
    if (← fileHash (.installed hash)) = (length, hash) then
      return true
    op (.remove hash)
  op (.rename hash)
  return false

/-- The offset of the eighth entry in the first 34 sectors. -/
def dataEntry : Nat := 1024 + 7 * 128

/-- `resize_data_gpt`. The backup is made as for the other layouts. -/
def resizeDataGpt (a : Bytes) (sectors dataBytes : Nat) : Result (Bytes × Bytes) := do
  let start := Gpt.u64at a (dataEntry + 32)
  deny (2 ^ 32 ≤ sectors ∨ sectors ≠ (start + dataBytes / 512 + 33) % 2 ^ 64) "IMAGE_GPT"
    "Invalid factory layout"
  let a := Gpt.put64 a (dataEntry + 40) (sectors - 34)
  let a := Gpt.put32 a 458 (sectors - 1)
  let h := slice a 512 512
  let h := Gpt.put64 h 32 (sectors - 1)
  let h := Gpt.put64 h 48 (sectors - 34)
  let h := Gpt.put32 h 88 (Gpt.crc (a.drop 1024))
  let a := put a 512 (Gpt.sealHeader h)
  let b := Gpt.backupOf a (sectors - 1)
  deny (¬ (Gpt.check a b (UInt32.ofNat sectors)).healthy) "IMAGE_GPT" "Invalid composed GPT"
  return (a, b)

/-- `PreparedImage`. -/
structure PreparedImage where
  path : Handle
  filename : String
  version : Option String
  platform : String
  bytes : Nat
  sha256 : String
  sourceSha256 : String
  verification : String
  partitions : Nat
  reusedDownload : Bool
  reusedImage : Bool
deriving DecidableEq, Repr

/-- The magic number and the label of the data filesystem, in the first bytes of its superblock. -/
def isHassosData (superblock : Bytes) : Bool :=
  slice superblock 56 2 == [0x53, 0xef] &&
    slice superblock 120 11 == "hassos-data".toList.map fun c => UInt8.ofNat c.toNat

/-- `compose` while the temporary file exists. -/
def composeInto (X : Crates) (raw : PreparedImage) (s : Seed) (head tail : Bytes) (start : Nat) :
    M PreparedImage := do
  op (.write head)
  op (.stream .raw head.length (some (start - head.length)))
  let _ ← streamCopy Components.limit (some (start - head.length))
  op (.stream .data 0 none)
  let (_, copied) ← streamCopy Components.limit (some s.dataBytes)
  lift (deny (copied ≠ s.dataSha256) "COMPONENT_HASH" "Data changed during composition")
  op (.write tail)
  op .sync
  inspect X .temp
  let (bytes, hash) ← fileHash .temp
  let reused ← publish bytes hash
  return ⟨.installed hash, raw.filename, some s.haos, raw.platform, bytes, hash, raw.sha256,
    "official_os_factory_data", 8, raw.reusedDownload, reused⟩

/-- `compose`. The temporary file is removed when the function ends. -/
def compose (X : Crates) (raw : PreparedImage) (s : Seed) : M PreparedImage := do
  lift (deny ((← fileHash .raw).2 ≠ s.officialRawSha256) "COMPONENT_HASH"
    "Official image changed")
  inspect X .raw
  let head : Bytes ← op (.exact .raw 0 (34 * 512))
  let start := Gpt.u64at head (dataEntry + 32) * 512 % 2 ^ 64
  let superblock : Bytes ← op (.exact .data 1024 136)
  lift (deny (!isHassosData superblock) "COMPONENT_DATA" "Expected hassos-data ext4 filesystem")
  let sectors := (start + s.dataBytes) % 2 ^ 64 / 512 + 33
  lift (deny (32 * 1024 * 1024 * 1024 < sectors * 512 % 2 ^ 64) "IMAGE_SIZE"
    "Factory image too large")
  let (head, tail) ← lift (resizeDataGpt head sectors s.dataBytes)
  op .create
  let result ← (composeInto X raw s head tail start).attempt
  let _ ← (op .discard).attempt
  lift result

section Gpt

variable {a b : Bytes}

/-- An array whose eighth entry ends elsewhere. -/
def resizedArray (array : Bytes) (last : Nat) : Bytes := Gpt.put64 array (7 * 128 + 40) last

/-- A field behind the start of a window, seen from there. -/
lemma drop_put_inside {b x : Bytes} {o n : Nat} (le : n ≤ o) (fits : o + x.length ≤ b.length) :
    (put b o x).drop n = put (b.drop n) (o - n) x := by
  refine List.ext_getElem? fun i => ?_
  have fits' : o - n + x.length ≤ (b.drop n).length := by
    rw [List.length_drop]
    omega
  rw [List.getElem?_drop, getElem?_put fits, getElem?_put fits', List.getElem?_drop]
  by_cases h1 : n + i < o
  · rw [if_pos h1, if_pos (by omega)]
  · by_cases h2 : n + i < o + x.length
    · rw [if_neg h1, if_pos h2, if_neg (by omega), if_pos (by omega)]
      congr 1
      omega
    · rw [if_neg h1, if_neg h2, if_neg (by omega), if_neg (by omega)]

/-- A later write leaves the front alone. -/
lemma take_put_after {b x : Bytes} {o n : Nat} (le : n ≤ o) (fits : o + x.length ≤ b.length) :
    (put b o x).take n = b.take n := by
  refine List.ext_getElem? fun i => ?_
  rw [List.getElem?_take, List.getElem?_take]
  split_ifs with small
  · rw [getElem?_put fits, if_pos (by omega)]
  · rfl

/-- The old primary copy rewritten around the resized array. -/
def grown (a : Bytes) (sectors : Nat) : Bytes :=
  Gpt.rewritten a
    (Gpt.sealHeader (Gpt.edited (slice a 512 512) (sectors - 1) (sectors - 34)
      (Gpt.crc (resizedArray (a.drop 1024) (sectors - 34)))))
    (resizedArray (a.drop 1024) (sectors - 34)) sectors

/-- The edits of `resize_data_gpt` put together. -/
lemma grown_eq {tail : Bytes} {source sectors : Nat} (k : Gpt.Healthy a tail source) :
    (let a1 := Gpt.put32 (Gpt.put64 a (dataEntry + 40) (sectors - 34)) 458 (sectors - 1)
    put a1 512 (Gpt.sealHeader (Gpt.edited (slice a1 512 512) (sectors - 1) (sectors - 34)
      (Gpt.crc (a1.drop 1024))))) = grown a sectors := by
  have lp := k.sizePrimary
  have len : (slice a 512 512).length = 512 := length_slice (by omega)
  have l1 : (Gpt.put64 a (dataEntry + 40) (sectors - 34)).length = a.length :=
    Gpt.length_put64 (by rw [dataEntry]; omega)
  have window : slice (Gpt.put32 (Gpt.put64 a (dataEntry + 40) (sectors - 34)) 458 (sectors - 1))
      512 512 = slice a 512 512 := by
    rw [Gpt.slice_put32 (by omega) (by omega), Gpt.slice_put64 (by rw [dataEntry]; omega)
      (by rw [dataEntry]; omega)]
  have array : (Gpt.put32 (Gpt.put64 a (dataEntry + 40) (sectors - 34)) 458 (sectors - 1)).drop
      1024 = resizedArray (a.drop 1024) (sectors - 34) := by
    rw [Gpt.put32, Gpt.drop_put (by rw [length_toLe]; omega) (by rw [length_toLe]; decide),
      Gpt.put64, drop_put_inside (by decide) (by rw [length_toLe, dataEntry]; omega)]
    rfl
  have front : (Gpt.put32 (Gpt.put64 a (dataEntry + 40) (sectors - 34)) 458 (sectors - 1)).take
      512 = Gpt.put32 (a.take 512) 458 (sectors - 1) := by
    rw [Gpt.put32, Gpt.take_put (by rw [length_toLe]; decide) (by omega), Gpt.put64,
      take_put_after (by decide) (by rw [length_toLe, dataEntry]; omega)]
    rfl
  dsimp only
  rw [window, array, put, Gpt.length_sealed_edit len k.front.size, front, array, grown,
    Gpt.rewritten]

/-- When `resize_data_gpt` returns a pair, and which. -/
lemma resizeDataGpt_ok {tail : Bytes} {source sectors size : Nat} {pair : Bytes × Bytes}
    (k : Gpt.Healthy a tail source) :
    resizeDataGpt a sectors size = .ok pair ↔
      sectors < 2 ^ 32 ∧ sectors = (Gpt.u64at a (dataEntry + 32) + size / 512 + 33) % 2 ^ 64 ∧
        Gpt.Healthy (grown a sectors) (Gpt.backupOf (grown a sectors) (sectors - 1)) sectors ∧
        pair = (grown a sectors, Gpt.backupOf (grown a sectors) (sectors - 1)) := by
  have edits := @grown_eq a tail source sectors k
  unfold resizeDataGpt
  dsimp only at edits ⊢
  unfold Gpt.edited at edits
  rw [edits]
  simp only [bind_ok, deny_ok, not_or, not_not, Nat.not_le, Gpt.healthy_iff]
  have back (small : sectors < 2 ^ 32) : (UInt32.ofNat sectors).toNat = sectors := by
    rw [UInt32.toNat_ofNat', Nat.mod_eq_of_lt small]
  constructor
  · rintro ⟨_, ⟨small, eq⟩, _, healthy, result⟩
    cases result
    rw [back small] at healthy
    exact ⟨small, eq, healthy, rfl⟩
  · rintro ⟨small, eq, healthy, rfl⟩
    exact ⟨(), ⟨small, eq⟩, (), by rwa [back small], rfl⟩

/-- A primary copy for another data partition: one entry ends elsewhere, and the lengths follow. -/
structure Resized (a a' b : Bytes) (sectors : Nat) : Prop where
  entries : ∀ i < 128, i ≠ 7 → Gpt.entryAt a' i = Gpt.entryAt a i
  eighth : ∀ o l, o + l ≤ 40 ∨ 48 ≤ o → o + l ≤ 128 →
    slice (Gpt.entryAt a' 7) o l = slice (Gpt.entryAt a 7) o l
  last : Gpt.u64at (Gpt.entryAt a' 7) 40 = sectors - 34
  guid : slice a' 568 16 = slice a 568 16
  protective : Gpt.u32at a' 458 = sectors - 1
  mbr : ∀ i < 512, i < 458 ∨ 462 ≤ i → a'[i]? = a[i]?
  healthy : Gpt.Healthy a' b sectors

/-- Growing the data partition is a resize of its source. -/
lemma resizeDataGpt_resized {a' tail : Bytes} {source sectors size : Nat}
    (k : Gpt.Healthy a tail source)
    (done : resizeDataGpt a sectors size = .ok (a', b)) : Resized a a' b sectors := by
  obtain ⟨small, _, healthy, result⟩ := (resizeDataGpt_ok k).mp done
  obtain ⟨form, rfl⟩ := Prod.mk.inj result
  rw [← form] at healthy ⊢
  rw [grown] at form
  have lp := k.sizePrimary
  have len : (slice a 512 512).length = 512 := length_slice (by omega)
  have room : 7 * 128 + 40 + 8 ≤ (a.drop 1024).length := by
    rw [List.length_drop]
    omega
  have lr : (resizedArray (a.drop 1024) (sectors - 34)).length = 16384 := by
    rw [resizedArray, Gpt.length_put64 room, List.length_drop]
    omega
  have lh := @Gpt.length_sealed_edit _ (sectors - 1) (sectors - 34)
    (Gpt.crc (resizedArray (a.drop 1024) (sectors - 34))) len k.front.size
  obtain ⟨_, _, header, array⟩ := @Gpt.rewritten_parts a _ _ sectors (by omega) lh lr
  obtain ⟨protective, mbr⟩ := @Gpt.rewritten_mbr a _ _ sectors (by omega) lh lr small
  rw [← form] at header array protective mbr
  have entry (i : Nat) : Gpt.entryAt a' i =
      slice (resizedArray (a.drop 1024) (sectors - 34)) (128 * i) 128 := by
    rw [Gpt.entryAt, ← array, slice_drop]
  have old (i : Nat) : Gpt.entryAt a i = slice (a.drop 1024) (128 * i) 128 := by
    rw [Gpt.entryAt, slice_drop]
  refine ⟨?_, ?_, ?_, ?_, protective, mbr, healthy⟩
  · intro i _ other
    rw [entry, old, resizedArray, Gpt.slice_put64 room (by omega)]
  · intro o l apart fits
    rw [entry, old, slice_slice fits, slice_slice fits, resizedArray,
      Gpt.slice_put64 room (by omega)]
  · rw [entry, Gpt.u64at, slice_slice (by decide), resizedArray]
    exact Gpt.u64at_put64_same room (by omega)
  · have same := @Gpt.slice_sealed_edit _ (sectors - 1) (sectors - 34)
      (Gpt.crc (resizedArray (a.drop 1024) (sectors - 34))) 56 16 len k.front.size (by decide)
    rw [← header, slice_slice (by decide), slice_slice (by decide)] at same
    exact same

end Gpt

/-- The files, and what the open reader has still to give. The two sources stay as they are: the caller
    holds the official image open against writing, and the data file is its own temporary one, which
    `compose` does not lock and nothing else writes. -/
structure World where
  raw : Bytes
  data : Bytes
  temp : Option Bytes
  installed : String → Option Bytes
  input : Bytes

/-- The contents of a file. -/
def World.file (w : World) : Handle → Option Bytes
  | .raw => some w.raw
  | .data => some w.data
  | .temp => w.temp
  | .installed hash => w.installed hash

/-- What an operation with its answer does. A read gives any first part of what is left, and nothing only
    at the end. -/
def Step (w : World) (e : Prog.Ev Op Ans) (w' : World) : Prop :=
  match e with
  | ⟨.cancelled, _⟩ | ⟨.sync, _⟩ => w' = w
  | ⟨.exists' hash, r⟩ => w' = w ∧ r = .ok (w.installed hash).isSome
  | ⟨.length f, r⟩ => w' = w ∧ ∀ n, r = .ok n → ∃ b, w.file f = some b ∧ n = b.length
  | ⟨.contents f, r⟩ => w' = w ∧ ∀ b, r = .ok b → w.file f = some b
  | ⟨.exact f offset count, r⟩ =>
    w' = w ∧ ∀ b, r = .ok b →
      ∃ c, w.file f = some c ∧ offset + count ≤ c.length ∧ b = slice c offset count
  | ⟨.stream f offset take, r⟩ =>
    match r with
    | .error _ => w' = w
    | .ok _ => ∃ c, w.file f = some c ∧
        w' = { w with input := slice c offset (take.getD c.length) }
  | ⟨.read count, r⟩ =>
    match r with
    | .error _ => ∃ rest, w' = { w with input := rest }
    | .ok b => ∃ rest, w.input = b ++ rest ∧ w' = { w with input := rest } ∧ b.length ≤ count ∧
        (b = [] → rest = [])
  | ⟨.create, r⟩ =>
    match r with
    | .error _ => w' = w
    | .ok _ => w' = { w with temp := some [] }
  | ⟨.write b, r⟩ =>
    match r with
    | .error _ => ∃ x, w' = { w with temp := x }
    | .ok _ => ∃ c, w.temp = some c ∧ w' = { w with temp := some (c ++ b) }
  | ⟨.remove hash, r⟩ =>
    match r with
    | .error _ => w' = w
    | .ok _ => w' = { w with installed := Function.update w.installed hash none }
  | ⟨.rename hash, r⟩ =>
    match r with
    | .error _ => w' = w
    | .ok _ => ∃ c, w.temp = some c ∧
        w' = { w with temp := none, installed := Function.update w.installed hash (some c) }
  | ⟨.discard, _⟩ => ∃ x, w' = { w with temp := x }

/-- What the runs of a function that succeed give. -/
def Gives {α : Type} (m : M α) (w : World) (Q : α → World → Prop) : Prop :=
  Yields Step m w fun _ => Q

section Rules

variable {α β : Type} {w : World}

/-- A result that is known. -/
lemma gives_pure {a : α} {Q : α → World → Prop} (h : Q a w) : Gives (pure a) w Q :=
  yields_pure h

/-- An error promises nothing. -/
lemma gives_throw {e : Failure} {Q : α → World → Prop} : Gives (throw e : M α) w Q :=
  yields_throw

/-- One step after another. -/
lemma Gives.bind {m : M α} {f : α → M β} {P : α → World → Prop} {Q : β → World → Prop}
    (first : Gives m w P)
    (second : ∀ a w', P a w' → Gives (f a) w' Q) : Gives (m >>= f) w Q :=
  Yields.bind first fun _ a w' h => second a w' h

/-- A weaker promise. -/
lemma Gives.mono {m : M α} {P Q : α → World → Prop}
    (h : Gives m w P)
    (weaker : ∀ a w', P a w' → Q a w') : Gives m w Q :=
  Yields.mono h fun _ => weaker

/-- One question. -/
lemma gives_op {o : Op} {Q : Value o → World → Prop}
    (h : ∀ v w', Step w ⟨o, .ok v⟩ w' → Q v w') : Gives (op o) w Q := by
  intro r w' st
  cases r with
  | error e => nofun
  | ok v => exact yields_pure (h v w' st)

/-- One question, and the rest. -/
lemma gives_op_bind {o : Op} {f : Value o → M β} {Q : β → World → Prop}
    (h : ∀ v w', Step w ⟨o, .ok v⟩ w' → Gives (f v) w' Q) : Gives (op o >>= f) w Q :=
  (gives_op h).bind fun _ _ q => q

/-- A result of the library. -/
lemma gives_lift {r : Result α} {Q : α → World → Prop} (h : ∀ a, r = .ok a → Q a w) :
    Gives (lift r) w Q := by
  cases r with
  | error e => exact nofun
  | ok a => exact yields_pure (h a rfl)

/-- A result of the library, and the rest. -/
lemma gives_lift_bind {r : Result α} {f : α → M β} {Q : β → World → Prop}
    (h : ∀ a, r = .ok a → Gives (f a) w Q) : Gives (lift r >>= f) w Q := by
  cases r with
  | error e => exact nofun
  | ok a => exact h a rfl

/-- Checking the job changes nothing. -/
lemma gives_checkJob_bind {f : Unit → M β} {Q : β → World → Prop}
    (h : Gives (f ()) w Q) : Gives (checkJob >>= f) w Q := by
  unfold checkJob
  rw [bind_assoc]
  apply gives_op_bind
  rintro stop w' rfl
  cases (show Bool from stop) with
  | true => exact gives_throw
  | false => exact h

/-- An attempt hands every error on. -/
lemma gives_attempt_bind {m : M α} {P : α → World → Prop} {f : Except Failure α → M β}
    {Q : β → World → Prop}
    (first : Gives m w P)
    (ok : ∀ a w', P a w' → Gives (f (.ok a)) w' Q)
    (error : ∀ e w', Gives (f (.error e)) w' Q) : Gives (m.attempt >>= f) w Q := by
  apply ensures_iff.mpr
  rintro t _ w' run path b rfl
  obtain ⟨t1, r, t2, run1, run2, rfl⟩ := runs_bind_ok.mp run
  obtain ⟨w1, path1, path2⟩ := path.append_inv
  obtain ⟨_, run', same⟩ := runs_attempt.mp run1
  cases same
  cases r with
  | ok a => exact Yields.run (ok a w1 (Yields.run first run' path1)) run2 path2
  | error e => exact Yields.run (error e w1) run2 path2

/-- The removal of the temporary file, whatever comes of it. -/
lemma gives_discard_bind {m : M β} {Q : β → World → Prop}
    (h : ∀ w', w'.installed = w.installed → Gives m w' Q) :
    Gives ((op .discard).attempt >>= fun _ => m) w Q := by
  intro r w' st
  obtain ⟨x, rfl⟩ : ∃ x, w' = { w with temp := x } := st
  cases r with
  | error e => exact h _ rfl
  | ok v => exact h _ rfl

end Rules

/-- The sources and the published images are the same. -/
structure Kept (w w' : World) : Prop where
  raw : w'.raw = w.raw
  data : w'.data = w.data
  installed : w'.installed = w.installed

/-- The same files, with the reader elsewhere. -/
structure Moved (w w' : World) : Prop extends Kept w w' where
  temp : w'.temp = w.temp

section Functions

variable {w : World}

/-- The loop of `file_hash` reads everything, whatever the pieces are. -/
lemma hashLoop_gives {seen : Bytes} :
    Gives (hashLoop seen) w fun b w' => b = seen ++ w.input ∧ Moved w w' := by
  induction h : Images.maxImage - seen.length using Nat.strong_induction_on generalizing seen w with
  | _ n ih =>
    rw [hashLoop]
    apply gives_checkJob_bind
    apply gives_op_bind
    rintro b w1 ⟨rest, input, rfl, _, ends⟩
    split_ifs with empty large
    · apply gives_pure
      rw [input, empty, ends empty]
      exact ⟨(List.append_nil seen).symm, ⟨rfl, rfl, rfl⟩, rfl⟩
    · exact gives_throw
    · have pos := List.length_pos_iff.mpr empty
      have shorter : Images.maxImage - (seen ++ b).length < n := by
        rw [List.length_append]
        omega
      apply (ih _ shorter rfl).mono
      rintro all w2 ⟨rfl, moved⟩
      refine ⟨?_, ⟨moved.raw, moved.data, moved.installed⟩, moved.temp⟩
      rw [input, List.append_assoc]

/-- `file_hash`. -/
lemma fileHash_gives {f : Handle} :
    Gives (fileHash f) w fun r w' =>
      Moved w w' ∧ ∃ b, w.file f = some b ∧ r = (b.length, hashBytes b) := by
  unfold fileHash openRegular
  rw [bind_assoc]
  apply gives_op_bind
  rintro total w1 ⟨rfl, len⟩
  obtain ⟨b, file, rfl⟩ := len total rfl
  rw [bind_assoc]
  apply gives_lift_bind
  intro _ _
  rw [show (pure b.length : M Nat) = .ret b.length from rfl]
  apply gives_op_bind
  rintro _ w2 ⟨c, file', rfl⟩
  cases file.symm.trans file'
  apply hashLoop_gives.bind
  rintro seen w3 ⟨rfl, moved⟩
  apply gives_checkJob_bind
  apply gives_lift_bind
  intro _ _
  apply gives_pure
  have whole : slice b 0 b.length = b := slice_full (Nat.le_refl _)
  exact ⟨⟨⟨moved.raw, moved.data, moved.installed⟩, moved.temp⟩, b, file, by simp [whole]⟩

/-- The loop of `stream_copy` appends everything to the temporary file. -/
lemma copyLoop_gives {limit : Nat} {expected : Option Nat} {copied c : Bytes}
    (temp : w.temp = some c)
    (below : copied.length ≤ limit) :
    Gives (copyLoop limit expected copied) w fun b w' =>
      b = copied ++ w.input ∧ b.length ≤ limit ∧ Kept w w' ∧
        w'.temp = some (c ++ w.input) := by
  induction h : 2 ^ 64 - copied.length using Nat.strong_induction_on
    generalizing copied c w with
  | _ n ih =>
    rw [copyLoop]
    apply gives_checkJob_bind
    apply gives_op_bind
    rintro b w1 ⟨rest, input, rfl, _, ends⟩
    -- an empty read is the end of the stream; the two throws are the overflow and the limit
    split_ifs with empty wide large
    · apply gives_pure
      rw [input, empty, ends empty]
      refine ⟨(List.append_nil copied).symm, below, ⟨rfl, rfl, rfl⟩, ?_⟩
      exact temp.trans (congrArg some (List.append_nil c).symm)
    · exact gives_throw
    · exact gives_throw
    · apply gives_op_bind
      rintro _ w2 ⟨c', temp', rfl⟩
      cases temp.symm.trans temp'
      have pos := List.length_pos_iff.mpr empty
      have shorter : 2 ^ 64 - (copied ++ b).length < n := by
        rw [List.length_append]
        omega
      have below' : (copied ++ b).length ≤ limit := by
        rw [List.length_append]
        exact Nat.le_of_not_lt fun more => large (.inl more)
      apply Gives.mono (ih _ shorter rfl below' rfl)
      rintro all w3 ⟨rfl, less, kept, grown⟩
      refine ⟨?_, less, ⟨kept.raw, kept.data, kept.installed⟩, grown.trans ?_⟩
      · rw [input, List.append_assoc]
      · rw [input, List.append_assoc]

/-- `stream_copy`. -/
lemma streamCopy_gives {limit : Nat} {expected : Option Nat} {c : Bytes}
    (temp : w.temp = some c) :
    Gives (streamCopy limit expected) w fun r w' =>
      r = (w.input.length, hashBytes w.input) ∧ w.input.length ≤ limit ∧
        (∀ n, expected = some n → w.input.length = n) ∧ Kept w w' ∧
        w'.temp = some (c ++ w.input) := by
  unfold streamCopy
  apply (copyLoop_gives temp (Nat.zero_le _)).bind
  rintro copied w1 ⟨rfl, less, kept, grown⟩
  apply gives_checkJob_bind
  apply gives_lift_bind
  intro _ whole
  rw [deny_ok, not_or] at whole
  apply gives_op_bind
  rintro _ w2 rfl
  apply gives_pure
  refine ⟨rfl, less, ?_, kept, grown⟩
  rintro n rfl
  simpa using whole.2

/-- `inspect`. -/
lemma inspect_gives {X : Crates} {f : Handle} :
    Gives (inspect X f) w fun _ w' =>
      w' = w ∧ ∃ b, w.file f = some b ∧ Images.inspect X b = .ok () := by
  unfold inspect
  apply gives_op_bind
  rintro b w1 ⟨rfl, read⟩
  have file := read b rfl
  apply gives_lift
  intro _ sound
  exact ⟨rfl, b, file, sound⟩

/-- The end of `publish`. -/
lemma rename_gives {out : Bytes} {hash : String} (temp : w.temp = some out) :
    Gives (do op (.rename hash); return false) w fun reused w' =>
      reused = false ∧ w'.installed hash = some out := by
  apply gives_op_bind
  rintro _ w1 ⟨c, temp', rfl⟩
  cases temp.symm.trans temp'
  apply gives_pure
  exact ⟨rfl, Function.update_self ..⟩

/-- What is published: the file under the name is the image, or it was there and has its length and
    hash. -/
def Published (w w' : World) (out : Bytes) (reused : Bool) : Prop :=
  ∃ stored, w'.installed (hashBytes out) = some stored ∧
    (stored = out ∨ reused = true ∧ w.installed (hashBytes out) = some stored ∧
      stored.length = out.length ∧ hashBytes stored = hashBytes out)

/-- `publish`: the file under the name is the new one, or it was there and has its length and hash. -/
lemma publish_gives {out : Bytes} (temp : w.temp = some out) :
    Gives (publish out.length (hashBytes out)) w fun reused w' =>
      Published w w' out reused := by
  unfold publish
  apply gives_checkJob_bind
  apply gives_op_bind
  rintro there w1 ⟨rfl, _⟩
  cases (show Bool from there) with
  | false =>
    apply (rename_gives temp).mono
    rintro reused w2 ⟨_, stored⟩
    exact ⟨out, stored, .inl rfl⟩
  | true =>
    apply fileHash_gives.bind
    rintro r w2 ⟨moved, b, file, rfl⟩
    split_ifs with same
    · obtain ⟨len, hash⟩ := Prod.mk.inj same
      apply gives_pure
      have there : w2.installed (hashBytes out) = some b := by
        rw [moved.installed]
        exact file
      exact ⟨b, there, .inr ⟨rfl, file, len, hash⟩⟩
    · apply gives_op_bind
      rintro _ w3 rfl
      refine Gives.mono (rename_gives (moved.temp.trans temp)) ?_
      rintro reused w4 ⟨_, stored⟩
      exact ⟨out, stored, .inl rfl⟩

/-- A write goes to the end of the temporary file. -/
lemma write_gives {b : Bytes} :
    Gives (op (.write b)) w fun _ w' =>
      Kept w w' ∧ ∃ c, w.temp = some c ∧ w'.temp = some (c ++ b) := by
  apply gives_op
  rintro _ w' ⟨c, temp, rfl⟩
  exact ⟨⟨rfl, rfl, rfl⟩, c, temp, rfl⟩

/-- A reader that is opened. -/
lemma stream_gives {f : Handle} {offset : Nat} {take : Option Nat} :
    Gives (op (.stream f offset take)) w fun _ w' =>
      Moved w w' ∧ ∃ c, w.file f = some c ∧ w'.input = slice c offset (take.getD c.length) := by
  apply gives_op
  rintro _ w' ⟨c, file, rfl⟩
  exact ⟨⟨⟨rfl, rfl, rfl⟩, rfl⟩, c, file, rfl⟩

/-- The bytes that are put together: the new primary, the system, the data and the new backup. -/
def assembled (image data head tail : Bytes) (start : Nat) : Bytes :=
  head ++ slice image head.length (start - head.length) ++ data ++ tail

/-- The checks of the assembled image. -/
structure Assembled (X : Crates) (raw : PreparedImage) (s : Seed) (image data out : Bytes)
    (p : PreparedImage) : Prop where
  inspected : Images.inspect X out = .ok ()
  sized : data.length = s.dataBytes
  hash : hashBytes data = s.dataSha256
  small : data.length ≤ Components.limit
  result : p = ⟨.installed (hashBytes out), raw.filename, some s.haos, raw.platform, out.length,
    hashBytes out, raw.sha256, "official_os_factory_data", 8, raw.reusedDownload, p.reusedImage⟩

/-- `compose` while the temporary file exists. -/
lemma composeInto_gives {X : Crates} {raw : PreparedImage} {s : Seed} {head tail : Bytes}
    {start : Nat}
    (temp : w.temp = some []) :
    Gives (composeInto X raw s head tail start) w fun p w' =>
      ∃ out, out = assembled w.raw w.data head tail start ∧
        (slice w.raw head.length (start - head.length)).length = start - head.length ∧
        Assembled X raw s w.raw w.data out p ∧ Published w w' out p.reusedImage := by
  unfold composeInto
  apply write_gives.bind
  rintro _ w1 ⟨kept1, c, temp', temp1⟩
  cases temp.symm.trans temp'
  apply stream_gives.bind
  rintro _ w2 ⟨moved2, image, file, input2⟩
  cases file
  apply (streamCopy_gives (moved2.temp.trans temp1)).bind
  rintro _ w3 ⟨_, _, system, kept3, temp3⟩
  apply stream_gives.bind
  rintro _ w4 ⟨moved4, data, file, input4⟩
  cases file
  apply (streamCopy_gives (moved4.temp.trans temp3)).bind
  rintro _ w5 ⟨rfl, less, whole, kept5, temp5⟩
  apply gives_lift_bind
  intro _ hash
  apply write_gives.bind
  rintro _ w6 ⟨kept6, c, temp', temp6⟩
  cases temp5.symm.trans temp'
  apply gives_op_bind
  rintro _ w7 rfl
  apply inspect_gives.bind
  rintro _ w8 ⟨rfl, out, file, sound⟩
  apply fileHash_gives.bind
  rintro _ w9 ⟨moved9, out', file', rfl⟩
  cases file.symm.trans file'
  apply (publish_gives (moved9.temp.trans file)).bind
  rintro reused w10 published
  apply gives_pure
  -- the sources have not moved, so the two streams are pieces of the first world
  have first : w2.input = slice w.raw head.length (start - head.length) := by
    rw [input2, kept1.raw]
    rfl
  have second : w4.input = w.data := by
    have data : w3.data = w.data := by rw [kept3.data, moved2.data, kept1.data]
    rw [input4, data]
    exact slice_full (Nat.le_refl _)
  have same : w9.installed = w.installed := by
    rw [moved9.installed, kept6.installed, kept5.installed, moved4.installed, kept3.installed,
      moved2.installed, kept1.installed]
  rw [second] at less whole hash temp6
  rw [first] at temp6 system
  have made : w8.temp = some out := file
  rw [temp6, List.nil_append] at made
  refine ⟨out, (Option.some.inj made).symm, system _ rfl, ⟨sound, whole _ rfl, ?_, less, rfl⟩, ?_⟩
  · exact not_not.mp (deny_ok.mp hash)
  · obtain ⟨stored, there, was⟩ := published
    rw [same] at was
    exact ⟨stored, there, was⟩

end Functions

/-- The sector of the data partition in an image. -/
def dataStart (image : Bytes) : Nat := Gpt.u64at image (dataEntry + 32)

/-- An installation image made of an official image and a data filesystem. -/
structure Composed (image data out : Bytes) : Prop where
  whole : data.length % 512 = 0
  size : out.length = (dataStart image + data.length / 512 + 33) * 512
  system : slice out (34 * 512) (dataStart image * 512 - 34 * 512) =
    slice image (34 * 512) (dataStart image * 512 - 34 * 512)
  payload : slice out (dataStart image * 512) data.length = data
  entries : ∀ i < 128, i ≠ 7 → Gpt.entryAt out i = Gpt.entryAt image i
  /-- The eighth entry keeps its GUIDs, its start, its attributes and its name. -/
  eighth : ∀ o l, o + l ≤ 40 ∨ 48 ≤ o → o + l ≤ 128 →
    slice (Gpt.entryAt out 7) o l = slice (Gpt.entryAt image 7) o l
  last : Gpt.u64at (Gpt.entryAt out 7) 40 = dataStart image + data.length / 512 - 1
  guid : slice out 568 16 = slice image 568 16
  protective : Gpt.u32at out 458 = out.length / 512 - 1
  mbr : ∀ i < 512, i < 458 ∨ 462 ≤ i → out[i]? = image[i]?
  healthy : Gpt.Healthy (slice out 0 (34 * 512)) (slice out (out.length - 33 * 512) (33 * 512))
    (out.length / 512)

section Compose

variable {X : Crates} {image : Bytes}

/-- The data partition begins behind the primary copy. -/
lemma dataStart_bounds (h : Images.inspect X image = .ok ()) :
    34 ≤ dataStart image ∧ dataStart image < 2 ^ 32 := by
  have checked := Images.inspect_checked h
  have span := checked.span (i := 7) (by decide)
  have start : Gpt.u64at (Gpt.entryAt (slice image 0 (34 * 512)) 7) 32 = dataStart image := by
    rw [Gpt.u64at, Gpt.entryAt, slice_slice (by decide), slice_slice (by decide)]
    rfl
  have small := checked.small
  rw [start] at span
  rw [Images.maxImage] at small
  omega

/-- The pieces of an assembled image. -/
lemma assembled_pieces {data a b : Bytes} {start : Nat}
    (la : a.length = 34 * 512)
    (lb : b.length = 33 * 512)
    (after : 34 * 512 ≤ start)
    (system : (slice image a.length (start - a.length)).length = start - a.length) :
    (assembled image data a b start).length = start + data.length + 33 * 512 ∧
      (∀ o l, o + l ≤ 34 * 512 → slice (assembled image data a b start) o l = slice a o l) ∧
      slice (assembled image data a b start) (34 * 512) (start - 34 * 512) =
        slice image (34 * 512) (start - 34 * 512) ∧
      slice (assembled image data a b start) start data.length = data ∧
      slice (assembled image data a b start) (start + data.length) (33 * 512) = b := by
  have form : assembled image data a b start =
      a ++ slice image (34 * 512) (start - 34 * 512) ++ data ++ b := by
    rw [assembled, la]
  rw [la] at system
  have inner : (a ++ slice image (34 * 512) (start - 34 * 512)).length = start := by
    rw [List.length_append, la, system]
    omega
  rw [form]
  refine ⟨?_, ?_, ?_, ?_, ?_⟩
  · rw [List.length_append, List.length_append, inner, lb]
  · intro o l fits
    rw [List.append_assoc, List.append_assoc, slice_append_left (by omega)]
  · rw [List.append_assoc (a ++ _), slice_middle la system]
  · exact slice_middle inner rfl
  · rw [slice_append_right (by rw [List.length_append, inner]), List.length_append, inner,
      Nat.sub_self, slice_full (by omega)]

/-- The assembled image is a composition. -/
lemma assembled_composed {data a b : Bytes} {sectors : Nat}
    (official : Images.inspect X image = .ok ())
    (resized : resizeDataGpt (slice image 0 (34 * 512)) sectors data.length = .ok (a, b))
    (small : data.length ≤ Components.limit)
    (system : (slice image a.length (dataStart image * 512 - a.length)).length =
      dataStart image * 512 - a.length)
    (inspected : Images.inspect X (assembled image data a b (dataStart image * 512)) = .ok ()) :
    Composed image data (assembled image data a b (dataStart image * 512)) := by
  have source := (Images.inspect_checked official).healthy
  have aligned := (Images.inspect_checked inspected).aligned
  obtain ⟨low, high⟩ := dataStart_bounds official
  obtain ⟨_, count, _, _⟩ := (resizeDataGpt_ok source).mp resized
  have k := resizeDataGpt_resized source resized
  obtain ⟨size, front, middle, payload, last⟩ :=
    assembled_pieces k.healthy.sizePrimary k.healthy.sizeTail (by omega) system
  have head (o l : Nat) (fits : o + l ≤ 34 * 512) :
      slice (slice image 0 (34 * 512)) o l = slice image o l := by
    rw [slice_slice fits, Nat.zero_add]
  have limit : Components.limit = 16 * 1024 * 1024 * 1024 := rfl
  have start : Gpt.u64at (slice image 0 (34 * 512)) (dataEntry + 32) = dataStart image := by
    rw [Gpt.u64at, head _ _ (by decide)]
    rfl
  rw [start] at count
  have entry (i : Nat) (bound : i < 128) :
      Gpt.entryAt (assembled image data a b (dataStart image * 512)) i = Gpt.entryAt a i :=
    front _ _ (by omega)
  have old (i : Nat) (bound : i < 128) :
      Gpt.entryAt (slice image 0 (34 * 512)) i = Gpt.entryAt image i := head _ _ (by omega)
  have sectors' : (assembled image data a b (dataStart image * 512)).length / 512 = sectors := by
    omega
  refine ⟨by omega, by omega, middle, payload, ?_, ?_, ?_, ?_, ?_, ?_, ?_⟩
  · intro i bound other
    rw [entry i bound, k.entries i bound other, old i bound]
  · intro o l apart fits
    rw [entry 7 (by decide), k.eighth o l apart fits, old 7 (by decide)]
  · rw [entry 7 (by decide), k.last]
    omega
  · rw [front _ _ (by decide), k.guid, head _ _ (by decide)]
  · rw [Gpt.u32at, front _ _ (by decide), ← Gpt.u32at, k.protective, sectors']
  · intro i bound far
    have first := congrArg (fun x : Bytes => x[i]?) (front 0 512 (by decide))
    have second := congrArg (fun x : Bytes => x[i]?) (head 0 512 (by decide))
    simp only [getElem?_slice, if_pos bound, Nat.zero_add] at first second
    rw [first, k.mbr i bound far, getElem?_slice, if_pos (by omega), Nat.zero_add]
  · have left : slice (assembled image data a b (dataStart image * 512)) 0 (34 * 512) = a := by
      rw [front _ _ (by decide), slice_full (by rw [k.healthy.sizePrimary])]
    have place : (assembled image data a b (dataStart image * 512)).length - 33 * 512 =
        dataStart image * 512 + data.length := by
      omega
    rw [left, place, last, sectors']
    exact k.healthy

end Compose

end K11CHaos.Engine.Compose
