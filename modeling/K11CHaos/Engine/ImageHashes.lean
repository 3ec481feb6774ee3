import K11CHaos.Engine.HashRange
import K11CHaos.Engine.Supply
import K11CHaos.Lib.Words

/-!
# Two digests in one pass

`image_hashes` of `flash.rs` reads a file once and derives the digest of the whole and of a window of it.
The model is in words of 64 bits and reads block by block (`imageHashesIn`); the window takes in each of
its bytes once and in order wherever its ends fall, and its digest is the one of `hash_range`.
-/

namespace K11CHaos.Engine.Flash
open Words (Watched lift add sub add_fits sub_fits ok_bind lift_bind)
open Pipeline (hashRange_threads)

/-- The loop of `image_hashes`, with what the two hashers have taken in. -/
def imageBlocksIn (file : Bytes) (offset stop : Nat) :
    List (Nat × Nat) → Bytes × Bytes → Watched Failure (Bytes × Bytes)
  | [], acc => .ok acc
  | (done, n) :: bs, (whole, payload) => do
    lift (deny (done + n > file.length) "TRANSACTION_IO" "failed to fill whole buffer")
    let data := slice file done n
    let next ← add 64 done n
    let start := max done offset
    let last := min next stop
    let payload ←
      if start < last then do
        let low ← sub start done
        let high ← sub last done
        -- an index beyond the block would end the program
        lift (deny (high > data.length) "PANIC" "range end index out of range")
        pure (payload ++ slice data low (high - low))
      else pure payload
    imageBlocksIn file offset stop bs (whole ++ data, payload)

/-- `image_hashes`. -/
def imageHashesIn (file : Bytes) (len offset count : UInt64) : Watched Failure (String × String) := do
  lift (deny (offset.toNat + count.toNat ≥ 2 ^ 64 ∨ offset.toNat + count.toNat > len.toNat)
    "WRITE_RANGE" "Invalid image payload")
  let acc ← imageBlocksIn file offset.toNat (offset.toNat + count.toNat)
    (blocks chunk len.toNat 0) ([], [])
  return (hashBytes acc.1, hashBytes acc.2)

section
variable {file : Bytes} {offset stop size total done : Nat} {bs : List (Nat × Nat)}
  {whole payload : Bytes}

/-- A block that the file has. -/
lemma imageBlocksIn_cons {n : Nat} (enough : done + n ≤ file.length) (small : done + n < 2 ^ 64) :
    imageBlocksIn file offset stop ((done, n) :: bs) (whole, payload) =
      imageBlocksIn file offset stop bs (whole ++ slice file done n,
        if max done offset < min (done + n) stop then
          payload ++ slice (slice file done n) (max done offset - done)
            (min (done + n) stop - max done offset)
        else payload) := by
  have read : deny (done + n > file.length) "TRANSACTION_IO" "failed to fill whole buffer" =
      .ok () :=
    deny_ok.mpr (Nat.not_lt.mpr enough)
  have len : (slice file done n).length = n := length_slice enough
  rw [imageBlocksIn, read, Words.lift_ok, ok_bind, add_fits small, ok_bind]
  dsimp only
  split_ifs with meet
  · have within : deny (min (done + n) stop - done > (slice file done n).length) "PANIC"
        "range end index out of range" = .ok () :=
      deny_ok.mpr (by rw [len]; omega)
    rw [sub_fits (by omega), ok_bind, sub_fits (by omega), ok_bind, within, Words.lift_ok, ok_bind,
      show min (done + n) stop - max done offset =
        min (done + n) stop - done - (max done offset - done) by omega]
    rfl
  · rfl

/-- On a file that is long enough the loop takes in what `imageBlocks` does, of the part that it
reads. -/
lemma imageBlocksIn_ok (tl : Tiles size done total bs) (long : total ≤ file.length)
    (small : total < 2 ^ 64) :
    imageBlocksIn file offset stop bs (whole, payload) =
      .ok (imageBlocks (file.take total) offset stop bs (whole, payload)) := by
  induction tl generalizing whole payload with
  | nil => rfl
  | @cons done n total bs some' _ tl ih =>
    have le := tl.le
    have read : slice (file.take total) done n = slice file done n := slice_take le
    rw [imageBlocksIn_cons (by omega) (by omega), imageBlocks, read]
    exact ih long small

/-- On a shorter file it fails. -/
lemma imageBlocksIn_short (tl : Tiles size done total bs) (short : file.length < total)
    (start : done ≤ file.length) (small : total < 2 ^ 64) :
    imageBlocksIn file offset stop bs (whole, payload) =
      .error (some (fail "TRANSACTION_IO" "failed to fill whole buffer")) := by
  induction tl generalizing whole payload with
  | nil => omega
  | @cons done n total bs some' _ tl ih =>
    have le := tl.le
    by_cases enough : done + n ≤ file.length
    · rw [imageBlocksIn_cons enough (by omega)]
      exact ih short enough small
    · have unread : deny (done + n > file.length) "TRANSACTION_IO" "failed to fill whole buffer" =
          .error (fail "TRANSACTION_IO" "failed to fill whole buffer") :=
        deny_error.mpr ⟨Nat.not_le.mp enough, rfl⟩
      rw [imageBlocksIn, unread]
      rfl

end

/-- With the length of the file as its length it is the function that `build` is modelled with. -/
lemma imageHashesIn_eq {file : Bytes} {len offset count : UInt64} (whole : len.toNat = file.length) :
    imageHashesIn file len offset count =
      lift (imageHashes file offset.toNat count.toNat) := by
  have below := UInt64.toNat_lt len
  rw [imageHashesIn, imageHashes]
  by_cases out : offset.toNat + count.toNat > file.length
  · rw [deny_error.mpr ⟨.inr (whole ▸ out), rfl⟩, deny_error.mpr ⟨out, rfl⟩]
    rfl
  · rw [(deny_ok (u := ())).mpr (show ¬ (offset.toNat + count.toNat ≥ 2 ^ 64 ∨
        offset.toNat + count.toNat > len.toNat) by omega), (deny_ok (u := ())).mpr out,
      Words.lift_ok, ok_bind, ok_bind, imageBlocksIn_ok (blocks_tiles (by decide) (Nat.zero_le _))
        (Nat.le_of_eq whole) below, whole, List.take_length]
    rfl

/-- What one pass over a file gives: for every content, length, offset and count. -/
structure OnePass (file : Bytes) (len offset count : UInt64) : Prop where
  /-- A window inside the file: the digests of the whole and of exactly the window. -/
  digests : offset.toNat + count.toNat ≤ len.toNat → len.toNat = file.length →
    imageHashesIn file len offset count =
      .ok (hashBytes file, hashBytes (slice file offset.toNat count.toNat))
  /-- That is what `build` is modelled with. -/
  model : len.toNat = file.length →
    imageHashesIn file len offset count = lift (imageHashes file offset.toNat count.toNat)
  /-- Of a file that is longer than the length, the first `len` bytes count as the whole. -/
  longer : offset.toNat + count.toNat ≤ len.toNat → len.toNat ≤ file.length →
    imageHashesIn file len offset count =
      .ok (hashBytes (file.take len.toNat), hashBytes (slice file offset.toNat count.toNat))
  /-- Every other window is refused, also one whose end is not a 64-bit number. -/
  refused : len.toNat < offset.toNat + count.toNat →
    imageHashesIn file len offset count = .error (some (fail "WRITE_RANGE" "Invalid image payload"))
  /-- A file that ends too early is an error as well. -/
  short : file.length < len.toNat → ∃ e, imageHashesIn file len offset count = .error (some e)
  /-- `hash_range` finds the second digest, and nothing else in any interleaving with its worker. -/
  window : offset.toNat + count.toNat ≤ file.length →
    hashRange file offset.toNat count.toNat =
        .ok (hashBytes (slice file offset.toNat count.toNat)) ∧
      ∀ ls s, Lts.Exec (· = Pipeline.HashWorker.new count.toNat)
          (Pipeline.HashWorker.Feeds file offset.toNat) ls s →
        (∀ r, s.caller = .finished r →
          r = .ok ⟨hashBytes (slice file offset.toNat count.toNat), count.toNat⟩) ∧
        ((∃ r, s.caller = .finished r) ∨
          ∃ s', Pipeline.HashWorker.Feeds file offset.toNat s () s') ∧
        ls.length ≤ 20 * count.toNat + 12

/-- One pass gives both digests for every alignment of the window, and errs on every other window. -/
theorem imageHashes_onePass (file : Bytes) (len offset count : UInt64) :
    OnePass file len offset count := by
  have below := UInt64.toNat_lt len
  have tl : Tiles chunk 0 len.toNat (blocks chunk len.toNat 0) :=
    blocks_tiles (by decide) (Nat.zero_le _)
  have longer (inside : offset.toNat + count.toNat ≤ len.toNat) (long : len.toNat ≤ file.length) :
      imageHashesIn file len offset count =
        .ok (hashBytes (file.take len.toNat),
          hashBytes (slice file offset.toNat count.toNat)) := by
    have accepted : deny (offset.toNat + count.toNat ≥ 2 ^ 64 ∨
        offset.toNat + count.toNat > len.toNat) "WRITE_RANGE" "Invalid image payload" = .ok () :=
      deny_ok.mpr (by omega)
    have length : (file.take len.toNat).length = len.toNat := List.length_take_of_le long
    have tl' : Tiles chunk 0 (file.take len.toNat).length (blocks chunk len.toNat 0) := by
      rwa [length]
    rw [imageHashesIn, accepted, Words.lift_ok, ok_bind, imageBlocksIn_ok tl long below, ok_bind,
      imageBlocks_tiles tl' (by rw [length]; exact inside)]
    simp only [List.nil_append, Nat.zero_max, Nat.add_sub_cancel_left, Nat.sub_zero, length]
    rw [slice_take inside, slice_full (Nat.le_of_eq length)]
    rfl
  refine ⟨fun inside whole => ?_, imageHashesIn_eq, longer, fun out => ?_, fun short => ?_, fun inside => ?_⟩
  · rw [longer inside (Nat.le_of_eq whole), whole, List.take_length]
  · have refused : deny (offset.toNat + count.toNat ≥ 2 ^ 64 ∨
        offset.toNat + count.toNat > len.toNat) "WRITE_RANGE" "Invalid image payload" =
        .error (fail "WRITE_RANGE" "Invalid image payload") :=
      deny_error.mpr ⟨.inr out, rfl⟩
    rw [imageHashesIn, refused]
    rfl
  · rw [imageHashesIn]
    by_cases out : offset.toNat + count.toNat ≥ 2 ^ 64 ∨ offset.toNat + count.toNat > len.toNat
    · rw [deny_error.mpr ⟨out, rfl⟩]
      exact ⟨_, rfl⟩
    · rw [(deny_ok (u := ())).mpr out, Words.lift_ok, ok_bind,
        imageBlocksIn_short tl short (Nat.zero_le _) below]
      exact ⟨_, rfl⟩
  · refine ⟨?_, fun ls s run => hashRange_threads inside run⟩
    rw [hashRange, (deny_ok (u := ())).mpr (Nat.not_lt.mpr inside)]
    rfl

end K11CHaos.Engine.Flash
