import K11CHaos.Lib.Bytes

/-!
# Stored Zstandard frames

Zstandard frames whose blocks are all raw: a frame header without a content size and with a window of
128 KiB, then blocks of at most that size, each after three bytes with its size, its type and whether it
is the last one. Encoders may always fall back to such frames; of compressed blocks the decoder here
knows nothing and gives up. A frame is decoded to what was encoded, and to its end
(`decodeFrame_encode`).
-/

namespace K11CHaos.Zstd

/-- The magic number, a frame header descriptor without flags, and the window descriptor of 128 KiB. -/
def frameHeader : Bytes := [0x28, 0xb5, 0x2f, 0xfd, 0x00, 0x38]

/-- The largest block of a frame with that window. -/
def maxBlock : Nat := 128 * 1024

/-- The header of a raw block. -/
def blockHeader (last : Bool) (n : Nat) : Bytes :=
  toLe 3 (8 * n + if last then 1 else 0)

/-- The blocks of a byte string. -/
def encodeBlocks (b : Bytes) : Bytes :=
  if _ : b.length ≤ maxBlock then
    blockHeader true b.length ++ b
  else
    blockHeader false maxBlock ++ (b.take maxBlock ++ encodeBlocks (b.drop maxBlock))
termination_by b.length
decreasing_by
  simp only [List.length_drop]
  have : 0 < maxBlock := by decide
  omega

/-- The frame of a byte string. -/
def encode (b : Bytes) : Bytes :=
  frameHeader ++ encodeBlocks b

/-- Raw blocks up to the last one: their content, and the input behind them. -/
def decodeBlocks (b : Bytes) : Option (Bytes × Bytes) :=
  if _ : b.length < 3 then none
  else
    let h := fromLe (b.take 3)
    let n := h / 8
    let rest := b.drop 3
    if h / 2 % 4 ≠ 0 ∨ maxBlock < n ∨ rest.length < n then none
    else if h % 2 = 1 then some (rest.take n, rest.drop n)
    else (decodeBlocks (rest.drop n)).map fun r => (rest.take n ++ r.1, r.2)
termination_by b.length
decreasing_by
  simp only [List.length_drop]
  omega

/-- A frame of raw blocks: its content, and the input behind it. -/
def decodeFrame (b : Bytes) : Option (Bytes × Bytes) :=
  if b.take 6 = frameHeader then decodeBlocks (b.drop 6) else none

/-- Reading the header of a block that is not too large. -/
lemma fromLe_blockHeader {last : Bool} {n : Nat} (h : n ≤ maxBlock) :
    fromLe (blockHeader last n) = 8 * n + if last then 1 else 0 := by
  rw [blockHeader, fromLe_toLe]
  refine Nat.mod_eq_of_lt ?_
  have : maxBlock = 131072 := rfl
  split_ifs <;> omega

/-- One turn of the block decoder. -/
lemma decodeBlocks_block {last : Bool} {x r : Bytes} (h : x.length ≤ maxBlock) :
    decodeBlocks (blockHeader last x.length ++ (x ++ r)) =
      if last then some (x, r) else (decodeBlocks r).map fun y => (x ++ y.1, y.2) := by
  have len : (blockHeader last x.length).length = 3 := length_toLe
  have head : (blockHeader last x.length ++ (x ++ r)).take 3 = blockHeader last x.length :=
    List.take_left' len
  have rest : (blockHeader last x.length ++ (x ++ r)).drop 3 = x ++ r := List.drop_left' len
  rw [decodeBlocks, dif_neg (by rw [List.length_append]; omega)]
  simp only [head, rest, fromLe_blockHeader h]
  have size : (8 * x.length + if last then 1 else 0) / 8 = x.length := by
    split_ifs <;> omega
  rw [size, if_neg (by simp only [List.length_append]; split_ifs <;> omega),
    List.take_left' rfl, List.drop_left' rfl]
  cases last with
  | true => rw [if_pos (by rw [if_pos rfl]; omega), if_pos rfl]
  | false => rw [if_neg (by rw [if_neg nofun]; omega), if_neg nofun]

/-- Blocks are decoded to what was encoded. -/
lemma decodeBlocks_encode (b r : Bytes) : decodeBlocks (encodeBlocks b ++ r) = some (b, r) := by
  induction h : b.length using Nat.strongRecOn generalizing b with
  | _ k ih =>
    have pos : 0 < maxBlock := by decide
    rw [encodeBlocks]
    split_ifs with small
    · rw [List.append_assoc, decodeBlocks_block small, if_pos rfl]
    · have len : (b.take maxBlock).length = maxBlock := by
        rw [List.length_take]
        omega
      have turn := @decodeBlocks_block false (b.take maxBlock)
        (encodeBlocks (b.drop maxBlock) ++ r) (Nat.le_of_eq len)
      rw [len] at turn
      rw [List.append_assoc, List.append_assoc, turn, if_neg (by simp),
        ih (b.drop maxBlock).length (by rw [List.length_drop]; omega) _ rfl]
      simp [List.take_append_drop]

/-- A frame is decoded to what was encoded, and to its end. -/
theorem decodeFrame_encode (b r : Bytes) : decodeFrame (encode b ++ r) = some (b, r) := by
  have head : (encode b ++ r).take 6 = frameHeader := by
    rw [encode, List.append_assoc]
    exact List.take_left' rfl
  have rest : (encode b ++ r).drop 6 = encodeBlocks b ++ r := by
    rw [encode, List.append_assoc]
    exact List.drop_left' rfl
  rw [decodeFrame, if_pos head, rest, decodeBlocks_encode]

end K11CHaos.Zstd
