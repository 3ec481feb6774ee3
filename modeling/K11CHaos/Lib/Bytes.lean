import Mathlib.Algebra.GroupWithZero.Nat
import Mathlib.Data.FinEnum
import Mathlib.Data.List.Basic
import Mathlib.Tactic.Common

/-!
# Byte strings and byte-addressed disks

Byte strings are lists of bytes with windows into them (`slice`, `put`) and little-endian numbers
(`fromLe`, `toLe`). A disk is a function from byte addresses; `readAt` and `writeAt` are its
accesses and `writeAll` a list of writes in order. The lemmas say what an access sees of an earlier
one: a read gives back the last write of its window, a write leaves every byte outside its window
alone, and adjacent accesses compose to one of the joined window.
-/

namespace K11CHaos

/-- A decidable property of all members of a list, checked one by one. -/
lemma forall_of_all {α : Type} {p : α → Prop} [DecidablePred p] {l : List α}
    (h : l.all (fun x => decide (p x)) = true) : ∀ x ∈ l, p x := by
  intro x hx
  exact of_decide_eq_true (List.all_eq_true.mp h x hx)

/-- Byte strings. -/
abbrev Bytes := List UInt8

/-- `n` zero bytes. -/
def zeros (n : Nat) : Bytes :=
  List.replicate n 0

/-- There are as many zeros as asked for. -/
@[simp] lemma length_zeros {n : Nat} : (zeros n).length = n :=
  List.length_replicate

/-- No zeros. -/
@[simp] lemma zeros_zero : zeros 0 = [] :=
  rfl

/-- Zeros are there if there are any. -/
lemma zeros_mem {n : Nat} : (0 : UInt8) ∈ zeros n ↔ 0 < n := by
  rw [zeros, List.mem_replicate, Nat.pos_iff_ne_zero]
  exact and_iff_left rfl

/-- The window of `len` bytes at an offset, cut at the end. -/
def slice (b : Bytes) (off len : Nat) : Bytes :=
  (b.drop off).take len

/-- `b` with the bytes at an offset replaced by `x`. -/
def put (b : Bytes) (off : Nat) (x : Bytes) : Bytes :=
  b.take off ++ x ++ b.drop (off + x.length)

/-- A slice inside the bytes has its length. -/
lemma length_slice {b : Bytes} {off len : Nat} (h : off + len ≤ b.length) :
    (slice b off len).length = len := by
  simp only [slice, List.length_take, List.length_drop]
  omega

/-- A write inside the bytes keeps their length. -/
lemma length_put {b x : Bytes} {off : Nat} (h : off + x.length ≤ b.length) :
    (put b off x).length = b.length := by
  simp only [put, List.length_append, List.length_take, List.length_drop]
  omega

/-- An empty slice. -/
@[simp] lemma slice_zero {b : Bytes} {off : Nat} : slice b off 0 = [] :=
  List.take_zero

/-- A slice has no other bytes. -/
lemma mem_of_mem_slice {b : Bytes} {off len : Nat} {x : UInt8} (h : x ∈ slice b off len) : x ∈ b :=
  List.mem_of_mem_drop (List.mem_of_mem_take h)

/-- Element of a window. -/
lemma getElem?_slice {b : Bytes} {off len i : Nat} :
    (slice b off len)[i]? = if i < len then b[off + i]? else none := by
  simp only [slice, List.getElem?_take, List.getElem?_drop]

/-- Element after a replacement. -/
lemma getElem?_put {b x : Bytes} {off i : Nat} (h : off + x.length ≤ b.length) :
    (put b off x)[i]? =
      if i < off then b[i]? else if i < off + x.length then x[i - off]? else b[i]? := by
  have hoff : (b.take off).length = off := by
    rw [List.length_take]
    omega
  simp only [put, List.append_assoc]
  split_ifs with h1 h2
  · rw [List.getElem?_append_left (by omega), List.getElem?_take, if_pos h1]
  · rw [List.getElem?_append_right (by omega), hoff, List.getElem?_append_left (by omega)]
  · rw [List.getElem?_append_right (by omega), hoff, List.getElem?_append_right (by omega),
      List.getElem?_drop]
    congr 1
    omega

/-- A window reads back what was put there. -/
lemma slice_put_same {b x : Bytes} {off : Nat} (h : off + x.length ≤ b.length) :
    slice (put b off x) off x.length = x := by
  refine List.ext_getElem? fun i => ?_
  rw [getElem?_slice, getElem?_put h]
  split_ifs with h1 h2 h3
  · omega
  · congr 1
    omega
  · omega
  · exact (List.getElem?_eq_none (by omega)).symm

/-- A window outside of what was put is unchanged. -/
lemma slice_put_of_disjoint {b x : Bytes} {off o len : Nat}
    (h : off + x.length ≤ b.length)
    (d : o + len ≤ off ∨ off + x.length ≤ o) :
    slice (put b off x) o len = slice b o len := by
  refine List.ext_getElem? fun i => ?_
  rw [getElem?_slice, getElem?_slice, getElem?_put h]
  split_ifs with h1 h2 h3
  · rfl
  · omega
  · rfl
  · rfl

/-- A window of a window. -/
lemma slice_slice {b : Bytes} {o l o' l' : Nat} (h : o' + l' ≤ l) :
    slice (slice b o l) o' l' = slice b (o + o') l' := by
  refine List.ext_getElem? fun i => ?_
  simp only [getElem?_slice]
  split_ifs with h1 h2
  · congr 1
    omega
  · omega
  · rfl

/-- The rest of a window. -/
lemma drop_slice {b : Bytes} {o k l : Nat} : (slice b o (k + l)).drop k = slice b (o + k) l := by
  simp only [slice]
  rw [List.drop_take, Nat.add_sub_cancel_left, List.drop_drop]

/-- Adjacent windows join. -/
lemma slice_append_slice {b : Bytes} {o l l' : Nat} :
    slice b o l ++ slice b (o + l) l' = slice b o (l + l') := by
  simp only [slice]
  rw [← List.drop_drop, ← List.take_add]

/-- The slice of everything. -/
lemma slice_full {b : Bytes} {n : Nat} (h : b.length ≤ n) : slice b 0 n = b := by
  simp only [slice, List.drop_zero]
  exact List.take_of_length_le h

/-- A window of the first of two joined strings. -/
lemma slice_append_left {b c : Bytes} {o l : Nat} (h : o + l ≤ b.length) :
    slice (b ++ c) o l = slice b o l := by
  simp only [slice]
  rw [List.drop_append_of_le_length (by omega),
    List.take_append_of_le_length (by rw [List.length_drop]; omega)]

/-- A window of the second. -/
lemma slice_append_right {b c : Bytes} {o l : Nat} (h : b.length ≤ o) :
    slice (b ++ c) o l = slice c (o - b.length) l := by
  simp only [slice]
  rw [List.drop_append, List.drop_eq_nil_of_le h, List.nil_append]

/-- The window of the middle one of three joined strings. -/
lemma slice_middle {a b c : Bytes} {o l : Nat} (ha : a.length = o) (hb : b.length = l) :
    slice (a ++ b ++ c) o l = b := by
  rw [slice_append_left (by rw [List.length_append]; omega), slice_append_right (by omega), ha,
    Nat.sub_self, slice_full (by omega)]

/-- A window of a prefix. -/
lemma slice_take {b : Bytes} {o l n : Nat} (h : o + l ≤ n) : slice (b.take n) o l = slice b o l := by
  simp only [slice]
  rw [List.drop_take, List.take_take, Nat.min_eq_left (by omega)]

/-- A window of a suffix. -/
lemma slice_drop {b : Bytes} {o l k : Nat} : slice (b.drop k) o l = slice b (k + o) l := by
  simp only [slice]
  rw [List.drop_drop]

/-- A front without its own front is a slice. -/
lemma drop_take {b : Bytes} {k n : Nat} : (b.take n).drop k = slice b k (n - k) := by
  rw [slice, List.drop_take]

/-- A suffix is a window up to the end. -/
lemma drop_eq_slice {b : Bytes} {k l : Nat} (h : b.length ≤ k + l) : b.drop k = slice b k l := by
  rw [slice, List.take_of_length_le]
  rw [List.length_drop]
  omega

/-- A window of zeros. -/
lemma slice_zeros {n o l : Nat} (h : o + l ≤ n) : slice (zeros n) o l = zeros l := by
  simp only [slice, zeros, List.drop_replicate, List.take_replicate]
  congr 1
  omega

/-- The start of a window of zeros replaced. -/
lemma put_zeros {n : Nat} {x : Bytes} :
    put (zeros n) 0 x = x ++ zeros (n - x.length) := by
  simp only [put, zeros, List.take_zero, List.nil_append, Nat.zero_add, List.drop_replicate]

/-- The number a little-endian byte string stands for. -/
def fromLe : Bytes → Nat
  | [] => 0
  | x :: xs => x.toNat + 256 * fromLe xs

/-- The low `k` bytes of a number, little-endian. -/
def toLe : Nat → Nat → Bytes
  | 0, _ => []
  | k + 1, n => UInt8.ofNat n :: toLe k (n / 256)

/-- An encoding has the length it was given. -/
@[simp] lemma length_toLe {k n : Nat} : (toLe k n).length = k := by
  induction k generalizing n with
  | zero => rfl
  | succ k ih => rw [toLe, List.length_cons, ih]

/-- The encoding of zero. -/
lemma toLe_zero {k : Nat} : toLe k 0 = zeros k := by
  induction k with
  | zero => rfl
  | succ k ih =>
    rw [toLe, Nat.zero_div, ih]
    exact List.replicate_succ.symm

/-- Reading back the low bytes of a number. -/
lemma fromLe_toLe {k n : Nat} : fromLe (toLe k n) = n % 256 ^ k := by
  induction k generalizing n with
  | zero => simp [toLe, fromLe, Nat.mod_one]
  | succ k ih =>
    have low : (UInt8.ofNat n).toNat = n % 256 := UInt8.toNat_ofNat'
    rw [toLe, fromLe, ih, low, Nat.pow_succ, Nat.mul_comm (256 ^ k) 256, Nat.mod_mul]

/-- A number that fits its width is read back. -/
lemma fromLe_toLe_of_lt {k n : Nat} (h : n < 256 ^ k) : fromLe (toLe k n) = n := by
  rw [fromLe_toLe, Nat.mod_eq_of_lt h]

/-- Decoding stays below the range of the bytes. -/
lemma fromLe_lt {b : Bytes} : fromLe b < 256 ^ b.length := by
  induction b with
  | nil => simp [fromLe]
  | cons x xs ih =>
    have hx : x.toNat < 256 := x.toNat_lt
    rw [fromLe, List.length_cons, Nat.pow_succ]
    omega

/-- Writing back the number a byte string stands for. -/
lemma toLe_fromLe {b : Bytes} : toLe b.length (fromLe b) = b := by
  induction b with
  | nil => rfl
  | cons x xs ih =>
    have low : UInt8.ofNat (x.toNat + 256 * fromLe xs) = x := by
      apply UInt8.toNat_inj.mp
      rw [UInt8.toNat_ofNat', Nat.add_mul_mod_self_left]
      exact Nat.mod_eq_of_lt x.toNat_lt
    have high : (x.toNat + 256 * fromLe xs) / 256 = fromLe xs := by
      have := x.toNat_lt
      omega
    rw [fromLe, List.length_cons, toLe, low, high, ih]

/-- Byte strings of one length that stand for the same number are equal. -/
lemma fromLe_inj {b c : Bytes} (len : b.length = c.length) : fromLe b = fromLe c ↔ b = c := by
  refine ⟨fun h => ?_, fun h => h ▸ rfl⟩
  rw [← toLe_fromLe (b := b), ← toLe_fromLe (b := c), len, h]

/-- Byte-addressed disks. -/
abbrev Disk := Nat → UInt8

/-- The bytes from an address on. -/
def readAt (d : Disk) (a n : Nat) : Bytes :=
  (List.range n).map fun i => d (a + i)

/-- The disk with bytes stored from an address on. -/
def writeAt (d : Disk) (a : Nat) (b : Bytes) : Disk :=
  fun x => if a ≤ x then b[x - a]?.getD (d x) else d x

/-- A read has its length. -/
@[simp] lemma length_readAt {d : Disk} {a n : Nat} : (readAt d a n).length = n := by
  simp [readAt]

/-- An empty read. -/
@[simp] lemma readAt_zero {d : Disk} {a : Nat} : readAt d a 0 = [] :=
  rfl

/-- The bytes of a read. -/
lemma getElem?_readAt {d : Disk} {a n i : Nat} :
    (readAt d a n)[i]? = if i < n then some (d (a + i)) else none := by
  simp only [readAt, List.getElem?_map]
  split_ifs with h
  · rw [List.getElem?_range h]
    rfl
  · rw [List.getElem?_eq_none (by simpa using h)]
    rfl

/-- An empty disk reads zeros. -/
lemma readAt_empty {a n : Nat} : readAt (fun _ => 0) a n = zeros n := by
  refine List.ext_getElem? fun i => ?_
  rw [getElem?_readAt, zeros, List.getElem?_replicate]

/-- Adjacent reads join. -/
lemma readAt_append {d : Disk} {a m n : Nat} :
    readAt d a m ++ readAt d (a + m) n = readAt d a (m + n) := by
  refine List.ext_getElem? fun i => ?_
  rw [List.getElem?_append, getElem?_readAt, getElem?_readAt, getElem?_readAt, length_readAt]
  split_ifs with h1 h2 h3 h4
  · rfl
  · omega
  · congr 2
    omega
  · omega
  · omega
  · rfl

/-- A read sees only its window. -/
lemma readAt_congr {d d' : Disk} {a n : Nat}
    (h : ∀ x, a ≤ x → x < a + n → d x = d' x) : readAt d a n = readAt d' a n := by
  refine List.ext_getElem? fun i => ?_
  rw [getElem?_readAt, getElem?_readAt]
  split_ifs with hi
  · rw [h (a + i) (by omega) (by omega)]
  · rfl

/-- Equal reads are equal on every byte of the window. -/
lemma readAt_eq {d d' : Disk} {a n x : Nat}
    (h : readAt d a n = readAt d' a n) (h1 : a ≤ x) (h2 : x < a + n) : d x = d' x := by
  have e := congrArg (·[x - a]?) h
  simp only [getElem?_readAt, if_pos (show x - a < n by omega)] at e
  rw [show a + (x - a) = x by omega] at e
  exact Option.some.inj e

/-- A window of a read is a read. -/
lemma slice_readAt {d : Disk} {a n o l : Nat} (h : o + l ≤ n) :
    slice (readAt d a n) o l = readAt d (a + o) l := by
  refine List.ext_getElem? fun i => ?_
  rw [getElem?_slice, getElem?_readAt, getElem?_readAt]
  split_ifs with h1 h2
  · congr 2
    omega
  · omega
  · rfl

/-- The rest of a read. -/
lemma drop_readAt {d : Disk} {a n k : Nat} : (readAt d a n).drop k = readAt d (a + k) (n - k) := by
  refine List.ext_getElem? fun i => ?_
  rw [List.getElem?_drop, getElem?_readAt, getElem?_readAt]
  split_ifs with h1 h2
  · rw [Nat.add_assoc]
  · omega
  · omega
  · rfl

/-- The start of a read. -/
lemma take_readAt {d : Disk} {a n k : Nat} (h : k ≤ n) : (readAt d a n).take k = readAt d a k := by
  have := slice_readAt (d := d) (a := a) (n := n) (o := 0) (l := k) (by omega)
  rwa [slice, List.drop_zero] at this

/-- A write leaves the bytes outside its window. -/
lemma writeAt_outside {d : Disk} {a x : Nat} {b : Bytes} (h : x < a ∨ a + b.length ≤ x) :
    writeAt d a b x = d x := by
  unfold writeAt
  split_ifs with hx
  · rw [List.getElem?_eq_none (by omega)]
    rfl
  · rfl

/-- A write stores the bytes of its window. -/
lemma writeAt_inside {d : Disk} {a x : Nat} {b : Bytes} (h1 : a ≤ x) (h2 : x < a + b.length) :
    writeAt d a b x = b[x - a] := by
  unfold writeAt
  rw [if_pos h1, List.getElem?_eq_getElem (by omega)]
  rfl

/-- An empty write. -/
@[simp] lemma writeAt_nil {d : Disk} {a : Nat} : writeAt d a [] = d := by
  funext x
  exact writeAt_outside (by simp only [List.length_nil]; omega)

/-- A read of a window that was just written. -/
lemma readAt_writeAt_same {d : Disk} {a : Nat} {b : Bytes} :
    readAt (writeAt d a b) a b.length = b := by
  refine List.ext_getElem? fun i => ?_
  rw [getElem?_readAt]
  split_ifs with hi
  · rw [writeAt_inside (by omega) (by omega), List.getElem?_eq_getElem hi]
    congr 2
    omega
  · exact (List.getElem?_eq_none (by omega)).symm

/-- A read away from a write. -/
lemma readAt_writeAt_of_disjoint {d : Disk} {a a' n : Nat} {b : Bytes}
    (h : a' + n ≤ a ∨ a + b.length ≤ a') : readAt (writeAt d a b) a' n = readAt d a' n :=
  readAt_congr fun _ h1 h2 => writeAt_outside (by omega)

/-- Adjacent writes join. -/
lemma writeAt_append {d : Disk} {a : Nat} {b c : Bytes} :
    writeAt (writeAt d a b) (a + b.length) c = writeAt d a (b ++ c) := by
  funext x
  by_cases h1 : a ≤ x
  · by_cases h2 : x < a + b.length
    · rw [writeAt_outside (.inl h2), writeAt_inside h1 h2,
        writeAt_inside h1 (by rw [List.length_append]; omega),
        List.getElem_append_left (by omega)]
    · by_cases h3 : x < a + b.length + c.length
      · rw [writeAt_inside (by omega) h3,
          writeAt_inside h1 (by rw [List.length_append]; omega),
          List.getElem_append_right (by omega)]
        congr 1
        omega
      · rw [writeAt_outside (.inr (by omega)), writeAt_outside (.inr (by omega)),
          writeAt_outside (.inr (by rw [List.length_append]; omega))]
  · rw [writeAt_outside (.inl (by omega)), writeAt_outside (.inl (by omega)),
      writeAt_outside (.inl (by omega))]

/-- Writing back what is there changes nothing. -/
lemma writeAt_readAt {d : Disk} {a n : Nat} : writeAt d a (readAt d a n) = d := by
  funext x
  unfold writeAt
  split_ifs with h
  · rw [getElem?_readAt]
    split_ifs with h2
    · rw [show a + (x - a) = x by omega]
      rfl
    · rfl
  · rfl

/-- A list of writes in order. -/
def writeAll (d : Disk) : List (Nat × Bytes) → Disk
  | [] => d
  | (a, b) :: ws => writeAll (writeAt d a b) ws

/-- An address inside a window. -/
def Inside (x : Nat) (w : Nat × Nat) : Prop :=
  w.1 ≤ x ∧ x < w.1 + w.2

/-- A list of writes leaves the bytes outside all its windows. -/
lemma writeAll_outside {d : Disk} {ws : List (Nat × Bytes)} {x : Nat}
    (h : ∀ w ∈ ws, ¬ Inside x (w.1, w.2.length)) : writeAll d ws x = d x := by
  induction ws generalizing d with
  | nil => rfl
  | cons w ws ih =>
    rw [writeAll, ih fun v hv => h v (List.mem_cons_of_mem _ hv)]
    have := h w List.mem_cons_self
    refine writeAt_outside ?_
    simp only [Inside] at this
    omega

/-- The last write of a window is what the window holds, when no later one meets it. -/
lemma readAt_writeAll_same {d : Disk} {ws : List (Nat × Bytes)} {a : Nat} {b : Bytes}
    (h : ∀ w ∈ ws, w.1 + w.2.length ≤ a ∨ a + b.length ≤ w.1) :
    readAt (writeAll (writeAt d a b) ws) a b.length = b := by
  have e : readAt (writeAll (writeAt d a b) ws) a b.length =
      readAt (writeAt d a b) a b.length :=
    readAt_congr fun x h1 h2 => writeAll_outside fun w hw hin => by
      have := h w hw
      simp only [Inside] at hin
      omega
  rw [e, readAt_writeAt_same]

/-- Writes that do not meet are all there in the end. -/
lemma readAt_writeAll {d : Disk} {ws : List (Nat × Bytes)}
    (apart : ws.Pairwise fun v w => w.1 + w.2.length ≤ v.1 ∨ v.1 + v.2.length ≤ w.1)
    {w : Nat × Bytes} (hw : w ∈ ws) : readAt (writeAll d ws) w.1 w.2.length = w.2 := by
  induction ws generalizing d with
  | nil => cases hw
  | cons v ws ih =>
    rw [List.pairwise_cons] at apart
    cases List.mem_cons.mp hw with
    | inl e =>
      obtain rfl := e
      exact readAt_writeAll_same apart.1
    | inr hw => exact ih apart.2 hw

-- windows are looked into through the lemmas, never by computing their elements
attribute [irreducible] slice put zeros readAt writeAt

end K11CHaos
