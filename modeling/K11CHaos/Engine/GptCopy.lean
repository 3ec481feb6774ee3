import K11CHaos.Engine.GptHeader

/-!
# One copy of a GPT

What `repaired` asks of one copy alone, and what the two edits that make one copy from the other
keep. A header moved to another position is sealed again, and moved back it is the header it was. A
healthy pair is a sound primary whose backup is the one that `backupOf` makes from it, up to the
bytes that `check` does not compare.
-/

namespace K11CHaos.Engine.Gpt

/-- A header and an array that are sound on their own. -/
structure Copy (last : Nat) (h x : Bytes) (current other at' : Nat) : Prop where
  header : Header h current other at'
  array : crc x = u32at h 88
  bounds : 34 ≤ u64at h 40 ∧ u64at h 40 ≤ u64at h 48 ∧ u64at h 48 ≤ last - 33
  inside : ∀ r ∈ spans x, u64at h 40 ≤ r.1 ∧ r.1 ≤ r.2 ∧ r.2 ≤ u64at h 48
  apart : (spans x).Pairwise Apart

/-- `valid` accepts exactly the sound copies. -/
theorem validCopy_iff {last : Nat} {h x : Bytes} {current other at' : Nat} (len : h.length = 512) :
    validCopy last h x current other at' = true ↔ Copy last h x current other at' := by
  unfold validCopy
  dsimp only
  split_ifs with bad range
  · refine ⟨nofun, fun k => absurd bad ?_⟩
    simp only [Bool.or_eq_true, Bool.not_eq_true', bne_iff_ne, ne_eq, not_or, not_not,
      Bool.not_eq_false]
    exact ⟨(header_iff len).mpr k.header, k.array⟩
  · refine ⟨nofun, fun k => ?_⟩
    have := k.bounds
    omega
  · simp only [Bool.or_eq_true, Bool.not_eq_true', bne_iff_ne, ne_eq, not_or, not_not,
      Bool.not_eq_false, header_iff len] at bad
    simp only [Bool.and_eq_true, List.all_eq_true, decide_eq_true_eq, Bool.not_eq_true']
    constructor
    · rintro ⟨inside, apart⟩
      refine ⟨bad.1, bad.2, by omega, fun r hr => ?_, ?_⟩
      · have := inside r hr
        omega
      · refine (overlap_iff fun r hr => ?_).mp (Bool.not_eq_true _ ▸ apart)
        have := inside r hr
        omega
    · intro k
      refine ⟨fun r hr => ?_, ?_⟩
      · have := k.inside r hr
        omega
      · exact Bool.not_eq_true _ ▸ (overlap_iff fun r hr => (k.inside r hr).2.1).mpr k.apart

/-- The copy of a primary capture. -/
def PrimaryCopy (primary : Bytes) (sectors : Nat) : Prop :=
  Copy (sectors - 1) (slice primary 512 512) (primary.drop 1024) 1 (sectors - 1) 2

/-- The copy of a tail capture. -/
def TailCopy (tail : Bytes) (sectors : Nat) : Prop :=
  Copy (sectors - 1) (tail.drop 16384) (tail.take 16384) (sectors - 1) 1 (sectors - 33)

/-- Both copies of a healthy pair are sound. -/
lemma Healthy.primaryCopy {primary tail : Bytes} {sectors : Nat}
    (h : Healthy primary tail sectors) : PrimaryCopy primary sectors := by
  have bounds := h.bounds
  exact ⟨h.front, h.arrays.1, by omega, h.inside, h.apart⟩

/-- A header put at another position, before it is sealed. -/
def placed (h : Bytes) (current other at' : Nat) : Bytes :=
  put64 (put64 (put64 h 24 current) 32 other) 72 at'

section
variable {h : Bytes} {current other at' : Nat}

/-- A header keeps its length when it is placed. -/
lemma length_placed (len : h.length = 512) : (placed h current other at').length = 512 := by
  have l1 : (put64 h 24 current).length = 512 := by rw [length_put64 (by omega), len]
  have l2 : (put64 (put64 h 24 current) 32 other).length = 512 := by
    rw [length_put64 (by omega), l1]
  rw [placed, length_put64 (by omega), l2]

/-- Only the position is written. -/
lemma slice_placed {o l : Nat} (len : h.length = 512)
    (d : o + l ≤ 24 ∨ 40 ≤ o ∧ o + l ≤ 72 ∨ 80 ≤ o) :
    slice (placed h current other at') o l = slice h o l := by
  have l1 : (put64 h 24 current).length = 512 := by rw [length_put64 (by omega), len]
  have l2 : (put64 (put64 h 24 current) 32 other).length = 512 := by
    rw [length_put64 (by omega), l1]
  rw [placed, slice_put64 (by omega) (by omega), slice_put64 (by omega) (by omega),
    slice_put64 (by omega) (by omega)]

/-- The fields that place a header. -/
lemma placed_position (len : h.length = 512) (h1 : current < 2 ^ 64) (h2 : other < 2 ^ 64)
    (h3 : at' < 2 ^ 64) :
    u64at (placed h current other at') 24 = current ∧
      u64at (placed h current other at') 32 = other ∧
      u64at (placed h current other at') 72 = at' := by
  have l1 : (put64 h 24 current).length = 512 := by rw [length_put64 (by omega), len]
  have l2 : (put64 (put64 h 24 current) 32 other).length = 512 := by
    rw [length_put64 (by omega), l1]
  refine ⟨?_, ?_, u64at_put64_same (by omega) h3⟩
  · rw [placed, u64at, slice_put64 (by omega) (by omega), slice_put64 (by omega) (by omega)]
    exact u64at_put64_same (by omega) h1
  · rw [placed, u64at, slice_put64 (by omega) (by omega)]
    exact u64at_put64_same (by omega) h2

/-- The size of a header is not touched by placing it. -/
lemma placed_size (len : h.length = 512) (size : 92 ≤ u32at h 12 ∧ u32at h 12 ≤ 512) :
    92 ≤ u32at (placed h current other at') 12 ∧ u32at (placed h current other at') 12 ≤ 512 := by
  rwa [u32at, slice_placed len (by decide)]

/-- The fields outside of the position and the checksum stay when the header is sealed. -/
lemma slice_moved {o l : Nat} (len : h.length = 512)
    (size : 92 ≤ u32at h 12 ∧ u32at h 12 ≤ 512)
    (d : o + l ≤ 16 ∨ 20 ≤ o ∧ o + l ≤ 24 ∨ 40 ≤ o ∧ o + l ≤ 72 ∨ 80 ≤ o) :
    slice (sealHeader (placed h current other at')) o l = slice h o l := by
  rw [slice_sealHeader (length_placed len) (placed_size len size) (by omega),
    slice_placed len (by omega)]

/-- A header that was placed and sealed is one sector. -/
lemma length_moved (len : h.length = 512) (size : 92 ≤ u32at h 12 ∧ u32at h 12 ≤ 512) :
    (sealHeader (placed h current other at')).length = 512 :=
  length_sealHeader (length_placed len) (placed_size len size)

/-- A header in place is in place again after it was moved and sealed. -/
lemma Header.moved {c o a : Nat} (k : Header h c o a) (len : h.length = 512)
    (h1 : current < 2 ^ 64) (h2 : other < 2 ^ 64) (h3 : at' < 2 ^ 64) :
    Header (sealHeader (placed h current other at')) current other at' := by
  obtain ⟨p1, p2, p3⟩ := placed_position len h1 h2 h3
  refine sealHeader_header (length_placed len) ?_ (placed_size len k.size) ?_ ?_ p1 p2 p3 ?_ ?_
  · rw [slice_placed len (by decide), k.signature]
  · rw [u32at, slice_placed len (by decide)]
    exact k.revision
  · rw [u32at, slice_placed len (by decide)]
    exact k.reserved
  · rw [u32at, slice_placed len (by decide)]
    exact k.count
  · rw [u32at, slice_placed len (by decide)]
    exact k.each

end

/-- The same word is the same bytes. -/
lemma slice_of_u32at {h g : Bytes} {o : Nat} (lh : h.length = 512) (lg : g.length = 512)
    (d : o + 4 ≤ 512) (same : u32at h o = u32at g o) : slice h o 4 = slice g o 4 := by
  refine (fromLe_inj ?_).mp same
  rw [length_slice (by omega), length_slice (by omega)]

/-- The same eight-byte number is the same bytes. -/
lemma slice_of_u64at {h g : Bytes} {o : Nat} (lh : h.length = 512) (lg : g.length = 512)
    (d : o + 8 ≤ 512) (same : u64at h o = u64at g o) : slice h o 8 = slice g o 8 := by
  refine (fromLe_inj ?_).mp same
  rw [length_slice (by omega), length_slice (by omega)]

/-- Two adjacent windows agree when their union does. -/
lemma slice_join {h g : Bytes} {o l l' : Nat} (first : slice h o l = slice g o l)
    (second : slice h (o + l) l' = slice g (o + l) l') :
    slice h o (l + l') = slice g o (l + l') := by
  rw [← slice_append_slice, ← slice_append_slice, first, second]

/-- Headers at one position differ in their size, their policy or what follows the array's
checksum, if at all. -/
theorem Header.eq_of_same {h g : Bytes} {current other at' : Nat}
    (kh : Header h current other at') (kg : Header g current other at')
    (lh : h.length = 512) (lg : g.length = 512)
    (size : slice h 12 4 = slice g 12 4) (policy : slice h 40 32 = slice g 40 32)
    (rest : slice h 88 424 = slice g 88 424) : h = g := by
  have signature : slice h 0 8 = slice g 0 8 := by rw [kh.signature, kg.signature]
  have revision := slice_of_u32at lh lg (by decide) (kh.revision.trans kg.revision.symm)
  have reserved := slice_of_u32at lh lg (by decide) (kh.reserved.trans kg.reserved.symm)
  have own := slice_of_u64at lh lg (by decide) (kh.current.trans kg.current.symm)
  have back := slice_of_u64at lh lg (by decide) (kh.other.trans kg.other.symm)
  have array := slice_of_u64at lh lg (by decide) (kh.entries.trans kg.entries.symm)
  have count := slice_of_u32at lh lg (by decide) (kh.count.trans kg.count.symm)
  have each := slice_of_u32at lh lg (by decide) (kh.each.trans kg.each.symm)
  have low : slice h 0 16 = slice g 0 16 := slice_join signature (slice_join revision size)
  have high : slice h 20 492 = slice g 20 492 :=
    slice_join reserved (slice_join own (slice_join back (slice_join policy (slice_join array
      (slice_join count (slice_join each rest))))))
  -- the checksum is the one field left, and it is computed from the others
  have cleared : put h 16 (zeros 4) = put g 16 (zeros 4) := by
    have window (b : Bytes) (lb : b.length = 512) :
        put b 16 (zeros 4) = slice b 0 16 ++ (zeros 4 ++ slice b 20 492) := by
      rw [put, length_zeros, drop_eq_slice (k := 20) (l := 492) (by omega), List.append_assoc]
      congr 1
      rw [slice, List.drop_zero]
    rw [window h lh, window g lg, low, high]
  have words : u32at h 12 = u32at g 12 := congrArg fromLe size
  have sum : u32at h 16 = u32at g 16 := by
    have hs := kh.size
    rw [← kh.crc, ← kg.crc, headerCrc, headerCrc, ← words,
      ← take_put (by rw [length_zeros]; omega) (by omega),
      ← take_put (by rw [length_zeros]; omega) (by omega), cleared]
  have all : slice h 0 512 = slice g 0 512 :=
    slice_join low (slice_join (slice_of_u32at lh lg (by decide) sum) high)
  rwa [slice_full (Nat.le_of_eq lh), slice_full (Nat.le_of_eq lg)] at all

/-- Moved and moved back, a header is what it was. -/
theorem Header.moved_back {h : Bytes} {current other at' c o a : Nat}
    (k : Header h current other at') (len : h.length = 512)
    (h1 : current < 2 ^ 64) (h2 : other < 2 ^ 64) (h3 : at' < 2 ^ 64)
    (k1 : c < 2 ^ 64) (k2 : o < 2 ^ 64) (k3 : a < 2 ^ 64) :
    sealHeader (placed (sealHeader (placed h c o a)) current other at') = h := by
  have there := k.moved len k1 k2 k3
  have len' : (sealHeader (placed h c o a)).length = 512 := length_moved len k.size
  have back := there.moved len' h1 h2 h3
  have keep (p l : Nat) (d : p + l ≤ 16 ∨ 20 ≤ p ∧ p + l ≤ 24 ∨ 40 ≤ p ∧ p + l ≤ 72 ∨ 80 ≤ p) :
      slice (sealHeader (placed (sealHeader (placed h c o a)) current other at')) p l =
        slice h p l := by
    rw [slice_moved len' there.size d, slice_moved len k.size d]
  exact back.eq_of_same k (length_moved len' there.size) len (keep 12 4 (by decide))
    (keep 40 32 (by decide)) (keep 88 424 (by decide))

section
variable {a : Bytes} {last : Nat}

/-- The array comes first in a backup copy. -/
lemma backupOf_eq : backupOf a last =
    a.drop 1024 ++ sealHeader (placed (slice a 512 512) last 1 (last - 32)) :=
  rfl

/-- The two parts of a backup. -/
lemma backupOf_take (len : a.length = 34 * 512) : (backupOf a last).take 16384 = a.drop 1024 := by
  rw [backupOf_eq, List.take_append_of_le_length (by rw [List.length_drop]; omega)]
  exact List.take_of_length_le (by rw [List.length_drop]; omega)

/-- The header comes last in a backup copy. -/
lemma backupOf_drop (len : a.length = 34 * 512) : (backupOf a last).drop 16384 =
    sealHeader (placed (slice a 512 512) last 1 (last - 32)) := by
  rw [backupOf_eq, List.drop_append_of_le_length (by rw [List.length_drop]; omega)]
  rw [List.drop_of_length_le (by rw [List.length_drop]; omega), List.nil_append]

end

/-- The backup made from a sound primary completes a healthy pair. -/
theorem backupOf_healthy {primary : Bytes} {sectors : Nat} (len : primary.length = 34 * 512)
    (big : 34849 < sectors) (small : sectors < 2 ^ 32) (copy : PrimaryCopy primary sectors)
    (mbr : slice primary 510 2 = [0x55, 0xaa] ∧ primary[450]? = some 0xee) :
    Healthy primary (backupOf primary (sectors - 1)) sectors := by
  have lenHeader : (slice primary 512 512).length = 512 := length_slice (by omega)
  have size := copy.header.size
  have bounds := copy.bounds
  have moved : Header (sealHeader (placed (slice primary 512 512) (sectors - 1) 1
      (sectors - 1 - 32))) (sectors - 1) 1 (sectors - 1 - 32) :=
    copy.header.moved lenHeader (by omega) (by omega) (by omega)
  have top := @backupOf_take primary (sectors - 1) len
  have bottom := @backupOf_drop primary (sectors - 1) len
  have keep (o l : Nat) (d : 40 ≤ o ∧ o + l ≤ 72 ∨ 80 ≤ o) :=
    @slice_moved _ (sectors - 1) 1 (sectors - 1 - 32) o l lenHeader size (by omega)
  refine
    { sizePrimary := len
      sizeTail := ?_
      big := big
      front := copy.header
      back := ?_
      arrays := ⟨copy.array, ?_⟩
      same := top.symm
      guid := ?_
      policy := ?_
      mbr := mbr
      bounds := by omega
      inside := copy.inside
      apart := copy.apart }
  · rw [backupOf_eq, List.length_append, List.length_drop, length_moved lenHeader size]
    omega
  · rw [bottom]
    exact moved
  · rw [top, bottom, u32at, keep 88 4 (by decide)]
    exact copy.array
  · rw [bottom, keep 56 16 (by decide)]
  · rw [bottom, keep 40 16 (by decide)]

end K11CHaos.Engine.Gpt
