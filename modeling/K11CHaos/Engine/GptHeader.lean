import K11CHaos.Engine.Gpt

/-!
# Sealed headers and healthy pairs

The conditions `header` and `check` test, as propositions. A header that `seal` closes has a valid
checksum, and every field outside of the checksum is left as it was.
-/

namespace K11CHaos.Engine.Gpt

/-- The checksum of a header over its own size, with the checksum field cleared. -/
def headerCrc (h : Bytes) : Nat :=
  crc (put (h.take (u32at h 12)) 16 (zeros 4))

/-- The fields of a header in place. -/
structure Header (h : Bytes) (current other entries : Nat) : Prop where
  signature : slice h 0 8 = efiPart
  size : 92 ≤ u32at h 12 ∧ u32at h 12 ≤ 512
  crc : headerCrc h = u32at h 16
  revision : u32at h 8 = 0x10000
  reserved : u32at h 20 = 0
  current : u64at h 24 = current
  other : u64at h 32 = other
  entries : u64at h 72 = entries
  count : u32at h 80 = 128
  each : u32at h 84 = 128

/-- The test of `header` is the property `Header`. -/
lemma header_iff {h : Bytes} {current other entries : Nat} (len : h.length = 512) :
    header h current other entries = true ↔ Header h current other entries := by
  unfold header
  dsimp only
  split_ifs with h1 h2
  · refine ⟨nofun, fun k => ?_⟩
    exact absurd k.signature (h1.resolve_left (not_not.mpr len))
  · simp only [not_or, not_not] at h1
    simp only [Bool.and_eq_true, beq_iff_eq]
    constructor
    · rintro ⟨⟨⟨⟨⟨⟨⟨k1, k2⟩, k3⟩, k4⟩, k5⟩, k6⟩, k7⟩, k8⟩
      exact ⟨h1.2, h2, k1, k2, k3, k4, k5, k6, k7, k8⟩
    · intro k
      exact ⟨⟨⟨⟨⟨⟨⟨k.crc, k.revision⟩, k.reserved⟩, k.current⟩, k.other⟩, k.entries⟩, k.count⟩,
        k.each⟩
  · exact ⟨nofun, fun k => absurd k.size h2⟩

/-- A checksum is below 2^32. -/
lemma crc_lt {b : Bytes} : crc b < 2 ^ 32 :=
  UInt32.toNat_lt _

/-- A number is read back from its field. -/
lemma u32at_put32_same {b : Bytes} {o n : Nat} (h : o + 4 ≤ b.length) (small : n < 2 ^ 32) :
    u32at (put32 b o n) o = n := by
  have e : slice (put b o (toLe 4 n)) o (toLe 4 n).length = toLe 4 n :=
    slice_put_same (by simpa using h)
  rw [length_toLe] at e
  rw [u32at, put32, e, fromLe_toLe]
  exact Nat.mod_eq_of_lt small

/-- Eight bytes are read as they were written. -/
lemma u64at_put64_same {b : Bytes} {o n : Nat} (h : o + 8 ≤ b.length) (small : n < 2 ^ 64) :
    u64at (put64 b o n) o = n := by
  have e : slice (put b o (toLe 8 n)) o (toLe 8 n).length = toLe 8 n :=
    slice_put_same (by simpa using h)
  rw [length_toLe] at e
  rw [u64at, put64, e, fromLe_toLe]
  exact Nat.mod_eq_of_lt small

/-- Writing a word keeps the length. -/
lemma length_put32 {b : Bytes} {o n : Nat} (h : o + 4 ≤ b.length) :
    (put32 b o n).length = b.length :=
  length_put (by simpa using h)

/-- Writing eight bytes keeps the length. -/
lemma length_put64 {b : Bytes} {o n : Nat} (h : o + 8 ≤ b.length) :
    (put64 b o n).length = b.length :=
  length_put (by simpa using h)

/-- A window outside of a field that is written. -/
lemma slice_put32 {b : Bytes} {o n p len : Nat} (h : o + 4 ≤ b.length)
    (d : p + len ≤ o ∨ o + 4 ≤ p) : slice (put32 b o n) p len = slice b p len :=
  slice_put_of_disjoint (by simpa using h) (by simpa using d)

/-- Eight bytes elsewhere. -/
lemma slice_put64 {b : Bytes} {o n p len : Nat} (h : o + 8 ≤ b.length)
    (d : p + len ≤ o ∨ o + 8 ≤ p) : slice (put64 b o n) p len = slice b p len :=
  slice_put_of_disjoint (by simpa using h) (by simpa using d)

/-- A prefix of a replacement. -/
lemma take_put {b x : Bytes} {off n : Nat} (h : off + x.length ≤ n) (k : n ≤ b.length) :
    (put b off x).take n = put (b.take n) off x := by
  refine List.ext_getElem? fun i => ?_
  rw [List.getElem?_take, getElem?_put (by omega),
    getElem?_put (by rw [List.length_take]; omega), List.getElem?_take]
  split_ifs <;> first | rfl | omega

/-- The last replacement of a window is the one that counts. -/
lemma put_put {b x y : Bytes} {off : Nat} (h : off + x.length ≤ b.length)
    (len : x.length = y.length) : put (put b off x) off y = put b off y := by
  refine List.ext_getElem? fun i => ?_
  rw [getElem?_put (by rw [length_put h]; omega), getElem?_put h,
    getElem?_put (x := y) (by omega)]
  split_ifs <;> first | rfl | omega

/-- The checksum field does not count for the checksum. -/
lemma headerCrc_put32 {h : Bytes} {n : Nat} (len : h.length = 512)
    (size : 92 ≤ u32at h 12 ∧ u32at h 12 ≤ 512) : headerCrc (put32 h 16 n) = headerCrc h := by
  have same : u32at (put32 h 16 n) 12 = u32at h 12 := by
    rw [u32at, slice_put32 (by omega) (by omega), u32at]
  unfold headerCrc
  rw [same, put32, take_put (by simpa using by omega) (by omega),
    put_put (by simp only [List.length_take, length_toLe]; omega) (by simp)]

/-- `seal` writes the checksum of the header. -/
lemma sealHeader_eq {h : Bytes} (len : h.length = 512)
    (size : 92 ≤ u32at h 12 ∧ u32at h 12 ≤ 512) :
    sealHeader h = put32 h 16 (headerCrc h) := by
  have same : u32at (put32 h 16 0) 12 = u32at h 12 := by
    rw [u32at, slice_put32 (by omega) (by omega), u32at]
  unfold sealHeader headerCrc
  dsimp only
  rw [same, put32, put32, put32, put_put (by simpa using by omega) (by simp),
    take_put (by simpa using by omega) (by omega), toLe_zero]

/-- A sealed header is one sector. -/
lemma length_sealHeader {h : Bytes} (len : h.length = 512)
    (size : 92 ≤ u32at h 12 ∧ u32at h 12 ≤ 512) : (sealHeader h).length = 512 := by
  rw [sealHeader_eq len size, length_put32 (by omega), len]

/-- Every field outside of the checksum stays. -/
lemma slice_sealHeader {h : Bytes} {o l : Nat} (len : h.length = 512)
    (size : 92 ≤ u32at h 12 ∧ u32at h 12 ≤ 512) (d : o + l ≤ 16 ∨ 20 ≤ o) :
    slice (sealHeader h) o l = slice h o l := by
  rw [sealHeader_eq len size, slice_put32 (by omega) (by omega)]

/-- A sealed header has the checksum of its fields. -/
lemma sealHeader_crc {h : Bytes} (len : h.length = 512)
    (size : 92 ≤ u32at h 12 ∧ u32at h 12 ≤ 512) :
    headerCrc (sealHeader h) = u32at (sealHeader h) 16 := by
  rw [sealHeader_eq len size, headerCrc_put32 len size]
  exact (u32at_put32_same (by omega) crc_lt).symm

/-- A sealed header is in place when its fields are. -/
lemma sealHeader_header {h : Bytes} {current other entries : Nat} (len : h.length = 512)
    (signature : slice h 0 8 = efiPart) (size : 92 ≤ u32at h 12 ∧ u32at h 12 ≤ 512)
    (revision : u32at h 8 = 0x10000) (reserved : u32at h 20 = 0)
    (own : u64at h 24 = current) (back : u64at h 32 = other) (array : u64at h 72 = entries)
    (count : u32at h 80 = 128) (each : u32at h 84 = 128) :
    Header (sealHeader h) current other entries := by
  have word (o : Nat) (d : o + 4 ≤ 16 ∨ 20 ≤ o) : u32at (sealHeader h) o = u32at h o := by
    rw [u32at, slice_sealHeader len size d, u32at]
  have long (o : Nat) (d : o + 8 ≤ 16 ∨ 20 ≤ o) : u64at (sealHeader h) o = u64at h o := by
    rw [u64at, slice_sealHeader len size d, u64at]
  refine ⟨?_, ?_, sealHeader_crc len size, ?_, ?_, ?_, ?_, ?_, ?_, ?_⟩
  · rw [slice_sealHeader len size (by decide), signature]
  · rwa [word 12 (by decide)]
  · rwa [word 8 (by decide)]
  · rwa [word 20 (by decide)]
  · rwa [long 24 (by decide)]
  · rwa [long 32 (by decide)]
  · rwa [long 72 (by decide)]
  · rwa [word 80 (by decide)]
  · rwa [word 84 (by decide)]

/-- Neighbours are related exactly when all pairs are, for a transitive relation. -/
lemma windows2_iff {α : Type} {R : α → α → Prop} {l : List α}
    (trans : ∀ {a b c}, R a b → R b c → R a c) :
    (∀ r ∈ windows2 l, R r.1 r.2) ↔ l.Pairwise R := by
  have : Trans R R R := ⟨trans⟩
  rw [← List.isChain_iff_pairwise]
  induction l with
  | nil => exact ⟨fun _ => .nil, nofun⟩
  | cons a l ih =>
    cases l with
    | nil => exact ⟨fun _ => .singleton a, nofun⟩
    | cons b l =>
      have step : windows2 (a :: b :: l) = (a, b) :: windows2 (b :: l) := rfl
      rw [step, List.forall_mem_cons, List.isChain_cons_cons]
      exact and_congr_right fun _ => ih

/-- Two inclusive spans that do not meet. -/
def Apart (a b : Nat × Nat) : Prop :=
  a.2 < b.1 ∨ b.2 < a.1

instance (a b : Nat × Nat) : Decidable (Apart a b) :=
  inferInstanceAs (Decidable (_ ∨ _))

/-- Neighbours in the order of their starts do not meet exactly when no two spans do. -/
lemma apart_iff {l s : List (Nat × Nat)} (perm : s.Perm l)
    (sorted : s.Pairwise fun a b => a.1 ≤ b.1)
    (ord : ∀ a ∈ l, a.1 ≤ a.2) :
    (∀ r ∈ windows2 s, r.1.2 < r.2.1) ↔ l.Pairwise Apart := by
  have ord' : ∀ a ∈ s, a.1 ≤ a.2 := fun a ha => ord a (perm.mem_iff.mp ha)
  have chain := windows2_iff (l := s) (R := fun a b : Nat × Nat => a.1 ≤ a.2 ∧ a.2 < b.1)
    fun h k => by omega
  rw [← perm.pairwise_iff fun h => h.symm]
  constructor
  · intro h
    refine (chain.mp fun r hr => ⟨ord' _ (List.of_mem_zip hr).1, h r hr⟩).imp ?_
    exact fun k => .inl k.2
  · intro h r hr
    refine (chain.mpr ?_ r hr).2
    refine (h.and sorted).imp_of_mem fun {a b} ha hb k => ?_
    have := ord' a ha
    have := ord' b hb
    simp only [Apart] at k
    omega

/-- Sorting keeps the spans. -/
lemma sortSpans_perm {l : List (Nat × Nat)} : (sortSpans l).Perm l :=
  List.mergeSort_perm l _

/-- Sorted spans go forward. -/
lemma sortSpans_sorted {l : List (Nat × Nat)} :
    (sortSpans l).Pairwise fun a b => a.1 ≤ b.1 := by
  refine (List.pairwise_mergeSort (fun a b c => ?_) (fun a b => ?_) l).imp fun {a b} h => ?_
  · simp only [decide_eq_true_eq]
    omega
  · simp only [Bool.or_eq_true, decide_eq_true_eq]
    omega
  · simp only [decide_eq_true_eq] at h
    omega

/-- The windows of a capture of `sectors` sectors fit together. -/
structure Healthy (primary tail : Bytes) (sectors : Nat) : Prop where
  sizePrimary : primary.length = 34 * 512
  sizeTail : tail.length = 33 * 512
  big : 34849 < sectors
  front : Header (slice primary 512 512) 1 (sectors - 1) 2
  back : Header (tail.drop (32 * 512)) (sectors - 1) 1 (sectors - 33)
  arrays : crc (primary.drop 1024) = u32at (slice primary 512 512) 88 ∧
    crc (tail.take (32 * 512)) = u32at (tail.drop (32 * 512)) 88
  same : primary.drop 1024 = tail.take (32 * 512)
  guid : slice (slice primary 512 512) 56 16 = slice (tail.drop (32 * 512)) 56 16
  policy : slice (slice primary 512 512) 40 16 = slice (tail.drop (32 * 512)) 40 16
  mbr : slice primary 510 2 = [0x55, 0xaa] ∧ primary[450]? = some 0xee
  bounds : 34 ≤ u64at (slice primary 512 512) 40 ∧
    u64at (slice primary 512 512) 40 ≤ u64at (slice primary 512 512) 48 ∧
    u64at (slice primary 512 512) 48 < sectors - 33
  inside : ∀ r ∈ spans (primary.drop 1024), u64at (slice primary 512 512) 40 ≤ r.1 ∧
    r.1 ≤ r.2 ∧ r.2 ≤ u64at (slice primary 512 512) 48
  apart : (spans (primary.drop 1024)).Pairwise Apart

/-- An issue is reported if it is bad. -/
lemma issue_eq_nil {bad : Bool} {name : String} : issue bad name = [] ↔ ¬ bad = true := by
  cases bad <;> simp [issue]

/-- `overlap` finds no two spans that meet. -/
lemma overlap_iff {l : List (Nat × Nat)} (ord : ∀ a ∈ l, a.1 ≤ a.2) :
    ¬ overlap l = true ↔ l.Pairwise Apart := by
  rw [← apart_iff sortSpans_perm sortSpans_sorted ord]
  simp only [overlap, List.any_eq_true, decide_eq_true_eq, ge_iff_le, not_exists, not_and,
    Nat.not_le]

/-- `check` finds no issue exactly in a healthy pair. -/
theorem healthy_iff {primary tail : Bytes} {sectors : UInt32} :
    (check primary tail sectors).healthy = true ↔ Healthy primary tail sectors.toNat := by
  unfold check Report.healthy
  split_ifs with size
  · refine ⟨nofun, fun k => absurd size ?_⟩
    have := k.big
    simp only [not_or, not_not, UInt32.not_le]
    exact ⟨k.sizePrimary, k.sizeTail, UInt32.lt_iff_toNat_lt.mpr k.big⟩
  · simp only [not_or, not_not, UInt32.not_le] at size
    obtain ⟨s1, s2, s3⟩ := size
    have big : 34849 < sectors.toNat := UInt32.lt_iff_toNat_lt.mp s3
    have front : header (slice primary 512 512) 1 (sectors.toNat - 1) 2 = true ↔ _ :=
      header_iff (length_slice (by omega))
    have back : header (tail.drop (32 * 512)) (sectors.toNat - 1) 1 (sectors.toNat - 1 - 32) = true ↔
        _ :=
      header_iff (by rw [List.length_drop]; omega)
    simp only [List.isEmpty_iff, List.append_eq_nil_iff, issue_eq_nil, List.flatMap_eq_nil_iff,
      decide_eq_true_eq, Bool.or_eq_true, bne_iff_ne, not_or, not_not, Bool.not_eq_true',
      Bool.not_eq_false, front, back]
    constructor
    · rintro ⟨⟨⟨⟨⟨⟨⟨k1, k2⟩, k3⟩, k4⟩, k5⟩, k6⟩, k7⟩, k8⟩
      refine ⟨s1, s2, big, k1, k2, k3, k4.1.1, k4.1.2, k4.2, k5, by omega, fun r hr => ?_, ?_⟩
      · have := k7 r hr
        omega
      · refine (overlap_iff fun r hr => ?_).mp k8
        have := k7 r hr
        omega
    · intro k
      have bounds := k.bounds
      refine ⟨⟨⟨⟨⟨⟨⟨k.front, k.back⟩, k.arrays⟩, ⟨k.same, k.guid⟩, k.policy⟩, k.mbr⟩, by omega⟩,
        fun r hr => ?_⟩, (overlap_iff fun r hr => (k.inside r hr).2.1).mpr k.apart⟩
      have := k.inside r hr
      omega

end K11CHaos.Engine.Gpt
