import K11CHaos.Engine.FixturePair

/-!
# Pairs for another capacity

`resized` and `relocated` write a primary for another number of sectors and make its backup. Both edit
the same fields: the length of the protective partition, and in the header the place of the backup, the
last usable sector and the two checksums. `resized` keeps the array; `relocated` moves every entry in
use by 32768 sectors.
-/

namespace K11CHaos.Engine.Gpt

/-- A header with the fields of another capacity, before it is sealed. -/
def edited (h : Bytes) (other usable sum : Nat) : Bytes :=
  put32 (put64 (put64 h 32 other) 48 usable) 88 sum

section
variable {h : Bytes} {other usable sum : Nat}

/-- The edits keep the length of a header. -/
lemma edited_lengths (len : h.length = 512) : (put64 h 32 other).length = 512 ∧
    (put64 (put64 h 32 other) 48 usable).length = 512 ∧
    (edited h other usable sum).length = 512 := by
  have l1 : (put64 h 32 other).length = 512 := by rw [length_put64 (by omega), len]
  have l2 : (put64 (put64 h 32 other) 48 usable).length = 512 := by
    rw [length_put64 (by omega), l1]
  exact ⟨l1, l2, by rw [edited, length_put32 (by omega), l2]⟩

/-- The other fields stay. -/
lemma slice_edited {o l : Nat} (len : h.length = 512)
    (d : o + l ≤ 32 ∨ 40 ≤ o ∧ o + l ≤ 48 ∨ 56 ≤ o ∧ o + l ≤ 88 ∨ 92 ≤ o) :
    slice (edited h other usable sum) o l = slice h o l := by
  obtain ⟨l1, l2, -⟩ := @edited_lengths h other usable sum len
  rw [edited, slice_put32 (by omega) (by omega), slice_put64 (by omega) (by omega),
    slice_put64 (by omega) (by omega)]

/-- The fields that were edited. -/
lemma edited_fields (len : h.length = 512) (h1 : other < 2 ^ 64) (h2 : usable < 2 ^ 64)
    (h3 : sum < 2 ^ 32) :
    u64at (edited h other usable sum) 32 = other ∧ u64at (edited h other usable sum) 48 = usable ∧
      u32at (edited h other usable sum) 88 = sum := by
  obtain ⟨l1, l2, -⟩ := @edited_lengths h other usable sum len
  refine ⟨?_, ?_, u32at_put32_same (by omega) h3⟩
  · rw [edited, u64at, slice_put32 (by omega) (by omega), slice_put64 (by omega) (by omega)]
    exact u64at_put64_same (by omega) h1
  · rw [edited, u64at, slice_put32 (by omega) (by omega)]
    exact u64at_put64_same (by omega) h2

/-- The size of a header is not edited. -/
lemma edited_size (len : h.length = 512) (size : 92 ≤ u32at h 12 ∧ u32at h 12 ≤ 512) :
    92 ≤ u32at (edited h other usable sum) 12 ∧ u32at (edited h other usable sum) 12 ≤ 512 := by
  rwa [u32at, slice_edited len (by decide)]

/-- Outside of the edited fields and its checksum the sealed header is the old one. -/
lemma slice_sealed_edit {o l : Nat} (len : h.length = 512)
    (size : 92 ≤ u32at h 12 ∧ u32at h 12 ≤ 512)
    (d : o + l ≤ 16 ∨ 20 ≤ o ∧ o + l ≤ 32 ∨ 40 ≤ o ∧ o + l ≤ 48 ∨ 56 ≤ o ∧ o + l ≤ 88 ∨ 92 ≤ o) :
    slice (sealHeader (edited h other usable sum)) o l = slice h o l := by
  rw [slice_sealHeader (edited_lengths len).2.2 (edited_size len size) (by omega),
    slice_edited len (by omega)]

/-- A sealed header is one sector. -/
lemma length_sealed_edit (len : h.length = 512) (size : 92 ≤ u32at h 12 ∧ u32at h 12 ≤ 512) :
    (sealHeader (edited h other usable sum)).length = 512 :=
  length_sealHeader (edited_lengths len).2.2 (edited_size len size)

/-- An edited header is in place for the new capacity. -/
lemma Header.edit {o a : Nat} (k : Header h 1 o a) (len : h.length = 512) (h1 : other < 2 ^ 64)
    (h2 : usable < 2 ^ 64) (h3 : sum < 2 ^ 32) :
    Header (sealHeader (edited h other usable sum)) 1 other a := by
  obtain ⟨f1, -, -⟩ := edited_fields len h1 h2 h3
  refine sealHeader_header (edited_lengths len).2.2 ?_ (edited_size len k.size) ?_ ?_ ?_ f1 ?_ ?_ ?_
  · rw [slice_edited len (by decide), k.signature]
  · rw [u32at, slice_edited len (by decide)]
    exact k.revision
  · rw [u32at, slice_edited len (by decide)]
    exact k.reserved
  · rw [u64at, slice_edited len (by decide)]
    exact k.current
  · rw [u64at, slice_edited len (by decide)]
    exact k.entries
  · rw [u32at, slice_edited len (by decide)]
    exact k.count
  · rw [u32at, slice_edited len (by decide)]
    exact k.each

end

/-- A field that is written with what it holds. -/
lemma put_slice {b : Bytes} {o l : Nat} (fits : o + l ≤ b.length) : put b o (slice b o l) = b := by
  refine List.ext_getElem? fun i => ?_
  have len : (slice b o l).length = l := length_slice fits
  rw [getElem?_put (by omega), getElem?_slice, len]
  split_ifs with h1 h2 h3
  · rfl
  · congr 1
    omega
  · omega
  · rfl

/-- Writing a word back changes nothing. -/
lemma put32_self {b : Bytes} {o : Nat} (fits : o + 4 ≤ b.length) :
    put32 b o (u32at b o) = b := by
  have back := @toLe_fromLe (slice b o 4)
  rw [length_slice fits] at back
  rw [put32, u32at, back, put_slice fits]

/-- A write in front leaves the rest alone. -/
lemma drop_put {b x : Bytes} {o n : Nat} (fits : o + x.length ≤ b.length) (far : o + x.length ≤ n) :
    (put b o x).drop n = b.drop n := by
  have e : (put b o x).drop n = slice (put b o x) n b.length :=
    drop_eq_slice (by rw [length_put fits]; omega)
  rw [e, slice_put_of_disjoint fits (.inr far), ← drop_eq_slice (by omega)]

/-- A primary with another length of the protective partition, another header and another array. -/
def rewritten (primary header array : Bytes) (target : Nat) : Bytes :=
  put32 (primary.take 512) 458 (target - 1) ++ header ++ array

section
variable {primary header array : Bytes} {target : Nat}

/-- The parts of a rewritten primary. -/
lemma rewritten_parts (len : 512 ≤ primary.length) (lh : header.length = 512)
    (la : array.length = 16384) :
    (rewritten primary header array target).length = 34 * 512 ∧
      (rewritten primary header array target).take 512 =
        put32 (primary.take 512) 458 (target - 1) ∧
      slice (rewritten primary header array target) 512 512 = header ∧
      (rewritten primary header array target).drop 1024 = array := by
  have lt : (primary.take 512).length = 512 := by
    rw [List.length_take]
    omega
  have l1 : (put32 (primary.take 512) 458 (target - 1)).length = 512 := by
    rw [length_put32 (by omega), lt]
  refine ⟨?_, ?_, slice_middle l1 lh, List.drop_left' (by rw [List.length_append, l1, lh])⟩
  · rw [rewritten, List.length_append, List.length_append, l1, lh, la]
  · rw [rewritten, List.append_assoc]
    exact List.take_left' l1

/-- The MBR changes in the length of the protective partition only. -/
lemma rewritten_mbr (len : 512 ≤ primary.length) (lh : header.length = 512)
    (la : array.length = 16384) (small : target < 2 ^ 32) :
    u32at (rewritten primary header array target) 458 = target - 1 ∧
      ∀ i < 512, i < 458 ∨ 462 ≤ i →
        (rewritten primary header array target)[i]? = primary[i]? := by
  obtain ⟨-, front, -, -⟩ := @rewritten_parts primary header array target len lh la
  have lt : (primary.take 512).length = 512 := by
    rw [List.length_take]
    omega
  constructor
  · rw [u32at, ← slice_take (n := 512) (by decide), front]
    exact u32at_put32_same (by omega) (by omega)
  · intro i small far
    have element := congrArg (fun b : Bytes => b[i]?) front
    simp only [List.getElem?_take, if_pos small] at element
    rw [element, put32, getElem?_put (by rw [length_toLe]; omega), length_toLe,
      List.getElem?_take, if_pos small]
    split_ifs
    · rfl
    · omega
    · rfl

end

/-- The primary of a healthy pair for another capacity, with an array that fits there. -/
lemma rewritten_healthy {primary tail array : Bytes} {source target : Nat}
    (k : Healthy primary tail source) (la : array.length = 16384) (big : 34849 < target)
    (small : target < 2 ^ 32)
    (first : u64at (slice primary 512 512) 40 ≤ target - 34)
    (inside : ∀ r ∈ spans array, u64at (slice primary 512 512) 40 ≤ r.1 ∧ r.1 ≤ r.2 ∧
      r.2 ≤ target - 34)
    (apart : (spans array).Pairwise Apart) :
    Healthy
      (rewritten primary
        (sealHeader (edited (slice primary 512 512) (target - 1) (target - 34) (crc array)))
        array target)
      (backupOf (rewritten primary
        (sealHeader (edited (slice primary 512 512) (target - 1) (target - 34) (crc array)))
        array target) (target - 1)) target := by
  have lp := k.sizePrimary
  have len : (slice primary 512 512).length = 512 := length_slice (by omega)
  have size := k.front.size
  have bounds := k.bounds
  have lh : (sealHeader (edited (slice primary 512 512) (target - 1) (target - 34)
      (crc array))).length = 512 := length_sealed_edit len size
  obtain ⟨f1, f2, f3⟩ := @edited_fields _ (target - 1) (target - 34) (crc array) len
    (by omega) (by omega) crc_lt
  have keep (o l : Nat) (d : 20 ≤ o) : slice (sealHeader (edited (slice primary 512 512)
      (target - 1) (target - 34) (crc array))) o l =
        slice (edited (slice primary 512 512) (target - 1) (target - 34) (crc array)) o l :=
    slice_sealHeader (edited_lengths len).2.2 (edited_size len size) (.inr d)
  -- the first usable sector stays, the last one follows the target
  have low : u64at (sealHeader (edited (slice primary 512 512) (target - 1) (target - 34)
      (crc array))) 40 = u64at (slice primary 512 512) 40 := by
    rw [u64at, slice_sealed_edit len size (by decide), u64at]
  have high : u64at (sealHeader (edited (slice primary 512 512) (target - 1) (target - 34)
      (crc array))) 48 = target - 34 := by
    rw [u64at, keep 48 8 (by decide)]
    exact f2
  obtain ⟨l1, front, header, entries⟩ := @rewritten_parts primary _ array target (by omega) lh la
  obtain ⟨-, mbr⟩ := @rewritten_mbr primary _ array target (by omega) lh la small
  refine backupOf_healthy l1 big small ?_ ⟨?_, ?_⟩
  · rw [PrimaryCopy, header, entries]
    refine ⟨k.front.edit len (by omega) (by omega) crc_lt, ?_, ?_, ?_, apart⟩
    · rw [u32at, keep 88 4 (by decide)]
      exact f3.symm
    · rw [low, high]
      omega
    · rw [low, high]
      exact inside
  · rw [← k.mbr.1]
    refine List.ext_getElem? fun i => ?_
    rw [getElem?_slice, getElem?_slice]
    split_ifs with inside'
    · exact mbr (510 + i) (by omega) (by omega)
    · rfl
  · rw [mbr 450 (by decide) (by decide)]
    exact k.mbr.2

/-- `resized` rewrites the primary around its own array. -/
lemma resizedPrimary_eq {primary tail : Bytes} {source : Nat} {target : UInt32}
    (k : Healthy primary tail source) : resizedPrimary primary target =
      rewritten primary (sealHeader (edited (slice primary 512 512) (target.toNat - 1)
        (target.toNat - 34) (crc (primary.drop 1024)))) (primary.drop 1024) target.toNat := by
  have lp := k.sizePrimary
  have len : (slice primary 512 512).length = 512 := length_slice (by omega)
  obtain ⟨l1, l2, -⟩ := @edited_lengths _ (target.toNat - 1) (target.toNat - 34) 0 len
  have l3 : (put32 primary 458 (target.toNat - 1)).length = primary.length :=
    length_put32 (by omega)
  have window : slice (put32 primary 458 (target.toNat - 1)) 512 512 = slice primary 512 512 :=
    slice_put32 (by omega) (by omega)
  have front : (put32 primary 458 (target.toNat - 1)).take 512 =
      put32 (primary.take 512) 458 (target.toNat - 1) :=
    take_put (by rw [length_toLe]; decide) (by omega)
  have array : (put32 primary 458 (target.toNat - 1)).drop 1024 = primary.drop 1024 :=
    drop_put (by rw [length_toLe]; omega) (by rw [length_toLe]; decide)
  -- the checksum of the array is written with what it holds
  have sum : edited (slice primary 512 512) (target.toNat - 1) (target.toNat - 34)
      (crc (primary.drop 1024)) =
        put64 (put64 (slice primary 512 512) 32 (target.toNat - 1)) 48 (target.toNat - 34) := by
    have held : u32at (put64 (put64 (slice primary 512 512) 32 (target.toNat - 1)) 48
        (target.toNat - 34)) 88 = crc (primary.drop 1024) := by
      rw [u32at, slice_put64 (by omega) (by omega), slice_put64 (by omega) (by omega),
        k.arrays.1, u32at]
    rw [edited, ← held]
    exact put32_self (by omega)
  have lh : (sealHeader (edited (slice primary 512 512) (target.toNat - 1) (target.toNat - 34)
      (crc (primary.drop 1024)))).length = 512 := length_sealed_edit len k.front.size
  unfold resizedPrimary
  dsimp only
  rw [window, ← sum, put, lh, front, array, rewritten]

/-- When `resized` returns a pair, and which one. -/
lemma resized_ok {primary tail : Bytes} {source target : UInt32} {pair : Bytes × Bytes} :
    resized primary tail source target = .ok pair ↔
      Healthy primary tail source.toNat ∧ source.toNat ≤ target.toNat ∧
        pair = (resizedPrimary primary target,
          backupOf (resizedPrimary primary target) (target.toNat - 1)) := by
  have rewrite (k : Healthy primary tail source.toNat) (fits : source.toNat ≤ target.toNat) :
      Healthy (resizedPrimary primary target)
        (backupOf (resizedPrimary primary target) (target.toNat - 1)) target.toNat := by
    have big := k.big
    have bounds := k.bounds
    have lp := k.sizePrimary
    rw [resizedPrimary_eq k]
    refine rewritten_healthy k (by rw [List.length_drop]; omega) (by omega)
      (UInt32.toNat_lt target) (by omega) (fun r hr => ?_) k.apart
    have := k.inside r hr
    omega
  unfold resized
  simp only [bind_ok, deny_ok, not_or, not_not, healthy_iff, UInt32.not_lt, UInt32.le_iff_toNat_le]
  constructor
  · rintro ⟨_, ⟨fits, k⟩, _, -, result⟩
    cases result
    exact ⟨k, fits, rfl⟩
  · rintro ⟨k, fits, rfl⟩
    exact ⟨(), ⟨fits, k⟩, (), rewrite k fits, rfl⟩

/-- What `resized` returns. -/
structure Resized (primary a b : Bytes) (target : Nat) : Prop where
  healthy : Healthy a b target
  entries : a.drop 1024 = primary.drop 1024
  entries' : b.take 16384 = primary.drop 1024
  guid : slice (slice a 512 512) 56 16 = slice (slice primary 512 512) 56 16
  first : u64at (slice a 512 512) 40 = u64at (slice primary 512 512) 40

/-- The pair that `resized` returns keeps the layout of its source. -/
lemma resized_keeps {primary tail a b : Bytes} {source target : UInt32}
    (done : resized primary tail source target = .ok (a, b)) :
    Resized primary a b target.toNat := by
  have sound : Healthy a b target.toNat := by
    obtain ⟨_, _, h1⟩ := bind_ok.mp done
    obtain ⟨_, h2, h3⟩ := bind_ok.mp h1
    cases h3
    exact healthy_iff.mp (not_not.mp (deny_ok.mp h2))
  obtain ⟨k, fits, e⟩ := resized_ok.mp done
  obtain ⟨rfl, rfl⟩ := Prod.mk.inj e
  have lp := k.sizePrimary
  have len : (slice primary 512 512).length = 512 := length_slice (by omega)
  have size := k.front.size
  obtain ⟨l1, -, header, entries⟩ := @rewritten_parts primary _ (primary.drop 1024) target.toNat
    (by omega) (@length_sealed_edit _ (target.toNat - 1) (target.toNat - 34)
      (crc (primary.drop 1024)) len size) (by rw [List.length_drop]; omega)
  rw [resizedPrimary_eq k] at sound ⊢
  refine ⟨sound, entries, ?_, ?_, ?_⟩
  · rw [backupOf_take l1, entries]
  · rw [header, slice_sealed_edit len size (by decide)]
  · rw [header, u64at, slice_sealed_edit len size (by decide), u64at]

/-- The array of `relocated`. -/
def movedArray (primary : Bytes) : Bytes :=
  (entries (primary.drop 1024)).flatMap moveEntry

section
variable {e : Bytes}

/-- A moved entry is 128 bytes. -/
lemma length_moveEntry (len : e.length = 128) : (moveEntry e).length = 128 := by
  unfold moveEntry
  split_ifs
  · have l1 : (put64 e 32 (u64at e 32 + 32768)).length = 128 := by
      rw [length_put64 (by omega), len]
    dsimp only
    rw [length_put64 (by omega), l1]
  · exact len

/-- A move writes the two sector numbers. -/
lemma slice_moveEntry {o l : Nat} (len : e.length = 128) (d : o + l ≤ 32 ∨ 48 ≤ o) :
    slice (moveEntry e) o l = slice e o l := by
  unfold moveEntry
  split_ifs
  · have l1 : (put64 e 32 (u64at e 32 + 32768)).length = 128 := by
      rw [length_put64 (by omega), len]
    dsimp only
    rw [slice_put64 (by omega) (by omega), slice_put64 (by omega) (by omega)]
  · rfl

/-- A moved entry is in use if it was. -/
lemma inUse_moveEntry (len : e.length = 128) : inUse (moveEntry e) = inUse e := by
  rw [inUse, slice_moveEntry len (by decide), inUse]

/-- An entry in use starts and ends 32768 sectors later. -/
lemma moveEntry_span (len : e.length = 128) (used : inUse e = true)
    (start : u64at e 32 + 32768 < 2 ^ 64) (stop : u64at e 40 + 32768 < 2 ^ 64) :
    u64at (moveEntry e) 32 = u64at e 32 + 32768 ∧
      u64at (moveEntry e) 40 = u64at e 40 + 32768 := by
  have l1 : (put64 e 32 (u64at e 32 + 32768)).length = 128 := by
    rw [length_put64 (by omega), len]
  have end' : u64at (put64 e 32 (u64at e 32 + 32768)) 40 = u64at e 40 := by
    rw [u64at, slice_put64 (by omega) (by omega), u64at]
  rw [moveEntry, if_pos used]
  dsimp only
  rw [end']
  refine ⟨?_, u64at_put64_same (by omega) stop⟩
  rw [u64at, slice_put64 (by omega) (by omega)]
  exact u64at_put64_same (by omega) start

end

section
variable {primary tail : Bytes} {source : Nat}

/-- Every entry is 128 bytes. -/
lemma entries_each {x : Bytes} : ∀ e ∈ entries x, e.length = 128 := by
  intro e he
  obtain ⟨i, hi, rfl⟩ := List.mem_map.mp he
  have : i < x.length / 128 := List.mem_range.mp hi
  exact length_slice (by omega)

/-- The entries of the moved array. -/
lemma movedArray_entries : entries (movedArray primary) =
    (entries (primary.drop 1024)).map moveEntry := by
  rw [movedArray, List.flatMap_def]
  refine Scripts.GptImage.entries_flatten fun b hb => ?_
  obtain ⟨e, he, rfl⟩ := List.mem_map.mp hb
  exact length_moveEntry (entries_each e he)

/-- The moved array is 32 sectors. -/
lemma movedArray_length (len : primary.length = 34 * 512) :
    (movedArray primary).length = 16384 := by
  have count : (entries (primary.drop 1024)).length = 128 := by
    rw [entries, List.length_map, List.length_range, List.length_drop, len]
  rw [movedArray, List.flatMap_def, Scripts.GptImage.flatten_length fun b hb => ?_,
    List.length_map, count]
  obtain ⟨e, he, rfl⟩ := List.mem_map.mp hb
  exact length_moveEntry (entries_each e he)

/-- The spans of a healthy pair are far from the end of a 64-bit number. -/
lemma Healthy.used_span (k : Healthy primary tail source) (small : source < 2 ^ 32) {e : Bytes}
    (he : e ∈ entries (primary.drop 1024)) (used : inUse e = true) :
    u64at e 32 < 2 ^ 32 ∧ u64at e 40 < 2 ^ 32 := by
  have bounds := k.bounds
  have := k.inside (u64at e 32, u64at e 40)
    (List.mem_map.mpr ⟨e, List.mem_filter.mpr ⟨he, used⟩, rfl⟩)
  dsimp only at this
  omega

/-- Every span of the moved array is one of the array, 32768 sectors later. -/
lemma movedArray_spans (k : Healthy primary tail source) (small : source < 2 ^ 32) :
    spans (movedArray primary) =
      (spans (primary.drop 1024)).map fun r => (r.1 + 32768, r.2 + 32768) := by
  rw [spans, movedArray_entries, List.filter_map, List.map_map, spans, List.map_map]
  have same : (entries (primary.drop 1024)).filter (inUse ∘ moveEntry) =
      (entries (primary.drop 1024)).filter inUse :=
    List.filter_congr fun e he => inUse_moveEntry (entries_each e he)
  rw [same]
  refine List.map_congr_left fun e he => ?_
  obtain ⟨member, used⟩ := List.mem_filter.mp he
  obtain ⟨s1, s2⟩ := k.used_span small member used
  obtain ⟨m1, m2⟩ := moveEntry_span (entries_each e member) used (by omega) (by omega)
  exact Prod.ext m1 m2

/-- `relocated` rewrites the primary around the moved array. -/
lemma relocatedPrimary_eq {target : UInt32} (k : Healthy primary tail source) :
    relocatedPrimary primary target =
      rewritten primary (sealHeader (edited (slice primary 512 512) (target.toNat - 1)
        (target.toNat - 34) (crc (movedArray primary)))) (movedArray primary) target.toNat := by
  have lp := k.sizePrimary
  have len : (slice primary 512 512).length = 512 := length_slice (by omega)
  have la := movedArray_length lp
  have l0 : (primary.take 1024).length = 1024 := by
    rw [List.length_take]
    omega
  have l1 : (primary.take 1024 ++ movedArray primary).length = 34 * 512 := by
    rw [List.length_append, l0, la]
  have window : slice (put32 (primary.take 1024 ++ movedArray primary) 458 (target.toNat - 1))
      512 512 = slice primary 512 512 := by
    rw [slice_put32 (by omega) (by omega), slice_append_left (by omega), slice_take (by decide)]
  have front : (put32 (primary.take 1024 ++ movedArray primary) 458 (target.toNat - 1)).take 512 =
      put32 (primary.take 512) 458 (target.toNat - 1) := by
    rw [put32, take_put (by rw [length_toLe]; decide) (by omega),
      List.take_append_of_le_length (by omega), List.take_take]
    rfl
  have array : (put32 (primary.take 1024 ++ movedArray primary) 458 (target.toNat - 1)).drop 1024 =
      movedArray primary := by
    rw [put32, drop_put (by rw [length_toLe]; omega) (by rw [length_toLe]; decide)]
    exact List.drop_left' l0
  have lh : (sealHeader (edited (slice primary 512 512) (target.toNat - 1) (target.toNat - 34)
      (crc (movedArray primary)))).length = 512 := length_sealed_edit len k.front.size
  have step : relocatedPrimary primary target =
      put (put32 (primary.take 1024 ++ movedArray primary) 458 (target.toNat - 1)) 512
        (sealHeader (edited
          (slice (put32 (primary.take 1024 ++ movedArray primary) 458 (target.toNat - 1)) 512 512)
          (target.toNat - 1) (target.toNat - 34)
          (crc ((put32 (primary.take 1024 ++ movedArray primary) 458 (target.toNat - 1)).drop
            1024)))) :=
    rfl
  rw [step, window, array, put, lh, front, array, rewritten]

end

end K11CHaos.Engine.Gpt
