import K11CHaos.Engine.Rewrite

/-!
# The relocation of an image

What `relocated` returns: every entry in use keeps its identity 32768 sectors later, the MBR and the
header change in the fields of the capacity only, and the pair is a K11C layout for the target. The test
of the capacity saturates at the largest 32-bit number, so it admits a target that is too small exactly
when the source ends within 32768 sectors of it.
-/

namespace K11CHaos.Engine.Gpt

section
variable {primary tail a b : Bytes} {source target : UInt32}

/-- When `relocated` returns a pair, and which one. -/
lemma relocated_ok : relocated primary tail source target = .ok (a, b) ↔
    Healthy primary tail source.toNat ∧ u64at primary (1024 + 32) = 2048 ∧
      (u32at primary 454 = 1 ∧ u32at primary 458 = source.toNat - 1 ∧
        (slice primary 462 48).any (· != 0) = false) ∧
      min (source.toNat + 32768) (2 ^ 32 - 1) ≤ target.toNat ∧
      a = relocatedPrimary primary target ∧
      b = backupOf (relocatedPrimary primary target) (target.toNat - 1) ∧ K11c a b target.toNat := by
  unfold relocated
  simp only [bind_ok, deny_ok, not_or, not_not, healthy_iff, Nat.not_lt, Bool.not_eq_true]
  constructor
  · rintro ⟨_, k, _, first, _, mbr, _, fits, _, layout, result⟩
    cases result
    exact ⟨k, first, mbr, fits, rfl, rfl, requireK11c_layout.mp layout⟩
  · rintro ⟨k, first, mbr, fits, rfl, rfl, layout⟩
    exact ⟨(), k, (), first, (), mbr, (), fits, (), requireK11c_layout.mpr layout, rfl⟩

/-- Each entry of the new primary is the old one, moved. -/
lemma entryAt_relocated (k : Healthy primary tail source.toNat) {i : Nat} (small : i < 128) :
    entryAt (relocatedPrimary primary target) i = moveEntry (entryAt primary i) := by
  have lp := k.sizePrimary
  have len : (slice primary 512 512).length = 512 := length_slice (by omega)
  obtain ⟨l1, -, -, array⟩ := @rewritten_parts primary _ (movedArray primary) target.toNat
    (by omega) (@length_sealed_edit _ (target.toNat - 1) (target.toNat - 34)
      (crc (movedArray primary)) len k.front.size) (movedArray_length lp)
  have old := (entries_getElem lp).mpr ⟨small, rfl⟩
  have new := (entries_getElem l1).mpr ⟨small, rfl⟩
  rw [array, movedArray_entries, List.getElem?_map, old] at new
  rw [relocatedPrimary_eq k]
  exact (Option.some.inj new).symm

/-- An entry is 128 bytes. -/
lemma length_entryAt (lp : primary.length = 34 * 512) {i : Nat} (small : i < 128) :
    (entryAt primary i).length = 128 :=
  length_slice (by omega)

end

/-- A pair that was relocated for a target. -/
structure Relocated (primary a b : Bytes) (target : Nat) : Prop where
  identity : ∀ i < 128, inUse (entryAt primary i) = true →
    slice (entryAt a i) 0 16 = slice (entryAt primary i) 0 16 ∧
      slice (entryAt a i) 16 16 = slice (entryAt primary i) 16 16 ∧
      slice (entryAt a i) 48 8 = slice (entryAt primary i) 48 8 ∧
      slice (entryAt a i) 56 72 = slice (entryAt primary i) 56 72
  moved : ∀ i < 128, inUse (entryAt primary i) = true →
    u64at (entryAt a i) 32 = u64at (entryAt primary i) 32 + 32768 ∧
      u64at (entryAt a i) 40 = u64at (entryAt primary i) 40 + 32768
  unused : ∀ i < 128, inUse (entryAt primary i) = false → entryAt a i = entryAt primary i
  protective : u32at a 458 = target - 1
  mbr : ∀ i < 512, i < 458 ∨ 462 ≤ i → a[i]? = primary[i]?
  header : ∀ o l, o + l ≤ 16 ∨ 20 ≤ o ∧ o + l ≤ 32 ∨ 40 ≤ o ∧ o + l ≤ 48 ∨ 56 ≤ o ∧ o + l ≤ 88 ∨
    92 ≤ o → slice (slice a 512 512) o l = slice (slice primary 512 512) o l
  layout : K11c a b target

section
variable {primary tail a b : Bytes} {source target : UInt32}

/-- All of it but the capacity holds of every pair that `relocated` returns. -/
lemma relocated_fields (done : relocated primary tail source target = .ok (a, b)) :
    Relocated primary a b target.toNat := by
  obtain ⟨k, -, -, -, rfl, rfl, layout⟩ := relocated_ok.mp done
  have lp := k.sizePrimary
  have len : (slice primary 512 512).length = 512 := length_slice (by omega)
  have lh : (sealHeader (edited (slice primary 512 512) (target.toNat - 1) (target.toNat - 34)
      (crc (movedArray primary)))).length = 512 := length_sealed_edit len k.front.size
  have la := movedArray_length lp
  obtain ⟨-, -, header, -⟩ := @rewritten_parts primary _ (movedArray primary) target.toNat
    (by omega) lh la
  obtain ⟨protective, mbr⟩ := @rewritten_mbr primary _ (movedArray primary) target.toNat
    (by omega) lh la (UInt32.toNat_lt target)
  refine ⟨fun i small used => ?_, fun i small used => ?_, fun i small free => ?_, ?_, ?_, ?_,
    layout⟩
  · have le := length_entryAt lp small
    rw [entryAt_relocated k small]
    exact ⟨slice_moveEntry le (by decide), slice_moveEntry le (by decide),
      slice_moveEntry le (by decide), slice_moveEntry le (by decide)⟩
  · have le := length_entryAt lp small
    have member : entryAt primary i ∈ entries (primary.drop 1024) :=
      List.mem_of_getElem? ((entries_getElem lp).mpr ⟨small, rfl⟩)
    obtain ⟨s1, s2⟩ := k.used_span (UInt32.toNat_lt source) member used
    rw [entryAt_relocated k small]
    exact moveEntry_span le used (by omega) (by omega)
  · rw [entryAt_relocated k small, moveEntry, free]
    rfl
  · rw [relocatedPrimary_eq k]
    exact protective
  · rw [relocatedPrimary_eq k]
    exact mbr
  · intro o l d
    rw [relocatedPrimary_eq k, header, slice_sealed_edit len k.front.size d]

/-- What `relocated` returns is the image 32768 sectors later on a target that has the room for it,
exactly when that many sectors behind the source can be counted. -/
theorem relocated_fits_iff (done : relocated primary tail source target = .ok (a, b)) :
    (source.toNat + 32768 ≤ target.toNat ∧ Relocated primary a b target.toNat) ↔
      source.toNat + 32768 < 2 ^ 32 := by
  have below := UInt32.toNat_lt target
  obtain ⟨-, -, -, fits, -⟩ := relocated_ok.mp done
  constructor
  · rintro ⟨room, -⟩
    omega
  · intro small
    exact ⟨by omega, relocated_fields done⟩

/-- A labelled source is relocated to every target that the test of the capacity admits and that its
last partition fits. -/
lemma relocated_succeeds (k : Healthy primary tail source.toNat)
    (protective : u32at primary 454 = 1 ∧ u32at primary 458 = source.toNat - 1 ∧
      (slice primary 462 48).any (· != 0) = false)
    (room : min (source.toNat + 32768) (2 ^ 32 - 1) ≤ target.toNat)
    (fits : ∀ r ∈ spans (primary.drop 1024), r.2 + 32768 ≤ target.toNat - 34)
    (named : ∀ (i : Nat) label, labels[i]? = some label → inUse (entryAt primary i) = true ∧
      fromUtf16 (nameUnits (entryAt primary i)) = some label ∧ 2048 ≤ u64at (entryAt primary i) 32)
    (empty : ∀ i, 8 ≤ i → i < 128 → ∀ b ∈ entryAt primary i, b = 0)
    (first : u64at (entryAt primary 0) 32 = 2048) :
    relocated primary tail source target = .ok (relocatedPrimary primary target,
      backupOf (relocatedPrimary primary target) (target.toNat - 1)) := by
  have lp := k.sizePrimary
  have big := k.big
  have bounds := k.bounds
  have below := UInt32.toNat_lt source
  have spans_eq := movedArray_spans k below
  have healthy : Healthy (relocatedPrimary primary target)
      (backupOf (relocatedPrimary primary target) (target.toNat - 1)) target.toNat := by
    rw [relocatedPrimary_eq k]
    refine rewritten_healthy k (movedArray_length lp) (by omega) (UInt32.toNat_lt target)
      (by omega) (fun r hr => ?_) ?_
    · rw [spans_eq] at hr
      obtain ⟨q, hq, rfl⟩ := List.mem_map.mp hr
      have := k.inside q hq
      have := fits q hq
      dsimp only
      omega
    · rw [spans_eq, List.pairwise_map]
      refine k.apart.imp fun h => ?_
      simp only [Apart] at h ⊢
      omega
  have member {i : Nat} (small : i < 128) : entryAt primary i ∈ entries (primary.drop 1024) :=
    List.mem_of_getElem? ((entries_getElem lp).mpr ⟨small, rfl⟩)
  have start {i : Nat} (small : i < 128) (used : inUse (entryAt primary i) = true) :
      u64at (entryAt (relocatedPrimary primary target) i) 32 =
        u64at (entryAt primary i) 32 + 32768 := by
    obtain ⟨s1, s2⟩ := k.used_span below (member small) used
    rw [entryAt_relocated k small]
    exact (moveEntry_span (length_entryAt lp small) used (by omega) (by omega)).1
  refine relocated_ok.mpr ⟨k, ?_, protective, room, rfl, rfl, healthy, fun i label known => ?_,
    fun i above small => ?_, ?_⟩
  · rw [← entryAt_start]
    exact first
  · have small : i < labels.length := (List.getElem?_eq_some_iff.mp known).1
    have small : i < 128 := Nat.lt_trans small (by decide)
    obtain ⟨used, name, low⟩ := named i label known
    refine ⟨?_, by rw [start small used]; omega⟩
    rw [entryAt_relocated k small, ← name]
    unfold nameUnits
    -- the name stands behind the span, and only the span moves
    have unit (j : Nat) : slice (moveEntry (entryAt primary i)) (56 + 2 * j) 2 =
        slice (entryAt primary i) (56 + 2 * j) 2 :=
      slice_moveEntry (length_entryAt lp small) (by omega)
    simp only [unit]
  · have zero := empty i above small
    have free : inUse (entryAt primary i) = false := by
      rw [inUse, List.any_eq_false]
      intro x hx
      simp only [bne_iff_ne, not_not]
      exact zero x (mem_of_mem_slice hx)
    rw [entryAt_relocated k small, moveEntry, free]
    exact zero
  · rw [start (by decide) (named 0 _ rfl).1, first]

end

open Scripts.GptImage (arrayBlocks arrayOf arrayBlocks_each mbrOf_fields entryOf_start)

/-- Partitions of one sector each at the start of an image. -/
def imageSpans : List (Nat × Nat) :=
  [(2048, 2048), (2049, 2049), (2050, 2050), (2051, 2051), (2052, 2052), (2053, 2053),
    (2054, 2054), (2055, 2055)]

/-- Images of every size with these partitions are relocated to every target the test admits. -/
lemma imageSpans_relocated {n target : UInt32} (big : 34849 < n.toNat)
    (room : min (n.toNat + 32768) (2 ^ 32 - 1) ≤ target.toNat) :
    ∃ a b, relocated (primaryWith n.toNat (arrayOf imageSpans))
      (tailWith n.toNat (arrayOf imageSpans)) n target = .ok (a, b) := by
  have below := UInt32.toNat_lt n
  have eight : imageSpans.length = 8 := rfl
  have inside : ∀ s ∈ imageSpans, 2048 ≤ s.1 ∧ s.1 ≤ s.2 ∧ s.2 ≤ 2055 := by decide
  obtain ⟨fits, read⟩ := arrayOf_fitting (l := imageSpans) big below eight
    (fun s hs => by have := inside s hs; omega) (by decide)
  obtain ⟨len, front, -, array⟩ := primaryWith_parts fits
  obtain ⟨-, -, -, m4, m5, m6⟩ := mbrOf_fields below
  have field (o l : Nat) (d : o + l ≤ 512) :
      slice (primaryWith n.toNat (arrayOf imageSpans)) o l =
        slice (Scripts.GptImage.mbrOf n.toNat) o l := by
    rw [← slice_take (n := 512) d, front]
  have entry {i : Nat} {label : String} {s : Nat × Nat} (h1 : labels[i]? = some label)
      (h2 : imageSpans[i]? = some s) :
      entryAt (primaryWith n.toNat (arrayOf imageSpans)) i =
        Scripts.GptImage.entryOf label s := by
    have small : i < labels.length := (List.getElem?_eq_some_iff.mp h1).1
    have found := entries_labelled arrayBlocks_each fits (Nat.lt_trans small (by decide))
    rw [arrayBlocks_labelled eight h1 h2] at found
    exact Option.some.inj found
  have start {label : String} {s : Nat × Nat} (h : s ∈ imageSpans) :
      u64at (Scripts.GptImage.entryOf label s) 32 = s.1 := by
    have := inside s h
    rw [u64at, entryOf_start, fromLe_toLe_of_lt (by omega)]
  refine ⟨_, _, relocated_succeeds (pair_healthy fits) ⟨?_, ?_, ?_⟩ room ?_
    (fun i label known => ?_) (fun i above small => ?_) ?_⟩
  · rw [u32at, field 454 4 (by decide)]
    exact m4
  · rw [u32at, field 458 4 (by decide)]
    exact m5
  · rw [field 462 48 (by decide), m6, zeros]
    rfl
  · rw [array, read]
    intro s hs
    have := inside s hs
    omega
  · obtain ⟨s, hs, member⟩ := span_of_label eight known
    rw [entry known hs]
    refine ⟨inUse_entryOf, entryOf_named (List.mem_of_getElem? known), ?_⟩
    rw [start member]
    exact (inside s member).1
  · exact arrayBlocks_empty eight above (entries_labelled arrayBlocks_each fits small).symm
  · rw [entry (i := 0) rfl rfl]
    exact start (List.mem_cons_self)

/-- An image of 34900 sectors on a target with exactly the room for it. -/
theorem relocated_fits_sample : ∃ a b,
    relocated (primaryWith 34900 (arrayOf imageSpans)) (tailWith 34900 (arrayOf imageSpans))
      34900 67668 = .ok (a, b) ∧ 34900 + 32768 ≤ 67668 ∧
      Relocated (primaryWith 34900 (arrayOf imageSpans)) a b 67668 := by
  obtain ⟨a, b, done⟩ := @imageSpans_relocated 34900 67668 (by decide) (by decide)
  exact ⟨a, b, done, (relocated_fits_iff done).mpr (by decide)⟩

/-- The largest source is relocated to a target of its own size. -/
theorem relocated_without_room : ∃ a b,
    relocated (primaryWith 4294967295 (arrayOf imageSpans))
      (tailWith 4294967295 (arrayOf imageSpans)) 4294967295 4294967295 = .ok (a, b) ∧
      ¬ 4294967295 + 32768 ≤ (4294967295 : UInt32).toNat := by
  obtain ⟨a, b, done⟩ := @imageSpans_relocated 4294967295 4294967295 (by decide) (by decide)
  exact ⟨a, b, done, by decide⟩

end K11CHaos.Engine.Gpt
