import K11CHaos.Engine.Archive
import K11CHaos.Engine.FixturePair

/-!
# The ranges of a backup

`archive::ranges` takes the places of the HAOS partitions from their entries. `check` bounds the entries
in use and `require_k11c` the starts of all eight, so an entry whose type GUID is zero keeps whatever
end it has. The ranges are sound exactly when the entries that `check` passes over are bounded too.
-/

namespace K11CHaos.Engine.Archive
open Gpt (entryAt inUse u64at Apart K11c)

/-- The two sector numbers of an entry. -/
def spanAt (primary : Bytes) (i : Nat) : Nat × Nat :=
  (u64at (entryAt primary i) 32, u64at (entryAt primary i) 40)

/-- A range that stands for a span: the LBA is the start, and the length is computed without
leaving the 64-bit numbers. -/
structure Exact (span : Nat × Nat) (r : Range) : Prop where
  lba : r.lba.toNat = span.1
  order : span.1 ≤ span.2
  small : (span.2 - span.1 + 1) * 512 < 2 ^ 64
  bytes : r.bytes = (span.2 - span.1 + 1) * 512

/-- Two byte windows that do not meet. -/
def Separate (r s : Range) : Prop :=
  r.lba.toNat * 512 + r.bytes ≤ s.lba.toNat * 512 ∨ s.lba.toNat * 512 + s.bytes ≤ r.lba.toNat * 512

/-- Ranges that a backup of a device can be made from. -/
structure Sound (kind : String) (primary : Bytes) (sectors : Nat) (rs : List Range) : Prop where
  some' : ∀ r ∈ rs, 0 < r.bytes
  inside : ∀ r ∈ rs, r.lba.toNat * 512 + r.bytes ≤ sectors * 512
  apart : rs.Pairwise Separate
  parts : kind = "HAOS" → ∀ i < 8, ∃ r, rs[i]? = some r ∧ Exact (spanAt primary i) r ∧
    34816 ≤ r.lba.toNat ∧ r.lba.toNat * 512 + r.bytes ≤ (sectors - 33) * 512

/-- The entries of HAOS that `check` passes over are in order, before the backup GPT, and meet no
other. -/
def SkippedBounded (primary : Bytes) (sectors : Nat) : Prop :=
  ∀ i < 8, inUse (entryAt primary i) = false →
    (spanAt primary i).1 ≤ (spanAt primary i).2 ∧ (spanAt primary i).2 < sectors - 33 ∧
      ∀ j < 8, j ≠ i → Apart (spanAt primary i) (spanAt primary j)

section
variable {primary tail : Bytes} {sectors : UInt32} {rs : List Range} {kind : String}

/-- When `ranges` returns, and what. -/
lemma ranges_ok : ranges kind primary tail sectors = .ok rs ↔
    34849 < sectors.toNat ∧
      (kind = "FULL" ∧ rs = [⟨"Full eMMC user area", 0, sectors.toNat * 512, ""⟩] ∨
        K11c primary tail sectors.toNat ∧
          (kind = "BOOT" ∧ rs = [⟨"Boot firmware and primary GPT", 0, 34816 * 512, ""⟩,
              ⟨"Backup GPT", sectors - 33, 33 * 512, ""⟩] ∨
            kind = "HAOS" ∧ rs = ((Gpt.entries (primary.drop 1024)).take 8).map partitionRange)) := by
  have size : ¬ sectors ≤ 34849 ↔ 34849 < sectors.toNat := by
    rw [UInt32.not_le, UInt32.lt_iff_toNat_lt]
    rfl
  unfold ranges kindOf
  simp only [bind_ok, deny_ok, size]
  -- the kind is looked at twice: `kindOf` refuses the unknown ones first
  by_cases full : kind = "FULL"
  · subst full
    constructor
    · rintro ⟨_, -, _, big, h⟩
      rw [if_pos rfl] at h
      cases h
      exact ⟨big, .inl ⟨rfl, rfl⟩⟩
    · rintro ⟨big, ⟨-, rfl⟩ | ⟨-, ⟨e, -⟩ | ⟨e, -⟩⟩⟩
      · exact ⟨(), by decide, (), big, by rw [if_pos rfl]; rfl⟩
      · exact absurd e (by decide)
      · exact absurd e (by decide)
  · rw [if_neg full]
    by_cases boot : kind = "BOOT"
    · subst boot
      rw [if_pos rfl]
      constructor
      · rintro ⟨_, -, _, big, h⟩
        obtain ⟨_, layout, h1⟩ := bind_ok.mp h
        cases h1
        exact ⟨big, .inr ⟨Gpt.requireK11c_layout.mp layout, .inl ⟨rfl, rfl⟩⟩⟩
      · rintro ⟨big, ⟨e, -⟩ | ⟨k, ⟨-, rfl⟩ | ⟨e, -⟩⟩⟩
        · exact absurd e (by decide)
        · exact ⟨(), by decide, (), big,
            bind_ok.mpr ⟨(), Gpt.requireK11c_layout.mpr k, rfl⟩⟩
        · exact absurd e (by decide)
    · rw [if_neg boot]
      constructor
      · rintro ⟨_, known, _, big, h⟩
        obtain ⟨_, layout, h1⟩ := bind_ok.mp h
        cases h1
        have haos : kind = "HAOS" := not_not.mp fun no => known ⟨full, boot, no⟩
        exact ⟨big, .inr ⟨Gpt.requireK11c_layout.mp layout, .inr ⟨haos, rfl⟩⟩⟩
      · rintro ⟨big, ⟨e, -⟩ | ⟨k, ⟨e, -⟩ | ⟨e, rfl⟩⟩⟩
        · exact absurd e full
        · exact absurd e boot
        · exact ⟨(), fun no => no.2.2 e, (), big,
            bind_ok.mpr ⟨(), Gpt.requireK11c_layout.mpr k, rfl⟩⟩

/-- The arithmetic of a range is exact for a span below 2^32. -/
lemma partitionRange_exact {e : Bytes} (order : u64at e 32 ≤ u64at e 40)
    (small : u64at e 40 < 2 ^ 32) : Exact (u64at e 32, u64at e 40) (partitionRange e) := by
  have wide : UInt64.size = 2 ^ 64 := rfl
  have narrow : UInt32.size = 2 ^ 32 := rfl
  have start : (UInt64.ofNat (u64at e 32)).toNat = u64at e 32 :=
    UInt64.toNat_ofNat_of_lt' (by omega)
  have last : (UInt64.ofNat (u64at e 40)).toNat = u64at e 40 :=
    UInt64.toNat_ofNat_of_lt' (by omega)
  have le : UInt64.ofNat (u64at e 32) ≤ UInt64.ofNat (u64at e 40) := by
    rw [UInt64.le_iff_toNat_le, start, last]
    exact order
  have gap : (UInt64.ofNat (u64at e 40) - UInt64.ofNat (u64at e 32)).toNat =
      u64at e 40 - u64at e 32 := by
    rw [UInt64.toNat_sub_of_le _ _ le, start, last]
  have one : UInt64.toNat 1 = 1 := rfl
  have sector : UInt64.toNat 512 = 512 := rfl
  refine ⟨?_, order, by dsimp only; omega, ?_⟩
  · exact UInt32.toNat_ofNat_of_lt' (by omega)
  · show ((UInt64.ofNat (u64at e 40) - UInt64.ofNat (u64at e 32) + 1) * 512).toNat = _
    rw [UInt64.toNat_mul, UInt64.toNat_add, gap, one, sector]
    dsimp only
    omega

/-- The ranges of a HAOS backup are those of the eight entries. -/
lemma haos_range (k : K11c primary tail sectors.toNat) {i : Nat} (small : i < 8) :
    (((Gpt.entries (primary.drop 1024)).take 8).map partitionRange)[i]? =
      some (partitionRange (entryAt primary i)) := by
  have found := (Gpt.entries_getElem k.healthy.sizePrimary).mpr
    ⟨Nat.lt_trans small (by decide), rfl⟩
  rw [List.getElem?_map, List.getElem?_take, if_pos small, found]
  rfl

/-- The eight HAOS partitions have a range each. -/
lemma haos_length (k : K11c primary tail sectors.toNat) :
    (((Gpt.entries (primary.drop 1024)).take 8).map partitionRange).length = 8 := by
  rw [List.length_map, List.length_take, Gpt.entries, List.length_map, List.length_range,
    List.length_drop, k.healthy.sizePrimary]
  rfl

/-- What `check` says of an entry in use. -/
lemma used_bounds (k : K11c primary tail sectors.toNat) {i : Nat} (small : i < 128)
    (used : inUse (entryAt primary i) = true) :
    (spanAt primary i).1 ≤ (spanAt primary i).2 ∧ (spanAt primary i).2 < sectors.toNat - 33 := by
  have found := (Gpt.entries_getElem k.healthy.sizePrimary).mpr ⟨small, rfl⟩
  have member : spanAt primary i ∈ Gpt.spans (primary.drop 1024) :=
    List.mem_map.mpr ⟨_, List.mem_filter.mpr ⟨List.mem_of_getElem? found, used⟩, rfl⟩
  have inside := k.healthy.inside _ member
  have bounds := k.healthy.bounds
  omega

/-- Two entries in use lie apart. -/
lemma used_apart (k : K11c primary tail sectors.toNat) {i j : Nat} (hi : i < 128) (hj : j < 128)
    (ne : i ≠ j) (ui : inUse (entryAt primary i) = true) (uj : inUse (entryAt primary j) = true) :
    Apart (spanAt primary i) (spanAt primary j) := by
  have len := k.healthy.sizePrimary
  have all := k.healthy.apart
  rw [Gpt.spans, List.pairwise_map, List.pairwise_filter, List.pairwise_iff_getElem] at all
  have at' {m : Nat} (hm : m < 128) : ∃ h : m < (Gpt.entries (primary.drop 1024)).length,
      (Gpt.entries (primary.drop 1024))[m] = entryAt primary m :=
    List.getElem?_eq_some_iff.mp ((Gpt.entries_getElem len).mpr ⟨hm, rfl⟩)
  obtain ⟨li, ei⟩ := at' hi
  obtain ⟨lj, ej⟩ := at' hj
  obtain lt | gt := Nat.lt_or_gt_of_ne ne
  · have h := all i j li lj lt (ei ▸ ui) (ej ▸ uj)
    rwa [ei, ej] at h
  · have h := all j i lj li gt (ej ▸ uj) (ei ▸ ui)
    rw [ei, ej] at h
    exact h.symm

/-- Spans that are apart have separate ranges. -/
lemma separate_of_apart {a b : Nat × Nat} {r s : Range} (ha : Exact a r) (hb : Exact b s)
    (apart : Apart a b) : Separate r s := by
  have := ha.order
  have := hb.order
  rw [Separate, ha.lba, hb.lba, ha.bytes, hb.bytes]
  simp only [Apart] at apart
  omega

/-- Exact ranges that lie apart come from spans that do. -/
lemma apart_of_separate {a b : Nat × Nat} {r s : Range} (ha : Exact a r) (hb : Exact b s)
    (separate : Separate r s) : Apart a b := by
  have := ha.order
  have := hb.order
  rw [Separate, ha.lba, hb.lba, ha.bytes, hb.bytes] at separate
  simp only [Apart]
  omega

/-- The places of all eight entries, used or passed over. -/
lemma haos_sound (k : K11c primary tail sectors.toNat)
    (bounded : SkippedBounded primary sectors.toNat) :
    Sound kind primary sectors.toNat
      (((Gpt.entries (primary.drop 1024)).take 8).map partitionRange) := by
  have below := UInt32.toNat_lt sectors
  have big := k.healthy.big
  -- `check` bounds the used entries only; the first eight may hold an entry with a zero type
  have place (i : Nat) (small : i < 8) : (spanAt primary i).1 ≤ (spanAt primary i).2 ∧
      (spanAt primary i).2 < sectors.toNat - 33 := by
    cases used : inUse (entryAt primary i) with
    | true => exact used_bounds k (Nat.lt_trans small (by decide)) used
    | false => exact ⟨(bounded i small used).1, (bounded i small used).2.1⟩
  have start (i : Nat) (small : i < 8) : 34816 ≤ (spanAt primary i).1 :=
    (k.named i _ (List.getElem?_eq_getElem (l := Gpt.labels) small)).2
  have apart (i j : Nat) (hi : i < 8) (hj : j < 8) (ne : i ≠ j) :
      Apart (spanAt primary i) (spanAt primary j) := by
    cases ui : inUse (entryAt primary i) with
    | false => exact (bounded i hi ui).2.2 j hj ne.symm
    | true =>
      cases uj : inUse (entryAt primary j) with
      | false => exact ((bounded j hj uj).2.2 i hi ne).symm
      | true => exact used_apart k (by omega) (by omega) ne ui uj
  have exact' (i : Nat) (small : i < 8) :
      Exact (spanAt primary i) (partitionRange (entryAt primary i)) := by
    have := place i small
    exact partitionRange_exact this.1 (Nat.lt_trans this.2 (by omega))
  have each : ∀ r ∈ ((Gpt.entries (primary.drop 1024)).take 8).map partitionRange,
      ∃ i < 8, r = partitionRange (entryAt primary i) := by
    intro r hr
    obtain ⟨i, hi, rfl⟩ := List.getElem_of_mem hr
    have small : i < 8 := haos_length k ▸ hi
    refine ⟨i, small, ?_⟩
    exact Option.some.inj ((List.getElem?_eq_getElem hi).symm.trans (haos_range k small))
  refine ⟨fun r hr => ?_, fun r hr => ?_, ?_, fun _ i small => ?_⟩
  · obtain ⟨i, small, rfl⟩ := each r hr
    rw [(exact' i small).bytes]
    omega
  · obtain ⟨i, small, rfl⟩ := each r hr
    have := place i small
    rw [(exact' i small).lba, (exact' i small).bytes]
    omega
  · rw [List.pairwise_iff_getElem]
    intro i j hi hj lt
    have si : i < 8 := haos_length k ▸ hi
    have sj : j < 8 := haos_length k ▸ hj
    have ei := Option.some.inj ((List.getElem?_eq_getElem hi).symm.trans (haos_range k si))
    have ej := Option.some.inj ((List.getElem?_eq_getElem hj).symm.trans (haos_range k sj))
    rw [ei, ej]
    exact separate_of_apart (exact' i si) (exact' j sj) (apart i j si sj (Nat.ne_of_lt lt))
  · refine ⟨_, haos_range k small, exact' i small, ?_, ?_⟩
    · rw [(exact' i small).lba]
      exact start i small
    · have := place i small
      rw [(exact' i small).lba, (exact' i small).bytes]
      omega

/-- The ranges of a backup are sound exactly when the entries of HAOS that `check` passes over are
bounded. -/
theorem ranges_sound_iff (done : ranges kind primary tail sectors = .ok rs) :
    Sound kind primary sectors.toNat rs ↔
      (kind = "HAOS" → SkippedBounded primary sectors.toNat) := by
  obtain ⟨big, ⟨full, rfl⟩ | ⟨k, ⟨boot, rfl⟩ | ⟨haos, rfl⟩⟩⟩ := ranges_ok.mp done
  · subst full
    refine ⟨fun _ h => absurd h (by decide), fun _ => ⟨?_, ?_, List.pairwise_singleton _ _,
      fun h => absurd h (by decide)⟩⟩
    · simp only [List.forall_mem_singleton]
      omega
    · simp only [List.forall_mem_singleton]
      exact Nat.le_of_eq (by rw [show UInt32.toNat 0 = 0 from rfl]; omega)
  · subst boot
    have back : (sectors - 33).toNat = sectors.toNat - 33 :=
      UInt32.toNat_sub_of_le _ _ (UInt32.le_iff_toNat_le.mpr (by
        rw [show UInt32.toNat 33 = 33 from rfl]
        omega))
    have zero : UInt32.toNat 0 = 0 := rfl
    refine ⟨fun _ h => absurd h (by decide), fun _ => ⟨?_, ?_, ?_, fun h => absurd h (by decide)⟩⟩
    · simp only [List.forall_mem_cons]
      exact ⟨by decide, by decide, nofun⟩
    · simp only [List.forall_mem_cons, back, zero]
      exact ⟨by omega, by omega, nofun⟩
    · simp only [List.pairwise_cons, List.forall_mem_cons, Separate, back, zero]
      exact ⟨⟨by omega, nofun⟩, nofun, .nil⟩
  · -- only the ranges of HAOS come from entries; the bounds of an unused one are read off its range
    refine ⟨fun sound _ i small skipped => ?_, fun bounded => haos_sound k (bounded haos)⟩
    obtain ⟨r, hr, exact', -, high⟩ := sound.parts haos i small
    have order := exact'.order
    rw [exact'.lba, exact'.bytes] at high
    refine ⟨order, by omega, fun j hj ne => ?_⟩
    obtain ⟨t, ht, exact'', -⟩ := sound.parts haos j hj
    have all := sound.apart
    rw [List.pairwise_iff_getElem] at all
    obtain ⟨li, ei⟩ := List.getElem?_eq_some_iff.mp hr
    obtain ⟨lj, ej⟩ := List.getElem?_eq_some_iff.mp ht
    refine apart_of_separate exact' exact'' ?_
    obtain lt | gt := Nat.lt_or_gt_of_ne ne
    · have h := all j i lj li lt
      rw [ei, ej] at h
      exact h.symm
    · have h := all i j li lj gt
      rwa [ei, ej] at h

end

/-- The ranges of the sample are sound. -/
theorem sample_ranges_sound : ∃ rs,
    ranges "HAOS" Gpt.samplePair.1 Gpt.samplePair.2 34900 = .ok rs ∧
      Sound "HAOS" Gpt.samplePair.1 34900 rs := by
  have k : K11c Gpt.samplePair.1 Gpt.samplePair.2 (UInt32.toNat 34900) := Gpt.samplePair_layout
  have done := ranges_ok.mpr ⟨k.healthy.big, .inr ⟨k, .inr ⟨rfl, rfl⟩⟩⟩
  refine ⟨_, done, (ranges_sound_iff done).mpr fun _ i small skipped => ?_⟩
  -- every entry of the sample is in use
  obtain ⟨s, hs, -⟩ := Gpt.span_of_label (l := Scripts.GptImage.plainSpans) rfl
    (List.getElem?_eq_getElem (l := Gpt.labels) small)
  have fits : Gpt.Fitting 34900 (Scripts.GptImage.arrayOf Scripts.GptImage.plainSpans) :=
    (Gpt.arrayOf_fitting (by decide) (by decide) (by decide) (by decide) (by decide)).1
  have found := Gpt.entries_labelled Scripts.GptImage.arrayBlocks_each fits
    (Nat.lt_trans small (by decide))
  rw [Gpt.arrayBlocks_labelled rfl (List.getElem?_eq_getElem (l := Gpt.labels) small) hs] at found
  have used := Gpt.inUse_entryOf ▸ congrArg inUse (Option.some.inj found)
  exact absurd (used.symm.trans skipped) (by decide)

open Scripts.GptImage (entryOf entryOf_length entryOf_start entryOf_stop entryOf_unit
  flatten_length)

/-- An entry that has a name and a place but no type. -/
def untyped (label : String) (span : Nat × Nat) : Bytes :=
  put (entryOf label span) 0 [0]

section
variable {label : String} {span : Nat × Nat}

/-- An entry without type is 128 bytes. -/
lemma untyped_length (h : label ∈ Gpt.labels) : (untyped label span).length = 128 := by
  have len := @entryOf_length label span h
  rw [untyped, length_put (by rw [len]; decide), len]

/-- Behind the type nothing is missing. -/
lemma slice_untyped (h : label ∈ Gpt.labels) {o l : Nat} (behind : 1 ≤ o) :
    slice (untyped label span) o l = slice (entryOf label span) o l := by
  have len := @entryOf_length label span h
  exact slice_put_of_disjoint (by rw [len]; decide) (.inr behind)

/-- An entry without type is not in use. -/
lemma untyped_skipped : inUse (untyped label span) = false := by
  unfold inUse untyped put entryOf slice zeros
  rfl

end

/-- Seven partitions of one sector each, and a last one without a type that starts behind 2^32. -/
def strayBlocks : List Bytes :=
  List.zipWith entryOf (Gpt.labels.take 7) (Scripts.GptImage.plainSpans.take 7) ++
    (untyped "hassos-data" (4295002119, 4295002119) :: List.replicate 120 (zeros 128))

/-- Every block of the array is 128 bytes. -/
lemma strayBlocks_each : ∀ b ∈ strayBlocks, b.length = 128 := by
  intro b hb
  obtain named | rest := List.mem_append.mp hb
  · obtain ⟨i, hi, rfl⟩ := List.getElem_of_mem named
    rw [List.getElem_zipWith]
    exact entryOf_length (List.mem_of_mem_take (List.getElem_mem _))
  · obtain rfl | free := List.mem_cons.mp rest
    · exact untyped_length (by decide)
    · rw [(List.mem_replicate.mp free).2, length_zeros]

/-- The untyped entry has no span. -/
lemma strayBlocks_spans : Gpt.spans strayBlocks.flatten = Scripts.GptImage.plainSpans.take 7 := by
  rw [Gpt.spans, Scripts.GptImage.entries_flatten strayBlocks_each, strayBlocks, List.filter_append,
    List.filter_cons_of_neg (by rw [untyped_skipped]; exact Bool.false_ne_true),
    ← List.filter_append]
  exact Gpt.spans_labelled rfl (by decide)

/-- The array fits 34900 sectors. -/
lemma strayBlocks_fitting : Gpt.Fitting 34900 strayBlocks.flatten := by
  refine ⟨by decide, by decide, ?_, ?_, ?_⟩
  · rw [flatten_length strayBlocks_each, strayBlocks, List.length_append, List.length_zipWith,
      List.length_cons, List.length_replicate]
    rfl
  · rw [strayBlocks_spans]
    decide
  · rw [strayBlocks_spans]
    decide

/-- The named blocks, with the last one for its name alone. -/
lemma strayBlocks_named {i : Nat} {label : String} (known : Gpt.labels[i]? = some label) :
    ∃ e, strayBlocks[i]? = some e ∧
      Gpt.fromUtf16 (Gpt.nameUnits e) = some label ∧ 34816 ≤ u64at e 32 := by
  have small : i < 8 := (List.getElem?_eq_some_iff.mp known).1
  have first : (List.zipWith entryOf (Gpt.labels.take 7)
      (Scripts.GptImage.plainSpans.take 7)).length = 7 := rfl
  by_cases last : i = 7
  · subst last
    cases known
    have member : "hassos-data" ∈ Gpt.labels := by decide
    refine ⟨untyped "hassos-data" (4295002119, 4295002119), ?_, ?_, ?_⟩
    · rw [strayBlocks, List.getElem?_append_right (by rw [first]), first]
      rfl
    · rw [← @Gpt.entryOf_named _ (4295002119, 4295002119) member]
      unfold Gpt.nameUnits
      have unit (j : Nat) : slice (untyped "hassos-data" (4295002119, 4295002119)) (56 + 2 * j) 2 =
          slice (entryOf "hassos-data" (4295002119, 4295002119)) (56 + 2 * j) 2 :=
        slice_untyped member (by omega)
      simp only [unit]
    · rw [u64at, slice_untyped member (by decide), entryOf_start, fromLe_toLe_of_lt (by decide)]
      decide
  · have before : i < 7 := by omega
    have spans : ∀ s ∈ Scripts.GptImage.plainSpans, 34816 ≤ s.1 ∧ s.1 < 2 ^ 64 := by decide
    obtain ⟨s, hs, member⟩ := Gpt.span_of_label (l := Scripts.GptImage.plainSpans) rfl known
    obtain ⟨low, high⟩ := spans s member
    refine ⟨entryOf label s, ?_, Gpt.entryOf_named (List.mem_of_getElem? known), ?_⟩
    · rw [strayBlocks, List.getElem?_append_left (by rw [first]; exact before),
        List.getElem?_zipWith, List.getElem?_take, if_pos before, List.getElem?_take,
        if_pos before, known, hs]
    · rw [u64at, entryOf_start, fromLe_toLe_of_lt high]
      exact low

/-- The pair has the layout of HAOS. -/
lemma strayBlocks_layout : K11c (Gpt.primaryWith 34900 strayBlocks.flatten)
    (Gpt.tailWith 34900 strayBlocks.flatten) 34900 := by
  refine Gpt.pair_layout strayBlocks_each strayBlocks_fitting
    (fun i label known => strayBlocks_named known) (fun i e above found => ?_) fun e found => ?_
  · have eight : (List.zipWith entryOf (Gpt.labels.take 7)
        (Scripts.GptImage.plainSpans.take 7)).length = 7 := rfl
    rw [strayBlocks, List.getElem?_append_right (by rw [eight]; omega), eight,
      List.getElem?_cons, if_neg (by omega)] at found
    obtain rfl := (List.mem_replicate.mp (List.mem_of_getElem? found)).2
    intro b hb
    rw [zeros] at hb
    exact (List.mem_replicate.mp hb).2
  · have head : strayBlocks[0]? = some (entryOf "hassos-boot" (34816, 34816)) := rfl
    rw [head] at found
    cases found
    rw [u64at, entryOf_start, fromLe_toLe_of_lt (by decide)]

/-- A K11C layout whose last HAOS entry has no type: its range is at the start of the entry modulo
2^32. -/
theorem stray_range : ∃ rs r,
    ranges "HAOS" (Gpt.primaryWith 34900 strayBlocks.flatten)
        (Gpt.tailWith 34900 strayBlocks.flatten) 34900 = .ok rs ∧
      rs[7]? = some r ∧ r.lba = 34823 ∧
      (spanAt (Gpt.primaryWith 34900 strayBlocks.flatten) 7).1 = 4295002119 ∧
      ¬ Sound "HAOS" (Gpt.primaryWith 34900 strayBlocks.flatten) 34900 rs := by
  have k : K11c (Gpt.primaryWith 34900 strayBlocks.flatten)
      (Gpt.tailWith 34900 strayBlocks.flatten) (UInt32.toNat 34900) := strayBlocks_layout
  have done := ranges_ok.mpr ⟨k.healthy.big, .inr ⟨k, .inr ⟨rfl, rfl⟩⟩⟩
  have member : "hassos-data" ∈ Gpt.labels := by decide
  have entry : entryAt (Gpt.primaryWith 34900 strayBlocks.flatten) 7 =
      untyped "hassos-data" (4295002119, 4295002119) := by
    have found := Gpt.entries_labelled strayBlocks_each strayBlocks_fitting (i := 7) (by decide)
    exact Option.some.inj (found.trans rfl)
  have start : u64at (untyped "hassos-data" (4295002119, 4295002119)) 32 = 4295002119 := by
    rw [u64at, slice_untyped member (by decide), entryOf_start, fromLe_toLe_of_lt (by decide)]
  have lba : (partitionRange (entryAt (Gpt.primaryWith 34900 strayBlocks.flatten) 7)).lba =
      34823 := by
    rw [entry, partitionRange]
    dsimp only
    rw [start]
    rfl
  refine ⟨_, _, done, haos_range k (by decide), lba, ?_, fun sound => ?_⟩
  · rw [spanAt, entry, start]
  · obtain ⟨r, hr, exact', -⟩ := sound.parts rfl 7 (by decide)
    rw [haos_range k (by decide)] at hr
    cases hr
    have same := exact'.lba
    rw [lba, spanAt, entry, start] at same
    exact absurd same (by decide)

end K11CHaos.Engine.Archive
