import K11CHaos.Engine.K11cLayout
import K11CHaos.Scripts.Fixture

/-!
# The two K11C layout checks

`inspect_image(path, k11c=True)` beside `gpt::require_k11c` of the engine, on one image. Both walk
the same 128 entries. The engine wants each of the eight partitions at or above sector 34816 and
every other entry zero; the script looks at the first partition only, and passes over an entry
whose type is zero whatever else it holds.
-/

namespace K11CHaos.Scripts.GptImage
open Engine.Gpt

/-- A unit that is not a surrogate is a character of its own. -/
lemma decodeUtf16_cons {u : Nat} {us : List Nat} (h : u < 0xd800 ∨ 0xdfff < u) :
    decodeUtf16 (u :: us) = some (Char.ofNat u) :: decodeUtf16 us := by
  cases us with
  | nil =>
    rw [decodeUtf16, decodeUtf16]
    exact if_pos h
  | cons l us => rw [decodeUtf16, if_pos h]

/-- A valid character has its code. -/
lemma toNat_ofNat {n : Nat} (valid : n.isValidChar) : (Char.ofNat n).toNat = n := by
  unfold Char.ofNat
  rw [dif_pos valid]
  rfl

/-- Only zero is the character zero. -/
lemma ofNat_eq_zero {u : Nat} (small : u < 65536) (h : u < 0xd800 ∨ 0xdfff < u) :
    Char.ofNat u = Char.ofNat 0 ↔ u = 0 := by
  refine ⟨fun e => ?_, fun e => e ▸ rfl⟩
  have valid : u.isValidChar := h.imp_right fun k => ⟨k, by omega⟩
  have := congrArg Char.toNat e
  rwa [toNat_ofNat valid] at this

/-- Decoding up to the first zero unit is decoding all and stopping at the first zero. -/
lemma decode_takeWhile {us : List Nat} {cs : List Char}
    (small : ∀ u ∈ us, u < 65536)
    (h : (decodeUtf16 us).mapM id = some cs) :
    (decodeUtf16 (us.takeWhile (· ≠ 0))).mapM id =
      some (cs.takeWhile (· ≠ Char.ofNat 0)) := by
  have plain (u : Nat) (us : List Nat) (cs : List Char) (hu : u < 65536)
      (k : u < 0xd800 ∨ 0xdfff < u)
      (h : (some (Char.ofNat u) :: decodeUtf16 us).mapM id = some cs)
      (ih : ∀ cs, (decodeUtf16 us).mapM id = some cs →
        (decodeUtf16 (us.takeWhile (· ≠ 0))).mapM id =
          some (cs.takeWhile (· ≠ Char.ofNat 0))) :
      (decodeUtf16 ((u :: us).takeWhile (· ≠ 0))).mapM id =
        some (cs.takeWhile (· ≠ Char.ofNat 0)) := by
    simp only [List.mapM_cons, id, Option.bind_eq_bind, Option.bind_some, Option.pure_def,
      Option.bind_eq_some_iff] at h
    obtain ⟨tl, h1, h2⟩ := h
    cases h2
    have zero := ofNat_eq_zero hu k
    by_cases hz : u = 0
    · rw [List.takeWhile_cons_of_neg (by simpa using hz),
        List.takeWhile_cons_of_neg (by simpa using zero.mpr hz)]
      rfl
    · rw [List.takeWhile_cons_of_pos (by simpa using hz),
        List.takeWhile_cons_of_pos (by simpa using fun e => hz (zero.mp e)),
        decodeUtf16_cons k, List.mapM_cons, ih tl h1]
      rfl
  induction us using decodeUtf16.induct generalizing cs with
  | case1 =>
    cases h
    rfl
  | case2 u l us k ih =>
    rw [decodeUtf16, if_pos k] at h
    exact plain u (l :: us) cs (small u List.mem_cons_self) k h fun cs hc =>
      ih (fun v hv => small v (List.mem_cons_of_mem _ hv)) hc
  | case3 u l us k pair ih =>
    rw [decodeUtf16, if_neg k, if_pos pair, List.mapM_cons] at h
    simp only [id, Option.bind_eq_bind, Option.bind_some, Option.pure_def,
      Option.bind_eq_some_iff] at h
    obtain ⟨tl, h1, h2⟩ := h
    cases h2
    have rest := ih (fun v hv => small v (List.mem_cons_of_mem _ (List.mem_cons_of_mem _ hv))) h1
    have nz : Char.ofNat (0x10000 + (u - 0xd800) * 0x400 + (l - 0xdc00)) ≠ Char.ofNat 0 := by
      intro e
      have valid : (0x10000 + (u - 0xd800) * 0x400 + (l - 0xdc00)).isValidChar :=
        .inr ⟨by omega, by omega⟩
      have := congrArg Char.toNat e
      rw [toNat_ofNat valid] at this
      have : (Char.ofNat 0).toNat = 0 := rfl
      omega
    rw [List.takeWhile_cons_of_pos (by simp; omega), List.takeWhile_cons_of_pos (by simp; omega),
      List.takeWhile_cons_of_pos (by simpa using nz), decodeUtf16, if_neg k, if_pos pair,
      List.mapM_cons, rest]
    rfl
  | case4 u l us k pair ih =>
    rw [decodeUtf16, if_neg k, if_neg pair, List.mapM_cons] at h
    cases h
  | case5 u k =>
    rw [decodeUtf16, if_pos k] at h
    refine plain u [] cs (small u List.mem_cons_self) k (by rwa [decodeUtf16]) fun cs hc => ?_
    cases hc
    rfl
  | case6 u k =>
    rw [decodeUtf16, if_neg k] at h
    cases h

/-- A name the script reads is the name the engine reads. -/
lemma partName_label {e : Bytes} {name : String} (h : partName e = .ok name) : fromUtf16 (nameUnits e) = some name := by
  have unit (o : Nat) : fromLe (slice e o 2) < 65536 := by
    have : (slice e o 2).length ≤ 2 := by
      rw [slice]
      exact List.length_take_le _ _
    exact Nat.lt_of_lt_of_le fromLe_lt (Nat.pow_le_pow_right (n := 256) (by decide) this)
  unfold partName at h
  cases hu : fromUtf16 ((List.range 36).map fun i => fromLe (slice e (56 + 2 * i) 2)) with
  | none =>
    rw [hu] at h
    cases h
  | some text =>
    rw [hu] at h
    cases h
    obtain ⟨cs, h1, h2⟩ := Option.map_eq_some_iff.mp hu
    subst h2
    rw [fromUtf16, nameUnits, decode_takeWhile ?_ h1, String.toList_ofList]
    · rfl
    · intro u hu
      obtain ⟨i, _, rfl⟩ := List.mem_map.mp hu
      exact unit _

/-- The partitions keep off the boot region and the unused entries are empty. -/
structure Reserved (image : Bytes) : Prop where
  capacity : image.length / sector < 2 ^ 32
  above : ∀ e ∈ entries (slice image 1024 entryBytes), inUse e → 34816 ≤ u64at e 32
  empty : ∀ e ∈ entries (slice image 1024 entryBytes), ¬ inUse e → ∀ b ∈ e, b = 0

/-- The windows the engine captures of an accepted image. -/
lemma Inspected.windows {image : Bytes} {info : Info} (k : Inspected image info) :
    slice (image.take (34 * 512)) 512 512 = info.primary ∧
      (image.take (34 * 512)).drop 1024 = info.entries ∧
      (image.drop (image.length - 33 * 512)).take (32 * 512) = info.entries ∧
      (image.drop (image.length - 33 * 512)).drop (32 * 512) = info.backup := by
  have len := k.sized
  have big := k.big
  refine ⟨?_, ?_, ?_, ?_⟩
  · rw [slice_take (by decide), k.primary]
  · rw [drop_take, k.entries]
  · rw [← k.same, show image.length - 33 * 512 = (info.sectors - 33) * 512 by omega, slice]
  · rw [List.drop_drop, drop_eq_slice (l := 512) (by omega), ← k.backup,
      show image.length - 33 * 512 + 32 * 512 = (info.sectors - 1) * 512 by omega]

/-- An accepted image is a healthy pair. -/
lemma Inspected.healthy {image : Bytes} {info : Info} (k : Inspected image info)
    (rows : List.Forall₂ (Row (u64at info.primary 40) (u64at info.primary 48))
      (used 0 (Engine.Gpt.entries info.entries)) info.parts)
    (large : 34849 < info.sectors) :
    Healthy (image.take (34 * 512)) (image.drop (image.length - 33 * 512)) info.sectors := by
  have len := k.sized
  obtain ⟨front, array, array', back⟩ := k.windows
  have mbr (o l : Nat) (h : o + l ≤ 512) :
      slice (image.take (34 * 512)) o l = slice info.mbr o l := by
    rw [slice_take (by omega), ← k.mbr, slice_slice h, Nat.zero_add]
  have byte : (image.take (34 * 512))[450]? = info.mbr[450]? := by
    rw [← k.mbr, getElem?_slice, List.getElem?_take]
    rfl
  have spans := spans_parts rows
  have ranges : ∀ p ∈ info.parts, u64at info.primary 40 ≤ p.start ∧ p.start ≤ p.stop ∧
      p.stop ≤ u64at info.primary 48 := by
    intro p hp
    obtain ⟨i, hi, rfl⟩ := List.getElem_of_mem hp
    exact (rows.get (i := i) (by rw [rows.length_eq]; exact hi) hi).bounds
  have usable := k.usable
  have high := usable.high
  refine
    { sizePrimary := by rw [List.length_take]; omega
      sizeTail := by rw [List.length_drop]; omega
      big := large
      front := by rw [front]; exact k.front
      back := by rw [back]; exact k.back
      arrays := by rw [array, array', front, back]; exact ⟨k.array, k.array'⟩
      same := by rw [array, array']
      guid := by rw [front, back]; exact k.disk
      policy := ?_
      mbr := by rw [mbr 510 2 (by decide), byte]; exact k.signature
      bounds := by rw [front]; exact ⟨usable.low, usable.order, by omega⟩
      inside := ?_
      apart := ?_ }
  · have l2 : info.primary.length = 512 := by rw [← k.primary]; exact length_slice (by omega)
    have l3 : info.backup.length = 512 := by
      rw [← k.backup]
      exact length_slice (by omega)
    have first := (fromLe_inj (by rw [length_slice (by omega), length_slice (by omega)])).mp k.first
    have last := (fromLe_inj (by rw [length_slice (by omega), length_slice (by omega)])).mp k.last
    rw [front, back, ← @slice_append_slice _ _ 8 8, first, last, slice_append_slice]
  · rw [array, front, spans]
    intro r hr
    obtain ⟨p, hp, rfl⟩ := List.mem_map.mp hr
    exact ranges p hp
  · rw [array, spans]
    exact (ordered_apart fun p hp => (ranges p hp).2.1).mp k.apart

/-- The eight partitions of an accepted image, in the first eight entries of its array. -/
structure Eight (array : Bytes) (low high : Nat) (parts : List Part) : Prop where
  rows : List.Forall₂ (Row low high) (used 0 (Engine.Gpt.entries array)) parts
  order : parts.map (·.row) = (List.range 8).map (· + 1)
  names : parts.map (·.name) = labels

section Eight
variable {array : Bytes} {low high : Nat} {parts : List Part}

/-- Each has the label of its place. -/
lemma Eight.label (k : Eight array low high parts) {j : Nat} {part : Part}
    (h : parts[j]? = some part) : labels[j]? = some part.name := by
  rw [← k.names, List.getElem?_map, h]
  rfl

/-- There are no more. -/
lemma Eight.place (k : Eight array low high parts) {j : Nat} {part : Part}
    (h : parts[j]? = some part) : j < 8 := by
  have inside := (List.getElem?_eq_some_iff.mp h).1
  have count := congrArg List.length k.order
  simp only [List.length_map, List.length_range] at count
  omega

/-- The entries behind the eight are not in use. -/
lemma Eight.behind (k : Eight array low high parts) {j : Nat} {e : Bytes}
    (h : (Engine.Gpt.entries array)[j]? = some e) (free : ¬ inUse e) : 8 ≤ j := by
  by_contra lt
  obtain ⟨f, _, hf, use, _⟩ := used_eight k.rows k.order (Nat.not_le.mp lt)
  rw [h] at hf
  cases hf
  exact free use

/-- The walk of the engine over these entries asks for the region and for empty entries. -/
lemma Eight.walk (k : Eight array low high parts) :
    Engine.Gpt.requireEntries 0 (Engine.Gpt.entries array) = .ok () ↔
      (∀ e ∈ Engine.Gpt.entries array, inUse e → 34816 ≤ u64at e 32) ∧
        ∀ e ∈ Engine.Gpt.entries array, ¬ inUse e → ∀ b ∈ e, b = 0 := by
  rw [requireEntries_ok]
  simp only [Nat.zero_add]
  constructor
  · intro walk
    refine ⟨fun e he use => ?_, fun e he free => ?_⟩
    all_goals
      obtain ⟨j, hj⟩ := List.mem_iff_getElem?.mp he
      have here := walk j e hj
    · have lt := used_lt k.rows k.order hj use
      obtain ⟨_, part, _, _, hp, _⟩ := used_eight k.rows k.order lt
      rw [show Engine.Gpt.labels = labels from rfl, k.label hp] at here
      exact here.2
    · rw [List.getElem?_eq_none (by exact k.behind hj free)] at here
      exact here
  · rintro ⟨above, empty⟩ j e hj
    have he := List.mem_of_getElem? hj
    by_cases lt : j < 8
    · obtain ⟨f, part, hf, use, hp, row⟩ := used_eight k.rows k.order lt
      rw [hj] at hf
      cases hf
      rw [show Engine.Gpt.labels = labels from rfl, k.label hp]
      exact ⟨partName_label row.name, above e he use⟩
    · rw [List.getElem?_eq_none (by exact Nat.not_lt.mp lt)]
      exact empty e he fun use => lt (used_lt k.rows k.order hj use)

/-- The first partition is in the first entry. -/
lemma Eight.first (k : Eight array low high parts) (size : array.length = 16384)
    (start : (parts.map (·.start)).head? = some 34816) : u64at array 32 = 34816 := by
  obtain ⟨e, part, he, -, hp, row⟩ := used_eight k.rows k.order (j := 0) (by decide)
  have zero : (Engine.Gpt.entries array)[0]? = some (slice array 0 128) :=
    entries_get size (by decide)
  rw [he] at zero
  cases zero
  rw [List.head?_map, List.head?_eq_getElem?, hp] at start
  have first : part.start = 34816 := Option.some.inj start
  rw [← first, row.start, u64at, u64at, slice_slice (by decide)]

/-- A partition begins where its entry says. -/
lemma Eight.above (k : Eight array low high parts)
    (above : ∀ e ∈ Engine.Gpt.entries array, inUse e → 34816 ≤ u64at e 32) :
    ∀ part ∈ parts, 34816 ≤ part.start := by
  intro part hp
  obtain ⟨j, hj⟩ := List.mem_iff_getElem?.mp hp
  obtain ⟨e, part', he, use, hp', row⟩ := used_eight k.rows k.order (k.place hj)
  rw [hj] at hp'
  cases hp'
  rw [row.start]
  exact above e (List.mem_of_getElem? he) use

end Eight

/-- The two checks agree on an accepted image, and its partitions keep off the boot region, exactly
when each partition starts above the region and the unused entries are empty. -/
theorem layouts_agree_iff {image : Bytes} {info : Info}
    (large : 34849 < image.length / sector)
    (accepted : inspectImage (some image) true = .ok info) :
    ((∃ sectors : UInt32, sectors.toNat = image.length / sector ∧
        Engine.Gpt.requireK11c (image.take (34 * sector))
          (image.drop (image.length - 33 * sector)) sectors = .ok ()) ∧
      ∀ part ∈ info.parts, ¬ (part.start ≤ 34815 ∧ 34 ≤ part.stop)) ↔ Reserved image := by
  obtain ⟨k, layout⟩ := inspectImage_ok.mp accepted
  have len := k.sized
  have big := k.big
  have count : image.length / sector = info.sectors := by
    simp only [sector]
    omega
  rw [count] at large
  have size : info.entries.length = 16384 := by
    rw [← k.entries]
    exact length_slice (by omega)
  have rows := (partRows_ok fun e he => length_entry size he).mp k.rows
  have healthy := k.healthy rows large
  obtain ⟨_, array, _, _⟩ := k.windows
  simp only [requireK11c, bind_ok, require_ok] at layout
  obtain ⟨_, ⟨order, names⟩, start⟩ := layout
  have eight : Eight info.entries _ _ info.parts := ⟨rows, order, names⟩
  have entries : slice image 1024 entryBytes = info.entries := k.entries
  constructor
  · rintro ⟨⟨c, hc, rust⟩, -⟩
    obtain ⟨-, walk, -⟩ := requireK11c_iff.mp rust
    rw [show 34 * sector = 34 * 512 from rfl, array] at walk
    obtain ⟨above, empty⟩ := eight.walk.mp walk
    exact ⟨hc ▸ c.toNat_lt, entries ▸ above, entries ▸ empty⟩
  · rintro ⟨capacity, above, empty⟩
    rw [entries] at above empty
    have whole : (UInt32.ofNat info.sectors).toNat = info.sectors := by
      rw [UInt32.toNat_ofNat']
      exact Nat.mod_eq_of_lt (count ▸ capacity)
    refine ⟨⟨UInt32.ofNat info.sectors, whole.trans count.symm, ?_⟩, fun part hp => ?_⟩
    · refine requireK11c_iff.mpr ⟨?_, ?_, ?_⟩
      · rw [whole]
        exact healthy
      · rw [show 34 * sector = 34 * 512 from rfl, array]
        exact eight.walk.mpr ⟨above, empty⟩
      · rw [← eight.first size start, u64at, u64at, slice_take (by decide), ← k.entries,
          slice_slice (by decide)]
    · have low := eight.above above part hp
      omega

/-- An image the two checks are about. -/
theorem layouts_agree_iff_plain :
    ((∃ sectors : UInt32, sectors.toNat = (sourceFixture 34900 plainSpans).length / sector ∧
        Engine.Gpt.requireK11c ((sourceFixture 34900 plainSpans).take (34 * sector))
          ((sourceFixture 34900 plainSpans).drop
            ((sourceFixture 34900 plainSpans).length - 33 * sector)) sectors = .ok ()) ∧
      ∀ part ∈ rowsOf 0 labels plainSpans, ¬ (part.start ≤ 34815 ∧ 34 ≤ part.stop)) ↔
        Reserved (sourceFixture 34900 plainSpans) :=
  layouts_agree_iff (by rw [sourceFixture_length plainSpans_spans]; decide)
    (sourceFixture_accepted plainSpans_spans)

/-- The second partition in the boot region. -/
def strayedSpans : List (Nat × Nat) :=
  [(34816, 34816), (40, 50), (34818, 34818), (34819, 34819), (34820, 34820), (34821, 34821),
    (34822, 34822), (34823, 34823)]

/-- The spans of the strayed partitions fit. -/
lemma strayedSpans_spans : Spans 34900 strayedSpans :=
  ⟨by decide, by decide, by decide, by decide, by decide, by decide⟩

/-- An accepted image with a partition in the boot region, which the engine does not accept. -/
theorem strayed_partition :
    34849 < (sourceFixture 34900 strayedSpans).length / sector ∧
      inspectImage (some (sourceFixture 34900 strayedSpans)) true =
        .ok (fixtureInfo 34900 strayedSpans) ∧
      (∀ sectors : UInt32,
        Engine.Gpt.requireK11c ((sourceFixture 34900 strayedSpans).take (34 * sector))
          ((sourceFixture 34900 strayedSpans).drop
            ((sourceFixture 34900 strayedSpans).length - 33 * sector)) sectors ≠ .ok ()) ∧
      ∃ part ∈ (fixtureInfo 34900 strayedSpans).parts, part.start ≤ 34815 ∧ 34 ≤ part.stop := by
  have accepted := sourceFixture_accepted strayedSpans_spans
  obtain ⟨k, -⟩ := inspectImage_ok.mp accepted
  refine ⟨by rw [sourceFixture_length strayedSpans_spans]; decide, accepted, ?_,
    ⟨2, 40, 50, "hassos-kernel0"⟩, ?_, by decide, by decide⟩
  · intro sectors h
    obtain ⟨-, walk, -⟩ := requireK11c_iff.mp h
    rw [show 34 * sector = 34 * 512 from rfl, k.windows.2.1, fixtureInfo, arrayOf,
      entries_flatten arrayBlocks_each, requireEntries_ok] at walk
    have low := (walk 1 (entryOf "hassos-kernel0" (40, 50)) rfl).2
    rw [u64at, entryOf_start, fromLe_toLe] at low
    exact absurd low (by decide)
  · exact List.mem_cons_of_mem _ List.mem_cons_self

end K11CHaos.Scripts.GptImage
