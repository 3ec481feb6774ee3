import K11CHaos.Scripts.Rows

/-!
# Installation images

The images `source_fixture` of `source/scripts/test_gpt_install.py` stands for: a protective MBR,
the two GPT copies over an array of eight labelled entries, and zeros between them. Every choice of
eight spans in order of rows that do not meet makes an image that `inspect_image` accepts, when the
first starts behind the boot region.
-/

namespace K11CHaos.Scripts.GptImage
open Engine.Gpt

/-- The name field of an entry. -/
def nameField (label : String) : Bytes :=
  label.toList.flatMap (fun c => toLe 2 c.toNat) ++ zeros (72 - 2 * label.length)

/-- An entry in use. -/
def entryOf (label : String) (span : Nat × Nat) : Bytes :=
  1 :: zeros 31 ++ toLe 8 span.1 ++ toLe 8 span.2 ++ zeros 8 ++ nameField label

/-- The blocks of a partition array. -/
def arrayBlocks (spans : List (Nat × Nat)) : List Bytes :=
  List.zipWith entryOf labels spans ++ List.replicate 120 (zeros 128)

/-- A partition array. -/
def arrayOf (spans : List (Nat × Nat)) : Bytes :=
  (arrayBlocks spans).flatten

/-- The fields of a header of an image of `n` sectors. -/
def headerOf (n current other entries : Nat) (array : Bytes) : Bytes :=
  efiPart ++ toLe 4 0x10000 ++ toLe 4 92 ++ zeros 8 ++ toLe 8 current ++ toLe 8 other ++ toLe 8 34 ++
    toLe 8 (n - 34) ++ zeros 16 ++ toLe 8 entries ++ toLe 4 128 ++ toLe 4 128 ++
    toLe 4 (crc array) ++ zeros 420

/-- A protective MBR. -/
def mbrOf (n : Nat) : Bytes :=
  zeros 450 ++ toLe 4 0xee ++ toLe 4 1 ++ toLe 4 (n - 1) ++ zeros 48 ++ [0x55, 0xaa]

/-- `source_fixture`: an image of `n` sectors with eight partitions. -/
def sourceFixture (n : Nat) (spans : List (Nat × Nat)) : Bytes :=
  mbrOf n ++ sealHeader (headerOf n 1 (n - 1) 2 (arrayOf spans)) ++ arrayOf spans ++
    zeros ((n - 67) * 512) ++ arrayOf spans ++
    sealHeader (headerOf n (n - 1) 1 (n - 33) (arrayOf spans))

/-- A name fills its field. -/
lemma nameField_length {label : String} (h : label ∈ labels) : (nameField label).length = 72 := by
  have all : ∀ l ∈ labels, (l.toList.flatMap (fun c => toLe 2 c.toNat)).length +
      (72 - 2 * l.length) = 72 := by decide
  rw [nameField, List.length_append, length_zeros]
  exact all label h

/-- An entry is 128 bytes. -/
lemma entryOf_length {label : String} {span : Nat × Nat} (h : label ∈ labels) :
    (entryOf label span).length = 128 := by
  simp only [entryOf, List.length_append, List.length_cons, length_zeros, length_toLe,
    nameField_length h]

/-- Every entry has a type. -/
lemma entryOf_type {label : String} {span : Nat × Nat} :
    slice (entryOf label span) 0 16 ≠ zeros 16 := by
  unfold slice entryOf zeros
  intro h
  cases h

/-- The first sector of an entry. -/
lemma entryOf_start {label : String} {span : Nat × Nat} :
    slice (entryOf label span) 32 8 = toLe 8 span.1 := by
  unfold slice entryOf zeros
  rfl

/-- The last sector of an entry. -/
lemma entryOf_stop {label : String} {span : Nat × Nat} :
    slice (entryOf label span) 40 8 = toLe 8 span.2 := by
  unfold slice entryOf zeros
  rfl

/-- The units of a name. -/
lemma entryOf_unit {label : String} {span : Nat × Nat} {i : Nat} :
    slice (entryOf label span) (56 + i) 2 = slice (nameField label) i 2 := by
  rw [entryOf, slice_append_right]
  · congr 1
    simp only [List.length_append, List.length_cons, length_zeros, length_toLe]
    omega
  · simp only [List.length_append, List.length_cons, length_zeros, length_toLe]
    omega

/-- The name is read back. -/
lemma entryOf_name {label : String} {span : Nat × Nat} (h : label ∈ labels) :
    partName (entryOf label span) = .ok label := by
  have all : ∀ l ∈ labels, partName (entryOf l (0, 0)) = .ok l := by decide +kernel
  rw [← all label h]
  unfold partName
  simp only [entryOf_unit]

/-- The rows of labelled spans, from an index on. -/
def rowsOf : Nat → List String → List (Nat × Nat) → List Part
  | index, label :: labels, span :: spans =>
    ⟨index + 1, span.1, span.2, label⟩ :: rowsOf (index + 1) labels spans
  | _, _, _ => []

/-- Empty entries are no rows. -/
lemma partRows_zero {first last index k : Nat} :
    partRows first last index (List.replicate k (zeros 128)) = .ok [] := by
  induction k generalizing index with
  | zero => rfl
  | succ k ih =>
    have free : slice (zeros 128) 0 16 = zeros 16 := by
      unfold slice zeros
      rfl
    rw [List.replicate_succ, partRows, if_pos free, ih]

/-- The loop reads the labelled spans back. -/
lemma partRows_labelled {first last index k : Nat} {ls : List String} {spans : List (Nat × Nat)}
    (known : ∀ l ∈ ls, l ∈ labels)
    (len : spans.length = ls.length)
    (bounds : ∀ s ∈ spans, first ≤ s.1 ∧ s.1 ≤ s.2 ∧ s.2 ≤ last)
    (small : last < 2 ^ 64) :
    partRows first last index (List.zipWith entryOf ls spans ++ List.replicate k (zeros 128)) =
      .ok (rowsOf index ls spans) := by
  induction ls generalizing index spans with
  | nil =>
    obtain rfl := List.length_eq_zero_iff.mp len
    exact partRows_zero
  | cons l ls ih =>
    cases spans with
    | nil => cases len
    | cons s spans =>
      obtain ⟨b1, b2, b3⟩ := bounds s List.mem_cons_self
      have start : u64at (entryOf l s) 32 = s.1 := by
        rw [u64at, entryOf_start, fromLe_toLe]
        exact Nat.mod_eq_of_lt (by omega)
      have stop : u64at (entryOf l s) 40 = s.2 := by
        rw [u64at, entryOf_stop, fromLe_toLe]
        exact Nat.mod_eq_of_lt (by omega)
      have rest : partRows first last (index + 1) _ = .ok (rowsOf (index + 1) ls spans) :=
        ih (fun m hm => known m (List.mem_cons_of_mem _ hm)) (Nat.succ.inj len)
          fun t ht => bounds t (List.mem_cons_of_mem _ ht)
      rw [List.zipWith_cons_cons, List.cons_append, partRows, if_neg entryOf_type, rowsOf]
      simp only [start, stop, bind_ok, require_ok]
      exact ⟨(), ⟨b1, b2, b3⟩, l, entryOf_name (known l List.mem_cons_self), _, rest, rfl⟩

/-- The rows have the spans. -/
lemma rowsOf_span (index : Nat) {ls : List String} {spans : List (Nat × Nat)}
    (len : spans.length = ls.length) : (rowsOf index ls spans).map Part.span = spans := by
  induction ls generalizing index spans with
  | nil =>
    obtain rfl := List.length_eq_zero_iff.mp len
    rfl
  | cons l ls ih =>
    cases spans with
    | nil => cases len
    | cons s spans =>
      rw [rowsOf, List.map_cons, ih _ (Nat.succ.inj len)]
      rfl

/-- The rows have the names and are numbered from one. -/
lemma rowsOf_label (index : Nat) {ls : List String} {spans : List (Nat × Nat)}
    (len : spans.length = ls.length) :
    (rowsOf index ls spans).map (·.name) = ls ∧
      (rowsOf index ls spans).map (·.row) = List.range' (index + 1) ls.length := by
  induction ls generalizing index spans with
  | nil =>
    obtain rfl := List.length_eq_zero_iff.mp len
    exact ⟨rfl, rfl⟩
  | cons l ls ih =>
    cases spans with
    | nil => cases len
    | cons s spans =>
      obtain ⟨h1, h2⟩ := ih (index + 1) (Nat.succ.inj len)
      rw [rowsOf, List.map_cons, List.map_cons, h1, h2, List.length_cons, List.range'_succ]
      exact ⟨rfl, rfl⟩

/-- Entries of 128 bytes make an array of that many. -/
lemma flatten_length {bs : List Bytes} (h : ∀ b ∈ bs, b.length = 128) :
    bs.flatten.length = 128 * bs.length := by
  induction bs with
  | nil => rfl
  | cons b bs ih =>
    rw [List.flatten_cons, List.length_append, ih fun c hc => h c (List.mem_cons_of_mem _ hc),
      h b List.mem_cons_self, List.length_cons]
    omega

/-- The blocks of 128 bytes of a joined list of them. -/
lemma entries_flatten {bs : List Bytes} (h : ∀ b ∈ bs, b.length = 128) :
    entries bs.flatten = bs := by
  have get : ∀ (bs : List Bytes) (i : Nat), (∀ b ∈ bs, b.length = 128) → i < bs.length →
      bs[i]? = some (slice bs.flatten (128 * i) 128) := by
    intro bs
    induction bs with
    | nil => exact nofun
    | cons b bs ih =>
      intro i h hi
      have size := h b List.mem_cons_self
      cases i with
      | zero =>
        rw [List.flatten_cons, slice_append_left (by omega), slice_full (by omega)]
        rfl
      | succ i =>
        rw [List.getElem?_cons_succ, ih i (fun c hc => h c (List.mem_cons_of_mem _ hc))
          (Nat.lt_of_succ_lt_succ hi), List.flatten_cons, slice_append_right (by omega)]
        congr 2
        omega
  refine List.ext_getElem? fun i => ?_
  rw [entries, flatten_length h, Nat.mul_div_cancel_left _ (by decide), List.getElem?_map]
  by_cases hi : i < bs.length
  · rw [List.getElem?_range hi, get bs i h hi]
    rfl
  · rw [List.getElem?_eq_none (by simpa using hi), List.getElem?_eq_none (by simpa using hi)]
    rfl

section
variable {n current other array : Nat} {x : Bytes}

/-- A header fills a sector. -/
lemma headerOf_length : (headerOf n current other array x).length = 512 := by
  simp only [headerOf, List.length_append, length_zeros, length_toLe]
  rfl

/-- The fields of a fixture's header. -/
lemma headerOf_fields :
    slice (headerOf n current other array x) 0 8 = efiPart ∧
      slice (headerOf n current other array x) 8 4 = toLe 4 0x10000 ∧
      slice (headerOf n current other array x) 12 4 = toLe 4 92 ∧
      slice (headerOf n current other array x) 20 4 = toLe 4 0 ∧
      slice (headerOf n current other array x) 24 8 = toLe 8 current ∧
      slice (headerOf n current other array x) 32 8 = toLe 8 other ∧
      slice (headerOf n current other array x) 40 8 = toLe 8 34 ∧
      slice (headerOf n current other array x) 48 8 = toLe 8 (n - 34) ∧
      slice (headerOf n current other array x) 56 16 = zeros 16 ∧
      slice (headerOf n current other array x) 72 8 = toLe 8 array ∧
      slice (headerOf n current other array x) 80 4 = toLe 4 128 ∧
      slice (headerOf n current other array x) 84 4 = toLe 4 128 ∧
      slice (headerOf n current other array x) 88 4 = toLe 4 (crc x) := by
  refine ⟨?_, ?_, ?_, ?_, ?_, ?_, ?_, ?_, ?_, ?_, ?_, ?_, ?_⟩
  all_goals
    simp (disch := simp [efiPart]) [headerOf, slice_append_left, slice_append_right, slice_full,
      slice_zeros, toLe_zero]

/-- The header names a size that is allowed. -/
lemma headerOf_size :
    92 ≤ u32at (headerOf n current other array x) 12 ∧
      u32at (headerOf n current other array x) 12 ≤ 512 := by
  obtain ⟨_, _, h, _⟩ := @headerOf_fields n current other array x
  rw [u32at, h, fromLe_toLe_of_lt (by decide)]
  decide

/-- A sealed fixture header is in place. -/
lemma headerOf_header (h1 : current < 2 ^ 64) (h2 : other < 2 ^ 64) (h3 : array < 2 ^ 64) :
    Header (sealHeader (headerOf n current other array x)) current other array := by
  obtain ⟨f1, f2, f3, f4, f5, f6, f7, f8, f9, f10, f11, f12, f13⟩ :=
    @headerOf_fields n current other array x
  have long {a : Nat} (h : a < 2 ^ 64) : fromLe (toLe 8 a) = a := fromLe_toLe_of_lt h
  refine sealHeader_header headerOf_length f1 headerOf_size ?_ ?_ ?_ ?_ ?_ ?_ ?_
  · rw [u32at, f2, fromLe_toLe_of_lt (by decide)]
  · rw [u32at, f4, fromLe_toLe_of_lt (by decide)]
  · rw [u64at, f5, long h1]
  · rw [u64at, f6, long h2]
  · rw [u64at, f10, long h3]
  · rw [u32at, f11, fromLe_toLe_of_lt (by decide)]
  · rw [u32at, f12, fromLe_toLe_of_lt (by decide)]

/-- The fields the two copies share. -/
lemma sealed_fields (big : n < 2 ^ 32) :
    (sealHeader (headerOf n current other array x)).length = 512 ∧
      slice (sealHeader (headerOf n current other array x)) 8 8 = toLe 4 0x10000 ++ toLe 4 92 ∧
      u64at (sealHeader (headerOf n current other array x)) 40 = 34 ∧
      u64at (sealHeader (headerOf n current other array x)) 48 = n - 34 ∧
      slice (sealHeader (headerOf n current other array x)) 56 16 = zeros 16 ∧
      u32at (sealHeader (headerOf n current other array x)) 88 = crc x := by
  obtain ⟨f1, f2, f3, f4, f5, f6, f7, f8, f9, f10, f11, f12, f13⟩ :=
    @headerOf_fields n current other array x
  have keep (o l : Nat) (d : o + l ≤ 16 ∨ 20 ≤ o) :=
    slice_sealHeader (o := o) (l := l) (@headerOf_length n current other array x) headerOf_size d
  refine ⟨length_sealHeader headerOf_length headerOf_size, ?_, ?_, ?_, ?_, ?_⟩
  · rw [keep 8 8 (by decide), ← @slice_append_slice _ _ 4 4, f2, f3]
  · rw [u64at, keep 40 8 (by decide), f7, fromLe_toLe_of_lt (by decide)]
  · rw [u64at, keep 48 8 (by decide), f8, fromLe_toLe_of_lt (by omega)]
  · rw [keep 56 16 (by decide), f9]
  · rw [u32at, keep 88 4 (by decide), f13, fromLe_toLe_of_lt crc_lt]

end

/-- The fields of the protective MBR. -/
lemma mbrOf_fields {n : Nat} (big : n < 2 ^ 32) :
    (mbrOf n).length = 512 ∧ slice (mbrOf n) 510 2 = [0x55, 0xaa] ∧
      (mbrOf n)[450]? = some 0xee ∧ u32at (mbrOf n) 454 = 1 ∧ u32at (mbrOf n) 458 = n - 1 ∧
      slice (mbrOf n) 462 48 = zeros 48 := by
  have f1 : slice (mbrOf n) 454 4 = toLe 4 1 := by
    simp (disch := simp) [mbrOf, slice_append_left, slice_append_right, slice_full]
  have f2 : slice (mbrOf n) 458 4 = toLe 4 (n - 1) := by
    simp (disch := simp) [mbrOf, slice_append_left, slice_append_right, slice_full]
  refine ⟨by simp [mbrOf], ?_, ?_, ?_, ?_, ?_⟩
  · simp (disch := simp) [mbrOf, slice_append_right, slice_full]
  · simp only [mbrOf, List.append_assoc]
    rw [List.getElem?_append_right (by simp), length_zeros]
    rfl
  · rw [u32at, f1, fromLe_toLe_of_lt (by decide)]
  · rw [u32at, f2, fromLe_toLe_of_lt (by omega)]
  · simp (disch := simp) [mbrOf, slice_append_left, slice_append_right, slice_full]

/-- The array is made of entries. -/
lemma arrayBlocks_each {spans : List (Nat × Nat)} : ∀ b ∈ arrayBlocks spans, b.length = 128 := by
  intro b hb
  obtain used | free := List.mem_append.mp hb
  · obtain ⟨i, hi, rfl⟩ := List.getElem_of_mem used
    rw [List.getElem_zipWith]
    exact entryOf_length (List.getElem_mem _)
  · rw [(List.mem_replicate.mp free).2, length_zeros]

/-- The array is 32 sectors. -/
lemma arrayOf_length {spans : List (Nat × Nat)} (len : spans.length = 8) :
    (arrayOf spans).length = 16384 := by
  rw [arrayOf, flatten_length arrayBlocks_each, arrayBlocks, List.length_append,
    List.length_zipWith, len, List.length_replicate]
  rfl

/-- What the inspection of a fixture returns. -/
def fixtureInfo (n : Nat) (spans : List (Nat × Nat)) : Info where
  sectors := n
  mbr := mbrOf n
  primary := sealHeader (headerOf n 1 (n - 1) 2 (arrayOf spans))
  backup := sealHeader (headerOf n (n - 1) 1 (n - 33) (arrayOf spans))
  entries := arrayOf spans
  parts := rowsOf 0 labels spans
  guid := uuidText (zeros 16)

/-- Eight spans of an image of `n` sectors, the first behind the boot region. -/
structure Spans (n : Nat) (spans : List (Nat × Nat)) : Prop where
  big : 68 ≤ n
  small : n < 2 ^ 32
  eight : spans.length = 8
  inside : ∀ s ∈ spans, 34 ≤ s.1 ∧ s.1 ≤ s.2 ∧ s.2 ≤ n - 34
  apart : spans.Pairwise Apart
  first : (spans.map Prod.fst).head? = some 34816

/-- The image has as many sectors as it says. -/
lemma sourceFixture_length {n : Nat} {spans : List (Nat × Nat)} (h : Spans n spans) :
    (sourceFixture n spans).length = n * 512 := by
  have big := h.big
  obtain ⟨m1, _⟩ := mbrOf_fields h.small
  have size (current other array : Nat) := (@sealed_fields n current other array (arrayOf spans) h.small).1
  simp only [sourceFixture, List.length_append, length_zeros, m1, size, arrayOf_length h.eight]
  omega

/-- `inspect_image` accepts the fixtures. -/
theorem sourceFixture_accepted {n : Nat} {spans : List (Nat × Nat)} (h : Spans n spans) :
    inspectImage (some (sourceFixture n spans)) true = .ok (fixtureInfo n spans) := by
  have big := h.big
  have small := h.small
  have size := arrayOf_length h.eight
  have eight : spans.length = labels.length := h.eight
  obtain ⟨m1, m2, m3, m4, m5, m6⟩ := mbrOf_fields h.small
  obtain ⟨p1, p2, p3, p4, p5, p6⟩ := @sealed_fields n 1 (n - 1) 2 (arrayOf spans) h.small
  obtain ⟨b1, b2, b3, b4, b5, b6⟩ := @sealed_fields n (n - 1) 1 (n - 33) (arrayOf spans) h.small
  have rows : partRows 34 (n - 34) 0 (Engine.Gpt.entries (arrayOf spans)) =
      .ok (rowsOf 0 labels spans) := by
    rw [arrayOf, entries_flatten arrayBlocks_each]
    exact partRows_labelled (fun _ hl => hl) eight h.inside (by omega)
  have spans_eq := rowsOf_span 0 eight
  obtain ⟨names, numbers⟩ := rowsOf_label 0 eight
  refine inspectImage_ok.mpr ⟨?_, ?_⟩
  · refine
      { sized := sourceFixture_length h
        big := big
        mbr := ?_
        primary := ?_
        backup := ?_
        entries := ?_
        front := headerOf_header (by decide) (by omega) (by decide)
        back := headerOf_header (by omega) (by decide) (by omega)
        usable := ⟨Nat.le_of_eq p3.symm, by simp only [fixtureInfo, p3, p4]; omega,
          by simp only [fixtureInfo, p4]; omega⟩
        usable' := ⟨Nat.le_of_eq b3.symm, by simp only [fixtureInfo, b3, b4]; omega,
          by simp only [fixtureInfo, b4]; omega⟩
        disk := by simp only [fixtureInfo, p5, b5]
        policy := by simp only [fixtureInfo, p2, b2]
        first := by simp only [fixtureInfo, p3, b3]
        last := by simp only [fixtureInfo, p4, b4]
        array := by simp only [fixtureInfo, p6]
        array' := by simp only [fixtureInfo, b6]
        same := ?_
        signature := ⟨m2, m3⟩
        protective := ⟨m4, by simp only [fixtureInfo, m5]; omega⟩
        plain := m6
        rows := by simp only [fixtureInfo, p3, p4, rows]
        apart := ?_
        guid := by simp only [fixtureInfo, p5] }
    · simp only [sourceFixture, List.append_assoc]
      exact (slice_append_left (Nat.le_of_eq m1.symm)).trans (slice_full (Nat.le_of_eq m1))
    · simp only [sourceFixture]
      rw [List.append_assoc, List.append_assoc, List.append_assoc]
      exact slice_middle m1 p1
    · change slice (sourceFixture n spans) ((n - 1) * 512) 512 = _
      rw [sourceFixture, slice_append_right (by simp [m1, p1, size]; omega)]
      refine (congrArg (slice _ · 512) ?_).trans (slice_full (Nat.le_of_eq b1))
      simp [m1, p1, size]
      omega
    · rw [sourceFixture, List.append_assoc, List.append_assoc]
      exact slice_middle (by simp [m1, p1]) size
    · change slice (sourceFixture n spans) ((n - 33) * 512) 16384 = _
      rw [sourceFixture]
      exact slice_middle (by simp [m1, p1, size]; omega) size
    · refine (ordered_apart fun q hq => ?_).mpr ?_
      · have : q.span ∈ spans := by
          rw [← spans_eq]
          exact List.mem_map_of_mem hq
        exact (h.inside _ this).2.1
      · rw [fixtureInfo, spans_eq]
        exact h.apart
  · simp only [requireK11c, bind_ok, require_ok]
    refine ⟨(), ⟨?_, names⟩, ?_⟩
    · exact numbers
    · have := h.first
      rw [← spans_eq, List.map_map] at this
      exact this

/-- Eight partitions of one sector each behind the boot region. -/
def plainSpans : List (Nat × Nat) :=
  [(34816, 34816), (34817, 34817), (34818, 34818), (34819, 34819), (34820, 34820), (34821, 34821),
    (34822, 34822), (34823, 34823)]

/-- The spans of the sample fit. -/
lemma plainSpans_spans : Spans 34900 plainSpans :=
  ⟨by decide, by decide, by decide, by decide, by decide, by decide⟩

end K11CHaos.Scripts.GptImage
