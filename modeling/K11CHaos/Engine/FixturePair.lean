import K11CHaos.Engine.GptCopy
import K11CHaos.Engine.K11cLayout
import K11CHaos.Scripts.Fixture

/-!
# Captured pairs

The pair a device of `n` sectors holds around an array of entries, as the fixtures of the engine's
tests build it. The pair is healthy for every array whose spans lie between the two copies and do not
meet, and a K11C layout when its first eight entries are named as HAOS names them.
-/

namespace K11CHaos.Engine.Gpt
open Scripts.GptImage (headerOf mbrOf entryOf sealed_fields headerOf_header mbrOf_fields
  entryOf_length entryOf_start entryOf_stop entryOf_unit entries_flatten flatten_length)

/-- The first 34 sectors. -/
def primaryWith (n : Nat) (array : Bytes) : Bytes :=
  mbrOf n ++ sealHeader (headerOf n 1 (n - 1) 2 array) ++ array

/-- The last 33 sectors. -/
def tailWith (n : Nat) (array : Bytes) : Bytes :=
  array ++ sealHeader (headerOf n (n - 1) 1 (n - 33) array)

/-- An array that fits between the two copies on `n` sectors. -/
structure Fitting (n : Nat) (array : Bytes) : Prop where
  big : 34849 < n
  small : n < 2 ^ 32
  size : array.length = 16384
  inside : ∀ r ∈ spans array, 34 ≤ r.1 ∧ r.1 ≤ r.2 ∧ r.2 ≤ n - 34
  apart : (spans array).Pairwise Apart

section
variable {n : Nat} {array : Bytes}

/-- The parts of a captured pair. -/
lemma primaryWith_parts (k : Fitting n array) :
    (primaryWith n array).length = 34 * 512 ∧ (primaryWith n array).take 512 = mbrOf n ∧
      slice (primaryWith n array) 512 512 = sealHeader (headerOf n 1 (n - 1) 2 array) ∧
      (primaryWith n array).drop 1024 = array := by
  have size := k.size
  obtain ⟨m, _⟩ := mbrOf_fields k.small
  obtain ⟨p, _⟩ := @sealed_fields n 1 (n - 1) 2 array k.small
  refine ⟨?_, ?_, ?_, ?_⟩
  · rw [primaryWith, List.length_append, List.length_append, m, p, size]
  · rw [primaryWith, List.append_assoc]
    exact List.take_left' m
  · exact slice_middle m p
  · exact List.drop_left' (by rw [List.length_append, m, p])

/-- The parts of the backup copy. -/
lemma tailWith_parts (k : Fitting n array) :
    (tailWith n array).length = 33 * 512 ∧ (tailWith n array).take 16384 = array ∧
      (tailWith n array).drop 16384 = sealHeader (headerOf n (n - 1) 1 (n - 33) array) := by
  have size := k.size
  obtain ⟨p, _⟩ := @sealed_fields n (n - 1) 1 (n - 33) array k.small
  refine ⟨?_, List.take_left' size, List.drop_left' size⟩
  rw [tailWith, List.length_append, p, size]

/-- A disk image: the pair around the sectors between its copies. -/
def imageWith (n : Nat) (array body : Bytes) : Bytes :=
  primaryWith n array ++ body ++ tailWith n array

/-- The parts of a disk image. -/
lemma imageWith_parts {body : Bytes} (k : Fitting n array) (size : body.length = (n - 67) * 512) :
    (imageWith n array body).length = n * 512 ∧
      slice (imageWith n array body) 0 (34 * 512) = primaryWith n array ∧
      slice (imageWith n array body) (34 * 512) body.length = body ∧
      slice (imageWith n array body) (n * 512 - 33 * 512) (33 * 512) = tailWith n array := by
  have big := k.big
  obtain ⟨p, -, -, -⟩ := primaryWith_parts k
  obtain ⟨t, -, -⟩ := tailWith_parts k
  have front : (primaryWith n array ++ body).length = n * 512 - 33 * 512 := by
    rw [List.length_append, p, size]
    omega
  refine ⟨?_, ?_, slice_middle p rfl, ?_⟩
  · rw [imageWith, List.length_append, front, t]
    omega
  · rw [imageWith, List.append_assoc, slice_append_left (by omega), slice_full (by omega)]
  · rw [imageWith, slice_append_right (by omega), front, Nat.sub_self, slice_full (by omega)]

/-- The size of a fixture's header and what lies behind its last field. -/
lemma sealed_rest {current other entries : Nat} {x : Bytes} :
    slice (sealHeader (headerOf n current other entries x)) 12 4 = toLe 4 92 ∧
      slice (sealHeader (headerOf n current other entries x)) 92 420 = zeros 420 := by
  have size := @Scripts.GptImage.headerOf_size n current other entries x
  have len := @Scripts.GptImage.headerOf_length n current other entries x
  obtain ⟨_, _, words, _⟩ := @Scripts.GptImage.headerOf_fields n current other entries x
  have rest : slice (headerOf n current other entries x) 92 420 = zeros 420 := by
    simp (disch := simp [efiPart]) [headerOf, slice_append_right, slice_full]
  rw [slice_sealHeader len size (by decide), slice_sealHeader len size (by decide)]
  exact ⟨words, rest⟩

/-- Every array that fits makes a healthy pair. -/
theorem pair_healthy (k : Fitting n array) :
    Healthy (primaryWith n array) (tailWith n array) n := by
  have big := k.big
  have small := k.small
  obtain ⟨l1, front, header, entries⟩ := primaryWith_parts k
  obtain ⟨l2, entries', header'⟩ := tailWith_parts k
  obtain ⟨m1, m2, m3, _⟩ := mbrOf_fields small
  obtain ⟨p1, p2, p3, p4, p5, p6⟩ := @sealed_fields n 1 (n - 1) 2 array small
  obtain ⟨b1, b2, b3, b4, b5, b6⟩ := @sealed_fields n (n - 1) 1 (n - 33) array small
  refine
    { sizePrimary := l1
      sizeTail := l2
      big := big
      front := ?_
      back := ?_
      arrays := ?_
      same := entries.trans entries'.symm
      guid := ?_
      policy := ?_
      mbr := ⟨?_, ?_⟩
      bounds := ?_
      inside := ?_
      apart := ?_ }
  · rw [header]
    exact headerOf_header (by decide) (by omega) (by decide)
  · rw [header']
    exact headerOf_header (by omega) (by decide) (by omega)
  · rw [header, header', entries, entries', p6, b6]
    exact ⟨rfl, rfl⟩
  · rw [header, header', p5, b5]
  · rw [header, header']
    refine @slice_join _ _ _ 8 8 ?_ ?_
    · exact slice_of_u64at p1 b1 (by decide) (p3.trans b3.symm)
    · exact slice_of_u64at p1 b1 (by decide) (p4.trans b4.symm)
  · rw [← m2, ← front, slice_take (by decide)]
  · rw [← m3, ← front, List.getElem?_take]
    rfl
  · rw [header, p3, p4]
    omega
  · rw [entries, header, p3, p4]
    exact k.inside
  · rw [entries]
    exact k.apart

end

/-- The name of an entry is read back. -/
lemma entryOf_named {label : String} {span : Nat × Nat} (h : label ∈ labels) :
    fromUtf16 (nameUnits (entryOf label span)) = some label := by
  have all : ∀ l ∈ labels, fromUtf16 (nameUnits (entryOf l (0, 0))) = some l := by decide +kernel
  rw [← all label h]
  unfold nameUnits
  simp only [entryOf_unit]

/-- Eight labelled entries before the empty ones. -/
lemma entries_labelled {n : Nat} {blocks : List Bytes} (each : ∀ b ∈ blocks, b.length = 128)
    (k : Fitting n blocks.flatten) {i : Nat} (small : i < 128) :
    some (entryAt (primaryWith n blocks.flatten) i) = blocks[i]? := by
  obtain ⟨len, -, -, array⟩ := primaryWith_parts k
  have found := (entries_getElem len).mpr ⟨small, rfl⟩
  rw [array, entries_flatten each] at found
  exact found.symm

/-- The pair of named entries is a K11C layout. -/
theorem pair_layout {n : Nat} {blocks : List Bytes} (each : ∀ b ∈ blocks, b.length = 128)
    (k : Fitting n blocks.flatten)
    (named : ∀ (i : Nat) label, labels[i]? = some label → ∃ e, blocks[i]? = some e ∧
      fromUtf16 (nameUnits e) = some label ∧ 34816 ≤ u64at e 32)
    (empty : ∀ (i : Nat) e, 8 ≤ i → blocks[i]? = some e → ∀ b ∈ e, b = 0)
    (first : ∀ e, blocks[0]? = some e → u64at e 32 = 34816) :
    K11c (primaryWith n blocks.flatten) (tailWith n blocks.flatten) n := by
  have found {i : Nat} (small : i < 128) := entries_labelled each k small
  refine ⟨pair_healthy k, fun i label known => ?_, fun i above small => ?_, ?_⟩
  · have small : i < labels.length := (List.getElem?_eq_some_iff.mp known).1
    obtain ⟨e, he, name, start⟩ := named i label known
    rw [← found (Nat.lt_trans small (by decide))] at he
    cases he
    exact ⟨name, start⟩
  · exact empty i _ above (found small).symm
  · exact first _ (found (by decide)).symm

/-- An entry with a type is in use. -/
lemma inUse_entryOf {label : String} {span : Nat × Nat} : inUse (entryOf label span) = true := by
  unfold inUse slice Scripts.GptImage.entryOf zeros
  rfl

/-- An empty entry is not in use. -/
lemma inUse_zeros : inUse (zeros 128) = false := by
  unfold inUse slice zeros
  rfl

/-- The spans of labelled entries are read back. -/
lemma spans_labelled {ls : List String} {l : List (Nat × Nat)} {k : Nat}
    (len : l.length = ls.length) (small : ∀ s ∈ l, s.1 < 2 ^ 64 ∧ s.2 < 2 ^ 64) :
    ((List.zipWith entryOf ls l ++ List.replicate k (zeros 128)).filter inUse).map
      (fun e => (u64at e 32, u64at e 40)) = l := by
  induction ls generalizing l with
  | nil =>
    obtain rfl := List.length_eq_zero_iff.mp len
    rw [List.zipWith_nil_left, List.nil_append, List.filter_replicate_of_neg]
    · rfl
    · rw [inUse_zeros]
      exact Bool.false_ne_true
  | cons label ls ih =>
    cases l with
    | nil => cases len
    | cons s l =>
      obtain ⟨s1, s2⟩ := small s List.mem_cons_self
      have start : u64at (entryOf label s) 32 = s.1 := by
        rw [u64at, entryOf_start, fromLe_toLe_of_lt s1]
      have stop : u64at (entryOf label s) 40 = s.2 := by
        rw [u64at, entryOf_stop, fromLe_toLe_of_lt s2]
      rw [List.zipWith_cons_cons, List.cons_append, List.filter_cons_of_pos inUse_entryOf,
        List.map_cons, ih (Nat.succ.inj len) fun t ht => small t (List.mem_cons_of_mem _ ht),
        start, stop]

open Scripts.GptImage (arrayBlocks arrayOf plainSpans arrayBlocks_each arrayOf_length)

/-- Eight spans between the two copies fit. -/
theorem arrayOf_fitting {n : Nat} {l : List (Nat × Nat)} (big : 34849 < n) (small : n < 2 ^ 32)
    (eight : l.length = 8) (inside : ∀ s ∈ l, 34 ≤ s.1 ∧ s.1 ≤ s.2 ∧ s.2 ≤ n - 34)
    (apart : l.Pairwise Apart) : Fitting n (arrayOf l) ∧ spans (arrayOf l) = l := by
  have read : spans (arrayOf l) = l := by
    rw [spans, arrayOf, entries_flatten arrayBlocks_each]
    refine spans_labelled eight fun s hs => ?_
    have := inside s hs
    omega
  refine ⟨⟨big, small, arrayOf_length eight, ?_, ?_⟩, read⟩
  · rw [read]
    exact inside
  · rw [read]
    exact apart

section
variable {n : Nat} {l : List (Nat × Nat)}

/-- The blocks of eight labelled spans. -/
lemma arrayBlocks_labelled (eight : l.length = 8) {i : Nat} {label : String} {s : Nat × Nat}
    (h1 : labels[i]? = some label) (h2 : l[i]? = some s) :
    (arrayBlocks l)[i]? = some (entryOf label s) := by
  have long : i < (List.zipWith entryOf Scripts.GptImage.labels l).length := by
    rw [List.length_zipWith, eight]
    exact (List.getElem?_eq_some_iff.mp h1).1
  have h1 : Scripts.GptImage.labels[i]? = some label := h1
  rw [arrayBlocks, List.getElem?_append_left long, List.getElem?_zipWith, h1, h2]

/-- Behind the eight entries everything is zero. -/
lemma arrayBlocks_empty (eight : l.length = 8) {i : Nat} {e : Bytes} (above : 8 ≤ i)
    (found : (arrayBlocks l)[i]? = some e) : ∀ b ∈ e, b = 0 := by
  have named : (List.zipWith entryOf Scripts.GptImage.labels l).length = 8 := by
    rw [List.length_zipWith, eight]
    rfl
  rw [arrayBlocks, List.getElem?_append_right (by omega)] at found
  obtain rfl := (List.mem_replicate.mp (List.mem_of_getElem? found)).2
  intro b hb
  rw [zeros] at hb
  exact (List.mem_replicate.mp hb).2

/-- Every label has its span. -/
lemma span_of_label (eight : l.length = 8) {i : Nat} {label : String}
    (known : labels[i]? = some label) : ∃ s, l[i]? = some s ∧ s ∈ l := by
  have : i < labels.length := (List.getElem?_eq_some_iff.mp known).1
  have small : i < l.length := eight ▸ this
  exact ⟨_, List.getElem?_eq_getElem small, List.getElem_mem small⟩

/-- Eight spans behind the boot region, the first right behind it, are a K11C layout. -/
theorem arrayOf_layout (big : 34849 < n) (small : n < 2 ^ 32)
    (eight : l.length = 8) (inside : ∀ s ∈ l, 34816 ≤ s.1 ∧ s.1 ≤ s.2 ∧ s.2 ≤ n - 34)
    (apart : l.Pairwise Apart) (first : (l.map Prod.fst).head? = some 34816) :
    K11c (primaryWith n (arrayOf l)) (tailWith n (arrayOf l)) n := by
  have fits : Fitting n (arrayOf l) :=
    (arrayOf_fitting big small eight (fun s hs => by have := inside s hs; omega) apart).1
  have start {label : String} {s : Nat × Nat} (h : s ∈ l) : u64at (entryOf label s) 32 = s.1 := by
    have := inside s h
    rw [u64at, entryOf_start, fromLe_toLe_of_lt (by omega)]
  refine pair_layout arrayBlocks_each fits (fun i label known => ?_)
    (fun i e above found => arrayBlocks_empty eight above found) fun e found => ?_
  · obtain ⟨s, hs, member⟩ := span_of_label eight known
    refine ⟨_, arrayBlocks_labelled eight known hs, entryOf_named (List.mem_of_getElem? known), ?_⟩
    rw [start member]
    exact (inside s member).1
  · cases l with
    | nil => cases eight
    | cons s l =>
      have known : labels[0]? = some "hassos-boot" := rfl
      rw [arrayBlocks_labelled eight known rfl] at found
      cases found
      rw [start List.mem_cons_self]
      exact Option.some.inj first

end

/-- A capture with partitions of one sector each behind the boot region. -/
def samplePair : Bytes × Bytes :=
  (primaryWith 34900 (arrayOf plainSpans), tailWith 34900 (arrayOf plainSpans))

/-- The sample has the layout of HAOS. -/
lemma samplePair_layout : K11c samplePair.1 samplePair.2 34900 :=
  arrayOf_layout (by decide) (by decide) (by decide) (by decide) (by decide) (by decide)

/-- The headers of the sample. -/
lemma samplePair_headers :
    slice samplePair.1 512 512 = sealHeader (headerOf 34900 1 34899 2 (arrayOf plainSpans)) ∧
      samplePair.2.drop 16384 =
        sealHeader (headerOf 34900 34899 1 34867 (arrayOf plainSpans)) := by
  have fits : Fitting 34900 (arrayOf plainSpans) :=
    (arrayOf_fitting (by decide) (by decide) (by decide) (by decide) (by decide)).1
  exact ⟨(primaryWith_parts fits).2.2.1, (tailWith_parts fits).2.2⟩

end K11CHaos.Engine.Gpt
