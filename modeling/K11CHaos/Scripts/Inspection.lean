import K11CHaos.Engine.GptHeader
import K11CHaos.Engine.Failure
import K11CHaos.Scripts.GptImage

/-!
# Accepted images

What `inspect_image` accepts, as the conditions on the windows of the image: two headers in place,
one partition array under both checksums, a protective MBR, and the rows of the array.
-/

namespace K11CHaos.Scripts.GptImage
open Engine.Gpt

/-- `crc_header` seals a header of a supported size. -/
lemma crcHeader_ok {h r : Bytes} (len : h.length = 512) :
    crcHeader h = .ok r ↔ (92 ≤ u32at h 12 ∧ u32at h 12 ≤ 512) ∧ sealHeader h = r := by
  have cleared : put32 h 16 0 = put h 16 (zeros 4) := by rw [put32, toLe_zero]
  have same : u32at (put32 h 16 0) 12 = u32at h 12 := by
    rw [u32at, slice_put32 (by omega) (by omega), u32at]
  have done : sealHeader h =
      put32 (put h 16 (zeros 4)) 16 (crc ((put h 16 (zeros 4)).take (u32at h 12))) := by
    rw [← cleared, sealHeader, same]
  simp only [crcHeader, bind_ok, require_ok]
  simp only [sector, done]
  constructor
  · rintro ⟨_, size, h1⟩
    cases h1
    exact ⟨size, rfl⟩
  · rintro ⟨size, rfl⟩
    exact ⟨(), size, rfl⟩

/-- A read that succeeds has all its bytes. -/
lemma readAt_ok {file r : Bytes} {offset count : Nat} :
    readAt file offset count = .ok r ↔
      (slice file offset count).length = count ∧ slice file offset count = r := by
  simp only [readAt, bind_ok, require_ok]
  constructor
  · rintro ⟨_, len, h1⟩
    cases h1
    exact ⟨len, rfl⟩
  · rintro ⟨len, rfl⟩
    exact ⟨(), len, rfl⟩

/-- The usable sectors of a header keep off both copies. -/
structure Usable (raw : Bytes) (sectors : Nat) : Prop where
  low : 34 ≤ u64at raw 40
  order : u64at raw 40 ≤ u64at raw 48
  high : u64at raw 48 ≤ sectors - 34

/-- `header_fields` accepts the headers in place with usable sectors. -/
lemma headerFields_ok {raw : Bytes} {lba sectors : Nat} {f : Fields} (len : raw.length = 512) :
    headerFields raw lba sectors = .ok f ↔
      Header raw lba (if lba = 1 then sectors - 1 else 1) (if lba = 1 then 2 else sectors - 33) ∧
        Usable raw sectors ∧ ⟨u64at raw 40, u64at raw 48, u64at raw 72, u32at raw 88⟩ = f := by
  have field (o : Nat) (h : o + 4 ≤ 512) : (slice raw o 4).length = 4 := length_slice (by omega)
  have sum (size : 92 ≤ u32at raw 12 ∧ u32at raw 12 ≤ 512) :
      slice raw 16 4 = slice (sealHeader raw) 16 4 ↔ headerCrc raw = u32at raw 16 := by
    have len' := length_sealHeader len size
    rw [← fromLe_inj (by rw [field 16 (by decide), length_slice (by omega)])]
    rw [show fromLe (slice (sealHeader raw) 16 4) = u32at (sealHeader raw) 16 from rfl,
      ← sealHeader_crc len size, sealHeader_eq len size, headerCrc_put32 len size]
    exact eq_comm
  have clear : slice raw 20 4 = zeros 4 ↔ u32at raw 20 = 0 := by
    rw [← fromLe_inj (by rw [field 20 (by decide), length_zeros]), ← toLe_zero, fromLe_toLe]
    exact Iff.rfl
  simp only [headerFields, bind_ok, require_ok, crcHeader_ok len]
  constructor
  · rintro ⟨_, k1, _, k2, _, ⟨k3, rfl⟩, _, k4, _, ⟨k5, k6⟩, _, ⟨k7, k8⟩, _, k9, _, ⟨b1, b2, b3⟩,
      _, k10, e⟩
    cases e
    exact ⟨⟨k1, k3, (sum k3).mp k4, k2, clear.mp k10, k5, k6, k9, k7, k8⟩, ⟨b1, b2, b3⟩, rfl⟩
  · rintro ⟨k, b, rfl⟩
    exact ⟨(), k.signature, (), k.revision, _, ⟨k.size, rfl⟩, (), (sum k.size).mpr k.crc,
      (), ⟨k.current, k.other⟩, (), ⟨k.count, k.each⟩, (), k.entries, (), ⟨b.low, b.order, b.high⟩,
      (), clear.mpr k.reserved, rfl⟩

/-- The windows of an accepted image fit together. -/
structure Inspected (image : Bytes) (info : Info) : Prop where
  sized : image.length = info.sectors * 512
  big : 68 ≤ info.sectors
  mbr : slice image 0 512 = info.mbr
  primary : slice image 512 512 = info.primary
  backup : slice image ((info.sectors - 1) * 512) 512 = info.backup
  entries : slice image 1024 16384 = info.entries
  front : Header info.primary 1 (info.sectors - 1) 2
  back : Header info.backup (info.sectors - 1) 1 (info.sectors - 33)
  usable : Usable info.primary info.sectors
  usable' : Usable info.backup info.sectors
  disk : slice info.primary 56 16 = slice info.backup 56 16
  policy : slice info.primary 8 8 = slice info.backup 8 8
  first : u64at info.primary 40 = u64at info.backup 40
  last : u64at info.primary 48 = u64at info.backup 48
  array : crc info.entries = u32at info.primary 88
  array' : crc info.entries = u32at info.backup 88
  same : slice image ((info.sectors - 33) * 512) 16384 = info.entries
  signature : slice info.mbr 510 2 = [0x55, 0xaa] ∧ info.mbr[450]? = some 0xee
  protective : u32at info.mbr 454 = 1 ∧ u32at info.mbr 458 = min (info.sectors - 1) 0xFFFFFFFF
  plain : slice info.mbr 462 48 = zeros 48
  rows : partRows (u64at info.primary 40) (u64at info.primary 48) 0
    (Engine.Gpt.entries info.entries) = .ok info.parts
  apart : ∀ r ∈ windows2 (ordered info.parts), r.1.stop < r.2.start
  guid : uuidText (slice info.primary 56 16) = info.guid

/-- `inspect_image(path, k11c=True)` accepts these images and, of the partitions, the eight. -/
theorem inspectImage_ok {image : Bytes} {info : Info} :
    inspectImage (some image) true = .ok info ↔
      Inspected image info ∧ requireK11c info.parts = .ok () := by
  constructor
  · intro h
    simp only [inspectImage, bind_ok, require_ok, Option.getD_some, readAt_ok, if_true] at h
    simp only [sector, entryBytes] at h
    obtain ⟨_, -, _, ⟨c1, c2⟩, mbr, ⟨l1, e1⟩, primary, ⟨l2, e2⟩, backup, ⟨l3, e3⟩, p, hp, b, hb,
      _, c3, _, ⟨c4, c5, c6⟩, entries, ⟨l4, e4⟩, entries', ⟨l5, e5⟩, _, ⟨c7, c8⟩, _, c9, _, c10,
      _, c11, _, c12, parts, hrows, _, c13, _, c14, e⟩ := h
    cases e
    have count : image.length = image.length / 512 * 512 := by omega
    have big : 68 ≤ image.length / 512 := by omega
    obtain ⟨front, usable, rfl⟩ := (headerFields_ok (by rw [← e2, l2])).mp hp
    obtain ⟨back, usable', rfl⟩ := (headerFields_ok (by rw [← e3, l3])).mp hb
    rw [if_pos rfl, if_pos rfl] at front
    rw [if_neg (by omega), if_neg (by omega)] at back
    dsimp only at c5 c6 c7 c8 c9 e4 e5 hrows
    subst c9
    rw [front.entries] at e4
    rw [back.entries] at e5
    exact ⟨⟨count, big, e1, e2, e3, e4, front, back, usable, usable', c3, c4, c5, c6, c7, c8,
      e5, c10, c11, c12, hrows, c13, rfl⟩, c14⟩
  · rintro ⟨k, k11c⟩
    have len := k.sized
    have big := k.big
    have count : image.length / 512 = info.sectors := by omega
    have window (o n : Nat) (h : o + n ≤ image.length) : (slice image o n).length = n :=
      length_slice h
    have l2 : info.primary.length = 512 := by rw [← k.primary, window _ _ (by omega)]
    have l3 : info.backup.length = 512 := by rw [← k.backup, window _ _ (by omega)]
    have hp := (@headerFields_ok info.primary 1 info.sectors _ l2).mpr
      ⟨by rw [if_pos rfl, if_pos rfl]; exact k.front, k.usable, rfl⟩
    have hb := (@headerFields_ok info.backup (info.sectors - 1) info.sectors _ l3).mpr
      ⟨by rw [if_neg (by omega), if_neg (by omega)]; exact k.back, k.usable', rfl⟩
    simp only [inspectImage, bind_ok, require_ok, Option.getD_some, readAt_ok, if_true]
    simp only [sector, entryBytes, count]
    refine ⟨(), rfl, (), ⟨by omega, by omega⟩, _, ⟨window _ _ (by omega), k.mbr⟩,
      _, ⟨window _ _ (by omega), k.primary⟩, _, ⟨window _ _ (by omega), k.backup⟩, _, hp, _, hb,
      (), k.disk, (), ⟨k.policy, k.first, k.last⟩, info.entries, ⟨?_, ?_⟩, info.entries, ⟨?_, ?_⟩,
      (), ⟨k.array, k.array'⟩, (), rfl, (), k.signature, (), k.protective, (), k.plain,
      _, k.rows, (), k.apart, (), k11c, ?_⟩
    · dsimp only
      rw [k.front.entries, window _ _ (by omega)]
    · dsimp only
      rw [k.front.entries, k.entries]
    · dsimp only
      rw [k.back.entries, window _ _ (by omega)]
    · dsimp only
      rw [k.back.entries, k.same]
    · rw [k.guid]
      rfl

end K11CHaos.Scripts.GptImage
