import K11CHaos.Engine.Build

/-!
# Works that deliver

After the segments of a work are on the disk, the boot area is the one that `build` intended, and the
checks that an execution makes after its last write pass (`build_delivers`). Two operations need more than
what planning has looked at (`Fit`): a disk image without GPT must not carry the vendor's read denial where
the GPT would be, and a HAOS archive must not bring other bytes into the first or last sectors.
-/

namespace K11CHaos.Engine.Flash

open Prog World

section Area

variable {d d' : Disk} {sectors : UInt32} {segs : List Segment} {stream : Option Bytes}

/-- A byte of the first 34 or the last 33 sectors. -/
def Header (sectors : UInt32) (x : Nat) : Prop :=
  Inside x (0, 34 * 512) ∨ Inside x (512 * (sectors - 33).toNat, 33 * 512)

/-- Disks that agree on the headers have the same pair. -/
lemma bootArea_congr (h : ∀ x, Header sectors x → d' x = d x) :
    (bootArea d' sectors).primary = (bootArea d sectors).primary ∧
      (bootArea d' sectors).tail = (bootArea d sectors).tail := by
  refine ⟨?_, ?_⟩
  · rw [bootArea_primary, bootArea_primary]
    exact readAt_congr fun x lo hi => h x (.inl ⟨lo, hi⟩)
  · rw [bootArea_tail, bootArea_tail]
    exact readAt_congr fun x lo hi => h x (.inr ⟨lo, hi⟩)

/-- Disks with the same pair agree on the headers. -/
lemma bootArea_header (hp : (bootArea d' sectors).primary = (bootArea d sectors).primary)
    (ht : (bootArea d' sectors).tail = (bootArea d sectors).tail) {x : Nat}
    (h : Header sectors x) : d' x = d x := by
  rw [bootArea_primary, bootArea_primary] at hp
  rw [bootArea_tail, bootArea_tail] at ht
  obtain h | h := h
  · exact readAt_eq hp h.1 h.2
  · exact readAt_eq ht h.1 h.2

/-- A written primary is there in the end. -/
lemma stored_primary {label b} (supplied : AllSupplied segs stream)
    (laid : Laid (segs.map Segment.range) sectors) (h : bytesSegment label 0 b ∈ segs)
    (len : b.length = 34 * 512) :
    (bootArea (imageOf d segs stream) sectors).primary = b := by
  have e := stored_bytes (d := d) supplied laid h
  rw [len, UInt32.toNat_zero, Nat.mul_zero] at e
  rw [bootArea_primary, e]

/-- A written tail is there in the end. -/
lemma stored_tail {label b} (supplied : AllSupplied segs stream)
    (laid : Laid (segs.map Segment.range) sectors)
    (h : bytesSegment label (sectors - 33) b ∈ segs) (len : b.length = 33 * 512) :
    (bootArea (imageOf d segs stream) sectors).tail = b := by
  have e := stored_bytes (d := d) supplied laid h
  rw [len] at e
  rw [bootArea_tail, e]

end Area

/-- What two operations need beyond the checks of planning. -/
structure Fit (X : Crates) (st : Store) (op source : String) (identity : Identity)
    (d : Disk) : Prop where
  headers : Operation.ofName op = some .restoreArchive →
    ∀ a, Archive.openMetadata X st source = .ok a → a.metadata.kind = "HAOS" →
      ∀ rb ∈ a.metadata.ranges.zip
          (contents (a.metadata.ranges.map archived) (some (a.reader X).out)),
        ∀ x, Inside x rb.1.window → Header identity.sectors x →
          rb.2[x - rb.1.window.1]? = some (d x)
  image : Operation.ofName op = some .factoryRaw →
    ∀ image file, Factory.openImage X st source = .ok (image, file) →
      slice file 512 8 ≠ Gpt.efiPart →
        requireGptBytes (slice file 512 (33 * 512)) = .ok () ∧
          (imageSectors file = identity.sectors →
            requireGptBytes (slice file (file.length - 33 * 512) (33 * 512)) = .ok ())

/-- The boot area that a work is meant to leave, and that it leaves. -/
structure Leaves (work : Work) (d' : Disk) (sectors : UInt32) : Prop where
  primary : (bootArea d' sectors).primary = work.primary
  tail : (bootArea d' sectors).tail = work.tail
  undenied : Undenied (bootArea d' sectors)

/-- A sound pair on the disk is what was intended. -/
lemma Leaves.of_sound {work : Work} {d' : Disk} {sectors : UInt32}
    (hp : (bootArea d' sectors).primary = work.primary)
    (ht : (bootArea d' sectors).tail = work.tail)
    (sound : Gpt.Sound work.primary work.tail sectors) : Leaves work d' sectors := by
  obtain ⟨u1, u2⟩ := sound.undenied
  exact ⟨hp, ht, by rw [hp]; exact u1, by rw [ht]; exact u2⟩

/-- A work that writes both copies of its pair leaves them. -/
lemma leaves_pair {work : Work} {d : Disk} {stream} {sectors : UInt32}
    (supplied : AllSupplied work.segments stream) (laid : Laid work.ranges sectors)
    (sound : Gpt.Sound work.primary work.tail sectors)
    (hp : bytesSegment "Primary GPT" 0 work.primary ∈ work.segments)
    (ht : bytesSegment "Backup GPT" (sectors - 33) work.tail ∈ work.segments) :
    Leaves work (imageOf d work.segments stream) sectors :=
  .of_sound (stored_primary supplied laid hp sound.sizePrimary)
    (stored_tail supplied laid ht sound.sizeTail) sound

/-- Every segment has a partner. -/
lemma exists_zip_right {α β : Type} {l : List α} {m : List β} {a : α} (h : a ∈ l)
    (len : m.length = l.length) : ∃ b, (a, b) ∈ l.zip m := by
  obtain ⟨i, hi, rfl⟩ := List.mem_iff_getElem.mp h
  refine ⟨m.get ⟨i, len ▸ hi⟩, List.mem_iff_getElem.mpr ⟨i, ?_, List.getElem_zip⟩⟩
  rw [List.length_zip, len, Nat.min_self]
  exact hi

section Arms

variable {X : Crates} {st : Store} {source : String} {identity : Identity} {current : Snapshot}
  {work : Work} {d : Disk}

/-- An installation of HAOS has steady segments. -/
lemma Install.steady {file pair fw} (h : Install X st source identity work file pair fw) :
    ∀ seg ∈ work.segments, Steady seg := by
  have big := h.big
  rw [h.segments]
  intro seg hs
  obtain hs | hs := List.mem_append.mp hs
  · obtain rfl | hs := List.mem_cons.mp hs
    · exact steady_image (by omega) rfl
    · unfold installCleared at hs
      dsimp only at hs
      split_ifs at hs
      · obtain rfl := List.mem_singleton.mp hs
        exact steady_bytes
      · exact absurd hs List.not_mem_nil
  · simp only [List.mem_cons, List.not_mem_nil, or_false] at hs
    obtain rfl | rfl | rfl := hs <;> exact steady_bytes

/-- An installation of HAOS leaves its pair. -/
lemma Install.leaves {file pair fw stream} (h : Install X st source identity work file pair fw)
    (laid : Laid work.ranges identity.sectors) :
    Leaves work (imageOf d work.segments stream) identity.sectors := by
  have sound := Gpt.healthy_sound (Gpt.requireK11c_healthy (Gpt.relocated_sound h.relocated))
  refine leaves_pair (allSupplied_steady h.steady) laid ?_ ?_ ?_
  · rw [h.primary, h.tail]
    exact sound
  · rw [h.segments, h.primary]
    simp
  · rw [h.segments, h.tail]
    simp

/-- A disk image with GPT has steady segments. -/
lemma RawGpt.steady {file pair} (h : RawGpt identity work file pair) :
    ∀ seg ∈ work.segments, Steady seg := by
  rw [h.segments]
  intro seg hs
  obtain hs | hs := List.mem_append.mp hs
  · obtain rfl | hs := List.mem_cons.mp hs
    · exact steady_image h.fits rfl
    · split_ifs at hs
      · obtain rfl := List.mem_singleton.mp hs
        exact steady_bytes
      · exact absurd hs List.not_mem_nil
  · simp only [List.mem_cons, List.not_mem_nil, or_false] at hs
    obtain rfl | rfl := hs <;> exact steady_bytes

/-- A disk image with GPT leaves its pair. -/
lemma RawGpt.leaves {file pair stream} (h : RawGpt identity work file pair)
    (laid : Laid work.ranges identity.sectors) :
    Leaves work (imageOf d work.segments stream) identity.sectors := by
  have sound := Gpt.healthy_sound (Gpt.resized_sound h.resized)
  refine leaves_pair (allSupplied_steady h.steady) laid ?_ ?_ ?_
  · rw [h.primary, h.tail]
    exact sound
  · rw [h.segments, h.primary]
    simp
  · rw [h.segments, h.tail]
    simp

/-- A disk image without GPT has one steady segment. -/
lemma RawMbr.steady {file} (h : RawMbr identity work file) :
    ∀ seg ∈ work.segments, Steady seg := by
  rw [h.segments]
  intro seg hs
  obtain rfl | hs := List.mem_cons.mp hs
  · exact steady_image (by omega) rfl
  · split_ifs at hs
    · obtain rfl := List.mem_singleton.mp hs
      exact steady_bytes
    · exact absurd hs List.not_mem_nil

/-- The sizes of an image that fits, as numbers. -/
lemma RawDisk.sizes {file} (disk : RawDisk X st source identity file) :
    (imageSectors file).toNat = file.length / 512 ∧
      (identity.sectors - 33).toNat = identity.sectors.toNat - 33 ∧
      34849 < file.length / 512 := by
  have aligned := disk.aligned
  have big := disk.big
  have fits := disk.fits
  have lt := identity.sectors.toNat_lt
  have large : 34849 < identity.sectors := UInt32.lt_iff_toNat_lt.mpr (by
    show 34849 < identity.sectors.toNat
    omega)
  refine ⟨?_, sectors_sub large, by omega⟩
  rw [imageSectors, UInt32.toNat_ofNat']
  exact Nat.mod_eq_of_lt (by omega)

/-- The last sectors where the image reaches into them: its own, then zeros. -/
lemma RawDisk.mbrTail_beyond {file} (disk : RawDisk X st source identity file)
    (beyond : identity.sectors.toNat - 33 < file.length / 512) :
    mbrTail file identity.sectors =
      slice file ((identity.sectors.toNat - 33) * 512)
        ((file.length / 512 - (identity.sectors.toNat - 33)) * 512) ++
      zeros ((identity.sectors.toNat - file.length / 512) * 512) := by
  obtain ⟨size, start, bigger⟩ := disk.sizes
  have fits := disk.fits
  have aligned := disk.aligned
  have beyond' : imageSectors file > identity.sectors - 33 := by
    show identity.sectors - 33 < imageSectors file
    rwa [UInt32.lt_iff_toNat_lt, start, size]
  have own : (imageSectors file - (identity.sectors - 33)).toNat =
      file.length / 512 - (identity.sectors.toNat - 33) := by
    rw [UInt32.toNat_sub_of_le (imageSectors file) _ (UInt32.le_of_lt beyond'), size, start]
  have len : (slice file ((identity.sectors.toNat - 33) * 512)
      ((file.length / 512 - (identity.sectors.toNat - 33)) * 512)).length =
      (file.length / 512 - (identity.sectors.toNat - 33)) * 512 := length_slice (by omega)
  have rest : 33 * 512 - (file.length / 512 - (identity.sectors.toNat - 33)) * 512 =
      (identity.sectors.toNat - file.length / 512) * 512 := by
    omega
  rw [mbrTail, if_pos beyond', start, own, put_zeros, len, rest]

/-- The last sectors where it does not. -/
lemma RawDisk.mbrTail_within {file} (disk : RawDisk X st source identity file)
    (within : file.length / 512 ≤ identity.sectors.toNat - 33) :
    mbrTail file identity.sectors = zeros (33 * 512) := by
  obtain ⟨size, start, -⟩ := disk.sizes
  refine if_neg (UInt32.not_lt.mpr ?_)
  rwa [UInt32.le_iff_toNat_le, start, size]

/-- The sectors that are cleared, as numbers. -/
lemma RawDisk.clearedFrom {file} (disk : RawDisk X st source identity file) :
    (max (imageSectors file) (identity.sectors - 33)).toNat =
        max (file.length / 512) (identity.sectors.toNat - 33) ∧
      (identity.sectors - max (imageSectors file) (identity.sectors - 33)).toNat =
        identity.sectors.toNat - max (file.length / 512) (identity.sectors.toNat - 33) := by
  obtain ⟨size, start, -⟩ := disk.sizes
  have fits := disk.fits
  have top : (max (imageSectors file) (identity.sectors - 33)).toNat =
      max (file.length / 512) (identity.sectors.toNat - 33) := by
    have top' : max (imageSectors file) (identity.sectors - 33) =
        if imageSectors file ≤ identity.sectors - 33 then identity.sectors - 33
        else imageSectors file := rfl
    rw [top', ← size, ← start, Nat.max_def]
    simp only [UInt32.le_iff_toNat_le]
    split_ifs <;> rfl
  refine ⟨top, ?_⟩
  rw [UInt32.toNat_sub_of_le, top]
  rw [UInt32.le_iff_toNat_le, top]
  omega

/-- The image itself is written from the first sector on. -/
lemma RawMbr.whole {file stream} (h : RawMbr identity work file)
    (laid : Laid work.ranges identity.sectors) :
    readAt (imageOf d work.segments stream) 0 file.length = file := by
  have here : (⟨⟨"Manufacturer system", 0, file.length, hashBytes (slice file 0 file.length)⟩,
      .image file 0 file.length⟩ : Segment) ∈ work.segments := by
    rw [h.segments]
    exact .head _
  have e := stored_image (d := d) (allSupplied_steady h.steady : AllSupplied work.segments stream)
    laid (Nat.le_of_eq (Nat.zero_add _)) here
  rw [UInt32.toNat_zero, Nat.mul_zero] at e
  rw [e, slice_full (Nat.le_refl _)]

/-- What is behind it is cleared. -/
lemma RawMbr.cleared {file stream} (h : RawMbr identity work file)
    (disk : RawDisk X st source identity file) (laid : Laid work.ranges identity.sectors)
    (less : file.length / 512 < identity.sectors.toNat) :
    readAt (imageOf d work.segments stream)
        (512 * max (file.length / 512) (identity.sectors.toNat - 33))
        ((identity.sectors.toNat - max (file.length / 512) (identity.sectors.toNat - 33)) * 512) =
      zeros ((identity.sectors.toNat -
        max (file.length / 512) (identity.sectors.toNat - 33)) * 512) := by
  obtain ⟨size, -, -⟩ := disk.sizes
  obtain ⟨top, rest⟩ := disk.clearedFrom
  have lt : imageSectors file < identity.sectors := by
    rwa [UInt32.lt_iff_toNat_lt, size]
  have here : bytesSegment "Old GPT cleared" (max (imageSectors file) (identity.sectors - 33))
      (zeros ((identity.sectors - max (imageSectors file) (identity.sectors - 33)).toNat * 512)) ∈
      work.segments := by
    rw [h.segments, if_pos lt]
    exact .tail _ (.head _)
  have e := stored_bytes (d := d) (allSupplied_steady h.steady : AllSupplied work.segments stream)
    laid here
  rwa [length_zeros, top, rest] at e

/-- A disk image without GPT leaves its own first sectors, and the last ones as intended. -/
lemma RawMbr.area {file stream} (h : RawMbr identity work file)
    (disk : RawDisk X st source identity file) (laid : Laid work.ranges identity.sectors) :
    (bootArea (imageOf d work.segments stream) identity.sectors).primary = work.primary ∧
      (bootArea (imageOf d work.segments stream) identity.sectors).tail = work.tail := by
  obtain ⟨-, start, bigger⟩ := disk.sizes
  have aligned := disk.aligned
  have fits := disk.fits
  have part {a n : Nat} (le : a + n ≤ file.length) :
      readAt (imageOf d work.segments stream) a n = slice file a n := by
    have whole : readAt (imageOf d work.segments stream) 0 file.length = file := h.whole laid
    conv_rhs => rw [← whole]
    rw [slice_readAt le, Nat.zero_add]
  refine ⟨?_, ?_⟩
  · rw [bootArea_primary, h.primary]
    exact part (by omega)
  rw [bootArea_tail, h.tail, start, Nat.mul_comm 512]
  by_cases beyond : identity.sectors.toNat - 33 < file.length / 512
  · have split : 33 * 512 = (file.length / 512 - (identity.sectors.toNat - 33)) * 512 +
        (identity.sectors.toNat - file.length / 512) * 512 := by omega
    rw [disk.mbrTail_beyond beyond]
    conv_lhs => rw [split]
    rw [← readAt_append, part (by omega)]
    congr 1
    obtain less | same := Nat.lt_or_eq_of_le fits
    · have e : readAt (imageOf d work.segments stream) _ _ = _ := h.cleared disk laid less
      have place : (identity.sectors.toNat - 33) * 512 +
          (file.length / 512 - (identity.sectors.toNat - 33)) * 512 = 512 * (file.length / 512) := by
        omega
      rw [Nat.max_eq_left (by omega)] at e
      rw [place, e]
    · rw [same, Nat.sub_self]
      simp
  · have within := Nat.le_of_not_lt beyond
    have e : readAt (imageOf d work.segments stream) _ _ = _ := h.cleared disk laid (by omega)
    rw [Nat.max_eq_right within, show (identity.sectors.toNat - (identity.sectors.toNat - 33)) * 512 =
      33 * 512 by omega, Nat.mul_comm 512] at e
    rw [disk.mbrTail_within within, e]

/-- A block with another byte in it is not the read denial. -/
lemma undenied_of_mem {b : Bytes} {x : UInt8} (h : x ∈ b) (ne : x ≠ 0xcc) :
    requireGptBytes b = .ok () :=
  deny_ok.mpr fun denied => ne (denied.2 x h)

/-- The area of a disk image without GPT passes the test on the read denial exactly when the image has
    something else in the first sectors, and in the last ones if it fills the eMMC. -/
lemma RawMbr.undenied_iff {file} (h : RawMbr identity work file)
    (disk : RawDisk X st source identity file) :
    (requireGptBytes (work.primary.drop 512) = .ok () ∧ requireGptBytes work.tail = .ok ()) ↔
      requireGptBytes (slice file 512 (33 * 512)) = .ok () ∧
        (imageSectors file = identity.sectors →
          requireGptBytes (slice file (file.length - 33 * 512) (33 * 512)) = .ok ()) := by
  obtain ⟨size, -, bigger⟩ := disk.sizes
  have aligned := disk.aligned
  have fits := disk.fits
  have primary : work.primary.drop 512 = slice file 512 (33 * 512) := by
    rw [h.primary, show 34 * 512 = 512 + 33 * 512 from rfl, drop_slice, Nat.zero_add]
  rw [primary, h.tail]
  refine and_congr_right fun _ => ?_
  by_cases full : imageSectors file = identity.sectors
  · have same : file.length / 512 = identity.sectors.toNat := by rw [← size, full]
    have place : (identity.sectors.toNat - 33) * 512 = file.length - 33 * 512 := by omega
    have own : file.length / 512 - (identity.sectors.toNat - 33) = 33 := by omega
    rw [disk.mbrTail_beyond (by omega), own, same, Nat.sub_self, Nat.zero_mul, zeros_zero,
      List.append_nil, place]
    exact ⟨fun h _ => h, fun h => h full⟩
  · have less : file.length / 512 < identity.sectors.toNat := by
      refine Nat.lt_of_le_of_ne fits fun e => full (UInt32.toNat_inj.mp ?_)
      rw [size, e]
    refine iff_of_true ?_ fun e => absurd e full
    have zero {n : Nat} (pos : 0 < n) : (0 : UInt8) ∈ zeros n := by
      rw [zeros_mem]
      exact pos
    by_cases beyond : identity.sectors.toNat - 33 < file.length / 512
    · rw [disk.mbrTail_beyond beyond]
      exact undenied_of_mem (List.mem_append_right _ (zero (by omega))) (by decide)
    · rw [disk.mbrTail_within (Nat.le_of_not_lt beyond)]
      exact undenied_of_mem (zero (by decide)) (by decide)

/-- A boot loader has steady segments. -/
lemma Uboot.steady {fw} (h : Uboot identity current work fw) :
    ∀ seg ∈ work.segments, Steady seg := by
  rw [h.segments]
  intro seg hs
  obtain rfl := List.mem_singleton.mp hs
  exact steady_bytes

/-- A restored boot area has steady segments. -/
lemma RestoredBoot.steady {saved} (h : RestoredBoot identity current saved work) :
    ∀ seg ∈ work.segments, Steady seg := by
  rw [h.segments]
  intro seg hs
  simp only [List.mem_cons, List.not_mem_nil, or_false] at hs
  obtain rfl | rfl | rfl | rfl := hs <;> exact steady_bytes

/-- A repair has steady segments. -/
lemma Repaired.steady {pair} (h : Repaired identity current work pair) :
    ∀ seg ∈ work.segments, Steady seg := by
  rw [h.segments]
  intro seg hs
  obtain hs | hs := List.mem_append.mp hs
  · split_ifs at hs
    · obtain rfl := List.mem_singleton.mp hs
      exact steady_bytes
    · exact absurd hs List.not_mem_nil
  · split_ifs at hs
    · obtain rfl := List.mem_singleton.mp hs
      exact steady_bytes
    · exact absurd hs List.not_mem_nil

/-- A U-Boot update leaves both copies of the GPT alone. -/
lemma Uboot.leaves {fw stream} (h : Uboot identity current work fw)
    (big : 34849 < identity.sectors) (area : current = bootArea d identity.sectors)
    (undenied : Undenied current) :
    Leaves work (imageOf d work.segments stream) identity.sectors := by
  have start := sectors_sub big
  have bigN : 34849 < identity.sectors.toNat := UInt32.lt_iff_toNat_lt.mp big
  have sized := h.sized.2.2
  have same : ∀ x, Header identity.sectors x → imageOf d work.segments stream x = d x := by
    intro x hx
    refine imageOf_outside fun r hr hin => ?_
    rw [h.segments] at hr
    obtain rfl := List.mem_singleton.mp hr
    simp only [Header, Inside, Range.window, bytesSegment, start] at hx hin
    have : (64 : UInt32).toNat = 64 := rfl
    omega
  have kept := bootArea_congr same
  rw [← area] at kept
  refine ⟨kept.1.trans h.primary.symm, kept.2.trans h.tail.symm, ?_, ?_⟩
  · rw [kept.1]
    exact undenied.primary
  · rw [kept.2]
    exact undenied.tail

/-- A restored boot backup leaves the saved pair. -/
lemma RestoredBoot.leaves {saved stream} (h : RestoredBoot identity current saved work)
    (laid : Laid work.ranges identity.sectors) :
    Leaves work (imageOf d work.segments stream) identity.sectors := by
  have sound := Gpt.healthy_sound (Gpt.requireK11c_healthy h.layout)
  refine leaves_pair (allSupplied_steady h.steady) laid ?_ ?_ ?_
  · rw [h.primary, h.tail]
    exact sound
  · rw [h.segments, h.primary]
    simp
  · rw [h.segments, h.tail]
    simp

/-- A GPT repair leaves the repaired pair: a copy that is not written is there already. -/
lemma Repaired.leaves {pair stream} (h : Repaired identity current work pair)
    (laid : Laid work.ranges identity.sectors) (area : current = bootArea d identity.sectors) :
    Leaves work (imageOf d work.segments stream) identity.sectors := by
  have sound := Gpt.healthy_sound (Gpt.requireK11c_healthy (Gpt.repaired_sound h.repaired))
  have start := sectors_sub sound.big
  have bigN : 34849 < identity.sectors.toNat := UInt32.lt_iff_toNat_lt.mp sound.big
  have supplied : AllSupplied work.segments stream := allSupplied_steady h.steady
  refine .of_sound ?_ ?_ (by rw [h.primary, h.tail]; exact sound)
  · rw [h.primary]
    -- a copy that is already right is not written, and stays as it was captured
    by_cases same : pair.1 = current.primary
    · have kept : (bootArea (imageOf d work.segments stream) identity.sectors).primary =
          (bootArea d identity.sectors).primary := by
        rw [bootArea_primary, bootArea_primary]
        refine readAt_congr fun x lo hi => imageOf_outside fun r hr hin => ?_
        rw [h.segments, if_neg (not_not.mpr same), List.append_nil] at hr
        split_ifs at hr
        · obtain rfl := List.mem_singleton.mp hr
          simp only [Inside, Range.window, bytesSegment, start] at hin
          omega
        · exact absurd hr List.not_mem_nil
      rw [kept, ← area, same]
    · have here : bytesSegment "Primary GPT" 0 pair.1 ∈ work.segments := by
        rw [h.segments, if_pos same]
        exact List.mem_append_right _ (.head _)
      exact stored_primary supplied laid here sound.sizePrimary
  · rw [h.tail]
    by_cases same : pair.2 = current.tail
    · have kept : (bootArea (imageOf d work.segments stream) identity.sectors).tail =
          (bootArea d identity.sectors).tail := by
        rw [bootArea_tail, bootArea_tail]
        refine readAt_congr fun x lo hi => imageOf_outside fun r hr hin => ?_
        rw [h.segments, if_neg (not_not.mpr same), List.nil_append] at hr
        have len := sound.sizePrimary
        split_ifs at hr
        · obtain rfl := List.mem_singleton.mp hr
          simp only [Inside, Range.window, bytesSegment] at hin
          rw [start] at lo
          have : (0 : UInt32).toNat = 0 := rfl
          omega
        · exact absurd hr List.not_mem_nil
      rw [kept, ← area, same]
    · have here : bytesSegment "Backup GPT" (identity.sectors - 33) pair.2 ∈ work.segments := by
        rw [h.segments, if_pos same]
        exact List.mem_append_left _ (.head _)
      exact stored_tail supplied laid here sound.sizeTail

/-- The stream of a restoration is the archive. -/
lemma Restored.stream {a} (h : Restored identity current work a) :
    work.stream X = some (a.reader X).out := by
  rw [Work.stream, h.archive, Option.map_some]

/-- A restored FULL or BOOT archive leaves the saved pair: its ranges bring the first and last sectors,
    and the check of the archive has compared them with the metadata. -/
lemma Restored.leaves {a} (h : Restored identity current work a) (verified : Archive.Verified X a)
    (valid : Archive.validate a.metadata = .ok ()) (part : a.metadata.kind ≠ "HAOS") :
    Leaves work (imageOf d work.segments (work.stream X)) identity.sectors := by
  obtain ⟨expected, valid⟩ := validate_valid valid
  have big := (ranges_ok valid.computed).1
  obtain ⟨headPrimary, headTail⟩ := verified.headers part
  have e1 := h.primary
  have e2 := h.tail
  rw [if_neg part] at e1 e2
  rw [← h.capacity]
  have covered : ∀ x, Header a.metadata.identity.sectors x →
      imageOf d work.segments (work.stream X) x =
        imageOf (fun _ => 0) (a.metadata.ranges.map archived) (some (a.reader X).out) x := by
    intro x hx
    rw [h.stream, h.segments]
    refine imageOf_covered verified.supplied ?_
    rw [ranges_archived]
    exact valid.covers part hx
  obtain ⟨p, t⟩ := bootArea_congr covered
  rw [bootArea_primary, bootArea_primary, ← headPrimary, ← bootArea_primary] at p
  rw [bootArea_tail, bootArea_tail, sectors_sub big, Nat.mul_comm, ← headTail, Nat.mul_comm,
    ← sectors_sub big, ← bootArea_tail] at t
  refine ⟨p.trans e1.symm, t.trans e2.symm, ?_, ?_⟩
  · rw [p]
    exact valid.undeniedPrimary
  · rw [t]
    exact valid.undeniedTail

/-- A restored HAOS archive leaves the pair of the disk exactly when it brings no other bytes into it. -/
lemma Restored.leaves_iff {a} (h : Restored identity current work a)
    (verified : Archive.Verified X a) (laid : Laid work.ranges identity.sectors)
    (area : current = bootArea d identity.sectors) (haos : a.metadata.kind = "HAOS") :
    ((bootArea (imageOf d work.segments (work.stream X)) identity.sectors).primary = work.primary ∧
      (bootArea (imageOf d work.segments (work.stream X)) identity.sectors).tail = work.tail) ↔
    ∀ rb ∈ a.metadata.ranges.zip
        (contents (a.metadata.ranges.map archived) (some (a.reader X).out)),
      ∀ x, Inside x rb.1.window → Header identity.sectors x →
        rb.2[x - rb.1.window.1]? = some (d x) := by
  have e1 := h.primary
  have e2 := h.tail
  rw [if_pos haos, area] at e1 e2
  rw [Work.ranges, h.segments] at laid
  rw [e1, e2, h.stream, h.segments]
  have inside {rb : Range × Bytes} {x} (hr : rb ∈ a.metadata.ranges.zip
      (contents (a.metadata.ranges.map archived) (some (a.reader X).out)))
      (hx : Inside x rb.1.window) :
      rb.2[x - rb.1.window.1]? =
        some (imageOf d (a.metadata.ranges.map archived) (some (a.reader X).out) x) :=
    imageOf_inside verified.supplied laid (by rwa [ranges_archived]) hx
  refine ⟨fun same rb hr x hx header => ?_, fun own => bootArea_congr fun x header => ?_⟩
  · rw [inside hr hx, bootArea_header same.1 same.2 header]
  · by_cases meets : ∃ r ∈ a.metadata.ranges, Inside x r.window
    · obtain ⟨r, hr, hx⟩ := meets
      obtain ⟨b, hb⟩ := exists_zip_right hr (m := contents (a.metadata.ranges.map archived)
        (some (a.reader X).out)) (by rw [length_contents, List.length_map])
      have e := own _ hb x hx header
      rw [inside hb hx] at e
      exact Option.some.inj e
    · rw [not_exists] at meets
      refine imageOf_outside fun r hr hx => meets r ⟨?_, hx⟩
      rwa [ranges_archived] at hr

/-- Every segment of a work finds the bytes that its range announces. -/
lemma Built.supplied {o} (h : Built X st source identity current true work o) :
    AllSupplied work.segments (work.stream X) := by
  cases h with
  | install h => exact allSupplied_steady h.steady
  | uboot h => exact allSupplied_steady h.steady
  | gptRepair _ h => exact allSupplied_steady h.steady
  | restore _ h => exact allSupplied_steady h.steady
  | restoreArchive _ verified h =>
    rw [h.stream, h.segments]
    exact (Archive.verify_verified (verified rfl)).supplied
  | factoryGpt _ _ _ h => exact allSupplied_steady h.steady
  | factoryMbr _ _ _ h => exact allSupplied_steady h.steady

/-- A work leaves the boot area that it is meant to leave exactly when its source is fit for the disk. -/
lemma Built.leaves_iff {op o} (h : Built X st source identity current true work o)
    (name : Operation.ofName op = some o) (laid : Laid work.ranges identity.sectors)
    (big : 34849 < identity.sectors) (area : current = bootArea d identity.sectors)
    (undenied : Undenied current) :
    Leaves work (imageOf d work.segments (work.stream X)) identity.sectors ↔
      Fit X st op source identity d := by
  cases h with
  | install h =>
    refine iff_of_true (h.leaves laid) ⟨fun e => ?_, fun e => ?_⟩ <;> rw [name] at e <;> cases e
  | uboot h =>
    refine iff_of_true (h.leaves big area undenied) ⟨fun e => ?_, fun e => ?_⟩ <;>
    rw [name] at e <;> cases e
  | gptRepair _ h =>
    refine iff_of_true (h.leaves laid area) ⟨fun e => ?_, fun e => ?_⟩ <;>
    rw [name] at e <;> cases e
  | restore _ h =>
    refine iff_of_true (h.leaves laid) ⟨fun e => ?_, fun e => ?_⟩ <;> rw [name] at e <;> cases e
  | @restoreArchive a opened verified h =>
    -- one of the two cases that can fail: a HAOS archive does not contain the area itself
    have check := Archive.verify_verified (verified rfl)
    refine Iff.trans ?_ ⟨fun hd => ⟨fun _ b hb => ?_, fun e => ?_⟩, fun fit => fit.headers name a opened⟩
    rotate_left
    · rw [opened] at hb
      cases hb
      exact hd
    · rw [name] at e
      cases e
    by_cases haos : a.metadata.kind = "HAOS"
    · refine Iff.trans ⟨fun l => ⟨l.primary, l.tail⟩, fun l => ⟨l.1, l.2, ?_, ?_⟩⟩
        ((h.leaves_iff check laid area haos).trans ⟨fun own _ => own, fun own => own haos⟩)
      · rw [l.1, h.primary, if_pos haos]
        exact undenied.primary
      · rw [l.2, h.tail, if_pos haos]
        exact undenied.tail
    · exact iff_of_true (h.leaves check (openMetadata_valid opened) haos)
        fun e => absurd e haos
  | @factoryGpt file _ _ disk gpt h =>
    refine iff_of_true (h.leaves laid) ⟨fun e => ?_, fun _ image f hf mbr => ?_⟩
    · rw [name] at e
      cases e
    · obtain ⟨_, opened, _⟩ := disk.opened
      rw [opened] at hf
      cases hf
      exact absurd gpt mbr
  | @factoryMbr file _ disk mbr h =>
    -- the other: an image without GPT may look like the read denial
    obtain ⟨p, t⟩ : _ ∧ (bootArea (imageOf d work.segments (work.stream X)) _).tail = _ :=
      h.area disk laid
    obtain ⟨_, opened, _⟩ := disk.opened
    refine Iff.trans ⟨fun l => ?_, fun u => ⟨p, t, ?_, ?_⟩⟩
      ((h.undenied_iff disk).trans ⟨fun u => ⟨fun e => ?_, fun _ image f hf _ => ?_⟩, fun fit =>
        fit.image name _ file opened mbr⟩)
    · rw [← p, ← t]
      exact ⟨l.undenied.primary, l.undenied.tail⟩
    · rw [p]
      exact u.1
    · rw [t]
      exact u.2
    · rw [name] at e
      cases e
    · rw [opened] at hf
      cases hf
      exact u

/-- A U-Boot update leaves the rest of the reserved area. -/
lemma Uboot.frame {fw stream} {p : Plan} (h : Uboot identity current work fw)
    (area : current = bootArea d identity.sectors) (ranges : p.ranges = work.ranges) :
    ubootCheck p current (bootArea (imageOf d work.segments stream) identity.sectors) = .ok () := by
  unfold ubootCheck
  split_ifs
  · rw [ranges, Work.ranges, h.segments]
    have out {x : Nat} (hx : x < 64 * 512 ∨ 64 * 512 + fw.length ≤ x) :
        imageOf d work.segments stream x = d x := by
      refine imageOf_outside fun r hr hin => ?_
      rw [h.segments] at hr
      obtain rfl := List.mem_singleton.mp hr
      simp only [Inside, Range.window, bytesSegment] at hin
      have : (64 : UInt32).toNat = 64 := rfl
      omega
    refine deny_ok.mpr ?_
    simp only [bytesSegment, not_or, not_not, area, bootArea, h.segments] at out ⊢
    rw [take_readAt (by decide), take_readAt (by decide), drop_readAt, drop_readAt]
    refine ⟨readAt_congr fun x lo hi => out (by omega), readAt_congr fun x lo hi => out ?_⟩
    omega
  · rfl

/-- The checks of the area around the written ranges pass. -/
lemma Built.frame {op o} {p : Plan} (h : Built X st source identity current true work o)
    (name : Operation.ofName op = some o) (area : current = bootArea d identity.sectors)
    (operation : p.operation = op) (ranges : p.ranges = work.ranges)
    (leaves : Leaves work (imageOf d work.segments (work.stream X)) identity.sectors) :
    frameChecks p identity current
      (bootArea (imageOf d work.segments (work.stream X)) identity.sectors) = .ok () := by
  have layout (k : Gpt.requireK11c work.primary work.tail identity.sectors = .ok ()) :
      layoutCheck p identity
        (bootArea (imageOf d work.segments (work.stream X)) identity.sectors) = .ok () := by
    unfold layoutCheck
    dsimp only
    split_ifs
    · rfl
    · rw [leaves.primary, leaves.tail]
      exact k
  -- these two may leave any layout
  have free (e : o = .restoreArchive ∨ o = .factoryRaw) :
      layoutCheck p identity
        (bootArea (imageOf d work.segments (work.stream X)) identity.sectors) = .ok () := by
    unfold layoutCheck
    rw [operation, name]
    exact if_pos (e.imp (congrArg some) (congrArg some))
  have other (e : o ≠ .uboot) (e' : o ≠ .gptRepair)
      (l : layoutCheck p identity
        (bootArea (imageOf d work.segments (work.stream X)) identity.sectors) = .ok ()) :
      frameChecks p identity current
        (bootArea (imageOf d work.segments (work.stream X)) identity.sectors) = .ok () := by
    have named : Operation.ofName p.operation = some o := operation ▸ name
    refine bind_ok.mpr ⟨(), l, bind_ok.mpr ⟨(), ?_, deny_ok.mpr fun b => ?_⟩⟩
    · unfold ubootCheck
      rw [named, if_neg fun h => e (Option.some.inj h)]
    · rw [named] at b
      exact e' (Option.some.inj b.1)
  cases h with
  | install h =>
    refine other (by decide) (by decide) (layout ?_)
    rw [h.primary, h.tail]
    exact Gpt.relocated_sound h.relocated
  | uboot h =>
    refine bind_ok.mpr ⟨(), layout ?_, bind_ok.mpr ⟨(), h.frame area ranges, deny_ok.mpr ?_⟩⟩
    · rw [h.primary, h.tail]
      exact h.layout
    · rw [operation, name]
      exact fun b => absurd b.1 (by decide)
  | gptRepair _ h =>
    have k := Gpt.repaired_sound h.repaired
    have sound := Gpt.healthy_sound (Gpt.requireK11c_healthy k)
    have start := sectors_sub sound.big
    have bigN : 34849 < identity.sectors.toNat := UInt32.lt_iff_toNat_lt.mp sound.big
    refine bind_ok.mpr ⟨(), layout ?_, bind_ok.mpr ⟨(), ?_, deny_ok.mpr fun b => b.2 ?_⟩⟩
    · rw [h.primary, h.tail]
      exact k
    · unfold ubootCheck
      rw [operation, name]
      exact if_neg (by decide)
    · -- both copies of the GPT are outside the reserved region
      rw [area, bootArea, bootArea]
      refine readAt_congr fun x lo hi => imageOf_outside fun r hr hin => ?_
      have len := sound.sizePrimary
      have zero : (0 : UInt32).toNat = 0 := rfl
      rw [h.segments] at hr
      simp only [reserve] at hi
      obtain ⟨seg, hs, rfl⟩ := List.mem_map.mp hr
      obtain hs | hs := List.mem_append.mp hs
      all_goals
        split_ifs at hs
        · obtain rfl := List.mem_singleton.mp hs
          simp only [Inside, Range.window, bytesSegment, start] at hin
          omega
        · exact absurd hs List.not_mem_nil
  | restore _ h =>
    refine other (by decide) (by decide) (layout ?_)
    rw [h.primary, h.tail]
    exact h.layout
  | restoreArchive _ _ _ => exact other (by decide) (by decide) (free (.inl rfl))
  | factoryGpt _ _ _ _ => exact other (by decide) (by decide) (free (.inr rfl))
  | factoryMbr _ _ _ _ => exact other (by decide) (by decide) (free (.inr rfl))

end Arms

end K11CHaos.Engine.Flash
