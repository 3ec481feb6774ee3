import K11CHaos.Scripts.Prepared
import K11CHaos.Scripts.Fixture
import K11CHaos.Scripts.Uboot

/-!
# Installing an image

The printed commands on the board: the changes of single bytes and words turn what is in memory into
the patched window, the copies build the tail beside the image, and the transfers put both on the
eMMC and read them back.
-/

namespace K11CHaos.Scripts.Uboot
open PrepareEmmc
open GptImage (sector entryBytes inspectImage Inspected)

/-- Windows that follow each other from an address on. -/
def Consecutive {ι : Type} (addr : ι → Nat) (new : ι → Bytes) : Nat → List ι → Prop
  | _, [] => True
  | a, c :: cs => addr c = a ∧ Consecutive addr new (a + (new c).length) cs

/-- The lines of the windows that change put all of them in memory. -/
lemma run_changes {ι : Type} (addr : ι → Nat) (old new : ι → Bytes) (text : ι → String)
    (same : ι → Bool) {cs : List ι} {a : Nat} {m : Board}
    (laid : Consecutive addr new a cs)
    (len : ∀ c ∈ cs, (old c).length = (new c).length)
    (keep : ∀ c ∈ cs, same c = false → old c = new c)
    (line : ∀ c ∈ cs, ∀ m, step m (text c) = some { m with ram := writeAt m.ram (addr c) (new c) })
    (here : readAt m.ram a (cs.flatMap new).length = cs.flatMap old) :
    run m ((cs.filter same).map text) = some { m with ram := writeAt m.ram a (cs.flatMap new) } := by
  induction cs generalizing a m with
  | nil =>
    simp only [List.filter_nil, List.map_nil, run_nil, List.flatMap_nil, writeAt_nil]
  | cons c cs ih =>
    obtain ⟨rfl, laid⟩ := laid
    have ih := fun m => ih (m := m) laid (fun d hd => len d (List.mem_cons_of_mem _ hd))
      (fun d hd => keep d (List.mem_cons_of_mem _ hd))
      fun d hd => line d (List.mem_cons_of_mem _ hd)
    simp only [List.flatMap_cons, List.length_append] at here ⊢
    rw [← readAt_append] at here
    obtain ⟨first, rest⟩ := List.append_inj here
      (by rw [length_readAt, len c List.mem_cons_self])
    by_cases h : same c = true
    · rw [List.filter_cons_of_pos h, List.map_cons, run_cons, line c List.mem_cons_self,
        Option.bind_some, ih, writeAt_append]
      rw [readAt_writeAt_of_disjoint (.inr (Nat.le_refl _))]
      exact rest
    · have same' : old c = new c := keep c List.mem_cons_self (Bool.eq_false_iff.mpr h)
      have there : writeAt m.ram (addr c) (new c) = m.ram := by
        rw [← same', ← first, writeAt_readAt]
      rw [List.filter_cons_of_neg h, ih m rest, ← writeAt_append, there]

/-- The lines of the bytes that change. -/
lemma run_byteChanges {m : Board} {a : Nat} {original changed : Bytes}
    (len : original.length = changed.length)
    (here : readAt m.ram a changed.length = original) :
    run m (byteChanges a original changed) = some { m with ram := writeAt m.ram a changed } := by
  have fst : ((original.zip changed).zipIdx.flatMap fun p => [p.1.1]) = original := by
    have e := congrArg (List.map Prod.fst) (List.zipIdx_map_fst 0 (original.zip changed))
    rw [List.map_map, List.map_fst_zip (by omega)] at e
    rw [← List.map_eq_flatMap]
    exact e
  have snd : ((original.zip changed).zipIdx.flatMap fun p => [p.1.2]) = changed := by
    have e := congrArg (List.map Prod.snd) (List.zipIdx_map_fst 0 (original.zip changed))
    rw [List.map_map, List.map_snd_zip (by omega)] at e
    rw [← List.map_eq_flatMap]
    exact e
  have laid (zs : List (UInt8 × UInt8)) (k : Nat) : Consecutive
      (fun p : (UInt8 × UInt8) × Nat => a + p.2) (fun p => [p.1.2]) (a + k) (zs.zipIdx k) := by
    induction zs generalizing k with
    | nil => exact trivial
    | cons z zs ih => exact ⟨rfl, ih (k + 1)⟩
  have done := run_changes (m := m) (fun p : (UInt8 × UInt8) × Nat => a + p.2)
    (fun p => [p.1.1]) (fun p => [p.1.2])
    (fun p => line ["mw.b", hex (a + p.2), hexPad 2 p.1.2.toNat])
    (fun p => decide (p.1.1 ≠ p.1.2)) (laid (original.zip changed) 0)
    (fun _ _ => rfl) (fun p _ h => by
      have : p.1.1 = p.1.2 := by simpa using h
      rw [this])
    (fun p _ m => by rw [step_mwByte, UInt8.ofNat_toNat])
    (by rw [fst, snd]; exact here)
  rw [snd] at done
  exact done

/-- The lines of the words that change. -/
lemma run_wordChanges {m : Board} {a n : Nat} {original changed : Bytes}
    (size : original.length = 4 * n)
    (len : changed.length = 4 * n)
    (here : readAt m.ram a (4 * n) = original) :
    run m (wordChanges a original changed) = some { m with ram := writeAt m.ram a changed } := by
  have flat (b : Bytes) (k s : Nat) :
      ((List.range' s k 4).flatMap fun o => slice b o 4) = slice b s (4 * k) := by
    induction k generalizing s with
    | zero => rw [List.range'_zero, List.flatMap_nil, Nat.mul_zero, slice_zero]
    | succ k ih =>
      rw [List.range'_succ, List.flatMap_cons, ih, slice_append_slice]
      congr 1
      omega
  have laid (k s : Nat) (h : s + 4 * k ≤ 4 * n) : Consecutive (fun o => a + o)
      (fun o => slice changed o 4) (a + s) (List.range' s k 4) := by
    induction k generalizing s with
    | zero => exact trivial
    | succ k ih =>
      refine ⟨rfl, ?_⟩
      rw [length_slice (by omega), Nat.add_assoc]
      exact ih (s + 4) (by omega)
  have bound : ∀ o ∈ List.range' 0 n 4, o + 4 ≤ 4 * n := by
    intro o ho
    obtain ⟨i, hi, rfl⟩ := List.mem_range'.mp ho
    omega
  have old := (flat original n 0).trans (slice_full (by omega))
  have new := (flat changed n 0).trans (slice_full (by omega))
  have done := run_changes (m := m) (fun o => a + o)
    (fun o => slice original o 4) (fun o => slice changed o 4)
    (fun o => line ["mw.l", hex (a + o), hexPad 8 (Engine.Gpt.u32at changed o)])
    (fun o => decide (slice original o 4 ≠ slice changed o 4)) (laid n 0 (by omega))
    (fun o ho => by
      have := bound o ho
      rw [length_slice (by omega), length_slice (by omega)])
    (fun o _ h => by simpa using h)
    (fun o ho m => by
      have := bound o ho
      have word : toLe 4 (fromLe (slice changed o 4)) = slice changed o 4 := by
        have e := toLe_fromLe (b := slice changed o 4)
        rwa [length_slice (by omega)] at e
      rw [step_mwLong, Engine.Gpt.u32at, word])
    (by rw [old, new, len]; exact here)
  rw [new] at done
  rw [wordChanges, show (original.length + 3) / 4 = n by omega]
  exact done

/-- The patched image a plan describes. -/
def patchedImage (image : Bytes) (plan : Plan) : Bytes :=
  plan.newMbr ++ plan.newPrimary ++ image.drop 1024

section
variable {image : Bytes} {plan : Plan}

/-- The lengths of the windows of a prepared plan. -/
lemma prepared_lengths (P : Prepared image plan) :
    image.length = plan.sectors * 512 ∧ plan.mbr.length = 512 ∧ plan.newMbr.length = 512 ∧
      plan.primary.length = 512 ∧ plan.newPrimary.length = 512 ∧ plan.newBackup.length = 512 ∧
      plan.entries.length = 16384 ∧ plan.tail.length = 33 * 512 := by
  have sized := P.inspected.sized
  have big := P.inspected.big
  have l3 := (inspected_header P.inspected).1
  have l1 : plan.mbr.length = 512 := by
    rw [← P.inspected.mbr]
    exact length_slice (by omega)
  have l2 : plan.newMbr.length = 512 := by rw [P.mbr, Engine.Gpt.length_put32 (by omega), l1]
  have l4 := newPrimary_length P
  have l5 := newBackup_length P
  have l6 : plan.entries.length = 16384 := by
    rw [← P.inspected.entries]
    exact length_slice (by omega)
  have l7 : plan.tail.length = 33 * 512 := by rw [P.tail, List.length_append, l6, l5]
  exact ⟨sized, l1, l2, l3, l4, l5, l6, l7⟩

/-- The patched image keeps its size. -/
lemma patchedImage_length (P : Prepared image plan) :
    (patchedImage image plan).length = plan.sectors * 512 := by
  obtain ⟨l0, -, l2, -, l4, -⟩ := prepared_lengths P
  have := P.inspected.big
  simp only [patchedImage, List.length_append, List.length_drop]
  omega

/-- The first section reads the image from the SD card. -/
lemma run_readSource {m : Board} (P : Prepared image plan)
    (room : plan.sectors ≤ (m.card .sd).sectors)
    (holds : readAt (m.card .sd).data 0 image.length = image) :
    run m (readSource plan) =
      some { m with
        current := some .sd, ram := writeAt m.ram imageRam image,
        printed := m.printed ++ [plan.originalCrc] } := by
  obtain ⟨l0, -⟩ := prepared_lengths P
  rw [l0] at holds
  rw [readSource, run_cons, step_dev_sd, Option.bind_some, run_cons, step_info, Option.bind_some,
    run_cons, step_part, Option.bind_some, run_cons, step_read_start
      (m := { m with current := some .sd }) (d := .sd) rfl room, Option.bind_some, run_cons, step_crc32, Option.bind_some, run_nil]
  dsimp only
  rw [holds, sector, ← l0, readAt_writeAt_same, P.original]
  rfl

/-- The second section builds the patched image and its tail in memory. -/
lemma run_patch {m : Board} (P : Prepared image plan)
    (here : readAt m.ram imageRam image.length = image) :
    ∃ ram, run m (patch plan) =
        some { m with ram := ram, printed := m.printed ++ [plan.patchedCrc, plan.tailCrc] } ∧
      readAt ram imageRam (plan.sectors * 512) = patchedImage image plan ∧
      readAt ram tailRam (33 * 512) = plan.tail := by
  obtain ⟨l0, l1, l2, l3, l4, l5, l6, l7⟩ := prepared_lengths P
  have small := P.small
  have big := P.inspected.big
  have plen := patchedImage_length P
  have image_slice (o l : Nat) (h : o + l ≤ image.length) :
      readAt m.ram (imageRam + o) l = slice image o l := by
    rw [← slice_readAt (n := image.length) h, here]
  have tail0 : tailRam = imageRam + 0x40000000 := rfl
  have mbr := image_slice 0 512 (by omega)
  have primary := image_slice 512 512 (by omega)
  have entries := image_slice 1024 16384 (by omega)
  have rest := image_slice 1024 (plan.sectors * 512 - 1024) (by omega)
  rw [P.inspected.mbr, Nat.add_zero] at mbr
  rw [P.inspected.primary] at primary
  rw [P.inspected.entries] at entries
  rw [← drop_eq_slice (by omega)] at rest
  -- the front of the image: the MBR byte by byte, then the primary header word by word
  have s1 := run_byteChanges (m := m) (a := imageRam) (l1.trans l2.symm) (by rw [l2]; exact mbr)
  generalize hr1 : writeAt m.ram imageRam plan.newMbr = r1 at s1
  have primary1 : readAt r1 (imageRam + 512) 512 = plan.primary := by
    rw [← hr1, readAt_writeAt_of_disjoint (.inr (by omega)), primary]
  have s2 := @run_wordChanges { m with ram := r1 } (imageRam + 512) 128
    plan.primary plan.newPrimary l3 l4 primary1
  have joined : writeAt r1 (imageRam + 512) plan.newPrimary =
      writeAt m.ram imageRam (plan.newMbr ++ plan.newPrimary) := by
    rw [← hr1, ← l2, writeAt_append]
  generalize hr2 : writeAt r1 (imageRam + 512) plan.newPrimary = r2 at s2 joined
  have front2 : readAt r2 imageRam 1024 = plan.newMbr ++ plan.newPrimary := by
    have e := readAt_writeAt_same (d := m.ram) (a := imageRam) (b := plan.newMbr ++ plan.newPrimary)
    rwa [← joined, List.length_append, l2, l4] at e
  have image2 : readAt r2 imageRam (plan.sectors * 512) = patchedImage image plan := by
    rw [show plan.sectors * 512 = 1024 + (plan.sectors * 512 - 1024) by omega, ← readAt_append,
      front2, joined, readAt_writeAt_of_disjoint (.inr (by rw [List.length_append]; omega)), rest]
    rfl
  have entries2 : readAt r2 (imageRam + 1024) 16384 = plan.entries := by
    rw [joined, readAt_writeAt_of_disjoint (.inr (by rw [List.length_append]; omega)), entries]
  -- the tail: the entries and the primary header are copied, then the header is changed
  generalize hr3 : writeAt r2 tailRam plan.entries = r3
  have primary3 : readAt r3 (imageRam + 512) 512 = plan.newPrimary := by
    rw [← hr3, readAt_writeAt_of_disjoint (.inl (by omega)), ← hr2, ← l4, readAt_writeAt_same]
  generalize hr4 : writeAt r3 (tailRam + 16384) plan.newPrimary = r4
  have primary4 : readAt r4 (tailRam + 16384) 512 = plan.newPrimary := by
    rw [← hr4, ← l4, readAt_writeAt_same]
  have s5 := @run_wordChanges { m with ram := r4 } (tailRam + 16384) 128
    plan.newPrimary plan.newBackup l4 l5 primary4
  generalize hr5 : writeAt r4 (tailRam + 16384) plan.newBackup = r5 at s5
  have image5 : readAt r5 imageRam (plan.sectors * 512) = patchedImage image plan := by
    rw [← hr5, readAt_writeAt_of_disjoint (.inl (by omega)), ← hr4,
      readAt_writeAt_of_disjoint (.inl (by omega)), ← hr3,
      readAt_writeAt_of_disjoint (.inl (by omega)), image2]
  have tail5 : readAt r5 tailRam (33 * 512) = plan.tail := by
    rw [show 33 * 512 = 16384 + 512 by rfl, ← readAt_append, P.tail]
    congr 1
    · rw [← hr5, readAt_writeAt_of_disjoint (.inl (by omega)), ← hr4,
        readAt_writeAt_of_disjoint (.inl (by omega)), ← hr3, ← l6, readAt_writeAt_same]
    · rw [← hr5, ← l5, readAt_writeAt_same]
  refine ⟨r5, ?_, image5, tail5⟩
  rw [patch, run_append, run_append, run_append, run_append, s1, Option.bind_some, sector, s2,
    Option.bind_some, run_cons, step_cpByte, Option.bind_some, run_cons, step_cpByte,
    Option.bind_some, run_nil, Option.bind_some]
  dsimp only
  rw [entryBytes, show imageRam + 2 * 512 = imageRam + 1024 from rfl, entries2, hr3, primary3, hr4, s5,
    Option.bind_some, run_cons, step_crc32, Option.bind_some, run_cons, step_crc32,
    Option.bind_some, run_nil]
  dsimp only
  rw [image5, l7, tail5, P.patched, P.tailSum, List.append_assoc]
  rfl

/-- What the installation leaves on the eMMC. -/
def installed (data : Disk) (image : Bytes) (plan : Plan) : Disk :=
  writeAt (writeAt data 0 (patchedImage image plan)) ((plan.target - 33) * 512) plan.tail

/-- The image part of an installed eMMC. -/
lemma readAt_installed {d : Disk} (P : Prepared image plan) {o l : Nat}
    (h : o + l ≤ plan.sectors * 512) :
    readAt (installed d image plan) o l = slice (patchedImage image plan) o l := by
  have plen := patchedImage_length P
  have before : o + l ≤ (plan.target - 33) * 512 := by
    have := P.fits.1
    exact Nat.le_trans h (Nat.mul_le_mul_right 512 (by omega))
  have e := readAt_writeAt_same (d := d) (a := 0) (b := patchedImage image plan)
  rw [plen] at e
  have w := slice_readAt (d := writeAt d 0 (patchedImage image plan)) (a := 0) h
  rw [e, Nat.zero_add] at w
  rw [installed, readAt_writeAt_of_disjoint (.inl before), w]

/-- The tail of an installed eMMC. -/
lemma tail_installed {d : Disk} (P : Prepared image plan) :
    readAt (installed d image plan) ((plan.target - 33) * 512) (33 * 512) = plan.tail := by
  obtain ⟨-, -, -, -, -, -, -, l7⟩ := prepared_lengths P
  rw [installed, ← l7, readAt_writeAt_same]

/-- The identity section selects the eMMC. -/
lemma run_identity {m : Board} : run m identity = some { m with current := some .emmc } := by
  rw [identity, run_cons, step_dev_emmc, Option.bind_some, run_cons, step_info, Option.bind_some,
    run_cons, step_part, Option.bind_some, run_nil]

/-- The last section writes the eMMC and reads it back. -/
lemma run_write {m : Board} (P : Prepared image plan)
    (now : m.current = some .emmc)
    (room : plan.target ≤ (m.card .emmc).sectors)
    (front : readAt m.ram imageRam (plan.sectors * 512) = patchedImage image plan)
    (tail : readAt m.ram tailRam (33 * 512) = plan.tail) :
    ∃ m', run m (write plan) = some m' ∧
      (m'.card .emmc).data = installed (m.card .emmc).data image plan ∧
      m'.card .sd = m.card .sd ∧
      m'.printed = m.printed ++ [plan.patchedCrc, plan.tailCrc] := by
  have fits := P.fits
  have plen := patchedImage_length P
  obtain ⟨l0, l1, l2, l3, l4, l5, l6, l7⟩ := prepared_lengths P
  have small := P.small
  have tail0 : tailRam = imageRam + 0x40000000 := rfl
  have back := readAt_installed (d := (m.card .emmc).data) P (o := 0) (l := plan.sectors * 512)
    (by omega)
  rw [slice_full (by omega)] at back
  have backTail := tail_installed (d := (m.card .emmc).data) P
  generalize hm1 : m.store .emmc (writeAt (m.card .emmc).data 0 (patchedImage image plan)) = m1
  have w1 : step m (line ["mmc", "write", hex imageRam, "0", hex plan.sectors]) = some m1 := by
    rw [step_write_start now (by omega), front, hm1]
  generalize hm2 : m1.store .emmc (installed (m.card .emmc).data image plan) = m2
  have w2 : step m1 (line ["mmc", "write", hex tailRam, hex (plan.target - 33), "21"]) =
      some m2 := by
    rw [step_write_tail (d := .emmc) (by rw [← hm1]; exact now)
      (by rw [← hm1]; simp only [Board.store_same]; omega), ← hm2, installed, ← hm1]
    simp only [Board.store_same, Board.store_ram, tail]
  have current2 : m2.current = some .emmc := by rw [← hm2, ← hm1]; exact now
  have room2 : plan.target ≤ (m2.card .emmc).sectors := by
    rw [← hm2, ← hm1]
    exact room
  have data2 : (m2.card .emmc).data = installed (m.card .emmc).data image plan := by
    rw [← hm2, Board.store_same]
  have printed2 : m2.printed = m.printed := by rw [← hm2, ← hm1]; rfl
  have sd2 : m2.card .sd = m.card .sd := by
    rw [← hm2, Board.store_other (by decide), ← hm1, Board.store_other (by decide)]
  rw [write, run_cons, w1, Option.bind_some, run_cons, w2, Option.bind_some, run_cons,
    step_read_start current2 (by omega), Option.bind_some, run_cons, step_crc32, Option.bind_some,
    run_cons, step_read_tail (d := .emmc) (by exact current2) (by show _ ≤ (m2.card .emmc).sectors; omega),
    Option.bind_some, run_cons, step_crc32, Option.bind_some, run_cons, step_verify, Option.bind_some,
    run_cons, step_part, Option.bind_some, run_nil]
  refine ⟨_, rfl, data2, sd2, ?_⟩
  dsimp only
  rw [data2, back, backTail, sector, ← plen, readAt_writeAt_same, l7, ← l7, readAt_writeAt_same, printed2,
    P.patched, P.tailSum, List.append_assoc]
  rfl

/-- What `inspect_image` says of an installed eMMC. -/
def installedInfo (plan : Plan) : GptImage.Info :=
  { plan.toInfo with
    sectors := plan.target, mbr := plan.newMbr, primary := plan.newPrimary,
    backup := plan.newBackup }

/-- The parts of an installed eMMC where `inspect_image` looks for them. -/
lemma installed_parts {data : Disk} (P : Prepared image plan) :
    let disk := readAt (installed data image plan) 0 (plan.target * 512)
    slice disk 0 512 = plan.newMbr ∧ slice disk 512 512 = plan.newPrimary ∧
      slice disk 1024 16384 = plan.entries ∧ slice disk ((plan.target - 33) * 512) 16384 = plan.entries ∧
      slice disk ((plan.target - 1) * 512) 512 = plan.newBackup := by
  intro disk
  obtain ⟨l0, l1, l2, l3, l4, l5, l6, l7⟩ := prepared_lengths P
  have big := P.inspected.big
  have low := P.fits.1
  have window (o l : Nat) (h : o + l ≤ plan.sectors * 512) :
      slice disk o l = slice (patchedImage image plan) o l := by
    rw [slice_readAt (Nat.le_trans h (Nat.mul_le_mul_right 512 (by omega))), Nat.zero_add,
      readAt_installed P h]
  have tail (o l : Nat) (h : o + l ≤ 33 * 512) :
      slice disk ((plan.target - 33) * 512 + o) l = slice plan.tail o l := by
    rw [slice_readAt (by omega), Nat.zero_add, ← slice_readAt h, tail_installed P]
  have patched : patchedImage image plan = plan.newMbr ++ plan.newPrimary ++ image.drop 1024 := rfl
  refine ⟨?_, ?_, ?_, ?_, ?_⟩
  · rw [window 0 512 (by omega), patched, List.append_assoc, slice_append_left (by omega),
      slice_full (by omega)]
  · rw [window 512 512 (by omega), patched]
    exact slice_middle l2 l4
  · rw [window 1024 16384 (by omega), patched,
      slice_append_right (by rw [List.length_append]; omega), List.length_append, l2, l4, slice_drop]
    exact P.inspected.entries
  · have e := tail 0 16384 (by decide)
    rwa [Nat.add_zero, P.tail, slice_append_left (by omega), slice_full (by omega)] at e
  · have e := tail 16384 512 (by decide)
    rwa [show (plan.target - 33) * 512 + 16384 = (plan.target - 1) * 512 by omega, P.tail,
      slice_append_right (by omega), l6, Nat.sub_self, slice_full (by omega)] at e

/-- The new MBR protects the whole target and is otherwise the old one. -/
lemma newMbr_fields (P : Prepared image plan) :
    (slice plan.newMbr 510 2 = [0x55, 0xaa] ∧ plan.newMbr[450]? = some 0xee) ∧
      (Engine.Gpt.u32at plan.newMbr 454 = 1 ∧
        Engine.Gpt.u32at plan.newMbr 458 = min (plan.target - 1) 0xFFFFFFFF) ∧
      slice plan.newMbr 462 48 = zeros 48 := by
  obtain ⟨l0, l1, l2, -⟩ := prepared_lengths P
  have k := P.inspected
  have high := P.fits.2
  have keep (o l : Nat) (h : o + l ≤ 458 ∨ 462 ≤ o) : slice plan.newMbr o l = slice plan.mbr o l := by
    rw [P.mbr, Engine.Gpt.slice_put32 (by omega) (by omega)]
  have byte : plan.newMbr[450]? = plan.mbr[450]? := by
    rw [P.mbr, Engine.Gpt.put32, getElem?_put (by simp; omega)]
    rfl
  have size : Engine.Gpt.u32at plan.newMbr 458 = plan.target - 1 := by
    rw [P.mbr, Engine.Gpt.u32at_put32_same (by omega) (by omega)]
  refine ⟨⟨?_, ?_⟩, ⟨?_, ?_⟩, ?_⟩
  · rw [keep 510 2 (by decide)]
    exact k.signature.1
  · rw [byte]
    exact k.signature.2
  · rw [Engine.Gpt.u32at, keep 454 4 (by decide)]
    exact k.protective.1
  · rw [size]
    omega
  · rw [keep 462 48 (by decide)]
    exact k.plain

/-- The new primary header keeps the usable span and the checksum of the entries. -/
lemma newPrimary_fields (P : Prepared image plan) :
    Engine.Gpt.u64at plan.newPrimary 40 = Engine.Gpt.u64at plan.primary 40 ∧
      Engine.Gpt.u32at plan.newPrimary 88 = Engine.Gpt.u32at plan.primary 88 ∧
      slice plan.newPrimary 56 16 = slice plan.primary 56 16 := by
  refine ⟨?_, ?_, newPrimary_slice P (by decide)⟩
  · rw [Engine.Gpt.u64at, newPrimary_slice P (by decide), Engine.Gpt.u64at]
  · rw [Engine.Gpt.u32at, newPrimary_slice P (by decide), Engine.Gpt.u32at]

/-- So does the new backup header. -/
lemma newBackup_fields (P : Prepared image plan) :
    Engine.Gpt.u64at plan.newPrimary 40 = Engine.Gpt.u64at plan.newBackup 40 ∧
      Engine.Gpt.u64at plan.newPrimary 48 = Engine.Gpt.u64at plan.newBackup 48 ∧
      Engine.Gpt.u32at plan.newBackup 88 = Engine.Gpt.u32at plan.newPrimary 88 := by
  refine ⟨?_, ?_, ?_⟩
  · rw [Engine.Gpt.u64at, Engine.Gpt.u64at, newBackup_slice P (by decide)]
  · rw [Engine.Gpt.u64at, Engine.Gpt.u64at, newBackup_slice P (by decide)]
  · rw [Engine.Gpt.u32at, newBackup_slice P (by decide), Engine.Gpt.u32at]

/-- The usable span fits the target. -/
lemma newPrimary_usable (P : Prepared image plan) : GptImage.Usable plan.newPrimary plan.target := by
  have low := P.inspected.usable.low
  have order := P.inspected.usable.order
  have high := P.inspected.usable.high
  have fits := P.fits
  obtain ⟨-, last⟩ := newPrimary_header P
  obtain ⟨first, -⟩ := newPrimary_fields P
  exact ⟨by omega, by omega, by omega⟩

/-- The two copies on an installed eMMC fit together and fit the target. -/
lemma installed_inspected {data : Disk} (P : Prepared image plan) :
    Inspected (readAt (installed data image plan) 0 (plan.target * 512)) (installedInfo plan) := by
  obtain ⟨-, -, -, -, -, -, l6, -⟩ := prepared_lengths P
  have k := P.inspected
  have fits := P.fits
  have high := k.usable.high
  have more : plan.sectors ≤ plan.target := by omega
  obtain ⟨front, last⟩ := newPrimary_header P
  obtain ⟨mbr, primary, entries, same, backup⟩ := @installed_parts _ _ data P
  obtain ⟨signature, protective, plain⟩ := newMbr_fields P
  obtain ⟨first, sum, guid⟩ := newPrimary_fields P
  obtain ⟨first', last', sum'⟩ := newBackup_fields P
  have usable := newPrimary_usable P
  have usable' : GptImage.Usable plan.newBackup plan.target :=
    ⟨first' ▸ usable.low, first' ▸ last' ▸ usable.order, last' ▸ usable.high⟩
  exact
    { sized := length_readAt
      big := Nat.le_trans k.big more
      mbr := mbr
      primary := primary
      backup := backup
      entries := entries
      front := front
      back := newBackup_header P
      usable := usable
      usable' := usable'
      disk := (newBackup_slice P (by decide)).symm
      policy := (newBackup_slice P (by decide)).symm
      first := first'
      last := last'
      array := by
        rw [installedInfo, sum]
        exact k.array
      array' := by
        rw [installedInfo, sum', sum]
        exact k.array
      same := same
      signature := signature
      protective := protective
      plain := plain
      rows := by
        rw [installedInfo, first, last]
        refine GptImage.partRows_mono (fun e he => GptImage.length_entry l6 he) ?_ k.rows
        omega
      apart := k.apart
      guid := by
        rw [installedInfo, guid]
        exact k.guid }

/-- What the board holds after the installation of a plan. -/
structure Installed (image : Bytes) (plan : Plan) (before after : Board) : Prop where
  printed : after.printed = before.printed ++ (expectedCrcs plan).flatten
  front : readAt (after.card .emmc).data 0 1024 = plan.newMbr ++ plan.newPrimary
  payload : readAt (after.card .emmc).data 1024 ((plan.sectors - 2) * 512) =
    slice image 1024 ((plan.sectors - 2) * 512)
  tail : readAt (after.card .emmc).data ((plan.target - 33) * 512) (33 * 512) = plan.tail
  others : ∀ x, plan.sectors * 512 ≤ x → x < (plan.target - 33) * 512 ∨ plan.target * 512 ≤ x →
    (after.card .emmc).data x = (before.card .emmc).data x
  source : after.card .sd = before.card .sd
  accepted : inspectImage (some (readAt (after.card .emmc).data 0 (plan.target * 512))) true =
    .ok (installedInfo plan)

/-- The printed commands install every accepted image on every card of the target's capacity,
whatever memory and eMMC held before. -/
theorem install_refines {expected : String} {target : Int} {m : Board}
    (accepted : prepare (some image) expected target = .ok plan)
    (room : plan.sectors ≤ (m.card .sd).sectors)
    (holds : readAt (m.card .sd).data 0 image.length = image)
    (capacity : target ≤ (m.card .emmc).sectors) :
    ∃ m', run m (commandSections plan).flatten = some m' ∧ Installed image plan m m' := by
  obtain ⟨P, same⟩ := prepare_prepared accepted
  have plen := patchedImage_length P
  obtain ⟨l0, l1, l2, l3, l4, l5, l6, l7⟩ := prepared_lengths P
  have big := P.inspected.big
  have low := P.fits.1
  -- each section runs in the state the one before it leaves
  have s1 := run_readSource P room holds
  obtain ⟨ram, s2, front, tail⟩ := run_patch (m := { m with
    current := some .sd, ram := writeAt m.ram imageRam image,
    printed := m.printed ++ [plan.originalCrc] }) P readAt_writeAt_same
  obtain ⟨m', s4, data, sd, printed⟩ := run_write (m := { m with
    current := some .emmc, ram := ram,
    printed := m.printed ++ [plan.originalCrc] ++ [plan.patchedCrc, plan.tailCrc] }) P rfl
    (by dsimp only; omega) front tail
  refine ⟨m', ?_, ?_⟩
  · rw [commandSections, List.flatten_cons, List.flatten_cons, List.flatten_cons, List.flatten_cons,
      List.flatten_nil, List.append_nil, run_append, s1, Option.bind_some, run_append, s2,
      Option.bind_some, run_append, run_identity, Option.bind_some]
    exact s4
  · refine ⟨?_, ?_, ?_, ?_, ?_, sd, ?_⟩
    · rw [printed, expectedCrcs]
      simp only [List.append_assoc]
      rfl
    · rw [data, readAt_installed P (by omega), patchedImage,
        slice_append_left (by rw [List.length_append]; omega),
        slice_full (by rw [List.length_append]; omega)]
    · rw [data, readAt_installed P (by omega), patchedImage,
        slice_append_right (by rw [List.length_append]; omega), List.length_append, l2, l4, slice_drop]
    · rw [data, tail_installed P]
    · intro x h1 h2
      have behind : (plan.target - 33) * 512 + 33 * 512 = plan.target * 512 := by omega
      rw [data, installed, writeAt_outside, writeAt_outside]
      · rw [plen, Nat.zero_add]
        exact .inr h1
      · rw [l7, behind]
        exact h2
    · rw [data]
      exact GptImage.inspectImage_ok.mpr ⟨installed_inspected P, P.layout⟩

/-- A board with a source card and an empty eMMC. -/
def plainBoard (image : Bytes) : Board where
  ram := fun _ => 0
  card := fun d => match d with
    | .emmc => ⟨40000, fun _ => 0⟩
    | .sd => ⟨34900, writeAt (fun _ => 0) 0 image⟩
  current := none
  printed := []

/-- An installation of the plain image. -/
theorem install_refines_plain :
    ∃ plan m', prepare (some (GptImage.sourceFixture 34900 GptImage.plainSpans))
        (hashBytes (GptImage.sourceFixture 34900 GptImage.plainSpans)) 40000 = .ok plan ∧
      run (plainBoard (GptImage.sourceFixture 34900 GptImage.plainSpans))
        (commandSections plan).flatten = some m' ∧
      Installed (GptImage.sourceFixture 34900 GptImage.plainSpans) plan
        (plainBoard (GptImage.sourceFixture 34900 GptImage.plainSpans)) m' := by
  have accepted := GptImage.sourceFixture_accepted GptImage.plainSpans_spans
  obtain ⟨plan, h⟩ := @prepare_complete _ _ 40000 accepted (by decide) (by decide)
  have sectors : plan.sectors = 34900 := by
    have same := (GptImage.inspectImage_ok.mp accepted).1.sized
    have size := (prepare_prepared h).1.inspected.sized
    rw [same] at size
    exact (Nat.eq_of_mul_eq_mul_right (by decide) size).symm
  obtain ⟨m', ran, done⟩ := install_refines (m := plainBoard
    (GptImage.sourceFixture 34900 GptImage.plainSpans)) h (Nat.le_of_eq sectors)
    readAt_writeAt_same (by decide)
  exact ⟨plan, m', h, ran, done⟩

end

end K11CHaos.Scripts.Uboot
