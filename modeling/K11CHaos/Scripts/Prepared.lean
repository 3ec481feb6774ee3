import K11CHaos.Scripts.Rows
import K11CHaos.Scripts.PrepareEmmc

/-!
# Prepared plans

What `prepare` returns: the checksums it collects block by block are those of the whole image and of
the whole patched image, and the patched headers are the inspected ones resealed for the target.
-/

namespace K11CHaos.Scripts.PrepareEmmc
open Engine.Gpt
open GptImage (Inspected inspectImage crcHeader crcHeader_ok inspectImage_ok require_ok sector
  entryBytes)

/-- A checksum continued over more data. -/
lemma crc32_append {a b : Bytes} {v : UInt32} : crc32 b (crc32 a v) = crc32 (a ++ b) v := by
  simp only [crc32, List.foldl_append, UInt32.not_not]

/-- An empty file has no blocks. -/
lemma fileBlocks_nil : fileBlocks [] = [] := by
  rw [fileBlocks, if_pos rfl]

/-- The blocks of a file make up the file. -/
lemma fileBlocks_flatten {file : Bytes} : (fileBlocks file).flatten = file := by
  induction file using fileBlocks.induct with
  | case1 => rw [fileBlocks_nil, List.flatten_nil]
  | case2 file some' ih =>
    rw [fileBlocks, if_neg some', List.flatten_cons, ih, List.take_append_drop]

/-- Behind the first block the patched data is the data. -/
lemma scan_rest {mbr primary : Bytes} {blocks : List Bytes} {s : Scan} (h : s.offset ≠ 0) :
    ∃ offset, blocks.foldl (scanBlock mbr primary) s =
      ⟨offset, s.hashed ++ blocks.flatten, crc32 blocks.flatten s.originalCrc,
        crc32 blocks.flatten s.patchedCrc⟩ := by
  induction blocks generalizing s with
  | nil =>
    refine ⟨s.offset, ?_⟩
    simp only [List.foldl_nil, List.flatten_nil, List.append_nil, crc32, UInt32.not_not]
  | cons b bs ih =>
    have next : (scanBlock mbr primary s b).offset ≠ 0 := by
      rw [scanBlock]
      dsimp only
      omega
    obtain ⟨offset, e⟩ := ih next
    refine ⟨offset, ?_⟩
    rw [List.foldl_cons, e, scanBlock, List.flatten_cons, if_neg h]
    simp only [crc32_append, List.append_assoc]

/-- The loop of `prepare` hashes the file and computes both checksums of it. -/
lemma scan_file {mbr primary file : Bytes}
    (front : mbr.length + primary.length = 1024)
    (long : 1024 ≤ file.length) :
    ∃ offset, (fileBlocks file).foldl (scanBlock mbr primary) ⟨0, [], 0, 0⟩ =
      ⟨offset, file, crc32 file 0, crc32 (mbr ++ primary ++ file.drop 1024) 0⟩ := by
  have some' : file ≠ [] := by
    rintro rfl
    exact absurd long (by decide)
  rw [fileBlocks, if_neg some', List.foldl_cons]
  have first : (scanBlock mbr primary ⟨0, [], 0, 0⟩ (file.take (1024 * 1024))).offset ≠ 0 := by
    rw [scanBlock, if_pos rfl]
    simp only [List.length_append]
    omega
  obtain ⟨offset, e⟩ := @scan_rest mbr primary
    (fileBlocks (file.drop (1024 * 1024))) _ first
  refine ⟨offset, ?_⟩
  rw [e, scanBlock, if_pos rfl, fileBlocks_flatten]
  simp only [crc32_append, List.nil_append, List.take_append_drop, List.append_assoc]
  rw [← List.drop_append_of_le_length (by rw [List.length_take]; omega), List.take_append_drop]

/-- The fields of the primary header for a target. -/
def primaryFields (primary : Bytes) (target : Nat) : Bytes :=
  put64 (put64 primary 32 (target - 1)) 48 (target - 34)

/-- The fields of the backup header for a target. -/
def backupFields (primary : Bytes) (target : Nat) : Bytes :=
  put64 (put64 (put64 primary 24 (target - 1)) 32 1) 72 (target - 33)

/-- A plan of an accepted image and target. -/
structure Prepared (image : Bytes) (plan : Plan) : Prop where
  inspected : Inspected image plan.toInfo
  layout : GptImage.requireK11c plan.parts = .ok ()
  small : plan.sectors * 512 < 0x40000000
  fits : plan.sectors + 33 ≤ plan.target ∧ plan.target ≤ 0xFFFFFFFF
  mbr : plan.newMbr = put32 plan.mbr 458 (plan.target - 1)
  primary : plan.newPrimary = sealHeader (primaryFields plan.primary plan.target)
  backup : plan.newBackup = sealHeader (backupFields plan.newPrimary plan.target)
  tail : plan.tail = plan.entries ++ plan.newBackup
  original : plan.originalCrc = crc32 image 0
  patched : plan.patchedCrc = crc32 (plan.newMbr ++ plan.newPrimary ++ image.drop 1024) 0
  tailSum : plan.tailCrc = crc32 plan.tail 0

/-- The length and the size field of the header of an inspected image. -/
lemma inspected_header {image : Bytes} {info} (k : Inspected image info) :
    info.primary.length = 512 ∧ 92 ≤ u32at info.primary 12 ∧ u32at info.primary 12 ≤ 512 := by
  have := k.big
  have := k.sized
  refine ⟨?_, k.front.size⟩
  rw [← k.primary]
  exact length_slice (by omega)

/-- The edits keep the length of the first header. -/
lemma primaryFields_length {primary : Bytes} {target : Nat} (len : primary.length = 512) :
    (primaryFields primary target).length = 512 := by
  rw [primaryFields, length_put64 (by rw [length_put64 (by omega)]; omega), length_put64 (by omega),
    len]

/-- What the edits of the first header leave alone. -/
lemma primaryFields_slice {primary : Bytes} {target o l : Nat} (len : primary.length = 512)
    (h : o + l ≤ 32 ∨ 40 ≤ o ∧ o + l ≤ 48 ∨ 56 ≤ o) :
    slice (primaryFields primary target) o l = slice primary o l := by
  rw [primaryFields, slice_put64 (by rw [length_put64 (by omega)]; omega) (by omega),
    slice_put64 (by omega) (by omega)]

/-- The edits keep the length of the last header. -/
lemma backupFields_length {primary : Bytes} {target : Nat} (len : primary.length = 512) :
    (backupFields primary target).length = 512 := by
  have l1 : (put64 primary 24 (target - 1)).length = 512 := by rw [length_put64 (by omega), len]
  have l2 : (put64 (put64 primary 24 (target - 1)) 32 1).length = 512 := by
    rw [length_put64 (by omega), l1]
  rw [backupFields, length_put64 (by omega), l2]

/-- What the edits of the last header leave alone. -/
lemma backupFields_slice {primary : Bytes} {target o l : Nat} (len : primary.length = 512)
    (h : o + l ≤ 24 ∨ 40 ≤ o ∧ o + l ≤ 72 ∨ 80 ≤ o) :
    slice (backupFields primary target) o l = slice primary o l := by
  have l1 : (put64 primary 24 (target - 1)).length = 512 := by rw [length_put64 (by omega), len]
  have l2 : (put64 (put64 primary 24 (target - 1)) 32 1).length = 512 := by
    rw [length_put64 (by omega), l1]
  rw [backupFields, slice_put64 (by omega) (by omega), slice_put64 (by omega) (by omega),
    slice_put64 (by omega) (by omega)]

/-- A field of the patched primary header that is not a field for the target. -/
lemma newPrimary_slice {image : Bytes} {plan : Plan} (P : Prepared image plan) {o l : Nat}
    (h : o + l ≤ 16 ∨ 20 ≤ o ∧ o + l ≤ 32 ∨ 40 ≤ o ∧ o + l ≤ 48 ∨ 56 ≤ o) :
    slice plan.newPrimary o l = slice plan.primary o l := by
  obtain ⟨len, size⟩ := inspected_header P.inspected
  rw [P.primary, slice_sealHeader (primaryFields_length len) ?_ (by omega),
    primaryFields_slice len (by omega)]
  rw [u32at, primaryFields_slice len (by decide)]
  exact size

/-- The new first header is one sector. -/
lemma newPrimary_length {image : Bytes} {plan : Plan} (P : Prepared image plan) :
    plan.newPrimary.length = 512 := by
  obtain ⟨len, size⟩ := inspected_header P.inspected
  rw [P.primary]
  refine length_sealHeader (primaryFields_length len) ?_
  rw [u32at, primaryFields_slice len (by decide)]
  exact size

/-- A field of the backup header that it shares with the primary. -/
lemma newBackup_slice {image : Bytes} {plan : Plan} (P : Prepared image plan) {o l : Nat}
    (h : o + l ≤ 16 ∨ 20 ≤ o ∧ o + l ≤ 24 ∨ 40 ≤ o ∧ o + l ≤ 72 ∨ 80 ≤ o) :
    slice plan.newBackup o l = slice plan.newPrimary o l := by
  have len := newPrimary_length P
  have size := (inspected_header P.inspected).2
  rw [P.backup, slice_sealHeader (backupFields_length len) ?_ (by omega),
    backupFields_slice len (by omega)]
  rw [u32at, backupFields_slice len (by decide), newPrimary_slice P (by decide)]
  exact size

/-- The new last header is one sector. -/
lemma newBackup_length {image : Bytes} {plan : Plan} (P : Prepared image plan) :
    plan.newBackup.length = 512 := by
  have len := newPrimary_length P
  have size := (inspected_header P.inspected).2
  rw [P.backup]
  refine length_sealHeader (backupFields_length len) ?_
  rw [u32at, backupFields_slice len (by decide), newPrimary_slice P (by decide)]
  exact size

/-- The patched primary header is in place for the target. -/
lemma newPrimary_header {image : Bytes} {plan : Plan} (P : Prepared image plan) :
    Header plan.newPrimary 1 (plan.target - 1) 2 ∧
      u64at plan.newPrimary 48 = plan.target - 34 := by
  obtain ⟨len, size⟩ := inspected_header P.inspected
  have front := P.inspected.front
  have fits := P.fits.2
  have len1 : (put64 plan.primary 32 (plan.target - 1)).length = 512 := by
    rw [length_put64 (by omega), len]
  have word (o : Nat) (h : o + 4 ≤ 32) : u32at (primaryFields plan.primary plan.target) o =
      u32at plan.primary o := by
    rw [u32at, primaryFields_slice len (by omega), u32at]
  have size' : 92 ≤ u32at (primaryFields plan.primary plan.target) 12 ∧
      u32at (primaryFields plan.primary plan.target) 12 ≤ 512 := by
    rw [word 12 (by decide)]
    exact size
  refine ⟨?_, ?_⟩
  · rw [P.primary]
    refine sealHeader_header (primaryFields_length len) ?_ size' ?_ ?_ ?_ ?_ ?_ ?_ ?_
    · rw [primaryFields_slice len (by decide), front.signature]
    · rw [word 8 (by decide), front.revision]
    · rw [word 20 (by decide), front.reserved]
    · rw [u64at, primaryFields_slice len (by decide), ← u64at, front.current]
    · rw [primaryFields, u64at, slice_put64 (by omega) (by decide), ← u64at,
        u64at_put64_same (by omega) (by omega)]
    · rw [u64at, primaryFields_slice len (by decide), ← u64at, front.entries]
    · rw [u32at, primaryFields_slice len (by decide), ← u32at, front.count]
    · rw [u32at, primaryFields_slice len (by decide), ← u32at, front.each]
  · rw [P.primary, u64at, slice_sealHeader (primaryFields_length len) size' (by decide), ← u64at,
      primaryFields, u64at_put64_same (by omega) (by omega)]

/-- The backup header is in place for the target. -/
lemma newBackup_header {image : Bytes} {plan : Plan} (P : Prepared image plan) :
    Header plan.newBackup (plan.target - 1) 1 (plan.target - 33) := by
  have len := newPrimary_length P
  have front := (newPrimary_header P).1
  have fits := P.fits.2
  have l1 : (put64 plan.newPrimary 24 (plan.target - 1)).length = 512 := by
    rw [length_put64 (by omega), len]
  have l2 : (put64 (put64 plan.newPrimary 24 (plan.target - 1)) 32 1).length = 512 := by
    rw [length_put64 (by omega), l1]
  have word (o : Nat) (h : o + 4 ≤ 24) : u32at (backupFields plan.newPrimary plan.target) o =
      u32at plan.newPrimary o := by
    rw [u32at, backupFields_slice len (by omega), u32at]
  rw [P.backup]
  refine sealHeader_header (backupFields_length len) ?_ ?_ ?_ ?_ ?_ ?_ ?_ ?_ ?_
  · rw [backupFields_slice len (by decide), front.signature]
  · rw [word 12 (by decide)]
    exact front.size
  · rw [word 8 (by decide), front.revision]
  · rw [word 20 (by decide), front.reserved]
  · rw [backupFields, u64at, slice_put64 (by omega) (by decide), slice_put64 (by omega) (by decide),
      ← u64at, u64at_put64_same (by omega) (by omega)]
  · rw [backupFields, u64at, slice_put64 (by omega) (by decide), ← u64at,
      u64at_put64_same (by omega) (by decide)]
  · rw [backupFields, u64at_put64_same (by omega) (by omega)]
  · rw [u32at, backupFields_slice len (by decide), ← u32at, front.count]
  · rw [u32at, backupFields_slice len (by decide), ← u32at, front.each]

/-- Every accepted plan is a prepared one. -/
theorem prepare_prepared {image : Bytes} {expected : String} {target : Int} {plan : Plan}
    (h : prepare (some image) expected target = .ok plan) :
    Prepared image plan ∧ (plan.target : Int) = target := by
  simp only [prepare, bind_ok, require_ok, Option.getD_some] at h
  obtain ⟨info, accepted, _, small, _, ⟨low, high⟩, _, -, _, -, primary, hp, backup, hb, _, -, e⟩ := h
  obtain ⟨k, layout⟩ := inspectImage_ok.mp accepted
  have big := k.big
  have sized := k.sized
  obtain ⟨len, size⟩ := inspected_header k
  have len' := @primaryFields_length _ target.toNat len
  obtain ⟨-, e1⟩ := (crcHeader_ok len').mp hp
  have size' : 92 ≤ u32at (primaryFields info.primary target.toNat) 12 ∧
      u32at (primaryFields info.primary target.toNat) 12 ≤ 512 := by
    rw [u32at, primaryFields_slice len (by decide)]
    exact size
  have plen : primary.length = 512 := by
    rw [← e1]
    exact length_sealHeader len' size'
  obtain ⟨-, e2⟩ := (crcHeader_ok (@backupFields_length _ target.toNat plen)).mp hb
  have mlen : info.mbr.length = 512 := by
    rw [← k.mbr]
    exact length_slice (by omega)
  obtain ⟨offset, scan⟩ := @scan_file (put32 info.mbr 458 (target.toNat - 1))
    primary image (by rw [length_put32 (by omega), mlen, plen]) (by omega)
  rw [scan] at e
  cases e
  simp only [sector, tailRam, imageRam] at small
  have fits : info.sectors + 33 ≤ target.toNat ∧ target.toNat ≤ 0xFFFFFFFF := by omega
  have same : (target.toNat : Int) = target := by omega
  exact ⟨⟨k, layout, small, fits, rfl, e1.symm, e2.symm, rfl, rfl, rfl, rfl⟩, same⟩

/-- The text of a digest is a lower-case one that `prepare` takes. -/
lemma hashBytes_text {b : Bytes} :
    (hashBytes b).length = 64 ∧
      (hashBytes b).toList.all ("0123456789abcdefABCDEF".toList.contains ·) ∧
      (hashBytes b).toLower = hashBytes b := by
  obtain ⟨len, digits⟩ := hashBytes_hex b
  have known : ∀ c ∈ hexDigits, c ∈ "0123456789abcdefABCDEF".toList ∧ c.toLower = c :=
    forall_of_all (by decide)
  refine ⟨by rwa [String.length_toList] at len, List.all_eq_true.mpr fun c hc =>
    List.contains_iff_mem.mpr (known c (digits c hc)).1, ?_⟩
  apply String.toList_inj.mp
  rw [show (hashBytes b).toLower = (hashBytes b).map Char.toLower from rfl, String.toList_map]
  refine (List.map_congr_left fun c hc => (known c (digits c hc)).2).trans (List.map_id _)

/-- Every inspected image that fits memory and target has a plan. -/
theorem prepare_complete {image : Bytes} {info : GptImage.Info} {target : Int}
    (accepted : inspectImage (some image) true = .ok info)
    (small : info.sectors * 512 < 0x40000000)
    (fits : info.sectors + 33 ≤ target ∧ target ≤ 0xFFFFFFFF) :
    ∃ plan, prepare (some image) (hashBytes image) target = .ok plan := by
  obtain ⟨k, layout⟩ := inspectImage_ok.mp accepted
  have big := k.big
  have sized := k.sized
  obtain ⟨len, size⟩ := inspected_header k
  have len' := @primaryFields_length _ target.toNat len
  have size' : 92 ≤ u32at (primaryFields info.primary target.toNat) 12 ∧
      u32at (primaryFields info.primary target.toNat) 12 ≤ 512 := by
    rw [u32at, primaryFields_slice len (by decide)]
    exact size
  have hp := (crcHeader_ok len').mpr ⟨size', rfl⟩
  have plen := length_sealHeader len' size'
  have size2 : u32at (backupFields (sealHeader (primaryFields info.primary target.toNat))
      target.toNat) 12 = u32at info.primary 12 := by
    rw [u32at, backupFields_slice plen (by decide), slice_sealHeader len' size' (by decide),
      primaryFields_slice len (by decide), u32at]
  have hb := (crcHeader_ok (@backupFields_length _ target.toNat plen)).mpr
    ⟨by rw [size2]; exact size, rfl⟩
  have mlen : info.mbr.length = 512 := by
    rw [← k.mbr]
    exact length_slice (by omega)
  obtain ⟨offset, scan⟩ := @scan_file (put32 info.mbr 458 (target.toNat - 1))
    (sealHeader (primaryFields info.primary target.toNat)) image
    (by rw [length_put32 (by omega), mlen, plen]) (by omega)
  obtain ⟨text, digits, lower⟩ := hashBytes_text (b := image)
  simp only [prepare, bind_ok, require_ok, Option.getD_some]
  refine ⟨_, info, accepted, (), small, (), fits, (), ?_, (), ⟨text, digits⟩, _, hp, _, hb, (), ?_,
    rfl⟩
  · intro part hpart
    have := (k.ranges part (List.mem_of_getLast? hpart)).2.2
    have := k.usable.high
    omega
  · rw [scan, lower]

end K11CHaos.Scripts.PrepareEmmc
