import K11CHaos.Engine.Layout
import K11CHaos.Engine.Success

/-!
# Sources that deliver

What `build` and the check of an archive promise about the sources of a work: every segment finds the
bytes that its range announces (`AllSupplied`). A disk with the segments of a work on it (`imageOf`) holds
them in their ranges and is unchanged elsewhere. The check of an archive lays its payload over windows of
zeros, which is the same as writing it to an empty disk (`verify_image`).
-/

namespace K11CHaos.Engine

/-- Laying bytes over a window of a disk is a write seen through the window. -/
lemma overlay_readAt {d : Disk} {src : Bytes} {offset target n : Nat} :
    Archive.overlay src offset (readAt d target n) target = readAt (writeAt d offset src) target n := by
  refine List.ext_getElem? fun i => ?_
  unfold Archive.overlay
  simp only [length_readAt]
  split_ifs with meet
  · have len : (slice src (max offset target - offset)
        (min (offset + src.length) (target + n) - max offset target)).length =
        min (offset + src.length) (target + n) - max offset target := length_slice (by omega)
    rw [getElem?_put (by rw [len, length_readAt]; omega), len, getElem?_slice, getElem?_readAt,
      getElem?_readAt]
    by_cases hi : i < n
    · by_cases hin : offset ≤ target + i ∧ target + i < offset + src.length
      · rw [if_neg (by omega), if_pos (by omega), if_pos (by omega), if_pos hi,
          writeAt_inside hin.1 hin.2, List.getElem?_eq_getElem (by omega)]
        congr 2
        omega
      · rw [if_pos hi, if_pos hi, writeAt_outside (by omega)]
        split_ifs <;> first | rfl | omega
    · rw [if_neg hi, if_neg hi]
      split_ifs <;> first | rfl | omega
  · rw [getElem?_readAt, getElem?_readAt]
    split_ifs with hi
    · rw [writeAt_outside (by omega)]
    · rfl

namespace Flash

section Image

variable {d v : Disk} {segs : List Segment} {stream : Option Bytes} {sectors : UInt32} {x : Nat}

/-- Segments leave the bytes outside their ranges. -/
lemma imageOf_outside (out : ∀ r ∈ segs.map Segment.range, ¬ Inside x r.window) :
    imageOf d segs stream x = d x := by
  induction segs generalizing d stream with
  | nil => rfl
  | cons seg segs ih =>
    rw [imageOf, ih fun r hr => out r (List.mem_cons_of_mem _ hr)]
    have here := out _ List.mem_cons_self
    refine writeAt_outside ?_
    simp only [Inside, Range.window, List.length_take] at here ⊢
    omega

/-- Every range holds the bytes of its segment. -/
lemma imageOf_stored (supplied : AllSupplied segs stream)
    (laid : Laid (segs.map Segment.range) sectors) :
    ∀ rb ∈ (segs.map Segment.range).zip (contents segs stream),
      rb.2.length = rb.1.bytes ∧
        readAt (imageOf d segs stream) rb.1.window.1 rb.1.bytes = rb.2 := by
  induction segs generalizing d stream with
  | nil => exact fun rb hr => absurd hr List.not_mem_nil
  | cons seg segs ih =>
    intro rb hr
    obtain rfl | hr := List.mem_cons.mp hr
    · have len : ((seg.payload.source stream).take seg.range.bytes).length = seg.range.bytes := by
        rw [List.length_take]
        exact Nat.min_eq_left supplied.1.enough
      have same := readAt_writeAt_same (d := d) (a := seg.range.window.1)
        (b := (seg.payload.source stream).take seg.range.bytes)
      rw [len] at same
      refine ⟨len, Eq.trans ?_ same⟩
      refine readAt_congr fun x lo hi => ?_
      rw [imageOf]
      refine imageOf_outside fun s hs hin => ?_
      have := List.rel_of_pairwise_cons laid.apart hs
      simp only [Inside, Range.window] at hin this lo hi
      omega
    · exact ih supplied.2 laid.tail rb hr

/-- A byte inside a range is one of its segment. -/
lemma imageOf_inside (supplied : AllSupplied segs stream)
    (laid : Laid (segs.map Segment.range) sectors) {rb : Range × Bytes}
    (h : rb ∈ (segs.map Segment.range).zip (contents segs stream)) (hx : Inside x rb.1.window) :
    rb.2[x - rb.1.window.1]? = some (imageOf d segs stream x) := by
  obtain ⟨lo, hi⟩ := hx
  have stored := (imageOf_stored (d := d) supplied laid rb h).2
  have le : x - rb.1.window.1 < rb.1.bytes := (Nat.sub_lt_iff_lt_add' lo).mpr hi
  rw [← stored, getElem?_readAt, if_pos le, Nat.add_sub_cancel' lo]

/-- Inside the ranges it does not matter what was on the disk. -/
lemma imageOf_covered (supplied : AllSupplied segs stream)
    (inside : ∃ r ∈ segs.map Segment.range, Inside x r.window) :
    imageOf d segs stream x = imageOf v segs stream x := by
  induction segs generalizing d v stream with
  | nil => exact absurd inside (by simp)
  | cons seg segs ih =>
    by_cases later : ∃ r ∈ segs.map Segment.range, Inside x r.window
    · exact ih supplied.2 later
    · push Not at later
      obtain ⟨r, hr, hx⟩ := inside
      obtain rfl | hr := List.mem_cons.mp hr
      · obtain ⟨lo, hi⟩ := hx
        have len : ((seg.payload.source stream).take seg.range.bytes).length =
            seg.range.window.2 := by
          rw [List.length_take]
          exact Nat.min_eq_left supplied.1.enough
        rw [imageOf, imageOf, imageOf_outside later, imageOf_outside later,
          writeAt_inside lo (by rwa [len]), writeAt_inside lo (by rwa [len])]
      · exact absurd hx (later r hr)

end Image

/-- A segment of given bytes has what it announces. -/
lemma supplies_bytes {label lba b stream} : Supplies (bytesSegment label lba b) stream where
  source := ⟨_, rfl⟩
  enough := Nat.le_refl _
  hash := congrArg hashBytes (List.take_length)

/-- A segment of an image file has what it announces. -/
lemma supplies_image {label lba file offset count hash stream} (fits : offset + count ≤ file.length)
    (h : hash = hashBytes (slice file offset count)) :
    Supplies ⟨⟨label, lba, count, hash⟩, .image file offset count⟩ stream where
  source := ⟨⟨false, slice file offset count⟩, by
    refine bind_ok.mpr ⟨(), deny_ok.mpr (not_not.mpr rfl), rfl⟩⟩
  enough := Nat.le_of_eq (length_slice fits).symm
  hash := by
    rw [h]
    exact congrArg hashBytes (List.take_of_length_le (Nat.le_of_eq (length_slice fits)))

/-- A hash of a window is of bytes that are there. -/
lemma hashRange_ok {file offset count hash} (h : hashRange file offset count = .ok hash) :
    offset + count ≤ file.length ∧ hash = hashBytes (slice file offset count) := by
  obtain ⟨_, h1, h2⟩ := bind_ok.mp h
  cases h2
  exact ⟨Nat.not_lt.mp (deny_ok.mp h1), rfl⟩

/-- Both digests of `image_hashes` take in what they should: the file, and the window. -/
lemma imageBlocks_tiles {file : Bytes} {offset stop size done bs whole payload}
    (tl : Tiles size done file.length bs) (fits : stop ≤ file.length) :
    imageBlocks file offset stop bs (whole, payload) =
      (whole ++ slice file done (file.length - done),
        payload ++ slice file (max done offset) (stop - max done offset)) := by
  generalize total : file.length = n at tl
  induction tl generalizing whole payload with
  | nil =>
    subst total
    rw [imageBlocks, Nat.sub_self, show stop - max file.length offset = 0 by omega]
    simp
  | @cons done n _ bs pos _ tl ih =>
    subst total
    have le := tl.le
    rw [imageBlocks, ih rfl]
    refine Prod.ext ?_ ?_
    · rw [List.append_assoc, show file.length - done = n + (file.length - (done + n)) by omega,
        ← slice_append_slice]
    · dsimp only
      -- the block overlaps the window, or it is before or behind it
      split_ifs with meet
      · rw [slice_slice (by omega), List.append_assoc,
          show done + (max done offset - done) = max done offset by omega]
        congr 1
        by_cases h : stop ≤ done + n
        · rw [show stop - max (done + n) offset = 0 by omega, Nat.min_eq_right h]
          simp
        · rw [Nat.min_eq_left (by omega),
            show stop - max done offset = (done + n - max done offset) +
              (stop - max (done + n) offset) by omega, ← slice_append_slice,
            show max done offset + (done + n - max done offset) = max (done + n) offset by omega]
      · congr 1
        by_cases h : stop ≤ max done offset
        · rw [show stop - max (done + n) offset = 0 by omega,
            show stop - max done offset = 0 by omega]
          simp
        · rw [show max (done + n) offset = max done offset by omega]

/-- Both hashes are of bytes that are there. -/
lemma imageHashes_ok {file offset count res} (h : imageHashes file offset count = .ok res) :
    offset + count ≤ file.length ∧ res.1 = hashBytes file ∧
      res.2 = hashBytes (slice file offset count) := by
  obtain ⟨_, h1, h2⟩ := bind_ok.mp h
  have fits := Nat.not_lt.mp (deny_ok.mp h1)
  have tl : Tiles chunk 0 file.length _ := chunk_tiles
  rw [imageBlocks_tiles tl fits] at h2
  cases h2
  refine ⟨fits, ?_, ?_⟩
  · rw [List.nil_append, Nat.sub_zero, slice_full (Nat.le_refl _)]
  · simp only [List.nil_append, Nat.zero_max, Nat.add_sub_cancel_left]

/-- A segment of an archive stream. -/
def archived (r : Range) : Segment :=
  ⟨r, .archive⟩

/-- The segments of an archive have its ranges. -/
lemma ranges_archived {rs : List Range} : (rs.map archived).map Segment.range = rs := by
  rw [List.map_map]
  exact List.map_id rs

end Flash

namespace Archive

open Flash

/-- The inner loop of the check takes its range from the stream, and lays it over both windows. -/
lemma verifyBlocks_ok {lba tailAt size offset total bs np nt} {w w' : Windows} {data data' : Bytes}
    {v : Disk} (tl : Tiles size offset total bs)
    (h : verifyBlocks lba tailAt bs w data = .ok (w', data'))
    (hp : w.primary = readAt v 0 np) (ht : w.tail = readAt v tailAt nt) :
    total - offset ≤ w.rest.length ∧
      w'.rest = w.rest.drop (total - offset) ∧
      data' = data ++ w.rest.take (total - offset) ∧
      w'.primary = readAt (writeAt v (lba * 512 + offset) (w.rest.take (total - offset))) 0 np ∧
      w'.tail = readAt (writeAt v (lba * 512 + offset) (w.rest.take (total - offset))) tailAt nt := by
  induction tl generalizing w data v with
  | nil =>
    cases h
    simp [hp, ht]
  | @cons offset n total bs pos _ tl ih =>
    have le := tl.le
    rw [verifyBlocks] at h
    split_ifs at h with short
    have len : (w.rest.take n).length = n := by
      rw [List.length_take]
      omega
    obtain ⟨e1, e2, e3, e4, e5⟩ := ih h (v := writeAt v (lba * 512 + offset) (w.rest.take n))
      (by dsimp only; rw [hp, overlay_readAt]) (by dsimp only; rw [ht, overlay_readAt])
    have joined := writeAt_append (d := v) (a := lba * 512 + offset) (b := w.rest.take n)
      (c := (w.rest.drop n).take (total - (offset + n)))
    rw [len] at joined
    have total' : total - offset = n + (total - (offset + n)) := by omega
    dsimp only at e1 e2 e3 e4 e5
    rw [List.length_drop] at e1
    refine ⟨by omega, ?_, ?_, ?_, ?_⟩
    · rw [e2, total', List.drop_drop]
    · rw [e3, total', List.take_add, List.append_assoc]
    · rw [e4, ← Nat.add_assoc, joined, total', List.take_add]
    · rw [e5, ← Nat.add_assoc, joined, total', List.take_add]

/-- The outer loop: every range is supplied by the stream, and the windows show the ranges on the disk
    that they started from. -/
lemma verifyRanges_ok {tailAt np nt} {rs : List Range} {w w' : Windows} {v : Disk}
    (h : verifyRanges tailAt rs w = .ok w')
    (hp : w.primary = readAt v 0 np) (ht : w.tail = readAt v tailAt nt) :
    AllSupplied (rs.map archived) (some w.rest) ∧
      w'.rest = w.rest.drop (rs.map Range.bytes).sum ∧
      w'.primary = readAt (imageOf v (rs.map archived) (some w.rest)) 0 np ∧
      w'.tail = readAt (imageOf v (rs.map archived) (some w.rest)) tailAt nt := by
  induction rs generalizing w v with
  | nil =>
    cases h
    exact ⟨trivial, rfl, hp, ht⟩
  | cons r rs ih =>
    obtain ⟨⟨w1, data⟩, hb, h1⟩ := bind_ok.mp h
    obtain ⟨_, hh, h2⟩ := bind_ok.mp h1
    have tl : Tiles chunk 0 r.bytes _ := chunk_tiles
    obtain ⟨enough, rest, rfl, ep, et⟩ := verifyBlocks_ok tl hb hp ht
    simp only [Nat.sub_zero, Nat.add_zero, List.nil_append] at enough rest ep et hh
    rw [Nat.mul_comm] at ep et
    obtain ⟨s, er, ep', et'⟩ := ih h2 ep et
    rw [rest] at s er ep' et'
    refine ⟨⟨⟨⟨_, rfl⟩, enough, not_not.mp (deny_ok.mp hh)⟩, s⟩, ?_, ep', et'⟩
    rw [er, List.map_cons, List.sum_cons, List.drop_drop]

/-- A checked archive: its stream is exactly the ranges, each with its hash, it ends with them, and but
    for a HAOS archive the saved sectors are what the ranges bring to an empty disk. -/
structure Verified (X : Crates) (a : Archive) : Prop where
  supplied : AllSupplied (a.metadata.ranges.map archived) (some (a.reader X).out)
  exact : (a.reader X).out.length = (a.metadata.ranges.map Range.bytes).sum
  ended : (a.reader X).ended = true
  consumed : a.raw = false → (a.reader X).consumed = a.payload
  headers : a.metadata.kind ≠ "HAOS" →
    let image := imageOf (fun _ => 0) (a.metadata.ranges.map archived) (some (a.reader X).out)
    a.metadata.primary = readAt image 0 (34 * 512) ∧
      a.metadata.tail = readAt image ((a.metadata.identity.sectors.toNat - 33) * 512) (33 * 512)

/-- A stream that supplies all ranges is long enough. -/
lemma AllSupplied.sum_le {rs : List Range} {out : Bytes}
    (s : AllSupplied (rs.map archived) (some out)) : (rs.map Range.bytes).sum ≤ out.length := by
  induction rs generalizing out with
  | nil => exact Nat.zero_le _
  | cons r rs ih =>
    have enough : r.bytes ≤ out.length := s.1.enough
    have rest := ih s.2
    rw [List.length_drop] at rest
    rw [List.map_cons, List.sum_cons]
    exact (Nat.le_sub_iff_add_le' enough).mp rest

/-- What `verify` has checked. -/
lemma verify_verified {X a u} (h : verify X a = .ok u) : Verified X a := by
  obtain ⟨w, hw, h1⟩ := bind_ok.mp h
  obtain ⟨_, extra, h2⟩ := bind_ok.mp h1
  obtain ⟨_, ended, h3⟩ := bind_ok.mp h2
  obtain ⟨_, trailing, headers⟩ := bind_ok.mp h3
  obtain ⟨s, rest, ep, et⟩ := verifyRanges_ok (v := fun _ => 0) hw readAt_empty.symm
    readAt_empty.symm
  dsimp only at s rest ep et
  simp only [deny_ok, not_not, not_and, not_or] at extra ended trailing headers
  refine ⟨s, ?_, by simpa using ended, fun hr => trailing (by simp [hr]), fun hk => ?_⟩
  · have le := AllSupplied.sum_le s
    have := congrArg List.length rest
    rw [extra, List.length_nil, List.length_drop] at this
    omega
  · obtain ⟨e1, e2⟩ := headers hk
    exact ⟨e1.symm.trans ep, e2.symm.trans et⟩

end Archive

end K11CHaos.Engine
