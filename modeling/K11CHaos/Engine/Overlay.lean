import K11CHaos.Engine.Supply

/-!
# Sectors put together from chunks

`overlay` in the arithmetic of the machine (`overlay64`): sums wrap at 64 bits and a slice out of bounds
would stop the program. It never does (`overlay64_eq`). Laid over a window chunk by chunk, ranges of a
disk that do not meet leave in the window what they hold of it, and zeros elsewhere
(`overlayRanges_disk`, `writeAll_inside`). The check of a FULL or BOOT archive therefore compares the first
34 and the last 33 sectors of its payload (`verify_iff`).
-/

namespace K11CHaos.Engine

/-- `b[lo..hi]`, nothing where that is out of bounds. -/
def slice? (b : Bytes) (lo hi : UInt64) : Option Bytes :=
  if lo.toNat ≤ hi.toNat ∧ hi.toNat ≤ b.length then
    some (slice b lo.toNat (hi.toNat - lo.toNat))
  else none

namespace Archive

/-- `overlay` in 64-bit arithmetic, nothing where a slice is out of bounds or two lengths differ. -/
def overlay64 (src : Bytes) (offset : UInt64) (dst : Bytes) (target : UInt64) : Option Bytes :=
  let start := max offset target
  let stop := min (offset + UInt64.ofNat src.length) (target + UInt64.ofNat dst.length)
  if start < stop then do
    let place ← slice? dst (start - target) (stop - target)
    let part ← slice? src (start - offset) (stop - offset)
    if place.length = part.length then some (put dst (start - target).toNat part) else none
  else some dst

/-- The chunks of a range, laid over a window from an address of the disk on. -/
def overlayChunks (target : UInt64) : Nat → List Bytes → Bytes → Option Bytes
  | _, [], dst => some dst
  | address, c :: cs, dst => do
    let dst ← overlay64 c (UInt64.ofNat address) dst target
    overlayChunks target (address + c.length) cs dst

/-- A range of the disk with its payload in chunks. -/
structure Placed where
  start : Nat
  chunks : List Bytes

/-- The bytes of a range. -/
def Placed.payload (r : Placed) : Bytes :=
  r.chunks.flatten

/-- First byte and length of a range. -/
def Placed.window (r : Placed) : Nat × Nat :=
  (r.start, r.payload.length)

/-- The ranges in order. -/
def overlayRanges (target : UInt64) : List Placed → Bytes → Option Bytes
  | [], dst => some dst
  | r :: rs, dst => do
    let dst ← overlayChunks target r.start r.chunks dst
    overlayRanges target rs dst

section Machine

/-- The larger of two offsets. -/
lemma toNat_max (a b : UInt64) : (max a b).toNat = max a.toNat b.toNat := by
  rw [show max a b = if a ≤ b then b else a from rfl]
  simp only [UInt64.le_iff_toNat_le]
  split_ifs <;> omega

/-- The smaller of two offsets. -/
lemma toNat_min (a b : UInt64) : (min a b).toNat = min a.toNat b.toNat := by
  rw [show min a b = if a ≤ b then a else b from rfl]
  simp only [UInt64.le_iff_toNat_le]
  split_ifs <;> omega

/-- A slice that lies inside the bytes. -/
lemma slice?_some {b : Bytes} {lo hi : UInt64} (order : lo.toNat ≤ hi.toNat) (le : hi.toNat ≤ b.length) :
    slice? b lo hi = some (slice b lo.toNat (hi.toNat - lo.toNat)) :=
  if_pos ⟨order, le⟩

/-- No slice of `overlay` is out of bounds. Where the end of the chunk or of the window does not fit in 64
bits nothing is copied, elsewhere the sums are those of the numbers. -/
lemma overlay64_eq {src dst : Bytes} {offset target : UInt64} (hs : src.length < 2 ^ 64)
    (hd : dst.length < 2 ^ 64) :
    overlay64 src offset dst target =
      some (if offset.toNat + src.length < 2 ^ 64 ∧ target.toNat + dst.length < 2 ^ 64 then
        overlay src offset.toNat dst target.toNat else dst) := by
  have ho := offset.toNat_lt
  have ht := target.toNat_lt
  have ends : (offset + UInt64.ofNat src.length).toNat = (offset.toNat + src.length) % 2 ^ 64 := by
    rw [UInt64.toNat_add, UInt64.toNat_ofNat', Nat.mod_eq_of_lt hs]
  have endt : (target + UInt64.ofNat dst.length).toNat = (target.toNat + dst.length) % 2 ^ 64 := by
    rw [UInt64.toNat_add, UInt64.toNat_ofNat', Nat.mod_eq_of_lt hd]
  by_cases meet : max offset target <
      min (offset + UInt64.ofNat src.length) (target + UInt64.ofNat dst.length)
  · have order := UInt64.lt_iff_toNat_lt.mp meet
    rw [toNat_max, toNat_min, ends, endt] at order
    -- a sum that wraps is below its first summand, so nothing would be left between the bounds
    have fits : offset.toNat + src.length < 2 ^ 64 ∧ target.toNat + dst.length < 2 ^ 64 := by omega
    have start : (max offset target).toNat = max offset.toNat target.toNat := toNat_max _ _
    have stop : (min (offset + UInt64.ofNat src.length)
        (target + UInt64.ofNat dst.length)).toNat =
        min (offset.toNat + src.length) (target.toNat + dst.length) := by
      rw [toNat_min, ends, endt, Nat.mod_eq_of_lt fits.1, Nat.mod_eq_of_lt fits.2]
    have diff {a b : UInt64} (le : b.toNat ≤ a.toNat) : (a - b).toNat = a.toNat - b.toNat :=
      UInt64.toNat_sub_of_le _ _ (UInt64.le_iff_toNat_le.mpr le)
    unfold overlay64 overlay
    generalize max offset target = s at meet start
    generalize min (offset + UInt64.ofNat src.length) (target + UInt64.ofNat dst.length) = e
      at meet stop
    have e1 := diff (a := s) (b := target) (by omega)
    have e2 := diff (a := e) (b := target) (by omega)
    have e3 := diff (a := s) (b := offset) (by omega)
    have e4 := diff (a := e) (b := offset) (by omega)
    rw [if_pos fits]
    dsimp only
    rw [if_pos meet, slice?_some (by omega) (by omega), slice?_some (by omega) (by omega), e1, e2, e3, e4,
      Option.bind_eq_bind, Option.bind_some, Option.bind_some, length_slice (by omega), length_slice (by omega),
      if_pos (by omega), if_pos (by omega), start, stop]
    congr 3
    omega
  · unfold overlay64
    dsimp only
    rw [if_neg meet]
    split_ifs with fits
    · have order : ¬ max offset.toNat target.toNat <
          min (offset.toNat + src.length) (target.toNat + dst.length) := by
        intro lt
        apply meet
        rw [UInt64.lt_iff_toNat_lt, toNat_max, toNat_min, ends, endt, Nat.mod_eq_of_lt fits.1,
          Nat.mod_eq_of_lt fits.2]
        exact lt
      rw [overlay, if_neg order]
    · rfl

/-- Where the ends of the chunk and of the window fit, `overlay` computes with numbers. -/
lemma overlay64_fits {src dst : Bytes} {offset target : Nat}
    (hs : offset + src.length < 2 ^ 64)
    (hd : target + dst.length < 2 ^ 64) :
    overlay64 src (UInt64.ofNat offset) dst (UInt64.ofNat target) =
      some (overlay src offset dst target) := by
  have back {n : Nat} (small : n < 2 ^ 64) : (UInt64.ofNat n).toNat = n := by
    rw [UInt64.toNat_ofNat']
    exact Nat.mod_eq_of_lt small
  rw [overlay64_eq (by omega) (by omega), back (Nat.lt_of_le_of_lt (Nat.le_add_right _ _) hs),
    back (Nat.lt_of_le_of_lt (Nat.le_add_right _ _) hd), if_pos ⟨hs, hd⟩]

/-- The window of the last sectors ends where 64 bits suffice. -/
lemma tail_fits {sectors : UInt32} : (sectors.toNat - 33) * 512 + 33 * 512 < 2 ^ 64 := by
  have size := sectors.toNat_lt
  omega

/-- Laying a chunk over a window of a disk is a write seen through the window. -/
lemma overlay64_readAt {d : Disk} {src : Bytes} {address n : Nat} {target : UInt64}
    (fits : address + src.length < 2 ^ 64) (room : target.toNat + n < 2 ^ 64) :
    overlay64 src (UInt64.ofNat address) (readAt d target.toNat n) target =
      some (readAt (writeAt d address src) target.toNat n) := by
  have machine := @overlay64_fits _ (readAt d target.toNat n) _ _ fits (by rwa [length_readAt])
  rw [UInt64.ofNat_toNat] at machine
  rw [machine, overlay_readAt]

/-- Several chunks laid over a read are a read after their write. -/
lemma overlayChunks_readAt {d : Disk} {cs : List Bytes} {address n : Nat} {target : UInt64}
    (fits : address + cs.flatten.length < 2 ^ 64) (room : target.toNat + n < 2 ^ 64) :
    overlayChunks target address cs (readAt d target.toNat n) =
      some (readAt (writeAt d address cs.flatten) target.toNat n) := by
  induction cs generalizing d address with
  | nil => rw [overlayChunks, List.flatten_nil, writeAt_nil]
  | cons c cs ih =>
    rw [List.flatten_cons, List.length_append] at fits
    rw [overlayChunks, overlay64_readAt (by omega) room, Option.bind_eq_bind, Option.bind_some,
      ih (by omega), List.flatten_cons, writeAt_append]

/-- The ranges of a disk, laid over a window chunk by chunk, are the writes of their payloads seen
through the window. -/
lemma overlayRanges_disk {d : Disk} {rs : List Placed} {n : Nat} {target : UInt64}
    (fits : ∀ r ∈ rs, r.start + r.payload.length < 2 ^ 64)
    (room : target.toNat + n < 2 ^ 64) :
    overlayRanges target rs (readAt d target.toNat n) =
      some (readAt (writeAll d (rs.map fun r => (r.start, r.payload))) target.toNat n) := by
  induction rs generalizing d with
  | nil => rfl
  | cons r rs ih =>
    rw [overlayRanges, overlayChunks_readAt (fits r List.mem_cons_self) room, Option.bind_eq_bind,
      Option.bind_some, ih fun s hs => fits s (List.mem_cons_of_mem _ hs)]
    rfl

end Machine

/-- A byte inside one of several writes that do not meet is a byte of that write. -/
lemma writeAll_inside {d : Disk} {ws : List (Nat × Bytes)} {x : Nat}
    (apart : ws.Pairwise fun v w => v.1 + v.2.length ≤ w.1 ∨ w.1 + w.2.length ≤ v.1)
    {w : Nat × Bytes} (hw : w ∈ ws)
    (hx : Inside x (w.1, w.2.length)) : w.2[x - w.1]? = some (writeAll d ws x) := by
  induction ws generalizing d with
  | nil => cases hw
  | cons v ws ih =>
    obtain rfl | hw := List.mem_cons.mp hw
    · obtain ⟨lo, hi⟩ := hx
      dsimp only at lo hi
      rw [writeAll, writeAll_outside, writeAt_inside lo hi, List.getElem?_eq_getElem]
      intro u hu meet
      have := List.rel_of_pairwise_cons apart hu
      simp only [Inside] at meet
      omega
    · exact ih apart.tail hw

/-- A window inside a write is a window of what was written. -/
lemma readAt_writeAt_inside {d : Disk} {a o l : Nat} {b : Bytes} (h : o + l ≤ b.length) :
    readAt (writeAt d a b) (a + o) l = slice b o l := by
  rw [← slice_readAt h, readAt_writeAt_same]

section Verify

variable {X : Crates} {a : Archive}

/-- The payload is read to its end and every range has its hash. -/
def Complete (X : Crates) (a : Archive) : Prop :=
  ∃ w, verifyRanges ((a.metadata.identity.sectors.toNat - 33) * 512) a.metadata.ranges
      ⟨(a.reader X).out, zeros (34 * 512), zeros (33 * 512)⟩ = .ok w ∧
    w.rest = [] ∧ (a.reader X).ended = true ∧ (a.raw = true ∨ (a.reader X).consumed = a.payload)

/-- Where the ranges of a FULL or BOOT archive are. -/
lemma validate_ranges {m : Meta} (valid : validate m = .ok ()) (kind : m.kind ≠ "HAOS") :
    34849 < m.identity.sectors.toNat ∧
      ((∃ r, m.ranges = [r] ∧ r.lba = 0 ∧ r.bytes = m.identity.sectors.toNat * 512) ∨
        ∃ r s, m.ranges = [r, s] ∧ r.lba = 0 ∧ r.bytes = 34816 * 512 ∧
          s.lba.toNat = m.identity.sectors.toNat - 33 ∧ s.bytes = 33 * 512) := by
  obtain ⟨_, _, h1⟩ := bind_ok.mp valid
  obtain ⟨_, _, h2⟩ := bind_ok.mp h1
  obtain ⟨expected, ranged, h3⟩ := bind_ok.mp h2
  obtain ⟨_, _, h4⟩ := bind_ok.mp h3
  obtain ⟨_, count, h5⟩ := bind_ok.mp h4
  obtain ⟨_, same, _⟩ := bind_ok.mp h5
  obtain ⟨_, known, g1⟩ := bind_ok.mp ranged
  obtain ⟨_, large, g2⟩ := bind_ok.mp g1
  have big : 34849 < m.identity.sectors := UInt32.not_le.mp (deny_ok.mp large)
  have len := not_not.mp (deny_ok.mp count)
  have places := deny_ok.mp same
  refine ⟨UInt32.lt_iff_toNat_lt.mp big, ?_⟩
  by_cases full : m.kind = "FULL"
  · rw [if_pos full] at g2
    obtain rfl := Except.ok.inj g2
    obtain ⟨r, eq⟩ := List.length_eq_one_iff.mp len.symm
    rw [eq] at places
    simp [rangeMatches] at places
    exact .inl ⟨r, eq, places.1.1.1.symm, places.1.1.2.symm⟩
  · rw [if_neg full] at g2
    obtain ⟨_, _, g3⟩ := bind_ok.mp g2
    have boot : m.kind = "BOOT" := by
      have := deny_ok.mp known
      tauto
    rw [if_pos boot] at g3
    obtain rfl := Except.ok.inj g3
    obtain ⟨r, s, eq⟩ := List.length_eq_two.mp len.symm
    rw [eq] at places
    simp [rangeMatches] at places
    refine .inr ⟨r, s, eq, places.1.1.1.1.symm, places.1.1.1.2.symm, ?_, places.2.1.1.2.symm⟩
    rw [← places.2.1.1.1, Flash.sectors_sub big]

/-- The windows of the check are the first and the last sectors of the payload. -/
lemma verifyRanges_windows {w : Windows} (valid : validate a.metadata = .ok ())
    (kind : a.metadata.kind ≠ "HAOS")
    (done : verifyRanges ((a.metadata.identity.sectors.toNat - 33) * 512) a.metadata.ranges
      ⟨(a.reader X).out, zeros (34 * 512), zeros (33 * 512)⟩ = .ok w)
    (ended : w.rest = []) :
    w.primary = slice (a.reader X).out 0 (34 * 512) ∧
      w.tail = slice (a.reader X).out ((a.reader X).out.length - 33 * 512) (33 * 512) := by
  obtain ⟨supplied, rest, primary, tail⟩ := verifyRanges_ok (v := fun _ => 0) done readAt_empty.symm
    readAt_empty.symm
  have enough := AllSupplied.sum_le supplied
  dsimp only at supplied rest primary tail enough
  generalize (a.reader X).out = out at *
  have len : out.length = (a.metadata.ranges.map Range.bytes).sum := by
    have short := congrArg List.length rest
    rw [ended, List.length_nil, List.length_drop] at short
    omega
  -- FULL has one range, BOOT the two ends
  obtain ⟨big, ⟨r, ranges, first, bytes⟩ | ⟨r, s, ranges, first, bytes, last, bytes'⟩⟩ :=
    validate_ranges valid kind
  · rw [ranges, List.map_cons, List.map_nil, List.sum_cons, List.sum_nil, Nat.add_zero, bytes] at len
    have image (v : Disk) : Flash.imageOf v ([r].map Flash.archived) (some out) = writeAt v 0 out := by
      rw [List.map_cons, List.map_nil, Flash.imageOf, Flash.imageOf]
      simp only [Flash.archived, Range.window, first, bytes, Payload.source, Option.getD_some]
      rw [UInt32.toNat_zero, Nat.mul_zero, List.take_of_length_le (Nat.le_of_eq len)]
    rw [ranges, image] at primary tail
    refine ⟨?_, ?_⟩
    · rw [primary]
      exact readAt_writeAt_inside (a := 0) (o := 0) (by omega)
    · rw [tail, show (a.metadata.identity.sectors.toNat - 33) * 512 =
        0 + (out.length - 33 * 512) by omega]
      exact readAt_writeAt_inside (by omega)
  · rw [ranges, List.map_cons, List.map_cons, List.map_nil, List.sum_cons, List.sum_cons,
      List.sum_nil, Nat.add_zero, bytes, bytes'] at len
    have image (v : Disk) : Flash.imageOf v ([r, s].map Flash.archived) (some out) =
        writeAt (writeAt v 0 (slice out 0 (34816 * 512)))
          ((a.metadata.identity.sectors.toNat - 33) * 512)
          (slice out (34816 * 512) (33 * 512)) := by
      rw [List.map_cons, List.map_cons, List.map_nil, Flash.imageOf, Flash.imageOf, Flash.imageOf]
      simp only [Flash.archived, Flash.behind, Range.window, first, last, bytes, bytes', Payload.source,
        Option.getD_some, if_true]
      rw [UInt32.toNat_zero, Nat.mul_zero, slice, slice, List.drop_zero, Nat.mul_comm 512]
    have front : (slice out 0 (34816 * 512)).length = 34816 * 512 := length_slice (by omega)
    have back : (slice out (34816 * 512) (33 * 512)).length = 33 * 512 := length_slice (by omega)
    rw [ranges, image] at primary tail
    refine ⟨?_, ?_⟩
    · rw [primary, readAt_writeAt_of_disjoint (.inl (by omega))]
      have inside := readAt_writeAt_inside (d := fun _ => 0) (a := 0) (o := 0) (l := 34 * 512)
        (b := slice out 0 (34816 * 512)) (by rw [front]; decide)
      rw [Nat.zero_add] at inside
      rw [inside, slice_slice (by decide)]
    · have inside := readAt_writeAt_inside (d := writeAt (fun _ => 0) 0 (slice out 0 (34816 * 512)))
        (a := (a.metadata.identity.sectors.toNat - 33) * 512) (o := 0) (l := 33 * 512)
        (Nat.le_of_eq ((Nat.zero_add _).trans back.symm))
      rw [Nat.add_zero] at inside
      rw [tail, inside, slice_slice (by decide), len]

/-- The check of a FULL or BOOT archive compares the first 34 and the last 33 sectors of its payload with
the saved ones. -/
lemma verify_iff (valid : validate a.metadata = .ok ()) (kind : a.metadata.kind ≠ "HAOS") :
    verify X a = .ok () ↔ Complete X a ∧
      slice (a.reader X).out 0 (34 * 512) = a.metadata.primary ∧
      slice (a.reader X).out ((a.reader X).out.length - 33 * 512) (33 * 512) = a.metadata.tail := by
  constructor
  · intro h
    obtain ⟨w, done, h1⟩ := bind_ok.mp h
    obtain ⟨_, extra, h2⟩ := bind_ok.mp h1
    obtain ⟨_, ended, h3⟩ := bind_ok.mp h2
    obtain ⟨_, trailing, headers⟩ := bind_ok.mp h3
    simp only [deny_ok, not_not, not_and, not_or] at extra ended trailing headers
    obtain ⟨primary, tail⟩ := verifyRanges_windows valid kind done extra
    obtain ⟨e1, e2⟩ := headers kind
    refine ⟨⟨w, done, extra, by simpa using ended, ?_⟩, ?_, ?_⟩
    · cases raw : a.raw with
      | true => exact .inl rfl
      | false => exact .inr (trailing (by simp [raw]))
    · rw [← primary, e1]
    · rw [← tail, e2]
  · rintro ⟨⟨w, done, extra, ended, trailing⟩, e1, e2⟩
    obtain ⟨primary, tail⟩ := verifyRanges_windows valid kind done extra
    refine bind_ok.mpr ⟨w, done, bind_ok.mpr ⟨(), deny_ok.mpr (not_not.mpr extra), ?_⟩⟩
    refine bind_ok.mpr ⟨(), deny_ok.mpr (by simp [ended]), bind_ok.mpr ⟨(), deny_ok.mpr ?_, ?_⟩⟩
    · rintro ⟨packed, more⟩
      obtain raw | eq := trailing
      · simp [raw] at packed
      · exact more eq
    · refine deny_ok.mpr ?_
      rintro ⟨_, ne | ne⟩
      · exact ne (primary.trans e1)
      · exact ne (tail.trans e2)

/-- The chunks of a FULL or BOOT archive and both windows end where 64 bits suffice. -/
lemma chunk_fits {r : Range} {x : Nat × Nat} (valid : validate a.metadata = .ok ())
    (kind : a.metadata.kind ≠ "HAOS")
    (hr : r ∈ a.metadata.ranges)
    (hx : x ∈ blocks chunk r.bytes 0) : r.lba.toNat * 512 + x.1 + x.2 < 2 ^ 64 := by
  have size := a.metadata.identity.sectors.toNat_lt
  have inside : ∀ {total : Nat} {bs : List (Nat × Nat)} {offset},
      Tiles chunk offset total bs → ∀ x ∈ bs, x.1 + x.2 ≤ total := by
    intro total bs offset tl
    induction tl with
    | nil => nofun
    | cons _ _ tl ih =>
      rintro x (_ | ⟨_, hx⟩)
      · exact tl.le
      · exact ih x hx
  have le := inside chunk_tiles x hx
  obtain ⟨big, ⟨s, ranges, first, bytes⟩ | ⟨s, t, ranges, first, bytes, last, bytes'⟩⟩ :=
    validate_ranges valid kind
  · rw [ranges, List.mem_singleton] at hr
    subst hr
    rw [first, UInt32.toNat_zero]
    omega
  · rw [ranges] at hr
    obtain rfl | hr := List.mem_cons.mp hr
    · rw [first, UInt32.toNat_zero]
      omega
    · obtain rfl := List.mem_singleton.mp hr
      rw [last]
      omega

end Verify

/-- What `overlay` puts together. -/
structure Reconstructs : Prop where
  /-- No slice is out of bounds, whatever the offsets and lengths are. -/
  bounded : ∀ (src dst : Bytes) (offset target : UInt64), src.length < 2 ^ 64 →
    dst.length < 2 ^ 64 → (overlay64 src offset dst target).isSome = true
  /-- A window of zeros holds the bytes of the ranges that cover it, and zeros elsewhere. -/
  window : ∀ (rs : List Placed) (target : UInt64) (n : Nat),
    (rs.Pairwise fun r s => r.start + r.payload.length ≤ s.start ∨
      s.start + s.payload.length ≤ r.start) →
    (∀ r ∈ rs, r.start + r.payload.length < 2 ^ 64) → target.toNat + n < 2 ^ 64 →
    ∃ out, overlayRanges target rs (zeros n) = some out ∧ out.length = n ∧ ∀ i < n,
      (∀ r ∈ rs, Inside (target.toNat + i) r.window →
        out[i]? = r.payload[target.toNat + i - r.start]?) ∧
      ((∀ r ∈ rs, ¬ Inside (target.toNat + i) r.window) → out[i]? = some 0)
  /-- In the check of an archive the sums are those of the numbers. -/
  machine : ∀ a : Archive, validate a.metadata = .ok () → a.metadata.kind ≠ "HAOS" →
    ∀ r ∈ a.metadata.ranges, ∀ x ∈ blocks chunk r.bytes 0, ∀ buf dst : Bytes, buf.length = x.2 →
      (dst.length = 34 * 512 → overlay64 buf (UInt64.ofNat (r.lba.toNat * 512 + x.1)) dst 0 =
        some (overlay buf (r.lba.toNat * 512 + x.1) dst 0)) ∧
      (dst.length = 33 * 512 → overlay64 buf (UInt64.ofNat (r.lba.toNat * 512 + x.1)) dst
        (UInt64.ofNat ((a.metadata.identity.sectors.toNat - 33) * 512)) =
        some (overlay buf (r.lba.toNat * 512 + x.1) dst
          ((a.metadata.identity.sectors.toNat - 33) * 512)))
  /-- The check of a FULL or BOOT archive compares the first 34 and the last 33 sectors. -/
  compared : ∀ (X : Crates) (a : Archive), validate a.metadata = .ok () →
    a.metadata.kind ≠ "HAOS" →
    (verify X a = .ok () ↔ Complete X a ∧
      slice (a.reader X).out 0 (34 * 512) = a.metadata.primary ∧
      slice (a.reader X).out ((a.reader X).out.length - 33 * 512) (33 * 512) = a.metadata.tail)

/-- For all ranges that do not meet, all chunks of their payloads and all windows, `overlay` puts the bytes
of the disk into the window and stays in its slices, and the check of an archive compares the true first
and last sectors. -/
theorem overlay_reconstructs : Reconstructs where
  bounded src dst offset target hs hd := by
    rw [overlay64_eq hs hd]
    rfl
  window rs target n apart fits room := by
    have whole := overlayRanges_disk (d := fun _ => 0) fits room
    rw [readAt_empty] at whole
    have apart' : (rs.map fun r => (r.start, r.payload)).Pairwise fun v w =>
        v.1 + v.2.length ≤ w.1 ∨ w.1 + w.2.length ≤ v.1 := List.pairwise_map.mpr apart
    refine ⟨_, whole, length_readAt, fun i hi => ⟨fun r hr covers => ?_, fun free => ?_⟩⟩
    · rw [getElem?_readAt, if_pos hi]
      exact (writeAll_inside apart' (List.mem_map_of_mem hr) covers).symm
    · rw [getElem?_readAt, if_pos hi, writeAll_outside]
      intro w hw
      obtain ⟨r, hr, rfl⟩ := List.mem_map.mp hw
      exact free r hr
  machine a valid kind r hr x hx buf dst len := by
    have size := a.metadata.identity.sectors.toNat_lt
    have fits := chunk_fits valid kind hr hx
    rw [← len] at fits
    refine ⟨fun hd => ?_, fun hd => ?_⟩
    · have same := @overlay64_fits _ dst _ 0 fits (by rw [hd]; decide)
      exact same
    · exact overlay64_fits fits (by rw [hd]; exact tail_fits)
  compared _ _ valid kind := verify_iff valid kind

-- two ranges, one of them in two chunks, over a window that starts inside it
example : overlayRanges 2 [⟨6, [[6, 7]]⟩, ⟨1, [[1, 2], [3]]⟩] (zeros 5) = some [2, 3, 0, 0, 6] := by
  decide +kernel

end Archive

end K11CHaos.Engine
