import Mathlib.Order.CompletePartialOrder
import Mathlib.Order.Interval.Set.Disjoint
import K11CHaos.Engine.GptHeader
import K11CHaos.Engine.Transfer

/-!
# Ranges of a write

`validate_ranges` accepts a list of ranges exactly when it is `ValidRanges`: every range is made of whole
sectors of the disk, at least one, and no two have a sector in common. The code compares neighbours after
sorting (`neighbours_iff`). The loops that write and reread a valid range add the offset of a chunk to
the first sector in 32 bits, and no such sum wraps (`chunks_unwrapped`).
-/

namespace K11CHaos.Engine

open Prog

/-- The sectors of a range. -/
def Range.sectors (r : Range) : Set Nat :=
  Set.Ico r.lba.toNat (r.lba.toNat + r.bytes / 512)

/-- Ranges of whole sectors of the disk that have no sector in common. -/
structure ValidRanges (rs : List Range) (sectors : UInt32) : Prop where
  each : ∀ r ∈ rs, r.bytes ≠ 0 ∧ 512 ∣ r.bytes ∧ r.lba.toNat + r.bytes / 512 ≤ sectors.toNat
  disjoint : rs.Pairwise fun r s => Disjoint r.sectors s.sectors

/-- A request about a chunk of a range: its first sector is the sum of the range's and the chunk's, as
numbers, and its last one is on the disk. -/
def Op.Chunk (r : Range) (sectors : UInt32) : Op → Prop
  | .write lba b => ∃ x ∈ blocks chunk r.bytes 0, b.length = x.2 ∧
      lba.toNat = r.lba.toNat + x.1 / 512 ∧ lba.toNat + x.2 / 512 ≤ sectors.toNat
  | .read lba n => ∃ x ∈ blocks chunk r.bytes 0, n = x.2 ∧
      lba.toNat = r.lba.toNat + x.1 / 512 ∧ lba.toNat + x.2 / 512 ≤ sectors.toNat
  | _ => True

namespace Flash

/-- Neighbours in the order of their starts are apart exactly when all pairs are, for spans that are not
empty. -/
lemma neighbours_iff {l s : List (Nat × Nat)} (perm : s.Perm l)
    (sorted : s.Pairwise fun a b => a.1 ≤ b.1)
    (full : ∀ a ∈ l, a.1 < a.2) :
    (∀ r ∈ Gpt.windows2 s, r.1.2 ≤ r.2.1) ↔ l.Pairwise fun a b => a.2 ≤ b.1 ∨ b.2 ≤ a.1 := by
  have full' : ∀ a ∈ s, a.1 < a.2 := fun a ha => full a (perm.mem_iff.mp ha)
  have chain := Gpt.windows2_iff (l := s) (R := fun a b : Nat × Nat => a.1 ≤ a.2 ∧ a.2 ≤ b.1)
    fun h k => ⟨h.1, Nat.le_trans h.2 (Nat.le_trans k.1 k.2)⟩
  rw [← perm.pairwise_iff fun h => h.symm]
  constructor
  · intro h
    refine (chain.mp fun r hr => ⟨Nat.le_of_lt (full' _ (List.of_mem_zip hr).1), h r hr⟩).imp ?_
    exact fun k => .inl k.2
  · intro h r hr
    refine (chain.mpr ?_ r hr).2
    refine (h.and sorted).imp_of_mem fun {a b} ha hb k => ?_
    have := full' a ha
    have := full' b hb
    omega

/-- Ranges that are not empty have no sector in common exactly when one ends before the other. -/
lemma disjoint_iff {r s : Range} (hr : (extent r).1 < (extent r).2)
    (hs : (extent s).1 < (extent s).2) :
    Disjoint r.sectors s.sectors ↔ (extent r).2 ≤ (extent s).1 ∨ (extent s).2 ≤ (extent r).1 := by
  rw [Range.sectors, Range.sectors, Set.Ico_disjoint_Ico]
  simp only [extent] at hr hs ⊢
  omega

/-- A range of at least one whole sector is not empty. -/
lemma extent_lt {r : Range} (pos : r.bytes ≠ 0) (whole : 512 ∣ r.bytes) :
    (extent r).1 < (extent r).2 := by
  simp only [extent]
  omega

/-- The chunks of a range that ends on the disk do not wrap. -/
lemma lba_unwrapped {lba sectors : UInt32} {x : Nat × Nat} {total : Nat}
    (on : lba.toNat + total / 512 ≤ sectors.toNat)
    (inside : x.1 + x.2 ≤ total)
    (aligned : 512 ∣ x.1 ∧ 512 ∣ x.2) :
    (lba + UInt32.ofNat (x.1 / 512)).toNat = lba.toNat + x.1 / 512 ∧
      (lba + UInt32.ofNat (x.1 / 512)).toNat + x.2 / 512 ≤ sectors.toNat := by
  have size := sectors.toNat_lt
  have sum : (lba + UInt32.ofNat (x.1 / 512)).toNat = lba.toNat + x.1 / 512 := by
    rw [UInt32.toNat_add, UInt32.toNat_ofNat']
    omega
  refine ⟨sum, ?_⟩
  rw [sum]
  omega

/-- A chunk is inside its range. -/
lemma block_inside {size offset total : Nat} {bs : List (Nat × Nat)} (tl : Tiles size offset total bs) :
    ∀ x ∈ bs, x.1 + x.2 ≤ total := by
  induction tl with
  | nil => nofun
  | cons _ _ tl ih =>
    rintro x (_ | ⟨_, hx⟩)
    · exact tl.le
    · exact ih x hx

/-- The writing loop asks about chunks of its range. -/
lemma writeBlocks_chunks {r : Range} {sectors : UInt32} {bs src}
    (on : r.lba.toNat + r.bytes / 512 ≤ sectors.toNat)
    (whole : 512 ∣ r.bytes)
    (sub : ∀ x ∈ bs, x ∈ blocks chunk r.bytes 0) :
    (writeBlocks r.lba bs src).Only (Op.Chunk r sectors) := by
  induction bs generalizing src with
  | nil => exact only_pure
  | cons x bs ih =>
    have mem := sub x List.mem_cons_self
    have next : (nextBlock src x.2).Only (Op.Chunk r sectors) := by
      unfold nextBlock
      split_ifs
      · exact only_reject
      · exact only_pure
      · exact .bind (only_askAs.mpr trivial) fun _ => only_pure
    refine .bind_runs next fun _ block run => ?_
    obtain ⟨_, len, _⟩ := runs_nextBlock_ok run
    have inside := block_inside chunk_tiles x mem
    refine .bind (only_ask.mpr ?_) fun _ => .bind only_check fun _ => ?_
    · exact ⟨x, mem, len, lba_unwrapped on inside (chunk_aligned whole x mem)⟩
    · exact .bind (ih fun y hy => sub y (List.mem_cons_of_mem _ hy)) fun _ => only_pure

/-- So does the rereading loop. -/
lemma readBlocks_chunks {r : Range} {sectors : UInt32} {bs}
    (on : r.lba.toNat + r.bytes / 512 ≤ sectors.toNat)
    (whole : 512 ∣ r.bytes)
    (sub : ∀ x ∈ bs, x ∈ blocks chunk r.bytes 0) :
    (readBlocks r.lba bs).Only (Op.Chunk r sectors) := by
  induction bs with
  | nil => exact only_pure
  | cons x bs ih =>
    have mem := sub x List.mem_cons_self
    have inside := block_inside chunk_tiles x mem
    refine .bind (.bind (only_ask.mpr ?_) fun _ => .bind only_check fun _ => only_pure) fun _ => ?_
    · exact ⟨x, mem, rfl, lba_unwrapped on inside (chunk_aligned whole x mem)⟩
    · exact .bind (ih fun y hy => sub y (List.mem_cons_of_mem _ hy)) fun _ => only_pure

/-- The first check of `validate_ranges`. -/
lemma eachRange_iff {rs : List Range} {sectors : UInt32} :
    (¬ (rs.any fun r => decide (r.bytes = 0 ∨ r.bytes % 512 ≠ 0 ∨ (extent r).2 > sectors.toNat)) = true) ↔
      ∀ r ∈ rs, r.bytes ≠ 0 ∧ 512 ∣ r.bytes ∧ r.lba.toNat + r.bytes / 512 ≤ sectors.toNat := by
  simp only [List.any_eq_true, decide_eq_true_eq, not_exists, not_and, not_or, not_not, Nat.not_lt,
    Nat.dvd_iff_mod_eq_zero]
  exact Iff.rfl

/-- What `validate_ranges` accepts. -/
lemma validateRanges_iff {rs : List Range} {sectors : UInt32} :
    validateRanges rs sectors = .ok () ↔ ValidRanges rs sectors := by
  have pairs (each : ∀ r ∈ rs, r.bytes ≠ 0 ∧ 512 ∣ r.bytes ∧
      r.lba.toNat + r.bytes / 512 ≤ sectors.toNat) :
      (∀ r ∈ Gpt.windows2 (Gpt.sortSpans (rs.map extent)), r.1.2 ≤ r.2.1) ↔
        rs.Pairwise fun r s => Disjoint r.sectors s.sectors := by
    have full : ∀ r ∈ rs, (extent r).1 < (extent r).2 := by
      intro r hr
      obtain ⟨pos, whole, _⟩ := each r hr
      exact extent_lt pos whole
    rw [neighbours_iff Gpt.sortSpans_perm Gpt.sortSpans_sorted (List.forall_mem_map.mpr full),
      List.pairwise_map]
    refine ⟨fun h => h.imp_of_mem fun hr hs k => ?_, fun h => h.imp_of_mem fun hr hs k => ?_⟩
    · exact (disjoint_iff (full _ hr) (full _ hs)).mpr k
    · exact (disjoint_iff (full _ hr) (full _ hs)).mp k
  constructor
  · intro h
    obtain ⟨_, h1, h2⟩ := bind_ok.mp h
    have each := eachRange_iff.mp (deny_ok.mp h1)
    refine ⟨each, (pairs each).mp ?_⟩
    simpa using deny_ok.mp h2
  · rintro ⟨each, disjoint⟩
    refine bind_ok.mpr ⟨(), deny_ok.mpr (eachRange_iff.mpr each), deny_ok.mpr ?_⟩
    simpa using (pairs each).mpr disjoint

/-- The requests about a range whose sums do not wrap: all that the loops which write and reread it send,
whatever is answered. -/
structure Unwrapped (r : Range) (sectors : UInt32) : Prop where
  write : ∀ src, (writeBlocks r.lba (blocks chunk r.bytes 0) src).Only (Op.Chunk r sectors)
  readback : (readDigest r.lba r.bytes).Only (Op.Chunk r sectors)

/-- `validate_ranges` accepts exactly the lists of ranges of whole sectors of the disk, at least one
each, that have no sector in common, in any order. The loops over an accepted range add the sector of
each chunk without wrapping. -/
theorem validateRanges_sound (rs : List Range) (sectors : UInt32) :
    (validateRanges rs sectors = .ok () ↔ ValidRanges rs sectors) ∧
      (validateRanges rs sectors = .ok () → ∀ r ∈ rs, Unwrapped r sectors) := by
  refine ⟨validateRanges_iff, fun ok r hr => ?_⟩
  obtain ⟨_, whole, on⟩ := (validateRanges_iff.mp ok).each r hr
  refine ⟨fun src => writeBlocks_chunks on whole fun x hx => hx, ?_⟩
  exact .bind (readBlocks_chunks on whole fun x hx => hx) fun _ => only_pure

/-- Two neighbours at the end of the largest disk, in the wrong order. -/
def lastRanges : List Range :=
  [⟨"tail", 0xfffffffe, 512, ""⟩, ⟨"data", 0xfffffffc, 1024, ""⟩]

/-- The last sectors that 32 bits can name. -/
theorem validateRanges_sound_last :
    validateRanges lastRanges 0xffffffff = .ok () ∧ ∀ r ∈ lastRanges, Unwrapped r 0xffffffff := by
  obtain ⟨accepts, unwrapped⟩ := validateRanges_sound lastRanges 0xffffffff
  have ok : validateRanges lastRanges 0xffffffff = .ok () := by
    apply accepts.mpr
    refine ⟨by decide, ?_⟩
    simp [lastRanges, Range.sectors, Set.Ico_disjoint_Ico]
  exact ⟨ok, unwrapped ok⟩

end Flash

end K11CHaos.Engine
