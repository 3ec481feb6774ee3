import K11CHaos.Engine.FixturePair

/-!
# The repair of a GPT pair

`repaired` trusts the primary when it is sound and the tail otherwise, and rebuilds the other copy from
it. The trusted copy is never written, the result is a K11C layout and its own repair.
-/

namespace K11CHaos.Engine.Gpt

/-- Two headers that differ in their position and their checksum only. -/
structure Derived (h g : Bytes) : Prop where
  front : slice h 0 16 = slice g 0 16
  reserved : slice h 20 4 = slice g 20 4
  policy : slice h 40 32 = slice g 40 32
  rest : slice h 80 432 = slice g 80 432

/-- The copies describe one layout. -/
def Agree (primary tail : Bytes) : Prop :=
  primary.drop 1024 = tail.take 16384 ∧
    slice (slice primary 512 512) 40 16 = slice (tail.drop 16384) 40 16

section
variable {primary tail p t : Bytes} {sectors : UInt32}

/-- When `repaired` returns a pair, and which one. -/
lemma repaired_ok : repaired primary tail sectors = .ok (p, t) ↔
    (primary.length = 34 * 512 ∧ tail.length = 33 * 512 ∧ 34849 < sectors.toNat) ∧
      (PrimaryCopy primary sectors.toNat ∨ TailCopy tail sectors.toNat) ∧
      (PrimaryCopy primary sectors.toNat → TailCopy tail sectors.toNat → Agree primary tail) ∧
      K11c p t sectors.toNat ∧
      (PrimaryCopy primary sectors.toNat ∧ p = primary ∧
          t = backupOf primary (sectors.toNat - 1) ∨
        ¬ PrimaryCopy primary sectors.toNat ∧
          p = primaryOf primary tail (sectors.toNat - 1) ∧ t = tail) := by
  unfold repaired
  dsimp only
  simp only [bind_ok, deny_ok, not_or, not_not, UInt32.not_le, UInt32.lt_iff_toNat_lt]
  constructor
  · rintro ⟨_, sizes, _, some', _, agree, _, layout, result⟩
    obtain ⟨s1, s2, s3⟩ := sizes
    have front : _ ↔ PrimaryCopy primary sectors.toNat := validCopy_iff (length_slice (by omega))
    have back : validCopy _ _ _ _ _ (sectors.toNat - 1 - 32) = true ↔ TailCopy tail sectors.toNat :=
      validCopy_iff (by rw [List.length_drop]; omega)
    rw [front, back] at some' agree
    cases result
    refine ⟨⟨s1, s2, s3⟩, ?_, ?_, requireK11c_layout.mp layout, ?_⟩
    · exact Classical.or_iff_not_imp_left.mpr fun no => not_not.mp fun no' => some' ⟨no, no'⟩
    · intro k1 k2
      exact not_not.mp fun bad => agree ⟨k1, k2, not_and_or.mp bad⟩
    · -- a valid primary is kept and the tail made from it, otherwise the other way round
      by_cases valid : PrimaryCopy primary sectors.toNat
      · rw [if_pos (front.mpr valid), if_pos (front.mpr valid)]
        exact .inl ⟨valid, rfl, rfl⟩
      · rw [if_neg (mt front.mp valid), if_neg (mt front.mp valid)]
        exact .inr ⟨valid, rfl, rfl⟩
  · rintro ⟨sizes, some', agree, layout, result⟩
    obtain ⟨s1, s2, s3⟩ := sizes
    have front : _ ↔ PrimaryCopy primary sectors.toNat := validCopy_iff (length_slice (by omega))
    have back : validCopy _ _ _ _ _ (sectors.toNat - 1 - 32) = true ↔ TailCopy tail sectors.toNat :=
      validCopy_iff (by rw [List.length_drop]; omega)
    refine ⟨(), ⟨s1, s2, s3⟩, (), ?_, (), ?_, (), ?_, ?_⟩
    · rintro ⟨no, no'⟩
      exact some'.elim (fun k => no (front.mpr k)) fun k => no' (back.mpr k)
    · rintro ⟨k1, k2, bad⟩
      have := agree (front.mp k1) (back.mp k2)
      exact bad.elim (fun h => h this.1) fun h => h this.2
    · obtain ⟨valid, rfl, rfl⟩ | ⟨valid, rfl, rfl⟩ := result
      · rw [if_pos (front.mpr valid), if_pos (front.mpr valid)]
        exact requireK11c_layout.mpr layout
      · rw [if_neg (mt front.mp valid), if_neg (mt front.mp valid)]
        exact requireK11c_layout.mpr layout
    · obtain ⟨valid, rfl, rfl⟩ | ⟨valid, rfl, rfl⟩ := result
      · rw [if_pos (front.mpr valid), if_pos (front.mpr valid)]
        rfl
      · rw [if_neg (mt front.mp valid), if_neg (mt front.mp valid)]
        rfl

/-- The parts of a primary that was rebuilt from a tail. -/
lemma primaryOf_parts {last : Nat} (lp : primary.length = 34 * 512) (lt : tail.length = 33 * 512)
    (size : 92 ≤ u32at (tail.drop 16384) 12 ∧ u32at (tail.drop 16384) 12 ≤ 512) :
    (primaryOf primary tail last).take 512 = primary.take 512 ∧
      slice (primaryOf primary tail last) 512 512 =
        sealHeader (placed (tail.drop 16384) 1 last 2) ∧
      (primaryOf primary tail last).drop 1024 = tail.take 16384 := by
  have len : (primary.take 512).length = 512 := by
    rw [List.length_take]
    omega
  have len' : (sealHeader (placed (tail.drop 16384) 1 last 2)).length = 512 :=
    length_moved (by rw [List.length_drop]; omega) size
  have parts : primaryOf primary tail last =
      primary.take 512 ++ sealHeader (placed (tail.drop 16384) 1 last 2) ++ tail.take 16384 :=
    rfl
  refine ⟨?_, ?_, ?_⟩
  · rw [parts, List.append_assoc]
    exact List.take_left' len
  · rw [parts]
    exact slice_middle len len'
  · rw [parts]
    exact List.drop_left' (by rw [List.length_append, len, len'])

/-- A backup made from the primary that was rebuilt from a tail is that tail. -/
lemma backupOf_primaryOf {n : Nat} (lp : primary.length = 34 * 512) (lt : tail.length = 33 * 512)
    (small : n < 2 ^ 32) (copy : TailCopy tail n) :
    backupOf (primaryOf primary tail (n - 1)) (n - 1) = tail := by
  have len : (tail.drop 16384).length = 512 := by
    rw [List.length_drop]
    omega
  obtain ⟨-, header, array⟩ := @primaryOf_parts _ _ (n - 1) lp lt copy.header.size
  have back : Header (tail.drop 16384) (n - 1) 1 (n - 1 - 32) := copy.header
  rw [backupOf_eq, header, array, back.moved_back len (by omega) (by decide) (by omega) (by decide)
    (by omega) (by decide)]
  exact List.take_append_drop 16384 tail

/-- What is left of a K11C layout when another backup completes the pair. -/
lemma K11c.other {n : Nat} (k : K11c primary tail n) (h : Healthy primary t n) :
    K11c primary t n :=
  ⟨h, k.named, k.empty, k.first⟩

/-- On a K11C layout the repair keeps the primary and makes the backup of it. -/
lemma repaired_layout (k : K11c primary tail sectors.toNat) :
    repaired primary tail sectors = .ok (primary, backupOf primary (sectors.toNat - 1)) := by
  have h := k.healthy
  have copy := h.primaryCopy
  have backup := backupOf_healthy h.sizePrimary h.big (UInt32.toNat_lt sectors) copy h.mbr
  exact repaired_ok.mpr ⟨⟨h.sizePrimary, h.sizeTail, h.big⟩, .inl copy,
    fun _ _ => ⟨h.same, h.policy⟩, k.other backup, .inl ⟨copy, rfl, rfl⟩⟩

/-- The result of a repair is its own repair. -/
lemma repaired_again (done : repaired primary tail sectors = .ok (p, t)) :
    repaired p t sectors = .ok (p, t) := by
  obtain ⟨⟨lp, lt, -⟩, some', -, layout, result⟩ := repaired_ok.mp done
  rw [repaired_layout layout]
  obtain ⟨-, rfl, rfl⟩ | ⟨invalid, rfl, rfl⟩ := result
  · rfl
  · have copy := some'.resolve_left invalid
    rw [backupOf_primaryOf lp lt (UInt32.toNat_lt sectors) copy]

end

/-- What `check` leaves open between the headers of a healthy pair: the size field and the bytes
behind the checksum of the array. -/
def SameRest (primary tail : Bytes) : Prop :=
  slice (slice primary 512 512) 12 4 = slice (tail.drop 16384) 12 4 ∧
    slice (slice primary 512 512) 92 420 = slice (tail.drop 16384) 92 420

/-- The backup of a healthy pair is the one made of its primary exactly when these bytes agree. -/
lemma backupOf_same {primary tail : Bytes} {n : Nat} (k : Healthy primary tail n)
    (small : n < 2 ^ 32) : backupOf primary (n - 1) = tail ↔ SameRest primary tail := by
  have lp := k.sizePrimary
  have lt := k.sizeTail
  have len : (slice primary 512 512).length = 512 := length_slice (by omega)
  have len' : (tail.drop 16384).length = 512 := by
    rw [List.length_drop]
    omega
  have size := k.front.size
  have keep (o l : Nat) (d : o + l ≤ 16 ∨ 20 ≤ o ∧ o + l ≤ 24 ∨ 40 ≤ o ∧ o + l ≤ 72 ∨ 80 ≤ o) :
      slice (sealHeader (placed (slice primary 512 512) (n - 1) 1 (n - 1 - 32))) o l =
        slice (slice primary 512 512) o l :=
    slice_moved len size d
  constructor
  · intro same
    have header := congrArg (List.drop 16384) same
    rw [backupOf_drop lp] at header
    rw [SameRest, ← header, keep 12 4 (by decide), keep 92 420 (by decide)]
    exact ⟨rfl, rfl⟩
  · rintro ⟨words, rest⟩
    have moved : Header (sealHeader (placed (slice primary 512 512) (n - 1) 1 (n - 1 - 32)))
        (n - 1) 1 (n - 33) :=
      k.front.moved len (by omega) (by decide) (by omega)
    have sum : slice (slice primary 512 512) 88 4 = slice (tail.drop 16384) 88 4 := by
      refine slice_of_u32at len len' (by decide) ?_
      rw [← k.arrays.1, k.same]
      exact k.arrays.2
    have header := moved.eq_of_same k.back (length_moved len size) len'
      ((keep 12 4 (by decide)).trans words)
      ((keep 40 32 (by decide)).trans (slice_join k.policy k.guid))
      ((keep 88 424 (by decide)).trans (slice_join sum rest))
    rw [backupOf_eq, header, k.same]
    exact List.take_append_drop 16384 tail

/-- Bytes behind the size of a header do not count. -/
lemma Header.beyond {h x : Bytes} {current other at' o : Nat} (k : Header h current other at')
    (len : h.length = 512) (far : u32at h 12 ≤ o) (fits : o + x.length ≤ 512) :
    Header (put h o x) current other at' := by
  have size := k.size
  have keep (p l : Nat) (d : p + l ≤ 92) : slice (put h o x) p l = slice h p l :=
    slice_put_of_disjoint (by omega) (by omega)
  have word (p : Nat) (d : p + 4 ≤ 92) : u32at (put h o x) p = u32at h p :=
    congrArg fromLe (keep p 4 d)
  have long (p : Nat) (d : p + 8 ≤ 92) : u64at (put h o x) p = u64at h p :=
    congrArg fromLe (keep p 8 d)
  have covered : (put h o x).take (u32at h 12) = h.take (u32at h 12) := by
    rw [put, List.append_assoc, List.take_append_of_le_length (by rw [List.length_take]; omega),
      List.take_take, Nat.min_eq_left far]
  refine ⟨(keep 0 8 (by decide)).trans k.signature, ?_, ?_, ?_, ?_, ?_, ?_, ?_, ?_, ?_⟩
  · rw [word 12 (by decide)]
    exact size
  · rw [headerCrc, word 12 (by decide), word 16 (by decide), covered]
    exact k.crc
  · exact (word 8 (by decide)).trans k.revision
  · exact (word 20 (by decide)).trans k.reserved
  · exact (long 24 (by decide)).trans k.current
  · exact (long 32 (by decide)).trans k.other
  · exact (long 72 (by decide)).trans k.entries
  · exact (word 80 (by decide)).trans k.count
  · exact (word 84 (by decide)).trans k.each

/-- A pair stays a layout when bytes behind the size of the backup's header change. -/
lemma K11c.beyond {primary tail x : Bytes} {n o : Nat} (k : K11c primary tail n)
    (far : u32at (tail.drop 16384) 12 ≤ o) (fits : o + x.length ≤ 512) :
    K11c primary (tail.take 16384 ++ put (tail.drop 16384) o x) n := by
  have h := k.healthy
  have lt := h.sizeTail
  have size := h.back.size
  have len : (tail.drop 16384).length = 512 := by
    rw [List.length_drop]
    omega
  have len' : (tail.take 16384).length = 16384 := by
    rw [List.length_take]
    omega
  have top : (tail.take 16384 ++ put (tail.drop 16384) o x).take (32 * 512) = tail.take 16384 :=
    List.take_left' len'
  have bottom : (tail.take 16384 ++ put (tail.drop 16384) o x).drop (32 * 512) =
      put (tail.drop 16384) o x :=
    List.drop_left' len'
  -- a byte behind the size of the header is in no field and under no checksum
  have keep (p l : Nat) (d : p + l ≤ 92) :
      slice (put (tail.drop 16384) o x) p l = slice (tail.drop 16384) p l := by
    have : 92 ≤ u32at (tail.drop 16384) 12 := size.1
    exact slice_put_of_disjoint (by omega) (by omega)
  refine k.other
    { sizePrimary := h.sizePrimary
      sizeTail := ?_
      big := h.big
      front := h.front
      back := ?_
      arrays := ⟨h.arrays.1, ?_⟩
      same := ?_
      guid := ?_
      policy := ?_
      mbr := h.mbr
      bounds := h.bounds
      inside := h.inside
      apart := h.apart }
  · rw [List.length_append, len', length_put (by omega), len]
  · rw [bottom]
    exact h.back.beyond len far fits
  · rw [top, bottom, u32at, keep 88 4 (by decide)]
    exact h.arrays.2
  · rw [top]
    exact h.same
  · rw [bottom, keep 56 16 (by decide)]
    exact h.guid
  · rw [bottom, keep 40 16 (by decide)]
    exact h.policy

/-- The repair trusts a sound primary, and a sound tail only without one; it writes the other copy,
and never chooses between two sound copies that describe different layouts. -/
theorem repaired_trusts (primary tail : Bytes) (sectors : UInt32) :
    (∀ p t, repaired primary tail sectors = .ok (p, t) →
      requireK11c p t sectors = .ok () ∧ K11c p t sectors.toNat ∧
        (PrimaryCopy primary sectors.toNat → p = primary) ∧
        (¬ PrimaryCopy primary sectors.toNat →
          t = tail ∧ p.take 512 = primary.take 512 ∧ p.drop 1024 = tail.take 16384 ∧
            Derived (slice p 512 512) (tail.drop 16384)) ∧
        (PrimaryCopy primary sectors.toNat ∨ TailCopy tail sectors.toNat) ∧
        (PrimaryCopy primary sectors.toNat → TailCopy tail sectors.toNat → Agree primary tail) ∧
        repaired p t sectors = .ok (p, t)) ∧
      (requireK11c primary tail sectors = .ok () →
        ∃ pair, repaired primary tail sectors = .ok pair) := by
  refine ⟨fun p t done => ?_, fun layout => ⟨_, repaired_layout (requireK11c_layout.mp layout)⟩⟩
  obtain ⟨⟨lp, lt, -⟩, some', agree, layout, result⟩ := repaired_ok.mp done
  refine ⟨requireK11c_layout.mpr layout, layout, fun valid => ?_, fun invalid => ?_, some', agree,
    repaired_again done⟩
  · obtain ⟨-, kept, -⟩ | ⟨invalid, -⟩ := result
    · exact kept
    · exact absurd valid invalid
  · obtain ⟨valid, -⟩ | ⟨-, rebuilt, kept⟩ := result
    · exact absurd valid invalid
    · have copy := some'.resolve_left invalid
      have len : (tail.drop 16384).length = 512 := by
        rw [List.length_drop]
        omega
      have size := copy.header.size
      obtain ⟨front, header, array⟩ := @primaryOf_parts _ _ (sectors.toNat - 1) lp lt size
      rw [rebuilt, front, header, array]
      exact ⟨kept, rfl, rfl, slice_moved len size (by decide), slice_moved len size (by decide),
        slice_moved len size (by decide), slice_moved len size (by decide)⟩

/-- The sample is repaired, to a layout that is its own repair. -/
theorem repaired_trusts_sample :
    requireK11c samplePair.1 samplePair.2 34900 = .ok () ∧
      ∃ pair, repaired samplePair.1 samplePair.2 34900 = .ok pair ∧
        K11c pair.1 pair.2 34900 ∧ repaired pair.1 pair.2 34900 = .ok pair := by
  have layout : requireK11c samplePair.1 samplePair.2 34900 = .ok () :=
    requireK11c_layout.mpr samplePair_layout
  obtain ⟨sound, succeeds⟩ := repaired_trusts samplePair.1 samplePair.2 34900
  obtain ⟨⟨p, t⟩, done⟩ := succeeds layout
  obtain ⟨-, k, -, -, -, -, again⟩ := sound p t done
  exact ⟨layout, (p, t), done, k, again⟩

end K11CHaos.Engine.Gpt
