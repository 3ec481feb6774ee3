import K11CHaos.Engine.Flash

/-!
# Healthy pairs

What a healthy GPT pair says about its two captures: their sizes, their signatures, hence that neither is
the vendor's read denial. Every operation that computes a pair computes a healthy one
(`relocated_sound`, `resized_sound`, `repaired_sound`).
-/

namespace K11CHaos.Engine.Gpt

/-- No issue is reported exactly when no test fails. -/
lemma issue_nil {bad : Bool} {name : String} : issue bad name = [] ↔ bad = false := by
  cases bad <;> simp [issue]

/-- A healthy pair: sizes, and both headers in place. -/
structure Sound (primary tail : Bytes) (sectors : UInt32) : Prop where
  sizePrimary : primary.length = 34 * 512
  sizeTail : tail.length = 33 * 512
  big : 34849 < sectors
  first : header (slice primary 512 512) 1 (sectors.toNat - 1) 2 = true
  last : header (tail.drop (32 * 512)) (sectors.toNat - 1) 1 (sectors.toNat - 1 - 32) = true

/-- A pair without issues is sound. -/
lemma healthy_sound {primary tail : Bytes} {sectors : UInt32}
    (h : (check primary tail sectors).healthy = true) : Sound primary tail sectors := by
  unfold check Report.healthy at h
  split_ifs at h with size
  · cases h
  · simp only [not_or, not_not, UInt32.not_le] at size
    simp only [List.isEmpty_iff, List.append_eq_nil_iff, issue_nil, Bool.not_eq_false'] at h
    exact ⟨size.1, size.2.1, size.2.2, h.1.1.1.1.1.1.1, h.1.1.1.1.1.1.2⟩

/-- A K11C layout has no issues. -/
lemma requireK11c_healthy {primary tail : Bytes} {sectors : UInt32} {u}
    (h : requireK11c primary tail sectors = .ok u) :
    (check primary tail sectors).healthy = true := by
  obtain ⟨_, h1, _⟩ := bind_ok.mp h
  simpa using h1

/-- A header begins with its signature. -/
lemma header_signature {h : Bytes} {current other entries : Nat}
    (e : header h current other entries = true) : slice h 0 8 = efiPart := by
  unfold header at e
  split_ifs at e with bad
  simp only [not_or, not_not] at bad
  exact bad.2

/-- Bytes with a GPT signature in them are not the read denial. -/
lemma signed_undenied {b : Bytes} {o : Nat} (h : slice b o 8 = efiPart) :
    requireGptBytes b = .ok () := by
  refine deny_ok.mpr fun denied => ?_
  have e : (0x45 : UInt8) ∈ slice b o 8 := by
    rw [h]
    decide
  exact absurd (denied.2 _ (mem_of_mem_slice e)) (by decide)

/-- A healthy pair is not the read denial. -/
lemma Sound.undenied {primary tail : Bytes} {sectors : UInt32} (h : Sound primary tail sectors) :
    requireGptBytes (primary.drop 512) = .ok () ∧ requireGptBytes tail = .ok () := by
  have first := header_signature h.first
  have last := header_signature h.last
  rw [slice_slice (by decide)] at first
  refine ⟨signed_undenied (o := 0) ?_, signed_undenied (o := 32 * 512) ?_⟩
  · rw [← first, slice, slice, List.drop_drop]
  · rw [← last, slice, slice, List.drop_zero]

/-- A relocated pair is a K11C layout. -/
lemma relocated_sound {primary tail : Bytes} {source target : UInt32} {pair}
    (h : relocated primary tail source target = .ok pair) :
    requireK11c pair.1 pair.2 target = .ok () := by
  obtain ⟨_, _, h1⟩ := bind_ok.mp h
  obtain ⟨_, _, h2⟩ := bind_ok.mp h1
  obtain ⟨_, _, h3⟩ := bind_ok.mp h2
  obtain ⟨_, _, h4⟩ := bind_ok.mp h3
  obtain ⟨_, h5, h6⟩ := bind_ok.mp h4
  cases h6
  exact h5

/-- A resized pair has no issues. -/
lemma resized_sound {primary tail : Bytes} {source target : UInt32} {pair}
    (h : resized primary tail source target = .ok pair) :
    (check pair.1 pair.2 target).healthy = true := by
  obtain ⟨_, _, h1⟩ := bind_ok.mp h
  obtain ⟨_, h2, h3⟩ := bind_ok.mp h1
  cases h3
  simpa using h2

/-- A repaired pair is a K11C layout. -/
lemma repaired_sound {primary tail : Bytes} {sectors : UInt32} {pair}
    (h : repaired primary tail sectors = .ok pair) :
    requireK11c pair.1 pair.2 sectors = .ok () := by
  obtain ⟨_, _, h1⟩ := bind_ok.mp h
  obtain ⟨_, _, h2⟩ := bind_ok.mp h1
  obtain ⟨_, _, h3⟩ := bind_ok.mp h2
  obtain ⟨_, h4, h5⟩ := bind_ok.mp h3
  cases h5
  exact h4

end K11CHaos.Engine.Gpt
