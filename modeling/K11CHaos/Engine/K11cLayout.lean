import K11CHaos.Engine.GptHeader

/-!
# The K11C layout

What `require_k11c` accepts, as a proposition about the 128 entries of a healthy pair: the eight
partitions of HAOS by name, none of them below sector 34816, nothing in any other entry, and the
first one exactly at 34816. It does not say that the eight entries are in use.
-/

namespace K11CHaos.Engine.Gpt

/-- The loop of the engine accepts the eight labelled entries and zero ones after them. -/
lemma requireEntries_ok {i : Nat} {es : List Bytes} {u} :
    requireEntries i es = .ok u ↔ ∀ j e, es[j]? = some e →
      match labels[i + j]? with
      | none => ∀ b ∈ e, b = 0
      | some label => fromUtf16 (nameUnits e) = some label ∧ 34816 ≤ u64at e 32 := by
  induction es generalizing i with
  | nil => exact ⟨fun _ _ _ h => (nomatch h), fun _ => rfl⟩
  | cons e es ih =>
    have split : (∀ j f, (e :: es)[j]? = some f →
        match labels[i + j]? with
        | none => ∀ b ∈ f, b = 0
        | some label => fromUtf16 (nameUnits f) = some label ∧ 34816 ≤ u64at f 32) ↔
      (match labels[i]? with
        | none => ∀ b ∈ e, b = 0
        | some label => fromUtf16 (nameUnits e) = some label ∧ 34816 ≤ u64at e 32) ∧
      requireEntries (i + 1) es = .ok u := by
      rw [ih]
      constructor
      · intro h
        refine ⟨h 0 e rfl, fun j f hf => ?_⟩
        have := h (j + 1) f hf
        rwa [← Nat.add_assoc, Nat.add_right_comm] at this
      · rintro ⟨h0, h1⟩ j f hf
        cases j with
        | zero =>
          cases hf
          exact h0
        | succ j =>
          have := h1 j f hf
          rwa [Nat.add_right_comm, Nat.add_assoc] at this
    rw [split, requireEntries]
    cases labels[i]? with
    | none =>
      dsimp only
      split_ifs with h
      · refine ⟨nofun, fun k => ?_⟩
        obtain ⟨b, hb, nz⟩ := List.any_eq_true.mp h
        exact absurd (k.1 b hb) (by simpa using nz)
      · refine ⟨fun k => ⟨fun b hb => ?_, k⟩, And.right⟩
        refine not_not.mp fun nz => h (List.any_eq_true.mpr ⟨b, hb, by simpa using nz⟩)
    | some label =>
      dsimp only
      split_ifs with h
      · refine ⟨nofun, fun k => ?_⟩
        obtain named | low := h
        · exact absurd k.1.1 named
        · exact absurd k.1.2 (Nat.not_le.mpr low)
      · simp only [not_or, not_not, Nat.not_lt] at h
        exact ⟨fun k => ⟨h, k⟩, And.right⟩

/-- The engine's layout of a healthy pair. -/
lemma requireK11c_iff {primary tail : Bytes} {sectors : UInt32} {u} :
    requireK11c primary tail sectors = .ok u ↔
      Healthy primary tail sectors.toNat ∧
        requireEntries 0 (entries (primary.drop 1024)) = .ok () ∧
        u64at primary (1024 + 32) = 34816 := by
  simp only [requireK11c, bind_ok, deny_ok, not_not, healthy_iff]
  constructor
  · rintro ⟨_, h1, _, h2, h3⟩
    exact ⟨h1, h2, h3⟩
  · rintro ⟨h1, h2, h3⟩
    exact ⟨(), h1, (), h2, h3⟩

/-- The entry of an index. -/
def entryAt (primary : Bytes) (i : Nat) : Bytes :=
  slice primary (1024 + 128 * i) 128

/-- The walk over the entries meets each of the 128. -/
lemma entries_getElem {primary : Bytes} (len : primary.length = 34 * 512) {i : Nat} {e : Bytes} :
    (entries (primary.drop 1024))[i]? = some e ↔ i < 128 ∧ entryAt primary i = e := by
  have count : (primary.drop 1024).length / 128 = 128 := by
    rw [List.length_drop, len]
  rw [entries, count, List.getElem?_map]
  by_cases small : i < 128
  · rw [List.getElem?_range small, Option.map_some, Option.some_inj, slice_drop]
    exact ⟨fun h => ⟨small, h⟩, And.right⟩
  · rw [List.getElem?_eq_none (by rw [List.length_range]; omega)]
    exact ⟨nofun, fun h => absurd h.1 small⟩

/-- A layout that `require_k11c` accepts. -/
structure K11c (primary tail : Bytes) (sectors : Nat) : Prop where
  healthy : Healthy primary tail sectors
  named : ∀ i label, labels[i]? = some label →
    fromUtf16 (nameUnits (entryAt primary i)) = some label ∧ 34816 ≤ u64at (entryAt primary i) 32
  empty : ∀ i, 8 ≤ i → i < 128 → ∀ b ∈ entryAt primary i, b = 0
  first : u64at (entryAt primary 0) 32 = 34816

/-- The first sector of the first entry. -/
lemma entryAt_start {primary : Bytes} :
    u64at (entryAt primary 0) 32 = u64at primary (1024 + 32) := by
  rw [u64at, entryAt, slice_slice (by decide), u64at]

/-- `require_k11c` accepts exactly the K11C layouts. -/
theorem requireK11c_layout {primary tail : Bytes} {sectors : UInt32} {u} :
    requireK11c primary tail sectors = .ok u ↔ K11c primary tail sectors.toNat := by
  rw [requireK11c_iff, requireEntries_ok]
  simp only [Nat.zero_add]
  constructor
  · rintro ⟨healthy, walk, first⟩
    have each (i : Nat) (small : i < 128) :=
      walk i _ ((entries_getElem healthy.sizePrimary).mpr ⟨small, rfl⟩)
    refine ⟨healthy, fun i label known => ?_, fun i above small => ?_, ?_⟩
    · have small : i < labels.length := (List.getElem?_eq_some_iff.mp known).1
      have := each i (Nat.lt_trans small (by decide))
      rwa [known] at this
    · have := each i small
      rwa [List.getElem?_eq_none above] at this
    · rwa [entryAt_start]
  · intro k
    refine ⟨k.healthy, fun i e found => ?_, by rw [← entryAt_start]; exact k.first⟩
    obtain ⟨small, rfl⟩ := (entries_getElem k.healthy.sizePrimary).mp found
    cases known : labels[i]? with
    | none => exact k.empty i (List.getElem?_eq_none_iff.mp known) small
    | some label => exact k.named i label known

end K11CHaos.Engine.Gpt
