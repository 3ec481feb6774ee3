import Mathlib.Data.List.Forall2
import K11CHaos.Scripts.Inspection

/-!
# The rows of an accepted array

The loop of `inspect_image` over the 128 entries gives one row for each entry in use, in order, so
rows 1 to 8 are the first eight entries and no other entry is in use.
-/

namespace K11CHaos.Scripts.GptImage
open Engine.Gpt

/-- The row of an entry in use. -/
structure Row (first last : Nat) (e : Bytes × Nat) (part : Part) : Prop where
  bounds : first ≤ part.start ∧ part.start ≤ part.stop ∧ part.stop ≤ last
  name : partName e.1 = .ok part.name
  row : part.row = e.2 + 1
  start : part.start = u64at e.1 32
  stop : part.stop = u64at e.1 40

/-- The entries in use with their indices, from an index on. -/
def used (index : Nat) (es : List Bytes) : List (Bytes × Nat) :=
  (es.zipIdx index).filter fun e => inUse e.1

/-- The entries in use, one at a time. -/
lemma used_cons {index : Nat} {e : Bytes} {es : List Bytes} :
    used index (e :: es) =
      if inUse e then (e, index) :: used (index + 1) es else used (index + 1) es := by
  unfold used
  rw [List.zipIdx_cons, List.filter_cons]

/-- A type GUID of zeros is an unused entry. -/
lemma not_inUse {e : Bytes} (len : e.length = 128) : slice e 0 16 = zeros 16 ↔ ¬ inUse e = true := by
  have size : (slice e 0 16).length = 16 := length_slice (by omega)
  rw [inUse, List.any_eq_true, zeros, List.eq_replicate_iff]
  simp only [bne_iff_ne, not_exists, not_and, not_not, size, true_and]

/-- `parts` has one row for each entry in use. -/
lemma partRows_ok {first last index : Nat} {es : List Bytes} {parts : List Part}
    (len : ∀ e ∈ es, e.length = 128) :
    partRows first last index es = .ok parts ↔
      List.Forall₂ (Row first last) (used index es) parts := by
  induction es generalizing index parts with
  | nil =>
    refine ⟨fun h => ?_, fun h => ?_⟩
    · cases h
      exact .nil
    · cases h
      rfl
  | cons e es ih =>
    have rest (parts : List Part) : partRows first last (index + 1) es = .ok parts ↔
        List.Forall₂ (Row first last) (used (index + 1) es) parts :=
      ih fun f hf => len f (List.mem_cons_of_mem _ hf)
    have unused := not_inUse (len e List.mem_cons_self)
    rw [partRows, used_cons]
    by_cases h : slice e 0 16 = zeros 16
    · rw [if_pos h, if_neg (unused.mp h), rest]
    · rw [if_neg h, if_pos (not_not.mp fun k => h (unused.mpr k))]
      simp only [bind_ok, require_ok]
      constructor
      · rintro ⟨_, b, name, hn, tl, ht, hr⟩
        cases hr
        exact .cons ⟨b, hn, rfl, rfl, rfl⟩ ((rest tl).mp ht)
      · rintro (_ | ⟨row, tail⟩)
        obtain ⟨b, hn, r1, r2, r3⟩ := row
        rw [r2, r3] at b
        refine ⟨(), b, _, hn, _, (rest _).mpr tail, ?_⟩
        rw [← r1, ← r2, ← r3]
        rfl

/-- More room behind the last usable sector leaves the rows as they are. -/
lemma partRows_mono {first last last' index : Nat} {es : List Bytes} {parts : List Part}
    (len : ∀ e ∈ es, e.length = 128)
    (more : last ≤ last')
    (h : partRows first last index es = .ok parts) : partRows first last' index es = .ok parts := by
  refine (partRows_ok len).mpr (((partRows_ok len).mp h).imp fun e part row => ?_)
  exact { row with bounds := ⟨row.bounds.1, row.bounds.2.1, Nat.le_trans row.bounds.2.2 more⟩ }

/-- The first and last sector of a row. -/
def Part.span (part : Part) : Nat × Nat :=
  (part.start, part.stop)

/-- Neighbours of mapped lists. -/
lemma windows2_map {α β : Type} {f : α → β} {l : List α} :
    windows2 (l.map f) = (windows2 l).map (Prod.map f f) := by
  rw [windows2, windows2, ← List.map_tail, List.zip_map]

/-- `sorted` finds no overlap exactly when no two rows meet. -/
lemma ordered_apart {parts : List Part} (ord : ∀ p ∈ parts, p.start ≤ p.stop) :
    (∀ r ∈ windows2 (ordered parts), r.1.stop < r.2.start) ↔
      (parts.map Part.span).Pairwise Apart := by
  have perm : (ordered parts).Perm parts := List.mergeSort_perm _ _
  have sorted : (ordered parts).Pairwise fun a b => a.start ≤ b.start := by
    refine (List.pairwise_mergeSort (fun a b c => ?_) (fun a b => ?_) parts).imp
      fun {a b} h => ?_
    · simp only [decide_eq_true_eq]
      omega
    · simp only [Bool.or_eq_true, decide_eq_true_eq]
      omega
    · simpa using h
  rw [← apart_iff (perm.map Part.span) (List.pairwise_map.mpr sorted) fun a ha => ?_]
  · rw [windows2_map, List.forall_mem_map]
    exact Iff.rfl
  · obtain ⟨p, hp, rfl⟩ := List.mem_map.mp ha
    exact ord p hp

/-- The entries of an array lie one after another. -/
lemma entries_get {x : Bytes} {j : Nat} (len : x.length = 16384) (h : j < 128) :
    (entries x)[j]? = some (slice x (128 * j) 128) := by
  rw [entries, List.getElem?_map, List.getElem?_range (by omega)]
  rfl

/-- An entry of an array is 128 bytes. -/
lemma length_entry {x e : Bytes} (len : x.length = 16384) (h : e ∈ entries x) :
    e.length = 128 := by
  obtain ⟨i, hi, rfl⟩ := List.mem_map.mp h
  have := List.mem_range.mp hi
  exact length_slice (by omega)

/-- The rows of an accepted array are the spans of the entries in use. -/
lemma spans_parts {first last : Nat} {x : Bytes} {parts : List Part}
    (rows : List.Forall₂ (Row first last) (used 0 (entries x)) parts) :
    spans x = parts.map Part.span := by
  have fst : (used 0 (entries x)).map Prod.fst = (entries x).filter inUse := by
    have e := List.filter_map (f := Prod.fst) (p := inUse) (l := (entries x).zipIdx)
    rw [List.zipIdx_map_fst] at e
    exact e.symm
  rw [spans, ← fst, List.map_map]
  generalize used 0 (entries x) = us at rows
  induction rows with
  | nil => rfl
  | cons row _ ih =>
    rw [List.map_cons, List.map_cons, ih, Part.span, row.start, row.stop]
    rfl

/-- Rows are numbered as their entries lie. -/
lemma rows_index {first last : Nat} {us : List (Bytes × Nat)} {parts : List Part}
    (rows : List.Forall₂ (Row first last) us parts) :
    us.map (·.2 + 1) = parts.map (·.row) := by
  induction rows with
  | nil => rfl
  | cons row _ ih => rw [List.map_cons, List.map_cons, ih, row.row]

section
variable {first last : Nat} {es : List Bytes} {parts : List Part}
  (rows : List.Forall₂ (Row first last) (used 0 es) parts)
  (eight : parts.map (·.row) = (List.range 8).map (· + 1))
include rows eight

/-- Rows 1 to 8 are the first eight entries. -/
lemma used_eight {j : Nat} (hj : j < 8) :
    ∃ e part, es[j]? = some e ∧ inUse e = true ∧ parts[j]? = some part ∧
      Row first last (e, j) part := by
  have numbers : (used 0 es).map (·.2 + 1) = (List.range 8).map (· + 1) :=
    (rows_index rows).trans eight
  have len : (used 0 es).length = 8 := by
    have := congrArg List.length numbers
    simpa using this
  have len' : parts.length = 8 := by
    have := congrArg List.length eight
    simpa using this
  have here := List.getElem?_eq_getElem (l := used 0 es) (i := j) (by omega)
  have there := List.getElem?_eq_getElem (l := parts) (i := j) (by omega)
  have at' : (used 0 es)[j].2 = j := by
    have := congrArg (·[j]?) numbers
    simp only [List.getElem?_map, here, List.getElem?_range hj, Option.map_some,
      Option.some.injEq] at this
    omega
  obtain ⟨mem, use⟩ := List.mem_filter.mp (List.getElem_mem (l := used 0 es) (n := j) (by omega))
  refine ⟨(used 0 es)[j].1, parts[j], ?_, use, there, ?_⟩
  · have := List.mem_zipIdx_iff_getElem?.mp mem
    rwa [at'] at this
  · have row := rows.get (i := j) (by omega) (by omega)
    have e : (used 0 es)[j] = ((used 0 es)[j].1, j) := Prod.ext rfl at'
    rw [← e]
    exact row

/-- No other entry is in use. -/
lemma used_lt {j : Nat} {e : Bytes} (h : es[j]? = some e) (use : inUse e = true) : j < 8 := by
  have mem : (e, j) ∈ used 0 es :=
    List.mem_filter.mpr ⟨List.mem_zipIdx_iff_getElem?.mpr h, use⟩
  have : j + 1 ∈ (List.range 8).map (· + 1) := by
    rw [← eight, ← rows_index rows]
    exact List.mem_map.mpr ⟨_, mem, rfl⟩
  obtain ⟨k, hk, e⟩ := List.mem_map.mp this
  have := List.mem_range.mp hk
  omega

end

/-- Every row lies in the usable sectors. -/
lemma Inspected.ranges {image : Bytes} {info : Info} (k : Inspected image info) :
    ∀ part ∈ info.parts, u64at info.primary 40 ≤ part.start ∧ part.start ≤ part.stop ∧
      part.stop ≤ u64at info.primary 48 := by
  have big := k.big
  have sized := k.sized
  have size : info.entries.length = 16384 := by
    rw [← k.entries]
    exact length_slice (by omega)
  have rows := (partRows_ok fun e he => length_entry size he).mp k.rows
  intro part hp
  obtain ⟨i, hi, rfl⟩ := List.getElem_of_mem hp
  exact (rows.get (i := i) (by rw [rows.length_eq]; exact hi) hi).bounds

end K11CHaos.Scripts.GptImage
