import Mathlib.Order.Lattice
import Mathlib.Data.List.Basic
import Mathlib.Tactic.Common

/-!
# Maps as lists in the order of their keys

A map is a list of pairs whose keys rise. `insert` puts a pair in its place and replaces the value of a
key that is there; `ofPairs` reads any list of pairs, a later pair of one key taking the place of an
earlier one. On a list whose keys already rise reading changes nothing (`ofPairs_sorted`).
-/

namespace K11CHaos.KeyMap

variable {K V W : Type} [LinearOrder K]

/-- The keys rise. -/
def Sorted (m : List (K × V)) : Prop :=
  m.Pairwise fun f g => f.1 < g.1

instance (m : List (K × V)) : Decidable (Sorted m) :=
  inferInstanceAs (Decidable (m.Pairwise _))

/-- Put a pair in its place. -/
def insert (k : K) (v : V) : List (K × V) → List (K × V)
  | [] => [(k, v)]
  | (l, w) :: m =>
    if k = l then (k, v) :: m
    else if k < l then (k, v) :: (l, w) :: m
    else (l, w) :: insert k v m

/-- The map of a list of pairs. -/
def ofPairs (fs : List (K × V)) : List (K × V) :=
  fs.foldl (fun m f => insert f.1 f.2 m) []

/-- The value of a key. -/
def find (m : List (K × V)) (k : K) : Option V :=
  (m.find? fun f => f.1 == k).map Prod.snd

/-- A key above all others goes to the end. -/
lemma insert_last {k : K} {v : V} {m : List (K × V)} (above : ∀ f ∈ m, f.1 < k) :
    insert k v m = m ++ [(k, v)] := by
  induction m with
  | nil => rfl
  | cons f m ih =>
    have lt := above f List.mem_cons_self
    rw [insert, if_neg lt.ne', if_neg lt.not_gt, ih fun g hg => above g (List.mem_cons_of_mem _ hg),
      List.cons_append]

/-- A list whose keys rise is its own map. -/
theorem ofPairs_sorted {fs : List (K × V)} (sorted : Sorted fs) : ofPairs fs = fs := by
  -- the pairs read so far stand in front of the rest
  have run : ∀ (fs m : List (K × V)), Sorted (m ++ fs) →
      fs.foldl (fun m f => insert f.1 f.2 m) m = m ++ fs := by
    intro fs
    induction fs with
    | nil =>
      intro m _
      rw [List.foldl_nil, List.append_nil]
    | cons f fs ih =>
      intro m sorted
      have above : ∀ g ∈ m, g.1 < f.1 := by
        intro g hg
        exact (List.pairwise_append.mp sorted).2.2 g hg f List.mem_cons_self
      rw [List.foldl_cons, insert_last above, ih _ (by rwa [List.append_assoc]), List.append_assoc]
      rfl
  exact run fs [] sorted

/-- Sortedness only depends on the keys. -/
lemma Sorted.congr {m : List (K × V)} {m' : List (K × W)} (keys : m'.map Prod.fst = m.map Prod.fst)
    (sorted : Sorted m) : Sorted m' := by
  have h := List.pairwise_map.mpr sorted
  rw [← keys] at h
  exact List.pairwise_map.mp h

end K11CHaos.KeyMap
