import Mathlib.Order.Defs.Unbundled
import K11CHaos.Lib.Prog

/-!
# What a program does to its environment

`Moves step R m s`: wherever a run of `m` from the state `s` of its environment is cut off, the states
before and after it are related by `R`. For a preorder `R` the rules follow the constructors of a program,
and a bound on the questions is enough where every step of such a question is in `R` (`Only.moves`).
-/

namespace K11CHaos.Prog

variable {O : Type} {A : O → Type} {ε α β σ : Type}
variable {step : σ → Ev O A → σ → Prop} {R : σ → σ → Prop}

/-- The states before and after every cut-off run are related. -/
def Moves (step : σ → Ev O A → σ → Prop) (R : σ → σ → Prop) (m : Prog O A ε α) (s : σ) : Prop :=
  ∀ ⦃t s'⦄, Begins m t → Lts.Path step s t s' → R s s'

variable {m : Prog O A ε α} {f : α → Prog O A ε β} {s : σ}

/-- A composition moves as its first part, and from where that has ended as the second. -/
lemma Moves.bind [IsTrans σ R] (hm : Moves step R m s)
    (hf : ∀ t a s1, Runs m t (.ok a) → Lts.Path step s t s1 → Moves step R (f a) s1) :
    Moves step R (m >>= f) s := by
  intro t s' h p
  obtain h | ⟨t1, a, t2, h1, h2, rfl⟩ := begins_bind h
  · exact hm h p
  · obtain ⟨s1, p1, p2⟩ := p.append_inv
    exact trans_of R (hm h1.whole p1) (hf t1 a s1 h1 p1 h2 p2)

/-- A composition of parts that move from every state. -/
lemma Moves.seq [IsTrans σ R] (hm : Moves step R m s) (hf : ∀ a s1, Moves step R (f a) s1) :
    Moves step R (m >>= f) s :=
  hm.bind fun _ a s1 _ _ => hf a s1

/-- A path whose steps are all related. -/
lemma path_moves [IsPreorder σ R] {t : List (Ev O A)} {s s' : σ} (p : Lts.Path step s t s')
    (h : ∀ e ∈ t, ∀ s s', step s e s' → R s s') : R s s' := by
  induction p with
  | nil => exact refl_of R _
  | cons st _ ih =>
    exact trans_of R (h _ List.mem_cons_self _ _ st) (ih fun e he => h e (List.mem_cons_of_mem _ he))

/-- What differs behind a path was changed by one of its steps. -/
lemma path_changed {L : Type} {step : σ → L → σ → Prop} {g : σ → β} {ls : List L} {s s' : σ}
    (p : Lts.Path step s ls s') (ne : g s' ≠ g s) :
    ∃ l1 l l2 s1 s2, ls = l1 ++ l :: l2 ∧ Lts.Path step s l1 s1 ∧ step s1 l s2 ∧ g s2 ≠ g s1 := by
  induction p with
  | nil => exact absurd rfl ne
  | @cons s l s1 ls s' st p ih =>
    by_cases same : g s1 = g s
    · rw [← same] at ne
      obtain ⟨l1, x, l2, s2, s3, rfl, p1, st', ne'⟩ := ih ne
      exact ⟨l :: l1, x, l2, s2, s3, rfl, .cons st p1, st', ne'⟩
    · exact ⟨[], l, ls, s, s1, rfl, .nil, st, same⟩

/-- A program whose questions all move. -/
lemma Only.moves [IsPreorder σ R] {p : O → Prop} (hm : m.Only p)
    (h : ∀ e : Ev O A, p e.1 → ∀ s s', step s e s' → R s s') : Moves step R m s :=
  fun _ _ hb path => path_moves path fun e he => h e (hm.begins hb e he)

end K11CHaos.Prog
