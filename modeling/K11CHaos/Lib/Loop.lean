import K11CHaos.Lib.Prog

/-!
# Loops of programs

A loop whose rounds are programs (`Prog`): a round ends with the state of the next one, with the result
of the loop, or with an error. Nothing bounds the number of rounds, so the meaning of a loop is a
relation on its finite traces (`Rounds`), those that are cut off included. The rule for a loop is its
invariant, over the state and the trace so far: it holds before the last round of every trace
(`Rounds.last`).
-/

namespace K11CHaos.Prog

variable {O : Type} {A : O → Type} {ε α σ : Type}

/-- The traces of a loop with their outcomes; `none` when the trace is cut off. -/
inductive Rounds (body : σ → Prog O A ε (σ ⊕ α)) :
    σ → List (Ev O A) → Option (Except ε α) → Prop where
  | cut {s t} :
    Begins (body s) t →
    Rounds body s t none
  | fail {s t e} :
    Runs (body s) t (.error e) →
    Rounds body s t (some (.error e))
  | done {s t a} :
    Runs (body s) t (.ok (.inr a)) →
    Rounds body s t (some (.ok a))
  | next {s t s' u r} :
    Runs (body s) t (.ok (.inl s')) →
    Rounds body s' u r →
    Rounds body s (t ++ u) r

/-- The last round of a trace: cut off, failed or done. -/
def Last (body : σ → Prog O A ε (σ ⊕ α)) (s : σ) (t : List (Ev O A)) :
    Option (Except ε α) → Prop
  | none => Begins (body s) t
  | some (.error e) => Runs (body s) t (.error e)
  | some (.ok a) => Runs (body s) t (.ok (.inr a))

variable {body : σ → Prog O A ε (σ ⊕ α)} {s : σ} {t u : List (Ev O A)} {r : Option (Except ε α)}

/-- The last round has begun. -/
lemma Last.begins (h : Last body s t r) : Begins (body s) t := by
  cases r with
  | none => exact h
  | some r =>
    cases r with
    | error e => exact Runs.whole h
    | ok a => exact Runs.whole h

/-- What every round keeps holds before the last round. -/
theorem Rounds.last {I : σ → List (Ev O A) → Prop}
    (keep : ∀ s t s' u, I s t → Runs (body s) u (.ok (.inl s')) → I s' (t ++ u))
    (h : Rounds body s u r) (start : I s t) :
    ∃ s' t1 t2, u = t1 ++ t2 ∧ I s' (t ++ t1) ∧ Last body s' t2 r := by
  induction h generalizing t with
  | cut h => exact ⟨_, [], _, rfl, (List.append_nil t).symm ▸ start, h⟩
  | fail h => exact ⟨_, [], _, rfl, (List.append_nil t).symm ▸ start, h⟩
  | done h => exact ⟨_, [], _, rfl, (List.append_nil t).symm ▸ start, h⟩
  | @next s v s' u r h _ ih =>
    obtain ⟨s'', t1, t2, rfl, inv, last⟩ := ih (keep _ _ _ _ start h)
    refine ⟨s'', v ++ t1, t2, (List.append_assoc v t1 t2).symm, ?_, last⟩
    rwa [← List.append_assoc]

/-- The same from the start of the loop. -/
lemma Rounds.from_start {I : σ → List (Ev O A) → Prop}
    (keep : ∀ s t s' u, I s t → Runs (body s) u (.ok (.inl s')) → I s' (t ++ u))
    (h : Rounds body s u r) (start : I s []) :
    ∃ s' t1 t2, u = t1 ++ t2 ∧ I s' t1 ∧ Last body s' t2 r :=
  h.last keep start

end K11CHaos.Prog
