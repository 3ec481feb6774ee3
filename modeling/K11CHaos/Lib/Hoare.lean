import K11CHaos.Lib.Prog

/-!
# Postconditions of programs

What holds at the end of every run of a program in an environment (`Ensures`), as a recursion over the
program: an asked question may be answered in any way that the environment allows. A postcondition sees
the trace of the run with its result and its last state, so it can speak of what went wrong on the way.

The rules are those of a weakest precondition: a result ends in its postcondition, a composition hands
its first part's over to the second (`ensures_bind`), and a postcondition may be weakened
(`Ensures.mono`). `ensures_iff` is what the recursion means: all traces that are paths of the
environment. `Yields` is the postcondition of the runs that succeed.

`Leads` is the other direction, for a run that there is: a program may get from one state to another.

`Guards` says what holds whenever a program asks a question, of the trace before it and the state it is
asked in (`Guards.at`), also in a run that is cut off there. Its rule for a composition takes what the
first part yields.
-/

namespace K11CHaos.Prog

variable {O : Type} {A : O → Type} {ε α β σ : Type} {step : σ → Ev O A → σ → Prop}

/-- Every run of a program from a state ends in the postcondition. -/
def Ensures (step : σ → Ev O A → σ → Prop) :
    Prog O A ε α → σ → (List (Ev O A) → Except ε α → σ → Prop) → Prop
  | ret a, s, Q => Q [] (.ok a) s
  | fail e, s, Q => Q [] (.error e) s
  | ask o k, s, Q =>
    ∀ a s', step s ⟨o, a⟩ s' → Ensures step (k a) s' fun t => Q (⟨o, a⟩ :: t)

/-- A postcondition holds at the end of every trace that is a path of the environment. -/
theorem ensures_iff {m : Prog O A ε α} {s : σ} {Q : List (Ev O A) → Except ε α → σ → Prop} :
    Ensures step m s Q ↔ ∀ t r s', Runs m t r → Lts.Path step s t s' → Q t r s' := by
  induction m generalizing s Q with
  | ret a =>
    constructor
    · intro h t r s' run path
      cases run
      cases path
      exact h
    · intro h
      exact h _ _ _ .ret .nil
  | fail e =>
    constructor
    · intro h t r s' run path
      cases run
      cases path
      exact h
    · intro h
      exact h _ _ _ .fail .nil
  | ask o k ih =>
    constructor
    · intro h t r s' run path
      cases run with
      | ask run =>
        cases path with
        | cons st path => exact (ih _).mp (h _ _ st) _ _ _ run path
    · intro h a s1 st
      apply (ih a).mpr
      intro t r s' run path
      exact h _ _ _ (.ask run) (.cons st path)

/-- What a postcondition says of a run. -/
lemma Ensures.run {m : Prog O A ε α} {s s' : σ} {Q : List (Ev O A) → Except ε α → σ → Prop} {t r}
    (h : Ensures step m s Q)
    (run : Runs m t r)
    (path : Lts.Path step s t s') : Q t r s' :=
  ensures_iff.mp h t r s' run path

/-- A weaker postcondition. -/
lemma Ensures.mono {m : Prog O A ε α} {s : σ} {Q Q' : List (Ev O A) → Except ε α → σ → Prop}
    (h : Ensures step m s Q)
    (weaker : ∀ t r s', Q t r s' → Q' t r s') : Ensures step m s Q' := by
  rw [ensures_iff] at h ⊢
  exact fun t r s' run path => weaker t r s' (h t r s' run path)

/-- Two postconditions at once. -/
lemma Ensures.and {m : Prog O A ε α} {s : σ} {P Q : List (Ev O A) → Except ε α → σ → Prop}
    (h : Ensures step m s P)
    (h' : Ensures step m s Q) : Ensures step m s fun t r s' => P t r s' ∧ Q t r s' := by
  apply ensures_iff.mpr
  intro t r s' run path
  exact ⟨h.run run path, h'.run run path⟩

/-- A composition: the first part fails in the postcondition, or hands over to the second. -/
lemma ensures_bind {m : Prog O A ε α} {f : α → Prog O A ε β} {s : σ}
    {Q : List (Ev O A) → Except ε β → σ → Prop} :
    Ensures step (m >>= f) s Q ↔
      Ensures step m s fun t r s' =>
        match r with
        | .ok a => Ensures step (f a) s' fun u => Q (t ++ u)
        | .error e => Q t (.error e) s' := by
  induction m generalizing s Q with
  | ret a => exact Iff.rfl
  | fail e => exact Iff.rfl
  | ask o k ih => exact forall₃_congr fun a s' _ => ih a

/-- A composition whose first part has a known postcondition. -/
lemma Ensures.bind {m : Prog O A ε α} {f : α → Prog O A ε β} {s : σ}
    {P : List (Ev O A) → Except ε α → σ → Prop} {Q : List (Ev O A) → Except ε β → σ → Prop}
    (first : Ensures step m s P)
    (ok : ∀ t a s', P t (.ok a) s' → Ensures step (f a) s' fun u => Q (t ++ u))
    (error : ∀ t e s', P t (.error e) s' → Q t (.error e) s') :
    Ensures step (m >>= f) s Q := by
  rw [ensures_bind]
  apply first.mono
  intro t r s' h
  cases r with
  | ok a => exact ok t a s' h
  | error e => exact error t e s' h

/-- Every run of a program that succeeds ends in the postcondition. -/
def Yields (step : σ → Ev O A → σ → Prop) (m : Prog O A ε α) (s : σ)
    (Q : List (Ev O A) → α → σ → Prop) : Prop :=
  Ensures step m s fun t r s' => ∀ a, r = .ok a → Q t a s'

/-- What a run that succeeds ends in. -/
lemma Yields.run {m : Prog O A ε α} {s s' : σ} {Q : List (Ev O A) → α → σ → Prop} {t a}
    (h : Yields step m s Q)
    (run : Runs m t (.ok a))
    (path : Lts.Path step s t s') : Q t a s' :=
  Ensures.run h run path a rfl

/-- A weaker postcondition of the runs that succeed. -/
lemma Yields.mono {m : Prog O A ε α} {s : σ} {Q Q' : List (Ev O A) → α → σ → Prop}
    (h : Yields step m s Q)
    (weaker : ∀ t a s', Q t a s' → Q' t a s') : Yields step m s Q' :=
  Ensures.mono h fun t _ s' q a eq => weaker t a s' (q a eq)

/-- A result is what it yields. -/
lemma yields_pure {a : α} {s : σ} {Q : List (Ev O A) → α → σ → Prop}
    (h : Q [] a s) : Yields step (pure a : Prog O A ε α) s Q := by
  rintro _ ⟨⟩
  exact h

/-- An error yields nothing. -/
lemma yields_throw {e : ε} {s : σ} {Q : List (Ev O A) → α → σ → Prop} :
    Yields step (throw e : Prog O A ε α) s Q :=
  nofun

/-- A composition yields what its second part does after its first. -/
lemma Yields.bind {m : Prog O A ε α} {f : α → Prog O A ε β} {s : σ}
    {P : List (Ev O A) → α → σ → Prop} {Q : List (Ev O A) → β → σ → Prop}
    (first : Yields step m s P)
    (second : ∀ t a s', P t a s' → Yields step (f a) s' fun u => Q (t ++ u)) :
    Yields step (m >>= f) s Q := by
  apply Ensures.bind first
  · intro t a s' h
    exact second t a s' (h a rfl)
  · intro t e s' _ b eq
    cases eq

/-- Two postconditions at once. -/
lemma Yields.and {m : Prog O A ε α} {s : σ} {P Q : List (Ev O A) → α → σ → Prop}
    (h : Yields step m s P)
    (h' : Yields step m s Q) : Yields step m s fun t a s' => P t a s' ∧ Q t a s' := by
  apply ensures_iff.mpr
  rintro t _ s' run path a rfl
  exact ⟨h.run run path, h'.run run path⟩

/-- The questions of a run are within the bound of the program. -/
lemma Only.yields {p : O → Prop} {m : Prog O A ε α} {s : σ} (only : m.Only p) :
    Yields step m s fun t _ _ => ∀ e ∈ t, p e.1 := by
  apply ensures_iff.mpr
  rintro t _ s' run _ a rfl
  exact only.runs run

/-- A program yields its own runs. -/
lemma yields_runs {m : Prog O A ε α} {s : σ} : Yields step m s fun t a _ => Runs m t (.ok a) := by
  apply ensures_iff.mpr
  rintro t _ s' run _ a rfl
  exact run

/-- A run of a program that succeeds leads from a state to a state. -/
def Leads (step : σ → Ev O A → σ → Prop) (m : Prog O A ε α) (s : σ) (a : α) (s' : σ) : Prop :=
  ∃ t, Runs m t (.ok a) ∧ Lts.Path step s t s'

/-- A run that ends with a question. -/
def EndsWith (step : σ → Ev O A → σ → Prop) (m : Prog O A ε α) (s : σ) (e : Ev O A) (a : α)
    (s' : σ) : Prop :=
  ∃ t, Runs m (t ++ [e]) (.ok a) ∧ Lts.Path step s (t ++ [e]) s'

/-- A program that is done leads where it is. -/
lemma leads_pure {a : α} {s : σ} : Leads step (pure a : Prog O A ε α) s a s :=
  ⟨[], .ret, .nil⟩

/-- One program after another. -/
lemma Leads.bind {m : Prog O A ε α} {f : α → Prog O A ε β} {s s1 s2 : σ} {a b}
    (first : Leads step m s a s1)
    (second : Leads step (f a) s1 b s2) : Leads step (m >>= f) s b s2 := by
  obtain ⟨t, run, path⟩ := first
  obtain ⟨u, run', path'⟩ := second
  exact ⟨t ++ u, runs_bind_ok.mpr ⟨t, a, u, run, run', rfl⟩, path.append path'⟩

/-- The first program leads to where the second ends. -/
lemma Leads.endsWith {m : Prog O A ε α} {f : α → Prog O A ε β} {s s1 s2 : σ} {a b e}
    (first : Leads step m s a s1)
    (second : EndsWith step (f a) s1 e b s2) : EndsWith step (m >>= f) s e b s2 := by
  obtain ⟨t, run, path⟩ := first
  obtain ⟨u, run', path'⟩ := second
  refine ⟨t ++ u, ?_, ?_⟩
  · rw [List.append_assoc]
    exact runs_bind_ok.mpr ⟨t, a, _, run, run', rfl⟩
  · rw [List.append_assoc]
    exact path.append path'

/-- A check that passes leads nowhere else. -/
lemma leads_ofExcept {x : Except ε α} {a : α} {s : σ}
    (h : x = .ok a) : Leads step (ofExcept x : Prog O A ε α) s a s :=
  ⟨[], runs_ofExcept.mpr ⟨rfl, h.symm⟩, .nil⟩

/-- A question leads where its answer does. -/
lemma leads_call {B : O → Type} {step : σ → Ev O (fun o => Except ε (B o)) → σ → Prop} {o : O}
    {b : B o} {s s' : σ}
    (st : step s ⟨o, .ok b⟩ s') : Leads step (call o) s b s' :=
  ⟨_, runs_call.mpr rfl, .cons st .nil⟩

/-- A run that succeeds has no error to catch. -/
lemma Leads.attempt {m : Prog O A ε α} {s s' : σ} {a}
    (h : Leads step m s a s') : Leads step m.attempt s (.ok a) s' := by
  obtain ⟨t, run, path⟩ := h
  exact ⟨t, runs_attempt.mpr ⟨_, run, rfl⟩, path⟩

/-- A run of a program in a larger language. -/
lemma Leads.lift {P : Type} {B : P → Type} {φ : O → P} {step : σ → Ev P B → σ → Prop}
    {m : Prog O (fun o => B (φ o)) ε α} {s s' : σ} {a}
    (h : Leads (fun s e s' => step s ⟨φ e.1, e.2⟩ s') m s a s') :
    Leads step (m.lift φ) s a s' := by
  obtain ⟨t, run, path⟩ := h
  refine ⟨liftTrace φ t, runs_lift.mpr ⟨t, rfl, run⟩, ?_⟩
  clear run
  induction path with
  | nil => exact .nil
  | cons st _ ih => exact .cons st ih

/-- Whenever a program asks a question, the trace before it and the state meet its guard. -/
def Guards (step : σ → Ev O A → σ → Prop) (P : List (Ev O A) → σ → O → Prop) :
    Prog O A ε α → List (Ev O A) → σ → Prop
  | ret _, _, _ => True
  | fail _, _, _ => True
  | ask o k, t, s =>
    P t s o ∧ ∀ a s', step s ⟨o, a⟩ s' → Guards step P (k a) (t ++ [⟨o, a⟩]) s'

section Guards

variable {P : List (Ev O A) → σ → O → Prop}

/-- The guard of a question in a run, which may be cut off behind it: it holds in every state in which
    the run may ask it. -/
theorem Guards.at {m : Prog O A ε α} {s s' : σ} {past t u : List (Ev O A)} {e : Ev O A}
    (h : Guards step P m past s)
    (run : Begins m (t ++ e :: u))
    (path : Lts.Path step s t s') : P (past ++ t) s' e.1 := by
  induction t generalizing m s past with
  | nil =>
    cases run with
    | ask _ =>
      cases path with
      | nil => simpa using h.1
  | cons x t ih =>
    cases run with
    | ask run =>
      cases path with
      | cons st path => simpa using ih (h.2 _ _ st) run path

/-- Questions whose guards always hold. -/
lemma Only.guards {m : Prog O A ε α} {past s}
    (only : m.Only fun o => ∀ t s, P t s o) : Guards step P m past s := by
  induction m generalizing past s with
  | ret a => trivial
  | fail e => trivial
  | ask o k ih => exact ⟨only.1 past s, fun a s' _ => ih a (only.2 a)⟩

/-- A composition is guarded if its parts are, the second after what the first yields. -/
lemma Guards.bind {m : Prog O A ε α} {f : α → Prog O A ε β} {s : σ} {past}
    {Q : List (Ev O A) → α → σ → Prop}
    (guards : Guards step P m past s)
    (first : Yields step m s Q)
    (second : ∀ t a s', Q t a s' → Guards step P (f a) (past ++ t) s') :
    Guards step P (m >>= f) past s := by
  induction m generalizing s past Q with
  | ret a =>
    have rest := second [] a s (first a rfl)
    rw [List.append_nil] at rest
    exact rest
  | fail e => trivial
  | ask o k ih =>
    refine ⟨guards.1, fun a s' st => ih a (guards.2 a s' st) (first a s' st) ?_⟩
    intro t b s'' q
    simpa using second _ b s'' q

/-- Questions whose guards always hold come before others. -/
lemma Only.guards_bind {m : Prog O A ε α} {f : α → Prog O A ε β} {s : σ} {past}
    (only : m.Only fun o => ∀ t s, P t s o)
    (second : ∀ t a s', Runs m t (.ok a) → Guards step P (f a) (past ++ t) s') :
    Guards step P (m >>= f) past s :=
  Guards.bind only.guards yields_runs second

/-- The guards of a program whose error is caught. -/
lemma Guards.attempt {m : Prog O A ε α} {s : σ} {past}
    (h : Guards step P m past s) : Guards step P m.attempt past s := by
  induction m generalizing s past with
  | ret a => trivial
  | fail e => trivial
  | ask o k ih => exact ⟨h.1, fun a s' st => ih a (h.2 a s' st)⟩

end Guards

end K11CHaos.Prog
