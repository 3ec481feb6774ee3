import Mathlib.Tactic.Common
import K11CHaos.Lib.Lts

/-!
# Programs and their traces

A program asks its environment questions `o : O`, each answered in `A o`, and ends with a value or
with an error (`Prog`). Its meaning is the set of its traces: `Runs m t r` says that `m`, answered as
the trace `t` records, asks exactly the questions of `t` and ends with `r`. Nothing is assumed of the
answers, so a fact about all traces holds against every environment, and an environment is a step
relation that the trace is a path of.

The rules follow the constructors: a trace of `m >>= f` is a trace of `m` and one of `f`
(`runs_bind`), a caught error keeps the trace (`runs_attempt`), and a bound on the questions that a
program can ask is kept by composition (`Only`). `run` answers with a function of a state; its
outcome is the one of a trace (`run_runs`), so what all traces do, it does.
-/

namespace K11CHaos

/-- Programs with questions in `O`, answers in `A`, errors in `ε` and a result in `α`. -/
inductive Prog (O : Type) (A : O → Type) (ε α : Type) where
  | ret (a : α)
  | fail (e : ε)
  | ask (o : O) (k : A o → Prog O A ε α)

namespace Prog

variable {O : Type} {A : O → Type} {ε α β : Type}

/-- Continue after the value of a program. -/
def bind : Prog O A ε α → (α → Prog O A ε β) → Prog O A ε β
  | ret a, f => f a
  | fail e, _ => fail e
  | ask o k, f => ask o fun a => (k a).bind f

instance : Monad (Prog O A ε) where
  pure := ret
  bind := bind

/-- Continue after the error of a program. -/
def handle : Prog O A ε α → (ε → Prog O A ε α) → Prog O A ε α
  | ret a, _ => ret a
  | fail e, h => h e
  | ask o k, h => ask o fun a => (k a).handle h

instance : MonadExcept ε (Prog O A ε) where
  throw := fail
  tryCatch := handle

/-- A pure result in a program. -/
def ofExcept : Except ε α → Prog O A ε α
  | .ok a => ret a
  | .error e => fail e

/-- The result of a program, an error included. -/
def attempt : Prog O A ε α → Prog O A ε (Except ε α)
  | ret a => ret (.ok a)
  | fail e => ret (.error e)
  | ask o k => ask o fun a => (k a).attempt

/-- A question with its answer. -/
abbrev Ev (O : Type) (A : O → Type) := (o : O) × A o

/-- `m` asks the questions of a trace, is answered as it records, and ends with a result. -/
inductive Runs : Prog O A ε α → List (Ev O A) → Except ε α → Prop where
  | ret {a} :
    Runs (ret a) [] (.ok a)
  | fail {e} :
    Runs (fail e) [] (.error e)
  | ask {o k a t r} :
    Runs (k a) t r →
    Runs (ask o k) (⟨o, a⟩ :: t) r

/-- `m` asks the questions of a trace, is answered as it records, and is cut off there. -/
inductive Begins : Prog O A ε α → List (Ev O A) → Prop where
  | stop {m} :
    Begins m []
  | ask {o k a t} :
    Begins (k a) t →
    Begins (ask o k) (⟨o, a⟩ :: t)

/-- A program that is done asks nothing. -/
lemma runs_ret {a : α} {t r} :
    Runs (ret a : Prog O A ε α) t r ↔ t = [] ∧ r = .ok a := by
  refine ⟨fun h => ?_, ?_⟩
  · cases h; exact ⟨rfl, rfl⟩
  · rintro ⟨rfl, rfl⟩; exact .ret

/-- The same for `pure`. -/
@[simp] lemma runs_pure {a : α} {t r} :
    Runs (pure a : Prog O A ε α) t r ↔ t = [] ∧ r = .ok a :=
  runs_ret

/-- An error ends a program at once. -/
@[simp] lemma runs_throw {e : ε} {t r} :
    Runs (throw e : Prog O A ε α) t r ↔ t = [] ∧ r = .error e := by
  refine ⟨fun h => ?_, ?_⟩
  · cases h; exact ⟨rfl, rfl⟩
  · rintro ⟨rfl, rfl⟩; exact .fail

/-- A result that is known asks nothing. -/
@[simp] lemma runs_ofExcept {x : Except ε α} {t r} :
    Runs (ofExcept x : Prog O A ε α) t r ↔ t = [] ∧ r = x := by
  cases x with
  | ok a => exact runs_ret
  | error e => exact runs_throw

/-- A trace of a composition: the first part fails, or it hands over to the second. -/
lemma runs_bind {m : Prog O A ε α} {f : α → Prog O A ε β} {t r} :
    Runs (m >>= f) t r ↔
      (∃ e, Runs m t (.error e) ∧ r = .error e) ∨
      ∃ t1 a t2, Runs m t1 (.ok a) ∧ Runs (f a) t2 r ∧ t = t1 ++ t2 := by
  refine ⟨fun h => ?_, ?_⟩
  · induction m generalizing t with
    | ret a => exact .inr ⟨[], a, t, .ret, h, rfl⟩
    | fail e =>
      cases h
      exact .inl ⟨e, .fail, rfl⟩
    | ask o k ih =>
      cases h with
      | ask h =>
        obtain ⟨e, he, rfl⟩ | ⟨t1, a, t2, h1, h2, rfl⟩ := ih _ h
        · exact .inl ⟨e, .ask he, rfl⟩
        · exact .inr ⟨_, a, t2, .ask h1, h2, rfl⟩
  · rintro (⟨e, h, rfl⟩ | ⟨t1, a, t2, h1, h2, rfl⟩)
    · generalize hr : (Except.error e : Except ε α) = r at h
      induction h with
      | ret => cases hr
      | fail => cases hr; exact .fail
      | ask _ ih => exact .ask (ih hr)
    · generalize hr : (Except.ok a : Except ε α) = r' at h1
      induction h1 with
      | ret => cases hr; exact h2
      | fail => cases hr
      | ask _ ih => exact .ask (ih hr)

/-- Composition is associative. -/
lemma bind_assoc {γ : Type} {m : Prog O A ε α} {f : α → Prog O A ε β} {g : β → Prog O A ε γ} :
    m >>= f >>= g = m >>= fun a => f a >>= g := by
  induction m with
  | ret a => rfl
  | fail e => rfl
  | ask o k ih => exact congrArg (ask o) (funext ih)

/-- What is left of a trace after its first part. -/
lemma Runs.resume {m : Prog O A ε α} {f : α → Prog O A ε β} {t u a r}
    (first : Runs m t (.ok a)) (h : Runs (m >>= f) (t ++ u) r) : Runs (f a) u r := by
  generalize hx : (Except.ok a : Except ε α) = x at first
  induction first with
  | ret =>
    cases hx
    exact h
  | fail => cases hx
  | ask _ ih =>
    cases h with
    | ask h => exact ih h hx

/-- A trace of a composition that succeeds. -/
lemma runs_bind_ok {m : Prog O A ε α} {f : α → Prog O A ε β} {t b} :
    Runs (m >>= f) t (.ok b) ↔
      ∃ t1 a t2, Runs m t1 (.ok a) ∧ Runs (f a) t2 (.ok b) ∧ t = t1 ++ t2 := by
  refine ⟨fun h => ?_, fun h => runs_bind.mpr (.inr h)⟩
  obtain ⟨e, _, h⟩ | h := runs_bind.mp h
  · cases h
  · exact h

/-- A trace of a composition that fails. -/
lemma runs_bind_error {m : Prog O A ε α} {f : α → Prog O A ε β} {t e} :
    Runs (m >>= f) t (.error e) ↔
      Runs m t (.error e) ∨
      ∃ t1 a t2, Runs m t1 (.ok a) ∧ Runs (f a) t2 (.error e) ∧ t = t1 ++ t2 := by
  refine ⟨fun h => ?_, ?_⟩
  · obtain ⟨e', h, he⟩ | h := runs_bind.mp h
    · cases he
      exact .inl h
    · exact .inr h
  · rintro (h | h)
    · exact runs_bind.mpr (.inl ⟨e, h, rfl⟩)
    · exact runs_bind.mpr (.inr h)

/-- A cut-off trace of a composition. -/
lemma begins_bind {m : Prog O A ε α} {f : α → Prog O A ε β} {t} (h : Begins (m >>= f) t) :
    Begins m t ∨ ∃ t1 a t2, Runs m t1 (.ok a) ∧ Begins (f a) t2 ∧ t = t1 ++ t2 := by
  induction m generalizing t with
  | ret a => exact .inr ⟨[], a, t, .ret, h, rfl⟩
  | fail e =>
    cases h
    exact .inl .stop
  | ask o k ih =>
    cases h with
    | stop => exact .inl .stop
    | ask h =>
      obtain h | ⟨t1, a, t2, h1, h2, rfl⟩ := ih _ h
      · exact .inl (.ask h)
      · exact .inr ⟨_, a, t2, .ask h1, h2, rfl⟩

/-- A change of the value asks nothing. -/
lemma begins_map {m : Prog O A ε α} {g : α → β} {t} (h : Begins (m >>= fun a => pure (g a)) t) :
    Begins m t := by
  induction m generalizing t with
  | ret a =>
    cases h
    exact .stop
  | fail e =>
    cases h
    exact .stop
  | ask o k ih =>
    cases h with
    | stop => exact .stop
    | ask h => exact .ask (ih _ h)

/-- A caught error keeps the trace. -/
@[simp] lemma runs_attempt {m : Prog O A ε α} {t r} :
    Runs m.attempt t r ↔ ∃ r', Runs m t r' ∧ r = .ok r' := by
  refine ⟨fun h => ?_, ?_⟩
  · induction m generalizing t with
    | ret a =>
      cases h
      exact ⟨_, .ret, rfl⟩
    | fail e =>
      cases h
      exact ⟨_, .fail, rfl⟩
    | ask o k ih =>
      cases h with
      | ask h =>
        obtain ⟨r', hr, rfl⟩ := ih _ h
        exact ⟨r', .ask hr, rfl⟩
  · rintro ⟨r', h, rfl⟩
    induction h with
    | ret => exact .ret
    | fail => exact .ret
    | ask _ ih => exact .ask ih

/-- A caught error keeps a cut-off trace. -/
@[simp] lemma begins_attempt {m : Prog O A ε α} {t} : Begins m.attempt t ↔ Begins m t := by
  refine ⟨fun h => ?_, fun h => ?_⟩
  · induction m generalizing t with
    | ret a => cases h; exact .stop
    | fail e => cases h; exact .stop
    | ask o k ih =>
      cases h with
      | stop => exact .stop
      | ask h => exact .ask (ih _ h)
  · induction h with
    | stop => exact .stop
    | ask _ ih => exact .ask ih

/-- The traces of a known result. -/
@[simp] lemma begins_ofExcept {x : Except ε α} {t} :
    Begins (ofExcept x : Prog O A ε α) t ↔ t = [] := by
  refine ⟨fun h => ?_, ?_⟩
  · cases x <;> cases h <;> rfl
  · rintro rfl
    exact .stop

/-- A whole run is one that was cut off at its end. -/
lemma Runs.whole {m : Prog O A ε α} {t r} (h : Runs m t r) : Begins m t := by
  induction h with
  | ret => exact .stop
  | fail => exact .stop
  | ask _ ih => exact .ask ih

/-- All questions that a program can ever ask are in `p`. -/
def Only (p : O → Prop) : Prog O A ε α → Prop
  | ret _ => True
  | fail _ => True
  | ask o k => p o ∧ ∀ a, (k a).Only p

/-- `pure` asks nothing. -/
@[simp] lemma only_pure {p : O → Prop} {a : α} : Only p (pure a : Prog O A ε α) :=
  trivial

/-- An error asks nothing. -/
@[simp] lemma only_throw {p : O → Prop} {e : ε} : Only p (throw e : Prog O A ε α) :=
  trivial

/-- A known result asks nothing. -/
@[simp] lemma only_ofExcept {p : O → Prop} {x : Except ε α} :
    Only p (ofExcept x : Prog O A ε α) := by
  cases x <;> trivial

/-- A bound on the questions is kept by composition, over the values that the first part can have. -/
lemma Only.bind_runs {p : O → Prop} {m : Prog O A ε α} {f : α → Prog O A ε β}
    (hm : m.Only p) (hf : ∀ t a, Runs m t (.ok a) → (f a).Only p) : (m >>= f).Only p := by
  induction m with
  | ret a => exact hf [] a .ret
  | fail e => trivial
  | ask o k ih => exact ⟨hm.1, fun a => ih a (hm.2 a) fun t b h => hf _ b (.ask h)⟩

/-- A bound on the questions is kept by composition. -/
lemma Only.bind {p : O → Prop} {m : Prog O A ε α} {f : α → Prog O A ε β}
    (hm : m.Only p) (hf : ∀ a, (f a).Only p) : (m >>= f).Only p :=
  hm.bind_runs fun _ a _ => hf a

/-- Catching an error asks nothing more. -/
lemma Only.attempt {p : O → Prop} {m : Prog O A ε α} (hm : m.Only p) : m.attempt.Only p := by
  induction m with
  | ret a => trivial
  | fail e => trivial
  | ask o k ih => exact ⟨hm.1, fun a => ih a (hm.2 a)⟩

/-- A weaker condition on the questions. -/
lemma Only.mono {p q : O → Prop} {m : Prog O A ε α} (hm : m.Only p) (h : ∀ o, p o → q o) :
    m.Only q := by
  induction m with
  | ret a => trivial
  | fail e => trivial
  | ask o k ih => exact ⟨h o hm.1, fun a => ih a (hm.2 a)⟩

/-- The questions of a trace are within the bound. -/
lemma Only.begins {p : O → Prop} {m : Prog O A ε α} {t} (hm : m.Only p) (h : Begins m t) :
    ∀ e ∈ t, p e.1 := by
  induction h with
  | stop => nofun
  | ask _ ih =>
    intro e he
    obtain rfl | he := List.mem_cons.mp he
    · exact hm.1
    · exact ih (hm.2 _) e he

/-- Every question of a run is one of the program's own. -/
lemma Only.runs {p : O → Prop} {m : Prog O A ε α} {t r} (hm : m.Only p) (h : Runs m t r) :
    ∀ e ∈ t, p e.1 :=
  hm.begins h.whole

/-- A question that the first part of a composition never asks is asked by the second. -/
lemma Runs.reached {p : O → Prop} {m : Prog O A ε α} {f : α → Prog O A ε β} {t r}
    (h : Runs (m >>= f) t r) (hm : m.Only p) {e : Ev O A} (he : e ∈ t) (hp : ¬ p e.1) :
    ∃ t1 a t2, Runs m t1 (.ok a) ∧ Runs (f a) t2 r ∧ t = t1 ++ t2 ∧ e ∈ t2 := by
  obtain ⟨_, h1, _⟩ | ⟨t1, a, t2, h1, h2, rfl⟩ := runs_bind.mp h
  · exact absurd (hm.runs h1 e he) hp
  · obtain he | he := List.mem_append.mp he
    · exact absurd (hm.runs h1 e he) hp
    · exact ⟨t1, a, t2, h1, h2, rfl, he⟩

/-- A question that the first part never asks is asked by the second, also in a cut-off trace. -/
lemma Begins.reached {p : O → Prop} {m : Prog O A ε α} {f : α → Prog O A ε β} {t}
    (h : Begins (m >>= f) t) (hm : m.Only p) {e : Ev O A} (he : e ∈ t) (hp : ¬ p e.1) :
    ∃ t1 a t2, Runs m t1 (.ok a) ∧ Begins (f a) t2 ∧ t = t1 ++ t2 ∧ e ∈ t2 := by
  obtain h1 | ⟨t1, a, t2, h1, h2, rfl⟩ := begins_bind h
  · exact absurd (hm.begins h1 e he) hp
  · obtain he | he := List.mem_append.mp he
    · exact absurd (hm.runs h1 e he) hp
    · exact ⟨t1, a, t2, h1, h2, rfl, he⟩

/-- A question that the second part of a composition never asks is asked by the first. -/
lemma Begins.asked_before {p : O → Prop} {m : Prog O A ε α} {f : α → Prog O A ε β}
    {b : List (Ev O A)} {e : Ev O A} {u} (h : Begins (m >>= f) (b ++ e :: u))
    (hf : ∀ a, (f a).Only p) (hp : ¬ p e.1) :
    ∃ u1 u2, u = u1 ++ u2 ∧ Begins m (b ++ e :: u1) ∧ ∀ x ∈ u2, p x.1 := by
  obtain h1 | ⟨t1, a, t2, h1, h2, eq⟩ := begins_bind h
  · exact ⟨u, [], (List.append_nil u).symm, h1, fun x hx => absurd hx List.not_mem_nil⟩
  · have later := (hf a).begins h2
    obtain ⟨x, rfl, e2⟩ | ⟨x, -, rfl⟩ := List.append_eq_append_iff.mp eq
    · cases x with
      | nil =>
        rw [List.nil_append] at e2
        exact absurd (later e (e2 ▸ List.mem_cons_self)) hp
      | cons y x =>
        obtain ⟨rfl, rfl⟩ := List.cons.inj e2
        exact ⟨x, t2, rfl, h1.whole, later⟩
    · exact absurd (later e (List.mem_append_right x List.mem_cons_self)) hp

/-- No trace asks more than `n` questions in `p`. -/
def AtMost (p : O → Bool) (n : Nat) (m : Prog O A ε α) : Prop :=
  ∀ t, Begins m t → t.countP (fun e => p e.1) ≤ n

/-- A program without such questions asks none of them. -/
lemma Only.atMost {p : O → Bool} {m : Prog O A ε α} (hm : m.Only (p · = false)) : m.AtMost p 0 := by
  intro t h
  rw [Nat.le_zero, List.countP_eq_zero]
  intro e he
  rw [hm.begins h e he]
  exact Bool.false_ne_true

/-- A weaker bound. -/
lemma AtMost.mono {p : O → Bool} {k n : Nat} {m : Prog O A ε α} (hm : m.AtMost p k) (h : k ≤ n) :
    m.AtMost p n :=
  fun t ht => Nat.le_trans (hm t ht) h

/-- Bounds of the parts of a composition add up. -/
lemma AtMost.bind {p : O → Bool} {k n : Nat} {m : Prog O A ε α} {f : α → Prog O A ε β}
    (hm : m.AtMost p k) (hf : ∀ a, (f a).AtMost p n) : (m >>= f).AtMost p (k + n) := by
  intro t h
  obtain h | ⟨t1, a, t2, h1, h2, rfl⟩ := begins_bind h
  · exact Nat.le_add_right_of_le (hm t h)
  · rw [List.countP_append]
    exact Nat.add_le_add (hm t1 h1.whole) (hf a t2 h2)

/-- A part that asks nothing in `p` does not count. -/
lemma Only.bind_atMost {p : O → Bool} {n : Nat} {m : Prog O A ε α} {f : α → Prog O A ε β}
    (hm : m.Only (p · = false)) (hf : ∀ a, (f a).AtMost p n) : (m >>= f).AtMost p n :=
  (hm.atMost.bind hf).mono (Nat.le_of_eq (Nat.zero_add n))

/-- Catching an error asks no more often. -/
lemma AtMost.attempt {p : O → Bool} {n : Nat} {m : Prog O A ε α} (hm : m.AtMost p n) :
    m.attempt.AtMost p n :=
  fun t h => hm t (begins_attempt.mp h)

/-- A trace that was cut off, or one that ends with a result. -/
def Traces (m : Prog O A ε α) (t : List (Ev O A)) : Option (Except ε α) → Prop
  | none => Begins m t
  | some r => Runs m t r

/-- The trace of a run that was cut off is the beginning of a trace. -/
lemma Traces.begins {m : Prog O A ε α} {t r} (h : Traces m t r) : Begins m t := by
  cases r with
  | none => exact h
  | some r => exact Runs.whole h

/-- A trace of a composition is one of the first part only, or it hands over to the second. -/
lemma Traces.bind_inv {m : Prog O A ε α} {f : α → Prog O A ε β} {t r} (h : Traces (m >>= f) t r) :
    Begins m t ∨ ∃ t1 a t2, Runs m t1 (.ok a) ∧ Traces (f a) t2 r ∧ t = t1 ++ t2 := by
  cases r with
  | none => exact begins_bind h
  | some r =>
    obtain ⟨e, h, _⟩ | h := runs_bind.mp h
    · exact .inl h.whole
    · exact .inr h

/-- A question that the first part never asks is asked by the second, whether the trace ends or not. -/
lemma Traces.reached {p : O → Prop} {m : Prog O A ε α} {f : α → Prog O A ε β} {t r}
    (h : Traces (m >>= f) t r) (hm : m.Only p) {e : Ev O A} (he : e ∈ t) (hp : ¬ p e.1) :
    ∃ t1 a t2, Runs m t1 (.ok a) ∧ Traces (f a) t2 r ∧ t = t1 ++ t2 ∧ e ∈ t2 := by
  cases r with
  | none => exact Begins.reached h hm he hp
  | some r => exact Runs.reached h hm he hp

/-- Where a question that the first part never asks stands in a trace. -/
lemma Traces.reached_at {p : O → Prop} {m : Prog O A ε α} {f : α → Prog O A ε β} {t r}
    (h : Traces (m >>= f) t r) (hm : m.Only p) {b : List (Ev O A)} {e : Ev O A} {u}
    (he : t = b ++ e :: u) (hp : ¬ p e.1) :
    ∃ t1 a b2, Runs m t1 (.ok a) ∧ b = t1 ++ b2 ∧ Traces (f a) (b2 ++ e :: u) r := by
  subst he
  obtain h1 | ⟨t1, a, t2, h1, h2, eq⟩ := h.bind_inv
  · exact absurd (hm.begins h1 e (List.mem_append_right b List.mem_cons_self)) hp
  · obtain ⟨x, e1, e2⟩ | ⟨x, e1, e2⟩ := List.append_eq_append_iff.mp eq
    · cases x with
      | nil =>
        rw [List.append_nil] at e1
        rw [List.nil_append] at e2
        exact ⟨t1, a, [], h1, by rw [e1, List.append_nil], by rwa [List.nil_append, e2]⟩
      | cons y x =>
        obtain ⟨rfl, -⟩ := List.cons.inj e2
        rw [e1] at h1
        exact absurd (hm.runs h1 e (List.mem_append_right b List.mem_cons_self)) hp
    · exact ⟨t1, a, x, h1, e1, e2 ▸ h2⟩

/-- A composition after a caught error: the first part is cut off, or it ends and is continued. -/
lemma Traces.attempt {m : Prog O A ε α} {f : Except ε α → Prog O A ε β} {t r}
    (h : Traces (m.attempt >>= f) t r) :
    (r = none ∧ Begins m t) ∨ ∃ t1 x t2, Runs m t1 x ∧ Traces (f x) t2 r ∧ t = t1 ++ t2 := by
  cases r with
  | none =>
    obtain h | ⟨t1, x, t2, h1, h2, rfl⟩ := begins_bind h
    · exact .inl ⟨rfl, begins_attempt.mp h⟩
    · obtain ⟨x', h1, hx⟩ := runs_attempt.mp h1
      cases hx
      exact .inr ⟨t1, x, t2, h1, h2, rfl⟩
  | some r =>
    obtain ⟨e, h, _⟩ | ⟨t1, x, t2, h1, h2, rfl⟩ := runs_bind.mp h
    · obtain ⟨x', _, hx⟩ := runs_attempt.mp h
      cases hx
    · obtain ⟨x', h1, hx⟩ := runs_attempt.mp h1
      cases hx
      exact .inr ⟨t1, x, t2, h1, h2, rfl⟩

section Run

variable {σ : Type} {step : σ → (o : O) → A o × σ}

/-- The outcome under an environment that answers by a function of its state. -/
def run (step : σ → (o : O) → A o × σ) : Prog O A ε α → σ → Except ε α × σ
  | ret a, s => (.ok a, s)
  | fail e, s => (.error e, s)
  | ask o k, s => (k (step s o).1).run step (step s o).2

/-- `pure` leaves the state alone. -/
@[simp] lemma run_pure {a : α} {s : σ} : run step (pure a : Prog O A ε α) s = (.ok a, s) :=
  rfl

/-- A known result leaves the state alone. -/
@[simp] lemma run_ofExcept {x : Except ε α} {s : σ} :
    run step (ofExcept x : Prog O A ε α) s = (x, s) := by
  cases x <;> rfl

/-- The outcome of a composition. -/
lemma run_bind {m : Prog O A ε α} {f : α → Prog O A ε β} {s : σ} :
    run step (m >>= f) s =
      match run step m s with
      | (.ok a, s') => run step (f a) s'
      | (.error e, s') => (.error e, s') := by
  induction m generalizing s with
  | ret a => rfl
  | fail e => rfl
  | ask o k ih => exact ih _

/-- The outcome after a part that succeeds. -/
lemma run_bind_ok {m : Prog O A ε α} {f : α → Prog O A ε β} {s s' : σ} {a}
    (h : run step m s = (.ok a, s')) : run step (m >>= f) s = run step (f a) s' := by
  rw [run_bind, h]

/-- A caught error keeps the state it happened in. -/
@[simp] lemma run_attempt {m : Prog O A ε α} {s : σ} :
    run step m.attempt s = (.ok (run step m s).1, (run step m s).2) := by
  induction m generalizing s with
  | ret a => rfl
  | fail e => rfl
  | ask o k ih => exact ih _

/-- The steps of an environment that answers by a function. -/
def Answers (step : σ → (o : O) → A o × σ) (s : σ) (e : Ev O A) (s' : σ) : Prop :=
  step s e.1 = (e.2, s')

/-- The outcome under a function is the one of a trace that the function answers. -/
lemma run_runs (m : Prog O A ε α) (s : σ) :
    ∃ t, Runs m t (run step m s).1 ∧ Lts.Path (Answers step) s t (run step m s).2 := by
  induction m generalizing s with
  | ret a => exact ⟨[], .ret, .nil⟩
  | fail e => exact ⟨[], .fail, .nil⟩
  | ask o k ih =>
    obtain ⟨t, h, p⟩ := ih (step s o).1 (step s o).2
    exact ⟨⟨o, (step s o).1⟩ :: t, .ask h, .cons rfl p⟩

/-- The trace under an environment that answers by a function of its state. -/
def trace (step : σ → (o : O) → A o × σ) : Prog O A ε α → σ → List (Ev O A)
  | ret _, _ => []
  | fail _, _ => []
  | ask o k, s => ⟨o, (step s o).1⟩ :: (k (step s o).1).trace step (step s o).2

/-- What a run on a state asks and gets is one of the program's traces. -/
lemma runs_trace (m : Prog O A ε α) (s : σ) : Runs m (m.trace step s) (m.run step s).1 := by
  induction m generalizing s with
  | ret a => exact .ret
  | fail e => exact .fail
  | ask o k ih => exact .ask (ih _ _)

end Run

/-- A question whose answer is read: it gives a value, or an error that ends the program. -/
def asked (o : O) (f : A o → Except ε α) : Prog O A ε α :=
  .ask o fun a => ofExcept (f a)

/-- One question, and what is made of the answer. -/
@[simp] lemma runs_asked {o : O} {f : A o → Except ε α} {t r} :
    Runs (asked o f) t r ↔ ∃ a, t = [⟨o, a⟩] ∧ r = f a := by
  refine ⟨fun h => ?_, ?_⟩
  · cases h with
    | @ask _ _ a _ _ h =>
      obtain ⟨rfl, rfl⟩ := runs_ofExcept.mp h
      exact ⟨a, rfl, rfl⟩
  · rintro ⟨a, rfl, rfl⟩
    exact .ask (runs_ofExcept.mpr ⟨rfl, rfl⟩)

/-- A run that asks first and succeeds. -/
lemma runs_asked_bind_ok {o : O} {f : A o → Except ε α} {k : α → Prog O A ε β} {t b} :
    Runs (asked o f >>= k) t (.ok b) ↔
      ∃ x a t', f x = .ok a ∧ t = ⟨o, x⟩ :: t' ∧ Runs (k a) t' (.ok b) := by
  refine ⟨fun h => ?_, ?_⟩
  · obtain ⟨t1, a, t2, h1, h2, rfl⟩ := runs_bind_ok.mp h
    obtain ⟨x, rfl, e⟩ := runs_asked.mp h1
    exact ⟨x, a, t2, e.symm, rfl, h2⟩
  · rintro ⟨x, a, t', e, rfl, h⟩
    exact runs_bind_ok.mpr ⟨_, a, t', runs_asked.mpr ⟨x, rfl, e.symm⟩, h, rfl⟩

/-- A trace that asks first: it is cut off or fails there, or it goes on with the value. -/
lemma Begins.asked {o : O} {f : A o → Except ε α} {k : α → Prog O A ε β} {t}
    (h : Begins (asked o f >>= k) t) :
    t = [] ∨ ∃ x t', t = ⟨o, x⟩ :: t' ∧
      ((∃ e, f x = .error e ∧ t' = []) ∨ ∃ a, f x = .ok a ∧ Begins (k a) t') := by
  cases h with
  | stop => exact .inl rfl
  | @ask _ _ x t' h =>
    have h : Begins ((ofExcept (f x)).bind k) t' := h
    refine .inr ⟨x, t', rfl, ?_⟩
    cases e : f x with
    | ok a =>
      rw [e] at h
      exact .inr ⟨a, rfl, h⟩
    | error e' =>
      rw [e] at h
      cases h
      exact .inl ⟨e', rfl, rfl⟩

/-- A whole trace that asks first: it fails there, or it goes on with the value. -/
lemma Runs.asked {o : O} {f : A o → Except ε α} {k : α → Prog O A ε β} {t r}
    (h : Runs (asked o f >>= k) t r) :
    ∃ x t', t = ⟨o, x⟩ :: t' ∧
      ((∃ e, f x = .error e ∧ t' = [] ∧ r = .error e) ∨ ∃ a, f x = .ok a ∧ Runs (k a) t' r) := by
  cases h with
  | @ask _ _ x t' _ h =>
    have h : Runs ((ofExcept (f x)).bind k) t' r := h
    refine ⟨x, t', rfl, ?_⟩
    cases e : f x with
    | ok a =>
      rw [e] at h
      exact .inr ⟨a, rfl, h⟩
    | error e' =>
      rw [e] at h
      cases h
      exact .inl ⟨e', rfl, rfl, rfl⟩

/-- A question that is not asked again stands at the front of a trace. -/
lemma Begins.asked_front {p : O → Prop} {o : O} {f : A o → Except ε α} {k : α → Prog O A ε β}
    {b : List (Ev O A)} {e : Ev O A} {u} (h : Begins (Prog.asked o f >>= k) (b ++ e :: u))
    (later : ∀ a, (k a).Only p) (hp : ¬ p e.1) : b = [] := by
  cases b with
  | nil => rfl
  | cons c b =>
    obtain h | ⟨x, t', eq, ⟨_, _, rfl⟩ | ⟨a, _, h1⟩⟩ := h.asked
    · cases h
    · obtain ⟨-, eq⟩ := List.cons.inj eq
      exact absurd eq (List.append_ne_nil_of_right_ne_nil b (List.cons_ne_nil e u))
    · obtain ⟨-, rfl⟩ := List.cons.inj eq
      exact absurd ((later a).begins h1 e (List.mem_append_right b List.mem_cons_self)) hp

/-- The only question of `asked`. -/
@[simp] lemma only_asked {p : O → Prop} {o : O} {f : A o → Except ε α} :
    Only p (asked o f) ↔ p o :=
  ⟨fun h => h.1, fun h => ⟨h, fun _ => only_ofExcept⟩⟩

/-- `asked` asks once. -/
lemma atMost_asked {p : O → Bool} {o : O} {f : A o → Except ε α} : AtMost p 1 (asked o f) := by
  intro t h
  cases h with
  | stop => exact Nat.zero_le 1
  | ask h =>
    rw [begins_ofExcept.mp h]
    exact List.countP_le_length

/-- A trace that starts with a check: it fails there, or it goes on with the value. -/
lemma Begins.checked {x : Except ε α} {k : α → Prog O A ε β} {t}
    (h : Begins (ofExcept x >>= k) t) : t = [] ∨ ∃ a, x = .ok a ∧ Begins (k a) t := by
  cases x with
  | ok a => exact .inr ⟨a, rfl, h⟩
  | error e =>
    cases h
    exact .inl rfl

/-- A run that checks first and succeeds. -/
lemma runs_ofExcept_bind_ok {x : Except ε α} {k : α → Prog O A ε β} {t b} :
    Runs (ofExcept x >>= k) t (.ok b) ↔ ∃ a, x = .ok a ∧ Runs (k a) t (.ok b) := by
  cases x with
  | ok a => exact ⟨fun h => ⟨a, rfl, h⟩, by rintro ⟨_, ⟨⟩, h⟩; exact h⟩
  | error e => exact ⟨nofun, by rintro ⟨_, ⟨⟩, _⟩⟩

section Lift

variable {P : Type} {B : P → Type} {φ : O → P}

/-- A program whose questions are some of those of a larger language. -/
def lift (φ : O → P) : Prog O (fun o => B (φ o)) ε α → Prog P B ε α
  | ret a => ret a
  | fail e => fail e
  | ask o k => ask (φ o) fun b => (k b).lift φ

/-- The questions of a trace in the larger language. -/
def liftTrace (φ : O → P) (t : List (Ev O fun o => B (φ o))) : List (Ev P B) :=
  t.map fun e => ⟨φ e.1, e.2⟩

/-- A trace of a lifted program is the one of the program. -/
lemma runs_lift {m : Prog O (fun o => B (φ o)) ε α} {u r} :
    Runs (m.lift φ) u r ↔ ∃ t, u = liftTrace φ t ∧ Runs m t r := by
  refine ⟨fun h => ?_, ?_⟩
  · induction m generalizing u with
    | ret a =>
      cases h
      exact ⟨[], rfl, .ret⟩
    | fail e =>
      cases h
      exact ⟨[], rfl, .fail⟩
    | ask o k ih =>
      cases h with
      | ask h =>
        obtain ⟨t, rfl, h1⟩ := ih _ h
        exact ⟨⟨o, _⟩ :: t, rfl, .ask h1⟩
  · rintro ⟨t, rfl, h⟩
    induction h with
    | ret => exact .ret
    | fail => exact .fail
    | ask _ ih => exact .ask ih

/-- A cut-off trace of a lifted program is one of the program. -/
lemma begins_lift {m : Prog O (fun o => B (φ o)) ε α} {u} (h : Begins (m.lift φ) u) :
    ∃ t, u = liftTrace φ t ∧ Begins m t := by
  induction m generalizing u with
  | ret a =>
    cases h
    exact ⟨[], rfl, .stop⟩
  | fail e =>
    cases h
    exact ⟨[], rfl, .stop⟩
  | ask o k ih =>
    cases h with
    | stop => exact ⟨[], rfl, .stop⟩
    | ask h =>
      obtain ⟨t, rfl, h1⟩ := ih _ h
      exact ⟨⟨o, _⟩ :: t, rfl, .ask h1⟩

/-- Composition in the larger language. -/
lemma lift_bind {m : Prog O (fun o => B (φ o)) ε α} {f : α → Prog O (fun o => B (φ o)) ε β} :
    (m >>= f).lift φ = m.lift φ >>= fun a => (f a).lift φ := by
  induction m with
  | ret a => rfl
  | fail e => rfl
  | ask o k ih => exact congrArg (ask (φ o)) (funext fun b => ih b)

/-- A bound on the questions of a program in the larger language. -/
lemma Only.lift {p : P → Prop} {m : Prog O (fun o => B (φ o)) ε α}
    (h : m.Only fun o => p (φ o)) : (m.lift φ).Only p := by
  induction m with
  | ret a => trivial
  | fail e => trivial
  | ask o k ih => exact ⟨h.1, fun b => ih b (h.2 b)⟩

end Lift

section Call

variable {B : O → Type}

/-- A question whose answer may be an error: the error ends the program. -/
def call (o : O) : Prog O (fun o => Except ε (B o)) ε (B o) :=
  .ask o ofExcept

/-- One call. -/
@[simp] lemma runs_call {o : O} {t} {r : Except ε (B o)} :
    Runs (call o) t r ↔ t = [⟨o, r⟩] := by
  refine ⟨fun h => ?_, ?_⟩
  · cases h with
    | ask h =>
      obtain ⟨rfl, rfl⟩ := runs_ofExcept.mp h
      rfl
  · rintro rfl
    exact .ask (runs_ofExcept.mpr ⟨rfl, rfl⟩)

/-- A question that was cut off: it was not asked yet, or it was answered. -/
lemma begins_call {o : O} {t} (h : Begins (call o : Prog O (fun o => Except ε (B o)) ε (B o)) t) :
    t = [] ∨ ∃ r, t = [⟨o, r⟩] := by
  cases h with
  | stop => exact .inl rfl
  | ask h => exact .inr ⟨_, by rw [begins_ofExcept.mp h]⟩

/-- A call asks once. -/
lemma atMost_call {p : O → Bool} {o : O} :
    AtMost p 1 (call o : Prog O (fun o => Except ε (B o)) ε (B o)) := by
  intro t h
  obtain rfl | ⟨r, rfl⟩ := begins_call h
  · exact Nat.zero_le _
  · exact List.countP_le_length

/-- The only question of a call. -/
@[simp] lemma only_call {p : O → Prop} {o : O} :
    Only p (call o : Prog O (fun o => Except ε (B o)) ε (B o)) ↔ p o :=
  ⟨fun h => h.1, fun h => ⟨h, fun _ => only_ofExcept⟩⟩

/-- A call on a state is the step itself. -/
@[simp] lemma run_call {σ : Type} {step : σ → (o : O) → Except ε (B o) × σ} {o : O} {s : σ} :
    run step (call o) s = step s o :=
  run_ofExcept

end Call

end Prog

end K11CHaos
