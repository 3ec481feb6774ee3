import K11CHaos.Lib.Prog
import Mathlib.Logic.Function.Basic

/-!
# Threads over a shared state

Any number of threads, each a program (`Prog`), over one shared state. A question of a program is an
atomic step of its thread, and `sem` says how it changes the state and which answers it may have there;
`Step` lets any thread go on with any answer that is possible.

What all threads keep to is a protocol: a machine that each thread is in a place of, `next` its places
after a question and its answer. A program follows the protocol (`Follows`) when each of its questions
has a next place, whatever the answer, and when it ends in a place and with an outcome that the protocol
allows; this is shown for one program alone, from the rules of its parts. When every thread does, each
run of the threads is one of the protocol (`refines`), where a thread is no more than its place
(`Obeys`): safety is then shown over the steps of the protocol.
-/

namespace K11CHaos.Threads

open Prog

variable {O : Type} {A : O → Type} {ε α β : Type}

section Follows

variable {M : Type} {next : M → Prog.Ev O A → Option M}

/-- From a place of the protocol, all questions of a program have a next place, and the outcome of the
    program is allowed where it ends. -/
def Follows (next : M → Prog.Ev O A → Option M) (post : M → Except ε α → Prop) :
    Prog O A ε α → M → Prop
  | .ret a, m => post m (.ok a)
  | .fail e, m => post m (.error e)
  | .ask o k, m => ∀ a, ∃ m', next m ⟨o, a⟩ = some m' ∧ Follows next post (k a) m'

/-- A weaker end. -/
lemma Follows.mono {post post' : M → Except ε α → Prop} {c : Prog O A ε α} {m}
    (h : Follows next post c m) (weaker : ∀ m r, post m r → post' m r) :
    Follows next post' c m := by
  induction c generalizing m with
  | ret a => exact weaker _ _ h
  | fail e => exact weaker _ _ h
  | ask o k ih =>
    intro a
    obtain ⟨m', hn, h⟩ := h a
    exact ⟨m', hn, ih a h⟩

/-- A program that is done. -/
lemma follows_pure {post : M → Except ε α → Prop} {a : α} {m} (h : post m (.ok a)) :
    Follows next post (pure a : Prog O A ε α) m :=
  h

/-- A program that fails. -/
lemma follows_throw {post : M → Except ε α → Prop} {e : ε} {m} (h : post m (.error e)) :
    Follows next post (throw e : Prog O A ε α) m :=
  h

/-- A program whose result is known. -/
lemma follows_ofExcept {post : M → Except ε α → Prop} {x : Except ε α} {m} (h : post m x) :
    Follows next post (Prog.ofExcept x : Prog O A ε α) m := by
  cases x with
  | ok a => exact h
  | error e => exact h

/-- A question: its next place, for every answer. -/
lemma follows_asked {post : M → Except ε α → Prop} {o : O} {f : A o → Except ε α} {m}
    (h : ∀ a, ∃ m', next m ⟨o, a⟩ = some m' ∧ post m' (f a)) :
    Follows next post (asked o f) m := by
  intro a
  obtain ⟨m', hn, h⟩ := h a
  exact ⟨m', hn, follows_ofExcept h⟩

/-- A composition: the second part goes on where the first one ends. -/
lemma Follows.bind {mid : M → Except ε α → Prop} {post : M → Except ε β → Prop}
    {c : Prog O A ε α} {f : α → Prog O A ε β} {m} (h : Follows next mid c m)
    (ok : ∀ m a, mid m (.ok a) → Follows next post (f a) m)
    (error : ∀ m e, mid m (.error e) → post m (.error e)) : Follows next post (c >>= f) m := by
  induction c generalizing m with
  | ret a => exact ok _ _ h
  | fail e => exact error _ _ h
  | ask o k ih =>
    intro a
    obtain ⟨m', hn, h⟩ := h a
    exact ⟨m', hn, ih a h⟩

/-- A question with what follows it: for every answer, the next place, and the rest from there. -/
lemma follows_asked_bind {post : M → Except ε β → Prop} {o : O} {f : A o → Except ε α}
    {k : α → Prog O A ε β} {m}
    (h : ∀ a, ∃ m', next m ⟨o, a⟩ = some m' ∧
      match f a with
      | .ok b => Follows next post (k b) m'
      | .error e => post m' (.error e)) :
    Follows next post (asked o f >>= k) m := by
  intro a
  obtain ⟨m', hn, h⟩ := h a
  refine ⟨m', hn, ?_⟩
  have rest : Follows next post ((Prog.ofExcept (f a)).bind k) m' := by
    cases e : f a with
    | ok b =>
      rw [e] at h
      exact h
    | error e' =>
      rw [e] at h
      exact h
  exact rest

/-- A caught error ends where the program ended. -/
lemma Follows.attempt {mid : M → Except ε α → Prop} {post : M → Except ε (Except ε α) → Prop}
    {c : Prog O A ε α} {m} (h : Follows next mid c m)
    (all : ∀ m r, mid m r → post m (.ok r)) : Follows next post c.attempt m := by
  induction c generalizing m with
  | ret a => exact all _ _ h
  | fail e => exact all _ _ h
  | ask o k ih =>
    intro a
    obtain ⟨m', hn, h⟩ := h a
    exact ⟨m', hn, ih a h⟩

end Follows

/-- `try` with `finally`: the last part runs whatever the outcome, and its own error replaces it. -/
def finallyDo (c : Prog O A ε α) (last : Prog O A ε Unit) : Prog O A ε α := do
  let r ← c.attempt
  last
  Prog.ofExcept r

section Finally

variable {M : Type} {next : M → Prog.Ev O A → Option M}

/-- A block and what is done after it in any case. -/
lemma Follows.finallyDo {mid : M → Except ε α → Prop} {post : M → Except ε α → Prop}
    {c : Prog O A ε α} {last : Prog O A ε Unit} {m} (h : Follows next mid c m)
    (fin : ∀ m r, mid m r → Follows next (fun m' x =>
      match x with
      | .ok _ => post m' r
      | .error e => post m' (.error e)) last m) :
    Follows next post (finallyDo c last) m := by
  have caught : Follows next (fun m r => ∃ x, r = .ok x ∧ mid m x) c.attempt m :=
    h.attempt fun m r hr => ⟨r, rfl, hr⟩
  refine caught.bind ?_ ?_
  · rintro m r ⟨_, ⟨⟩, hr⟩
    refine (fin m r hr).bind (fun m' _ h' => follows_ofExcept h') fun m' e h' => h'
  · rintro m e ⟨_, ⟨⟩, _⟩

end Finally

section Threads

variable {σ ι M : Type}

/-- The shared state, and what is left of the program of each thread. -/
structure Config (σ ι : Type) (O : Type) (A : O → Type) (ε α : Type) where
  state : σ
  code : ι → Prog O A ε α

/-- A thread with a question and its answer. -/
abbrev Label (ι : Type) (O : Type) (A : O → Type) := ι × Prog.Ev O A

/-- The shared state, and the place of each thread in the protocol. -/
structure Places (σ ι M : Type) where
  state : σ
  place : ι → M

variable {next : M → Prog.Ev O A → Option M} {post : M → Except ε α → Prop}

/-- A configuration and the places of its threads. -/
structure Matches (next : M → Prog.Ev O A → Option M) (post : M → Except ε α → Prop)
    (c : Config σ ι O A ε α) (p : Places σ ι M) : Prop where
  state : p.state = c.state
  follows : ∀ i, Follows next post (c.code i) (p.place i)

/-- A thread that has ended is in a place that the protocol allows for its outcome. -/
lemma Matches.ended {c : Config σ ι O A ε α} {p i} (h : Matches next post c p) :
    (∀ a, c.code i = .ret a → post (p.place i) (.ok a)) ∧
      ∀ e, c.code i = .fail e → post (p.place i) (.error e) := by
  have hi := h.follows i
  refine ⟨fun a ha => ?_, fun e he => ?_⟩
  · rw [ha] at hi
    exact hi
  · rw [he] at hi
    exact hi

variable [DecidableEq ι] {sem : σ → ι → Prog.Ev O A → σ → Prop}

/-- One thread goes on by one question. -/
inductive Step (sem : σ → ι → Prog.Ev O A → σ → Prop) :
    Config σ ι O A ε α → Label ι O A → Config σ ι O A ε α → Prop where
  | ask {c i o k a s} :
    c.code i = .ask o k →
    sem c.state i ⟨o, a⟩ s →
    Step sem c (i, ⟨o, a⟩) ⟨s, Function.update c.code i (k a)⟩

/-- A thread goes to another place, and the state changes. -/
def Places.goTo (p : Places σ ι M) (i : ι) (m : M) (s : σ) : Places σ ι M :=
  ⟨s, Function.update p.place i m⟩

section GoTo

variable {p : Places σ ι M} {i j : ι} {m : M} {s : σ}

/-- The state after a move. -/
@[simp] lemma Places.goTo_state : (p.goTo i m s).state = s :=
  rfl

/-- The place of the thread that moved. -/
@[simp] lemma Places.goTo_self : (p.goTo i m s).place i = m :=
  if_pos rfl

/-- The places of the others. -/
lemma Places.goTo_other (h : j ≠ i) : (p.goTo i m s).place j = p.place j :=
  dif_neg h

end GoTo

/-- One step of the protocol. -/
inductive Obeys (next : M → Prog.Ev O A → Option M) (sem : σ → ι → Prog.Ev O A → σ → Prop) :
    Places σ ι M → Label ι O A → Places σ ι M → Prop where
  | next {p i e m s} :
    next (p.place i) e = some m →
    sem p.state i e s →
    Obeys next sem p (i, e) (p.goTo i m s)

/-- A step of the threads is one of the protocol. -/
lemma Matches.step {c c' : Config σ ι O A ε α} {l p} (h : Matches next post c p)
    (st : Step sem c l c') : ∃ p', Obeys next sem p l p' ∧ Matches next post c' p' := by
  cases st with
  | @ask i o k a s hc hs =>
    have hi := h.follows i
    rw [hc] at hi
    obtain ⟨m, hn, hk⟩ := hi a
    refine ⟨p.goTo i m s, .next hn (h.state ▸ hs), rfl, fun j => ?_⟩
    by_cases hj : j = i
    · subst hj
      simpa using hk
    · simpa [Places.goTo_other hj, Function.update_of_ne hj] using h.follows j

/-- Every run of threads that follow the protocol is one of the protocol. -/
theorem refines {c c' : Config σ ι O A ε α} {ls p} (h : Matches next post c p)
    (path : Lts.Path (Step sem) c ls c') :
    ∃ p', Lts.Path (Obeys next sem) p ls p' ∧ Matches next post c' p' := by
  induction path generalizing p with
  | nil => exact ⟨p, .nil, h⟩
  | cons st _ ih =>
    obtain ⟨p1, st1, h1⟩ := h.step st
    obtain ⟨p2, path2, h2⟩ := ih h1
    exact ⟨p2, .cons st1 path2, h2⟩

section Lock

variable {locks : M → Bool} {holder : σ → Option ι}

/-- The thread that has a lock is its holder. -/
def LockHeld (locks : M → Bool) (holder : σ → Option ι) (p : Places σ ι M) : Prop :=
  ∀ i, locks (p.place i) = true ↔ holder p.state = some i

/-- What a step does to a lock: nothing, or it takes a free one, or it releases its own. -/
def LockMove (locks : M → Bool) (holder : σ → Option ι) (i : ι) (m m' : M) (s s' : σ) : Prop :=
  (holder s' = holder s ∧ locks m' = locks m) ∨
    (holder s = none ∧ holder s' = some i ∧ locks m' = true) ∨
    holder s' = none ∧ locks m = true ∧ locks m' = false

omit [DecidableEq ι] in
/-- A lock has one holder. -/
lemma LockHeld.one {p : Places σ ι M} (h : LockHeld locks holder p) {i j}
    (hi : locks (p.place i) = true) (hj : locks (p.place j) = true) : i = j :=
  Option.some.inj (((h i).mp hi).symm.trans ((h j).mp hj))

/-- The holder is kept by every such step. -/
lemma LockHeld.goTo {p : Places σ ι M} (h : LockHeld locks holder p) {i m s}
    (mv : LockMove locks holder i (p.place i) m p.state s) :
    LockHeld locks holder (p.goTo i m s) := by
  intro j
  obtain ⟨same, keep⟩ | ⟨free, held, has⟩ | ⟨free, had, not⟩ := mv
  · by_cases hj : j = i
    · subst hj
      rw [Places.goTo_self, Places.goTo_state, keep, same]
      exact h j
    · rw [Places.goTo_other hj, Places.goTo_state, same]
      exact h j
  · by_cases hj : j = i
    · subst hj
      rw [Places.goTo_self, Places.goTo_state]
      exact iff_of_true has held
    · rw [Places.goTo_other hj, Places.goTo_state]
      refine iff_of_false (fun hl => ?_) fun hl => ?_
      · rw [(h j).mp hl] at free
        cases free
      · rw [held] at hl
        exact hj (Option.some.inj hl).symm
  · by_cases hj : j = i
    · subst hj
      rw [Places.goTo_self, Places.goTo_state, not, free]
      exact iff_of_false Bool.false_ne_true nofun
    · rw [Places.goTo_other hj, Places.goTo_state, free]
      exact iff_of_false (fun hl => hj (h.one hl had)) nofun

end Lock

end Threads

end K11CHaos.Threads
