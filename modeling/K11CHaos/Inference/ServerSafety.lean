import K11CHaos.Inference.ServerProtocol
import Mathlib.Data.List.Nodup
import Mathlib.Data.List.Perm.Subperm

/-!
# Safety of the detection server

Invariants of the protocol over every state that it reaches: the slots of the connections and of the
inferences are counted (`Counted`, `Computing`), what stands behind a connection of the set (`Tracked`),
and who relies on the flag (`Flagged`). The whole runs of the programs follow by `Threads.refines`
(`admission_safe`).
-/

namespace K11CHaos.Inference.Server

open Prog Threads

variable {R K : Type} [DecidableEq R] [DecidableEq K]

section Invariants

variable {p p' : Places (State R K) (Worker R K) Place} {l : Label (Worker R K) (Op R) Op.Ans}

/-- Every thread stands at a place of its kind. -/
def Sided (p : Places (State R K) (Worker R K) Place) : Prop :=
  ∀ i, (p.place i).side = i.side

/-- The free slots, the connections and the slot of the thread with the lock. -/
structure Counted (p : Places (State R K) (Worker R K) Place) : Prop where
  nobody : p.state.holder = none →
    p.state.free + p.state.connections.length = maxHttpConnections
  somebody : ∀ i, p.state.holder = some i →
    p.state.free + p.state.connections.length + (p.place i).debt = maxHttpConnections

/-- The free inference slots and the threads that have one. -/
structure Computing (p : Places (State R K) (Worker R K) Place) : Prop where
  total : p.state.inference + p.state.posts.length = inferenceWorkers
  once : p.state.posts.Nodup
  slot : ∀ i, i ∈ p.state.posts ↔ (p.place i).computes = true

/-- What stands behind a request: its two threads, and whether it is in the set, submitted or left to
the pool by a submission that failed. -/
structure Tracked (accept handle : Place) (inSet submitted stray : Prop) : Prop where
  behind : inSet → accept.holds = true ∨ submitted ∧ handle.active = true
  early : accept.early = true → ¬ submitted ∧ ¬ stray ∧ handle = .waiting
  removed : handle = .removed → submitted

/-- A request in a state of the protocol. -/
abbrev TrackedIn (p : Places (State R K) (Worker R K) Place) (r : R) : Prop :=
  Tracked (p.place (.accept r)) (p.place (.handle r)) (r ∈ p.state.connections)
    (r ∈ p.state.pending) (r ∈ p.state.stray)

/-- Who relies on the flag. -/
structure Flagged (p : Places (State R K) (Worker R K) Place) : Prop where
  relies : ∀ i, (p.place i).opens = true → p.state.closing = false
  closing : ∀ i, (p.place i).closes = true → p.state.closing = true
  drained : ∀ i, p.place i = .closed → p.state.Drained

/-- Every task that has started is known to the pool. -/
def Running (p : Places (State R K) (Worker R K) Place) : Prop :=
  ∀ r, (p.place (.handle r)).begun = true → r ∈ p.state.running

omit [DecidableEq R] [DecidableEq K] in
/-- Who relies on an open flag holds the lock. -/
lemma opens_locks {m : Place} (h : m.opens = true) : m.locks = true := by
  cases m <;> first | rfl | cases h

/-- Every step leaves the threads on their sides. -/
lemma Sided.step (h : Sided p) (st : Obeys next answers p l p') : Sided p' := by
  cases st with
  | @next i e m s hn hs =>
    intro j
    by_cases hj : j = i
    · subst hj
      rw [Places.goTo_self, (move hn hs).side_eq]
      exact h j
    · rw [Places.goTo_other hj]
      exact h j

/-- Every step leaves the slots counted. -/
lemma Counted.step (h : Counted p) (held : LockHeld Place.locks State.holder p)
    (new : ∀ i r, p.place i = .slotted → i.request = some r → r ∉ p.state.connections)
    (st : Obeys next answers p l p') : Counted p' := by
  cases st with
  | @next i e m s hn hs =>
    have mv := move hn hs
    obtain ⟨same, keep⟩ | ⟨free, took, has⟩ | ⟨gone, had, not⟩ := mv.lock_move
    · by_cases mine : (p.place i).locks = true
      · -- the holder goes on
        have holder : p.state.holder = some i := (held i).mp mine
        refine ⟨fun none => ?_, fun j hj => ?_⟩
        · rw [Places.goTo_state, same, holder] at none
          cases none
        · rw [Places.goTo_state, same, holder] at hj
          obtain rfl := Option.some.inj hj
          rw [Places.goTo_self, Places.goTo_state]
          exact mv.slots_sum (h.somebody i holder) fun r at_slotted req => new i r at_slotted req
      · -- a thread without the lock changes nothing
        obtain ⟨free, connections, _, _⟩ := mv.slots_same (.inl (Bool.eq_false_iff.mpr mine))
        refine ⟨fun none => ?_, fun j hj => ?_⟩
        · rw [Places.goTo_state, same] at none
          rw [Places.goTo_state, free, connections]
          exact h.nobody none
        · rw [Places.goTo_state, same] at hj
          have other : j ≠ i := by
            rintro rfl
            exact mine ((held j).mpr hj)
          rw [Places.goTo_other other, Places.goTo_state, free, connections]
          exact h.somebody j hj
    · have before : (p.place i).locks = false := by
        cases locked : (p.place i).locks with
        | false => rfl
        | true =>
          rw [(held i).mp locked] at free
          cases free
      obtain ⟨slots, connections, _, none⟩ := mv.slots_same (.inl before)
      refine ⟨fun nobody => ?_, fun j hj => ?_⟩
      · rw [Places.goTo_state, took] at nobody
        cases nobody
      · rw [Places.goTo_state, took] at hj
        obtain rfl := Option.some.inj hj
        rw [Places.goTo_self, Places.goTo_state, slots, connections, none]
        exact h.nobody free
    · obtain ⟨slots, connections, none, _⟩ := mv.slots_same (.inr not)
      refine ⟨fun _ => ?_, fun j hj => ?_⟩
      · rw [Places.goTo_state, slots, connections]
        have sum := h.somebody i ((held i).mp had)
        rwa [none] at sum
      · rw [Places.goTo_state, gone] at hj
        cases hj

/-- Every step leaves a computing request known. -/
lemma Computing.step (h : Computing p) (st : Obeys next answers p l p') : Computing p' := by
  cases st with
  | @next i e m s hn hs =>
    have others : ∀ (q : Worker R K → Prop), (q i ↔ m.computes = true) →
        (∀ j, j ≠ i → (q j ↔ j ∈ p.state.posts)) →
        ∀ j, q j ↔ ((p.goTo i m s).place j).computes = true := by
      intro q mine other j
      by_cases hj : j = i
      · subst hj
        rw [Places.goTo_self]
        exact mine
      · rw [Places.goTo_other hj, other j hj]
        exact h.slot j
    obtain ⟨slots, posts, same, _⟩ | ⟨_, pos, slots, posts, not, has⟩ | ⟨_, slots, posts, had, not⟩ |
        ⟨_, full, had⟩ := (move hn hs).inference_cases
    · refine ⟨?_, ?_, ?_⟩
      · rw [Places.goTo_state, slots, posts]
        exact h.total
      · rw [Places.goTo_state, posts]
        exact h.once
      · rw [Places.goTo_state, posts]
        refine others _ ?_ fun _ _ => Iff.rfl
        rw [same]
        exact h.slot i
    · have fresh : i ∉ p.state.posts := by
        rw [h.slot, not]
        nofun
      refine ⟨?_, ?_, ?_⟩
      · rw [Places.goTo_state, slots, posts, List.length_cons]
        have total := h.total
        omega
      · rw [Places.goTo_state, posts]
        exact List.nodup_cons.mpr ⟨fresh, h.once⟩
      · rw [Places.goTo_state, posts]
        refine others _ (iff_of_true List.mem_cons_self has) fun j other => ?_
        rw [List.mem_cons, or_iff_right other]
    · have mem : i ∈ p.state.posts := (h.slot i).mpr had
      refine ⟨?_, ?_, ?_⟩
      · rw [Places.goTo_state, slots, posts, List.length_erase_of_mem mem]
        have pos := List.length_pos_of_mem mem
        have total := h.total
        omega
      · rw [Places.goTo_state, posts]
        exact h.once.erase i
      · rw [Places.goTo_state, posts]
        refine others _ (iff_of_false (fun back => ?_) (by simp [not])) fun j other => ?_
        · exact (h.once.mem_erase_iff.mp back).1 rfl
        · exact List.mem_erase_of_ne other
    · -- the thread has a slot, so not all are free
      have pos := List.length_pos_of_mem ((h.slot i).mpr had)
      have total := h.total
      omega

/-- Every step leaves the flags as the places say. -/
lemma Flagged.step (h : Flagged p) (held : LockHeld Place.locks State.holder p)
    (st : Obeys next answers p l p') : Flagged p' := by
  cases st with
  | @next i e m s hn hs =>
    have mv := move hn hs
    have drained : ∀ j, (p.goTo i m s).place j = .closed → s.Drained := by
      intro j closed
      by_cases hj : j = i
      · subst hj
        rw [Places.goTo_self] at closed
        obtain ⟨was, rfl⟩ | none := mv.closed_cases closed
        · exact h.drained j was
        · exact none
      · rw [Places.goTo_other hj] at closed
        have closing := h.closing j (by rw [closed]; rfl)
        have opens : (p.place i).opens = false := by
          cases opens : (p.place i).opens with
          | false => rfl
          | true =>
            rw [h.relies i opens] at closing
            cases closing
        exact mv.drained opens (h.drained j closed)
    obtain ⟨same, opens, closes, _⟩ | ⟨_, locked, set, not⟩ := mv.closing_cases
    · refine ⟨fun j hj => ?_, fun j hj => ?_, drained⟩
      · rw [Places.goTo_state, same]
        by_cases eq : j = i
        · subst eq
          rw [Places.goTo_self] at hj
          exact (opens hj).elim (h.relies j) id
        · rw [Places.goTo_other eq] at hj
          exact h.relies j hj
      · rw [Places.goTo_state, same]
        by_cases eq : j = i
        · subst eq
          rw [Places.goTo_self, closes] at hj
          exact h.closing j hj
        · rw [Places.goTo_other eq] at hj
          exact h.closing j hj
    · refine ⟨fun j hj => ?_, fun _ _ => set, drained⟩
      by_cases eq : j = i
      · subst eq
        rw [Places.goTo_self, not] at hj
        cases hj
      · rw [Places.goTo_other eq] at hj
        exact absurd (held.one (opens_locks hj) locked) eq

/-- Every step leaves the running requests counted. -/
lemma Running.step (h : Running p) (sided : Sided p) (st : Obeys next answers p l p') : Running p' := by
  cases st with
  | @next i e m s hn hs =>
    intro r begun
    rw [Places.goTo_state]
    by_cases same : i = .handle r
    · subst same
      rw [Places.goTo_self] at begun
      obtain ⟨eq, kept⟩ | ⟨x, req, _, eq⟩ | ⟨x, _, _, through, _⟩ := (move hn hs).running_cases
      · rw [eq]
        exact h r (kept begun)
      · obtain rfl := Option.some.inj req
        rw [eq]
        exact List.mem_cons_self
      · rw [through] at begun
        cases begun
    · rw [Places.goTo_other (Ne.symm same)] at begun
      have mem := h r begun
      obtain ⟨eq, _⟩ | ⟨x, _, _, eq⟩ | ⟨x, req, gone, _, eq⟩ := (move hn hs).running_cases
      · rwa [eq]
      · rw [eq]
        exact List.mem_cons_of_mem _ mem
      · -- only a task itself is done, and it is another one
        have side := sided i
        rw [gone] at side
        cases i with
        | handle y =>
          obtain rfl := Option.some.inj req
          have other : r ≠ y := fun e => same (e ▸ rfl)
          rw [eq]
          exact List.mem_filter.mpr ⟨mem, decide_eq_true other⟩
        | accept y => cases side
        | close k => cases side

section Requests

variable {s s' : State R K} {r : R} {a b m m' : Place} {e : Ev R}

/-- A step of the acceptance of a request. -/
lemma Tracked.accept_step
    (h : Tracked m b (r ∈ s.connections) (r ∈ s.pending) (r ∈ s.stray))
    (once : s.connections.Nodup)
    (side : m.side = .accept)
    (mv : Move s (.accept r) m e m' s') :
    Tracked m' b (r ∈ s'.connections) (r ∈ s'.pending) (r ∈ s'.stray) := by
  have same {x : R} (req : (Worker.accept r : Worker R K).request = some x) : r = x :=
    Option.some.inj req
  have behind (out : m.holds = false) (mem : r ∈ s.connections) : r ∈ s.pending ∧ b.active = true :=
    (h.behind mem).resolve_left (by simp [out])
  cases mv with
  | quiet => exact h
  | lock enter =>
    cases m <;> cases enter
    case lock.idle.refl => exact ⟨fun mem => .inr (behind rfl mem), fun _ => h.early rfl, h.removed⟩
    all_goals cases side
  | unlock leave =>
    cases m <;> cases leave
    case unlock.inside.refl => exact ⟨fun mem => .inr (behind rfl mem), nofun, h.removed⟩
    all_goals cases side
  | refuse => exact ⟨fun mem => .inr (behind rfl mem), nofun, h.removed⟩
  | stillOpen => exact ⟨fun mem => .inr (behind rfl mem), fun _ => h.early rfl, h.removed⟩
  | takeSlot => exact ⟨fun mem => .inr (behind rfl mem), fun _ => h.early rfl, h.removed⟩
  | noSlot => exact ⟨fun mem => .inr (behind rfl mem), nofun, h.removed⟩
  | add => exact ⟨fun _ => .inl rfl, fun _ => h.early rfl, h.removed⟩
  | submitted req =>
    obtain rfl := same req
    refine ⟨fun _ => .inr ⟨List.mem_cons_self, ?_⟩, nofun, fun _ => List.mem_cons_self⟩
    rw [(h.early rfl).2.2]
    rfl
  | submitFailed => exact ⟨fun _ => .inl rfl, nofun, h.removed⟩
  | submitQueued => exact ⟨fun _ => .inl rfl, nofun, h.removed⟩
  | undo req =>
    obtain rfl := same req
    exact ⟨fun mem => absurd mem once.not_mem_erase, nofun, h.removed⟩
  | nothingToUndo req none =>
    obtain rfl := same req
    exact ⟨fun mem => absurd mem none, nofun, h.removed⟩
  | giveBack => exact ⟨fun mem => .inr (behind rfl mem), nofun, h.removed⟩
  | overUndone => exact ⟨fun mem => .inr (behind rfl mem), nofun, h.removed⟩
  | _ => cases side

/-- A step of the task of a request. -/
lemma Tracked.handle_step
    (h : Tracked a m (r ∈ s.connections) (r ∈ s.pending) (r ∈ s.stray))
    (once : s.connections.Nodup)
    (side : m.side = .handle)
    (alone : m.locks = true → a.holds = false)
    (mv : Move s (.handle r) m e m' s') :
    Tracked a m' (r ∈ s'.connections) (r ∈ s'.pending) (r ∈ s'.stray) := by
  have same {x : R} (req : (Worker.handle r : Worker R K).request = some x) : r = x :=
    Option.some.inj req
  have goes (active : m'.active = true) (mem : r ∈ s.connections) :
      a.holds = true ∨ r ∈ s.pending ∧ m'.active = true :=
    (h.behind mem).imp_right fun x => ⟨x.1, active⟩
  have ended (done : m.active = false) (mem : r ∈ s.connections) : a.holds = true :=
    (h.behind mem).resolve_right fun x => by simp [done] at x
  have late {P : Prop} (begun : m ≠ .waiting) (early : a.early = true) : P :=
    absurd (h.early early).2.2 begun
  cases mv with
  | quiet => exact h
  | lock enter =>
    cases m <;> cases enter
    case lock.serving.refl => exact ⟨goes rfl, late nofun, nofun⟩
    case lock.computing.refl => exact ⟨goes rfl, late nofun, nofun⟩
    case lock.shut.refl => exact ⟨goes rfl, late nofun, nofun⟩
    all_goals cases side
  | unlock leave =>
    cases m <;> cases leave
    case unlock.counting.refl => exact ⟨goes rfl, late nofun, nofun⟩
    case unlock.recording.refl => exact ⟨goes rfl, late nofun, nofun⟩
    case unlock.left.refl => exact ⟨fun mem => .inl (ended rfl mem), late nofun, nofun⟩
    all_goals cases side
  | begin req known =>
    obtain rfl := same req
    refine ⟨goes rfl, fun early => ?_, nofun⟩
    obtain ⟨not, nor, _⟩ := h.early early
    exact absurd known (not_or.mpr ⟨not, nor⟩)
  | takeInference => exact ⟨goes rfl, late nofun, nofun⟩
  | giveInference => exact ⟨goes rfl, late nofun, nofun⟩
  | overInference => exact ⟨goes rfl, late nofun, nofun⟩
  | shut => exact ⟨goes rfl, late nofun, nofun⟩
  | remove req mem =>
    obtain rfl := same req
    have submitted := (h.behind mem).resolve_left (by simp [alone rfl])
    exact ⟨fun mem => absurd mem once.not_mem_erase, late nofun, fun _ => submitted.1⟩
  | nothingToRemove req none =>
    obtain rfl := same req
    exact ⟨fun mem => absurd mem none, late nofun, nofun⟩
  | giveSlot => exact ⟨fun mem => .inl (ended rfl mem), late nofun, nofun⟩
  | overRemoved => exact ⟨fun mem => .inl (ended rfl mem), late nofun, nofun⟩
  | finished => exact ⟨fun mem => .inl (ended rfl mem), late nofun, nofun⟩
  | _ => cases side

/-- A step of another request or of `server_close`. -/
lemma Move.other {i : Worker R K} (h : Move s i m e m' s') (other : i.request ≠ some r) :
    (r ∈ s'.connections ↔ r ∈ s.connections) ∧ (r ∈ s'.pending ↔ r ∈ s.pending) ∧
      (r ∈ s'.stray → r ∈ s.stray) := by
  have ne {x : R} (req : i.request = some x) : r ≠ x := by
    rintro rfl
    exact other req
  cases h with
  | add req => exact ⟨by simp [ne req], Iff.rfl, id⟩
  | submitted req => exact ⟨Iff.rfl, by simp [ne req], id⟩
  | submitQueued req => exact ⟨Iff.rfl, Iff.rfl, by simp [ne req]⟩
  | undo req => exact ⟨List.mem_erase_of_ne (ne req), Iff.rfl, id⟩
  | remove req => exact ⟨List.mem_erase_of_ne (ne req), Iff.rfl, id⟩
  | finished req => exact ⟨Iff.rfl, by simp [ne req], id⟩
  | poolShutdown => exact ⟨Iff.rfl, Iff.rfl, nofun⟩
  | _ => exact ⟨Iff.rfl, Iff.rfl, id⟩

/-- No request is tracked twice. -/
lemma Move.connections_once {i : Worker R K} (h : Move s i m e m' s')
    (once : s.connections.Nodup) : s'.connections.Nodup := by
  cases h with
  | add => exact once.insert
  | undo => exact once.erase _
  | remove => exact once.erase _
  | _ => exact once

end Requests

/-- Every step leaves the requests tracked. -/
lemma tracked_step (h : ∀ r, TrackedIn p r) (sided : Sided p) (once : p.state.connections.Nodup)
    (held : LockHeld Place.locks State.holder p)
    (st : Obeys next answers p l p') (r : R) : TrackedIn p' r := by
  cases st with
  | @next i e m s hn hs =>
    have mv := move hn hs
    by_cases req : i.request = some r
    · cases i with
      | accept x =>
        obtain rfl := Option.some.inj req
        have at_self : (p.goTo (.accept x) m s).place (.accept x) = m := Places.goTo_self
        have at_task : (p.goTo (.accept x) m s).place (.handle x) = p.place (.handle x) :=
          Places.goTo_other nofun
        unfold TrackedIn
        rw [at_self, at_task]
        exact (h x).accept_step once (sided (.accept x)) mv
      | handle x =>
        obtain rfl := Option.some.inj req
        have at_self : (p.goTo (.handle x) m s).place (.handle x) = m := Places.goTo_self
        have at_other : (p.goTo (.handle x) m s).place (.accept x) = p.place (.accept x) :=
          Places.goTo_other nofun
        unfold TrackedIn
        rw [at_self, at_other]
        refine (h x).handle_step once (sided (.handle x)) (fun locked => ?_) mv
        -- the lock has one holder
        cases holds : (p.place (.accept x)).holds with
        | false => rfl
        | true =>
          have too : (p.place (.accept x)).locks = true := by
            revert holds
            cases p.place (.accept x) <;> first | exact fun _ => rfl | nofun
          cases held.one too locked
      | close k => cases req
    · obtain ⟨connections, pending, stray⟩ := mv.other req
      have acceptance : (p.goTo i m s).place (.accept r) = p.place (.accept r) := by
        apply Places.goTo_other
        rintro rfl
        exact req rfl
      have task : (p.goTo i m s).place (.handle r) = p.place (.handle r) := by
        apply Places.goTo_other
        rintro rfl
        exact req rfl
      obtain ⟨behind, early, removed⟩ := h r
      unfold TrackedIn
      rw [acceptance, task]
      refine ⟨fun mem => ?_, fun before => ?_, fun at_removed => pending.mpr (removed at_removed)⟩
      · exact (behind (connections.mp mem)).imp_right fun x => ⟨pending.mpr x.1, x.2⟩
      · obtain ⟨not, nor, waits⟩ := early before
        exact ⟨fun mem => not (pending.mp mem), fun mem => nor (stray mem), waits⟩

end Invariants

/-! ## Runs -/

/-- What holds in every state of the protocol. -/
structure Inv (p : Places (State R K) (Worker R K) Place) : Prop where
  lock : LockHeld Place.locks State.holder p
  sided : Sided p
  counted : Counted p
  computing : Computing p
  once : p.state.connections.Nodup
  tracked : ∀ r, TrackedIn p r
  flagged : Flagged p
  running : Running p

/-- All threads before their first step. -/
def begin : Places (State R K) (Worker R K) Place :=
  ⟨.initial, Worker.place⟩

omit [DecidableEq R] [DecidableEq K] in
/-- The invariant before the first step. -/
lemma inv_begin : Inv (begin : Places (State R K) (Worker R K) Place) where
  lock i := by cases i <;> exact ⟨nofun, nofun⟩
  sided i := by cases i <;> rfl
  counted := ⟨fun _ => rfl, nofun⟩
  computing := ⟨rfl, List.nodup_nil, fun i => by cases i <;> exact ⟨nofun, nofun⟩⟩
  once := List.nodup_nil
  tracked _ := ⟨nofun, fun _ => ⟨nofun, nofun, rfl⟩, nofun⟩
  flagged := ⟨fun _ _ => rfl, fun i => by cases i <;> nofun, fun i => by cases i <;> nofun⟩
  running _ := nofun

section Runs

variable {p p' : Places (State R K) (Worker R K) Place} {l : Label (Worker R K) (Op R) Op.Ans}
  {ls : List (Label (Worker R K) (Op R) Op.Ans)}

omit [DecidableEq R] [DecidableEq K] in
/-- A connection is not in the set before it is added. -/
lemma Inv.new (h : Inv p) {i r} (slotted : p.place i = .slotted) (req : i.request = some r) :
    r ∉ p.state.connections := by
  have side := h.sided i
  rw [slotted] at side
  cases i with
  | accept x =>
    obtain rfl := Option.some.inj req
    have tracked := h.tracked x
    unfold TrackedIn at tracked
    rw [slotted] at tracked
    intro mem
    exact (tracked.early rfl).1 ((tracked.behind mem).resolve_left nofun).1
  | handle x => cases side
  | close k => cases side

/-- Every step keeps the invariant. -/
lemma Inv.step (h : Inv p) (st : Obeys next answers p l p') : Inv p' where
  lock := by
    cases st with
    | next hn hs => exact h.lock.goTo (move hn hs).lock_move
  sided := h.sided.step st
  counted := h.counted.step h.lock (fun _ _ => h.new) st
  computing := h.computing.step st
  once := by
    cases st with
    | next hn hs => exact (move hn hs).connections_once h.once
  tracked := tracked_step h.tracked h.sided h.once h.lock st
  flagged := h.flagged.step h.lock st
  running := h.running.step h.sided st

/-- No step gives back a slot that was not taken. -/
lemma Inv.never_over (h : Inv p) (st : Obeys next answers p l p') :
    l.2 ≠ ⟨.giveSlot, false⟩ ∧ l.2 ≠ ⟨.giveInference, false⟩ := by
  cases st with
  | @next i e m s hn hs =>
    have mv := move hn hs
    refine ⟨fun gone => ?_, fun gone => ?_⟩
    · obtain rfl : e = ⟨.giveSlot, false⟩ := gone
      exact mv.slot_room (h.counted.somebody i ((h.lock i).mp mv.give_locks)) rfl
    · obtain rfl : e = ⟨.giveInference, false⟩ := gone
      obtain ⟨_, _, _, not, _⟩ | ⟨take, _⟩ | ⟨give, _⟩ | ⟨_, full, had⟩ := mv.inference_cases
      · exact not rfl
      · cases take
      · cases give
      · have pos := List.length_pos_of_mem ((h.computing.slot i).mpr had)
        have total := h.computing.total
        omega

omit [DecidableEq R] [DecidableEq K] in
/-- Once a call of `server_close` has returned, no task has an inference slot. -/
lemma Inv.uncomputed (h : Inv p) {i} (closed : p.place i = .closed) :
    p.state.inference = inferenceWorkers := by
  have none := (h.flagged.drained i closed).running
  have empty : p.state.posts = [] := by
    refine List.eq_nil_iff_forall_not_mem.mpr fun j mem => ?_
    have computes := (h.computing.slot j).mp mem
    have side := h.sided j
    cases j with
    | handle r =>
      have begun : (p.place (.handle r)).begun = true := by
        revert computes
        cases p.place (.handle r) <;> first | exact fun _ => rfl | nofun
      have known := h.running r begun
      rw [none] at known
      cases known
    | accept r => revert computes side; cases p.place (.accept r) <;> nofun
    | close k => revert computes side; cases p.place (.close k) <;> nofun
  have total := h.computing.total
  rwa [empty] at total

omit [DecidableEq R] [DecidableEq K] in
/-- Once a call of `server_close` has returned, there is no connection and every slot is free. -/
lemma Inv.closed (h : Inv p) {i} (closed : p.place i = .closed) :
    p.state.connections = [] ∧ p.state.free = maxHttpConnections := by
  have none := (h.flagged.drained i closed).pending
  have closing := h.flagged.closing i (by rw [closed]; rfl)
  have shut (j) : (p.place j).opens = false := by
    cases opens : (p.place j).opens with
    | false => rfl
    | true =>
      rw [h.flagged.relies j opens] at closing
      cases closing
  have empty : p.state.connections = [] := by
    refine List.eq_nil_iff_forall_not_mem.mpr fun r mem => ?_
    obtain holds | ⟨submitted, _⟩ := (h.tracked r).behind mem
    · have not := shut (.accept r)
      revert holds not
      cases p.place (.accept r) <;> nofun
    · rw [none] at submitted
      cases submitted
  refine ⟨empty, ?_⟩
  cases holder : p.state.holder with
  | none => simpa [empty] using h.counted.nobody holder
  | some j =>
    have free : (p.place j).debt = 0 := by
      by_contra debt
      have not := shut j
      have side := h.sided j
      have removed : p.place j = .removed := by
        revert debt not
        cases p.place j <;> first | exact fun _ _ => rfl | nofun
      rw [removed] at side
      cases j with
      | handle r =>
        have submitted := (h.tracked r).removed removed
        rw [none] at submitted
        cases submitted
      | accept r => cases side
      | close k => cases side
    simpa [empty, free] using h.counted.somebody j holder

/-- A run of the protocol. -/
abbrev Run (ls : List (Label (Worker R K) (Op R) Op.Ans)) (p : Places (State R K) (Worker R K) Place) :
    Prop :=
  Lts.Exec (· = begin) (Obeys next answers) ls p

/-- The invariant in every run. -/
lemma Run.inv (h : Run ls p) : Inv p :=
  h.invariant (by rintro _ rfl; exact inv_begin) fun _ _ _ hi st => hi.step st

/-- No slot is given back too often. -/
lemma Inv.released (h : Inv p) (path : Lts.Path (Obeys next answers) p ls p') :
    ∀ l ∈ ls, l.2 ≠ ⟨.giveSlot, false⟩ ∧ l.2 ≠ ⟨.giveInference, false⟩ := by
  induction path with
  | nil => nofun
  | cons st _ ih => exact List.forall_mem_cons.mpr ⟨h.never_over st, ih (h.step st)⟩

/-- A closed server stays closed. -/
lemma Move.stays_closing {s s' : State R K} {i m e m'} (h : Move s i m e m' s')
    (closing : s.closing = true) : s'.closing = true := by
  obtain ⟨same, _⟩ | ⟨_, _, set, _⟩ := h.closing_cases
  · rw [same, closing]
  · exact set

/-- No connection is admitted after the flag is set. -/
lemma Run.admitted (h : Run ls p) :
    Lts.Never (fun l => l.2.1 = .setClosing) (fun l => admits l.2 = true) ls := by
  refine Lts.Exec.never (J := Inv) (I := fun p => p.state.closing = true)
    (by rintro _ rfl; exact inv_begin) (fun _ _ _ hi st => hi.step st) ?_ ?_ ?_ h
  · rintro p l p' - st set
    cases st with
    | next hn hs =>
      obtain ⟨_, _, _, not⟩ | ⟨_, _, closing, _⟩ := (move hn hs).closing_cases
      · exact absurd set not
      · exact closing
  · rintro p l p' - closing st
    cases st with
    | next hn hs => exact (move hn hs).stays_closing closing
  · rintro p l p' hi closing st admitted
    cases st with
    | next hn hs =>
      rw [hi.flagged.relies _ ((move hn hs).admits_opens admitted)] at closing
      cases closing

end Runs

/-- An inference slot is taken. -/
def takes : Ev R → Bool
  | ⟨.takeInference, free⟩ => free
  | _ => false

/-- An inference slot is given back. -/
def gives : Ev R → Bool
  | ⟨.giveInference, ok⟩ => ok
  | _ => false

/-- How often a thread has done something. -/
def times (i : Worker R K) (what : Ev R → Bool) (ls : List (Label (Worker R K) (Op R) Op.Ans)) : Nat :=
  ls.countP fun l => decide (l.1 = i) && what l.2

section Slots

variable {p p' : Places (State R K) (Worker R K) Place} {ls : List (Label (Worker R K) (Op R) Op.Ans)}

/-- How often a thread does something, one step at a time. -/
lemma times_cons {i j : Worker R K} {what : Ev R → Bool} {e : Ev R} :
    times i what ((j, e) :: ls) = times i what ls + if j = i then (what e).toNat else 0 := by
  unfold times
  rw [List.countP_cons]
  by_cases same : j = i
  · cases what e <;> simp [same]
  · simp [same]

/-- A step takes or gives back an inference slot as its place says. -/
lemma Move.inference_count {s s' : State R K} {i m e m'} (h : Move s i m e m' s')
    (room : e ≠ ⟨.giveInference, false⟩) :
    m.computes.toNat + (takes e).toNat = m'.computes.toNat + (gives e).toNat := by
  obtain ⟨_, _, same, not, nor⟩ | ⟨rfl, _, _, _, before, after⟩ | ⟨rfl, _, _, before, after⟩ |
      ⟨excess, _⟩ := h.inference_cases
  · obtain ⟨o, a⟩ := e
    have took : takes ⟨o, a⟩ = false := by
      cases o with
      | takeInference =>
        cases a with
        | false => rfl
        | true => exact absurd rfl nor
      | _ => rfl
    have gave : gives ⟨o, a⟩ = false := by
      cases o with
      | giveInference => exact absurd rfl not
      | _ => rfl
    rw [same, took, gave]
  · rw [before, after]
    rfl
  · rw [before, after]
    rfl
  · exact absurd excess room

/-- A thread has given back the inference slots that it took, but for the one that it has. -/
lemma Inv.times_path (h : Inv p) (path : Lts.Path (Obeys next answers) p ls p') (i : Worker R K) :
    (p.place i).computes.toNat + times i takes ls =
      (p'.place i).computes.toNat + times i gives ls := by
  induction path with
  | nil => rfl
  | cons st _ ih =>
    replace ih := ih (h.step st)
    have room := (h.never_over st).2
    cases st with
    | @next j e m s hn hs =>
      rw [times_cons, times_cons]
      by_cases same : j = i
      · subst same
        have count := (move hn hs).inference_count room
        rw [Places.goTo_self] at ih
        rw [if_pos rfl, if_pos rfl]
        omega
      · rw [Places.goTo_other (Ne.symm same)] at ih
        rw [if_neg same, if_neg same]
        exact ih

end Slots

/-- What a run of the server must keep to. -/
structure AdmissionSafe (ls : List (Label (Worker R K) (Op R) Op.Ans))
    (c : Config (State R K) (Worker R K) (Op R) Op.Ans Raised Unit) : Prop where
  /-- While the lock is free, every slot is free or has a connection. -/
  slots : c.state.holder = none →
    c.state.free + c.state.connections.length = maxHttpConnections ∧ c.state.connections.Nodup
  /-- No semaphore is released more often than it was acquired. -/
  released : ∀ l ∈ ls, l.2 ≠ ⟨.giveSlot, false⟩ ∧ l.2 ≠ ⟨.giveInference, false⟩
  /-- The threads between an acquisition and its release are no more than the workers. -/
  inference : ∀ between : List (Worker R K), between.Nodup →
    (∀ i ∈ between, times i gives ls < times i takes ls) → between.length ≤ inferenceWorkers
  /-- No connection is admitted after the flag is set. -/
  admitted : Lts.Never (fun l => l.2.1 = .setClosing) (fun l => admits l.2 = true) ls
  /-- When `server_close` has returned, there is no connection and every slot is free, those of the
  inferences too. -/
  closed : ∀ k, c.code (.close k) = .ret () →
    c.state.connections = [] ∧ c.state.free = maxHttpConnections ∧ c.state.inference = inferenceWorkers

section Threads

variable {ls : List (Label (Worker R K) (Op R) Op.Ans)}
  {c : Config (State R K) (Worker R K) (Op R) Op.Ans Raised Unit}

/-- A run of the threads is one of the protocol. -/
lemma start_run (run : Lts.Path (Step answers) start ls c) :
    ∃ p, Lts.Path (Obeys next answers) begin ls p ∧ Matches next Ended c p := by
  have matched : Matches next Ended (start : Config (State R K) (Worker R K) (Op R) Op.Ans Raised Unit)
      begin := ⟨rfl, code_follows⟩
  exact refines matched run

/-- Any number of connections and calls of `server_close` on one server, however their submissions and
    their handlers fail, behave as they should. -/
theorem admission_safe (run : Lts.Path (Step answers) start ls c) : AdmissionSafe ls c := by
  obtain ⟨p, path, hm⟩ := start_run run
  have protocol : Run ls p := ⟨_, rfl, path⟩
  have inv := protocol.inv
  refine ⟨fun free => ?_, inv_begin.released path, fun between once owe => ?_, protocol.admitted,
    fun k returned => ?_⟩
  · rw [← hm.state] at free ⊢
    exact ⟨inv.counted.nobody free, inv.once⟩
  · -- each of them has an inference slot
    have sub : between ⊆ p.state.posts := by
      intro i mem
      rw [inv.computing.slot]
      have count := inv_begin.times_path path i
      have none : ((begin : Places (State R K) (Worker R K) Place).place i).computes = false := by
        cases i <;> rfl
      have more := owe i mem
      rw [none] at count
      cases has : (p.place i).computes with
      | true => rfl
      | false =>
        rw [has] at count
        omega
    have len := (once.subperm sub).length_le
    have total := inv.computing.total
    omega
  · rw [← hm.state]
    obtain out | through | ⟨closed, _⟩ := hm.ended.1 () returned
    · have side := inv.sided (.close k)
      rw [out] at side
      cases side
    · have side := inv.sided (.close k)
      rw [through] at side
      cases side
    · exact ⟨(inv.closed closed).1, (inv.closed closed).2, inv.uncomputed closed⟩

end Threads

section Sample

/-- The flag is set after a task has looked at it and before it takes an inference slot. The task still
    computes its response, and `server_close` returns after it. -/
def lateRun : List (Label (Worker Unit Unit) (Op Unit) Op.Ans) :=
  [(.accept (), ⟨.lock, ()⟩), (.accept (), ⟨.isClosing, false⟩), (.accept (), ⟨.takeSlot, true⟩),
    (.accept (), ⟨.add, ()⟩), (.accept (), ⟨.submit, .accepted⟩), (.accept (), ⟨.unlock, ()⟩),
    (.handle (), ⟨.begin, ()⟩), (.handle (), ⟨.isClosing, false⟩),
    (.handle (), ⟨.receive, .ok .post⟩), (.close (), ⟨.lock, ()⟩), (.close (), ⟨.setClosing, ()⟩),
    (.handle (), ⟨.takeInference, true⟩), (.close (), ⟨.closeListener, ()⟩),
    (.close (), ⟨.connections, [()]⟩), (.close (), ⟨.unlock, ()⟩), (.close (), ⟨.interrupt (), ()⟩),
    (.handle (), ⟨.upload, .ok .ready⟩), (.handle (), ⟨.isClosing, true⟩),
    (.handle (), ⟨.giveInference, true⟩), (.handle (), ⟨.shutdownRequest, ()⟩),
    (.handle (), ⟨.lock, ()⟩), (.handle (), ⟨.remove, true⟩), (.handle (), ⟨.giveSlot, true⟩),
    (.handle (), ⟨.unlock, ()⟩), (.handle (), ⟨.finished, ()⟩), (.close (), ⟨.poolShutdown, ()⟩)]

/-- It is a run of the server, and `server_close` returns in it. -/
lemma late_run : ∃ c, Lts.Path (Step answers) start lateRun c ∧ c.code (.close ()) = .ret () := by
  refine ⟨_, .cons (.ask rfl ⟨rfl, rfl⟩) (.cons (.ask rfl ⟨rfl, rfl⟩) (.cons (.ask rfl ⟨by decide, rfl⟩)
    (.cons (.ask rfl ⟨(), rfl, rfl⟩) (.cons (.ask rfl ⟨(), rfl, rfl⟩) (.cons (.ask rfl rfl)
    (.cons (.ask rfl ⟨(), rfl, .inl (.head _), rfl⟩) (.cons (.ask rfl ⟨rfl, rfl⟩)
    (.cons (.ask rfl rfl) (.cons (.ask rfl ⟨rfl, rfl⟩) (.cons (.ask rfl rfl)
    (.cons (.ask rfl ⟨by decide, rfl⟩) (.cons (.ask rfl rfl) (.cons (.ask rfl ⟨rfl, rfl⟩)
    (.cons (.ask rfl rfl) (.cons (.ask rfl rfl) (.cons (.ask rfl rfl) (.cons (.ask rfl ⟨rfl, rfl⟩)
    (.cons (.ask rfl ⟨by decide, rfl⟩) (.cons (.ask rfl rfl) (.cons (.ask rfl ⟨rfl, rfl⟩)
    (.cons (.ask rfl ⟨(), rfl, .head _, rfl⟩) (.cons (.ask rfl ⟨by decide, rfl⟩) (.cons (.ask rfl rfl)
    (.cons (.ask rfl ⟨(), rfl, rfl⟩) (.cons (.ask rfl ⟨rfl, rfl, rfl⟩)
    .nil))))))))))))))))))))))))), rfl⟩

/-- `admission_safe` at this run. -/
theorem admission_safe_sample : ∃ c, AdmissionSafe lateRun c ∧ c.code (.close ()) = .ret () := by
  obtain ⟨c, path, returned⟩ := late_run
  exact ⟨c, admission_safe path, returned⟩

/-- A POST may still take an inference slot after the flag is set. -/
theorem inference_after_closing :
    ¬ ∀ ls (c : Config (State Unit Unit) (Worker Unit Unit) (Op Unit) Op.Ans Raised Unit),
      Lts.Path (Step answers) start ls c →
      Lts.Never (fun l => l.2.1 = .setClosing) (fun l => admits l.2 = true ∨ takes l.2 = true) ls := by
  intro h
  obtain ⟨c, path, _⟩ := late_run
  have split : lateRun = lateRun.take 10 ++ (.close (), ⟨.setClosing, ()⟩) ::
      ([] ++ (.handle (), ⟨.takeInference, true⟩) :: lateRun.drop 12) := rfl
  exact h lateRun c path _ _ _ _ _ split rfl (.inr rfl)

end Sample

end K11CHaos.Inference.Server
