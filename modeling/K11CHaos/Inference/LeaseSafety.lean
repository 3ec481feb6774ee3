import K11CHaos.Inference.LeaseProtocol
import Mathlib.Data.List.Nodup

/-!
# Safety of the leases

Invariants of the protocol over every state that it reaches: the lock has one holder, the slots are
queued or leased (`Leased`), nobody relies on a context that was taken (`ContextSeen`). From these the
order of the calls over whole runs, and by `Threads.refines` the same for the programs (`leases_safe`).
-/

namespace K11CHaos.Inference

open Prog Threads

variable {ι : Type} [DecidableEq ι]

section Invariants

variable {p p' : Places (Shared ι) ι Place} {l : Label ι Op Op.Ans}

/-- The slots are in the queue or leased, each once, and a thread has the slot of its lease. -/
structure Leased (p : Places (Shared ι) ι Place) : Prop where
  slots : (p.state.queue ++ p.state.leases.map Prod.snd).Perm [1, 0]
  threads : (p.state.leases.map Prod.fst).Nodup
  lease : ∀ i slot, (i, slot) ∈ p.state.leases ↔ (p.place i).slot = some slot
  taken_back : ∀ i slot, p.place i ≠ .full slot

/-- Who relies on an open context, and who has taken it. -/
structure ContextSeen (p : Places (Shared ι) ι Place) : Prop where
  opened : ∀ i, (p.place i).opened = true → p.state.ctx ≠ 0
  taken : ∀ i c, p.place i = .taken c → p.state.ctx = 0

omit [DecidableEq ι] in
/-- Two slots are in the queue or leased. -/
lemma Leased.count (h : Leased p) : p.state.queue.length + p.state.leases.length = 2 := by
  have len := h.slots.length_eq
  rwa [List.length_append, List.length_map] at len

omit [DecidableEq ι] in
/-- A thread gives back the slot of its lease, and the queue has room for it. -/
lemma Leased.room (h : Leased p) {i slot} (has : (p.place i).slot = some slot) :
    p.state.queue.length < 2 := by
  have pos : 0 < p.state.leases.length := List.length_pos_of_mem ((h.lease i slot).mpr has)
  have two := h.count
  omega

/-- A lease that ends is no lease of the others. -/
lemma Leased.erase (h : Leased p) {i slot j x} :
    (j, x) ∈ p.state.leases.erase (i, slot) ↔ (j, x) ≠ (i, slot) ∧ (p.place j).slot = some x := by
  have once : p.state.leases.Nodup := List.Nodup.of_map Prod.fst h.threads
  rw [once.mem_erase_iff, h.lease]

/-- Every step leaves the leases exclusive. -/
lemma Leased.step (h : Leased p) (st : Obeys next answers p l p') : Leased p' := by
  cases st with
  | @next i e m s hn hs =>
    have mv := move hn hs
    -- a slot is only refused where two are in the queue, and with a lease there is room
    have back : ∀ j slot, (p.goTo i m s).place j ≠ .full slot := by
      intro j slot
      by_cases hj : j = i
      · subst hj
        rw [Places.goTo_self]
        intro full
        obtain ⟨two, has⟩ := mv.refused_cases full
        exact absurd (h.room has) (Nat.not_lt.mpr two)
      · rw [Places.goTo_other hj]
        exact h.taken_back j slot
    obtain ⟨queue, leases, slot⟩ | ⟨slot, queue, leases, had, has⟩ |
        ⟨slot, queue, leases, had, has⟩ := mv.slot_cases
    · refine ⟨?_, ?_, fun j x => ?_, back⟩
      · rw [Places.goTo_state, queue, leases]
        exact h.slots
      · rw [Places.goTo_state, leases]
        exact h.threads
      · rw [Places.goTo_state, leases, h.lease]
        by_cases hj : j = i
        · subst hj
          rw [Places.goTo_self, slot]
        · rw [Places.goTo_other hj]
    · -- a slot goes from the queue to a thread that had none
      refine ⟨?_, ?_, fun j x => ?_, back⟩
      · rw [Places.goTo_state, leases, List.map_cons]
        have slots := h.slots
        rw [queue, List.cons_append] at slots
        exact List.perm_middle.trans slots
      · rw [Places.goTo_state, leases, List.map_cons, List.nodup_cons]
        refine ⟨fun mem => ?_, h.threads⟩
        obtain ⟨⟨k, x⟩, hk, rfl⟩ := List.mem_map.mp mem
        rw [(h.lease _ x).mp hk] at had
        cases had
      · rw [Places.goTo_state, leases, List.mem_cons, h.lease]
        by_cases hj : j = i
        · subst hj
          rw [Places.goTo_self, had, has]
          simp [eq_comm]
        · rw [Places.goTo_other hj]
          simp [hj]
    · -- a slot goes back to the queue
      have mem : (i, slot) ∈ p.state.leases := (h.lease i slot).mpr had
      refine ⟨?_, ?_, fun j x => ?_, back⟩
      · rw [Places.goTo_state, queue, leases, List.cons_append]
        have split := (List.perm_cons_erase mem).map Prod.snd
        have slots := ((List.Perm.refl p.state.queue).append split).symm.trans h.slots
        exact List.perm_middle.symm.trans slots
      · rw [Places.goTo_state, leases]
        exact h.threads.sublist (List.erase_sublist.map Prod.fst)
      · rw [Places.goTo_state, leases, h.erase]
        by_cases hj : j = i
        · subst hj
          rw [Places.goTo_self, had, has]
          simp only [ne_eq, Prod.mk.injEq, true_and, Option.some.injEq, reduceCtorEq, iff_false]
          rintro ⟨no, rfl⟩
          exact no rfl
        · rw [Places.goTo_other hj]
          simp [hj]

/-- Every step leaves the context as it was seen. -/
lemma ContextSeen.step (h : ContextSeen p) (held : LockHeld Place.locks Shared.holder p)
    (st : Obeys next answers p l p') : ContextSeen p' := by
  cases st with
  | @next i e m s hn hs =>
    have mv := move hn hs
    obtain ⟨same, seen, not⟩ | ⟨-, gone, closing, taken⟩ := mv.context_cases
    · refine ⟨fun j hj => ?_, fun j c hj => ?_⟩
      · rw [Places.goTo_state, same]
        by_cases e : j = i
        · subst e
          rw [Places.goTo_self] at hj
          obtain was | nonzero := seen hj
          · exact h.opened j was
          · exact nonzero
        · rw [Places.goTo_other e] at hj
          exact h.opened j hj
      · rw [Places.goTo_state, same]
        by_cases e : j = i
        · subst e
          rw [Places.goTo_self] at hj
          exact absurd hj (not c)
        · rw [Places.goTo_other e] at hj
          exact h.taken j c hj
    · -- the thread that takes the context has the lock, so no other one relies on it
      have mine : (p.place i).locks = true := by
        rw [closing]
        rfl
      refine ⟨fun j hj => ?_, fun j c hj => gone⟩
      by_cases e : j = i
      · subst e
        rw [Places.goTo_self, taken] at hj
        cases hj
      · rw [Places.goTo_other e] at hj
        exact absurd (held.one (opened_locks hj) mine) e

end Invariants

/-! ## Runs -/

/-- What holds in every state of the protocol. -/
structure Inv (p : Places (Shared ι) ι Place) : Prop where
  lock : LockHeld Place.locks Shared.holder p
  leased : Leased p
  context : ContextSeen p

/-- All threads before their first step. -/
def begin (ctx : Nat) : Places (Shared ι) ι Place :=
  ⟨.initial ctx, fun _ => .out⟩

omit [DecidableEq ι] in
/-- The invariant before the first step. -/
lemma inv_begin {ctx : Nat} : Inv (begin ctx : Places (Shared ι) ι Place) where
  lock := fun _ => ⟨nofun, nofun⟩
  leased := ⟨List.Perm.refl _, List.nodup_nil, fun _ _ => ⟨nofun, nofun⟩, fun _ _ => nofun⟩
  context := ⟨fun _ => nofun, fun _ _ => nofun⟩

/-- Every step keeps the invariant. -/
lemma Inv.step {p p' : Places (Shared ι) ι Place} {l} (h : Inv p)
    (st : Obeys next answers p l p') : Inv p' where
  lock := by
    cases st with
    | next hn hs => exact h.lock.goTo (move hn hs).lock_move
  leased := h.leased.step st
  context := h.context.step h.lock st

section Order

variable {ctx : Nat} {ls : List (Label ι Op Op.Ans)} {p : Places (Shared ι) ι Place}

/-- A run of the protocol. -/
abbrev Run (ctx : Nat) (ls : List (Label ι Op Op.Ans)) (p : Places (Shared ι) ι Place) : Prop :=
  Lts.Exec (· = begin ctx) (Obeys next answers) ls p

/-- The invariant in every run. -/
lemma Run.inv (h : Run ctx ls p) : Inv p :=
  h.invariant (by rintro _ rfl; exact inv_begin) fun _ _ _ hi st => hi.step st

/-- A closed context stays closed. -/
lemma Move.stays_closed {s s' : Shared ι} {i m e m'} (h : Move s i m e m' s') (closed : s.ctx = 0) :
    s'.ctx = 0 := by
  cases h <;> first | exact closed | rfl

/-- No call of an inference follows the one that takes the context. -/
lemma Run.closed (h : Run ctx ls p) :
    Lts.Never (fun l => l.2.1 = .take) (fun l => ∃ c, l.2.1 = .sdk c) ls := by
  refine Lts.Exec.never (J := Inv) (I := fun p => p.state.ctx = 0)
    (by rintro _ rfl; exact inv_begin) (fun _ _ _ hi st => hi.step st) ?_ ?_ ?_ h
  · rintro p l p' - st take
    cases st with
    | next hn hs =>
      obtain ⟨-, -, -⟩ | ⟨-, gone, -, -⟩ := (move hn hs).context_cases
      · exact (move hn hs).take_closes take
      · exact gone
  · rintro p l p' - closed st
    cases st with
    | next hn hs => exact (move hn hs).stays_closed closed
  · rintro p l p' hi closed st ⟨c, call⟩
    cases st with
    | next hn hs => exact hi.context.opened _ ((move hn hs).sdk_opened call) closed

/-- The context is destroyed at most once. -/
lemma Run.destroyed (h : Run ctx ls p) :
    Lts.Never (fun l => ∃ c, l.2.1 = .destroy c) (fun l => ∃ c, l.2.1 = .destroy c) ls := by
  refine Lts.Exec.never (J := Inv)
    (I := fun p => p.state.ctx = 0 ∧ ∀ i c, p.place i ≠ .taken c)
    (by rintro _ rfl; exact inv_begin) (fun _ _ _ hi st => hi.step st) ?_ ?_ ?_ h
  · rintro p l p' hi st ⟨c, call⟩
    cases st with
    | @next i e m s hn hs =>
      obtain ⟨was, is, same⟩ := (move hn hs).destroy_cases call
      -- the context was taken under the lock, so no other thread holds one to destroy
      refine ⟨same.trans (hi.context.taken i c was), fun j x => ?_⟩
      by_cases hj : j = i
      · subst hj
        rw [Places.goTo_self, is]
        nofun
      · rw [Places.goTo_other hj]
        intro other
        refine hj (hi.lock.one (i := j) (j := i) ?_ ?_)
        · rw [other]
          rfl
        · rw [was]
          rfl
  · rintro p l p' hi ⟨closed, none⟩ st
    cases st with
    | @next i e m s hn hs =>
      refine ⟨(move hn hs).stays_closed closed, fun j x => ?_⟩
      by_cases hj : j = i
      · subst hj
        rw [Places.goTo_self]
        obtain ⟨-, -, not⟩ | ⟨-, -, closing, -⟩ := (move hn hs).context_cases
        · exact not x
        · refine absurd closed (hi.context.opened j ?_)
          rw [closing]
          rfl
      · rw [Places.goTo_other hj]
        exact none j x
  · rintro p l p' - ⟨-, none⟩ st ⟨c, call⟩
    cases st with
    | next hn hs => exact none _ c ((move hn hs).destroy_cases call).1

/-- What a thread has got it has released, except for what it owes. -/
lemma owes_path {p p' : Places (Shared ι) ι Place} (path : Lts.Path (Obeys next answers) p ls p')
    (i : ι) :
    (p.place i).owes.toNat + ls.countP (fun l => decide (l.1 = i) && gets l.2) =
      (p'.place i).owes.toNat + ls.countP fun l => decide (l.1 = i) && releases l.2 := by
  induction path with
  | nil => rfl
  | cons st _ ih =>
    cases st with
    | @next j e m s hn hs =>
      rw [List.countP_cons, List.countP_cons]
      by_cases hj : i = j
      · subst hj
        have count := (move hn hs).owes_count
        rw [Places.goTo_self] at ih
        simp only [decide_true, Bool.true_and]
        have g : (if gets e = true then 1 else 0) = (gets e).toNat := by cases gets e <;> rfl
        have r : (if releases e = true then 1 else 0) = (releases e).toNat := by
          cases releases e <;> rfl
        rw [g, r]
        omega
      · rw [Places.goTo_other hj] at ih
        simpa [Ne.symm hj] using ih

/-- A label with an SDK call. -/
def SdkBy (i : ι) (l : Label ι Op Op.Ans) : Prop :=
  l.1 = i ∧ l.2.1.isSdk = true

def UnlockBy (i : ι) (l : Label ι Op Op.Ans) : Prop :=
  l.1 = i ∧ l.2.1 = .unlock

/-- Between SDK calls of two threads the first one has released the lock. -/
lemma Run.apart (h : Run ctx ls p) (i : ι) :
    Lts.Separated (SdkBy i) (fun l => l.1 ≠ i ∧ l.2.1.isSdk = true) (UnlockBy i) ls := by
  refine Lts.Exec.separated (J := Inv) (I := fun p => (p.place i).locks = true)
    (by rintro _ rfl; exact inv_begin) (fun _ _ _ hi st => hi.step st) ?_ ?_ ?_ h
  · rintro p l p' - st ⟨rfl, call⟩
    cases st with
    | next hn hs =>
      rw [Places.goTo_self]
      exact ((move hn hs).sdk_locks call).2
  · rintro p l p' - has st no
    cases st with
    | @next j e m s hn hs =>
      by_cases hj : i = j
      · subst hj
        rw [Places.goTo_self]
        exact (move hn hs).keeps_lock has fun u => no ⟨rfl, u⟩
      · rw [Places.goTo_other hj]
        exact has
  · rintro p l p' hi has st ⟨other, call⟩
    cases st with
    | next hn hs => exact other (hi.lock.one ((move hn hs).sdk_locks call).1 has)

/-- After a release of the lock the SDK calls of a thread start with an input. -/
lemma Run.again (h : Run ctx ls p) (i : ι) :
    Lts.Separated (UnlockBy i) (fun l => l.1 = i ∧ ∃ c, l.2.1 = .sdk c ∧ c ≠ .inputsSet)
      (fun l => l.1 = i ∧ l.2.1 = .sdk .inputsSet) ls := by
  refine Lts.Exec.separated (J := Inv) (I := fun p => (p.place i).submitted = false)
    (by rintro _ rfl; exact inv_begin) (fun _ _ _ hi st => hi.step st) ?_ ?_ ?_ h
  · rintro p l p' - st ⟨rfl, unlock⟩
    cases st with
    | next hn hs =>
      rw [Places.goTo_self]
      exact (move hn hs).unlock_out unlock
  · rintro p l p' - out st no
    cases st with
    | @next j e m s hn hs =>
      by_cases hj : i = j
      · subst hj
        rw [Places.goTo_self]
        exact (move hn hs).keeps_out out fun c => no ⟨rfl, c⟩
      · rw [Places.goTo_other hj]
        exact out
  · rintro p l p' - out st ⟨rfl, c, call, later⟩
    cases st with
    | next hn hs =>
      rw [(move hn hs).sdk_submitted call later] at out
      cases out

/-- From its input to the release of its outputs, a thread is alone with the SDK. -/
lemma Run.exclusive (h : Run ctx ls p) {i l1 a l2 b l3}
    (eq : ls = l1 ++ (i, ⟨.sdk .inputsSet, a⟩) :: (l2 ++ (i, ⟨.sdk .outputsRelease, b⟩) :: l3))
    (one : ∀ x ∈ l2, x.1 = i → x.2.1 ≠ .sdk .inputsSet) :
    ∀ x ∈ l2, x.2.1.isSdk = true → x.1 = i := by
  intro x hx call
  by_contra other
  obtain ⟨m1, m2, rfl⟩ := List.append_of_mem hx
  rw [List.append_assoc, List.cons_append] at eq
  obtain ⟨z, hz, unlock⟩ := h.apart i _ _ _ _ _ eq ⟨rfl, rfl⟩ ⟨other, call⟩
  obtain ⟨n1, n2, rfl⟩ := List.append_of_mem hz
  -- the lock was released, so the outputs that are released belong to another input
  have eq' : ls = (l1 ++ (i, ⟨.sdk .inputsSet, a⟩) :: n1) ++
      z :: ((n2 ++ x :: m2) ++ (i, ⟨.sdk .outputsRelease, b⟩) :: l3) := by
    rw [eq]
    simp
  obtain ⟨y, hy, same, input⟩ := h.again i _ _ _ _ _ eq' unlock
    ⟨rfl, .outputsRelease, rfl, nofun⟩
  refine one y ?_ same input
  rw [List.append_assoc, List.cons_append]
  exact List.mem_append_right n1 (List.mem_cons_of_mem z hy)

end Order

/-- A thread has come to its end, with a value or with an exception. -/
def Finished (c : Code Unit) : Prop :=
  (∃ u, c = .ret u) ∨ ∃ e, c = .fail e

/-- What a run of scopes and calls of `close` must keep to. -/
structure LeasesSafe (ls : List (Label ι Op Op.Ans)) (c : Config (Shared ι) ι Op Op.Ans Raised Unit) :
    Prop where
  /-- Two slots are queued or leased. -/
  count : c.state.queue.length + c.state.leases.length = 2
  /-- No two leases have the same buffers. -/
  buffers : (c.state.leases.map Prod.snd).Nodup
  /-- The `with` block of a scope runs on the buffers that its thread has leased. -/
  block : ∀ i slot r c', Step answers c (i, ⟨.body slot, r⟩) c' → (i, slot) ∈ c.state.leases
  /-- From its input to the release of its outputs, a thread is alone with the SDK. -/
  exclusive : ∀ i l1 a l2 b l3,
    ls = l1 ++ (i, ⟨.sdk .inputsSet, a⟩) :: (l2 ++ (i, ⟨.sdk .outputsRelease, b⟩) :: l3) →
    (∀ x ∈ l2, x.1 = i → x.2.1 ≠ .sdk .inputsSet) → ∀ x ∈ l2, x.2.1.isSdk = true → x.1 = i
  /-- Between SDK calls of two threads the first one has released the lock. -/
  apart : ∀ i, Lts.Separated (SdkBy i) (fun l => l.1 ≠ i ∧ l.2.1.isSdk = true) (UnlockBy i) ls
  /-- No call but the one that destroys it follows the one that takes the context. -/
  closed : Lts.Never (fun l => l.2.1 = .take) (fun l => ∃ c, l.2.1 = .sdk c) ls
  /-- The context is destroyed at most once. -/
  destroyed : Lts.Never (fun l => ∃ c, l.2.1 = .destroy c) (fun l => ∃ c, l.2.1 = .destroy c) ls
  /-- At any moment a thread has released its outputs as often as it got them, or owes one release. -/
  owes : ∀ i, ls.countP (fun l => decide (l.1 = i) && releases l.2) ≤
      ls.countP (fun l => decide (l.1 = i) && gets l.2) ∧
    ls.countP (fun l => decide (l.1 = i) && gets l.2) ≤
      ls.countP (fun l => decide (l.1 = i) && releases l.2) + 1
  /-- A thread that has ended in any way has no slot and no lock, and has released what it got. -/
  returned : ∀ i, Finished (c.code i) →
    (∀ slot, (i, slot) ∉ c.state.leases) ∧ c.state.holder ≠ some i ∧
      ls.countP (fun l => decide (l.1 = i) && gets l.2) =
        ls.countP (fun l => decide (l.1 = i) && releases l.2)

section Threads

variable {works : ι → Work} {ctx : Nat} {ls : List (Label ι Op Op.Ans)}
  {c : Config (Shared ι) ι Op Op.Ans Raised Unit}

/-- A run of the threads is one of the protocol. -/
lemma start_run (run : Lts.Path (Step answers) (start works ctx) ls c) :
    ∃ p, Run ctx ls p ∧ Matches next (fun m _ => Ended m) c p := by
  have matched : Matches next (fun m _ => Ended m) (start works ctx) (begin ctx) := by
    refine ⟨rfl, fun i => ?_⟩
    change Follows next _ (works i).code .out
    cases works i with
    | scope valid => exact borrowOutputs_follows
    | close => exact close_follows
  obtain ⟨p, path, h⟩ := refines matched run
  exact ⟨p, ⟨_, rfl, path⟩, h⟩

omit [DecidableEq ι] in
/-- A finished thread has no slot, no lock and owes nothing. -/
lemma finished_place {p} (h : Matches next (fun m _ => Ended m) c p) (inv : Inv p) {i}
    (done : Finished (c.code i)) : p.place i = .out := by
  have ended : Ended (p.place i) := by
    obtain ⟨u, e⟩ | ⟨x, e⟩ := done
    · exact h.ended.1 u e
    · exact h.ended.2 x e
  obtain out | ⟨slot, full⟩ := ended
  · exact out
  · exact absurd full (inv.leased.taken_back i slot)

/-- The `with` block of a scope runs on the buffers that its thread has leased. -/
lemma body_leased {p} (h : Matches next (fun m _ => Ended m) c p) (inv : Inv p) {i slot r c'}
    (st : Step answers c (i, ⟨.body slot, r⟩) c') : (i, slot) ∈ c.state.leases := by
  obtain ⟨p', obeys, -⟩ := h.step st
  rw [← h.state, inv.leased.lease]
  cases obeys with
  | next hn hs => exact (move hn hs).body_slot rfl

/-- Any number of scopes and calls of `close` on one runtime, whatever fails and times out, behave as
    they should. -/
theorem leases_safe (run : Lts.Path (Step answers) (start works ctx) ls c) : LeasesSafe ls c := by
  obtain ⟨p, h, hm⟩ := start_run run
  have inv := h.inv
  have owes : ∀ i, ls.countP (fun l => decide (l.1 = i) && gets l.2) =
      (p.place i).owes.toNat + ls.countP (fun l => decide (l.1 = i) && releases l.2) := by
    intro i
    obtain ⟨_, rfl, path⟩ := h
    have count := owes_path path i
    rwa [show ((begin ctx : Places (Shared ι) ι Place).place i).owes.toNat = 0 from rfl,
      Nat.zero_add] at count
  refine ⟨?_, ?_, ?_, ?_, h.apart, h.closed, h.destroyed, fun i => ?_, fun i done => ?_⟩
  · rw [← hm.state]
    exact inv.leased.count
  · rw [← hm.state]
    have distinct : ([1, 0] : List Nat).Nodup := by decide
    exact (List.nodup_append.mp (inv.leased.slots.nodup_iff.mpr distinct)).2.1
  · intro i slot r c' st
    exact body_leased hm inv st
  · intro i l1 a l2 b l3 eq one
    exact h.exclusive eq one
  · rw [owes i]
    have small : (p.place i).owes.toNat ≤ 1 := by cases (p.place i).owes <;> decide
    omega
  · have out := finished_place hm inv done
    refine ⟨fun slot mem => ?_, fun holder => ?_, ?_⟩
    · rw [← hm.state, inv.leased.lease, out] at mem
      cases mem
    · rw [← hm.state, ← inv.lock, out] at holder
      cases holder
    · rw [owes i, out]
      exact Nat.zero_add _

end Threads

section Sample

/-- Two scopes and a call of `close`. -/
inductive Who where
  | first
  | second
  | closer
deriving DecidableEq

/-- What each of them does. -/
def sampleWorks : Who → Work
  | .first | .second => .scope true
  | .closer => .close

/-- Both scopes take their buffers before either has run; the second runs while the first is in its
    `with` block, and the context is destroyed while the second is in its own. -/
def sampleRun : List (Label Who Op Op.Ans) :=
  [(.first, ⟨.get, some 1⟩), (.second, ⟨.get, some 0⟩), (.first, ⟨.acquire, true⟩),
    (.first, ⟨.context, (7 : Nat)⟩), (.first, ⟨.sdk .inputsSet, (0 : Int)⟩),
    (.first, ⟨.sdk .run, (0 : Int)⟩), (.first, ⟨.sdk .outputsGet, (0 : Int)⟩),
    (.first, ⟨.metadata 1, true⟩), (.first, ⟨.sdk .outputsRelease, (0 : Int)⟩),
    (.first, ⟨.unlock, ()⟩), (.second, ⟨.acquire, true⟩), (.first, ⟨.body 1, .ok ()⟩),
    (.second, ⟨.context, (7 : Nat)⟩), (.second, ⟨.sdk .inputsSet, (0 : Int)⟩),
    (.second, ⟨.sdk .run, (0 : Int)⟩), (.second, ⟨.sdk .outputsGet, (0 : Int)⟩),
    (.second, ⟨.metadata 0, true⟩), (.second, ⟨.sdk .outputsRelease, (0 : Int)⟩),
    (.second, ⟨.unlock, ()⟩), (.closer, ⟨.lock, ()⟩), (.closer, ⟨.context, (7 : Nat)⟩),
    (.closer, ⟨.take, (7 : Nat)⟩), (.second, ⟨.body 0, .ok ()⟩),
    (.closer, ⟨.destroy 7, (0 : Int)⟩), (.closer, ⟨.unlock, ()⟩), (.first, ⟨.put 1, true⟩),
    (.second, ⟨.put 0, true⟩)]

/-- Two scopes and a close, to their ends. -/
lemma sample_run :
    ∃ c, Lts.Path (Step answers) (start sampleWorks 7) sampleRun c ∧
      c.state = ⟨[0, 1], none, 0, []⟩ ∧ ∀ i, c.code i = .ret () := by
  refine ⟨_, .cons (.ask rfl ⟨[0], rfl, rfl⟩) (.cons (.ask rfl ⟨[], rfl, rfl⟩)
    (.cons (.ask rfl ⟨rfl, rfl⟩) (.cons (.ask rfl ⟨rfl, rfl⟩) (.cons (.ask rfl rfl)
    (.cons (.ask rfl rfl) (.cons (.ask rfl rfl) (.cons (.ask rfl rfl) (.cons (.ask rfl rfl)
    (.cons (.ask rfl rfl) (.cons (.ask rfl ⟨rfl, rfl⟩) (.cons (.ask rfl rfl)
    (.cons (.ask rfl ⟨rfl, rfl⟩) (.cons (.ask rfl rfl) (.cons (.ask rfl rfl)
    (.cons (.ask rfl rfl) (.cons (.ask rfl rfl) (.cons (.ask rfl rfl) (.cons (.ask rfl rfl)
    (.cons (.ask rfl ⟨rfl, rfl⟩) (.cons (.ask rfl ⟨rfl, rfl⟩) (.cons (.ask rfl ⟨rfl, rfl⟩)
    (.cons (.ask rfl rfl) (.cons (.ask rfl rfl) (.cons (.ask rfl rfl)
    (.cons (.ask rfl ⟨by decide, rfl⟩) (.cons (.ask rfl ⟨by decide, rfl⟩)
    .nil)))))))))))))))))))))))))), ?_, ?_⟩
  · rfl
  · intro i
    cases i <;> rfl

/-- `leases_safe` at this run. -/
theorem leases_safe_sample :
    ∃ c, LeasesSafe sampleRun c ∧ c.state = ⟨[0, 1], none, 0, []⟩ ∧ ∀ i, c.code i = .ret () := by
  obtain ⟨c, run, state, code⟩ := sample_run
  exact ⟨c, leases_safe run, state, code⟩

end Sample

end K11CHaos.Inference
