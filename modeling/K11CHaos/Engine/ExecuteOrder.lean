import K11CHaos.Engine.DirectRestore

/-!
# The checks around every write

The order of a run of `execute_with_gate` as a whole, against an arbitrary device, store and gate
(`execute_order`). Before the plan is claimed nothing changes; a write comes only after all checks of the
plan, the source and the device, the gate, the claim and the journal; and a run that journals its end has
reread every range in full after its last write.
-/

namespace K11CHaos.Engine.Flash

open Prog

/-- After its last write a range was reread in full, with the planned hash. -/
def Reread (t : List Ev) (r : Range) : Prop :=
  ∃ pre tr back post,
    t = pre ++ (tr ++ post) ∧
    ReadAll r.lba (blocks chunk r.bytes 0) tr back ∧
    hashBytes back = r.sha256 ∧
    ∀ e ∈ post, e.1.Away r

/-- What an execution that journals its end has seen after its writes. -/
structure Finished (c : Cleared) (t : List Ev) : Prop where
  reread : ∀ r ∈ c.plan.ranges, Reread t r
  /-- The last capture: the intended GPT pair, and the rest of the boot area as the operation leaves it.
  Behind it the identity was read again and nothing was written. -/
  captured : ∃ pre tc after post,
    t = pre ++ (tc ++ ⟨.identity, .ok c.identity⟩ :: post) ∧
    Captured c.identity tc after ∧
    after.primary = c.work.primary ∧
    after.tail = c.work.tail ∧
    frameChecks c.plan c.identity c.saved after = .ok () ∧
    ∀ e ∈ post, e.1.Quiet

/-- The order of a run. -/
structure Ordered (X : Crates) (device : Device) (id : String) (confirmed : Bool) (t : List Ev) :
    Prop where
  /-- A run only looks until it has passed every check and asks for the claim of its plan. -/
  looks : (∀ e ∈ t, e.1.Observes) ∨
    ∃ tp c a tx,
      confirmed = true ∧
      Preflight X device id tp c ∧
      (∀ e ∈ tp, e.1.Observes) ∧
      t = tp ++ ⟨.rename (.plan .flash id) (.used .flash id), a⟩ :: tx ∧
      (tx ≠ [] → a = .ok ()) ∧
      ∀ e ∈ tx, e.1.Within c.plan.ranges
  /-- Before a write every check has passed, the plan is claimed and the journal begun. -/
  writes : ∀ b e u, t = b ++ e :: u → ¬ e.1.Quiet →
    ∃ tp c b', Preflight X device id tp c ∧ b = tp ++ (claim id c.plan ++ b')
  finished : (∃ e ∈ t, e.1 = .note (.journal .flash id) .complete) →
    ∃ tp c tx post,
      Preflight X device id tp c ∧
      t = tp ++ (claim id c.plan ++ (tx ++ post)) ∧
      Finished c tx ∧
      ∀ e ∈ post, e.1.Quiet

/-- Reading observes. -/
lemma ReadAll.observes {lba bs t b} (h : ReadAll lba bs t b) : ∀ e ∈ t, e.1.Observes := by
  induction h with
  | nil => exact fun e he => absurd he List.not_mem_nil
  | cons _ _ ih =>
    intro e he
    obtain rfl | he := List.mem_cons.mp he
    · trivial
    · exact ih e he

/-- A capture observes. -/
lemma Captured.observes {identity t s} (h : Captured identity t s) : ∀ e ∈ t, e.1.Observes := by
  cases h with
  | mk read _ _ _ =>
    intro e he
    obtain he | he := List.mem_append.mp he
    · exact ReadAll.observes read e he
    · obtain rfl := List.mem_singleton.mp he
      trivial

section
variable {X : Crates} {device : Device} {id : String} {confirmed : Bool} {t : List Ev}

/-- A question that is not quiet stands behind the claim and the first line of the journal. -/
lemma traces_claimed {r : Option (Result Outcome)}
    (h : Traces (executeWithGate X device id confirmed) t r) {b : List Ev} {e : Ev} {u : List Ev}
    (eq : t = b ++ e :: u) (loud : ¬ e.1.Quiet) :
    ∃ tp c b', Preflight X device id tp c ∧ b = tp ++ (claim id c.plan ++ b') := by
  obtain ⟨tp, c, b1, hc, rfl, h1⟩ := h.reached_at (clear_observes.mono fun o ho => ho.quiet) eq loud
  obtain ⟨t2, _, b2, h2, rfl, h3⟩ := h1.reached_at (only_askAs.mpr trivial) rfl loud
  obtain rfl := runs_askAs_ok.mp h2
  obtain ⟨t4, _, b3, h4, rfl, h5⟩ := h3.reached_at
    (.bind (only_askAs.mpr trivial) fun _ => only_check) rfl loud
  obtain rfl := runs_createNew_ok.mp h4
  obtain ⟨t6, _, b4, h6, rfl, h7⟩ := h5.reached_at (only_askAs.mpr trivial) rfl loud
  obtain rfl := runs_askAs_ok.mp h6
  exact ⟨tp, c, b4, (runs_clear_ok hc).2, rfl⟩

/-- The end of a transfer that journals it. -/
def closing (id : String) (identity : Identity)
    (a : Op.Ans (.note (.journal .flash id) .complete)) : List Ev :=
  [⟨.identity, .ok identity⟩, ⟨.note (.journal .flash id) .timings, .ok ()⟩,
    ⟨.note (.journal .flash id) .complete, a⟩]

/-- The end of a transaction asks quiet questions. -/
lemma closing_quiet {identity a} : ∀ e ∈ closing id identity a, e.1.Quiet := by
  intro e he
  simp only [closing, List.mem_cons, List.not_mem_nil, or_false] at he
  obtain rfl | rfl | rfl := he <;> trivial

/-- What a transfer that journals its end has seen. -/
lemma transfer_finished {c : Cleared} {tx : List Ev} {r : Result Outcome}
    (laid : Laid c.work.ranges c.identity.sectors) (ranges : c.work.ranges = c.plan.ranges)
    (h : Runs (transfer X id c.plan c.identity c.saved c.work) tx r)
    (hc : ∃ e ∈ tx, e.1 = .note (.journal .flash id) .complete) : Finished c tx := by
  obtain ⟨e, he, hc⟩ := hc
  obtain ⟨ts, tc, after, a, hs, cap, primary, tail, frame, rfl⟩ := runs_transfer_complete h he hc
  refine ⟨fun r hr => ?_, ?_⟩
  · rw [← ranges] at hr
    obtain ⟨pre, tr, back, post, rfl, read, hash, away⟩ := runs_writeSegments_reread hs laid r hr
    refine ⟨opening c.work ++ pre, tr, back, post ++ (tc ++ closing id c.identity a), ?_, read, hash,
      fun e he => ?_⟩
    · rw [closing]
      simp only [List.append_assoc]
    -- what follows the segments does not write
    obtain he | he := List.mem_append.mp he
    · exact away e he
    · obtain he | he := List.mem_append.mp he
      · exact (cap.observes e he).quiet.away
      · exact (closing_quiet e he).away
  · refine ⟨opening c.work ++ ts, tc, after, (closing id c.identity a).tail, ?_, cap, primary, tail,
      frame, fun e he => closing_quiet e (List.mem_of_mem_tail he)⟩
    rw [List.append_assoc]
    rfl

/-- What follows the transfer does not write. -/
lemma after_transfer {tp tx post : List Ev} {c : Cleared} {r res : Result Outcome}
    (h : Runs (executeWithGate X device id confirmed) (tp ++ (claim id c.plan ++ (tx ++ post))) r)
    (hc : Runs (clear X device id confirmed) tp (.ok c))
    (ht : Runs (transfer X id c.plan c.identity c.saved c.work) tx res) :
    ∀ e ∈ post, e.1.Quiet := by
  have h1 := hc.resume h
  have h2 := (runs_askAs_ok.mpr rfl).resume h1
  have h3 := (runs_createNew_ok (u := ()).mpr rfl).resume h2
  have h4 := (runs_askAs_ok.mpr rfl).resume h3
  have h5 := (runs_attempt.mpr ⟨res, ht, rfl⟩).resume h4
  refine Only.runs ?_ h5
  cases res with
  | ok v => exact only_pure
  | error e => exact .bind (Only.attempt (only_askAs.mpr trivial)) fun _ => only_throw

/-- The order of an execution, whatever the device, the store and the gate answer; a run that was cut off
    is the start of one. A run that ends with a value has journaled its end. -/
theorem execute_order {r : Result Outcome}
    (h : Runs (executeWithGate X device id confirmed) t r) :
    Ordered X device id confirmed t ∧
      ∀ v, r = .ok v → ∃ e ∈ t, e.1 = .note (.journal .flash id) .complete := by
  refine ⟨⟨?_, fun b e u eq loud => ?_, ?_⟩, ?_⟩
  · obtain looks | ⟨tp, c, a, tx, hc, eq, answered, within⟩ := begins_executeWithGate h.whole
    · exact .inl looks
    · obtain ⟨conf, pre⟩ := runs_clear_ok hc
      exact .inr ⟨tp, c, a, tx, conf, pre, clear_observes.runs hc, eq, answered, pre.ranges ▸ within⟩
  · exact traces_claimed (r := some r) h eq loud
  · rintro ⟨e, he, hc⟩
    obtain ⟨tp, c, tx, res, post, clr, tr, mem, rfl⟩ := runs_executeWithGate_complete h he hc
    have pre := (runs_clear_ok clr).2
    exact ⟨tp, c, tx, post, pre, rfl, transfer_finished pre.laid pre.ranges tr mem,
      after_transfer h clr tr⟩
  · rintro v rfl
    obtain ⟨tp, c, tx, _, tr, rfl⟩ := runs_executeWithGate_ok h
    have last := List.mem_append_right (claim id c.plan) (runs_transfer_ok tr)
    exact ⟨_, List.mem_append_right tp last, rfl⟩

/-- The image of zeros is written, so the end of a run is journaled. -/
theorem execute_order_of_zeros : ∃ t,
    Ordered .reference sampleDevice (planId (samplePlan 0)) true t ∧
      ∃ e ∈ t, e.1 = .note (.journal .flash (planId (samplePlan 0))) .complete := by
  obtain ⟨t, v, _, runs, _⟩ := sample_written
  obtain ⟨ordered, complete⟩ := execute_order runs
  exact ⟨t, ordered, complete v rfl⟩

end

end K11CHaos.Engine.Flash
