import K11CHaos.Engine.Transfer

/-!
# Order of an execution

What a run of `execute_with_gate` has established, and in which order, against an arbitrary device, store
and gate. `Preflight` is the trace of the part that only looks; `begins_executeWithGate` splits every run,
wherever it stops, into that part, the claim of the plan and what follows; no write comes earlier.
`runs_executeWithGate_complete` does so for a run that journals its end.
-/

namespace K11CHaos.Engine.Flash

open Prog

/-- The boot area that an execution expects to find: the area itself, with the fingerprint of the plan, or
    the one in the legacy recovery backup. -/
inductive Expected (X : Crates) (p : Plan) (identity : Identity) : List Ev → Snapshot → Prop where
  | fingerprint {hash t s} :
    p.targetBootSha256 = some hash →
    Captured identity t s →
    s.digest = hash →
    Expected X p identity t s
  | backup {st s} :
    p.targetBootSha256 = none →
    snapshot X st p.backup identity = .ok s →
    Expected X p identity [⟨.sources, .ok st⟩] s

/-- The capability byte shows `Read LBA`. -/
def fullRead (caps : Vector UInt8 8) : Prop :=
  caps.get 0 &&& 8 ≠ 0

/-- The trace of an execution up to the open gate: every check between two questions has passed. -/
inductive Preflight (X : Crates) (device : Device) (id : String) : List Ev → Cleared → Prop where
  | mk {text p who caps te saved st work tc current caps'} :
    hashBytes text = id →
    X.parsePlan text = .ok p →
    planSound p = .ok () →
    p.device.instanceId = device.instanceId →
    p.device.location = device.location →
    who = p.identity →
    who.storage = "emmc" →
    fullRead caps →
    34849 < who.sectors →
    Expected X p who te saved →
    build X st p.operation p.source who saved true = .ok work →
    work.ranges = p.ranges →
    Captured who tc current →
    current.head = saved.head →
    current.tail = saved.tail →
    fullRead caps' →
    text.length ≤ maxPlan →
    Preflight X device id
      (⟨.load (.plan .flash id), .ok text⟩ :: ⟨.identity, .ok who⟩ :: ⟨.capability, .ok caps⟩ ::
        (te ++ ⟨.sources, .ok st⟩ :: (tc ++ [⟨.identity, .ok who⟩, ⟨.capability, .ok caps'⟩,
          ⟨.gate, .ok ()⟩])))
      ⟨p, who, saved, work⟩

/-- The ranges of a cleared plan are laid out soundly. -/
lemma Preflight.laid {X device id t} {c : Cleared} (h : Preflight X device id t c) :
    Laid c.work.ranges c.identity.sectors := by
  cases h with
  | mk _ _ _ _ _ _ _ _ _ _ built => exact build_laid built

/-- The ranges of a cleared plan are the ones that were announced. -/
lemma Preflight.ranges {X device id t} {c : Cleared} (h : Preflight X device id t c) :
    c.work.ranges = c.plan.ranges := by
  cases h with
  | mk _ _ _ _ _ _ _ _ _ _ _ ranges => exact ranges

/-- The loader says that it reads everything. -/
lemma runs_requireFullRead_ok {t s} (h : Runs requireFullRead t (.ok s)) :
    ∃ caps, t = [⟨.capability, .ok caps⟩] ∧ fullRead caps := by
  obtain ⟨caps, t1, rfl, h1⟩ := runs_ask_bind_ok.mp h
  obtain ⟨_, hc, h2⟩ := runs_check_bind_ok.mp h1
  obtain ⟨rfl, _⟩ := runs_pure.mp h2
  exact ⟨caps, rfl, deny_ok.mp hc⟩

/-- A plan that is loaded is sound and has the digest it was asked for. -/
lemma runs_loadPlan_ok {X id t p} (h : Runs (loadPlan X id) t (.ok p)) :
    ∃ text, t = [⟨.load (.plan .flash id), .ok text⟩] ∧ hashBytes text = id ∧
      text.length ≤ maxPlan ∧ X.parsePlan text = .ok p ∧ planSound p = .ok () := by
  obtain ⟨_, _, h1⟩ := runs_check_bind_ok.mp h
  obtain ⟨t1, text, t2, hb, h2, rfl⟩ := runs_bind_ok.mp h1
  obtain ⟨_, t3, rfl, h3⟩ := runs_askAs_bind_ok.mp hb
  obtain ⟨_, hm, h4⟩ := runs_check_bind_ok.mp h3
  obtain ⟨rfl, e⟩ := runs_pure.mp h4
  cases e
  obtain ⟨_, hh, h5⟩ := runs_check_bind_ok.mp h2
  obtain ⟨q, hp, h6⟩ := runs_check_bind_ok.mp h5
  obtain ⟨_, hs, h7⟩ := runs_check_bind_ok.mp h6
  obtain ⟨rfl, e⟩ := runs_pure.mp h7
  cases e
  refine ⟨text, rfl, by simpa using hh, by simpa using hm, ?_, hs⟩
  unfold parsed at hp
  cases hq : X.parsePlan text with
  | error e =>
    rw [hq] at hp
    cases hp
  | ok q =>
    rw [hq] at hp
    cases hp
    rfl

/-- Loading a plan changes nothing. -/
lemma loadPlan_observes {X id} : (loadPlan X id).Only Op.Observes :=
  .bind only_check fun _ => .bind (.bind (only_askAs.mpr trivial) fun _ =>
    .bind only_check fun _ => only_pure) fun _ => .bind only_check fun _ =>
    .bind only_check fun _ => .bind only_check fun _ => only_pure

/-- What the expected boot area was built from. -/
lemma runs_expectedArea_ok {X p identity t s}
    (h : Runs (expectedArea X p identity) t (.ok s)) : Expected X p identity t s := by
  unfold expectedArea at h
  cases hp : p.targetBootSha256 with
  | some hash =>
    simp only [hp] at h
    obtain ⟨tc, observed, t1, hc, h1, rfl⟩ := runs_bind_ok.mp h
    obtain ⟨_, hd, h2⟩ := runs_check_bind_ok.mp h1
    obtain ⟨rfl, e⟩ := runs_pure.mp h2
    cases e
    rw [List.append_nil]
    exact .fingerprint hp (runs_capture_ok hc) (by simpa using hd)
  | none =>
    simp only [hp] at h
    obtain ⟨st, t1, rfl, h1⟩ := runs_ask_bind_ok.mp h
    obtain ⟨rfl, hs⟩ := runs_check.mp h1
    exact .backup hp hs.symm

/-- Building the expected boot area changes nothing. -/
lemma expectedArea_observes {X p identity} :
    (expectedArea X p identity).Only Op.Observes := by
  unfold expectedArea
  cases p.targetBootSha256 with
  | some hash => exact .bind capture_observes fun _ => .bind only_check fun _ => only_pure
  | none => exact .bind (only_ask.mpr trivial) fun _ => only_check

/-- The checks before the claim change nothing. -/
lemma clear_observes {X device id confirmed} :
    (clear X device id confirmed).Only Op.Observes := by
  refine .bind only_check fun _ => .bind only_check fun _ => .bind loadPlan_observes fun _ => ?_
  refine .bind only_check fun _ => .bind (only_ask.mpr trivial) fun _ => .bind only_check fun _ => ?_
  refine .bind requireFullRead_observes fun _ => .bind only_check fun _ => .bind only_check fun _ => ?_
  refine .bind expectedArea_observes fun _ => .bind (only_ask.mpr trivial) fun _ => ?_
  refine .bind only_check fun _ => .bind only_check fun _ => .bind capture_observes fun _ => ?_
  refine .bind only_check fun _ => .bind (only_ask.mpr trivial) fun _ => .bind only_check fun _ => ?_
  exact .bind requireFullRead_observes fun _ => .bind (only_ask.mpr trivial) fun _ => only_pure

/-- The part of an execution that only looks ends with an open gate after every check. -/
lemma runs_clear_ok {X device id confirmed t c}
    (h : Runs (clear X device id confirmed) t (.ok c)) :
    confirmed = true ∧ Preflight X device id t c := by
  obtain ⟨_, hconf, h1⟩ := runs_check_bind_ok.mp h
  obtain ⟨_, _, h2⟩ := runs_check_bind_ok.mp h1
  obtain ⟨tl, p, t3, hl, h3, rfl⟩ := runs_bind_ok.mp h2
  obtain ⟨text, rfl, hash, small, parse, sound⟩ := runs_loadPlan_ok hl
  obtain ⟨_, place, h4⟩ := runs_check_bind_ok.mp h3
  obtain ⟨who, t5, rfl, h5⟩ := runs_ask_bind_ok.mp h4
  obtain ⟨_, emmc, h6⟩ := runs_check_bind_ok.mp h5
  obtain ⟨_, _, t7, hf, h7, rfl⟩ := runs_bind_ok.mp h6
  obtain ⟨caps, rfl, full⟩ := runs_requireFullRead_ok hf
  obtain ⟨_, cap, h8⟩ := runs_check_bind_ok.mp h7
  obtain ⟨_, same, h9⟩ := runs_check_bind_ok.mp h8
  obtain ⟨te, saved, t10, he, h10, rfl⟩ := runs_bind_ok.mp h9
  obtain ⟨st, t11, rfl, h11⟩ := runs_ask_bind_ok.mp h10
  obtain ⟨work, hb, h12⟩ := runs_check_bind_ok.mp h11
  obtain ⟨_, ranges, h13⟩ := runs_check_bind_ok.mp h12
  obtain ⟨tc, current, t14, hc, h14, rfl⟩ := runs_bind_ok.mp h13
  obtain ⟨_, area, h15⟩ := runs_check_bind_ok.mp h14
  obtain ⟨again, t16, rfl, h16⟩ := runs_ask_bind_ok.mp h15
  obtain ⟨_, still, h17⟩ := runs_check_bind_ok.mp h16
  obtain ⟨_, _, t18, hf', h18, rfl⟩ := runs_bind_ok.mp h17
  obtain ⟨caps', rfl, full'⟩ := runs_requireFullRead_ok hf'
  obtain ⟨_, t19, rfl, h19⟩ := runs_ask_bind_ok.mp h18
  obtain ⟨rfl, e⟩ := runs_pure.mp h19
  cases e
  simp only [deny_ok, requireEmmc, not_or, not_not] at hconf place emmc same ranges area still
  subst still
  refine ⟨by simpa using hconf, ?_⟩
  exact .mk hash parse sound place.1 place.2 same emmc full
    (UInt32.not_le.mp (deny_ok.mp cap)) (runs_expectedArea_ok he) hb ranges (runs_capture_ok hc)
    area.1 area.2 full' small

/-- The claim of a plan, and the opened journal. -/
def claim (id : String) (p : Plan) : List Ev :=
  [⟨.rename (.plan .flash id) (.used .flash id), .ok ()⟩, ⟨.create (.journal .flash id), .ok true⟩,
    ⟨.note (.journal .flash id)
      (.started p.json (if p.backup = "" then none else some p.backup)), .ok ()⟩]

/-- Every run, wherever it stops, only looks, or it has cleared its plan and asked for its claim; what
    follows the claim writes inside the ranges of the work alone. -/
lemma begins_executeWithGate {X device id confirmed t}
    (h : Begins (executeWithGate X device id confirmed) t) :
    (∀ e ∈ t, e.1.Observes) ∨
      ∃ tp c a tx,
        Runs (clear X device id confirmed) tp (.ok c) ∧
        t = tp ++ ⟨.rename (.plan .flash id) (.used .flash id), a⟩ :: tx ∧
        (tx ≠ [] → a = .ok ()) ∧
        ∀ e ∈ tx, e.1.Within c.work.ranges := by
  obtain h1 | ⟨tp, c, t1, hc, h1, rfl⟩ := begins_bind h
  · exact .inl (clear_observes.begins h1)
  have laid := (runs_clear_ok hc).2.laid
  cases h1 with
  | stop =>
    rw [List.append_nil]
    exact .inl (clear_observes.runs hc)
  | @ask _ _ a tx h2 =>
    refine .inr ⟨tp, c, a, tx, hc, rfl, ?_⟩
    cases a with
    | error e =>
      cases h2
      exact ⟨fun h => absurd rfl h, fun e he => absurd he List.not_mem_nil⟩
    | ok u =>
      refine ⟨fun _ => rfl, Only.begins (?_ : Only _ _) h2⟩
      refine .bind (only_check (x := .ok ())) fun _ => ?_
      refine .bind (.bind (only_askAs.mpr trivial) fun _ => only_check) fun _ => ?_
      refine .bind (only_askAs.mpr trivial) fun _ => ?_
      refine .bind (transfer_within laid).attempt fun run => ?_
      cases run with
      | ok v => exact only_pure
      | error e => exact .bind (Only.attempt (only_askAs.mpr trivial)) fun _ => only_throw

/-- A run that ends with a value: preflight, claim, transfer. -/
lemma runs_executeWithGate_ok {X device id confirmed t v}
    (h : Runs (executeWithGate X device id confirmed) t (.ok v)) :
    ∃ tp c tx,
      Runs (clear X device id confirmed) tp (.ok c) ∧
      Runs (transfer X id c.plan c.identity c.saved c.work) tx (.ok v) ∧
      t = tp ++ (claim id c.plan ++ tx) := by
  obtain ⟨tp, c, t1, hc, h1, rfl⟩ := runs_bind_ok.mp h
  obtain ⟨_, t2, rfl, h2⟩ := runs_askAs_bind_ok.mp h1
  obtain ⟨t3, _, t4, hn, h3, rfl⟩ := runs_bind_ok.mp h2
  obtain rfl := runs_createNew_ok.mp hn
  obtain ⟨_, t5, rfl, h4⟩ := runs_askAs_bind_ok.mp h3
  obtain ⟨tx, run, t6, hr, h5, rfl⟩ := runs_bind_ok.mp h4
  obtain ⟨_, ht, e⟩ := runs_attempt.mp hr
  cases e
  cases run with
  | ok w =>
    obtain ⟨rfl, e⟩ := runs_pure.mp h5
    cases e
    rw [List.append_nil]
    exact ⟨tp, c, tx, hc, ht, rfl⟩
  | error e =>
    obtain ⟨_, _, _, _, h6, _⟩ := runs_bind_ok.mp h5
    obtain ⟨_, e⟩ := runs_throw.mp h6
    cases e

/-- A run that journals its end: preflight, claim, and a transfer that journals its end. -/
lemma runs_executeWithGate_complete {X device id confirmed t r e}
    (h : Runs (executeWithGate X device id confirmed) t r) (he : e ∈ t)
    (hc : e.1 = .note (.journal .flash id) .complete) :
    ∃ tp c tx res post,
      Runs (clear X device id confirmed) tp (.ok c) ∧
      Runs (transfer X id c.plan c.identity c.saved c.work) tx res ∧
      (∃ e' ∈ tx, e'.1 = .note (.journal .flash id) .complete) ∧
      t = tp ++ (claim id c.plan ++ (tx ++ post)) := by
  have hu : ¬ e.1.Unfinished id := fun h => h hc
  obtain ⟨tp, c, t1, hcl, h1, rfl, m1⟩ := h.reached
    (clear_observes.mono fun o ho => ho.unfinished) he hu
  obtain ⟨_, _, t2, hren, h2, rfl, m2⟩ := h1.reached (only_askAs.mpr nofun) m1 hu
  obtain rfl := runs_askAs_ok.mp hren
  obtain ⟨_, _, t3, hn, h3, rfl, m3⟩ := h2.reached
    (.bind (only_askAs.mpr nofun) fun _ => only_check) m2 hu
  obtain rfl := runs_createNew_ok.mp hn
  obtain ⟨_, _, t4, hj, h4, rfl, m4⟩ := h3.reached (journal_unfinished nofun) m3 hu
  obtain rfl := runs_askAs_ok.mp hj
  obtain ⟨_, ha, _⟩ | ⟨tx, run, post, ha, h5, rfl⟩ := runs_bind.mp h4
  · obtain ⟨_, _, e'⟩ := runs_attempt.mp ha
    cases e'
  obtain ⟨_, ht, e'⟩ := runs_attempt.mp ha
  cases e'
  refine ⟨tp, c, tx, run, post, hcl, ht, ?_, rfl⟩
  obtain he | he := List.mem_append.mp m4
  · exact ⟨e, he, hc⟩
  · refine absurd (Only.runs (?_ : Only (Op.Unfinished id) _) h5 e he) hu
    cases run with
    | ok v => exact only_pure
    | error e => exact .bind (Only.attempt (journal_unfinished nofun)) fun _ => only_throw

end K11CHaos.Engine.Flash
