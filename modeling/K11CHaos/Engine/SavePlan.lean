import K11CHaos.Engine.Stable
import K11CHaos.Engine.World

/-!
# Saving a plan

`save_plan` walks through the attempts of a plan (`retried`) until it finds one that was not consumed, and
leaves its text under its hash (`runs_savePlan_ok`). The files may fail in every way that `Files.Step`
allows; what is there stays there.
-/

namespace K11CHaos.Engine

open Prog

namespace Files

/-- Every file is still there, with the same bytes. -/
def Kept (f f' : Files) : Prop :=
  ∀ ⦃p b⦄, f p = some b → f' p = some b

/-- Nothing has been added. -/
lemma Kept.refl {f : Files} : f.Kept f :=
  fun _ _ h => h

/-- One stretch after another. -/
lemma Kept.trans {f f' f'' : Files} (h : f.Kept f') (h' : f'.Kept f'') : f.Kept f'' :=
  fun _ _ e => h' (h e)

/-- The stores of files that were kept are kept. -/
lemma Kept.store {f f' : Files} (h : f.Kept f') : f.store.Kept f'.store :=
  fun _ _ e => store_ok.mpr (h (store_ok.mp e))

/-- A new file leaves the others. -/
lemma kept_set {f : Files} {p : Path} {b : Bytes} (h : f p = none) : f.Kept (f.set p b) := by
  intro q c hq
  have ne : q ≠ p := by
    rintro rfl
    rw [h] at hq
    cases hq
  rwa [set_other ne]

/-- A new directory touches its own path. -/
lemma step_makeDir {f f' : Files} {p : Path} {made : Bool}
    (st : f.Step ⟨.makeDir p, .ok made⟩ f') : f.Kept f' ∧ ∀ q, q ≠ p → f' q = f q := by
  cases made with
  | true =>
    obtain ⟨absent, rfl⟩ := st
    exact ⟨kept_set absent, fun q ne => set_other ne⟩
  | false =>
    obtain ⟨_, rfl⟩ := st
    exact ⟨.refl, fun _ _ => rfl⟩

/-- The sources that an operation sees are files. -/
lemma store_kept {f : Files} {st : Store} (h : ∀ p b, st p = .ok b → f p = some b) :
    st.Kept f.store :=
  fun p b e => store_ok.mpr (h p b e)

end Files

namespace Flash

/-- The name of a plan. -/
def planId (p : Plan) : String :=
  hashBytes p.json.bytes

/-- A plan after some consumed attempts. -/
def retried (p : Plan) (n : Nat) : Plan :=
  if n = 0 then p else { p with attempt := some (p.attempt.getD 0 + n) }

/-- One retry more is one attempt more. -/
lemma retried_succ {p : Plan} {n : Nat} :
    retried { p with attempt := some (p.attempt.getD 0 + 1) } n = retried p (n + 1) := by
  unfold retried
  rw [if_neg (Nat.succ_ne_zero n)]
  split_ifs with h
  · rw [h]
  · simp only [Option.getD_some, Plan.mk.injEq, Option.some.injEq, true_and]
    omega

/-- What a finished `save_plan` leaves: the first attempt that was not consumed, under its name. -/
structure SavedPlan (f f' : Files) (p : Plan) (id : String) (q : Plan) (n : Nat) : Prop where
  attempt : q = retried p n
  named : id = planId q
  consumed : ∀ k < n, f (.used .flash (planId (retried p k))) ≠ none
  fresh : f (.used .flash id) = none
  stored : f' (.plan .flash id) = some q.json.bytes
  kept : f.Kept f'
  others : ∀ path, path ≠ .plan .flash id → f' path = f path

/-- A file that is saved was not there. -/
lemma runs_saveNew_ok {code} {p : Path} {b : Bytes} {t u} {f f' : Files}
    (h : Runs (Workflow.saveNew code p b) t (.ok u)) (path : Lts.Path Files.Step f t f') :
    f p = none ∧ f' = f.set p b := by
  obtain ⟨t1, _, t2, h1, h2, rfl⟩ := runs_bind_ok.mp h
  obtain rfl := runs_createNew_ok.mp h1
  obtain rfl := runs_askAs_ok.mp h2
  obtain _ | ⟨⟨absent, rfl⟩, _ | ⟨⟨c, hc, rfl⟩, _ | _⟩⟩ := path
  rw [Files.set_same] at hc
  cases hc
  refine ⟨absent, funext fun q => ?_⟩
  by_cases e : q = p
  · rw [e, Files.set_same, Files.set_same]
    rfl
  · rw [Files.set_other e, Files.set_other e, Files.set_other e]

/-- A file that is read was there. -/
lemma runs_readBounded_ok {p : Path} {max t b} {f f' : Files}
    (h : Runs (readBounded p max) t (.ok b)) (path : Lts.Path Files.Step f t f') :
    f' = f ∧ f p = some b ∧ b.length ≤ max := by
  obtain ⟨c, t1, rfl, h1⟩ := runs_askAs_bind_ok.mp h
  obtain ⟨_, small, h2⟩ := runs_check_bind_ok.mp h1
  obtain ⟨rfl, e⟩ := runs_pure.mp h2
  cases e
  obtain _ | ⟨⟨rfl, there⟩, _ | _⟩ := path
  exact ⟨rfl, there, by simpa using small⟩

/-- The loop of `save_plan`, by induction on its attempts. -/
lemma runs_savePlanFrom_ok {p : Plan} {t id q} {f f' : Files}
    (h : Runs (savePlanFrom p) t (.ok (id, q))) (path : Lts.Path Files.Step f t f') :
    ∃ n, SavedPlan f f' p id q n := by
  induction hn : 2 ^ 64 - p.attempt.getD 0 using Nat.strongRecOn generalizing p t with
  | _ m ih =>
    rw [savePlanFrom] at h
    obtain ⟨consumed, t1, rfl, h1⟩ := runs_ask_bind_ok.mp h
    obtain _ | ⟨⟨rfl, ec⟩, path⟩ := path
    cases consumed with
    | true =>
      rw [if_pos rfl] at h1
      -- this attempt is used up: the next one, unless the counter is at its end
      split_ifs at h1 with small
      · obtain ⟨n, s⟩ := ih _ (by rw [Option.getD_some]; omega) h1 path rfl
        refine ⟨n + 1, ⟨retried_succ ▸ s.attempt, s.named, fun k hk => ?_, s.fresh, s.stored, s.kept,
          s.others⟩⟩
        cases k with
        | zero => exact Option.isSome_iff_ne_none.mp ec.symm
        | succ k => exact retried_succ ▸ s.consumed k (by omega)
      · obtain ⟨_, e⟩ := runs_reject.mp h1
        cases e
    | false =>
      rw [if_neg Bool.false_ne_true] at h1
      obtain ⟨pending, t2, rfl, h2⟩ := runs_ask_bind_ok.mp h1
      obtain _ | ⟨⟨rfl, ep⟩, path⟩ := path
      have fresh := Option.isNone_iff_eq_none.mp (Option.isSome_eq_false_iff.mp ec.symm)
      refine ⟨0, ?_⟩
      cases pending with
      | true =>
        -- a plan of this name is pending, and is this one
        obtain ⟨t3, b, t4, h3, h4, rfl⟩ := runs_bind_ok.mp h2
        obtain ⟨_, same, h5⟩ := runs_check_bind_ok.mp h4
        obtain ⟨rfl, e⟩ := runs_pure.mp h5
        cases e
        rw [List.append_nil] at path
        obtain ⟨rfl, there, _⟩ := runs_readBounded_ok h3 path
        have e := not_not.mp (deny_ok.mp same)
        exact ⟨rfl, rfl, nofun, fresh, e ▸ there, .refl, fun _ _ => rfl⟩
      | false =>
        obtain ⟨t3, _, t4, h3, h4, rfl⟩ := runs_bind_ok.mp h2
        obtain ⟨rfl, e⟩ := runs_pure.mp h4
        cases e
        rw [List.append_nil] at path
        obtain ⟨absent, rfl⟩ := runs_saveNew_ok h3 path
        exact ⟨rfl, rfl, nofun, fresh, Files.set_same, Files.kept_set absent,
          fun _ ne => Files.set_other ne⟩

/-- A finished `save_plan`. -/
lemma runs_savePlan_ok {p : Plan} {t id q} {f f' : Files}
    (h : Runs (savePlan p) t (.ok (id, q))) (path : Lts.Path Files.Step f t f') :
    ∃ n, q = retried p n ∧ id = planId q ∧
      (∀ k < n, f (.used .flash (planId (retried p k))) ≠ none) ∧
      f (.used .flash id) = none ∧
      f' (.plan .flash id) = some q.json.bytes ∧
      f.Kept f' ∧
      ∀ path, path ≠ .plan .flash id → path ≠ .plan .flash "" → f' path = f path := by
  obtain ⟨made, t1, rfl, h1⟩ := runs_askAs_bind_ok.mp h
  obtain _ | ⟨st, path⟩ := path
  obtain ⟨n, s⟩ := runs_savePlanFrom_ok h1 path
  obtain ⟨kept, rest⟩ := Files.step_makeDir st
  refine ⟨n, s.attempt, s.named, fun k hk => ?_, ?_, s.stored, kept.trans s.kept,
    fun q ne ne' => (s.others q ne).trans (rest q ne')⟩
  · rw [← rest (.used .flash (planId (retried p k))) nofun]
    exact s.consumed k hk
  · rw [← rest (.used .flash id) nofun]
    exact s.fresh

end Flash

end K11CHaos.Engine
