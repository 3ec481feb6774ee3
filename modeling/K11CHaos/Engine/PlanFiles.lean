import K11CHaos.Engine.FactoryInstall
import K11CHaos.Engine.Planned
import K11CHaos.Lib.Moves

/-!
# The files of a plan

What planning and executing do to the two files of a plan, `<id>.json` and `<id>.used.json`, in both plan
directories, wherever they stop. Planning only adds a plan that is neither there nor consumed
(`Files.Grows`); an execution leaves all plans alone, or it consumes its own (`Files.Claims`), and it writes
to the device only in that case.
-/

namespace K11CHaos.Engine

open Prog

namespace Files

/-- No plan is consumed or lost, and a new one was neither there nor consumed. The directory of the plans
    is the one without a name. -/
structure Grows (f f' : Files) : Prop where
  used : ∀ dir id, f' (.used dir id) = f (.used dir id)
  plan : ∀ dir id, f' (.plan dir id) = f (.plan dir id) ∨
    f (.plan dir id) = none ∧ (id = "" ∨ f (.used dir id) = none)

/-- A plan was there, and is consumed. -/
structure Claims (dir : PlanDir) (id : String) (f f' : Files) : Prop where
  named : id ≠ ""
  pending : f (.plan dir id) ≠ none
  gone : f' (.plan dir id) = none
  used : f' (.used dir id) ≠ none
  others : ∀ p : Path, p.Planned → p ≠ .plan dir id → p ≠ .used dir id → f' p = f p

variable {f f' f'' : Files}

/-- Files whose plans are the same have grown. -/
lemma Same.grows (h : f.Same f') : f.Grows f' :=
  ⟨fun _ _ => h _ trivial, fun _ _ => .inl (h _ trivial)⟩

/-- One stretch after another. -/
lemma Grows.trans (h : f.Grows f') (h' : f'.Grows f'') : f.Grows f'' := by
  refine ⟨fun dir id => (h'.used dir id).trans (h.used dir id), fun dir id => ?_⟩
  obtain first | new := h.plan dir id
  · obtain second | ⟨absent, free⟩ := h'.plan dir id
    · exact .inl (second.trans first)
    · rw [first] at absent
      rw [h.used] at free
      exact .inr ⟨absent, free⟩
  · exact .inr new

instance : IsPreorder Files Same where
  refl _ := same_refl
  trans _ _ _ := Same.trans

instance : IsPreorder Files Grows where
  refl _ := same_refl.grows
  trans _ _ _ := Grows.trans

/-- A new plan that is not consumed. -/
lemma grows_new {dir : PlanDir} {id : String} (absent : f (.plan dir id) = none)
    (free : id = "" ∨ f (.used dir id) = none)
    (others : ∀ q, q ≠ .plan dir id → f' q = f q) : f.Grows f' := by
  refine ⟨fun d i => others _ nofun, fun d i => ?_⟩
  by_cases same : Path.plan d i = .plan dir id
  · cases same
    exact .inr ⟨absent, free⟩
  · exact .inl (others _ same)

/-- A directory for plans adds no plan. -/
lemma grows_makeDir {dir : PlanDir} {a} (st : f.Step ⟨.makeDir (.plan dir ""), a⟩ f') :
    f.Grows f' := by
  have made (absent : f (.plan dir "") = none) : f.Grows (f.set (.plan dir "") []) :=
    grows_new absent (.inl rfl) fun q ne => set_other ne
  cases a with
  | error e =>
    obtain rfl | ⟨absent, rfl⟩ := st
    · exact same_refl.grows
    · exact made absent
  | ok v =>
    cases v with
    | true =>
      obtain ⟨absent, rfl⟩ := st
      exact made absent
    | false =>
      obtain ⟨-, rfl⟩ := st
      exact same_refl.grows

/-- A file got a new name, or nothing has happened. -/
lemma Step.renamed {p q : Path} {a} (st : f.Step ⟨.rename p q, a⟩ f') :
    f' = f ∨ ∃ c, f p = some c ∧ f' = f.move p q c := by
  cases a with
  | error e => exact st
  | ok u => exact .inr st

/-- Moving a plan to the consumed ones. -/
lemma claims_move {dir : PlanDir} {id : String} {c : Bytes} (named : id ≠ "")
    (there : f (.plan dir id) = some c) (h : (f.move (.plan dir id) (.used dir id) c).Same f') :
    f.Claims dir id f' := by
  refine ⟨named, ?_, ?_, ?_, fun p planned ne ne' => ?_⟩
  · rw [there]
    exact Option.some_ne_none c
  · have other : Path.plan dir id ≠ .used dir id := nofun
    rw [h (.plan dir id) trivial, move, set_other other, unset_same]
  · rw [h (.used dir id) trivial, move, set_same]
    exact Option.some_ne_none c
  · rw [h p planned, move_other ne ne']

end Files

/-- Questions that only write to one file. -/
def Op.Fills (p : Path) : Op → Prop
  | .create q | .append q _ => q = p
  | _ => False

/-- A new file touches its own path. -/
lemma saveNew_fills {code} {p : Path} {b : Bytes} :
    (Workflow.saveNew code p b).Only (Op.Fills p) :=
  .bind (.bind (only_askAs.mpr rfl) fun _ => only_check) fun _ => only_askAs.mpr rfl

/-- Filling one path leaves the others alone. -/
lemma Files.Step.fills {f f' : Files} {p q : Path} {e : Ev} (h : f.Step e f') (fills : e.1.Fills p)
    (ne : q ≠ p) : f' q = f q := by
  obtain ⟨o, a⟩ := e
  cases o with
  | create r =>
    obtain rfl : r = p := fills
    cases a with
    | error e =>
      obtain rfl | ⟨-, rfl⟩ := h
      · rfl
      · exact set_other ne
    | ok v =>
      cases v with
      | true =>
        obtain ⟨-, rfl⟩ := h
        exact set_other ne
      | false =>
        obtain ⟨-, rfl⟩ := h
        rfl
  | append r b =>
    obtain rfl : r = p := fills
    cases a with
    | error e =>
      obtain rfl | ⟨c, k, -, rfl⟩ := h
      · rfl
      · exact set_other ne
    | ok v =>
      obtain ⟨c, -, rfl⟩ := h
      exact set_other ne
  | _ => exact fills.elim

section
variable {α : Type} {f f' : Files}

/-- What spares the plans only looks at them. -/
lemma moves_spares {m : Eng α} (h : m.Only Op.Spares) : Moves Files.Step Files.Grows m f :=
  h.moves fun _ spares _ _ st => (st.spares spares).grows

/-- What observes moves nothing. -/
lemma moves_observes {m : Eng α} (h : m.Only Op.Observes) : Moves Files.Step Files.Grows m f :=
  moves_spares (h.mono fun _ ho => ho.spares)

/-- A plan that is neither there nor consumed is added. -/
lemma moves_saveNew {code} {dir : PlanDir} {id : String} {b : Bytes}
    (absent : f (.plan dir id) = none) (free : f (.used dir id) = none) :
    Moves Files.Step Files.Grows (Workflow.saveNew code (.plan dir id) b) f := by
  intro t f' h path
  refine Files.grows_new absent (.inr free) fun q ne => ?_
  have fills := saveNew_fills.begins h
  clear h absent free
  induction path with
  | nil => rfl
  | cons st _ ih =>
    rw [ih fun e he => fills e (List.mem_cons_of_mem _ he)]
    exact st.fills (fills _ List.mem_cons_self) ne

/-- Ask whether a file is there; a file that is not is absent. -/
lemma moves_present {p : Path} {k : Bool → Eng α}
    (there : Moves Files.Step Files.Grows (k true) f)
    (absent : f p = none → Moves Files.Step Files.Grows (k false) f) :
    Moves Files.Step Files.Grows (ask (.present p) >>= k) f := by
  refine .bind (moves_observes (only_ask.mpr trivial)) fun t v f1 h path => ?_
  obtain rfl := runs_ask.mp h
  obtain _ | ⟨⟨rfl, e⟩, _ | _⟩ := path
  cases v with
  | true => exact there
  | false => exact absent (Option.isNone_iff_eq_none.mp (Option.isSome_eq_false_iff.mp e.symm))

/-- A directory for plans is a move. -/
lemma moves_makeDir {code} {dir : PlanDir} :
    Moves Files.Step Files.Grows (askAs code (.makeDir (.plan dir ""))) f := by
  intro t f' h path
  cases h with
  | stop =>
    cases path
    exact Files.same_refl.grows
  | ask h =>
    obtain rfl := begins_ofExcept.mp h
    obtain _ | ⟨st, _ | _⟩ := path
    exact Files.grows_makeDir st

end

/-! ## Planning -/

namespace Flash

variable {X : Crates} {device : Device} {f : Files}

/-- Saving under the first free name is a move. -/
lemma moves_savePlanFrom {p : Plan} : Moves Files.Step Files.Grows (savePlanFrom p) f := by
  induction hn : 2 ^ 64 - p.attempt.getD 0 using Nat.strongRecOn generalizing p with
  | _ m ih =>
    rw [savePlanFrom]
    refine moves_present ?_ fun free => ?_
    · rw [if_pos rfl]
      split_ifs
      · exact ih _ (by rw [Option.getD_some]; omega) rfl
      · exact moves_observes only_reject
    · rw [if_neg Bool.false_ne_true]
      refine moves_present ?_ fun absent => ?_
      · rw [if_pos rfl]
        exact moves_observes (.bind (.bind (only_askAs.mpr trivial) fun _ => .bind only_check fun _ =>
          only_pure) fun _ => .bind only_check fun _ => only_pure)
      · rw [if_neg Bool.false_ne_true]
        exact (moves_saveNew absent free).seq fun _ _ => moves_observes only_pure

/-- Saving a plan of `flash` is a move. -/
lemma moves_savePlan {p : Plan} : Moves Files.Step Files.Grows (savePlan p) f :=
  moves_makeDir.seq fun _ _ => moves_savePlanFrom

/-- Planning adds at most a new plan. -/
lemma moves_planInner {operation source : String} {recovery : Recovery} :
    Moves Files.Step Files.Grows (planInner X device operation source recovery) f := by
  refine .seq (moves_observes only_check) fun _ _ => .seq (moves_observes only_check) fun _ _ => ?_
  refine .seq (moves_observes (only_ask.mpr trivial)) fun _ _ => .seq (moves_observes only_check) fun _ _ => ?_
  refine .seq (moves_observes requireFullRead_observes) fun _ _ =>
    .seq (moves_observes only_check) fun _ _ => ?_
  refine .seq (moves_observes capture_observes) fun _ _ =>
    .seq (moves_observes (only_ask.mpr trivial)) fun _ _ => ?_
  refine .seq (moves_observes only_check) fun work _ => .seq (moves_observes only_check) fun _ _ => ?_
  split_ifs
  · exact moves_observes only_pure
  · refine .seq (moves_spares (recoveryBackup_saves.mono fun _ h => h.spares)) fun _ _ => ?_
    exact moves_savePlan.seq fun _ _ =>
      .seq (moves_observes revisionOf_observes) fun _ _ => moves_observes only_pure

/-- A plan that was returned has a name that was not consumed, and lies there. -/
lemma planInner_named {operation source : String} {recovery : Recovery} {t id p firmware erases}
    {f f' : Files}
    (h : Runs (planInner X device operation source recovery) t (.ok (.plan id p firmware erases)))
    (path : Lts.Path Files.Step f t f') :
    id = planId p ∧ f' (.used .flash id) = none ∧ f' (.plan .flash id) = some p.json.bytes := by
  obtain ⟨_, _, h1⟩ := runs_check_bind_ok.mp h
  obtain ⟨_, _, h2⟩ := runs_check_bind_ok.mp h1
  obtain ⟨who, t1, rfl, h3⟩ := runs_ask_bind_ok.mp h2
  obtain ⟨_, _, h4⟩ := runs_check_bind_ok.mp h3
  obtain ⟨t2, _, t3, _, h5, rfl⟩ := runs_bind_ok.mp h4
  obtain ⟨_, _, h6⟩ := runs_check_bind_ok.mp h5
  obtain ⟨t4, current, t5, _, h7, rfl⟩ := runs_bind_ok.mp h6
  obtain ⟨st, t6, rfl, h8⟩ := runs_ask_bind_ok.mp h7
  obtain ⟨work, _, h9⟩ := runs_check_bind_ok.mp h8
  obtain ⟨_, _, h10⟩ := runs_check_bind_ok.mp h9
  split_ifs at h10 with none
  · obtain ⟨_, e⟩ := runs_pure.mp h10
    cases e
  obtain ⟨t7, backup, t8, _, h11, rfl⟩ := runs_bind_ok.mp h10
  obtain ⟨t9, ⟨id', q⟩, t10, h12, h13, rfl⟩ := runs_bind_ok.mp h11
  obtain ⟨t11, revision, t12, h14, h15, rfl⟩ := runs_bind_ok.mp h13
  obtain ⟨rfl, e⟩ := runs_pure.mp h15
  cases e
  -- the last part of the path is the one of `save_plan`, and behind it the run only looks
  obtain _ | ⟨_, path⟩ := path
  obtain ⟨_, _, path⟩ := path.append_inv
  obtain ⟨_, _, path⟩ := path.append_inv
  obtain _ | ⟨_, path⟩ := path
  obtain ⟨_, _, path⟩ := path.append_inv
  obtain ⟨f1, saved, rest⟩ := path.append_inv
  rw [List.append_nil] at rest
  obtain rfl := Files.path_observes rest (revisionOf_observes.runs h14)
  obtain ⟨n, -, named, -, fresh, stored, -, others⟩ := runs_savePlan_ok h12 saved
  exact ⟨named, (others (.used .flash id) nofun nofun).trans fresh, stored⟩

end Flash

namespace Factory

/-- The end of `plan`: the plan in its directory. -/
def savePlan (p : FactoryPlan) : Eng String := do
  let bytes := p.json.bytes
  let id := hashBytes bytes
  let _ ← askAs "FACTORY_IMAGE" (.makeDir (.plan .factory ""))
  let consumed : Bool ← ask (.present (.used .factory id))
  if consumed then
    reject "PLAN_CHANGED" "This installation was already attempted"
  else
    let pending : Bool ← ask (.present (.plan .factory id))
    if pending then
      let b : Bytes ← askAs "FACTORY_IMAGE" (.load (.plan .factory id))
      check (deny (b ≠ bytes) "PLAN_CHANGED" "Manufacturer plan changed")
    else
      Workflow.saveNew "FACTORY_IMAGE" (.plan .factory id) bytes
    return id

/-- What `plan` reports: the plan of a disk image for `flash`, or the one of a firmware package. -/
inductive Planned where
  | raw (p : Flash.Planned)
  | firmware (id : String) (p : FactoryPlan) (ranges : List (String × UInt32 × Nat))

/-- `plan` of a firmware package. -/
def planFirmware (device : Device) (source : String) (identity : Identity) (image : Image)
    (file : Bytes) : Eng Planned := do
  check (deny (image.format ≠ "RKFW") "FACTORY_IMAGE" "Expected RKFW firmware")
  toolBundle Pins.source
  check (validateCapacity image identity.sectors)
  -- the whole layout is checked before anything that can write is started
  let _ ← check (verification image file identity.sectors)
  let headers ← headersDigest identity
  let p : FactoryPlan := ⟨1, "factory", source, device, identity, report image, headers⟩
  let id ← savePlan p
  return .firmware id p (planRanges image identity.sectors)

/-- `plan`. -/
def plan (X : Crates) (device : Device) (source : String) : Eng Planned := do
  check (guard device)
  let identity : Identity ← ask .identity
  check (requireEmmc identity.storage)
  let _ ← requireFullRead
  let st : Store ← ask .sources
  let opened ← check (openImage X st source)
  if opened.1.format = "RAW" then
    let p ← Flash.planRestoreDirect X device "factory-raw" source
    return .raw p
  else
    planFirmware device source identity opened.1 opened.2

section
variable {X : Crates} {device : Device} {source : String} {f : Files}

/-- Saving a plan of `factory` is a move. -/
lemma moves_savePlan {p : FactoryPlan} : Moves Files.Step Files.Grows (savePlan p) f := by
  refine moves_makeDir.seq fun _ _ => moves_present ?_ fun free => ?_
  · rw [if_pos rfl]
    exact moves_observes only_reject
  · rw [if_neg Bool.false_ne_true]
    refine moves_present ?_ fun absent => ?_
    · rw [if_pos rfl]
      exact moves_observes (.bind (only_askAs.mpr trivial) fun _ => .bind only_check fun _ => only_pure)
    · rw [if_neg Bool.false_ne_true]
      exact (moves_saveNew absent free).seq fun _ _ => moves_observes only_pure

/-- The digest of the headers is read. -/
lemma headersDigest_observes {identity} : (headersDigest identity).Only Op.Observes :=
  .bind Archive.headers_observes fun _ => .bind only_check fun _ => .bind only_check fun _ => only_pure

/-- Planning an installation adds at most a new plan. -/
lemma moves_plan : Moves Files.Step Files.Grows (plan X device source) f := by
  refine .seq (moves_observes only_check) fun _ _ => ?_
  refine .seq (moves_observes (only_ask.mpr trivial)) fun _ _ => .seq (moves_observes only_check) fun _ _ => ?_
  refine .seq (moves_observes requireFullRead_observes) fun _ _ => ?_
  refine .seq (moves_observes (only_ask.mpr trivial)) fun _ _ => .seq (moves_observes only_check) fun _ _ => ?_
  split_ifs
  · exact Flash.moves_planInner.seq fun _ _ => moves_observes only_pure
  · refine .seq (moves_observes only_check) fun _ _ => .seq (moves_observes toolBundle_observes) fun _ _ => ?_
    refine .seq (moves_observes only_check) fun _ _ => .seq (moves_observes only_check) fun _ _ => ?_
    refine .seq (moves_observes headersDigest_observes) fun _ _ => ?_
    exact moves_savePlan.seq fun _ _ => moves_observes only_pure

/-- The digest of the headers writes nothing. -/
lemma headersDigest_quiet {identity} : (headersDigest identity).Only Op.Quiet :=
  headersDigest_observes.mono fun _ h => h.quiet

/-- Planning leaves the device alone. -/
lemma plan_quiet : (plan X device source).Only Op.Quiet := by
  refine .bind only_check fun _ => .bind (only_ask.mpr trivial) fun _ => .bind only_check fun _ => ?_
  refine .bind requireFullRead_quiet fun _ => .bind (only_ask.mpr trivial) fun _ => ?_
  refine .bind only_check fun _ => ?_
  split_ifs
  · exact .bind Flash.planInner_quiet fun _ => only_pure
  · refine .bind only_check fun _ => .bind (toolBundle_observes.mono fun _ h => h.quiet) fun _ => ?_
    refine .bind only_check fun _ => .bind only_check fun _ => .bind headersDigest_quiet fun _ => ?_
    refine .bind (.bind (only_askAs.mpr trivial) fun _ => .bind (only_ask.mpr trivial) fun _ => ?_)
      fun _ => only_pure
    split_ifs
    · exact only_reject
    · refine .bind (only_ask.mpr trivial) fun pending => ?_
      split_ifs
      · exact .bind (only_askAs.mpr trivial) fun _ => .bind only_check fun _ => only_pure
      · exact .bind saveNew_quiet fun _ => only_pure

/-- A saved plan. -/
lemma runs_savePlan_ok {p : FactoryPlan} {t id} {f f' : Files}
    (h : Runs (savePlan p) t (.ok id)) (path : Lts.Path Files.Step f t f') :
    id = hashBytes p.json.bytes ∧ f' (.used .factory id) = none ∧
      f' (.plan .factory id) = some p.json.bytes := by
  obtain ⟨made, t1, rfl, h1⟩ := runs_askAs_bind_ok.mp h
  obtain ⟨consumed, t2, rfl, h2⟩ := runs_ask_bind_ok.mp h1
  obtain _ | ⟨_, _ | ⟨⟨rfl, ec⟩, path⟩⟩ := path
  cases consumed with
  | true =>
    rw [if_pos rfl] at h2
    obtain ⟨_, e⟩ := runs_reject.mp h2
    cases e
  | false =>
    rw [if_neg Bool.false_ne_true] at h2
    obtain ⟨pending, t3, rfl, h3⟩ := runs_ask_bind_ok.mp h2
    obtain _ | ⟨⟨rfl, ep⟩, path⟩ := path
    have fresh := Option.isNone_iff_eq_none.mp (Option.isSome_eq_false_iff.mp ec.symm)
    cases pending with
    | true =>
      rw [if_pos rfl] at h3
      -- a plan of this name is there already, and holds the same bytes
      obtain ⟨(b : Bytes), t4, rfl, h4⟩ := runs_askAs_bind_ok.mp h3
      obtain ⟨_, same, h5⟩ := runs_check_bind_ok.mp h4
      obtain ⟨rfl, e⟩ := runs_pure.mp h5
      cases e
      obtain _ | ⟨⟨rfl, there⟩, _ | _⟩ := path
      rw [deny_ok, ne_eq, not_not] at same
      exact ⟨rfl, fresh, same ▸ there⟩
    | false =>
      rw [if_neg Bool.false_ne_true] at h3
      obtain ⟨t4, _, t5, h4, h5, rfl⟩ := runs_bind_ok.mp h3
      obtain ⟨rfl, e⟩ := runs_pure.mp h5
      cases e
      rw [List.append_nil] at path
      obtain ⟨-, rfl⟩ := Flash.runs_saveNew_ok h4 path
      have other : Path.used .factory (hashBytes p.json.bytes) ≠
          .plan .factory (hashBytes p.json.bytes) := nofun
      exact ⟨rfl, (Files.set_other other).trans fresh, Files.set_same⟩

end

end Factory

end K11CHaos.Engine
