import K11CHaos.Engine.Deliver
import K11CHaos.Engine.Planned

/-!
# Executions of accepted plans

What an execution finds after planning, when nothing has changed in between. The checks before the claim
pass (`Planning.ready`) unless the text of the plan is too long to be loaded or the payload of an archive
is damaged; those after the first write pass (`Planning.delivers`) unless the source is not `Fit` for the
disk.
-/

namespace K11CHaos.Engine.Flash

open Prog World

/-- A restored archive has the payload that its metadata announces; planning has not looked at it. -/
def Intact (X : Crates) (st : Store) (op source : String) : Prop :=
  Operation.ofName op = some .restoreArchive →
    ∀ a, Archive.openMetadata X st source = .ok a → Archive.verify X a = .ok ()

/-- With an intact source `build` does the same whether it checks the payload or not. -/
lemma build_intact {X st op source identity current work}
    (h : build X st op source identity current false = .ok work) (intact : Intact X st op source) :
    build X st op source identity current true = .ok work := by
  obtain ⟨w, ha, h1⟩ := bind_ok.mp h
  refine bind_ok.mpr ⟨w, ?_, h1⟩
  unfold buildArm at ha ⊢
  cases ho : Operation.ofName op with
  | none =>
    rw [ho] at ha
    exact ha
  | some o =>
    rw [ho] at ha
    cases o with
    | restoreArchive =>
      obtain ⟨a, opened, h2⟩ := bind_ok.mp ha
      exact bind_ok.mpr ⟨a, bind_ok.mpr ⟨a, opened, bind_ok.mpr ⟨(), intact ho a opened, rfl⟩⟩, h2⟩
    | _ => exact ha

/-- Fewer files are intact if more are. -/
lemma Intact.kept {X op source} {st st' : Store} (k : st.Kept st') (h : Intact X st' op source) :
    Intact X st op source :=
  fun e a opened => h e a (Archive.stable_openMetadata k opened)

/-- Fewer files fit if more do. -/
lemma Fit.kept {X op source identity d} {st st' : Store} (k : st.Kept st')
    (h : Fit X st' op source identity d) : Fit X st op source identity d :=
  ⟨fun e a opened => h.headers e a (Archive.stable_openMetadata k opened),
    fun e i f opened => h.image e i f (Factory.stable_openImage k opened)⟩

/-- A work that checked its source has an intact one. -/
lemma Built.intact {X st op source identity current work o}
    (h : Built X st source identity current true work o) (name : Operation.ofName op = some o) :
    Intact X st op source := by
  intro e a opened
  rw [name] at e
  cases e
  cases h with
  | restoreArchive opened' verified _ =>
    rw [opened] at opened'
    cases opened'
    exact verified rfl

/-- What a cleared plan has seen of the files and the disk. -/
lemma runs_clear_seen {X device id confirmed t who caps} {c : Cleared} {w w' : World}
    (h : Runs (clear X device id confirmed) t (.ok c))
    (path : Lts.Path (World.Step who caps) w t w') :
    w'.files = w.files ∧ ∃ text st, w.files (.plan .flash id) = some text ∧
      text.length ≤ maxPlan ∧ X.parsePlan text = .ok c.plan ∧ st.Kept w.files.store ∧
      build X st c.plan.operation c.plan.source c.identity c.saved true = .ok c.work ∧
      c.saved = bootArea w'.disk c.identity.sectors := by
  have looks := clear_observes.runs h
  obtain ⟨_, pre⟩ := runs_clear_ok h
  obtain ⟨head, tail⟩ := pre.saved (World.path_disk path)
  have files := World.path_files path
  refine ⟨Files.path_observes files looks, ?_⟩
  cases pre with
  | @mk text p who' _ te saved st _ _ _ _ hash parse sound _ _ _ _ _ _ expected built _ _ _ _ _ small =>
    have area : saved = bootArea w'.disk who'.sectors := by
      refine snapshot_eq (Eq.trans ?_ length_readAt.symm) head tail
      cases expected with
      | fingerprint _ cap _ => exact cap.size
      | backup _ hs => exact snapshot_size hs
    rw [← List.cons_append, ← List.cons_append, ← List.cons_append] at files looks
    obtain ⟨f1, f2, p1, ⟨_, sub⟩, _⟩ := files.split
    have same := Files.path_observes p1 fun e he => looks e (List.mem_append_left _ he)
    rw [same] at sub
    cases p1 with
    | cons st1 _ => exact ⟨text, st, st1.2, small, parse, Files.store_kept sub, built, area⟩

section Outcome

variable {X : Crates} {host : Host} {device : Device} {op source id : String} {w w' : World}
  {f : Files} {p : Plan} {work : Work}

/-- A plan that can be loaded again, from an intact source, is cleared. -/
lemma Planning.ready (h : Planning X device op source host.who host.caps w.disk w.files f id p work)
    (disk : w'.disk = w.disk) (sources : w.files.Kept w'.files) (kept : f.Kept w'.files)
    (fresh : w'.files (.journal .flash id) = none) (small : p.json.bytes.length ≤ maxPlan)
    (intact : Intact X w.files.store op source) :
    Ready X host w' device id ⟨p, host.who, bootArea w.disk host.who.sectors, work⟩ where
  stored := kept h.stored
  named := h.named
  bounded := small
  sound := by
    obtain ⟨o, ho, _⟩ := build_built h.built
    refine bind_ok.mpr ⟨(), deny_ok.mpr (not_not.mpr h.format), ?_⟩
    have r := h.recovered
    generalize p.backup = name at r
    generalize p.targetBootSha256 = target at r
    cases r with
    | fingerprint valid =>
      refine deny_ok.mpr ?_
      have hex : hashId (bootArea w.disk host.who.sectors).digest = true :=
        decide_eq_true (hashBytes_hex _)
      rw [h.operation, ho, hex]
      rintro (e | e | ⟨e1, e2⟩)
      · cases e
      · cases e
      · obtain e | e := valid
        · exact e1 e
        · rw [e] at e2
          cases e2
    | legacy hs => exact deny_ok.mpr (snapshot_named hs)
  fresh := fresh
  guarded := h.guarded
  instance' := by rw [h.device]
  location := by rw [h.device]
  identity := rfl
  planned := h.identity
  emmc := h.emmc
  full := h.full
  big := h.big
  undenied := disk ▸ h.undenied
  saved := by rw [disk]
  expected := by
    dsimp only
    have r := h.recovered
    generalize p.backup = name at r
    generalize p.targetBootSha256 = target at r
    cases r with
    | fingerprint => rfl
    | legacy hs => exact stable_snapshot kept.store hs
  built := by
    dsimp only
    rw [h.operation, h.source]
    exact stable_build sources.store (build_intact h.built intact)
  ranges := h.ranges.symm

/-- The checks after the first write pass when the source is fit for the disk. -/
lemma Planning.delivers
    (h : Planning X device op source host.who host.caps w.disk w.files f id p work)
    (intact : Intact X w.files.store op source)
    (fit : Fit X w.files.store op source host.who w.disk) :
    Delivers X host ⟨p, host.who, bootArea w.disk host.who.sectors, work⟩
      (imageOf w.disk work.segments (work.stream X)) := by
  have laid := build_laid h.built
  obtain ⟨o, name, built⟩ := build_built (build_intact h.built intact)
  have leaves := (built.leaves_iff name laid h.big rfl h.undenied).mpr fit
  refine ⟨fun seg hs => ?_, built.supplied, leaves.undenied, leaves.primary, leaves.tail,
    built.frame name rfl h.operation h.ranges leaves⟩
  have hr : seg.range ∈ work.ranges := List.mem_map_of_mem hs
  exact ⟨(laid.sized _ hr).2, laid.inside _ hr⟩

/-- A successful run leaves exactly the disk with the segments of its work on it. -/
lemma Written.image {p : Plan} {work : Work} {sectors : UInt32} {d d' : Disk} {t}
    (h : Written X p work sectors d') (framed : Framed p t d d')
    (supplied : AllSupplied work.segments (work.stream X)) :
    d' = imageOf d work.segments (work.stream X) := by
  have ranges : work.segments.map Segment.range = p.ranges := h.ranges
  have laid : Laid (work.segments.map Segment.range) sectors := ranges ▸ h.laid
  funext x
  by_cases meets : ∃ r ∈ p.ranges, Inside x r.window
  · -- inside a range both disks hold the same byte of its segment
    obtain ⟨r, hr, hx⟩ := meets
    obtain ⟨b, hb⟩ := exists_zip_right hr h.all
    obtain ⟨len, _, stored⟩ := h.stored _ hb
    have here := imageOf_inside (d := d) supplied laid (ranges ▸ hb) hx
    have le : x - r.window.1 < r.bytes := (Nat.sub_lt_iff_lt_add' hx.1).mpr hx.2
    dsimp only at stored here
    rw [← stored, getElem?_readAt, if_pos le, Nat.add_sub_cancel' hx.1] at here
    exact Option.some.inj here
  · have out : ∀ r ∈ p.ranges, ¬ Inside x r.window := fun r hr hx => meets ⟨r, hr, hx⟩
    rw [framed.outside x out, imageOf_outside fun r hr => out r (ranges ▸ hr)]

/-- A successful execution of a plan: its text can be loaded, its source is intact and fit. -/
lemma Planning.of_run {v w''}
    (h : Planning X device op source host.who host.caps w.disk w.files f id p work)
    (disk : w'.disk = w.disk) (sources : w.files.Kept w'.files) (kept : f.Kept w'.files)
    (run : run (exact host) (executeWithGate X device id true) w' = (.ok v, w'')) :
    p.json.bytes.length ≤ maxPlan ∧ Intact X w.files.store op source ∧
      Fit X w.files.store op source host.who w.disk := by
  obtain ⟨t, hr, path⟩ := World.exact_runs run
  obtain ⟨tp, c, hc, ⟨tx, rfl⟩, _, same, written, framed, undenied, _⟩ :=
    runs_written hr (World.path_disk path)
  obtain ⟨w1, p1, _⟩ := path.append_inv
  have looks := clear_observes.runs hc
  have still := path_quiet (World.path_disk p1) fun e he => (looks e he).quiet
  obtain ⟨_, text, st, there, small, parse, sub, built, area⟩ := runs_clear_seen hc p1
  -- the text that was loaded is the one that planning left, so it is the same plan
  rw [kept h.stored] at there
  obtain rfl := Option.some.inj there
  rw [X.parsePlan_bytes] at parse
  obtain rfl := Except.ok.inj parse
  rw [h.operation, h.source, same] at built
  rw [same] at area
  have built := stable_build sub built
  obtain ⟨o, name, arm⟩ := build_built built
  have image := written.image framed arm.supplied
  rw [still, disk] at area
  rw [image] at undenied
  have leaves : Leaves c.work (imageOf w'.disk c.work.segments (c.work.stream X))
      host.who.sectors := by
    refine ⟨?_, ?_, undenied⟩
    · rw [← image, bootArea_primary]
      exact written.primary
    · rw [← image, bootArea_tail]
      exact written.tail
  rw [disk] at leaves
  have fit := (arm.leaves_iff name (build_laid built) h.big area (area ▸ h.undenied)).mp leaves
  exact ⟨small, (arm.intact name).kept sources.store, fit.kept sources.store⟩

/-- What a plan was made from decides its execution. -/
lemma Planning.execution_iff
    (planning : Planning X device op source host.who host.caps w.disk w.files f id p work)
    (disk : w'.disk = w.disk) (sources : w.files.Kept w'.files) (kept : f.Kept w'.files)
    (fresh : w'.files (.journal .flash id) = none) :
    (∃ v w3, run (exact host) (executeWithGate X device id true) w' = (.ok v, w3)) ↔
      p.json.bytes.length ≤ maxPlan ∧ Intact X w.files.store op source ∧
        Fit X w.files.store op source host.who w.disk := by
  refine ⟨?_, ?_⟩
  · rintro ⟨v, w3, run⟩
    exact planning.of_run disk sources kept run
  · rintro ⟨small, intact, fit⟩
    have ready := planning.ready disk sources kept fresh small intact
    have delivers := planning.delivers intact fit
    have image : imageOf w.disk work.segments (work.stream X) =
      imageOf w'.disk work.segments (work.stream X) := by rw [disk]
    rw [image] at delivers
    obtain ⟨v, files, run⟩ := run_executeWithGate ready delivers
    exact ⟨v, _, run⟩

end Outcome

/-- An execution of a plan that planning has just made, on a faithful device with everything else as it
    was, ends with a value exactly when the text of the plan can be loaded again, the payload of a restored
    archive is what its metadata announces, and the source is fit for the disk. -/
theorem planned_execution_ok_iff {X : Crates} {host : Host} {device : Device}
    {op source id : String} {recovery : Recovery} {p : Plan} {firmware : Option String}
    {erases : Bool} {t : List Ev} {w w' w'' : World}
    (planned : Runs (planInner X device op source recovery) t (.ok (.plan id p firmware erases)))
    (path : Lts.Path (World.Step host.who host.caps) w t w')
    (clock : ∀ s, (⟨.stamp, .ok s⟩ : Ev) ∈ t → Archive.Clock s)
    (disk : w''.disk = w'.disk) (sources : w.files.Kept w''.files)
    (kept : w'.files.Kept w''.files) (fresh : w''.files (.journal .flash id) = none) :
    (∃ v w3, run (exact host) (executeWithGate X device id true) w'' = (.ok v, w3)) ↔
      p.json.bytes.length ≤ maxPlan ∧ Intact X w.files.store op source ∧
        Fit X w.files.store op source host.who w.disk := by
  obtain ⟨still, work, planning⟩ := runs_planInner_plan planned path clock
  rw [still] at disk
  exact planning.execution_iff disk sources kept fresh

end K11CHaos.Engine.Flash
